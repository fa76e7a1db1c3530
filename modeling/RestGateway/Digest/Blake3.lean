/-!
# The BLAKE3 digest

Hashing without a key, with 32 bytes of output. The input is cut into chunks of 1024 bytes, a chunk
into blocks of 64 bytes; chunks are joined in pairs, largest complete subtrees to the left.
-/

set_option autoImplicit false

namespace RestGateway.Blake3

abbrev Word := UInt32

abbrev Chain := Vector Word 8

abbrev Block := Vector Word 16

def start : Chain :=
  #v[0x6A09E667, 0xBB67AE85, 0x3C6EF372, 0xA54FF53A, 0x510E527F, 0x9B05688C, 0x1F83D9AB, 0x5BE0CD19]

def order : Vector (Fin 16) 16 :=
  #v[2, 6, 3, 10, 7, 0, 4, 13, 1, 11, 12, 5, 9, 14, 15, 8]

def permute (m : Block) : Block := Vector.ofFn fun i => m[order[i]]

def rotate (x n : Word) : Word := (x >>> n) ||| (x <<< (32 - n))

def mix (v : Block) (a b c d : Fin 16) (x y : Word) : Block :=
  let va := v[a] + v[b] + x
  let vd := rotate (v[d] ^^^ va) 16
  let vc := v[c] + vd
  let vb := rotate (v[b] ^^^ vc) 12
  let va := va + vb + y
  let vd := rotate (vd ^^^ va) 8
  let vc := vc + vd
  let vb := rotate (vb ^^^ vc) 7
  (((v.set a va).set b vb).set c vc).set d vd

def round (v m : Block) : Block :=
  let v := mix v 0 4 8 12 m[0] m[1]
  let v := mix v 1 5 9 13 m[2] m[3]
  let v := mix v 2 6 10 14 m[4] m[5]
  let v := mix v 3 7 11 15 m[6] m[7]
  let v := mix v 0 5 10 15 m[8] m[9]
  let v := mix v 1 6 11 12 m[10] m[11]
  let v := mix v 2 7 8 13 m[12] m[13]
  mix v 3 4 9 14 m[14] m[15]

def rounds : Nat → Block → Block → Block
  | 0, v, _ => v
  | n + 1, v, m => rounds n (round v m) (permute m)

structure Input where
  block : Block
  counter : UInt64
  size : Word
  flags : Word

def compress (h : Chain) (i : Input) : Chain :=
  let low := i.counter.toUInt32
  let high := (i.counter >>> 32).toUInt32
  let v : Block := #v[h[0], h[1], h[2], h[3], h[4], h[5], h[6], h[7],
    start[0], start[1], start[2], start[3], low, high, i.size, i.flags]
  let v := rounds 7 v i.block
  Vector.ofFn fun k : Fin 8 =>
    have := k.isLt
    v[k.val] ^^^ v[k.val + 8]

def firstBlock : Word := 1
def lastBlock : Word := 2
def parentNode : Word := 4
def rootNode : Word := 8

/-- The little-endian word at the front of a byte list, zeros standing for missing bytes. -/
def word (bs : List UInt8) : Word :=
  (bs.take 4).foldr (fun b n => n <<< 8 ||| b.toUInt32) 0

def block (bs : List UInt8) : Block := Vector.ofFn fun i => word (bs.drop (4 * i.val))

def parts (n : Nat) : Nat → List UInt8 → List (List UInt8)
  | 0, bs => [bs]
  | fuel + 1, bs =>
    if bs.length ≤ n then [bs] else bs.take n :: parts n fuel (bs.drop n)

/-- A compression still to be made, so that it can be marked as the root. -/
structure Node where
  chain : Chain
  input : Input

def Node.value (n : Node) : Chain := compress n.chain n.input

def Node.root (n : Node) : Chain :=
  compress n.chain { n.input with flags := n.input.flags ||| rootNode }

def blocksNode (counter : UInt64) (h : Chain) (flags : Word) : List (List UInt8) → Node
  | [] => ⟨h, ⟨block [], counter, 0, flags ||| lastBlock⟩⟩
  | [b] => ⟨h, ⟨block b, counter, UInt32.ofNat b.length, flags ||| lastBlock⟩⟩
  | b :: rest => blocksNode counter (compress h ⟨block b, counter, 64, flags⟩) 0 rest

def chunkNode (counter : Nat) (chunk : List UInt8) : Node :=
  blocksNode (UInt64.ofNat counter) start firstBlock (parts 64 16 chunk)

def joinNode (left right : Chain) : Node :=
  ⟨start, ⟨left ++ right, 0, 64, parentNode⟩⟩

/-- Puts the value of a complete subtree on the stack, after joining it with all subtrees of its
size; `count` is the number of subtrees of that size so far. -/
def push (count : Nat) (value : Chain) : List Chain → List Chain
  | [] => [value]
  | left :: rest =>
    if count % 2 = 0 then push (count / 2) (joinNode left value).value rest
    else value :: left :: rest

def tree (stack : List Chain) (counter : Nat) : List (List UInt8) → Node
  | [] => chunkNode counter []
  | [last] => stack.foldl (fun right left => joinNode left right.value) (chunkNode counter last)
  | c :: rest =>
    tree (push (counter + 1) (chunkNode counter c).value stack) (counter + 1) rest

def littleEndian : Nat → Nat → List UInt8
  | 0, _ => []
  | count + 1, n => UInt8.ofNat n :: littleEndian count (n / 256)

def hash (bs : List UInt8) : List UInt8 :=
  (tree [] 0 (parts 1024 bs.length bs)).root.toList.flatMap fun w => littleEndian 4 w.toNat

end RestGateway.Blake3
