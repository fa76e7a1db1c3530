import RestGateway.Unicode.Direction
import RestGateway.Unicode.Mapping
import RestGateway.Url.Punycode

/-!
# Domains in ASCII

Domains are processed as UTS #46 says and as the URL standard asks for: characters are replaced by
what they stand for, the text is composed and cut into labels, labels in Punycode are decoded, and
every label is checked, also for its joiners and directions. Labels beyond ASCII are then written in
Punycode. Hyphens may stand anywhere, and neither labels nor domains are limited in length.
-/

set_option autoImplicit false

namespace RestGateway.Url

/-- ASCII characters that no domain holds. -/
def isForbidden (c : Char) : Bool :=
  c.toNat ≤ 0x20 || c.toNat == 0x7F ||
    ['#', '%', '/', ':', '<', '>', '?', '@', '[', '\\', ']', '^', '|'].contains c

def isAscii (cs : List Char) : Bool := cs.all fun c => c.toNat < 0x80

def marked? : List Char → Option (List Char)
  | 'x' :: 'n' :: '-' :: '-' :: code => some code
  | _ => none

def isLabel (label : List Char) : Bool :=
  (marked? label).isNone && label.all (fun c => c != '.' && Unicode.isHeld c) &&
    Unicode.composed label == label && !label.head?.any Unicode.isMark &&
    Unicode.joinersFit [] label

/-- The label that a part of a domain stands for. Punycode is for labels beyond ASCII only. -/
def label? (part : List Char) : Option (List Char) :=
  match marked? part with
  | none => (some part).filter isLabel
  | some code =>
    (Punycode.decode? code).filter fun label => isAscii code && isLabel label && !isAscii label

def labelText (label : List Char) : List Char :=
  if isAscii label then label else "xn--".toList ++ Punycode.encode label

def toAscii? (domain : List Char) : Option (List Char) := do
  let text := Unicode.composed (domain.flatMap Unicode.mapping)
  let labels ← (Text.splitOn '.' text).mapM label?
  let ascii := ['.'].intercalate (labels.map labelText)
  if Unicode.directionsFit labels ∧ ¬ascii.any isForbidden then some ascii else none

end RestGateway.Url
