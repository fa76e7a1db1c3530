import Mathlib.Algebra.Group.Nat.Defs
import RestGateway.Backend.Cache
import RestGateway.Proofs.Text.Utf8

/-!
# What cache keys are made of

The lengths before the parts of the material tell where each part ends, so different callers have
different material. A key is the material's digest in hexadecimal, which loses nothing of the
digest.
-/

set_option autoImplicit false

namespace RestGateway

theorem Blake3.littleEndian_length (count n : Nat) : (Blake3.littleEndian count n).length = count := by
  induction count generalizing n with
  | zero => rfl
  | succ count ih => simp [Blake3.littleEndian, ih]

theorem Blake3.littleEndian_inj (count m n : Nat) (hm : m < 256 ^ count) (hn : n < 256 ^ count)
    (h : Blake3.littleEndian count m = Blake3.littleEndian count n) : m = n := by
  induction count generalizing m n with
  | zero => omega
  | succ count ih =>
    simp only [Blake3.littleEndian, List.cons.injEq] at h
    have hlow := congrArg UInt8.toNat h.1
    rw [UInt8.toNat_ofNat', UInt8.toNat_ofNat'] at hlow
    rw [Nat.pow_succ] at hm hn
    have hhigh := ih (m / 256) (n / 256) (by omega) (by omega) h.2
    omega

namespace CacheKey

/-- Texts of a running program are shorter than this. -/
def Fits (s : String) : Prop := (Utf8.bytes s).length < 2 ^ 64

instance (s : String) : Decidable (Fits s) := inferInstanceAs (Decidable (_ < _))

theorem part_append_inj {s t : String} {a b : List UInt8} (hs : Fits s) (ht : Fits t)
    (h : part s ++ a = part t ++ b) : s = t ∧ a = b := by
  simp only [part, List.append_assoc] at h
  have hl := Blake3.littleEndian_length 8
  obtain ⟨hsize, hrest⟩ := List.append_inj h (by rw [hl, hl])
  have hlen := Blake3.littleEndian_inj 8 _ _ hs ht hsize
  obtain ⟨hbytes, hab⟩ := List.append_inj hrest hlen
  exact ⟨Utf8.bytes_inj hbytes, hab⟩

theorem kind_fits (c : Credentials) : Fits (kind c) := by
  cases c with
  | script => exact (by decide : Fits "script")
  | user => exact (by decide : Fits "user")

theorem kind_inj {c d : Credentials} (h : kind c = kind d) : c.isUser = d.isUser := by
  have hne : "user" ≠ "script" := by decide
  unfold kind at h
  split_ifs at h with hc hd hd
  · rw [hc, hd]
  · exact absurd h hne
  · exact absurd h.symm hne
  · rw [Bool.not_eq_true] at hc hd
    rw [hc, hd]

theorem credentials_ext {c d : Credentials} (hu : c.isUser = d.isUser) (hn : c.name = d.name)
    (hs : c.secret = d.secret) : c = d := by
  cases c <;> cases d <;> simp_all [Credentials.isUser, Credentials.name, Credentials.secret]

def Holds (c : Credentials) : Prop := Fits c.name ∧ Fits c.secret

instance (c : Credentials) : Decidable (Holds c) := inferInstanceAs (Decidable (_ ∧ _))

/-- Behind the host a caller's parts tell the caller and where they end. -/
theorem caller_append_inj {c d : Credentials} {a b : List UInt8} (hc : Holds c) (hd : Holds d)
    (h : part (kind c) ++ (part c.name ++ (part c.secret ++ a)) =
      part (kind d) ++ (part d.name ++ (part d.secret ++ b))) : c = d ∧ a = b := by
  obtain ⟨hkind, h⟩ := part_append_inj (kind_fits c) (kind_fits d) h
  obtain ⟨hname, h⟩ := part_append_inj hc.1 hd.1 h
  obtain ⟨hsecret, hab⟩ := part_append_inj hc.2 hd.2 h
  exact ⟨credentials_ext (kind_inj hkind) hname hsecret, hab⟩

theorem material_inj {host : String} {c d : Credentials} (hc : Holds c) (hd : Holds d)
    (h : material host c = material host d) : c = d := by
  simp only [material, List.append_assoc] at h
  have h := List.append_cancel_left h
  rw [← List.append_nil (part c.secret), ← List.append_nil (part d.secret)] at h
  exact (caller_append_inj hc hd h).1

theorem material_append_inj {host other : String} {c d : Credentials} {a b : List UInt8}
    (hh : Fits host) (ho : Fits other) (hc : Holds c) (hd : Holds d)
    (h : material host c ++ a = material other d ++ b) : host = other ∧ c = d ∧ a = b := by
  simp only [material, List.append_assoc] at h
  obtain ⟨hhost, h⟩ := part_append_inj hh ho h
  exact ⟨hhost, caller_append_inj hc hd h⟩

/-- Material is unambiguous. Equal material comes from the same host, kind, name and secret, and
none is the beginning of other material. -/
theorem material_tells {host other : String} {c d : Credentials} (hh : Fits host) (ho : Fits other)
    (hc : Holds c) (hd : Holds d) :
    (material host c = material other d ↔
      host = other ∧ c.isUser = d.isUser ∧ c.name = d.name ∧ c.secret = d.secret) ∧
    (material host c <+: material other d → material host c = material other d) := by
  refine ⟨⟨fun h => ?_, ?_⟩, ?_⟩
  · obtain ⟨hhost, rfl, -⟩ := material_append_inj hh ho hc hd (congrArg (· ++ []) h)
    exact ⟨hhost, rfl, rfl, rfl⟩
  · rintro ⟨rfl, hu, hn, hs⟩
    rw [credentials_ext hu hn hs]
  · rintro ⟨more, h⟩
    rw [← List.append_nil (material other d)] at h
    obtain ⟨rfl, rfl, -⟩ := material_append_inj hh ho hc hd h
    rfl

theorem material_tells_shifted :
    let shifted : Credentials := .script "n\x01\x00\x00\x00\x00\x00\x00\x00k" ""
    Fits "http://a" ∧ Holds shifted ∧ Holds (.script "n" "k") ∧
      material "http://a" shifted ≠ material "http://a" (.script "n" "k") := by
  intro shifted
  have hh : Fits "http://a" := by decide
  have hs : Holds shifted := by decide
  have hk : Holds (.script "n" "k") := by decide
  refine ⟨hh, hs, hk, fun h => ?_⟩
  obtain ⟨-, -, hname, -⟩ := (material_tells hh hh hs hk).1.mp h
  exact absurd hname (by decide)

theorem hex_pair : ∀ n < 256,
    Ascii.digits 16 2 n = [Nat.digitChar (n / 16), Nat.digitChar (n % 16)] := by
  decide +kernel

theorem digitChar_inj : ∀ m < 16, ∀ n < 16, Nat.digitChar m = Nat.digitChar n → m = n := by decide

theorem hex_inj (a b : List UInt8) (h : (a.flatMap fun x => Ascii.digits 16 2 x.toNat) =
    b.flatMap fun x => Ascii.digits 16 2 x.toNat) : a = b := by
  have hp (x : UInt8) := hex_pair x.toNat x.toNat_lt
  induction a generalizing b with
  | nil =>
    cases b with
    | nil => rfl
    | cons y b => simp [hp] at h
  | cons x a ih =>
    cases b with
    | nil => simp [hp] at h
    | cons y b =>
      have hx := x.toNat_lt
      have hy := y.toNat_lt
      simp only [List.flatMap_cons, hp, List.cons_append, List.nil_append, List.cons.injEq] at h
      obtain ⟨hhigh, hlow, hrest⟩ := h
      have h1 := digitChar_inj _ (by omega) _ (by omega) hhigh
      have h2 := digitChar_inj _ (by omega) _ (by omega) hlow
      have hxy : x.toNat = y.toNat := by omega
      rw [UInt8.toNat_inj.mp hxy, ih b (by simpa [hp] using hrest)]

theorem make_digest {host : String} {c d : Credentials} (h : make host c = make host d) :
    Blake3.hash (material host c) = Blake3.hash (material host d) :=
  hex_inj _ _ (String.ofList_inj.mp h)

end CacheKey

end RestGateway
