import Mathlib.Tactic.SplitIfs
import RestGateway.Proofs.Text.Split
import RestGateway.Url.Basic

/-!
# Texts of sites

A site is an `http` or `https` URL, told by how it is written: the scheme and a colon, slashes, user
information up to an `@`, a host, a port, and whatever comes after a slash or a mark. The parser
takes a text as such a URL exactly when it is written like this.
-/

set_option autoImplicit false

namespace RestGateway

namespace Url

theorem scheme_iff {text scheme rest : List Char} : scheme? text = some (scheme, rest) ↔
    ∃ c cs, text = c :: cs ++ ':' :: rest ∧ c.isAlpha = true ∧
      (∀ x ∈ c :: cs, isSchemeChar x = true) ∧ scheme = Ascii.lower (c :: cs) := by
  have hcolon : isSchemeChar ':' = false := by decide
  constructor
  · intro h
    unfold scheme? at h
    split at h
    · next c cs tail ht hd =>
      split_ifs at h with ha
      cases h
      obtain ⟨htext, hall, -⟩ := Text.cut_iff.mp ⟨ht, hd⟩
      exact ⟨c, cs, htext, ha, hall, rfl⟩
    · cases h
  · rintro ⟨c, cs, rfl, ha, hall, rfl⟩
    have hend : ∀ x ∈ (':' :: rest).head?, isSchemeChar x = false := by
      rintro x hx
      obtain rfl := Option.mem_some_iff.mp hx
      exact hcolon
    obtain ⟨ht, hd⟩ := Text.cut_iff.mpr ⟨rfl, hall, hend⟩
    simp only [scheme?, ht, hd, if_pos ha]

def endsAuthority (c : Char) : Bool := isSlash true c || c == '?' || c == '#'

/-- What may follow a host: nothing, or a colon and a number of up to sixteen bits, which may be
left out. -/
inductive IsPort : List Char → Prop
  | none : IsPort []
  | digits {ds : List Char} (digit : ∀ d ∈ ds, Ascii.isDigit d = true)
      (range : Ascii.ofDigits 0 ds ≤ 65535) : IsPort (':' :: ds)

theorem IsPort.head {port : List Char} (h : IsPort port) : ∀ c ∈ port.head?, c = ':' := by
  cases h <;> simp

theorem parseSpecial_nil : Host.parseSpecial [] = none := rfl

theorem isSpecialScheme_iff {scheme : List Char} :
    isSpecialScheme scheme = true ↔ scheme = "http".toList ∨ scheme = "https".toList := by
  simp [isSpecialScheme]

theorem isAlpha_of_toLower {c : Char} (h : c.toLower.isLower = true) : c.isAlpha = true := by
  unfold Char.toLower at h
  split at h
  · next hupper => exact Bool.or_eq_true_iff.mpr (.inl (decide_eq_true hupper))
  · exact Bool.or_eq_true_iff.mpr (.inr h)

theorem web_letters {scheme : List Char} (h : isSpecialScheme (Ascii.lower scheme) = true) :
    ∀ c ∈ scheme, c.isAlpha = true := by
  intro c hc
  have hm : c.toLower ∈ Ascii.lower scheme := List.mem_map_of_mem hc
  have hhttp : ∀ d ∈ "http".toList, d.isLower = true := List.all_eq_true.mp rfl
  have hhttps : ∀ d ∈ "https".toList, d.isLower = true := List.all_eq_true.mp rfl
  apply isAlpha_of_toLower
  rcases isSpecialScheme_iff.mp h with h | h
  · exact hhttp _ (h ▸ hm)
  · exact hhttps _ (h ▸ hm)

theorem web_scheme {scheme rest : List Char} (h : isSpecialScheme (Ascii.lower scheme) = true) :
    scheme? (scheme ++ ':' :: rest) = some (Ascii.lower scheme, rest) := by
  have hletters := web_letters h
  cases scheme with
  | nil => cases h
  | cons c cs =>
    refine scheme_iff.mpr ⟨c, cs, rfl, hletters c List.mem_cons_self, ?_, rfl⟩
    intro x hx
    simp [isSchemeChar, Char.isAlphanum, hletters x hx]

theorem endsAuthority_of_isSlash {c : Char} (h : isSlash true c = true) :
    endsAuthority c = true := by
  simp [endsAuthority, h]

end Url

end RestGateway
