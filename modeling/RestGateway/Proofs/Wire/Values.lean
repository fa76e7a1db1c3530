import RestGateway.Backend.Query
import RestGateway.Backend.Reply
import RestGateway.Error
import RestGateway.Proofs.Json.Contents

/-!
# Values that the wire types have

Integers of the backend are words, a status has 16 bits, and the values and objects that callers or
the backend fill in freely are as if read from a text. Everything that a decoder gives is of this
kind.
-/

set_option autoImplicit false

namespace RestGateway

def Word.holds (n : Int) : Bool := least ≤ n && n ≤ greatest

theorem Word.holds_fits {n : Int} (h : holds n = true) : (Number.int n).fits = true := by
  simp only [holds, Bool.and_eq_true, decide_eq_true_eq] at h
  have hg : greatest < (UInt64.size : Int) := by decide
  rw [Number.fits_int]
  omega

def Condition.isProper (c : Condition) : Bool := c.values.all Json.isProper

def Filter.isProper (f : Filter) : Bool := f.conditions.all Condition.isProper

def Paging.isProper (p : Paging) : Bool := Word.holds p.page && Word.holds p.pageSize

def EntityPage.isProper (p : EntityPage) : Bool :=
  p.entities.all (fun e => (Json.object e).isProper) &&
    p.pagingInfo.all fun info => (Json.object info).isProper

namespace SummaryGroup

mutual

def isProper : SummaryGroup → Bool
  | ⟨value, name, summaries, groups⟩ =>
    value.isProper && name.isProper && (Json.object summaries).isProper && areProper groups

def areProper : List SummaryGroup → Bool
  | [] => true
  | g :: gs => g.isProper && areProper gs

end

theorem areProper_iff (groups : List SummaryGroup) :
    areProper groups = true ↔ ∀ g ∈ groups, g.isProper = true := by
  induction groups with
  | nil => simp [areProper]
  | cons g gs ih => simp [areProper, ih]

end SummaryGroup

def SummaryResults.isProper (r : SummaryResults) : Bool :=
  (Json.object r.summaries).isProper && r.groups.all SummaryGroup.isProper

def ErrorBody.isProper (b : ErrorBody) : Bool := b.status < UInt16.size

end RestGateway
