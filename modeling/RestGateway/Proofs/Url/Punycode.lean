import Mathlib.Data.List.Basic
import Mathlib.Data.List.TakeWhile
import Mathlib.Tactic.Common
import Mathlib.Tactic.Ring
import Mathlib.Tactic.SplitIfs
import RestGateway.Proofs.Text.Split
import RestGateway.Url.Punycode

/-!
# Punycode is read back

While the encoder passes over a label, the decoder can follow it: what it has inserted so far are the
characters handled in earlier rounds and those of this round that have been passed. The encoder's
delta is the way that the decoder has to go on from its last insertion to the character passed next.
-/

set_option autoImplicit false

namespace RestGateway.Punycode

def IsDigit (c : Char) : Prop := ∃ n < 36, c = digit n

theorem value_digit {n : Nat} (h : n < 36) : value? (digit n) = some n := by
  have hall : ∀ m < 36, value? (digit m) = some m := by decide
  exact hall n h

theorem IsDigit.plain {c : Char} (h : IsDigit c) :
    c.toNat < 0x80 ∧ c.toLower = c ∧ c ≠ '-' ∧ c ≠ '.' := by
  obtain ⟨n, hn, rfl⟩ := h
  have hall : ∀ m < 36, (digit m).toNat < 0x80 ∧ (digit m).toLower = digit m ∧ digit m ≠ '-' ∧
      digit m ≠ '.' := by decide
  exact hall n hn

theorem threshold_bounds (k bias : Nat) : 1 ≤ threshold k bias ∧ threshold k bias ≤ 26 := by
  unfold threshold
  split_ifs <;> omega

theorem quotient_lt {q t : Nat} (ht : 1 ≤ t) (hq : t ≤ q) : (q - t) / (36 - t) < q :=
  calc (q - t) / (36 - t) ≤ q - t := Nat.div_le_self _ _
    _ < q := by omega

theorem encodeNumber_digits {bias fuel k q : Nat} :
    ∀ c ∈ encodeNumber bias fuel k q, IsDigit c := by
  induction fuel generalizing k q with
  | zero => exact fun c hc => absurd hc List.not_mem_nil
  | succ fuel ih =>
    obtain ⟨ht, ht'⟩ := threshold_bounds k bias
    intro c hc
    simp only [encodeNumber] at hc
    split_ifs at hc with hq
    · obtain rfl := List.mem_singleton.mp hc
      exact ⟨q, by omega, rfl⟩
    · rcases List.mem_cons.mp hc with rfl | hc
      · have hmod := Nat.mod_lt (q - threshold k bias) (show 0 < 36 - threshold k bias by omega)
        exact ⟨_, by omega, rfl⟩
      · exact ih c hc

theorem decodeNumber_digit {bias k weight i d : Nat} {rest : List Char} (hd : d < 36) :
    decodeNumber bias k weight i (digit d :: rest) =
      if d < threshold k bias then some (i + d * weight, rest)
      else decodeNumber bias (k + 36) (weight * (36 - threshold k bias)) (i + d * weight) rest := by
  simp [decodeNumber, value_digit hd]

theorem decodeNumber_encodeNumber (bias : Nat) (rest : List Char) {fuel k weight i q : Nat}
    (h : q < fuel) : decodeNumber bias k weight i (encodeNumber bias fuel k q ++ rest) =
      some (i + q * weight, rest) := by
  induction fuel generalizing k weight i q with
  | zero => omega
  | succ fuel ih =>
    obtain ⟨ht, ht'⟩ := threshold_bounds k bias
    simp only [encodeNumber]
    split_ifs with hq
    · rw [List.singleton_append, decodeNumber_digit (by omega), if_pos hq]
    · have hq := Nat.le_of_not_lt hq
      have hlt := quotient_lt ht hq
      have hmod := Nat.mod_lt (q - threshold k bias) (show 0 < 36 - threshold k bias by omega)
      rw [List.cons_append, decodeNumber_digit (by omega), if_neg (by omega), ih (by omega)]
      generalize threshold k bias = t at ht ht' hq
      have hsum : t + (q - t) % (36 - t) + (36 - t) * ((q - t) / (36 - t)) = q := by
        have := Nat.mod_add_div (q - t) (36 - t)
        omega
      have hvalue : (t + (q - t) % (36 - t)) * weight + (q - t) / (36 - t) * (weight * (36 - t)) =
          q * weight := by
        calc (t + (q - t) % (36 - t)) * weight + (q - t) / (36 - t) * (weight * (36 - t))
            = (t + (q - t) % (36 - t) + (36 - t) * ((q - t) / (36 - t))) * weight := by ring
          _ = q * weight := by rw [hsum]
      rw [Nat.add_assoc, hvalue]

/-- Where a decoder stands: the character and the place of its last insertion, its bias and the label
so far. -/
structure Decoder where
  last : Nat
  place : Nat
  bias : Nat
  label : List Char

def Decoder.run (d : Decoder) (fuel : Nat) (text : List Char) : Option (List Char) :=
  decodeLoop fuel d.last d.place d.bias d.label text

/-- Over `text` the decoder gets from `d` to `e`, whatever text follows. -/
def Reaches (d : Decoder) (text : List Char) (e : Decoder) : Prop :=
  ∀ rest fuel, (text ++ rest).length ≤ fuel →
    ∃ left, rest.length ≤ left ∧ d.run fuel (text ++ rest) = e.run left rest

theorem reaches_nil (d : Decoder) : Reaches d [] d :=
  fun _ fuel h => ⟨fuel, h, rfl⟩

theorem Reaches.append {d e f : Decoder} {a b : List Char} (h : Reaches d a e)
    (h' : Reaches e b f) : Reaches d (a ++ b) f := by
  intro rest fuel hfuel
  rw [List.append_assoc] at hfuel ⊢
  obtain ⟨left, hleft, hrun⟩ := h (b ++ rest) fuel hfuel
  obtain ⟨last, hlast, hrun'⟩ := h' rest left hleft
  exact ⟨last, hlast, hrun.trans hrun'⟩

theorem encodeNumber_ne_nil (bias fuel k q : Nat) : encodeNumber bias (fuel + 1) k q ≠ [] := by
  simp only [encodeNumber]
  split_ifs <;> simp

def Decoder.inserted (d : Decoder) (delta place : Nat) (c : Char) : Decoder where
  last := c.toNat
  place := place + 1
  bias := adapt delta (d.label.length + 1) (d.place == 0 && d.last == 0x80)
  label := d.label.take place ++ c :: d.label.drop place

theorem number_leads {count delta start m n place : Nat} (hplace : place < count) (hle : m ≤ n)
    (h : delta + start = (n - m) * count + place) :
    (start + delta) % count = place ∧ m + (start + delta) / count = n := by
  have hcount : 0 < count := by omega
  have hdiv : ((n - m) * count + place) / count = n - m := by
    rw [Nat.add_comm, Nat.add_mul_div_right _ _ hcount, Nat.div_eq_of_lt hplace, Nat.zero_add]
  rw [Nat.add_comm start, h, Nat.mul_add_mod', Nat.mod_eq_of_lt hplace, hdiv]
  omega

theorem reaches_inserted {d : Decoder} {delta place : Nat} {c : Char}
    (hlast : d.last ≤ c.toNat) (hplace : place ≤ d.label.length)
    (h : delta + d.place = (c.toNat - d.last) * (d.label.length + 1) + place) :
    Reaches d (encodeNumber d.bias (delta + 1) 36 delta) (d.inserted delta place c) := by
  intro rest fuel hfuel
  have hnumber : decodeNumber d.bias 36 1 d.place
      (encodeNumber d.bias (delta + 1) 36 delta ++ rest) = some (d.place + delta * 1, rest) :=
    decodeNumber_encodeNumber d.bias rest (Nat.lt_succ_self delta)
  rw [Nat.mul_one] at hnumber
  obtain ⟨hmod, hdiv⟩ := number_leads (Nat.lt_add_one_of_le hplace) hlast h
  have hvalid := c.valid
  obtain ⟨x, xs, hx⟩ := List.exists_cons_of_ne_nil (encodeNumber_ne_nil d.bias delta 36 delta)
  rw [hx, List.cons_append] at hfuel hnumber ⊢
  cases fuel with
  | zero => cases hfuel
  | succ fuel =>
    refine ⟨fuel, ?_, ?_⟩
    · simp only [List.length_cons, List.length_append] at hfuel
      omega
    · have hchar : ¬((0xD800 ≤ c.toNat ∧ c.toNat ≤ 0xDFFF) ∨ 0x10FFFF < c.toNat) := by
        rcases hvalid with hv | hv
        · change c.toNat < 0xD800 at hv
          omega
        · change 0xDFFF < c.toNat ∧ c.toNat < 0x110000 at hv
          omega
      have hfirst : (c.toNat == 0x80 + (d.place + delta) / (d.label.length + 1)) =
          (d.last == 0x80) := by
        rw [Bool.eq_iff_iff, beq_iff_eq, beq_iff_eq]
        omega
      simp only [Decoder.run, decodeLoop, hnumber, Option.bind_eq_bind, Option.bind_some, hdiv, hmod,
        if_neg hchar, Nat.add_sub_cancel_left]
      rw [Char.ofNat_toNat, hfirst]
      rfl

def below (n : Nat) (cs : List Char) : List Char := cs.filter fun c => c.toNat < n

theorem below_append (n : Nat) (a b : List Char) : below n (a ++ b) = below n a ++ below n b :=
  List.filter_append ..

theorem below_pos {n : Nat} {c : Char} {cs : List Char} (h : c.toNat < n) :
    below n (c :: cs) = c :: below n cs := by
  simp [below, h]

theorem below_neg {n : Nat} {c : Char} {cs : List Char} (h : n ≤ c.toNat) :
    below n (c :: cs) = below n cs := by
  simp [below, h]

theorem below_congr {m n : Nat} {cs : List Char} (h : ∀ c ∈ cs, c.toNat < m ↔ c.toNat < n) :
    below m cs = below n cs :=
  List.filter_congr fun c hc => by rw [decide_eq_decide]; exact h c hc

/-- The encoder of a label with the ASCII characters `basic` has written digits behind `front` and,
in the round of `m`, has passed over `passed` with `later` still to come; the decoder that has read
these digits stands at `d`. -/
structure Follows (front basic : List Char) (m : Nat) (passed later : List Char) (e : Encoder)
    (d : Decoder) : Prop where
  read : ∃ out, e.output = front ++ out ∧ (∀ c ∈ out, IsDigit c) ∧
    Reaches ⟨0x80, 0, 72, basic⟩ out d
  bias : d.bias = e.bias
  label : d.label = below (m + 1) passed ++ below m later
  handled : e.handled = d.label.length
  started : basic.length ≤ e.handled
  last : d.last ≤ m
  delta : e.delta + d.place =
    (m - d.last) * (d.label.length + 1) + (below (m + 1) passed).length
  first : (d.place == 0 && d.last == 0x80) = (e.handled == basic.length)

variable {front basic passed later : List Char} {m : Nat} {e : Encoder} {d : Decoder} {c : Char}

theorem Follows.older (h : Follows front basic m passed (c :: later) e d) (hc : c.toNat < m) :
    Follows front basic m (passed ++ [c]) later { e with delta := e.delta + 1 } d where
  read := h.read
  bias := h.bias
  label := by
    rw [h.label, below_append, below_pos hc, below_pos (by omega)]
    simp [below]
  handled := h.handled
  started := h.started
  last := h.last
  delta := by
    have := h.delta
    rw [below_append, below_pos (by omega)]
    simp only [List.length_append, List.length_cons, below, List.filter_nil, List.length_nil]
    simp only [below] at this
    omega
  first := h.first

theorem Follows.newer (h : Follows front basic m passed (c :: later) e d) (hc : m < c.toNat) :
    Follows front basic m (passed ++ [c]) later e d where
  read := h.read
  bias := h.bias
  label := by
    rw [h.label, below_append, below_neg (by omega), below_neg (by omega)]
    simp [below]
  handled := h.handled
  started := h.started
  last := h.last
  delta := by
    rw [h.delta, below_append, below_neg (by omega)]
    simp [below]
  first := h.first

theorem Follows.due (h : Follows front basic c.toNat passed (c :: later) e d) :
    Follows front basic c.toNat (passed ++ [c]) later
      { e with
        output := e.output ++ encodeNumber e.bias (e.delta + 1) 36 e.delta
        bias := adapt e.delta (e.handled + 1) (e.handled == basic.length)
        delta := 0
        handled := e.handled + 1 }
      (d.inserted e.delta (below (c.toNat + 1) passed).length c) := by
  have hlabel := h.label
  rw [below_neg (Nat.le_refl _)] at hlabel
  have hpassed : below (c.toNat + 1) (passed ++ [c]) = below (c.toNat + 1) passed ++ [c] := by
    rw [below_append, below_pos (Nat.lt_succ_self _)]
    rfl
  have hplace : (below (c.toNat + 1) passed).length ≤ d.label.length := by
    rw [hlabel, List.length_append]
    omega
  have hinserted : (d.inserted e.delta (below (c.toNat + 1) passed).length c).label =
      below (c.toNat + 1) (passed ++ [c]) ++ below c.toNat later := by
    rw [Decoder.inserted, hlabel, List.take_left, List.drop_left, hpassed]
    simp
  constructor
  case read =>
    obtain ⟨out, hout, hdigits, hreach⟩ := h.read
    refine ⟨out ++ encodeNumber e.bias (e.delta + 1) 36 e.delta, ?_, ?_, ?_⟩
    · rw [hout, List.append_assoc]
    · intro x hx
      rcases List.mem_append.mp hx with hx | hx
      · exact hdigits x hx
      · exact encodeNumber_digits x hx
    · rw [← h.bias]
      exact hreach.append (reaches_inserted h.last hplace h.delta)
  case bias => simp only [Decoder.inserted, h.first, ← h.handled]
  case label => exact hinserted
  case handled =>
    rw [hinserted, hpassed, h.handled, hlabel]
    simp only [List.length_append, List.length_cons, List.length_nil]
    omega
  case started => exact Nat.le_succ_of_le h.started
  case last => exact Nat.le_refl _
  case delta =>
    rw [hpassed]
    simp [Decoder.inserted]
  case first =>
    have := h.started
    simp only [Decoder.inserted]
    rw [Bool.eq_iff_iff]
    simp
    omega

/-- Wherever the encoder passes over a character, the decoder can follow it. -/
theorem Follows.step (h : Follows front basic m passed (c :: later) e d) :
    ∃ d', Follows front basic m (passed ++ [c]) later (e.step basic.length m c) d' := by
  unfold Encoder.step
  split_ifs with hlt heq
  · exact ⟨d, h.older hlt⟩
  · subst heq
    exact ⟨_, h.due⟩
  · exact ⟨d, h.newer (by omega)⟩

theorem Follows.steps (h : Follows front basic m passed later e d) :
    ∃ d', Follows front basic m (passed ++ later) []
      (later.foldl (Encoder.step basic.length m) e) d' := by
  induction later generalizing passed e d with
  | nil => exact ⟨d, by simpa using h⟩
  | cons c later ih =>
    obtain ⟨d', h'⟩ := h.step
    obtain ⟨d'', h''⟩ := ih h'
    exact ⟨d'', by simpa using h''⟩

/-- Between two rounds: all characters before `e.next` have been handled. -/
def Settled (front basic label : List Char) (e : Encoder) : Prop :=
  ∃ d, Follows front basic e.next [] label e d

theorem Follows.skip {label : List Char} (h : Follows front basic e.next [] label e d)
    (hm : e.next ≤ m) (hnone : ∀ c ∈ label, e.next ≤ c.toNat → m ≤ c.toNat) :
    Follows front basic m [] label
      { e with delta := e.delta + (m - e.next) * (e.handled + 1), next := m } d where
  read := h.read
  bias := h.bias
  label := by
    rw [h.label]
    refine congrArg _ (below_congr fun c hc => ?_)
    have := hnone c hc
    omega
  handled := h.handled
  started := h.started
  last := Nat.le_trans h.last hm
  delta := by
    have hdelta := h.delta
    have hlast := h.last
    obtain ⟨k, rfl⟩ := Nat.exists_eq_add_of_le hm
    obtain ⟨j, hj⟩ := Nat.exists_eq_add_of_le hlast
    rw [hj] at hdelta ⊢
    simp only [below, List.filter_nil, List.length_nil, Nat.add_zero, h.handled,
      Nat.add_sub_cancel_left] at hdelta ⊢
    rw [show d.last + j + k - d.last = j + k by omega, Nat.add_mul]
    omega
  first := h.first

theorem step_next (basic m : Nat) (e : Encoder) (c : Char) : (e.step basic m c).next = e.next := by
  unfold Encoder.step
  split_ifs <;> rfl

theorem steps_next (basic m : Nat) (e : Encoder) (cs : List Char) :
    (cs.foldl (Encoder.step basic m) e).next = e.next := by
  induction cs generalizing e with
  | nil => rfl
  | cons c cs ih => rw [List.foldl_cons, ih, step_next]

theorem round_next (basic m : Nat) (label : List Char) (e : Encoder) :
    (encodeRound basic label m e).next = m + 1 := by
  simp only [encodeRound, steps_next]

theorem Settled.round {label : List Char} (h : Settled front basic label e) (hm : e.next ≤ m)
    (hnone : ∀ c ∈ label, e.next ≤ c.toNat → m ≤ c.toNat) :
    Settled front basic label (encodeRound basic.length label m e) := by
  obtain ⟨d, h⟩ := h
  obtain ⟨d', h'⟩ := (h.skip hm hnone).steps
  rw [List.nil_append] at h'
  refine ⟨d', ?_⟩
  rw [round_next]
  constructor
  case read => exact h'.read
  case bias => exact h'.bias
  case label => simpa [below] using h'.label
  case handled => exact h'.handled
  case started => exact h'.started
  case last => exact Nat.le_succ_of_le h'.last
  case delta =>
    have hdelta := h'.delta
    have hlast := h'.last
    have hlabel : d'.label.length = (below (m + 1) label).length := by
      rw [h'.label]
      simp [below]
    obtain ⟨k, rfl⟩ := Nat.exists_eq_add_of_le hlast
    simp only [encodeRound, below, List.filter_nil, List.length_nil, Nat.add_zero] at hdelta hlabel ⊢
    rw [show d'.last + k + 1 - d'.last = k + 1 by omega, Nat.add_mul]
    rw [show d'.last + k - d'.last = k by omega] at hdelta
    omega
  case first => exact h'.first

/-- The characters of a label that are to be handled, each of them once and in ascending order. -/
structure Due (label : List Char) (n : Nat) (ms : List Nat) : Prop where
  ascending : ms.Pairwise (· < ·)
  occur : ∀ m ∈ ms, n ≤ m
  complete : ∀ c ∈ label, n ≤ c.toNat → c.toNat ∈ ms

theorem Settled.rounds {label : List Char} {ms : List Nat} (h : Settled front basic label e)
    (hms : Due label e.next ms) :
    ∃ d, Follows front basic (ms.foldl (fun e m => encodeRound basic.length label m e) e).next []
      label (ms.foldl (fun e m => encodeRound basic.length label m e) e) d ∧ d.label = label := by
  induction ms generalizing e with
  | nil =>
    obtain ⟨d, h⟩ := h
    refine ⟨d, h, ?_⟩
    rw [h.label, below, List.filter_nil, List.nil_append, below, List.filter_eq_self]
    intro c hc
    rw [decide_eq_true_iff]
    exact Nat.lt_of_not_le fun hle => absurd (hms.complete c hc hle) List.not_mem_nil
  | cons m ms ih =>
    obtain ⟨hlt, hascending⟩ := List.pairwise_cons.mp hms.ascending
    have hround := h.round (hms.occur m List.mem_cons_self) (by
      intro c hc hle
      rcases List.mem_cons.mp (hms.complete c hc hle) with hm | hm
      · omega
      · exact Nat.le_of_lt (hlt _ hm))
    refine ih hround ⟨hascending, ?_, ?_⟩
    · intro n hn
      rw [round_next]
      exact hlt n hn
    · intro c hc hle
      rw [round_next] at hle
      have hnext := hms.occur m List.mem_cons_self
      rcases List.mem_cons.mp (hms.complete c hc (by omega)) with hm | hm
      · omega
      · exact hm

theorem eraseDups_ascending (ms : List Nat) (h : ms.Pairwise (· ≤ ·)) :
    ms.eraseDups.Pairwise (· < ·) := by
  induction hn : ms.length using Nat.strong_induction_on generalizing ms with
  | _ n ih =>
    cases ms with
    | nil => exact List.Pairwise.nil
    | cons m ms =>
      obtain ⟨hle, h⟩ := List.pairwise_cons.mp h
      rw [List.eraseDups_cons, List.pairwise_cons]
      constructor
      · intro x hx
        obtain ⟨hmem, hne⟩ := List.mem_filter.mp (List.mem_eraseDups.mp hx)
        have hne : x ≠ m := by simpa using hne
        have := hle x hmem
        omega
      · refine ih _ ?_ _ (h.filter _) rfl
        have := List.length_filter_le (fun x => !x == m) ms
        rw [← hn, List.length_cons]
        omega

theorem due_sorted (label : List Char) (n : Nat) :
    Due label n ((label.map Char.toNat).filter (n ≤ ·)).mergeSort.eraseDups where
  ascending := by
    have htrans : ∀ a b c : Nat, decide (a ≤ b) = true → decide (b ≤ c) = true →
        decide (a ≤ c) = true := by
      simp only [decide_eq_true_eq]
      omega
    have htotal : ∀ a b : Nat, (decide (a ≤ b) || decide (b ≤ a)) = true := by
      simp only [Bool.or_eq_true, decide_eq_true_eq]
      omega
    have hsorted := List.pairwise_mergeSort htrans htotal ((label.map Char.toNat).filter (n ≤ ·))
    exact eraseDups_ascending _ (by simpa using hsorted)
  occur := by
    intro m hm
    rw [List.mem_eraseDups, List.mem_mergeSort, List.mem_filter] at hm
    exact of_decide_eq_true hm.2
  complete := by
    intro c hc hle
    rw [List.mem_eraseDups, List.mem_mergeSort, List.mem_filter]
    exact ⟨List.mem_map_of_mem hc, decide_eq_true hle⟩

def asciiOf (label : List Char) : List Char := label.filter fun c => c.toNat < 0x80

theorem encode_cases (label : List Char) : ∃ out d,
    encode label = asciiOf label ++ (if (asciiOf label).isEmpty then [] else ['-']) ++ out ∧
      (∀ c ∈ out, IsDigit c) ∧ Reaches ⟨0x80, 0, 72, asciiOf label⟩ out d ∧ d.label = label := by
  have hstart : Settled (asciiOf label ++ if (asciiOf label).isEmpty then [] else ['-'])
      (asciiOf label) label ⟨0x80, 0, 72, (asciiOf label).length,
        asciiOf label ++ if (asciiOf label).isEmpty then [] else ['-']⟩ := by
    refine ⟨⟨0x80, 0, 72, asciiOf label⟩, ⟨[], by simp, by simp, reaches_nil _⟩, rfl, rfl, rfl,
      Nat.le_refl _, Nat.le_refl _, by simp [below], by simp⟩
  obtain ⟨d, h, hlabel⟩ := hstart.rounds (due_sorted label 0x80)
  obtain ⟨out, hout, hdigits, hreach⟩ := h.read
  exact ⟨out, d, hout, hdigits, hreach, hlabel⟩

/-- What is written in Punycode is read back. -/
theorem decode_encode (label : List Char) : decode? (encode label) = some label := by
  obtain ⟨out, d, hencode, hdigits, hreach, rfl⟩ := encode_cases label
  obtain ⟨left, -, hrun⟩ := hreach [] out.length (by simp)
  have hend : d.run left [] = some d.label := by cases left <;> rfl
  rw [List.append_nil, hend] at hrun
  have hcut : ((asciiOf d.label ++ (if (asciiOf d.label).isEmpty then [] else ['-']) ++
      out).reverse.takeWhile (· != '-')).reverse = out := by
    refine Text.last_iff.mpr ⟨_, rfl, ?_, fun hm => (hdigits '-' hm).plain.2.2.1 rfl⟩
    cases asciiOf d.label with
    | nil => simp
    | cons c cs =>
      intro x hx
      have hlast : (c :: cs ++ ['-']).getLast? = some '-' := List.getLast?_concat
      exact (Option.some.inj (hlast.symm.trans hx)).symm
  have htake : (encode d.label).take ((encode d.label).length - out.length - 1) =
      asciiOf d.label := by
    rw [hencode, List.append_assoc]
    cases asciiOf d.label with
    | nil => simp
    | cons c cs => exact List.take_left' (by simp; omega)
  rw [hencode] at htake
  simp only [decode?, hencode, hcut, htake]
  exact hrun

theorem mem_encode {label : List Char} {c : Char} (h : c ∈ encode label) :
    (c ∈ label ∧ c.toNat < 0x80) ∨ c = '-' ∨ IsDigit c := by
  obtain ⟨out, d, hencode, hdigits, -⟩ := encode_cases label
  rw [hencode, List.mem_append, List.mem_append] at h
  rcases h with (h | h) | h
  · obtain ⟨hmem, hascii⟩ := List.mem_filter.mp h
    exact .inl ⟨hmem, of_decide_eq_true hascii⟩
  · split_ifs at h
    · cases h
    · exact .inr (.inl (List.mem_singleton.mp h))
  · exact .inr (.inr (hdigits c h))

end RestGateway.Punycode
