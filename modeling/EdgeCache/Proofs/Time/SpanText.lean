/-
Spans that are written and read again.

- `digitsFrom_fractionDigits`: a fraction comes back from its digits, once it is filled up with zeros.
- `times?_decimal`: so does a number with a fraction, in units of the last decimal.
- `runs_cons`: numbers and names come back in turn from the text that they make.
- `Span.ofCompound?_compound`: every span comes back from its text.
-/
import Mathlib.Data.List.SplitBy
import Mathlib.Data.List.TakeWhile
import Mathlib.Tactic.Ring
import EdgeCache.Proofs.Text.Numerals
import EdgeCache.Time.SpanReading
import EdgeCache.Time.SpanText

namespace EdgeCache.Time

open EdgeCache.Text

/-! ## Fractions -/

theorem digitsFrom_cons (n : Nat) (c : Char) (cs : List Char) :
    digitsFrom n (c :: cs) = digitsFrom (10 * n + digitValue c) cs := List.foldl_cons ..

theorem digitsFrom_append (n : Nat) (as bs : List Char) : digitsFrom n (as ++ bs) = digitsFrom (digitsFrom n as) bs :=
  List.foldl_append ..

/-- zeros at the end are powers of the base -/
theorem digitsFrom_zeros {zeros : List Char} (h : ∀ c ∈ zeros, c = '0') (n : Nat) :
    digitsFrom n zeros = n * Nat.pow 10 zeros.length := by
  induction zeros generalizing n with
  | nil => exact (Nat.mul_one n).symm
  | cons c zeros ih =>
    obtain rfl : c = '0' := h c List.mem_cons_self
    have hzero : digitValue '0' = 0 := rfl
    rw [digitsFrom_cons, ih fun c hc => h c (List.mem_cons_of_mem _ hc), hzero, List.length_cons]
    simp only [Nat.pow_eq]
    ring

theorem digitValue_digitChar : ∀ d < 10, digitValue d.digitChar = d := by decide

theorem isDigit_digitChar : ∀ d < 10, d.digitChar.isDigit = true := by decide

theorem length_digitsReversed (width n : Nat) : (digitsReversed width n).length = width := by
  induction width generalizing n with
  | zero => rfl
  | succ width ih => exact congrArg (· + 1) (ih (n / 10))

theorem isDigit_of_mem_digitsReversed {width n : Nat} {c : Char} (h : c ∈ digitsReversed width n) :
    c.isDigit = true := by
  induction width generalizing n with
  | zero => cases h
  | succ width ih =>
    rcases List.mem_cons.1 h with rfl | hrest
    · exact isDigit_digitChar _ (Nat.mod_lt _ (by decide))
    · exact ih hrest

/-- a number comes back from enough of its digits -/
theorem digitsFrom_digitsReversed {width n : Nat} (h : n < Nat.pow 10 width) :
    digitsFrom 0 (digitsReversed width n).reverse = n := by
  induction width generalizing n with
  | zero =>
    have hn : n = 0 := Nat.lt_one_iff.1 h
    rw [hn]
    rfl
  | succ width ih =>
    have hfront : n / 10 < Nat.pow 10 width := by
      have hpow : Nat.pow 10 (width + 1) = Nat.pow 10 width * 10 := rfl
      omega
    rw [digitsReversed, List.reverse_cons, digitsFrom_append, ih hfront, digitsFrom_cons,
      digitValue_digitChar _ (Nat.mod_lt _ (by decide))]
    exact Nat.div_add_mod n 10

/-- a fraction comes back from its digits, be there fewer of them than its width -/
theorem digitsFrom_fractionDigits {width n : Nat} (h : n < Nat.pow 10 width) :
    digitsFrom 0 (fractionDigits width n) * Nat.pow 10 width = n * Nat.pow 10 (fractionDigits width n).length := by
  obtain ⟨zeros, hsplit, hzeros⟩ : ∃ zeros, digitsReversed width n = zeros ++ (fractionDigits width n).reverse ∧
      ∀ c ∈ zeros, c = '0' := by
    refine ⟨(digitsReversed width n).takeWhile (· = '0'), ?_, ?_⟩
    · unfold fractionDigits
      rw [List.reverse_reverse]
      exact List.takeWhile_append_dropWhile.symm
    · intro c hc
      have hzero : decide (c = '0') = true := List.mem_takeWhile_imp (p := fun c => decide (c = '0')) hc
      exact of_decide_eq_true hzero
  have hlength : width = zeros.length + (fractionDigits width n).length := by
    have hboth := congrArg List.length hsplit
    rwa [length_digitsReversed, List.length_append, List.length_reverse] at hboth
  have hvalue : digitsFrom 0 (fractionDigits width n) * Nat.pow 10 zeros.length = n := by
    have hback := digitsFrom_digitsReversed h
    have hzeros' : ∀ c ∈ zeros.reverse, c = '0' := fun c hc => hzeros c (List.mem_reverse.1 hc)
    rwa [hsplit, List.reverse_append, List.reverse_reverse, digitsFrom_append, digitsFrom_zeros hzeros',
      List.length_reverse] at hback
  have hpow : Nat.pow 10 width = Nat.pow 10 zeros.length * Nat.pow 10 (fractionDigits width n).length :=
    (congrArg (Nat.pow 10) hlength).trans (Nat.pow_add 10 _ _)
  rw [hpow, ← Nat.mul_assoc, hvalue]

theorem isDigit_of_mem_fractionDigits {width n : Nat} {c : Char} (h : c ∈ fractionDigits width n) :
    c.isDigit = true :=
  isDigit_of_mem_digitsReversed ((List.dropWhile_sublist _).subset (List.mem_reverse.1 h))

/-- a fraction that is not zero has a digit -/
theorem fractionDigits_ne_nil {width n : Nat} (hn : n ≠ 0) (h : n < Nat.pow 10 width) : fractionDigits width n ≠ [] := by
  intro hnil
  have hback := digitsFrom_fractionDigits h
  rw [hnil] at hback
  have hzero : 0 * Nat.pow 10 width = n * 1 := hback
  omega

/-! ## Numbers -/

theorem isDigit_of_mem_toDigits {n : Nat} {c : Char} (h : c ∈ Nat.toDigits 10 n) : c.isDigit = true :=
  Nat.isDigit_of_mem_toDigits (by decide) (by decide) h

theorem not_mem_of_isDigit {cs : List Char} (h : ∀ c ∈ cs, c.isDigit = true) : '.' ∉ cs := by
  intro hdot
  exact absurd (h '.' hdot) (by decide)

theorem digits?_of_isDigit {cs : List Char} (hne : cs ≠ []) (h : ∀ c ∈ cs, c.isDigit = true) :
    digits? cs = some (digitsFrom 0 cs) := if_pos ⟨hne, List.all_eq_true.2 h⟩

theorem times?_toDigits (n unit : Nat) : times? (Nat.toDigits 10 n) unit = some (n * unit) := by
  unfold times?
  rw [splitOn_of_notMem (not_mem_of_isDigit fun c => isDigit_of_mem_toDigits)]
  simp only [digits?_toDigits, Option.map_some]

/-- a number with decimals, in units of which one is worth a whole number -/
theorem times?_fraction (n : Nat) {decimals : List Char} (hne : decimals ≠ []) (hdigits : ∀ c ∈ decimals, c.isDigit = true)
    {unit fraction : Nat} (hworth : digitsFrom 0 decimals * unit = fraction * Nat.pow 10 decimals.length) :
    times? (Nat.toDigits 10 n ++ '.' :: decimals) unit = some (n * unit + fraction) := by
  have hpos : 0 < Nat.pow 10 decimals.length := Nat.pow_pos (by decide)
  unfold times?
  rw [splitOn_append, splitOn_of_notMem (not_mem_of_isDigit fun c => isDigit_of_mem_toDigits),
    splitOn_of_notMem (not_mem_of_isDigit hdigits)]
  simp only [List.singleton_append, digits?_toDigits, digits?_of_isDigit hne hdigits, hworth]
  rw [Nat.mul_mod_left, if_pos rfl, Nat.mul_div_assoc _ (Nat.dvd_refl _), Nat.div_self hpos, Nat.mul_one]

/-- a number comes back from its text, in units of its last decimal -/
theorem times?_decimal (value width : Nat) : times? (decimal value width) (Nat.pow 10 width) = some value := by
  have hscale : 0 < Nat.pow 10 width := Nat.pow_pos (by decide)
  unfold decimal
  by_cases hfraction : value % Nat.pow 10 width = 0
  · rw [if_pos hfraction, times?_toDigits, Nat.div_mul_cancel (Nat.dvd_of_mod_eq_zero hfraction)]
  · have hworth := digitsFrom_fractionDigits (Nat.mod_lt value hscale)
    have hne := fractionDigits_ne_nil hfraction (Nat.mod_lt value hscale)
    rw [if_neg hfraction, times?_fraction _ hne (fun c => isDigit_of_mem_fractionDigits) hworth, Nat.div_add_mod']

/-! ## Sums -/

theorem runs_of_all {b : Bool} {cs : List Char} (hne : cs ≠ []) (h : ∀ c ∈ cs, isNumberChar c = b) :
    runs cs = [cs] := by
  have hpairs : cs.Pairwise fun x y => (isNumberChar x == isNumberChar y) = true := by
    refine List.pairwise_of_forall_mem_list fun x hx y hy => ?_
    rw [h x hx, h y hy, beq_self_eq_true]
  exact List.splitBy_of_isChain hne hpairs.isChain

/-- numbers and names are told apart where they meet -/
theorem runs_append {b : Bool} {cs rest : List Char} (hne : cs ≠ []) (h : ∀ c ∈ cs, isNumberChar c = b)
    (hrest : ∀ c ∈ rest.head?, isNumberChar c = !b) : runs (cs ++ rest) = cs :: runs rest := by
  unfold runs
  rw [List.splitBy_append, ← runs, runs_of_all hne h]
  · rfl
  · intro x hx y hy
    rw [h x (List.mem_of_mem_getLast? hx), hrest y hy]
    cases b <;> rfl

/-- a number as it is written, worth some nanoseconds in a unit of this name -/
structure Term (number name : List Char) (n : Nat) : Prop where
  nonempty : number ≠ []
  digits : ∀ c ∈ number, isNumberChar c = true
  named : name ≠ []
  letters : ∀ c ∈ name, isNumberChar c = false
  worth : (unit? name).bind (times? number) = some n

/-- terms as they are written one after the other, worth some nanoseconds together -/
structure Sum (cs : List Char) (n : Nat) : Prop where
  starts : ∃ c rest, cs = c :: rest ∧ isNumberChar c = true
  worth : sum? (runs cs) = some n

theorem Term.starts {number name : List Char} {n : Nat} (h : Term number name n) (rest : List Char) :
    ∃ c cs, number ++ rest = c :: cs ∧ isNumberChar c = true := by
  obtain ⟨c, cs, hcs⟩ := List.exists_cons_of_ne_nil h.nonempty
  exact ⟨c, cs ++ rest, by rw [hcs, List.cons_append], h.digits c (by rw [hcs]; exact List.mem_cons_self)⟩

theorem Term.starts_name {number name : List Char} {n : Nat} (h : Term number name n) (rest : List Char) :
    ∀ c ∈ (name ++ rest).head?, isNumberChar c = !true := by
  obtain ⟨c, cs, hcs⟩ := List.exists_cons_of_ne_nil h.named
  rw [hcs]
  intro c' hc'
  cases hc'
  exact h.letters c (by rw [hcs]; exact List.mem_cons_self)

/-- one term -/
theorem Term.sum {number name : List Char} {n : Nat} (h : Term number name n) : Sum (number ++ name) n := by
  refine ⟨h.starts name, ?_⟩
  have hname := h.starts_name []
  rw [List.append_nil] at hname
  rw [runs_append h.nonempty h.digits hname, runs_of_all h.named h.letters, sum?, h.worth, sum?]
  rfl

/-- one term more in front -/
theorem Term.cons {number name rest : List Char} {n m : Nat} (h : Term number name n) (hrest : Sum rest m) :
    Sum (number ++ (name ++ rest)) (n + m) := by
  obtain ⟨c, cs, rfl, hc⟩ := hrest.starts
  refine ⟨h.starts _, ?_⟩
  rw [runs_append h.nonempty h.digits (h.starts_name _), runs_append h.named h.letters (by simpa using hc), sum?, h.worth,
    hrest.worth]
  rfl

/-! ## Spans -/

theorem isNumberChar_of_isDigit {c : Char} (h : c.isDigit = true) : isNumberChar c = true :=
  Bool.or_eq_true_iff.2 (Or.inl h)

theorem isNumberChar_of_mem_decimal {value width : Nat} {c : Char} (h : c ∈ decimal value width) :
    isNumberChar c = true := by
  unfold decimal at h
  split_ifs at h with hfraction
  · exact isNumberChar_of_isDigit (isDigit_of_mem_toDigits h)
  · rcases List.mem_append.1 h with hwhole | hrest
    · exact isNumberChar_of_isDigit (isDigit_of_mem_toDigits hwhole)
    · rcases List.mem_cons.1 hrest with rfl | hdecimals
      · decide
      · exact isNumberChar_of_isDigit (isDigit_of_mem_fractionDigits hdecimals)

theorem decimal_ne_nil (value width : Nat) : decimal value width ≠ [] := by
  unfold decimal
  split_ifs
  · exact Nat.toDigits_ne_nil
  · simp

/-- the names of units have characters of their own -/
theorem letters_of_unit? {name : List Char} {unit : Nat} (h : unit? name = some unit) :
    name ≠ [] ∧ ∀ c ∈ name, isNumberChar c = false := by
  unfold unit? at h
  split at h
  all_goals first
    | exact ⟨List.cons_ne_nil _ _, by simp [isNumberChar]⟩
    | cases h

/-- a whole number of a unit -/
theorem term_toDigits (n : Nat) {name : List Char} {unit : Nat} (hunit : unit? name = some unit) :
    Term (Nat.toDigits 10 n) name (n * unit) := by
  obtain ⟨hnamed, hletters⟩ := letters_of_unit? hunit
  refine ⟨Nat.toDigits_ne_nil, fun c hc => isNumberChar_of_isDigit (isDigit_of_mem_toDigits hc), hnamed, hletters, ?_⟩
  rw [hunit]
  exact times?_toDigits n unit

/-- a number in a unit of which the last decimal is a nanosecond -/
theorem term_decimal (value : Nat) {width : Nat} {name : List Char} (hunit : unit? name = some (Nat.pow 10 width)) :
    Term (decimal value width) name value := by
  obtain ⟨hnamed, hletters⟩ := letters_of_unit? hunit
  refine ⟨decimal_ne_nil value width, fun c hc => isNumberChar_of_mem_decimal hc, hnamed, hletters, ?_⟩
  rw [hunit]
  exact times?_decimal value width

namespace Span

/-- hours, minutes and what is left of seconds are the whole span -/
theorem parts_add (d : Span) :
    d.seconds / 3600 * (3600 * nanosPerSecond) + (d.seconds % 3600 / 60 * (60 * nanosPerSecond) +
      (d.seconds % 60 * nanosPerSecond + d.subsecond)) = d.nanos := by
  have hclock : d.seconds / 3600 * 3600 + d.seconds % 3600 / 60 * 60 + d.seconds % 60 = d.seconds := by omega
  calc
    _ = (d.seconds / 3600 * 3600 + d.seconds % 3600 / 60 * 60 + d.seconds % 60) * nanosPerSecond + d.subsecond := by
      ring
    _ = d.seconds * nanosPerSecond + d.subsecond := by rw [hclock]
    _ = d.nanos := Nat.div_add_mod' d.nanos nanosPerSecond

theorem sum_compoundChars (d : Span) : Sum d.compoundChars d.nanos := by
  have hall := parts_add d
  have hseconds : Term (decimal (d.seconds % 60 * nanosPerSecond + d.subsecond) 9) ['s'] _ :=
    term_decimal _ rfl
  have hminutes : Term (Nat.toDigits 10 (d.seconds % 3600 / 60)) ['m'] _ :=
    term_toDigits _ rfl
  have hhours : Term (Nat.toDigits 10 (d.seconds / 3600)) ['h'] _ := term_toDigits _ rfl
  unfold compoundChars
  simp only
  split_ifs with hzero hnano hmicro hmilli hhour hminute
  · rw [hzero]
    exact (term_toDigits 0 rfl : Term ['0'] ['s'] _).sum
  · exact (term_decimal d.nanos rfl).sum
  · exact (term_decimal d.nanos rfl).sum
  · exact (term_decimal d.nanos rfl).sum
  · have hsum := hhours.cons (hminutes.cons hseconds.sum)
    rw [hall] at hsum
    simpa using hsum
  · have hsum := hminutes.cons hseconds.sum
    rw [Nat.eq_zero_of_not_pos hhour, Nat.zero_mul, Nat.zero_add] at hall
    rw [hall] at hsum
    exact hsum
  · rw [Nat.eq_zero_of_not_pos hhour, Nat.eq_zero_of_not_pos hminute, Nat.zero_mul, Nat.zero_mul, Nat.zero_add,
      Nat.zero_add] at hall
    have hsum := hseconds.sum
    rw [hall] at hsum
    rw [hall]
    exact hsum

/-- **Every span comes back from its text.** -/
theorem ofCompound?_compound (d : Span) : ofCompound? d.compound = some d := by
  have hsum := sum_compoundChars d
  have hne : d.compound ≠ "" := by
    obtain ⟨c, rest, hcs, -⟩ := hsum.starts
    intro hempty
    have hnil : d.compoundChars = [] := by
      rw [← String.toList_ofList (l := d.compoundChars)]
      exact congrArg String.toList hempty
    rw [hnil] at hcs
    cases hcs
  unfold ofCompound?
  rw [if_neg hne, compound, String.toList_ofList, hsum.worth]
  rfl

example : ofCompound? "1h2m3.5s" = some ⟨3723500000000⟩ := by decide +kernel

end Span

end EdgeCache.Time
