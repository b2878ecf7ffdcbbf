/-
The one form in which a span is written.

- `Amount.spells_unique`: a text is made of amounts in one way.
- `Span.compoundChars_eq`: the text of a span, as amounts.
- `Span.Canonical`: which units these have, and which numbers of them.
- `Span.compound_canonical`: so the text of every span has this form, and the span can be read from it.
-/
import EdgeCache.Proofs.Time.SpanText
import EdgeCache.Time.Amount

namespace EdgeCache.Time

open EdgeCache.Text

/-! ## Amounts in a text -/

theorem Measure.name_inj {u v : Measure} (h : u.name = v.name) : u = v := by
  cases u <;> cases v <;> first | rfl | cases h

theorem unit?_name (u : Measure) : unit? u.name = some u.nanos := by
  cases u <;> rfl

namespace Amount

variable {a b : Amount}

theorem number_ne_nil (a : Amount) : a.number ≠ [] := by
  simp [number, Nat.toDigits_ne_nil]

theorem isNumberChar_of_mem_number (ha : ∀ c ∈ a.decimals, c.isDigit = true) {c : Char} (hc : c ∈ a.number) :
    isNumberChar c = true := by
  unfold number at hc
  rcases List.mem_append.1 hc with hwhole | hrest
  · exact isNumberChar_of_isDigit (isDigit_of_mem_toDigits hwhole)
  · split_ifs at hrest
    · cases hrest
    · rcases List.mem_cons.1 hrest with rfl | hdecimals
      · rfl
      · exact isNumberChar_of_isDigit (ha c hdecimals)

/-- a text starts with a character of its first part -/
theorem of_mem_head?_append {cs rest : List Char} {P : Char → Prop} (hne : cs ≠ []) (h : ∀ c ∈ cs, P c) {c : Char}
    (hc : c ∈ (cs ++ rest).head?) : P c := by
  rw [List.head?_append_of_ne_nil _ hne] at hc
  exact h c (List.mem_of_mem_head? hc)

/-- numbers and units come back in turn from the text that they make -/
theorem runs_flatMap {amounts : List Amount} (h : ∀ a ∈ amounts, ∀ c ∈ a.decimals, c.isDigit = true) :
    runs (amounts.flatMap text) = amounts.flatMap fun a => [a.number, a.unit.name] := by
  induction amounts with
  | nil => rfl
  | cons a amounts ih =>
    obtain ⟨ha, hamounts⟩ := List.forall_mem_cons.1 h
    obtain ⟨hnamed, hletters⟩ := letters_of_unit? (unit?_name a.unit)
    have hnumber : ∀ c ∈ a.number, isNumberChar c = true := fun c hc => isNumberChar_of_mem_number ha hc
    have hnext : ∀ c ∈ (amounts.flatMap text).head?, isNumberChar c = !false := by
      intro c hc
      cases amounts with
      | nil => cases hc
      | cons b amounts =>
        have hb : ∀ c ∈ b.number, isNumberChar c = true := fun c hc =>
          isNumberChar_of_mem_number (hamounts b List.mem_cons_self) hc
        rw [List.flatMap_cons, text, List.append_assoc] at hc
        exact of_mem_head?_append b.number_ne_nil hb hc
    rw [List.flatMap_cons, text, List.append_assoc,
      runs_append a.number_ne_nil hnumber fun c hc => of_mem_head?_append hnamed hletters hc,
      runs_append hnamed hletters hnext, ih hamounts]
    rfl

/-- a number comes back from its text -/
theorem number_inj (h : a.number = b.number) : a.whole = b.whole ∧ a.decimals = b.decimals := by
  have hparts : ∀ a : Amount, a.number.takeWhile Char.isDigit = Nat.toDigits 10 a.whole ∧
      a.number.dropWhile Char.isDigit = if a.decimals = [] then [] else '.' :: a.decimals := by
    intro a
    apply run_append
    · intro c hc
      exact isDigit_of_mem_toDigits hc
    · intro c hc
      split_ifs at hc
      · cases hc
      · cases hc
        rfl
  obtain ⟨htake, hdrop⟩ := hparts a
  rw [h, (hparts b).1] at htake
  rw [h, (hparts b).2] at hdrop
  refine ⟨?_, ?_⟩
  · have hread := digits?_toDigits a.whole
    rw [← htake, digits?_toDigits] at hread
    exact (Option.some.inj hread).symm
  · split_ifs at hdrop with hb ha ha
    · rw [ha, hb]
    · exact (List.cons.inj hdrop).2.symm

theorem eq_of_parts (hnumber : a.number = b.number) (hunit : a.unit.name = b.unit.name) : a = b := by
  obtain ⟨hwhole, hdecimals⟩ := number_inj hnumber
  have hsame := Measure.name_inj hunit
  cases a
  cases b
  cases hwhole
  cases hdecimals
  cases hsame
  rfl

theorem parts_inj {as bs : List Amount}
    (h : (as.flatMap fun a => [a.number, a.unit.name]) = bs.flatMap fun a => [a.number, a.unit.name]) : as = bs := by
  induction as generalizing bs with
  | nil =>
    cases bs with
    | nil => rfl
    | cons b bs => cases h
  | cons a as ih =>
    cases bs with
    | nil => cases h
    | cons b bs =>
      simp only [List.flatMap_cons, List.cons_append, List.nil_append, List.cons.injEq] at h
      obtain ⟨hnumber, hunit, hrest⟩ := h
      rw [eq_of_parts hnumber hunit, ih hrest]

/-- **A text is made of amounts in one way.** -/
theorem spells_unique {s : String} {as bs : List Amount} (ha : Spells s as) (hb : Spells s bs) : as = bs := by
  apply parts_inj
  rw [← runs_flatMap ha.digits, ← runs_flatMap hb.digits, ← ha.text, ← hb.text]

/-! ## Numbers with decimals -/

/-- a number of the smallest decimals that its width allows, in a unit -/
def ofDecimal (value width : Nat) (unit : Measure) : Amount where
  whole := value / Nat.pow 10 width
  decimals := if value % Nat.pow 10 width = 0 then [] else fractionDigits width (value % Nat.pow 10 width)
  unit

theorem number_ofDecimal (value width : Nat) (unit : Measure) :
    (ofDecimal value width unit).number = decimal value width := by
  unfold number ofDecimal decimal
  by_cases hfraction : value % Nat.pow 10 width = 0
  · simp only [if_pos hfraction, ↓reduceIte, List.append_nil]
  · have hne := fractionDigits_ne_nil hfraction (Nat.mod_lt value (Nat.pow_pos (by decide)))
    simp only [if_neg hfraction, if_neg hne]

@[simp] theorem unit_ofDecimal (value width : Nat) (unit : Measure) : (ofDecimal value width unit).unit = unit := rfl

@[simp] theorem text_ofDecimal (value width : Nat) (unit : Measure) :
    (ofDecimal value width unit).text = decimal value width ++ unit.name := by
  unfold text
  rw [number_ofDecimal]
  rfl

@[simp] theorem text_whole (n : Nat) (unit : Measure) : (Amount.mk n [] unit).text = Nat.toDigits 10 n ++ unit.name := by
  simp [text, number]

theorem isDigit_of_mem_ofDecimal {value width : Nat} {unit : Measure} {c : Char}
    (hc : c ∈ (ofDecimal value width unit).decimals) : c.isDigit = true := by
  unfold ofDecimal at hc
  simp only at hc
  split_ifs at hc
  · cases hc
  · exact isDigit_of_mem_fractionDigits hc

/-- decimals have no zeros at their end -/
theorem getLast?_ofDecimal (value width : Nat) (unit : Measure) :
    (ofDecimal value width unit).decimals.getLast? ≠ some '0' := by
  unfold ofDecimal
  simp only
  split_ifs
  · simp
  · unfold fractionDigits
    rw [List.getLast?_reverse]
    intro hzero
    have hstop := List.head?_dropWhile_not (fun c => decide (c = '0')) (digitsReversed width (value % Nat.pow 10 width))
    rw [hzero] at hstop
    simp at hstop

end Amount

/-! ## Spans as amounts -/

namespace Span

def amounts (d : Span) : List Amount :=
  let n := d.nanos
  if n = 0 then [⟨0, [], .second⟩]
  else if n < 1000 then [.ofDecimal n 0 .nanosecond]
  else if n < 1000000 then [.ofDecimal n 3 .microsecond]
  else if n < 1000000000 then [.ofDecimal n 6 .millisecond]
  else
    let total := d.seconds
    let hours := total / 3600
    let minutes := total % 3600 / 60
    let tail := [.ofDecimal (total % 60 * nanosPerSecond + d.subsecond) 9 .second]
    if hours > 0 then ⟨hours, [], .hour⟩ :: ⟨minutes, [], .minute⟩ :: tail
    else if minutes > 0 then ⟨minutes, [], .minute⟩ :: tail
    else tail

theorem compoundChars_eq (d : Span) : d.compoundChars = d.amounts.flatMap Amount.text := by
  unfold compoundChars amounts
  simp only
  split_ifs <;> simp [Measure.name]

/-- what the amounts of a span are made from -/
theorem mem_amounts {d : Span} {a : Amount} (h : a ∈ d.amounts) :
    a.decimals = [] ∨ ∃ value width unit, a = .ofDecimal value width unit := by
  unfold amounts at h
  simp only at h
  split_ifs at h
  all_goals simp only [List.mem_cons, List.not_mem_nil, or_false] at h
  · exact .inl (by rw [h])
  · exact .inr ⟨_, _, _, h⟩
  · exact .inr ⟨_, _, _, h⟩
  · exact .inr ⟨_, _, _, h⟩
  · rcases h with rfl | rfl | h
    · exact .inl rfl
    · exact .inl rfl
    · exact .inr ⟨_, _, _, h⟩
  · rcases h with rfl | h
    · exact .inl rfl
    · exact .inr ⟨_, _, _, h⟩
  · exact .inr ⟨_, _, _, h⟩

theorem spells_amounts (d : Span) : Amount.Spells d.compound d.amounts := by
  constructor
  · rw [compound, String.toList_ofList, compoundChars_eq]
  · intro a ha c hc
    rcases mem_amounts ha with hnone | ⟨value, width, unit, rfl⟩
    · rw [hnone] at hc
      cases hc
    · exact Amount.isDigit_of_mem_ofDecimal hc

/-- the one form of a span as amounts -/
structure Canonical (d : Span) (amounts : List Amount) : Prop where
  /-- decimals have no zeros at their end -/
  trimmed : ∀ a ∈ amounts, a.decimals.getLast? ≠ some '0'
  /-- and only the last number has any -/
  last : ∀ a ∈ amounts.dropLast, a.decimals = []
  /-- no time at all is no seconds -/
  zero : d.nanos = 0 → amounts = [⟨0, [], .second⟩]
  /-- less than a second is at least one of a smaller unit, and less than a thousand -/
  small : 0 < d.nanos → d.nanos < nanosPerSecond →
    ∃ a, amounts = [a] ∧ a.unit ∈ [Measure.millisecond, .microsecond, .nanosecond] ∧ 1 ≤ a.whole ∧ a.whole < 1000
  /-- from a second on there are hours, minutes and seconds, but for those in front that the span does not reach -/
  units : nanosPerSecond ≤ d.nanos →
    amounts.map (·.unit) = [Measure.hour, .minute, .second].dropWhile fun unit => d.nanos < unit.nanos
  /-- and there is at least one of the first unit -/
  first : nanosPerSecond ≤ d.nanos → ∀ a ∈ amounts.head?, 1 ≤ a.whole
  /-- minutes and seconds behind a larger unit are less than 60 -/
  below : ∀ a ∈ amounts.tail, a.whole < 60

theorem trimmed_amounts {d : Span} {a : Amount} (h : a ∈ d.amounts) : a.decimals.getLast? ≠ some '0' := by
  rcases mem_amounts h with hnone | ⟨value, width, unit, rfl⟩
  · simp [hnone]
  · exact Amount.getLast?_ofDecimal value width unit

theorem canonical_amounts_of_small {d : Span} (hpos : 0 < d.nanos) (hsmall : d.nanos < nanosPerSecond) :
    Canonical d d.amounts := by
  obtain ⟨width, unit, hamounts, hunit, hone, hthousand⟩ : ∃ width unit, d.amounts = [.ofDecimal d.nanos width unit] ∧
      unit ∈ [Measure.millisecond, .microsecond, .nanosecond] ∧ 1 ≤ d.nanos / Nat.pow 10 width ∧
      d.nanos / Nat.pow 10 width < 1000 := by
    have hsecond : nanosPerSecond = 1000000000 := rfl
    unfold amounts
    simp only
    split_ifs with hzero hnano hmicro hmilli
    · omega
    · exact ⟨0, .nanosecond, rfl, by simp, by simp; omega, by simp; omega⟩
    · exact ⟨3, .microsecond, rfl, by simp, by simp; omega, by simp; omega⟩
    · exact ⟨6, .millisecond, rfl, by simp, by simp; omega, by simp; omega⟩
    all_goals omega
  constructor
  · exact fun a ha => trimmed_amounts ha
  · simp [hamounts]
  · intro hzero
    omega
  · intro _ _
    exact ⟨_, hamounts, hunit, hone, hthousand⟩
  · intro hlarge
    omega
  · intro hlarge
    omega
  · simp [hamounts]

/-- the whole seconds behind hours and minutes -/
theorem whole_seconds (d : Span) :
    (Amount.ofDecimal (d.seconds % 60 * nanosPerSecond + d.subsecond) 9 .second).whole = d.seconds % 60 := by
  have hrest : d.subsecond < nanosPerSecond := Nat.mod_lt _ (by decide)
  have hscale : Nat.pow 10 9 = nanosPerSecond := rfl
  show (d.seconds % 60 * nanosPerSecond + d.subsecond) / Nat.pow 10 9 = d.seconds % 60
  rw [hscale, Nat.add_comm, Nat.add_mul_div_right _ _ (by decide), Nat.div_eq_of_lt hrest, Nat.zero_add]

theorem canonical_amounts_of_large {d : Span} (hlarge : nanosPerSecond ≤ d.nanos) : Canonical d d.amounts := by
  have hsecond : nanosPerSecond = 1000000000 := rfl
  have hseconds : d.seconds = d.nanos / 1000000000 := rfl
  have hhours : Measure.hour.nanos = 3600000000000 := rfl
  have hminutes : Measure.minute.nanos = 60000000000 := rfl
  have hwhole := whole_seconds d
  have hshape : (∀ a ∈ d.amounts.dropLast, a.decimals = []) ∧
      d.amounts.map (·.unit) = [Measure.hour, .minute, .second].dropWhile (fun unit => d.nanos < unit.nanos) ∧
      (∀ a ∈ d.amounts.head?, 1 ≤ a.whole) ∧ ∀ a ∈ d.amounts.tail, a.whole < 60 := by
    unfold amounts
    simp only
    split_ifs with hzero hnano hmicro hmilli hhour hminute
    · omega
    · omega
    · omega
    · omega
    · have hreached : ¬d.nanos < Measure.hour.nanos := by omega
      refine ⟨by simp, by simp [hreached], ?_, ?_⟩
      · rintro a ⟨⟩
        exact hhour
      · simp only [List.tail_cons, List.forall_mem_cons, List.not_mem_nil, false_imp_iff, implies_true, and_true, hwhole]
        omega
    · have hover : d.nanos < Measure.hour.nanos := by omega
      have hreached : ¬d.nanos < Measure.minute.nanos := by omega
      refine ⟨by simp, by simp [hover, hreached], ?_, ?_⟩
      · rintro a ⟨⟩
        exact hminute
      · simp only [List.tail_cons, List.forall_mem_cons, List.not_mem_nil, false_imp_iff, implies_true, and_true, hwhole]
        omega
    · have hover : d.nanos < Measure.hour.nanos := by omega
      have hover' : d.nanos < Measure.minute.nanos := by omega
      have hreached : ¬d.nanos < Measure.second.nanos := Nat.not_lt.2 hlarge
      refine ⟨by simp, by simp [hover, hover', hreached], ?_, by simp⟩
      rintro a ⟨⟩
      rw [hwhole]
      omega
  obtain ⟨hlast, hunits, hfirst, hbelow⟩ := hshape
  constructor
  · exact fun a ha => trimmed_amounts ha
  · exact hlast
  · intro hzero
    omega
  · intro _ hsmall
    omega
  · exact fun _ => hunits
  · exact fun _ => hfirst
  · exact hbelow

theorem canonical_amounts (d : Span) : Canonical d d.amounts := by
  rcases Nat.lt_or_ge d.nanos nanosPerSecond with hsmall | hlarge
  · rcases Nat.eq_zero_or_pos d.nanos with hzero | hpos
    · have hamounts : d.amounts = [⟨0, [], .second⟩] := if_pos hzero
      have hsecond : nanosPerSecond = 1000000000 := rfl
      rw [hamounts]
      constructor <;> simp <;> omega
    · exact canonical_amounts_of_small hpos hsmall
  · exact canonical_amounts_of_large hlarge

/-- **The text of a span is exact and has one form.** Whatever its length, the span is read from its text, so no other one
has the same text. The text is made of amounts, in one way; their units go from the largest that is reached down to
seconds, or there is one smaller unit, the numbers behind the first are below 60, and no fraction ends in zero. -/
theorem compound_canonical (d : Span) :
    ofCompound? d.compound = some d ∧ (∀ e : Span, e.compound = d.compound → e = d) ∧
    ∃ amounts, Amount.Spells d.compound amounts ∧
      (∀ others, Amount.Spells d.compound others → others = amounts) ∧ Canonical d amounts := by
  refine ⟨ofCompound?_compound d, ?_, d.amounts, spells_amounts d, ?_, canonical_amounts d⟩
  · intro e he
    have hread := ofCompound?_compound e
    rw [he, ofCompound?_compound d] at hread
    exact (Option.some.inj hread).symm
  · intro others hothers
    exact Amount.spells_unique hothers (spells_amounts d)

end Span

end EdgeCache.Time
