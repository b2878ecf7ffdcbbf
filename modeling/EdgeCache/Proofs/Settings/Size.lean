/-
Which texts are sizes, and which size each of them is.

- `SizeText`: a size is written as digits, blanks if any, and perhaps a letter for a power of 1000.
- `sizeText_iff`: how the parts of such a text are found.
- `readSize_of_sizeText`: it is read as the product of number and power, if that has at most 64 bits.
- `readSize_eq_iff`: the answer that every text gets, by what the text is.
-/
import Mathlib.Data.List.Induction
import Mathlib.Data.Nat.Digits.Defs
import EdgeCache.Proofs.Text.Numerals
import EdgeCache.Settings.Size

namespace EdgeCache.Settings

open EdgeCache.Text

/-! ## The grammar -/

/-- letters for a power of 1000, in either case -/
inductive IsSuffix : List Char → Nat → Prop where
  | units : IsSuffix [] 0
  | thousands {c : Char} (h : c = 'K' ∨ c = 'k') : IsSuffix [c] 1
  | millions {c : Char} (h : c = 'M' ∨ c = 'm') : IsSuffix [c] 2
  | thousandMillions {c : Char} (h : c = 'G' ∨ c = 'g') : IsSuffix [c] 3

/-- a text is a number, blanks if any, and a suffix for a power of 1000 -/
structure SizeText (cs digits : List Char) (power : Nat) : Prop where
  nonempty : digits ≠ []
  decimal : ∀ c ∈ digits, c.isDigit = true
  behind : ∃ gap suffix, cs = digits ++ (gap ++ suffix) ∧ (∀ c ∈ gap, isBlank c = true) ∧ IsSuffix suffix power

/-- the number that digits write: each digit counts ten times as much as it would one place further on -/
def placeValue (digits : List Char) : Nat := Nat.ofDigits 10 (digits.reverse.map digitValue)

theorem digitsFrom_eq_placeValue (digits : List Char) : digitsFrom 0 digits = placeValue digits := by
  induction digits using List.reverseRecOn with
  | nil => rfl
  | append_singleton digits c ih =>
    have hlast : digitsFrom 0 (digits ++ [c]) = 10 * digitsFrom 0 digits + digitValue c := List.foldl_append ..
    rw [hlast, ih]
    unfold placeValue
    rw [List.reverse_append, List.reverse_singleton, List.singleton_append, List.map_cons, Nat.ofDigits_cons, Nat.add_comm]

/-! ## Suffixes -/

theorem multiplier?_of_isSuffix {suffix : List Char} {power : Nat} (h : IsSuffix suffix power) :
    multiplier? suffix = some (1000 ^ power) := by
  cases h with
  | units => rfl
  | thousands h => rcases h with rfl | rfl <;> rfl
  | millions h => rcases h with rfl | rfl <;> rfl
  | thousandMillions h => rcases h with rfl | rfl <;> rfl

theorem isSuffix_of_multiplier? {suffix : List Char} {m : Nat} (h : multiplier? suffix = some m) :
    ∃ power, IsSuffix suffix power := by
  unfold multiplier? at h
  split at h
  · exact ⟨0, .units⟩
  · split_ifs at h with hthousands hmillions hmilliards
    · exact ⟨1, .thousands hthousands⟩
    · exact ⟨2, .millions hmillions⟩
    · exact ⟨3, .thousandMillions hmilliards⟩
  · cases h

theorem IsSuffix.letter {suffix : List Char} {power : Nat} (h : IsSuffix suffix power) :
    suffix = [] ∨ ∃ c, suffix = [c] ∧ c.isDigit = false ∧ isBlank c = false := by
  cases h with
  | units => exact .inl rfl
  | thousands h => rcases h with rfl | rfl <;> exact .inr ⟨_, rfl, by decide, by decide⟩
  | millions h => rcases h with rfl | rfl <;> exact .inr ⟨_, rfl, by decide, by decide⟩
  | thousandMillions h => rcases h with rfl | rfl <;> exact .inr ⟨_, rfl, by decide, by decide⟩

theorem IsSuffix.trim_append {suffix : List Char} {power : Nat} (h : IsSuffix suffix power) {gap : List Char}
    (hgap : ∀ c ∈ gap, isBlank c = true) : trim (gap ++ suffix) = suffix := by
  unfold trim
  rw [trimStart_append hgap]
  rcases h.letter with rfl | ⟨c, rfl, -, hc⟩
  · rfl
  · simp [trimStart, trimEnd, hc]

/-- digits end where blanks or a suffix start -/
theorem IsSuffix.stops {suffix : List Char} {power : Nat} (h : IsSuffix suffix power) {gap : List Char}
    (hgap : ∀ c ∈ gap, isBlank c = true) : ∀ c ∈ (gap ++ suffix).head?, c.isDigit = false := by
  have hblank : ∀ c, isBlank c = true → c.isDigit = false := by
    intro c hc
    by_contra hdigit
    rw [isBlank_of_isDigit (Bool.eq_true_of_not_eq_false hdigit)] at hc
    cases hc
  intro c hc
  cases gap with
  | cons d gap =>
    cases hc
    exact hblank c (hgap c List.mem_cons_self)
  | nil =>
    rcases h.letter with rfl | ⟨d, rfl, hd, -⟩
    · cases hc
    · cases hc
      exact hd

/-! ## Numbers with suffixes -/

variable {cs digits : List Char} {power : Nat}

/-- **The parts of a size.** In a text without blanks at its end the digits are all those that it starts with, and the
suffix is what follows them and their blanks. -/
theorem sizeText_iff (htrimmed : trimEnd cs = cs) : SizeText cs digits power ↔
    digits = cs.takeWhile Char.isDigit ∧ digits ≠ [] ∧ IsSuffix (trim (cs.dropWhile Char.isDigit)) power := by
  constructor
  · rintro ⟨hne, hdecimal, gap, suffix, rfl, hgap, hsuffix⟩
    obtain ⟨htake, hdrop⟩ := run_append (p := Char.isDigit) hdecimal (hsuffix.stops hgap)
    rw [htake, hdrop, hsuffix.trim_append hgap]
    exact ⟨rfl, hne, hsuffix⟩
  · rintro ⟨hdigits, hne, hsuffix⟩
    refine ⟨hne, fun c hc => List.mem_takeWhile_imp (hdigits ▸ hc), ?_⟩
    have hcs : cs = digits ++ cs.dropWhile Char.isDigit := hdigits ▸ List.takeWhile_append_dropWhile.symm
    obtain ⟨front, back, hrest, hfront, hback⟩ := exists_append_trim (cs.dropWhile Char.isDigit)
    generalize trim (cs.dropWhile Char.isDigit) = suffix at *
    rw [hrest] at hcs
    rcases hsuffix.letter with rfl | ⟨c, rfl, -, hc⟩
    · refine ⟨front ++ back, [], by simpa using hcs, ?_, hsuffix⟩
      intro c hc
      rcases List.mem_append.1 hc with hc | hc
      · exact hfront c hc
      · exact hback c hc
    · -- nothing is left behind the letter, since blanks there would have been trimmed off
      refine ⟨front, [c], ?_, hfront, hsuffix⟩
      calc
        cs = trimEnd cs := htrimmed.symm
        _ = trimEnd ((digits ++ front ++ [c]) ++ back) := by
          rw [hcs]
          simp
        _ = trimEnd (digits ++ front ++ [c]) := trimEnd_append hback _
        _ = digits ++ front ++ [c] := trimEnd_concat hc _
        _ = digits ++ (front ++ [c]) := List.append_assoc ..

/-! ## Sizes that are read -/

variable {text : String}

theorem trimEnd_trim (cs : List Char) : trimEnd (trim cs) = trim cs := trimEnd_trimEnd _

theorem readSize_of_ne (h : trim text.toList ≠ []) :
    readSize text =
      match digits? ((trim text.toList).takeWhile Char.isDigit),
        multiplier? (trim ((trim text.toList).dropWhile Char.isDigit)) with
      | some n, some m => if n * m < countLimit then .ok (n * m) else .error (.tooLarge text)
      | _, _ => .error (.malformed text) := by
  unfold readSize
  rw [← drop_takeWhile_length]
  split
  · rename_i hnil
    exact absurd hnil h
  · rfl

/-- **A size is read exactly.** It is the product of its number and its power of 1000, or it is too large. -/
theorem readSize_of_sizeText (h : SizeText (trim text.toList) digits power) :
    readSize text = if placeValue digits * 1000 ^ power < countLimit then .ok (placeValue digits * 1000 ^ power)
      else .error (.tooLarge text) := by
  have hne : trim text.toList ≠ [] := by
    obtain ⟨gap, suffix, hcs, -⟩ := h.behind
    rw [hcs]
    simp [h.nonempty]
  obtain ⟨hdigits, -, hsuffix⟩ := (sizeText_iff (trimEnd_trim _)).1 h
  have hnumber : digits? digits = some (placeValue digits) := by
    rw [← digitsFrom_eq_placeValue]
    exact if_pos ⟨h.nonempty, List.all_eq_true.2 h.decimal⟩
  rw [readSize_of_ne hne, ← hdigits, hnumber, multiplier?_of_isSuffix hsuffix]

theorem readSize_of_not_sizeText (hne : trim text.toList ≠ [])
    (h : ∀ digits power, ¬SizeText (trim text.toList) digits power) : readSize text = .error (.malformed text) := by
  rw [readSize_of_ne hne]
  cases hnumber : digits? ((trim text.toList).takeWhile Char.isDigit) with
  | none => rfl
  | some n =>
    cases hmultiplier : multiplier? (trim ((trim text.toList).dropWhile Char.isDigit)) with
    | none => rfl
    | some m =>
      obtain ⟨power, hsuffix⟩ := isSuffix_of_multiplier? hmultiplier
      have hdigits : (trim text.toList).takeWhile Char.isDigit ≠ [] := by
        intro hnil
        rw [hnil] at hnumber
        cases hnumber
      exact absurd ((sizeText_iff (trimEnd_trim _)).2 ⟨rfl, hdigits, hsuffix⟩) (h _ power)

theorem readSize_of_blank (h : trim text.toList = []) : readSize text = .error .empty := by
  unfold readSize
  rw [h]

theorem text_cases (text : String) :
    trim text.toList = [] ∨ (∃ digits power, SizeText (trim text.toList) digits power) ∨
    (trim text.toList ≠ [] ∧ ∀ digits power, ¬SizeText (trim text.toList) digits power) := by
  by_cases hblank : trim text.toList = []
  · exact .inl hblank
  · by_cases hsize : ∃ digits power, SizeText (trim text.toList) digits power
    · exact .inr (.inl hsize)
    · exact .inr (.inr ⟨hblank, by simpa using hsize⟩)

/-- the answer that a text has to get -/
inductive SizeAnswer (text : String) : Except SizeError Nat → Prop where
  /-- there is nothing but blanks -/
  | empty (h : trim text.toList = []) : SizeAnswer text (.error .empty)
  /-- the exact value of a size, if it has at most 64 bits -/
  | size {digits : List Char} {power : Nat} (h : SizeText (trim text.toList) digits power)
      (hfits : placeValue digits * 1000 ^ power < 2 ^ 64) : SizeAnswer text (.ok (placeValue digits * 1000 ^ power))
  /-- a size of more bits -/
  | tooLarge {digits : List Char} {power : Nat} (h : SizeText (trim text.toList) digits power)
      (hlarge : 2 ^ 64 ≤ placeValue digits * 1000 ^ power) : SizeAnswer text (.error (.tooLarge text))
  /-- anything else -/
  | malformed (hne : trim text.toList ≠ []) (hnot : ∀ digits power, ¬SizeText (trim text.toList) digits power) :
      SizeAnswer text (.error (.malformed text))

theorem sizeAnswer_readSize (text : String) : SizeAnswer text (readSize text) := by
  rcases text_cases text with hblank | ⟨digits, power, hsize⟩ | ⟨hne, hnot⟩
  · rw [readSize_of_blank hblank]
    exact .empty hblank
  · rw [readSize_of_sizeText hsize]
    split_ifs with hfits
    · exact .size hsize hfits
    · exact .tooLarge hsize (Nat.le_of_not_lt hfits)
  · rw [readSize_of_not_sizeText hne hnot]
    exact .malformed hne hnot

/-- **Sizes are read by their grammar.** Every text gets the one answer that it has to get: blanks alone are no size, a
number with or without a suffix is the exact product or too large for 64 bits, and anything else is malformed. -/
theorem readSize_eq_iff (text : String) (answer : Except SizeError Nat) :
    readSize text = answer ↔ SizeAnswer text answer := by
  constructor
  · rintro rfl
    exact sizeAnswer_readSize text
  · intro h
    cases h with
    | empty h => exact readSize_of_blank h
    | size h hfits =>
      rw [readSize_of_sizeText h]
      exact if_pos hfits
    | tooLarge h hlarge =>
      rw [readSize_of_sizeText h]
      exact if_neg (Nat.not_lt.2 hlarge)
    | malformed hne hnot => exact readSize_of_not_sizeText hne hnot

example : readSize " 007 g" = .ok 7000000000 := by decide +kernel

end EdgeCache.Settings
