/-
Numbers and pieces that are written and read again.

- `splitOn_join`: pieces that do not hold the separator come back from the text that they make.
- `splitOn_join_flatMap`: a text made of texts has the pieces of all of them.
- `exists_append_trim`: trimming takes away nothing but blanks.
- `digitsFrom_toDigits`, `digits?_toDigits`: a number comes back from its decimal digits.
- `hexValue?_digitChar`: so does a digit of base 16.
-/
import Mathlib.Data.List.TakeWhile
import Mathlib.Tactic.SplitIfs
import EdgeCache.Text.Blank
import EdgeCache.Text.Decimal

namespace EdgeCache.Text

/-- what holds for each of the first 128 characters holds for ASCII -/
theorem forall_ascii {P : Char → Prop} (h : ∀ n < 128, P (Char.ofNat n)) {c : Char} (hc : c.toNat < 128) : P c :=
  Char.ofNat_toNat c ▸ h c.toNat hc

theorem forall_digit {P : Char → Prop} (h : ∀ n < 128, (Char.ofNat n).isDigit = true → P (Char.ofNat n)) {c : Char}
    (hc : c.isDigit = true) : P c := by
  have hlt : c.toNat < 128 := by
    have hle : c.toNat ≤ 57 := by simpa [Char.isDigit, UInt32.le_iff_toNat_le] using (Bool.and_eq_true_iff.1 hc).2
    omega
  exact forall_ascii (P := fun c => c.isDigit = true → P c) h hlt hc

theorem forall_alphanum {P : Char → Prop} (h : ∀ n < 128, (Char.ofNat n).isAlphanum = true → P (Char.ofNat n)) {c : Char}
    (hc : c.isAlphanum = true) : P c := by
  have hlt : c.toNat < 128 := by
    rcases Bool.or_eq_true_iff.1 hc with halpha | hdigit
    · rcases Bool.or_eq_true_iff.1 halpha with hupper | hlower
      · have hle : c.toNat ≤ 'Z'.toNat := (of_decide_eq_true hupper).2
        exact Nat.lt_of_le_of_lt hle (by decide)
      · have hle : c.toNat ≤ 'z'.toNat := of_decide_eq_true (Bool.and_eq_true_iff.1 hlower).2
        exact Nat.lt_of_le_of_lt hle (by decide)
    · exact forall_digit (P := fun c => c.toNat < 128) (by decide) hdigit
  exact forall_ascii (P := fun c => c.isAlphanum = true → P c) h hlt hc

theorem toNat_ofNat : ∀ n < 128, (Char.ofNat n).toNat = n := by decide

/-! ## Pieces -/

variable {sep : Char}

theorem drop_takeWhile_length (p : Char → Bool) (cs : List Char) :
    cs.drop (cs.takeWhile p).length = cs.dropWhile p := by
  have h : ((cs.takeWhile p) ++ cs.dropWhile p).drop (cs.takeWhile p).length = cs.dropWhile p := List.drop_left
  rwa [List.takeWhile_append_dropWhile] at h

/-- a run of characters ends where the first other one stands -/
theorem run_append {p : Char → Bool} {front rest : List Char} (hfront : ∀ c ∈ front, p c = true)
    (hstop : ∀ c ∈ rest.head?, p c = false) :
    (front ++ rest).takeWhile p = front ∧ (front ++ rest).dropWhile p = rest := by
  rw [List.takeWhile_append_of_pos hfront, List.dropWhile_append_of_pos hfront]
  cases rest with
  | nil => simp
  | cons c rest =>
    have hc := hstop c rfl
    simp [hc]

theorem splitOn_of_notMem {cs : List Char} (h : sep ∉ cs) : splitOn sep cs = [cs] := by
  induction cs with
  | nil => rfl
  | cons c cs ih =>
    obtain ⟨hc, hcs⟩ := List.ne_and_not_mem_of_not_mem_cons h
    rw [splitOn, if_neg hc.symm, ih hcs]

/-- the pieces on both sides of a separator are those of the two sides -/
theorem splitOn_append (front rest : List Char) :
    splitOn sep (front ++ sep :: rest) = splitOn sep front ++ splitOn sep rest := by
  induction front with
  | nil => simp [splitOn]
  | cons c front ih =>
    by_cases hc : c = sep
    · rw [List.cons_append, splitOn, if_pos hc, ih, splitOn, if_pos hc, List.cons_append]
    · rw [List.cons_append, splitOn, if_neg hc, ih, splitOn, if_neg hc]
      cases hfront : splitOn sep front with
      | nil => exact absurd hfront (splitOn_ne_nil sep front)
      | cons p ps => rfl

/-- the pieces of texts are those of one text that has a separator between neighbours -/
theorem splitOn_join_flatMap {ps : List (List Char)} (hne : ps ≠ []) :
    splitOn sep (join sep ps) = ps.flatMap (splitOn sep) := by
  induction ps with
  | nil => exact absurd rfl hne
  | cons p ps ih =>
    cases ps with
    | nil => rw [join, List.flatMap_singleton]
    | cons q qs =>
      rw [join, splitOn_append, ih (List.cons_ne_nil q qs)]
      rfl

theorem splitOn_join {ps : List (List Char)} (hne : ps ≠ []) (h : ∀ p ∈ ps, sep ∉ p) : splitOn sep (join sep ps) = ps := by
  have hself : ps.map (splitOn sep) = ps.map fun p => [p] := List.map_congr_left fun p hp => splitOn_of_notMem (h p hp)
  rw [splitOn_join_flatMap hne, List.flatMap_def, hself, ← List.flatMap_def, List.flatMap_singleton']

theorem cutFirst_append {sep : Char} {front : List Char} (h : sep ∉ front) (rest : List Char) :
    cutFirst sep (front ++ sep :: rest) = some (front, rest) := by
  induction front with
  | nil => rw [List.nil_append, cutFirst, if_pos rfl]
  | cons c front ih =>
    obtain ⟨hc, hfront⟩ := List.ne_and_not_mem_of_not_mem_cons h
    rw [List.cons_append, cutFirst, if_neg hc.symm, ih hfront]
    rfl

theorem cutFirst_eq_some_iff {cs front rest : List Char} :
    cutFirst sep cs = some (front, rest) ↔ cs = front ++ sep :: rest ∧ sep ∉ front := by
  constructor
  · exact cutFirst_eq_some
  · rintro ⟨rfl, hnot⟩
    exact cutFirst_append hnot rest

theorem cutLast_of_notMem {cs : List Char} (h : sep ∉ cs) : cutLast sep cs = none := by
  cases hcut : cutLast sep cs with
  | none => rfl
  | some p =>
    obtain ⟨hcs, -⟩ := cutLast_eq_some (a := p.1) (b := p.2) hcut
    exact absurd (hcs ▸ List.mem_append_right _ List.mem_cons_self) h

theorem cutLast_append {rest : List Char} (h : sep ∉ rest) (front : List Char) :
    cutLast sep (front ++ sep :: rest) = some (front, rest) := by
  induction front with
  | nil => rw [List.nil_append, cutLast, cutLast_of_notMem h, if_pos rfl]
  | cons c front ih => rw [List.cons_append, cutLast, ih]

theorem intercalate_eq_join (sep : Char) (ps : List (List Char)) : [sep].intercalate ps = join sep ps := by
  induction ps with
  | nil => rfl
  | cons p ps ih =>
    cases ps with
    | nil => simp [join]
    | cons q qs => rw [List.intercalate_cons_cons, ih, join]; simp

theorem mem_intercalate {α : Type} {sep : α} {c : α} {ps : List (List α)} (h : c ∈ [sep].intercalate ps) :
    c = sep ∨ ∃ p ∈ ps, c ∈ p := by
  induction ps with
  | nil => cases h
  | cons p ps ih =>
    cases ps with
    | nil => exact .inr ⟨p, List.mem_cons_self, by simpa using h⟩
    | cons q qs =>
      rw [List.intercalate_cons_cons, List.mem_append, List.mem_append, List.mem_singleton] at h
      rcases h with (hp | rfl) | hrest
      · exact .inr ⟨p, List.mem_cons_self, hp⟩
      · exact .inl rfl
      · exact (ih hrest).imp_right fun ⟨r, hr, hc⟩ => ⟨r, List.mem_cons_of_mem p hr, hc⟩

theorem mem_join {c : Char} {ps : List (List Char)} (h : c ∈ join sep ps) : c = sep ∨ ∃ p ∈ ps, c ∈ p :=
  mem_intercalate (intercalate_eq_join sep ps ▸ h)

/-- things that are read from what is written for them come back in a row -/
theorem mapM_map {α β : Type} {read : β → Option α} {write : α → β} {as : List α} (h : ∀ a ∈ as, read (write a) = some a) :
    (as.map write).mapM read = some as := by
  induction as with
  | nil => rfl
  | cons a as ih =>
    rw [List.map_cons, List.mapM_cons, h a List.mem_cons_self, ih fun b hb => h b (List.mem_cons_of_mem a hb)]
    rfl

/-- whatever comes out of a row of steps comes out of one of them -/
theorem exists_of_mem_mapM {α β : Type} {f : α → Option β} {as : List α} {bs : List β} (h : as.mapM f = some bs) {b : β}
    (hb : b ∈ bs) : ∃ a ∈ as, f a = some b := by
  induction as generalizing bs with
  | nil =>
    cases h
    cases hb
  | cons a as ih =>
    rw [List.mapM_cons] at h
    obtain ⟨b', hb', h⟩ := Option.bind_eq_some_iff.1 h
    obtain ⟨bs', hbs', h⟩ := Option.bind_eq_some_iff.1 h
    cases h
    rcases List.mem_cons.1 hb with rfl | hb
    · exact ⟨a, List.mem_cons_self, hb'⟩
    · obtain ⟨a', ha', hf⟩ := ih hbs' hb
      exact ⟨a', List.mem_cons_of_mem a ha', hf⟩

/-! ## Blanks -/

theorem isBlank_of_isDigit {c : Char} (h : c.isDigit = true) : isBlank c = false :=
  forall_digit (P := fun c => isBlank c = false) (by decide) h

theorem trimStart_append {gap : List Char} (hgap : ∀ c ∈ gap, isBlank c = true) (cs : List Char) :
    trimStart (gap ++ cs) = trimStart cs :=
  List.dropWhile_append_of_pos hgap

theorem trimEnd_of_blank {gap : List Char} (hgap : ∀ c ∈ gap, isBlank c = true) : trimEnd gap = [] := by
  induction gap with
  | nil => rfl
  | cons c gap ih =>
    obtain ⟨hc, hgap⟩ := List.forall_mem_cons.1 hgap
    rw [trimEnd, ih hgap]
    exact if_pos hc

theorem trimEnd_append {gap : List Char} (hgap : ∀ c ∈ gap, isBlank c = true) (cs : List Char) :
    trimEnd (cs ++ gap) = trimEnd cs := by
  induction cs with
  | nil => exact trimEnd_of_blank hgap
  | cons c cs ih => rw [List.cons_append, trimEnd, trimEnd, ih]

theorem trimEnd_concat {c : Char} (hc : isBlank c = false) (cs : List Char) : trimEnd (cs ++ [c]) = cs ++ [c] := by
  induction cs with
  | nil => simp [trimEnd, hc]
  | cons d cs ih =>
    cases hcs : cs ++ [c] with
    | nil => exact absurd hcs (by simp)
    | cons e es =>
      rw [hcs] at ih
      rw [List.cons_append, hcs, trimEnd_cons_of_cons ih]

theorem exists_trimEnd_append (cs : List Char) : ∃ gap, cs = trimEnd cs ++ gap ∧ ∀ c ∈ gap, isBlank c = true := by
  induction cs with
  | nil => exact ⟨[], rfl, by simp⟩
  | cons c cs ih =>
    obtain ⟨gap, hcs, hgap⟩ := ih
    cases htrim : trimEnd cs with
    | nil =>
      rw [htrim, List.nil_append] at hcs
      subst hcs
      by_cases hc : isBlank c = true
      · exact ⟨c :: cs, by simp [trimEnd, htrim, hc], List.forall_mem_cons.2 ⟨hc, hgap⟩⟩
      · exact ⟨cs, by simp [trimEnd, htrim, hc], hgap⟩
    | cons d ds =>
      rw [htrim] at hcs
      exact ⟨gap, by rw [trimEnd_cons_of_cons htrim, List.cons_append, ← hcs], hgap⟩

/-- a text is what is left of it when it is trimmed, between blanks -/
theorem exists_append_trim (cs : List Char) :
    ∃ front back, cs = front ++ (trim cs ++ back) ∧ (∀ c ∈ front, isBlank c = true) ∧ ∀ c ∈ back, isBlank c = true := by
  obtain ⟨back, hcs, hback⟩ := exists_trimEnd_append (trimStart cs)
  refine ⟨cs.takeWhile isBlank, back, ?_, fun c hc => List.mem_takeWhile_imp hc, hback⟩
  calc
    cs = cs.takeWhile isBlank ++ trimStart cs := List.takeWhile_append_dropWhile.symm
    _ = cs.takeWhile isBlank ++ (trim cs ++ back) := congrArg _ hcs

theorem trim_of_not_blank {cs : List Char} (h : ∀ c ∈ cs, isBlank c = false) : trim cs = cs := by
  obtain ⟨front, back, hcs, hfront, hback⟩ := exists_append_trim cs
  have hnone : ∀ gap : List Char, (∀ c ∈ gap, isBlank c = true) → (∀ c ∈ gap, c ∈ cs) → gap = [] := by
    intro gap hgap hmem
    apply List.eq_nil_iff_forall_not_mem.2
    intro c hc
    have hblank := hgap c hc
    rw [h c (hmem c hc)] at hblank
    cases hblank
  have hf : front = [] := hnone front hfront fun c hc => by rw [hcs]; simp [hc]
  have hb : back = [] := hnone back hback fun c hc => by rw [hcs]; simp [hc]
  rw [hf, hb, List.nil_append, List.append_nil] at hcs
  exact hcs.symm

/-! ## Digits -/

theorem digitsFrom_toDigits (n : Nat) : digitsFrom 0 (Nat.toDigits 10 n) = n := Nat.ofDigitChars_ten_toDigits

theorem digits?_toDigits (n : Nat) : digits? (Nat.toDigits 10 n) = some n := by
  have hdigits : (Nat.toDigits 10 n).all Char.isDigit = true :=
    List.all_eq_true.2 fun c hc => Nat.isDigit_of_mem_toDigits (by decide) (by decide) hc
  unfold digits?
  rw [if_pos ⟨Nat.toDigits_ne_nil, hdigits⟩, digitsFrom_toDigits]

/-- digits of a base are those of the numbers below it -/
theorem eq_digitChar_of_mem {base n : Nat} (hbase : 1 < base) {c : Char} (h : c ∈ Nat.toDigits base n) :
    ∃ d < base, c = d.digitChar := by
  induction n using Nat.strongRecOn with
  | _ n ih =>
    by_cases hn : n < base
    · rw [Nat.toDigits_of_lt_base hn] at h
      exact ⟨n, hn, List.mem_singleton.1 h⟩
    · rw [Nat.toDigits_of_base_le hbase (Nat.le_of_not_lt hn), List.mem_append, List.mem_singleton] at h
      rcases h with hfront | rfl
      · exact ih _ (Nat.div_lt_self (by omega) hbase) hfront
      · exact ⟨n % base, Nat.mod_lt _ (by omega), rfl⟩

theorem hexValue?_digitChar : ∀ d < 16, hexValue? d.digitChar = some d := by decide

theorem hexValue?_lt {c : Char} {d : Nat} (h : hexValue? c = some d) : d < 16 := by
  unfold hexValue? at h
  split_ifs at h with hdigit hsmall hcapital
  · cases h
    exact forall_digit (P := fun c => digitValue c < 16) (by decide) hdigit
  · cases h
    have hc : c.toNat ≤ 102 := hsmall.2
    have ha : 'a'.toNat = 97 := rfl
    omega
  · cases h
    have hc : c.toNat ≤ 70 := hcapital.2
    have ha : 'A'.toNat = 65 := rfl
    omega

end EdgeCache.Text
