/-
White space and splitting: the characters of the Unicode property White_Space, trimming by them, and cutting a
text at a separator. Every reader in the library that trims or splits uses these definitions.

Main statements: `cutFirst_eq_some`, `cutLast_eq_some` (what stands on the two sides of a cut, and on which of them the
separator cannot stand again).
-/
namespace EdgeCache.Text

/-- the Unicode property White_Space -/
def isBlank (c : Char) : Bool :=
  let n := c.toNat
  (0x9 ≤ n && n ≤ 0xD) || n == 0x20 || n == 0x85 || n == 0xA0 || n == 0x1680 || (0x2000 ≤ n && n ≤ 0x200A) ||
    n == 0x2028 || n == 0x2029 || n == 0x202F || n == 0x205F || n == 0x3000

def trimStart (cs : List Char) : List Char := cs.dropWhile isBlank

def trimEnd : List Char → List Char
  | [] => []
  | c :: cs =>
    match trimEnd cs with
    | [] => if isBlank c then [] else [c]
    | d :: ds => c :: d :: ds

def trim (cs : List Char) : List Char := trimEnd (trimStart cs)

def trimmed (s : String) : String := String.ofList (trim s.toList)

theorem trimEnd_cons_of_cons {cs : List Char} {d : Char} {ds : List Char} (h : trimEnd cs = d :: ds) (c : Char) :
    trimEnd (c :: cs) = c :: d :: ds := by
  rw [trimEnd, h]

theorem trimEnd_trimEnd (cs : List Char) : trimEnd (trimEnd cs) = trimEnd cs := by
  induction cs with
  | nil => rfl
  | cons c cs ih =>
    cases h : trimEnd cs with
    | nil => by_cases hc : isBlank c <;> simp [trimEnd, h, hc]
    | cons d ds =>
      rw [h] at ih
      rw [trimEnd_cons_of_cons h, trimEnd_cons_of_cons ih]

/-- the pieces between separators, at least one -/
def splitOn (sep : Char) : List Char → List (List Char)
  | [] => [[]]
  | c :: cs =>
    if c = sep then [] :: splitOn sep cs
    else
      match splitOn sep cs with
      | [] => [[c]]
      | p :: ps => (c :: p) :: ps

/-- pieces with a separator between neighbours -/
def join (sep : Char) : List (List Char) → List Char
  | [] => []
  | [p] => p
  | p :: q :: ps => p ++ sep :: join sep (q :: ps)

theorem splitOn_ne_nil (sep : Char) (cs : List Char) : splitOn sep cs ≠ [] := by
  cases cs with
  | nil => simp [splitOn]
  | cons c cs =>
    rw [splitOn]
    split
    · simp
    · split <;> simp

/-- the parts before and after the first separator -/
def cutFirst (sep : Char) : List Char → Option (List Char × List Char)
  | [] => none
  | c :: cs => if c = sep then some ([], cs) else (cutFirst sep cs).map fun (a, b) => (c :: a, b)

/-- the parts before and after the last separator -/
def cutLast (sep : Char) : List Char → Option (List Char × List Char)
  | [] => none
  | c :: cs =>
    match cutLast sep cs with
    | some (a, b) => some (c :: a, b)
    | none => if c = sep then some ([], cs) else none

theorem cutFirst_eq_some {sep : Char} {cs a b : List Char} (h : cutFirst sep cs = some (a, b)) :
    cs = a ++ sep :: b ∧ sep ∉ a := by
  induction cs generalizing a with
  | nil => simp [cutFirst] at h
  | cons c cs ih =>
    by_cases hc : c = sep
    · simp only [cutFirst, hc, ↓reduceIte, Option.some.injEq, Prod.mk.injEq] at h
      obtain ⟨rfl, rfl⟩ := h
      simp [hc]
    · simp only [cutFirst, hc, ↓reduceIte, Option.map_eq_some_iff, Prod.mk.injEq, Prod.exists] at h
      obtain ⟨a', b', hcut, rfl, rfl⟩ := h
      obtain ⟨rfl, hn⟩ := ih hcut
      exact ⟨by simp, by simp [hn, Ne.symm hc]⟩

theorem cutLast_eq_none {sep : Char} {cs : List Char} (h : cutLast sep cs = none) : sep ∉ cs := by
  induction cs with
  | nil => simp
  | cons c cs ih =>
    cases hcut : cutLast sep cs with
    | some p => simp [cutLast, hcut] at h
    | none =>
      by_cases hc : c = sep
      · simp [cutLast, hcut, hc] at h
      · simp [ih hcut, Ne.symm hc]

theorem cutLast_eq_some {sep : Char} {cs a b : List Char} (h : cutLast sep cs = some (a, b)) :
    cs = a ++ sep :: b ∧ sep ∉ b := by
  induction cs generalizing a with
  | nil => simp [cutLast] at h
  | cons c cs ih =>
    cases hcut : cutLast sep cs with
    | some p =>
      simp only [cutLast, hcut, Option.some.injEq, Prod.mk.injEq] at h
      obtain ⟨rfl, rfl⟩ := h
      obtain ⟨hcs, hn⟩ := ih hcut
      exact ⟨by rw [hcs]; simp, hn⟩
    | none =>
      by_cases hc : c = sep
      · simp only [cutLast, hcut, hc, ↓reduceIte, Option.some.injEq, Prod.mk.injEq] at h
        obtain ⟨rfl, rfl⟩ := h
        exact ⟨by simp [hc], cutLast_eq_none hcut⟩
      · simp [cutLast, hcut, hc] at h

end EdgeCache.Text
