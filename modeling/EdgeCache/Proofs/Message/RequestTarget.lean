/-
What the parts of a readable request target can be.

- `wellFormed_of_read`: an authority has no slash. A path starts with one, or it is the asterisk, or there is none
  because the target is an authority alone.
- `visible_of_foldlM`: an authority is made of visible ASCII characters.
- `read_absolute`: a path from the root is the same behind a scheme and an authority.
-/
import Mathlib.Data.List.TakeWhile
import EdgeCache.Message.RequestTarget
import EdgeCache.Proofs.Outcome
import EdgeCache.Proofs.Text.Numerals

namespace EdgeCache.Message.RequestTarget

open EdgeCache.Text

/-- what holds of a target that was read -/
structure WellFormed (t : RequestTarget) : Prop where
  authority : '/' ∉ t.authority
  path : (t.path = [] ∧ t.authority ≠ []) ∨ t.path = ['*'] ∨ ∃ rest, t.path = '/' :: rest

variable {cs rest : List Char} {t : RequestTarget}

/-- an authority ends where a path, a query or a fragment starts -/
theorem takeAuthority_eq_ok {authority : List Char} (h : takeAuthority cs = .ok (authority, rest)) :
    '/' ∉ authority ∧ authority ++ rest = cs ∧ ∀ c cs', rest = c :: cs' → c = '/' ∨ c = '?' ∨ c = '#' := by
  unfold takeAuthority at h
  obtain ⟨st, -, h⟩ := ok_of_bind h
  rw [drop_takeWhile_length] at h
  split_ifs at h
  cases h
  refine ⟨?_, List.takeWhile_append_dropWhile, ?_⟩
  · intro hmem
    simpa using List.mem_takeWhile_imp hmem
  · intro c cs' hrest
    have hstop := List.head?_dropWhile_not (fun c => decide (c ≠ '/' ∧ c ≠ '?' ∧ c ≠ '#')) cs
    rw [hrest] at hstop
    simp only [List.head?_cons, decide_eq_false_iff_not] at hstop
    by_contra hne
    simp only [not_or] at hne
    exact hstop hne

theorem takeScheme_none (h : takeScheme cs = .ok (none, rest)) : rest = cs := by
  unfold takeScheme at h
  simp only at h
  split at h
  · split_ifs at h
    cases h
  · cases h
    rfl

/-- what stands in front of the query is kept as written -/
theorem takeWhile_readRest (h : readRest cs = .ok rest) :
    rest.takeWhile (· ≠ '?') = cs.takeWhile fun c => c ≠ '?' ∧ c ≠ '#' := by
  unfold readRest at h
  simp only at h
  have hpath : ∀ c ∈ cs.takeWhile (fun c => decide (c ≠ '?' ∧ c ≠ '#')), decide (c ≠ '?') = true := by
    intro c hc
    have := List.mem_takeWhile_imp hc
    simp only [decide_eq_true_eq] at this ⊢
    exact this.1
  split_ifs at h
  split at h
  · split_ifs at h
    cases h
    rw [List.takeWhile_append_of_pos hpath]
    simp
  · cases h
    exact List.takeWhile_eq_self_iff.2 hpath

theorem path_of_slash {cs' : List Char} (h : t.rest.takeWhile (· ≠ '?') = '/' :: cs') : t.path = '/' :: cs' := by
  have hne : t.rest ≠ [] := by
    intro hnil
    rw [hnil] at h
    cases h
  unfold path
  simp only
  rw [if_pos (Or.inr hne), h]
  rfl

theorem path_of_scheme (hscheme : t.scheme.isSome = true) (h : t.rest.takeWhile (· ≠ '?') = []) : t.path = ['/'] := by
  unfold path
  simp only
  rw [if_pos (Or.inl hscheme), h]
  rfl

theorem wellFormed_authority {authority : List Char} (h : takeAuthority cs = .ok (authority, [])) (hcs : cs ≠ []) :
    WellFormed ⟨none, authority, []⟩ := by
  obtain ⟨hslash, happend, -⟩ := takeAuthority_eq_ok h
  refine ⟨hslash, Or.inl ⟨rfl, ?_⟩⟩
  rintro rfl
  exact hcs happend.symm

theorem wellFormed_absolute {name authority rest' : List Char} (h : takeAuthority cs = .ok (authority, rest'))
    (hrest : readRest rest' = .ok rest) : WellFormed ⟨some name, authority, rest⟩ := by
  obtain ⟨hslash, -, hstop⟩ := takeAuthority_eq_ok h
  have hpath := takeWhile_readRest hrest
  refine ⟨hslash, Or.inr (Or.inr ?_)⟩
  cases rest' with
  | nil => exact ⟨[], path_of_scheme rfl hpath⟩
  | cons c cs' =>
    rcases hstop c cs' rfl with rfl | rfl | rfl
    · exact ⟨_, path_of_slash hpath⟩
    · exact ⟨[], path_of_scheme rfl hpath⟩
    · exact ⟨[], path_of_scheme rfl hpath⟩

/-- **A target that was read is well-formed.** -/
theorem wellFormed_of_read {s : String} (h : read s = .ok t) : WellFormed t := by
  unfold read at h
  simp only at h
  split_ifs at h
  split at h
  · cases h
  · rename_i hstar
    rw [hstar] at h
    cases h
    exact ⟨List.not_mem_nil, Or.inr (Or.inl rfl)⟩
  · rename_i cs hslash
    rw [hslash] at h
    cases hrest : readRest ('/' :: cs) with
    | error e => rw [hrest] at h; cases h
    | ok rest =>
      rw [hrest] at h
      cases h
      exact ⟨List.not_mem_nil, Or.inr (Or.inr ⟨_, path_of_slash (takeWhile_readRest hrest)⟩)⟩
  · rename_i c hc
    obtain ⟨⟨authority, rest⟩, hauthority, h⟩ := ok_of_bind h
    simp only at h
    split_ifs at h with hrest
    cases h
    subst hrest
    exact wellFormed_authority hauthority (by rw [hc]; simp)
  · rename_i hempty _ _ _
    obtain ⟨⟨scheme, cs⟩, hscheme, h⟩ := ok_of_bind h
    obtain ⟨⟨authority, rest'⟩, hauthority, h⟩ := ok_of_bind h
    cases scheme with
    | none =>
      simp only at h
      split_ifs at h with hrest
      cases h
      subst hrest
      rw [takeScheme_none hscheme] at hauthority
      exact wellFormed_authority hauthority hempty
    | some name =>
      simp only at h
      split_ifs at h
      obtain ⟨rest, hrest, h⟩ := ok_of_bind h
      cases h
      exact wellFormed_absolute hauthority hrest

/-! ## Authorities -/

/-- a text is an authority, and nothing follows it -/
def IsAuthority (s : String) : Prop := s ≠ "" ∧ takeAuthority s.toList = .ok (s.toList, [])

/-- a character that can be seen in ASCII -/
def IsVisible (c : Char) : Prop := 0x21 ≤ c.toNat ∧ c.toNat < 0x7F

instance (c : Char) : Decidable (IsVisible c) := inferInstanceAs (Decidable (_ ∧ _))

theorem IsVisible.not_blank {c : Char} (h : IsVisible c) : isBlank c = false := by
  refine forall_ascii (P := fun c => IsVisible c → isBlank c = false) ?_ (Nat.lt_succ_of_lt h.2) h
  decide

theorem visible_of_isAuthorityChar {c : Char} (h : isAuthorityChar c = true) : IsVisible c := by
  rcases Bool.or_eq_true_iff.1 h with halnum | hmark
  · exact forall_alphanum (P := IsVisible) (by decide) halnum
  · have hall : ∀ d ∈ "!$&'()*+,-.:;=@[]_~".toList, IsVisible d := by simp [IsVisible]
    exact hall c (List.contains_iff_mem.1 hmark)

theorem AuthorityScan.visible_of_step {st st' : AuthorityScan} {c : Char} (h : st.step c = .ok st') : IsVisible c := by
  unfold step at h
  simp only at h
  split_ifs at h with hcolon _ hopen _ hclose _ hat hpercent hother
  · rw [hcolon]; decide
  · rw [hopen]; decide
  · rw [hclose]; decide
  · rw [hat]; decide
  · rw [hpercent]; decide
  · exact visible_of_isAuthorityChar hother

theorem visible_of_foldlM {cs : List Char} {st st' : AuthorityScan} (h : cs.foldlM AuthorityScan.step st = .ok st') :
    ∀ c ∈ cs, IsVisible c := by
  induction cs generalizing st with
  | nil => simp
  | cons d cs ih =>
    rw [List.foldlM_cons] at h
    obtain ⟨st'', hstep, hrest⟩ := ok_of_bind h
    exact List.forall_mem_cons.2 ⟨AuthorityScan.visible_of_step hstep, ih hrest⟩

theorem takeAuthority_front {authority : List Char} (h : takeAuthority cs = .ok (authority, rest)) :
    authority = cs.takeWhile fun c => c ≠ '/' ∧ c ≠ '?' ∧ c ≠ '#' := by
  obtain ⟨st, -, h⟩ := ok_of_bind h
  split_ifs at h
  cases h
  rfl

theorem IsAuthority.visible {s : String} (h : IsAuthority s) : ∀ c ∈ s.toList, IsVisible c := by
  have hfront := takeAuthority_front h.2
  obtain ⟨st, hscan, -⟩ := ok_of_bind h.2
  rw [← hfront] at hscan
  exact visible_of_foldlM hscan

theorem IsAuthority.trimmed {s : String} (h : IsAuthority s) : trimmed s = s := by
  have hblank : ∀ c ∈ s.toList, isBlank c = false := fun c hc => (h.visible c hc).not_blank
  unfold Text.trimmed
  rw [trim_of_not_blank hblank, String.ofList_toList]

/-- an authority ends where a path starts -/
theorem takeAuthority_append {authority : List Char} (h : takeAuthority authority = .ok (authority, []))
    (hrest : rest.head? = some '/') : takeAuthority (authority ++ rest) = .ok (authority, rest) := by
  have hfront := takeAuthority_front h
  have hinside : ∀ c ∈ authority, decide (c ≠ '/' ∧ c ≠ '?' ∧ c ≠ '#') = true := by
    intro c hc
    rw [hfront] at hc
    exact List.mem_takeWhile_imp (p := fun c => decide (c ≠ '/' ∧ c ≠ '?' ∧ c ≠ '#')) hc
  have hstop : ∀ c ∈ rest.head?, decide (c ≠ '/' ∧ c ≠ '?' ∧ c ≠ '#') = false := by
    intro c hc
    rw [hrest] at hc
    cases hc
    rfl
  unfold takeAuthority at h ⊢
  rw [← hfront] at h
  rw [(run_append hinside hstop).1]
  obtain ⟨st, hscan, h⟩ := ok_of_bind h
  simp only [hscan]
  split_ifs at h with hbad
  show (if _ then _ else _) = _
  rw [if_neg hbad, List.drop_left]

/-- a text that starts with a slash is path and query alone -/
theorem read_rooted {path : String} (hslash : path.toList.head? = some '/') (h : read path = .ok t) :
    readRest path.toList = .ok t.rest ∧ t = ⟨none, [], t.rest⟩ := by
  obtain ⟨cs, hcs⟩ := List.head?_eq_some_iff.1 hslash
  unfold read at h
  simp only [hcs] at h
  split_ifs at h
  cases hrest : readRest ('/' :: cs) with
  | error e => rw [hrest] at h; cases h
  | ok rest =>
    rw [hrest] at h
    cases h
    rw [hcs]
    exact ⟨hrest, rfl⟩

theorem read_absolute {authority path : String} (hauthority : IsAuthority authority)
    (hslash : path.toList.head? = some '/') (hread : read path = .ok t)
    (hlength : ("http://" ++ authority ++ path).utf8ByteSize ≤ maxLength) :
    read ("http://" ++ authority ++ path) = .ok ⟨some "http".toList, authority.toList, t.rest⟩ := by
  have hcs : ("http://" ++ authority ++ path).toList =
      'h' :: 't' :: 't' :: 'p' :: ':' :: '/' :: '/' :: (authority.toList ++ path.toList) := by simp
  have hscheme : takeScheme ('h' :: 't' :: 't' :: 'p' :: ':' :: '/' :: '/' :: (authority.toList ++ path.toList)) =
      .ok (some "http".toList, authority.toList ++ path.toList) := rfl
  have hne : authority.toList ≠ [] := by
    intro hnil
    exact hauthority.1 (String.toList_inj.1 hnil)
  unfold read
  simp only [hcs, if_neg (Nat.not_lt.2 hlength), hscheme, takeAuthority_append hauthority.2 hslash,
    (read_rooted hslash hread).1, if_neg hne, bind, Except.bind]
  rfl

end EdgeCache.Message.RequestTarget
