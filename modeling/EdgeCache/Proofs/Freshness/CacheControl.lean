/-
Reading the directives of Cache-Control in one pass gives what they mean.

- `directiveSeconds?_eq_some_iff`: a directive is read to give a number of seconds exactly if it does.
- `ofDirectives?_eq`: the pass comes to the first such number of each kind, unless there is a prohibition.
- `means_iff`: so it decides what the directives mean, and they mean one thing only.
- `ofDirectives?_lines`, `ofDirectives?_congr`: how they are spread over lines does not count, nor does their order,
  except among those of one name.
- `cacheControl_decides`: all of it for a header.
-/
import Mathlib.Tactic.ByContra
import EdgeCache.Freshness.CacheControl
import EdgeCache.Proofs.Freshness.Directives
import EdgeCache.Proofs.Text.Numerals

namespace EdgeCache.Freshness

open EdgeCache.Text EdgeCache.Time EdgeCache.Message

variable {name : String} {directive : List Char} {directives : List (List Char)}

/-! ## One directive -/

theorem digits?_eq_some_iff {cs : List Char} {n : Nat} :
    digits? cs = some n ↔ cs ≠ [] ∧ (∀ c ∈ cs, c.isDigit = true) ∧ digitsFrom 0 cs = n := by
  unfold digits?
  rw [Option.ite_none_right_eq_some, List.all_eq_true, Option.some.injEq, and_assoc]

theorem count?_eq_some_iff {cs : List Char} {n : Nat} : count? cs = some n ↔ Writes cs n ∧ n < countLimit := by
  unfold count? Writes
  rw [Option.filter_eq_some_iff, decide_eq_true_eq]
  refine and_congr_left fun _ => ?_
  split
  · rename_i r
    rw [digits?_eq_some_iff]
    constructor
    · rintro ⟨hne, hdigits, hn⟩
      exact ⟨r, .inr rfl, hne, hdigits, hn⟩
    · rintro ⟨digits, rfl | heq, hne, hdigits, hn⟩
      · -- a plus sign is no digit
        cases hdigits '+' List.mem_cons_self
      · obtain rfl := List.tail_eq_of_cons_eq heq
        exact ⟨hne, hdigits, hn⟩
  · rename_i hplus
    rw [digits?_eq_some_iff]
    constructor
    · rintro ⟨hne, hdigits, hn⟩
      exact ⟨cs, .inl rfl, hne, hdigits, hn⟩
    · rintro ⟨digits, rfl | heq, hne, hdigits, hn⟩
      · exact ⟨hne, hdigits, hn⟩
      · exact absurd heq (hplus digits)

theorem seconds?_eq_some_iff {cs : List Char} {n : Nat} :
    seconds? cs = some n ↔ Writes (unquote (trim cs)) n ∧ 1 ≤ n ∧ n ≤ 2 ^ 64 - 1 := by
  have hlimit : countLimit = 2 ^ 64 := by decide
  unfold seconds?
  rw [Option.filter_eq_some_iff, count?_eq_some_iff, decide_eq_true_eq, and_assoc, hlimit]
  refine and_congr_right fun _ => ?_
  omega

theorem directiveSeconds?_eq_some_iff {n : Nat} :
    directiveSeconds? name.toList directive = some n ↔ Gives name directive n := by
  unfold directiveSeconds? Gives Assigns isWord
  constructor
  · intro h
    split at h
    · rename_i label value hcut
      obtain ⟨hparts, hlabel⟩ := cutFirst_eq_some hcut
      rw [Option.ite_none_right_eq_some, decide_eq_true_eq] at h
      exact ⟨value, ⟨label, hparts, hlabel, h.1⟩, seconds?_eq_some_iff.1 h.2⟩
    · cases h
  · rintro ⟨value, ⟨label, hparts, hlabel, hname⟩, hvalue⟩
    rw [cutFirst_eq_some_iff.2 ⟨hparts, hlabel⟩]
    simp only [hname, decide_true, if_true]
    exact seconds?_eq_some_iff.2 hvalue

theorem directiveSeconds?_eq_none_iff :
    directiveSeconds? name.toList directive = none ↔ ∀ n, ¬Gives name directive n := by
  rw [Option.eq_none_iff_forall_ne_some]
  exact forall_congr' fun n => not_congr directiveSeconds?_eq_some_iff

theorem isNamed_of_directiveSeconds? (h : directiveSeconds? name.toList directive ≠ none) : isNamed name directive = true := by
  unfold directiveSeconds? at h
  unfold isNamed
  cases hcut : cutFirst '=' directive with
  | none =>
    rw [hcut] at h
    exact absurd rfl h
  | some parts =>
    rw [hcut] at h
    by_contra hother
    simp only [Option.any_some, Bool.not_eq_true] at hother
    simp only [hother, Bool.false_eq_true, if_false, ne_eq, not_true] at h

/-! ## The first of a kind -/

/-- the seconds that the first directive of a name gives -/
def firstSeconds? (name : String) (directives : List (List Char)) : Option Nat :=
  directives.findSome? (directiveSeconds? name.toList)

theorem firstSeconds?_eq_some_iff {n : Nat} : firstSeconds? name directives = some n ↔ GivesFirst name directives n := by
  unfold firstSeconds? GivesFirst
  simp only [List.findSome?_eq_some_iff, directiveSeconds?_eq_some_iff, directiveSeconds?_eq_none_iff]

theorem firstSeconds?_eq_none_iff : firstSeconds? name directives = none ↔ GivesNone name directives := by
  unfold firstSeconds? GivesNone
  simp only [List.findSome?_eq_none_iff, directiveSeconds?_eq_none_iff]

theorem firstSeconds?_cons (name : String) (d : List Char) (rest : List (List Char)) :
    firstSeconds? name (d :: rest) = (directiveSeconds? name.toList d <|> firstSeconds? name rest) := by
  unfold firstSeconds?
  rw [List.findSome?_cons]
  cases directiveSeconds? name.toList d <;> rfl

theorem firstSeconds?_filter (name : String) (directives : List (List Char)) :
    firstSeconds? name (directives.filter (isNamed name)) = firstSeconds? name directives := by
  induction directives with
  | nil => rfl
  | cons d rest ih =>
    by_cases hnamed : isNamed name d = true
    · rw [List.filter_cons_of_pos hnamed, firstSeconds?_cons, firstSeconds?_cons, ih]
    · have hnone : directiveSeconds? name.toList d = none := by
        by_contra hgives
        exact hnamed (isNamed_of_directiveSeconds? hgives)
      rw [List.filter_cons_of_neg hnamed, firstSeconds?_cons, hnone, ih]
      rfl

/-! ## All directives -/

/-- a pass over directives that forbid nothing keeps the first seconds of both kinds -/
theorem foldlM_step_of_allowed (hallowed : ∀ d ∈ directives, isProhibition d = false) (st : DirectiveScan) :
    directives.foldlM DirectiveScan.step st =
      some ⟨st.shared <|> firstSeconds? "s-maxage" directives, st.general <|> firstSeconds? "max-age" directives⟩ := by
  induction directives generalizing st with
  | nil =>
    unfold firstSeconds?
    simp
  | cons d rest ih =>
    have hstep : st.step d = some ⟨st.shared <|> directiveSeconds? "s-maxage".toList d,
        st.general <|> directiveSeconds? "max-age".toList d⟩ := by
      unfold DirectiveScan.step
      rw [hallowed d List.mem_cons_self]
      rfl
    rw [List.foldlM_cons, hstep]
    show rest.foldlM DirectiveScan.step _ = _
    rw [ih fun e he => hallowed e (List.mem_cons_of_mem d he), firstSeconds?_cons, firstSeconds?_cons]
    simp only [Option.orElse_eq_or, Option.orElse_eq_orElse, Option.or_assoc]

/-- **One pass over the directives** finds a prohibition wherever it stands, and else the first seconds for shared caches, or
the first seconds for all if there are none. -/
theorem ofDirectives?_eq (directives : List (List Char)) :
    ofDirectives? directives =
      if directives.any isProhibition then some .forbidden
      else (firstSeconds? "s-maxage" directives <|> firstSeconds? "max-age" directives).map fun n =>
        .lifetime (.ofSeconds n) := by
  split_ifs with hsome
  · rw [ofDirectives?_eq_forbidden_iff]
    exact List.any_eq_true.1 hsome
  · have hallowed : ∀ d ∈ directives, isProhibition d = false := by simpa using hsome
    unfold ofDirectives?
    rw [foldlM_step_of_allowed hallowed]
    rfl

theorem any_isProhibition_iff : directives.any isProhibition = true ↔ ∃ d ∈ directives, Forbids d := by
  rw [List.any_eq_true]
  exact exists_congr fun d => and_congr_right fun _ => isProhibition_iff d

theorem any_isProhibition_of_allowed (h : ∀ d ∈ directives, ¬Forbids d) : ¬directives.any isProhibition = true := by
  rw [any_isProhibition_iff]
  rintro ⟨d, hd, hforbids⟩
  exact h d hd hforbids

variable {otherwise d : Decision}

/-- what directives mean is what the pass decides -/
theorem Means.eq_getD (h : Means directives otherwise d) : d = (ofDirectives? directives).getD otherwise := by
  rw [ofDirectives?_eq]
  cases h with
  | forbidden one =>
    rw [if_pos (any_isProhibition_iff.2 one)]
    rfl
  | shared allowed first =>
    rw [if_neg (any_isProhibition_of_allowed allowed), firstSeconds?_eq_some_iff.2 first]
    rfl
  | general allowed noShared first =>
    rw [if_neg (any_isProhibition_of_allowed allowed), firstSeconds?_eq_none_iff.2 noShared,
      firstSeconds?_eq_some_iff.2 first]
    rfl
  | silent allowed noShared noGeneral =>
    rw [if_neg (any_isProhibition_of_allowed allowed), firstSeconds?_eq_none_iff.2 noShared,
      firstSeconds?_eq_none_iff.2 noGeneral]
    rfl

/-- what the pass decides, the directives mean -/
theorem means_getD (directives : List (List Char)) (otherwise : Decision) :
    Means directives otherwise ((ofDirectives? directives).getD otherwise) := by
  rw [ofDirectives?_eq]
  split_ifs with hsome
  · exact .forbidden (any_isProhibition_iff.1 hsome)
  · have hallowed : ∀ d ∈ directives, ¬Forbids d := fun d hd hforbids => hsome (any_isProhibition_iff.2 ⟨d, hd, hforbids⟩)
    cases hshared : firstSeconds? "s-maxage" directives with
    | some n => exact .shared hallowed (firstSeconds?_eq_some_iff.1 hshared)
    | none =>
      have hnone := firstSeconds?_eq_none_iff.1 hshared
      cases hgeneral : firstSeconds? "max-age" directives with
      | some n => exact .general hallowed hnone (firstSeconds?_eq_some_iff.1 hgeneral)
      | none => exact .silent hallowed hnone (firstSeconds?_eq_none_iff.1 hgeneral)

theorem means_iff : Means directives otherwise d ↔ d = (ofDirectives? directives).getD otherwise :=
  ⟨Means.eq_getD, fun h => h ▸ means_getD directives otherwise⟩

example : ofDirectives? (["max-age=60", "s-maxage=0", "S-MaxAge = \"5\"", "s-maxage=9"].map String.toList) =
    some (.lifetime (.ofSeconds 5)) := by decide

theorem ofDirectives?_ne_none
    (h : ∃ d ∈ directives, Forbids d ∨ ∃ n, Gives "s-maxage" d n ∨ Gives "max-age" d n) : ofDirectives? directives ≠ none := by
  obtain ⟨d, hd, hdecides⟩ := h
  rw [ofDirectives?_eq]
  split_ifs with hsome
  · exact Option.some_ne_none _
  · intro hnone
    rw [Option.map_eq_none_iff, Option.orElse_eq_orElse, Option.orElse_eq_or, Option.or_eq_none_iff] at hnone
    obtain ⟨hshared, hgeneral⟩ := hnone
    rcases hdecides with hforbids | ⟨n, hgives | hgives⟩
    · exact hsome (any_isProhibition_iff.2 ⟨d, hd, hforbids⟩)
    · exact firstSeconds?_eq_none_iff.1 hshared d hd n hgives
    · exact firstSeconds?_eq_none_iff.1 hgeneral d hd n hgives

/-- the order of directives does not count, except among those of one of the two names -/
theorem ofDirectives?_congr {others : List (List Char)} (hperm : others.Perm directives)
    (hnamed : ∀ name ∈ ["s-maxage", "max-age"], others.filter (isNamed name) = directives.filter (isNamed name)) :
    ofDirectives? others = ofDirectives? directives := by
  have hfirst : ∀ name ∈ ["s-maxage", "max-age"], firstSeconds? name others = firstSeconds? name directives := by
    intro name hname
    rw [← firstSeconds?_filter name others, hnamed name hname, firstSeconds?_filter]
  rw [ofDirectives?_eq, ofDirectives?_eq, hperm.any_eq, hfirst "s-maxage" (by simp), hfirst "max-age" (by simp)]

/-! ## A header -/

variable {h g : Header}

/-- the elements of a name are those of all its lines in one -/
theorem elements_eq_of_lines {name : String} (hne : h.lines name ≠ []) :
    h.elements name = (splitOn ',' (",".intercalate (h.lines name)).toList).map trim := by
  have hcomma : ",".toList = [','] := rfl
  unfold Header.elements
  rw [String.toList_intercalate, hcomma, intercalate_eq_join, splitOn_join_flatMap (by simpa using hne),
    List.flatMap_map, List.map_flatMap]

theorem ofDirectives?_lines (h : Header) (name : String) :
    ofDirectives? (h.elements name) = ofDirectives? ((splitOn ',' (",".intercalate (h.lines name)).toList).map trim) := by
  by_cases hlines : h.lines name = []
  · -- one empty directive stands for none at all
    unfold Header.elements
    rw [hlines]
    decide
  · rw [elements_eq_of_lines hlines]

/-- a header of which Cache-Control decides nothing is decided as without it -/
theorem ofHeader_eq_getD (h : Header) (now : Moment) :
    Decision.ofHeader h now =
      (ofDirectives? (h.elements "cache-control")).getD (.ofHeader (h.without "cache-control") now) := by
  have hnone : (h.without "cache-control").elements "cache-control" = [] := by
    unfold Header.elements Header.lines
    rw [Header.values_without_self]
    rfl
  have hline : ∀ name, name ≠ "cache-control" → (h.without "cache-control").line? name = h.line? name := by
    intro name hname
    unfold Header.line? Header.value?
    rw [Header.values_without_of_ne h hname]
  unfold Decision.ofHeader
  rw [hnone, hline "expires" (by decide), hline "age" (by decide)]
  cases ofDirectives? (h.elements "cache-control") <;> rfl

/-- headers decide the same if their directives do and they say the same otherwise -/
theorem ofHeader_eq_of_ofDirectives? (hsame : SameOtherwise h g)
    (hdirectives : ofDirectives? (g.elements "cache-control") = ofDirectives? (h.elements "cache-control")) (now : Moment) :
    Decision.ofHeader g now = .ofHeader h now := by
  have hwithout : Decision.ofHeader (g.without "cache-control") now = .ofHeader (h.without "cache-control") now := by
    refine ofHeader_congr ?_ ?_ ?_ now
    · rw [Header.values_without_self, Header.values_without_self]
    · rw [Header.values_without_of_ne g (by decide), Header.values_without_of_ne h (by decide), hsame.1]
    · rw [Header.values_without_of_ne g (by decide), Header.values_without_of_ne h (by decide), hsame.2]
  rw [ofHeader_eq_getD g, ofHeader_eq_getD h, hdirectives, hwithout]

/-- **Cache-Control has its meaning**: the decision about every header at every moment is that of a prohibition, else of
the first lifetime for shared caches, else of the first lifetime for all, else that without Cache-Control. -/
theorem cacheControl_decides (h : Header) (now : Moment) : FollowsCacheControl h now where
  meant d := by rw [means_iff, ← ofHeader_eq_getD]
  alone hdecides g moment helements := by
    obtain ⟨d, hd⟩ := Option.ne_none_iff_exists'.1 (ofDirectives?_ne_none hdecides)
    rw [ofHeader_eq_getD g, ofHeader_eq_getD h, helements, hd, Option.getD_some, Option.getD_some]
  lines g hsame hlines := ofHeader_eq_of_ofDirectives? hsame (by rw [ofDirectives?_lines g, hlines, ← ofDirectives?_lines h]) now
  order g hsame hperm hnamed := ofHeader_eq_of_ofDirectives? hsame (ofDirectives?_congr hperm hnamed) now

end EdgeCache.Freshness
