/-
What a header says about storing: which directives forbid it, and which fields it depends on.

- `ofDirectives?_eq_forbidden_iff`: directives forbid storing if and only if one of them is a prohibition, wherever it
  stands and whatever the others are.
- `ofHeader_of_prohibition`: a prohibition in a readable Cache-Control line decides.
- `endToEnd_of_prohibits`: it still does after the fields of the connection are taken out, unless Cache-Control is one.
- `ofHeader_congr`: nothing else than Cache-Control, Expires and Age is read.
-/
import Mathlib.Logic.Basic
import EdgeCache.Freshness.Decision
import EdgeCache.Proofs.Message.HopByHop

namespace EdgeCache.Freshness

open EdgeCache.Text EdgeCache.Time EdgeCache.Message

theorem step_eq_none_iff (st : DirectiveScan) (directive : List Char) :
    st.step directive = none ↔ isProhibition directive = true := by
  unfold DirectiveScan.step
  by_cases hp : isProhibition directive = true
  · simp [hp]
  · simp [hp]

theorem foldlM_step_eq_none_iff (directives : List (List Char)) (st : DirectiveScan) :
    directives.foldlM DirectiveScan.step st = none ↔ ∃ d ∈ directives, isProhibition d = true := by
  induction directives generalizing st with
  | nil => simp
  | cons directive rest ih =>
    rw [List.foldlM_cons]
    cases hstep : st.step directive with
    | none =>
      have hp : isProhibition directive = true := (step_eq_none_iff st directive).1 hstep
      exact ⟨fun _ => ⟨directive, List.mem_cons_self, hp⟩, fun _ => rfl⟩
    | some next =>
      have hp : isProhibition directive ≠ true := by
        intro hp
        rw [(step_eq_none_iff st directive).2 hp] at hstep
        cases hstep
      show rest.foldlM DirectiveScan.step next = none ↔ _
      rw [ih next]
      constructor
      · rintro ⟨d, hd, hdp⟩
        exact ⟨d, List.mem_cons_of_mem _ hd, hdp⟩
      · rintro ⟨d, hd, hdp⟩
        rcases List.mem_cons.1 hd with rfl | hd
        · exact absurd hdp hp
        · exact ⟨d, hd, hdp⟩

theorem ofDirectives?_eq_forbidden_iff (directives : List (List Char)) :
    ofDirectives? directives = some .forbidden ↔ ∃ d ∈ directives, isProhibition d = true := by
  rw [← foldlM_step_eq_none_iff directives ⟨none, none⟩]
  unfold ofDirectives?
  cases directives.foldlM DirectiveScan.step ⟨none, none⟩ with
  | none => simp
  | some st =>
    constructor
    · intro h
      obtain ⟨n, -, hn⟩ := Option.map_eq_some_iff.1 h
      cases hn
    · intro h
      cases h

/-- a prohibition decides, whatever else the header says -/
theorem ofHeader_of_prohibition {h : Header} {directive : List Char} (hmem : directive ∈ h.elements "cache-control")
    (hp : isProhibition directive = true) (now : Moment) : Decision.ofHeader h now = .forbidden := by
  unfold Decision.ofHeader
  rw [(ofDirectives?_eq_forbidden_iff _).2 ⟨directive, hmem, hp⟩]

/-- a Cache-Control line of visible ASCII has a word between commas that forbids storing, in small or capital letters and
with or without blanks around it -/
def Prohibits (h : Header) : Prop :=
  ∃ line ∈ h.values "cache-control", isVisibleAscii line = true ∧
    ∃ part ∈ splitOn ',' line.toList, ∃ word ∈ ["no-store", "private", "no-cache"],
      (trim part).map Char.toLower = word.toList

theorem isProhibition_iff (directive : List Char) :
    isProhibition directive = true ↔
      ∃ word ∈ ["no-store", "private", "no-cache"], directive.map Char.toLower = word.toList := by
  unfold isProhibition prohibitions isWord
  simp

theorem prohibits_iff (h : Header) :
    Prohibits h ↔ ∃ directive ∈ h.elements "cache-control", isProhibition directive = true := by
  unfold Prohibits Header.elements Header.lines
  constructor
  · rintro ⟨line, hline, hvisible, part, hpart, hword⟩
    refine ⟨trim part, ?_, (isProhibition_iff _).2 hword⟩
    exact List.mem_flatMap.2 ⟨line, List.mem_filter.2 ⟨hline, hvisible⟩, List.mem_map_of_mem hpart⟩
  · rintro ⟨directive, hmem, hp⟩
    obtain ⟨line, hline, hdirective⟩ := List.mem_flatMap.1 hmem
    obtain ⟨part, hpart, rfl⟩ := List.mem_map.1 hdirective
    obtain ⟨hvalue, hvisible⟩ := List.mem_filter.1 hline
    exact ⟨line, hvalue, hvisible, part, hpart, (isProhibition_iff _).1 hp⟩

/-- a prohibition is obeyed if it is not taken for a field of the connection -/
theorem endToEnd_of_prohibits {h : Header} (hp : Prohibits h) (hn : "cache-control" ∉ h.nominated) (now : Moment) :
    Decision.ofHeader h.endToEnd now = .forbidden := by
  have hstays : ¬OfConnection h "cache-control" := by
    rw [Header.ofConnection_iff, List.mem_append, not_or]
    exact ⟨hn, by decide⟩
  have hkept : Prohibits h.endToEnd := by
    unfold Prohibits
    rw [(Header.leaves_endToEnd h "cache-control").kept hstays]
    exact hp
  obtain ⟨directive, hmem, hforbids⟩ := (prohibits_iff _).1 hkept
  exact ofHeader_of_prohibition hmem hforbids now

theorem ofHeader_congr {h g : Header} (hcontrol : h.values "cache-control" = g.values "cache-control")
    (hexpires : h.values "expires" = g.values "expires") (hage : h.values "age" = g.values "age") (now : Moment) :
    Decision.ofHeader h now = Decision.ofHeader g now := by
  have helements : h.elements "cache-control" = g.elements "cache-control" := by
    unfold Header.elements Header.lines
    rw [hcontrol]
  have hexpires' : h.line? "expires" = g.line? "expires" := by
    unfold Header.line? Header.value?
    rw [hexpires]
  have hage' : h.line? "age" = g.line? "age" := by
    unfold Header.line? Header.value?
    rw [hage]
  unfold Decision.ofHeader
  rw [helements, hexpires', hage']

end EdgeCache.Freshness
