/-
What becomes of the target of a request on its way to a backend.

- `RequestTarget.Shape`: the ways in which path and query of a readable target start.
- `RequestTarget.query_carried_iff`: the query is carried on, unless it stands right behind an authority.
- `Journal.target_arrives`: so every question to a backend is for the path of its request, and with its query but in that
  one case.
-/
import EdgeCache.Proofs.Exchange.Replies
import EdgeCache.Proofs.Message.RequestTarget

namespace EdgeCache

open EdgeCache.Exchange EdgeCache.Message EdgeCache.Store EdgeCache.Text EdgeCache.Time

namespace Message

/-- the text in front of the first question mark -/
def beforeQuery (cs : List Char) : List Char := cs.takeWhile (· ≠ '?')

/-- the text behind the first question mark, if there is one -/
def behindQuery? (cs : List Char) : Option (List Char) := (cutFirst '?' cs).map (·.2)

namespace RequestTarget

variable {cs rest : List Char} {t : RequestTarget} {uri : String}

/-- an absolute form that has its query right behind the authority -/
def IsBareQuery (t : RequestTarget) : Prop := t.scheme.isSome = true ∧ ∃ query, t.rest = '?' :: query

/-- the path that a backend is to be asked for: the root where there is no path from the root -/
def rootedPath (t : RequestTarget) : List Char := if t.path.head? = some '/' then t.path else ['/']

/-! ## How path and query start -/

theorem readRest_slash (h : readRest ('/' :: cs) = .ok rest) : ∃ more, rest = '/' :: more := by
  have hpath := takeWhile_readRest h
  cases rest with
  | nil => cases hpath
  | cons c more =>
    by_cases hc : c = '?'
    · simp [hc] at hpath
    · rw [List.takeWhile_cons_of_pos (by simpa using hc)] at hpath
      obtain rfl : c = '/' := (List.cons.inj hpath).1
      exact ⟨more, rfl⟩

theorem readRest_query (h : readRest ('?' :: cs) = .ok rest) : ∃ query, rest = '?' :: query := by
  unfold readRest at h
  simp only at h
  split_ifs at h
  split at h
  · split_ifs at h
    cases h
    exact ⟨_, rfl⟩
  · rename_i hnone
    exact absurd rfl (hnone cs)

theorem readRest_fragment (h : readRest ('#' :: cs) = .ok rest) : rest = [] := by
  cases h
  rfl

/-- how path and query of a readable target start: with a slash, with a question mark behind an authority, or there is
neither, or the target is an asterisk -/
inductive Shape (t : RequestTarget) : Prop where
  | rooted (slash : ∃ more, t.rest = '/' :: more)
  | bare (query : t.IsBareQuery)
  | neither (empty : t.rest = [])
  | asterisk (star : t.rest = ['*'])

theorem shape_absolute {name authority rest' : List Char} (h : takeAuthority cs = .ok (authority, rest'))
    (hrest : readRest rest' = .ok rest) : Shape ⟨some name, authority, rest⟩ := by
  obtain ⟨-, -, hstop⟩ := takeAuthority_eq_ok h
  cases rest' with
  | nil =>
    cases hrest
    exact .neither rfl
  | cons c cs' =>
    rcases hstop c cs' rfl with rfl | rfl | rfl
    · exact .rooted (readRest_slash hrest)
    · exact .bare ⟨rfl, readRest_query hrest⟩
    · exact .neither (readRest_fragment hrest)

theorem shape_of_read (h : read uri = .ok t) : Shape t := by
  unfold read at h
  simp only at h
  split_ifs at h
  split at h
  · cases h
  · rename_i hstar
    rw [hstar] at h
    cases h
    exact .asterisk rfl
  · rename_i cs hslash
    rw [hslash] at h
    cases hrest : readRest ('/' :: cs) with
    | error e => rw [hrest] at h; cases h
    | ok rest =>
      rw [hrest] at h
      cases h
      exact .rooted (readRest_slash hrest)
  · obtain ⟨⟨authority, rest⟩, -, h⟩ := ok_of_bind h
    simp only at h
    split_ifs at h
    cases h
    exact .neither rfl
  · obtain ⟨⟨scheme, cs⟩, -, h⟩ := ok_of_bind h
    obtain ⟨⟨authority, rest'⟩, hauthority, h⟩ := ok_of_bind h
    cases scheme with
    | none =>
      simp only at h
      split_ifs at h
      cases h
      exact .neither rfl
    | some name =>
      simp only at h
      split_ifs at h
      obtain ⟨rest, hrest, h⟩ := ok_of_bind h
      cases h
      exact shape_absolute hauthority hrest

/-! ## What a backend is asked for -/

theorem pathAndQuery_of_slash (h : ∃ more, t.rest = '/' :: more) : t.pathAndQuery = t.rest := by
  obtain ⟨more, hrest⟩ := h
  unfold pathAndQuery
  rw [hrest]
  rfl

theorem pathAndQuery_of_not_slash (h : t.rest.head? ≠ some '/') : t.pathAndQuery = ['/'] := if_neg h

theorem pathAndQuery_of_bare (h : t.IsBareQuery) : t.pathAndQuery = ['/'] := by
  obtain ⟨-, query, hrest⟩ := h
  refine pathAndQuery_of_not_slash ?_
  rw [hrest]
  simp

theorem pathAndQuery_rooted (t : RequestTarget) : ∃ more, t.pathAndQuery = '/' :: more := by
  by_cases h : t.rest.head? = some '/'
  · obtain ⟨more, hrest⟩ := List.head?_eq_some_iff.1 h
    exact ⟨more, (pathAndQuery_of_slash ⟨more, hrest⟩).trans hrest⟩
  · exact ⟨[], pathAndQuery_of_not_slash h⟩

theorem path_carried (h : Shape t) : beforeQuery t.pathAndQuery = t.rootedPath := by
  unfold rootedPath
  cases h with
  | rooted hslash =>
    obtain ⟨more, hrest⟩ := hslash
    have hbefore : t.rest.takeWhile (· ≠ '?') = '/' :: more.takeWhile (· ≠ '?') := by rw [hrest]; rfl
    rw [pathAndQuery_of_slash ⟨more, hrest⟩, path_of_slash hbefore]
    exact hbefore
  | bare hbare =>
    rw [pathAndQuery_of_bare hbare]
    obtain ⟨hscheme, query, hrest⟩ := hbare
    rw [path_of_scheme hscheme (by rw [hrest]; rfl)]
    rfl
  | neither hnil =>
    rw [pathAndQuery_of_not_slash (by rw [hnil]; decide)]
    unfold path
    rw [hnil]
    cases t.scheme <;> rfl
  | asterisk hstar =>
    rw [pathAndQuery_of_not_slash (by rw [hstar]; decide)]
    have hpath : t.path = ['*'] := by
      unfold path
      rw [hstar]
      simp
    rw [hpath]
    rfl

/-- the query is carried on, unless it stands right behind an authority -/
theorem query_carried_iff (h : Shape t) : behindQuery? t.pathAndQuery = t.query? ↔ ¬t.IsBareQuery := by
  unfold query?
  cases h with
  | rooted hslash =>
    rw [pathAndQuery_of_slash hslash]
    refine iff_of_true rfl ?_
    rintro ⟨-, query, hrest⟩
    obtain ⟨more, hslash⟩ := hslash
    rw [hslash] at hrest
    cases hrest
  | bare hbare =>
    refine iff_of_false ?_ (not_not_intro hbare)
    rw [pathAndQuery_of_bare hbare]
    obtain ⟨-, query, hrest⟩ := hbare
    rw [hrest]
    exact Option.some_ne_none query ∘ Eq.symm
  | neither hnil =>
    rw [pathAndQuery_of_not_slash (by rw [hnil]; decide), hnil]
    refine iff_of_true rfl ?_
    rintro ⟨-, query, hrest⟩
    rw [hnil] at hrest
    cases hrest
  | asterisk hstar =>
    rw [pathAndQuery_of_not_slash (by rw [hstar]; decide), hstar]
    refine iff_of_true rfl ?_
    rintro ⟨-, query, hrest⟩
    rw [hstar] at hrest
    cases hrest

end RequestTarget

end Message

namespace Exchange.Journal

variable {Backend : Type} {j : Journal Backend}

theorem lookup_asks {r : Request} (hdoc : Proxy.isForDocument r = true)
    (habsent : j.store.contents (j.keyOf r) = none) (number : Nat) (clock : Clock) (elapsed : Span) :
    (j.step (.lookup number clock elapsed r)).1 =
      .question number (j.traffic.proxy.hosts.lookup r.host) (.ofRequest r "GET" .empty) := by
  have hget : (j.store.get clock.instant (j.keyOf r)).1 = none := by rw [ResponseStore.get_of_absent habsent]
  rw [step_lookup, Traffic.step_arrival, Proxy.start_of_absent hdoc hget]
  rfl

/-- **The target of a request arrives.** Every question to a backend, whatever the method of the request, asks for a path
from the root: that of its request, or the root if that has none. It has the query of the request if and only if that does
not stand right behind an authority. Then the question is for the root, and the query is lost. -/
theorem target_arrives {s : Step} {r : Request} {uri : String} (hrequest : j.request? s = some r)
    (hread : RequestTarget.read uri = .ok r.target) {number : Nat} {backend : Backend} {q : Forwarded}
    (hasked : (j.step s).1 = .question number backend q) :
    (∃ more, q.path.toList = '/' :: more) ∧ beforeQuery q.path.toList = r.target.rootedPath ∧
    (behindQuery? q.path.toList = r.target.query? ↔ ¬r.target.IsBareQuery) ∧
    (r.target.IsBareQuery → q.path = "/" ∧ r.target.query? ≠ none) := by
  obtain ⟨r', method, body, hr', rfl⟩ := question_of_step hasked
  obtain rfl : r' = r := Option.some.inj (hr'.symm.trans hrequest)
  have hshape := RequestTarget.shape_of_read hread
  have hpath : (Forwarded.ofRequest r' method body).path.toList = r'.target.pathAndQuery := String.toList_ofList
  rw [hpath]
  refine ⟨r'.target.pathAndQuery_rooted, RequestTarget.path_carried hshape, RequestTarget.query_carried_iff hshape, ?_⟩
  intro hbare
  refine ⟨congrArg String.ofList (RequestTarget.pathAndQuery_of_bare hbare), ?_⟩
  obtain ⟨-, query, hrest⟩ := hbare
  unfold RequestTarget.query?
  rw [hrest]
  exact Option.some_ne_none query

end Exchange.Journal

/-! ## A query without a path -/

namespace Exchange.Sample

/-- a request for the root of a host, with a query right behind the authority -/
def bareQuery : Request := { asked with target := ⟨some "http".toList, "a.test".toList, "?q=1".toList⟩ }

end Exchange.Sample

namespace Exchange.Journal

open Sample in
theorem target_arrives_bare :
    RequestTarget.read "http://a.test?q=1" = .ok bareQuery.target ∧
    ((start idle).step (.lookup 0 now ⟨0⟩ bareQuery)).1 = .question 0 () (.ofRequest bareQuery "GET" .empty) ∧
    bareQuery.target.IsBareQuery ∧ bareQuery.target.query? = some "q=1".toList ∧
    (Forwarded.ofRequest bareQuery "GET" .empty).path = "/" := by
  have hread : RequestTarget.read "http://a.test?q=1" = .ok bareQuery.target := by decide +kernel
  have hbare : bareQuery.target.IsBareQuery := ⟨rfl, _, rfl⟩
  have hasks : ((start idle).step (.lookup 0 now ⟨0⟩ bareQuery)).1 = .question 0 () (.ofRequest bareQuery "GET" .empty) :=
    lookup_asks (j := start idle) rfl (idle_contents (idle.keyOf bareQuery)) 0 now ⟨0⟩
  obtain ⟨-, -, -, hlost⟩ := target_arrives rfl hread hasks
  exact ⟨hread, hasks, hbare, rfl, (hlost hbare).1⟩

end Exchange.Journal

end EdgeCache
