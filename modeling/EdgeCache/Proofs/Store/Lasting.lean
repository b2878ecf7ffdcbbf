/-
How long an entry is served.

- `Call.Spares`: a call leaves alone what is stored under a key; what expires it may take out.
- `perform_spares`, `run_spares`: then the key keeps what it holds, or it lost what is expired by now.
- `get_run`: so a lookup finds an entry exactly until its expiry; `get_run_lifetime`: which is as long as its lifetime.
-/
import EdgeCache.Proofs.Store.Effects

namespace EdgeCache.Store

open EdgeCache.Time

/-- the reading of the clock by which a call takes out what is expired -/
def Call.reading? : Call → Option Instant
  | .get now _ | .sweep now => some now
  | _ => none

/-- a call up to a time leaves alone what is stored under a key: it does not remove it, puts nothing in its place, and
does not evict it -/
structure Call.Spares (s : ResponseStore) (key : Key) (last : Instant) (call : Call) : Prop where
  removes : call ≠ .remove key
  replaces : ∀ entry, call.stores? = some (key, entry) → (call.perform s).1.isYes = false
  evicts : ∀ other entry, call.stores? = some (other, entry) → key ∉ (call.victims s other).map (·.key)
  reads : ∀ now, call.reading? = some now → now ≤ last

/-- calls in a row leave it alone -/
def Spared (key : Key) (last : Instant) : ResponseStore → List Call → Prop
  | _, [] => True
  | s, call :: calls => call.Spares s key last ∧ Spared key last (call.perform s).2 calls

/-- a lifetime that starts at a reading of the clock is over after so long: never, if the clock cannot show its end -/
theorem isExpired_after {start : Instant} {lifetime : Span} {elapsed : Nat} {entry : Entry}
    (hshown : start.nanos + elapsed < Instant.limit) :
    isExpired ⟨start.nanos + elapsed⟩ (entry, start.after? lifetime) = decide (lifetime.nanos ≤ elapsed) := by
  unfold isExpired Instant.after?
  split_ifs with hend
  · refine decide_eq_decide.2 ?_
    show start.nanos + lifetime.nanos ≤ start.nanos + elapsed ↔ _
    omega
  · refine (decide_eq_false ?_).symm
    omega

end EdgeCache.Store

namespace EdgeCache.ResponseStore

open EdgeCache.Freshness EdgeCache.Store EdgeCache.Time

variable {limits : Limits} {s : ResponseStore} {key : Key} {last : Instant} {call : Call} {calls : List Call}

/-- `m'` holds under a key what `m` does, or it lost it because it is expired by now -/
def Lasts (key : Key) (last : Instant) (m m' : FlatMap) : Prop :=
  m' key = m key ∨ m' key = none ∧ (m key).any (isExpired last) = true

theorem Lasts.trans {m m' m'' : FlatMap} (h : Lasts key last m m') (h' : Lasts key last m' m'') : Lasts key last m m'' := by
  rcases h with hsame | ⟨hnone, hover⟩
  · unfold Lasts
    rw [← hsame]
    exact h'
  · refine Or.inr ⟨?_, hover⟩
    rcases h' with hsame' | ⟨hnone', -⟩
    · exact hsame'.trans hnone
    · exact hnone'

theorem any_isExpired_later {t : Instant} (ht : t ≤ last) {stored : Option (Entry × Option Instant)}
    (h : stored.any (isExpired t) = true) : stored.any (isExpired last) = true := by
  obtain ⟨e, he, hx⟩ := (Option.any_eq_true _ _).1 h
  exact (Option.any_eq_true _ _).2 ⟨e, he, isExpired_later ht hx⟩

theorem perform_spares (h : Sound limits s) (hspares : call.Spares s key last) :
    Lasts key last s.contents (call.perform s).2.contents := by
  cases hcall : call.stores? with
  | some stored =>
    obtain ⟨other, entry⟩ := stored
    obtain ⟨now, readings, picks, lifetime, hperform, hrounds⟩ := perform_of_stores hcall s
    have hunder := insert_storesUnder h hperform hrounds
    refine Or.inl ?_
    by_cases hkey : key = other
    · subst hkey
      rw [hunder.own, hspares.replaces entry hcall]
      rfl
    · rw [hunder.others key hkey, if_neg (hspares.evicts other entry hcall)]
  | none =>
    have hallows := perform_allows h call
    cases call with
    | get now k =>
      have hnow : now ≤ last := hspares.reads now rfl
      rw [Lasts, hallows.2]
      split_ifs with hx
      · rw [Function.update_apply]
        split_ifs with hk
        · subst hk
          exact Or.inr ⟨rfl, any_isExpired_later hnow hx⟩
        · exact Or.inl rfl
      · exact Or.inl rfl
    | set clock readings picks k entry =>
      have hforbidden : Decision.ofHeader entry.header clock.moment = .forbidden := by
        by_contra hallowed
        unfold Call.stores? at hcall
        simp only at hcall
        rw [if_neg hallowed] at hcall
        cases hcall
      unfold FlatMap.Allows at hallows
      simp only [hforbidden] at hallows
      exact Or.inl (congrFun hallows.2 key)
    | setFor now readings picks k entry lifetime => cases hcall
    | remove k =>
      have hk : key ≠ k := fun hk => hspares.removes (hk ▸ rfl)
      rw [Lasts, hallows.2, Function.update_of_ne hk]
      exact Or.inl rfl
    | sweep now =>
      have hnow : now ≤ last := hspares.reads now rfl
      rw [Lasts, hallows.2]
      simp only
      split_ifs with hx
      · exact Or.inr ⟨rfl, any_isExpired_later hnow hx⟩
      · exact Or.inl rfl

theorem run_spares (h : Sound limits s) (hspared : Spared key last s calls) :
    Lasts key last s.contents (s.run calls).contents := by
  induction calls generalizing s with
  | nil => exact Or.inl rfl
  | cons call calls ih =>
    exact (perform_spares h hspared.1).trans (ih (perform_sound h call) hspared.2)

/-- **An entry is found until it expires**, as long as it is left alone. -/
theorem get_run (h : Sound limits s) {stored : Entry × Option Instant} (hstored : s.contents key = some stored)
    (hspared : Spared key last s calls) :
    ((s.run calls).get last key).1 = if isExpired last stored then none else some stored.1 := by
  have hget : FlatMap.Allows limits (s.run calls).contents (.get last key) _ _ := get_allows (s.run calls) last key
  rw [Reply.found.inj hget.1]
  unfold FlatMap.served
  rcases run_spares h hspared with hsame | ⟨hnone, hover⟩
  · rw [hsame, hstored]
    rfl
  · rw [hstored, Option.any_some] at hover
    rw [hnone, if_pos hover]
    rfl

/-- **An entry is found for as long as its lifetime**, and at any time that a clock can show if the clock cannot show the
end of that. -/
theorem get_run_lifetime (h : Sound limits s) {entry : Entry} {start : Instant} {lifetime : Span}
    (hstored : s.contents key = some (entry, start.after? lifetime)) {elapsed : Nat}
    (hshown : start.nanos + elapsed < Instant.limit) (hspared : Spared key ⟨start.nanos + elapsed⟩ s calls) :
    ((s.run calls).get ⟨start.nanos + elapsed⟩ key).1 = if elapsed < lifetime.nanos then some entry else none := by
  rw [get_run h hstored hspared, isExpired_after hshown]
  by_cases hlong : elapsed < lifetime.nanos
  · rw [if_pos hlong, if_neg (by simpa using hlong)]
  · rw [if_neg hlong, if_pos (by simpa using hlong)]

end EdgeCache.ResponseStore
