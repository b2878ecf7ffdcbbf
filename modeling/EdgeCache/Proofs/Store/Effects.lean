/-
What a call leaves behind.

- `get_reclaims`: a lookup takes out at most an expired version of its key.
- `perform_of_stores`: a call that is to store an entry inserts it.
- `insert_storesUnder`: storing an entry touches its own key, and evicts.
-/
import EdgeCache.Proofs.Store.Admission
import EdgeCache.Proofs.Store.Refinement

namespace EdgeCache.ResponseStore

open EdgeCache.Freshness EdgeCache.Store EdgeCache.Time

variable {limits : Limits} {s t : ResponseStore} {key : Key} {entry : Entry} {call : Call}

/-- `t` is `s`, less an expired version of a key and its share of the budget -/
structure Reclaims (now : Instant) (key : Key) (s t : ResponseStore) : Prop where
  contents : t.contents =
    if (s.contents key).any (isExpired now) then Function.update s.contents key none else s.contents
  budget : t.budget =
    match s.contents key with
    | some stored => if isExpired now stored then s.budget.release stored.1.cost else s.budget
    | none => s.budget

theorem Reachable.perform (h : s.Reachable) (call : Call) : (call.perform s).2.Reachable := by
  obtain ⟨limits, fresh, calls, hnew, rfl⟩ := h
  refine ⟨limits, fresh, calls ++ [call], hnew, ?_⟩
  simp [run]

theorem get_reclaims (s : ResponseStore) (now : Instant) (key : Key) : Reclaims now key s (s.get now key).2 := by
  have hallows : FlatMap.Allows ⟨0, 0, none⟩ s.contents (.get now key) _ _ := get_allows s now key
  refine ⟨hallows.2, ?_⟩
  rcases get_cases s now key with ⟨hslot, hg⟩ | ⟨slot, hslot, hx, hg⟩ | ⟨slot, hslot, hx, hg⟩
  · have hc : s.contents key = none := by unfold contents; rw [hslot]; rfl
    rw [hg, hc]; rfl
  · have hx' : isExpired now slot.content = false := hx
    rw [hg, contents_of_slot? hslot]
    simp only [hx', Bool.false_eq_true, if_false]
    rfl
  · have hx' : isExpired now slot.content = true := hx
    obtain ⟨shard, -, hd⟩ := drop_eq_true (s := s.touch key) hslot
    rw [hg, hd, contents_of_slot? hslot]
    simp only [hx', if_true]
    rfl

theorem perform_of_stores (hcall : call.stores? = some (key, entry)) (s : ResponseStore) :
    ∃ now readings picks lifetime,
      call.perform s = (.done (s.insert now picks key entry lifetime readings).1,
        (s.insert now picks key entry lifetime readings).2) ∧
      call.rounds s = s.insertRounds now readings picks key entry lifetime := by
  cases call with
  | get now k => cases hcall
  | set clock readings picks k e =>
    unfold Call.stores? at hcall
    unfold Call.perform set Call.rounds
    simp only at hcall ⊢
    cases hd : Decision.ofHeader e.header clock.moment with
    | forbidden =>
      rw [if_pos hd] at hcall
      cases hcall
    | unspecified =>
      rw [if_neg (by rw [hd]; decide)] at hcall
      cases hcall
      exact ⟨_, _, _, _, rfl, rfl⟩
    | lifetime span =>
      rw [if_neg (by rw [hd]; simp)] at hcall
      cases hcall
      exact ⟨_, _, _, _, rfl, rfl⟩
  | setFor now readings picks k e lifetime =>
    cases hcall
    exact ⟨_, _, _, _, rfl, rfl⟩
  | remove k => cases hcall
  | sweep now => cases hcall

/-- `t` is `s` after a call that stores an entry under a key: that key holds it if the call was answered yes, and other
keys are lost by being evicted, or stay -/
structure StoresUnder (call : Call) (key : Key) (stored : Entry × Option Instant) (s t : ResponseStore) : Prop where
  own : t.contents key = if (call.perform s).1.isYes then some stored else s.contents key
  others : ∀ k, k ≠ key → t.contents k = if k ∈ (call.victims s key).map (·.key) then none else s.contents k
  /-- what is evicted was stored under another key, and it was expired or no more popular than the newcomer -/
  evicted : ∀ v ∈ call.victims s key, s.contents v.key = some v.slot.content ∧ v.key ≠ key ∧
    (v.slot.isExpired v.reading = true ∨
      (s.touch key).popularity.estimate v.key ≤ (s.touch key).popularity.estimate key)

theorem insert_storesUnder (h : Sound limits s) {call : Call} {now : Instant} {readings : Nat → Instant}
    {picks : Nat → Pick} {key : Key} {entry : Entry} {lifetime : Option Span}
    (hperform : call.perform s = (.done (s.insert now picks key entry lifetime readings).1,
      (s.insert now picks key entry lifetime readings).2))
    (hrounds : call.rounds s = s.insertRounds now readings picks key entry lifetime) :
    StoresUnder call key (entry, lifetime.bind now.after?) s (call.perform s).2 := by
  obtain ⟨cleared, hc, hres⟩ := insert_outcome h.shaped h.booked now readings picks key entry lifetime
  have hshaped := (h.touch key).shaped
  have hcontents : ∀ k, cleared.contents k =
      if k ∈ (call.victims s key).map (·.key) then none else s.contents k := by
    unfold Call.victims
    rw [hrounds]
    exact hc.contents hshaped
  have hevicted := hc.victim hshaped
  rw [← hrounds] at hevicted
  have hkept : cleared.contents key = s.contents key := hc.contents_kept hshaped
  rcases hres with hres | ⟨t, hres, hw, -⟩
  · rw [hres] at hperform
    rw [hperform]
    refine ⟨?_, fun k _ => hcontents k, hevicted⟩
    rw [hperform]
    exact hkept
  · rw [hres] at hperform
    have hyes : (call.perform s).1.isYes = true := by
      rw [hperform]
      rfl
    have hafter : (call.perform s).2 = t := congrArg Prod.snd hperform
    rw [hafter]
    refine ⟨?_, ?_, hevicted⟩
    · rw [if_pos hyes, hw.contents, Function.update_self]
    · intro k hk
      rw [hw.contents, Function.update_of_ne hk]
      exact hcontents k

end EdgeCache.ResponseStore
