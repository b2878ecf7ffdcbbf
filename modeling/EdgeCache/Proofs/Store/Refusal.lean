/-
What a refused entry costs. Room for an entry is made victim by victim, and each victim is weighed against the newcomer
alone: an eviction is not undone when a later victim turns out to be more popular than the newcomer.

- `refused_costs`: a call that is answered no loses the victims of its rounds and nothing else, and it keeps all that is
  live if and only if every one of them is expired.
- `HalfDone.refused_costs_late`: a run that ends with a refusal which costs a live entry.
-/
import EdgeCache.Proofs.Store.Capacity

namespace EdgeCache.ResponseStore

open EdgeCache.Store EdgeCache.Time EdgeCache.Freshness

variable {limits : Limits} {s t : ResponseStore}

/-- `t` is what a refusal of an entry of this key left of `s` after these evictions -/
structure Costs (s t : ResponseStore) (key : Key) (victims : List Victim) : Prop where
  /-- the victims are lost, and nothing else -/
  contents : ∀ k, t.contents k = if k ∈ victims.map (·.key) then none else s.contents k
  /-- they were stored, under other keys -/
  stored : ∀ v ∈ victims, s.contents v.key = some v.slot.content ∧ v.key ≠ key
  /-- each was expired when its round read the clock, or no more popular than the newcomer -/
  allowed : ∀ v ∈ victims, v.slot.isExpired v.reading = true ∨
    (s.touch key).popularity.estimate v.key ≤ (s.touch key).popularity.estimate key
  /-- whatever the time, all that is live then is kept if and only if every victim is expired then -/
  live_kept_iff : ∀ now, (∀ k stored, s.contents k = some stored → isExpired now stored = false →
    t.contents k = some stored) ↔ ∀ v ∈ victims, v.slot.isExpired now = true

theorem costs_refl (s : ResponseStore) (key : Key) : Costs s s key [] :=
  ⟨by simp, by simp, by simp, fun now => ⟨by simp, fun _ _ _ hk _ => hk⟩⟩

theorem Clears.costs {key : Key} {victims : List Victim}
    (h : Clears key ((s.touch key).popularity.estimate key) (s.touch key) victims t) (hs : s.Shaped) :
    Costs s t key victims := by
  have hs' : (s.touch key).Shaped := hs.congr rfl
  have hcontents : ∀ k, t.contents k = if k ∈ victims.map (·.key) then none else s.contents k := h.contents hs'
  have hvictim := h.victim hs'
  refine ⟨hcontents, fun v hv => ⟨(hvictim v hv).1, (hvictim v hv).2.1⟩, fun v hv => (hvictim v hv).2.2, ?_⟩
  intro now
  constructor
  · -- a victim that is live is not kept
    intro hkept v hv
    by_contra hlive
    have hlost : t.contents v.key = none := by
      rw [hcontents, if_pos (List.mem_map_of_mem hv)]
    rw [hkept v.key v.slot.content (hvictim v hv).1 (Bool.not_eq_true _ ▸ hlive)] at hlost
    cases hlost
  · intro hexpired k stored hk hlive
    rw [hcontents, if_neg, hk]
    intro hm
    obtain ⟨v, hv, rfl⟩ := List.mem_map.1 hm
    have hsame := (hvictim v hv).1
    have hk' : (s.touch key).contents v.key = some stored := hk
    rw [hk'] at hsame
    cases hsame
    have hx : v.slot.isExpired now = false := hlive
    rw [hexpired v hv] at hx
    cases hx

theorem insert_costs (h : Sound limits s) {now : Instant} {readings : Nat → Instant} {picks : Nat → Pick} {key : Key}
    {entry : Entry} {lifetime : Option Span} (hrefused : (s.insert now picks key entry lifetime readings).1 = false) :
    Costs s (s.insert now picks key entry lifetime readings).2 key
      (Store.victims key ((s.touch key).popularity.estimate key)
        (s.insertRounds now readings picks key entry lifetime)) := by
  obtain ⟨cleared, hc, hres⟩ := insert_outcome h.shaped h.booked now readings picks key entry lifetime
  rcases hres with hres | ⟨t, hres, -, -⟩
  · rw [hres]; exact hc.costs h.shaped
  · rw [hres] at hrefused; cases hrefused

theorem set_costs (h : Sound limits s) {clock : Clock} {readings : Nat → Instant} {picks : Nat → Pick} {key : Key}
    {entry : Entry} (hrefused : (s.set clock picks key entry readings).1 = false) :
    Costs s (s.set clock picks key entry readings).2 key
      (Store.victims key ((s.touch key).popularity.estimate key) ((Call.set clock readings picks key entry).rounds s)) := by
  unfold set at hrefused ⊢
  unfold Call.rounds
  simp only
  cases hd : Decision.ofHeader entry.header clock.moment with
  | forbidden => exact costs_refl s key
  | unspecified =>
    simp only [hd] at hrefused
    exact insert_costs h hrefused
  | lifetime span =>
    simp only [hd] at hrefused
    exact insert_costs h hrefused

/-- there is nothing to lose when nothing is removed -/
theorem remove_costs {key : Key} (hrefused : (s.remove key).1 = false) : Costs s (s.remove key).2 key [] := by
  unfold remove at hrefused ⊢
  cases hslot : (s.shardAt (s.shardOf key)).slot? key with
  | none =>
    rw [drop_eq_false hslot]
    exact costs_refl s key
  | some slot =>
    obtain ⟨shard, -, hd⟩ := drop_eq_true hslot
    rw [hd] at hrefused
    cases hrefused

/-- **What a refusal costs.** A call for a key that is answered no loses the victims of its rounds and nothing else. Each
was expired, or no more popular than the newcomer that then was not let in. So a refusal costs nothing that is live if
and only if every victim is expired. -/
theorem refused_costs (hs : s.Reachable) {call : Call} {key : Key} (hkey : call.key? = some key)
    (hrefused : (call.perform s).1 = .done false) : Costs s (call.perform s).2 key (call.victims s key) := by
  obtain ⟨limits, hsound⟩ := hs.sound
  cases call with
  | get now k => cases hrefused
  | set clock readings picks k entry =>
    obtain rfl : k = key := Option.some.inj hkey
    exact set_costs hsound (Reply.done.inj hrefused)
  | setFor now readings picks k entry lifetime =>
    obtain rfl : k = key := Option.some.inj hkey
    exact insert_costs hsound (Reply.done.inj hrefused)
  | remove k =>
    obtain rfl : k = key := Option.some.inj hkey
    exact remove_costs (Reply.done.inj hrefused)
  | sweep now => cases hkey

/-! ## A refusal that costs a live entry

The newcomer of the small store now costs two. Room for it needs both entries to go. The first one goes, and the second one
is more popular than the newcomer. -/

namespace HalfDone

open ForTwo

theorem refuse_popular {p : Popularity} (hpopular : p.estimate popular = 2) (round : Nat) :
    (holding left #[popular] p).evict ⟨0⟩ (firstPick round) newcomer 1 = (.refused, holding left #[popular] p) := by
  have hleft : left[popular]? = some (slotAt 0) := (getElem?_left popular).trans (if_pos rfl)
  have hsample : (Shard.mk left #[popular]).sample 0 = [(popular, slotAt 0)] := by
    simp [Shard.sample, Shard.sampleSize, List.range_succ, Shard.slot?, hleft]
  have hvictim : victim? p ⟨0⟩ newcomer none ((Shard.mk left #[popular]).sample 0) = some (popular, 2) := by
    rw [hsample]
    simp only [victim?, hpopular]
    rfl
  have hslot : ((holding left #[popular] p).shardAt 0).slot? popular = some (slotAt 0) := hleft
  unfold evict
  rw [candidate?_holding hvictim]
  simp only [hslot]
  rfl

/-- the newcomer costs as much as both entries -/
def late : Call := ForTwo.put newcomer 2

theorem perform_late : late.perform crowded = (.done false, holding left #[popular] (asked.increment newcomer)) := by
  have hroom : (crowded.touch newcomer).reserve (fun _ => ⟨0⟩) firstPick newcomer 1 (filler 2).cost =
      (false, holding left #[popular] (asked.increment newcomer)) :=
    (reserve_crowded 2).trans (makeRoom_of_refused (by rfl) (refuse_popular estimates.2.1 _))
  have hleft : (holding left #[popular] (asked.increment newcomer)).slot? newcomer = none :=
    (slot?_holding words.2.2).trans getElem?_left_newcomer
  have hinsert : crowded.insert ⟨0⟩ firstPick newcomer (filler 2) (some ⟨1⟩) (fun _ => ⟨0⟩) = (false, _) :=
    insert_absent (Nat.le_of_ble_eq_true rfl) slot?_crowded_newcomer hroom hleft
  show (Reply.done (crowded.insert _ _ _ _ _ _).1, (crowded.insert _ _ _ _ _ _).2) = _
  rw [hinsert]

/-- the entry that was asked for once is live, and it is lost to an entry that is refused -/
theorem refused_costs_late : crowded.Reachable ∧ late.key? = some newcomer ∧
    (late.perform crowded).1 = .done false ∧
    Costs crowded (late.perform crowded).2 newcomer (late.victims crowded newcomer) ∧
    crowded.contents rare = some (filler 1, some ⟨1⟩) ∧ isExpired ⟨0⟩ (filler 1, some ⟨1⟩) = false ∧
    (late.perform crowded).2.contents rare = none := by
  have hreachable : crowded.Reachable := ⟨_, _, calls, new_holding, run_calls⟩
  have hrefused : (late.perform crowded).1 = .done false := by rw [perform_late]
  refine ⟨hreachable, rfl, hrefused, refused_costs hreachable rfl hrefused, ?_, by decide, ?_⟩
  · unfold contents crowded
    rw [slot?_holding words.1, getElem?_both]
    rfl
  · unfold contents
    rw [perform_late, slot?_holding words.1, getElem?_left]
    rfl

end HalfDone

end EdgeCache.ResponseStore
