/-
The budget of the store over whole histories: both counters are exact after every call, stay within the limits, and
never give back what was not reserved.

- `perform_sound`: every call keeps the invariant `Sound`; `run_sound`: so do calls in a row.
- `ForTwo`: a store for two entries that is followed call by call, while it is filled and a newcomer takes the place of one.
- `exact_accounting`: what the invariant says of the store that a pair of positive limits gives.
-/
import EdgeCache.Proofs.Store.Eviction
import EdgeCache.Proofs.Store.Popularity
import EdgeCache.Proofs.Store.Reclaim

namespace EdgeCache.ResponseStore

open EdgeCache.Store EdgeCache.Time

/-- what holds between calls: the keys are in their places, and the counters are exact, with nothing held besides -/
structure Sound (limits : Limits) (s : ResponseStore) : Prop where
  shaped : s.Shaped
  booked : s.Booked 0 0
  maxObjects : s.budget.maxObjects = limits.maxObjects
  maxCost : s.budget.maxCost = limits.maxCost
  defaultLifetime : s.defaultLifetime = limits.defaultLifetime

variable {limits : Limits} {s t : ResponseStore}

theorem sound_new {fresh : ResponseStore} (h : new limits = .ok fresh) : Sound limits fresh := by
  have hs := shaped_new h
  have hb := booked_new h
  unfold new at h
  split_ifs at h
  cases h
  exact ⟨hs, hb, rfl, rfl, rfl⟩

theorem Sound.of_frame (h : Sound limits s) (hs : t.Shaped) (hb : t.Booked 0 0) (hf : SameFrame s t) : Sound limits t :=
  ⟨hs, hb, hf.maxObjects.trans h.maxObjects, hf.maxCost.trans h.maxCost, hf.defaultLifetime.trans h.defaultLifetime⟩

theorem Sound.touch (h : Sound limits s) (key : Key) : Sound limits (s.touch key) :=
  ⟨h.shaped.congr rfl, h.booked.touch key, h.maxObjects, h.maxCost, h.defaultLifetime⟩

theorem Sound.drop (h : Sound limits s) (i : Nat) (key : Key) : Sound limits (s.drop i key).2 :=
  h.of_frame (h.shaped.drop i key) (h.booked.drop (Int.le_refl 0) (Int.le_refl 0) i key) (sameFrame_drop s i key)

theorem Sound.get (h : Sound limits s) (now : Instant) (key : Key) : Sound limits (s.get now key).2 := by
  rcases get_cases s now key with ⟨-, hg⟩ | ⟨slot, -, -, hg⟩ | ⟨slot, -, -, hg⟩
  · rw [hg]; exact h.touch key
  · rw [hg]; exact h.touch key
  · rw [hg]; exact (h.touch key).drop _ _

theorem Sound.insert (h : Sound limits s) (now : Instant) (readings : Nat → Instant) (picks : Nat → Pick) (key : Key)
    (entry : Entry) (lifetime : Option Span) : Sound limits (s.insert now picks key entry lifetime readings).2 := by
  obtain ⟨cleared, hc, hres⟩ := insert_outcome h.shaped h.booked now readings picks key entry lifetime
  have hcleared : Sound limits cleared :=
    (h.touch key).of_frame (hc.shaped (h.touch key).shaped) (hc.booked (h.touch key).booked) hc.frame
  rcases hres with hres | ⟨t, hres, hw, hb⟩
  · rw [hres]; exact hcleared
  · rw [hres]; exact hcleared.of_frame hw.shaped hb hw.frame

theorem perform_sound (h : Sound limits s) (call : Call) : Sound limits (call.perform s).2 := by
  cases call with
  | get now key => exact h.get now key
  | set clock readings picks key entry =>
    show Sound limits (s.set clock picks key entry readings).2
    unfold set
    split
    · exact h
    · exact h.insert _ readings picks key entry _
    · exact h.insert _ readings picks key entry _
  | setFor now readings picks key entry lifetime => exact h.insert now readings picks key entry (some lifetime)
  | remove key => exact h.drop _ key
  | sweep now => exact sweep_induct (fun _ i key h => h.drop i key) h now

theorem run_sound (h : Sound limits s) (calls : List Call) : Sound limits (s.run calls) := by
  induction calls generalizing s with
  | nil => exact h
  | cons call calls ih => exact ih (perform_sound h call)

theorem Reachable.sound (h : s.Reachable) : ∃ limits, Sound limits s := by
  obtain ⟨limits, fresh, calls, hnew, rfl⟩ := h
  exact ⟨limits, run_sound (sound_new hnew) calls⟩

theorem Sound.size_eq (h : Sound limits s) : s.size = s.slotCount := by
  have hbooked := h.booked.objects_eq
  unfold size
  omega

theorem Sound.cost_eq (h : Sound limits s) : s.cost = s.slotCost := by
  have hbooked := h.booked.cost_eq
  unfold cost
  omega

/-! ## A small store

Two entries with a total cost of two. The places are taken by an entry that was asked for once and one that was asked for
twice, and a newcomer is asked for once. -/

namespace ForTwo

def rare : Key := ⟨[0]⟩

def popular : Key := ⟨[2]⟩

def newcomer : Key := ⟨[4]⟩

def filler (n : Nat) : Entry := ⟨200, [], ⟨Array.replicate n 0⟩⟩

theorem cost_filler (n : Nat) : (filler n).cost = n := by simp [filler, Entry.cost, ByteArray.size]

/-- every pick starts at the first shard, and there at the first key -/
def firstPick : Nat → Pick := fun _ => ⟨0, fun _ => 0⟩

/-- store an entry, the clock standing still -/
def put (key : Key) (n : Nat) : Call := .setFor ⟨0⟩ (fun _ => ⟨0⟩) firstPick key (filler n) ⟨1⟩

def calls : List Call := [put rare 1, put popular 1, .get ⟨0⟩ popular]

/-- a store of two shards, with all that it holds in the first -/
def holding (slots : Std.HashMap Key Slot) (keys : Array Key) (p : Popularity) : ResponseStore where
  shards := #[⟨slots, keys⟩, .empty]
  popularity := p
  budget := { maxObjects := 2, maxCost := 2, objects := keys.size, cost := keys.size }
  defaultLifetime := none

/-- the same store with a share reserved for one entry more -/
def promised (slots : Std.HashMap Key Slot) (keys : Array Key) (p : Popularity) : ResponseStore :=
  { holding slots keys p with
    budget := { maxObjects := 2, maxCost := 2, objects := keys.size + 1, cost := keys.size + 1 } }

def slotAt (place : Nat) : Slot := ⟨filler 1, some ⟨1⟩, place⟩

def both : Std.HashMap Key Slot := ((∅ : Std.HashMap Key Slot).insert rare (slotAt 0)).insert popular (slotAt 1)

/-- what is left of them after the first eviction -/
def left : Std.HashMap Key Slot := Shard.replace (both.erase rare) #[popular] 0

def asked : Popularity := (((Popularity.new 2).increment rare).increment popular).increment popular

def crowded : ResponseStore := holding both #[rare, popular] asked

/-- the store with the newcomer in the place of the rare entry -/
def exchanged (p : Popularity) : ResponseStore := holding (left.insert newcomer (slotAt 1)) #[popular, newcomer] p

theorem words : rare.word 0 % 2 = 0 ∧ popular.word 0 % 2 = 0 ∧ newcomer.word 0 % 2 = 0 := by decide

theorem slot?_holding {slots : Std.HashMap Key Slot} {keys : Array Key} {p : Popularity} {key : Key}
    (hkey : key.word 0 % 2 = 0) : (holding slots keys p).slot? key = slots[key]? := by
  simp [holding, slot?, shardAt, shardOf, hkey, Shard.slot?]

theorem slot?_promised {slots : Std.HashMap Key Slot} {keys : Array Key} {p : Popularity} {key : Key}
    (hkey : key.word 0 % 2 = 0) : (promised slots keys p).slot? key = slots[key]? := slot?_holding (p := p) hkey

theorem getElem?_both (key : Key) :
    both[key]? = if popular = key then some (slotAt 1) else if rare = key then some (slotAt 0) else none := by
  simp [both, Std.HashMap.getElem?_insert]

theorem getElem?_left (key : Key) : left[key]? = if popular = key then some (slotAt 0) else none := by
  by_cases hkey : popular = key
  · subst hkey
    simp [left, Shard.getElem?_replace, Std.HashMap.getElem?_erase, getElem?_both, slotAt, show rare ≠ popular by decide]
  · by_cases hrare : rare = key
    · subst hrare
      simp [left, Shard.getElem?_replace, hkey]
    · simp [left, Shard.getElem?_replace, Std.HashMap.getElem?_erase, getElem?_both, hkey, hrare]

theorem getElem?_both_rare : both[rare]? = some (slotAt 0) := (getElem?_both rare).trans rfl

theorem getElem?_left_newcomer : left[newcomer]? = none := (getElem?_left newcomer).trans rfl

theorem slot?_crowded_newcomer : crowded.slot? newcomer = none :=
  (slot?_holding words.2.2).trans ((getElem?_both newcomer).trans rfl)

theorem new_holding : new ⟨2, 2, none⟩ = .ok (holding ∅ #[] (.new 2)) := by
  have hshards : (min 2 maxShards).nextPowerOfTwo = 2 := by decide +kernel
  rw [new_eq _ (by decide) (by decide), hshards]
  rfl

/-! ### What calls do to it -/

section Calls

variable {slots : Std.HashMap Key Slot} {keys : Array Key} {p : Popularity} {key : Key}

/-- an entry is written into the first shard, behind the others -/
theorem publish_promised (hkey : key.word 0 % 2 = 0) (hslot : slots[key]? = none) :
    (promised slots keys p).publish key (filler 1) (some ⟨1⟩) =
      holding (slots.insert key (slotAt keys.size)) (keys.push key) p := by
  simp [promised, holding, slotAt, publish, ResponseStore.put, setShard, shardAt, shardOf, hkey, Shard.insert,
    Shard.slot?, hslot]

/-- an entry of cost one for which there is room, at once or after evictions, is written -/
theorem put_of_room {s : ResponseStore} (hcost : (filler 1).cost ≤ s.budget.maxCost) (hkey : key.word 0 % 2 = 0)
    (habsent : s.slot? key = none) (hslot : slots[key]? = none)
    (hroom : (s.touch key).reserve (fun _ => ⟨0⟩) firstPick key 1 (filler 1).cost = (true, promised slots keys p)) :
    (put key 1).perform s = (.done true, holding (slots.insert key (slotAt keys.size)) (keys.push key) p) := by
  have hslot' : (promised slots keys p).slot? key = none := (slot?_promised hkey).trans hslot
  have hinsert : s.insert ⟨0⟩ firstPick key (filler 1) (some ⟨1⟩) (fun _ => ⟨0⟩) = (true, _) :=
    insert_absent hcost habsent hroom hslot'
  have hexpiry : (some ⟨1⟩ : Option Span).bind (⟨0⟩ : Instant).after? = some ⟨1⟩ := rfl
  show (Reply.done (s.insert _ _ _ _ _ _).1, (s.insert _ _ _ _ _ _).2) = _
  rw [hinsert, hexpiry, publish_promised hkey hslot]

theorem put_perform (hkey : key.word 0 % 2 = 0) (hsize : keys.size < 2) (hslot : slots[key]? = none) :
    (put key 1).perform (holding slots keys p) =
      (.done true, holding (slots.insert key (slotAt keys.size)) (keys.push key) (p.increment key)) := by
  have hreserve : (holding slots keys p).budget.reserve 1 (filler 1).cost = (true, (promised slots keys p).budget) := by
    have hfits : (keys.size : Int) + 1 ≤ 2 := by omega
    rw [cost_filler]
    simp [Budget.reserve, Budget.reserveObjects?, Budget.reserveCost?, holding, promised, hfits]
  have hroom : ((holding slots keys p).touch key).reserve (fun _ => ⟨0⟩) firstPick key 1 (filler 1).cost =
      (true, promised slots keys (p.increment key)) := makeRoom_of_fits (n := 1023) hreserve
  exact put_of_room (Nat.le_of_ble_eq_true rfl) hkey ((slot?_holding hkey).trans hslot) hslot hroom

/-- an entry that is there is found -/
theorem get_perform {s : ResponseStore} {place : Nat} (hslot : s.slot? key = some (slotAt place)) :
    (Call.get ⟨0⟩ key).perform s = (.found (some (filler 1)), s.touch key) := by
  show (Reply.found (s.get ⟨0⟩ key).1, (s.get ⟨0⟩ key).2) = _
  rcases get_cases s ⟨0⟩ key with ⟨h, -⟩ | ⟨slot, h, -, hg⟩ | ⟨slot, h, hx, -⟩
  · rw [hslot] at h; cases h
  · rw [hslot] at h
    cases h
    rw [hg]
    rfl
  · rw [hslot] at h
    cases h
    cases hx

theorem get_absent {s : ResponseStore} (hslot : s.slot? key = none) :
    (Call.get ⟨0⟩ key).perform s = (.found none, s.touch key) := by
  show (Reply.found (s.get ⟨0⟩ key).1, (s.get ⟨0⟩ key).2) = _
  rcases get_cases s ⟨0⟩ key with ⟨-, hg⟩ | ⟨slot, h, -⟩ | ⟨slot, h, -⟩
  · rw [hg]
  · rw [hslot] at h; cases h
  · rw [hslot] at h; cases h

end Calls

/-! ### Filling it -/

theorem perform_calls : ∃ one two,
    (put rare 1).perform (holding ∅ #[] (.new 2)) = (.done true, one) ∧
    (put popular 1).perform one = (.done true, two) ∧
    (Call.get ⟨0⟩ popular).perform two = (.found (some (filler 1)), crowded) :=
  ⟨_, _, put_perform words.1 (by decide) (by simp),
    put_perform words.2.1 (by decide) (by simp [show rare ≠ popular by decide]),
    get_perform ((slot?_holding words.2.1).trans ((getElem?_both popular).trans (if_pos rfl)))⟩

theorem run_calls : (holding ∅ #[] (.new 2)).run calls = crowded := by
  obtain ⟨one, two, hrare, hpopular, hget⟩ := perform_calls
  show ((Call.get ⟨0⟩ popular).perform ((put popular 1).perform ((put rare 1).perform _).2).2).2 = _
  rw [hrare, hpopular, hget]

/-! ### Room for the newcomer -/

theorem estimates : (asked.increment newcomer).estimate rare = 1 ∧ (asked.increment newcomer).estimate popular = 2 ∧
    (asked.increment newcomer).estimate newcomer = 1 := by
  have hwidth : (Popularity.new 2).width = 64 := by decide +kernel
  have hplace : ∀ (p : Popularity), p.width = 64 → ∀ key row, p.place key row = key.word row % 64 := by
    intro p h key row
    unfold Popularity.place
    rw [h]
  -- no halving is near
  have hstep : ∀ (p : Popularity) (key : Key) (n : Nat), n < 600 → p.width = 64 → p.additions = n →
      (p.increment key).width = 64 ∧ (p.increment key).additions = n + 1 ∧
      ∀ r i, (p.increment key).count r i =
        if r ∈ Popularity.rows ∧ i = key.word r % 64 then min (p.count r i + 1) 15 else p.count r i := by
    intro p key n hn hw ha
    have h : p.additions + 1 ≠ p.halvingPeriod := by
      unfold Popularity.halvingPeriod
      omega
    obtain ⟨hw', ha'⟩ := p.increment_fields key h
    refine ⟨hw'.trans hw, by rw [ha', ha], ?_⟩
    intro r i
    rw [p.count_increment key h, hplace p hw]
    rfl
  have hzero : ∀ r i, (Popularity.new 2).count r i = 0 := by
    intro r i
    simp [Popularity.new, Popularity.count]
  obtain ⟨w1, a1, c1⟩ := hstep (.new 2) rare 0 (by decide) hwidth rfl
  obtain ⟨w2, a2, c2⟩ := hstep _ popular 1 (by decide) w1 a1
  obtain ⟨w3, a3, c3⟩ := hstep _ popular 2 (by decide) w2 a2
  obtain ⟨w4, -, c4⟩ := hstep asked newcomer 3 (by decide) w3 a3
  simp only [Popularity.estimate, hplace _ w4, c4]
  unfold asked
  simp only [c3, c2, c1, hzero]
  decide

theorem candidate?_holding {slots : Std.HashMap Key Slot} {keys : Array Key} {p : Popularity} {key : Key} {n : Nat}
    (h : victim? p ⟨0⟩ newcomer none ((Shard.mk slots keys).sample 0) = some (key, n)) (round : Nat) :
    (holding slots keys p).candidate? ⟨0⟩ (firstPick round) newcomer = some (0, key, n) := by
  have hcircle : (holding slots keys p).shardCircle 0 = [0, 1] := by
    simp [shardCircle, holding, List.range_succ]
  have hfirst : victim? (holding slots keys p).popularity ⟨0⟩ newcomer none
      (((holding slots keys p).shardAt 0).sample 0) = some (key, n) := h
  unfold candidate? firstPick
  rw [hcircle, List.findSome?_cons, hfirst]
  rfl

theorem drop_rare (p : Popularity) : ((holding both #[rare, popular] p).drop 0 rare).2 = holding left #[popular] p := by
  have hslot : ((holding both #[rare, popular] p).shardAt 0).slot? rare = some (slotAt 0) := getElem?_both_rare
  simp only [ResponseStore.drop, takeOut, Shard.remove?, hslot]
  rfl

theorem evict_rare {p : Popularity} (hrare : p.estimate rare = 1) (hpopular : p.estimate popular = 2) (round : Nat) :
    (holding both #[rare, popular] p).evict ⟨0⟩ (firstPick round) newcomer 1 =
      (.evicted, holding left #[popular] p) := by
  have hsample : (Shard.mk both #[rare, popular]).sample 0 = [(rare, slotAt 0), (popular, slotAt 1)] := by
    simp [Shard.sample, Shard.sampleSize, List.range_succ, Shard.slot?, getElem?_both]
    rfl
  have hvictim : victim? p ⟨0⟩ newcomer none ((Shard.mk both #[rare, popular]).sample 0) = some (rare, 1) := by
    rw [hsample]
    simp only [victim?, hrare, hpopular]
    rfl
  have hslot : ((holding both #[rare, popular] p).shardAt 0).slot? rare = some (slotAt 0) := getElem?_both_rare
  unfold evict
  rw [candidate?_holding hvictim]
  simp only [hslot, drop_rare]
  rfl

/-- the first round evicts, whatever the newcomer costs -/
theorem reserve_crowded (n : Nat) : (crowded.touch newcomer).reserve (fun _ => ⟨0⟩) firstPick newcomer 1 (filler n).cost =
    (holding left #[popular] (asked.increment newcomer)).makeRoom (fun _ => ⟨0⟩) firstPick newcomer 1 n 1 (1022 + 1) 0 := by
  obtain ⟨hrare, hpopular, hnewcomer⟩ := estimates
  have hfirst : (holding both #[rare, popular] (asked.increment newcomer)).makeRoom (fun _ => ⟨0⟩) firstPick newcomer
      1 n 1 (1022 + 1 + 1) 0 = _ := makeRoom_of_evicted (by rfl) (evict_rare hrare hpopular _)
  rw [← hfirst, cost_filler]
  unfold reserve
  rw [show (crowded.touch newcomer).popularity.estimate newcomer = 1 from hnewcomer]
  rfl

/-- with the second round there is room for an entry of cost one -/
theorem reserve_newcomer : (crowded.touch newcomer).reserve (fun _ => ⟨0⟩) firstPick newcomer 1 (filler 1).cost =
    (true, promised left #[popular] (asked.increment newcomer)) := by
  rw [reserve_crowded, makeRoom_of_fits (by rfl)]
  rfl

theorem put_newcomer : (put newcomer 1).perform crowded = (.done true, exchanged (asked.increment newcomer)) :=
  put_of_room (Nat.le_of_ble_eq_true rfl) words.2.2 slot?_crowded_newcomer getElem?_left_newcomer reserve_newcomer

theorem getElem?_exchanged (key : Key) :
    (left.insert newcomer (slotAt 1))[key]? =
      if newcomer = key then some (slotAt 1) else if popular = key then some (slotAt 0) else none := by
  rw [← getElem?_left]
  simp [Std.HashMap.getElem?_insert]

theorem contents_exchanged (p : Popularity) :
    (exchanged p).contents newcomer = some (filler 1, some ⟨1⟩) ∧
    (exchanged p).contents popular = some (filler 1, some ⟨1⟩) ∧ (exchanged p).contents rare = none := by
  unfold contents exchanged
  simp only [slot?_holding words.1, slot?_holding words.2.1, slot?_holding words.2.2, getElem?_exchanged]
  exact ⟨rfl, rfl, rfl⟩

/-- after the eviction one entry of cost one is left -/
theorem slotCount_left (p : Popularity) : (promised left #[popular] p).slotCount = 1 ∧
    (promised left #[popular] p).slotCost = 1 := by
  have hsound := perform_sound (run_sound (sound_new new_holding) calls) (.remove rare)
  have hremove : ((Call.remove rare).perform crowded).2 = holding left #[popular] asked := by
    have hshard : crowded.shardOf rare = 0 := words.1
    show (crowded.drop (crowded.shardOf rare) rare).2 = _
    rw [hshard]
    exact drop_rare asked
  rw [run_calls, hremove] at hsound
  exact ⟨hsound.size_eq.symm, hsound.cost_eq.symm⟩

/-! ### A session -/

/-- the store is filled, the newcomer is stored, and what came and what went is looked up, with the answers to that -/
def answered : List (Call × Reply) :=
  [(put rare 1, .done true), (put popular 1, .done true), (.get ⟨0⟩ popular, .found (some (filler 1))),
    (put newcomer 1, .done true), (.get ⟨0⟩ newcomer, .found (some (filler 1))), (.get ⟨0⟩ rare, .found none)]

def session : List Call := answered.map (·.1)

def askedLater : Popularity := ((asked.increment newcomer).increment newcomer).increment rare

theorem session_answered : (holding ∅ #[] (.new 2)).transcript session = answered ∧
    (holding ∅ #[] (.new 2)).run session = exchanged askedLater := by
  obtain ⟨one, two, hrare, hpopular, hget⟩ := perform_calls
  have hfound : (Call.get ⟨0⟩ newcomer).perform (exchanged (asked.increment newcomer)) =
      (.found (some (filler 1)), exchanged ((asked.increment newcomer).increment newcomer)) :=
    get_perform ((slot?_holding words.2.2).trans ((getElem?_exchanged newcomer).trans (if_pos rfl)))
  have hlost : (Call.get ⟨0⟩ rare).perform (exchanged ((asked.increment newcomer).increment newcomer)) =
      (.found none, exchanged askedLater) :=
    get_absent ((slot?_holding words.1).trans ((getElem?_exchanged rare).trans rfl))
  simp only [session, answered, List.map_cons, List.map_nil, transcript, run, List.foldl_cons, List.foldl_nil, hrare,
    hpopular, hget, put_newcomer, hfound, hlost, and_self]

end ForTwo

/-- **Capacity and exact accounting.** Positive limits give a store, and after any calls on it, with any readings of the
clocks and any picks, its size is the number of its slots, its cost is the total cost of its entries, both are within
the limits, and no release ever took a counter below zero. -/
theorem exact_accounting (limits : Limits) (ho : 0 < limits.maxObjects) (hc : 0 < limits.maxCost) :
    ∃ fresh, new limits = .ok fresh ∧ ∀ calls : List Call,
      (fresh.run calls).size = (fresh.run calls).slotCount ∧
      (fresh.run calls).cost = (fresh.run calls).slotCost ∧
      (fresh.run calls).size ≤ limits.maxObjects ∧
      (fresh.run calls).cost ≤ limits.maxCost ∧
      (fresh.run calls).budget.overdrawn = false := by
  refine ⟨_, new_eq limits ho hc, ?_⟩
  intro calls
  have hsound := run_sound (sound_new (new_eq limits ho hc)) calls
  have h1 := hsound.booked.objects_eq
  have h2 := hsound.booked.cost_eq
  have h3 := hsound.booked.objects_le
  have h4 := hsound.booked.cost_le
  rw [hsound.maxObjects] at h3
  rw [hsound.maxCost] at h4
  refine ⟨?_, ?_, ?_, ?_, hsound.booked.not_overdrawn⟩
  · unfold size; omega
  · unfold cost; omega
  · unfold size; omega
  · unfold cost; omega

open ForTwo in
/-- a store for two entries is filled, one of them makes way for a third, and that one is found -/
theorem exact_accounting_exchanged : 0 < 2 ∧
    ∃ fresh, new ⟨2, 2, none⟩ = .ok fresh ∧
      fresh.transcript session = answered ∧
      (fresh.run session).contents newcomer = some (filler 1, some ⟨1⟩) ∧
      (fresh.run session).contents popular = some (filler 1, some ⟨1⟩) ∧
      (fresh.run session).contents rare = none ∧
      (fresh.run session).size = 2 ∧ (fresh.run session).size = (fresh.run session).slotCount ∧
      (fresh.run session).cost = 2 ∧ (fresh.run session).cost = (fresh.run session).slotCost ∧
      (fresh.run session).size ≤ 2 ∧ (fresh.run session).cost ≤ 2 ∧
      (fresh.run session).budget.overdrawn = false := by
  obtain ⟨fresh, hnew, hexact⟩ := exact_accounting ⟨2, 2, none⟩ (by decide) (by decide)
  obtain rfl : holding ∅ #[] (.new 2) = fresh := Except.ok.inj (new_holding.symm.trans hnew)
  obtain ⟨hanswered, hrun⟩ := session_answered
  obtain ⟨hsize, hcost, hobjects, hmax, hdrawn⟩ := hexact session
  obtain ⟨hnewcomer, hpopular, hrare⟩ := contents_exchanged askedLater
  refine ⟨by decide, _, hnew, hanswered, ?_⟩
  rw [hrun] at hsize hcost hobjects hmax hdrawn ⊢
  exact ⟨hnewcomer, hpopular, hrare, rfl, hsize, rfl, hcost, hobjects, hmax, hdrawn⟩

end EdgeCache.ResponseStore
