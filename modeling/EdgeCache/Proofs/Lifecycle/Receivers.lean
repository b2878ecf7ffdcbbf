/-
The receivers of a stop signal, told from the history of its uses.

- `dropped_iff`: which of them the signal knows as dropped. `receivers_after`: what each of them is.
- `receiverCount_add_droppedCount`: how many are subscribed.
- `receive_finds`: what a look finds.
- `signals_once`: nobody finds the signal before the first trigger, or twice, or is told of lost messages; and whoever
  subscribed in time and is still there finds it.
-/
import EdgeCache.Proofs.Lifecycle.StopSignal

namespace EdgeCache.Lifecycle.StopSignal

variable {uses : List SignalUse} {u : SignalUse} {number : Nat}

/-! ## Who has been dropped -/

/-- one use is too short for a receiver to subscribe and then meet something -/
theorem lifetime_singleton (number : Nat) (u : SignalUse) : lifetime number [u] = [] := by
  cases u with
  | subscribe => cases number <;> rfl
  | trigger | drop _ | receive _ => rfl

theorem lifetime_append (number : Nat) (uses more : List SignalUse) :
    lifetime number (uses ++ more) =
      if number < uses.count .subscribe then lifetime number uses ++ more
      else lifetime (number - uses.count .subscribe) more := by
  induction uses generalizing number with
  | nil => rfl
  | cons u uses ih =>
    cases u with
    | subscribe =>
      rw [List.count_cons_self]
      cases number with
      | zero => rfl
      | succ number =>
        simp only [List.cons_append, lifetime, ih, Nat.add_lt_add_iff_right, Nat.add_sub_add_right]
    | trigger | drop _ | receive _ => simpa [lifetime] using ih number

theorem lifetime_of_unsubscribed (h : uses.count .subscribe ≤ number) : lifetime number uses = [] := by
  have happ := lifetime_append number uses []
  rwa [List.append_nil, if_neg (Nat.not_lt.2 h), lifetime] at happ

theorem isDropped_concat : IsDropped number (uses ++ [u]) ↔
    IsDropped number uses ∨ number < uses.count .subscribe ∧ u = .drop number := by
  unfold IsDropped
  rw [lifetime_append]
  split_ifs with hsubscribed
  · simp [hsubscribed, eq_comm]
  · rw [lifetime_singleton, lifetime_of_unsubscribed (Nat.not_lt.1 hsubscribed)]
    simp [hsubscribed]

theorem isDropped_concat_of_ne (h : u ≠ .drop number) : IsDropped number (uses ++ [u]) ↔ IsDropped number uses := by
  rw [isDropped_concat, or_iff_left fun hdrop => h hdrop.2]

theorem deliver_eq_dropped_iff (r : Receiver) : r.deliver = .dropped ↔ r = .dropped := by
  cases r <;> simp [Receiver.deliver]

theorem take_eq_dropped_iff (r : Receiver) : r.take.2 = .dropped ↔ r = .dropped := by
  rcases r with (_ | _ | n) | _ <;> simp [Receiver.take]

/-- the receivers that a signal knows as dropped are those of which the history says so -/
theorem dropped_iff (uses : List SignalUse) (number : Nat) :
    (after uses).receivers[number]? = some .dropped ↔ IsDropped number uses := by
  induction uses using List.reverseRecOn with
  | nil => simp [after, run, IsDropped, lifetime]
  | append_singleton uses u ih =>
    rw [after_concat]
    cases u with
    | subscribe =>
      rw [isDropped_concat_of_ne (by simp), ← ih, step, subscribe, List.getElem?_append, List.getElem?_singleton]
      grind
    | trigger =>
      rw [isDropped_concat_of_ne (by simp), ← ih, step, trigger]
      split_ifs
      · rfl
      · rw [List.getElem?_map, Option.map_eq_some_iff]
        simp only [deliver_eq_dropped_iff, exists_eq_right]
    | drop other =>
      rw [isDropped_concat, ← ih, ← (kept_after uses).subscribed, step, drop, List.getElem?_modify]
      grind
    | receive looking =>
      rw [isDropped_concat_of_ne (by simp), ← ih, step, receive]
      cases hlooking : (after uses).receivers[looking]? with
      | none => rfl
      | some r =>
        have hlt := (List.getElem?_eq_some_iff.1 hlooking).1
        show ((after uses).receivers.set looking r.take.2)[number]? = _ ↔ _
        by_cases hsame : looking = number
        · rw [← hsame, List.getElem?_set_self hlt, hlooking, Option.some_inj, Option.some_inj, take_eq_dropped_iff]
        · rw [List.getElem?_set_ne hsame]

/-! ## Who is there, and how many -/

/-- a receiver was dropped, or there waits for it what it is to have and has not taken -/
theorem receivers_after (uses : List SignalUse) :
    (after uses).receivers = (List.range (uses.count .subscribe)).map fun number =>
      if IsDropped number uses then .dropped else .live (due number uses - (receipts number uses).count .signal) := by
  have h := kept_after uses
  apply List.ext_getElem
  · rw [List.length_map, List.length_range, h.subscribed]
  · intro number hlt _
    rw [List.getElem_map, List.getElem_range]
    have hr : (after uses).receivers[number]? = some (after uses).receivers[number] := List.getElem?_eq_getElem hlt
    split_ifs with hdropped
    · rw [← dropped_iff, hr] at hdropped
      exact Option.some.inj hdropped
    · cases hn : (after uses).receivers[number] with
      | live n =>
        rw [hn] at hr
        rw [← h.waiting number n hr, Nat.add_sub_cancel]
      | dropped =>
        rw [hn] at hr
        exact absurd ((dropped_iff uses number).1 hr) hdropped

theorem receiver_of_subscribed (h : IsSubscribed number uses) :
    (after uses).receivers[number]? = some (.live (due number uses - (receipts number uses).count .signal)) := by
  rw [receivers_after, List.getElem?_map, List.getElem?_range h.1, Option.map_some, if_neg h.2]

theorem subscribed_of_live {n : Nat} (h : (after uses).receivers[number]? = some (.live n)) : IsSubscribed number uses := by
  constructor
  · rw [← (kept_after uses).subscribed]
    exact (List.getElem?_eq_some_iff.1 h).1
  · rw [← dropped_iff, h]
    simp

theorem receiverCount_add_droppedCount (uses : List SignalUse) :
    (after uses).receiverCount + droppedCount uses = uses.count .subscribe := by
  have hlive : (after uses).receiverCount =
      (List.range (uses.count .subscribe)).countP fun number => ¬IsDropped number uses := by
    unfold receiverCount
    rw [receivers_after, List.countP_map]
    apply List.countP_congr
    intro number _
    by_cases hdropped : IsDropped number uses <;> simp [hdropped, Receiver.isLive]
  calc (after uses).receiverCount + droppedCount uses
      = (List.range (uses.count .subscribe)).countP (fun number => IsDropped number uses) +
          (List.range (uses.count .subscribe)).countP (fun number => ¬IsDropped number uses) := by
        rw [hlive, Nat.add_comm, droppedCount]
    _ = (List.range (uses.count .subscribe)).length := by
        rw [List.length_eq_countP_add_countP fun number => decide (IsDropped number uses)]
        simp only [decide_eq_true_eq]
    _ = uses.count .subscribe := List.length_range

/-! ## What a look finds -/

/-- a receiver finds the signal with its first look from the first trigger on, if it subscribed before that -/
theorem receive_finds (uses : List SignalUse) (number : Nat) :
    ((after uses).receive number).1 =
      if IsSubscribed number uses then
        if .trigger ∈ uses ∧ IsEarly number uses ∧ .signal ∉ receipts number uses then .signal else .empty
      else .absent := by
  by_cases hsubscribed : IsSubscribed number uses
  · have hr := receiver_of_subscribed hsubscribed
    have hdue := due_le_one number uses
    rw [if_pos hsubscribed]
    split_ifs with hfinds
    · obtain ⟨hmem, hearly, huntaken⟩ := hfinds
      rw [List.count_eq_zero_of_not_mem huntaken, due, if_pos ⟨hmem, hearly⟩] at hr
      rw [receive_of_waiting_one hr]
    · -- it is to have nothing, or has taken it
      have hnone : due number uses - (receipts number uses).count .signal = 0 := by
        by_cases htaken : .signal ∈ receipts number uses
        · have hcount := List.count_pos_iff.2 htaken
          omega
        · rw [due, if_neg fun h => hfinds ⟨h.1, h.2, htaken⟩, Nat.zero_sub]
      rw [hnone] at hr
      rw [receive_of_waiting_none hr]
  · rw [if_neg hsubscribed, receive_of_gone fun n hr => hsubscribed (subscribed_of_live hr)]

theorem behind_notMem_receipts (number : Nat) (uses : List SignalUse) : .behind ∉ receipts number uses := by
  induction uses using List.reverseRecOn with
  | nil => simp [receipts, findings]
  | append_singleton uses u ih =>
    rw [receipts_concat, receive_finds, List.mem_append]
    rintro (hbefore | hlook)
    · exact ih hbefore
    · split_ifs at hlook <;> simp at hlook

/-- a look stands between what was found before it and what is found after it -/
theorem receipts_look (number : Nat) (uses more : List SignalUse) :
    receipts number (uses ++ .receive number :: more) =
      receipts number uses ++ ((after uses).receive number).1 :: ((after uses).receive number).2.findings number more := by
  unfold receipts
  rw [findings_append, findings, if_pos rfl]
  rfl

theorem signal_mem_receipts (htriggered : .trigger ∈ uses) (hearly : IsEarly number uses)
    (hsubscribed : IsSubscribed number uses) (more : List SignalUse) :
    .signal ∈ receipts number (uses ++ .receive number :: more) := by
  rw [receipts_look, receive_finds, if_pos hsubscribed, List.mem_append]
  by_cases htaken : .signal ∈ receipts number uses
  · exact .inl htaken
  · rw [if_pos ⟨htriggered, hearly, htaken⟩]
    exact .inr List.mem_cons_self

/-! ## Once, and in time -/

/-- what holds of a stop signal, whatever was done with it -/
structure Punctual (uses : List SignalUse) : Prop where
  /-- nobody finds the signal before the first trigger -/
  notEarly : .trigger ∉ uses → ∀ number, .signal ∉ receipts number uses
  /-- nobody finds it twice -/
  once : ∀ number, (receipts number uses).count .signal ≤ 1
  /-- nobody is told of lost messages -/
  notBehind : ∀ number, .behind ∉ receipts number uses
  /-- once triggered: whoever subscribed before the first trigger and is still there has found it exactly once when it
  looks, whatever is done afterwards -/
  reached : .trigger ∈ uses → ∀ number, IsEarly number uses → IsSubscribed number uses → ∀ more,
    (receipts number (uses ++ .receive number :: more)).count .signal = 1
  /-- it knows whether it was triggered -/
  triggered : (after uses).triggered = true ↔ .trigger ∈ uses
  /-- and does not forget that -/
  lasting : (after uses).triggered = true → ∀ more, (after (uses ++ more)).triggered = true
  /-- its receivers are those that subscribed, without those that were dropped -/
  counted : (after uses).receiverCount + droppedCount uses = uses.count .subscribe

/-- **The signal comes once, and in time.** Whatever is done with a stop signal, nobody finds the signal before the first
trigger, nobody finds it a second time and nobody is told of lost messages. Whoever subscribed before the first trigger and
has not been dropped finds it with a look. The signal stays triggered, and the receivers that it counts are those that
subscribed without those that were dropped. -/
theorem signals_once (uses : List SignalUse) : Punctual uses where
  notEarly hmem number := List.count_eq_zero.1 ((kept_after uses).untaken hmem number)
  once := (kept_after uses).taken_le_one
  notBehind number := behind_notMem_receipts number uses
  reached hmem number hearly hsubscribed more := by
    have htaken := signal_mem_receipts hmem hearly hsubscribed more
    exact Nat.le_antisymm ((kept_after _).taken_le_one number) (List.count_pos_iff.2 htaken)
  triggered := (kept_after uses).triggered
  lasting htriggered more := by
    have hmem := (kept_after uses).triggered.1 htriggered
    exact (kept_after (uses ++ more)).triggered.2 (List.mem_append_left more hmem)
  counted := receiverCount_add_droppedCount uses

/-- the second trigger sends nothing more -/
example : receipts 0 [.subscribe, .receive 0, .trigger, .trigger, .receive 0, .receive 0] = [.empty, .signal, .empty] := by
  decide

end EdgeCache.Lifecycle.StopSignal
