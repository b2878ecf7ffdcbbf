/-
Which receivers a stop signal reaches.

- `Kept`: a receiver that subscribed before the first trigger has the signal once from then on, waiting or taken, and no
  other receiver ever has it. `step_kept`: every use keeps this; `kept_after`: so do uses in a row.
- `reaches_early`: a receiver that has not taken the signal finds it at its next look if it subscribed before the first
  trigger. One that came later waits for good.
-/
import Mathlib.Data.List.Induction
import EdgeCache.Lifecycle.SignalHistory

namespace EdgeCache.Lifecycle.StopSignal

variable {uses : List SignalUse} {u : SignalUse} {number : Nat}

/-! ## Uses in a row -/

theorem after_concat (uses : List SignalUse) (u : SignalUse) : after (uses ++ [u]) = (after uses).step u :=
  List.foldl_append ..

theorem findings_append (s : StopSignal) (number : Nat) (uses more : List SignalUse) :
    s.findings number (uses ++ more) = s.findings number uses ++ (s.run uses).findings number more := by
  induction uses generalizing s with
  | nil => rfl
  | cons u uses ih =>
    rw [List.cons_append, findings, findings, ih, List.append_assoc]
    rfl

theorem receipts_concat (number : Nat) (uses : List SignalUse) (u : SignalUse) :
    receipts number (uses ++ [u]) =
      receipts number uses ++ if u = .receive number then [((after uses).receive number).1] else [] := by
  unfold receipts
  rw [findings_append, findings, findings, List.append_nil]
  rfl

theorem receipts_concat_of_ne (h : u ≠ .receive number) : receipts number (uses ++ [u]) = receipts number uses := by
  rw [receipts_concat, if_neg h, List.append_nil]

/-! ## Who is to have the signal -/

/-- how many signals a receiver is to have by now, waiting or taken -/
def due (number : Nat) (uses : List SignalUse) : Nat := if .trigger ∈ uses ∧ IsEarly number uses then 1 else 0

theorem due_of_not_triggered (h : .trigger ∉ uses) (number : Nat) : due number uses = 0 := if_neg fun hdue => h hdue.1

/-- up to the first trigger, all subscriptions come before it -/
theorem isEarly_of_not_triggered (h : .trigger ∉ uses) (number : Nat) (more : List SignalUse) :
    IsEarly number (uses ++ .trigger :: more) ↔ number < uses.count .subscribe := by
  have hall : ∀ u ∈ uses, decide (u ≠ SignalUse.trigger) = true := by
    rintro u hu
    exact decide_eq_true fun heq => h (heq ▸ hu)
  unfold IsEarly
  rw [List.takeWhile_append_of_pos hall, List.takeWhile_cons_of_neg (by decide), List.append_nil]

/-- from the first trigger on, nothing changes who came before it -/
theorem isEarly_append (h : .trigger ∈ uses) (more : List SignalUse) :
    IsEarly number (uses ++ more) ↔ IsEarly number uses := by
  obtain ⟨before, rest, rfl, hbefore⟩ := List.eq_append_cons_of_mem h
  rw [List.append_assoc, List.cons_append, isEarly_of_not_triggered hbefore, isEarly_of_not_triggered hbefore]

theorem due_append (h : .trigger ∈ uses) (number : Nat) (more : List SignalUse) :
    due number (uses ++ more) = due number uses := by
  unfold due
  simp only [isEarly_append h, List.mem_append, h, true_or]

theorem due_concat (hu : u ≠ .trigger) (number : Nat) : due number (uses ++ [u]) = due number uses := by
  by_cases h : .trigger ∈ uses
  · exact due_append h number [u]
  · rw [due_of_not_triggered h, due_of_not_triggered]
    simp [h, Ne.symm hu]

/-- the first trigger is for all who have subscribed -/
theorem due_trigger (h : .trigger ∉ uses) (number : Nat) :
    due number (uses ++ [.trigger]) = if number < uses.count .subscribe then 1 else 0 := by
  unfold due
  simp only [isEarly_of_not_triggered h, List.mem_append, List.mem_singleton, or_true, true_and]

theorem due_le_one (number : Nat) (uses : List SignalUse) : due number uses ≤ 1 := by
  unfold due
  split_ifs
  · exact Nat.le_refl 1
  · exact Nat.zero_le 1

/-- who has not subscribed yet is to have nothing -/
theorem due_of_unsubscribed (h : uses.count .subscribe ≤ number) : due number uses = 0 := by
  refine if_neg fun hdue => ?_
  have hfewer := (List.takeWhile_sublist (· ≠ SignalUse.trigger) (l := uses)).count_le .subscribe
  exact absurd hdue.2 (Nat.not_lt.2 (Nat.le_trans hfewer h))

/-! ## What holds between uses -/

structure Kept (uses : List SignalUse) : Prop where
  triggered : (after uses).triggered = true ↔ .trigger ∈ uses
  subscribed : (after uses).receivers.length = uses.count .subscribe
  /-- a receiver has what it is to have: it waits, or it was taken -/
  waiting : ∀ number n, (after uses).receivers[number]? = some (.live n) →
    n + (receipts number uses).count .signal = due number uses
  taken : ∀ number, (receipts number uses).count .signal ≤ due number uses

theorem kept_start : Kept [] := by
  refine ⟨by decide, rfl, ?_, fun number => Nat.zero_le _⟩
  intro number n h
  simp [after, run] at h

/-- before the first trigger nobody has taken the signal -/
theorem Kept.untaken (h : Kept uses) (hmem : .trigger ∉ uses) (number : Nat) :
    (receipts number uses).count .signal = 0 := by
  have hle := h.taken number
  rw [due_of_not_triggered hmem] at hle
  exact Nat.le_zero.1 hle

/-- nobody takes it twice -/
theorem Kept.taken_le_one (h : Kept uses) (number : Nat) : (receipts number uses).count .signal ≤ 1 :=
  Nat.le_trans (h.taken number) (due_le_one number uses)

/-- a use that is no look and no first trigger changes nothing of what was taken -/
theorem Kept.taken_concat (h : Kept uses) (hu : u ≠ .trigger) (hlook : ∀ number, u ≠ .receive number) (number : Nat) :
    (receipts number (uses ++ [u])).count .signal ≤ due number (uses ++ [u]) := by
  rw [receipts_concat_of_ne (hlook number), due_concat hu]
  exact h.taken number

/-- a use that changes nothing, neither what the receivers are to have nor what they have taken -/
theorem Kept.of_same (h : Kept uses) (hsame : after (uses ++ [u]) = after uses) (hu : u ≠ .subscribe)
    (htrigger : .trigger ∈ uses ++ [u] ↔ .trigger ∈ uses) (hdue : ∀ number, due number (uses ++ [u]) = due number uses)
    (htaken : ∀ number, (receipts number (uses ++ [u])).count .signal = (receipts number uses).count .signal) :
    Kept (uses ++ [u]) := by
  refine ⟨?_, ?_, ?_, ?_⟩
  · rw [hsame, htrigger]
    exact h.triggered
  · simp [hsame, h.subscribed, hu]
  · intro number n hlive
    rw [hsame] at hlive
    rw [htaken, hdue]
    exact h.waiting number n hlive
  · intro number
    rw [htaken, hdue]
    exact h.taken number

theorem subscribe_kept (h : Kept uses) : Kept (uses ++ [.subscribe]) := by
  have hstep : after (uses ++ [.subscribe]) = (after uses).subscribe := after_concat uses .subscribe
  refine ⟨?_, ?_, ?_, h.taken_concat (by simp) (by simp)⟩
  · simpa [hstep, subscribe] using h.triggered
  · simp [hstep, subscribe, h.subscribed]
  · intro number n hlive
    rw [receipts_concat_of_ne (by simp), due_concat (by simp)]
    rw [hstep, subscribe, List.getElem?_append] at hlive
    split_ifs at hlive with hold
    · exact h.waiting number n hlive
    · -- the new receiver is to have nothing, and found nothing
      have hnone : due number uses = 0 := due_of_unsubscribed (by rw [← h.subscribed]; exact Nat.not_lt.1 hold)
      have hfound := h.taken number
      rw [List.getElem?_singleton] at hlive
      split_ifs at hlive
      cases hlive
      omega

/-- later triggers send nothing -/
theorem trigger_kept_of_triggered (h : Kept uses) (hmem : .trigger ∈ uses) : Kept (uses ++ [.trigger]) := by
  have hsame : after (uses ++ [.trigger]) = after uses :=
    (after_concat uses .trigger).trans (if_pos (h.triggered.2 hmem))
  refine h.of_same hsame (by decide) (by simp [hmem]) (fun number => due_append hmem number _) fun number => ?_
  rw [receipts_concat_of_ne (by simp)]

/-- the first trigger sends one message to every receiver -/
theorem trigger_kept_of_not_triggered (h : Kept uses) (hmem : .trigger ∉ uses) : Kept (uses ++ [.trigger]) := by
  have hsent : after (uses ++ [.trigger]) = ⟨true, (after uses).receivers.map Receiver.deliver⟩ :=
    (after_concat uses .trigger).trans (if_neg fun hdone => hmem (h.triggered.1 hdone))
  have hnothing : ∀ number, (receipts number uses).count .signal = 0 := h.untaken hmem
  have hreceipts : ∀ number, receipts number (uses ++ [.trigger]) = receipts number uses :=
    fun number => receipts_concat_of_ne (by simp)
  refine ⟨by simp [hsent], by simpa [hsent] using h.subscribed, ?_, ?_⟩
  · intro number n hlive
    obtain ⟨r, hr, hdelivered⟩ : ∃ r, (after uses).receivers[number]? = some r ∧ r.deliver = .live n := by
      simpa [hsent] using hlive
    have hlt : number < uses.count .subscribe := by
      rw [← h.subscribed]
      exact (List.getElem?_eq_some_iff.1 hr).1
    rw [hreceipts, due_trigger hmem, if_pos hlt, hnothing]
    cases r with
    | live m =>
      have hempty := h.waiting number m hr
      rw [due_of_not_triggered hmem] at hempty
      cases hdelivered
      omega
    | dropped => cases hdelivered
  · intro number
    rw [hreceipts, hnothing]
    exact Nat.zero_le _

theorem drop_kept (h : Kept uses) (dropped : Nat) : Kept (uses ++ [.drop dropped]) := by
  have hstep : after (uses ++ [.drop dropped]) = (after uses).drop dropped := after_concat uses _
  refine ⟨?_, ?_, ?_, h.taken_concat (by simp) (by simp)⟩
  · simpa [hstep, drop] using h.triggered
  · simpa [hstep, drop] using h.subscribed
  · intro number n hlive
    rw [receipts_concat_of_ne (by simp), due_concat (by simp)]
    rw [hstep, drop, List.getElem?_modify] at hlive
    obtain ⟨r, hr, heq⟩ := Option.map_eq_some_iff.1 hlive
    split_ifs at heq
    subst heq
    exact h.waiting number n hr

theorem receive_of_gone {s : StopSignal} (h : ∀ n, s.receivers[number]? ≠ some (.live n)) :
    s.receive number = (.absent, s) := by
  unfold receive
  cases hr : s.receivers[number]? with
  | none => rfl
  | some r =>
    cases r with
    | live n => exact absurd hr (h n)
    | dropped =>
      obtain ⟨hlt, hget⟩ := List.getElem?_eq_some_iff.1 hr
      simp only [Receiver.take, ← hget, List.set_getElem_self]

theorem receive_of_waiting_none {s : StopSignal} (h : s.receivers[number]? = some (.live 0)) :
    s.receive number = (.empty, s) := by
  obtain ⟨hlt, hget⟩ := List.getElem?_eq_some_iff.1 h
  unfold receive
  rw [h]
  simp only [Receiver.take, ← hget, List.set_getElem_self]

theorem receive_of_waiting_one {s : StopSignal} (h : s.receivers[number]? = some (.live 1)) :
    s.receive number = (.signal, { s with receivers := s.receivers.set number (.live 0) }) := by
  unfold receive
  rw [h]
  rfl

/-- a look that finds no signal and leaves all as it is -/
theorem look_kept_of_same (h : Kept uses) {looking : Nat} {found : Receipt} (hfound : found ≠ .signal)
    (hlook : (after uses).receive looking = (found, after uses)) : Kept (uses ++ [.receive looking]) := by
  have hsame : after (uses ++ [.receive looking]) = after uses := by
    rw [after_concat, step, hlook]
  have hcount : ∀ number, (receipts number (uses ++ [.receive looking])).count .signal =
      (receipts number uses).count .signal := by
    intro number
    rw [receipts_concat]
    split_ifs with heq
    · cases heq
      rw [hlook, List.count_append, List.count_singleton]
      simp [hfound]
    · rw [List.append_nil]
  exact h.of_same hsame (by simp) (by simp) (due_concat (by simp)) hcount

/-- a look that takes the signal -/
theorem look_kept_of_signal (h : Kept uses) {looking : Nat} (hr : (after uses).receivers[looking]? = some (.live 1)) :
    Kept (uses ++ [.receive looking]) := by
  have hlook := receive_of_waiting_one hr
  have hstep : after (uses ++ [.receive looking]) =
      { after uses with receivers := (after uses).receivers.set looking (.live 0) } := by
    rw [after_concat, step, hlook]
  have hown : (receipts looking (uses ++ [.receive looking])).count .signal = due looking uses := by
    rw [receipts_concat, if_pos rfl, hlook, List.count_append, List.count_singleton, ← h.waiting looking 1 hr]
    exact Nat.add_comm ..
  have hothers : ∀ number, number ≠ looking →
      receipts number (uses ++ [.receive looking]) = receipts number uses := by
    intro number hne
    exact receipts_concat_of_ne (by simpa using Ne.symm hne)
  refine ⟨?_, ?_, ?_, ?_⟩
  · simpa [hstep] using h.triggered
  · simpa [hstep] using h.subscribed
  · intro number n hlive
    rw [due_concat (by simp)]
    rw [hstep, List.getElem?_set] at hlive
    by_cases hne : number = looking
    · subst hne
      rw [if_pos rfl] at hlive
      split_ifs at hlive
      cases hlive
      rw [hown, Nat.zero_add]
    · rw [if_neg (Ne.symm hne)] at hlive
      rw [hothers number hne]
      exact h.waiting number n hlive
  · intro number
    rw [due_concat (by simp)]
    by_cases hne : number = looking
    · subst hne
      exact Nat.le_of_eq hown
    · rw [hothers number hne]
      exact h.taken number

theorem receive_kept (h : Kept uses) (looking : Nat) : Kept (uses ++ [.receive looking]) := by
  by_cases hlive : ∃ n, (after uses).receivers[looking]? = some (.live n)
  · obtain ⟨n, hr⟩ := hlive
    have hwaiting := h.waiting looking n hr
    have hdue := due_le_one looking uses
    -- no receiver is ever behind
    obtain rfl | rfl : n = 0 ∨ n = 1 := by omega
    · exact look_kept_of_same h (by decide) (receive_of_waiting_none hr)
    · exact look_kept_of_signal h hr
  · exact look_kept_of_same h (by decide) (receive_of_gone fun n hr => hlive ⟨n, hr⟩)

theorem step_kept (h : Kept uses) (u : SignalUse) : Kept (uses ++ [u]) := by
  cases u with
  | subscribe => exact subscribe_kept h
  | trigger =>
    by_cases hmem : .trigger ∈ uses
    · exact trigger_kept_of_triggered h hmem
    · exact trigger_kept_of_not_triggered h hmem
  | drop number => exact drop_kept h number
  | receive number => exact receive_kept h number

theorem kept_after (uses : List SignalUse) : Kept uses := by
  induction uses using List.reverseRecOn with
  | nil => exact kept_start
  | append_singleton uses u ih => exact step_kept ih u

/-! ## Who is reached -/

/-- **A trigger reaches those who came before it.** Whatever is done with a stop signal, say that it has been triggered, and
that a live receiver has not taken the signal so far. At its next look the receiver finds the signal if it subscribed
before the first trigger. One that subscribed later finds nothing then, and never gets the signal, whatever is done
afterwards. -/
theorem reaches_early {number n : Nat} (htriggered : (after uses).triggered = true)
    (hlive : (after uses).receivers[number]? = some (.live n)) (huntaken : .signal ∉ receipts number uses) :
    ((after uses).receive number).1 = (if IsEarly number uses then .signal else .empty) ∧
    (¬IsEarly number uses → ∀ more, .signal ∉ receipts number (uses ++ more)) := by
  have h := kept_after uses
  have hmem : .trigger ∈ uses := h.triggered.1 htriggered
  constructor
  · have hwaiting := h.waiting number n hlive
    rw [List.count_eq_zero_of_not_mem huntaken, Nat.add_zero] at hwaiting
    by_cases hearly : IsEarly number uses
    · obtain rfl : n = 1 := hwaiting.trans (if_pos ⟨hmem, hearly⟩)
      rw [receive_of_waiting_one hlive, if_pos hearly]
    · obtain rfl : n = 0 := hwaiting.trans (if_neg fun hdue => hearly hdue.2)
      rw [receive_of_waiting_none hlive, if_neg hearly]
  · intro hlate more htaken
    have hle := (kept_after (uses ++ more)).taken number
    rw [due_append hmem, show due number uses = 0 from if_neg fun hdue => hlate hdue.2] at hle
    exact absurd (List.count_pos_iff.2 htaken) (Nat.not_lt.2 hle)

/-- a receiver that subscribes after the trigger waits for good -/
theorem reaches_early_not_late :
    (after [.trigger, .subscribe]).triggered = true ∧
    (after [.trigger, .subscribe]).receivers[0]? = some (.live 0) ∧
    .signal ∉ receipts 0 [.trigger, .subscribe] ∧ ¬IsEarly 0 [.trigger, .subscribe] ∧
    ((after [.trigger, .subscribe]).receive 0).1 = .empty ∧
    ∀ more, .signal ∉ receipts 0 ([.trigger, .subscribe] ++ more) := by
  have htriggered : (after [.trigger, .subscribe]).triggered = true := by decide
  have hlive : (after [.trigger, .subscribe]).receivers[0]? = some (.live 0) := by decide
  have huntaken : .signal ∉ receipts 0 [.trigger, .subscribe] := by decide
  have hlate : ¬IsEarly 0 [.trigger, .subscribe] := by decide
  obtain ⟨hfound, hnever⟩ := reaches_early htriggered hlive huntaken
  rw [if_neg hlate] at hfound
  exact ⟨htriggered, hlive, huntaken, hlate, hfound, hnever hlate⟩

end EdgeCache.Lifecycle.StopSignal
