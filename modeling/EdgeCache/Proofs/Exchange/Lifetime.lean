/-
The lifetime that a client is told, and how long the store keeps to it.

- `Freshness.ofHeader_unspecified`: a header that leaves the lifetime open does so at every moment.
- `Proxy.keep_eq_set`: an answer is stored as any entry is for which the store is to find the lifetime itself.
- `Journal.contents_of_deposit`: what is in the store when an answer was stored.
- `Journal.lifetime_announced`: the text that the client gets is read as the time for which the entry is served.
-/
import EdgeCache.Proofs.Exchange.Marks
import EdgeCache.Proofs.Store.Lasting
import EdgeCache.Proofs.Time.SpanText

namespace EdgeCache

open EdgeCache.Exchange EdgeCache.Freshness EdgeCache.Message EdgeCache.Store EdgeCache.Time

/-! ## The lifetime that is chosen -/

/-- **A header that leaves the lifetime open does so at every moment.** -/
theorem Freshness.ofHeader_unspecified {h : Header} {now : Moment} (hopen : Decision.ofHeader h now = .unspecified)
    (later : Moment) : Decision.ofHeader h later = .unspecified := by
  unfold Decision.ofHeader at hopen ⊢
  cases hdirectives : ofDirectives? (h.elements "cache-control") with
  | some d =>
    rw [hdirectives] at hopen
    exact hopen
  | none =>
    rw [hdirectives] at hopen
    cases hexpires : (h.line? "expires").bind readDate? with
    | none => rfl
    | some expires =>
      -- an expiry date decides
      rw [hexpires] at hopen
      simp only [ofExpiry] at hopen
      split_ifs at hopen

theorem finite?_of_allowed {decision : Decision} (h : decision ≠ .forbidden) (default : Option Span) :
    decision.finite? default = decision.lifetimeOr default := by
  cases decision with
  | forbidden => exact absurd rfl h
  | unspecified => rfl
  | lifetime d => rfl

namespace ResponseStore

/-- where the header leaves the lifetime open, it does not matter when the store looks at it -/
theorem set_later (s : ResponseStore) {clock : Clock} {entry : Entry}
    (hopen : Decision.ofHeader entry.header clock.moment = .unspecified) (later : Moment) (picks : Nat → Pick) (key : Key)
    (readings : Nat → Instant) :
    s.set ⟨clock.instant, later⟩ picks key entry readings = s.set clock picks key entry readings := by
  unfold set
  simp only [hopen, ofHeader_unspecified hopen later]

end ResponseStore

namespace Proxy

/-- **An answer is stored as any entry is**, for the lifetime that the store finds in its header. -/
theorem keep_eq_set (s : ResponseStore) (clock : Clock) (picks : Nat → Pick) (key : Key) (entry : Entry)
    (readings : Nat → Instant) :
    (keep s clock picks key entry readings).2 = (s.set clock picks key entry readings).2 := by
  unfold keep ResponseStore.set
  cases Decision.ofHeader entry.header clock.moment with
  | forbidden => rfl
  | unspecified => rfl
  | lifetime d => rfl

end Proxy

namespace Exchange

variable {Backend : Type} {limits : Limits}

/-- an entry lives for as long as the header of the answer that led to it tells -/
theorem Fetch.Yields.lifetime_eq {f : Fetch} {now : Moment} {entry : Entry} (h : f.Yields now entry)
    (default : Option Span) :
    entry.lifetime? now default = (Decision.ofHeader f.answer.response.header.endToEnd now).lifetimeOr default := by
  obtain ⟨body, -, rfl⟩ := h.whole
  unfold Entry.lifetime?
  rw [Proxy.ofHeader_document]

/-- what is announced with an answer that leads to an entry is the lifetime of the entry -/
theorem Fetch.Yields.announced_eq {f : Fetch} {now : Moment} {entry : Entry} (h : f.Yields now entry)
    (default : Option Span) : f.announced? default now = entry.lifetime? now default := by
  rw [h.lifetime_eq, ← finite?_of_allowed h.allowed]
  unfold Fetch.announced?
  rw [h.reached, List.contains_iff_mem.2 h.status]
  rfl

namespace Journal

variable {j : Journal Backend} {number : Nat} {f : Fetch} {clock : Clock} {picks : Nat → Pick} {elapsed : Span}
  {readings : Nat → Instant}

theorem contents_of_deposit (hs : Sound limits j) (harrived : j.arrived number = some f)
    (hstored : (j.step (.store number clock picks elapsed readings)).2.deposits =
      ⟨j.keyOf f.request, f, clock⟩ :: j.deposits) :
    ∃ entry, f.Yields clock.moment entry ∧
      (j.step (.store number clock picks elapsed readings)).2.store.contents (j.keyOf f.request) =
        some (entry, (entry.lifetime? clock.moment limits.defaultLifetime).bind clock.instant.after?) := by
  rw [step_store harrived (hs.arrived number f harrived).2] at hstored ⊢
  -- the answer is noted, so the call of the store was answered yes
  have hnoted : (j.deposit? f clock picks readings).toList = [⟨j.keyOf f.request, f, clock⟩] :=
    List.append_cancel_right hstored
  cases hcall : j.traffic.proxy.settleCall? clock picks f.request f.answer readings with
  | none =>
    unfold deposit? at hnoted
    rw [hcall] at hnoted
    cases hnoted
  | some call =>
    rw [deposit?_of_call hcall] at hnoted
    have hyes : (call.perform j.store).1.isYes = true := by
      by_contra hno
      rw [if_neg hno] at hnoted
      cases hnoted
    obtain ⟨entry, hyields, hkeeps⟩ := Proxy.settleCall?_eq_some hcall
    have hunder := ResponseStore.insert_storesUnder hs.store (hkeeps.perform _) (hkeeps.rounds _)
    refine ⟨entry, hyields, ?_⟩
    show (j.traffic.proxy.settle clock picks elapsed f.request f.answer readings).2.store.contents _ = _
    rw [Proxy.settle_store, hcall, ← hs.store.defaultLifetime]
    show (call.perform j.store).2.contents (j.traffic.proxy.keyOf f.request) = _
    rw [hunder.own, hyes]
    rfl

/-- an answer was stored for a finite lifetime: the client reads it, and the entry is found for as long, while it is left
alone. A lifetime whose end the clock cannot show never ends. -/
structure Kept (j : Journal Backend) (number : Nat) (f : Fetch) (clock : Clock) (picks : Nat → Pick) (elapsed : Span)
    (readings : Nat → Instant) (lifetime : Span) : Prop where
  told : ∃ response text, (j.step (.store number clock picks elapsed readings)).1 = .response number response ∧
    response.header.values "x-cache-ttl" = [text] ∧ Span.ofCompound? text = some lifetime
  lasts : ∃ entry, f.Yields clock.moment entry ∧ ∀ calls later, clock.instant.nanos + later < Instant.limit →
    Spared (j.keyOf f.request) ⟨clock.instant.nanos + later⟩
      (j.step (.store number clock picks elapsed readings)).2.store calls →
    (((j.step (.store number clock picks elapsed readings)).2.store.run calls).get ⟨clock.instant.nanos + later⟩
      (j.keyOf f.request)).1 = if later < lifetime.nanos then some entry else none

theorem step_response (hs : Sound limits j) (harrived : j.arrived number = some f)
    (hdoc : Proxy.isForDocument f.request = true) {body : ByteArray} (hbody : f.answer.response.body.read? = some body) :
    ∃ response, (j.step (.store number clock picks elapsed readings)).1 = .response number response ∧
      Document f.answer.response.header body.size (f.announced? limits.defaultLifetime clock.moment) .miss elapsed
        response.header := by
  obtain ⟨hfetch, hlookup⟩ := hs.arrived number f harrived
  have hdefault : j.traffic.proxy.store.defaultLifetime = limits.defaultLifetime := hs.store.defaultLifetime
  rw [step_store harrived hlookup, Proxy.settle_of_whole hdoc hbody, hdefault]
  exact ⟨_, rfl, Document.of_marked f.answer body _ .miss elapsed⟩

end Journal

namespace Sample

open Journal

theorem told_stores {r : Request} (hdoc : Proxy.isForDocument r = true) (header : Header)
    (hallowed : Decision.ofHeader header.endToEnd now.moment ≠ .forbidden) :
    ((told r header).step (.store 0 now picks ⟨0⟩ fun _ => ⟨0⟩)).2.deposits =
      ⟨(told r header).keyOf r, ⟨r, said 200 header⟩, now⟩ :: (told r header).deposits := by
  have hyields : Fetch.Yields ⟨r, said 200 header⟩ now.moment _ := yields hdoc (by decide) hallowed
  have hroom : idle.store.Fits (idle.keyOf r) (Proxy.document (said 200 header) .empty) :=
    ResponseStore.fits_new new_idle _ (Nat.zero_le 8)
  have hunused : (start idle).traffic.pending.lookup 0 = none := rfl
  have hwaiting : (start idle).arrived 0 = none := rfl
  obtain ⟨-, hdeposits⟩ := exchange_deposits (sound_start new_idle) hyields (idle_contents _) hroom
    hunused hwaiting now ⟨0⟩ picks ⟨0⟩ fun _ => ⟨0⟩
  have hkey : (told r header).keyOf r = (start idle).keyOf r := run_keyOf (start idle) _ r
  have hnothing : (told r header).deposits = (start idle).deposits := by
    show (((start idle).step (.lookup 0 now ⟨0⟩ r)).2.receive 0 (said 200 header)).deposits = _
    unfold receive
    split <;> rfl
  rw [hkey, hnothing]
  exact hdeposits

end Sample

namespace Journal

variable {j : Journal Backend} {number : Nat} {f : Fetch}

/-- **The lifetime that is announced is the real one.** Whatever was fetched and stored for a finite lifetime: the client
reads that lifetime, and the entry is served for as long as that, and not at the end of it, while it is left alone; where
the clock cannot show the end, it is served at any time that the clock can show. No lifetime is added to a document of
which the header leaves it open where such entries live for good. The store is left as it would be if it had to find the
lifetime itself; and where the header leaves it open at one moment, it does at every moment, and so it does not matter
when the store looks. -/
theorem lifetime_announced (h : Reachable limits j) (harrived : j.arrived number = some f) (clock : Clock)
    (picks : Nat → Pick) (elapsed : Span) (readings : Nat → Instant) :
    (∀ lifetime, (j.step (.store number clock picks elapsed readings)).2.deposits =
        ⟨j.keyOf f.request, f, clock⟩ :: j.deposits →
      Deposit.lifetime? ⟨j.keyOf f.request, f, clock⟩ limits.defaultLifetime = some lifetime →
      j.Kept number f clock picks elapsed readings lifetime) ∧
    (∀ body, Proxy.isForDocument f.request = true → f.answer.response.body.read? = some body →
      Decision.ofHeader f.answer.response.header.endToEnd clock.moment = .unspecified → limits.defaultLifetime = none →
      ∃ response, (j.step (.store number clock picks elapsed readings)).1 = .response number response ∧
        response.header.values "x-cache-ttl" = f.answer.response.header.endToEnd.values "x-cache-ttl") ∧
    (∀ s key entry, (Proxy.keep s clock picks key entry readings).2 = (s.set clock picks key entry readings).2) ∧
    (∀ (s : ResponseStore) key (entry : Entry) later, Decision.ofHeader entry.header clock.moment = .unspecified →
      Decision.ofHeader entry.header later = .unspecified ∧
      s.set ⟨clock.instant, later⟩ picks key entry readings = s.set clock picks key entry readings) := by
  have hs := h.sound
  refine ⟨?_, ?_, ?_, ?_⟩
  · intro lifetime hstored hlifetime
    obtain ⟨entry, hyields, hcontents⟩ := contents_of_deposit hs harrived hstored
    have hchosen : entry.lifetime? clock.moment limits.defaultLifetime = some lifetime :=
      (hyields.lifetime_eq _).trans hlifetime
    constructor
    · obtain ⟨body, hbody, -⟩ := hyields.whole
      obtain ⟨response, hresponse, hdocument⟩ := step_response hs harrived hyields.forDocument hbody
      rw [hyields.announced_eq, hchosen] at hdocument
      exact ⟨response, _, hresponse, hdocument.ttl lifetime rfl, Span.ofCompound?_compound lifetime⟩
    · refine ⟨entry, hyields, fun calls later hshown hspared => ?_⟩
      rw [hchosen] at hcontents
      exact ResponseStore.get_run_lifetime (step_sound hs _).store hcontents hshown hspared
  · intro body hdoc hbody hopen hnone
    obtain ⟨response, hresponse, hdocument⟩ := step_response hs harrived hdoc hbody
    have hsilent : f.announced? limits.defaultLifetime clock.moment = none := by
      unfold Fetch.announced?
      rw [hopen, hnone]
      exact ite_self _
    rw [hsilent] at hdocument
    exact ⟨response, hresponse, hdocument.ttl_of_none⟩
  · intro s key entry
    exact Proxy.keep_eq_set s clock picks key entry readings
  · intro s key entry later hopen
    exact ⟨ofHeader_unspecified hopen later, s.set_later hopen later picks key readings⟩

open Sample in
theorem lifetime_announced_aged :
    (told asked aged).Reachable ⟨2, 8, none⟩ ∧ (told asked aged).arrived 0 = some ⟨asked, said 200 aged⟩ ∧
    ((told asked aged).step (.store 0 now picks ⟨0⟩ fun _ => ⟨0⟩)).2.deposits =
      ⟨(told asked aged).keyOf asked, ⟨asked, said 200 aged⟩, now⟩ :: (told asked aged).deposits ∧
    Deposit.lifetime? ⟨(told asked aged).keyOf asked, ⟨asked, said 200 aged⟩, now⟩ none = some (.ofSeconds 60) ∧
    (told asked aged).Kept 0 ⟨asked, said 200 aged⟩ now picks ⟨0⟩ (fun _ => ⟨0⟩) (.ofSeconds 60) ∧
    ∀ key entry, (Proxy.keep idle.store now picks key entry fun _ => ⟨0⟩).2 =
      (idle.store.set now picks key entry fun _ => ⟨0⟩).2 := by
  have hreachable := told_reachable asked aged
  have harrived := told_arrived (r := asked) rfl aged
  have hdecision : Decision.ofHeader aged.endToEnd now.moment = .lifetime (.ofSeconds 60) := by decide +kernel
  have hlifetime : Deposit.lifetime? ⟨(told asked aged).keyOf asked, ⟨asked, said 200 aged⟩, now⟩ none =
      some (.ofSeconds 60) := by
    unfold Deposit.lifetime?
    rw [show (said 200 aged).response.header = aged from rfl, hdecision]
    rfl
  have hstored := told_stores (r := asked) rfl aged (by rw [hdecision]; simp)
  obtain ⟨hkept, -, hsame, -⟩ := lifetime_announced hreachable harrived now picks ⟨0⟩ fun _ => ⟨0⟩
  exact ⟨hreachable, harrived, hstored, hlifetime, hkept _ hstored hlifetime, hsame idle.store⟩

end Journal

end Exchange

end EdgeCache
