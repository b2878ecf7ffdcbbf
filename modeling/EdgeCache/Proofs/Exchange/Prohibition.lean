/-
What a backend forbids to store. The fields of the connection are taken out of an answer first, and what is left decides.

- `Journal.Reachable.yields`: whatever was stored was an answer that may be stored.
- `Journal.prohibition_obeyed`: an answer that forbids it is neither stored nor served, unless its Connection field names
  Cache-Control.
- `Nominated.prohibition_dropped`: a run in which it is, because of that.
-/
import EdgeCache.Proofs.Exchange.Provenance

namespace EdgeCache.Exchange

open EdgeCache.Freshness EdgeCache.Message EdgeCache.Store EdgeCache.Time

variable {Backend : Type} {limits : Limits}

theorem Fetch.not_yields {f : Fetch} (hp : Prohibits f.answer.response.header)
    (hn : "cache-control" ∉ f.answer.response.header.nominated) (now : Moment) (entry : Entry) :
    ¬f.Yields now entry := by
  intro hyields
  exact hyields.allowed (endToEnd_of_prohibits hp hn now)

namespace Journal

variable {j : Journal Backend}

/-! ## What is stored -/

theorem deposits_step {s : Step} {d : Deposit} (hs : Sound limits j) (hd : d ∈ (j.step s).2.deposits) :
    d ∈ j.deposits ∨ ∃ entry, d.fetch.Yields d.clock.moment entry := by
  cases s with
  | lookup number clock elapsed r => exact Or.inl hd
  | fetch number answer =>
    have hsame : (j.receive number answer).deposits = j.deposits := by
      unfold receive
      split
      · rfl
      · rfl
    exact Or.inl (hsame ▸ hd)
  | store number clock picks elapsed readings =>
    cases harrived : j.arrived number with
    | none =>
      rw [step_store_of_none harrived] at hd
      exact Or.inl hd
    | some f =>
      rw [step_store harrived (hs.arrived number f harrived).2] at hd
      rcases List.mem_append.1 hd with hnew | hold
      · obtain ⟨rfl, hyields⟩ := deposit?_eq_some (Option.mem_toList.1 hnew)
        exact Or.inr hyields
      · exact Or.inl hold
  | abandon number => exact Or.inl hd
  | sweep now => exact Or.inl hd

theorem deposits_run (hs : Sound limits j) (steps : List Step) {d : Deposit} (hd : d ∈ (j.run steps).deposits) :
    d ∈ j.deposits ∨ ∃ entry, d.fetch.Yields d.clock.moment entry := by
  induction steps generalizing j with
  | nil => exact Or.inl hd
  | cons s steps ih =>
    rcases ih (step_sound hs s) hd with hbefore | hyields
    · exact deposits_step hs hbefore
    · exact Or.inr hyields

/-- **Whatever was stored was an answer that may be stored**, at the moment at which it was. -/
theorem Reachable.yields (h : Reachable limits j) {d : Deposit} (hd : d ∈ j.deposits) :
    ∃ entry, d.fetch.Yields d.clock.moment entry := by
  obtain ⟨p, steps, hnew, rfl⟩ := h
  rcases deposits_run (sound_start hnew) steps hd with hstart | hyields
  · cases hstart
  · exact hyields

end Journal

/-! ## A prohibition -/

namespace Sample

open Journal

/-- a request for the document waits, and its answer has come -/
def told (r : Request) (header : Header) : Journal Unit :=
  (start idle).run [.lookup 0 now ⟨0⟩ r, .fetch 0 (said 200 header)]

theorem arrived_of_waiting {r : Request}
    (hwaits : ((start idle).step (.lookup 0 now ⟨0⟩ r)).2.traffic.pending.lookup 0 = some r) (header : Header) :
    (told r header).arrived 0 = some ⟨r, said 200 header⟩ := by
  show ((((start idle).step (.lookup 0 now ⟨0⟩ r)).2).receive 0 (said 200 header)).arrived 0 = _
  rw [receive_of_waiting hwaits rfl]
  show Function.update (start idle).arrived 0 (some ⟨r, said 200 header⟩) 0 = _
  exact Function.update_self ..

theorem told_arrived {r : Request} (hdoc : Proxy.isForDocument r = true) (header : Header) :
    (told r header).arrived 0 = some ⟨r, said 200 header⟩ :=
  arrived_of_waiting (lookup_waits (j := start idle) hdoc (idle_contents _) rfl now ⟨0⟩) header

theorem told_reachable (r : Request) (header : Header) : (told r header).Reachable ⟨2, 8, none⟩ :=
  ⟨idle, _, new_idle, rfl⟩

/-- a prohibition among other directives, in a line after one that allows it -/
def withheld : Header :=
  [⟨"cache-control", "max-age=60"⟩, ⟨"expires", "Fri, 31 Dec 9999 23:59:59 GMT"⟩, ⟨"connection", "close"⟩,
    ⟨"cache-control", "s-maxage=60 , No-Store"⟩]

end Sample

namespace Journal

variable {j : Journal Backend}

/-- **A prohibition is obeyed.** Say that among the Cache-Control lines of an answer that are visible ASCII one has a word
that forbids storing, wherever it stands and whatever the other fields are, but that no Connection field of the answer
names Cache-Control. Then, whatever else happens before and after, the answer is not among those that were stored;
nothing in the store is there because of it; no document that the client is told was in the store comes from it; and the
store stays as it is when the answer is handed on. -/
theorem prohibition_obeyed (h : Reachable limits j) {f : Fetch} (hp : Prohibits f.answer.response.header)
    (hn : "cache-control" ∉ f.answer.response.header.nominated) :
    (∀ d ∈ j.deposits, d.fetch.answer ≠ f.answer) ∧
    (∀ key stored, j.store.contents key = some stored →
      ∃ d, j.latest? key = some d ∧ d.Put limits.defaultLifetime stored ∧ d.fetch.answer ≠ f.answer) ∧
    (∀ s r response, j.Hits s r response →
      ∃ d elapsed body, j.latest? (j.keyOf r) = some d ∧ d.Answers r elapsed body response ∧
        d.fetch.answer ≠ f.answer) ∧
    (∀ number, j.arrived number = some f → ∀ clock picks elapsed readings,
      (j.step (.store number clock picks elapsed readings)).2.store = j.store) := by
  have hs := h.sound
  have hnot : ∀ d ∈ j.deposits, d.fetch.answer ≠ f.answer := by
    intro d hd hsame
    obtain ⟨entry, hyields⟩ := h.yields hd
    rw [← hsame] at hp hn
    exact Fetch.not_yields hp hn _ _ hyields
  refine ⟨hnot, ?_, ?_, ?_⟩
  · intro key stored hstored
    obtain ⟨d, hd, hput⟩ := hs.stored key stored hstored
    exact ⟨d, hd, hput, hnot d (mem_of_latest? hd).1⟩
  · intro s r response hhit
    obtain ⟨number, clock, elapsed, d, body, -, hd, hanswers, -⟩ := hhit.source hs
    exact ⟨d, elapsed, body, hd, hanswers, hnot d (mem_of_latest? hd).1⟩
  · intro number harrived clock picks elapsed readings
    exact store_of_not_yields hs harrived (fun entry => Fetch.not_yields hp hn _ entry) picks elapsed readings

open Sample in
theorem prohibition_obeyed_withheld :
    (told asked withheld).Reachable ⟨2, 8, none⟩ ∧ Prohibits withheld ∧ "cache-control" ∉ withheld.nominated ∧
    (told asked withheld).arrived 0 = some ⟨asked, said 200 withheld⟩ ∧
    (∀ d ∈ (told asked withheld).deposits, d.fetch.answer ≠ said 200 withheld) ∧
    (∀ key stored, (told asked withheld).store.contents key = some stored →
      ∃ d, (told asked withheld).latest? key = some d ∧ d.Put none stored ∧ d.fetch.answer ≠ said 200 withheld) ∧
    (∀ s r response, (told asked withheld).Hits s r response →
      ∃ d elapsed body, (told asked withheld).latest? ((told asked withheld).keyOf r) = some d ∧
        d.Answers r elapsed body response ∧ d.fetch.answer ≠ said 200 withheld) ∧
    (∀ number, (told asked withheld).arrived number = some ⟨asked, said 200 withheld⟩ →
      ∀ clock picks elapsed readings,
        ((told asked withheld).step (.store number clock picks elapsed readings)).2.store =
          (told asked withheld).store) := by
  have hreachable := told_reachable asked withheld
  have hp : Prohibits withheld := by
    refine ⟨"s-maxage=60 , No-Store", by decide, by decide, " No-Store".toList, by decide, "no-store", by decide, ?_⟩
    decide
  have hn : "cache-control" ∉ withheld.nominated := by decide +kernel
  exact ⟨hreachable, hp, hn, told_arrived rfl withheld,
    prohibition_obeyed (f := ⟨asked, said 200 withheld⟩) hreachable hp hn⟩

end Journal

/-! ## A prohibition that is lost -/

namespace Nominated

open Sample Journal

/-- a prohibition that is taken for a field of the connection -/
def dropped : Header := [⟨"connection", "cache-control"⟩, ⟨"cache-control", "no-store"⟩]

/-- the fields of the connection are taken out before the rest decides -/
theorem prohibition_dropped :
    Prohibits (said 200 dropped).response.header ∧ (visited asked dropped).Reachable ⟨2, 8, none⟩ ∧
    (visited asked dropped).Hits (.lookup 1 now ⟨0⟩ asked) asked (replayed dropped false) ∧
    (visited asked dropped).latest? ((visited asked dropped).keyOf asked) =
      some ⟨idle.keyOf asked, ⟨asked, said 200 dropped⟩, now⟩ := by
  have hp : Prohibits dropped := by
    refine ⟨"no-store", by decide, by decide, "no-store".toList, by decide, "no-store", by decide, ?_⟩
    decide
  have hnothing : Decision.ofHeader dropped.endToEnd now.moment = .unspecified := by decide +kernel
  obtain ⟨hreachable, hhits, hlatest⟩ := visited_hits (r := asked) (q := asked) rfl rfl rfl hnothing
  exact ⟨hp, hreachable, hhits, hlatest⟩

end Nominated

end EdgeCache.Exchange
