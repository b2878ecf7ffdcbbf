/-
What a history of registrations and removals says about lookups.

- `get?_reached_iff`: a host is bound to what was registered for it last, unless it was removed since.
- `withoutPort?_eq_some_iff`: which hosts have a port, and what they are without it.
- `Serves`: the backend that a query comes to by a history: that of its host, else that of its host without the port, else
  the default one.
- `reached_follows`: the table that a history leads to finds just that, in any case of letters, and tells which hosts are
  registered.
-/
import EdgeCache.Proofs.Routing.HostTable
import EdgeCache.Proofs.Text.Numerals
import EdgeCache.Proofs.Text.Order

namespace EdgeCache.Text

/-! ## Case and blanks -/

theorem isBlank_toLower (c : Char) : isBlank c.toLower = isBlank c := by
  by_cases h : c.val ≥ 'A'.val ∧ c.val ≤ 'Z'.val
  · have hascii : c.toNat < 128 := by
      have hle : c.toNat ≤ 90 := h.2
      omega
    exact forall_ascii (P := fun c => isBlank c.toLower = isBlank c) (by decide) hascii
  · have hsame : c.toLower = c := dif_neg h
    rw [hsame]

theorem trimEnd_map_toLower (cs : List Char) : trimEnd (cs.map Char.toLower) = (trimEnd cs).map Char.toLower := by
  induction cs with
  | nil => rfl
  | cons c cs ih =>
    rw [List.map_cons, trimEnd, trimEnd, ih, isBlank_toLower]
    cases trimEnd cs with
    | nil => by_cases hc : isBlank c <;> simp [hc]
    | cons d ds => rfl

theorem trim_map_toLower (cs : List Char) : trim (cs.map Char.toLower) = (trim cs).map Char.toLower := by
  have hblank : isBlank ∘ Char.toLower = isBlank := funext isBlank_toLower
  unfold trim trimStart
  rw [List.dropWhile_map, hblank, trimEnd_map_toLower]

theorem trimmed_lower (s : String) : trimmed (lower s) = lower (trimmed s) := by
  apply String.toList_inj.1
  simp [trimmed, lower, trim_map_toLower]

end EdgeCache.Text

namespace EdgeCache.Routing

open EdgeCache.Text

/-! ## Ports -/

/-- a host is a name with a port of digits behind it. A name that opens a bracket closes it before the port. -/
structure HasPort (host name port : List Char) : Prop where
  split : host = name ++ ':' :: port
  nonempty : port ≠ []
  digits : ∀ c ∈ port, c.isDigit = true
  closed : name.head? = some '[' → name.getLast? = some ']'

theorem HasPort.no_colon {host name port : List Char} (h : HasPort host name port) : ':' ∉ port := by
  intro hmem
  exact absurd (h.digits ':' hmem) (by decide)

/-- **Hosts with ports.** A host without its port is what stands in front of the last colon, if only digits follow. -/
theorem withoutPort?_eq_some_iff {host name : List Char} :
    withoutPort? host = some name ↔ ∃ port, HasPort host name port := by
  constructor
  · intro h
    obtain ⟨⟨front, port⟩, hcut, h⟩ := Option.bind_eq_some_iff.1 h
    obtain ⟨hhost, -⟩ := cutLast_eq_some hcut
    simp only at h
    split_ifs at h with hport hbracket
    cases h
    obtain ⟨hne, hdigits⟩ := not_or.1 hport
    refine ⟨port, hhost, hne, by simpa using hdigits, ?_⟩
    intro hopens
    by_contra hopen
    exact hbracket ⟨hopens, hopen⟩
  · rintro ⟨port, h⟩
    have hport : ¬(port = [] ∨ (!port.all Char.isDigit) = true) := by
      rintro (hnil | hother)
      · exact h.nonempty hnil
      · simp [List.all_eq_true.2 h.digits] at hother
    have hbracket : ¬(name.head? = some '[' ∧ name.getLast? ≠ some ']') := fun hopen => hopen.2 (h.closed hopen.1)
    unfold withoutPort?
    rw [h.split, cutLast_append h.no_colon]
    simp only [Option.bind_eq_bind, Option.bind_some, if_neg hport, if_neg hbracket]
    rfl

namespace HostTable

variable {Backend : Type} {default backend : Backend} {history : List (Change Backend)} {host query : String}

/-! ## Registrations in force -/

/-- one change more: it says what its host is bound to, and leaves the others as they are -/
theorem inForce_concat (history : List (Change Backend)) (c : Change Backend) (host : String) (backend : Backend) :
    InForce (history ++ [c]) host backend ↔ if c.about = host then c.binding? = some backend
      else InForce history host backend := by
  constructor
  · rintro ⟨earlier, name, later, hsplit, hname, hlater⟩
    rcases List.eq_nil_or_concat later with rfl | ⟨later, c', rfl⟩
    · obtain ⟨-, hc⟩ := List.append_inj' hsplit rfl
      cases hc
      rw [if_pos (show (Change.add name backend).about = host from hname)]
      rfl
    · rw [List.concat_eq_append, ← List.cons_append, ← List.append_assoc] at hsplit
      obtain ⟨rfl, hc⟩ := List.append_inj' hsplit rfl
      cases hc
      rw [if_neg (hlater c (by simp))]
      exact ⟨earlier, name, later, rfl, hname, fun d hd => hlater d (by simp [hd])⟩
  · intro h
    split_ifs at h with habout
    · cases c with
      | remove name => cases h
      | add name b =>
        cases h
        exact ⟨history, name, [], rfl, habout, by simp⟩
    · obtain ⟨earlier, name, later, rfl, hname, hlater⟩ := h
      refine ⟨earlier, name, later ++ [c], by simp, hname, ?_⟩
      intro d hd
      rcases List.mem_append.1 hd with hd | hd
      · exact hlater d hd
      · obtain rfl := List.mem_singleton.1 hd
        exact habout

/-- **Bindings are registrations in force.** -/
theorem get?_reached_iff (default : Backend) {backend : Backend} :
    (reached default history).hosts.get? host = some backend ↔ InForce history host backend := by
  induction history using List.reverseRecOn with
  | nil =>
    constructor
    · intro h
      cases h
    · rintro ⟨earlier, name, later, hnil, -⟩
      simp at hnil
  | append_singleton history c ih =>
    rw [inForce_concat, ← ih]
    unfold reached
    rw [after_concat, get?_apply]
    split_ifs <;> rfl

theorem get?_reached_eq_none_iff (default : Backend) :
    (reached default history).hosts.get? host = none ↔ ¬Bound history host := by
  unfold Bound
  simp only [← get?_reached_iff default, Option.eq_none_iff_forall_ne_some, not_exists]

theorem InForce.unique {a b : Backend} (ha : InForce history host a) (hb : InForce history host b) : a = b := by
  have hget := (get?_reached_iff a).2 ha
  rw [(get?_reached_iff a).2 hb] at hget
  exact (Option.some.inj hget).symm

/-! ## Lookups -/

/-- the backend that a query comes to after a history -/
inductive Serves (default : Backend) (history : List (Change Backend)) (query : String) : Backend → Prop where
  /-- its host is registered as it is, with a port or without one -/
  | whole {backend : Backend} (h : InForce history (lower (trimmed query)) backend) :
      Serves default history query backend
  /-- only its host without the port is -/
  | bare {name port : List Char} {backend : Backend} (habsent : ¬Bound history (lower (trimmed query)))
      (hport : HasPort (lower (trimmed query)).toList name port) (h : InForce history (String.ofList name) backend) :
      Serves default history query backend
  /-- neither is -/
  | otherwise (habsent : ¬Bound history (lower (trimmed query)))
      (hbare : ∀ name port, HasPort (lower (trimmed query)).toList name port → ¬Bound history (String.ofList name)) :
      Serves default history query default

theorem serves_lookup (default : Backend) (history : List (Change Backend)) (query : String) :
    Serves default history query ((reached default history).lookup query) := by
  unfold lookup
  rw [registered?_eq]
  cases hexact : (reached default history).hosts.get? (lower (trimmed query)) with
  | some backend => exact .whole ((get?_reached_iff default).1 hexact)
  | none =>
    have habsent := (get?_reached_eq_none_iff default).1 hexact
    rw [Option.none_or]
    cases hbare : (withoutPort? (lower (trimmed query)).toList).bind
        fun name => (reached default history).hosts.get? (String.ofList name) with
    | some backend =>
      obtain ⟨name, hname, hget⟩ := Option.bind_eq_some_iff.1 hbare
      obtain ⟨port, hport⟩ := withoutPort?_eq_some_iff.1 hname
      exact .bare habsent hport ((get?_reached_iff default).1 hget)
    | none =>
      rw [Option.getD_none, show (reached default history).default = default from default_after ..]
      apply Serves.otherwise habsent
      intro name port hport
      apply (get?_reached_eq_none_iff default).1
      exact Option.bind_eq_none_iff.1 hbare name (withoutPort?_eq_some_iff.2 ⟨port, hport⟩)

theorem Serves.unique {a b : Backend} (ha : Serves default history query a) (hb : Serves default history query b) :
    a = b := by
  cases ha with
  | whole ha =>
    cases hb with
    | whole hb => exact ha.unique hb
    | bare habsent => exact absurd ⟨a, ha⟩ habsent
    | otherwise habsent => exact absurd ⟨a, ha⟩ habsent
  | bare habsent hport ha =>
    cases hb with
    | whole hb => exact absurd ⟨b, hb⟩ habsent
    | bare _ hport' hb =>
      -- one host is split into name and port in one way
      have hname := withoutPort?_eq_some_iff.2 ⟨_, hport⟩
      rw [withoutPort?_eq_some_iff.2 ⟨_, hport'⟩] at hname
      cases hname
      exact ha.unique hb
    | otherwise _ hbare => exact absurd ⟨a, ha⟩ (hbare _ _ hport)
  | otherwise habsent hbare =>
    cases hb with
    | whole hb => exact absurd ⟨b, hb⟩ habsent
    | bare _ hport hb => exact absurd ⟨b, hb⟩ (hbare _ _ hport)
    | otherwise => rfl

theorem lookup_eq_iff : (reached default history).lookup query = backend ↔ Serves default history query backend := by
  constructor
  · rintro rfl
    exact serves_lookup default history query
  · intro h
    exact (serves_lookup default history query).unique h

theorem lookup_of_lower_eq (t : HostTable Backend) {query query' : String} (h : lower query = lower query') :
    t.lookup query = t.lookup query' := by
  have hsame : lower (trimmed query) = lower (trimmed query') := by rw [← trimmed_lower, ← trimmed_lower, h]
  unfold lookup
  rw [registered?_eq, registered?_eq, hsame]

/-! ## The table of a history -/

theorem unregister_iff : ((reached default history).unregister host).1 = true ↔ Bound history (lower host) := by
  show ((reached default history).hosts.get? (lower host)).isSome = true ↔ _
  simp only [Option.isSome_iff_exists, get?_reached_iff, Bound]

theorem mem_names_reached_iff : host ∈ (reached default history).names ↔ Bound history host := by
  simp only [mem_names_iff, get?_reached_iff, Bound]

theorem names_reached_rising : (reached default history).names.Pairwise fun a b => octets a < octets b := by
  apply (Directory.names_rising (reached default history).hosts).imp
  intro a b h
  exact (octets_lt_iff a b).2 h

/-- what a table has to do with the registrations and removals that led to it -/
structure Follows (default : Backend) (history : List (Change Backend)) (t : HostTable Backend) : Prop where
  /-- a query comes to the backend that the history says, and to no other one -/
  lookup : ∀ query backend, t.lookup query = backend ↔ Serves default history query backend
  /-- in any case of its letters -/
  anyCase : ∀ query query', lower query = lower query' → t.lookup query = t.lookup query'
  /-- a registration of the host as it is asked for, with its port, comes before one of the host without the port -/
  whole : ∀ query backend, InForce history (lower (trimmed query)) backend → t.lookup query = backend
  /-- a removal tells whether a registration was in force -/
  unregister : ∀ host, (t.unregister host).1 = true ↔ Bound history (lower host)
  /-- the names are those with a registration in force -/
  names : ∀ host, host ∈ t.names ↔ Bound history host
  /-- each of them once, in the order of their octets -/
  rising : t.names.Pairwise fun a b => octets a < octets b

/-- **Lookups follow the history.** Whatever was registered and removed before, a query comes to the last registration of
its host that was not removed; without one, to that of the host without its port; and else to the default backend. -/
theorem reached_follows (default : Backend) (history : List (Change Backend)) :
    Follows default history (reached default history) where
  lookup _ _ := lookup_eq_iff
  anyCase _ _ h := lookup_of_lower_eq _ h
  whole _ _ h := lookup_eq_iff.2 (.whole h)
  unregister _ := unregister_iff
  names _ := mem_names_reached_iff
  rising := names_reached_rising

end HostTable

end EdgeCache.Routing
