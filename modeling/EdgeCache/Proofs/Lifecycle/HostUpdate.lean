/-
Updates of the hosts of a running proxy.

- `hostOrigins_eq_ok`, `hostOrigins_error_iff`: settings either have origins for all their hosts, or name a bad one.
- `matches_update`: after an update the table is that of its settings. Of names that differ in case only, the greatest one
  counts.
- `reload_atomic`: an update succeeds or changes nothing, and what counts is the last one that succeeded.
- `no_gap`: while an update is on its way, no host that stays is without a backend of its own.
-/
import EdgeCache.Lifecycle.HostUpdate
import EdgeCache.Proofs.Routing.HostTable
import EdgeCache.Proofs.Text.Order

namespace EdgeCache.Lifecycle

open EdgeCache.Address EdgeCache.Routing EdgeCache.Settings EdgeCache.Text

variable {α : Type} {connect : Origin → α} {hosts : Directory Backend} {t : HostTable α} {host : String}

/-! ## Origins -/

/-- a virtual host whose backend has an origin -/
structure Resolved where
  name : String
  backend : Backend
  origin : Origin
  resolves : backend.origin = .ok origin

namespace Resolved

/-- what the settings say -/
def entry (r : Resolved) : String × Backend := (r.name, r.backend)

def named (r : Resolved) : String × Origin := (r.name, r.origin)

end Resolved

theorem originOf_of_ok {name : BackendName} {b : Backend} {o : Origin} (h : b.origin = .ok o) :
    originOf name b = .ok o := by
  unfold originOf
  rw [h]
  rfl

theorem originOf_of_error {name : BackendName} {b : Backend} {cause : OriginError} (h : b.origin = .error cause) :
    originOf name b = .error (.backend name cause) := by
  unfold originOf
  rw [h]
  rfl

def resolve : String × Backend → Except StartupError (String × Origin)
  | (host, b) => do return (host, ← originOf (.virtualHost host) b)

/-- all entries have origins, or one of them has none -/
theorem mapM_resolve (l : List (String × Backend)) :
    (∃ resolved : List Resolved, l = resolved.map Resolved.entry ∧
      l.mapM resolve = .ok (resolved.map Resolved.named)) ∨
    ∃ e ∈ l, (∃ cause, e.2.origin = .error cause) ∧ ∃ cause, l.mapM resolve = .error cause := by
  induction l with
  | nil => exact Or.inl ⟨[], rfl, rfl⟩
  | cons e l ih =>
    obtain ⟨name, b⟩ := e
    rw [List.mapM_cons]
    cases horigin : b.origin with
    | error cause =>
      refine Or.inr ⟨(name, b), List.mem_cons_self, ⟨cause, horigin⟩, .backend (.virtualHost name) cause, ?_⟩
      simp only [resolve, originOf_of_error horigin]
      rfl
    | ok o =>
      simp only [resolve, originOf_of_ok horigin]
      rcases ih with ⟨resolved, rfl, hmap⟩ | ⟨e, he, hbad, cause, hmap⟩
      · refine Or.inl ⟨⟨name, b, o, horigin⟩ :: resolved, rfl, ?_⟩
        rw [hmap]
        rfl
      · refine Or.inr ⟨e, List.mem_cons_of_mem _ he, hbad, cause, ?_⟩
        rw [hmap]
        rfl

theorem hostOrigins_cases (hosts : Directory Backend) :
    (∃ resolved : List Resolved, hosts.entries = resolved.map Resolved.entry ∧
      hostOrigins hosts = .ok (resolved.map Resolved.named)) ∨
    ∃ e ∈ hosts.entries, (∃ cause, e.2.origin = .error cause) ∧ ∃ cause, hostOrigins hosts = .error cause :=
  mapM_resolve hosts.entries

theorem hostOrigins_error_iff (hosts : Directory Backend) :
    (∃ cause, hostOrigins hosts = .error cause) ↔
      ∃ name b cause, hosts.get? name = some b ∧ b.origin = .error cause := by
  rcases hostOrigins_cases hosts with ⟨resolved, hentries, hok⟩ | ⟨⟨name, b⟩, he, ⟨cause, hbad⟩, herror⟩
  · constructor
    · rintro ⟨cause, herror⟩
      rw [hok] at herror
      cases herror
    · rintro ⟨name, b, cause, hget, hbad⟩
      have hmem := (Directory.mem_entries_iff hosts name b).2 hget
      rw [hentries] at hmem
      obtain ⟨r, -, hr⟩ := List.mem_map.1 hmem
      cases hr
      rw [r.resolves] at hbad
      cases hbad
  · exact ⟨fun _ => ⟨name, b, cause, (Directory.mem_entries_iff hosts name b).1 he, hbad⟩, fun _ => herror⟩

theorem hostOrigins_eq_ok {origins : List (String × Origin)} (h : hostOrigins hosts = .ok origins) :
    ∃ resolved : List Resolved, hosts.entries = resolved.map Resolved.entry ∧
      origins = resolved.map Resolved.named := by
  rcases hostOrigins_cases hosts with ⟨resolved, hentries, hok⟩ | ⟨-, -, -, cause, herror⟩
  · rw [hok] at h
    exact ⟨resolved, hentries, (Except.ok.inj h).symm⟩
  · rw [herror] at h
    cases h

/-! ## What an update asks for -/

/-- an entry decides about a host: it is spelled that way up to case, and none that is has a greater name -/
structure Decides (hosts : Directory Backend) (host name : String) (b : Backend) : Prop where
  listed : hosts.get? name = some b
  spelled : lower name = host
  greatest : ∀ other ∈ hosts.names, lower other = host → ¬octets name < octets other

theorem Decides.unique {name name' : String} {b b' : Backend} (h : Decides hosts host name b)
    (h' : Decides hosts host name' b') : name = name' ∧ b = b' := by
  have hname : name ∈ hosts.names := (Directory.mem_names_iff hosts name).2 ⟨b, h.listed⟩
  have hname' : name' ∈ hosts.names := (Directory.mem_names_iff hosts name').2 ⟨b', h'.listed⟩
  have hle := h'.greatest name hname h.spelled
  have hge := h.greatest name' hname' h'.spelled
  rw [octets_lt_iff] at hle hge
  obtain rfl : name = name' := Decidable.byContradiction fun hne => hle (Directory.lt_of_not_lt_of_ne hge hne)
  exact ⟨rfl, Option.some.inj (h.listed.symm.trans h'.listed)⟩

/-- a table is that of settings: its hosts are their names in small letters, and each is bound to the backend of the entry
that decides about it -/
structure Matches (connect : Origin → α) (hosts : Directory Backend) (t : HostTable α) : Prop where
  names : ∀ host, host ∈ t.names ↔ ∃ name ∈ hosts.names, lower name = host
  bound : ∀ host backend, t.hosts.get? host = some backend ↔
    ∃ name b o, Decides hosts host name b ∧ b.origin = .ok o ∧ backend = connect o

/-- the last of the entries for a host decides, as they stand in rising order -/
theorem decides_of_last {resolved : List Resolved} (hentries : hosts.entries = resolved.map Resolved.entry)
    {r : Resolved} (h : (resolved.filter (lower ·.name = host)).getLast? = some r) :
    Decides hosts host r.name r.backend := by
  obtain ⟨earlier, hlast⟩ := List.getLast?_eq_some_iff.1 h
  have hr : r ∈ resolved.filter (lower ·.name = host) := List.mem_of_getLast? h
  obtain ⟨hmem, hspelled⟩ := List.mem_filter.1 hr
  have hrising : (resolved.filter (lower ·.name = host)).Pairwise fun a b => a.name < b.name := by
    have hall := hosts.rising
    rw [hentries, List.pairwise_map] at hall
    exact hall.filter _
  rw [hlast, List.pairwise_append] at hrising
  refine ⟨?_, of_decide_eq_true hspelled, ?_⟩
  · rw [← Directory.mem_entries_iff, hentries]
    exact List.mem_map.2 ⟨r, hmem, rfl⟩
  · intro other hother hlower hlt
    rw [octets_lt_iff] at hlt
    obtain ⟨b, hget⟩ := (Directory.mem_names_iff hosts other).1 hother
    rw [← Directory.mem_entries_iff, hentries] at hget
    obtain ⟨q, hq, hqe⟩ := List.mem_map.1 hget
    cases hqe
    have hq' : q ∈ resolved.filter (lower ·.name = host) := List.mem_filter.2 ⟨hq, decide_eq_true hlower⟩
    rw [hlast] at hq'
    rcases List.mem_append.1 hq' with hq' | hq'
    · exact String.lt_asymm hlt (hrising.2.2 q hq' r (List.mem_singleton_self r))
    · obtain rfl := List.mem_singleton.1 hq'
      exact String.lt_irrefl _ hlt

/-- what an update gives for a host -/
theorem given?_named (connect : Origin → α) (resolved : List Resolved) (host : String) :
    HostTable.given? ((resolved.map Resolved.named).map fun (name, o) => (name, connect o)) host =
      ((resolved.filter (lower ·.name = host)).getLast?).map fun r => connect r.origin := by
  unfold HostTable.given?
  rw [List.map_map, List.filter_map, List.getLast?_map, Option.map_map]
  rfl

/-- **After an update the table is that of its settings**, whatever it was before. -/
theorem matches_update (ht : t.Lowered) {origins : List (String × Origin)} (h : hostOrigins hosts = .ok origins) :
    Matches connect hosts (t.update (origins.map fun (name, o) => (name, connect o))) := by
  obtain ⟨resolved, hentries, rfl⟩ := hostOrigins_eq_ok h
  have hget : ∀ host, (t.update ((resolved.map Resolved.named).map fun (name, o) => (name, connect o))).hosts.get? host =
      ((resolved.filter (lower ·.name = host)).getLast?).map fun r => connect r.origin := by
    intro host
    rw [HostTable.get?_update ht, given?_named]
  -- an entry that is spelled that way is among those of which the last one counts
  have hlisted : ∀ host name b, hosts.get? name = some b → lower name = host →
      ∃ r, (resolved.filter (lower ·.name = host)).getLast? = some r := by
    intro host name b hname hlower
    rw [← Directory.mem_entries_iff, hentries] at hname
    obtain ⟨q, hq, hqe⟩ := List.mem_map.1 hname
    cases hqe
    have hmem : q ∈ resolved.filter (lower ·.name = host) := List.mem_filter.2 ⟨hq, decide_eq_true hlower⟩
    exact ⟨_, List.getLast?_eq_some_getLast (List.ne_nil_of_mem hmem)⟩
  refine ⟨?_, ?_⟩
  · intro host
    rw [HostTable.mem_names_iff, hget]
    constructor
    · rintro ⟨backend, hsome⟩
      obtain ⟨r, hlast, -⟩ := Option.map_eq_some_iff.1 hsome
      have hdecides := decides_of_last hentries hlast
      exact ⟨r.name, (Directory.mem_names_iff hosts r.name).2 ⟨r.backend, hdecides.listed⟩, hdecides.spelled⟩
    · rintro ⟨name, hname, hlower⟩
      obtain ⟨b, hb⟩ := (Directory.mem_names_iff hosts name).1 hname
      obtain ⟨r, hlast⟩ := hlisted host name b hb hlower
      exact ⟨connect r.origin, by rw [hlast]; rfl⟩
  · intro host backend
    rw [hget]
    constructor
    · intro hsome
      obtain ⟨r, hlast, rfl⟩ := Option.map_eq_some_iff.1 hsome
      exact ⟨r.name, r.backend, r.origin, decides_of_last hentries hlast, r.resolves, rfl⟩
    · rintro ⟨name, b, o, hdecides, horigin, rfl⟩
      obtain ⟨r, hlast⟩ := hlisted host name b hdecides.listed hdecides.spelled
      obtain ⟨-, rfl⟩ := hdecides.unique (decides_of_last hentries hlast)
      obtain rfl : o = r.origin := Except.ok.inj (horigin.symm.trans r.resolves)
      rw [hlast]
      rfl

/-! ## One update -/

theorem applyHosts_of_ok {origins : List (String × Origin)} (h : hostOrigins hosts = .ok origins) (connect : Origin → α)
    (t : HostTable α) :
    applyHosts connect hosts t = .ok (t.update (origins.map fun (name, o) => (name, connect o))) := by
  unfold applyHosts
  rw [h]
  rfl

theorem applyHosts_of_error {cause : StartupError} (h : hostOrigins hosts = .error cause) (connect : Origin → α)
    (t : HostTable α) : applyHosts connect hosts t = .error cause := by
  unfold applyHosts
  rw [h]
  rfl

theorem hostChanges_of_ok {origins : List (String × Origin)} (h : hostOrigins hosts = .ok origins)
    (connect : Origin → α) (t : HostTable α) :
    hostChanges connect hosts t = t.changes (origins.map fun (name, o) => (name, connect o)) := by
  unfold hostChanges
  rw [h]

theorem hostChanges_of_error {cause : StartupError} (h : hostOrigins hosts = .error cause) (connect : Origin → α)
    (t : HostTable α) : hostChanges connect hosts t = [] := by
  unfold hostChanges
  rw [h]

theorem applyHosts_error_iff (connect : Origin → α) (hosts : Directory Backend) (t : HostTable α) :
    (∃ cause, applyHosts connect hosts t = .error cause) ↔
      ∃ name b cause, hosts.get? name = some b ∧ b.origin = .error cause := by
  rw [← hostOrigins_error_iff]
  cases h : hostOrigins hosts with
  | error cause =>
    rw [applyHosts_of_error h]
    exact ⟨fun _ => ⟨cause, rfl⟩, fun _ => ⟨cause, rfl⟩⟩
  | ok origins =>
    rw [applyHosts_of_ok h]
    constructor
    · rintro ⟨cause, herror⟩; cases herror
    · rintro ⟨cause, herror⟩; cases herror

theorem hostChanges_of_failed {cause : StartupError} (h : applyHosts connect hosts t = .error cause) :
    hostChanges connect hosts t = [] := by
  cases hall : hostOrigins hosts with
  | error cause => exact hostChanges_of_error hall connect t
  | ok origins =>
    rw [applyHosts_of_ok hall] at h
    cases h

/-- an update that succeeds makes all its changes, and the table is then that of its settings -/
theorem applyHosts_eq_ok (ht : t.Lowered) {t' : HostTable α} (h : applyHosts connect hosts t = .ok t') :
    t' = t.after (hostChanges connect hosts t) ∧ t'.default = t.default ∧ Matches connect hosts t' := by
  cases hall : hostOrigins hosts with
  | error cause =>
    rw [applyHosts_of_error hall] at h
    cases h
  | ok origins =>
    rw [applyHosts_of_ok hall] at h
    obtain rfl := Except.ok.inj h
    rw [hostChanges_of_ok hall]
    exact ⟨rfl, HostTable.default_after t _, matches_update ht hall⟩

theorem applyHosts_congr (ht : t.Lowered) {u : HostTable α} (hu : u.Lowered) (hdefault : t.default = u.default) :
    applyHosts connect hosts t = applyHosts connect hosts u := by
  cases hall : hostOrigins hosts with
  | error cause => rw [applyHosts_of_error hall, applyHosts_of_error hall]
  | ok origins => rw [applyHosts_of_ok hall, applyHosts_of_ok hall, HostTable.update_eq ht hu hdefault]

theorem updated_eq (connect : Origin → α) (hosts : Directory Backend) (t : HostTable α) :
    updated connect hosts t = t.after (hostChanges connect hosts t) := by
  unfold updated
  cases hall : hostOrigins hosts with
  | error cause =>
    rw [applyHosts_of_error hall, hostChanges_of_error hall]
    rfl
  | ok origins =>
    rw [applyHosts_of_ok hall, hostChanges_of_ok hall]
    rfl

theorem lowered_updated (ht : t.Lowered) : (updated connect hosts t).Lowered := by
  rw [updated_eq]
  exact HostTable.lowered_after ht _

theorem default_updated (connect : Origin → α) (hosts : Directory Backend) (t : HostTable α) :
    (updated connect hosts t).default = t.default := by
  rw [updated_eq]
  exact HostTable.default_after t _

/-! ## Updates one after the other -/

theorem applyHosts_of_resolvable (h : resolvable hosts = true) (connect : Origin → α) (t : HostTable α) :
    applyHosts connect hosts t = .ok (updated connect hosts t) := by
  unfold updated
  cases hall : hostOrigins hosts with
  | error cause =>
    unfold resolvable at h
    rw [hall] at h
    cases h
  | ok origins =>
    rw [applyHosts_of_ok hall]
    rfl

theorem updated_of_not_resolvable (h : resolvable hosts = false) (connect : Origin → α) (t : HostTable α) :
    updated connect hosts t = t := by
  cases hall : hostOrigins hosts with
  | error cause =>
    rw [updated_eq, hostChanges_of_error hall]
    rfl
  | ok origins =>
    unfold resolvable at h
    rw [hall] at h
    cases h

/-- of updates in a row, the last one that succeeds decides -/
theorem foldl_updated (ht : t.Lowered) (updates : List (Directory Backend)) :
    updates.foldl (fun t hosts => updated connect hosts t) t =
      match (updates.filter resolvable).getLast? with
      | some hosts => updated connect hosts { default := t.default }
      | none => t := by
  -- what the updates before the last one led to, it does not matter
  have hkeeps : ∀ updates : List (Directory Backend),
      (updates.foldl (fun t hosts => updated connect hosts t) t).Lowered ∧
      (updates.foldl (fun t hosts => updated connect hosts t) t).default = t.default := by
    intro updates
    induction updates using List.reverseRecOn with
    | nil => exact ⟨ht, rfl⟩
    | append_singleton updates hosts ih =>
      rw [List.foldl_append]
      exact ⟨lowered_updated ih.1, (default_updated connect hosts _).trans ih.2⟩
  induction updates using List.reverseRecOn with
  | nil => rfl
  | append_singleton updates hosts ih =>
    rw [List.foldl_append, List.filter_append]
    cases hresolvable : resolvable hosts with
    | false =>
      rw [List.filter_cons_of_neg (by rw [hresolvable]; exact Bool.false_ne_true), List.filter_nil, List.append_nil, ← ih]
      exact updated_of_not_resolvable hresolvable connect _
    | true =>
      rw [List.filter_cons_of_pos hresolvable, List.filter_nil, List.getLast?_concat]
      obtain ⟨hlowered, hdefault⟩ := hkeeps updates
      have hbare : HostTable.Lowered { default := t.default, hosts := (∅ : Directory α) } :=
        HostTable.lowered_reached t.default []
      have hsame : applyHosts connect hosts _ = applyHosts connect hosts _ := applyHosts_congr hlowered hbare hdefault
      rw [applyHosts_of_resolvable hresolvable, applyHosts_of_resolvable hresolvable] at hsame
      exact Except.ok.inj hsame

namespace Reloader

theorem run_of_stopped {r : Reloader} (h : r.running = false) (events : List ReloadEvent) :
    (r.run events).hosts = r.hosts := by
  induction events generalizing r with
  | nil => rfl
  | cons e events ih =>
    show ((r.step e).run events).hosts = r.hosts
    cases e with
    | update s =>
      have hstep : r.step (.update s) = r := by
        unfold step
        rw [h]
        rfl
      rw [hstep]
      exact ih h
    | stop => exact ih rfl
    | close => exact ih rfl

/-- a task makes the updates that it hears -/
theorem run_hosts (t : HostTable Origin) (events : List ReloadEvent) :
    (run ⟨t, true⟩ events).hosts = (heard events).foldl (fun t hosts => updated id hosts t) t := by
  induction events generalizing t with
  | nil => rfl
  | cons e events ih =>
    cases e with
    | update s => exact ih (updated id s.virtualHosts t)
    | stop => exact run_of_stopped rfl events
    | close => exact run_of_stopped rfl events

end Reloader

theorem heard_append {e : ReloadEvent} (he : e = .stop ∨ e = .close) (events rest : List ReloadEvent) :
    heard (events ++ e :: rest) = heard events := by
  induction events with
  | nil =>
    rcases he with rfl | rfl
    · rfl
    · rfl
  | cons first events ih =>
    cases first with
    | update s => exact congrArg (s.virtualHosts :: ·) ih
    | stop => rfl
    | close => rfl

/-! ## Atomic updates, and none in the way of lookups -/

/-- **Updates are atomic and forget what was before.** Take any table that registrations and removals lead to. An update
of its hosts fails if and only if an entry has a bad origin, and then it makes no change. Otherwise its changes lead to a
table whose hosts are the names of the entries in small letters, each bound to the origin of the entry with the greatest
name, by octets, of those that are spelled that way up to case. And whatever updates a task is sent, the last one that is
heard before a stop or close and does not fail decides: the table is the one that it makes of a table without hosts, or
the first one if there is none. What comes after a stop or close changes nothing. -/
theorem reload_atomic (default : Origin) (history : List (HostTable.Change Origin)) :
    (∀ hosts : Directory Backend,
      ((∃ cause, applyHosts id hosts (.reached default history) = .error cause) ↔
        ∃ name b cause, hosts.get? name = some b ∧ b.origin = .error cause) ∧
      (∀ cause, applyHosts id hosts (.reached default history) = .error cause →
        hostChanges id hosts (.reached default history) = [] ∧
        updated id hosts (.reached default history) = .reached default history) ∧
      ∀ t, applyHosts id hosts (.reached default history) = .ok t →
        t = (HostTable.reached default history).after (hostChanges id hosts (.reached default history)) ∧
        t.default = default ∧ Matches id hosts t) ∧
    ∀ events : List ReloadEvent,
      (lastResolvable? events = none →
        (Reloader.run ⟨.reached default history, true⟩ events).hosts = .reached default history) ∧
      (∀ hosts, lastResolvable? events = some hosts →
        applyHosts id hosts { default } = .ok (Reloader.run ⟨.reached default history, true⟩ events).hosts ∧
        Matches id hosts (Reloader.run ⟨.reached default history, true⟩ events).hosts) ∧
      ∀ e rest, e = ReloadEvent.stop ∨ e = .close →
        (Reloader.run ⟨.reached default history, true⟩ (events ++ e :: rest)).hosts =
          (Reloader.run ⟨.reached default history, true⟩ events).hosts := by
  have hlowered := HostTable.lowered_reached default history
  have hdefault : (HostTable.reached default history).default = default := HostTable.default_after _ history
  constructor
  · intro hosts
    refine ⟨applyHosts_error_iff id hosts _, ?_, ?_⟩
    · intro cause herror
      have hnone := hostChanges_of_failed herror
      refine ⟨hnone, ?_⟩
      rw [updated_eq, hnone]
      rfl
    · intro t hok
      obtain ⟨ht, htd, hmatches⟩ := applyHosts_eq_ok hlowered hok
      exact ⟨ht, htd.trans hdefault, hmatches⟩
  · intro events
    have hrun := Reloader.run_hosts (.reached default history) events
    rw [foldl_updated hlowered, hdefault] at hrun
    refine ⟨?_, ?_, ?_⟩
    · intro hnone
      unfold lastResolvable? at hnone
      rw [hrun, hnone]
    · intro hosts hlast
      have hresolvable : resolvable hosts = true := (List.mem_filter.1 (List.mem_of_getLast? hlast)).2
      unfold lastResolvable? at hlast
      rw [hlast] at hrun
      have hok : applyHosts id hosts { default } =
          .ok (Reloader.run ⟨.reached default history, true⟩ events).hosts :=
        (applyHosts_of_resolvable hresolvable id { default }).trans (congrArg Except.ok hrun.symm)
      exact ⟨hok, (applyHosts_eq_ok (HostTable.lowered_reached default []) hok).2.2⟩
    · intro e rest he
      rw [Reloader.run_hosts, Reloader.run_hosts, heard_append he]

/-- an update makes no change, or those that lead to the origins of all entries -/
theorem hostChanges_cases (connect : Origin → α) (hosts : Directory Backend) (t : HostTable α) :
    hostChanges connect hosts t = [] ∨ ∃ resolved : List Resolved, hosts.entries = resolved.map Resolved.entry ∧
      hostChanges connect hosts t = t.changes (resolved.map fun r => (r.name, connect r.origin)) := by
  cases hall : hostOrigins hosts with
  | error cause => exact Or.inl (hostChanges_of_error hall connect t)
  | ok origins =>
    obtain ⟨resolved, hentries, rfl⟩ := hostOrigins_eq_ok hall
    refine Or.inr ⟨resolved, hentries, ?_⟩
    rw [hostChanges_of_ok hall, List.map_map]
    rfl

theorem given_resolved {resolved : List Resolved} (hentries : hosts.entries = resolved.map Resolved.entry)
    (connect : Origin → α) (host : String) :
    HostTable.Given (resolved.map fun r => (r.name, connect r.origin)) host ↔
      ∃ name ∈ hosts.names, lower name = host := by
  have hnames : hosts.names = resolved.map (·.name) := by
    unfold Directory.names
    rw [hentries, List.map_map]
    rfl
  unfold HostTable.Given
  rw [hnames]
  simp

/-- a host that stays is bound to its old backend, or to one that is made of an entry spelled that way -/
theorem kept_between (ht : t.Lowered) {backend : α} (hget : t.hosts.get? host = some backend)
    (hnew : ∃ name ∈ hosts.names, lower name = host) (k : Nat) :
    (t.after ((hostChanges connect hosts t).take k)).hosts.get? host = some backend ∨
    ∃ name b o, hosts.get? name = some b ∧ lower name = host ∧ b.origin = .ok o ∧
      (t.after ((hostChanges connect hosts t).take k)).hosts.get? host = some (connect o) := by
  rcases hostChanges_cases connect hosts t with hnone | ⟨resolved, hentries, hchanges⟩
  · rw [hnone, List.take_nil]
    exact Or.inl hget
  · rw [hchanges]
    have hgiven := (given_resolved hentries connect host).2 hnew
    rcases HostTable.kept_between ht hgiven hget k with hold | ⟨e, he, hlower, hbound⟩
    · exact Or.inl hold
    · obtain ⟨r, hr, rfl⟩ := List.mem_map.1 he
      refine Or.inr ⟨r.name, r.backend, r.origin, ?_, hlower, r.resolves, hbound⟩
      rw [← Directory.mem_entries_iff, hentries]
      exact List.mem_map.2 ⟨r, hr, rfl⟩

theorem names_between {k : Nat} (h : host ∈ (t.after ((hostChanges connect hosts t).take k)).names) :
    host ∈ t.names ∨ ∃ name ∈ hosts.names, lower name = host := by
  rcases hostChanges_cases connect hosts t with hnone | ⟨resolved, hentries, hchanges⟩
  · rw [hnone, List.take_nil] at h
    exact Or.inl h
  · rw [hchanges] at h
    exact (HostTable.names_between k h).imp_right (given_resolved hentries connect host).1

/-- **No gap.** Take any table that registrations and removals lead to. An update of its hosts that succeeds ends with the
table after all its changes, and while it is on its way a lookup meets the table after some of them. There a host that
stays is bound to its old backend or to one that the update makes of an entry spelled that way. Every host is an old or a
new one. So a query for a host that stays, with or without a port, is never left to the default backend. -/
theorem no_gap (connect : Origin → α) (default : α) (history : List (HostTable.Change α)) (hosts : Directory Backend)
    (k : Nat) :
    let old := HostTable.reached default history
    let seen := old.after ((hostChanges connect hosts old).take k)
    (∀ new, applyHosts connect hosts old = .ok new → new = old.after (hostChanges connect hosts old)) ∧
    (∀ host backend, old.hosts.get? host = some backend → (∃ name ∈ hosts.names, lower name = host) →
      seen.hosts.get? host = some backend ∨
      ∃ name b o, hosts.get? name = some b ∧ lower name = host ∧ b.origin = .ok o ∧
        seen.hosts.get? host = some (connect o)) ∧
    (∀ host ∈ seen.names, host ∈ old.names ∨ ∃ name ∈ hosts.names, lower name = host) ∧
    ∀ host ∈ old.names, (∃ name ∈ hosts.names, lower name = host) →
      ∀ query, HostTable.Asks query host → (seen.registered? query).isSome = true := by
  intro old seen
  have hlowered : old.Lowered := HostTable.lowered_reached default history
  refine ⟨fun new hnew => (applyHosts_eq_ok hlowered hnew).1,
    fun host backend hget hnew => kept_between hlowered hget hnew k, fun host hhost => names_between hhost, ?_⟩
  intro host hhost hnew query hquery
  obtain ⟨backend, hget⟩ := (HostTable.mem_names_iff old host).1 hhost
  have hkept : seen.hosts.get? host = some backend ∨ ∃ name b o, hosts.get? name = some b ∧ lower name = host ∧
      b.origin = .ok o ∧ seen.hosts.get? host = some (connect o) := kept_between hlowered hget hnew k
  rcases hkept with hold | ⟨-, -, o, -, -, -, hbound⟩
  · exact HostTable.registered?_isSome hquery hold
  · exact HostTable.registered?_isSome hquery hbound

end EdgeCache.Lifecycle
