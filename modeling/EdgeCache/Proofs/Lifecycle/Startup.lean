/-
Which configured hosts a started proxy serves.

- `hosts_of_build`: the table of a started proxy is that of its settings.
- `configured_reachable`: a host without blanks around its name is served by the entry that decides about it.
- `collision_overlooks`: settings without a problem in which an entry is not served, because another one is spelled that
  way, or because of a blank in front of its name.
-/
import EdgeCache.Proofs.Lifecycle.HostUpdate
import EdgeCache.Proofs.Outcome
import EdgeCache.Proofs.Store.Layout

namespace EdgeCache.Lifecycle

open EdgeCache.Address EdgeCache.Routing EdgeCache.Settings EdgeCache.Store EdgeCache.Text EdgeCache.Time

variable {s : Settings} {p : Proxy Origin}

/-- a started proxy has the hosts that an update makes of a table without any -/
theorem hosts_of_build (h : build s = .ok p) : ∃ default, applyHosts id s.virtualHosts { default } = .ok p.hosts := by
  unfold build at h
  obtain ⟨limits, -, h⟩ := ok_of_bind h
  obtain ⟨store, -, h⟩ := ok_of_bind h
  obtain ⟨default, -, h⟩ := ok_of_bind h
  obtain ⟨hosts, happly, h⟩ := ok_of_bind h
  obtain rfl := Except.ok.inj h
  exact ⟨default, happly⟩

theorem matches_of_build (h : build s = .ok p) : Matches id s.virtualHosts p.hosts := by
  obtain ⟨default, happly⟩ := hosts_of_build h
  exact (applyHosts_eq_ok (HostTable.lowered_reached default []) happly).2.2

theorem build_of_parts {limits : Limits} {store : ResponseStore} {default : Origin} {table : HostTable Origin}
    (hlimits : s.cache.limits = .ok limits) (hnew : ResponseStore.new limits = .ok store)
    (hdefault : s.defaultBackend.origin = .ok default)
    (hhosts : applyHosts id s.virtualHosts { default } = .ok table) :
    build s = .ok { store, hosts := table, ignoreHost := s.cache.ignoreHost } := by
  unfold build
  rw [hlimits, originOf_of_ok hdefault]
  simp only [Except.mapError, bind, Except.bind, hnew, hhosts]
  rfl

/-! ## Samples -/

namespace Sample

def onPort (port : String) (seconds : Nat) : Backend := ⟨"http://127.0.0.1:" ++ port, seconds⟩

def settings (hosts : List (String × Backend)) : Settings where
  virtualHosts := .ofList hosts
  cache := { maxObjects := .count 2, maxCost := .count 8 }

/-- two names that differ in case only -/
def colliding : Settings := settings [("A.test", onPort "9001" 1), ("a.test", onPort "9002" 2)]

/-- a name with a blank in front -/
def padded : Settings := settings [(" a.test", onPort "9000" 5)]

/-- where hosts go that no name matches -/
def fallback : Origin := ⟨"http", "127.0.0.1", 8000, .ofSeconds 30⟩

/-- where the backends go -/
def first : Origin := ⟨"http", "127.0.0.1", 9001, .ofSeconds 1⟩
def second : Origin := ⟨"http", "127.0.0.1", 9002, .ofSeconds 2⟩
def other : Origin := ⟨"http", "127.0.0.1", 9000, .ofSeconds 5⟩

theorem origin_fallback : ({} : Backend).origin = .ok fallback := by decide +kernel
theorem origin_first : (onPort "9001" 1).origin = .ok first := by decide +kernel
theorem origin_other : (onPort "9000" 5).origin = .ok other := by decide +kernel

theorem build_settings {hosts : List (String × Backend)} {origins : List (String × Origin)}
    (h : hostOrigins (.ofList hosts) = .ok origins) :
    ∃ p, build (settings hosts) = .ok p ∧
      p.hosts = HostTable.update { default := fallback } (origins.map fun (name, o) => (name, id o)) :=
  ⟨_, build_of_parts rfl (ResponseStore.new_eq _ Nat.two_pos (Nat.succ_pos 7)) origin_fallback (applyHosts_of_ok h id _), rfl⟩

theorem origins_colliding : hostOrigins colliding.virtualHosts = .ok [("A.test", first), ("a.test", second)] := by
  decide +kernel

theorem origins_padded : hostOrigins padded.virtualHosts = .ok [(" a.test", other)] := by
  decide +kernel

theorem build_colliding : ∃ p, build colliding = .ok p ∧ p.hosts.lookup "A.test" = second := by
  obtain ⟨p, hbuild, hhosts⟩ := build_settings origins_colliding
  have hlowered : HostTable.Lowered (⟨fallback, ∅⟩ : HostTable Origin) := HostTable.lowered_reached fallback []
  have hbound : p.hosts.hosts.get? (lower "A.test") = some second := by
    have hspelled : lower "A.test" = "a.test" ∧ lower "a.test" = "a.test" := by decide +kernel
    rw [hhosts, HostTable.get?_update hlowered]
    simp [HostTable.given?, hspelled.1, hspelled.2]
  refine ⟨p, hbuild, ?_⟩
  unfold HostTable.lookup
  rw [HostTable.registered?_of_trimmed (by decide) hbound]
  rfl

theorem build_padded : ∃ p, build padded = .ok p ∧ p.hosts.lookup " a.test" = fallback := by
  obtain ⟨p, hbuild, hhosts⟩ := build_settings origins_padded
  refine ⟨p, hbuild, ?_⟩
  rw [hhosts]
  decide +kernel

end Sample

/-! ## Hosts that are served -/

/-- **Configured hosts are served.** Say that a proxy starts, and that an entry of its settings has no blanks around its
name. Then the name is looked up at the origin, with its limit of time, that the deciding entry asks for: the one with
the greatest name, by octets, of those that are spelled that way up to case. That is the entry itself if no other one
is spelled that way. -/
theorem configured_reachable (hbuild : build s = .ok p) {name : String} {b : Backend}
    (hget : s.virtualHosts.get? name = some b) (htrim : trimmed name = name) :
    ∃ winner b' o, Decides s.virtualHosts (lower name) winner b' ∧
      Origin.read b'.target (.ofSeconds b'.timeoutSeconds) = .ok o ∧ p.hosts.lookup name = o ∧
      ((∀ other ∈ s.virtualHosts.names, lower other = lower name → other = name) → winner = name ∧ b' = b) := by
  have hmatches := matches_of_build hbuild
  have hname : name ∈ s.virtualHosts.names := (Directory.mem_names_iff _ name).2 ⟨b, hget⟩
  obtain ⟨backend, hbound⟩ := (HostTable.mem_names_iff _ _).1 ((hmatches.names (lower name)).2 ⟨name, hname, rfl⟩)
  obtain ⟨winner, b', o, hdecides, horigin, hbackend⟩ := (hmatches.bound _ _).1 hbound
  refine ⟨winner, b', o, hdecides, horigin, ?_, ?_⟩
  · unfold HostTable.lookup
    rw [HostTable.registered?_of_trimmed htrim hbound]
    exact hbackend
  · intro hown
    have hwinner : winner ∈ s.virtualHosts.names := (Directory.mem_names_iff _ winner).2 ⟨b', hdecides.listed⟩
    obtain rfl := hown winner hwinner hdecides.spelled
    exact ⟨rfl, Option.some.inj (hdecides.listed.symm.trans hget)⟩

open Sample in
theorem configured_reachable_colliding :
    ∃ p, build colliding = .ok p ∧ colliding.virtualHosts.get? "A.test" = some (onPort "9001" 1) ∧
      trimmed "A.test" = "A.test" ∧
      ∃ winner b' o, Decides colliding.virtualHosts (lower "A.test") winner b' ∧
        Origin.read b'.target (.ofSeconds b'.timeoutSeconds) = .ok o ∧ p.hosts.lookup "A.test" = o ∧
        ((∀ other ∈ colliding.virtualHosts.names, lower other = lower "A.test" → other = "A.test") →
          winner = "A.test" ∧ b' = onPort "9001" 1) := by
  obtain ⟨p, hbuild, -⟩ := build_colliding
  have hget : colliding.virtualHosts.get? "A.test" = some (onPort "9001" 1) := by decide
  have htrim : trimmed "A.test" = "A.test" := by decide
  exact ⟨p, hbuild, hget, htrim, configured_reachable hbuild hget htrim⟩

/-! ## Hosts that are not served

Names that differ in case only are one host, and the settings may have both. And a name is registered with the blanks
around it, while a query loses its own. -/

/-- settings without a problem have an entry that the started proxy does not go to for its own name -/
structure Overlooks (s : Settings) (name : String) (b : Backend) : Prop where
  accepted : s.problems = []
  listed : s.virtualHosts.get? name = some b
  elsewhere : ∃ p o, build s = .ok p ∧ b.origin = .ok o ∧ p.hosts.lookup name ≠ o

open Sample in
theorem collision_overlooks :
    Overlooks colliding "A.test" (onPort "9001" 1) ∧ Overlooks padded " a.test" (onPort "9000" 5) := by
  constructor
  · refine ⟨by decide +kernel, by decide, ?_⟩
    obtain ⟨p, hbuild, hlookup⟩ := build_colliding
    refine ⟨p, first, hbuild, origin_first, ?_⟩
    rw [hlookup]
    decide
  · refine ⟨by decide +kernel, by decide, ?_⟩
    obtain ⟨p, hbuild, hlookup⟩ := build_padded
    refine ⟨p, other, hbuild, origin_other, ?_⟩
    rw [hlookup]
    decide

end EdgeCache.Lifecycle
