/-
Settings without a problem describe a proxy.

- `mem_problems_iff`: the problems of settings are those of their parts.
- `build_of_accepted`: settings without a problem can be built.
- `explained_of_build_error`: what keeps settings from being built is among their problems.
- `accepted_builds`: both, and the hosts of settings without a problem can be given to a proxy that runs.
-/
import EdgeCache.Proofs.Lifecycle.Startup

namespace EdgeCache

open EdgeCache.Address EdgeCache.Lifecycle EdgeCache.Routing EdgeCache.Store

/-! ## Problems of the parts -/

namespace Settings

variable {s : Settings} {p : Problem}

@[simp] theorem mem_problemIf (condition : Bool) (p q : Problem) :
    q ∈ problemIf condition p ↔ condition = true ∧ q = p := by
  cases condition <;> simp [problemIf]

def Cache.sizeOf (c : Cache) : LimitName → SizeValue
  | .objects => c.maxObjects
  | .cost => c.maxCost

theorem mem_problems_iff : p ∈ s.problems ↔
    p ∈ s.defaultBackend.problems .default ∨
    (∃ host b, s.virtualHosts.get? host = some b ∧ p ∈ hostProblems host b) ∨
    (∃ limit, p ∈ (s.cache.sizeOf limit).problems limit) ∨
    p ∈ s.frontend.problems ∨ p ∈ s.logging.problems := by
  have hlimits : (∃ limit, p ∈ (s.cache.sizeOf limit).problems limit) ↔
      p ∈ s.cache.maxObjects.problems .objects ∨ p ∈ s.cache.maxCost.problems .cost := by
    constructor
    · rintro ⟨limit, hp⟩
      cases limit with
      | objects => exact Or.inl hp
      | cost => exact Or.inr hp
    · rintro (hp | hp)
      · exact ⟨.objects, hp⟩
      · exact ⟨.cost, hp⟩
  unfold problems
  simp only [List.mem_append, List.mem_flatMap, Prod.exists, Directory.mem_entries_iff, hlimits, or_assoc]

theorem size_mem_problems_iff {v : SizeValue} {limit : LimitName} {cause : SizeError} :
    .size limit cause ∈ v.problems limit ↔ v.resolve = .error cause := by
  unfold SizeValue.problems
  cases v.resolve with
  | ok n => simp
  | error found =>
    simp only [List.mem_singleton, Problem.size.injEq, true_and, Except.error.injEq]
    exact eq_comm

theorem zeroLimit_mem_problems_iff {v : SizeValue} {limit : LimitName} :
    .zeroLimit limit ∈ v.problems limit ↔ v.resolve = .ok 0 := by
  unfold SizeValue.problems
  cases v.resolve <;> simp

theorem origin_mem_problems_iff {b : Backend} {name : BackendName} {cause : OriginError} :
    .origin name cause ∈ b.problems name ↔ b.origin = .error cause := by
  unfold Backend.problems
  cases b.origin with
  | ok o => simp
  | error found =>
    simp only [List.mem_append, List.mem_singleton, Problem.origin.injEq, true_and, mem_problemIf, reduceCtorEq,
      and_false, or_false, Except.error.injEq]
    exact eq_comm

theorem resolve_of_no_problems {v : SizeValue} {limit : LimitName} (h : ∀ p, p ∉ v.problems limit) :
    ∃ n, v.resolve = .ok n ∧ 0 < n := by
  cases hv : v.resolve with
  | error cause => exact absurd (size_mem_problems_iff.2 hv) (h _)
  | ok n =>
    refine ⟨n, rfl, Nat.pos_of_ne_zero ?_⟩
    rintro rfl
    exact h _ (zeroLimit_mem_problems_iff.2 hv)

theorem origin_of_no_problems {b : Backend} {name : BackendName} (h : ∀ p, p ∉ b.problems name) :
    ∃ o, b.origin = .ok o := by
  cases hb : b.origin with
  | error cause => exact absurd (origin_mem_problems_iff.2 hb) (h _)
  | ok o => exact ⟨o, rfl⟩

theorem origin_of_no_hostProblems {host : String} {b : Backend} (h : ∀ p, p ∉ hostProblems host b) :
    isBlankText host = false ∧ ∃ o, b.origin = .ok o := by
  unfold hostProblems at h
  split_ifs at h with hblank
  · exact absurd (List.mem_singleton_self _) (h .emptyHost)
  · exact ⟨Bool.eq_false_iff.2 hblank, origin_of_no_problems h⟩

/-- an origin that cannot be read is a problem of its host, or the host is without a name -/
theorem hostProblems_of_error (host : String) {b : Backend} {cause : OriginError} (h : b.origin = .error cause) :
    .origin (.virtualHost host) cause ∈ hostProblems host b ∨
    (isBlankText host = true ∧ .emptyHost ∈ hostProblems host b) := by
  unfold hostProblems
  split_ifs with hblank
  · exact Or.inr ⟨hblank, List.mem_singleton_self _⟩
  · exact Or.inl (origin_mem_problems_iff.2 h)

theorem limits_eq_ok_iff {c : Cache} {limits : Limits} : c.limits = .ok limits ↔
    c.maxObjects.resolve = .ok limits.maxObjects ∧ c.maxCost.resolve = .ok limits.maxCost ∧
    limits.defaultLifetime = positiveSeconds c.defaultLifetimeSeconds := by
  unfold Cache.limits
  cases c.maxObjects.resolve with
  | error cause => simp [bind, Except.bind]
  | ok objects =>
    cases c.maxCost.resolve with
    | error cause => simp [bind, Except.bind]
    | ok cost =>
      obtain ⟨maxObjects, maxCost, defaultLifetime⟩ := limits
      simp only [bind, Except.bind, pure, Except.pure, Except.ok.injEq, Limits.mk.injEq]
      constructor
      · rintro ⟨rfl, rfl, rfl⟩
        exact ⟨rfl, rfl, rfl⟩
      · rintro ⟨rfl, rfl, rfl⟩
        exact ⟨rfl, rfl, rfl⟩

/-- a size error is about the first limit that is no size -/
theorem limits_eq_error {c : Cache} {cause : SizeError} (h : c.limits = .error cause) :
    c.maxObjects.resolve = .error cause ∨
    ((∃ objects, c.maxObjects.resolve = .ok objects) ∧ c.maxCost.resolve = .error cause) := by
  unfold Cache.limits at h
  rcases error_of_bind h with hobjects | ⟨objects, hobjects, h⟩
  · exact Or.inl hobjects
  · rcases error_of_bind h with hcost | ⟨cost, hcost, h⟩
    · exact Or.inr ⟨⟨objects, hobjects⟩, hcost⟩
    · cases h

end Settings

namespace Lifecycle

open EdgeCache.Settings

variable {s : Settings} {hosts : Directory Backend} {e : StartupError}

/-! ## Why settings cannot be built -/

/-- hosts that do not resolve fail at the name of a host, for the reason why its origin cannot be read -/
theorem hostOrigins_eq_error (h : hostOrigins hosts = .error e) :
    ∃ host b cause, hosts.get? host = some b ∧ b.origin = .error cause ∧ e = .backend (.virtualHost host) cause := by
  have hlist : ∀ l : List (String × Backend), l.mapM resolve = .error e →
      ∃ host b cause, (host, b) ∈ l ∧ b.origin = .error cause ∧ e = .backend (.virtualHost host) cause := by
    intro l
    induction l with
    | nil => intro hmap; cases hmap
    | cons entry l ih =>
      obtain ⟨host, b⟩ := entry
      intro hmap
      rw [List.mapM_cons] at hmap
      rcases error_of_bind hmap with hfirst | ⟨first, -, hrest⟩
      · rcases error_of_bind hfirst with horigin | ⟨o, -, hpure⟩
        · obtain ⟨cause, hb, rfl⟩ := error_of_mapError horigin
          exact ⟨host, b, cause, List.mem_cons_self, hb, rfl⟩
        · cases hpure
      · rcases error_of_bind hrest with htail | ⟨tail, -, hpure⟩
        · obtain ⟨host', b', cause, hmem, hb, he⟩ := ih htail
          exact ⟨host', b', cause, List.mem_cons_of_mem _ hmem, hb, he⟩
        · cases hpure
  obtain ⟨host, b, cause, hmem, hb, he⟩ := hlist hosts.entries h
  exact ⟨host, b, cause, (Directory.mem_entries_iff hosts host b).1 hmem, hb, he⟩

/-- what keeps settings from being built, by the part that it comes from -/
theorem build_eq_error (h : build s = .error e) :
    (∃ cause, s.cache.limits = .error cause ∧ e = .size cause) ∨
    (∃ limits cause, s.cache.limits = .ok limits ∧ ResponseStore.new limits = .error cause ∧ e = .limits cause) ∨
    (∃ cause, s.defaultBackend.origin = .error cause ∧ e = .backend .default cause) ∨
    ∃ host b cause, s.virtualHosts.get? host = some b ∧ b.origin = .error cause ∧
      e = .backend (.virtualHost host) cause := by
  unfold build at h
  rcases error_of_bind h with hlimits | ⟨limits, hlimits, h⟩
  · exact Or.inl (error_of_mapError hlimits)
  · rcases error_of_bind h with hnew | ⟨store, -, h⟩
    · obtain ⟨cause, hcause, rfl⟩ := error_of_mapError hnew
      refine Or.inr (Or.inl ⟨limits, cause, ?_, hcause, rfl⟩)
      cases hread : s.cache.limits with
      | error cause => rw [hread] at hlimits; cases hlimits
      | ok found => rw [hread] at hlimits; exact congrArg Except.ok (Except.ok.inj hlimits)
    · rcases error_of_bind h with hdefault | ⟨default, -, h⟩
      · exact Or.inr (Or.inr (Or.inl (error_of_mapError hdefault)))
      · rcases error_of_bind h with hhosts | ⟨table, -, hpure⟩
        · rcases error_of_bind hhosts with horigins | ⟨origins, -, hpure⟩
          · exact Or.inr (Or.inr (Or.inr (hostOrigins_eq_error horigins)))
          · cases hpure
        · cases hpure

/-- a problem of settings says why they cannot be built: the same limit is no size or is zero, the same backend has no
origin for the same reason, or the virtual host has no name -/
inductive Explains (s : Settings) : StartupError → Problem → Prop where
  | objects (cause : SizeError) (h : s.cache.maxObjects.resolve = .error cause) :
    Explains s (.size cause) (.size .objects cause)
  | cost (cause : SizeError) (first : ∃ objects, s.cache.maxObjects.resolve = .ok objects)
    (h : s.cache.maxCost.resolve = .error cause) : Explains s (.size cause) (.size .cost cause)
  | noObjects : Explains s (.limits .noObjects) (.zeroLimit .objects)
  | noCost : Explains s (.limits .noCost) (.zeroLimit .cost)
  | backend (name : BackendName) (cause : OriginError) : Explains s (.backend name cause) (.origin name cause)
  | blank (host : String) (cause : OriginError) (h : isBlankText host = true) :
    Explains s (.backend (.virtualHost host) cause) .emptyHost

/-- what keeps settings from being built is among their problems -/
theorem explained_of_build_error (h : build s = .error e) : ∃ p ∈ s.problems, Explains s e p := by
  rcases build_eq_error h with ⟨cause, hlimits, rfl⟩ | ⟨limits, cause, hlimits, hnew, rfl⟩ | ⟨cause, hb, rfl⟩ |
    ⟨host, b, cause, hget, hb, rfl⟩
  · rcases limits_eq_error hlimits with hobjects | ⟨hfirst, hcost⟩
    · exact ⟨_, mem_problems_iff.2 (Or.inr (Or.inr (Or.inl ⟨.objects, size_mem_problems_iff.2 hobjects⟩))),
        .objects cause hobjects⟩
    · exact ⟨_, mem_problems_iff.2 (Or.inr (Or.inr (Or.inl ⟨.cost, size_mem_problems_iff.2 hcost⟩))),
        .cost cause hfirst hcost⟩
  · obtain ⟨hobjects, hcost, -⟩ := limits_eq_ok_iff.1 hlimits
    unfold ResponseStore.new at hnew
    split_ifs at hnew with hzero hzero'
    · cases hnew
      rw [hzero] at hobjects
      exact ⟨_, mem_problems_iff.2 (Or.inr (Or.inr (Or.inl ⟨.objects, zeroLimit_mem_problems_iff.2 hobjects⟩))),
        .noObjects⟩
    · cases hnew
      rw [hzero'] at hcost
      exact ⟨_, mem_problems_iff.2 (Or.inr (Or.inr (Or.inl ⟨.cost, zeroLimit_mem_problems_iff.2 hcost⟩))), .noCost⟩
  · exact ⟨_, mem_problems_iff.2 (Or.inl (origin_mem_problems_iff.2 hb)), .backend .default cause⟩
  · rcases hostProblems_of_error host hb with hp | ⟨hblank, hp⟩
    · exact ⟨_, mem_problems_iff.2 (Or.inr (Or.inl ⟨host, b, hget, hp⟩)), .backend _ cause⟩
    · exact ⟨_, mem_problems_iff.2 (Or.inr (Or.inl ⟨host, b, hget, hp⟩)), .blank host cause hblank⟩

/-! ## Settings without a problem -/

theorem hostOrigins_of_accepted (h : s.problems = []) : ∃ origins, hostOrigins s.virtualHosts = .ok origins := by
  cases hall : hostOrigins s.virtualHosts with
  | ok origins => exact ⟨origins, rfl⟩
  | error cause =>
    obtain ⟨host, b, cause, hget, hb, -⟩ := hostOrigins_eq_error hall
    have hnone : ∀ p, p ∉ hostProblems host b := by
      intro p hp
      have hmem : p ∈ s.problems := mem_problems_iff.2 (Or.inr (Or.inl ⟨host, b, hget, hp⟩))
      rw [h] at hmem
      cases hmem
    obtain ⟨-, o, ho⟩ := origin_of_no_hostProblems hnone
    rw [hb] at ho
    cases ho

/-- settings without a problem can be built, with the store that their limits ask for -/
theorem build_of_accepted (h : s.problems = []) :
    ∃ p limits, build s = .ok p ∧ s.cache.limits = .ok limits ∧ 0 < limits.maxObjects ∧ 0 < limits.maxCost ∧
      ResponseStore.new limits = .ok p.store := by
  have hnone : ∀ p, p ∉ s.problems := by
    intro p
    rw [h]
    exact List.not_mem_nil
  have hlimit : ∀ limit, ∃ n, (s.cache.sizeOf limit).resolve = .ok n ∧ 0 < n := fun limit =>
    resolve_of_no_problems fun p hp => hnone p (mem_problems_iff.2 (Or.inr (Or.inr (Or.inl ⟨limit, hp⟩))))
  obtain ⟨objects, hobjects, hobjectsPos⟩ := hlimit .objects
  obtain ⟨cost, hcost, hcostPos⟩ := hlimit .cost
  obtain ⟨default, hdefault⟩ := origin_of_no_problems fun p hp => hnone p (mem_problems_iff.2 (Or.inl hp))
  obtain ⟨origins, horigins⟩ := hostOrigins_of_accepted h
  have hlimits : s.cache.limits = .ok ⟨objects, cost, positiveSeconds s.cache.defaultLifetimeSeconds⟩ :=
    limits_eq_ok_iff.2 ⟨hobjects, hcost, rfl⟩
  have hnew := ResponseStore.new_eq ⟨objects, cost, positiveSeconds s.cache.defaultLifetimeSeconds⟩ hobjectsPos hcostPos
  exact ⟨_, _, build_of_parts hlimits hnew hdefault (applyHosts_of_ok horigins id _), hlimits, hobjectsPos, hcostPos, hnew⟩

/-- **Settings without a problem describe a proxy.** If settings have no problem, a proxy can be built from them. Its store
has the two limits that the settings name, which are not zero. And the task that follows changes of the settings takes
their hosts over into any table: one whose names are in small letters, as they are after any registrations and removals,
then has the hosts of the settings, and goes where it went for all others. On the other hand, whenever settings cannot be
built, one of their problems names the same limit or backend with the same cause, or says that the virtual host has no
name. -/
theorem accepted_builds (s : Settings) :
    (s.problems = [] → ∃ p limits, build s = .ok p ∧ s.cache.limits = .ok limits ∧
      s.cache.maxObjects.resolve = .ok limits.maxObjects ∧ s.cache.maxCost.resolve = .ok limits.maxCost ∧
      0 < limits.maxObjects ∧ 0 < limits.maxCost ∧
      ResponseStore.new limits = .ok p.store ∧ p.store.budget.maxObjects = limits.maxObjects ∧
      p.store.budget.maxCost = limits.maxCost ∧
      ∀ t : HostTable Origin, ∃ t', applyHosts id s.virtualHosts t = .ok t' ∧
        Reloader.step ⟨t, true⟩ (.update s) = ⟨t', true⟩ ∧
        (t.Lowered → t'.default = t.default ∧ Matches id s.virtualHosts t')) ∧
    ∀ e, build s = .error e → ∃ p ∈ s.problems, Explains s e p := by
  refine ⟨?_, fun e he => explained_of_build_error he⟩
  intro h
  obtain ⟨p, limits, hbuild, hlimits, hobjects, hcost, hnew⟩ := build_of_accepted h
  obtain ⟨hresolveObjects, hresolveCost, -⟩ := limits_eq_ok_iff.1 hlimits
  have hbudget := Except.ok.inj ((ResponseStore.new_eq limits hobjects hcost).symm.trans hnew)
  obtain ⟨origins, horigins⟩ := hostOrigins_of_accepted h
  refine ⟨p, limits, hbuild, hlimits, hresolveObjects, hresolveCost, hobjects, hcost, hnew, ?_, ?_, ?_⟩
  · rw [← hbudget]
  · rw [← hbudget]
  · intro t
    have happly := applyHosts_of_ok horigins id t
    refine ⟨_, happly, ?_, fun ht => (applyHosts_eq_ok ht happly).2⟩
    show Reloader.mk ((applyHosts id s.virtualHosts t).toOption.getD t) true = _
    rw [happly]
    rfl

/-- two virtual hosts, one of them not in small letters -/
def Sample.hosted : Settings := Sample.settings [("B.test", Sample.onPort "9000" 5), ("a.test", Sample.onPort "9001" 1)]

open Sample in
/-- these settings are built, and a table of one other host is brought up to date with them -/
theorem accepted_builds_hosted : hosted.problems = [] ∧
    ∃ p limits, build hosted = .ok p ∧ hosted.cache.limits = .ok limits ∧
      limits.maxObjects = 2 ∧ limits.maxCost = 8 ∧ ResponseStore.new limits = .ok p.store ∧
      p.store.budget.maxObjects = 2 ∧ p.store.budget.maxCost = 8 ∧
      ∃ t', applyHosts id hosted.virtualHosts (.reached fallback [.add "old.test" other]) = .ok t' ∧
        Reloader.step ⟨.reached fallback [.add "old.test" other], true⟩ (.update hosted) = ⟨t', true⟩ ∧
        t'.default = fallback ∧ Matches id hosted.virtualHosts t' ∧
        "a.test" ∈ t'.names ∧ "b.test" ∈ t'.names ∧ "old.test" ∉ t'.names := by
  have hproblems : hosted.problems = [] := by decide +kernel
  obtain ⟨p, limits, hbuild, hlimits, hreadObjects, hreadCost, -, -, hnew, hobjects, hcost, hupdate⟩ :=
    (accepted_builds hosted).1 hproblems
  obtain ⟨t', happly, hstep, htable⟩ := hupdate (.reached fallback [.add "old.test" other])
  obtain ⟨hdefault, hmatches⟩ := htable (HostTable.lowered_reached _ _)
  have htwo : limits.maxObjects = 2 := (Except.ok.inj hreadObjects).symm
  have height : limits.maxCost = 8 := (Except.ok.inj hreadCost).symm
  refine ⟨hproblems, p, limits, hbuild, hlimits, htwo, height, hnew, hobjects.trans htwo, hcost.trans height, t', happly,
    hstep, hdefault, hmatches, ?_⟩
  simp only [hmatches.names]
  decide +kernel

/-- the settings that a configuration leaves out make no problem -/
example : ({} : Settings).problems = [] := by decide +kernel

end Lifecycle

end EdgeCache
