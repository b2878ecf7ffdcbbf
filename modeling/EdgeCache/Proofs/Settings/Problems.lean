/-
What is said about settings that are not in order.

- `problems_eq`: the problems of settings are what the checks find, in the order of the checks.
- `nodup_checks`, `mem_checks_of_fault?`: no check is made twice, and none that would find something is left out.
- `found_filter_eq`: settings that agree on some checks have the same problems there, in the same order.
- `Edit.fault?_apply`, `Edit.checks_apply`: a change of one value matters to one check only.
- `problems_told`: problems do not hide one another, and what is put right goes from the list alone. This holds for
  every backend that is looked at.
- `problems_withBackend_of_blank`: the exception is the backend of a virtual host without a name, whose problems are not
  told.
-/
import Mathlib.Data.List.Nodup
import EdgeCache.Settings.Check

namespace EdgeCache.Directory

variable {α : Type}

theorem nodup_of_rising {l : List String} (h : l.Pairwise (· < ·)) : l.Nodup := by
  refine h.imp ?_
  rintro a b hlt rfl
  exact String.lt_irrefl _ hlt

theorem rising_ext {l l' : List String} (h : l.Pairwise (· < ·)) (h' : l'.Pairwise (· < ·))
    (hmem : ∀ name, name ∈ l ↔ name ∈ l') : l = l' := by
  have hperm := (List.perm_ext_iff_of_nodup (nodup_of_rising h) (nodup_of_rising h')).2 hmem
  exact hperm.eq_of_pairwise (fun _ _ _ _ hab hba => absurd hba (String.lt_asymm hab)) h h'

theorem mem_names_put (d : Directory α) (name other : String) (value : α) :
    other ∈ (d.put name value).names ↔ other = name ∨ other ∈ d.names := by
  rw [mem_names_iff, mem_names_iff]
  by_cases h : other = name
  · subst h
    simp
  · simp [get?_put_of_ne d h, h]

theorem names_erase (d : Directory α) (name : String) : (d.erase name).names = d.names.filter (· ≠ name) := by
  unfold names erase
  rw [List.filter_map]
  rfl

theorem names_put_of_get? {d : Directory α} {name : String} {old : α} (h : d.get? name = some old) (value : α) :
    (d.put name value).names = d.names := by
  refine rising_ext (names_rising _) (names_rising _) fun other => ?_
  rw [mem_names_put]
  refine or_iff_right_of_imp ?_
  rintro rfl
  exact (mem_names_iff _ _).2 ⟨old, h⟩

theorem contains_iff (d : Directory α) (name : String) : d.contains name = true ↔ name ∈ d.names := by
  rw [mem_names_iff, contains, Option.isSome_iff_exists]

end EdgeCache.Directory

namespace EdgeCache.Settings

open EdgeCache.Address EdgeCache.Text

variable {s t : Settings} {c : Check} {p : Problem} {name : BackendName} {b : Backend} {host : String} {e : Edit}

/-! ## Problems are what the checks find -/

theorem mem_backendChecks : c ∈ name.checks ↔ c = .target name ∨ c = .timeout name := by simp [BackendName.checks]

theorem mem_hostChecks : c ∈ hostChecks host ↔
    isBlankText host = true ∧ c = .hostName host ∨
    isBlankText host = false ∧ (c = .target (.virtualHost host) ∨ c = .timeout (.virtualHost host)) := by
  unfold hostChecks BackendName.checks
  cases isBlankText host <;> simp

theorem host_unique {other : String} (h : c ∈ hostChecks host) (h' : c ∈ hostChecks other) : host = other := by
  rw [mem_hostChecks] at h h'
  rcases h with ⟨-, rfl⟩ | ⟨-, rfl | rfl⟩
  · rcases h' with ⟨-, ⟨⟩⟩ | ⟨-, ⟨⟨⟩⟩ | ⟨⟨⟩⟩⟩
    rfl
  · rcases h' with ⟨-, ⟨⟩⟩ | ⟨-, ⟨⟨⟩⟩ | ⟨⟨⟩⟩⟩
    rfl
  · rcases h' with ⟨-, ⟨⟩⟩ | ⟨-, ⟨⟨⟩⟩ | ⟨⟨⟩⟩⟩
    rfl

theorem mem_checks : c ∈ s.checks ↔ c ∈ BackendName.checks .default ∨
    (∃ host ∈ s.virtualHosts.names, c ∈ hostChecks host) ∨
    c ∈ sectionChecks := by
  unfold checks
  rw [List.mem_append, List.mem_append, List.mem_flatMap, or_assoc]

/-- the checks of virtual hosts are neither those of the default backend nor those of the other sections -/
theorem apart_of_mem_hostChecks (h : c ∈ hostChecks host) : c ∉ BackendName.checks .default ∧ c ∉ sectionChecks := by
  rw [mem_hostChecks] at h
  rcases h with ⟨-, rfl⟩ | ⟨-, rfl | rfl⟩ <;> simp [mem_backendChecks, sectionChecks]

theorem backendProblems_eq (h : s.examined? name = some b) : b.problems name = name.checks.filterMap s.fault? := by
  have htarget : s.fault? (.target name) = b.targetFault? name := by simp [fault?, h]
  have htimeout : s.fault? (.timeout name) = b.timeoutFault? name := by simp [fault?, h]
  unfold BackendName.checks Backend.problems problemIf
  rw [List.filterMap_cons, List.filterMap_cons, htarget, htimeout, Backend.targetFault?, Backend.timeoutFault?]
  cases b.origin <;> by_cases hzero : b.timeoutSeconds = 0 <;> simp [hzero]

theorem hostProblems_eq (h : s.virtualHosts.get? host = some b) :
    hostProblems host b = (hostChecks host).filterMap s.fault? := by
  unfold hostProblems hostChecks
  split_ifs with hblank
  · have hname : s.fault? (.hostName host) = some .emptyHost := by simp [fault?, Directory.contains, h, hblank]
    simp [hname]
  · exact backendProblems_eq (by simp [examined?, hblank, h])

theorem limitProblems_eq (limit : LimitName) (v : SizeValue) : v.problems limit = (v.fault? limit).toList := by
  unfold SizeValue.problems SizeValue.fault? problemIf
  cases v.resolve with
  | error cause => rfl
  | ok n => by_cases hzero : n = 0 <;> simp [hzero]

theorem frontendProblems_eq (s : Settings) :
    s.frontend.problems = (s.fault? .listenAddress).toList ++ (s.fault? .requestTimeout).toList := by
  unfold Frontend.problems problemIf fault?
  congr 1
  · split_ifs <;> rfl
  · by_cases hzero : s.frontend.requestTimeoutSeconds = 0 <;> simp [hzero]

theorem loggingProblems_eq (s : Settings) :
    s.logging.problems = (s.fault? .logLevel).toList ++ (s.fault? .logFormat).toList := by
  unfold Logging.problems problemIf fault?
  congr 1
  · by_cases hlevel : lower s.logging.level ∈ logLevels <;> simp [hlevel]
  · by_cases hformat : lower s.logging.format ∈ logFormats <;> simp [hformat]

/-- the problems of settings are what the checks find, in the order of the checks -/
theorem problems_eq (s : Settings) : s.problems = s.checks.filterMap s.fault? := by
  have hhosts : s.virtualHosts.entries.flatMap (fun entry => hostProblems entry.1 entry.2) =
      (s.virtualHosts.names.flatMap hostChecks).filterMap s.fault? := by
    rw [List.filterMap_flatMap, Directory.names, List.flatMap_map]
    refine List.flatMap_congr ?_
    rintro ⟨host, b⟩ hentry
    exact hostProblems_eq ((Directory.mem_entries_iff _ _ _).1 hentry)
  have hsections : s.cache.maxObjects.problems .objects ++ (s.cache.maxCost.problems .cost ++
      (s.frontend.problems ++ s.logging.problems)) = sectionChecks.filterMap s.fault? := by
    rw [limitProblems_eq, limitProblems_eq, frontendProblems_eq, loggingProblems_eq, List.filterMap_eq_flatMap_toList]
    simp only [sectionChecks, List.flatMap_cons, List.flatMap_nil, List.append_assoc, List.append_nil]
    rfl
  calc s.problems
    _ = s.defaultBackend.problems .default ++
          (s.virtualHosts.entries.flatMap (fun entry => hostProblems entry.1 entry.2) ++
            (s.cache.maxObjects.problems .objects ++ (s.cache.maxCost.problems .cost ++
              (s.frontend.problems ++ s.logging.problems)))) := by
      simp only [problems, List.append_assoc]
    _ = (BackendName.checks .default).filterMap s.fault? ++
          ((s.virtualHosts.names.flatMap hostChecks).filterMap s.fault? ++ sectionChecks.filterMap s.fault?) := by
      rw [hhosts, hsections, backendProblems_eq rfl]
    _ = s.checks.filterMap s.fault? := by
      rw [checks, List.filterMap_append, List.filterMap_append, List.append_assoc]

/-! ## What the checks find -/

theorem map_snd_found (s : Settings) : s.found.map (·.2) = s.problems := by
  rw [problems_eq, found, List.map_filterMap]
  simp only [Option.map_map, Function.comp_def, Option.map_id']

theorem nodup_checks (s : Settings) : s.checks.Nodup := by
  have hnames := Directory.nodup_of_rising s.virtualHosts.names_rising
  have hhosts : (s.virtualHosts.names.flatMap hostChecks).Nodup := by
    refine List.nodup_flatMap.2 ⟨fun host _ => ?_, hnames.imp fun hne c hc hc' => hne (host_unique hc hc')⟩
    unfold hostChecks BackendName.checks
    split_ifs <;> simp
  unfold checks
  rw [List.append_assoc]
  refine List.nodup_append.2 ⟨by simp [BackendName.checks],
    List.nodup_append.2 ⟨hhosts, by simp [sectionChecks], ?_⟩, ?_⟩
  · rintro c hc d hd rfl
    obtain ⟨host, -, hc⟩ := List.mem_flatMap.1 hc
    exact (apart_of_mem_hostChecks hc).2 hd
  · rintro c hc d hd rfl
    rcases List.mem_append.1 hd with hd | hd
    · obtain ⟨host, -, hd⟩ := List.mem_flatMap.1 hd
      exact (apart_of_mem_hostChecks hd).1 hc
    · rcases mem_backendChecks.1 hc with rfl | rfl <;> simp [sectionChecks] at hd

theorem mem_checks_of_examined? (h : s.examined? name = some b) (hc : c ∈ name.checks) : c ∈ s.checks := by
  rw [mem_checks]
  cases name with
  | default => exact .inl hc
  | virtualHost host =>
    unfold examined? at h
    simp only at h
    split_ifs at h with hblank
    refine .inr (.inl ⟨host, (Directory.mem_names_iff _ _).2 ⟨b, h⟩, ?_⟩)
    rwa [hostChecks, if_neg hblank]

/-- none that would find something is left out -/
theorem mem_checks_of_fault? (h : s.fault? c = some p) : c ∈ s.checks := by
  cases c with
  | target name =>
    obtain ⟨b, hb, -⟩ := Option.bind_eq_some_iff.1 h
    exact mem_checks_of_examined? hb (mem_backendChecks.2 (.inl rfl))
  | timeout name =>
    obtain ⟨b, hb, -⟩ := Option.bind_eq_some_iff.1 h
    exact mem_checks_of_examined? hb (mem_backendChecks.2 (.inr rfl))
  | hostName host =>
    unfold fault? at h
    simp only at h
    split_ifs at h with hhost
    have hname := (Directory.contains_iff _ _).1 hhost.1
    exact mem_checks.2 (.inr (.inl ⟨host, hname, mem_hostChecks.2 (.inl ⟨hhost.2, rfl⟩)⟩))
  | limit limit => cases limit <;> simp [mem_checks, sectionChecks]
  | _ => simp [mem_checks, sectionChecks]

theorem mem_found_iff : (c, p) ∈ s.found ↔ s.fault? c = some p := by
  unfold found
  rw [List.mem_filterMap]
  constructor
  · rintro ⟨c', -, hc'⟩
    obtain ⟨p', hp', he⟩ := Option.map_eq_some_iff.1 hc'
    cases he
    exact hp'
  · intro h
    exact ⟨c, mem_checks_of_fault? h, by rw [h]; rfl⟩

theorem nodup_found (s : Settings) : (s.found.map (·.1)).Nodup := by
  unfold found
  rw [List.map_filterMap]
  refine s.nodup_checks.filterMap ?_
  intro a b c ha hb
  simp only [Option.map_map, Option.mem_def, Option.map_eq_some_iff, Function.comp_apply] at ha hb
  obtain ⟨-, -, rfl⟩ := ha
  obtain ⟨-, -, rfl⟩ := hb
  rfl

/-! ## Settings that agree on some checks -/

theorem filter_found (s : Settings) (q : Check → Bool) :
    s.found.filter (q ·.1) = (s.checks.filter q).filterMap fun c => (s.fault? c).map (c, ·) := by
  unfold found
  induction s.checks with
  | nil => rfl
  | cons c checks ih =>
    rw [List.filterMap_cons]
    cases hc : s.fault? c with
    | none =>
      cases hq : q c with
      | true => simp [hq, hc, ih]
      | false => simp [hq, ih]
    | some p =>
      cases hq : q c with
      | true => simp [hq, hc, ih]
      | false => simp [hq, ih]

/-- settings that agree on some checks have the same problems there, in the same order -/
theorem found_filter_eq {q r : Check → Bool} (hchecks : t.checks.filter q = s.checks.filter r)
    (hsame : ∀ c, q c = true → r c = true → t.fault? c = s.fault? c) :
    t.found.filter (q ·.1) = s.found.filter (r ·.1) := by
  rw [filter_found, filter_found, hchecks]
  refine List.filterMap_congr fun c hc => ?_
  have hr := (List.mem_filter.1 hc).2
  rw [← hchecks] at hc
  rw [hsame c (List.mem_filter.1 hc).2 hr]

/-- the checks but for those of one virtual host -/
theorem filter_checks (s : Settings) (host : String) : s.checks.filter (· ∉ hostChecks host) =
    BackendName.checks .default ++ (s.virtualHosts.names.filter (· ≠ host)).flatMap hostChecks ++ sectionChecks := by
  have hhosts : ∀ names : List String, (names.flatMap hostChecks).filter (· ∉ hostChecks host) =
      (names.filter (· ≠ host)).flatMap hostChecks := by
    intro names
    induction names with
    | nil => rfl
    | cons other names ih =>
      rw [List.flatMap_cons, List.filter_append, ih]
      by_cases hother : other = host
      · subst hother
        simp
      · have hkept : (hostChecks other).filter (· ∉ hostChecks host) = hostChecks other := by
          rw [List.filter_eq_self]
          intro c hc
          simpa using fun hc' => hother (host_unique hc hc')
        rw [hkept, List.filter_cons_of_pos (by simpa using hother), List.flatMap_cons]
  have hdefault : (BackendName.checks .default).filter (· ∉ hostChecks host) = BackendName.checks .default := by
    rw [List.filter_eq_self]
    intro c hc
    simpa using fun hc' => (apart_of_mem_hostChecks hc').1 hc
  have hsections : sectionChecks.filter (· ∉ hostChecks host) = sectionChecks := by
    rw [List.filter_eq_self]
    intro c hc
    simpa using fun hc' => (apart_of_mem_hostChecks hc').2 hc
  unfold checks
  rw [List.filter_append, List.filter_append, hhosts, hdefault, hsections]

/-! ## A backend is changed -/

theorem names_withBackend (s : Settings) (change : Backend → Backend) (name : BackendName) :
    (s.withBackend change name).virtualHosts.names = s.virtualHosts.names := by
  unfold withBackend
  cases name with
  | default => rfl
  | virtualHost host =>
    cases h : s.virtualHosts.get? host with
    | none => simp only [h]
    | some b => simp only [h, Directory.names_put_of_get? h]

theorem examined?_withBackend (s : Settings) (change : Backend → Backend) (name other : BackendName) :
    (s.withBackend change name).examined? other =
      if other = name then (s.examined? name).map change else s.examined? other := by
  unfold withBackend
  cases name with
  | default => cases other <;> simp [examined?]
  | virtualHost host =>
    cases h : s.virtualHosts.get? host with
    | none =>
      simp only [h]
      split_ifs with hother
      · subst hother
        simp [examined?, h]
      · rfl
    | some b =>
      simp only [h]
      cases other with
      | default => simp [examined?]
      | virtualHost host' =>
        by_cases hhost : host' = host
        · subst hhost
          simp only [examined?, Directory.get?_put_self, h, if_true]
          split_ifs <;> rfl
        · simp [examined?, Directory.get?_put_of_ne _ hhost, hhost]

/-- only what is changed of a backend can matter -/
theorem fault?_withBackend (s : Settings) {change : Backend → Backend} (name : BackendName)
    (htarget : c = .target name → ∀ b, (change b).targetFault? name = b.targetFault? name)
    (htimeout : c = .timeout name → ∀ b, (change b).timeoutFault? name = b.timeoutFault? name) :
    (s.withBackend change name).fault? c = s.fault? c := by
  have hsections : (s.withBackend change name).cache = s.cache ∧ (s.withBackend change name).frontend = s.frontend ∧
      (s.withBackend change name).logging = s.logging := by
    unfold withBackend
    cases name with
    | default => exact ⟨rfl, rfl, rfl⟩
    | virtualHost host =>
      simp only
      split <;> exact ⟨rfl, rfl, rfl⟩
  obtain ⟨hcache, hfrontend, hlogging⟩ := hsections
  have hcontains : ∀ host, (s.withBackend change name).virtualHosts.contains host = s.virtualHosts.contains host := by
    intro host
    rw [Bool.eq_iff_iff, Directory.contains_iff, Directory.contains_iff, names_withBackend]
  cases c with
  | target other =>
    simp only [fault?, examined?_withBackend]
    split_ifs with hother
    · subst hother
      rw [Option.bind_map]
      simp only [Function.comp_def, htarget rfl]
    · rfl
  | timeout other =>
    simp only [fault?, examined?_withBackend]
    split_ifs with hother
    · subst hother
      rw [Option.bind_map]
      simp only [Function.comp_def, htimeout rfl]
    · rfl
  | hostName host => simp only [fault?, hcontains]
  | limit limit => cases limit <;> simp only [fault?, hcache]
  | listenAddress => simp only [fault?, hfrontend]
  | requestTimeout => simp only [fault?, hfrontend]
  | logLevel => simp only [fault?, hlogging]
  | logFormat => simp only [fault?, hlogging]

theorem targetFault?_timeout (name : BackendName) (b : Backend) (seconds : Nat) :
    { b with timeoutSeconds := seconds }.targetFault? name = b.targetFault? name := by
  unfold Backend.targetFault? Backend.origin Origin.read
  cases Url.read b.target with
  | error cause => rfl
  | ok url =>
    simp only [Origin.ofUrl]
    split_ifs
    · rfl
    · cases url.host with
      | none => rfl
      | some found =>
        simp only
        split_ifs <;> rfl

/-! ## The virtual hosts are changed -/

theorem hostChecks_of_blank (h : isBlankText host = true) : hostChecks host = [.hostName host] := if_pos h

/-- a check finds the same as long as the virtual host that it is about is the same -/
theorem fault?_withHosts (s : Settings) {hosts : Directory Backend}
    (h : ∀ host, c ∈ hostChecks host → hosts.get? host = s.virtualHosts.get? host) :
    { s with virtualHosts := hosts }.fault? c = s.fault? c := by
  have hexamined : ∀ name, c ∈ name.checks → { s with virtualHosts := hosts }.examined? name = s.examined? name := by
    intro name hc
    cases name with
    | default => rfl
    | virtualHost host =>
      unfold examined?
      simp only
      split_ifs with hblank
      · rfl
      · exact h host (by rwa [hostChecks, if_neg hblank])
  cases c with
  | target name => simp only [fault?, hexamined name (mem_backendChecks.2 (.inl rfl))]
  | timeout name => simp only [fault?, hexamined name (mem_backendChecks.2 (.inr rfl))]
  | hostName host =>
    by_cases hblank : isBlankText host = true
    · have hcontains : hosts.contains host = s.virtualHosts.contains host :=
        congrArg Option.isSome (h host (by simp [hostChecks_of_blank hblank]))
      simp only [fault?, hcontains]
    · simp [fault?, hblank]
  | _ => rfl

/-! ## One thing is put right -/

/-- a change of one value matters to the check that looks at it alone -/
theorem Edit.fault?_apply (hblank : ∀ host, e = .hostTakenOut host → isBlankText host = true) (hc : c ≠ e.check) :
    (e.apply s).fault? c = s.fault? c := by
  cases e with
  | target name text => exact fault?_withBackend s name (fun h => absurd h hc) fun _ _ => rfl
  | timeout name seconds =>
    exact fault?_withBackend s name (fun _ b => targetFault?_timeout name b seconds) fun h => absurd h hc
  | hostTakenOut host =>
    refine fault?_withHosts s fun other hother => Directory.get?_erase_of_ne _ ?_
    rintro rfl
    rw [hostChecks_of_blank (hblank other rfl), List.mem_singleton] at hother
    exact hc hother
  | limit limit value =>
    cases c with
    | limit other =>
      have hother : other ≠ limit := fun h => hc (h ▸ rfl)
      cases limit <;> cases other <;> first | rfl | exact absurd rfl hother
    | _ => cases limit <;> rfl
  | listenAddress text =>
    cases c with
    | listenAddress => exact absurd rfl hc
    | _ => rfl
  | requestTimeout seconds =>
    cases c with
    | requestTimeout => exact absurd rfl hc
    | _ => rfl
  | logLevel text =>
    cases c with
    | logLevel => exact absurd rfl hc
    | _ => rfl
  | logFormat text =>
    cases c with
    | logFormat => exact absurd rfl hc
    | _ => rfl

/-- and it leaves the checks as they are, but for those of a host that is taken out -/
theorem Edit.checks_apply (hblank : ∀ host, e = .hostTakenOut host → isBlankText host = true) :
    (e.apply s).checks.filter (· ≠ e.check) = s.checks.filter (· ≠ e.check) := by
  have hsame : (e.apply s).virtualHosts.names = s.virtualHosts.names → (e.apply s).checks = s.checks := by
    intro hnames
    unfold checks
    rw [hnames]
  cases e with
  | target name text => rw [hsame (names_withBackend ..)]
  | timeout name seconds => rw [hsame (names_withBackend ..)]
  | hostTakenOut host =>
    have hname : (fun c : Check => decide (c ≠ .hostName host)) = fun c => decide (c ∉ hostChecks host) := by
      funext c
      simp [hostChecks, hblank host rfl]
    show (checks { s with virtualHosts := s.virtualHosts.erase host }).filter (fun c => decide (c ≠ .hostName host)) =
      s.checks.filter fun c => decide (c ≠ .hostName host)
    rw [hname, filter_checks, filter_checks, Directory.names_erase, List.filter_filter]
    simp only [Bool.and_self]
  | limit limit value => cases limit <;> rfl
  | listenAddress text => rfl
  | requestTimeout seconds => rfl
  | logLevel text => rfl
  | logFormat text => rfl

theorem Edit.found_apply (h : e.Mends s) : (e.apply s).found = s.found.filter (·.1 ≠ e.check) := by
  have hmended : (e.apply s).found.filter (·.1 ≠ e.check) = (e.apply s).found := by
    rw [List.filter_eq_self]
    rintro ⟨c, p⟩ hfound
    have hc : c ≠ e.check := by
      rintro rfl
      rw [mem_found_iff, h.1] at hfound
      cases hfound
    simpa using hc
  rw [← hmended]
  exact found_filter_eq (q := (· ≠ e.check)) (r := (· ≠ e.check)) (checks_apply h.2) fun c hc _ =>
    fault?_apply h.2 (by simpa using hc)

/-! ## A host gets a name -/

/-- a virtual host that had no name keeps its backend, whose checks are made now -/
theorem found_renameHost {other : String} (hget : s.virtualHosts.get? host = some b)
    (hblank : isBlankText host = true) (hnamed : isBlankText other = false) (hfree : s.virtualHosts.get? other = none) :
    (s.renameHost host other).found.filter (·.1 ∉ hostChecks other) = s.found.filter (·.1 ∉ hostChecks host) := by
  have hnames : ((s.virtualHosts.erase host).put other b).names.filter (· ≠ other) =
      s.virtualHosts.names.filter (· ≠ host) := by
    refine Directory.rising_ext ((Directory.names_rising _).filter _) ((Directory.names_rising _).filter _) ?_
    intro name
    have hother : other ∉ s.virtualHosts.names := by
      rw [Directory.mem_names_iff, hfree]
      rintro ⟨_, ⟨⟩⟩
    simp only [List.mem_filter, Directory.mem_names_put, Directory.names_erase, decide_eq_true_eq]
    constructor
    · rintro ⟨rfl | hname, hne⟩
      · exact absurd rfl hne
      · exact hname
    · rintro hname
      exact ⟨.inr hname, fun h => hother (h ▸ hname.1)⟩
  unfold renameHost
  rw [hget]
  refine found_filter_eq (q := (· ∉ hostChecks other)) (r := (· ∉ hostChecks host)) ?_ fun c hc hc' => ?_
  · rw [filter_checks, filter_checks, hnames]
  · refine fault?_withHosts s fun name hname => ?_
    have hne : name ≠ other := by
      rintro rfl
      simp [hname] at hc
    have hne' : name ≠ host := by
      rintro rfl
      simp [hname] at hc'
    rw [Directory.get?_put_of_ne _ hne, Directory.get?_erase_of_ne _ hne']

/-! ## What is reported -/

/-- the report on settings -/
structure Told (s : Settings) : Prop where
  /-- the problems are what the checks find, in their order -/
  problems : s.problems = s.found.map (·.2)
  /-- no check is there twice, -/
  once : (s.found.map (·.1)).Nodup
  /-- and each finds what is wrong where it looks, whatever else is wrong -/
  each : ∀ c p, (c, p) ∈ s.found ↔ s.fault? c = some p
  /-- a value that is put right takes its problem from the list, and leaves the others and their order -/
  mended : ∀ e : Edit, e.Mends s → (e.apply s).found = s.found.filter (·.1 ≠ e.check)
  /-- a virtual host that gets a name takes that problem from the list, and its backend is looked at now; the others and
  their order are left -/
  named : ∀ host name, s.virtualHosts.contains host = true → isBlankText host = true → isBlankText name = false →
    s.virtualHosts.contains name = false →
      (s.renameHost host name).found.filter (·.1 ∉ (BackendName.virtualHost name).checks) =
        s.found.filter (·.1 ≠ .hostName host)

/-- **Every problem is told, and nothing else.** The problems of settings are exactly what the checks find, each for
itself and in their order: the checks of the target and the timeout of the default backend, of the name of each virtual
host or of its backend if it has a name, of the limits, and of the values of the other sections. What is put right goes
from the list alone. -/
theorem problems_told (s : Settings) : s.Told := by
  refine ⟨(map_snd_found s).symm, nodup_found s, fun c p => mem_found_iff, fun e => Edit.found_apply, ?_⟩
  intro host name hhost hblank hnamed hfree
  obtain ⟨b, hget⟩ := Option.isSome_iff_exists.1 hhost
  have hrename := found_renameHost hget hblank hnamed (by simpa [Directory.contains] using hfree)
  rw [hostChecks_of_blank hblank] at hrename
  simp only [List.mem_singleton] at hrename
  rwa [hostChecks, if_neg (by rw [hnamed]; decide)] at hrename

/-- the backend of a virtual host without a name does not matter, whatever is wrong with it -/
theorem problems_withBackend_of_blank (s : Settings) (change : Backend → Backend) (hblank : isBlankText host = true) :
    (s.withBackend change (.virtualHost host)).problems = s.problems := by
  have hchecks : (s.withBackend change (.virtualHost host)).checks = s.checks := by
    unfold checks
    rw [names_withBackend]
  have hmissing : ∀ c ∈ s.checks, c ≠ .target (.virtualHost host) ∧ c ≠ .timeout (.virtualHost host) := by
    intro c hc
    rcases mem_checks.1 hc with hdefault | ⟨other, -, hother⟩ | hsection
    · rcases mem_backendChecks.1 hdefault with rfl | rfl <;> simp
    · have hne : isBlankText other = false → other ≠ host := by
        rintro hnamed rfl
        rw [hblank] at hnamed
        cases hnamed
      rcases mem_hostChecks.1 hother with ⟨-, rfl⟩ | ⟨hnamed, rfl | rfl⟩
      · simp
      · simp [hne hnamed]
      · simp [hne hnamed]
    · constructor <;> (rintro rfl; simp [sectionChecks] at hsection)
  rw [problems_eq, problems_eq, hchecks]
  exact List.filterMap_congr fun c hc =>
    fault?_withBackend s _ (fun h => absurd h (hmissing c hc).1) fun h => absurd h (hmissing c hc).2

/-- so that two problems come up when the third is put right -/
example :
    let s : Settings := { virtualHosts := .ofList [("", ⟨"ftp://a.test", 0⟩)] }
    s.problems = [.emptyHost] ∧ (s.renameHost "" "a.test").problems =
      [.origin (.virtualHost "a.test") (.scheme "ftp://a.test" "ftp"), .zeroTimeout (.virtualHost "a.test")] := by
  decide +kernel

end EdgeCache.Settings
