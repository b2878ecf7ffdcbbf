/-
What a table of hosts holds after changes, and between the changes of an update.

- `get?_after`: the last change about a host decides what the host is bound to.
- `get?_update`: after an update a host is bound to the last backend given for it, whatever the table was before.
- `kept_between`, `names_between`: while an update is on its way, a host that stays is bound to its old backend or to one
  that is given for it, and there are no hosts but old and new ones.
-/
import Mathlib.Data.List.Induction
import Mathlib.Tactic.SplitIfs
import EdgeCache.Routing.History

namespace EdgeCache.Routing.HostTable

open EdgeCache.Text

variable {Backend : Type} {t : HostTable Backend} {host : String}

/-! ## Changes -/

theorem get?_apply (t : HostTable Backend) (c : Change Backend) (host : String) :
    (Change.apply t c).hosts.get? host = if c.about = host then c.binding? else t.hosts.get? host := by
  cases c with
  | remove name =>
    show (t.hosts.erase (lower name)).get? host = if lower name = host then none else _
    split_ifs with h
    · rw [h, Directory.get?_erase_self]
    · exact Directory.get?_erase_of_ne _ (Ne.symm h)
  | add name backend =>
    show (t.hosts.put (lower name) backend).get? host = if lower name = host then some backend else _
    split_ifs with h
    · rw [h, Directory.get?_put_self]
    · exact Directory.get?_put_of_ne _ (Ne.symm h) _

theorem after_concat (t : HostTable Backend) (changes : List (Change Backend)) (c : Change Backend) :
    t.after (changes ++ [c]) = Change.apply (t.after changes) c := List.foldl_append ..

/-- the last of some changes that is about a host -/
def lastAbout? (changes : List (Change Backend)) (host : String) : Option (Change Backend) :=
  (changes.filter (·.about = host)).getLast?

/-- **The last change decides.** What a host is bound to after changes was said by the last one about it; without one it
is as before. -/
theorem get?_after (t : HostTable Backend) (changes : List (Change Backend)) (host : String) :
    (t.after changes).hosts.get? host =
      match lastAbout? changes host with
      | some c => c.binding?
      | none => t.hosts.get? host := by
  induction changes using List.reverseRecOn with
  | nil => rfl
  | append_singleton changes c ih =>
    rw [after_concat, get?_apply]
    unfold lastAbout?
    by_cases h : c.about = host
    · rw [if_pos h, List.filter_append, List.filter_cons_of_pos (by simpa using h), List.filter_nil,
        List.getLast?_concat]
    · rw [if_neg h, List.filter_append, List.filter_cons_of_neg (by simpa using h), List.filter_nil, List.append_nil]
      exact ih

theorem default_after (t : HostTable Backend) (changes : List (Change Backend)) :
    (t.after changes).default = t.default := by
  induction changes generalizing t with
  | nil => rfl
  | cons c changes ih =>
    refine (ih (Change.apply t c)).trans ?_
    cases c with
    | remove name => rfl
    | add name backend => rfl

theorem mem_of_lastAbout? {changes : List (Change Backend)} {c : Change Backend} (h : lastAbout? changes host = some c) :
    c ∈ changes ∧ c.about = host := by
  have hmem := List.mem_filter.1 (List.mem_of_getLast? h)
  exact ⟨hmem.1, of_decide_eq_true hmem.2⟩

theorem not_about_of_lastAbout? {changes : List (Change Backend)} (h : lastAbout? changes host = none)
    {c : Change Backend} (hc : c ∈ changes) : c.about ≠ host := by
  intro habout
  have hnil := List.getLast?_eq_none_iff.1 h
  have hmem : c ∈ changes.filter (·.about = host) := List.mem_filter.2 ⟨hc, decide_eq_true habout⟩
  rw [hnil] at hmem
  cases hmem

/-! ## Names in small letters -/

/-- the names of a table are in small letters -/
def Lowered (t : HostTable Backend) : Prop := ∀ name ∈ t.names, lower name = name

theorem mem_names_iff (t : HostTable Backend) (host : String) :
    host ∈ t.names ↔ ∃ backend, t.hosts.get? host = some backend := Directory.mem_names_iff ..

theorem lowered_after (h : t.Lowered) (changes : List (Change Backend)) : (t.after changes).Lowered := by
  intro name hname
  obtain ⟨backend, hget⟩ := (mem_names_iff _ name).1 hname
  rw [get?_after] at hget
  cases hlast : lastAbout? changes name with
  | none =>
    rw [hlast] at hget
    exact h name ((mem_names_iff t name).2 ⟨backend, hget⟩)
  | some c =>
    rw [← (mem_of_lastAbout? hlast).2]
    cases c with
    | remove host => exact lower_lower host
    | add host backend => exact lower_lower host

theorem lowered_reached (default : Backend) (history : List (Change Backend)) : (reached default history).Lowered := by
  refine lowered_after ?_ history
  intro name hname
  cases hname

/-! ## Updates -/

/-- the last backend that is given for a host -/
def given? (hosts : List (String × Backend)) (host : String) : Option Backend :=
  ((hosts.filter (lower ·.1 = host)).getLast?).map (·.2)

/-- a host is given under some spelling -/
def Given (hosts : List (String × Backend)) (host : String) : Prop := ∃ h ∈ hosts, lower h.1 = host

/-- what an update does is to take out a host that is not given, or to bind one that is -/
theorem mem_changes {hosts : List (String × Backend)} {c : Change Backend} (h : c ∈ t.changes hosts) :
    (∃ name ∈ t.names, ¬Given hosts name ∧ c = .remove name) ∨ ∃ e ∈ hosts, c = .add e.1 e.2 := by
  rcases List.mem_append.1 h with h | h
  · obtain ⟨name, hname, rfl⟩ := List.mem_map.1 h
    obtain ⟨hmem, hnot⟩ := List.mem_filter.1 hname
    refine Or.inl ⟨name, hmem, ?_, rfl⟩
    rintro ⟨e, he, hlower⟩
    simp only [Bool.not_eq_true', List.any_eq_false, beq_iff_eq] at hnot
    exact hnot e he hlower
  · obtain ⟨e, he, rfl⟩ := List.mem_map.1 h
    exact Or.inr ⟨e, he, rfl⟩

/-- a host that is given is bound last by what is given for it last -/
theorem lastAbout?_changes {hosts : List (String × Backend)} (h : Given hosts host) :
    ∃ e : String × Backend, lastAbout? (t.changes hosts) host = some (.add e.1 e.2) ∧ given? hosts host = some e.2 := by
  obtain ⟨e, he, hlower⟩ := h
  have hne : hosts.filter (lower ·.1 = host) ≠ [] :=
    List.ne_nil_of_mem (List.mem_filter.2 ⟨he, decide_eq_true hlower⟩)
  have hadds : (hosts.map fun e => Change.add e.1 e.2).filter (·.about = host) =
      (hosts.filter (lower ·.1 = host)).map fun e => Change.add e.1 e.2 := List.filter_map
  refine ⟨(hosts.filter (lower ·.1 = host)).getLast hne, ?_, ?_⟩
  · unfold lastAbout? changes
    rw [List.filter_append, hadds, List.getLast?_append, List.getLast?_map, List.getLast?_eq_some_getLast hne]
    rfl
  · unfold given?
    rw [List.getLast?_eq_some_getLast hne]
    rfl

/-- **After an update** a host is bound to the last backend given for it, and no other host is bound. -/
theorem get?_update (ht : t.Lowered) (hosts : List (String × Backend)) (host : String) :
    (t.update hosts).hosts.get? host = given? hosts host := by
  show (t.after (t.changes hosts)).hosts.get? host = _
  rw [get?_after]
  by_cases hgiven : Given hosts host
  · obtain ⟨e, hlast, he⟩ := lastAbout?_changes (t := t) hgiven
    rw [hlast, he]
    rfl
  · have hnone : given? hosts host = none := by
      unfold given?
      rw [Option.map_eq_none_iff, List.getLast?_eq_none_iff, List.filter_eq_nil_iff]
      intro e he hlower
      exact hgiven ⟨e, he, of_decide_eq_true hlower⟩
    rw [hnone]
    cases hlast : lastAbout? (t.changes hosts) host with
    | some c =>
      obtain ⟨hmem, habout⟩ := mem_of_lastAbout? hlast
      rcases mem_changes hmem with ⟨name, -, -, rfl⟩ | ⟨e, he, rfl⟩
      · rfl
      · exact absurd ⟨e, he, habout⟩ hgiven
    | none =>
      -- a host that was bound would have been taken out
      cases hget : t.hosts.get? host with
      | none => rfl
      | some backend =>
        have hname : host ∈ t.names := (mem_names_iff t host).2 ⟨backend, hget⟩
        have hremove : Change.remove host ∈ t.changes hosts := by
          refine List.mem_append_left _ (List.mem_map.2 ⟨host, List.mem_filter.2 ⟨hname, ?_⟩, rfl⟩)
          simp only [Bool.not_eq_true', List.any_eq_false, beq_iff_eq]
          intro e he hlower
          exact hgiven ⟨e, he, hlower⟩
        exact absurd (ht host hname) (not_about_of_lastAbout? hlast hremove)

theorem update_eq (ht : t.Lowered) {u : HostTable Backend} (hu : u.Lowered) (hdefault : t.default = u.default)
    (hosts : List (String × Backend)) : t.update hosts = u.update hosts := by
  have hsame : (t.update hosts).hosts = (u.update hosts).hosts := by
    refine Directory.eq_of_get? ?_
    intro host
    rw [get?_update ht, get?_update hu]
  have hdefaults : (t.update hosts).default = (u.update hosts).default :=
    (default_after t _).trans (hdefault.trans (default_after u _).symm)
  cases ht : t.update hosts
  cases hu : u.update hosts
  rw [ht, hu] at hsame hdefaults
  cases hsame
  cases hdefaults
  rfl

/-! ## On the way -/

/-- **A host that stays is always bound.** While an update is on its way it is bound to its old backend, or to one that is
given for it. -/
theorem kept_between {hosts : List (String × Backend)} (ht : t.Lowered) (hgiven : Given hosts host) {backend : Backend}
    (hget : t.hosts.get? host = some backend) (k : Nat) :
    (t.after ((t.changes hosts).take k)).hosts.get? host = some backend ∨
    ∃ e ∈ hosts, lower e.1 = host ∧ (t.after ((t.changes hosts).take k)).hosts.get? host = some e.2 := by
  rw [get?_after]
  cases hlast : lastAbout? ((t.changes hosts).take k) host with
  | none => exact Or.inl hget
  | some c =>
    obtain ⟨hmem, habout⟩ := mem_of_lastAbout? hlast
    rcases mem_changes (List.mem_of_mem_take hmem) with ⟨name, hname, hnot, rfl⟩ | ⟨e, he, rfl⟩
    · have hsame : lower name = host := habout
      rw [ht name hname] at hsame
      exact absurd (hsame ▸ hgiven) hnot
    · exact Or.inr ⟨e, he, habout, rfl⟩

/-- **No strange hosts.** While an update is on its way there are only hosts that were there before, or that are given. -/
theorem names_between {hosts : List (String × Backend)} (k : Nat)
    (h : host ∈ (t.after ((t.changes hosts).take k)).names) : host ∈ t.names ∨ Given hosts host := by
  obtain ⟨backend, hget⟩ := (mem_names_iff _ host).1 h
  rw [get?_after] at hget
  cases hlast : lastAbout? ((t.changes hosts).take k) host with
  | none =>
    rw [hlast] at hget
    exact Or.inl ((mem_names_iff t host).2 ⟨backend, hget⟩)
  | some c =>
    obtain ⟨hmem, habout⟩ := mem_of_lastAbout? hlast
    rcases mem_changes (List.mem_of_mem_take hmem) with ⟨name, -, -, rfl⟩ | ⟨e, he, rfl⟩
    · rw [hlast] at hget
      cases hget
    · exact Or.inr ⟨e, he, habout⟩

/-! ## Lookups -/

/-- a query is for a host: in any case of its letters, with blanks around it or with a port -/
def Asks (query host : String) : Prop :=
  lower (trimmed query) = host ∨ withoutPort? (lower (trimmed query)).toList = some host.toList

theorem registered?_eq (t : HostTable Backend) (query : String) :
    t.registered? query = (t.hosts.get? (lower (trimmed query))).or
      ((withoutPort? (lower (trimmed query)).toList).bind fun name => t.hosts.get? (String.ofList name)) := by
  show (t.hosts.get? (lower (trimmed query)) <|> _) = _
  cases t.hosts.get? (lower (trimmed query)) with
  | none => rfl
  | some backend => rfl

/-- a query for a host that is bound does not go to the default backend -/
theorem registered?_isSome {query : String} (hquery : Asks query host) {backend : Backend}
    (hget : t.hosts.get? host = some backend) : (t.registered? query).isSome = true := by
  rw [registered?_eq, Option.isSome_or]
  rcases hquery with rfl | hport
  · rw [hget]
    rfl
  · rw [hport, Option.bind_some, String.ofList_toList, hget]
    exact Bool.or_true _

/-- a name without blanks around it is looked up under itself -/
theorem registered?_of_trimmed {name : String} (htrim : trimmed name = name) {backend : Backend}
    (hget : t.hosts.get? (lower name) = some backend) : t.registered? name = some backend := by
  rw [registered?_eq, htrim, hget]
  rfl

end EdgeCache.Routing.HostTable
