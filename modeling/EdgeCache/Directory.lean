/-
Directories: values under names, each name at most once, names in rising order. Strings are ordered character by
character, which is also the order of their UTF-8 octets.

Main statements: `get?_put_self` and `get?_put_of_ne` (what a directory gives after a name is put in),
`get?_erase_self` and `get?_erase_of_ne` (and after it is taken out), `mem_names_iff` (the names are those that give
a value), `eq_of_get?` (a directory is what it gives).
-/
namespace EdgeCache

/-- values under names -/
structure Directory (α : Type) where
  entries : List (String × α)
  rising : entries.Pairwise fun a b => a.1 < b.1

namespace Directory

variable {α : Type}

/-- put an entry into its place, over an older one of the same name -/
def insertEntry (name : String) (value : α) : List (String × α) → List (String × α)
  | [] => [(name, value)]
  | (k, v) :: rest =>
    if name < k then (name, value) :: (k, v) :: rest
    else if name = k then (name, value) :: rest
    else (k, v) :: insertEntry name value rest

theorem mem_insertEntry {name : String} {value : α} {e : String × α} {l : List (String × α)}
    (h : e ∈ insertEntry name value l) : e = (name, value) ∨ e ∈ l := by
  induction l with
  | nil => simpa [insertEntry] using h
  | cons p rest ih =>
    obtain ⟨k, v⟩ := p
    rw [insertEntry] at h
    split at h
    · simpa using h
    · split at h
      · simp only [List.mem_cons] at h ⊢
        exact h.imp_right .inr
      · simp only [List.mem_cons] at h ⊢
        rcases h with h | h
        · exact .inr (.inl h)
        · exact (ih h).imp_right .inr

theorem lt_of_not_lt_of_ne {a b : String} (h : ¬a < b) (hne : a ≠ b) : b < a := by
  rcases String.le_total a b with hab | hba
  · exact absurd (String.le_antisymm hab (String.not_lt.1 h)) hne
  · exact Decidable.byContradiction fun hn => hne (String.le_antisymm (String.not_lt.1 hn) hba)

theorem insertEntry_rising {name : String} {value : α} {l : List (String × α)}
    (h : l.Pairwise fun a b => a.1 < b.1) : (insertEntry name value l).Pairwise fun a b => a.1 < b.1 := by
  induction l with
  | nil => simp [insertEntry]
  | cons p rest ih =>
    obtain ⟨k, v⟩ := p
    have hrest := List.pairwise_cons.1 h
    rw [insertEntry]
    split
    · rename_i hlt
      refine List.pairwise_cons.2 ⟨fun e he => ?_, h⟩
      rcases List.mem_cons.1 he with rfl | he
      · exact hlt
      · exact String.lt_trans hlt (hrest.1 e he)
    · split
      · rename_i heq
        subst heq
        exact List.pairwise_cons.2 ⟨fun e he => hrest.1 e he, hrest.2⟩
      · rename_i hlt hne
        refine List.pairwise_cons.2 ⟨fun e he => ?_, ih hrest.2⟩
        rcases mem_insertEntry he with rfl | he
        · exact lt_of_not_lt_of_ne hlt hne
        · exact hrest.1 e he

def empty : Directory α := ⟨[], .nil⟩

instance : EmptyCollection (Directory α) := ⟨empty⟩

instance : Inhabited (Directory α) := ⟨empty⟩

def get? (d : Directory α) (name : String) : Option α := d.entries.lookup name

def put (d : Directory α) (name : String) (value : α) : Directory α :=
  ⟨insertEntry name value d.entries, insertEntry_rising d.rising⟩

def erase (d : Directory α) (name : String) : Directory α :=
  ⟨d.entries.filter (·.1 ≠ name), d.rising.filter _⟩

def names (d : Directory α) : List String := d.entries.map (·.1)

def contains (d : Directory α) (name : String) : Bool := (d.get? name).isSome

/-- entries put in one after the other -/
def ofList (entries : List (String × α)) : Directory α := entries.foldl (fun d e => d.put e.1 e.2) empty

theorem names_rising (d : Directory α) : d.names.Pairwise (· < ·) :=
  List.pairwise_map.2 d.rising

theorem lookup_of_eq {κ : Type} [DecidableEq κ] {name k : κ} (h : name = k) (v : α) (l : List (κ × α)) :
    ((k, v) :: l).lookup name = some v := by
  simp [h]

theorem lookup_of_ne {κ : Type} [DecidableEq κ] {name k : κ} (h : name ≠ k) (v : α) (l : List (κ × α)) :
    ((k, v) :: l).lookup name = l.lookup name := by
  have : (name == k) = false := by simpa using h
  simp only [List.lookup_cons, this]

theorem lookup_insertEntry_self (name : String) (value : α) (l : List (String × α)) :
    (insertEntry name value l).lookup name = some value := by
  induction l with
  | nil => exact lookup_of_eq rfl ..
  | cons p rest ih =>
    obtain ⟨k, v⟩ := p
    rw [insertEntry]
    split
    · exact lookup_of_eq rfl ..
    · split
      · exact lookup_of_eq rfl ..
      · rename_i hne
        rw [lookup_of_ne hne, ih]

theorem lookup_insertEntry_of_ne {name other : String} (h : other ≠ name) (value : α) (l : List (String × α)) :
    (insertEntry name value l).lookup other = l.lookup other := by
  induction l with
  | nil => exact lookup_of_ne h ..
  | cons p rest ih =>
    obtain ⟨k, v⟩ := p
    rw [insertEntry]
    split
    · exact lookup_of_ne h ..
    · split
      · rename_i heq
        subst heq
        rw [lookup_of_ne h, lookup_of_ne h]
      · simp only [List.lookup_cons, ih]

@[simp] theorem get?_empty (name : String) : (empty : Directory α).get? name = none := rfl

@[simp] theorem get?_put_self (d : Directory α) (name : String) (value : α) :
    (d.put name value).get? name = some value := lookup_insertEntry_self ..

theorem get?_put_of_ne (d : Directory α) {name other : String} (h : other ≠ name) (value : α) :
    (d.put name value).get? other = d.get? other := lookup_insertEntry_of_ne h ..

theorem lookup_filter_self {κ : Type} [DecidableEq κ] (name : κ) (l : List (κ × α)) :
    (l.filter (·.1 ≠ name)).lookup name = none := by
  induction l with
  | nil => rfl
  | cons p rest ih =>
    obtain ⟨k, v⟩ := p
    by_cases h : k = name
    · rw [List.filter_cons_of_neg (by simpa using h), ih]
    · rw [List.filter_cons_of_pos (by simpa using h), lookup_of_ne (Ne.symm h), ih]

theorem lookup_filter_of_ne {κ : Type} [DecidableEq κ] {name other : κ} (h : other ≠ name) (l : List (κ × α)) :
    (l.filter (·.1 ≠ name)).lookup other = l.lookup other := by
  induction l with
  | nil => rfl
  | cons p rest ih =>
    obtain ⟨k, v⟩ := p
    by_cases hp : k = name
    · rw [List.filter_cons_of_neg (by simpa using hp), ih, lookup_of_ne (hp ▸ h)]
    · rw [List.filter_cons_of_pos (by simpa using hp), List.lookup_cons, List.lookup_cons, ih]

@[simp] theorem get?_erase_self (d : Directory α) (name : String) : (d.erase name).get? name = none :=
  lookup_filter_self ..

theorem get?_erase_of_ne (d : Directory α) {name other : String} (h : other ≠ name) :
    (d.erase name).get? other = d.get? other := lookup_filter_of_ne h ..

theorem mem_keys_iff (name : String) (l : List (String × α)) :
    name ∈ l.map (·.1) ↔ ∃ v, l.lookup name = some v := by
  induction l with
  | nil => simp
  | cons p rest ih =>
    obtain ⟨k, v⟩ := p
    by_cases h : name = k
    · rw [lookup_of_eq h]
      simp [h]
    · rw [lookup_of_ne h, List.map_cons, List.mem_cons, ih]
      simp [h]

theorem mem_names_iff (d : Directory α) (name : String) : name ∈ d.names ↔ ∃ v, d.get? name = some v :=
  mem_keys_iff ..

theorem lookup_eq_some_iff {l : List (String × α)} (h : l.Pairwise fun a b => a.1 < b.1) (name : String) (value : α) :
    l.lookup name = some value ↔ (name, value) ∈ l := by
  induction l with
  | nil => simp
  | cons p rest ih =>
    obtain ⟨k, v⟩ := p
    obtain ⟨hk, hrest⟩ := List.pairwise_cons.1 h
    by_cases hname : name = k
    · subst hname
      rw [lookup_of_eq rfl]
      constructor
      · rintro ⟨⟩
        exact List.mem_cons_self
      · intro hmem
        rcases List.mem_cons.1 hmem with heq | hmem
        · exact congrArg some (Prod.mk.inj heq).2.symm
        · exact absurd (hk _ hmem) (String.lt_irrefl name)
    · rw [lookup_of_ne hname, ih hrest, List.mem_cons]
      constructor
      · exact Or.inr
      · rintro (heq | hmem)
        · exact absurd (Prod.mk.inj heq).1 hname
        · exact hmem

theorem mem_entries_iff (d : Directory α) (name : String) (value : α) :
    (name, value) ∈ d.entries ↔ d.get? name = some value := (lookup_eq_some_iff d.rising name value).symm

theorem eq_of_get? {d e : Directory α} (h : ∀ name, d.get? name = e.get? name) : d = e := by
  have hnodup : ∀ d : Directory α, d.entries.Nodup := by
    intro d
    refine d.rising.imp ?_
    rintro a b hlt rfl
    exact String.lt_irrefl _ hlt
  have hperm : d.entries.Perm e.entries := by
    refine (List.perm_ext_iff_of_nodup (hnodup d) (hnodup e)).2 ?_
    rintro ⟨name, value⟩
    rw [mem_entries_iff, mem_entries_iff, h]
  have hentries : d.entries = e.entries :=
    hperm.eq_of_pairwise (fun _ _ _ _ hab hba => absurd hba (String.lt_asymm hab)) d.rising e.rising
  cases d
  cases e
  cases hentries
  rfl

end Directory

end EdgeCache
