/-
What is left of a header on the other side of a connection.

- `mem_nominated_iff`: which names the Connection fields of a message nominate.
- `mem_endToEnd_iff`, `endToEnd_endToEnd`: a field stays if and only if its name always goes on and is not nominated, and
  nothing more goes the next time.
- `leaves_endToEnd`: the values of one name all stay, in order, or none does.
- `Relays`: a header hands on what is left of another one, apart from the names that the sender writes itself.
-/
import EdgeCache.Message.HopByHop

namespace EdgeCache.Message

open EdgeCache.Text

/-- a Connection line of visible ASCII has this name between commas, in small or capital letters and with or without
blanks around it -/
def Nominates (h : Header) (name : String) : Prop :=
  ∃ line ∈ h.values "connection", isVisibleAscii line = true ∧
    ∃ part ∈ splitOn ',' line.toList, fieldName? (String.ofList (trim part)) = some name

/-- the name is one of a connection: always, or because the message says so -/
def OfConnection (h : Header) (name : String) : Prop := name ∈ hopByHopNames ∨ Nominates h name

/-- what is left of the values of a name: none if the name is one of the connection, else all of them in order -/
structure Leaves (source : Header) (name : String) (values : List String) : Prop where
  dropped : OfConnection source name → values = []
  kept : ¬OfConnection source name → values = source.values name

theorem Leaves.unique {source : Header} {name : String} {a b : List String} (ha : Leaves source name a)
    (hb : Leaves source name b) : a = b := by
  by_cases hgone : OfConnection source name
  · rw [ha.dropped hgone, hb.dropped hgone]
  · rw [ha.kept hgone, hb.kept hgone]

/-- a header hands on what another one leaves, apart from the names `own` that the sender writes itself -/
structure Relays (source : Header) (own : List String) (sent : Header) : Prop where
  clean : ∀ name ∈ hopByHopNames, sent.values name = []
  others : ∀ name, name ∉ own → Leaves source name (sent.values name)

namespace Header

variable {h : Header} {name : String}

/-! ## Nominated names -/

theorem mem_nominated_iff : name ∈ h.nominated ↔ Nominates h name := by
  unfold nominated elements lines Nominates
  rw [List.mem_filterMap]
  constructor
  · rintro ⟨element, helement, hname⟩
    obtain ⟨line, hline, hpart⟩ := List.mem_flatMap.1 helement
    obtain ⟨hvalue, hvisible⟩ := List.mem_filter.1 hline
    obtain ⟨part, hmem, rfl⟩ := List.mem_map.1 hpart
    exact ⟨line, hvalue, hvisible, part, hmem, hname⟩
  · rintro ⟨line, hvalue, hvisible, part, hpart, hname⟩
    have hline : line ∈ (h.values "connection").filter isVisibleAscii := List.mem_filter.2 ⟨hvalue, hvisible⟩
    exact ⟨trim part, List.mem_flatMap.2 ⟨line, hline, List.mem_map_of_mem hpart⟩, hname⟩

instance : Decidable (Nominates h name) := decidable_of_iff _ mem_nominated_iff

theorem ofConnection_iff : OfConnection h name ↔ name ∈ h.nominated ++ hopByHopNames := by
  unfold OfConnection
  rw [List.mem_append, mem_nominated_iff, or_comm]

instance : Decidable (OfConnection h name) := inferInstanceAs (Decidable (_ ∨ _))

/-! ## What is left -/

/-- **Which fields go on.** A field does if and only if its name is neither one that always concerns the connection nor
nominated by the message. -/
theorem mem_endToEnd_iff {f : Field} : f ∈ h.endToEnd ↔ f ∈ h ∧ ¬OfConnection h f.name := by
  unfold endToEnd withoutAll
  rw [List.mem_filter, decide_eq_true_eq, ofConnection_iff]

theorem endToEnd_sublist (h : Header) : h.endToEnd.Sublist h := List.filter_sublist

theorem leaves_endToEnd (h : Header) (name : String) : Leaves h name (h.endToEnd.values name) := by
  unfold endToEnd
  rw [values_withoutAll]
  constructor
  · intro hgone
    exact if_pos (ofConnection_iff.1 hgone)
  · intro hstays
    exact if_neg fun hmem => hstays (ofConnection_iff.2 hmem)

/-- no Connection field is left, so what is left nominates nothing -/
theorem nominated_endToEnd (h : Header) : h.endToEnd.nominated = [] := by
  have hnone : h.endToEnd.values "connection" = [] := (leaves_endToEnd h "connection").dropped (Or.inl (by decide))
  unfold nominated elements lines
  rw [hnone]
  rfl

/-- **What is left once is left again.** -/
theorem endToEnd_endToEnd (h : Header) : h.endToEnd.endToEnd = h.endToEnd := by
  have hstays : ∀ f ∈ h.endToEnd, decide (f.name ∉ h.endToEnd.nominated ++ hopByHopNames) = true := by
    intro f hf
    have hlist : f.name ∉ hopByHopNames := fun hmem => (mem_endToEnd_iff.1 hf).2 (Or.inl hmem)
    rw [nominated_endToEnd, List.nil_append, decide_eq_true_eq]
    exact hlist
  exact List.filter_eq_self.2 hstays

end Header

/-! ## What is handed on -/

namespace Relays

variable {source sent sent' : Header} {own : List String} {name : String}

theorem endToEnd (h : Header) : Relays h [] h.endToEnd := by
  refine ⟨fun name hname => ?_, fun name _ => Header.leaves_endToEnd h name⟩
  exact (Header.leaves_endToEnd h name).dropped (Or.inl hname)

/-- the sender writes one more name itself -/
theorem write (h : Relays source own sent) (hname : name ∉ hopByHopNames)
    (hsame : ∀ other, other ≠ name → sent'.values other = sent.values other) :
    Relays source (name :: own) sent' := by
  constructor
  · intro other hother
    rw [hsame other (ne_of_mem_of_not_mem hother hname)]
    exact h.clean other hother
  · intro other hother
    obtain ⟨hne, hown⟩ := List.ne_and_not_mem_of_not_mem_cons hother
    rw [hsame other hne]
    exact h.others other hown

theorem put (h : Relays source own sent) (name value : String) (hname : name ∉ hopByHopNames := by decide) :
    Relays source (name :: own) (sent.put name value) :=
  h.write hname fun _ hne => Header.values_put_of_ne sent value hne

theorem add (h : Relays source own sent) (name value : String) (hname : name ∉ hopByHopNames := by decide) :
    Relays source (name :: own) (sent.add name value) :=
  h.write hname fun _ hne => Header.values_add_of_ne sent value hne

theorem without (h : Relays source own sent) (name : String) (hname : name ∉ hopByHopNames := by decide) :
    Relays source (name :: own) (sent.without name) :=
  h.write hname fun _ hne => Header.values_without_of_ne sent hne

end Relays

end EdgeCache.Message
