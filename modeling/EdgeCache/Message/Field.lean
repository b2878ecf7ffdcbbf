/-
Header fields. A header is a list of fields in the order they came; names are in small letters, and the octets of a
value are the UTF-8 octets of its text. What the library reads from values it reads from lines of visible ASCII alone.
-/
import EdgeCache.Text.Blank
import EdgeCache.Text.Decimal

namespace EdgeCache.Message

open EdgeCache.Text

structure Field where
  name : String
  value : String
deriving DecidableEq, Inhabited

inductive FieldError where
  | name
  | value
deriving DecidableEq

def FieldError.message : FieldError → String
  | .name => "invalid HTTP header name"
  | .value => "failed to parse header value"

def isTokenChar (c : Char) : Bool := c.isAlphanum || "!#$%&'*+-.^_`|~".toList.contains c

def fieldName? (s : String) : Option String :=
  if s ≠ "" ∧ s.toList.all isTokenChar ∧ s.utf8ByteSize < 65536 then some (lower s) else none

/-- a value holds no controls except tabs -/
def isFieldValue (s : String) : Bool := s.toList.all fun c => (0x20 ≤ c.toNat && c.toNat ≠ 0x7F) || c = '\t'

/-- all characters are visible ASCII, spaces or tabs -/
def isVisibleAscii (s : String) : Bool := s.toList.all fun c => (0x20 ≤ c.toNat && c.toNat < 0x7F) || c = '\t'

def visible? (value : String) : Option String := if isVisibleAscii value then some value else none

def Field.read (name value : String) : Except FieldError Field :=
  match fieldName? name with
  | none => .error .name
  | some n => if isFieldValue value then .ok ⟨n, value⟩ else .error .value

/-- the fields of a message in order -/
abbrev Header := List Field

namespace Header

def read (pairs : List (String × String)) : Except FieldError Header := pairs.mapM fun (n, v) => Field.read n v

def values (h : Header) (name : String) : List String := (h.filter (·.name = name)).map (·.value)

def value? (h : Header) (name : String) : Option String := (h.values name).head?

/-- the values of a name that are visible ASCII, in order -/
def lines (h : Header) (name : String) : List String := (h.values name).filter isVisibleAscii

/-- the first value of a name, if it is visible ASCII -/
def line? (h : Header) (name : String) : Option String := (h.value? name).bind visible?

def without (h : Header) (name : String) : Header := h.filter (·.name ≠ name)

def withoutAll (h : Header) (names : List String) : Header := h.filter fun f => f.name ∉ names

def add (h : Header) (name value : String) : Header := h ++ [⟨name, value⟩]

def put (h : Header) (name value : String) : Header := (h.without name).add name value

/-- the elements of the comma-separated lines of a name, without blanks around them -/
def elements (h : Header) (name : String) : List (List Char) :=
  (h.lines name).flatMap fun v => (splitOn ',' v.toList).map trim

/-- the fields in the order of their names; fields of one name keep their order -/
def sorted (h : Header) : Header := h.mergeSort fun a b => a.name ≤ b.name

@[simp] theorem values_add_self (h : Header) (name value : String) :
    (h.add name value).values name = h.values name ++ [value] := by
  simp [values, add]

theorem values_add_of_ne (h : Header) {name other : String} (value : String) (hne : other ≠ name) :
    (h.add name value).values other = h.values other := by
  simp [values, add, Ne.symm hne]

theorem values_withoutAll (h : Header) (names : List String) (name : String) :
    (h.withoutAll names).values name = if name ∈ names then [] else h.values name := by
  unfold values withoutAll
  rw [List.filter_filter]
  by_cases hmem : name ∈ names
  · rw [if_pos hmem, List.map_eq_nil_iff, List.filter_eq_nil_iff]
    intro f _ hf
    simp only [Bool.and_eq_true, decide_eq_true_eq] at hf
    exact hf.2 (hf.1 ▸ hmem)
  · rw [if_neg hmem]
    congr 1
    apply List.filter_congr
    intro f _
    by_cases h' : f.name = name
    · simp [h', hmem]
    · simp [h']

@[simp] theorem values_without_self (h : Header) (name : String) : (h.without name).values name = [] := by
  simp [values, without]

theorem values_without_of_ne (h : Header) {name other : String} (hne : other ≠ name) :
    (h.without name).values other = h.values other := by
  have hsame : h.without name = h.withoutAll [name] := by
    unfold without withoutAll
    simp
  rw [hsame, values_withoutAll, if_neg (by simpa using hne)]

@[simp] theorem values_put_self (h : Header) (name value : String) : (h.put name value).values name = [value] := by
  simp [put]

theorem values_put_of_ne (h : Header) {name other : String} (value : String) (hne : other ≠ name) :
    (h.put name value).values other = h.values other := by
  simp only [values, put, add, without, List.filter_append, List.filter_filter, List.map_append]
  simp only [List.filter_cons, List.filter_nil]
  rw [if_neg (by simpa using Ne.symm hne)]
  simp only [List.map_nil, List.append_nil]
  congr 1
  apply List.filter_congr
  intro f _
  by_cases h' : f.name = other <;> simp [h', hne]

end Header

end EdgeCache.Message
