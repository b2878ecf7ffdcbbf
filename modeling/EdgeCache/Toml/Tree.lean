/-
The tree that a file's lines build. A table can be written under a header, be implied by a longer header, or be made
by a dotted key; which of these it is decides how later lines may go on with it. Nothing is ever written twice.
-/
import EdgeCache.Document

namespace EdgeCache.Toml

inductive TableKind where
  | headed
  | implied
  | dotted
deriving DecidableEq

/-- a part of the tree: a value, a table, or the tables that one repeated header has written so far -/
inductive Node where
  | value (d : Document)
  | table (kind : TableKind) (entries : List (String × Node))
  | tables (elements : List (List (String × Node)))

/-- what a table holds, in the order of writing -/
abbrev Entries := List (String × Node)

namespace Entries

/-- put a node in the place of the one under its name -/
def replace (entries : Entries) (name : String) (node : Node) : Entries :=
  entries.map fun e => if e.1 = name then (name, node) else e

/-- change the table at the end of a path. A name on the way that is not there becomes a table of kind `missing`;
dotted keys go into no table that has its own header. -/
def within (missing : TableKind) (f : TableKind → Entries → Option Entries) :
    List String → TableKind → Entries → Option Entries
  | [], kind, entries => f kind entries
  | name :: path, _, entries =>
    match entries.lookup name with
    | none => (within missing f path missing []).map fun inner => entries ++ [(name, .table missing inner)]
    | some (.value _) => none
    | some (.tables elements) => do
      let last ← elements.getLast?
      let inner ← within missing f path .headed last
      return entries.replace name (.tables (elements.dropLast ++ [inner]))
    | some (.table kind inner) =>
      if missing = .dotted ∧ kind = .headed then none
      else (within missing f path kind inner).map fun inner => entries.replace name (.table kind inner)

/-- write a value under a dotted key. A table made by dotted keys takes values from dotted keys only, another one
takes them from plain keys only. -/
def write (entries : Entries) (path : List String) (name : String) (value : Document) : Option Entries :=
  within .dotted (fun kind es =>
    if (kind == .dotted) == path.isEmpty then none
    else if (es.lookup name).isSome then none
    else some (es ++ [(name, .value value)])) path .headed entries

/-- write a value into the table that a header opened -/
def writeUnder (entries : Entries) (header path : List String) (name : String) (value : Document) : Option Entries :=
  within .implied (fun _ es => es.write path name value) header .headed entries

/-- open a table by its header: a new one, or one that is only implied so far -/
def openTable (entries : Entries) (path : List String) (name : String) : Option Entries :=
  within .implied (fun _ es =>
    match es.lookup name with
    | none => some (es ++ [(name, .table .headed [])])
    | some (.table .implied inner) => some (es.replace name (.table .headed inner))
    | some _ => none) path .headed entries

/-- open the next of the tables that share a header -/
def openElement (entries : Entries) (path : List String) (name : String) : Option Entries :=
  within .implied (fun _ es =>
    match es.lookup name with
    | none => some (es ++ [(name, .tables [[]])])
    | some (.tables elements) => some (es.replace name (.tables (elements ++ [[]])))
    | some _ => none) path .headed entries

end Entries

mutual

/-- the data of a part of the tree -/
def Node.document : Node → Document
  | .value d => d
  | .table _ entries => .table (entryDocuments entries)
  | .tables elements => .list (elementDocuments elements)

/-- the data of a table's entries -/
def entryDocuments : List (String × Node) → List (String × Document)
  | [] => []
  | (name, node) :: rest => (name, node.document) :: entryDocuments rest

/-- the data of tables that share a header -/
def elementDocuments : List (List (String × Node)) → List Document
  | [] => []
  | entries :: rest => .table (entryDocuments entries) :: elementDocuments rest

end

end EdgeCache.Toml
