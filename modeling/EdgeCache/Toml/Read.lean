/-
Configuration files in TOML 1.0: lines that write values under keys, and headers that say into which table. Values
nest in arrays and inline tables, less deep than `depthLimit`.
-/
import EdgeCache.Toml.Scalar
import EdgeCache.Toml.Text
import EdgeCache.Toml.Tree

namespace EdgeCache.Toml

/-- the last part of a key, and the parts before it -/
def splitKey (key : List String) : Reader (List String × String) :=
  match key.getLast? with
  | some name => pure (key.dropLast, name)
  | none => failure

def arrayItems (value : Reader Document) : Reader (List Document) := do
  let items ← separated (blankLines *> value <* blankLines) (char ',')
  unless items.isEmpty do
    let _ ← maybe (char ',')
  blankLines
  char ']'
  return items

/-- the entries of an inline table, after its brace -/
def inlineEntries (value : Reader Document) : Reader Entries := do
  let pairs ← separated (do
    let (path, name) ← splitKey (← key)
    char '='
    blanks
    let v ← value
    blanks
    return (path, name, v)) (char ',')
  blanks
  char '\x7d'
  match pairs.foldlM (fun entries (path, name, v) => Entries.write entries path name v) [] with
  | some entries => return entries
  | none => failure

/-- a value with at most so many levels of arrays and inline tables -/
def value : Nat → Reader Document
  | 0 => .text <$> text <|> scalar
  | depth + 1 =>
    (char '[' *> (.list <$> arrayItems (value depth))) <|>
      (char '\x7b' *> ((fun entries => .table (entryDocuments entries)) <$> inlineEntries (value depth))) <|>
      .text <$> text <|> scalar

/-- what a line says -/
inductive Statement where
  | nothing
  | pair (path : List String) (name : String) (value : Document)
  | table (path : List String) (name : String)
  | element (path : List String) (name : String)

/-- one line, or more if a value runs over lines -/
def statement : Reader Statement :=
  (comment *> (lineBreak <|> atEnd) *> pure .nothing) <|> (lineBreak *> pure .nothing) <|>
    (do
      word "[["
      let (path, name) ← splitKey (← key)
      word "]]"
      lineEnd
      return .element path name) <|>
    (do
      char '['
      let (path, name) ← splitKey (← key)
      char ']'
      lineEnd
      return .table path name) <|>
    (do
      let (path, name) ← splitKey (← key)
      char '='
      blanks
      let v ← value (depthLimit - 1)
      lineEnd
      return .pair path name v)

/-- all lines of a file, after a byte order mark if it has one -/
def statements : Reader (List Statement) := do
  let _ ← maybe (char '\ufeff')
  blanks
  let all ← many (statement <* blanks)
  atEnd
  return all

/-- the tree so far, and the header under which values are written -/
structure Building where
  root : Entries
  header : List String

/-- what a line does to the tree -/
def Building.step (b : Building) : Statement → Option Building
  | .nothing => some b
  | .pair path name value => do return { b with root := ← b.root.writeUnder b.header path name value }
  | .table path name => do return ⟨← b.root.openTable path name, path ++ [name]⟩
  | .element path name => do return ⟨← b.root.openElement path name, path ++ [name]⟩

/-- the data of a file, unless it is malformed -/
def read? (file : String) : Option Document := do
  let (lines, _) ← statements file.toList
  let built ← lines.foldlM Building.step ⟨[], []⟩
  return .table (entryDocuments built.root)

end EdgeCache.Toml
