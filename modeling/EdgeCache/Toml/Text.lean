/-
Texts and keys. A text stands between quotes: double quotes allow escapes, single quotes take every character as it
is, and three quotes of either kind let the text run over lines.
-/
import EdgeCache.Toml.Reader

namespace EdgeCache.Toml

open EdgeCache.Text

/-- a code point from a given number of hexadecimal digits -/
def codePoint (count : Nat) : Reader Char := fun cs => do
  let digits ← (cs.take count).mapM hexValue?
  let n := digits.foldl (fun n d => 16 * n + d) 0
  if digits.length = count ∧ n.isValidChar then some (Char.ofNat n, cs.drop count) else none

/-- an escape, after its backslash -/
def escape : Reader Char := do
  match ← charWhere fun _ => true with
  | 'b' => return '\x08'
  | 't' => return '\t'
  | 'n' => return '\n'
  | 'f' => return '\x0c'
  | 'r' => return '\r'
  | '"' => return '"'
  | '\\' => return '\\'
  | 'u' => codePoint 4
  | 'U' => codePoint 8
  | _ => failure

/-- a character between double quotes -/
def escapable : Reader Char :=
  charWhere (fun c => isShown c && c != '"' && c != '\\') <|> (char '\\' *> escape)

def basicText : Reader (List Char) := do
  char '"'
  let cs ← many escapable
  char '"'
  return cs

def literalText : Reader (List Char) := do
  char '\''
  let cs ← charsWhere fun c => isShown c && c != '\''
  char '\''
  return cs

/-- one or two quotes that do not end a text of several lines -/
def innerQuotes (quote : Char) : Reader (List Char) := fun cs =>
  let run := cs.takeWhile (· == quote)
  let rest := cs.drop run.length
  if (run.length = 1 ∨ run.length = 2) ∧ rest ≠ [] then some (run, rest) else none

/-- the three quotes that end a text of several lines, after at most two that belong to it -/
def closingQuotes (quote : Char) : Reader (List Char) := fun cs =>
  let run := cs.takeWhile (· == quote)
  if 3 ≤ run.length ∧ run.length ≤ 5 then some (run.drop 3, cs.drop run.length) else none

/-- a text of several lines, given what it may hold besides quotes. A line end right after the opening quotes does
not count. -/
def longText (quote : Char) (piece : Reader (List Char)) : Reader (List Char) := do
  char quote
  char quote
  char quote
  let _ ← maybe lineBreak
  let pieces ← many (piece <|> innerQuotes quote)
  let last ← closingQuotes quote
  return pieces.flatten ++ last

/-- a line end, which reads as a line feed -/
def lineFeed : Reader (List Char) := lineBreak *> pure ['\n']

/-- a backslash at the end of a line, with all the blank space after it -/
def joinedLines : Reader (List Char) := do
  char '\\'
  blanks
  lineBreak
  let _ ← many ((do let _ ← charWhere fun c => c == ' ' || c == '\t') <|> lineBreak)
  return []

/-- a text between three double quotes -/
def longBasicText : Reader (List Char) :=
  longText '"' (lineFeed <|> joinedLines <|> (do return [← escapable]))

/-- a text between three single quotes -/
def longLiteralText : Reader (List Char) :=
  longText '\'' (lineFeed <|> (do return [← charWhere fun c => isShown c && c != '\'']))

def text : Reader String := do
  return String.ofList (← longBasicText <|> basicText <|> longLiteralText <|> literalText)

/-- one part of a key: between quotes, or letters, digits, underscores and hyphens -/
def keyPart : Reader String := do
  let isBare := fun c : Char => c.isAlphanum || c == '_' || c == '-'
  let cs ← basicText <|> literalText <|> (do return (← charWhere isBare) :: (← charsWhere isBare))
  return String.ofList cs

/-- how many parts a key has less than, and how many levels values nest less than -/
def depthLimit : Nat := 80

/-- a key: parts with dots between them -/
def key : Reader (List String) := do
  let parts ← separated (blanks *> keyPart <* blanks) (char '.')
  if parts ≠ [] ∧ parts.length < depthLimit then return parts else failure

end EdgeCache.Toml
