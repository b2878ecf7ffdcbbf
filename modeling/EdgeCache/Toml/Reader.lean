/-
Readers of text: a reader takes what it reads from the front of the characters and leaves the rest, or fails. What
several parts of the format share is here: repetition, blanks, comments and line ends.
-/
import EdgeCache.Text.Decimal

namespace EdgeCache.Toml

/-- takes from the front of the characters what it reads, or fails -/
abbrev Reader (α : Type) := StateT (List Char) Option α

def charWhere (test : Char → Bool) : Reader Char
  | c :: cs => if test c then some (c, cs) else none
  | [] => none

def char (c : Char) : Reader Unit := do let _ ← charWhere (· == c)

/-- given characters -/
def word (w : String) : Reader Unit := w.toList.forM char

/-- the characters that pass a test, as far as they go -/
def charsWhere (test : Char → Bool) : Reader (List Char) := fun cs => some (cs.span test)

/-- something or nothing -/
def maybe {α : Type} (r : Reader α) : Reader (Option α) := some <$> r <|> pure none

/-- the same thing again and again, at most `limit` times -/
def upTo {α : Type} (r : Reader α) : Nat → Reader (List α)
  | 0 => pure []
  | limit + 1 =>
    (do
      let a ← r
      let rest ← upTo r limit
      return a :: rest) <|> pure []

/-- the same thing, which takes at least one character, as often as it is there -/
def many {α : Type} (r : Reader α) : Reader (List α) := fun cs => upTo r cs.length cs

/-- things with a separator between neighbours, possibly none -/
def separated {α : Type} (r : Reader α) (separator : Reader Unit) : Reader (List α) :=
  (do
    let a ← r
    let rest ← many (separator *> r)
    return a :: rest) <|> pure []

/-- the characters that a reader takes -/
def written {α : Type} (r : Reader α) : Reader String := fun cs => do
  let (_, rest) ← r cs
  return (String.ofList (cs.take (cs.length - rest.length)), rest)

/-- nothing is left -/
def atEnd : Reader Unit
  | [] => some ((), [])
  | _ => none

/-- a character other than controls; tab is none of them here -/
def isShown (c : Char) : Bool := c == '\t' || (0x20 ≤ c.toNat && c.toNat ≠ 0x7F)

/-- blanks within a line -/
def blanks : Reader Unit := do let _ ← charsWhere fun c => c == ' ' || c == '\t'

/-- the end of a line, with or without a carriage return -/
def lineBreak : Reader Unit := char '\n' <|> word "\r\n"

/-- a comment, up to the end of its line -/
def comment : Reader Unit := do
  char '#'
  let _ ← charsWhere isShown

/-- blanks, comments and line ends -/
def blankLines : Reader Unit := do
  blanks
  let _ ← many do
    lineBreak <|> (comment *> lineBreak)
    blanks

def lineEnd : Reader Unit := do
  blanks
  let _ ← maybe comment
  lineBreak <|> atEnd

end EdgeCache.Toml
