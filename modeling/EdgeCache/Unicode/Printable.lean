/-
Which characters a quoted text shows as they are.
-/
import EdgeCache.Unicode.Table
import EdgeCache.Unicode.UnprintableData

namespace EdgeCache.Unicode

/-- run lengths of printable and unprintable characters -/
def unprintableRuns : List Nat := runLengths unprintableData

/-- the character can be shown by itself -/
def isPrintable (c : Char) : Bool :=
  if c.toNat < 0x80 then 0x20 ≤ c.toNat && c.toNat < 0x7F else !inRuns c.toNat unprintableRuns

end EdgeCache.Unicode
