/-
Decimal numbers and ASCII case. `digits? cs` reads a text that is all ASCII digits; `count?` is the same with a
leading plus sign allowed and a bound of 64 bits, the form in which counts appear in header fields.
-/
namespace EdgeCache.Text

/-- the text with ASCII capitals made small; other characters stay -/
def lower (s : String) : String := s.map Char.toLower

theorem toLower_toLower (c : Char) : c.toLower.toLower = c.toLower := by
  by_cases h : c.val ≥ 'A'.val ∧ c.val ≤ 'Z'.val
  · have hval : c.toLower.val = c.val + 32 := congrArg Char.val (dif_pos h)
    have hsmall : ¬(c.toLower.val ≥ 'A'.val ∧ c.toLower.val ≤ 'Z'.val) := by
      have hA : 'A'.val.toNat = 65 := rfl
      have hZ : 'Z'.val.toNat = 90 := rfl
      rw [hval]
      simp only [UInt32.le_iff_toNat_le, ge_iff_le, UInt32.toNat_add, UInt32.reduceToNat] at h ⊢
      omega
    exact dif_neg hsmall
  · have hsame : c.toLower = c := dif_neg h
    rw [hsame, hsame]

/-- small letters stay -/
@[simp] theorem lower_lower (s : String) : lower (lower s) = lower s := by
  unfold lower
  rw [String.map_map, show Char.toLower ∘ Char.toLower = Char.toLower from funext toLower_toLower]

/-- equal up to ASCII case -/
def sameWord (a b : String) : Bool := lower a == lower b

def digitValue (c : Char) : Nat := c.toNat - '0'.toNat

/-- the number that a run of digits writes, after the digits already read -/
def digitsFrom (n : Nat) (cs : List Char) : Nat := cs.foldl (fun n c => 10 * n + digitValue c) n

/-- the number written by a text of ASCII digits -/
def digits? (cs : List Char) : Option Nat :=
  if cs ≠ [] ∧ cs.all Char.isDigit then some (digitsFrom 0 cs) else none

/-- one more than the largest 64-bit count -/
def countLimit : Nat := 0x10000000000000000

/-- a 64-bit count: digits, after at most one plus sign -/
def count? (cs : List Char) : Option Nat :=
  (digits? (match cs with | '+' :: r => r | _ => cs)).filter (· < countLimit)

/-- a number below the base 16, from its digit -/
def hexValue? (c : Char) : Option Nat :=
  if c.isDigit then some (digitValue c)
  else if 'a' ≤ c ∧ c ≤ 'f' then some (c.toNat - 'a'.toNat + 10)
  else if 'A' ≤ c ∧ c ≤ 'F' then some (c.toNat - 'A'.toNat + 10)
  else none

/-- lower-case hexadecimal digits of a number, no leading zeros -/
def hex (n : Nat) : String := String.ofList (Nat.toDigits 16 n)

def hexByte (n : Nat) : String := String.ofList [Nat.digitChar (n / 16), Nat.digitChar (n % 16)]

end EdgeCache.Text
