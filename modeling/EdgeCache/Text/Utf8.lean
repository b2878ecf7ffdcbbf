/-
Octets as text. What is not UTF-8 is shown as a replacement character, one for each longest beginning of a character.
-/
namespace EdgeCache.Text.Utf8

/-- ranges that the octets behind a first octet must be in -/
def tail? (first : Nat) : Option (List (Nat × Nat)) :=
  let any := (0x80, 0xBF)
  if first < 0x80 then some []
  else if 0xC2 ≤ first ∧ first ≤ 0xDF then some [any]
  else if first = 0xE0 then some [(0xA0, 0xBF), any]
  else if first = 0xED then some [(0x80, 0x9F), any]
  else if 0xE1 ≤ first ∧ first ≤ 0xEF then some [any, any]
  else if first = 0xF0 then some [(0x90, 0xBF), any, any]
  else if first = 0xF4 then some [(0x80, 0x8F), any, any]
  else if 0xF1 ≤ first ∧ first ≤ 0xF3 then some [any, any, any]
  else none

/-- bits of a first octet, when `n` octets follow it -/
def leadBits (first n : Nat) : Nat :=
  match n with
  | 0 => first
  | 1 => first % 32
  | 2 => first % 16
  | _ => first % 8

/-- take octets while they are in their ranges: the bits, whether all fit, and what follows -/
def takeTail (bits : Nat) : List (Nat × Nat) → List UInt8 → Nat × Bool × List UInt8
  | [], os => (bits, true, os)
  | _, [] => (bits, false, [])
  | (lo, hi) :: ranges, o :: os =>
    if lo ≤ o.toNat ∧ o.toNat ≤ hi then takeTail (64 * bits + o.toNat % 64) ranges os else (bits, false, o :: os)

theorem takeTail_length (bits : Nat) (ranges : List (Nat × Nat)) (os : List UInt8) :
    (takeTail bits ranges os).2.2.length ≤ os.length := by
  induction ranges generalizing bits os with
  | nil => simp [takeTail]
  | cons r ranges ih =>
    cases os with
    | nil => simp [takeTail]
    | cons o os =>
      rw [takeTail]
      split
      · exact Nat.le_succ_of_le (ih ..)
      · simp

def decode : List UInt8 → List Char
  | [] => []
  | o :: os =>
    match tail? o.toNat with
    | none => '\ufffd' :: decode os
    | some ranges =>
      match h : takeTail (leadBits o.toNat ranges.length) ranges os with
      | (bits, whole, rest) =>
        have : rest.length ≤ os.length := by
          have := takeTail_length (leadBits o.toNat ranges.length) ranges os
          rw [h] at this
          exact this
        (if whole then Char.ofNat bits else '\ufffd') :: decode rest
termination_by os => os.length

def text (b : ByteArray) : String :=
  match String.fromUTF8? b with
  | some s => s
  | none => String.ofList (decode b.data.toList)

end EdgeCache.Text.Utf8
