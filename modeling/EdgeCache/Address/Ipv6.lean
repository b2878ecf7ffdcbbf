/-
IPv6 addresses: eight groups of sixteen bits, read with "::" for a run of zero groups and with an IPv4 address in
the place of the last two groups, written with the longest run of zero groups left out.
-/
import EdgeCache.Text.Decimal

namespace EdgeCache.Address

open EdgeCache.Text

/-- an IPv6 address, first group first -/
structure Ipv6 where
  groups : List Nat
deriving DecidableEq

namespace Ipv6

/-- hexadecimal digits, at most `limit` of them: their value, how many, and what follows -/
def hexRun (value count : Nat) : Nat → List Char → Nat × Nat × List Char
  | 0, cs => (value, count, cs)
  | _, [] => (value, count, [])
  | limit + 1, c :: cs =>
    match hexValue? c with
    | some d => hexRun (16 * value + d) (count + 1) limit cs
    | none => (value, count, c :: cs)

theorem hexRun_length (value count limit : Nat) (cs : List Char) :
    (hexRun value count limit cs).2.2.length ≤ cs.length := by
  induction cs generalizing value count limit with
  | nil => cases limit <;> simp [hexRun]
  | cons c cs ih =>
    cases limit with
    | zero => simp [hexRun]
    | succ n =>
      rw [hexRun]
      split
      · exact Nat.le_succ_of_le (ih ..)
      · simp

/-- an octet in decimal without leading zeros, and what follows -/
def octet? : List Char → Option (Nat × List Char)
  | [] => none
  | c :: cs =>
    let digits := (c :: cs).takeWhile Char.isDigit
    let value := digitsFrom 0 digits
    if digits = [] ∨ (digits.head? = some '0' ∧ digits.length > 1) ∨ value > 255 then none
    else some (value, (c :: cs).drop digits.length)

/-- four octets that end the text, as two groups -/
def octets? (cs : List Char) : Option (List Nat) := do
  let (a, r) ← octet? cs
  let (b, r) ← (match r with | '.' :: r => octet? r | _ => none)
  let (c, r) ← (match r with | '.' :: r => octet? r | _ => none)
  let (d, r) ← (match r with | '.' :: r => octet? r | _ => none)
  if r = [] then some [256 * a + b, 256 * c + d] else none

/-- groups read so far, and where a "::" was among them -/
structure Reading where
  groups : List Nat
  gap : Option Nat

/-- read groups to the end of the text. A "::" counts as one group of zero, after which the gap may grow. -/
def readGroups (st : Reading) (cs : List Char) : Option Reading :=
  match cs with
  | [] => some st
  | ':' :: r =>
    if st.groups.length = 8 ∨ st.gap.isSome then none
    else readGroups ⟨st.groups ++ [0], some (st.groups.length + 1)⟩ r
  | c :: r =>
    if st.groups.length = 8 then none
    else
      match h : hexRun 0 0 4 (c :: r) with
      | (value, _, []) => some { st with groups := st.groups ++ [value] }
      | (value, _, ':' :: d :: rest) =>
        have : rest.length < r.length := by
          have := hexRun_length 0 0 4 (c :: r)
          rw [h] at this
          simp only [List.length_cons] at this
          omega
        readGroups { st with groups := st.groups ++ [value] } (d :: rest)
      | (_, count, '.' :: _) =>
        if count = 0 ∨ st.groups.length > 6 then none
        else (octets? (c :: r)).map fun gs => { st with groups := st.groups ++ gs }
      | _ => none
termination_by cs.length

/-- the address that the groups around a gap make -/
def Reading.finish? (st : Reading) : Option Ipv6 :=
  match st.gap with
  | none => if st.groups.length = 8 then some ⟨st.groups⟩ else none
  | some i => some ⟨st.groups.take i ++ List.replicate (8 - st.groups.length) 0 ++ st.groups.drop i⟩

def read? (cs : List Char) : Option Ipv6 := do
  let st ←
    match cs with
    | ':' :: ':' :: r => readGroups ⟨[0], some 1⟩ r
    | ':' :: _ => none
    | [] => none
    | [_] => none
    | cs => readGroups ⟨[], none⟩ cs
  st.finish?

/-- length of the run of zeros in front -/
def zeros (gs : List Nat) : Nat := (gs.takeWhile (· = 0)).length

/-- the longest run of zero groups, the first of equals: where it starts and how long it is -/
def longestGap (at_ : Nat) : List Nat → Nat × Nat
  | [] => (at_, 0)
  | g :: gs =>
    let later := longestGap (at_ + 1) gs
    if zeros (g :: gs) ≥ later.2 then (at_, zeros (g :: gs)) else later

/-- groups in lower-case hexadecimal with colons between them -/
def groupText (gs : List Nat) : String := String.intercalate ":" (gs.map hex)

/-- the address with its longest run of at least two zero groups left out -/
def text (a : Ipv6) : String :=
  let (start, len) := longestGap 0 a.groups
  if len < 2 then groupText a.groups
  else groupText (a.groups.take start) ++ "::" ++ groupText (a.groups.drop (start + len))

end Ipv6

end EdgeCache.Address
