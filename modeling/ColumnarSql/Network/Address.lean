/-
Module: ColumnarSql.Network.Address
Purpose: Recognizing Internet addresses and UUIDs in text.
Main exports:
  isIPv4, isIPv6, isUuid
-/
import ColumnarSql.Text.Blank
import ColumnarSql.Text.Hexadecimal
import ColumnarSql.Text.Number

namespace ColumnarSql.Network

open Text

/-- Read one part of an IPv4 address: one to three digits, at most 255, with no
zero in front of another digit. -/
def takeOctet (s : List Char) : Option (List Char) :=
  let digits := s.takeWhile Char.isDigit
  let leadingZero := digits.head? == some '0' && 1 < digits.length
  if digits.isEmpty || 3 < digits.length || leadingZero || 255 < digitsValue digits then none
  else some (s.dropWhile Char.isDigit)

/-- Expect a given character. -/
def takeChar (mark : Char) : List Char → Option (List Char)
  | c :: rest => if c == mark then some rest else none
  | [] => none

/-- Read an IPv4 address at the start of a text. -/
def takeIPv4 (s : List Char) : Option (List Char) := do
  let s ← takeOctet s
  let s ← takeChar '.' s
  let s ← takeOctet s
  let s ← takeChar '.' s
  let s ← takeOctet s
  let s ← takeChar '.' s
  takeOctet s

/-- Four decimal parts with points between them. -/
def isIPv4 (s : List Char) : Bool :=
  takeIPv4 s == some []

/-- Read one group of an IPv6 address: one to four hexadecimal digits. -/
def takeGroup (s : List Char) : Option (List Char) :=
  let digits := s.takeWhile isHexDigit
  if digits.isEmpty || 4 < digits.length then none else some (s.dropWhile isHexDigit)

/-- What a run of groups covers: how many of the eight groups, whether it ended
with an IPv4 address in place of two of them, and what follows. -/
structure Groups where
  count : Nat
  endsInIPv4 : Bool
  rest : List Char
deriving Repr, Inhabited, DecidableEq

/-- Step over the colon that stands between groups; the first group has none
before it. -/
def afterColon (isFirst : Bool) (s : List Char) : Option (List Char) :=
  if isFirst then some s else takeChar ':' s

/-- Read groups with colons between them, at most `room` more after the `count`
read already.  Where two groups would fit, an IPv4 address may end the run. -/
def takeGroups (count : Nat) (s : List Char) : (room : Nat) → Groups
  | 0 => ⟨count, false, s⟩
  | room + 1 =>
      match (if 1 ≤ room then (afterColon (count == 0) s).bind takeIPv4 else none) with
      | some rest => ⟨count + 2, true, rest⟩
      | none =>
          match (afterColon (count == 0) s).bind takeGroup with
          | some rest => takeGroups (count + 1) rest room
          | none => ⟨count, false, s⟩

/-- Eight groups, or fewer with one `::` that stands for at least one group of
zeros.  An IPv4 address may stand for the last two groups. -/
def isIPv6 (s : List Char) : Bool :=
  let head := takeGroups 0 s 8
  if head.count == 8 then
    head.rest.isEmpty
  else if head.endsInIPv4 then
    false
  else
    match head.rest with
    | ':' :: ':' :: rest => (takeGroups 0 rest (7 - head.count)).rest.isEmpty
    | _ => false

/-- Five groups of 8, 4, 4, 4 and 12 hexadecimal digits with hyphens between
them. -/
def isUuid (s : List Char) : Bool :=
  let groups := splitAtChar '-' s
  groups.map List.length == [8, 4, 4, 4, 12] && groups.all (·.all isHexDigit)

end ColumnarSql.Network
