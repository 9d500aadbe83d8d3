import TeamPresence.Bytes

/-!
# Hexadecimal

Numbers in lower-case hexadecimal with a least count of digits, and bytes as two digits each.
-/

namespace TeamPresence.Text

/-- A number in lower-case hexadecimal with at least the given count of digits. -/
def hexDigits (width n : Nat) : List Char :=
  let digits := Nat.toDigits 16 n
  List.replicate (width - digits.length) '0' ++ digits

/-- Bytes as two digits each. -/
def hexOfBytes (b : Bytes) : String := String.ofList (b.flatMap fun x => hexDigits 2 x.toNat)

/-- The value of a hexadecimal digit. -/
def hexValue? (c : Char) : Option Nat :=
  if c.isDigit then some (c.toNat - 0x30)
  else if 'a' ≤ c ∧ c ≤ 'f' then some (c.toNat - 0x57)
  else none

/-- The bytes that pairs of digits stand for. -/
def bytesOfHex? : List Char → Option Bytes
  | [] => some []
  | hi :: lo :: rest => do
    let h ← hexValue? hi
    let l ← hexValue? lo
    let bytes ← bytesOfHex? rest
    return UInt8.ofNat (16 * h + l) :: bytes
  | [_] => none

end TeamPresence.Text
