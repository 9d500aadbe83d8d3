import TeamPresence.Text.CharSet

/-!
# Numerals

Whole numbers are read in decimal: white space around them, one sign in front, digits of any
script, and single low lines between digits. `Numeral.integer` says of every other text why it is
refused.
-/

namespace TeamPresence.Numeral

/-- Why a text is no whole number. -/
inductive Refusal
  | tooLong (digits : Nat)
  | malformed
deriving Repr, DecidableEq

/-- The longest numeral that is read, in digits. -/
def maxDigits : Nat := 4300

/-- A character as a numeral sees it: a digit of any script is the ASCII digit, white space outside
ASCII is a space, and any other character outside ASCII matches nothing. -/
def fold (c : Char) : Char :=
  if c.toNat < 127 then c
  else if Text.isBlank c then ' '
  else match Text.digitValue? c with
    | some d => Char.ofNat (0x30 + d)
    | none => '?'

/-- The white space that may surround a numeral, after folding. -/
def isMargin (c : Char) : Bool := c == ' ' || (0x9 ≤ c.toNat && c.toNat ≤ 0xd)

/-- A sign at the front of a text, and the rest. -/
def takeSign : List Char → Bool × List Char
  | '-' :: rest => (true, rest)
  | '+' :: rest => (false, rest)
  | cs => (false, cs)

/-- Every low line stands between two digits; `before` tells whether a digit went before. -/
def isGrouped (before : Bool) : List Char → Bool
  | [] => true
  | '_' :: c :: rest => before && c.isDigit && isGrouped true rest
  | ['_'] => false
  | c :: rest => isGrouped c.isDigit rest

def value (digits : List Char) : Nat :=
  digits.foldl (fun n c => 10 * n + (c.toNat - 0x30)) 0

def integer (s : String) : Except Refusal Int :=
  let signed := (s.toList.map fold).dropWhile isMargin
  let (negative, unsigned) := takeSign signed
  let run := unsigned.takeWhile fun c => c.isDigit || c == '_'
  let after := unsigned.dropWhile fun c => c.isDigit || c == '_'
  let digits := run.filter Char.isDigit
  if run.isEmpty || !isGrouped false run then .error .malformed
  else if maxDigits < digits.length then .error (.tooLong digits.length)
  else if !(after.dropWhile isMargin).isEmpty then .error .malformed
  else .ok (if negative then -value digits else value digits)

end TeamPresence.Numeral
