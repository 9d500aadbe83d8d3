import TeamPresence.Number.Binary64
import TeamPresence.Number.Numeral

/-!
# Decimal numbers

Reading a decimal takes the margins, signs, digits and low lines of whole numbers, and also a point,
a power of ten, infinities and not-a-number in any case. The result is the nearest floating-point
number.
-/

namespace TeamPresence.Decimal

/-- A decimal without margins, sign and low lines: digits with at most one point, then at most one
power of ten. -/
def magnitude? (negative : Bool) (cs : List Char) : Option Binary64 :=
  let whole := cs.takeWhile Char.isDigit
  let afterWhole := cs.dropWhile Char.isDigit
  let (fraction, power) := match afterWhole with
    | '.' :: rest => (rest.takeWhile Char.isDigit, rest.dropWhile Char.isDigit)
    | rest => ([], rest)
  let digits := whole ++ fraction
  if digits.isEmpty then none
  else
    let number (e : Int) := Binary64.ofDecimal negative (Numeral.value digits) (e - fraction.length)
    match power with
    | [] => some (number 0)
    | mark :: rest =>
      if mark == 'e' || mark == 'E' then
        let (down, places) := Numeral.takeSign rest
        if places.isEmpty || !places.all Char.isDigit then none
        else
          let n := Numeral.value places
          some (number (if down then -n else n))
      else none

/-- An infinity or not-a-number in words. -/
def word? (negative : Bool) (cs : List Char) : Option Binary64 :=
  let w := String.ofList (cs.map Char.toLower)
  if w = "inf" ∨ w = "infinity" then some (.infinite negative)
  else if w = "nan" then some .nan
  else none

/-- Reads a decimal number. -/
def read? (s : String) : Option Binary64 :=
  let body := Text.dropEnds Numeral.isMargin (s.toList.map Numeral.fold)
  if body.contains '_' && !Numeral.isGrouped false body then none
  else
    let (negative, unsigned) := Numeral.takeSign (body.filter fun c => c != '_')
    (word? negative unsigned).or (magnitude? negative unsigned)

end TeamPresence.Decimal
