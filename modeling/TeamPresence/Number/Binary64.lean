/-!
# Binary floating-point numbers of 64 bits

A finite number is a mantissa below `2 ^ 53` times a power of two that is at least `2 ^ -1074`.
`Binary64.ofRatio` is the number nearest to a ratio, where a tie goes to the even mantissa and what
is too large becomes infinite. `Binary64.nearest` is the value of that number.
-/

namespace TeamPresence

/-- A floating-point number. -/
inductive Binary64
  /-- The mantissa times two to the exponent. -/
  | finite (negative : Bool) (mantissa : Nat) (exponent : Int)
  | infinite (negative : Bool)
  | nan
deriving Repr, DecidableEq

namespace Binary64

def minExponent : Int := -1074

def maxExponent : Int := 971

/-- The least mantissa of 53 bits, `2 ^ 52`. Every smaller one belongs to the least exponent. -/
def leastFull : Nat := 0x10000000000000

/-- `num / den` rounded to a whole number, a half to the even neighbour. -/
def roundRatio (num den : Nat) : Nat :=
  let q := num / den
  let twice := 2 * (num % den)
  if twice < den then q
  else if den < twice then q + 1
  else q + q % 2

/-- The ratio divided by a power of two, as a ratio. -/
def scale (num den : Nat) (exponent : Int) : Nat × Nat :=
  if exponent < 0 then (num <<< (-exponent).toNat, den) else (num, den <<< exponent.toNat)

/-- The exponent `e` with `2 ^ e ≤ num / den < 2 ^ (e + 1)`, for a positive ratio. -/
def magnitude (num den : Nat) : Int :=
  let e : Int := (Nat.log2 num : Int) - (Nat.log2 den : Int)
  let scaled := scale num den e
  if scaled.1 < scaled.2 then e - 1 else e

/-- The number with a mantissa of at most `2 ^ 53` and an exponent, or an infinity. -/
def ofParts (negative : Bool) (mantissa : Nat) (exponent : Int) : Binary64 :=
  let carried := mantissa = 2 * leastFull
  let m := if carried then leastFull else mantissa
  let e := if carried then exponent + 1 else exponent
  if maxExponent < e then .infinite negative else .finite negative m e

/-- The number nearest to a ratio with a positive denominator. -/
def ofRatio (negative : Bool) (num den : Nat) : Binary64 :=
  if num = 0 then .finite negative 0 minExponent
  else
    let wanted := magnitude num den - 52
    let e := if wanted < minExponent then minExponent else wanted
    let scaled := scale num den e
    ofParts negative (roundRatio scaled.1 scaled.2) e

/-- The number nearest to a decimal, `digits` times ten to the exponent. -/
def ofDecimal (negative : Bool) (digits : Nat) (exponent : Int) : Binary64 :=
  let order : Int := (Nat.toDigits 10 digits).length + exponent
  if digits = 0 ∨ order < -400 then .finite negative 0 minExponent
  else if 400 < order then .infinite negative
  else if exponent < 0 then ofRatio negative digits (Nat.pow 10 (-exponent).toNat)
  else ofRatio negative (digits * Nat.pow 10 exponent.toNat) 1

def one : Binary64 := .finite false leastFull (-52)

/-- Zero or less; false of what is not a number. -/
def isNonpositive : Binary64 → Bool
  | .finite negative m _ => negative || m == 0
  | .infinite negative => negative
  | .nan => false

/-- The exact value of a finite number. -/
def toRat? : Binary64 → Option Rat
  | .finite negative m e =>
    let v : Rat := (m : Rat) * (2 : Rat) ^ e
    some (if negative then -v else v)
  | _ => none

/-- A rational rounded to the value of the nearest number. What is too large for one stays. -/
def nearest (q : Rat) : Rat := (ofRatio (q < 0) q.num.natAbs q.den).toRat?.getD q

def signBit (negative : Bool) : Nat := if negative then 1 <<< 63 else 0

/-- The interchange format: sign, biased exponent and mantissa without its leading bit. -/
def toBits : Binary64 → Nat
  | .finite negative m e =>
    if m < leastFull then signBit negative + m
    else signBit negative + (e + 1075).toNat * leastFull + (m - leastFull)
  | .infinite negative => signBit negative + 2047 * leastFull
  | .nan => 2047 * leastFull + leastFull / 2

end Binary64

end TeamPresence
