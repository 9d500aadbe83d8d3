import TeamPresence.Number.Binary64

/-!
# Shortest decimal text

A floating-point number is written with the fewest digits that read back as the same number, and of
those with the ones nearest to it. Positional notation is kept for decimal exponents from -4 to 15,
and always shows a point.
-/

namespace TeamPresence.Binary64

def decimalLength (n : Nat) : Nat := (Nat.toDigits 10 n).length

def scaleTen (num den : Nat) (exponent : Int) : Nat × Nat :=
  if exponent < 0 then (num * Nat.pow 10 (-exponent).toNat, den)
  else (num, den * Nat.pow 10 exponent.toNat)

/-- The exponent `e` with `10 ^ e ≤ num / den < 10 ^ (e + 1)`, for a positive ratio. -/
def order (num den : Nat) : Int :=
  let e : Int := (decimalLength num : Int) - (decimalLength den : Int)
  let scaled := scaleTen num den e
  if scaled.1 < scaled.2 then e - 1 else e

/-- The numbers between which all reals round to `m * 2 ^ e`, as multiples of `2 ^ (e - 2)`. The
lower gap is half as wide at the foot of a range of exponents. -/
def roundingEnds (m : Nat) (e : Int) : Nat × Nat :=
  (if m = leastFull ∧ minExponent < e then 4 * m - 1 else 4 * m - 2, 4 * m + 2)

/-- The decimal with the given count of digits that reads back as `m * 2 ^ e` and is nearest to it,
as digits and a power of ten. -/
def onGrid? (m : Nat) (e : Int) (count : Nat) : Option (Nat × Int) :=
  let (lo, hi) := roundingEnds m e
  let (num, den) := scale (4 * m) 1 (2 - e)
  let unit := order num den - (count - 1 : Int)
  let (n, d) := scaleTen num den unit
  -- A point `k` of the grid stands for `k * d` where the number itself is `n`.
  let below := n / d
  let isInside (k : Nat) : Bool :=
    let point := k * d * (4 * m)
    if m % 2 = 0 then lo * n ≤ point && point ≤ hi * n else lo * n < point && point < hi * n
  match [below, below + 1].filter isInside with
  | [] => none
  | [k] => some (k, unit)
  | _ => some (roundRatio n d, unit)

/-- The fewest digits that read back as `m * 2 ^ e`, and their power of ten. -/
def shortest (m : Nat) (e : Int) : Nat × Int :=
  ((List.range 17).findSome? fun i => onGrid? m e (i + 1)).getD (m, e)

/-- Decimal digits without the zeros at the end, and the power of ten that makes up for them. -/
def trimmedDigits (n : Nat) (exponent : Int) : List Char × Int :=
  let digits := Nat.toDigits 10 n
  let kept := (digits.reverse.dropWhile (· == '0')).reverse
  (kept, exponent + (digits.length - kept.length : Int))

/-- Digits times a power of ten, in positional notation or with a power of ten written out. -/
def layout (digits : List Char) (exponent : Int) : List Char :=
  let point : Int := digits.length + exponent
  if -4 < point ∧ point ≤ 16 then
    if point ≤ 0 then ['0', '.'] ++ List.replicate (-point).toNat '0' ++ digits
    else
      let whole := digits.take point.toNat
      let fraction := digits.drop point.toNat
      whole ++ List.replicate (point.toNat - whole.length) '0' ++ ['.'] ++
        (if fraction.isEmpty then ['0'] else fraction)
  else
    let power := point - 1
    let places := Nat.toDigits 10 power.natAbs
    digits.take 1 ++ (if digits.length = 1 then [] else '.' :: digits.drop 1) ++
      ['e', if power < 0 then '-' else '+'] ++ List.replicate (2 - places.length) '0' ++ places

def text : Binary64 → String
  | .finite negative m e =>
    let body :=
      if m = 0 then ['0', '.', '0']
      else
        let (n, p) := shortest m e
        let (digits, p) := trimmedDigits n p
        layout digits p
    String.ofList (if negative then '-' :: body else body)
  | .infinite negative => if negative then "-inf" else "inf"
  | .nan => "nan"

end TeamPresence.Binary64
