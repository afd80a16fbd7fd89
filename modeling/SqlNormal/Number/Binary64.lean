import SqlNormal.Number.Digits
import SqlNormal.Text.Ascii

/-!
# Binary floating point

The numbers of the 64-bit binary format, held by their bit pattern. All arithmetic is exact, on
natural numbers.

* `Binary64`, its fields and classes (`isFinite`, `isInfinite`, `isNaN`);
* `nearestBits`: the pattern of the number nearest to a quotient, a tie going to the even neighbour;
* `Binary64.read?`: the reader of decimal numerals, with the words for infinity and not-a-number;
* `shortest`: the fewest decimal digits that read back as the number, and of those the nearest;
* `scientificText`, `positionalText`: the two written forms.
-/

namespace SqlNormal

/-- A number of the 64-bit binary format. -/
structure Binary64 where
  bits : UInt64
deriving DecidableEq

namespace Binary64

/-- The biased exponent. -/
def exponentField (x : Binary64) : Nat :=
  x.bits.toNat / Nat.pow 2 52 % Nat.pow 2 11

/-- The fraction bits. -/
def fraction (x : Binary64) : Nat :=
  x.bits.toNat % Nat.pow 2 52

/-- The sign bit is set. -/
def negative (x : Binary64) : Bool :=
  x.bits.toNat / Nat.pow 2 63 == 1

/-- A finite number. -/
def isFinite (x : Binary64) : Bool :=
  x.exponentField != 2047

/-- An infinity. -/
def isInfinite (x : Binary64) : Bool :=
  x.exponentField == 2047 && x.fraction == 0

/-- Not a number. -/
def isNaN (x : Binary64) : Bool :=
  x.exponentField == 2047 && x.fraction != 0

/-- The pattern of positive infinity. -/
def infinityBits : Nat :=
  2047 * Nat.pow 2 52

/-- The number of a sign and the pattern of a magnitude. -/
def ofMagnitude (negative : Bool) (magnitude : Nat) : Binary64 :=
  ⟨UInt64.ofNat (magnitude + if negative then Nat.pow 2 63 else 0)⟩

/-- The exponent `e` with `2 ^ e ≤ num / den < 2 ^ (e + 1)`, for positive `num` and `den`. -/
def floorLog2 (num den : Nat) : Int :=
  let e : Int := (num.log2 : Int) - den.log2
  let below := if 0 ≤ e then num < den * Nat.pow 2 e.toNat else num * Nat.pow 2 (-e).toNat < den
  if below then e - 1 else e

/-- The quotient rounded to the nearest integer, a tie going to the even neighbour. -/
def roundEven (num den : Nat) : Nat :=
  let q := num / den
  let r := num % den
  if 2 * r > den ∨ (2 * r = den ∧ q % 2 = 1) then q + 1 else q

/-- The pattern of the magnitude nearest to `num / den`, for positive `den`. -/
def nearestBits (num den : Nat) : Nat :=
  if num = 0 then 0
  else
    let q := max (floorLog2 num den - 52) (-1074)
    let m :=
      if 0 ≤ q then roundEven num (den * Nat.pow 2 q.toNat)
      else roundEven (num * Nat.pow 2 (-q).toNat) den
    let pattern :=
      if m < Nat.pow 2 52 then m else (q + 1075).toNat * Nat.pow 2 52 + (m - Nat.pow 2 52)
    min pattern infinityBits

/-- The pattern of the magnitude nearest to `mantissa * 10 ^ exponent`. Magnitudes far outside the
range of the format are decided by their number of digits. -/
def nearestDecimal (mantissa : Nat) (exponent : Int) : Nat :=
  if mantissa = 0 then 0
  else
    let size := ((Number.digits mantissa).length : Int) + exponent
    if size > 310 then infinityBits
    else if size < -330 then 0
    else if 0 ≤ exponent then nearestBits (mantissa * Nat.pow 10 exponent.toNat) 1
    else nearestBits mantissa (Nat.pow 10 (-exponent).toNat)

/-- Reads an exponent: a sign is optional, a digit is not. -/
def readExponent? (cs : List Char) : Option Int :=
  match cs with
  | '-' :: rest => (Number.unsigned? rest).map fun n => -(n : Int)
  | '+' :: rest => (Number.unsigned? rest).map fun n => (n : Int)
  | _ => (Number.unsigned? cs).map fun n => (n : Int)

/-- Reads what stands behind a mantissa: nothing, or an exponent behind its letter. -/
def readScale? (cs : List Char) : Option Int :=
  match cs with
  | [] => some 0
  | c :: more => if c = 'e' ∨ c = 'E' then readExponent? more else none

/-- The digits behind a point, if there is one, and what follows. -/
def splitPoint (cs : List Char) : List Char × List Char :=
  match cs with
  | '.' :: more => (more.takeWhile Char.isDigit, more.dropWhile Char.isDigit)
  | _ => ([], cs)

/-- Reads an unsigned numeral: digits with at most one point, at least one digit, and an optional
exponent. -/
def readMagnitude? (cs : List Char) : Option Nat :=
  let whole := cs.takeWhile Char.isDigit
  let fraction := splitPoint (cs.dropWhile Char.isDigit)
  if whole = [] ∧ fraction.1 = [] then none
  else
    (readScale? fraction.2).map fun exponent =>
      nearestDecimal (Number.digitsValue (whole ++ fraction.1)) (exponent - fraction.1.length)

/-- Reads a number: an optional sign, then a numeral or a word for infinity or not-a-number. -/
def read? (cs : List Char) : Option Binary64 :=
  let (negative, rest) := match cs with
    | '-' :: rest => (true, rest)
    | '+' :: rest => (false, rest)
    | _ => (false, cs)
  match readMagnitude? rest with
  | some magnitude => some (ofMagnitude negative magnitude)
  | none =>
    let word := Text.lower (String.ofList rest)
    if word = "inf" ∨ word = "infinity" then some (ofMagnitude negative infinityBits)
    else if word = "nan" then some (ofMagnitude negative (infinityBits + Nat.pow 2 51))
    else none

/-- A finite number is `mantissa * 2 ^ exponent`, up to its sign. -/
def mantissaExponent (x : Binary64) : Nat × Int :=
  if x.exponentField = 0 then (x.fraction, -1074)
  else (Nat.pow 2 52 + x.fraction, (x.exponentField : Int) - 1075)

/-- Decimal digits, read as `0.d₁d₂… * 10 ^ point`. -/
structure Digits where
  digits : List Char
  point : Int

/-- The smallest `k` with `num / den < 10 ^ k`, for positive `num` and `den`. -/
def decimalSize (num den : Nat) : Int :=
  let k : Int := ((Number.digits num).length : Int) - (Number.digits den).length
  let below := if 0 ≤ k then num < den * Nat.pow 10 k.toNat else num * Nat.pow 10 (-k).toNat < den
  if below then k else k + 1

/-- The point of the grid of `n` digits that lies in the interval around `v`, the nearer one if two
do. Bounds and value count quarters of the last binary place, a quarter being `num / den`. -/
def gridPoint? (v low high : Nat) (inclusive : Bool) (num den : Nat) (k : Int) (n : Nat) :
    Option Nat :=
  let p := num * Nat.pow 10 ((n : Int) - k).toNat
  let q := den * Nat.pow 10 (k - (n : Int)).toNat
  let within (c : Nat) : Bool :=
    if inclusive then low * p ≤ c * q && c * q ≤ high * p else low * p < c * q && c * q < high * p
  let f := v * p / q
  match within f, within (f + 1) with
  | true, true => some (if 2 * (v * p) < (2 * f + 1) * q then f else f + 1)
  | true, false => some f
  | false, true => some (f + 1)
  | false, false => none

/-- The first of the grids of 1 to 17 digits with a point in the interval decides. -/
def shortestFrom (v low high : Nat) (inclusive : Bool) (num den : Nat) (k : Int) : Nat × Nat :=
  ((List.range 17).findSome? fun i =>
    (gridPoint? v low high inclusive num den k (i + 1)).map (·, i + 1)).getD (0, 1)

/-- The shortest decimal that reads back as a finite number other than zero. -/
def shortest (x : Binary64) : Digits :=
  let (m, q) := x.mantissaExponent
  let num := Nat.pow 2 (q - 2).toNat
  let den := Nat.pow 2 (2 - q).toNat
  let low := if x.fraction = 0 ∧ x.exponentField > 1 then 4 * m - 1 else 4 * m - 2
  let k := decimalSize (4 * m * num) den
  let (c, n) := shortestFrom (4 * m) low (4 * m + 2) (m % 2 == 0) num den k
  let ds := Number.digits c
  let kept := (ds.reverse.dropWhile (· == '0')).reverse
  ⟨kept, k + ((ds.length : Int) - n)⟩

/-- Writes the sign, and the words for what is not finite. -/
def textWith (zero : List Char) (finite : Digits → List Char) (x : Binary64) : List Char :=
  if x.isNaN then "NaN".toList
  else
    let magnitude :=
      if x.isInfinite then "inf".toList
      else if x.mantissaExponent.1 = 0 then zero
      else finite x.shortest
    if x.negative then '-' :: magnitude else magnitude

/-- Scientific form: one digit before the point, an exponent always. -/
def Digits.scientific (d : Digits) : List Char :=
  let mantissa := match d.digits with
    | [] => ['0']
    | [c] => [c]
    | c :: cs => c :: '.' :: cs
  mantissa ++ 'e' :: Number.signedDigits (d.point - 1)

/-- Positional form: no exponent, and no point in an integer. -/
def Digits.positional (d : Digits) : List Char :=
  let n : Int := d.digits.length
  if d.point ≤ 0 then '0' :: '.' :: List.replicate (-d.point).toNat '0' ++ d.digits
  else if n ≤ d.point then d.digits ++ List.replicate (d.point - n).toNat '0'
  else d.digits.take d.point.toNat ++ '.' :: d.digits.drop d.point.toNat

/-- The number in scientific form: `1.5e10`, `1e-7`, `0e0`. -/
def scientificText (x : Binary64) : List Char :=
  textWith "0e0".toList Digits.scientific x

/-- The number in positional form: `15000000000`, `0.0000001`, `0`. -/
def positionalText (x : Binary64) : List Char :=
  textWith ['0'] Digits.positional x

end Binary64

end SqlNormal
