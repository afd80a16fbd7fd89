/-!
# Decimal digits

Numbers as they are written: digits with an optional sign, and nothing else.

* `digitValue?`, `digitsValue`: the value of a digit and of a list of digits;
* `digits`: the digits of a number, without leading zeros;
* `natural?`, `integer?`: the readers of unsigned and signed integers.
-/

namespace SqlNormal.Number

/-- The value of a decimal digit. -/
def digitValue? (c : Char) : Option Nat :=
  if c.isDigit then some (c.toNat - '0'.toNat) else none

/-- The value of a hexadecimal digit. -/
def hexValue? (c : Char) : Option Nat :=
  if c.isDigit then some (c.toNat - '0'.toNat)
  else if 'a' ≤ c ∧ c ≤ 'f' then some (c.toNat - 'a'.toNat + 10)
  else if 'A' ≤ c ∧ c ≤ 'F' then some (c.toNat - 'A'.toNat + 10)
  else none

/-- The number that decimal digits denote; any other character counts as zero. -/
def digitsValue (cs : List Char) : Nat :=
  cs.foldl (fun n c => 10 * n + (digitValue? c).getD 0) 0

/-- The character of a digit below ten. -/
def digitChar (d : Nat) : Char :=
  Char.ofNat ('0'.toNat + d)

/-- The decimal digits of a number, without leading zeros. -/
def digits (n : Nat) : List Char :=
  if n < 10 then [digitChar n] else digits (n / 10) ++ [digitChar (n % 10)]

/-- The decimal digits of a number, with zeros in front up to `width`. -/
def paddedDigits (width n : Nat) : List Char :=
  let ds := digits n
  List.replicate (width - ds.length) '0' ++ ds

/-- The digits of an integer, after a minus sign if it is negative. -/
def signedDigits (i : Int) : List Char :=
  if i < 0 then '-' :: digits i.natAbs else digits i.natAbs

/-- One or more decimal digits and nothing else. -/
def unsigned? (cs : List Char) : Option Nat :=
  if cs ≠ [] ∧ cs.all Char.isDigit then some (digitsValue cs) else none

/-- An unsigned integer: an optional plus sign and at least one digit. -/
def natural? (s : String) : Option Nat :=
  match s.toList with
  | '+' :: rest => unsigned? rest
  | cs => unsigned? cs

/-- An unsigned integer below a bound. -/
def naturalBelow? (bound : Nat) (s : String) : Option Nat :=
  (natural? s).filter (· < bound)

/-- A signed integer: an optional sign and at least one digit. -/
def integer? (s : String) : Option Int :=
  match s.toList with
  | '-' :: rest => (unsigned? rest).map fun n => -(n : Int)
  | '+' :: rest => (unsigned? rest).map fun n => (n : Int)
  | cs => (unsigned? cs).map fun n => (n : Int)

end SqlNormal.Number
