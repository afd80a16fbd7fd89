import SqlNormal.Number.Digits

/-!
# Exact decimals

An exact decimal is an integer coefficient of at most 96 bits over a power of ten of at most 28; the
scale is part of the value, so `1.50` and `1.5` differ.

The reader takes an optional sign, digits with at most one point among them, and underscores after
the first digit. A digit behind the point that no longer fits, because the scale is full or the
coefficient is, ends the number: it rounds the last place half up, and what follows is not read. A
digit before the point has to fit.

* `Decimal`, `Decimal.text`: the value and its written form;
* `Decimal.read?`: the reader; `Decimal.State` is what it has seen so far.
-/

namespace SqlNormal

/-- An exact decimal: `coefficient / 10 ^ scale`. -/
structure Decimal where
  coefficient : Int
  scale : Nat
  coefficient_lt : coefficient.natAbs < Nat.pow 2 96
  scale_le : scale ≤ 28
deriving DecidableEq

namespace Decimal

/-- The decimal of a coefficient and a scale, if both fit. -/
def ofParts? (coefficient : Int) (scale : Nat) : Option Decimal :=
  if h : coefficient.natAbs < Nat.pow 2 96 ∧ scale ≤ 28 then
    some ⟨coefficient, scale, h.1, h.2⟩
  else none

/-- The written form of a magnitude: at least one digit before the point, `scale` digits behind. -/
def magnitudeText (magnitude scale : Nat) : List Char :=
  let ds := Number.paddedDigits (scale + 1) magnitude
  if scale = 0 then ds else ds.take (ds.length - scale) ++ '.' :: ds.drop (ds.length - scale)

/-- The written form of a decimal. -/
def text (d : Decimal) : List Char :=
  let magnitude := magnitudeText d.coefficient.natAbs d.scale
  if d.coefficient < 0 then '-' :: magnitude else magnitude

/-- What the reader has seen: the digits as a number, how many of them stand behind the point,
whether there was a point and whether there was a digit. -/
structure State where
  magnitude : Nat
  scale : Nat
  point : Bool
  digit : Bool

/-- Nothing read yet. -/
def State.start : State := ⟨0, 0, false, false⟩

/-- Ends a number at the character `c` that no longer fits: half a unit or more rounds up. A
coefficient that rounding pushes over its limit loses its last place. -/
def State.round (s : State) (c : Char) : Option (Nat × Nat) := do
  let d ← if c = '_' ∨ c = '.' then some 0 else Number.digitValue? c
  if d < 5 then some (s.magnitude, s.scale)
  else if s.magnitude + 1 < Nat.pow 2 96 then some (s.magnitude + 1, s.scale)
  else if s.scale = 0 then none
  else some ((s.magnitude + 5) / 10, s.scale - 1)

/-- Reads the rest of a number after its sign: magnitude and scale. -/
def State.read (s : State) : List Char → Option (Nat × Nat)
  | [] => if s.digit then some (s.magnitude, s.scale) else none
  | c :: cs =>
    if s.point ∧ s.scale = 28 then s.round c
    else match Number.digitValue? c with
      | some d =>
        if s.magnitude * 10 + d < Nat.pow 2 96 then
          State.read ⟨s.magnitude * 10 + d, if s.point then s.scale + 1 else 0, s.point, true⟩ cs
        else if s.point then s.round c else none
      | none =>
        if c = '.' ∧ ¬ s.point then State.read { s with point := true } cs
        else if c = '_' ∧ s.digit then State.read s cs
        else none

/-- Reads a decimal. -/
def read? (cs : List Char) : Option Decimal := do
  let (sign, rest) := match cs with
    | '-' :: rest => ((-1 : Int), rest)
    | '+' :: rest => (1, rest)
    | _ => (1, cs)
  let (magnitude, scale) ← State.start.read rest
  ofParts? (sign * magnitude) scale

end Decimal

end SqlNormal
