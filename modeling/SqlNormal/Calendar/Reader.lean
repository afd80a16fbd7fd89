import SqlNormal.Calendar.Basic
import SqlNormal.Text.Blank

/-!
# Reading dates and times

The readers of date, time and timestamp literals. They take more than is ever written: numbers may
be short, blanks may stand before a number, a year may have a sign and then any number of digits,
and a fraction may have more digits than are kept.

A reading stops at the first thing that is wrong; whether the day exists is asked at the end.

* `TemporalFault`: why a literal is not read;
* `Date.read`, `Time.read`, `Timestamp.read`.
-/

namespace SqlNormal

/-- Why a temporal literal is not read. -/
inductive TemporalFault where
  | outOfRange
  | unexpected
  | tooShort
  | trailing
deriving DecidableEq

/-- The wording of a fault. -/
def TemporalFault.message : TemporalFault → String
  | outOfRange => "input is out of range"
  | unexpected => "input contains invalid characters"
  | tooShort => "premature end of input"
  | trailing => "trailing input"

namespace Calendar

/-- Reads the character `c`. -/
def char (c : Char) : List Char → Except TemporalFault (Unit × List Char)
  | [] => throw .tooShort
  | x :: rest => if x = c then pure ((), rest) else throw .unexpected

/-- Reads a number of one to `width` digits. -/
def digitsUpTo (width : Nat) (cs : List Char) : Except TemporalFault (Nat × List Char) :=
  match cs with
  | [] => throw .tooShort
  | _ =>
    let ds := (cs.take width).takeWhile Char.isDigit
    if ds.isEmpty then throw .unexpected
    else pure (Number.digitsValue ds, cs.drop ds.length)

/-- Reads a number of at most two digits between `low` and `high`, after blanks. -/
def field (low high : Nat) (cs : List Char) : Except TemporalFault (Nat × List Char) := do
  let (n, rest) ← digitsUpTo 2 (Text.trimStart cs)
  if low ≤ n ∧ n ≤ high then pure (n, rest) else throw .outOfRange

/-- Reads a year after blanks: up to four digits, or a sign and any number of digits. -/
def year (cs : List Char) : Except TemporalFault (Int × List Char) := do
  let bounded (negative : Bool) (n : Nat) (rest : List Char) :
      Except TemporalFault (Int × List Char) :=
    if n < Nat.pow 2 31 ∨ (negative ∧ n = Nat.pow 2 31) then
      pure (if negative then -(n : Int) else n, rest)
    else throw .outOfRange
  match Text.trimStart cs with
  | '-' :: rest => do
    let (n, rest) ← digitsUpTo rest.length rest
    bounded true n rest
  | '+' :: rest => do
    let (n, rest) ← digitsUpTo rest.length rest
    bounded false n rest
  | rest => do
    let (n, rest) ← digitsUpTo 4 rest
    bounded false n rest

/-- Reads year, month and day. -/
def dateParts (cs : List Char) : Except TemporalFault ((Int × Nat × Nat) × List Char) := do
  let (y, cs) ← year cs
  let ((), cs) ← char '-' cs
  let (m, cs) ← field 1 12 cs
  let ((), cs) ← char '-' cs
  let (d, cs) ← field 1 31 cs
  pure ((y, m, d), cs)

/-- Reads a fraction of a second, if there is one, in nanoseconds. -/
def fraction (cs : List Char) : Except TemporalFault (Nat × List Char) :=
  match cs with
  | '.' :: rest => do
    let (n, rest') ← digitsUpTo 9 rest
    pure (n * Nat.pow 10 (9 - (rest.length - rest'.length)), rest'.dropWhile Char.isDigit)
  | _ => pure (0, cs)

/-- Reads hour, minute, second and fraction. -/
def timeParts (cs : List Char) : Except TemporalFault ((Nat × Nat × Nat × Nat) × List Char) := do
  let (h, cs) ← field 0 23 cs
  let ((), cs) ← char ':' cs
  let (m, cs) ← field 0 59 cs
  let ((), cs) ← char ':' cs
  let (s, cs) ← field 0 60 cs
  let (n, cs) ← fraction cs
  pure ((h, m, s, n), cs)

/-- Nothing may be left. -/
def finish (cs : List Char) : Except TemporalFault Unit :=
  if cs.isEmpty then pure () else throw .trailing

/-- The day of parts that were read. -/
def dateOf (parts : Int × Nat × Nat) : Except TemporalFault Date :=
  match Date.ofParts? parts.1 parts.2.1 parts.2.2 with
  | some d => pure d
  | none => throw .outOfRange

/-- The time of parts that were read. -/
def timeOf (parts : Nat × Nat × Nat × Nat) : Except TemporalFault Time :=
  match Time.ofParts? parts.1 parts.2.1 parts.2.2.1 parts.2.2.2 with
  | some t => pure t
  | none => throw .outOfRange

/-- Reads a timestamp whose date and time are parted as `between` says. -/
def timestamp (between : List Char → Except TemporalFault (Unit × List Char)) (cs : List Char) :
    Except TemporalFault Timestamp := do
  let (d, cs) ← dateParts cs
  let ((), cs) ← between cs
  let (t, cs) ← timeParts cs
  finish cs
  pure ⟨← dateOf d, ← timeOf t⟩

end Calendar

/-- Reads a date: `2024-01-31`. -/
def Date.read (cs : List Char) : Except TemporalFault Date := do
  let (parts, rest) ← Calendar.dateParts cs
  Calendar.finish rest
  Calendar.dateOf parts

/-- Reads a time: `12:34:56.789`. -/
def Time.read (cs : List Char) : Except TemporalFault Time := do
  let (parts, rest) ← Calendar.timeParts cs
  Calendar.finish rest
  Calendar.timeOf parts

/-- Reads a timestamp: date and time are parted by any number of blanks or by a `T`. If neither
fits, the fault of the second form is reported. -/
def Timestamp.read (cs : List Char) : Except TemporalFault Timestamp :=
  match Calendar.timestamp (fun rest => pure ((), Text.trimStart rest)) cs with
  | .ok t => .ok t
  | .error _ => Calendar.timestamp (Calendar.char 'T') cs

end SqlNormal
