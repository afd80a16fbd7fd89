import SqlNormal.Number.Digits

/-!
# Scanning JSON

The pieces that a JSON text is read by. A scanner gives the rest of the text, or nothing if the text
does not begin with what it looks for.

* `skipBlanks`, `expect?`: blanks and punctuation;
* `string?`: a string with its value; halves of a surrogate pair have to stand together;
* `numeral?`: the lexeme of a number;
* `skipString?`, `skipValue?`: a value that nobody wants; in its strings no pair is asked for.
-/

namespace SqlNormal.Json

/-- The blanks of JSON. -/
def isBlank (c : Char) : Bool :=
  c == ' ' || c == '\n' || c == '\t' || c == '\r'

/-- The text behind its blanks. -/
def skipBlanks (cs : List Char) : List Char :=
  cs.dropWhile isBlank

/-- The text behind blanks and a character. -/
def expect? (c : Char) (cs : List Char) : Option (List Char) :=
  match skipBlanks cs with
  | x :: rest => if x = c then some rest else none
  | [] => none

/-- The code unit that four hexadecimal digits denote. -/
def unit? (a b c d : Char) : Option Nat := do
  let a ← Number.hexValue? a
  let b ← Number.hexValue? b
  let c ← Number.hexValue? c
  let d ← Number.hexValue? d
  return ((a * 16 + b) * 16 + c) * 16 + d

/-- The character behind a backslash, other than `u`. -/
def escaped? (c : Char) : Option Char :=
  if c = '"' ∨ c = '\\' ∨ c = '/' then some c
  else if c = 'b' then some '\x08'
  else if c = 'f' then some '\x0c'
  else if c = 'n' then some '\n'
  else if c = 'r' then some '\r'
  else if c = 't' then some '\t'
  else none

/-- The first half of a surrogate pair. -/
def isLeading (u : Nat) : Bool :=
  0xD800 ≤ u && u < 0xDC00

/-- The second half of a surrogate pair. -/
def isTrailing (u : Nat) : Bool :=
  0xDC00 ≤ u && u < 0xE000

/-- The character of a surrogate pair. -/
def pairChar (lead trail : Nat) : Char :=
  Char.ofNat (0x10000 + (lead - 0xD800) * 0x400 + (trail - 0xDC00))

/-- A string behind its opening mark; `value` holds its characters so far, reversed, and `lead` half
of a surrogate pair that waits for the other. -/
def stringFrom? (value : List Char) (lead : Option Nat) : List Char → Option (String × List Char)
  | [] => none
  | '\\' :: 'u' :: a :: b :: c :: d :: rest => do
    let u ← unit? a b c d
    match lead with
    | some l => if isTrailing u then stringFrom? (pairChar l u :: value) none rest else none
    | none =>
      if isLeading u then stringFrom? value (some u) rest
      else if isTrailing u then none
      else stringFrom? (Char.ofNat u :: value) none rest
  | '\\' :: c :: rest => do
    let x ← escaped? c
    if lead.isSome then none else stringFrom? (x :: value) none rest
  | c :: rest =>
    if lead.isSome then none
    else if c = '"' then some (String.ofList value.reverse, rest)
    else if c.toNat < 0x20 ∨ c = '\\' then none
    else stringFrom? (c :: value) none rest

/-- A string, behind blanks. -/
def string? (cs : List Char) : Option (String × List Char) := do
  stringFrom? [] none (← expect? '"' cs)

/-- The text behind a string whose opening mark is read. -/
def skipString? : List Char → Option (List Char)
  | [] => none
  | '\\' :: 'u' :: a :: b :: c :: d :: rest => do
    let _ ← unit? a b c d
    skipString? rest
  | '\\' :: c :: rest => do
    let _ ← escaped? c
    skipString? rest
  | c :: rest =>
    if c = '"' then some rest
    else if c.toNat < 0x20 ∨ c = '\\' then none
    else skipString? rest

/-- One or more digits. -/
def digits? (cs : List Char) : Option (List Char × List Char) :=
  let ds := cs.takeWhile Char.isDigit
  if ds.isEmpty then none else some (ds, cs.dropWhile Char.isDigit)

/-- The digits before a point: no zero in front of others. -/
def whole? (cs : List Char) : Option (List Char × List Char) :=
  match digits? cs with
  | some ('0' :: _ :: _, _) => none
  | r => r

/-- The lexeme of a number: sign, whole part, fraction, exponent. -/
def numeral? (cs : List Char) : Option (List Char × List Char) := do
  let (sign, cs) := match cs with
    | '-' :: rest => (['-'], rest)
    | _ => ([], cs)
  let (whole, cs) ← whole? cs
  let (fraction, cs) ← match cs with
    | '.' :: rest => (digits? rest).map fun r => ('.' :: r.1, r.2)
    | _ => some ([], cs)
  let (exponent, cs) ← match cs with
    | c :: rest =>
      if c = 'e' ∨ c = 'E' then
        match rest with
        | s :: more =>
          if s = '+' ∨ s = '-' then (digits? more).map fun r => (c :: s :: r.1, r.2)
          else (digits? rest).map fun r => (c :: r.1, r.2)
        | [] => none
      else some ([], cs)
    | [] => some ([], cs)
  return (sign ++ whole ++ fraction ++ exponent, cs)

/-- The text behind a word. -/
def word? (word : String) (cs : List Char) : Option (List Char) :=
  if word.toList.isPrefixOf cs then some (cs.drop word.length) else none

/-- What may stand where a value is skipped: a value, or the rest of an array or an object. -/
inductive Pending where
  | value
  | items
  | members

/-- The text behind what is pending. Every step but the last of a list takes a character. -/
def skip? : Nat → Pending → List Char → Option (List Char)
  | 0, _, _ => none
  | fuel + 1, .value, cs =>
    match skipBlanks cs with
    | '"' :: rest => skipString? rest
    | '[' :: rest =>
      match expect? ']' rest with
      | some behind => some behind
      | none => skip? fuel .items rest
    | '\x7b' :: rest =>
      match expect? '\x7d' rest with
      | some behind => some behind
      | none => skip? fuel .members rest
    | 't' :: rest => word? "rue" rest
    | 'f' :: rest => word? "alse" rest
    | 'n' :: rest => word? "ull" rest
    | rest => (numeral? rest).map (·.2)
  | fuel + 1, .items, cs => do
    let cs ← skip? fuel .value cs
    match expect? ',' cs with
    | some rest => skip? fuel .items rest
    | none => expect? ']' cs
  | fuel + 1, .members, cs => do
    let cs ← expect? ':' (← skipString? (← expect? '"' cs))
    let cs ← skip? fuel .value cs
    match expect? ',' cs with
    | some rest => skip? fuel .members rest
    | none => expect? '\x7d' cs

/-- The text behind a value. -/
def skipValue? (cs : List Char) : Option (List Char) :=
  skip? (2 * cs.length + 2) .value cs

end SqlNormal.Json
