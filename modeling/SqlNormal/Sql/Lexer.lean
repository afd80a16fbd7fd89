import SqlNormal.Number.Digits
import SqlNormal.Sql.Token
import SqlNormal.Text.Blank
import SqlNormal.Text.Letters

/-!
# Splitting a text into tokens

A text is read from left to right; every step takes the longest token. Blanks and comments part
tokens and leave no trace. A text with an open string, an open name or an open comment cannot be
split.

* strings: `quotedString?`, `escapedString?`, `unicodeString?`, `rawString?`, `dollarToken?`;
* `skipComment?`: comments may nest;
* `numeral`, `wordToken`, `operators`: the other tokens; `readable_numeral`: what is split off as a
  numeral can be read as a number;
* `readToken?`: one step; `tokenize?`: all of them.
-/

namespace SqlNormal.Sql

open Text (apostrophe doubleQuote)

/-- The grave accent, which may delimit names. -/
def graveAccent : Char := Char.ofNat 96

/-- A word may start with the character. -/
def isWordStart (c : Char) : Bool :=
  Text.isAlphabetic c || c == '_' || c == '#' || c == '@'

/-- A word may go on with the character. -/
def isWordPart (c : Char) : Bool :=
  isWordStart c || c.isDigit || c == '$'

/-! ## Strings -/

/-- The character that a backslash and a letter stand for. -/
def backslashed (c : Char) : Char :=
  if c = '0' then '\x00'
  else if c = 'a' then '\x07'
  else if c = 'b' then '\x08'
  else if c = 'f' then '\x0c'
  else if c = 'n' then '\n'
  else if c = 'r' then '\r'
  else if c = 't' then '\t'
  else if c = 'Z' then '\x1a'
  else c

/-- The rest of a string in which a mark is written twice and a backslash gives the next character
another meaning. -/
def quotedString? (mark : Char) : List Char → Option (List Char × List Char)
  | [] => none
  | ['\\'] => none
  | '\\' :: c :: rest => (quotedString? mark rest).map fun r => (backslashed c :: r.1, r.2)
  | [c] => if c = mark then some ([], []) else none
  | c :: d :: rest =>
    if c = mark then
      if d = mark then (quotedString? mark rest).map fun r => (mark :: r.1, r.2)
      else some ([], d :: rest)
    else (quotedString? mark (d :: rest)).map fun r => (c :: r.1, r.2)

/-- The character with a code point, if there is one; zero counts as none. -/
def nonzeroChar? (n : Nat) : Option Char :=
  if n.isValidChar ∧ n ≠ 0 then some (Char.ofNat n) else none

/-- The value of digits of some base. -/
def valueInBase? (base : Nat) (digit? : Char → Option Nat) (cs : List Char) : Option Nat :=
  cs.foldlM (fun n c => (digit? c).map (base * n + ·)) 0

/-- The value of hexadecimal digits; a plus sign may stand before them. -/
def signedHex? (cs : List Char) : Option Nat :=
  match cs with
  | '+' :: c :: rest => valueInBase? 16 Number.hexValue? (c :: rest)
  | _ => if cs.isEmpty then none else valueInBase? 16 Number.hexValue? cs

/-- The value of an octal digit. -/
def octalValue? (c : Char) : Option Nat :=
  (Number.digitValue? c).filter (· < 8)

/-- The character of a byte; only ASCII has one. -/
def byteChar? (n : Nat) : Option Char :=
  if n % 256 < 128 then nonzeroChar? (n % 256) else none

/-- At most `n` characters of a class, and what follows. -/
def takeClass (n : Nat) (p : Char → Bool) (cs : List Char) : List Char × List Char :=
  let taken := (cs.take n).takeWhile p
  (taken, cs.drop taken.length)

/-- Exactly `n` characters, and what follows. -/
def takeExactly? (n : Nat) (cs : List Char) : Option (List Char × List Char) :=
  if n ≤ cs.length then some (cs.take n, cs.drop n) else none

/-- The character that a backslash introduces in an escaped string, and what follows. -/
def escape? : List Char → Option (Char × List Char)
  | [] => none
  | c :: rest =>
    if c = 'b' then some ('\x08', rest)
    else if c = 'f' then some ('\x0c', rest)
    else if c = 'n' then some ('\n', rest)
    else if c = 'r' then some ('\r', rest)
    else if c = 't' then some ('\t', rest)
    else if c = 'u' ∨ c = 'U' then do
      let (ds, rest) ← takeExactly? (if c = 'u' then 4 else 8) rest
      let x ← nonzeroChar? (← signedHex? ds)
      return (x, rest)
    else if c = 'x' then
      match takeClass 2 (fun d => (Number.hexValue? d).isSome) rest with
      | ([], rest) => some ('x', rest)
      | (ds, rest) => do
        let x ← byteChar? (← valueInBase? 16 Number.hexValue? ds)
        return (x, rest)
    else if (octalValue? c).isSome then do
      let (ds, rest) := takeClass 2 (fun d => (octalValue? d).isSome) rest
      let x ← byteChar? (← valueInBase? 8 octalValue? (c :: ds))
      return (x, rest)
    else if c = '\x00' then none
    else some (c, rest)

/-- The rest of an escaped string; every step takes a character. -/
def escapedString? : Nat → List Char → Option (List Char × List Char)
  | 0, _ => none
  | _ + 1, [] => none
  | fuel + 1, c :: rest =>
    if c = apostrophe then
      match rest with
      | d :: more =>
        if d = apostrophe then
          (escapedString? fuel more).map fun r => (apostrophe :: r.1, r.2)
        else some ([], rest)
      | [] => some ([], [])
    else if c = '\\' then do
      let (x, rest) ← escape? rest
      let r ← escapedString? fuel rest
      return (x :: r.1, r.2)
    else (escapedString? fuel rest).map fun r => (c :: r.1, r.2)

/-- The character with a code point written in `n` hexadecimal digits, and what follows. -/
def codePoint? (n : Nat) (cs : List Char) : Option (Char × List Char) := do
  let (ds, rest) ← takeExactly? n cs
  let value ← valueInBase? 16 Number.hexValue? ds
  if value.isValidChar then some (Char.ofNat value, rest) else none

/-- The rest of a string with code points behind backslashes; every step takes a character. -/
def unicodeString? : Nat → List Char → Option (List Char × List Char)
  | 0, _ => none
  | _ + 1, [] => none
  | fuel + 1, c :: rest =>
    if c = apostrophe then
      match rest with
      | d :: more =>
        if d = apostrophe then
          (unicodeString? fuel more).map fun r => (apostrophe :: r.1, r.2)
        else some ([], rest)
      | [] => some ([], [])
    else if c = '\\' then do
      let (x, rest) ← match rest with
        | '\\' :: more => some ('\\', more)
        | '+' :: more => codePoint? 6 more
        | _ => codePoint? 4 rest
      let r ← unicodeString? fuel rest
      return (x :: r.1, r.2)
    else (unicodeString? fuel rest).map fun r => (c :: r.1, r.2)

/-- The rest of a raw string that three marks end. -/
def tripleString? (mark : Char) : List Char → Option (List Char × List Char)
  | [] => none
  | c :: rest =>
    if [mark, mark, mark].isPrefixOf (c :: rest) then some ([], (c :: rest).drop 3)
    else (tripleString? mark rest).map fun r => (c :: r.1, r.2)

/-- A raw string behind its letter: between single marks, between triple ones, or empty. -/
def rawString? (mark : Char) (single triple : StringMark) (cs : List Char) :
    Option (Token × List Char) :=
  match (cs.take 3).takeWhile (· = mark) with
  | [_] => (Text.undouble? mark (cs.drop 1)).map fun r =>
      (.marked single (String.ofList r.1), r.2)
  | [_, _] => some (.marked single "", cs.drop 2)
  | _ => (tripleString? mark (cs.drop 3)).map fun r => (.marked triple (String.ofList r.1), r.2)

/-- The rest of a string between pairs of dollar signs. A single dollar sign is kept only if a
character other than the end follows. -/
def dollarPairString? : List Char → Option (List Char × List Char)
  | [] => none
  | ['$'] => none
  | '$' :: '$' :: rest => some ([], rest)
  | '$' :: c :: rest => (dollarPairString? rest).map fun r => ('$' :: c :: r.1, r.2)
  | c :: rest => (dollarPairString? rest).map fun r => (c :: r.1, r.2)

/-- The common beginning of a tag and a text, up to and with the first difference, and what follows;
`none` if the text ends before the tag. -/
def matchTag? : List Char → List Char → Option (Bool × List Char × List Char)
  | [], cs => some (true, [], cs)
  | _ :: _, [] => none
  | t :: tag, c :: cs =>
    if t = c then (matchTag? tag cs).map fun r => (r.1, c :: r.2.1, r.2.2)
    else some (false, [c], cs)

/-- The rest of a string between tags; every step takes a character. -/
def taggedString? (tag : List Char) : Nat → List Char → Option (List Char × List Char)
  | 0, _ => none
  | _ + 1, [] => none
  | fuel + 1, '$' :: rest =>
    match matchTag? tag rest with
    | none => none
    | some (true, _, '$' :: behind) => some ([], behind)
    | some (_, seen, behind) =>
      (taggedString? tag fuel behind).map fun r => ('$' :: seen ++ r.1, r.2)
  | fuel + 1, c :: rest => (taggedString? tag fuel rest).map fun r => (c :: r.1, r.2)

/-- What a dollar sign begins: a string between dollar signs, or a placeholder. -/
def dollarToken? (cs : List Char) : Option (Token × List Char) :=
  match cs with
  | '$' :: rest => (dollarPairString? rest).map fun r =>
      (.marked (.dollar "") (String.ofList r.1), r.2)
  | _ =>
    let isTag (c : Char) : Bool := Text.isAlphabetic c || Text.isNumeric c || c == '_'
    let tag := cs.takeWhile isTag
    match cs.dropWhile isTag with
    | '$' :: rest => (taggedString? tag (rest.length + 1) rest).map fun r =>
        (.marked (.dollar (String.ofList tag)) (String.ofList r.1), r.2)
    | rest => some (.placeholder (String.ofList ('$' :: tag)), rest)

/-! ## Comments, numerals, words, operators -/

/-- The text behind a comment that is open `depth` times. -/
def skipComment? (depth : Nat) : List Char → Option (List Char)
  | '/' :: '*' :: rest => skipComment? (depth + 1) rest
  | '*' :: '/' :: rest => if depth ≤ 1 then some rest else skipComment? (depth - 1) rest
  | _ :: rest => skipComment? depth rest
  | [] => none

/-- The text behind a comment that a line feed ends. -/
def skipLine (cs : List Char) : List Char :=
  (cs.dropWhile (· ≠ '\n')).drop 1

/-- A sign, if there is one. -/
def signOf (cs : List Char) : List Char × List Char :=
  match cs with
  | s :: rest => if s = '+' ∨ s = '-' then ([s], rest) else ([], cs)
  | [] => ([], [])

/-- The exponent of a numeral, if a digit makes it one. -/
def exponentOf (cs : List Char) : List Char × List Char :=
  match cs with
  | e :: rest =>
    if e = 'e' ∨ e = 'E' then
      let sign := signOf rest
      match sign.2.takeWhile Char.isDigit with
      | [] => ([], cs)
      | digits => (e :: sign.1 ++ digits, sign.2.dropWhile Char.isDigit)
    else ([], cs)
  | [] => ([], [])

/-- The point of a numeral and the digits behind it, if there is a point. -/
def fractionOf (cs : List Char) : List Char × List Char :=
  match cs with
  | '.' :: more => ('.' :: more.takeWhile Char.isDigit, more.dropWhile Char.isDigit)
  | _ => ([], cs)

theorem signOf_cases (cs : List Char) :
    (signOf cs).1 = [] ∨ (signOf cs).1 = ['+'] ∨ (signOf cs).1 = ['-'] := by
  unfold signOf
  split
  · split
    · rename_i h
      rcases h with rfl | rfl <;> simp
    · simp
  · simp

theorem readExponent?_isSome {sign ds : List Char} (hs : sign = [] ∨ sign = ['+'] ∨ sign = ['-'])
    (hne : ds ≠ []) (hd : ds.all Char.isDigit) :
    (Binary64.readExponent? (sign ++ ds)).isSome := by
  have hsome : Number.unsigned? ds = some (Number.digitsValue ds) := if_pos ⟨hne, hd⟩
  obtain ⟨d, ds, rfl⟩ := List.exists_cons_of_ne_nil hne
  have hd0 : d.isDigit := by simp_all
  rcases hs with rfl | rfl | rfl
  · have hm : d ≠ '-' := by rintro rfl; exact absurd hd0 (by decide)
    have hp : d ≠ '+' := by rintro rfl; exact absurd hd0 (by decide)
    simp [Binary64.readExponent?, hm, hp, hsome]
  · simp [Binary64.readExponent?, hsome]
  · simp [Binary64.readExponent?, hsome]

/-- An exponent begins with no digit and no point, and it can be read. -/
theorem readScale?_exponentOf (cs : List Char) :
    (∀ c ∈ (exponentOf cs).1.head?, c.isDigit = false ∧ c ≠ '.') ∧
      (Binary64.readScale? (exponentOf cs).1).isSome := by
  unfold exponentOf
  split
  · rename_i e rest
    split
    · rename_i he
      dsimp only
      split
      · exact ⟨nofun, rfl⟩
      · rename_i hne
        refine ⟨?_, ?_⟩
        · rintro _ ⟨⟩
          rcases he with rfl | rfl <;> decide
        · have := readExponent?_isSome (signOf_cases rest) hne List.all_takeWhile
          simpa [Binary64.readScale?, he] using this
    · exact ⟨nofun, rfl⟩
  · exact ⟨nofun, rfl⟩

/-- Digits in front of something else are taken as far as they go. -/
theorem span_digits {ds rest : List Char} (hd : ds.all Char.isDigit)
    (hr : ∀ c ∈ rest.head?, c.isDigit = false) :
    (ds ++ rest).takeWhile Char.isDigit = ds ∧ (ds ++ rest).dropWhile Char.isDigit = rest := by
  have hall : ∀ c ∈ ds, c.isDigit = true := List.all_eq_true.mp hd
  rw [List.takeWhile_append_of_pos hall, List.dropWhile_append_of_pos hall]
  cases rest with
  | nil => simp
  | cons c rest => simp [hr c rfl]

/-- Digits around a point, at least one of them, and an exponent are read as a number. -/
theorem readable_numeral {whole cs ds : List Char} (hw : whole.all Char.isDigit)
    (hd : (whole ++ (fractionOf cs).1).any Char.isDigit) :
    (Binary64.readMagnitude? (whole ++ (fractionOf cs).1 ++ (exponentOf ds).1)).isSome := by
  obtain ⟨hhead, hscale⟩ := readScale?_exponentOf ds
  have hexp : ∀ c ∈ (exponentOf ds).1.head?, c.isDigit = false := fun c hc => (hhead c hc).1
  have hcases : (fractionOf cs).1 = [] ∨
      ∃ part, part.all Char.isDigit ∧ (fractionOf cs).1 = '.' :: part := by
    unfold fractionOf
    split
    · exact .inr ⟨_, List.all_takeWhile, rfl⟩
    · exact .inl rfl
  rcases hcases with h | ⟨part, hp, h⟩ <;> rw [h] at hd ⊢
  · have hne : whole ≠ [] := by rintro rfl; simp at hd
    have hpoint : Binary64.splitPoint (exponentOf ds).1 = ([], (exponentOf ds).1) := by
      unfold Binary64.splitPoint
      split
      · rename_i he
        exact absurd rfl (hhead '.' (by simp [he])).2
      · rfl
    simp [Binary64.readMagnitude?, span_digits hw hexp, hpoint, hne, hscale]
  · have hne : ¬ (whole = [] ∧ part = []) := by
      rintro ⟨rfl, rfl⟩
      simp at hd
    have hpoint : ∀ c ∈ ('.' :: (part ++ (exponentOf ds).1)).head?, c.isDigit = false := by
      rintro _ ⟨⟩
      rfl
    simp only [Binary64.readMagnitude?, List.append_assoc, List.cons_append,
      span_digits hw hpoint, Binary64.splitPoint, span_digits hp hexp, hne, if_false,
      Option.isSome_map, hscale]

/-- A numeral, or a point that no digit stands beside. -/
def numeral (cs : List Char) : Token × List Char :=
  let whole := cs.takeWhile Char.isDigit
  match whole, cs.dropWhile Char.isDigit with
  | ['0'], 'x' :: rest =>
    let isHex (c : Char) : Bool := (Number.hexValue? c).isSome
    (.marked .hex (String.ofList (rest.takeWhile isHex)), rest.dropWhile isHex)
  | _, rest =>
    let fraction := fractionOf rest
    let exponent := exponentOf fraction.2
    if h : (whole ++ fraction.1).any Char.isDigit then
      let n : Numeral := ⟨String.ofList (whole ++ fraction.1 ++ exponent.1), by
        rw [String.toList_ofList]
        exact readable_numeral List.all_takeWhile h⟩
      match exponent.2 with
      | 'L' :: more => (.number n true, more)
      | rest => (.number n false, rest)
    else (.symbol ".", fraction.2)

/-- A word that begins with some characters. -/
def wordToken (first rest : List Char) : Token × List Char :=
  (.word ⟨String.ofList (first ++ rest.takeWhile isWordPart), none⟩, rest.dropWhile isWordPart)

/-- Marks and operators of more than one character, with the way they are spelled again. -/
def operators : List (String × String) :=
  [("->>", "->>"), ("->", "->"), ("||/", "||/"), ("||", "||"), ("|/", "|/"), ("=>", "=>"),
   ("==", "=="), ("!~~*", "!~~*"), ("!~~", "!~~"), ("!~*", "!~*"), ("!~", "!~"), ("!=", "<>"),
   ("!!", "!!"), ("<=>", "<=>"), ("<=", "<="), ("<>", "<>"), ("<<", "<<"), ("<@", "<@"),
   (">=", ">="), (">>", ">>"), ("::", "::"), (":=", ":="), ("&&", "&&"), ("^@", "^@"),
   ("~~*", "~~*"), ("~~", "~~"), ("~*", "~*"), ("#-", "#-"), ("#>>", "#>>"), ("#>", "#>"),
   ("@>", "@>"), ("@?", "@?"), ("//", "//")]

/-- The characters that are marks or operators by themselves. -/
def marks : List Char :=
  "()[],;+-*/%=!<>:&|^~\\\x7b\x7d".toList

/-- A mark or an operator. -/
def operatorToken? (cs : List Char) : Option (Token × List Char) :=
  match operators.find? fun o => o.1.toList.isPrefixOf cs with
  | some o => some (.symbol o.2, cs.drop o.1.length)
  | none =>
    match cs with
    | c :: rest => if marks.contains c then some (.symbol (String.singleton c), rest) else none
    | [] => none

/-- What a sign that may begin a word stands for: a mark if a blank or nothing follows, else a word
with the next character, whatever that is. -/
def signToken (sign : List Char) (rest : List Char) : Token × List Char :=
  match rest with
  | c :: more =>
    if c = ' ' then (.symbol (String.ofList sign), rest) else wordToken (sign ++ [c]) more
  | [] => (.symbol (String.ofList sign), [])

/-- A token that a letter and a mark begin: a string, or just a word. -/
def letterToken? (letter : Char) (rest : List Char) : Option (Token × List Char) :=
  let plain : Option (Token × List Char) := some (wordToken [letter] rest)
  let lower := letter.toLower
  match rest with
  | mark :: more =>
    if mark = apostrophe then
      if lower = 'n' then
        (quotedString? mark more).map fun r => (.marked .national (String.ofList r.1), r.2)
      else if lower = 'x' then
        (quotedString? mark more).map fun r => (.marked .hex (String.ofList r.1), r.2)
      else if lower = 'b' then
        (Text.undouble? mark more).map fun r => (.marked .bytes (String.ofList r.1), r.2)
      else if lower = 'e' then
        (escapedString? (more.length + 1) more).map fun r =>
          (.marked .escaped (String.ofList r.1), r.2)
      else if lower = 'r' then rawString? mark .raw .rawTriple rest
      else plain
    else if mark = doubleQuote then
      if lower = 'b' then
        (Text.undouble? mark more).map fun r => (.marked .bytesDouble (String.ofList r.1), r.2)
      else if lower = 'r' then rawString? mark .rawDouble .rawTripleDouble rest
      else plain
    else if mark = '&' ∧ lower = 'u' then
      match more with
      | c :: body =>
        if c = apostrophe then
          (unicodeString? (body.length + 1) body).map fun r =>
            (.marked .unicode (String.ofList r.1), r.2)
        else plain
      | [] => plain
    else plain
  | [] => plain

/-! ## Steps -/

/-- One step from the character `c`: the token, if it gives one, and what follows. -/
def readToken? (c : Char) (rest : List Char) : Option (Option Token × List Char) :=
  let found (r : Token × List Char) : Option Token × List Char := (some r.1, r.2)
  if c = ' ' ∨ c = '\t' ∨ c = '\n' ∨ c = '\r' then some (none, rest)
  else if c = apostrophe then
    (Text.undouble? c rest).map fun r => (some (.string (String.ofList r.1)), r.2)
  else if c = doubleQuote ∨ c = graveAccent then
    (Text.undouble? c rest).map fun r => (some (.word ⟨String.ofList r.1, some c⟩), r.2)
  else if c.isDigit ∨ c = '.' then some (found (numeral (c :: rest)))
  else if "bBrRnNeEuUxX".toList.contains c then (letterToken? c rest).map found
  else if c = '$' then (dollarToken? rest).map found
  else if c = '?' then
    some (some (.placeholder (String.ofList ('?' :: rest.takeWhile Text.isNumeric))),
      rest.dropWhile Text.isNumeric)
  else match c, rest with
    | '-', '-' :: more => some (none, skipLine more)
    | '/', '*' :: more => (skipComment? 1 more).map (none, ·)
    | '@', '@' :: more => some (found (signToken ['@', '@'] more))
    | _, _ =>
      match operatorToken? (c :: rest) with
      | some r => some (found r)
      | none =>
        if c = '#' ∨ c = '@' then some (found (signToken [c] rest))
        else if Text.isBlank c then some (none, rest)
        else if isWordStart c then some (found (wordToken [c] rest))
        else some (some (.symbol (String.singleton c)), rest)

/-- The place behind some characters. -/
def Location.after (l : Location) (cs : List Char) : Location :=
  cs.foldl Location.next l

/-- The tokens of a text of which `length` characters are left; every step takes one at least. -/
def tokenizeFrom? : Nat → Location → Nat → List Char → Option (List Lexeme)
  | _, _, _, [] => some []
  | 0, _, _, _ :: _ => none
  | fuel + 1, l, length, c :: rest => do
    let (token, behind) ← readToken? c rest
    let left := behind.length
    let lexemes ← tokenizeFrom? fuel (l.after ((c :: rest).take (length - left))) left behind
    match token with
    | some token => some (⟨token, l⟩ :: lexemes)
    | none => some lexemes

/-- The tokens of a text. -/
def tokenize? (source : String) : Option (List Lexeme) :=
  let cs := source.toList
  tokenizeFrom? cs.length .start cs.length cs

end SqlNormal.Sql
