import SqlNormal.Sql.Keyword
import SqlNormal.Sql.Spelling

/-!
# Readers

A reader takes tokens from the front of a list. It refuses the list if it is not what it reads, or
if the recursion that it would need is too deep. The second refusal is not one that another reading
could mend.

* `Refusal`, `Reader`;
* `attempt`: a reading that may fail, and then takes nothing;
* `keyword?`, `symbol?` and their kin: tokens that may stand there; `expectKeyword`, `expectSymbol`:
  tokens that have to;
* `ident`, `objectName`, `literalString`, `naturalNumber`, `constant`: names and constants;
* `separated`: items with commas between.
-/

namespace SqlNormal.Sql

/-- Why a reading stops. -/
inductive Refusal where
  | tooDeep
  | unreadable
deriving DecidableEq

/-- A reader of tokens. -/
abbrev Reader := StateT (List Lexeme) (Except Refusal)

namespace Reader

/-- The tokens are not what is read. -/
def refuse : Reader α := fun _ => .error .unreadable

/-- A reading that takes nothing if the tokens are not what it reads. -/
def attempt (r : Reader α) : Reader (Option α) := fun tokens =>
  match r tokens with
  | .ok (x, rest) => .ok (some x, rest)
  | .error .unreadable => .ok (none, tokens)
  | .error .tooDeep => .error .tooDeep

/-- The next token, which is left where it is. -/
def peek : Reader (Option Token) := do
  return (← get).head?.map (·.token)

/-- The next token. -/
def next : Reader Lexeme := do
  match ← get with
  | [] => refuse
  | l :: rest =>
    set rest
    return l

/-- The keyword of the token `n` places ahead. -/
def keywordAt (n : Nat) : Reader String := do
  return (((← get)[n]?).map fun l => l.token.keyword).getD ""

/-- The next token is a keyword. -/
def peekKeyword (word : String) : Reader Bool := do
  return (← keywordAt 0) == word

/-- The next token is a mark or operator. -/
def peekSymbol (spelling : String) : Reader Bool := do
  return (← peek) == some (.symbol spelling)

/-- Takes some tokens. -/
def skip (n : Nat) : Reader Unit :=
  modify (List.drop n)

/-- Takes a keyword if it stands there. -/
def keyword? (word : String) : Reader Bool := do
  if ← peekKeyword word then
    skip 1
    return true
  else return false

/-- Takes keywords if all of them stand there. -/
def keywords? (words : List String) : Reader Bool := do
  let ahead := (← get).take words.length
  if ahead.map (fun l => l.token.keyword) == words then
    skip words.length
    return true
  else return false

/-- Takes one of some keywords if it stands there. -/
def oneOf? (words : List String) : Reader (Option String) := do
  let word ← keywordAt 0
  if words.contains word then
    skip 1
    return some word
  else return none

/-- Takes a mark or operator if it stands there. -/
def symbol? (spelling : String) : Reader Bool := do
  if ← peekSymbol spelling then
    skip 1
    return true
  else return false

/-- Takes a keyword. -/
def expectKeyword (word : String) : Reader Unit := do
  if !(← keyword? word) then refuse

/-- Takes keywords. -/
def expectKeywords (words : List String) : Reader Unit := do
  if !(← keywords? words) then refuse

/-- Takes a mark or operator. -/
def expectSymbol (spelling : String) : Reader Unit := do
  if !(← symbol? spelling) then refuse

/-- Takes one of some keywords. -/
def expectOneOf (words : List String) : Reader String := do
  match ← oneOf? words with
  | some word => return word
  | none => refuse

/-- What a reader gives, between parentheses. -/
def inParens (r : Reader α) : Reader α := do
  expectSymbol "("
  let x ← r
  expectSymbol ")"
  return x

/-- A reading that a keyword introduces. -/
def clause? (word : String) (r : Reader α) : Reader (Option α) := do
  if ← keyword? word then return some (← r) else return none

/-- A reading that keywords introduce. -/
def clauses? (words : List String) (r : Reader α) : Reader (Option α) := do
  if ← keywords? words then return some (← r) else return none

/-- Items with commas between; every comma is a token. -/
def separatedFrom (r : Reader α) : Nat → Reader (List α)
  | 0 => refuse
  | fuel + 1 => do
    let x ← r
    if ← symbol? "," then return x :: (← separatedFrom r fuel) else return [x]

/-- One or more items with commas between. -/
def separated (r : Reader α) : Reader (List α) := do
  separatedFrom r ((← get).length + 1)

/-- Items with commas between, or none in front of a closing mark. -/
def separatedOrNone (closing : String) (r : Reader α) : Reader (List α) := do
  if ← peekSymbol closing then return [] else separated r

/-- Repeats a reading while it gives something; every time it takes a token. -/
def repeatedFrom (r : Reader (Option α)) : Nat → Reader (List α)
  | 0 => return []
  | fuel + 1 => do
    match ← r with
    | some x => return x :: (← repeatedFrom r fuel)
    | none => return []

/-- What a reading gives, again and again. -/
def repeated (r : Reader (Option α)) : Reader (List α) := do
  repeatedFrom r ((← get).length + 1)

/-- The name that a token gives: a word, or a string. -/
def identOf? : Token → Option Ident
  | .word ident => some ident
  | .string s => some ⟨s, some Text.apostrophe⟩
  | _ => none

/-- A name. -/
def ident : Reader Ident := do
  match identOf? (← next).token with
  | some i => return i
  | none => refuse

/-- The rest of a path of names; every point is a token. -/
def pathFrom : Nat → Reader (List Ident)
  | 0 => refuse
  | fuel + 1 => do
    let i ← ident
    if ← symbol? "." then return i :: (← pathFrom fuel) else return [i]

/-- A path of names. -/
def objectName : Reader (List Ident) := do
  pathFrom ((← get).length + 1)

/-- A path of names as it is shown. -/
def objectText : Reader String := do
  return pathText (← objectName)

/-- A literal string: a string, or a word that the language does not know. -/
def literalString : Reader String := do
  let token := (← next).token
  match token with
  | .string s | .marked .escaped s | .marked .unicode s => return s
  | .word i => if isKeyword token.keyword then refuse else return i.value
  | _ => refuse

/-- A number of at most 64 bits. -/
def naturalNumber : Reader Nat := do
  match (← next).token with
  | .number n _ =>
    match Number.naturalBelow? (Nat.pow 2 64) n.digits with
    | some n => return n
    | none => refuse
  | _ => refuse

/-- A number in parentheses, if there is one. -/
def precision? : Reader (Option Nat) := do
  if ← peekSymbol "(" then return some (← inParens naturalNumber) else return none

/-- The constant of a token other than a mark. -/
def constantOf? (token : Token) : Option Constant :=
  match token with
  | .number n long => some (.number n long)
  | .string s => some (.string s)
  | .marked mark s => some (.marked mark s)
  | .placeholder name => some (.placeholder name)
  | .word ⟨value, some mark⟩ =>
    if mark = Text.doubleQuote then some (.doubleMarked value) else none
  | .word ⟨_, none⟩ =>
    if token.keyword = "TRUE" then some (.boolean true)
    else if token.keyword = "FALSE" then some (.boolean false)
    else if token.keyword = "NULL" then some .null
    else none
  | .symbol _ => none

/-- A constant; a colon or an at sign makes a placeholder of the word or number behind it. -/
def constant : Reader Constant := do
  let token := (← next).token
  match token with
  | .symbol s =>
    if s = ":" ∨ s = "@" then
      match (← next).token with
      | .word i => return .placeholder (s ++ i.value)
      | .number n false => return .placeholder (s ++ n.digits)
      | _ => refuse
    else refuse
  | _ =>
    match constantOf? token with
    | some c => return c
    | none => refuse

end Reader

end SqlNormal.Sql
