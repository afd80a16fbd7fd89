/-!
# Token text

The text of an expression is written token by token, with one blank between two tokens where SQL
wants one: none behind an opening parenthesis, none in front of a closing one or of a comma.

* `Piece`: a token, or a name with the parenthesis that opens its call;
* `Piece.append`, `appendPieces`: writing pieces behind a text;
* `tokenText`: the text of pieces.
-/

namespace SqlNormal.Text

/-- A piece of a text. -/
inductive Piece where
  | token (text : String)
  | opening (name : String)

/-- The text ends with an opening parenthesis. -/
def endsOpen (text : List Char) : Bool :=
  text.getLast? == some '('

/-- The token wants no blank before it. -/
def clings : List Char → Bool
  | c :: _ => c == ')' || c == ','
  | [] => false

/-- A blank is wanted between a text and the token behind it. -/
def needsBlank (text token : List Char) : Bool :=
  !text.isEmpty && !endsOpen text && !clings token

/-- Writes a token behind a text; an empty one leaves no trace. -/
def appendToken (text token : List Char) : List Char :=
  if token.isEmpty then text
  else if needsBlank text token then text ++ ' ' :: token
  else text ++ token

/-- Writes a piece behind a text. -/
def Piece.append (text : List Char) : Piece → List Char
  | token t => appendToken text t.toList
  | opening name => appendToken text name.toList ++ ['(']

/-- Writes pieces behind a text. -/
def appendPieces (text : List Char) (pieces : List Piece) : List Char :=
  pieces.foldl Piece.append text

/-- The text of pieces. -/
def tokenText (pieces : List Piece) : String :=
  String.ofList (appendPieces [] pieces)

end SqlNormal.Text
