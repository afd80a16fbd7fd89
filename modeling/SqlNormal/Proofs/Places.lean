import SqlNormal.Proofs.Results
import SqlNormal.Sql.Reader.Basic
import SqlNormal.Tree.OfExpr

/-!
# Tokens at other places

What is read holds the places at which calls stand. They are shown nowhere: an expression has the
same text at another place, and the same tree, whatever text it was read from. Only the errors of
expressions without a tree tell where a call stands.

* `Move`: other places for tokens and calls, by the names that they begin with;
* `Placed`, `Fixed`: what holds places, and what holds none;
* `Expr.place`: an expression at another place;
* `Expr.text_place`, `Expr.alike_toTree_place`: what does not depend on places.
-/

namespace SqlNormal.Sql

/-! ## What holds places -/

/-- Another place for each place of a token or a call. It may depend on the name that stands there:
a call stands where its name begins. -/
abbrev Move := Option Ident → Location → Location

/-- What can be moved to other places. -/
class Placed (α : Type) where
  place : Move → α → α

/-- What holds no places stays as it is. -/
instance (priority := low) Placed.still {α : Type} : Placed α :=
  ⟨fun _ a => a⟩

/-- What stays as it is at any place. -/
class Fixed (α : Type) [Placed α] : Prop where
  place_eq (p : Move) (a : α) : Placed.place p a = a

instance (priority := low) Fixed.still {α : Type} : @Fixed α Placed.still :=
  @Fixed.mk α Placed.still fun _ _ => rfl

section Containers

variable {α β : Type} [Placed α] [Placed β]

instance : Placed (Option α) :=
  ⟨fun p => Option.map (Placed.place p)⟩

instance : Placed (List α) :=
  ⟨fun p => List.map (Placed.place p)⟩

instance : Placed (α × β) :=
  ⟨fun p => Prod.map (Placed.place p) (Placed.place p)⟩

instance [Fixed α] : Fixed (Option α) :=
  ⟨fun p a => by cases a <;> simp [Placed.place, Fixed.place_eq]⟩

instance [Fixed α] : Fixed (List α) :=
  ⟨fun p as => by
    have hplace : Placed.place p = (id : α → α) := funext (Fixed.place_eq p)
    simp [Placed.place, hplace]⟩

instance [Fixed α] [Fixed β] : Fixed (α × β) :=
  ⟨fun p a => by cases a; simp [Placed.place, Fixed.place_eq]⟩

end Containers

/-! ## Expressions -/

variable (p : Move)

/-- A token at another place. -/
def Lexeme.place (l : Lexeme) : Lexeme :=
  ⟨l.token, p (Reader.identOf? l.token) l.start⟩

/-- A call at another place. -/
def CallClauses.place (c : CallClauses) : CallClauses :=
  { c with start := p c.name.head? c.start }

/-- An expression with its calls at other places. -/
def Expr.place : Expr → Expr
  | constant c => constant c
  | name ident => name ident
  | path parts => path parts
  | nested inner => nested (place inner)
  | binary left op right => binary (place left) op (place right)
  | unary op operand => unary op (place operand)
  | isNull operand negated => isNull (place operand) negated
  | like operand negated any pattern escape =>
    like (place operand) negated any (place pattern) escape
  | bareCall clauses => bareCall (clauses.place p)
  | queryCall clauses query => queryCall (clauses.place p) query
  | call clauses quantifier args inner =>
    call (clauses.place p) quantifier (placeArguments args) inner
  | case operand branches otherwise =>
    case (placeOption operand) (placeBranches branches) (placeOption otherwise)
  | cast kind operand type format => cast kind (place operand) type format
  | trim spec source what none => trim spec (place source) (placeOption what) none
  | trim spec source what (some characters) =>
    trim spec (place source) (placeOption what) (some (placeList characters))
  | extract field source comma => extract field (place source) comma
  | substring source start length comma =>
    substring (place source) (placeOption start) (placeOption length) comma
  | position needle haystack => position (place needle) (place haystack)
  | overlay source what start length =>
    overlay (place source) (place what) (place start) (placeOption length)
  | convert isTry operand type charset => convert isTry (place operand) type charset
  | rounding keyword operand scale => rounding keyword (place operand) scale
  | typed type s => typed type s
  | interval value qualifier => interval (place value) qualifier
  | other shown => other shown
termination_by structural e => e
where
  /-- Expressions in a row at other places. -/
  placeList : List Expr → List Expr
    | [] => []
    | e :: es => place e :: placeList es
  termination_by structural es => es
  /-- Arguments at other places. -/
  placeArguments : List (Argument Expr) → List (Argument Expr)
    | [] => []
    | .expr e :: args => .expr (place e) :: placeArguments args
    | .star :: args => .star :: placeArguments args
    | .other shown :: args => .other shown :: placeArguments args
  termination_by structural args => args
  /-- The branches of a CASE at other places. -/
  placeBranches : List (Expr × Expr) → List (Expr × Expr)
    | [] => []
    | (condition, result) :: rest => (place condition, place result) :: placeBranches rest
  termination_by structural bs => bs
  /-- An expression that may be absent, at another place. -/
  placeOption : Option Expr → Option Expr
    | none => none
    | some e => some (place e)
  termination_by structural e => e

instance : Placed Lexeme := ⟨Lexeme.place⟩

instance : Placed CallClauses := ⟨CallClauses.place⟩

instance : Placed Expr := ⟨Expr.place⟩

/-- An argument at another place. -/
def Argument.place : Argument Expr → Argument Expr
  | .expr e => .expr (e.place p)
  | .star => .star
  | .other shown => .other shown

/-- An item of a projection at another place. -/
def SelectItem.place : SelectItem → SelectItem
  | star options => star options
  | tableStar table options => tableStar table options
  | expr e name => expr (e.place p) name

instance : Placed (Argument Expr) := ⟨Argument.place⟩

instance : Placed SelectItem := ⟨SelectItem.place⟩

/-- The body of a query at another place. -/
def QueryBody.place : QueryBody → QueryBody
  | select items => select (Placed.place p items)
  | other => other

/-- A query at another place. -/
def Query.place (q : Query) : Query :=
  ⟨q.body.place p, q.text⟩

/-- A statement at another place. -/
def Statement.place : Statement → Statement
  | query q => query (q.place p)
  | explanation shown => explanation shown
  | other shown => other shown

instance : Placed Query := ⟨Query.place⟩

instance : Placed Statement := ⟨Statement.place⟩

namespace Expr

theorem placeList_eq (es : List Expr) : place.placeList p es = es.map (place p) := by
  induction es with
  | nil => rfl
  | cons e es ih => rw [place.placeList, ih, List.map_cons]

theorem placeArguments_eq (args : List (Argument Expr)) :
    place.placeArguments p args = args.map (Argument.place p) := by
  induction args with
  | nil => rfl
  | cons a args ih => cases a <;> rw [place.placeArguments, ih, List.map_cons] <;> rfl

theorem placeBranches_eq (bs : List (Expr × Expr)) :
    place.placeBranches p bs = bs.map (Prod.map (place p) (place p)) := by
  induction bs with
  | nil => rfl
  | cons b bs ih => rw [place.placeBranches, ih, List.map_cons]; rfl

theorem placeOption_eq (e : Option Expr) : place.placeOption p e = e.map (place p) := by
  cases e <;> rfl

/-! ### Texts -/

mutual

theorem text_place : (e : Expr) → (e.place p).text = e.text
  | .constant _ | .name _ | .path _ | .bareCall _ | .queryCall _ _ | .typed _ _ | .other _ => rfl
  | .nested inner | .unary _ inner | .isNull inner _ | .cast _ inner _ _ | .extract _ inner _
  | .convert _ inner _ _ | .rounding _ inner _ | .interval inner _ => by
    simp only [place, text, text_place inner]
  | .binary left _ right | .like left _ _ right _ | .position left right => by
    simp only [place, text, text_place left, text_place right]
  | .call clauses _ args _ => by
    simp only [place, text, textArguments_place args]
    rfl
  | .case operand branches otherwise => by
    simp only [place, text, textOption_place operand, textBranches_place branches,
      textOption_place otherwise]
  | .trim _ source what none => by
    simp only [place, text, text_place source, textOption_place what]
  | .trim _ source what (some characters) => by
    simp only [place, text, text_place source, textOption_place what, textList_place characters]
  | .substring source start length _ => by
    simp only [place, text, text_place source, textOption_place start, textOption_place length]
  | .overlay source what start length => by
    simp only [place, text, text_place source, text_place what, text_place start,
      textOption_place length]
termination_by structural e => e

theorem textList_place : (es : List Expr) →
    text.textList (place.placeList p es) = text.textList es
  | [] => rfl
  | e :: es => by simp only [place.placeList, text.textList, text_place e, textList_place es]
termination_by structural es => es

theorem textArguments_place : (args : List (Argument Expr)) →
    text.textArguments (place.placeArguments p args) = text.textArguments args
  | [] => rfl
  | .expr e :: args => by
    simp only [place.placeArguments, text.textArguments, text_place e, textArguments_place args]
  | .star :: args | .other _ :: args => by
    simp only [place.placeArguments, text.textArguments, textArguments_place args]
termination_by structural args => args

theorem textBranches_place : (bs : List (Expr × Expr)) →
    text.textBranches (place.placeBranches p bs) = text.textBranches bs
  | [] => rfl
  | (condition, result) :: bs => by
    simp only [place.placeBranches, text.textBranches, text_place condition, text_place result,
      textBranches_place bs]
termination_by structural bs => bs

theorem textOption_place : (e : Option Expr) →
    text.textOption (place.placeOption p e) = text.textOption e
  | none => rfl
  | some e => by simp only [place.placeOption, text.textOption, text_place e]
termination_by structural e => e

end

@[simp] theorem text_placed (e : Expr) : (Placed.place p e).text = e.text :=
  e.text_place p

theorem textArguments_placed (args : List (Argument Expr)) :
    text.textArguments (Placed.place p args) = text.textArguments args := by
  show text.textArguments (args.map (Argument.place p)) = _
  rw [← placeArguments_eq, textArguments_place]

theorem call_placed (clauses : CallClauses) (quantifier : Option SetQuantifier)
    (args : List (Argument Expr)) (inner : List String) :
    Placed.place p (call clauses quantifier args inner) =
      call (clauses.place p) quantifier (Placed.place p args) inner := by
  show Expr.place p _ = _
  rw [place, placeArguments_eq]
  rfl

end Expr

theorem SelectItem.text_placed (item : SelectItem) : (Placed.place p item).text = item.text := by
  cases item with
  | expr e name => exact congrArg (· ++ _) (e.text_place p)
  | star _ | tableStar _ _ => rfl

/-! ### Trees -/

section Trees

variable (source source' : String)

theorem alike_checkCall (keyword : String) (shape : CallShape) (position position' : Nat) :
    Alike (checkCall keyword shape position) (checkCall keyword shape position') := by
  unfold checkCall
  split
  · exact alike_refl _
  · exact alike_throw _ _
  · exact alike_throw _ _
  · exact alike_refl _

theorem alike_callTree (c : CallClauses) (keyword : String) (quantifier : Option SetQuantifier)
    (parenthesized : Bool) (args : List Tree) :
    Alike (callTree source c keyword quantifier parenthesized args)
      (callTree source' (c.place p) keyword quantifier parenthesized args) :=
  alike_bind (alike_checkCall _ _ _ _) fun _ => alike_refl _

theorem alike_starTree (c : CallClauses) (keyword : String) (quantifier : Option SetQuantifier) :
    Alike (starTree source c keyword quantifier)
      (starTree source' (c.place p) keyword quantifier) := by
  cases quantifier with
  | some q => exact alike_throw _ _
  | none => exact alike_bind (alike_checkCall _ _ _ _) fun _ => alike_refl _

theorem alike_intervalText_place (value : Expr) :
    Alike (intervalText value) (intervalText (value.place p)) := by
  cases value with
  | constant c => exact alike_refl _
  | trim spec operand what characters => cases characters <;> exact alike_throw _ _
  | _ => exact alike_throw _ _

theorem placeArguments_eq_star {args : List (Argument Expr)} :
    Expr.place.placeArguments p args = [.star] ↔ args = [.star] := by
  rcases args with _ | ⟨_ | _ | _, _ | ⟨_ | _ | _, _⟩⟩ <;> simp [Expr.place.placeArguments]

namespace Expr

open toTree

mutual

/-- **An expression has the same tree at another place of another text**, or none there either. -/
theorem alike_toTree_place : (e : Expr) → Alike (e.toTree source) ((e.place p).toTree source')
  | constant _ | name _ | path _ | typed _ _ | other _ => alike_refl _
  | nested inner | isNull inner _ | extract _ inner _ =>
    alike_bind (alike_toTree_place inner) fun _ => alike_refl _
  | unary _ operand | cast _ operand _ _ =>
    alike_bind (alike_refl _) fun _ => alike_bind (alike_toTree_place operand) fun _ => alike_refl _
  | binary left _ right =>
    alike_bind (alike_toTree_place left) fun _ => alike_bind (alike_refl _) fun _ =>
      alike_bind (alike_toTree_place right) fun _ => alike_refl _
  | like operand _ _ pattern _ =>
    alike_ite (alike_refl _) <| alike_bind (alike_toTree_place operand) fun _ =>
      alike_bind (alike_toTree_place pattern) fun _ => alike_refl _
  | bareCall clauses => alike_bind (alike_refl _) fun _ => alike_callTree p _ _ clauses _ _ _ _
  | queryCall _ _ => alike_bind (alike_refl _) fun _ => alike_throw _ _
  | call clauses quantifier args _ => by
    refine alike_bind (alike_refl _) fun keyword => alike_ite (alike_throw _ _) ?_
    by_cases hstar : args = [.star]
    · subst hstar
      exact alike_starTree p source source' clauses keyword quantifier
    · -- neither match takes its first case
      have hstar' := mt (placeArguments_eq_star p).mp hstar
      split
      · exact absurd rfl hstar
      · exact alike_bind (alike_treeArguments_place keyword clauses.start _ args) fun _ =>
          alike_callTree p _ _ clauses _ _ _ _
  | case operand branches otherwise => by
    have hempty : (place.placeBranches p branches).isEmpty = branches.isEmpty := by
      cases branches <;> rfl
    simp only [place, toTree, hempty]
    exact alike_ite (alike_throw _ _) <| alike_bind (alike_treeOption_place operand) fun _ =>
      alike_bind (alike_treeBranches_place branches) fun _ =>
        alike_bind (alike_treeOption_place otherwise) fun _ => alike_refl _
  | trim _ operand (some w) none | trim _ operand (some w) (some _) =>
    alike_bind (alike_toTree_place operand) fun _ => alike_bind (alike_toTree_place w) fun _ =>
      alike_refl _
  | trim _ operand none none | trim _ operand none (some []) =>
    alike_bind (alike_toTree_place operand) fun _ => alike_refl _
  | trim _ operand none (some [c]) =>
    alike_bind (alike_toTree_place operand) fun _ => alike_bind (alike_toTree_place c) fun _ =>
      alike_refl _
  | trim _ operand none (some (_ :: _ :: _)) =>
    alike_bind (alike_toTree_place operand) fun _ => alike_throw _ _
  | substring operand start length _ =>
    alike_bind (alike_toTree_place operand) fun _ =>
      alike_bind (alike_treeOption_place start) fun _ =>
        alike_bind (alike_treeOption_place length) fun _ => alike_refl _
  | position needle haystack =>
    alike_bind (alike_toTree_place needle) fun _ =>
      alike_bind (alike_toTree_place haystack) fun _ => alike_refl _
  | overlay operand what start length =>
    alike_bind (alike_toTree_place operand) fun _ => alike_bind (alike_toTree_place what) fun _ =>
      alike_bind (alike_toTree_place start) fun _ =>
        alike_bind (alike_treeOption_place length) fun _ => alike_refl _
  | convert _ operand _ _ =>
    alike_ite (alike_refl _) <| alike_bind (alike_refl _) fun _ =>
      alike_bind (alike_toTree_place operand) fun _ => alike_refl _
  | rounding _ operand _ =>
    alike_bind (alike_toTree_place operand) fun _ => alike_bind (alike_refl _) fun _ =>
      alike_bind (alike_checkCall _ _ _ _) fun _ => alike_refl _
  | interval value _ => alike_bind (alike_intervalText_place p value) fun _ => alike_refl _
termination_by structural e => e

theorem alike_treeArguments_place (keyword : String) (start start' : Location) :
    (args : List (Argument Expr)) → Alike (treeArguments source keyword start args)
      (treeArguments source' keyword start' (place.placeArguments p args))
  | [] => alike_refl _
  | .expr e :: args =>
    alike_bind (alike_toTree_place e) fun _ =>
      alike_bind (alike_treeArguments_place keyword start start' args) fun _ => alike_refl _
  | .star :: _ => alike_throw _ _
  | .other _ :: _ => alike_throw _ _
termination_by structural args => args

theorem alike_treeBranches_place : (bs : List (Expr × Expr)) →
    Alike (treeBranches source bs) (treeBranches source' (place.placeBranches p bs))
  | [] => alike_refl _
  | (condition, result) :: bs =>
    alike_bind (alike_toTree_place condition) fun _ =>
      alike_bind (alike_toTree_place result) fun _ =>
        alike_bind (alike_treeBranches_place bs) fun _ => alike_refl _
termination_by structural bs => bs

theorem alike_treeOption_place : (e : Option Expr) →
    Alike (treeOption source e) (treeOption source' (place.placeOption p e))
  | none => alike_refl _
  | some e => alike_bind (alike_toTree_place e) fun _ => alike_refl _
termination_by structural e => e

end

end Expr

/-- An item of a projection has the same entry at another place of another text. -/
theorem alike_toEntry_place (item : SelectItem) :
    Alike (item.toEntry source) ((item.place p).toEntry source') := by
  cases item with
  | star options | tableStar table options => exact alike_refl _
  | expr e name => exact alike_bind (e.alike_toTree_place p source source') fun _ => alike_refl _

end Trees

end SqlNormal.Sql
