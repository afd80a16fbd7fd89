import Mathlib
import SqlNormal.Proofs.BesideQueries
import SqlNormal.Proofs.Faults
import SqlNormal.Proofs.Offsets

/-!
# Positions of faults

A fault of a form is told with a position. For a call that is the byte at which its name stands: the
reader keeps the location of the name, and the location is taken back to its byte. For a form that
is written with words it is the first place at which its word is found.

* `Expr.Occurs`, `Expr.clauses?`: the expressions inside another one, and what a call is written
  with; `start_of_occurs`: what stays in place as a whole has all calls in place;
* `keeping`: everything moves but some tokens; `place_of_readText`: what is read stays with them;
* `CallClauses.StandsAt`: a call stands at a byte of a text; `standsAt_of_place`: where it does;
* `Expr.RefusedCall`, `Expr.RefusedWord`: the faults of forms; `throws_toTree`: there are no others;
* **`position_of_form`**: where a fault lies.
-/

namespace SqlNormal

namespace Sql

open Reader

/-! ## Calls inside expressions -/

/-- An expression occurs in another one, or is the whole of it. -/
inductive Expr.Occurs (s : Expr) : Expr → Prop
  | here : Occurs s s
  | part {t e : Expr} : t ∈ e.parts → Occurs s t → Occurs s e

/-- What a call is written with. -/
def Expr.clauses? : Expr → Option CallClauses
  | bareCall c | queryCall c _ | call c _ _ _ => some c
  | _ => none

section Moved

variable (p : Move)

theorem Argument.exprs_place (args : List (Argument Expr)) :
    Argument.exprs (args.map (Argument.place p)) = (Argument.exprs args).map (Expr.place p) := by
  unfold Argument.exprs
  rw [List.filterMap_map, List.map_filterMap]
  congr 1
  funext a
  cases a <;> rfl

theorem Expr.parts_place (e : Expr) : (e.place p).parts = e.parts.map (place p) := by
  cases e with
  | call c quantifier args inner =>
    show Argument.exprs (place.placeArguments p args) = _
    rw [placeArguments_eq]
    exact Argument.exprs_place p args
  | case operand branches otherwise =>
    simp only [place, parts, placeOption_eq, placeBranches_eq, List.map_append, List.map_flatMap,
      List.flatMap_map, Option.toList_map]
    rfl
  | trim spec source what characters =>
    cases characters <;> simp [place, placeOption_eq, placeList_eq, Option.toList_map]
  | substring source start length comma | overlay source what start length =>
    simp [place, placeOption_eq, Option.toList_map]
  | _ => rfl

variable {p}

theorem Expr.place_of_occurs {s e : Expr} (h : e.place p = e) (hs : s.Occurs e) :
    s.place p = s := by
  induction hs with
  | here => exact h
  | @part t e ht _ ih =>
    have hparts : e.parts.map (place p) = e.parts.map id := by
      rw [← parts_place, h, List.map_id]
    exact ih (List.map_inj_left.mp hparts t ht)

/-- An expression that stays in place as a whole has all its calls in place. -/
theorem start_of_occurs {s e : Expr} {c : CallClauses} (h : e.place p = e) (hs : s.Occurs e)
    (hc : s.clauses? = some c) : p c.name.head? c.start = c.start := by
  have hstart (d : CallClauses) (hd : d.place p = d) : p d.name.head? d.start = d.start :=
    congrArg CallClauses.start hd
  have hplace := Expr.place_of_occurs h hs
  cases s with
  | bareCall d =>
    cases hc
    exact hstart c (Expr.bareCall.inj hplace)
  | queryCall d query =>
    cases hc
    exact hstart c (Expr.queryCall.inj hplace).1
  | call d quantifier args inner =>
    cases hc
    exact hstart c (Expr.call.inj hplace).1
  | _ => cases hc

end Moved

/-! ## Calls begin at tokens -/

/-- Everything moves but what stands where some tokens stand with their names. -/
def keeping (tokens : List Lexeme) : Move := fun name l =>
  if (name, l) ∈ tokens.map fun t => (identOf? t.token, t.start) then l
  else ⟨l.line + 1, l.column⟩

theorem exists_of_keeping {tokens : List Lexeme} {name : Option Ident} {l : Location}
    (h : keeping tokens name l = l) : ∃ t ∈ tokens, identOf? t.token = name ∧ t.start = l := by
  unfold keeping at h
  split_ifs at h with hmem
  · obtain ⟨t, ht, hpair⟩ := List.mem_map.mp hmem
    exact ⟨t, ht, congrArg Prod.fst hpair, congrArg Prod.snd hpair⟩
  · exact absurd (congrArg Location.line h) (Nat.succ_ne_self _)

theorem place_keeping (tokens : List Lexeme) : Placed.place (keeping tokens) tokens = tokens := by
  have hstays : ∀ t ∈ tokens, t.place (keeping tokens) = t := fun t ht => by
    unfold Lexeme.place keeping
    rw [if_pos (List.mem_map_of_mem ht)]
  exact (List.map_congr_left hstays).trans (List.map_id _)

/-- What is read from a text stays where the tokens of the text stay. -/
theorem place_of_readText {α : Type} [Placed α] {x : Reader α} (hx : ∀ c, Beside c x x)
    {source : String} {q : α × List Lexeme} (h : readText x source = .ok q) :
    ∃ tokens, tokenize? source = some tokens ∧ Placed.place (keeping tokens) q.1 = q.1 := by
  unfold readText at h
  split at h
  · rename_i tokens htokens
    have hrun := (((hx ⟨keeping tokens, False⟩).run tokens nofun).resolve_left And.left).1
    rw [place_keeping, h] at hrun
    exact ⟨tokens, htokens, (congrArg Prod.fst (Except.ok.inj hrun)).symm⟩
  · cases h

theorem place_of_readStatements {budget : Nat} {source : String} {ss : List Statement}
    (h : readStatements budget source = .ok ss) :
    ∃ tokens, tokenize? source = some tokens ∧ Placed.place (keeping tokens) ss = ss := by
  unfold readStatements at h
  cases hread : readText (fun tokens =>
      statementsFrom (rules budget) false (2 * tokens.length + 1) tokens) source with
  | error e =>
    rw [hread] at h
    cases h
  | ok q =>
    rw [hread] at h
    cases h
    exact place_of_readText (fun c => beside_statements c budget) hread

/-- A text begins with a token that is a name. -/
def BeginsWith (name : Ident) (text : String) : Prop :=
  ∃ first more token behind, text.toList = first :: more ∧
    readToken? first more = some (some token, behind) ∧ identOf? token = some name

/-- A call stands at a byte of a text: what is in front of it takes so many bytes, its location is
behind that, and its name is read there. -/
def CallClauses.StandsAt (c : CallClauses) (source : String) (position : Nat) : Prop :=
  ∃ before rest name, source = before ++ rest ∧ position = before.utf8ByteSize ∧
    c.start = .behind before ∧ c.name = [name] ∧ BeginsWith name rest

/-- **A call that stays with the tokens of a text stands at its position.** -/
theorem standsAt_of_place {source : String} {tokens : List Lexeme} {s e : Expr} {c : CallClauses}
    (htokens : tokenize? source = some tokens) (he : e.place (keeping tokens) = e)
    (hs : s.Occurs e) (hc : s.clauses? = some c) (hname : c.name.length = 1) (word : String) :
    c.StandsAt source (callPosition source word c.start) := by
  obtain ⟨t, ht, hident, hstart⟩ := exists_of_keeping (start_of_occurs he hs hc)
  obtain ⟨before, first, more, behind, hsource, hafter, hread⟩ :=
    standsIn_of_tokenize? htokens t ht
  obtain ⟨name, hname⟩ := List.length_eq_one_iff.mp hname
  have hsplit : source = String.ofList before ++ String.ofList (first :: more) := by
    rw [← String.ofList_append, ← hsource, String.ofList_toList]
  have hbehind : c.start = .behind (String.ofList before) := by
    rw [← hstart, hafter, Location.after_start, Location.behind, String.toList_ofList]
  have hoffset : byteOffset? source.toList c.start = some (String.ofList before).utf8ByteSize := by
    rw [hsplit, hbehind]
    exact byteOffset?_behind (by simp)
  refine ⟨String.ofList before, String.ofList (first :: more), name, hsplit, ?_, hbehind, hname,
    first, more, t.token, behind, String.toList_ofList, hread, ?_⟩
  · rw [callPosition, hoffset, Option.getD_some]
  · rw [hident, hname]
    rfl

/-! ## Faults of forms -/

/-- The shape for which a call with arguments is looked up. -/
def CallClauses.shapeOf (c : CallClauses) (quantifier : Option SetQuantifier) (argc : Nat) :
    CallShape :=
  { argc := argc
    alternative := (familyOf? (pathText c.name)).bind fun f => f.alternativeOf? (pathText c.name)
    quantifier := quantifier }

/-- A call is refused: the catalog refuses it, or a star that it has stands in the wrong place. -/
inductive Expr.RefusedCall : Expr → CallClauses → FormFault → Prop
  | bare {c : CallClauses} {fault : FormFault} :
      Refused (pathText c.name) (c.shapeOf none 0) fault → RefusedCall (.bareCall c) c fault
  | arguments {c : CallClauses} {quantifier : Option SetQuantifier} {args : List (Argument Expr)}
      {inner : List String} {fault : FormFault} :
      Refused (pathText c.name) (c.shapeOf quantifier args.length) fault →
      RefusedCall (.call c quantifier args inner) c fault
  | star {c : CallClauses} {inner : List String} {fault : FormFault} :
      Refused (pathText c.name) .ofStar fault → RefusedCall (.call c none [.star] inner) c fault
  | quantifier {c : CallClauses} {q : SetQuantifier} {inner : List String} :
      RefusedCall (.call c (some q) [.star] inner) c (.quantifierOnStar q)
  | starArgument {c : CallClauses} {quantifier : Option SetQuantifier}
      {args : List (Argument Expr)} {inner : List String} : .star ∈ args →
      RefusedCall (.call c quantifier args inner) c (.starArgument (pathText c.name))

/-- A form that is written with words is refused: a CASE without a branch, a TRIM with more than one
set of characters, a rounding that the catalog refuses. -/
inductive Expr.RefusedWord : Expr → String → FormFault → Prop
  | branches {operand otherwise : Option Expr} :
      RefusedWord (.case operand [] otherwise) "CASE" .caseWithoutBranch
  | sets {spec : Option TrimSpec} {operand first second : Expr} {others : List Expr} :
      RefusedWord (.trim spec operand none (some (first :: second :: others))) "TRIM" .trimSets
  | rounding {keyword : String} {operand : Expr} {scale : RoundingScale} {argc : Nat}
      {fault : FormFault} : Refused keyword (.ofCount argc) fault →
      RefusedWord (.rounding keyword operand scale) keyword fault

section Faults

variable {source : String}

/-- An expression itself is refused for a fault at a position. -/
def Expr.RefusedAt (source : String) (e : Expr) (position : Nat) (fault : FormFault) : Prop :=
  (∃ c, e.RefusedCall c fault ∧ c.name.length = 1 ∧
    position = callPosition source (pathText c.name) c.start) ∨
  ∃ word, e.RefusedWord word fault ∧ position = occurrence source word

/-- If the error is about a form, then about one that occurs in the expression. -/
def Expr.Explains (source : String) (e : Expr) (err : Error) : Prop :=
  ∀ position fault, err = .form position fault →
    ∃ s : Expr, s.Occurs e ∧ s.RefusedAt source position fault

namespace Expr

theorem explains_of_placeless {e : Expr} {err : Error} (h : err.Placeless) :
    e.Explains source err :=
  fun position fault herr => absurd herr (h.ne_form position fault)

theorem explains_form {e : Expr} {position : Nat} {fault : FormFault}
    (h : e.RefusedAt source position fault) : e.Explains source (.form position fault) := by
  rintro _ _ ⟨⟩
  exact ⟨e, .here, h⟩

theorem Explains.of_part {s e : Expr} {err : Error} (h : s.Explains source err)
    (hs : s ∈ e.parts) : e.Explains source err := by
  intro position fault herr
  obtain ⟨t, ht, hrefused⟩ := h position fault herr
  exact ⟨t, .part hs ht, hrefused⟩

end Expr

/-- A call whose arguments have trees is refused by the catalog or not at all. -/
theorem throws_checkCall {e : Expr} {c : CallClauses} {shape : CallShape}
    (hname : c.name.length = 1)
    (h : ∀ fault, Refused (pathText c.name) shape fault → e.RefusedCall c fault) :
    Throws (e.Explains source)
      (checkCall (pathText c.name) shape (callPosition source (pathText c.name) c.start)) := by
  refine (ends_checkCall _ _ _).mono ?_ fun _ _ => trivial
  rintro _ ⟨fault, rfl, hrefused⟩
  exact Expr.explains_form (.inl ⟨c, h fault hrefused, hname, rfl⟩)

/-- **The tree of an expression fails for a fault of a form only where a form is refused.** -/
theorem throws_toTree {e : Expr} (he : e.Formed) :
    Throws (e.Explains source) (e.toTree source) := by
  induction he with
  | @intro e _ _ ih =>
    have hplaceless (err : Error) (herr : err.Placeless) : e.Explains source err :=
      Expr.explains_of_placeless herr
    replace ih (s : Expr) (hs : s ∈ e.parts) : Throws (e.Explains source) (s.toTree source) :=
      (ih s hs).mono (fun _ hs' => hs'.of_part hs) fun _ _ => trivial
    have hoption (o : Option Expr) (ho : ∀ s ∈ o, s ∈ e.parts) :=
      ends_treeOption fun s hs => ih s (ho s hs)
    cases e with
    | constant c =>
      exact ends_bind ((placeless_literalOf c).ends hplaceless) fun _ _ => ends_pure trivial
    | name _ | path _ => exact ends_pure trivial
    | nested inner | isNull inner _ | extract _ inner _ =>
      exact ends_bind (ih inner (by simp)) fun _ _ => ends_pure trivial
    | binary left op right =>
      refine ends_bind (ih left (by simp)) fun _ _ => ?_
      refine ends_bind ((placeless_binaryOperator op).ends hplaceless) fun _ _ => ?_
      exact ends_bind (ih right (by simp)) fun _ _ => ends_pure trivial
    | unary op operand =>
      refine ends_bind ((placeless_unaryOperator op).ends hplaceless) fun _ _ => ?_
      exact ends_bind (ih operand (by simp)) fun _ _ => ends_pure trivial
    | like operand negated any pattern escape =>
      refine ends_ite (fun _ => ends_throw (hplaceless _ trivial)) fun _ => ?_
      exact ends_bind (R := fun _ => True) (ih operand (by simp)) fun _ _ =>
        ends_bind (ih pattern (by simp)) fun _ _ => ends_pure trivial
    | bareCall c =>
      refine ends_bind ((placeless_callKeyword c).ends hplaceless) ?_
      rintro _ ⟨rfl, hname⟩
      exact ends_bind (throws_checkCall hname fun _ => .bare) fun _ _ => ends_pure trivial
    | queryCall c query =>
      have hkeyword := (placeless_callKeyword c).ends hplaceless
      exact ends_bind (ends_map (R := fun _ => True) hkeyword fun _ _ => trivial) fun _ _ =>
        ends_throw (hplaceless _ trivial)
    | call c quantifier args inner =>
      refine ends_bind ((placeless_callKeyword c).ends hplaceless) ?_
      rintro _ ⟨rfl, hname⟩
      refine ends_ite (fun _ => ends_throw (hplaceless _ trivial)) fun _ => ?_
      have hargs := ends_treeArguments
        (fun hstar => Expr.explains_form (.inl ⟨c, .starArgument hstar, hname, rfl⟩))
        (fun _ => hplaceless _ trivial) ih
      split
      · cases quantifier with
        | none =>
          exact ends_bind (throws_checkCall hname fun _ => .star) fun _ _ => ends_pure trivial
        | some q =>
          exact ends_throw (Expr.explains_form (.inl ⟨c, .quantifier, hname, rfl⟩))
      · refine ends_bind hargs fun ts hts => ?_
        refine ends_bind (throws_checkCall hname fun fault hrefused => ?_) fun _ _ =>
          ends_pure trivial
        exact .arguments (hts.2 ▸ hrefused)
    | case operand branches otherwise =>
      have ho := hoption operand fun s hs => by simp_all
      have he := hoption otherwise fun s hs => by simp_all
      have hbs := ends_treeBranches fun b (hb : b ∈ branches) =>
        ⟨ih _ (mem_parts_of_branch hb).1, ih _ (mem_parts_of_branch hb).2⟩
      refine ends_ite (fun hempty => ends_throw (Expr.explains_form ?_)) fun _ => ?_
      · rw [List.isEmpty_iff] at hempty
        subst hempty
        exact .inr ⟨"CASE", .branches, rfl⟩
      · exact ends_bind ho fun _ _ => ends_bind hbs fun _ _ => ends_bind he fun _ _ =>
          ends_pure trivial
    | cast kind operand type format =>
      refine ends_bind ((placeless_checkCast kind format).ends hplaceless) fun _ _ => ?_
      exact ends_bind (ih operand (by simp)) fun _ _ => ends_pure trivial
    | trim spec operand what characters =>
      simp only [Expr.toTree]
      refine ends_bind (ih operand (by simp)) fun _ _ => ?_
      split
      · exact ends_bind (ih _ (by simp)) fun _ _ => ends_pure trivial
      · exact ends_pure trivial
      · exact ends_pure trivial
      · exact ends_bind (ih _ (by simp)) fun _ _ => ends_pure trivial
      · rename_i cs hnil hone _ _
        rcases cs with _ | ⟨first, _ | ⟨second, others⟩⟩
        · exact (hnil rfl).elim
        · exact (hone first rfl).elim
        · exact ends_throw (Expr.explains_form (.inr ⟨"TRIM", .sets, rfl⟩))
    | substring operand start length comma =>
      have hb := hoption start fun s hs => by simp_all
      have hl := hoption length fun s hs => by simp_all
      exact ends_bind (ih operand (by simp)) fun _ _ => ends_bind hb fun _ _ =>
        ends_bind hl fun _ _ => ends_pure trivial
    | position needle haystack =>
      exact ends_bind (ih needle (by simp)) fun _ _ =>
        ends_bind (ih haystack (by simp)) fun _ _ => ends_pure trivial
    | overlay operand what start length =>
      have hl := hoption length fun s hs => by simp_all
      exact ends_bind (ih operand (by simp)) fun _ _ => ends_bind (ih what (by simp)) fun _ _ =>
        ends_bind (ih start (by simp)) fun _ _ => ends_bind hl fun _ _ => ends_pure trivial
    | convert isTry operand type charset =>
      refine ends_ite (fun _ => ends_throw (hplaceless _ trivial)) fun _ => ?_
      refine ends_bind ((placeless_convertTarget type charset).ends hplaceless) fun _ _ => ?_
      exact ends_bind (ih operand (by simp)) fun _ _ => ends_pure trivial
    | rounding keyword operand scale =>
      refine ends_bind (ih operand (by simp)) fun _ _ => ?_
      refine ends_bind ((placeless_scaleTrees keyword scale).ends hplaceless) fun ts _ => ?_
      refine ends_bind ((ends_checkCall _ _ _).mono ?_ fun _ h => h) fun _ _ => ends_pure trivial
      rintro _ ⟨fault, rfl, hrefused⟩
      exact Expr.explains_form (.inr ⟨keyword, .rounding hrefused, rfl⟩)
    | typed type s =>
      simp only [Expr.toTree]
      split <;> exact ends_pure trivial
    | interval value qualifier =>
      exact ends_bind ((placeless_intervalText value).ends hplaceless) fun _ _ =>
        ends_pure trivial
    | other shown => exact ends_throw (hplaceless _ trivial)

/-- A form in an expression is refused for a fault: a call, at the byte at which it stands; a form
that is written with words, at the first place at which its word is found. -/
def Expr.FaultAt (source : String) (e : Expr) (position : Nat) (fault : FormFault) : Prop :=
  ∃ s : Expr, s.Occurs e ∧
    ((∃ c, s.RefusedCall c fault ∧ c.StandsAt source position) ∨
      ∃ word, s.RefusedWord word fault ∧ position = occurrence source word)

theorem Expr.RefusedCall.clauses?_eq {e : Expr} {c : CallClauses} {fault : FormFault}
    (h : e.RefusedCall c fault) : e.clauses? = some c := by
  cases h <;> rfl

/-- The faults of an expression that stays with the tokens of its text. -/
theorem faultAt_of_explains {tokens : List Lexeme} {e : Expr} {position : Nat} {fault : FormFault}
    (htokens : tokenize? source = some tokens) (he : e.place (keeping tokens) = e)
    (h : e.Explains source (.form position fault)) : e.FaultAt source position fault := by
  obtain ⟨s, hs, ⟨c, hrefused, hname, rfl⟩ | hword⟩ := h position fault rfl
  · exact ⟨s, hs, .inl ⟨c, hrefused, standsAt_of_place htokens he hs hrefused.clauses?_eq hname _⟩⟩
  · exact ⟨s, hs, .inr hword⟩

end Faults

end Sql

open Sql

/-! ## Faults of texts -/

/-- If the error is about a form, then about one of an expression that satisfies `R`. -/
def Error.FaultOf (source : String) (R : Expr → Prop) (err : Error) : Prop :=
  ∀ position fault, err = .form position fault → ∃ e, R e ∧ e.FaultAt source position fault

/-- A text that is not read has no fault of a form. -/
theorem faultOf_readWithin {α : Type} {source : String} {R : Expr → Prop} {bound : Nat}
    {read : Nat → Except Refusal α} : Ends (Failure.Answers (Error.FaultOf source R))
      (fun a => read (readingBudget bound) = .ok a) (readWithin bound read) :=
  ends_readWithin (fun refusal _ _ h => by cases refusal <;> cases h) fun _ ha => ha

/-- An expression that stays with the tokens of its text has its own faults. -/
theorem throws_faultOf {source : String} {R : Expr → Prop} {tokens : List Lexeme} {e : Expr}
    (htokens : tokenize? source = some tokens) (he : e.place (keeping tokens) = e)
    (hformed : e.Formed) (hR : R e) : Throws (Error.FaultOf source R) (e.toTree source) := by
  refine (throws_toTree hformed).mono ?_ fun _ _ => trivial
  rintro err hexplains position fault rfl
  exact ⟨e, hR, faultAt_of_explains htokens he hexplains⟩

theorem throws_ofText (bound : Nat) (source : String) :
    Throws (Failure.Answers (Error.FaultOf source fun e =>
      readExpr (readingBudget bound) source = .ok (e, []))) (Tree.ofText bound source) := by
  refine ends_bind faultOf_readWithin ?_
  rintro ⟨e, rest⟩ hread
  refine ends_answering ?_
  cases rest with
  | nil =>
    obtain ⟨tokens, htokens, hplace⟩ := place_of_readText (fun c => (beside_rules c _).expr 0) hread
    exact throws_faultOf htokens hplace (formed_of_readExpr hread) hread
  | cons l rest => exact ends_throw nofun

/-- The items of the only query that is read from a text. -/
def ReadsItems (bound : Nat) (source : String) (items : List SelectItem) : Prop :=
  ∃ shown, readStatements (readingBudget bound) source = .ok [.query ⟨.select items, shown⟩]

theorem throws_entriesOfText (bound : Nat) (source : String) :
    Throws (Failure.Answers (Error.FaultOf source fun e => ∃ items name,
      ReadsItems bound source items ∧ .expr e name ∈ items)) (entriesOfText bound source) := by
  refine ends_bind faultOf_readWithin fun ss hread => ends_answering ?_
  match ss with
  | [] | _ :: _ :: _ => exact ends_throw nofun
  | [.explanation _] | [.other _] => exact ends_throw nofun
  | [.query ⟨.other, _⟩] => exact ends_throw nofun
  | [.query ⟨.select items, shown⟩] =>
    have hformed := formed_of_readStatements hread _ List.mem_cons_self _ rfl _ rfl
    obtain ⟨tokens, htokens, hplace⟩ := place_of_readStatements hread
    have hquery := Statement.query.inj (List.cons.inj hplace).1
    have hitems := QueryBody.select.inj (congrArg Query.body hquery)
    refine (ends_mapM (R := fun _ => True) fun item hitem => ?_).mono (fun _ h => h) fun _ _ =>
      trivial
    have hitem' := List.map_inj_left.mp (hitems.trans (List.map_id items).symm) item hitem
    cases item with
    | star _ | tableStar _ _ => exact ends_pure trivial
    | expr e name =>
      have he : e.place (keeping tokens) = e := (SelectItem.expr.inj hitem').1
      exact ends_bind (throws_faultOf htokens he (hformed _ hitem)
        ⟨items, name, ⟨shown, hread⟩, hitem⟩) fun _ _ => ends_pure trivial

/-- **Where a fault lies.** Counting the lines of a text and the characters of its last one leads to
a location, and the location back to the byte behind that text. So the fault of a call is told at
the byte at which the call stands, wherever that is; any other fault of a form is told at the first
place at which the word of the form is found. -/
theorem position_of_form (bound : Nat) (source : String) :
    (∀ before rest, source = before ++ rest → rest ≠ "" →
      byteOffset? source.toList (.behind before) = some before.utf8ByteSize) ∧
    (∀ position fault, Tree.ofText bound source = .error (.answered (.form position fault)) →
      ∃ e, readExpr (readingBudget bound) source = .ok (e, []) ∧
        e.FaultAt source position fault) ∧
    ∀ position fault, entriesOfText bound source = .error (.answered (.form position fault)) →
      ∃ e, (∃ items name, ReadsItems bound source items ∧ .expr e name ∈ items) ∧
        e.FaultAt source position fault := by
  refine ⟨?_, fun position fault h => ?_, fun position fault h => ?_⟩
  · rintro before rest rfl hrest
    exact byteOffset?_behind hrest
  · exact (throws_ofText bound source).1 _ h _ rfl position fault rfl
  · exact (throws_entriesOfText bound source).1 _ h _ rfl position fault rfl

/-- The second line begins with a call that has too many arguments. The same name stands in front
of it, behind a letter of two bytes. -/
def secondLineText : String :=
  "SELECT é, ABS(x),\n  ABS(1, 2) FROM t"

/-- The call of the second line stands at byte 21, and an expression behind a letter and a sign at
byte 5. -/
theorem position_of_form_secondLine :
    let fault : FormFault := .mismatch (.argumentCount "ABS" ⟨1, some 1⟩ 2)
    byteOffset? secondLineText.toList ⟨2, 3⟩ = some 21 ∧
      (entriesOfText 50 secondLineText = .error (.answered (.form 21 fault)) ∧
        ∃ e, (∃ items name, ReadsItems 50 secondLineText items ∧ .expr e name ∈ items) ∧
          e.FaultAt secondLineText 21 fault) ∧
      Tree.ofText 50 "é + ABS(1, 2)" = .error (.answered (.form 5 fault)) ∧
        ∃ e, readExpr (readingBudget 50) "é + ABS(1, 2)" = .ok (e, []) ∧
          e.FaultAt "é + ABS(1, 2)" 5 fault := by
  intro fault
  have hsplit : secondLineText = "SELECT é, ABS(x),\n  " ++ "ABS(1, 2) FROM t" := by decide +kernel
  have hquery : entriesOfText 50 secondLineText = .error (.answered (.form 21 fault)) :=
    errorOf?_eq_some.mp (by decide +kernel)
  have hexpression : Tree.ofText 50 "é + ABS(1, 2)" = .error (.answered (.form 5 fault)) :=
    errorOf?_eq_some.mp (by decide +kernel)
  have h := position_of_form 50 secondLineText
  exact ⟨h.1 _ _ hsplit (by decide), ⟨hquery, h.2.2 21 fault hquery⟩, hexpression,
    (position_of_form 50 "é + ABS(1, 2)").2.1 5 fault hexpression⟩

end SqlNormal
