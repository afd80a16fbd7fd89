import SqlNormal.Proofs.Beside
import SqlNormal.Sql.Reader.Climb

/-!
# Readings of expressions beside each other

What lies inside an expression is read by other readers. If those read alike, so do the readers of
expressions. A word whose form is too deep may be taken for a name; a plain word never is.

* `Rules.Beside`: the readers of what lies inside read alike;
* `beside_argumentList`, `beside_callOf`: calls;
* `beside_specialForm`, `beside_wordForm`: words, with a form of their own or without;
* `beside_goesOn`, `beside_climb`, `beside_exprOf`: expressions at a level.
-/

namespace SqlNormal.Sql

variable {c : Shift}

/-! ## What lies inside -/

/-- A star or an expression at another place. -/
def Star.place (p : Move) : Star → Star
  | all => all
  | table parts => table parts
  | expr e => expr (e.place p)

instance : Placed Star := ⟨Star.place⟩

@[simp] theorem Star.text_placed (p : Move) (s : Star) :
    (Placed.place p s).text = s.text := by
  cases s with
  | expr e => exact e.text_place p
  | all | table _ => rfl

/-- Readers of what lies inside that read alike. -/
class Rules.Beside (c : Shift) (r r' : Rules) : Prop where
  expr (level : Nat) : Reader.Beside c (r.expr level) (r'.expr level)
  query : Reader.Beside c r.query r'.query
  statement : Reader.Beside c r.statement r'.statement

namespace Reader

variable {r r' : Rules} [hr : r.Beside c r']

-- An instance is as large as the reader that it is for.
set_option synthInstance.maxSize 1000

instance beside_expr (level : Nat) : Beside c (r.expr level) (r'.expr level) :=
  hr.expr level

instance beside_whole : Beside c r.whole r'.whole :=
  hr.expr 0

instance beside_wholeText : Beside c r.wholeText r'.wholeText :=
  beside_bind beside_whole fun e => beside_pure (e.text_place _)

instance beside_wholeTexts : Beside c r.wholeTexts r'.wholeTexts := by
  unfold Rules.wholeTexts
  infer_instance

instance beside_queryText : Beside c r.queryText r'.queryText :=
  beside_bind hr.query fun _ => beside_pure rfl

omit hr in
instance beside_tableStarFrom (fuel : Nat) :
    Beside c (tableStarFrom fuel) (tableStarFrom fuel) := by
  induction fuel with
  | zero => exact beside_refuse
  | succ fuel ih =>
    unfold tableStarFrom
    infer_instance

omit hr in
instance beside_starOrExpr {whole whole' : Reader Expr} [Beside c whole whole'] :
    Beside c (starOrExpr whole) (starOrExpr whole') := by
  have hexpr : Beside c (do return Star.expr (← whole)) (do return Star.expr (← whole')) :=
    beside_bind inferInstance fun _ => beside_pure rfl
  refine beside_get fun tokens hadmits => beside_then fun star => ?_
  refine beside_either (beside_pure rfl) ?_
  cases tokens with
  | nil => exact hexpr
  | cons l rest =>
    have hcons : Placed.place c.place (l :: rest) =
        ⟨l.token, c.place (identOf? l.token) l.start⟩ :: Placed.place c.place rest := rfl
    rw [hcons]
    dsimp only
    cases hi : identOf? l.token with
    | none => exact hexpr
    | some i =>
      rw [hi] at hcons
      refine beside_set (hadmits.mono fun _ => List.mem_cons_of_mem _) ?_
      rw [length_place]
      refine beside_then fun found => ?_
      cases found with
      | some parts => exact beside_pure rfl
      | none =>
        rw [← hcons]
        exact beside_set hadmits hexpr

omit hr in
instance beside_dateTimeField : Beside c dateTimeField dateTimeField := by
  refine beside_then fun word => ?_
  split <;> infer_instance

omit hr in
instance beside_intervalOf {value value' : Reader Expr} [Beside c value value'] :
    Beside c (intervalOf value) (intervalOf value') := by
  have hinterval (v : Expr) (q : IntervalQualifier) : Beside c (pure (Expr.interval v q))
      (pure (Expr.interval (Placed.place c.place v) q)) := beside_pure rfl
  refine beside_bind inferInstance fun v => beside_then fun word => ?_
  dsimp only
  infer_instance

/-! ## Calls -/

instance beside_fillText : Beside c (fillText r) (fillText r') := by
  unfold fillText
  infer_instance

instance beside_orderItem : Beside c (orderItem r) (orderItem r') := by
  unfold orderItem
  dsimp only
  infer_instance

instance beside_orderBy? : Beside c (orderBy? r) (orderBy? r') := by
  unfold orderBy?
  infer_instance

omit hr in
instance beside_nullTreatment? : Beside c nullTreatment? nullTreatment? := by
  refine beside_then fun word => ?_
  split <;> infer_instance

section Window

variable {interval interval' : Reader Expr} [Beside c interval interval']

instance beside_frameBound : Beside c (frameBound r interval) (frameBound r' interval') := by
  have htext : Beside c (interval >>= fun e => pure e.text) (interval' >>= fun e => pure e.text) :=
    beside_bind inferInstance fun e => beside_pure (e.text_place _)
  refine beside_then fun current => beside_either inferInstance (beside_then fun unbounded => ?_)
  refine beside_either inferInstance (beside_then fun token => ?_)
  split
  · refine beside_bind inferInstance fun e => ?_
    rw [Expr.text_placed]
    infer_instance
  · infer_instance

instance beside_windowFrame : Beside c (windowFrame r interval) (windowFrame r' interval') := by
  unfold windowFrame
  infer_instance

instance beside_window : Beside c (window r interval) (window r' interval') := by
  refine beside_then fun token => ?_
  split
  · refine beside_then fun word => ?_
    dsimp only
    infer_instance
  · dsimp only
    infer_instance

end Window

omit hr in
instance beside_namedOperator : Beside c namedOperator namedOperator := by
  unfold namedOperator
  infer_instance

instance beside_namedArgument : Beside c (namedArgument r) (namedArgument r') := by
  refine beside_then fun name => beside_then fun sign => beside_bind inferInstance fun s => ?_
  exact beside_pure (by simp [Fixed.place_eq])

instance beside_argument : Beside c (argument r) (argument r') := by
  refine beside_then fun named => ?_
  cases named with
  | some text => exact beside_pure rfl
  | none =>
    refine beside_bind inferInstance fun s => ?_
    cases s <;> exact beside_pure rfl

omit hr in
instance beside_nullClause? : Beside c nullClause? nullClause? := by
  unfold nullClause?
  infer_instance

instance beside_overflow? : Beside c (overflow? r) (overflow? r') := by
  refine beside_behindWords _ (beside_then fun fails => beside_either inferInstance ?_)
  refine beside_then fun _ => beside_then fun token => ?_
  split <;> infer_instance

instance beside_havingBound : Beside c (havingBound r) (havingBound r') := by
  unfold havingBound
  infer_instance

omit hr in
instance beside_quantifier? : Beside c quantifier? quantifier? := by
  unfold quantifier?
  infer_instance

/-- Arguments and clauses at another place. -/
def ArgumentList.place (p : Move) (l : ArgumentList) : ArgumentList :=
  { l with args := Placed.place p l.args }

instance : Placed ArgumentList := ⟨ArgumentList.place⟩

omit hr in
theorem ArgumentList.mk_placed (p : Move) (quantifier : Option SetQuantifier)
    (args : List (Argument Expr)) (clauses : List String) (treatsNulls : Bool) :
    Placed.place p (mk quantifier args clauses treatsNulls) =
      mk quantifier (Placed.place p args) clauses treatsNulls :=
  rfl

omit hr in
@[simp] theorem ArgumentList.text_placed (p : Move) (l : ArgumentList) :
    (Placed.place p l).text = l.text := by
  show Expr.argumentsText _ (Expr.text.textArguments (Placed.place p l.args)) _ = _
  rw [Expr.textArguments_placed]
  rfl

instance beside_argumentList : Beside c (argumentList r) (argumentList r') := by
  refine beside_then fun early => beside_then fun closed => beside_either (beside_pure rfl) ?_
  refine beside_then fun quantifier => beside_bind inferInstance fun args => ?_
  have hlist (nulls order limit having separator overflow late : Option String) :
      Beside c (pure (ArgumentList.mk quantifier args
        (early.toList ++ nulls.toList ++ order.toList ++ limit.toList ++ having.toList ++
          separator.toList ++ overflow.toList ++ late.toList) nulls.isSome))
      (pure (ArgumentList.mk quantifier (Placed.place c.place args)
        (early.toList ++ nulls.toList ++ order.toList ++ limit.toList ++ having.toList ++
          separator.toList ++ overflow.toList ++ late.toList) nulls.isSome)) :=
    beside_pure rfl
  infer_instance

instance beside_withinGroup : Beside c (withinGroup r) (withinGroup r') := by
  unfold withinGroup
  infer_instance

section Window

variable {interval interval' : Reader Expr} [Beside c interval interval']

instance beside_callWindow? :
    Beside c (callWindow? r interval) (callWindow? r' interval') := by
  unfold callWindow?
  infer_instance

instance beside_callOf (name : List Ident) (start : Location) (braces : Bool) :
    Beside c (callOf r interval name start braces)
      (callOf r' interval' name (c.place name.head? start) braces) := by
  refine beside_then fun _ => beside_bind inferInstance fun first => beside_then fun again => ?_
  extract_lets rest rest'
  have hrest (parameters : Option String) (list : ArgumentList) :
      Beside c (rest (parameters, list)) (rest' (parameters, Placed.place c.place list)) := by
    obtain ⟨quantifier, args, texts, treatsNulls⟩ := list
    have hcall (group : List String) (nulls text : Option String) : Beside c
        (pure (Expr.call ⟨name, start, braces, parameters, group, none, nulls, text⟩
          quantifier args texts))
        (pure (Expr.call ⟨name, c.place name.head? start, braces, parameters, group, none, nulls, text⟩
          quantifier (Placed.place c.place args) texts)) :=
      beside_pure (by rw [Expr.call_placed]; rfl)
    unfold rest rest'
    rw [ArgumentList.mk_placed]
    infer_instance
  refine beside_either (beside_bind inferInstance fun second => ?_) (hrest none first)
  rw [ArgumentList.text_placed]
  exact hrest _ second

end Window

/-! ## Beginnings -/

section Forms

variable {inner inner' : Reader Expr} [Beside c inner inner']

omit hr in
instance beside_typedString : Beside c (typedString inner) (typedString inner') := by
  refine beside_then fun type => ?_
  split
  · infer_instance
  · infer_instance
  · exact beside_then fun s => beside_pure rfl
  · exact beside_then fun s => beside_pure rfl

instance beside_timeCall (clauses : CallClauses) :
    Beside c (timeCall r clauses) (timeCall r' (clauses.place c.place)) := by
  refine beside_then fun opened => beside_either (beside_bind inferInstance fun list => ?_) ?_
  · exact beside_pure (Expr.call_placed ..).symm
  · exact beside_pure rfl

instance beside_branch : Beside c (branch r) (branch r') :=
  beside_bind inferInstance fun _ => beside_then fun _ => beside_bind inferInstance fun _ =>
    beside_pure rfl

instance beside_caseForm : Beside c (caseForm r) (caseForm r') := by
  refine beside_then fun tested => ?_
  extract_lets rest rest'
  have hrest (operand : Option Expr) :
      Beside c (rest operand) (rest' (Placed.place c.place operand)) := by
    refine beside_then fun _ => beside_bind inferInstance fun first => ?_
    refine beside_bind inferInstance fun more => beside_bind inferInstance fun otherwise => ?_
    refine beside_then fun _ => beside_pure ?_
    show _ = Expr.place c.place _
    rw [Expr.place, Expr.placeOption_eq, Expr.placeOption_eq, Expr.placeBranches_eq]
    rfl
  exact beside_either (hrest none) (beside_bind inferInstance hrest)

instance beside_convertForm (isTry : Bool) :
    Beside c (convertForm r isTry) (convertForm r' isTry) := by
  unfold convertForm
  refine beside_within (beside_bind inferInstance fun operand => ?_)
  have hconvert (type : Option DataType) (charset : Option String) :
      Beside c (pure (Expr.convert isTry operand type charset))
        (pure (Expr.convert isTry (Placed.place c.place operand) type charset)) :=
    beside_pure rfl
  infer_instance

omit hr in
instance beside_castFormat? : Beside c castFormat? castFormat? := by
  unfold castFormat?
  infer_instance

instance beside_castForm (kind : CastKind) : Beside c (castForm r kind) (castForm r' kind) := by
  unfold castForm
  refine beside_within (beside_bind inferInstance fun operand => ?_)
  exact beside_then fun _ => beside_then fun _ => beside_then fun _ => beside_pure rfl

omit hr in
instance beside_other (text : String) :
    Beside c (pure (Expr.other text)) (pure (Expr.other text)) :=
  beside_pure rfl

instance beside_existsForm (negated : Bool) :
    Beside c (existsForm r negated) (existsForm r' negated) := by
  unfold existsForm
  infer_instance

instance beside_extractForm : Beside c (extractForm r) (extractForm r') := by
  unfold extractForm
  have hextract (field : String) (comma : Bool) :
      Beside c (r.whole >>= fun e => pure (Expr.extract field e comma))
        (r'.whole >>= fun e => pure (Expr.extract field e comma)) :=
    beside_bind inferInstance fun _ => beside_pure rfl
  infer_instance

instance beside_roundingForm (keyword : String) :
    Beside c (roundingForm r keyword) (roundingForm r' keyword) := by
  unfold roundingForm
  refine beside_within (beside_bind inferInstance fun operand => ?_)
  have hrounding (scale : RoundingScale) :
      Beside c (pure (Expr.rounding keyword operand scale))
        (pure (Expr.rounding keyword (Placed.place c.place operand) scale)) :=
    beside_pure rfl
  refine beside_then fun field => beside_either inferInstance (beside_then fun comma => ?_)
  refine beside_either (beside_then fun scale => ?_) inferInstance
  split <;> infer_instance

instance beside_positionForm : Beside c (positionForm r) (positionForm r') := by
  unfold positionForm
  refine beside_within (beside_bind inferInstance fun needle => ?_)
  exact beside_then fun _ => beside_bind inferInstance fun haystack => beside_pure rfl

instance beside_substringForm : Beside c (substringForm r) (substringForm r') := by
  unfold substringForm
  refine beside_within (beside_bind inferInstance fun source => ?_)
  refine beside_then fun comma => ?_
  have hrest (start length : Option Expr) : Beside c
      (pure (Expr.substring source start length comma))
      (pure (Expr.substring (Placed.place c.place source) (Placed.place c.place start)
        (Placed.place c.place length) comma)) := by
    refine beside_pure ?_
    show _ = Expr.place c.place _
    rw [Expr.place, Expr.placeOption_eq, Expr.placeOption_eq]
    rfl
  extract_lets _ rest _ rest'
  have hbegins (begins : Bool) : Beside c (rest begins) (rest' begins) :=
    beside_optional fun start => beside_then fun found => beside_either
      (beside_then fun goes => beside_optional fun length => hrest start length)
      (beside_then fun goes => beside_optional fun length => hrest start length)
  infer_instance

instance beside_overlayForm : Beside c (overlayForm r) (overlayForm r') := by
  unfold overlayForm
  refine beside_within (beside_bind inferInstance fun source => ?_)
  refine beside_then fun _ => beside_bind inferInstance fun what => ?_
  refine beside_then fun _ => beside_bind inferInstance fun start => ?_
  refine beside_bind inferInstance fun length => beside_pure ?_
  show _ = Expr.place c.place _
  rw [Expr.place, Expr.placeOption_eq]
  rfl

omit hr in
instance beside_trimSpec? : Beside c trimSpec? trimSpec? := by
  refine beside_then fun word => ?_
  split <;> infer_instance

instance beside_trimForm : Beside c (trimForm r) (trimForm r') := by
  unfold trimForm
  refine beside_within (beside_then fun spec => ?_)
  refine beside_bind inferInstance fun first => beside_then fun found => ?_
  refine beside_either (beside_bind inferInstance fun source => beside_pure rfl) ?_
  refine beside_then fun comma => beside_either ?_ (beside_pure rfl)
  refine beside_bind inferInstance fun characters => beside_pure ?_
  show _ = Expr.place c.place _
  rw [Expr.place, Expr.placeList_eq]
  rfl

instance beside_arrayText : Beside c (arrayText r) (arrayText r') := by
  unfold arrayText
  infer_instance

omit hr in
instance beside_searchMode? : Beside c searchMode? searchMode? := by
  unfold searchMode?
  infer_instance

omit hr in
instance beside_searchText : Beside c searchText searchText := by
  unfold searchText
  infer_instance

instance beside_structValue (isTyped : Bool) :
    Beside c (structValue r isTyped) (structValue r' isTyped) := by
  unfold structValue
  infer_instance

instance beside_structLiteral : Beside c (structLiteral r) (structLiteral r') := by
  refine beside_get fun tokens _ => ?_
  rw [length_place]
  infer_instance

instance beside_pairsText {key key' : Reader String} [Beside c key key'] :
    Beside c (pairsText r key) (pairsText r' key') := by
  unfold pairsText
  infer_instance

instance beside_specialForm (token : Token) (start : Location) (i : Ident) :
    Beside c (specialForm r inner ⟨token, start⟩ i)
      (specialForm r' inner' ⟨token, c.place (some i) start⟩ i) := by
  have leaf (e : Expr) (h : e.place c.place = e) :
      Beside c (pure (some e) : Reader (Option Expr)) (pure (some e)) :=
    beside_pure (congrArg some h.symm)
  have nothing : Beside c (pure none : Reader (Option Expr)) (pure none) := beside_pure rfl
  unfold specialForm
  dsimp only
  split
  iterate 3 exact leaf _ rfl
  iterate 4 exact beside_pure rfl
  iterate 5 exact beside_given (beside_timeCall { name := [i], start := start })
  iterate 10 infer_instance
  · refine beside_then fun opened => beside_either (beside_bind inferInstance fun o => ?_) nothing
    cases o with
    | some e => exact beside_pure rfl
    | none => exact beside_given (beside_callOf ..)
  iterate 4 infer_instance
  · have hother (text : String) := leaf (.other text) rfl
    have hquery (text : String) : Beside c
        (pure (some (Expr.queryCall { name := [i], start := start } text)))
        (pure (some (Expr.queryCall { name := [i], start := c.place (some i) start } text))) :=
      beside_pure rfl
    infer_instance
  · refine beside_then fun found => beside_either inferInstance ?_
    exact beside_bind inferInstance fun e => beside_pure rfl
  · exact beside_then fun text => leaf _ rfl
  · exact beside_then fun text => leaf _ rfl
  · have hother (text : String) := leaf (.other text) rfl
    infer_instance
  · exact nothing

omit hr in
instance beside_pathRest (fuel : Nat) : Beside c (pathRest fuel) (pathRest fuel) := by
  induction fuel with
  | zero => exact beside_refuse
  | succ fuel ih =>
    unfold pathRest
    infer_instance

omit hr in
instance beside_introduced? (i : Ident) : Beside c (introduced? i) (introduced? i) := by
  have shown (text : String) : Beside c
      (skip 1 >>= fun _ => pure (some (Expr.other text)))
      (skip 1 >>= fun _ => pure (some (Expr.other text))) :=
    beside_then fun _ => beside_pure rfl
  refine beside_then fun token => ?_
  split
  · exact shown _
  · exact shown _
  · exact beside_pure rfl

instance beside_ordinaryWord (token : Token) (start : Location) (i : Ident) :
    Beside c (ordinaryWord r inner ⟨token, start⟩ i)
      (ordinaryWord r' inner' ⟨token, c.place (some i) start⟩ i) := by
  refine beside_then fun opened => beside_then fun pointed => beside_either ?_ ?_
  · refine beside_get fun tokens _ => ?_
    rw [length_place]
    refine beside_then fun rest => beside_then fun called => ?_
    exact beside_either (beside_callOf _ _ _) (beside_pure rfl)
  · refine beside_bind inferInstance fun o => ?_
    cases o <;> exact beside_pure rfl

omit hr in
/-- A plain word has a form that can be refused only if it is reserved. -/
theorem reserved_of_refused {r : Rules} {inner : Reader Expr} {token : Token} {start : Location}
    {i : Ident} {tokens : List Lexeme} {e : Refusal} (hplain : (Lexeme.mk token start).Plain)
    (h : specialForm r inner ⟨token, start⟩ i tokens = .error e) :
    reservedForIdentifier.contains token.keyword = true := by
  unfold Lexeme.Plain at hplain
  unfold specialForm at h
  dsimp only at hplain h
  generalize token.keyword = key at hplain h ⊢
  split at h
  all_goals first
    | decide
    | exact absurd (by decide) hplain
    | cases h

theorem beside_wordForm (token : Token) (start : Location) (i : Ident)
    (hplain : c.stops → (Lexeme.mk token start).Plain) :
    Beside c (wordForm r inner ⟨token, start⟩ i)
      (wordForm r' inner' ⟨token, c.place (some i) start⟩ i) := by
  constructor
  intro tokens hadmits
  have hspecial : Beside c (specialForm r inner ⟨token, start⟩ i)
    (specialForm r' inner' ⟨token, c.place (some i) start⟩ i) := beside_specialForm token start i
  have hordinary : Beside c (ordinaryWord r inner ⟨token, start⟩ i)
    (ordinaryWord r' inner' ⟨token, c.place (some i) start⟩ i) := beside_ordinaryWord token start i
  have hname : Beside c (ordinaryWord r inner ⟨token, start⟩ i >>= fun e => pure (e, false))
      (ordinaryWord r' inner' ⟨token, c.place (some i) start⟩ i >>= fun e => pure (e, false)) :=
    beside_bind hordinary fun e => beside_pure rfl
  unfold wordForm
  dsimp only
  rcases hspecial.run tokens hadmits with ⟨hstops, hx⟩ | ⟨hy, hrest⟩
  · rw [hx]
    dsimp only
    rw [if_pos (reserved_of_refused (hplain hstops) hx)]
    exact .inl ⟨hstops, rfl⟩
  · rw [hy]
    cases hx : specialForm r inner ⟨token, start⟩ i tokens with
    | ok q =>
      obtain ⟨_ | e, rest⟩ := q
      · exact hname.run tokens hadmits
      · exact .inr ⟨rfl, by rintro _ _ ⟨⟩; exact hrest _ _ hx⟩
    | error e =>
      show (c.stops ∧ (if _ then _ else _) = _) ∨ ((if _ then _ else _) = _ ∧ _)
      dsimp only [Except.map]
      by_cases hreserved : reservedForIdentifier.contains token.keyword = true
      · rw [if_pos hreserved, if_pos hreserved]
        exact .inr ⟨rfl, nofun⟩
      · rw [if_neg hreserved, if_neg hreserved]
        rcases hordinary.run tokens hadmits with ⟨hstops, -⟩ | ⟨hy', hrest'⟩
        · exact absurd (reserved_of_refused (hplain hstops) hx) hreserved
        · rw [hy']
          cases hx' : ordinaryWord r inner ⟨token, start⟩ i tokens with
          | ok q => exact .inr ⟨rfl, by rintro _ _ ⟨⟩; exact hrest' _ _ hx'⟩
          | error _ => exact .inr ⟨rfl, nofun⟩

instance beside_parenthesized : Beside c (parenthesized r) (parenthesized r') := by
  have hother (text : String) : Beside c (pure (Expr.other text)) (pure (.other text)) :=
    beside_pure rfl
  refine beside_then fun word => ?_
  extract_lets rest
  have hrest (e : Expr) : Beside c (rest e) (rest (Placed.place c.place e)) := by
    refine beside_then fun _ => beside_then fun pointed => beside_either ?_ (beside_pure rfl)
    rw [Expr.text_placed]
    refine beside_behind fun token start => ?_
    dsimp only
    split <;> infer_instance
  refine beside_either (beside_then fun text => hrest (.other _)) ?_
  refine beside_bind inferInstance fun es => ?_
  have htexts : (Placed.place c.place es).map Expr.text = es.map Expr.text := by
    show (es.map (Expr.place c.place)).map Expr.text = _
    rw [List.map_map]
    exact List.map_congr_left fun e _ => e.text_place _
  rcases es with _ | ⟨e, _ | ⟨e', es⟩⟩
  · exact hrest (.other _)
  · exact hrest (.nested e)
  · have hshown (texts : List String) (h : texts = (e :: e' :: es).map Expr.text) :
        Beside c (rest (.other (parens (listText ((e :: e' :: es).map Expr.text)))))
          (rest (.other (parens (listText texts)))) := by
      rw [h]
      exact hrest (.other _)
    exact hshown _ htexts

instance beside_braced : Beside c (braced r inner) (braced r' inner') := by
  unfold braced
  extract_lets escape escape'
  have hescape : Beside c escape escape' := by
    refine beside_then fun _ => beside_then fun _ => beside_named fun l tokens name hname => ?_
    have hcall : Beside c (callOf r inner name l.start true)
        (callOf r' inner' name (c.place name.head? l.start) true) := beside_callOf _ _ _
    rw [hname] at hcall
    exact hcall
  refine beside_bind inferInstance fun o => ?_
  cases o with
  | some e => exact beside_then fun _ => beside_pure rfl
  | none => exact beside_then fun text => beside_pure rfl

instance beside_wordless : Beside c (wordless r inner) (wordless r' inner') := by
  have hconstant : Beside c (constant >>= fun k => pure (Expr.constant k))
      (constant >>= fun k => pure (.constant k)) :=
    beside_then fun k => beside_pure rfl
  have hsign (s : String) : Beside c (r.expr Strength.product >>= fun e => pure (Expr.unary s e))
      (r'.expr Strength.product >>= fun e => pure (.unary s e)) :=
    beside_bind inferInstance fun e => beside_pure rfl
  refine beside_then fun token => ?_
  split
  · split <;> infer_instance
  · infer_instance
  · infer_instance

omit hr in
theorem beside_collated (e : Expr) :
    Beside c (collated e) (collated (Placed.place c.place e)) := by
  unfold collated
  rw [Expr.text_placed]
  refine beside_then fun found => beside_either inferInstance (beside_pure rfl)

instance beside_prefixOf : Beside c (prefixOf r inner) (prefixOf r' inner') := by
  refine beside_bind inferInstance fun o => ?_
  cases o with
  | some e => exact beside_pure rfl
  | none =>
    have hother : Beside c (wordless r inner >>= collated) (wordless r' inner' >>= collated) :=
      beside_bind inferInstance beside_collated
    refine beside_get fun tokens hadmits => ?_
    rcases tokens with _ | ⟨⟨token, start⟩, rest⟩
    · exact hother
    · cases token with
      | word i =>
        refine beside_set (hadmits.mono fun _ => List.mem_cons_of_mem _) ?_
        refine beside_bind (beside_wordForm _ _ _ fun hstops => ?_) fun p => ?_
        · exact hadmits hstops _ (List.mem_cons_self ..)
        · exact beside_either (beside_pure rfl) (beside_collated p.1)
      | _ => exact hother

end Forms

instance beside_prefixAt (fuel : Nat) : Beside c (prefixAt r fuel) (prefixAt r' fuel) := by
  induction fuel with
  | zero => exact beside_refuse
  | succ fuel ih => exact beside_prefixOf

instance beside_beginning : Beside c (beginning r) (beginning r') := by
  show Beside c (get >>= fun tokens => prefixAt r (tokens.length + 1))
    (get >>= fun tokens => prefixAt r' (tokens.length + 1))
  refine beside_get fun tokens _ => ?_
  rw [length_place]
  infer_instance

/-! ## Operators -/

omit hr in
instance beside_levelAhead : Beside c levelAhead levelAhead := by
  refine beside_then fun token => ?_
  split
  · infer_instance
  · refine beside_then fun word => ?_
    split <;> infer_instance
  · infer_instance

theorem beside_isTest (left : Expr) :
    Beside c (isTest r left) (isTest r' (Placed.place c.place left)) := by
  unfold isTest
  rw [Expr.text_placed]
  refine beside_then fun negated => beside_then fun word => ?_
  split
  · exact beside_pure rfl
  · infer_instance
  · infer_instance
  · infer_instance

section Climb

variable {body body' : Reader String} [Beside c body body']

theorem beside_membership (left : Expr) (negated : Bool) :
    Beside c (membership r body left negated)
      (membership r' body' (Placed.place c.place left) negated) := by
  unfold membership
  rw [Expr.text_placed]
  extract_lets shown
  have hshown (text : String) : Beside c (pure (shown text)) (pure (shown text)) := beside_pure rfl
  refine beside_then fun _ => beside_either inferInstance (beside_within (beside_then fun o => ?_))
  cases o <;> infer_instance

theorem beside_range (left : Expr) (negated : Bool) :
    Beside c (range r left negated) (range r' (Placed.place c.place left) negated) := by
  unfold range
  rw [Expr.text_placed]
  refine beside_bind inferInstance fun low => beside_then fun _ => ?_
  refine beside_bind inferInstance fun high => ?_
  rw [Expr.text_placed, Expr.text_placed]
  infer_instance

omit hr in
instance beside_escape? : Beside c escape? escape? := by
  unfold escape?
  infer_instance

theorem beside_matching (word : String) (left : Expr) (negated : Bool) :
    Beside c (matching r word left negated)
      (matching r' word (Placed.place c.place left) negated) := by
  unfold matching
  split
  iterate 2
    refine beside_then fun any => beside_bind inferInstance fun pattern => ?_
    rw [Expr.text_placed, Expr.text_placed]
    exact beside_then fun escape => beside_either (beside_pure rfl) inferInstance
  · refine beside_then fun _ => beside_bind inferInstance fun pattern => ?_
    rw [Expr.text_placed, Expr.text_placed]
    infer_instance
  · have hpattern : Beside c
        (do
          let pattern ← r.expr Strength.like
          return Expr.other (Expr.matchText word left.text pattern.text negated false none))
        (do
          let pattern ← r'.expr Strength.like
          return .other (Expr.matchText word (Placed.place c.place left).text pattern.text negated
            false none)) := by
      refine beside_bind inferInstance fun pattern => ?_
      rw [Expr.text_placed, Expr.text_placed]
      infer_instance
    dsimp only
    infer_instance

instance beside_subscript : Beside c (subscript r) (subscript r') := by
  show Beside c (peekSymbol ":" >>= _) (peekSymbol ":" >>= _)
  refine beside_then fun colon => ?_
  extract_lets _ rest rest'
  have hrest (low : String) : Beside c (rest low) (rest' low) := by
    unfold rest rest'
    dsimp only
    infer_instance
  infer_instance

instance beside_quantified (level : Nat) : Beside c (quantified r level) (quantified r' level) := by
  have htext : Beside c (r.expr level >>= fun e => pure e.text)
      (r'.expr level >>= fun e => pure e.text) :=
    beside_bind inferInstance fun e => beside_pure (e.text_place _)
  unfold quantified
  infer_instance

theorem beside_operation (left : Expr) (op : String) (level : Nat) :
    Beside c (operation r left op level)
      (operation r' (Placed.place c.place left) op level) := by
  unfold operation
  rw [Expr.text_placed]
  refine beside_then fun word => ?_
  split
  · infer_instance
  · exact beside_bind inferInstance fun right => beside_pure rfl

omit hr in
instance beside_operatorPath (fuel : Nat) : Beside c (operatorPath fuel) (operatorPath fuel) := by
  induction fuel with
  | zero => exact beside_refuse
  | succ fuel ih =>
    refine beside_behind fun token start => ?_
    dsimp only
    infer_instance

omit hr in
instance beside_operatorName : Beside c operatorName operatorName := by
  unfold operatorName
  refine beside_within (beside_get fun tokens _ => ?_)
  rw [length_place]
  infer_instance

theorem beside_wordGoesOn (left : Expr) (word : String) (level : Nat) :
    Beside c (wordGoesOn r body left word level)
      (wordGoesOn r' body' (Placed.place c.place left) word level) := by
  unfold wordGoesOn
  split
  iterate 3 exact beside_operation _ _ _
  · exact beside_then fun name => beside_operation _ _ _
  · exact beside_isTest _
  · refine beside_then fun _ => beside_bind inferInstance fun e => ?_
    rw [Expr.text_placed, Expr.text_placed]
    infer_instance
  · refine beside_either (beside_behind fun token start => ?_) ?_ <;>
    · rw [pure_bind, pure_bind]
      dsimp only
      split
      · exact beside_membership _ _
      · exact beside_range _ _
      iterate 5 exact beside_matching _ _ _
      · exact beside_refuse

theorem beside_goesOn (left : Expr) (level : Nat) :
    Beside c (goesOn r body left level)
      (goesOn r' body' (Placed.place c.place left) level) := by
  refine beside_behind fun token start => ?_
  dsimp only
  split
  · exact beside_then fun type => beside_pure rfl
  · rw [Expr.text_placed]
    infer_instance
  · exact beside_operation _ _ _
  · exact beside_either inferInstance (beside_operation _ _ _)
  · exact beside_wordGoesOn _ _ _

theorem beside_climb (level fuel : Nat) (e : Expr) :
    Beside c (climb r body level fuel e)
      (climb r' body' level fuel (Placed.place c.place e)) := by
  induction fuel generalizing e with
  | zero => exact beside_pure rfl
  | succ fuel ih =>
    refine beside_then fun ahead => beside_either ?_ (beside_pure rfl)
    exact beside_bind (beside_goesOn e ahead) ih

instance beside_exprOf (level : Nat) : Beside c (exprOf r body level) (exprOf r' body' level) := by
  refine beside_bind inferInstance fun e => beside_get fun tokens _ => ?_
  rw [length_place]
  exact beside_climb _ _ e

end Climb

end Reader

end SqlNormal.Sql
