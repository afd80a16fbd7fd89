import SqlNormal.Proofs.BesideExpressions
import SqlNormal.Sql.Reader

/-!
# Readings of queries and statements beside each other

The readers of a budget stand on those of a floor below them. If the floors read alike, so do all
readers above them.

* `beside_selectItem`, `beside_joined`, `beside_queryOf`, `beside_statementOf`: items, tables,
  queries and statements;
* `Rules.above`, `rulesOver`: the readers of a budget above a floor; `rules_add` parts a budget;
* **`beside_rulesOver`**: above floors that read alike, all readers read alike;
* **`beside_rules`**: the readers of a budget read alike at any places.
-/

namespace SqlNormal.Sql

variable {c : Shift}

namespace Reader

variable {r r' : Rules} [hr : r.Beside c r']

-- An instance is as large as the reader that it is for.
set_option synthInstance.maxSize 1000

/-! ## Items and tables -/

omit hr in
instance beside_optionalName (reserved : List String) :
    Beside c (optionalName reserved) (optionalName reserved) := by
  refine beside_then fun named => beside_then fun token => ?_
  split
  · infer_instance
  · infer_instance
  · infer_instance

omit hr in
instance beside_namesText : Beside c namesText namesText := by
  unfold namesText
  infer_instance

omit hr in
instance beside_oneOrMore {item item' : Reader String} [Beside c item item'] :
    Beside c (oneOrMore item) (oneOrMore item') := by
  unfold oneOrMore
  infer_instance

omit hr in
instance beside_newName : Beside c newName newName := by
  unfold newName
  infer_instance

instance beside_replacement : Beside c (replacement r) (replacement r') := by
  unfold replacement
  infer_instance

omit hr in
instance beside_namePattern : Beside c namePattern namePattern := by
  refine beside_behind fun token start => ?_
  dsimp only
  split <;> infer_instance

instance beside_starOptions : Beside c (starOptions r) (starOptions r') := by
  unfold starOptions
  dsimp only
  infer_instance

instance beside_selectItem : Beside c (selectItem r) (selectItem r') := by
  refine beside_bind inferInstance fun s => ?_
  cases s with
  | all => exact beside_then fun options => beside_pure rfl
  | table parts => exact beside_then fun options => beside_pure rfl
  | expr e =>
    have hnamed : Beside c
        (optionalName reservedForColumnName >>= fun name => pure (SelectItem.expr e name))
        (optionalName reservedForColumnName >>= fun name =>
          pure (SelectItem.expr (e.place c.place) name)) :=
      beside_then fun name => beside_pure rfl
    cases e with
    | name i =>
      obtain ⟨value, quote⟩ := i
      cases quote with
      | none => exact beside_either (beside_then fun _ => hnamed) hnamed
      | some quote => exact hnamed
    | trim _ _ _ characters => cases characters <;> exact hnamed
    | _ => exact hnamed

instance beside_selectItems : Beside c (selectItems r) (selectItems r') := by
  unfold selectItems
  infer_instance

/-! ## Tables -/

omit hr in
instance beside_symbolSecond (spelling : String) :
    Beside c (symbolSecond spelling) (symbolSecond spelling) :=
  beside_look (fun tokens => tokens[1]? == some (.symbol spelling)) fun tokens => by
    rw [List.getElem?_map]
    rfl

omit hr in
instance beside_columnNames : Beside c columnNames columnNames := by
  unfold columnNames
  dsimp only
  infer_instance

omit hr in
instance beside_tableName? : Beside c tableName? tableName? := by
  refine beside_then fun name => ?_
  split <;> infer_instance

instance beside_tableArguments : Beside c (tableArguments r) (tableArguments r') := by
  refine beside_bind inferInstance fun args => ?_
  rw [Expr.textArguments_placed]
  infer_instance

instance beside_derived (word : String) : Beside c (derived r word) (derived r' word) := by
  unfold derived
  infer_instance

instance beside_valuesText : Beside c (valuesText r) (valuesText r') := by
  unfold valuesText
  infer_instance

instance beside_unnested : Beside c (unnested r) (unnested r') := by
  unfold unnested
  infer_instance

instance beside_namedTable : Beside c (namedTable r) (namedTable r') := by
  unfold namedTable
  dsimp only
  infer_instance

section Joins

variable {tables tables' : Reader Joined} [Beside c tables tables']

instance beside_parenthesizedTable :
    Beside c (parenthesizedTable r tables) (parenthesizedTable r' tables') := by
  refine beside_then fun t => ?_
  cases t with
  | some t => infer_instance
  | none =>
    refine beside_then fun j => beside_then fun _ => beside_then fun name => ?_
    dsimp only
    refine beside_either inferInstance ?_
    split <;> infer_instance

instance beside_relationOf : Beside c (relationOf r tables) (relationOf r' tables') := by
  refine beside_then fun lateral => beside_either inferInstance (beside_then fun table => ?_)
  refine beside_either inferInstance (beside_then fun opened => ?_)
  refine beside_either inferInstance (beside_then fun values => beside_then fun second => ?_)
  refine beside_either inferInstance (beside_then fun unnest => ?_)
  infer_instance

end Joins

omit hr in
instance beside_joinWords : Beside c joinWords joinWords := by
  unfold joinWords
  extract_lets closing
  have hclosing (words : String) : Beside c (closing words) (closing words) := by
    unfold closing
    infer_instance
  refine beside_then fun word => ?_
  split
  iterate 5 infer_instance
  · refine beside_then fun second => ?_
    split <;> infer_instance
  · infer_instance

omit hr in
instance beside_joinHead? : Beside c joinHead? joinHead? := by
  refine beside_then fun cross => beside_either inferInstance (beside_then fun outer => ?_)
  refine beside_either inferInstance (beside_then fun asof => beside_either inferInstance ?_)
  refine beside_then fun natural => beside_then fun words => ?_
  split <;> infer_instance

instance beside_joinCondition : Beside c (joinCondition r) (joinCondition r') := by
  unfold joinCondition
  infer_instance

instance beside_matchCondition : Beside c (matchCondition r) (matchCondition r') := by
  unfold matchCondition
  infer_instance

instance beside_joinsFrom {relation relation' : Reader Relation} [Beside c relation relation']
    (fuel : Nat) : Beside c (joinsFrom r relation fuel) (joinsFrom r' relation' fuel) := by
  induction fuel with
  | zero => exact beside_refuse
  | succ fuel ih =>
    refine beside_then fun global => beside_then fun head => ?_
    cases head with
    | none => infer_instance
    | some head =>
      obtain ⟨words, kind⟩ := head
      refine beside_then fun t => ?_
      dsimp only
      split
      · infer_instance
      · infer_instance
      · infer_instance

instance beside_joinedAt (fuel : Nat) : Beside c (joinedAt r fuel) (joinedAt r' fuel) := by
  induction fuel with
  | zero => exact beside_refuse
  | succ fuel ih =>
    show Beside c (relationOf r (joinedAt r fuel) >>= _) (relationOf r' (joinedAt r' fuel) >>= _)
    refine beside_then fun t => beside_get fun tokens _ => ?_
    rw [length_place]
    exact beside_then fun joins => beside_pure_fixed

instance beside_joined : Beside c (joined r) (joined r') := by
  show Beside c (get >>= fun tokens => joinedAt r (tokens.length + 1))
    (get >>= fun tokens => joinedAt r' (tokens.length + 1))
  refine beside_get fun tokens _ => ?_
  rw [length_place]
  infer_instance

instance beside_tablesText : Beside c (tablesText r) (tablesText r') := by
  unfold tablesText
  infer_instance

/-! ## Changes -/

omit hr in
theorem itemsText_placed (p : Move) (items : List SelectItem) :
    itemsText (Placed.place p items) = itemsText items := by
  show listText ((items.map (SelectItem.place p)).map SelectItem.text) = _
  rw [List.map_map]
  exact congrArg listText (List.map_congr_left fun item _ => item.text_placed p)

instance beside_returningText : Beside c (returningText r) (returningText r') := by
  have hitems : Beside c (selectItems r >>= fun items => pure (itemsText items))
      (selectItems r' >>= fun items => pure (itemsText items)) :=
    beside_bind inferInstance fun items => beside_pure (itemsText_placed _ items)
  unfold returningText
  infer_instance

instance beside_whereText : Beside c (whereText r) (whereText r') := by
  unfold whereText
  infer_instance

omit hr in
instance beside_wordText (word : String) : Beside c (wordText word) (wordText word) := by
  unfold wordText
  infer_instance

omit hr in
instance beside_filledColumns : Beside c filledColumns filledColumns := by
  unfold filledColumns
  infer_instance

instance beside_insertText (word : String) :
    Beside c (insertText r word) (insertText r' word) := by
  unfold insertText
  dsimp only
  infer_instance

instance beside_assignment : Beside c (assignment r) (assignment r') := by
  unfold assignment
  dsimp only
  infer_instance

instance beside_updateText : Beside c (updateText r) (updateText r') := by
  unfold updateText
  infer_instance

instance beside_deleteText : Beside c (deleteText r) (deleteText r') := by
  unfold deleteText
  infer_instance

/-! ## Queries -/

instance beside_distinctText : Beside c (distinctText r) (distinctText r') := by
  unfold distinctText
  dsimp only
  infer_instance

instance beside_topText : Beside c (topText r) (topText r') := by
  unfold topText
  dsimp only
  infer_instance

omit hr in
instance beside_intoText : Beside c intoText intoText := by
  unfold intoText
  infer_instance

instance beside_lateralView : Beside c (lateralView r) (lateralView r') := by
  unfold lateralView
  infer_instance

instance beside_groupMembers : Beside c (groupMembers r) (groupMembers r') := by
  unfold groupMembers
  infer_instance

instance beside_groups : Beside c (groups r) (groups r') := by
  unfold groups
  infer_instance

instance beside_groupItem : Beside c (groupItem r) (groupItem r') := by
  unfold groupItem
  infer_instance

instance beside_groupByText : Beside c (groupByText r) (groupByText r') := by
  unfold groupByText
  dsimp only
  infer_instance

instance beside_namedWindow : Beside c (namedWindow r) (namedWindow r') := by
  unfold namedWindow
  dsimp only
  infer_instance

omit hr in
instance beside_wordClause (word : String) {body body' : Reader String} [Beside c body body'] :
    Beside c (wordClause word body) (wordClause word body') := by
  unfold wordClause
  infer_instance

omit hr in
instance beside_byClause (word : String) {body body' : Reader String} [Beside c body body'] :
    Beside c (byClause word body) (byClause word body') := by
  unfold byClause
  infer_instance

instance beside_windowClauses : Beside c (windowClauses r) (windowClauses r') := by
  unfold windowClauses
  dsimp only
  infer_instance

instance beside_select : Beside c (select r) (select r') := by
  refine beside_then fun distinct => beside_then fun top => ?_
  refine beside_bind inferInstance fun items => ?_
  rw [itemsText_placed]
  have hselect (text : String) : Beside c (pure (Query.mk (.select items) text))
    (pure (Query.mk (.select (Placed.place c.place items)) text)) := beside_pure rfl
  infer_instance

omit hr in
instance beside_otherBody (text : String) : Beside c (pure (Query.mk .other text))
    (pure (Query.mk .other text)) :=
  beside_pure rfl

instance beside_plainBody : Beside c (plainBody r) (plainBody r') := by
  refine beside_then fun select => beside_either inferInstance (beside_then fun opened => ?_)
  refine beside_either inferInstance (beside_then fun values => beside_either inferInstance ?_)
  refine beside_then fun table => beside_either (beside_then fun name => ?_) inferInstance
  split <;> infer_instance

omit hr in
instance beside_unionQuantifier : Beside c unionQuantifier unionQuantifier := by
  unfold unionQuantifier
  infer_instance

omit hr in
theorem beside_united {right right' : Nat → Reader Query}
    (h : ∀ level, Beside c (right level) (right' level)) (level fuel : Nat) (q : Query) :
    Beside c (united right level fuel q) (united right' level fuel (Placed.place c.place q)) := by
  induction fuel generalizing q with
  | zero => exact beside_pure rfl
  | succ fuel ih =>
    refine beside_then fun word => beside_either (beside_then fun _ => ?_) (beside_pure rfl)
    refine beside_then fun quantifier => beside_bind (h _) fun other => ?_
    exact ih ⟨.other, _⟩

instance beside_bodyAt (fuel level : Nat) :
    Beside c (bodyAt r fuel level) (bodyAt r' fuel level) := by
  induction fuel generalizing level with
  | zero => exact beside_refuse
  | succ fuel ih =>
    refine beside_bind inferInstance fun q => beside_get fun tokens _ => ?_
    rw [length_place]
    exact beside_united ih _ _ q

instance beside_bodyOf : Beside c (bodyOf r) (bodyOf r') := by
  show Beside c (get >>= fun tokens => bodyAt r (tokens.length + 1) 0)
    (get >>= fun tokens => bodyAt r' (tokens.length + 1) 0)
  refine beside_get fun tokens _ => ?_
  rw [length_place]
  infer_instance

instance beside_namedQuery : Beside c (namedQuery r) (namedQuery r') := by
  unfold namedQuery
  infer_instance

instance beside_withText : Beside c (withText r) (withText r') := by
  unfold withText
  infer_instance

instance beside_offsetText : Beside c (offsetText r) (offsetText r') := by
  unfold offsetText
  infer_instance

instance beside_limitOrAll : Beside c (limitOrAll r) (limitOrAll r') := by
  unfold limitOrAll
  infer_instance

instance beside_moreBounds (b : Bounds) : Beside c (moreBounds r b) (moreBounds r' b) := by
  unfold moreBounds
  dsimp only
  infer_instance

omit hr in
instance beside_setting : Beside c setting setting := by
  unfold setting
  infer_instance

omit hr in
instance beside_fetchText : Beside c fetchText fetchText := by
  refine beside_then fun _ => beside_then fun rows => ?_
  extract_lets rest
  have hrest (quantity : String) : Beside c (rest quantity) (rest quantity) := by
    unfold rest
    dsimp only
    infer_instance
  infer_instance

omit hr in
instance beside_lock? : Beside c lock? lock? := by
  unfold lock?
  dsimp only
  infer_instance

omit hr in
instance beside_formatText : Beside c formatText formatText := by
  unfold formatText
  infer_instance

instance beside_rowClauses : Beside c (rowClauses r) (rowClauses r') := by
  unfold rowClauses
  infer_instance

instance beside_queryOf : Beside c (queryOf r) (queryOf r') := by
  refine beside_then fun front => beside_then fun insert => beside_either inferInstance ?_
  refine beside_then fun update => beside_either inferInstance ?_
  exact beside_bind inferInstance fun q => beside_then fun rows => beside_pure rfl

/-! ## Statements -/

omit hr in
instance beside_wordsText (words : List String) :
    Beside c (wordsText words) (wordsText words) := by
  unfold wordsText
  infer_instance

instance beside_columnOption? : Beside c (columnOption? r) (columnOption? r') := by
  refine beside_test inferInstance (beside_test inferInstance ?_)
  refine beside_test inferInstance (beside_test inferInstance ?_)
  refine beside_test inferInstance (beside_test inferInstance ?_)
  refine beside_test (beside_then fun table => ?_) inferInstance
  dsimp only
  infer_instance

instance beside_columnText : Beside c (columnText r) (columnText r') := by
  unfold columnText
  infer_instance

instance beside_tableCondition? : Beside c (tableCondition? r) (tableCondition? r') := by
  refine beside_then fun name => ?_
  dsimp only
  refine beside_test inferInstance (beside_test inferInstance ?_)
  exact beside_test inferInstance (beside_test inferInstance inferInstance)

instance beside_tableElement : Beside c (tableElement r) (tableElement r') := by
  refine beside_then fun condition => ?_
  split <;> infer_instance

instance beside_createTable (front : String) :
    Beside c (createTable r front) (createTable r' front) := by
  unfold createTable
  dsimp only
  infer_instance

instance beside_createView (front : String) :
    Beside c (createView r front) (createView r' front) := by
  unfold createView
  dsimp only
  infer_instance

instance beside_createIndex (front : String) :
    Beside c (createIndex r front) (createIndex r' front) := by
  unfold createIndex
  dsimp only
  infer_instance

instance beside_createText : Beside c (createText r) (createText r') := by
  refine beside_then fun instead => beside_then fun passing => beside_then fun lasting => ?_
  refine beside_then fun unique => beside_then fun kind => ?_
  split <;> infer_instance

instance beside_alteration : Beside c (alteration r) (alteration r') := by
  refine beside_then fun adds => beside_either (beside_then fun word => ?_) ?_
  · refine beside_either (beside_then fun condition => ?_) inferInstance
    split <;> infer_instance
  · refine beside_then fun drops => beside_either inferInstance ?_
    infer_instance

instance beside_alterText : Beside c (alterText r) (alterText r') := by
  unfold alterText
  infer_instance

omit hr in
instance beside_dropText : Beside c dropText dropText := by
  unfold dropText
  dsimp only
  infer_instance

omit hr in
instance beside_truncateText : Beside c truncateText truncateText := by
  unfold truncateText
  infer_instance

instance beside_assignText : Beside c (assignText r) (assignText r') := by
  unfold assignText
  dsimp only
  infer_instance

omit hr in
instance beside_wordsAhead : Beside c wordsAhead wordsAhead := by
  refine beside_get fun tokens _ => ?_
  have hahead : (Placed.place c.place tokens : List Lexeme).takeWhile
        (fun l => l.token != .symbol "=") =
      Placed.place c.place (tokens.takeWhile fun l => l.token != .symbol "=") :=
    List.takeWhile_map ..
  extract_lets ahead ahead'
  have hplaced : ahead' = Placed.place c.place ahead := hahead
  rw [hplaced, length_place]
  refine beside_then fun _ => beside_pure ?_
  exact (List.filterMap_map ..).trans (Fixed.place_eq _ _).symm

omit hr in
instance beside_showText : Beside c showText showText := by
  refine beside_then fun kind => ?_
  split <;> infer_instance

instance beside_procedureText : Beside c (procedureText r) (procedureText r') := by
  refine beside_named fun l tokens name hname => beside_test (beside_bind ?_ fun e => ?_) ?_
  · have hcall : Beside c (callOf r (beginning r) name l.start false)
        (callOf r' (beginning r') name (c.place name.head? l.start) false) := beside_callOf _ _ _
    rw [hname] at hcall
    exact hcall
  · rw [Expr.text_placed]
    infer_instance
  · infer_instance

omit hr in
instance beside_endOfChanges (word : String) :
    Beside c (endOfChanges word) (endOfChanges word) := by
  unfold endOfChanges
  infer_instance

instance beside_commandText (word : String) :
    Beside c (commandText r word) (commandText r' word) := by
  unfold commandText
  split <;> infer_instance

instance beside_explanation (word : String) :
    Beside c (explanation r word) (explanation r' word) := by
  have hexplained (text : String) : Beside c (pure (Statement.explanation text))
    (pure (Statement.explanation text)) := beside_pure rfl
  refine beside_then fun plan => ?_
  extract_lets rest rest'
  have hrest (how : String) : Beside c (rest how) (rest' how) := by
    have hstatement := hr.statement
    refine beside_bind inferInstance fun s => ?_
    cases s with
    | none => exact beside_then fun _ => beside_then fun _ => beside_then fun _ => hexplained _
    | some s =>
      cases s with
      | explanation shown => exact beside_refuse
      | query q => exact hexplained _
      | other shown => exact hexplained _
  infer_instance

instance beside_statementOf : Beside c (statementOf r) (statementOf r') := by
  refine beside_then fun word => beside_then fun opened => beside_either ?_ ?_
  · exact beside_bind hr.query fun q => beside_pure rfl
  · refine beside_then fun _ => beside_either inferInstance ?_
    exact beside_then fun text => beside_pure rfl

instance beside_statementsFrom (begun : Bool) (fuel : Nat) :
    Beside c (statementsFrom r begun fuel) (statementsFrom r' begun fuel) := by
  induction fuel generalizing begun with
  | zero => exact beside_refuse
  | succ fuel ih =>
    have hnone : Beside c (pure [] : Reader (List Statement)) (pure []) := beside_pure rfl
    refine beside_test inferInstance (beside_then fun token => ?_)
    split
    · exact hnone
    · refine beside_either (beside_test hnone beside_refuse) ?_
      exact beside_bind hr.statement fun s => beside_bind inferInstance fun ss => beside_pure rfl

end Reader

open Reader

/-! ## Budgets -/

/-- The readers of one level above those of what lies inside. -/
def Rules.above (r : Rules) : Rules where
  expr := fun level tokens => exprOf r (fun inner => rules.textOf (bodyOf r) inner) level tokens
  query := fun tokens => queryOf r tokens
  statement := fun tokens => statementOf r tokens

/-- The readers of a budget above those of a floor. -/
def rulesOver (floor : Rules) : Nat → Rules
  | 0 => floor
  | budget + 1 => (rulesOver floor budget).above

/-- A part of a budget is the floor of the rest. -/
theorem rules_add (k budget : Nat) : rules (k + budget) = rulesOver (rules k) budget := by
  induction budget with
  | zero => rfl
  | succ budget ih =>
    show (rules (k + budget)).above = (rulesOver (rules k) budget).above
    rw [ih]

theorem beside_above {r r' : Rules} [r.Beside c r'] : r.above.Beside c r'.above where
  expr level := by
    have htext : Reader.Beside c (rules.textOf (bodyOf r)) (rules.textOf (bodyOf r')) :=
      beside_bind inferInstance fun _ => beside_pure rfl
    exact beside_exprOf level
  query := beside_queryOf
  statement := beside_statementOf

/-- **Above floors that read alike, all readers read alike.** -/
theorem beside_rulesOver {floor floor' : Rules} (h : floor.Beside c floor') (budget : Nat) :
    (rulesOver floor budget).Beside c (rulesOver floor' budget) := by
  induction budget with
  | zero => exact h
  | succ budget ih => exact beside_above

/-- What stops at once reads like any floor, as far as it does not stop. -/
theorem beside_nothing (hstops : c.stops) (floor : Rules) : (rules 0).Beside c floor where
  expr _ := ⟨fun _ _ => .inl ⟨hstops, rfl⟩⟩
  query := ⟨fun _ _ => .inl ⟨hstops, rfl⟩⟩
  statement := ⟨fun _ _ => .inl ⟨hstops, rfl⟩⟩

/-- **The readers of a budget read alike at any places.** -/
theorem beside_rules (c : Shift) (budget : Nat) : (rules budget).Beside c (rules budget) := by
  have hfloor : (rules 0).Beside c (rules 0) :=
    ⟨fun _ => ⟨fun _ _ => .inr ⟨rfl, nofun⟩⟩, ⟨fun _ _ => .inr ⟨rfl, nofun⟩⟩,
      ⟨fun _ _ => .inr ⟨rfl, nofun⟩⟩⟩
  have h := beside_rulesOver hfloor budget
  rwa [← rules_add, Nat.zero_add] at h

/-- The statements of a text are read alike at any places. -/
theorem beside_statements (c : Shift) (budget : Nat) :
    Beside c (fun tokens => statementsFrom (rules budget) false (2 * tokens.length + 1) tokens)
      fun tokens => statementsFrom (rules budget) false (2 * tokens.length + 1) tokens := by
  have hrules := beside_rules c budget
  let read (tokens : List Lexeme) : Reader (List Statement) :=
    statementsFrom (rules budget) false (2 * tokens.length + 1)
  show Beside c (get >>= read) (get >>= read)
  refine beside_get fun tokens _ => ?_
  unfold read
  rw [length_place]
  exact beside_statementsFrom _ _

end SqlNormal.Sql
