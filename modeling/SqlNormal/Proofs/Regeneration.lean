import SqlNormal.Proofs.Reading
import SqlNormal.Proofs.Room
import SqlNormal.Proofs.Splitting

/-!
# Names that are written again

A column is written by its name, without marks if the name is plain. Whether the text names the same
column depends on the name alone: a few words mean something else where a column could stand.

* `OnlyWord`: a word that nothing follows, and what the readers make of it up to `whole_onlyWord`;
* `select_items`, `statements_select`, `tokenize?_select`, `entriesOfText_select`: texts that are
  projections;
* **`regenerate_name`**: a name is written again unless it is one of `ownWords`.
-/

namespace SqlNormal

namespace Sql

namespace Reader

variable {α : Type} {word : String}

/-! ## A word that nothing follows -/

section OnlyWord

variable {i : Ident} (start : Location)

/-- A reading of a type behind its word comes to an end if nothing follows. -/
def endsAtOnce (x : Except Refusal (α × List Lexeme)) : Bool :=
  match x with
  | .ok (_, []) | .error .unreadable => true
  | _ => false

theorem customType_onlyWord : customType [⟨.word i, start⟩] = .ok (pathText [i], []) := by
  have hpath : objectName [⟨.word i, start⟩] = .ok ([i], []) := rfl
  simp only [customType, objectText, run_bind, hpath, ok_bind, run_pure]
  rw [run_symbol? (by nofun)]
  rfl

theorem eq_of_classOfWord (h : classOfWord word = .interval) : word = "INTERVAL" := by
  unfold classOfWord at h
  split at h
  · cases h
  · split at h
    · assumption
    · cases h

theorem dataType_onlyWord :
    dataType [⟨.word i, start⟩] = .error .unreadable ∨
      ∃ t, dataType [⟨.word i, start⟩] = .ok (t, []) ∧
        (t.typeClass = .interval → Token.keyword (.word i) = "INTERVAL") := by
  have hone : keywordAt 1 [⟨.word i, start⟩] = .ok ("", [⟨.word i, start⟩]) := rfl
  have hzero : keywordAt 0 [⟨.word i, start⟩] =
      .ok (Token.keyword (.word i), [⟨.word i, start⟩]) := rfl
  have hany : ¬ (Token.keyword (.word i) = "ANY" ∧ "" = "TYPE") :=
    fun h => absurd h.2 (by decide)
  simp only [dataType, run_bind, run_get, ok_bind, List.length_cons, List.length_nil]
  rw [typeAt]
  simp only [run_bind, hzero, hone, ok_bind, run_ite, hany, if_false]
  by_cases hmem : typeWords.contains (Token.keyword (.word i))
  · have hwords : ∀ w ∈ typeWords, endsAtOnce (typeOfWord w (typeAt 1) []) := by decide +kernel
    have hend := hwords _ (by simpa using hmem)
    simp only [hmem, if_true, run_skip, ok_bind, List.drop_succ_cons, List.drop_zero]
    rcases hw : typeOfWord (Token.keyword (.word i)) (typeAt (0 + 1)) [] with
      e | ⟨⟨text, closed⟩, rest⟩
    · rw [hw] at hend
      cases e with
      | tooDeep => cases hend
      | unreadable => exact .inl rfl
    · rw [hw] at hend
      cases rest with
      | cons l rest => cases hend
      | nil =>
        cases closed with
        | true => exact .inl rfl
        | false =>
          refine .inr ⟨_, rfl, ?_⟩
          simp only [if_true]
          exact eq_of_classOfWord
  · right
    simp only [hmem, Bool.false_eq_true, if_false, run_bind, run_peek, ok_bind, List.head?_cons,
      Option.map_some, customType_onlyWord]
    refine ⟨_, rfl, ?_⟩
    simp only [if_true]
    intro hinterval
    cases hinterval

/-- A word that nothing follows is no typed string, unless an interval could begin with it. -/
theorem typedString_onlyWord {inner : Reader Expr} (h : Token.keyword (.word i) ≠ "INTERVAL") :
    typedString inner [⟨.word i, start⟩] = .error .unreadable := by
  rw [typedString, run_bind]
  rcases @dataType_onlyWord i start with htype | ⟨t, htype, hclass⟩
  · rw [htype]
    rfl
  · rw [htype, ok_bind]
    cases ht : t.typeClass with
    | interval => exact absurd (hclass ht) h
    | temporal | custom | other => rfl

/-- The readers of what lies inside refuse if nothing is left. -/
structure RefuseNothing (r : Rules) : Prop where
  expr : ∀ level, r.expr level [] = .error .unreadable
  query : r.query [] = .error .unreadable

theorem refuseNothing_rules (budget : Nat) : RefuseNothing (rules (budget + 1)) where
  expr _ := by
    rfl
  query := by
    rfl

/-- The words that mean something by themselves. -/
def selfStanding : List String :=
  ["TRUE", "FALSE", "NULL", "CURRENT_CATALOG", "CURRENT_USER", "SESSION_USER", "USER",
   "CURRENT_TIMESTAMP", "CURRENT_TIME", "CURRENT_DATE", "LOCALTIME", "LOCALTIMESTAMP"]

theorem caseForm_nothing {r : Rules} (hr : RefuseNothing r) :
    caseForm r [] = .error .unreadable := by
  have hwhen : (headKey [] == "WHEN") = false := rfl
  have hwhole : r.whole [] = .error .unreadable := hr.expr 0
  simp only [caseForm, peekKeyword, run_bind, run_keywordAt, ok_bind, run_pure, run_ite, hwhen,
    Bool.false_eq_true, if_false, run_map, hwhole]
  rfl

theorem specialForm_onlyWord {r : Rules} (hr : RefuseNothing r) {inner : Reader Expr}
    (hinner : inner [] = .error .unreadable) (h : Token.keyword (.word i) ∉ selfStanding) :
    specialForm r inner ⟨.word i, start⟩ i [] = .ok (none, []) ∨
      specialForm r inner ⟨.word i, start⟩ i [] = .error .unreadable := by
  have hcase := caseForm_nothing hr
  have hexists : keyword? "EXISTS" [] = .ok (false, []) := run_keyword? (by decide)
  unfold specialForm
  generalize Token.keyword (.word i) = key at h
  dsimp only
  split
  -- of the forms that ask for something, three ask for an expression at once
  all_goals first
    | exact absurd (by decide) h
    | exact .inr rfl
    | exact .inl rfl
    | (right; rw [run_map, hcase]; rfl)
    | (right; rw [run_map, intervalOf, run_bind, hinner]; rfl)
    | (right; rw [run_bind, hexists, ok_bind, if_neg (by decide), run_bind, hr.expr]; rfl)

theorem ordinaryWord_onlyWord {r : Rules} {inner : Reader Expr} :
    ordinaryWord r inner ⟨.word i, start⟩ i [] = .ok (.name i, []) := by
  have hintroduced : introduced? i [] = .ok (none, []) := by
    unfold introduced?
    rw [run_bind, run_peek, ok_bind]
    generalize i.value.toList = cs
    dsimp only [List.head?_nil, Option.map_none]
    cases cs with
    | nil => rfl
    | cons c cs => simp only; rfl
  have hopen : peekSymbol "(" [] = .ok (false, []) := rfl
  have hpoint : peekSymbol "." [] = .ok (false, []) := rfl
  simp only [ordinaryWord, run_bind, hopen, hpoint, ok_bind, Bool.or_false, Bool.false_eq_true,
    if_false, hintroduced, run_pure]

/-- The beginning of an expression that consists of a word is a name, unless the word means
something by itself. -/
theorem wordForm_onlyWord {r : Rules} (hr : RefuseNothing r) {inner : Reader Expr}
    (hinner : inner [] = .error .unreadable)
    (h : Token.keyword (.word i) ∉ selfStanding ++ reservedForIdentifier) :
    ∃ forced, wordForm r inner ⟨.word i, start⟩ i [] = .ok ((.name i, forced), []) := by
  rw [List.mem_append, not_or] at h
  have hreserved : reservedForIdentifier.contains (Token.keyword (.word i)) = false := by
    simpa using h.2
  rcases specialForm_onlyWord start hr hinner h.1 with hform | hform
  · refine ⟨false, ?_⟩
    simp only [wordForm, hform, ordinaryWord_onlyWord]
    rfl
  · refine ⟨true, ?_⟩
    simp only [wordForm, hform, hreserved, ordinaryWord_onlyWord, Bool.false_eq_true, if_false]

theorem collated_nothing {e : Expr} : collated e [] = .ok (e, []) := by
  rw [collated, run_bind, run_keyword? (by decide)]
  rfl

/-- The levels that a name takes. -/
def nameLevels : Nat := 2

/-- An expression that consists of a word is a name, unless the word means something by itself. -/
theorem whole_onlyWord (budget : Nat)
    (h : Token.keyword (.word i) ∉ selfStanding ++ reservedForIdentifier) :
    (rules (budget + nameLevels)).whole [⟨.word i, start⟩] = .ok (.name i, []) := by
  have hinterval : Token.keyword (.word i) ≠ "INTERVAL" := by
    intro hkey
    exact h (by rw [hkey]; decide)
  have hbeginning : beginning (rules (budget + 1)) [⟨.word i, start⟩] = .ok (.name i, []) := by
    show prefixOf (rules (budget + 1)) (fun inside => prefixAt (rules (budget + 1)) 1 inside)
      [⟨.word i, start⟩] = _
    have hinner : (fun inside => prefixAt (rules (budget + 1)) 1 inside) [] =
      .error .unreadable := rfl
    obtain ⟨forced, hform⟩ := wordForm_onlyWord start (refuseNothing_rules budget) hinner h
    simp only [prefixOf, run_bind, attempt, typedString_onlyWord start hinterval, ok_bind, run_get,
      run_set, hform, run_ite, run_pure, collated_nothing, ite_self]
  show exprOf (rules (budget + 1)) _ 0 [⟨.word i, start⟩] = _
  simp only [exprOf, run_bind, hbeginning, ok_bind, run_get]
  rfl

/-! ## The projection of a word -/

/-- The words that do not begin a projection as a name would. -/
def leadingWords : List String :=
  ["ALL", "DISTINCT", "TOP", "FROM"]

theorem selectItem_onlyWord (budget : Nat)
    (h : Token.keyword (.word i) ∉ selfStanding ++ reservedForIdentifier)
    (hfrom : i.quote = none → Text.lower i.value ≠ "from") :
    selectItem (rules (budget + nameLevels)) [⟨.word i, start⟩] =
      .ok (.expr (.name i) none, []) := by
  have hstar : symbol? "*" [⟨.word i, start⟩] = .ok (false, [⟨.word i, start⟩]) :=
    run_symbol? (by simp)
  have hitem : starOrExpr (rules (budget + nameLevels)).whole [⟨.word i, start⟩] =
      .ok (.expr (.name i), []) := by
    simp only [starOrExpr, run_bind, run_get, ok_bind, hstar, run_ite, Bool.false_eq_true, if_false,
      identOf?, run_set]
    have hpath : tableStarFrom 1 [] = .ok (none, []) := rfl
    simp only [List.length_nil, Nat.zero_add, hpath, ok_bind, run_bind, run_set,
      whole_onlyWord start budget h, run_pure]
  have hname : optionalName reservedForColumnName [] = .ok (none, []) := by
    rw [optionalName, run_bind, run_keyword? (by decide)]
    rfl
  rw [selectItem, run_bind, hitem, ok_bind]
  obtain ⟨value, quote⟩ := i
  cases quote with
  | none =>
    simp only [if_neg (hfrom rfl), run_bind, run_pure, ok_bind, hname]
  | some mark =>
    simp only [run_bind, run_pure, ok_bind, hname]

/-- Items that nothing follows are all that a projection needs. -/
theorem select_items {r : Rules} {tokens : List Lexeme} {items : List SelectItem}
    (hwords : ∀ word ∈ leadingWords, headKey tokens ≠ word)
    (h : selectItems r tokens = .ok (items, [])) :
    ∃ text, select r tokens = .ok (⟨.select items, text⟩, []) := by
  have hdistinct : distinctText r tokens = .ok ("", tokens) := by
    simp only [distinctText, run_bind, run_keyword? (hwords "ALL" (by decide)),
      run_keyword? (hwords "DISTINCT" (by decide)), ok_bind, run_ite, Bool.false_eq_true, if_false,
      run_pure]
  simp only [select, run_bind, hdistinct, ok_bind, run_clause? (hwords "TOP" (by decide)), h]
  exact ⟨_, rfl⟩

theorem select_onlyWord (budget : Nat)
    (h : Token.keyword (.word i) ∉ selfStanding ++ reservedForIdentifier ++ leadingWords)
    (hfrom : i.quote = none → Text.lower i.value ≠ "from") :
    ∃ text, select (rules (budget + nameLevels)) [⟨.word i, start⟩] =
      .ok (⟨.select [.expr (.name i) none], text⟩, []) := by
  rw [List.mem_append, not_or] at h
  refine select_items ?_ ?_
  · rintro word hword rfl
    exact h.2 hword
  · have hitem := selectItem_onlyWord start budget h.1 hfrom
    simp only [selectItems, separated, run_bind, run_get, ok_bind, List.length_cons, separatedFrom,
      hitem]
    rfl

/-- The word of a projection. -/
def selectWord : Token :=
  .word ⟨"SELECT", none⟩

/-- The levels that a statement takes for itself and for the query in it. -/
def queryLevels : Nat := 2

/-- A statement that is a projection. -/
theorem statements_select (budget : Nat) {tokens : List Lexeme} {items : List SelectItem}
    {text : String} (h : select (rules budget) tokens = .ok (⟨.select items, text⟩, []))
    (fuel : Nat) : ∃ text',
      statementsFrom (rules (budget + queryLevels)) false (fuel + 2)
        (⟨selectWord, start⟩ :: tokens) = .ok ([.query ⟨.select items, text'⟩], []) := by
  have hbody : bodyOf (rules budget) (⟨selectWord, start⟩ :: tokens) =
      .ok (⟨.select items, text⟩, []) := by
    have hword : keyword? "SELECT" (⟨selectWord, start⟩ :: tokens) = .ok (true, tokens) := rfl
    simp only [bodyOf, List.length_cons, bodyAt, plainBody, run_bind, hword, ok_bind, run_ite,
      if_true, h]
    rfl
  have hquery : ∃ text', queryOf (rules budget) (⟨selectWord, start⟩ :: tokens) =
      .ok (⟨.select items, text'⟩, []) := by
    have hwith : withText (rules budget) (⟨selectWord, start⟩ :: tokens) =
      .ok ("", ⟨selectWord, start⟩ :: tokens) := rfl
    have hinsert : keyword? "INSERT" (⟨selectWord, start⟩ :: tokens) =
        .ok (false, ⟨selectWord, start⟩ :: tokens) := rfl
    have hupdate : keyword? "UPDATE" (⟨selectWord, start⟩ :: tokens) =
        .ok (false, ⟨selectWord, start⟩ :: tokens) := rfl
    simp only [queryOf, run_bind, hwith, hinsert, hupdate, ok_bind, run_ite, Bool.false_eq_true,
      if_false, hbody]
    exact ⟨_, rfl⟩
  obtain ⟨text', hquery⟩ := hquery
  have hstatement : (rules (budget + queryLevels)).statement (⟨selectWord, start⟩ :: tokens) =
      .ok (.query ⟨.select items, text'⟩, []) := by
    have hopen : peekSymbol "(" (⟨selectWord, start⟩ :: tokens) =
        .ok (false, ⟨selectWord, start⟩ :: tokens) := rfl
    have hinner : (rules (budget + 1)).query (⟨selectWord, start⟩ :: tokens) =
        .ok (⟨.select items, text'⟩, []) := hquery
    have hword : ["SELECT", "WITH", "VALUES"].contains
        (headKey (⟨selectWord, start⟩ :: tokens)) = true := rfl
    show statementOf (rules (budget + 1)) _ = _
    simp only [statementOf, run_bind, run_keywordAt, ok_bind, hopen, hword, Bool.true_or, if_true,
      hinner, run_pure]
  have hsemicolon : symbol? ";" (⟨selectWord, start⟩ :: tokens) =
      .ok (false, ⟨selectWord, start⟩ :: tokens) := rfl
  have hend : symbol? ";" [] = .ok (false, []) := rfl
  refine ⟨text', ?_⟩
  simp only [statementsFrom, run_bind, hsemicolon, ok_bind, run_ite, Bool.false_eq_true, if_false,
    run_peek, List.head?_cons, Option.map_some, hstatement, hend, List.head?_nil, Option.map_none,
    run_pure]

end OnlyWord

end Reader

end Sql

/-! ## Names -/

open Sql Reader

/-- The words that a name is not read as where a column could stand. -/
def ownWords : List String :=
  ["all", "current_catalog", "current_date", "current_schema", "current_time", "current_timestamp",
   "current_user", "distinct", "exists", "false", "from", "interval", "localtime", "localtimestamp",
   "null", "session_user", "struct", "top", "trim", "true", "user"]

theorem keyword_not_mem {name : String} (h : name ∉ ownWords) :
    Token.keyword (.word (identOf name)) ∉
      selfStanding ++ reservedForIdentifier ++ leadingWords ++ bareWords := by
  have hall : ∀ word ∈ selfStanding ++ reservedForIdentifier ++ leadingWords ++ bareWords,
      word ≠ "" ∧ Text.lower word ∈ ownWords := by
    decide
  intro hmem
  obtain ⟨hne, hown⟩ := hall _ hmem
  rcases keyword_identOf name with hnone | ⟨-, hname⟩
  · exact hne hnone
  · rw [← hname] at hown
    exact h hown

theorem lower_ne_from {name : String} (h : name ∉ ownWords) (hquote : (identOf name).quote = none) :
    Text.lower (identOf name).value ≠ "from" := by
  have hplain : Text.isPlain name.toList := by
    by_contra hplain
    simp [identOf, hplain] at hquote
  have hlower : Text.lower name = name := by
    rw [Text.lower, List.map_congr_left fun c hc =>
      (lower_of_isPlainPart (isPlainPart_of_isPlain hplain c hc)).1, List.map_id',
      String.ofList_toList]
  show Text.lower name ≠ "from"
  rw [hlower]
  rintro rfl
  exact h (by decide)

/-- The tokens of a projection, wherever they begin. -/
theorem tokenize?_select {source : String} {tokens : List Token}
    (h : Spells AfterOperand source.toList tokens) : ∃ start ls,
    tokenize? ("SELECT " ++ source) = some (⟨selectWord, start⟩ :: ls) ∧
      ls.map (·.token) = tokens := by
  have hselect : Spells AfterName "SELECT".toList [selectWord] :=
    spells_word (c := 'S') (by decide) (by decide)
  have hall : Spells AfterOperand ("SELECT".toList ++ ([' '] ++ source.toList))
      ([selectWord] ++ tokens) :=
    hselect.append (spells_blank.append h fun _ _ => trivial) fun rest _ => by
      rintro _ ⟨⟩
      decide
  have hlist : ("SELECT " ++ source).toList = "SELECT".toList ++ ([' '] ++ source.toList) := by
    simp
  rw [← hlist] at hall
  obtain ⟨lexemes, hlexemes, htokens⟩ := Option.map_eq_some_iff.mp (tokens?_of_splits hall.splits)
  obtain ⟨⟨_, start⟩, ls, rfl, rfl, hls⟩ := List.map_eq_cons_iff.mp htokens
  exact ⟨start, ls, hlexemes, hls⟩

/-- The statement of a text that is a projection. -/
theorem readStatements_select {budget : Nat} {source : String} {start : Location}
    {ls : List Lexeme} {items : List SelectItem} {text : String}
    (htokens : tokenize? source = some (⟨selectWord, start⟩ :: ls))
    (h : select (rules budget) ls = .ok (⟨.select items, text⟩, [])) :
    ∃ text', readStatements (budget + queryLevels) source = .ok [.query ⟨.select items, text'⟩] := by
  obtain ⟨text', hstatements⟩ := statements_select start budget h (2 * ls.length + 1)
  refine ⟨text', ?_⟩
  simp only [readStatements, readText, htokens]
  exact congrArg (Except.map (·.1)) hstatements

/-- The budget that is left for the items of a projection. -/
def itemBudget (maxDepth : Nat) : Nat :=
  maxDepth + (queryAllowance - queryLevels)

theorem le_itemBudget (maxDepth : Nat) : maxDepth ≤ itemBudget maxDepth :=
  Nat.le_add_right ..

/-- The entries of a text that is a projection. -/
theorem entriesOfText_select {maxDepth : Nat} (hroom : HasRoom maxDepth) {source : String}
    {start : Location} {ls : List Lexeme} {items : List SelectItem} {text : String}
    (htokens : tokenize? source = some (⟨selectWord, start⟩ :: ls))
    (h : select (rules (itemBudget maxDepth)) ls = .ok (⟨.select items, text⟩, [])) :
    entriesOfText maxDepth source = answering (items.mapM (·.toEntry source)) := by
  obtain ⟨text', hread⟩ := readStatements_select htokens h
  have hwithin : readWithin maxDepth (fun budget => readStatements budget source) =
      .ok [.query ⟨.select items, text'⟩] :=
    readWithin_eq_ok.mpr ⟨hroom, hread⟩
  rw [entriesOfText, hwithin]
  rfl

theorem entriesOfText_name {maxDepth : Nat} (hroom : HasRoom maxDepth) {name : String}
    (h : name ∉ ownWords) :
    entriesOfText maxDepth ("SELECT " ++ Text.quoteIdent name) =
      .ok [.expr (.identifier [identOf name]) none] := by
  have hkey := keyword_not_mem h
  rw [List.mem_append, not_or] at hkey
  obtain ⟨budget, hbudget⟩ : ∃ n, itemBudget maxDepth = n + nameLevels :=
    ⟨maxDepth + (queryAllowance - queryLevels - nameLevels), rfl⟩
  obtain ⟨a, ls, htokens, hls⟩ := tokenize?_select
    ((spells_name name).mono fun _ => AfterOperand.afterName)
  obtain ⟨⟨_, b⟩, rfl, rfl⟩ := List.map_eq_singleton_iff.mp hls
  obtain ⟨text, hselect⟩ := select_onlyWord b budget hkey.1 (lower_ne_from h)
  have htree : nameTree (identOf name) = .identifier [identOf name] := by
    rw [nameTree, if_neg]
    rintro ⟨hquote, hmem⟩
    have hkeyword : Token.keyword (.word (identOf name)) = Text.upper (identOf name).value := by
      generalize identOf name = i at hquote
      obtain ⟨value, quote⟩ := i
      rw [Option.isNone_iff_eq_none] at hquote
      subst hquote
      rfl
    rw [hkeyword] at hkey
    exact hkey.2 (by simpa using hmem)
  rw [← hbudget] at hselect
  rw [entriesOfText_select hroom htokens hselect]
  show Except.ok [SelectEntry.expr (nameTree (identOf name)) none] = _
  rw [htree]

/-- A name is written again as it is. -/
theorem regenerate_name {env : Environment} (hstd : env.collaborators = .standard)
    (hroom : HasRoom env.config.maxDepth) {name : String} (h : name ∉ ownWords) :
    env.regenerate ("SELECT " ++ Text.quoteIdent name) = .ok (Text.quoteIdent name) := by
  have hcolumns : env.normalizeProjection ("SELECT " ++ Text.quoteIdent name) =
      .ok [.column { rawText := Text.tokenText [.token (Ident.path [identOf name])] } [] name] := by
    rw [Environment.normalizeProjection, entriesOfText_name hroom h]
    obtain ⟨config, session, collaborators⟩ := env
    subst hstd
    show Except.ok [Node.column _ [] (identOf name).folded] = _
    rw [folded_identOf]
    rfl
  have htext : projectionText
      [.column { rawText := Text.tokenText [.token (Ident.path [identOf name])] } [] name] =
      Text.quoteIdent name := by
    simp [projectionText, Node.projectionItem, Node.writtenName?, Labels.givenName?, Node.labels,
      Node.toSql, Node.wrap, Text.dotted]
  rw [Environment.regenerate, hcolumns, ← htext]
  rfl

theorem regenerate_ownWord : ∀ name ∈ ownWords,
    (({} : Environment).regenerate ("SELECT " ++ Text.quoteIdent name)).toOption ≠
      some (Text.quoteIdent name) := by
  decide +kernel

/-- **Names.** Of all names, exactly `ownWords` are not written again as they are. -/
theorem regenerate_name_iff (name : String) :
    ({} : Environment).regenerate ("SELECT " ++ Text.quoteIdent name) =
      .ok (Text.quoteIdent name) ↔ name ∉ ownWords := by
  refine ⟨fun h hown => ?_, fun h => regenerate_name rfl (by decide) h⟩
  exact regenerate_ownWord name hown (by rw [h]; rfl)

/-- Not every projection is written again as it is: the column `current_date` loses its marks, and
without them it is a function. -/
theorem not_regenerate_currentDate :
    ¬ ∀ depth, 0 < depth → ∀ (sql : String) (columns : List Node),
      ({ config := { maxDepth := depth } } : Environment).normalizeProjection sql = .ok columns →
      ∃ columns', ({ config := { maxDepth := depth } } : Environment).normalizeProjection
          ("SELECT " ++ projectionText columns) = .ok columns' ∧
        projectionText columns' = projectionText columns := by
  intro h
  have hfirst : (({} : Environment).regenerate "SELECT \"current_date\" FROM t").toOption =
      some "current_date" := by
    decide +kernel
  obtain ⟨columns, hcolumns, htext⟩ : ∃ columns,
      ({} : Environment).normalizeProjection "SELECT \"current_date\" FROM t" = .ok columns ∧
        projectionText columns = "current_date" := by
    rw [Environment.regenerate] at hfirst
    cases hcolumns : ({} : Environment).normalizeProjection "SELECT \"current_date\" FROM t" with
    | error e =>
      rw [hcolumns] at hfirst
      cases hfirst
    | ok columns =>
      rw [hcolumns] at hfirst
      exact ⟨columns, rfl, Option.some.inj hfirst⟩
  obtain ⟨columns', hcolumns', htext'⟩ := h 256 (by decide) _ columns hcolumns
  have hagain := regenerate_ownWord "current_date" (by decide)
  have hplain : Text.quoteIdent "current_date" = "current_date" := by decide
  rw [htext] at hcolumns' htext'
  rw [hplain, Environment.regenerate, hcolumns'] at hagain
  exact hagain (congrArg some htext')

end SqlNormal
