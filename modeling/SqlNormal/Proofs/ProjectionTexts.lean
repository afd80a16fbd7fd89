import SqlNormal.Proofs.WordedTexts

/-!
# Projections that are read again

The columns of a projection are written behind `SELECT` with commas between them, each with its name
behind `AS` where it has to be written. If the text of every column is read again, the projection
is: the text stays, and in every column the same functions and columns are met.

* `nameTokens`, `starTokens`, `WrittenItem`: items as they are written, expressions and stars;
* `WrittenItem.Readable`, `separatedFrom_items`, `headKey_items`: items that are read;
* `Node.RereadsAsItem`: columns whose texts are items that are read;
* **`Environment.normalizeProjection_of_rereads`**: projections of those are written again.
-/

namespace SqlNormal

namespace Sql

/-! ## Items -/

namespace Reader

variable {rest ls : List Lexeme} {tokens : List Token} {t : Tree} {budget : Nat}

/-- Nothing is left, or a comma comes first. -/
def ItemEnds (rest : List Lexeme) : Prop :=
  ∀ l ∈ rest.head?, l.token = .symbol ","

theorem itemEnds_nil : ItemEnds [] := by
  rintro l ⟨⟩

theorem ItemEnds.behind (h : ItemEnds rest) : Behind 0 rest := by
  cases rest with
  | nil => exact behind_nil
  | cons l rest => exact behind_closing (by decide) (h l rfl)

/-- The name of an item behind `AS`. -/
def nameTokens (name : Option String) : List Token :=
  name.toList.flatMap fun name => [plainWord "AS", .word (identOf name)]

theorem optionalName_item {reserved : List String} {name : Option String}
    (hls : ls.map (·.token) = nameTokens name) (hrest : ItemEnds rest) :
    optionalName reserved (ls ++ rest) = .ok (name.map identOf, rest) := by
  cases name with
  | none =>
    obtain rfl := List.map_eq_nil_iff.mp hls
    cases rest with
    | nil => rfl
    | cons l rest =>
      obtain ⟨token, start⟩ := l
      obtain rfl : token = .symbol "," := hrest _ rfl
      rfl
  | some name =>
    obtain ⟨⟨_, _⟩, lb, rfl, rfl, hb⟩ := List.map_eq_cons_iff.mp hls
    obtain ⟨⟨_, _⟩, rfl, rfl⟩ := List.map_eq_singleton_iff.mp hb
    rfl

theorem toUpper_toLower (c : Char) : c.toLower.toUpper = c.toUpper := by
  by_cases h : 'A'.val ≤ c.val ∧ c.val ≤ 'Z'.val
  · have hall : ∀ n < 128, (Char.ofNat n).toLower.toUpper = (Char.ofNat n).toUpper := by decide
    have hlt : c.toNat ≤ 90 := h.2
    exact forall_ascii (p := fun c => c.toLower.toUpper = c.toUpper) hall (by omega)
  · rw [Char.toLower, dif_neg h]

theorem upper_lower (s : String) : Text.upper (Text.lower s) = Text.upper s := by
  have hmap : (s.toList.map Char.toLower).map Char.toUpper = s.toList.map Char.toUpper := by
    rw [List.map_map]
    exact List.map_congr_left fun c _ => toUpper_toLower c
  rw [Text.upper, Text.upper, Text.lower, String.toList_ofList, hmap]

/-- A phrase is not the word `FROM`. -/
theorem ne_from_of_whole {e : Expr} (h : Whole tokens t) (he : Denotes tokens e t) {value : String}
    (hname : e = .name ⟨value, none⟩) : Text.lower value ≠ "from" := by
  have hshy := h.opening.shy (.word ⟨value, none⟩) (by simp [he.name _ hname])
  intro hlower
  have hupper : Text.upper value = "FROM" := by
    rw [← upper_lower, hlower]
    decide
  have hkey : Token.keyword (.word ⟨value, none⟩) = "FROM" := hupper
  have hmem : shyWords.contains (Token.keyword (.word ⟨value, none⟩)) = false := hshy
  rw [hkey] at hmem
  exact absurd hmem (by decide)

/-- A phrase and a name are an item. -/
theorem selectItem_phrase (h : Whole tokens t) (hheight : t.height ≤ budget)
    {name : Option String} (hls : ls.map (·.token) = tokens ++ nameTokens name) :
    ∃ e, (∀ source, e.toTree source = .ok t) ∧ ∀ rest, ItemEnds rest →
      selectItem (rules budget) (ls ++ rest) = .ok (.expr e (name.map identOf), rest) := by
  obtain ⟨lx, la, rfl, hx, ha⟩ := List.map_eq_append_iff.mp hls
  obtain ⟨e, he, hread⟩ := h.whole Nat.one_pos hheight hx
  refine ⟨e, he.tree, fun rest hrest => ?_⟩
  have hbehind : Behind 0 (la ++ rest) := by
    cases name with
    | none =>
      obtain rfl := List.map_eq_nil_iff.mp ha
      exact hrest.behind
    | some name =>
      obtain ⟨a, la, rfl, ha, -⟩ := List.map_eq_cons_iff.mp ha
      exact behind_word (by decide) ha
  have hitem : starOrExpr (rules budget).whole (lx ++ (la ++ rest)) = .ok (.expr e, la ++ rest) :=
    starOrExpr_phrase h.opening hx hbehind.stops (hread _ hbehind)
  have hname : optionalName reservedForColumnName (la ++ rest) = .ok (name.map identOf, rest) :=
    optionalName_item ha hrest
  rw [List.append_assoc, selectItem, run_bind, hitem, ok_bind]
  dsimp only
  split
  · rename_i value
    rw [if_neg (ne_from_of_whole h he rfl)]
    simp only [run_bind, run_pure, ok_bind, hname]
  · simp only [run_bind, run_pure, ok_bind, hname]

/-! ### Stars -/

/-- The points and names of a path with a star at its end are read to the star. -/
theorem tableStarFrom_star {parts : List Ident} {ls : List Lexeme}
    (hls : ls.map (·.token) = pathMore parts ++ [.symbol ".", .symbol "*"]) {fuel : Nat}
    (hfuel : ls.length < fuel) :
    tableStarFrom fuel (ls ++ rest) = .ok (some parts, rest) := by
  obtain ⟨fuel, rfl⟩ : ∃ n, fuel = n + 1 := ⟨fuel - 1, by omega⟩
  induction parts generalizing ls fuel with
  | nil =>
    match ls, hls with
    | [⟨_, start⟩, ⟨_, start'⟩], rfl => rfl
  | cons j parts ih =>
    obtain ⟨p, _, rfl, hp, hls⟩ := List.map_eq_cons_iff.mp hls
    obtain ⟨n, ls, rfl, hn, hls⟩ := List.map_eq_cons_iff.mp hls
    simp only [List.length_cons] at hfuel
    obtain ⟨fuel, rfl⟩ : ∃ n, fuel = n + 1 := ⟨fuel - 1, by omega⟩
    have hpoint : symbol? "." (p :: n :: ls ++ rest) = .ok (true, n :: (ls ++ rest)) :=
      run_symbol?_of hp
    have hstar : symbol? "*" (n :: (ls ++ rest)) = .ok (false, n :: (ls ++ rest)) :=
      run_symbol? (by simp [hn])
    rw [tableStarFrom]
    simp only [run_bind, hpoint, hstar, ok_bind, run_ite, Bool.false_eq_true, if_true, if_false,
      run_ident_of hn, ih hls fuel (by omega), run_pure, Option.map_some]

/-- Nothing is said behind a star that ends an item. -/
theorem starOptions_ends {r : Rules} (h : ItemEnds rest) : starOptions r rest = .ok ("", rest) := by
  have hkey : headKey rest = "" := by
    cases rest with
    | nil => rfl
    | cons l rest =>
      have htoken : l.token = .symbol "," := h l rfl
      show l.token.keyword = ""
      rw [htoken]
      rfl
  have hclause {α : Type} (word : String) (hword : "" ≠ word) (body : Reader α) :
      clause? word body rest = .ok (none, rest) :=
    run_clause? (hkey ▸ hword)
  simp only [starOptions, run_bind, run_ite, Option.isSome_none, Bool.false_eq_true, if_false,
    hclause "ILIKE" (by decide), hclause "EXCLUDE" (by decide),
    hclause "EXCEPT" (by decide), hclause "REPLACE" (by decide),
    hclause "RENAME" (by decide), ok_bind, run_pure]
  rfl

/-- The tokens of the columns of a table, or of all columns. -/
def starTokens (qualifier : List String) : List Token :=
  match qualifier.map identOf with
  | [] => [.symbol "*"]
  | i :: parts => .word i :: (pathMore parts ++ [.symbol ".", .symbol "*"])

/-- The entry of the columns of a table, or of all columns. -/
def starEntry (qualifier : List String) : SelectEntry :=
  if qualifier.isEmpty then .wildcard else .tableWildcard (qualifier.map identOf)

/-- A star is an item. -/
theorem selectItem_star {r : Rules} {qualifier : List String}
    (hls : ls.map (·.token) = starTokens qualifier) :
    ∃ read, (∀ source, read.toEntry source = .ok (starEntry qualifier)) ∧ ∀ rest, ItemEnds rest →
      selectItem r (ls ++ rest) = .ok (read, rest) := by
  cases qualifier with
  | nil =>
    obtain ⟨l, rfl, hl⟩ := List.map_eq_singleton_iff.mp hls
    refine ⟨.star "", fun _ => rfl, fun rest hrest => ?_⟩
    have hstar : starOrExpr r.whole ([l] ++ rest) = .ok (.all, rest) := by
      simp only [starOrExpr, run_bind, run_get, List.singleton_append, ok_bind, run_symbol?_of hl,
        run_ite, if_true, run_pure]
    simp only [selectItem, run_bind, hstar, ok_bind, starOptions_ends hrest, run_pure]
  | cons name names =>
    obtain ⟨l, ls, rfl, hl, hmore⟩ := List.map_eq_cons_iff.mp hls
    refine ⟨.tableStar ((name :: names).map identOf) "", fun _ => rfl, fun rest hrest => ?_⟩
    have hsymbol : symbol? "*" (l :: (ls ++ rest)) = .ok (false, l :: (ls ++ rest)) :=
      run_symbol? (by simp [hl])
    have hpath : tableStarFrom ((ls ++ rest).length + 1) (ls ++ rest) =
        .ok (some (names.map identOf), rest) :=
      tableStarFrom_star hmore (by simp)
    have hname : identOf? l.token = some (identOf name) := by rw [hl]; rfl
    have hstar : starOrExpr r.whole (l :: (ls ++ rest)) =
        .ok (.table ((name :: names).map identOf), rest) := by
      simp only [starOrExpr, run_bind, run_get, ok_bind, hsymbol, run_ite, Bool.false_eq_true,
        if_false, hname, run_set, hpath, run_pure, List.map_cons]
    rw [List.cons_append, selectItem, run_bind, hstar, ok_bind]
    simp only [run_bind, ok_bind, starOptions_ends hrest, run_pure]

/-! ### Items -/

/-- The words that do not begin a projection, as names. -/
def leadingNames : List String :=
  leadingWords.map Text.lower

/-- An item of a projection as it is written: an expression, by its tokens and its tree, with the
name behind it, or the columns of a table. -/
inductive WrittenItem where
  | expr (tokens : List Token) (tree : Tree) (name : Option String)
  | columns (qualifier : List String)

namespace WrittenItem

/-- The tokens of an item. -/
def spelling : WrittenItem → List Token
  | expr tokens _ name => tokens ++ nameTokens name
  | columns qualifier => starTokens qualifier

/-- The entry of an item. -/
def entry : WrittenItem → SelectEntry
  | expr _ tree name => .expr tree (name.map identOf)
  | columns qualifier => starEntry qualifier

/-- The item is read as such on the budget, also at the beginning of a projection. -/
inductive Readable (budget : Nat) : WrittenItem → Prop
  | expr {tokens : List Token} {tree : Tree} {name : Option String} (h : Whole tokens tree)
      (hheight : tree.height ≤ budget) : Readable budget (expr tokens tree name)
  | columns {qualifier : List String} (h : ∀ first ∈ qualifier.head?, first ∉ leadingNames) :
      Readable budget (columns qualifier)

variable {item : WrittenItem}

theorem Readable.mono {budget' : Nat} (h : item.Readable budget) (hle : budget ≤ budget') :
    item.Readable budget' := by
  cases h with
  | expr h hheight => exact .expr h (hheight.trans hle)
  | columns h => exact .columns h

/-- What was read is the item that was written. -/
def Denotes (item : WrittenItem) (read : SelectItem) : Prop :=
  ∀ source, read.toEntry source = .ok item.entry

/-- An item is read, whatever other items follow. -/
theorem Readable.selectItem (h : item.Readable budget) (hls : ls.map (·.token) = item.spelling) :
    ∃ read, item.Denotes read ∧ ∀ rest, ItemEnds rest →
      Reader.selectItem (rules budget) (ls ++ rest) = .ok (read, rest) := by
  cases h with
  | expr h hheight =>
    obtain ⟨e, he, hread⟩ := selectItem_phrase h hheight hls
    refine ⟨_, fun source => ?_, hread⟩
    rw [SelectItem.toEntry, he source]
    rfl
  | columns => exact selectItem_star hls

/-- The keyword in front of an item is none of `leadingWords`. -/
theorem Readable.headKey_ne (h : item.Readable budget) (hls : ls.map (·.token) = item.spelling)
    (rest : List Lexeme) {word : String} (hword : word ∈ leadingWords) :
    headKey (ls ++ rest) ≠ word := by
  cases h with
  | expr h =>
    have hshy : ∀ word ∈ leadingWords, word ∈ shyWords := by decide
    obtain ⟨lx, la, rfl, hx, -⟩ := List.map_eq_append_iff.mp hls
    rw [List.append_assoc]
    exact h.opening.headKey_ne hx (hshy word hword)
  | @columns qualifier hfirst =>
    have hwords : ∀ word ∈ leadingWords, word ≠ "" ∧ Text.lower word ∈ leadingNames := by decide
    obtain ⟨hne, hmem⟩ := hwords word hword
    cases qualifier with
    | nil =>
      obtain ⟨l, rfl, hl⟩ := List.map_eq_singleton_iff.mp hls
      show l.token.keyword ≠ word
      rw [hl]
      exact hne.symm
    | cons name names =>
      obtain ⟨l, ls, rfl, hl, -⟩ := List.map_eq_cons_iff.mp hls
      show l.token.keyword ≠ word
      rw [hl]
      rcases keyword_identOf name with hnone | ⟨-, hname⟩
      · rw [hnone]
        exact hne.symm
      · rintro rfl
        exact hfirst name rfl (hname ▸ hmem)

end WrittenItem

/-- Items with commas between them are read as that many items. -/
theorem separatedFrom_items {items : List WrittenItem} {item : WrittenItem}
    (h : ∀ i ∈ item :: items, i.Readable budget)
    (hls : ls.map (·.token) = listed ((item :: items).map WrittenItem.spelling)) :
    ∃ read, List.Forall₂ WrittenItem.Denotes (item :: items) read ∧ ∀ fuel, ls.length < fuel →
      separatedFrom (selectItem (rules budget)) fuel ls = .ok (read, []) := by
  obtain ⟨hitem, hitems⟩ := List.forall_mem_cons.mp h
  induction items generalizing item ls with
  | nil =>
    have hone : ls.map (·.token) = item.spelling := hls.trans (listed_one _)
    obtain ⟨first, hfirst, hread⟩ := hitem.selectItem hone
    refine ⟨[first], .cons hfirst .nil, fun fuel hfuel => ?_⟩
    obtain ⟨fuel, rfl⟩ : ∃ n, fuel = n + 1 := ⟨fuel - 1, by omega⟩
    have hlast := hread [] itemEnds_nil
    rw [List.append_nil] at hlast
    have hcomma : symbol? "," [] = .ok (false, []) := rfl
    simp only [separatedFrom, run_bind, hlast, ok_bind, hcomma, run_ite, Bool.false_eq_true,
      if_false, run_pure]
  | cons item' items ih =>
    rw [List.map_cons, List.map_cons, listed_cons] at hls
    obtain ⟨lx, lmore, rfl, hx, hmore⟩ := List.map_eq_append_iff.mp hls
    obtain ⟨comma, ly, rfl, hcomma, hy⟩ := List.map_eq_cons_iff.mp hmore
    obtain ⟨first, hfirst, hread⟩ := hitem.selectItem hx
    obtain ⟨hitem', hitems'⟩ := List.forall_mem_cons.mp hitems
    obtain ⟨read, hreads, hall⟩ := ih hitems hy hitem' hitems'
    refine ⟨first :: read, .cons hfirst hreads, fun fuel hfuel => ?_⟩
    rw [List.length_append, List.length_cons] at hfuel
    obtain ⟨fuel, rfl⟩ : ∃ n, fuel = n + 1 := ⟨fuel - 1, by omega⟩
    have hends : ItemEnds (comma :: ly) := by
      rintro _ ⟨⟩
      exact hcomma
    simp only [separatedFrom, run_bind, hread _ hends, ok_bind, run_symbol?_of hcomma, run_ite,
      if_true, hall fuel (by omega), run_pure]

/-- The keyword in front of items is none of `leadingWords`. -/
theorem headKey_items {items : List WrittenItem} {item : WrittenItem} (h : item.Readable budget)
    (hls : ls.map (·.token) = listed ((item :: items).map WrittenItem.spelling))
    {word : String} (hword : word ∈ leadingWords) : headKey ls ≠ word := by
  obtain ⟨more, hmore⟩ : ∃ more,
      listed ((item :: items).map WrittenItem.spelling) = item.spelling ++ more := by
    cases items with
    | nil => exact ⟨[], by rw [List.append_nil]; exact listed_one _⟩
    | cons item' items => exact ⟨_, listed_cons _ _ _⟩
  obtain ⟨lx, rest, rfl, hx, -⟩ := List.map_eq_append_iff.mp (hls.trans hmore)
  exact h.headKey_ne hx rest hword

theorem mapM_toEntry {source : String} {read : List SelectItem} {items : List WrittenItem}
    (h : List.Forall₂ WrittenItem.Denotes items read) :
    read.mapM (·.toEntry source) = .ok (items.map WrittenItem.entry) := by
  induction h with
  | nil => rfl
  | cons hitem _ ih =>
    rw [List.mapM_cons, ih, hitem source]
    rfl

end Reader

end Sql

open Sql (Token Spells AfterOperand AfterName SpellAll spells_plainWord)
open Sql.Reader (Whole WrittenItem nameTokens plainWord starTokens starEntry)

variable {env : Environment}

/-! ## Names -/

/-- The name that has to be written is the given one, unless it is the column's own. -/
theorem Node.writtenName?_eq (n : Node) :
    n.writtenName? = n.labels.givenName?.filter fun name => n.own? ≠ some name := by
  unfold writtenName?
  cases n with
  | column l qualifier own =>
    cases hname : l.givenName? with
    | none => simp [labels, hname]
    | some name => by_cases hown : own = name <;> simp [labels, own?, hname, hown, Option.filter]
  | _ =>
    simp only [own?, labels]
    cases (Labels.givenName? _) <;> simp [Option.filter]

/-- A node with the name that was written for another one is written as that one is. -/
theorem Node.Echoes.projectionItem {m n : Node} (h : m.Echoes n)
    (houter : m.labels.outerName = none) :
    (m.withName n.writtenName?).projectionItem = n.projectionItem := by
  have hecho : (m.withName n.writtenName?).Echoes n :=
    (echoes_relabel (f := fun l => { l with name := n.writtenName? }) (fun _ => rfl) m).trans h
  have hgiven : (m.withName n.writtenName?).labels.givenName? = n.writtenName? := by
    cases m <;> simp_all [withName, relabel, labels, Labels.givenName?]
  have hname : (m.withName n.writtenName?).writtenName? = n.writtenName? := by
    rw [writtenName?_eq, hgiven, hecho.own, writtenName?_eq n, Option.filter_filter]
    simp
  unfold Node.projectionItem
  rw [hname, hecho.toSql]

namespace Environment

theorem outerName_literal {l : Literal} {n : Node} (h : env.literal l = .ok n) :
    n.labels.outerName = none := by
  cases l with
  | number text =>
    unfold literal at h
    dsimp only at h
    split at h
    · obtain rfl := pure_eq_ok.mp h
      rfl
    · cases h
  | string s | boolean b | null | interval text =>
    obtain rfl := pure_eq_ok.mp h
    rfl
  | typed typeName text =>
    simp only [literal, typedLiteral] at h
    split_ifs at h
    all_goals
      obtain ⟨_, -, h⟩ := bind_eq_ok.mp h
      obtain rfl := pure_eq_ok.mp h
      rfl

/-- What is lowered has no name from an enclosing query. -/
theorem outerName_lower (hstd : env.collaborators = .standard) {d : Nat} {t : Tree} {n : Node}
    (h : env.lower d t = .ok n) : n.labels.outerName = none := by
  refine lower_induction hstd (P := fun _ _ n => n.labels.outerName = none) (fun d t n h => ?_) h
  cases h with
  | literal h => exact outerName_literal h
  | identifier h =>
    unfold columnOf at h
    split at h
    · cases h
    · obtain rfl := pure_eq_ok.mp h
      rfl
  | @nested t n h =>
    have hpart := h.2
    cases n <;> exact hpart
  | call =>
    unfold spelledCall
    split <;> rfl
  | _ => rfl

/-! ## Projections -/

/-- The column is written as the other one is, and the same functions and columns are met in it. -/
def Again (column' column : Node) : Prop :=
  column'.projectionItem = column.projectionItem ∧ column'.references = column.references

/-- A column whose text is read again is an item of a projection. -/
theorem spells_item {n : Node} {tokens : List Token}
    (h : Spells AfterOperand n.toSql.toList tokens) :
    Spells AfterOperand n.projectionItem.toList (tokens ++ nameTokens n.writtenName?) := by
  unfold Node.projectionItem
  cases n.writtenName? with
  | none => simpa [nameTokens] using h
  | some name =>
    have hword : Spells AfterName "AS".toList [plainWord "AS"] := spells_plainWord (by decide)
    have hname : Spells AfterOperand (Text.quoteIdent name).toList [.word (Sql.identOf name)] :=
      (Sql.spells_name name).mono fun _ => AfterOperand.afterName
    have hlist : (n.toSql ++ " AS " ++ Text.quoteIdent name).toList =
        n.toSql.toList ++ (' ' :: ("AS".toList ++ (' ' :: (Text.quoteIdent name).toList))) := by
      simp
    rw [hlist]
    exact h.append (Sql.spells_behind (hword.append (Sql.spells_behind hname)
      fun _ _ => Sql.afterName_blank _)) fun _ _ => Climbing.afterOperand_blank _

end Environment

/-- A column that is read again as an item of a projection: an expression within the levels, or the
columns of a table, which have no name. -/
inductive Node.RereadsAsItem (env : Environment) : Node → Prop
  | expr {n : Node} (h : n.Rereads env) (hlevels : n.levels ≤ env.config.maxDepth) :
      RereadsAsItem env n
  | columns {l : Labels} {qualifier : List String} (hl : l.parenthesized = false)
      (hname : l.givenName? = none)
      (hfirst : ∀ first ∈ qualifier.head?, first ∉ Sql.Reader.leadingNames) :
      RereadsAsItem env (columns l qualifier)

/-- A star, or a path with a star at its end. -/
theorem spells_star (qualifier : List String) :
    Spells AfterOperand (columnsText qualifier).toList (starTokens qualifier) := by
  have hstar : Spells AfterOperand "*".toList [.symbol "*"] := Sql.spells_operator .multiply
  cases qualifier with
  | nil => exact hstar
  | cons name names =>
    have hpoint : Spells AfterOperand ".*".toList [.symbol ".", .symbol "*"] :=
      Sql.spells_point.append hstar fun _ _ => by
        rintro _ ⟨⟩
        decide
    have hlist : (columnsText (name :: names)).toList =
        (Text.dotted (name :: names)).toList ++ ".*".toList := by
      rw [columnsText, List.isEmpty_cons, if_neg Bool.false_ne_true, String.toList_append]
    rw [hlist]
    exact (Sql.spells_dotted (List.cons_ne_nil name names)).append hpoint fun _ _ => by
      rintro _ ⟨⟩
      decide

namespace Environment

section Projection

variable (hstd : env.collaborators = .standard)
include hstd

theorem bindEntry_of_yields {t : Tree} {n : Node} (h : env.Yields t (·.Echoes n))
    (hheight : t.height ≤ env.config.maxDepth) : ∃ column',
      env.bindEntry (.expr t (n.writtenName?.map Sql.identOf)) = .ok column' ∧ Again column' n := by
  obtain ⟨m, hm, hecho⟩ := h 1 (by omega)
  have hfolded : (n.writtenName?.map Sql.identOf).map Ident.folded = n.writtenName? := by
    rw [Option.map_map]
    cases n.writtenName? with
    | none => rfl
    | some name => exact congrArg some (Sql.folded_identOf name)
  have hname : env.nameOf (n.writtenName?.map Sql.identOf) m = .ok n.writtenName? := by
    unfold nameOf
    rw [hstd]
    exact congrArg Except.ok hfolded
  refine ⟨m.withName n.writtenName?, ?_, hecho.projectionItem (outerName_lower hstd hm), ?_⟩
  · show (env.lower 1 t >>= fun n' => _) = _
    rw [hm]
    show (env.nameOf _ m >>= _) = _
    rw [hname]
    rfl
  · rw [Node.withName, Node.references_relabel, hecho.references]

/-- The columns of a table are bound again. -/
theorem bindEntry_star {l : Labels} (hl : l.parenthesized = false) (hname : l.givenName? = none)
    (qualifier : List String) : ∃ column',
      env.bindEntry (starEntry qualifier) = .ok column' ∧ Again column' (.columns l qualifier) := by
  have hagain (text : String) : Again (.columns { rawText := text } qualifier)
      (.columns l qualifier) := by
    refine ⟨?_, rfl⟩
    rw [Node.projectionItem, Node.projectionItem, Node.writtenName?_eq, Node.writtenName?_eq,
      Node.labels, Node.labels, hname, Node.toSql, Node.toSql, Node.wrap, Node.wrap, hl]
    rfl
  cases qualifier with
  | nil => exact ⟨_, rfl, hagain _⟩
  | cons name names =>
    have hfolded : ((name :: names).map Sql.identOf).map Ident.folded = name :: names := by
      rw [List.map_map]
      exact (List.map_congr_left fun name _ => Sql.folded_identOf name).trans (List.map_id _)
    have hqualifier : env.collaborators.resolveTable ((name :: names).map Sql.identOf) =
        .ok (name :: names) := by
      rw [hstd]
      exact congrArg Except.ok hfolded
    refine ⟨_, ?_, hagain (Ident.path ((name :: names).map Sql.identOf) ++ ".*")⟩
    show (env.collaborators.resolveTable _ >>= _) = _
    rw [hqualifier]
    rfl

/-- A column that is read again is an item of a projection, and the entry of the item is bound to a
column that is written as it is. -/
theorem exists_item {column : Node} (h : column.RereadsAsItem env) : ∃ item : WrittenItem,
    Spells AfterOperand column.projectionItem.toList item.spelling ∧
      item.Readable env.config.maxDepth ∧
      ∃ column', env.bindEntry item.entry = .ok column' ∧ Again column' column := by
  cases h with
  | expr h hlevels =>
    obtain ⟨-, tokens, t, hspells, hphrase, hheight, hyields⟩ := h
    exact ⟨.expr tokens t column.writtenName?, spells_item hspells,
      .expr (hphrase.toWhole column.bindLevel_pos) (hheight.trans hlevels),
      bindEntry_of_yields hstd hyields (hheight.trans hlevels)⟩
  | @columns l qualifier hl hname hfirst =>
    have htext : (Node.columns l qualifier).projectionItem = columnsText qualifier := by
      rw [Node.projectionItem, Node.writtenName?_eq, Node.labels, hname, Node.toSql, Node.wrap, hl]
      rfl
    exact ⟨.columns qualifier, htext ▸ spells_star qualifier, .columns hfirst,
      bindEntry_star hstd hl hname qualifier⟩

/-- Columns that are read again are items of a projection, and the entries of the items are bound to
columns that are written as they are. -/
theorem exists_items {columns : List Node} (h : ∀ c ∈ columns, c.RereadsAsItem env) :
    ∃ items : List WrittenItem,
      SpellAll (columns.map Node.projectionItem) (items.map WrittenItem.spelling) ∧
      (∀ i ∈ items, i.Readable env.config.maxDepth) ∧
      ∃ columns', env.bindProjection (items.map WrittenItem.entry) = .ok columns' ∧
        List.Forall₂ Again columns' columns := by
  induction columns with
  | nil => exact ⟨[], .nil, List.forall_mem_nil _, [], rfl, .nil⟩
  | cons n columns ih =>
    obtain ⟨hn, hcolumns⟩ := List.forall_mem_cons.mp h
    obtain ⟨item, hspells, hreadable, column', hentry, hown⟩ := exists_item hstd hn
    obtain ⟨items, hall, hitems, columns', hbind, hagain⟩ := ih hcolumns
    refine ⟨item :: items, .cons hspells hall, List.forall_mem_cons.mpr ⟨hreadable, hitems⟩,
      column' :: columns', ?_, .cons hown hagain⟩
    unfold bindProjection at hbind ⊢
    rw [List.map_cons, List.mapM_cons, hbind]
    exact (congrArg (· >>= _) hentry).trans rfl

/-- **Columns that are read again** are written again as a projection. -/
theorem normalizeProjection_of_rereads (hroom : HasRoom env.config.maxDepth)
    {columns : List Node} (hne : columns ≠ []) (h : ∀ c ∈ columns, c.RereadsAsItem env) :
    ∃ columns', env.normalizeProjection ("SELECT " ++ projectionText columns) = .ok columns' ∧
      List.Forall₂ Again columns' columns := by
  obtain ⟨items, hspells, hitems, columns', hbind, hagain⟩ := exists_items hstd h
  obtain ⟨start, ls, htokens, hls⟩ :=
    tokenize?_select (Sql.spells_commas hspells (by simpa using hne))
  obtain ⟨item, items, rfl⟩ := List.exists_cons_of_ne_nil (l := items) fun hnil => by
    rw [hnil] at hspells
    exact hne (List.map_eq_nil_iff.mp (List.eq_nil_of_length_eq_zero hspells.length_eq))
  have hread : ∀ i ∈ item :: items, i.Readable (itemBudget env.config.maxDepth) :=
    fun i hi => (hitems i hi).mono (le_itemBudget _)
  obtain ⟨read, hdenotes, hall⟩ := Sql.Reader.separatedFrom_items hread hls
  have hselectItems : Sql.Reader.selectItems (Sql.rules (itemBudget env.config.maxDepth)) ls =
      .ok (read, []) := hall _ (Nat.lt_succ_self _)
  obtain ⟨text, hselect⟩ := Sql.Reader.select_items (fun word hword =>
    Sql.Reader.headKey_items (hitems item List.mem_cons_self) hls hword) hselectItems
  have hentries : entriesOfText env.config.maxDepth ("SELECT " ++ projectionText columns) =
      .ok ((item :: items).map WrittenItem.entry) := by
    rw [projectionText, entriesOfText_select hroom htokens hselect,
      Sql.Reader.mapM_toEntry hdenotes]
    rfl
  refine ⟨columns', ?_, hagain⟩
  rw [normalizeProjection, hentries]
  exact answering_eq_ok.mpr hbind

end Projection

end Environment

end SqlNormal
