import SqlNormal.Proofs.Beginnings
import SqlNormal.Proofs.TypedLiterals

/-!
# Operands

What an operator stands beside: constants, names, bare words, expressions in parentheses, and
operands with a sign or `NOT` in front of them.

* `takenWords`: the words that mean something else where a name could stand;
* `begins_number`, `begins_string`, `begins_word`, `begins_typed`, `begins_interval`: constants;
* `begins_path`: names and paths;
* `Phrase.nested`, `Phrase.sign`, `Phrase.not`: phrases in parentheses and behind an operator.
-/

namespace SqlNormal.Sql.Reader

variable {r : Rules} {inner : Reader Expr} {word : String} {i : Ident} {l : Lexeme}
  {more rest : List Lexeme} {t x : Tree} {tokens : List Token} {bind edge : Nat}

/-! ## Constants -/

theorem opening_single {t : Token} (hshy : isShy t = false) (hmark : ∀ s, t ≠ .symbol s) :
    Opening [t] where
  nonempty := List.cons_ne_nil _ _
  shy := by simpa using hshy
  mark spelling h := absurd (Option.some.inj h) (hmark spelling)
  path _ _ _ := rfl
  bracket h := hmark "[" (List.mem_singleton.mp h).symm
  closed h := absurd (Option.some.inj h) (hmark "(")
  nulls := rfl

/-- A constant that is a token. -/
theorem begins_constant {token : Token} {c : Constant} (hsymbol : ∀ s, token ≠ .symbol s)
    (hword : ∀ i, token ≠ .word i) (hconstant : constantOf? token = some c) {literal : Literal}
    (hliteral : literalOf c = .ok literal) : Begins [token] (.literal literal) edge := by
  have hkey : isShy token = false := by
    cases token with
    | symbol s => exact absurd rfl (hsymbol s)
    | word i => exact absurd rfl (hword i)
    | _ => rfl
  refine ⟨opening_single hkey hsymbol, fun budget _ ls hls => ?_⟩
  obtain ⟨l, rfl, rfl⟩ := List.map_eq_singleton_iff.mp hls
  refine ⟨.constant c, ⟨fun source => ?_, nofun⟩, fun rest hrest => ?_⟩
  · simp only [Expr.toTree, hliteral]
    rfl
  · refine beginning_wordless hword (fun inner => ?_) hrest.stops
    obtain ⟨token, start⟩ := l
    cases token with
    | symbol s => exact absurd rfl (hsymbol s)
    | word i => exact absurd rfl (hword i)
    | _ =>
      cases hconstant
      rfl

theorem begins_number {n : Numeral} {long : Bool} {literal : Literal}
    (h : numeralLiteral n = .ok literal) : Begins [.number n long] (.literal literal) edge :=
  begins_constant (c := .number n long) (by simp) (by simp) rfl h

theorem begins_string (s : String) : Begins [.string s] (.literal (.string s)) edge :=
  begins_constant (c := .string s) (by simp) (by simp) rfl rfl

/-- A word with a form of its own that ends with the word. -/
theorem begins_special {e : Location → Expr} (hshy : isShy (.word i) = false)
    (hbegins : Token.keyword (.word i) ∉ typeBeginners)
    (hspecial : ∀ (r : Rules) inner start rest, Stops rest →
      specialForm r inner ⟨.word i, start⟩ i rest = .ok (some (e start), rest))
    (htree : ∀ start source, (e start).toTree source = .ok t)
    (hname : ∀ start i', e start ≠ .name i') : Begins [.word i] t edge := by
  refine ⟨opening_single hshy nofun, fun budget _ ls hls => ?_⟩
  obtain ⟨⟨_, start⟩, rfl, rfl⟩ := List.map_eq_singleton_iff.mp hls
  refine ⟨e start, ⟨htree start, fun i' hi => absurd hi (hname start i')⟩, fun rest hrest => ?_⟩
  exact beginning_word rfl (fun inner => typedString_stops rfl hbegins hrest.stops)
    (fun inner => wordForm_special (hspecial _ _ _ _ hrest.stops)) hrest.stops

theorem begins_true : Begins [plainWord "TRUE"] (.literal (.boolean true)) edge :=
  begins_special (e := fun _ => .constant (.boolean true)) (by decide) (by decide)
    (fun _ _ _ _ _ => rfl) (fun _ _ => rfl) (by simp)

theorem begins_false : Begins [plainWord "FALSE"] (.literal (.boolean false)) edge :=
  begins_special (e := fun _ => .constant (.boolean false)) (by decide) (by decide)
    (fun _ _ _ _ _ => rfl) (fun _ _ => rfl) (by simp)

theorem begins_null : Begins [plainWord "NULL"] (.literal .null) edge :=
  begins_special (e := fun _ => .constant .null) (by decide) (by decide)
    (fun _ _ _ _ _ => rfl) (fun _ _ => rfl) (by simp)

theorem opening_typed {word s : String} (hshy : isShy (plainWord word) = false) :
    Opening [plainWord word, .string s] where
  nonempty := List.cons_ne_nil _ _
  shy := by
    intro t ht
    rcases (by simpa using ht : t = plainWord word ∨ t = .string s) with rfl | rfl
    · exact hshy
    · rfl
  mark _ := by simp [plainWord]
  path _ _ _ := rfl
  bracket := by simp [plainWord]
  closed := by simp [plainWord]
  nulls := Bool.and_false _

theorem dataType_temporal_string {start start' : Location} {s : String}
    (h : word ∈ temporalWords) :
    dataType (⟨plainWord word, start⟩ :: ⟨.string s, start'⟩ :: rest) =
      .ok (⟨word, .temporal⟩, ⟨.string s, start'⟩ :: rest) := by
  rcases mem_temporalWords.mp h with rfl | rfl | rfl <;> rfl

/-- A date, a time or a timestamp. -/
theorem begins_typed (h : word ∈ temporalWords) (s : String) :
    Begins [plainWord word, .string s] (.literal (.typed word s)) edge := by
  have hall : ∀ word ∈ temporalWords, isShy (plainWord word) = false := by decide
  refine ⟨opening_typed (hall word h), fun budget _ ls hls => ?_⟩
  match ls, hls with
  | [⟨_, start⟩, ⟨_, start'⟩], rfl =>
    refine ⟨.typed ⟨word, .temporal⟩ s, ⟨fun _ => rfl, nofun⟩, fun rest hrest => ?_⟩
    refine beginning_typed ?_
    show typedString _ (⟨plainWord word, start⟩ :: ⟨.string s, start'⟩ :: rest) = _
    rw [typedString, run_bind, dataType_temporal_string h]
    rfl

theorem intervalOf_stops {value : Reader Expr} {e : Expr} {tokens : List Lexeme}
    (h : value tokens = .ok (e, rest)) (hrest : Stops rest) :
    intervalOf value tokens = .ok (.interval e ⟨none, none, none, none⟩, rest) := by
  have hunits : temporalUnits.contains (headKey rest) = false := by
    have hall : ∀ word ∈ "" :: followWords, temporalUnits.contains word = false := by decide
    exact hall _ hrest.headKey_mem
  simp only [intervalOf, run_bind, h, ok_bind, run_keywordAt, hunits, run_ite, Bool.false_eq_true,
    if_false, run_pure, reduceCtorEq, precision?,
    run_peekSymbol (hrest.ne_symbol "(" (by decide)),
    run_keyword? (hrest.headKey_ne "TO" (by decide))]

/-- An interval. -/
theorem begins_interval (s : String) :
    Begins [plainWord "INTERVAL", .string s] (.literal (.interval s)) edge := by
  refine ⟨opening_typed (by decide), fun budget _ ls hls => ?_⟩
  match ls, hls with
  | [⟨_, start⟩, ⟨_, start'⟩], rfl =>
    refine ⟨.interval (.constant (.string s)) ⟨none, none, none, none⟩, ⟨fun source => ?_, nofun⟩,
      fun rest hrest => beginning_typed ?_⟩
    · show Except.ok (Tree.literal (.interval (s ++ ""))) = _
      rw [String.append_empty]
    · show typedString _ (⟨plainWord "INTERVAL", start⟩ :: ⟨.string s, start'⟩ :: rest) = _
      have htype : dataType (⟨plainWord "INTERVAL", start⟩ :: ⟨.string s, start'⟩ :: rest) =
          .ok (⟨"INTERVAL", .interval⟩, ⟨.string s, start'⟩ :: rest) := rfl
      rw [typedString, run_bind, htype, ok_bind]
      exact intervalOf_stops (prefixOf_wordless (by simp) rfl hrest.stops) hrest.stops

/-! ## Names -/

/-- The words that begin a form of their own, or a type, whatever stands behind them. -/
def formWords : List String :=
  selfStanding ++ reservedForIdentifier ++ ["ANY", "ARRAY", "CASE", "NOT"]

/-- The words that mean something else where a name could stand. -/
def takenWords : List String :=
  formWords ++ bareWords ++ shyWords

/-- Nothing opens a list or a group. -/
structure Unopened (rest : List Lexeme) : Prop where
  mark : ∀ spelling ∈ ["(", "\x7b"], rest.head?.map (·.token) ≠ some (.symbol spelling)

theorem Stops.unopened (h : Stops rest) : Unopened rest := by
  have hall : ∀ spelling ∈ ["(", "\x7b"], spelling ∉ followMarks := by decide
  exact ⟨fun spelling hs => h.ne_symbol _ (hall spelling hs)⟩

theorem unopened_point (h : l.token = .symbol ".") : Unopened (l :: rest) := by
  refine ⟨fun spelling hs => ?_⟩
  simp only [List.head?_cons, Option.map_some, h]
  rintro ⟨⟩
  exact absurd hs (by decide)

/-- Any other word has no form of its own where nothing is opened behind it. -/
theorem specialForm_unopened (h : l.token.keyword ∉ formWords) (hrest : Unopened rest) :
    specialForm r inner l i rest = .ok (none, rest) ∨
      specialForm r inner l i rest = .error .unreadable := by
  have hparens {α : Type} (x : Reader α) : inParens x rest = .error .unreadable :=
    inParens_refused (hrest.mark "(" (by decide))
  have hopen : peekSymbol "(" rest = .ok (false, rest) :=
    run_peekSymbol (hrest.mark "(" (by decide))
  have hbrace : peekSymbol "\x7b" rest = .ok (false, rest) :=
    run_peekSymbol (hrest.mark "\x7b" (by decide))
  unfold specialForm
  generalize l.token.keyword = key at h
  split
  -- the words whose form does not begin with a mark are excluded
  all_goals first
    | exact absurd (by decide) h
    | exact .inl rfl
    | exact .inr ((run_map ..).trans (congrArg (Except.map _) (hparens _)))
    | (right; simp only [searchText, run_bind, hparens]; rfl)
    | (left; simp only [run_bind, hopen, hbrace, ok_bind, Bool.false_eq_true, if_false, run_pure])

/-- The points and names behind a name are read to the last one. -/
theorem pathRest_path {parts : List Ident} {ls : List Lexeme}
    (hls : ls.map (·.token) = pathMore parts) {fuel : Nat} (hfuel : ls.length < fuel)
    (hrest : rest.head?.map (·.token) ≠ some (.symbol ".")) :
    pathRest fuel (ls ++ rest) = .ok (parts, rest) := by
  obtain ⟨fuel, rfl⟩ : ∃ n, fuel = n + 1 := ⟨fuel - 1, by omega⟩
  induction parts generalizing ls fuel with
  | nil =>
    obtain rfl := List.map_eq_nil_iff.mp hls
    simp only [List.nil_append, pathRest, run_bind, run_symbol? hrest, ok_bind, run_ite,
      Bool.false_eq_true, if_false, run_pure]
  | cons j parts ih =>
    obtain ⟨p, _, rfl, hp, hls⟩ := List.map_eq_cons_iff.mp hls
    obtain ⟨n, ls, rfl, hn, hls⟩ := List.map_eq_cons_iff.mp hls
    simp only [List.length_cons] at hfuel
    obtain ⟨fuel, rfl⟩ : ∃ n, fuel = n + 1 := ⟨fuel - 1, by omega⟩
    have hpoint : symbol? "." (p :: n :: ls ++ rest) = .ok (true, n :: (ls ++ rest)) :=
      run_symbol?_of hp
    rw [pathRest]
    simp only [run_bind, hpoint, ok_bind, run_ite, if_true, run_ident_of hn, ih hls fuel (by omega),
      run_pure]

theorem introduced?_stops (h : Stops rest) : introduced? i rest = .ok (none, rest) := by
  rw [introduced?, run_bind, run_peek, ok_bind]
  dsimp only
  generalize i.value.toList = cs
  have hfollows : ∀ t ∈ rest.head?.map (·.token), follows t := by
    intro t ht
    obtain ⟨l, hl, rfl⟩ := Option.map_eq_some_iff.mp ht
    exact h l hl
  generalize rest.head?.map (·.token) = token at hfollows
  split
  · exact absurd (hfollows _ rfl) (by simp [follows])
  · exact absurd (hfollows _ rfl) (by simp [follows])
  · rfl

/-- The expression of a name or a path. -/
def pathExpr (i : Ident) (parts : List Ident) : Expr :=
  if parts.isEmpty then .name i else .path (i :: parts)

theorem ordinaryWord_path {parts : List Ident} {ls : List Lexeme}
    (hls : ls.map (·.token) = pathMore parts) (hrest : Stops rest) :
    ordinaryWord r inner l i (ls ++ rest) = .ok (pathExpr i parts, rest) := by
  have hopen : peekSymbol "(" rest = .ok (false, rest) :=
    run_peekSymbol (hrest.ne_symbol _ (by decide))
  cases parts with
  | nil =>
    obtain rfl := List.map_eq_nil_iff.mp hls
    have hpoint : peekSymbol "." rest = .ok (false, rest) :=
      run_peekSymbol (hrest.ne_symbol _ (by decide))
    simp only [List.nil_append, ordinaryWord, run_bind, hopen, hpoint, ok_bind, Bool.or_false,
      Bool.false_eq_true, if_false, introduced?_stops hrest, run_pure]
    rfl
  | cons j parts =>
    obtain ⟨p, ls', rfl, hp, -⟩ := List.map_eq_cons_iff.mp hls
    have hfirst : peekSymbol "(" (p :: ls' ++ rest) = .ok (false, p :: ls' ++ rest) := by
      refine run_peekSymbol ?_
      simp [hp]
    have hpoint : peekSymbol "." (p :: ls' ++ rest) = .ok (true, p :: ls' ++ rest) :=
      run_peekSymbol_of hp
    have hpath : pathRest ((p :: ls' ++ rest).length + 1) (p :: ls' ++ rest) =
        .ok (j :: parts, rest) :=
      pathRest_path hls (by simp) (hrest.ne_symbol _ (by decide))
    simp only [ordinaryWord, run_bind, hfirst, hpoint, ok_bind, Bool.or_true, if_true, run_get,
      hpath, hopen, Bool.false_eq_true, if_false, run_pure]
    rfl

theorem isPathEnd_pathMore : ∀ parts : List Ident, isPathEnd (pathMore parts)
  | [] => rfl
  | _ :: parts => by
    show (true && isPathEnd (pathMore parts)) = true
    rw [isPathEnd_pathMore parts]
    rfl

theorem bracket_pathMore (parts : List Ident) : .symbol "[" ∉ pathMore parts := by
  intro h
  obtain ⟨i, -, hmem⟩ := List.mem_flatMap.mp h
  simp at hmem

theorem opening_path {parts : List Ident} (h : isShy (.word i) = false) :
    Opening (.word i :: pathMore parts) where
  nonempty := List.cons_ne_nil _ _
  shy := by
    intro t ht
    cases parts with
    | nil =>
      obtain rfl : t = .word i := by simpa [pathMore] using ht
      exact h
    | cons j parts =>
      rcases (by simpa [pathMore] using ht : t = .word i ∨ t = .symbol ".") with rfl | rfl
      · exact h
      · rfl
  mark _ := by simp
  path _ _ _ := isPathEnd_pathMore parts
  bracket := by
    rw [List.mem_cons, not_or]
    exact ⟨nofun, bracket_pathMore parts⟩
  closed := by simp
  nulls := by
    cases parts with
    | nil => rfl
    | cons j parts => exact Bool.and_false _

/-- A name or a path is read as such unless its first word begins a form of its own. -/
theorem beginning_path {parts : List Ident} (htoken : l.token = .word i)
    (h : l.token.keyword ∉ formWords) {ls : List Lexeme}
    (hls : ls.map (·.token) = pathMore parts) (hrest : Stops rest) :
    beginning r (l :: (ls ++ rest)) = .ok (pathExpr i parts, rest) := by
  have hne (words : List String) (hwords : ∀ word ∈ words, word ∈ formWords) :
      l.token.keyword ∉ words := fun hmem => h (hwords _ hmem)
  have hreserved := hne reservedForIdentifier (by decide)
  have hbegins := hne typeBeginners (by decide)
  have hunopened : Unopened (ls ++ rest) := by
    cases parts with
    | nil =>
      obtain rfl := List.map_eq_nil_iff.mp hls
      exact hrest.unopened
    | cons j parts =>
      obtain ⟨p, ls', rfl, hp, -⟩ := List.map_eq_cons_iff.mp hls
      exact unopened_point hp
  refine beginning_word htoken (fun inner => typedString_path htoken hbegins hls hrest)
    (fun inner => wordForm_ordinary ?_ (ordinaryWord_path hls hrest)) hrest
  exact (specialForm_unopened h hunopened).imp_right fun herror => ⟨herror, hreserved⟩

theorem isShy_word (h : Token.keyword (.word i) ∉ shyWords) : isShy (.word i) = false := by
  simpa [isShy] using h

/-- A name, or a path of names, whose first word is not taken. -/
theorem begins_path {parts : List Ident} (h : Token.keyword (.word i) ∉ takenWords) :
    Begins (pathTokens (i :: parts)) (.identifier (i :: parts)) edge := by
  simp only [takenWords, List.mem_append, not_or] at h
  refine ⟨opening_path (isShy_word h.2), fun budget _ ls hls => ?_⟩
  obtain ⟨⟨_, start⟩, ls, rfl, rfl, hmore⟩ := List.map_eq_cons_iff.mp hls
  refine ⟨pathExpr i parts, ⟨fun source => ?_, ?_⟩, fun rest hrest =>
    beginning_path rfl h.1.1 hmore hrest.stops⟩
  · cases parts with
    | nil =>
      have hbare : ¬(i.quote.isNone ∧ bareWords.contains (Text.upper i.value)) := by
        rintro ⟨hquote, hmem⟩
        obtain ⟨value, quote⟩ := i
        obtain rfl : quote = none := by simpa using hquote
        have hmem : Text.upper value ∈ bareWords := by simpa using hmem
        exact h.1.2 hmem
      show Except.ok (nameTree i) = _
      rw [nameTree, if_neg hbare]
    | cons j parts => rfl
  · intro i' hi'
    cases parts with
    | nil =>
      cases hi'
      rfl
    | cons j parts => cases hi'

/-! ## Bare words -/

/-- The tree of a call that fits the catalog. -/
theorem callTree_eq {source keyword : String} {c : CallClauses} {quantifier : Option SetQuantifier}
    {parenthesized : Bool} {args : List Tree} {entry : CatalogEntry}
    (h : resolve keyword ⟨args.length, (familyOf? keyword).bind (·.alternativeOf? keyword),
      quantifier, false, false⟩ = .ok entry) :
    callTree source c keyword quantifier parenthesized args =
      .ok (.call ⟨keyword, (familyOf? keyword).bind (·.alternativeOf? keyword), quantifier,
        parenthesized⟩ args) := by
  unfold callTree
  simp only [checkCall, h]
  rfl

theorem timeCall_stops {clauses : CallClauses} (h : Stops rest) :
    timeCall r clauses rest = .ok (.bareCall clauses, rest) := by
  simp only [timeCall, run_bind, run_symbol? (h.ne_symbol "(" (by decide)), ok_bind,
    run_ite, Bool.false_eq_true, if_false, run_pure]

/-- A word that calls a function without parentheses. -/
theorem begins_bareWord (h : word ∈ bareWords) :
    Begins [plainWord word] (.call ⟨word, none, none, false⟩ []) edge := by
  have hresolve : ∀ word ∈ bareWords, (resolve word (.ofCount 0)).isOk ∧
      (familyOf? word).bind (·.alternativeOf? word) = none := by
    decide +kernel
  obtain ⟨hok, hnone⟩ := hresolve word h
  obtain ⟨entry, hentry⟩ := exists_of_isOk hok
  have htree (start : Location) (source : String) :
      (Expr.bareCall { name := [⟨word, none⟩], start := start }).toTree source =
        .ok (.call ⟨word, none, none, false⟩ []) := by
    have hcall : callTree source { name := [⟨word, none⟩], start := start } word none false [] =
        .ok (.call ⟨word, (familyOf? word).bind (·.alternativeOf? word), none, false⟩ []) :=
      callTree_eq (by rw [hnone]; exact hentry)
    rw [hnone] at hcall
    exact hcall
  have hname (start : Location) (i : Ident) :
      Expr.bareCall { name := [⟨word, none⟩], start := start } ≠ .name i := nofun
  simp only [bareWords, List.mem_cons, List.not_mem_nil, or_false] at h
  rcases h with rfl | rfl | rfl | rfl | rfl | rfl | rfl | rfl | rfl
  iterate 5
    exact begins_special (by decide) (by decide) (fun _ _ _ _ hrest =>
      (run_map ..).trans (congrArg (Except.map _) (timeCall_stops hrest))) htree hname
  iterate 3
    exact begins_special (by decide) (by decide) (fun _ _ _ _ _ => rfl) htree hname
  · refine ⟨opening_single (by decide) (by simp [plainWord]), fun budget _ ls hls => ?_⟩
    obtain ⟨⟨_, start⟩, rfl, rfl⟩ := List.map_eq_singleton_iff.mp hls
    refine ⟨.name ⟨"CURRENT_SCHEMA", none⟩, ⟨fun source => ?_, ?_⟩, fun rest hrest => ?_⟩
    · have htree : nameTree ⟨"CURRENT_SCHEMA", none⟩ =
          .call ⟨"CURRENT_SCHEMA", none, none, false⟩ [] := rfl
      exact congrArg Except.ok htree
    · rintro i ⟨⟩
      rfl
    · have hword : (plainWord "CURRENT_SCHEMA").keyword ∉ formWords := by decide
      have hmore : ([] : List Lexeme).map (·.token) = pathMore [] := rfl
      exact beginning_path rfl hword hmore hrest.stops

/-! ## Parentheses and operators in front -/

theorem separated_one {α : Type} {x : Reader α} {a : α} {tokens : List Lexeme}
    (h : x tokens = .ok (a, rest)) (hcomma : rest.head?.map (·.token) ≠ some (.symbol ",")) :
    separated x tokens = .ok ([a], rest) := by
  simp only [separated, run_bind, run_get, ok_bind, separatedFrom, h, run_symbol? hcomma, run_ite,
    Bool.false_eq_true, if_false, run_pure]

theorem Opening.head_ne_point (h : Opening tokens) : tokens.head? ≠ some (.symbol ".") := by
  intro hhead
  exact absurd (h.mark "." hhead) (by decide)

/-- A phrase behind a word or a mark that is itself not shy. -/
theorem Opening.cons (h : Opening tokens) {first : Token} (hshy : isShy first = false)
    (hnulls : ["ABSENT", "NULL"].contains first.keyword = false)
    (hmark : ∀ s, first = .symbol s → s ∈ ["+", "-"]) : Opening (first :: tokens) where
  nonempty := List.cons_ne_nil _ _
  shy := by
    obtain ⟨t, ts, rfl⟩ := List.exists_cons_of_ne_nil h.nonempty
    have ht := h.shy t (by simp)
    intro t' ht'
    rcases (by simpa using ht' : t' = first ∨ t' = t) with rfl | rfl
    · exact hshy
    · exact ht
  mark spelling hs := by
    have hall : ∀ s ∈ ["+", "-"], s ∈ ["(", "+", "-"] := by decide
    exact hall _ (hmark _ (Option.some.inj hs))
  path _ _ _ := isPathEnd_of_head h.head_ne_point
  bracket := by
    rw [List.mem_cons, not_or]
    refine ⟨?_, h.bracket⟩
    rintro rfl
    exact absurd (hmark "[" rfl) (by decide)
  closed hs := by
    obtain rfl := Option.some.inj hs
    exact absurd (hmark "(" rfl) (by decide)
  nulls := by
    obtain ⟨t, ts, rfl⟩ := List.exists_cons_of_ne_nil h.nonempty
    show (["ABSENT", "NULL"].contains first.keyword && _) = false
    rw [hnulls, Bool.false_and]

/-- A phrase in parentheses. -/
theorem Phrase.nested (h : Phrase tokens x bind edge) (hbind : 0 < bind) {edge' : Nat} :
    Begins (.symbol "(" :: (tokens ++ [.symbol ")"])) (.nested x) edge' := by
  have hopening : Opening (.symbol "(" :: (tokens ++ [.symbol ")"])) := by
    refine ⟨List.cons_ne_nil _ _, ?_, ?_, fun _ ht hname => ?_, ?_, fun _ => by simp, ?_⟩
    · obtain ⟨t, ts, htokens⟩ := List.exists_cons_of_ne_nil h.opening.nonempty
      have ht := h.opening.shy t (by simp [htokens])
      intro t' ht'
      rcases (by simpa [htokens] using ht' : t' = .symbol "(" ∨ t' = t) with rfl | rfl
      · rfl
      · exact ht
    · intro spelling hs
      obtain rfl := Token.symbol.inj (Option.some.inj hs)
      exact List.mem_cons_self
    · cases ht
      cases hname
    · simpa using h.opening.bracket
    · obtain ⟨t, ts, htokens⟩ := List.exists_cons_of_ne_nil h.opening.nonempty
      rw [htokens]
      rfl
  refine ⟨hopening, fun budget hheight ls hls => ?_⟩
  obtain ⟨l, ls, rfl, hl, hmore⟩ := List.map_eq_cons_iff.mp hls
  obtain ⟨lx, lc, rfl, hx, hlc⟩ := List.map_eq_append_iff.mp hmore
  obtain ⟨c, rfl, hc⟩ := List.map_eq_singleton_iff.mp hlc
  have hxheight := Tree.height_le_iff.mp hheight x (by simp)
  obtain ⟨e, he, hread⟩ := h.whole hbind hxheight hx
  refine ⟨.nested e, ⟨fun source => ?_, nofun⟩, fun rest hrest => ?_⟩
  · simp only [Expr.toTree, he.tree source]
    rfl
  · rw [List.cons_append, List.append_assoc, List.singleton_append]
    refine beginning_wordless (by simp [hl]) (fun inner => ?_) hrest.stops
    have hquery : ["SELECT", "WITH"].contains (headKey (lx ++ c :: rest)) = false := by
      have hall : ∀ word ∈ ["SELECT", "WITH"], word ∈ shyWords := by decide
      rw [Bool.eq_false_iff]
      intro hmem
      exact h.opening.headKey_ne hx (hall _ (by simpa using hmem)) rfl
    have hitems : separated (rules budget).whole (lx ++ c :: rest) = .ok ([e], c :: rest) :=
      separated_one (hread _ (behind_closing (by decide) hc)) (by simp [hc])
    have hparens : parenthesized (rules budget) (lx ++ c :: rest) = .ok (.nested e, rest) := by
      simp only [parenthesized, run_bind, run_keywordAt, ok_bind, hquery, run_ite,
        Bool.false_eq_true, if_false, hitems, run_pure, run_expectSymbol hc,
        run_symbol? (hrest.stops.ne_symbol "." (by decide))]
    simp only [wordless, run_bind, run_peek, List.head?_cons, Option.map_some, hl, ok_bind,
      run_skip, List.drop_succ_cons, List.drop_zero, hparens]

theorem wordless_sign {sign : String} (hsign : sign ∈ ["+", "-"]) (h : l.token = .symbol sign) :
    wordless r inner (l :: more) = (r.expr Strength.product more).bind fun p =>
      .ok (.unary sign p.1, p.2) := by
  obtain ⟨token, start⟩ := l
  obtain rfl : token = .symbol sign := h
  rcases List.mem_pair.mp hsign with rfl | rfl <;> rfl

/-- A phrase behind a sign. -/
theorem Phrase.sign {op : Operator} (hop : op = .negate ∨ op = .identity)
    (h : Phrase tokens x bind edge) (hbind : op.level < bind) (hedge : op.level ≤ edge) :
    Begins (.symbol op.text :: tokens) (.unary op x) op.level := by
  have hmark : op.text ∈ ["+", "-"] ∧ isShy (.symbol op.text) = false ∧
      op.level = Strength.product := by
    rcases hop with rfl | rfl <;> decide
  refine ⟨h.opening.cons hmark.2.1 rfl fun s hs => Token.symbol.inj hs ▸ hmark.1,
    fun budget hheight ls hls => ?_⟩
  obtain ⟨l, lx, rfl, hl, hx⟩ := List.map_eq_cons_iff.mp hls
  have hxheight := Tree.height_le_iff.mp hheight x (by simp)
  obtain ⟨e, he, hread⟩ := h.alone hbind hedge hxheight hx
  refine ⟨.unary op.text e, ⟨fun source => ?_, nofun⟩, fun rest hrest => ?_⟩
  · have hunary : unaryOperator op.text = .ok op := by
      rcases hop with rfl | rfl <;> rfl
    simp only [Expr.toTree, hunary, he.tree source]
    rfl
  · rw [List.cons_append]
    refine beginning_wordless (by simp [hl]) (fun inner => ?_) hrest.stops
    have hexpr := hread rest hrest
    rw [hmark.2.2] at hexpr
    rw [wordless_sign hmark.1 hl, hexpr, ok_bind]

/-- A phrase behind `NOT`. -/
theorem Phrase.not (h : Phrase tokens x bind edge) (hbind : Operator.not.level < bind)
    (hedge : Operator.not.level ≤ edge) :
    Begins (plainWord "NOT" :: tokens) (.unary .not x) Operator.not.level := by
  refine ⟨h.opening.cons (by decide) (by decide) (by simp [plainWord]), fun budget hheight ls hls => ?_⟩
  obtain ⟨⟨_, start⟩, lx, rfl, rfl, hx⟩ := List.map_eq_cons_iff.mp hls
  replace hx : lx.map (·.token) = tokens := hx
  have hxheight := Tree.height_le_iff.mp hheight x (by simp)
  obtain ⟨e, he, hread⟩ := h.alone hbind hedge hxheight hx
  refine ⟨.unary "NOT" e, ⟨fun source => ?_, nofun⟩, fun rest hrest => ?_⟩
  · simp only [Expr.toTree, he.tree source]
    rfl
  · rw [List.cons_append]
    refine beginning_word rfl (fun inner => ?_) (fun inner => wordForm_special ?_) hrest.stops
    · have hne : lx ≠ [] := by
        rintro rfl
        exact h.opening.nonempty hx.symm
      have hword : (plainWord "NOT").keyword ∉ "ANY" :: typeWords := by decide
      refine typedString_open (i := ⟨"NOT", none⟩) rfl hword hne (hx ▸ h.opening.head_ne_point)
        (hx ▸ h.opening.bracket) (hx ▸ h.opening.closed) (hrest.stops.ne_symbol _ (by decide))
    · have hexists : keyword? "EXISTS" (lx ++ rest) = .ok (false, lx ++ rest) :=
        run_keyword? (h.opening.headKey_ne hx (by decide))
      show (Reader.keyword? "EXISTS" >>= fun _ => _) _ = _
      have hexpr : (rules budget).expr Strength.not (lx ++ rest) = .ok (e, rest) := hread rest hrest
      simp only [run_bind, hexists, ok_bind, Bool.false_eq_true, if_false, hexpr, run_pure]

end SqlNormal.Sql.Reader
