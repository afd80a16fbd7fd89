import SqlNormal.Proofs.Operands

/-!
# Calls

A call is a word and phrases in parentheses, with commas between them. The readers take it for a
call if the word has no form of its own and no clause follows.

* `listed`, `Listed`: phrases with commas between them;
* `argument_phrase`, `separated_listed`, `argumentList_listed`: arguments;
* `callOf_listed`: the call behind its name;
* `begins_call`, `begins_timeCall`, `begins_star`: calls.
-/

namespace SqlNormal.Sql.Reader

variable {r : Rules} {inner : Reader Expr} {word : String} {i : Ident} {l : Lexeme}
  {more rest : List Lexeme} {t : Tree} {tokens : List Token} {bind edge budget : Nat}

/-! ## Arguments -/

/-- The keyword of the token behind the next one. -/
def secondKey (s : List Lexeme) : String :=
  ((s[1]?).map fun l => l.token.keyword).getD ""

theorem run_keywords?_second {word' : String} {words : List String}
    (h : secondKey rest ≠ word') : keywords? (word :: word' :: words) rest = .ok (false, rest) := by
  have hne : ((rest.take (word :: word' :: words).length).map (fun l => l.token.keyword) ==
      word :: word' :: words) = false := by
    rw [beq_eq_false_iff_ne]
    match rest, h with
    | [], _ => simp
    | [_], _ => simp
    | _ :: _ :: _, h =>
      intro heq
      exact h (List.cons.inj (List.cons.inj heq).2).1
  simp only [keywords?, run_bind, run_get, ok_bind, hne, run_ite, Bool.false_eq_true, if_false,
    run_pure]

/-- What stands second in a phrase, or behind it, is nothing that a reader of arguments asks for. -/
theorem Opening.second (h : Opening tokens) {l : Lexeme} {ls : List Lexeme}
    (hls : (l :: ls).map (·.token) = tokens) (hrest : Stops rest) :
    headKey (ls ++ rest) ≠ "VALUE" ∧
      ∀ s ∈ ["=>", ":="], (ls ++ rest).head?.map (·.token) ≠ some (.symbol s) := by
  cases ls with
  | nil =>
    have hmarks : ∀ s ∈ ["=>", ":="], s ∉ followMarks := by decide
    exact ⟨hrest.headKey_ne "VALUE" (by decide), fun s hs => hrest.ne_symbol _ (hmarks s hs)⟩
  | cons l' ls =>
    have hshy := h.shy l'.token (by simp [← hls])
    have hkey : headKey (l' :: ls ++ rest) = l'.token.keyword := rfl
    rw [hkey, List.cons_append, List.head?_cons, Option.map_some]
    unfold isShy at hshy
    split at hshy
    · rename_i heq
      rw [heq]
      have hempty : "" ≠ "VALUE" := by decide
      refine ⟨hempty, fun s hs hsymbol => ?_⟩
      have hall : ∀ s ∈ ["=>", ":="], ["=>", ":=", ")"].contains s := by decide
      rw [Token.symbol.inj (Option.some.inj hsymbol), hall s hs] at hshy
      cases hshy
    · rename_i hother
      refine ⟨fun hvalue => ?_, fun s hs hsymbol => hother s (Option.some.inj hsymbol)⟩
      rw [hvalue] at hshy
      exact absurd hshy (by decide)

theorem namedArgument_phrase (h : Opening tokens) {ls : List Lexeme}
    (hls : ls.map (·.token) = tokens) (hrest : Stops rest) :
    namedArgument r (ls ++ rest) = .error .unreadable := by
  obtain ⟨t, ts, rfl⟩ := List.exists_cons_of_ne_nil h.nonempty
  obtain ⟨l, ls, rfl, -, -⟩ := List.map_eq_cons_iff.mp hls
  obtain ⟨hvalue, hmark⟩ := h.second hls hrest
  rw [List.cons_append, namedArgument, run_bind, ident, run_bind, run_next, ok_bind]
  cases hname : identOf? l.token with
  | none => rfl
  | some i =>
    simp only [run_pure, ok_bind, run_bind, namedOperator, run_keyword? hvalue,
      run_symbol? (hmark "=>" (by decide)), run_symbol? (hmark ":=" (by decide)), run_ite,
      Bool.false_eq_true, if_false]
    rfl

/-- Names with points between are not the columns of a table if no star ends them. -/
theorem tableStarFrom_pathEnd {ls : List Lexeme} (h : isPathEnd (ls.map (·.token)))
    (hrest : Stops rest) {fuel : Nat} (hfuel : ls.length < fuel) :
    ∃ left, tableStarFrom fuel (ls ++ rest) = .ok (none, left) := by
  induction fuel generalizing ls with
  | zero => exact absurd hfuel (Nat.not_lt_zero _)
  | succ fuel ih =>
    have hother {tokens : List Lexeme}
        (hpoint : tokens.head?.map (·.token) ≠ some (.symbol ".")) :
        ∃ left, tableStarFrom (fuel + 1) tokens = .ok (none, left) :=
      ⟨tokens, by
        simp only [tableStarFrom, run_bind, run_symbol? hpoint, ok_bind, run_ite,
          Bool.false_eq_true, if_false, run_pure]⟩
    rcases ls with _ | ⟨p, _ | ⟨n, ls⟩⟩
    · exact hother (hrest.ne_symbol _ (by decide))
    · refine hother ?_
      rintro hpoint
      have hp : p.token = .symbol "." := by simpa using hpoint
      rw [List.map_singleton, hp] at h
      cases h
    · by_cases hp : p.token = .symbol "."
      · rw [List.map_cons, List.map_cons, hp, isPathEnd, Bool.and_eq_true] at h
        obtain ⟨i, hi⟩ := Option.isSome_iff_exists.mp h.1
        simp only [List.length_cons] at hfuel
        obtain ⟨left, hleft⟩ := ih h.2 (by omega)
        have hstar : symbol? "*" (n :: ls ++ rest) = .ok (false, n :: ls ++ rest) := by
          refine run_symbol? ?_
          rw [List.cons_append, List.head?_cons, Option.map_some, ne_eq, Option.some.injEq]
          rintro hn
          rw [hn] at hi
          cases hi
        have hident : ident (n :: ls ++ rest) = .ok (i, ls ++ rest) := by
          rw [List.cons_append]
          simp only [ident, run_bind, run_next, ok_bind, hi, run_pure]
        have hpoint : symbol? "." (p :: n :: ls ++ rest) = .ok (true, n :: ls ++ rest) :=
          run_symbol?_of hp
        refine ⟨left, ?_⟩
        simp only [tableStarFrom, run_bind, hpoint, ok_bind, run_ite, if_true, hstar,
          Bool.false_eq_true, if_false, hident, hleft, run_pure, Option.map_none]
      · exact hother (by simpa using hp)

/-- A phrase is no star. -/
theorem starOrExpr_phrase {whole : Reader Expr} (h : Opening tokens) {ls : List Lexeme}
    (hls : ls.map (·.token) = tokens) (hrest : Stops rest) {e : Expr}
    (hread : whole (ls ++ rest) = .ok (e, rest)) :
    starOrExpr whole (ls ++ rest) = .ok (.expr e, rest) := by
  obtain ⟨t, ts, rfl⟩ := List.exists_cons_of_ne_nil h.nonempty
  obtain ⟨l, ls, rfl, rfl, hts⟩ := List.map_eq_cons_iff.mp hls
  have hstar : symbol? "*" (l :: ls ++ rest) = .ok (false, l :: ls ++ rest) := by
    refine run_symbol? ?_
    intro hsymbol
    exact absurd (h.mark "*" hsymbol) (by decide)
  simp only [starOrExpr, run_bind, run_get, ok_bind, hstar, run_ite, Bool.false_eq_true, if_false]
  rw [List.cons_append] at hread ⊢
  cases hname : identOf? l.token with
  | none => simp only [hname, run_bind, hread, ok_bind, run_pure]
  | some i =>
    have hpath := h.path l.token rfl (by rw [hname]; rfl)
    rw [List.tail_cons, ← hts] at hpath
    have hlength : ls.length < (ls ++ rest).length + 1 := by simp
    obtain ⟨left, hleft⟩ := tableStarFrom_pathEnd hpath hrest hlength
    simp only [hname, run_bind, run_set, ok_bind, hleft, hread, run_pure]

/-- A phrase as an argument. -/
theorem argument_phrase (h : Opening tokens) {ls : List Lexeme}
    (hls : ls.map (·.token) = tokens) (hrest : Stops rest) {e : Expr}
    (hread : r.whole (ls ++ rest) = .ok (e, rest)) :
    argument r (ls ++ rest) = .ok (.expr e, rest) := by
  simp only [argument, run_bind, attempt, namedArgument_phrase h hls hrest, ok_bind,
    starOrExpr_phrase h hls hrest hread, run_pure]

/-- Nothing is said about nulls in front of a phrase. -/
theorem nullClause?_phrase (h : Opening tokens) {ls : List Lexeme}
    (hls : ls.map (·.token) = tokens) (hrest : Stops rest) :
    nullClause? (ls ++ rest) = .ok (none, ls ++ rest) := by
  obtain ⟨t, ts, rfl⟩ := List.exists_cons_of_ne_nil h.nonempty
  obtain ⟨l, ls, rfl, rfl, rfl⟩ := List.map_eq_cons_iff.mp hls
  have hnone (word : String) (hword : word ∈ ["ABSENT", "NULL"]) :
      keywords? [word, "ON", "NULL"] (l :: ls ++ rest) = .ok (false, l :: ls ++ rest) := by
    by_cases hfirst : l.token.keyword = word
    · refine run_keywords?_second ?_
      cases ls with
      | nil => exact hrest.headKey_ne "ON" (by decide)
      | cons l' ls =>
        have hnulls := h.nulls
        rw [List.map_cons, saysNulls, hfirst, List.contains_iff_mem.mpr hword] at hnulls
        have hon : l'.token.keyword ≠ "ON" := by simpa using hnulls
        exact hon
    · exact run_keywords? hfirst
  simp only [nullClause?, run_bind, hnone "ABSENT" (by decide), hnone "NULL" (by decide),
    ok_bind, run_ite, Bool.false_eq_true, if_false, run_pure]

/-- Phrases with commas between. -/
def listed (tss : List (List Token)) : List Token :=
  [Token.symbol ","].intercalate tss

@[simp] theorem listed_nil : listed [] = [] :=
  rfl

@[simp] theorem listed_one (ts : List Token) : listed [ts] = ts := by
  simp [listed]

@[simp] theorem listed_cons (ts ts' : List Token) (tss : List (List Token)) :
    listed (ts :: ts' :: tss) = ts ++ .symbol "," :: listed (ts' :: tss) := by
  simp [listed]

/-- The tokens are read as an expression with the tree wherever a whole expression may stand. -/
abbrev Whole (tokens : List Token) (t : Tree) : Prop :=
  Phrase tokens t 1 0

theorem Phrase.toWhole (h : Phrase tokens t bind edge) (hbind : 0 < bind) : Whole tokens t := by
  refine ⟨h.opening, fun budget hheight ls hls => ?_⟩
  obtain ⟨e, he, hread⟩ := h.read budget hheight ls hls
  exact ⟨e, he, fun level rest hlevel hrest =>
    hread level rest (by omega) (hrest.mono (Nat.zero_le _))⟩

/-- The expressions have the trees, whatever text they come from. -/
def DenoteAll (es : List Expr) (ts : List Tree) : Prop :=
  List.Forall₂ (fun e t => ∀ source, e.toTree source = .ok t) es ts

/-- Phrases with commas between them are read as that many arguments. -/
theorem separatedFrom_listed {tss : List (List Token)} {ts : List Tree} {tokens' : List Token}
    {t' : Tree} (h : List.Forall₂ Whole tss ts) (h' : Whole tokens' t')
    (hheight : ∀ t ∈ t' :: ts, t.height ≤ budget) {ls : List Lexeme}
    (hls : ls.map (·.token) = listed (tokens' :: tss)) :
    ∃ es, DenoteAll es (t' :: ts) ∧ ∀ c rest fuel, c.token = .symbol ")" → ls.length < fuel →
      separatedFrom (argument (rules budget)) fuel (ls ++ c :: rest) =
        .ok (es.map .expr, c :: rest) := by
  obtain ⟨hheight', hheights⟩ := List.forall_mem_cons.mp hheight
  induction h generalizing tokens' t' ls with
  | nil =>
    rw [listed_one] at hls
    obtain ⟨e, he, hread⟩ := h'.whole Nat.one_pos hheight' hls
    refine ⟨[e], .cons he.tree .nil, fun c rest fuel hc hfuel => ?_⟩
    obtain ⟨fuel, rfl⟩ : ∃ n, fuel = n + 1 := ⟨fuel - 1, by omega⟩
    have hbehind : Behind 0 (c :: rest) := behind_closing (by decide) hc
    have harg := argument_phrase h'.opening hls hbehind.stops (hread _ hbehind)
    have hcomma : symbol? "," (c :: rest) = .ok (false, c :: rest) := run_symbol? (by simp [hc])
    simp only [separatedFrom, run_bind, harg, ok_bind, hcomma, run_ite, Bool.false_eq_true,
      if_false, run_pure, List.map_cons, List.map_nil]
  | @cons tokens'' t'' tss ts h'' _ ih =>
    rw [listed_cons] at hls
    obtain ⟨lx, lmore, rfl, hx, hmore⟩ := List.map_eq_append_iff.mp hls
    obtain ⟨comma, ly, rfl, hcomma, hy⟩ := List.map_eq_cons_iff.mp hmore
    obtain ⟨e, he, hread⟩ := h'.whole Nat.one_pos hheight' hx
    obtain ⟨hheight'', hheights⟩ := List.forall_mem_cons.mp hheights
    obtain ⟨es, hes, hreads⟩ := ih h'' (List.forall_mem_cons.mpr ⟨hheight'', hheights⟩) hy
      hheight'' hheights
    refine ⟨e :: es, .cons he.tree hes, fun c rest fuel hc hfuel => ?_⟩
    rw [List.length_append, List.length_cons] at hfuel
    obtain ⟨fuel, rfl⟩ : ∃ n, fuel = n + 1 := ⟨fuel - 1, by omega⟩
    have hbehind : Behind 0 (comma :: (ly ++ c :: rest)) := behind_closing (by decide) hcomma
    have harg := argument_phrase h'.opening hx hbehind.stops (hread _ hbehind)
    rw [List.append_assoc, List.cons_append]
    simp only [separatedFrom, run_bind, harg, ok_bind, run_symbol?_of hcomma, run_ite, if_true,
      hreads c rest fuel hc (by omega), run_pure, List.map_cons]

/-- The word in front of arguments. -/
def quantifierTokens (q : Option SetQuantifier) : List Token :=
  q.toList.map fun q => plainWord q.text

/-- The word in front of arguments is taken, and no other. -/
theorem quantifier?_tokens {q : Option SetQuantifier} (h : Opening tokens) {lq ls : List Lexeme}
    (hq : lq.map (·.token) = quantifierTokens q) (hls : ls.map (·.token) = tokens) :
    quantifier? (lq ++ (ls ++ rest)) = .ok (q, ls ++ rest) := by
  have hall : keyword? "ALL" (ls ++ rest) = .ok (false, ls ++ rest) :=
    run_keyword? (h.headKey_ne hls (by decide))
  have hdistinct : keyword? "DISTINCT" (ls ++ rest) = .ok (false, ls ++ rest) :=
    run_keyword? (h.headKey_ne hls (by decide))
  cases q with
  | none =>
    obtain rfl := List.map_eq_nil_iff.mp hq
    simp only [List.nil_append, quantifier?, run_bind, hall, hdistinct, ok_bind, run_ite,
      Bool.false_eq_true, if_false, run_pure]
  | some q =>
    obtain ⟨l, rfl, hl⟩ := List.map_eq_singleton_iff.mp hq
    have hkey : l.token.keyword = q.text := by
      rw [hl]
      cases q <;> rfl
    rw [List.singleton_append]
    cases q with
    | distinct =>
      have hne : headKey (l :: (ls ++ rest)) ≠ "ALL" := by
        show l.token.keyword ≠ "ALL"
        rw [hkey]
        decide
      have htaken : keyword? "DISTINCT" (l :: (ls ++ rest)) = .ok (true, ls ++ rest) :=
        run_keyword?_of hkey
      simp only [quantifier?, run_bind, run_keyword? hne, htaken, ok_bind, run_ite,
        Bool.false_eq_true, if_false, if_true, run_pure]
    | all =>
      have htaken : keyword? "ALL" (l :: (ls ++ rest)) = .ok (true, ls ++ rest) :=
        run_keyword?_of hkey
      simp only [quantifier?, run_bind, htaken, hdistinct, ok_bind, run_ite, Bool.false_eq_true,
        if_false, if_true, run_pure]

/-- What stands between the parentheses of a call. -/
def argumentTokens (q : Option SetQuantifier) (tss : List (List Token)) : List Token :=
  quantifierTokens q ++ listed tss

theorem headKey_ne_of_symbol {c : Lexeme} {spelling : String} (hc : c.token = .symbol spelling)
    {word : String} (hword : word ≠ "") : headKey (c :: rest) ≠ word := by
  have hkey : headKey (c :: rest) = c.token.keyword := rfl
  rw [hkey, hc]
  exact hword.symm

/-- Nothing is said about nulls in front of a closing parenthesis. -/
theorem nullClause?_closing {c : Lexeme} (hc : c.token = .symbol ")") :
    nullClause? (c :: rest) = .ok (none, c :: rest) := by
  simp only [nullClause?, run_bind,
    run_keywords? (headKey_ne_of_symbol hc (by decide : "ABSENT" ≠ "")),
    run_keywords? (headKey_ne_of_symbol hc (by decide : "NULL" ≠ "")), ok_bind, run_ite,
    Bool.false_eq_true, if_false, run_pure]

/-- Phrases with commas between them are read as the arguments of a call. -/
theorem argumentList_listed {q : Option SetQuantifier} {tss : List (List Token)} {ts : List Tree}
    (h : List.Forall₂ Whole tss ts) (hq : q.isSome → ts ≠ [])
    (hheight : ∀ t ∈ ts, t.height ≤ budget) {ls : List Lexeme}
    (hls : ls.map (·.token) = argumentTokens q tss) :
    ∃ es, DenoteAll es ts ∧ ∀ c rest, c.token = .symbol ")" →
      argumentList (rules budget) (ls ++ c :: rest) =
        .ok (⟨q, es.map .expr, [], false⟩, rest) := by
  cases h with
  | nil =>
    obtain rfl : q = none := by simpa using hq
    obtain rfl := List.map_eq_nil_iff.mp hls
    refine ⟨[], .nil, fun c rest hc => ?_⟩
    simp only [List.nil_append, argumentList, run_bind, nullClause?_closing hc, run_symbol?_of hc,
      ok_bind, run_ite, if_true, run_pure, List.map_nil, Option.toList_none]
  | @cons tokens' t' tss ts h' h =>
    obtain ⟨lq, lx, rfl, hlq, hlx⟩ := List.map_eq_append_iff.mp hls
    obtain ⟨es, hes, hread⟩ := separatedFrom_listed h h' hheight hlx
    refine ⟨es, hes, fun c rest hc => ?_⟩
    have hfirst : ∃ lt lmore, lx = lt ++ lmore ∧ lt.map (·.token) = tokens' ∧
        Stops (lmore ++ c :: rest) := by
      cases h with
      | nil =>
        refine ⟨lx, [], by simp, by simpa using hlx, ?_⟩
        exact stops_cons (by rw [hc]; rfl)
      | cons _ _ =>
        rw [listed_cons] at hlx
        obtain ⟨lt, lmore, rfl, hlt, hlmore⟩ := List.map_eq_append_iff.mp hlx
        obtain ⟨comma, ly, rfl, hcomma, -⟩ := List.map_eq_cons_iff.mp hlmore
        exact ⟨lt, _, rfl, hlt, stops_cons (by rw [hcomma]; rfl)⟩
    obtain ⟨lt, lmore, rfl, hlt, hstops⟩ := hfirst
    have hnull : nullClause? (lq ++ (lt ++ (lmore ++ c :: rest))) =
        .ok (none, lq ++ (lt ++ (lmore ++ c :: rest))) := by
      cases q with
      | none =>
        obtain rfl := List.map_eq_nil_iff.mp hlq
        rw [List.nil_append]
        exact nullClause?_phrase h'.opening hlt hstops
      | some q =>
        obtain ⟨l, rfl, hl⟩ := List.map_eq_singleton_iff.mp hlq
        have hne (word : String) (hword : word ∈ ["ABSENT", "NULL"]) :
            headKey ([l] ++ (lt ++ (lmore ++ c :: rest))) ≠ word := by
          show l.token.keyword ≠ word
          rw [hl]
          rcases List.mem_pair.mp hword with rfl | rfl <;> cases q <;> decide
        simp only [nullClause?, run_bind, run_keywords? (hne "ABSENT" (by decide)),
          run_keywords? (hne "NULL" (by decide)), ok_bind, run_ite, Bool.false_eq_true, if_false,
          run_pure]
    have hopen : symbol? ")" (lq ++ (lt ++ (lmore ++ c :: rest))) =
        .ok (false, lq ++ (lt ++ (lmore ++ c :: rest))) := by
      refine run_symbol? ?_
      cases q with
      | none =>
        obtain rfl := List.map_eq_nil_iff.mp hlq
        obtain ⟨t, more, rfl⟩ := List.exists_cons_of_ne_nil h'.opening.nonempty
        obtain ⟨l, lt, rfl, rfl, -⟩ := List.map_eq_cons_iff.mp hlt
        intro hsymbol
        exact absurd (h'.opening.mark ")" hsymbol) (by decide)
      | some q =>
        obtain ⟨l, rfl, hl⟩ := List.map_eq_singleton_iff.mp hlq
        simp [hl, plainWord]
    have hquantifier : quantifier? (lq ++ (lt ++ (lmore ++ c :: rest))) =
        .ok (q, lt ++ (lmore ++ c :: rest)) :=
      quantifier?_tokens h'.opening hlq hlt
    have hseparated : separated (argument (rules budget)) (lt ++ (lmore ++ c :: rest)) =
        .ok (es.map .expr, c :: rest) := by
      rw [separated, run_bind, run_get, ok_bind, ← List.append_assoc]
      exact hread c rest _ hc (by simp)
    have hno (word : String) (hword : word ≠ "") : headKey (c :: rest) ≠ word :=
      headKey_ne_of_symbol hc hword
    have htreatment : headKey (c :: rest) ∉ ["RESPECT", "IGNORE"] := by
      intro hmem
      rcases List.mem_pair.mp hmem with hkey | hkey
      · exact hno _ (by decide) hkey
      · exact hno _ (by decide) hkey
    have hnulls : nullTreatment? (c :: rest) = .ok (none, c :: rest) := by
      simp only [nullTreatment?, run_bind, run_oneOf? htreatment, ok_bind, run_pure]
    rw [List.append_assoc, List.append_assoc]
    simp only [argumentList, run_bind, hnull, ok_bind, hopen, run_ite, Bool.false_eq_true, if_false,
      hquantifier, hseparated, hnulls, orderBy?, run_clauses? (hno "ORDER" (by decide)),
      run_clause? (hno "LIMIT" (by decide)), run_clause? (hno "HAVING" (by decide)),
      run_clause? (hno "SEPARATOR" (by decide)), overflow?, run_clauses? (hno "ON" (by decide)),
      nullClause?_closing hc, run_expectSymbol hc, run_pure, Option.toList_none, List.append_nil,
      Option.isSome_none]

/-! ## Calls -/

/-- The words with a form of their own. -/
def specialWords : List String :=
  selfStanding ++
    ["CASE", "CONVERT", "TRY_CONVERT", "CAST", "TRY_CAST", "SAFE_CAST", "EXISTS", "EXTRACT", "CEIL",
     "FLOOR", "POSITION", "SUBSTRING", "OVERLAY", "TRIM", "INTERVAL", "ARRAY", "NOT", "MATCH",
     "STRUCT", "MAP"]

theorem specialForm_none (h : l.token.keyword ∉ specialWords) :
    specialForm r inner l i more = .ok (none, more) := by
  unfold specialForm
  generalize l.token.keyword = key at h
  split
  all_goals first
    | exact absurd (by decide) h
    | rfl

/-- The words that stand for a time, with arguments or without. -/
def timeWords : List String :=
  ["CURRENT_TIMESTAMP", "CURRENT_TIME", "CURRENT_DATE", "LOCALTIME", "LOCALTIMESTAMP"]

/-- Arguments without clauses are those of a call behind its word. -/
theorem wordForm_call {q : Option SetQuantifier} {args : List (Argument Expr)} {o : Lexeme}
    {ls : List Lexeme} (ho : o.token = .symbol "(")
    (hword : l.token.keyword ∉ specialWords ∨ l.token.keyword ∈ timeWords)
    (hlist : argumentList r (ls ++ rest) = .ok (⟨q, args, [], false⟩, rest)) (hrest : Stops rest) :
    ∃ forced, wordForm r inner l i (o :: (ls ++ rest)) =
      .ok ((.call { name := [i], start := l.start } q args [], forced), rest) := by
  rcases hword with hword | hword
  · have hopen : symbol? "(" rest = .ok (false, rest) :=
      run_symbol? (hrest.ne_symbol _ (by decide))
    have htreatment : headKey rest ∉ ["RESPECT", "IGNORE"] := by
      have hall : ∀ word ∈ "" :: followWords, word ∉ ["RESPECT", "IGNORE"] := by decide
      exact hall _ hrest.headKey_mem
    have hcall : callOf r inner [i] l.start false (o :: (ls ++ rest)) =
        .ok (.call { name := [i], start := l.start } q args [], rest) := by
      simp only [callOf, run_bind, run_expectSymbol ho, ok_bind, hlist, hopen, withinGroup,
        run_keywords? (hrest.headKey_ne "WITHIN" (by decide)), nullTreatment?,
        run_oneOf? htreatment, callWindow?,
        run_clause? (hrest.headKey_ne "OVER" (by decide)), run_ite, Bool.false_eq_true, if_false,
        run_pure]
    refine wordForm_ordinary (.inl (specialForm_none hword)) ?_
    have hpoint : symbol? "." (o :: (ls ++ rest)) = .ok (false, o :: (ls ++ rest)) :=
      run_symbol? (by simp [ho])
    have hpath (fuel : Nat) : pathRest (fuel + 1) (o :: (ls ++ rest)) =
        .ok ([], o :: (ls ++ rest)) := by
      simp only [pathRest, run_bind, hpoint, ok_bind, run_ite, Bool.false_eq_true, if_false,
        run_pure]
    have hpeek : peekSymbol "(" (o :: (ls ++ rest)) = .ok (true, o :: (ls ++ rest)) :=
      run_peekSymbol_of ho
    have hdot : peekSymbol "." (o :: (ls ++ rest)) = .ok (false, o :: (ls ++ rest)) :=
      run_peekSymbol (by simp [ho])
    simp only [ordinaryWord, run_bind, hpeek, hdot, ok_bind, Bool.true_or, if_true, run_get, hpath,
      hcall]
  · refine wordForm_special ?_
    have htime : (some <$> timeCall r { name := [i], start := l.start }) (o :: (ls ++ rest)) =
        .ok (some (.call { name := [i], start := l.start } q args []), rest) := by
      simp only [run_map, timeCall, run_bind, run_symbol?_of ho, ok_bind, run_ite, if_true, hlist,
        run_pure]
      rfl
    unfold specialForm
    generalize l.token.keyword = key at hword
    simp only [timeWords, List.mem_cons, List.not_mem_nil, or_false] at hword
    rcases hword with rfl | rfl | rfl | rfl | rfl <;> exact htime

theorem naturalNumber_cons (l : Lexeme) (rest : List Lexeme) :
    naturalNumber (l :: rest) = .error .unreadable ∨
      ∃ n, naturalNumber (l :: rest) = .ok (n, rest) := by
  obtain ⟨token, start⟩ := l
  rw [naturalNumber, run_bind, run_next, ok_bind]
  cases token with
  | number n long =>
    dsimp only
    cases Number.naturalBelow? (Nat.pow 2 64) n.digits with
    | none => exact .inl rfl
    | some n => exact .inr ⟨n, rfl⟩
  | _ => exact .inl rfl

/-- The arguments of a call are no size of a type, or they are it as a whole. -/
theorem sizeText_arguments {o c : Lexeme} {ls : List Lexeme} (ho : o.token = .symbol "(")
    (hc : c.token = .symbol ")")
    (hsecond : ∀ t ∈ (ls.map (·.token))[1]?, t ≠ .symbol ")") :
    sizeText (o :: (ls ++ c :: rest)) = .error .unreadable ∨
      ∃ text, sizeText (o :: (ls ++ c :: rest)) = .ok (text, rest) := by
  have hsize : inParens naturalNumber (o :: (ls ++ c :: rest)) = .error .unreadable ∨
      ∃ n, inParens naturalNumber (o :: (ls ++ c :: rest)) = .ok (n, rest) := by
    simp only [inParens, run_bind, run_expectSymbol ho, ok_bind]
    cases ls with
    | nil =>
      refine .inl ?_
      rw [List.nil_append, naturalNumber, run_bind, run_next, ok_bind, hc]
      rfl
    | cons l ls =>
      rw [List.cons_append]
      rcases naturalNumber_cons l (ls ++ c :: rest) with hrefused | ⟨n, hread⟩
      · exact .inl (by rw [hrefused]; rfl)
      · rw [hread, ok_bind]
        cases ls with
        | nil =>
          refine .inr ⟨n, ?_⟩
          simp only [List.nil_append, run_expectSymbol hc, ok_bind, run_pure]
        | cons l' ls =>
          have hne : (l' :: ls ++ c :: rest).head?.map (·.token) ≠ some (.symbol ")") := by
            simpa using hsecond l'.token rfl
          refine .inl ?_
          simp only [expectSymbol, run_bind, run_symbol? hne, ok_bind, Bool.not_false, run_ite,
            if_true]
          rfl
  have hpeek : peekSymbol "(" (o :: (ls ++ c :: rest)) = .ok (true, o :: (ls ++ c :: rest)) :=
    run_peekSymbol_of ho
  simp only [sizeText, precision?, run_bind, hpeek, ok_bind, run_ite, if_true]
  rcases hsize with hrefused | ⟨n, hread⟩
  · exact .inl (by rw [hrefused]; rfl)
  · refine .inr ⟨clauseText "(" (some (natText n)) ")", ?_⟩
    simp only [hread, ok_bind, run_pure, Option.map_some]

/-- The words of types that are functions as well. -/
def callableTypes : List String :=
  ["DATE", "TEXT", "TIME", "TIMESTAMP"]

/-- A word of no type is no type and string in front of something in parentheses. -/
theorem typedString_form (htoken : l.token = .word i) (hword : l.token.keyword ∉ "ANY" :: typeWords)
    {o c : Lexeme} {ls : List Lexeme} (ho : o.token = .symbol "(") (hc : c.token = .symbol ")")
    (hbracket : .symbol "[" ∉ ls.map (·.token)) (hrest : Stops rest) :
    typedString inner (l :: o :: (ls ++ c :: rest)) = .error .unreadable := by
  have hopen := @typedString_open inner l rest i htoken hword (o :: (ls ++ [c])) (by simp)
    (by simp [ho]) (by simpa [ho, hc] using hbracket) (by simp [hc]) (hrest.ne_symbol _ (by decide))
  simpa using hopen

/-- A call is no type and string. -/
theorem typedString_call (htoken : l.token = .word i)
    (hword : l.token.keyword ∉ "ANY" :: typeWords ∨ l.token.keyword ∈ callableTypes) {o c : Lexeme}
    {ls : List Lexeme} (ho : o.token = .symbol "(") (hc : c.token = .symbol ")")
    (hsecond : ∀ t ∈ (ls.map (·.token))[1]?, t ≠ .symbol ")")
    (hbracket : .symbol "[" ∉ ls.map (·.token)) (hrest : Stops rest) :
    typedString inner (l :: o :: (ls ++ c :: rest)) = .error .unreadable := by
  rcases hword with hword | hword
  · exact typedString_form htoken hword ho hc hbracket hrest
  · simp only [callableTypes, List.mem_cons, List.not_mem_nil, or_false] at hword
    have hopening : literalString (o :: (ls ++ c :: rest)) = .error .unreadable := by
      rw [literalString, run_bind, run_next, ok_bind, ho]
      rfl
    have hmarks (text : String) (fuel : Nat) :
        arrayMarksFrom text fuel (o :: (ls ++ c :: rest)) = .ok (text, o :: (ls ++ c :: rest)) := by
      have hbracket : symbol? "[" (o :: (ls ++ c :: rest)) = .ok (false, o :: (ls ++ c :: rest)) :=
        run_symbol? (by simp [ho])
      cases fuel with
      | zero => rfl
      | succ fuel =>
        simp only [arrayMarksFrom, run_bind, hbracket, ok_bind, run_ite, Bool.false_eq_true,
          if_false, run_pure]
    -- a word that nothing goes on with ends in front of the parenthesis
    have hsimple (hmem : l.token.keyword ∈ typeWords)
        (hclass : classOfWord l.token.keyword = .temporal ∨ classOfWord l.token.keyword = .other)
        (htype : ∀ type, typeOfWord l.token.keyword type (o :: (ls ++ c :: rest)) =
          .ok ((l.token.keyword, false), o :: (ls ++ c :: rest))) :
        typedString inner (l :: o :: (ls ++ c :: rest)) = .error .unreadable := by
      rw [typedString, run_bind, dataType_typeWord hmem, htype, ok_bind, hmarks, ok_bind,
        if_neg Bool.false_ne_true, if_pos rfl, ok_bind]
      rcases hclass with hclass | hclass <;> rw [hclass] <;> dsimp only <;>
        rw [run_bind, hopening] <;> rfl
    have hsized (hmem : l.token.keyword ∈ typeWords)
        (hclass : classOfWord l.token.keyword = .temporal)
        (htype : ∀ type s, typeOfWord l.token.keyword type s = (do
          let text ← (do
            let size ← sizeText
            return l.token.keyword ++ size ++ (← zoneText) : Reader String)
          return (text, false) : Reader (String × Bool)) s) :
        typedString inner (l :: o :: (ls ++ c :: rest)) = .error .unreadable := by
      rcases @sizeText_arguments rest o c ls ho hc hsecond with hrefused | ⟨text, hread⟩
      · refine typedString_of_refused ?_
        rw [dataType_typeWord hmem, htype, run_bind, run_bind, hrefused]
        rfl
      · have hliteral := literalString_stops hrest
        rw [typedString, run_bind, dataType_typeWord hmem, htype]
        simp only [run_bind, hread, ok_bind, zoneText_ends hrest.typeEnds, run_pure,
          arrayMarksFrom_ends hrest.typeEnds, Bool.false_eq_true, if_false, if_true, hclass,
          hliteral]
        rfl
    rcases hword with hkey | hkey | hkey | hkey <;> rw [hkey] at hsimple hsized
    · exact hsimple (by decide) (by decide) fun _ => rfl
    · exact hsimple (by decide) (by decide) fun _ => rfl
    · exact hsized (by decide) (by decide) fun _ _ => rfl
    · exact hsized (by decide) (by decide) fun _ _ => rfl

/-- A word in front of a parenthesis opens as it does alone. -/
theorem opening_form (hshy : isShy (plainWord word) = false) {body : List Token}
    (hbracket : .symbol "[" ∉ body) : Opening (plainWord word :: .symbol "(" :: body) where
  nonempty := List.cons_ne_nil _ _
  shy := by
    intro t ht
    rcases (by simpa using ht : t = plainWord word ∨ t = .symbol "(") with rfl | rfl
    · exact hshy
    · rfl
  mark _ := by simp [plainWord]
  path _ _ _ := isPathEnd_of_head (by simp)
  bracket := by simpa [plainWord] using hbracket
  closed := by simp [plainWord]
  nulls := Bool.and_false _

/-- Phrases with commas between them open as the first one does. -/
theorem opening_listed {tss : List (List Token)} {ts : List Tree} (h : List.Forall₂ Whole tss ts)
    (hne : ts ≠ []) : Opening (listed tss) := by
  induction h with
  | nil => exact absurd rfl hne
  | @cons tokens t tss ts h hs ih =>
    cases hs with
    | nil =>
      rw [listed_one]
      exact h.opening
    | cons h' hs =>
      have hmore := ih (List.cons_ne_nil _ _)
      rw [listed_cons]
      refine h.opening.append ?_ ?_ (by simp) ?_
      · rintro _ ⟨⟩
        rfl
      · rintro _ ⟨⟩
        decide
      · simpa using hmore.bracket

theorem argumentTokens_open {q : Option SetQuantifier} {tss : List (List Token)} {ts : List Tree}
    (h : List.Forall₂ Whole tss ts) :
    .symbol "[" ∉ argumentTokens q tss ∧ ∀ t ∈ (argumentTokens q tss)[1]?, t ≠ .symbol ")" := by
  have hquantifier : .symbol "[" ∉ quantifierTokens q := by
    cases q <;> simp [quantifierTokens, plainWord]
  have hlisted : .symbol "[" ∉ listed tss ∧ ∀ t ∈ (listed tss).take 2, t ≠ .symbol ")" := by
    by_cases hts : ts = []
    · subst hts
      cases h
      simp
    · have hopening := opening_listed h hts
      refine ⟨hopening.bracket, ?_⟩
      rintro t ht rfl
      exact absurd (hopening.shy _ ht) (by decide)
  refine ⟨by simp [argumentTokens, hquantifier, hlisted.1], fun t ht => ?_⟩
  cases q with
  | none =>
    refine hlisted.2 t (List.mem_of_getElem? (i := 1) ?_)
    simpa [argumentTokens, quantifierTokens, List.getElem?_take] using ht
  | some q =>
    refine hlisted.2 t (List.mem_of_getElem? (i := 0) ?_)
    simpa [argumentTokens, quantifierTokens, List.getElem?_take] using ht

theorem treeArguments_exprs {source keyword : String} {start : Location} {es : List Expr}
    {ts : List Tree} (h : DenoteAll es ts) :
    Expr.toTree.treeArguments source keyword start (es.map .expr) = .ok ts := by
  induction h with
  | nil => rfl
  | cons h _ ih =>
    simp only [List.map_cons, Expr.toTree.treeArguments, h source, ih]
    rfl

theorem toTree_call {source : String} {start : Location} {q : Option SetQuantifier}
    {es : List Expr} {ts : List Tree} {entry : CatalogEntry} (h : DenoteAll es ts)
    (hentry : resolve word ⟨ts.length, (familyOf? word).bind (·.alternativeOf? word), q, false,
      false⟩ = .ok entry) :
    (Expr.call { name := [⟨word, none⟩], start := start } q (es.map .expr) []).toTree source =
      .ok (.call ⟨word, (familyOf? word).bind (·.alternativeOf? word), q, true⟩ ts) := by
  have hargs : Expr.toTree.treeArguments source word start (es.map .expr) = .ok ts :=
    treeArguments_exprs h
  have hcall : callTree source { name := [⟨word, none⟩], start := start } word q true ts =
      .ok (.call ⟨word, (familyOf? word).bind (·.alternativeOf? word), q, true⟩ ts) :=
    callTree_eq hentry
  have hbound : (Expr.toTree.treeArguments source word start (es.map .expr) >>= fun ts =>
      callTree source { name := [⟨word, none⟩], start := start } word q true ts) =
        .ok (.call ⟨word, (familyOf? word).bind (·.alternativeOf? word), q, true⟩ ts) := by
    rw [hargs]
    exact hcall
  -- no argument is a star
  cases es with
  | nil => exact hbound
  | cons e es => exact hbound

/-- A word that calls a function of phrases in parentheses. -/
structure Callable (word : String) : Prop where
  shy : isShy (plainWord word) = false
  form : Text.upper word ∉ specialWords ∨ Text.upper word ∈ timeWords
  type : Text.upper word ∉ "ANY" :: typeWords ∨ Text.upper word ∈ callableTypes

/-- A word with arguments in parentheses that have no clauses is a call. -/
theorem beginning_call {start : Location} {q : Option SetQuantifier}
    {args : List (Argument Expr)} {o c : Lexeme} {ls : List Lexeme} (hword : Callable word)
    (ho : o.token = .symbol "(") (hc : c.token = .symbol ")")
    (hsecond : ∀ t ∈ (ls.map (·.token))[1]?, t ≠ .symbol ")")
    (hbracket : .symbol "[" ∉ ls.map (·.token))
    (hlist : argumentList r (ls ++ c :: rest) = .ok (⟨q, args, [], false⟩, rest))
    (hrest : Stops rest) :
    beginning r (⟨plainWord word, start⟩ :: o :: (ls ++ c :: rest)) =
      .ok (.call { name := [⟨word, none⟩], start := start } q args [], rest) := by
  have hsplit : ls ++ c :: rest = (ls ++ [c]) ++ rest := by simp
  refine beginning_word rfl (fun inner => ?_) (fun inner => ?_) hrest
  · exact typedString_call (l := ⟨plainWord word, start⟩) rfl hword.type ho hc hsecond hbracket
      hrest
  · rw [hsplit] at hlist ⊢
    exact wordForm_call (l := ⟨plainWord word, start⟩) ho hword.form hlist hrest

/-- A call of phrases. -/
theorem begins_call {q : Option SetQuantifier} {tss : List (List Token)} {ts : List Tree}
    {entry : CatalogEntry} (h : List.Forall₂ Whole tss ts) (hq : q.isSome → ts ≠ [])
    (hword : Callable word)
    (hentry : resolve word ⟨ts.length, (familyOf? word).bind (·.alternativeOf? word), q, false,
      false⟩ = .ok entry) :
    Begins (plainWord word :: .symbol "(" :: (argumentTokens q tss ++ [.symbol ")"]))
      (.call ⟨word, (familyOf? word).bind (·.alternativeOf? word), q, true⟩ ts) edge := by
  obtain ⟨hbracket, hsecond⟩ := @argumentTokens_open q tss ts h
  refine ⟨opening_form hword.shy (by simpa using hbracket), fun budget hheight ls hls => ?_⟩
  obtain ⟨⟨_, start⟩, lp, rfl, rfl, hp⟩ := List.map_eq_cons_iff.mp hls
  obtain ⟨o, lmore, rfl, ho, hmore⟩ := List.map_eq_cons_iff.mp hp
  obtain ⟨lb, lc, rfl, hlb, hlc⟩ := List.map_eq_append_iff.mp hmore
  obtain ⟨c, rfl, hc⟩ := List.map_eq_singleton_iff.mp hlc
  obtain ⟨es, hes, hread⟩ := argumentList_listed h hq (Tree.height_le_iff.mp hheight) hlb
  refine ⟨.call { name := [⟨word, none⟩], start := start } q (es.map .expr) [],
    ⟨fun source => toTree_call hes hentry, nofun⟩, fun rest hrest => ?_⟩
  rw [List.cons_append, List.cons_append, List.append_assoc, List.singleton_append]
  exact beginning_call hword ho hc (hlb ▸ hsecond) (hlb ▸ hbracket) (hread c rest hc) hrest.stops

theorem toTree_star {source : String} {start : Location} {entry : CatalogEntry}
    (hentry : resolve word .ofStar = .ok entry) :
    (Expr.call { name := [⟨word, none⟩], start := start } none [.star] []).toTree source =
      .ok (.countStar word) := by
  have hcheck (position : Nat) : checkCall word .ofStar position = .ok () := by
    rw [checkCall, hentry]
    rfl
  have hstar : starTree source { name := [⟨word, none⟩], start := start } word none =
      .ok (.countStar word) := by
    simp only [starTree, hcheck]
    rfl
  exact hstar

/-- A call of a star. -/
theorem begins_star {entry : CatalogEntry} (hword : Callable word)
    (hentry : resolve word .ofStar = .ok entry) :
    Begins [plainWord word, .symbol "(", .symbol "*", .symbol ")"] (.countStar word) edge := by
  refine ⟨opening_form hword.shy (by simp), fun budget _ ls hls => ?_⟩
  match ls, hls with
  | [⟨_, start⟩, ⟨_, start'⟩, ⟨_, a⟩, ⟨_, b⟩], rfl =>
    refine ⟨.call { name := [⟨word, none⟩], start := start } none [.star] [],
      ⟨fun source => toTree_star hentry, nofun⟩, fun rest hrest => ?_⟩
    have hlist : argumentList (rules budget) ([⟨.symbol "*", a⟩] ++ ⟨.symbol ")", b⟩ :: rest) =
        .ok (⟨none, [.star], [], false⟩, rest) := rfl
    have hread : beginning (rules budget) (⟨plainWord word, start⟩ :: ⟨.symbol "(", start'⟩ ::
        ([⟨.symbol "*", a⟩] ++ ⟨.symbol ")", b⟩ :: rest)) =
          .ok (.call { name := [⟨word, none⟩], start := start } none [.star] [], rest) :=
      beginning_call hword rfl rfl (by simp) (by simp) hlist hrest.stops
    exact hread

end SqlNormal.Sql.Reader
