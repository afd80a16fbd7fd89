import Mathlib
import SqlNormal.Proofs.Reading
import SqlNormal.Proofs.Splitting
import SqlNormal.Sql.Reader

/-!
# What stands behind an operand

Where an expression ends, a mark or a word follows that does not belong to it. The readers take
nothing there, and an operator that follows binds with a strength of its own.

* `follows`, `Stops`: such tokens, and what is left if one of them comes first;
* `Operator.level`, `levelAhead_operator`: how tightly operators are read;
* `Behind`: what is left behind an operand, with a bound on how tightly it goes on;
* `climb_of_le`, `climb_of_lt`: going on from an operand, or not.
-/

namespace SqlNormal

/-- How tightly an operator is read; a sign in front of an operand is as tight as a product. -/
def Operator.level : Operator → Nat
  | or => 5
  | and => 10
  | not => 15
  | isNull | isNotNull => 17
  | like | notLike => 19
  | eq | notEq | lt | ltEq | gt | gtEq => 20
  | plus | minus => 30
  | multiply | divide | modulo | concat | negate | identity => 40

namespace Sql.Reader

variable {α : Type} {word : String} {rest : List Lexeme} {l : Lexeme}

/-! ## Tokens that are there -/

theorem run_keyword?_of (h : l.token.keyword = word) :
    keyword? word (l :: rest) = .ok (true, rest) := by
  have hkey : headKey (l :: rest) = word := h
  simp only [keyword?, peekKeyword, run_bind, run_keywordAt, run_pure, ok_bind, hkey,
    beq_self_eq_true, run_ite, if_true, run_skip, List.drop_succ_cons, List.drop_zero]

theorem run_expectKeyword (h : l.token.keyword = word) :
    expectKeyword word (l :: rest) = .ok (⟨⟩, rest) := by
  simp only [expectKeyword, run_bind, run_keyword?_of h, ok_bind, Bool.not_true, run_ite,
    Bool.false_eq_true, if_false, run_pure]

theorem run_peekSymbol_of {spelling : String} (h : l.token = .symbol spelling) :
    peekSymbol spelling (l :: rest) = .ok (true, l :: rest) := by
  simp only [peekSymbol, run_bind, run_peek, ok_bind, run_pure, List.head?_cons, Option.map_some,
    h, beq_self_eq_true]

theorem run_symbol?_of {spelling : String} (h : l.token = .symbol spelling) :
    symbol? spelling (l :: rest) = .ok (true, rest) := by
  simp only [symbol?, run_bind, run_peekSymbol_of h, ok_bind, run_ite, if_true, run_skip, run_pure,
    List.drop_succ_cons, List.drop_zero]

theorem run_expectSymbol {spelling : String} (h : l.token = .symbol spelling) :
    expectSymbol spelling (l :: rest) = .ok (⟨⟩, rest) := by
  simp only [expectSymbol, run_bind, run_symbol?_of h, ok_bind, Bool.not_true, run_ite,
    Bool.false_eq_true, if_false, run_pure]

theorem run_next : next (l :: rest) = .ok (l, rest) :=
  rfl

theorem run_ident_of {i : Ident} (h : l.token = .word i) : ident (l :: rest) = .ok (i, rest) := by
  simp only [ident, run_bind, run_next, ok_bind, h, identOf?, run_pure]

/-! ## Tokens that are not there -/

theorem run_keywords? {words : List String} (h : headKey rest ≠ word) :
    keywords? (word :: words) rest = .ok (false, rest) := by
  have hne : ((rest.take (word :: words).length).map (fun l => l.token.keyword) == word :: words) =
      false := by
    rw [beq_eq_false_iff_ne]
    cases rest with
    | nil => simp
    | cons l rest =>
      intro heq
      exact h (List.cons.inj heq).1
  simp only [keywords?, run_bind, run_get, ok_bind, hne, run_ite, Bool.false_eq_true, if_false,
    run_pure]

theorem run_clauses? {words : List String} {r : Reader α} (h : headKey rest ≠ word) :
    clauses? (word :: words) r rest = .ok (none, rest) := by
  simp only [clauses?, run_bind, run_keywords? h, ok_bind, run_ite, Bool.false_eq_true, if_false,
    run_pure]

theorem run_oneOf? {words : List String} (h : headKey rest ∉ words) :
    oneOf? words rest = .ok (none, rest) := by
  simp only [oneOf?, run_bind, run_keywordAt, ok_bind, List.contains_eq_mem, h, decide_false,
    run_ite, Bool.false_eq_true, if_false, run_pure]

/-! ## Where an operand ends -/

/-- The words that stand behind an operand. -/
def followWords : List String :=
  ["AND", "OR", "NOT", "LIKE", "IS", "IN", "WHEN", "THEN", "ELSE", "END", "FROM", "FOR", "PLACING",
   "USING", "AS"]

/-- The marks that stand behind an operand. -/
def followMarks : List String :=
  [")", ",", "+", "-", "*", "/", "%", "||", "=", "<>", "<", "<=", ">", ">="]

/-- A token that stands behind an operand. -/
def follows : Token → Bool
  | .word ⟨word, none⟩ => followWords.contains word
  | .symbol spelling => followMarks.contains spelling
  | _ => false

/-- Nothing is left, or a token that stands behind an operand comes first. -/
def Stops (rest : List Lexeme) : Prop :=
  ∀ l ∈ rest.head?, follows l.token

theorem stops_nil : Stops [] :=
  nofun

theorem stops_cons (h : follows l.token) : Stops (l :: rest) := by
  rintro _ ⟨⟩
  exact h

theorem keyword_of_follows {t : Token} (h : follows t) : t.keyword ∈ "" :: followWords := by
  have hupper : ∀ word ∈ followWords, Text.upper word = word := by decide
  match t, h with
  | .word ⟨word, none⟩, h =>
    have hmem : word ∈ followWords := by simpa [follows] using h
    refine List.mem_cons_of_mem _ ?_
    show Text.upper word ∈ _
    rwa [hupper word hmem]
  | .symbol _, _ => exact List.mem_cons_self

theorem Stops.headKey_mem (h : Stops rest) : headKey rest ∈ "" :: followWords := by
  cases rest with
  | nil => exact List.mem_cons_self
  | cons l rest => exact keyword_of_follows (h l rfl)

theorem Stops.headKey_ne (h : Stops rest) (word : String) (hword : word ∉ "" :: followWords) :
    headKey rest ≠ word := by
  rintro rfl
  exact hword h.headKey_mem

theorem Stops.ne_symbol (h : Stops rest) (spelling : String) (hmark : spelling ∉ followMarks) :
    rest.head?.map (·.token) ≠ some (.symbol spelling) := by
  intro heq
  obtain ⟨l, hl, htoken⟩ := Option.map_eq_some_iff.mp heq
  have := h l hl
  rw [htoken] at this
  exact hmark (by simpa [follows] using this)

/-! ## Going on -/

/-- A word without marks. -/
def plainWord (word : String) : Token :=
  .word ⟨word, none⟩

/-- The tokens of an operator. -/
def operatorTokens : Operator → List Token
  | .and => [plainWord "AND"]
  | .or => [plainWord "OR"]
  | .not => [plainWord "NOT"]
  | .like => [plainWord "LIKE"]
  | .notLike => [plainWord "NOT", plainWord "LIKE"]
  | .isNull => [plainWord "IS", plainWord "NULL"]
  | .isNotNull => [plainWord "IS", plainWord "NOT", plainWord "NULL"]
  | op => [.symbol op.text]

theorem map_keyToken (op : Operator) : (operatorKeys op).map keyToken = operatorTokens op := by
  cases op <;> decide

/-- Whatever is left goes on from an operand no tighter than `edge`. -/
structure Behind (edge : Nat) (rest : List Lexeme) : Prop where
  stops : Stops rest
  ahead : ∃ n ≤ edge, levelAhead rest = .ok (n, rest)

theorem Behind.mono {edge edge' : Nat} (h : Behind edge rest) (hle : edge ≤ edge') :
    Behind edge' rest := by
  obtain ⟨n, hn, hahead⟩ := h.ahead
  exact ⟨h.stops, n, hn.trans hle, hahead⟩

theorem behind_nil {edge : Nat} : Behind edge [] :=
  ⟨stops_nil, 0, Nat.zero_le _, rfl⟩

theorem levelAhead_symbol {spelling : String} (h : l.token = .symbol spelling) :
    levelAhead (l :: rest) = .ok (symbolLevel spelling, l :: rest) := by
  obtain ⟨token, start⟩ := l
  obtain rfl : token = .symbol spelling := h
  rfl

/-- The words that end an operand and are no operators. -/
def plainFollowers : List String :=
  ["WHEN", "THEN", "ELSE", "END", "FROM", "FOR", "PLACING", "USING", "AS"]

theorem behind_word {edge : Nat} (hword : word ∈ plainFollowers)
    (h : l.token = .word ⟨word, none⟩) : Behind edge (l :: rest) := by
  obtain ⟨token, start⟩ := l
  obtain rfl : token = .word ⟨word, none⟩ := h
  have hall : ∀ word ∈ plainFollowers, follows (.word ⟨word, none⟩) := by decide
  refine ⟨stops_cons (hall word hword), 0, Nat.zero_le _, ?_⟩
  simp only [plainFollowers, List.mem_cons, List.not_mem_nil, or_false] at hword
  rcases hword with rfl | rfl | rfl | rfl | rfl | rfl | rfl | rfl | rfl <;> rfl

theorem behind_closing {edge : Nat} {spelling : String} (hmark : spelling ∈ [")", ","])
    (h : l.token = .symbol spelling) : Behind edge (l :: rest) := by
  refine ⟨stops_cons ?_, 0, Nat.zero_le _, ?_⟩
  · rw [h]
    have hall : ∀ spelling ∈ [")", ","], follows (.symbol spelling) := by decide
    exact hall spelling hmark
  · rw [levelAhead_symbol h]
    have hall : ∀ spelling ∈ [")", ","], symbolLevel spelling = 0 := by decide
    rw [hall spelling hmark]

theorem behind_in (h : l.token = .word ⟨"IN", none⟩) : Behind Strength.comparison (l :: rest) := by
  obtain ⟨token, start⟩ := l
  obtain rfl : token = .word ⟨"IN", none⟩ := h
  have hfollows : follows (.word ⟨"IN", none⟩) := by decide
  exact ⟨stops_cons hfollows, Strength.comparison, Nat.le_refl _, rfl⟩

/-- An operator behind its operand is read at its level. -/
theorem levelAhead_operator {op : Operator} (hop : op.fixity ≠ .before) {ls : List Lexeme}
    (h : ls.map (·.token) = operatorTokens op) :
    levelAhead (ls ++ rest) = .ok (op.level, ls ++ rest) := by
  have hmark {op : Operator} (hlevel : symbolLevel op.text = op.level)
      (h : ls.map (·.token) = [.symbol op.text]) :
      levelAhead (ls ++ rest) = .ok (op.level, ls ++ rest) := by
    obtain ⟨l, hl, htoken⟩ := List.map_eq_singleton_iff.mp h
    rw [hl, List.singleton_append, levelAhead_symbol htoken, hlevel]
  cases op with
  | not | negate | identity => exact absurd rfl hop
  | plus | minus | multiply | divide | modulo | concat | eq | notEq | lt | ltEq | gt | gtEq =>
    exact hmark (by decide) h
  | like | and | or =>
    match ls, h with
    | [⟨_, _⟩], rfl => rfl
  | notLike | isNull =>
    match ls, h with
    | [⟨_, _⟩, ⟨_, _⟩], rfl => rfl
  | isNotNull =>
    match ls, h with
    | [⟨_, _⟩, ⟨_, _⟩, ⟨_, _⟩], rfl => rfl

theorem operatorTokens_ne_nil (op : Operator) : operatorTokens op ≠ [] := by
  cases op <;> nofun

theorem behind_operator {op : Operator} (hop : op.fixity ≠ .before) {ls : List Lexeme}
    (h : ls.map (·.token) = operatorTokens op) : Behind op.level (ls ++ rest) := by
  refine ⟨?_, op.level, Nat.le_refl _, levelAhead_operator hop h⟩
  have hfirst : ∀ t ∈ (operatorTokens op).head?, follows t := by
    cases op <;> first | exact absurd rfl hop | decide
  cases ls with
  | nil => exact absurd h.symm (operatorTokens_ne_nil op)
  | cons l ls =>
    refine stops_cons (hfirst _ ?_)
    rw [← h]
    rfl

section Climb

variable {r : Rules} {body : Reader String} {level fuel n : Nat} {e larger : Expr}
  {tokens : List Lexeme}

/-- What goes on no tighter than the level is left. -/
theorem climb_of_le (h : levelAhead tokens = .ok (n, tokens)) (hle : n ≤ level) :
    climb r body level fuel e tokens = .ok (e, tokens) := by
  cases fuel with
  | zero => rfl
  | succ fuel =>
    simp only [climb, run_bind, h, ok_bind, Nat.not_lt.mpr hle, if_false, run_pure]

/-- What goes on tighter than the level is taken. -/
theorem climb_of_lt (h : levelAhead tokens = .ok (n, tokens)) (hlt : level < n)
    (hgoes : goesOn r body e n tokens = .ok (larger, rest)) :
    climb r body level (fuel + 1) e tokens = climb r body level fuel larger rest := by
  simp only [climb, run_bind, h, ok_bind, hlt, if_true, hgoes]

theorem Behind.climb {edge : Nat} (h : Behind edge rest) (hle : edge ≤ level) :
    Reader.climb r body level fuel e rest = .ok (e, rest) := by
  obtain ⟨n, hn, hahead⟩ := h.ahead
  exact climb_of_le hahead (hn.trans hle)

theorem operation_eq_ok {op : String} {right : Expr} (hany : headKey tokens ∉ ["ANY", "ALL", "SOME"])
    (hright : r.expr n tokens = .ok (right, rest)) :
    operation r e op n tokens = .ok (.binary e op right, rest) := by
  simp only [operation, run_bind, run_oneOf? hany, ok_bind, hright, run_pure]

theorem matching_like {negated : Bool} {right : Expr} (hany : headKey tokens ≠ "ANY")
    (hright : r.expr Strength.like tokens = .ok (right, rest)) (hstops : Stops rest) :
    matching r "LIKE" e negated tokens = .ok (.like e negated false right none, rest) := by
  have hescape : escape? rest = .ok (none, rest) := run_clause? (hstops.headKey_ne _ (by decide))
  simp only [matching, run_bind, run_keyword? hany, ok_bind, hright, hescape, if_true, run_pure]

/-- The expression of an operator between two operands. -/
def betweenExpr (left : Expr) (op : Operator) (right : Expr) : Expr :=
  match op with
  | .like => .like left false false right none
  | .notLike => .like left true false right none
  | op => .binary left op.text right

theorem goesOn_between {op : Operator} (hop : op.fixity = .between) {ls : List Lexeme}
    (h : ls.map (·.token) = operatorTokens op) {right : Expr}
    (hany : headKey tokens ∉ ["ANY", "ALL", "SOME"])
    (hright : r.expr op.level tokens = .ok (right, rest)) (hstops : Stops rest) :
    goesOn r body e op.level (ls ++ tokens) = .ok (betweenExpr e op right, rest) := by
  have hlike (negated : Bool) (h : op.level = Strength.like) :
      matching r "LIKE" e negated tokens = .ok (.like e negated false right none, rest) :=
    matching_like (fun hkey => hany (hkey ▸ List.mem_cons_self)) (h ▸ hright) hstops
  have hoperation (text : String) :
      operation r e text op.level tokens = .ok (.binary e text right, rest) :=
    operation_eq_ok hany hright
  cases op with
  | not | negate | identity | isNull | isNotNull => cases hop
  | plus | minus | multiply | divide | modulo | concat | eq | notEq | lt | ltEq | gt | gtEq | and
  | or =>
    match ls, h with
    | [⟨_, _⟩], rfl => exact hoperation _
  | like =>
    match ls, h with
    | [⟨_, _⟩], rfl => exact hlike false rfl
  | notLike =>
    match ls, h with
    | [⟨_, _⟩, ⟨_, _⟩], rfl => exact hlike true rfl

theorem goesOn_after {negated : Bool} {ls : List Lexeme}
    (h : ls.map (·.token) = operatorTokens (if negated then .isNotNull else .isNull)) :
    goesOn r body e n (ls ++ rest) = .ok (.isNull e negated, rest) := by
  cases negated with
  | false =>
    match ls, h with
    | [⟨_, _⟩, ⟨_, _⟩], rfl => rfl
  | true =>
    match ls, h with
    | [⟨_, _⟩, ⟨_, _⟩, ⟨_, _⟩], rfl => rfl

end Climb

end Sql.Reader

end SqlNormal
