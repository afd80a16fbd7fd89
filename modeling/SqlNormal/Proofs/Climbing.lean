import SqlNormal.Node.Render
import SqlNormal.Proofs.Splitting

/-!
# Reading operators back

The text of a tree of operators is read by precedence climbing: an operator goes on from an operand
if it binds tightly enough for the place of the operand. What is read is the tree that was written,
wherever the level of concatenation lies.

* `strength`, `operatorAt?`, `leaf?`: what is known of operators and of what stands between them;
* `readAt`, `goOn`, `read`: the reader;
* `Node.IsOperatorTree`, `Node.bare`: the trees, and a tree without its labels;
* `Reads`: some tokens are read as a node at all levels up to a bound, unless an operator as tight
  as an edge follows; one lemma for each form;
* **`read_toSql`**: what is read is the tree that was written.
-/

namespace SqlNormal

open Sql (Token Splits Spells AfterOperand Clear)

/-- All operators. -/
def Operator.all : List Operator :=
  [.plus, .minus, .multiply, .divide, .modulo, .concat, .eq, .notEq, .lt, .ltEq, .gt, .gtEq, .like,
   .notLike, .and, .or, .not, .negate, .identity, .isNull, .isNotNull]

theorem Operator.mem_all (op : Operator) : op ∈ Operator.all := by
  cases op <;> decide

namespace Climbing

/-! ## The reader -/

/-- How tightly an operator binds if a concatenation binds with the strength `k`. -/
def strength (k : Nat) (op : Operator) : Nat :=
  if op = .concat then k else op.precedence

/-- A mark, or a word in upper case that has no marks; of other tokens, nothing. -/
def keyOf : Token → String
  | .symbol s => s
  | t => t.keyword

/-- The operator at the beginning of some tokens and what follows it, either among those that stand
before their operand or among the others. -/
def operatorAt? (before : Bool) (tokens : List Token) : Option (Operator × List Token) :=
  (Operator.all.find? fun op =>
      (op.fixity == .before) == before && (Sql.operatorKeys op).isPrefixOf (tokens.map keyOf)).map
    fun op => (op, tokens.drop (Sql.operatorKeys op).length)

/-- The words of operators, which are not names. -/
def operatorWords : List String :=
  ["AND", "OR", "NOT", "LIKE", "IS", "NULL"]

/-- The names behind points. -/
def namesAt : List Token → List String × List Token
  | .symbol s :: .word i :: rest =>
    if s = "." then
      let r := namesAt rest
      (i.folded :: r.1, r.2)
    else ([], .symbol s :: .word i :: rest)
  | tokens => ([], tokens)

/-- The column that a path of names refers to. -/
def columnOf (first : String) (names : List String) : Node :=
  .column {} (first :: names).dropLast ((first :: names).getLast (List.cons_ne_nil _ _))

/-- A column, a string or a number, and what follows. -/
def leaf? : List Token → Option (Node × List Token)
  | .word i :: rest =>
    if operatorWords.contains (keyOf (.word i)) then none
    else some (columnOf i.folded (namesAt rest).1, (namesAt rest).2)
  | .string s :: rest => some (.constant {} (.varchar s), rest)
  | .number n _ :: rest => (Number.natural? n.digits).map fun i => (.constant {} (.integer i), rest)
  | _ => none

/-- What follows a closing parenthesis. -/
def closing? : List Token → Option (List Token)
  | t :: rest => if t = .symbol ")" then some rest else none
  | [] => none

mutual

/-- An operand, and whatever goes on from it at a level. An operator in front of an operand takes
what binds at least as tightly as itself. Every step takes a token. -/
def readAt (k : Nat) : Nat → Nat → List Token → Option (Node × List Token)
  | 0, _, _ => none
  | fuel + 1, level, tokens =>
    match operatorAt? true tokens with
    | some (op, rest) =>
      (readAt k fuel (strength k op) rest).bind fun r =>
        goOn k fuel level (.operation {} op [r.1]) r.2
    | none =>
      if tokens.head? = some (.symbol "(") then
        (readAt k fuel 0 tokens.tail).bind fun r =>
          (closing? r.2).bind fun rest => goOn k fuel level r.1 rest
      else (leaf? tokens).bind fun r => goOn k fuel level r.1 r.2

/-- Goes on from an operand as long as the operators bind no less tightly than the level. What
stands on the right of an operator binds more tightly than it. -/
def goOn (k : Nat) : Nat → Nat → Node → List Token → Option (Node × List Token)
  | 0, _, _, _ => none
  | fuel + 1, level, x, tokens =>
    match operatorAt? false tokens with
    | some (op, rest) =>
      if strength k op < level then some (x, tokens)
      else if op.fixity = .after then goOn k fuel level (.operation {} op [x]) rest
      else (readAt k fuel (strength k op + 1) rest).bind fun r =>
        goOn k fuel level (.operation {} op [x, r.1]) r.2
    | none => some (x, tokens)

end

/-- The tree that a text is read as. -/
def read (k : Nat) (source : String) : Option Node :=
  (Sql.tokens? source).bind fun tokens =>
    (readAt k (tokens.length + 1) 0 tokens).bind fun r => if r.2.isEmpty then some r.1 else none

end Climbing

/-! ## Trees of operators -/

namespace Node

/-- A tree of operators over columns, strings and numbers without a sign. No name is a word of an
operator. -/
inductive IsOperatorTree : Node → Prop
  | column (l : Labels) {qualifier : List String} {name : String}
      (hnames : ∀ part ∈ qualifier ++ [name], part ∉ ["and", "or", "not", "like", "is", "null"]) :
      IsOperatorTree (column l qualifier name)
  | string (l : Labels) (s : String) : IsOperatorTree (constant l (.varchar s))
  | number (l : Labels) (i : Nat) : IsOperatorTree (constant l (.integer i))
  | before (l : Labels) {op : Operator} {x : Node} (hop : op.fixity = .before)
      (hx : IsOperatorTree x) : IsOperatorTree (operation l op [x])
  | between (l : Labels) {op : Operator} {x y : Node} (hop : op.fixity = .between)
      (hx : IsOperatorTree x) (hy : IsOperatorTree y) : IsOperatorTree (operation l op [x, y])
  | after (l : Labels) {op : Operator} {x : Node} (hop : op.fixity = .after)
      (hx : IsOperatorTree x) : IsOperatorTree (operation l op [x])

/-- A tree of operators without what is noted on its nodes. -/
def bare : Node → Node
  | operation _ op operands => operation {} op (bareList operands)
  | n => n.relabel fun _ => {}
termination_by structural n => n
where
  /-- The operands without what is noted on them. -/
  bareList : List Node → List Node
    | [] => []
    | n :: ns => bare n :: bareList ns
  termination_by structural ns => ns

end Node

namespace Climbing

variable {k : Nat}

/-! ## Operators -/

/-- No spelling begins another one of the same kind. -/
theorem eq_of_keys {op op' : Operator} (hkind : (op.fixity == .before) = (op'.fixity == .before))
    (h : Sql.operatorKeys op <+: Sql.operatorKeys op') : op = op' := by
  have hall : ∀ op ∈ Operator.all, ∀ op' ∈ Operator.all,
      (op.fixity == .before) = (op'.fixity == .before) →
      (Sql.operatorKeys op).isPrefixOf (Sql.operatorKeys op') → op = op' := by
    decide
  exact hall op op.mem_all op' op'.mem_all hkind (List.isPrefixOf_iff_prefix.mpr h)

/-- The tokens of an operator. -/
def tokensOf (op : Operator) : List Token :=
  (Sql.operatorKeys op).map Sql.keyToken

theorem map_keyOf_tokensOf (op : Operator) : (tokensOf op).map keyOf = Sql.operatorKeys op := by
  cases op <;> decide

theorem length_tokensOf_pos (op : Operator) : 0 < (tokensOf op).length := by
  cases op <;> decide

theorem operatorAt?_tokensOf (op : Operator) (rest : List Token) :
    operatorAt? (op.fixity == .before) (tokensOf op ++ rest) = some (op, rest) := by
  let p (op' : Operator) : Bool := (op'.fixity == .before) == (op.fixity == .before) &&
    (Sql.operatorKeys op').isPrefixOf ((tokensOf op ++ rest).map keyOf)
  have hkeys : (tokensOf op ++ rest).map keyOf = Sql.operatorKeys op ++ rest.map keyOf := by
    rw [List.map_append, map_keyOf_tokensOf]
  have hop : p op := by
    simp [p, hkeys]
  obtain ⟨op', hfind⟩ := Option.isSome_iff_exists.mp
    (List.find?_isSome.mpr ⟨op, op.mem_all, hop⟩)
  have hop' : p op' := List.find?_some hfind
  obtain rfl : op' = op := by
    simp only [p, hkeys, Bool.and_eq_true, beq_iff_eq, List.isPrefixOf_iff_prefix] at hop'
    rcases List.prefix_or_prefix_of_prefix hop'.2 (List.prefix_append _ _) with h | h
    · exact eq_of_keys hop'.1 h
    · exact (eq_of_keys hop'.1.symm h).symm
  have hlength : (Sql.operatorKeys op').length = (tokensOf op').length := by
    rw [tokensOf, List.length_map]
  rw [operatorAt?, hfind, Option.map_some, hlength, List.drop_left]

/-- Every operator begins with a word or a mark. -/
theorem operatorAt?_eq_none {t : Token} {before : Bool} (rest : List Token)
    (h : ∀ op ∈ Operator.all, (op.fixity == .before) = before →
      (Sql.operatorKeys op).head? ≠ some (keyOf t)) :
    operatorAt? before (t :: rest) = none := by
  have hnonempty : ∀ op ∈ Operator.all, Sql.operatorKeys op ≠ [] := by decide
  rw [operatorAt?, Option.map_eq_none_iff, List.find?_eq_none]
  intro op hop hmatch
  rw [Bool.and_eq_true, beq_iff_eq, List.isPrefixOf_iff_prefix] at hmatch
  obtain ⟨key, keys, hlist⟩ := List.exists_cons_of_ne_nil (hnonempty op hop)
  rw [hlist, List.map_cons, List.cons_prefix_cons] at hmatch
  exact h op hop hmatch.1 (by rw [hlist, hmatch.2.1]; rfl)

theorem strength_lt (k : Nat) (op : Operator) : strength k op < 51 + k := by
  have hall : ∀ op ∈ Operator.all, op.precedence < 51 := by decide
  have := hall op op.mem_all
  rw [strength]
  split <;> omega

/-- An operand that is not wrapped binds as tightly as its place needs. -/
theorem strength_of_needsParens {op inner : Operator} {last : Bool}
    (h : needsParens op inner last = false) :
    strength k op ≤ strength k inner ∧
      (op.fixity ≠ .before → inner.fixity = .before → strength k op < strength k inner) ∧
      (op.fixity = .between → last → strength k op < strength k inner) := by
  by_cases hop : op = .concat <;> by_cases hinner : inner = .concat
  · subst hop hinner
    cases last with
    | true => exact absurd h (by decide)
    | false => exact ⟨Nat.le_refl _, fun _ => nofun, fun _ => nofun⟩
  · subst hop
    simp [needsParens, hinner] at h
  · subst hinner
    simp [needsParens, hop] at h
  · have hall : ∀ op ∈ Operator.all, ∀ inner ∈ Operator.all, ∀ last,
        op ≠ .concat → inner ≠ .concat → needsParens op inner last = false →
        op.precedence ≤ inner.precedence ∧
          (op.fixity ≠ .before → inner.fixity = .before → op.precedence < inner.precedence) ∧
          (op.fixity = .between → last → op.precedence < inner.precedence) := by
      decide
    rw [strength, strength, if_neg hop, if_neg hinner]
    exact hall op op.mem_all inner inner.mem_all last hop hinner h

/-! ## What is read -/

/-- Neither a path of names nor an operator as tight as `edge` goes on. -/
structure Stops (k edge : Nat) (rest : List Token) : Prop where
  point : rest.head? ≠ some (.symbol ".")
  operator : ∀ op behind, operatorAt? false rest = some (op, behind) → strength k op < edge

/-- The tokens are read as a node at all levels up to `bind`, whatever follows that stops at `edge`:
the reader goes on behind them with the node as its left operand. -/
def Reads (k : Nat) (tokens : List Token) (x : Node) (bind edge : Nat) : Prop :=
  ∀ fuel level rest result, level ≤ bind → Stops k edge rest → (tokens ++ rest).length < fuel →
    (∀ fuel', rest.length < fuel' → goOn k fuel' level x rest = some result) →
    readAt k fuel level (tokens ++ rest) = some result

variable {tokens tokens' rest : List Token} {x y : Node} {bind edge bind' edge' : Nat}

theorem Stops.mono (h : Stops k edge rest) (hle : edge ≤ edge') : Stops k edge' rest :=
  ⟨h.point, fun op behind hop => Nat.lt_of_lt_of_le (h.operator op behind hop) hle⟩

theorem stops_nil : Stops k edge [] := by
  refine ⟨nofun, fun op behind h => ?_⟩
  have hnone : operatorAt? false [] = none := by decide
  rw [hnone] at h
  cases h

theorem stops_closing : Stops k edge (.symbol ")" :: rest) := by
  refine ⟨by simp, fun op behind h => ?_⟩
  have hall : ∀ op ∈ Operator.all, (op.fixity == .before) = false →
      (Sql.operatorKeys op).head? ≠ some (keyOf (.symbol ")")) := by
    decide
  rw [operatorAt?_eq_none rest hall] at h
  cases h

theorem stops_operator {op : Operator} (hop : (op.fixity == .before) = false)
    (h : strength k op < edge) : Stops k edge (tokensOf op ++ rest) := by
  have hat := operatorAt?_tokensOf op rest
  rw [hop] at hat
  refine ⟨?_, fun op' behind h' => ?_⟩
  · have hhead : (tokensOf op).head? ≠ some (.symbol ".") := by
      cases op <;> decide
    obtain ⟨t, ts, hlist⟩ :=
      List.exists_cons_of_ne_nil (List.ne_nil_of_length_pos (length_tokensOf_pos op))
    rw [hlist] at hhead ⊢
    exact hhead
  · rw [hat] at h'
    cases h'
    exact h

/-- At a level that is no lower than where the rest stops, the operand is all that is read. -/
theorem goOn_of_stops {fuel level : Nat} (h : Stops k level rest) (hfuel : rest.length < fuel) :
    goOn k fuel level x rest = some (x, rest) := by
  obtain ⟨fuel, rfl⟩ : ∃ n, fuel = n + 1 := ⟨fuel - 1, by omega⟩
  rw [goOn]
  split
  · rename_i op behind hop
    rw [if_pos (h.operator op behind hop)]
  · rfl

/-- What is read at a level at which the rest stops is the node itself. -/
theorem Reads.alone {fuel level : Nat} (h : Reads k tokens x bind edge) (hlevel : level ≤ bind)
    (hle : level ≤ edge) (hrest : Stops k level rest) (hfuel : (tokens ++ rest).length < fuel) :
    readAt k fuel level (tokens ++ rest) = some (x, rest) :=
  h fuel level rest (x, rest) hlevel (hrest.mono hle) hfuel fun _ => goOn_of_stops hrest

theorem Reads.inParens (h : Reads k tokens x bind edge) :
    Reads k (.symbol "(" :: tokens ++ [.symbol ")"]) x bind' edge' := by
  intro fuel level rest result _ _ hfuel hgo
  obtain ⟨fuel, rfl⟩ : ∃ n, fuel = n + 1 := ⟨fuel - 1, by omega⟩
  simp only [List.cons_append, List.append_assoc, List.nil_append, List.length_cons,
    List.length_append] at hfuel ⊢
  have hall : ∀ op ∈ Operator.all, (op.fixity == .before) = true →
      (Sql.operatorKeys op).head? ≠ some (keyOf (.symbol "(")) := by
    decide
  have hinner : readAt k fuel 0 (tokens ++ .symbol ")" :: rest) = some (x, .symbol ")" :: rest) :=
    h.alone (Nat.zero_le _) (Nat.zero_le _) stops_closing (by simp; omega)
  rw [readAt, operatorAt?_eq_none _ hall]
  simp only [List.head?_cons, if_true, List.tail_cons, hinner, Option.bind_some, closing?]
  exact hgo fuel (by omega)

theorem Reads.before {op : Operator} (hop : op.fixity = .before) (h : Reads k tokens x bind edge)
    (hbind : strength k op ≤ bind) (hedge : strength k op ≤ edge) :
    Reads k (tokensOf op ++ tokens) (.operation {} op [x]) (strength k op) (strength k op) := by
  intro fuel level rest result _ hrest hfuel hgo
  obtain ⟨fuel, rfl⟩ : ∃ n, fuel = n + 1 := ⟨fuel - 1, by omega⟩
  have hat := operatorAt?_tokensOf op (tokens ++ rest)
  rw [hop, beq_self_eq_true] at hat
  have hpos := length_tokensOf_pos op
  rw [List.append_assoc, List.length_append, List.length_append] at hfuel
  have hoperand : readAt k fuel (strength k op) (tokens ++ rest) = some (x, rest) :=
    h.alone hbind hedge hrest (by rw [List.length_append]; omega)
  rw [List.append_assoc, readAt, hat]
  simp only [hoperand, Option.bind_some]
  exact hgo fuel (by omega)

theorem Reads.between {op : Operator} (hop : op.fixity = .between)
    (hx : Reads k tokens x bind edge) (hy : Reads k tokens' y bind' edge')
    (hbind : strength k op ≤ bind) (hedge : strength k op < edge)
    (hbind' : strength k op < bind') (hedge' : strength k op < edge') :
    Reads k (tokens ++ (tokensOf op ++ tokens')) (.operation {} op [x, y]) (strength k op)
      (strength k op + 1) := by
  intro fuel level rest result hlevel hrest hfuel hgo
  have hkind : (op.fixity == .before) = false := by
    rw [hop]
    rfl
  have hat := operatorAt?_tokensOf op (tokens' ++ rest)
  rw [hkind] at hat
  have hpos := length_tokensOf_pos op
  simp only [List.append_assoc] at hfuel ⊢
  refine hx fuel level _ result (hlevel.trans hbind) (stops_operator hkind hedge) hfuel ?_
  -- the reader stands behind the left operand
  intro fuel' hfuel'
  obtain ⟨fuel', rfl⟩ : ∃ n, fuel' = n + 1 := ⟨fuel' - 1, by omega⟩
  rw [List.length_append, List.length_append] at hfuel'
  have hright : readAt k fuel' (strength k op + 1) (tokens' ++ rest) = some (y, rest) :=
    hy.alone hbind' hedge' hrest (by rw [List.length_append]; omega)
  rw [goOn, hat]
  simp only [Nat.not_lt.mpr hlevel, hop, reduceCtorEq, if_false, hright, Option.bind_some]
  exact hgo fuel' (by omega)

theorem Reads.after {op : Operator} (hop : op.fixity = .after) (h : Reads k tokens x bind edge)
    (hbind : strength k op ≤ bind) (hedge : strength k op < edge) :
    Reads k (tokens ++ tokensOf op) (.operation {} op [x]) (strength k op)
      (strength k op + 1) := by
  intro fuel level rest result hlevel _ hfuel hgo
  have hkind : (op.fixity == .before) = false := by
    rw [hop]
    rfl
  have hat := operatorAt?_tokensOf op rest
  rw [hkind] at hat
  have hpos := length_tokensOf_pos op
  rw [List.append_assoc] at hfuel ⊢
  refine h fuel level _ result (hlevel.trans hbind) (stops_operator hkind hedge) hfuel ?_
  intro fuel' hfuel'
  obtain ⟨fuel', rfl⟩ : ∃ n, fuel' = n + 1 := ⟨fuel' - 1, by omega⟩
  rw [List.length_append] at hfuel'
  rw [goOn, hat]
  simp only [Nat.not_lt.mpr hlevel, hop, if_false, if_true]
  exact hgo fuel' (by omega)

/-! ## Leaves -/

theorem Reads.leaf {t : Token} (hfirst : keyOf t ∉ ["NOT", "-", "+"]) (ht : t ≠ .symbol "(")
    (hleaf : ∀ rest, rest.head? ≠ some (.symbol ".") →
      leaf? (t :: (tokens ++ rest)) = some (x, rest)) :
    Reads k (t :: tokens) x bind edge := by
  intro fuel level rest result _ hrest hfuel hgo
  obtain ⟨fuel, rfl⟩ : ∃ n, fuel = n + 1 := ⟨fuel - 1, by omega⟩
  rw [List.cons_append, List.length_cons, List.length_append] at hfuel
  have hkeys : ∀ op ∈ Operator.all, (op.fixity == .before) = true →
      ∀ key ∈ (Sql.operatorKeys op).head?, key ∈ ["NOT", "-", "+"] := by
    decide
  have hnone : operatorAt? true (t :: (tokens ++ rest)) = none :=
    operatorAt?_eq_none _ fun op hop hkind h => hfirst (hkeys op hop hkind _ h)
  have hhead : (t :: (tokens ++ rest)).head? ≠ some (.symbol "(") := by
    simpa using ht
  rw [List.cons_append, readAt, hnone]
  simp only [hhead, if_false, hleaf rest hrest.point, Option.bind_some]
  exact hgo fuel (by omega)

theorem Reads.string (s : String) : Reads k [.string s] (.constant {} (.varchar s)) bind edge := by
  have hkey : keyOf (.string s) = "" := rfl
  exact .leaf (by rw [hkey]; decide) nofun fun _ _ => rfl

theorem Reads.number {n : Sql.Numeral} {i : Nat} (h : Number.natural? n.digits = some i) :
    Reads k [.number n false] (.constant {} (.integer i)) bind edge := by
  have hkey : keyOf (.number n false) = "" := rfl
  refine .leaf (by rw [hkey]; decide) nofun fun rest _ => ?_
  rw [leaf?, h]
  rfl

theorem namesAt_path {names : List String} (h : rest.head? ≠ some (.symbol ".")) :
    namesAt (((names.map Sql.identOf).flatMap fun i => [.symbol ".", .word i]) ++ rest) =
      (names, rest) := by
  induction names with
  | nil =>
    rw [List.map_nil, List.flatMap_nil, List.nil_append]
    unfold namesAt
    split
    · rename_i s i rest
      have hs : s ≠ "." := by simpa using h
      rw [if_neg hs]
    · rfl
  | cons name names ih =>
    rw [List.map_cons, List.flatMap_cons, List.append_assoc]
    simp only [List.cons_append, List.nil_append, namesAt, if_true, ih, Sql.folded_identOf]

theorem keyOf_identOf {name : String}
    (h : name ∉ ["and", "or", "not", "like", "is", "null"]) :
    keyOf (.word (Sql.identOf name)) ∉ operatorWords ++ ["-", "+"] := by
  have hall : ∀ word ∈ operatorWords ++ ["-", "+"], word ≠ "" ∧
      (Text.lower word ∈ ["and", "or", "not", "like", "is", "null"] ∨
        ¬ Text.isPlain (Text.lower word).toList) := by
    decide
  intro hmem
  obtain ⟨hne, hword⟩ := hall _ hmem
  rcases Sql.keyword_identOf name with hnone | ⟨hplain, hname⟩
  · exact hne hnone
  · rw [keyOf, ← hname] at hword
    · exact hword.elim h (absurd hplain)
    · intro _ hsymbol
      cases hsymbol

theorem Reads.column {first : String} {names : List String}
    (h : first ∉ ["and", "or", "not", "like", "is", "null"]) :
    Reads k (Sql.pathTokens ((first :: names).map Sql.identOf)) (columnOf first names) bind edge := by
  have hkey := keyOf_identOf h
  rw [List.mem_append, not_or] at hkey
  have hwords : operatorWords.contains (keyOf (.word (Sql.identOf first))) = false := by
    simpa using hkey.1
  refine .leaf ?_ nofun fun rest hrest => ?_
  · intro hmem
    rcases List.mem_cons.mp hmem with hnot | hsign
    · exact hkey.1 (by rw [hnot]; decide)
    · exact hkey.2 hsign
  · rw [leaf?, hwords, namesAt_path hrest, Sql.folded_identOf]
    rfl

/-! ## Texts -/

/-- A sign may stand right in front of the text, unless the text begins with one. -/
def FollowsSign (text : String) : Prop :=
  text.toList ≠ [] ∧ (startsSigned text = false → Clear text.toList)

/-- The text is split into tokens that are read as the node. -/
structure Legible (k : Nat) (text : String) (x : Node) (bind edge : Nat) : Prop where
  reads : ∃ tokens, Spells AfterOperand text.toList tokens ∧ Reads k tokens x bind edge
  follows : FollowsSign text

variable {text text' : String}

theorem FollowsSign.append (h : FollowsSign text) (text' : String) :
    FollowsSign (text ++ text') := by
  obtain ⟨hne, hclear⟩ := h
  obtain ⟨c, cs, hlist⟩ := List.exists_cons_of_ne_nil hne
  rw [hlist] at hclear
  refine ⟨by simp [hlist], fun hsigned => ?_⟩
  rw [String.toList_append, hlist]
  exact hclear (by simpa [startsSigned, hlist] using hsigned)

/-- A text that begins with no mark of an operator. -/
theorem followsSign_of_head {c : Char} {cs : List Char} (hlist : text.toList = c :: cs)
    (hc : ∀ o ∈ Sql.operators, c ∉ o.1.toList) : FollowsSign text := by
  refine ⟨by simp [hlist], fun _ => ?_⟩
  rw [hlist]
  rintro _ ⟨⟩
  exact hc

theorem followsSign_before {op : Operator} (hop : op.fixity = .before) : FollowsSign op.text := by
  cases op <;> first | exact absurd hop (by decide) | skip
  case not => exact followsSign_of_head (c := 'N') rfl (by decide)
  case negate => exact ⟨by decide, fun h => absurd h (by decide)⟩
  case identity => exact ⟨by decide, fun h => absurd h (by decide)⟩

theorem afterOperand_blank (cs : List Char) : AfterOperand (' ' :: cs) := by
  rintro _ ⟨⟩
  decide

/-- A text in parentheses. -/
theorem spells_inParens {tokens : List Token} (h : Spells AfterOperand text.toList tokens) :
    Spells AfterOperand (inParens text).toList (.symbol "(" :: (tokens ++ [.symbol ")"])) := by
  have hlist : (inParens text).toList = ['('] ++ (text.toList ++ [')']) := by
    simp [inParens]
  have hclosed : Spells AfterOperand (text.toList ++ [')']) (tokens ++ [.symbol ")"]) :=
    h.append (Sql.spells_closing.mono fun _ _ => trivial) fun rest _ => by
      rintro _ ⟨⟩
      decide
  rw [hlist]
  exact Sql.spells_opening.append hclosed fun _ _ => trivial

theorem followsSign_inParens (text : String) : FollowsSign (inParens text) := by
  have hlist : (inParens text).toList = '(' :: (text.toList ++ [')']) := by
    simp [inParens]
  exact followsSign_of_head hlist (by decide)

/-- An operator in front of a text. -/
theorem spells_signed {op : Operator} (hop : op.fixity = .before) (hfollows : FollowsSign text)
    {tokens : List Token} (h : Spells AfterOperand text.toList tokens) :
    Spells AfterOperand (signed op text).toList (tokensOf op ++ tokens) := by
  rw [signed]
  split
  · rw [String.toList_append, String.toList_append, List.append_assoc]
    exact (Sql.spells_operator op).append (Sql.spells_blank.append h fun _ _ => trivial)
      fun rest _ => afterOperand_blank _
  · rename_i hsign
    rw [Bool.or_eq_true, not_or, Bool.not_eq_true, Bool.not_eq_true] at hsign
    rw [String.toList_append]
    refine (Sql.spells_sign hop hsign.1).append h fun rest _ => ?_
    obtain ⟨c, cs, hlist⟩ := List.exists_cons_of_ne_nil hfollows.1
    have hclear := hfollows.2 hsign.2
    rw [hlist] at hclear ⊢
    exact hclear

theorem followsSign_signed {op : Operator} (hop : op.fixity = .before) (text : String) :
    FollowsSign (signed op text) := by
  rw [signed]
  split
  · rw [String.append_assoc]
    exact (followsSign_before hop).append _
  · exact (followsSign_before hop).append _

/-- An operator between two texts. -/
theorem spells_between (op : Operator) {tokens tokens' : List Token}
    (h : Spells AfterOperand text.toList tokens) (h' : Spells AfterOperand text'.toList tokens') :
    Spells AfterOperand (text ++ (" " ++ op.text ++ " ") ++ text').toList
      (tokens ++ (tokensOf op ++ tokens')) := by
  have hright : Spells AfterOperand ([' '] ++ text'.toList) tokens' :=
    Sql.spells_blank.append h' fun _ _ => trivial
  have hoperator : Spells AfterOperand ([' '] ++ (op.text.toList ++ ([' '] ++ text'.toList)))
      (tokensOf op ++ tokens') :=
    Sql.spells_blank.append ((Sql.spells_operator op).append hright fun _ _ =>
      afterOperand_blank _) fun _ _ => trivial
  have hlist : (text ++ (" " ++ op.text ++ " ") ++ text').toList =
      text.toList ++ ([' '] ++ (op.text.toList ++ ([' '] ++ text'.toList))) := by
    simp
  rw [hlist]
  exact h.append hoperator fun _ _ => afterOperand_blank _

/-- An operator behind a text. -/
theorem spells_after (op : Operator) {tokens : List Token}
    (h : Spells AfterOperand text.toList tokens) :
    Spells AfterOperand (text ++ " " ++ op.text).toList (tokens ++ tokensOf op) := by
  have hoperator : Spells AfterOperand ([' '] ++ op.text.toList) (tokensOf op) :=
    Sql.spells_blank.append (Sql.spells_operator op) fun _ _ => trivial
  rw [String.toList_append, String.toList_append, List.append_assoc]
  exact h.append hoperator fun _ _ => afterOperand_blank _

theorem Legible.inParens (h : Legible k text x bind edge) :
    Legible k (inParens text) x bind' edge' := by
  obtain ⟨tokens, hspells, hreads⟩ := h.reads
  exact ⟨⟨_, spells_inParens hspells, hreads.inParens⟩, followsSign_inParens text⟩

theorem Legible.wrap (l : Labels) (h : Legible k text x bind edge) :
    Legible k (Node.wrap l text) x (if l.parenthesized then bind' else bind)
      (if l.parenthesized then edge' else edge) := by
  rw [Node.wrap]
  split
  · exact h.inParens
  · exact h

theorem Legible.wrap_leaf (l : Labels) (h : ∀ bind edge, Legible k text x bind edge) :
    Legible k (Node.wrap l text) x bind edge := by
  rw [Node.wrap]
  split
  · exact (h bind edge).inParens
  · exact h bind edge

theorem Legible.before {op : Operator} (hop : op.fixity = .before) (h : Legible k text x bind edge)
    (hbind : strength k op ≤ bind) (hedge : strength k op ≤ edge) :
    Legible k (signed op text) (.operation {} op [x]) (strength k op) (strength k op) := by
  obtain ⟨tokens, hspells, hreads⟩ := h.reads
  exact ⟨⟨_, spells_signed hop h.follows hspells, hreads.before hop hbind hedge⟩,
    followsSign_signed hop text⟩

theorem Legible.between {op : Operator} (hop : op.fixity = .between)
    (hx : Legible k text x bind edge) (hy : Legible k text' y bind' edge')
    (hbind : strength k op ≤ bind) (hedge : strength k op < edge)
    (hbind' : strength k op < bind') (hedge' : strength k op < edge') :
    Legible k (text ++ (" " ++ op.text ++ " ") ++ text') (.operation {} op [x, y]) (strength k op)
      (strength k op + 1) := by
  obtain ⟨tokens, hspells, hreads⟩ := hx.reads
  obtain ⟨tokens', hspells', hreads'⟩ := hy.reads
  refine ⟨⟨_, spells_between op hspells hspells',
    hreads.between hop hreads' hbind hedge hbind' hedge'⟩, ?_⟩
  rw [String.append_assoc]
  exact hx.follows.append _

theorem Legible.after {op : Operator} (hop : op.fixity = .after) (h : Legible k text x bind edge)
    (hbind : strength k op ≤ bind) (hedge : strength k op < edge) :
    Legible k (text ++ " " ++ op.text) (.operation {} op [x]) (strength k op)
      (strength k op + 1) := by
  obtain ⟨tokens, hspells, hreads⟩ := h.reads
  refine ⟨⟨_, spells_after op hspells, hreads.after hop hbind hedge⟩, ?_⟩
  rw [String.append_assoc]
  exact h.follows.append _

theorem followsSign_quoteString (s : String) : FollowsSign (Text.quoteString s) := by
  have hlist : (Text.quoteString s).toList =
      Text.apostrophe :: (Text.double Text.apostrophe s.toList ++ [Text.apostrophe]) := by
    simp [Text.quoteString, Text.quoteWith]
  exact followsSign_of_head hlist (by decide)

theorem legible_string (s : String) :
    Legible k (Text.quoteString s) (.constant {} (.varchar s)) bind edge :=
  ⟨⟨_, Sql.spells_string s, .string s⟩, followsSign_quoteString s⟩

theorem not_mem_operators {c : Char} (h : Sql.isAsciiPart c) :
    ∀ o ∈ Sql.operators, c ∉ o.1.toList := by
  have hall : ∀ o ∈ Sql.operators, ∀ d ∈ o.1.toList, Sql.isAsciiPart d = false := by decide
  intro o ho hmem
  rw [hall o ho c hmem] at h
  cases h

theorem followsSign_dotted (name : String) (names : List String) :
    FollowsSign (Text.dotted (name :: names)) := by
  obtain ⟨c, cs, hlist, hc⟩ := Sql.head_dotted name names
  refine followsSign_of_head hlist ?_
  rcases hc with hc | rfl
  · exact not_mem_operators (Sql.isAsciiPart_of_isAsciiStart hc)
  · decide

theorem legible_number (i : Nat) :
    Legible k (Value.integer i).toSql (.constant {} (.integer i)) bind edge := by
  obtain ⟨numeral, htext, hspells⟩ := Sql.spells_digits i
  obtain ⟨hne, hdigits⟩ := Sql.isDigit_digits i
  obtain ⟨d, ds, hlist⟩ := List.exists_cons_of_ne_nil hne
  have hd : d.isDigit := by
    rw [hlist] at hdigits
    simp_all
  have hsql : (Value.integer i).toSql.toList = Number.digits i := by
    simp [Value.toSql, Number.signedDigits]
  have hvalue : Number.natural? numeral.digits = some i := by
    have hplus : d ≠ '+' := by
      rintro rfl
      exact absurd hd (by decide)
    have hunsigned : Number.unsigned? (Number.digits i) = some i := by
      rw [Number.unsigned?, if_pos ⟨hne, hdigits⟩, Sql.digitsValue_digits]
    rw [Number.natural?, htext, String.toList_ofList]
    rw [hlist] at hunsigned ⊢
    simp [hplus, hunsigned]
  refine ⟨⟨[.number numeral false], ?_, .number hvalue⟩, ?_⟩
  · rwa [hsql]
  · refine followsSign_of_head (hsql.trans hlist) (not_mem_operators ?_)
    simp [Sql.isAsciiPart, Char.isAlphanum, hd]

theorem legible_column {qualifier : List String} {name : String}
    (h : ∀ part ∈ qualifier ++ [name], part ∉ ["and", "or", "not", "like", "is", "null"]) :
    Legible k (Text.dotted (qualifier ++ [name])) (.column {} qualifier name) bind edge := by
  obtain ⟨first, names, hnames⟩ := List.exists_cons_of_ne_nil (List.concat_ne_nil name qualifier)
  have hcolumn : columnOf first names = .column {} qualifier name := by
    simp only [columnOf, ← hnames]
    simp
  rw [hnames] at h ⊢
  rw [← hcolumn]
  refine ⟨⟨Sql.pathTokens ((first :: names).map Sql.identOf), ?_, .column (h first (by simp))⟩,
    followsSign_dotted first names⟩
  exact (Sql.spells_dotted (List.cons_ne_nil _ _)).mono fun _ => AfterOperand.afterName

/-! ## Nodes -/

/-- How tightly the text of a node binds. -/
def bindOf (k : Nat) : Node → Nat
  | .operation l op _ => if l.parenthesized then 51 + k else strength k op
  | _ => 51 + k

/-- How tightly an operator binds that goes on from within the text of a node. An operator in front
of its operand goes on with what binds as tightly as itself. -/
def edgeOf (k : Nat) : Node → Nat
  | .operation l op _ =>
    if l.parenthesized then 51 + k
    else if op.fixity = .before then strength k op else strength k op + 1
  | _ => 51 + k

/-- An operand at a place of an operator binds tightly enough. -/
structure Fits (k : Nat) (op : Operator) (last : Bool) (bind edge : Nat) : Prop where
  le_bind : strength k op ≤ bind
  le_edge : bind ≤ edge
  lt_edge : op.fixity ≠ .before → strength k op < edge
  lt_bind : op.fixity = .between → last → strength k op < bind

theorem fits_closed {op : Operator} {last : Bool} : Fits k op last (51 + k) (51 + k) where
  le_bind := (strength_lt k op).le
  le_edge := le_refl _
  lt_edge := fun _ => strength_lt k op
  lt_bind := fun _ _ => strength_lt k op

theorem fits_of_needsParens {op inner : Operator} {last : Bool}
    (h : needsParens op inner last = false) :
    Fits k op last (strength k inner)
      (if inner.fixity = .before then strength k inner else strength k inner + 1) := by
  obtain ⟨hle, hbefore, hlast⟩ := strength_of_needsParens (k := k) h
  refine ⟨hle, ?_, fun hop => ?_, hlast⟩
  · split <;> omega
  · split
    · rename_i hinner
      exact hbefore hop hinner
    · omega

/-- The text of an operand at its place is read as the operand. -/
theorem legible_placed {n : Node} (h : Legible k n.toSql n.bare (bindOf k n) (edgeOf k n))
    (op : Operator) (last : Bool) :
    ∃ bind edge, Legible k (Node.placed op last n n.toSql) n.bare bind edge ∧
      Fits k op last bind edge := by
  unfold Node.placed
  split
  · rename_i l inner operands
    split
    · exact ⟨51 + k, 51 + k, h.inParens, fits_closed⟩
    · rename_i hplace
      refine ⟨_, _, h, ?_⟩
      by_cases hl : l.parenthesized
      · simpa only [bindOf, edgeOf, hl, if_true] using fits_closed
      · simp only [bindOf, edgeOf, hl]
        exact fits_of_needsParens (by simpa [hl] using hplace)
  · rename_i hn
    refine ⟨_, _, h, ?_⟩
    cases n with
    | operation l inner operands => exact absurd rfl (hn l inner operands)
    | _ => exact fits_closed

section Operations

variable (l : Labels) {op : Operator}

theorem toSql_before (hop : op.fixity = .before) (x : Node) : (Node.operation l op [x]).toSql =
    Node.wrap l (signed op (Node.placed op false x x.toSql)) := by
  simp [Node.toSql, Node.toSql.sqlOperands, operationText, hop]

theorem toSql_between (hop : op.fixity = .between) (x y : Node) :
    (Node.operation l op [x, y]).toSql = Node.wrap l
      (Node.placed op false x x.toSql ++ (" " ++ op.text ++ " ") ++
        Node.placed op true y y.toSql) := by
  simp [Node.toSql, Node.toSql.sqlOperands, operationText, hop]

theorem toSql_after (hop : op.fixity = .after) (x : Node) : (Node.operation l op [x]).toSql =
    Node.wrap l (Node.placed op false x x.toSql ++ " " ++ op.text) := by
  simp [Node.toSql, Node.toSql.sqlOperands, operationText, hop]

end Operations

theorem legible_toSql {n : Node} (h : n.IsOperatorTree) :
    Legible k n.toSql n.bare (bindOf k n) (edgeOf k n) := by
  induction h with
  | column l hnames => exact .wrap_leaf l fun _ _ => legible_column hnames
  | string l s => exact .wrap_leaf l fun _ _ => legible_string s
  | number l i => exact .wrap_leaf l fun _ _ => legible_number i
  | @before l op x hop hx ih =>
    obtain ⟨bind, edge, hplaced, hfits⟩ := legible_placed ih op false
    have hedge : edgeOf k (.operation l op [x]) =
        if l.parenthesized then 51 + k else strength k op := by
      simp [edgeOf, hop]
    rw [toSql_before l hop, hedge]
    exact (hplaced.before hop hfits.le_bind (hfits.le_bind.trans hfits.le_edge)).wrap l
  | @between l op x y hop hx hy ihx ihy =>
    obtain ⟨bind, edge, hplaced, hfits⟩ := legible_placed ihx op false
    obtain ⟨bind', edge', hplaced', hfits'⟩ := legible_placed ihy op true
    have hne : op.fixity ≠ .before := by
      rw [hop]
      nofun
    have hedge : edgeOf k (.operation l op [x, y]) =
        if l.parenthesized then 51 + k else strength k op + 1 := by
      simp [edgeOf, hop]
    rw [toSql_between l hop, hedge]
    exact (hplaced.between hop hplaced' hfits.le_bind (hfits.lt_edge hne)
      (hfits'.lt_bind hop rfl) (hfits'.lt_edge hne)).wrap l
  | @after l op x hop hx ih =>
    obtain ⟨bind, edge, hplaced, hfits⟩ := legible_placed ih op false
    have hne : op.fixity ≠ .before := by
      rw [hop]
      nofun
    have hedge : edgeOf k (.operation l op [x]) =
        if l.parenthesized then 51 + k else strength k op + 1 := by
      simp [edgeOf, hop]
    rw [toSql_after l hop, hedge]
    exact (hplaced.after hop hfits.le_bind (hfits.lt_edge hne)).wrap l

/-- What is read from the text of a tree of operators is the tree, up to what is noted on its nodes,
wherever concatenation stands among the levels. -/
theorem read_toSql {n : Node} (h : n.IsOperatorTree) (k : Nat) : read k n.toSql = some n.bare := by
  obtain ⟨⟨tokens, hspells, hreads⟩, -⟩ := legible_toSql (k := k) h
  have htokens := Sql.tokens?_of_splits hspells.splits
  have hread : readAt k (tokens.length + 1) 0 (tokens ++ []) = some (n.bare, []) :=
    hreads.alone (Nat.zero_le _) (Nat.zero_le _) stops_nil (by simp)
  rw [List.append_nil] at hread
  simp only [read, htokens, hread, Option.bind_some, List.isEmpty_nil, if_true]

/-- The text `- -t.x - (2 - 3)`. -/
theorem read_signsAndDifference :
    read 40 (Node.operation {} .minus
      [.operation {} .negate [.operation {} .negate [.column {} ["t"] "x"]],
        .operation {} .minus [.constant {} (.integer 2), .constant {} (.integer 3)]]).toSql =
      some (.operation {} .minus
        [.operation {} .negate [.operation {} .negate [.column {} ["t"] "x"]],
          .operation {} .minus [.constant {} (.integer 2), .constant {} (.integer 3)]]) :=
  read_toSql (.between {} rfl (.before {} rfl (.before {} rfl (.column {} (by decide))))
    (.between {} rfl (.number {} 2) (.number {} 3))) 40

end Climbing

end SqlNormal
