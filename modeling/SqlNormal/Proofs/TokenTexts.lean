import SqlNormal.Proofs.Catalog
import SqlNormal.Proofs.Induction

/-!
# Texts written piece by piece

Whether a blank stands between two pieces depends on the last character that was written and on the
next one alone. So pieces that are written for themselves and then put behind a text read as if they
had been written there, and the text of a node is that of all pieces of its tree in a row.

* `Text.appendPieces_append`: pieces behind a text that is not empty;
* `Text.appendToken_appendPieces`: the text of pieces as one token;
* `Text.InPlace`: pieces some of which are finished texts, and the same with those written in place;
* `Environment.pieces`: the pieces of a tree, with those of its parts in their places;
* **`inPlace_lower`**: the text of a node is that of the pieces of its tree;
* **`finished_in_place`**: finished texts, of pieces and of nodes.
-/

namespace SqlNormal

namespace Text

variable {text ts token : List Char} {pieces : List Piece}

/-- The piece has a name, if it opens a call. -/
def Piece.Named : Piece → Prop
  | .token _ => True
  | .opening name => name ≠ ""

/-- Pieces with names. -/
def AllNamed (pieces : List Piece) : Prop :=
  ∀ p ∈ pieces, p.Named

/-! ## Behind a text -/

theorem needsBlank_append (front : List Char) (hts : ts ≠ []) (token : List Char) :
    needsBlank (front ++ ts) token = needsBlank ts token := by
  have hlast : (front ++ ts).getLast? = ts.getLast? := List.getLast?_append_of_ne_nil front hts
  have hempty : (front ++ ts).isEmpty = ts.isEmpty := by
    cases ts with
    | nil => exact absurd rfl hts
    | cons c cs => simp
  simp only [needsBlank, endsOpen, hlast, hempty]

theorem appendToken_append (front : List Char) (hts : ts ≠ []) (token : List Char) :
    appendToken (front ++ ts) token = front ++ appendToken ts token := by
  unfold appendToken
  rw [needsBlank_append front hts]
  split_ifs <;> simp

theorem appendToken_ne_nil (hts : ts ≠ []) (token : List Char) : appendToken ts token ≠ [] := by
  unfold appendToken
  split_ifs <;> simp [hts]

theorem Piece.append_append (front : List Char) (hts : ts ≠ []) (p : Piece) :
    p.append (front ++ ts) = front ++ p.append ts := by
  cases p with
  | token t => exact appendToken_append front hts _
  | opening name => simp only [append, appendToken_append front hts, List.append_assoc]

/-- Pieces are written behind a text as they are behind a part of it that is not empty. -/
theorem appendPieces_append (front : List Char) (hts : ts ≠ []) (pieces : List Piece) :
    appendPieces (front ++ ts) pieces = front ++ appendPieces ts pieces := by
  induction pieces generalizing ts with
  | nil => rfl
  | cons p pieces ih =>
    have hp : p.append ts ≠ [] := by
      cases p with
      | token t => exact appendToken_ne_nil hts _
      | opening name => simp [Piece.append]
    show appendPieces (p.append (front ++ ts)) pieces = front ++ appendPieces (p.append ts) pieces
    rw [Piece.append_append front hts, ih hp]

theorem prefix_appendPieces (text : List Char) (pieces : List Piece) :
    text <+: appendPieces text pieces := by
  induction pieces generalizing text with
  | nil => exact List.prefix_rfl
  | cons p pieces ih =>
    have htoken (t : List Char) : text <+: appendToken text t := by
      unfold appendToken
      split_ifs <;> simp
    have hp : text <+: p.append text := by
      cases p with
      | token t => exact htoken _
      | opening name => exact (htoken _).trans (List.prefix_append _ _)
    exact hp.trans (ih _)

/-! ## Pieces as one token -/

theorem appendToken_nil (token : List Char) : appendToken [] token = token := by
  cases token <;> simp [appendToken, needsBlank]

/-- A blank in front of a token depends on where it begins. -/
theorem appendToken_of_prefix (htoken : token ≠ []) (h : token <+: ts) (text : List Char) :
    ∃ front, appendToken text token = front ++ token ∧ appendToken text ts = front ++ ts := by
  obtain ⟨c, cs, rfl⟩ := List.exists_cons_of_ne_nil htoken
  obtain ⟨rest, rfl⟩ := h
  have hsame : needsBlank text (c :: cs ++ rest) = needsBlank text (c :: cs) := rfl
  unfold appendToken
  rw [hsame]
  cases needsBlank text (c :: cs) with
  | true => exact ⟨text ++ [' '], by simp, by simp⟩
  | false => exact ⟨text, by simp, by simp⟩

/-- What begins with a token may be written behind a text in one go. -/
theorem appendToken_appendPieces_of_ne_nil (htoken : token ≠ []) (text : List Char)
    (pieces : List Piece) : appendToken text (appendPieces token pieces) =
      appendPieces (appendToken text token) pieces := by
  obtain ⟨front, hfirst, hall⟩ :=
    appendToken_of_prefix htoken (prefix_appendPieces token pieces) text
  rw [hfirst, hall, appendPieces_append front htoken]

/-- **The text of pieces, written as one token, is what the pieces leave in its place.** -/
theorem appendToken_appendPieces (text : List Char) (h : AllNamed pieces) :
    appendToken text (appendPieces [] pieces) = appendPieces text pieces := by
  induction pieces with
  | nil => rfl
  | cons p pieces ih =>
    have hrest : AllNamed pieces := fun q hq => h q (List.mem_cons_of_mem _ hq)
    show appendToken text (appendPieces (p.append []) pieces) = appendPieces (p.append text) pieces
    cases p with
    | token t =>
      by_cases ht : t.toList = []
      · -- an empty token leaves no trace on either side
        simpa [Piece.append, appendToken, ht] using ih hrest
      · rw [Piece.append, Piece.append, appendToken_nil]
        exact appendToken_appendPieces_of_ne_nil ht text pieces
    | opening name =>
      have hnamed : name ≠ "" := h _ List.mem_cons_self
      have hname : name.toList ≠ [] := by simpa using hnamed
      have hopened : name.toList ++ ['('] ≠ [] := by simp
      obtain ⟨front, hfirst, hall⟩ :=
        appendToken_of_prefix hname (List.prefix_append _ ['(']) text
      rw [Piece.append, Piece.append, appendToken_nil,
        appendToken_appendPieces_of_ne_nil hopened, hfirst, hall, List.append_assoc]

/-! ## Finished texts among pieces -/

/-- The pieces leave the same text as others behind every text, and the others have names. -/
structure InPlace (pieces others : List Piece) : Prop where
  text (text : List Char) : appendPieces text pieces = appendPieces text others
  named : AllNamed others

namespace InPlace

variable {others pieces' others' : List Piece}

theorem of_named (h : AllNamed pieces) : InPlace pieces pieces :=
  ⟨fun _ => rfl, h⟩

theorem single (s : String) : InPlace [.token s] [.token s] :=
  of_named (List.forall_mem_singleton.mpr trivial)

theorem nil : InPlace [] [] :=
  of_named (List.forall_mem_nil _)

theorem append (h : InPlace pieces others) (h' : InPlace pieces' others') :
    InPlace (pieces ++ pieces') (others ++ others') where
  text text := by
    have hfront : pieces.foldl Piece.append text = others.foldl Piece.append text := h.text text
    unfold appendPieces
    rw [List.foldl_append, List.foldl_append, hfront]
    exact h'.text _
  named p hp := (List.mem_append.mp hp).elim (h.named p) (h'.named p)

theorem cons_token (s : String) (h : InPlace pieces others) :
    InPlace (.token s :: pieces) (.token s :: others) :=
  (single s).append h

theorem cons_opening {name : String} (hname : name ≠ "") (h : InPlace pieces others) :
    InPlace (.opening name :: pieces) (.opening name :: others) := by
  have hopening : AllNamed [.opening name] := List.forall_mem_singleton.mpr hname
  exact (of_named hopening).append h

/-- The finished text of pieces is as good as the pieces. -/
theorem finish (h : InPlace pieces others) : InPlace [.token (tokenText pieces)] others where
  text text := by
    have hpieces : tokenText pieces = tokenText others := congrArg String.ofList (h.text [])
    rw [hpieces, ← appendToken_appendPieces text h.named]
    simp [appendPieces, Piece.append, tokenText]
  named := h.named

theorem eq_tokenText {s : String} (h : InPlace [.token s] others) : s = tokenText others := by
  have hs : tokenText [.token s] = s := by simp [tokenText, appendPieces, Piece.append,
    appendToken_nil]
  rw [← hs]
  exact congrArg String.ofList (h.text [])

end InPlace

end Text

open Text (Piece tokenText appendPieces appendToken AllNamed InPlace)

/-! ## Pieces of a tree -/

/-- The pieces of a literal. -/
def Literal.pieces : Literal → List Piece
  | number text => [.token text]
  | string s => [.token (Value.varchar s).toSql]
  | boolean b => [.token (Value.boolean b).toSql]
  | null => [.token Value.null.toSql]
  | interval text => [.token (Value.interval text).toSql]
  | typed typeName text => [.token typeName, .token (Text.quoteString text)]

/-- The pieces of a call, with those of its arguments in their places. -/
def placedCall (keyword : String) (quantifier : Option SetQuantifier) (separator : String)
    (arguments : List (List Piece)) : List Piece :=
  Piece.opening keyword :: (quantifier.toList.map fun q => Piece.token q.text) ++
    (if Text.contains separator "," then arguments.intersperse [.token ","]
      else arguments).flatten ++ [.token ")"]

/-- The pieces of an optional clause. -/
def placedClause (word : String) (argument : List (List Piece)) : List (List Piece) :=
  argument.flatMap fun ps => [[.token word], ps]

namespace Environment

/-- The pieces of a call of a keyword form, or of one that shares its name. -/
def placedForm (env : Environment) (keyword : String) (keywordForm : Bool)
    (arguments : List (List Piece)) : List Piece :=
  placedCall keyword none
    (if keywordForm then env.config.keywordSeparator else env.config.separator) arguments

/-- The pieces of a tree in a row. Only a sign is written together with its operand. -/
def pieces (env : Environment) : Tree → List Piece
  | .literal l => l.pieces
  | .identifier parts => [.token (Ident.path parts)]
  | .nested inner => .token "(" :: pieces env inner ++ [.token ")"]
  | .binary left op right => pieces env left ++ .token op.text :: pieces env right
  | .unary op operand =>
    if op = .not then .token op.text :: pieces env operand
    else [.token (signed op (tokenText (pieces env operand)))]
  | .isNull operand negated =>
    pieces env operand ++ [.token (if negated then Operator.isNotNull else .isNull).text]
  | .call spelling args =>
    if spelling.parenthesized then
      placedCall spelling.keyword spelling.quantifier env.config.separator (piecesList args)
    else [.token spelling.keyword]
  | .countStar keyword => [.opening keyword, .token "*", .token ")"]
  | .case operand branches otherwise =>
    .token "CASE" :: (piecesOption operand).flatten ++ piecesBranches branches ++
      (placedClause "ELSE" (piecesOption otherwise)).flatten ++ [.token "END"]
  | .cast operand target =>
    .opening "CAST" :: pieces env operand ++ [.token "AS", .token target.text, .token ")"]
  | .trim spec characters hasFrom source =>
    let ends := spec.toList.map fun s => [Piece.token s.text]
    env.placedForm "TRIM" (hasFrom || spec.isSome)
      (if hasFrom then ends ++ piecesOption characters ++ [[.token fieldMarker], pieces env source]
        else ends ++ pieces env source :: piecesOption characters)
  | .extract fieldToken source =>
    env.placedForm "EXTRACT" true
      (((fieldOfToken fieldToken).toOption.toList.map fun field => [Piece.token field]) ++
        [[.token fieldMarker], pieces env source])
  | .substring source start length keywordForm =>
    env.placedForm "SUBSTRING" keywordForm
      (if keywordForm then pieces env source :: placedClause "FROM" (piecesOption start) ++
          placedClause "FOR" (piecesOption length)
        else pieces env source :: piecesOption start ++ piecesOption length)
  | .position needle haystack =>
    env.placedForm "POSITION" true [pieces env needle, [.token "IN"], pieces env haystack]
  | .overlay source replacement start length =>
    env.placedForm "OVERLAY" true
      ([pieces env source, [.token "PLACING"], pieces env replacement, [.token "FROM"],
        pieces env start] ++ placedClause "FOR" (piecesOption length))
  | .convert operand charset target style =>
    env.placedForm "CONVERT" charset
      (pieces env operand ::
        (if charset then [[.token "USING"], [.token target]] else [[.token target]]) ++
          piecesOption style)
termination_by structural t => t
where
  /-- The pieces of trees, a list for each of them. -/
  piecesList : List Tree → List (List Piece)
    | [] => []
    | t :: ts => pieces env t :: piecesList ts
  termination_by structural ts => ts
  /-- The pieces of a tree that may be absent. -/
  piecesOption : Option Tree → List (List Piece)
    | none => []
    | some t => [pieces env t]
  termination_by structural t => t
  /-- The pieces of the branches of a CASE. -/
  piecesBranches : List (Tree × Tree) → List Piece
    | [] => []
    | (condition, result) :: rest =>
      .token "WHEN" :: pieces env condition ++ .token "THEN" :: pieces env result ++
        piecesBranches rest
  termination_by structural bs => bs

end Environment

/-! ## Texts of calls -/

/-- The text of the node is that of the pieces. -/
def Node.Reads (n : Node) (ps : List Piece) : Prop :=
  InPlace [.token n.rawText] ps

theorem Node.reads_keyword (word : String) : (Node.keyword word).Reads [.token word] :=
  InPlace.single word

section Calls

variable {ns : List Node} {pss : List (List Piece)}

theorem inPlace_flatten (h : List.Forall₂ Node.Reads ns pss) :
    InPlace (ns.map fun n => Piece.token n.rawText) pss.flatten := by
  induction h with
  | nil => exact .nil
  | cons h _ ih => exact InPlace.append h ih

theorem inPlace_intersperse (h : List.Forall₂ Node.Reads ns pss) :
    InPlace ((ns.map fun n => Piece.token n.rawText).intersperse (.token ","))
      (pss.intersperse [.token ","]).flatten := by
  induction h with
  | nil => exact .nil
  | @cons n ps ns pss h hrest ih =>
    cases hrest with
    | nil => exact InPlace.append h .nil
    | cons h' hrest => exact InPlace.append h (ih.cons_token ",")

/-- A call with its arguments in their places. -/
theorem reads_callOf {head : CallHead} {keyword : String} (hname : keyword ≠ "")
    (quantifier : Option SetQuantifier) (h : List.Forall₂ Node.Reads ns pss) :
    (callOf head keyword quantifier ns).Reads
      (placedCall keyword quantifier head.separator pss) := by
  have hquantifier : InPlace (quantifier.toList.map fun q => Piece.token q.text)
      (quantifier.toList.map fun q => Piece.token q.text) :=
    .of_named (by simp [AllNamed, Piece.Named])
  refine InPlace.finish (InPlace.append ?_ (.single ")"))
  refine ((InPlace.nil.cons_opening hname).append hquantifier).append ?_
  split_ifs
  · exact inPlace_intersperse h
  · exact inPlace_flatten h

end Calls

/-! ## Lowering -/

section Steps

variable {env : Environment} {d : Nat} {P : Nat → Tree → Node → Prop}

/-- The text of the node is that of the pieces of the tree. -/
def Environment.Written (env : Environment) (t : Tree) (n : Node) : Prop :=
  n.Reads (env.pieces t)

theorem keyword_ne_empty {keyword : String} {shape : CallShape} {entry : CatalogEntry}
    (h : resolve keyword shape = .ok entry) : keyword ≠ "" := by
  rintro rfl
  rw [resolve_of_no_rule (by decide +kernel)] at h
  cases h

theorem reads_list {ts : List Tree} {ns : List Node}
    (h : List.Forall₂ (env.Part (fun _ => env.Written) d) ts ns) :
    List.Forall₂ Node.Reads ns (Environment.pieces.piecesList env ts) := by
  induction h with
  | nil => exact .nil
  | cons h _ ih => exact .cons h.2 ih

theorem reads_option {t : Option Tree} {n : Option Node}
    (h : Option.Rel (env.Part (fun _ => env.Written) d) t n) :
    List.Forall₂ Node.Reads n.toList (Environment.pieces.piecesOption env t) := by
  cases h with
  | none => exact .nil
  | some h => exact .cons h.2 .nil

theorem reads_clause (word : String) {n : Option Node} {pss : List (List Piece)}
    (h : List.Forall₂ Node.Reads n.toList pss) :
    List.Forall₂ Node.Reads (clause word n) (placedClause word pss) := by
  cases n with
  | none =>
    cases h
    exact .nil
  | some n =>
    obtain ⟨ps, rest, hn, hrest, rfl⟩ := List.forall₂_cons_left_iff.mp h
    cases hrest
    exact .cons (Node.reads_keyword word) (.cons hn .nil)

theorem reads_ends (spec : Option TrimSpec) :
    List.Forall₂ Node.Reads (spec.toList.map fun s => Node.keyword s.text)
      (spec.toList.map fun s => [Piece.token s.text]) := by
  cases spec with
  | none => exact .nil
  | some s => exact .cons (Node.reads_keyword s.text) .nil

/-- The condition of a branch is noted as it was written, whatever the predicate is. -/
theorem inPlace_branches {tested : Option Node} {bs : List (Tree × Tree)} {cs : List CaseBranch}
    (h : List.Forall₂ (env.BranchOf (fun _ => env.Written) d tested) bs cs) :
    InPlace (cs.flatMap fun b =>
        [.token "WHEN", .token b.condition, .token "THEN", .token b.result.rawText])
      (Environment.pieces.piecesBranches env bs) := by
  induction h with
  | nil => exact .nil
  | @cons b c bs cs h _ ih =>
    obtain ⟨v, hv, hcondition, -, hresult⟩ := h
    have hv : InPlace [.token c.condition] (env.pieces b.1) := hcondition ▸ hv.2
    have hresult : InPlace [.token c.result.rawText] (env.pieces b.2) := hresult.2
    exact ((hv.append (hresult.cons_token "THEN")).cons_token "WHEN").append ih

theorem written_form {entry : CatalogEntry} {keyword : String} {shape : CallShape} {form : Bool}
    {params : List Node} {pss : List (List Piece)} (hentry : resolve keyword shape = .ok entry)
    (h : List.Forall₂ Node.Reads params pss) :
    (env.formCall entry keyword form params).Reads (env.placedForm keyword form pss) :=
  reads_callOf (keyword_ne_empty hentry) none h

theorem written_literal {l : Literal} {n : Node} (h : env.literal l = .ok n) :
    env.Written (.literal l) n := by
  cases l with
  | number text =>
    unfold Environment.literal at h
    dsimp only at h
    split at h
    · obtain rfl := pure_eq_ok.mp h
      exact InPlace.finish (.single text)
    · cases h
  | string s | boolean b | null | interval text =>
    obtain rfl := pure_eq_ok.mp h
    exact InPlace.single _
  | typed typeName text =>
    have htyped : InPlace
        [.token (tokenText [.token typeName, .token (Text.quoteString text)])]
        [.token typeName, .token (Text.quoteString text)] :=
      InPlace.finish ((InPlace.single _).cons_token typeName)
    simp only [Environment.literal, Environment.typedLiteral] at h
    split_ifs at h <;>
    · obtain ⟨v, -, h⟩ := bind_eq_ok.mp h
      obtain rfl := pure_eq_ok.mp h
      exact htyped

theorem reads_columnOf {parts : List Ident} {n : Node} (h : env.columnOf parts = .ok n) :
    n.Reads [.token (Ident.path parts)] := by
  unfold Environment.columnOf at h
  split at h
  · cases h
  · obtain rfl := pure_eq_ok.mp h
    exact InPlace.finish (.single _)

/-- **A step of lowering** writes the texts of parts where their pieces stand. -/
theorem written_step {t : Tree} {n : Node} (h : env.Step (fun _ => env.Written) d t n) :
    env.Written t n := by
  cases h with
  | literal h => exact written_literal h
  | @identifier parts n h => exact reads_columnOf h
  | @nested t n h =>
    have htext (text : String) : (n.inParens.withText text).rawText = text := by
      cases n <;> rfl
    rw [Environment.Written, Node.Reads, htext]
    exact InPlace.finish ((InPlace.append h.2 (.single ")")).cons_token "(")
  | binary ha hb => exact InPlace.finish (InPlace.append ha.2 (InPlace.cons_token _ hb.2))
  | @unary op t n h =>
    have htext : n.rawText = tokenText (env.pieces t) := h.2.eq_tokenText
    unfold Environment.Written Environment.pieces operationOf unaryPieces
    split_ifs
    · exact InPlace.finish (InPlace.cons_token _ h.2)
    · rw [htext]
      exact InPlace.finish (.single _)
  | isNull h => exact InPlace.finish (InPlace.append h.2 (.single _))
  | @call spelling args entry params value hentry hparams hvalue =>
    unfold Environment.Written Environment.pieces spelledCall
    split_ifs
    · exact reads_callOf (keyword_ne_empty hentry) _ (reads_list hparams)
    · exact InPlace.finish (.single _)
  | countStar hentry =>
    exact InPlace.finish
      (((InPlace.single ")").cons_token "*").cons_opening (keyword_ne_empty hentry))
  | @case operand branches otherwise tested lowered final ht hl hf =>
    refine InPlace.finish
      (InPlace.append (InPlace.append (InPlace.append ?_ ?_) ?_) (.single "END"))
    · exact (inPlace_flatten (reads_option ht)).cons_token "CASE"
    · exact inPlace_branches hl
    · have hfinal := inPlace_flatten (reads_clause "ELSE" (reads_option hf))
      cases final <;> exact hfinal
  | cast h htype =>
    exact InPlace.finish (InPlace.cons_opening (by decide)
      (InPlace.append h.2 (((InPlace.single ")").cons_token _).cons_token "AS")))
  | @trimFrom spec characters source entry set n hentry hset h =>
    have hfront := List.rel_append (reads_ends spec) (reads_option hset)
    exact written_form hentry
      (List.rel_append hfront (.cons (Node.reads_keyword _) (.cons h.2 .nil)))
  | @trimPlain spec characters source entry set n hplain hentry hset h =>
    exact written_form hentry (List.rel_append (reads_ends spec) (.cons h.2 (reads_option hset)))
  | @extract fieldToken source field entry n hfield hentry h =>
    unfold Environment.Written Environment.pieces
    rw [hfield]
    exact written_form hentry
      (.cons (Node.reads_keyword field) (.cons (Node.reads_keyword _) (.cons h.2 .nil)))
  | @substring source start length form entry n first count hguard hentry h hfirst hcount =>
    refine written_form hentry ?_
    split_ifs
    · exact .cons h.2 (List.rel_append (reads_clause _ (reads_option hfirst))
        (reads_clause _ (reads_option hcount)))
    · exact .cons h.2 (List.rel_append (reads_option hfirst) (reads_option hcount))
  | position hentry hn hm =>
    exact written_form hentry (.cons hn.2 (.cons (Node.reads_keyword _) (.cons hm.2 .nil)))
  | overlay hentry hn hr hs hl =>
    exact written_form hentry
      (.cons hn.2 (.cons (Node.reads_keyword _) (.cons hr.2 (.cons (Node.reads_keyword _)
        (.cons hs.2 (reads_clause _ (reads_option hl)))))))
  | @convert operand charset target style entry n s hguard hentry hn hs =>
    refine written_form hentry (.cons hn.2 (List.rel_append ?_ (reads_option hs)))
    split_ifs
    · exact .cons (Node.reads_keyword _) (.cons (Node.reads_keyword _) .nil)
    · exact .cons (Node.reads_keyword _) .nil

end Steps

/-- **The text of a node is that of the pieces of its tree.** -/
theorem inPlace_lower {env : Environment} (hstd : env.collaborators = .standard) {d : Nat}
    {t : Tree} {n : Node} (h : env.lower d t = .ok n) : InPlace [.token n.rawText] (env.pieces t) :=
  Environment.lower_induction (P := fun _ => env.Written) hstd (fun _ _ _ => written_step) h

/-- **Finished texts.** The text of pieces, finished and written behind a text, is what the pieces
leave when they are written there one by one. So the text of a node is that of all pieces of its
tree in a row, wherever the texts of parts were finished on the way; and behind any text it may be
written at once or piece by piece. -/
theorem finished_in_place :
    (∀ (text : List Char) (pieces : List Piece), AllNamed pieces →
      appendToken text (tokenText pieces).toList = appendPieces text pieces) ∧
    ∀ (config : Config) (session : Session) (t : Tree) (n : Node),
      ({ config := config, session := session } : Environment).bind t = .ok n →
        let pieces := ({ config := config, session := session } : Environment).pieces t
        n.rawText = tokenText pieces ∧
          ∀ text, appendToken text n.rawText.toList = appendPieces text pieces := by
  refine ⟨fun text pieces h => ?_, fun config session t n h => ?_⟩
  · rw [tokenText, String.toList_ofList, Text.appendToken_appendPieces text h]
  · have hn : InPlace [.token n.rawText]
        (({ config := config, session := session } : Environment).pieces t) := inPlace_lower rfl h
    exact ⟨hn.eq_tokenText, hn.text⟩

/-- A call with an empty token in it. -/
def callOfA : List Piece :=
  [.token "", .opening "ABS", .token "a", .token ")"]

/-- `CASE WHEN TRIM('x' FROM b) IS NULL THEN (a) END`. -/
def trimCase : Tree :=
  .case none
    [(.isNull (.trim none (some (.literal (.string "x"))) true (.identifier [⟨"b", none⟩])) false,
      .nested (.identifier [⟨"a", none⟩]))] none

/-- A parenthesis at the seam wants no blank, a name does. -/
theorem finished_in_place_trimCase :
    (AllNamed callOfA ∧ appendToken "ABS(".toList (tokenText callOfA).toList =
        appendPieces "ABS(".toList callOfA ∧
      appendPieces "ABS(".toList callOfA = "ABS(ABS(a)".toList) ∧
    ∃ n, ({} : Environment).bind trimCase = .ok n ∧
      n.rawText = tokenText (({} : Environment).pieces trimCase) ∧
      n.rawText = "CASE WHEN TRIM('x' FROM b) IS NULL THEN (a) END" := by
  have hnamed : AllNamed callOfA := by simp [AllNamed, callOfA, Piece.Named]
  exact ⟨⟨hnamed, finished_in_place.1 _ _ hnamed, by decide⟩,
    _, rfl, (finished_in_place.2 {} {} _ _ rfl).1, by decide +kernel⟩

end SqlNormal
