import SqlNormal.Proofs.ExactNumbers
import SqlNormal.Proofs.Rereading

/-!
# Constants and columns that are read again

The leaves of a node are written as literals, as words and as paths of names. A literal is read
again with the value it denotes. A path is read again unless its first name is a word that means
something else.

* `Node.Rereads.of_begins`: a text that is read as a whole operand;
* `Node.rereads_constant`, `rereads_string`, `rereads_temporal`, `rereads_interval` and so on:
  constants;
* `takenNames`, **`Node.rereads_column`**: columns.
-/

namespace SqlNormal

open Sql (Token Spells AfterOperand isWord spells_plainWord)
open Sql.Reader (Begins plainWord takenWords)
open Climbing (FollowsSign)

variable {env : Environment}

namespace Node

/-! ## Whole operands -/

/-- A node whose text is read as a whole operand, whatever goes on behind it. -/
theorem Rereads.of_begins {n : Node} (hopen : n.labels.parenthesized = false)
    (hoperator : n.operator? = none) {tokens : List Token} {t : Tree} (hsign : FollowsSign n.toSql)
    (hspells : Spells AfterOperand n.toSql.toList tokens) (hbegins : Begins tokens t closedLevel)
    (hheight : t.height ≤ n.levels) (hyields : env.Yields t (·.Echoes n)) : n.Rereads env := by
  have hlevels : n.bindLevel = closedLevel ∧ n.edgeLevel = closedLevel := by
    simp [bindLevel, edgeLevel, hopen, hoperator]
  rw [Node.Rereads, hlevels.1, hlevels.2]
  exact ⟨hsign, tokens, t, hspells, hbegins.phrase, hheight, hyields⟩

/-! ## Constants -/

section Constants

variable {l l' : Labels} {v v' : Value} (hl : l.parenthesized = false)

theorem echoes_constant (hlabels : l'.parenthesized = l.parenthesized) (h : v'.toSql = v.toSql) :
    (constant l' v').Echoes (constant l v) where
  toSql := by rw [toSql, toSql, wrap, wrap, hlabels, h]
  references := by rw [references_constant, references_constant]
  parenthesized := hlabels
  operator := rfl
  own := rfl

variable (hstd : env.collaborators = .standard)
include hl hstd

/-- A constant whose text is a literal of a value with the same text. -/
theorem rereads_constant {literal : Literal} {tokens : List Token}
    (hsign : FollowsSign v.toSql) (hspells : Spells AfterOperand v.toSql.toList tokens)
    (hbegins : Begins tokens (.literal literal) closedLevel)
    (hliteral : env.literal literal = .ok (constant l' v')) (hlabels : l'.parenthesized = false)
    (h : v'.toSql = v.toSql) : (constant l v).Rereads env := by
  have htext : (constant l v).toSql = v.toSql := by
    rw [toSql, wrap, hl]
    rfl
  refine .of_begins hl rfl ?_ ?_ hbegins ?_ ?_
  · rwa [htext]
  · rwa [htext]
  · simp [Tree.height, levels, Labels.levels, hl]
  · exact .of_step hstd fun d _ =>
      ⟨_, .literal hliteral, echoes_constant (hlabels.trans hl.symm) h⟩

theorem rereads_string (s : String) : (constant l (.varchar s)).Rereads env :=
  rereads_constant hl hstd (Climbing.followsSign_quoteString s) (Sql.spells_string s)
    (Sql.Reader.begins_string s) rfl rfl rfl

/-- A constant that is a word. -/
theorem rereads_word {literal : Literal} (hword : isWord v.toSql)
    (hbegins : Begins [plainWord v.toSql] (.literal literal) closedLevel)
    (hliteral : env.literal literal = .ok (.ofValue v)) : (constant l v).Rereads env := by
  have hsign := Sql.followsSign_word hword ""
  rw [String.append_empty] at hsign
  exact rereads_constant hl hstd hsign
    ((spells_plainWord hword).mono fun _ => AfterOperand.afterName) hbegins hliteral rfl rfl

theorem rereads_boolean (b : Bool) : (constant l (.boolean b)).Rereads env := by
  cases b with
  | true => exact rereads_word hl hstd (by decide) Sql.Reader.begins_true rfl
  | false => exact rereads_word hl hstd (by decide) Sql.Reader.begins_false rfl

theorem rereads_null : (constant l .null).Rereads env :=
  rereads_word hl hstd (by decide) Sql.Reader.begins_null rfl

omit hl hstd in
/-- A word and a string behind it. -/
theorem spells_typed {word : String} (h : isWord word) (text : List Char) :
    Spells AfterOperand (Value.typed word text).toList
      [plainWord word, .string (String.ofList text)] := by
  have hlist : (Value.typed word text).toList =
      word.toList ++ (' ' :: (Text.quoteString (String.ofList text)).toList) := by
    simp [Value.typed]
  rw [hlist]
  exact (spells_plainWord h).append (Sql.spells_behind (Sql.spells_string _))
    fun _ _ => Sql.afterName_blank _

omit hl hstd in
theorem followsSign_typed {word : String} (h : isWord word) (text : List Char) :
    FollowsSign (Value.typed word text) := by
  rw [Value.typed, String.append_assoc]
  exact Sql.followsSign_word h _

theorem rereads_interval (text : String) : (constant l (.interval text)).Rereads env := by
  have hspells : Spells AfterOperand (Value.interval text).toSql.toList
      [plainWord "INTERVAL", .string text] := by
    have h := @spells_typed "INTERVAL" (by decide) text.toList
    rwa [String.ofList_toList] at h
  exact rereads_constant hl hstd (followsSign_typed (by decide) _) hspells
    (Sql.Reader.begins_interval text) rfl rfl rfl

/-- A date, a time or a timestamp. -/
theorem rereads_temporal {typeName text : String} (hword : Text.upper typeName ∈ temporalWords)
    (hv : (Literal.typed typeName text).value? = some v) : (constant l v).Rereads env := by
  obtain ⟨literal, htext, hvalue⟩ := Literal.value?_toSql hword hv
  have hisWord : ∀ word ∈ temporalWords, isWord word := by decide
  have hupper := upper_of_mem hword
  have hliteral : env.literal (.typed (Text.upper typeName) (String.ofList literal)) = .ok _ :=
    (typedLiteral_eq_ok (by rwa [hupper])).mpr ⟨v, hvalue, rfl⟩
  refine rereads_constant hl hstd ?_ ?_ (Sql.Reader.begins_typed hword (String.ofList literal))
    hliteral rfl rfl
  · rw [htext]
    exact followsSign_typed (hisWord _ hword) _
  · rw [htext]
    exact spells_typed (hisWord _ hword) _

end Constants

/-! ## Columns -/

/-- The names that are not read as such at the beginning of a path. -/
def takenNames : List String :=
  takenWords.map Text.lower

theorem keyword_not_taken {name : String} (h : name ∉ takenNames) :
    Token.keyword (.word (Sql.identOf name)) ∉ takenWords := by
  have hempty : "" ∉ takenWords := by decide
  intro hmem
  rcases Sql.keyword_identOf name with hnone | ⟨-, hname⟩
  · exact hempty (hnone ▸ hmem)
  · exact h (hname ▸ List.mem_map_of_mem hmem)

theorem columnOf_identOf (hstd : env.collaborators = .standard) (qualifier : List String)
    (name : String) : env.columnOf ((qualifier ++ [name]).map Sql.identOf) = .ok (.column
      { rawText := Text.tokenText [.token (Ident.path ((qualifier ++ [name]).map Sql.identOf))] }
      qualifier name) := by
  have hfolded (names : List String) : (names.map Sql.identOf).map Ident.folded = names := by
    rw [List.map_map]
    exact (List.map_congr_left fun name _ => Sql.folded_identOf name).trans (List.map_id _)
  rw [Environment.columnOf, List.map_append, List.map_singleton, List.getLast?_concat,
    List.dropLast_concat, hstd]
  show Except.ok (Node.column _ ((qualifier.map Sql.identOf).map Ident.folded) _) = _
  rw [hfolded]
  exact congrArg (fun own => Except.ok (Node.column _ qualifier own)) (Sql.folded_identOf name)

/-- **A column is read again** unless its path begins with a word that means something else. -/
theorem rereads_column {l : Labels} (hl : l.parenthesized = false)
    (hstd : env.collaborators = .standard) {qualifier : List String} {name : String}
    (h : ∀ first ∈ (qualifier ++ [name]).head?, first ∉ takenNames) :
    (column l qualifier name).Rereads env := by
  obtain ⟨first, names, hnames⟩ := List.exists_cons_of_ne_nil (List.concat_ne_nil name qualifier)
  have hcolumn := columnOf_identOf hstd qualifier name
  have htext : (column l qualifier name).toSql = Text.dotted (first :: names) := by
    rw [toSql, wrap, hl, hnames]
    rfl
  rw [hnames] at h hcolumn
  refine .of_begins hl rfl (t := .identifier ((first :: names).map Sql.identOf)) ?_ ?_
    (Sql.Reader.begins_path (keyword_not_taken (h first rfl))) ?_ ?_
  · rw [htext]
    exact Climbing.followsSign_dotted first names
  · rw [htext]
    exact (Sql.spells_dotted (List.cons_ne_nil _ _)).mono fun _ => AfterOperand.afterName
  · simp [Tree.height, levels, Labels.levels, hl]
  · refine .of_step hstd fun d _ => ⟨_, .identifier hcolumn, ?_, ?_, hl.symm, rfl, rfl⟩
    · rw [toSql, toSql, wrap, wrap, hl]
    · rw [references_column, references_column]

end Node

end SqlNormal
