import Mathlib
import SqlNormal.Proofs.Calendar
import SqlNormal.Proofs.Reading
import SqlNormal.Proofs.Room
import SqlNormal.Proofs.Splitting
import SqlNormal.Proofs.Trace

/-!
# Typed literals that are read back

The literal of a date, a time or a timestamp is a type word and a quoted text. The text is that of
the value, and its type word is the one that the value was read with, in upper case.

* `Sql.Reader.whole_temporal`: a type word and a string behind it, as an expression;
* `Literal.Denotes`: the values of literals of those types; `Literal.Denotes.again`;
* **`Environment.typedLiteral_toSql`**: they are read back from their literals.
-/

namespace SqlNormal

/-- The types whose literals are dates and times. -/
def temporalWords : List String :=
  ["DATE", "TIME", "TIMESTAMP"]

theorem mem_temporalWords {word : String} :
    word ∈ temporalWords ↔ word = "DATE" ∨ word = "TIME" ∨ word = "TIMESTAMP" := by
  simp [temporalWords]

/-! ## Tokens and expressions -/

namespace Sql

/-- The tokens of a literal of a type. -/
theorem tokens?_typed {word : String} (h : word ∈ temporalWords) (literal : List Char) :
    tokens? (Value.typed word literal) =
      some [.word ⟨word, none⟩, .string (String.ofList literal)] := by
  have hword : Spells AfterName word.toList [.word ⟨word, none⟩] := by
    rcases mem_temporalWords.mp h with rfl | rfl | rfl
    · exact spells_word (c := 'D') (by decide) (by decide)
    · exact spells_word (c := 'T') (by decide) (by decide)
    · exact spells_word (c := 'T') (by decide) (by decide)
  have hquoted := spells_blank.append (spells_string (String.ofList literal)) fun _ _ => trivial
  have hall := hword.append hquoted fun rest _ => by
    rintro _ ⟨⟩
    decide
  have htext : (Value.typed word literal).toList =
      word.toList ++ ([' '] ++ (Text.quoteString (String.ofList literal)).toList) := by
    simp [Value.typed]
  rw [← htext] at hall
  exact tokens?_of_splits hall.splits

namespace Reader

variable {word literal : String} (start start' : Location)

theorem dataType_temporal (h : word ∈ temporalWords) :
    dataType [⟨.word ⟨word, none⟩, start⟩, ⟨.string literal, start'⟩] =
      .ok (⟨word, .temporal⟩, [⟨.string literal, start'⟩]) := by
  rcases mem_temporalWords.mp h with rfl | rfl | rfl
  · rfl
  · rfl
  · rfl

/-- A type word and a string are a whole expression. -/
theorem whole_temporal (budget : Nat) (h : word ∈ temporalWords) :
    (rules (budget + 1)).whole [⟨.word ⟨word, none⟩, start⟩, ⟨.string literal, start'⟩] =
      .ok (.typed ⟨word, .temporal⟩ literal, []) := by
  have htyped (inner : Reader Expr) :
      typedString inner [⟨.word ⟨word, none⟩, start⟩, ⟨.string literal, start'⟩] =
        .ok (.typed ⟨word, .temporal⟩ literal, []) := by
    rw [typedString, run_bind, dataType_temporal start start' h]
    rfl
  have hbeginning : beginning (rules budget)
      [⟨.word ⟨word, none⟩, start⟩, ⟨.string literal, start'⟩] =
        .ok (.typed ⟨word, .temporal⟩ literal, []) := by
    show prefixOf (rules budget) _ _ = _
    simp only [prefixOf, run_bind, attempt, htyped, ok_bind]
    rfl
  show exprOf (rules budget) _ 0 _ = _
  simp only [exprOf, run_bind, hbeginning, ok_bind, run_get]
  rfl

end Reader

end Sql

open Sql

/-- The tree of a literal of a type. -/
theorem Tree.ofText_typed {maxDepth : Nat} (hroom : HasRoom maxDepth) {word : String}
    (h : word ∈ temporalWords) (literal : List Char) :
    ofText maxDepth (Value.typed word literal) =
      .ok (.literal (.typed word (String.ofList literal))) := by
  obtain ⟨budget, hb⟩ : ∃ n, readingBudget maxDepth = n + 1 :=
    ⟨maxDepth + (queryAllowance - 1), rfl⟩
  obtain ⟨lexemes, hlexemes, htokens⟩ := Option.map_eq_some_iff.mp (tokens?_typed h literal)
  match lexemes, htokens with
  | [⟨_, a⟩, ⟨_, b⟩], rfl =>
    have hread : readWithin maxDepth (fun budget => readExpr budget (Value.typed word literal)) =
        .ok (.typed ⟨word, .temporal⟩ (String.ofList literal), []) := by
      refine readWithin_eq_ok.mpr ⟨hroom, ?_⟩
      rw [hb, readExpr, readText, hlexemes]
      exact Reader.whole_temporal a b budget h
    rw [ofText, hread]
    rfl

/-! ## Values -/

variable {env : Environment} {typeName text : String}

theorem upper_of_mem {word : String} (h : word ∈ temporalWords) : Text.upper word = word := by
  rcases mem_temporalWords.mp h with rfl | rfl | rfl <;> decide

theorem typedLiteral_eq_ok (hword : Text.upper typeName ∈ temporalWords) {n : Node} :
    env.typedLiteral typeName text = .ok n ↔
      ∃ v, (Literal.typed typeName text).value? = some v ∧ n = .constant
        { rawText := Text.tokenText [.token typeName, .token (Text.quoteString text)] } v := by
  have hread {α : Type} (make : α → Value) (read : Except TemporalFault α) (labels : Labels) :
      (do return Node.constant labels (← Environment.temporal typeName text make read)) = .ok n ↔
        ∃ v, read.toOption.map make = some v ∧ n = .constant labels v :=
    bind_eq_ok.trans <| exists_congr fun _ =>
      and_congr temporal_eq_ok (pure_eq_ok.trans eq_comm)
  unfold Environment.typedLiteral
  dsimp only [Literal.value?]
  rcases mem_temporalWords.mp hword with h | h | h <;> rw [h]
  · exact hread .date _ _
  · exact hread .time _ _
  · exact hread .timestamp _ _

/-- **The value of a literal is read back** behind the same type word. -/
theorem Literal.value?_toSql (hword : Text.upper typeName ∈ temporalWords) {v : Value}
    (h : (typed typeName text).value? = some v) : ∃ literal : List Char,
      v.toSql = Value.typed (Text.upper typeName) literal ∧
        (typed (Text.upper typeName) (String.ofList literal)).value? = some v := by
  dsimp only [Literal.value?] at h ⊢
  simp only [String.toList_ofList]
  rw [upper_of_mem hword]
  rcases mem_temporalWords.mp hword with hw | hw | hw <;> rw [hw] at h ⊢
  · obtain ⟨d, -, rfl⟩ := Option.map_eq_some_iff.mp h
    refine ⟨d.text, rfl, ?_⟩
    rw [d.read_text]
    rfl
  · obtain ⟨t, -, rfl⟩ := Option.map_eq_some_iff.mp h
    refine ⟨t.text, rfl, ?_⟩
    rw [t.read_text]
    rfl
  · obtain ⟨t, -, rfl⟩ := Option.map_eq_some_iff.mp h
    refine ⟨t.text ' ', rfl, ?_⟩
    rw [t.read_text]
    rfl

theorem tokenText_typed {word : String} (h : word ∈ temporalWords) (literal : List Char) :
    Text.tokenText [.token word, .token (Text.quoteString (String.ofList literal))] =
      Value.typed word literal := by
  have hquote : (Text.quoteString (String.ofList literal)).toList =
      Text.apostrophe :: (Text.double Text.apostrophe literal ++ [Text.apostrophe]) := by
    simp [Text.quoteString, Text.quoteWith]
  have hblank : Text.appendPieces []
      [.token word, .token (Text.quoteString (String.ofList literal))] =
        word.toList ++ ' ' :: (Text.quoteString (String.ofList literal)).toList := by
    simp only [Text.appendPieces, List.foldl_cons, List.foldl_nil, Text.Piece.append, hquote]
    rcases mem_temporalWords.mp h with rfl | rfl | rfl
    · rfl
    · rfl
    · rfl
  rw [Text.tokenText, hblank]
  exact String.toList_inj.mp (by simp [Value.typed])

/-- **Typed literals are read back.** A date, a time or a timestamp is written as its type word, in
upper case, and a quoted text; read again as a literal of that type, and as an expression, it is the
same value. -/
theorem Environment.typedLiteral_toSql (env : Environment) (typeName text : String)
    (hword : Text.upper typeName ∈ temporalWords) (n : Node)
    (h : env.typedLiteral typeName text = .ok n) : ∃ labels v literal, n = .constant labels v ∧
      tokens? v.toSql = some [.word ⟨Text.upper typeName, none⟩, .string literal] ∧
      env.typedLiteral (Text.upper typeName) literal = .ok (.constant { rawText := v.toSql } v) ∧
      (HasRoom env.config.maxDepth →
        env.normalizeExpression v.toSql = .ok (.constant { rawText := v.toSql } v)) := by
  obtain ⟨v, hv, rfl⟩ := (typedLiteral_eq_ok hword).mp h
  obtain ⟨literal, htext, hback⟩ := Literal.value?_toSql hword hv
  have hagain : env.typedLiteral (Text.upper typeName) (String.ofList literal) =
      .ok (.constant { rawText := v.toSql } v) := by
    rw [htext, ← tokenText_typed hword]
    exact (typedLiteral_eq_ok ((upper_of_mem hword).symm ▸ hword)).mpr ⟨v, hback, rfl⟩
  refine ⟨_, v, String.ofList literal, rfl, ?_, hagain, fun hroom => ?_⟩
  · rw [htext]
    exact tokens?_typed hword literal
  · have hread := Tree.ofText_typed hroom hword literal
    rw [← htext] at hread
    refine bind_eq_ok.mpr ⟨_, hread, answering_eq_ok.mpr ?_⟩
    rw [bind, lower]
    exact hagain

/-- The last second of a long year, in the form with a `T`. -/
theorem Environment.typedLiteral_toSql_leapSecond :
    let env : Environment := {}
    let v := Value.timestamp
      ⟨⟨-44, 12, 31, by decide⟩, ⟨23, 59, 60, 120000000, by decide, by decide, by decide, by decide⟩⟩
    (Text.upper "timestamp" ∈ temporalWords ∧ ∃ labels,
      env.typedLiteral "timestamp" "-44-12-31T23:59:60.12" = .ok (.constant labels v)) ∧
      v.toSql = "TIMESTAMP '-0044-12-31 23:59:60.120'" ∧
      env.normalizeExpression "TIMESTAMP '-0044-12-31 23:59:60.120'" =
        .ok (.constant { rawText := "TIMESTAMP '-0044-12-31 23:59:60.120'" } v) := by
  intro env v
  have hword : Text.upper "timestamp" ∈ temporalWords := by decide
  have hvalue : (Literal.typed "timestamp" "-44-12-31T23:59:60.12").value? = some v := by
    decide +kernel
  have hread := (@typedLiteral_eq_ok env _ _ hword _).mpr ⟨v, hvalue, rfl⟩
  have htext : v.toSql = "TIMESTAMP '-0044-12-31 23:59:60.120'" := by decide +kernel
  obtain ⟨labels, v', literal, hnode, -, -, hback⟩ :=
    env.typedLiteral_toSql "timestamp" "-44-12-31T23:59:60.12" hword _ hread
  obtain ⟨-, rfl⟩ := Node.constant.inj hnode
  refine ⟨⟨hword, _, hread⟩, htext, ?_⟩
  rw [← htext]
  exact hback (by decide)

end SqlNormal
