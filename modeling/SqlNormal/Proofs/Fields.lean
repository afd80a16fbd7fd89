import Mathlib
import SqlNormal.Proofs.Induction

/-!
# Fields of an EXTRACT

The field of an EXTRACT reaches lowering with the marker `_FROM` behind it. The marker is taken off
together with all underscores and blanks before it, those at the end of the field included.

* `bareField`: a field without underscores and blanks at its end;
* `fieldOfToken_append`, `lower_extract`: the field that is taken from a token, and the node;
* **`lower_extract_iff`**: which fields come through, and which of them fall together;
* **`not_lower_extract`**: `a_` does not come through.
-/

namespace SqlNormal

/-- A character that is taken off together with the marker. -/
def isFiller (c : Char) : Bool :=
  c == '_' || c == ' '

/-- A field without the underscores and blanks at its end. -/
def bareField (field : String) : String :=
  String.ofList (field.toList.rdropWhile isFiller)

/-! ## Tokens -/

theorem bareField_eq_empty_iff {field : String} :
    bareField field = "" ↔ ∀ c ∈ field.toList, isFiller c = true := by
  rw [bareField, ← String.toList_inj, String.toList_ofList]
  exact List.rdropWhile_eq_nil_iff

/-- A field is left as it is exactly if it does not end with an underscore or a blank. -/
theorem bareField_eq_self_iff {field : String} :
    bareField field = field ↔ ∀ c ∈ field.toList.getLast?, c ≠ '_' ∧ c ≠ ' ' := by
  rw [bareField, ← String.toList_inj, String.toList_ofList, List.rdropWhile_eq_self_iff]
  constructor
  · intro h c hc
    obtain ⟨hne, rfl⟩ := List.mem_getLast?_eq_getLast hc
    simpa [isFiller] using h hne
  · intro h hne
    simpa [isFiller] using h _ (List.getLast_mem_getLast? hne)

/-- The field of a token: what stands before the marker, unless nothing is left of it. -/
theorem fieldOfToken_append (field : String) : fieldOfToken (field ++ "_FROM") =
    if bareField field = "" then throw (.invariant (.fieldToken (field ++ "_FROM")))
    else pure (bareField field) := by
  have hbytes : takeBytes? fieldMarker.utf8ByteSize (field ++ "_FROM").toList.reverse =
      some (['M', 'O', 'R', 'F'], '_' :: field.toList.reverse) := by
    rw [String.toList_append, List.reverse_append]
    rfl
  have hword : Text.sameWord (String.ofList ['M', 'O', 'R', 'F'].reverse) fieldMarker = true := rfl
  have hfield : (('_' :: field.toList.reverse).dropWhile fun c => c == '_' || c == ' ').reverse =
      field.toList.rdropWhile isFiller := rfl
  have hempty : (field.toList.rdropWhile isFiller).isEmpty ↔ bareField field = "" := by
    rw [List.isEmpty_iff, bareField, ← String.toList_inj, String.toList_ofList]
    rfl
  simp only [fieldOfToken, hbytes, hword, hfield, hempty, Bool.true_eq_false, false_or]
  rfl

/-! ## Nodes -/

theorem Node.keyword_inj {word word' : String} (h : keyword word = keyword word') :
    word = word' := by
  unfold keyword ofValue at h
  injection h with _ hvalue
  exact Value.keyword.inj hvalue

namespace Environment

variable {env : Environment} {depth : Nat} {source : Tree} {n : Node}

/-- The node of an EXTRACT. -/
theorem lower_extract (hdepth : depth + 1 ≤ env.config.maxDepth)
    (hn : env.lower (depth + 1) source = .ok n) :
    ∃ entry, ∀ field, env.lower depth (.extract (field ++ "_FROM") source) =
      if bareField field = "" then throw (.invariant (.fieldToken (field ++ "_FROM")))
      else pure (env.formCall entry "EXTRACT" true
        [.keyword (bareField field), .keyword fieldMarker, n]) := by
  have hentry : (resolve "EXTRACT" (.ofCount 2)).isOk = true := by decide
  obtain ⟨entry, hentry⟩ := exists_of_isOk hentry
  refine ⟨entry, fun field => ?_⟩
  have hdescend : env.descend depth = .ok (depth + 1) := if_pos hdepth
  rw [lower, fieldOfToken_append]
  split_ifs with hempty
  · rfl
  · rw [hentry, hdescend]
    show (env.lower (depth + 1) source >>= _) = _
    rw [hn]
    rfl

/-- **The fields of an EXTRACT.** A field comes through exactly if it does not end with an
underscore or a blank, and two fields of which anything is left have the same node exactly if they
differ in nothing but such an end. -/
theorem lower_extract_iff (hdepth : depth + 1 ≤ env.config.maxDepth)
    (hn : env.lower (depth + 1) source = .ok n) :
    (∀ field, field ≠ "" →
      ((∃ m, env.lower depth (.extract (field ++ "_FROM") source) = .ok m ∧
        m.params = [.keyword field, .keyword fieldMarker, n]) ↔
          ∀ c ∈ field.toList.getLast?, c ≠ '_' ∧ c ≠ ' ')) ∧
      ∀ field field', bareField field ≠ "" →
        (env.lower depth (.extract (field ++ "_FROM") source) =
          env.lower depth (.extract (field' ++ "_FROM") source) ↔
            bareField field = bareField field') := by
  obtain ⟨entry, hlower⟩ := lower_extract hdepth hn
  have hparams (field : String) : (env.formCall entry "EXTRACT" true
      [.keyword (bareField field), .keyword fieldMarker, n]).params =
        [.keyword (bareField field), .keyword fieldMarker, n] := rfl
  refine ⟨fun field hne => ?_, fun field field' hbare => ?_⟩
  · rw [hlower, ← bareField_eq_self_iff]
    constructor
    · rintro ⟨m, hm, hmparams⟩
      split_ifs at hm
      rw [pure_eq_ok] at hm
      rw [← hm, hparams] at hmparams
      exact Node.keyword_inj (List.cons.inj hmparams).1
    · intro hbare
      rw [hbare, if_neg hne]
      exact ⟨_, rfl, rfl⟩
  · rw [hlower, hlower, if_neg hbare]
    constructor
    · intro h
      split_ifs at h
      · cases h
      · have hsame := congrArg Node.params (Except.ok.inj h)
        rw [hparams, hparams] at hsame
        exact Node.keyword_inj (List.cons.inj hsame).1
    · intro h
      rw [← h, if_neg hbare]

/-- The fields `iso_year`, and `a` beside `a_`, of the column `x`. -/
theorem lower_extract_isoYear :
    let x := Tree.identifier [⟨"x", none⟩]
    let n := Node.column { rawText := "x" } [] "x"
    (2 ≤ ({} : Environment).config.maxDepth ∧ ({} : Environment).lower 2 x = .ok n) ∧
      (∃ m, ({} : Environment).lower 1 (.extract ("iso_year" ++ "_FROM") x) = .ok m ∧
        m.params = [.keyword "iso_year", .keyword fieldMarker, n]) ∧
      ({} : Environment).lower 1 (.extract ("a" ++ "_FROM") x) =
        ({} : Environment).lower 1 (.extract ("a_" ++ "_FROM") x) := by
  intro x n
  have hdepth : 1 + 1 ≤ ({} : Environment).config.maxDepth := by decide
  have hn : ({} : Environment).lower (1 + 1) x = .ok n := rfl
  obtain ⟨hthrough, hsame⟩ := lower_extract_iff hdepth hn
  exact ⟨⟨hdepth, hn⟩, (hthrough "iso_year" (by decide)).mpr (by simp),
    (hsame "a" "a_" (by decide)).mpr (by decide)⟩

/-- Not every field comes through: of `a_` the underscore is lost. -/
theorem not_lower_extract :
    ¬ ∀ (field : String) (source : Tree) (n : Node), field ≠ "" →
      ({} : Environment).lower 2 source = .ok n →
      ∃ m, ({} : Environment).bind (.extract (field ++ "_FROM") source) = .ok m ∧
        m.params = [.keyword field, .keyword fieldMarker, n] := by
  intro h
  obtain ⟨m, hm, hparams⟩ := h "a_" (.identifier [⟨"x", none⟩]) _ (by decide) rfl
  have ha : ({} : Environment).bind (.extract ("a_" ++ "_FROM") (.identifier [⟨"x", none⟩])) =
      .ok (({} : Environment).formCall ⟨.extract, "EXTRACT", .scalar, .exact 2⟩ "EXTRACT" true
        [.keyword "a", .keyword fieldMarker, .column { rawText := "x" } [] "x"]) := rfl
  obtain rfl := Except.ok.inj (ha.symm.trans hm)
  have hkeyword := Node.keyword_inj (List.cons.inj hparams).1
  exact absurd hkeyword (by decide)

end Environment

end SqlNormal
