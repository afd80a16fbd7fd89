import SqlNormal.Proofs.Surroundings

/-!
# Separators

The separators of a configuration are noted on the calls. The texts of calls depend on them too, but
on nothing else than whether they have a comma; the errors do not depend on them at all.

* `Node.withoutSeparators`: a node with its separators forgotten;
* `Node.withoutTexts`: a node with its separators and its texts forgotten;
* **`bind_separators`**: two configurations beside each other;
* `not_bind_separators`: a keyword form gets commas from its separator.
-/

namespace SqlNormal

/-- The call without its separator. -/
def CallHead.withoutSeparator (head : CallHead) : CallHead :=
  { head with separator := "" }

/-- The node without the separators of its calls. -/
def Node.withoutSeparators : Node → Node :=
  Node.seen true CallHead.withoutSeparator

/-- The node without the separators of its calls and without texts. -/
def Node.withoutTexts : Node → Node :=
  Node.seen false CallHead.withoutSeparator

theorem beside_withoutSeparator {texts : Bool} {c₁ c₂ : Config} (s : Session)
    (hdepth : c₁.maxDepth = c₂.maxDepth)
    (hcommas : texts = true → 1 < c₁.maxDepth → c₁.SameCommas c₂) :
    Environment.Beside texts CallHead.withoutSeparator CallHead.withoutSeparator
      { config := c₁, session := s } { config := c₂, session := s } where
  standard := rfl
  standard' := rfl
  depth := hdepth.symm
  commas := hcommas
  form _ _ _ _ _ := rfl
  row entry _ spelling := by
    have hvalue : ({ config := c₂, session := s } : Environment).valueOfCall entry =
        ({ config := c₁, session := s } : Environment).valueOfCall entry := rfl
    rw [hvalue]
    rfl

/-! ## Texts that show the commas -/

/-- `SUBSTRING(a, b)`. -/
def substringOf : Tree :=
  .substring (.identifier [⟨"a", none⟩]) (some (.identifier [⟨"b", none⟩])) none false

/-- `POSITION('a' IN b)`. -/
def positionOf : Tree :=
  .position (.literal (.string "a")) (.identifier [⟨"b", none⟩])

section Texts

variable {c : Config} (hdepth : 2 ≤ c.maxDepth) (s : Session)
include hdepth

theorem rawText_substringOf :
    (({ config := c, session := s } : Environment).bind substringOf).map Node.rawText =
      .ok (if Text.contains c.separator "," then "SUBSTRING(a, b)" else "SUBSTRING(a b)") := by
  have hd : ({ config := c, session := s } : Environment).descend 1 = .ok 2 := if_pos hdepth
  have hbind : (({ config := c, session := s } : Environment).bind substringOf).map Node.rawText =
      .ok (Text.tokenText (callPieces "SUBSTRING" none c.separator
        [.column { rawText := "a" } [] "a", .column { rawText := "b" } [] "b"])) := by
    have hstart : Environment.lower.lowerOption { config := c, session := s } 1
        (some (.identifier [⟨"b", none⟩])) = .ok (some (.column { rawText := "b" } [] "b")) := by
      rw [Environment.lower.lowerOption, hd]
      rfl
    rw [Environment.bind, substringOf, Environment.lower, hd, hstart]
    rfl
  rw [hbind]
  unfold callPieces
  cases Text.contains c.separator "," <;> decide +kernel

theorem rawText_positionOf :
    (({ config := c, session := s } : Environment).bind positionOf).map Node.rawText =
      .ok (if Text.contains c.keywordSeparator "," then "POSITION('a', IN, b)"
        else "POSITION('a' IN b)") := by
  have hd : ({ config := c, session := s } : Environment).descend 1 = .ok 2 := if_pos hdepth
  have hbind : (({ config := c, session := s } : Environment).bind positionOf).map Node.rawText =
      .ok (Text.tokenText (callPieces "POSITION" none c.keywordSeparator
        [.ofValue (.varchar "a"), .keyword "IN", .column { rawText := "b" } [] "b"])) := by
    rw [Environment.bind, positionOf, Environment.lower, hd]
    rfl
  rw [hbind]
  unfold callPieces
  cases Text.contains c.keywordSeparator "," <;> decide +kernel

end Texts

theorem rawText_withoutSeparators (x : Except Error Node) :
    (x.map Node.withoutSeparators).map Node.rawText = x.map Node.rawText := by
  cases x with
  | error e => rfl
  | ok n => exact congrArg Except.ok (Node.rawText_seen _ n)

/-- Two different texts tell their conditions apart. -/
theorem eq_of_ite_eq {a b : Bool} {x y : String} (hxy : x ≠ y)
    (h : (if a then x else y) = if b then x else y) : a = b := by
  cases a <;> cases b <;> simp_all

/-! ## Two configurations -/

/-- **Two configurations beside each other.** With the same nesting bound a tree has the same error
in both, or the same node apart from the separators and the texts. The texts are the same too exactly
if the separators have the same commas, or no call has a parameter. -/
theorem bind_separators (s : Session) (c₁ c₂ : Config) (hdepth : c₁.maxDepth = c₂.maxDepth) :
    (∀ t, (({ config := c₁, session := s } : Environment).bind t).map Node.withoutTexts =
      (({ config := c₂, session := s } : Environment).bind t).map Node.withoutTexts) ∧
    ((∀ t, (({ config := c₁, session := s } : Environment).bind t).map Node.withoutSeparators =
        (({ config := c₂, session := s } : Environment).bind t).map Node.withoutSeparators) ↔
      c₁.maxDepth ≤ 1 ∨ c₁.SameCommas c₂) := by
  refine ⟨fun t => ?_, fun h => ?_, fun h t => ?_⟩
  · exact Environment.lower_seen (beside_withoutSeparator s hdepth Bool.noConfusion)
      (Nat.le_refl 1) t
  · by_cases hparts : c₁.maxDepth ≤ 1
    · exact .inl hparts
    · have hparts₁ : 2 ≤ c₁.maxDepth := by omega
      have hparts₂ : 2 ≤ c₂.maxDepth := by omega
      have hraw (t : Tree) :
          (({ config := c₁, session := s } : Environment).bind t).map Node.rawText =
            (({ config := c₂, session := s } : Environment).bind t).map Node.rawText := by
        rw [← rawText_withoutSeparators, h t, rawText_withoutSeparators]
      have hrow := hraw substringOf
      have hform := hraw positionOf
      rw [rawText_substringOf hparts₁, rawText_substringOf hparts₂] at hrow
      rw [rawText_positionOf hparts₁, rawText_positionOf hparts₂] at hform
      exact .inr ⟨eq_of_ite_eq (by decide) (Except.ok.inj hrow),
        eq_of_ite_eq (by decide) (Except.ok.inj hform)⟩
  · have hcommas : true = true → 1 < c₁.maxDepth → c₁.SameCommas c₂ := fun _ hparts =>
      h.resolve_left (Nat.not_le_of_lt hparts)
    exact Environment.lower_seen (beside_withoutSeparator s hdepth hcommas) (Nat.le_refl 1) t

/-- A configuration whose separators are not the default ones, but have the same commas. -/
def spacious : Config :=
  { separator := " ,  ", keywordSeparator := "\t" }

/-- No text tells the separators with the same commas apart. -/
theorem bind_spacious : ({} : Config).maxDepth = spacious.maxDepth ∧
    ({} : Config).SameCommas spacious ∧
    ∀ t, (({} : Environment).bind t).map Node.withoutSeparators =
      (({ config := spacious } : Environment).bind t).map Node.withoutSeparators := by
  have hcommas : ({} : Config).SameCommas spacious := ⟨by decide +kernel, by decide +kernel⟩
  exact ⟨rfl, hcommas, (bind_separators {} {} spacious rfl).2.mpr (.inr hcommas)⟩

/-- A separator of keyword forms with a comma in it puts commas into their text. -/
theorem not_bind_separators :
    ¬ ∀ (s : Session) (c₁ c₂ : Config) (t : Tree), c₁.validate = .ok c₁ → c₂.validate = .ok c₂ →
      c₁.maxDepth = c₂.maxDepth →
      (({ config := c₁, session := s } : Environment).bind t).map Node.withoutSeparators =
        (({ config := c₂, session := s } : Environment).bind t).map Node.withoutSeparators := by
  intro h
  have hsame := h {} {} { keywordSeparator := ", " } positionOf rfl rfl rfl
  have hraw := congrArg (fun x => x.map Node.rawText) hsame
  rw [rawText_withoutSeparators, rawText_withoutSeparators, rawText_positionOf (by decide),
    rawText_positionOf (by decide)] at hraw
  exact absurd (Except.ok.inj hraw) (by decide +kernel)

end SqlNormal
