import Mathlib
import SqlNormal.Catalog.Resolve
import SqlNormal.Node.OfTree
import SqlNormal.Proofs.Results

/-!
# What the catalog answers

A call that is refused is refused for its spelling or for its shape, never for a gap in the catalog:
every rule selects functions that have an entry, and the session has an answer for every function
that asks for one.

* `mem_targets_of_select`: a rule selects one of its targets;
* **`resolve_error`**: why a call finds no entry;
* **`resolve_eq_ok`**: the entry that a call finds, and the rule that selects it;
* `resolve_of_upper`, `resolve_of_alternative`: neither the case of a name nor the alternative
  spelling of a family makes another entry of it;
* `resolve_countStar_iff`: the calls of a star;
* **`valueOfCall_isOk`**: the session's answer to a call.
-/

namespace SqlNormal

/-! ## Spellings in upper case -/

namespace Text

theorem toUpper_toUpper (c : Char) : c.toUpper.toUpper = c.toUpper := by
  by_cases h : 'a'.val ≤ c.val ∧ c.val ≤ 'z'.val
  · have hupper : c.toUpper.val = c.val + ('A'.val - 'a'.val) := by rw [Char.toUpper, dif_pos h]
    have hshift : ('A'.val - 'a'.val).toNat = 4294967264 := by decide
    have ha : 'a'.val.toNat = 97 := by decide
    have hz : 'z'.val.toNat = 122 := by decide
    rw [Char.toUpper, dif_neg]
    rw [hupper]
    simp only [UInt32.le_iff_toNat_le, UInt32.toNat_add] at h ⊢
    omega
  · have hsame : c.toUpper = c := by rw [Char.toUpper, dif_neg h]
    rw [hsame, hsame]

theorem upper_upper (s : String) : upper (upper s) = upper s := by
  have hmap : (s.toList.map Char.toUpper).map Char.toUpper = s.toList.map Char.toUpper := by
    rw [List.map_map]
    exact List.map_congr_left fun c _ => toUpper_toUpper c
  rw [upper, upper, String.toList_ofList, hmap]

end Text

/-! ## What a rule selects -/

theorem mem_of_lookup {α β : Type} [BEq α] [LawfulBEq α] {l : List (α × β)} {k : α} {b : β}
    (h : l.lookup k = some b) : (k, b) ∈ l := by
  obtain ⟨l₁, l₂, rfl, -⟩ := List.lookup_eq_some_iff.mp h
  simp

theorem mem_eraseReps {α : Type} [BEq α] [LawfulBEq α] {x : α} {l : List α} (h : x ∈ l) :
    x ∈ l.eraseReps := by
  have loop : ∀ (as : List α) (a : α) (acc : List α), x = a ∨ x ∈ as ∨ x ∈ acc →
      x ∈ List.eraseRepsBy.loop (· == ·) a as acc := by
    intro as
    induction as with
    | nil => intro a acc h; simpa [List.eraseRepsBy.loop, or_comm] using h
    | cons b as ih =>
      intro a acc h
      rw [List.eraseRepsBy.loop]
      split
      · rename_i hab
        obtain rfl := eq_of_beq hab
        exact ih a acc (by simpa [or_assoc] using h)
      · exact ih b (a :: acc) (by simp only [List.mem_cons] at h ⊢; tauto)
  cases l with
  | nil => cases h
  | cons a as => exact loop as a [] (by simpa using h)

/-- A rule selects one of its targets. -/
theorem mem_targets_of_select {b : Binding} {spelling : String} {shape : CallShape}
    {id : FunctionId} (h : b.select spelling shape = .ok id) : id ∈ b.targets := by
  unfold Binding.select at h
  split at h
  · cases h; simp [Binding.targets]
  · cases h; simp [Binding.targets]
  · cases h
  · cases h; simp [Binding.targets]
  · split at h
    · rename_i hl
      cases h
      exact List.mem_map_of_mem (mem_of_lookup hl)
    · cases h
  · split at h
    · unfold Family.select at h
      split at h
      · rename_i ha
        cases h
        exact mem_eraseReps (List.mem_map_of_mem (List.mem_of_getElem? ha))
      · cases h
    · cases h
  · cases h
    split <;> simp [Binding.targets]

theorem select_error {b : Binding} {spelling : String} {shape : CallShape} {e : Error}
    (h : b.select spelling shape = .error e) :
    ∃ construct cause, e = .mismatch construct cause := by
  unfold Binding.select at h
  split at h
  · cases h
  · cases h
  · cases h; exact ⟨_, _, rfl⟩
  · cases h
  · split at h
    · cases h
    · cases h; exact ⟨_, _, rfl⟩
  · split at h
    · unfold Family.select at h
      split at h
      · cases h
      · cases h; exact ⟨_, _, rfl⟩
    · cases h; exact ⟨_, _, rfl⟩
  · cases h

theorem admit_error {entry : CatalogEntry} {spelling : String} {shape : CallShape} {e : Error}
    (h : entry.admit spelling shape = .error e) :
    ∃ construct cause, e = .mismatch construct cause := by
  unfold CatalogEntry.admit at h
  split_ifs at h
  · cases h; exact ⟨_, _, rfl⟩
  · cases h; exact ⟨_, _, rfl⟩
  · exact absurd h pure_ne_error

theorem admit_eq_ok {entry entry' : CatalogEntry} {spelling : String} {shape : CallShape}
    (h : entry.admit spelling shape = .ok entry') : entry = entry' := by
  unfold CatalogEntry.admit at h
  split_ifs at h
  cases h
  rfl

theorem lookup?_isSome_of_mem {entry : CatalogEntry} (h : entry ∈ catalogEntries) :
    (lookup? entry.id).isSome := by
  rw [lookup?, List.find?_isSome]
  exact ⟨entry, h, decide_eq_true rfl⟩

theorem assigned_of_mem_shaped : ∀ b ∈ (shapedBindings ++ familyBindings).map (·.2),
    ∀ id ∈ b.targets, (lookup? id).isSome := by
  decide +kernel

/-- Every function that a rule can select has an entry. -/
theorem assigned_of_mem_targets {b : Binding} (hb : b ∈ bindings.map (·.2)) {id : FunctionId}
    (h : id ∈ b.targets) : (lookup? id).isSome := by
  rw [bindings, List.map_append, List.mem_append] at hb
  rcases hb with hb | hb
  · exact assigned_of_mem_shaped b hb id h
  · obtain ⟨_, hp, rfl⟩ := List.mem_map.mp hb
    obtain ⟨entry, he, rfl⟩ := List.mem_map.mp hp
    obtain rfl : id = entry.id := List.mem_singleton.mp h
    exact lookup?_isSome_of_mem he

/-- A spelling that has a rule is refused for the shape of the call. -/
theorem mismatch_of_rule {token : String} {shape : CallShape} {b : Binding} {e : Error}
    (hb : bindingOf? token = some b) (h : resolve token shape = .error e) :
    ∃ construct cause, e = .mismatch construct cause := by
  have hupper : bindingOfUpper? (Text.upper token) = some b := hb
  unfold resolve at h
  simp only [hupper] at h
  rcases bind_eq_error.mp h with h | ⟨id, hid, h⟩
  · exact select_error h
  · split at h
    · rename_i hnone
      have hmem := List.mem_map_of_mem (f := (·.2)) (mem_of_lookup hupper)
      have := assigned_of_mem_targets hmem (mem_targets_of_select hid)
      simp [hnone] at this
    · exact admit_error h

/-- A spelling without a rule is unknown. -/
theorem resolve_of_no_rule {token : String} {shape : CallShape} (hb : bindingOf? token = none) :
    resolve token shape = .error (.unknownFunction token) := by
  have hupper : bindingOfUpper? (Text.upper token) = none := hb
  unfold resolve
  simp only [hupper]
  rfl

/-- **Why a call finds no entry.** -/
theorem resolve_error {token : String} {shape : CallShape} {e : Error}
    (h : resolve token shape = .error e) :
    e = .unknownFunction token ∨ ∃ construct cause, e = .mismatch construct cause := by
  cases hb : bindingOf? token with
  | none =>
    rw [resolve_of_no_rule hb] at h
    cases h
    exact .inl rfl
  | some b => exact .inr (mismatch_of_rule hb h)

/-- A call finds its entry by its spelling in upper case. -/
theorem resolve_of_upper {token token' : String} {shape : CallShape} {entry : CatalogEntry}
    (hupper : Text.upper token = Text.upper token') (h : resolve token shape = .ok entry) :
    resolve token' shape = .ok entry := by
  unfold resolve at h ⊢
  rw [← hupper]
  dsimp only at h ⊢
  split at h
  · cases h
  · exact h

theorem id_of_lookup? {id : FunctionId} {entry : CatalogEntry} (h : lookup? id = some entry) :
    entry.id = id := by
  have := List.find?_some (p := fun e : CatalogEntry => decide (e.id = id)) h
  exact of_decide_eq_true this

/-- **What a call finds.** Its rule selects the number of an entry that fits the call. -/
theorem resolve_eq_ok {token : String} {shape : CallShape} {entry : CatalogEntry} :
    resolve token shape = .ok entry ↔ ∃ b, bindingOf? token = some b ∧
      b.select (Text.upper token) shape = .ok entry.id ∧ lookup? entry.id = some entry ∧
      entry.admit (Text.upper token) shape = .ok entry := by
  unfold resolve bindingOf?
  dsimp only
  constructor
  · intro h
    split at h
    · cases h
    · rename_i b hb
      obtain ⟨id, hid, h⟩ := bind_eq_ok.mp h
      split at h
      · cases h
      · rename_i entry' hl
        obtain rfl := admit_eq_ok h
        obtain rfl := id_of_lookup? hl
        exact ⟨b, hb, hid, hl, h⟩
  · rintro ⟨b, hb, hid, hl, hadmit⟩
    simp only [hb, bind_eq_ok]
    exact ⟨entry.id, hid, by rw [hl]; exact hadmit⟩

theorem mem_of_resolve {token : String} {shape : CallShape} {entry : CatalogEntry}
    (h : resolve token shape = .ok entry) : entry ∈ catalogEntries := by
  obtain ⟨b, -, -, hl, -⟩ := resolve_eq_ok.mp h
  exact List.mem_of_find?_eq_some hl

/-- Only an aggregate is found with a quantifier. -/
theorem isAggregate_of_resolve {token : String} {shape : CallShape} {entry : CatalogEntry}
    (h : resolve token shape = .ok entry) (hquantifier : shape.quantifier.isSome) :
    isAggregate entry.id = true := by
  obtain ⟨b, -, -, hl, hadmit⟩ := resolve_eq_ok.mp h
  rw [isAggregate, hl, Option.any_some]
  unfold CatalogEntry.admit at hadmit
  split_ifs at hadmit with _ hnone
  exact (Bool.not_eq_false _).mp fun hne => hnone ⟨hquantifier, hne⟩

/-- A rule that asks for a star selects `COUNT(*)` by it. -/
theorem countStar_of_star : ∀ p ∈ bindings, ∀ star expr, p.2 = .byStar star expr →
    star = .countStar := by
  have table : bindings.all (fun p => match p.2 with
      | .byStar star _ => decide (star = .countStar)
      | _ => true) = true := by
    decide +kernel
  intro p hp star expr h
  simpa only [h, decide_eq_true_eq] using List.all_eq_true.mp table p hp

/-- `COUNT(*)` has no other spelling. -/
theorem spelling_of_countStar : ∀ p ∈ bindings, FunctionId.countStar ∈ p.2.targets →
    p.1 = "COUNT" := by
  decide +kernel

/-- A call finds `COUNT(*)` exactly if it is a call of a star. -/
theorem resolve_countStar_iff {token : String} {shape : CallShape} {entry : CatalogEntry}
    (h : resolve token shape = .ok entry) : entry.id = .countStar ↔ shape.star = true := by
  obtain ⟨b, hb, hselect, -, -⟩ := resolve_eq_ok.mp h
  have hmem : (Text.upper token, b) ∈ bindings := mem_of_lookup hb
  cases hs : shape.star with
  | true =>
    cases b with
    | byStar star expr =>
      obtain rfl : star = entry.id := by simpa [Binding.select, hs] using hselect
      simp [countStar_of_star _ hmem _ _ rfl]
    | _ => simp [Binding.select, hs] at hselect
  | false =>
    refine ⟨fun hid => ?_, fun h => nomatch h⟩
    have hcount : Text.upper token = "COUNT" := by
      refine spelling_of_countStar _ hmem ?_
      rw [← hid]
      exact mem_targets_of_select hselect
    have hb : bindingOfUpper? "COUNT" = some b := hcount ▸ hb
    obtain rfl : Binding.byStar .countStar .count = b := Option.some.inj hb
    have hexpr : FunctionId.count = entry.id := by simpa [Binding.select, hs] using hselect
    exact absurd (hexpr.trans hid) (by decide)

/-- The place of a spelling in its group may be said or left out. -/
theorem resolve_alternative (token : String) (shape : CallShape) :
    resolve token
        { shape with alternative := (familyOf? token).bind (·.alternativeOf? token) } =
      resolve token { shape with alternative := none } := by
  have hselect {b : Binding} (hb : bindingOf? token = some b) : b.select (Text.upper token)
        { shape with alternative := (familyOf? token).bind (·.alternativeOf? token) } =
      b.select (Text.upper token) { shape with alternative := none } := by
    cases b with
    | byAlternative family =>
      have hspelling : family.alternativeOf? (Text.upper token) = family.alternativeOf? token := by
        simp only [Family.alternativeOf?, Text.sameWord, Text.upper_upper]
      have hfamily : familyOf? token = some family := by rw [familyOf?, hb]
      rw [hfamily, Option.bind_some]
      cases shape.star <;> simp [Binding.select, hspelling]
    | _ => cases shape.star <;> simp [Binding.select]
  unfold resolve
  dsimp only
  cases hb : bindingOfUpper? (Text.upper token) with
  | none => rfl
  | some b =>
    dsimp only
    rw [hselect hb]
    rfl

theorem resolve_of_alternative {token : String} {shape : CallShape} {entry : CatalogEntry}
    (halternative : shape.alternative = none ∨
      shape.alternative = (familyOf? token).bind (·.alternativeOf? token))
    (h : resolve token shape = .ok entry) :
    resolve token { shape with alternative := none } = .ok entry := by
  rcases halternative with hnone | hplace
  · rwa [← hnone]
  · rwa [← resolve_alternative, ← hplace]

/-- The functions that the session answers. -/
theorem session_entries : ∀ entry ∈ catalogEntries, entry.functionClass = .session →
    entry.id ∈ [FunctionId.currentUser, .sessionUser, .user, .currentDatabase, .database,
      .currentSchema] := by
  decide +kernel

/-- **The session answers every call that asks it.** -/
theorem valueOfCall_isOk (env : Environment) {token : String} {shape : CallShape}
    {entry : CatalogEntry} (h : resolve token shape = .ok entry) :
    ∃ value, env.valueOfCall entry = .ok value := by
  unfold Environment.valueOfCall
  split_ifs with hs
  · have := session_entries entry (mem_of_resolve h) hs
    simp only [List.mem_cons, List.not_mem_nil, or_false] at this
    unfold Environment.sessionValue
    split_ifs with h₁ h₂ h₃
    · exact ⟨_, rfl⟩
    · exact ⟨_, rfl⟩
    · exact ⟨_, rfl⟩
    · tauto
  · exact ⟨_, rfl⟩

end SqlNormal
