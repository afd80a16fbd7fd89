import SqlNormal.Capabilities
import SqlNormal.Normalize
import SqlNormal.Proofs.Resolution

/-!
# What a declaration grants

A backend declares its functions by name. A name grants the functions that it denotes, and if it
belongs to a group, the functions of all other names of the group as well.

* `Denotes`: what a name finds by itself;
* `InFamilyOf`: the functions of the group of a name;
* `mem_idsForSpelling_iff`: the functions that a name can select are those two kinds;
* **`canExecute_of_ofNames`**: what a backend of declared functions can execute;
* **`regrCount_grants_regrSlope`**: a name that grants more than it denotes.
-/

namespace SqlNormal

/-! ## Names and functions -/

/-- The name denotes the function: by itself, with some number of arguments or with a star, it finds
the function's entry. -/
def Denotes (name : String) (id : FunctionId) : Prop :=
  ∃ shape entry, (shape = .ofStar ∨ ∃ argc, shape = .ofCount argc) ∧
    resolve name shape = .ok entry ∧ entry.id = id

/-- The function belongs to a name of the same group. -/
def InFamilyOf (name : String) (id : FunctionId) : Prop :=
  ∃ family, familyOf? name = some family ∧ id ∈ family.alternatives.map (·.2)

theorem mem_of_mem_eraseReps {α : Type} [BEq α] {x : α} {l : List α} (h : x ∈ l.eraseReps) :
    x ∈ l := by
  have loop : ∀ (as : List α) (a : α) (acc : List α),
      x ∈ List.eraseRepsBy.loop (· == ·) a as acc → x = a ∨ x ∈ as ∨ x ∈ acc := by
    intro as
    induction as with
    | nil =>
      intro a acc h
      simpa [List.eraseRepsBy.loop, or_comm] using h
    | cons b as ih =>
      intro a acc h
      rw [List.eraseRepsBy.loop] at h
      split at h
      · rcases ih a acc h with h | h | h <;> simp [h]
      · rcases ih b (a :: acc) h with rfl | h | h
        · simp
        · simp [h]
        · rcases List.mem_cons.mp h with rfl | h <;> simp [*]
  cases l with
  | nil => cases h
  | cons a as => simpa using loop as a [] h

/-- The shapes by which the rules of the shaped spellings are told apart. -/
def plainShapes : List CallShape :=
  .ofStar :: (List.range 5).map .ofCount

theorem shape_of_mem_plainShapes {shape : CallShape} (h : shape ∈ plainShapes) :
    shape = .ofStar ∨ ∃ argc, shape = .ofCount argc := by
  rcases List.mem_cons.mp h with h | h
  · exact .inl h
  · obtain ⟨argc, -, rfl⟩ := List.mem_map.mp h
    exact .inr ⟨argc, rfl⟩

/-- Every target of a shaped spelling is selected by a shape that its entry accepts. -/
theorem shaped_selects : ∀ p ∈ shapedBindings, ∀ id ∈ p.2.targets, ∃ shape ∈ plainShapes,
    (p.2.select p.1 shape).toOption = some id ∧
      (lookup? id).any (fun entry => entry.arity.accepts shape.argc) = true := by
  decide +kernel

/-- Every entry accepts its own least number of arguments. -/
theorem accepts_min : ∀ entry ∈ catalogEntries, entry.arity.accepts entry.arity.min = true := by
  decide +kernel

theorem admit_of_accepts {entry : CatalogEntry} {spelling : String} {shape : CallShape}
    (haccepts : entry.arity.accepts shape.argc = true) (hquantifier : shape.quantifier = none) :
    entry.admit spelling shape = .ok entry := by
  unfold CatalogEntry.admit
  simp [haccepts, hquantifier]

theorem denotes_of_select {name : String} {id : FunctionId} {b : Binding} {shape : CallShape}
    {entry : CatalogEntry} (hb : bindingOf? name = some b)
    (hshape : shape = .ofStar ∨ ∃ argc, shape = .ofCount argc)
    (hselect : b.select (Text.upper name) shape = .ok id) (hlookup : lookup? id = some entry)
    (haccepts : entry.arity.accepts shape.argc = true) : Denotes name id := by
  obtain rfl := id_of_lookup? hlookup
  have hquantifier : shape.quantifier = none := by
    rcases hshape with rfl | ⟨argc, rfl⟩ <;> rfl
  exact ⟨shape, entry, hshape, resolve_eq_ok.mpr
    ⟨b, hb, hselect, hlookup, admit_of_accepts haccepts hquantifier⟩, rfl⟩

/-- A spelling outside the groups denotes whatever its rule can select. -/
theorem denotes_of_mem_targets {name : String} {id : FunctionId} {b : Binding}
    (hb : bindingOf? name = some b) (hfamily : ∀ family, b ≠ .byAlternative family)
    (hid : id ∈ b.targets) : Denotes name id := by
  have hmem : (Text.upper name, b) ∈ bindings := mem_of_lookup hb
  rw [bindings, List.mem_append, List.mem_append] at hmem
  rcases hmem with (hmem | hmem) | hmem
  · obtain ⟨shape, hshape, hselect, haccepts⟩ := shaped_selects _ hmem id hid
    obtain ⟨entry, hlookup, haccepts⟩ := (Option.any_eq_true _ _).mp haccepts
    have hselect : b.select (Text.upper name) shape = .ok id := by
      cases hs : b.select (Text.upper name) shape with
      | ok id' => simpa [hs, Except.toOption] using hselect
      | error e => simp [hs, Except.toOption] at hselect
    exact denotes_of_select hb (shape_of_mem_plainShapes hshape) hselect hlookup haccepts
  · obtain ⟨family, -, hmem⟩ := List.mem_flatMap.mp hmem
    obtain ⟨a, -, ha⟩ := List.mem_map.mp hmem
    exact absurd (Prod.ext_iff.mp ha).2.symm (hfamily family)
  · obtain ⟨entry, hentry, he⟩ := List.mem_map.mp hmem
    obtain rfl : Binding.fixed entry.id = b := (Prod.ext_iff.mp he).2
    obtain rfl : id = entry.id := List.mem_singleton.mp hid
    obtain ⟨entry', hlookup⟩ := Option.isSome_iff_exists.mp (lookup?_isSome_of_mem hentry)
    have hmin := accepts_min entry' (List.mem_of_find?_eq_some hlookup)
    exact denotes_of_select hb (.inr ⟨entry'.arity.min, rfl⟩) rfl hlookup hmin

/-- **What a name can select.** -/
theorem mem_idsForSpelling_iff {name : String} {id : FunctionId} :
    id ∈ idsForSpelling name ↔ Denotes name id ∨ InFamilyOf name id := by
  constructor
  · intro h
    cases hb : bindingOf? name with
    | none => simp [idsForSpelling, hb] at h
    | some b =>
      have hid : id ∈ b.targets := by simpa [idsForSpelling, hb] using h
      by_cases hfamily : ∃ family, b = .byAlternative family
      · obtain ⟨family, rfl⟩ := hfamily
        have hmember := mem_of_mem_eraseReps hid
        exact .inr ⟨family, by rw [familyOf?, hb], hmember⟩
      · exact .inl (denotes_of_mem_targets hb (fun family h => hfamily ⟨family, h⟩) hid)
  · rintro (⟨shape, entry, -, hresolve, rfl⟩ | ⟨family, hfamily, hid⟩)
    · obtain ⟨b, hb, hselect, -, -⟩ := resolve_eq_ok.mp hresolve
      simpa [idsForSpelling, hb] using mem_targets_of_select hselect
    · unfold familyOf? at hfamily
      split at hfamily
      · rename_i family' hb
        obtain rfl := Option.some.inj hfamily
        simpa [idsForSpelling, hb, Binding.targets] using mem_eraseReps hid
      · cases hfamily

/-! ## Declarations -/

namespace Capabilities

theorem idsOfName_eq_ok {name : String} {ids : List FunctionId} (h : idsOfName name = .ok ids) :
    ids = idsForSpelling name := by
  unfold idsOfName at h
  dsimp only at h
  split_ifs at h
  exact (pure_eq_ok.mp h).symm

theorem ids_of_mapM {names : List String} {ids : List (List FunctionId)}
    (h : names.mapM idsOfName = .ok ids) : ids = names.map idsForSpelling := by
  induction names generalizing ids with
  | nil => exact (pure_eq_ok.mp h).symm
  | cons name names ih =>
    rw [List.mapM_cons] at h
    obtain ⟨own, hown, h⟩ := bind_eq_ok.mp h
    obtain ⟨rest, hrest, h⟩ := bind_eq_ok.mp h
    obtain rfl := pure_eq_ok.mp h
    rw [List.map_cons, ← idsOfName_eq_ok hown, ih hrest]

/-- The functions of a declaration are those that its names can select. -/
theorem supports_of_ofNames {names : List String} {c : Capabilities} (h : ofNames names = .ok c)
    (id : FunctionId) : c.supports id = true ↔ ∃ name ∈ names, id ∈ idsForSpelling name := by
  unfold ofNames at h
  obtain ⟨ids, hids, h⟩ := bind_eq_ok.mp h
  obtain rfl := pure_eq_ok.mp h
  rw [supports, List.contains_iff_mem, ofIds, mem_distinct, ids_of_mapM hids]
  simp

/-- A node can be executed if all calls that occur in it are of functions in the set. -/
theorem canExecute_iff {c : Capabilities} {n : Node} : c.canExecute n = true ↔
    ∀ labels head params, Node.Within (.call labels head params) n → c.supports head.id = true := by
  rw [canExecute, List.all_eq_true]
  constructor
  · intro h labels head params hcall
    have hmem := Node.mem_calls_iff.mpr ⟨labels, params, hcall⟩
    exact h head.id (List.mem_map_of_mem hmem)
  · intro h id hid
    obtain ⟨head, hmem, rfl⟩ := List.mem_map.mp hid
    obtain ⟨labels, params, hcall⟩ := Node.mem_calls_iff.mp hmem
    exact h labels head params hcall

end Capabilities

/-- **What a backend of declared functions can execute**: the nodes all of whose calls are of
functions that a declared name denotes, or of functions of the group of a declared name. The groups
make no difference exactly if of every group that is touched all functions are denoted. -/
theorem canExecute_of_ofNames (names : List String) (c : Capabilities)
    (h : Capabilities.ofNames names = .ok c) :
    (∀ n, c.canExecute n = true ↔
      ∀ labels head params, Node.Within (.call labels head params) n →
        ∃ name ∈ names, Denotes name head.id ∨ InFamilyOf name head.id) ∧
    ((∀ n, c.canExecute n = true ↔
        ∀ labels head params, Node.Within (.call labels head params) n →
          ∃ name ∈ names, Denotes name head.id) ↔
      ∀ name ∈ names, ∀ id, InFamilyOf name id → ∃ name' ∈ names, Denotes name' id) := by
  have hsupports (id : FunctionId) :
      c.supports id = true ↔ ∃ name ∈ names, Denotes name id ∨ InFamilyOf name id := by
    simp only [Capabilities.supports_of_ofNames h, mem_idsForSpelling_iff]
  have hall (n : Node) : c.canExecute n = true ↔
      ∀ labels head params, Node.Within (.call labels head params) n →
        ∃ name ∈ names, Denotes name head.id ∨ InFamilyOf name head.id := by
    simp only [Capabilities.canExecute_iff, hsupports]
  refine ⟨hall, fun hdenotes name hname id hfamily => ?_, fun hwhole n => ?_⟩
  · -- a call of the function alone can be executed
    let head : CallHead := { id := id, name := "", separator := "" }
    have hexecute : c.canExecute (.call {} head []) = true := by
      rw [Capabilities.canExecute, List.all_eq_true]
      intro id' hid'
      obtain rfl : id' = id := by
        simpa [Node.functionIds, Node.calls, Node.calls.callsList, head] using hid'
      exact (hsupports id').mpr ⟨name, hname, .inr hfamily⟩
    exact (hdenotes _).mp hexecute {} head [] .refl
  · rw [hall n]
    constructor
    · intro hcalls labels head params hcall
      obtain ⟨name, hname, hid | hid⟩ := hcalls labels head params hcall
      · exact ⟨name, hname, hid⟩
      · exact hwhole name hname head.id hid
    · intro hcalls labels head params hcall
      obtain ⟨name, hname, hid⟩ := hcalls labels head params hcall
      exact ⟨name, hname, .inl hid⟩

/-- The rule of a name of a group selects the function of the name, whatever the number of
arguments. -/
theorem eq_of_denotes_regrCount {id : FunctionId} (h : Denotes "REGR_COUNT" id) :
    id = .regrCount := by
  obtain ⟨shape, entry, hshape, hresolve, rfl⟩ := h
  obtain ⟨b, hb, hselect, -, -⟩ := resolve_eq_ok.mp hresolve
  have hrule : bindingOf? "REGR_COUNT" = some (.byAlternative .regression) := by decide +kernel
  obtain rfl := Option.some.inj (hrule.symm.trans hb)
  have hplace : Family.regression.alternativeOf? (Text.upper "REGR_COUNT") = some 2 := by
    decide +kernel
  rcases hshape with rfl | ⟨argc, rfl⟩
  · cases hselect
  · have hselect : Family.regression.select 2 = .ok entry.id := by
      simpa [Binding.select, CallShape.ofCount, hplace] using hselect
    exact (Except.ok.inj hselect).symm

/-- `COUNT` is no name of a group: it grants `COUNT(*)` and the COUNT of an expression, which are
what it denotes. -/
theorem canExecute_of_count : ∃ c, Capabilities.ofNames ["count"] = .ok c ∧
    c.ids = [.countStar, .count] ∧
    ∀ n, c.canExecute n = true ↔
      ∀ labels head params, Node.Within (.call labels head params) n →
        ∃ name ∈ ["count"], Denotes name head.id := by
  refine ⟨_, rfl, by decide +kernel, (canExecute_of_ofNames ["count"] _ rfl).2.mpr ?_⟩
  rintro name hname id ⟨family, hfamily, -⟩
  obtain rfl := List.mem_singleton.mp hname
  have hnone : familyOf? "count" = none := by decide +kernel
  rw [hnone] at hfamily
  cases hfamily

/-- A name of a group grants more than it denotes: a backend of `REGR_COUNT` takes `REGR_SLOPE`. -/
theorem regrCount_grants_regrSlope :
    ¬ ∀ (names : List String) (c : Capabilities) (sql : String) (n : Node),
      Capabilities.ofNames names = .ok c → ({} : Environment).normalizeExpression sql = .ok n →
      (c.canExecute n = true ↔
        ∀ labels head params, Node.Within (.call labels head params) n →
          ∃ name ∈ names, Denotes name head.id) := by
  intro h
  have hids : (({} : Environment).normalizeExpression "REGR_SLOPE(y, x)").toOption.map
      Node.functionIds = some [.regrSlope] := by
    decide +kernel
  cases hn : ({} : Environment).normalizeExpression "REGR_SLOPE(y, x)" with
  | error e => simp [hn, Except.toOption] at hids
  | ok n =>
    have hids : n.functionIds = [.regrSlope] := by simpa [hn, Except.toOption] using hids
    obtain ⟨c, hc, hsupports⟩ : ∃ c, Capabilities.ofNames ["REGR_COUNT"] = .ok c ∧
        c.supports .regrSlope = true := ⟨_, rfl, by decide +kernel⟩
    have hexecute : c.canExecute n = true := by
      rw [Capabilities.canExecute, hids]
      simpa using hsupports
    obtain ⟨head, hhead, hid⟩ : ∃ head ∈ n.calls, head.id = .regrSlope :=
      List.mem_map.mp (by rw [← Node.functionIds, hids]; exact List.mem_singleton.mpr rfl)
    obtain ⟨labels, params, hcall⟩ := Node.mem_calls_iff.mp hhead
    obtain ⟨name, hname, hdenotes⟩ :=
      (h ["REGR_COUNT"] c "REGR_SLOPE(y, x)" n hc hn).mp hexecute labels head params hcall
    obtain rfl := List.mem_singleton.mp hname
    rw [hid] at hdenotes
    exact absurd (eq_of_denotes_regrCount hdenotes) (by decide)

end SqlNormal
