import SqlNormal.Proofs.Capabilities

/-!
# What a spelling finds

A call is answered by its spelling and its shape. Unknown spellings are refused as such, and a
known one is refused for the shape alone. What is found is among the functions of the spelling, and
each of these is found by a call of the right shape.

* `mem_spellings_iff`: the known spellings are those with a rule;
* `exists_resolve_of_mem_idsForSpelling`: every function of a spelling is found;
* `resolve_of_sameWord`: the case of a known spelling makes no difference;
* **`resolve_spelling`**: the answers to a spelling, for calls of every shape.
-/

namespace SqlNormal

/-! ## Known spellings -/

/-- A spelling is known if it has a rule. -/
theorem mem_spellings_iff {spelling : String} :
    spelling ∈ spellings ↔ (bindingOfUpper? spelling).isSome := by
  have hkeys : spelling ∈ spellings ↔ ∃ p ∈ bindings, p.1 = spelling := by
    rw [spellings, List.mem_mergeSort, List.mem_eraseDups, List.mem_map]
  have hother (p : String × Binding) : p.1 = spelling ↔ ¬(spelling != p.1) = true := by
    rw [bne_iff_ne, not_not, eq_comm]
  rw [hkeys, bindingOfUpper?, Option.isSome_iff_ne_none, ne_eq, List.lookup_eq_none_iff]
  simp only [hother, not_forall, exists_prop]

theorem exists_rule_of_mem {token : String} (h : Text.upper token ∈ spellings) :
    ∃ b, bindingOf? token = some b :=
  Option.isSome_iff_exists.mp (mem_spellings_iff.mp h)

theorem no_rule_of_not_mem {token : String} (h : Text.upper token ∉ spellings) :
    bindingOf? token = none := by
  rw [mem_spellings_iff, Option.not_isSome_iff_eq_none] at h
  exact h

/-- A call is refused as unknown exactly if its spelling is. -/
theorem resolve_unknown_iff {token : String} {shape : CallShape} :
    (∃ word, resolve token shape = .error (.unknownFunction word)) ↔
      Text.upper token ∉ spellings := by
  constructor
  · rintro ⟨word, hunknown⟩ hmem
    obtain ⟨b, hb⟩ := exists_rule_of_mem hmem
    obtain ⟨construct, cause, hmismatch⟩ := mismatch_of_rule hb hunknown
    cases hmismatch
  · intro hmem
    exact ⟨token, resolve_of_no_rule (no_rule_of_not_mem hmem)⟩

/-- The case of a known spelling makes no difference. -/
theorem resolve_of_sameWord {token other : String} (h : Text.sameWord token other = true)
    (hmem : Text.upper token ∈ spellings) (shape : CallShape) :
    resolve other shape = resolve token shape := by
  have hupper : Text.upper token = Text.upper other := eq_of_beq h
  obtain ⟨b, hb⟩ := exists_rule_of_mem hmem
  have hrule : bindingOfUpper? (Text.upper token) = some b := hb
  unfold resolve
  simp only [← hupper, hrule]

/-! ## Functions of a spelling -/

/-- A function of a group is found by its place in the group. -/
theorem exists_resolve_of_family {token : String} {family : Family} {id : FunctionId}
    (hb : bindingOf? token = some (.byAlternative family))
    (hid : id ∈ family.alternatives.map (·.2)) :
    ∃ shape entry, resolve token shape = .ok entry ∧ entry.id = id := by
  obtain ⟨place, hplace⟩ := List.mem_iff_getElem?.mp hid
  obtain ⟨alternative, halternative, rfl⟩ :
      ∃ a, family.alternatives[place]? = some a ∧ a.2 = id := by
    simpa using hplace
  have hrule : Binding.byAlternative family ∈ bindings.map (·.2) :=
    List.mem_map_of_mem (f := (·.2)) (mem_of_lookup hb)
  obtain ⟨entry, hlookup⟩ :=
    Option.isSome_iff_exists.mp (assigned_of_mem_targets hrule (mem_eraseReps hid))
  obtain hsame := id_of_lookup? hlookup
  let shape : CallShape := { argc := entry.arity.min, alternative := some place }
  have hselect : (Binding.byAlternative family).select (Text.upper token) shape = .ok entry.id := by
    simp [Binding.select, Family.select, shape, halternative, hsame, pure, Except.pure]
  have haccepts := accepts_min entry (List.mem_of_find?_eq_some hlookup)
  exact ⟨shape, entry, resolve_eq_ok.mpr
    ⟨_, hb, hselect, hsame ▸ hlookup, admit_of_accepts haccepts rfl⟩, hsame⟩

/-- **Every function of a spelling is found** by a call of some shape. -/
theorem exists_resolve_of_mem_idsForSpelling {token : String} {id : FunctionId}
    (h : id ∈ idsForSpelling token) :
    ∃ shape entry, resolve token shape = .ok entry ∧ entry.id = id := by
  rcases mem_idsForSpelling_iff.mp h with ⟨shape, entry, -, hentry, hid⟩ | ⟨family, hfamily, hid⟩
  · exact ⟨shape, entry, hentry, hid⟩
  · unfold familyOf? at hfamily
    split at hfamily
    · rename_i hb
      obtain rfl := Option.some.inj hfamily
      exact exists_resolve_of_family hb hid
    · cases hfamily

section Found

variable {token : String} {shape : CallShape} {entry : CatalogEntry}

theorem mem_idsForSpelling_of_resolve (h : resolve token shape = .ok entry) :
    entry.id ∈ idsForSpelling token := by
  obtain ⟨b, hb, hselect, -, -⟩ := resolve_eq_ok.mp h
  simpa [idsForSpelling, hb] using mem_targets_of_select hselect

/-- What is found admits the call. -/
theorem accepts_of_resolve (h : resolve token shape = .ok entry) :
    entry.arity.accepts shape.argc = true ∧
      (shape.quantifier.isSome → entry.isAggregate = true) := by
  obtain ⟨b, -, -, -, hadmit⟩ := resolve_eq_ok.mp h
  unfold CatalogEntry.admit at hadmit
  split_ifs at hadmit with hcount hquantifier
  simpa using And.intro hcount hquantifier

/-- What is found is the entry of `COUNT(*)` exactly for a call of a star. -/
theorem star_iff_of_resolve (h : resolve token shape = .ok entry) :
    shape.star = true ↔ lookup? .countStar = some entry := by
  obtain ⟨b, -, -, hlookup, -⟩ := resolve_eq_ok.mp h
  rw [← resolve_countStar_iff h]
  constructor
  · intro hid
    rwa [← hid]
  · exact id_of_lookup?

end Found

/-! ## Answers -/

/-- **The answers to a spelling.** A call is refused as unknown exactly if its spelling in upper
case is not known, and otherwise for its shape alone. What is found is an entry of the catalog among
the functions of the spelling, and it admits the call; it is `COUNT(*)` exactly for a star. Every
function of the spelling is found by some call. The case of letters makes no difference, apart from
the word that an unknown spelling is refused with, which is shown as it was written. -/
theorem resolve_spelling (token : String) (shape : CallShape) :
    ((∃ word, resolve token shape = .error (.unknownFunction word)) ↔
      Text.upper token ∉ spellings) ∧
    (∀ e, resolve token shape = .error e →
      e = .unknownFunction token ∨ ∃ construct cause, e = .mismatch construct cause) ∧
    (∀ entry, resolve token shape = .ok entry →
      lookup? entry.id = some entry ∧ entry.id ∈ idsForSpelling token ∧
        entry.arity.accepts shape.argc = true ∧
        (shape.quantifier.isSome → entry.isAggregate = true) ∧
        (shape.star = true ↔ lookup? .countStar = some entry)) ∧
    (∀ id ∈ idsForSpelling token,
      ∃ found entry, resolve token found = .ok entry ∧ entry.id = id) ∧
    ∀ other, Text.sameWord token other = true →
      (Text.upper token ∈ spellings → resolve other shape = resolve token shape) ∧
      (Text.upper token ∉ spellings →
        resolve token shape = .error (.unknownFunction token) ∧
          resolve other shape = .error (.unknownFunction other)) := by
  refine ⟨resolve_unknown_iff, fun e he => resolve_error he, fun entry hentry => ?_,
    fun id hid => exists_resolve_of_mem_idsForSpelling hid, fun other hother => ⟨?_, ?_⟩⟩
  · obtain ⟨b, -, -, hlookup, -⟩ := resolve_eq_ok.mp hentry
    obtain ⟨hcount, hquantifier⟩ := accepts_of_resolve hentry
    exact ⟨hlookup, mem_idsForSpelling_of_resolve hentry, hcount, hquantifier,
      star_iff_of_resolve hentry⟩
  · intro hmem
    exact resolve_of_sameWord hother hmem shape
  · intro hmem
    have hupper : Text.upper token = Text.upper other := eq_of_beq hother
    exact ⟨resolve_of_no_rule (no_rule_of_not_mem hmem),
      resolve_of_no_rule (no_rule_of_not_mem (hupper ▸ hmem))⟩

/-- `Corr` with the third place of its group, two arguments and a quantifier finds the sample
covariance, however it is written; its three functions are all found. -/
theorem resolve_corr :
    let shape : CallShape :=
      { argc := 2, alternative := some 2, quantifier := some .distinct, optionalClause := true }
    ∃ entry, resolve "Corr" shape = .ok entry ∧ entry.canonicalName = "COVAR_SAMP" ∧
      (lookup? entry.id = some entry ∧ entry.id ∈ idsForSpelling "Corr" ∧
        entry.arity.accepts 2 = true ∧ entry.isAggregate = true) ∧
      resolve "cORR" shape = .ok entry ∧
      idsForSpelling "Corr" = [.corr, .covarPop, .covarSamp] ∧
      (∀ id ∈ idsForSpelling "Corr",
        ∃ found entry, resolve "Corr" found = .ok entry ∧ entry.id = id) ∧
      ¬∃ word, resolve "Corr" shape = .error (.unknownFunction word) := by
  intro shape
  obtain ⟨hunknown, -, hok, hall, hcase⟩ := resolve_spelling "Corr" shape
  have hmem : Text.upper "Corr" ∈ spellings := mem_spellings_iff.mpr (by decide +kernel)
  have hentry : resolve "Corr" shape = .ok ⟨.covarSamp, "COVAR_SAMP", .aggregate, .exact 2⟩ := by
    decide +kernel
  obtain ⟨hlookup, hid, hcount, hquantifier, -⟩ := hok _ hentry
  refine ⟨_, hentry, rfl, ⟨hlookup, hid, hcount, hquantifier rfl⟩, ?_, by decide +kernel, hall, ?_⟩
  · rw [(hcase "cORR" (by decide)).1 hmem, hentry]
  · rw [hunknown]
    exact fun hnot => hnot hmem

end SqlNormal
