import SqlNormal.Proofs.Records

/-!
# Sorted queries

The columns of a sorted query are compared with the expected lines after both were sorted, each list
by itself. Sorted lists are equal exactly if they have the same members as often, so the order of
the expected lines plays no part.

* `Environment.sortTexts_eq_iff`: what sorting leaves of a list;
* `Environment.meetsQuery_sorted_iff`: what a sorted query expects;
* **`runRecord_sorted`**: the report on a sorted query;
* `Environment.runRecords_reordered`, `Environment.runRecords_sortedQuery`: runs of records with the
  expected lines in another order, and with all queries sorted.
-/

namespace SqlNormal

/-- A projection of one column is that column. -/
@[simp] theorem projectionText_singleton (n : Node) : projectionText [n] = n.projectionItem :=
  rfl

namespace Environment

/-! ## Sorted texts -/

theorem sortTexts_perm (texts : List String) : (sortTexts texts).Perm texts :=
  List.mergeSort_perm texts _

theorem pairwise_sortTexts (texts : List String) : (sortTexts texts).Pairwise (· ≤ ·) := by
  have htrans (a b c : String) (hab : decide (a ≤ b) = true) (hbc : decide (b ≤ c) = true) :
      decide (a ≤ c) = true :=
    decide_eq_true (String.le_trans (of_decide_eq_true hab) (of_decide_eq_true hbc))
  have htotal (a b : String) : (decide (a ≤ b) || decide (b ≤ a)) = true := by
    simpa using String.le_total a b
  have hsorted := List.pairwise_mergeSort htrans htotal texts
  simp only [decide_eq_true_eq] at hsorted
  exact hsorted

/-- Two lists are sorted to the same one exactly if one is a rearrangement of the other. -/
theorem sortTexts_eq_iff {texts others : List String} :
    sortTexts texts = sortTexts others ↔ texts.Perm others := by
  constructor
  · intro h
    exact (sortTexts_perm texts).symm.trans (h ▸ sortTexts_perm others)
  · intro h
    have hperm : (sortTexts texts).Perm (sortTexts others) :=
      (sortTexts_perm texts).trans (h.trans (sortTexts_perm others).symm)
    exact hperm.eq_of_pairwise (fun _ _ _ _ => String.le_antisymm) (pairwise_sortTexts texts)
      (pairwise_sortTexts others)

/-! ## One query -/

variable {env : Environment} {sql : String} {expected reordered : List String}

/-- What a sorted query expects: the columns, written one by one, in some order. -/
theorem meetsQuery_sorted_iff : env.meetsQuery sql expected true = some true ↔
    ∃ columns, env.normalizeProjection sql = .ok columns ∧
      (columns.map fun c => projectionText [c]).Perm expected := by
  unfold meetsQuery
  rcases env.normalizeProjection sql with (_ | _) | columns <;> simp [answer?, sortTexts_eq_iff]

theorem meetsQuery_reordered (h : reordered.Perm expected) :
    env.meetsQuery sql reordered true = env.meetsQuery sql expected true := by
  simp only [meetsQuery, if_true, sortTexts_eq_iff.mpr h]

/-- A query whose columns stand in the expected order has the expected columns. -/
theorem meetsQuery_sorted_of_meetsQuery {sorted : Bool}
    (h : env.meetsQuery sql expected sorted = some true) :
    env.meetsQuery sql expected true = some true := by
  cases sorted with
  | true => exact h
  | false =>
    unfold meetsQuery at h ⊢
    rcases hcolumns : env.normalizeProjection sql with (_ | _) | columns
    · simp [hcolumns, answer?] at h
    · simp [hcolumns, answer?] at h
    · have hexpected : columns.map Node.projectionItem = expected := by
        simpa [hcolumns, answer?] using h
      simp [answer?, hexpected]

theorem runRecord_query_iff {sorted : Bool} :
    env.runRecord (.query sql expected sorted) = some (env, verdict true) ↔
      env.meetsQuery sql expected sorted = some true := by
  have hverdict (passes : Bool) : verdict passes = verdict true ↔ passes = true := by
    cases passes <;> simp [verdict]
  simp [runRecord, hverdict]

end Environment

/-- **A sorted query compares its columns as a multiset.** It passes exactly if its text has a
normal form whose columns, written one by one, are the expected lines in some order. Another order
of the expected lines changes nothing, and a query that passes in the given order also passes
sorted. -/
theorem runRecord_sorted (env : Environment) (sql : String) (expected : List String) :
    (env.runRecord (.query sql expected true) = some (env, Environment.verdict true) ↔
      ∃ columns, env.normalizeProjection sql = .ok columns ∧
        (columns.map fun c => projectionText [c]).Perm expected) ∧
    (∀ reordered : List String, reordered.Perm expected →
      env.runRecord (.query sql reordered true) = env.runRecord (.query sql expected true)) ∧
    (env.runRecord (.query sql expected false) = some (env, Environment.verdict true) →
      env.runRecord (.query sql expected true) = some (env, Environment.verdict true)) := by
  rw [Environment.runRecord_query_iff, Environment.runRecord_query_iff]
  refine ⟨Environment.meetsQuery_sorted_iff, fun reordered h => ?_,
    Environment.meetsQuery_sorted_of_meetsQuery⟩
  rw [Environment.runRecord, Environment.runRecord, Environment.meetsQuery_reordered h]

/-- A column that is expected twice: another order of the lines passes only sorted, and lines that
hold another column twice do not pass. -/
theorem runRecord_sorted_threeColumns :
    let sql := "SELECT b, a, b FROM t"
    let passes (expected : List String) (sorted : Bool) : Prop :=
      ({} : Environment).runRecord (.query sql expected sorted) =
        some ({}, Environment.verdict true)
    ["a", "b", "b"].Perm ["b", "a", "b"] ∧ passes ["b", "a", "b"] false ∧
      ¬passes ["a", "b", "b"] false ∧ passes ["a", "b", "b"] true ∧
      ¬passes ["a", "a", "b"] true := by
  intro sql passes
  have horder : ["a", "b", "b"].Perm ["b", "a", "b"] := by decide
  have hcolumns : (({} : Environment).normalizeProjection sql).map
      (·.map fun c => projectionText [c]) = .ok ["b", "a", "b"] := by decide +kernel
  have hgiven : passes ["b", "a", "b"] false :=
    Environment.runRecord_query_iff.mpr (by decide +kernel)
  have hother : ¬passes ["a", "b", "b"] false :=
    mt Environment.runRecord_query_iff.mp (by decide +kernel)
  obtain ⟨-, hreordered, hsorted⟩ := runRecord_sorted {} sql ["b", "a", "b"]
  refine ⟨horder, hgiven, hother, ?_, fun hpasses => ?_⟩
  · unfold passes
    rw [hreordered _ horder]
    exact hsorted hgiven
  · obtain ⟨columns, hread, hperm⟩ := (runRecord_sorted {} sql ["a", "a", "b"]).1.mp hpasses
    rw [hread] at hcolumns
    have htexts : (columns.map fun c => projectionText [c]) = ["b", "a", "b"] :=
      Except.ok.inj hcolumns
    rw [htexts] at hperm
    exact absurd hperm (by decide)

/-! ## Runs -/

namespace Record

/-- The same record, but the expected lines of a sorted query may stand in another order. -/
inductive Reordered : Record → Record → Prop
  | same (record : Record) : Reordered record record
  | query (sql : String) {expected reordered : List String} : reordered.Perm expected →
      Reordered (.query sql reordered true) (.query sql expected true)

/-- A query with its columns sorted; every other record is as it was. -/
def sortedQuery : Record → Record
  | query sql expected _ => query sql expected true
  | record => record

theorem sortedQuery_eq_halt_iff {record : Record} :
    record.sortedQuery = .halt ↔ record = .halt := by
  cases record <;> simp [sortedQuery]

end Record

/-- A report that is as good as another one: it counts as many records, no fewer of which passed. -/
def Report.AsGoodAs (r s : Report) : Prop :=
  s.passed ≤ r.passed ∧ r.skipped = s.skipped ∧ r.total = s.total

theorem Report.AsGoodAs.merge {r r' s s' : Report} (h : r.AsGoodAs s) (h' : r'.AsGoodAs s') :
    (r.merge r').AsGoodAs (s.merge s') := by
  unfold AsGoodAs Report.merge total at *
  dsimp only
  omega

namespace Environment

variable {env : Environment}

theorem runRecord_reordered {record other : Record} (h : record.Reordered other) :
    env.runRecord record = env.runRecord other := by
  cases h with
  | same => rfl
  | query sql hperm => simp only [runRecord, meetsQuery_reordered hperm]

/-- The order of the lines that sorted queries expect plays no part in a run. -/
theorem runRecords_reordered {records others : List Record}
    (h : List.Forall₂ Record.Reordered records others) :
    env.runRecords records = env.runRecords others := by
  induction h generalizing env with
  | nil => rfl
  | @cons record other records others hrecord _ ih =>
    by_cases hhalt : record = .halt
    · subst hhalt
      cases hrecord
      rfl
    · have hother : other ≠ .halt := by
        rintro rfl
        cases hrecord
        exact hhalt rfl
      rw [runRecords_cons hhalt, runRecords_cons hother, runRecord_reordered hrecord]
      simp only [ih]

/-- Two outcomes of a run: both stopped, or both came to an end in one environment and the first
has a report that is as good. -/
def AsGoodAs (run run' : Option (Environment × Report)) : Prop :=
  Option.Rel (fun one one' => one.1 = one'.1 ∧ one.2.AsGoodAs one'.2) run run'

theorem asGoodAs_refl (run : Option (Environment × Report)) : AsGoodAs run run := by
  cases run with
  | none => exact .none
  | some one => exact .some ⟨rfl, le_rfl, rfl, rfl⟩

theorem AsGoodAs.andThen {run run' : Option (Environment × Report)} (h : AsGoodAs run run')
    {behind behind' : Environment → Option (Environment × Report)}
    (hbehind : ∀ middle, AsGoodAs (behind middle) (behind' middle)) :
    AsGoodAs (Environment.andThen run behind) (Environment.andThen run' behind') := by
  cases h with
  | none => exact .none
  | @some one one' hone =>
    obtain ⟨middle, r₁⟩ := one
    obtain ⟨_, r₁'⟩ := one'
    obtain ⟨rfl, hone⟩ := hone
    have hmore := hbehind middle
    simp only [Environment.andThen, Option.bind_some]
    generalize behind middle = more at hmore ⊢
    generalize behind' middle = more' at hmore ⊢
    cases hmore with
    | none => exact .none
    | some hmore => exact .some ⟨hmore.1, hone.merge hmore.2⟩

/-- Sorting the columns of a query leaves the environment as it is and fails nothing that passed. -/
theorem runRecord_sortedQuery (env : Environment) (record : Record) :
    AsGoodAs (env.runRecord record.sortedQuery) (env.runRecord record) := by
  cases record with
  | query sql expected sorted =>
    have hsame : env.meetsQuery sql expected true = none ↔
        env.meetsQuery sql expected sorted = none := by
      simp [meetsQuery]
    show AsGoodAs ((env.meetsQuery sql expected true).map _)
      ((env.meetsQuery sql expected sorted).map _)
    rcases hpasses : env.meetsQuery sql expected sorted with _ | _ | _
    · rw [hsame.mpr hpasses]
      exact .none
    · rcases hsorted : env.meetsQuery sql expected true with _ | _ | _
      · rw [hsame.mp hsorted] at hpasses
        cases hpasses
      · exact .some ⟨rfl, le_rfl, rfl, rfl⟩
      · exact .some ⟨rfl, Nat.zero_le _, rfl, rfl⟩
    · rw [meetsQuery_sorted_of_meetsQuery hpasses]
      exact asGoodAs_refl _
  | statement | set | halt | skip => exact asGoodAs_refl _

/-- Sorting the columns of all queries leaves the same environment behind, and no fewer records
pass. -/
theorem runRecords_sortedQuery (env : Environment) (records : List Record) :
    AsGoodAs (env.runRecords (records.map Record.sortedQuery)) (env.runRecords records) := by
  induction records generalizing env with
  | nil => exact asGoodAs_refl _
  | cons record records ih =>
    by_cases hhalt : record = .halt
    · subst hhalt
      exact asGoodAs_refl _
    · have hsorted : record.sortedQuery ≠ .halt := mt Record.sortedQuery_eq_halt_iff.mp hhalt
      rw [List.map_cons, runRecords_cons hsorted, runRecords_cons hhalt]
      exact (runRecord_sortedQuery env record).andThen ih

end Environment

end SqlNormal
