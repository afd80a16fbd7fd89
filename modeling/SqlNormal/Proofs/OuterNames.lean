import SqlNormal.Normalize
import SqlNormal.Proofs.Trace

/-!
# Names of an enclosing query

An enclosing query names the columns of a projection in their places, or refuses to and leaves them
as they are. Nothing else of a column changes. A star stands for many columns and has no name of its
own; if it is given one nevertheless, its item is not SQL any more.

* `nameInPlace`: the columns named one after the other in their places;
* `run_nameInPlace`: this is what `applyOuterNames` gives;
* `Node.IsNamed`: an item with a name behind it;
* `Environment.stars_of_bindProjection`: the stars of a projection are those of its entries, and
  none of them is named;
* **`named_of_bindProjection`**: a projection with the names of an enclosing query.
-/

namespace SqlNormal

/-! ## Columns in their places -/

/-- Names the column at a place. -/
def nameAt (place : Nat) (name : String) : EStateM Error (List Node) Unit :=
  modify fun columns => columns.modify place fun n => n.withOuterName name

/-- Names the columns from a place on. -/
def nameFrom (place : Nat) : List String → EStateM Error (List Node) Unit
  | [] => pure ()
  | name :: names => do
    nameAt place name
    nameFrom (place + 1) names

/-- Names the columns if there is a name for each. -/
def nameInPlace (names : List String) : EStateM Error (List Node) Unit := do
  let columns ← get
  if columns.length = names.length then nameFrom 0 names
  else
    throw (.aliasCount (", ".intercalate (columns.map Node.toSql)) names.length columns.length)

/-- One step names one column and leaves the others as they are. -/
theorem run_nameAt (before behind : List Node) (n : Node) (name : String) :
    (nameAt before.length name).run (before ++ n :: behind) =
      .ok () (before ++ n.withOuterName name :: behind) := by
  have hplace : (before ++ n :: behind).modify before.length (fun n => n.withOuterName name) =
      before ++ n.withOuterName name :: behind := by
    simp [List.modify_eq_take_cons_drop]
  rw [← hplace]
  rfl

/-- The columns in front of the place keep what they have. -/
theorem run_nameFrom (before : List Node) {columns : List Node} {names : List String}
    (h : columns.length = names.length) :
    (nameFrom before.length names).run (before ++ columns) =
      .ok () (before ++ List.zipWith Node.withOuterName columns names) := by
  induction names generalizing before columns with
  | nil =>
    obtain rfl := List.length_eq_zero_iff.mp h
    rfl
  | cons name names ih =>
    obtain ⟨n, rest, rfl⟩ := List.exists_cons_of_length_eq_add_one h
    have hstep : (nameFrom before.length (name :: names)).run (before ++ n :: rest) =
        (nameFrom (before.length + 1) names).run (before ++ n.withOuterName name :: rest) := by
      rw [nameFrom, EStateM.run_bind, run_nameAt]
    have hrest := ih (before ++ [n.withOuterName name]) (Nat.succ.inj h)
    rw [hstep]
    simpa using hrest

/-- **What is named in place is what `applyOuterNames` gives**; an error leaves the columns as they
are. -/
theorem run_nameInPlace (columns : List Node) (names : List String) :
    (nameInPlace names).run columns =
      match applyOuterNames columns names with
      | .ok named => .ok () named
      | .error e => .error e columns := by
  have hget : (nameInPlace names).run columns =
      (if columns.length = names.length then nameFrom 0 names
        else throw (.aliasCount (", ".intercalate (columns.map Node.toSql)) names.length
          columns.length)).run columns := rfl
  rw [hget, applyOuterNames]
  split_ifs with h
  · exact run_nameFrom [] h
  · rfl

namespace Node

variable {n : Node}

/-! ## Named columns -/

/-- All columns, or those of a table. -/
def isStar : Node → Bool
  | columns _ _ => true
  | _ => false

/-- The node without the name of an enclosing query. -/
def withoutOuterName (n : Node) : Node :=
  n.relabel fun l => { l with outerName := none }

/-- The item of the node is its text with a name behind it. -/
def IsNamed (n : Node) : Prop :=
  ∃ name, n.projectionItem = n.toSql ++ " AS " ++ name

theorem displayName_withOuterName (name : String) : (n.withOuterName name).displayName = name := by
  cases n <;> rfl

theorem withoutOuterName_withOuterName (name : String) :
    (n.withOuterName name).withoutOuterName = n.withoutOuterName := by
  cases n <;> rfl

@[simp] theorem isStar_relabel (f : Labels → Labels) : (n.relabel f).isStar = n.isStar := by
  cases n <;> rfl

theorem isNamed_iff : n.IsNamed ↔ n.writtenName?.isSome := by
  unfold IsNamed projectionItem
  cases n.writtenName? with
  | some name => exact iff_of_true ⟨_, rfl⟩ rfl
  | none =>
    refine iff_of_false ?_ (by simp)
    rintro ⟨name, hitem⟩
    have hlength : n.toSql.length = (n.toSql ++ " AS " ++ name).length :=
      congrArg String.length hitem
    have hword : " AS ".length = 4 := rfl
    rw [String.length_append, String.length_append, hword] at hlength
    omega

theorem writtenName?_columns (l : Labels) (qualifier : List String) :
    (columns l qualifier).writtenName? = l.givenName? := by
  cases hname : l.givenName? <;> simp [writtenName?, labels, hname]

/-- A star has the name that it is given behind it. -/
theorem isNamed_of_isStar (h : n.isStar = true) (name : String) :
    (n.withOuterName name).IsNamed := by
  rw [isNamed_iff]
  cases n with
  | columns l qualifier => rfl
  | _ => cases h

end Node

section Named

variable {columns named : List Node} {names : List String}

theorem applyOuterNames_eq_ok : applyOuterNames columns names = .ok named ↔
    columns.length = names.length ∧ named = List.zipWith Node.withOuterName columns names := by
  unfold applyOuterNames
  split_ifs with h
  · rw [pure_eq_ok, eq_comm, and_iff_right h]
  · exact iff_of_false nofun fun hboth => h hboth.1

theorem applyOuterNames_eq_error {e : Error} : applyOuterNames columns names = .error e ↔
    columns.length ≠ names.length ∧
      e = .aliasCount (", ".intercalate (columns.map Node.toSql)) names.length columns.length := by
  unfold applyOuterNames
  split_ifs with h
  · exact iff_of_false pure_ne_error fun hboth => hboth.1 h
  · refine ⟨?_, fun ⟨_, he⟩ => he ▸ rfl⟩
    rintro ⟨⟩
    exact ⟨h, rfl⟩

variable (h : columns.length = names.length)
include h

theorem map_displayName_named :
    (List.zipWith Node.withOuterName columns names).map Node.displayName = names := by
  refine List.ext_getElem (by simp [h]) fun i hi hi' => ?_
  simp [Node.displayName_withOuterName]

theorem map_withoutOuterName_named :
    (List.zipWith Node.withOuterName columns names).map Node.withoutOuterName =
      columns.map Node.withoutOuterName := by
  refine List.ext_getElem (by simp [h]) fun i hi hi' => ?_
  simp [Node.withoutOuterName_withOuterName]

/-- No star has a name behind it exactly if there is no star among the columns. -/
theorem named_stars_iff :
    (∀ n ∈ List.zipWith Node.withOuterName columns names, n.isStar = true → ¬n.IsNamed) ↔
      ∀ n ∈ columns, n.isStar = false := by
  constructor
  · intro hnamed n hn
    obtain ⟨i, hi, rfl⟩ := List.mem_iff_getElem.mp hn
    rw [← Bool.not_eq_true]
    intro hstar
    have hmem : columns[i].withOuterName names[i] ∈ List.zipWith Node.withOuterName columns names :=
      List.mem_iff_getElem.mpr ⟨i, by simp [hi, ← h], by simp⟩
    exact hnamed _ hmem (by simpa [Node.withOuterName] using hstar)
      (Node.isNamed_of_isStar hstar names[i])
  · intro hstars n hn hstar
    obtain ⟨i, hi, rfl⟩ := List.mem_iff_getElem.mp hn
    have hi : i < columns.length := by
      simp at hi
      exact hi.1
    have hnot := hstars columns[i] (List.getElem_mem hi)
    simp [Node.withOuterName, hnot] at hstar

end Named

/-! ## Stars of a projection -/

/-- All columns, or those of a table. -/
def SelectEntry.isStar : SelectEntry → Bool
  | wildcard | tableWildcard _ => true
  | expr _ _ => false

namespace Environment

variable {env : Environment}

/-- No tree becomes a star. -/
theorem isStar_of_lower (hstd : env.collaborators = .standard) {d : Nat} {t : Tree} {n : Node}
    (h : env.lower d t = .ok n) : n.isStar = false := by
  refine lower_induction (P := fun _ _ n => n.isStar = false) hstd (fun d t n h => ?_) h
  cases h with
  | literal h =>
    obtain ⟨v, -, -, ⟨labels, rfl⟩ | ⟨labels, target, rfl⟩⟩ := forms_of_literal h
    · rfl
    · rfl
  | identifier h =>
    obtain ⟨labels, own, -, rfl⟩ := column_of_columnOf h
    rfl
  | nested h => simpa [Node.withText, Node.inParens] using h.2
  | call =>
    unfold spelledCall
    split_ifs
    · rfl
    · rfl
  | _ => rfl

/-- An entry becomes a star if it is one, and no star is named. -/
theorem star_of_bindEntry (hstd : env.collaborators = .standard) {entry : SelectEntry} {n : Node}
    (h : env.bindEntry entry = .ok n) :
    n.isStar = entry.isStar ∧ (n.isStar = true → ¬n.IsNamed) := by
  have hbare (labels : Labels) (qualifier : List String) (hlabels : labels.givenName? = none) :
      ¬(Node.columns labels qualifier).IsNamed := by
    rw [Node.isNamed_iff, Node.writtenName?_columns, hlabels]
    exact Bool.false_ne_true
  cases entry with
  | wildcard =>
    obtain rfl := pure_eq_ok.mp h
    exact ⟨rfl, fun _ => hbare _ _ rfl⟩
  | tableWildcard parts =>
    obtain ⟨qualifier, -, h⟩ := bind_eq_ok.mp h
    obtain rfl := pure_eq_ok.mp h
    exact ⟨rfl, fun _ => hbare _ _ rfl⟩
  | expr tree name =>
    obtain ⟨m, hm, h⟩ := bind_eq_ok.mp h
    obtain ⟨given, -, h⟩ := bind_eq_ok.mp h
    obtain rfl := pure_eq_ok.mp h
    have hnot : (m.withName given).isStar = false := by
      rw [Node.withName, Node.isStar_relabel]
      exact isStar_of_lower hstd hm
    exact ⟨hnot, fun hstar => absurd (hnot ▸ hstar) Bool.false_ne_true⟩

/-- **The stars of a projection** are those of its entries, and none of them is named. -/
theorem stars_of_bindProjection (hstd : env.collaborators = .standard)
    {entries : List SelectEntry} {columns : List Node}
    (h : env.bindProjection entries = .ok columns) :
    columns.map Node.isStar = entries.map SelectEntry.isStar ∧
      ∀ n ∈ columns, n.isStar = true → ¬n.IsNamed := by
  have hentries := forall₂_of_mapM h
  clear h
  induction hentries with
  | nil => exact ⟨rfl, nofun⟩
  | cons hentry _ ih =>
    obtain ⟨hstar, hnamed⟩ := star_of_bindEntry hstd hentry
    refine ⟨?_, List.forall_mem_cons.mpr ⟨hnamed, ih.2⟩⟩
    rw [List.map_cons, List.map_cons, hstar, ih.1]

end Environment

/-! ## Named projections -/

/-- **A projection with the names of an enclosing query.** If there is a name for each column, every
column is shown by its own and nothing else of it has changed. No star has a name behind it exactly
if there is none among the columns, though by itself a projection names no star. If the numbers
differ, the columns are left as they are. -/
theorem named_of_bindProjection (env : Environment) (entries : List SelectEntry)
    (columns : List Node) (h : env.bindProjection entries = .ok columns) (names : List String) :
    (∀ named, (nameInPlace names).run columns = .ok () named →
      applyOuterNames columns names = .ok named ∧
      named.map Node.displayName = names ∧
      named.map Node.withoutOuterName = columns.map Node.withoutOuterName ∧
      ((∀ n ∈ named, n.isStar = true → ¬n.IsNamed) ↔ ∀ n ∈ columns, n.isStar = false)) ∧
    (∀ e after, (nameInPlace names).run columns = .error e after →
      applyOuterNames columns names = .error e ∧ columns.length ≠ names.length ∧
      after = columns) ∧
    (env.collaborators = .standard →
      columns.map Node.isStar = entries.map SelectEntry.isStar ∧
      ∀ n ∈ columns, n.isStar = true → ¬n.IsNamed) := by
  refine ⟨fun named hrun => ?_, fun e after hrun => ?_, fun hstd =>
    Environment.stars_of_bindProjection hstd h⟩
  · rw [run_nameInPlace] at hrun
    cases happly : applyOuterNames columns names with
    | error e => simp [happly] at hrun
    | ok named' =>
      obtain rfl : named' = named := by simpa [happly] using hrun
      obtain ⟨hlength, rfl⟩ := applyOuterNames_eq_ok.mp happly
      exact ⟨rfl, map_displayName_named hlength, map_withoutOuterName_named hlength,
        named_stars_iff hlength⟩
  · rw [run_nameInPlace] at hrun
    cases happly : applyOuterNames columns names with
    | ok named => simp [happly] at hrun
    | error e' =>
      obtain ⟨rfl, rfl⟩ : e' = e ∧ columns = after := by simpa [happly] using hrun
      exact ⟨rfl, (applyOuterNames_eq_error.mp happly).1, rfl⟩

/-- `a AS z, b`. -/
def twoColumns : List SelectEntry :=
  [.expr (.identifier [⟨"a", none⟩]) (some ⟨"z", none⟩), .expr (.identifier [⟨"b", none⟩]) none]

/-- The columns are shown by their new names, of which the column's own one is not written; one name
is not enough for both. -/
theorem named_of_twoColumns : ∃ columns named,
    ({} : Environment).bindProjection twoColumns = .ok columns ∧
    ((nameInPlace ["a", "y"]).run columns = .ok () named ∧
      projectionText named = "a, b AS y" ∧
      named.map Node.displayName = ["a", "y"] ∧
      named.map Node.withoutOuterName = columns.map Node.withoutOuterName ∧
      ∀ n ∈ named, n.isStar = true → ¬n.IsNamed) ∧
    ∃ e after, (nameInPlace ["y"]).run columns = .error e after ∧ after = columns := by
  obtain ⟨columns, hcolumns, ⟨named, hrun, htext⟩, e, after, hfew⟩ : ∃ columns,
      ({} : Environment).bindProjection twoColumns = .ok columns ∧
      (∃ named, (nameInPlace ["a", "y"]).run columns = .ok () named ∧
        projectionText named = "a, b AS y") ∧
      ∃ e after, (nameInPlace ["y"]).run columns = .error e after :=
    ⟨_, rfl, ⟨_, rfl, by decide +kernel⟩, _, _, rfl⟩
  obtain ⟨hnamed, -, hstars⟩ := named_of_bindProjection {} _ _ hcolumns ["a", "y"]
  obtain ⟨-, hnames, hsame, hsql⟩ := hnamed _ hrun
  obtain ⟨-, -, hafter⟩ := (named_of_bindProjection {} _ _ hcolumns ["y"]).2.1 _ _ hfew
  have hnone : ∀ n ∈ columns, n.isStar = false := by
    intro n hn
    have hmem : n.isStar ∈ twoColumns.map SelectEntry.isStar :=
      (hstars rfl).1 ▸ List.mem_map_of_mem hn
    simpa [twoColumns, SelectEntry.isStar] using hmem
  exact ⟨columns, named, hcolumns, ⟨hrun, htext, hnames, hsame, hsql.mpr hnone⟩, e, after, hfew,
    hafter⟩

/-- A star that is given a name. -/
theorem star_named : ∃ columns named,
    ({} : Environment).normalizeProjection "SELECT * FROM t" = .ok columns ∧
    (nameInPlace ["x"]).run columns = .ok () named ∧
    projectionText named = "* AS x" ∧
    ¬∀ n ∈ named, n.isStar = true → ¬n.IsNamed := by
  have hall : (({} : Environment).normalizeProjection "SELECT * FROM t").toOption.map
      (fun columns => (columns.map Node.isStar,
        projectionText (List.zipWith Node.withOuterName columns ["x"]))) =
      some ([true], "* AS x") := by
    decide +kernel
  obtain ⟨columns, hcolumns, hfacts⟩ := Option.map_eq_some_iff.mp hall
  obtain ⟨hstars, htext⟩ := Prod.mk.inj hfacts
  have hlength : columns.length = ["x"].length := by
    simpa using congrArg List.length hstars
  have hrun : (nameInPlace ["x"]).run columns =
      .ok () (List.zipWith Node.withOuterName columns ["x"]) := by
    rw [run_nameInPlace, applyOuterNames_eq_ok.mpr ⟨hlength, rfl⟩]
  refine ⟨columns, _, toOption_eq_some.mp hcolumns, hrun, htext, fun hnot => ?_⟩
  have hnone := (named_stars_iff hlength).mp hnot
  have htrue : true ∈ columns.map Node.isStar := hstars ▸ List.mem_singleton.mpr rfl
  obtain ⟨n, hn, hstar⟩ := List.mem_map.mp htrue
  exact Bool.false_ne_true ((hnone n hn).symm.trans hstar)

end SqlNormal
