import SqlNormal.Environment.Alternatives
import SqlNormal.Projection.OfEntries
import SqlNormal.Proofs.Failure

/-!
# Errors of a projection

That a column's name cannot be found is the one error that a caller may answer by itself. A
projection answers it wherever it names a column. From elsewhere it leaves the projection if a
decision of the surrounding program ends in it.

* `Collaborators.Raises`: the errors that such a decision ends in by itself;
* `Environment.raises_of_lower`: no tree adds an error that may be answered;
* `Environment.bindEntry_of_name_error`: what becomes of a column without a name;
* **`raises_of_bindProjection`**: where an error that may be answered comes from;
* `recoverable_of_missingTable`: the name of a table that is not found leaves the projection.
-/

namespace SqlNormal

/-- A decision of the surrounding program, other than about the name of a column, ends in the error
by itself. -/
inductive Collaborators.Raises (c : Collaborators) (e : Error) : Prop
  | type {target} : c.resolveType target = .error e → Raises c e
  | predicate : c.Refuses e → Raises c e
  | table {parts} : c.resolveTable parts = .error e → Raises c e

/-- The standard decisions end in no error that may be answered. -/
theorem Collaborators.Raises.not_recoverable {e : Error} (h : Collaborators.standard.Raises e) :
    e.isRecoverable = false := by
  cases h with
  | type h =>
    obtain ⟨fault, rfl⟩ := Environment.resolveType_error h
    rfl
  | predicate h => exact absurd h Collaborators.not_refuses_standard
  | @table parts h =>
    change Collaborators.writtenTable parts = .error e at h
    unfold Collaborators.writtenTable at h
    split_ifs at h
    · cases h
      rfl
    · cases h

namespace Environment

variable {env : Environment} {d : Nat}

/-- A form by itself is to blame for no error that may be answered. -/
theorem Fault.raises {t : Tree} {e : Error} (h : env.Fault t e) (he : e.isRecoverable = true) :
    env.collaborators.Raises e := by
  cases h with
  | literal h =>
    rcases literal_error h with ⟨text, -, -, rfl⟩ | ⟨fault, rfl⟩ | ⟨target, h⟩
    · cases he
    · cases he
    · exact .type h
  | identifier h =>
    obtain ⟨-, rfl⟩ := columnOf_error h
    cases he
  | call h | countStar h =>
    rcases resolve_error h with rfl | ⟨construct, cause, rfl⟩
    · cases he
    · cases he
  | cast h => exact .type h
  | extract h =>
    rcases fieldOfToken_error h with rfl | rfl
    · cases he
    · cases he
  | trim | substring | convert => cases he

/-- **No tree adds an error that may be answered.** -/
theorem raises_of_lower {t : Tree} {e : Error} (h : env.lower d t = .error e)
    (he : e.isRecoverable = true) : env.collaborators.Raises e := by
  induction t using Tree.induction generalizing d with
  | step t ih =>
    rcases lower_error h with hfault | hrefuses | ⟨s, hs, hpart⟩
    · exact hfault.raises he
    · exact .predicate hrefuses
    · rcases lowerPart_error.mp hpart with ⟨-, rfl⟩ | ⟨-, hlower⟩
      · cases he
      · exact ih s hs hlower

/-! ## Names of columns -/

/-- A column whose name is not found keeps its own; any other failure to name it is fatal and shows
the text of the expression. -/
theorem nameOf_of_error {name : Option Ident} {n : Node} {cause : Error}
    (h : env.collaborators.resolveName name n = .error cause) :
    (∀ labels qualifier own, n = .column labels qualifier own → cause.isRecoverable = true →
      env.nameOf name n = .ok (some own)) ∧
    (n.isColumn = false ∨ cause.isRecoverable = false →
      env.nameOf name n = .error (.aliasFailed n.toSql cause)) := by
  unfold nameOf
  rw [h]
  dsimp only
  cases hcause : cause.isRecoverable with
  | true =>
    refine ⟨?_, fun hfatal => ?_⟩
    · rintro labels qualifier own rfl -
      rfl
    · have hcolumn : n.isColumn = false := by simpa using hfatal
      cases n with
      | column labels qualifier own => cases hcolumn
      | _ => rfl
  | false => exact ⟨nofun, fun _ => rfl⟩

theorem nameOf_error {name : Option Ident} {n : Node} {e : Error}
    (h : env.nameOf name n = .error e) : ∃ cause, e = .aliasFailed n.toSql cause := by
  unfold nameOf at h
  split at h
  · cases h
  · rename_i cause _
    split at h
    · cases h
    · cases h
      exact ⟨cause, rfl⟩

/-! ## Entries -/

theorem throws_bindEntry_recoverable (entry : SelectEntry) :
    Throws (fun e => e.isRecoverable = true → env.collaborators.Raises e)
      (env.bindEntry entry) := by
  cases entry with
  | wildcard => exact ends_pure trivial
  | tableWildcard parts =>
    have htable : Throws (fun e => e.isRecoverable = true → env.collaborators.Raises e)
        (env.collaborators.resolveTable parts) :=
      ⟨fun e h _ => .table h, fun _ _ => trivial⟩
    exact ends_bind htable fun _ _ => ends_pure trivial
  | expr tree name =>
    have hbind : Throws (fun e => e.isRecoverable = true → env.collaborators.Raises e)
        (env.bind tree) :=
      ⟨fun e h he => raises_of_lower h he, fun _ _ => trivial⟩
    refine ends_bind hbind fun n _ => ?_
    have hname : Throws (fun e => e.isRecoverable = true → env.collaborators.Raises e)
        (env.nameOf name n) := by
      refine ⟨fun e h he => ?_, fun _ _ => trivial⟩
      obtain ⟨cause, rfl⟩ := nameOf_error h
      cases he
    exact ends_bind hname fun _ _ => ends_pure trivial

/-- What becomes of a column that has no name. -/
theorem bindEntry_of_name_error {tree : Tree} {name : Option Ident} {n : Node} {cause : Error}
    (hn : env.bind tree = .ok n) (h : env.collaborators.resolveName name n = .error cause) :
    (∀ labels qualifier own, n = .column labels qualifier own → cause.isRecoverable = true →
      env.bindEntry (.expr tree name) = .ok (n.withName (some own))) ∧
    (n.isColumn = false ∨ cause.isRecoverable = false →
      env.bindEntry (.expr tree name) = .error (.aliasFailed n.toSql cause)) := by
  obtain ⟨hown, hfatal⟩ := nameOf_of_error h
  have hentry : env.bindEntry (.expr tree name) =
      env.nameOf name n >>= fun given => pure (n.withName given) := by
    rw [bindEntry, hn]
    rfl
  rw [hentry]
  refine ⟨fun labels qualifier own hcolumn hcause => ?_, fun hcause => ?_⟩
  · rw [hown labels qualifier own hcolumn hcause]
    rfl
  · rw [hfatal hcause]
    rfl

end Environment

/-! ## Projections -/

/-- **Where an error that may be answered comes from.** If a projection fails with it, a decision
about a type, a predicate or a table ended in it by itself. A column whose name is not found keeps
its own; any other failure to name an expression is fatal and shows its text. -/
theorem raises_of_bindProjection (env : Environment) :
    (∀ entries e, env.bindProjection entries = .error e → e.isRecoverable = true →
      env.collaborators.Raises e) ∧
    ∀ tree name n cause, env.bind tree = .ok n →
      env.collaborators.resolveName name n = .error cause →
      (∀ labels qualifier own, n = .column labels qualifier own → cause.isRecoverable = true →
        env.bindEntry (.expr tree name) = .ok (n.withName (some own))) ∧
      (n.isColumn = false ∨ cause.isRecoverable = false →
        env.bindEntry (.expr tree name) = .error (.aliasFailed n.toSql cause)) := by
  refine ⟨fun entries e h he => ?_, fun tree name n cause hn hcause => ?_⟩
  · have hentries : Ends (fun e => e.isRecoverable = true → env.collaborators.Raises e)
        (fun columns => ∀ column ∈ columns, True) (env.bindProjection entries) :=
      ends_mapM fun entry _ => Environment.throws_bindEntry_recoverable entry
    exact hentries.1 e h he
  · exact Environment.bindEntry_of_name_error hn hcause

/-- A projection that finds no names. -/
def nameless : Environment :=
  { collaborators := ({ names := some .strict } : Policy).collaborators }

/-- Without names a column keeps its own, a sum is fatal, and no projection fails with an error that
may be answered. -/
theorem raises_of_nameless :
    nameless.bindProjection [.expr (.identifier [⟨"a", none⟩]) (some ⟨"c", none⟩)] =
      .ok [.column { rawText := "a", name := some "a" } [] "a"] ∧
    nameless.bindEntry (.expr (.unary .not (.identifier [⟨"a", none⟩])) none) =
      .error (.aliasFailed "NOT a" (.aliasNotFound "")) ∧
    ∀ entries e, nameless.bindProjection entries = .error e → e.isRecoverable = false := by
  obtain ⟨hraises, hnames⟩ := raises_of_bindProjection nameless
  refine ⟨rfl, ?_, fun entries e h => ?_⟩
  · have hnot := hnames (.unary .not (.identifier [⟨"a", none⟩])) none _ _ rfl rfl
    have hsql : Node.toSql (operationOf .not [.column { rawText := "a" } [] "a"]
        (unaryPieces .not "a")) = "NOT a" := by
      decide +kernel
    rw [← hsql]
    exact hnot.2 (.inl rfl)
  · rw [← Bool.not_eq_true]
    intro he
    have hstandard : Collaborators.standard.Raises e := by
      cases hraises entries e h he with
      | type h => exact .type h
      | predicate h =>
        cases h with
        | comparison hop h => exact .predicate (.comparison hop h)
        | condition h hlowered => exact absurd h hlowered
      | table h => exact .table h
    rw [hstandard.not_recoverable] at he
    cases he

/-- The table of `t.*` is not found, and the error leaves the projection. -/
theorem recoverable_of_missingTable :
    ¬ ∀ (env : Environment) (entries : List SelectEntry) (e : Error),
      env.bindProjection entries = .error e → e.isRecoverable = false := by
  intro h
  have hfatal := h { collaborators := ({ tables := some .missing } : Policy).collaborators }
    [.tableWildcard [⟨"t", none⟩]] _ rfl
  cases hfatal

end SqlNormal
