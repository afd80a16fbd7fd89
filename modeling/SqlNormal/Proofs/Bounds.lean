import SqlNormal.Proofs.BesideQueries
import SqlNormal.Proofs.Nesting
import SqlNormal.Proofs.Room

/-!
# Larger bounds

A bound on nesting is spent twice: in the budget for reading and on the levels of a tree. What a
bound admits is admitted by a larger one too, if reading stops where its budget is spent, and if the
larger bound leaves room for its allowance in a word. Without that room nothing is admitted at all:
the program stops over every text.

* `StopsBeyond`: reading stops where its budget is spent;
* `stopsBeyond_readExpr`, `stopsBeyond_readStatements`: so does the reading of plain tokens;
* `readWithin_of_le`, `Environment.bind_of_le`, `Environment.bindProjection_of_le`: what is read and
  bound within a larger bound;
* **`normalize_of_larger_bound`**: two bounds compared.
-/

namespace SqlNormal

namespace Sql

open Reader

/-! ## Reading on two budgets -/

/-- An expression at the beginning of a text, read by given readers. -/
def readExprBy (source : String) (r : Rules) : Except Refusal (Expr × List Lexeme) :=
  readText r.whole source

/-- The statements of a text, read by given readers. -/
def readStatementsBy (source : String) (r : Rules) : Except Refusal (List Statement) :=
  (readText (fun tokens => statementsFrom r false (2 * tokens.length + 1) tokens) source).map (·.1)

/-- Reading on a budget stops for its depth, or no reader below the budget is asked. -/
def StopsBeyond {α : Type} (budget : Nat) (read : Rules → Except Refusal α) : Prop :=
  read (rules budget) = .error .tooDeep ∨
    ∀ floor, read (rulesOver floor budget) = read (rules budget)

/-- What is read on a budget is read on a larger one. -/
theorem StopsBeyond.read_of_le {α : Type} {budget budget' : Nat} {read : Rules → Except Refusal α}
    (h : StopsBeyond budget read) (hle : budget ≤ budget') {a : α}
    (ha : read (rules budget) = .ok a) : read (rules budget') = .ok a := by
  rcases h with hstop | hsame
  · rw [hstop] at ha
    cases ha
  · obtain ⟨k, rfl⟩ := Nat.exists_eq_add_of_le' hle
    rw [rules_add, hsame, ha]

/-! ## Plain tokens -/

/-- Nothing is moved, and the first reading may stop. -/
def Shift.still : Shift :=
  ⟨fun _ l => l, True⟩

/-- The reading of plain tokens stops where the budget is spent. -/
theorem stopsBeyond_of_beside {α : Type} [Placed α] {budget : Nat} {read : Rules → Reader α}
    (h : ∀ r r', r.Beside .still r' → Reader.Beside .still (read r) (read r'))
    {tokens : List Lexeme} (hplain : ∀ l ∈ tokens, l.Plain) :
    StopsBeyond budget fun r => read r tokens := by
  have hstill : Placed.place Shift.still.place tokens = tokens := List.map_id _
  have hover (floor : Rules) : read (rules budget) tokens = .error .tooDeep ∨
      read (rulesOver floor budget) tokens =
        (read (rules budget) tokens).map (Placed.place Shift.still.place) := by
    have hrules := beside_rulesOver (beside_nothing (c := .still) trivial floor) budget
    rw [← rules_add, Nat.zero_add] at hrules
    have hrun := (h _ _ hrules).run tokens fun _ => hplain
    rw [hstill] at hrun
    exact hrun.imp And.right And.left
  by_cases hstop : read (rules budget) tokens = .error .tooDeep
  · exact .inl hstop
  · refine .inr fun floor => ?_
    have hfloor := (hover floor).resolve_left hstop
    have hrules := (hover (rules 0)).resolve_left hstop
    rw [← rules_add, Nat.zero_add] at hrules
    exact hfloor.trans hrules.symm

/-- All words of a text are plain. -/
def PlainText (source : String) : Prop :=
  ∀ tokens, tokenize? source = some tokens → ∀ l ∈ tokens, l.Plain

theorem plainText_of_all {source : String}
    (h : ((tokenize? source).getD []).all (fun l => !openForms.contains l.token.keyword) = true) :
    PlainText source := by
  intro tokens htokens l hl
  rw [htokens] at h
  have hl := List.all_eq_true.mp h l hl
  simpa [Lexeme.Plain] using hl

theorem stopsBeyond_readExpr {source : String} (h : PlainText source) (budget : Nat) :
    StopsBeyond budget (readExprBy source) := by
  unfold readExprBy readText
  cases htokens : tokenize? source with
  | none => exact .inr fun _ => rfl
  | some tokens =>
    exact stopsBeyond_of_beside (fun r r' hr => hr.expr 0) (h tokens htokens)

theorem stopsBeyond_readStatements {source : String} (h : PlainText source) (budget : Nat) :
    StopsBeyond budget (readStatementsBy source) := by
  unfold readStatementsBy readText
  cases htokens : tokenize? source with
  | none => exact .inr fun _ => rfl
  | some tokens =>
    have hread : StopsBeyond budget
        fun r => statementsFrom r false (2 * tokens.length + 1) tokens :=
      stopsBeyond_of_beside (fun r r' hr => beside_statementsFrom _ _) (h tokens htokens)
    rcases hread with hstop | hsame
    · exact .inl (by simp only [hstop]; rfl)
    · exact .inr fun floor => by simp only [hsame floor]

end Sql

open Sql

/-! ## Two bounds -/

/-- What is read within a bound is read within a larger one. -/
theorem readWithin_of_le {α : Type} {bound bound' : Nat} {read : Rules → Except Refusal α}
    (h : StopsBeyond (readingBudget bound) read) (hle : bound ≤ bound') (hroom : HasRoom bound')
    {a : α} (ha : readWithin bound (fun budget => read (rules budget)) = .ok a) :
    readWithin bound' (fun budget => read (rules budget)) = .ok a := by
  have hbudget : readingBudget bound ≤ readingBudget bound' := Nat.add_le_add_right hle _
  exact readWithin_eq_ok.mpr ⟨hroom, h.read_of_le hbudget (readWithin_eq_ok.mp ha).2⟩

namespace Environment

variable {env : Environment} {bound : Nat}

/-- What is bound within a bound is bound within a larger one. -/
theorem bind_of_le (hstd : env.collaborators = .standard) (hpos : 1 ≤ env.config.maxDepth)
    (hle : env.config.maxDepth ≤ bound) {t : Tree} {n : Node} (h : env.bind t = .ok n) :
    (env.withBound bound).bind t = .ok n := by
  have hlevels := height_le_of_lower hstd hpos h
  exact (lower_withBound hstd hle hlevels).trans h

theorem bindEntry_of_le (hstd : env.collaborators = .standard) (hpos : 1 ≤ env.config.maxDepth)
    (hle : env.config.maxDepth ≤ bound) {entry : SelectEntry} {n : Node}
    (h : env.bindEntry entry = .ok n) : (env.withBound bound).bindEntry entry = .ok n := by
  cases entry with
  | wildcard => exact h
  | tableWildcard parts => exact h
  | expr tree name =>
    obtain ⟨m, hm, hname⟩ := bind_eq_ok.mp h
    exact bind_eq_ok.mpr ⟨m, bind_of_le hstd hpos hle hm, hname⟩

theorem bindProjection_of_le (hstd : env.collaborators = .standard)
    (hpos : 1 ≤ env.config.maxDepth) (hle : env.config.maxDepth ≤ bound)
    {entries : List SelectEntry} {ns : List Node} (h : env.bindProjection entries = .ok ns) :
    (env.withBound bound).bindProjection entries = .ok ns :=
  mapM_eq_ok_mono (fun _ _ => bindEntry_of_le hstd hpos hle) h

end Environment

/-- **A larger bound keeps what a smaller one admits**, if reading stops where its budget is spent
and the larger bound leaves room in a word. The program stops over a text, whatever it is, exactly
if there is no such room. -/
theorem normalize_of_larger_bound (config : Config) (session : Session)
    (bound bound' : Nat) (lower higher : Environment) (sql : String)
    (hlower : ({ config := config, session := session } : Environment).withDepth bound = .ok lower)
    (hhigher : ({ config := config, session := session } : Environment).withDepth bound' =
      .ok higher)
    (hle : bound ≤ bound') :
    (bound' + queryAllowance < 2 ^ 64 →
      (StopsBeyond (readingBudget bound) (readExprBy sql) →
        ∀ n, lower.normalizeExpression sql = .ok n → higher.normalizeExpression sql = .ok n) ∧
      (StopsBeyond (readingBudget bound) (readStatementsBy sql) →
        ∀ ns, lower.normalizeProjection sql = .ok ns → higher.normalizeProjection sql = .ok ns)) ∧
    (higher.normalizeExpression sql = .error .overflow ↔ 2 ^ 64 ≤ bound' + queryAllowance) ∧
    (higher.normalizeProjection sql = .error .overflow ↔ 2 ^ 64 ≤ bound' + queryAllowance) := by
  obtain ⟨rfl, hpos⟩ := Environment.eq_of_withDepth hlower
  obtain ⟨rfl, -⟩ := Environment.eq_of_withDepth hhigher
  have hfull : ¬HasRoom bound' ↔ 2 ^ 64 ≤ bound' + queryAllowance := Nat.not_lt
  refine ⟨fun hroom => ⟨fun hstops n h => ?_, fun hstops ns h => ?_⟩,
    Environment.normalizeExpression_eq_overflow.trans hfull,
    Environment.normalizeProjection_eq_overflow.trans hfull⟩
  · obtain ⟨t, ht, hn⟩ := bind_eq_ok.mp h
    obtain ⟨q, hq, ht⟩ := bind_eq_ok.mp ht
    have hread := readWithin_of_le hstops hle hroom hq
    refine bind_eq_ok.mpr ⟨t, bind_eq_ok.mpr ⟨q, hread, ht⟩, answering_eq_ok.mpr ?_⟩
    show ((Environment.withBound _ bound).withBound bound').bind t = .ok n
    exact Environment.bind_of_le rfl hpos hle (answering_eq_ok.mp hn)
  · obtain ⟨entries, hentries, hns⟩ := bind_eq_ok.mp h
    obtain ⟨ss, hss, hentries⟩ := bind_eq_ok.mp hentries
    have hread := readWithin_of_le hstops hle hroom hss
    refine bind_eq_ok.mpr ⟨entries, bind_eq_ok.mpr ⟨ss, hread, hentries⟩, answering_eq_ok.mpr ?_⟩
    show ((Environment.withBound _ bound).withBound bound').bindProjection entries = .ok ns
    exact Environment.bindProjection_of_le rfl hpos hle (answering_eq_ok.mp hns)

/-- `a` and `SELECT a FROM t` mean under the bound 256 what they mean under the bound 1. -/
theorem normalize_column_of_larger_bound :
    ∃ lower higher : Environment,
      ({} : Environment).withDepth 1 = .ok lower ∧ ({} : Environment).withDepth 256 = .ok higher ∧
      StopsBeyond (readingBudget 1) (readExprBy "a") ∧
      StopsBeyond (readingBudget 1) (readStatementsBy "SELECT a FROM t") ∧
      (∃ n, lower.normalizeExpression "a" = .ok n ∧ higher.normalizeExpression "a" = .ok n) ∧
      ∃ ns, lower.normalizeProjection "SELECT a FROM t" = .ok ns ∧
        higher.normalizeProjection "SELECT a FROM t" = .ok ns := by
  have hlower : ({} : Environment).withDepth 1 = .ok (({} : Environment).withBound 1) := rfl
  have hhigher : ({} : Environment).withDepth 256 = .ok (({} : Environment).withBound 256) := rfl
  have hexpr : StopsBeyond (readingBudget 1) (readExprBy "a") :=
    stopsBeyond_readExpr (plainText_of_all (by decide +kernel)) _
  have hquery : StopsBeyond (readingBudget 1) (readStatementsBy "SELECT a FROM t") :=
    stopsBeyond_readStatements (plainText_of_all (by decide +kernel)) _
  obtain ⟨n, hn⟩ : ∃ n, (({} : Environment).withBound 1).normalizeExpression "a" = .ok n :=
    exists_of_isOk (by decide +kernel)
  obtain ⟨ns, hns⟩ : ∃ ns, (({} : Environment).withBound 1).normalizeProjection
      "SELECT a FROM t" = .ok ns :=
    exists_of_isOk (by decide +kernel)
  have hcolumn := (normalize_of_larger_bound {} {} 1 256 _ _ "a" hlower hhigher (by decide)).1
    (by decide)
  have hcolumns := (normalize_of_larger_bound {} {} 1 256 _ _ "SELECT a FROM t" hlower hhigher
    (by decide)).1 (by decide)
  exact ⟨_, _, hlower, hhigher, hexpr, hquery, ⟨n, hn, hcolumn.1 hexpr n hn⟩,
    ⟨ns, hns, hcolumns.2 hquery ns hns⟩⟩

/-- Without room in a word a larger bound does not keep what a smaller one admits: `a` has one level,
and the program stops over it under the bound 2 ^ 64 - 16. -/
theorem column_stops_under_full_bound :
    ¬ ∀ (config : Config) (session : Session) (bound bound' : Nat) (lower higher : Environment)
      (sql : String),
      ({ config := config, session := session } : Environment).withDepth bound = .ok lower →
      ({ config := config, session := session } : Environment).withDepth bound' = .ok higher →
      bound ≤ bound' → bound' < 2 ^ 64 → StopsBeyond (readingBudget bound) (readExprBy sql) →
      ∀ n, lower.normalizeExpression sql = .ok n → higher.normalizeExpression sql = .ok n := by
  intro h
  have hexpr : StopsBeyond (readingBudget 1) (readExprBy "a") :=
    stopsBeyond_readExpr (plainText_of_all (by decide +kernel)) _
  obtain ⟨n, hn⟩ : ∃ n, (({} : Environment).withBound 1).normalizeExpression "a" = .ok n :=
    exists_of_isOk (by decide +kernel)
  have hstopped : (({} : Environment).withBound (2 ^ 64 - 16)).normalizeExpression "a" =
      .error .overflow :=
    Environment.normalizeExpression_eq_overflow.mpr (by decide)
  have hadmitted := h {} {} 1 (2 ^ 64 - 16) _ (({} : Environment).withBound (2 ^ 64 - 16)) "a"
    rfl rfl (by decide) (by decide) hexpr n hn
  rw [hstopped] at hadmitted
  cases hadmitted

end SqlNormal
