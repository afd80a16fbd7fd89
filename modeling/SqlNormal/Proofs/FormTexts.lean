import SqlNormal.Proofs.CallTexts

/-!
# Casts and CASEs that are read again

A cast is written with the name of its type, and a CASE branch by branch. If the parts of such a
form are read again, the form is.

* **`Node.rereads_cast`**: casts to the types that the language knows or that are passed through
  again;
* `Node.exists_branches`, `Node.exists_lowered`: branches of a CASE;
* **`Node.rereads_case`**: searched CASEs.
-/

namespace SqlNormal

open Sql (Token Spells AfterOperand isWord spells_plainWord spells_behind afterName_blank)
open Sql.Reader (Begins Whole WholeBranch plainWord branchTokens clauseTokens)
open Climbing (afterOperand_blank)

variable {env : Environment}

namespace Node

/-! ## Casts -/

section Cast

variable {l : Labels} (hl : l.parenthesized = false) (hstd : env.collaborators = .standard)
include hl hstd

/-- **A cast** is read again if its operand is, and a name of the type that is passed through. -/
theorem rereads_cast {n : Node} {target : CastTarget} {type : SqlType}
    (htype : Collaborators.standard.resolveType target = .ok type)
    (hcustom : ∀ name, type = .custom name → Sql.Reader.PassesAgain name)
    (h : n.Rereads env) : (cast l n type).Rereads env := by
  obtain ⟨-, tokens, t, hspells, hphrase, hheight, hyields⟩ := h
  obtain ⟨ttype, htokens, hbracket, hpronounces⟩ :=
    Sql.Reader.pronounced_toSql hcustom (Sql.Reader.sizes_of_resolveType htype)
  have htext : (cast l n type).toSql =
      "CAST" ++ "(" ++ (n.toSql ++ " AS " ++ type.toSql) ++ ")" := by
    rw [toSql, wrap, hl]
    simp [String.append_assoc]
  have hbody : Spells AfterOperand (n.toSql ++ " AS " ++ type.toSql).toList
      (tokens ++ plainWord "AS" :: ttype) := by
    have hlist : (n.toSql ++ " AS " ++ type.toSql).toList =
        n.toSql.toList ++ (' ' :: ("AS".toList ++ (' ' :: type.toSql.toList))) := by
      simp
    rw [hlist]
    exact hspells.append (spells_behind ((spells_plainWord (by decide)).append
      (spells_behind htokens) fun _ _ => afterName_blank _)) fun _ _ => afterOperand_blank _
  have hword : isWord "CAST" := by decide
  have hall := Sql.spells_enclosed hword hbody
  have hbegins : Begins _ (.cast t (Sql.castTarget ⟨type.toSql, .other⟩)) closedLevel :=
    Sql.Reader.begins_cast (hphrase.toWhole n.bindLevel_pos) hpronounces hbracket
  rw [← htext] at hall
  refine .of_begins hl rfl ?_ hall hbegins ?_ (.of_step hstd fun d hd => ?_)
  · rw [htext, String.append_assoc, String.append_assoc]
    exact Sql.followsSign_word hword _
  · rw [levels, Labels.levels, hl, if_neg Bool.false_ne_true]
    exact Tree.height_le_iff.mpr (by simpa using hheight)
  · obtain ⟨m, hm, hecho⟩ := hyields.part (by simp) hd
    refine ⟨_, .cast hm (hstd ▸ Sql.Reader.resolveType_toSql htype hcustom), ?_⟩
    exact {
      toSql := by rw [toSql, toSql, hecho.toSql, wrap, wrap, hl]
      references := by rw [references_cast, references_cast, hecho.references]
      parenthesized := hl.symm
      operator := rfl
      own := rfl }

end Cast

/-! ## Branches -/

/-- The text of branches. -/
def branchesText (branches : List (Node × Node)) : String :=
  String.join (branches.map fun b => " WHEN " ++ b.1.toSql ++ " THEN " ++ b.2.toSql)

/-- A node that stands for another one, part by part of a branch. -/
def EchoBranch (c : CaseBranch) (b : Node × Node) : Prop :=
  c.predicate.Echoes b.1 ∧ c.result.Echoes b.2

/-- Branches whose parts are read again are branches of phrases. -/
theorem exists_branches {branches : List (Node × Node)}
    (h : ∀ b ∈ branches, b.1.Rereads env ∧ b.2.Rereads env) : ∃ tbs bs,
      (∀ {cs : List Char} {ts : List Token}, Spells AfterOperand (' ' :: cs) ts →
        Spells AfterOperand ((branchesText branches).toList ++ ' ' :: cs)
          (tbs.flatMap branchTokens ++ ts)) ∧
      List.Forall₂ WholeBranch tbs bs ∧
      (∀ b ∈ bs, b.1.height ≤ levels.levelsBranches branches ∧
        b.2.height ≤ levels.levelsBranches branches) ∧
      List.Forall₂ (fun b n => env.Yields b.1 (·.Echoes n.1) ∧ env.Yields b.2 (·.Echoes n.2))
        bs branches := by
  induction branches with
  | nil => exact ⟨[], [], fun hs => hs, .nil, List.forall_mem_nil _, .nil⟩
  | cons n branches ih =>
    obtain ⟨⟨hcondition, hresult⟩, hbranches⟩ := List.forall_mem_cons.mp h
    obtain ⟨-, tc, c, hspellsc, hphrasec, hheightc, hyieldsc⟩ := hcondition
    obtain ⟨-, tr, r, hspellsr, hphraser, hheightr, hyieldsr⟩ := hresult
    obtain ⟨tbs, bs, hall, hwhole, hheights, hyields⟩ := ih hbranches
    refine ⟨(tc, tr) :: tbs, (c, r) :: bs, fun {cs ts} hs => ?_,
      .cons ⟨hphrasec.toWhole (bindLevel_pos _), hphraser.toWhole (bindLevel_pos _)⟩ hwhole, ?_,
      .cons ⟨hyieldsc, hyieldsr⟩ hyields⟩
    · have hword {word : String} (h : isWord word) : Spells Sql.AfterName word.toList _ :=
        spells_plainWord h
      obtain ⟨cs', hcs'⟩ : ∃ cs', (branchesText branches).toList ++ ' ' :: cs = ' ' :: cs' := by
        cases branches with
        | nil => exact ⟨cs, rfl⟩
        | cons b branches =>
          simp only [branchesText, List.map_cons, String.join_cons, String.toList_append,
            List.append_assoc]
          exact ⟨_, rfl⟩
      have hmore := hall hs
      have hlist : (branchesText (n :: branches)).toList ++ ' ' :: cs =
          ' ' :: ("WHEN".toList ++ (' ' :: (n.1.toSql.toList ++ (' ' :: ("THEN".toList ++
            (' ' :: (n.2.toSql.toList ++ ((branchesText branches).toList ++ ' ' :: cs)))))))) := by
        simp [branchesText]
      have htokens : ((tc, tr) :: tbs).flatMap branchTokens ++ ts = [plainWord "WHEN"] ++ (tc ++
          ([plainWord "THEN"] ++ (tr ++ (tbs.flatMap branchTokens ++ ts)))) := by
        simp [branchTokens]
      rw [hcs'] at hmore
      rw [hlist, htokens, hcs']
      exact spells_behind ((hword (by decide)).append (spells_behind (hspellsc.append
        (spells_behind ((hword (by decide)).append (spells_behind (hspellsr.append hmore
          fun _ _ => afterOperand_blank _)) fun _ _ => afterName_blank _))
        fun _ _ => afterOperand_blank _)) fun _ _ => afterName_blank _)
    · rw [levels.levelsBranches]
      refine List.forall_mem_cons.mpr ⟨⟨?_, ?_⟩, fun b hb => ?_⟩
      · exact hheightc.trans (by omega)
      · exact hheightr.trans (by omega)
      · have := hheights b hb
        exact ⟨by omega, by omega⟩

/-- The branches of a tree are lowered to branches that stand for them. -/
theorem exists_lowered {s : Tree} {d : Nat} (hd : d + s.height ≤ env.config.maxDepth + 1)
    {bs : List (Tree × Tree)} {branches : List (Node × Node)}
    (h : List.Forall₂ (fun b n => env.Yields b.1 (·.Echoes n.1) ∧ env.Yields b.2 (·.Echoes n.2))
      bs branches) (hs : ∀ b ∈ bs, b.1 ∈ s.parts ∧ b.2 ∈ s.parts) :
    ∃ cs, List.Forall₂ (env.BranchOf env.Lowers d none) bs cs ∧
      List.Forall₂ EchoBranch cs branches := by
  induction h with
  | nil => exact ⟨[], .nil, .nil⟩
  | cons hyields _ ih =>
    obtain ⟨hb, hbs⟩ := List.forall_mem_cons.mp hs
    obtain ⟨m, hm, hecho⟩ := hyields.1.part hb.1 hd
    obtain ⟨m', hm', hecho'⟩ := hyields.2.part hb.2 hd
    obtain ⟨cs, hcs, hechoes⟩ := ih hbs
    exact ⟨⟨m.rawText, m, m'⟩ :: cs, .cons ⟨m, hm, rfl, rfl, hm'⟩ hcs,
      .cons ⟨hecho, hecho'⟩ hechoes⟩

theorem branchesText_of_echoes {cs : List CaseBranch} {branches : List (Node × Node)}
    (h : List.Forall₂ EchoBranch cs branches) :
    branchesText (cs.map fun c => (c.predicate, c.result)) = branchesText branches ∧
      (cs.map fun c => (c.predicate, c.result)).flatMap
        (fun b => b.1.references ++ b.2.references) =
        branches.flatMap fun b => b.1.references ++ b.2.references := by
  induction h with
  | nil => exact ⟨rfl, rfl⟩
  | cons hc _ ih =>
    simp only [branchesText, List.map_map] at ih
    simp [branchesText, hc.1.toSql, hc.2.toSql, hc.1.references, hc.2.references, ih]

/-! ## CASE -/

/-- The text behind the branches. -/
def endingText (otherwise : Option Node) : String :=
  (otherwise.elim "" fun n => " ELSE " ++ n.toSql) ++ " END"

theorem toSql_case {l : Labels} (hl : l.parenthesized = false) (branches : List (Node × Node))
    (otherwise : Option Node) : (case l branches otherwise).toSql =
      "CASE" ++ branchesText branches ++ endingText otherwise := by
  cases otherwise <;>
    simp [toSql, caseText, sqlBranches_eq, wrap, hl, branchesText, endingText, String.append_assoc,
      Function.comp_def]

/-- A last part that is read again is a phrase behind `ELSE`. -/
theorem exists_otherwise {otherwise : Option Node} (h : ∀ n ∈ otherwise, n.Rereads env) :
    ∃ te s cs, (endingText otherwise).toList = ' ' :: cs ∧
      Spells AfterOperand (' ' :: cs) (clauseTokens "ELSE" te ++ [plainWord "END"]) ∧
      Option.Rel Whole te s ∧ (∀ t ∈ s, t.height ≤ levels.levelsOption otherwise) ∧
      Option.Rel (fun t n => env.Yields t (·.Echoes n)) s otherwise := by
  have hend : Spells AfterOperand (' ' :: "END".toList) [plainWord "END"] :=
    spells_behind ((spells_plainWord (by decide)).mono fun _ => Sql.AfterOperand.afterName)
  cases otherwise with
  | none => exact ⟨none, none, "END".toList, rfl, hend, .none, (fun _ h => by cases h), .none⟩
  | some n =>
    obtain ⟨-, tokens, t, hspells, hphrase, hheight, hyields⟩ := h n rfl
    refine ⟨some tokens, some t,
      "ELSE".toList ++ (' ' :: (n.toSql.toList ++ (' ' :: "END".toList))), ?_, ?_,
      .some (hphrase.toWhole n.bindLevel_pos), ?_, .some hyields⟩
    · simp [endingText]
    · have htokens : clauseTokens "ELSE" (some tokens) ++ [plainWord "END"] =
          [plainWord "ELSE"] ++ (tokens ++ [plainWord "END"]) := by
        simp [clauseTokens]
      rw [htokens]
      exact spells_behind ((spells_plainWord (by decide)).append (spells_behind (hspells.append
        hend fun _ _ => afterOperand_blank _)) fun _ _ => afterName_blank _)
    · rintro _ ⟨⟩
      exact hheight

section Case

variable {l : Labels} (hl : l.parenthesized = false) (hstd : env.collaborators = .standard)
include hl hstd

/-- **A searched CASE** is read again if its parts are. -/
theorem rereads_case {branches : List (Node × Node)} (hne : branches ≠ [])
    {otherwise : Option Node} (h : ∀ b ∈ branches, b.1.Rereads env ∧ b.2.Rereads env)
    (ho : ∀ n ∈ otherwise, n.Rereads env) : (case l branches otherwise).Rereads env := by
  obtain ⟨tbs, bs, hall, hwhole, hheights, hyields⟩ := exists_branches h
  obtain ⟨te, final, cs, hending, hspells, hrel, hheight, hyieldsOption⟩ := exists_otherwise ho
  have hword : isWord "CASE" := by decide
  obtain ⟨cs', hcs'⟩ : ∃ cs', (branchesText branches).toList ++ ' ' :: cs = ' ' :: cs' := by
    obtain ⟨b, branches, rfl⟩ := List.exists_cons_of_ne_nil hne
    simp only [branchesText, List.map_cons, String.join_cons, String.toList_append,
      List.append_assoc]
    exact ⟨_, rfl⟩
  have hbody := hall hspells
  have htext : (case l branches otherwise).toSql.toList = "CASE".toList ++ (' ' :: cs') := by
    rw [toSql_case hl, String.append_assoc, String.toList_append, String.toList_append, hending,
      hcs']
  rw [hcs'] at hbody
  cases hwhole with
  | nil => cases hyields; exact absurd rfl hne
  | @cons tb b tbs bs hb hbs =>
    refine .of_begins hl rfl ?_ ?_ (Sql.Reader.begins_case hb hbs hrel) ?_
      (.of_step hstd fun d hd => ?_)
    · rw [toSql_case hl, String.append_assoc]
      exact Sql.followsSign_word hword _
    · rw [htext]
      exact (spells_plainWord hword).append hbody fun _ _ => afterName_blank _
    · rw [levels, Labels.levels, hl, if_neg Bool.false_ne_true]
      refine Tree.height_le_iff.mpr fun s hs => ?_
      simp only [Tree.parts, Option.toList_none, List.nil_append, List.mem_append,
        List.mem_flatMap, List.mem_cons, List.not_mem_nil, or_false, Option.mem_toList] at hs
      rcases hs with ⟨b', hb', rfl | rfl⟩ | hs
      · exact (hheights b' (by simpa using hb')).1.trans (Nat.le_max_left _ _)
      · exact (hheights b' (by simpa using hb')).2.trans (Nat.le_max_left _ _)
      · exact (hheight s hs).trans (Nat.le_max_right _ _)
    · obtain ⟨cs, hcs, hechoes⟩ := exists_lowered hd hyields fun b' hb' =>
        ⟨(Tree.mem_parts_case hb').1, (Tree.mem_parts_case hb').2⟩
      obtain ⟨htexts, hreferences⟩ := branchesText_of_echoes hechoes
      obtain ⟨last, hlast, htail, hmet⟩ : ∃ last,
          Option.Rel (env.Part env.Lowers d) final last ∧ endingText last = endingText otherwise ∧
            last.toList.flatMap references = otherwise.toList.flatMap references := by
        cases hyieldsOption with
        | none => exact ⟨none, .none, rfl, rfl⟩
        | some hy =>
          obtain ⟨m, hm, hecho⟩ := hy.part (by simp) hd
          exact ⟨some m, .some hm, by simp [endingText, hecho.toSql], by simp [hecho.references]⟩
      refine ⟨_, .case .none hcs hlast, ?_⟩
      exact {
        toSql := by rw [caseOf, toSql_case rfl, toSql_case hl, htexts, htail]
        references := by rw [caseOf, references_case, references_case, hreferences, hmet]
        parenthesized := hl.symm
        operator := rfl
        own := rfl }

end Case

end Node

end SqlNormal
