import SqlNormal.Proofs.LeafTexts
import SqlNormal.Proofs.Resolution

/-!
# Calls that are read again

A call of a function that has no form of its own is written as its name and its arguments. If the
arguments are read again, the call is, and it finds the entry that it was resolved by.

* `Node.exists_phrases`, `Node.exists_parts`: arguments in a row;
* `CallHead.Ordinary`: a call in parentheses that nothing but its name and quantifier tells apart;
* **`Node.rereads_call`**, `Node.rereads_bareWord`, `Node.rereads_star`: calls.
-/

namespace SqlNormal

open Sql (Token Spells AfterOperand SpellAll isWord spells_plainWord)
open Sql.Reader (Begins Whole Callable plainWord quantifierTokens argumentTokens)

variable {env : Environment}

namespace Node

/-! ## Arguments -/

/-- Nodes that are read again are phrases, each by itself. -/
theorem exists_phrases {ns : List Node} (h : ∀ n ∈ ns, n.Rereads env) : ∃ tss ts,
    SpellAll (ns.map toSql) tss ∧ List.Forall₂ Whole tss ts ∧
      (∀ t ∈ ts, t.height ≤ levels.levelsList ns) ∧
      List.Forall₂ (fun t n => env.Yields t (·.Echoes n)) ts ns := by
  induction ns with
  | nil => exact ⟨[], [], .nil, .nil, List.forall_mem_nil _, .nil⟩
  | cons n ns ih =>
    obtain ⟨hn, hns⟩ := List.forall_mem_cons.mp h
    obtain ⟨-, tokens, t, hspells, hphrase, hheight, hyields⟩ := hn
    obtain ⟨tss, ts, hall, hwhole, hheights, hyieldsAll⟩ := ih hns
    refine ⟨tokens :: tss, t :: ts, .cons hspells hall,
      .cons (hphrase.toWhole n.bindLevel_pos) hwhole, ?_, .cons hyields hyieldsAll⟩
    rw [levels.levelsList]
    exact List.forall_mem_cons.mpr ⟨hheight.trans (Nat.le_max_left _ _),
      fun s hs => (hheights s hs).trans (Nat.le_max_right _ _)⟩

/-- The parts of a tree that are nodes in a row are lowered to nodes that stand for them. -/
theorem exists_parts {s : Tree} {d : Nat} (hd : d + s.height ≤ env.config.maxDepth + 1)
    {ts : List Tree} {ns : List Node}
    (h : List.Forall₂ (fun t n => env.Yields t (·.Echoes n)) ts ns) (hs : ∀ t ∈ ts, t ∈ s.parts) :
    ∃ ms, List.Forall₂ (env.Part env.Lowers d) ts ms ∧ List.Forall₂ Echoes ms ns := by
  induction h with
  | nil => exact ⟨[], .nil, .nil⟩
  | cons hyields _ ih =>
    obtain ⟨ht, hts⟩ := List.forall_mem_cons.mp hs
    obtain ⟨m, hm, hecho⟩ := hyields.part ht hd
    obtain ⟨ms, hms, hechoes⟩ := ih hts
    exact ⟨m :: ms, .cons hm hms, .cons hecho hechoes⟩

theorem sqlList_of_echoes {ms ns : List Node} (h : List.Forall₂ Echoes ms ns) :
    ms.map toSql = ns.map toSql ∧ ms.flatMap references = ns.flatMap references := by
  induction h with
  | nil => exact ⟨rfl, rfl⟩
  | cons hecho _ ih =>
    exact ⟨congrArg₂ List.cons hecho.toSql ih.1, by
      rw [List.flatMap_cons, List.flatMap_cons, hecho.references, ih.2]⟩

theorem echoes_call {l l' : Labels} (hl : l'.parenthesized = l.parenthesized)
    {head head' : CallHead} (hid : head'.id = head.id)
    {ms ns : List Node} (htext : callText head' (ns.map toSql) = callText head (ns.map toSql))
    (h : List.Forall₂ Echoes ms ns) : (call l' head' ms).Echoes (call l head ns) where
  toSql := by
    rw [toSql, toSql, sqlList_eq, sqlList_eq, (sqlList_of_echoes h).1, htext, wrap, wrap, hl]
  references := by rw [references_call, references_call, hid, (sqlList_of_echoes h).2]
  parenthesized := hl
  operator := rfl
  own := rfl

end Node

/-- The words and arguments of a call, as they stand between its parentheses. -/
theorem spells_arguments {q : Option SetQuantifier} {texts : List String}
    {tss : List (List Token)} (h : SpellAll texts tss) (hne : q.isSome → texts ≠ []) :
    Spells AfterOperand (q.elim "" (fun q => q.text ++ " ") ++ ", ".intercalate texts).toList
      (argumentTokens q tss) := by
  cases q with
  | none =>
    rw [Option.elim_none, String.empty_append]
    cases h with
    | nil => exact fun _ _ _ hs => hs
    | cons ht hts => exact Sql.spells_commas (.cons ht hts) (List.cons_ne_nil _ _)
  | some q =>
    have hword : isWord q.text := by cases q <;> decide
    have hlist : (q.text ++ " " ++ ", ".intercalate texts).toList =
        q.text.toList ++ (' ' :: (", ".intercalate texts).toList) := by
      simp
    rw [Option.elim_some, hlist]
    exact (spells_plainWord hword).append (Sql.spells_behind (Sql.spells_commas h (hne rfl)))
      fun _ _ => Sql.afterName_blank _

/-! ## Heads -/

namespace CallHead

variable {head : CallHead}

/-- A call by a name that has no form of its own. The session did not answer it, and its arguments
are separated by commas. -/
structure Ordinary (head : CallHead) : Prop where
  session : head.sessionValue = none
  separator : head.separator = ", "
  upper : Text.upper head.name = head.name
  isWord : Sql.isWord head.name
  callable : Callable head.name

/-- The head of a call that is resolved by the name of another head. -/
theorem callText_again (hsession : head.sessionValue = none) (hseparator : head.separator = ", ")
    (hupper : Text.upper head.name = head.name) {again : CallHead} (hid : again.id = head.id)
    (hname : again.name = Text.upper head.name) (hvalue : again.sessionValue = none)
    (hagain : again.separator = ", ") (hparens : again.parenthesized = head.parenthesized)
    (hquantifier : again.quantifierText = head.quantifierText) (texts : List String) :
    callText again texts = callText head texts := by
  simp only [callText, hvalue, hsession, hname, hupper, hparens, hagain, hseparator, hquantifier,
    isCountStar, hid]

theorem argc_nil (head : CallHead) : head.argc [] = 0 := by
  simp [argc]

/-- The arguments of a call that has no keywords among them. -/
theorem argc_of_no_keyword {params : List Node} (h : ∀ p ∈ params, p.isKeyword = false) :
    head.argc params = params.length := by
  have hany : params.any Node.isKeyword = false := by simpa using h
  have hcount : params.countP (fun p => !p.isKeyword) = params.length :=
    List.countP_eq_length.mpr fun p hp => by simp [h p hp]
  simp [argc, hcount, hany]

/-- The text of a quantifier in front of arguments. -/
theorem quantifierText_eq (head : CallHead) :
    head.quantifierText = head.quantifier?.elim "" fun q => q.text ++ " " := by
  unfold quantifierText quantifier?
  split
  · rfl
  · split <;> rfl

end CallHead

/-- With nothing noted in the session, it answers no call. -/
theorem Environment.valueOfCall_none (hsession : env.session = {}) {token : String}
    {shape : CallShape} {entry : CatalogEntry} (h : resolve token shape = .ok entry) :
    env.valueOfCall entry = .ok none := by
  obtain ⟨value, hvalue⟩ := valueOfCall_isOk env h
  rw [hvalue]
  unfold valueOfCall at hvalue
  split at hvalue
  · unfold sessionValue at hvalue
    rw [hsession] at hvalue
    split_ifs at hvalue
    all_goals exact congrArg _ (Except.ok.inj hvalue).symm
  · exact congrArg _ (Except.ok.inj hvalue).symm

namespace Node

variable {l : Labels} (hl : l.parenthesized = false) (hstd : env.collaborators = .standard)
  (hsession : env.session = {})
include hl hstd hsession

/-- **A call of a function without a form of its own** is read again if its arguments are. -/
theorem rereads_call (hseparator : env.config.separator = ", ") {head : CallHead}
    {params : List Node} (hhead : head.Ordinary) (hparens : head.parenthesized = true)
    (hstar : head.isCountStar = false) (hkept : head.Kept params)
    (hkeywords : ∀ p ∈ params, p.isKeyword = false)
    (hquantifier : head.quantifier?.isSome → params ≠ []) (h : ∀ p ∈ params, p.Rereads env) :
    (call l head params).Rereads env := by
  obtain ⟨tss, ts, hspell, hwhole, hheights, hyields⟩ := exists_phrases h
  obtain ⟨entry, hentry, hid, -⟩ := hkept.found
  have hlength : ts.length = params.length := hyields.length_eq
  have hresolve : resolve head.name ⟨ts.length,
      (familyOf? head.name).bind (·.alternativeOf? head.name), head.quantifier?, false, false⟩ =
        .ok entry := by
    rw [CallHead.shape, CallHead.argc_of_no_keyword hkeywords, hstar, ← hlength] at hentry
    exact (resolve_alternative head.name ⟨ts.length, none, head.quantifier?, false, false⟩).trans
      hentry
  have hne : head.quantifier?.isSome → ts ≠ [] := by
    intro hsome hnil
    rw [hnil, List.length_nil] at hlength
    exact hquantifier hsome (List.length_eq_zero_iff.mp hlength.symm)
  have htext : (call l head params).toSql =
      head.name ++ "(" ++ (head.quantifierText ++ ", ".intercalate (params.map toSql)) ++ ")" := by
    rw [toSql, sqlList_eq, callText, hhead.session, hstar, hhead.separator, hparens, wrap, hl]
    simp [String.append_assoc]
  have hbody : Spells AfterOperand
      (head.quantifierText ++ ", ".intercalate (params.map toSql)).toList
      (argumentTokens head.quantifier? tss) := by
    rw [head.quantifierText_eq]
    exact spells_arguments hspell fun hsome => by simpa using hquantifier hsome
  have hbegins {edge : Nat} : Begins _ _ edge :=
    Sql.Reader.begins_call hwhole hne hhead.callable hresolve
  have hspells := Sql.spells_enclosed hhead.isWord hbody
  rw [← htext] at hspells
  refine .of_begins hl rfl ?_ hspells hbegins ?_ (.of_step hstd fun d hd => ?_)
  · rw [htext, String.append_assoc, String.append_assoc]
    exact Sql.followsSign_word hhead.isWord _
  · rw [levels, Labels.levels, hl, if_neg Bool.false_ne_true, Tree.height_le_iff]
    exact hheights
  · obtain ⟨ms, hms, hechoes⟩ := exists_parts hd hyields fun t ht => ht
    have hvalue := env.valueOfCall_none hsession hresolve
    have hstep := @Environment.Step.call env env.Lowers d ⟨head.name, _, head.quantifier?, true⟩ ts
      entry ms none hresolve hms hvalue
    refine ⟨_, hstep, ?_⟩
    rw [spelledCall, if_pos rfl]
    refine echoes_call hl.symm hid (head.callText_again hhead.session hhead.separator hhead.upper
      hid rfl rfl hseparator hparens.symm ?_ _) hechoes
    rw [CallHead.quantifierText_eq, CallHead.quantifierText_eq]
    rcases hq : head.quantifier? with _ | _ | _ <;> rfl

omit hsession in
/-- A call of a star. -/
theorem rereads_star {head : CallHead} (hhead : head.Ordinary) (hparens : head.parenthesized = true)
    (hstar : head.isCountStar = true) (hquantifier : head.quantifier? = none)
    (hkept : head.Kept []) : (call l head []).Rereads env := by
  obtain ⟨entry, hentry, hid, -⟩ := hkept.found
  have hresolve : resolve head.name .ofStar = .ok entry := by
    rwa [CallHead.shape, head.argc_nil, hquantifier, hstar] at hentry
  have htext : (call l head []).toSql = head.name ++ "(*)" := by
    rw [toSql, sqlList_eq, callText, hhead.session, hstar, hparens, wrap, hl]
    rfl
  have hspells : Spells AfterOperand (head.name ++ "(*)").toList
      [plainWord head.name, .symbol "(", .symbol "*", .symbol ")"] := by
    have hmarks : Spells AfterOperand "(*)".toList [.symbol "(", .symbol "*", .symbol ")"] :=
      Sql.spells_opening.append ((Sql.spells_operator .multiply).append
        (Sql.spells_closing.mono fun _ _ => trivial) fun _ _ => Sql.afterOperand_closing _)
        fun _ _ => trivial
    rw [String.toList_append]
    exact (spells_plainWord hhead.isWord).append hmarks fun _ _ => Sql.afterName_opening _
  refine .of_begins hl rfl ?_ ?_ (Sql.Reader.begins_star hhead.callable hresolve) ?_
    (.of_step hstd fun d _ => ⟨_, .countStar hresolve, ?_⟩)
  · rw [htext]
    exact Sql.followsSign_word hhead.isWord _
  · rwa [htext]
  · simp [Tree.height, levels, Labels.levels, hl]
  · have hcount : head.id = .countStar := of_decide_eq_true hstar
    refine echoes_call hl.symm hid ?_ .nil
    simp [callText, hhead.session, hparens, Environment.newHead, CallHead.isCountStar, hid, hcount,
      hhead.upper]

/-- A word that calls a function without parentheses. -/
theorem rereads_bareWord {head : CallHead} (hvalue : head.sessionValue = none)
    (hparens : head.parenthesized = false) (hname : head.name ∈ Sql.bareWords)
    (hkept : head.Kept []) (hstar : head.isCountStar = false)
    (hquantifier : head.quantifier? = none) : (call l head []).Rereads env := by
  have hwords : ∀ word ∈ Sql.bareWords, isWord word ∧ Text.upper word = word := by decide
  obtain ⟨hword, hupper⟩ := hwords _ hname
  obtain ⟨entry, hentry, hid, -⟩ := hkept.found
  have hresolve : resolve head.name (.ofCount 0) = .ok entry := by
    rwa [CallHead.shape, head.argc_nil, hquantifier, hstar] at hentry
  have htext : (call l head []).toSql = head.name := by
    rw [toSql, sqlList_eq, callText, hvalue, hparens, wrap, hl]
    rfl
  have hsign := Sql.followsSign_word hword ""
  rw [String.append_empty] at hsign
  refine .of_begins hl rfl ?_ ?_ (Sql.Reader.begins_bareWord hname) ?_ (.of_step hstd fun d _ =>
    ⟨_, .call hresolve .nil (env.valueOfCall_none hsession hresolve), ?_⟩)
  · rwa [htext]
  · rw [htext]
    exact (spells_plainWord hword).mono fun _ => AfterOperand.afterName
  · simp [Tree.height, Tree.height.heightList, levels, levels.levelsList, Labels.levels, hl]
  · refine echoes_call hl.symm hid ?_ .nil
    simp [callText, hvalue, hparens, Environment.newHead, hupper]

end Node

end SqlNormal
