import SqlNormal.Proofs.FormTexts

/-!
# Calls with words among their arguments that are read again

Some calls are written with words between their arguments, or mean something of their own with
commas. If the arguments are read again, such a call is.

* `CallHead.Worded`, **`Node.rereads_worded`**: a call in a form of its own;
* `Node.rereads_trimFrom`, `Node.rereads_extract`, `Node.rereads_position`, `Node.rereads_overlay`,
  `Node.rereads_substring`, `Node.rereads_convertUsing`, `Node.rereads_rounding` and their kin;
* `CallHead.Form`, **`Node.rereads_form`**: all of them.
-/

namespace SqlNormal

open Sql (Token Spells AfterOperand SpellAll isWord spells_plainWord spells_blanks spells_commas)
open Sql.Reader (Begins Whole plainWord clauseTokens specTokens)

variable {env : Environment}

/-- A call in a form of its own, with an entry for so many arguments. -/
structure CallHead.Worded (head : CallHead) (keyword : String) (argc : Nat) : Prop where
  session : head.sessionValue = none
  parenthesized : head.parenthesized = true
  quantifier : head.quantifier? = none
  star : head.isCountStar = false
  name : head.name = keyword
  found : ∃ entry, resolve keyword (.ofCount argc) = .ok entry ∧ entry.id = head.id

namespace Node

theorem toSql_keyword (word : String) : (keyword word).toSql = word := by
  simp [keyword, ofValue, toSql, wrap, Value.toSql]

/-- A word among arguments. -/
theorem spells_keyword {word : String} (h : isWord word) :
    Spells AfterOperand (keyword word).toSql.toList [plainWord word] := by
  rw [toSql_keyword]
  exact (spells_plainWord h).mono fun _ => Sql.AfterOperand.afterName

section Worded

variable {l : Labels} (hl : l.parenthesized = false) (hstd : env.collaborators = .standard)
  {head : CallHead} {x y z : Node}
include hl hstd

/-- **A call in a form of its own** is read again if its text between the parentheses is read as the
arguments of that form. -/
theorem rereads_worded {word : String} {argc : Nat} (hhead : head.Worded word argc)
    (hword : isWord word ∧ Text.upper word = word) {form : Bool}
    (hseparator :
      head.separator = if form then env.config.keywordSeparator else env.config.separator)
    {params : List Node} {body : List Token} {t : Tree}
    (hbody : Spells AfterOperand (head.separator.intercalate (params.map toSql)).toList body)
    (hbegins : Begins (plainWord word :: .symbol "(" :: (body ++ [.symbol ")"])) t closedLevel)
    (hheight : ∀ s ∈ t.parts, s.height ≤ levels.levelsList params)
    (hstep : ∀ d entry, d + t.height ≤ env.config.maxDepth + 1 →
      resolve word (.ofCount argc) = .ok entry → ∃ ms,
        env.Step env.Lowers d t (env.formCall entry word form ms) ∧
          List.Forall₂ Echoes ms params) :
    (call l head params).Rereads env := by
  obtain ⟨entry, hentry, hid⟩ := hhead.found
  have hquantifier : head.quantifierText = "" := by
    rw [head.quantifierText_eq, hhead.quantifier]
    rfl
  have htext : (call l head params).toSql =
      word ++ "(" ++ head.separator.intercalate (params.map toSql) ++ ")" := by
    rw [toSql, sqlList_eq, callText, hhead.session, hhead.star, hhead.parenthesized, wrap, hl,
      hquantifier, hhead.name]
    simp
  have hspells := Sql.spells_enclosed hword.1 hbody
  rw [← htext] at hspells
  refine .of_begins hl rfl ?_ hspells hbegins ?_ (.of_step hstd fun d hd => ?_)
  · rw [htext, String.append_assoc, String.append_assoc]
    exact Sql.followsSign_word hword.1 _
  · rw [levels, Labels.levels, hl, if_neg Bool.false_ne_true]
    exact Tree.height_le_iff.mpr hheight
  · obtain ⟨ms, hstep, hechoes⟩ := hstep d entry hd hentry
    refine ⟨_, hstep, echoes_call hl.symm hid ?_ hechoes⟩
    have hagain : (env.newHead entry.id word form).quantifierText = "" := rfl
    have hstar : (env.newHead entry.id word form).isCountStar = false := by
      rw [← hhead.star, CallHead.isCountStar, CallHead.isCountStar, ← hid]
      rfl
    rw [callText, callText, hhead.session, hhead.star, hhead.parenthesized, hquantifier, hagain,
      hstar, hhead.name, hseparator]
    simp [Environment.newHead, hword.2]

omit hl hstd in
/-- The separator of a call with words. -/
theorem separator_words (hkeyword : env.config.keywordSeparator = " ")
    (h : head.separator = " ") :
    head.separator = if true then env.config.keywordSeparator else env.config.separator := by
  rw [h, if_pos rfl, hkeyword]

omit hl hstd in
/-- The separator of a call with commas. -/
theorem separator_commas (hcomma : env.config.separator = ", ") (h : head.separator = ", ") :
    head.separator = if false then env.config.keywordSeparator else env.config.separator := by
  rw [h, if_neg Bool.false_ne_true, hcomma]

/-! ### Words -/

section Words

variable (hkeyword : env.config.keywordSeparator = " ") (hwords : head.separator = " ")
include hkeyword hwords

/-- A POSITION whose first argument binds tighter than a comparison. -/
theorem rereads_position (hhead : head.Worded "POSITION" 2)
    (hbind : Sql.Strength.comparison < x.bindLevel)
    (hedge : Sql.Strength.comparison ≤ x.edgeLevel) (hx : x.Rereads env)
    (hy : y.Rereads env) : (call l head [x, keyword "IN", y]).Rereads env := by
  obtain ⟨-, tx, a, hspellsx, hphrasex, hheightx, hyieldsx⟩ := hx
  obtain ⟨-, ty, b, hspellsy, hphrasey, hheighty, hyieldsy⟩ := hy
  have hin : Spells AfterOperand (keyword "IN").toSql.toList _ := spells_keyword (by decide)
  have hall : SpellAll ([x, keyword "IN", y].map toSql) _ :=
    .cons hspellsx (.cons hin (.cons hspellsy .nil))
  have hbody := spells_blanks hall (by simp)
  have hbegins : Begins _ (.position a b) closedLevel :=
    Sql.Reader.begins_position hphrasex hbind hedge (hphrasey.toWhole y.bindLevel_pos)
  refine rereads_worded hl hstd hhead (by decide) (separator_words hkeyword hwords)
    (by rw [hwords]; simpa using hbody) hbegins ?_ fun d entry hd hentry => ?_
  · simp only [Tree.parts, levels.levelsList, List.forall_mem_cons]
    exact ⟨by omega, by omega, List.forall_mem_nil _⟩
  · obtain ⟨m, hm, hecho⟩ := hyieldsx.part (by simp) hd
    obtain ⟨m', hm', hecho'⟩ := hyieldsy.part (by simp) hd
    exact ⟨_, .position hentry hm hm', .cons hecho (.cons (.refl _) (.cons hecho' .nil))⟩

/-- An EXTRACT. -/
theorem rereads_extract (hhead : head.Worded "EXTRACT" 2) {field : String} (hisWord : isWord field)
    (hknown : Text.upper field ∈ Sql.Reader.knownFields → Text.upper field = field)
    (hfield : fieldOfToken (field ++ "_FROM") = .ok field) (hx : x.Rereads env) :
    (call l head [keyword field, keyword "FROM", x]).Rereads env := by
  obtain ⟨-, tx, a, hspells, hphrase, hheight, hyields⟩ := hx
  have hfrom : Spells AfterOperand (keyword "FROM").toSql.toList _ := spells_keyword (by decide)
  have hall : SpellAll ([keyword field, keyword "FROM", x].map toSql) _ :=
    .cons (spells_keyword hisWord) (.cons hfrom (.cons hspells .nil))
  have hbody := spells_blanks hall (by simp)
  have hbegins : Begins _ (.extract (field ++ "_FROM") a) closedLevel :=
    Sql.Reader.begins_extract hknown (hphrase.toWhole x.bindLevel_pos)
  refine rereads_worded hl hstd hhead (by decide) (separator_words hkeyword hwords)
    (by rw [hwords]; simpa using hbody) hbegins ?_ fun d entry hd hentry => ?_
  · simp only [Tree.parts, levels.levelsList, List.forall_mem_cons]
    exact ⟨by omega, List.forall_mem_nil _⟩
  · obtain ⟨m, hm, hecho⟩ := hyields.part (by simp) hd
    exact ⟨_, .extract hfield hentry hm, .cons (.refl _) (.cons (.refl _) (.cons hecho .nil))⟩

/-- A TRIM of characters. -/
theorem rereads_trimFrom (hhead : head.Worded "TRIM" 2) (spec : Option TrimSpec)
    (hx : x.Rereads env) (hy : y.Rereads env) :
    (call l head (trimParams spec (some x) true y)).Rereads env := by
  obtain ⟨-, tx, a, hspellsx, hphrasex, hheightx, hyieldsx⟩ := hx
  obtain ⟨-, ty, b, hspellsy, hphrasey, hheighty, hyieldsy⟩ := hy
  have hfrom : Spells AfterOperand (keyword "FROM").toSql.toList _ := spells_keyword (by decide)
  have hlast : SpellAll ([x, keyword "FROM", y].map toSql) _ :=
    .cons hspellsx (.cons hfrom (.cons hspellsy .nil))
  have hbegins : Begins _ (.trim spec (some a) true b) closedLevel :=
    Sql.Reader.begins_trimFrom (hphrasex.toWhole x.bindLevel_pos) (hphrasey.toWhole y.bindLevel_pos)
  have hbody : Spells AfterOperand
      (head.separator.intercalate ((trimParams spec (some x) true y).map toSql)).toList
      (specTokens spec ++ (tx ++ plainWord "FROM" :: ty)) := by
    rw [hwords]
    cases spec with
    | none => simpa [trimParams, specTokens, fieldMarker] using spells_blanks hlast (by simp)
    | some s =>
      have hspec : isWord s.text := by cases s <;> decide
      have hall := spells_blanks (.cons (spells_keyword hspec) hlast) (by simp)
      simpa [trimParams, specTokens, fieldMarker] using hall
  refine rereads_worded hl hstd hhead (by decide) (separator_words hkeyword hwords) hbody hbegins ?_
    fun d entry hd hentry => ?_
  · have hlevels : levels.levelsList [x, keyword "FROM", y] ≤
        levels.levelsList (trimParams spec (some x) true y) := by
      cases spec with
      | none => exact Nat.le_refl _
      | some s => exact Nat.le_max_right _ _
    simp only [levels.levelsList] at hlevels
    simp only [Tree.parts, Option.toList_some, List.cons_append, List.nil_append,
      List.forall_mem_cons]
    exact ⟨by omega, by omega, List.forall_mem_nil _⟩
  · obtain ⟨m, hm, hecho⟩ := hyieldsx.part (by simp) hd
    obtain ⟨m', hm', hecho'⟩ := hyieldsy.part (by simp) hd
    refine ⟨_, .trimFrom hentry (.some hm) hm', ?_⟩
    have hlast : List.Forall₂ Echoes [m, keyword "FROM", m'] [x, keyword "FROM", y] :=
      .cons hecho (.cons (.refl _) (.cons hecho' .nil))
    cases spec with
    | none => exact hlast
    | some s => exact .cons (.refl _) hlast

/-- A TRIM of blanks on the sides that are named. -/
theorem rereads_trimSides (hhead : head.Worded "TRIM" 1) (spec : TrimSpec) (hx : x.Rereads env) :
    (call l head (trimParams (some spec) none false x)).Rereads env := by
  obtain ⟨-, tx, a, hspells, hphrase, hheight, hyields⟩ := hx
  have hspec : isWord spec.text := by cases spec <;> decide
  have hall : SpellAll ([keyword spec.text, x].map toSql) _ :=
    .cons (spells_keyword hspec) (.cons hspells .nil)
  have hbody := spells_blanks hall (by simp)
  have hbegins : Begins _ (.trim (some spec) none false a) closedLevel :=
    Sql.Reader.begins_trimPlain (hphrase.toWhole x.bindLevel_pos)
  refine rereads_worded hl hstd hhead (by decide) (separator_words hkeyword hwords)
    (by rw [hwords]; simpa [trimParams, specTokens] using hbody) hbegins ?_
    fun d entry hd hentry => ?_
  · simp only [Tree.parts, trimParams, levels.levelsList, Option.toList_some, Option.toList_none,
      List.map_cons, List.map_nil, List.cons_append, List.nil_append, Bool.false_eq_true, if_false,
      List.forall_mem_cons]
    exact ⟨by omega, List.forall_mem_nil _⟩
  · obtain ⟨m, hm, hecho⟩ := hyields.part (by simp) hd
    exact ⟨_, .trimPlain (fun _ => rfl) hentry .none hm, .cons (.refl _) (.cons hecho .nil)⟩

omit hl hstd hkeyword hwords in
theorem levelsList_append (ns ms : List Node) : levels.levelsList (ns ++ ms) =
    max (levels.levelsList ns) (levels.levelsList ms) := by
  induction ns with
  | nil => simp [levels.levelsList]
  | cons n ns ih => rw [List.cons_append, levels.levelsList, levels.levelsList, ih, Nat.max_assoc]

omit hl hstd hkeyword hwords in
/-- An argument behind a word, if there is one. -/
theorem exists_clause {word : String} (hword : isWord word) {o : Option Node}
    (h : ∀ n ∈ o, n.Rereads env) : ∃ ts t tss,
      SpellAll ((clause word o).map toSql) tss ∧ tss.flatten = clauseTokens word ts ∧
      Option.Rel Whole ts t ∧ (∀ s ∈ t, s.height ≤ levels.levelsList (clause word o)) ∧
      Option.Rel (fun t n => env.Yields t (·.Echoes n)) t o := by
  cases o with
  | none => exact ⟨none, none, [], .nil, rfl, .none, (fun _ h => by cases h), .none⟩
  | some n =>
    obtain ⟨-, tokens, t, hspells, hphrase, hheight, hyields⟩ := h n rfl
    refine ⟨some tokens, some t, [[plainWord word], tokens],
      .cons (spells_keyword hword) (.cons hspells .nil), by simp [clauseTokens],
      .some (hphrase.toWhole n.bindLevel_pos), ?_, .some hyields⟩
    rintro _ ⟨⟩
    simp only [clause, levels.levelsList]
    omega

omit hl hstd hkeyword hwords in
/-- The part of a tree that is a node behind a word is lowered to a node that stands for it. -/
theorem exists_clausePart {s : Tree} {d : Nat} (hd : d + s.height ≤ env.config.maxDepth + 1)
    {t : Option Tree} {o : Option Node}
    (h : Option.Rel (fun t n => env.Yields t (·.Echoes n)) t o) (hs : ∀ r ∈ t, r ∈ s.parts)
    (word : String) : ∃ m, Option.Rel (env.Part env.Lowers d) t m ∧
      List.Forall₂ Echoes (clause word m) (clause word o) := by
  cases h with
  | none => exact ⟨none, .none, .nil⟩
  | some hyields =>
    obtain ⟨m, hm, hecho⟩ := hyields.part (hs _ rfl) hd
    exact ⟨some m, .some hm, .cons (.refl _) (.cons hecho .nil)⟩

/-- An OVERLAY. -/
theorem rereads_overlay {o : Option Node} (hhead : head.Worded "OVERLAY" (3 + o.toList.length))
    (hx : x.Rereads env) (hy : y.Rereads env) (hz : z.Rereads env)
    (ho : ∀ n ∈ o, n.Rereads env) :
    (call l head ([x, keyword "PLACING", y, keyword "FROM", z] ++ clause "FOR" o)).Rereads env := by
  obtain ⟨-, tx, a, hspellsx, hphrasex, hheightx, hyieldsx⟩ := hx
  obtain ⟨-, ty, b, hspellsy, hphrasey, hheighty, hyieldsy⟩ := hy
  obtain ⟨-, tz, c, hspellsz, hphrasez, hheightz, hyieldsz⟩ := hz
  obtain ⟨ts, t, tss, hclause, htokens, hwhole, hheight, hyields⟩ :=
    exists_clause (by decide : isWord "FOR") ho
  have hplacing : Spells AfterOperand (keyword "PLACING").toSql.toList _ :=
    spells_keyword (by decide)
  have hfrom : Spells AfterOperand (keyword "FROM").toSql.toList _ := spells_keyword (by decide)
  have hall : SpellAll (([x, keyword "PLACING", y, keyword "FROM", z] ++ clause "FOR" o).map toSql)
      (tx :: [plainWord "PLACING"] :: ty :: [plainWord "FROM"] :: tz :: tss) :=
    .cons hspellsx (.cons hplacing (.cons hspellsy (.cons hfrom (.cons hspellsz hclause))))
  have hbody := spells_blanks hall (by simp)
  have hbegins : Begins _ (.overlay a b c t) closedLevel :=
    Sql.Reader.begins_overlay (hphrasex.toWhole x.bindLevel_pos) (hphrasey.toWhole y.bindLevel_pos)
      (hphrasez.toWhole z.bindLevel_pos) hwhole
  refine rereads_worded hl hstd hhead (by decide) (separator_words hkeyword hwords)
    (by rw [hwords, ← htokens]; simpa using hbody) hbegins ?_ fun d entry hd hentry => ?_
  · simp only [Tree.parts, List.cons_append, List.nil_append, levels.levelsList,
      List.forall_mem_cons, Option.mem_toList]
    exact ⟨by omega, by omega, by omega, fun s hs => (hheight s hs).trans (by omega)⟩
  · obtain ⟨m, hm, hecho⟩ := hyieldsx.part (by simp) hd
    obtain ⟨m', hm', hecho'⟩ := hyieldsy.part (by simp) hd
    obtain ⟨k, hk, hechok⟩ := hyieldsz.part (by simp) hd
    obtain ⟨w, hw, hechow⟩ := exists_clausePart hd hyields (fun r hr => by simp_all) "FOR"
    have hlength : t.toList.length = o.toList.length := by cases hyields <;> simp
    rw [← hlength] at hentry
    exact ⟨_, .overlay hentry hm hm' hk hw, .cons hecho (.cons (.refl _)
      (.cons hecho' (.cons (.refl _) (.cons hechok hechow))))⟩

/-- A SUBSTRING with its words. -/
theorem rereads_substring {o o' : Option Node}
    (hhead : head.Worded "SUBSTRING" (1 + o.toList.length + o'.toList.length))
    (hx : x.Rereads env) (ho : ∀ n ∈ o, n.Rereads env) (ho' : ∀ n ∈ o', n.Rereads env) :
    (call l head (x :: clause "FROM" o ++ clause "FOR" o')).Rereads env := by
  obtain ⟨-, tx, a, hspells, hphrase, hheight, hyields⟩ := hx
  obtain ⟨ts, t, tss, hfrom, htokens, hwhole, hheightFrom, hyieldsFrom⟩ :=
    exists_clause (by decide : isWord "FROM") ho
  obtain ⟨ts', t', tss', hfor, htokens', hwhole', hheightFor, hyieldsFor⟩ :=
    exists_clause (by decide : isWord "FOR") ho'
  have hall : SpellAll ((x :: clause "FROM" o ++ clause "FOR" o').map toSql)
      (tx :: (tss ++ tss')) := by
    rw [List.cons_append, List.map_cons, List.map_append]
    exact .cons hspells (List.rel_append hfrom hfor)
  have hbody := spells_blanks hall (by simp)
  rw [List.flatten_cons, List.flatten_append, htokens, htokens'] at hbody
  have hbegins : Begins _ (.substring a t t' true) closedLevel :=
    Sql.Reader.begins_substring (hphrase.toWhole x.bindLevel_pos) hwhole hwhole'
  refine rereads_worded hl hstd hhead (by decide) (separator_words hkeyword hwords)
    (by rw [hwords]; exact hbody) hbegins ?_ fun d entry hd hentry => ?_
  · intro s hs
    have hall : levels.levelsList (x :: clause "FROM" o ++ clause "FOR" o') =
        max x.levels (max (levels.levelsList (clause "FROM" o))
          (levels.levelsList (clause "FOR" o'))) := by
      rw [List.cons_append, levels.levelsList, levelsList_append]
    simp only [Tree.parts, List.cons_append, List.mem_cons, List.mem_append,
      Option.mem_toList] at hs
    rw [hall]
    rcases hs with rfl | hs | hs
    · omega
    · exact (hheightFrom s hs).trans (by omega)
    · exact (hheightFor s hs).trans (by omega)
  · obtain ⟨m, hm, hecho⟩ := hyields.part (by simp) hd
    obtain ⟨w, hw, hechow⟩ := exists_clausePart hd hyieldsFrom (fun r hr => by simp_all) "FROM"
    obtain ⟨w', hw', hechow'⟩ := exists_clausePart hd hyieldsFor (fun r hr => by simp_all) "FOR"
    have hlength : t.toList.length = o.toList.length := by cases hyieldsFrom <;> simp
    have hlength' : t'.toList.length = o'.toList.length := by cases hyieldsFor <;> simp
    rw [← hlength, ← hlength'] at hentry
    refine ⟨_, .substring (fun h => by cases h) hentry hm hw hw', ?_⟩
    exact .cons hecho (List.rel_append hechow hechow')

/-- A CONVERT to other characters. -/
theorem rereads_convertUsing (hhead : head.Worded "CONVERT" 2) {target : String}
    (htarget : isWord target) (hx : x.Rereads env) :
    (call l head [x, keyword "USING", keyword target]).Rereads env := by
  obtain ⟨-, tx, a, hspells, hphrase, hheight, hyields⟩ := hx
  have husing : Spells AfterOperand (keyword "USING").toSql.toList _ := spells_keyword (by decide)
  have hall : SpellAll ([x, keyword "USING", keyword target].map toSql) _ :=
    .cons hspells (.cons husing (.cons (spells_keyword htarget) .nil))
  have hbody := spells_blanks hall (by simp)
  have hbegins : Begins _ (.convert a true target none) closedLevel :=
    Sql.Reader.begins_convertUsing (hphrase.toWhole x.bindLevel_pos) target
  refine rereads_worded hl hstd hhead (by decide) (separator_words hkeyword hwords)
    (by rw [hwords]; simpa using hbody) hbegins ?_ fun d entry hd hentry => ?_
  · simp only [Tree.parts, levels.levelsList, Option.toList_none, List.forall_mem_cons]
    exact ⟨by omega, List.forall_mem_nil _⟩
  · obtain ⟨m, hm, hecho⟩ := hyields.part (by simp) hd
    exact ⟨_, .convert (fun _ => rfl) hentry hm .none,
      .cons hecho (.cons (.refl _) (.cons (.refl _) .nil))⟩

end Words

/-! ### Commas -/

section Commas

variable (hcomma : env.config.separator = ", ") (hcommas : head.separator = ", ")
include hcomma hcommas

/-- A TRIM of blanks on both sides. -/
theorem rereads_trim (hhead : head.Worded "TRIM" 1) (hx : x.Rereads env) :
    (call l head [x]).Rereads env := by
  obtain ⟨-, tx, a, hspells, hphrase, hheight, hyields⟩ := hx
  have hall : SpellAll ([x].map toSql) _ := .cons hspells .nil
  have hbody := spells_commas hall (by simp)
  have hbegins : Begins _ (.trim none none false a) closedLevel :=
    Sql.Reader.begins_trimPlain (hphrase.toWhole x.bindLevel_pos)
  refine rereads_worded hl hstd hhead (by decide) (separator_commas hcomma hcommas)
    (by rw [hcommas]; simpa [specTokens] using hbody) hbegins ?_ fun d entry hd hentry => ?_
  · simp only [Tree.parts, levels.levelsList, Option.toList_none, List.nil_append,
      List.forall_mem_cons]
    exact ⟨by omega, List.forall_mem_nil _⟩
  · obtain ⟨m, hm, hecho⟩ := hyields.part (by simp) hd
    exact ⟨_, .trimPlain (fun h => by cases h) hentry .none hm, .cons hecho .nil⟩

/-- A TRIM of characters behind a comma. -/
theorem rereads_trimSet (hhead : head.Worded "TRIM" 2) (hx : x.Rereads env)
    (hy : y.Rereads env) : (call l head [x, y]).Rereads env := by
  obtain ⟨-, tx, a, hspellsx, hphrasex, hheightx, hyieldsx⟩ := hx
  obtain ⟨-, ty, b, hspellsy, hphrasey, hheighty, hyieldsy⟩ := hy
  have hall : SpellAll ([x, y].map toSql) _ := .cons hspellsx (.cons hspellsy .nil)
  have hbody := spells_commas hall (by simp)
  have hbegins : Begins _ (.trim none (some b) false a) closedLevel :=
    Sql.Reader.begins_trimSet (hphrasex.toWhole x.bindLevel_pos) (hphrasey.toWhole y.bindLevel_pos)
  refine rereads_worded hl hstd hhead (by decide) (separator_commas hcomma hcommas)
    (by rw [hcommas]; simpa using hbody) hbegins ?_ fun d entry hd hentry => ?_
  · simp only [Tree.parts, levels.levelsList, Option.toList_some, List.cons_append,
      List.nil_append, List.forall_mem_cons]
    exact ⟨by omega, by omega, List.forall_mem_nil _⟩
  · obtain ⟨m, hm, hecho⟩ := hyieldsx.part (by simp) hd
    obtain ⟨m', hm', hecho'⟩ := hyieldsy.part (by simp) hd
    exact ⟨_, .trimPlain (fun h => by cases h) hentry (.some hm') hm,
      .cons hecho (.cons hecho' .nil)⟩

/-- A SUBSTRING from a place. -/
theorem rereads_substringStart (hhead : head.Worded "SUBSTRING" 2) (hx : x.Rereads env)
    (hy : y.Rereads env) : (call l head [x, y]).Rereads env := by
  obtain ⟨-, tx, a, hspellsx, hphrasex, hheightx, hyieldsx⟩ := hx
  obtain ⟨-, ty, b, hspellsy, hphrasey, hheighty, hyieldsy⟩ := hy
  have hall : SpellAll ([x, y].map toSql) _ := .cons hspellsx (.cons hspellsy .nil)
  have hbody := spells_commas hall (by simp)
  have hbegins : Begins _ (.substring a (some b) none false) closedLevel :=
    Sql.Reader.begins_substringStart (hphrasex.toWhole x.bindLevel_pos)
      (hphrasey.toWhole y.bindLevel_pos)
  refine rereads_worded hl hstd hhead (by decide) (separator_commas hcomma hcommas)
    (by rw [hcommas]; simpa using hbody) hbegins ?_ fun d entry hd hentry => ?_
  · simp only [Tree.parts, levels.levelsList, Option.toList_some, Option.toList_none,
      List.append_nil, List.forall_mem_cons]
    exact ⟨by omega, by omega, List.forall_mem_nil _⟩
  · obtain ⟨m, hm, hecho⟩ := hyieldsx.part (by simp) hd
    obtain ⟨m', hm', hecho'⟩ := hyieldsy.part (by simp) hd
    exact ⟨_, .substring (fun _ h => by cases h) hentry hm (.some hm') .none,
      .cons hecho (.cons hecho' .nil)⟩

/-- A SUBSTRING of so many characters from a place. -/
theorem rereads_substringLength (hhead : head.Worded "SUBSTRING" 3) (hx : x.Rereads env)
    (hy : y.Rereads env) (hz : z.Rereads env) : (call l head [x, y, z]).Rereads env := by
  obtain ⟨-, tx, a, hspellsx, hphrasex, hheightx, hyieldsx⟩ := hx
  obtain ⟨-, ty, b, hspellsy, hphrasey, hheighty, hyieldsy⟩ := hy
  obtain ⟨-, tz, c, hspellsz, hphrasez, hheightz, hyieldsz⟩ := hz
  have hall : SpellAll ([x, y, z].map toSql) _ :=
    .cons hspellsx (.cons hspellsy (.cons hspellsz .nil))
  have hbody := spells_commas hall (by simp)
  have hbegins : Begins _ (.substring a (some b) (some c) false) closedLevel :=
    Sql.Reader.begins_substringLength (hphrasex.toWhole x.bindLevel_pos)
      (hphrasey.toWhole y.bindLevel_pos) (hphrasez.toWhole z.bindLevel_pos)
  refine rereads_worded hl hstd hhead (by decide) (separator_commas hcomma hcommas)
    (by rw [hcommas]; simpa using hbody) hbegins ?_ fun d entry hd hentry => ?_
  · simp only [Tree.parts, levels.levelsList, Option.toList_some, List.cons_append,
      List.nil_append, List.forall_mem_cons]
    exact ⟨by omega, by omega, by omega, List.forall_mem_nil _⟩
  · obtain ⟨m, hm, hecho⟩ := hyieldsx.part (by simp) hd
    obtain ⟨m', hm', hecho'⟩ := hyieldsy.part (by simp) hd
    obtain ⟨k, hk, hechok⟩ := hyieldsz.part (by simp) hd
    exact ⟨_, .substring (fun _ h => by cases h) hentry hm (.some hm') (.some hk),
      .cons hecho (.cons hecho' (.cons hechok .nil))⟩

/-- A CONVERT to a type. -/
theorem rereads_convertType (hhead : head.Worded "CONVERT" 2) {target : String}
    (htarget : Sql.Reader.Pronounced target) (hx : x.Rereads env) :
    (call l head [x, keyword target]).Rereads env := by
  obtain ⟨-, tx, a, hspells, hphrase, hheight, hyields⟩ := hx
  obtain ⟨ttype, htokens, hbracket, hpronounces⟩ := htarget
  have hall : SpellAll ([x, keyword target].map toSql) [tx, ttype] :=
    .cons hspells (.cons (by rwa [toSql_keyword]) .nil)
  have hbody := spells_commas hall (by simp)
  have hbegins : Begins _ (.convert a false target none) closedLevel :=
    Sql.Reader.begins_convertType (hphrase.toWhole x.bindLevel_pos) hpronounces hbracket
  refine rereads_worded hl hstd hhead (by decide) (separator_commas hcomma hcommas)
    (by rw [hcommas]; simpa using hbody) hbegins ?_ fun d entry hd hentry => ?_
  · simp only [Tree.parts, levels.levelsList, Option.toList_none, List.forall_mem_cons]
    exact ⟨by omega, List.forall_mem_nil _⟩
  · obtain ⟨m, hm, hecho⟩ := hyields.part (by simp) hd
    exact ⟨_, .convert (fun h => by cases h) hentry hm .none, .cons hecho (.cons (.refl _) .nil)⟩

/-- The rounding of a number to an integer. -/
theorem rereads_rounding (hsession : env.session = {}) {word : String} (hhead : head.Worded word 1)
    (hword : word ∈ Sql.Reader.roundingWords) (hx : x.Rereads env) :
    (call l head [x]).Rereads env := by
  obtain ⟨-, tx, a, hspells, hphrase, hheight, hyields⟩ := hx
  have hwords : ∀ word ∈ Sql.Reader.roundingWords, isWord word ∧ Text.upper word = word := by decide
  have hall : SpellAll ([x].map toSql) _ := .cons hspells .nil
  have hbody := spells_commas hall (by simp)
  have hbegins : Begins _ (.call (.plain word) [a]) closedLevel :=
    Sql.Reader.begins_rounding hword (hphrase.toWhole x.bindLevel_pos)
  refine rereads_worded hl hstd hhead (hwords word hword) (separator_commas hcomma hcommas)
    (by rw [hcommas]; simpa using hbody) hbegins ?_ fun d entry hd hentry => ?_
  · simp only [Tree.parts, levels.levelsList, List.forall_mem_cons]
    exact ⟨by omega, List.forall_mem_nil _⟩
  · obtain ⟨m, hm, hecho⟩ := hyields.part (by simp) hd
    have hvalue := env.valueOfCall_none hsession hentry
    have hstep := @Environment.Step.call env env.Lowers d (.plain word) [a] entry [m] none hentry
      (.cons hm .nil) hvalue
    exact ⟨[m], hstep, .cons hecho .nil⟩

end Commas

end Worded

end Node

/-! ## Forms -/

/-- The parameters of a call in a form of its own, and the arguments among them. -/
inductive CallHead.Form (head : CallHead) : List Node → List Node → Prop
  | position {x y : Node} (hhead : head.Worded "POSITION" 2) (hwords : head.separator = " ")
      (hbind : Sql.Strength.comparison < x.bindLevel)
      (hedge : Sql.Strength.comparison ≤ x.edgeLevel) : head.Form [x, .keyword "IN", y] [x, y]
  | extract {field : String} {x : Node} (hhead : head.Worded "EXTRACT" 2)
      (hwords : head.separator = " ") (hisWord : isWord field)
      (hknown : Text.upper field ∈ Sql.Reader.knownFields → Text.upper field = field)
      (hfield : fieldOfToken (field ++ "_FROM") = .ok field) :
      head.Form [.keyword field, .keyword "FROM", x] [x]
  | trimFrom {spec : Option TrimSpec} {x y : Node} (hhead : head.Worded "TRIM" 2)
      (hwords : head.separator = " ") : head.Form (trimParams spec (some x) true y) [x, y]
  | trimSides {spec : TrimSpec} {x : Node} (hhead : head.Worded "TRIM" 1)
      (hwords : head.separator = " ") : head.Form (trimParams (some spec) none false x) [x]
  | overlay {x y z : Node} {o : Option Node}
      (hhead : head.Worded "OVERLAY" (3 + o.toList.length)) (hwords : head.separator = " ") :
      head.Form ([x, .keyword "PLACING", y, .keyword "FROM", z] ++ clause "FOR" o)
        (x :: y :: z :: o.toList)
  | substring {x : Node} {o o' : Option Node}
      (hhead : head.Worded "SUBSTRING" (1 + o.toList.length + o'.toList.length))
      (hwords : head.separator = " ") :
      head.Form (x :: clause "FROM" o ++ clause "FOR" o') (x :: (o.toList ++ o'.toList))
  | convertUsing {x : Node} {target : String} (hhead : head.Worded "CONVERT" 2)
      (hwords : head.separator = " ") (htarget : isWord target) :
      head.Form [x, .keyword "USING", .keyword target] [x]
  | convertType {x : Node} {target : String} (hhead : head.Worded "CONVERT" 2)
      (hcommas : head.separator = ", ") (htarget : Sql.Reader.Pronounced target) :
      head.Form [x, .keyword target] [x]
  | rounding {word : String} {x : Node} (hhead : head.Worded word 1)
      (hcommas : head.separator = ", ") (hword : word ∈ Sql.Reader.roundingWords) :
      head.Form [x] [x]
  | trim {x : Node} (hhead : head.Worded "TRIM" 1) (hcommas : head.separator = ", ") :
      head.Form [x] [x]
  | trimSet {x y : Node} (hhead : head.Worded "TRIM" 2) (hcommas : head.separator = ", ") :
      head.Form [x, y] [x, y]
  | substringStart {x y : Node} (hhead : head.Worded "SUBSTRING" 2)
      (hcommas : head.separator = ", ") : head.Form [x, y] [x, y]
  | substringLength {x y z : Node} (hhead : head.Worded "SUBSTRING" 3)
      (hcommas : head.separator = ", ") : head.Form [x, y, z] [x, y, z]

/-- **The forms** are read again if their arguments are. -/
theorem Node.rereads_form {l : Labels} (hl : l.parenthesized = false)
    (hstd : env.collaborators = .standard) (hsession : env.session = {})
    (hkeyword : env.config.keywordSeparator = " ") (hcomma : env.config.separator = ", ")
    {head : CallHead} {params args : List Node} (hform : head.Form params args)
    (h : ∀ a ∈ args, a.Rereads env) : (call l head params).Rereads env := by
  cases hform with
  | position hhead hwords hbind hedge =>
    exact rereads_position hl hstd hkeyword hwords hhead hbind hedge (h _ (by simp))
      (h _ (by simp))
  | extract hhead hwords hisWord hknown hfield =>
    exact rereads_extract hl hstd hkeyword hwords hhead hisWord hknown hfield (h _ (by simp))
  | trimFrom hhead hwords =>
    exact rereads_trimFrom hl hstd hkeyword hwords hhead _ (h _ (by simp)) (h _ (by simp))
  | trimSides hhead hwords =>
    exact rereads_trimSides hl hstd hkeyword hwords hhead _ (h _ (by simp))
  | overlay hhead hwords =>
    exact rereads_overlay hl hstd hkeyword hwords hhead (h _ (by simp)) (h _ (by simp))
      (h _ (by simp)) fun n hn => h n (by simp_all)
  | substring hhead hwords =>
    exact rereads_substring hl hstd hkeyword hwords hhead (h _ (by simp))
      (fun n hn => h n (by simp_all)) fun n hn => h n (by simp_all)
  | convertUsing hhead hwords htarget =>
    exact rereads_convertUsing hl hstd hkeyword hwords hhead htarget (h _ (by simp))
  | convertType hhead hcommas htarget =>
    exact rereads_convertType hl hstd hcomma hcommas hhead htarget (h _ (by simp))
  | rounding hhead hcommas hword =>
    exact rereads_rounding hl hstd hcomma hcommas hsession hhead hword (h _ (by simp))
  | trim hhead hcommas =>
    exact rereads_trim hl hstd hcomma hcommas hhead (h _ (by simp))
  | trimSet hhead hcommas =>
    exact rereads_trimSet hl hstd hcomma hcommas hhead (h _ (by simp)) (h _ (by simp))
  | substringStart hhead hcommas =>
    exact rereads_substringStart hl hstd hcomma hcommas hhead (h _ (by simp)) (h _ (by simp))
  | substringLength hhead hcommas =>
    exact rereads_substringLength hl hstd hcomma hcommas hhead (h _ (by simp)) (h _ (by simp))
      (h _ (by simp))

end SqlNormal
