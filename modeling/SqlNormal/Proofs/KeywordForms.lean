import SqlNormal.Proofs.Fields
import SqlNormal.Proofs.Resolution

/-!
# Keyword forms that are told apart

The parameters of a call are all that is left of the clauses it was written with. No argument is a
keyword, and so the keywords among the parameters tell which clause an argument is from.

* `Node.ne_keyword`, `clause_append_inj`, `clause_append_plain`: keywords beside arguments;
* `trimParams_inj`, `substringParams_inj`, `convertParams_inj`: what parameters tell;
* `Tree.SameForm`: two keyword forms with the same clauses;
* **`sameForm_of_params`**: equal parameters come from the same form.
-/

namespace SqlNormal

/-! ## Keywords beside arguments -/

theorem Node.ne_keyword {n : Node} (h : n.isKeyword = false) (word : String) :
    n ≠ keyword word := by
  rintro rfl
  exact Bool.noConfusion h

theorem Node.keyword_ne {n : Node} (h : n.isKeyword = false) (word : String) : keyword word ≠ n :=
  (ne_keyword h word).symm

/-- A clause in front of parameters that do not begin with its keyword. -/
theorem clause_append_inj {word : String} {a a' : Option Node} {ns ns' : List Node}
    (hns : ns.head? ≠ some (.keyword word)) (hns' : ns'.head? ≠ some (.keyword word))
    (h : clause word a ++ ns = clause word a' ++ ns') : a = a' ∧ ns = ns' := by
  cases a with
  | none =>
    cases a' with
    | none => exact ⟨rfl, h⟩
    | some m => exact absurd (congrArg List.head? h) hns
  | some n =>
    cases a' with
    | none => exact absurd (congrArg List.head? h.symm) hns'
    | some m =>
      obtain ⟨hargument, hrest⟩ := List.cons.inj (List.cons.inj h).2
      exact ⟨congrArg some hargument, hrest⟩

theorem clause_inj {word : String} {a a' : Option Node} (h : clause word a = clause word a') :
    a = a' := by
  have hend : ([] : List Node).head? ≠ some (.keyword word) := nofun
  exact (clause_append_inj hend hend (by rw [h])).1

/-- There is no clause among parameters without a keyword. -/
theorem clause_append_plain {word : String} {a : Option Node} {ns : List Node}
    (h : ∀ m ∈ clause word a ++ ns, m.isKeyword = false) : a = none := by
  cases a with
  | none => rfl
  | some n => exact absurd (h (.keyword word) (List.mem_cons_self ..)) Bool.noConfusion

theorem eq_of_toList_eq {a a' : Option Node} (h : a.toList = a'.toList) : a = a' := by
  simpa using congrArg List.head? h

/-- Clauses are told from arguments that stand alone, unless there are none. -/
theorem clauses_eq_arguments {word word' : String} {a a' b b' : Option Node}
    (ha : ∀ m ∈ a', m.isKeyword = false) (hb : ∀ m ∈ b', m.isKeyword = false)
    (h : clause word a ++ clause word' b = a'.toList ++ b'.toList) :
    a = none ∧ b = none ∧ a' = none ∧ b' = none := by
  have hplain : ∀ m ∈ clause word a ++ clause word' b, m.isKeyword = false := by
    rw [h]
    intro m hm
    rcases List.mem_append.mp hm with hm | hm
    · exact ha m (Option.mem_toList.mp hm)
    · exact hb m (Option.mem_toList.mp hm)
  obtain rfl := clause_append_plain hplain
  have hrest : ∀ m ∈ clause word' b ++ [], m.isKeyword = false :=
    fun m hm => hplain m (by simpa [clause] using hm)
  obtain rfl := clause_append_plain hrest
  obtain ⟨ha', hb'⟩ := List.append_eq_nil_iff.mp h.symm
  exact ⟨rfl, rfl, Option.toList_eq_nil_iff.mp ha', Option.toList_eq_nil_iff.mp hb'⟩

/-- Two arguments of which the first is left out only with the second. -/
theorem arguments_inj {a a' b b' : Option Node} (ha : a = none → b = none)
    (ha' : a' = none → b' = none) (h : a.toList ++ b.toList = a'.toList ++ b'.toList) :
    a = a' ∧ b = b' := by
  cases a with
  | none =>
    obtain rfl := ha rfl
    obtain ⟨ha', hb'⟩ := List.append_eq_nil_iff.mp h.symm
    exact ⟨(Option.toList_eq_nil_iff.mp ha').symm, (Option.toList_eq_nil_iff.mp hb').symm⟩
  | some n =>
    cases a' with
    | none =>
      obtain rfl := ha' rfl
      cases h
    | some m =>
      obtain ⟨hfirst, hrest⟩ := List.cons.inj h
      exact ⟨congrArg some hfirst, eq_of_toList_eq hrest⟩

/-! ## Parameters -/

/-- The parameters of a SUBSTRING in either form. -/
def substringParams (source : Node) (start length : Option Node) (keywordForm : Bool) : List Node :=
  if keywordForm then source :: clause "FROM" start ++ clause "FOR" length
  else source :: start.toList ++ length.toList

/-- The parameters of a CONVERT to a character set or to a type. -/
def convertParams (operand : Node) (charset : Bool) (target : String) (style : Option Node) :
    List Node :=
  operand :: (if charset then [Node.keyword "USING", .keyword target] else [.keyword target]) ++
    style.toList

section Params

variable {n n' : Node} (hn : n.isKeyword = false) (hn' : n'.isKeyword = false)
include hn

/-- The end that is trimmed stands in front. -/
theorem head?_trimParams {set : Option Node} (hset : ∀ m ∈ set, m.isKeyword = false)
    {spec : Option TrimSpec} {hasFrom : Bool} {s : TrimSpec} :
    (trimParams spec set hasFrom n).head? = some (.keyword s.text) ↔ spec = some s := by
  cases spec with
  | some s' =>
    have hhead : (trimParams (some s') set hasFrom n).head? = some (.keyword s'.text) := by
      cases hasFrom <;> rfl
    rw [hhead, Option.some_inj, Option.some_inj]
    refine ⟨fun h => ?_, fun h => h ▸ rfl⟩
    have hword := Node.keyword_inj h
    cases s' <;> cases s <;> first | rfl | exact absurd hword (by decide)
  | none =>
    refine iff_of_false (fun h => ?_) nofun
    cases hasFrom with
    | false => exact Node.ne_keyword hn _ (Option.some_inj.mp h)
    | true =>
      cases set with
      | some m => exact Node.ne_keyword (hset m rfl) _ (Option.some_inj.mp h)
      | none =>
        have hword := Node.keyword_inj (Option.some_inj.mp h)
        cases s <;> exact absurd hword (by decide)

/-- The marker in front of the text that is trimmed. -/
theorem fieldMarker_mem_trimParams {set : Option Node} (hset : ∀ m ∈ set, m.isKeyword = false)
    {spec : Option TrimSpec} {hasFrom : Bool} :
    Node.keyword fieldMarker ∈ trimParams spec set hasFrom n ↔ hasFrom = true := by
  have hspec : Node.keyword fieldMarker ∉ spec.toList.map fun s => Node.keyword s.text := by
    intro h
    obtain ⟨s, -, hs⟩ := List.mem_map.mp h
    have hword := Node.keyword_inj hs
    cases s <;> exact absurd hword (by decide)
  have hcharacters : Node.keyword fieldMarker ∉ set.toList := fun h =>
    Node.ne_keyword (hset _ (Option.mem_toList.mp h)) _ rfl
  cases hasFrom <;> simp [trimParams, hspec, hcharacters, Node.keyword_ne hn]

include hn'

theorem trimParams_inj {spec spec' : Option TrimSpec} {set set' : Option Node}
    {hasFrom hasFrom' : Bool} (hset : ∀ m ∈ set, m.isKeyword = false)
    (hset' : ∀ m ∈ set', m.isKeyword = false)
    (h : trimParams spec set hasFrom n = trimParams spec' set' hasFrom' n') :
    spec = spec' ∧ set = set' ∧ hasFrom = hasFrom' ∧ n = n' := by
  have hspec : spec = spec' := by
    refine Option.ext fun s => ?_
    rw [← head?_trimParams hn hset, h, head?_trimParams hn' hset']
  have hfrom : hasFrom = hasFrom' := by
    rw [Bool.eq_iff_iff, ← fieldMarker_mem_trimParams hn hset, h,
      fieldMarker_mem_trimParams hn' hset']
  subst hspec hfrom
  cases hasFrom with
  | false =>
    obtain ⟨hsource, hcharacters⟩ := List.cons.inj (List.append_cancel_left h)
    exact ⟨rfl, eq_of_toList_eq hcharacters, rfl, hsource⟩
  | true =>
    obtain ⟨hfront, hback⟩ := List.append_inj' h rfl
    have hcharacters := List.append_cancel_left hfront
    have hsource := (List.cons.inj (List.cons.inj hback).2).1
    exact ⟨rfl, eq_of_toList_eq hcharacters, rfl, hsource⟩

omit hn hn'

/-- Both forms of a SUBSTRING have the same parameters only if there is nothing but its source. -/
theorem substringParams_inj {start start' length length' : Option Node}
    {keywordForm keywordForm' : Bool} (hstart : ∀ m ∈ start, m.isKeyword = false)
    (hstart' : ∀ m ∈ start', m.isKeyword = false) (hlength : ∀ m ∈ length, m.isKeyword = false)
    (hlength' : ∀ m ∈ length', m.isKeyword = false)
    (hform : keywordForm = false → start = none → length = none)
    (hform' : keywordForm' = false → start' = none → length' = none)
    (h : substringParams n start length keywordForm =
      substringParams n' start' length' keywordForm') :
    n = n' ∧ start = start' ∧ length = length' ∧
      (keywordForm = keywordForm' ∨ start = none ∧ length = none) := by
  cases keywordForm with
  | false =>
    cases keywordForm' with
    | false =>
      obtain ⟨hsource, harguments⟩ := List.cons.inj h
      obtain ⟨rfl, rfl⟩ := arguments_inj (hform rfl) (hform' rfl) harguments
      exact ⟨hsource, rfl, rfl, .inl rfl⟩
    | true =>
      obtain ⟨hsource, harguments⟩ := List.cons.inj h
      obtain ⟨rfl, rfl, rfl, rfl⟩ := clauses_eq_arguments hstart hlength harguments.symm
      exact ⟨hsource, rfl, rfl, .inr ⟨rfl, rfl⟩⟩
  | true =>
    cases keywordForm' with
    | false =>
      obtain ⟨hsource, harguments⟩ := List.cons.inj h
      obtain ⟨rfl, rfl, rfl, rfl⟩ := clauses_eq_arguments hstart' hlength' harguments
      exact ⟨hsource, rfl, rfl, .inr ⟨rfl, rfl⟩⟩
    | true =>
      have hfrom (a : Option Node) : (clause "FOR" a).head? ≠ some (.keyword "FROM") := by
        cases a with
        | none => nofun
        | some m =>
          intro hword
          exact absurd (Node.keyword_inj (Option.some_inj.mp hword)) (by decide)
      obtain ⟨hsource, hclauses⟩ := List.cons.inj h
      obtain ⟨rfl, hfor⟩ := clause_append_inj (hfrom _) (hfrom _) hclauses
      exact ⟨hsource, rfl, clause_inj hfor, .inl rfl⟩

/-- A type is followed by no keyword, the word of a character set by its name. -/
theorem convertParams_inj {style style' : Option Node} {charset charset' : Bool}
    {target target' : String} (hstyle : ∀ m ∈ style, m.isKeyword = false)
    (hstyle' : ∀ m ∈ style', m.isKeyword = false) (hcharset : charset = true → style = none)
    (hcharset' : charset' = true → style' = none)
    (h : convertParams n charset target style = convertParams n' charset' target' style') :
    n = n' ∧ charset = charset' ∧ target = target' ∧ style = style' := by
  have hword {word target : String} {s : Option Node} (hs : ∀ m ∈ s, m.isKeyword = false) :
      [Node.keyword word] ++ s.toList ≠ [.keyword "USING", .keyword target] := by
    intro heq
    cases s with
    | none => cases heq
    | some m => exact Node.ne_keyword (hs m rfl) _ (List.cons.inj (List.cons.inj heq).2).1
  obtain ⟨hoperand, hrest⟩ := List.cons.inj h
  cases charset with
  | false =>
    cases charset' with
    | false =>
      obtain ⟨htarget, hs⟩ := List.cons.inj hrest
      exact ⟨hoperand, rfl, Node.keyword_inj htarget, eq_of_toList_eq hs⟩
    | true =>
      obtain rfl := hcharset' rfl
      exact absurd hrest (hword hstyle)
  | true =>
    obtain rfl := hcharset rfl
    cases charset' with
    | false => exact absurd hrest.symm (hword hstyle')
    | true =>
      obtain rfl := hcharset' rfl
      have htarget := (List.cons.inj (List.cons.inj hrest).2).1
      exact ⟨hoperand, rfl, Node.keyword_inj htarget, rfl⟩

end Params

/-! ## Forms -/

/-- Two keyword forms of the same kind, with the same clauses, flags and words, and `R` between the
arguments of each clause. A SUBSTRING of nothing but its source is written in either form. -/
inductive Tree.SameForm (R : Tree → Tree → Prop) : Tree → Tree → Prop
  | trim {spec hasFrom characters characters' source source'} :
      Option.Rel R characters characters' → R source source' →
      SameForm R (.trim spec characters hasFrom source) (.trim spec characters' hasFrom source')
  | substring {keywordForm source source' start start' length length'} : R source source' →
      Option.Rel R start start' → Option.Rel R length length' →
      SameForm R (.substring source start length keywordForm)
        (.substring source' start' length' keywordForm)
  | bareSubstring {keywordForm keywordForm' source source'} : R source source' →
      SameForm R (.substring source none none keywordForm)
        (.substring source' none none keywordForm')
  | position {needle needle' haystack haystack'} : R needle needle' → R haystack haystack' →
      SameForm R (.position needle haystack) (.position needle' haystack')
  | overlay {source source' replacement replacement' start start' length length'} :
      R source source' → R replacement replacement' → R start start' → Option.Rel R length length' →
      SameForm R (.overlay source replacement start length)
        (.overlay source' replacement' start' length')
  | convert {charset target operand operand' style style'} : R operand operand' →
      Option.Rel R style style' →
      SameForm R (.convert operand charset target style) (.convert operand' charset target style')

namespace Environment

variable {env : Environment} {d d' : Nat}

/-- The trees have the same node, each at a level of its own. -/
def SameNode (env : Environment) (level level' : Nat) (t t' : Tree) : Prop :=
  ∃ n, env.lower level t = .ok n ∧ env.lower level' t' = .ok n

theorem sameNode_of_parts {t t' : Tree} {n n' : Node} (h : env.Part env.Lowers d t n)
    (h' : env.Part env.Lowers d' t' n') (hn : n = n') : env.SameNode (d + 1) (d' + 1) t t' :=
  ⟨n, h.2, hn ▸ h'.2⟩

theorem rel_of_parts {t t' : Option Tree} {n n' : Option Node}
    (h : Option.Rel (env.Part env.Lowers d) t n) (h' : Option.Rel (env.Part env.Lowers d') t' n')
    (hn : n = n') : Option.Rel (env.SameNode (d + 1) (d' + 1)) t t' := by
  subst hn
  cases h with
  | none =>
    cases h' with
    | none => exact .none
  | some h =>
    cases h' with
    | some h' => exact .some (sameNode_of_parts h h' rfl)

theorem eq_none_iff_of_rel {R : Tree → Node → Prop} {t : Option Tree} {n : Option Node}
    (h : Option.Rel R t n) : t = none ↔ n = none := by
  cases h <;> simp

section Standard

variable (hstd : env.collaborators = .standard)
include hstd

theorem isKeyword_of_part {t : Tree} {n : Node} (h : env.Part env.Lowers d t n) :
    n.isKeyword = false :=
  (lowered_of_lower hstd h.2).notKeyword

theorem isKeyword_of_rel {t : Option Tree} {n : Option Node}
    (h : Option.Rel (env.Part env.Lowers d) t n) : ∀ m ∈ n, m.isKeyword = false := by
  cases h with
  | none => nofun
  | some h =>
    rintro _ ⟨⟩
    exact isKeyword_of_part hstd h

/-- A TRIM has the parameters of its parts, whatever it is written with. -/
theorem step_trim {spec : Option TrimSpec} {characters : Option Tree} {hasFrom : Bool}
    {source : Tree} {n : Node} (h : env.lower d (.trim spec characters hasFrom source) = .ok n) :
    ∃ set m, Option.Rel (env.Part env.Lowers d) characters set ∧
      env.Part env.Lowers d source m ∧ n.params = trimParams spec set hasFrom m := by
  cases step_of_lower hstd h with
  | trimFrom _ hset hm | trimPlain _ _ hset hm => exact ⟨_, _, hset, hm, rfl⟩

section Kinds

variable {n n' : Node} (hparams : n.params = n'.params)
include hparams

theorem sameForm_trim {spec spec' : Option TrimSpec} {characters characters' : Option Tree}
    {hasFrom hasFrom' : Bool} {source source' : Tree}
    (h : env.lower d (.trim spec characters hasFrom source) = .ok n)
    (h' : env.lower d' (.trim spec' characters' hasFrom' source') = .ok n') :
    (Tree.trim spec characters hasFrom source).SameForm (env.SameNode (d + 1) (d' + 1))
      (.trim spec' characters' hasFrom' source') := by
  obtain ⟨set, m, hset, hm, hn⟩ := step_trim hstd h
  obtain ⟨set', m', hset', hm', hn'⟩ := step_trim hstd h'
  obtain ⟨rfl, hcharacters, rfl, hsource⟩ := trimParams_inj (isKeyword_of_part hstd hm)
    (isKeyword_of_part hstd hm') (isKeyword_of_rel hstd hset) (isKeyword_of_rel hstd hset')
    (hn.symm.trans (hparams.trans hn'))
  exact .trim (rel_of_parts hset hset' hcharacters) (sameNode_of_parts hm hm' hsource)

theorem sameForm_substring {source source' : Tree} {start start' length length' : Option Tree}
    {keywordForm keywordForm' : Bool}
    (h : env.lower d (.substring source start length keywordForm) = .ok n)
    (h' : env.lower d' (.substring source' start' length' keywordForm') = .ok n') :
    (Tree.substring source start length keywordForm).SameForm (env.SameNode (d + 1) (d' + 1))
      (.substring source' start' length' keywordForm') := by
  cases step_of_lower hstd h with
  | substring hguard _ hm hfirst hcount =>
    cases step_of_lower hstd h' with
    | substring hguard' _ hm' hfirst' hcount' =>
      have hnone hk hs := (eq_none_iff_of_rel hcount).mp
        (hguard hk ((eq_none_iff_of_rel hfirst).mpr hs))
      have hnone' hk hs := (eq_none_iff_of_rel hcount').mp
        (hguard' hk ((eq_none_iff_of_rel hfirst').mpr hs))
      obtain ⟨hsource, hstart, hlength, hform⟩ := substringParams_inj
        (isKeyword_of_rel hstd hfirst) (isKeyword_of_rel hstd hfirst')
        (isKeyword_of_rel hstd hcount) (isKeyword_of_rel hstd hcount') hnone hnone' hparams
      rcases hform with rfl | ⟨rfl, rfl⟩
      · exact .substring (sameNode_of_parts hm hm' hsource) (rel_of_parts hfirst hfirst' hstart)
          (rel_of_parts hcount hcount' hlength)
      · obtain rfl := (eq_none_iff_of_rel hfirst).mpr rfl
        obtain rfl := (eq_none_iff_of_rel hcount).mpr rfl
        obtain rfl := (eq_none_iff_of_rel hfirst').mpr hstart.symm
        obtain rfl := (eq_none_iff_of_rel hcount').mpr hlength.symm
        exact .bareSubstring (sameNode_of_parts hm hm' hsource)

theorem sameForm_position {needle needle' haystack haystack' : Tree}
    (h : env.lower d (.position needle haystack) = .ok n)
    (h' : env.lower d' (.position needle' haystack') = .ok n') :
    (Tree.position needle haystack).SameForm (env.SameNode (d + 1) (d' + 1))
      (.position needle' haystack') := by
  cases step_of_lower hstd h with
  | position _ hm hh =>
    cases step_of_lower hstd h' with
    | position _ hm' hh' =>
      obtain ⟨hneedle, hrest⟩ := List.cons.inj hparams
      have hhaystack := (List.cons.inj (List.cons.inj hrest).2).1
      exact .position (sameNode_of_parts hm hm' hneedle) (sameNode_of_parts hh hh' hhaystack)

theorem sameForm_overlay {source source' replacement replacement' start start' : Tree}
    {length length' : Option Tree}
    (h : env.lower d (.overlay source replacement start length) = .ok n)
    (h' : env.lower d' (.overlay source' replacement' start' length') = .ok n') :
    (Tree.overlay source replacement start length).SameForm (env.SameNode (d + 1) (d' + 1))
      (.overlay source' replacement' start' length') := by
  cases step_of_lower hstd h with
  | overlay _ hm hr hs hl =>
    cases step_of_lower hstd h' with
    | overlay _ hm' hr' hs' hl' =>
      obtain ⟨hsource, hrest⟩ := List.cons.inj hparams
      obtain ⟨hreplacement, hrest⟩ := List.cons.inj (List.cons.inj hrest).2
      obtain ⟨hstart, hfor⟩ := List.cons.inj (List.cons.inj hrest).2
      exact .overlay (sameNode_of_parts hm hm' hsource) (sameNode_of_parts hr hr' hreplacement)
        (sameNode_of_parts hs hs' hstart) (rel_of_parts hl hl' (clause_inj hfor))

theorem sameForm_convert {operand operand' : Tree} {charset charset' : Bool}
    {target target' : String} {style style' : Option Tree}
    (h : env.lower d (.convert operand charset target style) = .ok n)
    (h' : env.lower d' (.convert operand' charset' target' style') = .ok n') :
    (Tree.convert operand charset target style).SameForm (env.SameNode (d + 1) (d' + 1))
      (.convert operand' charset' target' style') := by
  cases step_of_lower hstd h with
  | convert hguard _ hm hs =>
    cases step_of_lower hstd h' with
    | convert hguard' _ hm' hs' =>
      obtain ⟨hoperand, rfl, rfl, hstyle⟩ := convertParams_inj (isKeyword_of_rel hstd hs)
        (isKeyword_of_rel hstd hs') (fun hc => (eq_none_iff_of_rel hs).mp (hguard hc))
        (fun hc => (eq_none_iff_of_rel hs').mp (hguard' hc)) hparams
      exact .convert (sameNode_of_parts hm hm' hoperand) (rel_of_parts hs hs' hstyle)

end Kinds

/-- **Keyword forms are told apart.** Calls with the same parameters come from the same form, with
the same clauses, flags and words, and with arguments that have the same nodes; and no argument is
a keyword. -/
theorem sameForm_of_params {t t' : Tree} {n n' : Node} (hkind : t.production = t'.production)
    (hform : t.production ∈ ["TRIM", "SUBSTRING", "POSITION", "OVERLAY", "CONVERT"])
    (h : env.lower d t = .ok n) (h' : env.lower d' t' = .ok n') (hparams : n.params = n'.params) :
    t.SameForm (env.SameNode (d + 1) (d' + 1)) t' ∧
      ∀ level s m, env.lower level s = .ok m → m.isKeyword = false := by
  refine ⟨?_, fun level s m hm => (lowered_of_lower hstd hm).notKeyword⟩
  cases t with
  | trim spec characters hasFrom source =>
    cases t' with
    | trim spec' characters' hasFrom' source' => exact sameForm_trim hstd hparams h h'
    | _ => simp [Tree.production] at hkind
  | substring source start length keywordForm =>
    cases t' with
    | substring source' start' length' keywordForm' => exact sameForm_substring hstd hparams h h'
    | _ => simp [Tree.production] at hkind
  | position needle haystack =>
    cases t' with
    | position needle' haystack' => exact sameForm_position hstd hparams h h'
    | _ => simp [Tree.production] at hkind
  | overlay source replacement start length =>
    cases t' with
    | overlay source' replacement' start' length' => exact sameForm_overlay hstd hparams h h'
    | _ => simp [Tree.production] at hkind
  | convert operand charset target style =>
    cases t' with
    | convert operand' charset' target' style' => exact sameForm_convert hstd hparams h h'
    | _ => simp [Tree.production] at hkind
  | _ => simp [Tree.production] at hform

end Standard

/-- `TRIM(LEADING a FROM x)`, `CONVERT(x USING utf8)` and `SUBSTRING(x)`, the last one in both its
forms; the second one of each pair lies a level deeper. -/
theorem sameForm_trimConvert :
    let x := Tree.identifier [⟨"x", none⟩]
    let trim := Tree.trim (some .leading) (some (.identifier [⟨"a", none⟩])) true x
    let convert := Tree.convert x true "utf8" none
    let env : Environment := {}
    let alike (t t' : Tree) (texts : List String) : Prop :=
      (∃ n n', env.lower 1 t = .ok n ∧ env.lower 2 t' = .ok n' ∧ n.params = n'.params ∧
        n.params.map Node.toSql = texts) ∧ t.SameForm (env.SameNode 2 3) t'
    alike trim trim ["LEADING", "a", "FROM", "x"] ∧
      alike convert convert ["x", "USING", "utf8"] ∧
      alike (.substring x none none true) (.substring x none none false) ["x"] ∧
      ∀ level s m, env.lower level s = .ok m → m.isKeyword = false := by
  intro x trim convert env alike
  have htrim := @sameForm_of_params env 1 2 rfl trim trim _ _ rfl (by decide) rfl rfl rfl
  have hconvert := @sameForm_of_params env 1 2 rfl convert convert _ _ rfl (by decide) rfl rfl rfl
  have hbare := @sameForm_of_params env 1 2 rfl (.substring x none none true)
    (.substring x none none false) _ _ rfl (by decide) rfl rfl rfl
  exact ⟨⟨⟨_, _, rfl, rfl, rfl, by decide +kernel⟩, htrim.1⟩,
    ⟨⟨_, _, rfl, rfl, rfl, by decide +kernel⟩, hconvert.1⟩,
    ⟨⟨_, _, rfl, rfl, rfl, by decide +kernel⟩, hbare.1⟩, hbare.2⟩

end Environment

end SqlNormal
