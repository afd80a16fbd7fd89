import SqlNormal.Proofs.TypePhrases

/-!
# Forms with words of their own

A CASE, and the calls whose arguments are told apart by words: what stands between the words are
phrases, and each form is read back with the tree of its parts.

* `begins_form`: a word and a form of its own in parentheses;
* `begins_cast`, `begins_trimFrom`, `begins_extract`, `begins_position`, `begins_overlay`,
  `begins_substring`, `begins_rounding`, `begins_convertUsing` and their kin: the forms;
* `begins_case`: a searched CASE.
-/

namespace SqlNormal.Sql.Reader

variable {word : String} {rest : List Lexeme} {t x y z : Tree} {tokens tx ty tz : List Token}
  {bind edge budget : Nat}

/-- A word with a form of its own in parentheses. -/
theorem begins_form {body : List Token} (hshy : isShy (plainWord word) = false)
    (hword : (plainWord word).keyword ∉ "ANY" :: typeWords) (hbracket : .symbol "[" ∉ body)
    (hread : ∀ budget, (∀ s ∈ t.parts, s.height ≤ budget) → ∀ (o c : Lexeme) (ls : List Lexeme),
      o.token = .symbol "(" → c.token = .symbol ")" → ls.map (·.token) = body →
      ∃ e, (∀ source, e.toTree source = .ok t) ∧ (∀ i, e ≠ .name i) ∧
        ∀ inner start rest, Stops rest → ∃ forced, wordForm (rules budget) inner
          ⟨plainWord word, start⟩ ⟨word, none⟩ (o :: (ls ++ c :: rest)) =
            .ok ((e, forced), rest)) :
    Begins (plainWord word :: .symbol "(" :: (body ++ [.symbol ")"])) t edge := by
  refine ⟨opening_form hshy (by simpa using hbracket), fun budget hheight ls hls => ?_⟩
  obtain ⟨⟨_, start⟩, lp, rfl, rfl, hp⟩ := List.map_eq_cons_iff.mp hls
  obtain ⟨o, lmore, rfl, ho, hmore⟩ := List.map_eq_cons_iff.mp hp
  obtain ⟨lb, lc, rfl, hlb, hlc⟩ := List.map_eq_append_iff.mp hmore
  obtain ⟨c, rfl, hc⟩ := List.map_eq_singleton_iff.mp hlc
  obtain ⟨e, htree, hname, hform⟩ := hread budget (Tree.height_le_iff.mp hheight) o c lb ho hc hlb
  refine ⟨e, ⟨htree, fun i hi => absurd hi (hname i)⟩, fun rest hrest => ?_⟩
  rw [List.cons_append, List.cons_append, List.append_assoc, List.singleton_append]
  refine beginning_word rfl (fun inner => ?_) (fun inner => hform inner start rest hrest.stops)
    hrest.stops
  exact typedString_form (l := ⟨plainWord word, start⟩) rfl hword ho hc (hlb ▸ hbracket)
    hrest.stops

/-- What a form is read as behind its word. -/
theorem wordForm_form {r : Rules} {inner : Reader Expr} {l : Lexeme} {i : Ident} {e : Expr}
    {more : List Lexeme} (form : Reader Expr)
    (hspecial : specialForm r inner l i more = (some <$> form) more)
    (hform : form more = .ok (e, rest)) :
    ∃ forced, wordForm r inner l i more = .ok ((e, forced), rest) := by
  refine wordForm_special ?_
  rw [hspecial, run_map, hform]
  rfl

/-! ## Forms -/

/-- A cast. -/
theorem begins_cast {ttype : List Token} {text : String} {typeClass : TypeClass}
    (hx : Whole tx x) (htype : Pronounces ttype text) (hbracket : .symbol "[" ∉ ttype) :
    Begins (plainWord "CAST" :: .symbol "(" :: ((tx ++ plainWord "AS" :: ttype) ++ [.symbol ")"]))
      (.cast x (castTarget ⟨text, typeClass⟩)) edge := by
  obtain ⟨shownClass, hread'⟩ := htype
  refine begins_form (by decide) (by decide)
    (by simpa [plainWord] using ⟨hx.opening.bracket, hbracket⟩)
    fun budget hheight o c ls ho hc hls => ?_
  obtain ⟨lx, lmore, rfl, hlx, hmore⟩ := List.map_eq_append_iff.mp hls
  obtain ⟨a, lt, rfl, ha, hlt⟩ := List.map_eq_cons_iff.mp hmore
  obtain ⟨e, he, hread⟩ := hx.whole Nat.one_pos (hheight x (by simp)) hlx
  refine ⟨.cast .cast e ⟨text, shownClass⟩ none, fun source => ?_, fun _ => Expr.noConfusion,
    fun inner start rest _ => wordForm_form (castForm (rules budget) .cast) rfl ?_⟩
  · simp only [Expr.toTree, he.tree source]
    rfl
  · have hkey : a.token.keyword = "AS" := by rw [ha]; rfl
    have hoperand := hread (a :: (lt ++ c :: rest)) (behind_word (by decide) ha)
    simp only [castForm, inParens, run_bind, run_expectSymbol ho, ok_bind, List.append_assoc,
      List.cons_append, hoperand, run_expectKeyword hkey, hread' lt c rest hlt hc, castFormat?,
      run_clause? (headKey_ne_of_symbol hc (by decide : "FORMAT" ≠ "")), run_expectSymbol hc,
      run_pure]

/-- The word that tells where a TRIM takes characters away. -/
def specTokens (spec : Option TrimSpec) : List Token :=
  spec.toList.map fun s => plainWord s.text

theorem run_trimSpec? {spec : Option TrimSpec} {ls more : List Lexeme}
    (hls : ls.map (·.token) = specTokens spec)
    (hmore : headKey more ∉ ["BOTH", "LEADING", "TRAILING"]) :
    trimSpec? (ls ++ more) = .ok (spec, more) := by
  cases spec with
  | none =>
    obtain rfl := List.map_eq_nil_iff.mp hls
    simp only [List.nil_append, trimSpec?, run_bind, run_oneOf? hmore, ok_bind, run_pure]
  | some spec =>
    obtain ⟨⟨_, start⟩, rfl, rfl⟩ := List.map_eq_singleton_iff.mp hls
    cases spec <;> rfl

theorem Opening.no_spec (h : Opening tokens) {ls : List Lexeme} (hls : ls.map (·.token) = tokens) :
    headKey (ls ++ rest) ∉ ["BOTH", "LEADING", "TRAILING"] := by
  have hall : ∀ word ∈ ["BOTH", "LEADING", "TRAILING"], word ∈ shyWords := by decide
  exact fun hmem => h.headKey_ne hls (hall _ hmem) rfl

theorem bracket_specTokens (spec : Option TrimSpec) : .symbol "[" ∉ specTokens spec := by
  cases spec <;> simp [specTokens, plainWord]

/-- A TRIM with characters in front of `FROM`. -/
theorem begins_trimFrom {spec : Option TrimSpec} (hx : Whole tx x) (hy : Whole ty y) :
    Begins (plainWord "TRIM" :: .symbol "(" ::
        ((specTokens spec ++ (tx ++ plainWord "FROM" :: ty)) ++ [.symbol ")"]))
      (.trim spec (some x) true y) edge := by
  refine begins_form (by decide) (by decide)
    (by simpa [plainWord] using ⟨bracket_specTokens spec, hx.opening.bracket, hy.opening.bracket⟩)
    fun budget hheight o c ls ho hc hls => ?_
  obtain ⟨lspec, lbody, rfl, hlspec, hbody⟩ := List.map_eq_append_iff.mp hls
  obtain ⟨lx, lmore, rfl, hlx, hmore⟩ := List.map_eq_append_iff.mp hbody
  obtain ⟨a, ly, rfl, ha, hly⟩ := List.map_eq_cons_iff.mp hmore
  obtain ⟨ex, hex, hreadx⟩ := hx.whole Nat.one_pos (hheight x (by simp)) hlx
  obtain ⟨ey, hey, hready⟩ := hy.whole Nat.one_pos (hheight y (by simp)) hly
  refine ⟨.trim spec ey (some ex) none, fun source => ?_, fun _ => Expr.noConfusion,
    fun inner start rest _ => wordForm_form (trimForm (rules budget)) rfl ?_⟩
  · simp only [Expr.toTree, hex.tree source, hey.tree source]
    rfl
  · have hkey : a.token.keyword = "FROM" := by rw [ha]; rfl
    have hspec := @run_trimSpec? spec lspec (lx ++ (a :: (ly ++ c :: rest))) hlspec
      (hx.opening.no_spec hlx)
    have hfirst := hreadx (a :: (ly ++ c :: rest)) (behind_word (by decide) ha)
    have hsource := hready (c :: rest) (behind_closing (by decide) hc)
    simp only [trimForm, inParens, run_bind, run_expectSymbol ho, ok_bind, List.append_assoc,
      List.cons_append, hspec, hfirst, run_keyword?_of hkey, run_ite, if_true, hsource,
      run_expectSymbol hc, run_pure]

/-- A TRIM without characters. -/
theorem begins_trimPlain {spec : Option TrimSpec} (hx : Whole tx x) :
    Begins (plainWord "TRIM" :: .symbol "(" :: ((specTokens spec ++ tx) ++ [.symbol ")"]))
      (.trim spec none false x) edge := by
  refine begins_form (by decide) (by decide)
    (by simpa using ⟨bracket_specTokens spec, hx.opening.bracket⟩)
    fun budget hheight o c ls ho hc hls => ?_
  obtain ⟨lspec, lx, rfl, hlspec, hlx⟩ := List.map_eq_append_iff.mp hls
  obtain ⟨ex, hex, hreadx⟩ := hx.whole Nat.one_pos (hheight x (by simp)) hlx
  refine ⟨.trim spec ex none none, fun source => ?_, fun _ => Expr.noConfusion,
    fun inner start rest _ => wordForm_form (trimForm (rules budget)) rfl ?_⟩
  · simp only [Expr.toTree, hex.tree source]
    rfl
  · have hspec := @run_trimSpec? spec lspec (lx ++ (c :: rest)) hlspec (hx.opening.no_spec hlx)
    have hfirst := hreadx (c :: rest) (behind_closing (by decide) hc)
    have hcomma : symbol? "," (c :: rest) = .ok (false, c :: rest) := run_symbol? (by simp [hc])
    simp only [trimForm, inParens, run_bind, run_expectSymbol ho, ok_bind, List.append_assoc,
      hspec, hfirst, run_keyword? (headKey_ne_of_symbol hc (by decide : "FROM" ≠ "")), hcomma,
      run_ite, Bool.false_eq_true, if_false, run_expectSymbol hc, run_pure]

/-- A TRIM with characters behind a comma. -/
theorem begins_trimSet (hx : Whole tx x) (hy : Whole ty y) :
    Begins (plainWord "TRIM" :: .symbol "(" :: ((tx ++ .symbol "," :: ty) ++ [.symbol ")"]))
      (.trim none (some y) false x) edge := by
  refine begins_form (by decide) (by decide)
    (by simpa using ⟨hx.opening.bracket, hy.opening.bracket⟩)
    fun budget hheight o c ls ho hc hls => ?_
  obtain ⟨lx, lmore, rfl, hlx, hmore⟩ := List.map_eq_append_iff.mp hls
  obtain ⟨a, ly, rfl, ha, hly⟩ := List.map_eq_cons_iff.mp hmore
  obtain ⟨ex, hex, hreadx⟩ := hx.whole Nat.one_pos (hheight x (by simp)) hlx
  obtain ⟨ey, hey, hready⟩ := hy.whole Nat.one_pos (hheight y (by simp)) hly
  refine ⟨.trim none ex none (some [ey]), fun source => ?_, fun _ => Expr.noConfusion,
    fun inner start rest _ => wordForm_form (trimForm (rules budget)) rfl ?_⟩
  · simp only [Expr.toTree, hex.tree source, hey.tree source]
    rfl
  · have hspec := @run_trimSpec? none [] (lx ++ (a :: (ly ++ c :: rest))) rfl
      (hx.opening.no_spec hlx)
    have hfirst := hreadx (a :: (ly ++ c :: rest)) (behind_closing (by decide) ha)
    have hset : separated (rules budget).whole (ly ++ c :: rest) = .ok ([ey], c :: rest) :=
      separated_one (hready (c :: rest) (behind_closing (by decide) hc)) (by simp [hc])
    rw [List.nil_append] at hspec
    simp only [trimForm, inParens, run_bind, run_expectSymbol ho, ok_bind, List.append_assoc,
      List.cons_append, hspec, hfirst,
      run_keyword? (headKey_ne_of_symbol ha (by decide : "FROM" ≠ "")), run_symbol?_of ha,
      run_ite, Bool.false_eq_true, if_false, if_true, hset, run_expectSymbol hc, run_pure]

/-- A field in front of another word is read as it is shown, if a known one is in upper case. -/
theorem run_dateTimeField {field : String} (h : Text.upper field ∈ knownFields →
    Text.upper field = field) {start : Location} {a : Lexeme} (ha : a.token = plainWord "FROM") :
    dateTimeField (⟨plainWord field, start⟩ :: a :: rest) = .ok (field, a :: rest) := by
  by_cases hknown : Text.upper field ∈ knownFields
  · have hkey : headKey (⟨plainWord field, start⟩ :: a :: rest) = field := h hknown
    have hcontains : knownFields.contains field = true := by
      rw [h hknown] at hknown
      simpa using hknown
    have htaken : oneOf? knownFields (⟨plainWord field, start⟩ :: a :: rest) =
        .ok (some field, a :: rest) := by
      simp only [oneOf?, run_bind, run_keywordAt, hkey, ok_bind, hcontains, run_ite, if_true,
        run_skip, List.drop_succ_cons, List.drop_zero, run_pure]
    have hopen : peekSymbol "(" (a :: rest) = .ok (false, a :: rest) :=
      run_peekSymbol (by simp [ha, plainWord])
    rw [dateTimeField, run_bind, htaken, ok_bind]
    by_cases hweek : field = "WEEK"
    · subst hweek
      simp only [run_bind, hopen, ok_bind, run_ite, Bool.false_eq_true, if_false, run_pure]
    · refine Eq.trans (congrFun (g := (pure field : Reader String)) ?_ (a :: rest)) rfl
      split
      · rename_i heq
        exact absurd (Option.some.inj heq) hweek
      · rename_i word _ heq
        rw [Option.some.inj heq]
      · rename_i heq
        cases heq
  · have hrefused : headKey (⟨plainWord field, start⟩ :: a :: rest) ∉ knownFields := hknown
    simp only [dateTimeField, run_bind, run_oneOf? hrefused, ok_bind]
    rfl

/-- An EXTRACT. -/
theorem begins_extract {field : String} (h : Text.upper field ∈ knownFields →
    Text.upper field = field) (hx : Whole tx x) :
    Begins (plainWord "EXTRACT" :: .symbol "(" ::
        ((plainWord field :: plainWord "FROM" :: tx) ++ [.symbol ")"]))
      (.extract (field ++ "_FROM") x) edge := by
  refine begins_form (by decide) (by decide) (by simpa [plainWord] using hx.opening.bracket)
    fun budget hheight o c ls ho hc hls => ?_
  obtain ⟨⟨_, place⟩, lmore, rfl, rfl, hmore⟩ := List.map_eq_cons_iff.mp hls
  obtain ⟨a, lx, rfl, ha, hlx⟩ := List.map_eq_cons_iff.mp hmore
  obtain ⟨ex, hex, hreadx⟩ := hx.whole Nat.one_pos (hheight x (by simp)) hlx
  refine ⟨.extract field ex false, fun source => ?_, fun _ => Expr.noConfusion,
    fun inner start rest _ => wordForm_form (extractForm (rules budget)) rfl ?_⟩
  · simp only [Expr.toTree, hex.tree source]
    rfl
  · have hkey : a.token.keyword = "FROM" := by rw [ha]; rfl
    have hsource := hreadx (c :: rest) (behind_closing (by decide) hc)
    simp only [extractForm, inParens, run_bind, run_expectSymbol ho, ok_bind, List.cons_append,
      run_dateTimeField h ha, run_keyword?_of hkey, run_ite, if_true, hsource,
      run_expectSymbol hc, run_pure]

/-- A POSITION whose first operand binds tighter than a comparison. -/
theorem begins_position {bind' edge' : Nat} (hx : Phrase tx x bind' edge')
    (hbind : Strength.comparison < bind') (hedge : Strength.comparison ≤ edge')
    (hy : Whole ty y) :
    Begins (plainWord "POSITION" :: .symbol "(" :: ((tx ++ plainWord "IN" :: ty) ++ [.symbol ")"]))
      (.position x y) edge := by
  refine begins_form (by decide) (by decide)
    (by simpa [plainWord] using ⟨hx.opening.bracket, hy.opening.bracket⟩)
    fun budget hheight o c ls ho hc hls => ?_
  obtain ⟨lx, lmore, rfl, hlx, hmore⟩ := List.map_eq_append_iff.mp hls
  obtain ⟨a, ly, rfl, ha, hly⟩ := List.map_eq_cons_iff.mp hmore
  obtain ⟨ex, hex, hreadx⟩ := hx.alone hbind hedge (hheight x (by simp)) hlx
  obtain ⟨ey, hey, hready⟩ := hy.whole Nat.one_pos (hheight y (by simp)) hly
  refine ⟨.position ex ey, fun source => ?_, fun _ => Expr.noConfusion,
    fun inner start rest _ => wordForm_special ?_⟩
  · simp only [Expr.toTree, hex.tree source, hey.tree source]
    rfl
  · have hkey : a.token.keyword = "IN" := by rw [ha]; rfl
    have hneedle := hreadx (a :: (ly ++ c :: rest)) (behind_in ha)
    have hhaystack := hready (c :: rest) (behind_closing (by decide) hc)
    have hform : positionForm (rules budget) (o :: (lx ++ a :: ly ++ c :: rest)) =
        .ok (.position ex ey, rest) := by
      simp only [positionForm, inParens, run_bind, run_expectSymbol ho, ok_bind, List.append_assoc,
        List.cons_append, hneedle, run_expectKeyword hkey, hhaystack, run_expectSymbol hc, run_pure]
    have hpeek : peekSymbol "(" (o :: (lx ++ a :: ly ++ c :: rest)) =
        .ok (true, o :: (lx ++ a :: ly ++ c :: rest)) := run_peekSymbol_of ho
    have hattempt : attempt (positionForm (rules budget)) (o :: (lx ++ a :: ly ++ c :: rest)) =
        .ok (some (.position ex ey), rest) := by
      simp only [attempt, hform]
    show (peekSymbol "(" >>= fun _ => _) _ = _
    simp only [run_bind, hpeek, ok_bind, if_true, hattempt, run_pure]

/-- An optional part behind its word. -/
def clauseTokens (word : String) (ts : Option (List Token)) : List Token :=
  ts.toList.flatMap fun ts => plainWord word :: ts

section Clause

variable {ts : Option (List Token)} {ls : List Lexeme}

theorem clause_cases (hls : ls.map (·.token) = clauseTokens word ts) :
    ls = [] ∧ ts = none ∨ ∃ a lx tx, ls = a :: lx ∧ a.token = plainWord word ∧
      lx.map (·.token) = tx ∧ ts = some tx := by
  cases ts with
  | none => exact .inl ⟨List.map_eq_nil_iff.mp hls, rfl⟩
  | some tx =>
    have hcons : clauseTokens word (some tx) = plainWord word :: tx := by simp [clauseTokens]
    rw [hcons] at hls
    obtain ⟨a, lx, rfl, ha, hlx⟩ := List.map_eq_cons_iff.mp hls
    exact .inr ⟨a, lx, tx, rfl, ha, hlx, rfl⟩

theorem behind_clause (hls : ls.map (·.token) = clauseTokens word ts)
    (hword : word ∈ plainFollowers) (hrest : Behind edge rest) : Behind edge (ls ++ rest) := by
  rcases clause_cases hls with ⟨rfl, -⟩ | ⟨a, lx, tx, rfl, ha, -, -⟩
  · exact hrest
  · exact behind_word hword ha

theorem headKey_clause (hls : ls.map (·.token) = clauseTokens word ts) {word' : String}
    (hne : Text.upper word ≠ word') (hrest : headKey rest ≠ word') :
    headKey (ls ++ rest) ≠ word' := by
  rcases clause_cases hls with ⟨rfl, -⟩ | ⟨⟨_, place⟩, lx, tx, rfl, rfl, -, -⟩
  · exact hrest
  · exact hne

theorem head_clause (hls : ls.map (·.token) = clauseTokens word ts) {mark : String}
    (hrest : rest.head?.map (·.token) ≠ some (.symbol mark)) :
    (ls ++ rest).head?.map (·.token) ≠ some (.symbol mark) := by
  rcases clause_cases hls with ⟨rfl, -⟩ | ⟨a, lx, tx, rfl, ha, -, -⟩
  · exact hrest
  · simp [ha, plainWord]

end Clause

/-- The expression of an optional part has its tree. -/
abbrev DenoteOption (e : Option Expr) (t : Option Tree) : Prop :=
  Option.Rel (fun e t => ∀ source, e.toTree source = .ok t) e t

theorem treeOption_of_denote {e : Option Expr} {t : Option Tree} (h : DenoteOption e t)
    (source : String) : Expr.toTree.treeOption source e = .ok t := by
  cases h with
  | none => rfl
  | some h =>
    simp only [Expr.toTree.treeOption, h source]
    rfl

theorem bracket_clauseTokens {ts : Option (List Token)} {t : Option Tree}
    (h : Option.Rel Whole ts t) : .symbol "[" ∉ clauseTokens word ts := by
  cases h with
  | none => simp [clauseTokens]
  | some h => simpa [clauseTokens, plainWord] using h.opening.bracket

/-- An optional part is taken if its word stands there. -/
theorem run_taken_phrase {ts : Option (List Token)} {t : Option Tree}
    (h : Option.Rel Whole ts t) (hheight : ∀ s ∈ t, s.height ≤ budget) {ls : List Lexeme}
    (hupper : Text.upper word = word) (hls : ls.map (·.token) = clauseTokens word ts) :
    ∃ e, DenoteOption e t ∧ ∀ rest, Behind 0 rest → headKey rest ≠ word →
      e = none ∧ keyword? word (ls ++ rest) = .ok (false, rest) ∨
      ∃ part more, e = some part ∧ keyword? word (ls ++ rest) = .ok (true, more) ∧
        (rules budget).whole more = .ok (part, rest) := by
  rcases clause_cases hls with ⟨rfl, rfl⟩ | ⟨a, lx, tx, rfl, ha, hlx, rfl⟩
  · cases h
    exact ⟨none, .none, fun rest _ hkey => .inl ⟨rfl, run_keyword? hkey⟩⟩
  · cases h with
    | @some _ t h =>
      obtain ⟨e, he, hread⟩ := h.whole Nat.one_pos (hheight t rfl) hlx
      have hkey : a.token.keyword = word := by rw [ha]; exact hupper
      exact ⟨some e, .some he.tree, fun rest hrest _ =>
        .inr ⟨e, lx ++ rest, rfl, run_keyword?_of hkey, hread rest hrest⟩⟩

/-- An optional part is read behind its word if the word stands there. -/
theorem run_clause?_phrase {ts : Option (List Token)} {t : Option Tree}
    (h : Option.Rel Whole ts t) (hheight : ∀ s ∈ t, s.height ≤ budget) {ls : List Lexeme}
    (hupper : Text.upper word = word) (hls : ls.map (·.token) = clauseTokens word ts) :
    ∃ e, DenoteOption e t ∧ ∀ rest, Behind 0 rest → headKey rest ≠ word →
      clause? word (rules budget).whole (ls ++ rest) = .ok (e, rest) := by
  obtain ⟨e, he, hread⟩ := run_taken_phrase h hheight hupper hls
  refine ⟨e, he, fun rest hrest hkey => ?_⟩
  rcases hread rest hrest hkey with ⟨rfl, htaken⟩ | ⟨part, more, rfl, htaken, hpart⟩
  · simp only [clause?, run_bind, htaken, ok_bind, run_ite, Bool.false_eq_true, if_false, run_pure]
  · simp only [clause?, run_bind, htaken, ok_bind, run_ite, if_true, hpart, run_pure]

/-- An OVERLAY. -/
theorem begins_overlay {tw : Option (List Token)} {w : Option Tree} (hx : Whole tx x)
    (hy : Whole ty y) (hz : Whole tz z) (hw : Option.Rel Whole tw w) :
    Begins (plainWord "OVERLAY" :: .symbol "(" ::
        ((tx ++ plainWord "PLACING" :: (ty ++ plainWord "FROM" :: (tz ++ clauseTokens "FOR" tw))) ++
          [.symbol ")"]))
      (.overlay x y z w) edge := by
  refine begins_form (by decide) (by decide)
    (by simpa [plainWord] using ⟨hx.opening.bracket, hy.opening.bracket, hz.opening.bracket,
      bracket_clauseTokens hw⟩)
    fun budget hheight o c ls ho hc hls => ?_
  obtain ⟨lx, lmore, rfl, hlx, hmore⟩ := List.map_eq_append_iff.mp hls
  obtain ⟨a, lmore, rfl, ha, hmore⟩ := List.map_eq_cons_iff.mp hmore
  obtain ⟨ly, lmore, rfl, hly, hmore⟩ := List.map_eq_append_iff.mp hmore
  obtain ⟨b, lmore, rfl, hb, hmore⟩ := List.map_eq_cons_iff.mp hmore
  obtain ⟨lz, lw, rfl, hlz, hlw⟩ := List.map_eq_append_iff.mp hmore
  obtain ⟨ex, hex, hreadx⟩ := hx.whole Nat.one_pos (hheight x (by simp)) hlx
  obtain ⟨ey, hey, hready⟩ := hy.whole Nat.one_pos (hheight y (by simp)) hly
  obtain ⟨ez, hez, hreadz⟩ := hz.whole Nat.one_pos (hheight z (by simp)) hlz
  obtain ⟨ew, hew, hreadw⟩ := run_clause?_phrase hw (fun s hs => hheight s (by simp_all))
    (by decide) hlw
  refine ⟨.overlay ex ey ez ew, fun source => ?_, fun _ => Expr.noConfusion,
    fun inner start rest _ => wordForm_form (overlayForm (rules budget)) rfl ?_⟩
  · simp only [Expr.toTree, hex.tree source, hey.tree source, hez.tree source,
      treeOption_of_denote hew source]
    rfl
  · have hkeya : a.token.keyword = "PLACING" := by rw [ha]; rfl
    have hkeyb : b.token.keyword = "FROM" := by rw [hb]; rfl
    have hclosed : Behind 0 (c :: rest) := behind_closing (by decide) hc
    have hbehind : Behind 0 (lw ++ c :: rest) := behind_clause hlw (by decide) hclosed
    have hsource := hreadx (a :: (ly ++ b :: (lz ++ (lw ++ c :: rest))))
      (behind_word (by decide) ha)
    have hwhat := hready (b :: (lz ++ (lw ++ c :: rest))) (behind_word (by decide) hb)
    have hstart := hreadz (lw ++ c :: rest) hbehind
    have hlength := hreadw (c :: rest) hclosed (headKey_ne_of_symbol hc (by decide))
    simp only [overlayForm, inParens, run_bind, run_expectSymbol ho, ok_bind, List.append_assoc,
      List.cons_append, hsource, run_expectKeyword hkeya, hwhat, run_expectKeyword hkeyb, hstart,
      hlength, run_expectSymbol hc, run_pure]

/-- A SUBSTRING with its words. -/
theorem begins_substring {ta tb : Option (List Token)} {a b : Option Tree} (hx : Whole tx x)
    (ha : Option.Rel Whole ta a) (hb : Option.Rel Whole tb b) :
    Begins (plainWord "SUBSTRING" :: .symbol "(" ::
        ((tx ++ (clauseTokens "FROM" ta ++ clauseTokens "FOR" tb)) ++ [.symbol ")"]))
      (.substring x a b true) edge := by
  refine begins_form (by decide) (by decide)
    (by simpa using ⟨hx.opening.bracket, bracket_clauseTokens ha, bracket_clauseTokens hb⟩)
    fun budget hheight o c ls ho hc hls => ?_
  obtain ⟨lx, lmore, rfl, hlx, hmore⟩ := List.map_eq_append_iff.mp hls
  obtain ⟨la, lb, rfl, hla, hlb⟩ := List.map_eq_append_iff.mp hmore
  obtain ⟨ex, hex, hreadx⟩ := hx.whole Nat.one_pos (hheight x (by simp)) hlx
  obtain ⟨ea, hea, hreada⟩ := run_taken_phrase ha (fun s hs => hheight s (by simp_all))
    (by decide) hla
  obtain ⟨eb, heb, hreadb⟩ := run_taken_phrase hb (fun s hs => hheight s (by simp_all))
    (by decide) hlb
  refine ⟨.substring ex ea eb false, fun source => ?_, fun _ => Expr.noConfusion,
    fun inner start rest _ => wordForm_form (substringForm (rules budget)) rfl ?_⟩
  · simp only [Expr.toTree, hex.tree source, treeOption_of_denote hea source,
      treeOption_of_denote heb source]
    rfl
  · have hclosed : Behind 0 (c :: rest) := behind_closing (by decide) hc
    have hbehind : Behind 0 (lb ++ c :: rest) := behind_clause hlb (by decide) hclosed
    have hcomma : (c :: rest).head?.map (·.token) ≠ some (.symbol ",") := by simp [hc]
    have hsource := hreadx (la ++ (lb ++ c :: rest)) (behind_clause hla (by decide) hbehind)
    have hstart := hreada (lb ++ c :: rest) hbehind
      (headKey_clause hlb (by decide) (headKey_ne_of_symbol hc (by decide)))
    have hlength := hreadb (c :: rest) hclosed (headKey_ne_of_symbol hc (by decide))
    have hopen := run_symbol? (head_clause hla (head_clause hlb hcomma))
    rcases hstart with ⟨rfl, hfrom⟩ | ⟨pa, ma, rfl, hfrom, hpa⟩ <;>
      rcases hlength with ⟨rfl, hfor⟩ | ⟨pb, mb, rfl, hfor, hpb⟩ <;>
      simp only [substringForm, inParens, run_bind, run_map, run_expectSymbol ho, ok_bind,
        List.append_assoc, run_ite, Bool.false_eq_true, if_false, if_true, *, run_symbol? hcomma,
        run_expectSymbol hc, run_pure, Except.map]

/-- A SUBSTRING of two arguments with a comma. -/
theorem begins_substringStart (hx : Whole tx x) (hy : Whole ty y) :
    Begins (plainWord "SUBSTRING" :: .symbol "(" :: ((tx ++ .symbol "," :: ty) ++ [.symbol ")"]))
      (.substring x (some y) none false) edge := by
  refine begins_form (by decide) (by decide)
    (by simpa using ⟨hx.opening.bracket, hy.opening.bracket⟩)
    fun budget hheight o c ls ho hc hls => ?_
  obtain ⟨lx, lmore, rfl, hlx, hmore⟩ := List.map_eq_append_iff.mp hls
  obtain ⟨a, ly, rfl, ha, hly⟩ := List.map_eq_cons_iff.mp hmore
  obtain ⟨ex, hex, hreadx⟩ := hx.whole Nat.one_pos (hheight x (by simp)) hlx
  obtain ⟨ey, hey, hready⟩ := hy.whole Nat.one_pos (hheight y (by simp)) hly
  refine ⟨.substring ex (some ey) none true, fun source => ?_, fun _ => Expr.noConfusion,
    fun inner start rest _ => wordForm_form (substringForm (rules budget)) rfl ?_⟩
  · simp only [Expr.toTree, Expr.toTree.treeOption, hex.tree source, hey.tree source]
    rfl
  · have hsource := hreadx (a :: (ly ++ c :: rest)) (behind_closing (by decide) ha)
    have hstart := hready (c :: rest) (behind_closing (by decide) hc)
    have hcomma : (c :: rest).head?.map (·.token) ≠ some (.symbol ",") := by simp [hc]
    simp only [substringForm, inParens, run_bind, run_map, run_expectSymbol ho, ok_bind,
      List.append_assoc, List.cons_append, hsource, run_symbol?_of ha, run_ite, if_true, hstart,
      run_keyword? (headKey_ne_of_symbol hc (by decide : "FOR" ≠ "")), Bool.false_eq_true, if_false,
      run_symbol? hcomma, run_expectSymbol hc, run_pure, Except.map]

/-- A SUBSTRING of three arguments with commas. -/
theorem begins_substringLength (hx : Whole tx x) (hy : Whole ty y) (hz : Whole tz z) :
    Begins (plainWord "SUBSTRING" :: .symbol "(" ::
        ((tx ++ .symbol "," :: (ty ++ .symbol "," :: tz)) ++ [.symbol ")"]))
      (.substring x (some y) (some z) false) edge := by
  refine begins_form (by decide) (by decide)
    (by simpa using ⟨hx.opening.bracket, hy.opening.bracket, hz.opening.bracket⟩)
    fun budget hheight o c ls ho hc hls => ?_
  obtain ⟨lx, lmore, rfl, hlx, hmore⟩ := List.map_eq_append_iff.mp hls
  obtain ⟨a, lmore, rfl, ha, hmore⟩ := List.map_eq_cons_iff.mp hmore
  obtain ⟨ly, lmore, rfl, hly, hmore⟩ := List.map_eq_append_iff.mp hmore
  obtain ⟨b, lz, rfl, hb, hlz⟩ := List.map_eq_cons_iff.mp hmore
  obtain ⟨ex, hex, hreadx⟩ := hx.whole Nat.one_pos (hheight x (by simp)) hlx
  obtain ⟨ey, hey, hready⟩ := hy.whole Nat.one_pos (hheight y (by simp)) hly
  obtain ⟨ez, hez, hreadz⟩ := hz.whole Nat.one_pos (hheight z (by simp)) hlz
  refine ⟨.substring ex (some ey) (some ez) true, fun source => ?_, fun _ => Expr.noConfusion,
    fun inner start rest _ => wordForm_form (substringForm (rules budget)) rfl ?_⟩
  · simp only [Expr.toTree, Expr.toTree.treeOption, hex.tree source, hey.tree source,
      hez.tree source]
    rfl
  · have hsource := hreadx (a :: (ly ++ b :: (lz ++ c :: rest))) (behind_closing (by decide) ha)
    have hstart := hready (b :: (lz ++ c :: rest)) (behind_closing (by decide) hb)
    have hlength := hreadz (c :: rest) (behind_closing (by decide) hc)
    simp only [substringForm, inParens, run_bind, run_map, run_expectSymbol ho, ok_bind,
      List.append_assoc, List.cons_append, hsource, run_symbol?_of ha, run_ite, if_true, hstart,
      run_keyword? (headKey_ne_of_symbol hb (by decide : "FOR" ≠ "")), Bool.false_eq_true, if_false,
      run_symbol?_of hb, hlength, run_expectSymbol hc, run_pure, Except.map]

/-- The words of a rounding. -/
def roundingWords : List String :=
  ["CEIL", "FLOOR"]

theorem roundingTree_eq {source : String} {args : List Tree} (hword : word ∈ roundingWords)
    (hargs : args.length ∈ [1, 2]) :
    roundingTree source word args = .ok (.call (.plain word) args) := by
  have hall : ∀ word ∈ roundingWords, ∀ argc ∈ [1, 2], (resolve word (.ofCount argc)).isOk := by
    decide +kernel
  obtain ⟨entry, hentry⟩ := exists_of_isOk (hall word hword _ hargs)
  simp only [roundingTree, checkCall, hentry]
  rfl

/-- A rounding of some form. -/
theorem begins_roundingForm {body : List Token} (hword : word ∈ roundingWords)
    (hbracket : .symbol "[" ∉ body)
    (hread : ∀ budget, (∀ s ∈ t.parts, s.height ≤ budget) → ∀ (o c : Lexeme) (ls : List Lexeme),
      o.token = .symbol "(" → c.token = .symbol ")" → ls.map (·.token) = body →
      ∃ e, (∀ source, e.toTree source = .ok t) ∧ (∀ i, e ≠ .name i) ∧
        ∀ rest, roundingForm (rules budget) word (o :: (ls ++ c :: rest)) = .ok (e, rest)) :
    Begins (plainWord word :: .symbol "(" :: (body ++ [.symbol ")"])) t edge := by
  have hall : ∀ word ∈ roundingWords, isShy (plainWord word) = false ∧
      (plainWord word).keyword ∉ "ANY" :: typeWords := by
    decide
  obtain ⟨hshy, htype⟩ := hall word hword
  refine begins_form hshy htype hbracket fun budget hheight o c ls ho hc hls => ?_
  obtain ⟨e, htree, hname, hform⟩ := hread budget hheight o c ls ho hc hls
  refine ⟨e, htree, hname, fun inner start rest _ =>
    wordForm_form (roundingForm (rules budget) word) ?_ (hform rest)⟩
  rcases List.mem_pair.mp hword with rfl | rfl <;> rfl

/-- The rounding of a number to an integer. -/
theorem begins_rounding (hword : word ∈ roundingWords) (hx : Whole tx x) :
    Begins (plainWord word :: .symbol "(" :: (tx ++ [.symbol ")"])) (.call (.plain word) [x])
      edge := by
  refine begins_roundingForm hword hx.opening.bracket fun budget hheight o c ls ho hc hls => ?_
  obtain ⟨ex, hex, hreadx⟩ := hx.whole Nat.one_pos (hheight x (by simp)) hls
  refine ⟨.rounding word ex .none, fun source => ?_, fun _ => Expr.noConfusion, fun rest => ?_⟩
  · have htree : roundingTree source word [x] = .ok (.call (.plain word) [x]) :=
      roundingTree_eq hword (by simp)
    simp only [Expr.toTree, hex.tree source]
    exact htree
  · have hoperand := hreadx (c :: rest) (behind_closing (by decide) hc)
    have hcomma : (c :: rest).head?.map (·.token) ≠ some (.symbol ",") := by simp [hc]
    simp only [roundingForm, inParens, run_bind, run_expectSymbol ho, ok_bind, hoperand,
      run_keyword? (headKey_ne_of_symbol hc (by decide : "TO" ≠ "")), run_ite, Bool.false_eq_true,
      if_false, run_symbol? hcomma, run_expectSymbol hc, run_pure]

/-- A conversion of characters. -/
theorem begins_convertUsing (hx : Whole tx x) (target : String) :
    Begins (plainWord "CONVERT" :: .symbol "(" ::
        ((tx ++ [plainWord "USING", plainWord target]) ++ [.symbol ")"]))
      (.convert x true target none) edge := by
  refine begins_form (by decide) (by decide) (by simpa [plainWord] using hx.opening.bracket)
    fun budget hheight o c ls ho hc hls => ?_
  obtain ⟨lx, lmore, rfl, hlx, hmore⟩ := List.map_eq_append_iff.mp hls
  obtain ⟨a, lmore, rfl, ha, hmore⟩ := List.map_eq_cons_iff.mp hmore
  obtain ⟨b, rfl, hb⟩ := List.map_eq_singleton_iff.mp hmore
  obtain ⟨ex, hex, hreadx⟩ := hx.whole Nat.one_pos (hheight x (by simp)) hlx
  refine ⟨.convert false ex none (some target), fun source => ?_, fun _ => Expr.noConfusion,
    fun inner start rest _ => wordForm_form (convertForm (rules budget) false) rfl ?_⟩
  · simp only [Expr.toTree, hex.tree source]
    rfl
  · have hkey : a.token.keyword = "USING" := by rw [ha]; rfl
    have hoperand := hreadx (a :: b :: c :: rest) (behind_word (by decide) ha)
    have hname : objectText (b :: c :: rest) = .ok (target, c :: rest) := by
      have hpath : objectName (b :: c :: rest) = .ok ([⟨target, none⟩], c :: rest) := by
        rw [objectName, run_bind, run_get, ok_bind]
        exact pathFrom_one hb (by simp [hc])
      simp only [objectText, run_bind, hpath, ok_bind]
      rfl
    simp only [convertForm, inParens, run_bind, run_expectSymbol ho, ok_bind, List.append_assoc,
      List.cons_append, List.nil_append, hoperand, run_keyword?_of hkey, run_ite, if_true, hname,
      run_expectSymbol hc, run_pure]

/-- A conversion to a type. -/
theorem begins_convertType {ttype : List Token} {text : String} (hx : Whole tx x)
    (htype : Pronounces ttype text) (hbracket : .symbol "[" ∉ ttype) :
    Begins (plainWord "CONVERT" :: .symbol "(" :: ((tx ++ .symbol "," :: ttype) ++ [.symbol ")"]))
      (.convert x false text none) edge := by
  obtain ⟨shownClass, hread'⟩ := htype
  refine begins_form (by decide) (by decide) (by simpa using ⟨hx.opening.bracket, hbracket⟩)
    fun budget hheight o c ls ho hc hls => ?_
  obtain ⟨lx, lmore, rfl, hlx, hmore⟩ := List.map_eq_append_iff.mp hls
  obtain ⟨a, lt, rfl, ha, hlt⟩ := List.map_eq_cons_iff.mp hmore
  obtain ⟨ex, hex, hreadx⟩ := hx.whole Nat.one_pos (hheight x (by simp)) hlx
  refine ⟨.convert false ex (some ⟨text, shownClass⟩) none, fun source => ?_,
    fun _ => Expr.noConfusion, fun inner start rest _ => wordForm_form (convertForm (rules budget) false) rfl ?_⟩
  · simp only [Expr.toTree, hex.tree source]
    rfl
  · have hoperand := hreadx (a :: (lt ++ c :: rest)) (behind_closing (by decide) ha)
    simp only [convertForm, inParens, run_bind, run_expectSymbol ho, ok_bind, List.append_assoc,
      List.cons_append, hoperand, run_keyword? (headKey_ne_of_symbol ha (by decide : "USING" ≠ "")),
      run_ite, Bool.false_eq_true, if_false, run_expectSymbol ha, hread' lt c rest hlt hc,
      run_clauses? (headKey_ne_of_symbol hc (by decide : "CHARACTER" ≠ "")), run_expectSymbol hc,
      run_pure]

/-! ## CASE -/

/-- The tokens of a branch. -/
def branchTokens (tb : List Token × List Token) : List Token :=
  plainWord "WHEN" :: (tb.1 ++ plainWord "THEN" :: tb.2)

/-- The tokens of a branch are phrases for its two parts. -/
abbrev WholeBranch (tb : List Token × List Token) (b : Tree × Tree) : Prop :=
  Whole tb.1 b.1 ∧ Whole tb.2 b.2

/-- The expressions of branches have their trees. -/
abbrev DenoteBranches (es : List (Expr × Expr)) (bs : List (Tree × Tree)) : Prop :=
  List.Forall₂ (fun e b => (∀ source, e.1.toTree source = .ok b.1) ∧
    ∀ source, e.2.toTree source = .ok b.2) es bs

variable {tb : List Token × List Token} {b : Tree × Tree} {tbs : List (List Token × List Token)}
  {bs : List (Tree × Tree)} {ls : List Lexeme}

theorem treeBranches_of_denote {es : List (Expr × Expr)} (h : DenoteBranches es bs)
    (source : String) : Expr.toTree.treeBranches source es = .ok bs := by
  induction h with
  | nil => rfl
  | @cons e b es bs h _ ih =>
    obtain ⟨condition, result⟩ := e
    simp only [Expr.toTree.treeBranches, h.1 source, h.2 source, ih]
    rfl

theorem bracket_branches (h : List.Forall₂ WholeBranch tbs bs) :
    .symbol "[" ∉ tbs.flatMap branchTokens := by
  induction h with
  | nil => simp
  | cons h _ ih =>
    rw [List.flatMap_cons, List.mem_append, not_or]
    exact ⟨by simpa [branchTokens, plainWord] using ⟨h.1.opening.bracket, h.2.opening.bracket⟩, ih⟩

/-- A branch is read behind its word. -/
theorem run_branch (h : WholeBranch tb b) (hheight : b.1.height ≤ budget ∧ b.2.height ≤ budget)
    (hls : ls.map (·.token) = branchTokens tb) :
    ∃ e : Expr × Expr, ((∀ source, e.1.toTree source = .ok b.1) ∧
      ∀ source, e.2.toTree source = .ok b.2) ∧
      ∃ w more, w.token = plainWord "WHEN" ∧ ls = w :: more ∧ ∀ rest, Behind 0 rest →
        branch (rules budget) (more ++ rest) = .ok (e, rest) := by
  obtain ⟨w, lmore, rfl, hw, hmore⟩ := List.map_eq_cons_iff.mp hls
  obtain ⟨lc, lmore, rfl, hlc, hmore⟩ := List.map_eq_append_iff.mp hmore
  obtain ⟨a, lr, rfl, ha, hlr⟩ := List.map_eq_cons_iff.mp hmore
  obtain ⟨ec, hec, hreadc⟩ := h.1.whole Nat.one_pos hheight.1 hlc
  obtain ⟨er, her, hreadr⟩ := h.2.whole Nat.one_pos hheight.2 hlr
  refine ⟨(ec, er), ⟨hec.tree, her.tree⟩, w, lc ++ a :: lr, hw, rfl, fun rest hrest => ?_⟩
  have hkey : a.token.keyword = "THEN" := by rw [ha]; rfl
  have hcondition := hreadc (a :: (lr ++ rest)) (behind_word (by decide) ha)
  simp only [branch, run_bind, List.append_assoc, List.cons_append, hcondition, ok_bind,
    run_expectKeyword hkey, hreadr rest hrest, run_pure]

/-- What stands behind a branch, if it is another one or the end, goes on from nothing. -/
theorem behind_branches (hls : ls.map (·.token) = tbs.flatMap branchTokens)
    (hrest : Behind edge rest) : Behind edge (ls ++ rest) := by
  cases tbs with
  | nil =>
    obtain rfl := List.map_eq_nil_iff.mp hls
    exact hrest
  | cons tb tbs =>
    obtain ⟨w, more, rfl, hw, -⟩ := List.map_eq_cons_iff.mp hls
    exact behind_word (by decide) hw

/-- Branches are read one after the other. -/
theorem repeatedFrom_branches (h : List.Forall₂ WholeBranch tbs bs)
    (hheight : ∀ b ∈ bs, b.1.height ≤ budget ∧ b.2.height ≤ budget)
    (hls : ls.map (·.token) = tbs.flatMap branchTokens) :
    ∃ es, DenoteBranches es bs ∧ ∀ rest fuel, Behind 0 rest → headKey rest ≠ "WHEN" →
      ls.length < fuel → repeatedFrom (clause? "WHEN" (branch (rules budget))) fuel (ls ++ rest) =
        .ok (es, rest) := by
  induction h generalizing ls with
  | nil =>
    obtain rfl := List.map_eq_nil_iff.mp hls
    refine ⟨[], .nil, fun rest fuel _ hkey hfuel => ?_⟩
    obtain ⟨fuel, rfl⟩ : ∃ n, fuel = n + 1 := ⟨fuel - 1, by omega⟩
    simp only [List.nil_append, repeatedFrom, run_bind, run_clause? hkey, ok_bind, run_pure]
  | @cons tb b tbs bs h _ ih =>
    rw [List.flatMap_cons] at hls
    obtain ⟨lb, lmore, rfl, hlb, hmore⟩ := List.map_eq_append_iff.mp hls
    obtain ⟨hfirst, hothers⟩ := List.forall_mem_cons.mp hheight
    obtain ⟨e, he, w, more, hw, rfl, hread⟩ := run_branch h hfirst hlb
    obtain ⟨es, hes, hreads⟩ := ih hothers hmore
    refine ⟨e :: es, .cons he hes, fun rest fuel hrest hkey hfuel => ?_⟩
    rw [List.length_append, List.length_cons] at hfuel
    obtain ⟨fuel, rfl⟩ : ∃ n, fuel = n + 1 := ⟨fuel - 1, by omega⟩
    have hwhen : w.token.keyword = "WHEN" := by rw [hw]; rfl
    have hbranch := hread (lmore ++ rest) (behind_branches hmore hrest)
    have hclause : clause? "WHEN" (branch (rules budget)) (w :: more ++ lmore ++ rest) =
        .ok (some e, lmore ++ rest) := by
      rw [List.append_assoc, List.cons_append]
      simp only [clause?, run_bind, run_keyword?_of hwhen, ok_bind, run_ite, if_true, hbranch,
        run_pure]
    simp only [repeatedFrom, run_bind, hclause, ok_bind, hreads rest fuel hrest hkey (by omega),
      run_pure]

/-- A searched CASE. -/
theorem begins_case {te : Option (List Token)} {o : Option Tree} (hb : WholeBranch tb b)
    (hbs : List.Forall₂ WholeBranch tbs bs) (ho : Option.Rel Whole te o) :
    Begins (plainWord "CASE" :: ((tb :: tbs).flatMap branchTokens ++
        (clauseTokens "ELSE" te ++ [plainWord "END"])))
      (.case none (b :: bs) o) edge := by
  have hbranches : .symbol "[" ∉ (tb :: tbs).flatMap branchTokens := bracket_branches (.cons hb hbs)
  have hbracket : .symbol "[" ∉ (tb :: tbs).flatMap branchTokens ++
      (clauseTokens "ELSE" te ++ [plainWord "END"]) := by
    simp only [List.mem_append, not_or]
    exact ⟨hbranches, bracket_clauseTokens ho, by simp [plainWord]⟩
  refine ⟨⟨List.cons_ne_nil _ _, ?_, by simp [plainWord], fun _ _ _ => isPathEnd_of_head ?_, ?_,
    by simp [plainWord], rfl⟩, fun budget hheight ls hls => ?_⟩
  · intro t ht
    rcases (by simpa [branchTokens] using ht : t = plainWord "CASE" ∨ t = plainWord "WHEN")
      with rfl | rfl <;> rfl
  · simp [branchTokens, plainWord]
  · simpa [plainWord] using hbracket
  obtain ⟨⟨_, start⟩, lmore, rfl, rfl, hmore⟩ := List.map_eq_cons_iff.mp hls
  replace hmore : lmore.map (·.token) = _ := hmore
  have hparts := Tree.height_le_iff.mp hheight
  obtain ⟨lbs, lend, rfl, hlbs, hlend⟩ := List.map_eq_append_iff.mp hmore
  obtain ⟨le, lz, rfl, hle, hlz⟩ := List.map_eq_append_iff.mp hlend
  obtain ⟨z, rfl, hz⟩ := List.map_eq_singleton_iff.mp hlz
  rw [List.flatMap_cons] at hlbs
  obtain ⟨lb, lbs, rfl, hlb, hothers⟩ := List.map_eq_append_iff.mp hlbs
  have hheights : ∀ b' ∈ b :: bs, b'.1.height ≤ budget ∧ b'.2.height ≤ budget := fun b' hb' =>
    ⟨hparts _ (Tree.mem_parts_case hb').1, hparts _ (Tree.mem_parts_case hb').2⟩
  obtain ⟨hheightb, hheights⟩ := List.forall_mem_cons.mp hheights
  obtain ⟨e, he, w, more, hw, rfl, hread⟩ := run_branch hb hheightb hlb
  obtain ⟨es, hes, hreads⟩ := repeatedFrom_branches hbs hheights hothers
  obtain ⟨eo, heo, hreado⟩ := run_clause?_phrase ho (fun s hs => hparts s (by simp_all))
    (by decide) hle
  refine ⟨.case none (e :: es) eo, ⟨fun source => ?_, fun _ => Expr.noConfusion⟩,
    fun rest hrest => ?_⟩
  · have hbranches : Expr.toTree.treeBranches source (e :: es) = .ok (b :: bs) :=
      treeBranches_of_denote (.cons he hes) source
    simp only [Expr.toTree, Expr.toTree.treeOption, hbranches, treeOption_of_denote heo source]
    rfl
  · have hend : z.token.keyword = "END" := by rw [hz]; rfl
    have hwhen : w.token.keyword = "WHEN" := by rw [hw]; rfl
    have hfollow : Behind 0 (z :: rest) := behind_word (by decide) hz
    have hbehind : Behind 0 (le ++ z :: rest) := behind_clause hle (by decide) hfollow
    have hkey (word : String) (hne : "END" ≠ word) : headKey (z :: rest) ≠ word := by
      show z.token.keyword ≠ word
      rwa [hend]
    have hfirst := hread (lbs ++ (le ++ z :: rest)) (behind_branches hothers hbehind)
    have hrepeated : repeated (clause? "WHEN" (branch (rules budget))) (lbs ++ (le ++ z :: rest)) =
        .ok (es, le ++ z :: rest) := by
      rw [repeated, run_bind, run_get, ok_bind]
      exact hreads _ _ hbehind (headKey_clause hle (by decide) (hkey _ (by decide))) (by simp)
    have hotherwise := hreado (z :: rest) hfollow (hkey _ (by decide))
    have hform : caseForm (rules budget) (w :: (more ++ (lbs ++ (le ++ z :: rest)))) =
        .ok (.case none (e :: es) eo, rest) := by
      have hpeek : peekKeyword "WHEN" (w :: (more ++ (lbs ++ (le ++ z :: rest)))) =
          .ok (true, w :: (more ++ (lbs ++ (le ++ z :: rest)))) := by
        simp only [peekKeyword, run_bind, run_keywordAt, ok_bind, run_pure]
        rw [show headKey (w :: (more ++ (lbs ++ (le ++ z :: rest)))) = "WHEN" from hwhen]
        rfl
      simp only [caseForm, run_bind, hpeek, ok_bind, run_ite, if_true, run_pure,
        run_expectKeyword hwhen, hfirst, hrepeated, hotherwise, run_expectKeyword hend]
    have htokens : (w :: more ++ lbs ++ (le ++ [z])) ++ rest =
        w :: (more ++ (lbs ++ (le ++ z :: rest))) := by
      simp
    rw [List.cons_append, htokens]
    refine beginning_word rfl (fun inner => ?_) (fun inner => ?_) hrest.stops
    · have htype : (plainWord "CASE").keyword ∉ "ANY" :: typeWords := by decide
      rw [← htokens]
      refine typedString_open (i := ⟨"CASE", none⟩) rfl htype (by simp) ?_ ?_ ?_
        (hrest.stops.ne_symbol _ (by decide))
      · simp [hw, plainWord]
      · rw [hmore]
        exact hbracket
      · simp [hw, plainWord]
    · exact wordForm_special ((run_map ..).trans (by rw [hform]; rfl))

end SqlNormal.Sql.Reader
