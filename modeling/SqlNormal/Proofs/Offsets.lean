import Mathlib
import SqlNormal.Sql.Lexer

/-!
# Bytes, lines and columns

A location counts lines and the characters of a line; a byte offset counts bytes. Behind every part
of a text both say the same place, and every token stands behind such a part.

* `Location.after_start`: the location behind a part of a text, by its lines and its last line;
* `byteOffset?_after`, **`byteOffset?_behind`**: the byte offset of that location;
* `Leaves`: a reading that leaves an end of what it is given, with one lemma for each kind of token;
  `leaves_readToken?`: every step does;
* **`standsIn_of_tokenize?`**: a token is read where it stands.
-/

namespace SqlNormal.Sql

open String (utf8Len utf8Len_append utf8Len_cons utf8Len_toList)

/-! ## Locations -/

/-- The characters behind the last line feed. -/
def lastLine (cs : List Char) : List Char :=
  cs.rtakeWhile (· ≠ '\n')

namespace Location

theorem after_append (l : Location) (cs ds : List Char) :
    l.after (cs ++ ds) = (l.after cs).after ds :=
  List.foldl_append

theorem line_after (l : Location) (cs : List Char) :
    (l.after cs).line = l.line + cs.count '\n' := by
  induction cs generalizing l with
  | nil => rfl
  | cons c cs ih =>
    show ((l.next c).after cs).line = _
    rw [ih, next]
    split_ifs with hc
    · subst hc
      simp
      omega
    · simp [hc]

theorem after_of_notMem (l : Location) {cs : List Char} (h : '\n' ∉ cs) :
    l.after cs = ⟨l.line, l.column + cs.length⟩ := by
  induction cs generalizing l with
  | nil => rfl
  | cons c cs ih =>
    rw [List.mem_cons, not_or] at h
    show (l.next c).after cs = _
    rw [ih _ h.2, next, if_neg (Ne.symm h.1), List.length_cons]
    simp
    omega

/-- The location behind a part of a text, by the line feeds in it and the characters behind them. -/
theorem after_start (cs : List Char) :
    start.after cs = ⟨1 + cs.count '\n', 1 + (lastLine cs).length⟩ := by
  induction cs using List.reverseRecOn with
  | nil => rfl
  | append_singleton cs c ih =>
    rw [after_append, ih]
    show next _ c = _
    unfold next lastLine
    by_cases hc : c = '\n'
    · subst hc
      simp
      omega
    · simp [hc]
      omega

end Location

/-! ## Byte offsets -/

theorem skipLines?_append (cs rest : List Char) :
    skipLines? (cs.count '\n' + 1) (cs ++ '\n' :: rest) = some (utf8Len cs + 1, rest) := by
  induction cs with
  | nil =>
    have hfeed : '\n'.utf8Size = 1 := rfl
    simp [skipLines?, hfeed]
  | cons c cs ih =>
    rw [List.cons_append, skipLines?]
    by_cases hc : c = '\n'
    · subst hc
      rw [if_pos rfl, List.count_cons_self, ih, Option.map_some, utf8Len_cons,
        Nat.add_right_comm]
    · rw [if_neg hc, List.count_cons_of_ne hc, ih, Option.map_some, utf8Len_cons,
        Nat.add_right_comm]

theorem skipColumns?_append (cs : List Char) {rest : List Char} (h : rest ≠ []) :
    skipColumns? cs.length (cs ++ rest) = some (utf8Len cs) := by
  induction cs with
  | nil =>
    obtain ⟨c, rest, rfl⟩ := List.exists_cons_of_ne_nil h
    rfl
  | cons c cs ih =>
    rw [List.cons_append, List.length_cons, skipColumns?, ih, Option.map_some, utf8Len_cons]

/-- A text is split behind its last line feed. -/
theorem exists_lastLine (cs : List Char) : '\n' ∉ cs ∨
    ∃ before line, cs = before ++ '\n' :: line ∧ '\n' ∉ line := by
  induction cs with
  | nil => exact .inl nofun
  | cons c cs ih =>
    rcases ih with h | ⟨before, line, rfl, h⟩
    · by_cases hc : c = '\n'
      · exact .inr ⟨[], cs, by rw [hc]; rfl, h⟩
      · exact .inl (by simp [Ne.symm hc, h])
    · exact .inr ⟨c :: before, line, rfl, h⟩

theorem byteOffset?_eq {source rest : List Char} {n k before within : Nat}
    (hlines : skipLines? n source = some (before, rest))
    (hcolumns : skipColumns? k rest = some within) :
    byteOffset? source ⟨n + 1, k + 1⟩ = some (before + within) := by
  simp [byteOffset?, hlines, hcolumns]

theorem byteOffset?_after (cs : List Char) {rest : List Char} (h : rest ≠ []) :
    byteOffset? (cs ++ rest) (Location.start.after cs) = some (utf8Len cs) := by
  rcases exists_lastLine cs with hline | ⟨before, line, rfl, hline⟩
  · have hlocation : Location.start.after cs = ⟨0 + 1, cs.length + 1⟩ := by
      rw [Location.after_of_notMem _ hline, Location.start, Nat.add_comm 1]
    have hlines : skipLines? 0 (cs ++ rest) = some (0, cs ++ rest) := by rw [skipLines?]
    rw [hlocation, byteOffset?_eq hlines (skipColumns?_append cs h), Nat.zero_add]
  · have hlocation : Location.start.after (before ++ '\n' :: line) =
        ⟨before.count '\n' + 1 + 1, line.length + 1⟩ := by
      have hline' : (Location.start.after before).line = before.count '\n' + 1 := by
        rw [Location.line_after, Location.start, Nat.add_comm]
      rw [Location.after_append]
      show ((Location.start.after before).next '\n').after line = _
      rw [Location.after_of_notMem _ hline, Location.next, if_pos rfl, hline', Nat.add_comm 1]
    have hlines : skipLines? (before.count '\n' + 1) ((before ++ '\n' :: line) ++ rest) =
        some (utf8Len before + 1, line ++ rest) := by
      rw [List.append_assoc, List.cons_append, skipLines?_append]
    have hfeed : '\n'.utf8Size = 1 := rfl
    rw [hlocation, byteOffset?_eq hlines (skipColumns?_append line h), utf8Len_append, utf8Len_cons,
      hfeed, Nat.add_assoc, Nat.add_comm 1]

/-- The location behind a part of a text: its line feeds are counted, and the characters behind the
last of them. -/
def Location.behind (before : String) : Location :=
  ⟨1 + before.toList.count '\n', 1 + (lastLine before.toList).length⟩

/-- **The location behind a part of a text lies at the bytes of that part.** -/
theorem byteOffset?_behind {before rest : String} (h : rest ≠ "") :
    byteOffset? (before ++ rest).toList (.behind before) = some before.utf8ByteSize := by
  rw [Location.behind, ← Location.after_start, String.toList_append,
    byteOffset?_after _ (by simpa using h), utf8Len_toList]

/-! ## What a step leaves -/

section Leaves

variable {α β : Type} {cs ds : List Char} {x : Option (α × List Char)}

/-- Whatever the reading leaves is an end of what it was given. -/
def Leaves (cs : List Char) (x : Option (α × List Char)) : Prop :=
  ∀ r ∈ x, r.2 <:+ cs

theorem leaves_none : Leaves cs (none : Option (α × List Char)) :=
  nofun

theorem leaves_some {r : α × List Char} (h : r.2 <:+ cs) : Leaves cs (some r) := by
  rintro _ ⟨⟩
  exact h

theorem leaves_map (h : Leaves cs x) (f : α × List Char → β) :
    Leaves cs (x.map fun r => (f r, r.2)) := by
  rintro _ hr
  obtain ⟨r, hx, rfl⟩ := Option.map_eq_some_iff.mp hr
  exact h r hx

theorem leaves_ite {p : Prop} [Decidable p] {y : Option (α × List Char)} (hx : Leaves cs x)
    (hy : Leaves cs y) : Leaves cs (if p then x else y) := by
  split_ifs
  · exact hx
  · exact hy

theorem Leaves.of_suffix (h : Leaves ds x) (hds : ds <:+ cs) : Leaves cs x :=
  fun r hr => (h r hr).trans hds

theorem Leaves.cons (h : Leaves cs x) (c : Char) : Leaves (c :: cs) x :=
  h.of_suffix (List.suffix_cons c cs)

theorem leaves_bind {f : α × List Char → Option (β × List Char)} (h : Leaves cs x)
    (hf : ∀ r ∈ x, Leaves r.2 (f r)) : Leaves cs (x >>= f) := by
  intro r hr
  obtain ⟨q, hq, hr⟩ := Option.bind_eq_some_iff.mp hr
  exact (hf q hq r hr).trans (h q hq)

theorem leaves_given {γ : Type} {o : Option γ} {f : γ → Option (α × List Char)}
    (h : ∀ a, Leaves cs (f a)) : Leaves cs (o >>= f) := by
  intro r hr
  obtain ⟨a, -, hr⟩ := Option.bind_eq_some_iff.mp hr
  exact h a r hr

end Leaves

/-! ### Strings -/

section Strings

variable (mark : Char) (cs : List Char)

theorem leaves_undouble? : Leaves cs (Text.undouble? mark cs) := by
  fun_induction Text.undouble? mark cs with
  | case1 | case3 => exact leaves_none
  | case2 => exact leaves_some List.nil_suffix
  | case4 cs ih => exact ((leaves_map ih _).cons _).cons _
  | case5 => exact leaves_some (List.suffix_cons _ _)
  | case6 _ _ _ _ ih => exact (leaves_map ih _).cons _

theorem leaves_quotedString? : Leaves cs (quotedString? mark cs) := by
  fun_induction quotedString? mark cs with
  | case1 | case2 | case5 => exact leaves_none
  | case4 => exact leaves_some List.nil_suffix
  | case3 _ _ ih | case6 _ _ ih => exact ((leaves_map ih _).cons _).cons _
  | case7 => exact leaves_some (List.suffix_cons _ _)
  | case8 _ _ _ _ _ ih => exact (leaves_map ih _).cons _

theorem leaves_takeExactly? (n : Nat) : Leaves cs (takeExactly? n cs) := by
  unfold takeExactly?
  split_ifs
  · exact leaves_some (List.drop_suffix _ _)
  · exact leaves_none

theorem leaves_escape? : Leaves cs (escape? cs) := by
  cases cs with
  | nil => exact leaves_none
  | cons c rest =>
    have hclass (n : Nat) (p : Char → Bool) : (takeClass n p rest).2 <:+ rest :=
      List.drop_suffix _ _
    have hgiven (x : Char) : Leaves (c :: rest) (some (x, rest)) :=
      leaves_some (List.suffix_cons _ _)
    unfold escape?
    iterate 5 refine leaves_ite (hgiven _) ?_
    refine leaves_ite ((leaves_bind (leaves_takeExactly? rest _) fun r _ => ?_).cons c) ?_
    · exact leaves_given fun value => leaves_given fun x => leaves_some List.suffix_rfl
    refine leaves_ite ?_ (leaves_ite ?_ (leaves_ite leaves_none (hgiven _)))
    · have hx := hclass 2 fun d => (Number.hexValue? d).isSome
      split
      · rename_i heq
        rw [heq] at hx
        exact leaves_some (hx.trans (List.suffix_cons _ _))
      · rename_i heq
        rw [heq] at hx
        exact leaves_given fun value => leaves_given fun x =>
          leaves_some (hx.trans (List.suffix_cons _ _))
    · exact leaves_given fun value => leaves_given fun x =>
        leaves_some ((hclass 2 _).trans (List.suffix_cons _ _))

theorem leaves_escapedString? (fuel : Nat) : Leaves cs (escapedString? fuel cs) := by
  fun_induction escapedString? fuel cs with
  | case1 | case2 => exact leaves_none
  | case3 _ _ ih => exact ((leaves_map ih _).cons _).cons _
  | case4 => exact leaves_some (List.suffix_cons _ _)
  | case5 => exact leaves_some List.nil_suffix
  | case6 fuel rest _ ih =>
    refine (leaves_bind (leaves_escape? rest) fun r _ => ?_).cons _
    exact leaves_bind (ih r.2) fun q _ => leaves_some List.suffix_rfl
  | case7 _ _ _ _ _ ih => exact (leaves_map ih _).cons _

theorem leaves_codePoint? (n : Nat) : Leaves cs (codePoint? n cs) := by
  refine leaves_bind (leaves_takeExactly? cs n) fun r _ => leaves_given fun value => ?_
  exact leaves_ite (leaves_some List.suffix_rfl) leaves_none

theorem leaves_unicodeString? (fuel : Nat) : Leaves cs (unicodeString? fuel cs) := by
  have hrest (fuel : Nat) (ih : ∀ rest, Leaves rest (unicodeString? fuel rest))
      (r : Char × List Char) : Leaves r.2 (do
        let q ← unicodeString? fuel r.2
        return (r.1 :: q.1, q.2)) :=
    leaves_bind (ih r.2) fun q _ => leaves_some List.suffix_rfl
  fun_induction unicodeString? fuel cs with
  | case1 | case2 => exact leaves_none
  | case3 _ _ ih => exact ((leaves_map ih _).cons _).cons _
  | case4 => exact leaves_some (List.suffix_cons _ _)
  | case5 => exact leaves_some List.nil_suffix
  | case6 fuel next more _ ih =>
    exact ((leaves_bind (leaves_some List.suffix_rfl) fun r _ => hrest fuel ih r).cons _).cons _
  | case7 fuel next more _ ih =>
    exact ((leaves_bind (leaves_codePoint? more 6) fun r _ => hrest fuel ih r).cons _).cons _
  | case8 fuel rest next _ _ _ ih =>
    exact (leaves_bind (leaves_codePoint? rest 4) fun r _ => hrest fuel ih r).cons _
  | case9 _ _ _ _ _ ih => exact (leaves_map ih _).cons _

theorem leaves_tripleString? : Leaves cs (tripleString? mark cs) := by
  fun_induction tripleString? mark cs with
  | case1 => exact leaves_none
  | case2 => exact leaves_some (List.drop_suffix _ _)
  | case3 _ _ _ ih => exact (leaves_map ih _).cons _

theorem leaves_rawString? (single triple : StringMark) :
    Leaves cs (rawString? mark single triple cs) := by
  unfold rawString?
  split
  · exact (leaves_map (leaves_undouble? mark _) _).of_suffix (List.drop_suffix _ _)
  · exact leaves_some (List.drop_suffix _ _)
  · exact (leaves_map (leaves_tripleString? mark _) _).of_suffix (List.drop_suffix _ _)

theorem leaves_dollarPairString? : Leaves cs (dollarPairString? cs) := by
  fun_induction dollarPairString? cs with
  | case1 | case2 => exact leaves_none
  | case3 => exact leaves_some ((List.suffix_cons _ _).trans (List.suffix_cons _ _))
  | case4 _ _ _ ih => exact ((leaves_map ih _).cons _).cons _
  | case5 _ _ _ _ _ ih => exact (leaves_map ih _).cons _

theorem suffix_of_matchTag? {tag seen behind : List Char} {whole : Bool}
    (h : matchTag? tag cs = some (whole, seen, behind)) : behind <:+ cs := by
  fun_induction matchTag? tag cs generalizing seen with
  | case1 =>
    cases h
    exact List.suffix_rfl
  | case2 => cases h
  | case3 _ _ _ ih =>
    obtain ⟨⟨_, _, _⟩, htag, h⟩ := Option.map_eq_some_iff.mp h
    cases h
    exact (ih htag).trans (List.suffix_cons _ _)
  | case4 =>
    cases h
    exact List.suffix_cons _ _

theorem leaves_taggedString? (tag : List Char) (fuel : Nat) :
    Leaves cs (taggedString? tag fuel cs) := by
  fun_induction taggedString? tag fuel cs with
  | case1 | case2 | case3 => exact leaves_none
  | case4 _ _ _ _ hmatch =>
    exact leaves_some (((List.suffix_cons _ _).trans (suffix_of_matchTag? _ hmatch)).trans
      (List.suffix_cons _ _))
  | case5 _ _ _ _ _ _ hmatch ih =>
    exact ((leaves_map ih _).of_suffix (suffix_of_matchTag? _ hmatch)).cons _
  | case6 _ _ _ _ ih => exact (leaves_map ih _).cons _

theorem leaves_dollarToken? : Leaves cs (dollarToken? cs) := by
  unfold dollarToken?
  split
  · exact (leaves_map (leaves_dollarPairString? _) _).cons _
  · dsimp only
    have hsuffix := List.dropWhile_suffix (l := cs) fun c =>
      Text.isAlphabetic c || Text.isNumeric c || c == '_'
    split
    · rename_i rest hdrop
      rw [hdrop] at hsuffix
      exact ((leaves_map (leaves_taggedString? rest _ _) _).cons _).of_suffix hsuffix
    · exact leaves_some hsuffix

end Strings

/-! ### Comments, numerals, words, operators -/

theorem suffix_of_skipComment? {depth : Nat} {cs rest : List Char}
    (h : skipComment? depth cs = some rest) : rest <:+ cs := by
  fun_induction skipComment? depth cs with
  | case1 _ _ ih | case3 _ _ _ ih =>
    exact (ih h).trans ((List.suffix_cons _ _).trans (List.suffix_cons _ _))
  | case2 =>
    obtain rfl := Option.some.inj h
    exact (List.suffix_cons _ _).trans (List.suffix_cons _ _)
  | case4 _ _ _ _ _ ih => exact (ih h).trans (List.suffix_cons _ _)
  | case5 => cases h

theorem suffix_skipLine (cs : List Char) : skipLine cs <:+ cs :=
  (List.drop_suffix _ _).trans (List.dropWhile_suffix _)

theorem suffix_signOf (cs : List Char) : (signOf cs).2 <:+ cs := by
  unfold signOf
  split
  · split_ifs
    · exact List.suffix_cons _ _
    · exact List.suffix_rfl
  · exact List.suffix_rfl

theorem suffix_exponentOf (cs : List Char) : (exponentOf cs).2 <:+ cs := by
  unfold exponentOf
  split
  · split_ifs
    · dsimp only
      split
      · exact List.suffix_rfl
      · exact ((List.dropWhile_suffix _).trans (suffix_signOf _)).trans (List.suffix_cons _ _)
    · exact List.suffix_rfl
  · exact List.suffix_rfl

theorem suffix_fractionOf (cs : List Char) : (fractionOf cs).2 <:+ cs := by
  unfold fractionOf
  split
  · exact (List.dropWhile_suffix _).trans (List.suffix_cons _ _)
  · exact List.suffix_rfl

theorem suffix_numeral (cs : List Char) : (numeral cs).2 <:+ cs := by
  have hrest : cs.dropWhile Char.isDigit <:+ cs := List.dropWhile_suffix _
  unfold numeral
  dsimp only
  split
  · rename_i heq
    rw [heq] at hrest
    exact ((List.dropWhile_suffix _).trans (List.suffix_cons _ _)).trans hrest
  · have hfraction := (suffix_fractionOf (cs.dropWhile Char.isDigit)).trans hrest
    have hexponent := (suffix_exponentOf _).trans hfraction
    split_ifs
    · split
      · rename_i heq
        rw [heq] at hexponent
        exact (List.suffix_cons _ _).trans hexponent
      · exact hexponent
    · exact hfraction

theorem suffix_wordToken (first rest : List Char) : (wordToken first rest).2 <:+ rest :=
  List.dropWhile_suffix _

theorem leaves_operatorToken? (cs : List Char) : Leaves cs (operatorToken? cs) := by
  unfold operatorToken?
  split
  · exact leaves_some (List.drop_suffix _ _)
  · split
    · exact leaves_ite (leaves_some (List.suffix_cons _ _)) leaves_none
    · exact leaves_none

theorem suffix_signToken (sign rest : List Char) : (signToken sign rest).2 <:+ rest := by
  unfold signToken
  split
  · split_ifs
    · exact List.suffix_rfl
    · exact (suffix_wordToken _ _).trans (List.suffix_cons _ _)
  · exact List.suffix_rfl

theorem leaves_letterToken? (letter : Char) (rest : List Char) :
    Leaves rest (letterToken? letter rest) := by
  have hplain : Leaves rest (some (wordToken [letter] rest)) :=
    leaves_some (suffix_wordToken _ _)
  unfold letterToken?
  dsimp only
  split
  · rename_i mark more
    have hquoted (f : List Char × List Char → Token) :
        Leaves (mark :: more) ((quotedString? mark more).map fun r => (f r, r.2)) :=
      (leaves_map (leaves_quotedString? mark more) f).cons mark
    have hdoubled (f : List Char × List Char → Token) :
        Leaves (mark :: more) ((Text.undouble? mark more).map fun r => (f r, r.2)) :=
      (leaves_map (leaves_undouble? mark more) f).cons mark
    refine leaves_ite ?_ (leaves_ite ?_ (leaves_ite ?_ hplain))
    · refine leaves_ite (hquoted _) (leaves_ite (hquoted _) (leaves_ite (hdoubled _) ?_))
      refine leaves_ite ((leaves_map (leaves_escapedString? more _) _).cons mark) ?_
      exact leaves_ite (leaves_rawString? mark _ _ _) hplain
    · exact leaves_ite (hdoubled _) (leaves_ite (leaves_rawString? mark _ _ _) hplain)
    · split
      · exact leaves_ite (((leaves_map (leaves_unicodeString? _ _) _).cons _).cons mark) hplain
      · exact hplain
  · exact hplain

/-- **Every step leaves an end of the text.** -/
theorem leaves_readToken? (c : Char) (rest : List Char) :
    Leaves (c :: rest) (readToken? c rest) := by
  have hrest : rest <:+ c :: rest := List.suffix_cons c rest
  unfold readToken?
  dsimp only
  refine leaves_ite (leaves_some hrest) (leaves_ite ?_ (leaves_ite ?_ (leaves_ite ?_ ?_)))
  · exact (leaves_map (leaves_undouble? c rest) _).cons c
  · exact (leaves_map (leaves_undouble? c rest) _).cons c
  · exact leaves_some (suffix_numeral _)
  refine leaves_ite ?_ (leaves_ite ?_ (leaves_ite ?_ ?_))
  · exact (leaves_map (leaves_letterToken? c rest) _).cons c
  · exact (leaves_map (leaves_dollarToken? rest) _).cons c
  · exact leaves_some ((List.dropWhile_suffix _).trans hrest)
  split
  · exact leaves_some (((suffix_skipLine _).trans (List.suffix_cons _ _)).trans hrest)
  · rintro _ hr
    obtain ⟨behind, hskip, rfl⟩ := Option.map_eq_some_iff.mp hr
    exact ((suffix_of_skipComment? hskip).trans (List.suffix_cons _ _)).trans hrest
  · exact leaves_some (((suffix_signToken _ _).trans (List.suffix_cons _ _)).trans hrest)
  · split
    · rename_i r hoperator
      exact leaves_some (leaves_operatorToken? _ r hoperator)
    · refine leaves_ite (leaves_some ((suffix_signToken _ _).trans hrest)) ?_
      refine leaves_ite (leaves_some hrest) (leaves_ite ?_ (leaves_some hrest))
      exact leaves_some ((suffix_wordToken [c] rest).trans hrest)

/-! ## Where tokens stand -/

/-- A token is read where it stands in a text that begins at a location. -/
def Lexeme.StandsIn (x : Lexeme) (l : Location) (cs : List Char) : Prop :=
  ∃ before c rest behind, cs = before ++ c :: rest ∧ x.start = l.after before ∧
    readToken? c rest = some (some x.token, behind)

theorem Lexeme.StandsIn.append {x : Lexeme} {l : Location} {cs : List Char} (step : List Char)
    (h : x.StandsIn (l.after step) cs) : x.StandsIn l (step ++ cs) := by
  obtain ⟨before, c, rest, behind, rfl, hstart, hread⟩ := h
  refine ⟨step ++ before, c, rest, behind, (List.append_assoc _ _ _).symm, ?_, hread⟩
  rw [hstart, Location.after_append]

theorem standsIn_of_tokenizeFrom? {fuel : Nat} {l : Location} {cs : List Char}
    {lexemes : List Lexeme} (h : tokenizeFrom? fuel l cs.length cs = some lexemes) :
    ∀ x ∈ lexemes, x.StandsIn l cs := by
  induction fuel generalizing l cs lexemes with
  | zero =>
    cases cs with
    | nil =>
      cases h
      exact nofun
    | cons c rest => cases h
  | succ fuel ih =>
    cases cs with
    | nil =>
      cases h
      exact nofun
    | cons c rest =>
      obtain ⟨⟨token, behind⟩, hread, h⟩ := Option.bind_eq_some_iff.mp h
      obtain ⟨tail, htail, h⟩ := Option.bind_eq_some_iff.mp h
      obtain ⟨step, hstep⟩ := leaves_readToken? c rest _ hread
      -- the step takes as many characters as are counted
      have htake : (c :: rest).take ((c :: rest).length - behind.length) = step := by
        rw [← hstep, List.length_append, Nat.add_sub_cancel, List.take_left]
      rw [htake] at htail
      have hbehind : ∀ x ∈ tail, x.StandsIn l (c :: rest) := fun x hx => by
        rw [← hstep]
        exact (ih htail x hx).append step
      cases token with
      | none =>
        cases h
        exact hbehind
      | some token =>
        cases h
        refine List.forall_mem_cons.mpr ⟨?_, hbehind⟩
        exact ⟨[], c, rest, behind, rfl, rfl, hread⟩

/-- **A token of a text is read where it stands.** -/
theorem standsIn_of_tokenize? {source : String} {lexemes : List Lexeme}
    (h : tokenize? source = some lexemes) : ∀ x ∈ lexemes, x.StandsIn .start source.toList :=
  standsIn_of_tokenizeFrom? h

end SqlNormal.Sql
