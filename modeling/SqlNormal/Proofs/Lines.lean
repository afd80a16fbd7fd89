import Mathlib
import SqlNormal.Text.Blank

/-!
# Lines and blanks

What is cut from the ends of a text, its words and its lines are the same for texts that differ in
blanks alone. A text of several lines is written on one line with a blank for each of its ends.

* `visible`: the characters that are not blank;
* `eq_of_trimEnd`, `eq_of_trimStart`: what trimming does not change; `head?_trim`, `getLast?_trim`:
  the ends of a trimmed text;
* `wordsFrom_append`: a blank parts words;
* `joined`, `oneLine`: lines behind each other, and a text on one line;
* `words_oneLine`, `visible_oneLine`: a text on one line has the same words;
* `lines_semicolon`: the lines of a text that ends with a semicolon.
-/

namespace SqlNormal.Text

variable {cs : List Char} {c : Char}

/-- The characters that are not blank. -/
def visible (cs : List Char) : List Char :=
  cs.filter fun c => !isBlank c

/-! ## Trimming -/

theorem trimEnd_concat (cs : List Char) (c : Char) :
    trimEnd (cs ++ [c]) = if isBlank c then trimEnd cs else cs ++ [c] :=
  List.rdropWhile_concat ..

theorem trimStart_append (cs bs : List Char) :
    trimStart (cs ++ bs) = if (trimStart cs).isEmpty then trimStart bs else trimStart cs ++ bs :=
  List.dropWhile_append ..

/-- A blank behind a text makes no difference. -/
theorem trim_concat_blank (hc : isBlank c = true) : trim (cs ++ [c]) = trim cs := by
  unfold trim
  rw [trimStart_append]
  split
  · rename_i hempty
    rw [List.isEmpty_iff.mp hempty, trimStart, List.dropWhile_cons_of_pos hc]
    rfl
  · rw [trimEnd_concat, if_pos hc]

/-- A character that is not blank ends a text. -/
theorem trim_concat_visible (hc : isBlank c = false) :
    trim (cs ++ [c]) = trimStart cs ++ [c] := by
  have hnot : ¬isBlank c = true := by simp [hc]
  unfold trim
  rw [trimStart_append]
  split
  · rename_i hempty
    rw [List.isEmpty_iff.mp hempty, trimStart, List.dropWhile_cons_of_neg hnot]
    exact (trimEnd_concat [] c).trans (if_neg hnot)
  · rw [trimEnd_concat, if_neg hnot]

theorem trim_trimStart (cs : List Char) : trim (trimStart cs) = trim cs :=
  congrArg trimEnd (List.dropWhile_idempotent isBlank cs)

/-- What a blank at the end does not change is not changed by trimming there. -/
theorem eq_of_trimEnd {α : Type} {f : List Char → α}
    (h : ∀ cs c, isBlank c = true → f (cs ++ [c]) = f cs) (cs : List Char) :
    f (trimEnd cs) = f cs := by
  induction cs using List.reverseRecOn with
  | nil => rfl
  | append_singleton cs c ih =>
    rw [trimEnd_concat]
    split
    · rename_i hc
      rw [ih, h cs c hc]
    · rfl

/-- What a blank in front does not change is not changed by trimming there. -/
theorem eq_of_trimStart {α : Type} {f : List Char → α}
    (h : ∀ c cs, isBlank c = true → f (c :: cs) = f cs) (cs : List Char) :
    f (trimStart cs) = f cs := by
  induction cs with
  | nil => rfl
  | cons c cs ih =>
    by_cases hc : isBlank c
    · rw [trimStart, List.dropWhile_cons_of_pos hc, h c cs hc]
      exact ih
    · rw [trimStart, List.dropWhile_cons_of_neg hc]

theorem trim_trimEnd (cs : List Char) : trim (trimEnd cs) = trim cs :=
  eq_of_trimEnd (fun _ _ => trim_concat_blank) cs

theorem trim_trim (cs : List Char) : trim (trim cs) = trim cs :=
  (trim_trimEnd (trimStart cs)).trans (trim_trimStart cs)

theorem trim_trimmed (s : String) : trim (trimmed s).toList = trim s.toList := by
  rw [trimmed, String.toList_ofList, trim_trim]

theorem trimmed_trimmed (s : String) : trimmed (trimmed s) = trimmed s :=
  congrArg String.ofList (trim_trimmed s)

theorem trim_of_visible (h : ∀ c ∈ cs, isBlank c = false) : trim cs = cs := by
  have hstart : trimStart cs = cs :=
    List.dropWhile_eq_self_iff.mpr fun hlen => by simp [h _ (List.getElem_mem hlen)]
  rw [trim, hstart]
  exact List.rdropWhile_eq_self_iff.mpr fun hne => by simp [h _ (List.getLast_mem hne)]

theorem trim_append_trimEnd (cs bs : List Char) : trim (cs ++ trimEnd bs) = trim (cs ++ bs) := by
  refine eq_of_trimEnd (f := fun bs => trim (cs ++ bs)) (fun bs c hc => ?_) bs
  rw [← List.append_assoc, trim_concat_blank hc]

theorem visible_cons_blank (hc : isBlank c = true) : visible (c :: cs) = visible cs :=
  List.filter_cons_of_neg (by simp [hc])

theorem visible_append (cs bs : List Char) : visible (cs ++ bs) = visible cs ++ visible bs :=
  List.filter_append ..

theorem visible_concat_blank (hc : isBlank c = true) : visible (cs ++ [c]) = visible cs := by
  rw [visible_append, visible_cons_blank hc]
  exact List.append_nil _

theorem visible_trimStart (cs : List Char) : visible (trimStart cs) = visible cs :=
  eq_of_trimStart (fun _ _ => visible_cons_blank) cs

theorem visible_trimEnd (cs : List Char) : visible (trimEnd cs) = visible cs :=
  eq_of_trimEnd (fun _ _ => visible_concat_blank) cs

theorem visible_trim (cs : List Char) : visible (trim cs) = visible cs := by
  rw [trim, visible_trimEnd, visible_trimStart]

theorem head?_trim (cs : List Char) : (trim cs).head? = (visible cs).head? := by
  rw [← visible_trim]
  cases htrim : trim cs with
  | nil => rfl
  | cons c ts =>
    have hprefix : c :: ts <+: trimStart cs := htrim ▸ List.rdropWhile_prefix isBlank (trimStart cs)
    obtain ⟨rest, hrest⟩ := hprefix
    have hhead := List.head?_dropWhile_not isBlank cs
    have hstart : List.dropWhile isBlank cs = c :: (ts ++ rest) := hrest.symm
    rw [hstart] at hhead
    have hc : isBlank c = false := by simpa using hhead
    simp [visible, hc]

theorem getLast?_trim (cs : List Char) : (trim cs).getLast? = (visible cs).getLast? := by
  rw [← visible_trim]
  have hlast : ∀ h : trim cs ≠ [], ¬isBlank ((trim cs).getLast h) :=
    List.rdropWhile_last_not isBlank (trimStart cs)
  generalize trim cs = ts at hlast
  induction ts using List.reverseRecOn with
  | nil => rfl
  | append_singleton ts c _ =>
    have hc := hlast (by simp)
    rw [List.getLast_append_singleton] at hc
    rw [visible_append]
    simp [visible, hc]

/-! ## Words -/

/-- A blank parts words. -/
theorem wordsFrom_append (word cs ds : List Char) (hc : isBlank c = true) :
    wordsFrom word (cs ++ c :: ds) = wordsFrom word cs ++ wordsFrom [] ds := by
  induction cs generalizing word with
  | nil =>
    simp only [List.nil_append, wordsFrom, hc, if_true]
    split <;> rfl
  | cons d cs ih =>
    rw [List.cons_append, wordsFrom, wordsFrom]
    split
    · split
      · exact ih []
      · rw [ih [], List.cons_append]
    · exact ih _

theorem flatten_wordsFrom (word cs : List Char) :
    (wordsFrom word cs).flatten = word.reverse ++ visible cs := by
  induction cs generalizing word with
  | nil => cases word <;> simp [wordsFrom, visible]
  | cons c cs ih =>
    rw [wordsFrom]
    split
    · rename_i hc
      rw [visible_cons_blank hc]
      cases word with
      | nil => exact ih []
      | cons d word =>
        rw [if_neg (by simp), List.flatten_cons, ih []]
        rfl
    · rename_i hc
      have hvisible : visible (c :: cs) = c :: visible cs := List.filter_cons_of_pos (by simp [hc])
      rw [hvisible, ih, List.reverse_cons, List.append_assoc]
      rfl

theorem wordsFrom_concat_blank (word cs : List Char) (hc : isBlank c = true) :
    wordsFrom word (cs ++ [c]) = wordsFrom word cs := by
  rw [wordsFrom_append word cs [] hc, wordsFrom, List.isEmpty_nil, if_pos rfl, List.append_nil]

theorem wordsFrom_trimEnd (word cs : List Char) :
    wordsFrom word (trimEnd cs) = wordsFrom word cs :=
  eq_of_trimEnd (fun cs _ => wordsFrom_concat_blank word cs) cs

theorem wordsFrom_trimStart (cs : List Char) : wordsFrom [] (trimStart cs) = wordsFrom [] cs :=
  eq_of_trimStart (fun c cs hc => by simp [wordsFrom, hc]) cs

theorem words_trimmed (s : String) : words (trimmed s) = words s := by
  rw [words, trimmed, String.toList_ofList, trim, wordsFrom_trimEnd, wordsFrom_trimStart, words]

theorem wordsFrom_blank {cs : List Char} (h : cs.all isBlank = true) : wordsFrom [] cs = [] := by
  induction cs with
  | nil => rfl
  | cons c cs ih =>
    rw [List.all_cons, Bool.and_eq_true] at h
    simp [wordsFrom, h.1, ih h.2]

/-- A line with a word in it is not blank. -/
theorem isBlankLine_of_words {line word : String} {rest : List String}
    (h : words line = word :: rest) : isBlankLine line = false := by
  rw [← Bool.not_eq_true]
  intro hblank
  rw [words, wordsFrom_blank hblank] at h
  cases h

/-! ## Lines -/

/-- Lines behind each other, each without the blanks at its end and with one blank behind it. -/
def joined (lines : List String) : List Char :=
  lines.flatMap fun l => trimEnd l.toList ++ [' ']

/-- A text on one line: a blank stands for each line's end and the blanks before it. -/
def oneLine (s : String) : String :=
  String.ofList (trim (joined (lines s)))

theorem joined_cons (l : String) (ls : List String) :
    joined (l :: ls) = trimEnd l.toList ++ ' ' :: joined ls := by
  simp [joined]

theorem joined_concat (ls : List String) (l : String) :
    joined (ls ++ [l]) = joined ls ++ trimEnd l.toList ++ [' '] := by
  simp [joined]

theorem visible_joined_cons (l : String) (ls : List String) :
    visible (joined (l :: ls)) = visible l.toList ++ visible (joined ls) := by
  rw [joined_cons, visible_append, visible_trimEnd]
  rfl

theorem wordsFrom_joined (ls : List String) :
    wordsFrom [] (joined ls) = ls.flatMap fun l => wordsFrom [] l.toList := by
  induction ls with
  | nil => rfl
  | cons l ls ih =>
    rw [joined_cons, wordsFrom_append _ _ _ rfl, wordsFrom_trimEnd, ih, List.flatMap_cons]

theorem dropReturn_cases (cs : List Char) : dropReturn cs = cs ∨ cs = dropReturn cs ++ ['\r'] := by
  unfold dropReturn
  split
  · rename_i rest h
    right
    rw [← List.reverse_reverse cs, h, List.reverse_cons]
  · exact .inl rfl

theorem wordsFrom_dropReturn (cs : List Char) :
    wordsFrom [] (dropReturn cs) = wordsFrom [] cs := by
  rcases dropReturn_cases cs with h | h
  · rw [h]
  · have hwords := wordsFrom_concat_blank [] (dropReturn cs) (c := '\r') rfl
    rw [← h] at hwords
    exact hwords.symm

theorem words_dropReturn (s : String) : words (String.ofList (dropReturn s.toList)) = words s := by
  rw [words, String.toList_ofList, wordsFrom_dropReturn, words]

/-- The words of a text are those of its lines. -/
theorem wordsFrom_lines (line cs : List Char) :
    ((lines.go line cs).flatMap fun l => wordsFrom [] l.toList) =
      wordsFrom [] (line.reverse ++ cs) := by
  induction cs generalizing line with
  | nil =>
    unfold lines.go
    split
    · rename_i hempty
      rw [List.isEmpty_iff.mp hempty]
      rfl
    · simp
  | cons c cs ih =>
    unfold lines.go
    split
    · simp at *
    · rename_i hlist
      obtain ⟨rfl, rfl⟩ := List.cons.inj hlist
      rw [List.flatMap_cons, ih, wordsFrom_append _ _ _ rfl, String.toList_ofList,
        wordsFrom_dropReturn]
      rfl
    · rename_i hlist
      obtain ⟨rfl, rfl⟩ := List.cons.inj hlist
      rw [ih, List.reverse_cons, List.append_assoc]
      rfl

theorem wordsFrom_joined_lines (s : String) :
    wordsFrom [] (joined (lines s)) = wordsFrom [] s.toList := by
  rw [wordsFrom_joined, lines, wordsFrom_lines]
  rfl

/-- The lines of a text have the characters of the text that are not blank. -/
theorem visible_joined_lines (s : String) : visible (joined (lines s)) = visible s.toList := by
  have hflatten := congrArg List.flatten (wordsFrom_joined_lines s)
  rw [flatten_wordsFrom, flatten_wordsFrom] at hflatten
  exact hflatten

/-- On one line, a text has the same words. -/
theorem words_oneLine (s : String) : words (oneLine s) = words s := by
  rw [words, oneLine, String.toList_ofList, trim, wordsFrom_trimEnd, wordsFrom_trimStart,
    wordsFrom_joined_lines]
  rfl

theorem visible_oneLine (s : String) : visible (oneLine s).toList = visible s.toList := by
  rw [oneLine, String.toList_ofList, visible_trim, visible_joined_lines]

/-- A semicolon behind a text stands at the end of its last line, which may be a new one. -/
theorem go_semicolon (line cs : List Char) : ∃ ls last,
    lines.go line (cs ++ [';']) = ls ++ [last ++ ";"] ∧
      (lines.go line cs = ls ++ [last] ∨ last = "" ∧ lines.go line cs = ls) := by
  induction cs generalizing line with
  | nil =>
    refine ⟨[], String.ofList line.reverse, ?_, ?_⟩
    · simp [lines.go]
    · cases line with
      | nil => exact .inr ⟨rfl, rfl⟩
      | cons c line => exact .inl rfl
  | cons c cs ih =>
    by_cases hc : c = '\n'
    · subst hc
      obtain ⟨ls, last, hmarked, hplain⟩ := ih []
      refine ⟨String.ofList (dropReturn line.reverse) :: ls, last, ?_, ?_⟩
      · rw [List.cons_append, lines.go, hmarked, List.cons_append]
      · rw [lines.go]
        exact hplain.imp (fun h => by rw [h, List.cons_append]) fun h => ⟨h.1, by rw [h.2]⟩
    · obtain ⟨ls, last, hmarked, hplain⟩ := ih (c :: line)
      refine ⟨ls, last, ?_, ?_⟩
      · rw [List.cons_append, lines.go, hmarked]
        exact fun h => hc h
      · rw [lines.go]
        · exact hplain
        · exact fun h => hc h

/-- The lines of a text with a semicolon behind it. -/
theorem lines_semicolon (s : String) : ∃ ls last,
    lines (s ++ ";") = ls ++ [last ++ ";"] ∧
      (lines s = ls ++ [last] ∨ last = "" ∧ lines s = ls) := by
  have hlist : (s ++ ";").toList = s.toList ++ [';'] := String.toList_append
  rw [lines, lines, hlist]
  exact go_semicolon [] s.toList

/-- The text on one line, of the lines that a semicolon behind it leaves. -/
theorem oneLine_eq_trim {s last : String} {ls : List String}
    (h : lines s = ls ++ [last] ∨ last = "" ∧ lines s = ls) :
    oneLine s = String.ofList (trim (joined ls ++ last.toList)) := by
  unfold oneLine
  rcases h with h | ⟨rfl, h⟩
  · rw [h, joined_concat, trim_concat_blank rfl, trim_append_trimEnd]
  · rw [h]
    simp

end SqlNormal.Text
