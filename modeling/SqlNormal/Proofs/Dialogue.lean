import SqlNormal.Console
import SqlNormal.Proofs.Lines
import SqlNormal.Proofs.SameTokens

/-!
# Statements in a dialogue

A statement is given to the console line by line, with a semicolon behind it. The console writes the
lines behind each other and answers them as one text. If the ends of the lines stand between tokens,
the answer is what the text itself means.

* `step_kept`, `step_answered`: one line of a statement, and its last one;
* `outputs_statement`: all lines of a statement;
* **`outputs_of_normalize`**: the answer to a text that means something;
* `misread_texts`: texts that mean something and are answered as others.
-/

namespace SqlNormal

namespace Console

open Text

variable {c : Console} {line : String}

/-! ## Lines of a statement -/

/-- What stands in front of the lines behind the first one. -/
def goesOnPrompt : Output :=
  .prompt "     -> "

/-- The text that a line makes of the buffer. -/
def whole (c : Console) (line : String) : List Char :=
  c.buffer.toList ++ trimEnd line.toList

/-- The console without what it keeps. -/
def rested (c : Console) : Console :=
  { c with buffer := "" }

/-- The console keeps a text. -/
def keeping (c : Console) (cs : List Char) : Console :=
  { c with buffer := String.ofList cs }

theorem buffer_keeping (c : Console) (cs : List Char) : (c.keeping cs).buffer.toList = cs :=
  String.toList_ofList

theorem prompt_keeping (c : Console) (cs : List Char) :
    (c.keeping (cs ++ [' '])).prompt = goesOnPrompt := by
  have hempty : (c.keeping (cs ++ [' '])).buffer.isEmpty = false := by
    rw [Bool.eq_false_iff]
    intro h
    have hbuffer := buffer_keeping c (cs ++ [' '])
    rw [String.isEmpty_iff.mp h] at hbuffer
    simp at hbuffer
  rw [prompt, hempty]
  rfl

/-- A line that ends nothing is kept. -/
theorem step_kept (hpoint : (visible (c.whole line)).head? ≠ some '.')
    (hends : (visible (c.whole line)).getLast? ≠ some ';') :
    c.step line = some ⟨[], some (c.keeping (c.whole line ++ [' ']))⟩ := by
  rw [← head?_trim] at hpoint
  rw [← getLast?_trim] at hends
  exact (if_neg hpoint).trans (if_neg hends)

/-- A semicolon ends a statement. -/
theorem step_answered (hpoint : (visible (c.whole line)).head? ≠ some '.')
    (hends : (visible (c.whole line)).getLast? = some ';') :
    c.step line = (c.rested.answer (statementText (trim (c.whole line)))).map
      fun output => ⟨output, some c.rested⟩ := by
  rw [← head?_trim] at hpoint
  rw [← getLast?_trim] at hends
  exact (if_neg hpoint).trans (if_pos hends)

theorem head?_append_ne {α : Type} {as bs : List α} {a : α} (h : (as ++ bs).head? ≠ some a) :
    as.head? ≠ some a := by
  intro has
  exact h (by rw [List.head?_append, has]; rfl)

theorem getLast?_append_ne {α : Type} {as bs : List α} {a : α} (has : as.getLast? ≠ some a)
    (hbs : bs.getLast? ≠ some a) : (as ++ bs).getLast? ≠ some a := by
  rw [List.getLast?_append]
  cases h : bs.getLast? with
  | none => exact has
  | some b => rwa [h] at hbs

theorem visible_whole (c : Console) (line : String) :
    visible (c.whole line) = visible c.buffer.toList ++ visible line.toList := by
  rw [whole, visible_append, visible_trimEnd]

theorem whole_semicolon (c : Console) (last : String) :
    c.whole (last ++ ";") = c.buffer.toList ++ last.toList ++ [';'] := by
  have hlast : (last ++ ";").toList = last.toList ++ [';'] := String.toList_append
  rw [whole, hlast, trimEnd_concat, if_neg (by decide), List.append_assoc]

/-- A line in front of others, as it is kept with them. -/
theorem buffer_joined_cons (c : Console) (l : String) (ls : List String) :
    c.buffer.toList ++ joined (l :: ls) = c.whole l ++ ' ' :: joined ls := by
  rw [joined_cons, whole, List.append_assoc]

/-- What is written behind a statement: its answer and the dialogue over later lines. If the program
stops over the statement, nothing more is written. -/
def continued (c : Console) (sql : String) (later : List String) : List Output :=
  match c.answer sql with
  | some output => output ++ c.outputs later
  | none => [.crash]

/-- The lines of a statement are answered as one text. -/
theorem outputs_statement (c : Console) (ls : List String) (last : String) (later : List String)
    (hpoint : (visible (c.buffer.toList ++ joined (ls ++ [last ++ ";"]))).head? ≠ some '.')
    (hkept : (visible c.buffer.toList).getLast? ≠ some ';')
    (hends : ∀ l ∈ ls, (visible l.toList).getLast? ≠ some ';') :
    c.outputs (ls ++ (last ++ ";") :: later) =
      c.prompt :: List.replicate ls.length goesOnPrompt ++
        c.rested.continued (statementText (trim (c.buffer.toList ++ joined ls ++
          last.toList ++ [';']))) later := by
  induction ls generalizing c with
  | nil =>
    rw [List.nil_append, buffer_joined_cons, visible_append] at hpoint
    have hlast : (visible (c.whole (last ++ ";"))).getLast? = some ';' := by
      rw [whole_semicolon, visible_append]
      exact List.getLast?_concat ..
    have hstep := step_answered (head?_append_ne hpoint) hlast
    rw [whole_semicolon] at hstep
    rw [List.nil_append, outputs, hstep, continued]
    have hnil : joined [] = [] := rfl
    rw [hnil, List.append_nil]
    cases c.rested.answer _ <;> rfl
  | cons l ls ih =>
    rw [List.cons_append, buffer_joined_cons, visible_append] at hpoint
    obtain ⟨hl, hls⟩ := List.forall_mem_cons.mp hends
    have hends' : (visible (c.whole l)).getLast? ≠ some ';' := by
      rw [visible_whole]
      exact getLast?_append_ne hkept hl
    have hline (cs : List Char) : c.whole l ++ [' '] ++ cs = c.whole l ++ ' ' :: cs :=
      List.append_assoc ..
    -- what is kept has the blank behind the line that is written in front of the next one
    have hgoes := ih (c.keeping (c.whole l ++ [' ']))
    rw [buffer_keeping, prompt_keeping, visible_concat_blank rfl, hline, hline,
      visible_append] at hgoes
    rw [List.cons_append, outputs, step_kept (head?_append_ne hpoint) hends', buffer_joined_cons]
    show c.prompt :: [] ++ (c.keeping (c.whole l ++ [' '])).outputs _ = _
    rw [hgoes hpoint hends' hls]
    rfl

/-! ## Statements -/

/-- Without the semicolon behind it, a statement that ends in none is as it was. -/
theorem statementText_trim {cs : List Char} (h : (visible cs).getLast? ≠ some ';') :
    statementText (trim (cs ++ [';'])) = String.ofList (trim cs) := by
  have hend : (trimStart cs).rdropWhile (· = ';') = trimStart cs := by
    rw [List.rdropWhile_eq_self_iff]
    intro hne hlast
    have hsplit := List.dropLast_append_getLast hne
    rw [decide_eq_true_eq.mp hlast] at hsplit
    rw [← visible_trimStart, ← hsplit, visible_append] at h
    exact h (List.getLast?_concat ..)
  have hmarked : (trim (cs ++ [';'])).rdropWhile (· = ';') = trimStart cs := by
    rw [trim_concat_visible (by decide), List.rdropWhile_concat_pos _ _ _ (by decide), hend]
  show String.ofList (trim ((trim (cs ++ [';'])).rdropWhile (· = ';'))) = _
  rw [hmarked, trim_trimStart]

theorem getLast?_visible_joined {ls : List String}
    (h : ∀ l ∈ ls, (visible l.toList).getLast? ≠ some ';') :
    (visible (joined ls)).getLast? ≠ some ';' := by
  induction ls with
  | nil => decide
  | cons l ls ih =>
    obtain ⟨hl, hls⟩ := List.forall_mem_cons.mp h
    rw [visible_joined_cons]
    exact getLast?_append_ne hl (ih hls)

/-- The lines of a text with a semicolon behind it are answered as the text on one line. -/
theorem outputs_lines (c : Console) (s : String) (later : List String) (hbuffer : c.buffer = "")
    (hpoint : (trim s.toList).head? ≠ some '.')
    (hends : ∀ line ∈ lines s, (trim line.toList).getLast? ≠ some ';') :
    c.outputs (lines (s ++ ";") ++ later) =
      .prompt "fedsql> " :: List.replicate ((lines (s ++ ";")).length - 1) goesOnPrompt ++
        c.continued (oneLine s) later := by
  obtain ⟨ls, last, hmarked, hplain⟩ := lines_semicolon s
  have hmem : ∀ l ∈ ls, l ∈ lines s := by
    rcases hplain with h | ⟨-, h⟩
    · exact fun l hl => h ▸ List.mem_append_left _ hl
    · exact fun l hl => h ▸ hl
  have hrested : c.rested = c := by
    obtain ⟨env, showsTree, buffer⟩ := c
    subst hbuffer
    rfl
  have hempty : c.buffer.toList = [] := by rw [hbuffer]; rfl
  have hhead : (visible (joined (ls ++ [last ++ ";"]))).head? ≠ some '.' := by
    have hlist : (s ++ ";").toList = s.toList ++ [';'] := String.toList_append
    rw [← hmarked, visible_joined_lines, hlist, visible_append]
    rw [head?_trim] at hpoint
    cases hs : visible s.toList with
    | nil => decide
    | cons d ds => rwa [hs] at hpoint
  have hlast : (visible (joined ls ++ last.toList)).getLast? ≠ some ';' := by
    have htext : visible (joined ls ++ last.toList) = visible (joined (lines s)) := by
      rw [visible_joined_lines, ← visible_oneLine, oneLine_eq_trim hplain, String.toList_ofList,
        visible_trim]
    rw [htext]
    exact getLast?_visible_joined fun l hl => getLast?_trim l.toList ▸ hends l hl
  have hall := outputs_statement c ls last later (by rwa [hempty, List.nil_append])
    (by rw [hempty]; decide) fun l hl => getLast?_trim l.toList ▸ hends l (hmem l hl)
  rw [hempty, List.nil_append, statementText_trim hlast, ← oneLine_eq_trim hplain, hrested] at hall
  have hprompt : c.prompt = .prompt "fedsql> " := by
    rw [prompt, hbuffer]
    rfl
  rw [hmarked, List.append_assoc, List.singleton_append, hall, hprompt, List.length_append]
  rfl

theorem answer_of_lines {sql : String} {shown : List String}
    (h : (if isQuery sql then c.projectionLines sql else c.expressionLines sql) = .ok shown) :
    c.answer sql = some (shown.map .line ++ [.elapsed, .line ""]) := by
  rw [answer, h]
  rfl

/-- What is written while a statement of some lines is given and answered. -/
def exchange (lineCount : Nat) (shown : List String) : List Output :=
  .prompt "fedsql> " :: List.replicate (lineCount - 1) goesOnPrompt ++
    (shown.map .line ++ [.elapsed, .line ""])

/-- The tree of what is answered, if it is asked for. -/
def treeLines (c : Console) (tree : Json) : List String :=
  if c.showsTree then [tree.pretty] else []

end Console

/-- The first token of a text is the word of a query. -/
def startsQuery (sql : String) : Bool :=
  ((Sql.tokens? sql).bind List.head?).any fun t => t.keyword == "SELECT"

open Console Text Sql in
/-- **A statement in a dialogue means what its text means.** Its text begins with no point, no line
of it ends with a semicolon, the ends of its lines stand between tokens, and its first word is that
of a query if its first token is. Given line by line with a semicolon behind it, it is answered
once, with the text of its own normal form. -/
theorem outputs_of_normalize (c : Console) (s : String) (later : List String)
    (hbuffer : c.buffer = "") (hpoint : (trim s.toList).head? ≠ some '.')
    (hends : ∀ line ∈ lines s, (trim line.toList).getLast? ≠ some ';')
    (htokens : tokens? (oneLine s) = tokens? s) (hword : isQuery s = startsQuery s) :
    (startsQuery s = true → ∀ columns, c.env.normalizeProjection s = .ok columns →
      c.outputs (lines (s ++ ";") ++ later) =
        exchange (lines (s ++ ";")).length
          (columnTable columns :: ("SELECT " ++ projectionText columns) ::
            c.treeLines (.array (columns.map (·.toJson .ofDouble)))) ++ c.outputs later) ∧
    (startsQuery s = false → ∀ n, c.env.normalizeExpression s = .ok n →
      c.outputs (lines (s ++ ";") ++ later) =
        exchange (lines (s ++ ";")).length (n.toSql :: c.treeLines (n.toJson .ofDouble)) ++
          c.outputs later) := by
  have hall := outputs_lines c s later hbuffer hpoint hends
  have hquery : isQuery (oneLine s) = startsQuery s := by
    rw [← hword, isQuery, words_oneLine]
    rfl
  obtain ⟨hexpr, hproj⟩ := alike_normalize htokens c.env
  refine ⟨fun hstarts columns hcolumns => ?_, fun hstarts n hn => ?_⟩
  · have hlines : c.projectionLines (oneLine s) =
        .ok (columnTable columns :: ("SELECT " ++ projectionText columns) ::
          c.treeLines (.array (columns.map (·.toJson .ofDouble)))) := by
      rw [projectionLines, (hproj columns).mpr hcolumns]
      rfl
    rw [hall, continued, answer_of_lines (by rw [hquery, if_pos hstarts, hlines])]
    exact (List.append_assoc ..).symm
  · have hlines : c.expressionLines (oneLine s) =
        .ok (n.toSql :: c.treeLines (n.toJson .ofDouble)) := by
      rw [expressionLines, (hexpr n).mpr hn]
      rfl
    have hnot : ¬startsQuery s = true := by simp [hstarts]
    rw [hall, continued, answer_of_lines (by rw [hquery, if_neg hnot, hlines])]
    exact (List.append_assoc ..).symm

/-- A query on three lines, with semicolons in a string and in a comment. -/
def threeLines : String :=
  "SELECT 'a;b'\n\n /* c; */ FROM t -- d"

open Console in
/-- The query is answered once, behind its last line. -/
theorem outputs_of_threeLines : ∃ columns,
    ({} : Environment).normalizeProjection threeLines = .ok columns ∧
      projectionText columns = "'a;b'" ∧
      ({} : Console).outputs (Text.lines (threeLines ++ ";")) =
        exchange 3 [columnTable columns, "SELECT 'a;b'"] ++
          [.prompt "fedsql> ", .line "Goodbye!"] := by
  have hregenerated : (({} : Environment).regenerate threeLines).toOption = some "'a;b'" := by
    decide +kernel
  obtain ⟨columns, hcolumns, htext⟩ := bind_eq_ok.mp (toOption_eq_some.mp hregenerated)
  rw [pure_eq_ok] at htext
  have hcount : (Text.lines (threeLines ++ ";")).length = 3 := by decide +kernel
  have hanswered := (outputs_of_normalize {} threeLines [] rfl (by decide +kernel)
    (by decide +kernel) (by decide +kernel) (by decide +kernel)).1 (by decide +kernel) columns
    hcolumns
  rw [List.append_nil, hcount, htext] at hanswered
  exact ⟨columns, hcolumns, htext, hanswered⟩

/-- What a text means, on the line that a dialogue writes it on. -/
def Environment.rewritten (env : Environment) (s : String) : Except Failure String :=
  if startsQuery s then do return "SELECT " ++ (← env.regenerate s)
  else do return (← env.normalizeExpression s).toSql

/-- A text that means something and ends in no semicolon, and a dialogue that does not write it. -/
def Misread (s : String) : Prop :=
  (Text.trim s.toList).getLast? ≠ some ';' ∧
    ∃ sql, ({} : Environment).rewritten s = .ok sql ∧
      .line sql ∉ ({} : Console).outputs (Text.lines (s ++ ";"))

theorem misread_of {s : String} (sql : String)
    (htrim : (Text.trim s.toList).getLast? ≠ some ';')
    (hsql : (({} : Environment).rewritten s).toOption = some sql)
    (hwritten : .line sql ∉ ({} : Console).outputs (Text.lines (s ++ ";"))) : Misread s :=
  ⟨htrim, sql, toOption_eq_some.mp hsql, hwritten⟩

/-- Each text lacks one of the conditions and has the others: a point in front, a semicolon behind a
line, the end of a line within a string, and a first word that is more than a token. -/
theorem misread_texts :
    Misread ".5" ∧ Misread "a /*;\n*/" ∧ Misread "'a\nb'" ∧ Misread "SELECT(a) FROM t" := by
  refine ⟨misread_of "0.5" ?_ ?_ ?_, misread_of "a" ?_ ?_ ?_, misread_of "'a\nb'" ?_ ?_ ?_,
    misread_of "SELECT (a)" ?_ ?_ ?_⟩ <;>
    decide +kernel

end SqlNormal
