import SqlNormal.Proofs.Lines
import SqlNormal.Proofs.Records

/-!
# Skipped records

A record that is skipped goes on to the first blank line. Where it is read, it may go on further: a
query runs over blank lines to its separator. So a record is skipped as a whole exactly if it ends
at the first blank line.

* `Record.Reads.of_append`, `Record.Reads.passed_or_statement`: lines without a record;
* `Record.EndsAtBlank`: a record that ends at the first blank line;
* `Record.reads_behind_iff`: behind that line there is no record exactly if the only one ends there;
* **`readAll_skip_iff`**: a record that is skipped.
-/

namespace SqlNormal

/-! ## Lines -/

namespace Text

theorem go_line (line : List Char) {cs : List Char} (h : '\n' ∉ cs) :
    lines.go line (cs ++ ['\n']) = [String.ofList (dropReturn (line.reverse ++ cs))] := by
  induction cs generalizing line with
  | nil => simp [lines.go]
  | cons c cs ih =>
    rw [List.mem_cons, not_or] at h
    rw [List.cons_append, lines.go, ih (c :: line) h.2, List.reverse_cons, List.append_assoc]
    · rfl
    · exact fun hc => h.1 hc.symm

/-- A line in front of a text. -/
theorem lines_cons {s : String} (h : '\n' ∉ s.toList) (text : String) :
    lines (s ++ "\n" ++ text) = String.ofList (dropReturn s.toList) :: lines text := by
  have hline : lines (s ++ "\n") = [String.ofList (dropReturn s.toList)] := by
    rw [lines, String.toList_append]
    exact go_line [] h
  rw [lines_append (.inr ⟨s, rfl⟩), hline, List.singleton_append]

end Text

namespace Record

/-! ## Lines without a record -/

/-- Lines hold the records of one list only. -/
theorem Reads.unique {lines : Lines} {records others : List Record} (h : Reads lines records)
    (h' : Reads lines others) : records = others := by
  have hread := (readLines_eq_ok_iff le_rfl).mpr h
  have hread' := (readLines_eq_ok_iff le_rfl).mpr h'
  exact Except.ok.inj (hread.symm.trans hread')

theorem block_of_isEmpty {lines : Lines} (h : (block lines).1.isEmpty = true) :
    (block lines).2 = lines := by
  have hnone : lines.takeWhile (fun l => !Text.isBlankLine l.2) = [] := by
    simpa [block] using h
  have hsplit := List.takeWhile_append_dropWhile (p := fun l => !Text.isBlankLine l.2) (l := lines)
  rwa [hnone] at hsplit

/-- A setting takes no line but its first. -/
theorem readOne_set {words : List String} {rest rest' : Lines} {record : Option Record}
    (h : readOne "set" words rest = .ok (record, rest')) :
    rest' = rest ∧ ∃ setting value, record = some (.set setting value) := by
  obtain ⟨setting, -, h⟩ := bind_eq_ok.mp h
  by_cases hvalue : (" ".intercalate (words.drop 1)).isEmpty = true
  · simp only [hvalue, if_true] at h
    cases h
  · simp only [hvalue] at h
    obtain ⟨rfl, rfl⟩ := Prod.mk.inj (pure_eq_ok.mp h)
    exact ⟨rfl, setting, _, rfl⟩

/-- Only a statement without a text is left out. -/
theorem readOne_none {directive : String} {words : List String} {rest rest' : Lines}
    (h : readOne directive words rest = .ok (none, rest')) :
    directive = "statement" ∧ rest' = rest := by
  unfold readOne at h
  split at h
  · obtain ⟨error, -, h⟩ := bind_eq_ok.mp h
    obtain ⟨hnone, rfl⟩ := Prod.mk.inj (pure_eq_ok.mp h)
    split_ifs at hnone with hempty
    exact ⟨rfl, block_of_isEmpty hempty⟩
  · split at h
    · cases h
    · cases h
  · obtain ⟨-, setting, value, hset⟩ := readOne_set h
    cases hset
  · cases h
  · cases h
  · cases h
  · cases h

section Nothing

variable {l : Nat × String} {lines before : Lines}

/-- A line in front of lines without a record stands between records, or begins a statement without
a text. -/
theorem Reads.cons_nil (h : Reads (l :: lines) []) :
    (IsPassed l.2 ∨ (Text.words l.2).head? = some "statement") ∧ Reads lines [] := by
  obtain ⟨number, line⟩ := l
  generalize hrecords : ([] : List Record) = records at h
  cases h with
  | passed hpassed hrest => exact ⟨.inl hpassed, hrest⟩
  | record hwords hdirective hone hrest =>
    obtain ⟨hnone, rfl⟩ := List.append_eq_nil_iff.mp hrecords.symm
    obtain rfl := Option.toList_eq_nil_iff.mp hnone
    obtain ⟨rfl, rfl⟩ := readOne_none hone
    exact ⟨.inr (by rw [hwords]; rfl), by simpa using hrest⟩

theorem Reads.of_append (h : Reads (before ++ lines) []) : Reads lines [] := by
  induction before with
  | nil => exact h
  | cons l before ih => exact ih h.cons_nil.2

theorem Reads.passed_or_statement (h : Reads lines []) (hl : l ∈ lines) :
    IsPassed l.2 ∨ (Text.words l.2).head? = some "statement" := by
  obtain ⟨before, behind, rfl⟩ := List.append_of_mem hl
  exact h.of_append.cons_nil.1

theorem words_of_isSeparator {line : String} (h : isSeparator line = true) :
    Text.words line = ["----"] := by
  rw [← Text.words_trimmed, eq_of_beq h]
  decide

/-- A separator among some lines is read as a directive that there is not, if no query takes it. -/
theorem Reads.not_mem_separator (h : Reads lines []) (hl : l ∈ lines) :
    isSeparator l.2 = false := by
  rw [← Bool.not_eq_true]
  intro hseparator
  have hwords := words_of_isSeparator hseparator
  rcases h.passed_or_statement hl with hpassed | hstatement
  · have hnumber : "----".startsWith "#" = true := hpassed _ (by rw [hwords]; rfl)
    have hhyphens : "----".startsWith "#" = false := by decide +kernel
    rw [hhyphens] at hnumber
    cases hnumber
  · rw [hwords] at hstatement
    exact absurd hstatement (by decide)

end Nothing

/-! ## Records that end at a blank line -/

/-- A record that begins with `directive` is at its end at the first blank line of those behind its
first one. A statement needs a text, a query must not have a blank line before its separator, and no
record may stand behind the blank line if the record ends its file. -/
def EndsAtBlank (directive : String) (lines : Lines) : Prop :=
  match directive with
  | "statement" => (block lines).1 ≠ []
  | "query" => ∀ l ∈ lines.takeWhile fun l => !isSeparator l.2, Text.isBlankLine l.2 = false
  | "halt" => Reads (block lines).2 []
  | _ => True

theorem endsAtBlank_query {lines : Lines} : EndsAtBlank "query" lines ↔
    ∀ l ∈ lines.takeWhile fun l => !isSeparator l.2, Text.isBlankLine l.2 = false :=
  Iff.rfl

/-- A query with a blank line before its separator leaves the separator behind that line. -/
theorem reads_behind_query {lines behind : Lines} {query : List String}
    (h : untilSeparator? lines = some (query, behind)) (hbehind : Reads (block behind).2 []) :
    Reads (block lines).2 [] ↔ EndsAtBlank "query" lines := by
  rw [endsAtBlank_query]
  unfold untilSeparator? at h
  split at h
  · cases h
  · next separator rest hdrop =>
    obtain ⟨-, rfl⟩ : _ ∧ rest = behind := by simpa using h
    have hseparator : isSeparator separator.2 = true := by
      simpa using head?_dropWhile (fun l : Nat × String => !isSeparator l.2) lines separator
        (by simp [hdrop])
    have hblank : Text.isBlankLine separator.2 = false :=
      Text.isBlankLine_of_words (words_of_isSeparator hseparator)
    have hsplit : (block lines).2 = ((lines.takeWhile fun l => !isSeparator l.2) ++
        separator :: rest).dropWhile fun l => !Text.isBlankLine l.2 := by
      rw [← hdrop, List.takeWhile_append_dropWhile, block]
    generalize (lines.takeWhile fun l => !isSeparator l.2) = front at hsplit ⊢
    rw [hsplit, List.dropWhile_append]
    split_ifs with hempty
    · -- no line of the query is blank, and so the block goes on to the expected columns
      have hfront : ∀ l ∈ front, Text.isBlankLine l.2 = false := by
        simpa [List.dropWhile_eq_nil_iff] using hempty
      refine iff_of_true ?_ hfront
      rw [List.dropWhile_cons_of_pos (by simp [hblank])]
      exact hbehind
    · refine iff_of_false (fun hreads => ?_) fun hfront => hempty ?_
      · have hmem : separator ∈ (front.dropWhile fun l => !Text.isBlankLine l.2) ++
            separator :: rest := by simp
        rw [hreads.not_mem_separator hmem] at hseparator
        cases hseparator
      · simpa [List.dropWhile_eq_nil_iff] using hfront

section One

variable {directive : String} {words : List String} {rest rest' : Lines} {record : Option Record}

/-- **Nothing is left of a record that ends at a blank line**, if it is the only one. -/
theorem reads_behind_iff (hone : readOne directive words rest = .ok (record, rest'))
    {others : List Record} (hothers : Reads rest' others) {only : Record}
    (honly : record.toList ++ others = [only]) :
    Reads (block rest).2 [] ↔ EndsAtBlank directive rest := by
  have hnothing {r : Record} (hr : record = some r) : Reads rest' [] := by
    subst hr
    obtain ⟨-, rfl⟩ : r = only ∧ others = [] := by simpa using honly
    exact hothers
  unfold readOne at hone
  unfold EndsAtBlank
  split at hone
  · obtain ⟨error, -, hone⟩ := bind_eq_ok.mp hone
    obtain ⟨hrecord, rfl⟩ := Prod.mk.inj (pure_eq_ok.mp hone)
    split_ifs at hrecord with hempty
    · -- the statement has no text, and the only record stands behind it
      subst hrecord
      refine iff_of_false (fun hreads => ?_) fun htext => htext (List.isEmpty_iff.mp hempty)
      have hnone := hothers.unique hreads
      rw [hnone] at honly
      cases honly
    · exact iff_of_true (hnothing hrecord.symm) fun htext => hempty (List.isEmpty_iff.mpr htext)
  · split at hone
    · cases hone
    · rename_i query behind hquery
      obtain ⟨hrecord, rfl⟩ := Prod.mk.inj (pure_eq_ok.mp hone)
      exact reads_behind_query hquery (hnothing hrecord.symm)
  · obtain ⟨rfl, setting, value, hset⟩ := readOne_set hone
    have hsplit : rest' = rest'.takeWhile (fun l => !Text.isBlankLine l.2) ++ (block rest').2 :=
      List.takeWhile_append_dropWhile.symm
    exact iff_of_true (Reads.of_append (hsplit ▸ hnothing hset)) trivial
  · exact Iff.rfl
  · obtain ⟨hrecord, rfl⟩ := Prod.mk.inj (pure_eq_ok.mp hone)
    exact iff_of_true (hnothing hrecord.symm) trivial
  · obtain ⟨hrecord, rfl⟩ := Prod.mk.inj (pure_eq_ok.mp hone)
    exact iff_of_true (hnothing hrecord.symm) trivial
  · cases hone

end One

/-! ## Skipping -/

/-- A line that skips what follows takes the lines up to a blank one. -/
theorem reads_skip_iff {keyword line skipped : String} {words : List String} {number next : Nat}
    {rest : Lines} (hkeyword : keyword = "skipif" ∨ keyword = "onlyif")
    (hwords : Text.words line = keyword :: words) (hskipped : Text.isBlankLine skipped = false) :
    Reads ((number, line) :: (next, skipped) :: rest) [.skip] ↔ Reads (block rest).2 [] := by
  have hone : readOne keyword words ((next, skipped) :: rest) =
      .ok (some .skip, (block rest).2) := by
    have hblock : (block ((next, skipped) :: rest)).2 = (block rest).2 := by
      simp [block, hskipped]
    rw [← hblock]
    rcases hkeyword with rfl | rfl
    · rfl
    · rfl
  have hdirective : keyword.startsWith "#" = false := by
    rcases hkeyword with rfl | rfl
    · decide +kernel
    · decide +kernel
  rw [reads_record_iff hwords hdirective]
  constructor
  · rintro ⟨record, rest', others, hfound, hothers, hrecords⟩
    obtain ⟨rfl, rfl⟩ := Prod.mk.inj (Except.ok.inj (hone.symm.trans hfound))
    obtain rfl : others = [] := by simpa using hrecords.symm
    exact hothers
  · intro hothers
    exact ⟨_, _, _, hone, hothers, rfl⟩

theorem words_skip {keyword : String} (h : keyword = "skipif" ∨ keyword = "onlyif")
    (word : String) : Text.words (keyword ++ " " ++ word) = keyword :: Text.words word := by
  have hwords : Text.wordsFrom [] keyword.toList = [keyword.toList] := by
    rcases h with rfl | rfl
    · decide
    · decide
  have hlist : (keyword ++ " " ++ word).toList = keyword.toList ++ ' ' :: word.toList := by
    simp
  rw [Text.words, hlist, Text.wordsFrom_append _ _ _ rfl, hwords, Text.words, List.map_append]
  simp

end Record

open Record in
/-- **A record that is skipped.** A text that begins with a directive and holds one record is
skipped by a line in front of it exactly if that record ends at the first blank line. -/
theorem readAll_skip_iff {text line directive : String} {words : List String} {rest : Lines}
    {record : Record} (hread : readAll text = .ok [record])
    (hlines : Text.lines text = line :: rest.map (·.2))
    (hwords : Text.words line = directive :: words) (hdirective : directive.startsWith "#" = false)
    {keyword : String} (hkeyword : keyword = "skipif" ∨ keyword = "onlyif") {word : String}
    (hword : '\n' ∉ word.toList) :
    readAll (keyword ++ " " ++ word ++ "\n" ++ text) = .ok [.skip] ↔
      EndsAtBlank directive rest := by
  have hone : Reads ((0, line) :: rest) [record] := (readAll_eq_ok_iff (by simp [hlines])).mp hread
  rw [reads_record_iff hwords hdirective] at hone
  obtain ⟨found, rest', others, hone, hothers, honly⟩ := hone
  rw [← reads_behind_iff hone hothers honly.symm]
  have hline : '\n' ∉ (keyword ++ " " ++ word).toList := by
    have hnone : '\n' ∉ (keyword ++ " ").toList := by
      rcases hkeyword with rfl | rfl
      · decide
      · decide
    rw [String.toList_append, List.mem_append, not_or]
    exact ⟨hnone, hword⟩
  have hall := Text.lines_cons hline text
  rw [hlines] at hall
  have hskip : readAll (keyword ++ " " ++ word ++ "\n" ++ text) = .ok [.skip] ↔
      Reads ((0, _) :: (0, line) :: rest) [.skip] := readAll_eq_ok_iff hall.symm
  rw [hskip]
  exact reads_skip_iff hkeyword ((Text.words_dropReturn _).trans (words_skip hkeyword word))
    (Text.isBlankLine_of_words hwords)

/-- A query without a blank line is skipped with its columns. -/
theorem readAll_skip_query :
    let text := "query rowsort\nSELECT a\nFROM t\n----\na\n"
    Record.readAll text = .ok [.query "SELECT a\nFROM t" ["a"] true] ∧
      Record.readAll ("onlyif" ++ " " ++ "other" ++ "\n" ++ text) = .ok [.skip] := by
  intro text
  have hread : Record.readAll text = .ok [.query "SELECT a\nFROM t" ["a"] true] := by
    decide +kernel
  let rest : Record.Lines := [(2, "SELECT a"), (3, "FROM t"), (4, "----"), (5, "a")]
  have hends : Record.EndsAtBlank "query" rest :=
    Record.endsAtBlank_query.mpr (by decide +kernel)
  have hlines : Text.lines text = "query rowsort" :: rest.map (·.2) := by decide +kernel
  have hwords : Text.words "query rowsort" = ["query", "rowsort"] := by decide +kernel
  exact ⟨hread, (readAll_skip_iff hread hlines hwords (by decide +kernel) (.inr rfl)
    (by decide)).mpr hends⟩

/-- Of a query with a blank line only the lines before it are skipped, and the next is taken for a
directive. -/
theorem not_readAll_skip_query :
    let text := "query\nSELECT a\n\nFROM t\n----\na\n"
    Record.readAll text = .ok [.query "SELECT a\nFROM t" ["a"] false] ∧
      Record.readAll ("skipif" ++ " " ++ "other" ++ "\n" ++ text) =
        .error ⟨5, .unknownDirective "FROM"⟩ ∧
      Record.readAll ("skipif" ++ " " ++ "other" ++ "\n" ++ text) ≠ .ok [.skip] := by
  decide +kernel

end SqlNormal
