import SqlNormal.Proofs.Skipping

/-!
# Record files as they are written

A record takes the lines that it was written with, whatever stands behind them. So a file is read
one record at a time, and what is read of its front says with which number the next line is read.

* `Text.unlines`, `Text.lines_unlines`: lines of a file;
* `Record.Written`: the lines of a record; `Record.Entry.Holds`: a record with the lines before it;
* `Record.Leads`: the records that are read in front of whatever follows, a congruence;
* `Record.leads_written`: a record with its lines;
* **`readAll_written`**: a file that is written record by record.
-/

namespace SqlNormal

/-! ## Lines of a file -/

namespace Text

/-- A line is plain: one line, and without a carriage return at its end. -/
def IsPlain (line : String) : Prop :=
  '\n' ∉ line.toList ∧ line.toList.getLast? ≠ some '\r'

instance (line : String) : Decidable (IsPlain line) :=
  inferInstanceAs (Decidable (_ ∧ _))

/-- The text of lines, each of which is ended. -/
def unlines : List String → String
  | [] => ""
  | l :: ls => l ++ "\n" ++ unlines ls

theorem dropReturn_eq_self {cs : List Char} (h : cs.getLast? ≠ some '\r') : dropReturn cs = cs := by
  rcases dropReturn_cases cs with hcs | hcs
  · exact hcs
  · rw [hcs] at h
    exact absurd List.getLast?_concat h

theorem lines_unlines {ls : List String} (h : ∀ l ∈ ls, IsPlain l) : lines (unlines ls) = ls := by
  induction ls with
  | nil => rfl
  | cons l ls ih =>
    obtain ⟨⟨hend, hreturn⟩, hrest⟩ := List.forall_mem_cons.mp h
    rw [unlines, lines_cons hend, dropReturn_eq_self hreturn, ih hrest, String.ofList_toList]

end Text

/-! ## Written records -/

/-- The word of a setting. -/
def Setting.word : Setting → String
  | user => "user"
  | database => "database"
  | schema => "schema"
  | depth => "depth"

namespace Record

/-- The words that a record may begin with. -/
def directives : List String :=
  ["statement", "query", "set", "halt", "skipif", "onlyif"]

/-- The line belongs to the text of a query. -/
def IsQueryLine (line : String) : Prop :=
  Text.isBlankLine line = false ∧ isSeparator line = false

/-- The line belongs to what is expected of a query: it is not blank, nor are its ends. -/
def IsExpected (line : String) : Prop :=
  Text.isBlankLine line = false ∧ Text.trimmed line = line

instance (line : String) : Decidable (IsPassed line) :=
  inferInstanceAs (Decidable (∀ directive ∈ _, _))

instance (line : String) : Decidable (IsQueryLine line) :=
  inferInstanceAs (Decidable (_ ∧ _))

instance (line : String) : Decidable (IsExpected line) :=
  inferInstanceAs (Decidable (_ ∧ _))

/-- A record, its first line and the lines behind that. -/
inductive Written : Record → String → List String → Prop
  | statement {line sql blank expectsError} :
      Text.words line = ["statement", if expectsError then "error" else "ok"] → sql ≠ [] →
      (∀ l ∈ sql, Text.isBlankLine l = false) → Text.isBlankLine blank = true →
      Written (.statement (joinLines sql) expectsError) line (sql ++ [blank])
  | query {line sql separator expected blank sorted} :
      Text.words line = "query" :: (if sorted then ["rowsort"] else []) →
      (∀ l ∈ sql, IsQueryLine l) → isSeparator separator = true →
      (∀ l ∈ expected, IsExpected l) → Text.isBlankLine blank = true →
      Written (.query (joinLines sql) expected sorted) line
        (sql ++ separator :: expected ++ [blank])
  | set {line setting value} :
      Text.words line = "set" :: Setting.word setting :: Text.words value → value ≠ "" →
      " ".intercalate (Text.words value) = value → Written (.set setting value) line []
  | halt {line} : Text.words line = ["halt"] → Written .halt line []
  | skip {line keyword word lines blank} :
      Text.words line = [keyword, word] → keyword = "skipif" ∨ keyword = "onlyif" →
      (∀ l ∈ lines, Text.isBlankLine l = false) → Text.isBlankLine blank = true →
      Written .skip line (lines ++ [blank])

/-- The lines of a record in a file: those that stand before it, its first and the others. -/
structure Entry where
  gap : List String
  line : String
  body : List String

/-- All lines of an entry. -/
def Entry.lines (e : Entry) : List String :=
  e.gap ++ e.line :: e.body

/-- The entry holds the record. -/
structure Entry.Holds (e : Entry) (record : Record) : Prop where
  gap : ∀ l ∈ e.gap, IsPassed l
  written : Written record e.line e.body

/-- The lines of a file. -/
def fileLines (entries : List Entry) (after : List String) : List String :=
  entries.flatMap Entry.lines ++ after

/-! ## Numbered lines -/

/-- Lines with their numbers, the first of which is `n`. -/
def numbered (n : Nat) : List String → Lines
  | [] => []
  | l :: ls => (n, l) :: numbered (n + 1) ls

theorem zip_range' (n : Nat) (ls : List String) :
    (List.range' n ls.length).zip ls = numbered n ls := by
  induction ls generalizing n with
  | nil => rfl
  | cons l ls ih => rw [List.length_cons, List.range'_succ, List.zip_cons_cons, ih, numbered]

theorem numbered_append (n : Nat) (ls more : List String) :
    numbered n (ls ++ more) = numbered n ls ++ numbered (n + ls.length) more := by
  induction ls generalizing n with
  | nil => rfl
  | cons l ls ih =>
    rw [List.cons_append, numbered, ih, numbered, List.cons_append, List.length_cons,
      Nat.add_assoc, Nat.add_comm 1]

theorem map_numbered (n : Nat) (ls : List String) : (numbered n ls).map (·.2) = ls := by
  induction ls generalizing n with
  | nil => rfl
  | cons l ls ih => rw [numbered, List.map_cons, ih]

theorem mem_of_mem_numbered {n : Nat} {ls : List String} {l : Nat × String}
    (h : l ∈ numbered n ls) : l.2 ∈ ls := by
  rw [← map_numbered n ls]
  exact List.mem_map_of_mem h

section Stops

variable {p : String → Bool} {ls : List String} {stop : String}

/-- Lines up to the first that stops them. -/
theorem takeWhile_numbered (hls : ∀ l ∈ ls, p l = false) (hstop : p stop = true) (n : Nat)
    (more : List String) :
    (numbered n (ls ++ stop :: more)).takeWhile (fun l => !p l.2) = numbered n ls ∧
      (numbered n (ls ++ stop :: more)).dropWhile (fun l => !p l.2) =
        numbered (n + ls.length) (stop :: more) := by
  have hfront : ∀ l ∈ numbered n ls, (!p l.2) = true := fun l hl => by
    simp [hls _ (mem_of_mem_numbered hl)]
  rw [numbered_append, List.takeWhile_append_of_pos hfront, List.dropWhile_append_of_pos hfront]
  simp [numbered, hstop]

end Stops

theorem block_numbered {ls : List String} {blank : String}
    (hls : ∀ l ∈ ls, Text.isBlankLine l = false) (hblank : Text.isBlankLine blank = true) (n : Nat)
    (more : List String) : block (numbered n (ls ++ blank :: more)) =
      (ls, numbered (n + ls.length) (blank :: more)) := by
  obtain ⟨hfront, hbehind⟩ := takeWhile_numbered hls hblank n more
  rw [block, hfront, hbehind, map_numbered]

theorem untilSeparator?_numbered {ls : List String} {separator : String}
    (hls : ∀ l ∈ ls, IsQueryLine l) (hseparator : isSeparator separator = true) (n : Nat)
    (more : List String) : untilSeparator? (numbered n (ls ++ separator :: more)) =
      some (ls, numbered (n + ls.length + 1) more) := by
  obtain ⟨hfront, hbehind⟩ := takeWhile_numbered (fun l hl => (hls l hl).2) hseparator n more
  have hall : ls.filter (!Text.isBlankLine ·) = ls :=
    List.filter_eq_self.mpr fun l hl => by simp [(hls l hl).1]
  rw [untilSeparator?, hfront, hbehind, map_numbered, numbered]
  simp only [hall]

/-! ## Reading -/

/-- In front of whatever follows, these records are read of the lines, and what follows is read with
the numbers behind theirs. Fuel may be left over. -/
def Leads (front : List String) (records : List Record) : Prop :=
  ∀ fuel n more, (front ++ more).length ≤ fuel → ∃ fuel', more.length ≤ fuel' ∧
    readLines fuel (numbered n (front ++ more)) =
      (readLines fuel' (numbered (n + front.length) more)).map (records ++ ·)

theorem leads_nil : Leads [] [] := by
  intro fuel n more hfuel
  refine ⟨fuel, hfuel, ?_⟩
  rw [List.nil_append, List.length_nil, Nat.add_zero]
  cases readLines fuel (numbered n more) <;> rfl

theorem Leads.append {front front' : List String} {records records' : List Record}
    (h : Leads front records) (h' : Leads front' records') :
    Leads (front ++ front') (records ++ records') := by
  intro fuel n more hfuel
  rw [List.append_assoc] at hfuel ⊢
  obtain ⟨middle, hmiddle, hfirst⟩ := h fuel n (front' ++ more) hfuel
  obtain ⟨last, hlast, hsecond⟩ := h' middle (n + front.length) more hmiddle
  refine ⟨last, hlast, ?_⟩
  rw [hfirst, hsecond, List.length_append, Nat.add_assoc]
  cases readLines last (numbered (n + (front.length + front'.length)) more) <;>
    simp [Except.map]

theorem leads_passed {line : String} (h : IsPassed line) : Leads [line] [] := by
  intro fuel n more hfuel
  obtain ⟨fuel, rfl⟩ : ∃ f, fuel = f + 1 := ⟨fuel - 1, by simp at hfuel; omega⟩
  have hmore : more.length ≤ fuel := by simpa using hfuel
  refine ⟨fuel, hmore, ?_⟩
  have hread : readLines (fuel + 1) (numbered n ([line] ++ more)) =
      readLines fuel (numbered (n + 1) more) := by
    rw [List.singleton_append, numbered, readLines]
    split
    · rfl
    · next directive words hwords =>
      rw [if_pos (h directive (by rw [hwords]; rfl))]
  rw [hread]
  cases readLines fuel (numbered (n + 1) more) <;> rfl

theorem leads_gap {gap : List String} (h : ∀ l ∈ gap, IsPassed l) : Leads gap [] := by
  induction gap with
  | nil => exact leads_nil
  | cons l gap ih =>
    obtain ⟨hl, hrest⟩ := List.forall_mem_cons.mp h
    exact (leads_passed hl).append (ih hrest)

section One

variable {line directive : String} {words : List String} {record : Record}

theorem readLines_record (hwords : Text.words line = directive :: words)
    (hdirective : directive.startsWith "#" = false) {rest rest' : Lines} {found : Option Record}
    (hone : readOne directive words rest = .ok (found, rest')) (fuel n : Nat) :
    readLines (fuel + 1) ((n, line) :: rest) =
      (readLines fuel rest').map (found.toList ++ ·) := by
  rw [readLines, hwords]
  simp only [hdirective, hone]
  cases readLines fuel rest' <;> rfl

/-- A record that leaves only lines that are passed. -/
theorem leads_record {body left : List String} (hwords : Text.words line = directive :: words)
    (hdirective : directive.startsWith "#" = false) (hleft : ∀ l ∈ left, IsPassed l)
    (hone : ∀ n more, readOne directive words (numbered n (body ++ (left ++ more))) =
      .ok (some record, numbered (n + body.length) (left ++ more))) :
    Leads (line :: (body ++ left)) [record] := by
  intro fuel n more hfuel
  obtain ⟨fuel, rfl⟩ : ∃ f, fuel = f + 1 := ⟨fuel - 1, by simp at hfuel; omega⟩
  have hlength : (left ++ more).length ≤ fuel := by
    simp only [List.cons_append, List.length_cons, List.length_append] at hfuel ⊢
    omega
  obtain ⟨last, hlast, hread⟩ := leads_gap hleft fuel (n + 1 + body.length) more hlength
  refine ⟨last, hlast, ?_⟩
  have hnumber : n + (line :: (body ++ left)).length = n + 1 + body.length + left.length := by
    simp only [List.length_cons, List.length_append]
    omega
  rw [List.cons_append, List.append_assoc, numbered,
    readLines_record hwords hdirective (hone (n + 1) more), hread, hnumber]
  cases readLines last (numbered (n + 1 + body.length + left.length) more) <;> rfl

end One

theorem isPassed_of_blank {line : String} (h : Text.isBlankLine line = true) : IsPassed line := by
  have hwords : Text.words line = [] := by rw [Text.words, Text.wordsFrom_blank h]; rfl
  simp [IsPassed, hwords]

theorem setting?_word (setting : Setting) : setting? (some setting.word) = .ok setting := by
  cases setting <;> rfl

/-- **A record takes its lines.** -/
theorem leads_written {record : Record} {line : String} {body : List String}
    (h : Written record line body) (hhalt : record ≠ .halt) : Leads (line :: body) [record] := by
  cases h with
  | @statement _ sql blank expectsError hwords hsql hlines hblank =>
    refine leads_record hwords (by decide +kernel)
      (List.forall_mem_singleton.mpr (isPassed_of_blank hblank)) fun n more => ?_
    have hexpects : expectsError? (some (if expectsError then "error" else "ok")) =
        .ok expectsError := by
      cases expectsError <;> rfl
    have htext : sql.isEmpty = false := by simpa using hsql
    simp only [readOne, List.head?_cons, hexpects, List.singleton_append,
      block_numbered hlines hblank, htext]
    rfl
  | @query _ sql separator expected blank sorted hwords hsql hseparator hexpected hblank =>
    refine leads_record hwords (by decide +kernel)
      (List.forall_mem_singleton.mpr (isPassed_of_blank hblank)) fun n more => ?_
    have hsorted : ((if sorted then ["rowsort"] else []).head? == some "rowsort") = sorted := by
      cases sorted <;> rfl
    have hlines : ∀ l ∈ expected, Text.isBlankLine l = false := fun l hl => (hexpected l hl).1
    have htrimmed : expected.map Text.trimmed = expected :=
      (List.map_congr_left fun l hl => (hexpected l hl).2).trans (List.map_id _)
    have hlength : n + (sql ++ separator :: expected).length =
        n + sql.length + 1 + expected.length := by
      simp only [List.length_append, List.length_cons]
      omega
    rw [List.append_assoc, List.cons_append, hlength]
    simp only [readOne, hsorted, List.singleton_append, untilSeparator?_numbered hsql hseparator,
      block_numbered hlines hblank, htrimmed]
    rfl
  | @set _ setting value hwords hvalue hjoined =>
    have hset : Leads (line :: ([] ++ [])) [.set setting value] := by
      refine leads_record hwords (by decide +kernel) (List.forall_mem_nil _) fun n more => ?_
      have hnonempty : value.isEmpty = false := by simpa using hvalue
      simp only [readOne, List.head?_cons, setting?_word, List.drop_one, List.tail_cons, hjoined,
        hnonempty]
      rfl
    exact hset
  | halt _ => exact absurd rfl hhalt
  | @skip _ keyword word lines blank hwords hkeyword hlines hblank =>
    have hdirective : keyword.startsWith "#" = false := by
      rcases hkeyword with rfl | rfl
      · decide +kernel
      · decide +kernel
    refine leads_record hwords hdirective
      (List.forall_mem_singleton.mpr (isPassed_of_blank hblank)) fun n more => ?_
    have hblock := block_numbered hlines hblank n more
    rcases hkeyword with rfl | rfl
    · simp only [readOne, List.singleton_append, hblock]
      rfl
    · simp only [readOne, List.singleton_append, hblock]
      rfl

/-! ## Files -/

section File

variable {entries : List Entry} {records : List Record} {after : List String}

theorem leads_entry {e : Entry} {record : Record} (h : e.Holds record) (hhalt : record ≠ .halt) :
    Leads e.lines [record] :=
  (leads_gap h.gap).append (leads_written h.written hhalt)

theorem leads_entries (h : List.Forall₂ Entry.Holds entries records) (hhalt : .halt ∉ records) :
    Leads (entries.flatMap Entry.lines) records := by
  induction h with
  | nil => exact leads_nil
  | @cons e record entries records h _ ih =>
    rw [List.mem_cons, not_or] at hhalt
    exact (leads_entry h (Ne.symm hhalt.1)).append (ih hhalt.2)

/-- Nothing behind a record that ends its file is read. -/
theorem readLines_halt {e : Entry} (h : e.Holds .halt) {fuel n : Nat} {more : List String}
    (hfuel : (e.lines ++ more).length ≤ fuel) :
    readLines fuel (numbered n (e.lines ++ more)) = .ok [.halt] := by
  have hlines : e.lines ++ more = e.gap ++ (e.line :: (e.body ++ more)) := by
    simp [Entry.lines]
  rw [hlines] at hfuel ⊢
  obtain ⟨last, hlast, hread⟩ := leads_gap h.gap fuel n _ hfuel
  obtain ⟨last, rfl⟩ : ∃ f, last = f + 1 := ⟨last - 1, by simp at hlast; omega⟩
  have hwords : Text.words e.line = ["halt"] := by
    obtain ⟨gap, line, body⟩ := e
    cases h.written with
    | halt hwords => exact hwords
  rw [hread, numbered, readLines_record hwords (by decide +kernel) rfl]
  cases last <;> rfl

theorem readLines_file (h : List.Forall₂ Entry.Holds entries records)
    (hhalt : .halt ∉ records.dropLast) (hafter : ∀ l ∈ after, IsPassed l) {fuel n : Nat}
    (hfuel : (fileLines entries after).length ≤ fuel) :
    readLines fuel (numbered n (fileLines entries after)) = .ok records := by
  induction h generalizing fuel n with
  | nil =>
    obtain ⟨last, -, hread⟩ := leads_gap hafter fuel n [] (by simpa [fileLines] using hfuel)
    rw [List.append_nil] at hread
    rw [fileLines, List.flatMap_nil, List.nil_append, hread]
    cases last <;> rfl
  | @cons e record entries records h hrest ih =>
    have hlines : fileLines (e :: entries) after = e.lines ++ fileLines entries after := by
      simp [fileLines]
    rw [hlines] at hfuel ⊢
    by_cases hrecord : record = .halt
    · subst hrecord
      obtain rfl : records = [] := by
        cases records with
        | nil => rfl
        | cons r records => exact absurd List.mem_cons_self hhalt
      exact readLines_halt h hfuel
    · obtain ⟨last, hlast, hread⟩ := leads_entry h hrecord fuel n _ hfuel
      have hothers : .halt ∉ records.dropLast := by
        intro hmem
        cases records with
        | nil => cases hmem
        | cons r records => exact hhalt (List.mem_cons_of_mem _ hmem)
      rw [hread, ih hothers hlast]
      rfl

/-- Another first line of an entry leaves the other lines of the file. -/
theorem mem_of_mem_replaced {front back : List Entry} {e : Entry} {line l : String}
    (h : l ∈ fileLines (front ++ { e with line := line } :: back) after) :
    l = line ∨ l ∈ fileLines (front ++ e :: back) after := by
  simp only [fileLines, Entry.lines, List.flatMap_append, List.flatMap_cons, List.mem_append,
    List.mem_cons] at h ⊢
  tauto

/-- What is read in front of an entry: at most the last record ends its file. -/
theorem leads_front {front back : List Entry} {e : Entry}
    (h : List.Forall₂ Entry.Holds (front ++ e :: back) records)
    (hhalt : .halt ∉ records.dropLast) :
    ∃ first, Leads (front.flatMap Entry.lines ++ e.gap) first := by
  have hfront : List.Forall₂ Entry.Holds front (records.take front.length) := by
    simpa using List.forall₂_take front.length h
  have hbehind : List.Forall₂ Entry.Holds (e :: back) (records.drop front.length) := by
    simpa using List.forall₂_drop front.length h
  obtain ⟨record, -, he, -, -⟩ := List.forall₂_cons_left_iff.mp hbehind
  have hfirst : .halt ∉ records.take front.length := by
    have hlength : front.length ≤ records.length - 1 := by
      have := h.length_eq
      simp only [List.length_append, List.length_cons] at this
      omega
    rw [List.dropLast_eq_take] at hhalt
    exact fun hmem => hhalt (List.take_subset_take_left records hlength hmem)
  exact ⟨_, (leads_entries hfront hfirst).append (leads_gap he.gap)⟩

/-- A line that begins with no word of a record is refused with its number. -/
theorem readLines_unknown {front : List String} (h : Leads front records) {line w : String}
    {ws more : List String} (hwords : Text.words line = w :: ws) (hw : w ∉ directives)
    (hcomment : w.startsWith "#" = false) {fuel n : Nat}
    (hfuel : (front ++ line :: more).length ≤ fuel) :
    readLines fuel (numbered n (front ++ line :: more)) =
      .error ⟨n + front.length, .unknownDirective w⟩ := by
  obtain ⟨last, hlast, hread⟩ := h fuel n (line :: more) hfuel
  obtain ⟨last, rfl⟩ : ∃ f, last = f + 1 := ⟨last - 1, by simp at hlast; omega⟩
  have hone (rest : Lines) : readOne w ws rest = .error (.unknownDirective w) := by
    unfold readOne
    split <;> first | rfl | simp [directives] at hw
  rw [hread, numbered, readLines, hwords]
  simp only [hcomment, hone]
  rfl

end File

theorem readAll_unlines {ls : List String} (h : ∀ l ∈ ls, Text.IsPlain l) :
    readAll (Text.unlines ls) = readLines ls.length (numbered 1 ls) := by
  rw [readAll, Text.lines_unlines h, zip_range']

end Record

open Record in
/-- **A file that is written record by record** is read as its records, if a record that ends the
file is the last one. If the first word of one of the records is replaced by one that no record
begins with and that does not make a comment, the file is refused with the number of that line. -/
theorem readAll_written {entries : List Entry} {records : List Record} {after : List String}
    (h : List.Forall₂ Entry.Holds entries records) (hhalt : .halt ∉ records.dropLast)
    (hafter : ∀ l ∈ after, IsPassed l) (hplain : ∀ l ∈ fileLines entries after, Text.IsPlain l) :
    readAll (Text.unlines (fileLines entries after)) = .ok records ∧
    ∀ front e back line w ws, entries = front ++ e :: back → Text.IsPlain line →
      Text.words line = w :: ws → w ∉ directives → w.startsWith "#" = false →
      readAll (Text.unlines (fileLines (front ++ { e with line := line } :: back) after)) =
        .error ⟨(front.flatMap Entry.lines).length + e.gap.length + 1, .unknownDirective w⟩ := by
  refine ⟨?_, fun front e back line w ws hentries hline hwords hw hcomment => ?_⟩
  · rw [readAll_unlines hplain]
    exact readLines_file h hhalt hafter le_rfl
  · subst hentries
    have hlines : fileLines (front ++ { e with line := line } :: back) after =
        (front.flatMap Entry.lines ++ e.gap) ++ line :: (e.body ++ fileLines back after) := by
      simp [fileLines, Entry.lines]
    have hplain' : ∀ l ∈ fileLines (front ++ { e with line := line } :: back) after,
        Text.IsPlain l := by
      intro l hl
      rcases mem_of_mem_replaced hl with rfl | hl
      · exact hline
      · exact hplain l hl
    obtain ⟨first, hfirst⟩ := leads_front h hhalt
    rw [readAll_unlines hplain', hlines, readLines_unknown hfirst hwords hw hcomment le_rfl,
      List.length_append, Nat.add_comm 1]

/-- A setting, a query, a record that is skipped and one that ends the file. -/
def adaEntries : List Record.Entry :=
  [⟨["# users", ""], "set user ada lovelace", []⟩,
    ⟨[], "query rowsort", ["SELECT a,", "  b FROM t", " ----", "b", "a", ""]⟩,
    ⟨["  "], "skipif other", ["query", "SELECT", " "]⟩, ⟨[], "halt", []⟩]

/-- The file is read, and it is refused with another word in front of the query. -/
theorem readAll_written_ada :
    Record.readAll (Text.unlines (Record.fileLines adaEntries ["# end"])) =
      .ok [.set .user "ada lovelace", .query "SELECT a,\n  b FROM t" ["b", "a"] true, .skip,
        .halt] ∧
    Record.readAll (Text.unlines (Record.fileLines
        (adaEntries.take 1 ++ { adaEntries[1] with line := "select rowsort" } :: adaEntries.drop 2)
        ["# end"])) =
      .error ⟨4, .unknownDirective "select"⟩ := by
  have hset : Record.Written (.set .user "ada lovelace") "set user ada lovelace" [] :=
    .set (by decide +kernel) (by decide) (by decide +kernel)
  have hquery : Record.Written (.query "SELECT a,\n  b FROM t" ["b", "a"] true) "query rowsort"
      ["SELECT a,", "  b FROM t", " ----", "b", "a", ""] :=
    @Record.Written.query "query rowsort" ["SELECT a,", "  b FROM t"] " ----" ["b", "a"] "" true
      (by decide +kernel) (by decide +kernel) (by decide +kernel) (by decide +kernel) rfl
  have hskip : Record.Written .skip "skipif other" (["query", "SELECT"] ++ [" "]) :=
    @Record.Written.skip "skipif other" "skipif" "other" ["query", "SELECT"] " "
      (by decide +kernel) (.inl rfl) (by decide +kernel) (by decide +kernel)
  have hhalt : Record.Written .halt "halt" [] := .halt (by decide +kernel)
  have hentries : List.Forall₂ Record.Entry.Holds adaEntries
      [.set .user "ada lovelace", .query "SELECT a,\n  b FROM t" ["b", "a"] true, .skip, .halt] :=
    .cons ⟨by decide +kernel, hset⟩ (.cons ⟨nofun, hquery⟩
      (.cons ⟨by decide +kernel, hskip⟩ (.cons ⟨nofun, hhalt⟩ .nil)))
  have hafter : ∀ l ∈ ["# end"], Record.IsPassed l := by decide +kernel
  obtain ⟨hread, hrefused⟩ := readAll_written hentries (by decide) hafter (by decide +kernel)
  exact ⟨hread, hrefused _ _ _ "select rowsort" "select" ["rowsort"] rfl (by decide +kernel)
    (by decide +kernel) (by decide) (by decide +kernel)⟩

end SqlNormal
