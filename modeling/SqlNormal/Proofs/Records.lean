import Mathlib
import SqlNormal.Proofs.Room
import SqlNormal.Records.Run

/-!
# Record files put together

A record takes lines from the front of a file and looks at one more at most. So the records of two
files with a blank line between them are those of the first and then those of the second, and
nothing behind a record that ends its file is ever looked at.

* `Record.Reads`: the records of some lines, without counting lines;
* `Record.readOne_taken`: the lines that a record takes, whatever stands behind them;
* `Record.Reads.append`, `Record.Reads.halted`: two files, and a file that is ended;
* `Environment.runRecords_append`, `Environment.total_runRecords`: running them;
* `Environment.runRecords_eq_none`: where the program stops over them;
* **`runFile_append`**: files put together.
-/

namespace SqlNormal

/-! ## Lines -/

namespace Text

theorem go_append (line cs ds : List Char) :
    lines.go line (cs ++ '\n' :: ds) = lines.go line (cs ++ ['\n']) ++ lines.go [] ds := by
  induction cs generalizing line with
  | nil => simp [lines.go]
  | cons c cs ih =>
    by_cases hc : c = '\n'
    · subst hc
      simp [lines.go, ih]
    · simp [lines.go, ih]

/-- Lines that are ended stand before those of what follows. -/
theorem lines_append {a : String} (ha : a = "" ∨ ∃ s, a = s ++ "\n") (b : String) :
    lines (a ++ b) = lines a ++ lines b := by
  rcases ha with rfl | ⟨s, rfl⟩
  · simp [lines, lines.go]
  · simp only [lines, String.toList_append]
    have h := go_append [] s.toList b.toList
    simpa using h

/-- An empty line between two texts. -/
theorem lines_blank {a : String} (ha : a = "" ∨ ∃ s, a = s ++ "\n") (b : String) :
    lines (a ++ "\n" ++ b) = lines a ++ "" :: lines b := by
  have hblank : lines ("\n" ++ b) = "" :: lines b := by
    simp only [lines, String.toList_append]
    rfl
  rw [String.append_assoc, lines_append ha, hblank]

end Text

namespace Record

/-! ## Records of lines -/

/-- The line stands between records. -/
def IsPassed (line : String) : Prop :=
  ∀ directive ∈ (Text.words line).head?, directive.startsWith "#"

/-- The records of some lines. -/
inductive Reads : Lines → List Record → Prop
  | done : Reads [] []
  | passed {number line rest records} : IsPassed line → Reads rest records →
      Reads ((number, line) :: rest) records
  | record {number line directive words rest record rest' records} :
      Text.words line = directive :: words → directive.startsWith "#" = false →
      readOne directive words rest = .ok (record, rest') → Reads rest' records →
      Reads ((number, line) :: rest) (record.toList ++ records)

/-! ### What one record takes -/

theorem head?_dropWhile {α : Type} (p : α → Bool) (xs : List α) :
    ∀ x ∈ (xs.dropWhile p).head?, p x = false := by
  intro x hx
  have hstop := List.head?_dropWhile_not p xs
  rw [Option.mem_def.mp hx] at hstop
  exact hstop

/-- The front of a list ends where it did, if what stands behind it does not go on with it. -/
theorem takeWhile_front {α : Type} {p : α → Bool} (xs : List α) {more : List α}
    (hmore : ∀ x ∈ more.head?, p x = false) :
    (xs.takeWhile p ++ more).takeWhile p = xs.takeWhile p ∧
      (xs.takeWhile p ++ more).dropWhile p = more := by
  have hfront : ∀ x ∈ xs.takeWhile p, p x = true := fun x => List.mem_takeWhile_imp
  rw [List.takeWhile_append_of_pos hfront, List.dropWhile_append_of_pos hfront]
  cases more with
  | nil => simp
  | cons x more =>
    have hx : p x = false := hmore x rfl
    simp [hx]

/-- The lines may stand where `rest` stood: they begin as it did or with a blank line. -/
def MayFollow (more rest : Lines) : Prop :=
  ∀ l ∈ more.head?, Text.isBlankLine l.2 ∨ l ∈ rest.head?

theorem block_taken (lines : Lines) : ∃ taken, lines = taken ++ (block lines).2 ∧
    ∀ more, MayFollow more (block lines).2 → block (taken ++ more) = ((block lines).1, more) := by
  refine ⟨lines.takeWhile fun l => !Text.isBlankLine l.2, List.takeWhile_append_dropWhile.symm,
    fun more hmore => ?_⟩
  have hblank (l) (hl : l ∈ more.head?) : (!Text.isBlankLine l.2) = false := by
    rcases hmore l hl with hblank | hhead
    · simp [hblank]
    · exact head?_dropWhile _ lines l hhead
  obtain ⟨hfront, hbehind⟩ := takeWhile_front lines hblank
  simp only [block, hfront, hbehind]

theorem untilSeparator?_taken {lines rest : Lines} {query : List String}
    (h : untilSeparator? lines = some (query, rest)) : ∃ taken, lines = taken ++ rest ∧
      ∀ more, untilSeparator? (taken ++ more) = some (query, more) := by
  unfold untilSeparator? at h
  split at h
  · cases h
  · next separator rest' hdrop =>
    obtain ⟨rfl, rfl⟩ : _ ∧ rest' = rest := by simpa using h
    have hsplit : lines = (lines.takeWhile fun l => !isSeparator l.2) ++ separator :: rest' := by
      rw [← hdrop, List.takeWhile_append_dropWhile]
    have hseparator : (!isSeparator separator.2) = false :=
      head?_dropWhile (fun l : Nat × String => !isSeparator l.2) lines separator (by simp [hdrop])
    refine ⟨(lines.takeWhile fun l => !isSeparator l.2) ++ [separator], by simpa using hsplit,
      fun more => ?_⟩
    have hstop : ∀ l ∈ (separator :: more).head?, (!isSeparator l.2) = false := by
      rintro l ⟨⟩
      exact hseparator
    obtain ⟨hfront, hbehind⟩ := takeWhile_front lines hstop
    rw [List.append_assoc, List.singleton_append, untilSeparator?]
    simp only [hfront, hbehind]

/-- What a record takes: a block of lines, lines up to a separator with a block behind it, no line
at all, or all lines there are. Only the last ends its file. -/
theorem readOne_cases {directive : String} {words : List String} {rest rest' : Lines}
    {record : Option Record} (h : readOne directive words rest = .ok (record, rest')) :
    (∃ f : List String → Option Record, (∀ text, f text ≠ some .halt) ∧ ∀ lines,
      readOne directive words lines = .ok (f (block lines).1, (block lines).2)) ∨
    (∃ f : List String → List String → Option Record, (∀ query text, f query text ≠ some .halt) ∧
      (∀ lines query behind, untilSeparator? lines = some (query, behind) →
        readOne directive words lines = .ok (f query (block behind).1, (block behind).2)) ∧
      (untilSeparator? rest).isSome) ∨
    (∃ r : Option Record, r ≠ some .halt ∧
      ∀ lines, readOne directive words lines = .ok (r, lines)) ∨
    directive = "halt" := by
  unfold readOne at h
  split at h
  · obtain ⟨error, herror, -⟩ := bind_eq_ok.mp h
    refine .inl ⟨fun sql => if sql.isEmpty then none else some (.statement (joinLines sql) error),
      fun sql => by dsimp only; split_ifs <;> simp, fun lines => ?_⟩
    simp only [readOne, herror]
    rfl
  · refine .inr (.inl ⟨fun query expected => some (.query (joinLines query)
      (expected.map Text.trimmed) (words.head? == some "rowsort")), by simp, ?_, ?_⟩)
    · intro lines query behind hquery
      simp only [readOne, hquery]
      rfl
    · cases hquery : untilSeparator? rest with
      | none =>
        rw [hquery] at h
        cases h
      | some found => rfl
  · obtain ⟨setting, hsetting, h⟩ := bind_eq_ok.mp h
    by_cases hempty : (" ".intercalate (words.drop 1)).isEmpty = true
    · simp only [hempty, if_true] at h
      cases h
    · refine .inr (.inr (.inl ⟨some (.set setting (" ".intercalate (words.drop 1))), by simp,
        fun lines => ?_⟩))
      simp only [readOne, hsetting]
      exact if_neg hempty
  · exact .inr (.inr (.inr rfl))
  · exact .inl ⟨fun _ => some .skip, by simp, fun _ => rfl⟩
  · exact .inl ⟨fun _ => some .skip, by simp, fun _ => rfl⟩
  · cases h

section One

variable {directive : String} {words : List String} {rest rest' : Lines} {record : Option Record}

/-- A record that does not end its file takes lines from the front, whatever may stand behind
them. -/
theorem readOne_taken (h : readOne directive words rest = .ok (record, rest'))
    (hhalt : directive ≠ "halt") : record ≠ some .halt ∧ ∃ taken, rest = taken ++ rest' ∧
      ∀ more, MayFollow more rest' →
        readOne directive words (taken ++ more) = .ok (record, more) := by
  rcases readOne_cases h with
    ⟨f, hne, hblock⟩ | ⟨f, hne, hquery, hsome⟩ | ⟨r, hne, hnone⟩ | hdirective
  · obtain ⟨rfl, rfl⟩ := Prod.mk.inj (Except.ok.inj ((hblock rest).symm.trans h))
    obtain ⟨taken, hrest, htaken⟩ := block_taken rest
    refine ⟨hne _, taken, hrest, fun more hmore => ?_⟩
    rw [hblock, htaken more hmore]
  · obtain ⟨⟨query, behind⟩, hbehind⟩ := Option.isSome_iff_exists.mp hsome
    obtain ⟨rfl, rfl⟩ := Prod.mk.inj
      (Except.ok.inj ((hquery rest query behind hbehind).symm.trans h))
    obtain ⟨front, hrest, hfront⟩ := untilSeparator?_taken hbehind
    obtain ⟨taken, hblock, htaken⟩ := block_taken behind
    refine ⟨hne _ _, front ++ taken, ?_, fun more hmore => ?_⟩
    · rw [List.append_assoc, ← hblock, hrest]
    · rw [List.append_assoc, hquery _ _ _ (hfront (taken ++ more)), htaken more hmore]
  · obtain ⟨rfl, rfl⟩ := Prod.mk.inj (Except.ok.inj ((hnone rest).symm.trans h))
    exact ⟨hne, [], rfl, fun more _ => hnone more⟩
  · exact absurd hdirective hhalt

/-- A record that ends its file takes all lines. -/
theorem readOne_halt (h : readOne "halt" words rest = .ok (record, rest')) :
    record = some .halt ∧ rest' = [] := by
  obtain ⟨rfl, rfl⟩ := Prod.mk.inj (pure_eq_ok.mp h)
  exact ⟨rfl, rfl⟩

theorem readOne_length (h : readOne directive words rest = .ok (record, rest')) :
    rest'.length ≤ rest.length := by
  by_cases hhalt : directive = "halt"
  · subst hhalt
    obtain ⟨-, rfl⟩ := readOne_halt h
    exact Nat.zero_le _
  · obtain ⟨-, taken, rfl, -⟩ := readOne_taken h hhalt
    rw [List.length_append]
    omega

end One

/-! ### Numbers of lines -/

theorem block_renumber {lines others : Lines} (htext : others.map (·.2) = lines.map (·.2)) :
    (block others).1 = (block lines).1 ∧
      (block others).2.map (·.2) = (block lines).2.map (·.2) := by
  have hfront (ls : Lines) :
      (block ls).1 = (ls.map (·.2)).takeWhile (!Text.isBlankLine ·) := by
    rw [List.takeWhile_map]
    rfl
  have hrest (ls : Lines) :
      (block ls).2.map (·.2) = (ls.map (·.2)).dropWhile (!Text.isBlankLine ·) := by
    rw [List.dropWhile_map]
    rfl
  rw [hfront, hfront, hrest, hrest, htext]
  exact ⟨rfl, rfl⟩

theorem untilSeparator?_renumber {lines others behind : Lines} {query : List String}
    (h : untilSeparator? lines = some (query, behind))
    (htext : others.map (·.2) = lines.map (·.2)) : ∃ behind',
      untilSeparator? others = some (query, behind') ∧ behind'.map (·.2) = behind.map (·.2) := by
  have hfront (ls : Lines) : (ls.takeWhile fun l => !isSeparator l.2).map (·.2) =
      (ls.map (·.2)).takeWhile (!isSeparator ·) := by
    rw [List.takeWhile_map]
    rfl
  have hrest (ls : Lines) : (ls.dropWhile fun l => !isSeparator l.2).map (·.2) =
      (ls.map (·.2)).dropWhile (!isSeparator ·) := by
    rw [List.dropWhile_map]
    rfl
  unfold untilSeparator? at h
  split at h
  · cases h
  · next separator rest hdrop =>
    obtain ⟨rfl, rfl⟩ : _ ∧ rest = behind := by simpa using h
    have hothers : (others.dropWhile fun l => !isSeparator l.2).map (·.2) =
        separator.2 :: rest.map (·.2) := by
      rw [hrest, htext, ← hrest, hdrop, List.map_cons]
    obtain ⟨separator', rest', hdrop', -, hmap⟩ := List.map_eq_cons_iff.mp hothers
    refine ⟨rest', ?_, hmap⟩
    simp only [untilSeparator?, hdrop']
    rw [hfront, htext, ← hfront]

/-- What a record takes does not depend on the numbers of the lines. -/
theorem readOne_renumber {directive : String} {words : List String} {rest rest' others : Lines}
    {record : Option Record} (h : readOne directive words rest = .ok (record, rest'))
    (htext : others.map (·.2) = rest.map (·.2)) : ∃ others',
      readOne directive words others = .ok (record, others') ∧
        others'.map (·.2) = rest'.map (·.2) := by
  rcases readOne_cases h with ⟨f, -, hblock⟩ | ⟨f, -, hquery, hsome⟩ | ⟨r, -, hnone⟩ | rfl
  · obtain ⟨rfl, rfl⟩ := Prod.mk.inj (Except.ok.inj ((hblock rest).symm.trans h))
    obtain ⟨hsame, hbehind⟩ := block_renumber htext
    exact ⟨(block others).2, by rw [hblock, hsame], hbehind⟩
  · obtain ⟨⟨query, behind⟩, hfound⟩ := Option.isSome_iff_exists.mp hsome
    obtain ⟨rfl, rfl⟩ := Prod.mk.inj
      (Except.ok.inj ((hquery rest query behind hfound).symm.trans h))
    obtain ⟨behind', hfound', htext'⟩ := untilSeparator?_renumber hfound htext
    obtain ⟨hsame, hbehind⟩ := block_renumber htext'
    exact ⟨(block behind').2, by rw [hquery _ _ _ hfound', hsame], hbehind⟩
  · obtain ⟨rfl, rfl⟩ := Prod.mk.inj (Except.ok.inj ((hnone rest).symm.trans h))
    exact ⟨others, hnone others, htext⟩
  · obtain ⟨rfl, rfl⟩ := readOne_halt h
    exact ⟨[], rfl, rfl⟩

/-! ### Reading -/

section Inversion

variable {number : Nat} {line : String} {rest : Lines} {records : List Record}

theorem reads_passed_iff (hpassed : IsPassed line) :
    Reads ((number, line) :: rest) records ↔ Reads rest records := by
  refine ⟨fun h => ?_, .passed hpassed⟩
  cases h with
  | passed _ h => exact h
  | record hwords hdirective _ _ =>
    have hnumber := hpassed _ (by rw [hwords]; rfl)
    rw [hdirective] at hnumber
    cases hnumber

theorem reads_record_iff {directive : String} {words : List String}
    (hwords : Text.words line = directive :: words)
    (hdirective : directive.startsWith "#" = false) :
    Reads ((number, line) :: rest) records ↔ ∃ record rest' others,
      readOne directive words rest = .ok (record, rest') ∧ Reads rest' others ∧
        records = record.toList ++ others := by
  refine ⟨fun h => ?_, ?_⟩
  · cases h with
    | passed hpassed _ =>
      have hnumber := hpassed _ (by rw [hwords]; rfl)
      rw [hdirective] at hnumber
      cases hnumber
    | record hwords' _ hone hrest =>
      obtain ⟨rfl, rfl⟩ := List.cons.inj (hwords.symm.trans hwords')
      exact ⟨_, _, _, hone, hrest, rfl⟩
  · rintro ⟨record, rest', others, hone, hrest, rfl⟩
    exact .record hwords hdirective hone hrest

end Inversion

/-- Every record takes a line, so with as much fuel as there are lines all of them are read. -/
theorem readLines_eq_ok_iff {fuel : Nat} {lines : Lines} (hfuel : lines.length ≤ fuel)
    {records : List Record} : readLines fuel lines = .ok records ↔ Reads lines records := by
  induction fuel generalizing lines records with
  | zero =>
    obtain rfl : lines = [] := List.length_eq_zero_iff.mp (by omega)
    rw [readLines]
    refine ⟨fun h => ?_, fun h => ?_⟩
    · obtain rfl := pure_eq_ok.mp h
      exact .done
    · cases h
      rfl
  | succ fuel ih =>
    cases lines with
    | nil =>
      refine ⟨fun h => ?_, fun h => ?_⟩
      · obtain rfl := pure_eq_ok.mp h
        exact .done
      · cases h
        rfl
    | cons l rest =>
      obtain ⟨number, line⟩ := l
      have hrest : rest.length ≤ fuel := by simpa using hfuel
      rw [readLines]
      split
      · next hwords =>
        have hpassed : IsPassed line := by simp [IsPassed, hwords]
        rw [reads_passed_iff hpassed, ih hrest]
      · next directive words hwords =>
        split_ifs with hnumber
        · have hpassed : IsPassed line := by
            rw [IsPassed, hwords]
            rintro _ ⟨⟩
            exact hnumber
          rw [reads_passed_iff hpassed, ih hrest]
        · rw [reads_record_iff hwords (by simpa using hnumber)]
          cases hone : readOne directive words rest with
          | error cause => simp
          | ok found =>
            obtain ⟨record, rest'⟩ := found
            have hlength := readOne_length hone
            have hothers (others : List Record) := @ih rest' (hlength.trans hrest) others
            simp only [bind_eq_ok, pure_eq_ok, hothers, Except.ok.injEq, Prod.mk.injEq]
            refine ⟨?_, ?_⟩
            · rintro ⟨others, hreads, rfl⟩
              exact ⟨record, rest', others, ⟨rfl, rfl⟩, hreads, rfl⟩
            · rintro ⟨_, _, others, ⟨rfl, rfl⟩, hreads, rfl⟩
              exact ⟨others, hreads, rfl⟩

/-! ### Files put together -/

theorem Reads.renumber {lines others : Lines} {records : List Record} (h : Reads lines records)
    (htext : others.map (·.2) = lines.map (·.2)) : Reads others records := by
  induction h generalizing others with
  | done =>
    obtain rfl : others = [] := by simpa using htext
    exact .done
  | passed hpassed _ ih =>
    obtain ⟨⟨number, line⟩, rest, rfl, rfl, hrest⟩ := List.map_eq_cons_iff.mp htext
    exact .passed hpassed (ih hrest)
  | record hwords hdirective hone _ ih =>
    obtain ⟨⟨number, line⟩, rest, rfl, rfl, hrest⟩ := List.map_eq_cons_iff.mp htext
    obtain ⟨others', hone', hrest'⟩ := readOne_renumber hone hrest
    exact .record hwords hdirective hone' (ih hrest')

/-- The records of two files with a blank line between them. -/
theorem Reads.append {lines others : Lines} {first second : List Record} (h : Reads lines first)
    (hhalt : Record.halt ∉ first) (hsecond : Reads others second) (number : Nat) :
    Reads (lines ++ (number, "") :: others) (first ++ second) := by
  induction h with
  | done => exact .passed nofun hsecond
  | passed hpassed _ ih => exact .passed hpassed (ih hhalt)
  | @record n line directive words rest record rest' records hwords hdirective hone _ ih =>
    rw [List.mem_append, not_or] at hhalt
    have hgoesOn : directive ≠ "halt" := by
      rintro rfl
      obtain ⟨rfl, -⟩ := readOne_halt hone
      exact hhalt.1 (by simp)
    obtain ⟨-, taken, rfl, htaken⟩ := readOne_taken hone hgoesOn
    have hmore : MayFollow (rest' ++ (number, "") :: others) rest' := by
      intro l hl
      cases rest' with
      | nil =>
        obtain rfl : (number, "") = l := by simpa using hl
        exact .inl rfl
      | cons first rest' => exact .inr hl
    have hone' := htaken _ hmore
    rw [List.cons_append, List.append_assoc, List.append_assoc]
    exact .record hwords hdirective hone' (ih hhalt.2)

/-- A record that ends its file is the last one, and its line the last that is looked at. -/
theorem Reads.halted {lines : Lines} {records : List Record} (h : Reads lines records) :
    Record.halt ∉ records ∨ ∃ before read line rest, records = before ++ [.halt] ∧
      Record.halt ∉ before ∧ lines = read ++ line :: rest ∧
      (Text.words line.2).head? = some "halt" ∧
      ∀ more, Reads (read ++ line :: more) records := by
  induction h with
  | done => exact .inl (by simp)
  | @passed n line rest records hpassed _ ih =>
    rcases ih with hnone | ⟨before, read, last, rest, rfl, hbefore, rfl, hlast, hread⟩
    · exact .inl hnone
    · exact .inr ⟨before, (n, line) :: read, last, rest, rfl, hbefore, rfl, hlast,
        fun more => .passed hpassed (hread more)⟩
  | @record n line directive words rest record rest' records hwords hdirective hone hreads ih =>
    by_cases hhalt : directive = "halt"
    · subst hhalt
      obtain ⟨rfl, rfl⟩ := readOne_halt hone
      obtain rfl : records = [] := by
        cases hreads
        rfl
      refine .inr ⟨[], [], (n, line), rest, rfl, by simp, rfl, by rw [hwords]; rfl, fun more => ?_⟩
      exact .record hwords hdirective rfl .done
    · obtain ⟨hne, taken, rfl, htaken⟩ := readOne_taken hone hhalt
      have hrecord : Record.halt ∉ record.toList := by
        intro hmem
        exact hne (by simpa using hmem)
      rcases ih with hnone | ⟨before, read, last, rest, rfl, hbefore, rfl, hlast, hread⟩
      · exact .inl (by simp only [List.mem_append, not_or]; exact ⟨hrecord, hnone⟩)
      · refine .inr ⟨record.toList ++ before, (n, line) :: (taken ++ read), last, rest, by simp, ?_,
          by simp, hlast, fun more => ?_⟩
        · simp only [List.mem_append, not_or]
          exact ⟨hrecord, hbefore⟩
        · have hmore : MayFollow (read ++ last :: more) (read ++ last :: rest) := by
            intro l hl
            cases read with
            | nil => exact .inr hl
            | cons first read => exact .inr hl
          rw [List.cons_append, List.append_assoc]
          exact .record hwords hdirective (htaken _ hmore) (hread more)

theorem Reads.takeWhile_eq_filter {lines : Lines} {records : List Record}
    (h : Reads lines records) :
    records.takeWhile (· ≠ .halt) = records.filter (· ≠ .halt) := by
  have hbefore (before : List Record) (hhalt : Record.halt ∉ before) :
      ∀ r ∈ before, decide (r ≠ Record.halt) = true := by
    intro r hr
    have hne : r ≠ Record.halt := by
      rintro rfl
      exact hhalt hr
    exact decide_eq_true hne
  rcases h.halted with hnone | ⟨before, -, -, -, rfl, hhalt, -⟩
  · rw [List.takeWhile_eq_self_iff.mpr (hbefore _ hnone),
      List.filter_eq_self.mpr (hbefore _ hnone)]
  · rw [List.takeWhile_append_of_pos (hbefore _ hhalt), List.filter_append,
      List.filter_eq_self.mpr (hbefore _ hhalt)]
    rfl

/-- The records of a file are those of its lines, however they are numbered. -/
theorem readAll_eq_ok_iff {content : String} {lines : Lines} {records : List Record}
    (htext : lines.map (·.2) = Text.lines content) :
    readAll content = .ok records ↔ Reads lines records := by
  have hnumbered : ((List.range' 1 (Text.lines content).length).zip (Text.lines content)).map
      (·.2) = Text.lines content := List.map_snd_zip (by simp)
  have hiff : readAll content = .ok records ↔
      Reads ((List.range' 1 (Text.lines content).length).zip (Text.lines content)) records :=
    readLines_eq_ok_iff (by simp)
  rw [hiff]
  exact ⟨fun h => h.renumber (htext.trans hnumbered.symm),
    fun h => h.renumber (hnumbered.trans htext.symm)⟩

end Record

/-! ## Running records -/

/-- The record holds a text that is checked. -/
def Record.HasText : Record → Prop
  | statement _ _ | query _ _ _ => True
  | _ => False

/-- The nesting bound that the record sets, if it sets one, leaves room. -/
def Record.KeepsRoom : Record → Prop
  | set .depth value => ∀ depth ∈ Number.naturalBelow? (Nat.pow 2 64) value, HasRoom depth
  | _ => True

namespace Report

@[simp] theorem empty_merge (r : Report) : Report.merge {} r = r := by
  simp [merge]

@[simp] theorem merge_empty (r : Report) : r.merge {} = r := rfl

theorem merge_assoc (a b c : Report) : (a.merge b).merge c = a.merge (b.merge c) := by
  simp [merge, Nat.add_assoc]

@[simp] theorem total_merge (a b : Report) : (a.merge b).total = a.total + b.total := by
  simp only [total, merge]
  omega

end Report

namespace Environment

variable {env : Environment}

/-- What a run and one behind it leave: the later environment, and both reports taken together. -/
def andThen (run : Option (Environment × Report))
    (behind : Environment → Option (Environment × Report)) : Option (Environment × Report) :=
  run.bind fun one => (behind one.1).map fun more => (more.1, one.2.merge more.2)

@[simp] theorem none_andThen (behind : Environment → Option (Environment × Report)) :
    andThen none behind = none := rfl

theorem andThen_eq_some {run : Option (Environment × Report)}
    {behind : Environment → Option (Environment × Report)} {last : Environment}
    {report : Report} : andThen run behind = some (last, report) ↔
      ∃ middle r₁ r₂, run = some (middle, r₁) ∧ behind middle = some (last, r₂) ∧
        r₁.merge r₂ = report := by
  rcases run with _ | ⟨middle, r₁⟩
  · simp
  · simp [andThen]

theorem andThen_assoc (run : Option (Environment × Report))
    (second third : Environment → Option (Environment × Report)) :
    andThen (andThen run second) third =
      andThen run fun middle => andThen (second middle) third := by
  rcases run with _ | ⟨middle, r₁⟩
  · rfl
  · rcases hsecond : second middle with _ | ⟨last, r₂⟩
    · simp [andThen, hsecond]
    · simp [andThen, hsecond, Report.merge_assoc, Function.comp_def]

theorem runRecords_cons {record : Record} (hhalt : record ≠ .halt) (rest : List Record) :
    env.runRecords (record :: rest) = andThen (env.runRecord record) (·.runRecords rest) := by
  rw [runRecords]
  · rcases env.runRecord record with _ | one
    · rfl
    · cases h : one.1.runRecords rest <;> simp [andThen, h]
  · exact hhalt

theorem total_runRecord {record : Record} (hhalt : record ≠ .halt) {next : Environment}
    {report : Report} (h : env.runRecord record = some (next, report)) : report.total = 1 := by
  have hverdict (passes : Bool) : (verdict passes).total = 1 := by
    cases passes <;> rfl
  cases record with
  | statement sql expectsError =>
    obtain ⟨passes, -, heq⟩ := Option.map_eq_some_iff.mp h
    exact (Prod.mk.inj heq).2 ▸ hverdict passes
  | query sql expected sorted =>
    obtain ⟨passes, -, heq⟩ := Option.map_eq_some_iff.mp h
    exact (Prod.mk.inj heq).2 ▸ hverdict passes
  | set setting value =>
    rw [runRecord] at h
    split at h
    · exact (Prod.mk.inj (Option.some.inj h)).2 ▸ hverdict true
    · exact (Prod.mk.inj (Option.some.inj h)).2 ▸ hverdict false
  | halt => exact absurd rfl hhalt
  | skip => exact (Prod.mk.inj (Option.some.inj h)).2 ▸ rfl

/-- Records none of which ends its file, and others behind them. -/
theorem runRecords_append {first : List Record} (hhalt : Record.halt ∉ first)
    (second : List Record) :
    env.runRecords (first ++ second) = andThen (env.runRecords first) (·.runRecords second) := by
  induction first generalizing env with
  | nil => simp [runRecords, andThen]
  | cons record first ih =>
    rw [List.mem_cons, not_or] at hhalt
    have hrecord : record ≠ .halt := Ne.symm hhalt.1
    rw [List.cons_append, runRecords_cons hrecord, runRecords_cons hrecord first, andThen_assoc]
    simp only [ih hhalt.2]

/-- Every record before one that ends them is counted once. -/
theorem total_runRecords {records : List Record} {last : Environment} {report : Report}
    (h : env.runRecords records = some (last, report)) :
    report.total = (records.takeWhile (· ≠ .halt)).length := by
  induction records generalizing env last report with
  | nil =>
    cases h
    rfl
  | cons record records ih =>
    by_cases hhalt : record = .halt
    · subst hhalt
      cases h
      rfl
    · rw [runRecords_cons hhalt] at h
      obtain ⟨middle, r₁, r₂, hone, hmore, rfl⟩ := andThen_eq_some.mp h
      rw [Report.total_merge, total_runRecord hhalt hone, ih hmore,
        List.takeWhile_cons_of_pos (by simpa using hhalt), List.length_cons]
      omega

theorem runFile_eq {content : String} {records : List Record}
    (h : Record.readAll content = .ok records) :
    env.runFile content = (env.runRecords records).map fun run => (run.1, .ok run.2) := by
  rw [runFile, h]

/-! ### Where a run stops -/

/-- A record with a text stops the program exactly under a bound that leaves no room. -/
theorem runRecord_eq_none {record : Record} :
    env.runRecord record = none ↔ record.HasText ∧ ¬HasRoom env.config.maxDepth := by
  have hanswer (sql : String) : answer? (env.normalizeProjection sql) = none ↔
      ¬HasRoom env.config.maxDepth :=
    answer?_eq_none.trans normalizeProjection_eq_overflow
  cases record with
  | statement sql expectsError => simp [runRecord, meetsStatement, hanswer, Record.HasText]
  | query sql expected sorted => simp [runRecord, meetsQuery, hanswer, Record.HasText]
  | set setting value =>
    rw [runRecord]
    split <;> simp [Record.HasText]
  | halt | skip => simp [runRecord, Record.HasText]

/-- A record with a text, in front of any that ends its file, is checked under a bound that leaves
no room. -/
def StopsOver (env : Environment) (records : List Record) : Prop :=
  ∃ before record rest middle report, records = before ++ record :: rest ∧
    Record.halt ∉ before ∧ env.runRecords before = some (middle, report) ∧ record.HasText ∧
    ¬HasRoom middle.config.maxDepth

theorem stopsOver_cons {record : Record} (hhalt : record ≠ .halt) {rest : List Record} :
    env.StopsOver (record :: rest) ↔ env.runRecord record = none ∨
      ∃ one, env.runRecord record = some one ∧ one.1.StopsOver rest := by
  constructor
  · rintro ⟨before, asked, behind, middle, report, heq, hbefore, hrun, htext, hroom⟩
    cases before with
    | nil =>
      obtain ⟨rfl, -⟩ := List.cons.inj heq
      cases hrun
      exact .inl (runRecord_eq_none.mpr ⟨htext, hroom⟩)
    | cons first before =>
      obtain ⟨rfl, rfl⟩ := List.cons.inj heq
      rw [runRecords_cons hhalt] at hrun
      obtain ⟨next, r₁, r₂, hone, hmore, -⟩ := andThen_eq_some.mp hrun
      exact .inr ⟨(next, r₁), hone, before, asked, behind, middle, r₂, rfl,
        fun h => hbefore (List.mem_cons_of_mem _ h), hmore, htext, hroom⟩
  · rintro (hnone | ⟨one, hone, before, asked, behind, middle, report, rfl, hbefore, hrun, hrest⟩)
    · obtain ⟨htext, hroom⟩ := runRecord_eq_none.mp hnone
      exact ⟨[], record, rest, env, {}, rfl, List.not_mem_nil, rfl, htext, hroom⟩
    · refine ⟨record :: before, asked, behind, middle, one.2.merge report, rfl, ?_, ?_, hrest⟩
      · rw [List.mem_cons, not_or]
        exact ⟨hhalt.symm, hbefore⟩
      · rw [runRecords_cons hhalt, hone]
        exact andThen_eq_some.mpr ⟨_, _, _, rfl, hrun, rfl⟩

/-- **A run stops** exactly over such a record. -/
theorem runRecords_eq_none {records : List Record} :
    env.runRecords records = none ↔ env.StopsOver records := by
  induction records generalizing env with
  | nil =>
    refine iff_of_false (fun h => by cases h) ?_
    rintro ⟨before, _, _, _, _, heq, -⟩
    cases before <;> cases heq
  | cons record records ih =>
    by_cases hhalt : record = .halt
    · subst hhalt
      refine iff_of_false (fun h => by cases h) ?_
      rintro ⟨before, _, _, _, _, heq, hbefore, -, htext, -⟩
      cases before with
      | nil =>
        obtain ⟨rfl, -⟩ := List.cons.inj heq
        exact htext
      | cons first before =>
        obtain ⟨rfl, -⟩ := List.cons.inj heq
        exact hbefore List.mem_cons_self
    · rw [runRecords_cons hhalt, stopsOver_cons hhalt]
      cases env.runRecord record with
      | none => simp
      | some one => simp [andThen, ih]

theorem hasRoom_of_apply {setting : Setting} {value : String} {changed : Environment}
    (hroom : HasRoom env.config.maxDepth) (hkeeps : (Record.set setting value).KeepsRoom)
    (h : env.apply setting value = .ok changed) : HasRoom changed.config.maxDepth := by
  cases setting with
  | user | database | schema =>
    cases h
    exact hroom
  | depth =>
    unfold apply at h
    cases hdepth : Number.naturalBelow? (Nat.pow 2 64) value with
    | none =>
      rw [hdepth] at h
      cases h
    | some depth =>
      rw [hdepth] at h
      rw [(eq_of_withDepth h).1]
      exact hkeeps depth hdepth

theorem hasRoom_of_runRecord {record : Record} {next : Environment} {report : Report}
    (hroom : HasRoom env.config.maxDepth) (hkeeps : record.KeepsRoom)
    (h : env.runRecord record = some (next, report)) : HasRoom next.config.maxDepth := by
  cases record with
  | statement sql expectsError | query sql expected sorted =>
    obtain ⟨passes, -, heq⟩ := Option.map_eq_some_iff.mp h
    exact (Prod.mk.inj heq).1 ▸ hroom
  | set setting value =>
    rw [runRecord] at h
    split at h
    · next changed hchanged =>
      exact (Prod.mk.inj (Option.some.inj h)).1 ▸ hasRoom_of_apply hroom hkeeps hchanged
    · exact (Prod.mk.inj (Option.some.inj h)).1 ▸ hroom
  | halt | skip => exact (Prod.mk.inj (Option.some.inj h)).1 ▸ hroom

/-- **A run comes to its end** under bounds that leave room, the one that it begins with and those
that its records set. -/
theorem not_stopsOver {records : List Record} (hroom : HasRoom env.config.maxDepth)
    (hkeeps : ∀ record ∈ records, record.KeepsRoom) : ¬env.StopsOver records := by
  rw [← runRecords_eq_none]
  induction records generalizing env with
  | nil => exact fun h => by cases h
  | cons record records ih =>
    by_cases hhalt : record = .halt
    · subst hhalt
      exact fun h => by cases h
    · obtain ⟨hrecord, hrecords⟩ := List.forall_mem_cons.mp hkeeps
      rw [runRecords_cons hhalt]
      cases hone : env.runRecord record with
      | none => exact absurd hroom (runRecord_eq_none.mp hone).2
      | some one =>
        simpa [andThen] using ih (hasRoom_of_runRecord hroom hrecord hone) hrecords

end Environment

/-! ## Files -/

/-- **Record files are put together with a blank line between them.** Two files of which the first
is not ended by a record have the records of both, and running them is running one after the other.
A report counts every record that does not end its file; such a record is the last one, and no line
behind its own has a say in what is read. There is no report exactly if a text is checked under a
bound that leaves no room. -/
theorem runFile_append (env : Environment) :
    (∀ a b first second, (a = "" ∨ ∃ s, a = s ++ "\n") → Record.readAll a = .ok first →
      Record.readAll b = .ok second → Record.halt ∉ first →
      Record.readAll (a ++ "\n" ++ b) = .ok (first ++ second) ∧
      (¬env.StopsOver (first ++ second) →
        ∃ middle last r₁ r₂, env.runFile a = some (middle, .ok r₁) ∧
          middle.runFile b = some (last, .ok r₂) ∧
          env.runFile (a ++ "\n" ++ b) = some (last, .ok (r₁.merge r₂)))) ∧
    ∀ c records, Record.readAll c = .ok records →
      (env.runFile c = none ↔ env.StopsOver records) ∧
      (¬env.StopsOver records → ∃ last report, env.runFile c = some (last, .ok report) ∧
        report.total = (records.filter (· ≠ .halt)).length) ∧
      (Record.halt ∈ records → ∃ before read line rest, records = before ++ [.halt] ∧
        Record.halt ∉ before ∧ Text.lines c = read ++ line :: rest ∧
        (Text.words line).head? = some "halt" ∧
        ∀ c', read ++ [line] <+: Text.lines c' → Record.readAll c' = .ok records) := by
  let numbered (lines : List String) : Record.Lines := lines.map (Prod.mk 0)
  have htext (lines : List String) : (numbered lines).map (·.2) = lines := by
    simp [numbered, Function.comp_def]
  have hreads {content : String} {records : List Record}
      (h : Record.readAll content = .ok records) :
      Record.Reads (numbered (Text.lines content)) records :=
    (Record.readAll_eq_ok_iff (htext _)).mp h
  have hruns {records : List Record} (h : ¬env.StopsOver records) :
      ∃ run, env.runRecords records = some run :=
    Option.ne_none_iff_exists'.mp (mt Environment.runRecords_eq_none.mp h)
  refine ⟨fun a b first second hends ha hb hhalt => ?_,
    fun c records hc => ⟨?_, fun hstops => ?_, fun hmem => ?_⟩⟩
  · have hjoined : Record.readAll (a ++ "\n" ++ b) = .ok (first ++ second) := by
      refine (Record.readAll_eq_ok_iff ?_).mpr ((hreads ha).append hhalt (hreads hb) 0)
      rw [Text.lines_blank hends, List.map_append, List.map_cons, htext, htext]
    refine ⟨hjoined, fun hstops => ?_⟩
    obtain ⟨⟨last, report⟩, hrun⟩ := hruns hstops
    have hparts := hrun
    rw [Environment.runRecords_append hhalt] at hparts
    obtain ⟨middle, r₁, r₂, hone, hmore, rfl⟩ := Environment.andThen_eq_some.mp hparts
    refine ⟨middle, last, r₁, r₂, ?_, ?_, ?_⟩
    · rw [Environment.runFile_eq ha, hone]
      rfl
    · rw [Environment.runFile_eq hb, hmore]
      rfl
    · rw [Environment.runFile_eq hjoined, hrun]
      rfl
  · rw [Environment.runFile_eq hc, Option.map_eq_none_iff, Environment.runRecords_eq_none]
  · obtain ⟨⟨last, report⟩, hrun⟩ := hruns hstops
    refine ⟨last, report, ?_, ?_⟩
    · rw [Environment.runFile_eq hc, hrun]
      rfl
    · rw [Environment.total_runRecords hrun, (hreads hc).takeWhile_eq_filter]
  · rcases (hreads hc).halted with
      hnone | ⟨before, read, line, rest, rfl, hbefore, hlines, hline, hread⟩
    · exact absurd hmem hnone
    · have hsplit : Text.lines c = read.map (·.2) ++ line.2 :: rest.map (·.2) := by
        rw [← htext (Text.lines c), hlines, List.map_append, List.map_cons]
      refine ⟨before, read.map (·.2), line.2, rest.map (·.2), rfl, hbefore, hsplit, hline, ?_⟩
      rintro c' ⟨more, hmore⟩
      refine (Record.readAll_eq_ok_iff ?_).mpr (hread (numbered more))
      rw [← hmore, List.map_append, List.map_cons, htext, List.append_assoc, List.singleton_append]

/-- A file with a setting and a statement. -/
def settingFile : String :=
  "set user ada\n\nstatement ok\nSELECT a FROM t\n"

/-- A file with a query that is ended in front of a line that says nothing. -/
def endedFile : String :=
  "query\nSELECT CURRENT_USER FROM t\n----\n'ada'\n\nhalt\nnonsense\n"

/-- Both files put together: three records are counted, and what stands behind the last line that is
read may be anything. -/
theorem runFile_settingEnded : ∃ middle last r₁ r₂,
    ({} : Environment).runFile settingFile = some (middle, .ok r₁) ∧
    middle.runFile endedFile = some (last, .ok r₂) ∧
    ({} : Environment).runFile (settingFile ++ "\n" ++ endedFile) =
      some (last, .ok (r₁.merge r₂)) ∧
    (r₁.merge r₂).total = 3 ∧
    Record.readAll (settingFile ++ "\n" ++ endedFile) =
      .ok [.set .user "ada", .statement "SELECT a FROM t" false,
        .query "SELECT CURRENT_USER FROM t" ["'ada'"] false, .halt] := by
  obtain ⟨hfiles, hreport⟩ := runFile_append {}
  have hsetting : Record.readAll settingFile =
      .ok [.set .user "ada", .statement "SELECT a FROM t" false] := by decide +kernel
  have hended : Record.readAll endedFile =
      .ok [.query "SELECT CURRENT_USER FROM t" ["'ada'"] false, .halt] := by decide +kernel
  have hends : ∃ s, settingFile = s ++ "\n" :=
    ⟨"set user ada\n\nstatement ok\nSELECT a FROM t", by decide⟩
  obtain ⟨hjoined, hboth⟩ := hfiles settingFile endedFile _ _ (.inr hends) hsetting hended (by decide)
  obtain ⟨-, hcount, -⟩ := hreport _ _ hjoined
  have hruns : ¬({} : Environment).StopsOver ([.set .user "ada",
      .statement "SELECT a FROM t" false] ++
      [.query "SELECT CURRENT_USER FROM t" ["'ada'"] false, .halt]) :=
    Environment.not_stopsOver (by decide) (by simp [Record.KeepsRoom])
  obtain ⟨middle, last, r₁, r₂, h₁, h₂, hboth⟩ := hboth hruns
  obtain ⟨last', report, hrun, htotal⟩ := hcount hruns
  obtain ⟨-, rfl⟩ : _ ∧ r₁.merge r₂ = report := by simpa using hboth.symm.trans hrun
  exact ⟨middle, last, r₁, r₂, h₁, h₂, hboth, htotal, hjoined⟩

/-- A file that sets the largest nesting bound and asks a query. -/
def fullDepthFile : String :=
  "set depth 18446744073709551615\n\nstatement ok\nSELECT a FROM t\n"

/-- Not every file that is read has a report: the program stops over a text under the largest
bound. -/
theorem runFile_fullDepthFile :
    ¬ ∀ (env : Environment) (c : String) (records : List Record), Record.readAll c = .ok records →
      ∃ last report, env.runFile c = some (last, .ok report) ∧
        report.total = (records.filter (· ≠ .halt)).length := by
  intro h
  have hread : Record.readAll fullDepthFile =
      .ok [.set .depth "18446744073709551615", .statement "SELECT a FROM t" false] := by
    decide +kernel
  have hstopped : (({} : Environment).runFile fullDepthFile).isNone = true := by decide +kernel
  obtain ⟨last, report, hrun, -⟩ := h {} fullDepthFile _ hread
  rw [hrun] at hstopped
  cases hstopped

end SqlNormal
