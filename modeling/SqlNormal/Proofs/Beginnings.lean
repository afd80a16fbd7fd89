import SqlNormal.Proofs.Phrases
import SqlNormal.Proofs.Regeneration

/-!
# How an expression begins

Before anything else an expression is tried as a type and a string. What does not begin so is read
as a constant, a sign, a parenthesis or a word.

* `TypeEnds`, `typeOfWord_ends`, `modifiersFrom_within`: readings of types that come to an end;
* `typedString_wordless`, `typedString_word`, `typedString_open`: beginnings that are no type and
  string;
* `beginning_wordless`, `beginning_word`: beginnings that are read as something else.
-/

namespace SqlNormal.Sql.Reader

variable {α : Type} {r : Rules} {inner : Reader Expr} {word : String} {l : Lexeme}
  {more rest : List Lexeme}

/-! ## Types that come to an end -/

/-- Nothing that goes on with a type comes first. -/
structure TypeEnds (rest : List Lexeme) : Prop where
  mark : ∀ spelling ∈ ["(", "["], rest.head?.map (·.token) ≠ some (.symbol spelling)
  word : headKey rest ∉ ["VARYING", "LARGE", "UNSIGNED", "PRECISION", "WITH", "WITHOUT"]

theorem Stops.typeEnds (h : Stops rest) : TypeEnds rest := by
  have hmarks : ∀ spelling ∈ ["(", "["], spelling ∉ followMarks := by decide
  have hwords : ∀ word ∈ ["VARYING", "LARGE", "UNSIGNED", "PRECISION", "WITH", "WITHOUT"],
      word ∉ "" :: followWords := by
    decide
  exact ⟨fun spelling hs => h.ne_symbol _ (hmarks spelling hs),
    fun hmem => hwords _ hmem h.headKey_mem⟩

theorem typeEnds_point (h : l.token = .symbol ".") : TypeEnds (l :: rest) := by
  have hkey : headKey (l :: rest) = "" := by
    show l.token.keyword = ""
    rw [h]
    rfl
  refine ⟨fun spelling hs => ?_, ?_⟩
  · simp only [List.head?_cons, Option.map_some, h]
    rintro ⟨⟩
    exact absurd hs (by decide)
  · rw [hkey]
    decide

theorem inParens_refused {x : Reader α} (h : rest.head?.map (·.token) ≠ some (.symbol "(")) :
    inParens x rest = .error .unreadable := by
  simp only [inParens, expectSymbol, run_bind, run_symbol? h, ok_bind, Bool.not_false, run_ite,
    if_true]
  rfl

section TypeEnds

variable (h : TypeEnds rest)
include h

theorem TypeEnds.key (word : String)
    (hword : word ∈ ["VARYING", "LARGE", "UNSIGNED", "PRECISION", "WITH", "WITHOUT"]) :
    headKey rest ≠ word := by
  rintro rfl
  exact h.word hword

theorem TypeEnds.opening : peekSymbol "(" rest = .ok (false, rest) :=
  run_peekSymbol (h.mark "(" (by decide))

theorem sizeText_ends : sizeText rest = .ok ("", rest) := by
  simp only [sizeText, precision?, run_bind, h.opening, ok_bind, run_ite, Bool.false_eq_true,
    if_false, run_pure]
  rfl

theorem lengthText_ends : lengthText rest = .ok ("", rest) := by
  simp only [lengthText, run_bind, h.opening, ok_bind, run_ite, Bool.false_eq_true, if_false,
    run_pure]

theorem scaleText_ends : scaleText rest = .ok ("", rest) := by
  simp only [scaleText, run_bind, h.opening, ok_bind, run_ite, Bool.false_eq_true, if_false,
    run_pure]

theorem zoneText_ends : zoneText rest = .ok ("", rest) := by
  simp only [zoneText, run_bind, run_keyword? (h.key "WITH" (by decide)),
    run_keyword? (h.key "WITHOUT" (by decide)), ok_bind, run_ite, Bool.false_eq_true,
    if_false, run_pure]

theorem charactersText_ends : charactersText word rest = .ok (word ++ "", rest) := by
  simp only [charactersText, run_bind, run_keyword? (h.key "VARYING" (by decide)),
    run_keywords? (h.key "LARGE" (by decide)), lengthText_ends h, ok_bind, run_ite,
    Bool.false_eq_true, if_false, run_pure]

theorem arrayMarksFrom_ends (text : String) (fuel : Nat) :
    arrayMarksFrom text fuel rest = .ok (text, rest) := by
  cases fuel with
  | zero => rfl
  | succ fuel =>
    simp only [arrayMarksFrom, run_bind, run_symbol? (h.mark "[" (by decide)), ok_bind, run_ite,
      Bool.false_eq_true, if_false, run_pure]

/-- A type word that nothing goes on with is a type by itself, or none. -/
theorem typeOfWord_ends (type : Reader (DataType × Bool)) (hword : word ∉ ["ARRAY", "STRUCT"]) :
    typeOfWord word type rest = .error .unreadable ∨
      ∃ text, typeOfWord word type rest = .ok ((text, false), rest) := by
  let Ends (x : Reader (String × Bool)) : Prop :=
    x rest = .error .unreadable ∨ ∃ text, x rest = .ok ((text, false), rest)
  have hok {x : Reader String} (text : String) (hx : x rest = .ok (text, rest)) :
      Ends (do return (← x, false)) :=
    .inr ⟨text, by simp only [run_bind, hx, ok_bind, run_pure]⟩
  have hrefused {x : Reader String} (hx : x rest = .error .unreadable) :
      Ends (do return (← x, false)) :=
    .inl (by simp only [run_bind, hx]; rfl)
  have hite {c : Prop} [Decidable c] {x y : Reader (String × Bool)} (hx : c → Ends x)
      (hy : Ends y) : Ends (if c then x else y) := by
    split_ifs with hc
    · exact hx hc
    · exact hy
  have hparens {β : Type} (x : Reader β) : inParens x rest = .error .unreadable :=
    inParens_refused (h.mark "(" (by decide))
  have hkeyword (word : String)
      (hword : word ∈ ["VARYING", "LARGE", "UNSIGNED", "PRECISION", "WITH", "WITHOUT"]) :=
    run_keyword? (h.key word hword)
  show Ends (typeOfWord word type)
  unfold typeOfWord
  extract_lets whole plain wrapping
  cases simpleTypes.lookup word with
  | some shown => exact .inr ⟨shown, rfl⟩
  | none =>
    dsimp only
    refine hite (fun _ => hok (word ++ "") ?_) (hite (fun _ => hok (word ++ "" ++ "") ?_)
      (hite (fun _ => hok (word ++ "") ?_) (hite (fun _ => hok (word ++ "") ?_) ?_)))
    · simp only [run_bind, sizeText_ends h, ok_bind, run_pure]
    · simp only [run_bind, sizeText_ends h, hkeyword "UNSIGNED" (by decide), ok_bind,
        Bool.false_eq_true, if_false, run_pure]
    · simp only [run_bind, lengthText_ends h, ok_bind, run_pure]
    · simp only [run_bind, scaleText_ends h, ok_bind, run_pure]
    · have hopening : expectSymbol "(" rest = .error .unreadable := by
        simp only [expectSymbol, run_bind, run_symbol? (h.mark "(" (by decide)), ok_bind,
          Bool.not_false, run_ite, if_true]
        rfl
      have hsized (word : String) : (do return word ++ (← sizeText)) rest = .ok (word ++ "", rest) := by
        simp only [run_bind, sizeText_ends h, ok_bind, run_pure]
      split
      · exact hok _ (charactersText_ends h)
      · exact hok _ (charactersText_ends h)
      · refine hok "DOUBLE" ?_
        simp only [run_bind, hkeyword "PRECISION" (by decide), ok_bind,
          Bool.false_eq_true, if_false, run_pure]
      · refine hok ("BIT" ++ "" ++ "") ?_
        simp only [run_bind, hkeyword "VARYING" (by decide), sizeText_ends h, ok_bind,
          Bool.false_eq_true, if_false, run_pure]
      · exact .inr ⟨_, rfl⟩
      · exact .inr ⟨_, rfl⟩
      · refine hok ("TIME" ++ "" ++ "") ?_
        simp only [run_bind, sizeText_ends h, zoneText_ends h, ok_bind, run_pure]
      · refine hok ("TIMESTAMP" ++ "" ++ "") ?_
        simp only [run_bind, sizeText_ends h, zoneText_ends h, ok_bind, run_pure]
      · exact hok _ (hsized _)
      · exact hok _ (hsized _)
      · exact hrefused (hparens _)
      · exact hrefused (by simp only [run_bind, hparens]; rfl)
      · exact hrefused (by simp only [enumText, run_bind, hparens]; rfl)
      · exact hrefused (by simp only [enumText, run_bind, hparens]; rfl)
      · exact hrefused (by simp only [enumText, run_bind, hparens]; rfl)
      · exact hrefused (by simp only [setText, run_bind, hopening]; rfl)
      · exact absurd (by decide) hword
      · exact absurd (by decide) hword
      · exact hrefused (by simp only [run_bind, hparens]; rfl)
      · exact hrefused (by simp only [run_bind, hparens]; rfl)
      · exact hrefused (by simp only [run_bind, hparens]; rfl)
      · exact hrefused (hparens _)
      · exact hrefused (by simp only [run_bind, hparens]; rfl)
      · exact hrefused (by simp only [run_bind, hparens]; rfl)
      · exact .inl rfl

end TypeEnds

/-! ## Types of the user -/

/-- The points and names behind a name. -/
def pathMore (parts : List Ident) : List Token :=
  parts.flatMap fun i => [.symbol ".", .word i]

theorem pathFrom_one {i : Ident} (h : l.token = .word i) {fuel : Nat}
    (hmore : more.head?.map (·.token) ≠ some (.symbol ".")) :
    pathFrom (fuel + 1) (l :: more) = .ok ([i], more) := by
  simp only [pathFrom, run_bind, run_ident_of h, ok_bind, run_symbol? hmore, run_ite, Bool.false_eq_true,
    if_false, run_pure]

/-- A path of names is read as a whole. -/
theorem pathFrom_path {i : Ident} {parts : List Ident} (h : l.token = .word i)
    {ls : List Lexeme} (hls : ls.map (·.token) = pathMore parts) {fuel : Nat}
    (hfuel : ls.length < fuel) (hrest : rest.head?.map (·.token) ≠ some (.symbol ".")) :
    pathFrom fuel (l :: (ls ++ rest)) = .ok (i :: parts, rest) := by
  obtain ⟨fuel, rfl⟩ : ∃ n, fuel = n + 1 := ⟨fuel - 1, by omega⟩
  induction parts generalizing l ls i fuel with
  | nil =>
    obtain rfl := List.map_eq_nil_iff.mp hls
    exact pathFrom_one h hrest
  | cons j parts ih =>
    obtain ⟨p, _, rfl, hp, hls⟩ := List.map_eq_cons_iff.mp hls
    obtain ⟨n, ls, rfl, hn, hls⟩ := List.map_eq_cons_iff.mp hls
    simp only [List.length_cons] at hfuel
    obtain ⟨fuel, rfl⟩ : ∃ n, fuel = n + 1 := ⟨fuel - 1, by omega⟩
    have hpoint : symbol? "." (p :: n :: ls ++ rest) = .ok (true, n :: (ls ++ rest)) :=
      run_symbol?_of hp
    rw [pathFrom]
    simp only [run_bind, run_ident_of h, ok_bind, hpoint, run_ite, if_true,
      ih hn hls fuel (by omega), run_pure]

/-- The items between parentheses end with the first closing one, or they are none. -/
theorem modifiersFrom_within (rest : List Lexeme) {ls : List Lexeme}
    (h : ∃ l ∈ ls, l.token = .symbol ")") (fuel : Nat) : modifiersFrom fuel (ls ++ rest) = .error .unreadable ∨
      ∃ texts behind, behind <:+ ls ∧
        modifiersFrom fuel (ls ++ rest) = .ok (texts, behind ++ rest) := by
  induction fuel generalizing ls with
  | zero => exact .inl rfl
  | succ fuel ih =>
    cases ls with
    | nil =>
      obtain ⟨l, hl, -⟩ := h
      cases hl
    | cons l ls =>
      have hmore (hne : l.token ≠ .symbol ")") : modifiersFrom fuel (ls ++ rest) =
          .error .unreadable ∨ ∃ texts behind, behind <:+ l :: ls ∧
            modifiersFrom fuel (ls ++ rest) = .ok (texts, behind ++ rest) := by
        obtain ⟨l', hl', hclosing⟩ := h
        have hmem : l' ∈ ls := by
          rcases List.mem_cons.mp hl' with rfl | hmem
          · exact absurd hclosing hne
          · exact hmem
        rcases ih ⟨l', hmem, hclosing⟩ with hrefused | ⟨texts, behind, hsuffix, hread⟩
        · exact .inl hrefused
        · exact .inr ⟨texts, behind, hsuffix.trans (List.suffix_cons _ _), hread⟩
      have hcons {text : String} (hne : l.token ≠ .symbol ")") :
          (do return text :: (← modifiersFrom fuel) : Reader (List String)) (ls ++ rest) =
            .error .unreadable ∨ ∃ texts behind, behind <:+ l :: ls ∧
              (do return text :: (← modifiersFrom fuel) : Reader (List String)) (ls ++ rest) =
                .ok (texts, behind ++ rest) := by
        rcases hmore hne with hrefused | ⟨texts, behind, hsuffix, hread⟩
        · exact .inl (by simp only [run_bind, hrefused]; rfl)
        · exact .inr ⟨text :: texts, behind, hsuffix, by
            simp only [run_bind, hread, ok_bind, run_pure]⟩
      obtain ⟨token, start⟩ := l
      rw [List.cons_append, modifiersFrom, run_bind, run_next, ok_bind]
      dsimp only at hmore hcons ⊢
      split
      · exact hcons (by simp)
      · exact hcons (by simp)
      · exact hcons (by simp)
      · exact hmore (by decide)
      · exact .inr ⟨_, ls, List.suffix_cons _ _, rfl⟩
      · exact .inl rfl

/-! ## Beginnings that are no type and string -/

theorem typedString_of_refused {tokens : List Lexeme}
    (h : dataType tokens = .error .unreadable) : typedString inner tokens = .error .unreadable := by
  rw [typedString, run_bind, h]
  rfl

/-- What is no word is no type. -/
theorem typedString_wordless (h : ∀ i, l.token ≠ .word i) :
    typedString inner (l :: more) = .error .unreadable := by
  refine typedString_of_refused ?_
  have hempty : typeWords.contains "" = false := by decide
  obtain ⟨next, hone⟩ : ∃ word, keywordAt 1 (l :: more) = .ok (word, l :: more) := ⟨_, rfl⟩
  have hany : ¬("" = "ANY" ∧ next = "TYPE") := fun h => absurd h.1 (by decide)
  obtain ⟨token, start⟩ := l
  have hkey : headKey (⟨token, start⟩ :: more) = "" := by
    cases token with
    | word i => exact absurd rfl (h i)
    | _ => rfl
  simp only [dataType, run_bind, run_get, ok_bind, List.length_cons, typeAt, run_keywordAt, hkey,
    hone, hany, run_ite, if_false, hempty, Bool.false_eq_true, run_peek, List.head?_cons,
    Option.map_some]
  cases token with
  | word i => exact absurd rfl (h i)
  | _ => rfl

/-- A type of the user. -/
theorem dataType_custom {i : Ident} (htoken : l.token = .word i)
    (hword : l.token.keyword ∉ "ANY" :: typeWords) :
    dataType (l :: more) = (customType (l :: more)).bind fun p =>
      (arrayMarksFrom p.1 p.2.length p.2).bind fun q =>
        .ok (⟨q.1, if q.1 = p.1 then .custom else .other⟩, q.2) := by
  rw [List.mem_cons, not_or] at hword
  have hkey : headKey (l :: more) = l.token.keyword := rfl
  have hcontains : typeWords.contains l.token.keyword = false := by simpa using hword.2
  obtain ⟨next, hone⟩ : ∃ word, keywordAt 1 (l :: more) = .ok (word, l :: more) := ⟨_, rfl⟩
  have hany : ¬(l.token.keyword = "ANY" ∧ next = "TYPE") := fun h => absurd h.1 hword.1
  obtain ⟨token, start⟩ := l
  obtain rfl : token = .word i := htoken
  simp only [dataType, run_bind, run_get, ok_bind, List.length_cons]
  rw [typeAt]
  simp only [run_bind, run_get, run_keywordAt, hkey, hone, hany, run_ite, ok_bind, if_false,
    hcontains, Bool.false_eq_true, run_peek, List.head?_cons, Option.map_some]
  cases customType (⟨.word i, start⟩ :: more) with
  | error _ => rfl
  | ok p =>
    simp only [ok_bind, run_pure]
    cases arrayMarksFrom p.1 p.2.length p.2 <;> rfl

/-- A type that the language knows. -/
theorem dataType_typeWord (hword : l.token.keyword ∈ typeWords) :
    dataType (l :: more) =
      (typeOfWord l.token.keyword (typeAt (more.length + 1)) more).bind fun p =>
        (arrayMarksFrom p.1.1 p.2.length p.2).bind fun q =>
          if p.1.2 then .error .unreadable
          else .ok (⟨q.1, if q.1 = p.1.1 then classOfWord l.token.keyword else .other⟩, q.2) := by
  have hkey : headKey (l :: more) = l.token.keyword := rfl
  have hcontains : typeWords.contains l.token.keyword = true := by simpa using hword
  obtain ⟨next, hone⟩ : ∃ word, keywordAt 1 (l :: more) = .ok (word, l :: more) := ⟨_, rfl⟩
  have hany : ¬(l.token.keyword = "ANY" ∧ next = "TYPE") := by
    rintro ⟨heq, -⟩
    rw [heq] at hword
    exact absurd hword (by decide)
  simp only [dataType, run_bind, run_get, ok_bind, List.length_cons]
  rw [typeAt]
  simp only [run_bind, run_get, run_keywordAt, hkey, hone, hany, run_ite, ok_bind, if_false,
    hcontains, if_true, run_skip, List.drop_succ_cons, List.drop_zero]
  cases typeOfWord l.token.keyword (typeAt (more.length + 1)) more with
  | error _ => rfl
  | ok p =>
    obtain ⟨⟨text, closed⟩, rest⟩ := p
    simp only [ok_bind, run_pure]
    cases arrayMarksFrom text rest.length rest with
    | error _ => rfl
    | ok q => cases closed <;> rfl

/-- A word of the user's, and what stands behind it, are no type and string. -/
theorem typedString_custom {i : Ident} (htoken : l.token = .word i)
    (hword : l.token.keyword ∉ "ANY" :: typeWords)
    (h : customType (l :: more) = .error .unreadable ∨
      ∃ text rest, customType (l :: more) = .ok (text, rest) ∧
        rest.head?.map (·.token) ≠ some (.symbol "[")) :
    typedString inner (l :: more) = .error .unreadable := by
  rcases h with hrefused | ⟨text, rest, hread, hbracket⟩
  · refine typedString_of_refused ?_
    rw [dataType_custom htoken hword, hrefused]
    rfl
  · have hmarks (fuel : Nat) : arrayMarksFrom text fuel rest = .ok (text, rest) := by
      cases fuel with
      | zero => rfl
      | succ fuel =>
        simp only [arrayMarksFrom, run_bind, run_symbol? hbracket, ok_bind, run_ite,
          Bool.false_eq_true, if_false, run_pure]
    have htype : dataType (l :: more) = .ok (⟨text, .custom⟩, rest) := by
      rw [dataType_custom htoken hword, hread, ok_bind, hmarks, ok_bind, if_pos rfl]
    rw [typedString, run_bind, htype]
    rfl

/-- A type word that ends where no string stands is no type and string. -/
theorem typedString_typeWord (hword : l.token.keyword ∈ typeWords)
    (hne : l.token.keyword ∉ ["ARRAY", "INTERVAL", "STRUCT"]) (hends : TypeEnds more)
    (hliteral : literalString more = .error .unreadable) :
    typedString inner (l :: more) = .error .unreadable := by
  simp only [List.mem_cons, List.not_mem_nil, or_false, not_or] at hne
  have hother : l.token.keyword ∉ ["ARRAY", "STRUCT"] := by
    simp [hne]
  rcases typeOfWord_ends hends (typeAt (more.length + 1)) hother with
    hrefused | ⟨text, hread⟩
  · refine typedString_of_refused ?_
    rw [dataType_typeWord hword, hrefused]
    rfl
  · have htype : dataType (l :: more) = .ok (⟨text, classOfWord l.token.keyword⟩, more) := by
      rw [dataType_typeWord hword, hread, ok_bind, arrayMarksFrom_ends hends, ok_bind,
        if_neg Bool.false_ne_true, if_pos rfl]
    rw [typedString, run_bind, htype, ok_bind]
    cases hclass : classOfWord l.token.keyword with
    | interval => exact absurd (eq_of_classOfWord hclass) hne.2.1
    | custom => rfl
    | temporal | other =>
      dsimp only
      rw [run_bind, hliteral]
      rfl

theorem isKeyword_of_mem_row {row : String} {n : Nat} (hrow : keywordRows[n]? = some row)
    (hword : word ∈ Text.words row) : isKeyword word := by
  rw [isKeyword, List.contains_iff_mem]
  exact List.mem_flatMap.mpr ⟨row, List.mem_of_getElem? hrow, hword⟩

/-- The words that stand behind an operand, each with its row among the words of the language. -/
def followRows : List (String × Nat) :=
  [("AND", 1), ("OR", 50), ("NOT", 47), ("LIKE", 38), ("IS", 36), ("IN", 33), ("WHEN", 81),
   ("THEN", 72), ("ELSE", 21), ("END", 22), ("FROM", 29), ("FOR", 28), ("PLACING", 54),
   ("USING", 79), ("AS", 2)]

/-- The language knows the words that stand behind an operand. -/
theorem isKeyword_followWords : ∀ word ∈ followWords, isKeyword word := by
  have hrows : ∀ p ∈ followRows,
      (keywordRows[p.2]?).any fun row => (Text.words row).contains p.1 := by
    decide +kernel
  intro word hword
  obtain ⟨p, hp, rfl⟩ : ∃ p ∈ followRows, p.1 = word := List.mem_map.mp hword
  obtain ⟨row, hrow, hmem⟩ := (Option.any_eq_true _ _).mp (hrows p hp)
  exact isKeyword_of_mem_row hrow (by simpa using hmem)

theorem literalString_stops (h : Stops rest) : literalString rest = .error .unreadable := by
  have hkeywords : ∀ word ∈ followWords, isKeyword (Text.upper word) := by
    have hupper : ∀ word ∈ followWords, Text.upper word = word := by decide
    intro word hword
    rw [hupper word hword]
    exact isKeyword_followWords word hword
  cases rest with
  | nil => rfl
  | cons l rest =>
    have hfollows := h l rfl
    obtain ⟨token, start⟩ := l
    rw [literalString, run_bind, run_next, ok_bind]
    match token, hfollows with
    | .word ⟨word, none⟩, hfollows =>
      have hmem : word ∈ followWords := by simpa [follows] using hfollows
      show (if isKeyword (Text.upper word) then refuse else pure word : Reader String) rest = _
      rw [if_pos (hkeywords word hmem)]
      rfl
    | .symbol _, _ => rfl

/-- The words that begin a type in front of what stands behind an operand. -/
def typeBeginners : List String :=
  ["ANY", "ARRAY", "INTERVAL", "STRUCT"]

variable {i : Ident}

/-- A word that an operand could be is no type and string. -/
theorem typedString_stops (htoken : l.token = .word i) (hword : l.token.keyword ∉ typeBeginners)
    (h : Stops rest) : typedString inner (l :: rest) = .error .unreadable := by
  simp only [typeBeginners, List.mem_cons, List.not_mem_nil, or_false, not_or] at hword
  by_cases htype : l.token.keyword ∈ typeWords
  · exact typedString_typeWord htype (by simp [hword]) h.typeEnds (literalString_stops h)
  · have hname : objectName (l :: rest) = .ok ([i], rest) := by
      rw [objectName, run_bind, run_get, ok_bind]
      exact pathFrom_one htoken (h.ne_symbol _ (by decide))
    refine typedString_custom htoken (by simp [hword, htype])
      (.inr ⟨pathText [i], rest, ?_, h.ne_symbol _ (by decide)⟩)
    simp only [customType, objectText, run_bind, hname, ok_bind, run_pure,
      run_symbol? (h.ne_symbol "(" (by decide)), run_ite, Bool.false_eq_true,
      if_false]

/-- A path is no type and string. -/
theorem typedString_path (htoken : l.token = .word i) (hword : l.token.keyword ∉ typeBeginners)
    {parts : List Ident} {ls : List Lexeme} (hls : ls.map (·.token) = pathMore parts)
    (h : Stops rest) : typedString inner (l :: (ls ++ rest)) = .error .unreadable := by
  cases parts with
  | nil =>
    obtain rfl := List.map_eq_nil_iff.mp hls
    exact typedString_stops htoken hword h
  | cons j parts =>
    simp only [typeBeginners, List.mem_cons, List.not_mem_nil, or_false, not_or] at hword
    by_cases htype : l.token.keyword ∈ typeWords
    · obtain ⟨p, ls, rfl, hp, -⟩ := List.map_eq_cons_iff.mp hls
      refine typedString_typeWord htype (by simp [hword]) (typeEnds_point hp) ?_
      rw [List.cons_append, literalString, run_bind, run_next, ok_bind, hp]
      rfl
    · have hname : objectName (l :: (ls ++ rest)) = .ok (i :: j :: parts, rest) := by
        rw [objectName, run_bind, run_get, ok_bind]
        exact pathFrom_path htoken hls (by simp; omega) (h.ne_symbol _ (by decide))
      refine typedString_custom htoken (by simp [hword, htype])
        (.inr ⟨pathText (i :: j :: parts), rest, ?_, h.ne_symbol _ (by decide)⟩)
      simp only [customType, objectText, run_bind, hname, ok_bind, run_pure,
        run_symbol? (h.ne_symbol "(" (by decide)), run_ite, Bool.false_eq_true,
        if_false]

/-- A word of the user's in front of an operand or of something in parentheses is no type and
string. -/
theorem typedString_open (htoken : l.token = .word i)
    (hword : l.token.keyword ∉ "ANY" :: typeWords) {ls : List Lexeme} (hne : ls ≠ [])
    (hpoint : (ls.map (·.token)).head? ≠ some (.symbol "."))
    (hbracket : .symbol "[" ∉ ls.map (·.token))
    (hclosed : (ls.map (·.token)).head? = some (.symbol "(") → .symbol ")" ∈ ls.map (·.token))
    (hrest : rest.head?.map (·.token) ≠ some (.symbol "[")) :
    typedString inner (l :: (ls ++ rest)) = .error .unreadable := by
  obtain ⟨first, ls, rfl⟩ := List.exists_cons_of_ne_nil hne
  have hname : objectName (l :: (first :: ls ++ rest)) = .ok ([i], first :: ls ++ rest) := by
    rw [objectName, run_bind, run_get, ok_bind]
    exact pathFrom_one htoken (by simpa using hpoint)
  -- what is left of the phrase has no bracket, and nor does what follows it
  have hleft {behind : List Lexeme} (hsuffix : behind <:+ first :: ls) :
      (behind ++ rest).head?.map (·.token) ≠ some (.symbol "[") := by
    cases behind with
    | nil => exact hrest
    | cons b behind =>
      rw [List.cons_append, List.head?_cons, Option.map_some, ne_eq, Option.some.injEq]
      rintro hb
      exact hbracket (hb ▸ List.mem_map_of_mem (hsuffix.subset List.mem_cons_self))
  refine typedString_custom htoken hword ?_
  by_cases hopen : first.token = .symbol "("
  · have hmem : ∃ l ∈ ls, l.token = .symbol ")" := by
      obtain ⟨l, hl, hclosing⟩ := List.mem_map.mp (hclosed (by simp [hopen]))
      rcases List.mem_cons.mp hl with rfl | hl
      · rw [hopen] at hclosing
        exact absurd (Token.symbol.inj hclosing) (by decide)
      · exact ⟨l, hl, hclosing⟩
    have hsymbol : symbol? "(" (first :: ls ++ rest) = .ok (true, ls ++ rest) :=
      run_symbol?_of hopen
    rcases modifiersFrom_within rest hmem ((ls ++ rest).length + 1) with
      hrefused | ⟨texts, behind, hsuffix, hread⟩
    · refine .inl ?_
      simp only [customType, objectText, run_bind, hname, ok_bind, run_pure, hsymbol, run_ite,
        if_true, run_get, hrefused]
      rfl
    · refine .inr ⟨if texts.isEmpty then pathText [i] else pathText [i] ++ parens (listText texts),
        behind ++ rest, ?_, hleft (hsuffix.trans (List.suffix_cons _ _))⟩
      simp only [customType, objectText, run_bind, hname, ok_bind, run_pure, hsymbol, run_ite,
        if_true, run_get, hread]
  · refine .inr ⟨pathText [i], first :: ls ++ rest, ?_, hleft (List.suffix_refl _)⟩
    have hsymbol : symbol? "(" (first :: ls ++ rest) = .ok (false, first :: ls ++ rest) :=
      run_symbol? (by simpa using hopen)
    simp only [customType, objectText, run_bind, hname, ok_bind, run_pure, hsymbol, run_ite,
      Bool.false_eq_true, if_false]

/-! ## Beginnings that are read as something else -/

theorem collated_stops {e : Expr} (h : Stops rest) : collated e rest = .ok (e, rest) := by
  simp only [collated, run_bind, run_keyword? (h.headKey_ne "COLLATE" (by decide)),
    ok_bind, run_ite, Bool.false_eq_true, if_false, run_pure]

theorem prefixOf_wordless {e : Expr} (htoken : ∀ i, l.token ≠ .word i)
    (hread : wordless r inner (l :: more) = .ok (e, rest)) (h : Stops rest) :
    prefixOf r inner (l :: more) = .ok (e, rest) := by
  simp only [prefixOf, run_bind, attempt, typedString_wordless htoken, ok_bind, run_get]
  obtain ⟨token, start⟩ := l
  cases token with
  | word i => exact absurd rfl (htoken i)
  | _ => simp only [run_bind, hread, ok_bind, collated_stops h]

/-- A beginning that is no word. -/
theorem beginning_wordless {e : Expr} (htoken : ∀ i, l.token ≠ .word i)
    (hread : ∀ inner, wordless r inner (l :: more) = .ok (e, rest)) (h : Stops rest) :
    beginning r (l :: more) = .ok (e, rest) :=
  prefixOf_wordless htoken (hread _) h

/-- A type and a string. -/
theorem beginning_typed {e : Expr} {tokens : List Lexeme}
    (h : typedString (fun inside => prefixAt r tokens.length inside) tokens = .ok (e, rest)) :
    beginning r tokens = .ok (e, rest) := by
  show prefixOf r _ tokens = _
  simp only [prefixOf, run_bind, attempt, h, ok_bind, run_pure]

/-- A beginning with a word. -/
theorem beginning_word {e : Expr} (htoken : l.token = .word i)
    (htyped : ∀ inner, typedString inner (l :: more) = .error .unreadable)
    (hread : ∀ inner, ∃ forced, wordForm r inner l i more = .ok ((e, forced), rest))
    (h : Stops rest) : beginning r (l :: more) = .ok (e, rest) := by
  obtain ⟨token, start⟩ := l
  obtain rfl : token = .word i := htoken
  obtain ⟨forced, hread⟩ := hread fun inside =>
    prefixAt r (⟨.word i, start⟩ :: more : List Lexeme).length inside
  show prefixOf r _ (⟨.word i, start⟩ :: more) = _
  simp only [prefixOf, run_bind, attempt, htyped, ok_bind, run_get, run_set, hread, run_ite,
    run_pure, collated_stops h, ite_self]

/-- A word with a form of its own. -/
theorem wordForm_special {e : Expr} (h : specialForm r inner l i more = .ok (some e, rest)) :
    ∃ forced, wordForm r inner l i more = .ok ((e, forced), rest) :=
  ⟨false, by simp only [wordForm, h]⟩

/-- A word without a form of its own. -/
theorem wordForm_ordinary {e : Expr}
    (h : specialForm r inner l i more = .ok (none, more) ∨
      specialForm r inner l i more = .error .unreadable ∧
        l.token.keyword ∉ reservedForIdentifier)
    (hread : ordinaryWord r inner l i more = .ok (e, rest)) :
    ∃ forced, wordForm r inner l i more = .ok ((e, forced), rest) := by
  rcases h with h | ⟨h, hreserved⟩
  · refine ⟨false, ?_⟩
    simp only [wordForm, h, hread]
    rfl
  · refine ⟨true, ?_⟩
    have hcontains : reservedForIdentifier.contains l.token.keyword = false := by
      simpa using hreserved
    simp only [wordForm, h, hcontains, Bool.false_eq_true, if_false, hread]

end SqlNormal.Sql.Reader
