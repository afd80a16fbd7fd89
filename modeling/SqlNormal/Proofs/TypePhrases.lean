import SqlNormal.Proofs.TypeNames
import SqlNormal.Proofs.Wording

/-!
# Types that are read back

The text of a type that the language knows is a word or a few, with sizes in parentheses behind
some. In front of a closing parenthesis it is read as a type that is shown by the same text. A name
that is passed through is read so as well if it is one word.

* `Pronounces`: tokens that are read as a type with a text;
* `plainTypes`, `pronounces_plain`, `pronounces_zoned`, `pronounces_sized`: the types by their form;
* `isTypeWord`, `pronounced_word`: the types of one word, a user's among them;
* `SqlType.sizes`, **`pronounced_toSql`**: the text of every type, if a name that is passed through
  is such a text;
* `resolveType_toSql`: what a cast to it names.
-/

namespace SqlNormal

/-- The numbers in the text of a type. -/
def SqlType.sizes : SqlType → List Nat
  | numeric precision scale => precision.toList ++ scale.toList
  | char length => length.toList
  | varchar length => length.toList
  | _ => []

namespace Sql.Reader

variable {rest : List Lexeme} {word : String}

/-- In front of a closing parenthesis the tokens are read as a type that is shown by the text. -/
def Pronounces (tokens : List Token) (text : String) : Prop :=
  ∃ typeClass, ∀ (ls : List Lexeme) (c : Lexeme) rest, ls.map (·.token) = tokens →
    c.token = .symbol ")" → dataType (ls ++ c :: rest) = .ok (⟨text, typeClass⟩, c :: rest)

/-- The types that are written as one word. -/
def plainTypes : List String :=
  ["NULL", "BOOLEAN", "SMALLINT", "INTEGER", "BIGINT", "REAL", "NUMERIC", "CHAR", "VARCHAR", "TEXT",
   "BYTEA", "DATE", "TIME", "TIMESTAMP", "INTERVAL", "INET", "CIDR", "MACADDR", "GEOMETRY", "BOX2D",
   "BOX3D"]

theorem pronounces_plain : ∀ word ∈ plainTypes, Pronounces [plainWord word] word := by
  have hword {word : String} (h : ∃ typeClass, ∀ start start' rest,
      dataType (⟨plainWord word, start⟩ :: ⟨.symbol ")", start'⟩ :: rest) =
        .ok (⟨word, typeClass⟩, ⟨.symbol ")", start'⟩ :: rest)) :
      Pronounces [plainWord word] word := by
    obtain ⟨typeClass, h⟩ := h
    refine ⟨typeClass, ?_⟩
    rintro ls ⟨_, start'⟩ rest hls rfl
    obtain ⟨⟨_, start⟩, rfl, rfl⟩ := List.map_eq_singleton_iff.mp hls
    exact h start start' rest
  simp only [plainTypes, List.forall_mem_cons]
  and_intros
  all_goals first
    | exact hword ⟨_, fun _ _ _ => rfl⟩
    | exact List.forall_mem_nil _

theorem pronounces_double :
    Pronounces [plainWord "DOUBLE", plainWord "PRECISION"] "DOUBLE PRECISION" := by
  refine ⟨.other, ?_⟩
  rintro ls ⟨_, start'⟩ rest hls rfl
  match ls, hls with
  | [⟨_, _⟩, ⟨_, _⟩], rfl => rfl

/-- The words that tell that a time has a zone. -/
def zoneTokens : List Token :=
  [plainWord "WITH", plainWord "TIME", plainWord "ZONE"]

theorem pronounces_zoned (h : word ∈ ["TIME", "TIMESTAMP"]) :
    Pronounces (plainWord word :: zoneTokens) (word ++ " WITH TIME ZONE") := by
  refine ⟨.temporal, ?_⟩
  rintro ls ⟨_, start'⟩ rest hls rfl
  match ls, hls with
  | [⟨_, _⟩, ⟨_, _⟩, ⟨_, _⟩, ⟨_, _⟩], rfl =>
    rcases List.mem_pair.mp h with rfl | rfl
    · rfl
    · rfl

/-- The number of a numeral's digits. -/
theorem naturalBelow?_digits {bound n : Nat} (h : n < bound) :
    Number.naturalBelow? bound (String.ofList (Number.digits n)) = some n := by
  obtain ⟨hne, hdigits⟩ := isDigit_digits n
  obtain ⟨d, ds, hlist⟩ := List.exists_cons_of_ne_nil hne
  have hplus : d ≠ '+' := by
    rintro rfl
    rw [hlist] at hdigits
    exact absurd hdigits (by simp)
  have hunsigned : Number.unsigned? (Number.digits n) = some n := by
    rw [Number.unsigned?, if_pos ⟨hne, hdigits⟩, digitsValue_digits]
  have hnatural : Number.natural? (String.ofList (Number.digits n)) = some n := by
    rw [Number.natural?, String.toList_ofList]
    rw [hlist] at hunsigned ⊢
    simp [hplus, hunsigned]
  simp [Number.naturalBelow?, hnatural, h]

/-- A type word is a type with whatever goes on with it. -/
theorem dataType_of_typeOfWord {start : Location} {more : List Lexeme} {text : String}
    (hword : Text.upper word ∈ typeWords)
    (h : ∀ inner, typeOfWord (Text.upper word) inner more = .ok ((text, false), rest))
    (hends : TypeEnds rest) : dataType (⟨plainWord word, start⟩ :: more) =
      .ok (⟨text, classOfWord (Text.upper word)⟩, rest) := by
  have htype : dataType (⟨plainWord word, start⟩ :: more) =
      (typeOfWord (Text.upper word) (typeAt (more.length + 1)) more).bind fun p =>
        (arrayMarksFrom p.1.1 p.2.length p.2).bind fun q =>
          if p.1.2 then .error .unreadable
          else .ok (⟨q.1, if q.1 = p.1.1 then classOfWord (Text.upper word) else .other⟩, q.2) :=
    dataType_typeWord hword
  rw [htype, h, ok_bind, arrayMarksFrom_ends hends, ok_bind, if_neg Bool.false_ne_true,
    if_pos rfl]

/-- The words behind which a size may stand. -/
def sizeableWords : List String :=
  sizedTypes ++ integerTypes ++ characterTypes ++ numericTypes

/-- The word is a type by itself and is shown as it is written: a type of the language without a
size, or a type of the user. -/
def isTypeWord (word : String) : Bool :=
  let key := Text.upper word
  match simpleTypes.lookup key with
  | some shown => shown == word
  | none => sizeableWords.contains word || !("ANY" :: typeWords).contains key

theorem typeOfWord_simple {inner : Reader (DataType × Bool)} {shown : String}
    (h : simpleTypes.lookup word = some shown) :
    typeOfWord word inner rest = .ok ((shown, false), rest) := by
  unfold typeOfWord
  simp only [h]
  rfl

/-- Without a size these types are shown as their words. -/
theorem typeOfWord_sizeable {inner : Reader (DataType × Bool)} (hword : word ∈ sizeableWords)
    (h : TypeEnds rest) : typeOfWord word inner rest = .ok ((word, false), rest) := by
  have hlookup : ∀ word ∈ sizeableWords, simpleTypes.lookup word = none := by decide
  unfold typeOfWord
  simp only [hlookup word hword]
  split_ifs with hsized hinteger hcharacter hnumeric
  · simp only [run_bind, sizeText_ends h, ok_bind, run_pure, String.append_empty]
  · simp only [run_bind, sizeText_ends h, run_keyword? (h.key "UNSIGNED" (by decide)), ok_bind,
      run_pure, Bool.false_eq_true, if_false, String.append_empty]
  · simp only [run_bind, lengthText_ends h, ok_bind, run_pure, String.append_empty]
  · simp only [run_bind, scaleText_ends h, ok_bind, run_pure, String.append_empty]
  · simp_all [sizeableWords]

theorem pronounces_word (h : isTypeWord word) : Pronounces [plainWord word] word := by
  have hends {c : Lexeme} (hc : c.token = .symbol ")") (rest : List Lexeme) :
      TypeEnds (c :: rest) :=
    (stops_cons (by rw [hc]; rfl)).typeEnds
  have hknown (hkey : Text.upper word ∈ typeWords) (hread : ∀ inner rest, TypeEnds rest →
      typeOfWord (Text.upper word) inner rest = .ok ((word, false), rest)) :
      Pronounces [plainWord word] word := by
    refine ⟨classOfWord (Text.upper word), fun ls c rest hls hc => ?_⟩
    obtain ⟨⟨_, start⟩, rfl, rfl⟩ := List.map_eq_singleton_iff.mp hls
    exact dataType_of_typeOfWord hkey (fun inner => hread inner _ (hends hc rest)) (hends hc rest)
  unfold isTypeWord at h
  dsimp only at h
  split at h
  · rename_i shown hlookup
    obtain rfl : shown = word := by simpa using h
    have hkey : Text.upper shown ∈ simpleTypes.map (·.1) :=
      List.mem_map_of_mem (f := Prod.fst) (mem_of_lookup hlookup)
    exact hknown (by simp [typeWords, hkey]) fun _ _ _ => typeOfWord_simple hlookup
  · rw [Bool.or_eq_true] at h
    rcases h with hword | hother
    · have hwords : ∀ word ∈ sizeableWords, Text.upper word = word ∧ word ∈ typeWords := by decide
      have hmem : word ∈ sizeableWords := by simpa using hword
      obtain ⟨hupper, hkey⟩ := hwords word hmem
      refine hknown (by rwa [hupper]) fun inner rest hrest => ?_
      rw [hupper]
      exact typeOfWord_sizeable hmem hrest
    · refine ⟨.custom, fun ls c rest hls hc => ?_⟩
      obtain ⟨⟨_, start⟩, rfl, rfl⟩ := List.map_eq_singleton_iff.mp hls
      have hother : Token.keyword (plainWord word) ∉ "ANY" :: typeWords := by
        rw [Bool.not_eq_true', ← Bool.not_eq_true, List.contains_iff_mem] at hother
        exact hother
      have hpoint : (c :: rest).head?.map (·.token) ≠ some (.symbol ".") := by simp [hc]
      have hopening : (c :: rest).head?.map (·.token) ≠ some (.symbol "(") := by simp [hc]
      have hpath : pathFrom ((⟨plainWord word, start⟩ :: c :: rest).length + 1)
          (⟨plainWord word, start⟩ :: c :: rest) = .ok ([⟨word, none⟩], c :: rest) :=
        pathFrom_one rfl hpoint
      have htext : pathText [⟨word, none⟩] = word := by
        simp [pathText, identText]
      have hcustom : customType (⟨plainWord word, start⟩ :: c :: rest) = .ok (word, c :: rest) := by
        simp only [customType, objectText, objectName, run_bind, run_get, hpath, ok_bind, htext,
          run_symbol? hopening, run_ite, Bool.false_eq_true, if_false, run_pure]
      rw [List.singleton_append, dataType_custom rfl hother, hcustom, ok_bind,
        arrayMarksFrom_ends (hends hc rest), ok_bind, if_pos rfl]

section Sizes

variable {n m : Nat} {a b : Numeral} (ha : a.digits = String.ofList (Number.digits n))
  (hn : n < 2 ^ 64) {l o c : Lexeme}
include ha hn

theorem run_naturalNumber (hl : l.token = .number a false) :
    naturalNumber (l :: rest) = .ok (n, rest) := by
  have hvalue : Number.naturalBelow? (Nat.pow 2 64) a.digits = some n := by
    rw [ha]
    exact naturalBelow?_digits hn
  simp only [naturalNumber, run_bind, run_next, ok_bind, hl, hvalue, run_pure]

theorem lengthText_sized (ho : o.token = .symbol "(") (hl : l.token = .number a false)
    (hc : c.token = .symbol ")") :
    lengthText (o :: l :: c :: rest) = .ok ("(" ++ natText n ++ ")", rest) := by
  have hmax : headKey (l :: c :: rest) ≠ "MAX" := by
    show l.token.keyword ≠ "MAX"
    rw [hl]
    show "" ≠ "MAX"
    decide
  have hunit : headKey (c :: rest) ∉ ["CHARACTERS", "OCTETS"] := by
    show c.token.keyword ∉ _
    rw [hc]
    decide
  have hnone : clauseText " " none "" = "" := rfl
  simp only [lengthText, inParens, run_bind, run_peekSymbol_of ho, run_expectSymbol ho,
    run_keyword? hmax, run_naturalNumber ha hn hl, run_oneOf? hunit, run_expectSymbol hc, ok_bind,
    run_ite, Bool.false_eq_true, if_true, if_false, run_pure, hnone, String.append_empty]

theorem scaleText_sized (ho : o.token = .symbol "(") (hl : l.token = .number a false)
    (hc : c.token = .symbol ")") :
    scaleText (o :: l :: c :: rest) = .ok ("(" ++ natText n ++ ")", rest) := by
  have hcomma : symbol? "," (c :: rest) = .ok (false, c :: rest) := run_symbol? (by simp [hc])
  simp only [scaleText, inParens, run_bind, run_peekSymbol_of ho, run_expectSymbol ho,
    run_naturalNumber ha hn hl, hcomma, run_expectSymbol hc, ok_bind, run_ite, Bool.false_eq_true,
    if_true, if_false, run_pure]

theorem scaleText_scaled (hb : b.digits = String.ofList (Number.digits m)) (hm : m < 2 ^ 64)
    {comma l' : Lexeme} (ho : o.token = .symbol "(") (hl : l.token = .number a false)
    (hcomma : comma.token = .symbol ",") (hl' : l'.token = .number b false)
    (hc : c.token = .symbol ")") : scaleText (o :: l :: comma :: l' :: c :: rest) =
      .ok ("(" ++ natText n ++ "," ++ natText m ++ ")", rest) := by
  simp only [scaleText, inParens, run_bind, run_peekSymbol_of ho, run_expectSymbol ho,
    run_naturalNumber ha hn hl, run_symbol?_of hcomma, run_naturalNumber hb hm hl',
    run_expectSymbol hc, ok_bind, run_ite, if_true, run_pure]

/-- The types with a length or a precision. -/
theorem pronounces_sized (h : word ∈ ["NUMERIC", "CHAR", "VARCHAR"]) :
    Pronounces [plainWord word, .symbol "(", .number a false, .symbol ")"]
      (SqlType.withLength word (some n)) := by
  refine ⟨classOfWord (Text.upper word), fun ls c rest hls hc => ?_⟩
  have hends : TypeEnds (c :: rest) := (stops_cons (by rw [hc]; rfl)).typeEnds
  match ls, hls with
  | [⟨_, start⟩, ⟨_, x⟩, ⟨_, y⟩, ⟨_, z⟩], rfl =>
    have hlength : lengthText (⟨.symbol "(", x⟩ :: ⟨.number a false, y⟩ :: ⟨.symbol ")", z⟩ ::
        c :: rest) = .ok ("(" ++ natText n ++ ")", c :: rest) := lengthText_sized ha hn rfl rfl rfl
    have hscale : scaleText (⟨.symbol "(", x⟩ :: ⟨.number a false, y⟩ :: ⟨.symbol ")", z⟩ ::
        c :: rest) = .ok ("(" ++ natText n ++ ")", c :: rest) := scaleText_sized ha hn rfl rfl rfl
    have hshown (word : String) :
        word ++ ("(" ++ natText n ++ ")") = SqlType.withLength word (some n) := by
      simp [SqlType.withLength, natText, String.append_assoc]
    simp only [← hshown, List.cons_append, List.nil_append]
    simp only [List.mem_cons, List.not_mem_nil, or_false] at h
    rcases h with rfl | rfl | rfl
    · refine dataType_of_typeOfWord (by decide) (fun inner => ?_) hends
      show (do return (← (do return "NUMERIC" ++ (← scaleText)), false) :
        Reader (String × Bool)) _ = _
      simp only [run_bind, hscale, ok_bind, run_pure]
    · refine dataType_of_typeOfWord (by decide) (fun inner => ?_) hends
      show (do return (← (do return "CHAR" ++ (← lengthText)), false) :
        Reader (String × Bool)) _ = _
      simp only [run_bind, hlength, ok_bind, run_pure]
    · refine dataType_of_typeOfWord (by decide) (fun inner => ?_) hends
      show (do return (← (do return "VARCHAR" ++ (← lengthText)), false) :
        Reader (String × Bool)) _ = _
      simp only [run_bind, hlength, ok_bind, run_pure]

/-- The exact numbers with a precision and a scale. -/
theorem pronounces_scaled (hb : b.digits = String.ofList (Number.digits m)) (hm : m < 2 ^ 64) :
    Pronounces [plainWord "NUMERIC", .symbol "(", .number a false, .symbol ",", .number b false,
      .symbol ")"] (SqlType.numeric (some n) (some m)).toSql := by
  refine ⟨classOfWord (Text.upper "NUMERIC"), fun ls c rest hls hc => ?_⟩
  have hends : TypeEnds (c :: rest) := (stops_cons (by rw [hc]; rfl)).typeEnds
  match ls, hls with
  | [⟨_, start⟩, ⟨_, v⟩, ⟨_, w⟩, ⟨_, x⟩, ⟨_, y⟩, ⟨_, z⟩], rfl =>
    have hscale : scaleText (⟨.symbol "(", v⟩ :: ⟨.number a false, w⟩ :: ⟨.symbol ",", x⟩ ::
        ⟨.number b false, y⟩ :: ⟨.symbol ")", z⟩ :: c :: rest) =
          .ok ("(" ++ natText n ++ "," ++ natText m ++ ")", c :: rest) :=
      scaleText_scaled ha hn hb hm rfl rfl rfl rfl rfl
    have hshown : "NUMERIC" ++ ("(" ++ natText n ++ "," ++ natText m ++ ")") =
        (SqlType.numeric (some n) (some m)).toSql := by
      simp [SqlType.toSql, natText, ← String.toList_inj]
    simp only [← hshown, List.cons_append, List.nil_append]
    refine dataType_of_typeOfWord (by decide) (fun inner => ?_) hends
    show (do return (← (do return "NUMERIC" ++ (← scaleText)), false) :
      Reader (String × Bool)) _ = _
    simp only [run_bind, hscale, ok_bind, run_pure]

end Sizes

/-! ## All types -/

/-- The text is split into tokens that are read as a type shown by it. -/
def Pronounced (text : String) : Prop :=
  ∃ tokens, Spells AfterOperand text.toList tokens ∧ .symbol "[" ∉ tokens ∧ Pronounces tokens text

theorem pronounced_plain : ∀ word ∈ plainTypes, Pronounced word := by
  have hall : ∀ word ∈ plainTypes, isWord word := by decide
  intro word hword
  exact ⟨_, (spells_plainWord (hall word hword)).mono fun _ => AfterOperand.afterName,
    by simp [plainWord], pronounces_plain word hword⟩

/-- A type of one word. -/
theorem pronounced_word (hword : isWord word) (h : isTypeWord word) : Pronounced word :=
  ⟨_, (spells_plainWord hword).mono fun _ => AfterOperand.afterName, by simp [plainWord],
    pronounces_word h⟩

theorem pronounced_double : Pronounced "DOUBLE PRECISION" := by
  have hsecond : Spells AfterOperand "PRECISION".toList [plainWord "PRECISION"] :=
    (spells_plainWord (by decide)).mono fun _ => AfterOperand.afterName
  have hboth : Spells AfterOperand ("DOUBLE".toList ++ ' ' :: "PRECISION".toList) _ :=
    (spells_plainWord (by decide)).append (spells_behind hsecond) fun _ _ => afterName_blank _
  exact ⟨_, hboth, by decide, pronounces_double⟩

theorem pronounced_zoned (word : String) (h : word ∈ ["TIME", "TIMESTAMP"]) :
    Pronounced (word ++ " WITH TIME ZONE") := by
  have hall : ∀ word ∈ ["TIME", "TIMESTAMP"], isWord word := by decide
  have hzone : Spells AfterOperand "ZONE".toList [plainWord "ZONE"] :=
    (spells_plainWord (by decide)).mono fun _ => AfterOperand.afterName
  have htime : Spells AfterOperand ("TIME".toList ++ ' ' :: "ZONE".toList) _ :=
    (spells_plainWord (by decide)).append (spells_behind hzone) fun _ _ => afterName_blank _
  have hwith : Spells AfterOperand ("WITH".toList ++ ' ' :: ("TIME".toList ++ ' ' :: "ZONE".toList))
      zoneTokens :=
    (spells_plainWord (by decide)).append (spells_behind htime) fun _ _ => afterName_blank _
  refine ⟨_, ?_, by simp [zoneTokens, plainWord], pronounces_zoned h⟩
  rw [String.toList_append]
  exact (spells_plainWord (hall word h)).append (spells_behind hwith) fun _ _ => afterName_blank _

theorem pronounced_sized {n : Nat} (hn : n < 2 ^ 64) (h : word ∈ ["NUMERIC", "CHAR", "VARCHAR"]) :
    Pronounced (SqlType.withLength word (some n)) := by
  have hall : ∀ word ∈ ["NUMERIC", "CHAR", "VARCHAR"], isWord word := by decide
  obtain ⟨a, ha, hspells⟩ := spells_digits n
  have hbody : Spells AfterOperand (String.ofList (Number.digits n)).toList [.number a false] := by
    rwa [String.toList_ofList]
  exact ⟨_, spells_enclosed (hall word h) hbody, by simp [plainWord], pronounces_sized ha hn h⟩

theorem pronounced_scaled {n m : Nat} (hn : n < 2 ^ 64) (hm : m < 2 ^ 64) :
    Pronounced (SqlType.numeric (some n) (some m)).toSql := by
  obtain ⟨a, ha, hspells⟩ := spells_digits n
  obtain ⟨b, hb, hspells'⟩ := spells_digits m
  have hbody : Spells AfterOperand
      (String.ofList (Number.digits n) ++ "," ++ String.ofList (Number.digits m)).toList
      [.number a false, .symbol ",", .number b false] := by
    simp only [String.toList_append, List.append_assoc, String.toList_ofList]
    exact hspells.append (spells_comma.append hspells' fun _ _ => trivial)
      fun _ _ => afterOperand_comma _
  have htext : (SqlType.numeric (some n) (some m)).toSql = "NUMERIC" ++ "(" ++
      (String.ofList (Number.digits n) ++ "," ++ String.ofList (Number.digits m)) ++ ")" := by
    simp [SqlType.toSql, ← String.toList_inj]
  refine ⟨_, ?_, by simp [plainWord], pronounces_scaled ha hn hb hm⟩
  rw [htext]
  exact spells_enclosed (by decide) hbody

/-- A name that is passed through is passed through again where it is written. -/
structure PassesAgain (name : String) : Prop where
  pronounced : Pronounced name
  notNull : Text.sameWord name "NULL" = false

/-- A type of one word is passed through again. -/
theorem passesAgain_word {name : String} (hword : isWord name) (h : isTypeWord name)
    (hnull : Text.sameWord name "NULL" = false) : PassesAgain name :=
  ⟨pronounced_word hword h, hnull⟩

/-- **The text of a type is read as a type** that is shown by the same text, if this holds of a name
that is passed through. -/
theorem pronounced_toSql {t : SqlType} (hcustom : ∀ name, t = .custom name → PassesAgain name)
    (hsizes : ∀ n ∈ t.sizes, n < 2 ^ 64) : Pronounced t.toSql := by
  have hsized (word : String) (length : Option Nat) (h : word ∈ ["NUMERIC", "CHAR", "VARCHAR"])
      (hlength : ∀ n ∈ length, n < 2 ^ 64) : Pronounced (SqlType.withLength word length) := by
    have hplain : ∀ word ∈ ["NUMERIC", "CHAR", "VARCHAR"], word ∈ plainTypes := by decide
    cases length with
    | none => exact pronounced_plain word (hplain word h)
    | some n => exact pronounced_sized (hlength n rfl) h
  cases t with
  | custom name => exact (hcustom name rfl).pronounced
  | doublePrecision => exact pronounced_double
  | time zoned =>
    cases zoned with
    | true => exact pronounced_zoned "TIME" (by decide)
    | false => exact pronounced_plain _ (by decide)
  | timestamp zoned =>
    cases zoned with
    | true => exact pronounced_zoned "TIMESTAMP" (by decide)
    | false => exact pronounced_plain _ (by decide)
  | char length => exact hsized "CHAR" length (by decide) (by simpa [SqlType.sizes] using hsizes)
  | varchar length =>
    exact hsized "VARCHAR" length (by decide) (by simpa [SqlType.sizes] using hsizes)
  | numeric precision scale =>
    cases precision with
    | none => cases scale <;> exact pronounced_plain "NUMERIC" (by decide)
    | some n =>
      have hn : n < 2 ^ 64 := hsizes n (by simp [SqlType.sizes])
      cases scale with
      | none => exact pronounced_sized hn (by decide)
      | some m => exact pronounced_scaled hn (hsizes m (by simp [SqlType.sizes]))
  | _ => exact pronounced_plain _ (by decide)

section Named

variable {target : CastTarget} {t : SqlType}
  (h : Collaborators.standard.resolveType target = .ok t)
include h

theorem read_of_resolveType : t = .null ∨ ∃ name, SqlType.read name = .ok t := by
  cases target with
  | null => exact .inl (Except.ok.inj h).symm
  | named name =>
    refine .inr ⟨name, ?_⟩
    have hread : readType name = .ok t := h
    unfold readType at hread
    split at hread
    · rename_i t' ht'
      rw [ht', ← Except.ok.inj hread]
    · cases hread

/-- The numbers of a type that a cast names are small. -/
theorem sizes_of_resolveType : ∀ n ∈ t.sizes, n < 2 ^ 64 := by
  intro n hn
  rcases read_of_resolveType h with rfl | ⟨name, hread⟩
  · cases hn
  obtain ⟨ms, -, hms, ht⟩ := SqlType.exists_of_read hread
  have hall : ∀ p ∈ SqlType.namedTypes, ∀ n ∈ (p.2 ms).sizes, n ∈ ms := by
    have hget {m i : Nat} (hm : m ∈ ms[i]?) : m ∈ ms := List.mem_of_getElem? hm
    simp only [SqlType.namedTypes, List.forall_mem_cons]
    and_intros
    all_goals first
      | exact List.forall_mem_nil _
      | (intro n hn
         simp only [SqlType.sizes, List.mem_append, Option.mem_toList] at hn
         rcases hn with hn | hn <;> exact hget hn)
      | exact fun n hn => hget (by simpa [SqlType.sizes] using hn)
  have hbound : (2 : Nat) ^ 32 < 2 ^ 64 := by decide
  rcases ht with rfl | ⟨p, hp, rfl⟩
  · cases hn
  · exact (hms n (hall p hp n hn)).trans hbound

end Named

/-- A text of more than four letters is not the word of the null. -/
theorem sameWord_null_of_length {text : String} (h : 4 < text.length) :
    Text.sameWord text "NULL" = false := by
  rw [Text.sameWord, beq_eq_false_iff_ne]
  intro heq
  have hlength := congrArg String.length heq
  simp only [Text.upper, String.length_ofList, List.length_map, String.length_toList] at hlength
  have hnull : "NULL".length = 4 := rfl
  omega

theorem sameWord_null_toSql {t : SqlType} (hcustom : ∀ name, t = .custom name → PassesAgain name)
    (hnull : t ≠ .null) : Text.sameWord t.toSql "NULL" = false := by
  have hsized (word : String) (n : Nat) (h : 4 ≤ word.length) :
      Text.sameWord (SqlType.withLength word (some n)) "NULL" = false := by
    refine sameWord_null_of_length ?_
    simp only [SqlType.withLength, String.length_append]
    have hmark : "(".length = 1 := rfl
    omega
  cases t with
  | custom name => exact (hcustom name rfl).notNull
  | null => exact absurd rfl hnull
  | char length =>
    cases length with
    | none => decide
    | some n => exact hsized "CHAR" n (by decide)
  | varchar length =>
    cases length with
    | none => decide
    | some n => exact hsized "VARCHAR" n (by decide)
  | numeric precision scale =>
    have hword : Text.sameWord "NUMERIC" "NULL" = false := by decide
    cases precision with
    | none => cases scale <;> exact hword
    | some n =>
      cases scale with
      | none => exact hsized "NUMERIC" n (by decide)
      | some m =>
        refine sameWord_null_of_length ?_
        simp only [SqlType.toSql, String.length_append]
        have hlength : "NUMERIC(".length = 8 := rfl
        omega
  | time zoned | timestamp zoned => cases zoned <;> decide
  | _ => decide

/-- A cast to a type is one to the type that its text names. -/
theorem resolveType_toSql {target : CastTarget} {t : SqlType}
    (h : Collaborators.standard.resolveType target = .ok t)
    (hcustom : ∀ name, t = .custom name → PassesAgain name) {typeClass : TypeClass} :
    Collaborators.standard.resolveType (castTarget ⟨t.toSql, typeClass⟩) = .ok t := by
  by_cases hnull : t = .null
  · subst hnull
    have hword : Text.sameWord SqlType.null.toSql "NULL" = true := by decide
    simp only [castTarget, hword, if_true]
    rfl
  · obtain ⟨name, hread⟩ := (read_of_resolveType h).resolve_left hnull
    have hagain : SqlType.read t.toSql = .ok t := by
      obtain ⟨ms, -, hms, rfl | ⟨p, hp, rfl⟩⟩ := SqlType.exists_of_read hread
      · exact SqlType.read_trimmed hread
      · exact SqlType.read_toSql_of_mem hp hms
    simp only [castTarget, sameWord_null_toSql hcustom hnull, Bool.false_eq_true, if_false]
    show readType _ = _
    rw [readType, hagain]
    rfl

end Sql.Reader

end SqlNormal
