import Mathlib
import SqlNormal.Operator
import SqlNormal.Sql.Keyword
import SqlNormal.Sql.Lexer

/-!
# Splitting a text piece by piece

A text that is put together from pieces is split piece by piece, provided that no piece is followed
by a character that goes on with it.

* `Splits`: the runs of `readToken?`; `tokens?` finds them (`tokens?_of_splits`);
* `Spells`: a piece is split off as some tokens; `Spells.append` joins two pieces;
* the pieces: blanks, words (`spells_word`), quoted strings and names (`spells_string`,
  `spells_name`), paths of names (`spells_dotted`), numerals (`spells_numeral`), marks
  (`spells_mark`) and operators (`spells_operator`);
* `identOf`: a written name as it is split off, and what it stands for (`folded_identOf`).
-/

namespace SqlNormal.Sql

open Text (apostrophe doubleQuote)

/-- What holds of a row of characters is decided along the row, not over all characters. -/
instance (priority := high) decidableForallMem {p : Char → Prop} [DecidablePred p]
    (cs : List Char) : Decidable (∀ c ∈ cs, p c) :=
  List.decidableBAll p cs

instance (priority := high) decidableForallHead {p : Char → Prop} [DecidablePred p]
    (o : Option Char) : Decidable (∀ c ∈ o, p c) :=
  Option.decidableForallMem o

/-- A run of the splitter. No step may leave more than it was given. -/
inductive Splits : List Char → List Token → Prop
  | done : Splits [] []
  | token {c : Char} {rest behind : List Char} {t : Token} {ts : List Token}
      (step : readToken? c rest = some (some t, behind)) (shorter : behind.length ≤ rest.length)
      (more : Splits behind ts) : Splits (c :: rest) (t :: ts)
  | blank {c : Char} {rest behind : List Char} {ts : List Token}
      (step : readToken? c rest = some (none, behind)) (shorter : behind.length ≤ rest.length)
      (more : Splits behind ts) : Splits (c :: rest) ts

/-- The tokens of a text without their places. -/
def tokens? (source : String) : Option (List Token) :=
  (tokenize? source).map fun lexemes => lexemes.map (·.token)

theorem tokenizeFrom?_of_splits {cs : List Char} {ts : List Token} (h : Splits cs ts) :
    ∀ (fuel : Nat) (l : Location) (length : Nat), cs.length ≤ fuel →
      (tokenizeFrom? fuel l length cs).map (fun lexemes => lexemes.map (·.token)) = some ts := by
  induction h with
  | done =>
    intro fuel l length _
    cases fuel <;> rfl
  | @token c rest behind t ts step shorter _ ih =>
    intro fuel l length hfuel
    rw [List.length_cons] at hfuel
    obtain ⟨fuel, rfl⟩ : ∃ n, fuel = n + 1 := ⟨fuel - 1, by omega⟩
    have := ih fuel (l.after ((c :: rest).take (length - behind.length))) behind.length (by omega)
    obtain ⟨lexemes, hlexemes, hts⟩ := Option.map_eq_some_iff.mp this
    rw [tokenizeFrom?, step]
    simp [hlexemes, ← hts]
  | @blank c rest behind ts step shorter _ ih =>
    intro fuel l length hfuel
    rw [List.length_cons] at hfuel
    obtain ⟨fuel, rfl⟩ : ∃ n, fuel = n + 1 := ⟨fuel - 1, by omega⟩
    have := ih fuel (l.after ((c :: rest).take (length - behind.length))) behind.length (by omega)
    obtain ⟨lexemes, hlexemes, hts⟩ := Option.map_eq_some_iff.mp this
    rw [tokenizeFrom?, step]
    simp [hlexemes, ← hts]

/-- What is split in steps is split as a whole. -/
theorem tokens?_of_splits {s : String} {ts : List Token} (h : Splits s.toList ts) :
    tokens? s = some ts :=
  tokenizeFrom?_of_splits h _ _ _ (Nat.le_refl _)

/-! ## Pieces -/

/-- In front of what `next` accepts, a piece is split off as some tokens. -/
def Spells (next : List Char → Prop) (cs : List Char) (ts : List Token) : Prop :=
  ∀ rest more, next rest → Splits rest more → Splits (cs ++ rest) (ts ++ more)

/-- Nothing follows, or one of some characters does. -/
def HeadIn (allowed : List Char) (rest : List Char) : Prop :=
  ∀ c ∈ rest.head?, c ∈ allowed

/-- What follows an operand. -/
def AfterOperand : List Char → Prop :=
  HeadIn [' ', ')', ',']

/-- What follows a name. -/
def AfterName : List Char → Prop :=
  HeadIn [' ', ')', ',', '.', '(']

variable {next next' : List Char → Prop} {cs cs' : List Char} {ts ts' : List Token}

theorem AfterOperand.afterName {rest : List Char} (h : AfterOperand rest) : AfterName rest := by
  have hall : ∀ c ∈ [' ', ')', ','], c ∈ [' ', ')', ',', '.', '('] := by decide
  exact fun c hc => hall c (h c hc)

theorem Spells.mono (h : Spells next cs ts) (hnext : ∀ rest, next' rest → next rest) :
    Spells next' cs ts :=
  fun rest more hr hs => h rest more (hnext rest hr) hs

theorem Spells.append (h : Spells next cs ts) (h' : Spells next' cs' ts')
    (hnext : ∀ rest, next' rest → next (cs' ++ rest)) : Spells next' (cs ++ cs') (ts ++ ts') := by
  intro rest more hr hs
  rw [List.append_assoc, List.append_assoc]
  exact h _ _ (hnext rest hr) (h' rest more hr hs)

/-- A piece of a single token that one step reads. -/
theorem Spells.of_readToken? {c : Char} {t : Token}
    (h : ∀ rest, next rest → readToken? c (cs ++ rest) = some (some t, rest)) :
    Spells next (c :: cs) [t] := by
  intro rest more hr hs
  exact .token (h rest hr) (by simp) hs

theorem spells_blank : Spells (fun _ => True) [' '] [] := by
  intro rest more _ hs
  exact .blank (c := ' ') rfl (Nat.le_refl _) hs

theorem Spells.splits (h : Spells AfterOperand cs ts) : Splits cs ts := by
  have := h [] [] (by simp [AfterOperand, HeadIn]) .done
  simpa using this

/-! ## Quoted pieces -/

theorem undouble?_double {mark : Char} {rest : List Char} (hr : ∀ c ∈ rest.head?, c ≠ mark) :
    ∀ cs, Text.undouble? mark (Text.double mark cs ++ mark :: rest) = some (cs, rest) := by
  intro cs
  induction cs with
  | nil =>
    cases rest with
    | nil => simp [Text.double, Text.undouble?]
    | cons d rest => simp [Text.double, Text.undouble?, hr d rfl]
  | cons c cs ih =>
    by_cases hc : c = mark
    · subst hc
      simp [Text.double, Text.undouble?, ih]
    · have hcons : ∃ d ds, Text.double mark cs ++ mark :: rest = d :: ds := by
        cases h : Text.double mark cs <;> simp
      obtain ⟨d, ds, hds⟩ := hcons
      rw [Text.double, if_neg hc, List.cons_append, hds, Text.undouble?, if_neg hc, ← hds, ih]
      rfl

/-- A string literal. -/
theorem spells_string (s : String) :
    Spells AfterOperand (Text.quoteString s).toList [.string s] := by
  intro rest more hr hs
  have hmark : ∀ c ∈ rest.head?, c ≠ apostrophe := by
    intro c hc
    have := hr c hc
    rintro rfl
    revert this
    decide
  have hstep : readToken? apostrophe (Text.double apostrophe s.toList ++ apostrophe :: rest) =
      some (some (.string s), rest) := by
    unfold readToken?
    dsimp only
    rw [if_neg (by decide), if_pos rfl, undouble?_double hmark]
    simp
  simpa [Text.quoteString, Text.quoteWith] using Splits.token hstep (by simp; omega) hs

/-- A name between marks. -/
theorem spells_quotedName {mark : Char} (hmark : mark = doubleQuote ∨ mark = graveAccent)
    (name : String) :
    Spells AfterName (String.ofList (Text.quoteWith mark name.toList)).toList
      [.word ⟨name, some mark⟩] := by
  intro rest more hr hs
  have hnext : ∀ c ∈ rest.head?, c ≠ mark := by
    intro c hc
    have := hr c hc
    rintro rfl
    revert this
    rcases hmark with rfl | rfl <;> decide
  have hclass : ¬(mark = ' ' ∨ mark = '\t' ∨ mark = '\n' ∨ mark = '\r') ∧ mark ≠ apostrophe := by
    rcases hmark with rfl | rfl <;> decide
  have hstep : readToken? mark (Text.double mark name.toList ++ mark :: rest) =
      some (some (.word ⟨name, some mark⟩), rest) := by
    unfold readToken?
    dsimp only
    rw [if_neg hclass.1, if_neg hclass.2, if_pos hmark, undouble?_double hnext]
    simp
  simpa [Text.quoteWith] using Splits.token hstep (by simp; omega) hs

/-! ## Words -/

/-- A character that a word in ASCII may start with. -/
def isAsciiStart (c : Char) : Bool :=
  c.isAlpha || c == '_'

/-- A character that a word in ASCII may go on with. -/
def isAsciiPart (c : Char) : Bool :=
  c.isAlphanum || c == '_' || c == '$'

/-- What holds of the characters of ASCII one by one holds of them all. -/
theorem forall_ascii {p : Char → Prop} (h : ∀ n < 128, p (Char.ofNat n)) {c : Char}
    (hc : c.toNat < 128) : p c := by
  rw [← Char.ofNat_toNat c]
  exact h _ hc

theorem toNat_lt_of_isAsciiPart {c : Char} (h : isAsciiPart c) : c.toNat < 128 := by
  have hval : c.toNat = c.val.toNat := rfl
  simp only [isAsciiPart, Char.isAlphanum, Char.isAlpha, Char.isUpper, Char.isLower, Char.isDigit,
    Bool.or_eq_true, Bool.and_eq_true, decide_eq_true_eq, beq_iff_eq, ge_iff_le,
    UInt32.le_iff_toNat_le] at h
  rcases h with (((⟨-, h⟩ | ⟨-, h⟩) | ⟨-, h⟩) | rfl) | rfl
  · simp at h
    omega
  · simp at h
    omega
  · simp at h
    omega
  · decide
  · decide

theorem isWordPart_of_isAsciiPart {c : Char} (h : isAsciiPart c) : isWordPart c := by
  have hall : ∀ n < 128, isAsciiPart (Char.ofNat n) → isWordPart (Char.ofNat n) := by
    decide
  exact forall_ascii (p := fun c => isAsciiPart c → isWordPart c) hall (toNat_lt_of_isAsciiPart h) h

theorem isAsciiPart_of_isAsciiStart {c : Char} (h : isAsciiStart c) : isAsciiPart c := by
  rw [isAsciiStart, Bool.or_eq_true] at h
  rcases h with h | h <;> simp [isAsciiPart, Char.isAlphanum, h]

/-- No mark starts like a word. -/
theorem operatorToken?_eq_none {c : Char} (h : isAsciiStart c) (rest : List Char) :
    operatorToken? (c :: rest) = none := by
  have hnonempty : ∀ o ∈ operators, o.1.toList ≠ [] := by decide
  have hoperators : ∀ o ∈ operators, ∀ d ∈ o.1.toList.head?, isAsciiStart d = false := by
    decide
  have hmarks : ∀ d ∈ marks, isAsciiStart d = false := by decide
  have hnone : (operators.find? fun o => o.1.toList.isPrefixOf (c :: rest)) = none := by
    rw [List.find?_eq_none]
    intro o ho hbegins
    cases hlist : o.1.toList with
    | nil => exact hnonempty o ho hlist
    | cons d ds =>
      rw [hlist, List.isPrefixOf_cons_cons, Bool.and_eq_true, beq_iff_eq] at hbegins
      have := hoperators o ho d (by simp [hlist])
      rw [hbegins.1, h] at this
      cases this
  have hmark : ¬ marks.contains c := by
    intro hc
    have := hmarks c (by simpa using hc)
    rw [h] at this
    cases this
  rw [operatorToken?, hnone]
  simp only [hmark]
  rfl

theorem letterToken?_eq {c : Char} {rest : List Char}
    (hr : ∀ d ∈ rest.head?, d ≠ apostrophe ∧ d ≠ doubleQuote ∧ d ≠ '&') :
    letterToken? c rest = some (wordToken [c] rest) := by
  cases rest with
  | nil => rfl
  | cons d rest =>
    obtain ⟨h1, h2, h3⟩ := hr d rfl
    simp [letterToken?, h1, h2, h3]

theorem class_of_isAsciiStart {c : Char} (h : isAsciiStart c) :
    c.isDigit = false ∧ Text.isBlank c = false ∧ isWordStart c := by
  have hall : ∀ n < 128, isAsciiStart (Char.ofNat n) → (Char.ofNat n).isDigit = false ∧
      Text.isBlank (Char.ofNat n) = false ∧ isWordStart (Char.ofNat n) := by
    decide
  exact forall_ascii (p := fun c => isAsciiStart c →
    c.isDigit = false ∧ Text.isBlank c = false ∧ isWordStart c) hall
      (toNat_lt_of_isAsciiPart (isAsciiPart_of_isAsciiStart h)) h

theorem readToken?_word {c : Char} {rest : List Char} (hc : isAsciiStart c)
    (hr : ∀ d ∈ rest.head?, d ≠ apostrophe ∧ d ≠ doubleQuote ∧ d ≠ '&') :
    readToken? c rest = some (some (wordToken [c] rest).1, (wordToken [c] rest).2) := by
  have hne : ∀ d, isAsciiStart d = false → c ≠ d := by
    rintro d hd rfl
    simp [hc] at hd
  obtain ⟨hdigit, hblank, hstart⟩ := class_of_isAsciiStart hc
  unfold readToken?
  simp (disch := decide) only [hne, hdigit, hblank, hstart, letterToken?_eq hr,
    operatorToken?_eq_none hc, Bool.false_eq_true, or_self, if_false, if_true, Option.map_some]
  split
  · rfl
  · split
    · exact absurd rfl (hne '-' (by decide))
    · exact absurd rfl (hne '/' (by decide))
    · exact absurd rfl (hne '@' (by decide))
    · rfl

/-- A word of ASCII letters, digits and signs. -/
theorem spells_word {c : Char} {cs : List Char} (hc : isAsciiStart c) (hcs : cs.all isAsciiPart) :
    Spells AfterName (c :: cs) [.word ⟨String.ofList (c :: cs), none⟩] := by
  refine .of_readToken? fun rest hr => ?_
  have hstop : ∀ d ∈ [' ', ')', ',', '.', '('], isWordPart d = false := by decide
  have hparts : ∀ d ∈ cs, isWordPart d := fun d hd =>
    isWordPart_of_isAsciiPart (List.all_eq_true.mp hcs d hd)
  have hword : wordToken [c] (cs ++ rest) = (.word ⟨String.ofList (c :: cs), none⟩, rest) := by
    rw [wordToken, List.takeWhile_append_of_pos hparts, List.dropWhile_append_of_pos hparts]
    cases rest with
    | nil => simp
    | cons d rest => simp [hstop d (hr d rfl)]
  rw [readToken?_word hc, hword]
  -- no mark may follow the first character, neither in the word nor behind it
  have hmarks : ∀ d, isWordPart d ∨ d ∈ [' ', ')', ',', '.', '('] →
      d ≠ apostrophe ∧ d ≠ doubleQuote ∧ d ≠ '&' := by
    rintro d h
    refine ⟨?_, ?_, ?_⟩ <;> rintro rfl <;> revert h <;> decide
  intro d hd
  refine hmarks d ?_
  cases cs with
  | nil => exact .inr (hr d hd)
  | cons e cs =>
    obtain rfl : e = d := by simpa using hd
    exact .inl (hparts e (by simp))

/-! ## Names -/

/-- A name as it is split off: with marks unless it is plain. -/
def identOf (name : String) : Ident :=
  ⟨name, if Text.isPlain name.toList then none else some doubleQuote⟩

theorem isAsciiPart_of_isPlainPart {c : Char} (h : Text.isPlainPart c) : isAsciiPart c := by
  simp only [Text.isPlainPart, isAsciiPart, Char.isAlphanum, Char.isAlpha, Bool.or_eq_true] at h ⊢
  rcases h with ((h | h) | h) | h <;> simp [h]

theorem isAsciiStart_of_isPlainStart {c : Char} (h : Text.isPlainStart c) : isAsciiStart c := by
  simp only [Text.isPlainStart, isAsciiStart, Char.isAlpha, Bool.or_eq_true] at h ⊢
  rcases h with h | h <;> simp [h]

theorem spells_name (name : String) :
    Spells AfterName (Text.quoteIdent name).toList [.word (identOf name)] := by
  by_cases hplain : Text.isPlain name.toList
  · have hlist : ∃ c cs, name.toList = c :: cs := by
      cases h : name.toList with
      | nil => simp [h, Text.isPlain] at hplain
      | cons c cs => exact ⟨c, cs, rfl⟩
    obtain ⟨c, cs, hlist⟩ := hlist
    rw [Text.quoteIdent, identOf, if_pos hplain, if_pos hplain]
    rw [hlist, Text.isPlain, Bool.and_eq_true] at hplain
    have hcs : cs.all isAsciiPart := List.all_eq_true.mpr fun d hd =>
      isAsciiPart_of_isPlainPart (List.all_eq_true.mp hplain.2 d hd)
    have := spells_word (isAsciiStart_of_isPlainStart hplain.1) hcs
    rwa [← hlist, String.ofList_toList] at this
  · rw [Text.quoteIdent, identOf, if_neg hplain, if_neg hplain]
    exact spells_quotedName (.inl rfl) name

theorem isPlainPart_of_isPlain {cs : List Char} (h : Text.isPlain cs) :
    ∀ c ∈ cs, Text.isPlainPart c := by
  cases cs with
  | nil => nofun
  | cons c cs =>
    rw [Text.isPlain, Bool.and_eq_true] at h
    have hc : Text.isPlainPart c := by
      have := h.1
      simp only [Text.isPlainStart, Text.isPlainPart, Bool.or_eq_true] at this ⊢
      rcases this with h | h <;> simp [h]
    exact List.forall_mem_cons.mpr ⟨hc, List.all_eq_true.mp h.2⟩

/-- The letters of a plain name are small. -/
theorem lower_of_isPlainPart {c : Char} (h : Text.isPlainPart c) :
    c.toLower = c ∧ c.toUpper.toLower = c := by
  have hall : ∀ n < 128, Text.isPlainPart (Char.ofNat n) →
      (Char.ofNat n).toLower = Char.ofNat n ∧ (Char.ofNat n).toUpper.toLower = Char.ofNat n := by
    decide
  exact forall_ascii (p := fun c => Text.isPlainPart c → c.toLower = c ∧ c.toUpper.toLower = c)
    hall (toNat_lt_of_isAsciiPart (isAsciiPart_of_isPlainPart h)) h

theorem lowerFrom_of_isPlainPart : ∀ {cs : List Char} (before : List Char),
    (∀ c ∈ cs, Text.isPlainPart c) → Text.lowerFrom before cs = cs
  | [], _, _ => rfl
  | c :: cs, before, h => by
    have hc := h c (by simp)
    have hlt := toNat_lt_of_isAsciiPart (isAsciiPart_of_isPlainPart hc)
    have ih := lowerFrom_of_isPlainPart (c :: before) (List.forall_mem_cons.mp h).2
    rw [Text.lowerFrom, if_neg (by omega), Text.lowerChar, if_pos hlt,
      (lower_of_isPlainPart hc).1, ih]
    rfl

theorem folded_identOf (name : String) : (identOf name).folded = name := by
  by_cases hplain : Text.isPlain name.toList
  · rw [identOf, if_pos hplain, Ident.folded, if_neg (by simp), Text.lowerCase,
      lowerFrom_of_isPlainPart [] (isPlainPart_of_isPlain hplain), String.ofList_toList]
  · rw [identOf, if_neg hplain]
    rfl

/-- A name that a keyword is spelled like is plain, and it is that keyword in small letters. -/
theorem keyword_identOf (name : String) : Token.keyword (.word (identOf name)) = "" ∨
    Text.isPlain name.toList ∧ name = Text.lower (Token.keyword (.word (identOf name))) := by
  by_cases hplain : Text.isPlain name.toList
  · right
    have hmap : (name.toList.map Char.toUpper).map Char.toLower = name.toList := by
      rw [List.map_map]
      exact (List.map_congr_left fun c hc =>
        (lower_of_isPlainPart (isPlainPart_of_isPlain hplain c hc)).2).trans (List.map_id _)
    rw [identOf, if_pos hplain, Token.keyword, Text.upper, Text.lower, String.toList_ofList, hmap,
      String.ofList_toList]
    exact ⟨hplain, rfl⟩
  · left
    rw [identOf, if_neg hplain]
    rfl

theorem readToken?_point {rest : List Char} (hr : ∀ c ∈ rest.head?, c.isDigit = false) :
    readToken? '.' rest = some (some (.symbol "."), rest) := by
  obtain ⟨htake, hdrop⟩ := @span_digits [] rest rfl hr
  rw [List.nil_append] at htake hdrop
  have hfraction : fractionOf ('.' :: rest) = (['.'], rest) := by
    rw [fractionOf, htake, hdrop]
  have hwhole : ('.' :: rest).takeWhile Char.isDigit = [] ∧
      ('.' :: rest).dropWhile Char.isDigit = '.' :: rest := ⟨rfl, rfl⟩
  have hnumeral : numeral ('.' :: rest) = (.symbol ".", rest) := by
    unfold numeral
    simp only [hwhole.1, hwhole.2, hfraction, List.nil_append]
    rw [dif_neg (by decide)]
  unfold readToken?
  dsimp only
  rw [if_neg (by decide), if_neg (by decide), if_neg (by decide), if_pos (by decide), hnumeral]

theorem spells_point :
    Spells (fun rest => ∀ c ∈ rest.head?, c.isDigit = false) ['.'] [.symbol "."] :=
  .of_readToken? fun _ hr => readToken?_point hr

/-- A path of names as it is split off. -/
def pathTokens : List Ident → List Token
  | [] => []
  | i :: parts => .word i :: parts.flatMap fun i => [.symbol ".", .word i]

/-- A path of names, if none of them begins like a numeral. -/
theorem spells_path {text : Ident → String} : ∀ {parts : List Ident}, parts ≠ [] →
    (∀ i ∈ parts, Spells AfterName (text i).toList [.word i] ∧
      ∃ c cs, (text i).toList = c :: cs ∧ c.isDigit = false) →
    Spells AfterName (".".intercalate (parts.map text)).toList (pathTokens parts)
  | [i], _, h => by
    rw [List.map_singleton, String.intercalate_singleton]
    exact (h i (by simp)).1
  | i :: j :: parts, _, h => by
    obtain ⟨hi, hparts⟩ := List.forall_mem_cons.mp h
    have hsplit : (".".intercalate ((i :: j :: parts).map text)).toList =
        (text i).toList ++ (['.'] ++ (".".intercalate ((j :: parts).map text)).toList) := by
      simp [String.intercalate_cons_cons]
    have hpoint := spells_point.append (spells_path (List.cons_ne_nil j parts) hparts)
      fun rest _ d hd => by
        obtain ⟨c, cs, hlist, hc⟩ := (hparts j (by simp)).2
        have hhead : (".".intercalate ((j :: parts).map text)).toList.head? = some c := by
          cases parts with
          | nil => simp [hlist]
          | cons k parts => simp [String.intercalate_cons_cons, hlist]
        rw [List.head?_append, hhead] at hd
        obtain rfl : c = d := by simpa using hd
        exact hc
    rw [hsplit]
    refine hi.1.append hpoint fun rest _ d hd => ?_
    obtain rfl : '.' = d := by simpa using hd
    decide

/-- A name starts with no digit. -/
theorem head_quoteIdent (name : String) :
    ∃ c cs, (Text.quoteIdent name).toList = c :: cs ∧ (isAsciiStart c ∨ c = doubleQuote) := by
  rw [Text.quoteIdent]
  split
  · rename_i h
    cases hlist : name.toList with
    | nil => simp [hlist, Text.isPlain] at h
    | cons c cs =>
      rw [hlist, Text.isPlain, Bool.and_eq_true] at h
      exact ⟨c, cs, rfl, .inl (isAsciiStart_of_isPlainStart h.1)⟩
  · exact ⟨doubleQuote, _, String.toList_ofList, .inr rfl⟩

theorem head_dotted (name : String) (names : List String) :
    ∃ c cs, (Text.dotted (name :: names)).toList = c :: cs ∧
      (isAsciiStart c ∨ c = doubleQuote) := by
  obtain ⟨c, cs, hlist, hc⟩ := head_quoteIdent name
  cases names with
  | nil => exact ⟨c, cs, by simpa [Text.dotted] using hlist, hc⟩
  | cons name' names =>
    refine ⟨c, cs ++ ('.' :: (Text.dotted (name' :: names)).toList), ?_, hc⟩
    simp [Text.dotted, String.intercalate_cons_cons, hlist]

theorem spells_dotted {names : List String} (hne : names ≠ []) :
    Spells AfterName (Text.dotted names).toList (pathTokens (names.map identOf)) := by
  have hparts : (names.map identOf).map (fun i => Text.quoteIdent i.value) =
      names.map Text.quoteIdent := by
    simp [identOf]
  rw [Text.dotted, ← hparts]
  refine spells_path (by simpa using hne) fun i hi => ?_
  obtain ⟨name, -, rfl⟩ := List.mem_map.mp hi
  obtain ⟨c, cs, hlist, hc⟩ := head_quoteIdent name
  refine ⟨spells_name name, c, cs, hlist, ?_⟩
  rcases hc with hc | rfl
  · exact (class_of_isAsciiStart hc).1
  · rfl

/-! ## Marks, operators and digits -/

theorem spells_opening : Spells (fun _ => True) ['('] [.symbol "("] :=
  .of_readToken? fun _ _ => rfl

theorem spells_closing : Spells (fun _ => True) [')'] [.symbol ")"] :=
  .of_readToken? fun _ _ => rfl

/-- No mark of more than one character has the next character. -/
def Clear (rest : List Char) : Prop :=
  ∀ c ∈ rest.head?, ∀ o ∈ operators, c ∉ o.1.toList

theorem isPrefixOf_append {rest : List Char} : ∀ {o : List Char} (cs : List Char),
    (∀ c ∈ rest.head?, c ∉ o) → o.isPrefixOf (cs ++ rest) = o.isPrefixOf cs
  | [], cs, _ => by simp
  | x :: o, [], h => by
    cases rest with
    | nil => rfl
    | cons d rest =>
      have hd : x ≠ d := by
        rintro rfl
        exact h x rfl (by simp)
      rw [List.nil_append, List.isPrefixOf_cons_cons, beq_false_of_ne hd]
      rfl
  | x :: o, y :: cs, h => by
    have := isPrefixOf_append (o := o) cs fun c hc hmem => h c hc (by simp [hmem])
    rw [List.cons_append, List.isPrefixOf_cons_cons, List.isPrefixOf_cons_cons, this]

theorem operatorToken?_append {cs rest : List Char} {t : Token} (hr : Clear rest)
    (h : operatorToken? cs = some (t, [])) : operatorToken? (cs ++ rest) = some (t, rest) := by
  have hfind : (operators.find? fun o => o.1.toList.isPrefixOf (cs ++ rest)) =
      operators.find? fun o => o.1.toList.isPrefixOf cs :=
    List.find?_congr fun o ho => isPrefixOf_append cs fun c hc => hr c hc o ho
  unfold operatorToken? at h ⊢
  rw [hfind]
  split at h
  · rename_i o ho
    have hbegins := List.find?_some ho
    rw [List.isPrefixOf_iff_prefix] at hbegins
    have hle := hbegins.length_le
    rw [String.length_toList] at hle
    simp only [Option.some.injEq, Prod.mk.injEq, List.drop_eq_nil_iff] at h
    obtain ⟨rfl, hge⟩ := h
    have hlength : o.1.length = cs.length := by omega
    rw [hlength, List.drop_left]
  · rename_i ho
    cases cs with
    | nil => cases h
    | cons c cs =>
      dsimp only at h
      split at h
      · rename_i hc
        simp only [Option.some.injEq, Prod.mk.injEq] at h
        obtain ⟨rfl, rfl⟩ := h
        rw [List.singleton_append]
        exact if_pos hc
      · cases h

/-- The characters that the marks of operators start with. -/
def operatorStarts : List Char :=
  ['+', '-', '*', '/', '%', '|', '=', '<', '>']

theorem readToken?_mark {c : Char} {cs behind : List Char} {t : Token} (hc : c ∈ operatorStarts)
    (hnext : ∀ d ∈ cs.head?, d ≠ '-' ∧ d ≠ '*') (h : operatorToken? (c :: cs) = some (t, behind)) :
    readToken? c cs = some (some t, behind) := by
  simp only [operatorStarts, List.mem_cons, List.not_mem_nil, or_false] at hc
  unfold readToken?
  rcases hc with rfl | rfl | rfl | rfl | rfl | rfl | rfl | rfl | rfl
  all_goals
    dsimp only
    rw [if_neg (by decide), if_neg (by decide), if_neg (by decide), if_neg (by decide),
      if_neg (by decide), if_neg (by decide), if_neg (by decide)]
    split
    · exact absurd rfl (hnext '-' rfl).1
    · exact absurd rfl (hnext '*' rfl).2
    · exact absurd ‹_ = '@'› (by decide)
    · rw [h]

/-- A mark in front of something else. -/
theorem spells_mark {c : Char} {cs : List Char} {t : Token} (hc : c ∈ operatorStarts)
    (hcs : ∀ d ∈ cs, d ≠ '-' ∧ d ≠ '*') (h : operatorToken? (c :: cs) = some (t, [])) :
    Spells Clear (c :: cs) [t] := by
  refine .of_readToken? fun rest hr => readToken?_mark hc ?_ (operatorToken?_append hr h)
  intro d hd
  cases cs with
  | nil =>
    have hmarks : (∃ o ∈ operators, '-' ∈ o.1.toList) ∧ ∃ o ∈ operators, '*' ∈ o.1.toList := by
      decide
    obtain ⟨⟨o, ho, hmem⟩, o', ho', hmem'⟩ := hmarks
    refine ⟨?_, ?_⟩
    · rintro rfl
      exact hr _ hd o ho hmem
    · rintro rfl
      exact hr _ hd o' ho' hmem'
  | cons e cs =>
    obtain rfl : e = d := by simpa using hd
    exact hcs e (by simp)

theorem AfterOperand.clear {rest : List Char} (h : AfterOperand rest) : Clear rest := by
  have hall : ∀ d ∈ [' ', ')', ','], ∀ o ∈ operators, d ∉ o.1.toList := by decide
  exact fun c hc => hall c (h c hc)

/-- The token of a word or mark. -/
def keyToken (key : String) : Token :=
  if key.toList.all Char.isAlpha then .word ⟨key, none⟩ else .symbol key

theorem spells_keyWord {key : String} (hne : key.toList ≠ []) (h : key.toList.all Char.isAlpha) :
    Spells AfterOperand key.toList [keyToken key] := by
  obtain ⟨c, cs, hlist⟩ := List.exists_cons_of_ne_nil hne
  have hword : Spells AfterName (c :: cs) [.word ⟨String.ofList (c :: cs), none⟩] := by
    rw [hlist, List.all_cons, Bool.and_eq_true] at h
    refine spells_word (by simp [isAsciiStart, h.1]) (List.all_eq_true.mpr fun d hd => ?_)
    simp [isAsciiPart, Char.isAlphanum, List.all_eq_true.mp h.2 d hd]
  rw [keyToken, if_pos h]
  rw [← hlist, String.ofList_toList] at hword
  exact hword.mono fun _ => AfterOperand.afterName

theorem spells_keyMark {key : String} {c : Char} {cs : List Char} (hlist : key.toList = c :: cs)
    (hc : c ∈ operatorStarts) (hcs : ∀ d ∈ cs, d ≠ '-' ∧ d ≠ '*')
    (h : operatorToken? (c :: cs) = some (.symbol key, [])) :
    Spells Clear key.toList [keyToken key] := by
  have hstarts : ∀ d ∈ operatorStarts, d.isAlpha = false := by decide
  rw [keyToken, if_neg (by simp [hlist, hstarts c hc]), hlist]
  exact spells_mark hc hcs h

/-- The words and marks that an operator is spelled with. -/
def operatorKeys (op : Operator) : List String :=
  Text.words op.text

theorem spells_keys : ∀ {keys : List String}, keys ≠ [] →
    (∀ key ∈ keys, Spells AfterOperand key.toList [keyToken key]) →
    Spells AfterOperand (" ".intercalate keys).toList (keys.map keyToken)
  | [key], _, h => by
    rw [String.intercalate_singleton]
    exact h key (by simp)
  | key :: key' :: keys, _, h => by
    obtain ⟨hkey, hkeys⟩ := List.forall_mem_cons.mp h
    have ih := spells_keys (List.cons_ne_nil key' keys) hkeys
    rw [String.intercalate_cons_cons, String.toList_append, String.toList_append,
      List.append_assoc]
    refine hkey.append (spells_blank.append ih fun _ _ => trivial) fun rest _ d hd => ?_
    obtain rfl : ' ' = d := by simpa using hd
    decide

/-- An operator in front of a blank, of a closing parenthesis or of nothing. -/
theorem spells_operator (op : Operator) :
    Spells AfterOperand op.text.toList ((operatorKeys op).map keyToken) := by
  have hkeys : op.text = " ".intercalate (operatorKeys op) ∧ operatorKeys op ≠ [] := by
    cases op <;> decide
  have hall : ∀ key ∈ operatorKeys op, key.toList ≠ [] ∧ (key.toList.all Char.isAlpha ∨
      (∀ c ∈ key.toList.head?, c ∈ operatorStarts) ∧
      (∀ d ∈ key.toList.tail, d ≠ '-' ∧ d ≠ '*') ∧
      operatorToken? key.toList = some (.symbol key, [])) := by
    cases op <;> decide
  have hspell : ∀ key ∈ operatorKeys op, Spells AfterOperand key.toList [keyToken key] := by
    intro key hkey
    obtain ⟨hne, hword | ⟨hc, hcs, hmark⟩⟩ := hall key hkey
    · exact spells_keyWord hne hword
    · obtain ⟨c, cs, hlist⟩ := List.exists_cons_of_ne_nil hne
      rw [hlist] at hc hcs hmark
      exact (spells_keyMark hlist (hc c rfl) hcs hmark).mono fun _ => AfterOperand.clear
  rw [hkeys.1]
  exact spells_keys hkeys.2 hspell

/-- A sign in front of something else than a mark. -/
theorem spells_sign {op : Operator} (hop : op.fixity = .before)
    (hsign : op.text.toList.all Char.isAlpha = false) :
    Spells Clear op.text.toList ((operatorKeys op).map keyToken) := by
  cases op <;> first | exact absurd hop (by decide) | skip
  case not => exact absurd hsign (by decide)
  case negate => exact @spells_keyMark "-" _ _ rfl (by decide) nofun (by decide)
  case identity => exact @spells_keyMark "+" _ _ rfl (by decide) nofun (by decide)

/-! ## Numerals -/

theorem isDigit_digitChar {d : Nat} (h : d < 10) : (Number.digitChar d).isDigit := by
  have hall : ∀ d < 10, (Number.digitChar d).isDigit := by decide
  exact hall d h

theorem digitValue?_digitChar {d : Nat} (h : d < 10) :
    Number.digitValue? (Number.digitChar d) = some d := by
  have hall : ∀ d < 10, Number.digitValue? (Number.digitChar d) = some d := by decide
  exact hall d h

theorem isDigit_digits (n : Nat) : Number.digits n ≠ [] ∧ (Number.digits n).all Char.isDigit := by
  induction n using Number.digits.induct with
  | case1 n h =>
    rw [Number.digits, if_pos h]
    simp [isDigit_digitChar h]
  | case2 n h ih =>
    rw [Number.digits, if_neg h]
    simp [ih.2, isDigit_digitChar (Nat.mod_lt n (by decide : 0 < 10))]

/-- The digits of a number denote it. -/
theorem digitsValue_digits (n : Nat) : Number.digitsValue (Number.digits n) = n := by
  induction n using Number.digits.induct with
  | case1 n h =>
    rw [Number.digits, if_pos h]
    simp [Number.digitsValue, digitValue?_digitChar h]
  | case2 n h ih =>
    have hlast := digitValue?_digitChar (Nat.mod_lt n (by decide : 0 < 10))
    rw [Number.digits, if_neg h]
    rw [Number.digitsValue] at ih ⊢
    rw [List.foldl_append, ih]
    simp only [List.foldl_cons, List.foldl_nil, hlast, Option.getD_some]
    omega

/-- An exponent that can be read is digits, perhaps with a sign in front. -/
theorem exists_of_readExponent? {cs : List Char} (h : (Binary64.readExponent? cs).isSome) :
    ∃ sign ds, cs = sign ++ ds ∧ (sign = [] ∨ sign = ['+'] ∨ sign = ['-']) ∧ ds ≠ [] ∧
      ds.all Char.isDigit := by
  have hdigits : ∀ {ds : List Char}, Number.unsigned? ds ≠ none → ds ≠ [] ∧ ds.all Char.isDigit := by
    intro ds hds
    by_contra hno
    exact hds (if_neg hno)
  unfold Binary64.readExponent? at h
  split at h
  · exact ⟨['-'], _, rfl, .inr (.inr rfl), hdigits fun hnone => by simp [hnone] at h⟩
  · exact ⟨['+'], _, rfl, .inr (.inl rfl), hdigits fun hnone => by simp [hnone] at h⟩
  · exact ⟨[], _, rfl, .inl rfl, hdigits fun hnone => by simp [hnone] at h⟩

theorem signOf_append {sign ds : List Char} (hs : sign = [] ∨ sign = ['+'] ∨ sign = ['-'])
    (hne : ds ≠ []) (hd : ds.all Char.isDigit) (rest : List Char) :
    signOf (sign ++ (ds ++ rest)) = (sign, ds ++ rest) := by
  rcases hs with rfl | rfl | rfl
  · obtain ⟨d, ds, rfl⟩ := List.exists_cons_of_ne_nil hne
    have hsign : ¬(d = '+' ∨ d = '-') := by
      rintro (rfl | rfl) <;> simp at hd
    exact if_neg hsign
  · rfl
  · rfl

/-- What can be read behind a mantissa begins with no digit, and it is split off as an exponent. -/
theorem exponentOf_append {cs rest : List Char} (h : (Binary64.readScale? cs).isSome)
    (hr : AfterOperand rest) :
    (∀ c ∈ (cs ++ rest).head?, c.isDigit = false ∧ c ≠ '.' ∧ c ≠ 'x') ∧
      exponentOf (cs ++ rest) = (cs, rest) := by
  have hall : ∀ d ∈ [' ', ')', ','],
      (d.isDigit = false ∧ d ≠ '.' ∧ d ≠ 'x') ∧ ¬(d = 'e' ∨ d = 'E') := by
    decide
  cases cs with
  | nil =>
    refine ⟨fun c hc => (hall c (hr c hc)).1, ?_⟩
    cases rest with
    | nil => rfl
    | cons c rest => exact if_neg (hall c (hr c rfl)).2
  | cons e more =>
    have he : e = 'e' ∨ e = 'E' := by
      by_contra he
      simp [Binary64.readScale?, he] at h
    rw [Binary64.readScale?, if_pos he] at h
    obtain ⟨sign, ds, rfl, hs, hne, hd⟩ := exists_of_readExponent? h
    obtain ⟨htake, hdrop⟩ := span_digits hd fun c hc => (hall c (hr c hc)).1.1
    obtain ⟨d, ds, rfl⟩ := List.exists_cons_of_ne_nil hne
    refine ⟨?_, ?_⟩
    · rintro _ ⟨⟩
      rcases he with rfl | rfl <;> decide
    · rw [List.cons_append, List.append_assoc, exponentOf, if_pos he]
      simp only [signOf_append hs hne hd, htake, hdrop]
      rfl

/-- What can be read behind the whole digits of a numeral begins with no digit, and it is split off
as a fraction and an exponent. -/
theorem fractionOf_append {cs rest : List Char}
    (h : (Binary64.readScale? (Binary64.splitPoint cs).2).isSome) (hr : AfterOperand rest) :
    (∀ c ∈ (cs ++ rest).head?, c.isDigit = false ∧ c ≠ 'x') ∧
      ∃ fraction exponent, cs = fraction ++ exponent ∧
        fractionOf (cs ++ rest) = (fraction, exponent ++ rest) ∧
        exponentOf (exponent ++ rest) = (exponent, rest) ∧
        ((Binary64.splitPoint cs).1 ≠ [] → fraction.any Char.isDigit) := by
  obtain ⟨hhead, hexponent⟩ := exponentOf_append h hr
  by_cases hpoint : ∃ more, cs = '.' :: more
  · obtain ⟨more, rfl⟩ := hpoint
    have hsplit : Binary64.splitPoint ('.' :: more) =
        (more.takeWhile Char.isDigit, more.dropWhile Char.isDigit) := rfl
    rw [hsplit] at hhead hexponent ⊢
    have hmore := List.takeWhile_append_dropWhile (p := Char.isDigit) (l := more)
    have hpart : (more.takeWhile Char.isDigit).all Char.isDigit := List.all_takeWhile
    obtain ⟨htake, hdrop⟩ := span_digits hpart fun c hc => (hhead c hc).1
    rw [← List.append_assoc, hmore] at htake hdrop
    refine ⟨?_, '.' :: more.takeWhile Char.isDigit, more.dropWhile Char.isDigit, ?_, ?_, hexponent,
      fun hne => ?_⟩
    · rintro _ ⟨⟩
      decide
    · rw [List.cons_append, hmore]
    · rw [List.cons_append, fractionOf, htake, hdrop]
    · obtain ⟨d, ds, hds⟩ := List.exists_cons_of_ne_nil hne
      dsimp only at hds
      rw [hds, List.all_cons, Bool.and_eq_true] at hpart
      simp [hds, hpart.1]
  · have hsplit : Binary64.splitPoint cs = ([], cs) := by
      unfold Binary64.splitPoint
      split
      · exact absurd ⟨_, rfl⟩ hpoint
      · rfl
    rw [hsplit] at hhead hexponent ⊢
    refine ⟨fun c hc => ⟨(hhead c hc).1, (hhead c hc).2.2⟩, [], cs, rfl, ?_, hexponent,
      fun hne => absurd rfl hne⟩
    unfold fractionOf
    split
    · rename_i more heq
      exact absurd rfl (hhead '.' (by rw [heq]; rfl)).2.1
    · rfl

/-- **A numeral is split off as it is.** -/
theorem numeral_append (n : Numeral) {rest : List Char} (hr : AfterOperand rest) :
    numeral (n.digits.toList ++ rest) = (.number n false, rest) := by
  obtain ⟨digits, hreadable⟩ := n
  dsimp only
  have hL : ∀ d ∈ [' ', ')', ','], d ≠ 'L' := by decide
  have hcs := (List.takeWhile_append_dropWhile (p := Char.isDigit) (l := digits.toList)).symm
  have hwhole : (digits.toList.takeWhile Char.isDigit).all Char.isDigit := List.all_takeWhile
  unfold Binary64.readMagnitude? at hreadable
  dsimp only at hreadable
  split at hreadable
  · cases hreadable
  rename_i hany
  rw [Option.isSome_map] at hreadable
  generalize digits.toList.takeWhile Char.isDigit = whole at hcs hwhole hany
  generalize digits.toList.dropWhile Char.isDigit = behind at hcs hany hreadable
  obtain ⟨hhead, fraction, exponent, hbehind, hfraction, hexponent, hpart⟩ :=
    fractionOf_append hreadable hr
  obtain ⟨htake, hdrop⟩ := span_digits hwhole fun c hc => (hhead c hc).1
  have hsome : (whole ++ fraction).any Char.isDigit := by
    rw [List.any_append, Bool.or_eq_true]
    by_cases hne : whole = []
    · exact .inr (hpart fun hpoint => hany ⟨hne, hpoint⟩)
    · obtain ⟨d, ds, rfl⟩ := List.exists_cons_of_ne_nil hne
      rw [List.all_cons, Bool.and_eq_true] at hwhole
      exact .inl (by rw [List.any_cons, hwhole.1, Bool.true_or])
  have hdigits : String.ofList (whole ++ fraction ++ exponent) = digits := by
    rw [List.append_assoc, ← hbehind, ← hcs, String.ofList_toList]
  rw [hcs, List.append_assoc]
  unfold numeral
  simp only [htake, hdrop]
  split
  · rename_i more heq
    exact absurd rfl (hhead 'x' (by rw [heq]; rfl)).2
  · simp only [hfraction, hexponent]
    rw [dif_pos hsome]
    split
    · exact absurd rfl (hL 'L' (hr 'L' rfl))
    · simp only [hdigits]
theorem head_numeral (n : Numeral) :
    ∃ c cs, n.digits.toList = c :: cs ∧ (c.isDigit ∨ c = '.') := by
  have hreadable := n.readable
  cases hlist : n.digits.toList with
  | nil =>
    rw [hlist] at hreadable
    cases hreadable
  | cons c cs =>
    refine ⟨c, cs, rfl, ?_⟩
    by_contra hno
    rw [not_or, Bool.not_eq_true] at hno
    obtain ⟨hdigit, hpoint⟩ := hno
    have hsplit : Binary64.splitPoint (c :: cs) = ([], c :: cs) := by
      unfold Binary64.splitPoint
      split
      · rename_i heq
        exact absurd (List.cons.inj heq).1 hpoint
      · rfl
    simp [Binary64.readMagnitude?, hlist, hdigit, hsplit] at hreadable

/-- A numeral. -/
theorem spells_numeral (n : Numeral) :
    Spells AfterOperand n.digits.toList [.number n false] := by
  obtain ⟨c, cs, hlist, hc⟩ := head_numeral n
  have hother : ∀ d, ¬(d.isDigit ∨ d = '.') → c ≠ d := by
    rintro d hd rfl
    exact hd hc
  rw [hlist]
  refine .of_readToken? fun rest hr => ?_
  have hread := numeral_append n hr
  rw [hlist] at hread
  unfold readToken?
  simp (disch := decide) only [hother, hc, or_self, if_false, if_true]
  rw [← List.cons_append, hread]

/-- The digits of a number. -/
theorem spells_digits (n : Nat) : ∃ numeral : Numeral,
    numeral.digits = String.ofList (Number.digits n) ∧
      Spells AfterOperand (Number.digits n) [.number numeral false] := by
  obtain ⟨hne, hdigits⟩ := isDigit_digits n
  obtain ⟨d, ds, hlist⟩ := List.exists_cons_of_ne_nil hne
  have hany : (Number.digits n ++ (fractionOf []).1).any Char.isDigit := by
    rw [hlist, List.all_cons, Bool.and_eq_true] at hdigits
    simp [hlist, hdigits.1]
  have hreadable : (Binary64.readMagnitude? (String.ofList (Number.digits n)).toList).isSome := by
    simpa [fractionOf, exponentOf] using @readable_numeral _ [] [] hdigits hany
  exact ⟨⟨_, hreadable⟩, rfl, by simpa using spells_numeral ⟨_, hreadable⟩⟩

end SqlNormal.Sql
