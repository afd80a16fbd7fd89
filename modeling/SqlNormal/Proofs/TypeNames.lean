import Mathlib
import SqlNormal.SqlType.Reader
import SqlNormal.Proofs.Calendar
import SqlNormal.Proofs.Catalog
import SqlNormal.Proofs.ExactNumbers
import SqlNormal.Proofs.Lines
import SqlNormal.Proofs.Results

/-!
# Type names and their modifiers

A type is written as a base name of the table, with its numbers in parentheses behind it. Such a
name is read as what the table says of the base name; a name that the table does not have stays as
it was.

* `SqlType.read_eq_ok`: what the reader gives, from the parts of a name;
* `SqlType.modifiers?`: the numbers that a name has in its parentheses;
* `SqlType.written`, `SqlType.read_written`: a base name with modifiers, and how it is read;
* `SqlType.places`, `SqlType.keeps_of_mem`: how many modifiers a type has places for, and its text;
* **`SqlType.modifiers_of_read`**, **`SqlType.not_modifiers_of_read`**: which modifiers a type name
  keeps; `TIMESTAMP(3)` loses its own;
* **`SqlType.read_toSql_of_read`**: what was read is read again from its text.
-/

namespace SqlNormal

namespace SqlType

/-! ## Reading -/

/-- What the parentheses of a name hold, read as modifiers. -/
def NameParts.modifiers (name : String) (parts : NameParts) : Except TypeFault (List Nat) :=
  match parts.inner with
  | none => .ok []
  | some inner => readModifiers name inner

/-- The base of a name, as the table spells it. -/
def NameParts.key (parts : NameParts) : String :=
  canonicalBase (parts.base ++ ' ' :: parts.rest)

/-- The type of a name with a base name and modifiers. -/
def ofKey (name key : String) (ms : List Nat) : SqlType :=
  match namedTypes.lookup key with
  | some make => make ms
  | none => custom (Text.trimmed name)

theorem read_of_cut {name : String} {parts : NameParts}
    (h : cutName (Text.trim name.toList) = some parts) :
    read name = parts.modifiers name >>= fun ms => .ok (ofKey name parts.key ms) := by
  simp only [read, h, NameParts.modifiers, ofKey, NameParts.key, Text.trimmed]
  generalize namedTypes.lookup _ = made
  cases parts.inner with
  | none => cases made <;> rfl
  | some inner => cases made <;> rfl

theorem read_eq_ok {name : String} {t : SqlType} : read name = .ok t ↔ ∃ parts ms,
    cutName (Text.trim name.toList) = some parts ∧ parts.modifiers name = .ok ms ∧
      ofKey name parts.key ms = t := by
  cases hcut : cutName (Text.trim name.toList) with
  | none => simp [read, hcut]
  | some parts =>
    rw [read_of_cut hcut, bind_eq_ok]
    simp

theorem readModifier_eq_ok {name : String} {part : List Char} {m : Nat} :
    readModifier name part = .ok m ↔
      Number.naturalBelow? (2 ^ 32) (String.ofList (Text.trim part)) = some m := by
  have hbound : Nat.pow 2 32 = 2 ^ 32 := rfl
  dsimp only [readModifier]
  rw [hbound]
  split <;> simp_all

/-- The name shows in the errors only. -/
theorem NameParts.modifiers_eq_ok {parts : NameParts} {name : String} {ms : List Nat}
    (h : parts.modifiers name = .ok ms) (name' : String) : parts.modifiers name' = .ok ms := by
  unfold modifiers at h ⊢
  split at h
  · exact h
  · exact mapM_eq_ok_mono (fun part m hm => readModifier_eq_ok.mpr (readModifier_eq_ok.mp hm)) h

theorem lt_of_readModifier {name : String} {part : List Char} {m : Nat}
    (h : readModifier name part = .ok m) : m < 2 ^ 32 :=
  of_decide_eq_true (Option.filter_eq_some_iff.mp (readModifier_eq_ok.mp h)).2

theorem NameParts.lt_of_modifiers {parts : NameParts} {name : String} {ms : List Nat}
    (h : parts.modifiers name = .ok ms) : ∀ m ∈ ms, m < 2 ^ 32 := by
  unfold modifiers at h
  split at h
  · cases h
    simp
  · exact (ends_mapM (P := fun _ => True) fun part _ =>
      ⟨fun _ _ => trivial, fun m => lt_of_readModifier⟩).2 ms h

/-- The numbers that a name has in its parentheses. -/
def modifiers? (name : String) : Option (List Nat) :=
  (cutName (Text.trim name.toList)).bind fun parts => (parts.modifiers name).toOption

theorem modifiers?_eq_some {name : String} {ms : List Nat} : modifiers? name = some ms ↔
    ∃ parts, cutName (Text.trim name.toList) = some parts ∧ parts.modifiers name = .ok ms := by
  simp only [modifiers?, Option.bind_eq_some_iff, toOption_eq_some]

/-- Blanks around a name make no difference, also to a name that is passed through. -/
theorem read_trimmed {name : String} {t : SqlType} (h : read name = .ok t) :
    read (Text.trimmed name) = .ok t := by
  obtain ⟨parts, ms, hcut, hmodifiers, htype⟩ := read_eq_ok.mp h
  refine read_eq_ok.mpr ⟨parts, ms, ?_, NameParts.modifiers_eq_ok hmodifiers _, ?_⟩
  · rw [Text.trim_trimmed, hcut]
  · rw [← htype, ofKey, ofKey, Text.trimmed_trimmed]

theorem modifiers?_trimmed {name : String} {ms : List Nat} (h : modifiers? name = some ms) :
    modifiers? (Text.trimmed name) = some ms := by
  obtain ⟨parts, hcut, hmodifiers⟩ := modifiers?_eq_some.mp h
  refine modifiers?_eq_some.mpr ⟨parts, ?_, NameParts.modifiers_eq_ok hmodifiers _⟩
  rw [Text.trim_trimmed, hcut]

/-! ## Writing -/

/-- Modifiers with commas between them. -/
def listed (ms : List Nat) : List Char :=
  [','].intercalate (ms.map Number.digits)

/-- A base name with modifiers in parentheses, if there are any. -/
def written (key : String) : List Nat → String
  | [] => key
  | ms => key ++ "(" ++ String.ofList (listed ms) ++ ")"

theorem toList_written (key : String) {ms : List Nat} (hne : ms ≠ []) :
    (written key ms).toList = key.toList ++ '(' :: (listed ms ++ [')']) := by
  cases ms with
  | nil => exact absurd rfl hne
  | cons m ms => simp [written]

theorem splitCommas_of_not_mem {cs : List Char} (h : ',' ∉ cs) : splitCommas cs = [cs] := by
  induction cs with
  | nil => rfl
  | cons c cs ih =>
    obtain ⟨hc, hcs⟩ := not_or.mp (List.mem_cons.not.mp h)
    rw [splitCommas, if_neg (Ne.symm hc), ih hcs]

theorem splitCommas_append {cs : List Char} (h : ',' ∉ cs) (rest : List Char) :
    splitCommas (cs ++ ',' :: rest) = cs :: splitCommas rest := by
  induction cs with
  | nil => rfl
  | cons c cs ih =>
    obtain ⟨hc, hcs⟩ := not_or.mp (List.mem_cons.not.mp h)
    rw [List.cons_append, splitCommas, if_neg (Ne.symm hc), ih hcs]

theorem comma_not_mem_digits (n : Nat) : ',' ∉ Number.digits n := fun h => by
  cases List.all_eq_true.mp (Sql.isDigit_digits n).2 _ h

theorem splitCommas_listed {ms : List Nat} (hne : ms ≠ []) :
    splitCommas (listed ms) = ms.map Number.digits := by
  induction ms with
  | nil => exact absurd rfl hne
  | cons m ms ih =>
    cases ms with
    | nil =>
      rw [listed, List.map_singleton, List.intercalate_singleton]
      exact splitCommas_of_not_mem (comma_not_mem_digits m)
    | cons m' ms =>
      have hlisted : listed (m :: m' :: ms) = Number.digits m ++ ',' :: listed (m' :: ms) := by
        simp [listed, List.intercalate_cons_cons]
      rw [hlisted, splitCommas_append (comma_not_mem_digits m), ih (by simp)]
      rfl

theorem readModifier_digits (name : String) {m : Nat} (hm : m < 2 ^ 32) :
    readModifier name (Number.digits m) = .ok m := by
  obtain ⟨hne, hdigits⟩ := Sql.isDigit_digits m
  have htrim : Text.trim (Number.digits m) = Number.digits m :=
    Text.trim_of_visible fun c hc =>
      Calendar.isBlank_of_isDigit (List.all_eq_true.mp hdigits c hc)
  have hread : Number.natural? (String.ofList (Number.digits m)) = some m := by
    rw [Number.natural?, String.toList_ofList]
    split
    · rename_i h
      rw [h] at hdigits
      cases hdigits
    · rw [Number.unsigned?_eq_some hne hdigits, Number.valueFrom_digits]
  rw [readModifier_eq_ok, htrim, Number.naturalBelow?, hread]
  exact Option.filter_eq_some_iff.mpr ⟨rfl, decide_eq_true hm⟩

theorem readModifiers_listed (name : String) {ms : List Nat} (hne : ms ≠ [])
    (hms : ∀ m ∈ ms, m < 2 ^ 32) : readModifiers name (listed ms) = .ok ms := by
  rw [readModifiers, splitCommas_listed hne]
  clear hne
  induction ms with
  | nil => rfl
  | cons m ms ih =>
    rw [List.map_cons, List.mapM_cons, readModifier_digits name (hms m (by simp)),
      ih fun m' hm' => hms m' (by simp [hm'])]
    rfl

/-! ## Cutting what was written -/

theorem cutName_of_not_mem {cs : List Char} (h : '(' ∉ cs) :
    cutName cs = some ⟨cs, none, []⟩ := by
  have hdrop : cs.dropWhile (· ≠ '(') = [] :=
    List.dropWhile_eq_nil_iff.mpr fun c hc => by
      simpa using ne_of_mem_of_not_mem hc h
  rw [cutName, hdrop]

theorem cutName_append {cs : List Char} (h : '(' ∉ cs) (inner : List Char) :
    cutName (cs ++ '(' :: (inner ++ [')'])) = some ⟨cs, some inner, []⟩ := by
  have hcs : ∀ c ∈ cs, decide (c ≠ '(') = true := fun c hc => by
    simpa using ne_of_mem_of_not_mem hc h
  rw [cutName, List.dropWhile_append_of_pos hcs, List.takeWhile_append_of_pos hcs]
  simp

/-- A base name of the table is found in its own text. -/
theorem key_spec : ∀ key ∈ namedTypes.map Prod.fst, '(' ∉ key.toList ∧
    Text.trimStart key.toList = key.toList ∧ Text.trim key.toList = key.toList ∧
      key.toList ≠ [] ∧ canonicalBase (key.toList ++ [' ']) = key := by
  decide +kernel

theorem trim_written {key : String} (h : key ∈ namedTypes.map Prod.fst) (ms : List Nat) :
    Text.trim (written key ms).toList = (written key ms).toList := by
  obtain ⟨-, hstart, htrim, hne, -⟩ := key_spec key h
  by_cases hms : ms = []
  · rw [hms]
    exact htrim
  · have htext : (written key ms).toList = (key.toList ++ '(' :: listed ms) ++ [')'] := by
      rw [toList_written key hms]
      simp
    rw [htext, Text.trim_concat_visible (by decide), Text.trimStart_append, hstart,
      if_neg (by simpa using hne)]

/-- What is written is cut into what it was written of. -/
theorem cutName_written {key : String} (h : key ∈ namedTypes.map Prod.fst) {ms : List Nat}
    (hms : ∀ m ∈ ms, m < 2 ^ 32) : ∃ parts,
      cutName (Text.trim (written key ms).toList) = some parts ∧
        (∀ name, parts.modifiers name = .ok ms) ∧ parts.key = key := by
  obtain ⟨hparen, -, -, -, hkey⟩ := key_spec key h
  rw [trim_written h]
  by_cases hne : ms = []
  · rw [hne]
    exact ⟨_, cutName_of_not_mem hparen, fun _ => rfl, hkey⟩
  · rw [toList_written key hne]
    exact ⟨_, cutName_append hparen _, fun name => readModifiers_listed name hne hms, hkey⟩

/-- **Every name of the table, with any modifiers**, is read as the type that the table makes. -/
theorem read_written {key : String} {make : List Nat → SqlType}
    (h : namedTypes.lookup key = some make) {ms : List Nat} (hms : ∀ m ∈ ms, m < 2 ^ 32) :
    read (written key ms) = .ok (make ms) := by
  obtain ⟨parts, hcut, hmodifiers, hkey⟩ :=
    cutName_written (List.mem_map_of_mem (mem_of_lookup h)) hms
  refine read_eq_ok.mpr ⟨parts, ms, hcut, hmodifiers _, ?_⟩
  rw [hkey, ofKey, h]

theorem modifiers?_written {key : String} (h : key ∈ namedTypes.map Prod.fst) {ms : List Nat}
    (hms : ∀ m ∈ ms, m < 2 ^ 32) : modifiers? (written key ms) = some ms := by
  obtain ⟨parts, hcut, hmodifiers, -⟩ := cutName_written h hms
  exact modifiers?_eq_some.mpr ⟨parts, hcut, hmodifiers _⟩

/-! ## The text of a type -/

/-- How many modifiers a type has places for. -/
def places : SqlType → Nat
  | numeric _ _ => 2
  | char _ => 1
  | varchar _ => 1
  | _ => 0

/-- A type of the table is written as a base name and as many modifiers as it has places for, and
these are all that it was made of. -/
def Keeps (make : List Nat → SqlType) : Prop :=
  ∀ ms, (make ms).toSql = written (make []).toSql (ms.take (make ms).places) ∧
    make (ms.take (make ms).places) = make ms

theorem keeps_numeric : Keeps fun ms => numeric ms[0]? ms[1]?
  | [] => ⟨rfl, rfl⟩
  | [_] => ⟨by simp [toSql, withLength, written, listed, places], rfl⟩
  | _ :: _ :: _ => ⟨by
      simp [toSql, withLength, written, listed, places, List.intercalate_cons_cons,
        ← String.toList_inj], rfl⟩

/-- Types with one number. -/
theorem keeps_length {make : Option Nat → SqlType} {key : String}
    (h : ∀ length, (make length).toSql = withLength key length ∧ (make length).places = 1) :
    Keeps fun ms => make ms[0]?
  | [] => ⟨by simp [h, withLength, written], by simp⟩
  | _ :: _ => ⟨by simp [h, withLength, written, listed], by simp [h]⟩

theorem keeps_of_mem : ∀ p ∈ namedTypes, Keeps p.2 := by
  simp only [namedTypes, List.forall_mem_cons]
  and_intros
  all_goals first
    | exact fun _ => ⟨rfl, rfl⟩
    | exact keeps_numeric
    | exact keeps_length fun _ => ⟨rfl, rfl⟩
    | exact List.forall_mem_nil _

/-- A type without modifiers is written as a base name that makes it. -/
theorem lookup_toSql : ∀ p ∈ namedTypes, namedTypes.lookup (p.2 []).toSql = some p.2 := by
  simp only [namedTypes, List.forall_mem_cons]
  and_intros
  all_goals first
    | rfl
    | exact List.forall_mem_nil _

section

variable {p : String × (List Nat → SqlType)} (hp : p ∈ namedTypes) {ms : List Nat}
  (hms : ∀ m ∈ ms, m < 2 ^ 32)

include hp hms

theorem read_toSql_of_mem : read (p.2 ms).toSql = .ok (p.2 ms) := by
  obtain ⟨htext, hmake⟩ := keeps_of_mem p hp ms
  rw [htext, read_written (lookup_toSql p hp) fun m hm => hms m (List.mem_of_mem_take hm), hmake]

theorem modifiers?_toSql_of_mem :
    modifiers? (p.2 ms).toSql = some (ms.take (p.2 ms).places) := by
  have hkey := List.mem_map_of_mem (f := Prod.fst) (mem_of_lookup (lookup_toSql p hp))
  rw [(keeps_of_mem p hp ms).1, modifiers?_written hkey fun m hm => hms m (List.mem_of_mem_take hm)]

end

/-! ## What is read -/

/-- What is read is made by the table, or it is the name passed through. -/
theorem exists_of_read {name : String} {t : SqlType} (h : read name = .ok t) :
    ∃ ms, modifiers? name = some ms ∧ (∀ m ∈ ms, m < 2 ^ 32) ∧
      (t = custom (Text.trimmed name) ∨ ∃ p ∈ namedTypes, t = p.2 ms) := by
  obtain ⟨parts, ms, hcut, hmodifiers, rfl⟩ := read_eq_ok.mp h
  refine ⟨ms, modifiers?_eq_some.mpr ⟨parts, hcut, hmodifiers⟩,
    NameParts.lt_of_modifiers hmodifiers, ?_⟩
  unfold ofKey
  split
  · rename_i make hlookup
    exact .inr ⟨_, mem_of_lookup hlookup, rfl⟩
  · exact .inl rfl

/-- **Which modifiers a type name keeps.** The text of a type has as many of the name's modifiers as
the type has places for, and all of them if the name is passed through. It has exactly those of the
name if and only if the name is passed through or has no more than there are places. -/
theorem modifiers_of_read (name : String) (t : SqlType) (h : read name = .ok t) :
    ∃ ms, modifiers? name = some ms ∧
      (t = custom (Text.trimmed name) → modifiers? t.toSql = some ms) ∧
      (t ≠ custom (Text.trimmed name) → modifiers? t.toSql = some (ms.take t.places)) ∧
      (modifiers? t.toSql = some ms ↔ t = custom (Text.trimmed name) ∨ ms.length ≤ t.places) := by
  obtain ⟨ms, hwritten, hms, ht⟩ := exists_of_read h
  have hpassed (ht : t = custom (Text.trimmed name)) : modifiers? t.toSql = some ms := by
    rw [ht]
    exact modifiers?_trimmed hwritten
  refine ⟨ms, hwritten, hpassed, ?_⟩
  by_cases hcustom : t = custom (Text.trimmed name)
  · exact ⟨fun hne => absurd hcustom hne, iff_of_true (hpassed hcustom) (.inl hcustom)⟩
  · obtain ⟨p, hp, rfl⟩ := ht.resolve_left hcustom
    have hkept := modifiers?_toSql_of_mem hp hms
    refine ⟨fun _ => hkept, ?_⟩
    rw [hkept, Option.some.injEq, List.take_eq_self_iff, or_iff_right hcustom]

/-- A number may have a sign and zeros in front. -/
theorem modifiers_of_read_price :
    read " Decimal( +10 , 02 )" = .ok (numeric (some 10) (some 2)) ∧
      modifiers? (numeric (some 10) (some 2)).toSql = some [10, 2] := by
  have hread : read " Decimal( +10 , 02 )" = .ok (numeric (some 10) (some 2)) := by decide +kernel
  have hwritten : modifiers? " Decimal( +10 , 02 )" = some [10, 2] := by decide +kernel
  obtain ⟨ms, hms, -, -, hkept⟩ := modifiers_of_read _ _ hread
  obtain rfl := Option.some.inj (hwritten.symm.trans hms)
  exact ⟨hread, hkept.mpr (.inr (by decide))⟩

/-- Not every type name keeps its modifiers: a timestamp loses its precision. -/
theorem not_modifiers_of_read :
    ¬ ∀ (name : String) (t : SqlType) (ms : List Nat), read name = .ok t →
      modifiers? name = some ms →
        t = custom (Text.trimmed name) ∨ modifiers? t.toSql = some ms := by
  intro h
  have hread : read "TIMESTAMP(3)" = .ok (timestamp false) := by decide +kernel
  have hkept := h _ _ [3] hread (by decide +kernel)
  revert hkept
  decide +kernel

/-- **Type names stay as they are.** What was read from any name is read again from its text. -/
theorem read_toSql_of_read (name : String) (t : SqlType) (h : read name = .ok t) :
    read t.toSql = .ok t := by
  obtain ⟨ms, -, hms, ht⟩ := exists_of_read h
  rcases ht with rfl | ⟨p, hp, rfl⟩
  · exact read_trimmed h
  · exact read_toSql_of_mem hp hms

/-- Modifiers in the middle of a name that the table does not have, and a name of the table that is
written in another way. -/
theorem read_toSql_of_enum :
    read " Enum (1)  of\u00A0x " = .ok (custom "Enum (1)  of\u00A0x") ∧
      read "Enum (1)  of\u00A0x" = .ok (custom "Enum (1)  of\u00A0x") ∧
      read "dec( 010 , +2 )" = .ok (numeric (some 10) (some 2)) ∧
      (numeric (some 10) (some 2)).toSql = "NUMERIC(10,2)" ∧
      read "NUMERIC(10,2)" = .ok (numeric (some 10) (some 2)) := by
  have hcustom : read " Enum (1)  of\u00A0x " = .ok (custom "Enum (1)  of\u00A0x") := by
    decide +kernel
  have hnumeric : read "dec( 010 , +2 )" = .ok (numeric (some 10) (some 2)) := by decide +kernel
  have htext : (numeric (some 10) (some 2)).toSql = "NUMERIC(10,2)" := by decide +kernel
  refine ⟨hcustom, read_toSql_of_read _ _ hcustom, hnumeric, htext, ?_⟩
  rw [← htext]
  exact read_toSql_of_read _ _ hnumeric

end SqlType

end SqlNormal
