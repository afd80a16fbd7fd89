import SqlNormal.Environment.Basic
import SqlNormal.Proofs.Splitting

/-!
# Quoted text that is read back

A string literal ends where it ends, whatever follows it. A path of names is taken apart at the
points outside double quotes, and every part is the name that was written.

* `Text.unquote?_quoteWith`: a quoted text in front of anything but its mark;
* `Text.segments`, `Ident.ofWritten?`, `readPath?`: a text between its points, the name of a piece,
  and a path, with a star at its end or without;
* `segments_intercalate`: what was joined by points is parted there again;
* **`quoted_read_back`**: literals and paths are read back.
-/

namespace SqlNormal

open Text (apostrophe doubleQuote)

namespace Text

/-- A quoted text is read back in front of anything that does not begin with its mark. -/
theorem unquote?_quoteWith {mark : Char} {rest : List Char} (hr : ∀ c ∈ rest.head?, c ≠ mark)
    (cs : List Char) : unquote? mark (quoteWith mark cs ++ rest) = some (cs, rest) := by
  have h := Sql.undouble?_double hr cs
  rw [quoteWith, List.cons_append, List.cons_append, List.append_assoc, unquote?, if_pos rfl]
  exact h

/-! ## Pieces between points -/

/-- The pieces of a text between the points that stand outside double quotes. -/
def segments (quoted : Bool) : List Char → List (List Char)
  | [] => [[]]
  | c :: cs =>
    if c = '.' ∧ quoted = false then [] :: segments false cs
    else (segments (quoted != (c == doubleQuote)) cs).modifyHead (c :: ·)

/-- The text stays in one piece. -/
def Whole (cs : List Char) : Prop :=
  ∀ rest, segments false (cs ++ rest) = (segments false rest).modifyHead (cs ++ ·)

theorem whole_of_forall : ∀ {cs : List Char}, (∀ c ∈ cs, c ≠ '.' ∧ c ≠ doubleQuote) → Whole cs
  | [], _, rest => by
    have hid : (fun p : List Char => [] ++ p) = id := rfl
    rw [List.nil_append, hid, List.modifyHead_id, id]
  | c :: cs, h, rest => by
    obtain ⟨⟨hpoint, hquote⟩, hcs⟩ := List.forall_mem_cons.mp h
    rw [List.cons_append, segments, if_neg fun hp => hpoint hp.1, beq_false_of_ne hquote,
      Bool.bne_false, whole_of_forall hcs rest, List.modifyHead_modifyHead]
    rfl

/-- Between double quotes a text stays in one piece; a quote written twice leaves and comes back. -/
theorem segments_double (rest : List Char) : ∀ cs : List Char,
    segments true (double doubleQuote cs ++ rest) =
      (segments true rest).modifyHead (double doubleQuote cs ++ ·)
  | [] => by
    have hid : (fun p : List Char => double doubleQuote [] ++ p) = id := rfl
    rw [hid, List.modifyHead_id]
    rfl
  | c :: cs => by
    have ih := segments_double rest cs
    by_cases hc : c = doubleQuote
    · subst hc
      rw [double, if_pos rfl, List.cons_append, List.cons_append, segments, if_neg (by decide),
        segments, if_neg (by decide)]
      show ((segments true (double doubleQuote cs ++ rest)).modifyHead _).modifyHead _ = _
      rw [ih, List.modifyHead_modifyHead, List.modifyHead_modifyHead]
      rfl
    · rw [double, if_neg hc, List.cons_append, segments, if_neg (by simp), beq_false_of_ne hc,
        Bool.bne_false, ih, List.modifyHead_modifyHead]
      rfl

theorem whole_quoteWith (cs : List Char) : Whole (quoteWith doubleQuote cs) := by
  intro rest
  have hclosing : segments true (doubleQuote :: rest) =
      (segments false rest).modifyHead (doubleQuote :: ·) := by
    rw [segments, if_neg (by decide)]
    rfl
  rw [quoteWith, List.cons_append, List.cons_append, segments, if_neg (by decide)]
  show (segments true (double doubleQuote cs ++ [doubleQuote] ++ rest)).modifyHead _ = _
  rw [List.append_assoc, List.singleton_append, segments_double, hclosing,
    List.modifyHead_modifyHead, List.modifyHead_modifyHead]
  congr 1
  funext p
  simp

theorem whole_quoteIdent (name : String) : Whole (quoteIdent name).toList := by
  by_cases hplain : isPlain name.toList
  · rw [quoteIdent, if_pos hplain]
    refine whole_of_forall fun c hc => ?_
    have hpart := Sql.isPlainPart_of_isPlain hplain c hc
    constructor <;> rintro rfl <;> exact absurd hpart (by decide)
  · rw [quoteIdent, if_neg hplain, String.toList_ofList]
    exact whole_quoteWith _

/-- What was joined by points is parted there again. -/
theorem segments_intercalate : ∀ {parts : List String}, parts ≠ [] →
    (∀ p ∈ parts, Whole p.toList) →
    segments false (".".intercalate parts).toList = parts.map String.toList
  | [p], _, h => by
    have := h p (by simp) []
    simpa [segments] using this
  | p :: q :: parts, _, h => by
    obtain ⟨hp, hparts⟩ := List.forall_mem_cons.mp h
    have hsplit : (".".intercalate (p :: q :: parts)).toList =
        p.toList ++ '.' :: (".".intercalate (q :: parts)).toList := by
      simp [String.intercalate_cons_cons]
    rw [hsplit, hp, segments, if_pos ⟨rfl, rfl⟩,
      segments_intercalate (List.cons_ne_nil q parts) hparts]
    simp

end Text

/-! ## Paths -/

/-- The identifier of a piece: what stands between double quotes, or the piece as it is. -/
def Ident.ofWritten? (cs : List Char) : Option Ident :=
  if cs.head? = some doubleQuote then
    match Text.unquote? doubleQuote cs with
    | some (name, []) => some ⟨String.ofList name, some doubleQuote⟩
    | _ => none
  else some ⟨String.ofList cs, none⟩

/-- The identifiers of a path, and whether a star stands at its end. -/
def readPath? (cs : List Char) : Option (List Ident × Bool) :=
  let ps := Text.segments false cs
  if ps.getLast? = some ['*'] then (ps.dropLast.mapM Ident.ofWritten?).map (·, true)
  else (ps.mapM Ident.ofWritten?).map (·, false)

theorem Ident.ofWritten?_quoteIdent (name : String) :
    ofWritten? (Text.quoteIdent name).toList = some (Sql.identOf name) := by
  by_cases hplain : Text.isPlain name.toList
  · have hhead : name.toList.head? ≠ some doubleQuote := by
      intro h
      have hpart := Sql.isPlainPart_of_isPlain hplain _ (List.mem_of_head? h)
      exact absurd hpart (by decide)
    rw [Text.quoteIdent, if_pos hplain, ofWritten?, if_neg hhead, Sql.identOf, if_pos hplain,
      String.ofList_toList]
  · have hend : ∀ c ∈ ([] : List Char).head?, c ≠ doubleQuote := by simp
    have hread := Text.unquote?_quoteWith hend name.toList
    rw [List.append_nil] at hread
    have hhead : (Text.quoteWith doubleQuote name.toList).head? = some doubleQuote := rfl
    rw [Text.quoteIdent, if_neg hplain, ofWritten?, String.toList_ofList, if_pos hhead, hread,
      Sql.identOf, if_neg hplain]
    simp only [String.ofList_toList]

theorem mapM_ofWritten?_quoteIdent (names : List String) :
    (names.map fun name => (Text.quoteIdent name).toList).mapM Ident.ofWritten? =
      some (names.map Sql.identOf) := by
  induction names with
  | nil => rfl
  | cons name names ih =>
    rw [List.map_cons, List.mapM_cons, Ident.ofWritten?_quoteIdent, ih]
    rfl

theorem readPath?_dotted {names : List String} (hne : names ≠ []) :
    readPath? (Text.dotted names).toList = some (names.map Sql.identOf, false) := by
  have hsegments : Text.segments false (Text.dotted names).toList =
      names.map fun name => (Text.quoteIdent name).toList := by
    rw [Text.dotted, Text.segments_intercalate (by simpa using hne), List.map_map]
    · rfl
    · rintro _ hp
      obtain ⟨name, -, rfl⟩ := List.mem_map.mp hp
      exact Text.whole_quoteIdent name
  have hlast : (names.map fun name => (Text.quoteIdent name).toList).getLast? ≠ some ['*'] := by
    intro h
    obtain ⟨name, -, hname⟩ := List.mem_map.mp (List.mem_of_getLast? h)
    obtain ⟨c, cs, hlist, hc⟩ := Sql.head_quoteIdent name
    obtain rfl : c = '*' := by simpa [hlist] using (List.cons.inj (hlist.symm.trans hname)).1
    revert hc
    decide
  rw [readPath?, hsegments, if_neg hlast, mapM_ofWritten?_quoteIdent]
  rfl

theorem dotted_star {names : List String} (hne : names ≠ []) :
    Text.dotted names ++ ".*" = ".".intercalate (names.map Text.quoteIdent ++ ["*"]) := by
  induction names with
  | nil => exact absurd rfl hne
  | cons name names ih =>
    cases names with
    | nil =>
      simp only [Text.dotted, List.map_cons, List.map_nil, List.singleton_append,
        String.intercalate_cons_cons, String.intercalate_singleton, String.append_assoc]
      rfl
    | cons name' names =>
      have := ih (List.cons_ne_nil _ _)
      simp only [Text.dotted, List.map_cons, List.cons_append, String.intercalate_cons_cons,
        String.append_assoc] at this ⊢
      rw [this]

theorem readPath?_star {names : List String} (hne : names ≠ []) :
    readPath? (Text.dotted names ++ ".*").toList = some (names.map Sql.identOf, true) := by
  have hsegments : Text.segments false (Text.dotted names ++ ".*").toList =
      (names.map fun name => (Text.quoteIdent name).toList) ++ [['*']] := by
    rw [dotted_star hne, Text.segments_intercalate (by simp), List.map_append, List.map_map]
    · rfl
    · intro p hp
      rcases List.mem_append.mp hp with hp | hp
      · obtain ⟨name, -, rfl⟩ := List.mem_map.mp hp
        exact Text.whole_quoteIdent name
      · obtain rfl := List.mem_singleton.mp hp
        exact Text.whole_of_forall (by decide)
  rw [readPath?, hsegments, if_pos List.getLast?_concat, List.dropLast_concat,
    mapM_ofWritten?_quoteIdent]
  rfl

/-! ## Names -/

/-- The identifiers denote the names, with folding as without, and folding leaves those that stand
without marks as they are. -/
structure Denote (parts : List Ident) (names : List String) : Prop where
  values : parts.map Ident.value = names
  folded : parts.map Collaborators.standard.foldCase = names
  unmarked : ∀ i ∈ parts, i.quote = none → Text.lowerCase i.value = i.value

theorem denote_identOf (names : List String) : Denote (names.map Sql.identOf) names := by
  refine ⟨?_, ?_, ?_⟩
  · rw [List.map_map]
    exact List.map_id _
  · rw [List.map_map]
    exact (List.map_congr_left fun name _ => Sql.folded_identOf name).trans (List.map_id _)
  · intro i hi hquote
    obtain ⟨name, -, rfl⟩ := List.mem_map.mp hi
    have hfolded := Sql.folded_identOf name
    rw [Ident.folded, hquote] at hfolded
    exact hfolded

/-- **Quoted text is read back.** A string literal is read up to its end in front of anything that
does not begin with an apostrophe. The path of a column, and that of all columns of a table, is
read back as the names it was written from. -/
theorem quoted_read_back (s : String) (rest : List Char) (hrest : ∀ c ∈ rest.head?, c ≠ apostrophe)
    (labels : Labels) (qualifier : List String) (name : String) :
    Text.unquote? apostrophe ((Text.quoteString s).toList ++ rest) = some (s.toList, rest) ∧
      (∃ path parts, (Node.column labels qualifier name).toSql = Node.wrap labels path ∧
        readPath? path.toList = some (parts, false) ∧ Denote parts (qualifier ++ [name])) ∧
      ∃ path parts, (Node.columns labels (qualifier ++ [name])).toSql = Node.wrap labels path ∧
        readPath? path.toList = some (parts, true) ∧ Denote parts (qualifier ++ [name]) := by
  have hne : qualifier ++ [name] ≠ [] := by simp
  have hcolumns : (Node.columns labels (qualifier ++ [name])).toSql =
      Node.wrap labels (Text.dotted (qualifier ++ [name]) ++ ".*") := by
    simp [Node.toSql, columnsText]
  have hliteral := Text.unquote?_quoteWith hrest s.toList
  rw [Text.quoteString, String.toList_ofList]
  exact ⟨hliteral, ⟨_, _, by rw [Node.toSql], readPath?_dotted hne, denote_identOf _⟩,
    ⟨_, _, hcolumns, readPath?_star hne, denote_identOf _⟩⟩

theorem quoted_read_back_injection :
    (Text.quoteString "' OR '1'='1").toList = "''' OR ''1''=''1'".toList ∧
      (∀ c ∈ (" AND b".toList).head?, c ≠ apostrophe) ∧
      Text.unquote? apostrophe ((Text.quoteString "' OR '1'='1").toList ++ " AND b".toList) =
        some ("' OR '1'='1".toList, " AND b".toList) ∧
      (Node.column {} ["a.b", ""] "q\"İ").toSql = "\"a.b\".\"\".\"q\"\"İ\"" ∧
      ∃ path parts, (Node.column {} ["a.b", ""] "q\"İ").toSql = Node.wrap {} path ∧
        readPath? path.toList = some (parts, false) ∧ Denote parts ["a.b", "", "q\"İ"] := by
  have hrest : ∀ c ∈ (" AND b".toList).head?, c ≠ apostrophe := by decide
  obtain ⟨hliteral, hcolumn, -⟩ :=
    quoted_read_back "' OR '1'='1" " AND b".toList hrest {} ["a.b", ""] "q\"İ"
  exact ⟨by decide +kernel, hrest, hliteral, by decide +kernel, hcolumn⟩

end SqlNormal
