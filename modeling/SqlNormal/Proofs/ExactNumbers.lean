import SqlNormal.Proofs.Splitting
import SqlNormal.Value

/-!
# Exact numbers that are read back

A numeral is tried as an integer, as a decimal and as a floating-point number. A decimal without
places behind the point is written without the point, and so the reader of integers finds it first.

* `splitSign`, `Number.valueFrom`, `Decimal.State.after`: signs, digits, and what the reader of
  decimals has seen behind them;
* **`Decimal.read?_text`**: a decimal is read back from its written form;
* `Decimal.State.read_cons`, `Decimal.State.digits_of_read`: one character, and a numeral that is
  read as a decimal without places;
* **`Value.ofNumeral?_toSql_iff`**: which exact numbers are read back from their literals;
* **`Value.not_ofNumeral?_toSql`**: `12.` comes back as an integer.
-/

namespace SqlNormal

/-! ## Signs -/

/-- The sign of a number and what stands behind it. -/
def splitSign (cs : List Char) : Int × List Char :=
  match cs with
  | '-' :: rest => (-1, rest)
  | '+' :: rest => (1, rest)
  | _ => (1, cs)

theorem splitSign_eq_self {cs : List Char} (hminus : ∀ rest, cs ≠ '-' :: rest)
    (hplus : ∀ rest, cs ≠ '+' :: rest) : splitSign cs = (1, cs) := by
  unfold splitSign
  split
  · exact absurd rfl (hminus _)
  · exact absurd rfl (hplus _)
  · rfl

theorem splitSign_of_digit {c : Char} {cs : List Char} (hc : c.isDigit) :
    splitSign (c :: cs) = (1, c :: cs) := by
  refine splitSign_eq_self (fun rest h => ?_) fun rest h => ?_
  · obtain ⟨rfl, -⟩ := List.cons.inj h
    cases hc
  · obtain ⟨rfl, -⟩ := List.cons.inj h
    cases hc

theorem splitSign_signed (i : Int) {c : Char} (cs : List Char) (hc : c.isDigit) : ∃ sign : Int,
    splitSign (if i < 0 then '-' :: c :: cs else c :: cs) = (sign, c :: cs) ∧
      sign * i.natAbs = i := by
  split_ifs
  · exact ⟨-1, rfl, by omega⟩
  · exact ⟨1, splitSign_of_digit hc, by omega⟩

theorem splitSign_spec (cs : List Char) :
    ((splitSign cs).1 = 1 ∨ (splitSign cs).1 = -1) ∧ (splitSign cs).2 <:+ cs := by
  unfold splitSign
  split
  · exact ⟨.inr rfl, List.suffix_cons ..⟩
  · exact ⟨.inl rfl, List.suffix_cons ..⟩
  · exact ⟨.inl rfl, List.suffix_rfl⟩

theorem Number.integer?_eq (s : String) : integer? s =
    (unsigned? (splitSign s.toList).2).map fun (n : Nat) => (splitSign s.toList).1 * (n : Int) := by
  have map_eq {f : Int → Int} {sign : Int} (hf : ∀ n : Nat, f n = sign * n) (o : Option Nat) :
      (Option.map f do let n ← o; pure (n : Int)) = o.map fun (n : Nat) => sign * (n : Int) := by
    cases o with
    | none => rfl
    | some n => exact congrArg some (hf n)
  unfold integer?
  split
  · rename_i h
    rw [h]
    exact map_eq (fun n => (Int.neg_one_mul n).symm) _
  · rename_i h
    rw [h]
    exact map_eq (fun n => (Int.one_mul n).symm) _
  · rename_i hminus hplus
    rw [splitSign_eq_self hminus hplus]
    exact map_eq (fun n => (Int.one_mul n).symm) _

theorem Decimal.read?_eq (cs : List Char) : read? cs =
    (State.start.read (splitSign cs).2).bind fun r => ofParts? ((splitSign cs).1 * r.1) r.2 := by
  unfold read?
  split
  rename_i sign rest hsign
  have hsplit : splitSign cs = (sign, rest) := hsign
  rw [hsplit]
  rfl

/-! ## Digits -/

namespace Number

/-- The number that digits denote behind those of `n`. -/
def valueFrom (n : Nat) (cs : List Char) : Nat :=
  cs.foldl (fun n c => 10 * n + (digitValue? c).getD 0) n

theorem digitValue?_eq_some {c : Char} {d : Nat} (h : digitValue? c = some d) :
    c.isDigit ∧ d ≤ 9 := by
  rw [digitValue?] at h
  split_ifs at h with hc
  cases h
  have hle : c.toNat ≤ '9'.toNat := by
    simp only [Char.isDigit, Bool.and_eq_true, decide_eq_true_eq] at hc
    exact UInt32.le_iff_toNat_le.mp hc.2
  refine ⟨hc, ?_⟩
  show c.toNat - 48 ≤ 9
  have : '9'.toNat = 57 := rfl
  omega

theorem valueFrom_cons {c : Char} {d : Nat} (hd : digitValue? c = some d) (n : Nat)
    (cs : List Char) : valueFrom n (c :: cs) = valueFrom (n * 10 + d) cs := by
  rw [valueFrom, List.foldl_cons, hd, Option.getD_some, Nat.mul_comm]
  rfl

theorem valueFrom_append (n : Nat) (cs cs' : List Char) :
    valueFrom n (cs ++ cs') = valueFrom (valueFrom n cs) cs' :=
  List.foldl_append

theorem le_valueFrom (cs : List Char) (n : Nat) : n ≤ valueFrom n cs := by
  induction cs generalizing n with
  | nil => exact Nat.le_refl n
  | cons c cs ih =>
    have := ih (10 * n + (digitValue? c).getD 0)
    rw [valueFrom, List.foldl_cons]
    exact Nat.le_trans (by omega) this

theorem valueFrom_digits (n : Nat) : valueFrom 0 (digits n) = n :=
  Sql.digitsValue_digits n

theorem unsigned?_eq_some {cs : List Char} (hne : cs ≠ []) (hcs : cs.all Char.isDigit) :
    unsigned? cs = some (valueFrom 0 cs) :=
  if_pos ⟨hne, hcs⟩

theorem unsigned?_of_point {cs : List Char} (h : '.' ∈ cs) : unsigned? cs = none := by
  refine if_neg fun hcs => ?_
  cases List.all_eq_true.mp hcs.2 _ h

/-- Padded digits are digits of the same number, as many as the width at least. -/
theorem paddedDigits_spec (width n : Nat) : (paddedDigits width n).all Char.isDigit ∧
    width ≤ (paddedDigits width n).length ∧ valueFrom 0 (paddedDigits width n) = n := by
  have hzeros (k : Nat) : valueFrom 0 (List.replicate k '0') = 0 := by
    induction k with
    | zero => rfl
    | succ k ih =>
      rw [List.replicate_succ, valueFrom_cons (d := 0) rfl]
      exact ih
  refine ⟨?_, ?_, ?_⟩
  · rw [paddedDigits, List.all_append, (Sql.isDigit_digits n).2, Bool.and_true,
      List.all_replicate]
    split_ifs <;> rfl
  · rw [paddedDigits, List.length_append, List.length_replicate]
    omega
  · rw [paddedDigits, valueFrom_append, hzeros, valueFrom_digits]

/-- An integer is read back from its digits. -/
theorem integer?_signedDigits (i : Int) : integer? (String.ofList (signedDigits i)) = some i := by
  obtain ⟨hne, hdigits⟩ := Sql.isDigit_digits i.natAbs
  obtain ⟨c, cs, hcs⟩ := List.exists_cons_of_ne_nil hne
  have hc : c.isDigit := List.all_eq_true.mp hdigits c (by simp [hcs])
  obtain ⟨sign, hsplit, hsign⟩ := splitSign_signed i cs hc
  have hread : unsigned? (c :: cs) = some i.natAbs := by
    rw [← hcs, unsigned?_eq_some hne hdigits, valueFrom_digits]
  rw [integer?_eq, String.toList_ofList, signedDigits, hcs, hsplit, hread, Option.map_some, hsign]

end Number

namespace Decimal

/-! ## Reading what was written -/

/-- What the reader has seen behind one more digit. -/
def State.push (s : State) (d : Nat) : State :=
  ⟨s.magnitude * 10 + d, if s.point then s.scale + 1 else 0, s.point, true⟩

/-- What the reader has seen behind digits. -/
def State.after (s : State) (ds : List Char) : State :=
  ⟨Number.valueFrom s.magnitude ds, s.scale + (if s.point then ds.length else 0), s.point,
    s.digit || !ds.isEmpty⟩

theorem State.after_cons {s : State} (hpoint : s.point = false → s.scale = 0) {c : Char} {d : Nat}
    (hd : Number.digitValue? c = some d) (ds : List Char) :
    s.after (c :: ds) = (s.push d).after ds := by
  have hscale : s.scale + (if s.point then ds.length + 1 else 0) =
      (s.push d).scale + if s.point then ds.length else 0 := by
    cases hp : s.point with
    | false => simp [push, hp, hpoint hp]
    | true =>
      simp only [push, hp, if_true]
      omega
  rw [after, List.length_cons, hscale, Number.valueFrom_cons hd, List.isEmpty_cons, Bool.not_false,
    Bool.or_true]
  rfl

/-- Digits that fit are read. -/
theorem State.read_digits {ds : List Char} (hds : ds.all Char.isDigit) (rest : List Char)
    {s : State} (hpoint : s.point = false → s.scale = 0) (hscale : (s.after ds).scale ≤ 28)
    (hmagnitude : (s.after ds).magnitude < 2 ^ 96) :
    s.read (ds ++ rest) = (s.after ds).read rest := by
  induction ds generalizing s with
  | nil =>
    obtain ⟨magnitude, scale, point, digit⟩ := s
    simp [after, Number.valueFrom]
  | cons c ds ih =>
    obtain ⟨hc, hds⟩ := Bool.and_eq_true_iff.mp (List.all_cons ▸ hds)
    obtain ⟨d, hd⟩ : ∃ d, Number.digitValue? c = some d := ⟨_, if_pos hc⟩
    have hfull : ¬(s.point ∧ s.scale = 28) := by
      rintro ⟨hp, hs⟩
      simp only [after, hp, if_true, List.length_cons] at hscale
      omega
    rw [after_cons hpoint hd] at hscale hmagnitude ⊢
    have hdigit : s.magnitude * 10 + d < 2 ^ 96 :=
      Nat.lt_of_le_of_lt (Number.le_valueFrom ds _) hmagnitude
    have hread : s.read (c :: ds ++ rest) = (s.push d).read (ds ++ rest) := by
      rw [List.cons_append, State.read, if_neg hfull, hd]
      exact if_pos hdigit
    rw [hread]
    exact ih hds (fun hp => by simp [push, show s.point = false from hp]) hscale hmagnitude

/-- The written form of a magnitude: digits, and if the scale is not zero, a point among them. -/
theorem magnitudeText_spec (m k : Nat) : ∃ whole fraction : List Char,
    magnitudeText m k = whole ++ (if k = 0 then [] else '.' :: fraction) ∧ whole ≠ [] ∧
      whole.all Char.isDigit ∧ fraction.all Char.isDigit ∧ fraction.length = k ∧
      Number.valueFrom (Number.valueFrom 0 whole) fraction = m := by
  obtain ⟨hdigits, hlength, hvalue⟩ := Number.paddedDigits_spec (k + 1) m
  generalize hds : Number.paddedDigits (k + 1) m = ds at hdigits hlength hvalue
  refine ⟨ds.take (ds.length - k), ds.drop (ds.length - k), ?_, ?_, ?_, ?_, ?_, ?_⟩
  · rw [magnitudeText, hds]
    split_ifs with hk
    · rw [hk, Nat.sub_zero, List.take_length, List.append_nil]
    · rfl
  · rw [Ne, List.take_eq_nil_iff]
    rintro (h | h)
    · omega
    · rw [h] at hlength
      simp at hlength
  · exact List.all_eq_true.mpr fun c hc => List.all_eq_true.mp hdigits c (List.mem_of_mem_take hc)
  · exact List.all_eq_true.mpr fun c hc => List.all_eq_true.mp hdigits c (List.mem_of_mem_drop hc)
  · rw [List.length_drop]
    omega
  · rw [← Number.valueFrom_append, List.take_append_drop, hvalue]

theorem read_magnitudeText {m k : Nat} (hm : m < 2 ^ 96) (hk : k ≤ 28) :
    State.start.read (magnitudeText m k) = some (m, k) := by
  obtain ⟨whole, fraction, htext, hne, hwhole, hfraction, hlength, hvalue⟩ := magnitudeText_spec m k
  have hfirst : Number.valueFrom 0 whole < 2 ^ 96 :=
    Nat.lt_of_le_of_lt (Number.le_valueFrom fraction _) (hvalue ▸ hm)
  have hafter : State.start.after whole = ⟨Number.valueFrom 0 whole, 0, false, true⟩ := by
    simp [State.after, State.start, hne]
  rw [htext, State.read_digits hwhole _ (fun _ => rfl) (by simp [hafter]) (by simpa [hafter]),
    hafter]
  split_ifs with hzero
  · obtain rfl : fraction = [] := List.length_eq_zero_iff.mp (hlength.trans hzero)
    exact congrArg some (Prod.ext hvalue hzero.symm)
  · have hbehind : State.after ⟨Number.valueFrom 0 whole, 0, true, true⟩ fraction =
        ⟨m, k, true, true⟩ := by
      simp [State.after, hvalue, hlength]
    have hpoint : State.read ⟨Number.valueFrom 0 whole, 0, false, true⟩ ('.' :: fraction) =
        State.read ⟨Number.valueFrom 0 whole, 0, true, true⟩ fraction := rfl
    rw [hpoint, ← List.append_nil fraction, State.read_digits hfraction []
      (fun hp => Bool.noConfusion hp) (by simpa [hbehind]) (by simpa [hbehind]), hbehind]
    rfl

theorem exists_digit_magnitudeText (m k : Nat) :
    ∃ c cs, magnitudeText m k = c :: cs ∧ c.isDigit := by
  obtain ⟨whole, fraction, htext, hne, hwhole, -⟩ := magnitudeText_spec m k
  obtain ⟨c, cs, rfl⟩ := List.exists_cons_of_ne_nil hne
  exact ⟨c, _, htext, (Bool.and_eq_true_iff.mp (List.all_cons ▸ hwhole)).1⟩

theorem splitSign_text (d : Decimal) : ∃ sign : Int,
    splitSign d.text = (sign, magnitudeText d.coefficient.natAbs d.scale) ∧
      sign * d.coefficient.natAbs = d.coefficient := by
  obtain ⟨c, cs, hcs, hc⟩ := exists_digit_magnitudeText d.coefficient.natAbs d.scale
  rw [text, hcs]
  exact splitSign_signed d.coefficient cs hc

/-- **A decimal is read back from its written form.** -/
theorem read?_text (d : Decimal) : read? d.text = some d := by
  obtain ⟨sign, hsplit, hsign⟩ := d.splitSign_text
  rw [read?_eq, hsplit, read_magnitudeText d.coefficient_lt d.scale_le, Option.bind_some, hsign]
  exact dif_pos ⟨d.coefficient_lt, d.scale_le⟩

/-- The written form of a decimal is that of an integer exactly if its scale is zero. -/
theorem integer?_text (d : Decimal) : Number.integer? (String.ofList d.text) =
    if d.scale = 0 then some d.coefficient else none := by
  obtain ⟨sign, hsplit, hsign⟩ := d.splitSign_text
  obtain ⟨whole, fraction, htext, hne, hwhole, -, hlength, hvalue⟩ :=
    magnitudeText_spec d.coefficient.natAbs d.scale
  rw [Number.integer?_eq, String.toList_ofList, hsplit, htext]
  split_ifs with hscale
  · obtain rfl : fraction = [] := List.length_eq_zero_iff.mp (hlength.trans hscale)
    have hmagnitude : Number.valueFrom 0 whole = d.coefficient.natAbs := hvalue
    rw [List.append_nil, Number.unsigned?_eq_some hne hwhole, Option.map_some, hmagnitude, hsign]
  · rw [Number.unsigned?_of_point (by simp)]
    rfl

theorem not_exponent_text (d : Decimal) : ∀ c ∈ d.text, c ≠ 'e' ∧ c ≠ 'E' := by
  obtain ⟨whole, fraction, htext, -, hwhole, hfraction, -⟩ :=
    magnitudeText_spec d.coefficient.natAbs d.scale
  have hdigit {ds : List Char} (hds : ds.all Char.isDigit) : ∀ c ∈ ds, c ≠ 'e' ∧ c ≠ 'E' := by
    intro c hc
    have := List.all_eq_true.mp hds c hc
    constructor <;> rintro rfl <;> cases this
  have hmagnitude : ∀ c ∈ magnitudeText d.coefficient.natAbs d.scale, c ≠ 'e' ∧ c ≠ 'E' := by
    rw [htext]
    intro c hc
    rcases List.mem_append.mp hc with hc | hc
    · exact hdigit hwhole c hc
    · split_ifs at hc
      · cases hc
      · rcases List.mem_cons.mp hc with rfl | hc
        · decide
        · exact hdigit hfraction c hc
  intro c hc
  rw [text] at hc
  split_ifs at hc
  · rcases List.mem_cons.mp hc with rfl | hc
    · decide
    · exact hmagnitude c hc
  · exact hmagnitude c hc

/-! ## What is read as an integer -/

/-- **One character.** It ends a number behind the point that is full, or it is a digit that fits, a
point or an underscore. -/
theorem State.read_cons {s : State} {c : Char} {cs : List Char} {r : Nat × Nat}
    (h : s.read (c :: cs) = some r) :
    (s.point ∧ s.round c = some r ∧ (s.scale = 28 ∨ 2 ^ 96 ≤ s.magnitude * 10 + 9)) ∨
      (∃ d, Number.digitValue? c = some d ∧ (s.push d).read cs = some r) ∨
      (c = '.' ∧ s.point = false ∧ State.read { s with point := true } cs = some r) ∨
      (c = '_' ∧ s.read cs = some r) := by
  rw [State.read] at h
  by_cases hfull : s.point ∧ s.scale = 28
  · rw [if_pos hfull] at h
    exact .inl ⟨hfull.1, h, .inl hfull.2⟩
  rw [if_neg hfull] at h
  cases hd : Number.digitValue? c with
  | some d =>
    rw [hd] at h
    dsimp only at h
    by_cases hfits : s.magnitude * 10 + d < Nat.pow 2 96
    · rw [if_pos hfits] at h
      exact .inr (.inl ⟨d, rfl, h⟩)
    · rw [if_neg hfits] at h
      have hnine := (Number.digitValue?_eq_some hd).2
      have hbound : Nat.pow 2 96 = 2 ^ 96 := rfl
      split_ifs at h with hpoint
      exact .inl ⟨hpoint, h, .inr (by omega)⟩
  | none =>
    rw [hd] at h
    dsimp only at h
    split_ifs at h with hc hc
    · exact .inr (.inr (.inl ⟨hc.1, by simpa using hc.2, h⟩))
    · exact .inr (.inr (.inr ⟨hc.1, h⟩))

/-- At the end of a number no place is lost, unless it is too large for an integer. -/
theorem State.scale_of_round {s : State} {c : Char} {m k : Nat} (h : s.round c = some (m, k)) :
    k = s.scale ∧ s.magnitude ≤ m ∨ 2 ^ 63 < m := by
  have hlast {d : Nat} (h : (if d < 5 then some (s.magnitude, s.scale)
      else if s.magnitude + 1 < Nat.pow 2 96 then some (s.magnitude + 1, s.scale)
      else if s.scale = 0 then none else some ((s.magnitude + 5) / 10, s.scale - 1)) =
        some (m, k)) : k = s.scale ∧ s.magnitude ≤ m ∨ 2 ^ 63 < m := by
    split_ifs at h
    · cases h
      exact .inl ⟨rfl, Nat.le_refl _⟩
    · cases h
      exact .inl ⟨rfl, Nat.le_succ _⟩
    · -- A place is lost only by a full coefficient, a tenth of which is still too large.
      cases h
      right
      have hbound : Nat.pow 2 96 = 2 ^ 96 := rfl
      omega
  unfold State.round at h
  by_cases hc : c = '_' ∨ c = '.'
  · simp only [if_pos hc] at h
    exact hlast (d := 0) h
  · simp only [if_neg hc] at h
    obtain ⟨d, -, h⟩ := Option.bind_eq_some_iff.mp h
    exact hlast h

/-- Behind the point a place that was read is kept. -/
theorem State.scale_of_read {cs : List Char} {s : State} (hscale : 0 < s.scale)
    {m k : Nat} (h : s.read cs = some (m, k)) (hpoint : s.point) : 0 < k ∨ 2 ^ 63 < m := by
  induction cs generalizing s with
  | nil =>
    rw [State.read] at h
    split_ifs at h
    cases h
    exact .inl hscale
  | cons c cs ih =>
    rcases State.read_cons h with ⟨-, hround, -⟩ | ⟨d, -, h⟩ | ⟨-, hnone, -⟩ | ⟨-, h⟩
    · rcases scale_of_round hround with ⟨rfl, -⟩ | hlarge
      · exact .inl hscale
      · exact .inr hlarge
    · exact ih (by simp [push, hpoint]) h hpoint
    · exact absurd hpoint (by simp [hnone])
    · exact ih hscale h hpoint

/-- What is read without underscores and without a point at its end is digits, unless it has places
behind the point or is too large for an integer. -/
theorem State.digits_of_read {cs : List Char} {s : State} (hpoint : s.point = false)
    (hscale : s.scale = 0) (hunderscore : '_' ∉ cs) (hend : cs.getLast? ≠ some '.') {m k : Nat}
    (h : s.read cs = some (m, k)) :
    cs.all Char.isDigit ∧ m = Number.valueFrom s.magnitude cs ∨ 0 < k ∨ 2 ^ 63 < m := by
  induction cs generalizing s with
  | nil =>
    rw [State.read] at h
    split_ifs at h
    cases h
    exact .inl ⟨rfl, rfl⟩
  | cons c cs ih =>
    have hrest : cs.getLast? ≠ some '.' := fun h => hend (by simp [List.getLast?_cons, h])
    have hnext : '_' ∉ cs := fun h => hunderscore (List.mem_cons_of_mem _ h)
    rcases State.read_cons h with ⟨hp, -⟩ | ⟨d, hd, h⟩ | ⟨rfl, -, h⟩ | ⟨rfl, -⟩
    · exact absurd hp (by simp [hpoint])
    · have hpush : (s.push d).point = false := hpoint
      refine (ih hpush (by simp [push, hpoint]) hnext hrest h).imp_left ?_
      rintro ⟨hdigits, hm⟩
      refine ⟨by simp [(Number.digitValue?_eq_some hd).1, hdigits], ?_⟩
      rw [hm, Number.valueFrom_cons hd]
      rfl
    · -- What stands behind the point is a digit: the first place, or one that is too much.
      right
      cases cs with
      | nil => exact absurd rfl hend
      | cons c cs =>
        rcases State.read_cons h with ⟨-, hround, hfull⟩ | ⟨d, -, h⟩ | ⟨-, hnone, -⟩ | ⟨rfl, -⟩
        · right
          rcases scale_of_round hround with ⟨-, hm⟩ | hlarge
          · have hmagnitude : 2 ^ 96 ≤ s.magnitude * 10 + 9 :=
              hfull.resolve_left (by simp [hscale])
            have : s.magnitude ≤ m := hm
            omega
          · exact hlarge
        · exact scale_of_read (by simp [push]) h rfl
        · cases hnone
        · exact absurd (List.mem_cons_self ..) hnext
    · exact absurd (List.mem_cons_self ..) hunderscore

end Decimal

/-! ## Values -/

namespace Value

/-- An exact number. -/
def isExact : Value → Bool
  | integer _ | decimal _ => true
  | _ => false

/-- A decimal that is written as an integer of 64 bits. -/
def isWhole : Value → Bool
  | decimal d => d.scale = 0 ∧ isInt64 d.coefficient
  | _ => false

theorem ofNumeral?_integer {i : Int} (hi : isInt64 i) :
    ofNumeral? (integer i).toSql = some (integer i) := by
  rw [ofNumeral?, toSql, Number.integer?_signedDigits, Option.filter_some, if_pos hi]

theorem ofNumeral?_decimal (d : Decimal) : ofNumeral? (decimal d).toSql =
    some (if (decimal d).isWhole then integer d.coefficient else decimal d) := by
  have hletters : ((String.ofList d.text).toList.contains 'e' ||
      (String.ofList d.text).toList.contains 'E') = false := by
    rw [String.toList_ofList, Bool.or_eq_false_iff]
    refine ⟨?_, ?_⟩ <;> refine Bool.eq_false_iff.mpr fun h => ?_
    · exact (d.not_exponent_text _ (List.contains_iff_mem.mp h)).1 rfl
    · exact (d.not_exponent_text _ (List.contains_iff_mem.mp h)).2 rfl
  rw [ofNumeral?, toSql, Decimal.integer?_text, hletters, String.toList_ofList, Decimal.read?_text]
  by_cases hscale : d.scale = 0
  · by_cases hint : isInt64 d.coefficient <;> simp [isWhole, hscale, hint, Option.filter_some]
  · simp [isWhole, hscale]

/-- Where an exact number comes from. -/
theorem exact_of_ofNumeral? {text : String} {v : Value} (h : ofNumeral? text = some v)
    (hv : v.isExact) : (∃ i, v = integer i ∧ isInt64 i) ∨
      ∃ d, v = decimal d ∧ (Number.integer? text).filter isInt64 = none ∧
        Decimal.read? text.toList = some d := by
  rw [ofNumeral?] at h
  split at h
  · rename_i i hi
    cases h
    exact .inl ⟨i, rfl, (Option.filter_eq_some_iff.mp hi).2⟩
  · rename_i hnone
    dsimp only at h
    split at h
    · rename_i d hd
      cases h
      split_ifs at hd
      exact .inr ⟨d, rfl, hnone, hd⟩
    · obtain ⟨x, -, rfl⟩ := Option.map_eq_some_iff.mp h
      cases hv

/-- A numeral without underscores and without a point at its end is not read as a decimal that is
written as an integer: the reader of integers comes first. -/
theorem isWhole_of_read? {text : String} {d : Decimal} (hunderscore : '_' ∉ text.toList)
    (hend : text.toList.getLast? ≠ some '.')
    (hinteger : (Number.integer? text).filter isInt64 = none)
    (hread : Decimal.read? text.toList = some d) : (decimal d).isWhole = false := by
  obtain ⟨hsign, hsuffix⟩ := splitSign_spec text.toList
  rw [Decimal.read?_eq] at hread
  obtain ⟨⟨m, k⟩, hstate, hparts⟩ := Option.bind_eq_some_iff.mp hread
  rw [Decimal.ofParts?] at hparts
  split_ifs at hparts
  obtain rfl := Option.some.inj hparts
  have hlast : (splitSign text.toList).2.getLast? ≠ some '.' := by
    obtain ⟨front, htext⟩ := hsuffix
    intro h
    rw [← htext, List.getLast?_append, h] at hend
    exact hend rfl
  rcases Decimal.State.digits_of_read rfl rfl (fun h => hunderscore (hsuffix.subset h)) hlast
      hstate with ⟨hdigits, hm⟩ | hscale | hlarge
  · have hne : (splitSign text.toList).2 ≠ [] := by
      intro h
      rw [h] at hstate
      cases hstate
    have hvalue : Number.valueFrom 0 (splitSign text.toList).2 = m := hm.symm
    rw [Number.integer?_eq, Number.unsigned?_eq_some hne hdigits, hvalue, Option.map_some,
      Option.filter_some] at hinteger
    split_ifs at hinteger with hint
    simp [isWhole, hint]
  · simp [isWhole, hscale.ne']
  · have hint : isInt64 ((splitSign text.toList).1 * m) = false := by
      simp only [isInt64, Bool.and_eq_false_iff, decide_eq_false_iff_not]
      have hbound : Int.pow 2 63 = 2 ^ 63 := rfl
      rcases hsign with hsign | hsign <;> rw [hsign] <;> omega
    simp [isWhole, hint]

/-- **An exact number is read back** from the literal that denotes it, unless it is a decimal that
is written as an integer of 64 bits, and then it is that integer. Only numerals with underscores or
with a point at their end denote such decimals. -/
theorem ofNumeral?_toSql_iff (text : String) (v : Value) (h : ofNumeral? text = some v)
    (hv : v.isExact) :
    (ofNumeral? v.toSql = some v ↔ v.isWhole = false) ∧
      (∀ d, v = decimal d → v.isWhole → ofNumeral? v.toSql = some (integer d.coefficient)) ∧
      ('_' ∉ text.toList → text.toList.getLast? ≠ some '.' → v.isWhole = false) := by
  rcases exact_of_ofNumeral? h hv with ⟨i, rfl, hi⟩ | ⟨d, rfl, hinteger, hread⟩
  · exact ⟨⟨fun _ => rfl, fun _ => ofNumeral?_integer hi⟩, nofun, fun _ _ => rfl⟩
  · refine ⟨?_, ?_, fun hunderscore hend => isWhole_of_read? hunderscore hend hinteger hread⟩
    · rw [ofNumeral?_decimal]
      cases (decimal d).isWhole <;> simp
    · rintro _ ⟨⟩ hwhole
      rw [ofNumeral?_decimal, if_pos hwhole]

/-- `12.50` keeps its scale. -/
theorem ofNumeral?_toSql_price :
    let v := decimal ⟨1250, 2, by decide, by decide⟩
    (ofNumeral? "12.50" = some v ∧ v.isExact) ∧ v.toSql = "12.50" ∧
      ofNumeral? v.toSql = some v := by
  intro v
  have hread : ofNumeral? "12.50" = some v := by decide +kernel
  obtain ⟨hiff, -, hwhole⟩ := ofNumeral?_toSql_iff "12.50" v hread rfl
  exact ⟨⟨hread, rfl⟩, by decide +kernel, hiff.mpr (hwhole (by decide) (by decide))⟩

/-- Not every exact number is read back: `12.` is a decimal, and its literal is an integer. -/
theorem not_ofNumeral?_toSql :
    ¬ ∀ (text : String) (v : Value), 'e' ∉ text.toList → 'E' ∉ text.toList →
      ofNumeral? text = some v → v.isExact → ofNumeral? v.toSql = some v := by
  intro h
  have hread : ofNumeral? "12." = some (decimal ⟨12, 0, by decide, by decide⟩) := by decide +kernel
  have hback := h "12." _ (by decide) (by decide) hread rfl
  have hinteger : ofNumeral? (decimal ⟨12, 0, by decide, by decide⟩).toSql = some (integer 12) := by
    decide +kernel
  cases hinteger.symm.trans hback

end Value

end SqlNormal
