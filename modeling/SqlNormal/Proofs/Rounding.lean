import Mathlib
import SqlNormal.Proofs.ExactNumbers

/-!
# Numbers that are rounded

A numeral without exponent denotes a rational number. The reader of decimals keeps it if it can:
what it cannot keep, because the places or the coefficient do not suffice, it rounds.

* `Number.rational?`: the number that a numeral denotes; `Number.Written`: the digits of a numeral;
* `Decimal.toRat`, `Decimal.Fits`: the number of a decimal, and the numbers that decimals have;
* `Decimal.State.exists_read_of_fits`, `Decimal.State.near_of_read`: what the reader makes of the
  digits behind the point;
* **`Value.rational?_toSql_iff`**: which numbers keep their value, and how far off the others are;
* **`Value.not_rational?_toSql`**: a one in the 29th place is lost.
-/

namespace SqlNormal

/-! ## What numerals denote -/

theorem mem_splitSign {c : Char} {cs : List Char} (hc : c ∈ cs) :
    c = '-' ∨ c = '+' ∨ c ∈ (splitSign cs).2 := by
  unfold splitSign
  split
  · exact (List.mem_cons.mp hc).imp_right .inr
  · exact .inr (List.mem_cons.mp hc)
  · exact .inr (.inr hc)

namespace Number

/-- A number over a power of ten. -/
def scaled (n k : Nat) : ℚ :=
  n / 10 ^ k

theorem scaled_mul_pow (n k l : Nat) : scaled (n * 10 ^ l) (k + l) = scaled n k := by
  unfold scaled
  push_cast
  rw [pow_add]
  field_simp

theorem scaled_nonneg (n k : Nat) : 0 ≤ scaled n k :=
  div_nonneg (Nat.cast_nonneg n) (by positivity)

/-- Numbers of the same scale that are near each other. -/
theorem abs_scaled_sub_le {x y z k : Nat} (hx : 2 * x ≤ 2 * y + z) (hy : 2 * y ≤ 2 * x + z) :
    |scaled x k - scaled y k| ≤ scaled z k / 2 := by
  have hx' : (2 * x : ℚ) ≤ 2 * y + z := by exact_mod_cast hx
  have hy' : (2 * y : ℚ) ≤ 2 * x + z := by exact_mod_cast hy
  have hdiff : |(x : ℚ) - y| ≤ z / 2 := abs_le.mpr ⟨by linarith, by linarith⟩
  unfold scaled
  rw [← sub_div, abs_div, abs_of_pos (by positivity : (0 : ℚ) < 10 ^ k), div_right_comm]
  gcongr

/-- The number that a numeral without exponent denotes: an optional sign, digits with at most one
point, and at least one digit. -/
def rational? (cs : List Char) : Option ℚ :=
  let (sign, rest) := splitSign cs
  let whole := rest.takeWhile Char.isDigit
  let (fraction, behind) := Binary64.splitPoint (rest.dropWhile Char.isDigit)
  if behind = [] ∧ whole ++ fraction ≠ [] then
    some (sign * scaled (digitsValue (whole ++ fraction)) fraction.length)
  else none

/-- Digits before and behind a point, or digits without a point. -/
structure Written (cs whole fraction : List Char) : Prop where
  text : cs = whole ++ '.' :: fraction ∨ cs = whole ∧ fraction = []
  whole_digits : whole.all Char.isDigit
  fraction_digits : fraction.all Char.isDigit
  nonempty : whole ++ fraction ≠ []

theorem Written.mem {cs whole fraction : List Char} (h : Written cs whole fraction) :
    ∀ c ∈ cs, c.isDigit ∨ c = '.' := by
  intro c hc
  rcases h.text with rfl | ⟨rfl, -⟩
  · rcases List.mem_append.mp hc with hc | hc
    · exact .inl (List.all_eq_true.mp h.whole_digits c hc)
    · rcases List.mem_cons.mp hc with rfl | hc
      · exact .inr rfl
      · exact .inl (List.all_eq_true.mp h.fraction_digits c hc)
  · exact .inl (List.all_eq_true.mp h.whole_digits c hc)

/-- The number of a numeral whose digits are known. -/
theorem Written.rational? {cs whole fraction : List Char}
    (h : Written (splitSign cs).2 whole fraction) : rational? cs =
      some ((splitSign cs).1 * scaled (valueFrom 0 (whole ++ fraction)) fraction.length) := by
  have hpoint : ∀ c ∈ ('.' :: fraction).head?, c.isDigit = false := by
    rintro _ ⟨⟩
    rfl
  have hfraction := @Sql.span_digits fraction [] h.fraction_digits nofun
  rw [List.append_nil] at hfraction
  unfold Number.rational?
  rcases h.text with htext | ⟨htext, rfl⟩
  · obtain ⟨htake, hdrop⟩ := Sql.span_digits h.whole_digits hpoint
    simp only [htext, htake, hdrop, Binary64.splitPoint, hfraction]
    exact if_pos ⟨trivial, h.nonempty⟩
  · obtain ⟨htake, hdrop⟩ := @Sql.span_digits whole [] h.whole_digits nofun
    rw [List.append_nil] at htake hdrop
    simp only [htext, htake, hdrop, Binary64.splitPoint]
    exact if_pos ⟨trivial, h.nonempty⟩

/-- What denotes a number is written with digits. -/
theorem exists_written {cs : List Char} {q : ℚ} (h : rational? cs = some q) :
    ∃ whole fraction, Written (splitSign cs).2 whole fraction ∧
      q = (splitSign cs).1 * scaled (valueFrom 0 (whole ++ fraction)) fraction.length := by
  unfold rational? at h
  dsimp only at h
  split_ifs at h with hcond
  obtain ⟨hbehind, hne⟩ := hcond
  refine ⟨_, _, ⟨?_, List.all_takeWhile, ?_, hne⟩, (Option.some.inj h).symm⟩
  · have hrest := (List.takeWhile_append_dropWhile (p := Char.isDigit) (l := (splitSign cs).2)).symm
    generalize (splitSign cs).2.dropWhile Char.isDigit = tail at hrest hbehind
    unfold Binary64.splitPoint at hbehind ⊢
    split at hbehind
    · rename_i more
      left
      have hmore := List.takeWhile_append_dropWhile (p := Char.isDigit) (l := more)
      dsimp only at hbehind
      rw [hbehind, List.append_nil] at hmore
      rwa [hmore]
    · dsimp only at hbehind
      subst hbehind
      exact .inr ⟨hrest.trans (List.append_nil _), rfl⟩
  · unfold Binary64.splitPoint
    split
    · exact List.all_takeWhile
    · rfl

theorem valueFrom_eq (n : Nat) (cs : List Char) :
    valueFrom n cs = n * 10 ^ cs.length + valueFrom 0 cs := by
  induction cs generalizing n with
  | nil => simp [valueFrom]
  | cons c cs ih =>
    have hcons (m : Nat) : valueFrom m (c :: cs) =
        valueFrom (10 * m + (digitValue? c).getD 0) cs := rfl
    rw [hcons, hcons, ih, ih (10 * 0 + _), List.length_cons, pow_succ]
    ring

theorem valueFrom_lt {cs : List Char} (h : cs.all Char.isDigit) :
    valueFrom 0 cs < 10 ^ cs.length := by
  induction cs with
  | nil => exact Nat.one_pos
  | cons c cs ih =>
    obtain ⟨hc, hcs⟩ := Bool.and_eq_true_iff.mp (List.all_cons ▸ h)
    obtain ⟨d, hd⟩ : ∃ d, digitValue? c = some d := ⟨_, if_pos hc⟩
    have hnine := (digitValue?_eq_some hd).2
    have hrest := ih hcs
    rw [valueFrom_cons hd, valueFrom_eq, List.length_cons, pow_succ]
    nlinarith

end Number

namespace Decimal

open Number (scaled valueFrom Written)

/-! ## What decimals denote -/

/-- The number of a decimal. -/
def toRat (d : Decimal) : ℚ :=
  d.coefficient / 10 ^ d.scale

/-- A number of 96 bits over a power of ten of at most 28. -/
def Fits (x : ℚ) : Prop :=
  ∃ n k, n < 2 ^ 96 ∧ k ≤ 28 ∧ x = scaled n k

theorem exists_toRat_iff {sign : Int} (hsign : sign = 1 ∨ sign = -1) (n k : Nat) :
    (∃ d : Decimal, d.toRat = sign * scaled n k) ↔ Fits (scaled n k) := by
  have habs : |(sign : ℚ)| = 1 := by rcases hsign with rfl | rfl <;> norm_num
  constructor
  · rintro ⟨d, hd⟩
    refine ⟨d.coefficient.natAbs, d.scale, d.coefficient_lt, d.scale_le, ?_⟩
    have h := congrArg abs hd
    rw [abs_mul, habs, one_mul, abs_of_nonneg (Number.scaled_nonneg n k), toRat, abs_div,
      abs_of_pos (by positivity : (0 : ℚ) < 10 ^ d.scale)] at h
    rw [← h, scaled, Nat.cast_natAbs, Int.cast_abs]
  · rintro ⟨m, l, hm, hl, hml⟩
    have hnat : (sign * (m : Int)).natAbs < Nat.pow 2 96 := by
      have : Nat.pow 2 96 = 2 ^ 96 := rfl
      rcases hsign with rfl | rfl <;> omega
    refine ⟨⟨sign * m, l, hnat, hl⟩, ?_⟩
    rw [hml, toRat, scaled]
    push_cast
    ring

/-! ## Digits behind the point -/

namespace State

variable {s : State} {c : Char} {cs : List Char} {d : Nat}

/-- There is no room for a digit. -/
def Full (s : State) (d : Nat) : Prop :=
  (s.point ∧ s.scale = 28) ∨ 2 ^ 96 ≤ s.magnitude * 10 + d

theorem read_digit (hd : Number.digitValue? c = some d) (hfull : ¬s.Full d) :
    s.read (c :: cs) = (s.push d).read cs := by
  rw [Full, not_or, not_le] at hfull
  rw [read, if_neg hfull.1, hd]
  exact if_pos hfull.2

theorem read_of_full (hd : Number.digitValue? c = some d) (hfull : s.Full d) :
    s.read (c :: cs) = if s.point then s.round c else none := by
  rw [read]
  by_cases hplaces : s.point ∧ s.scale = 28
  · rw [if_pos hplaces, if_pos hplaces.1]
  · have hroom : ¬s.magnitude * 10 + d < Nat.pow 2 96 :=
      Nat.not_lt.mpr (hfull.resolve_left hplaces)
    rw [if_neg hplaces, hd]
    exact if_neg hroom

theorem round_digit (hd : Number.digitValue? c = some d) :
    s.round c = if d < 5 then some (s.magnitude, s.scale)
      else if s.magnitude + 1 < 2 ^ 96 then some (s.magnitude + 1, s.scale)
      else if s.scale = 0 then none else some ((s.magnitude + 5) / 10, s.scale - 1) := by
  have hc : ¬(c = '_' ∨ c = '.') := by
    rintro (rfl | rfl) <;> cases hd
  simp only [round, if_neg hc, hd]
  rfl

/-- The number of what was read with the digits that follow. -/
def number (s : State) (ds : List Char) : ℚ :=
  scaled (valueFrom s.magnitude ds) (s.scale + ds.length)

theorem number_push (hpoint : s.point) (hd : Number.digitValue? c = some d) (ds : List Char) :
    (s.push d).number ds = s.number (c :: ds) := by
  rw [number, number, Number.valueFrom_cons hd, List.length_cons]
  simp only [push, hpoint, if_true]
  rw [Nat.add_right_comm, Nat.add_assoc]

theorem number_cons (hd : Number.digitValue? c = some d) (ds : List Char) :
    s.number (c :: ds) = scaled ((s.magnitude * 10 + d) * 10 ^ ds.length + valueFrom 0 ds)
      (s.scale + (ds.length + 1)) := by
  rw [number, Number.valueFrom_cons hd, Number.valueFrom_eq, List.length_cons]

/-- A number that fits has nothing but zeros where there is no room. -/
theorem eq_zero_of_fits (hd : Number.digitValue? c = some d) {ds : List Char}
    (hds : ds.all Char.isDigit) (hfull : s.Full d) (hfits : Fits (s.number (c :: ds))) :
    d = 0 ∧ valueFrom 0 ds = 0 := by
  obtain ⟨n, k, hn, hk, heq⟩ := hfits
  have hnine := (Number.digitValue?_eq_some hd).2
  have hrest := Number.valueFrom_lt hds
  rw [number_cons hd] at heq
  generalize valueFrom 0 ds = w at heq hrest ⊢
  generalize ds.length = l at heq hrest
  have hcross : ((s.magnitude * 10 + d) * 10 ^ l + w) * 10 ^ k = n * 10 ^ (s.scale + (l + 1)) := by
    have h := heq
    rw [scaled, scaled, div_eq_div_iff (by positivity) (by positivity)] at h
    exact_mod_cast h
  by_cases hle : k ≤ s.scale
  · -- The places that the number has are read: behind them it has only zeros.
    obtain ⟨j, hj⟩ := Nat.exists_eq_add_of_le hle
    have hmul : s.magnitude * 10 ^ (l + 1) + (d * 10 ^ l + w) = n * 10 ^ j * 10 ^ (l + 1) := by
      refine Nat.eq_of_mul_eq_mul_right (Nat.pow_pos (n := k) (by decide : 0 < 10)) ?_
      rw [hj] at hcross
      calc (s.magnitude * 10 ^ (l + 1) + (d * 10 ^ l + w)) * 10 ^ k
          = ((s.magnitude * 10 + d) * 10 ^ l + w) * 10 ^ k := by ring
        _ = n * 10 ^ (k + j + (l + 1)) := hcross
        _ = n * 10 ^ j * 10 ^ (l + 1) * 10 ^ k := by ring
    have hdvd : 10 ^ (l + 1) ∣ d * 10 ^ l + w :=
      (Nat.dvd_add_right (Nat.dvd_mul_left ..)).mp (hmul ▸ Nat.dvd_mul_left ..)
    have hlt : d * 10 ^ l + w < 10 ^ (l + 1) := by
      rw [pow_succ]
      nlinarith
    have hzero := Nat.eq_zero_of_dvd_of_lt hdvd hlt
    have hd0 : d * 10 ^ l = 0 := by omega
    exact ⟨(Nat.mul_eq_zero.mp hd0).resolve_right (by positivity), by omega⟩
  · -- The number has the place of the digit, and so its coefficient has no room either.
    obtain ⟨j, hj⟩ : ∃ j, k = s.scale + (j + 1) := ⟨k - s.scale - 1, by omega⟩
    have hlarge : 2 ^ 96 ≤ s.magnitude * 10 + d := hfull.resolve_left fun h => by omega
    have hmul : ((s.magnitude * 10 + d) * 10 ^ l + w) * 10 ^ j = n * 10 ^ l := by
      refine Nat.eq_of_mul_eq_mul_right (Nat.pow_pos (n := s.scale + 1) (by decide : 0 < 10)) ?_
      rw [hj] at hcross
      calc ((s.magnitude * 10 + d) * 10 ^ l + w) * 10 ^ j * 10 ^ (s.scale + 1)
          = ((s.magnitude * 10 + d) * 10 ^ l + w) * 10 ^ (s.scale + (j + 1)) := by ring
        _ = n * 10 ^ (s.scale + (l + 1)) := hcross
        _ = n * 10 ^ l * 10 ^ (s.scale + 1) := by ring
    have hle : (s.magnitude * 10 + d) * 10 ^ l ≤ n * 10 ^ l := by
      rw [← hmul]
      exact (Nat.le_add_right ..).trans (Nat.le_mul_of_pos_right _ (by positivity))
    have := Nat.le_of_mul_le_mul_right hle (by positivity)
    omega

/-- **A number that fits is read** with its value. -/
theorem exists_read_of_fits {ds : List Char} (hds : ds.all Char.isDigit) {s : State}
    (hpoint : s.point) (hdigit : s.digit ∨ ds ≠ []) (hmagnitude : s.magnitude < 2 ^ 96)
    (hscale : s.scale ≤ 28) (hfits : Fits (s.number ds)) :
    ∃ m k, s.read ds = some (m, k) ∧ m < 2 ^ 96 ∧ k ≤ 28 ∧ scaled m k = s.number ds := by
  induction ds generalizing s with
  | nil =>
    have hdigit : s.digit := hdigit.resolve_right (by simp)
    exact ⟨s.magnitude, s.scale, if_pos hdigit, hmagnitude, hscale, rfl⟩
  | cons c ds ih =>
    obtain ⟨hc, hds⟩ := Bool.and_eq_true_iff.mp (List.all_cons ▸ hds)
    obtain ⟨d, hd⟩ : ∃ d, Number.digitValue? c = some d := ⟨_, if_pos hc⟩
    by_cases hfull : s.Full d
    · obtain ⟨rfl, hzero⟩ := eq_zero_of_fits hd hds hfull hfits
      refine ⟨s.magnitude, s.scale, ?_, hmagnitude, hscale, ?_⟩
      · rw [read_of_full hd hfull, if_pos hpoint, round_digit hd]
        rfl
      · rw [number_cons hd, hzero, Nat.add_zero, Nat.add_zero, Nat.mul_assoc, ← pow_succ',
          Number.scaled_mul_pow]
    · obtain ⟨hplaces, hroom⟩ := not_or.mp hfull
      have hscale' : (s.push d).scale ≤ 28 := by
        simp only [push, hpoint, if_true]
        have : s.scale ≠ 28 := fun h => hplaces ⟨hpoint, h⟩
        omega
      rw [read_digit hd hfull, ← number_push hpoint hd]
      exact ih hds hpoint (.inl rfl) (Nat.not_le.mp hroom) hscale'
        (number_push hpoint hd ds ▸ hfits)

/-- What there is no room for is rounded to the nearest. -/
theorem near_of_round (hd : Number.digitValue? c = some d) (hmagnitude : s.magnitude < 2 ^ 96)
    {m k l w : Nat} (h : s.round c = some (m, k)) (hw : w < 10 ^ l) :
    |scaled m k - scaled ((s.magnitude * 10 + d) * 10 ^ l + w) (s.scale + (l + 1))| ≤
      scaled 1 k / 2 := by
  have hnine := (Number.digitValue?_eq_some hd).2
  rw [round_digit hd] at h
  -- Both are written with the places of the whole numeral.
  split_ifs at h with hdown hup hlast
  · cases h
    rw [← Number.scaled_mul_pow s.magnitude _ (l + 1), ← Number.scaled_mul_pow 1 _ (l + 1)]
    refine Number.abs_scaled_sub_le ?_ ?_ <;> (rw [pow_succ]; nlinarith)
  · cases h
    rw [← Number.scaled_mul_pow (s.magnitude + 1) _ (l + 1), ← Number.scaled_mul_pow 1 _ (l + 1)]
    refine Number.abs_scaled_sub_le ?_ ?_ <;> (rw [pow_succ]; nlinarith)
  · -- The coefficient is full: its last digit is a five, and a tenth of it is rounded up.
    obtain ⟨k', hk'⟩ := Nat.exists_eq_add_one_of_ne_zero hlast
    have htenth : (s.magnitude + 5) / 10 * 10 = s.magnitude + 5 := by omega
    rw [hk', Nat.add_sub_cancel] at h
    cases h
    rw [hk', ← Number.scaled_mul_pow _ k (l + 2), ← Number.scaled_mul_pow 1 k (l + 2),
      Nat.add_assoc k 1, Nat.add_comm 1]
    generalize (s.magnitude + 5) / 10 = t at htenth ⊢
    have ht : t * 10 * 10 ^ l = (s.magnitude + 5) * 10 ^ l := by rw [htenth]
    have hlow : 0 ≤ d * 10 ^ l := Nat.zero_le _
    have hhigh : d * 10 ^ l ≤ 9 * 10 ^ l := Nat.mul_le_mul_right _ hnine
    clear hmagnitude hup htenth
    refine Number.abs_scaled_sub_le ?_ ?_ <;> (rw [pow_succ, pow_succ]; linarith)

/-- **A number that is read** is near its value: by at most half a unit of its last place. -/
theorem near_of_read {ds : List Char} (hds : ds.all Char.isDigit) {s : State}
    (hpoint : s.point) (hmagnitude : s.magnitude < 2 ^ 96) {m k : Nat}
    (h : s.read ds = some (m, k)) : |scaled m k - s.number ds| ≤ scaled 1 k / 2 := by
  induction ds generalizing s with
  | nil =>
    rw [read] at h
    split_ifs at h
    cases h
    rw [number, List.length_nil, Nat.add_zero]
    refine Number.abs_scaled_sub_le ?_ ?_ <;> simp [valueFrom]
  | cons c ds ih =>
    obtain ⟨hc, hds⟩ := Bool.and_eq_true_iff.mp (List.all_cons ▸ hds)
    obtain ⟨d, hd⟩ : ∃ d, Number.digitValue? c = some d := ⟨_, if_pos hc⟩
    by_cases hfull : s.Full d
    · rw [read_of_full hd hfull, if_pos hpoint] at h
      rw [number_cons hd]
      exact near_of_round hd hmagnitude h (Number.valueFrom_lt hds)
    · rw [read_digit hd hfull] at h
      rw [← number_push hpoint hd]
      have hroom := (not_or.mp hfull).2
      exact ih hds hpoint (Nat.not_le.mp hroom) h

end State

/-! ## Whole numerals -/

theorem State.read_eq_none {ds : List Char} (hds : ds.all Char.isDigit) (rest : List Char)
    {s : State} (hpoint : s.point = false) (hmagnitude : s.magnitude < 2 ^ 96)
    (hlarge : 2 ^ 96 ≤ valueFrom s.magnitude ds) : s.read (ds ++ rest) = none := by
  induction ds generalizing s with
  | nil => exact absurd hmagnitude (Nat.not_lt.mpr hlarge)
  | cons c ds ih =>
    obtain ⟨hc, hds⟩ := Bool.and_eq_true_iff.mp (List.all_cons ▸ hds)
    obtain ⟨d, hd⟩ : ∃ d, Number.digitValue? c = some d := ⟨_, if_pos hc⟩
    rw [List.cons_append]
    by_cases hfull : s.Full d
    · rw [read_of_full hd hfull, hpoint]
      rfl
    · rw [read_digit hd hfull]
      rw [Number.valueFrom_cons hd] at hlarge
      have hroom := (not_or.mp hfull).2
      exact ih hds hpoint (Nat.not_le.mp hroom) hlarge

/-- What the reader has seen up to the point. -/
def State.behind (whole : List Char) : State :=
  ⟨valueFrom 0 whole, 0, true, !whole.isEmpty⟩

/-- A numeral is read digit by digit; without a point it ends as with one that nothing follows. -/
theorem read_of_written {cs whole fraction : List Char} (h : Written cs whole fraction) :
    State.start.read cs = if valueFrom 0 whole < 2 ^ 96 then
      (State.behind whole).read fraction else none := by
  have hafter : State.start.after whole = ⟨valueFrom 0 whole, 0, false, !whole.isEmpty⟩ := by
    simp [State.after, State.start]
  have hread (rest : List Char) : State.start.read (whole ++ rest) =
      if valueFrom 0 whole < 2 ^ 96 then
        State.read ⟨valueFrom 0 whole, 0, false, !whole.isEmpty⟩ rest else none := by
    split_ifs with hsmall
    · rw [State.read_digits h.whole_digits rest (fun _ => rfl) (by simp [hafter])
        (by simpa [hafter]), hafter]
    · exact State.read_eq_none h.whole_digits rest rfl (by decide) (Nat.not_lt.mp hsmall)
  rcases h.text with rfl | ⟨rfl, rfl⟩
  · rw [hread]
    rfl
  · rw [← List.append_nil cs, hread, List.append_nil]
    rfl

theorem number_behind (whole fraction : List Char) : (State.behind whole).number fraction =
    scaled (valueFrom 0 (whole ++ fraction)) fraction.length := by
  rw [Number.valueFrom_append, ← Nat.zero_add fraction.length]
  rfl

theorem lt_of_fits {x : ℚ} (h : Fits x) : x < 2 ^ 96 := by
  obtain ⟨n, k, hn, -, rfl⟩ := h
  have hpow : (1 : ℚ) ≤ 10 ^ k := one_le_pow₀ (by norm_num)
  have hle : scaled n k ≤ n := div_le_self (Nat.cast_nonneg n) hpow
  exact hle.trans_lt (by exact_mod_cast hn)

theorem le_scaled (whole fraction : List Char) :
    (valueFrom 0 whole : ℚ) ≤ scaled (valueFrom 0 (whole ++ fraction)) fraction.length := by
  have hle : valueFrom 0 whole * 10 ^ fraction.length ≤ valueFrom 0 (whole ++ fraction) := by
    rw [Number.valueFrom_append, Number.valueFrom_eq (valueFrom 0 whole)]
    exact Nat.le_add_right ..
  rw [scaled, le_div_iff₀ (by positivity)]
  exact_mod_cast hle

theorem toRat_of_ofParts? {sign : Int} {m k : Nat} {d : Decimal}
    (h : ofParts? (sign * m) k = some d) : d.scale = k ∧ d.toRat = sign * scaled m k := by
  unfold ofParts? at h
  split_ifs at h
  cases h
  refine ⟨rfl, ?_⟩
  rw [toRat, scaled]
  push_cast
  ring

/-- **A decimal of the number that a numeral denotes** is read if there is one. -/
theorem read?_of_rational {cs : List Char} {q : ℚ} (h : Number.rational? cs = some q)
    (hfits : ∃ d : Decimal, d.toRat = q) : ∃ d, read? cs = some d ∧ d.toRat = q := by
  obtain ⟨hsign, -⟩ := splitSign_spec cs
  obtain ⟨whole, fraction, hwritten, rfl⟩ := Number.exists_written h
  rw [exists_toRat_iff hsign] at hfits
  have hsmall : valueFrom 0 whole < 2 ^ 96 := by
    exact_mod_cast (le_scaled whole fraction).trans_lt (lt_of_fits hfits)
  have hdigit : (State.behind whole).digit ∨ fraction ≠ [] := by
    have hne := hwritten.nonempty
    cases whole with
    | nil => exact .inr hne
    | cons c whole => exact .inl rfl
  obtain ⟨m, k, hread, hm, hk, hvalue⟩ := State.exists_read_of_fits hwritten.fraction_digits
    (s := State.behind whole) rfl hdigit hsmall (Nat.zero_le _)
    (number_behind whole fraction ▸ hfits)
  have hparts : ((splitSign cs).1 * (m : Int)).natAbs < Nat.pow 2 96 := by
    have : Nat.pow 2 96 = 2 ^ 96 := rfl
    rcases hsign with hsign | hsign <;> rw [hsign] <;> omega
  obtain ⟨d, hd⟩ : ∃ d, ofParts? ((splitSign cs).1 * m) k = some d := ⟨_, dif_pos ⟨hparts, hk⟩⟩
  refine ⟨d, ?_, ?_⟩
  · rw [read?_eq, read_of_written hwritten, if_pos hsmall, hread]
    exact hd
  · rw [(toRat_of_ofParts? hd).2, hvalue, number_behind]

/-- **A decimal that is read** is near the number that the numeral denotes. -/
theorem abs_toRat_sub_le {cs : List Char} {q : ℚ} (h : Number.rational? cs = some q) {d : Decimal}
    (hd : read? cs = some d) : |d.toRat - q| ≤ 1 / 2 / 10 ^ d.scale := by
  obtain ⟨hsign, -⟩ := splitSign_spec cs
  obtain ⟨whole, fraction, hwritten, rfl⟩ := Number.exists_written h
  rw [read?_eq, read_of_written hwritten] at hd
  obtain ⟨⟨m, k⟩, hread, hparts⟩ := Option.bind_eq_some_iff.mp hd
  split_ifs at hread with hsmall
  obtain ⟨hscale, hvalue⟩ := toRat_of_ofParts? hparts
  have hnear := State.near_of_read hwritten.fraction_digits rfl hsmall hread
  have habs : |((splitSign cs).1 : ℚ)| = 1 := by rcases hsign with h | h <;> rw [h] <;> norm_num
  rw [number_behind] at hnear
  calc |d.toRat - _| = |((splitSign cs).1 : ℚ) * (scaled m k -
          scaled (valueFrom 0 (whole ++ fraction)) fraction.length)| := by rw [hvalue, mul_sub]
    _ = |scaled m k - scaled (valueFrom 0 (whole ++ fraction)) fraction.length| := by
      rw [abs_mul, habs, one_mul]
    _ ≤ scaled 1 k / 2 := hnear
    _ = 1 / 2 / 10 ^ d.scale := by
      rw [hscale, scaled, Nat.cast_one, div_right_comm]

/-- The written form of a decimal denotes its number. -/
theorem rational?_text (d : Decimal) : Number.rational? d.text = some d.toRat := by
  obtain ⟨sign, hsplit, hsign⟩ := d.splitSign_text
  obtain ⟨whole, fraction, htext, hne, hwhole, hfraction, hlength, hvalue⟩ :=
    magnitudeText_spec d.coefficient.natAbs d.scale
  have hwritten : Written (splitSign d.text).2 whole fraction := by
    refine ⟨?_, hwhole, hfraction, List.append_ne_nil_of_left_ne_nil hne _⟩
    rw [hsplit, htext]
    split_ifs with hscale
    · exact .inr ⟨List.append_nil _, List.length_eq_zero_iff.mp (hlength.trans hscale)⟩
    · exact .inl rfl
  have hcoefficient : (d.coefficient : ℚ) = sign * (d.coefficient.natAbs : ℕ) := by
    rw [← Int.cast_natCast d.coefficient.natAbs, ← Int.cast_mul, hsign]
  rw [hwritten.rational?, Number.valueFrom_append, hvalue, hlength, hsplit, toRat, scaled,
    hcoefficient, mul_div_assoc]

end Decimal

/-- The written form of an integer denotes it. -/
theorem Number.rational?_signedDigits (i : Int) : rational? (signedDigits i) = some (i : ℚ) := by
  obtain ⟨hne, hdigits⟩ := Sql.isDigit_digits i.natAbs
  obtain ⟨c, cs, hcs⟩ := List.exists_cons_of_ne_nil hne
  have hc : c.isDigit := List.all_eq_true.mp hdigits c (by simp [hcs])
  obtain ⟨sign, hsplit, hsign⟩ := splitSign_signed i cs hc
  have hsplit' : splitSign (signedDigits i) = (sign, digits i.natAbs) := by
    rw [signedDigits, hcs, hsplit]
  have hwritten : Written (splitSign (signedDigits i)).2 (digits i.natAbs) [] :=
    ⟨.inr ⟨congrArg Prod.snd hsplit', rfl⟩, hdigits, rfl, by simpa using hne⟩
  have hi : (i : ℚ) = sign * (i.natAbs : ℕ) := by
    rw [← Int.cast_natCast i.natAbs, ← Int.cast_mul, hsign]
  rw [hwritten.rational?, List.append_nil, valueFrom_digits, hsplit', hi]
  simp [scaled]

/-! ## Values -/

namespace Value

/-- The number of an exact value. -/
def number? : Value → Option ℚ
  | integer i => some i
  | decimal d => some d.toRat
  | _ => none

/-- The places behind the point of a value. -/
def places : Value → Nat
  | decimal d => d.scale
  | _ => 0

/-- The literal of an exact value denotes its number. -/
theorem rational?_toSql {v : Value} {q : ℚ} (h : v.number? = some q) :
    Number.rational? v.toSql.toList = some q := by
  cases v with
  | integer i =>
    obtain rfl := Option.some.inj h
    rw [toSql, String.toList_ofList, Number.rational?_signedDigits]
  | decimal d =>
    obtain rfl := Option.some.inj h
    rw [toSql, String.toList_ofList, d.rational?_text]
  | _ => cases h

theorem ofNumeral?_eq_integer {text : String} {i : Int}
    (h : ofNumeral? text = some (integer i)) : Number.integer? text = some i ∧ isInt64 i := by
  rw [ofNumeral?] at h
  split at h
  · rename_i j hj
    cases h
    exact Option.filter_eq_some_iff.mp hj
  · dsimp only at h
    split at h
    · cases h
    · obtain ⟨x, -, hx⟩ := Option.map_eq_some_iff.mp h
      cases hx

/-- A numeral that is read as an integer denotes it. -/
theorem eq_of_integer? {text : String} {i : Int} {q : ℚ} (hi : Number.integer? text = some i)
    (h : Number.rational? text.toList = some q) : q = i := by
  rw [Number.integer?_eq] at hi
  obtain ⟨n, hn, rfl⟩ := Option.map_eq_some_iff.mp hi
  unfold Number.unsigned? at hn
  split_ifs at hn with hdigits
  have hwritten : Number.Written (splitSign text.toList).2 (splitSign text.toList).2 [] :=
    ⟨.inr ⟨rfl, rfl⟩, hdigits.2, rfl, by simpa using hdigits.1⟩
  rw [hwritten.rational?, List.append_nil] at h
  have hvalue : Number.valueFrom 0 (splitSign text.toList).2 = n := Option.some.inj hn
  rw [← Option.some.inj h, hvalue]
  simp [Number.scaled]

theorem exists_toRat_integer {i : Int} (h : isInt64 i) : ∃ d : Decimal, d.toRat = i := by
  have hsmall : i.natAbs < Nat.pow 2 96 := by
    simp only [isInt64, Bool.and_eq_true, decide_eq_true_eq] at h
    have hint : Int.pow 2 63 = 2 ^ 63 := rfl
    have hnat : Nat.pow 2 96 = 2 ^ 96 := rfl
    omega
  exact ⟨⟨i, 0, hsmall, Nat.zero_le _⟩, by simp [Decimal.toRat]⟩

/-- A numeral of a number that decimals have is read as an exact value. -/
theorem exists_exact {text : String} {q : ℚ} (h : Number.rational? text.toList = some q)
    (hfits : ∃ d : Decimal, d.toRat = q) : ∃ v, ofNumeral? text = some v ∧ v.isExact := by
  obtain ⟨d, hd, -⟩ := Decimal.read?_of_rational h hfits
  obtain ⟨whole, fraction, hwritten, -⟩ := Number.exists_written h
  have hletter {c : Char} (hc : c = 'e' ∨ c = 'E') : text.toList.contains c = false := by
    refine Bool.eq_false_iff.mpr fun hmem => ?_
    have hrest : c ∈ (splitSign text.toList).2 := by
      rcases mem_splitSign (List.contains_iff_mem.mp hmem) with hsign | hsign | hrest
      · rcases hc with rfl | rfl <;> cases hsign
      · rcases hc with rfl | rfl <;> cases hsign
      · exact hrest
    rcases hwritten.mem c hrest with hdigit | hpoint
    · rcases hc with rfl | rfl <;> cases hdigit
    · rcases hc with rfl | rfl <;> cases hpoint
  rw [ofNumeral?]
  split
  · exact ⟨_, rfl, rfl⟩
  · rw [hletter (.inl rfl), hletter (.inr rfl), hd]
    exact ⟨_, rfl, rfl⟩

/-- **Numbers that keep their value.** A numeral without exponent that is read as an exact value is
given back with the same value if and only if its number is a coefficient of 96 bits over a power of
ten of at most 28, and then it is read as such a value. Any other number is off by at most half a
unit of the last place that is kept. -/
theorem rational?_toSql_iff (text : String) (q : ℚ) (h : Number.rational? text.toList = some q) :
    (∀ v, ofNumeral? text = some v → v.isExact →
      (Number.rational? v.toSql.toList = some q ↔ ∃ d : Decimal, d.toRat = q) ∧
        ∃ q', Number.rational? v.toSql.toList = some q' ∧ |q' - q| ≤ 1 / 2 / 10 ^ v.places) ∧
      ((∃ d : Decimal, d.toRat = q) → ∃ v, ofNumeral? text = some v ∧ v.isExact) := by
  refine ⟨fun v hv hexact => ?_, exists_exact h⟩
  rcases exact_of_ofNumeral? hv hexact with ⟨i, rfl, hi⟩ | ⟨d, rfl, -, hread⟩
  · obtain rfl := eq_of_integer? (ofNumeral?_eq_integer hv).1 h
    have hback : Number.rational? (integer i).toSql.toList = some (i : ℚ) := rational?_toSql rfl
    exact ⟨iff_of_true hback (exists_toRat_integer hi), _, hback, by simp [places]⟩
  · have hback : Number.rational? (decimal d).toSql.toList = some d.toRat := rational?_toSql rfl
    refine ⟨⟨fun hkept => ⟨d, Option.some.inj (hback.symm.trans hkept)⟩, fun hfits => ?_⟩,
      _, hback, Decimal.abs_toRat_sub_le h hread⟩
    obtain ⟨d', hread', rfl⟩ := Decimal.read?_of_rational h hfits
    rw [hback, Option.some.inj (hread.symm.trans hread')]

/-- More places than are kept do no harm if there is nothing in them. -/
theorem rational?_toSql_threeHalves :
    let text := "-1.50000000000000000000000000000000"
    let v := decimal ⟨-15000000000000000000000000000, 28, by decide, by decide⟩
    (Number.rational? text.toList = some (-3 / 2) ∧ ofNumeral? text = some v ∧ v.isExact ∧
      ∃ d : Decimal, d.toRat = -3 / 2) ∧ Number.rational? v.toSql.toList = some (-3 / 2) := by
  intro text v
  have hq : Number.rational? text.toList = some (-3 / 2) := by decide +kernel
  have hv : ofNumeral? text = some v := by decide +kernel
  have hfits : ∃ d : Decimal, d.toRat = -3 / 2 :=
    ⟨⟨-15, 1, by decide, by decide⟩, by norm_num [Decimal.toRat]⟩
  exact ⟨⟨hq, hv, rfl, hfits⟩, ((rational?_toSql_iff text _ hq).1 v hv rfl).1.mpr hfits⟩

/-- Not every exact number keeps its value: of a one in the 29th place nothing is left. -/
theorem not_rational?_toSql :
    ¬ ∀ (text : String) (q : ℚ) (v : Value), Number.rational? text.toList = some q →
      ofNumeral? text = some v → v.isExact → Number.rational? v.toSql.toList = some q := by
  intro h
  have hread : ofNumeral? "0.00000000000000000000000000001" =
      some (decimal ⟨0, 28, by decide, by decide⟩) := by decide +kernel
  have hvalue : Number.rational? "0.00000000000000000000000000001".toList = some (1 / 10 ^ 29) := by
    decide +kernel
  have hback : Number.rational? (decimal ⟨0, 28, by decide, by decide⟩).toSql.toList = some 0 := by
    decide +kernel
  have hkept := h _ _ _ hvalue hread rfl
  rw [hback] at hkept
  norm_num at hkept

end Value

end SqlNormal
