import Mathlib
import SqlNormal.Calendar.Reader
import SqlNormal.Proofs.ExactNumbers
import SqlNormal.Proofs.Results

/-!
# Dates and times that are read back

What is written of a date and a time is a small part of what is read. Every number is written with
all the digits that its reader takes, or in front of something that is no digit.

* `Number.length_paddedDigits`: a number that fits has as many digits as its width;
* `Calendar.digitsUpTo_append`, `Calendar.field_padded`, `Calendar.year_text`,
  `Calendar.fraction_text`: the readers of numbers on what was written;
* **`Date.read_text`**, **`Time.read_text`**, **`Timestamp.read_text`**: dates, times and timestamps
  are read back from their written forms.
-/

namespace SqlNormal

/-! ## Numbers of a width -/

namespace Number

theorem length_digits_le {w n : Nat} (hw : 0 < w) (h : n < 10 ^ w) : (digits n).length ≤ w := by
  induction w generalizing n with
  | zero => exact absurd hw (Nat.lt_irrefl 0)
  | succ w ih =>
    rw [digits]
    split_ifs with hn
    · exact Nat.succ_le_succ (Nat.zero_le w)
    · have hw : 0 < w := by
        rcases Nat.eq_zero_or_pos w with rfl | hw
        · exact absurd h hn
        · exact hw
      have hle := ih hw (n := n / 10) (by rw [pow_succ] at h; omega)
      simpa using hle

theorem length_paddedDigits {w n : Nat} (hw : 0 < w) (h : n < 10 ^ w) :
    (paddedDigits w n).length = w := by
  have := length_digits_le hw h
  rw [paddedDigits, List.length_append, List.length_replicate]
  omega

theorem paddedDigits_ne_nil {w n : Nat} (hw : 0 < w) : paddedDigits w n ≠ [] := by
  have := (paddedDigits_spec w n).2.1
  exact List.ne_nil_of_length_pos (by omega)

end Number

namespace Calendar

theorem isBlank_of_isDigit {c : Char} (h : c.isDigit) : Text.isBlank c = false := by
  have hc : 48 ≤ c.toNat ∧ c.toNat ≤ 57 := by
    simpa [Char.isDigit, UInt32.le_iff_toNat_le] using h
  simp [Text.isBlank]
  omega

/-- No blank stands in front of a digit. -/
theorem trimStart_digits {ds : List Char} (hds : ds.all Char.isDigit) (hne : ds ≠ [])
    (rest : List Char) : Text.trimStart (ds ++ rest) = ds ++ rest := by
  obtain ⟨c, ds, rfl⟩ := List.exists_cons_of_ne_nil hne
  have hc : c.isDigit := (Bool.and_eq_true_iff.mp (List.all_cons ▸ hds)).1
  exact List.dropWhile_cons_of_neg (by simp [isBlank_of_isDigit hc])

/-- Digits are read as far as they go, up to a width. -/
theorem digitsUpTo_append {width : Nat} {ds rest : List Char} (hds : ds.all Char.isDigit)
    (hne : ds ≠ []) (hlength : ds.length ≤ width)
    (hstop : ds.length = width ∨ ∀ c ∈ rest.head?, c.isDigit = false) :
    digitsUpTo width (ds ++ rest) = .ok (Number.digitsValue ds, rest) := by
  have htake : ((ds ++ rest).take width).takeWhile Char.isDigit = ds := by
    rw [List.take_append, List.take_of_length_le hlength]
    refine (Sql.span_digits hds fun c hc => ?_).1
    rw [List.head?_take] at hc
    split_ifs at hc with hfull
    · cases hc
    · rcases hstop with hstop | hstop
      · omega
      · exact hstop c hc
  obtain ⟨c, cs, hcs⟩ := List.exists_cons_of_ne_nil (List.append_ne_nil_of_left_ne_nil hne rest)
  have hempty : ds.isEmpty = false := by simpa using hne
  rw [hcs, digitsUpTo, ← hcs]
  · simp only [htake, hempty, Bool.false_eq_true, if_false, List.drop_left]
    rfl
  · exact nofun

/-- A padded number is read as far as its width. -/
theorem digitsUpTo_padded {width w n : Nat} (hw : 0 < w) (hn : n < 10 ^ w) (hwidth : w ≤ width)
    {rest : List Char} (hstop : w = width ∨ ∀ c ∈ rest.head?, c.isDigit = false) :
    digitsUpTo width (Number.paddedDigits w n ++ rest) = .ok (n, rest) := by
  have hlength := Number.length_paddedDigits hw hn
  have hvalue : Number.digitsValue (Number.paddedDigits w n) = n :=
    (Number.paddedDigits_spec w n).2.2
  rw [digitsUpTo_append (Number.paddedDigits_spec w n).1 (Number.paddedDigits_ne_nil hw)
    (hlength.trans_le hwidth) (hstop.imp_left hlength.trans), hvalue]

/-- A field of two digits. -/
theorem field_padded {low high n : Nat} (hlow : low ≤ n) (hhigh : n ≤ high) (h : high < 100)
    (rest : List Char) : field low high (Number.paddedDigits 2 n ++ rest) = .ok (n, rest) := by
  rw [field, trimStart_digits (Number.paddedDigits_spec 2 n).1
    (Number.paddedDigits_ne_nil (by decide)),
    digitsUpTo_padded (by decide) (by omega) (Nat.le_refl 2) (.inl rfl)]
  exact if_pos ⟨hlow, hhigh⟩

/-- A year behind a minus sign. -/
theorem year_minus {cs rest : List Char} {n : Nat}
    (h : digitsUpTo cs.length cs = .ok (n, rest)) (hn : n < Nat.pow 2 31) :
    year ('-' :: cs) = .ok (-n, rest) := by
  have htrim : Text.trimStart ('-' :: cs) = '-' :: cs := rfl
  simp only [year, htrim, h]
  exact if_pos (.inl hn)

/-- A year behind a plus sign. -/
theorem year_plus {cs rest : List Char} {n : Nat}
    (h : digitsUpTo cs.length cs = .ok (n, rest)) (hn : n < Nat.pow 2 31) :
    year ('+' :: cs) = .ok (n, rest) := by
  have htrim : Text.trimStart ('+' :: cs) = '+' :: cs := rfl
  simp only [year, htrim, h]
  exact if_pos (.inl hn)

/-- A year without a sign. -/
theorem year_plain {c : Char} {cs rest : List Char} {n : Nat} (hc : c.isDigit)
    (h : digitsUpTo 4 (c :: cs) = .ok (n, rest)) (hn : n < Nat.pow 2 31) :
    year (c :: cs) = .ok (n, rest) := by
  have htrim : Text.trimStart (c :: cs) = c :: cs :=
    List.dropWhile_cons_of_neg (by simp [isBlank_of_isDigit hc])
  unfold year
  rw [htrim]
  split
  · rename_i heq
    cases heq
    cases hc
  · rename_i heq
    cases heq
    cases hc
  · simp only [h]
    exact if_pos (.inl hn)

/-- A year, in front of the dash that follows it. -/
theorem year_text {y : Int} (hy : -262143 ≤ y ∧ y ≤ 262142) (rest : List Char) :
    year (Date.yearText y ++ '-' :: rest) = .ok (y, '-' :: rest) := by
  have hbound : y.natAbs < Nat.pow 2 31 := by
    have : Nat.pow 2 31 = 2147483648 := rfl
    omega
  obtain ⟨hdigits, -, hvalue⟩ := Number.paddedDigits_spec 4 y.natAbs
  have hne : Number.paddedDigits 4 y.natAbs ≠ [] := Number.paddedDigits_ne_nil (by decide)
  have hsigned : digitsUpTo (Number.paddedDigits 4 y.natAbs ++ '-' :: rest).length
      (Number.paddedDigits 4 y.natAbs ++ '-' :: rest) = .ok (y.natAbs, '-' :: rest) := by
    rw [digitsUpTo_append hdigits hne (by simp) (.inr (by rintro _ ⟨⟩; rfl))]
    exact congrArg (fun n => Except.ok (n, '-' :: rest)) hvalue
  unfold Date.yearText
  split_ifs with hplain hnegative
  · have hread : digitsUpTo 4 (Number.paddedDigits 4 y.natAbs ++ '-' :: rest) =
        .ok (y.natAbs, '-' :: rest) :=
      digitsUpTo_padded (by decide) (by omega) (Nat.le_refl 4) (.inl rfl)
    obtain ⟨c, cs, hcs⟩ := List.exists_cons_of_ne_nil hne
    have hc : c.isDigit := (Bool.and_eq_true_iff.mp (List.all_cons ▸ hcs ▸ hdigits)).1
    rw [hcs, List.cons_append] at hread ⊢
    rw [year_plain hc hread hbound, Int.natAbs_of_nonneg hplain.1]
  · have habs : -(y.natAbs : Int) = y := by omega
    rw [List.cons_append, year_minus hsigned hbound, habs]
  · have habs : (y.natAbs : Int) = y := by omega
    rw [List.cons_append, year_plus hsigned hbound, habs]

/-- A fraction of `w` places. -/
theorem fraction_padded {w k m : Nat} (hw : 0 < w) (hwidth : w + k = 9) (hm : m < 10 ^ w) :
    fraction ('.' :: Number.paddedDigits w m) = .ok (m * Nat.pow 10 k, []) := by
  have hread : digitsUpTo 9 (Number.paddedDigits w m ++ []) = .ok (m, []) :=
    digitsUpTo_padded hw hm (by omega) (.inr nofun)
  rw [List.append_nil] at hread
  have hplaces : 9 - ((Number.paddedDigits w m).length - 0) = k := by
    rw [Number.length_paddedDigits hw hm]
    omega
  simp only [fraction, hread]
  show Except.ok (m * Nat.pow 10 (9 - ((Number.paddedDigits w m).length - 0)), []) = _
  rw [hplaces]

/-- A fraction of a second. -/
theorem fraction_text {n : Nat} (hn : n < Nat.pow 10 9) :
    fraction (Time.fractionText n) = .ok (n, []) := by
  have hnine : Nat.pow 10 9 = 1000000000 := rfl
  have hsix : Nat.pow 10 6 = 1000000 := rfl
  have hthree : Nat.pow 10 3 = 1000 := rfl
  have hone : Nat.pow 10 0 = 1 := rfl
  rw [hnine] at hn
  unfold Time.fractionText
  rw [hsix, hthree]
  split_ifs with hzero hmilli hmicro
  · rw [hzero]
    rfl
  · rw [fraction_padded (k := 6) (by decide) rfl (by omega), hsix,
      Nat.div_mul_cancel (Nat.dvd_of_mod_eq_zero hmilli)]
  · rw [fraction_padded (k := 3) (by decide) rfl (by omega), hthree,
      Nat.div_mul_cancel (Nat.dvd_of_mod_eq_zero hmicro)]
  · rw [fraction_padded (k := 0) (by decide) rfl (by omega), hone, Nat.mul_one]

/-! ## Dates and times -/

theorem char_cons (c : Char) (cs : List Char) : char c (c :: cs) = .ok ((), cs) :=
  if_pos rfl

theorem dateParts_text (d : Date) (rest : List Char) :
    dateParts (d.text ++ rest) = .ok ((d.year, d.month, d.day), rest) := by
  obtain ⟨hyear, hmonth, hday⟩ := d.valid
  have hdays : d.day ≤ 31 := hday.2.trans (by unfold daysInMonth; split_ifs <;> decide)
  simp only [Date.text, List.append_assoc, List.cons_append, dateParts, bind, ok_bind, char_cons,
    year_text hyear, field_padded hmonth.1 hmonth.2 (by decide : 12 < 100),
    field_padded hday.1 hdays (by decide : 31 < 100)]
  rfl

theorem timeParts_text (t : Time) :
    timeParts t.text = .ok ((t.hour, t.minute, t.second, t.nanosecond), []) := by
  have hhour : t.hour ≤ 23 := Nat.le_of_lt_succ t.hour_lt
  have hminute : t.minute ≤ 59 := Nat.le_of_lt_succ t.minute_lt
  simp only [Time.text, List.append_assoc, List.cons_append, timeParts, bind, ok_bind, char_cons,
    field_padded (Nat.zero_le _) hhour (by decide : 23 < 100),
    field_padded (Nat.zero_le _) hminute (by decide : 59 < 100),
    field_padded (Nat.zero_le _) t.second_le (by decide : 60 < 100),
    fraction_text t.nanosecond_lt]
  rfl

theorem dateOf_parts (d : Date) : dateOf (d.year, d.month, d.day) = .ok d := by
  have hparts : Date.ofParts? d.year d.month d.day = some d := dif_pos d.valid
  rw [dateOf, hparts]
  rfl

theorem timeOf_parts (t : Time) :
    timeOf (t.hour, t.minute, t.second, t.nanosecond) = .ok t := by
  have hparts : Time.ofParts? t.hour t.minute t.second t.nanosecond = some t :=
    dif_pos ⟨t.hour_lt, t.minute_lt, t.second_le, t.nanosecond_lt⟩
  rw [timeOf, hparts]
  rfl

end Calendar

open Calendar

/-- **A date is read back** from its written form. -/
theorem Date.read_text (d : Date) : read d.text = .ok d := by
  have hparts := dateParts_text d []
  rw [List.append_nil] at hparts
  rw [read, hparts]
  exact dateOf_parts d

/-- **A time is read back** from its written form. -/
theorem Time.read_text (t : Time) : read t.text = .ok t := by
  rw [read, timeParts_text]
  exact timeOf_parts t

/-- **A timestamp is read back** from its written form with a blank. -/
theorem Timestamp.read_text (t : Timestamp) : read (t.text ' ') = .ok t := by
  have hblank : Text.trimStart (' ' :: t.time.text) = t.time.text := by
    simp only [Time.text, List.append_assoc]
    exact trimStart_digits (Number.paddedDigits_spec 2 _).1
      (Number.paddedDigits_ne_nil (by decide)) _
  have hfirst : timestamp (fun rest => pure ((), Text.trimStart rest)) (t.text ' ') = .ok t := by
    simp only [timestamp, Timestamp.text, dateParts_text, bind, ok_bind, pure, Except.pure, hblank,
      timeParts_text, dateOf_parts, timeOf_parts]
    rfl
  rw [read, hfirst]

end SqlNormal
