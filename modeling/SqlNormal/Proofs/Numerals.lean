import SqlNormal.Proofs.Results
import SqlNormal.Sql.Token
import SqlNormal.Value

/-!
# Numerals that are read

A numeral of the language denotes a number that is finite, unless it is too large, and then it is
infinite.

* `Binary64.finite_or_infinite`: the magnitudes that are read;
* **`ofNumeral?_isSome`**: a numeral that is not too large has a value.
-/

namespace SqlNormal

namespace Binary64

theorem nearestBits_le (num den : Nat) : nearestBits num den ≤ infinityBits := by
  unfold nearestBits
  split
  · exact Nat.zero_le _
  · exact Nat.min_le_right _ _

theorem nearestDecimal_le (mantissa : Nat) (exponent : Int) :
    nearestDecimal mantissa exponent ≤ infinityBits := by
  unfold nearestDecimal
  dsimp only
  split_ifs
  · exact Nat.zero_le _
  · exact Nat.le_refl _
  · exact Nat.zero_le _
  · exact nearestBits_le _ _
  · exact nearestBits_le _ _

theorem le_of_readMagnitude? {cs : List Char} {m : Nat} (h : readMagnitude? cs = some m) :
    m ≤ infinityBits := by
  unfold readMagnitude? at h
  dsimp only at h
  split at h
  · cases h
  · obtain ⟨exponent, -, rfl⟩ := Option.map_eq_some_iff.mp h
    exact nearestDecimal_le _ _

/-- A magnitude up to infinity is that of a finite number or of infinity. -/
theorem finite_or_infinite {m : Nat} (h : m ≤ infinityBits) :
    (ofMagnitude false m).isFinite ∨ (ofMagnitude false m).isInfinite := by
  have hfraction : Nat.pow 2 52 = 2 ^ 52 := rfl
  have hexponent : Nat.pow 2 11 = 2 ^ 11 := rfl
  rw [infinityBits, hfraction] at h
  have hm : (ofMagnitude false m).bits.toNat = m := by
    simp only [ofMagnitude, Bool.false_eq_true, if_false, Nat.add_zero, UInt64.toNat_ofNat']
    omega
  simp only [isFinite, isInfinite, exponentField, fraction, hm, hfraction, hexponent, bne_iff_ne,
    Bool.and_eq_true, beq_iff_eq]
  omega

/-- What is read as a magnitude begins with no sign, so that it is read as a number. -/
theorem read?_of_readMagnitude? {cs : List Char} {m : Nat} (h : readMagnitude? cs = some m) :
    read? cs = some (ofMagnitude false m) := by
  unfold read?
  split
  split
  · rename_i hsign _ _ hm
    split at hsign
    · simp [readMagnitude?, splitPoint] at h
    · simp [readMagnitude?, splitPoint] at h
    · cases hsign
      rw [Option.some.inj (hm.symm.trans h)]
  · rename_i hsign _ hm
    split at hsign
    · simp [readMagnitude?, splitPoint] at h
    · simp [readMagnitude?, splitPoint] at h
    · cases hsign
      simp [hm] at h

end Binary64

theorem Value.ofNumeral?_isSome {s : String} {x : Binary64} (h : Binary64.read? s.toList = some x)
    (hx : x.isFinite) : (ofNumeral? s).isSome := by
  unfold ofNumeral?
  split
  · rfl
  · dsimp only
    split
    · rfl
    · simp [h, hx]

/-- **A numeral that is not too large has a value.** -/
theorem Sql.Numeral.ofNumeral?_isSome (n : Numeral)
    (h : (Binary64.read? n.digits.toList).any Binary64.isInfinite = false) :
    (Value.ofNumeral? n.digits).isSome := by
  obtain ⟨m, hm⟩ := Option.isSome_iff_exists.mp n.readable
  have hread := Binary64.read?_of_readMagnitude? hm
  rcases Binary64.finite_or_infinite (Binary64.le_of_readMagnitude? hm) with hx | hx
  · exact Value.ofNumeral?_isSome hread hx
  · simp [hread, hx] at h

end SqlNormal
