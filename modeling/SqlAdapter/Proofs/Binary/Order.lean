/-
Finite numbers in the order of their magnitudes, and natural numbers among them.

Every finite number is a multiple of the smallest one, `Binary.units` times it, and
that count grows with the magnitude (`units_mono`). The whole part of a double is
its count divided by the count of one (`toNatWithin_eq`), so it grows as well, and
natural numbers up to 2 ^ 53 are kept as they are (`units_ofNat`). Whatever stands
before such a number on the line of doubles has a whole part no greater than it
(`toNatWithin_le`).
-/
import SqlAdapter.Binary.Basic

namespace SqlAdapter

namespace Binary

variable {f : Format} {x y : Binary f}

/-! ## Rounding -/

theorem isFinite_iff : x.isFinite = true ↔ x.magnitude.val < f.infinity := by
  rw [isFinite, decide_eq_true_iff, field, Format.infinity]
  exact Nat.div_lt_iff_lt_mul (Nat.two_pow_pos _)

theorem not_isNaN_of_isFinite (h : x.isFinite = true) : x.isNaN = false :=
  decide_eq_false (Nat.not_lt.mpr (Nat.le_of_lt (isFinite_iff.mp h)))

/-- A magnitude below that of infinity is that of a finite number. -/
theorem isFinite_ofMagnitude (negative : Bool) {magnitude : Nat} (h : magnitude < f.infinity) :
    (ofMagnitude negative magnitude : Binary f).isFinite = true :=
  isFinite_iff.mpr (Nat.lt_of_le_of_lt (Nat.min_le_left _ _) h)

theorem divideToEven_le (numerator denominator : Nat) :
    divideToEven numerator denominator ≤ numerator / denominator + 1 := by
  simp only [divideToEven]
  split
  · omega
  · split
    · omega
    · split
      · omega
      · omega

/-- A whole number is not rounded. -/
theorem divideToEven_one (n : Nat) : divideToEven n 1 = n := by
  simp [divideToEven, Nat.mod_one]

/-- A ratio that is long enough at its first scale is rounded at the next one. -/
theorem ofRatio_of_long (negative : Bool) {n d : Nat} {low : Int} (hzero : n ≠ 0)
    (hlow : max ((n.log2 : Int) - d.log2 - f.fractionBits - 1) f.minExponent = low)
    (hlong : ¬ (scaleDown n d low).1 / (scaleDown n d low).2 < 2 ^ (f.fractionBits + 1)) :
    (ofRatio negative n d : Binary f) = ofMagnitude negative ((low + 1 - f.minExponent).toNat * 2 ^ f.fractionBits +
      divideToEven (scaleDown n d (low + 1)).1 (scaleDown n d (low + 1)).2) := by
  simp only [ofRatio, if_neg hzero, hlow, if_neg hlong]

/-! ## Counting in the smallest number -/

/-- A finite number, its sign aside, is this many times the smallest positive one. -/
def units (x : Binary f) : Nat := x.significand * 2 ^ (x.field - 1)

/-- One is this many times the smallest positive number. -/
def Format.one (f : Format) : Nat := 2 ^ f.minExponent.natAbs

theorem fraction_lt (x : Binary f) : x.magnitude.val % 2 ^ f.fractionBits < 2 ^ f.fractionBits :=
  Nat.mod_lt _ (Nat.two_pow_pos _)

theorem units_lt (x : Binary f) : x.units < 2 ^ f.fractionBits * 2 ^ x.field := by
  have hfraction := x.fraction_lt
  rw [units, significand]
  split
  · next hzero => simpa [hzero] using hfraction
  · next hzero =>
    have hfield : x.field = x.field - 1 + 1 := by omega
    have hpow : 2 ^ f.fractionBits * 2 ^ x.field = (2 ^ f.fractionBits + 2 ^ f.fractionBits) * 2 ^ (x.field - 1) := by
      rw [hfield, Nat.pow_succ', ← Nat.mul_assoc, Nat.mul_two, Nat.add_sub_cancel]
    rw [hpow]
    exact Nat.mul_lt_mul_of_pos_right (by omega) (Nat.two_pow_pos _)

theorem le_units (h : x.field ≠ 0) : 2 ^ f.fractionBits * 2 ^ (x.field - 1) ≤ x.units := by
  rw [units, significand, if_neg h]
  exact Nat.mul_le_mul_right _ (Nat.le_add_right _ _)

/-- The count grows with the magnitude: within a field by the fraction, from one field to the next by doubling. -/
theorem units_mono (h : x.magnitude.val ≤ y.magnitude.val) : x.units ≤ y.units := by
  have hfield : x.field ≤ y.field := Nat.div_le_div_right h
  rcases Nat.lt_or_eq_of_le hfield with hlt | heq
  · have hpow : 2 ^ x.field ≤ 2 ^ (y.field - 1) := Nat.pow_le_pow_right (by decide) (by omega)
    calc x.units ≤ 2 ^ f.fractionBits * 2 ^ x.field := Nat.le_of_lt x.units_lt
      _ ≤ 2 ^ f.fractionBits * 2 ^ (y.field - 1) := Nat.mul_le_mul_left _ hpow
      _ ≤ y.units := le_units (by omega)
  · have hx := Nat.div_add_mod x.magnitude.val (2 ^ f.fractionBits)
    have hy := Nat.div_add_mod y.magnitude.val (2 ^ f.fractionBits)
    have hquotient : x.magnitude.val / 2 ^ f.fractionBits = y.magnitude.val / 2 ^ f.fractionBits := heq
    rw [hquotient] at hx
    have hfraction : x.significand ≤ y.significand := by
      simp only [significand, heq]
      split <;> omega
    rw [units, units, heq]
    exact Nat.mul_le_mul_right _ hfraction

/-- The whole part of a number that is not negative, where the smallest one is a fraction of one. -/
theorem toNatWithin_eq (hone : f.minExponent ≤ 0) (hfinite : x.isFinite = true) (hsign : x.negative = false)
    (top : Nat) : x.toNatWithin top = min (x.units / f.one) top := by
  have hexponent : x.exponent = (x.field - 1 : Nat) - (f.minExponent.natAbs : Int) := by
    rw [exponent]
    omega
  simp only [toNatWithin, not_isNaN_of_isFinite hfinite, hsign, hfinite, Bool.or_false, Bool.false_eq_true, if_false, Bool.not_true]
  rw [hexponent, units, Format.one]
  generalize x.field - 1 = e
  generalize f.minExponent.natAbs = k
  congr 1
  rw [scaleDown]
  split
  · next hneg =>
    -- the number is whole, so the power of two that is left over cancels
    have habs : (-((e : Int) - (k : Int))).natAbs = e - k := by omega
    have hpow : 2 ^ e = 2 ^ (e - k) * 2 ^ k := by rw [← Nat.pow_add, Nat.sub_add_cancel (by omega)]
    rw [habs, hpow, ← Nat.mul_assoc, Nat.mul_div_cancel _ (Nat.two_pow_pos k), Nat.div_one]
  · next hnonneg =>
    have habs : (-((e : Int) - (k : Int))).natAbs = k - e := by omega
    have hpow : 2 ^ k = 2 ^ (k - e) * 2 ^ e := by rw [← Nat.pow_add, Nat.sub_add_cancel (by omega)]
    rw [habs, hpow, Nat.mul_div_mul_right _ _ (Nat.two_pow_pos e), Nat.one_mul]

/-! ## Natural numbers -/

/-- A natural number below 2 ^ 53 stands in the significand, moved up to the first bit. -/
theorem ofNat_small {n : Nat} (hzero : n ≠ 0) (h : n < 2 ^ 53) : (ofNat n : Binary64) =
    ofMagnitude false ((n.log2 + 1022) * 2 ^ Format.double.fractionBits + n * 2 ^ (52 - n.log2)) := by
  have hlog : n.log2 < 53 := (Nat.log2_lt hzero).mpr h
  obtain ⟨hself, -⟩ := (Nat.log2_eq_iff hzero).mp rfl
  have hscale : max ((n.log2 : Int) - (1 : Nat).log2 - Format.double.fractionBits - 1)
      Format.double.minExponent = (n.log2 : Int) - 53 := by
    have hone : (1 : Nat).log2 = 0 := by decide
    have hbits : Format.double.fractionBits = 52 := rfl
    have hleast : Format.double.minExponent = -1074 := rfl
    omega
  have hshift : ∀ e : Int, e ≤ 0 → scaleDown n 1 e = (n * 2 ^ e.natAbs, 1) := by
    intro e he
    rw [scaleDown]
    split
    · rfl
    · have hnone : e = 0 := by omega
      subst hnone
      simp
  have hlong : ¬ (scaleDown n 1 ((n.log2 : Int) - 53)).1 / (scaleDown n 1 ((n.log2 : Int) - 53)).2 <
      2 ^ (Format.double.fractionBits + 1) := by
    have habs : ((n.log2 : Int) - 53).natAbs = 53 - n.log2 := by omega
    have hpow : 2 ^ n.log2 * 2 ^ (53 - n.log2) = 2 ^ 53 := by rw [← Nat.pow_add, Nat.add_sub_cancel' (by omega)]
    rw [hshift _ (by omega), habs, Nat.div_one, Nat.not_lt]
    exact hpow ▸ Nat.mul_le_mul_right _ hself
  have habs : ((n.log2 : Int) - 53 + 1).natAbs = 52 - n.log2 := by omega
  have hplace : ((n.log2 : Int) - 53 + 1 - Format.double.minExponent).toNat = n.log2 + 1022 := by
    have hleast : Format.double.minExponent = -1074 := rfl
    omega
  rw [ofNat, ofRatio_of_long false hzero hscale hlong, hshift _ (by omega), divideToEven_one, habs, hplace]

/-- A significand with its first bit set, in a field with room for it. -/
theorem units_ofMagnitude (negative : Bool) {e significand : Nat} (hlow : 2 ^ f.fractionBits ≤ significand)
    (hhigh : significand < 2 ^ f.fractionBits + 2 ^ f.fractionBits) (htop : e + 1 < f.topField) :
    (ofMagnitude negative (e * 2 ^ f.fractionBits + significand) : Binary f).isFinite = true ∧
      (ofMagnitude negative (e * 2 ^ f.fractionBits + significand) : Binary f).units = significand * 2 ^ e := by
  obtain ⟨fraction, rfl⟩ := Nat.exists_eq_add_of_le hlow
  have hfraction : fraction < 2 ^ f.fractionBits := by omega
  have hsplit : e * 2 ^ f.fractionBits + (2 ^ f.fractionBits + fraction) = fraction + 2 ^ f.fractionBits * (e + 1) := by
    rw [Nat.mul_succ, Nat.mul_comm e]
    omega
  rw [hsplit]
  have hfinite : fraction + 2 ^ f.fractionBits * (e + 1) < f.infinity := by
    calc fraction + 2 ^ f.fractionBits * (e + 1) < 2 ^ f.fractionBits * (e + 1 + 1) := by
          rw [Nat.mul_succ _ (e + 1)]
          omega
      _ ≤ 2 ^ f.fractionBits * f.topField := Nat.mul_le_mul_left _ htop
      _ = f.infinity := Nat.mul_comm _ _
  refine ⟨isFinite_ofMagnitude negative hfinite, ?_⟩
  have hmin : min (fraction + 2 ^ f.fractionBits * (e + 1)) f.infinity = fraction + 2 ^ f.fractionBits * (e + 1) :=
    Nat.min_eq_left (Nat.le_of_lt hfinite)
  have hfield : (fraction + 2 ^ f.fractionBits * (e + 1)) / 2 ^ f.fractionBits = e + 1 := by
    rw [Nat.add_mul_div_left _ _ (Nat.two_pow_pos _), Nat.div_eq_of_lt hfraction, Nat.zero_add]
  have hrest : (fraction + 2 ^ f.fractionBits * (e + 1)) % 2 ^ f.fractionBits = fraction := by
    rw [Nat.add_mul_mod_self_left, Nat.mod_eq_of_lt hfraction]
  simp [units, Binary.significand, field, ofMagnitude, hmin, hfield, hrest]

/-- Natural numbers up to 2 ^ 53 are kept as they are. -/
theorem ofNat_exact {n : Nat} (h : n ≤ 2 ^ 53) : (ofNat n : Binary64).isFinite = true ∧
    (ofNat n : Binary64).negative = false ∧ (ofNat n : Binary64).units = n * Format.double.one := by
  rcases Nat.lt_or_eq_of_le h with hlt | rfl
  · by_cases hzero : n = 0
    · subst hzero
      decide +kernel
    · have hlog : n.log2 < 53 := (Nat.log2_lt hzero).mpr hlt
      have hone : Format.double.one = 2 ^ (52 - n.log2) * 2 ^ (n.log2 + 1022) := by
        have hsum : 1074 = 52 - n.log2 + (n.log2 + 1022) := by omega
        have hleast : Format.double.minExponent.natAbs = 52 - n.log2 + (n.log2 + 1022) := hsum
        rw [Format.one, hleast]
        exact Nat.pow_add 2 (52 - n.log2) (n.log2 + 1022)
      obtain ⟨hself, hnext⟩ := (Nat.log2_eq_iff hzero).mp rfl
      have hlow : 2 ^ n.log2 * 2 ^ (52 - n.log2) = 2 ^ 52 := by rw [← Nat.pow_add, Nat.add_sub_cancel' (by omega)]
      have hhigh : 2 ^ (n.log2 + 1) * 2 ^ (52 - n.log2) = 2 ^ 52 + 2 ^ 52 := by rw [Nat.pow_succ, Nat.mul_right_comm, hlow]
      obtain ⟨hfinite, hunits⟩ := units_ofMagnitude (f := .double) false
        (hlow ▸ Nat.mul_le_mul_right (2 ^ (52 - n.log2)) hself)
        (hhigh ▸ Nat.mul_lt_mul_of_pos_right hnext (Nat.two_pow_pos _))
        (show n.log2 + 1022 + 1 < 2047 by omega)
      rw [ofNat_small hzero hlt, hone, ← Nat.mul_assoc]
      exact ⟨hfinite, rfl, hunits⟩
  · decide +kernel

/-! ## The line of numbers -/

/-- The place of a natural number that is kept is its magnitude. -/
theorem place_ofNat {n : Nat} (h : n ≤ 2 ^ 53) : (ofNat n : Binary64).place = (ofNat n : Binary64).magnitude.val := by
  rw [place, (ofNat_exact h).2.1]
  rfl

/-- What stands no later than a natural number has a whole part no greater than it. -/
theorem toNatWithin_le {x : Binary64} {n : Nat} (h : n ≤ 2 ^ 53) (hplace : x.place ≤ (ofNat n : Binary64).place)
    (top : Nat) : x.toNatWithin top ≤ n := by
  obtain ⟨hfinite, -, hunits⟩ := ofNat_exact h
  by_cases hsign : x.negative = true
  · simp [toNatWithin, hsign]
  · have hsign : x.negative = false := by simpa using hsign
    have hmagnitude : x.magnitude.val ≤ (ofNat n : Binary64).magnitude.val := by
      rw [place_ofNat h, place, hsign] at hplace
      simpa using hplace
    have hxfinite : x.isFinite = true := isFinite_iff.mpr (Nat.lt_of_le_of_lt hmagnitude (isFinite_iff.mp hfinite))
    have hle : x.units / Format.double.one ≤ n := by
      refine Nat.div_le_of_le_mul ?_
      rw [Nat.mul_comm, ← hunits]
      exact units_mono hmagnitude
    rw [toNatWithin_eq (by decide) hxfinite hsign]
    exact Nat.le_trans (Nat.min_le_left _ _) hle

/-- The lesser of two numbers is a number no later than the second. -/
theorem place_least_le (x : Binary f) (hy : y.isNaN = false) :
    (x.least y).isNaN = false ∧ (x.least y).place ≤ y.place := by
  rw [least]
  split
  · exact ⟨hy, Int.le_refl _⟩
  · next hx =>
    have hx : x.isNaN = false := by simpa using hx
    rw [hy, if_neg Bool.false_ne_true]
    split
    · exact ⟨hy, Int.le_refl _⟩
    · next hless =>
      refine ⟨hx, ?_⟩
      simpa [less, hx, hy] using hless

/-- The greater of two numbers is no later than what neither of them is later than. -/
theorem place_greatest_le {bound : Int} (hx : x.isNaN = false) (hxplace : x.place ≤ bound) (hyplace : y.place ≤ bound) :
    (x.greatest y).place ≤ bound := by
  rw [greatest, hx, if_neg Bool.false_ne_true]
  split
  · exact hxplace
  · split
    · exact hyplace
    · exact hxplace

end Binary

end SqlAdapter
