import DesignGraph.Proofs.Number.Rounding
/-!
# Whole doubles

Rounding to the nearest double keeps the order of fractions, and it keeps whole numbers whole: where
neighbours are less than one apart a whole number is a double already, and where they are further
apart every double is whole. So a finite double can be rounded to an integer, and an integer that
comes from a double has one.

## Main results

* `DesignGraph.Double.nearestBits_mono` — rounding keeps the order.
* `DesignGraph.Double.view_ofMagnitude` — what the double with given bits stands for.
* `DesignGraph.Double.exists_toInt?_ofIntOrInfinite` — whole numbers are rounded to whole numbers.
* `DesignGraph.Double.exists_ofInt_of_toInt?` — an integer that is a double is in the range.
* `DesignGraph.Double.exists_toInt?_roundHalfUp` — finite doubles are rounded to integers.
* `DesignGraph.Double.ofIntOrInfinite_ne_zero`, `DesignGraph.Double.le_of_beq` — what it
  takes to equal zero or one another.
-/

set_option relaxedAutoImplicit false
set_option autoImplicit false

namespace DesignGraph.Double

/-! ## Order -/

/-- The spacing around a magnitude leaves it 53 bits at most, and that many unless neighbours are
one unit apart. -/
theorem spacing_spec (units : Nat) :
    units < 2 ^ (53 + spacing units) ∧ (spacing units = 0 ∨ 2 ^ (52 + spacing units) ≤ units) := by
  rw [spacing, Nat.pow_eq]
  split
  · rename_i hlt
    exact ⟨hlt, .inl rfl⟩
  · rename_i hle
    have hne : units ≠ 0 := by omega
    have hlog : 53 ≤ units.log2 := (Nat.le_log2 hne).2 (by omega)
    have hlt : units < 2 ^ (units.log2 + 1) := Nat.lt_log2_self
    have hle : 2 ^ units.log2 ≤ units := Nat.log2_self_le hne
    have habove : 53 + (units.log2 - 52) = units.log2 + 1 := by omega
    have hbelow : 52 + (units.log2 - 52) = units.log2 := by omega
    rw [habove, hbelow]
    exact ⟨hlt, .inr hle⟩

/-- Larger magnitudes are not closer to one another. -/
theorem spacing_mono {units units' : Nat} (h : units ≤ units') :
    spacing units ≤ spacing units' := by
  rcases (spacing_spec units).2 with hzero | hle
  · omega
  · have hlt : 2 ^ (52 + spacing units) < 2 ^ (53 + spacing units') :=
      (hle.trans h).trans_lt (spacing_spec units').1
    have := (Nat.pow_lt_pow_iff_right (by omega)).1 hlt
    omega

/-- Rounding to a whole number keeps the order. -/
theorem roundDiv_mono {num num' : Nat} (den : Nat) (h : num ≤ num') :
    roundDiv num den ≤ roundDiv num' den := by
  have hdiv : num / den ≤ num' / den := Nat.div_le_div_right h
  rcases Nat.lt_or_ge (num / den) (num' / den) with hlt | hge
  · have := roundDiv_eq_or num den
    have := roundDiv_eq_or num' den
    omega
  · have hquotient : num' / den = num / den := by omega
    have hmod := Nat.div_add_mod num den
    have hmod' := Nat.div_add_mod num' den
    rw [hquotient] at hmod'
    have hrest : num % den ≤ num' % den := by omega
    simp only [roundDiv, hquotient]
    generalize num % den = r at *
    generalize num' % den = r' at *
    split <;> split <;> (try split) <;> (try split) <;> (try split) <;> omega

/-- Rounding to the nearest double keeps the order of whole numbers over one denominator.

**Proof sketch.** Where neighbours are equally far apart this is rounding to a whole number. A
larger spacing has larger bits, whatever the significand is. -/
theorem nearestBits_mono_left {num num' den : Nat} (hden : 0 < den) (h : num ≤ num') :
    nearestBits num den ≤ nearestBits num' den := by
  have hunits : num * unitsPerOne ≤ num' * unitsPerOne := Nat.mul_le_mul_right _ h
  rw [nearestBits_eq_min rfl, nearestBits_eq_min rfl]
  apply min_le_min_left
  have hspacing := spacing_mono (Nat.div_le_div_right (c := den) hunits)
  obtain ⟨hlt, -⟩ := spacing_spec (num * unitsPerOne / den)
  obtain ⟨-, hle⟩ := spacing_spec (num' * unitsPerOne / den)
  generalize spacing (num * unitsPerOne / den) = p at *
  generalize spacing (num' * unitsPerOne / den) = q at *
  generalize num * unitsPerOne = a at *
  generalize num' * unitsPerOne = b at *
  rcases hspacing.eq_or_lt with rfl | hspacing
  · exact Nat.add_le_add_left (roundDiv_mono _ hunits) _
  · have hp : 0 < 2 ^ p * den := by positivity
    have hq : 0 < 2 ^ q * den := by positivity
    have hsmall : a / (2 ^ p * den) < 2 ^ 53 := by
      rw [Nat.div_lt_iff_lt_mul hden, Nat.pow_add, Nat.mul_assoc] at hlt
      rwa [Nat.div_lt_iff_lt_mul hp]
    have hlarge : 2 ^ 52 ≤ b / (2 ^ q * den) := by
      have hle := hle.resolve_left (by omega)
      rw [Nat.le_div_iff_mul_le hden, Nat.pow_add, Nat.mul_assoc] at hle
      rwa [Nat.le_div_iff_mul_le hq]
    have := roundDiv_eq_or a (2 ^ p * den)
    have := roundDiv_eq_or b (2 ^ q * den)
    rw [exponentUnit_eq]
    omega

/-- **Rounding to the nearest double keeps the order of fractions.** -/
theorem nearestBits_mono {a b c d : Nat} (hb : 0 < b) (hd : 0 < d) (h : a * d ≤ c * b) :
    nearestBits a b ≤ nearestBits c d := by
  rw [← nearestBits_scale a b hd, ← nearestBits_scale c d hb, Nat.mul_comm d b]
  apply nearestBits_mono_left (Nat.mul_pos hb hd)
  rwa [Nat.mul_comm d a, Nat.mul_comm b c]

/-- A whole number that is not zero is not rounded to zero. -/
theorem nearestBits_pos {n : Nat} (h : 0 < n) : 0 < nearestBits n 1 := by
  have hone : 0 < nearestBits 1 1 := by decide +kernel
  exact hone.trans_le (nearestBits_mono (by omega) (by omega) (by omega))

/-! ## Zero -/

section Zero

open Float.Model Float.Model.UnpackedFloat

/-- Only the zeros compare to a zero as equal. -/
theorem exists_zero_of_compare {a : UnpackedFloat} {s : Sign}
    (h : a.compare (.zero s) = some .eq) : ∃ s, a = .zero s := by
  cases a with
  | infinity s => cases s <;> cases h
  | notANumber => cases h
  | zero s => exact ⟨s, rfl⟩
  | finite s _ _ _ => cases s <;> cases h

/-- A double that equals zero has no exponent and no fraction. -/
theorem toBits_of_beq_zero {x : Float} (h : (x == 0) = true) : x.toBits.toNat % 2 ^ 63 = 0 := by
  obtain ⟨⟨bits, valid⟩⟩ := x
  obtain ⟨s, hs⟩ : ∃ s, UnpackedFloat.unpack Format.binary64 bits.toBitVec = .zero s :=
    exists_zero_of_compare (s := .positive) (eq_of_beq h)
  have he := unpackExponent_eq bits.toBitVec
  have hm := unpackMantissa_eq bits.toBitVec
  unfold UnpackedFloat.unpack at hs
  dsimp only at hs
  split at hs
  · split at hs <;> cases hs
  split at hs
  · rename_i hexponent
    split at hs
    · rename_i hmantissa
      change bits.toNat % 2 ^ 63 = 0
      rw [hexponent] at he
      rw [hmantissa] at hm
      change 0 = bits.toNat / 2 ^ 52 % 2048 at he
      change 0 = bits.toNat % 2 ^ 52 at hm
      omega
    · cases hs
  · cases hs

end Zero

/-- The bits of a double with the given sign and magnitude bits. -/
theorem toNat_toBits_ofMagnitude (s : Bool) {bits : Nat} (h : bits ≤ infinityBits) :
    (ofMagnitude s bits).toBits.toNat = if s then 2 ^ 63 + bits else bits := by
  have hbits : (UInt64.ofNat (if s then Nat.pow 2 63 + bits else bits)).toNat =
      if s then 2 ^ 63 + bits else bits := by
    rw [infinityBits_eq] at h
    simp only [UInt64.toNat_ofNat', Nat.pow_eq]
    split <;> omega
  rw [ofMagnitude, toBits_ofBits, hbits]
  rw [hbits, infinityBits_eq] at *
  split <;> omega

/-- **An integer that is not zero is not rounded to zero.** -/
theorem ofIntOrInfinite_ne_zero {i : Int} (hi : i ≠ 0) : (ofIntOrInfinite i == 0) = false := by
  rw [Bool.eq_false_iff]
  intro hzero
  have hbits := toBits_of_beq_zero hzero
  have hle := nearestBits_le i.natAbs 1
  have hpos := nearestBits_pos (Int.natAbs_pos.2 hi)
  rw [ofIntOrInfinite, nearest, toNat_toBits_ofMagnitude _ hle] at hbits
  rw [infinityBits_eq] at hle
  split at hbits <;> omega

/-! ## Whole numbers -/

/-- **What the double with the given bits stands for**, unless they are those of infinity. -/
theorem view_ofMagnitude (s : Bool) {bits : Nat} (h : bits < infinityBits) :
    view (ofMagnitude s bits) = .finite s (if bits < 2 ^ 52 then bits
      else (2 ^ 52 + bits % 2 ^ 52) * 2 ^ (bits / 2 ^ 52 - 1)) := by
  have hbits := toNat_toBits_ofMagnitude s h.le
  rw [infinityBits_eq] at h
  have hsign : (if s then 2 ^ 63 + bits else bits) / 2 ^ 63 = if s then 1 else 0 := by
    split <;> omega
  have hfield : (if s then 2 ^ 63 + bits else bits) / 2 ^ 52 % 2048 = bits / 2 ^ 52 := by
    split <;> omega
  have hfraction : (if s then 2 ^ 63 + bits else bits) % 2 ^ 52 = bits % 2 ^ 52 := by
    split <;> omega
  have hnumber : (ofMagnitude s bits).isNaN = false :=
    isNaN_ofMagnitude s (by rw [infinityBits_eq]; exact h.le)
  have hnegative : ((if s then 1 else 0) == 1) = s := by cases s <;> rfl
  simp only [view, hnumber, hbits, exponentUnit_eq, Nat.pow_eq, hsign, hfield, hfraction,
    hnegative, Bool.false_eq_true, if_false]
  rw [if_neg (by omega)]
  by_cases hsmall : bits < 2 ^ 52
  · rw [if_pos hsmall, if_pos (by omega), Nat.mod_eq_of_lt hsmall]
  · rw [if_neg hsmall, if_neg (by omega)]

/-- A whole number is rounded to a whole number, in units.

**Proof sketch.** Where neighbours are at most one apart, the number is a multiple of the spacing
and is not rounded at all; else the rounded number is a multiple of the spacing, and so is one. -/
theorem dvd_of_view_nearest {s t : Bool} {n u : Nat} (h : nearestBits n 1 < infinityBits)
    (hview : view (nearest s n 1) = .finite t u) : unitsPerOne ∣ u := by
  rw [nearest, view_ofMagnitude s h] at hview
  obtain ⟨-, rfl⟩ := View.finite.inj hview
  obtain ⟨k, -, hk⟩ := exists_unitsPerOne_eq
  obtain ⟨hlt, hle⟩ := spacing_spec (n * unitsPerOne)
  have hbits : nearestBits n 1 = min infinityBits (spacing (n * unitsPerOne) * 2 ^ 52 +
      roundDiv (n * unitsPerOne) (2 ^ spacing (n * unitsPerOne))) := by
    rw [nearestBits_eq_min rfl, Nat.div_one, Nat.mul_one, exponentUnit_eq]
  generalize hp : spacing (n * unitsPerOne) = p at *
  have hpow : 0 < 2 ^ p := Nat.two_pow_pos p
  by_cases hsmall : p ≤ k
  · obtain ⟨m, hm⟩ : 2 ^ p ∣ n * unitsPerOne :=
      Nat.dvd_mul_left_of_dvd (hk ▸ Nat.pow_dvd_pow 2 hsmall) n
    have hround : roundDiv (n * unitsPerOne) (2 ^ p) = m := by
      apply roundDiv_eq _ _ _ hpow <;> rw [hm, Nat.mul_comm m] <;> omega
    rw [hround] at hbits
    rw [hm, Nat.pow_add, Nat.mul_comm (2 ^ p)] at hlt
    have hlt : m < 2 ^ 53 := Nat.lt_of_mul_lt_mul_right hlt
    have hle : p = 0 ∨ 2 ^ 52 ≤ m := by
      rw [hm, Nat.pow_add, Nat.mul_comm (2 ^ p)] at hle
      exact hle.imp id fun hle => Nat.le_of_mul_le_mul_right hle hpow
    -- the number of units is that of the number itself
    have hunits : (if nearestBits n 1 < 2 ^ 52 then nearestBits n 1
        else (2 ^ 52 + nearestBits n 1 % 2 ^ 52) * 2 ^ (nearestBits n 1 / 2 ^ 52 - 1)) =
          n * unitsPerOne := by
      split
      · obtain rfl : p = 0 := by omega
        omega
      · have hfield : nearestBits n 1 / 2 ^ 52 - 1 = p := by omega
        have hsignificand : 2 ^ 52 + nearestBits n 1 % 2 ^ 52 = m := by omega
        rw [hfield, hsignificand, hm, Nat.mul_comm]
    rw [hunits]
    exact Nat.dvd_mul_left ..
  · have hle := hle.resolve_left (by omega)
    have hround : 2 ^ 52 ≤ roundDiv (n * unitsPerOne) (2 ^ p) := by
      have := roundDiv_eq_or (n * unitsPerOne) (2 ^ p)
      have : 2 ^ 52 ≤ n * unitsPerOne / 2 ^ p := by
        rwa [Nat.le_div_iff_mul_le hpow, ← Nat.pow_add]
      omega
    rw [if_neg (by omega), hk]
    exact Nat.dvd_mul_left_of_dvd (Nat.pow_dvd_pow 2 (by omega)) _

/-- **A whole number is rounded to a whole number**, unless it leaves the range of doubles. -/
theorem exists_toInt?_ofIntOrInfinite {i : Int} (h : nearestBits i.natAbs 1 < infinityBits) :
    ∃ j, toInt? (ofIntOrInfinite i) = some j := by
  have hview := view_ofMagnitude (i < 0) h
  have hdvd := dvd_of_view_nearest (s := i < 0) h hview
  rw [toInt?, ofIntOrInfinite, nearest, hview]
  exact ⟨_, if_pos (Nat.mod_eq_zero_of_dvd hdvd)⟩

/-- The greatest whole number that is a double. -/
def greatestWhole : Nat :=
  (2 ^ 53 - 1) * 2 ^ 971

/-- No double has more units than the greatest whole number. -/
theorem IsMagnitude.le {u : Nat} (hu : IsMagnitude u) : u ≤ greatestWhole * unitsPerOne := by
  obtain ⟨k, hk, hunits⟩ := exists_unitsPerOne_eq
  obtain ⟨m, p, rfl, hm, -, hp⟩ := hu.exists_eq
  rw [greatestWhole, hunits, Nat.mul_assoc, ← Nat.pow_add]
  exact Nat.mul_le_mul (by omega) (pow_le_pow_right₀ one_le_two (by omega))

/-- Whole numbers up to the greatest one that is a double, and one more, are in the range. -/
theorem nearestBits_lt {n : Nat} (h : n ≤ greatestWhole + 1) : nearestBits n 1 < infinityBits := by
  have hgreatest : nearestBits (greatestWhole + 1) 1 < infinityBits := by decide +kernel
  exact (nearestBits_mono (by omega) (by omega) (by omega)).trans_lt hgreatest

/-- **An integer that is a double is in the range.** -/
theorem exists_ofInt_of_toInt? {x : Float} {i : Int} (h : toInt? x = some i) :
    ∃ y, ofInt i = .ok y := by
  rw [toInt?] at h
  split at h
  · rename_i s u hview
    split_ifs at h with hwhole
    cases h
    have hle : u / unitsPerOne ≤ greatestWhole :=
      Nat.div_le_of_le_mul (Nat.mul_comm .. ▸ (of_view_finite hview).1.le)
    have habs (n : Nat) : (signed s n).natAbs = n := by cases s <;> simp [signed]
    exact ⟨_, if_pos (by rw [habs]; exact nearestBits_lt (by omega))⟩
  · cases h

/-- The whole number below a double lies between the least and the greatest one that are doubles. -/
theorem fdiv_mem_range (s : Bool) {u : Nat} (hu : IsMagnitude u) :
    -(greatestWhole : Int) ≤ (signed s u).fdiv unitsPerOne ∧
      (signed s u).fdiv unitsPerOne ≤ greatestWhole := by
  have hle : (u : Int) ≤ greatestWhole * unitsPerOne := by exact_mod_cast hu.le
  have hpos : (0 : Int) < unitsPerOne := by
    obtain ⟨k, -, hk⟩ := exists_unitsPerOne_eq
    exact_mod_cast hk ▸ Nat.two_pow_pos k
  rw [Int.fdiv_eq_ediv_of_nonneg _ hpos.le, Int.le_ediv_iff_mul_le hpos]
  have hupper : signed s u / unitsPerOne < (greatestWhole : Int) + 1 := by
    rw [Int.ediv_lt_iff_lt_mul hpos, Int.add_mul]
    cases s <;> simp only [signed, Bool.false_eq_true, if_false, if_true] <;> omega
  refine ⟨?_, by omega⟩
  rw [Int.neg_mul]
  cases s <;> simp only [signed, Bool.false_eq_true, if_false, if_true] <;> omega

/-- **A finite double is rounded to an integer.** -/
theorem exists_toInt?_roundHalfUp {x : Float} (h : isFinite x = true) :
    ∃ i, toInt? (roundHalfUp x) = some i := by
  rw [isFinite] at h
  split at h
  · rename_i s u hview
    obtain ⟨hleast, hgreatest⟩ := fdiv_mem_range s (of_view_finite hview).1
    have hround : ∃ i : Int, roundHalfUp x = ofIntOrInfinite i ∧
        i.natAbs ≤ greatestWhole + 1 := by
      simp only [roundHalfUp, hview]
      refine ⟨_, rfl, ?_⟩
      split <;> omega
    obtain ⟨i, hi, habs⟩ := hround
    rw [hi]
    exact exists_toInt?_ofIntOrInfinite (nearestBits_lt habs)
  · cases h

end DesignGraph.Double
