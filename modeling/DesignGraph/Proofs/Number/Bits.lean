import Mathlib
import DesignGraph.Number.Double
/-!
# Bit patterns of doubles

A double and its bits determine one another, and what a double stands for determines its bits: a
finite double is a sign and a magnitude `m * 2 ^ p` with 53 significant bits, or with fewer of
them where neighbours are one unit apart, and such a magnitude has one bit pattern.

## Main definitions

* `DesignGraph.Double.IsMagnitude` — the numbers of units that doubles have.
* `DesignGraph.Double.magnitudeBits` — their bit patterns.

## Main results

* `DesignGraph.Double.ofBits_toBits` — a double is the one with its own bits.
* `DesignGraph.Double.view_cases` — what a double stands for, and which one it is then.
* `DesignGraph.Double.of_view_finite`, `DesignGraph.Double.of_view_infinite` — a double that is a
  number is known by its view.
* `DesignGraph.Double.isNaN_ofMagnitude` — no magnitude up to infinity is NaN.
* `DesignGraph.Double.sub_self_of_isFinite` — a finite double minus itself is zero.

## Design

The bits of a double are packed from a sign, an exponent and a fraction. Packing what was unpacked
gives the same bits as long as they are valid, which is to say that there is one NaN only; the
proof goes through the five kinds of bit patterns.
-/

set_option relaxedAutoImplicit false
set_option autoImplicit false

namespace DesignGraph.Double

open Float.Model Float.Model.UnpackedFloat

/-- The weight of the lowest exponent bit, as a power that arithmetic knows. -/
theorem exponentUnit_eq : exponentUnit = 2 ^ 52 := by
  rw [exponentUnit, Nat.pow_eq]

/-- The bits of infinity, as numbers that arithmetic knows. -/
theorem infinityBits_eq : infinityBits = 2047 * 2 ^ 52 := by
  rw [infinityBits, exponentUnit_eq]

/-- The number of units in one, as a power that arithmetic knows and does not evaluate. -/
theorem exists_unitsPerOne_eq : ∃ k, k = 1074 ∧ unitsPerOne = 2 ^ k := by
  unfold unitsPerOne
  generalize 1074 = k
  exact ⟨k, rfl, Nat.pow_eq⟩

/-! ## Packing what was unpacked -/

/-- A sign and its bit determine one another. -/
theorem toBitVec_ofBitVec (b : BitVec 1) : (Sign.ofBitVec b).toBitVec = b := by
  revert b
  decide

/-- A bit pattern consists of its sign, its exponent and its fraction. -/
theorem packComponents_parts (b : BitVec Format.binary64.numBits) :
    packComponents Format.binary64 (.ofBitVec (unpackSign b)) (unpackExponent b)
      (unpackMantissa b) = b := by
  apply BitVec.eq_of_getLsbD_eq
  intro i (hi : i < 64)
  rw [packComponents, toBitVec_ofBitVec]
  simp only [unpackSign, unpackExponent, unpackMantissa, BitVec.getLsbD_append,
    BitVec.getLsbD_cast, BitVec.getLsbD_extractLsb]
  by_cases hfraction : i < 52
  · simp [hfraction]
  · by_cases hexponent : i - 52 < 11
    · have hi' : 52 + (i - 52) = i := by omega
      simp [hfraction, hexponent, hi']
    · obtain rfl : i = 63 := by omega
      simp

/-- The exponent of a bit pattern, by division. -/
theorem unpackExponent_eq (b : BitVec Format.binary64.numBits) :
    (unpackExponent b).toNat = b.toNat / 2 ^ 52 % 2048 := by
  simp [unpackExponent, BitVec.extractLsb_toNat, Nat.shiftRight_eq_div_pow]

/-- The fraction of a bit pattern, by division. -/
theorem unpackMantissa_eq (b : BitVec Format.binary64.numBits) :
    (unpackMantissa b).toNat = b.toNat % 2 ^ 52 := by
  simp [unpackMantissa, BitVec.extractLsb_toNat, Nat.shiftRight_eq_div_pow]

/-- Packing a significand with its leading bit gives the exponent and the fraction back. -/
theorem pack_normal (s : Sign) (exponent : BitVec 11) (fraction : BitVec 52) (e : Int)
    (he : e = exponent.toNat - (1023 + 52)) (h : exponent.toNat + 1 < 2 ^ 11)
    (hpos : 0 < (1#1 ++ fraction).toNat) :
    UnpackedFloat.pack Format.binary64 (.finite s (1#1 ++ fraction).toNat e hpos) =
      packComponents Format.binary64 s exponent fraction := by
  have hlt : fraction.toNat < 2 ^ 52 := fraction.isLt
  have hm : (1#1 ++ fraction).toNat = 2 ^ 52 + fraction.toNat := by
    rw [BitVec.toNat_append, ← Nat.shiftLeft_add_eq_or_of_lt hlt]
    rfl
  have hlog : (2 ^ 52 + fraction.toNat).log2 = 52 := (Nat.log2_eq_iff (by omega)).2 (by omega)
  have hbias : (e + ((2 ^ (11 - 1) - 1 : Nat) : Int) + ((52 : Nat) : Int)).toNat =
      exponent.toNat := by
    omega
  have hfraction : BitVec.ofNat 52 (2 ^ 52 + fraction.toNat) = fraction := by
    apply BitVec.eq_of_toNat_eq
    rw [BitVec.toNat_ofNat, Nat.add_mod_left, Nat.mod_eq_of_lt hlt]
  simp only [UnpackedFloat.pack, hm, Format.exponentBias, Format.mantissaBits]
  rw [hbias, hlog, if_neg (by omega), if_pos rfl, hfraction, BitVec.ofNat_toNat,
    BitVec.setWidth_eq]

/-- Packing a fraction that has no leading bit gives it back under the least exponent. -/
theorem pack_subnormal (s : Sign) (fraction : BitVec 52) (hpos : 0 < fraction.toNat) :
    UnpackedFloat.pack Format.binary64 (.finite s fraction.toNat (-1074) hpos) =
      packComponents Format.binary64 s 0#_ fraction := by
  have hlog : fraction.toNat.log2 < 52 := (Nat.log2_lt (by omega)).2 fraction.isLt
  have hne : ¬ fraction.toNat.log2 + 1 = 1 + 52 := by omega
  simp [UnpackedFloat.pack, Format.exponentBias, Format.mantissaBits, hne]

/-- Packing what was unpacked gives the same bits. -/
theorem pack_unpack (b : BitVec Format.binary64.numBits) (h : Format.binary64.Valid b) :
    UnpackedFloat.pack Format.binary64 (UnpackedFloat.unpack Format.binary64 b) = b := by
  have hb := packComponents_parts b
  unfold UnpackedFloat.unpack
  simp only
  by_cases he : unpackExponent b = -1#_
  · rw [if_pos he]
    by_cases hm : unpackMantissa b = 0#_
    · rw [if_pos hm, UnpackedFloat.pack, packedInfinity]
      rwa [he, hm] at hb
    · rw [if_neg hm, UnpackedFloat.pack]
      exact (h.eq_packedNaN he hm).symm
  rw [if_neg he]
  by_cases he0 : unpackExponent b = 0#_
  · rw [if_pos he0]
    by_cases hm : unpackMantissa b = 0#_
    · rw [dif_pos hm, UnpackedFloat.pack, packedZero]
      rwa [he0, hm] at hb
    · rw [dif_neg hm]
      rw [he0] at hb ⊢
      exact (pack_subnormal ..).trans hb
  · rw [if_neg he0]
    refine (pack_normal _ _ _ _ rfl ?_ _).trans hb
    have hlt := (unpackExponent b).isLt
    have hne : (unpackExponent b).toNat ≠ 2047 := fun hcon => he (BitVec.eq_of_toNat_eq hcon)
    change _ < 2 ^ 11 at hlt
    omega

/-! ## Doubles and their bits -/

/-- A double is the one with its own bits. -/
theorem ofBits_toBits (x : Float) : Float.ofBits x.toBits = x := by
  obtain ⟨⟨bits, valid⟩⟩ := x
  simp only [Float.ofBits, Float.toBits, Float.Model.ofBits, Float.Model.pack]
  congr 2
  simp [pack_unpack _ valid]

/-- A double is NaN if its exponent is the greatest one and its fraction is not zero. -/
theorem isNaN_iff (x : Float) : x.isNaN = true ↔
    x.toBits.toNat / 2 ^ 52 % 2048 = 2047 ∧ x.toBits.toNat % 2 ^ 52 ≠ 0 := by
  obtain ⟨⟨bits, valid⟩⟩ := x
  have he : @unpackExponent Format.binary64 bits.toBitVec = -1#_ ↔
      bits.toNat / 2 ^ 52 % 2048 = 2047 := by
    rw [← BitVec.toNat_inj, unpackExponent_eq]
    rfl
  have hm : @unpackMantissa Format.binary64 bits.toBitVec = 0#_ ↔ bits.toNat % 2 ^ 52 = 0 := by
    rw [← BitVec.toNat_inj, unpackMantissa_eq]
    rfl
  simp only [Float.isNaN, Float.Model.isNaN, Float.toBits, Float.Model.unpack,
    UnpackedFloat.unpack, ← he, ne_eq, ← hm]
  split
  · split <;> simp_all [UnpackedFloat.isNaN]
  · split <;> (try split) <;> simp_all [UnpackedFloat.isNaN]

/-- Bits that do not stand for NaN are those of a double. -/
theorem toBits_ofBits {bits : UInt64} (h : bits.toNat % 2 ^ 63 ≤ infinityBits) :
    (Float.ofBits bits).toBits = bits := by
  rw [infinityBits_eq] at h
  have hvalid : Format.binary64.Valid bits.toBitVec := by
    refine ⟨fun he hm => absurd ?_ hm⟩
    rw [← BitVec.toNat_inj, unpackExponent_eq] at he
    rw [← BitVec.toNat_inj, unpackMantissa_eq]
    change bits.toNat / 2 ^ 52 % 2048 = 2047 at he
    change bits.toNat % 2 ^ 52 = 0
    omega
  simp only [Float.ofBits, Float.toBits, Float.Model.ofBits, Float.Model.pack]
  rw [pack_unpack _ hvalid]

/-- A double has the sign and the magnitude of its bits. -/
theorem ofMagnitude_toBits (x : Float) :
    ofMagnitude (x.toBits.toNat / Nat.pow 2 63 == 1) (x.toBits.toNat % 2 ^ 63) = x := by
  have hlt : x.toBits.toNat < 2 ^ 64 := x.toBits.toNat_lt
  have hbits : (if (x.toBits.toNat / Nat.pow 2 63 == 1) = true
      then Nat.pow 2 63 + x.toBits.toNat % 2 ^ 63 else x.toBits.toNat % 2 ^ 63) =
        x.toBits.toNat := by
    simp only [Nat.pow_eq, beq_iff_eq]
    split <;> omega
  rw [ofMagnitude, hbits, UInt64.ofNat_toNat, ofBits_toBits]

/-- No magnitude up to infinity is NaN. -/
theorem isNaN_ofMagnitude (s : Bool) {bits : Nat} (h : bits ≤ infinityBits) :
    (ofMagnitude s bits).isNaN = false := by
  have hbits : (UInt64.ofNat (if s then Nat.pow 2 63 + bits else bits)).toNat =
      if s then 2 ^ 63 + bits else bits := by
    rw [infinityBits_eq] at h
    simp only [UInt64.toNat_ofNat', Nat.pow_eq]
    split <;> omega
  have hle : (if s then 2 ^ 63 + bits else bits) % 2 ^ 63 = bits := by
    rw [infinityBits_eq] at h
    split <;> omega
  rw [← Bool.not_eq_true, isNaN_iff, ofMagnitude, toBits_ofBits (by rw [hbits, hle]; exact h),
    hbits]
  rw [infinityBits_eq] at h
  split <;> omega

/-! ## Magnitudes -/

/-- The spacing around magnitudes with 53 significant bits, or with fewer where neighbours are one
unit apart. -/
theorem spacing_eq {units p : Nat} (hlt : units < 2 ^ (53 + p))
    (hle : p = 0 ∨ 2 ^ (52 + p) ≤ units) : spacing units = p := by
  have hpow : spacing units = if units < 2 ^ 53 then 0 else units.log2 - 52 := by
    rw [spacing, Nat.pow_eq]
  rw [hpow]
  rcases Nat.eq_zero_or_pos p with rfl | hp
  · exact if_pos hlt
  · have hle := hle.resolve_left (by omega)
    have h53 : 2 ^ 53 ≤ units :=
      (Nat.pow_le_pow_right (by omega) (by omega : 53 ≤ 52 + p)).trans hle
    have hlog : units.log2 = 52 + p :=
      (Nat.log2_eq_iff (by omega)).2 ⟨hle, by rwa [show 52 + p + 1 = 53 + p by omega]⟩
    rw [if_neg (by omega), hlog]
    omega

/-- The spacing around a significand and a power of two. -/
theorem spacing_mul {m p : Nat} (hm : m < 2 ^ 53) (hp : p = 0 ∨ 2 ^ 52 ≤ m) :
    spacing (m * 2 ^ p) = p := by
  apply spacing_eq
  · rw [Nat.pow_add]
    exact Nat.mul_lt_mul_of_pos_right hm (Nat.two_pow_pos p)
  · refine hp.imp id fun h => ?_
    rw [Nat.pow_add]
    exact Nat.mul_le_mul_right _ h

/-- A number of units that some double has: a significand of 53 bits, or of fewer where
neighbours are one unit apart, times a power of two within the range. -/
structure IsMagnitude (units : Nat) : Prop where
  exists_eq : ∃ m p, units = m * 2 ^ p ∧ m < 2 ^ 53 ∧ (p = 0 ∨ 2 ^ 52 ≤ m) ∧ p ≤ 2045

/-- The bit pattern of a magnitude. -/
def magnitudeBits (units : Nat) : Nat :=
  spacing units * exponentUnit + units / 2 ^ spacing units

/-- The bit pattern of a significand and a power of two. -/
theorem magnitudeBits_mul {m p : Nat} (hm : m < 2 ^ 53) (hp : p = 0 ∨ 2 ^ 52 ≤ m) :
    magnitudeBits (m * 2 ^ p) = p * exponentUnit + m := by
  rw [magnitudeBits, spacing_mul hm hp, Nat.mul_div_cancel _ (Nat.two_pow_pos p)]

/-! ## What a double stands for -/

/-- A double is NaN, infinite, or a sign and a magnitude; it is the only one of them. -/
theorem view_cases (x : Float) :
    (view x = .nan ∧ x.isNaN = true) ∨
    (∃ s, view x = .infinite s ∧ x = infinity s) ∨
    ∃ s u, view x = .finite s u ∧ IsMagnitude u ∧ x = ofMagnitude s (magnitudeBits u) := by
  have hx := ofMagnitude_toBits x
  have hnan := isNaN_iff x
  simp only [view, exponentUnit_eq]
  generalize x.toBits.toNat = bits at hx hnan ⊢
  by_cases hn : x.isNaN = true
  · exact .inl ⟨if_pos hn, hn⟩
  rw [if_neg hn]
  by_cases hf : bits / 2 ^ 52 % 2048 = 2047
  · refine .inr (.inl ⟨_, if_pos hf, hx.symm.trans ?_⟩)
    have hz : bits % 2 ^ 52 = 0 := by
      by_contra hne
      exact hn (hnan.2 ⟨hf, hne⟩)
    rw [infinity, infinityBits_eq]
    congr 1
    omega
  rw [if_neg hf]
  refine .inr (.inr ⟨bits / Nat.pow 2 63 == 1, ?_⟩)
  by_cases h0 : bits / 2 ^ 52 % 2048 = 0
  · have hm : bits % 2 ^ 52 < 2 ^ 53 := by omega
    have hbits := magnitudeBits_mul hm (.inl rfl)
    rw [exponentUnit_eq, pow_zero, mul_one] at hbits
    refine ⟨_, if_pos h0, ⟨_, 0, (mul_one _).symm, hm, .inl rfl, by omega⟩, hx.symm.trans ?_⟩
    rw [hbits]
    congr 1
    omega
  · have hm : 2 ^ 52 + bits % 2 ^ 52 < 2 ^ 53 := by omega
    have hbits := magnitudeBits_mul (p := bits / 2 ^ 52 % 2048 - 1) hm (.inr (by omega))
    rw [exponentUnit_eq] at hbits
    refine ⟨_, if_neg h0, ⟨_, _, rfl, hm, .inr (by omega), by omega⟩, hx.symm.trans ?_⟩
    simp only [Nat.pow_eq, hbits]
    congr 1
    omega

/-- A finite double is known by its sign and its magnitude. -/
theorem of_view_finite {x : Float} {s : Bool} {u : Nat} (h : view x = .finite s u) :
    IsMagnitude u ∧ x = ofMagnitude s (magnitudeBits u) := by
  obtain ⟨hv, -⟩ | ⟨_, hv, -⟩ | ⟨_, _, hv, hu, hx⟩ := view_cases x <;> rw [h] at hv <;> cases hv
  exact ⟨hu, hx⟩

/-- An infinite double is known by its sign. -/
theorem of_view_infinite {x : Float} {s : Bool} (h : view x = .infinite s) : x = infinity s := by
  obtain ⟨hv, -⟩ | ⟨_, hv, hx⟩ | ⟨_, _, hv, -⟩ := view_cases x <;> rw [h] at hv <;> cases hv
  exact hx

/-- Only NaN stands for no number. -/
theorem isNaN_of_view {x : Float} (h : view x = .nan) : x.isNaN = true := by
  obtain ⟨-, hx⟩ | ⟨_, hv, -⟩ | ⟨_, _, hv, -⟩ := view_cases x
  · exact hx
  all_goals rw [h] at hv; cases hv

/-! ## Differences -/

/-- The difference of an unpacked number and itself is zero. -/
theorem sub_self_unpacked {u : UnpackedFloat} (hnan : u ≠ .notANumber)
    (hinfinite : ∀ s, u ≠ .infinity s) :
    UnpackedFloat.sub Format.binary64 u u = .zero .positive := by
  cases u with
  | notANumber => exact absurd rfl hnan
  | infinity s => exact absurd rfl (hinfinite s)
  | zero s => cases s <;> rfl
  | finite s m e hm => simp [UnpackedFloat.sub, UnpackedFloat.normalize]

/-- The difference of a finite double and itself is zero. -/
theorem sub_self_of_isFinite {x : Float} (h : isFinite x = true) : x - x = 0 := by
  have hfield : x.toBits.toNat / 2 ^ 52 % 2048 ≠ 2047 := by
    intro hcon
    rw [isFinite, view, exponentUnit_eq] at h
    simp only [hcon] at h
    split_ifs at h
  obtain ⟨⟨bits, valid⟩⟩ := x
  have he : @unpackExponent Format.binary64 bits.toBitVec ≠ -1#_ := by
    rw [ne_eq, ← BitVec.toNat_inj, unpackExponent_eq]
    exact hfield
  have hsub : UnpackedFloat.sub Format.binary64 (UnpackedFloat.unpack Format.binary64 bits.toBitVec)
      (UnpackedFloat.unpack Format.binary64 bits.toBitVec) = .zero .positive := by
    refine sub_self_unpacked ?_ fun s => ?_ <;>
    · unfold UnpackedFloat.unpack
      simp only [if_neg he]
      split_ifs <;> nofun
  exact congrArg (fun u => Float.ofModel (.pack u)) hsub

end DesignGraph.Double
