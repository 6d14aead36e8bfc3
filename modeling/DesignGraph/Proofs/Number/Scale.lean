import DesignGraph.Proofs.Number.Comparison
import Mathlib.Algebra.Order.Group.Int
import Mathlib.Data.Prod.Lex
import Mathlib.Order.Compare
/-!
# The scale of doubles

Doubles other than NaN are compared by their places on one scale: an infinity lies beyond everything
finite on its side, finite doubles lie by exponent and significand, and both zeros lie in the
middle. A scale is a linear order, and so are the comparisons of doubles that are not NaN.

## Main definitions

* `DesignGraph.Double.place`, `DesignGraph.Double.rank` — where a double lies on the scale.

## Main results

* `DesignGraph.Double.compare_eq_cmp` — comparing doubles is comparing their places.
* `DesignGraph.Double.lt_iff_rank_lt`, `DesignGraph.Double.le_iff_rank_le`,
  `DesignGraph.Double.beq_iff_rank_eq` — so doubles that are not NaN are in a linear order.
* `DesignGraph.Double.beq_self` — a double is equal to itself, unless it is NaN.
-/

set_option relaxedAutoImplicit false
set_option autoImplicit false

namespace DesignGraph

namespace Double

open Float.Model Float.Model.UnpackedFloat

/-! ## Places -/

/-- Where an unpacked double lies: its kind, and for a finite one its exponent and significand,
which count backwards below zero. -/
def place : UnpackedFloat → ℤ ×ₗ ℤ ×ₗ ℤ
  | .infinity .negative => toLex (-2, toLex (0, 0))
  | .finite .negative m e _ => toLex (-1, toLex (-e, -m))
  | .notANumber | .zero _ => toLex (0, toLex (0, 0))
  | .finite .positive m e _ => toLex (1, toLex (e, m))
  | .infinity .positive => toLex (2, toLex (0, 0))

/-- Pairs are compared by what comes first, then by what comes second. -/
theorem cmp_toLex {α β : Type} [LinearOrder α] [LinearOrder β] (a b : α) (x y : β) :
    cmp (toLex (a, x)) (toLex (b, y)) = (cmp a b).then (cmp x y) := by
  rw [cmp_eq_compare, Prod.Lex.compare_def, cmp_eq_compare, cmp_eq_compare]
  rfl

/-- What counts backwards compares backwards. -/
theorem cmp_neg_neg (i j : ℤ) : cmp (-i) (-j) = cmp j i :=
  StrictAnti.cmp_map_eq (fun _ _ h => neg_lt_neg h) i j

/-- **Comparing doubles is comparing their places**, unless one of them is NaN. -/
theorem compare_eq_cmp {a b : UnpackedFloat} (ha : a ≠ .notANumber) (hb : b ≠ .notANumber) :
    a.compare b = some (cmp (place a) (place b)) := by
  cases a with
  | notANumber => exact absurd rfl ha
  | infinity s => cases b with
    | notANumber => exact absurd rfl hb
    | infinity t => cases s <;> cases t <;> rfl
    | zero t => cases s <;> rfl
    | finite t => cases s <;> cases t <;> rfl
  | zero s => cases b with
    | notANumber => exact absurd rfl hb
    | infinity t => cases t <;> rfl
    | zero t => rfl
    | finite t => cases t <;> rfl
  | finite s m₁ e₁ => cases b with
    | notANumber => exact absurd rfl hb
    | infinity t => cases s <;> cases t <;> rfl
    | zero t => cases s <;> rfl
    | finite t m₂ e₂ =>
      have hcast (m n : Nat) : cmp (m : ℤ) n = compare m n :=
        (Int.natCast_strictMono.cmp_map_eq m n).trans (cmp_eq_compare m n)
      cases s <;> cases t
      · simp only [place, cmp_toLex, cmp_self_eq_eq, cmp_neg_neg, hcast, cmp_eq_compare e₂]
        show some (((compare e₁ e₂).then (compare m₁ m₂)).swap) = _
        rw [Ordering.swap_then, Int.compare_swap, Nat.compare_swap]
        rfl
      · rfl
      · rfl
      · simp only [place, cmp_toLex, cmp_self_eq_eq, hcast, cmp_eq_compare e₁]
        rfl

/-! ## Comparing doubles -/

/-- Where a double lies on the scale. -/
def rank (x : Float) : ℤ ×ₗ ℤ ×ₗ ℤ :=
  place x.toModel.unpack

/-- A double that is not NaN is not unpacked as one. -/
theorem unpack_ne_of_isNaN {x : Float} (h : x.isNaN = false) :
    x.toModel.unpack ≠ .notANumber := by
  intro hx
  change x.toModel.unpack.isNaN = false at h
  rw [hx] at h
  cases h

section Comparison

variable {x y : Float} (hx : x.isNaN = false) (hy : y.isNaN = false)
include hx hy

/-- Doubles compare as their ranks do. -/
theorem compare_eq_cmp_rank :
    x.toModel.unpack.compare y.toModel.unpack = some (cmp (rank x) (rank y)) :=
  compare_eq_cmp (unpack_ne_of_isNaN hx) (unpack_ne_of_isNaN hy)

/-- A double is less than another one if it lies below. -/
theorem lt_iff_rank_lt : x < y ↔ rank x < rank y := by
  have hlt : x < y ↔ x.toModel.unpack.compare y.toModel.unpack = some .lt :=
    decide_eq_true_iff.trans beq_iff_eq
  rw [hlt, compare_eq_cmp_rank hx hy, Option.some_inj, cmp_eq_lt_iff]

/-- Doubles are equal if they lie in the same place. -/
theorem beq_iff_rank_eq : (x == y) = true ↔ rank x = rank y := by
  show (x.toModel.unpack.compare y.toModel.unpack == some .eq) = true ↔ _
  rw [beq_iff_eq, compare_eq_cmp_rank hx hy, Option.some_inj, cmp_eq_eq_iff]

/-- A double is at most another one if it does not lie above. -/
theorem le_iff_rank_le : x ≤ y ↔ rank x ≤ rank y := by
  have hle : x ≤ y ↔ Option.any Ordering.isLE (x.toModel.unpack.compare y.toModel.unpack) :=
    decide_eq_true_iff
  rw [hle, compare_eq_cmp_rank hx hy, Option.any_some]
  rcases lt_trichotomy (rank x) (rank y) with hlt | heq | hgt
  · rw [(cmp_eq_lt_iff _ _).2 hlt]
    exact ⟨fun _ => hlt.le, fun _ => rfl⟩
  · rw [(cmp_eq_eq_iff _ _).2 heq]
    exact ⟨fun _ => heq.le, fun _ => rfl⟩
  · rw [(cmp_eq_gt_iff _ _).2 hgt]
    exact ⟨nofun, fun hle => absurd hgt hle.not_gt⟩

end Comparison

/-- **A double is equal to itself, unless it is NaN.** -/
theorem beq_self (x : Float) : (x == x) = !x.isNaN := by
  cases hx : x.isNaN with
  | true => exact not_beq_of_isNaN hx x
  | false => exact (beq_iff_rank_eq hx hx).2 rfl

end Double

end DesignGraph
