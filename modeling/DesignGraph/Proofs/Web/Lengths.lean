import DesignGraph.Proofs.Number.Whole
import DesignGraph.Proofs.Operation.Faults
import DesignGraph.Proofs.Outcome
import DesignGraph.Web.Css
/-!
# What style sheets fail of

The style of an element is computed from numbers that stand in the design, and from values that
its graphs have computed. Nearly all of them become CSS text. There are three exceptions: an
integer beyond the doubles cannot be put in relation to anything; a canvas without width is no
basis for lengths; and the size of a text that is fitted to its box is an integer, so that it has
to be finite.

## Main definitions

* `DesignGraph.Css.Misfit` — the fault of a length that is too large, or of a canvas without width.
* `DesignGraph.Css.Fits` — what is rounded when a text is fitted to its box.
* `DesignGraph.Css.measures` — the keys of a style under which numbers are looked for.

## Main results

* `DesignGraph.Number.failsWith_dividedBy` — when a quotient does not exist.
* `DesignGraph.Css.failsWith_wrapper` — the place of an element fails of numbers that are too large.
* `DesignGraph.Css.failsWith_element` — what the style of an element fails of.
-/

set_option relaxedAutoImplicit false
set_option autoImplicit false

namespace DesignGraph

open Coercion

variable {V : Value → Prop}

/-! ## Numbers -/

lemma Coercion.failsWith_toNumber {v : Value} (hv : V v) : FailsWith (TooLargeIn V) (toNumber v) :=
  ⟨fun _ h => .of_value hv (tooLarge_of_toNumber h)⟩

namespace Number

lemma failsWith_toDouble {n : Number} (hn : V n.toValue) : FailsWith (TooLargeIn V) n.toDouble := by
  cases n with
  | int i => exact ⟨fun _ h => .of_value hn (exceedsDoubles_of_ofInt h)⟩
  | float x => exact failsWith_ok x

lemma failsWith_times {n : Number} (hn : V n.toValue) (factor : Float) :
    FailsWith (TooLargeIn V) (n.times factor) :=
  (failsWith_toDouble hn).bind fun _ _ => failsWith_pure _

/-- Ones and zeros are in the range of doubles. -/
lemma not_exceedsDoubles_of_le_one {n : Nat} (h : n ≤ 1) : ¬ ExceedsDoubles n :=
  Nat.not_le.2 (Double.nearestBits_lt (by omega))

/-- A value that is a number is too large if its double does not exist. -/
lemma failsWith_ofValue? {v : Value} {n : Number} (h : ofValue? v = some n) (hv : V v) :
    FailsWith (TooLargeIn V) n.toDouble := by
  cases v with
  | int i =>
    cases h
    exact failsWith_toDouble hv
  | bool b =>
    cases h
    have hrange : ¬ ExceedsDoubles b.toInt.natAbs :=
      not_exceedsDoubles_of_le_one (by cases b <;> decide)
    exact ⟨fun _ hfault => absurd (exceedsDoubles_of_ofInt hfault).2 hrange⟩
  | float x | nan mark =>
    cases h
    exact failsWith_ok _
  | _ => cases h

/-- A number whose double is zero is zero. -/
lemma isZero_of_toDouble {n : Number} {x : Float} (h : n.toDouble = .ok x) (hx : (x == 0) = true) :
    n.isZero = true := by
  cases n with
  | int i =>
    rw [toDouble, Double.ofInt] at h
    split_ifs at h
    cases h
    by_contra hi
    have hne : i ≠ 0 := by simpa [isZero] using hi
    rw [Double.ofIntOrInfinite_ne_zero hne] at hx
    cases hx
  | float y =>
    cases h
    exact hx

/-- A quotient of integers is in the range if the first of them is. -/
lemma failsWith_quotient {a b : Int} (ha : V (.int a)) (hb : b ≠ 0) :
    FailsWith (TooLargeIn V) (Double.quotient a b) := by
  rw [Double.quotient, if_neg hb]
  split
  · exact failsWith_ok _
  · rename_i hrange
    refine failsWith_error.2 ⟨rfl, .int a, ha, ?_⟩
    have hle : Double.nearestBits a.natAbs b.natAbs ≤ Double.nearestBits a.natAbs 1 :=
      Double.nearestBits_mono (Int.natAbs_pos.2 hb) Nat.one_pos
        (Nat.mul_le_mul_left _ (Int.natAbs_pos.2 hb))
    exact (Nat.le_of_not_lt hrange).trans hle

/-- **A quotient exists unless a number is too large or the divisor is zero.** -/
lemma failsWith_dividedBy {a b : Number} (ha : V a.toValue) (hb : V b.toValue) :
    FailsWith (fun f => TooLargeIn V f ∨ f = .divisionByZero ∧ b.isZero = true)
      (a.dividedBy b) := by
  have hdoubles (hne : ∀ i j, ¬ (a = .int i ∧ b = .int j)) :
      a.dividedBy b = (do
        let x ← a.toDouble
        let y ← b.toDouble
        if y == 0 then .error .divisionByZero else return x / y) := by
    cases a <;> cases b <;> first | rfl | exact absurd ⟨rfl, rfl⟩ (hne _ _)
  by_cases hints : ∃ i j, a = .int i ∧ b = .int j
  · obtain ⟨i, j, rfl, rfl⟩ := hints
    by_cases hj : j = 0
    · subst hj
      exact failsWith_error.2 (.inr ⟨rfl, rfl⟩)
    · exact (failsWith_quotient ha hj).mono fun _ => .inl
  · rw [hdoubles fun i j h => hints ⟨i, j, h⟩]
    refine ((failsWith_toDouble ha).mono fun _ => .inl).bind fun x _ => ?_
    refine ((failsWith_toDouble hb).mono fun _ => .inl).bind fun y hy => ?_
    split
    · rename_i hzero
      exact failsWith_error.2 (.inr ⟨rfl, isZero_of_toDouble hy hzero⟩)
    · exact failsWith_pure _

/-- A double is not too large, so that only the number that divides it can be. -/
lemma failsWith_float_dividedBy (x : Float) {b : Number} (hb : V b.toValue) :
    FailsWith (fun f => TooLargeIn V f ∨ f = .divisionByZero ∧ b.isZero = true)
      (dividedBy (.float x) b) := by
  have hsum := failsWith_dividedBy (V := fun v => V v ∨ v = .float x) (a := .float x) (.inr rfl)
    (.inl hb)
  refine hsum.mono fun f h => h.imp_left ?_
  rintro ⟨hf, v, hv | rfl, hlarge⟩
  · exact ⟨hf, v, hv, hlarge⟩
  · exact hlarge.elim

end Number

namespace Css

/-! ## Places -/

/-- A length in percent fails of numbers that are too large; a basis of zero does no harm. -/
lemma failsWith_percent {value basis : Number} (hvalue : V value.toValue)
    (hbasis : V basis.toValue) : FailsWith (TooLargeIn V) (percent value basis) := by
  unfold percent
  split
  · exact failsWith_pure _
  · rename_i hzero
    refine FailsWith.bind ?_ fun _ _ => failsWith_pure _
    exact (Number.failsWith_dividedBy hvalue hbasis).mono fun f h =>
      h.resolve_right fun hdivision => hzero hdivision.2

/-- **The place of an element fails of numbers that are too large.** -/
lemma failsWith_wrapper {x y width height parentWidth parentHeight : Number} (hx : V x.toValue)
    (hy : V y.toValue) (hwidth : V width.toValue) (hheight : V height.toValue)
    (hparentWidth : V parentWidth.toValue) (hparentHeight : V parentHeight.toValue) :
    FailsWith (TooLargeIn V) (wrapper x y width height parentWidth parentHeight) :=
  (failsWith_percent hx hparentWidth).bind fun _ _ =>
    (failsWith_percent hy hparentHeight).bind fun _ _ =>
    (failsWith_percent hwidth hparentWidth).bind fun _ _ =>
    (failsWith_percent hheight hparentHeight).bind fun _ _ => failsWith_pure _

/-! ## Lengths -/

/-- The fault of a length that is too large, or of a canvas without width. -/
def Misfit (V : Value → Prop) (canvas : Number) (f : Fault) : Prop :=
  TooLargeIn V f ∨ f = .divisionByZero ∧ canvas.isZero = true

section Misfit

variable {style : Fields} {canvas : Number}

/-- A relative length exists if the pixels are some number, or none. -/
lemma failsWith_relative {v : Value} (hv : FailsWith (TooLargeIn V) (toNumber v))
    (hcanvas : V canvas.toValue) : FailsWith (Misfit V canvas) (relative v canvas) := by
  refine (hv.mono fun _ => .inl).bind fun x _ => ?_
  split
  · exact failsWith_pure _
  · exact (Number.failsWith_float_dividedBy x hcanvas).bind fun _ _ => failsWith_pure _

lemma failsWith_scaled {properties : List (String × String)}
    (hstyle : ∀ property ∈ properties, V (Fields.get style property.1))
    (hcanvas : V canvas.toValue) :
    FailsWith (Misfit V canvas) (scaled style canvas properties) := by
  induction properties with
  | nil => exact failsWith_ok _
  | cons property rest ih =>
    rw [List.forall_mem_cons] at hstyle
    obtain ⟨hfirst, hrest⟩ := hstyle
    obtain ⟨key, property⟩ := property
    have hrest := ih hrest
    unfold scaled
    rw [filled?]
    cases (Fields.get style key).isFilled with
    | false => exact hrest
    | true =>
      exact (failsWith_relative (failsWith_toNumber hfirst) hcanvas).bind fun _ _ =>
        hrest.bind fun _ _ => failsWith_pure _

/-- Pixels inside of a text are doubles. -/
lemma failsWith_scalePixels (hcanvas : V canvas.toValue) (steps : Nat) (cs : List Char) :
    FailsWith (Misfit V canvas) (scalePixels canvas steps cs) := by
  induction steps generalizing cs with
  | zero => exact failsWith_ok _
  | succ steps ih =>
    cases cs with
    | nil => exact failsWith_ok _
    | cons c cs =>
      rw [scalePixels]
      split
      · exact (failsWith_relative (failsWith_ok _) hcanvas).bind fun _ _ =>
          (ih _).bind fun _ _ => failsWith_pure _
      · exact (ih cs).bind fun _ _ => failsWith_pure _

lemma failsWith_shadow (hcanvas : V canvas.toValue) :
    FailsWith (Misfit V canvas) (shadow style canvas) := by
  unfold shadow
  split
  · exact failsWith_ok _
  · exact (failsWith_scalePixels hcanvas ..).bind fun _ _ => failsWith_pure _

lemma failsWith_borders (hstyle : ∀ property ∈ borderProperties, V (Fields.get style property.1))
    (hcanvas : V canvas.toValue) : FailsWith (Misfit V canvas) (borders style canvas) := by
  unfold borders
  split
  · exact failsWith_pure _
  · exact (failsWith_scaled hstyle hcanvas).bind fun _ _ => failsWith_pure _

lemma failsWith_opacity (hopacity : V (Fields.get style "opacity")) :
    FailsWith (TooLargeIn V) (opacity style) := by
  unfold opacity
  split
  · exact failsWith_ok _
  · split
    · rename_i n hn
      exact (Number.failsWith_ofValue? hn hopacity).map _
    · exact failsWith_ok _

/-! ## Fitted texts -/

/-- What is rounded when a text is fitted to its box: a share of its height, and one of its width.
-/
inductive Fits (width height : Number) (content : String) : Float → Prop
  | height {x : Float} : height.times 0.6 = .ok x → Fits width height content x
  | width {share : Float} : width.dividedBy (.int (max 1 content.length)) = .ok share →
      Fits width height content (share * 1.8)

/-- A double is rounded to an integer if it is finite. -/
lemma failsWith_nearestInt (x : Float) :
    FailsWith (fun f => f = .notInteger ∧ Double.isFinite x = false) (nearestInt x) := by
  cases hx : Double.isFinite x with
  | true =>
    obtain ⟨i, hi⟩ := Double.exists_toInt?_roundHalfUp hx
    rw [nearestInt, hi]
    exact failsWith_ok i
  | false =>
    unfold nearestInt
    split
    · exact failsWith_ok _
    · exact failsWith_error.2 ⟨rfl, rfl⟩

/-- What a text is fitted to is in the range of doubles. -/
lemma exists_ofInt_of_nearestInt {x : Float} {i : Int} (h : nearestInt x = .ok i) :
    ∃ y, Double.ofInt i = .ok y := by
  unfold nearestInt at h
  split at h
  · rename_i hi
    cases h
    exact Double.exists_ofInt_of_toInt? hi
  · cases h

/-- The fault of a text that is fitted to a box without a finite size. -/
def Unfit (width height : Number) (content : String) (f : Fault) : Prop :=
  f = .notInteger ∧ ∃ x, Fits width height content x ∧ Double.isFinite x = false

variable {width height : Number} {content : String}

/-- The number of characters of a text, one at least, is too large only if their number is. -/
lemma failsWith_share (hwidth : V width.toValue) (hlength : V (.int content.length)) :
    FailsWith (TooLargeIn V) (width.dividedBy (.int (max 1 content.length))) := by
  have hsum := Number.failsWith_dividedBy
    (V := fun v => V v ∨ v = .int (max 1 content.length)) (a := width)
    (b := .int (max 1 content.length)) (.inl hwidth) (.inr rfl)
  refine hsum.mono fun f h => ?_
  rcases h with ⟨hf, v, hv | rfl, hlarge⟩ | ⟨-, hzero⟩
  · exact ⟨hf, v, hv, hlarge⟩
  · by_cases hshort : content.length ≤ 1
    · have hone : (max 1 (content.length : Int)).natAbs ≤ 1 := by omega
      exact absurd hlarge (Number.not_exceedsDoubles_of_le_one hone)
    · rw [show max 1 (content.length : Int) = content.length by omega] at hlarge
      exact ⟨hf, _, hlength, hlarge⟩
  · have hpositive : max 1 (content.length : Int) ≠ 0 := by omega
    exact absurd (by simpa [Number.isZero] using hzero) hpositive

/-- **A text can be fitted to a box of finite size.** -/
lemma failsWith_fittingSize (hwidth : V width.toValue) (hheight : V height.toValue)
    (hlength : V (.int content.length)) :
    FailsWith (fun f => TooLargeIn V f ∨ Unfit width height content f)
      (fittingSize width height content) := by
  refine ((Number.failsWith_times hheight 0.6).mono fun _ => .inl).bind fun x hx => ?_
  refine FailsWith.bind ?_ fun _ _ => ?_
  · exact (failsWith_nearestInt x).mono fun f h => .inr ⟨h.1, x, .height hx, h.2⟩
  refine ((failsWith_share hwidth hlength).mono fun _ => .inl).bind fun share hshare => ?_
  refine FailsWith.bind ?_ fun _ _ => failsWith_pure _
  exact (failsWith_nearestInt _).mono fun f h => .inr ⟨h.1, _, .width hshare, h.2⟩

/-- The size of a fitted text is in the range of doubles. -/
lemma exists_ofInt_of_fittingSize {size : Int} (h : fittingSize width height content = .ok size) :
    ∃ y, Double.ofInt size = .ok y := by
  obtain ⟨x, -, h⟩ := bind_eq_ok.1 h
  obtain ⟨byHeight, hheight, h⟩ := bind_eq_ok.1 h
  obtain ⟨share, -, h⟩ := bind_eq_ok.1 h
  obtain ⟨byWidth, hwidth, h⟩ := bind_eq_ok.1 h
  cases h
  have hten : ∃ y, Double.ofInt 10 = .ok y := ⟨_, if_pos (by decide +kernel)⟩
  rcases max_choice 10 (min byHeight byWidth) with hmax | hmax <;> rw [hmax]
  · exact hten
  · rcases min_choice byHeight byWidth with hmin | hmin <;> rw [hmin]
    · exact exists_ofInt_of_nearestInt hheight
    · exact exists_ofInt_of_nearestInt hwidth

/-- The fault of a style: of a length, or of a text that should be fitted and cannot be. -/
def Unstylable (V : Value → Prop) (style : Fields) (width height : Number) (content : String)
    (canvas : Number) (f : Fault) : Prop :=
  Misfit V canvas f ∨
    (Fields.get style "autoFontSize").isFilled = true ∧ Unfit width height content f

lemma failsWith_fontSize (hfont : V (Fields.get style "fontSize")) (hwidth : V width.toValue)
    (hheight : V height.toValue) (hlength : V (.int content.length)) (hcanvas : V canvas.toValue) :
    FailsWith (Unstylable V style width height content canvas)
      (fontSize style width height content canvas) := by
  unfold fontSize
  split
  · rename_i hfitted
    refine FailsWith.bind ?_ fun size hsize => FailsWith.bind ?_ fun _ _ => failsWith_pure _
    · exact (failsWith_fittingSize hwidth hheight hlength).mono fun f h =>
        h.imp .inl fun hunfit => ⟨hfitted, hunfit⟩
    · obtain ⟨y, hy⟩ := exists_ofInt_of_fittingSize hsize
      have hnumber : toNumber (.int size) = .ok y := hy
      exact (failsWith_relative (hnumber ▸ failsWith_ok y) hcanvas).mono fun _ => .inl
  · refine (failsWith_scaled ?_ hcanvas).mono fun _ => .inl
    simpa using hfont

/-! ## Styles -/

/-- The keys of a style under which numbers are looked for. -/
def measures : List String :=
  ["opacity", "fontSize"] ++
    (spacingProperties ++ boxProperties ++ borderProperties).map Prod.fst

/-- **The style of an element fails of numbers that are too large**, of a canvas without width,
and of a text that should be fitted to a box without a finite size. -/
theorem failsWith_element (hstyle : ∀ key ∈ measures, V (Fields.get style key))
    (hwidth : V width.toValue) (hheight : V height.toValue) (hlength : V (.int content.length))
    (hcanvas : V canvas.toValue) :
    FailsWith (Unstylable V style width height content canvas)
      (element style width height content canvas) := by
  have hproperties (properties : List (String × String))
      (h : ∀ property ∈ properties, property.1 ∈ measures) :
      ∀ property ∈ properties, V (Fields.get style property.1) :=
    fun property hproperty => hstyle _ (h property hproperty)
  have hspacing := hproperties spacingProperties (by decide)
  have hbox := hproperties boxProperties (by decide)
  have hborders := hproperties borderProperties (by decide)
  refine FailsWith.bind ?_ fun _ _ => failsWith_pure _
  refine ((failsWith_opacity (hstyle _ (by decide))).mono fun _ h => .inl (.inl h)).bind
    fun _ _ => ?_
  refine ((failsWith_scaled hspacing hcanvas).mono fun _ => .inl).bind fun _ _ => ?_
  refine ((failsWith_scaled hbox hcanvas).mono fun _ => .inl).bind fun _ _ => ?_
  refine ((failsWith_borders hborders hcanvas).mono fun _ => .inl).bind fun _ _ => ?_
  refine ((failsWith_shadow hcanvas).mono fun _ => .inl).bind fun _ _ => ?_
  exact (failsWith_fontSize (hstyle _ (by decide)) hwidth hheight hlength hcanvas).bind
    fun _ _ => failsWith_pure _

end Misfit

end Css

end DesignGraph
