import DesignGraph.Proofs.Evaluation.Course
import DesignGraph.Proofs.Number.Scale
/-!
# Clamped numbers

A clamp reads a number and two bounds. Places on the scale of doubles are a linear order, in which
the lesser of two doubles is their minimum and the greater one their maximum; so a number between
bounds in order lies between them. Sockets take a zero for a missing number, which leaves a zero as
it is where zero is the default. The upper bound of a clamp has the default one: an upper bound of
zero lets everything up to one pass.

## Main definitions

* `DesignGraph.Coercion.Reads` — a value is a number with the given double.
* `DesignGraph.Evaluation.ReadInTurn` — the wired sockets of a node are read one after the other.

## Main results

* `DesignGraph.Arithmetic.rank_clamped` — where a clamped number lies.
* `DesignGraph.Evaluation.clamp_lies_between` — what a clamp with three wired numbers gives.
-/

set_option relaxedAutoImplicit false
set_option autoImplicit false

namespace DesignGraph

/-! ## The lesser and the greater of two doubles -/

namespace Arithmetic

open Double

section Choice

variable {x y : Float} (hx : x.isNaN = false) (hy : y.isNaN = false)
include hx hy

/-- The lesser of two doubles is the one with the lower place. -/
theorem rank_least : (least x y).isNaN = false ∧ rank (least x y) = min (rank x) (rank y) := by
  rw [least, hx, hy, Bool.or_false, if_neg Bool.false_ne_true]
  split
  · rename_i hlt
    exact ⟨hy, (min_eq_right ((lt_iff_rank_lt hy hx).1 hlt).le).symm⟩
  · rename_i hle
    exact ⟨hx, (min_eq_left (not_lt.1 (mt (lt_iff_rank_lt hy hx).2 hle))).symm⟩

/-- The greater of two doubles is the one with the higher place. -/
theorem rank_greatest :
    (greatest x y).isNaN = false ∧ rank (greatest x y) = max (rank x) (rank y) := by
  rw [greatest, hx, hy, Bool.or_false, if_neg Bool.false_ne_true]
  split
  · rename_i hlt
    exact ⟨hy, (max_eq_right ((lt_iff_rank_lt hx hy).1 hlt).le).symm⟩
  · rename_i hle
    exact ⟨hx, (max_eq_left (not_lt.1 (mt (lt_iff_rank_lt hx hy).2 hle))).symm⟩

end Choice

/-- Where a clamped number lies. -/
theorem rank_clamped {v low high : Float} (hv : v.isNaN = false) (hlow : low.isNaN = false)
    (hhigh : high.isNaN = false) :
    (least (greatest v low) high).isNaN = false ∧
      rank (least (greatest v low) high) = min (max (rank v) (rank low)) (rank high) := by
  obtain ⟨hgreatest, hmax⟩ := rank_greatest hv hlow
  obtain ⟨hleast, hmin⟩ := rank_least hgreatest hhigh
  exact ⟨hleast, hmin.trans (by rw [hmax])⟩

end Arithmetic

/-! ## Defaults of numbers -/

namespace Coercion

open Double

/-- A value is a number, the double of which is `x`. -/
structure Reads (v : Value) (x : Float) : Prop where
  number : isNumber v = true
  double : toNumber v = .ok x
  notNaN : x.isNaN = false

/-- A number is taken with its double, but for a zero, which the default stands in for. -/
theorem Reads.numberOr_eq {v : Value} {x : Float} (h : Reads v x) (default : Float) :
    numberOr v (.float default) = .ok (if x == 0 then default else x) := by
  have hdouble := h.double
  have htruthy : truthy v = .ok (!(x == 0)) := by
    cases v with
    | int i =>
      have hint : ofInt i = .ok x := hdouble
      have hx : ofIntOrInfinite i = x := by
        rw [ofInt] at hint
        split at hint
        · exact Except.ok.inj hint
        · cases hint
      by_cases hi : i = 0
      · subst hi
        rw [← hx]
        decide +kernel
      · rw [truthy, if_neg hi, hint, ← hx, ofIntOrInfinite_ne_zero hi]
        rfl
    | float y =>
      obtain rfl : y = x := Except.ok.inj hdouble
      rw [truthy, h.notNaN, Bool.or_false]
    | nan _ =>
      rw [← Except.ok.inj hdouble] at h
      exact absurd isNaN_nan (Bool.eq_false_iff.1 h.notNaN)
    | _ => cases h.number
  have horDefault : orDefault v (.float default) =
      .ok (if (!(x == 0)) = true then v else .float default) := by
    rw [orDefault, htruthy]
    rfl
  rw [numberOr, horDefault]
  cases hx : x == 0
  · exact hdouble
  · rfl

/-- With the default zero a number stays in its place. -/
theorem Reads.rank_orZero {v : Value} {x : Float} (h : Reads v x) :
    (if x == 0 then 0 else x).isNaN = false ∧ rank (if x == 0 then 0 else x) = rank x := by
  split
  · rename_i hzero
    exact ⟨rfl, ((beq_iff_rank_eq h.notNaN rfl).1 hzero).symm⟩
  · exact ⟨h.notNaN, rfl⟩

/-- With the default one a number stays in its place or moves up. -/
theorem Reads.rank_le_orOne {v : Value} {x : Float} (h : Reads v x) :
    (if x == 0 then 1 else x).isNaN = false ∧ rank x ≤ rank (if x == 0 then 1 else x) := by
  split
  · rename_i hzero
    rw [(beq_iff_rank_eq h.notNaN rfl).1 hzero]
    exact ⟨rfl, (le_iff_rank_le rfl rfl).1 (by decide)⟩
  · exact ⟨h.notNaN, le_rfl⟩

end Coercion

/-! ## Clamps -/

/-- Programs that go on one after the other may be grouped either way. -/
theorem Program.bind_assoc {α β γ : Type} (program : Program α) (f : α → Program β)
    (g : β → Program γ) : program >>= f >>= g = program >>= fun a => f a >>= g := by
  show (program.bind f).bind g = program.bind fun a => (f a).bind g
  induction program with
  | done a => rfl
  | fail fault => rfl
  | ask request next ih => exact congrArg (Program.ask request) (funext ih)

namespace Evaluation

open Arithmetic Coercion Double Operation

variable {σ : Type} {setting : Setting σ} {depth : Nat} {path : List String} {node : Node}
  {p q : Progress σ}

/-- While its program runs, a node reads wired sockets one after the other and is given signals. -/
inductive ReadInTurn (setting : Setting σ) (depth : Nat) (path : List String) (node : Node) :
    List (String × Signal) → Progress σ → Progress σ → Prop
  | nil {p : Progress σ} : ReadInTurn setting depth path node [] p p
  | cons {socket source s rest p q r} (hs : setting.graph.source? node.id socket = some source)
    (hv : value setting depth path source p = (.ok s, q))
    (h : ReadInTurn setting depth path node rest (record ⟨node.id, .read socket, s⟩ q) r) :
    ReadInTurn setting depth path node ((socket, s) :: rest) p r

/-- A program that takes a number from a socket goes on with it, or with the default for a zero. -/
lemma perform_operand {α : Type} {socket source : String} {s : Signal} {x : Float}
    (hs : setting.graph.source? node.id socket = some source)
    (hv : value setting depth path source p = (.ok s, q)) (hx : Reads s.value x)
    (default : Float) (next : Float → Program α) :
    perform node.id (meet setting node (value setting depth path))
        (operand socket default >>= next) p =
      perform node.id (meet setting node (value setting depth path))
        (next (if x == 0 then default else x)) (record ⟨node.id, .read socket, s⟩ q) := by
  have hnumber := hx.numberOr_eq default
  show perform node.id _ (.ask (.read socket) fun t =>
    Program.bind (Program.ofExcept (numberOr t.value (.float default))) next) p = _
  rw [perform, meet, hs]
  simp only [hv, hnumber]
  rfl

/-- **A clamp lies between its bounds.** Wherever in an evaluation it is asked for, a clamp that is
wired to three numbers, the lower bound being at most the upper one, gives a number. That is the
wired number, if it lies between the bounds; else it is at least the lower bound and at most the
upper one, but an upper bound of zero counts as one. Numbers are taken with their doubles.

**Proof sketch.** The places of the wired numbers and of what the sockets make of them are the same,
but for an upper bound of zero, which moves up. So the place of the result is a minimum of a
maximum. -/
theorem clamp_lies_between (hn : setting.graph.node? node.id = some node)
    (hkind : node.kind? = some .clamp) (ho : Fields.get? setting.overrides node.id = none)
    (hm : p.memo.lookup node.id = none) (hpath : node.id ∉ path) {a b c : Signal}
    {v low high : Float} (hv : Reads a.value v) (hlow : Reads b.value low)
    (hhigh : Reads c.value high) (hle : low ≤ high)
    (hread : ReadInTurn setting depth (node.id :: path) node
      [("in-value", a), ("in-min", b), ("in-max", c)] (note node.id path .entered p) q) :
    ∃ r, value setting (depth + 1) path node.id p =
        (.ok ⟨.float r, node.id⟩, { q with memo := q.memo ++ [(node.id, ⟨.float r, node.id⟩)] }) ∧
      low ≤ r ∧ r ≤ (if high == 0 then 1 else high) ∧
      (low ≤ v → v ≤ high → (r == v) = true) := by
  obtain _ | ⟨hs, hvalue, hread⟩ := hread
  obtain _ | ⟨hs', hmin, hread⟩ := hread
  obtain _ | ⟨hs'', hmax, hread⟩ := hread
  cases hread
  have hc : path.contains node.id = false := by simpa using hpath
  have hprogram : node.program = ofKind .clamp node := by rw [Node.program, hkind]
  simp only [value, ho, hm, hc, hn, Bool.false_eq_true, if_false, hprogram, ofKind, making,
    Program.bind_assoc, perform_operand hs hvalue hv, perform_operand hs' hmin hlow,
    perform_operand hs'' hmax hhigh]
  obtain ⟨hvN, hvRank⟩ := hv.rank_orZero
  obtain ⟨hlowN, hlowRank⟩ := hlow.rank_orZero
  obtain ⟨hhighN, hhighRank⟩ := hhigh.rank_le_orOne
  obtain ⟨hr, hrank⟩ := rank_clamped hvN hlowN hhighN
  rw [hvRank, hlowRank] at hrank
  rw [le_iff_rank_le hlow.notNaN hhigh.notNaN] at hle
  refine ⟨_, rfl, ?_, ?_, fun hbelow habove => ?_⟩
  · rw [le_iff_rank_le hlow.notNaN hr, hrank]
    exact le_min (le_max_right _ _) (hle.trans hhighRank)
  · rw [le_iff_rank_le hr hhighN, hrank]
    exact min_le_right _ _
  · rw [le_iff_rank_le hlow.notNaN hv.notNaN] at hbelow
    rw [le_iff_rank_le hv.notNaN hhigh.notNaN] at habove
    rw [beq_iff_rank_eq hr hv.notNaN, hrank, max_eq_left hbelow,
      min_eq_left (habove.trans hhighRank)]

/-- A clamp with three wired literals. -/
def limiter (v low high : Value) : Graph :=
  ⟨[⟨"v", "NUMBER", [("value", v)]⟩, ⟨"low", "NUMBER", [("value", low)]⟩,
      ⟨"high", "NUMBER", [("value", high)]⟩, ⟨"clamp", "CLAMP", []⟩],
    [⟨"v", "clamp", "in-value"⟩, ⟨"low", "clamp", "in-min"⟩, ⟨"high", "clamp", "in-max"⟩],
    .null, .null⟩

/-- Seven is clamped between minus one and four and a half. -/
theorem clamp_lies_between_seven :
    ∃ r, (signal (.alone (limiter (.int 7) (.int (-1)) (.float 4.5))) "clamp"
        (.start [] 0 ())).1 = .ok ⟨.float r, "clamp"⟩ ∧ (-1 : Float) ≤ r ∧ r ≤ 4.5 := by
  let setting := Setting.alone (limiter (.int 7) (.int (-1)) (.float 4.5))
  let node : Node := ⟨"clamp", "CLAMP", []⟩
  have hn : setting.graph.node? node.id = some node := rfl
  have hkind : node.kind? = some .clamp := by decide
  have hseven : Reads (.int 7) 7 := ⟨rfl, by decide +kernel, by decide +kernel⟩
  have hlow : Reads (.int (-1)) (-1) := ⟨rfl, by decide +kernel, by decide +kernel⟩
  have hhigh : Reads (.float 4.5) 4.5 := ⟨rfl, rfl, by decide +kernel⟩
  have hread : ReadInTurn setting 4 [node.id] node
      [("in-value", ⟨.int 7, "v"⟩), ("in-min", ⟨.int (-1), "low"⟩),
        ("in-max", ⟨.float 4.5, "high"⟩)] (note node.id [] .entered (.start [] 0 ())) _ :=
    .cons rfl rfl (.cons rfl rfl (.cons rfl rfl .nil))
  obtain ⟨r, hr, hbelow, habove, -⟩ := clamp_lies_between hn hkind rfl rfl List.not_mem_nil
    hseven hlow hhigh (by decide +kernel) hread
  rw [if_neg (by decide +kernel)] at habove
  exact ⟨r, congrArg Prod.fst hr, hbelow, habove⟩

/-- Five is clamped between zero and zero to one, and an integer that is no double is clamped to
the nearest double. -/
theorem clamp_exceeds_zero :
    Reads (.int 5) 5 ∧ Reads (.int 0) 0 ∧ (0 : Float) ≤ 0 ∧
    (signal (.alone (limiter (.int 5) (.int 0) (.int 0))) "clamp" (.start [] 0 ())).1 =
      .ok ⟨.float 1, "clamp"⟩ ∧ ¬(1 : Float) ≤ 0 ∧
    (signal (.alone (limiter (.int (2 ^ 53 + 1)) (.int 0) (.int (2 ^ 60)))) "clamp"
      (.start [] 0 ())).1 = .ok ⟨.float 9007199254740992, "clamp"⟩ ∧
    Double.equalsInt 9007199254740992 (2 ^ 53 + 1) = false :=
  ⟨⟨rfl, by decide +kernel, rfl⟩, ⟨rfl, by decide +kernel, rfl⟩, by decide, by decide +kernel,
    by decide, by decide +kernel, by decide +kernel⟩

end Evaluation

end DesignGraph
