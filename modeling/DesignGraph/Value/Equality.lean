import DesignGraph.Value.Basic
import DesignGraph.Number.Double
/-!
# Equality of values

Values are equal by what they stand for: integers, doubles and booleans compare as exact numbers
(true is one, false is zero), lists item by item and objects field by field in any order. NaN
equals nothing; inside a list or object, and as the key under which something was stored, a NaN
of a document counts as the same as itself.

## Main definitions

* `DesignGraph.Value.equals` — equality of values.
* `DesignGraph.Value.sameKey` — whether two keys are one and the same value or equal.
* `DesignGraph.Value.isKey` — whether a value can be a key: lists and objects cannot.
* `DesignGraph.Table` — what is stored under keys of any kind, in order of insertion.
* `DesignGraph.Table.IsDistinct` — no key addresses the entry of a key behind it.

## Main results

* `DesignGraph.Table.IsDistinct.put`, `DesignGraph.Table.put_of_distinct` — a write keeps keys
  apart, and a new key goes last.
-/

namespace DesignGraph

namespace Value

mutual

/-- Equality of values; only inside of lists and objects a NaN of a document equals itself. -/
def alike (inside : Bool) : Value → Value → Bool
  | .null, .null => true
  | .bool a, .bool b => a == b
  | .bool a, .int i | .int i, .bool a => i == a.toInt
  | .bool a, .float x | .float x, .bool a => Double.equalsInt x a.toInt
  | .int i, .int j => i == j
  | .int i, .float x | .float x, .int i => Double.equalsInt x i
  | .float x, .float y => x == y
  | .nan m, .nan n => inside && m == n
  | .str s, .str t => s == t
  | .list xs, .list ys => alikeList xs ys
  | .obj fs, .obj gs => fs.length == gs.length && alikeFields fs gs
  | _, _ => false

/-- Equality of lists, item by item. -/
def alikeList : List Value → List Value → Bool
  | [], [] => true
  | x :: xs, y :: ys => alike true x y && alikeList xs ys
  | _, _ => false

/-- Whether every given field stands, with an equal value, among the fields `other`. -/
def alikeFields : List (String × Value) → (other : Fields) → Bool
  | [], _ => true
  | (k, v) :: rest, other =>
    (match Fields.get? other k with
      | some w => alike true v w
      | none => false) && alikeFields rest other

end

/-- Equality of values. -/
def equals (a b : Value) : Bool :=
  alike false a b

/-- Whether two keys address the same entry when both are one and the same value or equal. -/
def sameKey (a b : Value) : Bool :=
  a = b || a.equals b

/-- Lists and objects cannot be keys; every other value can. -/
def isKey : Value → Bool
  | .list _ | .obj _ => false
  | _ => true

/-- A key, or the fault of using a list or an object as one. -/
def asKey (v : Value) : Except Fault Value :=
  if v.isKey then .ok v else .error .wrongKind

end Value

/-- What is stored under keys of any kind, in the order in which keys were first used. -/
abbrev Table (α : Type) := List (Value × α)

namespace Table

/-- What is stored under `key`. -/
def get? {α : Type} : Table α → Value → Option α
  | [], _ => none
  | (k, a) :: rest, key => if k.sameKey key then some a else get? rest key

/-- Stores `a` under `key`; a key that is there keeps its place and form. -/
def put {α : Type} (key : Value) (a : α) : Table α → Table α
  | [] => [(key, a)]
  | (k, b) :: rest => if k.sameKey key then (k, a) :: rest else (k, b) :: put key a rest

/-- Whether no key addresses the entry of a key behind it. -/
def IsDistinct {α : Type} (table : Table α) : Prop :=
  table.Pairwise fun entry entry' => entry.1.sameKey entry'.1 = false

/-- After a write, a key is the written one or was there before. -/
theorem mem_put {α : Type} {table : Table α} {key : Value} {a : α} {entry : Value × α}
    (h : entry ∈ put key a table) : entry.1 = key ∨ ∃ b, (entry.1, b) ∈ table := by
  induction table with
  | nil => exact .inl (congrArg Prod.fst (List.mem_singleton.1 h))
  | cons first rest ih =>
    obtain ⟨k, b⟩ := first
    simp only [put] at h
    split at h
    · rcases List.mem_cons.1 h with rfl | h
      · exact .inr ⟨b, List.mem_cons_self⟩
      · exact .inr ⟨entry.2, List.mem_cons_of_mem _ h⟩
    · rcases List.mem_cons.1 h with rfl | h
      · exact .inr ⟨b, List.mem_cons_self⟩
      · exact (ih h).imp id fun ⟨c, hc⟩ => ⟨c, List.mem_cons_of_mem _ hc⟩

/-- A write keeps keys apart. -/
theorem IsDistinct.put {α : Type} {table : Table α} (h : table.IsDistinct) (key : Value) (a : α) :
    (table.put key a).IsDistinct := by
  induction table with
  | nil => exact List.pairwise_singleton _ _
  | cons first rest ih =>
    obtain ⟨k, b⟩ := first
    obtain ⟨hfirst, hrest⟩ := List.pairwise_cons.1 h
    simp only [Table.put]
    split
    · exact List.pairwise_cons.2 ⟨hfirst, hrest⟩
    · rename_i hk
      refine List.pairwise_cons.2 ⟨fun entry hentry => ?_, ih hrest⟩
      rcases mem_put hentry with hkey | ⟨c, hc⟩
      · rw [hkey]
        exact Bool.eq_false_iff.2 hk
      · exact hfirst (entry.1, c) hc

/-- An entry under a key that addresses no other goes last. -/
theorem put_of_distinct {α : Type} {table : Table α} {key : Value} (a : α)
    (h : ∀ entry ∈ table, entry.1.sameKey key = false) : put key a table = table ++ [(key, a)] := by
  induction table with
  | nil => rfl
  | cons first rest ih =>
    obtain ⟨k, b⟩ := first
    obtain ⟨hfirst, hrest⟩ := List.forall_mem_cons.1 h
    simp only at hfirst
    simp [put, hfirst, ih hrest]

end Table

end DesignGraph
