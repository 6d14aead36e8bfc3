/-!
# Values

The values that travel through graphs, snapshots and styles: the data of a JSON document with
integers and doubles kept apart. Integers are exact and unbounded. The fields of an object keep
the order in which their keys were first written; writing a key again keeps its place.

## Main definitions

* `DesignGraph.Value` — a value.
* `DesignGraph.Fields` — the fields of an object, in order.
* `DesignGraph.Fields.put`, `DesignGraph.Fields.merge` — ordered, right-biased update; entries
  may be of any type.
* `DesignGraph.Value.isFilled` — the test behind "present and not empty".

## Main results

* `DesignGraph.Fields.get?_put`, `DesignGraph.Fields.get?_erase` — what a lookup finds after a
  write or a removal.
* `DesignGraph.Fields.keys_put_of_mem`, `DesignGraph.Fields.keys_put_of_not_mem` — where a
  written key stands.
* `DesignGraph.Fields.merge_of_nodup` — new fields go after the others, in order.
* `DesignGraph.Fields.get?_merge` — what a lookup finds after fields were written.
-/

namespace DesignGraph

/-- A value of a graph, a style or a snapshot. -/
inductive Value where
  | null
  | bool (b : Bool)
  | int (i : Int)
  | float (x : Float)
  /-- NaN as it stands in a document. NaN differs even from its own copies, and the mark tells
  where in the document it was read. -/
  | nan (mark : Nat)
  | str (s : String)
  | list (items : List Value)
  | obj (fields : List (String × Value))
  deriving Inhabited, Repr

/-- The fields of an object, in the order of their keys' first appearance. -/
abbrev Fields := List (String × Value)

namespace Fields

/-- The entry stored under `key`. -/
def get? {α : Type} : List (String × α) → String → Option α
  | [], _ => none
  | (k, a) :: rest, key => if k = key then some a else get? rest key

/-- The value stored under `key`, null when there is none. -/
def get (fields : Fields) (key : String) : Value :=
  (get? fields key).getD .null

/-- The keys in order. -/
def keys {α : Type} (fields : List (String × α)) : List String :=
  fields.map Prod.fst

/-- Stores an entry under `key`: a known key keeps its place, a new one goes last. -/
def put {α : Type} (key : String) (a : α) : List (String × α) → List (String × α)
  | [] => [(key, a)]
  | (k, b) :: rest => if k = key then (k, a) :: rest else (k, b) :: put key a rest

/-- Removes the entries under `key`. -/
def erase {α : Type} (key : String) (fields : List (String × α)) : List (String × α) :=
  fields.filter (·.1 != key)

/-- Writes the fields of `update` over `base`, one after the other. -/
def merge (base update : Fields) : Fields :=
  update.foldl (fun acc field => put field.1 field.2 acc) base

/-- The fields that a list of pairs describes when a later pair overwrites an earlier one. -/
def ofPairs (pairs : List (String × Value)) : Fields :=
  merge [] pairs

@[simp]
theorem keys_nil {α : Type} : keys ([] : List (String × α)) = [] :=
  rfl

@[simp]
theorem keys_cons {α : Type} (key : String) (a : α) (fields : List (String × α)) :
    keys ((key, a) :: fields) = key :: keys fields :=
  rfl

@[simp]
theorem keys_append {α : Type} (fields more : List (String × α)) :
    keys (fields ++ more) = keys fields ++ keys more :=
  List.map_append

/-- A lookup among fields and more fields behind them. -/
theorem get?_append {α : Type} (fields more : List (String × α)) (key : String) :
    get? (fields ++ more) key = (get? fields key).or (get? more key) := by
  induction fields with
  | nil => rfl
  | cons field rest ih =>
    obtain ⟨k, a⟩ := field
    by_cases hk : k = key <;> simp [get?, hk, ih]

/-- A lookup after a write finds the written entry under its key and what was there elsewhere. -/
theorem get?_put {α : Type} (fields : List (String × α)) (key key' : String) (a : α) :
    get? (put key a fields) key' = if key = key' then some a else get? fields key' := by
  induction fields with
  | nil => simp [put, get?]
  | cons field rest ih =>
    obtain ⟨k, v⟩ := field
    by_cases hk : k = key
    · subst hk
      by_cases h : k = key' <;> simp [put, get?, h]
    · by_cases h : k = key'
      · subst h
        simp [put, get?, hk, Ne.symm hk]
      · simp [put, get?, hk, h, ih]

/-- A lookup after a removal finds nothing under the removed key and what was there elsewhere. -/
theorem get?_erase {α : Type} (fields : List (String × α)) (key key' : String) :
    get? (erase key fields) key' = if key = key' then none else get? fields key' := by
  induction fields with
  | nil => simp [erase, get?]
  | cons field rest ih =>
    obtain ⟨k, v⟩ := field
    simp only [erase] at ih
    by_cases hk : k = key
    · subst hk
      have : erase k ((k, v) :: rest) = rest.filter (·.1 != k) := by simp [erase]
      rw [this, ih]
      by_cases h : k = key' <;> simp [get?, h]
    · by_cases h : k = key'
      · subst h
        simp [erase, get?, hk, Ne.symm hk]
      · simp [erase, get?, hk, h, ih]

/-- Writing a known key keeps the keys and their order. -/
theorem keys_put_of_mem {α : Type} {fields : List (String × α)} {key : String} (a : α)
    (h : key ∈ keys fields) : keys (put key a fields) = keys fields := by
  induction fields with
  | nil => simp [keys] at h
  | cons field rest ih =>
    obtain ⟨k, v⟩ := field
    by_cases hk : k = key
    · simp [put, keys, hk]
    · have hr : key ∈ keys rest := by
        simp only [keys, List.map_cons, List.mem_cons] at h
        rcases h with h | h
        · exact absurd h.symm hk
        · exact h
      have := ih hr
      simp only [keys] at this
      simp [put, keys, hk, this]

/-- Writing a new key puts it after the others. -/
theorem keys_put_of_not_mem {α : Type} {fields : List (String × α)} {key : String} (a : α)
    (h : key ∉ keys fields) : keys (put key a fields) = keys fields ++ [key] := by
  induction fields with
  | nil => simp [put, keys]
  | cons field rest ih =>
    obtain ⟨k, v⟩ := field
    simp only [keys, List.map_cons, List.mem_cons, not_or] at h
    have := ih h.2
    simp only [keys] at this
    simp [put, keys, Ne.symm h.1, this]

/-- An entry under a new key goes last. -/
theorem put_of_not_mem {α : Type} {fields : List (String × α)} {key : String} (a : α)
    (h : key ∉ keys fields) : put key a fields = fields ++ [(key, a)] := by
  induction fields with
  | nil => rfl
  | cons field rest ih =>
    obtain ⟨k, b⟩ := field
    simp only [keys_cons, List.mem_cons, not_or] at h
    simp [put, Ne.symm h.1, ih h.2]

/-- Writing what is there already changes nothing. -/
theorem put_of_get? {α : Type} {fields : List (String × α)} {key : String} {a : α}
    (h : get? fields key = some a) : put key a fields = fields := by
  induction fields with
  | nil => cases h
  | cons field rest ih =>
    obtain ⟨k, b⟩ := field
    by_cases hk : k = key
    · simp only [get?, hk, if_true, Option.some.injEq] at h
      simp [put, hk, h]
    · simp only [get?, hk, if_false] at h
      simp [put, hk, ih h]

/-- After a write, an entry is the written one or was there before. -/
theorem mem_put {α : Type} {fields : List (String × α)} {key : String} {a : α}
    {field : String × α} (h : field ∈ put key a fields) : field = (key, a) ∨ field ∈ fields := by
  induction fields with
  | nil => exact .inl (List.mem_singleton.1 h)
  | cons first rest ih =>
    obtain ⟨k, b⟩ := first
    simp only [put] at h
    split at h
    · rename_i hk
      rcases List.mem_cons.1 h with h | h
      · exact .inl (h.trans (by rw [hk]))
      · exact .inr (List.mem_cons_of_mem _ h)
    · rcases List.mem_cons.1 h with h | h
      · exact .inr (h ▸ List.mem_cons_self)
      · exact (ih h).imp id (List.mem_cons_of_mem _)

/-- Writing fields with new keys puts them after the others, in order. -/
theorem merge_of_nodup {base update : Fields} (h : (keys (base ++ update)).Nodup) :
    merge base update = base ++ update := by
  induction update generalizing base with
  | nil => exact (List.append_nil base).symm
  | cons field rest ih =>
    obtain ⟨k, v⟩ := field
    have hk : k ∉ keys base := by
      simp only [keys_append, keys_cons, List.nodup_append] at h
      exact fun hk => h.2.2 k hk k List.mem_cons_self rfl
    show merge (put k v base) rest = _
    rw [put_of_not_mem v hk, ih (by simpa using h), List.append_assoc]
    rfl

/-- A key that is not there has no entry. -/
theorem get?_of_not_mem {α : Type} {fields : List (String × α)} {key : String}
    (h : key ∉ keys fields) : get? fields key = none := by
  induction fields with
  | nil => rfl
  | cons field rest ih =>
    obtain ⟨k, a⟩ := field
    simp only [keys_cons, List.mem_cons, not_or] at h
    simp [get?, Ne.symm h.1, ih h.2]

/-- A write keeps keys apart. -/
theorem nodup_keys_put {α : Type} {fields : List (String × α)} (h : (keys fields).Nodup)
    (key : String) (a : α) : (keys (put key a fields)).Nodup := by
  by_cases hk : key ∈ keys fields
  · rwa [keys_put_of_mem a hk]
  · rw [keys_put_of_not_mem a hk]
    refine List.nodup_append.2 ⟨h, by simp, fun other hother key' hkey' heq => hk ?_⟩
    rw [← List.mem_singleton.1 hkey', ← heq]
    exact hother

/-- Writing fields keeps keys apart. -/
theorem nodup_keys_merge {base : Fields} (h : (keys base).Nodup) (update : Fields) :
    (keys (merge base update)).Nodup := by
  induction update generalizing base with
  | nil => exact h
  | cons field rest ih => exact ih (nodup_keys_put h field.1 field.2)

/-- A lookup after fields with different keys were written finds the written entry, if there is
one. -/
theorem get?_merge {base update : Fields} (h : (keys update).Nodup) (key : String) :
    get? (merge base update) key = (get? update key).or (get? base key) := by
  induction update generalizing base with
  | nil => rfl
  | cons field rest ih =>
    obtain ⟨k, v⟩ := field
    obtain ⟨hnew, hrest⟩ := List.nodup_cons.1 h
    show get? (merge (put k v base) rest) key = _
    rw [ih hrest, get?_put, get?]
    by_cases hk : k = key
    · subst hk
      simp [get?_of_not_mem hnew]
    · simp [hk]

end Fields

namespace Value

/-! ## Kinds of values -/

/-- Lists and objects: the values that are told apart by identity. -/
def isObject : Value → Bool
  | .list _ | .obj _ => true
  | _ => false

/-- The name of a value's kind in messages about snapshots. -/
def kindName : Value → String
  | .null => "NoneType"
  | .bool _ => "bool"
  | .int _ => "int"
  | .float _ | .nan _ => "float"
  | .str _ => "str"
  | .list _ => "list"
  | .obj _ => "dict"

/-- Present and not empty: not null, false, a zero, or an empty text, list or object. NaN is
filled, and so is every list or object with an entry. -/
def isFilled : Value → Bool
  | .null => false
  | .bool b => b
  | .int i => i != 0
  | .float x => !(x == 0)
  | .nan _ => true
  | .str s => s != ""
  | .list items => !items.isEmpty
  | .obj fields => !fields.isEmpty

/-- The fields of an object; every other value has none. -/
def fields : Value → Fields
  | .obj fields => fields
  | _ => []

/-! ## Decidable identity of data -/

mutual

/-- Whether two values are the same data: integers differ from doubles, and fields are compared
in order. -/
def sameData : (a b : Value) → Decidable (a = b)
  | .null, .null => isTrue rfl
  | .bool a, .bool b => decidable_of_iff (a = b) (by simp)
  | .int a, .int b => decidable_of_iff (a = b) (by simp)
  | .float a, .float b => decidable_of_iff (a = b) (by simp)
  | .nan a, .nan b => decidable_of_iff (a = b) (by simp)
  | .str a, .str b => decidable_of_iff (a = b) (by simp)
  | .list a, .list b =>
    match sameDataList a b with
    | isTrue h => isTrue (by rw [h])
    | isFalse h => isFalse (by simpa using h)
  | .obj a, .obj b =>
    match sameDataFields a b with
    | isTrue h => isTrue (by rw [h])
    | isFalse h => isFalse (by simpa using h)
  | .null, .bool _ | .null, .int _ | .null, .float _ | .null, .nan _ | .null, .str _
  | .null, .list _ | .null, .obj _ | .bool _, .null | .bool _, .int _ | .bool _, .float _
  | .bool _, .nan _ | .bool _, .str _ | .bool _, .list _ | .bool _, .obj _ | .int _, .null
  | .int _, .bool _ | .int _, .float _ | .int _, .nan _ | .int _, .str _ | .int _, .list _
  | .int _, .obj _ | .float _, .null | .float _, .bool _ | .float _, .int _ | .float _, .nan _
  | .float _, .str _ | .float _, .list _ | .float _, .obj _ | .nan _, .null | .nan _, .bool _
  | .nan _, .int _ | .nan _, .float _ | .nan _, .str _ | .nan _, .list _ | .nan _, .obj _
  | .str _, .null | .str _, .bool _ | .str _, .int _ | .str _, .float _ | .str _, .nan _
  | .str _, .list _ | .str _, .obj _ | .list _, .null | .list _, .bool _ | .list _, .int _
  | .list _, .float _ | .list _, .nan _ | .list _, .str _ | .list _, .obj _ | .obj _, .null
  | .obj _, .bool _ | .obj _, .int _ | .obj _, .float _ | .obj _, .nan _ | .obj _, .str _
  | .obj _, .list _ => isFalse nofun

/-- Pairwise `Value.sameData` along two lists. -/
def sameDataList : (a b : List Value) → Decidable (a = b)
  | [], [] => isTrue rfl
  | [], _ :: _ => isFalse nofun
  | _ :: _, [] => isFalse nofun
  | x :: xs, y :: ys =>
    match sameData x y, sameDataList xs ys with
    | isTrue h, isTrue h' => isTrue (by rw [h, h'])
    | isFalse h, _ => isFalse (by simp [h])
    | _, isFalse h => isFalse (by simp [h])

/-- Pairwise `Value.sameData` along two lists of fields. -/
def sameDataFields : (a b : List (String × Value)) → Decidable (a = b)
  | [], [] => isTrue rfl
  | [], _ :: _ => isFalse nofun
  | _ :: _, [] => isFalse nofun
  | (k, x) :: xs, (l, y) :: ys =>
    match String.decEq k l, sameData x y, sameDataFields xs ys with
    | isTrue h, isTrue h', isTrue h'' => isTrue (by rw [h, h', h''])
    | isFalse h, _, _ => isFalse (by simp [h])
    | _, isFalse h, _ => isFalse (by simp [h])
    | _, _, isFalse h => isFalse (by simp [h])

end

instance : DecidableEq Value := sameData

end Value

end DesignGraph
