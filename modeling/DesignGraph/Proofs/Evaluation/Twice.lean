import DesignGraph.Proofs.Coercion.Equality
import DesignGraph.Proofs.Evaluation.Footprint
import DesignGraph.Proofs.Evaluation.Once
import DesignGraph.Proofs.Number.Scale
/-!
# A node that is read twice

A program that reads the same node on two sockets, one right after the other, is given one signal:
an override, a missing node and a program that is running answer as before, and what was computed
for the first read is remembered for the second. The signal is the same with its maker, so even a
list or an object that was built for the comparison counts as one thing. Loose equality holds of
everything and itself but NaN.

## Main definitions

* `DesignGraph.Value.isNaN` — a value is the number that differs from itself.
* `DesignGraph.Evaluation.Ran` — the program of a node has come to a signal.

## Main results

* `DesignGraph.Coercion.looseEquals_self` — loose equality of a value and itself.
* `DesignGraph.Evaluation.Reached.ran` — what is remembered has come of a run of the node's program.
* `DesignGraph.Evaluation.Runs.again` — a node that is read again at once gives the same signal.
* `DesignGraph.Evaluation.equal_of_same_source` — what an equality gives that reads one node twice.
-/

set_option relaxedAutoImplicit false
set_option autoImplicit false

namespace DesignGraph

/-! ## Values and themselves -/

/-- A value is NaN, as a double or as it stands in a document. -/
def Value.isNaN : Value → Bool
  | .float x => x.isNaN
  | .nan _ => true
  | _ => false

namespace Coercion

open Double

/-- The double of an integer is a number. -/
lemma isNaN_of_ofInt {i : Int} {x : Float} (h : ofInt i = .ok x) : x.isNaN = false := by
  rw [ofInt] at h
  split at h
  · cases h
    exact isNaN_ofMagnitude _ (nearestBits_le _ _)
  · cases h

/-- **Loose equality holds of every value and itself but NaN**, and fails only of an integer beyond
the doubles. -/
theorem looseEquals_self {v : Value} {b : Bool} (h : looseEquals true v v = .ok b) :
    b = !v.isNaN := by
  have hdouble {x : Float} (h : (.ok (x == x) : Except Fault Bool) = .ok b) : b = !x.isNaN := by
    rw [← Except.ok.inj h, beq_self]
  cases v with
  | null => exact (Except.ok.inj h).symm
  | bool p => cases p <;> exact (Except.ok.inj h).symm
  | int i =>
    rw [looseEquals_eq_abstract] at h
    obtain ⟨x, hx, h⟩ := bind_eq_ok.1 (h : doubleEquals (.int i) (.int i) = .ok b)
    obtain ⟨y, hy, h⟩ := bind_eq_ok.1 h
    obtain rfl : x = y := Except.ok.inj (hx.symm.trans hy)
    rw [hdouble h, isNaN_of_ofInt hx]
    rfl
  | float x => exact hdouble h
  | nan _ => exact hdouble h
  | str s =>
    rw [← Except.ok.inj (h : Except.ok (s == s) = .ok b), beq_self_eq_true]
    rfl
  | list _ => exact (Except.ok.inj h).symm
  | obj _ => exact (Except.ok.inj h).symm

end Coercion

namespace Evaluation

open Coercion Operation

variable {σ : Type} {setting : Setting σ} {path : List String} {p q : Progress σ}
  {id source : String} {s : Signal}

/-! ## What is remembered has been run -/

/-- The program of the node `id`, which is not overridden, has run and come to the signal `s`. -/
structure Ran (setting : Setting σ) (id : String) (s : Signal) (p : Progress σ) : Prop where
  free : Fields.get? setting.overrides id = none
  run : ∃ node path before after, setting.graph.node? id = some node ∧
    Runs setting (id :: path) (.rest node node.program) before (.ok s, after) ∧
    after.memo ⊆ p.memo ∧ Extends after p

/-- What has run stays so. -/
lemma Ran.later (h : Ran setting id s p) (hmemo : p.memo ⊆ q.memo) (hpq : Extends p q) :
    Ran setting id s q := by
  obtain ⟨node, path, before, after, hn, hrun, hsub, hextends⟩ := h.run
  exact ⟨h.free, node, path, before, after, hn, hrun, List.Subset.trans hsub hmemo,
    hextends.trans hpq⟩

/-- Whatever a job adds to the memory has come of a run.

**Proof sketch.** Induction on the rules: the memory grows only where a program ends. -/
lemma Runs.ran {job : Job} {r : Except Fault Signal × Progress σ} (h : Runs setting path job p r) :
    ∀ id s, (id, s) ∈ r.2.memo → (id, s) ∈ p.memo ∨ Ran setting id s r.2 := by
  induction h with
  | overridden | recalled | cut | absent | done | fail => exact fun _ _ hs => .inl hs
  | @entered path id p node s q ho hm hp hn h ih =>
    have hsub : q.memo ⊆ q.memo ++ [(id, s)] := List.subset_append_left _ _
    have hpq : Extends q { q with memo := q.memo ++ [(id, s)] } :=
      ⟨List.Subset.refl _, List.Subset.refl _⟩
    intro id' s' hs'
    rcases List.mem_append.1 hs' with hs' | hs'
    · exact (ih id' s' hs').imp_right fun hran => hran.later hsub hpq
    · cases List.mem_singleton.1 hs'
      exact .inr ⟨ho, node, path, _, q, hn, h, hsub, hpq⟩
  | failed _ _ _ _ _ ih => exact ih
  | wired _ _ h ihv ih =>
    intro id s hs
    rcases ih id s hs with hs | hran
    · refine (ihv id s hs).imp_right fun hran => hran.later ?_ ?_
      · exact h.memo_subset
      · exact (extends_record _ _).trans h.extends
    · exact .inr hran
  | broken _ _ ihv => exact ihv
  | met hl hm h ih =>
    intro id s hs
    exact (ih id s hs).imp_left fun hs => (meet_keeps hl hm).1 ▸ hs
  | refused hl hm => exact fun _ _ hs => .inl ((meet_keeps hl hm).1 ▸ hs)

/-- **What is remembered has come of a run of its node's program.** -/
theorem Reached.ran (h : Reached setting p) (hs : (id, s) ∈ p.memo) : Ran setting id s p := by
  refine h.induct (P := fun p => ∀ id s, (id, s) ∈ p.memo → Ran setting id s p)
    (fun _ _ _ _ _ => nofun) (fun _ p r hr hp id s hs => ?_) id s hs
  rcases hr.ran id s hs with hs | hran
  · exact (hp id s hs).later hr.memo_subset hr.extends
  · exact hran

/-! ## Reading a node again -/

/-- **A node that is read again at once gives the same signal**, with nothing but an exchange in
between. -/
theorem Runs.again (h : Runs setting path (.value source) p (.ok s, q)) (exchange : Exchange) :
    ∃ answer, Runs setting path (.value source) (record exchange q)
      (.ok s, note source path answer (record exchange q)) := by
  cases h with
  | overridden hv => exact ⟨_, .overridden hv⟩
  | recalled ho hs => exact ⟨_, .recalled ho hs⟩
  | cut ho hm hp => exact ⟨_, .cut ho hm hp⟩
  | absent ho hm hp hn => exact ⟨_, .absent ho hm hp hn⟩
  | @entered _ _ _ _ _ q ho hm hp hn h =>
    obtain ⟨memo, ids, hadds, -⟩ := h.adds
    have hnew : ∀ t, (source, t) ∉ memo := fun t ht =>
      (hadds.fresh source (hadds.remembered.subset (List.mem_map_of_mem ht))).1 List.mem_cons_self
    refine ⟨_, .recalled ho ?_⟩
    have hold : (note source path .entered p).memo.lookup source = none := hm
    have hnone : q.memo.lookup source = none := by
      rw [hadds.memo_eq, List.lookup_append, hold, Option.none_or, List.lookup_eq_none_iff]
      rintro ⟨id, t⟩ ht
      rw [bne_iff_ne]
      rintro rfl
      exact hnew t ht
    show (q.memo ++ [(source, s)]).lookup source = some s
    rw [List.lookup_append, hnone, Option.none_or, List.lookup_cons_self]

/-- Where the signal of a read has come from: from an override, from memory, or it is null. -/
lemma Runs.origin (h : Runs setting path (.value source) p (.ok s, q)) :
    Fields.get? setting.overrides source = some s.value ∨
      Fields.get? setting.overrides source = none ∧
        ((source, s) ∈ q.memo ∨ s.value = .null) := by
  cases h with
  | overridden hv => exact .inl hv
  | recalled ho hs => exact .inr ⟨ho, .inl (mem_of_lookup hs)⟩
  | cut ho => exact .inr ⟨ho, .inr rfl⟩
  | absent ho => exact .inr ⟨ho, .inr rfl⟩
  | entered ho => exact .inr ⟨ho, .inl (by simp)⟩

section Sockets

variable {node : Node} {socket socket' : String}

/-- **A program that reads one node on two sockets in a row goes on with one signal.** -/
theorem Runs.read_twice {next : Signal → Signal → Program Outcome}
    (hs : setting.graph.source? node.id socket = some source)
    (hs' : setting.graph.source? node.id socket' = some source)
    (h : Runs setting path (.rest node (.ask (.read socket) fun a => .ask (.read socket') (next a)))
      p (.ok s, q)) :
    ∃ t first second, Runs setting path (.value source) p (.ok t, first) ∧
      Runs setting path (.rest node (next t t)) second (.ok s, q) ∧ second.memo = first.memo ∧
      ⟨node.id, .read socket, t⟩ ∈ second.exchanges ∧
      ⟨node.id, .read socket', t⟩ ∈ second.exchanges := by
  cases h with
  | met hl => exact absurd hs hl.not_wired
  | @wired _ _ _ _ _ _ t first _ hsource hv h =>
    cases hsource.symm.trans hs
    cases h with
    | met hl => exact absurd hs' hl.not_wired
    | wired hsource' hv' h =>
      cases hsource'.symm.trans hs'
      obtain ⟨answer, hagain⟩ := hv.again ⟨node.id, .read socket, t⟩
      cases hagain.unique hv'
      exact ⟨t, first, _, hv, h, rfl, by simp [record, note], by simp [record, note]⟩

end Sockets

/-! ## Equality of a node and itself -/

/-- A comparison of a signal and itself that comes to an end tells whether it is NaN. -/
lemma Runs.of_comparison {node : Node} {f : Bool → Value} {t : Signal}
    (h : Runs setting path (.rest node (making do
      return f (← .ofExcept (looseEquals (t.maker == t.maker) t.value t.value)))) p (.ok s, q)) :
    q = p ∧ s = ⟨f (!t.value.isNaN), node.id⟩ := by
  rw [beq_self_eq_true] at h
  rcases hequal : looseEquals true t.value t.value with _ | x
  · rw [hequal] at h
    cases h
  · rw [hequal] at h
    rw [← looseEquals_self hequal]
    cases h
    exact ⟨rfl, rfl⟩

section Equality

variable {node : Node} (h : Reached setting p) (hn : setting.graph.node? node.id = some node)
  (ha : setting.graph.source? node.id "in-a" = some source)
  (hb : setting.graph.source? node.id "in-b" = some source) (hs : (node.id, s) ∈ p.memo)
include h hn ha hb hs

/-- What is remembered of a node that compares another one with itself. -/
lemma Reached.of_comparison {f : Bool → Value}
    (hprogram : node.program = making do return f (← equality)) :
    ∃ t, ⟨node.id, .read "in-a", t⟩ ∈ p.exchanges ∧ ⟨node.id, .read "in-b", t⟩ ∈ p.exchanges ∧
      (Fields.get? setting.overrides source = some t.value ∨
        Fields.get? setting.overrides source = none ∧
          ((source, t) ∈ p.memo ∨ t.value = .null)) ∧
      s = ⟨f (!t.value.isNaN), node.id⟩ := by
  obtain ⟨-, node', path, before, after, hn', hrun, hmemo, hextends⟩ := h.ran hs
  obtain rfl : node = node' := Option.some.inj (hn.symm.trans hn')
  rw [hprogram] at hrun
  obtain ⟨t, first, second, hread, hrest, hkept, hreadA, hreadB⟩ := Runs.read_twice ha hb hrun
  obtain ⟨rfl, hresult⟩ := Runs.of_comparison hrest
  refine ⟨t, hextends.exchanges hreadA, hextends.exchanges hreadB, ?_, hresult⟩
  refine hread.origin.imp_right (And.imp_right (Or.imp_left fun hmem => hmemo ?_))
  rwa [hkept]

/-- **A node equals itself**, whatever evaluation compares it: when the program of an equality that
reads one node on both sockets has come to a signal, both reads were answered with one signal,
which is the override of that node, what is remembered of it, or null. The equality holds unless
that is NaN, and an inequality is its negation. -/
theorem equal_of_same_source
    (hkind : node.kind? = some .equal ∨ node.kind? = some .notEqual) :
    ∃ t, ⟨node.id, .read "in-a", t⟩ ∈ p.exchanges ∧ ⟨node.id, .read "in-b", t⟩ ∈ p.exchanges ∧
      (Fields.get? setting.overrides source = some t.value ∨
        Fields.get? setting.overrides source = none ∧
          ((source, t) ∈ p.memo ∨ t.value = .null)) ∧
      (node.kind? = some .equal → s = ⟨.bool (!t.value.isNaN), node.id⟩) ∧
      (node.kind? = some .notEqual → s = ⟨.bool t.value.isNaN, node.id⟩) := by
  rcases hkind with hkind | hkind
  · have hprogram : node.program = making do return .bool (← equality) := by
      rw [Node.program, hkind]
      rfl
    obtain ⟨t, hreadA, hreadB, horigin, hresult⟩ := h.of_comparison hn ha hb hs hprogram
    refine ⟨t, hreadA, hreadB, horigin, fun _ => hresult, fun hother => ?_⟩
    cases hkind.symm.trans hother
  · have hprogram : node.program = making do return .bool (!(← equality)) := by
      rw [Node.program, hkind]
      rfl
    obtain ⟨t, hreadA, hreadB, horigin, hresult⟩ := h.of_comparison hn ha hb hs
      (f := fun x => .bool (!x)) hprogram
    rw [Bool.not_not] at hresult
    refine ⟨t, hreadA, hreadB, horigin, fun hother => ?_, fun _ => hresult⟩
    cases hkind.symm.trans hother

end Equality

/-- A style that is compared with itself. -/
def mirror : Graph :=
  ⟨[⟨"style", "STYLE", []⟩, ⟨"same", "EQUAL", []⟩],
    [⟨"style", "same", "in-a"⟩, ⟨"style", "same", "in-b"⟩], .null, .null⟩

/-- A style that is built for the comparison equals itself: both sockets get one thing. -/
theorem style_equals_itself :
    ("same", ⟨.bool true, "same"⟩) ∈ (signal (.alone mirror) "same" (.start [] 0 ())).2.memo ∧
    ∃ t : Signal, t.value.isNaN = false ∧
      ⟨"same", .read "in-a", t⟩ ∈ (signal (.alone mirror) "same" (.start [] 0 ())).2.exchanges ∧
      ⟨"same", .read "in-b", t⟩ ∈
        (signal (.alone mirror) "same" (.start [] 0 ())).2.exchanges := by
  have hmem : ("same", ⟨.bool true, "same"⟩) ∈
      (signal (.alone mirror) "same" (.start [] 0 ())).2.memo := by decide +kernel
  let node : Node := ⟨"same", "EQUAL", []⟩
  have hn : (Setting.alone mirror).graph.node? node.id = some node := rfl
  obtain ⟨t, hreadA, hreadB, -, hequal, -⟩ := equal_of_same_source
    (.signal (.start [] 0 ()) "same") hn rfl rfl hmem (.inl (by decide))
  have htrue := congrArg Signal.value (hequal (by decide))
  exact ⟨hmem, t, by simpa using htrue, hreadA, hreadB⟩

end Evaluation

end DesignGraph
