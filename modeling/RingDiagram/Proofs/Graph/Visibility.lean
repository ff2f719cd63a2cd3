import Mathlib.Data.List.Induction
import RingDiagram.Notation.Reading
import RingDiagram.Proofs.Graph.Expansion

/-!
# The table of visible slots

A matrix speaks of visible vertices by their places among themselves, and the table of a model
tells which slots these are. Every vertex list comes about by declarations, one name behind the
other, and so do the facts about the table (`Model.declare_induction`). The step lemma says what one
declaration does to it: an invisible name leaves the table alone, a visible one adds the slot that
it takes at the end (`Model.visibleSlots_declare`). From it follow

* the order of the table, in which slots only grow (`Model.pairwise_visibleSlots`);
* what an entry is by its place: as many slots further as there are invisible names before it
  (`Model.eq_add_of_getElem?_visibleSlots`);
* what a run of declarations does to the table, which keeps all its entries where they are and goes
  on with the slots of the visible names (`Model.visibleSlots_run`).

`Model.visibleSlots_exact` puts this together.
-/

namespace RingDiagram.Model

/-! ### One declaration -/

/-- The declaration of a name as an action on models: the vertex goes behind all others, and the
answer is the slot that it takes. -/
def declareSlot (name : String) : StateM Model Nat :=
  fun m => (m.vertices.length, m.declare name)

/-- A mention of an unknown name declares it in this way, if mentions declare. -/
theorem refer_eq_declareSlot {m : Model} {name : String} (h : m.find? name = none)
    (h_auto : m.flags.auto = true) (line : Nat) :
    m.refer line name = .ok ((declareSlot name).run m).swap := by
  unfold refer
  rw [h, h_auto]
  rfl

/-- **One declaration** adds the slot that the name takes to the end of the table if the name is
visible, and nothing if it is not. -/
theorem visibleSlots_declare (m : Model) (name : String) :
    (m.declare name).visibleSlots =
      m.visibleSlots ++ if invisibleName name then [] else [m.vertices.length] := by
  unfold visibleSlots
  rw [vertices_declare, List.zipIdx_append, List.filter_append, List.map_append, Nat.zero_add]
  congr 1
  -- what is left to look at is the new name with its slot
  by_cases h : invisibleName name
  · simp [h]
  · simp [h]

/-- What holds of models without vertices, and of a model with one more name if it holds of the
model, holds of all models. -/
theorem declare_induction {P : Model → Prop} (h_bare : ∀ m : Model, m.vertices = [] → P m)
    (h_declare : ∀ (m : Model) (name : String), P m → P (m.declare name)) (m : Model) : P m := by
  obtain ⟨flags, vertices, edges⟩ := m
  induction vertices using List.reverseRecOn with
  | nil => exact h_bare _ rfl
  | append_singleton names name ih => exact h_declare ⟨flags, names, edges⟩ name ih

variable {m : Model}

theorem visibleSlots_bare (h : m.vertices = []) : m.visibleSlots = [] := by
  unfold visibleSlots
  rw [h]
  rfl

/-! ### The entries -/

/-- The slots in the table only grow: a slot that is added lies behind all that are in use. -/
theorem pairwise_visibleSlots (m : Model) : m.visibleSlots.Pairwise (· < ·) := by
  induction m using declare_induction with
  | h_bare m h =>
    rw [visibleSlots_bare h]
    exact List.Pairwise.nil
  | h_declare m name ih =>
    rw [visibleSlots_declare, List.pairwise_append]
    -- the slots so far are in order, so is what is added, and the new slot is beyond all of them
    refine ⟨ih, ?_, ?_⟩
    · split
      · exact List.Pairwise.nil
      · exact List.pairwise_singleton _ _
    · intro i h_i j h_j
      split at h_j
      · cases h_j
      · rw [List.mem_singleton.1 h_j]
        exact lt_of_mem_visibleSlots h_i

/-- Every vertex is visible or invisible. -/
theorem length_vertices_eq (m : Model) :
    m.vertices.length = m.visibleSlots.length + m.vertices.countP invisibleName := by
  rw [length_visibleSlots, visibleCount, Nat.add_comm,
    List.length_eq_countP_add_countP invisibleName]
  simp

/-- **An entry of the table by its place**: it is as many slots further as there are invisible names
in the slots before it. -/
theorem eq_add_of_getElem?_visibleSlots {k i : Nat} (h : m.visibleSlots[k]? = some i) :
    i = k + (m.vertices.take i).countP invisibleName := by
  induction m using declare_induction with
  | h_bare m h_none =>
    rw [visibleSlots_bare h_none] at h
    cases h
  | h_declare m name ih =>
    rw [visibleSlots_declare] at h
    by_cases h_k : k < m.visibleSlots.length
    · -- the entry was there before, and the new name stands behind its slot
      rw [List.getElem?_append_left h_k] at h
      have h_lt : i < m.vertices.length := lt_of_mem_visibleSlots (List.mem_of_getElem? h)
      rw [vertices_declare, List.take_append_of_le_length (Nat.le_of_lt h_lt)]
      exact ih h
    · -- the entry is the new one, and all the names before stand in front of its slot
      rw [List.getElem?_append_right (Nat.not_lt.1 h_k)] at h
      have h_mem := List.mem_of_getElem? h
      split at h_mem
      · cases h_mem
      · next h_visible =>
        obtain rfl : i = m.vertices.length := List.mem_singleton.1 h_mem
        rw [if_neg h_visible] at h
        -- only one entry is added, so the place is the first one behind the table
        have h_place : k - m.visibleSlots.length = 0 := by
          have h_lt := (List.getElem?_eq_some_iff.1 h).1
          rw [List.length_singleton] at h_lt
          omega
        rw [vertices_declare, List.take_left, length_vertices_eq]
        omega

/-! ### A run of declarations -/

theorem run_mapM_declareSlot_cons (m : Model) (name : String) (names : List String) :
    ((name :: names).mapM declareSlot).run m =
      (m.vertices.length :: ((names.mapM declareSlot).run (m.declare name)).1,
        ((names.mapM declareSlot).run (m.declare name)).2) := by
  rw [List.mapM_cons]
  rfl

/-- The names of a run are put behind those that are there, as a vertex list puts them. -/
theorem snd_run (m : Model) (names : List String) :
    ((names.mapM declareSlot).run m).2 = { m with vertices := m.vertices ++ names } := by
  induction names generalizing m with
  | nil =>
    show m = _
    rw [List.append_nil]
  | cons name names ih =>
    rw [run_mapM_declareSlot_cons]
    show ((names.mapM declareSlot).run (m.declare name)).2 = _
    rw [ih, vertices_declare, List.append_assoc, List.singleton_append]
    rfl

/-- **A run of declarations** adds the slots that the visible names take, in order. -/
theorem visibleSlots_run (m : Model) (names : List String) :
    ((names.mapM declareSlot).run m).2.visibleSlots =
      m.visibleSlots ++
        ((names.zip ((names.mapM declareSlot).run m).1).filter
          fun taken => !invisibleName taken.1).map Prod.snd := by
  induction names generalizing m with
  | nil => exact (List.append_nil m.visibleSlots).symm
  | cons name names ih =>
    rw [run_mapM_declareSlot_cons]
    show ((names.mapM declareSlot).run (m.declare name)).2.visibleSlots = _
    rw [ih, visibleSlots_declare, List.append_assoc, List.zip_cons_cons, List.filter_cons]
    -- the answer of the declaration stands next to its name, and is kept or left out with it
    by_cases h : invisibleName name
    · simp [h]
    · simp [h]

/-- A name is invisible if it begins with a low line. -/
theorem invisibleName_iff {name : String} :
    invisibleName name = true ↔ ∃ rest, name.toList = '_' :: rest := by
  unfold invisibleName
  rw [beq_iff_eq, List.head?_eq_some_iff]

/-- **The table of visible slots.** It grows strictly, has as many entries as there are visible
vertices, and holds the slots of exactly those names that do not begin with a low line; its `k`-th
entry is `k` and the number of invisible vertices before that slot. A name that is declared stands
in the slot that is answered: an invisible one leaves the table as it is, and a visible one adds
exactly this slot at the end. So over any run of declarations the table grows by the slots of the
visible names in order, and what a place in it denotes, and the name there, stays the same. -/
theorem visibleSlots_exact (m : Model) :
    (∀ name, invisibleName name = true ↔ ∃ rest, name.toList = '_' :: rest) ∧
    m.visibleSlots.Pairwise (· < ·) ∧
    m.visibleSlots.length = m.visibleCount ∧
    (∀ i, i ∈ m.visibleSlots ↔ ∃ name, m.vertices[i]? = some name ∧ invisibleName name = false) ∧
    (∀ k i, m.visibleSlots[k]? = some i → i = k + (m.vertices.take i).countP invisibleName) ∧
    (∀ name slot m', (declareSlot name).run m = (slot, m') →
      m'.vertices[slot]? = some name ∧
      m'.visibleSlots = if invisibleName name then m.visibleSlots else m.visibleSlots ++ [slot]) ∧
    ∀ (names : List String) (slots : List Nat) (m' : Model),
      (names.mapM declareSlot).run m = (slots, m') →
      m'.visibleSlots = m.visibleSlots ++
        ((names.zip slots).filter fun taken => !invisibleName taken.1).map Prod.snd ∧
      ∀ (k slot : Nat), m.visibleSlots[k]? = some slot →
        m'.visibleSlots[k]? = some slot ∧ m'.vertices[slot]? = m.vertices[slot]? := by
  refine ⟨fun name => invisibleName_iff, m.pairwise_visibleSlots, m.length_visibleSlots,
    fun i => mem_visibleSlots, fun k i => eq_add_of_getElem?_visibleSlots, ?_, ?_⟩
  · -- one declaration, answered by the slot behind all that are in use
    intro name slot m' h
    obtain ⟨rfl, rfl⟩ := Prod.mk.inj h
    constructor
    · exact List.getElem?_concat_length
    · rw [visibleSlots_declare]
      by_cases h_name : invisibleName name
      · rw [if_pos h_name, if_pos h_name, List.append_nil]
      · rw [if_neg h_name, if_neg h_name]
  · intro names slots m' h
    have h_table := m.visibleSlots_run names
    have h_names := congrArg vertices (m.snd_run names)
    rw [h] at h_table h_names
    refine ⟨h_table, fun k slot h_slot => ?_⟩
    -- both lists only grow at the end
    have h_lt : slot < m.vertices.length := lt_of_mem_visibleSlots (List.mem_of_getElem? h_slot)
    obtain ⟨h_k, -⟩ := List.getElem?_eq_some_iff.1 h_slot
    constructor
    · rw [h_table, List.getElem?_append_left h_k]
      exact h_slot
    · show m'.vertices[slot]? = m.vertices[slot]?
      rw [h_names]
      exact List.getElem?_append_left h_lt

/-- A model with gaps in the middle of its names and at their end. -/
private def gapped : Model :=
  { vertices := ["a", "_x", "b", "_y", "_z", "c", "_"] }

/-- The third visible vertex is behind three invisible ones. Of two more names the visible one comes
into the table, at the slot that it was given, and the third entry is still what it was. -/
theorem visibleSlots_exact_gapped :
    gapped.visibleSlots = [0, 2, 5] ∧ 5 = 2 + (gapped.vertices.take 5).countP invisibleName ∧
      ∃ m', (["_w", "d"].mapM declareSlot).run gapped = ([7, 8], m') ∧
        m'.visibleSlots = [0, 2, 5, 8] ∧ m'.visibleSlots[2]? = some 5 ∧
        m'.vertices[5]? = some "c" := by
  have h_table : gapped.visibleSlots = [0, 2, 5] := by decide
  have h_run : (["_w", "d"].mapM declareSlot).run gapped =
      ([7, 8], (gapped.declare "_w").declare "d") := rfl
  obtain ⟨-, -, -, -, h_place, -, h_later⟩ := visibleSlots_exact gapped
  have h_third : gapped.visibleSlots[2]? = some 5 := by rw [h_table]; rfl
  obtain ⟨h_grown, h_same⟩ := h_later _ _ _ h_run
  obtain ⟨h_still, h_name⟩ := h_same 2 5 h_third
  refine ⟨h_table, h_place 2 5 h_third, _, h_run, ?_, h_still, h_name⟩
  rw [h_grown, h_table]
  decide

end RingDiagram.Model
