import Mathlib.Data.Finset.Card
import RingDiagram.Proofs.Layout.History
import RingDiagram.Layout.Basic

/-!
# The first edges of pairs

The `simple` flag keeps the edges whose bend is the first of their pair. `firstEdges` picks the same
edges from a sequence without any bend: it goes on with the edges of other pairs once it has taken
an edge (`firstEdges_cons`), which is the recursion that its laws are proved along
(`firstEdges_induction`).

* `filter_pair_firstEdges` says for one pair what is left of it: its first edge and nothing else.
  So no pair occurs twice (`nodup_map_pair_firstEdges`), and every pair occurs
  (`mem_map_pair_firstEdges`);
* `keptEdges_simple` is the step from bends to first edges. It is a run over the sequence, and what
  it carries along is that the edges still to come count only where no earlier edge has their pair;
* `keptEdges_plain` says that of first edges alone all are kept, with the bends they had before.
-/

namespace RingDiagram

/-- The first edge of every pair, in order. -/
def firstEdges (edges : List Edge) : List Edge :=
  edges.eraseDupsBy fun e f => e.pair == f.pair

/-- An edge that is taken leaves the edges of other pairs to choose from. -/
theorem firstEdges_cons (e : Edge) (rest : List Edge) :
    firstEdges (e :: rest) = e :: firstEdges (rest.filter (·.pair ≠ e.pair)) := by
  have h_others : (fun f : Edge => decide ((f.pair == e.pair) = false)) =
      fun f => decide (f.pair ≠ e.pair) := by
    funext f
    rw [decide_eq_decide, beq_eq_false_iff_ne]
  unfold firstEdges
  rw [List.eraseDupsBy_cons, h_others]

/-- What holds of no edges, and of a sequence if it does of the edges of it that have another pair
than the first one, holds of all sequences. -/
@[elab_as_elim]
theorem firstEdges_induction {P : List Edge → Prop} (nil : P [])
    (cons : ∀ e rest, P (rest.filter (·.pair ≠ e.pair)) → P (e :: rest)) (edges : List Edge) :
    P edges :=
  match edges with
  | [] => nil
  | e :: rest => cons e rest (firstEdges_induction nil cons _)
termination_by edges.length
decreasing_by exact Nat.lt_succ_of_le (List.length_filter_le _ _)

/-! ### Which edges they are -/

variable {p : Nat × Nat}

theorem firstEdges_sublist (edges : List Edge) : (firstEdges edges).Sublist edges := by
  induction edges using firstEdges_induction with
  | nil => exact List.Sublist.refl []
  | cons e rest ih =>
    rw [firstEdges_cons]
    exact (ih.trans List.filter_sublist).cons_cons e

/-- **Of one pair** the first edge is left, and nothing else. -/
theorem filter_pair_firstEdges (p : Nat × Nat) (edges : List Edge) :
    (firstEdges edges).filter (·.pair = p) = (edges.filter (·.pair = p)).take 1 := by
  induction edges using firstEdges_induction with
  | nil => rfl
  | cons e rest ih =>
    rw [firstEdges_cons]
    by_cases h : e.pair = p
    · -- the edges that are left to choose from have other pairs
      have h_none : (rest.filter (·.pair ≠ e.pair)).filter (·.pair = p) = [] := by
        apply List.filter_eq_nil_iff.2
        intro f h_f h_p
        have h_ne : f.pair ≠ e.pair := of_decide_eq_true (List.mem_filter.1 h_f).2
        exact h_ne ((of_decide_eq_true h_p).trans h.symm)
      rw [List.filter_cons_of_pos (by simpa using h), List.filter_cons_of_pos (by simpa using h),
        ih, h_none]
      rfl
    · -- the pair is not that of the edge taken, so all of it is left to choose from
      have h_all : (rest.filter (·.pair ≠ e.pair)).filter (·.pair = p) =
          rest.filter (·.pair = p) := by
        rw [List.filter_filter]
        apply List.filter_congr
        intro f _
        by_cases h_f : f.pair = p
        · have h_ne : f.pair ≠ e.pair := fun h_same => h (h_same.symm.trans h_f)
          simp [h_f, Ne.symm h]
        · simp [h_f]
      rw [List.filter_cons_of_neg (by simpa using h), List.filter_cons_of_neg (by simpa using h),
        ih, h_all]

/-- A pair occurs once if it occurs at all. -/
theorem countP_pair_firstEdges (p : Nat × Nat) (edges : List Edge) :
    (firstEdges edges).countP (·.pair = p) = min 1 (edges.countP (·.pair = p)) := by
  rw [List.countP_eq_length_filter, filter_pair_firstEdges, List.length_take,
    List.countP_eq_length_filter]

theorem mem_map_pair_firstEdges {edges : List Edge} :
    p ∈ (firstEdges edges).map Edge.pair ↔ p ∈ edges.map Edge.pair := by
  -- for pairs, to be there is to be counted
  have h_mem : ∀ l : List Edge, p ∈ l.map Edge.pair ↔ 0 < l.countP (·.pair = p) := by
    intro l
    simp [List.countP_pos_iff]
  rw [h_mem, h_mem, countP_pair_firstEdges]
  omega

theorem nodup_map_pair_firstEdges (edges : List Edge) :
    ((firstEdges edges).map Edge.pair).Nodup := by
  -- a pair stands once for every first edge that has it
  rw [List.nodup_iff_count_le_one]
  intro p
  have h_count : ((firstEdges edges).map Edge.pair).count p =
      (firstEdges edges).countP (·.pair = p) := by
    rw [List.count_eq_countP, List.countP_map]
    apply List.countP_congr
    intro e _
    simp
  rw [h_count, countP_pair_firstEdges]
  exact Nat.min_le_left _ _

/-- There are as many first edges as there are pairs. -/
theorem length_firstEdges (edges : List Edge) :
    (firstEdges edges).length = (edges.map Edge.pair).toFinset.card := by
  -- the edges that are left out bring no pair of their own
  have h_pairs : (edges.map Edge.pair).toFinset = ((firstEdges edges).map Edge.pair).toFinset := by
    ext p
    rw [List.mem_toFinset, List.mem_toFinset, mem_map_pair_firstEdges]
  rw [h_pairs, List.toFinset_card_of_nodup (nodup_map_pair_firstEdges edges), List.length_map]

/-! ### Searching among them -/

/-- Leaving out elements where a search finds nothing does not change what it finds. -/
theorem findSome?_filter {β γ : Type} {g : β → Option γ} {q : β → Bool} {l : List β}
    (h : ∀ b ∈ l, q b = false → g b = none) : (l.filter q).findSome? g = l.findSome? g := by
  induction l with
  | nil => rfl
  | cons b l ih =>
    obtain ⟨h_b, h_l⟩ := List.forall_mem_cons.1 h
    cases h_q : q b with
    | true => rw [List.filter_cons_of_pos h_q, List.findSome?_cons, List.findSome?_cons, ih h_l]
    | false =>
      have h_none : g b = none := h_b h_q
      rw [List.filter_cons_of_neg (by simp [h_q]), List.findSome?_cons, h_none]
      exact ih h_l

/-- **A search** that finds nothing at an edge when it found nothing at another edge of the same
pair finds the same among the first edges as among all. -/
theorem findSome?_firstEdges {γ : Type} {g : Edge → Option γ}
    (h : ∀ e f : Edge, e.pair = f.pair → g e = none → g f = none) (edges : List Edge) :
    (firstEdges edges).findSome? g = edges.findSome? g := by
  induction edges using firstEdges_induction with
  | nil => rfl
  | cons e rest ih =>
    rw [firstEdges_cons, List.findSome?_cons, List.findSome?_cons]
    cases h_e : g e with
    | some found => rfl
    | none =>
      -- the edges left out have the pair of an edge at which nothing was found
      have h_out : ∀ f ∈ rest, decide (f.pair ≠ e.pair) = false → g f = none := by
        intro f _ h_f
        have h_pair : f.pair = e.pair := of_not_not (of_decide_eq_false h_f)
        exact h e f h_pair.symm h_e
      exact ih.trans (findSome?_filter h_out)

/-! ### They are the edges that are kept -/

/-- The bend of the first edge of a pair. -/
def Bend.first (e : Edge) : Bend :=
  ⟨0, e, false⟩

/-- The bend of an edge that no earlier edge shares its pair with. -/
theorem Bend.after_eq_first {earlier : List Edge} {e : Edge} (h : mates e earlier = []) :
    Bend.after earlier e = Bend.first e := by
  simp [Bend.after, Bend.first, firstMate, h]

theorem mates_append_singleton_eq_nil_iff {e f : Edge} {earlier : List Edge} :
    mates f (earlier ++ [e]) = [] ↔ mates f earlier = [] ∧ f.pair ≠ e.pair := by
  by_cases h : e.pair = f.pair
  · simp [mates_append_of_pair_eq h, h]
  · simp [mates_append_of_pair_ne h, Ne.symm h]

/-- **A run over the sequence**: the edges with the first bend of their pair are the first edges
among those that have no earlier one in their pair. -/
theorem filter_zip_bendsAfter (earlier edges : List Edge) :
    (edges.zip (bendsAfter earlier edges)).filter (fun bent => bent.2.index == 0) =
      (firstEdges (edges.filter (mates · earlier = []))).map fun e => (e, Bend.first e) := by
  induction edges generalizing earlier with
  | nil => rfl
  | cons e rest ih =>
    rw [bendsAfter, List.zip_cons_cons]
    by_cases h : mates e earlier = []
    · -- the edge is kept; of those after it, the ones of its pair are out
      have h_rest : (rest.filter (mates · earlier = [])).filter (·.pair ≠ e.pair) =
          rest.filter (mates · (earlier ++ [e]) = []) := by
        rw [List.filter_filter]
        apply List.filter_congr
        intro f _
        rw [← Bool.decide_and, decide_eq_decide, and_comm]
        exact mates_append_singleton_eq_nil_iff.symm
      rw [List.filter_cons_of_pos (by simpa [Bend.after] using h),
        List.filter_cons_of_pos (by simpa using h), firstEdges_cons, h_rest, List.map_cons, ih,
        Bend.after_eq_first h]
    · -- the edge is out, and so were all others of its pair before it came
      have h_rest : rest.filter (mates · (earlier ++ [e]) = []) =
          rest.filter (mates · earlier = []) := by
        apply List.filter_congr
        intro f _
        rw [decide_eq_decide, mates_append_singleton_eq_nil_iff]
        refine ⟨And.left, fun h_f => ⟨h_f, fun h_pair => ?_⟩⟩
        rw [mates_congr h_pair] at h_f
        exact h h_f
      rw [List.filter_cons_of_neg (by simpa [Bend.after] using h),
        List.filter_cons_of_neg (by simpa using h), ih, h_rest]

/-- **Under the `simple` flag** the first edges of all pairs are kept. -/
theorem keptEdges_simple (edges : List Edge) :
    keptEdges true edges = (firstEdges edges).map fun e => (e, Bend.first e) := by
  have h_run := filter_zip_bendsAfter [] edges
  -- at the start no edge has an earlier one
  have h_all : edges.filter (mates · [] = []) = edges := by
    apply List.filter_eq_self.2
    intro e _
    simp [mates]
  rw [h_all, ← bends_eq] at h_run
  exact h_run

/-- Without the flag all edges are kept. -/
theorem keptEdges_plain (edges : List Edge) : keptEdges false edges = edges.zip (bends edges) :=
  List.filter_eq_self.2 fun _ _ => rfl

/-- Edges of different pairs all have the first bend. -/
theorem zip_bendsAfter_of_nodup {earlier edges : List Edge}
    (h_new : ∀ e ∈ edges, mates e earlier = []) (h_nodup : (edges.map Edge.pair).Nodup) :
    edges.zip (bendsAfter earlier edges) = edges.map fun e => (e, Bend.first e) := by
  induction edges generalizing earlier with
  | nil => rfl
  | cons e rest ih =>
    obtain ⟨h_e, h_rest⟩ := List.forall_mem_cons.1 h_new
    rw [List.map_cons, List.nodup_cons] at h_nodup
    -- the edge has no mate in the rest, so the rest has none among the edges before it
    have h_later : ∀ f ∈ rest, mates f (earlier ++ [e]) = [] := by
      intro f h_f
      refine mates_append_singleton_eq_nil_iff.2 ⟨h_rest f h_f, fun h_pair => ?_⟩
      exact h_nodup.1 (h_pair ▸ List.mem_map_of_mem h_f)
    rw [bendsAfter, List.zip_cons_cons, Bend.after_eq_first h_e, ih h_later h_nodup.2,
      List.map_cons]

/-- Of first edges alone all are kept without the flag, and they are kept as they are among all
edges under it. -/
theorem keptEdges_firstEdges (edges : List Edge) :
    keptEdges false (firstEdges edges) = keptEdges true edges := by
  have h_new : ∀ e ∈ firstEdges edges, mates e [] = [] := fun _ _ => rfl
  rw [keptEdges_simple, keptEdges_plain, bends_eq]
  exact zip_bendsAfter_of_nodup h_new (nodup_map_pair_firstEdges edges)

/-- The number of edges that are kept. -/
theorem length_keptEdges (simple : Bool) (edges : List Edge) :
    (keptEdges simple edges).length =
      if simple then (edges.map Edge.pair).toFinset.card else edges.length := by
  cases simple with
  | true => rw [keptEdges_simple, List.length_map, length_firstEdges, if_pos rfl]
  | false =>
    rw [keptEdges_plain, List.length_zip, bends_eq, length_bendsAfter, Nat.min_self,
      if_neg Bool.false_ne_true]

end RingDiagram
