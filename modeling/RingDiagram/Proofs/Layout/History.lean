import RingDiagram.Layout.Bend

/-!
# The bend of an edge in its history

Bends are assigned by a counter that is advanced edge by edge. What the counter knows of a pair is
the earlier edges of that pair and nothing else (`BendCounter.Records`), so the bend of an edge is a
function of the edges before it, `Bend.after`:

* `Records.push` is the step, from the edges so far to one more, and `bends_eq` the run over a
  sequence, which leaves no counter in sight;
* `Bend.after` looks at the edges of one pair only, so the bends of a pair are those of its edges
  alone, however the edges of other pairs stand between them (`zip_bendsAfter_filter`);
* among the edges of one pair the indices count up (`index_bendsAfter`), and an edge of a sequence
  is drawn in the direction of the first edge of its pair (`find?_eq_firstMate`).

`bends_exact` states the law for a whole sequence of edges.
-/

namespace RingDiagram

/-! ### Bends without a counter -/

/-- The edges among some that join the same two vertices as `e`. -/
def mates (e : Edge) (edges : List Edge) : List Edge :=
  edges.filter (·.pair = e.pair)

/-- The first of some edges that joins the same two vertices as `e`, and `e` if there is none. -/
def firstMate (e : Edge) (edges : List Edge) : Edge :=
  (mates e edges).headD e

/-- The bend of an edge that comes after some others. -/
def Bend.after (earlier : List Edge) (e : Edge) : Bend where
  index := (mates e earlier).length
  drawn := firstMate e earlier
  reversed := firstMate e earlier ≠ e

/-- The bends of edges that come after some others, one after the other. -/
def bendsAfter (earlier : List Edge) : List Edge → List Bend
  | [] => []
  | e :: rest => Bend.after earlier e :: bendsAfter (earlier ++ [e]) rest

theorem mates_congr {e f : Edge} (h : f.pair = e.pair) (edges : List Edge) :
    mates f edges = mates e edges := by
  rw [mates, mates, h]

theorem mates_append_of_pair_eq {e f : Edge} (h : f.pair = e.pair) (edges : List Edge) :
    mates e (edges ++ [f]) = mates e edges ++ [f] := by
  simp [mates, h]

theorem mates_append_of_pair_ne {e f : Edge} (h : f.pair ≠ e.pair) (edges : List Edge) :
    mates e (edges ++ [f]) = mates e edges := by
  simp [mates, h]

/-- The first mate of an edge is the edge or its reverse. -/
theorem firstMate_cases (e : Edge) (edges : List Edge) :
    firstMate e edges = e ∨ firstMate e edges = e.reverse := by
  unfold firstMate
  cases h : mates e edges with
  | nil => exact Or.inl rfl
  | cons f rest =>
    -- the first mate is one of the mates, and these join the same two vertices
    have h_mem : f ∈ mates e edges := h ▸ List.mem_cons_self
    exact Edge.pair_eq_iff.1 (of_decide_eq_true (List.mem_filter.1 h_mem).2)

/-- A loop is its own reverse, so it is its own first mate. -/
theorem firstMate_of_isLoop {e : Edge} (h : e.isLoop = true) (edges : List Edge) :
    firstMate e edges = e := by
  have h_reverse : e.reverse = e := by
    obtain ⟨source, target⟩ := e
    obtain rfl : source = target := Edge.isLoop_iff.1 h
    rfl
  -- what runs the other way is the edge itself
  rcases firstMate_cases e edges with h_first | h_first
  · exact h_first
  · exact h_first.trans h_reverse

/-! ### What the counter knows -/

namespace BendCounter

variable {t : BendCounter} {earlier : List Edge}

/-- The counter knows the first edge of every pair among the earlier ones, and their number. -/
def Records (t : BendCounter) (earlier : List Edge) : Prop :=
  ∀ e, t.tally e = ⟨firstMate e earlier, (mates e earlier).length⟩

theorem records_empty : Records {} [] := by
  intro e
  simp [tally, mates, firstMate]

/-- **One more edge** changes the tally of its own pair, and of no other. -/
theorem Records.push (h : t.Records earlier) (e : Edge) :
    (t.push e).Records (earlier ++ [e]) := by
  intro f
  -- the table is asked for one key after another one has been written
  have h_tally : (t.push e).tally f =
      if e.pair = f.pair then { t.tally e with count := (t.tally e).count + 1 }
      else t.tally f := by
    simp [BendCounter.push, tally, Std.HashMap.getD_insert]
  rw [h_tally]
  by_cases h_pair : e.pair = f.pair
  · -- the first edge of the pair stays the first one, unless there was none and `e` is it
    rw [if_pos h_pair, h e, firstMate, firstMate, mates_congr h_pair,
      mates_append_of_pair_eq h_pair]
    cases mates f earlier with
    | nil => rfl
    | cons first rest => simp
  · -- an edge of another pair is no mate, so both sides are what they were
    rw [if_neg h_pair, h f, firstMate, firstMate, mates_append_of_pair_ne h_pair]

/-- The bend that the counter gives is that of the edge after the earlier ones. -/
theorem Records.bend_eq (h : t.Records earlier) (e : Edge) : t.bend e = Bend.after earlier e := by
  unfold BendCounter.bend Bend.after
  rw [h e]
  -- the first edge of the pair runs as `e` does or against it; only a loop does both
  rcases firstMate_cases e earlier with h_same | h_reverse
  · simp [h_same]
  · rw [h_reverse]
    by_cases h_loop : e.reverse = e
    · simp [h_loop]
    · simp [h_loop]

/-- **A run of edges** gets the bends of edges after the earlier ones. -/
theorem Records.mapM_next (h : t.Records earlier) (edges : List Edge) :
    ((edges.mapM next).run t).1 = bendsAfter earlier edges := by
  induction edges generalizing t earlier with
  | nil => rfl
  | cons e rest ih =>
    -- the first edge is asked about in the counter at hand, and the rest in one that knows it too
    have h_run : (((e :: rest).mapM next).run t).1 =
        t.bend e :: ((rest.mapM next).run (t.push e)).1 := by
      rw [List.mapM_cons]
      rfl
    rw [h_run, h.bend_eq, ih (h.push e), bendsAfter]

end BendCounter

/-- The bends of a sequence, without a counter. -/
theorem bends_eq (edges : List Edge) : bends edges = bendsAfter [] edges :=
  BendCounter.records_empty.mapM_next edges

/-! ### One edge of a sequence -/

theorem length_bendsAfter (earlier edges : List Edge) :
    (bendsAfter earlier edges).length = edges.length := by
  induction edges generalizing earlier with
  | nil => rfl
  | cons e rest ih => rw [bendsAfter, List.length_cons, ih, List.length_cons]

/-- The bend of an edge of a sequence is its bend after the edges before it. -/
theorem getElem?_bendsAfter (earlier edges : List Edge) (k : Nat) :
    (bendsAfter earlier edges)[k]? = edges[k]?.map (Bend.after (earlier ++ edges.take k)) := by
  induction edges generalizing earlier k with
  | nil => rfl
  | cons e rest ih =>
    cases k with
    | zero => simp [bendsAfter]
    | succ k => simp [bendsAfter, ih]

/-- The first mate of an edge of a sequence, among those before it, is the first edge of its pair in
the whole sequence. -/
theorem find?_eq_firstMate {edges : List Edge} {k : Nat} {e : Edge} (h : edges[k]? = some e) :
    edges.find? (·.pair = e.pair) = some (firstMate e (edges.take k)) := by
  obtain ⟨h_lt, h_e⟩ := List.getElem?_eq_some_iff.1 h
  have h_split : edges = edges.take k ++ e :: edges.drop (k + 1) := by
    rw [← h_e, ← List.drop_eq_getElem_cons h_lt, List.take_append_drop]
  -- what is not found before the edge is found there
  conv => lhs; rw [h_split]
  rw [List.find?_append, List.find?_cons_of_pos (by simp), firstMate, mates,
    List.headD_eq_head?_getD, List.head?_filter]
  cases (edges.take k).find? (·.pair = e.pair) <;> rfl

/-! ### The edges of one pair -/

/-- Other pairs have no influence on the bend of an edge. -/
theorem after_filter {e : Edge} {p : Nat × Nat} (h : e.pair = p) (earlier : List Edge) :
    Bend.after (earlier.filter (·.pair = p)) e = Bend.after earlier e := by
  have h_mates : mates e (earlier.filter (·.pair = p)) = mates e earlier := by
    simp [mates, h, List.filter_filter]
  rw [Bend.after, Bend.after, firstMate, firstMate, h_mates]

/-- **Pairs are independent**: the bends of the edges of one pair are those of these edges alone. -/
theorem zip_bendsAfter_filter (p : Nat × Nat) (earlier edges : List Edge) :
    ((edges.zip (bendsAfter earlier edges)).filter (·.1.pair = p)).map Prod.snd =
      bendsAfter (earlier.filter (·.pair = p)) (edges.filter (·.pair = p)) := by
  induction edges generalizing earlier with
  | nil => rfl
  | cons e rest ih =>
    rw [bendsAfter, List.zip_cons_cons]
    by_cases h : e.pair = p
    · -- the edge is kept on both sides, with the bend that it has among its pair alone
      rw [List.filter_cons_of_pos (by simpa using h), List.filter_cons_of_pos (by simpa using h),
        List.map_cons, ih, bendsAfter, after_filter h, List.filter_append,
        List.filter_cons_of_pos (by simpa using h), List.filter_nil]
    · -- the edge is dropped on both sides, and also from the edges that came before the next
      rw [List.filter_cons_of_neg (by simpa using h), List.filter_cons_of_neg (by simpa using h),
        ih, List.filter_append, List.filter_cons_of_neg (by simpa using h), List.filter_nil,
        List.append_nil]

section OnePair

variable {p : Nat × Nat}

/-- Among edges of one pair all are mates. -/
theorem mates_eq_self {e : Edge} {edges : List Edge} (h_e : e.pair = p)
    (h : ∀ f ∈ edges, f.pair = p) : mates e edges = edges :=
  List.filter_eq_self.2 fun f h_f => decide_eq_true ((h f h_f).trans h_e.symm)

/-- Among edges of one pair the indices count up, without gap or repetition. -/
theorem index_bendsAfter {earlier edges : List Edge} (h_earlier : ∀ f ∈ earlier, f.pair = p)
    (h : ∀ f ∈ edges, f.pair = p) :
    (bendsAfter earlier edges).map Bend.index = List.range' earlier.length edges.length := by
  induction edges generalizing earlier with
  | nil => rfl
  | cons e rest ih =>
    obtain ⟨h_e, h_rest⟩ := List.forall_mem_cons.1 h
    -- the edge joins the earlier ones of its pair, and the next index is one more
    have h_later : ∀ f ∈ earlier ++ [e], f.pair = p := by
      simpa [or_imp, forall_and] using ⟨h_earlier, h_e⟩
    have h_index : (Bend.after earlier e).index = earlier.length := by
      rw [Bend.after, mates_eq_self h_e h_earlier]
    rw [bendsAfter, List.map_cons, h_index, ih h_later h_rest, List.length_append,
      List.length_singleton, List.length_cons, List.range'_succ]

end OnePair

/-! ### The law of bends -/

section Bends

variable {edges : List Edge}

/-- The bend at a place is that of the edge there after the edges before it. -/
theorem eq_after_of_getElem? {k : Nat} {e : Edge} {b : Bend} (h_e : edges[k]? = some e)
    (h_b : (bends edges)[k]? = some b) : b = Bend.after (edges.take k) e := by
  rw [bends_eq, getElem?_bendsAfter, h_e, List.nil_append] at h_b
  exact (Option.some.inj h_b).symm

/-- An edge is drawn in the direction of the first edge of its pair. -/
theorem find?_eq_drawn {x : Edge × Bend} (h : x ∈ edges.zip (bends edges)) :
    edges.find? (·.pair = x.1.pair) = some x.2.drawn := by
  obtain ⟨k, h_k⟩ := List.mem_iff_getElem?.1 h
  obtain ⟨h_e, h_b⟩ := List.getElem?_zip_eq_some.1 h_k
  rw [eq_after_of_getElem? h_e h_b]
  exact find?_eq_firstMate h_e

/-- The bends of one pair are those of its edges alone. -/
theorem zip_bends_filter (edges : List Edge) (p : Nat × Nat) :
    ((edges.zip (bends edges)).filter (·.1.pair = p)).map Prod.snd =
      bends (edges.filter (·.pair = p)) := by
  rw [bends_eq, bends_eq]
  exact zip_bendsAfter_filter p [] edges

/-- The indices of one pair count up from zero. -/
theorem map_index_zip_bends_filter (edges : List Edge) (p : Nat × Nat) :
    ((edges.zip (bends edges)).filter (·.1.pair = p)).map (·.2.index) =
      List.range (edges.countP (·.pair = p)) := by
  have h_pair : ∀ f ∈ edges.filter (·.pair = p), f.pair = p := fun f h_f =>
    of_decide_eq_true (List.mem_filter.1 h_f).2
  have h_none : ∀ f ∈ ([] : List Edge), f.pair = p := by simp
  -- taken alone, the edges of the pair have no others before or among them
  calc ((edges.zip (bends edges)).filter (·.1.pair = p)).map (·.2.index)
      = (((edges.zip (bends edges)).filter (·.1.pair = p)).map Prod.snd).map Bend.index := by
        rw [List.map_map]
        rfl
    _ = (bendsAfter [] (edges.filter (·.pair = p))).map Bend.index := by
        rw [zip_bends_filter, bends_eq]
    _ = List.range' 0 (edges.filter (·.pair = p)).length := index_bendsAfter h_none h_pair
    _ = List.range (edges.countP (·.pair = p)) := by
        rw [List.countP_eq_length_filter, List.range_eq_range']

end Bends

/-- **The law of bends**, for every sequence of edges. Every edge has one bend. Its index is the
number of earlier edges of its pair, it is drawn in the direction of the first edge of its pair, and
it is reversed exactly when it runs against that direction itself, which a loop never does. For
every pair the indices are the numbers below the number of its edges, in order; all its edges are
drawn in one direction; and its bends are those of its edges alone. -/
theorem bends_exact (edges : List Edge) :
    (bends edges).length = edges.length ∧
    (∀ k e b, edges[k]? = some e → (bends edges)[k]? = some b →
      b.index = (edges.take k).countP (·.pair = e.pair) ∧
      edges.find? (·.pair = e.pair) = some b.drawn ∧
      (b.reversed = true ↔ e ≠ b.drawn) ∧
      (e.isLoop = true → b.reversed = false)) ∧
    ∀ p,
      ((edges.zip (bends edges)).filter (·.1.pair = p)).map (·.2.index) =
        List.range (edges.countP (·.pair = p)) ∧
      (∀ x ∈ edges.zip (bends edges), ∀ y ∈ edges.zip (bends edges),
        x.1.pair = p → y.1.pair = p → x.2.drawn = y.2.drawn) ∧
      ((edges.zip (bends edges)).filter (·.1.pair = p)).map (·.2) =
        bends (edges.filter (·.pair = p)) := by
  refine ⟨?_, ?_, fun p => ⟨map_index_zip_bends_filter edges p, ?_, zip_bends_filter edges p⟩⟩
  · rw [bends_eq, length_bendsAfter]
  · -- what is said of one bend is read off the edges before it
    intro k e b h_e h_b
    obtain rfl := eq_after_of_getElem? h_e h_b
    refine ⟨List.countP_eq_length_filter.symm, find?_eq_firstMate h_e, ?_, fun h_loop => ?_⟩
    · -- the edge is reversed where the first of its pair is another one
      rw [Bend.after, decide_eq_true_iff]
      exact ne_comm
    · simp [Bend.after, firstMate_of_isLoop h_loop]
  · -- both are drawn in the direction of the first edge of their pair
    intro x h_x y h_y h_p h_q
    have h_drawn := find?_eq_drawn h_x
    rw [h_p, ← h_q, find?_eq_drawn h_y] at h_drawn
    exact (Option.some.inj h_drawn).symm

/-- Two edges in one direction and one against it, with a loop and another pair in between. -/
private def crossing : List Edge := [⟨2, 5⟩, ⟨0, 0⟩, ⟨5, 2⟩, ⟨1, 2⟩, ⟨2, 5⟩]

/-- The edge against the first one is the second of its pair, and it is drawn reversed. -/
theorem bends_exact_crossing :
    crossing[2]? = some ⟨5, 2⟩ ∧ (bends crossing)[2]? = some ⟨1, ⟨2, 5⟩, true⟩ ∧
      1 = (crossing.take 2).countP (·.pair = (2, 5)) ∧
      crossing.find? (·.pair = (2, 5)) = some ⟨2, 5⟩ ∧
      ((crossing.zip (bends crossing)).filter (·.1.pair = (2, 5))).map (·.2.index) =
        List.range 3 := by
  have h_bends : bends crossing =
      [⟨0, ⟨2, 5⟩, false⟩, ⟨0, ⟨0, 0⟩, false⟩, ⟨1, ⟨2, 5⟩, true⟩, ⟨0, ⟨1, 2⟩, false⟩,
        ⟨2, ⟨2, 5⟩, false⟩] := by
    rw [bends_eq]
    decide
  have h_e : crossing[2]? = some ⟨5, 2⟩ := rfl
  have h_b : (bends crossing)[2]? = some ⟨1, ⟨2, 5⟩, true⟩ := by
    rw [h_bends]
    rfl
  obtain ⟨-, h_edges, h_pairs⟩ := bends_exact crossing
  obtain ⟨h_index, h_drawn, -, -⟩ := h_edges 2 ⟨5, 2⟩ ⟨1, ⟨2, 5⟩, true⟩ h_e h_b
  exact ⟨h_e, h_b, h_index, h_drawn, (h_pairs (2, 5)).1⟩

end RingDiagram
