import Mathlib.Data.Fin.Basic
import Mathlib.Data.List.FinRange
import Mathlib.Data.List.Perm.Basic
import RingDiagram.Proofs.Layout.FirstEdges
import RingDiagram.Proofs.Layout.Routing

/-!
# Rearranging the edges of a network

How an edge is drawn depends on the edges of its own pair that come before it, and on nothing else.
So the edges of a network may stand in another order, as long as those of one pair stay in theirs:
every edge is then drawn by the same route.

* `rearranged` moves the edge in place `i` to place `σ i`, and `KeepsPairs` asks that no two edges
  of one pair change their order;
* the edges of the pair before a place are found at the places before it, and these move with the
  edge (`pairPlaces_rearranged`). Both sides are lists of places in order, so it is enough that they
  hold the same places. Hence an edge keeps its bend (`getElem?_zip_bends_rearranged`);
* a layout draws the edges in some of the places (`Network.drawnPlaces`), in order, by routes that
  hang on an edge and its bend only (`Network.drawnBy_iff`).

`layout_rearranged` puts this together: the two layouts are there together, hold the same vertices
around the same centre, and draw every edge by the same route or not at all.
-/

namespace RingDiagram

/-! ### Rearrangements -/

/-- Some edges in another order: the edge in place `i` has moved to place `σ i`. -/
def rearranged (edges : List Edge) (σ : Equiv.Perm (Fin edges.length)) : List Edge :=
  List.ofFn fun k => edges[σ.symm k]

/-- Of two edges of one pair, the one that came first still does. -/
def KeepsPairs (edges : List Edge) (σ : Equiv.Perm (Fin edges.length)) : Prop :=
  ∀ i j, i < j → edges[i].pair = edges[j].pair → σ i < σ j

variable {edges : List Edge} {σ : Equiv.Perm (Fin edges.length)}

theorem length_rearranged (edges : List Edge) (σ : Equiv.Perm (Fin edges.length)) :
    (rearranged edges σ).length = edges.length :=
  List.length_ofFn

theorem getElem?_rearranged (i : Fin edges.length) :
    (rearranged edges σ)[(σ i : Nat)]? = some edges[i] := by
  simp [rearranged]

/-- A list that has the elements of another in moved places is a permutation of it. -/
theorem perm_of_getElem?_eq {β : Type} {xs ys : List β} {n : Nat} (h_xs : xs.length = n)
    (h_ys : ys.length = n) (σ : Equiv.Perm (Fin n))
    (h : ∀ i, ys[(σ i : Nat)]? = xs[(i : Nat)]?) : ys.Perm xs := by
  subst h_xs
  -- place `k` holds what has moved there
  have h_moved : ys = List.ofFn ((fun i : Fin xs.length => xs[i]) ∘ σ.symm) := by
    apply List.ext_getElem?
    intro k
    by_cases h_k : k < xs.length
    · have h_place := h (σ.symm ⟨k, h_k⟩)
      rw [Equiv.apply_symm_apply] at h_place
      simpa [h_k] using h_place
    · rw [List.getElem?_eq_none (by omega), List.getElem?_eq_none (by simp; omega)]
  have h_perm := Equiv.Perm.ofFn_comp_perm σ.symm fun i : Fin xs.length => xs[i]
  have h_self : List.ofFn (fun i : Fin xs.length => xs[i]) = xs := by simp
  rw [← h_moved, h_self] at h_perm
  exact h_perm

/-- The order of two edges of one pair is the same before and after. -/
theorem KeepsPairs.lt_iff (h : KeepsPairs edges σ) {i j : Fin edges.length}
    (h_pair : edges[i].pair = edges[j].pair) : σ i < σ j ↔ i < j := by
  rcases lt_trichotomy i j with h_lt | rfl | h_gt
  · exact iff_of_true (h i j h_lt h_pair) h_lt
  · simp
  · -- if the second edge came first, it would still come first
    have h_moved := h j i h_gt h_pair.symm
    exact iff_of_false (by omega) (by omega)

/-! ### The places of a pair -/

/-- The places before place `k`, in order, of the edges of a pair. -/
def pairPlaces {n : Nat} (f : Fin n → Edge) (p : Nat × Nat) (k : Nat) : List (Fin n) :=
  (List.finRange n).filter fun j => j < k ∧ (f j).pair = p

theorem mem_pairPlaces {n : Nat} {f : Fin n → Edge} {p : Nat × Nat} {k : Nat} {j : Fin n} :
    j ∈ pairPlaces f p k ↔ j < k ∧ (f j).pair = p := by
  simp [pairPlaces]

theorem pairwise_pairPlaces {n : Nat} (f : Fin n → Edge) (p : Nat × Nat) (k : Nat) :
    (pairPlaces f p k).Pairwise (· < ·) :=
  (List.pairwise_lt_finRange n).filter _

/-- The mates of an edge among those before a place, by their places. -/
theorem mates_take_ofFn {n : Nat} (e : Edge) (f : Fin n → Edge) (k : Nat) :
    mates e ((List.ofFn f).take k) = (pairPlaces f e.pair k).map f := by
  unfold mates pairPlaces
  induction n generalizing k with
  | zero => simp
  | succ n ih =>
    rw [List.ofFn_succ, List.finRange_succ]
    cases k with
    | zero => simp
    | succ k =>
      -- the first place comes before all others, and these are counted from it
      have h_rest := ih (fun j => f j.succ) k
      rw [List.take_succ_cons, List.filter_cons, List.filter_cons, h_rest, List.filter_map]
      by_cases h_first : (f 0).pair = e.pair
      · simp [h_first, Function.comp_def]
      · simp [h_first, Function.comp_def]

/-- **The places of a pair** before an edge of it move with the edge. -/
theorem pairPlaces_rearranged (h : KeepsPairs edges σ) (i : Fin edges.length) :
    pairPlaces (fun k => edges[σ.symm k]) edges[i].pair (σ i) =
      (pairPlaces (fun j => edges[j]) edges[i].pair i).map σ := by
  have h_places := pairwise_pairPlaces (fun j : Fin edges.length => edges[j]) edges[i].pair i
  -- both lists are in order, so they are equal if they hold the same places
  refine List.Perm.eq_of_pairwise ?asymm (pairwise_pairPlaces _ _ _) ?sorted ?perm
  case asymm =>
    intro a b _ _ h_ab h_ba
    exact absurd h_ab h_ba.asymm
  case sorted =>
    rw [List.pairwise_map]
    refine h_places.imp_of_mem fun {a b} h_a h_b h_lt => ?_
    have h_pair := (mem_pairPlaces.1 h_a).2.trans (mem_pairPlaces.1 h_b).2.symm
    exact h a b h_lt h_pair
  case perm =>
    have h_nodup := h_places.imp fun h_lt => h_lt.ne
    have h_nodup' := (pairwise_pairPlaces (fun k => edges[σ.symm k]) edges[i].pair (σ i)).imp
      fun h_lt => h_lt.ne
    rw [List.perm_ext_iff_of_nodup h_nodup' (List.Nodup.map σ.injective h_nodup)]
    intro k
    -- a place after the move is that of an edge which stood somewhere before it
    obtain ⟨j, rfl⟩ := σ.surjective k
    have h_edge : edges[σ.symm (σ j)] = edges[j] := by simp
    rw [mem_pairPlaces, List.mem_map_of_injective σ.injective, mem_pairPlaces, h_edge]
    exact and_congr_left h.lt_iff

/-- The mates of an edge among those before it are the same before and after. -/
theorem mates_take_rearranged (h : KeepsPairs edges σ) (i : Fin edges.length) :
    mates edges[i] ((rearranged edges σ).take (σ i)) = mates edges[i] (edges.take i) := by
  have h_self : List.ofFn (fun j : Fin edges.length => edges[j]) = edges := by simp
  calc mates edges[i] ((rearranged edges σ).take (σ i))
      = (pairPlaces (fun k => edges[σ.symm k]) edges[i].pair (σ i)).map fun k =>
          edges[σ.symm k] := mates_take_ofFn _ _ _
    -- these places have moved with the edge, and so have the edges in them
    _ = ((pairPlaces (fun j => edges[j]) edges[i].pair i).map σ).map fun k =>
          edges[σ.symm k] := by rw [pairPlaces_rearranged h]
    _ = (pairPlaces (fun j => edges[j]) edges[i].pair i).map fun j => edges[j] := by
          rw [List.map_map]
          simp [Function.comp_def]
    _ = mates edges[i] ((List.ofFn fun j : Fin edges.length => edges[j]).take i) :=
          (mates_take_ofFn _ _ _).symm
    _ = mates edges[i] (edges.take i) := by rw [h_self]

/-- **An edge keeps its bend**, as it has the same mates before it. -/
theorem getElem?_zip_bends_rearranged (h : KeepsPairs edges σ) (i : Fin edges.length) :
    ((rearranged edges σ).zip (bends (rearranged edges σ)))[(σ i : Nat)]? =
      (edges.zip (bends edges))[(i : Nat)]? := by
  -- an edge stands next to the bend that the edges before it give to it
  have h_zip : ∀ (l : List Edge) (k : Nat) (e : Edge), l[k]? = some e →
      (l.zip (bends l))[k]? = some (e, Bend.after (l.take k) e) := by
    intro l k e h_e
    refine List.getElem?_zip_eq_some.2 ⟨h_e, ?_⟩
    rw [bends_eq, getElem?_bendsAfter, h_e]
    rfl
  have h_after : Bend.after ((rearranged edges σ).take (σ i)) edges[i] =
      Bend.after (edges.take i) edges[i] := by
    unfold Bend.after firstMate
    rw [mates_take_rearranged h]
  rw [h_zip _ _ _ (getElem?_rearranged i), h_zip edges i edges[i] (by simp), h_after]

/-- The edges in another order are the same edges with the same bends. -/
theorem zip_bends_rearranged_perm (h : KeepsPairs edges σ) :
    ((rearranged edges σ).zip (bends (rearranged edges σ))).Perm (edges.zip (bends edges)) := by
  -- there is one bend for each edge
  have h_length : ∀ l : List Edge, (l.zip (bends l)).length = l.length := by
    intro l
    rw [List.length_zip, bends_eq, length_bendsAfter, Nat.min_self]
  refine perm_of_getElem?_eq (h_length edges) ?_ σ (getElem?_zip_bends_rearranged h)
  rw [h_length, length_rearranged]

/-! ### Drawn edges and their places -/

/-- The edges that are drawn, with their bends and their places, in order. -/
def placedEdges (simple : Bool) (edges : List Edge) : List ((Edge × Bend) × Nat) :=
  (edges.zip (bends edges)).zipIdx.filter fun placed => !simple || placed.1.2.index == 0

theorem mem_placedEdges {simple : Bool} {bent : Edge × Bend} {i : Nat} :
    (bent, i) ∈ placedEdges simple edges ↔
      (edges.zip (bends edges))[i]? = some bent ∧ (!simple || bent.2.index == 0) = true := by
  rw [placedEdges, List.mem_filter, List.mk_mem_zipIdx_iff_getElem?]

theorem keptEdges_eq_map_placedEdges (simple : Bool) (edges : List Edge) :
    keptEdges simple edges = (placedEdges simple edges).map Prod.fst := by
  unfold keptEdges placedEdges
  conv => lhs; rw [← List.zipIdx_map_fst 0 (edges.zip (bends edges)), List.filter_map]
  rfl

namespace Network

/-- The network with its edges in another order. -/
def rearranged (net : Network) (σ : Equiv.Perm (Fin net.edges.length)) : Network where
  flags := net.flags
  vertices := net.vertices
  edges := RingDiagram.rearranged net.edges σ
  within := by
    -- the edges are those of the network
    intro e h_e
    obtain ⟨k, rfl⟩ := List.mem_ofFn.1 h_e
    exact net.within _ (List.getElem_mem _)

/-- The places, in order, of the edges that are drawn. -/
def drawnPlaces (net : Network) : List Nat :=
  (placedEdges net.flags.simple net.edges).map Prod.snd

variable {α : Type}

/-- The layout draws the edge in place `i` by the route. -/
def DrawnBy (net : Network) (layout : Layout α) (i : Nat) (r : Route α) : Prop :=
  (i, r) ∈ net.drawnPlaces.zip layout.edges

variable [Add α] [Sub α] [Mul α] [Div α] [Neg α] [NatCast α] [LT α] [DecidableLT α] [BEq α]
  [Scalar α]

variable {net : Network} {settings : Settings α} {width height : α} {layout layout' : Layout α}

/-- **One edge of a layout**: it is drawn by a route if it is kept and that is its route. -/
theorem drawnBy_iff (h : net.layout settings width height = .ok layout) {i : Nat} {r : Route α} :
    net.DrawnBy layout i r ↔
      ∃ bent, (bent, i) ∈ placedEdges net.flags.simple net.edges ∧
        Route.among (net.place settings width height) (net.ringCenter settings width height)
          settings.bendiness bent = .ok r := by
  rw [net.layout_eq, keptEdges_eq_map_placedEdges, List.mapM_map] at h
  obtain ⟨routes, h_routes, rfl⟩ := map_eq_ok_iff.1 h
  unfold DrawnBy drawnPlaces
  rw [List.zip_map_left, List.mem_map]
  constructor
  · -- the pairs of a place and a route come from the kept edges, each with the route found for it
    rintro ⟨⟨⟨bent, place⟩, route⟩, h_mem, h_same⟩
    obtain ⟨h_place, h_route⟩ := (mem_zip_iff_of_mapM h_routes).1 h_mem
    cases h_same
    exact ⟨bent, h_place, h_route⟩
  · rintro ⟨bent, h_place, h_route⟩
    exact ⟨((bent, i), r), (mem_zip_iff_of_mapM h_routes).2 ⟨h_place, h_route⟩, rfl⟩

/-- A layout has one route for each edge that is drawn. -/
theorem length_edges_of_layout (h : net.layout settings width height = .ok layout) :
    layout.edges.length = net.drawnPlaces.length := by
  rw [(draws_of_layout h).length_eq.symm, keptEdges_eq_map_placedEdges, List.length_map]
  exact (List.length_map _).symm

/-- An edge that is drawn is drawn by one route, and the route is of this edge. -/
theorem existsUnique_drawnBy (h : net.layout settings width height = .ok layout) {i : Nat}
    (h_i : i ∈ net.drawnPlaces) :
    ∃! r, net.DrawnBy layout i r ∧ net.edges[i]? = some r.edge := by
  obtain ⟨⟨bent, place⟩, h_placed, rfl⟩ := List.mem_map.1 h_i
  have h_bent := (mem_placedEdges.1 h_placed).1
  -- the edge is one of those that are kept, and these all have a route
  have h_routes := h
  rw [net.layout_eq, keptEdges_eq_map_placedEdges, List.mapM_map] at h_routes
  obtain ⟨routes, h_routes, -⟩ := map_eq_ok_iff.1 h_routes
  obtain ⟨r, h_route⟩ := exists_ok_of_mapM h_routes _ h_placed
  have h_edge : r.edge = bent.1 := (Route.draws_of_among h_route).1
  refine ⟨r, ⟨(drawnBy_iff h).2 ⟨bent, h_placed, h_route⟩, ?_⟩, ?_⟩
  · rw [h_edge]
    exact (List.getElem?_zip_eq_some.1 h_bent).1
  · rintro r' ⟨h_drawn, -⟩
    obtain ⟨bent', h_placed', h_route'⟩ := (drawnBy_iff h).1 h_drawn
    -- one edge stands in the place, with one bend
    have h_same := h_bent.symm.trans (mem_placedEdges.1 h_placed').1
    rw [← Option.some.inj h_same] at h_route'
    exact Except.ok.inj (h_route'.symm.trans h_route)

/-- **Layouts of the same edges in another order** hold the same routes in another order. -/
theorem exists_layout_of_perm (net net' : Network) (h_flags : net'.flags = net.flags)
    (h_vertices : net'.vertices = net.vertices)
    (h_kept : (keptEdges net.flags.simple net'.edges).Perm
      (keptEdges net.flags.simple net.edges))
    (h : net.layout settings width height = .ok layout) :
    ∃ routes, net'.layout settings width height = .ok { layout with edges := routes } ∧
      routes.Perm layout.edges := by
  rw [net.layout_eq] at h
  obtain ⟨routes, h_routes, rfl⟩ := map_eq_ok_iff.1 h
  obtain ⟨routes', h_routes', h_perm⟩ := exists_mapM_of_perm h_kept h_routes
  refine ⟨routes', ?_, h_perm⟩
  -- the vertices are the same, and so are their places
  rw [net'.layout_eq, map_eq_ok_iff]
  unfold place ringCenter at h_routes' ⊢
  rw [h_vertices, h_flags]
  exact ⟨routes', h_routes', rfl⟩

end Network

/-! ### Rearranged networks -/

section Rearranged

variable {net : Network} {σ : Equiv.Perm (Fin net.edges.length)}

/-- An edge is kept in its place after the move if it is kept in its place before. -/
theorem mem_placedEdges_rearranged (h : KeepsPairs net.edges σ) {simple : Bool}
    {bent : Edge × Bend} {i : Fin net.edges.length} :
    (bent, (σ i : Nat)) ∈ placedEdges simple (rearranged net.edges σ) ↔
      (bent, (i : Nat)) ∈ placedEdges simple net.edges := by
  rw [mem_placedEdges, mem_placedEdges, getElem?_zip_bends_rearranged h]

/-- The same edges are drawn before and after. -/
theorem mem_drawnPlaces_rearranged (h : KeepsPairs net.edges σ) (i : Fin net.edges.length) :
    (σ i : Nat) ∈ (net.rearranged σ).drawnPlaces ↔ (i : Nat) ∈ net.drawnPlaces := by
  unfold Network.drawnPlaces
  simp only [List.mem_map, Prod.exists, exists_eq_right]
  exact exists_congr fun edge => exists_congr fun bend => mem_placedEdges_rearranged h

/-- The kept edges are the same before and after, in another order. -/
theorem keptEdges_rearranged_perm (h : KeepsPairs net.edges σ) (simple : Bool) :
    (keptEdges simple (rearranged net.edges σ)).Perm (keptEdges simple net.edges) :=
  (zip_bends_rearranged_perm h).filter _

variable {α : Type} [Add α] [Sub α] [Mul α] [Div α] [Neg α] [NatCast α] [LT α] [DecidableLT α]
  [BEq α] [Scalar α]

/-- **An edge is drawn as the earlier edges of its pair ask.** Let the edges of a network stand in
another order that keeps the order of the edges of each pair. There is a layout after if there was
one before. The two have the same vertices around the same centre and the same routes in another
order; an edge that is drawn has one route, it is the same before and after, and the edges that are
dropped are the same. -/
theorem layout_rearranged (h : KeepsPairs net.edges σ) (settings : Settings α) (width height : α) :
    ((∃ layout', (net.rearranged σ).layout settings width height = .ok layout') ↔
      ∃ layout, net.layout settings width height = .ok layout) ∧
    ∀ layout layout', net.layout settings width height = .ok layout →
      (net.rearranged σ).layout settings width height = .ok layout' →
      layout' = { layout with edges := layout'.edges } ∧
      layout'.edges.Perm layout.edges ∧
      layout.edges.length = net.drawnPlaces.length ∧
      ∀ i : Fin net.edges.length,
        ((σ i : Nat) ∈ (net.rearranged σ).drawnPlaces ↔ (i : Nat) ∈ net.drawnPlaces) ∧
        ((i : Nat) ∈ net.drawnPlaces →
          ∃! r, net.DrawnBy layout i r ∧ net.edges[(i : Nat)]? = some r.edge) ∧
        ∀ r, (net.rearranged σ).DrawnBy layout' (σ i) r ↔ net.DrawnBy layout i r := by
  have h_kept := keptEdges_rearranged_perm h net.flags.simple
  -- one direction is the other for the network that is moved back
  have h_moved : ∀ layout, net.layout settings width height = .ok layout →
      ∃ routes, (net.rearranged σ).layout settings width height =
        .ok { layout with edges := routes } ∧ routes.Perm layout.edges := fun layout h_layout =>
    Network.exists_layout_of_perm net (net.rearranged σ) rfl rfl h_kept h_layout
  have h_back : ∀ layout', (net.rearranged σ).layout settings width height = .ok layout' →
      ∃ routes, net.layout settings width height = .ok { layout' with edges := routes } ∧
        routes.Perm layout'.edges := fun layout' h_layout' =>
    Network.exists_layout_of_perm (net.rearranged σ) net rfl rfl h_kept.symm h_layout'
  refine ⟨⟨?back, ?moved⟩, fun layout layout' h_layout h_layout' => ?_⟩
  case back =>
    rintro ⟨layout', h_layout'⟩
    obtain ⟨routes, h_layout, -⟩ := h_back layout' h_layout'
    exact ⟨_, h_layout⟩
  case moved =>
    rintro ⟨layout, h_layout⟩
    obtain ⟨routes, h_layout', -⟩ := h_moved layout h_layout
    exact ⟨_, h_layout'⟩
  -- both layouts come from one, so they agree in all but the order of the routes
  obtain ⟨routes, h_routes, h_perm⟩ := h_moved layout h_layout
  obtain rfl := Except.ok.inj (h_layout'.symm.trans h_routes)
  refine ⟨rfl, h_perm, Network.length_edges_of_layout h_layout, fun i => ?_⟩
  refine ⟨mem_drawnPlaces_rearranged h i, Network.existsUnique_drawnBy h_layout, fun r => ?_⟩
  rw [Network.drawnBy_iff h_layout', Network.drawnBy_iff h_layout]
  exact exists_congr fun bent => and_congr_left fun _ => mem_placedEdges_rearranged h

end Rearranged

/-! ### Edges across a square -/

section Quarters

/-- Whole numbers with angles in quarters of a turn. -/
local instance quarters : Scalar Int where
  pi := 2
  length x y := x.natAbs + y.natAbs
  sin a := if a % 4 = 1 then 1 else if a % 4 = 3 then -1 else 0
  cos a := if a % 4 = 0 then 1 else if a % 4 = 2 then -1 else 0
  angle x y := if x < 0 then 2 else if y < 0 then 3 else if 0 < y then 1 else 0
  isFinite _ := true

/-- Two edges across a square, against each other, and a loop between them. -/
private def across : Network where
  flags := {}
  vertices := ["a", "b", "c", "d"].map Vertex.ofName
  edges := [⟨0, 2⟩, ⟨1, 1⟩, ⟨2, 0⟩]
  within := by
    unfold Edge.Within
    decide

/-- The loop comes last instead. -/
private def loopLast : Equiv.Perm (Fin across.edges.length) :=
  Equiv.swap ⟨1, by decide⟩ ⟨2, by decide⟩

/-- The second edge across is bent away from the first, wherever the loop stands. -/
theorem layout_rearranged_loop_last :
    KeepsPairs across.edges loopLast ∧
      (across.rearranged loopLast).edges = [⟨0, 2⟩, ⟨2, 0⟩, ⟨1, 1⟩] ∧
      ∃ layout layout' r,
        across.layout (Settings.standard : Settings Int) 300 300 = .ok layout ∧
        (across.rearranged loopLast).layout (Settings.standard : Settings Int) 300 300 =
          .ok layout' ∧
        across.DrawnBy layout 2 r ∧ (across.rearranged loopLast).DrawnBy layout' 1 r ∧
        r.bend = 1 ∧ r.reversed = true := by
  have h : KeepsPairs across.edges loopLast := by
    unfold KeepsPairs loopLast
    decide
  have h_bends : across.edges.zip (bends across.edges) =
      across.edges.zip (bendsAfter [] across.edges) := by rw [bends_eq]
  obtain ⟨layout, h_layout⟩ : ∃ layout,
      across.layout (Settings.standard : Settings Int) 300 300 = .ok layout := by
    have h_kept := (keptEdges_plain across.edges).trans h_bends
    rw [Network.layout_eq, show across.flags.simple = false from rfl, h_kept]
    exact ⟨_, rfl⟩
  -- the second edge across is turned round to run as the first does
  obtain ⟨r, h_route, h_bend, h_reversed⟩ : ∃ r,
      Route.among (across.place (Settings.standard : Settings Int) 300 300)
        (across.ringCenter (Settings.standard : Settings Int) 300 300)
        (Settings.standard : Settings Int).bendiness (⟨2, 0⟩, ⟨1, ⟨0, 2⟩, true⟩) = .ok r ∧
      r.bend = 1 ∧ r.reversed = true := ⟨_, rfl, rfl, rfl⟩
  have h_placed : (((⟨2, 0⟩, ⟨1, ⟨0, 2⟩, true⟩) : Edge × Bend), 2) ∈
      placedEdges across.flags.simple across.edges := by
    rw [mem_placedEdges, h_bends]
    decide
  have h_drawn : across.DrawnBy layout 2 r :=
    (Network.drawnBy_iff h_layout).2 ⟨_, h_placed, h_route⟩
  have h_same := layout_rearranged h (Settings.standard : Settings Int) 300 300
  obtain ⟨layout', h_layout'⟩ := h_same.1.2 ⟨layout, h_layout⟩
  obtain ⟨-, -, h_iff⟩ := (h_same.2 layout layout' h_layout h_layout').2.2.2 ⟨2, by decide⟩
  exact ⟨h, rfl, layout, layout', r, h_layout, h_layout', h_drawn, (h_iff r).2 h_drawn, h_bend,
    h_reversed⟩

end Quarters

end RingDiagram
