import RingDiagram.Layout.Basic
import RingDiagram.Proofs.Layout.History
import RingDiagram.Proofs.Outcome

/-!
# What a layout holds

A layout is made of the places of the slots and the routes of the edges that are drawn, and only the
routes can fail. The table of places is taken out first: every slot of a network has a place
(`Network.place`), an edge is drawn between slots of the network (`within_of_mem_keptEdges`), and so
no lookup of a place fails and routes are found among places that are known for all slots
(`Network.layout_eq`).

What is left is one edge between two places. `HasRoute` says when there is a route, and
`Route.Draws` what a route is like that was found. The layout then fails with the first edge that
has none (`Network.layout_failsWith`), and otherwise holds one route for every edge that is drawn:
`layout_exact`.
-/

namespace RingDiagram

open Scalar

/-! ### The ends of drawn edges -/

/-- The bend of an edge of a sequence is its bend after some earlier edges. -/
theorem exists_earlier_of_mem_zip_bends {edges : List Edge} {bent : Edge × Bend}
    (h : bent ∈ edges.zip (bends edges)) : ∃ earlier, bent.2 = Bend.after earlier bent.1 := by
  obtain ⟨k, h_k⟩ := List.mem_iff_getElem?.1 h
  obtain ⟨h_edge, h_bend⟩ := List.getElem?_zip_eq_some.1 h_k
  -- the bend of the k-th edge is counted after the k edges before it
  rw [bends_eq, getElem?_bendsAfter, h_edge] at h_bend
  exact ⟨_, (Option.some.inj h_bend).symm⟩

/-- An edge is drawn between the vertices that it joins, in one direction or the other. -/
theorem within_of_mem_keptEdges {count : Nat} {simple : Bool} {edges : List Edge}
    (h : ∀ e ∈ edges, e.Within count) :
    ∀ bent ∈ keptEdges simple edges, bent.2.drawn.Within count := by
  intro bent h_bent
  have h_zip : bent ∈ edges.zip (bends edges) := List.mem_of_mem_filter h_bent
  have h_within : bent.1.Within count := h bent.1 (List.of_mem_zip h_zip).1
  -- an edge is drawn in the direction of its first mate, which is its own or the reverse
  obtain ⟨earlier, h_after⟩ := exists_earlier_of_mem_zip_bends h_zip
  rw [h_after]
  change (firstMate bent.1 earlier).Within count
  rcases firstMate_cases bent.1 earlier with h_same | h_reverse
  · rw [h_same]
    exact h_within
  · rw [h_reverse]
    exact ⟨h_within.2, h_within.1⟩

/-! ### Places -/

section Places

variable {α : Type} [Add α] [Sub α] [Mul α] [Div α] [NatCast α] [Scalar α]

theorem length_slotPositions (slots : Nat) (radius : α) (center : Point α) :
    (slotPositions slots radius center).length = slots := by
  rw [slotPositions, List.length_map, List.length_range]

/-- Every slot has a place. -/
theorem positionOf_slotPositions {slots slot : Nat} (h : slot < slots) (radius : α)
    (center : Point α) :
    positionOf (slotPositions slots radius center).toArray slot =
      .ok (slotPosition slots radius center slot) := by
  unfold positionOf slotPositions
  simp [h]

/-- The vertices in their places, one in each slot. -/
theorem getElem?_placedVertices (vertices : List Vertex) (radius : α) (center : Point α) (i : Nat) :
    (placedVertices vertices (slotPositions vertices.length radius center))[i]? =
      vertices[i]?.map fun v =>
        ⟨i, v.name, slotPosition vertices.length radius center i, v.visible⟩ := by
  unfold placedVertices
  rw [List.getElem?_map, List.getElem?_zipIdx]
  -- in a slot both lists have an entry, and behind the last slot neither has
  by_cases h : i < vertices.length
  · have h_place : (slotPositions vertices.length radius center)[i]? =
        some (slotPosition vertices.length radius center i) := by
      simp [slotPositions, h]
    have h_zip : (vertices.zip (slotPositions vertices.length radius center))[i]? =
        some (vertices[i], slotPosition vertices.length radius center i) :=
      List.getElem?_zip_eq_some.2 ⟨List.getElem?_eq_getElem h, h_place⟩
    rw [h_zip, List.getElem?_eq_getElem h]
    simp
  · have h_none : vertices[i]? = none := List.getElem?_eq_none (Nat.le_of_not_lt h)
    simp [List.zip, List.getElem?_zipWith, h_none]

theorem length_placedVertices (vertices : List Vertex) (radius : α) (center : Point α) :
    (placedVertices vertices (slotPositions vertices.length radius center)).length =
      vertices.length := by
  simp [placedVertices, length_slotPositions]

end Places

variable {α : Type} [Add α] [Sub α] [Mul α] [Div α] [Neg α] [NatCast α] [LT α] [DecidableLT α]
  [BEq α] [Scalar α]

namespace Network

/-- The centre of the ring on a surface of the given size. -/
def ringCenter (net : Network) (settings : Settings α) (width height : α) : Point α :=
  balancedCenter net.vertices.length settings.ringRadius ⟨width / nat 2, height / nat 2⟩

/-- The place of a slot on a surface of the given size. -/
def place (net : Network) (settings : Settings α) (width height : α) (slot : Nat) : Point α :=
  slotPosition net.vertices.length settings.ringRadius (net.ringCenter settings width height) slot

section Congr

variable {net net' : Network} {settings : Settings α} {width height : α}
  (h_count : net'.vertices.length = net.vertices.length)
include h_count
omit [Neg α]

/-- The centre of the ring goes by the number of vertices. -/
theorem ringCenter_congr :
    net'.ringCenter settings width height = net.ringCenter settings width height := by
  unfold ringCenter
  rw [h_count]

/-- A place goes by the number of vertices. -/
theorem place_congr : net'.place settings width height = net.place settings width height := by
  funext slot
  unfold place
  rw [h_count, ringCenter_congr h_count]

end Congr

end Network

/-! ### Routes among places -/

/-- The route of an edge among places that are known for all slots. -/
def Route.among (place : Nat → Point α) (center : Point α) (bendiness : α) (bent : Edge × Bend) :
    Except RenderError (Route α) :=
  let start := place bent.2.drawn.source
  let finish := place bent.2.drawn.target
  if bent.1.isLoop then .ok (Route.ofLoop center start bendiness bent.1 bent.2)
  else Route.between start finish bendiness bent.1 bent.2

/-- An edge between slots is routed among their places. -/
theorem Route.of_eq_among {slots : Nat} {bent : Edge × Bend} (h : bent.2.drawn.Within slots)
    (radius bendiness : α) (ring center : Point α) :
    Route.of (slotPositions slots radius ring).toArray center bendiness bent =
      Route.among (slotPosition slots radius ring) center bendiness bent := by
  obtain ⟨edge, bend⟩ := bent
  unfold Route.of
  dsimp only
  -- both ends of the drawn edge are slots, so neither lookup fails
  rw [positionOf_slotPositions h.1, positionOf_slotPositions h.2]
  rfl

/-- Routes are found in a table of places that has the ends of the edge, whatever stands for the
places that it does not have. -/
theorem Route.of_eq_among_getD {positions : Array (Point α)} {bent : Edge × Bend}
    {start finish : Point α} (h_start : positions[bent.2.drawn.source]? = some start)
    (h_finish : positions[bent.2.drawn.target]? = some finish) (center : Point α) (bendiness : α)
    (other : Point α) :
    positions.getD bent.2.drawn.source other = start ∧
      positions.getD bent.2.drawn.target other = finish ∧
      Route.of positions center bendiness bent =
        Route.among (positions.getD · other) center bendiness bent := by
  have h_source : positions.getD bent.2.drawn.source other = start := by
    rw [Array.getD_eq_getD_getElem?, h_start, Option.getD_some]
  have h_target : positions.getD bent.2.drawn.target other = finish := by
    rw [Array.getD_eq_getD_getElem?, h_finish, Option.getD_some]
  refine ⟨h_source, h_target, ?_⟩
  -- both ways to look a place up answer with the two points
  obtain ⟨edge, bend⟩ := bent
  unfold Route.of positionOf Route.among
  dsimp only at h_start h_finish h_source h_target ⊢
  rw [h_start, h_finish, h_source, h_target]
  rfl

/-- **The layout of a network**: the vertices in their places, and the routes of the edges that are
drawn, if all of them have one. -/
theorem Network.layout_eq (net : Network) (settings : Settings α) (width height : α) :
    net.layout settings width height =
      ((keptEdges net.flags.simple net.edges).mapM
        (Route.among (net.place settings width height) (net.ringCenter settings width height)
          settings.bendiness)).map fun routes =>
        { width, height
          center := net.ringCenter settings width height
          vertices := placedVertices net.vertices (slotPositions net.vertices.length
            settings.ringRadius (net.ringCenter settings width height))
          edges := routes
          directed := net.flags.directed } := by
  -- routes are looked for between slots only, so the table of places may be replaced by the formula
  have h_within : ∀ bent ∈ keptEdges net.flags.simple net.edges,
      bent.2.drawn.Within net.vertices.length := within_of_mem_keptEdges net.within
  have h_routes := mapM_congr fun bent h_bent =>
    Route.of_eq_among (h_within bent h_bent) settings.ringRadius settings.bendiness
      (net.ringCenter settings width height) (net.ringCenter settings width height)
  unfold Network.layout
  change (List.mapM (Route.of (slotPositions net.vertices.length settings.ringRadius
    (net.ringCenter settings width height)).toArray (net.ringCenter settings width height)
    settings.bendiness) (keptEdges net.flags.simple net.edges) >>= fun routes => .ok _) = _
  rw [h_routes, bind_ok_eq_map]
  rfl

/-! ### One edge -/

/-- An edge has a route between its places: it is a loop, or it is not moved off the straight line,
or there is a circle through both places and the point that it is moved to. -/
def HasRoute (place : Nat → Point α) (bendiness : α) (bent : Edge × Bend) : Prop :=
  let start := place bent.2.drawn.source
  let finish := place bent.2.drawn.target
  let d := bendDisplacement bent.2.index bendiness false
  bent.1.isLoop = true ∨ (d == nat 0) = true ∨
    ∃ normal circle, Point.normal? start finish = some normal ∧
      Circle.through? start finish (start.midpoint finish + normal.scale d) = some circle

/-- What a route is like that draws an edge: it is about the edge as the model has it, with the bend
of the edge and the displacement that goes with it, and its stroke is a circle for a loop, a
straight line for an edge between two vertices that is not displaced, and an arc for any other. -/
structure Route.Draws (bendiness : α) (bent : Edge × Bend) (r : Route α) : Prop where
  edge : r.edge = bent.1
  bend : r.bend = bent.2.index
  reversed : r.reversed = bent.2.reversed
  displacement : r.displacement = bendDisplacement bent.2.index bendiness bent.1.isLoop
  loop : (∃ circle, r.stroke = .loop circle) ↔ bent.1.isLoop = true
  straight : (∃ start finish, r.stroke = .straight start finish) ↔
    bent.1.isLoop = false ∧ (r.displacement == nat 0) = true
  arc : (∃ circle startAngle endAngle, r.stroke = .arc circle startAngle endAngle) ↔
    bent.1.isLoop = false ∧ (r.displacement == nat 0) = false

/-- There is no curve exactly when the edge is displaced and no circle fits. -/
theorem curve?_eq_none_iff {start finish : Point α} {d : α} :
    curve? start finish d = none ↔
      ¬ ((d == nat 0) = true ∨ ∃ normal circle, Point.normal? start finish = some normal ∧
        Circle.through? start finish (start.midpoint finish + normal.scale d) = some circle) := by
  unfold curve?
  -- a curve is missing only off the straight line, for want of a normal or of a circle
  cases d == nat 0 with
  | true => simp
  | false =>
    cases h_normal : Point.normal? start finish with
    | none => simp
    | some normal =>
      cases h_circle : Circle.through? start finish (start.midpoint finish + normal.scale d) with
      | none => simp [h_circle]
      | some circle => simp [h_circle]

/-- A curve is a straight line if the edge is not displaced, and an arc otherwise. -/
theorem stroke_of_curve? {start finish anchor : Point α} {d : α} {stroke : Stroke α}
    (h : curve? start finish d = some (anchor, stroke)) :
    ((d == nat 0) = true ∧ ∃ p q, stroke = .straight p q) ∨
      (d == nat 0) = false ∧ ∃ circle a b, stroke = .arc circle a b := by
  unfold curve? at h
  cases h_d : d == nat 0 with
  | true =>
    rw [h_d, if_pos rfl] at h
    cases h
    exact Or.inl ⟨rfl, _, _, rfl⟩
  | false =>
    rw [h_d, if_neg Bool.false_ne_true] at h
    obtain ⟨normal, -, h⟩ := Option.bind_eq_some_iff.1 h
    obtain ⟨circle, -, h⟩ := Option.bind_eq_some_iff.1 h
    refine Or.inr ⟨rfl, ?_⟩
    -- either order of the ends makes an arc
    split at h
    · cases h
      exact ⟨_, _, _, rfl⟩
    · cases h
      exact ⟨_, _, _, rfl⟩

/-- The error of an edge that has no route. -/
def routeFault? (place : Nat → Point α) (bendiness : α) (bent : Edge × Bend) :
    Option RenderError :=
  let start := place bent.2.drawn.source
  let finish := place bent.2.drawn.target
  if bent.1.isLoop then none
  else
    match curve? start finish (bendDisplacement bent.2.index bendiness false) with
    | some _ => none
    | none => some (.noArc bent.1.source bent.1.target)

variable {place : Nat → Point α} {center : Point α} {bendiness : α} {bent : Edge × Bend}

theorem routeFault?_eq_none_iff :
    routeFault? place bendiness bent = none ↔ HasRoute place bendiness bent := by
  unfold routeFault? HasRoute
  cases bent.1.isLoop with
  -- a loop always has a route, any other edge has one when there is a curve
  | true => simp
  | false =>
    dsimp only
    rw [if_neg Bool.false_ne_true]
    cases h_curve : curve? (place bent.2.drawn.source) (place bent.2.drawn.target)
        (bendDisplacement bent.2.index bendiness false) with
    | none =>
      have h_none := curve?_eq_none_iff.1 h_curve
      simpa using h_none
    | some curve =>
      have h_some : ¬ curve? (place bent.2.drawn.source) (place bent.2.drawn.target)
          (bendDisplacement bent.2.index bendiness false) = none := by
        rw [h_curve]
        exact Option.some_ne_none curve
      rw [curve?_eq_none_iff, not_not] at h_some
      exact ⟨fun _ => Or.inr h_some, fun _ => rfl⟩

theorem routeFault?_eq_some_iff {e : RenderError} :
    routeFault? place bendiness bent = some e ↔
      ¬ HasRoute place bendiness bent ∧ e = .noArc bent.1.source bent.1.target := by
  rw [← routeFault?_eq_none_iff]
  unfold routeFault?
  dsimp only
  split
  · simp
  · split
    · simp
    · simp [eq_comm]

/-- **One edge** fails exactly when it has no route. -/
theorem Route.among_failsWith (place : Nat → Point α) (center : Point α) (bendiness : α)
    (bent : Edge × Bend) :
    FailsWith (Route.among place center bendiness bent) (routeFault? place bendiness bent) := by
  unfold Route.among routeFault?
  -- a loop cannot fail, any other edge fails where there is no curve
  refine .ite (fun _ => .ok _) fun _ => ?_
  unfold Route.between
  dsimp only
  cases curve? (place bent.2.drawn.source) (place bent.2.drawn.target)
      (bendDisplacement bent.2.index bendiness false) with
  | none => exact .error _
  | some curve => exact .ok _

/-- An edge is drawn by a route exactly when it has one. -/
theorem Route.exists_among_iff :
    (∃ r, Route.among place center bendiness bent = .ok r) ↔ HasRoute place bendiness bent := by
  rw [(Route.among_failsWith place center bendiness bent).exists_ok_iff, routeFault?_eq_none_iff]

/-- **One edge** that has a route is drawn by it. -/
theorem Route.draws_of_among {r : Route α} (h : Route.among place center bendiness bent = .ok r) :
    Route.Draws bendiness bent r := by
  unfold Route.among at h
  dsimp only at h
  split at h
  · next h_loop =>
    cases h
    constructor
    -- the bend of a loop is measured as such
    case displacement =>
      rw [h_loop]
      rfl
    case edge | bend | reversed => rfl
    case loop | straight | arc => simp [ofLoop, h_loop]
  · -- an edge between two vertices has one of two strokes, by whether it is displaced
    next h_loop =>
    rw [Bool.not_eq_true] at h_loop
    unfold Route.between at h
    dsimp only at h
    split at h
    · cases h
    · next anchor stroke h_curve =>
      cases h
      constructor
      case displacement => rw [h_loop]
      case edge | bend | reversed => rfl
      case loop | straight | arc =>
        rcases stroke_of_curve? h_curve with ⟨h_d, p, q, rfl⟩ | ⟨h_d, circle, a, b, rfl⟩
        · simp [h_loop, h_d]
        · simp [h_loop, h_d]

/-! ### The whole layout -/

/-- **A layout** fails with the first of the edges to be drawn that has no route. -/
theorem Network.layout_failsWith (net : Network) (settings : Settings α) (width height : α) :
    FailsWith (net.layout settings width height)
      ((keptEdges net.flags.simple net.edges).findSome?
        (routeFault? (net.place settings width height) settings.bendiness)) := by
  -- the vertices and the rest cannot fail, so the fault is that of the routes
  rw [net.layout_eq]
  exact (FailsWith.mapM fun bent _ => Route.among_failsWith _ _ _ bent).map _

section Layouts

variable {net : Network} {settings : Settings α} {width height : α} {layout : Layout α}

/-- A layout has its centre in that of the ring. -/
theorem Network.center_of_layout (h : net.layout settings width height = .ok layout) :
    layout.center = net.ringCenter settings width height := by
  rw [net.layout_eq] at h
  obtain ⟨routes, -, rfl⟩ := map_eq_ok_iff.1 h
  rfl

/-- The vertices of a layout are where the slots of the ring are. -/
theorem Network.positions_of_layout (h : net.layout settings width height = .ok layout) :
    layout.vertices.map PlacedVertex.position =
      slotPositions net.vertices.length settings.ringRadius layout.center := by
  rw [net.layout_eq] at h
  obtain ⟨routes, -, rfl⟩ := map_eq_ok_iff.1 h
  set positions := slotPositions net.vertices.length settings.ringRadius
    (net.ringCenter settings width height)
  have h_length : positions.length ≤ net.vertices.length :=
    Nat.le_of_eq (length_slotPositions _ _ _)
  -- numbering the pairs and forgetting the vertices leaves the places
  calc (placedVertices net.vertices positions).map PlacedVertex.position
      = ((net.vertices.zip positions).zipIdx.map Prod.fst).map Prod.snd := by
        rw [placedVertices, List.map_map, List.map_map]
        rfl
    _ = (net.vertices.zip positions).map Prod.snd := by rw [List.zipIdx_map_fst]
    _ = positions := List.map_snd_zip h_length

/-- There is a layout if all edges that are kept have a route. -/
theorem Network.exists_layout
    (h : ∀ bent ∈ keptEdges net.flags.simple net.edges,
      HasRoute (net.place settings width height) settings.bendiness bent) :
    ∃ layout, net.layout settings width height = .ok layout := by
  -- no kept edge has a fault, so there is none to be found
  rw [(net.layout_failsWith settings width height).exists_ok_iff, List.findSome?_eq_none_iff]
  exact fun bent h_bent => routeFault?_eq_none_iff.2 (h bent h_bent)

/-- The routes of a layout draw the edges that are kept, in order. -/
theorem Network.draws_of_layout (h : net.layout settings width height = .ok layout) :
    List.Forall₂ (Route.Draws settings.bendiness) (keptEdges net.flags.simple net.edges)
      layout.edges := by
  rw [net.layout_eq] at h
  obtain ⟨routes, h_routes, rfl⟩ := map_eq_ok_iff.1 h
  exact (mapM_eq_ok_iff.1 h_routes).imp fun bent r h_r => Route.draws_of_among h_r

end Layouts

/-- **There is no layout** because of the first of the edges to be drawn that has no route. -/
theorem Network.layout_eq_error_iff {net : Network} {settings : Settings α} {width height : α}
    {e : RenderError} :
    net.layout settings width height = .error e ↔
      ∃ before edge bend after,
        keptEdges net.flags.simple net.edges = before ++ (edge, bend) :: after ∧
        (∀ bent ∈ before, HasRoute (net.place settings width height) settings.bendiness bent) ∧
        ¬ HasRoute (net.place settings width height) settings.bendiness (edge, bend) ∧
        e = .noArc edge.source edge.target := by
  rw [net.layout_failsWith settings width height e, List.findSome?_eq_some_iff]
  constructor
  · rintro ⟨before, ⟨edge, bend⟩, after, h_split, h_fault, h_before⟩
    obtain ⟨h_none, h_e⟩ := routeFault?_eq_some_iff.1 h_fault
    refine ⟨before, edge, bend, after, h_split, fun bent h_bent => ?_, h_none, h_e⟩
    exact routeFault?_eq_none_iff.1 (h_before bent h_bent)
  · rintro ⟨before, edge, bend, after, h_split, h_before, h_none, h_e⟩
    refine ⟨before, (edge, bend), after, h_split, routeFault?_eq_some_iff.2 ⟨h_none, h_e⟩, ?_⟩
    intro bent h_bent
    exact routeFault?_eq_none_iff.2 (h_before bent h_bent)

/-- **Layouts are well formed and faithful.** No lookup of a vertex fails. A layout holds one vertex
for every slot, with its number, its name, its place on the ring and whether it is visible, and, in
the order of the model, one route for every edge whose bend is not dropped by the `simple` flag. If
there is no layout, that is because of the first of these edges that has no route, and the error
gives its ends as the model has them. -/
theorem layout_exact (net : Network) (settings : Settings α) (width height : α) :
    (∀ index count, net.layout settings width height ≠ .error (.noSuchVertex index count)) ∧
    (∀ layout, net.layout settings width height = .ok layout →
      layout.width = width ∧ layout.height = height ∧
      layout.center = net.ringCenter settings width height ∧
      layout.directed = net.flags.directed ∧
      layout.vertices.length = net.vertices.length ∧
      (∀ (i : Nat) (v : Vertex), net.vertices[i]? = some v →
        layout.vertices[i]? =
          some ⟨i, v.name, net.place settings width height i, v.visible⟩) ∧
      List.Forall₂ (Route.Draws settings.bendiness) (keptEdges net.flags.simple net.edges)
        layout.edges) ∧
    ∀ e, net.layout settings width height = .error e ↔
      ∃ before edge bend after,
        keptEdges net.flags.simple net.edges = before ++ (edge, bend) :: after ∧
        (∀ bent ∈ before, HasRoute (net.place settings width height) settings.bendiness bent) ∧
        ¬ HasRoute (net.place settings width height) settings.bendiness (edge, bend) ∧
        e = .noArc edge.source edge.target := by
  refine ⟨fun index count h => ?_, fun layout h => ?_, fun _ => Network.layout_eq_error_iff⟩
  · -- the one error that there is speaks of an arc
    obtain ⟨before, edge, bend, after, -, -, -, h_e⟩ := Network.layout_eq_error_iff.1 h
    cases h_e
  · have h_draws := Network.draws_of_layout h
    rw [net.layout_eq] at h
    obtain ⟨routes, h_routes, rfl⟩ := map_eq_ok_iff.1 h
    refine ⟨rfl, rfl, rfl, rfl, length_placedVertices _ _ _, fun i v h_v => ?_, h_draws⟩
    dsimp only
    rw [getElem?_placedVertices, h_v]
    rfl

end RingDiagram
