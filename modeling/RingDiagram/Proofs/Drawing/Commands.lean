import RingDiagram.Drawing.Painting
import RingDiagram.Proofs.Graph.Loading
import RingDiagram.Proofs.Layout.FirstEdges
import RingDiagram.Proofs.Layout.Routing

/-!
# The commands of a drawing

A drawing goes from a model to its layout, from there to commands, and is refused as a whole if one
of these is not finite. So there are two things to say of it.

* `Paints` says what the commands are like that a layout comes to, and `paints_commands` that they
  are: the background, one stroke for every route with an arrowhead behind it if the model is
  directed, and one disc for every visible vertex. Nothing is lost on the way from the model, so
  their number is known beforehand.
* `Command.isFinite_iff` and `Command.mem_numbers_iff` say what is looked at before a command is let
  through: all numbers that it carries, apart from the thickness of a ring. A ring that is not
  finite in its thickness alone is let through, where a line or an arc would be refused.

`drawing_exact` puts the two together: what a drawing is like that succeeds, and which command it is
that a drawing is refused for.
-/

namespace RingDiagram

open Scalar

/-! ### What is looked at -/

section Numbers

variable {α : Type}

/-- The coordinates of a point. -/
def Point.numbers (p : Point α) : List α :=
  [p.x, p.y]

/-- The numbers that a command carries. -/
def Command.numbers : Command α → List α
  | .background _ => []
  | .circle center radius _ => center.numbers ++ [radius]
  | .line start finish _ thickness => start.numbers ++ finish.numbers ++ [thickness]
  | .arc center radius startAngle endAngle _ thickness =>
    center.numbers ++ [radius, startAngle, endAngle, thickness]
  | .ring center radius _ thickness => center.numbers ++ [radius, thickness]
  | .polygon points _ => points.flatMap Point.numbers

/-- The numbers of a command that are looked at: all but the thickness of a ring. -/
def Command.checked : Command α → List α
  | .ring center radius _ _ => center.numbers ++ [radius]
  | c => c.numbers

/-- What is not looked at is the thickness of a ring, and nothing else. -/
theorem Command.mem_numbers_iff {c : Command α} {a : α} :
    a ∈ c.numbers ↔ a ∈ c.checked ∨ ∃ center radius paint, c = .ring center radius paint a := by
  cases c with
  | ring center radius paint thickness =>
    simp [Command.numbers, Command.checked, Point.numbers, or_assoc, eq_comm]
  | background | circle | line | arc | polygon => simp [Command.checked]

variable [Scalar α]

theorem Point.isFinite_iff {p : Point α} :
    p.isFinite = true ↔ ∀ a ∈ p.numbers, Scalar.isFinite a = true := by
  simp [Point.isFinite, Point.numbers]

/-- **A command is let through** when all numbers are finite that are looked at. -/
theorem Command.isFinite_iff {c : Command α} :
    c.isFinite = true ↔ ∀ a ∈ c.checked, Scalar.isFinite a = true := by
  -- a polygon has a list of points, and all other commands a fixed number of numbers
  cases c with
  | background | circle | line | arc | ring =>
    simp [Command.isFinite, Command.checked, Command.numbers, Point.isFinite_iff, or_imp,
      forall_and, and_assoc]
  | polygon points paint =>
    change points.all Point.isFinite = true ↔ ∀ a ∈ points.flatMap Point.numbers, _
    rw [List.all_eq_true, List.forall_mem_flatMap]
    exact forall₂_congr fun p _ => Point.isFinite_iff

/-- A number of the command that is not finite is the thickness of a ring, and this one. -/
def Command.FiniteUpTo (thickness : α) (c : Command α) : Prop :=
  ∀ a ∈ c.numbers, Scalar.isFinite a = false → c.kind = .ring ∧ a = thickness

/-- A command that is refused carries a number that is not finite. -/
theorem Command.exists_of_isFinite_eq_false {c : Command α} (h : c.isFinite = false) :
    ∃ a ∈ c.numbers, Scalar.isFinite a = false := by
  have h_not : ¬ ∀ a ∈ c.checked, Scalar.isFinite a = true := by
    -- by the law of what is let through, not all numbers that are looked at are finite
    rw [← Command.isFinite_iff, h]
    exact Bool.false_ne_true
  push Not at h_not
  obtain ⟨a, h_a, h_infinite⟩ := h_not
  exact ⟨a, Command.mem_numbers_iff.2 (Or.inl h_a), Bool.eq_false_of_not_eq_true h_infinite⟩

/-- A command that is let through is finite up to the thickness that it has if it is a ring. -/
theorem Command.finiteUpTo_of_isFinite {c : Command α} {thickness : α} (h : c.isFinite = true)
    (h_ring : ∀ center radius paint t, c = .ring center radius paint t → t = thickness) :
    c.FiniteUpTo thickness := by
  intro a h_a h_infinite
  rcases Command.mem_numbers_iff.1 h_a with h_checked | ⟨center, radius, paint, h_c⟩
  · -- a number that was looked at would not have been let through
    have h_finite : Scalar.isFinite a = true := Command.isFinite_iff.1 h a h_checked
    rw [h_finite] at h_infinite
    cases h_infinite
  · -- the one number that is not looked at is the thickness of a ring
    refine ⟨?_, h_ring center radius paint a h_c⟩
    rw [h_c]
    rfl

/-- **A list of commands** is refused for the first of them that is not let through. -/
theorem allFinite_eq_error_iff {commands : List (Command α)} {e : RenderError} :
    allFinite commands = .error e ↔
      ∃ before c after, commands = before ++ c :: after ∧ (∀ b ∈ before, b.isFinite = true) ∧
        c.isFinite = false ∧ e = .surface (.notFinite c.kind) := by
  unfold allFinite
  constructor
  · intro h
    split at h
    · next c h_find =>
      -- what is found first is in front of the rest, and nothing before it has the property
      obtain ⟨h_c, before, after, h_split, h_before⟩ := List.find?_eq_some_iff_append.1 h_find
      cases h
      refine ⟨before, c, after, h_split, fun b h_b => ?_, by simpa using h_c, rfl⟩
      simpa using h_before b h_b
    · cases h
  · rintro ⟨before, c, after, rfl, h_before, h_c, rfl⟩
    have h_find : (before ++ c :: after).find? (!·.isFinite) = some c := by
      refine List.find?_eq_some_iff_append.2 ⟨by simp [h_c], before, after, rfl, fun b h_b => ?_⟩
      simp [h_before b h_b]
    rw [h_find]

theorem allFinite_eq_ok_iff {commands kept : List (Command α)} :
    allFinite commands = .ok kept ↔ kept = commands ∧ ∀ c ∈ commands, c.isFinite = true := by
  unfold allFinite
  -- either a command is refused, and then not all are let through, or none is
  cases h_find : commands.find? (!·.isFinite) with
  | some c =>
    have h_c : c.isFinite = false := by simpa using List.find?_some h_find
    refine ⟨fun h => ?_, fun h => ?_⟩
    · cases h
    · rw [h.2 c (List.mem_of_find?_eq_some h_find)] at h_c
      cases h_c
  | none =>
    have h_all : ∀ c ∈ commands, c.isFinite = true := by
      simpa using List.find?_eq_none.1 h_find
    refine ⟨fun h => ⟨(Except.ok.inj h).symm, h_all⟩, fun h => ?_⟩
    rw [h.1]

end Numbers

/-! ### What is painted -/

section Shapes

variable {α : Type} {settings : Settings α}

/-- The command that paints a stroke: it is of the kind of the stroke and has the same geometry. -/
inductive Stroke.PaintedBy (settings : Settings α) : Stroke α → Command α → Prop
  | line (start finish : Point α) :
    PaintedBy settings (.straight start finish)
      (.line start finish settings.edgeColor settings.edgeThickness)
  | arc (circle : Circle α) (startAngle endAngle : α) :
    PaintedBy settings (.arc circle startAngle endAngle)
      (.arc circle.center circle.radius startAngle endAngle settings.edgeColor
        settings.edgeThickness)
  | ring (circle : Circle α) :
    PaintedBy settings (.loop circle)
      (.ring circle.center circle.radius settings.edgeColor settings.edgeThickness)

/-- The disc in a slot of a layout. -/
def Layout.HasDisc (settings : Settings α) (layout : Layout α) (slot : Nat)
    (disc : Command α) : Prop :=
  ∃ v, layout.vertices[slot]? = some v ∧
    disc = .circle v.position settings.vertexRadius settings.vertexColor

theorem Stroke.paintedBy_command (s : Stroke α) : s.PaintedBy settings (s.command settings) := by
  cases s with
  | straight start finish => exact .line start finish
  | arc circle startAngle endAngle => exact .arc circle startAngle endAngle
  | loop circle => exact .ring circle

/-- The discs of some vertices in their places are those of the visible ones. -/
theorem flatMap_commands_vertices (place : Nat → Point α) (names : List (String × Nat)) :
    (names.map fun v => (⟨v.2, v.1, place v.2, !invisibleName v.1⟩ : PlacedVertex α)).flatMap
        (PlacedVertex.commands settings) =
      ((names.filter fun v => !invisibleName v.1).map (·.2)).map fun slot =>
        .circle (place slot) settings.vertexRadius settings.vertexColor := by
  induction names with
  | nil => rfl
  | cons v names ih =>
    rw [List.map_cons, List.flatMap_cons, ih, PlacedVertex.commands, List.filter_cons]
    -- an invisible vertex has no disc and is not among the visible slots
    cases invisibleName v.1 <;> rfl

/-- **Discs** are painted for the visible vertices, in the order of their slots. -/
theorem Layout.hasDisc_visibleSlots {layout : Layout α} {m : Model} {place : Nat → Point α}
    (h : layout.vertices =
      m.vertices.zipIdx.map fun v => ⟨v.2, v.1, place v.2, !invisibleName v.1⟩) :
    List.Forall₂ (layout.HasDisc settings) m.visibleSlots
      (layout.vertices.flatMap (PlacedVertex.commands settings)) := by
  have h_discs : layout.vertices.flatMap (PlacedVertex.commands settings) =
      m.visibleSlots.map fun slot =>
        .circle (place slot) settings.vertexRadius settings.vertexColor := by
    rw [h, flatMap_commands_vertices]
    rfl
  -- both lists come from the visible slots, so they are compared slot by slot
  rw [h_discs, List.forall₂_map_right_iff, List.forall₂_same]
  intro slot h_slot
  obtain ⟨⟨name, i⟩, h_mem, rfl⟩ := List.mem_map.1 h_slot
  -- a visible slot is the number of a name, and so the place of its vertex
  have h_name : m.vertices[i]? = some name :=
    List.mk_mem_zipIdx_iff_getElem?.1 (List.mem_filter.1 h_mem).1
  refine ⟨⟨i, name, place i, !invisibleName name⟩, ?_, rfl⟩
  rw [h, List.getElem?_map, List.getElem?_zipIdx, h_name]
  simp

variable [Add α] [Sub α] [Mul α] [Div α] [NatCast α] [Scalar α]

/-- The commands that paint a route: its stroke and, if there are arrows, the triangle behind it
that sits on its anchor and points along its heading. -/
inductive Route.PaintedBy (settings : Settings α) (r : Route α) : Bool → List (Command α) → Prop
  | plain {stroke : Command α} (h : r.stroke.PaintedBy settings stroke) :
    PaintedBy settings r false [stroke]
  | arrow {stroke : Command α} {corners : List (Point α)}
    (h : r.stroke.PaintedBy settings stroke) (h_three : corners.length = 3)
    (h_corners : corners = arrowCorners r.anchor r.heading settings.arrowSize) :
    PaintedBy settings r true [stroke, .polygon corners settings.edgeColor]

theorem Route.paintedBy_commands (directed : Bool) (r : Route α) :
    r.PaintedBy settings directed (r.commands settings directed) := by
  have h_stroke : r.stroke.PaintedBy settings (r.stroke.command settings) :=
    r.stroke.paintedBy_command
  cases directed with
  | false => exact .plain h_stroke
  | true => exact .arrow h_stroke rfl rfl

theorem length_flatMap_commands (directed : Bool) (routes : List (Route α)) :
    (routes.flatMap (Route.commands settings directed)).length =
      routes.length * if directed then 2 else 1 := by
  -- every route has the same number of commands, an arrowhead or none
  have h_one : ∀ r : Route α,
      (r.commands settings directed).length = if directed then 2 else 1 := by
    intro r
    cases directed <;> rfl
  rw [List.length_flatMap]
  simp [h_one]

/-- The vertices in their places, name by name. -/
theorem placedVertices_ofName (names : List String) (radius : α) (center : Point α) :
    placedVertices (names.map Vertex.ofName)
        (slotPositions (names.map Vertex.ofName).length radius center) =
      names.zipIdx.map fun v =>
        ⟨v.2, v.1, slotPosition (names.map Vertex.ofName).length radius center v.2,
          !invisibleName v.1⟩ := by
  -- name by name, with its number on both sides
  apply List.ext_getElem?
  intro i
  rw [getElem?_placedVertices, List.getElem?_map, List.getElem?_map, List.getElem?_zipIdx]
  cases names[i]? with
  | none => rfl
  | some name => simp [Vertex.ofName]

/-- The only rings are the strokes of loops, and they have the thickness of edges. -/
theorem thickness_of_ring_mem_commands {layout : Layout α} {center : Point α} {radius : α}
    {paint : String} {thickness : α}
    (h : .ring center radius paint thickness ∈ layout.commands settings) :
    thickness = settings.edgeThickness := by
  -- a command of a layout is the background, or belongs to a route, or to a vertex
  rw [Layout.commands, List.mem_cons, List.mem_append, List.mem_flatMap, List.mem_flatMap] at h
  rcases h with h | ⟨r, -, h⟩ | ⟨v, -, h⟩
  · cases h
  · rw [Route.commands, List.mem_cons] at h
    rcases h with h | h
    · -- the stroke of a route is a ring for a loop only
      cases h_stroke : r.stroke with
      | straight | arc =>
        rw [h_stroke] at h
        cases h
      | loop circle =>
        rw [h_stroke] at h
        cases h
        rfl
    · -- behind the stroke stands an arrowhead, if anything
      split at h
      · cases List.mem_singleton.1 h
      · cases h
  · rw [PlacedVertex.commands] at h
    split at h
    · cases List.mem_singleton.1 h
    · cases h

/-- What is let through of a layout is finite up to the thickness of rings. -/
theorem Layout.finiteUpTo_of_isFinite {layout : Layout α} {c : Command α}
    (h_mem : c ∈ layout.commands settings) (h : c.isFinite = true) :
    c.requireFinite = .ok () ∧ c.FiniteUpTo settings.edgeThickness := by
  refine ⟨if_pos h, Command.finiteUpTo_of_isFinite h fun center radius paint t h_c => ?_⟩
  rw [h_c] at h_mem
  exact thickness_of_ring_mem_commands h_mem

end Shapes

variable {α : Type} [Add α] [Sub α] [Mul α] [Div α] [Neg α] [NatCast α] [LT α] [DecidableLT α]
  [BEq α] [Scalar α]

/-- The layout of a model on a surface of the given size. -/
def Model.layout (m : Model) (settings : Settings α) (width height : α) :
    Except RenderError (Layout α) :=
  Network.ofModel? m >>= fun net => net.layout settings width height

/-- A drawing is the commands of a layout, if they are all finite. -/
theorem Model.drawing_eq (m : Model) (settings : Settings α) (width height : α) :
    m.drawing settings width height =
      m.layout settings width height >>= fun layout => allFinite (layout.commands settings) :=
  (bind_assoc _ _ _).symm

/-- The commands paint a model in its layout: the background, then the routes of the edges that are
drawn, then a disc for every visible vertex, and nothing else. -/
structure Paints (settings : Settings α) (m : Model) (layout : Layout α)
    (commands : List (Command α)) : Prop where
  routes : List.Forall₂ (Route.Draws settings.bendiness) (keptEdges m.flags.simple m.edges)
    layout.edges
  order : ∃ parts discs,
    List.Forall₂ (fun r part => r.PaintedBy settings m.flags.directed part) layout.edges parts ∧
    List.Forall₂ (layout.HasDisc settings) m.visibleSlots discs ∧
    commands = .background settings.background :: (parts.flatten ++ discs)
  length : commands.length =
    1 + (if m.flags.simple then (m.edges.map Edge.pair).toFinset.card else m.edges.length) *
      (if m.flags.directed then 2 else 1) + m.visibleCount

/-- **A layout is painted** as a whole, and its model with it. -/
theorem paints_commands {m : Model} {settings : Settings α} {width height : α} {layout : Layout α}
    (h_index : ∀ e ∈ m.edges, e.Within 0x100000000)
    (h : m.layout settings width height = .ok layout) :
    Paints settings m layout (layout.commands settings) := by
  obtain ⟨net, h_net, h_layout⟩ := bind_eq_ok_iff.1 h
  -- the network that is laid out has the flags, names and edges of the model
  obtain ⟨h_flags, h_vertices, h_edges⟩ := Network.eq_of_ofModel? h_index h_net
  have h_routes := Network.draws_of_layout h_layout
  rw [h_flags, h_edges] at h_routes
  -- the vertices of the network are those of the model, so they are placed by the same formula
  have h_laid : layout.directed = m.flags.directed ∧ layout.vertices =
      m.vertices.zipIdx.map fun v =>
        ⟨v.2, v.1, net.place settings width height v.2, !invisibleName v.1⟩ := by
    rw [net.layout_eq] at h_layout
    obtain ⟨routes, -, rfl⟩ := map_eq_ok_iff.1 h_layout
    refine ⟨congrArg Flags.directed h_flags, ?_⟩
    dsimp only
    unfold Network.place
    rw [h_vertices]
    exact placedVertices_ofName m.vertices _ _
  obtain ⟨h_directed, h_placed⟩ := h_laid
  have h_discs : List.Forall₂ (layout.HasDisc settings) m.visibleSlots
      (layout.vertices.flatMap (PlacedVertex.commands settings)) :=
    Layout.hasDisc_visibleSlots h_placed
  refine ⟨h_routes, ?_, ?_⟩
  · refine ⟨layout.edges.map (Route.commands settings m.flags.directed), _, ?_, h_discs, ?_⟩
    · -- the commands of a route are made of it alone, so each part belongs to its route
      rw [List.forall₂_map_right_iff, List.forall₂_same]
      intro r _
      exact r.paintedBy_commands m.flags.directed
    · rw [Layout.commands, h_directed, List.flatMap_def]
  · -- one route for every edge that is kept, one disc for every visible slot
    rw [Layout.commands, h_directed, List.length_cons, List.length_append,
      length_flatMap_commands, ← h_routes.length_eq, ← h_discs.length_eq, length_keptEdges,
      Model.length_visibleSlots]
    omega

/-! ### Whole drawings -/

/-- There is no layout that fails for a drawing target. -/
theorem Model.layout_ne_surface (m : Model) (settings : Settings α) (width height : α)
    (e : SurfaceError) : m.layout settings width height ≠ .error (.surface e) := by
  intro h
  -- the layout fails with a fault of loading, or with that of an edge without a route
  rcases bind_eq_error h with h_net | ⟨net, -, h_layout⟩
  · exact Network.ofModel?_ne_surface m e h_net
  · have h_fault := (net.layout_failsWith settings width height _).1 h_layout
    obtain ⟨bent, -, h_bent⟩ := List.exists_of_findSome?_eq_some h_fault
    cases (routeFault?_eq_some_iff.1 h_bent).2

/-- **Drawings are complete, and refused for what is not finite.** The commands of a drawing are the
background, then for every edge that is drawn its stroke and, if the model is directed, its
arrowhead, then a disc for every visible vertex. None of them carries a number that is not finite,
unless that is the thickness of a ring. A drawing that is refused is refused for a command that
carries a number that is not finite, and all commands before it are as those of a drawing. -/
theorem drawing_exact {m : Model} (h_index : ∀ e ∈ m.edges, e.Within 0x100000000)
    (settings : Settings α) (width height : α) :
    (∀ commands, m.drawing settings width height = .ok commands →
      ∃ layout, m.layout settings width height = .ok layout ∧ Paints settings m layout commands ∧
        ∀ c ∈ commands, c.requireFinite = .ok () ∧ c.FiniteUpTo settings.edgeThickness) ∧
    ∀ kind, m.drawing settings width height = .error (.surface (.notFinite kind)) →
      ∃ layout before c after, m.layout settings width height = .ok layout ∧
        Paints settings m layout (before ++ c :: after) ∧
        c.kind = kind ∧ (∃ a ∈ c.numbers, Scalar.isFinite a = false) ∧
        ∀ b ∈ before, b.requireFinite = .ok () ∧ b.FiniteUpTo settings.edgeThickness := by
  rw [m.drawing_eq]
  refine ⟨fun commands h => ?_, fun kind h => ?_⟩
  · obtain ⟨layout, h_layout, h⟩ := bind_eq_ok_iff.1 h
    -- a drawing that succeeds is the commands of its layout, all of them let through
    obtain ⟨rfl, h_finite⟩ := allFinite_eq_ok_iff.1 h
    refine ⟨layout, h_layout, paints_commands h_index h_layout, fun c h_c => ?_⟩
    exact Layout.finiteUpTo_of_isFinite h_c (h_finite c h_c)
  · rcases bind_eq_error h with h_layout | ⟨layout, h_layout, h⟩
    · -- neither loading nor routing has such an error
      exact absurd h_layout (m.layout_ne_surface settings width height _)
    · obtain ⟨before, c, after, h_split, h_before, h_c, h_kind⟩ := allFinite_eq_error_iff.1 h
      cases h_kind
      -- the commands are painted before they are looked at, so the whole list is known
      have h_paints := paints_commands h_index h_layout
      rw [h_split] at h_paints
      refine ⟨layout, before, c, after, h_layout, h_paints, rfl,
        Command.exists_of_isFinite_eq_false h_c, fun b h_b => ?_⟩
      have h_mem : b ∈ layout.commands settings := by
        rw [h_split]
        exact List.mem_append_left _ h_b
      exact Layout.finiteUpTo_of_isFinite h_mem (h_before b h_b)

/-! ### Drawings over whole numbers -/

section Whole

/-- Whole numbers, those from a thousand on counting as infinite, with all vertices in one place. -/
local instance whole : Scalar Int where
  pi := 2
  length x y := x.natAbs + y.natAbs
  sin _ := 0
  cos _ := 1
  angle _ _ := 0
  isFinite a := a.natAbs < 1000

/-- A loop and a line behind it. -/
private def loopAndLine : Model where
  flags := { directed := true }
  vertices := ["a", "b"]
  edges := [⟨0, 0⟩, ⟨0, 1⟩]

/-- Edges of the given thickness. -/
private def thick (thickness : Int) : Settings Int :=
  { Settings.standard with edgeThickness := thickness }

/-- The commands for them: the ring of the loop comes first, and each stroke has its arrowhead. -/
private def ringAndLine (thickness : Int) : List (Command Int) :=
  [.background "white",
    .ring ⟨310, 200⟩ 10 "black" thickness,
    .polygon [⟨328, 200⟩, ⟨328, 200⟩, ⟨328, 200⟩] "black",
    .line ⟨300, 200⟩ ⟨300, 200⟩ "black" thickness,
    .polygon [⟨308, 200⟩, ⟨308, 200⟩, ⟨308, 200⟩] "black",
    .circle ⟨300, 200⟩ 5 "black",
    .circle ⟨300, 200⟩ 5 "black"]

private theorem loopAndLine_inRange : loopAndLine.InRange := by
  decide

private theorem exists_layout_loopAndLine {thickness : Int}
    (h_thickness : thickness = 1 ∨ thickness = 1000) :
    ∃ layout, loopAndLine.layout (thick thickness) 400 400 = .ok layout ∧
      layout.commands (thick thickness) = ringAndLine thickness := by
  have h_net : Network.ofModel? loopAndLine = .ok (loopAndLine.toNetwork loopAndLine_inRange) := by
    rw [Network.ofModel?_eq loopAndLine_inRange (by decide)]
    rfl
  -- the loop has a pair of its own, so both edges have the first bend
  have h_kept : keptEdges (loopAndLine.toNetwork loopAndLine_inRange).flags.simple
      (loopAndLine.toNetwork loopAndLine_inRange).edges =
        [(⟨0, 0⟩, Bend.first ⟨0, 0⟩), (⟨0, 1⟩, Bend.first ⟨0, 1⟩)] := by
    change keptEdges false loopAndLine.edges = _
    rw [keptEdges_plain, bends_eq]
    rfl
  unfold Model.layout
  rw [h_net]
  change ∃ layout, (loopAndLine.toNetwork loopAndLine_inRange).layout _ _ _ = .ok layout ∧ _
  rw [Network.layout_eq, h_kept]
  refine ⟨_, rfl, ?_⟩
  -- both strokes are whole numbers, so the commands are computed
  rcases h_thickness with rfl | rfl
  · decide
  · decide

/-- With strokes of a finite thickness all seven commands are drawn. -/
theorem drawing_exact_loop_and_line :
    (∀ e ∈ loopAndLine.edges, e.Within 0x100000000) ∧
      loopAndLine.drawing (thick 1) 400 400 = .ok (ringAndLine 1) ∧
      ∃ layout, loopAndLine.layout (thick 1) 400 400 = .ok layout ∧
        Paints (thick 1) loopAndLine layout (ringAndLine 1) ∧ (ringAndLine 1).length = 7 := by
  have h_index : ∀ e ∈ loopAndLine.edges, e.Within 0x100000000 := by decide
  have h_drawing : loopAndLine.drawing (thick 1) 400 400 = .ok (ringAndLine 1) := by
    obtain ⟨layout, h_layout, h_commands⟩ := exists_layout_loopAndLine (.inl rfl)
    rw [Model.drawing_eq, h_layout]
    change allFinite (layout.commands (thick 1)) = _
    rw [h_commands]
    exact allFinite_eq_ok_iff.2 ⟨rfl, by decide⟩
  obtain ⟨layout, h_layout, h_paints, -⟩ := (drawing_exact h_index (thick 1) 400 400).1 _ h_drawing
  exact ⟨h_index, h_drawing, layout, h_layout, h_paints, rfl⟩

/-- With strokes of an infinite thickness the drawing is refused for the line, although the ring is
the first command that carries a number that is not finite. -/
theorem refused_behind_infinite_ring :
    loopAndLine.drawing (thick 1000) 400 400 = .error (.surface (.notFinite .line)) ∧
      ∃ layout, loopAndLine.layout (thick 1000) 400 400 = .ok layout ∧
        (layout.commands (thick 1000)).find? (fun c => !c.numbers.all Scalar.isFinite) =
          some (.ring ⟨310, 200⟩ 10 "black" 1000) := by
  obtain ⟨layout, h_layout, h_commands⟩ := exists_layout_loopAndLine (.inr rfl)
  refine ⟨?_, layout, h_layout, ?_⟩
  · rw [Model.drawing_eq, h_layout]
    change allFinite (layout.commands (thick 1000)) = _
    rw [h_commands]
    rfl
  · rw [h_commands]
    decide

end Whole

end RingDiagram
