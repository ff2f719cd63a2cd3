import RingDiagram.Proofs.Drawing.Simplification

/-!
# Names and places

A vertex has its place by its number, whatever it is called and whether it is drawn. So models that
differ in names only (`Model.Alike`) put everything in the same places.

Names are looked at when a model is loaded, because an edge must not end at an invisible vertex, and
when it is painted. In between they are handed on.

* Of two networks that differ in names only the layouts have everything in common but the vertices
  (`Network.layout_alike`), and these have the same places (`Network.places_placed`).
* Vertices are painted as discs and nothing else is, so all other commands are the same
  (`Layout.SamePlaces.filter_commands`).
* A vertex at which no edge ends may take any name, also an invisible one: the model is still loaded
  (`Model.Loads.rename`), and its layout is what it was apart from this vertex
  (`Model.layout_rename`).
-/

namespace RingDiagram

open Scalar

/-- The model is accepted as a network. -/
def Model.Loads (m : Model) : Prop :=
  ∃ net, Network.ofModel? m = .ok net

/-- Two models differ in the names of their vertices only. -/
structure Model.Alike (m m' : Model) : Prop where
  flags : m'.flags = m.flags
  count : m'.vertices.length = m.vertices.length
  edges : m'.edges = m.edges

/-- No edge ends in the slot. -/
def Model.Isolated (m : Model) (slot : Nat) : Prop :=
  ∀ e ∈ m.edges, slotOf e.source ≠ slot ∧ slotOf e.target ≠ slot

/-- The model with another name in the slot. -/
def Model.rename (m : Model) (slot : Nat) (name : String) : Model :=
  { m with vertices := m.vertices.set slot name }

theorem Model.alike_rename (m : Model) (slot : Nat) (name : String) :
    m.Alike (m.rename slot name) :=
  ⟨rfl, List.length_set, rfl⟩

/-- The name of a vertex at which no edge ends is not looked at. -/
theorem Model.Loads.rename {m : Model} (h : m.Loads) {slot : Nat} (h_isolated : m.Isolated slot)
    (name : String) : (m.rename slot name).Loads := by
  apply Network.exists_ofModel?_iff.2
  -- every end has to be visible, and none of the ends is the slot that is renamed
  intro e h_e
  obtain ⟨h_source, h_target⟩ := Network.exists_ofModel?_iff.1 h e h_e
  obtain ⟨h_source_ne, h_target_ne⟩ := h_isolated e h_e
  have h_shows : ∀ i, i ≠ slot → m.HasVisible i → (m.rename slot name).HasVisible i := by
    rintro i h_ne ⟨other, h_other, h_visible⟩
    -- an end of an edge is another slot, which keeps its name
    refine ⟨other, ?_, h_visible⟩
    exact (List.getElem?_set_ne h_ne.symm).trans h_other
  exact ⟨h_shows _ h_source_ne h_source, h_shows _ h_target_ne h_target⟩

/-! ### Layout -/

section Layout

variable {α : Type}

/-- Everything in the two layouts is the same, apart from the names of vertices and whether these
are drawn. -/
structure Layout.SamePlaces (l l' : Layout α) : Prop where
  width : l'.width = l.width
  height : l'.height = l.height
  center : l'.center = l.center
  places : (l'.vertices.map fun v => (v.index, v.position)) =
    l.vertices.map fun v => (v.index, v.position)
  edges : l'.edges = l.edges
  directed : l'.directed = l.directed

variable [Add α] [Sub α] [Mul α] [Div α] [NatCast α] [Scalar α] {settings : Settings α}
  {width height : α}

/-! ### Painting -/

/-- The command draws the disc of a vertex. -/
def Command.isDisc (c : Command α) : Bool :=
  c.kind == .circle

/-- What is painted of vertices is discs. -/
theorem Layout.filter_not_isDisc_commands (layout : Layout α) :
    (layout.commands settings).filter (!·.isDisc) =
      .background settings.background ::
        layout.edges.flatMap (Route.commands settings layout.directed) := by
  have h_vertices :
      (layout.vertices.flatMap (PlacedVertex.commands settings)).filter (!·.isDisc) = [] := by
    rw [List.filter_flatMap, List.flatMap_eq_nil_iff]
    intro v _
    rw [PlacedVertex.commands]
    split
    all_goals rfl
  have h_routes : ∀ c ∈ layout.edges.flatMap (Route.commands settings layout.directed),
      (!c.isDisc) = true := by
    intro c h_c
    obtain ⟨r, -, h_c⟩ := List.mem_flatMap.1 h_c
    rw [Route.commands, List.mem_cons] at h_c
    rcases h_c with rfl | h_c
    · -- a stroke of any kind is no disc
      cases r.stroke with
      | straight | arc | loop => rfl
    · -- an arrowhead, if there is one, is a polygon
      split at h_c
      · rw [List.mem_singleton.1 h_c]
        rfl
      · cases h_c
  rw [Layout.commands, List.filter_cons_of_pos rfl, List.filter_append, h_vertices,
    List.append_nil, List.filter_eq_self.2 h_routes]

/-- **Layouts with the same places** are painted alike but for the discs. -/
theorem Layout.SamePlaces.filter_commands {l l' : Layout α} (h : l.SamePlaces l') :
    (l'.commands settings).filter (!·.isDisc) = (l.commands settings).filter (!·.isDisc) := by
  rw [l'.filter_not_isDisc_commands, l.filter_not_isDisc_commands, h.edges, h.directed]

/-! ### Places -/

variable [LT α] [DecidableLT α] [BEq α]

namespace Network

/-- The vertices in their places on a surface of the given size. -/
def placed (net : Network) (settings : Settings α) (width height : α) : List (PlacedVertex α) :=
  placedVertices net.vertices (slotPositions net.vertices.length settings.ringRadius
    (net.ringCenter settings width height))

variable {net net' : Network}

theorem getElem?_placed (i : Nat) :
    (net.placed settings width height)[i]? = net.vertices[i]?.map fun v =>
      ⟨i, v.name, net.place settings width height i, v.visible⟩ :=
  getElem?_placedVertices net.vertices settings.ringRadius _ i

/-- Every slot has its place, whatever vertex is in it. -/
theorem map_place_placed :
    ((net.placed settings width height).map fun v => (v.index, v.position)) =
      (List.range net.vertices.length).map fun i => (i, net.place settings width height i) := by
  apply List.ext_getElem?
  intro i
  rw [List.getElem?_map, List.getElem?_map, getElem?_placed]
  -- both lists have one entry for every slot, and no more
  by_cases h : i < net.vertices.length
  · rw [List.getElem?_eq_getElem h, List.getElem?_range h]
    rfl
  · rw [List.getElem?_eq_none (Nat.le_of_not_lt h), List.getElem?_eq_none (by simpa using h)]
    rfl

/-- **Vertices of other names** are in the same places. -/
theorem places_placed (h_count : net'.vertices.length = net.vertices.length) :
    ((net'.placed settings width height).map fun v => (v.index, v.position)) =
      (net.placed settings width height).map fun v => (v.index, v.position) := by
  rw [map_place_placed, map_place_placed, h_count, place_congr h_count]

/-- A vertex of another name changes nothing but itself. -/
theorem placed_set {slot : Nat} {name : String}
    (h : net'.vertices = net.vertices.set slot (Vertex.ofName name)) :
    net'.placed settings width height =
      (net.placed settings width height).modify slot fun v =>
        { v with name, visible := !invisibleName name } := by
  have h_count : net'.vertices.length = net.vertices.length := by
    rw [h, List.length_set]
  apply List.ext_getElem?
  intro i
  rw [getElem?_placed, List.getElem?_modify, getElem?_placed, place_congr h_count, h]
  by_cases h_slot : slot = i
  · subst h_slot
    rw [List.getElem?_set_self']
    cases net.vertices[slot]? with
    | none => rfl
    | some v => simp [Vertex.ofName]
  · rw [List.getElem?_set_ne h_slot]
    simp [h_slot]

variable [Neg α]

/-- A layout holds the vertices in their places. -/
theorem vertices_of_layout {layout : Layout α}
    (h : net.layout settings width height = .ok layout) :
    layout.vertices = net.placed settings width height := by
  rw [net.layout_eq] at h
  obtain ⟨routes, -, rfl⟩ := map_eq_ok_iff.1 h
  rfl

/-- **Networks of other names** have the same layouts apart from the vertices, errors included. -/
theorem layout_alike (h_flags : net'.flags = net.flags)
    (h_count : net'.vertices.length = net.vertices.length) (h_edges : net'.edges = net.edges) :
    net'.layout settings width height =
      (net.layout settings width height).map fun layout =>
        { layout with vertices := net'.placed settings width height } := by
  -- the edges are the same, and so are the places among which they are routed
  rw [net'.layout_eq, net.layout_eq, map_map, h_flags, h_edges, place_congr h_count,
    ringCenter_congr h_count]
  unfold placed
  rw [ringCenter_congr h_count]
  rfl

end Network

/-! ### Models -/

variable [Neg α] {m m' : Model}

/-- The layout of a model that is loaded is that of its network. -/
theorem Model.layout_of_ofModel? {net : Network} (h : Network.ofModel? m = .ok net) :
    m.layout settings width height = net.layout settings width height := by
  unfold Model.layout
  rw [h]
  rfl

variable (settings : Settings α) (width height : α)

/-- The networks of models that differ in names differ in names. -/
theorem Model.Alike.layout_eq (h : m.Alike m') {net net' : Network}
    (h_net : Network.ofModel? m = .ok net) (h_net' : Network.ofModel? m' = .ok net') :
    net'.vertices.length = net.vertices.length ∧
    net'.layout settings width height =
      (net.layout settings width height).map fun layout =>
        { layout with vertices := net'.placed settings width height } := by
  -- a network has the flags and edges of its model, and as many vertices
  obtain ⟨h_flags, h_vertices, h_edges⟩ := Network.parts_of_ofModel? h_net
  obtain ⟨h_flags', h_vertices', h_edges'⟩ := Network.parts_of_ofModel? h_net'
  have h_count : net'.vertices.length = net.vertices.length := by
    rw [h_vertices, h_vertices', List.length_map, List.length_map, h.count]
  refine ⟨h_count, Network.layout_alike ?_ h_count ?_⟩
  · rw [h_flags', h_flags, h.flags]
  · rw [h_edges', h_edges, h.edges]

/-- **Models that differ in names** are laid out in the same places, or fail with the same error. -/
theorem Model.Alike.layout (h : m.Alike m') (h_loads : m.Loads) (h_loads' : m'.Loads) :
    (∃ e, m.layout settings width height = .error e ∧
      m'.layout settings width height = .error e) ∨
    ∃ l l', m.layout settings width height = .ok l ∧ m'.layout settings width height = .ok l' ∧
      l.SamePlaces l' := by
  obtain ⟨net, h_net⟩ := h_loads
  obtain ⟨net', h_net'⟩ := h_loads'
  obtain ⟨h_count, h_layout⟩ := h.layout_eq settings width height h_net h_net'
  rw [Model.layout_of_ofModel? h_net, Model.layout_of_ofModel? h_net', h_layout]
  cases h_net_layout : net.layout settings width height with
  | error e => exact Or.inl ⟨e, rfl, rfl⟩
  | ok l =>
    refine Or.inr ⟨l, _, rfl, rfl, ⟨rfl, rfl, rfl, ?_, rfl, rfl⟩⟩
    rw [Network.vertices_of_layout h_net_layout]
    exact Network.places_placed h_count

/-- **A vertex at which no edge ends** takes another name, and nothing else changes. -/
theorem Model.layout_rename (h_loads : m.Loads) {slot : Nat} (h_isolated : m.Isolated slot)
    (name : String) :
    (m.rename slot name).layout settings width height =
      (m.layout settings width height).map fun layout =>
        { layout with
          vertices := layout.vertices.modify slot fun v =>
            { v with name, visible := !invisibleName name } } := by
  obtain ⟨net', h_net'⟩ := h_loads.rename h_isolated name
  obtain ⟨net, h_net⟩ := h_loads
  -- the names are turned into vertices one by one
  have h_set : net'.vertices = net.vertices.set slot (Vertex.ofName name) := by
    rw [(Network.parts_of_ofModel? h_net').2.1, (Network.parts_of_ofModel? h_net).2.1]
    exact List.map_set
  obtain ⟨-, h_layout⟩ :=
    (m.alike_rename slot name).layout_eq settings width height h_net h_net'
  rw [Model.layout_of_ofModel? h_net, Model.layout_of_ofModel? h_net', h_layout]
  cases h_net_layout : net.layout settings width height with
  | error e => rfl
  | ok layout =>
    unfold Except.map
    dsimp only
    rw [Network.vertices_of_layout h_net_layout, Network.placed_set h_set]

end Layout

/-! ### Whole drawings -/

/-- **Names move nothing.** Models that differ in the names of their vertices only, and so perhaps
in which of these are drawn, are laid out in the same places or fail with the same error, and where
both have a drawing, these differ in discs only. A vertex at which no edge ends may take any name,
also one that makes it invisible: nothing else changes in the layout. -/
theorem names_move_nothing {α : Type} [Add α] [Sub α] [Mul α] [Div α] [Neg α] [NatCast α] [LT α]
    [DecidableLT α] [BEq α] [Scalar α] {m m' : Model} (h : m.Alike m') (h_loads : m.Loads)
    (h_loads' : m'.Loads) (settings : Settings α) (width height : α) :
    ((∃ e, m.layout settings width height = .error e ∧
        m'.layout settings width height = .error e) ∨
      ∃ l l', m.layout settings width height = .ok l ∧
        m'.layout settings width height = .ok l' ∧ l.SamePlaces l') ∧
    (∀ commands commands', m.drawing settings width height = .ok commands →
      m'.drawing settings width height = .ok commands' →
      commands'.filter (!·.isDisc) = commands.filter (!·.isDisc)) ∧
    ∀ slot name, m.Isolated slot →
      (m.rename slot name).Loads ∧
      (m.rename slot name).layout settings width height =
        (m.layout settings width height).map fun layout =>
          { layout with
            vertices := layout.vertices.modify slot fun v =>
              { v with name, visible := !invisibleName name } } := by
  have h_layout := h.layout settings width height h_loads h_loads'
  refine ⟨h_layout, ?painted, ?renamed⟩
  case painted =>
    intro commands commands' h_drawing h_drawing'
    rw [Model.drawing_eq] at h_drawing h_drawing'
    obtain ⟨l, h_l, h_commands⟩ := bind_eq_ok_iff.1 h_drawing
    obtain ⟨l', h_l', h_commands'⟩ := bind_eq_ok_iff.1 h_drawing'
    obtain ⟨rfl, -⟩ := allFinite_eq_ok_iff.1 h_commands
    obtain ⟨rfl, -⟩ := allFinite_eq_ok_iff.1 h_commands'
    rw [h_l, h_l'] at h_layout
    -- both have a layout, so they do not fail
    rcases h_layout with ⟨e, h_e, -⟩ | ⟨k, k', h_k, h_k', h_same⟩
    · cases h_e
    · cases h_k
      cases h_k'
      exact h_same.filter_commands
  case renamed =>
    intro slot name h_isolated
    refine ⟨h_loads.rename h_isolated name, ?_⟩
    exact m.layout_rename settings width height h_loads h_isolated name

/-- Two vertices joined twice, and a third one. -/
private def joinedTwice (names : List String) : Model where
  flags := { simple := true }
  vertices := names
  edges := [⟨0, 1⟩, ⟨1, 0⟩]

/-- The third vertex is invisible in the second model, and all three have other names. -/
theorem names_move_nothing_invisible :
    (joinedTwice ["a", "b", "c"]).Alike (joinedTwice ["x", "y", "_"]) ∧
      (joinedTwice ["a", "b", "c"]).Loads ∧ (joinedTwice ["x", "y", "_"]).Loads ∧
      -- neither model has invisible ends, so both are accepted
      (∃ l l', (joinedTwice ["a", "b", "c"]).layout (Settings.standard : Settings Float) 300 300 =
          .ok l ∧
        (joinedTwice ["x", "y", "_"]).layout (Settings.standard : Settings Float) 300 300 = .ok l' ∧
        l.SamePlaces l') ∧
      (joinedTwice ["a", "b", "c"]).Isolated 2 ∧
      ((joinedTwice ["a", "b", "c"]).rename 2 "_").Loads := by
  have h_alike : (joinedTwice ["a", "b", "c"]).Alike (joinedTwice ["x", "y", "_"]) :=
    ⟨rfl, rfl, rfl⟩
  have h_range : (joinedTwice ["a", "b", "c"]).InRange := by decide
  have h_loads : (joinedTwice ["a", "b", "c"]).Loads :=
    (Network.exists_ofModel?_eq_ok_iff h_range (by decide)).2 (by decide)
  have h_loads' : (joinedTwice ["x", "y", "_"]).Loads :=
    (Network.exists_ofModel?_eq_ok_iff (by decide) (by decide)).2 (by decide)
  have h_isolated : (joinedTwice ["a", "b", "c"]).Isolated 2 := by
    unfold Model.Isolated
    decide
  obtain ⟨h_layouts, -, h_rename⟩ :=
    names_move_nothing h_alike h_loads h_loads' (Settings.standard : Settings Float) 300 300
  have h_straight : (bendDisplacement 0 (Settings.standard : Settings Float).bendiness false ==
      nat 0) = true := by decide
  -- the first edge is not bent, so there is a layout
  obtain ⟨layout, h_layout⟩ := Model.exists_layout_simplified h_range (by decide) h_straight
    (by decide) 300 300
  change (joinedTwice ["a", "b", "c"]).layout _ _ _ = _ at h_layout
  refine ⟨h_alike, h_loads, h_loads', ?_, h_isolated, (h_rename 2 "_" h_isolated).1⟩
  rcases h_layouts with ⟨e, h_e, -⟩ | h_layouts
  · rw [h_layout] at h_e
    cases h_e
  · exact h_layouts

end RingDiagram
