import RingDiagram.Proofs.Drawing.Simplification

/-!
# Arrowheads

A model is drawn with arrowheads or without them, and apart from these it is the same drawing. The
flag for them is followed from the model to the commands, together with the two flags that nothing
looks at on the way.

* Loading hands the flags on (`Network.ofModel?_withFlags`), and routing looks at the `simple` flag
  alone (`Network.layout_withFlags`). So the two drawings come from one layout, which is there for
  both or for none of them (`Model.drawing_withFlags`).
* Painting puts an arrowhead behind every stroke, and nowhere else (`Layout.arrowed_commands`). What
  is painted apart from the arrowheads is what is painted without them
  (`Layout.filter_commands`).
* So a drawing with arrowheads is let through if the one without them is, and its arrowheads are
  finite (`Layout.forall_isFinite_iff`).
-/

namespace RingDiagram

open Scalar

/-! ### Arrowed commands -/

section Commands

variable {α : Type}

/-- The command draws the stroke of an edge. -/
def Command.IsStroke (c : Command α) : Prop :=
  c.kind = .line ∨ c.kind = .arc ∨ c.kind = .ring

/-- The command is no arrowhead. -/
def Command.isPlain (c : Command α) : Bool :=
  c.kind != .polygon

/-- Behind every stroke there is one arrowhead, and there are no others. -/
inductive Arrowed : List (Command α) → Prop
  | nil : Arrowed []
  | stroke {s : Command α} {corners : List (Point α)} {paint : String} {rest : List (Command α)}
    (h : s.IsStroke) (h_rest : Arrowed rest) : Arrowed (s :: .polygon corners paint :: rest)
  | other {c : Command α} {rest : List (Command α)} (h : ¬ c.IsStroke) (h_plain : c.isPlain = true)
    (h_rest : Arrowed rest) : Arrowed (c :: rest)

theorem Arrowed.append {commands rest : List (Command α)} (h : Arrowed commands)
    (h_rest : Arrowed rest) : Arrowed (commands ++ rest) := by
  induction h with
  | nil => exact h_rest
  | stroke h _ ih => exact .stroke h ih
  | other h h_plain _ ih => exact .other h h_plain ih

theorem Arrowed.flatMap {β : Type} {f : β → List (Command α)} {l : List β}
    (h : ∀ b ∈ l, Arrowed (f b)) : Arrowed (l.flatMap f) := by
  induction l with
  | nil => exact .nil
  | cons b l ih =>
    -- what is true of every part is true of the parts put together
    obtain ⟨h_b, h_l⟩ := List.forall_mem_cons.1 h
    rw [List.flatMap_cons]
    exact h_b.append (ih h_l)

theorem Command.IsStroke.isPlain {c : Command α} (h : c.IsStroke) : c.isPlain = true := by
  unfold Command.isPlain
  rcases h with h | h | h
  all_goals
    rw [h]
    rfl

variable {settings : Settings α}

theorem Stroke.isStroke_command (s : Stroke α) : (s.command settings).IsStroke := by
  cases s with
  | straight start finish => exact Or.inl rfl
  | arc circle startAngle endAngle => exact Or.inr (Or.inl rfl)
  | loop circle => exact Or.inr (Or.inr rfl)

/-- A vertex has no arrowhead and needs none. -/
theorem PlacedVertex.arrowed_commands (v : PlacedVertex α) : Arrowed (v.commands settings) := by
  rw [PlacedVertex.commands]
  split
  · refine .other ?_ rfl .nil
    simp [Command.IsStroke, Command.kind]
  · exact .nil

theorem PlacedVertex.filter_commands (v : PlacedVertex α) :
    (v.commands settings).filter Command.isPlain = v.commands settings := by
  rw [PlacedVertex.commands]
  split
  all_goals rfl

variable [Add α] [Sub α] [Mul α] [Div α] [NatCast α] [Scalar α]

/-- The arrowhead of a route. -/
def Route.arrowhead (settings : Settings α) (r : Route α) : Command α :=
  .polygon (arrowCorners r.anchor r.heading settings.arrowSize) settings.edgeColor

theorem Route.commands_true (r : Route α) :
    r.commands settings true = [r.stroke.command settings, r.arrowhead settings] := rfl

theorem Route.commands_false (r : Route α) :
    r.commands settings false = [r.stroke.command settings] := rfl

theorem Route.filter_commands (r : Route α) :
    (r.commands settings true).filter Command.isPlain = r.commands settings false := by
  have h_stroke : (r.stroke.command settings).isPlain = true :=
    r.stroke.isStroke_command.isPlain
  have h_arrowhead : (r.arrowhead settings).isPlain = false := rfl
  -- of the two commands the first stays and the second goes
  rw [r.commands_true, r.commands_false, List.filter_cons_of_pos h_stroke,
    List.filter_cons_of_neg (by simp [h_arrowhead]), List.filter_nil]

namespace Layout

/-- The layout painted with arrowheads or without them. -/
def withArrows (layout : Layout α) (directed : Bool) : Layout α :=
  { layout with directed }

/-- The corners of all arrowheads are finite. -/
def HasFiniteArrows (settings : Settings α) (layout : Layout α) : Prop :=
  ∀ r ∈ layout.edges, ∀ p ∈ arrowCorners r.anchor r.heading settings.arrowSize, p.isFinite = true

variable (layout : Layout α)

/-- **Arrowheads stand behind the strokes**, one behind each. -/
theorem arrowed_commands : Arrowed ((layout.withArrows true).commands settings) := by
  have h_routes : Arrowed (layout.edges.flatMap (Route.commands settings true)) := by
    refine .flatMap fun r _ => ?_
    rw [r.commands_true]
    exact .stroke r.stroke.isStroke_command .nil
  have h_vertices : Arrowed (layout.vertices.flatMap (PlacedVertex.commands settings)) :=
    .flatMap fun v _ => v.arrowed_commands
  -- the background comes first, which is no stroke
  refine .other ?_ rfl (h_routes.append h_vertices)
  simp [Command.IsStroke, Command.kind]

/-- **Without its arrowheads** a layout is painted as one that has none. -/
theorem filter_commands :
    ((layout.withArrows true).commands settings).filter Command.isPlain =
      (layout.withArrows false).commands settings := by
  have h_routes : (layout.edges.flatMap (Route.commands settings true)).filter Command.isPlain =
      layout.edges.flatMap (Route.commands settings false) := by
    -- edge by edge it is the stroke that is left
    rw [List.filter_flatMap]
    exact congrArg (List.flatMap · layout.edges) (funext Route.filter_commands)
  have h_vertices :
      (layout.vertices.flatMap (PlacedVertex.commands settings)).filter Command.isPlain =
        layout.vertices.flatMap (PlacedVertex.commands settings) := by
    rw [List.filter_flatMap]
    exact congrArg (List.flatMap · layout.vertices) (funext PlacedVertex.filter_commands)
  unfold commands withArrows
  dsimp only
  rw [List.filter_cons_of_pos rfl, List.filter_append, h_routes, h_vertices]

/-- The commands with arrowheads are those without them, and the arrowheads. -/
theorem mem_commands_withArrows {c : Command α} :
    c ∈ (layout.withArrows true).commands settings ↔
      c ∈ (layout.withArrows false).commands settings ∨
        ∃ r ∈ layout.edges, c = r.arrowhead settings := by
  unfold commands withArrows
  dsimp only
  simp only [List.mem_cons, List.mem_append, List.mem_flatMap, Route.commands_true,
    Route.commands_false, List.not_mem_nil, or_false, and_or_left, exists_or]
  exact (or_congr_right or_right_comm).trans or_assoc.symm

/-- **Commands with arrowheads** are finite when those without them are, and the arrowheads. -/
theorem forall_isFinite_iff :
    (∀ c ∈ (layout.withArrows true).commands settings, c.isFinite = true) ↔
      (∀ c ∈ (layout.withArrows false).commands settings, c.isFinite = true) ∧
        layout.HasFiniteArrows settings := by
  have h_arrowhead : ∀ r : Route α, (r.arrowhead settings).isFinite = true ↔
      ∀ p ∈ arrowCorners r.anchor r.heading settings.arrowSize, p.isFinite = true := by
    intro r
    exact List.all_eq_true
  constructor
  · intro h
    constructor
    · intro c h_c
      exact h c (layout.mem_commands_withArrows.2 (Or.inl h_c))
    · intro r h_r
      -- the arrowhead of a route is one of the commands
      have h_mem : r.arrowhead settings ∈ (layout.withArrows true).commands settings :=
        layout.mem_commands_withArrows.2 (Or.inr ⟨r, h_r, rfl⟩)
      exact (h_arrowhead r).1 (h _ h_mem)
  · rintro ⟨h_plain, h_arrows⟩ c h_c
    rcases layout.mem_commands_withArrows.1 h_c with h_c | ⟨r, h_r, rfl⟩
    · exact h_plain c h_c
    · exact (h_arrowhead r).2 (h_arrows r h_r)

variable (h : ∀ c ∈ (layout.withArrows false).commands settings, c.isFinite = true)
include h

/-- What is let through without arrowheads is let through with finite ones. -/
theorem exists_allFinite_withArrows_iff :
    (∃ commands, allFinite ((layout.withArrows true).commands settings) = .ok commands) ↔
      layout.HasFiniteArrows settings := by
  constructor
  · rintro ⟨commands, h_ok⟩
    obtain ⟨-, h_finite⟩ := allFinite_eq_ok_iff.1 h_ok
    exact (layout.forall_isFinite_iff.1 h_finite).2
  · intro h_arrows
    have h_finite := layout.forall_isFinite_iff.2 ⟨h, h_arrows⟩
    exact ⟨_, allFinite_eq_ok_iff.2 ⟨rfl, h_finite⟩⟩

/-- What is refused with arrowheads only is refused for one of them. -/
theorem eq_of_allFinite_withArrows {e : RenderError}
    (h_error : allFinite ((layout.withArrows true).commands settings) = .error e) :
    e = .surface (.notFinite .polygon) := by
  -- the first command that is not finite is one of the layout, with its arrowheads
  obtain ⟨before, c, after, h_split, -, h_c, rfl⟩ := allFinite_eq_error_iff.1 h_error
  have h_mem : c ∈ (layout.withArrows true).commands settings := by
    rw [h_split]
    exact List.mem_append_right _ List.mem_cons_self
  rcases layout.mem_commands_withArrows.1 h_mem with h_plain | ⟨r, -, rfl⟩
  · rw [h c h_plain] at h_c
    cases h_c
  · rfl

end Layout

end Commands

/-! ### Flags -/

/-- The model under other flags. -/
def Model.withFlags (m : Model) (flags : Flags) : Model :=
  { m with flags }

/-- The network under other flags. -/
def Network.withFlags (net : Network) (flags : Flags) : Network :=
  { net with flags }

/-- The model drawn with arrowheads or without them. -/
def Model.withArrows (m : Model) (directed : Bool) : Model :=
  m.withFlags { m.flags with directed }

/-- Loading hands the flags on. -/
theorem Network.ofModel?_withFlags (m : Model) (flags : Flags) :
    ofModel? (m.withFlags flags) = (ofModel? m).map (·.withFlags flags) := by
  unfold ofModel? Model.withFlags
  dsimp only
  -- edges are checked against vertices, whatever the flags are
  cases m.edges.mapM (edge? (m.vertices.map Vertex.ofName).toArray) with
  | error e => rfl
  | ok kept => rfl

section Flags

variable {α : Type} [Add α] [Sub α] [Mul α] [Div α] [Neg α] [NatCast α] [LT α] [DecidableLT α]
  [BEq α] [Scalar α]

/-- Routing looks at the `simple` flag alone. -/
theorem Network.layout_withFlags {net : Network} {flags : Flags}
    (h : flags.simple = net.flags.simple) (settings : Settings α) (width height : α) :
    (net.withFlags flags).layout settings width height =
      (net.layout settings width height).map (·.withArrows flags.directed) := by
  have h_simple : (net.withFlags flags).flags.simple = net.flags.simple := h
  -- the same edges are kept, and they are routed among the same places
  rw [Network.layout_eq, Network.layout_eq, h_simple, map_map]
  rfl

variable (m : Model)

/-- **One layout** for all models that differ in the other flags only. -/
theorem Model.layout_withFlags (flags : Flags) (h : flags.simple = m.flags.simple)
    (settings : Settings α) (width height : α) :
    (m.withFlags flags).layout settings width height =
      (m.layout settings width height).map (·.withArrows flags.directed) := by
  unfold Model.layout
  rw [Network.ofModel?_withFlags]
  cases h_net : Network.ofModel? m with
  | error e => rfl
  | ok net =>
    rw [← (Network.parts_of_ofModel? h_net).1] at h
    exact Network.layout_withFlags h settings width height

theorem Model.drawing_withFlags (flags : Flags) (h : flags.simple = m.flags.simple)
    (settings : Settings α) (width height : α) :
    (m.withFlags flags).drawing settings width height =
      m.layout settings width height >>= fun layout =>
        allFinite ((layout.withArrows flags.directed).commands settings) := by
  rw [Model.drawing_eq, m.layout_withFlags flags h]
  cases m.layout settings width height with
  | error e => rfl
  | ok layout => rfl

end Flags

/-! ### Whole drawings -/

/-- **The flag for arrowheads adds arrowheads.** In a drawing with arrowheads one of them stands
behind every stroke and none anywhere else, and without them it is the drawing that the model has
without the flag. Where there is a drawing without arrowheads, there is one with them if the corners
of the arrowheads are finite, and otherwise it is refused for an arrowhead. Whether vertices are
declared by their mention and whether a matrix is read transposed makes no difference to a
drawing. -/
theorem arrowheads_exact {α : Type} [Add α] [Sub α] [Mul α] [Div α] [Neg α] [NatCast α] [LT α]
    [DecidableLT α] [BEq α] [Scalar α] (m : Model) (settings : Settings α) (width height : α) :
    (∀ commands, (m.withArrows true).drawing settings width height = .ok commands →
      Arrowed commands ∧
      (m.withArrows false).drawing settings width height =
        .ok (commands.filter Command.isPlain)) ∧
    (∀ commands, (m.withArrows false).drawing settings width height = .ok commands →
      ∃ layout, (m.withArrows false).layout settings width height = .ok layout ∧
        ((∃ pointed, (m.withArrows true).drawing settings width height = .ok pointed) ↔
          layout.HasFiniteArrows settings) ∧
        ∀ e, (m.withArrows true).drawing settings width height = .error e →
          e = .surface (.notFinite .polygon)) ∧
    ∀ auto flipped, (m.withFlags { m.flags with auto, flipped }).drawing settings width height =
      m.drawing settings width height := by
  -- with arrowheads or without them, it is one layout that is painted
  have h_drawing : ∀ directed, (m.withArrows directed).drawing settings width height =
      m.layout settings width height >>= fun layout =>
        allFinite ((layout.withArrows directed).commands settings) := by
    intro directed
    exact m.drawing_withFlags { m.flags with directed } rfl settings width height
  refine ⟨?fewer, ?more, ?idle⟩
  case fewer =>
    intro commands h
    rw [h_drawing] at h ⊢
    obtain ⟨layout, h_layout, h⟩ := bind_eq_ok_iff.1 h
    obtain ⟨rfl, h_finite⟩ := allFinite_eq_ok_iff.1 h
    have h_plain := (layout.forall_isFinite_iff.1 h_finite).1
    refine ⟨layout.arrowed_commands, bind_eq_ok_iff.2 ⟨layout, h_layout, ?_⟩⟩
    exact allFinite_eq_ok_iff.2 ⟨layout.filter_commands, h_plain⟩
  case more =>
    intro commands h
    rw [h_drawing] at h
    obtain ⟨layout, h_layout, h⟩ := bind_eq_ok_iff.1 h
    obtain ⟨-, h_plain⟩ := allFinite_eq_ok_iff.1 h
    have h_plain_layout : (m.withArrows false).layout settings width height =
        .ok (layout.withArrows false) := by
      have h_flags :=
        m.layout_withFlags { m.flags with directed := false } rfl settings width height
      rw [h_layout] at h_flags
      exact h_flags
    -- what is left is whether the commands with arrowheads are finite
    have h_pointed : (m.withArrows true).drawing settings width height =
        allFinite ((layout.withArrows true).commands settings) := by
      rw [h_drawing, h_layout]
      rfl
    rw [h_pointed]
    refine ⟨layout.withArrows false, h_plain_layout,
      layout.exists_allFinite_withArrows_iff h_plain, ?_⟩
    intro e h_e
    exact layout.eq_of_allFinite_withArrows h_plain h_e
  case idle =>
    intro auto flipped
    -- the flags of the model are flags that it may have as well
    have h_own := m.drawing_withFlags m.flags rfl settings width height
    have h_other := m.drawing_withFlags { m.flags with auto, flipped } rfl settings width height
    exact h_other.trans h_own.symm

end RingDiagram
