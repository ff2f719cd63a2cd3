import RingDiagram.Proofs.Drawing.Commands
import RingDiagram.Proofs.Drawing.Sources
import RingDiagram.Proofs.Layout.Crowding
import RingDiagram.Proofs.Notation.Contract

/-!
# Failures of the program

A failure is blamed on the program when it speaks of something that was thought not to happen. Two
things of that kind do happen to source texts: an edge has no arc, and a command is not finite
(`Broken`). Nothing else does: reading and loading are never the program's fault
(`Notation.blame_of_read`, `Network.blame_of_ofModel?`), and no lookup fails
(`commandsOf_blamed_iff`).

In exact numbers, which are all finite, only the edges are left. There is a failure of the program
exactly if an edge is crowded (`broken_iff_crowded`), and in real numbers there is none on a ring
with enough room for the edges.
-/

namespace RingDiagram

open Scalar

/-- An end in whose slot there is a vertex is at fault for its name, and a name is part of the
input. -/
theorem Model.blame_of_endFault? {m : Model} {slot : Nat → Nat} {index : Nat} {e : RenderError}
    (h_slot : slot index < m.vertices.length) (h : m.endFault? slot index = some e) :
    e.blame = .input := by
  unfold endFault? at h
  rw [List.getElem?_eq_getElem h_slot] at h
  dsimp only at h
  split at h
  · cases h
    rfl
  · cases h

/-- Loading a model whose edges are in range fails by the fault of the input. -/
theorem Network.blame_of_ofModel? {m : Model} (h_range : m.InRange) {e : RenderError}
    (h : Network.ofModel? m = .error e) : e.blame = .input := by
  have h_fault := (ofModel?_failsWith m e).1 h
  -- a fault of the layout or one of the commands of the layout that there is
  rw [Model.findSome?_edgeFault?] at h_fault
  obtain ⟨index, h_index, h_end⟩ := List.exists_of_findSome?_eq_some h_fault
  -- a slot is never beyond its index
  have h_slot : slotOf index < m.vertices.length :=
    (Nat.mod_le _ _).trans_lt (h_range.lt_of_mem_ends h_index)
  exact Model.blame_of_endFault? h_slot h_end

section

variable {α : Type} [Add α] [Sub α] [Mul α] [Div α] [Neg α] [NatCast α] [LT α] [DecidableLT α]
  [BEq α] [Scalar α]

/-- A network cannot be drawn by the fault of the program: the first edge without a route has no
arc, or its drawing is refused for the first command that is not finite. -/
inductive Broken (net : Network) (settings : Settings α) (width height : α) : RenderError → Prop
  | noArc {before after : List (Edge × Bend)} {bent : Edge × Bend}
    (h_split : keptEdges net.flags.simple net.edges = before ++ bent :: after)
    (h_before : ∀ b ∈ before, HasRoute (net.place settings width height) settings.bendiness b)
    (h_none : ¬ HasRoute (net.place settings width height) settings.bendiness bent) :
    Broken net settings width height (.noArc bent.1.source bent.1.target)
  | notFinite {layout : Layout α} {before after : List (Command α)} {c : Command α}
    (h_layout : net.layout settings width height = .ok layout)
    (h_split : layout.commands settings = before ++ c :: after)
    (h_before : ∀ b ∈ before, b.isFinite = true) (h_c : c.isFinite = false) :
    Broken net settings width height (.surface (.notFinite c.kind))

variable {source : String} {settings : Settings α} {width height : α}

theorem broken_iff {net : Network} {e : RenderError} :
    Broken net settings width height e ↔
      (net.layout settings width height >>= fun layout => allFinite (layout.commands settings)) =
        .error e := by
  constructor
  · intro h
    cases h with
    | noArc h_split h_before h_none =>
      rw [Network.layout_eq_error_iff.2 ⟨_, _, _, _, h_split, h_before, h_none, rfl⟩]
      rfl
    | notFinite h_layout h_split h_before h_c =>
      rw [h_layout]
      exact allFinite_eq_error_iff.2 ⟨_, _, _, h_split, h_before, h_c, rfl⟩
  · intro h
    -- the layout has failed, or there is a layout and one of its commands is refused
    rcases bind_eq_error h with h_layout | ⟨layout, h_layout, h_finite⟩
    · obtain ⟨before, edge, bend, after, h_split, h_before, h_none, rfl⟩ :=
        Network.layout_eq_error_iff.1 h_layout
      exact .noArc h_split h_before h_none
    · obtain ⟨before, c, after, h_split, h_before, h_c, rfl⟩ := allFinite_eq_error_iff.1 h_finite
      exact .notFinite h_layout h_split h_before h_c

theorem Broken.blame {net : Network} {e : RenderError} (h : Broken net settings width height e) :
    e.blame = .program := by
  cases h <;> rfl

/-- **The program is to blame** exactly for what cannot be drawn by its fault. -/
theorem commandsOf_blamed_iff {f : Failure} :
    commandsOf source settings width height = .error f ∧ f.blame = .program ↔
      ∃ m net e, Notation.read source = .ok m ∧ Network.ofModel? m = .ok net ∧ f = .render e ∧
        Broken net settings width height e := by
  simp only [commandsOf_eq_error_iff, broken_iff]
  constructor
  · -- of the three steps only the last is left, as the others would blame the input
    rintro ⟨⟨e, rfl, h_read⟩ | ⟨m, e, rfl, h_read, h_drawing⟩, h_blame⟩
    · cases (Notation.blame_of_read h_read).symm.trans h_blame
    · rcases bind_eq_error h_drawing with h_net | ⟨net, h_net, h_rest⟩
      · have h_input := Network.blame_of_ofModel? (Notation.inRange_of_read h_read) h_net
        cases h_input.symm.trans h_blame
      · exact ⟨m, net, e, h_read, h_net, rfl, h_rest⟩
  · rintro ⟨m, net, e, h_read, h_net, rfl, h_rest⟩
    refine ⟨Or.inr ⟨m, e, rfl, h_read, ?_⟩, (broken_iff.2 h_rest).blame⟩
    unfold Model.drawing
    rw [h_net]
    exact h_rest

end

/-! ### Exact numbers -/

section Exact

variable {α : Type} [Field α] [LinearOrder α] [IsStrictOrderedRing α] [Scalar α]

/-- **Exact drawings are broken** exactly when an edge is crowded; the first of these decides. -/
theorem broken_iff_crowded [ExactLength α] (h_finite : ∀ a : α, Scalar.isFinite a = true)
    {net : Network} {settings : Settings α} {width height : α} {e : RenderError} :
    Broken net settings width height e ↔
      ∃ before bent after, keptEdges net.flags.simple net.edges = before ++ bent :: after ∧
        (∀ b ∈ before, ¬ Crowded (net.place settings width height) settings.bendiness b) ∧
        Crowded (net.place settings width height) settings.bendiness bent ∧
        e = .noArc bent.1.source bent.1.target := by
  simp only [← not_hasRoute_iff, not_not]
  constructor
  · intro h
    cases h with
    | noArc h_split h_before h_none => exact ⟨_, _, _, h_split, h_before, h_none, rfl⟩
    | @notFinite layout before after c _ _ _ h_c =>
      -- no command is refused where every number is finite
      rw [Command.isFinite_iff.2 fun a _ => h_finite a] at h_c
      cases h_c
  · rintro ⟨before, bent, after, h_split, h_before, h_none, rfl⟩
    exact .noArc h_split h_before h_none

end Exact

/-! ### Surfaces -/

section

variable {α σ : Type} [Add α] [Sub α] [Mul α] [Div α] [Neg α] [NatCast α] [LT α] [DecidableLT α]
  [BEq α] [Scalar α] [Surface σ α]

/-- A surface that records fails as the commands of the source text do. -/
theorem Records.drawSource_eq_error_iff {extend : σ → List (Command α) → σ}
    (h : Records extend) {source : String} {settings : Settings α} {s : σ} {f : Failure} :
    (∃ s', drawSource source settings s = .error f s') ↔
      commandsOf source settings (Surface.size s).1 (Surface.size s).2 = .error f := by
  rw [h.drawSource_eq_commandsOf]
  cases commandsOf source settings (Surface.size s).1 (Surface.size s).2 <;> simp

end

/-- **With enough room** nothing is broken. -/
theorem not_broken_of_roomy {net : Network} {settings : Settings ℝ} {width height : ℝ}
    (h : Roomy net.vertices.length settings.ringRadius settings.bendiness) (e : RenderError) :
    ¬ Broken net settings width height e := by
  rw [broken_iff_crowded fun _ => rfl]
  rintro ⟨before, bent, after, h_split, -, h_crowded, -⟩
  -- the crowded edge is one of those that are drawn, and all of these have routes
  have h_kept : bent ∈ keptEdges net.flags.simple net.edges := by
    rw [h_split]
    exact List.mem_append_right before List.mem_cons_self
  exact not_hasRoute_iff.2 h_crowded (hasRoute_of_mem_keptEdges h h_kept)

/-- **When the program is to blame.** A source text fails by the fault of the program exactly if the
first edge without a route has no arc, or if all edges have routes and a command is not finite. In
exact numbers that are all finite it is the first edge that is moved off the straight line between
places next to each other, or moved next to nothing. In real numbers a source text fails by the
fault of the program never, if the ring has room for its edges. -/
theorem blamed_exact (source : String) :
    (∀ {α σ : Type} [Add α] [Sub α] [Mul α] [Div α] [Neg α] [NatCast α] [LT α] [DecidableLT α]
      [BEq α] [Scalar α] [Surface σ α] {extend : σ → List (Command α) → σ}, Records extend →
      ∀ (settings : Settings α) (s : σ) (f : Failure),
        (∃ s', drawSource source settings s = .error f s') ∧ f.blame = .program ↔
          ∃ m net e, Notation.read source = .ok m ∧ Network.ofModel? m = .ok net ∧
            f = .render e ∧ Broken net settings (Surface.size s).1 (Surface.size s).2 e) ∧
    (∀ {α : Type} [Field α] [LinearOrder α] [IsStrictOrderedRing α] [Scalar α] [ExactLength α],
      (∀ a : α, Scalar.isFinite a = true) →
      ∀ (net : Network) (settings : Settings α) (width height : α) (e : RenderError),
        Broken net settings width height e ↔
          ∃ before bent after, keptEdges net.flags.simple net.edges = before ++ bent :: after ∧
            (∀ b ∈ before, ¬ Crowded (net.place settings width height) settings.bendiness b) ∧
            Crowded (net.place settings width height) settings.bendiness bent ∧
            e = .noArc bent.1.source bent.1.target) ∧
    ∀ (settings : Settings ℝ) (s s' : Canvas ℝ) (f : Failure),
      (∀ m, Notation.read source = .ok m →
        Roomy m.vertices.length settings.ringRadius settings.bendiness) →
      drawSource source settings s = .error f s' → f.blame = .input := by
  refine ⟨?program, ?exact, ?roomy⟩
  case program =>
    intro α σ _ _ _ _ _ _ _ _ _ _ _ extend h_records settings s f
    rw [h_records.drawSource_eq_error_iff]
    exact commandsOf_blamed_iff
  case exact =>
    intro α _ _ _ _ _ h_finite net settings width height e
    exact broken_iff_crowded h_finite
  case roomy =>
    intro settings s s' f h_roomy h_fails
    have h_error := Canvas.records.drawSource_eq_error_iff.1 ⟨s', h_fails⟩
    cases h_blame : f.blame with
    | input => rfl
    | program =>
      -- a failure that is blamed on the program is a broken network, and with enough room there is
      -- none
      obtain ⟨m, net, e, h_read, h_net, -, h_broken⟩ :=
        commandsOf_blamed_iff.1 ⟨h_error, h_blame⟩
      have h_room := h_roomy m h_read
      -- the room is counted for the vertices of the model, and a network has as many
      have h_count : net.vertices.length = m.vertices.length := by
        rw [(Network.parts_of_ofModel? h_net).2.1, List.length_map]
      rw [← h_count] at h_room
      exact absurd h_broken (not_broken_of_roomy h_room e)

/-! ### Two edges on a ring without a radius -/

/-- Two edges between two vertices. -/
private def doubled : String := "a,b\na-b\na-b"

/-- The settings with a ring of the given radius. -/
private noncomputable def onRing (radius : ℝ) : Settings ℝ :=
  { Settings.standard with ringRadius := radius }

/-- The model that they denote. -/
private def doubledModel : Model :=
  { vertices := ["a", "b"], edges := [⟨0, 1⟩, ⟨0, 1⟩] }

private theorem read_doubled : Notation.read doubled = .ok doubledModel := by
  decide +kernel

/-- A canvas that nothing is drawn on. -/
private noncomputable def blank : Canvas ℝ where
  width := 300
  height := 300

/-- On a ring without a radius all slots are in one place, so the second edge is crowded. -/
private theorem exists_broken_onRing :
    ∃ net, Network.ofModel? doubledModel = .ok net ∧
      Broken net (onRing 0) 300 300 (.noArc 0 1) := by
  obtain ⟨net, h_net⟩ : ∃ net, Network.ofModel? doubledModel = .ok net := by
    rw [Network.ofModel?_eq (by decide : doubledModel.InRange) (by decide)]
    exact ⟨_, rfl⟩
  obtain ⟨h_flags, -, h_edges⟩ := Network.parts_of_ofModel? h_net
  -- the second edge repeats the first, so it is the one that is moved off the line
  have h_kept : keptEdges net.flags.simple net.edges =
      [(⟨0, 1⟩, Bend.after [] ⟨0, 1⟩), (⟨0, 1⟩, Bend.after [⟨0, 1⟩] ⟨0, 1⟩)] := by
    rw [h_flags, h_edges]
    change keptEdges false [⟨0, 1⟩, ⟨0, 1⟩] = _
    rw [keptEdges_plain, bends_eq]
    rfl
  -- on a ring without a radius all places are the centre
  have h_place : ∀ i j, (net.place (onRing 0) 300 300 i).distance
      (net.place (onRing 0) 300 300 j) = 0 := by
    intro i j
    refine (distance_slotPosition _ i j _ _).trans ?_
    simp [onRing]
  refine ⟨net, h_net, (broken_iff_crowded fun _ => rfl).2
    ⟨[_], (⟨0, 1⟩, Bend.after [⟨0, 1⟩] ⟨0, 1⟩), [], h_kept, fun b h_b => ?_, ?_, rfl⟩⟩
  · -- the first edge is a straight line
    rw [List.mem_singleton.1 h_b]
    exact fun h_crowded => h_crowded.later rfl
  · constructor
    case notLoop => rfl
    case later => exact Nat.one_ne_zero
    case bends => exact (by norm_num [nat] : (nat 10 : ℝ) ≠ 0)
    case close =>
      rw [h_place]
      exact Or.inl epsilon_pos.le

/-- Settings and a surface of finite numbers, and a failure of the program: the ring has no radius
for the second edge between two vertices to be drawn on. -/
theorem blamed_without_radius :
    ∃ s' : Canvas ℝ, drawSource doubled (onRing 0) blank =
      .error (.render (.noArc 0 1)) s' ∧ (Failure.render (.noArc 0 1)).blame = .program := by
  obtain ⟨net, h_net, h_broken⟩ := exists_broken_onRing
  obtain ⟨h_error, h_blame⟩ := commandsOf_blamed_iff.2
    ⟨doubledModel, net, _, read_doubled, h_net, rfl, h_broken⟩
  obtain ⟨s', h_fails⟩ := Canvas.records.drawSource_eq_error_iff (s := blank) |>.2 h_error
  -- the failure of the source text is that of its network, and a canvas is one of the surfaces that
  -- fail
  exact ⟨s', h_fails, h_blame⟩

/-- On a ring with the standard radius they are drawn, or the input is to blame. -/
theorem blamed_exact_doubled :
    Roomy doubledModel.vertices.length (onRing 100).ringRadius (onRing 100).bendiness ∧
      (∃ net, Network.ofModel? doubledModel = .ok net ∧
        Broken net (onRing 0) 300 300 (.noArc 0 1) ∧
        ∃ s', drawSource doubled (onRing 0) blank =
          .error (.render (.noArc 0 1)) s') ∧
      ∀ f s', drawSource doubled (onRing 100) blank =
        .error f s' → f.blame = .input := by
  -- the standard ring has enough room for two vertices, and two there are
  have h_roomy : Roomy doubledModel.vertices.length (onRing 100).ringRadius
      (onRing 100).bendiness := by
    have h_standard : Roomy doubledModel.vertices.length (Settings.standard (α := ℝ)).ringRadius _ :=
      roomy_standard (by decide)
    simpa [onRing, Settings.standard] using h_standard
  obtain ⟨net, h_net, h_broken⟩ := exists_broken_onRing
  refine ⟨h_roomy, ⟨net, h_net, h_broken, ?_⟩, fun f s' h_fails => ?_⟩
  · exact (((blamed_exact doubled).1 Canvas.records (onRing 0) _ _).2
      ⟨doubledModel, net, _, read_doubled, h_net, rfl, h_broken⟩).1
  · refine (blamed_exact doubled).2.2 (onRing 100) _ s' f (fun m h_read => ?_) h_fails
    obtain rfl := Except.ok.inj (read_doubled.symm.trans h_read)
    exact h_roomy

end RingDiagram
