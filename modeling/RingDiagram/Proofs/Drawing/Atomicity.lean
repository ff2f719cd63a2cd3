import RingDiagram.Drawing.Canvas
import RingDiagram.Drawing.Svg.Document
import RingDiagram.Proofs.Outcome

/-!
# Drawing all or nothing

A surface may refuse any command, and a drawing is replayed on it command by command, so a refusal
in the middle would leave half a drawing behind. None comes: a canvas and a document refuse only
commands that are not finite, and `Model.drawing` lets no such command through.

* `Records` is what the two surfaces have in common: drawing a finite command records it, and any
  other command is refused and leaves the surface as it was. `Canvas.extend` and
  `Svg.Document.extend` say what recording is for each of them;
* `Records.replay_eq` replays commands that are all finite, `isFinite_of_drawing` says that those
  of a drawing are;
* `Atomic` is the result, for a single command, a model, a source text, and any history of the
  three. It follows from `Records` alone (`Records.atomic`), so it holds of both surfaces
  (`surfaces_atomic`).
-/

namespace RingDiagram

/-! ### Surfaces that record -/

section

variable {α σ : Type} [Surface σ α]

/-- A replay goes on after a command that is drawn. -/
theorem replay_cons (c : Command α) (commands : List (Command α)) (s : σ) :
    replay (c :: commands) s =
      match Surface.draw c s with
      | .ok () s' => replay commands s'
      | .error e s' => .error (.surface e) s' := by
  change EStateM.bind (EStateM.adaptExcept RenderError.surface (Surface.draw c))
    (fun _ => replay commands) s = _
  unfold EStateM.bind EStateM.adaptExcept
  cases Surface.draw c s <;> rfl

variable [Scalar α]

/-- A surface that records finite commands and refuses all others. `extend` gives the surface that
has recorded more commands. -/
structure Records (extend : σ → List (Command α) → σ) : Prop where
  size_extend : ∀ s commands, Surface.size (extend s commands) = Surface.size s
  extend_nil : ∀ s, extend s [] = s
  extend_append : ∀ s xs ys, extend s (xs ++ ys) = extend (extend s xs) ys
  draw_eq : ∀ (c : Command α) (s : σ), Surface.draw c s =
    if c.isFinite then .ok () (extend s [c]) else .error (.notFinite c.kind) s

/-- **A replay of finite commands** records them all, as no surface refuses one of them. -/
theorem Records.replay_eq {extend : σ → List (Command α) → σ} (h : Records extend)
    {commands : List (Command α)} (h_finite : ∀ c ∈ commands, c.isFinite = true) (s : σ) :
    replay commands s = .ok () (extend s commands) := by
  induction commands generalizing s with
  | nil =>
    rw [h.extend_nil]
    rfl
  | cons c commands ih =>
    have h_draw := h.draw_eq c s
    -- the first command is finite, so the surface has recorded it when the others come
    rw [if_pos (h_finite c List.mem_cons_self)] at h_draw
    have h_rest := ih (fun d hd => h_finite d (List.mem_cons_of_mem c hd)) (extend s [c])
    rw [← h.extend_append] at h_rest
    rw [replay_cons, h_draw]
    exact h_rest

/-- The canvas with more commands, in order. -/
def Canvas.extend (c : Canvas α) (commands : List (Command α)) : Canvas α :=
  { c with commands := c.commands ++ commands.toArray }

theorem Canvas.records : Records (Canvas.extend : Canvas α → List (Command α) → Canvas α) where
  size_extend _ _ := rfl
  extend_nil c := by simp [extend]
  extend_append c xs ys := by simp [extend]
  draw_eq command c := by
    change draw command c = _
    unfold draw Command.requireFinite
    cases command.isFinite with
    | true => simp [extend, record]
    | false => rfl

/-- The document with the elements of more commands, in order. -/
def Svg.Document.extend (d : Svg.Document) (commands : List (Command Float)) : Svg.Document :=
  { d with
    elements := d.elements ++ (commands.filterMap (Svg.element? d.width d.height)).toArray }

theorem Svg.Document.records : Records Svg.Document.extend where
  size_extend _ _ := rfl
  extend_nil d := by simp [extend]
  extend_append d xs ys := by simp [extend]
  draw_eq command d := by
    change draw command d = _
    unfold draw Command.requireFinite
    cases command.isFinite with
    | true =>
      -- a command without an element is recorded by no change at all
      cases h_element : Svg.element? d.width d.height command <;> simp [extend, add, h_element]
    | false => rfl

end

/-! ### Requests to a surface -/

/-- What can be asked of a surface. -/
inductive Request (α : Type) where
  | command (c : Command α)
  | model (m : Model) (settings : Settings α)
  | source (text : String) (settings : Settings α)

/-- The surface that an action leaves behind, whether it succeeded or failed. -/
def surfaceAfter {ε σ β : Type} : EStateM.Result ε σ β → σ
  | .ok _ s => s
  | .error _ s => s

variable {α : Type} [Add α] [Sub α] [Mul α] [Div α] [Neg α] [NatCast α] [LT α] [DecidableLT α]
  [BEq α] [Scalar α]

namespace Request

/-- The commands that a request comes to on a surface of the given size: none if it fails. -/
def commands (width height : α) : Request α → List (Command α)
  | .command c => if c.isFinite then [c] else []
  | .model m settings => (m.drawing settings width height).toOption.getD []
  | .source text settings =>
    match Notation.read text with
    | .error _ => []
    | .ok m => (m.drawing settings width height).toOption.getD []

/-- The surface after a request. -/
def after {σ : Type} [Surface σ α] (s : σ) : Request α → σ
  | .command c => surfaceAfter (Surface.draw c s)
  | .model m settings => surfaceAfter (drawModel m settings s)
  | .source text settings => surfaceAfter (drawSource text settings s)

end Request

variable {σ : Type} [Surface σ α]

/-- The surface after a history of requests, of which any may have failed. -/
def afterHistory (s : σ) (history : List (Request α)) : σ :=
  history.foldl Request.after s

/-- **All or nothing.** A request either records all the commands that it comes to on a surface of
this size, or fails and leaves the surface as it was. -/
structure Atomic (extend : σ → List (Command α) → σ) : Prop where
  /-- A command is recorded exactly when it is finite. -/
  command : ∀ (c : Command α) (s : σ), Surface.draw c s =
    if c.isFinite then .ok () (extend s [c]) else .error (.notFinite c.kind) s
  /-- A model is drawn exactly when it has a drawing of the size of the surface. -/
  model : ∀ (m : Model) (settings : Settings α) (s : σ), drawModel m settings s =
    match m.drawing settings (Surface.size s).1 (Surface.size s).2 with
    | .ok commands => .ok () (extend s commands)
    | .error e => .error e s
  /-- A source text is drawn exactly when it denotes a model and that has such a drawing. -/
  source : ∀ (text : String) (settings : Settings α) (s : σ), drawSource text settings s =
    match Notation.read text with
    | .error e => .error (.parse e) s
    | .ok m =>
      match m.drawing settings (Surface.size s).1 (Surface.size s).2 with
      | .ok commands => .ok () (extend s commands)
      | .error e => .error (.render e) s
  /-- Of a history, the commands of the requests that succeeded remain, in order. -/
  history : ∀ (history : List (Request α)) (s : σ), afterHistory s history =
    extend s (history.flatMap (Request.commands (Surface.size s).1 (Surface.size s).2))

/-! ### Whole drawings -/

/-- The commands of a drawing are finite. -/
theorem isFinite_of_drawing {m : Model} {settings : Settings α} {width height : α}
    {commands : List (Command α)} (h : m.drawing settings width height = .ok commands) :
    ∀ c ∈ commands, c.isFinite = true := by
  unfold Model.drawing at h
  obtain ⟨net, -, h⟩ := bind_eq_ok_iff.1 h
  obtain ⟨layout, -, h⟩ := bind_eq_ok_iff.1 h
  -- the last step of a drawing lets its commands through only if it finds none that is not finite
  unfold allFinite at h
  split at h
  · cases h
  · next h_none =>
    cases h
    intro c h_c
    simpa using List.find?_eq_none.1 h_none c h_c

namespace Records

variable {extend : σ → List (Command α) → σ} (h : Records extend)
include h

/-- A model is drawn as a whole or not at all. -/
theorem drawModel_eq (m : Model) (settings : Settings α) (s : σ) :
    drawModel m settings s =
      match m.drawing settings (Surface.size s).1 (Surface.size s).2 with
      | .ok commands => .ok () (extend s commands)
      | .error e => .error e s := by
  -- the size is looked up on the surface that the drawing is then replayed on
  unfold drawModel
  change EStateM.bind EStateM.get _ s = _
  unfold EStateM.bind EStateM.get
  dsimp only
  cases h_drawing : m.drawing settings (Surface.size s).1 (Surface.size s).2 with
  | error e => rfl
  | ok commands => exact h.replay_eq (isFinite_of_drawing h_drawing) s

/-- A source text is drawn as a whole or not at all. -/
theorem drawSource_eq (text : String) (settings : Settings α) (s : σ) :
    drawSource text settings s =
      match Notation.read text with
      | .error e => .error (.parse e) s
      | .ok m =>
        match m.drawing settings (Surface.size s).1 (Surface.size s).2 with
        | .ok commands => .ok () (extend s commands)
        | .error e => .error (.render e) s := by
  unfold drawSource
  cases Notation.read text with
  | error e => rfl
  | ok m =>
    have h_model := h.drawModel_eq m settings s
    simp only [EStateM.adaptExcept, h_model]
    cases m.drawing settings (Surface.size s).1 (Surface.size s).2 <;> rfl

/-- **One request** leaves the surface with the commands that it comes to. -/
theorem after_eq (s : σ) (r : Request α) :
    r.after s = extend s (r.commands (Surface.size s).1 (Surface.size s).2) := by
  cases r with
  | command c =>
    rw [Request.after, Request.commands, h.draw_eq]
    split
    · rfl
    · -- a command that is refused counts for no commands, and recording none is no change
      exact (h.extend_nil s).symm
  | model m settings =>
    rw [Request.after, Request.commands, h.drawModel_eq]
    cases m.drawing settings (Surface.size s).1 (Surface.size s).2 with
    | error e => exact (h.extend_nil s).symm
    | ok commands => rfl
  | source text settings =>
    rw [Request.after, Request.commands, h.drawSource_eq]
    cases Notation.read text with
    | error e => exact (h.extend_nil s).symm
    | ok m =>
      dsimp only
      cases m.drawing settings (Surface.size s).1 (Surface.size s).2 with
      | error e => exact (h.extend_nil s).symm
      | ok commands => rfl

/-- **A history of requests** leaves the surface with the commands of all of them. The size stays
the same, so every request comes to the commands it would come to on the surface at the start. -/
theorem afterHistory_eq (s : σ) (history : List (Request α)) :
    afterHistory s history =
      extend s (history.flatMap (Request.commands (Surface.size s).1 (Surface.size s).2)) := by
  unfold afterHistory
  induction history generalizing s with
  | nil => exact (h.extend_nil s).symm
  -- the rest is drawn on the surface after the first request, which has the size of the one before
  | cons r history ih =>
    rw [List.foldl_cons, ih, h.after_eq, h.size_extend, ← h.extend_append, List.flatMap_cons]

/-- A surface that records draws all or nothing. -/
theorem atomic : Atomic extend where
  command := h.draw_eq
  model := h.drawModel_eq
  source := h.drawSource_eq
  history := fun history s => h.afterHistory_eq s history

end Records

/-- **Canvases and documents draw all or nothing.** Whatever was asked of one before, drawing a
model on it succeeds exactly when the model has a drawing of its size, and a source text exactly
when it denotes such a model; a canvas then holds its old commands and those of the drawing, a
document its old elements and those of the commands. Whatever fails leaves it as it was. -/
theorem surfaces_atomic :
    Atomic (Canvas.extend : Canvas α → List (Command α) → Canvas α) ∧
      Atomic Svg.Document.extend :=
  ⟨Canvas.records.atomic, Svg.Document.records.atomic⟩

end RingDiagram
