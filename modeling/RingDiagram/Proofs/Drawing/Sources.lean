import RingDiagram.Proofs.Drawing.Atomicity

/-!
# Drawings of source texts

A source text is read and drawn before any surface is touched, so what it comes to, the commands of
its drawing or a failure, is known from the settings and the size alone (`commandsOf`). A document
of it is the text of those commands (`Svg.ofSource_eq`).
-/

namespace RingDiagram

section

variable {α : Type} [Add α] [Sub α] [Mul α] [Div α] [Neg α] [NatCast α] [LT α] [DecidableLT α]
  [BEq α] [Scalar α]

/-- The commands that a source text is drawn with on a surface of the given size. -/
def commandsOf (source : String) (settings : Settings α) (width height : α) :
    Except Failure (List (Command α)) :=
  match Notation.read source with
  | .error e => .error (.parse e)
  | .ok m => (m.drawing settings width height).mapError .render

variable {source : String} {settings : Settings α} {width height : α}

theorem commandsOf_eq_ok_iff {commands : List (Command α)} :
    commandsOf source settings width height = .ok commands ↔
      ∃ m, Notation.read source = .ok m ∧ m.drawing settings width height = .ok commands := by
  unfold commandsOf
  cases Notation.read source with
  | error e => simp
  -- the error of a drawing is wrapped, and its commands are not
  | ok m => cases h : m.drawing settings width height <;> simp [Except.mapError, h]

theorem commandsOf_eq_error_iff {f : Failure} :
    commandsOf source settings width height = .error f ↔
      (∃ e, f = .parse e ∧ Notation.read source = .error e) ∨
        ∃ m e, f = .render e ∧ Notation.read source = .ok m ∧
          m.drawing settings width height = .error e := by
  unfold commandsOf
  cases Notation.read source with
  | error e => simp [eq_comm]
  | ok m => cases h : m.drawing settings width height <;> simp [Except.mapError, h, eq_comm]

/-- **A surface that records** is left with the commands of a source text, or as it was. -/
theorem Records.drawSource_eq_commandsOf {σ : Type} [Surface σ α]
    {extend : σ → List (Command α) → σ} (h : Records extend) (s : σ) :
    drawSource source settings s =
      match commandsOf source settings (Surface.size s).1 (Surface.size s).2 with
      | .ok commands => .ok () (extend s commands)
      | .error f => .error f s := by
  rw [h.drawSource_eq, commandsOf]
  -- the error of the notation leaves the surface alone, and from there on the drawing decides
  cases Notation.read source with
  | error e => rfl
  | ok m =>
    dsimp only
    cases m.drawing settings (Surface.size s).1 (Surface.size s).2 <;> rfl

end

/-- **The document of a source text** is that of its commands. -/
theorem Svg.ofSource_eq (source : String) (settings : Settings Float) (width height : Float) :
    Svg.ofSource source settings width height =
      (commandsOf source settings width height).map fun commands =>
        (Svg.Document.extend { width, height } commands).text := by
  unfold Svg.ofSource
  -- a document is a surface that records
  rw [Svg.Document.records.drawSource_eq_commandsOf]
  simp only [Surface.size]
  cases commandsOf source settings width height <;> rfl

end RingDiagram
