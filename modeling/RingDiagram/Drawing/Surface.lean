import RingDiagram.Drawing.Painting
import RingDiagram.Notation.Reading

/-!
# Surfaces

A surface is a drawing target of a known size that takes commands one by one and may refuse one.
Rendering builds the whole list of commands before the first is drawn. An action that fails still
leaves a surface behind, so what a failed rendering does to it can be stated.
-/

namespace RingDiagram

/-- A drawing target. -/
class Surface (σ : Type) (α : outParam Type) where
  /-- Width and height. -/
  size : σ → α × α
  /-- Draws a command, or refuses it. -/
  draw : Command α → EStateM SurfaceError σ Unit

variable {α σ : Type} [Surface σ α]

/-- Draws the commands in order, up to the first that is refused. -/
def replay (commands : List (Command α)) : EStateM RenderError σ Unit :=
  commands.forM fun command => (Surface.draw command).adaptExcept .surface

variable [Add α] [Sub α] [Mul α] [Div α] [Neg α] [NatCast α] [LT α] [DecidableLT α] [BEq α]
  [Scalar α]

/-- Draws a model. -/
def drawModel (m : Model) (settings : Settings α) : EStateM RenderError σ Unit := do
  let (width, height) := Surface.size (← get)
  -- everything that can go wrong does so before the first command is drawn
  match m.drawing settings width height with
  | .error e => throw e
  | .ok commands => replay commands

/-- Draws the model that a source text denotes. -/
def drawSource (source : String) (settings : Settings α) : EStateM Failure σ Unit :=
  match Notation.read source with
  | .error e => throw (.parse e)
  | .ok m => (drawModel m settings).adaptExcept .render

end RingDiagram
