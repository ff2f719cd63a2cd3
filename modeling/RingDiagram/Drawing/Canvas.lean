import RingDiagram.Drawing.Surface

/-!
# Canvases

A canvas is a surface that records the commands drawn on it, for hosts that draw by themselves.
-/

namespace RingDiagram

/-- A surface that records what is drawn on it. -/
structure Canvas (α : Type) where
  width : α
  height : α
  commands : Array (Command α) := #[]

namespace Canvas

variable {α : Type}

/-- The canvas with one more command. -/
def record (c : Canvas α) (command : Command α) : Canvas α :=
  { c with commands := c.commands.push command }

/-- Records a command that is finite. -/
def draw [Scalar α] (command : Command α) : EStateM SurfaceError (Canvas α) Unit := fun c =>
  match command.requireFinite with
  | .error e => .error e c
  | .ok () => .ok () (c.record command)

instance [Scalar α] : Surface (Canvas α) α where
  size c := (c.width, c.height)
  draw := draw

end Canvas

end RingDiagram
