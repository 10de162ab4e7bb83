import Bouquet.Style

/-!
# The recording canvas

A canvas records draw commands, already cut to the active clip, in the order of the calls.

## Main definitions

- `DrawCall`: a primitive with the rectangle that it asks for
- `Canvas`: commands, active clip and saved clips
- `Canvas.save`, `Canvas.restore`, `Canvas.clipTo`, `Canvas.draw`
- `CanvasOp`, `Canvas.run`: programs over a canvas
-/

namespace Bouquet

/-! ## Shapes and calls -/

/-- What a draw call puts into its rectangle. -/
inductive Shape where
  | fill (color : Color)
  | stroke (color : Color) (width : Float32)
  | pixmap (pixmap : Pixmap)
  | text (text : String) (font : Font) (color : Color) (align : TextAlign)

/-- The text of a shape, if it is one. -/
def Shape.text? : Shape → Option String
  | .text shown _ _ _ => some shown
  | _ => none

/-- The color of a shape, if it has one. -/
def Shape.color? : Shape → Option Color
  | .fill color => some color
  | .stroke color _ => some color
  | .text _ _ color _ => some color
  | .pixmap _ => none

/-- An empty text draws nothing. -/
def Shape.isBlank : Shape → Bool
  | .text shown _ _ _ => shown.isEmpty
  | _ => false

/-- A shape in a rectangle. -/
structure DrawCall where
  rect : Rect
  shape : Shape

/-! ## The canvas -/

/-- The recorded commands, the active clip and the clips saved below it, the latest first. Without
a clip everything is visible; an empty clip hides everything. -/
structure Canvas where
  commands : List DrawCall
  clip : Option Rect
  saved : List (Option Rect)

namespace Canvas

/-- A canvas on which nothing was drawn. -/
def empty : Canvas := ⟨[], none, []⟩

/-- The recorded texts in order. -/
def texts (c : Canvas) : List String :=
  c.commands.filterMap fun command => command.shape.text?

/-- Puts the active clip on the stack. -/
def save (c : Canvas) : Canvas :=
  { c with saved := c.clip :: c.saved }

/-- Takes back the clip saved last; nothing happens when none is. -/
def restore (c : Canvas) : Canvas :=
  match c.saved with
  | [] => c
  | clip :: saved => { c with clip := clip, saved := saved }

/-- The clip narrowed to `rect`; empty when the two do not overlap. -/
def narrowed (clip : Option Rect) (rect : Rect) : Rect :=
  match clip with
  | some current => (current.intersect rect).getD Rect.zero
  | none => rect

/-- Narrows the active clip to `rect`. -/
def clipTo (c : Canvas) (rect : Rect) : Canvas :=
  { c with clip := some (narrowed c.clip rect) }

/-- The visible part of `rect` under a clip. -/
def visible (clip : Option Rect) (rect : Rect) : Option Rect :=
  match clip with
  | some clip => clip.intersect rect
  | none => if rect.isEmpty then none else some rect

/-- What the canvas records for a call: its visible part, unless there is none or nothing to
draw. -/
def recorded (c : Canvas) (call : DrawCall) : Option DrawCall :=
  if call.shape.isBlank then none
  else (visible c.clip call.rect).map fun rect => { call with rect := rect }

/-- Records a call. -/
def draw (c : Canvas) (call : DrawCall) : Canvas :=
  { c with commands := c.commands ++ (c.recorded call).toList }

/-- Forgets the commands, the clip and the saved clips. -/
def clear (_ : Canvas) : Canvas := empty

end Canvas

/-! ## Programs -/

/-- One call on a canvas. -/
inductive CanvasOp where
  | save
  | restore
  | clip (rect : Rect)
  | draw (call : DrawCall)
  | clear

/-- The canvas after one call. -/
def Canvas.step (c : Canvas) : CanvasOp → Canvas
  | .save => c.save
  | .restore => c.restore
  | .clip rect => c.clipTo rect
  | .draw call => c.draw call
  | .clear => c.clear

/-- The canvas after a program. -/
def Canvas.run (c : Canvas) (ops : List CanvasOp) : Canvas :=
  ops.foldl Canvas.step c

end Bouquet
