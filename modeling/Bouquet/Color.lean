import Bouquet.Numeric.Binary32

/-!
# Colors

Premultiplied RGBA colors with components between zero and one.
-/

namespace Bouquet

/-- A premultiplied color. -/
structure Color where
  r : Float32
  g : Float32
  b : Float32
  a : Float32
  deriving BEq, Inhabited

namespace Color

/-- A color without transparency. -/
def ofRgb (r g b : Float32) : Color := ⟨r, g, b, 1⟩

def transparent : Color := ⟨0, 0, 0, 0⟩

def white : Color := ofRgb 1 1 1

def red : Color := ofRgb 1 0 0

def blue : Color := ofRgb 0 0 1

def yellow : Color := ofRgb 1 1 0

def gray : Color := ofRgb 0.5 0.5 0.5

/-- An eight-bit channel as a fraction of its largest value. -/
def unit (channel : UInt8) : Float32 :=
  Binary32.ofNat channel.toNat / 255

/-- A color from straight eight-bit channels: each color channel is multiplied by the opacity. -/
def ofRgba8 (r g b a : UInt8) : Color :=
  let alpha := unit a
  ⟨unit r * alpha, unit g * alpha, unit b * alpha, alpha⟩

/-- A color without transparency from eight-bit channels. -/
def ofRgb8 (r g b : UInt8) : Color := ofRgba8 r g b 255

/-- A skin value: transparency, red, green and blue from the highest byte to the lowest. The top
byte counts transparency, so zero there means fully visible. -/
def ofSkin (value : UInt32) : Color :=
  let transparency : UInt8 := (value >>> 24).toUInt8
  ofRgba8 (value >>> 16).toUInt8 (value >>> 8).toUInt8 value.toUInt8 (255 - transparency)

/-- Whether the color would draw anything. -/
def isVisible (c : Color) : Bool := c.a > 0

end Color

end Bouquet
