import Bouquet.Look.Kind
import Bouquet.Options.Document
import Bouquet.Style

/-!
# The look of a list

Everything that a widget configures about its rows: mode, place and font of every field, the pixmap
and the color table, and the options.

## Main definitions

- `ColorTable`: colors with a mark for those that are set
- `Look`, `Look.rowRect`
- `LookChange`, `Look.apply`: one change of the configuration
-/

namespace Bouquet

/-- A table with another value at one slot. -/
def assign {ι α : Type} [DecidableEq ι] (table : ι → α) (slot : ι) (value : α) : ι → α :=
  fun other => if other = slot then value else table other

/-! ## Colors -/

/-- The color table. A slot that was unset keeps its color and inherits from the style. -/
structure ColorTable where
  color : Tint → Color
  isSet : Tint → Bool

namespace ColorTable

/-- The table in which every slot inherits. -/
def empty : ColorTable :=
  { color := fun _ => Color.transparent, isSet := fun _ => false }

/-- The color of a slot, if it is set. -/
def get? (t : ColorTable) (tint : Tint) : Option Color :=
  if t.isSet tint then some (t.color tint) else none

/-- The color of the first slot of a chain that is set. -/
def first? (t : ColorTable) (chain : List Tint) : Option Color :=
  chain.findSome? t.get?

/-- Sets a slot. -/
def set (t : ColorTable) (tint : Tint) (color : Color) : ColorTable :=
  { color := assign t.color tint color, isSet := assign t.isSet tint true }

/-- Returns a slot to inheriting. -/
def unset (t : ColorTable) (tint : Tint) : ColorTable :=
  { t with isSet := assign t.isSet tint false }

/-- Sets a slot or returns it to inheriting. -/
def put (t : ColorTable) (tint : Tint) : Option Color → ColorTable
  | some color => t.set tint color
  | none => t.unset tint

/-- Whether two tables agree in every slot, the colors of unset slots included. -/
def agrees (t u : ColorTable) : Bool :=
  Tint.all.all fun tint => t.color tint == u.color tint && t.isSet tint == u.isSet tint

end ColorTable

/-! ## The look -/

/-- How much of a row is shown: background and name, or every field that has a place. -/
inductive RowMode where
  | simple
  | complex
  deriving DecidableEq, Inhabited

/-- The name of a row mode. -/
def RowMode.label : RowMode → String
  | .simple => "Simple"
  | .complex => "Complex"

/-- The configuration of the rows. A field without a place is not shown, one without a font takes
that of the style. -/
structure Look where
  mode : RowMode
  places : Field → Option Rect
  fonts : Field → Option Font
  icons : Icon → Option Pixmap
  colors : ColorTable
  options : Options
  itemWidth : Float32

namespace Look

/-- The look when nothing is configured. -/
def standard : Look :=
  { mode := .simple
    places := fun _ => none
    fonts := fun _ => none
    icons := fun _ => none
    colors := ColorTable.empty
    options := Options.standard
    itemWidth := 0 }

/-- Width and height of a row. -/
def itemSize (k : Look) : Size :=
  ⟨k.itemWidth, Binary32.ofNat k.options.itemHeight.toNat⟩

/-- The rectangle of a row at the origin. -/
def rowRect (k : Look) : Rect :=
  ⟨⟨0, 0⟩, k.itemSize⟩

/-- Takes over the size of a row. The height is kept as a whole number of pixels. -/
def setSize (k : Look) (size : Size) : Look :=
  { k with
    itemWidth := size.width
    options :=
      { k.options with
        itemHeight :=
          (Binary32.toUnsigned .towardZero 32 (Binary32.maxNum size.height 0)).toUInt32 } }

end Look

/-! ## Changes -/

/-- One change of the configuration. -/
inductive LookChange where
  | mode (mode : RowMode)
  | place (field : Field) (rect : Option Rect)
  | font (field : Field) (font : Option Font)
  | icon (icon : Icon) (pixmap : Option Pixmap)
  | color (tint : Tint) (color : Option Color)
  | setting (setting : Setting)
  | options (options : Options)
  | size (size : Size)

/-- The look after a change. -/
def Look.apply (k : Look) : LookChange → Look
  | .mode mode => { k with mode := mode }
  | .place field rect => { k with places := assign k.places field rect }
  | .font field font => { k with fonts := assign k.fonts field font }
  | .icon icon pixmap => { k with icons := assign k.icons icon pixmap }
  | .color tint color => { k with colors := k.colors.put tint color }
  | .setting setting => { k with options := k.options.apply setting }
  | .options options => { k with options := options }
  | .size size => k.setSize size

/-- The look with the options that a text gives, or `none` when the text is rejected. -/
def Look.loadOptions? (k : Look) (text : String) : Option Look :=
  (Options.read? text).map fun options => k.apply (.options options)

end Bouquet
