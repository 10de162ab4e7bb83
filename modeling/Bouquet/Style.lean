import Bouquet.Font
import Bouquet.Pixmap.Basic

/-!
# Window styles

What the active window style gives to every row that configures nothing itself.
-/

namespace Bouquet

/-- The defaults of a window style. `backdrop` is the pixmap behind a row, by selection state. -/
structure Style where
  background : Color
  backgroundSelected : Color
  foreground : Color
  foregroundSelected : Color
  font : Font
  backdrop : Bool → Option Pixmap

namespace Style

/-- A plain style: dark background, light text, no pixmap. -/
def plain : Style :=
  { background := Color.ofRgb8 16 16 32
    backgroundSelected := Color.ofRgb8 51 102 204
    foreground := Color.ofRgb8 230 230 230
    foregroundSelected := Color.white
    font := Font.regular
    backdrop := fun _ => none }

/-- The style with a pixmap behind selected rows. -/
def withSelectionPixmap (s : Style) (pixmap : Option Pixmap) : Style :=
  { s with backdrop := fun selected => if selected then pixmap else none }

/-- The background color of a row. -/
def rowBackground (s : Style) (selected : Bool) : Color :=
  if selected then s.backgroundSelected else s.background

/-- The text color of a row. -/
def rowForeground (s : Style) (selected : Bool) : Color :=
  if selected then s.foregroundSelected else s.foreground

end Style

end Bouquet
