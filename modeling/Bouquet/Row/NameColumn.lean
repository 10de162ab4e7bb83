import Bouquet.Row.Fields

/-!
# The column of the name

The name shares its rectangle with the icons that the options put before or after it and, where the
title of the running event has no field of its own, with that title: behind the name on the same
line, or on a second line.

## Main definitions

- `Scene.inlineIcons`: the icons on one side of the name
- `Scene.placeIcons`: icons set side by side
- `Scene.namePieces`: the whole column
-/

namespace Bouquet.Scene

open Binary32 (minNum)

/-- The gap between neighbours in the column. -/
def gap (s : Scene) : Float32 :=
  Binary32.ofNat s.options.itemsDistance.toNat

/-! ## Inline icons -/

/-- An icon of the pixmap table with its part, if the slot is filled. -/
def tagged? (s : Scene) (part : Part) (slot : Icon) : Option (Part × Pixmap) :=
  (s.look.icons slot).map fun pixmap => (part, pixmap)

/-- The recording icon, which stands before the name unless it has a field of its own. -/
def inlineRecording? (s : Scene) (side : IconMode) : Option (Part × Pixmap) :=
  if side == .beforeName && s.options.recordMode == .icon && (s.look.places .recordIcon).isNone
      && s.isRecorded .any then
    s.tagged? (.recording .recordInline) .recordInline
  else none

/-- The delivery icon, on the side that the options name. -/
def inlineDelivery? (s : Scene) (side : IconMode) : Option (Part × Pixmap) :=
  if s.options.typeIconMode == side then
    s.deliverySlot?.bind fun slot => s.tagged? (.delivery slot) slot
  else none

/-- The icon of scrambled services, on the side that the options name. -/
def inlineCrypto? (s : Scene) (side : IconMode) : Option (Part × Pixmap) :=
  if s.options.cryptoIconMode == side && s.infoHolds ServiceInfo.crypted then
    s.tagged? .crypto .crypto
  else none

/-- The icons on one side of the name; only services and groups have any. -/
def inlineIcons (s : Scene) (side : IconMode) : List (Part × Pixmap) :=
  if s.isPlayable then
    (s.inlineRecording? side).toList ++ (s.inlineDelivery? side).toList
      ++ (s.inlineCrypto? side).toList
  else []

/-- The width of an icon that is as high as its area, no wider than the area. -/
def iconWidth (pixmap : Pixmap) (area : Rect) : Float32 :=
  minNum (area.height * Binary32.ofNat pixmap.width / Binary32.ofNat pixmap.height) area.width

/-- Icons side by side from the left end of an area, and what is left of the area. -/
def placeIcons (s : Scene) : List (Part × Pixmap) → Rect → Except Fault (List Piece × Rect)
  | [], area => .ok ([], area)
  | (part, pixmap) :: icons, area => do
    let (left, rest) ← area.splitLeft (iconWidth pixmap area) s.gap
    let (pieces, rest) ← s.placeIcons icons rest
    pure ((Piece.picture part .name left pixmap).toList ++ pieces, rest)

/-! ## The column -/

/-- The line of the name and, with two lines, the line below. -/
def nameLines (s : Scene) (rect : Rect) : Rect × Option Rect :=
  if s.options.showTwoLines then
    let (top, bottom) := rect.splitRows
    (top, some bottom)
  else (rect, none)

/-- The width of the name: the configured one, else as wide as the text, and no wider than the
area. -/
def nameWidth (s : Scene) (area : Rect) : Float32 :=
  let width := Binary32.ofNat s.options.columnWidth.toNat
  minNum (if width > 0 then width else (s.font .name).measure s.subject.name) area.width

/-- The title of the running event where it has no field of its own. -/
def inlineTitle (s : Scene) (rect : Rect) : Option Piece :=
  if s.isPlayable && (s.look.places .nowTitle).isNone then s.nowTitlePiece rect else none

/-- The column of the name. -/
def namePieces (s : Scene) (rect : Rect) : Except Fault (List Piece) := do
  let (line, second) := s.nameLines rect
  let (before, area) ← s.placeIcons (s.inlineIcons .beforeName) line
  let (nameRect, rest) ← area.splitLeft (s.nameWidth area) s.gap
  let name := s.caption .name .name nameRect s.subject.name s.foreground .left
  let (after, rest) ← s.placeIcons (s.inlineIcons .afterName) rest
  let title := s.inlineTitle (second.getD rest)
  pure (before ++ name.toList ++ after ++ title.toList)

end Bouquet.Scene
