import Bouquet.Pixmap.Crop
import Bouquet.Row.Piece
import Bouquet.Row.Scene
import Bouquet.Schedule.TimePattern

/-!
# Single fields

What each field of a complex row shows in its rectangle. The column of the name, which several
parts share, has a module of its own.

## Main definitions

- `Scene.numberPiece`, `Scene.markerPiece`, `Scene.folderPiece`, `Scene.piconPiece`,
  `Scene.recordPiece`, `Scene.deliveryPiece`: number and icons
- `Scene.progressPieces`: progress of the running event as text or bar
- `Scene.timePiece`, `Scene.nowTitlePiece`, `Scene.nextTitlePiece`: the events
-/

namespace Bouquet.Scene

open Binary32 (minNum)

/-- A text of a field in the field's font. -/
def caption (s : Scene) (part : Part) (field : Field) (rect : Rect) (text : String) (color : Color)
    (align : TextAlign) : Option Piece :=
  Piece.caption part field rect (s.font field) text color align

/-- An icon of the pixmap table in a field; nothing when the slot is empty. -/
def iconPiece (s : Scene) (part : Part) (field : Field) (rect : Rect) (slot : Icon) :
    Option Piece :=
  (s.look.icons slot).bind fun pixmap => Piece.picture part field rect pixmap

/-! ## Number -/

/-- Whether the entry is of a kind that shows a number. -/
def showsNumber (s : Scene) : Bool :=
  match s.kind with
  | .marker => s.subject.entry.flags.numbered && !s.options.hideNumberMarker
  | .folder | .ignore => false
  | .service | .group => true

/-- The number of the entry: that of its channel, or that of its row counted from one. -/
def number? (s : Scene) : Option Nat :=
  match s.options.numberingMode with
  | .channel => s.subject.entry.number.map UInt32.toNat
  | .position => if s.subject.row + 1 < 0x100000000 then some (s.subject.row + 1) else none

/-- The number column. -/
def numberPiece (s : Scene) (rect : Rect) : Option Piece :=
  if s.options.channelNumbersVisible && s.showsNumber then
    s.number?.bind fun number =>
      s.caption .number .number rect (toString number) s.foreground .right
  else none

/-! ## Icons -/

/-- The icon in front of a marker. -/
def markerPiece (s : Scene) (rect : Rect) : Option Piece :=
  if s.kind == .marker then s.iconPiece .marker .markerIcon rect .marker else none

/-- The icon in front of a folder or a group. -/
def folderPiece (s : Scene) (rect : Rect) : Option Piece :=
  match s.kind with
  | .folder => s.iconPiece (.folder .folder) .folderIcon rect .folder
  | .group => s.iconPiece (.folder .group) .folderIcon rect .group
  | _ => none

/-- The picture of the service, or the icon that stands in for a missing one. -/
def picon? (s : Scene) : Option Pixmap :=
  s.subject.picon <|> s.look.icons .piconFallback

/-- The pixmap cut to the configured ratio of width to height. -/
def framed (s : Scene) (pixmap : Pixmap) : Pixmap :=
  if s.options.piconRatio = 0 then pixmap
  else pixmap.croppedToRatio (Binary32.ofNat s.options.piconRatio.toNat / 100)

/-- The picon column. -/
def piconPiece (s : Scene) (rect : Rect) : Option Piece :=
  if s.isPlayable then
    s.picon?.bind fun pixmap =>
      let area := rect.deflate (Binary32.ofInt s.options.piconDownsize.toInt)
      Piece.picture .picon .picon area (s.framed pixmap)
  else none

/-- The column of the recording icon. -/
def recordPiece (s : Scene) (rect : Rect) : Option Piece :=
  if s.options.recordMode == .icon && s.isRecorded .any then
    s.iconPiece (.recording .recordColumn) .recordIcon rect .recordColumn
  else none

/-- The slot of a delivery. -/
def deliverySlot : Delivery → Icon
  | .satellite => .satellite
  | .terrestrial => .terrestrial
  | .cable => .cable
  | .stream => .stream

/-- The slot that shows how the entry is delivered; groups have one of their own. -/
def deliverySlot? (s : Scene) : Option Icon :=
  if s.kind == .group then some .group
  else s.subject.entry.delivery?.map deliverySlot

/-- The column of the delivery icon, which is empty when the icon stands beside the name. -/
def deliveryPiece (s : Scene) (rect : Rect) : Option Piece :=
  if s.options.typeIconMode == .off then
    s.deliverySlot?.bind fun slot => s.iconPiece (.delivery slot) .typeIcon rect slot
  else none

/-! ## Progress -/

/-- Where progress stands as text: in a slice of the configured width at the right end, or in the
whole rectangle when no such slice fits. -/
def progressTextRect (s : Scene) (rect : Rect) : Rect :=
  let width := Binary32.ofNat s.options.progressTextWidth.toNat
  if width > 0 && width < rect.width then
    Rect.mk4 (rect.right - width) rect.top width rect.height
  else rect

/-- Progress as text. -/
def progressText (s : Scene) (rect : Rect) (text : String) : Option Piece :=
  s.caption .progressText .progress (s.progressTextRect rect) text s.progressColor .right

/-- The passed part in percent, a half rounded up. -/
def percentText (ratio : Float32) : String :=
  toString (Binary32.toUnsigned .nearest 31 (ratio * 100)) ++ "%"

/-- The minutes left with their unit. -/
def minutesText (s : Scene) (minutes : Int) : String :=
  Text.trimEnd ("+" ++ toString minutes ++ " " ++ s.options.progressUnit)

/-- The rectangle of the whole bar: of the configured height, centered, and no higher than the
field. -/
def barRect (s : Scene) (rect : Rect) : Rect :=
  let height :=
    if s.options.progressBarHeight = 0 then rect.height
    else minNum (Binary32.ofNat s.options.progressBarHeight.toNat) rect.height
  Rect.mk4 rect.left (rect.top + (rect.height - height) / 2) rect.width height

/-- The width of the frame around the bar. -/
def barBorder (s : Scene) : Float32 :=
  Binary32.ofNat s.options.progressBarBorder.toNat

/-- The filled part of the bar, inside of its frame. -/
def filledRect (s : Scene) (rect : Rect) (ratio : Float32) : Rect :=
  let inner := (s.barRect rect).deflate s.barBorder
  inner.withWidth (inner.width * Binary32.clamp 0 1 ratio)

/-- What the bar is filled with: the configured icon, else the color. -/
def barShape (s : Scene) : Shape :=
  match s.look.icons .progressFill with
  | some pixmap => .pixmap pixmap
  | none => .fill s.progressColor

/-- The frame around the bar, if it has a width. -/
def borderPiece (s : Scene) (rect : Rect) : Option Piece :=
  if s.barBorder > 0 then
    Piece.block .progressBorder (some .progress) .border (s.barRect rect)
      (.stroke s.progressBorderColor s.barBorder)
  else none

/-- Progress of a running event in the configured form. -/
def progressOf (s : Scene) (rect : Rect) (ratio : Float32) (minutes : Option Int) : List Piece :=
  match s.options.progressMode with
  | .off => []
  | .percent => (s.progressText rect (percentText ratio)).toList
  | .minutes => (minutes.bind fun left => s.progressText rect (s.minutesText left)).toList
  | .bar =>
    (Piece.block .progressBar (some .progress) .progress (s.filledRect rect ratio)
      s.barShape).toList ++ (s.borderPiece rect).toList

/-- The progress column. It is empty while no event runs; the end of a running event has to be an
instant of the calendar. -/
def progressPieces (s : Scene) (rect : Rect) : Except Fault (List Piece) :=
  match s.subject.now with
  | none => .ok []
  | some event =>
    match event.progressAt s.subject.clock with
    | none => .ok []
    | some ratio =>
      (event.remainingMinutes s.subject.clock).map fun minutes => s.progressOf rect ratio minutes

/-! ## Events -/

/-- An instant in the configured time format. -/
def timeText (s : Scene) (t : Instant) : String :=
  formatTime s.options.timeFormat (Reading.ofInstant t s.subject.offset)

/-- The column with begin and end of the running event. -/
def timePiece (s : Scene) (rect : Rect) : Except Fault (Option Piece) :=
  match s.subject.now with
  | none => .ok none
  | some event =>
    event.stop.map fun stop =>
      s.caption .time .time rect (s.timeText event.start ++ " - " ++ s.timeText stop)
        s.eventForeground .left

/-- The title of the running event. -/
def nowTitlePiece (s : Scene) (rect : Rect) : Option Piece :=
  s.subject.now.bind fun event =>
    s.caption .nowTitle .nowTitle rect event.title s.eventForeground .left

/-- The title of the following event. -/
def nextTitlePiece (s : Scene) (rect : Rect) : Option Piece :=
  s.subject.next.bind fun event =>
    s.caption .nextTitle .nextTitle rect event.title s.nextForeground .left

end Bouquet.Scene
