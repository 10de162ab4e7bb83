import Bouquet.Look.Basic
import Bouquet.Row.Basic
import Bouquet.Sources

/-!
# Scenes

What a row is computed from: the entry with all that is known about it, and the look, the style and
the selection state that it is shown with.

## Main definitions

- `Subject`: an entry and what the sources say about it
- `Scene`: a subject with look, style and selection state
- `Scene.foreground`, `Scene.eventForeground`, `Scene.groundColor`: which color is used where
-/

namespace Bouquet

/-- An entry and what is known about it. `name` is the one shown, `row` the place among the visible
entries, `recorded` tells whether the entry is being recorded under a filter, and `picon` is the
picture that was found for it. -/
structure Subject where
  entry : Reference
  info : Option ServiceInfo
  name : String
  marked : Bool
  playable : Bool
  row : Nat
  recorded : RecordType → Bool
  now : Option Event
  next : Option Event
  picon : Option Pixmap
  clock : Instant
  offset : Int

/-- One row to be computed. -/
structure Scene where
  look : Look
  style : Style
  selected : Bool
  subject : Subject

namespace Scene

/-! ## Lookups -/

/-- The options of the list. -/
def options (s : Scene) : Options := s.look.options

/-- The kind of the entry. -/
def kind (s : Scene) : EntryKind := s.subject.entry.kind

/-- Whether the entry is a service or a group. -/
def isPlayable (s : Scene) : Bool := s.subject.entry.isPlayable

/-- Whether a property of the metadata holds; it does not when there is no metadata. -/
def infoHolds (s : Scene) (property : ServiceInfo → Bool) : Bool :=
  s.subject.info.any property

/-- The color of a tint, if it is set. -/
def tint? (s : Scene) (tint : Tint) : Option Color := s.look.colors.get? tint

/-- The color of the tint for the selection state, if it is set. -/
def pick? (s : Scene) (unselected selected : Tint) : Option Color :=
  s.tint? (if s.selected then selected else unselected)

/-- The font of a field: its own or that of the style. -/
def font (s : Scene) (field : Field) : Font :=
  (s.look.fonts field).getD s.style.font

/-- Whether a service or group is being recorded under a filter. -/
def isRecorded (s : Scene) (filter : RecordType) : Bool :=
  s.isPlayable && s.subject.recorded filter

/-! ## Colors -/

/-- Whether names show by their color that the service is being recorded. -/
def colorsRecordings (s : Scene) : Bool := s.options.recordMode == .color

/-- The color of a recorded service: first that of a recording, then that of a stream, then that
of a service held open. A tint that is not set leaves the choice to the next kind. -/
def recordingForeground? (s : Scene) : Option Color :=
  let recording := if s.colorsRecordings then s.tint? .recordingColor else none
  let real := recording <|> s.tint? .recorded
  if real.isSome && s.isRecorded .real then real
  else if (s.tint? .streamed).isSome && s.isRecorded .streaming then s.tint? .streamed
  else if (s.tint? .pseudoRecorded).isSome && s.isRecorded .pseudo then s.tint? .pseudoRecorded
  else none

/-- The configured color of name and number. A mark beats an unavailable service, which beats a
recording, a fallback tuner and an advertisement, in this order. -/
def tintedForeground? (s : Scene) : Option Color :=
  if s.subject.marked then s.pick? .markedForeground .markedForegroundSelected
  else if !s.subject.playable then s.tint? .notAvailable
  else if s.recordingForeground?.isSome then s.recordingForeground?
  else if s.infoHolds ServiceInfo.fallback then s.pick? .itemFallback .itemFallbackSelected
  else if s.infoHolds ServiceInfo.advertisement then s.tint? .advertisement
  else none

/-- The color of name and number. -/
def foreground (s : Scene) : Color :=
  s.tintedForeground?.getD (s.style.rowForeground s.selected)

/-- The color of the running event while its service can be played. -/
def tunedForeground (s : Scene) : Color :=
  let fallback :=
    if s.infoHolds ServiceInfo.fallback then s.pick? .eventFallback .eventFallbackSelected
    else none
  (fallback <|> s.pick? .eventForeground .eventForegroundSelected).getD s.foreground

/-- The color of the running event: that of unavailable services, if it applies and is set. -/
def eventForeground (s : Scene) : Color :=
  let unavailable := if s.subject.playable then none else s.tint? .notAvailable
  unavailable.getD s.tunedForeground

/-- The color of the following event. -/
def nextForeground (s : Scene) : Color :=
  (s.pick? .description .descriptionSelected).getD s.foreground

/-- The color of the progress as bar or text. -/
def progressColor (s : Scene) : Color :=
  (s.pick? .progressBar .progressBarSelected).getD s.foreground

/-- The color of the frame around the progress bar. -/
def progressBorderColor (s : Scene) : Color :=
  (s.pick? .progressBorder .progressBorderSelected
    <|> s.pick? .eventBorder .eventBorderSelected).getD s.foreground

/-- The color behind the row. -/
def groundColor (s : Scene) : Color :=
  let marked :=
    if s.subject.marked then s.pick? .markedBackground .markedBackgroundSelected else none
  marked.getD (s.style.rowBackground s.selected)

end Scene

end Bouquet
