/-!
# Fields, icons and tints

The closed enumerations that a skin configures: the fields of a complex row, the icons of the
pixmap table, and the tints of the color table. A skin may name them by index, and an index out
of range is refused.

## Main definitions

- `Field`, `Icon`, `Tint`: with `all` in index order, and `label`
- `Field.ofIndex`, `Icon.ofIndex`, `Tint.ofIndex`
- `IndexError`: which index was refused
-/

namespace Bouquet

/-! ## Fields of a row -/

/-- A field of a complex row. -/
inductive Field where
  | number
  | markerIcon
  | folderIcon
  | picon
  | recordIcon
  | progress
  | name
  | time
  | nowTitle
  | nextTitle
  | typeIcon
  deriving DecidableEq, Inhabited

/-- All fields in the order of their indices, which is the order in which a row computes them. -/
def Field.all : List Field :=
  [.number, .markerIcon, .folderIcon, .picon, .recordIcon, .progress, .name, .time, .nowTitle,
    .nextTitle, .typeIcon]

/-- The name of a field in a skin. -/
def Field.label : Field → String
  | .number => "ServiceNumber"
  | .markerIcon => "MarkerPixmap"
  | .folderIcon => "FolderPixmap"
  | .picon => "PiconPixmap"
  | .recordIcon => "RecordServicePixmap"
  | .progress => "ServiceEventProgressbar"
  | .name => "ServiceName"
  | .time => "ServiceTime"
  | .nowTitle => "ServiceInfo"
  | .nextTitle => "NextEventInfo"
  | .typeIcon => "ServiceTypePixmap"

/-! ## Icons -/

/-- A slot of the pixmap table. `piconFallback` stands in for a missing picon, `recordColumn` fills
the record field, `progressFill` the progress bar, and `recordInline` stands before the name. -/
inductive Icon where
  | satellite
  | terrestrial
  | cable
  | stream
  | group
  | folder
  | marker
  | piconFallback
  | recordColumn
  | progressFill
  | crypto
  | recordInline
  deriving DecidableEq, Inhabited

/-- All icons in the order of their indices. -/
def Icon.all : List Icon :=
  [.satellite, .terrestrial, .cable, .stream, .group, .folder, .marker, .piconFallback,
    .recordColumn, .progressFill, .crypto, .recordInline]

/-- The name of an icon in a skin. -/
def Icon.label : Icon → String
  | .satellite => "DvbS"
  | .terrestrial => "DvbT"
  | .cable => "DvbC"
  | .stream => "Stream"
  | .group => "ServiceGroup"
  | .folder => "Folder"
  | .marker => "Marker"
  | .piconFallback => "Picon"
  | .recordColumn => "RecordService"
  | .progressFill => "ServiceEventProgressbar"
  | .crypto => "Crypto"
  | .recordInline => "Record"

/-! ## Tints -/

/-- A slot of the color table. -/
inductive Tint where
  | markedForeground
  | markedForegroundSelected
  | markedBackground
  | markedBackgroundSelected
  | notAvailable
  | eventForeground
  | eventForegroundSelected
  | eventBorder
  | eventBorderSelected
  | eventFallback
  | eventFallbackSelected
  | itemFallback
  | itemFallbackSelected
  | progressBar
  | progressBarSelected
  | progressBorder
  | progressBorderSelected
  | recorded
  | pseudoRecorded
  | streamed
  | recordingColor
  | advertisement
  | description
  | descriptionSelected
  deriving DecidableEq, Inhabited

/-- All tints in the order of their indices. -/
def Tint.all : List Tint :=
  [.markedForeground, .markedForegroundSelected, .markedBackground, .markedBackgroundSelected,
    .notAvailable, .eventForeground, .eventForegroundSelected, .eventBorder,
    .eventBorderSelected, .eventFallback, .eventFallbackSelected, .itemFallback,
    .itemFallbackSelected, .progressBar, .progressBarSelected, .progressBorder,
    .progressBorderSelected, .recorded, .pseudoRecorded, .streamed, .recordingColor,
    .advertisement, .description, .descriptionSelected]

/-- The name of a tint in a skin. -/
def Tint.label : Tint → String
  | .markedForeground => "MarkedForeground"
  | .markedForegroundSelected => "MarkedForegroundSelected"
  | .markedBackground => "MarkedBackground"
  | .markedBackgroundSelected => "MarkedBackgroundSelected"
  | .notAvailable => "ServiceNotAvail"
  | .eventForeground => "EventForeground"
  | .eventForegroundSelected => "EventForegroundSelected"
  | .eventBorder => "EventBorderForeground"
  | .eventBorderSelected => "EventBorderForegroundSelected"
  | .eventFallback => "EventForegroundFallback"
  | .eventFallbackSelected => "EventForegroundSelectedFallback"
  | .itemFallback => "ServiceItemFallback"
  | .itemFallbackSelected => "ServiceItemFallbackSelected"
  | .progressBar => "ServiceEventProgressbarColor"
  | .progressBarSelected => "ServiceEventProgressbarColorSelected"
  | .progressBorder => "ServiceEventProgressbarBorderColor"
  | .progressBorderSelected => "ServiceEventProgressbarBorderColorSelected"
  | .recorded => "ServiceRecorded"
  | .pseudoRecorded => "ServicePseudoRecorded"
  | .streamed => "ServiceStreamed"
  | .recordingColor => "ServiceRecordingColor"
  | .advertisement => "ServiceAdvertismentColor"
  | .description => "ServiceDescriptionColor"
  | .descriptionSelected => "ServiceDescriptionColorSelected"

/-! ## Indices -/

/-- An index outside of its enumeration. -/
inductive IndexError where
  | invalidField (index : Nat)
  | invalidIcon (index : Nat)
  | invalidTint (index : Nat)
  deriving DecidableEq

/-- The text of an index error. -/
def IndexError.message : IndexError → String
  | .invalidField index => "invalid element index " ++ toString index
  | .invalidIcon index => "invalid pixmap index " ++ toString index
  | .invalidTint index => "invalid color index " ++ toString index

/-- The field at an index. -/
def Field.ofIndex (index : Nat) : Except IndexError Field :=
  match Field.all[index]? with
  | some field => .ok field
  | none => .error (.invalidField index)

/-- The icon at an index. -/
def Icon.ofIndex (index : Nat) : Except IndexError Icon :=
  match Icon.all[index]? with
  | some icon => .ok icon
  | none => .error (.invalidIcon index)

/-- The tint at an index. -/
def Tint.ofIndex (index : Nat) : Except IndexError Tint :=
  match Tint.all[index]? with
  | some tint => .ok tint
  | none => .error (.invalidTint index)

/-- The index of a field. -/
def Field.index (field : Field) : Nat := Field.all.idxOf field

/-- The index of an icon. -/
def Icon.index (icon : Icon) : Nat := Icon.all.idxOf icon

/-- The index of a tint. -/
def Tint.index (tint : Tint) : Nat := Tint.all.idxOf tint

end Bouquet
