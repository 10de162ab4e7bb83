/-!
# Row options

The scalar values that tune complex rows.

## Main definitions

- `ProgressMode`, `IconMode`, `RecordMode`, `NumberingMode`: the modes, each with its key
- `Options`: all values, `Options.standard`: those that hold when nothing is configured
- `Setting`, `Options.apply`: changing one value
-/

namespace Bouquet

/-! ## Modes -/

/-- How the progress of the running event is shown: not at all, as a bar, as a percentage that has
passed, or as the minutes that are left. -/
inductive ProgressMode where
  | off
  | bar
  | percent
  | minutes
  deriving DecidableEq, Inhabited

/-- Where an inline icon stands relative to the name. -/
inductive IconMode where
  | off
  | beforeName
  | afterName
  deriving DecidableEq, Inhabited

/-- How a service under recording is flagged: not at all, by an icon, or by the color of its
name. -/
inductive RecordMode where
  | off
  | icon
  | color
  deriving DecidableEq, Inhabited

/-- What the number column shows: the channel number of the entry, or its row counted from one. -/
inductive NumberingMode where
  | channel
  | position
  deriving DecidableEq, Inhabited

/-- All modes with their keys. -/
def ProgressMode.keys : List (String × ProgressMode) :=
  [("off", .off), ("bar", .bar), ("percent", .percent), ("minutes", .minutes)]

/-- All modes with their keys. -/
def IconMode.keys : List (String × IconMode) :=
  [("off", .off), ("before_name", .beforeName), ("after_name", .afterName)]

/-- All modes with their keys. -/
def RecordMode.keys : List (String × RecordMode) :=
  [("off", .off), ("icon", .icon), ("color", .color)]

/-- All modes with their keys. -/
def NumberingMode.keys : List (String × NumberingMode) :=
  [("channel", .channel), ("position", .position)]

/-- The key of a mode in a list of keys. -/
def keyOf {α : Type} [DecidableEq α] (keys : List (String × α)) (mode : α) : String :=
  ((keys.find? fun entry => entry.2 = mode).map (·.1)).getD ""

/-- The mode of a key. -/
def ofKey? {α : Type} (keys : List (String × α)) (key : String) : Option α :=
  (keys.find? fun entry => entry.1 == key).map (·.2)

/-! ## Options -/

/-- The tuning values of a list. Lengths are in pixels. -/
structure Options where
  /-- Height of a row. -/
  itemHeight : UInt32
  /-- No number on marker rows. -/
  hideNumberMarker : Bool
  /-- Name on the first line, event on the second. -/
  showTwoLines : Bool
  progressMode : ProgressMode
  /-- Width reserved for progress as text; zero takes the whole element. -/
  progressTextWidth : UInt32
  /-- What follows the minutes that are left. -/
  progressUnit : String
  /-- Pixels taken off every side of the picon's rectangle. -/
  piconDownsize : Int32
  /-- Width of a picon in percent of its height; zero leaves picons uncropped. -/
  piconRatio : UInt32
  typeIconMode : IconMode
  cryptoIconMode : IconMode
  recordMode : RecordMode
  /-- Width of the name column; zero measures the name. -/
  columnWidth : UInt32
  channelNumbersVisible : Bool
  /-- Height of the progress bar; zero fills the element. -/
  progressBarHeight : UInt32
  progressBarBorder : UInt32
  /-- Inset of the background of selected rows that cannot be played. -/
  nonplayableMargins : UInt32
  /-- Gap between neighbouring inline items. -/
  itemsDistance : UInt32
  numberingMode : NumberingMode
  /-- Pattern of the time column. -/
  timeFormat : String
  deriving DecidableEq, Inhabited

/-- The options when nothing is configured. -/
def Options.standard : Options :=
  { itemHeight := 28
    hideNumberMarker := false
    showTwoLines := false
    progressMode := .bar
    progressTextWidth := 0
    progressUnit := "min"
    piconDownsize := 0
    piconRatio := 167
    typeIconMode := .off
    cryptoIconMode := .off
    recordMode := .icon
    columnWidth := 0
    channelNumbersVisible := true
    progressBarHeight := 0
    progressBarBorder := 0
    nonplayableMargins := 0
    itemsDistance := 8
    numberingMode := .channel
    timeFormat := "%H:%M" }

/-! ## Single settings -/

/-- One value of the options. -/
inductive Setting where
  | itemHeight (height : UInt32)
  | hideNumberMarker (hide : Bool)
  | showTwoLines (two : Bool)
  | progressMode (mode : ProgressMode)
  | progressTextWidth (width : UInt32)
  | progressUnit (unit : String)
  | piconDownsize (amount : Int32)
  | piconRatio (percent : UInt32)
  | typeIconMode (mode : IconMode)
  | cryptoIconMode (mode : IconMode)
  | recordMode (mode : RecordMode)
  | columnWidth (width : UInt32)
  | channelNumbersVisible (visible : Bool)
  | progressBarHeight (height : UInt32)
  | progressBarBorder (width : UInt32)
  | nonplayableMargins (margins : UInt32)
  | itemsDistance (distance : UInt32)
  | numberingMode (mode : NumberingMode)
  | timeFormat (pattern : String)

/-- The options with one value changed. -/
def Options.apply (o : Options) : Setting → Options
  | .itemHeight height => { o with itemHeight := height }
  | .hideNumberMarker hide => { o with hideNumberMarker := hide }
  | .showTwoLines two => { o with showTwoLines := two }
  | .progressMode mode => { o with progressMode := mode }
  | .progressTextWidth width => { o with progressTextWidth := width }
  | .progressUnit unit => { o with progressUnit := unit }
  | .piconDownsize amount => { o with piconDownsize := amount }
  | .piconRatio percent => { o with piconRatio := percent }
  | .typeIconMode mode => { o with typeIconMode := mode }
  | .cryptoIconMode mode => { o with cryptoIconMode := mode }
  | .recordMode mode => { o with recordMode := mode }
  | .columnWidth width => { o with columnWidth := width }
  | .channelNumbersVisible visible => { o with channelNumbersVisible := visible }
  | .progressBarHeight height => { o with progressBarHeight := height }
  | .progressBarBorder width => { o with progressBarBorder := width }
  | .nonplayableMargins margins => { o with nonplayableMargins := margins }
  | .itemsDistance distance => { o with itemsDistance := distance }
  | .numberingMode mode => { o with numberingMode := mode }
  | .timeFormat pattern => { o with timeFormat := pattern }

end Bouquet
