import Bouquet.Options.Basic
import Bouquet.Toml.Reader

/-!
# Options as a document

Options are written as TOML lines, one for each value, and read from any TOML document: keys that
are missing keep their standard value, unknown keys are ignored.

## Main definitions

- `Options.read?`: the options that a text gives, absent when it is rejected
- `Options.write`: the text of options
-/

namespace Bouquet

open Toml (Item Entries lookup readDocument? writeQuoted)

/-! ## Reading -/

/-- The value under a key, or a standard value when the key is missing. -/
def Options.field {α : Type} (entries : Entries) (key : String) (read : Item → Option α)
    (standard : α) : Option α :=
  match lookup key entries with
  | none => some standard
  | some item => read item

/-- An integer of 32 bits without a sign. -/
def Options.unsigned? : Item → Option UInt32
  | .integer value => if 0 ≤ value ∧ value < 0x100000000 then some value.toNat.toUInt32 else none
  | _ => none

/-- An integer of 32 bits with a sign. -/
def Options.signed? : Item → Option Int32
  | .integer value => if -0x80000000 ≤ value ∧ value < 0x80000000 then some value.toInt32 else none
  | _ => none

/-- A truth value. -/
def Options.boolean? : Item → Option Bool
  | .boolean value => some value
  | _ => none

/-- A text. -/
def Options.text? : Item → Option String
  | .text content => some content
  | _ => none

/-- Whether an item is a container that holds nothing. -/
def Options.isHollow : Item → Bool
  | .array items => items.isEmpty
  | .table _ entries => entries.isEmpty
  | .tables items => items.isEmpty
  | _ => false

/-- A mode: its key as a text, or as the only key of a table with nothing under it. -/
def Options.mode? {α : Type} (keys : List (String × α)) : Item → Option α
  | .text key => ofKey? keys key
  | .table _ [(key, item)] => if Options.isHollow item then ofKey? keys key else none
  | _ => none

/-- The options that the entries of a document give. -/
def Options.ofEntries? (entries : Entries) : Option Options := do
  let standard := Options.standard
  let itemHeight ← field entries "item_height" unsigned? standard.itemHeight
  let hideNumberMarker ← field entries "hide_number_marker" boolean? standard.hideNumberMarker
  let showTwoLines ← field entries "show_two_lines" boolean? standard.showTwoLines
  let progressMode ←
    field entries "progress_view_mode" (mode? ProgressMode.keys) standard.progressMode
  let progressTextWidth ←
    field entries "progress_text_width" unsigned? standard.progressTextWidth
  let progressUnit ← field entries "progress_unit" text? standard.progressUnit
  let piconDownsize ← field entries "picon_downsize" signed? standard.piconDownsize
  let piconRatio ← field entries "picon_ratio" unsigned? standard.piconRatio
  let typeIconMode ←
    field entries "servicetype_icon_mode" (mode? IconMode.keys) standard.typeIconMode
  let cryptoIconMode ←
    field entries "crypto_icon_mode" (mode? IconMode.keys) standard.cryptoIconMode
  let recordMode ←
    field entries "record_indicator_mode" (mode? RecordMode.keys) standard.recordMode
  let columnWidth ← field entries "column_width" unsigned? standard.columnWidth
  let channelNumbersVisible ←
    field entries "channel_numbers_visible" boolean? standard.channelNumbersVisible
  let progressBarHeight ←
    field entries "progressbar_height" unsigned? standard.progressBarHeight
  let progressBarBorder ←
    field entries "progressbar_border_width" unsigned? standard.progressBarBorder
  let nonplayableMargins ←
    field entries "nonplayable_margins" unsigned? standard.nonplayableMargins
  let itemsDistance ← field entries "items_distances" unsigned? standard.itemsDistance
  let numberingMode ←
    field entries "numbering_mode" (mode? NumberingMode.keys) standard.numberingMode
  let timeFormat ← field entries "time_format" text? standard.timeFormat
  pure
    { itemHeight, hideNumberMarker, showTwoLines, progressMode, progressTextWidth, progressUnit
      piconDownsize, piconRatio, typeIconMode, cryptoIconMode, recordMode, columnWidth
      channelNumbersVisible, progressBarHeight, progressBarBorder, nonplayableMargins
      itemsDistance, numberingMode, timeFormat }

/-- The options that a text gives, or `none` when it is no document or has an unusable value. -/
def Options.read? (text : String) : Option Options :=
  (readDocument? text).bind Options.ofEntries?

/-! ## Writing -/

/-- A number as a value. -/
def Options.writeNumber (n : UInt32) : List Char := Nat.toDigits 10 n.toNat

/-- A number with a sign as a value. -/
def Options.writeSigned (n : Int32) : List Char :=
  (if n.toInt < 0 then ['-'] else []) ++ Nat.toDigits 10 n.toInt.natAbs

/-- A truth value as a value. -/
def Options.writeBoolean (b : Bool) : List Char :=
  if b then "true".toList else "false".toList

/-- A text as a value. -/
def Options.writeText (s : String) : List Char := writeQuoted s.toList

/-- The keys and values of options, in the order in which they are written. -/
def Options.pairs (o : Options) : List (String × List Char) :=
  [("item_height", writeNumber o.itemHeight),
    ("hide_number_marker", writeBoolean o.hideNumberMarker),
    ("show_two_lines", writeBoolean o.showTwoLines),
    ("progress_view_mode", writeText (keyOf ProgressMode.keys o.progressMode)),
    ("progress_text_width", writeNumber o.progressTextWidth),
    ("progress_unit", writeText o.progressUnit),
    ("picon_downsize", writeSigned o.piconDownsize),
    ("picon_ratio", writeNumber o.piconRatio),
    ("servicetype_icon_mode", writeText (keyOf IconMode.keys o.typeIconMode)),
    ("crypto_icon_mode", writeText (keyOf IconMode.keys o.cryptoIconMode)),
    ("record_indicator_mode", writeText (keyOf RecordMode.keys o.recordMode)),
    ("column_width", writeNumber o.columnWidth),
    ("channel_numbers_visible", writeBoolean o.channelNumbersVisible),
    ("progressbar_height", writeNumber o.progressBarHeight),
    ("progressbar_border_width", writeNumber o.progressBarBorder),
    ("nonplayable_margins", writeNumber o.nonplayableMargins),
    ("items_distances", writeNumber o.itemsDistance),
    ("numbering_mode", writeText (keyOf NumberingMode.keys o.numberingMode)),
    ("time_format", writeText o.timeFormat)]

/-- A key-value line. -/
def Options.line (pair : String × List Char) : List Char :=
  pair.1.toList ++ " = ".toList ++ pair.2 ++ ['\n']

/-- The text of options. -/
def Options.write (o : Options) : String :=
  String.ofList (o.pairs.flatMap Options.line)

end Bouquet
