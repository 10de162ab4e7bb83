import Mathlib.Data.List.Basic
import Bouquet.ListView.Run
import Bouquet.Proofs.QuotedText
import Bouquet.Proofs.WrittenNumbers

/-!
# Options as a Document and Back

Options are written as lines of a key and a value each. The reader takes such a document for the
entries that the lines make, and the entries for the same options, whatever the texts among them
hold. A view that loads options takes over all of them or, when the text is rejected, none.

## Main definitions

- `Toml.Denotes`, `Toml.DenotesEntry`: what a written value and a line are read as
- `Options.items`: the entries of options
- `ListView.withOptions`: a view with other options

## Main statements

- `Toml.readDocument?_lines`: documents of lines with different keys
- `Options.read?_write`: options that are written and read are the same
- `ListView.options_round_trip`: loading them into a view
-/

namespace Bouquet

namespace Toml

/-! ## Values -/

/-- A value as it is written, and the item that it is read as where it ends its line. -/
structure Denotes (written : List Char) (item : Item) : Prop where
  reads : ∀ rest, readValue (nestingLimit - 1) (written ++ '\n' :: rest) = some (item, '\n' :: rest)
  starts : ∃ first more, written = first :: more ∧ isSpace first = false

/-- What begins like no container and no truth value is a quoted text, a number or a date. -/
theorem readValue_of_head {c : Char} (htrue : c ≠ 't') (hfalse : c ≠ 'f') (harray : c ≠ '[')
    (htable : c ≠ '\x7b') (rest : List Char) (depth : Nat) :
    readValue (depth + 1) (c :: rest)
      = ((readQuoted (c :: rest)).map fun (text, rest) => (Item.text (String.ofList text), rest)).or
          (readNumeric (c :: rest)) := by
  simp [readValue, readValueWith, htrue, hfalse, harray, htable]

/-- A quoted text is read as itself. -/
theorem denotes_writeQuoted (text : List Char) :
    Denotes (writeQuoted text) (.text (String.ofList text)) := by
  obtain ⟨mark, more, hcons, hmark⟩ := (quotedForm_writeQuoted text).exists_cons
  refine ⟨fun rest => ?_, mark, more, hcons, ?_⟩
  · have hread := readQuoted_writeQuoted text rest
    rw [hcons, List.cons_append] at hread ⊢
    rw [nestingLimit, readValue_of_head, hread]
    · rfl
    all_goals rcases hmark with rfl | rfl <;> decide
  · rcases hmark with rfl | rfl <;> rfl

/-- A numeral with its sign is read as its value. -/
theorem denotes_number {digits : List Char} {n : Nat} (h : Numeral digits n) (negative : Bool)
    (hlow : minInteger ≤ signed negative n) (hhigh : signed negative n ≤ maxInteger) :
    Denotes (signOf negative ++ digits) (.integer (signed negative n)) := by
  obtain ⟨first, more, hcons, hother⟩ := h.exists_cons_signed negative
  refine ⟨fun rest => ?_, first, more, hcons, ?_⟩
  · have hread := h.readNumeric negative rest hlow hhigh
    rw [← List.append_assoc, hcons, List.cons_append] at hread
    rw [hcons, List.cons_append, nestingLimit, readValue_of_head, hread]
    · simp [readQuoted, hother '\x22' (by decide) rfl, hother '\x27' (by decide) rfl]
    · exact hother 't' (by decide) rfl
    · exact hother 'f' (by decide) rfl
    · exact hother '[' (by decide) rfl
    · exact hother '\x7b' (by decide) rfl
  · simp [isSpace, hother ' ' (by decide) rfl, hother '\t' (by decide) rfl]

theorem denotes_true : Denotes "true".toList (.boolean true) where
  reads _ := rfl
  starts := ⟨'t', _, rfl, rfl⟩

theorem denotes_false : Denotes "false".toList (.boolean false) where
  reads _ := rfl
  starts := ⟨'f', _, rfl, rfl⟩

/-! ## Lines -/

/-- A key that is written without quotes. -/
structure BareKey (key : String) : Prop where
  isBare : ∀ c ∈ key.toList, isBare c = true
  ne_nil : key.toList ≠ []

instance (key : String) : Decidable (BareKey key) :=
  decidable_of_iff (key.toList.all isBare = true ∧ key.toList ≠ [])
    ⟨fun h => ⟨List.all_eq_true.mp h.1, h.2⟩, fun h => ⟨List.all_eq_true.mpr h.isBare, h.ne_nil⟩⟩

theorem skipSpaces_of_head {c : Char} (h : isSpace c = false) (rest : List Char) :
    skipSpaces (c :: rest) = c :: rest := by
  simp [skipSpaces, h]

namespace BareKey

variable {key : String} (h : BareKey key) (rest : List Char)

include h

theorem exists_cons : ∃ first more, key.toList = first :: more ∧
    ∀ c, Toml.isBare c = false → first ≠ c := by
  obtain ⟨first, more, hcons⟩ := List.exists_cons_of_ne_nil h.ne_nil
  have hfirst := h.isBare first (hcons ▸ List.mem_cons_self)
  refine ⟨first, more, hcons, ?_⟩
  rintro c hc rfl
  rw [hc] at hfirst
  cases hfirst

theorem skipSpaces : Toml.skipSpaces (key.toList ++ rest) = key.toList ++ rest := by
  obtain ⟨first, more, hcons, hfirst⟩ := h.exists_cons
  rw [hcons, List.cons_append]
  exact skipSpaces_of_head (by simp [isSpace, hfirst ' ' rfl, hfirst '\t' rfl]) _

theorem readKeyPart :
    Toml.readKeyPart (key.toList ++ ' ' :: rest) = some (key, ' ' :: rest) := by
  obtain ⟨first, more, hcons, hfirst⟩ := h.exists_cons
  have htake : (key.toList ++ ' ' :: rest).takeWhile Toml.isBare = key.toList := by
    rw [List.takeWhile_append_of_pos h.isBare]
    simp [Toml.isBare]
  have hdrop : (key.toList ++ ' ' :: rest).dropWhile Toml.isBare = ' ' :: rest := by
    rw [List.dropWhile_append_of_pos h.isBare]
    simp [Toml.isBare]
  have hnot : ∀ c more', Toml.isBare c = false → key.toList ++ ' ' :: rest ≠ c :: more' := by
    intro c more' hc heq
    rw [hcons] at heq
    exact hfirst c hc (List.cons.inj heq).1
  rw [Toml.readKeyPart, htake, hdrop, hcons]
  · simp only [← hcons, String.ofList_toList]
  · exact fun more' => hnot '\x22' more' rfl
  · exact fun more' => hnot '\x27' more' rfl

theorem readKey :
    Toml.readKey (key.toList ++ ' ' :: '=' :: rest) = some (([], key), '=' :: rest) := by
  have hparts : readKeyParts (nestingLimit - 1) (key.toList ++ ' ' :: '=' :: rest)
      = some ([key], '=' :: rest) := by
    rw [nestingLimit, readKeyParts, h.skipSpaces, h.readKeyPart]
    rfl
  rw [Toml.readKey, hparts]
  rfl

end BareKey

/-- The line of a new key adds its entry to the document. -/
theorem readPairLine_line {key : String} {written : List Char} {item : Item} (hkey : BareKey key)
    (hvalue : Denotes written item) {root : Entries} (hnew : lookup key root = none)
    (rest : List Char) :
    readPairLine ⟨root, []⟩ (Options.line (key, written) ++ rest)
      = some (⟨root ++ [(key, item)], []⟩, rest) := by
  have hinput : Options.line (key, written) ++ rest
      = key.toList ++ ' ' :: '=' :: ' ' :: (written ++ '\n' :: rest) := by
    simp [Options.line]
  have hspaces : skipSpaces (' ' :: (written ++ '\n' :: rest)) = written ++ '\n' :: rest := by
    obtain ⟨first, more, hcons, hfirst⟩ := hvalue.starts
    rw [hcons]
    exact skipSpaces_of_head hfirst _
  have hput : changeAt (putKey [] key item) [] root = some (root ++ [(key, item)]) := by
    simp [changeAt, putKey, putKeyFrom, addKey, hnew]
  have hend : readRestOfLine ('\n' :: rest) = some rest := rfl
  rw [hinput, readPairLine, hkey.readKey]
  simp [expect, hspaces, hvalue.reads, hend, hput]

theorem readLine_line {key : String} {written : List Char} {item : Item} (hkey : BareKey key)
    (hvalue : Denotes written item) {root : Entries} (hnew : lookup key root = none)
    (rest : List Char) :
    readLine ⟨root, []⟩ (Options.line (key, written) ++ rest)
      = some (⟨root ++ [(key, item)], []⟩, rest) := by
  rw [← readPairLine_line hkey hvalue hnew rest]
  -- a line that begins with a bare character is neither blank nor a header nor a comment
  obtain ⟨first, more, hcons, hfirst⟩ := hkey.exists_cons
  have hspaces : ∀ more, skipSpaces (first :: more) = first :: more :=
    skipSpaces_of_head (by simp [isSpace, hfirst ' ' rfl, hfirst '\t' rfl])
  simp only [Options.line, List.append_assoc, hcons, List.cons_append]
  rw [readLine, hspaces]
  simp [hfirst '[' rfl, hfirst '#' rfl, hfirst '\n' rfl, hfirst '\r' rfl]

/-! ## Documents -/

/-- A key with a value as it is written, and the entry that its line makes. -/
structure DenotesEntry (pair : String × List Char) (entry : String × Item) : Prop where
  key : pair.1 = entry.1
  value : Denotes pair.2 entry.2

theorem line_ne_nil (pair : String × List Char) : Options.line pair ≠ [] := by
  simp [Options.line]

theorem length_le_length_lines (pairs : List (String × List Char)) :
    pairs.length ≤ (pairs.flatMap Options.line).length := by
  induction pairs with
  | nil => exact Nat.le_refl 0
  | cons pair pairs ih =>
    have hline := List.length_pos_iff.mpr (line_ne_nil pair)
    simp only [List.length_cons, List.flatMap_cons, List.length_append]
    omega

theorem lookup_eq_none {key : String} {entries : Entries} (h : key ∉ entries.map Prod.fst) :
    lookup key entries = none := by
  rw [lookup, Option.map_eq_none_iff, List.find?_eq_none]
  intro entry hentry heq
  exact h (List.mem_map.mpr ⟨entry, hentry, beq_iff_eq.mp heq⟩)

/-- The lines of pairs with different keys are read one after another. -/
theorem readLines_lines {pairs : List (String × List Char)} {entries root : Entries}
    (hpairs : List.Forall₂ DenotesEntry pairs entries) (hbare : ∀ entry ∈ entries, BareKey entry.1)
    (hkeys : ((root ++ entries).map Prod.fst).Nodup) {fuel : Nat} (hfuel : pairs.length ≤ fuel) :
    readLines fuel ⟨root, []⟩ (pairs.flatMap Options.line) = some (root ++ entries) := by
  induction hpairs generalizing root fuel with
  | nil => simp [readLines]
  | @cons pair entry pairs entries hpair hpairs ih =>
    obtain ⟨key, written⟩ := pair
    obtain ⟨_, item⟩ := entry
    obtain ⟨rfl, hvalue⟩ := hpair
    obtain ⟨hkey, hbare⟩ := List.forall_mem_cons.mp hbare
    cases fuel with
    | zero => cases hfuel
    | succ fuel =>
      have hnew : lookup key root = none := by
        rw [List.map_append, List.map_cons] at hkeys
        exact lookup_eq_none fun hmem =>
          (List.nodup_append.mp hkeys).2.2 key hmem key List.mem_cons_self rfl
      have hline := readLine_line hkey hvalue hnew (pairs.flatMap Options.line)
      have hkeys' : ((root ++ [(key, item)] ++ entries).map Prod.fst).Nodup := by
        simpa using hkeys
      have hrest := ih hbare hkeys' (Nat.le_of_succ_le_succ hfuel)
      obtain ⟨first, more, hcons⟩ := List.exists_cons_of_ne_nil (line_ne_nil (key, written))
      rw [hcons, List.cons_append] at hline
      rw [List.flatMap_cons, hcons, List.cons_append, readLines, hline]
      · simpa using hrest
      · exact List.cons_ne_nil _ _

/-- A document of such lines has the entries that they make. -/
theorem readDocument?_lines {pairs : List (String × List Char)} {entries : Entries}
    (hpairs : List.Forall₂ DenotesEntry pairs entries) (hbare : ∀ entry ∈ entries, BareKey entry.1)
    (hkeys : (entries.map Prod.fst).Nodup) :
    readDocument? (String.ofList (pairs.flatMap Options.line)) = some entries := by
  have hmark : dropByteOrderMark (pairs.flatMap Options.line) = pairs.flatMap Options.line := by
    cases hpairs with
    | nil => rfl
    | @cons pair entry _ _ hpair _ =>
      obtain ⟨first, more, hcons, hfirst⟩ := (hbare entry List.mem_cons_self).exists_cons
      rw [List.flatMap_cons, Options.line, hpair.key, hcons]
      simp [dropByteOrderMark, hfirst '\ufeff' rfl]
  have hkeys' : (([] ++ entries).map Prod.fst).Nodup := hkeys
  rw [readDocument?, String.toList_ofList, hmark]
  exact readLines_lines hpairs hbare hkeys' (length_le_length_lines pairs)

end Toml

namespace Options

open Toml (Entries Item Denotes DenotesEntry BareKey)

/-! ## Options -/

/-- The entries that options are written as. -/
def items (o : Options) : Entries :=
  [("item_height", .integer o.itemHeight.toNat),
    ("hide_number_marker", .boolean o.hideNumberMarker),
    ("show_two_lines", .boolean o.showTwoLines),
    ("progress_view_mode", .text (keyOf ProgressMode.keys o.progressMode)),
    ("progress_text_width", .integer o.progressTextWidth.toNat),
    ("progress_unit", .text o.progressUnit),
    ("picon_downsize", .integer o.piconDownsize.toInt),
    ("picon_ratio", .integer o.piconRatio.toNat),
    ("servicetype_icon_mode", .text (keyOf IconMode.keys o.typeIconMode)),
    ("crypto_icon_mode", .text (keyOf IconMode.keys o.cryptoIconMode)),
    ("record_indicator_mode", .text (keyOf RecordMode.keys o.recordMode)),
    ("column_width", .integer o.columnWidth.toNat),
    ("channel_numbers_visible", .boolean o.channelNumbersVisible),
    ("progressbar_height", .integer o.progressBarHeight.toNat),
    ("progressbar_border_width", .integer o.progressBarBorder.toNat),
    ("nonplayable_margins", .integer o.nonplayableMargins.toNat),
    ("items_distances", .integer o.itemsDistance.toNat),
    ("numbering_mode", .text (keyOf NumberingMode.keys o.numberingMode)),
    ("time_format", .text o.timeFormat)]

/-- All options are written under the same keys. -/
theorem keys_items (o : Options) : o.items.map Prod.fst = standard.items.map Prod.fst := rfl

theorem nodup_keys_items (o : Options) : (o.items.map Prod.fst).Nodup := by
  rw [keys_items]
  decide

theorem bareKey_of_mem_items {o : Options} {entry : String × Item} (h : entry ∈ o.items) :
    BareKey entry.1 := by
  have hkeys : ∀ key ∈ standard.items.map Prod.fst, BareKey key := by decide
  exact hkeys entry.1 (keys_items o ▸ List.mem_map_of_mem h)

theorem unsigned?_toNat (n : UInt32) : unsigned? (.integer n.toNat) = some n := by
  have hlt : (n.toNat : Int) < 0x100000000 := by exact_mod_cast n.toNat_lt
  simp [unsigned?, hlt]

theorem signed?_toInt (n : Int32) : signed? (.integer n.toInt) = some n := by
  have hlow := Int32.le_toInt n
  have hhigh := Int32.toInt_lt n
  simp only [signed?]
  rw [if_pos ⟨by simpa using hlow, by simpa using hhigh⟩]
  simp

theorem ofKey?_progressMode (mode : ProgressMode) :
    ofKey? ProgressMode.keys (keyOf ProgressMode.keys mode) = some mode := by
  cases mode <;> rfl

theorem ofKey?_iconMode (mode : IconMode) :
    ofKey? IconMode.keys (keyOf IconMode.keys mode) = some mode := by
  cases mode <;> rfl

theorem ofKey?_recordMode (mode : RecordMode) :
    ofKey? RecordMode.keys (keyOf RecordMode.keys mode) = some mode := by
  cases mode <;> rfl

theorem ofKey?_numberingMode (mode : NumberingMode) :
    ofKey? NumberingMode.keys (keyOf NumberingMode.keys mode) = some mode := by
  cases mode <;> rfl

/-- The entries of options give the same options. -/
theorem ofEntries?_items (o : Options) : ofEntries? o.items = some o := by
  simp [ofEntries?, field, Toml.lookup, items, unsigned?_toNat, signed?_toInt, boolean?, text?,
    mode?, ofKey?_progressMode, ofKey?_iconMode, ofKey?_recordMode, ofKey?_numberingMode]

theorem denotes_writeNumber (n : UInt32) : Denotes (writeNumber n) (.integer n.toNat) := by
  have hlt := n.toNat_lt
  refine Toml.denotes_number (Toml.numeral_toDigits n.toNat) false ?_ ?_
  · simp only [Toml.signed, Toml.minInteger]
    omega
  · simp only [Toml.signed, Toml.maxInteger]
    omega

theorem denotes_writeSigned (n : Int32) : Denotes (writeSigned n) (.integer n.toInt) := by
  have hlow := Int32.le_toInt n
  have hhigh := Int32.toInt_lt n
  have hvalue : Toml.signed (decide (n.toInt < 0)) n.toInt.natAbs = n.toInt := by
    simp only [Toml.signed, decide_eq_true_eq]
    split <;> omega
  have hsign : Toml.signOf (decide (n.toInt < 0)) = if n.toInt < 0 then ['-'] else [] := by
    simp [Toml.signOf]
  have h := Toml.denotes_number (Toml.numeral_toDigits n.toInt.natAbs) (decide (n.toInt < 0))
  rw [hvalue, hsign] at h
  refine h ?_ ?_
  · simp only [Toml.minInteger]
    omega
  · simp only [Toml.maxInteger]
    omega

theorem denotes_writeBoolean (b : Bool) : Denotes (writeBoolean b) (.boolean b) := by
  cases b
  · exact Toml.denotes_false
  · exact Toml.denotes_true

theorem denotes_writeText (s : String) : Denotes (writeText s) (.text s) := by
  have h := Toml.denotes_writeQuoted s.toList
  rwa [String.ofList_toList] at h

/-- Every value is written as its entry. -/
theorem denotes_pairs (o : Options) : List.Forall₂ DenotesEntry o.pairs o.items := by
  simp only [pairs, items, List.forall₂_cons, List.Forall₂.nil, and_true]
  exact ⟨⟨rfl, denotes_writeNumber _⟩, ⟨rfl, denotes_writeBoolean _⟩,
    ⟨rfl, denotes_writeBoolean _⟩, ⟨rfl, denotes_writeText _⟩, ⟨rfl, denotes_writeNumber _⟩,
    ⟨rfl, denotes_writeText _⟩, ⟨rfl, denotes_writeSigned _⟩, ⟨rfl, denotes_writeNumber _⟩,
    ⟨rfl, denotes_writeText _⟩, ⟨rfl, denotes_writeText _⟩, ⟨rfl, denotes_writeText _⟩,
    ⟨rfl, denotes_writeNumber _⟩, ⟨rfl, denotes_writeBoolean _⟩, ⟨rfl, denotes_writeNumber _⟩,
    ⟨rfl, denotes_writeNumber _⟩, ⟨rfl, denotes_writeNumber _⟩, ⟨rfl, denotes_writeNumber _⟩,
    ⟨rfl, denotes_writeText _⟩, ⟨rfl, denotes_writeText _⟩⟩

/-- What is written is read back. -/
theorem read?_write (o : Options) : read? o.write = some o := by
  have hentries : Toml.readDocument? o.write = some o.items :=
    Toml.readDocument?_lines o.denotes_pairs (fun _ => bareKey_of_mem_items) o.nodup_keys_items
  rw [read?, hentries, Option.bind_some, ofEntries?_items]

/-- Different options are written differently. -/
theorem write_injective : Function.Injective write := by
  intro o o' h
  have hread := congrArg read? h
  rw [read?_write, read?_write] at hread
  exact Option.some.inj hread

end Options

namespace ListView

/-! ## Loading options -/

/-- The same view with other options. -/
def withOptions (v : ListView) (o : Options) : ListView :=
  { v with look := { v.look with options := o } }

/-- Loading a text sets the options to those that it gives and nothing else, or it changes nothing
at all. -/
theorem perform_loadOptions (sources : Sources) (text : String) (v : ListView) :
    (∃ o, Options.read? text = some o ∧
        perform sources (.loadOptions text) v = (v.withOptions o).answering .done) ∨
      Options.read? text = none ∧
        perform sources (.loadOptions text) v = v.answering .rejectedOptions := by
  cases hread : Options.read? text with
  | none =>
    right
    exact ⟨rfl, by simp [perform, Look.loadOptions?, hread]⟩
  | some o =>
    left
    exact ⟨o, rfl, by simp [perform, Look.loadOptions?, hread, withOptions, Look.apply]⟩

/-- Options that are written as a text and read again are the same, so that loading this text sets
the options of a view to exactly them, whatever they were. Loading a text that is rejected leaves
the view as it is. -/
theorem options_round_trip (sources : Sources) (v : ListView) :
    (∀ o : Options, Options.read? o.write = some o ∧
        perform sources (.loadOptions o.write) v = (v.withOptions o).answering .done) ∧
      ∀ text, (∃ o, Options.read? text = some o ∧
          perform sources (.loadOptions text) v = (v.withOptions o).answering .done) ∨
        Options.read? text = none ∧
          perform sources (.loadOptions text) v = v.answering .rejectedOptions := by
  refine ⟨fun o => ⟨o.read?_write, ?_⟩, fun text => perform_loadOptions sources text v⟩
  rcases perform_loadOptions sources o.write v with ⟨o', hread, hperform⟩ | ⟨hread, -⟩
  · obtain rfl := Option.some.inj (o.read?_write.symm.trans hread)
    exact hperform
  · rw [o.read?_write] at hread
    cases hread

/-- A mode that is no key is rejected. -/
example : Options.read? "progress_view_mode = \"spinner\"" = none := by cbv

end ListView

end Bouquet
