import Bouquet.ListView.Basic

/-!
# Summaries

A one-line account of a list view: its root, and the numbers that tell its state. Names and paths
stand in quotes as they are.
-/

namespace Bouquet

/-- Named parts of a record in braces. -/
def braced (label : String) (parts : List (String × String)) : String :=
  label ++ " \x7b " ++ ", ".intercalate (parts.map fun part => part.1 ++ ": " ++ part.2) ++ " \x7d"

/-- A text in quotes. -/
def quoted (text : String) : String := "\"" ++ text ++ "\""

/-- A value that may be missing. -/
def optional {α : Type} (show? : α → String) : Option α → String
  | some value => "Some(" ++ show? value ++ ")"
  | none => "None"

/-- An account of a locator. -/
def Locator.summary (l : Locator) : String :=
  braced "DvbTriplet"
    [("service_type", toString l.serviceType.toNat),
      ("service_id", toString l.serviceId.toNat),
      ("transport_stream_id", toString l.transportStream.toNat),
      ("original_network_id", toString l.network.toNat),
      ("namespace", toString l.region.toNat)]

/-- An account of flags. -/
def EntryFlags.summary (f : EntryFlags) : String :=
  braced "ServiceFlags"
    [("invisible", toString f.invisible), ("numbered_marker", toString f.numbered)]

/-- An account of a reference. -/
def Reference.summary (r : Reference) : String :=
  braced "ServiceReference"
    [("path", quoted r.path),
      ("kind", r.kind.label),
      ("dvb", optional Locator.summary r.locator),
      ("number", optional (fun number => toString number.toNat) r.number),
      ("name", quoted r.name),
      ("flags", r.flags.summary)]

/-- An account of a list view, which leaves out more than it shows. -/
def ListView.summary (v : ListView) : String :=
  "ServiceListContent \x7b "
    ++ ", ".intercalate
      (([("root", v.listing.root.summary),
          ("size", toString v.listing.size),
          ("cursor", toString v.listing.cursor),
          ("move_mode", toString v.listing.dragging),
          ("marked", toString v.listing.marks.size)].map fun part => part.1 ++ ": " ++ part.2)
        ++ [".."])
    ++ " \x7d"

end Bouquet
