import Bouquet.Listing.Run
import Bouquet.PiconCache
import Bouquet.Row.Compose

/-!
# List views

A list view is a listing with everything that it takes to show it: the look, the picons, and the
entry that is never shown as unavailable.

## Main definitions

- `ListView`
- `ListView.subject`, `ListView.scene`: what the row of an entry is computed from
- `ListView.describe`, `ListView.paint`: the row at the cursor
-/

namespace Bouquet

/-- The kinds of notices, each of which can be held back. -/
inductive NoticeKind where
  | added
  | removed
  | changed
  | reset
  deriving DecidableEq, Inhabited

/-- The kind of a notice. -/
def Notice.kind : Notice → NoticeKind
  | .added _ => .added
  | .removed _ => .removed
  | .changed _ => .changed
  | .reset _ => .reset

/-- A listing and how it is shown. `ignored` is an entry that counts as playable whatever the
sources say, such as the one that is playing now; a muted kind of notice does not reach the view. -/
structure ListView where
  listing : Listing
  ignored : Option Reference
  look : Look
  picons : PiconCache
  muted : NoticeKind → Bool

namespace ListView

/-- An empty view without a root. -/
def empty : ListView :=
  { listing := Listing.empty
    ignored := none
    look := Look.standard
    picons := PiconCache.empty
    muted := fun _ => false }

/-- The notices that are not held back. -/
def heard (v : ListView) (notices : List Notice) : List Notice :=
  notices.filter fun notice => !v.muted notice.kind

/-! ## What is known of an entry -/

/-- Whether the row of an entry looks marked: its entry is, or some entry is being dragged. -/
def looksMarked (v : ListView) (r : Reference) : Bool :=
  v.listing.dragging || v.listing.marks.contains r

/-- Whether an entry counts as playable: only a service or group whose metadata denies it does not,
unless it is the ignored one. -/
def countsAsPlayable (v : ListView) (sources : Sources) (r : Reference) : Bool :=
  !r.isPlayable || v.ignored.any r.same || (sources.info r).all ServiceInfo.playable

/-- An event of an entry. Only complex rows of services and groups ask for events. -/
def event? (v : ListView) (sources : Sources) (r : Reference) (slot : EventSlot) : Option Event :=
  if r.isPlayable && v.look.mode == .complex then sources.event r slot else none

/-- The image file with the picon of an entry, for rows that show one. -/
def piconFile? (v : ListView) (sources : Sources) (r : Reference) : Option FilePath :=
  if r.isPlayable && v.look.mode == .complex && (v.look.places .picon).isSome then
    sources.picon.bind fun find => find (PiconKey.ofReference r (sources.displayName r))
  else none

/-- The picon of an entry, which the cache keeps. -/
def loadPicon (v : ListView) (sources : Sources) (r : Reference) : PiconCache × Option Pixmap :=
  match v.piconFile? sources r with
  | none => (v.picons, none)
  | some file =>
    let (picons, decoded) := v.picons.load sources.image file
    (picons, decoded.map Decoded.pixmap)

/-- What is known of the current entry `r`. -/
def subject (v : ListView) (sources : Sources) (r : Reference) : Subject :=
  { entry := r
    info := sources.info r
    name := sources.displayName r
    marked := v.looksMarked r
    playable := v.countsAsPlayable sources r
    row := v.listing.cursorRow
    recorded := sources.isRecorded r
    now := v.event? sources r .now
    next := v.event? sources r .next
    picon := (v.loadPicon sources r).2
    clock := sources.now
    offset := sources.offset }

/-- The scene of the current entry `r`. -/
def scene (v : ListView) (sources : Sources) (style : Style) (selected : Bool) (r : Reference) :
    Scene :=
  { look := v.look, style := style, selected := selected, subject := v.subject sources r }

/-! ## The row at the cursor -/

/-- The row at the cursor; `none` at the end of the list. -/
def row (v : ListView) (sources : Sources) (style : Style) (selected : Bool) :
    Except Fault (Option Row) :=
  match v.listing.current? with
  | none => .ok none
  | some r => (v.scene sources style selected r).compose.map some

/-- The view after its current row was computed: picons that were decoded on the way are kept, even
where the row has a fault. -/
def afterRow (v : ListView) (sources : Sources) : ListView :=
  match v.listing.current? with
  | none => v
  | some r => { v with picons := (v.loadPicon sources r).1 }

/-- Computes the row at the cursor. -/
def describe (v : ListView) (sources : Sources) (style : Style) (selected : Bool) :
    ListView × Except Fault (Option Row) :=
  (v.afterRow sources, v.row sources style selected)

/-- Paints the row at the cursor with its corner at `offset`; nothing at the end of the list. -/
def paint (v : ListView) (sources : Sources) (style : Style) (canvas : Canvas) (offset : Point)
    (selected : Bool) : ListView × Except Fault Canvas :=
  (v.afterRow sources,
    (v.row sources style selected).map fun
      | some row => canvas.paintRow row offset
      | none => canvas)

end ListView

end Bouquet
