import Bouquet.Proofs.Runs
import Bouquet.Proofs.Sorting
import Bouquet.Proofs.Strides

/-!
# Effects of Operations

What single operations do to the cursor, and what any operation does to the entries, to the
bookmarks and to the drag. The operations that an equation does not name leave the field alone.
-/

namespace Bouquet.Listing

/-! ## Single operations -/

theorem insertionPoint_le (l : Listing) (before : Bool) :
    l.insertionPoint before ≤ l.entries.length := by
  simp only [insertionPoint, size]
  split
  case isTrue => exact Nat.min_le_right _ _
  case isFalse h =>
    have hentry : l.isOnEntry = true := by simp_all
    exact (isOnEntry_iff l).mp hentry

/-- In a list with entries the cursor makes room for what is inserted before it. -/
theorem add_cursor {l : Listing} (h : l.entries ≠ []) (r : Reference) (before : Bool) :
    (l.add r before).1.cursor
      = if l.insertionPoint before ≤ l.cursor then l.cursor + 1 else l.cursor := by
  simp [add, h]

/-- In an empty list the cursor goes to what is inserted. -/
theorem add_cursor_of_empty {l : Listing} (h : l.entries = []) (r : Reference) (before : Bool) :
    (l.add r before).1.cursor = 0 := by
  simp [add, h]

/-- The cursor goes where sorting takes its entry. -/
theorem sort_cursor (l : Listing) (order : Reference → Reference → Ordering) :
    (l.sort order).1.cursor = sortedOrdinal order l.entries l.cursor := rfl

theorem goBack_of_some {l : Listing} {key : BookmarkKey} {mark : Bookmark}
    (h : l.bookmarks.get? key = some mark) :
    l.goBack key
      = ({ l with cursor := mark.resolve l.entries, bookmarks := l.bookmarks.use key }, true) := by
  simp [goBack, h]

theorem goBack_of_none {l : Listing} {key : BookmarkKey} (h : l.bookmarks.get? key = none) :
    l.goBack key = (l, false) := by
  simp [goBack, h]

/-! ## All operations -/

/-- The entries after an operation. -/
theorem perform_entries (sources : Sources) (op : ListingOp) (l : Listing) :
    (perform sources op l).listing.entries =
      match op with
      | .load root rootOnly => if rootOnly then l.entries else (sources.children root).getD []
      | .add entry before => l.entries.insertIdx (l.insertionPoint before) entry
      | .append entry => l.entries ++ [entry]
      | .removeCurrent => l.entries.eraseIdx l.cursor
      | .sort => (sortedPairs sources.order l.entries).map (·.1)
      | .move count => (l.move count).1.entries
      | _ => l.entries := by
  cases op with
  | load root rootOnly => cases rootOnly <;> rfl
  | removeCurrent =>
    by_cases h : l.isOnEntry = true
    · simp [perform, removeCurrent, h]
    · have hlen : l.entries.length ≤ l.cursor := Nat.not_lt.mp (mt (isOnEntry_iff l).mpr h)
      simp [perform, removeCurrent, h, List.eraseIdx_of_length_le hlen]
  | select entry =>
    simp only [perform, select]
    split <;> rfl
  | goBack key =>
    simp only [perform, goBack]
    split <;> rfl
  | setDragging state =>
    simp only [perform, setDragging]
    split <;> rfl
  | _ => rfl

/-- The bookmarks after an operation. -/
theorem perform_bookmarks (sources : Sources) (op : ListingOp) (l : Listing) :
    (perform sources op l).listing.bookmarks =
      match op with
      | .load _ rootOnly => if rootOnly then l.bookmarks else Bookmarks.empty
      | .keep key => l.bookmarks.put l.bookmark key
      | .goBack key => l.bookmarks.use key
      | _ => l.bookmarks := by
  cases op with
  | load root rootOnly => cases rootOnly <;> rfl
  | removeCurrent =>
    simp only [perform, removeCurrent]
    split <;> rfl
  | move count => exact (move_frame l count).2.1
  | select entry =>
    simp only [perform, select]
    split <;> rfl
  | goBack key =>
    simp only [perform, goBack]
    split
    case h_1 => rfl
    case h_2 hnone =>
      -- nothing was kept under the key, so there is nothing to use up
      cases key with
      | single =>
        have hsingle : l.bookmarks.single = none := hnone
        simp [Bookmarks.use, ← hsingle]
      | line number => rfl
  | setDragging state =>
    simp only [perform, setDragging]
    split <;> rfl
  | _ => rfl

/-- Whether an entry is dragged after an operation. -/
theorem perform_dragging (sources : Sources) (op : ListingOp) (l : Listing) :
    (perform sources op l).listing.dragging =
      match op with
      | .load _ rootOnly => if rootOnly then l.dragging else false
      | .removeCurrent => if l.isOnEntry then false else l.dragging
      | .setDragging state => if l.isOnEntry then state else l.dragging
      | _ => l.dragging := by
  cases op with
  | load root rootOnly => cases rootOnly <;> rfl
  | removeCurrent =>
    simp only [perform, removeCurrent]
    split <;> rfl
  | move count => exact (move_frame l count).2.2.2
  | select entry =>
    simp only [perform, select]
    split <;> rfl
  | goBack key =>
    simp only [perform, goBack]
    split <;> rfl
  | setDragging state =>
    cases hcurrent : l.current? with
    | none =>
      have hend : l.isOnEntry ≠ true :=
        mt (isOnEntry_iff l).mp (Nat.not_lt.mpr (List.getElem?_eq_none_iff.mp hcurrent))
      simp [perform, setDragging, hcurrent, hend]
    | some entry =>
      have hon : l.isOnEntry = true :=
        (isOnEntry_iff l).mpr (List.getElem?_eq_some_iff.mp hcurrent).1
      simp [perform, setDragging, hcurrent, hon]
  | _ => rfl

/-- What an operation asks the list sources to keep: only the end of a drag asks for anything. -/
theorem perform_moves (sources : Sources) (op : ListingOp) (l : Listing) :
    (perform sources op l).moves =
      match op with
      | .setDragging false =>
        if l.dragging then (l.current?.map fun entry => ⟨l.root, entry, l.cursor⟩).toList else []
      | _ => [] := by
  cases op with
  | setDragging state =>
    cases state <;> cases hdragging : l.dragging <;> cases hcurrent : l.current? <;>
      simp [perform, setDragging, hdragging, hcurrent]
  | _ => rfl

end Bouquet.Listing
