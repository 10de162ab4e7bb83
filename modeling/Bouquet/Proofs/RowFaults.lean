import Bouquet.ListView.Run
import Bouquet.Proofs.Differences
import Bouquet.Proofs.Outcomes
import Bouquet.Proofs.Rows

/-!
# Rows With Faults

Two things keep a row from being computed: the column of the name cuts a rectangle whose width is
negative or not a number, or the running event ends outside the calendar and the row asks for its
end. Nothing else that a host configures or answers does. A row that has a fault is neither
described nor painted, and every other row is both.

## Main definitions

- `Rect.cutAreas`: the rectangles that a sequence of cuts goes through
- `Scene.nameAreas`: those that the column of the name cuts
- `Event.EndsInCalendar`, `Scene.AsksForEnd`: the end of the running event
- `Scene.Composable`: a complex row has neither fault

## Main statements

- `Scene.namePieces_isOk`, `Scene.namePieces_isOk_of_finite`: the column of the name
- `Scene.compose_isOk`: the whole row
- `ListView.describe_paint_complete_iff`: describing and painting
-/

namespace Bouquet

open Binary32 (minNum clamp)

/-! ## Cuts -/

namespace Rect

/-- What is left of a rectangle behind a cut and its gap. -/
def restOf (r : Rect) (width gap : Float32) : Rect :=
  let restLeft := minNum (r.left + clamp 0 r.width width + gap) r.right
  mk4 restLeft r.top (r.right - restLeft) r.height

theorem width_restOf_nonneg {r : Rect} (h : r.right.isFinite = true) (width gap : Float32) :
    0 ≤ (r.restOf width gap).width :=
  -- the rest ends where the rectangle does and does not begin behind it
  Binary32.zero_le_sub_minNum _ h

/-- The rectangles that are cut one after another: the first, what is left of it, and so on. The
width of a cut depends on the rectangle. -/
def cutAreas (gap : Float32) : List (Rect → Float32) → Rect → List Rect
  | [], _ => []
  | cut :: cuts, area => area :: cutAreas gap cuts (area.restOf (cut area) gap)

/-- What is left of a rectangle behind all cuts. -/
def cutAll (gap : Float32) : List (Rect → Float32) → Rect → Except Fault Rect
  | [], area => .ok area
  | cut :: cuts, area => do
    let (_, rest) ← area.splitLeft (cut area) gap
    cutAll gap cuts rest

theorem cutAll_append (gap : Float32) (first second : List (Rect → Float32)) (area : Rect) :
    cutAll gap (first ++ second) area = cutAll gap first area >>= cutAll gap second := by
  induction first generalizing area with
  | nil => rfl
  | cons cut first ih =>
    simp only [List.cons_append, cutAll]
    cases area.splitLeft (cut area) gap with
    | error fault => rfl
    | ok parts => exact ih parts.2

/-- Cuts succeed when no rectangle on their way has a width that is negative or not a number. -/
theorem cutAll_isOk (gap : Float32) (cuts : List (Rect → Float32)) (area : Rect) :
    (cutAll gap cuts area).isOk = true ↔ ∀ a ∈ cutAreas gap cuts area, 0 ≤ a.width := by
  induction cuts generalizing area with
  | nil => exact iff_of_true rfl (by simp [cutAreas])
  | cons cut cuts ih =>
    rw [cutAreas, List.forall_mem_cons, ← ih, cutAll, splitLeft]
    by_cases harea : 0 ≤ area.width
    · rw [if_pos harea]
      exact (and_iff_right harea).symm
    · rw [if_neg harea]
      exact iff_of_false Bool.false_ne_true fun h => harea h.left

/-- While right edges are finite, only the first rectangle can have such a width. -/
theorem cutAreas_width_nonneg {gap : Float32} {cuts : List (Rect → Float32)} {area : Rect}
    (hwidth : 0 ≤ area.width) (hedges : ∀ a ∈ cutAreas gap cuts area, a.right.isFinite = true) :
    ∀ a ∈ cutAreas gap cuts area, 0 ≤ a.width := by
  -- each rectangle has its width from the right edge of the one before
  induction cuts generalizing area with
  | nil => simp [cutAreas]
  | cons cut cuts ih =>
    rw [cutAreas, List.forall_mem_cons] at hedges ⊢
    have hrest := width_restOf_nonneg hedges.left (cut area) gap
    exact ⟨hwidth, ih hrest hedges.right⟩

end Rect

namespace Scene

variable (s : Scene)

/-! ## The column of the name -/

/-- The cuts that icons take. -/
def iconCuts (icons : List (Part × Pixmap)) : List (Rect → Float32) :=
  icons.map fun icon => iconWidth icon.2

/-- The cuts of the column: icons, the name, icons. -/
def nameCuts : List (Rect → Float32) :=
  iconCuts (s.inlineIcons .beforeName) ++ s.nameWidth :: iconCuts (s.inlineIcons .afterName)

/-- The rectangles that the column cuts, from the line of the name on. -/
def nameAreas (rect : Rect) : List Rect :=
  Rect.cutAreas s.gap s.nameCuts (s.nameLines rect).1

/-- Placing icons is cutting, as far as the rest of the area goes. -/
theorem placeIcons_rest (icons : List (Part × Pixmap)) (area : Rect) :
    (s.placeIcons icons area).map Prod.snd = Rect.cutAll s.gap (iconCuts icons) area := by
  induction icons generalizing area with
  | nil => rfl
  | cons icon icons ih =>
    obtain ⟨part, pixmap⟩ := icon
    simp only [placeIcons, iconCuts, List.map_cons, Rect.cutAll]
    cases area.splitLeft (iconWidth pixmap area) s.gap with
    | error fault => rfl
    | ok parts =>
      have hrest := ih parts.2
      simp only [bind, Except.bind]
      rw [← iconCuts, ← hrest]
      cases s.placeIcons icons parts.2 <;> rfl

theorem namePieces_isOk_eq (rect : Rect) :
    (s.namePieces rect).isOk = (Rect.cutAll s.gap s.nameCuts (s.nameLines rect).1).isOk := by
  -- what is cut off is only painted; the cuts go on with the rest
  rw [nameCuts, Rect.cutAll_append, ← placeIcons_rest]
  cases hbefore : s.placeIcons (s.inlineIcons .beforeName) (s.nameLines rect).1 with
  | error fault => simp [namePieces, hbefore, bind, Except.bind, Except.map]
  | ok before =>
    simp only [namePieces, hbefore, bind, Except.bind, Except.map, Rect.cutAll]
    cases before.2.splitLeft (s.nameWidth before.2) s.gap with
    | error fault => rfl
    | ok parts =>
      simp only [← placeIcons_rest]
      cases s.placeIcons (s.inlineIcons .afterName) parts.2 <;> rfl

/-- **The column of the name** is computed when no rectangle that it cuts has a width that is
negative or not a number. -/
theorem namePieces_isOk (rect : Rect) :
    (s.namePieces rect).isOk = true ↔ ∀ area ∈ s.nameAreas rect, 0 ≤ area.width := by
  rw [namePieces_isOk_eq, Rect.cutAll_isOk, nameAreas]

theorem nameLines_width (rect : Rect) : (s.nameLines rect).1.width = rect.width := by
  unfold nameLines
  split <;> rfl

/-- Where right edges are finite, the width of the rectangle that the look gives to the name
decides. -/
theorem namePieces_isOk_of_finite {rect : Rect}
    (hedges : ∀ area ∈ s.nameAreas rect, area.right.isFinite = true) :
    (s.namePieces rect).isOk = true ↔ 0 ≤ rect.width := by
  rw [namePieces_isOk, ← s.nameLines_width rect]
  constructor
  · intro h
    -- the line itself is always cut, at the latest by the name
    have hline : (s.nameLines rect).1 ∈ s.nameAreas rect := by
      unfold nameAreas nameCuts
      cases iconCuts (s.inlineIcons .beforeName) <;> exact List.mem_cons_self
    exact h _ hline
  · intro hwidth
    exact Rect.cutAreas_width_nonneg hwidth hedges

end Scene

/-! ## The running event -/

/-- The end of an event, in the calendar or not. -/
def Event.finish (e : Event) : Instant := e.start.later e.duration

/-- The end of an event is an instant of the calendar. -/
def Event.EndsInCalendar (e : Event) : Prop := e.finish.inRange = true

theorem Event.stop_isOk (e : Event) : e.stop.isOk = true ↔ e.EndsInCalendar := by
  unfold stop Instant.after EndsInCalendar finish
  split <;> simp_all

theorem Event.remainingMinutes_isOk (e : Event) (now : Instant) :
    (e.remainingMinutes now).isOk = true ↔ (e.isRunningAt now = true → e.EndsInCalendar) := by
  rw [← e.stop_isOk]
  unfold remainingMinutes
  cases e.isRunningAt now with
  | false => simp [pure, Except.pure]
  | true => cases e.stop <;> simp [bind, Except.bind, pure, Except.pure]

namespace Scene

variable (s : Scene)

theorem timePiece_isOk (rect : Rect) :
    (s.timePiece rect).isOk = true ↔ ∀ e ∈ s.subject.now, e.EndsInCalendar := by
  unfold timePiece
  cases s.subject.now with
  | none => simp
  | some e => simp [e.stop_isOk]

theorem progressPieces_isOk (rect : Rect) :
    (s.progressPieces rect).isOk = true
      ↔ ∀ e ∈ s.subject.now, e.isRunningAt s.subject.clock = true → e.EndsInCalendar := by
  unfold progressPieces
  cases s.subject.now with
  | none => simp
  | some e =>
    cases hrunning : e.isRunningAt s.subject.clock with
    | false => simp [Event.progressAt, hrunning]
    | true => simp [Event.progressAt, hrunning, e.remainingMinutes_isOk]

/-! ## Rows -/

/-- A row asks for the end of an event in the time column, and in the progress column while the
event runs. -/
def AsksForEnd (e : Event) : Prop :=
  (s.look.places .time).isSome = true
    ∨ (s.look.places .progress).isSome = true ∧ e.isRunningAt s.subject.clock = true

/-- What a complex row takes. -/
structure Composable : Prop where
  name : ∀ rect ∈ s.look.places .name, ∀ area ∈ s.nameAreas rect, 0 ≤ area.width
  stop : ∀ e ∈ s.subject.now, s.AsksForEnd e → e.EndsInCalendar

theorem placedPieces_isOk (field : Field) :
    (s.placedPieces field).isOk = true
      ↔ ∀ rect ∈ s.look.places field, (s.fieldPieces rect field).isOk = true := by
  unfold placedPieces
  cases s.look.places field <;> simp

theorem complexPieces_isOk_iff_fields :
    s.complexPieces.isOk = true ↔
      (s.placedPieces .progress).isOk = true ∧ (s.placedPieces .name).isOk = true
        ∧ (s.placedPieces .time).isOk = true := by
  rw [complexPieces, isOk_map, isOk_mapM]
  constructor
  · intro h
    exact ⟨h _ (by decide), h _ (by decide), h _ (by decide)⟩
  · rintro ⟨hprogress, hname, htime⟩ field -
    -- the other fields are values that need nothing
    cases field with
    | progress => exact hprogress
    | name => exact hname
    | time => exact htime
    | _ => exact (s.placedPieces_isOk _).mpr fun _ _ => rfl

theorem complexPieces_isOk : s.complexPieces.isOk = true ↔ s.Composable := by
  simp only [complexPieces_isOk_iff_fields, placedPieces_isOk, fieldPieces, isOk_map,
    progressPieces_isOk, namePieces_isOk, timePiece_isOk]
  constructor
  · rintro ⟨hprogress, hname, htime⟩
    refine ⟨hname, fun e he hasks => ?_⟩
    -- the time column asks for the end of any event, the progress column for that of a running one
    rcases hasks with hplaced | ⟨hplaced, hrunning⟩
    · obtain ⟨rect, hrect⟩ := Option.isSome_iff_exists.mp hplaced
      exact htime rect hrect e he
    · obtain ⟨rect, hrect⟩ := Option.isSome_iff_exists.mp hplaced
      exact hprogress rect hrect e he hrunning
  · intro h
    refine ⟨fun rect hrect e he hrunning => ?_, h.name, fun rect hrect e he => ?_⟩
    · exact h.stop e he (.inr ⟨Option.isSome_of_mem hrect, hrunning⟩)
    · exact h.stop e he (.inl (Option.isSome_of_mem hrect))

/-- **A row is computed** whatever it shows, unless it is a complex one with one of the two
faults. -/
theorem compose_isOk : s.compose.isOk = true ↔ (s.look.mode = .complex → s.Composable) := by
  rw [compose, isOk_map, pieces, isOk_map, frontPieces]
  cases s.look.mode with
  | simple => simp
  | complex => simp [complexPieces_isOk]

end Scene

namespace ListView

variable (v : ListView) (sources : Sources) (style : Style) (selected : Bool)

/-- The row at the cursor can be computed; there may be none. -/
def CurrentComposable : Prop :=
  ∀ r ∈ v.listing.current?, v.look.mode = .complex →
    (v.scene sources style selected r).Composable

theorem row_isOk : (v.row sources style selected).isOk = true
    ↔ v.CurrentComposable sources style selected := by
  unfold row CurrentComposable
  cases v.listing.current? with
  | none => simp
  | some r => simp [Scene.compose_isOk, scene]

/-- **Describing and painting** come to an end for every state, configuration and answer of the
sources, unless the current row has one of the two faults, and then neither does. -/
theorem describe_paint_complete_iff (canvas : Canvas) (offset : Point) :
    ((v.describe sources style selected).2.isOk = true
        ↔ v.CurrentComposable sources style selected) ∧
      ((v.paint sources style canvas offset selected).2.isOk = true
        ↔ v.CurrentComposable sources style selected) := by
  rw [describe, paint, isOk_map]
  exact ⟨v.row_isOk sources style selected, v.row_isOk sources style selected⟩

/-- A row whose name has a rectangle of negative width. -/
def crossed : List (Sources × ViewAction) :=
  [(.silent, .list (.append shownEntry)), (.silent, .list .home),
    (.silent, .change (.mode .complex)),
    (.silent, .change (.place .name (some (.mk4 0 0 (-1) 10))))]

/-- A row that shows begin and end of an event. -/
def timed : List (Sources × ViewAction) :=
  [(.silent, .list (.append shownEntry)), (.silent, .list .home),
    (.silent, .change (.mode .complex)), (.silent, .change (.place .time (some .zero)))]

/-- Sources with an event of more than three hundred thousand years. -/
def endless : Sources :=
  { Sources.silent with
    event := fun _ _ => some ⟨"endless", .ofParts 0 0, ⟨10000000000000 * nanosPerSecond⟩⟩ }

/-- Both faults are there: a rectangle of negative width, and an event without an end in the
calendar. -/
theorem row_faults_exist :
    ((run crossed empty).describe .silent .plain false).2.isOk = false
      ∧ ((run crossed empty).paint .silent .plain .empty ⟨0, 0⟩ false).2.isOk = false
      ∧ ((run timed empty).describe endless .plain false).2.isOk = false
      ∧ ((run timed empty).paint endless .plain .empty ⟨0, 0⟩ false).2.isOk = false := by
  decide

end ListView

end Bouquet
