import Bouquet.Proofs.SharedForeground
import Bouquet.Proofs.ShownOnce

/-!
# The Color of the Name

Eight rules give the name and the number of an entry a color of the color table. The first rule that
holds decides alone: when its slot of the table is not set it is the style that gives the color, and
no later rule. The rules for recordings hold only with their slots set, so that one of them leaves
the choice to the next.

## Main definitions

- `NameRule`, `NameRule.all`, `NameRule.tint`: the rules, their order and their slots
- `Sources.Recorded`, `NameRule.Holds`: when a rule holds
- `ListView.nameColor`: the color that the first rule gives

## Main statements

- `ListView.recordingForeground?_eq`, `ListView.foreground_eq_nameColor`: the foreground of a row
- `ListView.name_color`: the color of every name and every number
-/

namespace Bouquet

/-! ## Rules -/

/-- A reason to draw name and number in a color of the color table. -/
inductive NameRule where
  | marked
  | unavailable
  | recording
  | recorded
  | streamed
  | pseudoRecorded
  | fallback
  | advertisement
  deriving DecidableEq

/-- Whether a service or a group is being recorded under a filter: the service itself, or one of the
listed members of the group. -/
def Sources.Recorded (sources : Sources) (r : Reference) (filter : RecordType) : Prop :=
  r.kind = .service ∧ (∃ other ∈ sources.recordings filter, r.same other = true)
    ∨ r.kind = .group ∧ ∃ member ∈ (sources.children r).getD [],
      ∃ other ∈ sources.recordings filter, member.same other = true

instance (sources : Sources) (r : Reference) (filter : RecordType) :
    Decidable (sources.Recorded r filter) :=
  inferInstanceAs (Decidable (_ ∨ _))

namespace NameRule

/-- The rules for recordings, in their order. -/
def recordings : List NameRule := [.recording, .recorded, .streamed, .pseudoRecorded]

/-- All rules; each beats those behind it. -/
def all : List NameRule := [.marked, .unavailable] ++ recordings ++ [.fallback, .advertisement]

/-- The slot of the color table from which a rule takes its color. -/
def tint (selected : Bool) : NameRule → Tint
  | .marked => if selected then .markedForegroundSelected else .markedForeground
  | .unavailable => .notAvailable
  | .recording => .recordingColor
  | .recorded => .recorded
  | .streamed => .streamed
  | .pseudoRecorded => .pseudoRecorded
  | .fallback => if selected then .itemFallbackSelected else .itemFallback
  | .advertisement => .advertisement

/-- When a rule holds for an entry. A mark is that of the entry or that of a drag, whichever entry
is dragged. The options tell whether recordings have a color of their own. -/
def Holds (v : ListView) (sources : Sources) (r : Reference) : NameRule → Prop
  | .marked => v.listing.dragging = true ∨ ∃ m ∈ v.listing.marks.members, r.same m = true
  | .unavailable =>
    (r.kind = .service ∨ r.kind = .group) ∧ (∀ ignored ∈ v.ignored, r.same ignored = false)
      ∧ ∃ info ∈ sources.info r, info.playable = false
  | .recording =>
    sources.Recorded r .real ∧ v.look.options.recordMode = .color
      ∧ v.look.colors.isSet .recordingColor = true
  | .recorded => sources.Recorded r .real ∧ v.look.colors.isSet .recorded = true
  | .streamed => sources.Recorded r .streaming ∧ v.look.colors.isSet .streamed = true
  | .pseudoRecorded => sources.Recorded r .pseudo ∧ v.look.colors.isSet .pseudoRecorded = true
  | .fallback => ∃ info ∈ sources.info r, info.fallback = true
  | .advertisement => ∃ info ∈ sources.info r, info.advertisement = true

instance (v : ListView) (sources : Sources) (r : Reference) (rule : NameRule) :
    Decidable (rule.Holds v sources r) :=
  match rule with
  | .marked => inferInstanceAs (Decidable (_ ∨ _))
  | .unavailable | .recording | .recorded | .streamed | .pseudoRecorded =>
    inferInstanceAs (Decidable (_ ∧ _))
  | .fallback | .advertisement => inferInstanceAs (Decidable (∃ info ∈ _, _))

end NameRule

namespace ListView

variable {v : ListView} {sources : Sources} {style : Style} {selected : Bool} {r : Reference}

/-- The color of name and number of an entry: the first rule that holds takes it from its slot of
the color table. Where that is not set, or no rule holds, it is the foreground that the style has
for the selection state. -/
def nameColor (v : ListView) (sources : Sources) (style : Style) (selected : Bool)
    (r : Reference) : Color :=
  ((NameRule.all.find? fun rule => rule.Holds v sources r).bind
    fun rule => v.look.colors.get? (rule.tint selected)).getD
      (if selected then style.foregroundSelected else style.foreground)

/-! ## Single rules -/

theorem looksMarked_eq :
    v.looksMarked r = decide (NameRule.marked.Holds v sources r) := by
  rw [Bool.eq_iff_iff, decide_eq_true_eq]
  simp [looksMarked, Marks.contains, NameRule.Holds]

theorem not_countsAsPlayable_eq :
    (!v.countsAsPlayable sources r) = decide (NameRule.unavailable.Holds v sources r) := by
  rw [Bool.eq_iff_iff, decide_eq_true_eq, Bool.not_eq_true', countsAsPlayable,
    Bool.or_eq_false_iff, Bool.or_eq_false_iff, and_assoc]
  refine and_congr ?_ (and_congr ?_ ?_)
  · rw [Bool.not_eq_false', Reference.isPlayable, Bool.or_eq_true, beq_iff_eq, beq_iff_eq]
  · cases v.ignored <;> simp
  · cases sources.info r <;> simp

theorem isRecorded_eq (filter : RecordType) :
    (v.scene sources style selected r).isRecorded filter
      = decide (sources.Recorded r filter) := by
  show (r.isPlayable && sources.isRecorded r filter) = _
  rw [Bool.eq_iff_iff, decide_eq_true_eq]
  unfold Reference.isPlayable Sources.isRecorded Sources.Recorded Reference.isGroup
  cases r.kind <;> simp

theorem infoHolds_eq (property : ServiceInfo → Bool) :
    (v.scene sources style selected r).infoHolds property
      = decide (∃ info ∈ sources.info r, property info = true) := by
  show (sources.info r).any property = _
  cases sources.info r <;> simp

/-! ## The first rule -/

theorem bind_find?_cons {α β : Type} (p : α → Bool) (f : α → Option β) (x : α) (xs : List α) :
    ((x :: xs).find? p).bind f = if p x then f x else (xs.find? p).bind f := by
  rw [List.find?_cons]
  cases p x <;> rfl

/-- The choice among the tints of recordings is that of the first rule for them. -/
theorem recordingForeground?_eq :
    (v.scene sources style selected r).recordingForeground?
      = (NameRule.recordings.find? fun rule => rule.Holds v sources r).bind
        fun rule => v.look.colors.get? (rule.tint selected) := by
  have htint (tint : Tint) :
      (v.scene sources style selected r).tint? tint = v.look.colors.get? tint := rfl
  have hset (tint : Tint) :
      (v.look.colors.isSet tint = true) = ((v.look.colors.get? tint).isSome = true) := by
    unfold ColorTable.get?
    cases v.look.colors.isSet tint <;> rfl
  have hmode : (v.scene sources style selected r).colorsRecordings
      = decide (v.look.options.recordMode = .color) := rfl
  unfold Scene.recordingForeground?
  simp only [NameRule.recordings, bind_find?_cons, NameRule.Holds, NameRule.tint, hset, htint,
    hmode, isRecorded_eq]
  by_cases hreal : sources.Recorded r .real
  · -- a color of its own comes first, then that of recorded services, then the other kinds
    by_cases hcolor : v.look.options.recordMode = .color
    · cases v.look.colors.get? .recordingColor <;> cases v.look.colors.get? .recorded <;>
        simp [hreal, hcolor, and_comm]
    · cases v.look.colors.get? .recorded <;> simp [hreal, hcolor, and_comm]
  · simp [hreal, and_comm]

/-- A rule for recordings that holds has its slot set. -/
theorem isSome_of_recordings (selected : Bool) {rule : NameRule}
    (hmem : rule ∈ NameRule.recordings) (h : rule.Holds v sources r) :
    (v.look.colors.get? (rule.tint selected)).isSome = true := by
  have hset : v.look.colors.isSet (rule.tint selected) = true := by
    cases rule with
    | recording => exact h.2.2
    | recorded | streamed | pseudoRecorded => exact h.2
    | _ => exact absurd hmem (by decide)
  rw [ColorTable.get?, if_pos hset]
  rfl

/-- **The foreground** of a row is the color that the rules give. -/
theorem foreground_eq_nameColor :
    (v.scene sources style selected r).foreground = v.nameColor sources style selected r := by
  have hmarked : (v.scene sources style selected r).subject.marked
      = decide (NameRule.marked.Holds v sources r) := looksMarked_eq
  have hunavailable : (!(v.scene sources style selected r).subject.playable)
      = decide (NameRule.unavailable.Holds v sources r) := not_countsAsPlayable_eq
  unfold Scene.foreground Scene.tintedForeground? nameColor
  rw [hmarked, hunavailable, infoHolds_eq, infoHolds_eq, recordingForeground?_eq]
  refine congrArg (Option.getD · (style.rowForeground selected)) ?_
  simp only [NameRule.all, List.cons_append, List.nil_append, bind_find?_cons]
  -- the two rules before those for recordings are asked alike
  refine if_congr Iff.rfl rfl (if_congr Iff.rfl rfl ?_)
  rw [List.find?_append]
  cases hfind : NameRule.recordings.find? fun rule => decide (rule.Holds v sources r) with
  | none =>
    -- and so are the two behind them, when none of them holds
    simp only [Option.bind_none, Option.none_or, bind_find?_cons]
    rfl
  | some rule =>
    -- its slot is set, so that it leaves nothing to the rules behind
    have hholds : rule.Holds v sources r := by simpa using List.find?_some hfind
    have hset := isSome_of_recordings selected (List.mem_of_find?_eq_some hfind) hholds
    rw [Option.bind_some, if_pos hset, Option.some_or, Option.bind_some]

/-- The color that the first rule gives the current entry. -/
theorem nameColor_of_first {rule : NameRule} (hr : v.listing.current? = some r)
    (hfirst : v.listing.current?.bind (fun r => NameRule.all.find? fun rule =>
      rule.Holds v sources r) = some rule) :
    v.nameColor sources style selected r
      = (v.look.colors.get? (rule.tint selected)).getD
        (if selected then style.foregroundSelected else style.foreground) := by
  rw [hr, Option.bind_some] at hfirst
  rw [nameColor, hfirst, Option.bind_some]

/-! ## Names and numbers -/

/-- A text of one of the two fields is a name or a number. -/
theorem part_of_text {s : Scene} {pieces : List Piece} (h : s.pieces = .ok pieces) {p : Piece}
    (hp : p ∈ pieces) (hfield : p.element.field = some .name ∨ p.element.field = some .number)
    (htext : p.element.text?.isSome = true) : p.part = .name ∨ p.part = .number := by
  rcases hfield with hfield | hfield
  all_goals
    obtain ⟨column, hoffers, hshows, hown⟩ := Scene.offers_of_field h hp hfield
    have hcaption := hoffers.mem_captions (hshows.layer_text htext)
    rw [hown] at hcaption
  · exact .inl (List.mem_singleton.mp hcaption)
  · exact .inr (List.mem_singleton.mp hcaption)

/-- **Names and numbers** have the color of the first rule that holds for the entry, whatever else
is shown of it: every text in one of the two fields of a row, in either mode and selection state. -/
theorem name_color {row : Row} (h : (v.describe sources style selected).2 = .ok (some row)) :
    ∃ r, v.listing.current? = some r ∧ ∀ e ∈ row.elements,
      e.field = some .name ∨ e.field = some .number → e.text?.isSome = true →
        e.color? = some (v.nameColor sources style selected r) := by
  obtain ⟨r, pieces, hr, hpieces, rfl⟩ := row_eq_some h
  refine ⟨r, hr, List.forall_mem_map.mpr fun p hp hfield htext => ?_⟩
  have hpart := part_of_text hpieces hp hfield htext
  obtain ⟨front, hfront, rfl⟩ := map_eq_ok.mp hpieces
  -- the background has no text
  have hp : p ∈ front := by
    refine (List.mem_append.mp hp).resolve_left fun hback => ?_
    have hground := Scene.backgroundPieces_shows.1.subset (List.mem_map_of_mem hback)
    rcases hpart with hpart | hpart <;> simp [hpart] at hground
  have hshared : (v.scene sources style selected r).ownColor? p.part = none := by
    rcases hpart with hpart | hpart <;> rw [hpart] <;> rfl
  obtain ⟨color, hcolor⟩ : ∃ color, p.element.color? = some color := by
    unfold Element.text? at htext
    unfold Element.color?
    cases hshape : p.element.shape <;> simp_all [Shape.text?, Shape.color?]
  rw [hcolor, Scene.color_of_shared hfront hp hshared hcolor, foreground_eq_nameColor]

/-- A group with number and name, in a look with colors for recorded and for unavailable services
and for advertisements. -/
def numbered : List (Sources × ViewAction) :=
  [.list (.append (.plain .group "group" "group")), .list .home, .change (.mode .complex),
    .change (.size ⟨300, 20⟩), .change (.place .number (some (.mk4 0 0 50 20))),
    .change (.place .name (some (.mk4 50 0 250 20))),
    .change (.setting (.numberingMode .position)), .change (.color .notAvailable (some .gray)),
    .change (.color .recorded (some .yellow)),
    .change (.color .advertisement (some .red))].map fun action => (.silent, action)

/-- Sources in which a member of the group is recorded, and everything is an advertisement. -/
def recordedMember : Sources :=
  { Sources.silent with
    children := fun _ => some [.marker "other", shownEntry]
    info := fun r => some { ServiceInfo.tunable r.name with advertisement := true }
    recordings := fun _ => [shownEntry] }

/-- The group is dragged, with a color for marked entries that are not selected. -/
def draggedGroup : List (Sources × ViewAction) :=
  numbered ++ [(.silent, .change (.color .markedForeground (some .blue))),
    (.silent, .list (.setDragging true))]

/-- What is recorded is yellow, advertisement or not. Marked and selected it takes the white that
the style has for selected rows, since the slot for that is not set, and neither the blue of marked
entries that are not selected nor the yellow. -/
theorem name_color_recordedMember :
    (∃ row, ((run numbered empty).describe recordedMember .plain false).2 = .ok (some row)
      ∧ row.elements.map (fun e => (e.field, e.text?))
        = [(none, none), (some .number, some "1"), (some .name, some "group")]
      ∧ ∀ e ∈ row.elements, e.field = some .name ∨ e.field = some .number →
        e.text?.isSome = true → e.color? = some .yellow) ∧
    ∃ row, ((run draggedGroup empty).describe recordedMember .plain true).2 = .ok (some row)
      ∧ row.elements.map (fun e => (e.field, e.text?))
        = [(none, none), (some .number, some "1"), (some .name, some "group")]
      ∧ ∀ e ∈ row.elements, e.field = some .name ∨ e.field = some .number →
        e.text?.isSome = true → e.color? = some .white := by
  constructor
  · obtain ⟨row, hrow, htexts⟩ : ∃ row,
        ((run numbered empty).describe recordedMember .plain false).2 = .ok (some row)
          ∧ row.elements.map (fun e => (e.field, e.text?))
            = [(none, none), (some .number, some "1"), (some .name, some "group")] :=
      exists_row (by decide +kernel)
    obtain ⟨r, hr, hcolor⟩ := name_color hrow
    -- the advertisement comes after the recording
    have hrule : (run numbered empty).listing.current?.bind (fun r => NameRule.all.find?
        fun rule => rule.Holds (run numbered empty) recordedMember r) = some .recorded := by
      decide +kernel
    have hset : (run numbered empty).look.colors.get? .recorded = some .yellow := rfl
    rw [nameColor_of_first hr hrule, NameRule.tint, hset] at hcolor
    exact ⟨row, hrow, htexts, hcolor⟩
  · obtain ⟨row, hrow, htexts⟩ : ∃ row,
        ((run draggedGroup empty).describe recordedMember .plain true).2 = .ok (some row)
          ∧ row.elements.map (fun e => (e.field, e.text?))
            = [(none, none), (some .number, some "1"), (some .name, some "group")] :=
      exists_row (by decide +kernel)
    obtain ⟨r, hr, hcolor⟩ := name_color hrow
    have hrule : (run draggedGroup empty).listing.current?.bind (fun r => NameRule.all.find?
        fun rule => rule.Holds (run draggedGroup empty) recordedMember r) = some .marked := by
      decide +kernel
    have hunset : (run draggedGroup empty).look.colors.get? .markedForegroundSelected = none := rfl
    rw [nameColor_of_first hr hrule, NameRule.tint, if_pos rfl, hunset] at hcolor
    exact ⟨row, hrow, htexts, hcolor⟩

end ListView

end Bouquet
