import Bouquet.Proofs.RowPainting

/-!
# The Stack of Clips

A program on a canvas is well bracketed when each restore takes back a save before it, each save is
taken back, and every clip stands between two that belong together. It leaves the clip and the saved
clips as they were. On the way, the clip is what the clip at the start has in common with those that
were issued since and that no restore has undone. Once two in succession do not overlap it is empty
and stays so: nothing is visible then, whereas without a clip everything is.

## Main definitions

- `Canvas.Balanced`, `Canvas.WellBracketed`: programs whose saves and restores belong together
- `Canvas.unmatched`: how many restores of a program take back a save before it
- `Canvas.standing`: the clips of a program that no restore of it has undone
- `Rect.meet`, `Canvas.common`: successive intersection

## Main statements

- `Rect.zero_intersect`: an empty clip hides everything
- `Canvas.WellBracketed.standing_eq_nil`: no clip of a well-bracketed program is left
- `Canvas.clip_run`: the clip after any program
- `Canvas.clips_undone`: the discipline of the clip stack
-/

namespace Bouquet

open Binary32 (maxNum minNum)

/-! ## Empty clips -/

namespace Binary32

open Float.Model (UnpackedFloat)
open Float.Model.UnpackedFloat (Sign)

theorem not_lt_zero_of_pos {x : Float32} (h : 0 < x) : ¬ x < 0 := by
  have hzero : (0 : Float32).toModel.unpack = .zero .positive := rfl
  rw [zero_lt_iff] at h
  rw [lt_iff, hzero]
  cases hx : x.toModel.unpack with
  | notANumber | zero sign => simp [hx, Positive] at h
  | infinity sign | finite sign =>
    rw [hx] at h
    cases sign <;> simp_all [Positive, UnpackedFloat.lt, UnpackedFloat.compare]

theorem lt_eq_false_of_zero_between {a b : UnpackedFloat}
    (ha : a.lt (.zero .positive) = false) (hb : UnpackedFloat.lt (.zero .positive) b = false) :
    a.lt b = false := by
  have hsigns : compare Sign.positive Sign.negative = .gt := rfl
  -- kinds and signs decide: sizes would matter only on one side of zero
  cases a with
  | notANumber => rfl
  | infinity sign | zero sign | finite sign =>
    cases b with
    | notANumber => cases sign <;> rfl
    | infinity other | zero other | finite other =>
      cases sign <;> cases other <;> simp_all [UnpackedFloat.lt, UnpackedFloat.compare]

/-- What is not below zero is not less than what is not above it. A NaN is neither. -/
theorem not_lt_of_zero_between {x y : Float32} (hx : ¬ x < 0) (hy : ¬ 0 < y) : ¬ x < y := by
  have hzero : (0 : Float32).toModel.unpack = .zero .positive := rfl
  rw [lt_iff, hzero, Bool.not_eq_true] at hx hy
  rw [lt_iff, Bool.not_eq_true]
  exact lt_eq_false_of_zero_between hx hy

theorem not_maxNum_zero_lt (x : Float32) : ¬ maxNum 0 x < 0 := by
  unfold maxNum
  split
  · next hnan => exact absurd hnan (by decide)
  · split
    · exact not_lt_self 0
    · split
      · next hpos => exact not_lt_zero_of_pos hpos
      · exact not_lt_self 0

theorem not_zero_lt_minNum (x : Float32) : ¬ 0 < minNum 0 x := by
  unfold minNum
  split
  · next hnan => exact absurd hnan (by decide)
  · split
    · exact not_lt_self 0
    · split
      · next hneg => exact fun hpos => not_lt_zero_of_pos hpos hneg
      · exact not_lt_self 0

end Binary32

namespace Rect

/-- An empty clip hides everything. -/
theorem zero_intersect (r : Rect) : zero.intersect r = none := by
  have hright : zero.right = 0 := by decide
  have hleft : ¬ maxNum 0 r.left < minNum 0 r.right :=
    Binary32.not_lt_of_zero_between (Binary32.not_maxNum_zero_lt _) (Binary32.not_zero_lt_minNum _)
  unfold intersect
  dsimp only
  rw [hright, if_neg]
  simp only [Bool.and_eq_true, decide_eq_true_eq, not_and_or]
  exact .inl hleft

/-- What two rectangles have in common; a rectangle without sides at the origin when they do not
overlap. -/
def meet (r s : Rect) : Rect :=
  if (r.overlap s).IsBlank then ⟨⟨0, 0⟩, ⟨0, 0⟩⟩ else r.overlap s

theorem zero_meet (r : Rect) : zero.meet r = zero := by
  have h := zero_intersect r
  rw [intersect_eq] at h
  unfold meet
  split at h
  · next hblank => exact if_pos hblank
  · nomatch h

end Rect

/-! ## Programs -/

namespace Canvas

/-- Programs of saves, restores, clips and draw calls whose saves and restores belong together. -/
inductive Balanced : List CanvasOp → Prop where
  | nil : Balanced []
  | clip (rect : Rect) {rest : List CanvasOp} : Balanced rest → Balanced (.clip rect :: rest)
  | draw (call : DrawCall) {rest : List CanvasOp} : Balanced rest → Balanced (.draw call :: rest)
  /-- A save, and the restore that takes it back. -/
  | group {inner rest : List CanvasOp} :
      Balanced inner → Balanced rest → Balanced (.save :: (inner ++ .restore :: rest))

/-- Balanced programs with no clip outside of all saves. -/
inductive WellBracketed : List CanvasOp → Prop where
  | nil : WellBracketed []
  | draw (call : DrawCall) {rest : List CanvasOp} :
      WellBracketed rest → WellBracketed (.draw call :: rest)
  /-- Inside of a save, clips may stand anywhere. -/
  | group {inner rest : List CanvasOp} :
      Balanced inner → WellBracketed rest → WellBracketed (.save :: (inner ++ .restore :: rest))

/-- How many restores of a program take back a save that stands before it. -/
def unmatched : List CanvasOp → Nat
  | [] => 0
  | .save :: later => unmatched later - 1
  | .restore :: later => unmatched later + 1
  | .clip _ :: later | .draw _ :: later | .clear :: later => unmatched later

/-- The clips of a program that no restore of it has undone, the earliest first. A restore that
takes back a save before a clip undoes that clip. -/
def standing : List CanvasOp → List Rect
  | [] => []
  | .clip rect :: later => if unmatched later = 0 then rect :: standing later else standing later
  | .save :: later | .restore :: later | .draw _ :: later | .clear :: later => standing later

/-- What a clip has in common with further ones, intersected one after another. -/
def common : Option Rect → List Rect → Option Rect
  | clip, [] => clip
  | none, rect :: rects => common (some rect) rects
  | some clip, rect :: rects => common (some (clip.meet rect)) rects

theorem common_narrowed (clip : Option Rect) (rect : Rect) (rects : List Rect) :
    common (some (narrowed clip rect)) rects = common clip (rect :: rects) := by
  cases clip with
  | none => rfl
  | some clip =>
    have hmeet : (clip.intersect rect).getD Rect.zero = clip.meet rect := by
      rw [Rect.intersect_eq, Rect.meet]
      split <;> rfl
    rw [narrowed, hmeet, common]

theorem common_append (clip : Option Rect) (rects more : List Rect) :
    common clip (rects ++ more) = common (common clip rects) more := by
  induction rects generalizing clip with
  | nil => cases clip <;> rfl
  | cons rect rects ih => cases clip <;> exact ih _

/-- What is empty stays empty. -/
theorem common_zero (rects : List Rect) : common (some Rect.zero) rects = some Rect.zero := by
  induction rects with
  | nil => rfl
  | cons rect rects ih => rw [common, Rect.zero_meet, ih]

/-! ## Brackets -/

theorem run_append (c : Canvas) (ops more : List CanvasOp) :
    c.run (ops ++ more) = (c.run ops).run more :=
  List.foldl_append

theorem run_group (c : Canvas) (inner rest : List CanvasOp) :
    c.run (.save :: (inner ++ .restore :: rest)) = ((c.save.run inner).restore).run rest := by
  change c.save.run (inner ++ .restore :: rest) = _
  rw [run_append]
  rfl

theorem Balanced.run_saved {ops : List CanvasOp} (hops : Balanced ops) (c : Canvas) :
    (c.run ops).saved = c.saved := by
  induction hops generalizing c with
  | nil => rfl
  | clip rect _ ih => exact ih (c.clipTo rect)
  | draw call _ ih => exact ih (c.draw call)
  | group _ _ ihinner ihrest =>
    -- the inner program leaves the saved clip on top, from where the restore takes it
    rw [run_group, ihrest, restore, ihinner]
    rfl

/-- A balanced program takes back no save before it, and hides none from what follows. -/
theorem Balanced.unmatched_append {ops : List CanvasOp} (hops : Balanced ops)
    (later : List CanvasOp) : unmatched (ops ++ later) = unmatched later := by
  induction hops generalizing later with
  | nil => rfl
  | clip _ _ ih | draw _ _ ih => exact ih later
  -- the save takes away the one that the restore adds
  | @group inner rest _ _ ihinner ihrest =>
    rw [List.cons_append, List.append_assoc, unmatched, ihinner, List.cons_append, unmatched,
      ihrest, Nat.add_sub_cancel]

/-- All clips of a balanced program are undone by a restore that takes back a save before it. -/
theorem Balanced.standing_append {ops : List CanvasOp} (hops : Balanced ops)
    {later : List CanvasOp} (hlater : 0 < unmatched later) :
    standing (ops ++ later) = standing later := by
  induction hops generalizing later with
  | nil => rfl
  | clip rect hrest ih =>
    have hundone : ¬ unmatched (_ ++ later) = 0 :=
      (hrest.unmatched_append later).trans_ne hlater.ne'
    rw [List.cons_append, standing, if_neg hundone, ih hlater]
  | draw _ _ ih => exact ih hlater
  | @group inner rest _ _ ihinner ihrest =>
    -- the restore of the group undoes the clips inside of it, whatever follows
    have hrestore : 0 < unmatched (.restore :: (rest ++ later)) := Nat.succ_pos _
    rw [List.cons_append, List.append_assoc, standing, List.cons_append, ihinner hrestore, standing,
      ihrest hlater]

theorem WellBracketed.balanced {ops : List CanvasOp} (hops : WellBracketed ops) : Balanced ops := by
  induction hops with
  | nil => exact .nil
  | draw call _ ih => exact .draw call ih
  | group hinner _ ih => exact .group hinner ih

theorem WellBracketed.unmatched_eq_zero {ops : List CanvasOp} (hops : WellBracketed ops) :
    unmatched ops = 0 := by
  have h := hops.balanced.unmatched_append []
  rwa [List.append_nil] at h

theorem WellBracketed.standing_eq_nil {ops : List CanvasOp} (hops : WellBracketed ops) :
    standing ops = [] := by
  induction hops with
  | nil => rfl
  | draw _ _ ih => exact ih
  | @group inner rest hinner _ ih =>
    have hrestore : 0 < unmatched (.restore :: rest) := Nat.succ_pos _
    rw [standing, hinner.standing_append hrestore, standing, ih]

theorem Balanced.clear_notMem {ops : List CanvasOp} (hops : Balanced ops) : .clear ∉ ops := by
  induction hops with
  | nil => simp
  | clip _ _ ih | draw _ _ ih => simp [ih]
  | group _ _ ihinner ihrest => simp [ihinner, ihrest]

theorem unmatched_le_append (ops later : List CanvasOp) :
    unmatched ops ≤ unmatched (ops ++ later) := by
  induction ops with
  | nil => exact Nat.zero_le _
  | cons op ops ih =>
    cases op with
    | save => exact Nat.sub_le_sub_right ih 1
    | restore => exact Nat.succ_le_succ ih
    | clip | draw | clear => exact ih

/-! ## The clip at every point -/

/-- The clip after a program with enough saved clips below it: what the clip that its last unmatched
restore takes back has in common with the clips that are left standing. -/
theorem clip_run {ops : List CanvasOp} (hclear : .clear ∉ ops) (c : Canvas)
    (hsaved : unmatched ops ≤ c.saved.length) :
    (c.run ops).clip = common ((c.clip :: c.saved).getD (unmatched ops) none) (standing ops) := by
  induction ops generalizing c with
  | nil => rfl
  | cons op ops ih =>
    rw [List.mem_cons, not_or] at hclear
    obtain ⟨hop, hclear⟩ := hclear
    cases op with
    | save =>
      change (c.save.run ops).clip = _
      rw [unmatched] at hsaved ⊢
      rw [ih hclear c.save (by change _ ≤ c.saved.length + 1; omega), standing]
      -- the stack is one higher, and so is the place of the clip on it
      cases unmatched ops <;> rfl
    | restore =>
      change (c.restore.run ops).clip = _
      rw [unmatched] at hsaved ⊢
      cases hc : c.saved with
      | nil => simp [hc] at hsaved
      | cons clip saved =>
        have hrestore : c.restore = { c with clip := clip, saved := saved } := by rw [restore, hc]
        rw [hc, List.length_cons] at hsaved
        rw [hrestore, ih hclear _ (by change _ ≤ saved.length; omega), standing]
        rfl
    | clip rect =>
      change ((c.clipTo rect).run ops).clip = _
      rw [unmatched] at hsaved ⊢
      rw [ih hclear (c.clipTo rect) hsaved, standing]
      -- a restore that goes below the clip undoes it
      cases unmatched ops with
      | zero => exact common_narrowed c.clip rect (standing ops)
      | succ n => rfl
    | draw call => exact ih hclear (c.draw call) hsaved
    | clear => exact absurd rfl hop

/-- Within a well-bracketed program no restore goes below the clip at the start. -/
theorem WellBracketed.clip_run_of_prefix {ops before : List CanvasOp} (hops : WellBracketed ops)
    (hbefore : before <+: ops) (c : Canvas) :
    (c.run before).clip = common c.clip (standing before) := by
  have hclear : .clear ∉ before := fun hmem => hops.balanced.clear_notMem (hbefore.mem hmem)
  -- a restore that goes below the start would do so in the whole program too
  have hunmatched : unmatched before = 0 := by
    obtain ⟨after, rfl⟩ := hbefore
    exact Nat.le_zero.mp ((unmatched_le_append before after).trans_eq hops.unmatched_eq_zero)
  rw [clip_run hclear c (hunmatched ▸ Nat.zero_le _), hunmatched]
  rfl

/-- **Restores undo the clips since their saves.** A well-bracketed program leaves clip and saved
clips as they were. At every point of it, the clip is what the clip at the start has in common with
the clips that were issued since and not undone. Once two in succession do not overlap, that is
empty, and nothing is visible. No draw call changes clip or saved clips, and a restore changes
nothing when nothing is saved. -/
theorem clips_undone (c : Canvas) {ops : List CanvasOp} (hops : WellBracketed ops) :
    ((c.run ops).clip = c.clip ∧ (c.run ops).saved = c.saved) ∧
    (∀ before, before <+: ops → (c.run before).clip = common c.clip (standing before)) ∧
    (∀ clip rects rect other later, common clip rects = some rect →
      (rect.overlap other).IsBlank →
      common clip (rects ++ other :: later) = some ⟨⟨0, 0⟩, ⟨0, 0⟩⟩) ∧
    (∀ rect, visible (some ⟨⟨0, 0⟩, ⟨0, 0⟩⟩) rect = none) ∧
    (∀ call, (c.draw call).clip = c.clip ∧ (c.draw call).saved = c.saved) ∧
    (c.saved = [] → c.restore = c) := by
  have hclip : (c.run ops).clip = c.clip := by
    rw [hops.clip_run_of_prefix (List.prefix_refl ops) c, hops.standing_eq_nil]
    rfl
  refine ⟨⟨hclip, hops.balanced.run_saved c⟩, fun _ hbefore => hops.clip_run_of_prefix hbefore c,
    ?_, Rect.zero_intersect, fun _ => ⟨rfl, rfl⟩, ?_⟩
  · intro clip rects rect other later hrect hblank
    rw [common_append, hrect, common, Rect.meet, if_pos hblank]
    exact common_zero later
  · intro hsaved
    rw [restore, hsaved]

/-- A clip, one that overlaps it at a corner, and one that lies in the first but apart from that
corner. -/
def nestedClips : List CanvasOp :=
  [.save, .clip (.mk4 0 0 8 8), .save, .clip (.mk4 5 6 8 8), .save, .clip (.mk4 1 1 2 2),
    .restore, .restore, .restore]

-- sums and differences of coordinates take deep recursion to evaluate
set_option maxRecDepth 10000 in
/-- Inside of the second clip, what it has in common with the first is left; inside of the third,
nothing. The restores bring the two wider clips back, and then everything is visible again. -/
theorem clips_undone_nestedClips :
    WellBracketed nestedClips ∧
      (empty.run (nestedClips.take 2)).clip = some (.mk4 0 0 8 8) ∧
      (empty.run (nestedClips.take 4)).clip = some (.mk4 5 6 3 2) ∧
      (empty.run (nestedClips.take 6)).clip = some Rect.zero ∧
      (empty.run (nestedClips.take 7)).clip = some (.mk4 5 6 3 2) ∧
      (empty.run (nestedClips.take 8)).clip = some (.mk4 0 0 8 8) ∧
      (empty.run nestedClips).clip = none ∧ empty.restore = empty := by
  have hthird : Balanced [.clip (.mk4 1 1 2 2)] := .clip _ .nil
  have hsecond : Balanced [.clip (.mk4 5 6 8 8), .save, .clip (.mk4 1 1 2 2), .restore] :=
    .clip _ (.group hthird .nil)
  have hops : WellBracketed nestedClips :=
    .group (.clip (.mk4 0 0 8 8) (.group hsecond .nil)) .nil
  have hcorner : (Rect.mk4 0 0 8 8).meet (.mk4 5 6 8 8) = .mk4 5 6 3 2 := by decide +kernel
  have hapart : ((Rect.mk4 5 6 3 2).overlap (.mk4 1 1 2 2)).IsBlank := by decide +kernel
  have hcommon : common none [.mk4 0 0 8 8, .mk4 5 6 8 8] = some (.mk4 5 6 3 2) :=
    congrArg some hcorner
  obtain ⟨⟨hclip, -⟩, hpoints, hempty, -, -, hrestore⟩ := clips_undone empty hops
  have hat (n : Nat) : (empty.run (nestedClips.take n)).clip
      = common none (standing (nestedClips.take n)) := hpoints _ (List.take_prefix n nestedClips)
  refine ⟨hops, hat 2, (hat 4).trans hcommon, (hat 6).trans ?_, (hat 7).trans hcommon, hat 8, hclip,
    hrestore rfl⟩
  exact hempty none [.mk4 0 0 8 8, .mk4 5 6 8 8] (.mk4 5 6 3 2) (.mk4 1 1 2 2) [] hcommon hapart

end Canvas

end Bouquet
