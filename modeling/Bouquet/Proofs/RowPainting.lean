import Bouquet.Proofs.StrictDifferences
import Bouquet.Row.Basic

/-!
# What Painting a Row Records

Painting a row adds commands to a canvas and leaves its clips as they were. The commands are those
of the elements from back to front, each cut to what the row and the clip of the canvas let through;
an element that is not to be seen there leaves none.

## Main definitions

- `Rect.overlap`, `Rect.IsBlank`: the part that two rectangles have in common, which may be empty
- `Row.layered`: the elements of a row, one layer after another
- `Canvas.clipFor`, `Element.commandIn`: the clip of a row, and what an element leaves under it

## Main statements

- `Row.zOrdered_eq_layered`: sorting by layers is stable
- `Canvas.paintRow_records`: what painting a row records
-/

namespace Bouquet

open Binary32 (maxNum minNum)

deriving instance DecidableEq for Point, Size, Rect

/-! ## Common parts -/

namespace Rect

/-- The part that two rectangles have in common: from the left and top edge that lie further on to
the right and bottom edge that lie further back, where a right edge is a corner and a width apart.
It is empty when the two only touch, and of negative size when they lie apart. -/
def overlap (r s : Rect) : Rect :=
  let left := maxNum r.origin.x s.origin.x
  let top := maxNum r.origin.y s.origin.y
  let right := minNum (r.origin.x + r.size.width) (s.origin.x + s.size.width)
  let bottom := minNum (r.origin.y + r.size.height) (s.origin.y + s.size.height)
  ⟨⟨left, top⟩, ⟨right - left, bottom - top⟩⟩

/-- Nothing lies in a rectangle unless both sides are above zero. -/
def IsBlank (r : Rect) : Prop := ¬ (0 < r.size.width ∧ 0 < r.size.height)

instance (r : Rect) : Decidable r.IsBlank :=
  inferInstanceAs (Decidable (¬ (_ ∧ _)))

/-- Edges that differ leave something in between, whatever rounding does to their distance. -/
theorem not_isBlank_overlap (r s : Rect) :
    ¬ (r.overlap s).IsBlank ↔ maxNum r.left s.left < minNum r.right s.right ∧
      maxNum r.top s.top < minNum r.bottom s.bottom :=
  not_not.trans (and_congr (Binary32.sub_pos_iff _ _) (Binary32.sub_pos_iff _ _))

theorem intersect_eq (r s : Rect) :
    r.intersect s = if (r.overlap s).IsBlank then none else some (r.overlap s) := by
  unfold intersect
  simp only [Bool.and_eq_true, decide_eq_true_eq, ← not_isBlank_overlap]
  by_cases hblank : (r.overlap s).IsBlank
  · rw [if_neg (not_not.mpr hblank), if_pos hblank]
  · rw [if_pos hblank, if_neg hblank]
    rfl

end Rect

/-! ## Layers -/

/-- The elements of a row from back to front, one layer after another, each in the order of
computation. -/
def Row.layered (row : Row) : List Element :=
  [.background, .icon, .text, .progress, .border].flatMap fun layer =>
    row.elements.filter fun e => e.layer == layer

/-- A list that ascends by layers is made of its layers. -/
theorem eq_flatMap_of_pairwise {es : List Element}
    (h : es.Pairwise fun a b => a.layer.rank ≤ b.layer.rank) :
    es = Layer.all.flatMap fun layer => es.filter fun e => e.layer == layer := by
  induction es with
  | nil => rfl
  | cons e es ih =>
    obtain ⟨hle, h⟩ := List.pairwise_cons.mp h
    -- the layers below that of the first element are empty
    have hnone (layer : Layer) (hlt : layer.rank < e.layer.rank) :
        es.filter (fun other => other.layer == layer) = [] := by
      apply List.filter_eq_nil_iff.mpr
      intro other hother heq
      have hrank := hle other hother
      rw [beq_iff_eq.mp heq] at hrank
      omega
    conv_lhs => rw [ih h]
    cases hlayer : e.layer with
    | background => simp [Layer.all, hlayer]
    | icon =>
      rw [hlayer] at hnone
      simp [Layer.all, hlayer, hnone .background (by decide)]
    | text =>
      rw [hlayer] at hnone
      simp [Layer.all, hlayer, hnone .background (by decide), hnone .icon (by decide)]
    | progress =>
      rw [hlayer] at hnone
      simp [Layer.all, hlayer, hnone .background (by decide), hnone .icon (by decide),
        hnone .text (by decide)]
    | border =>
      rw [hlayer] at hnone
      simp [Layer.all, hlayer, hnone .background (by decide), hnone .icon (by decide),
        hnone .text (by decide), hnone .progress (by decide)]

namespace Row

theorem rank_trans (a b c : Element) (hab : decide (a.layer.rank ≤ b.layer.rank) = true)
    (hbc : decide (b.layer.rank ≤ c.layer.rank) = true) :
    decide (a.layer.rank ≤ c.layer.rank) = true := by
  rw [decide_eq_true_eq] at hab hbc ⊢
  exact hab.trans hbc

theorem rank_total (a b : Element) :
    (decide (a.layer.rank ≤ b.layer.rank) || decide (b.layer.rank ≤ a.layer.rank)) = true := by
  rw [Bool.or_eq_true, decide_eq_true_eq, decide_eq_true_eq]
  exact Nat.le_total _ _

theorem zOrdered_pairwise (row : Row) :
    row.zOrdered.Pairwise fun a b => a.layer.rank ≤ b.layer.rank :=
  (List.pairwise_mergeSort rank_trans rank_total row.elements).imp decide_eq_true_eq.mp

/-- The elements of one layer keep their order when all are sorted. -/
theorem filter_zOrdered (row : Row) (layer : Layer) :
    row.zOrdered.filter (fun e => e.layer == layer)
      = row.elements.filter fun e => e.layer == layer := by
  -- one layer is sorted as it is, so that sorting keeps it as a part
  have hsorted : (row.elements.filter fun e => e.layer == layer).Pairwise fun a b =>
      decide (a.layer.rank ≤ b.layer.rank) = true := by
    apply List.pairwise_of_forall_mem_list
    intro a ha b hb
    have ha := beq_iff_eq.mp (List.mem_filter.mp ha).2
    have hb := beq_iff_eq.mp (List.mem_filter.mp hb).2
    rw [ha, hb, decide_eq_true_eq]
  have hpart : (row.elements.filter fun e => e.layer == layer).Sublist row.zOrdered :=
    List.sublist_mergeSort rank_trans rank_total hsorted List.filter_sublist
  have hperm := (List.mergeSort_perm row.elements
    fun a b => decide (a.layer.rank ≤ b.layer.rank)).filter fun e => e.layer == layer
  have hkept := hpart.filter fun e => e.layer == layer
  rw [List.filter_filter] at hkept
  simp only [Bool.and_self] at hkept
  exact (hkept.eq_of_length hperm.length_eq.symm).symm

/-- **Sorting by layers is stable.** -/
theorem zOrdered_eq_layered (row : Row) : row.zOrdered = row.layered := by
  rw [eq_flatMap_of_pairwise row.zOrdered_pairwise]
  simp only [filter_zOrdered]
  rfl

end Row

/-! ## Painting -/

/-- The clip of a row: its bounds, as far as the clip of the canvas lets them through, and empty
when that lets nothing through. -/
def Canvas.clipFor (c : Canvas) (bounds : Rect) : Rect :=
  match c.clip with
  | none => bounds
  | some clip => if (clip.overlap bounds).IsBlank then ⟨⟨0, 0⟩, ⟨0, 0⟩⟩ else clip.overlap bounds

/-- The command that an element leaves under a clip, in a row whose corner is at `offset`. Nothing
is left of an element outside of the clip and of an empty text. -/
def Element.commandIn (e : Element) (offset : Point) (clip : Rect) : Option DrawCall :=
  let moved : Rect := ⟨⟨e.rect.origin.x + offset.x, e.rect.origin.y + offset.y⟩, e.rect.size⟩
  let seen := clip.overlap moved
  if seen.IsBlank ∨ e.shape.text? = some "" then none else some ⟨seen, e.shape⟩

theorem Element.commandIn_eq_some {e : Element} {offset : Point} {clip seen : Rect}
    (hseen : clip.overlap ⟨⟨e.rect.origin.x + offset.x, e.rect.origin.y + offset.y⟩, e.rect.size⟩
      = seen)
    (hshown : ¬ (seen.IsBlank ∨ e.shape.text? = some "")) :
    e.commandIn offset clip = some ⟨seen, e.shape⟩ := by
  subst hseen
  exact if_neg hshown

theorem Element.commandIn_eq_none {e : Element} {offset : Point} {clip : Rect}
    (hhidden : (clip.overlap
      ⟨⟨e.rect.origin.x + offset.x, e.rect.origin.y + offset.y⟩, e.rect.size⟩).IsBlank) :
    e.commandIn offset clip = none :=
  if_pos (.inl hhidden)

theorem Shape.isBlank_iff (shape : Shape) : shape.isBlank = true ↔ shape.text? = some "" := by
  cases shape <;> simp [isBlank, text?]

namespace Canvas

theorem narrowed_eq (c : Canvas) (bounds : Rect) : narrowed c.clip bounds = c.clipFor bounds := by
  unfold narrowed clipFor
  cases c.clip with
  | none => rfl
  | some clip =>
    dsimp only
    rw [Rect.intersect_eq]
    split <;> rfl

/-- Draw calls add what they record, each under the same clip. -/
theorem foldl_draw (c : Canvas) (calls : List DrawCall) :
    calls.foldl draw c = { c with commands := c.commands ++ calls.filterMap c.recorded } := by
  induction calls generalizing c with
  | nil => simp
  | cons call calls ih =>
    have hclip : (c.draw call).recorded = c.recorded := rfl
    rw [List.foldl_cons, ih, hclip, draw, List.filterMap_cons]
    cases c.recorded call <;> simp

theorem recorded_callAt {c : Canvas} {clip : Rect} (hclip : c.clip = some clip) (e : Element)
    (offset : Point) : c.recorded (e.callAt offset) = e.commandIn offset clip := by
  have hmoved : e.rect.translate offset
      = ⟨⟨e.rect.origin.x + offset.x, e.rect.origin.y + offset.y⟩, e.rect.size⟩ := rfl
  unfold recorded visible Element.commandIn Element.callAt
  rw [hclip, hmoved]
  dsimp only
  rw [Rect.intersect_eq]
  -- an empty text is dropped before it is cut, which leaves as much as dropping it after
  by_cases hblank : e.shape.isBlank = true
  · rw [if_pos hblank, if_pos (.inr (e.shape.isBlank_iff.mp hblank))]
  · rw [if_neg hblank]
    have htext : ¬ e.shape.text? = some "" := mt e.shape.isBlank_iff.mpr hblank
    simp only [htext, or_false]
    split <;> rfl

/-- **Painting a row** leaves clip and saved clips as they were, and adds to the commands one for
each element that is to be seen, from back to front. The row has its corner at `offset` and its own
width and height. -/
theorem paintRow_records (c : Canvas) (row : Row) (offset : Point) :
    c.paintRow row offset =
      { c with
        commands := c.commands ++ row.layered.filterMap fun e =>
          e.commandIn offset
            (c.clipFor ⟨⟨offset.x, offset.y⟩, ⟨row.size.width, row.size.height⟩⟩) } := by
  have hclip : (c.save.clipTo (row.boundsAt offset)).clip
      = some (c.clipFor (row.boundsAt offset)) := by
    rw [← narrowed_eq]
    rfl
  have hrecorded : (fun e : Element =>
        (c.save.clipTo (row.boundsAt offset)).recorded (e.callAt offset))
      = fun e => e.commandIn offset (c.clipFor (row.boundsAt offset)) :=
    funext fun e => recorded_callAt hclip e offset
  unfold paintRow
  dsimp only
  rw [foldl_draw, List.filterMap_map, Row.zOrdered_eq_layered, Function.comp_def, hrecorded]
  -- the clip that was saved is taken back
  rfl

/-- A canvas that lets a square through. -/
def square : Canvas := ⟨[], some (.mk4 5 5 12 12), [none]⟩

def ground : Element := ⟨none, .background, .mk4 0 0 20 10, .fill .white⟩

/-- A name that hangs over the right edge of its row. -/
def longName : Element := ⟨some .name, .text, .mk4 10 2 30 5, .text "name" .regular .red .left⟩

/-- A frame in the corner of its row. -/
def cornerFrame : Element := ⟨some .progress, .border, .mk4 0 0 3 2, .stroke .gray 1⟩

def overhanging : Row := ⟨⟨20, 10⟩, false, [longName, cornerFrame, ground]⟩

-- sums and differences of coordinates take deep recursion to evaluate
set_option maxRecDepth 10000 in
/-- The square lets a part of the row through, with the beginning of the name in it and nothing of
the frame. -/
theorem paintRow_records_overhanging :
    square.paintRow overhanging ⟨2, 3⟩ =
      { square with
        commands :=
          [⟨.mk4 5 5 12 8, .fill .white⟩, ⟨.mk4 12 5 5 5, .text "name" .regular .red .left⟩] } := by
  have hlayers : overhanging.layered = [ground, longName, cornerFrame] := rfl
  have hclip : square.clipFor ⟨⟨2, 3⟩, ⟨20, 10⟩⟩ = .mk4 5 5 12 8 := by decide +kernel
  have hground : ground.commandIn ⟨2, 3⟩ (.mk4 5 5 12 8) = some ⟨.mk4 5 5 12 8, .fill .white⟩ :=
    Element.commandIn_eq_some (by decide +kernel) (by decide +kernel)
  have hname : longName.commandIn ⟨2, 3⟩ (.mk4 5 5 12 8)
      = some ⟨.mk4 12 5 5 5, .text "name" .regular .red .left⟩ :=
    Element.commandIn_eq_some (by decide +kernel) (by decide +kernel)
  have hframe : cornerFrame.commandIn ⟨2, 3⟩ (.mk4 5 5 12 8) = none :=
    Element.commandIn_eq_none (by decide +kernel)
  have hseen : (overhanging.layered.filterMap fun e =>
        e.commandIn ⟨2, 3⟩ (square.clipFor ⟨⟨2, 3⟩, ⟨20, 10⟩⟩))
      = [⟨.mk4 5 5 12 8, .fill .white⟩, ⟨.mk4 12 5 5 5, .text "name" .regular .red .left⟩] := by
    rw [hlayers, hclip]
    simp only [List.filterMap_cons, List.filterMap_nil, hground, hname, hframe]
  rw [paintRow_records square overhanging ⟨2, 3⟩]
  exact congrArg (fun commands => { square with commands := commands }) hseen

end Canvas

end Bouquet
