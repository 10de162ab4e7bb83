import Bouquet.PiconCache
import Bouquet.Proofs.PathSpelling
import Mathlib.Data.Set.Card

/-!
# Remembered Picons

What a picon cache answers is decided by its history and not by the files as they are now. The
first time that a path is asked for after the cache was cleared, the file is decoded as it is then.
From then on the answer stays the same, a failure as well as a pixmap, however the files change, the
path is spelt, and whatever else is asked for, until the cache is cleared again.

## Main definitions

- `PiconCache.Sound`: no path is known twice, and no two paths have the same pixels
- `PiconCache.HeldBy`: which paths can have the pixels of one decoding
- `PiconOp`, `PiconStore`: a cache beside the files that it reads, and what happens to both
- `PiconOp.Loaded`: whether a path was asked for since the cache was cleared

## Main statements

- `PiconCache.get?_load`: what is known after a load
- `PiconStore.get?_run_of_known`: what is known stays known
- `PiconStore.known_run_iff`: the paths that are known after a run
- `PiconStore.picons_remembered`: the answers of a cache over its whole history
-/

namespace Bouquet

/-! ## Caches -/

namespace PiconCache

variable {c : PiconCache} {image : FilePath → Option Pixmap} {file other : FilePath}

theorem load_of_known {known : Option Decoded} (h : c.get? file = some known) :
    c.load image file = (c, known) := by
  rw [load, h]

theorem load_of_unknown (h : c.get? file = none) :
    c.load image file =
      let decoded := (image file).map (Decoded.mk c.decodings)
      (⟨(file.route, decoded) :: c.entries, c.decodings + 1⟩, decoded) := by
  rw [load, h]

/-- What is known of a path is known of it however it is spelt. -/
theorem get?_congr (c : PiconCache) (h : other.route = file.route) :
    c.get? other = c.get? file := by
  rw [get?, h, get?]

/-- A load makes one path known, by its answer. -/
theorem get?_load (c : PiconCache) (image : FilePath → Option Pixmap) (file other : FilePath) :
    (c.load image file).1.get? other
      = if other.route = file.route then some (c.load image file).2 else c.get? other := by
  cases hknown : c.get? file with
  | some known =>
    rw [load_of_known hknown]
    split
    · next heq => rw [c.get?_congr heq, hknown]
    · rfl
  | none =>
    rw [load_of_unknown hknown]
    split
    · next heq => simp [get?, heq]
    · next hne =>
      have hother : (other.route == file.route) = false := beq_false_of_ne hne
      simp [get?, List.lookup_cons, hother]

theorem get?_clear (c : PiconCache) (file : FilePath) : c.clear.get? file = none := rfl

theorem get?_eq_none_iff (c : PiconCache) (file : FilePath) :
    c.get? file = none ↔ file.route ∉ c.entries.map Prod.fst := by
  rw [get?, List.lookup_eq_none_iff, List.mem_map]
  constructor
  · rintro hnone ⟨entry, hentry, heq⟩
    simpa [heq] using hnone entry hentry
  · intro hnone entry hentry
    exact bne_iff_ne.mpr fun heq => hnone ⟨entry, hentry, heq.symm⟩

/-- A pixmap that a load answers was either known or is decoded now. -/
theorem load_cases {decoded : Decoded} (h : (c.load image file).2 = some decoded) :
    c.get? file = some (some decoded) ∨ c.get? file = none ∧ decoded.stamp = c.decodings := by
  cases hknown : c.get? file with
  | some known =>
    rw [load_of_known hknown] at h
    exact .inl (congrArg some h)
  | none =>
    rw [load_of_unknown hknown] at h
    obtain ⟨pixmap, -, rfl⟩ := Option.map_eq_some_iff.mp h
    exact .inr ⟨rfl, rfl⟩

theorem decodings_le_load (c : PiconCache) (image : FilePath → Option Pixmap) (file : FilePath) :
    c.decodings ≤ (c.load image file).1.decodings := by
  unfold load
  split
  · exact Nat.le_refl _
  · exact Nat.le_succ _

/-- The pixels of a past decoding are known of no other paths than these. -/
structure HeldBy (c : PiconCache) (stamp : Nat) (routes : Route → Prop) : Prop where
  past : stamp < c.decodings
  only : ∀ file decoded, c.get? file = some (some decoded) → decoded.stamp = stamp →
    routes file.route

/-- Later decodings give other pixels. -/
theorem HeldBy.load {stamp : Nat} {routes : Route → Prop} (h : c.HeldBy stamp routes)
    (image : FilePath → Option Pixmap) (file : FilePath) :
    (c.load image file).1.HeldBy stamp routes where
  past := Nat.lt_of_lt_of_le h.past (c.decodings_le_load image file)
  only other decoded hknown hstamp := by
    rw [get?_load] at hknown
    split at hknown
    · next heq =>
      rw [heq]
      rcases load_cases (Option.some.inj hknown) with hbefore | ⟨-, hnow⟩
      · exact h.only file decoded hbefore hstamp
      · exact absurd h.past (by omega)
    · exact h.only other decoded hknown hstamp

theorem HeldBy.clear {stamp : Nat} {routes : Route → Prop} (h : c.HeldBy stamp routes) :
    c.clear.HeldBy stamp fun _ => False where
  past := h.past
  only file decoded hknown := by simp [get?_clear] at hknown

theorem HeldBy.mono {stamp : Nat} {routes others : Route → Prop} (h : c.HeldBy stamp routes)
    (hsub : ∀ route, routes route → others route) : c.HeldBy stamp others where
  past := h.past
  only file decoded hknown hstamp := hsub file.route (h.only file decoded hknown hstamp)

/-- No path is known twice, each by its route, and the pixels of a path are its own. -/
structure Sound (c : PiconCache) : Prop where
  nodup : (c.entries.map Prod.fst).Nodup
  routes : ∀ route ∈ c.entries.map Prod.fst, ∃ file, FilePath.route file = route
  held : ∀ file decoded, c.get? file = some (some decoded) →
    c.HeldBy decoded.stamp (· = file.route)

theorem sound_empty : empty.Sound where
  nodup := List.nodup_nil
  routes := by simp [empty]
  held file decoded hknown := by simp [get?, empty] at hknown

theorem sound_clear (c : PiconCache) : c.clear.Sound where
  nodup := List.nodup_nil
  routes := by simp [clear]
  held file decoded hknown := by simp [get?_clear] at hknown

theorem nodup_load (h : (c.entries.map Prod.fst).Nodup) (image : FilePath → Option Pixmap)
    (file : FilePath) : ((c.load image file).1.entries.map Prod.fst).Nodup := by
  cases hknown : c.get? file with
  | some known => rwa [load_of_known hknown]
  | none =>
    rw [load_of_unknown hknown]
    exact List.nodup_cons.mpr ⟨(c.get?_eq_none_iff file).mp hknown, h⟩

theorem routes_load (h : ∀ route ∈ c.entries.map Prod.fst, ∃ file, FilePath.route file = route)
    (image : FilePath → Option Pixmap) (file : FilePath) :
    ∀ route ∈ (c.load image file).1.entries.map Prod.fst, ∃ file, FilePath.route file = route := by
  cases hknown : c.get? file with
  | some known => rwa [load_of_known hknown]
  | none =>
    rw [load_of_unknown hknown]
    exact List.forall_mem_cons.mpr ⟨⟨file, rfl⟩, h⟩

theorem Sound.load (h : c.Sound) (image : FilePath → Option Pixmap) (file : FilePath) :
    (c.load image file).1.Sound where
  nodup := nodup_load h.nodup image file
  routes := routes_load h.routes image file
  held other decoded hafter := by
    have hafter' := hafter
    rw [get?_load] at hafter'
    split at hafter'
    · next heq =>
      rw [heq]
      rcases load_cases (Option.some.inj hafter') with hbefore | ⟨hunknown, hstamp⟩
      · exact (h.held file decoded hbefore).load image file
      · -- what was known before comes from earlier decodings
        refine ⟨?_, fun another again hknown hagain => ?_⟩
        · rw [load_of_unknown hunknown, hstamp]
          exact Nat.lt_succ_self _
        · rw [get?_load] at hknown
          split at hknown
          · assumption
          · have hpast := (h.held another again hknown).past
            omega
    · exact (h.held other decoded hafter').load image file

end PiconCache

/-! ## What happens to a cache -/

/-- What happens to a cache and the files that it reads. -/
inductive PiconOp where
  /-- A path is asked for. -/
  | load (file : FilePath)
  /-- The cache is cleared. -/
  | clear
  /-- The files change. From now on `image` tells what decoding them gives. -/
  | change (image : FilePath → Option Pixmap)

namespace PiconOp

/-- A path was asked for, in some spelling, and the cache was not cleared since. -/
def Loaded (file : FilePath) (ops : List PiconOp) : Prop :=
  ∃ before spelt after, ops = before ++ .load spelt :: after ∧ spelt.Same file ∧ .clear ∉ after

/-- Whether a path is asked for, in some spelling. -/
def Loads (op : PiconOp) (file : FilePath) : Prop := ∃ spelt, op = .load spelt ∧ spelt.Same file

theorem not_loaded_nil (file : FilePath) : ¬ Loaded file [] := by
  rintro ⟨before, spelt, after, h, -⟩
  simp at h

theorem loaded_cons_iff (file : FilePath) (op : PiconOp) (ops : List PiconOp) :
    Loaded file (op :: ops) ↔
      (op.Loads file ∧ .clear ∉ ops) ∨ Loaded file ops := by
  constructor
  · rintro ⟨before, spelt, after, hsplit, hsame, hclear⟩
    rcases List.cons_eq_append_iff.mp hsplit with ⟨-, hhead⟩ | ⟨front, -, hrest⟩
    · obtain ⟨rfl, rfl⟩ := List.cons.inj hhead
      exact .inl ⟨⟨spelt, rfl, hsame⟩, hclear⟩
    · exact .inr ⟨front, spelt, after, hrest, hsame, hclear⟩
  · rintro (⟨⟨spelt, rfl, hsame⟩, hclear⟩ | ⟨before, spelt, after, rfl, hsame, hclear⟩)
    · exact ⟨[], spelt, ops, rfl, hsame, hclear⟩
    · exact ⟨op :: before, spelt, after, rfl, hsame, hclear⟩

theorem Loaded.congr {file other : FilePath} {ops : List PiconOp} (h : file.Same other)
    (hloaded : Loaded file ops) : Loaded other ops := by
  obtain ⟨before, spelt, after, hsplit, hsame, hclear⟩ := hloaded
  exact ⟨before, spelt, after, hsplit, .trans _ _ _ hsame h, hclear⟩

/-- Among the loads of a path since the cache was cleared there is a first one. -/
theorem Loaded.exists_first {file : FilePath} {ops : List PiconOp} (h : Loaded file ops) :
    ∃ before spelt after, ops = before ++ .load spelt :: after ∧ spelt.Same file ∧
      .clear ∉ after ∧ ¬ Loaded file before := by
  obtain ⟨before, spelt, after, rfl, hsame, hclear⟩ := h
  -- as long as there is an earlier one, go back to it
  induction hlength : before.length using Nat.strong_induction_on
    generalizing before spelt after with
  | _ length ih =>
    by_cases hbefore : Loaded file before
    · obtain ⟨front, earlier, back, rfl, hearlier, hback⟩ := hbefore
      have hshorter : front.length < length := by
        rw [← hlength, List.length_append, List.length_cons]
        omega
      obtain ⟨first, chosen, rest, hsplit, hrest⟩ := ih front.length hshorter front earlier
        (back ++ .load spelt :: after) hearlier (by simp [hback, hclear]) rfl
      exact ⟨first, chosen, rest, by rw [← hsplit]; simp, hrest⟩
    · exact ⟨before, spelt, after, rfl, hsame, hclear, hbefore⟩

/-- Whether another path is asked for. -/
def loadsOther (file : FilePath) : PiconOp → Bool
  | .load other => ¬ other.Same file
  | _ => false

end PiconOp

/-- A cache beside the files that it reads. -/
structure PiconStore where
  cache : PiconCache
  image : FilePath → Option Pixmap

namespace PiconStore

/-- An empty cache. -/
def fresh (image : FilePath → Option Pixmap) : PiconStore := ⟨.empty, image⟩

/-- What the cache answers when a path is asked for. -/
def answer (s : PiconStore) (file : FilePath) : Option Decoded :=
  (s.cache.load s.image file).2

/-- The cache and the files afterwards. -/
def step (s : PiconStore) : PiconOp → PiconStore
  | .load file => { s with cache := (s.cache.load s.image file).1 }
  | .clear => { s with cache := s.cache.clear }
  | .change image => { s with image := image }

/-- The cache and the files after a run. -/
def run (ops : List PiconOp) (s : PiconStore) : PiconStore := ops.foldl step s

variable {s t : PiconStore} {file other : FilePath} {ops : List PiconOp}

theorem run_cons (op : PiconOp) (ops : List PiconOp) (s : PiconStore) :
    run (op :: ops) s = run ops (s.step op) := rfl

theorem run_append (ops others : List PiconOp) (s : PiconStore) :
    run (ops ++ others) s = run others (run ops s) :=
  List.foldl_append

theorem answer_of_known {known : Option Decoded} (h : s.cache.get? file = some known) :
    s.answer file = known := by
  rw [answer, PiconCache.load_of_known h]

/-! ## What is known -/

theorem get?_step_load (s : PiconStore) (h : file.route = other.route) :
    (s.step (.load other)).cache.get? file = some (s.answer other) := by
  rw [step, PiconCache.get?_load, if_pos h, answer]

/-- What is known stays known until the cache is cleared. -/
theorem get?_step_of_known {known : Option Decoded} (h : s.cache.get? file = some known)
    {op : PiconOp} (hop : .clear ≠ op) : (s.step op).cache.get? file = some known := by
  cases op with
  | load other =>
    rw [step, PiconCache.get?_load]
    split
    · next heq =>
      rw [s.cache.get?_congr heq] at h
      exact congrArg some (answer_of_known h)
    · exact h
  | clear => exact absurd rfl hop
  | change image => exact h

/-- **What is known stays known** in a run that does not clear the cache. -/
theorem get?_run_of_known {known : Option Decoded} (h : s.cache.get? file = some known)
    (hclear : .clear ∉ ops) : (run ops s).cache.get? file = some known := by
  induction ops generalizing s with
  | nil => exact h
  | cons op ops ih =>
    obtain ⟨hop, hops⟩ := not_or.mp (mt List.mem_cons.mpr hclear)
    exact ih (get?_step_of_known h hop) hops

theorem known_step_iff (s : PiconStore) (op : PiconOp) (file : FilePath) :
    ((s.step op).cache.get? file).isSome = true
      ↔ op.Loads file ∨ .clear ≠ op ∧ (s.cache.get? file).isSome = true := by
  unfold PiconOp.Loads
  cases op with
  | load other =>
    rw [step, PiconCache.get?_load]
    split
    · next heq => simp [FilePath.same_iff, heq]
    · next hne => simp [FilePath.same_iff, Ne.symm hne]
  | clear => simp [step, PiconCache.get?_clear]
  | change image => simp [step]

/-- **The paths that are known** after a run are those that were asked for since the cache was
cleared, and those that were known before if it was not. -/
theorem known_run_iff (ops : List PiconOp) (s : PiconStore) (file : FilePath) :
    ((run ops s).cache.get? file).isSome = true
      ↔ PiconOp.Loaded file ops ∨ .clear ∉ ops ∧ (s.cache.get? file).isSome = true := by
  induction ops generalizing s with
  | nil => simp [run, PiconOp.not_loaded_nil]
  | cons op ops ih =>
    rw [run_cons, ih, known_step_iff, PiconOp.loaded_cons_iff, List.mem_cons]
    tauto

theorem get?_run_fresh_eq_none_iff (image : FilePath → Option Pixmap) :
    (run ops (fresh image)).cache.get? file = none ↔ ¬ PiconOp.Loaded file ops := by
  have hnone : (fresh image).cache.get? file = none := rfl
  have hknown := known_run_iff ops (fresh image) file
  rw [hnone] at hknown
  rw [← Option.not_isSome_iff_eq_none, hknown]
  simp

/-- What is answered once is answered again until the cache is cleared. -/
theorem answer_run_load (s : PiconStore) (h : file.route = other.route) (hclear : .clear ∉ ops) :
    (run (.load other :: ops) s).answer file = s.answer other := by
  rw [run_cons]
  exact answer_of_known (get?_run_of_known (s.get?_step_load h) hclear)

/-! ## Pixels -/

theorem sound_run (h : s.cache.Sound) (ops : List PiconOp) : (run ops s).cache.Sound := by
  induction ops generalizing s with
  | nil => exact h
  | cons op ops ih =>
    refine ih ?_
    cases op with
    | load file => exact h.load s.image file
    | clear => exact s.cache.sound_clear
    | change image => exact h

theorem heldBy_run {stamp : Nat} {routes : Route → Prop} (h : s.cache.HeldBy stamp routes)
    (ops : List PiconOp) : (run ops s).cache.HeldBy stamp routes := by
  induction ops generalizing s with
  | nil => exact h
  | cons op ops ih =>
    refine ih ?_
    cases op with
    | load file => exact h.load s.image file
    | clear => exact h.clear.mono fun _ => False.elim
    | change image => exact h

/-- A run that clears the cache loses the pixels of every past decoding. -/
theorem heldBy_run_of_clear {stamp : Nat} {routes : Route → Prop}
    (h : s.cache.HeldBy stamp routes) (hclear : .clear ∈ ops) :
    (run ops s).cache.HeldBy stamp fun _ => False := by
  obtain ⟨before, after, rfl⟩ := List.append_of_mem hclear
  rw [run_append, run_cons]
  exact heldBy_run (heldBy_run h before).clear after

/-- **Two answers share their pixels** exactly if they are answers for one path and the cache was
not cleared in between. -/
theorem stamp_eq_iff (hsound : s.cache.Sound) {decoded again : Decoded}
    (hdecoded : s.answer other = some decoded)
    (hagain : (run (.load other :: ops) s).answer file = some again) :
    again.stamp = decoded.stamp ↔ file.route = other.route ∧ .clear ∉ ops := by
  have hheld : (s.step (.load other)).cache.HeldBy decoded.stamp (· = other.route) :=
    (hsound.load s.image other).held other decoded (by rw [← hdecoded]; exact s.get?_step_load rfl)
  -- the later answer is known of its path once it was given
  have hlater := get?_step_load (run (.load other :: ops) s) (rfl : file.route = file.route)
  rw [hagain] at hlater
  constructor
  · intro hstamp
    refine ⟨?_, fun hclear => ?_⟩
    · exact ((heldBy_run hheld ops).load _ file).only file again hlater hstamp
    · exact ((heldBy_run_of_clear hheld hclear).load _ file).only file again hlater hstamp
  · rintro ⟨hroute, hclear⟩
    rw [answer_run_load s hroute hclear, hdecoded] at hagain
    rw [Option.some.inj hagain]

/-! ## Pixmaps -/

/-- What is known of a path, without regard to when it was decoded. -/
def shown? (s : PiconStore) (file : FilePath) : Option (Option Pixmap) :=
  (s.cache.get? file).map (Option.map Decoded.pixmap)

/-- The answer shows what is known, or else the file as it is now. -/
theorem pixmap_answer (s : PiconStore) (file : FilePath) :
    (s.answer file).map Decoded.pixmap = (s.shown? file).getD (s.image file) := by
  rw [answer, shown?]
  cases hknown : s.cache.get? file with
  | some known =>
    rw [PiconCache.load_of_known hknown]
    rfl
  | none =>
    rw [PiconCache.load_of_unknown hknown]
    simp [Function.comp_def]

/-- Two caches know the same pixmap of a path and read the same files. -/
def Alike (file : FilePath) (s t : PiconStore) : Prop :=
  s.shown? file = t.shown? file ∧ s.image = t.image

theorem Alike.pixmap_answer (h : Alike file s t) :
    (s.answer file).map Decoded.pixmap = (t.answer file).map Decoded.pixmap := by
  rw [s.pixmap_answer, t.pixmap_answer, h.1, h.2]

theorem shown?_step_load (s : PiconStore) (file other : FilePath) :
    (s.step (.load other)).shown? file
      = if file.route = other.route then some ((s.answer other).map Decoded.pixmap)
        else s.shown? file := by
  rw [shown?, step, PiconCache.get?_load]
  split <;> rfl

theorem Alike.congr (h : Alike file s t) (hroute : file.route = other.route) :
    Alike other s t := by
  refine ⟨?_, h.2⟩
  rw [shown?, shown?, ← s.cache.get?_congr hroute, ← t.cache.get?_congr hroute]
  exact h.1

theorem Alike.step (h : Alike file s t) (op : PiconOp) : Alike file (s.step op) (t.step op) := by
  cases op with
  | load other =>
    refine ⟨?_, h.2⟩
    rw [shown?_step_load, shown?_step_load]
    split
    · next heq => rw [(h.congr heq).pixmap_answer]
    · exact h.1
  | clear => exact ⟨rfl, h.2⟩
  | change image => exact ⟨h.1, rfl⟩

theorem Alike.step_loadsOther (h : Alike file s t) {op : PiconOp}
    (hop : op.loadsOther file = true) : Alike file (s.step op) t := by
  cases op with
  | load other =>
    refine ⟨?_, h.2⟩
    rw [shown?_step_load, if_neg]
    · exact h.1
    · intro heq
      exact of_decide_eq_true hop (FilePath.same_iff.mpr heq.symm)
  | clear => simp [PiconOp.loadsOther] at hop
  | change image => simp [PiconOp.loadsOther] at hop

/-- Asking for other paths makes no difference. -/
theorem alike_run (h : Alike file s t) (ops : List PiconOp) :
    Alike file (run ops s) (run (ops.filter fun op => !op.loadsOther file) t) := by
  induction ops generalizing s t with
  | nil => exact h
  | cons op ops ih =>
    cases hop : op.loadsOther file with
    | true =>
      rw [List.filter_cons_of_neg (by simp [hop])]
      exact ih (h.step_loadsOther hop)
    | false =>
      rw [List.filter_cons_of_pos (by simp [hop])]
      exact ih (h.step op)

/-! ## The whole history -/

/-- A path that is not known is shown as the file is now. -/
theorem pixmap_answer_of_not_loaded (image : FilePath → Option Pixmap)
    (h : ¬ PiconOp.Loaded file ops) :
    ((run ops (fresh image)).answer file).map Decoded.pixmap
      = (run ops (fresh image)).image file := by
  rw [pixmap_answer, shown?, (get?_run_fresh_eq_none_iff image).mpr h]
  rfl

/-- The route of a path, however it is spelt. -/
def routeOf : Quot FilePath.Shortened → Route :=
  Quot.lift FilePath.route fun _ _ => FilePath.route_eq_of_shortened

theorem routeOf_injective : Function.Injective routeOf := by
  rintro ⟨p⟩ ⟨q⟩ h
  exact Quot.eqvGen_sound (FilePath.same_iff.mpr h)

theorem size_run (image : FilePath → Option Pixmap) (ops : List PiconOp) :
    (run ops (fresh image)).cache.size
      = (Quot.mk FilePath.Shortened '' {file | PiconOp.Loaded file ops}).ncard := by
  have hsound : (run ops (fresh image)).cache.Sound := sound_run PiconCache.sound_empty ops
  have hknown (file : FilePath) : PiconOp.Loaded file ops ↔
      file.route ∈ (run ops (fresh image)).cache.entries.map Prod.fst := by
    rw [← not_iff_not, ← PiconCache.get?_eq_none_iff, get?_run_fresh_eq_none_iff]
  have hroutes : FilePath.route '' {file | PiconOp.Loaded file ops}
      = ((run ops (fresh image)).cache.entries.map Prod.fst).toFinset := by
    ext route
    rw [List.coe_toFinset, Set.mem_image, Set.mem_ofPred_eq]
    constructor
    · rintro ⟨file, hloaded, rfl⟩
      exact (hknown file).mp hloaded
    · intro hroute
      obtain ⟨file, rfl⟩ := hsound.routes route hroute
      exact ⟨file, (hknown file).mpr hroute, rfl⟩
  -- paths up to spelling are as many as their routes
  have himage : routeOf '' (Quot.mk FilePath.Shortened '' {file | PiconOp.Loaded file ops})
      = FilePath.route '' {file | PiconOp.Loaded file ops} := by
    rw [Set.image_image]
    rfl
  rw [← Set.ncard_image_of_injective _ routeOf_injective, himage, hroutes, Set.ncard_coe_finset,
    List.toFinset_card_of_nodup hsound.nodup, List.length_map, PiconCache.size]

/-- **Remembered picons**, over any run from an empty cache on, in which the files change at will.
A path that is asked for now is shown as its file was when it was first asked for since the cache
was cleared, in whatever spelling. The answer is the very one of every load of it since the cache
was cleared, with the same pixels or the same failure, and it shares its pixels with no answer for
another path and with none from before the cache was cleared. What other paths are asked for makes
no difference to what is shown. As many paths are known as were asked for since the cache was
cleared. -/
theorem picons_remembered (image : FilePath → Option Pixmap) (ops : List PiconOp) :
    let s := run ops (fresh image)
    (∀ file, ∃ before spelt after, ops ++ [.load file] = before ++ .load spelt :: after ∧
        spelt.Same file ∧ .clear ∉ after ∧ ¬ PiconOp.Loaded file before ∧
        (s.answer file).map Decoded.pixmap = (run before (fresh image)).image spelt) ∧
      (∀ file spelt before after, ops = before ++ .load spelt :: after → spelt.Same file →
        .clear ∉ after → s.answer file = (run before (fresh image)).answer spelt) ∧
      (∀ file other before after decoded again, ops = before ++ .load other :: after →
        (run before (fresh image)).answer other = some decoded → s.answer file = some again →
        (again.stamp = decoded.stamp ↔ file.Same other ∧ .clear ∉ after)) ∧
      (∀ file, (s.answer file).map Decoded.pixmap
        = ((run (ops.filter fun op => !op.loadsOther file) (fresh image)).answer file).map
            Decoded.pixmap) ∧
      s.cache.size = (Quot.mk FilePath.Shortened '' {file | PiconOp.Loaded file ops}).ncard := by
  intro s
  have hagain : ∀ file spelt before after, ops = before ++ .load spelt :: after →
      spelt.Same file → .clear ∉ after →
      s.answer file = (run before (fresh image)).answer spelt := by
    rintro file spelt before after hsplit hsame hclear
    have hs : s = run (.load spelt :: after) (run before (fresh image)) := by
      rw [← run_append, ← hsplit]
    rw [hs, answer_run_load _ (FilePath.same_iff.mp hsame).symm hclear]
  refine ⟨fun file => ?_, hagain, ?_, ?_, size_run image ops⟩
  · by_cases hloaded : PiconOp.Loaded file ops
    · obtain ⟨before, spelt, after, hsplit, hsame, hclear, hfirst⟩ := hloaded.exists_first
      refine ⟨before, spelt, after ++ [.load file], by simp [hsplit], hsame, by simp [hclear],
        hfirst, ?_⟩
      rw [hagain file spelt before after hsplit hsame hclear]
      -- in its first spelling the path was not asked for either
      exact pixmap_answer_of_not_loaded image (mt (PiconOp.Loaded.congr hsame) hfirst)
    · exact ⟨ops, file, [], rfl, .refl _, List.not_mem_nil, hloaded,
        pixmap_answer_of_not_loaded image hloaded⟩
  · intro file other before after decoded again hsplit hdecoded hanswer
    have hs : s = run (.load other :: after) (run before (fresh image)) := by
      rw [← run_append, ← hsplit]
    rw [hs] at hanswer
    rw [FilePath.same_iff]
    exact stamp_eq_iff (sound_run PiconCache.sound_empty before) hdecoded hanswer
  · exact fun file => (alike_run ⟨rfl, rfl⟩ ops).pixmap_answer

end PiconStore

end Bouquet
