import Bouquet.Signal
import Mathlib.Data.List.Perm.Basic
import Mathlib.Data.List.Nodup

/-!
# The Table of Connections

A signal keeps its connections in cells and gives a freed cell to a later connection. The numbers of
connections are never given again, so what becomes of a cell does not matter: to connect, to
disconnect one and to disconnect all have the effect on the live connections that their names say.

## Main definitions

- `Signal.Sound`: numbers are given once, and free cells are vacant

## Main statements

- `Signal.live_connect_perm`, `Signal.live_disconnect`, `Signal.live_disconnectAll`
- `Signal.disconnect_iff`: a disconnection succeeds exactly on live connections
-/

namespace Bouquet.Signal

variable {μ : Type}

/-! ## One cell -/

/-- Writing a cell changes the live connections in its place only. -/
theorem exists_live_parts {cells : List (Option (Connection μ))} {position : Nat}
    {old : Option (Connection μ)} (h : cells[position]? = some old) :
    ∃ front back, cells.filterMap id = front ++ old.toList ++ back
      ∧ ∀ new : Option (Connection μ),
          (cells.set position new).filterMap id = front ++ new.toList ++ back := by
  obtain ⟨hlt, rfl⟩ := List.getElem?_eq_some_iff.mp h
  have hone (cell : Option (Connection μ)) : [cell].filterMap id = cell.toList := by
    cases cell <;> rfl
  refine ⟨(cells.take position).filterMap id, (cells.drop (position + 1)).filterMap id, ?_, ?_⟩
  · have hsplit : cells = cells.take position ++ [cells[position]] ++ cells.drop (position + 1) := by
      rw [List.append_assoc, List.singleton_append, ← List.drop_eq_getElem_cons hlt,
        List.take_append_drop]
    calc cells.filterMap id
        = (cells.take position ++ [cells[position]] ++ cells.drop (position + 1)).filterMap id :=
          congrArg _ hsplit
      _ = _ := by rw [List.filterMap_append, List.filterMap_append, hone]
  · intro new
    rw [List.set_eq_take_append_cons_drop, if_pos hlt, List.append_cons, List.filterMap_append,
      List.filterMap_append, hone]

/-! ## Sound signals -/

/-- The numbers of live connections were given once each, and the free cells are vacant and listed
once each. -/
structure Sound (s : Signal μ) : Prop where
  nodup : (s.live.map Connection.id).Nodup
  lt_made : ∀ c ∈ s.live, c.id < s.made
  vacant : ∀ position ∈ s.free, s.cells[position]? = some none
  free_nodup : s.free.Nodup

theorem sound_empty (memory : μ) : Sound (empty memory) where
  nodup := List.nodup_nil
  lt_made := by simp [live, empty]
  vacant := by simp [empty]
  free_nodup := List.nodup_nil

theorem Sound.setBlocked {s : Signal μ} (hs : s.Sound) (state : Bool) : (s.setBlocked state).Sound :=
  ⟨hs.nodup, hs.lt_made, hs.vacant, hs.free_nodup⟩

theorem Sound.remember {s : Signal μ} (hs : s.Sound) (write : μ → μ) : (s.remember write).Sound :=
  ⟨hs.nodup, hs.lt_made, hs.vacant, hs.free_nodup⟩

/-! ## Connecting -/

@[simp]
theorem connect_made (s : Signal μ) (slot : Slot μ) : (s.connect slot).made = s.made + 1 := by
  simp only [connect]
  split <;> rfl

@[simp]
theorem connect_blocked (s : Signal μ) (slot : Slot μ) : (s.connect slot).blocked = s.blocked := by
  simp only [connect]
  split <;> rfl

/-- A new connection is live beside those before, whichever cell it gets. -/
theorem live_connect_perm {s : Signal μ} (hs : s.Sound) (slot : Slot μ) :
    (s.connect slot).live.Perm (⟨s.made, slot⟩ :: s.live) := by
  cases hfree : s.free with
  | nil => simp [connect, hfree, live, List.filterMap_append]
  | cons position free =>
    -- the cell is vacant, so no other connection gives way
    have hvacant : s.cells[position]? = some none := hs.vacant position (by simp [hfree])
    obtain ⟨front, back, hold, hnew⟩ := exists_live_parts hvacant
    simp only [connect, hfree, live, hold, hnew]
    simp

theorem Sound.connect {s : Signal μ} (hs : s.Sound) (slot : Slot μ) : (s.connect slot).Sound where
  nodup := by
    rw [((live_connect_perm hs slot).map Connection.id).nodup_iff, List.map_cons, List.nodup_cons]
    refine ⟨?_, hs.nodup⟩
    rintro hmem
    obtain ⟨c, hc, hid⟩ := List.mem_map.mp hmem
    exact absurd hid (Nat.ne_of_lt (hs.lt_made c hc))
  lt_made := by
    intro c hc
    rw [connect_made]
    rcases List.mem_cons.mp ((live_connect_perm hs slot).mem_iff.mp hc) with rfl | hold
    · exact Nat.lt_succ_self _
    · exact Nat.lt_succ_of_lt (hs.lt_made c hold)
  vacant := by
    cases hfree : s.free with
    | nil => simp [Signal.connect, hfree]
    | cons position free =>
      have hnodup := hs.free_nodup
      rw [hfree, List.nodup_cons] at hnodup
      simp only [Signal.connect, hfree]
      intro other hother
      -- the cell that was taken is not listed a second time
      have hne : position ≠ other := fun h => hnodup.1 (h ▸ hother)
      rw [List.getElem?_set_ne hne]
      exact hs.vacant other (by simp [hfree, hother])
  free_nodup := by
    cases hfree : s.free with
    | nil => simp [Signal.connect, hfree]
    | cons position free =>
      have hnodup := hs.free_nodup
      rw [hfree, List.nodup_cons] at hnodup
      simpa [Signal.connect, hfree] using hnodup.2

/-! ## Disconnecting -/

@[simp]
theorem disconnect_made (s : Signal μ) (connection : Nat) :
    (s.disconnect connection).1.made = s.made := by
  simp only [disconnect]
  split <;> rfl

@[simp]
theorem disconnect_blocked (s : Signal μ) (connection : Nat) :
    (s.disconnect connection).1.blocked = s.blocked := by
  simp only [disconnect]
  split <;> rfl

/-- A disconnection succeeds exactly when the connection is live. -/
theorem disconnect_iff (s : Signal μ) (connection : Nat) :
    (s.disconnect connection).2 = true ↔ connection ∈ s.live.map Connection.id := by
  have hcell : (s.position? connection).isSome = true ↔ connection ∈ s.live.map Connection.id := by
    simp only [position?, List.findIdx?_isSome, List.any_eq_true, live, List.mem_map,
      List.mem_filterMap, Option.any_eq_true, beq_iff_eq, id_eq]
    constructor
    · rintro ⟨cell, hmem, c, rfl, hid⟩
      exact ⟨c, ⟨some c, hmem, rfl⟩, hid⟩
    · rintro ⟨c, ⟨cell, hmem, rfl⟩, hid⟩
      exact ⟨some c, hmem, c, rfl, hid⟩
  rw [← hcell]
  cases hposition : s.position? connection <;> simp [disconnect, hposition]

/-- The cell that a disconnection finds. -/
private theorem cell_of_position? {s : Signal μ} {connection position : Nat}
    (h : s.position? connection = some position) :
    ∃ c, s.cells[position]? = some (some c) ∧ c.id = connection := by
  obtain ⟨hlt, hcell, -⟩ := List.findIdx?_eq_some_iff_getElem.mp h
  obtain ⟨c, hc, hid⟩ := (Option.any_eq_true ..).mp hcell
  exact ⟨c, List.getElem?_eq_some_iff.mpr ⟨hlt, hc⟩, by simpa using hid⟩

/-- A disconnection takes out its connection and no other. -/
theorem live_disconnect {s : Signal μ} (hs : s.Sound) (connection : Nat) :
    (s.disconnect connection).1.live = s.live.filter fun c => c.id ≠ connection := by
  cases hposition : s.position? connection with
  | none =>
    have hdead : connection ∉ s.live.map Connection.id := by
      rw [← disconnect_iff]
      simp [disconnect, hposition]
    simp only [disconnect, hposition]
    refine (List.filter_eq_self.mpr fun c hc => ?_).symm
    simpa using fun hid => hdead (List.mem_map.mpr ⟨c, hc, hid⟩)
  | some position =>
    obtain ⟨c, hcell, rfl⟩ := cell_of_position? hposition
    obtain ⟨front, back, hold, hnew⟩ := exists_live_parts hcell
    have hlive : s.live = front ++ [c] ++ back := hold
    have hnodup := hs.nodup
    rw [hlive] at hnodup
    -- no other connection has the number
    have hothers : ∀ d ∈ front ++ back, d.id ≠ c.id := by
      intro d hd hid
      have hperm : (front ++ [c] ++ back).Perm (c :: (front ++ back)) := by simp
      rw [(hperm.map Connection.id).nodup_iff, List.map_cons, List.nodup_cons] at hnodup
      exact hnodup.1 (List.mem_map.mpr ⟨d, hd, hid⟩)
    have hkept : (front ++ back).filter (fun d => d.id ≠ c.id) = front ++ back :=
      List.filter_eq_self.mpr fun d hd => by simpa using hothers d hd
    have hnone := hnew none
    simp only [Option.toList_none, List.append_nil] at hnone
    have hafter : (s.disconnect c.id).1.live = front ++ back := by
      simpa [disconnect, hposition, live] using hnone
    rw [hafter, hlive]
    simpa using hkept.symm

theorem Sound.disconnect {s : Signal μ} (hs : s.Sound) (connection : Nat) :
    (s.disconnect connection).1.Sound where
  nodup := by
    rw [live_disconnect hs]
    exact hs.nodup.sublist (List.filter_sublist.map _)
  lt_made := by
    rw [live_disconnect hs]
    intro c hc
    rw [disconnect_made]
    exact hs.lt_made c (List.mem_of_mem_filter hc)
  vacant := by
    cases hposition : s.position? connection with
    | none => simpa [Signal.disconnect, hposition] using hs.vacant
    | some position =>
      obtain ⟨c, hcell, -⟩ := cell_of_position? hposition
      have hlt : position < s.cells.length := (List.getElem?_eq_some_iff.mp hcell).1
      simp only [Signal.disconnect, hposition]
      intro other hother
      rcases List.mem_cons.mp hother with rfl | hfree
      · simp [hlt]
      · have hvacant := hs.vacant other hfree
        by_cases h : position = other
        · subst h
          simp [hlt]
        · rwa [List.getElem?_set_ne h]
  free_nodup := by
    cases hposition : s.position? connection with
    | none => simpa [Signal.disconnect, hposition] using hs.free_nodup
    | some position =>
      obtain ⟨c, hcell, -⟩ := cell_of_position? hposition
      simp only [Signal.disconnect, hposition, List.nodup_cons]
      refine ⟨fun hfree => ?_, hs.free_nodup⟩
      -- a cell with a connection is not free
      have hvacant := hs.vacant position hfree
      rw [hcell] at hvacant
      simp at hvacant

/-! ## Disconnecting all -/

theorem live_disconnectAll (s : Signal μ) : s.disconnectAll.live = [] := by
  simp [disconnectAll, live]

theorem Sound.disconnectAll {s : Signal μ} (hs : s.Sound) : s.disconnectAll.Sound where
  nodup := by
    rw [live_disconnectAll]
    exact List.nodup_nil
  lt_made := by simp [live_disconnectAll]
  vacant := by
    intro position hmem
    have hlt : position < s.cells.length := by
      simp only [Signal.disconnectAll, List.mem_append, List.mem_reverse, List.mem_map,
        List.mem_filter] at hmem
      rcases hmem with ⟨⟨cell, k⟩, ⟨hcell, -⟩, rfl⟩ | hfree
      · exact (List.mem_zipIdx' hcell).1
      · exact (List.getElem?_eq_some_iff.mp (hs.vacant position hfree)).1
    simp [Signal.disconnectAll, hlt]
  free_nodup := by
    simp only [Signal.disconnectAll]
    rw [List.nodup_append]
    refine ⟨?_, hs.free_nodup, ?_⟩
    · rw [List.nodup_reverse]
      -- the positions that were occupied are among the ascending ones
      have hsub : ((s.cells.zipIdx.filter fun cell => cell.1.isSome).map Prod.snd).Sublist
          (s.cells.zipIdx.map Prod.snd) := List.filter_sublist.map _
      refine List.Nodup.sublist hsub ?_
      simp [List.zipIdx_map_snd, List.nodup_range']
    · intro position hoccupied other hfree hsame
      subst hsame
      simp only [List.mem_reverse, List.mem_map, List.mem_filter] at hoccupied
      obtain ⟨⟨cell, k⟩, ⟨hcell, hsome⟩, rfl⟩ := hoccupied
      have hvacant := hs.vacant k hfree
      rw [List.mem_zipIdx_iff_getElem?.mp hcell] at hvacant
      simp only [Option.some.injEq] at hvacant
      simp [hvacant] at hsome

end Bouquet.Signal
