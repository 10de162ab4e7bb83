import Bouquet.Proofs.CircularSearches
import Mathlib.Data.List.Rotate

/-!
# Full Circuits

Going again and again to what a circular search finds leads around all the entries that are searched
for, to each of them once, and then around again in the same order.

The entries that a search passes, in its order, are a ring. A jump goes to the first of them and
turns the ring by one place.

## Main definitions

- `Listing.jump?`, `Listing.jumps`: going to what a search finds, once and repeatedly
- `Listing.ring`: the ordinals that pass a test in the order of a search
- `Listing.Circuit`: what repeated jumps do

## Main statements

- `Listing.Walks.ring_of_jump`: one jump turns the ring
- `Listing.Walks.jumps_append`, `Listing.Walks.jumps_laps`: some jumps, and whole laps
- `Listing.Walks.there_and_back`: a jump is undone by one in the other direction
- `Listing.full_circuits`: the three searches
-/

namespace Bouquet.Listing

/-! ## Jumps -/

/-- Goes to what a search finds; there is no listing if nothing is found. -/
def jump? (sources : Sources) (search : ListingOp) (l : Listing) : Option Listing :=
  match (perform sources search l).answer with
  | .ordinal (some ordinal) => some (perform sources (.set ordinal) l).listing
  | _ => none

/-- The listings after one jump for each of the given sources, up to the first that finds
nothing. -/
def jumps (search : ListingOp) : List Sources → Listing → List Listing
  | [], _ => []
  | sources :: rest, l =>
    match l.jump? sources search with
    | some l' => l' :: jumps search rest l'
    | none => []

/-- The ordinals on the way of a search whose entries pass a test. -/
def ring (ordinals : Listing → List Nat) (test : Reference → Bool) (l : Listing) : List Nat :=
  (ordinals l).filter fun ordinal => (l.entries[ordinal]?).any test

theorem findAmong?_eq_head? (ordinals : Listing → List Nat) (test : Reference → Bool)
    (l : Listing) : l.findAmong? test (ordinals l) = (ring ordinals test l).head? :=
  (List.head?_filter ..).symm

theorem exists_of_mem_ring {ordinals : Listing → List Nat} {test : Reference → Bool} {l : Listing}
    {ordinal : Nat} (h : ordinal ∈ ring ordinals test l) :
    ∃ e, l.entries[ordinal]? = some e ∧ test e = true :=
  (Option.any_eq_true ..).mp (List.mem_filter.mp h).2

/-- The same listing with the cursor at an ordinal. -/
def withCursor (l : Listing) (ordinal : Nat) : Listing := { l with cursor := ordinal }

@[simp]
theorem withCursor_entries (l : Listing) (ordinal : Nat) :
    (l.withCursor ordinal).entries = l.entries := rfl

@[simp]
theorem withCursor_cursor (l : Listing) (ordinal : Nat) :
    (l.withCursor ordinal).cursor = ordinal := rfl

@[simp]
theorem withCursor_withCursor (l : Listing) (i j : Nat) :
    (l.withCursor i).withCursor j = l.withCursor j := rfl

@[simp]
theorem withCursor_self (l : Listing) : l.withCursor l.cursor = l := rfl

/-! ## Rotated lists -/

section Rotated

variable {α : Type*} {xs ys : List α} {a : α}

/-- What passes a test in a rotated list is what passes it in the list, rotated. -/
theorem isRotated_filter (h : xs ~r ys) (p : α → Bool) : xs.filter p ~r ys.filter p := by
  obtain ⟨k, rfl⟩ := h
  let cut := k % xs.length
  calc xs.filter p
      = (xs.take cut).filter p ++ (xs.drop cut).filter p := by
        rw [← List.filter_append, List.take_append_drop]
    _ ~r (xs.drop cut).filter p ++ (xs.take cut).filter p := List.isRotated_append
    _ = (xs.rotate k).filter p := by
        rw [List.rotate_eq_drop_append_take_mod, List.filter_append]

/-- Without duplicates there is but one rotation that begins with a given member. -/
theorem eq_of_isRotated_cons (hnodup : (a :: xs).Nodup) (h : a :: xs ~r a :: ys) : xs = ys := by
  obtain ⟨k, hk, hrotate⟩ := List.isRotated_iff_mod.mp h
  -- a turn by less than the whole length that leaves `a` in front leaves all as it is
  rcases Nat.lt_or_eq_of_le hk with hlt | rfl
  · have hhead : (a :: xs)[k]? = (a :: xs)[0]? := by
      rw [← List.head?_rotate hlt, hrotate]
      rfl
    have hzero : k = 0 := (List.getElem?_inj hlt hnodup).mp hhead
    rw [hzero, List.rotate_zero] at hrotate
    exact (List.cons.inj hrotate).2
  · rw [List.rotate_length] at hrotate
    exact (List.cons.inj hrotate).2

/-- Without duplicates there is but one rotation that ends with a given member. -/
theorem eq_of_isRotated_concat (hnodup : (xs ++ [a]).Nodup) (h : xs ++ [a] ~r ys ++ [a]) :
    xs = ys := by
  have hcons : a :: xs ~r a :: ys :=
    (List.isRotated_concat a xs).symm.trans (h.trans (List.isRotated_concat a ys))
  exact eq_of_isRotated_cons ((List.isRotated_concat a xs).nodup_iff.mp hnodup) hcons

end Rotated

/-! ## The way of a search -/

/-- The order forward is that of the list, from some entry on. -/
theorem forwardOrdinals_isRotated (l : Listing) : l.forwardOrdinals ~r List.range l.size := by
  refine List.IsRotated.symm ⟨(if l.isOnEntry then l.cursor else l.size - 1) + 1, ?_⟩
  refine List.ext_getElem (by simp [forwardOrdinals]) fun k _ _ => ?_
  simp only [forwardOrdinals, List.getElem_map, List.getElem_range, List.getElem_rotate,
    List.length_range]
  congr 1
  omega

/-- The order backward is the reverse of that of the list, from some entry on. -/
theorem backwardOrdinals_isRotated (l : Listing) :
    l.backwardOrdinals ~r (List.range l.size).reverse := by
  refine List.IsRotated.symm ⟨l.size - min l.cursor l.size, ?_⟩
  refine List.ext_getElem (by simp [backwardOrdinals]) fun k _ hk => ?_
  have hk : k < l.size := by simpa [backwardOrdinals] using hk
  simp only [backwardOrdinals, List.getElem_map, List.getElem_range, List.getElem_rotate,
    List.getElem_reverse, List.length_reverse, List.length_range]
  rw [countedBack_eq (Nat.min_le_right ..) hk]
  split
  · rw [Nat.mod_eq_of_lt (by omega)]
    omega
  · rw [Nat.mod_eq_sub_mod (by omega), Nat.mod_eq_of_lt (by omega)]
    omega

/-- From an entry two searches go the same way in opposite directions, and both end with that
entry. -/
def Mirrored (there back : Listing → List Nat) : Prop :=
  ∀ l : Listing, l.isOnEntry = true →
    ∃ others, there l = others ++ [l.cursor] ∧ back l = others.reverse ++ [l.cursor]

theorem Mirrored.symm {there back : Listing → List Nat} (h : Mirrored there back) :
    Mirrored back there := by
  intro l hentry
  obtain ⟨others, hthere, hback⟩ := h l hentry
  exact ⟨others.reverse, hback, by rw [List.reverse_reverse, hthere]⟩

/-- From an entry that is searched for, the rings of the two searches are mirrored as well. -/
theorem Mirrored.ring_eq {there back : Listing → List Nat} (h : Mirrored there back) {l : Listing}
    {test : Reference → Bool} {e : Reference} (he : l.entries[l.cursor]? = some e)
    (hpass : test e = true) :
    ∃ others, ring there test l = others ++ [l.cursor] ∧
      ring back test l = others.reverse ++ [l.cursor] := by
  have hentry : l.isOnEntry = true :=
    (isOnEntry_iff l).mpr (List.getElem?_eq_some_iff.mp he).1
  obtain ⟨others, hthere, hback⟩ := h l hentry
  have hself : [l.cursor].filter (fun k => (l.entries[k]?).any test) = [l.cursor] :=
    List.filter_cons_of_pos (by simp [he, hpass])
  refine ⟨others.filter fun k => (l.entries[k]?).any test, ?_, ?_⟩
  · rw [ring, hthere, List.filter_append, hself]
  · rw [ring, hback, List.filter_append, List.filter_reverse, hself]

theorem mirrored_forward_backward : Mirrored forwardOrdinals backwardOrdinals := by
  intro l hentry
  have hcursor : l.cursor < l.size := (isOnEntry_iff l).mp hentry
  obtain ⟨m, hm⟩ : ∃ m, l.size = m + 1 := ⟨l.size - 1, by omega⟩
  have hrange : List.range l.size = List.range m ++ [m] := by rw [hm, List.range_succ]
  refine ⟨(List.range m).map fun k => (l.cursor + (k + 1)) % l.size, ?_, ?_⟩
  · have hlast : (l.cursor + (m + 1)) % l.size = l.cursor := by
      rw [← hm, Nat.add_mod_right, Nat.mod_eq_of_lt hcursor]
    rw [forwardOrdinals, if_pos hentry, hrange, List.map_append, List.map_singleton, hlast]
  · have hlast : (l.cursor + 2 * l.size - (m + 1)) % l.size = l.cursor := by
      rw [countedBack_eq (Nat.le_of_lt hcursor) (by omega), if_neg (by omega)]
      omega
    rw [backwardOrdinals, Nat.min_eq_left (Nat.le_of_lt hcursor), hrange, List.map_append,
      List.map_singleton, hlast]
    congr 1
    -- `k + 1` places back are `m - k` places forward in a list of `m + 1`
    refine List.ext_getElem (by simp) fun k hk _ => ?_
    have hk : k < m := by simpa using hk
    simp only [List.getElem_map, List.getElem_range, List.getElem_reverse, List.length_map,
      List.length_range]
    have hsum : l.cursor + 2 * l.size - (k + 1) = l.cursor + (m - 1 - k + 1) + l.size := by omega
    rw [hsum, Nat.add_mod_right]

/-- From an ordinal on its way a search goes on as before, and then along what came before it. -/
def GoesOn (ordinals : Listing → List Nat) : Prop :=
  ∀ (l : Listing) (before after : List Nat) (ordinal : Nat),
    ordinals l = before ++ ordinal :: after →
      ordinals (l.withCursor ordinal) = after ++ (before ++ [ordinal])

/-- Two ways around a list differ by where they begin, and from an entry a way ends with it. -/
theorem goesOn_of_isRotated {ordinals : Listing → List Nat} {distance : Listing → Nat → Nat}
    (order : Nat → List Nat)
    (hgoes : ∀ l, GoesAround l (distance l) (ordinals l))
    (hrotated : ∀ l, ordinals l ~r order l.size)
    (hends : ∀ l : Listing, l.isOnEntry = true → ∃ others, ordinals l = others ++ [l.cursor]) :
    GoesOn ordinals := by
  intro l before after ordinal hsplit
  have hentry : (l.withCursor ordinal).isOnEntry = true :=
    (isOnEntry_iff _).mpr ((hgoes l).lt_size ordinal (by simp [hsplit]))
  obtain ⟨others, hothers⟩ := hends (l.withCursor ordinal) hentry
  have hnodup : (others ++ [ordinal]).Nodup := hothers ▸ (hgoes (l.withCursor ordinal)).nodup
  -- the way from `ordinal` and the way from `l`, turned to end with `ordinal`, are rotations of one
  -- another with the same last member
  have hturned : before ++ ordinal :: after ~r (after ++ before) ++ [ordinal] := by
    rw [List.append_cons, List.append_assoc after]
    exact List.isRotated_append
  have hsame : others ++ [ordinal] ~r (after ++ before) ++ [ordinal] := by
    have hways : ordinals (l.withCursor ordinal) ~r ordinals l :=
      (hrotated (l.withCursor ordinal)).trans (hrotated l).symm
    rw [hothers, hsplit] at hways
    exact hways.trans hturned
  rw [hothers, withCursor_cursor, eq_of_isRotated_concat hnodup hsame, List.append_assoc]

theorem goesOn_forward : GoesOn forwardOrdinals :=
  goesOn_of_isRotated List.range goesAround_forward forwardOrdinals_isRotated fun l hentry => by
    obtain ⟨others, hforward, -⟩ := mirrored_forward_backward l hentry
    exact ⟨others, hforward⟩

theorem goesOn_backward : GoesOn backwardOrdinals :=
  goesOn_of_isRotated (fun size => (List.range size).reverse) goesAround_backward
    backwardOrdinals_isRotated fun l hentry => by
      obtain ⟨others, -, hbackward⟩ := mirrored_forward_backward l hentry
      exact ⟨others.reverse, hbackward⟩

/-! ## Repeated jumps -/

/-- With sources as `steady` says, a search goes along some ordinals and stops at the first whose
entry passes a test, which only visible entries do. -/
structure Walks (steady : Sources → Prop) (search : ListingOp) (ordinals : Listing → List Nat)
    (test : Reference → Bool) : Prop where
  goesOn : GoesOn ordinals
  reply : ∀ sources, steady sources → ∀ l : Listing,
    perform sources search l = l.answering (.ordinal (l.findAmong? test (ordinals l)))
  visible : ∀ r, test r = true → r.isVisible = true

namespace Walks

variable {steady : Sources → Prop} {search : ListingOp} {ordinals : Listing → List Nat}
  {test : Reference → Bool} {l : Listing}

/-- A jump goes to the first place of the ring. -/
theorem jump?_eq (h : Walks steady search ordinals test) {sources : Sources}
    (hsteady : steady sources) {ordinal : Nat} {rest : List Nat}
    (hring : ring ordinals test l = ordinal :: rest) :
    l.jump? sources search = some (l.withCursor ordinal) := by
  -- what is found is visible, so the cursor is not taken on from it
  obtain ⟨e, he, hpass⟩ := exists_of_mem_ring (hring ▸ List.mem_cons_self)
  have hset : l.set ordinal = l.withCursor ordinal :=
    set_of_visibleAt ⟨e, he, h.visible e hpass⟩
  rw [jump?, h.reply sources hsteady, findAmong?_eq_head?, hring]
  exact congrArg some hset

/-- A jump turns the ring by one place. -/
theorem ring_of_jump (h : Walks steady search ordinals test) {ordinal : Nat} {rest : List Nat}
    (hring : ring ordinals test l = ordinal :: rest) :
    ring ordinals test (l.withCursor ordinal) = rest ++ [ordinal] := by
  obtain ⟨before, after, hsplit, hfail, hpass, hrest⟩ := List.filter_eq_cons_iff.mp hring
  have hnone : before.filter (fun k => (l.entries[k]?).any test) = [] :=
    List.filter_eq_nil_iff.mpr hfail
  have hself : [ordinal].filter (fun k => (l.entries[k]?).any test) = [ordinal] :=
    List.filter_cons_of_pos hpass
  rw [ring, h.goesOn l before after ordinal hsplit, withCursor_entries, List.filter_append,
    List.filter_append, hrest, hnone, hself, List.nil_append]

/-- Some jumps go to the first places of the ring, one after another, and turn it by as many. -/
theorem jumps_append (h : Walks steady search ordinals test) {first rest : List Nat}
    {answers : List Sources} (hring : ring ordinals test l = first ++ rest)
    (hlength : answers.length = first.length) (hsteady : ∀ sources ∈ answers, steady sources)
    (later : List Sources) :
    ∃ cursor, ring ordinals test (l.withCursor cursor) = rest ++ first ∧
      jumps search (answers ++ later) l
        = first.map l.withCursor ++ jumps search later (l.withCursor cursor) := by
  -- each jump takes the first place off `first` and puts it behind `rest`
  induction first generalizing l rest answers with
  | nil =>
    have hnone : answers = [] := List.eq_nil_of_length_eq_zero hlength
    exact ⟨l.cursor, by simpa using hring, by simp [hnone]⟩
  | cons ordinal first ih =>
    obtain ⟨sources, answers, rfl⟩ := List.exists_cons_of_length_eq_add_one hlength
    obtain ⟨hsources, hanswers⟩ := List.forall_mem_cons.mp hsteady
    have hturned : ring ordinals test (l.withCursor ordinal) = first ++ (rest ++ [ordinal]) := by
      rw [h.ring_of_jump hring, ← List.append_assoc]
      rfl
    obtain ⟨cursor, hring', hjumps⟩ := ih hturned (Nat.succ.inj hlength) hanswers
    refine ⟨cursor, ?_, ?_⟩
    · rw [withCursor_withCursor] at hring'
      rw [hring', List.append_assoc, List.singleton_append]
    · rw [List.cons_append, jumps, h.jump?_eq hsources hring, List.map_cons, List.cons_append]
      exact congrArg _ hjumps

/-- Whole laps go around the ring, each in the same order. -/
theorem jumps_laps (h : Walks steady search ordinals test) (rounds : Nat)
    {answers : List Sources}
    (hlength : answers.length = rounds * (ring ordinals test l).length)
    (hsteady : ∀ sources ∈ answers, steady sources) :
    jumps search answers l
      = (List.replicate rounds (ring ordinals test l)).flatten.map l.withCursor := by
  induction rounds generalizing l answers with
  | zero =>
    have hnone : answers = [] := List.eq_nil_of_length_eq_zero (by omega)
    simp [hnone, jumps]
  | succ rounds ih =>
    have hlap : answers.length
        = (ring ordinals test l).length + rounds * (ring ordinals test l).length := by
      rw [hlength, Nat.succ_mul, Nat.add_comm]
    obtain ⟨lap, later, rfl, hlap, hlater⟩ : ∃ lap later, answers = lap ++ later ∧
        lap.length = (ring ordinals test l).length ∧
        later.length = rounds * (ring ordinals test l).length :=
      ⟨_, _, (List.take_append_drop (ring ordinals test l).length answers).symm,
        by rw [List.length_take, hlap]; omega, by rw [List.length_drop, hlap]; omega⟩
    obtain ⟨hsteadyLap, hsteadyLater⟩ := List.forall_mem_append.mp hsteady
    -- after a lap the ring stands as it did before
    obtain ⟨cursor, hring, hjumps⟩ :=
      h.jumps_append (List.append_nil (ring ordinals test l)).symm hlap hsteadyLap later
    rw [List.nil_append] at hring
    have hrounds := @ih (l.withCursor cursor) later (by rw [hring, hlater]) hsteadyLater
    rw [hring] at hrounds
    rw [hjumps, hrounds, List.replicate_succ, List.flatten_cons, List.map_append]
    rfl

/-- From an entry that is searched for, a jump is undone by one in the other direction. -/
theorem there_and_back {there back : Listing → List Nat} {steady' : Sources → Prop}
    {search' : ListingOp} (h : Walks steady search there test)
    (h' : Walks steady' search' back test) (hmirror : Mirrored there back) {e : Reference}
    (he : l.current? = some e) (hpass : test e = true) {sources sources' : Sources}
    (hsteady : steady sources) (hsteady' : steady' sources') :
    (l.jump? sources search).bind (jump? sources' search') = some l := by
  obtain ⟨others, hthere, -⟩ := hmirror.ring_eq he hpass
  obtain ⟨ordinal, rest, hfirst⟩ : ∃ ordinal rest, others ++ [l.cursor] = ordinal :: rest :=
    List.exists_cons_of_ne_nil (by simp)
  have hring : ring there test l = ordinal :: rest := hthere.trans hfirst
  obtain ⟨f, hf, hpassed⟩ := exists_of_mem_ring (hring ▸ List.mem_cons_self)
  obtain ⟨others', hthere', hback'⟩ :=
    hmirror.ring_eq (l := l.withCursor ordinal) hf hpassed
  have hothers : others' = rest :=
    List.append_cancel_right (hthere'.symm.trans (h.ring_of_jump hring))
  -- the way back is the way there reversed, and that ended where it began
  have hreturn : ring back test (l.withCursor ordinal) = l.cursor :: others.reverse := by
    rw [hback', hothers, withCursor_cursor, ← List.reverse_cons, ← hfirst, List.reverse_append]
    rfl
  rw [h.jump?_eq hsteady hring, Option.bind_some, h'.jump?_eq hsteady' hreturn,
    withCursor_withCursor, withCursor_self]

end Walks

/-! ## The three searches -/

theorem walks_nextMarker :
    Walks (fun _ => True) .nextMarker forwardOrdinals isVisibleMarker where
  goesOn := goesOn_forward
  reply _ _ _ := rfl
  visible _ h := (isVisibleMarker_iff.mp h).2

theorem walks_previousMarker :
    Walks (fun _ => True) .previousMarker backwardOrdinals isVisibleMarker where
  goesOn := goesOn_backward
  reply _ _ _ := rfl
  visible _ h := (isVisibleMarker_iff.mp h).2

/-- The names that entries are shown under are all that this search asks for. -/
theorem walks_nextBeginningWith (sources : Sources) (c : Char) :
    Walks (fun other => other.info = sources.info) (.nextBeginningWith c) forwardOrdinals
      (beginsWith sources c) where
  goesOn := goesOn_forward
  reply other hinfo l := by
    have hsame : beginsWith other c = beginsWith sources c := by
      funext r
      simp only [beginsWith, Sources.displayName, hinfo]
    rw [← hsame]
    rfl
  visible _ h := (beginsWith_iff.mp h).1

/-- What repeated jumps do, with sources that stay as `steady` says: the ordinals of the entries
picked by `P` form a ring in the order of their distance, and `rounds` times as many jumps go around
it `rounds` times. -/
structure Circuit (steady : Sources → Prop) (l : Listing) (search : ListingOp)
    (P : Reference → Prop) (distance : Nat → Nat) (ring : List Nat) : Prop where
  mem_iff : ∀ ordinal, ordinal ∈ ring ↔ ∃ e, l.entries[ordinal]? = some e ∧ P e
  once : ring.Nodup
  inOrder : ring.Pairwise fun i j => distance i < distance j
  laps : ∀ rounds (answers : List Sources), answers.length = rounds * ring.length →
    (∀ sources ∈ answers, steady sources) →
      jumps search answers l = (List.replicate rounds ring).flatten.map l.withCursor

theorem Walks.circuit {steady : Sources → Prop} {search : ListingOp}
    {ordinals : Listing → List Nat} {test : Reference → Bool}
    (h : Walks steady search ordinals test) {l : Listing} {distance : Nat → Nat}
    (hgoes : GoesAround l distance (ordinals l)) {P : Reference → Prop}
    (htest : ∀ r, test r = true ↔ P r) :
    Circuit steady l search P distance (ring ordinals test l) where
  mem_iff ordinal := by
    constructor
    · intro hmem
      obtain ⟨e, he, hpass⟩ := exists_of_mem_ring hmem
      exact ⟨e, he, (htest e).mp hpass⟩
    · rintro ⟨e, he, hP⟩
      exact List.mem_filter.mpr ⟨hgoes.mem_of_getElem? he, by simp [he, (htest e).mpr hP]⟩
  once := hgoes.nodup.filter _
  inOrder := hgoes.pairwise.filter _
  laps rounds _ hlength hsteady := h.jumps_laps rounds hlength hsteady

/-- Backward the ring is passed through in the reverse order. -/
theorem ring_backward_isRotated (l : Listing) (test : Reference → Bool) :
    ring backwardOrdinals test l ~r (ring forwardOrdinals test l).reverse := by
  have hreverse : l.backwardOrdinals ~r l.forwardOrdinals.reverse :=
    (backwardOrdinals_isRotated l).trans (forwardOrdinals_isRotated l).symm.reverse
  rw [ring, ring, ← List.filter_reverse]
  exact isRotated_filter hreverse _

/-- **Jumps make full circuits.** From wherever the cursor is, as many jumps to the next marker as
there are visible ones go to each of them once, in the order forward from the cursor, and further
jumps go around in the same order again. Jumps to the previous marker go around in the reverse
order. From a visible marker a jump in one direction and one in the other lead back. Jumps to the
next entry that begins with a character make a circuit of all such entries, as long as the metadata
stay the same. -/
theorem full_circuits (sources : Sources) (l : Listing) (c : Char) :
    Circuit (fun _ => True) l .nextMarker VisibleMarker l.forwardDistance
        (ring forwardOrdinals isVisibleMarker l) ∧
      Circuit (fun _ => True) l .previousMarker VisibleMarker l.backwardDistance
        (ring backwardOrdinals isVisibleMarker l) ∧
      ring backwardOrdinals isVisibleMarker l
        ~r (ring forwardOrdinals isVisibleMarker l).reverse ∧
      (∀ e, l.current? = some e → VisibleMarker e → ∀ there back : Sources,
        (l.jump? there .nextMarker).bind (jump? back .previousMarker) = some l ∧
          (l.jump? there .previousMarker).bind (jump? back .nextMarker) = some l) ∧
      Circuit (fun other => other.info = sources.info) l (.nextBeginningWith c)
        (ShownWith sources c) l.forwardDistance
        (ring forwardOrdinals (beginsWith sources c) l) := by
  refine ⟨walks_nextMarker.circuit l.goesAround_forward fun _ => isVisibleMarker_iff,
    walks_previousMarker.circuit l.goesAround_backward fun _ => isVisibleMarker_iff,
    ring_backward_isRotated l _, fun e he hmarker there back => ?_,
    (walks_nextBeginningWith sources c).circuit l.goesAround_forward fun _ => beginsWith_iff⟩
  have hpass : isVisibleMarker e = true := isVisibleMarker_iff.mpr hmarker
  exact ⟨walks_nextMarker.there_and_back walks_previousMarker mirrored_forward_backward he hpass
      trivial trivial,
    walks_previousMarker.there_and_back walks_nextMarker mirrored_forward_backward.symm he hpass
      trivial trivial⟩

/-- A hidden marker and a service between two visible markers, and the cursor at the end. -/
def amongMarkers : Listing :=
  { empty with
    entries := [.marker "first", { hiddenEntry with identity.kind := .marker }, shownEntry,
      .marker "second"]
    cursor := 4 }

/-- Two laps in either direction, there and back again, and a lap of the names with one letter. -/
theorem full_circuits_amongMarkers :
    (List.replicate 4 Sources.silent).length
        = 2 * (ring forwardOrdinals isVisibleMarker amongMarkers).length ∧
      jumps .nextMarker (List.replicate 4 .silent) amongMarkers
        = [0, 3, 0, 3].map amongMarkers.withCursor ∧
      jumps .previousMarker (List.replicate 4 .silent) amongMarkers
        = [3, 0, 3, 0].map amongMarkers.withCursor ∧
      ((amongMarkers.withCursor 3).jump? .silent .nextMarker).bind (jump? .silent .previousMarker)
        = some (amongMarkers.withCursor 3) ∧
      jumps (.nextBeginningWith 'S') (List.replicate 2 .silent) amongMarkers
        = [2, 3].map amongMarkers.withCursor := by
  have hforward : ring forwardOrdinals isVisibleMarker amongMarkers = [0, 3] := by decide
  have hbackward : ring backwardOrdinals isVisibleMarker amongMarkers = [3, 0] := by decide
  have hletter : ring forwardOrdinals (beginsWith .silent 'S') amongMarkers = [2, 3] := by decide
  obtain ⟨hnext, hprevious, -, -, hnamed⟩ := full_circuits .silent amongMarkers 'S'
  obtain ⟨-, -, -, hback, -⟩ := full_circuits .silent (amongMarkers.withCursor 3) 'S'
  refine ⟨by rw [hforward]; rfl, ?_, ?_, ?_, ?_⟩
  · rw [hnext.laps 2 _ (by rw [hforward]; rfl) fun _ _ => trivial, hforward]
    rfl
  · rw [hprevious.laps 2 _ (by rw [hbackward]; rfl) fun _ _ => trivial, hbackward]
    rfl
  · exact (hback (.marker "second") rfl ⟨rfl, rfl⟩ .silent .silent).1
  · rw [hnamed.laps 1 _ (by rw [hletter]; rfl) (by simp), hletter]
    rfl

end Bouquet.Listing
