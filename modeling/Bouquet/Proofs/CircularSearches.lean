import Bouquet.Listing.Run
import Bouquet.Proofs.Strides
import Mathlib.Data.List.Nodup
import Mathlib.Data.List.Perm.Subperm

/-!
# Circular Searches Find the Nearest

A search goes once around the list. It looks at the entries one by one, in the order of their
distance from the cursor, and so it ends with the nearest entry of those that are searched for, or
without any if there is none.

## Main definitions

- `ShownAs`, `BeginsWith`, `ShownWith`: the entries that are shown under a name with a first letter
- `Listing.forwardDistance`, `Listing.backwardDistance`: distances around the list
- `Listing.Nearest`, `Listing.Finds`: what a search is to find
- `Listing.traced`: a search with the ordinals that it looks at

## Main statements

- `Listing.goesAround_forward`, `Listing.goesAround_backward`: the order of a search
- `Listing.GoesAround.findAmong?_eq_some_iff`: in that order the nearest entry is found
- `Listing.circular_searches`: the three searches
-/

namespace Bouquet

/-! ## Entries that are searched for -/

/-- The name under which an entry is shown: that of the metadata unless it is empty or not known,
else its own. -/
inductive ShownAs (sources : Sources) (r : Reference) : String → Prop where
  | known (info : ServiceInfo) (hinfo : sources.info r = some info) (hname : info.name ≠ "") :
      ShownAs sources r info.name
  | own (hname : ∀ info, sources.info r = some info → info.name = "") : ShownAs sources r r.name

/-- A name begins with a character, in either case, behind blanks and controls. -/
def BeginsWith (name : String) (c : Char) : Prop :=
  ∃ skipped first rest, name.toList = skipped ++ first :: rest ∧
    (∀ x ∈ skipped, Text.isBlank x = true ∨ Text.isControl x = true) ∧
    Text.isBlank first = false ∧ Text.isControl first = false ∧
    Text.lowerChar first = Text.lowerChar c

/-- A visible entry that is shown under a name with this first letter. -/
def ShownWith (sources : Sources) (c : Char) (r : Reference) : Prop :=
  r.isVisible = true ∧ ∃ name, ShownAs sources r name ∧ BeginsWith name c

/-- A visible marker. -/
def VisibleMarker (r : Reference) : Prop := r.kind = .marker ∧ r.isVisible = true

theorem shownAs_iff {sources : Sources} {r : Reference} {name : String} :
    ShownAs sources r name ↔ sources.displayName r = name := by
  constructor
  · rintro (⟨info, hinfo, hname⟩ | hname)
    · simp [Sources.displayName, hinfo, hname]
    · cases hinfo : sources.info r with
      | none => simp [Sources.displayName, hinfo]
      | some info => simp [Sources.displayName, hinfo, hname info hinfo]
  · rintro rfl
    cases hinfo : sources.info r with
    | none =>
      have hown : sources.displayName r = r.name := by simp [Sources.displayName, hinfo]
      rw [hown]
      exact .own fun info h => by simp [hinfo] at h
    | some info =>
      by_cases hname : info.name = ""
      · have hown : sources.displayName r = r.name := by simp [Sources.displayName, hinfo, hname]
        rw [hown]
        refine .own fun other h => ?_
        rw [← Option.some.inj (hinfo.symm.trans h), hname]
      · have hknown : sources.displayName r = info.name := by
          simp [Sources.displayName, hinfo, hname]
        rw [hknown]
        exact .known info hinfo hname

namespace Listing

theorem beginsWith_name_iff (name : String) (c : Char) :
    BeginsWith name c ↔ ∃ first, firstLetter? name = some first ∧
      Text.lowerChar first = Text.lowerChar c := by
  simp only [firstLetter?, List.find?_eq_some_iff_append]
  constructor
  · rintro ⟨skipped, first, rest, hname, hskipped, hblank, hcontrol, hsame⟩
    refine ⟨first, ⟨by simp [hblank, hcontrol], skipped, rest, hname, fun x hx => ?_⟩, hsame⟩
    rcases hskipped x hx with hx | hx <;> simp [hx]
  · rintro ⟨first, ⟨hfirst, skipped, rest, hname, hskipped⟩, hsame⟩
    obtain ⟨hblank, hcontrol⟩ : Text.isBlank first = false ∧ Text.isControl first = false := by
      simpa using hfirst
    refine ⟨skipped, first, rest, hname, fun x hx => ?_, hblank, hcontrol, hsame⟩
    have hno := hskipped x hx
    cases hx : Text.isBlank x <;> simp_all

theorem beginsWith_iff {sources : Sources} {c : Char} {r : Reference} :
    beginsWith sources c r = true ↔ ShownWith sources c r := by
  simp only [ShownWith, shownAs_iff, beginsWith_name_iff, beginsWith, Bool.and_eq_true,
    Option.any_eq_true, beq_iff_eq, exists_eq_left']

theorem isVisibleMarker_iff {r : Reference} : isVisibleMarker r = true ↔ VisibleMarker r := by
  simp [isVisibleMarker, VisibleMarker, Reference.isMarker]

/-! ## Distances -/

/-- How many places an ordinal lies behind the cursor, going forward around the list. The entry at
the cursor is as far as can be; behind the end of the list comes the first entry. -/
def forwardDistance (l : Listing) (ordinal : Nat) : Nat :=
  if l.isOnEntry then
    if l.cursor < ordinal then ordinal - l.cursor else ordinal + l.size - l.cursor
  else ordinal + 1

/-- How many places an ordinal lies before the cursor, going backward around the list. The entry at
the cursor is as far as can be; before the end of the list comes the last entry. -/
def backwardDistance (l : Listing) (ordinal : Nat) : Nat :=
  if l.isOnEntry then
    if ordinal < l.cursor then l.cursor - ordinal else l.cursor + l.size - ordinal
  else l.size - ordinal

/-- An entry of those that `P` picks, none of which is nearer. -/
def Nearest (l : Listing) (P : Reference → Prop) (distance : Nat → Nat) (ordinal : Nat) : Prop :=
  (∃ e, l.entries[ordinal]? = some e ∧ P e) ∧
    ∀ k e, l.entries[k]? = some e → P e → distance ordinal ≤ distance k

/-- Ordinals that go once around the list, to a distance of one place more at a time. -/
structure GoesAround (l : Listing) (distance : Nat → Nat) (ordinals : List Nat) : Prop where
  lt_size : ∀ ordinal ∈ ordinals, ordinal < l.size
  inOrder : ordinals.map distance = List.range' 1 l.size

variable {l : Listing} {distance : Nat → Nat} {ordinals : List Nat}

namespace GoesAround

theorem pairwise (h : GoesAround l distance ordinals) :
    ordinals.Pairwise fun i j => distance i < distance j := by
  rw [← List.pairwise_map, h.inOrder]
  exact List.pairwise_lt_range'

theorem nodup_map (h : GoesAround l distance ordinals) : (ordinals.map distance).Nodup := by
  rw [h.inOrder]
  exact List.nodup_range'

theorem nodup (h : GoesAround l distance ordinals) : ordinals.Nodup := h.nodup_map.of_map

/-- Every ordinal comes up. -/
theorem perm (h : GoesAround l distance ordinals) : ordinals.Perm (List.range l.size) := by
  have hlength : ordinals.length = l.size := by
    rw [← List.length_map distance, h.inOrder, List.length_range']
  have hsub : ordinals ⊆ List.range l.size :=
    fun ordinal hmem => List.mem_range.mpr (h.lt_size ordinal hmem)
  exact (List.subperm_of_subset h.nodup hsub).perm_of_length_le
    (Nat.le_of_eq (List.length_range.trans hlength.symm))

theorem mem_of_getElem? (h : GoesAround l distance ordinals) {ordinal : Nat} {e : Reference}
    (he : l.entries[ordinal]? = some e) : ordinal ∈ ordinals :=
  h.perm.mem_iff.mpr (List.mem_range.mpr (List.getElem?_eq_some_iff.mp he).1)

end GoesAround

theorem goesAround_forward (l : Listing) :
    GoesAround l l.forwardDistance l.forwardOrdinals := by
  constructor
  · intro ordinal hmem
    obtain ⟨k, hk, rfl⟩ := List.mem_map.mp hmem
    exact Nat.mod_lt _ (by rw [List.mem_range] at hk; omega)
  · rw [forwardOrdinals, List.map_map, List.range'_eq_map_range]
    refine List.map_congr_left fun k hk => ?_
    have hk : k < l.size := List.mem_range.mp hk
    simp only [Function.comp_apply, forwardDistance]
    by_cases hentry : l.isOnEntry = true
    · have hcursor : l.cursor < l.size := (isOnEntry_iff l).mp hentry
      rw [if_pos hentry, if_pos hentry]
      -- up to the end of the list the ordinals go up, then they begin anew
      rcases Nat.lt_or_ge (l.cursor + (k + 1)) l.size with hlt | hge
      · rw [Nat.mod_eq_of_lt hlt, if_pos (by omega)]
        omega
      · rw [Nat.mod_eq_sub_mod hge, Nat.mod_eq_of_lt (by omega), if_neg (by omega)]
        omega
    · rw [if_neg hentry, if_neg hentry, Nat.mod_eq_sub_mod (by omega), Nat.mod_eq_of_lt (by omega)]
      omega

/-- Counted back from a place, the ordinals go down to the first one and then begin anew from the
last one. -/
theorem countedBack_eq {start size k : Nat} (hstart : start ≤ size) (hk : k < size) :
    (start + 2 * size - (k + 1)) % size
      = if k < start then start - (k + 1) else start + size - (k + 1) := by
  split
  case isTrue hlt =>
    have hsum : start + 2 * size - (k + 1) = start - (k + 1) + size * 2 := by omega
    rw [hsum, Nat.add_mul_mod_self_left, Nat.mod_eq_of_lt (by omega)]
  case isFalse hge =>
    have hsum : start + 2 * size - (k + 1) = start + size - (k + 1) + size * 1 := by omega
    rw [hsum, Nat.add_mul_mod_self_left, Nat.mod_eq_of_lt (by omega)]

theorem goesAround_backward (l : Listing) :
    GoesAround l l.backwardDistance l.backwardOrdinals := by
  constructor
  · intro ordinal hmem
    obtain ⟨k, hk, rfl⟩ := List.mem_map.mp hmem
    exact Nat.mod_lt _ (by rw [List.mem_range] at hk; omega)
  · rw [backwardOrdinals, List.map_map, List.range'_eq_map_range]
    refine List.map_congr_left fun k hk => ?_
    have hk : k < l.size := List.mem_range.mp hk
    rw [Function.comp_apply, countedBack_eq (Nat.min_le_right ..) hk, backwardDistance]
    by_cases hentry : l.isOnEntry = true
    · have hcursor : l.cursor < l.size := (isOnEntry_iff l).mp hentry
      rw [if_pos hentry, Nat.min_eq_left (Nat.le_of_lt hcursor)]
      rcases Nat.lt_or_ge k l.cursor with hlt | hge
      · rw [if_pos hlt, if_pos (by omega)]
        omega
      · rw [if_neg (Nat.not_lt.mpr hge), if_neg (by omega)]
        omega
    · have hend : l.size ≤ l.cursor := Nat.not_lt.mp (mt (isOnEntry_iff l).mpr hentry)
      rw [if_neg hentry, Nat.min_eq_right hend, if_pos hk]
      omega

/-! ## Searches -/

section Search

variable {test : Reference → Bool} {P : Reference → Prop}

theorem GoesAround.findAmong?_eq_none_iff (h : GoesAround l distance ordinals)
    (htest : ∀ r, test r = true ↔ P r) :
    l.findAmong? test ordinals = none ↔ ∀ e ∈ l.entries, ¬ P e := by
  rw [findAmong?, List.find?_eq_none]
  constructor
  · intro hnone e he hP
    obtain ⟨k, hk⟩ := List.mem_iff_getElem?.mp he
    exact hnone k (h.mem_of_getElem? hk) (by simpa [hk] using (htest e).mpr hP)
  · intro hnone k _ htrue
    obtain ⟨e, he, hpass⟩ := (Option.any_eq_true ..).mp htrue
    exact hnone e (List.mem_of_getElem? he) ((htest e).mp hpass)

/-- What is found going around the list is the nearest. -/
theorem GoesAround.nearest_of_findAmong? (h : GoesAround l distance ordinals)
    (htest : ∀ r, test r = true ↔ P r) {ordinal : Nat}
    (hfound : l.findAmong? test ordinals = some ordinal) : Nearest l P distance ordinal := by
  obtain ⟨hpass, before, after, hsplit, hfail⟩ := List.find?_eq_some_iff_append.mp hfound
  obtain ⟨e, he, hpass⟩ := (Option.any_eq_true ..).mp hpass
  refine ⟨⟨e, he, (htest e).mp hpass⟩, fun k d hd hP => ?_⟩
  have hordered := h.pairwise
  have hmem := h.mem_of_getElem? hd
  rw [hsplit] at hordered hmem
  -- an entry before it would have been found first, those behind it are farther away
  rcases List.mem_append.mp hmem with hbefore | hbehind
  · have hno := hfail k hbefore
    simp [hd, (htest d).mpr hP] at hno
  · rcases List.mem_cons.mp hbehind with rfl | hafter
    · exact Nat.le_refl _
    · exact Nat.le_of_lt
        ((List.pairwise_cons.mp (List.pairwise_append.mp hordered).2.1).1 k hafter)

/-- No two ordinals are at one distance. -/
theorem GoesAround.nearest_unique (h : GoesAround l distance ordinals) {i j : Nat}
    (hi : Nearest l P distance i) (hj : Nearest l P distance j) : i = j := by
  obtain ⟨⟨a, ha, hPa⟩, hleast⟩ := hi
  obtain ⟨⟨b, hb, hPb⟩, hleast'⟩ := hj
  refine List.inj_on_of_nodup_map h.nodup_map (h.mem_of_getElem? ha) (h.mem_of_getElem? hb) ?_
  exact Nat.le_antisymm (hleast j b hb hPb) (hleast' i a ha hPa)

/-- A search going around the list finds the nearest entry. -/
theorem GoesAround.findAmong?_eq_some_iff (h : GoesAround l distance ordinals)
    (htest : ∀ r, test r = true ↔ P r) {ordinal : Nat} :
    l.findAmong? test ordinals = some ordinal ↔ Nearest l P distance ordinal := by
  refine ⟨h.nearest_of_findAmong? htest, fun hnearest => ?_⟩
  cases hfound : l.findAmong? test ordinals with
  | none =>
    obtain ⟨⟨e, he, hP⟩, -⟩ := hnearest
    exact absurd hP ((h.findAmong?_eq_none_iff htest).mp hfound e (List.mem_of_getElem? he))
  | some other =>
    rw [h.nearest_unique (h.nearest_of_findAmong? htest hfound) hnearest]

/-- A search together with the ordinals that it looks at, one after another. -/
def traced (l : Listing) (test : Reference → Bool) : List Nat → Option Nat × List Nat
  | [] => (none, [])
  | ordinal :: rest =>
    if (l.entries[ordinal]?).any test then (some ordinal, [ordinal])
    else
      let (found, looks) := traced l test rest
      (found, ordinal :: looks)

theorem traced_fst (l : Listing) (test : Reference → Bool) (ordinals : List Nat) :
    (l.traced test ordinals).1 = l.findAmong? test ordinals := by
  induction ordinals with
  | nil => rfl
  | cons ordinal rest ih =>
    by_cases hpass : (l.entries[ordinal]?).any test = true
    · simp [traced, findAmong?, hpass]
    · simp only [traced, findAmong?, List.find?_cons, hpass]
      exact ih

/-- A search looks at no other ordinals than those on its way. -/
theorem traced_snd_prefix (l : Listing) (test : Reference → Bool) (ordinals : List Nat) :
    (l.traced test ordinals).2 <+: ordinals := by
  induction ordinals with
  | nil => exact List.nil_prefix
  | cons ordinal rest ih =>
    by_cases hpass : (l.entries[ordinal]?).any test = true
    · simp [traced, hpass]
    · simpa [traced, hpass] using ih

end Search

/-! ## The three searches -/

/-- What an operation is to find that searches for the entries picked by `P`: the nearest of them.
`search` is what the search finds and the ordinals that it looks at. -/
structure Finds (sources : Sources) (l : Listing) (op : ListingOp) (P : Reference → Prop)
    (distance : Nat → Nat) (search : Option Nat × List Nat) : Prop where
  /-- The operation answers with what is found, and does nothing else. -/
  reply : perform sources op l = ⟨l, .ordinal search.1, [], []⟩
  found_iff : ∀ ordinal, search.1 = some ordinal ↔ Nearest l P distance ordinal
  none_iff : search.1 = none ↔ ∀ e ∈ l.entries, ¬ P e
  /-- It looks at the entry at distance one, then at that at distance two, and so on. -/
  looks : search.2.map distance = List.range' 1 search.2.length
  once : search.2.Nodup

theorem GoesAround.finds (h : GoesAround l distance ordinals) {test : Reference → Bool}
    {P : Reference → Prop} (htest : ∀ r, test r = true ↔ P r) {sources : Sources}
    {op : ListingOp}
    (hreply : perform sources op l = l.answering (.ordinal (l.findAmong? test ordinals))) :
    Finds sources l op P distance (l.traced test ordinals) where
  reply := by
    rw [traced_fst]
    exact hreply
  found_iff ordinal := by
    rw [traced_fst]
    exact h.findAmong?_eq_some_iff htest
  none_iff := by
    rw [traced_fst]
    exact h.findAmong?_eq_none_iff htest
  looks := by
    have hprefix := (l.traced_snd_prefix test ordinals).map distance
    have hle := hprefix.length_le
    rw [h.inOrder, List.length_map, List.length_range'] at hle
    rw [h.inOrder, List.prefix_iff_eq_take, List.length_map,
      List.take_range'_of_length_ge hle] at hprefix
    exact hprefix
  once := (l.traced_snd_prefix test ordinals).sublist.nodup h.nodup

/-- **Circular searches find the nearest.** With the cursor on any entry or at the end of the list,
the next marker is the visible marker at the least distance forward and the previous one that at the
least distance backward. The next entry that begins with a character is, of the visible entries that
are shown under such a name, the one at the least distance forward. Nothing is found exactly if
there is no such entry, no ordinal is looked at twice, and nothing changes. -/
theorem circular_searches (sources : Sources) (l : Listing) (c : Char) :
    Finds sources l .nextMarker VisibleMarker l.forwardDistance
        (l.traced isVisibleMarker l.forwardOrdinals) ∧
      Finds sources l .previousMarker VisibleMarker l.backwardDistance
        (l.traced isVisibleMarker l.backwardOrdinals) ∧
      Finds sources l (.nextBeginningWith c) (ShownWith sources c) l.forwardDistance
        (l.traced (beginsWith sources c) l.forwardOrdinals) :=
  ⟨l.goesAround_forward.finds (fun _ => isVisibleMarker_iff) rfl,
    l.goesAround_backward.finds (fun _ => isVisibleMarker_iff) rfl,
    l.goesAround_forward.finds (fun _ => beginsWith_iff) rfl⟩

/-- Names that begin with capital and with small letters, one of them behind a blank. The cursor is
on this one. -/
def countries : Listing :=
  { empty with
    entries := ["Österreich", " Belgique", "čeština", "brasil"].map fun name =>
      .plain .service name name
    cursor := 1 }

/-- Neither the name nor the letter that is searched for has to be in the same case. A name is found
ahead of the one at the cursor, and the search goes around the end of the list. -/
theorem circular_searches_countries :
    Nearest countries (ShownWith .silent 'B') countries.forwardDistance 3 ∧
      (perform .silent (.nextBeginningWith 'B') countries).answer = .ordinal (some 3) ∧
      (perform .silent (.nextBeginningWith 'Č') countries).answer = .ordinal (some 2) ∧
      Nearest countries (ShownWith .silent 'ö') countries.forwardDistance 0 ∧
      (perform .silent (.nextBeginningWith 'ö') countries).answer = .ordinal (some 0) ∧
      ∀ e ∈ countries.entries, ¬ ShownWith .silent 'o' e := by
  have hsearch (c : Char) := (circular_searches .silent countries c).2.2
  have hfound (c : Char) (ordinal : Option Nat)
      (h : (countries.traced (beginsWith .silent c) countries.forwardOrdinals).1 = ordinal) :
      (perform .silent (.nextBeginningWith c) countries).answer = .ordinal ordinal := by
    rw [(hsearch c).reply, h]
  have hb : (countries.traced (beginsWith .silent 'B') countries.forwardOrdinals).1 = some 3 := by
    decide +kernel
  have hc : (countries.traced (beginsWith .silent 'Č') countries.forwardOrdinals).1 = some 2 := by
    decide +kernel
  have ho : (countries.traced (beginsWith .silent 'ö') countries.forwardOrdinals).1 = some 0 := by
    decide +kernel
  have hnone : (countries.traced (beginsWith .silent 'o') countries.forwardOrdinals).1 = none := by
    decide +kernel
  exact ⟨((hsearch 'B').found_iff 3).mp hb, hfound 'B' _ hb, hfound 'Č' _ hc,
    ((hsearch 'ö').found_iff 0).mp ho, hfound 'ö' _ ho, (hsearch 'o').none_iff.mp hnone⟩

end Listing

end Bouquet
