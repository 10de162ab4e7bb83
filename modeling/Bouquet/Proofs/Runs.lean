import Bouquet.ListView.Run

/-!
# Runs with Changing Sources

What the receiver answers may change between two operations, so a step of a run carries the
sources that it is carried out with. A run of a list view is, for its listing, the run of the
operations among its actions.

## Main definitions

- `Listing.runSteps`: the listing after a run
- `Listing.stepReplies`, `Listing.requests`: what a run answers and what it asks to be kept
- `Listing.EveryState`, `Listing.EveryStep`: what holds all along a run
- `ListView.listSteps`: the listing operations among the actions of a view
-/

namespace Bouquet

namespace Listing

/-! ## Runs -/

/-- The listing after a run, in which every operation has sources of its own. -/
def runSteps (steps : List (Sources × ListingOp)) (l : Listing) : Listing :=
  steps.foldl (fun l step => (perform step.1 step.2 l).listing) l

@[simp]
theorem runSteps_nil (l : Listing) : runSteps [] l = l := rfl

@[simp]
theorem runSteps_cons (step : Sources × ListingOp) (steps : List (Sources × ListingOp))
    (l : Listing) :
    runSteps (step :: steps) l = runSteps steps (perform step.1 step.2 l).listing := rfl

theorem runSteps_append (first second : List (Sources × ListingOp)) (l : Listing) :
    runSteps (first ++ second) l = runSteps second (runSteps first l) :=
  List.foldl_append ..

/-- With the same sources throughout this is the plain run. -/
theorem runSteps_map (sources : Sources) (ops : List ListingOp) (l : Listing) :
    runSteps (ops.map fun op => (sources, op)) l = run sources ops l := by
  simp [runSteps, run, List.foldl_map]

/-! ## Replies of a run -/

/-- The replies of a run, in order. -/
def stepReplies : List (Sources × ListingOp) → Listing → List Reply
  | [], _ => []
  | (sources, op) :: steps, l =>
    let reply := perform sources op l
    reply :: stepReplies steps reply.listing

/-- The positions that a run asks the list sources to keep, in order. -/
def requests (steps : List (Sources × ListingOp)) (l : Listing) : List Move :=
  (stepReplies steps l).flatMap Reply.moves

@[simp]
theorem requests_nil (l : Listing) : requests [] l = [] := rfl

theorem requests_cons (step : Sources × ListingOp) (steps : List (Sources × ListingOp))
    (l : Listing) :
    requests (step :: steps) l
      = (perform step.1 step.2 l).moves ++ requests steps (perform step.1 step.2 l).listing := by
  simp [requests, stepReplies]

theorem requests_append (first second : List (Sources × ListingOp)) (l : Listing) :
    requests (first ++ second) l = requests first l ++ requests second (runSteps first l) := by
  induction first generalizing l with
  | nil => rfl
  | cons step first ih =>
    rw [List.cons_append, requests_cons, requests_cons, ih, runSteps_cons, List.append_assoc]

/-! ## Along a run -/

/-- A property of every listing that a run passes through, the first and the last included. -/
def EveryState (P : Listing → Prop) (steps : List (Sources × ListingOp)) (l : Listing) : Prop :=
  ∀ before, before <+: steps → P (runSteps before l)

/-- A property of every step of a run: of the listing that it starts from and its operation. -/
def EveryStep (P : Listing → Sources → ListingOp → Prop) (steps : List (Sources × ListingOp))
    (l : Listing) : Prop :=
  ∀ before sources op after,
    steps = before ++ (sources, op) :: after → P (runSteps before l) sources op

theorem everyState_nil {P : Listing → Prop} {l : Listing} : EveryState P [] l ↔ P l := by
  simp [EveryState]

theorem everyState_cons {P : Listing → Prop} {step : Sources × ListingOp}
    {steps : List (Sources × ListingOp)} {l : Listing} :
    EveryState P (step :: steps) l
      ↔ P l ∧ EveryState P steps (perform step.1 step.2 l).listing := by
  constructor
  · intro h
    refine ⟨h [] List.nil_prefix, fun before hbefore => ?_⟩
    exact h (step :: before) (List.cons_prefix_cons.mpr ⟨rfl, hbefore⟩)
  · rintro ⟨hl, hsteps⟩ before hbefore
    -- a prefix is empty or goes through the first step
    cases before with
    | nil => exact hl
    | cons first before =>
      obtain ⟨rfl, hrest⟩ := List.cons_prefix_cons.mp hbefore
      exact hsteps before hrest

theorem everyStep_nil {P : Listing → Sources → ListingOp → Prop} {l : Listing} :
    EveryStep P [] l := by
  intro before sources op after h
  simp at h

theorem everyStep_cons {P : Listing → Sources → ListingOp → Prop} {step : Sources × ListingOp}
    {steps : List (Sources × ListingOp)} {l : Listing} :
    EveryStep P (step :: steps) l
      ↔ P l step.1 step.2 ∧ EveryStep P steps (perform step.1 step.2 l).listing := by
  constructor
  · intro h
    refine ⟨h [] step.1 step.2 steps rfl, fun before sources op after hsplit => ?_⟩
    exact h (step :: before) sources op after (by rw [hsplit, List.cons_append])
  · rintro ⟨hl, hsteps⟩ before sources op after hsplit
    -- the step in question is the first one or comes after it
    cases before with
    | nil =>
      obtain ⟨rfl, rfl⟩ := List.cons.inj hsplit
      exact hl
    | cons first before =>
      obtain ⟨rfl, hrest⟩ := List.cons.inj hsplit
      exact hsteps before sources op after hrest

end Listing

/-! ## Runs of list views -/

/-- The operation on the listing that an action is. -/
def ViewAction.listOp? : ViewAction → Option ListingOp
  | .list op => some op
  | _ => none

namespace ListView

/-- The operations on the listing among the actions of a run. -/
def listSteps (actions : List (Sources × ViewAction)) : List (Sources × ListingOp) :=
  actions.filterMap fun step => step.2.listOp?.map fun op => (step.1, op)

/-- Only operations on the listing change it. -/
theorem perform_listing_of_listOp?_eq_none {action : ViewAction} (h : action.listOp? = none)
    (sources : Sources) (v : ListView) : (perform sources action v).view.listing = v.listing := by
  cases action with
  | list op => simp [ViewAction.listOp?] at h
  | loadOptions text =>
    simp only [perform]
    split <;> rfl
  | loadIcon slot file =>
    simp only [perform]
    split <;> rfl
  | describe style selected =>
    simp only [perform, describe, afterRow, answering]
    split <;> rfl
  | paint style canvas offset selected =>
    simp only [perform, paint, afterRow, answering]
    split <;> rfl
  | _ => rfl

theorem run_cons (step : Sources × ViewAction) (actions : List (Sources × ViewAction))
    (v : ListView) : run (step :: actions) v = run actions (perform step.1 step.2 v).view := rfl

/-- The listing of a view goes through the operations on it and nothing else. -/
theorem run_listing (actions : List (Sources × ViewAction)) (v : ListView) :
    (run actions v).listing = v.listing.runSteps (listSteps actions) := by
  induction actions generalizing v with
  | nil => rfl
  | cons step actions ih =>
    obtain ⟨sources, action⟩ := step
    rw [run_cons, ih]
    cases hop : action.listOp? with
    | none =>
      -- such an action is left out of the steps
      rw [perform_listing_of_listOp?_eq_none hop]
      simp [listSteps, hop]
    | some op =>
      cases action with
      | list _ =>
        obtain rfl := Option.some.inj hop
        rfl
      | _ => simp [ViewAction.listOp?] at hop

end ListView

end Bouquet
