import Bouquet.ListView.Basic

/-!
# Actions on list views

Everything that a widget does with a list view as data, what each action does, and runs of them.

## Main definitions

- `ViewAction`, `ViewAnswer`, `ViewReply`
- `ListView.perform`: one action
- `ListView.run`, `ListView.replies`: a run, in which every action has sources of its own
-/

namespace Bouquet

/-- An action on a list view. -/
inductive ViewAction where
  | list (op : ListingOp)
  | setIgnored (entry : Option Reference)
  | ignored
  | mute (kind : NoticeKind) (state : Bool)
  | change (change : LookChange)
  | loadOptions (text : String)
  | loadIcon (slot : Icon) (file : FilePath)
  | describe (style : Style) (selected : Bool)
  | paint (style : Style) (canvas : Canvas) (offset : Point) (selected : Bool)

/-- What an action answers. -/
inductive ViewAnswer where
  | done
  | list (answer : Answer)
  | entry (value : Option Reference)
  | rejectedOptions
  | unreadableImage
  | row (value : Except Fault (Option Row))
  | canvas (value : Except Fault Canvas)

/-- What an action leaves, answers, lets the view hear and asks of the list source. -/
structure ViewReply where
  view : ListView
  answer : ViewAnswer
  notices : List Notice
  moves : List Move

namespace ListView

/-- A reply without notices and moves. -/
def answering (v : ListView) (answer : ViewAnswer) : ViewReply := ⟨v, answer, [], []⟩

/-- One action. -/
def perform (sources : Sources) (action : ViewAction) (v : ListView) : ViewReply :=
  match action with
  | .list op =>
    let reply := v.listing.perform sources op
    ⟨{ v with listing := reply.listing }, .list reply.answer, v.heard reply.notices, reply.moves⟩
  | .setIgnored entry => { v with ignored := entry : ListView }.answering .done
  | .ignored => v.answering (.entry v.ignored)
  | .mute kind state => { v with muted := assign v.muted kind state : ListView }.answering .done
  | .change change => { v with look := v.look.apply change : ListView }.answering .done
  | .loadOptions text =>
    match v.look.loadOptions? text with
    | some look => { v with look := look : ListView }.answering .done
    | none => v.answering .rejectedOptions
  | .loadIcon slot file =>
    match sources.image file with
    | some pixmap =>
      { v with look := v.look.apply (.icon slot (some pixmap)) : ListView }.answering .done
    | none => v.answering .unreadableImage
  | .describe style selected =>
    let (v, row) := v.describe sources style selected
    v.answering (.row row)
  | .paint style canvas offset selected =>
    let (v, canvas) := v.paint sources style canvas offset selected
    v.answering (.canvas canvas)

/-- The view after a run. -/
def run (actions : List (Sources × ViewAction)) (v : ListView) : ListView :=
  actions.foldl (fun v step => (perform step.1 step.2 v).view) v

/-- The replies of a run, in order. -/
def replies : List (Sources × ViewAction) → ListView → List ViewReply
  | [], _ => []
  | (sources, action) :: actions, v =>
    let reply := perform sources action v
    reply :: replies actions reply.view

end ListView

end Bouquet
