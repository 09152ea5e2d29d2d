import ClusterApiForSlinky.Execution

/-!
Named items that several owners share. An item is marked for one owner at most;
an owner claims one item at most, either one that is marked for it or one that it
makes. Nothing but the marks keeps the owners apart.
-/

namespace ClusterApiForSlinky.MarkedStore

variable {Owner Name : Type}

/-- `mark` is `none` where there is no item and `some none` where it is unmarked. -/
structure State (Owner Name : Type) where
  mark : Name → Option (Option Owner)
  claim : Owner → Option Name

inductive Move (Owner Name : Type) where
  | adopt (owner : Owner) (name : Name)
  /-- Makes an item anew; the owner may fail before it claims what it made. -/
  | make (owner : Owner) (name : Name) (claimed : Bool)
  | release (owner : Owner)
  /-- Somebody else makes, marks or removes an item. -/
  | outside (name : Name) (mark : Option (Option Owner))
  | idle

def claiming [DecidableEq Owner] (state : State Owner Name) (owner : Owner)
    (name : Option Name) : State Owner Name :=
  { state with claim := Function.update state.claim owner name }

def marking [DecidableEq Name] (state : State Owner Name) (name : Name)
    (mark : Option (Option Owner)) : State Owner Name :=
  { state with mark := Function.update state.mark name mark }

def step [DecidableEq Owner] [DecidableEq Name] (state : State Owner Name) :
    Move Owner Name → State Owner Name
  | .adopt owner name => claiming state owner (some name)
  | .make owner name claimed =>
      claiming (marking state name (some (some owner))) owner (if claimed then some name else none)
  | .release owner => claiming state owner none
  | .outside name mark => marking state name mark
  | .idle => state

/-- Owners adopt only what is marked for them. -/
def Legal (state : State Owner Name) : Move Owner Name → Prop
  | .adopt owner name => state.mark name = some (some owner)
  | .make _ _ _ | .release _ | .outside _ _ | .idle => True

/-- Nobody makes or marks an item over another owner's claim. -/
def Clean (state : State Owner Name) : Move Owner Name → Prop
  | .make owner name _ => ∀ other, state.claim other = some name → other = owner
  | .outside name mark => ∀ owner, state.claim owner = some name → ∀ given, mark = some given →
      given = some owner
  | .adopt _ _ | .release _ | .idle => True

structure Apart (state : State Owner Name) : Prop where
  marked : ∀ owner name, state.claim owner = some name → ∀ mark, state.mark name = some mark →
    mark = some owner
  differ : ∀ first second name, state.claim first = some name → state.claim second = some name →
    first = second

theorem claim_claiming [DecidableEq Owner] (state : State Owner Name) (owner other : Owner) (name : Option Name) :
    (claiming state owner name).claim other = if other = owner then name else state.claim other :=
  Function.update_apply state.claim owner name other

theorem mark_marking [DecidableEq Name] (state : State Owner Name) (name other : Name)
    (mark : Option (Option Owner)) :
    (marking state name mark).mark other = if other = name then mark else state.mark other :=
  Function.update_apply state.mark name mark other

/-- A claim may change to nothing, or to what is marked for the owner and claimed by
nobody else. -/
theorem Apart.claiming [DecidableEq Owner] {state : State Owner Name} (apart : Apart state)
    (owner : Owner) (name : Option Name)
    (own : ∀ taken, name = some taken → ∀ mark, state.mark taken = some mark → mark = some owner)
    (free : ∀ taken, name = some taken → ∀ other, state.claim other = some taken →
      other = owner) : Apart (claiming state owner name) where
  marked := by
    intro other taken claimed mark there
    rw [claim_claiming] at claimed
    split at claimed
    · next same =>
        subst same
        exact own taken claimed mark there
    · exact apart.marked other taken claimed mark there
  differ := by
    intro first second taken left right
    rw [claim_claiming] at left right
    split at left <;> split at right
    · next one two => rw [one, two]
    · next same _ =>
        rw [same]
        exact (free taken left second right).symm
    · next _ same =>
        rw [same]
        exact free taken right first left
    · exact apart.differ first second taken left right

/-- An item may be marked for the one who claims it. -/
theorem apart_marking_iff [DecidableEq Name] {state : State Owner Name} (apart : Apart state)
    (name : Name) (mark : Option (Option Owner)) :
    Apart (marking state name mark) ↔ ∀ owner, state.claim owner = some name →
      ∀ given, mark = some given → given = some owner := by
  constructor
  · intro still owner claimed given there
    apply still.marked owner name claimed given
    rw [mark_marking, if_pos rfl, there]
  · intro fits
    constructor
    · intro owner taken claimed given there
      rw [mark_marking] at there
      split at there
      · next same =>
          subst same
          exact fits owner claimed given there
      · exact apart.marked owner taken claimed given there
    · exact apart.differ

theorem adopt_apart [DecidableEq Owner] {state : State Owner Name} (apart : Apart state)
    (owner : Owner) (name : Name) (legal : state.mark name = some (some owner)) : Apart (claiming state owner (some name)) := by
  apply apart.claiming
  · intro taken same mark there
    cases same
    rw [legal] at there
    exact (Option.some.inj there).symm
  · intro taken same other claimed
    cases same
    have owned := apart.marked other name claimed (some owner) legal
    exact (Option.some.inj owned).symm

section

variable [DecidableEq Owner] [DecidableEq Name]

theorem make_apart_iff {state : State Owner Name} (apart : Apart state) (owner : Owner)
    (name : Name) (claimed : Bool) :
    Apart (step state (.make owner name claimed)) ↔ Clean state (.make owner name claimed) := by
  constructor
  · intro still other claims
    by_contra differs
    -- The other owner still claims the item, which is now marked for this one.
    have kept : (step state (.make owner name claimed)).claim other = some name := by
      show (claiming _ owner _).claim other = _
      rw [claim_claiming, if_neg differs]
      exact claims
    have made : (step state (.make owner name claimed)).mark name = some (some owner) := by
      show (marking state name _).mark name = _
      rw [mark_marking, if_pos rfl]
    have same := still.marked other name kept (some owner) made
    exact differs (Option.some.inj same).symm
  · intro clean
    have marked : Apart (marking state name (some (some owner))) := by
      rw [apart_marking_iff apart]
      rintro other claims given made
      rw [clean other claims]
      exact (Option.some.inj made).symm
    apply marked.claiming
    · intro taken same mark there
      split at same
      · cases same
        rw [mark_marking, if_pos rfl] at there
        exact (Option.some.inj there).symm
      · cases same
    · intro taken same other claims
      split at same
      · cases same
        exact clean other claims
      · cases same

/-- One legal move keeps the owners apart exactly when it is clean. -/
theorem step_apart_iff (state : State Owner Name) (move : Move Owner Name) (apart : Apart state)
    (legal : Legal state move) : Apart (step state move) ↔ Clean state move := by
  cases move with
  | adopt owner name => exact iff_of_true (adopt_apart apart owner name legal) trivial
  | make owner name claimed => exact make_apart_iff apart owner name claimed
  | release owner =>
      have nothing : Apart (claiming state owner none) :=
        apart.claiming owner none (fun _ none => by cases none) (fun _ none => by cases none)
      exact iff_of_true nothing trivial
  | outside name mark => exact apart_marking_iff apart name mark
  | idle => exact iff_of_true apart trivial

end

end ClusterApiForSlinky.MarkedStore
