import ClusterApiForSlinky.Effect
import ClusterApiForSlinky.OrderedMapping

/-!
Documents of mappings, sequences and scalars, the way Python reads and edits
them: an item that is not there or a value of another kind raises. A value has
no two owners, so an edit of a part is an edit of the whole. `Keeps` says which
places an edit may have touched; whatever lies apart from them is as it was.
-/

namespace ClusterApiForSlinky.Documents

variable {Scalar : Type}

inductive Key (Scalar : Type) where
  | text (name : String)
  | other (value : Scalar)
  deriving DecidableEq

/-- `scalar` is any scalar that is no text, no integer and not null. -/
inductive Value (Scalar : Type) where
  | null
  | int (value : Int)
  | str (text : String)
  | scalar (value : Scalar)
  | list (items : List (Value Scalar))
  | dict (entries : List (Key Scalar × Value Scalar))

inductive Step (Scalar : Type) where
  | key (key : Key Scalar)
  | index (position : Nat)
  deriving DecidableEq

abbrev Path (Scalar : Type) := List (Step Scalar)

inductive Fault where
  | typeError
  | attributeError
  | keyError (key : String)
  | stopIteration
  deriving DecidableEq

/-- The path through the named items of mappings. -/
def items (names : List String) : Path Scalar := names.map (fun name => .key (.text name))

namespace Value

def isNull : Value Scalar → Bool
  | .null => true
  | _ => false

/-- `value == text` -/
def isText (value : Value Scalar) (text : String) : Bool :=
  match value with
  | .str other => other == text
  | _ => false

theorem isText_iff (value : Value Scalar) (text : String) :
    value.isText text = true ↔ value = .str text := by
  cases value <;> simp [isText]

/-- What a `for` loop over the value goes through. -/
def iterate : Value Scalar → Except Fault (List (Value Scalar))
  | .list items => .ok items
  | .dict entries => .ok (entries.map (fun entry =>
      match entry.1 with
      | .text name => .str name
      | .other value => .scalar value))
  | .str text => .ok (text.toList.map (fun char => .str (String.singleton char)))
  | .null | .int _ | .scalar _ => .error .typeError

variable [DecidableEq Scalar]

def child : Value Scalar → Step Scalar → Option (Value Scalar)
  | .dict entries, .key key => entries.lookup key
  | .list items, .index position => items[position]?
  | _, _ => none

def find (value : Value Scalar) : Path Scalar → Option (Value Scalar)
  | [] => some value
  | step :: rest => (value.child step).bind (fun inner => inner.find rest)

theorem find_append (value : Value Scalar) (first second : Path Scalar) :
    value.find (first ++ second) = (value.find first).bind (fun inner => inner.find second) := by
  induction first generalizing value with
  | nil => rfl
  | cons step rest ih =>
      rw [List.cons_append, find, find, Option.bind_assoc]
      exact Option.bind_congr (fun inner _ => ih inner)

/-- `value[name]` -/
def getItem (value : Value Scalar) (name : String) : Except Fault (Value Scalar) :=
  match value with
  | .dict entries =>
      match entries.lookup (.text name) with
      | some inner => .ok inner
      | none => .error (.keyError name)
  | _ => .error .typeError

/-- `value[name] = new` -/
def setItem (name : String) (new value : Value Scalar) : Except Fault (Value Scalar) :=
  match value with
  | .dict entries => .ok (.dict (ModelCodec.Mapping.assign (.text name) new entries))
  | _ => .error .typeError

/-- An edit of the value below the named items. -/
def updateIn (names : List String) (change : Value Scalar → Except Fault (Value Scalar))
    (value : Value Scalar) : Except Fault (Value Scalar) :=
  match names with
  | [] => change value
  | name :: rest => do
      let inner ← value.getItem name
      let changed ← updateIn rest change inner
      setItem name changed value

/-- `value.update(updates)` -/
def updateDict (updates : List (String × Value Scalar)) (value : Value Scalar) :
    Except Fault (Value Scalar) :=
  match value with
  | .dict entries => .ok (.dict (updates.foldl (fun entries update =>
      ModelCodec.Mapping.assign (.text update.1) update.2 entries) entries))
  | _ => .error .attributeError

/-- The position of the first item whose name is the given one; the items before
it are asked for theirs. -/
def nextNamed (name : String) : List (Value Scalar) → Except Fault Nat
  | [] => .error .stopIteration
  | item :: rest => do
      let found ← item.getItem "name"
      if found.isText name then .ok 0
      else
        let position ← nextNamed name rest
        .ok (position + 1)

/-- An edit of the first item of that name. -/
def updateNext (name : String) (change : Value Scalar → Except Fault (Value Scalar))
    (value : Value Scalar) : Except Fault (Value Scalar) := do
  let position ← nextNamed name (← value.iterate)
  match value with
  | .list items =>
      match items[position]? with
      | some item => do
          let changed ← change item
          .ok (.list (items.set position changed))
      | none => .error .typeError
  | _ => .error .typeError

end Value

open Value

/-- The path is on no way to a touched place and in none. -/
def Apart (touched : List (Path Scalar)) (path : Path Scalar) : Prop :=
  ∀ place ∈ touched, ¬ place <+: path ∧ ¬ path <+: place

/-- Only the touched places may differ. -/
def Keeps [DecidableEq Scalar] (touched : List (Path Scalar)) (old new : Value Scalar) : Prop :=
  ∀ path, Apart touched path → new.find path = old.find path

section
variable [DecidableEq Scalar]

theorem getItem_ok (value inner : Value Scalar) (name : String) :
    value.getItem name = .ok inner ↔ value.child (.key (.text name)) = some inner := by
  cases value with
  | dict entries =>
      simp only [getItem, child]
      cases found : entries.lookup (.text name) <;> simp
  | null => simp [getItem, child]
  | int value => simp [getItem, child]
  | str text => simp [getItem, child]
  | scalar value => simp [getItem, child]
  | list items => simp [getItem, child]

theorem setItem_child (name : String) (new value after : Value Scalar)
    (done : setItem name new value = .ok after) (step : Step Scalar) :
    after.child step = if step = .key (.text name) then some new else value.child step := by
  cases value with
  | dict entries =>
      cases done
      cases step with
      | key key =>
          simp only [child, Step.key.injEq]
          exact ModelCodec.Mapping.lookup_assign (.text name) key new entries
      | index position => rfl
  | null => cases done
  | int value => cases done
  | str text => cases done
  | scalar value => cases done
  | list items => cases done

/-- An item that is set to what it is changes nothing. -/
theorem setItem_same (name : String) (inner value : Value Scalar)
    (found : value.child (.key (.text name)) = some inner) : setItem name inner value = .ok value := by
  cases value with
  | dict entries =>
      exact congrArg (fun after => Except.ok (Value.dict after))
        (ModelCodec.Mapping.assign_same _ _ _ found)
  | null => cases found
  | int value => cases found
  | str text => cases found
  | scalar value => cases found
  | list items => cases found

theorem Keeps.trans {first second : List (Path Scalar)} {old middle new : Value Scalar}
    (before : Keeps first old middle) (after : Keeps second middle new) :
    Keeps (first ++ second) old new := by
  intro path apart
  obtain ⟨apartFirst, apartSecond⟩ := List.forall_mem_append.mp apart
  rw [after path apartSecond, before path apartFirst]

/-- What keeps a child keeps the whole. -/
theorem keeps_child (step : Step Scalar) (touched : List (Path Scalar))
    (old new inner changed : Value Scalar) (here : old.child step = some inner)
    (there : new.child step = some changed)
    (others : ∀ other, other ≠ step → new.child other = old.child other)
    (some_touched : touched ≠ []) (kept : Keeps touched inner changed) :
    Keeps (touched.map (step :: ·)) old new := by
  intro path apart
  cases path with
  | nil =>
      obtain ⟨place, member⟩ := List.exists_mem_of_ne_nil touched some_touched
      have outside := apart (step :: place) (List.mem_map_of_mem member)
      exact absurd List.nil_prefix outside.2
  | cons first rest =>
      by_cases same : first = step
      · subst same
        have inside : Apart touched rest := by
          intro place member
          have outside := apart (first :: place) (List.mem_map_of_mem member)
          rw [List.cons_prefix_cons, List.cons_prefix_cons] at outside
          simpa using outside
        rw [find, find, here, there]
        exact kept rest inside
      · rw [find, find, others first same]

theorem keeps_setItem (name : String) (new value after : Value Scalar)
    (done : setItem name new value = .ok after) : Keeps [items [name]] value after := by
  intro path apart
  obtain ⟨notBelow, notAbove⟩ := apart _ List.mem_cons_self
  cases path with
  | nil => exact absurd List.nil_prefix notAbove
  | cons first rest =>
      have different : first ≠ .key (.text name) := by
        rintro rfl
        exact notBelow (List.cons_prefix_cons.mpr ⟨rfl, List.nil_prefix⟩)
      rw [find, find, setItem_child name new value after done, if_neg different]

/-- The parts of an edit below named items. -/
theorem updateIn_ok (names : List String) (change : Value Scalar → Except Fault (Value Scalar))
    (value after : Value Scalar) (done : updateIn names change value = .ok after) :
    ∃ inner changed, value.find (items names) = some inner ∧ change inner = .ok changed ∧
      after.find (items names) = some changed ∧
      ∀ touched, touched ≠ [] → Keeps touched inner changed →
        Keeps (touched.map (items names ++ ·)) value after := by
  induction names generalizing value after with
  | nil => exact ⟨value, after, rfl, done, rfl, fun touched _ kept => by simpa [items] using kept⟩
  | cons name rest ih =>
      rw [updateIn] at done
      obtain ⟨held, read, done⟩ := (Effect.bind_eq_ok _ _ _).mp done
      obtain ⟨edited, updated, done⟩ := (Effect.bind_eq_ok _ _ _).mp done
      obtain ⟨inner, changed, found, made, foundAfter, keeps⟩ := ih held edited updated
      have here := (getItem_ok value held name).mp read
      have children := setItem_child name edited value after done
      have there : after.child (.key (.text name)) = some edited := by rw [children, if_pos rfl]
      refine ⟨inner, changed, ?_, made, ?_, ?_⟩
      · simpa [items, find, here] using found
      · simpa [items, find, there] using foundAfter
      · intro touched nonempty kept
        have whole := keeps_child (.key (.text name)) _ value after held edited here there
          (fun other different => by rw [children, if_neg different])
          (by simpa using nonempty) (keeps touched nonempty kept)
        simpa [items, List.map_map, Function.comp_def] using whole

/-- An edit that changes nothing inside changes nothing. -/
theorem updateIn_fixed (names : List String) (change : Value Scalar → Except Fault (Value Scalar))
    (value inner : Value Scalar) (found : value.find (items names) = some inner)
    (fixed : change inner = .ok inner) : updateIn names change value = .ok value := by
  induction names generalizing value with
  | nil =>
      obtain rfl := Option.some.inj found
      exact fixed
  | cons name rest ih =>
      rw [items, List.map_cons, find] at found
      obtain ⟨held, here, found⟩ := Option.bind_eq_some_iff.mp found
      have same := setItem_same name held value here
      rw [updateIn, (getItem_ok value held name).mpr here]
      simp only [bind, Except.bind, ih held found]
      exact same

/-- Edits that return the same values may stand for each other. -/
theorem updateIn_congr (names : List String)
    (first second : Value Scalar → Except Fault (Value Scalar))
    (same : ∀ inner changed, first inner = .ok changed ↔ second inner = .ok changed)
    (value after : Value Scalar) :
    updateIn names first value = .ok after ↔ updateIn names second value = .ok after := by
  induction names generalizing value after with
  | nil => exact same value after
  | cons name rest ih => simp only [updateIn, Effect.bind_eq_ok, ih]

theorem find_items_append (value : Value Scalar) (names : List String) (name : String) :
    value.find (items (names ++ [name])) =
      (value.find (items names)).bind (fun inner => inner.child (.key (.text name))) := by
  rw [items, List.map_append, find_append]
  apply Option.bind_congr
  intro inner _
  simp [find]

/-- An item set below named ones. -/
theorem setBelow_ok (names : List String) (name : String) (new value after : Value Scalar)
    (done : updateIn names (setItem name new) value = .ok after) :
    after.find (items (names ++ [name])) = some new ∧
      Keeps [items (names ++ [name])] value after := by
  obtain ⟨inner, changed, -, made, there, keeps⟩ := updateIn_ok names _ value after done
  have children := setItem_child name new inner changed made
  constructor
  · rw [find_items_append, there, Option.bind_some, children, if_pos rfl]
  · have kept := keeps [items [name]] (List.cons_ne_nil _ _) (keeps_setItem name new inner changed made)
    simpa [items] using kept

theorem setBelow_fixed (names : List String) (name : String) (new value : Value Scalar)
    (found : value.find (items (names ++ [name])) = some new) :
    updateIn names (setItem name new) value = .ok value := by
  rw [find_items_append] at found
  obtain ⟨inner, here, held⟩ := Option.bind_eq_some_iff.mp found
  exact updateIn_fixed names _ value inner here (setItem_same name new inner held)

/-- The first of the items that has the name. -/
def IsFirst (name : String) (values : List (Value Scalar)) (position : Nat) : Prop :=
  (∃ item, values[position]? = some item ∧ item.child (.key (.text "name")) = some (.str name)) ∧
    ∀ earlier < position, ∀ item, values[earlier]? = some item →
      item.child (.key (.text "name")) ≠ some (.str name)

theorem nextNamed_isFirst (name : String) (values : List (Value Scalar)) (position : Nat)
    (done : nextNamed name values = .ok position) : IsFirst name values position := by
  induction values generalizing position with
  | nil => cases done
  | cons item rest ih =>
      rw [nextNamed] at done
      obtain ⟨found, read, done⟩ := (Effect.bind_eq_ok _ _ _).mp done
      have here := (getItem_ok item found "name").mp read
      split at done
      · next named =>
          rw [(isText_iff found name).mp named] at here
          cases done
          exact ⟨⟨item, rfl, here⟩, fun earlier before => absurd before (Nat.not_lt_zero earlier)⟩
      · next unnamed =>
          obtain ⟨later, searched, done⟩ := (Effect.bind_eq_ok _ _ _).mp done
          cases done
          obtain ⟨⟨other, located, named⟩, before⟩ := ih later searched
          refine ⟨⟨other, located, named⟩, ?_⟩
          intro earlier earlierBound skipped position
          cases earlier with
          | zero =>
              cases position
              intro same
              rw [here] at same
              exact unnamed ((isText_iff found name).mpr (Option.some.inj same))
          | succ earlier => exact before earlier (Nat.lt_of_succ_lt_succ earlierBound) skipped position

/-- An edit of the item that leaves its name leaves the search. -/
theorem nextNamed_set (name : String) (values : List (Value Scalar)) (position : Nat)
    (item changed : Value Scalar) (done : nextNamed name values = .ok position)
    (located : values[position]? = some item)
    (kept : changed.child (.key (.text "name")) = item.child (.key (.text "name"))) :
    nextNamed name (values.set position changed) = .ok position := by
  induction values generalizing position with
  | nil => cases done
  | cons first rest ih =>
      rw [nextNamed] at done
      obtain ⟨found, read, done⟩ := (Effect.bind_eq_ok _ _ _).mp done
      split at done
      · next named =>
          cases done
          cases located
          rw [List.set_cons_zero, nextNamed]
          have still : changed.getItem "name" = .ok found := by
            rw [getItem_ok, kept, ← getItem_ok, read]
          rw [still]
          exact if_pos named
      · next unnamed =>
          obtain ⟨later, searched, done⟩ := (Effect.bind_eq_ok _ _ _).mp done
          cases done
          rw [List.set_cons_succ, nextNamed, read]
          have rest_found := ih later searched located
          simp only [bind, Except.bind, unnamed, Bool.false_eq_true, ↓reduceIte, rest_found]

/-- The parts of an edit of the first item of a name. -/
theorem updateNext_ok (name : String) (change : Value Scalar → Except Fault (Value Scalar))
    (value after : Value Scalar) (done : updateNext name change value = .ok after) :
    ∃ values position item changed, value = .list values ∧
      nextNamed name values = .ok position ∧ values[position]? = some item ∧
      change item = .ok changed ∧ after = .list (values.set position changed) := by
  rw [updateNext] at done
  obtain ⟨values, iterated, done⟩ := (Effect.bind_eq_ok _ _ _).mp done
  obtain ⟨position, searched, done⟩ := (Effect.bind_eq_ok _ _ _).mp done
  cases value with
  | list held =>
      cases iterated
      dsimp only at done
      split at done
      · next item located =>
          obtain ⟨changed, made, done⟩ := (Effect.bind_eq_ok _ _ _).mp done
          cases done
          exact ⟨values, position, item, changed, rfl, searched, located, made, rfl⟩
      · cases done
  | null => cases done
  | int value => cases done
  | str text => cases done
  | scalar value => cases done
  | dict entries => cases done

theorem updateNext_fixed (name : String) (change : Value Scalar → Except Fault (Value Scalar))
    (values : List (Value Scalar)) (position : Nat) (item : Value Scalar)
    (searched : nextNamed name values = .ok position) (located : values[position]? = some item)
    (fixed : change item = .ok item) :
    updateNext name change (.list values) = .ok (.list values) := by
  obtain ⟨bound, same⟩ := List.getElem?_eq_some_iff.mp located
  simp only [updateNext, iterate, bind, Except.bind, searched, located, fixed]
  rw [← same, List.set_getElem_self]

theorem keeps_set (touched : List (Path Scalar)) (values : List (Value Scalar)) (position : Nat)
    (item changed : Value Scalar) (located : values[position]? = some item)
    (nonempty : touched ≠ []) (kept : Keeps touched item changed) :
    Keeps (touched.map (.index position :: ·)) (.list values)
      (.list (values.set position changed)) := by
  obtain ⟨bound, -⟩ := List.getElem?_eq_some_iff.mp located
  apply keeps_child (.index position) touched (.list values)
    (.list (values.set position changed)) item changed located _ _ nonempty kept
  · exact List.getElem?_set_self bound
  · intro other different
    cases other with
    | key key => rfl
    | index elsewhere =>
        apply List.getElem?_set_ne
        rintro rfl
        exact different rfl

end

end ClusterApiForSlinky.Documents
