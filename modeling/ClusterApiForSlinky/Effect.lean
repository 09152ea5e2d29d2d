import Mathlib.Data.List.Forall2
import Mathlib.Logic.Basic

/-!
Computations that may raise and that leave a trace. What they did to the state
before raising stays done. `Behaves` describes a computation by the entries it
adds to the trace: each of them is allowed, a value is only returned after
entries that justify it, and where nothing failed a value is returned. Its rules
take a computation apart statement by statement.
-/

namespace ClusterApiForSlinky.Effect

universe u

def Task (State Error Value : Type u) : Type u := State → Except Error Value × State

variable {State Error Value Result Entry : Type u}

theorem map_eq_ok (outcome : Except Error Value) (change : Value → Result) (result : Result) :
    outcome.map change = .ok result ↔ ∃ value, outcome = .ok value ∧ change value = result := by
  cases outcome <;> simp [Except.map]

theorem mapError_eq_ok (outcome : Except Error Value) (change : Error → Entry) (value : Value) :
    outcome.mapError change = .ok value ↔ outcome = .ok value := by
  cases outcome <;> simp [Except.mapError]

theorem bind_eq_ok (outcome : Except Error Value) (next : Value → Except Error Result)
    (result : Result) :
    (outcome >>= next) = .ok result ↔ ∃ value, outcome = .ok value ∧ next value = .ok result := by
  cases outcome <;> simp [bind, Except.bind]

/-- A loop that returns has an answer for each item. -/
theorem mapM_eq_ok (visit : Value → Except Error Result) (items : List Value)
    (results : List Result) :
    items.mapM visit = .ok results ↔
      List.Forall₂ (fun item result => visit item = .ok result) items results := by
  induction items generalizing results with
  | nil =>
      rw [List.mapM_nil, List.forall₂_nil_left_iff]
      exact ⟨fun same => (Except.ok.inj same).symm, fun same => same ▸ rfl⟩
  | cons item rest ih =>
      rw [List.mapM_cons, bind_eq_ok, List.forall₂_cons_left_iff]
      constructor
      · rintro ⟨first, visited, later⟩
        obtain ⟨others, visitedRest, same⟩ := (bind_eq_ok _ _ _).mp later
        exact ⟨first, others, visited, (ih others).mp visitedRest, (Except.ok.inj same).symm⟩
      · rintro ⟨first, others, visited, visitedRest, rfl⟩
        exact ⟨first, visited, (bind_eq_ok _ _ _).mpr ⟨others, (ih others).mpr visitedRest, rfl⟩⟩

theorem mapM_of_total (visit : Value → Except Error Result) (total : Value → Result)
    (items : List Value) (fine : ∀ item ∈ items, visit item = .ok (total item)) :
    items.mapM visit = .ok (items.map total) := by
  rw [mapM_eq_ok, List.forall₂_map_right_iff]
  exact List.forall₂_same.mpr fine

/-- A loop whose turns only check an item and render it. -/
theorem mapM_render (visit : Value → Except Error Result) (accepts : Value → Prop)
    (render : Value → Result)
    (turn : ∀ item result, visit item = .ok result ↔ accepts item ∧ result = render item)
    (items : List Value) (results : List Result) :
    items.mapM visit = .ok results ↔
      (∀ item ∈ items, accepts item) ∧ results = items.map render := by
  rw [mapM_eq_ok]
  induction items generalizing results with
  | nil => simp
  | cons item rest ih =>
      rw [List.forall₂_cons_left_iff, List.forall_mem_cons, List.map_cons]
      constructor
      · rintro ⟨first, others, visited, later, rfl⟩
        obtain ⟨accepted, rfl⟩ := (turn item first).mp visited
        obtain ⟨rest_accepted, rfl⟩ := (ih others).mp later
        exact ⟨⟨accepted, rest_accepted⟩, rfl⟩
      · rintro ⟨⟨accepted, later⟩, rfl⟩
        exact ⟨_, _, (turn item _).mpr ⟨accepted, rfl⟩, (ih _).mpr ⟨later, rfl⟩, rfl⟩

instance : Monad (Task State Error) where
  pure value := fun state => (.ok value, state)
  bind task next := fun state =>
    match task state with
    | (.ok value, after) => next value after
    | (.error error, after) => (.error error, after)

def raise (error : Error) : Task State Error Value := fun state => (.error error, state)

def ofExcept (outcome : Except Error Value) : Task State Error Value := fun state =>
  (outcome, state)

/-- `try: body finally: cleanup`; an error of the cleanup replaces the outcome. -/
def tryFinally (body : Task State Error Value) (cleanup : Task State Error PUnit) :
    Task State Error Value := fun state =>
  match body state with
  | (outcome, middle) =>
      match cleanup middle with
      | (.ok _, after) => (outcome, after)
      | (.error error, after) => (.error error, after)

/-- How a list of entries takes one state to another, and which entries failed. -/
structure Trace (State Entry : Type u) where
  reaches : List Entry → State → State → Prop
  nil : ∀ state, reaches [] state state
  append : ∀ first second before middle after, reaches first before middle →
    reaches second middle after → reaches (first ++ second) before after
  failed : Entry → Prop

variable (trace : Trace State Entry)

/-- No entry failed. -/
def Clean (entries : List Entry) : Prop := ∀ entry ∈ entries, ¬ trace.failed entry

theorem clean_append (first second : List Entry) :
    Clean trace (first ++ second) ↔ Clean trace first ∧ Clean trace second := by
  simp [Clean, or_imp, forall_and]

@[simp] theorem clean_nil : Clean trace [] := by simp [Clean]

structure Ended (calm : Prop) (allowed : Entry → Prop) (returns : Value → List Entry → Prop)
    (outcome : Except Error Value) (entries : List Entry) : Prop where
  steps : ∀ entry ∈ entries, allowed entry
  value : ∀ value, outcome = .ok value → returns value entries
  fine : calm → Clean trace entries → ∃ value, outcome = .ok value

/-- `calm` is what else must hold, beside that no entry failed, for a value. -/
def Behaves (calm : Prop) (allowed : Entry → Prop) (returns : Value → List Entry → Prop)
    (task : Task State Error Value) : Prop :=
  ∀ state, ∃ entries, trace.reaches entries state (task state).2 ∧
    Ended trace calm allowed returns (task state).1 entries

variable (calm : Prop) (allowed : Entry → Prop)

theorem behaves_pure (returns : Value → List Entry → Prop) (value : Value)
    (justified : returns value []) :
    Behaves trace calm allowed returns (pure value : Task State Error Value) := by
  intro state
  refine ⟨[], trace.nil state, by simp, ?_, fun _ _ => ⟨value, rfl⟩⟩
  rintro _ ⟨⟩
  exact justified

theorem behaves_raise (returns : Value → List Entry → Prop) (error : Error)
    (stormy : ¬ calm) :
    Behaves trace calm allowed returns (raise error : Task State Error Value) := by
  intro state
  exact ⟨[], trace.nil state, by simp, nofun, fun quiet _ => absurd quiet stormy⟩

theorem behaves_ofExcept (returns : Value → List Entry → Prop) (outcome : Except Error Value)
    (fine : calm → ∃ value, outcome = .ok value)
    (justified : ∀ value, outcome = .ok value → returns value []) :
    Behaves trace calm allowed returns (ofExcept outcome : Task State Error Value) := by
  intro state
  exact ⟨[], trace.nil state, by simp, justified, fun quiet _ => fine quiet⟩

theorem behaves_mono (task : Task State Error Value) (weakerCalm : Prop)
    (weakerAllowed : Entry → Prop) (returns weaker : Value → List Entry → Prop)
    (calms : weakerCalm → calm) (allows : ∀ entry, allowed entry → weakerAllowed entry)
    (justifies : ∀ value entries, returns value entries → weaker value entries)
    (behaves : Behaves trace calm allowed returns task) :
    Behaves trace weakerCalm weakerAllowed weaker task := by
  intro state
  obtain ⟨entries, reached, ended⟩ := behaves state
  refine ⟨entries, reached, ?_, ?_, ?_⟩
  · exact fun entry member => allows entry (ended.steps entry member)
  · exact fun value returned => justifies value entries (ended.value value returned)
  · exact fun quiet clean => ended.fine (calms quiet) clean

/-- What comes second may rely on what the first entries justify. -/
theorem behaves_bind (task : Task State Error Value) (next : Value → Task State Error Result)
    (middle : Value → List Entry → Prop) (returns : Result → List Entry → Prop)
    (first : Behaves trace calm allowed middle task)
    (rest : ∀ value before, middle value before →
      Behaves trace (calm ∧ Clean trace before) allowed
        (fun result entries => returns result (before ++ entries)) (next value)) :
    Behaves trace calm allowed returns (task >>= next) := by
  intro state
  obtain ⟨before, reached, ended⟩ := first state
  simp only [bind]
  cases ran : task state with
  | mk outcome between =>
      rw [ran] at reached ended
      cases outcome with
      | error error =>
          -- The second part never runs, and a clean trace could not have ended so.
          refine ⟨before, reached, ended.steps, nofun, ?_⟩
          intro quiet clean
          obtain ⟨_, impossible⟩ := ended.fine quiet clean
          exact nomatch impossible
      | ok value =>
          obtain ⟨entries, continued, finished⟩ := rest value before (ended.value value rfl) between
          refine ⟨before ++ entries,
            trace.append before entries state between _ reached continued, ?_, ?_, ?_⟩
          · intro entry member
            rcases List.mem_append.mp member with early | late
            · exact ended.steps entry early
            · exact finished.steps entry late
          · exact finished.value
          · intro quiet clean
            rw [clean_append] at clean
            exact finished.fine ⟨quiet, clean.1⟩ clean.2

theorem behaves_finally (body : Task State Error Value) (cleanup : Task State Error PUnit)
    (middle returns : Value → List Entry → Prop) (cleaned : PUnit → List Entry → Prop)
    (first : Behaves trace calm allowed middle body)
    (last : Behaves trace calm allowed cleaned cleanup)
    (justified : ∀ value before entries, middle value before → cleaned ⟨⟩ entries →
      returns value (before ++ entries)) :
    Behaves trace calm allowed returns (tryFinally body cleanup) := by
  intro state
  obtain ⟨before, reached, ended⟩ := first state
  simp only [tryFinally]
  cases ran : body state with
  | mk outcome between =>
      rw [ran] at reached ended
      obtain ⟨entries, continued, finished⟩ := last between
      cases swept : cleanup between with
      | mk sweeping after =>
          rw [swept] at continued finished
          have steps : ∀ entry ∈ before ++ entries, allowed entry := by
            intro entry member
            rcases List.mem_append.mp member with early | late
            · exact ended.steps entry early
            · exact finished.steps entry late
          have joined := trace.append before entries state between after reached continued
          -- An error of the cleanup replaces the outcome of the body, as in Python.
          cases sweeping with
          | error error =>
              refine ⟨before ++ entries, joined, steps, nofun, ?_⟩
              intro quiet clean
              obtain ⟨_, impossible⟩ := finished.fine quiet ((clean_append trace _ _).mp clean).2
              exact nomatch impossible
          | ok done =>
              refine ⟨before ++ entries, joined, steps, ?_, ?_⟩
              · intro value returned
                exact justified value before entries (ended.value value returned)
                  (finished.value done rfl)
              · intro quiet clean
                exact ended.fine quiet ((clean_append trace _ _).mp clean).1

end ClusterApiForSlinky.Effect
