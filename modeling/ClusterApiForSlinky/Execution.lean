import Mathlib.Data.List.Basic

/-!
Runs of a deterministic machine: the state after a list of operations, taken
from the left. An invariant is proved once per operation and carried over every
run here; a guarded run also records that each operation met its condition in
the state in which it was taken.
-/

namespace ClusterApiForSlinky.Execution

universe u v
variable {State : Type u} {Op : Type v}

def run (step : State → Op → State) (state : State) (ops : List Op) : State :=
  ops.foldl step state

@[simp] theorem run_nil (step : State → Op → State) (state : State) :
    run step state [] = state := rfl

@[simp] theorem run_cons (step : State → Op → State) (state : State) (op : Op)
    (rest : List Op) : run step state (op :: rest) = run step (step state op) rest := rfl

/-- The condition `ok` holds of every operation in the state it is taken in. -/
def Guarded (step : State → Op → State) (ok : State → Op → Prop) :
    State → List Op → Prop
  | _, [] => True
  | state, op :: rest => ok state op ∧ Guarded step ok (step state op) rest

theorem guarded_trivial (step : State → Op → State) (state : State) (ops : List Op) :
    Guarded step (fun _ _ => True) state ops := by
  induction ops generalizing state with
  | nil => trivial
  | cons op rest ih => exact ⟨trivial, ih (step state op)⟩

theorem guarded_and (step : State → Op → State) (ok : State → Op → Prop) (always : Op → Prop)
    (state : State) (ops : List Op) (every : ∀ op ∈ ops, always op)
    (guarded : Guarded step ok state ops) :
    Guarded step (fun state op => always op ∧ ok state op) state ops := by
  induction ops generalizing state with
  | nil => trivial
  | cons op rest ih =>
      constructor
      · exact ⟨every op List.mem_cons_self, guarded.1⟩
      · exact ih (step state op) (fun other member => every other (List.mem_cons_of_mem op member))
          guarded.2

theorem guarded_invariant (step : State → Op → State) (ok : State → Op → Prop)
    (invariant : State → Prop)
    (preserved : ∀ state op, invariant state → ok state op → invariant (step state op))
    (state : State) (ops : List Op) (start : invariant state)
    (guarded : Guarded step ok state ops) : invariant (run step state ops) := by
  induction ops generalizing state with
  | nil => exact start
  | cons op rest ih =>
      exact ih (step state op) (preserved state op start guarded.1) guarded.2

theorem run_invariant (step : State → Op → State) (invariant : State → Prop)
    (preserved : ∀ state op, invariant state → invariant (step state op))
    (state : State) (ops : List Op) (start : invariant state) :
    invariant (run step state ops) :=
  guarded_invariant step (fun _ _ => True) invariant
    (fun s op holds _ => preserved s op holds) state ops start
    (guarded_trivial step state ops)

/-- An invariant that only some operations keep holds after a run of these. -/
theorem legal_invariant (step : State → Op → State) (legal : Op → Prop)
    (invariant : State → Prop)
    (preserved : ∀ state op, invariant state → legal op → invariant (step state op))
    (state : State) (ops : List Op) (every : ∀ op ∈ ops, legal op) (start : invariant state) :
    invariant (run step state ops) := by
  have guarded := guarded_and step (fun _ _ => True) legal state ops every
    (guarded_trivial step state ops)
  apply guarded_invariant step _ invariant _ state ops start guarded
  intro state op holds met
  exact preserved state op holds met.1

/-- A relation that every operation only extends holds, after a run, of what
held before it and of what some operation added. -/
theorem run_accumulates {Fact : Type*} (step : State → Op → State) (holds : State → Fact → Prop)
    (adds : Op → Fact → Prop)
    (effect : ∀ state op fact, holds (step state op) fact ↔ holds state fact ∨ adds op fact)
    (state : State) (ops : List Op) (fact : Fact) :
    holds (run step state ops) fact ↔ holds state fact ∨ ∃ op ∈ ops, adds op fact := by
  induction ops generalizing state with
  | nil => simp
  | cons op rest ih => simp [ih, effect, or_assoc]

/-- An invariant that one condition keeps up turns it into another condition. -/
theorem guarded_of_invariant (step : State → Op → State) (ok ensured : State → Op → Prop)
    (invariant : State → Prop)
    (preserved : ∀ state op, invariant state → ok state op → invariant (step state op))
    (enough : ∀ state op, invariant state → ok state op → ensured state op)
    (state : State) (ops : List Op) (start : invariant state)
    (guarded : Guarded step ok state ops) : Guarded step ensured state ops := by
  induction ops generalizing state with
  | nil => trivial
  | cons op rest ih =>
      constructor
      · exact enough state op start guarded.1
      · exact ih (step state op) (preserved state op start guarded.1) guarded.2

/-- A property that each operation keeps exactly when its condition is met
holds after a run exactly when the whole run was guarded. -/
theorem run_iff_guarded (step : State → Op → State) (ok : State → Op → Prop)
    (property : State → Prop)
    (effect : ∀ state op, property (step state op) ↔ property state ∧ ok state op)
    (state : State) (ops : List Op) :
    property (run step state ops) ↔ property state ∧ Guarded step ok state ops := by
  induction ops generalizing state with
  | nil => simp [Guarded]
  | cons op rest ih =>
      rw [run_cons, ih, effect, Guarded, and_assoc]

/-- A property that each operation keeps exactly when its condition is met, where it
held before, holds in every state of a run exactly when the whole run was guarded. -/
theorem prefixes_iff_guarded (step : State → Op → State) (ok : State → Op → Prop)
    (legal : Op → Prop) (invariant property : State → Prop)
    (preserved : ∀ state op, invariant state → legal op → invariant (step state op))
    (effect : ∀ state op, invariant state → legal op → property state →
      (property (step state op) ↔ ok state op))
    (state : State) (ops : List Op) (every : ∀ op ∈ ops, legal op) (start : invariant state)
    (holds : property state) :
    (∀ count, property (run step state (ops.take count))) ↔ Guarded step ok state ops := by
  induction ops generalizing state with
  | nil => simp [Guarded, holds]
  | cons op rest ih =>
      have allowed := every op List.mem_cons_self
      have one := effect state op start allowed holds
      have next := ih (step state op) (fun other member => every other (List.mem_cons_of_mem op member))
        (preserved state op start allowed)
      constructor
      · intro always
        have stepped : property (step state op) := by simpa using always 1
        exact ⟨one.mp stepped, (next stepped).mp (fun count => always (count + 1))⟩
      · rintro ⟨met, later⟩ count
        cases count with
        | zero => exact holds
        | succ count => exact (next (one.mpr met)).mpr later count

/-- A loop that asks until an answer decides it: the answers it took, and what
the last of them decided. -/
def poll {Answer : Type u} {Result : Type v} (verdict : Answer → Option Result) :
    List Answer → List Answer × Option Result
  | [] => ([], none)
  | answer :: rest =>
      match verdict answer with
      | some result => ([answer], some result)
      | none => (answer :: (poll verdict rest).1, (poll verdict rest).2)

theorem poll_decided_iff {Answer : Type u} {Result : Type v} (verdict : Answer → Option Result)
    (answers seen : List Answer) (result : Result) :
    poll verdict answers = (seen, some result) ↔
      ∃ waited last later, answers = waited ++ last :: later ∧
        (∀ answer ∈ waited, verdict answer = none) ∧ verdict last = some result ∧
        seen = waited ++ [last] := by
  induction answers generalizing seen with
  | nil => simp [poll]
  | cons answer rest ih =>
      cases decided : verdict answer with
      | some verdictGiven =>
          simp only [poll, decided, Prod.mk.injEq, Option.some.injEq]
          constructor
          · rintro ⟨rfl, rfl⟩
            exact ⟨[], answer, rest, rfl, by simp, decided, rfl⟩
          · rintro ⟨waited, last, later, same, undecided, given, rfl⟩
            cases waited with
            | nil =>
                obtain ⟨rfl, -⟩ := List.cons.inj same
                exact ⟨rfl, Option.some.inj (decided.symm.trans given)⟩
            | cons first others =>
                obtain ⟨rfl, -⟩ := List.cons.inj same
                exact absurd (undecided _ List.mem_cons_self) (by simp [decided])
      | none =>
          simp only [poll, decided, Prod.mk.injEq]
          constructor
          · rintro ⟨rfl, later_decided⟩
            obtain ⟨waited, last, later, rfl, undecided, given, same⟩ :=
              (ih _).mp (Prod.ext rfl later_decided)
            refine ⟨answer :: waited, last, later, rfl, ?_, given, congrArg _ same⟩
            exact List.forall_mem_cons.mpr ⟨decided, undecided⟩
          · rintro ⟨waited, last, later, same, undecided, given, rfl⟩
            cases waited with
            | nil =>
                obtain ⟨rfl, -⟩ := List.cons.inj same
                exact absurd (decided.symm.trans given) (by simp)
            | cons first others =>
                obtain ⟨rfl, rfl⟩ := List.cons.inj same
                have polled := (ih (others ++ [last])).mpr ⟨others, last, later, rfl,
                  (List.forall_mem_cons.mp undecided).2, given, rfl⟩
                exact ⟨by rw [polled]; rfl, by rw [polled]⟩

end ClusterApiForSlinky.Execution
