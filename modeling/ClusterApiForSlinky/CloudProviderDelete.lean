import ClusterApiForSlinky.CloudProviderKind
import ClusterApiForSlinky.Execution

/-!
`delete` of ctlptl/cloud_provider_kind.py, interleaved with what the machine
does: a process ends and frees its pid, a new process takes a free pid, time
passes. `advance` is the next step of `delete`; the comm check and the SIGTERM
directly after it are one step. Times are milliseconds.
-/

namespace ClusterApiForSlinky.CloudProviderDelete
open CloudProviderKind

/-- `fits` is the kernel's limit on the name in /proc/<pid>/comm. -/
structure Process where
  identity : Nat
  comm : String
  signalable : Bool
  fits : comm.length ≤ commMax
  deriving DecidableEq, Repr

inductive Signal where
  | sigterm
  | sigkill
  deriving DecidableEq, Repr

def waitTimeout : Nat := 5000
def pollInterval : Nat := 100

/-- Where `delete` stands; from `looping` to `asleep` it is in `_wait_pid_exit`. -/
inductive Phase where
  | called (id : String)
  | probed (pid : Nat)
  | signalled (pid : Nat)
  | looping (pid deadline : Nat)
  | polling (pid deadline : Nat)
  | asleep (pid deadline wakeAt : Nat)
  | expired (pid : Nat)
  | returned
  | raised
  deriving DecidableEq, Repr

/-- `sent` lists the signals of `delete` with the process each one reached. -/
structure State where
  processes : Nat → Option Process
  clock : Nat
  phase : Phase
  sent : List (Signal × Process)

inductive Event where
  | exits (pid : Nat)
  | spawns (pid : Nat) (process : Process)
  | elapse (time : Nat)
  | advance
  deriving DecidableEq, Repr

def answerOf (processes : Nat → Option Process) (pid : Nat) : KillAnswer :=
  match processes pid with
  | none => .noSuchProcess
  | some process => if process.signalable then .delivered else .notPermitted

def commFile (processes : Nat → Option Process) (pid : Nat) : Option String :=
  (processes pid).map (fun process => process.comm ++ "\n")

/-- `os.kill(pid, signal)`: a missing process ends `delete`, a refusal is raised. -/
def send (signal : Signal) (pid : Nat) (after : Phase) (state : State) : State :=
  match state.processes pid with
  | none => { state with phase := .returned }
  | some process =>
      if process.signalable then
        { state with sent := state.sent ++ [(signal, process)], phase := after }
      else { state with phase := .raised }

def advance (state : State) : State :=
  match state.phase with
  | .called id =>
      match Text.parseInt id with
      | some (.ofNat pid) =>
          if isPidAlive (answerOf state.processes pid) false none then
            { state with phase := .probed pid }
          else { state with phase := .returned }
      -- not an int; a recorded id is no negative one
      | _ => { state with phase := .returned }
  | .probed pid =>
      if commAccepted (commFile state.processes pid) then
        send .sigterm pid (.signalled pid) state
      else { state with phase := .returned }
  | .signalled pid => { state with phase := .looping pid (state.clock + waitTimeout) }
  | .looping pid deadline =>
      if state.clock < deadline then { state with phase := .polling pid deadline }
      else { state with phase := .expired pid }
  | .polling pid deadline =>
      if isPidAlive (answerOf state.processes pid) false none then
        { state with phase := .asleep pid deadline (state.clock + pollInterval) }
      else { state with phase := .returned }
  | .asleep pid deadline wakeAt =>
      if wakeAt ≤ state.clock then { state with phase := .looping pid deadline } else state
  | .expired pid => send .sigkill pid .returned state
  | .returned => state
  | .raised => state

def step (state : State) : Event → State
  | .exits pid => { state with processes := Function.update state.processes pid none }
  | .spawns pid process =>
      -- the kernel hands out a pid nobody holds
      if state.processes pid = none then
        { state with processes := Function.update state.processes pid (some process) }
      else state
  | .elapse time => { state with clock := state.clock + time }
  | .advance => advance state

def start (pid : Nat) (processes : Nat → Option Process) (clock : Nat) : State :=
  { processes := processes, clock := clock, phase := .called (recordedId pid), sent := [] }

/-- Every signal went to a process named cloud-provider-kind. -/
def OnlyDaemon (state : State) : Prop :=
  ∀ delivery ∈ state.sent, delivery.2.comm = expectedComm

/-- Whoever holds the pid when the wait has run out is a cloud-provider-kind, or
out of reach for `delete`. -/
def PidNotTaken (state : State) (event : Event) : Prop :=
  event = .advance → ∀ pid, state.phase = .expired pid →
    ∀ process, state.processes pid = some process → process.signalable = true →
      process.comm = expectedComm

/-- What the check compares is the name itself: nothing of it is cut or stripped. -/
theorem commAccepted_iff (process : Process) :
    commAccepted (some (process.comm ++ "\n")) = true ↔ process.comm = expectedComm := by
  simp only [commAccepted, beq_iff_eq]
  constructor
  · intro stripped
    obtain ⟨before, after, whole⟩ :=
      Text.stripChars_within Text.isSpace (process.comm ++ "\n").toList
    have middle : Text.stripChars Text.isSpace (process.comm ++ "\n").toList =
        expectedComm.toList := by
      rw [← stripped, Text.strip, String.toList_ofList]
    rw [middle, String.toList_append] at whole
    have size := congrArg List.length whole
    have limit := process.fits
    have fifteen : expectedComm.toList.length = 15 := by decide
    rw [← String.length_toList] at limit
    simp only [List.length_append, fifteen, show "\n".toList.length = 1 by decide,
      commMax] at size limit
    -- the newline is not part of the name, so it is what comes after it
    have last : after ≠ [] := by
      intro empty
      subst empty
      have ends := congrArg List.getLast? whole
      rw [List.append_nil, List.getLast?_append, List.getLast?_append,
        show expectedComm.toList.getLast? = some '-' by decide,
        show "\n".toList.getLast? = some '\n' by decide] at ends
      simp at ends
    have ends : after.length = 1 ∧ before.length = 0 := by
      have := List.length_pos_iff.mpr last
      omega
    have nothing := List.length_eq_zero_iff.mp ends.2
    subst nothing
    rw [List.nil_append] at whole
    exact String.toList_inj.mp (List.append_inj_left' whole (by simp [ends.1])).symm
  · intro same
    rw [same]
    decide

theorem send_only_daemon (signal : Signal) (pid : Nat) (after : Phase) (state : State) :
    OnlyDaemon (send signal pid after state) ↔
      OnlyDaemon state ∧ ∀ process, state.processes pid = some process →
        process.signalable = true → process.comm = expectedComm := by
  unfold send
  cases held : state.processes pid with
  | none => simp [OnlyDaemon]
  | some process =>
      cases reach : process.signalable with
      | false => simp [OnlyDaemon, reach]
      | true => simp [OnlyDaemon, reach, or_imp, forall_and]

/-- A step adds a signal to a foreign process only where the wait has run out. -/
theorem step_only_daemon (state : State) (event : Event) :
    OnlyDaemon (step state event) ↔ OnlyDaemon state ∧ PidNotTaken state event := by
  cases event with
  | exits pid => simp [step, OnlyDaemon, PidNotTaken]
  | elapse time => simp [step, OnlyDaemon, PidNotTaken]
  | spawns pid process =>
      by_cases free : state.processes pid = none
      · simp [step, free, OnlyDaemon, PidNotTaken]
      · simp [step, free, PidNotTaken]
  | advance =>
      simp only [step, advance, PidNotTaken, true_implies]
      split
      case h_1 id current =>
        simp only [current, reduceCtorEq, false_implies, implies_true, and_true]
        split
        · split <;> exact Iff.rfl
        · exact Iff.rfl
      case h_2 pid current =>
        simp only [current, reduceCtorEq, false_implies, implies_true, and_true]
        split
        case isTrue accepted =>
          rw [send_only_daemon]
          constructor
          · exact And.left
          · intro holds
            refine ⟨holds, ?_⟩
            intro process held _
            rw [commFile, held] at accepted
            exact (commAccepted_iff process).mp accepted
        case isFalse => exact Iff.rfl
      case h_3 pid current =>
        simp only [current, reduceCtorEq, false_implies, implies_true, and_true]
        exact Iff.rfl
      case h_4 pid deadline current =>
        simp only [current, reduceCtorEq, false_implies, implies_true, and_true]
        split <;> exact Iff.rfl
      case h_5 pid deadline current =>
        simp only [current, reduceCtorEq, false_implies, implies_true, and_true]
        split <;> exact Iff.rfl
      case h_6 pid deadline wakeAt current =>
        simp only [current, reduceCtorEq, false_implies, implies_true, and_true]
        split <;> exact Iff.rfl
      case h_7 pid current =>
        rw [send_only_daemon]
        simp [current]
      case h_8 current => simp [current]
      case h_9 current => simp [current]

theorem delete_signals_daemon_iff (pid : Nat) (processes : Nat → Option Process) (clock : Nat)
    (events : List Event) :
    OnlyDaemon (Execution.run step (start pid processes clock) events) ↔
      Execution.Guarded step PidNotTaken (start pid processes clock) events := by
  rw [Execution.run_iff_guarded step PidNotTaken OnlyDaemon step_only_daemon]
  simp [OnlyDaemon, start]

/-! When the condition is met: nobody else takes the pid. -/

/-- The pid a phase works on. -/
def Phase.pid : Phase → Option Nat
  | .called id =>
      match Text.parseInt id with
      | some (.ofNat pid) => some pid
      | _ => none
  | .probed pid => some pid
  | .signalled pid => some pid
  | .looping pid _ => some pid
  | .polling pid _ => some pid
  | .asleep pid _ _ => some pid
  | .expired pid => some pid
  | .returned => none
  | .raised => none

/-- From the comm check on, nobody but a cloud-provider-kind holds the pid. -/
def Checked : Phase → Prop
  | .called _ => False
  | .probed _ => False
  | .returned => False
  | .raised => False
  | _ => True

structure Kept (pid : Nat) (state : State) : Prop where
  same : ∀ other, state.phase.pid = some other → other = pid
  daemon : Checked state.phase → ∀ process, state.processes pid = some process →
    process.comm = expectedComm

/-- The event does not give the pid to a foreign process. -/
def NotReused (pid : Nat) (_ : State) (event : Event) : Prop :=
  ∀ process, event = .spawns pid process → process.comm = expectedComm

theorem send_kept (signal : Signal) (pid : Nat) (after : Phase) (state : State)
    (same : ∀ other, after.pid = some other → other = pid)
    (daemon : Checked after → ∀ process, state.processes pid = some process →
      process.comm = expectedComm) :
    Kept pid (send signal pid after state) := by
  unfold send
  cases held : state.processes pid with
  | none => exact ⟨(fun _ absent => nomatch absent), False.elim⟩
  | some process =>
      by_cases reach : process.signalable = true
      · simp only [reach, if_true]
        exact ⟨same, daemon⟩
      · simp only [reach]
        exact ⟨(fun _ absent => nomatch absent), False.elim⟩

theorem returned_kept (pid : Nat) (state : State) :
    Kept pid { state with phase := .returned } :=
  ⟨(fun _ absent => nomatch absent), False.elim⟩

theorem advance_kept (pid : Nat) (state : State) (kept : Kept pid state) :
    Kept pid (advance state) := by
  obtain ⟨same, daemon⟩ := id kept
  unfold advance
  cases current : state.phase with
  | called id =>
      rw [current] at same
      dsimp only
      split
      case h_1 other parsed =>
        split
        · have equal := same other (by simp [Phase.pid, parsed])
          subst equal
          exact ⟨fun _ found => (Option.some.inj found).symm, False.elim⟩
        · exact returned_kept pid state
      case h_2 => exact returned_kept pid state
  | probed other =>
      rw [current] at same
      obtain rfl := same other rfl
      dsimp only
      split
      case isTrue accepted =>
        refine send_kept .sigterm other _ state (fun _ found => (Option.some.inj found).symm) ?_
        intro _ process held
        rw [commFile, held] at accepted
        exact (commAccepted_iff process).mp accepted
      case isFalse => exact returned_kept other state
  | signalled other =>
      rw [current] at same daemon
      exact ⟨same, daemon⟩
  | looping other deadline =>
      rw [current] at same daemon
      dsimp only
      split
      · exact ⟨same, daemon⟩
      · exact ⟨same, daemon⟩
  | polling other deadline =>
      rw [current] at same daemon
      dsimp only
      split
      · exact ⟨same, daemon⟩
      · exact returned_kept pid state
  | asleep other deadline wakeAt =>
      rw [current] at same daemon
      dsimp only
      split
      · exact ⟨same, daemon⟩
      · exact kept
  | expired other =>
      rw [current] at same
      obtain rfl := same other rfl
      exact send_kept .sigkill other _ state (fun _ absent => nomatch absent) False.elim
  | returned => exact kept
  | raised => exact kept

theorem step_kept (pid : Nat) (state : State) (event : Event) (kept : Kept pid state)
    (owned : NotReused pid state event) : Kept pid (step state event) := by
  cases event with
  | advance => exact advance_kept pid state kept
  | elapse time => exact ⟨kept.same, kept.daemon⟩
  | exits ended =>
      refine ⟨kept.same, ?_⟩
      intro checked process held
      by_cases here : pid = ended
      · subst here
        simp [step] at held
      · exact kept.daemon checked process (by simpa [step, here] using held)
  | spawns taken new =>
      by_cases free : state.processes taken = none
      · rw [step, if_pos free]
        refine ⟨kept.same, ?_⟩
        intro checked process held
        by_cases here : pid = taken
        · subst here
          have equal : new = process := by simpa using held
          exact equal ▸ owned new rfl
        · exact kept.daemon checked process (by simpa [here] using held)
      · rwa [step, if_neg free]

/-- Without reuse of the pid by another program `delete` is safe. -/
theorem not_reused_only_daemon (pid : Nat) (processes : Nat → Option Process) (clock : Nat)
    (events : List Event)
    (owned : Execution.Guarded step (NotReused pid) (start pid processes clock) events) :
    OnlyDaemon (Execution.run step (start pid processes clock) events) := by
  rw [Execution.run_iff_guarded step PidNotTaken OnlyDaemon step_only_daemon]
  refine ⟨by simp [OnlyDaemon, start], ?_⟩
  refine Execution.guarded_of_invariant step (NotReused pid) PidNotTaken (Kept pid)
    (step_kept pid) ?_ _ events ⟨?_, False.elim⟩ owned
  · intro state event kept _ _ other current process held _
    have equal := kept.same other (by rw [current]; rfl)
    subst equal
    exact kept.daemon (by rw [current]; trivial) process held
  · intro other found
    simp only [start, Phase.pid, recordedId, Text.parseInt_decimal] at found
    exact (Option.some.inj found).symm

def daemon : Process := ⟨1, "cloud-provider-", true, by decide⟩
def editor : Process := ⟨2, "vim", true, by decide⟩

/-- The daemon ends during the grace period, an editor gets its pid and is still
there when the five seconds are over. -/
def reuseRun : List Event :=
  [.advance, .advance, .advance, .exits 4711, .spawns 4711 editor, .elapse 5000, .advance, .advance]

theorem reuse_kills_editor :
    (Execution.run step (start 4711 (fun pid => if pid = 4711 then some daemon else none) 0)
      reuseRun).sent = [(.sigterm, daemon), (.sigkill, editor)] ∧
    ¬OnlyDaemon (Execution.run step
      (start 4711 (fun pid => if pid = 4711 then some daemon else none) 0) reuseRun) := by
  have sent : (Execution.run step
      (start 4711 (fun pid => if pid = 4711 then some daemon else none) 0) reuseRun).sent =
        [(.sigterm, daemon), (.sigkill, editor)] := by decide
  refine ⟨sent, ?_⟩
  intro only
  rw [OnlyDaemon, sent] at only
  exact absurd (only (.sigkill, editor) (by decide)) (by decide)

end ClusterApiForSlinky.CloudProviderDelete
