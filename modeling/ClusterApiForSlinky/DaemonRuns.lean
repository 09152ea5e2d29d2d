import ClusterApiForSlinky.CloudProviderDelete

/-!
The life of the CloudProviderKind resource over many commands: `check`, `diff`,
`create`, `read` and `delete` of ctlptl/cloud_provider_kind.py as `pulumi up`,
`refresh` and `destroy` call them, with the machine going on meanwhile. A
replacement creates first and deletes afterwards; a deletion that did not come
to its end is taken up again by a later command.
-/

namespace ClusterApiForSlinky.DaemonRuns
open CloudProviderKind CloudProviderDelete

/-- Only the flag decides about a replacement; state of an earlier release has none. -/
structure Recorded where
  id : String
  enableLbPortMapping : Option Bool
  deriving DecidableEq, Repr

/-- `daemons` are the identities of the processes that `create` has started. -/
structure World where
  processes : Nat → Option Process
  clock : Nat
  resource : Option Recorded
  pending : List String
  daemons : List Nat

inductive Op where
  | machine (event : Event)
  | reboot
  | up (host : Host) (news : Option Bool) (identity : Nat)
  | refresh
  | destroy (events : List Event)
  | deletePending (id : String) (events : List Event)

/-- `check` passes its inputs on. -/
def check (news : Option Bool) : Option Bool := news

def diff (olds news : Option Bool) : List String :=
  match olds with
  | none => ["enable_lb_port_mapping"]
  | some oldFlag => if oldFlag ≠ news.getD true then ["enable_lb_port_mapping"] else []

def read (processes : Nat → Option Process) (recorded : Recorded) : Option Recorded :=
  match Text.parseInt recorded.id with
  | some (.ofNat pid) =>
      if isPidAlive (answerOf processes pid) true (commFile processes pid) then some recorded
      else none
  | _ => none

/-- The process `create` starts; the kernel cuts its name to fifteen characters. -/
def daemonProcess (identity : Nat) : Process :=
  ⟨identity, expectedComm, true, by decide⟩

def create (world : World) (host : Host) (news : Option Bool) (identity : Nat) : World :=
  match spawned host news with
  | .error _ => world
  | .ok (_, child) =>
      let started := { world with
        processes := Function.update world.processes child.pid (some (daemonProcess identity))
        daemons := identity :: world.daemons }
      match (CloudProviderKind.create host news).2 with
      | .error _ => started
      | .ok result => { started with
          resource := some ⟨result.id, some result.enableLbPortMapping⟩
          pending := world.pending ++ (world.resource.map Recorded.id).toList }

def up (world : World) (host : Host) (news : Option Bool) (identity : Nat) : World :=
  match world.resource with
  | none => create world host (check news) identity
  | some recorded =>
      if diff recorded.enableLbPortMapping (check news) = [] then world
      else create world host (check news) identity

/-- A process that got a SIGKILL is gone. -/
def survivors (ended : State) : Nat → Option Process :=
  fun pid => (ended.processes pid).filter (fun process => (.sigkill, process) ∉ ended.sent)

def called (world : World) (id : String) : State :=
  { processes := world.processes, clock := world.clock, phase := .called id, sent := [] }

/-- `delete` on an id with the machine's events between its steps. -/
def delete (world : World) (id : String) (events : List Event) : World × Phase :=
  let ended := Execution.run CloudProviderDelete.step (called world id) events
  ({ world with processes := survivors ended, clock := ended.clock }, ended.phase)

def destroy (world : World) (events : List Event) : World :=
  match world.resource with
  | none => world
  | some recorded =>
      let deleted := delete world recorded.id events
      if deleted.2 = .returned then { deleted.1 with resource := none } else deleted.1

def deletePending (world : World) (id : String) (events : List Event) : World :=
  if id ∈ world.pending then
    let deleted := delete world id events
    if deleted.2 = .returned then { deleted.1 with pending := world.pending.erase id }
    else deleted.1
  else world

def machine (world : World) (event : Event) : World :=
  let after := CloudProviderDelete.step { called world "" with phase := .returned } event
  { world with processes := after.processes, clock := after.clock }

def step (world : World) : Op → World
  | .machine event => machine world event
  | .reboot => { world with processes := fun _ => none }
  | .up host news identity => up world host news identity
  | .refresh => { world with resource := world.resource.bind (read world.processes) }
  | .destroy events => destroy world events
  | .deletePending id events => deletePending world id events

/-- A process the machine starts is none of ours. -/
def Foreign (daemons : List Nat) (event : Event) : Prop :=
  ∀ pid process, event = .spawns pid process → process.identity ∉ daemons

/-- The kernel gives a new daemon a free pid, and no two processes are the same. -/
structure Fresh (world : World) (host : Host) (news : Option Bool) (identity : Nat) : Prop where
  free : ∀ binary child, spawned host news = .ok (binary, child) →
    world.processes child.pid = none
  unseen : ∀ pid process, world.processes pid = some process → process.identity ≠ identity
  unused : identity ∉ world.daemons

def Admitted (world : World) : Op → Prop
  | .machine event => Foreign world.daemons event
  | .reboot => True
  | .up host news identity => Fresh world host news identity
  | .refresh => True
  | .destroy events => ∀ event ∈ events, Foreign world.daemons event
  | .deletePending _ events => ∀ event ∈ events, Foreign world.daemons event

/-- The ids that a later command still deletes. -/
def World.ids (world : World) : List String :=
  (world.resource.map Recorded.id).toList ++ world.pending

/-- Process `process` holds `pid` and was started by `create`. -/
def Running (world : World) (pid : Nat) (process : Process) : Prop :=
  world.processes pid = some process ∧ process.identity ∈ world.daemons

structure Accounted (world : World) : Prop where
  recorded : ∀ pid process, Running world pid process → recordedId pid ∈ world.ids
  daemon : ∀ pid process, Running world pid process →
    process.comm = expectedComm ∧ process.signalable = true

/-! One call of `delete`, whatever the machine does during it. -/

theorem alive_of_daemon (processes : Nat → Option Process) (pid : Nat) (process : Process)
    (held : processes pid = some process) (signalable : process.signalable = true) :
    isPidAlive (answerOf processes pid) false none = true := by
  simp [isPidAlive, answerOf, held, signalable]

theorem accepted_of_daemon (processes : Nat → Option Process) (pid : Nat) (process : Process)
    (held : processes pid = some process) (named : process.comm = expectedComm) :
    commAccepted (commFile processes pid) = true := by
  rw [commFile, held]
  exact (commAccepted_iff process).mpr named

/-- What a call of `delete` on `id` has done to the daemons that were there before. -/
structure Followed (daemons : List Nat) (before : Nat → Option Process) (id : String)
    (state : State) : Prop where
  old : ∀ pid process, state.processes pid = some process → process.identity ∈ daemons →
    before pid = some process
  asked : ∀ other, state.phase = .called other → other = id
  works : ∀ pid other, id = recordedId pid → state.phase.pid = some other → other = pid
  gone : state.phase = .returned → ∀ pid, id = recordedId pid → ∀ process,
    state.processes pid = some process → process.identity ∈ daemons →
    (.sigkill, process) ∈ state.sent

/-- Every daemon answers to its signals under its own name. -/
def Reachable (daemons : List Nat) (processes : Nat → Option Process) : Prop :=
  ∀ pid process, processes pid = some process → process.identity ∈ daemons →
    process.comm = expectedComm ∧ process.signalable = true

/-- The phases between the first probe and the end of the call. -/
def underWay : Phase → Bool
  | .called _ => false
  | .returned => false
  | _ => true

section DeleteCall

variable (daemons : List Nat) (before : Nat → Option Process) (id : String)

/-- The call goes on: no process changes and the phase still works on the pid. -/
theorem Followed.goesOn {state : State} (followed : Followed daemons before id state)
    (phase : Phase) (going : underWay phase = true) (same : phase.pid = state.phase.pid) :
    Followed daemons before id { state with phase := phase } := by
  constructor
  · exact followed.old
  · intro other called
    rw [show phase = .called other from called] at going
    cases going
  · intro pid other named works
    exact followed.works pid other named (same ▸ works)
  · intro returned
    rw [show phase = .returned from returned] at going
    cases going

/-- The call ends because no daemon holds the pid. -/
theorem Followed.ends {state : State} (followed : Followed daemons before id state)
    (vacant : ∀ pid, id = recordedId pid → ∀ process, state.processes pid = some process →
      process.identity ∈ daemons → False) :
    Followed daemons before id { state with phase := .returned } := by
  constructor
  · exact followed.old
  · intro other called
    cases called
  · intro pid other _ works
    cases works
  · intro _ pid named process held ours
    exact absurd (vacant pid named process held ours) not_false

theorem Followed.raises {state : State} (followed : Followed daemons before id state) :
    Followed daemons before id { state with phase := .raised } := by
  constructor
  · exact followed.old
  · intro other called
    cases called
  · intro pid other _ works
    cases works
  · intro returned
    cases returned

/-- A phase works on one pid: that this pid holds no daemon is all there is to show. -/
theorem Followed.endsAt {state : State} (followed : Followed daemons before id state) (pid : Nat)
    (works : state.phase.pid = some pid)
    (vacant : ∀ process, state.processes pid = some process → process.identity ∈ daemons → False) :
    Followed daemons before id { state with phase := .returned } := by
  refine followed.ends daemons before id ?_
  intro named same process held ours
  obtain rfl := followed.works named pid same works
  exact vacant process held ours

/-- A signal ends the call at an empty pid, is refused, or reaches the holder of the pid. -/
theorem send_followed (signal : Signal) (pid : Nat) (after : Phase) (state : State)
    (followed : Followed daemons before id state) (works : state.phase.pid = some pid)
    (sent : ∀ process, state.processes pid = some process →
      Followed daemons before id
        { state with sent := state.sent ++ [(signal, process)], phase := after }) :
    Followed daemons before id (send signal pid after state) := by
  unfold send
  cases held : state.processes pid with
  | none =>
      refine followed.endsAt daemons before id pid works ?_
      intro process same
      rw [held] at same
      cases same
  | some process =>
      dsimp only
      split
      · exact sent process held
      · exact followed.raises daemons before id

theorem advance_followed (state : State) (reachable : Reachable daemons before)
    (followed : Followed daemons before id state) :
    Followed daemons before id (advance state) := by
  have answers : ∀ pid process, state.processes pid = some process →
      process.identity ∈ daemons → process.comm = expectedComm ∧ process.signalable = true :=
    fun pid process held ours => reachable pid process (followed.old pid process held ours) ours
  unfold advance
  cases current : state.phase with
  | called other =>
      obtain rfl := followed.asked other current
      dsimp only
      split
      case h_1 pid parsed =>
        have works : state.phase.pid = some pid := by simp [current, Phase.pid, parsed]
        split
        case isTrue => exact followed.goesOn daemons before other _ rfl works.symm
        case isFalse silent =>
          refine followed.endsAt daemons before other pid works ?_
          intro process held ours
          exact silent (alive_of_daemon _ _ process held (answers pid process held ours).2)
      case h_2 unread =>
        refine followed.ends daemons before other ?_
        intro pid same
        exact absurd (same ▸ Text.parseInt_decimal pid) (unread pid)
  | probed pid =>
      have works : state.phase.pid = some pid := by rw [current]; rfl
      dsimp only
      split
      case isTrue =>
        refine send_followed daemons before id .sigterm pid _ state followed works ?_
        intro process held
        have goes := followed.goesOn daemons before id (.signalled pid) rfl works.symm
        refine ⟨goes.old, goes.asked, goes.works, ?_⟩
        intro returned
        cases returned
      case isFalse other =>
        refine followed.endsAt daemons before id pid works ?_
        intro process held ours
        exact other (accepted_of_daemon _ _ process held (answers pid process held ours).1)
  | signalled pid =>
      exact followed.goesOn daemons before id _ rfl (by rw [current]; rfl)
  | looping pid deadline =>
      have works : state.phase.pid = some pid := by rw [current]; rfl
      dsimp only
      split
      · exact followed.goesOn daemons before id _ rfl works.symm
      · exact followed.goesOn daemons before id _ rfl works.symm
  | polling pid deadline =>
      have works : state.phase.pid = some pid := by rw [current]; rfl
      dsimp only
      split
      case isTrue => exact followed.goesOn daemons before id _ rfl works.symm
      case isFalse silent =>
        refine followed.endsAt daemons before id pid works ?_
        intro process held ours
        exact silent (alive_of_daemon _ _ process held (answers pid process held ours).2)
  | asleep pid deadline wakeAt =>
      have works : state.phase.pid = some pid := by rw [current]; rfl
      dsimp only
      split
      · exact followed.goesOn daemons before id _ rfl works.symm
      · exact followed
  | expired pid =>
      have works : state.phase.pid = some pid := by rw [current]; rfl
      refine send_followed daemons before id .sigkill pid _ state followed works ?_
      intro process held
      constructor
      · exact followed.old
      · intro other called
        cases called
      · intro named other _ working
        cases working
      · intro _ named same other there _
        -- the SIGKILL went to whoever holds the pid
        obtain rfl := followed.works named pid same works
        obtain rfl := Option.some.inj (held.symm.trans there)
        exact List.mem_append_right _ List.mem_cons_self
  | returned => exact followed
  | raised => exact followed

theorem send_processes (signal : Signal) (pid : Nat) (after : Phase) (state : State) :
    (send signal pid after state).processes = state.processes := by
  unfold send
  split
  · rfl
  · split <;> rfl

theorem advance_processes (state : State) : (advance state).processes = state.processes := by
  unfold advance
  split
  case h_1 =>
    split
    · split <;> rfl
    · rfl
  case h_2 =>
    split
    · exact send_processes _ _ _ state
    · rfl
  case h_7 => exact send_processes _ _ _ state
  all_goals first | rfl | (split <;> rfl)

/-- What happens on the machine starts no daemon. -/
theorem event_starts_none (state : State) (event : Event) (foreign : Foreign daemons event)
    (pid : Nat) (process : Process)
    (held : (CloudProviderDelete.step state event).processes pid = some process)
    (ours : process.identity ∈ daemons) : state.processes pid = some process := by
  cases event with
  | advance => rwa [CloudProviderDelete.step, advance_processes] at held
  | elapse time => exact held
  | exits ended =>
      by_cases here : pid = ended
      · subst here
        simp [CloudProviderDelete.step] at held
      · simpa [CloudProviderDelete.step, here] using held
  | spawns taken new =>
      by_cases free : state.processes taken = none
      · rw [CloudProviderDelete.step, if_pos free] at held
        by_cases here : pid = taken
        · subst here
          obtain rfl : new = process := by simpa using held
          exact absurd ours (foreign pid new rfl)
        · simpa [here] using held
      · rwa [CloudProviderDelete.step, if_neg free] at held

theorem step_followed (state : State) (event : Event) (reachable : Reachable daemons before)
    (followed : Followed daemons before id state) (foreign : Foreign daemons event) :
    Followed daemons before id (CloudProviderDelete.step state event) := by
  have kept := event_starts_none daemons state event foreign
  -- between two steps of `delete` only processes and the clock change
  have frame : ∀ after : State, after.phase = state.phase → after.sent = state.sent →
      (∀ pid process, after.processes pid = some process → process.identity ∈ daemons →
        state.processes pid = some process) → Followed daemons before id after := by
    rintro ⟨processes, clock, _, _⟩ rfl rfl fewer
    constructor
    · exact fun pid process held ours => followed.old pid process (fewer pid process held ours) ours
    · exact followed.asked
    · exact followed.works
    · exact fun returned pid named process held ours =>
        followed.gone returned pid named process (fewer pid process held ours) ours
  cases event with
  | advance => exact advance_followed daemons before id state reachable followed
  | elapse time => exact frame _ rfl rfl kept
  | exits ended => exact frame _ rfl rfl kept
  | spawns taken new =>
      by_cases free : state.processes taken = none
      · rw [CloudProviderDelete.step, if_pos free] at kept ⊢
        exact frame _ rfl rfl kept
      · rwa [CloudProviderDelete.step, if_neg free]

theorem run_followed (state : State) (events : List Event) (reachable : Reachable daemons before)
    (followed : Followed daemons before id state)
    (foreign : ∀ event ∈ events, Foreign daemons event) :
    Followed daemons before id (Execution.run CloudProviderDelete.step state events) := by
  apply Execution.legal_invariant CloudProviderDelete.step (Foreign daemons)
    (Followed daemons before id) _ state events foreign followed
  intro state event followed own
  exact step_followed daemons before id state event reachable followed own

end DeleteCall

/-! One command. -/

theorem recordedId_injective (pid other : Nat) (same : recordedId pid = recordedId other) :
    pid = other := by
  have read := congrArg Text.parseInt same
  rw [recordedId, recordedId, Text.parseInt_decimal, Text.parseInt_decimal] at read
  exact Int.ofNat.inj (Option.some.inj read)

theorem survivors_some (ended : State) (pid : Nat) (process : Process) :
    survivors ended pid = some process ↔
      ended.processes pid = some process ∧ (.sigkill, process) ∉ ended.sent := by
  simp [survivors, Option.filter_eq_some_iff]

theorem called_followed (world : World) (id : String) :
    Followed world.daemons world.processes id (called world id) := by
  constructor
  · exact fun _ _ held _ => held
  · exact fun other same => (Phase.called.inj same).symm
  · intro pid other named works
    simp only [called, Phase.pid, named, recordedId, Text.parseInt_decimal] at works
    exact (Option.some.inj works).symm
  · intro returned
    cases returned

/-- A deletion starts no daemon, and one that returns has ended the daemon of its id. -/
theorem delete_spec (world : World) (id : String) (events : List Event)
    (accounted : Accounted world) (foreign : ∀ event ∈ events, Foreign world.daemons event) :
    (∀ pid process, Running (delete world id events).1 pid process →
      Running world pid process) ∧
    ((delete world id events).2 = .returned → ∀ pid, id = recordedId pid → ∀ process,
      ¬Running (delete world id events).1 pid process) := by
  have followed := run_followed world.daemons world.processes id (called world id) events
    (fun pid process held ours => accounted.daemon pid process ⟨held, ours⟩)
    (called_followed world id) foreign
  constructor
  · rintro pid process ⟨survived, ours⟩
    have held := (survivors_some _ pid process).mp survived
    exact ⟨followed.old pid process held.1 ours, ours⟩
  · rintro returned pid named process ⟨survived, ours⟩
    have held := (survivors_some _ pid process).mp survived
    exact held.2 (followed.gone returned pid named process held.1 ours)

/-- Nothing starts and no id is dropped but one whose daemon is gone. -/
theorem Accounted.shrinks {world : World} (accounted : Accounted world) (after : World)
    (fewer : ∀ pid process, Running after pid process → Running world pid process)
    (kept : ∀ pid process, Running after pid process → recordedId pid ∈ world.ids →
      recordedId pid ∈ after.ids) : Accounted after := by
  constructor
  · intro pid process running
    exact kept pid process running (accounted.recorded pid process (fewer pid process running))
  · intro pid process running
    exact accounted.daemon pid process (fewer pid process running)

theorem machine_accounted (world : World) (event : Event) (accounted : Accounted world)
    (foreign : Foreign world.daemons event) : Accounted (machine world event) := by
  refine accounted.shrinks _ ?_ (fun _ _ _ listed => listed)
  rintro pid process ⟨held, ours⟩
  exact ⟨event_starts_none world.daemons _ event foreign pid process held ours, ours⟩

theorem create_accounted (world : World) (host : Host) (news : Option Bool) (identity : Nat)
    (accounted : Accounted world) (fresh : Fresh world host news identity) :
    Accounted (create world host news identity) := by
  unfold create
  cases start : spawned host news with
  | error failure => exact accounted
  | ok pair =>
      obtain ⟨binary, child⟩ := pair
      have created := (create_ok_iff host news _).mpr ⟨binary, child, start, rfl⟩
      simp only [created]
      -- a daemon is the new one or one that was there
      have newOrOld : ∀ pid process,
          Function.update world.processes child.pid (some (daemonProcess identity)) pid =
            some process → process.identity ∈ identity :: world.daemons →
          (pid = child.pid ∧ process = daemonProcess identity) ∨ Running world pid process := by
        intro pid process held ours
        by_cases here : pid = child.pid
        · subst here
          exact Or.inl ⟨rfl, by simpa using held.symm⟩
        · have there : world.processes pid = some process := by simpa [here] using held
          rcases List.mem_cons.mp ours with same | old
          · exact absurd same (fresh.unseen pid process there)
          · exact Or.inr ⟨there, old⟩
      constructor
      · rintro pid process ⟨held, ours⟩
        rcases newOrOld pid process held ours with ⟨rfl, _⟩ | running
        · exact List.mem_cons_self
        · apply List.mem_append_right
          rcases List.mem_append.mp (accounted.recorded pid process running) with old | waiting
          · exact List.mem_append_right _ old
          · exact List.mem_append_left _ waiting
      · rintro pid process ⟨held, ours⟩
        rcases newOrOld pid process held ours with ⟨_, rfl⟩ | running
        · exact ⟨rfl, rfl⟩
        · exact accounted.daemon pid process running

theorem up_accounted (world : World) (host : Host) (news : Option Bool) (identity : Nat)
    (accounted : Accounted world) (fresh : Fresh world host news identity) :
    Accounted (up world host news identity) := by
  unfold up
  cases world.resource with
  | none => exact create_accounted world host news identity accounted fresh
  | some recorded =>
      dsimp only
      split
      · exact accounted
      · exact create_accounted world host news identity accounted fresh

/-- `read` gives up a resource only when its pid holds no daemon. -/
theorem refresh_accounted (world : World) (accounted : Accounted world) :
    Accounted { world with resource := world.resource.bind (read world.processes) } := by
  refine accounted.shrinks _ (fun _ _ running => running) ?_
  intro pid process running listed
  rcases List.mem_append.mp listed with current | waiting
  · obtain ⟨recorded, present, same⟩ : ∃ recorded, world.resource = some recorded ∧
        recorded.id = recordedId pid := by
      simpa using current
    have daemon := accounted.daemon pid process running
    have alive : isPidAlive (answerOf world.processes pid) true (commFile world.processes pid) =
        true := by
      have held : world.processes pid = some process := running.1
      simp [isPidAlive, answerOf, held, daemon.2,
        accepted_of_daemon world.processes pid process held daemon.1]
    have stays : read world.processes recorded = some recorded := by
      rw [read, same, recordedId, Text.parseInt_decimal]
      exact if_pos alive
    simp [World.ids, present, stays, same]
  · exact List.mem_append_right _ waiting

theorem destroy_accounted (world : World) (events : List Event) (accounted : Accounted world)
    (foreign : ∀ event ∈ events, Foreign world.daemons event) :
    Accounted (destroy world events) := by
  unfold destroy
  cases present : world.resource with
  | none => exact accounted
  | some recorded =>
      have spec := delete_spec world recorded.id events accounted foreign
      dsimp only
      split
      case isTrue returned =>
        refine accounted.shrinks _ spec.1 ?_
        intro pid process running listed
        rcases List.mem_append.mp listed with current | waiting
        · have same : recorded.id = recordedId pid := by simpa [present, eq_comm] using current
          exact absurd running (spec.2 returned pid same process)
        · exact List.mem_append_right _ waiting
      case isFalse => exact accounted.shrinks _ spec.1 (fun _ _ _ listed => listed)

theorem deletePending_accounted (world : World) (id : String) (events : List Event)
    (accounted : Accounted world) (foreign : ∀ event ∈ events, Foreign world.daemons event) :
    Accounted (deletePending world id events) := by
  unfold deletePending
  have spec := delete_spec world id events accounted foreign
  split
  · dsimp only
    split
    case isTrue returned =>
      refine accounted.shrinks _ spec.1 ?_
      intro pid process running listed
      rcases List.mem_append.mp listed with current | waiting
      · exact List.mem_append_left _ current
      · by_cases same : id = recordedId pid
        · exact absurd running (spec.2 returned pid same process)
        · exact List.mem_append_right _ ((List.mem_erase_of_ne (Ne.symm same)).mpr waiting)
    case isFalse => exact accounted.shrinks _ spec.1 (fun _ _ _ listed => listed)
  · exact accounted

theorem step_accounted (world : World) (op : Op) (accounted : Accounted world)
    (admitted : Admitted world op) : Accounted (step world op) := by
  cases op with
  | machine event => exact machine_accounted world event accounted admitted
  | reboot =>
      refine accounted.shrinks _ ?_ (fun _ _ _ listed => listed)
      rintro pid process ⟨held, _⟩
      cases held
  | up host news identity => exact up_accounted world host news identity accounted admitted
  | refresh => exact refresh_accounted world accounted
  | destroy events => exact destroy_accounted world events accounted admitted
  | deletePending id events => exact deletePending_accounted world id events accounted admitted

theorem Accounted.at_most_one {world : World} (accounted : Accounted world)
    (settled : world.pending = []) (pid other : Nat) (process second : Process)
    (running : Running world pid process) (runs : Running world other second) :
    pid = other ∧ process = second := by
  have first : recordedId pid ∈ world.resource.map Recorded.id := by
    simpa [World.ids, settled] using accounted.recorded pid process running
  have latter : recordedId other ∈ world.resource.map Recorded.id := by
    simpa [World.ids, settled] using accounted.recorded other second runs
  obtain rfl := recordedId_injective pid other (Option.mem_unique first latter)
  exact ⟨rfl, Option.some.inj (running.1.symm.trans runs.1)⟩

theorem Accounted.none_left {world : World} (accounted : Accounted world)
    (settled : world.pending = []) (gone : world.resource = none) (pid : Nat)
    (process : Process) : ¬Running world pid process := by
  intro running
  have listed := accounted.recorded pid process running
  simp [World.ids, settled, gone] at listed

/-- No daemon is ever lost: one that runs is recorded or still to be deleted, so at most one
runs when nothing is left to delete, and none when the resource is gone as well. -/
theorem no_daemon_lost (start : World) (ops : List Op) (noneYet : start.daemons = [])
    (admitted : Execution.Guarded step Admitted start ops) :
    let world := Execution.run step start ops
    (∀ pid process, Running world pid process → recordedId pid ∈ world.ids) ∧
    (world.pending = [] → ∀ pid other process second, Running world pid process →
      Running world other second → pid = other ∧ process = second) ∧
    (world.pending = [] → world.resource = none → ∀ pid process, ¬Running world pid process) := by
  have idle : ∀ pid process, ¬Running start pid process := by
    rintro pid process ⟨_, ours⟩
    rw [noneYet] at ours
    cases ours
  have initial : Accounted start :=
    ⟨fun pid process running => absurd running (idle pid process),
      fun pid process running => absurd running (idle pid process)⟩
  have accounted := Execution.guarded_invariant step Admitted Accounted step_accounted start ops
    initial admitted
  intro world
  exact ⟨accounted.recorded, accounted.at_most_one, accounted.none_left⟩

/-- A machine with the binary on its PATH, whose next free pid is `pid`. -/
def hostAt (pid : Nat) : Host :=
  { which := fun name => if name = "cloud-provider-kind" then some "/usr/bin/cloud-provider-kind"
      else none
    isRoot := true, system := "Linux", run := fun _ => none, jsonLoads := fun _ => none
    stateDir := "/work/.state", openLog := .ok (), popen := fun _ => .ok ⟨pid, none⟩
    lag := 0, logText := none }

def emptyWorld : World :=
  { processes := fun _ => none, clock := 0, resource := none, pending := [], daemons := [] }

/-- An up, a change of the flag whose deletion is cut short, and a later one that
kills the old daemon after five seconds. -/
def replacement : List Op :=
  [.up (hostAt 100) (some true) 1, .up (hostAt 200) (some false) 2,
    .deletePending "100" [.advance, .advance],
    .deletePending "100" [.advance, .advance, .advance, .elapse 5000, .advance, .advance]]

theorem hostAt_fresh (world : World) (pid identity : Nat) (news : Option Bool)
    (free : world.processes pid = none)
    (unseen : ∀ other process, world.processes other = some process → process.identity ≠ identity)
    (unused : identity ∉ world.daemons) : Fresh world (hostAt pid) news identity := by
  refine ⟨?_, unseen, unused⟩
  intro binary child start
  have started := ((spawned_ok_iff (hostAt pid) news binary child).mp start).2.2
  obtain rfl : (⟨pid, none⟩ : Child) = child := Except.ok.inj started
  exact free

theorem replacement_admitted : Execution.Guarded step Admitted emptyWorld replacement := by
  have first : step emptyWorld (.up (hostAt 100) (some true) 1) =
      { emptyWorld with
        processes := Function.update (fun _ => none) 100 (some (daemonProcess 1))
        resource := some ⟨"100", some true⟩, daemons := [1] } := rfl
  refine ⟨?_, ?_, ?_, ?_, trivial⟩
  · refine hostAt_fresh emptyWorld 100 1 _ rfl ?_ (by simp [emptyWorld])
    intro other process held
    cases held
  · rw [first]
    refine hostAt_fresh _ 200 2 _ (by simp) ?_ (by simp)
    intro other process held
    by_cases here : other = 100
    · subst here
      obtain rfl : daemonProcess 1 = process := by simpa using held
      decide
    · simp [here] at held
  · simp [Admitted, Foreign]
  · simp [Admitted, Foreign]

theorem replacement_loses_none :
    let world := Execution.run step emptyWorld replacement
    (∀ pid process, Running world pid process → recordedId pid ∈ world.ids) ∧
    (world.pending = [] → ∀ pid other process second, Running world pid process →
      Running world other second → pid = other ∧ process = second) ∧
    (world.pending = [] → world.resource = none → ∀ pid process, ¬Running world pid process) :=
  no_daemon_lost emptyWorld replacement rfl replacement_admitted

example : (Execution.run step emptyWorld replacement).ids = ["200"] := by decide

end ClusterApiForSlinky.DaemonRuns
