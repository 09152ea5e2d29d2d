import ClusterApiForSlinky.GitSyncUrl
import Mathlib.Data.List.Nodup

/-!
`GitSync` over many `pulumi up`: the constructor resolves HEAD, `diff` compares
it with what was recorded, and a difference replaces the resource by another
`create`, during which commits land. Nobody else pushes to its branches, and
HEAD moves by commits only.
-/

namespace ClusterApiForSlinky.GitSyncUps
open GitSync
open Urls (Tables asciiTables)

/-- What the constructor passes on beside the HEAD it resolves. -/
structure Inputs where
  repoUrl : String
  repoBranch : String
  sourceDir : String
  sshHost : String
  sshPort : Int
  sshPrivateKey : Option String
  sshHostPublicKey : String
  /-- In the order of their names; each value as one text. -/
  triggers : List (String × String)
  deriving DecidableEq, Repr

structure Outputs where
  inputs : Inputs
  headSha : String
  deriving DecidableEq, Repr

def Inputs.props (inputs : Inputs) : Props :=
  { repoUrl := inputs.repoUrl, repoBranch := inputs.repoBranch
    sshPrivateKey := inputs.sshPrivateKey }

/-- One comparison of `diff`. -/
def changed {Value : Type} [DecidableEq Value] (key : String) (old new : Value) : List String :=
  if old ≠ new then [key] else []

def diff (old new : Outputs) : List String :=
  changed "repo_url" old.inputs.repoUrl new.inputs.repoUrl ++
  changed "repo_branch" old.inputs.repoBranch new.inputs.repoBranch ++
  changed "source_dir" old.inputs.sourceDir new.inputs.sourceDir ++
  changed "ssh_host" old.inputs.sshHost new.inputs.sshHost ++
  changed "ssh_port" old.inputs.sshPort new.inputs.sshPort ++
  changed "ssh_private_key" old.inputs.sshPrivateKey new.inputs.sshPrivateKey ++
  changed "ssh_host_public_key" old.inputs.sshHostPublicKey new.inputs.sshHostPublicKey ++
  changed "head_sha" old.headSha new.headSha ++
  changed "triggers" old.inputs.triggers new.inputs.triggers

/-- The branch a push goes to: the URL that is pushed to, and the branch's name. -/
abbrev Target := Option String × String

/-- The commits of each directory, newest first, the tip of each branch and the resource. -/
structure World where
  histories : String → List String
  remotes : Target → Option String
  clock : Nat
  recorded : Option Outputs

inductive Settled where
  | unchanged
  | created
  | failed
  deriving DecidableEq, Repr

inductive Op where
  | commit (dir sha : String)
  | up (inputs : Inputs) (events : List Event)
  | refresh
  | destroy

section

variable (tables : Tables)

/-- `urlsplit` as `create` meets it: what it refuses is a ValueError, as another scheme is. -/
def urlsplit (repoUrl : String) : SplitUrl :=
  match tables.urlsplit repoUrl.toList with
  | none => { scheme := "", hostname := none, password := none, path := "" }
  | some parsed =>
      { scheme := String.ofList parsed.scheme
        hostname := (parsed.hostname tables).map String.ofList
        password := parsed.password.map String.ofList
        path := String.ofList parsed.path }

def target (inputs : Inputs) : Target :=
  let url := GitSyncUrl.buildGitUrl tables
    { repoUrl := inputs.repoUrl, repoBranch := inputs.repoBranch
      sshHostPublicKey := inputs.sshHostPublicKey, sshHost := inputs.sshHost
      sshPort := inputs.sshPort }
  (url.toOption, inputs.repoBranch)

def called (world : World) (inputs : Inputs) : State :=
  { history := world.histories inputs.sourceDir, remote := world.remotes (target tables inputs)
    clock := world.clock, phase := .called }

/-- `create` with the events that happen until it ends or is cut off. -/
def ended (world : World) (inputs : Inputs) (events : List Event) : State :=
  Execution.run (step (urlsplit tables) inputs.props) (called tables world inputs) events

/-- What a `create` that ended in `state` leaves behind, recorded or not. -/
def left (world : World) (inputs : Inputs) (state : State) : World :=
  { world with
    histories := Function.update world.histories inputs.sourceDir state.history
    remotes := Function.update world.remotes (target tables inputs) state.remote
    clock := state.clock }

def create (world : World) (inputs : Inputs) (events : List Event) : Settled × World :=
  let state := ended tables world inputs events
  match state.phase with
  | .returned result =>
      (.created, { left tables world inputs state with recorded := some ⟨inputs, result.headSha⟩ })
  | _ => (.failed, left tables world inputs state)

/-- One `up`: the constructor fails where there is no HEAD, and `delete` does
nothing, so that a replacement is a `create`. -/
def up (world : World) (inputs : Inputs) (events : List Event) : Settled × World :=
  match world.histories inputs.sourceDir with
  | [] => (.failed, world)
  | head :: _ =>
      match world.recorded with
      | none => create tables world inputs events
      | some old =>
          if diff old ⟨inputs, head⟩ = [] then (.unchanged, world)
          else create tables world inputs events

def act (world : World) : Op → World
  | .commit dir sha =>
      if sha ∈ world.histories dir then world
      else { world with
        histories := Function.update world.histories dir (sha :: world.histories dir) }
  | .up inputs events => (up tables world inputs events).2
  -- `read` hands back what is recorded
  | .refresh => world
  | .destroy => { world with recorded := none }

end

theorem diff_nil_iff (old new : Outputs) : diff old new = [] ↔ old = new := by
  obtain ⟨⟨url, branch, dir, host, port, key, hostKey, triggers⟩, head⟩ := old
  obtain ⟨⟨url', branch', dir', host', port', key', hostKey', triggers'⟩, head'⟩ := new
  have one : ∀ {Value : Type} [DecidableEq Value] (name : String) (left right : Value),
      changed name left right = [] ↔ left = right := by
    intro Value _ name left right
    by_cases same : left = right <;> simp [changed, same]
  simp only [diff, List.append_eq_nil_iff, one, Outputs.mk.injEq, Inputs.mk.injEq]
  tauto

/-- `sha` is in the history and `base` is no newer. -/
def NotBefore (history : List String) (base sha : String) : Prop :=
  ∃ newer older, history = newer ++ sha :: older ∧ base ∈ sha :: older

theorem NotBefore.grows {history : List String} {base sha : String}
    (holds : NotBefore history base sha) (new : List String) :
    NotBefore (new ++ history) base sha := by
  obtain ⟨newer, older, rfl, member⟩ := holds
  exact ⟨new ++ newer, older, (List.append_assoc _ _ _).symm, member⟩

theorem NotBefore.of_newest {sha base : String} {rest : List String}
    (member : base ∈ sha :: rest) : NotBefore (sha :: rest) base sha :=
  ⟨[], rest, rfl, member⟩

theorem NotBefore.mem {history : List String} {base sha : String}
    (holds : NotBefore history base sha) : sha ∈ history := by
  obtain ⟨newer, older, rfl, _⟩ := holds
  exact List.mem_append_right _ List.mem_cons_self

theorem NotBefore.base_mem {history : List String} {base sha : String}
    (holds : NotBefore history base sha) : base ∈ history := by
  obtain ⟨newer, older, rfl, member⟩ := holds
  exact List.mem_append_right _ member

/-- Nothing but itself is as new as the newest commit. -/
theorem NotBefore.newest {sha base : String} {rest : List String}
    (distinct : (base :: rest).Nodup) (holds : NotBefore (base :: rest) base sha) : sha = base := by
  obtain ⟨newer, older, split, member⟩ := holds
  cases newer with
  | nil => exact (List.cons.inj split).1.symm
  | cons first others =>
      obtain ⟨rfl, same⟩ := List.cons.inj split
      have again : base ∈ rest := by
        rw [same]
        exact List.mem_append_right _ member
      exact absurd again (List.nodup_cons.mp distinct).1

/-! One `create`, for a commit `base` that was there when it began. -/

/-- What a phase says about `base`, about the sha that `create` resolved and
about the one that it pushes. -/
def PhaseFollows (base : String) (state : State) : Phase → Prop
  | .called => True
  | .resolved head => NotBefore state.history base head
  | .ready head _ => NotBefore state.history base head
  | .asleep head _ _ => NotBefore state.history base head
  | .pushing head _ carried => NotBefore state.history base head ∧
      NotBefore state.history base carried ∧ NotBefore state.history head carried
  | .returned result => NotBefore state.history base result.headSha ∧
      ∃ tip, state.remote = some tip ∧ NotBefore state.history base tip ∧
        NotBefore state.history result.headSha tip
  | .raised _ => True

structure Follows (base : String) (start state : State) : Prop where
  grown : ∃ new, state.history = new ++ start.history
  distinct : state.history.Nodup
  remote : state.remote = start.remote ∨
    ∃ tip, state.remote = some tip ∧ NotBefore state.history base tip
  phase : PhaseFollows base state state.phase

section

variable (urlsplit : String → SplitUrl) (props : Props) (base : String) (start : State)

theorem Follows.base_mem {state : State} (follows : Follows base start state)
    (known : base ∈ start.history) : base ∈ state.history := by
  obtain ⟨new, same⟩ := follows.grown
  rw [same]
  exact List.mem_append_right _ known

/-- The phase changes and nothing else. -/
theorem Follows.moves {state : State} (follows : Follows base start state) (phase : Phase)
    (next : PhaseFollows base state phase) : Follows base start { state with phase := phase } := by
  refine ⟨follows.grown, follows.distinct, follows.remote, ?_⟩
  cases phase <;> exact next

theorem commit_follows (state : State) (sha : String) (follows : Follows base start state) :
    Follows base start (step urlsplit props state (.commit sha)) := by
  by_cases known : sha ∈ state.history
  · rwa [step, if_pos known]
  · rw [step, if_neg known]
    obtain ⟨new, grown⟩ := follows.grown
    have later : ∀ older newer, NotBefore state.history older newer →
        NotBefore (sha :: state.history) older newer :=
      fun older newer holds => holds.grows [sha]
    constructor
    · exact ⟨sha :: new, by rw [grown]; rfl⟩
    · exact List.nodup_cons.mpr ⟨known, follows.distinct⟩
    · rcases follows.remote with same | ⟨tip, held, order⟩
      · exact Or.inl same
      · exact Or.inr ⟨tip, held, later base tip order⟩
    · have phase := follows.phase
      cases current : state.phase with
      | called => trivial
      | raised failure => trivial
      | resolved head =>
          rw [current] at phase
          exact later base head phase
      | ready head deadline =>
          rw [current] at phase
          exact later base head phase
      | asleep head deadline wakeAt =>
          rw [current] at phase
          exact later base head phase
      | pushing head deadline carried =>
          rw [current] at phase
          exact ⟨later base head phase.1, later base carried phase.2.1,
            later head carried phase.2.2⟩
      | returned result =>
          rw [current] at phase
          obtain ⟨resolved, tip, held, order, own⟩ := phase
          exact ⟨later base result.headSha resolved, tip, held, later base tip order,
            later result.headSha tip own⟩

theorem startPush_follows (state : State) (known : base ∈ start.history)
    (follows : Follows base start state) :
    Follows base start (step urlsplit props state .startPush) := by
  have member := follows.base_mem base start known
  cases current : state.phase with
  | ready head deadline =>
      have own := follows.phase
      rw [current] at own
      cases url : splitSshUrl (urlsplit props.repoUrl) with
      | error fault =>
          simp only [step, current, url]
          exact follows.moves base start _ trivial
      | ok parsed =>
          cases newest : state.history with
          | nil =>
              rw [newest] at member
              cases member
          | cons carried rest =>
              -- git reads the newest commit, so it carries all that are there
              have here : PhaseFollows base state (.pushing head deadline carried) := by
                have resolved : NotBefore state.history base head := own
                have there := resolved.mem
                rw [newest] at member there
                exact ⟨resolved, newest ▸ NotBefore.of_newest member,
                  newest ▸ NotBefore.of_newest there⟩
              have moved := follows.moves base start _ here
              simpa only [step, current, url, newest] using moved
  | _ =>
      have idle : step urlsplit props state .startPush = state := by simp [step, current]
      rwa [idle]

theorem pushSucceeds_follows (state : State) (follows : Follows base start state) :
    Follows base start (step urlsplit props state .pushSucceeds) := by
  cases current : state.phase with
  | pushing head deadline carried =>
      have own := follows.phase
      rw [current] at own
      by_cases forward : fastForwards state carried = true
      · simp only [step, current, forward, if_true]
        exact ⟨follows.grown, follows.distinct, Or.inr ⟨carried, rfl, own.2.1⟩, own.1,
          carried, rfl, own.2⟩
      · have idle : step urlsplit props state .pushSucceeds = state := by
          simp [step, current, forward]
        rwa [idle]
  | _ =>
      have idle : step urlsplit props state .pushSucceeds = state := by simp [step, current]
      rwa [idle]

theorem afterFailure_follows (state : State) (head : String) (deadline : Nat) (stderr : String)
    (clock : Nat) (resolved : NotBefore state.history base head) :
    PhaseFollows base state (afterFailure props head deadline stderr clock) := by
  unfold afterFailure
  split
  · trivial
  · split
    · trivial
    · exact resolved

theorem pushFails_follows (state : State) (stderr : String) (landed : Bool)
    (follows : Follows base start state) :
    Follows base start (step urlsplit props state (.pushFails stderr landed)) := by
  cases current : state.phase with
  | pushing head deadline carried =>
      have own := follows.phase
      rw [current] at own
      simp only [step, current]
      refine ⟨follows.grown, follows.distinct, ?_,
        afterFailure_follows props base _ head deadline stderr state.clock own.1⟩
      -- the attempt can have moved the branch before it broke
      by_cases moved : (landed && fastForwards state carried) = true
      · exact Or.inr ⟨carried, if_pos moved, own.2.1⟩
      · simp only [if_neg moved]
        exact follows.remote
  | _ =>
      have idle : step urlsplit props state (.pushFails stderr landed) = state := by
        simp [step, current]
      rwa [idle]

theorem step_follows (state : State) (event : Event) (known : base ∈ start.history)
    (follows : Follows base start state) :
    Follows base start (step urlsplit props state event) := by
  have own := follows.phase
  cases event with
  | commit sha => exact commit_follows urlsplit props base start state sha follows
  | elapse seconds =>
      refine ⟨follows.grown, follows.distinct, follows.remote, ?_⟩
      show PhaseFollows base _ state.phase
      cases current : state.phase <;> rw [current] at own <;> exact own
  | startPush => exact startPush_follows urlsplit props base start state known follows
  | pushSucceeds => exact pushSucceeds_follows urlsplit props base start state follows
  | pushFails stderr landed =>
      exact pushFails_follows urlsplit props base start state stderr landed follows
  | revParse =>
      cases current : state.phase with
      | called =>
          cases newest : state.history with
          | nil =>
              simp only [step, current, newest]
              exact newest ▸ follows.moves base start _ trivial
          | cons head rest =>
              have member := follows.base_mem base start known
              rw [newest] at member
              have resolved : NotBefore state.history base head := by
                rw [newest]
                exact NotBefore.of_newest member
              have moved := follows.moves base start (.resolved head) resolved
              simpa only [step, current, newest] using moved
      | _ => simpa [step, current] using follows
  | enterPush =>
      cases current : state.phase with
      | resolved head =>
          rw [current] at own
          simp only [step, current]
          exact follows.moves base start (.ready head _) own
      | _ => simpa [step, current] using follows
  | wake =>
      cases current : state.phase with
      | asleep head deadline wakeAt =>
          rw [current] at own
          simp only [step, current]
          split
          · exact follows.moves base start (.ready head deadline) own
          · exact follows
      | _ => simpa [step, current] using follows

theorem run_follows (events : List Event) (calling : start.phase = .called)
    (distinct : start.history.Nodup) (known : base ∈ start.history) :
    Follows base start (Execution.run (step urlsplit props) start events) := by
  apply Execution.run_invariant (step urlsplit props) (Follows base start)
  · exact fun state event follows =>
      step_follows urlsplit props base start state event known follows
  · refine ⟨⟨[], rfl⟩, distinct, Or.inl rfl, ?_⟩
    rw [calling]
    trivial

theorem quiet_step (state : State) (event : Event) (quiet : ∀ sha, event ≠ .commit sha) :
    (step urlsplit props state event).history = state.history := by
  cases event with
  | commit sha => exact absurd rfl (quiet sha)
  | elapse seconds => rfl
  | revParse => rw [step]; split <;> rfl
  | enterPush => rw [step]; split <;> rfl
  | startPush => rw [step]; split <;> rfl
  | pushSucceeds =>
      rw [step]
      split
      · split <;> rfl
      · rfl
  | pushFails stderr landed => rw [step]; split <;> rfl
  | wake =>
      rw [step]
      split
      · split <;> rfl
      · rfl

/-- Without a commit the history stays. -/
theorem quiet_history (events : List Event) (quiet : ∀ sha, Event.commit sha ∉ events) :
    (Execution.run (step urlsplit props) start events).history = start.history := by
  apply Execution.legal_invariant (step urlsplit props) (fun event => ∀ sha, event ≠ .commit sha)
    (fun state => state.history = start.history) _ start events
  · rintro event member sha rfl
    exact quiet sha member
  · rfl
  · intro state event same still
    rw [quiet_step urlsplit props state event still, same]

end

/-! Many `up`s that push one directory. -/

section

variable (tables : Tables) (dir : String)

/-- What is recorded was pushed: its branch holds that commit or a later one. -/
structure Published (world : World) : Prop where
  distinct : (world.histories dir).Nodup
  pushed : ∀ outs, world.recorded = some outs → outs.inputs.sourceDir = dir ∧
    ∃ tip, world.remotes (target tables outs.inputs) = some tip ∧
      NotBefore (world.histories dir) outs.headSha tip

@[simp] theorem left_histories (world : World) (inputs : Inputs) (state : State) :
    (left tables world inputs state).histories inputs.sourceDir = state.history :=
  Function.update_self ..

@[simp] theorem left_remotes (world : World) (inputs : Inputs) (state : State) :
    (left tables world inputs state).remotes (target tables inputs) = state.remote :=
  Function.update_self ..

theorem left_remotes_other (world : World) (inputs : Inputs) (state : State) (other : Target)
    (apart : other ≠ target tables inputs) :
    (left tables world inputs state).remotes other = world.remotes other :=
  Function.update_of_ne apart ..

theorem ended_follows (world : World) (inputs : Inputs) (events : List Event) (base : String)
    (here : inputs.sourceDir = dir) (distinct : (world.histories dir).Nodup)
    (known : base ∈ world.histories dir) :
    Follows base (called tables world inputs) (ended tables world inputs events) := by
  subst here
  exact run_follows (urlsplit tables) inputs.props base (called tables world inputs) events rfl
    distinct known

/-- Whatever becomes of a `create`, the branch of the recorded resource does not go back. -/
theorem left_published (world : World) (inputs : Inputs) (events : List Event) (head : String)
    (here : inputs.sourceDir = dir) (published : Published tables dir world)
    (known : head ∈ world.histories dir) :
    Published tables dir (left tables world inputs (ended tables world inputs events)) := by
  have follows := ended_follows tables dir world inputs events
  have grows := (follows head here published.distinct known).grown
  have history : (left tables world inputs (ended tables world inputs events)).histories dir =
      (ended tables world inputs events).history := here ▸ left_histories ..
  constructor
  · rw [history]
    exact (follows head here published.distinct known).distinct
  · intro outs recorded
    obtain ⟨same, tip, held, order⟩ := published.pushed outs recorded
    refine ⟨same, ?_⟩
    rw [history]
    have later : NotBefore (ended tables world inputs events).history outs.headSha tip := by
      obtain ⟨new, grown⟩ := grows
      rw [grown]
      subst here
      exact order.grows new
    by_cases shared : target tables outs.inputs = target tables inputs
    · rw [shared, left_remotes]
      rcases (follows outs.headSha here published.distinct order.base_mem).remote with kept | moved
      · refine ⟨tip, ?_, later⟩
        rw [kept, ← held, shared]
        rfl
      · exact moved
    · rw [left_remotes_other tables world inputs _ _ shared]
      exact ⟨tip, held, later⟩

/-- What a `create` that started at `head` leaves when it succeeds. -/
structure Delivered (inputs : Inputs) (head : String) (world : World) : Prop where
  sent : ∃ sha tip, world.recorded = some ⟨inputs, sha⟩ ∧
    world.remotes (target tables inputs) = some tip ∧
    NotBefore (world.histories dir) head sha ∧ NotBefore (world.histories dir) head tip ∧
    NotBefore (world.histories dir) sha tip

/-- A `create` fails, or delivers what was the newest commit when it began. -/
theorem create_cases (world : World) (inputs : Inputs) (events : List Event) (head : String)
    (here : inputs.sourceDir = dir) (published : Published tables dir world)
    (known : head ∈ world.histories dir) :
    Published tables dir (create tables world inputs events).2 ∧
      ((create tables world inputs events).1 = .failed ∨
        (create tables world inputs events).1 = .created ∧
          Delivered tables dir inputs head (create tables world inputs events).2) := by
  have kept := left_published tables dir world inputs events head here published known
  have follows := (ended_follows tables dir world inputs events head here published.distinct
    known).phase
  cases phase : (ended tables world inputs events).phase with
  | returned result =>
      rw [phase] at follows
      obtain ⟨resolved, tip, held, order, own⟩ := follows
      have made : create tables world inputs events =
          (.created, { left tables world inputs (ended tables world inputs events) with
            recorded := some ⟨inputs, result.headSha⟩ }) := by
        simp only [create, phase]
      have history : (left tables world inputs (ended tables world inputs events)).histories dir =
          (ended tables world inputs events).history := here ▸ left_histories ..
      have branch := left_remotes tables world inputs (ended tables world inputs events)
      rw [made]
      refine ⟨⟨kept.distinct, ?_⟩, Or.inr ⟨rfl, result.headSha, tip, rfl, ?_, ?_, ?_, ?_⟩⟩
      · intro outs recorded
        cases recorded
        exact ⟨here, tip, branch.trans held, history ▸ own⟩
      · exact branch.trans held
      · exact history ▸ resolved
      · exact history ▸ order
      · exact history ▸ own
  | _ =>
      have failed : create tables world inputs events =
          (.failed, left tables world inputs (ended tables world inputs events)) := by
        simp only [create, phase]
      rw [failed]
      exact ⟨kept, Or.inl rfl⟩

/-- An `up` that does not fail leaves what was the newest commit at its branch. -/
theorem up_cases (world : World) (inputs : Inputs) (events : List Event)
    (here : inputs.sourceDir = dir) (published : Published tables dir world) :
    Published tables dir (up tables world inputs events).2 ∧
      ((up tables world inputs events).1 = .failed ∨
        ∃ head, (world.histories dir).head? = some head ∧
          Delivered tables dir inputs head (up tables world inputs events).2) := by
  cases newest : world.histories dir with
  | nil =>
      have failed : up tables world inputs events = (.failed, world) := by
        simp only [up, here, newest]
      rw [failed]
      exact ⟨published, Or.inl rfl⟩
  | cons head rest =>
      have known : head ∈ world.histories dir := newest ▸ List.mem_cons_self
      have made := create_cases tables dir world inputs events head here published known
      have delivered := made.2.imp_right (fun done =>
        (⟨head, rfl, done.2⟩ : ∃ newest, some head = some newest ∧ Delivered tables dir inputs
          newest (create tables world inputs events).2))
      cases recorded : world.recorded with
      | none =>
          have first : up tables world inputs events = create tables world inputs events := by
            simp only [up, here, newest, recorded]
          rw [first]
          exact ⟨made.1, delivered⟩
      | some old =>
          by_cases same : diff old ⟨inputs, head⟩ = []
          · have kept : up tables world inputs events = (.unchanged, world) := by
              simp only [up, here, newest, recorded, same, if_true]
            rw [kept]
            refine ⟨published, Or.inr ⟨head, rfl, ⟨head, ?_⟩⟩⟩
            rw [(diff_nil_iff _ _).mp same] at recorded
            obtain ⟨_, tip, held, order⟩ := published.pushed _ recorded
            refine ⟨tip, recorded, held, ?_, order, order⟩
            rw [newest]
            exact NotBefore.of_newest List.mem_cons_self
          · have replaced : up tables world inputs events =
                create tables world inputs events := by
              simp only [up, here, newest, recorded, same, if_false]
            rw [replaced]
            exact ⟨made.1, delivered⟩

theorem Published.grows {world next : World} (published : Published tables dir world)
    (new : List String) (remotes : next.remotes = world.remotes)
    (recorded : next.recorded = world.recorded)
    (history : next.histories dir = new ++ world.histories dir)
    (distinct : (new ++ world.histories dir).Nodup) : Published tables dir next := by
  refine ⟨history ▸ distinct, ?_⟩
  intro outs record
  rw [recorded] at record
  obtain ⟨same, tip, held, order⟩ := published.pushed outs record
  refine ⟨same, tip, ?_, ?_⟩
  · rw [remotes, held]
  · rw [history]
    exact order.grows new

/-- Without a commit an `up` leaves the history as it is. -/
theorem quiet_up (world : World) (inputs : Inputs) (events : List Event)
    (here : inputs.sourceDir = dir) (quiet : ∀ sha, Event.commit sha ∉ events) :
    (up tables world inputs events).2.histories dir = world.histories dir := by
  subst here
  have made : (create tables world inputs events).2.histories inputs.sourceDir =
      world.histories inputs.sourceDir := by
    have ended : (create tables world inputs events).2.histories inputs.sourceDir =
        (ended tables world inputs events).history := by
      rw [create]
      split <;> exact left_histories tables world inputs _
    rw [ended]
    exact quiet_history (urlsplit tables) inputs.props (called tables world inputs) events quiet
  rw [up]
  split
  · rfl
  · split
    · exact made
    · split
      · rfl
      · exact made

theorem act_published (world : World) (op : Op)
    (here : ∀ inputs events, op = .up inputs events → inputs.sourceDir = dir)
    (published : Published tables dir world) : Published tables dir (act tables world op) := by
  cases op with
  | commit other sha =>
      by_cases known : sha ∈ world.histories other
      · rwa [act, if_pos known]
      · rw [act, if_neg known]
        by_cases same : other = dir
        · subst same
          have history := Function.update_self other (sha :: world.histories other)
            world.histories
          exact published.grows tables other [sha] rfl rfl history
            (List.nodup_cons.mpr ⟨known, published.distinct⟩)
        · have history := Function.update_of_ne (Ne.symm same) (sha :: world.histories other)
            world.histories
          exact published.grows tables dir [] rfl rfl history published.distinct
  | up inputs events =>
      exact (up_cases tables dir world inputs events (here inputs events rfl) published).1
  | refresh => exact published
  | destroy =>
      refine ⟨published.distinct, ?_⟩
      intro outs recorded
      cases recorded

theorem run_published (world : World) (ops : List Op)
    (here : ∀ inputs events, Op.up inputs events ∈ ops → inputs.sourceDir = dir)
    (published : Published tables dir world) :
    Published tables dir (Execution.run (act tables) world ops) := by
  apply Execution.legal_invariant (act tables)
    (fun op => ∀ inputs events, op = .up inputs events → inputs.sourceDir = dir)
    (Published tables dir) _ world ops _ published
  · exact fun world op published own => act_published tables dir world op own published
  · rintro op member inputs events rfl
    exact here inputs events member

/-- A further `up` of what is recorded has nothing to do until HEAD moves. -/
theorem up_unchanged_iff (world : World) (inputs : Inputs) (sha : String) (events : List Event)
    (here : inputs.sourceDir = dir) (recorded : world.recorded = some ⟨inputs, sha⟩) :
    (up tables world inputs events).1 = .unchanged ↔ (world.histories dir).head? = some sha := by
  have never : (create tables world inputs events).1 ≠ .unchanged := by
    rw [create]
    split <;> (intro same; cases same)
  cases newest : world.histories dir with
  | nil => simp [up, here, newest]
  | cons head rest =>
      by_cases same : sha = head
      · subst same
        have nothing := (diff_nil_iff ⟨inputs, sha⟩ ⟨inputs, sha⟩).mpr rfl
        simp [up, here, newest, recorded, nothing]
      · have differs : diff ⟨inputs, sha⟩ ⟨inputs, head⟩ ≠ [] := by
          intro nothing
          exact same (Outputs.mk.inj ((diff_nil_iff _ _).mp nothing)).2
        simp [up, here, newest, recorded, differs, never, Ne.symm same]

end

/-- After any ups, commits, refreshes and destroys from one directory, an `up`
that does not fail leaves at its branch the commit that was HEAD when it began or
a later one, and none older than the sha it records; it is repeated without a
change while HEAD is that sha. With no commit meanwhile, all three are HEAD. -/
theorem settled_up_publishes (tables : Tables) (dir : String) (start : World) (ops : List Op)
    (inputs : Inputs) (events : List Event) (fresh : start.recorded = none)
    (distinct : (start.histories dir).Nodup)
    (oneDir : ∀ inputs events, Op.up inputs events ∈ ops → inputs.sourceDir = dir)
    (here : inputs.sourceDir = dir)
    (settled : (up tables (Execution.run (act tables) start ops) inputs events).1 ≠ .failed) :
    let before := Execution.run (act tables) start ops
    let after := (up tables before inputs events).2
    ∃ head sha tip, (before.histories dir).head? = some head ∧
      after.recorded = some ⟨inputs, sha⟩ ∧ after.remotes (target tables inputs) = some tip ∧
      NotBefore (after.histories dir) head sha ∧ NotBefore (after.histories dir) sha tip ∧
      (∀ later, (up tables after inputs later).1 = .unchanged ↔
        (after.histories dir).head? = some sha) ∧
      ((∀ sha, Event.commit sha ∉ events) → sha = head ∧ tip = head) := by
  intro before after
  have published : Published tables dir before := by
    apply run_published tables dir start ops oneDir
    refine ⟨distinct, ?_⟩
    intro outs recorded
    rw [fresh] at recorded
    cases recorded
  obtain ⟨kept, failed | ⟨head, newest, delivered⟩⟩ :=
    up_cases tables dir before inputs events here published
  · exact absurd failed settled
  · obtain ⟨sha, tip, recorded, held, resolved, order, own⟩ := delivered
    refine ⟨head, sha, tip, newest, recorded, held, resolved, own, ?_, ?_⟩
    · exact fun later => up_unchanged_iff tables dir after inputs sha later here recorded
    · intro quiet
      have same : after.histories dir = before.histories dir :=
        quiet_up tables dir before inputs events here quiet
      obtain ⟨rest, split⟩ : ∃ rest, before.histories dir = head :: rest := by
        cases history : before.histories dir with
        | nil => simp [history] at newest
        | cons first rest =>
            rw [history] at newest
            exact ⟨rest, by rw [Option.some.inj newest]⟩
      have whole := published.distinct
      rw [same, split] at resolved order
      rw [split] at whole
      exact ⟨NotBefore.newest whole resolved, NotBefore.newest whole order⟩

def gitea : Inputs :=
  { repoUrl := "ssh://git@gitea/ops/config.git", repoBranch := "main", sourceDir := "/work"
    sshHost := "172.18.0.5", sshPort := 22, sshPrivateKey := none
    sshHostPublicKey := "ssh-ed25519 AAAA", triggers := [] }

def firstCommit : World :=
  { histories := fun _ => ["a1"], remotes := fun _ => none, clock := 0, recorded := none }

def push : List Event := [.revParse, .enterPush, .startPush, .pushSucceeds]

/-- A commit between two ups is what the second one pushes and records. -/
theorem settled_up_after_commit :
    let after := (up asciiTables (Execution.run (act asciiTables) firstCommit
      [.up gitea push, .commit "/work" "b2"]) gitea push).2
    after.recorded = some ⟨gitea, "b2"⟩ ∧
      after.remotes (target asciiTables gitea) = some "b2" := by
  intro after
  obtain ⟨head, sha, tip, newest, recorded, held, -, -, -, quiet⟩ :=
    settled_up_publishes asciiTables "/work" firstCommit [.up gitea push, .commit "/work" "b2"]
      gitea push rfl (by decide) (by simp [gitea]) rfl (by decide)
  have last : head = "b2" := Option.some.inj (newest.symm.trans (by decide))
  obtain ⟨rfl, rfl⟩ := quiet (by simp [push])
  subst last
  exact ⟨recorded, held⟩

end ClusterApiForSlinky.GitSyncUps
