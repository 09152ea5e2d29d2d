import ClusterApiForSlinky.Execution
import ClusterApiForSlinky.Json
import ClusterApiForSlinky.Text

/-!
The AWX project fence of stacks/init/awx_project_sync.py. AWX answers each
request in turn, and the loop of `_sync` is run on the list of those answers.
An answer carries one thing the provider cannot see: whether the status in it is
of an update that ran after the call began.
-/

namespace ClusterApiForSlinky.ProjectSync

def successStatuses : List String := ["successful", "ok"]
def failureStatuses : List String := ["failed", "error", "canceled"]
def defaultTimeoutSeconds : Int := 300

structure Props where
  apiUrl : String
  username : String
  password : String
  projectId : Int
  expectedRevision : String
  timeoutSeconds : Option Int
  deriving DecidableEq

/-- `int(props.get("timeout_seconds") or _DEFAULT_TIMEOUT_SECONDS)` -/
def timeoutSeconds (props : Props) : Int :=
  match props.timeoutSeconds with
  | none | some 0 => defaultTimeoutSeconds
  | some seconds => seconds

inductive Failure where
  | connection
  | http (code : Nat)
  | notJson
  | notObject
  | notStarted (code : Nat) (text : String)
  | terminal (status revision : String)
  | timedOut (projectId : Int) (revision : String)
  deriving DecidableEq

/-- The texts of the errors the provider raises itself; `repr` is Python's. -/
def Failure.message (repr : String → String) : Failure → Option String
  | .connection | .http _ | .notJson => none
  | .notObject => some "AWX project response must be an object"
  | .notStarted code text =>
      some ("failed to start AWX project update: HTTP " ++ toString code ++ ": " ++
        Text.truncate text 500)
  | .terminal status revision =>
      some ("AWX project update reached terminal status " ++ repr status ++ " before revision " ++
        repr revision ++ " was synced")
  | .timedOut projectId revision =>
      some ("timed out waiting for AWX project " ++ toString projectId ++ " to sync revision " ++
        revision)

/-- `json` is `none` for a body that is no JSON text. -/
structure Response where
  code : Nat
  text : String
  json : Option Json
  deriving DecidableEq

inductive Request where
  | get (url : String)
  | post (url : String)
  deriving DecidableEq

/-- One answer to `GET`: `none` when there was none, and the clock read after it. -/
structure Answer where
  response : Option Response
  ownUpdate : Bool
  clock : Int
  deriving DecidableEq

def url (props : Props) (path : String) : String :=
  String.ofList (props.apiUrl.toList.rdropWhile (· == '/')) ++ path

def projectRequest (props : Props) : Request :=
  .get (url props ("/api/v2/projects/" ++ toString props.projectId ++ "/"))

def updateRequest (props : Props) : Request :=
  .post (url props ("/api/v2/projects/" ++ toString props.projectId ++ "/update/"))

abbrev Project := List (String × Json)

def project (response : Option Response) : Except Failure Project :=
  match response with
  | none => .error .connection
  | some response =>
      if 400 ≤ response.code ∧ response.code < 600 then .error (.http response.code)
      else match response.json with
        | none => .error .notJson
        | some (.dict entries) => .ok entries
        | some _ => .error .notObject

def triggerUpdate (response : Option Response) : Except Failure Unit :=
  match response with
  | none => .error .connection
  | some response =>
      if response.code ∈ [200, 201, 202, 204] then .ok ()
      else .error (.notStarted response.code response.text)

def revisionMatches (props : Props) (project : Project) : Bool :=
  project.lookup "scm_revision" = some (.str props.expectedRevision)

/-- `str(project.get("status") or "")`; `str` is used for values that are no string. -/
def status (str : Json → String) (project : Project) : String :=
  match project.lookup "status" with
  | none => ""
  | some (.str text) => text
  | some other => str other

structure Outs where
  apiUrl : String
  username : String
  projectId : Int
  expectedRevision : String
  timeoutSeconds : Int
  projectStatus : String
  syncedRevision : String
  deriving DecidableEq

def outs (str : Json → String) (props : Props) (project : Project) : Outs :=
  { apiUrl := props.apiUrl, username := props.username, projectId := props.projectId
    expectedRevision := props.expectedRevision, timeoutSeconds := timeoutSeconds props
    projectStatus := status str project, syncedRevision := props.expectedRevision }

abbrev Outcome := Except Failure Outs

/-- One turn of `while True`: `none` goes to sleep and asks again. -/
def turn (str : Json → String) (props : Props) (deadline : Int) (answer : Answer) :
    Option Outcome :=
  match project answer.response with
  | .error failure => some (.error failure)
  | .ok project =>
      if revisionMatches props project ∧ status str project ∈ successStatuses then
        some (.ok (outs str props project))
      else if status str project ∈ failureStatuses then
        some (.error (.terminal (status str project) props.expectedRevision))
      else if deadline ≤ answer.clock then
        some (.error (.timedOut props.projectId props.expectedRevision))
      else none

/-- `outcome` is `none` for a call that still waits after the last answer. -/
structure Call where
  requests : List Request
  observed : List Answer
  outcome : Option Outcome
  deriving DecidableEq

def poll (str : Json → String) (props : Props) (deadline : Int) (requests : List Request)
    (observed answers : List Answer) : Call :=
  let polled := Execution.poll (turn str props deadline) answers
  { requests := requests ++ polled.1.map (fun _ => projectRequest props)
    observed := observed ++ polled.1, outcome := polled.2 }

/-- `_sync` called at `start`: `first` answers the request before the loop,
`triggered` the request for an update, if one is made. -/
def sync (str : Json → String) (props : Props) (start : Int) (first : Answer)
    (triggered : Option Response) (answers : List Answer) : Call :=
  let deadline := start + timeoutSeconds props
  match project first.response with
  | .error failure =>
      { requests := [projectRequest props], observed := [first], outcome := some (.error failure) }
  | .ok project =>
      if revisionMatches props project then
        poll str props deadline [projectRequest props] [first] answers
      else match triggerUpdate triggered with
        | .error failure =>
            { requests := [projectRequest props, updateRequest props], observed := [first]
              outcome := some (.error failure) }
        | .ok () =>
            poll str props deadline [projectRequest props, updateRequest props] [first] answers

/-- AWX reported the expected revision and a success status. -/
def Synced (str : Json → String) (props : Props) (answer : Answer) : Prop :=
  ∃ entries, project answer.response = .ok entries ∧ revisionMatches props entries = true ∧
    status str entries ∈ successStatuses

def Failed (str : Json → String) (answer : Answer) : Prop :=
  ∃ entries, project answer.response = .ok entries ∧ status str entries ∈ failureStatuses

/-- An answer that leaves the loop waiting. -/
def Undecided (str : Json → String) (props : Props) (deadline : Int) (answer : Answer) : Prop :=
  (∃ entries, project answer.response = .ok entries) ∧ ¬ Synced str props answer ∧
    ¬ Failed str answer ∧ answer.clock < deadline

/-- The call returns on a synced state only, and a terminal status fails it only
if it came from an update that ran after the call began. -/
structure AttributesFailures (str : Json → String) (props : Props) (call : Call) : Prop where
  returns : ∀ outs, call.outcome = some (.ok outs) →
    ∃ last, call.observed.getLast? = some last ∧ Synced str props last
  fails : ∀ status revision, call.outcome = some (.error (.terminal status revision)) →
    ∃ last, call.observed.getLast? = some last ∧ last.ownUpdate = true

/-- The call gets past the request before the loop and the update it may start. -/
def ReachesLoop (props : Props) (first : Answer) (triggered : Option Response) : Prop :=
  ∃ entries, project first.response = .ok entries ∧
    (revisionMatches props entries = true ∨ triggerUpdate triggered = .ok ())

/-- The first answer of the loop that does not leave it waiting has the failed,
error or canceled status of an earlier update. -/
def StaleFailureFirst (str : Json → String) (props : Props) (deadline : Int)
    (answers : List Answer) : Prop :=
  ∃ waited stale later, answers = waited ++ stale :: later ∧
    (∀ answer ∈ waited, Undecided str props deadline answer) ∧ Failed str stale ∧
    stale.ownUpdate = false

theorem statuses_disjoint (text : String) (success : text ∈ successStatuses) :
    text ∉ failureStatuses := by
  simp only [successStatuses, List.mem_cons, List.not_mem_nil, or_false] at success
  rcases success with rfl | rfl <;> decide

theorem project_not_terminal (response : Option Response) (status revision : String) :
    project response ≠ .error (.terminal status revision) := by
  unfold project
  cases response with
  | none => simp
  | some response =>
      dsimp only
      split
      · simp
      · split <;> simp

theorem triggerUpdate_not_terminal (response : Option Response) (status revision : String) :
    triggerUpdate response ≠ .error (.terminal status revision) := by
  unfold triggerUpdate
  cases response with
  | none => simp
  | some response =>
      dsimp only
      split <;> simp

/-- What one turn of the loop can do with a project it was given. -/
theorem turn_of_project (str : Json → String) (props : Props) (deadline : Int) (answer : Answer)
    (entries : Project) (given : project answer.response = .ok entries) :
    (Synced str props answer ∧ turn str props deadline answer = some (.ok (outs str props entries)))
    ∨ (¬ Synced str props answer ∧ Failed str answer ∧ turn str props deadline answer =
        some (.error (.terminal (status str entries) props.expectedRevision)))
    ∨ (¬ Synced str props answer ∧ ¬ Failed str answer ∧ deadline ≤ answer.clock ∧
        turn str props deadline answer =
          some (.error (.timedOut props.projectId props.expectedRevision)))
    ∨ (¬ Synced str props answer ∧ ¬ Failed str answer ∧ answer.clock < deadline ∧
        turn str props deadline answer = none) := by
  have synced_iff : Synced str props answer ↔
      revisionMatches props entries = true ∧ status str entries ∈ successStatuses := by
    simp [Synced, given]
  have failed_iff : Failed str answer ↔ status str entries ∈ failureStatuses := by
    simp [Failed, given]
  rw [synced_iff, failed_iff]
  unfold turn
  rw [given]
  by_cases synced : revisionMatches props entries = true ∧ status str entries ∈ successStatuses
  · simp [synced]
  · by_cases failed : status str entries ∈ failureStatuses
    · simp [synced, failed]
    · by_cases late : deadline ≤ answer.clock
      · simp [synced, failed, late]
      · simp [synced, failed, late, Int.not_le.mp late]

theorem turn_of_failure (str : Json → String) (props : Props) (deadline : Int) (answer : Answer)
    (failure : Failure) (given : project answer.response = .error failure) :
    turn str props deadline answer = some (.error failure) := by
  unfold turn
  rw [given]

theorem turn_waits_iff (str : Json → String) (props : Props) (deadline : Int) (answer : Answer) :
    turn str props deadline answer = none ↔ Undecided str props deadline answer := by
  cases given : project answer.response with
  | error failure =>
      simp [turn_of_failure str props deadline answer failure given, Undecided, given]
  | ok entries =>
      rcases turn_of_project str props deadline answer entries given with
        ⟨synced, taken⟩ | ⟨unsynced, failed, taken⟩ | ⟨unsynced, sound, late, taken⟩ |
          ⟨unsynced, sound, early, taken⟩
      · simp [taken, Undecided, synced]
      · simp [taken, Undecided, failed]
      · simp [taken, Undecided, late]
      · simp [taken, Undecided, given, unsynced, sound, early]

theorem turn_returns (str : Json → String) (props : Props) (deadline : Int) (answer : Answer)
    (result : Outs) (returned : turn str props deadline answer = some (.ok result)) :
    Synced str props answer := by
  cases given : project answer.response with
  | error failure =>
      rw [turn_of_failure str props deadline answer failure given] at returned
      cases returned
  | ok entries =>
      rcases turn_of_project str props deadline answer entries given with
        ⟨synced, taken⟩ | ⟨-, -, taken⟩ | ⟨-, -, -, taken⟩ | ⟨-, -, -, taken⟩
      · exact synced
      all_goals
        rw [taken] at returned
        cases returned

/-- A failure status always raises: no success status is one of them. -/
theorem turn_raises_terminal_iff (str : Json → String) (props : Props) (deadline : Int)
    (answer : Answer) :
    (∃ status revision, turn str props deadline answer = some (.error (.terminal status revision)))
      ↔ Failed str answer := by
  cases given : project answer.response with
  | error failure =>
      have unread : ¬ Failed str answer := by simp [Failed, given]
      rw [turn_of_failure str props deadline answer failure given]
      simp only [unread, iff_false, Option.some.injEq, Except.error.injEq]
      rintro ⟨status, revision, rfl⟩
      exact project_not_terminal _ _ _ given
  | ok entries =>
      rcases turn_of_project str props deadline answer entries given with
        ⟨synced, taken⟩ | ⟨-, failed, taken⟩ | ⟨-, sound, -, taken⟩ | ⟨-, sound, -, taken⟩
      · have sound : ¬ Failed str answer := by
          rintro ⟨failing, read, failed⟩
          obtain ⟨succeeding, also, -, succeeded⟩ := synced
          rw [also] at read
          cases read
          exact statuses_disjoint _ succeeded failed
        simp [taken, sound]
      · simp [taken, failed]
      · simp [taken, sound]
      · simp [taken, sound]

theorem poll_attributes_iff (str : Json → String) (props : Props) (deadline : Int)
    (requests : List Request) (observed answers : List Answer) :
    AttributesFailures str props (poll str props deadline requests observed answers) ↔
      ¬ StaleFailureFirst str props deadline answers := by
  constructor
  · rintro attributes ⟨waited, stale, later, rfl, undecided, failed, old⟩
    obtain ⟨text, revision, raised⟩ := (turn_raises_terminal_iff str props deadline stale).mpr failed
    have polled := (Execution.poll_decided_iff (turn str props deadline)
      (waited ++ stale :: later) (waited ++ [stale]) _).mpr
      ⟨waited, stale, later, rfl,
        fun answer member => (turn_waits_iff str props deadline answer).mpr (undecided answer member),
        raised, rfl⟩
    obtain ⟨last, seen, own⟩ := attributes.fails text revision (by simp [poll, polled])
    have same : stale = last := by
      rw [poll, polled, ← List.append_assoc, List.getLast?_concat] at seen
      exact Option.some.inj seen
    rw [← same, old] at own
    cases own
  · intro fresh
    -- Every outcome was decided by the last answer, after answers that left the loop waiting.
    have decided : ∀ outcome, (poll str props deadline requests observed answers).outcome =
        some outcome → ∃ waited last later, answers = waited ++ last :: later ∧
          (∀ answer ∈ waited, Undecided str props deadline answer) ∧
          turn str props deadline last = some outcome ∧
          (poll str props deadline requests observed answers).observed.getLast? = some last := by
      intro outcome given
      obtain ⟨waited, last, later, same, undecided, taken, seen⟩ :=
        (Execution.poll_decided_iff (turn str props deadline) answers _ outcome).mp
          (Prod.ext rfl given)
      refine ⟨waited, last, later, same, ?_, taken, ?_⟩
      · exact fun answer member => (turn_waits_iff str props deadline answer).mp
          (undecided answer member)
      · simp [poll, seen, ← List.append_assoc]
    constructor
    · intro result returned
      obtain ⟨_, last, _, -, -, taken, seen⟩ := decided _ returned
      exact ⟨last, seen, turn_returns str props deadline last result taken⟩
    · intro text revision raised
      obtain ⟨waited, last, later, same, undecided, taken, seen⟩ := decided _ raised
      refine ⟨last, seen, ?_⟩
      have failed := (turn_raises_terminal_iff str props deadline last).mp ⟨text, revision, taken⟩
      by_contra stale
      exact fresh ⟨waited, last, later, same, undecided, failed, by simpa using stale⟩

/-- `_sync` takes a failed status for its own unless no answer shows it one of an
earlier update before something else ends the loop. -/
theorem sync_attributes_iff (str : Json → String) (props : Props) (start : Int) (first : Answer)
    (triggered : Option Response) (answers : List Answer) :
    AttributesFailures str props (sync str props start first triggered answers) ↔
      ¬ (ReachesLoop props first triggered ∧
        StaleFailureFirst str props (start + timeoutSeconds props) answers) := by
  have ended : ∀ requests failure, (∀ status revision, failure ≠ .terminal status revision) →
      AttributesFailures str props
        { requests, observed := [first], outcome := some (.error failure) } := by
    intro requests failure other
    constructor
    · simp
    · rintro status revision ⟨⟩
      exact absurd rfl (other status revision)
  unfold sync
  cases given : project first.response with
  | error failure =>
      have unreached : ¬ ReachesLoop props first triggered := by simp [ReachesLoop, given]
      simp only [unreached, false_and, not_false_eq_true, iff_true]
      refine ended _ _ ?_
      rintro status revision rfl
      exact project_not_terminal _ _ _ given
  | ok entries =>
      dsimp only
      split
      · next current =>
          have reached : ReachesLoop props first triggered := ⟨entries, given, Or.inl current⟩
          simp only [reached, true_and]
          exact poll_attributes_iff str props _ _ _ _
      · next outdated =>
          cases posted : triggerUpdate triggered with
          | error failure =>
              have unreached : ¬ ReachesLoop props first triggered := by
                simp [ReachesLoop, given, outdated, posted]
              simp only [unreached, false_and, not_false_eq_true, iff_true]
              refine ended _ _ ?_
              rintro status revision rfl
              exact triggerUpdate_not_terminal _ _ _ posted
          | ok done =>
              have reached : ReachesLoop props first triggered := ⟨entries, given, Or.inr posted⟩
              simp only [reached, true_and]
              exact poll_attributes_iff str props _ _ _ _

/-- A project at the expected revision whose last update failed long ago: no
update is started, and the old status ends the call. -/
theorem sync_blames_stale_failure : ¬ ∀ (str : Json → String) (props : Props) (start : Int)
    (first : Answer) (triggered : Option Response) (answers : List Answer),
    AttributesFailures str props (sync str props start first triggered answers) := by
  intro always
  let props : Props :=
    { apiUrl := "http://127.0.0.1:8052", username := "admin", password := "secret", projectId := 8
      expectedRevision := "0f3c", timeoutSeconds := none }
  let stale : Answer :=
    { response := some { code := 200, text := "", json := some (.dict
        [("scm_revision", .str "0f3c"), ("status", .str "failed")]) }
      ownUpdate := false, clock := 1 }
  have attributes := always (fun _ => "") props 0 stale none [stale]
  have raised : (sync (fun _ => "") props 0 stale none [stale]).outcome =
      some (.error (.terminal "failed" "0f3c")) := rfl
  obtain ⟨last, seen, own⟩ := attributes.fails _ _ raised
  have same : stale = last := Option.some.inj seen
  rw [← same] at own
  cases own

end ClusterApiForSlinky.ProjectSync
