import ClusterApiForSlinky.Execution
import ClusterApiForSlinky.Text

/-!
The `GitSync` provider of gitrepo/git_sync.py, interleaved with commits made in
its source directory. Each event is one step of `create` or one thing the
machine does meanwhile: a commit lands, time passes, the git process ends. The
commits of HEAD are kept newest first. An event that does not fit the phase
`create` is in changes nothing.
-/

namespace ClusterApiForSlinky.GitSync

def pushRetryTimeoutSeconds : Nat := 180
def pushRetryIntervalSeconds : Nat := 5
def transientSshErrors : List String :=
  ["kex_exchange_identification", "Connection reset", "Connection refused",
    "Connection timed out", "Connection closed", "No route to host", "Operation timed out"]

/-- The parts of `urlsplit(repo_url)` that the provider looks at. -/
structure SplitUrl where
  scheme : String
  hostname : Option String
  password : Option String
  path : String
  deriving DecidableEq, Repr

inductive UrlFault where
  | notSsh
  | noHostname
  | password
  | noPath
  deriving DecidableEq, Repr

def splitSshUrl (parsed : SplitUrl) : Except UrlFault SplitUrl :=
  if parsed.scheme ≠ "ssh" then .error .notSsh
  else if Text.nonempty parsed.hostname = none then .error .noHostname
  else if Text.nonempty parsed.password ≠ none then .error .password
  else if parsed.path = "" ∨ parsed.path = "/" then .error .noPath
  else .ok parsed

structure Props where
  repoUrl : String
  repoBranch : String
  sshPrivateKey : Option String
  deriving DecidableEq, Repr

structure CreateResult where
  id : String
  outs : Props
  headSha : String
  pushed : Bool
  deriving DecidableEq, Repr

inductive Failure where
  | revParse
  | badUrl (fault : UrlFault)
  | push (message : String)
  deriving DecidableEq, Repr

def redact (text : String) (props : Props) : String :=
  match Text.nonempty props.sshPrivateKey with
  | some secret => Text.replace text secret "<redacted>"
  | none => text

def isTransientPushError (stderr : String) : Bool :=
  transientSshErrors.any (fun error => Text.contains stderr error)

def pushFailure (props : Props) (stderr : String) : Failure :=
  .push ("git push failed without --force. The remote branch may have diverged: " ++
    Text.truncate (redact (Text.strip stderr) props) 500)

def created (props : Props) (head : String) : CreateResult :=
  { id := props.repoUrl ++ "@" ++ head, outs := props, headSha := head, pushed := true }

/-- Where `create` stands; `head` is the sha it resolved. -/
inductive Phase where
  | called
  | resolved (head : String)
  | ready (head : String) (deadline : Nat)
  | pushing (head : String) (deadline : Nat) (carried : String)
  | asleep (head : String) (deadline wakeAt : Nat)
  | returned (result : CreateResult)
  | raised (failure : Failure)
  deriving DecidableEq, Repr

/-- `remote` is the commit at refs/heads/<branch> of the remote. -/
structure State where
  history : List String
  remote : Option String
  clock : Nat
  phase : Phase
  deriving DecidableEq, Repr

inductive Event where
  | commit (sha : String)
  | elapse (seconds : Nat)
  | revParse
  | enterPush
  | startPush
  | pushSucceeds
  | pushFails (stderr : String) (landed : Bool)
  | wake
  deriving DecidableEq, Repr

/-- A push without `--force` moves the branch along the history of HEAD only. -/
def fastForwards (state : State) (carried : String) : Bool :=
  match state.remote with
  | none => true
  | some tip => tip ∈ state.history.dropWhile (fun sha => sha ≠ carried)

/-- The end of a failed attempt: give up, or sleep and try again. -/
def afterFailure (props : Props) (head : String) (deadline : Nat) (stderr : String)
    (clock : Nat) : Phase :=
  if !isTransientPushError stderr then .raised (pushFailure props stderr)
  else if deadline ≤ clock then .raised (pushFailure props stderr)
  else .asleep head deadline (clock + pushRetryIntervalSeconds)

def step (urlsplit : String → SplitUrl) (props : Props) (state : State) : Event → State
  | .commit sha =>
      if sha ∈ state.history then state else { state with history := sha :: state.history }
  | .elapse seconds => { state with clock := state.clock + seconds }
  | .revParse =>
      match state.phase, state.history with
      | .called, head :: _ => { state with phase := .resolved head }
      | .called, [] => { state with phase := .raised .revParse }
      | _, _ => state
  | .enterPush =>
      match state.phase with
      | .resolved head =>
          { state with phase := .ready head (state.clock + pushRetryTimeoutSeconds) }
      | _ => state
  | .startPush =>
      match state.phase, splitSshUrl (urlsplit props.repoUrl), state.history with
      | .ready _ _, .error fault, _ => { state with phase := .raised (.badUrl fault) }
      | .ready head deadline, .ok _, carried :: _ =>
          -- git reads HEAD here, for the refspec HEAD:refs/heads/<branch>
          { state with phase := .pushing head deadline carried }
      | _, _, _ => state
  | .pushSucceeds =>
      match state.phase with
      | .pushing head _ carried =>
          if fastForwards state carried then
            { state with remote := some carried, phase := .returned (created props head) }
          else state
      | _ => state
  | .pushFails stderr landed =>
      match state.phase with
      | .pushing head deadline carried =>
          -- a connection can break after the remote has moved the branch
          { state with
            remote := if landed && fastForwards state carried then some carried
              else state.remote
            phase := afterFailure props head deadline stderr state.clock }
      | _ => state
  | .wake =>
      match state.phase with
      | .asleep head deadline wakeAt =>
          if wakeAt ≤ state.clock then { state with phase := .ready head deadline } else state
      | _ => state

/-- The revision source-controller reports once it has fetched the branch. -/
def artifactRevision (branch tip : String) : String := branch ++ ("@sha1:" ++ tip)

def artifactRevisionPath : String := "jsonpath=\x7b.status.artifact.revision\x7d="

/-- The expression FluxSource waits for. -/
def waitForArtifactRevision (branch revision : String) : String :=
  artifactRevisionPath ++ branch ++ "@sha1:" ++ revision

theorem wait_met_iff (branch revision tip : String) :
    waitForArtifactRevision branch revision = artifactRevisionPath ++ artifactRevision branch tip ↔
      revision = tip := by
  have grouped : waitForArtifactRevision branch revision =
      artifactRevisionPath ++ artifactRevision branch revision := by
    rw [waitForArtifactRevision, artifactRevision, String.append_assoc, String.append_assoc]
  rw [grouped]
  constructor
  · intro same
    have afterPath := (String.append_right_inj _).mp same
    have afterBranch := (String.append_right_inj _).mp afterPath
    exact (String.append_right_inj _).mp afterBranch
  · rintro rfl
    rfl

end ClusterApiForSlinky.GitSync
