import ClusterApiForSlinky.ConfigModel
import ClusterApiForSlinky.Dictionary
import ClusterApiForSlinky.Effect
import ClusterApiForSlinky.Text

/-!
Git sources and registry sessions: artifacts/source.py and
artifacts/destination.py. Every command, file operation and request is a `Step`
that the host may fail at, in any way and depending on all steps before it. A
registry maps each repository:tag to the artifact that was pushed there.
-/

namespace ClusterApiForSlinky.ArtifactRegistry
open Effect

variable {Value : Type}

structure Ref where
  repository : String
  tag : String
  deriving DecidableEq, Repr

/-- The build options of an image; `DockerImageBuildConfig` requires the name. -/
structure ImageOptions where
  imageName : Option NonEmptyStr
  target : Option NonEmptyStr := none
  buildArgs : Option (Dictionary NonEmptyStr) := none
  deriving DecidableEq

/-- A plan and build callback with its build options; only images have any. -/
inductive Recipe where
  | image (options : ImageOptions)
  | capz
  | slinky
  deriving DecidableEq

/-- What a build tool makes of a recipe and a commit. -/
structure Artifact where
  recipe : Recipe
  commit : String
  deriving DecidableEq

inductive Step where
  | requireBinary (name : String)
  | makeDirectory
  | removeDirectory
  | gitInit
  | gitFetch
  | revParse
  | worktreeAdd
  | worktreeRemove
  | acrLogin
  | dockerLogin
  | probe (ref : Ref)
  | dockerBuild (ref : Ref) (arguments : List String)
  | make (goals : List String)
  | checkFiles (names : List String)
  | makeDist
  | helmPackage (chart : String)
  | push (ref : Ref) (artifact : Artifact)
  deriving DecidableEq

/-- An HTTP status that is neither success nor not-found. -/
structure ErrorStatus where
  code : Nat
  error : code ≠ 200 ∧ code ≠ 404
  deriving DecidableEq

inductive Fault where
  | exitCode
  | exception
  | status (code : ErrorStatus)
  deriving DecidableEq

inductive Outcome where
  | done
  | notFound
  | failed (fault : Fault)
  deriving DecidableEq

inductive Failure where
  | commandFailed (step : Step)
  | missingBinary (name : String)
  | noCommit
  | exclusiveSources
  | required (name : String)
  | httpsRequired
  | loginFailed (server : String)
  | probeFailed (ref : Ref) (status : Option Nat)
  | pushFailed (ref : Ref)
  | nothingPlanned
  deriving DecidableEq

abbrev Registry := Finmap (fun _ : Ref => Artifact)

structure World where
  registry : Registry
  log : List (Step × Outcome)

/-- `fails` sees the log so far; `commit` is what git resolves the source to. -/
structure Host where
  fails : List (Step × Outcome) → Step → Option Fault
  commit : String

abbrev Run := Task World Failure

/-- A step that does not fail: probes answer by the registry, pushes fill it. -/
def serve (registry : Registry) : Step → Outcome × Registry
  | .probe ref => (if ref ∈ registry then .done else .notFound, registry)
  | .push ref artifact => (.done, registry.insert ref artifact)
  | _ => (.done, registry)

def perform (host : Host) (step : Step) : Run Outcome := fun world =>
  let served := serve world.registry step
  match host.fails world.log step with
  | some fault => (.ok (.failed fault), { world with log := world.log ++ [(step, .failed fault)] })
  | none => (.ok served.1, { registry := served.2, log := world.log ++ [(step, served.1)] })

/-! artifacts/source.py -/

def runOr (host : Host) (step : Step) (failure : Failure) : Run PUnit := do
  match ← perform host step with
  | .failed _ => raise failure
  | _ => pure ⟨⟩

/-- `run` with `check=True`, and every other step that raises when it fails. -/
def run (host : Host) (step : Step) : Run PUnit := runOr host step (.commandFailed step)

/-- `run` with `check=False`: only starting the command can raise. -/
def runUnchecked (host : Host) (step : Step) : Run Bool := do
  match ← perform host step with
  | .failed .exitCode => pure false
  | .failed _ => raise (.commandFailed step)
  | _ => pure true

def requireBinary (host : Host) (name : String) : Run PUnit :=
  runOr host (.requireBinary name) (.missingBinary name)

def requiredStr (name : String) (value : Option NonEmptyStr) : Except Failure NonEmptyStr :=
  match value with
  | some text => .ok text
  | none => .error (.required name)

def revParse (host : Host) : Run String := do
  run host .revParse
  if host.commit = "" then raise .noCommit else pure host.commit

def detachedWorktree (host : Host) (body : Run PUnit) : Run PUnit := do
  run host .makeDirectory
  tryFinally (do run host .worktreeAdd; body)
    (do let _ ← runUnchecked host .worktreeRemove)

/-- `GitSourceConfig`: exactly one of the two sources is given. -/
structure GitSource where
  sourcePath : Option NonEmptyStr := none
  repositoryUrl : Option NonEmptyStr := none
  sourceRef : NonEmptyStr
  exactlyOne : sourcePath.isSome ≠ repositoryUrl.isSome
  deriving DecidableEq

def remoteSourceRepository (host : Host) (body : String → Run Value) : Run Value := do
  requireBinary host "git"
  run host .makeDirectory
  tryFinally
    (do
      run host .gitInit
      run host .gitFetch
      let commit ← revParse host
      body commit)
    (pure ⟨⟩)

def sourceRepository (host : Host) (source : GitSource) (body : String → Run Value) :
    Run Value :=
  if source.sourcePath.isSome && source.repositoryUrl.isSome then raise .exclusiveSources
  else if source.sourcePath.isSome then do
    requireBinary host "git"
    let commit ← revParse host
    body commit
  else do
    let _ ← ofExcept (requiredStr "repository_url" source.repositoryUrl)
    remoteSourceRepository host body

def sourceTag (commit : String) : String := "source-" ++ Text.truncate commit 12

/-! artifacts/destination.py -/

structure AcrRegistry where
  name : String
  subscription : String
  deriving DecidableEq

/-- `RegistryDestination`; the stack only gives an ACR together with HTTPS. -/
structure Destination where
  server : NonEmptyStr
  consumerServer : NonEmptyStr
  plainHttp : Bool
  acr : Option AcrRegistry := none
  secure : acr.isSome = true → plainHttp = false
  deriving DecidableEq

structure Session where
  server : String
  consumerServer : String
  plainHttp : Bool
  acrSubscriptionId : Option String

def registrySession (host : Host) (destination : Destination) (body : Session → Run Value) :
    Run Value :=
  match destination.acr with
  | none => body ⟨destination.server.text, destination.consumerServer.text,
      destination.plainHttp, none⟩
  | some registry =>
      if destination.plainHttp then raise .httpsRequired
      else do
        requireBinary host "az"
        requireBinary host "docker"
        let exposed ← runUnchecked host .acrLogin
        if !exposed then raise (.loginFailed destination.server.text)
        else do
          run host .makeDirectory
          tryFinally
            (do
              let loggedIn ← runUnchecked host .dockerLogin
              if !loggedIn then raise (.loginFailed destination.server.text)
              else body ⟨destination.server.text, destination.consumerServer.text,
                destination.plainHttp, some registry.subscription⟩)
            (run host .removeDirectory)

/-- False only when the registry answers not-found; the Azure client and the
plain HTTP probe raise the same way and differ in what the message shows. -/
def manifestExists (host : Host) (session : Session) (ref : Ref) : Run Bool := do
  match ← perform host (.probe ref) with
  | .done => pure true
  | .notFound => pure false
  | .failed (.status response) =>
      if session.acrSubscriptionId.isSome then raise (.probeFailed ref none)
      else raise (.probeFailed ref (some response.code))
  | .failed _ => raise (.probeFailed ref none)

def pushImage (host : Host) (ref : Ref) (artifact : Artifact) : Run PUnit := do
  requireBinary host "docker"
  run host (.push ref artifact)

def pushFiles (host : Host) (ref : Ref) (artifact : Artifact) : Run PUnit :=
  runOr host (.push ref artifact) (.pushFailed ref)

/-- helm derives the reference from the name and version in the chart. -/
def pushChart (host : Host) (chart version repositoryPrefix : String) (artifact : Artifact) :
    Run PUnit := do
  requireBinary host "helm"
  run host (.push ⟨repositoryPrefix ++ "/" ++ chart, version⟩ artifact)

end ClusterApiForSlinky.ArtifactRegistry
