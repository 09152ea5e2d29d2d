import ClusterApiForSlinky.Json
import ClusterApiForSlinky.LineBreaks
import ClusterApiForSlinky.Text

/-!
`create` of ctlptl/cloud_provider_kind.py: the diagnostics, the spawn of the
daemon and the check half a second later. Times are milliseconds. A child that
has ended keeps its pid until it is waited for, and `create` never waits.
-/

namespace ClusterApiForSlinky.CloudProviderKind

def commMax : Nat := 15
def expectedComm : String := Text.truncate "cloud-provider-kind" commMax
def dockerHubMirror : String := "https://mirror.gcr.io"
def optionalCaps : List String := ["cap_net_admin", "cap_net_bind_service"]

/-- What `os.kill(pid, signal)` comes back with. -/
inductive KillAnswer where
  | delivered
  | noSuchProcess
  | notPermitted
  deriving DecidableEq, Repr

/-- The cross-check of /proc/<pid>/comm; `none` when the file cannot be read. -/
def commAccepted : Option String → Bool
  | some text => Text.strip text == expectedComm
  | none => true

def isPidAlive (answer : KillAnswer) (checkComm : Bool) (comm : Option String) : Bool :=
  answer == .delivered && (!checkComm || commAccepted comm)

/-! Diagnostics before the spawn. -/

structure Completed where
  returncode : Int
  stdout : String
  deriving DecidableEq, Repr

/-- `exitsAt` is the time after the spawn at which the process ends, if it does. -/
structure Child where
  pid : Nat
  exitsAt : Option Nat
  deriving DecidableEq, Repr

/-- What the machine answers to `create`. `run` is `none` for an OSError or a
timeout; `lag` is how much longer than asked the sleep takes. -/
structure Host where
  which : String → Option String
  isRoot : Bool
  system : String
  run : List String → Option Completed
  jsonLoads : String → Option Json
  stateDir : String
  openLog : Except String Unit
  popen : List String → Except String Child
  lag : Nat
  logText : Option String

def requireBinary (host : Host) (name : String) : Except String String :=
  match host.which name with
  | some path => .ok path
  | none => .error ("required binary '" ++ name ++ "' not found in PATH; " ++
      "install it via `go install sigs.k8s.io/cloud-provider-kind@latest` " ++
      "(needs Go) and ensure $GOPATH/bin is on PATH.")

def dockerRegistryMirrors (host : Host) : Option (List Json) := do
  let docker ← host.which "docker"
  let result ← host.run [docker, "info", "--format", "\x7b\x7bjson .RegistryConfig.Mirrors\x7d\x7d"]
  if result.returncode ≠ 0 then none
  else
    match ← host.jsonLoads (if result.stdout = "" then "[]" else result.stdout) with
    | .list mirrors => some mirrors
    | _ => none

/-- The second of the two words of `line.split(None, 1)`, if there is one. -/
def afterFirstWord (line : List Char) : Option (List Char) :=
  match (line.dropWhile (fun char => !Text.isSpace char)).dropWhile Text.isSpace with
  | [] => none
  | rest => some rest

/-- "cap_a,cap_b=eip" names the capabilities in front of its first "=". -/
def capabilityNames (text : List Char) : List String :=
  let names := (text.takeWhile (fun char => char ≠ '=')).splitOn ','
  let stripped := names.map (Text.stripChars Text.isSpace)
  (stripped.filter (fun name => !name.isEmpty)).map
    (fun name => String.ofList (name.map Char.toLower))

def checkBinaryCaps (host : Host) (binary : String) : Option (List String) := do
  if host.system ≠ "Linux" then none
  else
    let getcap ← host.which "getcap"
    let out ← host.run [getcap, binary]
    if out.returncode ≠ 0 then some []
    else
      match afterFirstWord (Text.strip out.stdout).toList with
      | some rest => some (capabilityNames rest)
      | none => some []

def setcapCommand (binary : String) : String :=
  "sudo setcap '" ++ ",".intercalate optionalCaps ++ "=+eip' " ++ binary

/-- The missing capabilities, in the order in which `sorted` puts them. -/
def missingCaps (host : Host) (binary : String) : Option (List String) :=
  if host.isRoot then none
  else (checkBinaryCaps host binary).map (fun caps => optionalCaps.filter (fun cap => cap ∉ caps))

def capsWarning (binary : String) (missing : List String) : String :=
  "cloud-provider-kind at " ++ binary ++ " has no Linux file " ++
    "capabilities (" ++ ", ".intercalate missing ++ " missing). " ++
    "This is only relevant if you flip " ++
    "`enable_lb_port_mapping=False` and need bridge-IP behavior. " ++
    "On native Docker — the recommended setup on Linux and WSL2 — " ++
    "the bridge is in your netns and the LB EXTERNAL-IP is " ++
    "reachable without any caps. Grant them with: " ++ setcapCommand binary

def mirrorWarning : String :=
  "cloud-provider-kind pulls its LoadBalancer proxy image " ++
    "(docker.io/envoyproxy/envoy:v1.33.2) from the host Docker " ++
    "daemon. Configure the host Docker daemon with a Docker Hub " ++
    "registry mirror such as " ++ dockerHubMirror ++ " to avoid Docker " ++
    "Hub rate limits for those opaque pulls."

def warnings (host : Host) (binary : String) : List String :=
  let caps :=
    match missingCaps host binary with
    | some (cap :: more) => [capsWarning binary (cap :: more)]
    | _ => []
  let mirrors :=
    match dockerRegistryMirrors host with
    | some mirrors => if .str dockerHubMirror ∈ mirrors then [] else [mirrorWarning]
    | none => []
  caps ++ mirrors

/-! The spawn and the check after it. -/

inductive ProcState where
  | running
  | zombie
  | absent
  deriving DecidableEq, Repr

/-- A signal reaches whatever holds a pid, a zombie too. -/
def killAnswer : ProcState → KillAnswer
  | .running => .delivered
  | .zombie => .delivered
  | .absent => .noSuchProcess

/-- `waited` says whether the parent has collected the exit status by then. -/
def childState (child : Child) (waited : Bool) (time : Nat) : ProcState :=
  match child.exitsAt with
  | none => .running
  | some ended => if time < ended then .running else if waited then .absent else .zombie

def startupWait : Nat := 500
def checkTime (host : Host) : Nat := startupWait + host.lag

structure CreateResult where
  id : String
  pid : Nat
  logPath : String
  binaryPath : String
  enableLbPortMapping : Bool
  deriving DecidableEq, Repr

inductive Failure where
  | missingBinary (message : String)
  | log (message : String)
  | spawn (message : String)
  | died (message : String)
  deriving DecidableEq, Repr

def argv (binary : String) (enableLbPortMapping : Bool) : List String :=
  [binary, "--enable-lb-port-mapping=" ++ if enableLbPortMapping then "true" else "false"]

def logPath (host : Host) : String := host.stateDir ++ "/cloud-provider-kind.log"

def lastLines (host : Host) : List String :=
  match host.logText with
  | some text => ((LineBreaks.splitLines LineBreaks.isBreak text.toList).map String.ofList).rtake 20
  | none => []

def diedMessage (host : Host) : String :=
  "cloud-provider-kind died immediately after spawn. Last log lines from " ++ logPath host ++
    ":\n  " ++ match lastLines host with
      | [] => "(log file empty)"
      | lines => "\n  ".intercalate lines

/-- The id under which a daemon is recorded. -/
def recordedId (pid : Nat) : String := toString pid

/-- The check reads the pid of a child nobody has waited for. -/
def verify (host : Host) (binary : String) (enableLbPortMapping : Bool) (child : Child) :
    Except Failure CreateResult :=
  if !isPidAlive (killAnswer (childState child false (checkTime host))) false none then
    .error (.died (diedMessage host))
  else
    .ok { id := recordedId child.pid, pid := child.pid, logPath := logPath host,
          binaryPath := binary, enableLbPortMapping := enableLbPortMapping }

/-- The child `create` starts, when it gets that far. -/
def spawned (host : Host) (enableLbPortMapping : Option Bool) : Except Failure (String × Child) :=
  match requireBinary host "cloud-provider-kind" with
  | .error message => .error (.missingBinary message)
  | .ok binary =>
      match host.openLog with
      | .error message => .error (.log message)
      | .ok () =>
          match host.popen (argv binary (enableLbPortMapping.getD true)) with
          | .error message => .error (.spawn message)
          | .ok child => .ok (binary, child)

/-- What `create` warns about, and the resource it records or the error it raises. -/
def create (host : Host) (enableLbPortMapping : Option Bool) :
    List String × Except Failure CreateResult :=
  let warned :=
    match requireBinary host "cloud-provider-kind" with
    | .ok binary => warnings host binary
    | .error _ => []
  (warned, (spawned host enableLbPortMapping).bind (fun start =>
    verify host start.1 (enableLbPortMapping.getD true) start.2))

/-- The daemon is still there when the check runs. -/
def LivesThroughCheck (host : Host) (child : Child) : Prop :=
  ∀ ended, child.exitsAt = some ended → checkTime host < ended

theorem running_iff (host : Host) (child : Child) (waited : Bool) :
    childState child waited (checkTime host) = .running ↔ LivesThroughCheck host child := by
  unfold childState LivesThroughCheck
  cases child.exitsAt with
  | none => simp
  | some ended =>
      by_cases before : checkTime host < ended
      · simp [before]
      · cases waited <;> simp [before]

/-- Until its parent waits for it, a child answers to its pid whatever it does. -/
theorem unwaited_answers (child : Child) (time : Nat) :
    killAnswer (childState child false time) = .delivered := by
  unfold childState
  cases child.exitsAt with
  | none => rfl
  | some ended =>
      by_cases before : time < ended
      · simp [before, killAnswer]
      · simp [before, killAnswer]

/-- So the check after the spawn passes every child. -/
theorem verify_ok (host : Host) (binary : String) (enableLbPortMapping : Bool) (child : Child) :
    verify host binary enableLbPortMapping child =
      .ok { id := recordedId child.pid, pid := child.pid, logPath := logPath host,
            binaryPath := binary, enableLbPortMapping := enableLbPortMapping } := by
  simp [verify, isPidAlive, unwaited_answers]

theorem create_ok_iff (host : Host) (enableLbPortMapping : Option Bool) (result : CreateResult) :
    (create host enableLbPortMapping).2 = .ok result ↔
      ∃ binary child, spawned host enableLbPortMapping = .ok (binary, child) ∧
        result = { id := recordedId child.pid, pid := child.pid, logPath := logPath host,
                   binaryPath := binary,
                   enableLbPortMapping := enableLbPortMapping.getD true } := by
  unfold create
  cases start : spawned host enableLbPortMapping with
  | error failure => simp [Except.bind]
  | ok pair =>
      obtain ⟨binary, child⟩ := pair
      simp only [Except.bind, verify_ok, Except.ok.injEq]
      constructor
      · intro same
        exact ⟨binary, child, rfl, same.symm⟩
      · rintro ⟨binary', child', same, shape⟩
        cases same
        exact shape.symm

/-- A child that has ended by the check makes `create` raise, and a recorded
id belongs to a child that was running at the check. -/
def RecordsRunning (host : Host) (enableLbPortMapping : Option Bool) : Prop :=
  (∀ binary child, spawned host enableLbPortMapping = .ok (binary, child) →
    childState child false (checkTime host) ≠ .running →
    ∃ failure, (create host enableLbPortMapping).2 = .error failure) ∧
  (∀ result, (create host enableLbPortMapping).2 = .ok result →
    ∃ binary child, spawned host enableLbPortMapping = .ok (binary, child) ∧
      result.id = recordedId child.pid ∧ result.pid = child.pid ∧
      childState child false (checkTime host) = .running)

/-- `create` gives up before there is a child. -/
def StopsBeforeSpawn (host : Host) (enableLbPortMapping : Option Bool) : Prop :=
  host.which "cloud-provider-kind" = none ∨
  (∃ message, host.openLog = .error message) ∨
  (∃ binary message, host.which "cloud-provider-kind" = some binary ∧
    host.popen (argv binary (enableLbPortMapping.getD true)) = .error message)

theorem spawned_ok_iff (host : Host) (enableLbPortMapping : Option Bool) (binary : String)
    (child : Child) :
    spawned host enableLbPortMapping = .ok (binary, child) ↔
      host.which "cloud-provider-kind" = some binary ∧ host.openLog = .ok () ∧
      host.popen (argv binary (enableLbPortMapping.getD true)) = .ok child := by
  unfold spawned requireBinary
  cases found : host.which "cloud-provider-kind" with
  | none => simp
  | some path =>
      cases opened : host.openLog with
      | error message => simp
      | ok _ =>
          cases started : host.popen (argv path (enableLbPortMapping.getD true)) with
          | error message =>
              simp only [started, reduceCtorEq, false_iff]
              rintro ⟨same, _, failed⟩
              cases same
              rw [started] at failed
              cases failed
          | ok other =>
              simp only [started, Except.ok.injEq, Prod.mk.injEq, Option.some.injEq]
              constructor
              · rintro ⟨rfl, rfl⟩
                exact ⟨rfl, trivial, started⟩
              · rintro ⟨rfl, _, same⟩
                rw [started] at same
                exact ⟨rfl, Except.ok.inj same⟩

theorem stopsBeforeSpawn_iff (host : Host) (enableLbPortMapping : Option Bool) :
    StopsBeforeSpawn host enableLbPortMapping ↔
      ¬∃ binary child, spawned host enableLbPortMapping = .ok (binary, child) := by
  simp only [spawned_ok_iff, StopsBeforeSpawn]
  cases found : host.which "cloud-provider-kind" with
  | none => simp
  | some path =>
      cases opened : host.openLog with
      | error message => simp
      | ok _ =>
          cases started : host.popen (argv path (enableLbPortMapping.getD true)) with
          | error message => simp [started]
          | ok child => simp [started]

/-- The start-up check adds nothing: `create` keeps its promise exactly when it
fails before the spawn or the daemon outlives the check on its own. -/
theorem create_records_running_iff (host : Host) (enableLbPortMapping : Option Bool) :
    RecordsRunning host enableLbPortMapping ↔
      StopsBeforeSpawn host enableLbPortMapping ∨
        ∀ binary child, host.which "cloud-provider-kind" = some binary →
          host.popen (argv binary (enableLbPortMapping.getD true)) = .ok child →
          LivesThroughCheck host child := by
  constructor
  · rintro ⟨_, recorded⟩
    by_cases stops : StopsBeforeSpawn host enableLbPortMapping
    · exact Or.inl stops
    · refine Or.inr ?_
      intro binary child found started
      have starts := (not_iff_not.mpr (stopsBeforeSpawn_iff host enableLbPortMapping)).mp stops
      obtain ⟨binary', child', start⟩ := not_not.mp starts
      have parts := (spawned_ok_iff host enableLbPortMapping binary' child').mp start
      have result := (create_ok_iff host enableLbPortMapping _).mpr ⟨binary', child', start, rfl⟩
      obtain ⟨other, same, start', _, _, running⟩ := recorded _ result
      have parts' := (spawned_ok_iff host enableLbPortMapping other same).mp start'
      rw [found] at parts'
      cases parts'.1
      have equal : child = same := Except.ok.inj (started.symm.trans parts'.2.2)
      subst equal
      exact (running_iff host child false).mp running
  · intro condition
    have lives : ∀ binary child, spawned host enableLbPortMapping = .ok (binary, child) →
        childState child false (checkTime host) = .running := by
      intro binary child start
      have parts := (spawned_ok_iff host enableLbPortMapping binary child).mp start
      rcases condition with stops | survives
      · exact absurd ⟨binary, child, start⟩
          ((stopsBeforeSpawn_iff host enableLbPortMapping).mp stops)
      · exact (running_iff host child false).mpr (survives binary child parts.1 parts.2.2)
    constructor
    · intro binary child start ended
      exact absurd (lives binary child start) ended
    · intro result recorded
      obtain ⟨binary, child, start, shape⟩ :=
        (create_ok_iff host enableLbPortMapping result).mp recorded
      refine ⟨binary, child, start, ?_, ?_, lives binary child start⟩
      · rw [shape]
      · rw [shape]

/-- A machine on which the daemon, started as pid 4711, ends after 100 ms. -/
def failingHost : Host :=
  { which := fun name => if name = "cloud-provider-kind" then some "/usr/bin/cloud-provider-kind"
      else none
    isRoot := true, system := "Linux", run := fun _ => none, jsonLoads := fun _ => none
    stateDir := "/work/.state", openLog := .ok (), popen := fun _ => .ok ⟨4711, some 100⟩
    lag := 0, logText := some "permission denied on the docker socket\n" }

/-- The zombie is recorded as the daemon. -/
theorem zombie_is_recorded :
    childState ⟨4711, some 100⟩ false (checkTime failingHost) = .zombie ∧
    (create failingHost (some true)).2 =
      .ok { id := "4711", pid := 4711, logPath := "/work/.state/cloud-provider-kind.log",
            binaryPath := "/usr/bin/cloud-provider-kind", enableLbPortMapping := true } ∧
    ¬RecordsRunning failingHost (some true) := by
  refine ⟨by decide, by decide, ?_⟩
  rintro ⟨raises, _⟩
  obtain ⟨failure, raised⟩ := raises "/usr/bin/cloud-provider-kind" ⟨4711, some 100⟩ rfl (by decide)
  cases raised

end ClusterApiForSlinky.CloudProviderKind
