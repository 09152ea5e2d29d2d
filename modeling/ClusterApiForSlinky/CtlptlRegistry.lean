import ClusterApiForSlinky.Text

/-!
The `CtlptlRegistry` dynamic provider of ctlptl/ctlptl_registry.py over a model
of the `ctlptl` command line. A provider call runs commands against the set of
registries ctlptl knows and appends each one to a log. `Host` says what the
machine does during one call: whether ctlptl is installed, which commands exit
with an error or print something that is not JSON, the port ctlptl would pick
and the token `secrets.token_hex` draws.
-/

namespace ClusterApiForSlinky.CtlptlRegistry

def defaultRegistryEnv : List String := ["REGISTRY_PROXY_REMOTEURL=https://mirror.gcr.io"]
def defaultAdoptExisting : Bool := true
def defaultDeleteOnDestroy : Bool := false
def registryListenAddress : String := "0.0.0.0"

/-- The property bag of the resource: what `check`, `create` and `update` are
given and what they record. `None` and an absent key read the same. -/
structure Props where
  registryName : Option String := none
  port : Option Int := none
  env : Option (List String) := none
  adoptExisting : Option Bool := none
  adopted : Option Bool := none
  deleteOnDestroy : Option Bool := none
  autonameSeed : Option String := none
  deriving DecidableEq, Repr

/-- One registry as `ctlptl get registry -o json` prints it. -/
structure RegistryObject where
  name : Option String := none
  metadataName : Option String := none
  port : Option Int := none
  statusHostPort : Option Int := none
  env : Option (List String) := none
  statusEnv : Option (List String) := none
  deriving DecidableEq, Repr

/-- A port is truthy when it is not zero. -/
def nonzero (port : Option Int) : Option Int := port.filter (fun value => value ≠ 0)

def registryName (data : RegistryObject) : Option String :=
  (Text.nonempty data.name).or (Text.nonempty data.metadataName)

def registryPort (data : RegistryObject) : Option Int :=
  (nonzero data.port).or (nonzero data.statusHostPort)

def nonemptyList (values : Option (List String)) : Option (List String) :=
  values.filter (fun items => items ≠ [])

def registryEnv (data : RegistryObject) : List String :=
  ((nonemptyList data.env).or (nonemptyList data.statusEnv)).getD []

def envIsCompatible (data : RegistryObject) (desired : Option (List String)) : Bool :=
  match nonemptyList desired with
  | none => true
  | some items => items.all (fun item => item ∈ registryEnv data)

/-- The manifest `ctlptl apply -f -` reads; `port` and `env` are present only
when the caller's value is truthy. -/
structure Manifest where
  name : String
  listenAddress : String
  port : Option Int
  env : Option (List String)
  deriving DecidableEq, Repr

def registryManifest (name : String) (port : Option Int) (env : Option (List String)) :
    Manifest :=
  { name, listenAddress := registryListenAddress, port := nonzero port, env := nonemptyList env }

inductive Command where
  | getRegistries
  | getRegistry (name : String)
  | apply (manifest : Manifest)
  | deleteRegistry (name : String)
  deriving DecidableEq, Repr

/-- The exceptions a provider call can raise. -/
inductive Failure where
  | binaryNotFound (name : String)
  | commandFailed (command : Command)
  | notJson (command : Command)
  | noPort (name : String)
  | noObservedPort (name : String)
  deriving DecidableEq, Repr

structure World where
  registries : List RegistryObject
  log : List Command
  deriving DecidableEq, Repr

structure Host where
  installed : Bool
  fails : Command → Bool
  garbled : Command → Bool
  freePort : Int
  tokenHex : String

def lookup (name : String) (registries : List RegistryObject) : Option RegistryObject :=
  registries.find? (fun data => registryName data == some name)

/-- ctlptl honours a pinned port, keeps the port of a registry that exists and
otherwise binds a free one. -/
def boundPort (host : Host) (manifest : Manifest) (registries : List RegistryObject) : Int :=
  (manifest.port.or ((lookup manifest.name registries).bind registryPort)).getD host.freePort

def applied (host : Host) (manifest : Manifest) (registries : List RegistryObject) :
    RegistryObject :=
  let port := boundPort host manifest registries
  { name := some manifest.name, port := some port, statusHostPort := some port
    statusEnv := manifest.env }

def serve (host : Host) (registries : List RegistryObject) : Command → Option (List RegistryObject)
  | .getRegistries => some registries
  | .getRegistry name => if (lookup name registries).isSome then some registries else none
  | .apply manifest =>
      some (applied host manifest registries ::
        registries.filter (fun data => registryName data ≠ some manifest.name))
  | .deleteRegistry name =>
      some (registries.filter (fun data => registryName data ≠ some name))

/-- `_run`: whether the command exits with code zero, and the world after it. -/
def runCommand (host : Host) (command : Command) (world : World) : Bool × World :=
  let log := world.log ++ [command]
  if !host.installed || host.fails command then (false, { world with log })
  else match serve host world.registries command with
    | some registries => (true, { registries, log })
    | none => (false, { world with log })

def observePort (host : Host) (name : String) (world : World) : Except Failure Int × World :=
  let command := Command.getRegistry name
  let ran := runCommand host command world
  if !ran.1 then (.error (.commandFailed command), ran.2)
  else if host.garbled command then (.error (.notJson command), ran.2)
  else match (lookup name ran.2.registries).bind registryPort with
    | some port => (.ok port, ran.2)
    | none => (.error (.noPort name), ran.2)

/-- The loop of `_first_registry_with_prefix` over the listed registries. -/
def firstMatch (start : String) (env : Option (List String)) (port : Option Int) :
    List RegistryObject → Except Failure (Option (String × Int))
  | [] => .ok none
  | item :: rest =>
      match registryName item with
      | none => firstMatch start env port rest
      | some name =>
          if !Text.startsWith name start then firstMatch start env port rest
          else if !envIsCompatible item env then firstMatch start env port rest
          else match registryPort item with
            -- Whatever port is asked for, a match that shows none raises.
            | none => .error (.noObservedPort name)
            | some observed =>
                if port.isSome && port ≠ some observed then firstMatch start env port rest
                else .ok (some (name, observed))

def firstRegistryWithPrefix (host : Host) (start : String) (env : Option (List String))
    (port : Option Int) (world : World) : Except Failure (Option (String × Int)) × World :=
  let ran := runCommand host .getRegistries world
  if !ran.1 || host.garbled .getRegistries then (.ok none, ran.2)
  else (firstMatch start env port ran.2.registries, ran.2)

def envProp (props : Props) : Option (List String) :=
  match props.env with
  | none => some defaultRegistryEnv
  | some [] => none
  | some items => some items

def adoptExistingProp (props : Props) : Bool := props.adoptExisting.getD defaultAdoptExisting
def deleteOnDestroyProp (props : Props) : Bool :=
  props.deleteOnDestroy.getD defaultDeleteOnDestroy
def adoptedProp (props : Props) : Bool := props.adopted.getD false

/-- `check` only carries a bound port forward when the caller unpinned it. -/
def check (olds news : Props) : Props :=
  match nonzero news.port, nonzero olds.port with
  | none, some port => { news with port := some port }
  | _, _ => news

structure CreateResult where
  id : String
  outs : Props
  deriving DecidableEq, Repr

def outputs (props : Props) (name : String) (port : Int) (adopted : Bool) : Props :=
  { registryName := some name
    port := some port
    env := envProp props
    adoptExisting := some (adoptExistingProp props)
    adopted := some adopted
    deleteOnDestroy := some (deleteOnDestroyProp props) }

def newName (host : Host) (props : Props) : String :=
  (Text.nonempty props.registryName).getD
    ((Text.nonempty props.autonameSeed).getD "ctlptl-registry" ++ "-" ++ host.tokenHex)

/-- The part of `create` that makes a registry instead of adopting one. -/
def createNew (host : Host) (props : Props) (world : World) :
    Except Failure CreateResult × World :=
  let name := newName host props
  let command := Command.apply (registryManifest name props.port (envProp props))
  let ran := runCommand host command world
  if !ran.1 then (.error (.commandFailed command), ran.2)
  else match observePort host name ran.2 with
    | (.ok port, after) => (.ok { id := name, outs := outputs props name port false }, after)
    | (.error failure, after) => (.error failure, after)

def create (host : Host) (props : Props) (world : World) : Except Failure CreateResult × World :=
  if !host.installed then (.error (.binaryNotFound "ctlptl"), world)
  -- Adopting takes the configured name for a prefix, creating for the name.
  else if adoptExistingProp props then
    match firstRegistryWithPrefix host (props.registryName.getD "") (envProp props)
        (nonzero props.port) world with
    | (.error failure, after) => (.error failure, after)
    | (.ok (some (name, port)), after) =>
        (.ok { id := name, outs := outputs props name port true }, after)
    | (.ok none, after) => createNew host props after
  else createNew host props world

/-- `ctlptl delete registry` runs unchecked, so its exit code does not matter. -/
def delete (host : Host) (id : String) (props : Props) (world : World) :
    Except Failure Unit × World :=
  if !host.installed then (.error (.binaryNotFound "ctlptl"), world)
  else if adoptedProp props || !deleteOnDestroyProp props then (.ok (), world)
  else (.ok (), (runCommand host (.deleteRegistry id) world).2)

structure DiffResult where
  changes : Bool
  replaces : List String
  deleteBeforeReplace : Bool
  deriving DecidableEq, Repr

def nameReplaces (id : String) (olds news : Props) : Bool :=
  let oldName := (Text.nonempty olds.registryName).getD id
  match Text.nonempty news.registryName with
  | none => false
  | some pinned =>
      -- An adopted registry may go by any name that starts with the pinned one.
      if adoptExistingProp news then !Text.startsWith oldName pinned else pinned ≠ oldName

def portReplaces (olds news : Props) : Bool :=
  match nonzero news.port with
  | none => false
  | some port => port ≠ olds.port.getD 0

def diff (id : String) (olds news : Props) : DiffResult :=
  let replaces :=
    (if nameReplaces id olds news then ["registry_name"] else []) ++
    (if portReplaces olds news then ["port"] else []) ++
    (if envProp news ≠ envProp olds then ["env"] else [])
  let mutableChanges := adoptExistingProp news != adoptExistingProp olds ||
    deleteOnDestroyProp news != deleteOnDestroyProp olds
  { changes := !replaces.isEmpty || mutableChanges, replaces, deleteBeforeReplace := true }

/-- What `update` and `read` make of a property bag: the id is its name, a port
that was seen replaces the one it had, and the adopted flag comes from `olds`. -/
def refreshed (id : String) (olds news : Props) (port : Option Int) : Props :=
  { news with
    registryName := some id
    port := port.or news.port
    env := envProp news
    adoptExisting := some (adoptExistingProp news)
    adopted := some (adoptedProp olds)
    deleteOnDestroy := some (deleteOnDestroyProp news) }

/-- A failure to observe the port is swallowed and the recorded one is kept. -/
def update (host : Host) (id : String) (olds news : Props) (world : World) : Props × World :=
  let observed := observePort host id world
  let port := match observed.1 with
    | .ok port => some port
    | .error _ => olds.port
  (refreshed id olds news (nonzero port), observed.2)

/-- `none` as the id tells Pulumi that the registry is gone. -/
protected def read (host : Host) (id : String) (props : Props) (world : World) :
    Except Failure (Option Props) × World :=
  if !host.installed then (.error (.binaryNotFound "ctlptl"), world)
  else
    let command := Command.getRegistry id
    let ran := runCommand host command world
    if !ran.1 || host.garbled command then (.ok none, ran.2)
    else
      let port := (lookup id ran.2.registries).bind registryPort
      (.ok (some (refreshed id props props port)), ran.2)

end ClusterApiForSlinky.CtlptlRegistry
