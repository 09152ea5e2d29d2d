import ClusterApiForSlinky.Text

/-!
The `CtlptlCluster` dynamic provider of ctlptl/ctlptl_cluster.py. The generated
hosts.toml files lie below one directory, by the cluster they were written for
and by the entry of its certs.d directory. They stay there whatever becomes of
the cluster. `Host` says what the machine does during one provider call: which
binaries there are, how each command ends and the token that is drawn. A call
logs the commands it runs.
-/

namespace ClusterApiForSlinky.CtlptlCluster

/-- A name that is one component of a path, as those of kind and Docker are. -/
structure Name where
  text : String
  component : '/' ∉ text.toList
  deriving DecidableEq

theorem component_append (first second : String) (left : '/' ∉ first.toList)
    (right : '/' ∉ second.toList) : '/' ∉ (first ++ second).toList := by
  rw [String.toList_append, List.mem_append, not_or]
  exact ⟨left, right⟩

def Name.append (first second : Name) : Name :=
  ⟨first.text ++ second.text, component_append _ _ first.component second.component⟩

/-- The name, when it is truthy. -/
def given (name : Option Name) : Option Name := name.filter (fun value => value.text ≠ "")

/-- What a caller may give for `custom_registry_names`. -/
inductive RegistryInput where
  | absent
  | one (name : Name)
  | many (names : List Name)
  deriving DecidableEq

/-- The property bag of the resource. `None` and an absent key read the same. -/
structure Props where
  clusterName : Option Name := none
  registryName : Option Name := none
  customRegistryNames : RegistryInput := .absent
  autonameSeed : Option Name := none
  kubeconfig : Option String := none
  context : Option Name := none
  deriving DecidableEq

/-- The loop of `_registry_names`. -/
def addNames (names : List Name) : List Name → List Name
  | [] => names
  | item :: rest =>
      if item.text ≠ "" ∧ item ∉ names then addNames (names ++ [item]) rest else addNames names rest

def registryNames : RegistryInput → List Name
  | .absent => []
  | .one name => addNames [] [name]
  | .many names => addNames [] names

/-! The manifest, as ctlptl reads it. -/

structure Mount where
  hostPath : String
  containerPath : String
  readOnly : Bool
  deriving DecidableEq

structure KindNode where
  role : String
  image : String
  extraMounts : List Mount
  deriving DecidableEq

structure Manifest where
  name : String
  ipFamily : String
  nodes : List KindNode
  deriving DecidableEq

def nodeImage : String :=
  "kindest/node:v1.36.1@sha256:" ++
    "3489c7674813ba5d8b1a9977baea8a6e553784dab7b84759d1014dbd78f7ebd5"

def certsMountPath : String := "/etc/containerd/certs.d"

def templateMounts : List Mount :=
  [⟨"$\x7bCONTAINERD_CERTS_D\x7d", certsMountPath, true⟩,
    ⟨"/var/run/docker.sock", "/var/run/docker.sock", false⟩]

def manifestTemplate : Manifest :=
  { name := "$\x7bCLUSTER_NAME\x7d"
    ipFamily := "dual"
    nodes := [⟨"control-plane", nodeImage, templateMounts⟩, ⟨"worker", nodeImage, templateMounts⟩] }

/-- The two placeholders are replaced one after the other. -/
def fillIn (clusterName certsDir text : String) : String :=
  Text.replace (Text.replace text "$\x7bCLUSTER_NAME\x7d" clusterName) "$\x7bCONTAINERD_CERTS_D\x7d"
    certsDir

def rendered (clusterName certsDir : String) : Manifest :=
  { name := fillIn clusterName certsDir manifestTemplate.name
    ipFamily := fillIn clusterName certsDir manifestTemplate.ipFamily
    nodes := manifestTemplate.nodes.map (fun node =>
      { role := fillIn clusterName certsDir node.role
        image := fillIn clusterName certsDir node.image
        extraMounts := node.extraMounts.map (fun mount =>
          { hostPath := fillIn clusterName certsDir mount.hostPath
            containerPath := fillIn clusterName certsDir mount.containerPath
            readOnly := mount.readOnly }) }) }

inductive Command where
  | apply (manifest : Manifest)
  | networkConnect (registry : Name)
  | viewConfig (context : Name)
  | deleteCluster (id : Name)
  deriving DecidableEq

structure Answer where
  returncode : Int
  stdout : String
  stderr : String
  deriving DecidableEq

structure Host where
  which : String → Bool
  answer : Command → Answer
  tokenHex : Name

/-- The exceptions a provider call can raise. -/
inductive Failure where
  | binaryNotFound (name : String)
  | registryNameRequired
  | commandFailed (command : Command)
  | attachFailed (registry : Name) (stderr : String)
  deriving DecidableEq

/-- The hosts.toml files, by cluster and by entry of its certs.d directory. -/
abbrev Files := Name → String → Option String

structure World where
  files : Files
  log : List Command

def World.ran (world : World) (command : Command) : World :=
  { world with log := world.log ++ [command] }

def dockerIoEntry : String := "docker.io"
def endpoint (registry : Name) : String := registry.text ++ ":5000"

/-- The certs.d directory of a cluster below `_GENERATED_CONFIG_DIR`. -/
def certsDir (generatedConfigDir : String) (cluster : Name) : String :=
  generatedConfigDir ++ "/" ++ cluster.text ++ "/certs.d"

def dockerIoHosts (registry : Name) : String :=
  "server = \"https://registry-1.docker.io\"\n\n" ++
    "[host.\"http://" ++ registry.text ++ ":5000\"]\n" ++
    "  capabilities = [\"pull\", \"resolve\"]\n"

def registryHosts (registry : Name) : String :=
  "server = \"http://" ++ endpoint registry ++ "\"\n\n" ++
    "[host.\"http://" ++ endpoint registry ++ "\"]\n" ++
    "  capabilities = [\"pull\", \"resolve\"]\n"

def writeHosts (files : Files) (cluster : Name) (entry text : String) : Files :=
  fun otherCluster other =>
    if otherCluster = cluster ∧ other = entry then some text else files otherCluster other

def dockerIoHostsToml (cluster registry : Name) (files : Files) : Files :=
  writeHosts files cluster dockerIoEntry (dockerIoHosts registry)

def registryHostsToml (cluster registry : Name) (files : Files) : Files :=
  writeHosts files cluster (endpoint registry) (registryHosts registry)

def writeCustomRegistryHostsToml (cluster : Name) (registries : List Name) (files : Files) : Files :=
  registries.foldl (fun written registry => registryHostsToml cluster registry written) files

def render (generatedConfigDir : String) (cluster : Name) (registry : Option Name)
    (customRegistries : List Name) (world : World) : Except Failure Manifest × World :=
  match given registry with
  | none => (.error .registryNameRequired, world)
  | some registry =>
      let files := writeCustomRegistryHostsToml cluster customRegistries
        (dockerIoHostsToml cluster registry world.files)
      (.ok (rendered cluster.text (certsDir generatedConfigDir cluster)), { world with files })

/-- Docker's answer says that the container is on the network. -/
def isAttached (answer : Answer) : Bool :=
  answer.returncode = 0 || Text.contains answer.stderr "already exists" ||
    Text.contains answer.stderr "is already attached"

def connectRegistry (host : Host) (registry : Name) (world : World) :
    Except Failure Unit × World :=
  if !host.which "docker" then (.error (.binaryNotFound "docker"), world)
  else
    let answer := host.answer (.networkConnect registry)
    let after := world.ran (.networkConnect registry)
    if isAttached answer then (.ok (), after)
    else (.error (.attachFailed registry (Text.strip answer.stderr)), after)

def connectAll (host : Host) : List Name → World → Except Failure Unit × World
  | [], world => (.ok (), world)
  | registry :: rest, world =>
      match connectRegistry host registry world with
      | (.ok (), after) => connectAll host rest after
      | (.error failure, after) => (.error failure, after)

def fetchKubeconfig (host : Host) (context : Name) (world : World) :
    Except Failure String × World :=
  if !host.which "kubectl" then (.error (.binaryNotFound "kubectl"), world)
  else
    let command := Command.viewConfig context
    let answer := host.answer command
    if answer.returncode = 0 then (.ok answer.stdout, world.ran command)
    else (.error (.commandFailed command), world.ran command)

/-- Whether `check` lets the inputs through. -/
def check (news : Props) : Bool :=
  match given news.clusterName with
  | none => true
  | some name => Text.startsWith name.text "kind-"

structure CreateResult where
  id : Name
  outs : Props
  deriving DecidableEq

def autoname (host : Host) (props : Props) : Name :=
  Name.append ⟨"kind-", by decide⟩ (Name.append ((given props.autonameSeed).getD ⟨"mgmt", by decide⟩)
    (Name.append ⟨"-", by decide⟩ host.tokenHex))

def clusterName (host : Host) (props : Props) : Name :=
  (given props.clusterName).getD (autoname host props)

def create (generatedConfigDir : String) (host : Host) (props : Props) (world : World) :
    Except Failure CreateResult × World :=
  if !host.which "ctlptl" then (.error (.binaryNotFound "ctlptl"), world)
  else
    let cluster := clusterName host props
    let customRegistries := registryNames props.customRegistryNames
    match render generatedConfigDir cluster props.registryName customRegistries world with
    | (.error failure, after) => (.error failure, after)
    | (.ok manifest, after) =>
        let command := Command.apply manifest
        let applied := after.ran command
        if (host.answer command).returncode ≠ 0 then (.error (.commandFailed command), applied)
        else match connectAll host
            (registryNames (.many (props.registryName.toList ++ customRegistries))) applied with
          | (.error failure, connected) => (.error failure, connected)
          | (.ok (), connected) =>
              match fetchKubeconfig host cluster connected with
              | (.error failure, fetched) => (.error failure, fetched)
              | (.ok kubeconfig, fetched) =>
                  (.ok { id := cluster
                         outs := { clusterName := some cluster
                                   registryName := props.registryName
                                   customRegistryNames := .many customRegistries
                                   kubeconfig := some kubeconfig
                                   context := some cluster } }, fetched)

/-- `ctlptl delete cluster` runs unchecked, so its exit code does not matter. -/
def delete (host : Host) (id : Name) (world : World) : Except Failure Unit × World :=
  if !host.which "ctlptl" then (.error (.binaryNotFound "ctlptl"), world)
  else (.ok (), world.ran (.deleteCluster id))

structure DiffResult where
  changes : Bool
  replaces : List String
  deleteBeforeReplace : Bool
  deriving DecidableEq

def diff (olds news : Props) : DiffResult :=
  let pinned := given news.clusterName
  let replaces :=
    (if pinned.isSome ∧ pinned ≠ olds.clusterName then ["cluster_name"] else []) ++
    (if news.registryName ≠ olds.registryName then ["registry_name"] else []) ++
    (if registryNames news.customRegistryNames ≠ registryNames olds.customRegistryNames then
      ["custom_registry_names"] else [])
  { changes := !replaces.isEmpty, replaces, deleteBeforeReplace := true }

end ClusterApiForSlinky.CtlptlCluster
