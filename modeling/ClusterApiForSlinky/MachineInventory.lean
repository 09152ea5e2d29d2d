import Mathlib.Data.List.Sort
import ClusterApiForSlinky.Dictionary
import ClusterApiForSlinky.Execution
import ClusterApiForSlinky.Text

/-!
The AWX inventory of awx/inventory/capi_slurm_inventory.py. The top-level
mapping is kept as its `_meta` hostvars and its groups: a group name never
starts with an underscore, so no group can be called `_meta`.
-/

namespace ClusterApiForSlinky.MachineInventory

def clusterNameLabel : String := "cluster.x-k8s.io/cluster-name"

structure Address where
  type : Option String := none
  address : Option String := none
  deriving DecidableEq, Repr

/-- The fields of a Machine object that the inventory reads. -/
structure Machine where
  name : Option String := none
  «namespace» : Option String := none
  labels : List (String × String) := []
  addresses : List Address := []
  nodeRefName : Option String := none
  deriving DecidableEq, Repr

structure Options where
  nodeTypeLabel : String := "slinky.slurm.net/node-type"
  controllerNodeType : String := "controller"
  computeNodeType : String := "compute"
  executable : String
  deriving DecidableEq, Repr

inductive HostVars where
  | control (pythonInterpreter : String)
  | machine (capiCluster : String) (capiMachine capiNamespace : Option String)
      (nodeType : String) (ansibleHost : Option String)
  deriving DecidableEq, Repr

/-- A group; a key that was never set is `none`. -/
structure Group where
  children : Option (List String) := none
  hosts : Option (List String) := none
  deriving DecidableEq, Repr

structure Inventory where
  hostvars : Dictionary HostVars
  groups : Dictionary Group
  deriving DecidableEq

/-- `re.sub(r"[^A-Za-z0-9_]", "_", value)`, one character at a time. -/
def groupChar (char : Char) : Char :=
  if char.isAlphanum || char = '_' then char else '_'

def sanitizeGroup (value : String) : String :=
  let stripped := Text.stripChars (fun char => char = '_') (value.toList.map groupChar)
  (Text.nonempty (some (String.ofList (stripped.map Char.toLower)))).getD "unknown"

def address (machine : Machine) (addressType : String) : Option String :=
  (machine.addresses.find? (fun entry =>
    entry.type = some addressType && (Text.nonempty entry.address).isSome)).bind Address.address

def machineHostname (machine : Machine) : String :=
  -- Each alternative counts only when it is a non-empty text.
  ((address machine "Hostname").or
    ((Text.nonempty machine.nodeRefName).or (Text.nonempty machine.name))).getD "unknown"

def machineHostvars (options : Options) (machine : Machine) : HostVars :=
  .machine ((machine.labels.lookup clusterNameLabel).getD "unknown") machine.name
    machine.namespace ((machine.labels.lookup options.nodeTypeLabel).getD "unknown")
    ((address machine "ExternalIP").or (address machine "InternalIP"))

/-- A machine the loop does not skip: it has a node type and a cluster name. -/
structure Listed where
  nodeType : String
  cluster : String
  hostname : String
  hostvars : HostVars
  deriving DecidableEq, Repr

def listed (options : Options) (machine : Machine) : Option Listed :=
  match Text.nonempty (machine.labels.lookup options.nodeTypeLabel),
      Text.nonempty (machine.labels.lookup clusterNameLabel) with
  | some nodeType, some cluster =>
      some { nodeType, cluster, hostname := machineHostname machine
             hostvars := machineHostvars options machine }
  | _, _ => none

def clusterGroup (entry : Listed) : String := "cluster_" ++ sanitizeGroup entry.cluster
def typeGroup (entry : Listed) : String := sanitizeGroup entry.nodeType
def clusterTypeGroup (entry : Listed) : String :=
  typeGroup entry ++ "_" ++ sanitizeGroup entry.cluster

def insertNew (items : List String) (item : String) : List String :=
  if item ∈ items then items else items ++ [item]

/-- Adds a child; the source has set a default for the group before it indexes it. -/
def addChild (group child : String) (groups : Dictionary Group) : Dictionary Group :=
  let held := (groups.lookup group).getD {}
  groups.insert group { held with children := some (insertNew (held.children.getD []) child) }

def addHost (group host : String) (groups : Dictionary Group) : Dictionary Group :=
  let held := (groups.lookup group).getD {}
  groups.insert group { held with hosts := some (insertNew (held.hosts.getD []) host) }

def addRole (isRole : Bool) (role child : String) (groups : Dictionary Group) :
    Dictionary Group :=
  if isRole then addChild role child (groups.setDefault role { children := some [] })
  else groups

/-- The body of the loop for a machine it does not skip. -/
def addGroups (options : Options) (entry : Listed) (groups : Dictionary Group) :
    Dictionary Group :=
  let pair := clusterTypeGroup entry
  let groups := groups.setDefault (clusterGroup entry) { children := some [] }
  let groups := groups.setDefault (typeGroup entry) { children := some [] }
  let groups := groups.setDefault pair { hosts := some [] }
  -- The source appends a name only when it is not listed yet.
  let groups := addChild "all" (clusterGroup entry) groups
  let groups := addChild "slurm" (clusterGroup entry) groups
  let groups := addChild (clusterGroup entry) pair groups
  let groups := addChild (typeGroup entry) pair groups
  let groups := addChild "slurm" (typeGroup entry) groups
  let groups := addHost pair entry.hostname groups
  let groups := addRole (entry.nodeType = options.controllerNodeType) "controller" pair groups
  addRole (entry.nodeType = options.computeNodeType) "compute" pair groups

def addMachine (options : Options) (inventory : Inventory) (machine : Machine) : Inventory :=
  match listed options machine with
  | none => inventory
  | some entry =>
      { hostvars := inventory.hostvars.insert entry.hostname entry.hostvars
        groups := addGroups options entry inventory.groups }

def initialInventory (options : Options) : Inventory where
  hostvars := Finmap.singleton "localhost" (.control options.executable)
  groups := [⟨"all", { children := some ["management", "slurm"] }⟩,
    ⟨"management", { hosts := some ["localhost"] }⟩,
    ⟨"slurm", { children := some [] }⟩].toFinmap

def sortedStrings (items : List String) : List String := items.insertionSort (· ≤ ·)

def sortGroup (group : Group) : Group :=
  { children := group.children.map sortedStrings, hosts := group.hosts.map sortedStrings }

def inventoryFromMachines (options : Options) (machines : List Machine) : Inventory :=
  let collected := Execution.run (addMachine options) (initialInventory options) machines
  { collected with groups := collected.groups.mapValues sortGroup }

theorem toLower_underscore (char : Char) (lower : char.toLower = '_') : char = '_' := by
  unfold Char.toLower at lower
  split at lower
  · next upper =>
      exfalso
      have value : char.val + ('a'.val - 'A'.val) = 95 := congrArg Char.val lower
      obtain ⟨low, high⟩ := upper
      have low' : (65 : UInt32) ≤ char.val := low
      have high' : char.val ≤ (90 : UInt32) := high
      have value' : char.val + 32 = 95 := value
      have n := congrArg UInt32.toNat value'
      rw [UInt32.le_iff_toNat_le] at low' high'
      simp at n low' high'
      omega
  · exact lower

/-- A sanitized name is not empty and does not start with an underscore. -/
theorem sanitizeGroup_start (value : String) :
    ∃ first rest, (sanitizeGroup value).toList = first :: rest ∧ first ≠ '_' := by
  unfold sanitizeGroup
  cases stripped : Text.stripChars (fun char => char = '_') (value.toList.map groupChar) with
  | nil => exact ⟨'u', "nknown".toList, rfl, by decide⟩
  | cons head tail =>
      have kept := Text.stripChars_start _ _ head tail stripped
      have text : Text.nonempty (some (String.ofList ((head :: tail).map Char.toLower))) =
          some (String.ofList ((head :: tail).map Char.toLower)) := by
        rw [Text.nonempty_eq_some]
        refine ⟨rfl, ?_⟩
        intro empty
        have none := congrArg String.toList empty
        simp at none
      -- Lowering cannot turn the kept first character into an underscore.
      refine ⟨head.toLower, tail.map Char.toLower, ?_, ?_⟩
      · change ((Text.nonempty (some (String.ofList ((head :: tail).map Char.toLower)))).getD
          "unknown").toList = _
        rw [text]
        simp
      · intro lowered
        simp [toLower_underscore head lowered] at kept

/-- The groups of a machine stay apart from `_meta`. -/
theorem group_names_ne_meta (entry : Listed) :
    clusterGroup entry ≠ "_meta" ∧ typeGroup entry ≠ "_meta" ∧
      clusterTypeGroup entry ≠ "_meta" := by
  have start : ∀ tail : List Char,
      (sanitizeGroup entry.nodeType).toList ++ tail ≠ "_meta".toList := by
    intro tail same
    obtain ⟨first, rest, name, plain⟩ := sanitizeGroup_start entry.nodeType
    rw [name] at same
    injection same with head
    exact plain head
  refine ⟨?_, ?_, ?_⟩
  · intro same
    have lists := congrArg String.toList same
    simp only [clusterGroup, String.toList_append] at lists
    injection lists with head
    revert head
    decide
  · intro same
    have lists := congrArg String.toList same
    exact start [] (by simpa [typeGroup] using lists)
  · intro same
    have lists := congrArg String.toList same
    exact start _ (by simpa [clusterTypeGroup, typeGroup] using lists)

end ClusterApiForSlinky.MachineInventory
