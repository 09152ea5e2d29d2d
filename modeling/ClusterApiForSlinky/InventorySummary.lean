import ClusterApiForSlinky.InventoryOrder

/-!
The three outputs of capi_slurm_inventory.py. `main` builds the inventory with
the arguments it was given; `summary_from_machines` builds it again without
them, so the summary follows the default labels and types.
-/

namespace ClusterApiForSlinky.InventorySummary
open MachineInventory InventoryGraph

structure Summary where
  clusters : List String
  hosts : List String
  hostCount : Nat
  groups : List String
  deriving DecidableEq, Repr

/-- `value["capi_cluster"]`, where it is there and not empty. -/
def clusterOf : HostVars → Option String
  | .control _ => none
  | .machine capiCluster _ _ _ _ => Text.nonempty (some capiCluster)

def remoteHosts (inventory : Inventory) : Finset String :=
  inventory.hostvars.keys.erase "localhost"

def clusterNames (inventory : Inventory) : Finset String :=
  (remoteHosts inventory).biUnion (fun host =>
    ((inventory.hostvars.lookup host).bind clusterOf).toFinset)

/-- `sorted` over the elements of a set. -/
def sortedSet (items : Finset String) : List String :=
  Quotient.liftOn items.val sortedStrings InventoryOrder.sortedStrings_perm

/-- The summary of an inventory; its groups leave `_meta` out. -/
def summarize (inventory : Inventory) : Summary :=
  { clusters := sortedSet (clusterNames inventory)
    hosts := sortedSet (remoteHosts inventory)
    hostCount := inventory.hostvars.keys.card - 1
    groups := sortedSet inventory.groups.keys }

/-- The arguments of `inventory_from_machines` when a caller gives none. -/
def defaultArguments (executable : String) : Options := { executable }

def summaryFromMachines (executable : String) (machines : List Machine) : Summary :=
  summarize (inventoryFromMachines (defaultArguments executable) machines)

structure Arguments where
  host : Option String := none
  summary : Bool := false
  options : Options
  deriving DecidableEq, Repr

/-- What `main` prints. Hostvars of a host that is not there are `{}`. -/
inductive Output where
  | hostvars (value : Option HostVars)
  | summary (value : Summary)
  | inventory (value : Inventory)
  deriving DecidableEq

def main (arguments : Arguments) (machines : List Machine) : Output :=
  let inventory := inventoryFromMachines arguments.options machines
  match Text.nonempty arguments.host with
  | some host => .hostvars (inventory.hostvars.lookup host)
  | none =>
      if arguments.summary then
        .summary (summaryFromMachines arguments.options.executable machines)
      else .inventory inventory

/-- `--summary` and `--host host` say what the inventory of `--list` says. -/
structure OutputsAgree (options : Options) (machines : List Machine) (host : String) : Prop where
  summary : ∀ inventory, main { options } machines = .inventory inventory →
    main { summary := true, options } machines = .summary (summarize inventory)
  hostvars : ∀ inventory, main { options } machines = .inventory inventory →
    main { host := some host, options } machines = .hostvars (inventory.hostvars.lookup host)

/-! What a summary is made of, in terms of the machines. -/

/-- The entry whose hostvars a host ends up with: the last one listed for it. -/
def lastListed (options : Options) (machines : List Machine) (host : String) : Option Listed :=
  (machines.filterMap (listed options)).reverse.find? (fun entry => entry.hostname = host)

theorem lookup_lastListed (options : Options) (machines : List Machine) (host : String) :
    (inventoryFromMachines options machines).hostvars.lookup host =
      match lastListed options machines host with
      | some entry => some entry.hostvars
      | none => (initialInventory options).hostvars.lookup host := by
  simp only [inventoryFromMachines]
  -- from the right: the last machine is looked at first
  induction machines using List.reverseRecOn with
  | nil => rfl
  | append_singleton rest machine ih =>
      rw [Execution.run, List.foldl_concat]
      rw [Execution.run] at ih
      cases present : listed options machine with
      | none => simpa [addMachine, present, lastListed] using ih
      | some entry =>
          by_cases own : entry.hostname = host
          · subst own
            simp [addMachine, present, lastListed]
          · simpa [addMachine, present, lastListed, own, Ne.symm own] using ih

def ListedHost (options : Options) (machines : List Machine) (host : String) : Prop :=
  ∃ entry, Listing options machines entry ∧ entry.hostname = host

def ListedCluster (options : Options) (machines : List Machine) (cluster : String) : Prop :=
  ∃ host entry, host ≠ "localhost" ∧ lastListed options machines host = some entry ∧
    entry.cluster = cluster

def NamedGroup (options : Options) (machines : List Machine) (group : String) : Prop :=
  (group = "all" ∨ group = "management" ∨ group = "slurm") ∨
    ∃ entry, Listing options machines entry ∧ Names options entry group

/-- Under both sets of arguments the labels select machines with the same
hostnames, the same clusters and the same group names. -/
structure SameSelection (first second : Options) (machines : List Machine) : Prop where
  hosts : ∀ host, host ≠ "localhost" →
    (ListedHost first machines host ↔ ListedHost second machines host)
  clusters : ∀ cluster, ListedCluster first machines cluster ↔ ListedCluster second machines cluster
  groups : ∀ group, NamedGroup first machines group ↔ NamedGroup second machines group

theorem mem_remoteHosts (options : Options) (machines : List Machine) (host : String) :
    host ∈ remoteHosts (inventoryFromMachines options machines) ↔
      host ≠ "localhost" ∧ ListedHost options machines host := by
  rw [remoteHosts, Finset.mem_erase, Finmap.mem_keys, hostvars_mem]
  constructor
  · rintro ⟨remote, same | ⟨entry, member, named⟩⟩
    · exact absurd same remote
    · exact ⟨remote, entry, member, named.symm⟩
  · rintro ⟨remote, entry, member, named⟩
    exact ⟨remote, Or.inr ⟨entry, member, named.symm⟩⟩

theorem listing_of_lastListed (options : Options) (machines : List Machine) (host : String)
    (entry : Listed) (last : lastListed options machines host = some entry) :
    Listing options machines entry ∧ entry.hostname = host := by
  have found := List.mem_of_find?_eq_some last
  have named := List.find?_some last
  rw [List.mem_reverse, List.mem_filterMap] at found
  exact ⟨found, by simpa using named⟩

theorem lastListed_of_listed (options : Options) (machines : List Machine) (host : String)
    (present : ListedHost options machines host) :
    ∃ entry, lastListed options machines host = some entry := by
  obtain ⟨entry, ⟨machine, member, shown⟩, named⟩ := present
  rw [← Option.isSome_iff_exists, lastListed, List.find?_isSome]
  refine ⟨entry, ?_, by simpa using named⟩
  rw [List.mem_reverse, List.mem_filterMap]
  exact ⟨machine, member, shown⟩

theorem clusterOf_listed (options : Options) (machines : List Machine) (entry : Listed)
    (member : Listing options machines entry) : clusterOf entry.hostvars = some entry.cluster := by
  obtain ⟨machine, _, present⟩ := member
  obtain ⟨name, inNamespace, host, shown⟩ :=
    InventoryMembership.hostvars_labels options machine entry present
  rw [shown, clusterOf, Text.nonempty_eq_some]
  refine ⟨rfl, ?_⟩
  unfold listed at present
  split at present
  · next nodeType cluster _ clustered =>
      cases present
      exact ((Text.nonempty_eq_some _ _).mp clustered).2
  · cases present

theorem mem_clusterNames (options : Options) (machines : List Machine) (cluster : String) :
    cluster ∈ clusterNames (inventoryFromMachines options machines) ↔
      ListedCluster options machines cluster := by
  simp only [clusterNames, Finset.mem_biUnion, mem_remoteHosts, lookup_lastListed,
    Option.mem_toFinset, Option.mem_def]
  constructor
  · rintro ⟨host, ⟨remote, present⟩, shown⟩
    obtain ⟨entry, last⟩ := lastListed_of_listed options machines host present
    rw [last] at shown
    have own := clusterOf_listed options machines entry
      (listing_of_lastListed options machines host entry last).1
    exact ⟨host, entry, remote, last, Option.some.inj (own.symm.trans shown)⟩
  · rintro ⟨host, entry, remote, last, rfl⟩
    obtain ⟨member, named⟩ := listing_of_lastListed options machines host entry last
    refine ⟨host, ⟨remote, entry, member, named⟩, ?_⟩
    rw [last]
    exact clusterOf_listed options machines entry member

theorem mem_groupNames (options : Options) (machines : List Machine) (group : String) :
    group ∈ (inventoryFromMachines options machines).groups.keys ↔
      NamedGroup options machines group := by
  rw [Finmap.mem_keys, defined_iff, NamedGroup]

theorem hostCount_eq (options : Options) (machines : List Machine) :
    (inventoryFromMachines options machines).hostvars.keys.card - 1 =
      (remoteHosts (inventoryFromMachines options machines)).card := by
  rw [remoteHosts, Finset.card_erase_of_mem]
  exact Finmap.mem_keys.mpr ((hostvars_mem options machines "localhost").mpr (Or.inl rfl))

theorem mem_sortedSet (items : Finset String) (item : String) :
    item ∈ sortedSet items ↔ item ∈ items := by
  obtain ⟨members, distinct⟩ := items
  revert distinct
  refine Quotient.inductionOn members ?_
  intro list distinct
  exact (List.perm_insertionSort _ list).mem_iff

theorem sortedSet_inj (left right : Finset String) (same : sortedSet left = sortedSet right) :
    left = right := by
  ext item
  rw [← mem_sortedSet, same, mem_sortedSet]

theorem summarize_eq_iff (first second : Options) (machines : List Machine) :
    summarize (inventoryFromMachines first machines) =
        summarize (inventoryFromMachines second machines) ↔
      SameSelection first second machines := by
  constructor
  · intro same
    simp only [summarize, Summary.mk.injEq] at same
    obtain ⟨clusters, hosts, _, groups⟩ := same
    have sameClusters := sortedSet_inj _ _ clusters
    have sameHosts := sortedSet_inj _ _ hosts
    have sameGroups := sortedSet_inj _ _ groups
    refine ⟨?_, ?_, ?_⟩
    · intro host remote
      have member := mem_remoteHosts first machines host
      rw [sameHosts, mem_remoteHosts] at member
      simpa [remote] using member.symm
    · intro cluster
      rw [← mem_clusterNames, sameClusters, mem_clusterNames]
    · intro group
      rw [← mem_groupNames, sameGroups, mem_groupNames]
  · intro same
    have sameHosts : remoteHosts (inventoryFromMachines first machines) =
        remoteHosts (inventoryFromMachines second machines) := by
      ext host
      rw [mem_remoteHosts, mem_remoteHosts]
      exact and_congr_right fun remote => same.hosts host remote
    have sameClusters : clusterNames (inventoryFromMachines first machines) =
        clusterNames (inventoryFromMachines second machines) := by
      ext cluster
      rw [mem_clusterNames, mem_clusterNames]
      exact same.clusters cluster
    have sameGroups : (inventoryFromMachines first machines).groups.keys =
        (inventoryFromMachines second machines).groups.keys := by
      ext group
      rw [mem_groupNames, mem_groupNames]
      exact same.groups group
    simp only [summarize, hostCount_eq, sameHosts, sameClusters, sameGroups]

/-- The outputs agree for hosts with a name, as long as the default arguments
select what the given ones do. -/
theorem outputs_agree_iff (options : Options) (machines : List Machine) (host : String) :
    OutputsAgree options machines host ↔
      host ≠ "" ∧ SameSelection (defaultArguments options.executable) options machines := by
  have listing : main { options } machines =
      .inventory (inventoryFromMachines options machines) := rfl
  have summary : main { summary := true, options } machines =
      .summary (summaryFromMachines options.executable machines) := rfl
  rw [← summarize_eq_iff]
  constructor
  · intro agree
    have reported := agree.summary _ listing
    rw [summary, Output.summary.injEq] at reported
    refine ⟨?_, reported⟩
    rintro rfl
    have printed := agree.hostvars _ listing
    cases printed
  · rintro ⟨named, same⟩
    constructor
    · intro inventory shown
      rw [listing, Output.inventory.injEq] at shown
      rw [summary, ← shown, ← same, summaryFromMachines]
    · intro inventory shown
      rw [listing, Output.inventory.injEq] at shown
      have given : Text.nonempty (some host) = some host :=
        (Text.nonempty_eq_some _ _).mpr ⟨rfl, named⟩
      simp only [main, given, shown]

/-- A cluster whose machines carry another node-type label. -/
def relabelled : List Machine :=
  [{ name := some "worker-0"
     labels := [("example.com/role", "compute"), (clusterNameLabel, "tenant-a")] }]

def relabelledOptions : Options := { nodeTypeLabel := "example.com/role", executable := "python3" }

theorem relabelled_summary_empty :
    "worker-0" ∉ (summaryFromMachines "python3" relabelled).hosts ∧
    "worker-0" ∈ (summarize (inventoryFromMachines relabelledOptions relabelled)).hosts ∧
    ¬OutputsAgree relabelledOptions relabelled "worker-0" := by
  have reported : "worker-0" ∉ (summaryFromMachines "python3" relabelled).hosts := by
    rw [summaryFromMachines, summarize, mem_sortedSet, mem_remoteHosts]
    rintro ⟨_, entry, ⟨machine, member, present⟩, _⟩
    rw [List.mem_singleton.mp member] at present
    cases present
  have printed : "worker-0" ∈
      (summarize (inventoryFromMachines relabelledOptions relabelled)).hosts := by
    rw [summarize, mem_sortedSet, mem_remoteHosts]
    exact ⟨by decide, _, ⟨_, List.mem_singleton_self _, rfl⟩, rfl⟩
  refine ⟨reported, printed, ?_⟩
  intro agree
  have same := agree.summary _ rfl
  rw [show main { summary := true, options := relabelledOptions } relabelled =
    .summary (summaryFromMachines "python3" relabelled) from rfl, Output.summary.injEq] at same
  rw [same] at reported
  exact reported printed

end ClusterApiForSlinky.InventorySummary
