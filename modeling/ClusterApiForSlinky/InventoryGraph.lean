import Mathlib.Logic.Relation
import ClusterApiForSlinky.MachineInventory

/-!
The group graph of the inventory: which group lists which child and which host,
first for one machine and then for a whole list. The graph is well formed as
long as no node type sanitizes to a group name the code reserves for itself.
-/

namespace ClusterApiForSlinky.InventoryGraph
open MachineInventory

def children (groups : Dictionary Group) (group : String) : List String :=
  ((groups.lookup group).bind Group.children).getD []

def hosts (groups : Dictionary Group) (group : String) : List String :=
  ((groups.lookup group).bind Group.hosts).getD []

@[simp] theorem mem_insertNew (items : List String) (item probe : String) :
    probe ∈ insertNew items item ↔ probe ∈ items ∨ probe = item := by
  unfold insertNew
  by_cases present : item ∈ items
  · simp only [present, if_true]
    constructor
    · exact Or.inl
    · rintro (held | rfl)
      · exact held
      · exact present
  · simp [present]

/-! What each statement of the loop body does to the graph. -/

theorem children_addChild (group child probe item : String) (groups : Dictionary Group) :
    item ∈ children (addChild group child groups) probe ↔
      item ∈ children groups probe ∨ (probe = group ∧ item = child) := by
  by_cases same : probe = group
  · subst same
    cases held : groups.lookup probe <;>
      simp [children, addChild, held]
  · simp [children, addChild, same]

theorem hosts_addChild (group child probe : String) (groups : Dictionary Group) :
    hosts (addChild group child groups) probe = hosts groups probe := by
  by_cases same : probe = group
  · subst same
    cases held : groups.lookup probe <;>
      simp [hosts, addChild, held]
  · simp [hosts, addChild, same]

theorem children_addHost (group host probe : String) (groups : Dictionary Group) :
    children (addHost group host groups) probe = children groups probe := by
  by_cases same : probe = group
  · subst same
    cases held : groups.lookup probe <;>
      simp [children, addHost, held]
  · simp [children, addHost, same]

theorem hosts_addHost (group host probe item : String) (groups : Dictionary Group) :
    item ∈ hosts (addHost group host groups) probe ↔
      item ∈ hosts groups probe ∨ (probe = group ∧ item = host) := by
  by_cases same : probe = group
  · subst same
    cases held : groups.lookup probe <;>
      simp [hosts, addHost, held]
  · simp [hosts, addHost, same]

/-- A default that lists nothing adds no edge. -/
def Empty (group : Group) : Prop := group.children.getD [] = [] ∧ group.hosts.getD [] = []

theorem children_setDefault (key probe : String) (value : Group) (empty : Empty value)
    (groups : Dictionary Group) :
    children (groups.setDefault key value) probe = children groups probe := by
  by_cases same : probe = key
  · subst same
    cases held : groups.lookup probe <;>
      simp [children, Dictionary.lookup_setDefault, held, empty.1]
  · simp [children, Dictionary.lookup_setDefault, same]

theorem hosts_setDefault (key probe : String) (value : Group) (empty : Empty value)
    (groups : Dictionary Group) :
    hosts (groups.setDefault key value) probe = hosts groups probe := by
  by_cases same : probe = key
  · subst same
    cases held : groups.lookup probe <;>
      simp [hosts, Dictionary.lookup_setDefault, held, empty.2]
  · simp [hosts, Dictionary.lookup_setDefault, same]

theorem emptyChildren : Empty { children := some [] } := ⟨rfl, rfl⟩
theorem emptyHosts : Empty { hosts := some [] } := ⟨rfl, rfl⟩

theorem children_addRole (isRole : Bool) (role child probe item : String)
    (groups : Dictionary Group) :
    item ∈ children (addRole isRole role child groups) probe ↔
      item ∈ children groups probe ∨ (isRole = true ∧ probe = role ∧ item = child) := by
  cases isRole with
  | false => simp [addRole]
  | true => simp [addRole, children_addChild, children_setDefault _ _ _ emptyChildren]

theorem hosts_addRole (isRole : Bool) (role child probe : String) (groups : Dictionary Group) :
    hosts (addRole isRole role child groups) probe = hosts groups probe := by
  cases isRole with
  | false => simp [addRole]
  | true => simp [addRole, hosts_addChild, hosts_setDefault _ _ _ emptyChildren]

/-! One machine. -/

/-- The role groups a machine's pair is put under. -/
def Role (options : Options) (entry : Listed) (group : String) : Prop :=
  (entry.nodeType = options.controllerNodeType ∧ group = "controller") ∨
  (entry.nodeType = options.computeNodeType ∧ group = "compute")

/-- The edges one machine adds. -/
def Edge (options : Options) (entry : Listed) (group child : String) : Prop :=
  (group = "all" ∧ child = clusterGroup entry) ∨
  (group = "slurm" ∧ (child = clusterGroup entry ∨ child = typeGroup entry)) ∨
  ((group = clusterGroup entry ∨ group = typeGroup entry ∨ Role options entry group) ∧
    child = clusterTypeGroup entry)

/-- The groups a machine defines or extends. -/
def Names (options : Options) (entry : Listed) (group : String) : Prop :=
  group = "all" ∨ group = "slurm" ∨ group = clusterGroup entry ∨ group = typeGroup entry ∨
    group = clusterTypeGroup entry ∨ Role options entry group

theorem children_addGroups (options : Options) (entry : Listed) (groups : Dictionary Group)
    (group child : String) :
    child ∈ children (addGroups options entry groups) group ↔
      child ∈ children groups group ∨ Edge options entry group child := by
  simp only [addGroups, children_addRole, children_addHost, children_addChild,
    children_setDefault _ _ _ emptyChildren, children_setDefault _ _ _ emptyHosts,
    decide_eq_true_eq, Edge, Role]
  grind

theorem hosts_addGroups (options : Options) (entry : Listed) (groups : Dictionary Group)
    (group host : String) :
    host ∈ hosts (addGroups options entry groups) group ↔
      host ∈ hosts groups group ∨ (group = clusterTypeGroup entry ∧ host = entry.hostname) := by
  simp only [addGroups, hosts_addRole, hosts_addChild, hosts_addHost,
    hosts_setDefault _ _ _ emptyChildren, hosts_setDefault _ _ _ emptyHosts]

theorem mem_addChild (group child probe : String) (groups : Dictionary Group) :
    probe ∈ addChild group child groups ↔ probe ∈ groups ∨ probe = group := by
  simp [addChild, or_comm]

theorem mem_addHost (group host probe : String) (groups : Dictionary Group) :
    probe ∈ addHost group host groups ↔ probe ∈ groups ∨ probe = group := by
  simp [addHost, or_comm]

theorem mem_addRole (isRole : Bool) (role child probe : String) (groups : Dictionary Group) :
    probe ∈ addRole isRole role child groups ↔
      probe ∈ groups ∨ (isRole = true ∧ probe = role) := by
  cases isRole with
  | false => simp [addRole]
  | true =>
      simp only [addRole, if_true, mem_addChild, Dictionary.mem_setDefault]
      tauto

theorem mem_addGroups (options : Options) (entry : Listed) (groups : Dictionary Group)
    (group : String) :
    group ∈ addGroups options entry groups ↔
      group ∈ groups ∨ Names options entry group := by
  simp only [addGroups, mem_addRole, mem_addHost, mem_addChild, Dictionary.mem_setDefault,
    decide_eq_true_eq, Names, Role]
  grind

/-! The whole list. -/

def Child (inventory : Inventory) (group child : String) : Prop :=
  child ∈ children inventory.groups group

def HasHost (inventory : Inventory) (group host : String) : Prop :=
  host ∈ hosts inventory.groups group

instance (inventory : Inventory) (group child : String) :
    Decidable (Child inventory group child) :=
  inferInstanceAs (Decidable (child ∈ children inventory.groups group))

instance (inventory : Inventory) (group host : String) :
    Decidable (HasHost inventory group host) :=
  inferInstanceAs (Decidable (host ∈ hosts inventory.groups group))

/-- The machines of a list that the loop does not skip. -/
def Listing (options : Options) (machines : List Machine) (entry : Listed) : Prop :=
  ∃ machine ∈ machines, listed options machine = some entry

theorem sortGroup_children (groups : Dictionary Group) (group child : String) :
    child ∈ children (groups.mapValues sortGroup) group ↔ child ∈ children groups group := by
  cases held : groups.lookup group with
  | none => simp [children, Dictionary.lookup_mapValues, held]
  | some found =>
      cases present : found.children <;>
        simp [children, Dictionary.lookup_mapValues, held, sortGroup, sortedStrings, present]

theorem sortGroup_hosts (groups : Dictionary Group) (group host : String) :
    host ∈ hosts (groups.mapValues sortGroup) group ↔ host ∈ hosts groups group := by
  cases held : groups.lookup group with
  | none => simp [hosts, Dictionary.lookup_mapValues, held]
  | some found =>
      cases present : found.hosts <;>
        simp [hosts, Dictionary.lookup_mapValues, held, sortGroup, sortedStrings, present]

theorem sortGroup_mem (groups : Dictionary Group) (group : String) :
    group ∈ groups.mapValues sortGroup ↔ group ∈ groups := by
  simp [← Finmap.lookup_isSome, Dictionary.lookup_mapValues]

/-- A relation that each listed machine extends, collected over the list. -/
theorem collected_iff {Fact : Type*} (options : Options) (holds : Inventory → Fact → Prop)
    (adds : Listed → Fact → Prop)
    (effect : ∀ inventory entry fact,
      holds { hostvars := inventory.hostvars.insert entry.hostname entry.hostvars
              groups := addGroups options entry inventory.groups } fact ↔
        holds inventory fact ∨ adds entry fact)
    (machines : List Machine) (fact : Fact) :
    holds (Execution.run (addMachine options) (initialInventory options) machines) fact ↔
      holds (initialInventory options) fact ∨
        ∃ entry, Listing options machines entry ∧ adds entry fact := by
  rw [Execution.run_accumulates (addMachine options) holds
    (fun machine fact => ∃ entry, listed options machine = some entry ∧ adds entry fact)]
  · simp only [Listing]
    constructor
    · rintro (base | ⟨machine, member, entry, present, added⟩)
      · exact Or.inl base
      · exact Or.inr ⟨entry, ⟨machine, member, present⟩, added⟩
    · rintro (base | ⟨entry, ⟨machine, member, present⟩, added⟩)
      · exact Or.inl base
      · exact Or.inr ⟨machine, member, entry, present, added⟩
  · intro inventory machine fact
    cases present : listed options machine with
    | none => simp [addMachine, present]
    | some entry => simp [addMachine, present, effect]

theorem initial_lookup (options : Options) (group : String) :
    (initialInventory options).groups.lookup group =
      if group = "all" then some { children := some ["management", "slurm"] }
      else if group = "management" then some { hosts := some ["localhost"] }
      else if group = "slurm" then some { children := some [] } else none := by
  simp only [initialInventory, Finmap.dlookup_list_toFinmap]
  by_cases isAll : group = "all"
  · subst isAll
    rfl
  · by_cases isManagement : group = "management"
    · subst isManagement
      rfl
    · by_cases isSlurm : group = "slurm"
      · subst isSlurm
        rfl
      · rw [if_neg isAll, if_neg isManagement, if_neg isSlurm,
          List.dlookup_cons_ne _ _ isAll, List.dlookup_cons_ne _ _ isManagement,
          List.dlookup_cons_ne _ _ isSlurm, List.dlookup_nil]

theorem child_iff (options : Options) (machines : List Machine) (group child : String) :
    Child (inventoryFromMachines options machines) group child ↔
      (group = "all" ∧ (child = "management" ∨ child = "slurm")) ∨
        ∃ entry, Listing options machines entry ∧ Edge options entry group child := by
  simp only [Child, inventoryFromMachines, sortGroup_children]
  rw [collected_iff options (fun inventory fact => fact.2 ∈ children inventory.groups fact.1)
    (fun entry fact => Edge options entry fact.1 fact.2)
    (fun inventory entry fact => children_addGroups options entry inventory.groups fact.1 fact.2)
    machines (group, child)]
  refine or_congr_left ?_
  simp only [children, initial_lookup]
  split_ifs with isAll isManagement isSlurm <;> simp [*]

theorem hasHost_iff (options : Options) (machines : List Machine) (group host : String) :
    HasHost (inventoryFromMachines options machines) group host ↔
      (group = "management" ∧ host = "localhost") ∨
        ∃ entry, Listing options machines entry ∧
          (group = clusterTypeGroup entry ∧ host = entry.hostname) := by
  simp only [HasHost, inventoryFromMachines, sortGroup_hosts]
  rw [collected_iff options (fun inventory fact => fact.2 ∈ hosts inventory.groups fact.1)
    (fun entry fact => fact.1 = clusterTypeGroup entry ∧ fact.2 = entry.hostname)
    (fun inventory entry fact => hosts_addGroups options entry inventory.groups fact.1 fact.2)
    machines (group, host)]
  refine or_congr_left ?_
  simp only [hosts, initial_lookup]
  split_ifs with isAll isManagement isSlurm <;> simp [*]

theorem defined_iff (options : Options) (machines : List Machine) (group : String) :
    group ∈ (inventoryFromMachines options machines).groups ↔
      (group = "all" ∨ group = "management" ∨ group = "slurm") ∨
        ∃ entry, Listing options machines entry ∧ Names options entry group := by
  simp only [inventoryFromMachines, sortGroup_mem]
  rw [collected_iff options (fun inventory group => group ∈ inventory.groups)
    (fun entry group => Names options entry group)
    (fun inventory entry group => mem_addGroups options entry inventory.groups group)
    machines group]
  refine or_congr_left ?_
  rw [← Finmap.lookup_isSome, initial_lookup]
  split_ifs with isAll isManagement isSlurm <;> simp [*]

theorem hostvars_mem (options : Options) (machines : List Machine) (host : String) :
    host ∈ (inventoryFromMachines options machines).hostvars ↔
      host = "localhost" ∨ ∃ entry, Listing options machines entry ∧ host = entry.hostname := by
  simp only [inventoryFromMachines]
  rw [collected_iff options (fun inventory host => host ∈ inventory.hostvars)
    (fun entry host => host = entry.hostname)
    (fun inventory entry host => by simp [or_comm]) machines host]
  simp [initialInventory]

end ClusterApiForSlinky.InventoryGraph
