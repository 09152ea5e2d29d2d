import ClusterApiForSlinky.InventoryGraph

/-!
When the group graph is well formed. Every edge leads to a group of a higher
level or to a longer name on the same level, unless a node type sanitizes to
`all`, `slurm`, `management` or `cluster`; each of these four breaks a clause.
-/

namespace ClusterApiForSlinky.InventoryWellFormed
open MachineInventory InventoryGraph

section Ranked
variable {Node : Type*}

/-- A relation along which `below` grows has no cycle. -/
theorem acyclic_of_below (edge below : Node → Node → Prop)
    (climbs : ∀ source target, edge source target → below source target)
    (transitive : ∀ first second third, below first second → below second third →
      below first third)
    (strict : ∀ node, ¬ below node node) (node : Node) :
    ¬ Relation.TransGen edge node node := by
  intro cycle
  have reached : ∀ target, Relation.TransGen edge node target → below node target := by
    intro target path
    induction path with
    | single step => exact climbs _ _ step
    | tail _ step ih => exact transitive _ _ _ ih (climbs _ _ step)
  exact strict node (reached node cycle)

end Ranked

/-! Group names. -/

theorem underscore_clusterGroup (entry : Listed) : '_' ∈ (clusterGroup entry).toList := by
  simp [clusterGroup]

theorem underscore_clusterTypeGroup (entry : Listed) :
    '_' ∈ (clusterTypeGroup entry).toList := by
  simp [clusterTypeGroup]

theorem clusterGroup_ne (entry : Listed) (name : String) (plain : '_' ∉ name.toList) :
    clusterGroup entry ≠ name := by
  rintro rfl
  exact plain (underscore_clusterGroup entry)

theorem clusterTypeGroup_ne (entry : Listed) (name : String) (plain : '_' ∉ name.toList) :
    clusterTypeGroup entry ≠ name := by
  rintro rfl
  exact plain (underscore_clusterTypeGroup entry)

/-- A text ending in a mark can only start a name that ends in the same mark
and has it nowhere else by being that name. -/
theorem prefix_before_mark {α : Type*} (mark : α) (name text : List α) (absent : mark ∉ name)
    (start : text ++ [mark] <+: name ++ [mark]) : text = name := by
  rcases List.prefix_concat_iff.mp start with whole | inside
  · exact List.append_cancel_right whole
  · exact absurd (inside.subset (by simp)) absent

theorem typeGroup_of_cluster_start (entry : Listed)
    (starts : Text.startsWith (clusterTypeGroup entry) "cluster_" = true) :
    typeGroup entry = "cluster" ∨ Text.startsWith (typeGroup entry) "cluster_" = true := by
  rw [Text.startsWith_iff] at starts ⊢
  have shape : (clusterTypeGroup entry).toList =
      ((typeGroup entry).toList ++ ['_']) ++ (sanitizeGroup entry.cluster).toList := by
    simp [clusterTypeGroup]
  rw [shape] at starts
  by_cases short : (typeGroup entry).toList.length < 8
  · left
    have inside : (typeGroup entry).toList ++ ['_'] <+: "cluster".toList ++ ['_'] :=
      List.prefix_of_prefix_length_le (List.prefix_append _ _) starts (by
        simp only [List.length_append, List.length_singleton]
        exact short)
    exact String.toList_inj.mp (prefix_before_mark '_' _ _ (by decide) inside)
  · right
    rw [List.append_assoc] at starts
    exact List.prefix_of_prefix_length_le starts (List.prefix_append _ _) (by
      have eight : "cluster_".toList.length = 8 := rfl
      omega)

/-! The order in which edges climb. -/

def level (group : String) : Nat :=
  if group = "all" then 0
  else if group = "slurm" then 1
  else if group = "controller" ∨ group = "compute" then 2
  else if Text.startsWith group "cluster_" then 3
  else 4

def Below (group child : String) : Prop :=
  level group < level child ∨ (level group = level child ∧ group.length < child.length)

theorem below_trans (first second third : String) (low : Below first second)
    (high : Below second third) : Below first third := by
  unfold Below at *
  omega

theorem below_irrefl (group : String) : ¬ Below group group := by
  unfold Below
  omega

theorem level_clusterGroup (entry : Listed) : level (clusterGroup entry) = 3 := by
  have starts : Text.startsWith (clusterGroup entry) "cluster_" = true :=
    Text.startsWith_append "cluster_" (sanitizeGroup entry.cluster)
  simp [level, clusterGroup_ne entry "all" (by decide), clusterGroup_ne entry "slurm" (by decide),
    clusterGroup_ne entry "controller" (by decide), clusterGroup_ne entry "compute" (by decide),
    starts]

theorem level_clusterTypeGroup (entry : Listed) :
    level (clusterTypeGroup entry) =
      if Text.startsWith (clusterTypeGroup entry) "cluster_" then 3 else 4 := by
  simp [level, clusterTypeGroup_ne entry "all" (by decide),
    clusterTypeGroup_ne entry "slurm" (by decide),
    clusterTypeGroup_ne entry "controller" (by decide),
    clusterTypeGroup_ne entry "compute" (by decide)]

theorem length_clusterTypeGroup (entry : Listed) :
    (clusterTypeGroup entry).length =
      (typeGroup entry).length + 1 + (sanitizeGroup entry.cluster).length := by
  simp only [clusterTypeGroup, String.length_append]
  rfl

theorem length_clusterGroup (entry : Listed) :
    (clusterGroup entry).length = 8 + (sanitizeGroup entry.cluster).length := by
  simp only [clusterGroup, String.length_append]
  rfl

/-- A node type whose group is one of the names the code keeps for itself; with
`cluster` the per-type group of a cluster is the group of that cluster. -/
def Reserved (entry : Listed) : Prop :=
  typeGroup entry = "all" ∨ typeGroup entry = "slurm" ∨ typeGroup entry = "management" ∨
    typeGroup entry = "cluster"

theorem below_cluster_pair (entry : Listed) (free : ¬ Reserved entry) :
    Below (clusterGroup entry) (clusterTypeGroup entry) := by
  unfold Below
  rw [level_clusterGroup, level_clusterTypeGroup, length_clusterGroup, length_clusterTypeGroup]
  by_cases starts : Text.startsWith (clusterTypeGroup entry) "cluster_" = true
  · right
    rcases typeGroup_of_cluster_start entry starts with exact | longer
    · exact absurd (Or.inr (Or.inr (Or.inr exact))) free
    · have long := ((Text.startsWith_iff _ _).mp longer).length_le
      simp only [String.length_toList] at long
      have eight : "cluster_".length = 8 := rfl
      simp only [starts, if_true, true_and]
      omega
  · left
    simp [starts]

theorem below_type_pair (entry : Listed) (free : ¬ Reserved entry) :
    Below (typeGroup entry) (clusterTypeGroup entry) := by
  have grows : (typeGroup entry).length < (clusterTypeGroup entry).length := by
    rw [length_clusterTypeGroup]
    omega
  unfold Below
  rw [level_clusterTypeGroup]
  by_cases starts : Text.startsWith (clusterTypeGroup entry) "cluster_" = true
  · have upper : level (typeGroup entry) ≤ 3 := by
      rcases typeGroup_of_cluster_start entry starts with exact | longer
      · exact absurd (Or.inr (Or.inr (Or.inr exact))) free
      · unfold level
        split_ifs <;> simp_all
    simp only [starts, if_true]
    omega
  · have upper : level (typeGroup entry) ≤ 4 := by
      unfold level
      split_ifs <;> omega
    simp only [starts, Bool.false_eq_true, if_false]
    omega

theorem below_edge (options : Options) (entry : Listed) (group child : String)
    (free : ¬ Reserved entry) (edge : Edge options entry group child) : Below group child := by
  have pairLevel : 3 ≤ level (clusterTypeGroup entry) := by
    rw [level_clusterTypeGroup]
    split_ifs <;> omega
  -- One case for each `add_child` of the loop, in the order of the source.
  rcases edge with ⟨rfl, rfl⟩ | ⟨rfl, rfl | rfl⟩ | ⟨rfl | rfl | role, rfl⟩
  · left
    rw [level_clusterGroup]
    decide
  · left
    rw [level_clusterGroup]
    decide
  · left
    have notAll : typeGroup entry ≠ "all" := fun same => free (Or.inl same)
    have notSlurm : typeGroup entry ≠ "slurm" := fun same => free (Or.inr (Or.inl same))
    have high : 2 ≤ level (typeGroup entry) := by
      unfold level
      split_ifs <;> simp_all
    have low : level "slurm" = 1 := rfl
    omega
  · exact below_cluster_pair entry free
  · exact below_type_pair entry free
  · left
    rcases role with ⟨_, rfl⟩ | ⟨_, rfl⟩
    · have low : level "controller" = 2 := rfl
      omega
    · have low : level "compute" = 2 := rfl
      omega

/-! The clauses of well-formedness. -/

def Reaches (inventory : Inventory) : String → String → Prop :=
  Relation.ReflTransGen (Child inventory)

/-- The host is listed here because some machine has that hostname. -/
def OwnListing (options : Options) (machines : List Machine) (group host : String) : Prop :=
  ∃ entry, Listing options machines entry ∧ group = clusterTypeGroup entry ∧
    host = entry.hostname

/-- The groups that stand for Slurm, a cluster, a node type or a pair of both. -/
def SlurmGroup (options : Options) (machines : List Machine) (group : String) : Prop :=
  group = "slurm" ∨ ∃ entry, Listing options machines entry ∧
    (group = clusterGroup entry ∨ group = typeGroup entry ∨ group = clusterTypeGroup entry ∨
      Role options entry group)

structure WellFormed (options : Options) (machines : List Machine) (inventory : Inventory) :
    Prop where
  acyclic : ∀ group, ¬ Relation.TransGen (Child inventory) group group
  childrenDefined : ∀ group child, Child inventory group child → child ∈ inventory.groups
  hostsReachable : ∀ group host, HasHost inventory group host →
    (∃ reached, Reaches inventory "all" reached ∧ HasHost inventory reached host) ∧
      host ∈ inventory.hostvars
  localhostInManagement : ∀ group, HasHost inventory group "localhost" →
    ¬ OwnListing options machines group "localhost" → group = "management"
  localhostIsolated : ∀ start group, SlurmGroup options machines start →
    Reaches inventory start group → HasHost inventory group "localhost" →
    OwnListing options machines group "localhost"

section Listing
variable (options : Options) (machines : List Machine)

theorem children_defined (group child : String)
    (edge : Child (inventoryFromMachines options machines) group child) :
    child ∈ (inventoryFromMachines options machines).groups := by
  rw [defined_iff]
  rcases (child_iff options machines group child).mp edge with base | ⟨entry, member, added⟩
  · rcases base.2 with rfl | rfl <;> simp
  · refine Or.inr ⟨entry, member, ?_⟩
    rcases added with ⟨_, rfl⟩ | ⟨_, rfl | rfl⟩ | ⟨_, rfl⟩ <;> simp [Names]

/-- `all` lists the cluster group and the cluster group lists the pair. -/
theorem pair_reachable (entry : Listed) (member : Listing options machines entry) :
    Reaches (inventoryFromMachines options machines) "all" (clusterTypeGroup entry) := by
  have cluster : Child (inventoryFromMachines options machines) "all" (clusterGroup entry) :=
    (child_iff options machines _ _).mpr (Or.inr ⟨entry, member, Or.inl ⟨rfl, rfl⟩⟩)
  have pair : Child (inventoryFromMachines options machines) (clusterGroup entry)
      (clusterTypeGroup entry) :=
    (child_iff options machines _ _).mpr
      (Or.inr ⟨entry, member, Or.inr (Or.inr ⟨Or.inl rfl, rfl⟩)⟩)
  exact (Relation.ReflTransGen.single cluster).tail pair

theorem hosts_reachable (group host : String)
    (present : HasHost (inventoryFromMachines options machines) group host) :
    (∃ reached, Reaches (inventoryFromMachines options machines) "all" reached ∧
      HasHost (inventoryFromMachines options machines) reached host) ∧
      host ∈ (inventoryFromMachines options machines).hostvars := by
  rw [hostvars_mem]
  rcases (hasHost_iff options machines group host).mp present with
    ⟨rfl, rfl⟩ | ⟨entry, member, rfl, rfl⟩
  · have management : Child (inventoryFromMachines options machines) "all" "management" :=
      (child_iff options machines _ _).mpr (Or.inl ⟨rfl, Or.inl rfl⟩)
    exact ⟨⟨"management", .single management, present⟩, Or.inl rfl⟩
  · exact ⟨⟨clusterTypeGroup entry, pair_reachable options machines entry member, present⟩,
      Or.inr ⟨entry, member, rfl⟩⟩

theorem localhost_in_management (group : String)
    (present : HasHost (inventoryFromMachines options machines) group "localhost")
    (foreign : ¬ OwnListing options machines group "localhost") : group = "management" := by
  rcases (hasHost_iff options machines group "localhost").mp present with base | own
  · exact base.1
  · exact absurd own foreign

theorem acyclic_of_free (free : ∀ entry, Listing options machines entry → ¬ Reserved entry)
    (group : String) :
    ¬ Relation.TransGen (Child (inventoryFromMachines options machines)) group group := by
  refine acyclic_of_below _ Below ?_ below_trans below_irrefl group
  intro source target edge
  rcases (child_iff options machines source target).mp edge with
    ⟨rfl, rfl | rfl⟩ | ⟨entry, member, added⟩
  · left
    decide
  · left
    decide
  · exact below_edge options entry source target (free entry member) added

/-- Only `all` lists `management`, and nothing lists `all`. -/
theorem reaches_management (free : ∀ entry, Listing options machines entry → ¬ Reserved entry)
    (start : String)
    (path : Reaches (inventoryFromMachines options machines) start "management") :
    start = "management" ∨ start = "all" := by
  -- The path is followed from its end: going back never leaves these two groups.
  have backwards : ∀ group, Reaches (inventoryFromMachines options machines) start group →
      group = "management" ∨ group = "all" → start = "management" ∨ start = "all" := by
    intro group reached
    induction reached with
    | refl => exact id
    | tail _ edge ih =>
        intro isTarget
        apply ih
        rcases (child_iff options machines _ _).mp edge with base | ⟨entry, member, added⟩
        · exact Or.inr base.1
        · exfalso
          rcases isTarget with rfl | rfl
          · rcases added with ⟨_, same⟩ | ⟨_, same | same⟩ | ⟨_, same⟩
            · exact clusterGroup_ne entry _ (by decide) same.symm
            · exact clusterGroup_ne entry _ (by decide) same.symm
            · exact free entry member (Or.inr (Or.inr (Or.inl same.symm)))
            · exact clusterTypeGroup_ne entry _ (by decide) same.symm
          · rcases added with ⟨_, same⟩ | ⟨_, same | same⟩ | ⟨_, same⟩
            · exact clusterGroup_ne entry _ (by decide) same.symm
            · exact clusterGroup_ne entry _ (by decide) same.symm
            · exact free entry member (Or.inl same.symm)
            · exact clusterTypeGroup_ne entry _ (by decide) same.symm
  exact backwards "management" path (Or.inl rfl)

theorem slurmGroup_ne (free : ∀ entry, Listing options machines entry → ¬ Reserved entry)
    (group : String) (slurm : SlurmGroup options machines group) :
    group ≠ "management" ∧ group ≠ "all" := by
  rcases slurm with rfl | ⟨entry, member, rfl | rfl | rfl | ⟨_, rfl⟩ | ⟨_, rfl⟩⟩
  · decide
  · exact ⟨clusterGroup_ne entry _ (by decide), clusterGroup_ne entry _ (by decide)⟩
  · exact ⟨fun same => free entry member (Or.inr (Or.inr (Or.inl same))),
      fun same => free entry member (Or.inl same)⟩
  · exact ⟨clusterTypeGroup_ne entry _ (by decide), clusterTypeGroup_ne entry _ (by decide)⟩
  · decide
  · decide

theorem localhost_isolated (free : ∀ entry, Listing options machines entry → ¬ Reserved entry)
    (start group : String) (slurm : SlurmGroup options machines start)
    (path : Reaches (inventoryFromMachines options machines) start group)
    (present : HasHost (inventoryFromMachines options machines) group "localhost") :
    OwnListing options machines group "localhost" := by
  by_contra foreign
  have management := localhost_in_management options machines group present foreign
  subst management
  have outside := slurmGroup_ne options machines free start slurm
  rcases reaches_management options machines free start path with same | same
  · exact outside.1 same
  · exact outside.2 same

/-- Each reserved name breaks a clause: three close a cycle, `management` puts
localhost below slurm. -/
theorem free_of_wellFormed
    (formed : WellFormed options machines (inventoryFromMachines options machines))
    (entry : Listed) (member : Listing options machines entry) : ¬ Reserved entry := by
  have typeEdge : Child (inventoryFromMachines options machines) "slurm" (typeGroup entry) :=
    (child_iff options machines _ _).mpr
      (Or.inr ⟨entry, member, Or.inr (Or.inl ⟨rfl, Or.inr rfl⟩)⟩)
  rintro (isAll | isSlurm | isManagement | isCluster)
  · rw [isAll] at typeEdge
    have back : Child (inventoryFromMachines options machines) "all" "slurm" :=
      (child_iff options machines _ _).mpr (Or.inl ⟨rfl, Or.inr rfl⟩)
    exact formed.acyclic "all" ((Relation.TransGen.single back).tail typeEdge)
  · rw [isSlurm] at typeEdge
    exact formed.acyclic "slurm" (.single typeEdge)
  · rw [isManagement] at typeEdge
    have present : HasHost (inventoryFromMachines options machines) "management" "localhost" :=
      (hasHost_iff options machines _ _).mpr (Or.inl ⟨rfl, rfl⟩)
    obtain ⟨other, _, same, _⟩ := formed.localhostIsolated "slurm" "management" (Or.inl rfl)
      (.single typeEdge) present
    exact clusterTypeGroup_ne other _ (by decide) same.symm
  · have pairEdge : Child (inventoryFromMachines options machines) (clusterGroup entry)
        (clusterTypeGroup entry) :=
      (child_iff options machines _ _).mpr
        (Or.inr ⟨entry, member, Or.inr (Or.inr ⟨Or.inl rfl, rfl⟩)⟩)
    have same : clusterTypeGroup entry = clusterGroup entry := by
      simp [clusterTypeGroup, clusterGroup, isCluster]
    rw [same] at pairEdge
    exact formed.acyclic (clusterGroup entry) (.single pairEdge)

/-- The inventory is well formed exactly when no listed machine has a node type
whose group is called `all`, `slurm`, `management` or `cluster`. -/
theorem inventory_wellFormed_iff :
    WellFormed options machines (inventoryFromMachines options machines) ↔
      ∀ entry, Listing options machines entry → ¬ Reserved entry := by
  constructor
  · exact fun formed => free_of_wellFormed options machines formed
  · intro free
    exact
      { acyclic := acyclic_of_free options machines free
        childrenDefined := children_defined options machines
        hostsReachable := hosts_reachable options machines
        localhostInManagement := localhost_in_management options machines
        localhostIsolated := localhost_isolated options machines free }

end Listing

/-- A machine of node type `Slurm` makes the slurm group its own child. -/
theorem slurm_type_is_cyclic :
    ∃ (options : Options) (machines : List Machine),
      Relation.TransGen (Child (inventoryFromMachines options machines)) "slurm" "slurm" ∧
      ¬ WellFormed options machines (inventoryFromMachines options machines) := by
  let options : Options := { executable := "/usr/bin/python3" }
  let machines : List Machine :=
    [{ name := some "m0"
       labels := [(options.nodeTypeLabel, "Slurm"), (clusterNameLabel, "alpha")] }]
  have cycle : Relation.TransGen (Child (inventoryFromMachines options machines))
      "slurm" "slurm" := by
    apply Relation.TransGen.single
    decide +kernel
  exact ⟨options, machines, cycle, fun formed => formed.acyclic "slurm" cycle⟩

end ClusterApiForSlinky.InventoryWellFormed
