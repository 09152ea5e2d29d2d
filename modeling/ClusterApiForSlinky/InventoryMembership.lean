import ClusterApiForSlinky.InventoryWellFormed

/-!
Which hosts the cluster, type and pair groups reach. The groups are exact when
the names they are built from are told apart after sanitizing, no type takes the
name of a fixed group that holds other hosts, and a hostname has one owner.
-/

namespace ClusterApiForSlinky.InventoryMembership
open MachineInventory InventoryGraph InventoryWellFormed

def ReachesHost (inventory : Inventory) (group host : String) : Prop :=
  ∃ reached, Reaches inventory group reached ∧ HasHost inventory reached host

/-- Membership is exact and no two groups that stand for different sets of
machines share a name. -/
structure Exact (options : Options) (machines : List Machine) (inventory : Inventory) :
    Prop where
  clusterHosts : ∀ entry, Listing options machines entry → ∀ host,
    ReachesHost inventory (clusterGroup entry) host ↔
      ∃ other, Listing options machines other ∧ other.cluster = entry.cluster ∧
        other.hostname = host
  typeHosts : ∀ entry, Listing options machines entry → ∀ host,
    ReachesHost inventory (typeGroup entry) host ↔
      ∃ other, Listing options machines other ∧ other.nodeType = entry.nodeType ∧
        other.hostname = host
  pairHosts : ∀ entry, Listing options machines entry → ∀ host,
    ReachesHost inventory (clusterTypeGroup entry) host ↔
      ∃ other, Listing options machines other ∧ other.cluster = entry.cluster ∧
        other.nodeType = entry.nodeType ∧ other.hostname = host
  clustersApart : ∀ entry other, Listing options machines entry →
    Listing options machines other → clusterGroup entry = clusterGroup other →
    entry.cluster = other.cluster
  typesApart : ∀ entry other, Listing options machines entry →
    Listing options machines other → typeGroup entry = typeGroup other →
    entry.nodeType = other.nodeType
  pairsApart : ∀ entry other, Listing options machines entry →
    Listing options machines other → clusterTypeGroup entry = clusterTypeGroup other →
    entry.nodeType = other.nodeType ∧ entry.cluster = other.cluster
  clusterTypeApart : ∀ entry other, Listing options machines entry →
    Listing options machines other → clusterGroup entry ≠ typeGroup other
  clusterPairApart : ∀ entry other, Listing options machines entry →
    Listing options machines other → clusterGroup entry ≠ clusterTypeGroup other
  hostvars : ∀ entry, Listing options machines entry →
    inventory.hostvars.lookup entry.hostname = some entry.hostvars

/-- The condition on the labels and hostnames of the listed machines. -/
structure Separate (options : Options) (machines : List Machine) : Prop where
  clusters : ∀ entry other, Listing options machines entry →
    Listing options machines other →
    sanitizeGroup entry.cluster = sanitizeGroup other.cluster → entry.cluster = other.cluster
  types : ∀ entry other, Listing options machines entry →
    Listing options machines other →
    sanitizeGroup entry.nodeType = sanitizeGroup other.nodeType → entry.nodeType = other.nodeType
  pairs : ∀ entry other, Listing options machines entry →
    Listing options machines other → clusterTypeGroup entry = clusterTypeGroup other →
    entry.nodeType = other.nodeType ∧ entry.cluster = other.cluster
  clusterType : ∀ entry other, Listing options machines entry →
    Listing options machines other → clusterGroup entry ≠ typeGroup other
  clusterPair : ∀ entry other, Listing options machines entry →
    Listing options machines other → clusterGroup entry ≠ clusterTypeGroup other
  typePair : ∀ entry other, Listing options machines entry →
    Listing options machines other → typeGroup entry ≠ clusterTypeGroup other
  owners : ∀ entry other, Listing options machines entry →
    Listing options machines other → entry.hostname = other.hostname →
    entry.hostvars = other.hostvars
  slurmType : ∀ entry other, Listing options machines entry →
    Listing options machines other → typeGroup entry = "slurm" ∨ typeGroup entry = "all" →
    other.nodeType = entry.nodeType
  localhostType : ∀ entry, Listing options machines entry →
    typeGroup entry = "all" ∨ typeGroup entry = "management" →
    ∃ other, Listing options machines other ∧ other.nodeType = entry.nodeType ∧
      other.hostname = "localhost"
  roleType : ∀ entry other, Listing options machines entry →
    Listing options machines other → Role options other (typeGroup entry) →
    other.nodeType = entry.nodeType

/-! Hostvars: the last machine listed under a hostname wins. -/

theorem run_hostvars (options : Options) (machines : List Machine) (inventory : Inventory)
    (host : String) :
    (∃ entry, Listing options machines entry ∧ entry.hostname = host ∧
      (Execution.run (addMachine options) inventory machines).hostvars.lookup host =
        some entry.hostvars) ∨
    ((∀ entry, Listing options machines entry → entry.hostname ≠ host) ∧
      (Execution.run (addMachine options) inventory machines).hostvars.lookup host =
        inventory.hostvars.lookup host) := by
  -- The later entry wins, so the induction goes over every starting inventory.
  induction machines generalizing inventory with
  | nil => exact Or.inr ⟨fun entry member => by simp [Listing] at member, rfl⟩
  | cons machine rest ih =>
      rw [Execution.run_cons]
      -- Either a later machine has the hostname, or this one decides.
      rcases ih (addMachine options inventory machine) with
        ⟨entry, ⟨source, member, present⟩, named, shown⟩ | ⟨absent, kept⟩
      · exact Or.inl ⟨entry, ⟨source, by simp [member], present⟩, named, shown⟩
      · cases present : listed options machine with
        | none =>
            right
            constructor
            · rintro entry ⟨source, member, found⟩
              rcases List.mem_cons.mp member with rfl | later
              · simp [present] at found
              · exact absent entry ⟨source, later, found⟩
            · simpa [addMachine, present] using kept
        | some entry =>
            by_cases own : entry.hostname = host
            · left
              subst own
              exact ⟨entry, ⟨machine, by simp, present⟩, rfl, by
                simpa [addMachine, present] using kept⟩
            · right
              constructor
              · rintro other ⟨source, member, found⟩
                rcases List.mem_cons.mp member with rfl | later
                · rw [present] at found
                  cases found
                  exact own
                · exact absent other ⟨source, later, found⟩
              · simpa [addMachine, present, Ne.symm own] using kept

theorem hostvars_of_listed (options : Options) (machines : List Machine) (entry : Listed)
    (member : Listing options machines entry) :
    ∃ other, Listing options machines other ∧ other.hostname = entry.hostname ∧
      (inventoryFromMachines options machines).hostvars.lookup entry.hostname =
        some other.hostvars := by
  rcases run_hostvars options machines (initialInventory options) entry.hostname with
    found | ⟨absent, _⟩
  · exact found
  · exact absurd rfl (absent entry member)

/-- The hostvars of a listed machine name its cluster and its type. -/
theorem hostvars_labels (options : Options) (machine : Machine) (entry : Listed)
    (present : listed options machine = some entry) :
    ∃ name inNamespace host,
      entry.hostvars = .machine entry.cluster name inNamespace entry.nodeType host := by
  unfold listed at present
  split at present
  · next nodeType cluster typed clustered =>
      cases present
      have typeLabel := ((Text.nonempty_eq_some _ _).mp typed).1
      have clusterLabel := ((Text.nonempty_eq_some _ _).mp clustered).1
      simp [machineHostvars, typeLabel, clusterLabel]
  · cases present

theorem same_labels (options : Options) (machines : List Machine) (entry other : Listed)
    (member : Listing options machines entry) (otherMember : Listing options machines other)
    (same : entry.hostvars = other.hostvars) :
    entry.nodeType = other.nodeType ∧ entry.cluster = other.cluster := by
  obtain ⟨machine, _, present⟩ := member
  obtain ⟨otherMachine, _, otherPresent⟩ := otherMember
  obtain ⟨_, _, _, vars⟩ := hostvars_labels options machine entry present
  obtain ⟨_, _, _, otherVars⟩ := hostvars_labels options otherMachine other otherPresent
  rw [vars, otherVars] at same
  injection same with cluster _ _ nodeType _
  exact ⟨nodeType, cluster⟩

section Membership
variable (options : Options) (machines : List Machine)

/-! Edges and listings of the three kinds of group. -/

theorem edge_of_listed (entry : Listed) (member : Listing options machines entry)
    (group child : String) (edge : Edge options entry group child) :
    Child (inventoryFromMachines options machines) group child :=
  (child_iff options machines group child).mpr (Or.inr ⟨entry, member, edge⟩)

theorem pair_hosts (entry : Listed) (host : String) :
    HasHost (inventoryFromMachines options machines) (clusterTypeGroup entry) host ↔
      ∃ other, Listing options machines other ∧
        clusterTypeGroup entry = clusterTypeGroup other ∧ host = other.hostname := by
  rw [hasHost_iff]
  have notManagement := clusterTypeGroup_ne entry "management" (by decide)
  simp [notManagement]

theorem own_host (entry : Listed) (member : Listing options machines entry) :
    HasHost (inventoryFromMachines options machines) (clusterTypeGroup entry) entry.hostname :=
  (pair_hosts options machines entry _).mpr ⟨entry, member, rfl, rfl⟩

theorem type_reaches_own (entry : Listed) (member : Listing options machines entry) :
    ReachesHost (inventoryFromMachines options machines) (typeGroup entry) entry.hostname :=
  ⟨clusterTypeGroup entry,
    .single (edge_of_listed options machines entry member _ _
      (Or.inr (Or.inr ⟨Or.inr (Or.inl rfl), rfl⟩))),
    own_host options machines entry member⟩

theorem cluster_reaches_own (entry : Listed) (member : Listing options machines entry) :
    ReachesHost (inventoryFromMachines options machines) (clusterGroup entry) entry.hostname :=
  ⟨clusterTypeGroup entry,
    .single (edge_of_listed options machines entry member _ _
      (Or.inr (Or.inr ⟨Or.inl rfl, rfl⟩))),
    own_host options machines entry member⟩

theorem slurm_reaches_own (entry : Listed) (member : Listing options machines entry) :
    ReachesHost (inventoryFromMachines options machines) "slurm" entry.hostname := by
  obtain ⟨reached, path, present⟩ := cluster_reaches_own options machines entry member
  exact ⟨reached, .head (edge_of_listed options machines entry member _ _
    (Or.inr (Or.inl ⟨rfl, Or.inl rfl⟩))) path, present⟩

theorem all_reaches_own (entry : Listed) (member : Listing options machines entry) :
    ReachesHost (inventoryFromMachines options machines) "all" entry.hostname :=
  ⟨clusterTypeGroup entry, pair_reachable options machines entry member,
    own_host options machines entry member⟩

theorem management_reaches_localhost :
    ReachesHost (inventoryFromMachines options machines) "management" "localhost" :=
  ⟨"management", .refl, (hasHost_iff options machines _ _).mpr (Or.inl ⟨rfl, rfl⟩)⟩

theorem all_reaches_localhost :
    ReachesHost (inventoryFromMachines options machines) "all" "localhost" := by
  obtain ⟨reached, path, present⟩ := management_reaches_localhost options machines
  exact ⟨reached, .head ((child_iff options machines _ _).mpr (Or.inl ⟨rfl, Or.inl rfl⟩)) path,
    present⟩

/-- Every host is that of a listed machine, or localhost under `management`. -/
theorem reached_host (start host : String)
    (reaches : ReachesHost (inventoryFromMachines options machines) start host) :
    (host = "localhost" ∧ Reaches (inventoryFromMachines options machines) start "management") ∨
      ∃ other, Listing options machines other ∧ other.hostname = host := by
  obtain ⟨reached, path, present⟩ := reaches
  rcases (hasHost_iff options machines _ _).mp present with ⟨rfl, rfl⟩ | ⟨other, member, _, named⟩
  · exact Or.inl ⟨rfl, path⟩
  · exact Or.inr ⟨other, member, named.symm⟩

/-! From the condition to exact membership. -/

section FromSeparate
variable (separate : Separate options machines)
include separate

theorem pair_childless (entry : Listed) (member : Listing options machines entry)
    (child : String) :
    ¬ Child (inventoryFromMachines options machines) (clusterTypeGroup entry) child := by
  rw [child_iff]
  rintro (⟨isAll, _⟩ | ⟨other, otherMember, edge⟩)
  · exact clusterTypeGroup_ne entry _ (by decide) isAll
  · rcases edge with ⟨isAll, _⟩ | ⟨isSlurm, _⟩ | ⟨same | same | ⟨_, same⟩ | ⟨_, same⟩, _⟩
    · exact clusterTypeGroup_ne entry _ (by decide) isAll
    · exact clusterTypeGroup_ne entry _ (by decide) isSlurm
    · exact separate.clusterPair other entry otherMember member same.symm
    · exact separate.typePair other entry otherMember member same.symm
    · exact clusterTypeGroup_ne entry _ (by decide) same
    · exact clusterTypeGroup_ne entry _ (by decide) same

theorem pair_reaches (entry : Listed) (member : Listing options machines entry)
    (group : String)
    (path : Reaches (inventoryFromMachines options machines) (clusterTypeGroup entry) group) :
    group = clusterTypeGroup entry := by
  rcases Relation.ReflTransGen.cases_head path with same | ⟨child, edge, _⟩
  · exact same.symm
  · exact absurd edge (pair_childless options machines separate entry member child)

theorem pair_hosts_exact (entry : Listed) (member : Listing options machines entry)
    (host : String) :
    ReachesHost (inventoryFromMachines options machines) (clusterTypeGroup entry) host ↔
      ∃ other, Listing options machines other ∧ other.cluster = entry.cluster ∧
        other.nodeType = entry.nodeType ∧ other.hostname = host := by
  constructor
  · rintro ⟨reached, path, present⟩
    rw [pair_reaches options machines separate entry member reached path] at present
    obtain ⟨other, otherMember, same, rfl⟩ := (pair_hosts options machines entry host).mp present
    obtain ⟨types, clusters⟩ := separate.pairs entry other member otherMember same
    exact ⟨other, otherMember, clusters.symm, types.symm, rfl⟩
  · rintro ⟨other, otherMember, clusters, types, rfl⟩
    refine ⟨clusterTypeGroup entry, .refl, ?_⟩
    have same : clusterTypeGroup entry = clusterTypeGroup other := by
      simp [clusterTypeGroup, typeGroup, clusters, types]
    rw [same]
    exact own_host options machines other otherMember

theorem cluster_children (entry : Listed) (member : Listing options machines entry)
    (child : String)
    (edge : Child (inventoryFromMachines options machines) (clusterGroup entry) child) :
    ∃ other, Listing options machines other ∧ other.cluster = entry.cluster ∧
      child = clusterTypeGroup other := by
  rcases (child_iff options machines _ _).mp edge with ⟨isAll, _⟩ | ⟨other, otherMember, added⟩
  · exact absurd isAll (clusterGroup_ne entry _ (by decide))
  · rcases added with ⟨isAll, _⟩ | ⟨isSlurm, _⟩ | ⟨same | same | ⟨_, same⟩ | ⟨_, same⟩, rfl⟩
    · exact absurd isAll (clusterGroup_ne entry _ (by decide))
    · exact absurd isSlurm (clusterGroup_ne entry _ (by decide))
    · have sanitized := (String.append_right_inj _).mp same
      exact ⟨other, otherMember,
        (separate.clusters entry other member otherMember sanitized).symm, rfl⟩
    · exact absurd same (separate.clusterType entry other member otherMember)
    · exact absurd same (clusterGroup_ne entry _ (by decide))
    · exact absurd same (clusterGroup_ne entry _ (by decide))

theorem cluster_hosts_exact (entry : Listed) (member : Listing options machines entry)
    (host : String) :
    ReachesHost (inventoryFromMachines options machines) (clusterGroup entry) host ↔
      ∃ other, Listing options machines other ∧ other.cluster = entry.cluster ∧
        other.hostname = host := by
  constructor
  · rintro ⟨reached, path, present⟩
    -- A cluster group has no hosts itself; below it are its pairs only.
    rcases Relation.ReflTransGen.cases_head path with same | ⟨child, edge, rest⟩
    · subst same
      rcases (hasHost_iff options machines _ _).mp present with base | ⟨other, otherMember, same, _⟩
      · exact absurd base.1 (clusterGroup_ne entry _ (by decide))
      · exact absurd same (separate.clusterPair entry other member otherMember)
    · obtain ⟨other, otherMember, cluster, rfl⟩ :=
        cluster_children options machines separate entry member child edge
      obtain ⟨owner, ownerMember, owned, _, named⟩ :=
        (pair_hosts_exact options machines separate other otherMember host).mp
          ⟨reached, rest, present⟩
      exact ⟨owner, ownerMember, owned.trans cluster, named⟩
  · rintro ⟨other, otherMember, cluster, rfl⟩
    have same : clusterGroup entry = clusterGroup other := by simp [clusterGroup, cluster]
    rw [same]
    exact cluster_reaches_own options machines other otherMember

/-- A type group that is neither `all` nor `slurm` lists pairs of its own type only. -/
theorem type_children (entry : Listed) (member : Listing options machines entry)
    (child : String) (plain : typeGroup entry ≠ "all") (plainSlurm : typeGroup entry ≠ "slurm")
    (edge : Child (inventoryFromMachines options machines) (typeGroup entry) child) :
    ∃ other, Listing options machines other ∧ other.nodeType = entry.nodeType ∧
      child = clusterTypeGroup other := by
  rcases (child_iff options machines _ _).mp edge with ⟨isAll, _⟩ | ⟨other, otherMember, added⟩
  · exact absurd isAll plain
  · rcases added with ⟨isAll, _⟩ | ⟨isSlurm, _⟩ | ⟨same | same | role, rfl⟩
    · exact absurd isAll plain
    · exact absurd isSlurm plainSlurm
    · exact absurd same.symm (separate.clusterType other entry otherMember member)
    · exact ⟨other, otherMember,
        (separate.types entry other member otherMember same).symm, rfl⟩
    · exact ⟨other, otherMember, separate.roleType entry other member otherMember role, rfl⟩

/-- When the only type is called `slurm`, nothing below it is `all` or `management`. -/
theorem slurm_reaches (entry : Listed) (member : Listing options machines entry)
    (isSlurm : typeGroup entry = "slurm") (group : String)
    (path : Reaches (inventoryFromMachines options machines) "slurm" group) :
    group ≠ "all" ∧ group ≠ "management" := by
  induction path with
  | refl => decide
  | tail _ edge ih =>
      rcases (child_iff options machines _ _).mp edge with ⟨isAll, _⟩ | ⟨other, otherMember, added⟩
      · exact absurd isAll ih.1
      · have sameType : typeGroup other = "slurm" := by
          rw [typeGroup, separate.slurmType entry other member otherMember (Or.inl isSlurm)]
          exact isSlurm
        rcases added with ⟨_, rfl⟩ | ⟨_, rfl | rfl⟩ | ⟨_, rfl⟩
        · exact ⟨clusterGroup_ne other _ (by decide), clusterGroup_ne other _ (by decide)⟩
        · exact ⟨clusterGroup_ne other _ (by decide), clusterGroup_ne other _ (by decide)⟩
        · rw [sameType]
          decide
        · exact ⟨clusterTypeGroup_ne other _ (by decide), clusterTypeGroup_ne other _ (by decide)⟩

theorem type_hosts_exact (entry : Listed) (member : Listing options machines entry)
    (host : String) :
    ReachesHost (inventoryFromMachines options machines) (typeGroup entry) host ↔
      ∃ other, Listing options machines other ∧ other.nodeType = entry.nodeType ∧
        other.hostname = host := by
  constructor
  · intro reaches
    by_cases fixed : typeGroup entry = "slurm" ∨ typeGroup entry = "all"
    · -- all listed machines are of this type, so only localhost needs an owner
      rcases reached_host options machines _ host reaches with
        ⟨rfl, path⟩ | ⟨other, otherMember, named⟩
      · rcases fixed with isSlurm | isAll
        · rw [isSlurm] at path
          exact absurd rfl (slurm_reaches options machines separate entry member isSlurm _ path).2
        · exact separate.localhostType entry member (Or.inl isAll)
      · exact ⟨other, otherMember, separate.slurmType entry other member otherMember fixed, named⟩
    · rw [not_or] at fixed
      obtain ⟨reached, path, present⟩ := reaches
      rcases Relation.ReflTransGen.cases_head path with same | ⟨child, edge, rest⟩
      · subst same
        rcases (hasHost_iff options machines _ _).mp present with
          ⟨isManagement, rfl⟩ | ⟨other, otherMember, same, _⟩
        · exact separate.localhostType entry member (Or.inr isManagement)
        · exact absurd same (separate.typePair entry other member otherMember)
      · obtain ⟨other, otherMember, typed, rfl⟩ :=
          type_children options machines separate entry member child fixed.2 fixed.1 edge
        obtain ⟨owner, ownerMember, _, owned, named⟩ :=
          (pair_hosts_exact options machines separate other otherMember host).mp
            ⟨reached, rest, present⟩
        exact ⟨owner, ownerMember, owned.trans typed, named⟩
  · rintro ⟨other, otherMember, typed, rfl⟩
    have same : typeGroup entry = typeGroup other := by simp [typeGroup, typed]
    rw [same]
    exact type_reaches_own options machines other otherMember

theorem hostvars_exact (entry : Listed) (member : Listing options machines entry) :
    (inventoryFromMachines options machines).hostvars.lookup entry.hostname =
      some entry.hostvars := by
  obtain ⟨other, otherMember, named, shown⟩ := hostvars_of_listed options machines entry member
  rw [shown, separate.owners other entry otherMember member named]

end FromSeparate

/-! From exact membership back to the condition. -/

section FromExact
variable (tight : Exact options machines (inventoryFromMachines options machines))
include tight

theorem owners_of_exact (entry other : Listed) (member : Listing options machines entry)
    (otherMember : Listing options machines other) (same : entry.hostname = other.hostname) :
    entry.hostvars = other.hostvars := by
  have first := tight.hostvars entry member
  have second := tight.hostvars other otherMember
  rw [same] at first
  exact Option.some.inj (first.symm.trans second)

/-- A listed machine whose host a type group reaches is of that type. -/
theorem type_of_reached (entry other : Listed) (member : Listing options machines entry)
    (otherMember : Listing options machines other)
    (reaches : ReachesHost (inventoryFromMachines options machines) (typeGroup entry)
      other.hostname) : other.nodeType = entry.nodeType := by
  obtain ⟨owner, ownerMember, typed, named⟩ := (tight.typeHosts entry member _).mp reaches
  have same := owners_of_exact options machines tight owner other ownerMember otherMember named
  exact (same_labels options machines owner other ownerMember otherMember same).1.symm.trans typed

theorem typePair_of_exact (entry other : Listed) (member : Listing options machines entry)
    (otherMember : Listing options machines other) :
    typeGroup entry ≠ clusterTypeGroup other := by
  intro same
  have typed := type_of_reached options machines tight entry other member otherMember
    ⟨clusterTypeGroup other, by rw [same]; exact .refl, own_host options machines other otherMember⟩
  -- the pair is the type's own group name with something after it
  have longer := length_clusterTypeGroup other
  rw [← same, typeGroup, typeGroup, typed] at longer
  omega

theorem separate_of_exact : Separate options machines where
  clusters := by
    intro entry other member otherMember same
    exact tight.clustersApart entry other member otherMember (by simp [clusterGroup, same])
  types := fun entry other member otherMember same =>
    tight.typesApart entry other member otherMember same
  pairs := tight.pairsApart
  clusterType := tight.clusterTypeApart
  clusterPair := tight.clusterPairApart
  typePair := typePair_of_exact options machines tight
  owners := owners_of_exact options machines tight
  -- Every host is below `all` and every machine below `slurm`.
  slurmType := by
    intro entry other member otherMember fixed
    apply type_of_reached options machines tight entry other member otherMember
    rcases fixed with isSlurm | isAll
    · rw [isSlurm]
      exact slurm_reaches_own options machines other otherMember
    · rw [isAll]
      exact all_reaches_own options machines other otherMember
  localhostType := by
    intro entry member fixed
    apply (tight.typeHosts entry member "localhost").mp
    rcases fixed with isAll | isManagement
    · rw [isAll]
      exact all_reaches_localhost options machines
    · rw [isManagement]
      exact management_reaches_localhost options machines
  -- A role group has the pair as a child, and with it the hosts of the pair.
  roleType := by
    intro entry other member otherMember role
    apply type_of_reached options machines tight entry other member otherMember
    exact ⟨clusterTypeGroup other,
      .single (edge_of_listed options machines other otherMember _ _
        (Or.inr (Or.inr ⟨Or.inr (Or.inr role), rfl⟩))),
      own_host options machines other otherMember⟩

end FromExact

/-- Membership is exact and isolating exactly when the labels and hostnames of
the listed machines are separate. -/
theorem membership_exact_iff :
    Exact options machines (inventoryFromMachines options machines) ↔
      Separate options machines := by
  constructor
  · exact fun tight => separate_of_exact options machines tight
  · intro separate
    exact
      { clusterHosts := cluster_hosts_exact options machines separate
        typeHosts := type_hosts_exact options machines separate
        pairHosts := pair_hosts_exact options machines separate
        clustersApart := by
          intro entry other member otherMember same
          exact separate.clusters entry other member otherMember
            ((String.append_right_inj _).mp same)
        typesApart := fun entry other member otherMember same =>
          separate.types entry other member otherMember same
        pairsApart := separate.pairs
        clusterTypeApart := separate.clusterType
        clusterPairApart := separate.clusterPair
        hostvars := hostvars_exact options machines separate }

end Membership

/-- Clusters `a-b` and `a_b` are different, and their nodes share one group. -/
theorem clusters_share_a_group :
    ∃ (options : Options) (machines : List Machine) (entry other : Listed),
      Listing options machines entry ∧ Listing options machines other ∧
      entry.cluster ≠ other.cluster ∧ clusterGroup entry = clusterGroup other ∧
      ReachesHost (inventoryFromMachines options machines) (clusterGroup entry) other.hostname ∧
      ¬ Exact options machines (inventoryFromMachines options machines) := by
  let options : Options := { executable := "/usr/bin/python3" }
  let first : Machine :=
    { name := some "m0", labels := [(options.nodeTypeLabel, "compute"), (clusterNameLabel, "a-b")] }
  let second : Machine :=
    { name := some "m1", labels := [(options.nodeTypeLabel, "compute"), (clusterNameLabel, "a_b")] }
  let machines := [first, second]
  let entry : Listed := ⟨"compute", "a-b", "m0", machineHostvars options first⟩
  let other : Listed := ⟨"compute", "a_b", "m1", machineHostvars options second⟩
  have member : Listing options machines entry := ⟨first, by simp [machines], by decide⟩
  have otherMember : Listing options machines other := ⟨second, by simp [machines], by decide⟩
  have same : clusterGroup entry = clusterGroup other := by decide
  have apart : entry.cluster ≠ other.cluster := by decide
  refine ⟨options, machines, entry, other, member, otherMember, apart, same, ?_, ?_⟩
  · rw [same]
    exact cluster_reaches_own options machines other otherMember
  · intro tight
    exact apart (tight.clustersApart entry other member otherMember same)

end ClusterApiForSlinky.InventoryMembership
