import ClusterApiForSlinky.InventoryMembership
import ClusterApiForSlinky.NodePools
import ClusterApiForSlinky.ResourceNameLabels

/-!
The machines of all workload clusters in one inventory. Cluster API labels a machine
as the template of its worker pool says; the inventory groups it by two of these
labels, so a tenant is told apart by nothing but the name of its Cluster.
-/

namespace ClusterApiForSlinky.FleetInventory
open MachineInventory InventoryGraph InventoryMembership
open ResourceNames ResourceNameLabels TenantObjects TenantCollisions NodePools

/-- A pool of workers: its name and its node type. -/
structure WorkerPool where
  name : String
  nodeType : String
  deriving DecidableEq, Repr

def localPools : List WorkerPool :=
  Local.machineDeployments.map (fun worker => ⟨worker.name.text, worker.nodeType.text⟩)

def byoPools : List WorkerPool :=
  [⟨headName.text, controllerNodeType.text⟩, ⟨computeName.text, computeNodeType.text⟩]

/-- The pools whose templates have labels; a MachinePool of AKS has none. -/
def workerPools : ClusterClass → List WorkerPool
  | .localClass => localPools
  | .azureBYO => byoPools
  | .aks => []

/-- The name of a tenant's Cluster. -/
def ownCluster (tenant : Tenant) : String :=
  match clusterName tenant.cls tenant.instanceName.text with
  | .ok name => name
  | .error _ => ""

/-- The labels of a machine template, which are the selector of its MachineDeployment
and of the MachineHealthCheck of a local pool. -/
def templateLabels (tenant : Tenant) (pool : WorkerPool) : Annotations :=
  workerLabels (ownCluster tenant) pool.nodeType ++
    match tenant.cls with
    | .azureBYO => [(ownCluster tenant ++ ".worker", pool.name)]
    | .localClass | .aks => []

/-- `matchLabels` -/
def selects (labels : Annotations) (machine : Machine) : Bool :=
  labels.all (fun label => machine.labels.lookup label.1 = some label.2)

/-- A machine of a tenant: of a worker pool, or without a node type where its template
has none (a control plane, a MachinePool). Other labels do not matter. -/
structure Member where
  tenant : Tenant
  pool : Option WorkerPool
  machine : Machine
  rendered : ∀ worker ∈ pool, worker ∈ workerPools tenant.cls
  labelled : ∀ worker ∈ pool, selects (templateLabels tenant worker) machine = true
  unlabelled : pool = none → machine.labels.lookup nodeTypeLabel = none

/-- What `dynamic_inventory_variables` sets are the defaults of the script. -/
def awxOptions (executable : String) : Options := { executable }

def inventory (executable : String) (members : List Member) : Inventory :=
  inventoryFromMachines (awxOptions executable) (members.map Member.machine)

def Member.hostname (member : Member) : String := machineHostname member.machine

/-- The hosts below a group are those of the machines that `own` holds of. -/
def Reached (executable : String) (members : List Member) (group : String)
    (own : Member → WorkerPool → Prop) : Prop :=
  ∀ host, ReachesHost (inventory executable members) group host ↔
    ∃ other ∈ members, ∃ pool, other.pool = some pool ∧ own other pool ∧ other.hostname = host

/-- The groups and the selectors of a tenant are its own. -/
structure Isolated (executable : String) (members : List Member) : Prop where
  cluster : ∀ member ∈ members, ∀ pool, member.pool = some pool →
    Reached executable members ("cluster_" ++ sanitizeGroup (ownCluster member.tenant))
      (fun other _ => other.tenant = member.tenant)
  pair : ∀ member ∈ members, ∀ pool, member.pool = some pool →
    Reached executable members
      (pool.nodeType ++ "_" ++ sanitizeGroup (ownCluster member.tenant))
      (fun other own => other.tenant = member.tenant ∧ own = pool)
  selected : ∀ member ∈ members, ∀ pool, member.pool = some pool → ∀ other ∈ members,
    selects (templateLabels member.tenant pool) other.machine = true ↔
      other.tenant = member.tenant ∧ other.pool = some pool

/-- The default worker pools of the class, whatever its parameters are. -/
theorem byoPools_rendered (parameters : WorkloadConfig.AzureBYOWorkloadSpec) :
    ((AzureBYO.defaultNodePools parameters).filter (fun node => !node.kubernetesControlPlane)).map
      (fun node => ⟨node.name.text, node.nodeType.text⟩) = byoPools := rfl

theorem pool_cases (cls : ClusterClass) (pool : WorkerPool) (member : pool ∈ workerPools cls) :
    pool = ⟨"head", "controller"⟩ ∨ pool = ⟨"compute", "compute"⟩ := by
  have both : pool ∈ [(⟨"head", "controller"⟩ : WorkerPool), ⟨"compute", "compute"⟩] := by
    cases cls with
    | aks => cases member
    | localClass => exact member
    | azureBYO => exact member
  simpa using both

/-! Sanitizing the name of a Cluster. -/

def underscored (char : Char) : Char := if isDash char then '_' else char

theorem not_underscore_of_label (char : Char) (letter : isLabelChar char = true) : char ≠ '_' := by
  rintro rfl
  revert letter
  decide

theorem toLower_of_label (char : Char) (letter : isLabelChar char = true) :
    char.toLower = char := by
  have lowered := lowerChar_label char letter
  unfold lowerChar at lowered
  split at lowered
  · next kelvin =>
      subst kelvin
      revert letter
      decide
  · split at lowered
    · next dotted =>
        subst dotted
        revert letter
        decide
    · exact (List.cons.inj lowered).1

theorem groupChar_of_label (char : Char) (letter : isLabelChar char = true) :
    groupChar char = char := by
  have alphanum : char.isAlphanum = true := by
    have named : char.isAlphanum = (char.isUpper || char.isLower || char.isDigit) := rfl
    have lower : char.isLower = (decide (97 ≤ char.toNat) && decide (char.toNat ≤ 122)) := rfl
    have digit : char.isDigit = (decide (48 ≤ char.toNat) && decide (char.toNat ≤ 57)) := rfl
    have label : isLabelChar char =
        ((decide (97 ≤ char.toNat) && decide (char.toNat ≤ 122)) ||
          (decide (48 ≤ char.toNat) && decide (char.toNat ≤ 57))) := rfl
    rw [named, lower, digit, Bool.or_assoc, ← label, letter, Bool.or_true]
  simp [groupChar, alphanum]

theorem groupChar_of_allowed (char : Char) (allowed : isDnsLabelChar char = true) :
    groupChar char = underscored char := by
  cases dash : isDash char with
  | true =>
      have same : char = '-' := by simpa [isDash] using dash
      subst same
      rfl
  | false =>
      rw [underscored, dash]
      exact groupChar_of_label char (isLabelChar_of_not_dash char allowed dash)

theorem underscored_ne (char : Char) (letter : isLabelChar char = true) :
    (decide (underscored char = '_')) = false := by
  rw [underscored, isDash_of_label char letter]
  simpa using not_underscore_of_label char letter

/-- Nothing is stripped from a text that neither starts nor ends with what is. -/
theorem stripChars_ends (drop : Char → Bool) (chars : List Char)
    (first : ∀ char ∈ chars.head?, drop char = false)
    (last : ∀ char ∈ chars.getLast?, drop char = false) : Text.stripChars drop chars = chars := by
  have front : chars.dropWhile drop = chars := by
    cases chars with
    | nil => rfl
    | cons char rest => simp [first char rfl]
  rw [Text.stripChars, front, List.rdropWhile_eq_self_iff]
  intro present dropped
  have kept := last _ (List.getLast?_eq_some_getLast present)
  rw [kept] at dropped
  cases dropped

theorem sanitizeGroup_label (name : String) (valid : isDnsLabel name = true) :
    sanitizeGroup name = String.ofList (name.toList.map underscored) := by
  have stem := ((isDnsLabel_iff name).mp valid).1
  have grouped : name.toList.map groupChar = name.toList.map underscored :=
    List.map_congr_left (fun char member => groupChar_of_allowed char (stem.allowed char member))
  have whole : Text.stripChars (fun char => char = '_') (name.toList.map underscored) =
      name.toList.map underscored := by
    apply stripChars_ends
    · intro char starts
      rw [List.head?_map, Option.mem_def, Option.map_eq_some_iff] at starts
      obtain ⟨own, head, rfl⟩ := starts
      have letter := stem.first
      rw [head] at letter
      exact underscored_ne own letter
    · intro char ends
      rw [List.getLast?_map, Option.mem_def, Option.map_eq_some_iff] at ends
      obtain ⟨own, last, rfl⟩ := ends
      have letter := stem.last
      rw [last] at letter
      exact underscored_ne own letter
  have lowered : (name.toList.map underscored).map Char.toLower = name.toList.map underscored := by
    rw [List.map_map]
    apply List.map_congr_left
    intro char member
    show (underscored char).toLower = underscored char
    cases dash : isDash char with
    | true =>
        rw [underscored, dash]
        rfl
    | false =>
        rw [underscored, dash]
        exact toLower_of_label char (isLabelChar_of_not_dash char (stem.allowed char member) dash)
  have present : String.ofList (name.toList.map underscored) ≠ "" := by
    intro empty
    have none := congrArg String.toList empty
    rw [String.toList_ofList] at none
    exact stem.ne_nil _ (List.map_eq_nil_iff.mp none)
  rw [sanitizeGroup, grouped, whole, lowered, (Text.nonempty_eq_some _ _).mpr ⟨rfl, present⟩]
  rfl

theorem underscored_inj (first second : Char) (left : isDnsLabelChar first = true)
    (right : isDnsLabelChar second = true) (same : underscored first = underscored second) :
    first = second := by
  cases one : isDash first with
  | true =>
      cases other : isDash second with
      | true =>
          have dash : first = '-' := by simpa [isDash] using one
          have also : second = '-' := by simpa [isDash] using other
          rw [dash, also]
      | false =>
          rw [underscored, underscored, one, other] at same
          exact absurd same.symm (not_underscore_of_label second
            (isLabelChar_of_not_dash second right other))
  | false =>
      cases other : isDash second with
      | true =>
          rw [underscored, underscored, one, other] at same
          exact absurd same (not_underscore_of_label first
            (isLabelChar_of_not_dash first left one))
      | false =>
          rwa [underscored, underscored, one, other] at same

theorem map_underscored_inj (first second : List Char)
    (left : ∀ char ∈ first, isDnsLabelChar char = true)
    (right : ∀ char ∈ second, isDnsLabelChar char = true)
    (same : first.map underscored = second.map underscored) : first = second := by
  induction first generalizing second with
  | nil => exact (List.map_eq_nil_iff.mp same.symm).symm
  | cons char rest ih =>
      cases second with
      | nil => cases same
      | cons other later =>
          obtain ⟨head, tail⟩ := List.cons.inj same
          have heads := underscored_inj char other (left char (by simp)) (right other (by simp)) head
          have tails := ih later (fun one inside => left one (by simp [inside]))
            (fun one inside => right one (by simp [inside])) tail
          rw [heads, tails]

/-- Dashes become underscores, which labels do not have. -/
theorem sanitizeGroup_inj (first second : String) (left : isDnsLabel first = true)
    (right : isDnsLabel second = true) (same : sanitizeGroup first = sanitizeGroup second) :
    first = second := by
  rw [sanitizeGroup_label first left, sanitizeGroup_label second right, String.ofList_inj] at same
  have leftStem := ((isDnsLabel_iff first).mp left).1
  have rightStem := ((isDnsLabel_iff second).mp right).1
  exact String.toList_inj.mp
    (map_underscored_inj _ _ leftStem.allowed rightStem.allowed same)

theorem ownCluster_plain (tenant : Tenant) :
    ownCluster tenant = shapedName (tenantLabel tenant) (clusterShape tenant.cls) := by
  rw [ownCluster, clusterName_plain]
  rfl

theorem tenantLabel_stem (tenant : Tenant) : Stem (tenantLabel tenant) :=
  normalizedLabel_stem _ (label_ne_nil tenant.instanceName)

theorem ownCluster_valid (tenant : Tenant) : isDnsLabel (ownCluster tenant) = true := by
  obtain ⟨name, cls⟩ := tenant
  have plain := clusterName_plain cls name
  cases cls with
  | localClass =>
      rw [ownCluster_plain]
      have ending : Stem "workload".toList := by
        refine ⟨?_, rfl, rfl⟩
        rw [← List.all_eq_true]
        rfl
      exact (joinSuffix_valid _ _ (tenantLabel_stem ⟨name, .localClass⟩) ending (by decide)).1
  | aks =>
      rw [ownCluster_plain]
      exact (clusterNameOf_valid name.text _ plain).1
  | azureBYO =>
      rw [ownCluster_plain]
      exact (clusterNameOf_valid name.text _ plain).1

/-! What the inventory lists. -/

def Member.entry (executable : String) (member : Member) (pool : WorkerPool) : Listed :=
  { nodeType := pool.nodeType
    cluster := ownCluster member.tenant
    hostname := member.hostname
    hostvars := machineHostvars (awxOptions executable) member.machine }

theorem labels_of_selected (tenant : Tenant) (pool : WorkerPool) (machine : Machine)
    (selected : selects (templateLabels tenant pool) machine = true) :
    machine.labels.lookup nodeTypeLabel = some pool.nodeType ∧
      machine.labels.lookup clusterNameLabel = some (ownCluster tenant) := by
  rw [selects, List.all_eq_true] at selected
  constructor
  · have typed := selected (nodeTypeLabel, pool.nodeType) (by simp [templateLabels, workerLabels])
    exact of_decide_eq_true typed
  · have named := selected (clusterNameLabel, ownCluster tenant)
      (by simp [templateLabels, workerLabels, clusterNameLabel])
    exact of_decide_eq_true named

theorem labels_of_pool (member : Member) (pool : WorkerPool) (own : member.pool = some pool) :
    member.machine.labels.lookup nodeTypeLabel = some pool.nodeType ∧
      member.machine.labels.lookup clusterNameLabel = some (ownCluster member.tenant) :=
  labels_of_selected member.tenant pool member.machine (member.labelled pool own)

theorem ownCluster_ne_empty (tenant : Tenant) : ownCluster tenant ≠ "" := by
  have stem := ((isDnsLabel_iff _).mp (ownCluster_valid tenant)).1
  intro empty
  rw [empty] at stem
  exact stem.ne_nil _ rfl

theorem pool_of_member (member : Member) (pool : WorkerPool) (own : member.pool = some pool) :
    pool = ⟨"head", "controller"⟩ ∨ pool = ⟨"compute", "compute"⟩ :=
  pool_cases _ pool (member.rendered pool own)

theorem nodeType_of_member (member : Member) (pool : WorkerPool) (own : member.pool = some pool) :
    pool.nodeType = "controller" ∨ pool.nodeType = "compute" := by
  rcases pool_of_member member pool own with rfl | rfl
  · exact Or.inl rfl
  · exact Or.inr rfl

theorem nodeType_unmarked (member : Member) (pool : WorkerPool) (own : member.pool = some pool) :
    '_' ∉ pool.nodeType.toList := by
  rcases nodeType_of_member member pool own with same | same
  · rw [same]
    decide
  · rw [same]
    decide

/-- A machine is listed as of its tenant and type exactly when it is of a worker pool. -/
theorem listed_member (executable : String) (member : Member) :
    listed (awxOptions executable) member.machine =
      member.pool.map (Member.entry executable member) := by
  cases own : member.pool with
  | none =>
      have bare : member.machine.labels.lookup (awxOptions executable).nodeTypeLabel = none :=
        member.unlabelled own
      rw [listed, bare]
      rfl
  | some pool =>
      obtain ⟨typed, named⟩ := labels_of_pool member pool own
      have typedToo : Text.nonempty
          (member.machine.labels.lookup (awxOptions executable).nodeTypeLabel) =
            some pool.nodeType := by
        rw [Text.nonempty_eq_some]
        refine ⟨typed, ?_⟩
        rcases nodeType_of_member member pool own with same | same
        · rw [same]
          decide
        · rw [same]
          decide
      have namedToo : Text.nonempty (member.machine.labels.lookup clusterNameLabel) =
          some (ownCluster member.tenant) :=
        (Text.nonempty_eq_some _ _).mpr ⟨named, ownCluster_ne_empty member.tenant⟩
      rw [listed, typedToo, namedToo]
      rfl

theorem listing_iff (executable : String) (members : List Member) (entry : Listed) :
    Listing (awxOptions executable) (members.map Member.machine) entry ↔
      ∃ member ∈ members, ∃ pool, member.pool = some pool ∧
        entry = member.entry executable pool := by
  constructor
  · rintro ⟨machine, inside, found⟩
    obtain ⟨member, present, rfl⟩ := List.mem_map.mp inside
    rw [listed_member, Option.map_eq_some_iff] at found
    obtain ⟨pool, own, same⟩ := found
    exact ⟨member, present, pool, own, same.symm⟩
  · rintro ⟨member, present, pool, own, rfl⟩
    refine ⟨member.machine, List.mem_map.mpr ⟨member, present, rfl⟩, ?_⟩
    rw [listed_member, own]
    rfl

theorem typeGroup_entry (executable : String) (member : Member) (pool : WorkerPool)
    (own : member.pool = some pool) :
    typeGroup (member.entry executable pool) = pool.nodeType := by
  show sanitizeGroup pool.nodeType = pool.nodeType
  rcases nodeType_of_member member pool own with same | same
  · rw [same]
    decide
  · rw [same]
    decide

theorem append_ne (first second left right : String) (size : Nat)
    (room : size ≤ first.toList.length) (roomToo : size ≤ second.toList.length)
    (differs : first.toList.take size ≠ second.toList.take size) :
    first ++ left ≠ second ++ right := by
  intro same
  have lists := congrArg (fun text : String => text.toList.take size) same
  simp only [String.toList_append] at lists
  rw [List.take_append_of_le_length room, List.take_append_of_le_length roomToo] at lists
  exact differs lists

theorem pairs_agree (executable : String) (member other : Member) (pool same : WorkerPool)
    (own : member.pool = some pool) (otherOwn : other.pool = some same)
    (agree : clusterTypeGroup (member.entry executable pool) =
      clusterTypeGroup (other.entry executable same)) :
    pool.nodeType = same.nodeType ∧ ownCluster member.tenant = ownCluster other.tenant := by
  rw [clusterTypeGroup, clusterTypeGroup, typeGroup_entry executable member pool own,
    typeGroup_entry executable other same otherOwn, String.append_assoc, String.append_assoc]
    at agree
  have clusters : pool.nodeType = same.nodeType →
      ownCluster member.tenant = ownCluster other.tenant := by
    intro types
    rw [types, String.append_right_inj, String.append_right_inj] at agree
    exact sanitizeGroup_inj _ _ (ownCluster_valid _) (ownCluster_valid _) agree
  -- Two types part within their first three letters, whatever follows them.
  rcases nodeType_of_member member pool own with left | left <;>
    rcases nodeType_of_member other same otherOwn with right | right
  · exact ⟨left.trans right.symm, clusters (left.trans right.symm)⟩
  · rw [left, right] at agree
    exact absurd agree (append_ne _ _ _ _ 3 (by decide) (by decide) (by decide))
  · rw [left, right] at agree
    exact absurd agree (append_ne _ _ _ _ 3 (by decide) (by decide) (by decide))
  · exact ⟨left.trans right.symm, clusters (left.trans right.symm)⟩

section

variable (executable : String) (members : List Member)

/-- The labels of a fleet are separate, even when two tenants share a Cluster name. -/
theorem fleet_separate (hosts : (members.map Member.hostname).Nodup) :
    Separate (awxOptions executable) (members.map Member.machine) := by
  have listing := fun entry present => (listing_iff executable members entry).mp present
  have typed : ∀ entry, Listing (awxOptions executable) (members.map Member.machine) entry →
      typeGroup entry = entry.nodeType ∧
        (entry.nodeType = "controller" ∨ entry.nodeType = "compute") := by
    intro entry present
    obtain ⟨member, _, pool, own, rfl⟩ := listing entry present
    exact ⟨typeGroup_entry executable member pool own, nodeType_of_member member pool own⟩
  -- The names of all other groups have a mark that no type has.
  have unmarked : ∀ entry, Listing (awxOptions executable) (members.map Member.machine) entry →
      '_' ∉ (typeGroup entry).toList := by
    intro entry present
    obtain ⟨member, _, pool, own, rfl⟩ := listing entry present
    rw [typeGroup_entry executable member pool own]
    exact nodeType_unmarked member pool own
  have plain : ∀ entry, Listing (awxOptions executable) (members.map Member.machine) entry →
      ∀ name, name ≠ "controller" → name ≠ "compute" → typeGroup entry ≠ name := by
    intro entry present name one other same
    obtain ⟨group, either⟩ := typed entry present
    rw [group] at same
    subst same
    exact either.elim one other
  constructor
  case clusters =>
    intro entry other present presentToo same
    obtain ⟨member, _, pool, _, rfl⟩ := listing entry present
    obtain ⟨member', _, pool', _, rfl⟩ := listing other presentToo
    exact sanitizeGroup_inj _ _ (ownCluster_valid _) (ownCluster_valid _) same
  case types =>
    intro entry other present presentToo same
    rw [← (typed entry present).1, ← (typed other presentToo).1]
    exact same
  case pairs =>
    intro entry other present presentToo same
    obtain ⟨member, _, pool, own, rfl⟩ := listing entry present
    obtain ⟨member', _, pool', own', rfl⟩ := listing other presentToo
    exact pairs_agree executable member member' pool pool' own own' same
  case clusterType =>
    intro entry other present presentToo same
    exact InventoryWellFormed.clusterGroup_ne entry _ (unmarked other presentToo) same
  case clusterPair =>
    intro entry other present presentToo
    rw [clusterGroup, clusterTypeGroup, (typed other presentToo).1, String.append_assoc]
    rcases (typed other presentToo).2 with is | is
    · rw [is]
      exact append_ne _ _ _ _ 3 (by decide) (by decide) (by decide)
    · rw [is]
      exact append_ne _ _ _ _ 3 (by decide) (by decide) (by decide)
  case typePair =>
    intro entry other present _ same
    exact InventoryWellFormed.clusterTypeGroup_ne other _ (unmarked entry present) same.symm
  case owners =>
    intro entry other present presentToo same
    obtain ⟨member, inside, pool, _, rfl⟩ := listing entry present
    obtain ⟨member', inside', pool', _, rfl⟩ := listing other presentToo
    rw [List.inj_on_of_nodup_map hosts inside inside' same]
    rfl
  case slurmType =>
    intro entry other present _ fixed
    rcases fixed with is | is
    · exact absurd is (plain entry present _ (by decide) (by decide))
    · exact absurd is (plain entry present _ (by decide) (by decide))
  case localhostType =>
    intro entry present fixed
    rcases fixed with is | is
    · exact absurd is (plain entry present _ (by decide) (by decide))
    · exact absurd is (plain entry present _ (by decide) (by decide))
  case roleType =>
    intro entry other present _ role
    rw [(typed entry present).1] at role
    rcases role with ⟨is, same⟩ | ⟨is, same⟩
    · rw [is, same]
      rfl
    · rw [is, same]
      rfl

theorem ownCluster_agree_iff (first second : Tenant) :
    ownCluster first = ownCluster second ↔
      clusterLabel first.cls (tenantLabel first) = clusterLabel second.cls (tenantLabel second) := by
  rw [ownCluster_plain, ownCluster_plain]
  exact clusterName_agree_iff _ _ _ _

/-- No two tenants with workers have one Cluster name; the name of a local cluster is
that of its label cut to 54 characters, with `-workload`. -/
def NamesApart : Prop :=
  ∀ member ∈ members, ∀ other ∈ members, member.pool.isSome = true → other.pool.isSome = true →
    clusterLabel member.tenant.cls (tenantLabel member.tenant) =
      clusterLabel other.tenant.cls (tenantLabel other.tenant) → member.tenant = other.tenant

variable {members}

theorem NamesApart.same (apart : NamesApart members) {member other : Member}
    {pool otherPool : WorkerPool} (inside : member ∈ members) (otherInside : other ∈ members)
    (own : member.pool = some pool) (otherOwn : other.pool = some otherPool)
    (clusters : ownCluster other.tenant = ownCluster member.tenant) :
    other.tenant = member.tenant := by
  apply apart other otherInside member inside
  · rw [otherOwn]
    rfl
  · rw [own]
    rfl
  · exact (ownCluster_agree_iff _ _).mp clusters

theorem reached_own (member : Member) (inside : member ∈ members) (pool : WorkerPool)
    (own : member.pool = some pool) :
    Listing (awxOptions executable) (members.map Member.machine) (member.entry executable pool) :=
  (listing_iff executable members _).mpr ⟨member, inside, pool, own, rfl⟩

theorem cluster_reached (hosts : (members.map Member.hostname).Nodup) (apart : NamesApart members)
    (member : Member) (inside : member ∈ members) (pool : WorkerPool)
    (own : member.pool = some pool) :
    Reached executable members ("cluster_" ++ sanitizeGroup (ownCluster member.tenant))
      (fun other _ => other.tenant = member.tenant) := by
  intro host
  have separate := fleet_separate executable members hosts
  have present := reached_own executable member inside pool own
  have exactly := cluster_hosts_exact _ _ separate _ present host
  refine exactly.trans ?_
  constructor
  · rintro ⟨listed, listing, clusters, named⟩
    obtain ⟨other, otherInside, otherPool, otherOwn, rfl⟩ :=
      (listing_iff executable members _).mp listing
    have tenants := apart.same inside otherInside own otherOwn clusters
    exact ⟨other, otherInside, otherPool, otherOwn, tenants, named⟩
  · rintro ⟨other, otherInside, otherPool, otherOwn, tenants, named⟩
    refine ⟨other.entry executable otherPool, ?_, ?_, named⟩
    · exact reached_own executable other otherInside otherPool otherOwn
    · exact congrArg ownCluster tenants

theorem pools_of_one_type (member other : Member) (pool otherPool : WorkerPool)
    (own : member.pool = some pool) (otherOwn : other.pool = some otherPool)
    (types : otherPool.nodeType = pool.nodeType) : otherPool = pool := by
  rcases pool_of_member member pool own with rfl | rfl <;>
    rcases pool_of_member other otherPool otherOwn with rfl | rfl
  · rfl
  · exact absurd types (by decide)
  · exact absurd types (by decide)
  · rfl

theorem pair_reached (hosts : (members.map Member.hostname).Nodup) (apart : NamesApart members)
    (member : Member) (inside : member ∈ members) (pool : WorkerPool)
    (own : member.pool = some pool) :
    Reached executable members (pool.nodeType ++ "_" ++ sanitizeGroup (ownCluster member.tenant))
      (fun other otherPool => other.tenant = member.tenant ∧ otherPool = pool) := by
  intro host
  have separate := fleet_separate executable members hosts
  have present := reached_own executable member inside pool own
  have exactly := pair_hosts_exact _ _ separate _ present host
  rw [clusterTypeGroup, typeGroup_entry executable member pool own] at exactly
  refine exactly.trans ?_
  constructor
  · rintro ⟨listed, listing, clusters, types, named⟩
    obtain ⟨other, otherInside, otherPool, otherOwn, rfl⟩ :=
      (listing_iff executable members _).mp listing
    have tenants := apart.same inside otherInside own otherOwn clusters
    have pools := pools_of_one_type member other pool otherPool own otherOwn types
    exact ⟨other, otherInside, otherPool, otherOwn, ⟨tenants, pools⟩, named⟩
  · rintro ⟨other, otherInside, otherPool, otherOwn, ⟨tenants, rfl⟩, named⟩
    refine ⟨other.entry executable otherPool, ?_, ?_, rfl, named⟩
    · exact reached_own executable other otherInside otherPool otherOwn
    · exact congrArg ownCluster tenants

theorem selected_own (apart : NamesApart members) (member : Member) (inside : member ∈ members)
    (pool : WorkerPool) (own : member.pool = some pool) (other : Member)
    (otherInside : other ∈ members) :
    selects (templateLabels member.tenant pool) other.machine = true ↔
      other.tenant = member.tenant ∧ other.pool = some pool := by
  constructor
  · intro matched
    obtain ⟨typed, named⟩ := labels_of_selected member.tenant pool other.machine matched
    cases otherOwn : other.pool with
    | none =>
        rw [other.unlabelled otherOwn] at typed
        cases typed
    | some otherPool =>
        obtain ⟨typedToo, namedToo⟩ := labels_of_pool other otherPool otherOwn
        have types := Option.some.inj (typedToo.symm.trans typed)
        have clusters := Option.some.inj (namedToo.symm.trans named)
        have tenants := apart.same inside otherInside own otherOwn clusters
        exact ⟨tenants, by rw [pools_of_one_type member other pool otherPool own otherOwn types]⟩
  · rintro ⟨tenants, otherOwn⟩
    rw [← tenants]
    exact other.labelled pool otherOwn

theorem names_of_isolated (hosts : (members.map Member.hostname).Nodup)
    (isolated : Isolated executable members) : NamesApart members := by
  intro member inside other otherInside working otherWorking labels
  obtain ⟨pool, own⟩ := Option.isSome_iff_exists.mp working
  obtain ⟨otherPool, otherOwn⟩ := Option.isSome_iff_exists.mp otherWorking
  have clusters := (ownCluster_agree_iff _ _).mpr labels
  -- The other machine is below the group of its Cluster, which is this one's too.
  have below := cluster_reaches_own (awxOptions executable) (members.map Member.machine)
    (other.entry executable otherPool) (reached_own executable other otherInside otherPool otherOwn)
  have group : clusterGroup (other.entry executable otherPool) =
      "cluster_" ++ sanitizeGroup (ownCluster member.tenant) := by
    rw [clusters]
    rfl
  rw [group] at below
  obtain ⟨third, thirdInside, _, _, tenants, named⟩ :=
    (isolated.cluster member inside pool own other.hostname).mp below
  rw [List.inj_on_of_nodup_map hosts thirdInside otherInside named] at tenants
  exact tenants.symm

end

/-- Whatever machines there are, the groups and the selectors of every tenant hold its
own workers exactly as long as no two tenants with workers share a Cluster name. -/
theorem tenants_isolated_iff (executable : String) (members : List Member)
    (hosts : (members.map Member.hostname).Nodup) :
    Isolated executable members ↔ NamesApart members := by
  constructor
  · exact names_of_isolated executable hosts
  · intro apart
    constructor
    · exact cluster_reached executable hosts apart
    · exact pair_reached executable hosts apart
    · intro member inside pool own other otherInside
      exact selected_own apart member inside pool own other otherInside

def teamB : Tenant := ⟨⟨"b", by decide⟩, .azureBYO⟩
def teamAByo : Tenant := ⟨teamAWorkload.instanceName, .azureBYO⟩

def computePool : WorkerPool := ⟨"compute", "compute"⟩

/-- A compute machine with the labels of its template and no others. -/
def worker (tenant : Tenant) (hostname : String)
    (rendered : computePool ∈ workerPools tenant.cls)
    (labelled : selects (templateLabels tenant computePool)
      { labels := templateLabels tenant computePool } = true) : Member where
  tenant := tenant
  pool := some computePool
  machine := { labels := templateLabels tenant computePool, nodeRefName := some hostname }
  rendered := by
    rintro _ ⟨⟩
    exact rendered
  labelled := by
    rintro _ ⟨⟩
    exact labelled
  unlabelled := by
    intro none
    cases none

def ofTeamA : Member := worker teamA "a-1" (by decide) (by decide)
def ofTeamB : Member := worker teamB "b-1" (by decide) (by decide)
def ofTeamAByo : Member := worker teamAByo "a-2" (by decide) (by decide)

/-- A local tenant `a` shares its groups with a BYO tenant `a-workload`. -/
theorem tenants_isolated_pair :
    Isolated "/usr/bin/python3" [ofTeamA, ofTeamB] ∧
      ¬Isolated "/usr/bin/python3" [ofTeamA, ofTeamAByo] := by
  constructor
  · rw [tenants_isolated_iff _ _ (by decide)]
    intro member inside other otherInside _ _ labels
    simp only [List.mem_cons, List.not_mem_nil, or_false] at inside otherInside
    rcases inside with rfl | rfl <;> rcases otherInside with rfl | rfl
    · rfl
    · exact absurd labels (by decide)
    · exact absurd labels (by decide)
    · rfl
  · rw [tenants_isolated_iff _ _ (by decide)]
    intro apart
    have same := apart ofTeamA (by simp) ofTeamAByo (by simp) rfl rfl (by decide)
    exact absurd same (by decide)

end ClusterApiForSlinky.FleetInventory
