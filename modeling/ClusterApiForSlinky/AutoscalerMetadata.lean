import ClusterApiForSlinky.AKSPoolNames
import ClusterApiForSlinky.ResourceNameLabels

/-!
The autoscaling bounds of a pool against what is rendered for it, in the three
workload-cluster classes. Only Azure BYO compares the bounds with each other,
none compares them with the replicas, and AKS leaves the replicas to Pulumi.
-/

namespace ClusterApiForSlinky.AutoscalerMetadata
open ResourceNames NodePools

/-- The two annotations are there with the configured values, or not at all. -/
def Carries (bounds : Option Bounds) (annotations : Annotations) : Prop :=
  (∀ value, (autoscalerMinAnnotationKey, value) ∈ annotations ↔
    ∃ pair, bounds = some pair ∧ value = toString pair.1.value) ∧
  (∀ value, (autoscalerMaxAnnotationKey, value) ∈ annotations ↔
    ∃ pair, bounds = some pair ∧ value = toString pair.2.value)

def InRange (bounds : Option Bounds) (replicas : Int) : Prop :=
  ∀ pair, bounds = some pair → pair.1.value ≤ replicas ∧ replicas ≤ pair.2.value

def IgnoresReplicas (ignoreChanges : Option (List String)) : Prop :=
  ∃ fields, ignoreChanges = some fields ∧ "spec.replicas" ∈ fields

/-- What is asked of a worker with a MachineDeployment. -/
structure Coherent (bounds : Option Bounds) (deployment : MachineDeployment) : Prop where
  range : InRange bounds deployment.replicas
  annotations : Carries bounds deployment.annotations
  template : Carries bounds (deployment.templateAnnotations.getD [])
  ignored : IgnoresReplicas deployment.ignoreChanges ↔ bounds.isSome = true
  discovery : (∃ value, (clusterAutoscalerDiscoveryLabel, value) ∈ deployment.labels) ↔
    bounds.isSome = true

/-- What is asked of an AKS pool. -/
structure PoolCoherent (bounds : Option Bounds) (pool : AKS.MachinePool) : Prop where
  range : InRange bounds pool.replicas
  scaling : pool.scaling = bounds.map (fun pair => (pair.1.value, pair.2.value))
  ignored : IgnoresReplicas pool.ignoreChanges ↔ bounds.isSome = true

/-! What the classes with MachineDeployments render. -/

/-- Both classes write the same metadata once Azure BYO has checked the bounds. -/
def deploymentOf (name clusterName nodeType : String) (replicas : StrictPositiveInt)
    (bounds : Option Bounds) : MachineDeployment :=
  let annotations := Local.autoscalerAnnotations bounds
  { name := name
    replicas := replicas.value
    labels := machineDeploymentLabels clusterName nodeType bounds.isSome
    annotations := backgroundDeleteAnnotations annotations
    templateAnnotations := templateAnnotations annotations
    ignoreChanges := replicasIgnored bounds }

theorem autoscalerAnnotations_carries (bounds : Option Bounds) :
    Carries bounds (Local.autoscalerAnnotations bounds) := by
  cases bounds with
  | none => simp [Carries, Local.autoscalerAnnotations]
  | some pair =>
      have minMax : autoscalerMinAnnotationKey ≠ autoscalerMaxAnnotationKey := by decide
      constructor
      · intro value
        simp [Local.autoscalerAnnotations, boundAnnotations, minMax]
      · intro value
        simp [Local.autoscalerAnnotations, boundAnnotations, minMax.symm]

theorem carries_append (bounds : Option Bounds) (annotations : Annotations) (key value : String)
    (notMin : key ≠ autoscalerMinAnnotationKey) (notMax : key ≠ autoscalerMaxAnnotationKey)
    (carries : Carries bounds annotations) : Carries bounds (annotations ++ [(key, value)]) := by
  simpa [Carries, notMin.symm, notMax.symm] using carries

theorem templateAnnotations_getD (annotations : Annotations) :
    (templateAnnotations annotations).getD [] = annotations := by
  unfold templateAnnotations
  split
  · next empty => exact empty.symm
  · rfl

/-- Everything is coherent but, perhaps, the range. -/
theorem deploymentOf_coherent_iff (name clusterName nodeType : String)
    (replicas : StrictPositiveInt) (bounds : Option Bounds) :
    Coherent bounds (deploymentOf name clusterName nodeType replicas bounds) ↔
      InRange bounds replicas.value := by
  constructor
  · exact Coherent.range
  · intro range
    refine ⟨range, ?_, ?_, ?_, ?_⟩
    · exact carries_append bounds _ _ _ (by decide) (by decide)
        (autoscalerAnnotations_carries bounds)
    · simp only [deploymentOf, templateAnnotations_getD]
      exact autoscalerAnnotations_carries bounds
    · cases bounds with
      | none => simp [IgnoresReplicas, deploymentOf, replicasIgnored]
      | some pair => simp [IgnoresReplicas, deploymentOf, replicasIgnored]
    · have notName : clusterAutoscalerDiscoveryLabel ≠ "cluster.x-k8s.io/cluster-name" := by decide
      have notType : clusterAutoscalerDiscoveryLabel ≠ nodeTypeLabel := by decide
      cases bounds with
      | none =>
          simp [deploymentOf, machineDeploymentLabels, workerLabels, autoscalerDiscoveryLabels,
            notName, notType]
      | some pair =>
          simp [deploymentOf, machineDeploymentLabels, workerLabels, autoscalerDiscoveryLabels,
            notName, notType]

theorem workerClass_ok_iff (instanceName clusterName : String)
    (worker : Local.MachineDeploymentSpec) (deployment : MachineDeployment) :
    Local.workerClass instanceName clusterName worker = .ok deployment ↔
      normalizedLabel instanceName ≠ [] ∧ deployment =
        deploymentOf (joinSuffix (normalizedLabel instanceName) worker.name.text.toList)
          clusterName worker.nodeType.text worker.replicas worker.autoscalerBounds := by
  unfold Local.workerClass
  by_cases empty : normalizedLabel instanceName = []
  · simp [Local.resourceName, resourceNameOf, empty, bind, Except.bind]
  · simp [Local.resourceName, resourceNameOf, empty, bind, Except.bind, pure, Except.pure,
      deploymentOf, eq_comm]

theorem local_ok_iff (instanceName : String) (workers : List Local.MachineDeploymentSpec)
    (deployments : List MachineDeployment) :
    Local.infrastructure instanceName workers = .ok deployments ↔
      normalizedLabel instanceName ≠ [] ∧ deployments = workers.map (fun worker =>
        deploymentOf (joinSuffix (normalizedLabel instanceName) worker.name.text.toList)
          (joinSuffix (normalizedLabel instanceName) "workload".toList)
          worker.nodeType.text worker.replicas worker.autoscalerBounds) := by
  unfold Local.infrastructure
  by_cases empty : normalizedLabel instanceName = []
  · simp [Local.resourceName, resourceNameOf, empty, bind, Except.bind]
  · simp only [Effect.bind_eq_ok, Local.resourceName, resourceNameOf, empty, if_false,
      Except.ok.injEq, exists_eq_left', ne_eq, not_false_eq_true, true_and]
    rw [Effect.mapM_render _ _ _ (workerClass_ok_iff instanceName _)]
    simp [empty]

def workersOf (pools : List AzureBYO.NodePoolSpec) : List AzureBYO.NodePoolSpec :=
  pools.filter (fun node => !node.kubernetesControlPlane)

/-- The one comparison that any of the classes makes. -/
def Ordered (bounds : Option Bounds) : Prop :=
  ∀ pair, bounds = some pair → pair.1.value ≤ pair.2.value

theorem byo_annotations_ok_iff (bounds : Option Bounds) (annotations : Annotations) :
    AzureBYO.autoscalerAnnotations bounds = .ok annotations ↔
      Ordered bounds ∧ annotations = Local.autoscalerAnnotations bounds := by
  cases bounds with
  | none => simp [AzureBYO.autoscalerAnnotations, Local.autoscalerAnnotations, Ordered, eq_comm]
  | some pair =>
      by_cases reversed : pair.2.value < pair.1.value
      · simp [AzureBYO.autoscalerAnnotations, Ordered, reversed]
      · simp only [AzureBYO.autoscalerAnnotations, reversed, if_false, Except.ok.injEq, Ordered,
          Option.some.injEq, forall_eq', Local.autoscalerAnnotations]
        constructor
        · rintro rfl
          exact ⟨by omega, rfl⟩
        · rintro ⟨_, same⟩
          exact same.symm

theorem workerDeployment_ok_iff (instanceName clusterName : String)
    (worker : AzureBYO.NodePoolSpec) (deployment : MachineDeployment) :
    AzureBYO.workerDeployment instanceName clusterName worker = .ok deployment ↔
      ((∃ name, AzureBYO.resourceName instanceName worker.name.text = .ok name) ∧
        Ordered worker.autoscalerBounds) ∧
      deployment = deploymentOf
        (joinSuffix (normalizedLabel instanceName) (normalizedLabel worker.name.text))
        clusterName worker.nodeType.text worker.replicas worker.autoscalerBounds := by
  unfold AzureBYO.workerDeployment
  simp only [Effect.bind_eq_ok, byo_annotations_ok_iff]
  constructor
  · rintro ⟨name, named, annotations, ⟨ordered, rfl⟩, same⟩
    refine ⟨⟨⟨name, named⟩, ordered⟩, ?_⟩
    obtain ⟨_, _, _, rfl⟩ := (ResourceNameLabels.byo_ok_iff _ _ _).mp named
    exact (Except.ok.inj same).symm
  · rintro ⟨⟨⟨name, named⟩, ordered⟩, rfl⟩
    refine ⟨name, named, _, ⟨ordered, rfl⟩, ?_⟩
    obtain ⟨_, _, _, rfl⟩ := (ResourceNameLabels.byo_ok_iff _ _ _).mp named
    rfl

theorem partition_ok (pools : List AzureBYO.NodePoolSpec) (controller : AzureBYO.NodePoolSpec)
    (workers : List AzureBYO.NodePoolSpec)
    (split : AzureBYO.partitionNodePools pools = .ok (controller, workers)) :
    workers = workersOf pools := by
  unfold AzureBYO.partitionNodePools at split
  dsimp only at split
  split at split
  · split at split
    · cases split
    · cases split
      rfl
  · cases split

theorem byo_infrastructure_ok (instanceName : String) (pools : List AzureBYO.NodePoolSpec)
    (subnet : Option String) (deployments : List MachineDeployment)
    (accepted : AzureBYO.infrastructure instanceName pools subnet = .ok deployments) :
    ∃ clusterName, (∀ worker ∈ workersOf pools, Ordered worker.autoscalerBounds) ∧
      deployments = (workersOf pools).map (fun worker => deploymentOf
        (joinSuffix (normalizedLabel instanceName) (normalizedLabel worker.name.text))
        clusterName worker.nodeType.text worker.replicas worker.autoscalerBounds) := by
  unfold AzureBYO.infrastructure at accepted
  obtain ⟨⟨controller, workers⟩, split, accepted⟩ := (Effect.bind_eq_ok _ _ _).mp accepted
  obtain ⟨_, _, accepted⟩ := (Effect.bind_eq_ok _ _ _).mp accepted
  cases partition_ok pools controller workers split
  split at accepted
  · cases accepted
  · obtain ⟨clusterName, _, accepted⟩ := (Effect.bind_eq_ok _ _ _).mp accepted
    obtain ⟨_, _, accepted⟩ := (Effect.bind_eq_ok _ _ _).mp accepted
    obtain ⟨each, same⟩ := (Effect.mapM_render _ _ _
      (workerDeployment_ok_iff instanceName clusterName) _ _).mp accepted
    exact ⟨clusterName, fun worker member => (each worker member).2, same⟩

/-- Past its argument checks the class is its infrastructure. -/
theorem byo_class_ok (arguments : AzureBYO.Arguments) (deployments : List MachineDeployment)
    (accepted : AzureBYO.workloadClusterClass arguments = .ok deployments) :
    ∃ subnet, AzureBYO.infrastructure arguments.instanceName (AzureBYO.nodePoolsOf arguments)
      subnet = .ok deployments := by
  unfold AzureBYO.workloadClusterClass at accepted
  obtain ⟨_, _, accepted⟩ := (Effect.bind_eq_ok _ _ _).mp accepted
  obtain ⟨_, _, accepted⟩ := (Effect.bind_eq_ok _ _ _).mp accepted
  obtain ⟨_, _, accepted⟩ := (Effect.bind_eq_ok _ _ _).mp accepted
  obtain ⟨_, _, accepted⟩ := (Effect.bind_eq_ok _ _ _).mp accepted
  obtain ⟨_, _, accepted⟩ := (Effect.bind_eq_ok _ _ _).mp accepted
  obtain ⟨subnet, _, accepted⟩ := (Effect.bind_eq_ok _ _ _).mp accepted
  obtain ⟨_, _, accepted⟩ := (Effect.bind_eq_ok _ _ _).mp accepted
  exact ⟨subnet, accepted⟩

theorem aks_class_ok (arguments : AKS.Arguments) (pools : List AKS.MachinePool)
    (accepted : AKS.workloadClusterClass arguments = .ok pools) :
    AKS.infrastructure arguments.instanceName (AKS.nodePoolsOf arguments) = .ok pools := by
  unfold AKS.workloadClusterClass at accepted
  split at accepted
  · cases accepted
  · split at accepted
    · cases accepted
    · obtain ⟨group, _, accepted⟩ := (Effect.bind_eq_ok _ _ _).mp accepted
      split at accepted
      · cases accepted
      · exact accepted

/-- Pulumi never leaves an AKS pool's replicas alone. -/
theorem rendered_coherent_iff (instanceName : String) (pool : AKS.NodePoolSpec) :
    PoolCoherent pool.autoscalingBounds (AKSPoolNames.rendered instanceName pool) ↔
      pool.autoscalingBounds = none := by
  constructor
  · intro coherent
    cases bounds : pool.autoscalingBounds with
    | none => rfl
    | some pair =>
        obtain ⟨fields, given, _⟩ := coherent.ignored.mpr (by rw [bounds]; rfl)
        cases given
  · intro absent
    refine ⟨?_, rfl, ?_⟩
    · intro pair present
      rw [absent] at present
      cases present
    · simp [IgnoresReplicas, absent, AKSPoolNames.rendered, AKSPoolNames.renderedEntry]

/-! Which (min, max, replicas) a class accepts for some pool of some cluster. -/

structure Triple where
  bounds : Bounds
  replicas : StrictPositiveInt

def LocalAccepts (triple : Triple) : Prop :=
  ∃ instanceName workers deployments,
    Local.infrastructure instanceName workers = .ok deployments ∧
    ∃ worker ∈ workers, worker.autoscalerBounds = some triple.bounds ∧
      worker.replicas = triple.replicas

def ByoAccepts (triple : Triple) : Prop :=
  ∃ arguments deployments, AzureBYO.workloadClusterClass arguments = .ok deployments ∧
    ∃ worker ∈ workersOf (AzureBYO.nodePoolsOf arguments),
      worker.autoscalerBounds = some triple.bounds ∧ worker.replicas = triple.replicas

def AksAccepts (triple : Triple) : Prop :=
  ∃ arguments pools, AKS.workloadClusterClass arguments = .ok pools ∧
    ∃ pool ∈ AKS.nodePoolsOf arguments, pool.autoscalingBounds = some triple.bounds ∧
      pool.replicas = triple.replicas

def SameAcceptance (triple : Triple) : Prop :=
  (LocalAccepts triple ↔ AksAccepts triple) ∧ (LocalAccepts triple ↔ ByoAccepts triple)

theorem instance_label : normalizedLabel "team-a" ≠ [] := by decide

theorem compute_letters : AKS.poolLetters computeName.text ≠ [] := by decide

theorem local_accepts (triple : Triple) : LocalAccepts triple :=
  ⟨"team-a", [{ name := computeName, nodeType := computeNodeType, replicas := triple.replicas
                autoscalerBounds := some triple.bounds }], _,
    (local_ok_iff _ _ _).mpr ⟨instance_label, rfl⟩, _, List.mem_singleton_self _, rfl, rfl⟩

def place : NonEmptyStr := ⟨"westeurope", by decide⟩

def aksArguments (nodePools : Option (List AKS.NodePoolSpec)) : AKS.Arguments :=
  { instanceName := "team-a"
    config := .at UUID.nil place
    identityName := some "cluster-identity", identityNamespace := some "default"
    resourceGroup := .ok (some "team-a-rg"), nodePools := nodePools }

/-- The class is given all it requires. -/
theorem aks_class_eq (nodePools : Option (List AKS.NodePoolSpec)) :
    AKS.workloadClusterClass (aksArguments nodePools) =
      AKS.infrastructure "team-a" (AKS.nodePoolsOf (aksArguments nodePools)) := by
  have identity : (aksArguments nodePools).identityName ≠ none := Option.some_ne_none _
  have spaced : (aksArguments nodePools).identityNamespace ≠ none := Option.some_ne_none _
  have resolved : (aksArguments nodePools).resourceGroup = .ok (some "team-a-rg") := rfl
  rw [AKS.workloadClusterClass, if_neg identity, if_neg spaced, resolved]
  simp only [bind, Except.bind, reduceCtorEq, if_false]
  rfl

def aksComputePool (triple : Triple) : AKS.NodePoolSpec :=
  { name := computeName, nodeType := computeNodeType, replicas := triple.replicas
    autoscalingBounds := some triple.bounds }

theorem aks_accepts (triple : Triple) : AksAccepts triple := by
  have inner : AKS.infrastructure "team-a" [aksComputePool triple] =
      .ok ([aksComputePool triple].map (AKSPoolNames.rendered "team-a")) := by
    refine (AKSPoolNames.infrastructure_ok_iff _ _ _).mpr
      ⟨instance_label, List.cons_ne_nil _ _, ?_, rfl⟩
    intro pool member
    rw [List.mem_singleton.mp member]
    exact compute_letters
  exact ⟨aksArguments (some [aksComputePool triple]), _, (aks_class_eq _).trans inner,
    aksComputePool triple, List.mem_singleton_self _, rfl, rfl⟩

def byoArguments (nodePools : Option (List AzureBYO.NodePoolSpec)) : AzureBYO.Arguments :=
  { instanceName := "team-a"
    config := .at UUID.nil place
    identityName := some "cluster-identity", identityNamespace := some "default"
    azureClientId := some "client", azureTenantId := some "tenant"
    azureIdentityResourceId := some "identity", subnet := .ok (some "nodes")
    placement := .ok none, nodePools := nodePools }

theorem byo_class_eq (nodePools : Option (List AzureBYO.NodePoolSpec)) :
    AzureBYO.workloadClusterClass (byoArguments nodePools) =
      AzureBYO.infrastructure "team-a" (AzureBYO.nodePoolsOf (byoArguments nodePools))
        (some "nodes") := by
  have given : ∀ what value, AzureBYO.require what (some value) = .ok () :=
    fun what value => if_neg (Option.some_ne_none value)
  simp only [AzureBYO.workloadClusterClass, byoArguments, given]
  rfl

def controlPlanePool : AzureBYO.NodePoolSpec :=
  { name := controlPlaneName, nodeType := controlPlaneName, replicas := WorkloadConfig.one
    kubernetesControlPlane := true }

def computePool (bounds : Option Bounds) (replicas : StrictPositiveInt) : AzureBYO.NodePoolSpec :=
  { name := computeName, nodeType := computeNodeType, replicas := replicas
    autoscalerBounds := bounds }

theorem byo_accepts_pair (bounds : Option Bounds) (replicas : StrictPositiveInt)
    (ordered : Ordered bounds) :
    ∃ deployments, AzureBYO.workloadClusterClass
      (byoArguments (some [controlPlanePool, computePool bounds replicas])) =
        .ok deployments := by
  have compute : AzureBYO.resourceName "team-a" computeName.text = .ok "team-a-compute" := by
    decide
  have controlPlane : AzureBYO.resourceName "team-a" controlPlaneName.text =
      .ok "team-a-control-plane" := by
    decide
  have cluster : AzureBYO.clusterName "team-a" = .ok "team-a" := by decide
  have names : AzureBYO.validateNodePoolNames "team-a"
      [controlPlanePool, computePool bounds replicas] = .ok () := by
    have logical : [controlPlaneName.text, computeName.text].Nodup := by decide
    have derived : ["team-a-control-plane", "team-a-compute"].Nodup := by decide
    simp only [AzureBYO.validateNodePoolNames, List.map_cons, List.map_nil, controlPlanePool,
      computePool, logical, not_true_eq_false, if_false, List.mapM_cons, List.mapM_nil, controlPlane,
      compute, bind, Except.bind, pure, Except.pure, derived]
  have split : AzureBYO.partitionNodePools [controlPlanePool, computePool bounds replicas] =
      .ok (controlPlanePool, [computePool bounds replicas]) := rfl
  obtain ⟨deployment, worker⟩ : ∃ deployment, AzureBYO.workerDeployment "team-a" "team-a"
      (computePool bounds replicas) = .ok deployment :=
    ⟨_, (workerDeployment_ok_iff _ _ _ _).mpr ⟨⟨⟨_, compute⟩, ordered⟩, rfl⟩⟩
  have inner : AzureBYO.infrastructure "team-a"
      [controlPlanePool, computePool bounds replicas] (some "nodes") = .ok [deployment] := by
    refine (Effect.bind_eq_ok _ _ _).mpr ⟨_, split, ?_⟩
    refine (Effect.bind_eq_ok _ _ _).mpr ⟨_, names, ?_⟩
    rw [if_neg (by simp)]
    refine (Effect.bind_eq_ok _ _ _).mpr ⟨_, cluster, ?_⟩
    refine (Effect.bind_eq_ok _ _ _).mpr ⟨_, controlPlane, ?_⟩
    exact (Effect.mapM_eq_ok _ _ _).mpr (.cons worker .nil)
  exact ⟨_, (byo_class_eq _).trans inner⟩

theorem byo_accepts_iff (triple : Triple) :
    ByoAccepts triple ↔ triple.bounds.1.value ≤ triple.bounds.2.value := by
  constructor
  · rintro ⟨arguments, deployments, accepted, worker, member, bounds, _⟩
    obtain ⟨subnet, inner⟩ := byo_class_ok arguments deployments accepted
    obtain ⟨_, ordered, _⟩ := byo_infrastructure_ok _ _ _ _ inner
    exact ordered worker member _ bounds
  · intro ordered
    have ready : Ordered (some triple.bounds) := by
      rintro pair ⟨⟩
      exact ordered
    obtain ⟨deployments, accepted⟩ := byo_accepts_pair (some triple.bounds) triple.replicas ready
    exact ⟨_, deployments, accepted, computePool (some triple.bounds) triple.replicas,
      by simp [workersOf, AzureBYO.nodePoolsOf, byoArguments, computePool], rfl, rfl⟩

/-- The metadata of the workers one cluster of each class renders. -/
structure AllCoherent (workers : List Local.MachineDeploymentSpec)
    (deployments : List MachineDeployment) (byo : AzureBYO.Arguments)
    (byoDeployments : List MachineDeployment) (aks : AKS.Arguments)
    (machinePools : List AKS.MachinePool) (triple : Triple) : Prop where
  localWorkers : List.Forall₂ (fun worker => Coherent worker.autoscalerBounds) workers deployments
  byoWorkers : List.Forall₂ (fun worker => Coherent worker.autoscalerBounds)
    (workersOf (AzureBYO.nodePoolsOf byo)) byoDeployments
  aksPools : List.Forall₂ (fun pool => PoolCoherent pool.autoscalingBounds)
    (AKS.nodePoolsOf aks) machinePools
  acceptance : SameAcceptance triple

structure PoolsInRange (workers : List Local.MachineDeploymentSpec) (byo : AzureBYO.Arguments)
    (aks : AKS.Arguments) (triple : Triple) : Prop where
  localWorkers : ∀ worker ∈ workers, InRange worker.autoscalerBounds worker.replicas.value
  byoWorkers : ∀ worker ∈ workersOf (AzureBYO.nodePoolsOf byo),
    InRange worker.autoscalerBounds worker.replicas.value
  aksPools : ∀ pool ∈ AKS.nodePoolsOf aks, pool.autoscalingBounds = none
  ordered : triple.bounds.1.value ≤ triple.bounds.2.value

theorem local_coherent_iff (instanceName : String) (workers : List Local.MachineDeploymentSpec)
    (deployments : List MachineDeployment)
    (accepted : Local.infrastructure instanceName workers = .ok deployments) :
    List.Forall₂ (fun worker => Coherent worker.autoscalerBounds) workers deployments ↔
      ∀ worker ∈ workers, InRange worker.autoscalerBounds worker.replicas.value := by
  obtain ⟨_, rfl⟩ := (local_ok_iff _ _ _).mp accepted
  rw [List.forall₂_map_right_iff, List.forall₂_same]
  exact forall₂_congr fun worker _ => deploymentOf_coherent_iff _ _ _ _ _

theorem byo_coherent_iff (arguments : AzureBYO.Arguments) (deployments : List MachineDeployment)
    (accepted : AzureBYO.workloadClusterClass arguments = .ok deployments) :
    List.Forall₂ (fun worker => Coherent worker.autoscalerBounds)
        (workersOf (AzureBYO.nodePoolsOf arguments)) deployments ↔
      ∀ worker ∈ workersOf (AzureBYO.nodePoolsOf arguments),
        InRange worker.autoscalerBounds worker.replicas.value := by
  obtain ⟨subnet, inner⟩ := byo_class_ok arguments deployments accepted
  obtain ⟨_, _, rfl⟩ := byo_infrastructure_ok _ _ _ _ inner
  rw [List.forall₂_map_right_iff, List.forall₂_same]
  exact forall₂_congr fun worker _ => deploymentOf_coherent_iff _ _ _ _ _

theorem aks_coherent_iff (arguments : AKS.Arguments) (pools : List AKS.MachinePool)
    (accepted : AKS.workloadClusterClass arguments = .ok pools) :
    List.Forall₂ (fun pool => PoolCoherent pool.autoscalingBounds)
        (AKS.nodePoolsOf arguments) pools ↔
      ∀ pool ∈ AKS.nodePoolsOf arguments, pool.autoscalingBounds = none := by
  obtain ⟨_, _, _, rfl⟩ := (AKSPoolNames.infrastructure_ok_iff _ _ _).mp
    (aks_class_ok arguments pools accepted)
  rw [List.forall₂_map_right_iff, List.forall₂_same]
  exact forall₂_congr fun pool _ => rendered_coherent_iff _ pool

/-- The metadata of a worker is coherent but for its replicas, which nothing
compares with the bounds, and for AKS, where Pulumi keeps resetting them. -/
theorem autoscaler_metadata_coherent_iff (instanceName : String)
    (workers : List Local.MachineDeploymentSpec) (deployments : List MachineDeployment)
    (byo : AzureBYO.Arguments) (byoDeployments : List MachineDeployment) (aks : AKS.Arguments)
    (machinePools : List AKS.MachinePool) (triple : Triple)
    (localAccepted : Local.infrastructure instanceName workers = .ok deployments)
    (byoAccepted : AzureBYO.workloadClusterClass byo = .ok byoDeployments)
    (aksAccepted : AKS.workloadClusterClass aks = .ok machinePools) :
    AllCoherent workers deployments byo byoDeployments aks machinePools triple ↔
      PoolsInRange workers byo aks triple := by
  have localPart := local_coherent_iff instanceName workers deployments localAccepted
  have byoPart := byo_coherent_iff byo byoDeployments byoAccepted
  have aksPart := aks_coherent_iff aks machinePools aksAccepted
  have acceptance : SameAcceptance triple ↔
      triple.bounds.1.value ≤ triple.bounds.2.value := by
    rw [SameAcceptance, byo_accepts_iff]
    simp [local_accepts, aks_accepts]
  constructor
  · rintro ⟨localWorkers, byoWorkers, aksPools, same⟩
    exact ⟨localPart.mp localWorkers, byoPart.mp byoWorkers, aksPart.mp aksPools,
      acceptance.mp same⟩
  · rintro ⟨localWorkers, byoWorkers, aksPools, ordered⟩
    exact ⟨localPart.mpr localWorkers, byoPart.mpr byoWorkers, aksPart.mpr aksPools,
      acceptance.mpr ordered⟩

theorem default_aks_class :
    AKS.workloadClusterClass (aksArguments none) =
      .ok ((AKS.nodePoolsOf (aksArguments none)).map (AKSPoolNames.rendered "team-a")) :=
  (aks_class_eq none).trans
    ((AKSPoolNames.infrastructure_ok_iff "team-a" (AKS.nodePoolsOf (aksArguments none)) _).mpr
      ⟨instance_label, by decide, by decide, rfl⟩)

def defaultTriple : Triple := ⟨(WorkloadConfig.one, ten), WorkloadConfig.one⟩

def fixedPool : AKS.NodePoolSpec :=
  { name := headName, nodeType := controllerNodeType, replicas := ten, controller := true }

/-- The default workers of Local, one to ten of Azure BYO and a fixed number on AKS. -/
theorem bounded_workers_coherent :
    ∃ deployments byoDeployments machinePools,
      Local.infrastructure "team-a" Local.machineDeployments = .ok deployments ∧
      AzureBYO.workloadClusterClass (byoArguments (some [controlPlanePool,
        computePool (some (WorkloadConfig.one, ten)) WorkloadConfig.one])) = .ok byoDeployments ∧
      AKS.workloadClusterClass (aksArguments (some [fixedPool])) = .ok machinePools ∧
      AllCoherent Local.machineDeployments deployments
        (byoArguments (some [controlPlanePool,
          computePool (some (WorkloadConfig.one, ten)) WorkloadConfig.one]))
        byoDeployments (aksArguments (some [fixedPool])) machinePools defaultTriple := by
  have compute : InRange (some (WorkloadConfig.one, ten)) WorkloadConfig.one.value := by
    rintro pair ⟨⟩
    decide
  have localAccepted := (local_ok_iff "team-a" Local.machineDeployments _).mpr ⟨instance_label, rfl⟩
  obtain ⟨byoDeployments, byoAccepted⟩ :=
    byo_accepts_pair (some (WorkloadConfig.one, ten)) WorkloadConfig.one
      (fun pair given => Option.some.inj given ▸ by decide)
  have aksAccepted := (aks_class_eq (some [fixedPool])).trans
    ((AKSPoolNames.infrastructure_ok_iff "team-a" [fixedPool] _).mpr
      ⟨instance_label, by decide, by decide, rfl⟩)
  refine ⟨_, byoDeployments, _, localAccepted, byoAccepted, aksAccepted,
    (autoscaler_metadata_coherent_iff "team-a" _ _ _ _ _ _ _ localAccepted byoAccepted
      aksAccepted).mpr ⟨?_, ?_, ?_, ?_⟩⟩
  · exact List.forall_mem_cons.mpr ⟨fun _ => nofun, List.forall_mem_singleton.mpr compute⟩
  · exact List.forall_mem_singleton.mpr compute
  · intro pool member
    rw [List.mem_singleton.mp member]
    rfl
  · decide

/-- The default AKS compute pool has bounds and replicas that Pulumi resets. -/
theorem default_aks_pools_reset :
    ∃ pools, AKS.workloadClusterClass (aksArguments none) = .ok pools ∧
      ¬List.Forall₂ (fun pool => PoolCoherent pool.autoscalingBounds)
        (AKS.nodePoolsOf (aksArguments none)) pools := by
  refine ⟨_, default_aks_class, ?_⟩
  rw [List.forall₂_map_right_iff, List.forall₂_same]
  intro coherent
  have bounds := (rendered_coherent_iff _ _).mp
    (coherent _ (List.mem_cons_of_mem _ (List.mem_singleton_self _)))
  cases bounds

end ClusterApiForSlinky.AutoscalerMetadata
