import ClusterApiForSlinky.Effect
import ClusterApiForSlinky.ResourceNames
import ClusterApiForSlinky.WorkloadConfig

/-!
The worker pools of the three workload-cluster classes: which pools a class is
given, what it refuses, and the names, replicas, labels, annotations and Pulumi
options it renders for each. Nothing else of the rendered objects is kept.
-/

namespace ClusterApiForSlinky.NodePools
open ResourceNames WorkloadConfig

def nodeTypeLabel : String := "slinky.slurm.net/node-type"
def controllerNodeType : NonEmptyStr := ⟨"controller", by decide⟩
def computeNodeType : NonEmptyStr := ⟨"compute", by decide⟩
def autoscalerMinAnnotationKey : String :=
  "cluster.x-k8s.io/cluster-api-autoscaler-node-group-min-size"
def autoscalerMaxAnnotationKey : String :=
  "cluster.x-k8s.io/cluster-api-autoscaler-node-group-max-size"
def clusterAutoscalerDiscoveryLabel : String := "ca4s.azure.com/autoscaler-enabled"
def deletionPropagationPolicyAnnotationKey : String := "pulumi.com/deletionPropagationPolicy"

/-- (min, max) -/
abbrev Bounds := StrictPositiveInt × StrictPositiveInt

/-- The keys of such a dict are written next to each other and differ. -/
abbrev Annotations := List (String × String)

def workerLabels (clusterName nodeType : String) : Annotations :=
  [("cluster.x-k8s.io/cluster-name", clusterName), (nodeTypeLabel, nodeType)]

def autoscalerDiscoveryLabels (enabled : Bool) : Annotations :=
  if enabled then [(clusterAutoscalerDiscoveryLabel, "true")] else []

def machineDeploymentLabels (clusterName nodeType : String) (autoscalerEnabled : Bool) :
    Annotations :=
  workerLabels clusterName nodeType ++ autoscalerDiscoveryLabels autoscalerEnabled

def backgroundDeleteAnnotations (annotations : Annotations) : Annotations :=
  annotations ++ [(deletionPropagationPolicyAnnotationKey, "Background")]

/-- The annotations both classes with MachineDeployments write for a pair of bounds. -/
def boundAnnotations (bounds : Bounds) : Annotations :=
  [(autoscalerMinAnnotationKey, toString bounds.1.value),
    (autoscalerMaxAnnotationKey, toString bounds.2.value)]

/-- `{"annotations": ..}` only where there is something to annotate. -/
def templateAnnotations (annotations : Annotations) : Option Annotations :=
  if annotations = [] then none else some annotations

def replicasIgnored (bounds : Option Bounds) : Option (List String) :=
  if bounds.isSome then some ["spec.replicas"] else none

def ten : StrictPositiveInt := ⟨10, by decide⟩

def headName : NonEmptyStr := ⟨"head", by decide⟩
def computeName : NonEmptyStr := ⟨"compute", by decide⟩
def controlPlaneName : NonEmptyStr := ⟨"control-plane", by decide⟩

/-- The parts of a rendered MachineDeployment and of its Pulumi options. -/
structure MachineDeployment where
  name : String
  replicas : Int
  labels : Annotations
  annotations : Annotations
  templateAnnotations : Option Annotations
  ignoreChanges : Option (List String)
  deriving DecidableEq, Repr

namespace Local

structure MachineDeploymentSpec where
  name : NonEmptyStr
  nodeType : NonEmptyStr
  replicas : StrictPositiveInt
  autoscalerBounds : Option Bounds := none
  deriving DecidableEq

def autoscalerAnnotations : Option Bounds → Annotations
  | none => []
  | some bounds => boundAnnotations bounds

/-- `WorkerClass.__init__` -/
def workerClass (instanceName clusterName : String) (worker : MachineDeploymentSpec) :
    Except String MachineDeployment := do
  let _ ← Local.resourceName instanceName (worker.name.text ++ "-machine")
  let _ ← Local.resourceName instanceName (worker.name.text ++ "-bootstrap")
  let machineDeploymentName ← Local.resourceName instanceName worker.name.text
  let annotations := autoscalerAnnotations worker.autoscalerBounds
  let _ ← Local.resourceName instanceName (worker.name.text ++ "-health")
  return { name := machineDeploymentName
           replicas := worker.replicas.value
           labels := machineDeploymentLabels clusterName worker.nodeType.text
             worker.autoscalerBounds.isSome
           annotations := backgroundDeleteAnnotations annotations
           templateAnnotations := templateAnnotations annotations
           ignoreChanges := replicasIgnored worker.autoscalerBounds }

/-- `LocalWorkloadClusterInfrastructure.__init__`, as far as the workers go. -/
def infrastructure (instanceName : String) (workers : List MachineDeploymentSpec) :
    Except String (List MachineDeployment) := do
  let clusterName ← Local.resourceName instanceName "workload"
  let _ ← Local.resourceName instanceName "control-plane"
  let _ ← Local.resourceName instanceName "control-plane-health"
  workers.mapM (workerClass instanceName clusterName)

/-- `_LOCAL_MACHINE_DEPLOYMENTS` -/
def machineDeployments : List MachineDeploymentSpec :=
  [{ name := headName, nodeType := controllerNodeType, replicas := one },
    { name := computeName, nodeType := computeNodeType, replicas := one,
      autoscalerBounds := some (one, ten) }]

end Local

namespace AzureBYO

/-- vm_size and failure_domain reach neither a name nor a worker's replicas. -/
structure NodePoolSpec where
  name : NonEmptyStr
  nodeType : NonEmptyStr
  replicas : StrictPositiveInt
  kubernetesControlPlane : Bool := false
  attachToFlex : Bool := false
  autoscalerBounds : Option Bounds := none
  deriving DecidableEq

def autoscalerAnnotations : Option Bounds → Except String Annotations
  | none => .ok []
  | some bounds =>
      if bounds.2.value < bounds.1.value then
        .error "autoscaler minimum replicas must not exceed maximum"
      else .ok (boundAnnotations bounds)

def partitionNodePools (nodePools : List NodePoolSpec) :
    Except String (NodePoolSpec × List NodePoolSpec) :=
  let workers := nodePools.filter (fun node => !node.kubernetesControlPlane)
  match nodePools.filter (fun node => node.kubernetesControlPlane) with
  | [controlPlane] =>
      if workers = [] then .error "azure-byo requires at least one worker node spec"
      else .ok (controlPlane, workers)
  | _ => .error "azure-byo requires exactly one Kubernetes control-plane node spec"

def validateNodePoolNames (instanceName : String) (nodePools : List NodePoolSpec) :
    Except String Unit :=
  if ¬(nodePools.map (fun node => node.name.text)).Nodup then
    .error "azure-byo node pool names must be unique"
  else do
    let resourceNames ← nodePools.mapM
      (fun node => AzureBYO.resourceName instanceName node.name.text)
    if ¬resourceNames.Nodup then
      .error "azure-byo node pool names must remain unique after normalization"
    else .ok ()

/-- One turn of the worker loop. -/
def workerDeployment (instanceName clusterName : String) (worker : NodePoolSpec) :
    Except String MachineDeployment := do
  let workerName ← AzureBYO.resourceName instanceName worker.name.text
  let annotations ← autoscalerAnnotations worker.autoscalerBounds
  return { name := workerName
           replicas := worker.replicas.value
           labels := machineDeploymentLabels clusterName worker.nodeType.text
             worker.autoscalerBounds.isSome
           annotations := backgroundDeleteAnnotations annotations
           templateAnnotations := templateAnnotations annotations
           ignoreChanges := replicasIgnored worker.autoscalerBounds }

/-- `AzureBYOWorkloadClusterInfrastructure.__init__`, as far as the workers go. -/
def infrastructure (instanceName : String) (nodePools : List NodePoolSpec)
    (byoSubnet : Option String) : Except String (List MachineDeployment) := do
  let (controllerNode, workerNodes) ← partitionNodePools nodePools
  validateNodePoolNames instanceName nodePools
  if byoSubnet = none then
    .error "azure-byo requires an explicit or auto-discovered VNet/subnet"
  else
    let clusterName ← AzureBYO.clusterName instanceName
    let _ ← AzureBYO.resourceName instanceName controllerNode.name.text
    workerNodes.mapM (workerDeployment instanceName clusterName)

def defaultNodePools (parameters : AzureBYOWorkloadSpec) : List NodePoolSpec :=
  [{ name := controlPlaneName, nodeType := controlPlaneName, replicas := one,
     kubernetesControlPlane := true },
    { name := headName, nodeType := controllerNodeType, replicas := one },
    { name := computeName, nodeType := computeNodeType,
      replicas := parameters.workerReplicas, attachToFlex := true,
      autoscalerBounds := some (one, ten) }]

/-- The arguments of the class. `subnet` and `placement` are what
`_resolve_byo_subnet` and `_resolve_resource_group` settle on. -/
structure Arguments where
  instanceName : String
  config : AzureBYOWorkloadClusterConfig
  identityName : Option String
  identityNamespace : Option String
  azureClientId : Option String
  azureTenantId : Option String
  azureIdentityResourceId : Option String
  subnet : Except String (Option String)
  placement : Except String (Option String)
  nodePools : Option (List NodePoolSpec)

/-- `node_pools or _default_node_pools(parameters)`: an empty tuple is falsy. -/
def nodePoolsOf (arguments : Arguments) : List NodePoolSpec :=
  match arguments.nodePools with
  | some (first :: rest) => first :: rest
  | _ => defaultNodePools arguments.config.parameters

def require (what : String) (value : Option String) : Except String Unit :=
  if value = none then .error ("azure-byo workload class requires " ++ what) else .ok ()

/-- `AzureBYOWorkloadClusterClass.__init__` -/
def workloadClusterClass (arguments : Arguments) : Except String (List MachineDeployment) := do
  require "azure_client_id" arguments.azureClientId
  require "azure_tenant_id" arguments.azureTenantId
  require "identity_name" arguments.identityName
  require "identity_namespace" arguments.identityNamespace
  require "an auto-discovered UAMI resource ID" arguments.azureIdentityResourceId
  let byoSubnet ← arguments.subnet
  let _ ← arguments.placement
  infrastructure arguments.instanceName (nodePoolsOf arguments) byoSubnet

end AzureBYO

namespace AKS

def aksPoolNameMaxLength : Nat := 12

structure NodePoolSpec where
  name : NonEmptyStr
  nodeType : NonEmptyStr
  replicas : StrictPositiveInt
  controller : Bool := false
  autoscalingBounds : Option Bounds := none
  deriving DecidableEq

/-- The parts of an AzureManagedMachinePool, and of the MachinePool that goes
with it under the same name. -/
structure MachinePool where
  name : String
  aksPoolName : String
  mode : String
  nodeLabels : Annotations
  scaling : Option (Int × Int)
  replicas : Int
  ignoreChanges : Option (List String)
  deriving DecidableEq, Repr

/-- `re.sub(r"[^a-z0-9]", "", name.lower())` -/
def poolLetters (name : String) : List Char := (lower name).filter isLabelChar

def aksPoolName (pool : NodePoolSpec) : Except String String :=
  let normalized := poolLetters pool.name.text
  if normalized = [] then .error "AKS worker pool name must contain at least one alphanumeric"
  else
    let whole := if pool.controller then "sys".toList ++ normalized else normalized
    .ok (String.ofList (whole.take aksPoolNameMaxLength))

/-- One turn of the pool loop; neither resource is given `ignore_changes`. -/
def machinePool (entry : NodePoolSpec × String) : Except String MachinePool := do
  let (pool, crPoolName) := entry
  let poolName ← aksPoolName pool
  return { name := crPoolName
           aksPoolName := poolName
           mode := if pool.controller then "System" else "User"
           nodeLabels := [(nodeTypeLabel, pool.nodeType.text)]
           scaling := pool.autoscalingBounds.map (fun bounds => (bounds.1.value, bounds.2.value))
           replicas := pool.replicas.value
           ignoreChanges := none }

/-- `AKSWorkloadClusterInfrastructure.__init__`, as far as the pools go. -/
def infrastructure (instanceName : String) (nodePools : List NodePoolSpec) :
    Except String (List MachinePool) := do
  let _ ← AKS.resourceName instanceName none
  let crNames ← nodePools.mapM
    (fun pool => AKS.resourceName instanceName (some pool.name.text))
  let pools ← (nodePools.zip crNames).mapM machinePool
  -- machine_pool_names[0]
  if pools = [] then .error "list index out of range" else .ok pools

def defaultNodePools (nodeCount : StrictPositiveInt) : List NodePoolSpec :=
  [{ name := headName, nodeType := controllerNodeType, replicas := nodeCount,
     controller := true },
    { name := computeName, nodeType := computeNodeType, replicas := one,
      autoscalingBounds := some (one, ten) }]

/-- `resourceGroup` is what `_resolve_resource_group` settles on. -/
structure Arguments where
  instanceName : String
  config : AKSWorkloadClusterConfig
  identityName : Option String
  identityNamespace : Option String
  resourceGroup : Except String (Option String)
  nodePools : Option (List NodePoolSpec)

def nodePoolsOf (arguments : Arguments) : List NodePoolSpec :=
  match arguments.nodePools with
  | some (first :: rest) => first :: rest
  | _ => defaultNodePools arguments.config.parameters.aks.nodeCount

/-- `AKSWorkloadClusterClass.__init__` -/
def workloadClusterClass (arguments : Arguments) : Except String (List MachinePool) := do
  if arguments.identityName = none then
    .error "aks workload cluster class requires identity_name"
  else if arguments.identityNamespace = none then
    .error "aks workload cluster class requires identity_namespace"
  else
    let resourceGroup ← arguments.resourceGroup
    if resourceGroup = none then .error "AKS resource group must be resolved by the outer stack"
    else infrastructure arguments.instanceName (nodePoolsOf arguments)

end AKS

end ClusterApiForSlinky.NodePools
