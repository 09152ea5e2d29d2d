import ClusterApiForSlinky.NodePools
import ClusterApiForSlinky.ResourceUrns

/-!
The resources that `Tenants` (tenants.py) registers for the workload clusters of
one stack, in a run in which nothing raises. A rendered manifest or chart
registers more of its own below the resource that is named here.
-/

namespace ClusterApiForSlinky.TenantUrns
open ModelCodec NodePools ResourceUrns WorkloadConfig
open TenantObjects (ClusterClass DnsLabel)

def kubernetes (apiVersion kind name : String) : Urn :=
  resource ("kubernetes:" ++ apiVersion ++ ":" ++ kind) name

def customResourcePatch (apiVersion kind name : String) : Urn :=
  kubernetes apiVersion (kind ++ "Patch") name

def release (name : String) : Urn := kubernetes "helm.sh/v3" "Release" name

def providerResource (package name : String) : Urn := resource ("pulumi:providers:" ++ package) name

/-! Addons. -/

def localPathStorage (name : String) : List Urn :=
  component "ca4s:workload:LocalPathStorage" name
    [kubernetes "core/v1" "Namespace" "local-path-storage-namespace",
      kubernetes "core/v1" "ServiceAccount" "local-path-service-account",
      kubernetes "rbac.authorization.k8s.io/v1" "Role" "local-path-role",
      kubernetes "rbac.authorization.k8s.io/v1" "ClusterRole" "local-path-cluster-role",
      kubernetes "rbac.authorization.k8s.io/v1" "RoleBinding" "local-path-role-binding",
      kubernetes "rbac.authorization.k8s.io/v1" "ClusterRoleBinding"
        "local-path-cluster-role-binding",
      kubernetes "core/v1" "ConfigMap" "local-path-config",
      kubernetes "storage.k8s.io/v1" "StorageClass" "local-path-storage-class",
      kubernetes "apps/v1" "Deployment" "local-path-deployment"]

def calicoCNI (name : String) : List Urn :=
  component "ca4s:workload:CalicoCNI" name [kubernetes "yaml" "ConfigGroup" "calico-manifests"]

def azureCloudProvider (name : String) : List Urn :=
  component "ca4s:workload:AzureCloudProvider" name [release "release"]

def clusterAPIAutoscaler (name : String) : List Urn :=
  component "ca4s:workload:ClusterAPIAutoscaler" name
    [kubernetes "core/v1" "Namespace" "namespace",
      kubernetes "core/v1" "Secret" "workload-kubeconfig",
      kubernetes "rbac.authorization.k8s.io/v1" "ClusterRole" "infrastructure-cluster-role",
      kubernetes "rbac.authorization.k8s.io/v1" "ClusterRoleBinding"
        "infrastructure-cluster-role-binding",
      release "release"]

/-! `WorkloadClusterDeployments` -/

def kedaNodeSetScaler (name : String) (nodeSets : List String) : List Urn :=
  component "ca4s:workload:KEDANodeSetScaler" name
    ([kubernetes "core/v1" "Namespace" "namespace", release "release"] ++
      nodeSets.map (fun nodeSet =>
        kubernetes "keda.sh/v1alpha1" "ScaledObject" (nodeSet ++ "-scaled-object")))

/-- A chart from a registry without TLS is a v4 `Chart`, any other a v3 `Release`. -/
def slinkyChart (chartPlainHttp : Bool) (name : String) : Urn :=
  if chartPlainHttp then kubernetes "helm.sh/v4" "Chart" name else release name

def workloadClusterDeployments (name : String) (chartPlainHttp : Bool)
    (kedaScaledNodeSets : List String) (pinCorednsToController : Bool) : List Urn :=
  component "ca4s:workload:WorkloadClusterDeployments" name
    ((if pinCorednsToController then
        [kubernetes "apps/v1" "DeploymentPatch" "coredns-controller-placement"] else []) ++
      [kubernetes "core/v1" "Namespace" "workload-cert-manager-namespace",
        release "workload-cert-manager",
        kubernetes "core/v1" "Namespace" "prometheus-namespace",
        release "prometheus",
        kubernetes "core/v1" "Namespace" "slinky-operator-namespace",
        kubernetes "core/v1" "Namespace" "slurm-namespace",
        kubernetes "core/v1" "Namespace" "slurm-bridge-namespace",
        slinkyChart chartPlainHttp "slurm-operator-crds",
        slinkyChart chartPlainHttp "slurm-operator",
        slinkyChart chartPlainHttp "slurm",
        kubernetes "slinky.slurm.net/v1beta1" "Token" "slurm-bridge-token",
        release "slurm-bridge"] ++
      if kedaScaledNodeSets = [] then []
      else kedaNodeSetScaler "keda-nodeset-scaler" kedaScaledNodeSets)

/-- Each class scales one NodeSet by default. -/
def defaultKedaScaledNodeSets : List String := [computeName.text]

namespace Local

def capi : String := "cluster.x-k8s.io/v1beta2"
def bootstrap : String := "bootstrap.cluster.x-k8s.io/v1beta2"
def controlPlane : String := "controlplane.cluster.x-k8s.io/v1beta2"
def infrastructureApi : String := "infrastructure.cluster.x-k8s.io/v1beta2"

def workerClass (worker : NodePools.Local.MachineDeploymentSpec) : List Urn :=
  let name := "cluster-" ++ worker.name.text
  component "ca4s:workload:WorkerClass" name
    [kubernetes infrastructureApi "DockerMachineTemplate" (name ++ "-machine-template"),
      kubernetes bootstrap "KubeadmConfigTemplate" (name ++ "-bootstrap-template"),
      kubernetes capi "MachineDeployment" (name ++ "-machine-deployment"),
      kubernetes capi "MachineHealthCheck" (name ++ "-health-check")]

def infrastructure (name : String) (workers : List NodePools.Local.MachineDeploymentSpec) :
    List Urn :=
  component "ca4s:workload:LocalWorkloadClusterInfrastructure" name
    (component "ca4s:workload:ManagementKubeconfig" "management-kubeconfig" [] ++
      [providerResource "kubernetes" "management-k8s",
        kubernetes infrastructureApi "DockerMachineTemplate"
          "cluster-control-plane-machine-template",
        kubernetes capi "Cluster" "cluster",
        kubernetes infrastructureApi "DockerCluster" "cluster-docker-cluster",
        kubernetes controlPlane "KubeadmControlPlane" "cluster-control-plane",
        customResourcePatch capi "Cluster" "cluster-control-plane-available",
        kubernetes capi "MachineHealthCheck" "cluster-control-plane-health-check"] ++
      workers.flatMap workerClass ++
      [kubernetes "core/v1" "Secret" "workload-kubeconfig-secret",
        providerResource "kubernetes" "workload-k8s"] ++
      calicoCNI "calico-cni" ++
      localPathStorage "local-path-storage" ++
      if workers.any (fun worker => worker.autoscalerBounds.isSome) then
        clusterAPIAutoscaler "cluster-autoscaler" else [])

def children (config : LocalWorkloadClusterConfig) : List Urn :=
  infrastructure "infrastructure" NodePools.Local.machineDeployments ++
    workloadClusterDeployments "deployments" config.slinky.chartPlainHttp defaultKedaScaledNodeSets true

end Local

namespace AKS

def capi : String := "cluster.x-k8s.io/v1beta1"
def infrastructureApi : String := "infrastructure.cluster.x-k8s.io/v1beta1"

def infrastructure (name : String) (pools : List NodePools.AKS.NodePoolSpec) : List Urn :=
  component "ca4s:workload:AKSWorkloadClusterInfrastructure" name
    ([kubernetes capi "Cluster" (name ++ "-cluster"),
        kubernetes infrastructureApi "AzureManagedCluster" (name ++ "-managed-cluster"),
        kubernetes infrastructureApi "AzureManagedControlPlane" (name ++ "-control-plane")] ++
      pools.flatMap (fun pool =>
        [kubernetes infrastructureApi "AzureManagedMachinePool"
            (name ++ "-" ++ pool.name.text ++ "-managed-machine-pool"),
          kubernetes capi "MachinePool" (name ++ "-" ++ pool.name.text ++ "-machine-pool")]) ++
      [customResourcePatch infrastructureApi "AzureManagedControlPlane"
          (name ++ "-control-plane-ready"),
        kubernetes "core/v1" "Secret" "workload-kubeconfig-secret",
        providerResource "kubernetes" "workload-k8s"])

def children (config : AKSWorkloadClusterConfig) : List Urn :=
  infrastructure "infrastructure"
      (NodePools.AKS.defaultNodePools config.parameters.aks.nodeCount) ++
    workloadClusterDeployments "deployments" config.slinky.chartPlainHttp defaultKedaScaledNodeSets false

end AKS

namespace AzureBYO

def capi : String := "cluster.x-k8s.io/v1beta1"
def bootstrap : String := "bootstrap.cluster.x-k8s.io/v1beta1"
def controlPlane : String := "controlplane.cluster.x-k8s.io/v1beta1"
def controlPlaneReady : String := "controlplane.cluster.x-k8s.io/v1beta2"
def infrastructureApi : String := "infrastructure.cluster.x-k8s.io/v1beta1"

/-- One turn of the worker loop. -/
def worker (name : String) : List Urn :=
  [kubernetes infrastructureApi "AzureMachineTemplate" (name ++ "-machine-template"),
    kubernetes bootstrap "KubeadmConfigTemplate" (name ++ "-bootstrap-template"),
    kubernetes capi "MachineDeployment" (name ++ "-machine-deployment")]

/-- A resource group is registered where none was discovered. -/
def infrastructure (name : String) (discoveredGroup : Bool)
    (workers : List NodePools.AzureBYO.NodePoolSpec) : List Urn :=
  component "ca4s:workload:AzureBYOWorkloadClusterInfrastructure" name
    ([providerResource "azure-native" "azure-native"] ++
      (if discoveredGroup then []
        else [resource "azure-native:resources:ResourceGroup" "resource-group"]) ++
      [resource "azure-native:compute:VirtualMachineScaleSet" "vmss-flex",
        kubernetes capi "Cluster" "cluster",
        kubernetes infrastructureApi "AzureCluster" "azure-cluster",
        customResourcePatch infrastructureApi "AzureCluster" "azure-cluster-ready",
        kubernetes infrastructureApi "AzureMachineTemplate" "control-plane-machine-template",
        kubernetes controlPlane "KubeadmControlPlane" "control-plane",
        customResourcePatch controlPlaneReady "KubeadmControlPlane" "control-plane-ready"] ++
      workers.flatMap (fun pool => worker pool.name.text) ++
      [kubernetes "core/v1" "Secret" "workload-kubeconfig-secret",
        providerResource "kubernetes" "workload-k8s"] ++
      azureCloudProvider "azure-cloud-provider" ++
      calicoCNI "calico-vxlan" ++
      localPathStorage "local-path-storage" ++
      (if workers.any (fun pool => pool.autoscalerBounds.isSome) then
        clusterAPIAutoscaler "cluster-autoscaler" else []) ++
      [customResourcePatch capi "Cluster" "cluster-control-plane-available"] ++
      workers.map (fun pool => customResourcePatch capi "MachineDeployment"
        (pool.name.text ++ "-machine-deployment-available")))

def workersOf (parameters : AzureBYOWorkloadSpec) : List NodePools.AzureBYO.NodePoolSpec :=
  (NodePools.AzureBYO.defaultNodePools parameters).filter
    (fun pool => !pool.kubernetesControlPlane)

def children (config : AzureBYOWorkloadClusterConfig) : List Urn :=
  infrastructure "infrastructure" config.parameters.useDiscoveredResourceGroup
      (workersOf config.parameters) ++
    workloadClusterDeployments "deployments" config.slinky.chartPlainHttp defaultKedaScaledNodeSets true

end AzureBYO

/-! `Tenants` -/

def classOf : WorkloadClusterConfig → ClusterClass
  | .azureBYO _ => .azureBYO
  | .aks _ => .aks
  | .localClass _ => .localClass

def classType : ClusterClass → String
  | .azureBYO => "ca4s:workload:AzureBYOWorkloadClusterClass"
  | .aks => "ca4s:workload:AKSWorkloadClusterClass"
  | .localClass => "ca4s:workload:LocalWorkloadClusterClass"

def classChildren : WorkloadClusterConfig → List Urn
  | .azureBYO config => AzureBYO.children config
  | .aks config => AKS.children config
  | .localClass config => Local.children config

def instantiateWorkloadCluster (entry : DnsLabel × WorkloadClusterConfig) : List Urn :=
  component (classType (classOf entry.2)) (entry.1.text ++ "-workload-cluster") (classChildren entry.2)

/-- `sorted(..)` over the items; the names differ, so only they are compared. -/
def sortedItems (spec : TenantsConfig) : List (DnsLabel × WorkloadClusterConfig) :=
  spec.workloadClusters.entries.mergeSort (fun first second => first.1.text ≤ second.1.text)

def tenants (name : String) (spec : TenantsConfig) : List Urn :=
  component "ca4s:workload:Tenants" name ((sortedItems spec).flatMap instantiateWorkloadCluster)

/-! Within one cluster every name is its own. -/

theorem deployments_nodup (chartPlainHttp pinned : Bool) :
    (workloadClusterDeployments "deployments" chartPlainHttp defaultKedaScaledNodeSets
      pinned).Nodup := by
  revert chartPlainHttp pinned
  decide

theorem local_infrastructure_nodup :
    (Local.infrastructure "infrastructure" NodePools.Local.machineDeployments).Nodup := by
  decide

theorem aks_infrastructure_nodup (nodeCount : StrictPositiveInt) :
    (AKS.infrastructure "infrastructure" (NodePools.AKS.defaultNodePools nodeCount)).Nodup := by
  -- the sizes of the pools are in no name
  have sized : AKS.infrastructure "infrastructure" (NodePools.AKS.defaultNodePools nodeCount) =
      AKS.infrastructure "infrastructure" (NodePools.AKS.defaultNodePools one) := rfl
  rw [sized]
  decide

theorem byo_infrastructure_nodup (discoveredGroup : Bool) (parameters : AzureBYOWorkloadSpec) :
    (AzureBYO.infrastructure "infrastructure" discoveredGroup
      (AzureBYO.workersOf parameters)).Nodup := by
  have sized : AzureBYO.infrastructure "infrastructure" discoveredGroup
      (AzureBYO.workersOf parameters) = AzureBYO.infrastructure "infrastructure" discoveredGroup
        [{ name := headName, nodeType := controllerNodeType, replicas := one },
          { name := computeName, nodeType := computeNodeType, replicas := one
            attachToFlex := true, autoscalerBounds := some (one, ten) }] := rfl
  rw [sized]
  clear sized
  revert discoveredGroup
  decide

theorem classChildren_nodup (cluster : WorkloadClusterConfig) : (classChildren cluster).Nodup := by
  cases cluster with
  | azureBYO config =>
      apply (nodup_component_append _ _ _ _ _ _ (by decide)).mpr
      exact ⟨(nodup_component _ _ _).mp (byo_infrastructure_nodup _ config.parameters),
        (nodup_component _ _ _).mp (deployments_nodup config.slinky.chartPlainHttp true)⟩
  | aks config =>
      apply (nodup_component_append _ _ _ _ _ _ (by decide)).mpr
      exact ⟨(nodup_component _ _ _).mp (aks_infrastructure_nodup config.parameters.aks.nodeCount),
        (nodup_component _ _ _).mp (deployments_nodup config.slinky.chartPlainHttp false)⟩
  | localClass config =>
      apply (nodup_component_append _ _ _ _ _ _ (by decide)).mpr
      exact ⟨(nodup_component _ _ _).mp local_infrastructure_nodup,
        (nodup_component _ _ _).mp (deployments_nodup config.slinky.chartPlainHttp true)⟩

/-- The infrastructure of a cluster is registered under its class alone. -/
def infrastructureType : ClusterClass → String
  | .azureBYO => "ca4s:workload:AzureBYOWorkloadClusterInfrastructure"
  | .aks => "ca4s:workload:AKSWorkloadClusterInfrastructure"
  | .localClass => "ca4s:workload:LocalWorkloadClusterInfrastructure"

theorem infrastructure_mem (cluster : WorkloadClusterConfig) :
    resource (infrastructureType (classOf cluster)) "infrastructure" ∈ classChildren cluster := by
  cases cluster <;> exact List.mem_append_left _ List.mem_cons_self

theorem classes_meet (first second : WorkloadClusterConfig)
    (same : classOf first = classOf second) :
    ¬List.Disjoint (classChildren first) (classChildren second) := by
  intro apart
  apply apart (infrastructure_mem first)
  rw [same]
  exact infrastructure_mem second

theorem classType_inj (first second : ClusterClass) :
    classType first = classType second ↔ first = second := by
  cases first <;> cases second <;> decide

/-- `Tenants` registers each of its resources under a URN of its own exactly when
no two instances are of one class: below the class no name holds the instance. -/
theorem tenant_urns_distinct_iff (name : String) (spec : TenantsConfig) :
    (tenants name spec).Nodup ↔
      (spec.workloadClusters.entries.map (fun entry => classOf entry.2)).Nodup := by
  have sorted := List.mergeSort_perm spec.workloadClusters.entries
    (fun first second => first.1.text ≤ second.1.text)
  have classes : (sortedItems spec).Pairwise
      (fun first second => classOf first.2 ≠ classOf second.2) ↔
      (spec.workloadClusters.entries.map (fun entry => classOf entry.2)).Nodup := by
    rw [List.Nodup, List.pairwise_map]
    exact sorted.pairwise_iff (fun {first second} apart => Ne.symm apart)
  have split := nodup_components (fun entry => classType (classOf entry.2))
    (fun entry => entry.1.text ++ "-workload-cluster") (fun entry => classChildren entry.2)
    (sortedItems spec)
  rw [tenants, nodup_component, ← classes]
  apply split.trans
  constructor
  · rintro ⟨_, apart⟩
    apply apart.imp
    intro first second disjoint same
    have types := (classType_inj _ _).mpr same
    exact classes_meet first.2 second.2 same (disjoint types).2
  · intro apart
    constructor
    · exact fun entry _ => classChildren_nodup entry.2
    · apply apart.imp
      intro first second differ types
      exact absurd ((classType_inj _ _).mp types) differ

end ClusterApiForSlinky.TenantUrns
