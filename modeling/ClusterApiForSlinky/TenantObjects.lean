import ClusterApiForSlinky.ResourceNames

/-!
The objects each workload-cluster class renders into the management cluster: the
ones of the default namespace and those of cluster scope, with the name helper
and the suffix used at each site for the class's default pools.
-/

namespace ClusterApiForSlinky.TenantObjects
open ResourceNames

inductive ClusterClass where
  | localClass
  | aks
  | azureBYO
  deriving DecidableEq, Repr

inductive Kind where
  | Cluster
  | DockerCluster
  | AzureManagedCluster
  | AzureManagedControlPlane
  | AzureCluster
  | KubeadmControlPlane
  | DockerMachineTemplate
  | AzureMachineTemplate
  | KubeadmConfigTemplate
  | MachineDeployment
  | MachinePool
  | AzureManagedMachinePool
  | MachineHealthCheck
  | Secret
  | Namespace
  | ClusterRole
  | ClusterRoleBinding
  deriving DecidableEq, Repr

/-- How a site derives its name. -/
inductive Site where
  | cluster
  | kubeconfig
  | suffixed (suffix : String)
  | autoscaler (suffix : String)
  deriving DecidableEq, Repr

def clusterName : ClusterClass → String → Except String String
  | .localClass, instanceName => Local.resourceName instanceName "workload"
  | .aks, instanceName => AKS.resourceName instanceName none
  | .azureBYO, instanceName => AzureBYO.clusterName instanceName

def resourceName : ClusterClass → String → String → Except String String
  | .localClass, instanceName, suffix => Local.resourceName instanceName suffix
  | .aks, instanceName, suffix => AKS.resourceName instanceName (some suffix)
  | .azureBYO, instanceName, suffix => AzureBYO.resourceName instanceName suffix

def siteName (cls : ClusterClass) (instanceName : String) : Site → Except String String
  | .cluster => clusterName cls instanceName
  | .kubeconfig => (clusterName cls instanceName).map (fun name => name ++ "-kubeconfig")
  | .suffixed suffix => resourceName cls instanceName suffix
  | .autoscaler suffix => Autoscaler.resourceName instanceName suffix

/-- Sites shared by the two classes whose workers the cluster autoscaler scales. -/
def autoscalerSites : List (Kind × Site) :=
  [(.Namespace, .autoscaler "autoscaler"),
    (.ClusterRole, .autoscaler "autoscaler-infra"),
    (.ClusterRoleBinding, .autoscaler "autoscaler-infra")]

def localWorkerSites (worker : String) : List (Kind × Site) :=
  [(.DockerMachineTemplate, .suffixed (worker ++ "-machine")),
    (.KubeadmConfigTemplate, .suffixed (worker ++ "-bootstrap")),
    (.MachineDeployment, .suffixed worker),
    (.MachineHealthCheck, .suffixed (worker ++ "-health"))]

def localSites : List (Kind × Site) :=
  [(.Cluster, .cluster), (.DockerCluster, .cluster), (.Secret, .kubeconfig),
    (.KubeadmControlPlane, .suffixed "control-plane"),
    (.DockerMachineTemplate, .suffixed "control-plane"),
    (.MachineHealthCheck, .suffixed "control-plane-health")] ++
  localWorkerSites "head" ++ localWorkerSites "compute" ++ autoscalerSites

def aksPoolSites (pool : String) : List (Kind × Site) :=
  [(.AzureManagedMachinePool, .suffixed pool), (.MachinePool, .suffixed pool)]

def aksSites : List (Kind × Site) :=
  [(.Cluster, .cluster), (.AzureManagedCluster, .cluster), (.AzureManagedControlPlane, .cluster),
    (.Secret, .kubeconfig)] ++ aksPoolSites "head" ++ aksPoolSites "compute"

def byoWorkerSites (worker : String) : List (Kind × Site) :=
  [(.AzureMachineTemplate, .suffixed worker), (.KubeadmConfigTemplate, .suffixed worker),
    (.MachineDeployment, .suffixed worker)]

def byoSites : List (Kind × Site) :=
  [(.Cluster, .cluster), (.AzureCluster, .cluster), (.Secret, .kubeconfig),
    (.KubeadmControlPlane, .suffixed "control-plane"),
    (.AzureMachineTemplate, .suffixed "control-plane")] ++
  byoWorkerSites "head" ++ byoWorkerSites "compute" ++ autoscalerSites

def sites : ClusterClass → List (Kind × Site)
  | .localClass => localSites
  | .aks => aksSites
  | .azureBYO => byoSites

def isDnsLabelChar (char : Char) : Bool := isLabelChar char || isDash char

/-- `^[a-z0-9]([-a-z0-9]*[a-z0-9])?$` with at most 63 characters -/
def isDnsLabel (text : String) : Bool :=
  text.toList.length ≤ dnsLabelMaxLength && text.toList.all isDnsLabelChar &&
    text.toList.head?.any isLabelChar && text.toList.getLast?.any isLabelChar

structure DnsLabel where
  text : String
  valid : isDnsLabel text = true
  deriving DecidableEq, Repr

structure Tenant where
  instanceName : DnsLabel
  cls : ClusterClass
  deriving DecidableEq, Repr

/-- The mapping from instance names to workload clusters. -/
structure TenantsConfig where
  workloadClusters : List Tenant
  distinct : (workloadClusters.map Tenant.instanceName).Nodup

/-- The names a workload cluster renders, with their kinds. -/
def Renders (tenant : Tenant) (kind : Kind) (name : String) : Prop :=
  ∃ site, (kind, site) ∈ sites tenant.cls ∧
    siteName tenant.cls tenant.instanceName.text site = .ok name

end ClusterApiForSlinky.TenantObjects
