import ClusterApiForSlinky.ConfigModel

/-!
What localenv/_azure.py discovers on the host where a configuration is read.
-/

namespace ClusterApiForSlinky.LocalEnv

/-- The three texts come from IMDS, which must report each of them. -/
structure AzureResourcePlacement where
  subscriptionId : NonEmptyStr
  location : NonEmptyStr
  resourceGroup : NonEmptyStr
  deriving DecidableEq

inductive AzureIdentityType where
  | userAssignedMSI
  | workloadIdentity
  deriving DecidableEq

def AzureIdentityType.text : AzureIdentityType → String
  | .userAssignedMSI => "UserAssignedMSI"
  | .workloadIdentity => "WorkloadIdentity"

def azureAmbientIdentityTypes : List AzureIdentityType := [.userAssignedMSI, .workloadIdentity]

structure AzureDiscoveredCredential where
  type : AzureIdentityType
  clientId : String
  tenantId : String
  resourceId : Option String
  deriving DecidableEq

/-- Discovery is cached, so one process always finds the same. The credentials
are what their tokens claim; a managed identity may be asked for by client id. -/
structure Environment where
  placement : Option AzureResourcePlacement
  managedIdentity : Option UUID → Option AzureDiscoveredCredential
  workloadIdentity : Option AzureDiscoveredCredential

def matchesClient (clientId : Option UUID) (credential : AzureDiscoveredCredential) : Bool :=
  clientId.all (fun wanted => credential.clientId = wanted.text)

/-- `discover_azure_credentials`; callers that raise on missing ones take the head. -/
def discoverAzureCredentials (env : Environment) (types : List AzureIdentityType)
    (clientId : Option UUID) : List AzureDiscoveredCredential :=
  (if .userAssignedMSI ∈ types then
    ((env.managedIdentity clientId).filter (matchesClient clientId)).toList else []) ++
  (if .workloadIdentity ∈ types then
    (env.workloadIdentity.filter (matchesClient clientId)).toList else [])

end ClusterApiForSlinky.LocalEnv
