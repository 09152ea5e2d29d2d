import ClusterApiForSlinky.ConfigCopies
import ClusterApiForSlinky.StackBuilds
import ClusterApiForSlinky.StackOverrides

/-!
The five functions of the outer stack (stack.py) that override its configuration.
Each rebuilds the records above what it changes with `model_copy`, so the result
is an unvalidated copy.
-/

namespace ClusterApiForSlinky.StackMerges
open ModelCodec WorkloadConfig RegistrySetting ConfigHandoff ConfigCopies StackBuilds
open TenantObjects (DnsLabel)
open StackOverrides (optionalImageConfig slinkyImageConfig localCustomRegistrySetting)

inductive Failure where
  | override (failure : StackOverrides.Failure)
  /-- A `KeyError`. -/
  | missing (name : DnsLabel)
  /-- `next` of an image without references. -/
  | stopIteration

def withWorkloadClusters (config : InitStackCopy)
    (clusters : Mapping DnsLabel WorkloadClusterCopy) : InitStackCopy :=
  { config with tenants := { config.tenants with workloadClusters := clusters } }

/-! Owner tag. -/

def ownerTag : NonEmptyStr := ⟨"Owner", by decide⟩

/-- `casefold`: only ASCII letters fold to those of the tag. -/
def isOwnerTag (tag : NonEmptyStr) : Bool :=
  tag.text.toList.map Char.toLower = ownerTag.text.toList.map Char.toLower

def hasOwnerTag (tags : Tags) : Bool := tags.keys.any isOwnerTag

def withOwnerTag (owner : String) (tags : Tags) : Tags :=
  if hasOwnerTag tags then tags else tags.set ownerTag owner

def withOwnerTagCluster (owner : String) : WorkloadClusterCopy → WorkloadClusterCopy
  | .azureBYO held => .azureBYO { held with parameters := { held.parameters with
      additionalTags := withOwnerTag owner held.parameters.additionalTags } }
  | .aks held => .aks { held with parameters := { held.parameters with
      additionalTags := withOwnerTag owner held.parameters.additionalTags } }
  | .localClass held => .localClass held

/-- An owner that is not given is what `_discover_username` finds. -/
def withOwnerTagConfig (config : InitStackCopy) (owner discovered : Option String) :
    InitStackCopy :=
  match (Text.nonempty owner).or discovered with
  | none => config
  | some owner => withWorkloadClusters config
      (config.tenants.workloadClusters.mapValues (withOwnerTagCluster owner))

/-! Cache registry. -/

def withRegistry (registry : LocalPortRegistrySetting) : WorkloadClusterCopy → WorkloadClusterCopy
  | .localClass held => .localClass { held with registry := some registry }
  | other => other

def withLocalRegistryConfig (config : InitStackCopy) (registry : LocalPortRegistrySetting) :
    InitStackCopy :=
  withWorkloadClusters config (config.tenants.workloadClusters.mapValues (withRegistry registry))

/-! Azure provider. -/

def withCapzProvider (providerOci controllerImage : Option String) (azure : AzureProviderCopy) :
    AzureProviderCopy :=
  { azure with providerOci := providerOci.or azure.providerOci
               controllerImage := controllerImage.or azure.controllerImage }

def withAzureProvider (config : InitStackCopy) (azure : Option AzureProviderCopy) :
    InitStackCopy :=
  { config with controlPlane := { config.controlPlane with infrastructureProviders :=
      { config.controlPlane.infrastructureProviders with azure } } }

def mergeCapzProviderOverrides (config : InitStackCopy)
    (providerOci controllerImage : Option String) : InitStackCopy :=
  if providerOci = none ∧ controllerImage = none then config
  else match config.controlPlane.infrastructureProviders.azure with
    | none => config
    | some azure =>
        if azure.enabled then
          withAzureProvider config (some (withCapzProvider providerOci controllerImage azure))
        else config

/-! Slinky. -/

/-- The `updates` of a Slinky deployment. -/
structure SlinkyUpdates where
  chartOciPrefix : Option String := none
  chartVersion : Option String := none
  operatorImage : Option SlinkyImageConfig := none
  webhookImage : Option SlinkyImageConfig := none

def updateSlinky (held : SlinkyCopy) (updates : SlinkyUpdates) : SlinkyCopy :=
  { held with
    chartOciPrefix := updates.chartOciPrefix.getD held.chartOciPrefix
    chartPlainHttp := updates.chartOciPrefix.isSome || held.chartPlainHttp
    operatorCrdsChartVersion := updates.chartVersion.getD held.operatorCrdsChartVersion
    operatorChartVersion := updates.chartVersion.getD held.operatorChartVersion
    slurmChartVersion := updates.chartVersion.getD held.slurmChartVersion
    operatorImage := updates.operatorImage.or held.operatorImage
    webhookImage := updates.webhookImage.or held.webhookImage }

structure LocalSlinkyOverrides where
  chartOciPrefix : Option String := none
  chartVersion : Option String := none
  operatorImage : Option String := none
  webhookImage : Option String := none
  registryName : Option String := none
  registryPort : Option Int := none
  deriving DecidableEq

def customRegistrySetting (registryName : Option String) (registryPort : Option Int) :
    Except StackOverrides.Failure (Option LocalCustomRegistrySetting) :=
  match registryName, registryPort with
  | some name, some port => (localCustomRegistrySetting name port).map some
  | _, _ => .ok none

/-- The body of the loop of `_merge_local_slinky_overrides`. -/
def mergeLocalCluster (overrides : LocalSlinkyOverrides) (held : LocalClusterCopy) :
    Except StackOverrides.Failure LocalClusterCopy := do
  let operatorImage ← optionalImageConfig overrides.operatorImage
  let webhookImage ← optionalImageConfig overrides.webhookImage
  let custom ← customRegistrySetting overrides.registryName overrides.registryPort
  let updates := { chartOciPrefix := overrides.chartOciPrefix
                   chartVersion := overrides.chartVersion, operatorImage, webhookImage }
  return { held with slinky := updateSlinky held.slinky updates
                     customRegistry := custom.or held.customRegistry }

def mergeLocalWorkload (overrides : LocalSlinkyOverrides) :
    WorkloadClusterCopy → Except StackOverrides.Failure WorkloadClusterCopy
  | .localClass held => (mergeLocalCluster overrides held).map .localClass
  | other => .ok other

def mergeLocalSlinkyOverrides (config : InitStackCopy) (overrides : LocalSlinkyOverrides) :
    Except StackOverrides.Failure InitStackCopy :=
  (config.tenants.workloadClusters.traverse (mergeLocalWorkload overrides)).map
    (withWorkloadClusters config)

/-- `_with_local_slinky_overrides` -/
def withLocalSlinkyOverrides (config : InitStackCopy) (overrides : LocalSlinkyOverrides) :
    Except StackOverrides.Failure InitStackCopy :=
  if overrides = {} then .ok config else mergeLocalSlinkyOverrides config overrides

/-- What the merge leaves of one Local cluster. -/
theorem mergeLocalCluster_ok (overrides : LocalSlinkyOverrides) (held merged : LocalClusterCopy)
    (done : mergeLocalCluster overrides held = .ok merged) :
    ∃ operatorImage webhookImage custom,
      optionalImageConfig overrides.operatorImage = .ok operatorImage ∧
      optionalImageConfig overrides.webhookImage = .ok webhookImage ∧
      customRegistrySetting overrides.registryName overrides.registryPort = .ok custom ∧
      merged = { held with
        slinky := updateSlinky held.slinky
          { chartOciPrefix := overrides.chartOciPrefix, chartVersion := overrides.chartVersion
            operatorImage, webhookImage }
        customRegistry := custom.or held.customRegistry } := by
  unfold mergeLocalCluster at done
  obtain ⟨operatorImage, first, done⟩ := (Effect.bind_eq_ok _ _ _).mp done
  obtain ⟨webhookImage, second, done⟩ := (Effect.bind_eq_ok _ _ _).mp done
  obtain ⟨custom, third, done⟩ := (Effect.bind_eq_ok _ _ _).mp done
  cases done
  exact ⟨operatorImage, webhookImage, custom, first, second, third, rfl⟩

/-! Azure builds. -/

/-- The references of an image stand in the order in which they were published. -/
structure AzureBuildOverrides where
  acr : AzureContainerRegistryConfig
  imageRefs : Mapping NonEmptyStr (List (String × String)) := {}
  chartOciPrefix : Option String := none
  chartVersion : Option String := none
  aksIdentities : Mapping DnsLabel AKSIdentityConfig := {}
  aksResourceGroups : Mapping DnsLabel String := {}

/-- The image of a build that is among the references. -/
def builtImage (imageRefs : Mapping NonEmptyStr (List (String × String))) (name : NonEmptyStr) :
    Except Failure (Option SlinkyImageConfig) :=
  match imageRefs.lookup name with
  | none => .ok none
  | some [] => .error .stopIteration
  | some ((_, reference) :: _) => ((slinkyImageConfig reference).map some).mapError .override

def mergeAzureSlinky (overrides : AzureBuildOverrides) (held : SlinkyCopy) :
    Except Failure SlinkyCopy := do
  let operatorImage ← builtImage overrides.imageRefs slinkyOperatorImageKey
  let webhookImage ← builtImage overrides.imageRefs slinkyWebhookImageKey
  return updateSlinky held { chartOciPrefix := overrides.chartOciPrefix
                             chartVersion := overrides.chartVersion, operatorImage, webhookImage }

/-- `mapping[name]` -/
def index {Value : Type} (mapping : Mapping DnsLabel Value) (name : DnsLabel) :
    Except Failure Value :=
  match mapping.lookup name with
  | some value => .ok value
  | none => .error (.missing name)

/-- The body of the loop of `_merge_azure_build_overrides`. -/
def mergeAzureCluster (overrides : AzureBuildOverrides) (name : DnsLabel) :
    WorkloadClusterCopy → Except Failure WorkloadClusterCopy
  | .azureBYO held => do
      let slinky ← mergeAzureSlinky overrides held.slinky
      return .azureBYO { held with acr := some overrides.acr, slinky }
  | .aks held => do
      let slinky ← mergeAzureSlinky overrides held.slinky
      let identities ← index overrides.aksIdentities name
      let resourceGroup ← index overrides.aksResourceGroups name
      return .aks { acr := some overrides.acr, slinky, identities := some identities
                    parameters := { held.parameters with resourceGroup := some resourceGroup
                                                         useDiscoveredResourceGroup := false } }
  | .localClass held => .ok (.localClass held)

def mergeAzureBuildOverrides (config : InitStackCopy) (overrides : AzureBuildOverrides) :
    Except Failure InitStackCopy :=
  (config.tenants.workloadClusters.traverseNamed (mergeAzureCluster overrides)).map
    (withWorkloadClusters config)

end ClusterApiForSlinky.StackMerges
