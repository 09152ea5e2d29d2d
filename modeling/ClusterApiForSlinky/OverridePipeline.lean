import ClusterApiForSlinky.Effect
import ClusterApiForSlinky.StackMerges
import Mathlib.Data.List.Perm.Basic

/-!
The overrides of the outer stack in any order. With valid arguments none of them
raises, so each is a patch of the Azure provider and of each workload cluster;
the patches commute, because no two of them write the same field of a cluster.
-/

namespace ClusterApiForSlinky.OverridePipeline
open ModelCodec WorkloadConfig RegistrySetting ConfigHandoff ConfigCopies StackBuilds StackMerges
open TenantObjects (DnsLabel)
open StackOverrides (optionalImageConfig slinkyImageConfig localCustomRegistrySetting)

inductive Merge where
  | ownerTag
  | localRegistry
  | capzProvider
  | localSlinky
  | azureBuild
  deriving DecidableEq

def Merge.all : List Merge := [.ownerTag, .localRegistry, .capzProvider, .localSlinky, .azureBuild]

/-- The arguments of the five; `discovered` is what `_discover_username` returns. -/
structure Overrides where
  owner : Option String
  discovered : Option String
  registry : LocalPortRegistrySetting
  providerOci : Option String
  controllerImage : Option String
  localSlinky : LocalSlinkyOverrides
  azureBuild : AzureBuildOverrides

def Overrides.run (overrides : Overrides) (merge : Merge) (config : InitStackCopy) :
    Except Failure InitStackCopy :=
  match merge with
  | .ownerTag => .ok (withOwnerTagConfig config overrides.owner overrides.discovered)
  | .localRegistry => .ok (withLocalRegistryConfig config overrides.registry)
  | .capzProvider => .ok (mergeCapzProviderOverrides config overrides.providerOci
      overrides.controllerImage)
  | .localSlinky => (mergeLocalSlinkyOverrides config overrides.localSlinky).mapError .override
  | .azureBuild => mergeAzureBuildOverrides config overrides.azureBuild

def Overrides.runAll (overrides : Overrides) (order : List Merge) (config : InitStackCopy) :
    Except Failure InitStackCopy :=
  order.foldlM (fun held merge => overrides.run merge held) config

/-! Arguments of the types that the overridden fields declare. -/

/-- A repository and a tag. -/
def Tagged (reference : String) : Prop :=
  ∃ repository tag : String, repository ≠ "" ∧ tag ≠ "" ∧ ':' ∉ tag.toList ∧
    reference = repository ++ ":" ++ tag

def OciGiven (given : Option String) : Prop :=
  ∀ text, given = some text → Text.startsWith text "oci://" = true

structure LocalValid (overrides : LocalSlinkyOverrides) : Prop where
  chartOciPrefix : OciGiven overrides.chartOciPrefix
  chartVersion : NonEmpty overrides.chartVersion
  operatorImage : ∀ reference, overrides.operatorImage = some reference → Tagged reference
  webhookImage : ∀ reference, overrides.webhookImage = some reference → Tagged reference
  registryName : ∀ name, overrides.registryName = some name → registryNameAccepts name = true
  registryPort : ∀ port, overrides.registryPort = some port → 0 < port

structure AzureValid (overrides : AzureBuildOverrides) : Prop where
  imageRefs : ∀ name ∈ slinkyImageKeys, ∀ references, overrides.imageRefs.lookup name =
    some references → ∃ first ∈ references.head?, Tagged first.2
  chartOciPrefix : OciGiven overrides.chartOciPrefix
  chartVersion : NonEmpty overrides.chartVersion
  resourceGroups : ∀ name group, overrides.aksResourceGroups.lookup name = some group → group ≠ ""

structure Overrides.Valid (overrides : Overrides) : Prop where
  owner : ∃ owner, overrides.owner = some owner ∧ owner ≠ ""
  providerOci : NonEmpty overrides.providerOci
  controllerImage : NonEmpty overrides.controllerImage
  localSlinky : LocalValid overrides.localSlinky
  azureBuild : AzureValid overrides.azureBuild

/-- Identities and a resource group are given for every AKS instance. -/
def Covers (overrides : AzureBuildOverrides) (config : InitStackConfig) : Prop :=
  ∀ name cluster, (name, WorkloadClusterConfig.aks cluster) ∈
      config.tenants.workloadClusters.entries →
    (∃ identities, overrides.aksIdentities.lookup name = some identities) ∧
      ∃ group, overrides.aksResourceGroups.lookup name = some group

theorem slinkyImageConfig_of_tagged (reference : String) (tagged : Tagged reference) :
    ∃ image, slinkyImageConfig reference = .ok image := by
  obtain ⟨repository, tag, named, versioned, plain, rfl⟩ := tagged
  have whole : (repository ++ ":" ++ tag).toList = repository.toList ++ ':' :: tag.toList := by
    simp [String.toList_append]
  have cut : Text.rpartition ':' (':' :: tag.toList) = some ([], tag.toList) := by
    simp only [Text.rpartition, Text.rpartition_of_not_mem ':' tag.toList plain, if_true]
  have checked : ∀ text : String, text ≠ "" →
      ∃ checked, StackOverrides.nonEmpty text.toList = some checked := by
    intro text nonempty
    refine ⟨⟨text, decide_eq_true nonempty⟩, ?_⟩
    rw [StackOverrides.nonEmpty, Constrained.check_eq_some, String.ofList_toList]
  obtain ⟨before, first⟩ := checked repository named
  obtain ⟨after, second⟩ := checked tag versioned
  unfold slinkyImageConfig
  rw [whole, Text.rpartition_append ':' repository.toList _ _ cut]
  simp only [List.append_nil, first, second]
  exact ⟨_, rfl⟩

/-! Each override as a patch. -/

/-- What an optional part of an update becomes, where it does not raise. -/
def chosen {Error Value : Type} (outcome : Except Error (Option Value)) : Option Value :=
  outcome.toOption.join

theorem optionalImageConfig_fine (given : Option String)
    (tagged : ∀ reference, given = some reference → Tagged reference) :
    ∃ image, optionalImageConfig given = .ok image := by
  cases given with
  | none => exact ⟨none, rfl⟩
  | some reference =>
      obtain ⟨image, parsed⟩ := slinkyImageConfig_of_tagged reference (tagged reference rfl)
      exact ⟨some image, by rw [optionalImageConfig, parsed]; rfl⟩

theorem customRegistrySetting_fine (overrides : LocalSlinkyOverrides)
    (valid : LocalValid overrides) : ∃ setting,
      customRegistrySetting overrides.registryName overrides.registryPort = .ok setting := by
  unfold customRegistrySetting
  split
  case h_1 name port named ported =>
    have registryName : Constrained.check registryNameAccepts name =
        some ⟨name, valid.registryName name named⟩ := (Constrained.check_eq_some _ _ _).mpr rfl
    have positive : literalPortAccepts (.int port) = true :=
      decide_eq_true (valid.registryPort port ported)
    refine ⟨some ⟨⟨name, valid.registryName name named⟩, ⟨.int port, positive⟩⟩, ?_⟩
    simp only [localCustomRegistrySetting, registryName, StackOverrides.literalPort,
      dif_pos positive]
    rfl
  case h_2 => exact ⟨none, rfl⟩

theorem builtImage_fine (overrides : AzureBuildOverrides) (valid : AzureValid overrides)
    (name : NonEmptyStr) (member : name ∈ slinkyImageKeys) :
    ∃ image, builtImage overrides.imageRefs name = .ok image := by
  unfold builtImage
  split
  case h_1 => exact ⟨none, rfl⟩
  case h_2 found =>
    obtain ⟨first, here, -⟩ := valid.imageRefs name member [] found
    exact nomatch here
  case h_3 key reference rest found =>
    obtain ⟨first, here, tagged⟩ := valid.imageRefs name member _ found
    cases here
    obtain ⟨image, parsed⟩ := slinkyImageConfig_of_tagged _ tagged
    exact ⟨some image, by rw [parsed]; rfl⟩

def localUpdates (overrides : LocalSlinkyOverrides) : SlinkyUpdates where
  chartOciPrefix := overrides.chartOciPrefix
  chartVersion := overrides.chartVersion
  operatorImage := chosen (optionalImageConfig overrides.operatorImage)
  webhookImage := chosen (optionalImageConfig overrides.webhookImage)

def azureUpdates (overrides : AzureBuildOverrides) : SlinkyUpdates where
  chartOciPrefix := overrides.chartOciPrefix
  chartVersion := overrides.chartVersion
  operatorImage := chosen (builtImage overrides.imageRefs slinkyOperatorImageKey)
  webhookImage := chosen (builtImage overrides.imageRefs slinkyWebhookImageKey)

def patchLocal (overrides : LocalSlinkyOverrides) (held : LocalClusterCopy) : LocalClusterCopy :=
  { held with
    slinky := updateSlinky held.slinky (localUpdates overrides)
    customRegistry := (chosen (customRegistrySetting overrides.registryName
      overrides.registryPort)).or held.customRegistry }

def patchAKS (overrides : AzureBuildOverrides) (name : DnsLabel) (held : AKSClusterCopy) :
    AKSClusterCopy where
  acr := some overrides.acr
  slinky := updateSlinky held.slinky (azureUpdates overrides)
  identities := (overrides.aksIdentities.lookup name).or held.identities
  parameters := { held.parameters with
    resourceGroup := (overrides.aksResourceGroups.lookup name).or held.parameters.resourceGroup
    useDiscoveredResourceGroup := false }

def patchBYO (overrides : AzureBuildOverrides) (held : AzureBYOClusterCopy) :
    AzureBYOClusterCopy :=
  { held with acr := some overrides.acr
              slinky := updateSlinky held.slinky (azureUpdates overrides) }

def patchLocalWorkload (overrides : LocalSlinkyOverrides) :
    WorkloadClusterCopy → WorkloadClusterCopy
  | .localClass held => .localClass (patchLocal overrides held)
  | other => other

def patchAzureWorkload (overrides : AzureBuildOverrides) (name : DnsLabel) :
    WorkloadClusterCopy → WorkloadClusterCopy
  | .azureBYO held => .azureBYO (patchBYO overrides held)
  | .aks held => .aks (patchAKS overrides name held)
  | .localClass held => .localClass held

/-- What one override does to a workload cluster. -/
def Overrides.cluster (overrides : Overrides) (name : DnsLabel) :
    Merge → WorkloadClusterCopy → WorkloadClusterCopy
  | .ownerTag => withOwnerTagCluster (overrides.owner.getD "")
  | .localRegistry => withRegistry overrides.registry
  | .capzProvider => id
  | .localSlinky => patchLocalWorkload overrides.localSlinky
  | .azureBuild => patchAzureWorkload overrides.azureBuild name

/-- What one override does to the Azure provider. -/
def Overrides.provider (overrides : Overrides) : Merge → AzureProviderCopy → AzureProviderCopy
  | .capzProvider, azure =>
      if azure.enabled then
        withCapzProvider overrides.providerOci overrides.controllerImage azure
      else azure
  | _, azure => azure

def Overrides.patch (overrides : Overrides) (merge : Merge) (config : InitStackCopy) :
    InitStackCopy :=
  withWorkloadClusters
    (withAzureProvider config
      (config.controlPlane.infrastructureProviders.azure.map (overrides.provider merge)))
    (config.tenants.workloadClusters.mapNamed (fun name => overrides.cluster name merge))

/-- Identities and a resource group are given for every AKS instance of a copy. -/
def CoversCopy (overrides : AzureBuildOverrides) (config : InitStackCopy) : Prop :=
  ∀ name held, (name, WorkloadClusterCopy.aks held) ∈ config.tenants.workloadClusters.entries →
    (∃ identities, overrides.aksIdentities.lookup name = some identities) ∧
      ∃ group, overrides.aksResourceGroups.lookup name = some group

theorem mergeLocalWorkload_ok (overrides : LocalSlinkyOverrides) (valid : LocalValid overrides)
    (held : WorkloadClusterCopy) :
    mergeLocalWorkload overrides held = .ok (patchLocalWorkload overrides held) := by
  cases held with
  | localClass held =>
      obtain ⟨operator, first⟩ := optionalImageConfig_fine _ valid.operatorImage
      obtain ⟨webhook, second⟩ := optionalImageConfig_fine _ valid.webhookImage
      obtain ⟨custom, third⟩ := customRegistrySetting_fine _ valid
      simp only [mergeLocalWorkload, mergeLocalCluster, patchLocalWorkload, patchLocal,
        localUpdates, first, second, third]
      rfl
  | azureBYO held => rfl
  | aks held => rfl

theorem mergeAzureSlinky_ok (overrides : AzureBuildOverrides) (valid : AzureValid overrides)
    (held : SlinkyCopy) :
    mergeAzureSlinky overrides held = .ok (updateSlinky held (azureUpdates overrides)) := by
  obtain ⟨operator, first⟩ := builtImage_fine overrides valid slinkyOperatorImageKey
    (by simp [slinkyImageKeys])
  obtain ⟨webhook, second⟩ := builtImage_fine overrides valid slinkyWebhookImageKey
    (by simp [slinkyImageKeys])
  simp only [mergeAzureSlinky, azureUpdates, first, second]
  rfl

theorem mergeAzureCluster_ok (overrides : AzureBuildOverrides) (valid : AzureValid overrides)
    (config : InitStackCopy) (covers : CoversCopy overrides config) (name : DnsLabel)
    (held : WorkloadClusterCopy) (member : (name, held) ∈ config.tenants.workloadClusters.entries) :
    mergeAzureCluster overrides name held = .ok (patchAzureWorkload overrides name held) := by
  cases held with
  | azureBYO held =>
      simp only [mergeAzureCluster, mergeAzureSlinky_ok _ valid]
      rfl
  | aks held =>
      obtain ⟨⟨identities, first⟩, group, second⟩ := covers name held member
      simp only [mergeAzureCluster, mergeAzureSlinky_ok _ valid, index, patchAzureWorkload,
        patchAKS, first, second]
      rfl
  | localClass held => rfl

/-- Only the provider override leaves the tenants alone, and the others the provider. -/
theorem patch_of_tenants (overrides : Overrides) (merge : Merge) (other : merge ≠ .capzProvider)
    (config : InitStackCopy) :
    overrides.patch merge config = withWorkloadClusters config
      (config.tenants.workloadClusters.mapNamed (fun name => overrides.cluster name merge)) := by
  have kept : config.controlPlane.infrastructureProviders.azure.map (overrides.provider merge) =
      config.controlPlane.infrastructureProviders.azure := by
    cases config.controlPlane.infrastructureProviders.azure with
    | none => rfl
    | some azure =>
        cases merge with
        | capzProvider => exact absurd rfl other
        | ownerTag | localRegistry | localSlinky | azureBuild => rfl
  rw [Overrides.patch, kept]
  rfl

theorem patch_of_provider (overrides : Overrides) (config : InitStackCopy) :
    overrides.patch .capzProvider config =
      withAzureProvider config (config.controlPlane.infrastructureProviders.azure.map
        (overrides.provider .capzProvider)) := by
  have kept : config.tenants.workloadClusters.mapNamed
      (fun name => overrides.cluster name .capzProvider) = config.tenants.workloadClusters :=
    Mapping.mapNamed_id _
  rw [Overrides.patch, kept]
  rfl

theorem mergeCapz_eq (overrides : Overrides) (config : InitStackCopy) :
    mergeCapzProviderOverrides config overrides.providerOci overrides.controllerImage =
      overrides.patch .capzProvider config := by
  rw [patch_of_provider]
  have unchanged : ∀ azure, config.controlPlane.infrastructureProviders.azure = azure →
      withAzureProvider config azure = config := by
    rintro _ rfl
    rfl
  unfold mergeCapzProviderOverrides
  cases found : config.controlPlane.infrastructureProviders.azure with
  | none =>
      rw [Option.map_none, unchanged none found]
      split <;> rfl
  | some azure =>
      rw [Option.map_some, Overrides.provider]
      split
      case isTrue nothing =>
        -- Without either override the provider is rebuilt as it was.
        have same : withCapzProvider none none azure = azure := rfl
        rw [nothing.1, nothing.2, same, ite_self, unchanged (some azure) found]
      case isFalse given =>
        simp only
        split
        · rfl
        · exact (unchanged (some azure) found).symm

theorem run_eq_patch (overrides : Overrides) (valid : overrides.Valid) (merge : Merge)
    (config : InitStackCopy) (covers : CoversCopy overrides.azureBuild config) :
    overrides.run merge config = .ok (overrides.patch merge config) := by
  cases merge with
  | ownerTag =>
      obtain ⟨owner, given, nonempty⟩ := valid.owner
      have named := (Text.nonempty_eq_some (some owner) owner).mpr ⟨rfl, nonempty⟩
      rw [patch_of_tenants _ _ (by decide), Overrides.run, withOwnerTagConfig, given, named]
      simp only [Option.some_or, Overrides.cluster, given, Option.getD_some, Mapping.mapNamed_const]
  | localRegistry =>
      rw [patch_of_tenants _ _ (by decide), Overrides.run, withLocalRegistryConfig,
        ← Mapping.mapNamed_const]
      rfl
  | capzProvider => exact congrArg Except.ok (mergeCapz_eq overrides config)
  | localSlinky =>
      have total := Mapping.traverse_of_total (mergeLocalWorkload overrides.localSlinky)
        (patchLocalWorkload overrides.localSlinky) config.tenants.workloadClusters
        (fun entry _ => mergeLocalWorkload_ok _ valid.localSlinky entry.2)
      rw [patch_of_tenants _ _ (by decide), Overrides.run, mergeLocalSlinkyOverrides, total,
        ← Mapping.mapNamed_const]
      rfl
  | azureBuild =>
      have total := Mapping.traverseNamed_of_total (mergeAzureCluster overrides.azureBuild)
        (patchAzureWorkload overrides.azureBuild) config.tenants.workloadClusters
        (fun entry member => mergeAzureCluster_ok _ valid.azureBuild config covers _ _ member)
      rw [patch_of_tenants _ _ (by decide), Overrides.run, mergeAzureBuildOverrides, total]
      rfl

/-! The patches commute and are idempotent. -/

theorem updateSlinky_twice (held : SlinkyCopy) (updates : SlinkyUpdates) :
    updateSlinky (updateSlinky held updates) updates = updateSlinky held updates := by
  obtain ⟨chartOciPrefix, chartVersion, operatorImage, webhookImage⟩ := updates
  cases chartOciPrefix <;> cases chartVersion <;> cases operatorImage <;> cases webhookImage <;> rfl

theorem hasOwnerTag_withOwnerTag (owner : String) (tags : Tags) :
    hasOwnerTag (withOwnerTag owner tags) = true := by
  unfold withOwnerTag
  split
  case isTrue tagged => exact tagged
  case isFalse untagged =>
    apply List.any_eq_true.mpr
    refine ⟨ownerTag, ?_, by decide⟩
    exact (Mapping.mem_keys_assign _ _ _ _).mpr (Or.inl rfl)

theorem withOwnerTag_of_tagged (owner : String) (tags : Tags) (tagged : hasOwnerTag tags = true) :
    withOwnerTag owner tags = tags := if_pos tagged

theorem cluster_commute (overrides : Overrides) (name : DnsLabel) (left right : Merge)
    (held : WorkloadClusterCopy) :
    overrides.cluster name left (overrides.cluster name right held) =
      overrides.cluster name right (overrides.cluster name left held) := by
  cases left <;> cases right <;> cases held <;> rfl

theorem or_twice {Value : Type} (given held : Option Value) :
    given.or (given.or held) = given.or held := by
  rw [← Option.or_assoc, Option.or_self]

theorem cluster_twice (overrides : Overrides) (name : DnsLabel) (merge : Merge)
    (held : WorkloadClusterCopy) :
    overrides.cluster name merge (overrides.cluster name merge held) =
      overrides.cluster name merge held := by
  cases merge with
  | ownerTag =>
      have settled : ∀ owner tags, withOwnerTag owner (withOwnerTag owner tags) =
          withOwnerTag owner tags := by
        intro owner tags
        exact withOwnerTag_of_tagged owner _ (hasOwnerTag_withOwnerTag owner tags)
      cases held <;> simp only [Overrides.cluster, withOwnerTagCluster, settled]
  | localRegistry => cases held <;> rfl
  | capzProvider => rfl
  | localSlinky =>
      cases held with
      | localClass held =>
          simp only [Overrides.cluster, patchLocalWorkload, patchLocal, updateSlinky_twice,
            or_twice]
      | azureBYO held => rfl
      | aks held => rfl
  | azureBuild =>
      cases held with
      | localClass held => rfl
      | azureBYO held =>
          simp only [Overrides.cluster, patchAzureWorkload, patchBYO, updateSlinky_twice]
      | aks held =>
          simp only [Overrides.cluster, patchAzureWorkload, patchAKS, updateSlinky_twice, or_twice]

theorem provider_commute (overrides : Overrides) (left right : Merge) (azure : AzureProviderCopy) :
    overrides.provider left (overrides.provider right azure) =
      overrides.provider right (overrides.provider left azure) := by
  cases left <;> cases right <;> rfl

theorem provider_twice (overrides : Overrides) (merge : Merge) (azure : AzureProviderCopy) :
    overrides.provider merge (overrides.provider merge azure) = overrides.provider merge azure := by
  cases merge with
  | capzProvider =>
      by_cases enabled : azure.enabled = true
      · simp only [Overrides.provider, withCapzProvider, enabled, if_true, or_twice]
      · simp only [Overrides.provider, if_neg enabled]
  | ownerTag | localRegistry | localSlinky | azureBuild => rfl

theorem patch_patch (overrides : Overrides) (left right : Merge) (config : InitStackCopy) :
    overrides.patch left (overrides.patch right config) = withWorkloadClusters
      (withAzureProvider config (config.controlPlane.infrastructureProviders.azure.map
        (fun azure => overrides.provider left (overrides.provider right azure))))
      (config.tenants.workloadClusters.mapNamed (fun name held =>
        overrides.cluster name left (overrides.cluster name right held))) := by
  unfold Overrides.patch
  simp only [withWorkloadClusters, withAzureProvider, Option.map_map, Mapping.mapNamed_mapNamed]
  rfl

theorem patch_commute (overrides : Overrides) (left right : Merge) (config : InitStackCopy) :
    overrides.patch left (overrides.patch right config) =
      overrides.patch right (overrides.patch left config) := by
  simp only [patch_patch, provider_commute overrides left right,
    cluster_commute overrides _ left right]

theorem patch_twice (overrides : Overrides) (merge : Merge) (config : InitStackCopy) :
    overrides.patch merge (overrides.patch merge config) = overrides.patch merge config := by
  rw [patch_patch]
  simp only [provider_twice, cluster_twice]
  rfl

theorem coversCopy_patch (overrides : Overrides) (merge : Merge) (config : InitStackCopy)
    (covers : CoversCopy overrides.azureBuild config) :
    CoversCopy overrides.azureBuild (overrides.patch merge config) := by
  intro name held member
  obtain ⟨before, here, same⟩ := (Mapping.mem_mapNamed _ _ _).mp member
  have was : ∃ given, before = .aks given := by
    cases before with
    | aks given => exact ⟨given, rfl⟩
    | azureBYO given => cases merge <;> cases same
    | localClass given => cases merge <;> cases same
  obtain ⟨given, rfl⟩ := was
  exact covers name given here

/-- In whatever order they run, the overrides are applied as patches. -/
theorem runAll_eq_patches (overrides : Overrides) (valid : overrides.Valid) (order : List Merge)
    (config : InitStackCopy) (covers : CoversCopy overrides.azureBuild config) :
    overrides.runAll order config =
      .ok (order.foldl (fun held merge => overrides.patch merge held) config) := by
  induction order generalizing config with
  | nil => rfl
  | cons merge rest ih =>
      rw [Overrides.runAll, List.foldlM_cons, run_eq_patch overrides valid merge config covers]
      exact ih (overrides.patch merge config) (coversCopy_patch overrides merge config covers)

theorem patches_of_perm (overrides : Overrides) (left right : List Merge) (same : left.Perm right)
    (config : InitStackCopy) :
    left.foldl (fun held merge => overrides.patch merge held) config =
      right.foldl (fun held merge => overrides.patch merge held) config := by
  apply same.foldl_eq'
  intro first _ second _ held
  exact patch_commute overrides second first held

/-! The patches keep a copy valid. -/

theorem nonEmpty_or (given held : Option String) (first : NonEmpty given) (second : NonEmpty held) :
    NonEmpty (given.or held) := by
  cases given with
  | none => exact second
  | some text => exact first

theorem ociGiven_nonempty (text : String) (oci : Text.startsWith text "oci://" = true) :
    text ≠ "" := by
  rintro rfl
  exact absurd oci (by decide)

theorem valid_updateSlinky (held : SlinkyCopy) (updates : SlinkyUpdates) (valid : SlinkyValid held)
    (oci : OciGiven updates.chartOciPrefix) (version : NonEmpty updates.chartVersion) :
    SlinkyValid (updateSlinky held updates) := by
  have versioned : ∀ kept : String, kept ≠ "" → updates.chartVersion.getD kept ≠ "" := by
    intro kept nonempty
    cases given : updates.chartVersion with
    | none => exact nonempty
    | some wanted => exact version wanted given
  constructor
  · show updates.chartOciPrefix.getD held.chartOciPrefix ≠ ""
    cases given : updates.chartOciPrefix with
    | none => exact valid.chartOciPrefix
    | some wanted => exact ociGiven_nonempty wanted (oci wanted given)
  · exact versioned _ valid.operatorCrdsChartVersion
  · exact versioned _ valid.operatorChartVersion
  · exact versioned _ valid.slurmChartVersion
  · show (updates.chartOciPrefix.isSome || held.chartPlainHttp) = true →
      Text.startsWith (updates.chartOciPrefix.getD held.chartOciPrefix) "oci://" = true
    cases given : updates.chartOciPrefix with
    | none => exact valid.chartSource
    | some wanted =>
        -- Plain HTTP is only forced together with the given OCI source.
        intro _
        exact oci wanted given

theorem valid_cluster (overrides : Overrides) (valid : overrides.Valid) (name : DnsLabel)
    (merge : Merge) (held : WorkloadClusterCopy) (checked : ClusterValid held) :
    ClusterValid (overrides.cluster name merge held) := by
  cases merge with
  | ownerTag => cases held <;> exact checked
  | localRegistry => cases held <;> exact checked
  | capzProvider => exact checked
  | localSlinky =>
      cases held with
      | localClass held =>
          exact valid_updateSlinky _ _ checked valid.localSlinky.chartOciPrefix
            valid.localSlinky.chartVersion
      | azureBYO held => exact checked
      | aks held => exact checked
  | azureBuild =>
      have deployed : ∀ slinky, SlinkyValid slinky →
          SlinkyValid (updateSlinky slinky (azureUpdates overrides.azureBuild)) := by
        intro slinky checked
        exact valid_updateSlinky _ _ checked valid.azureBuild.chartOciPrefix
          valid.azureBuild.chartVersion
      cases held with
      | localClass held => exact checked
      | azureBYO held => exact deployed _ checked
      | aks held =>
          constructor
          · exact nonEmpty_or _ _ (valid.azureBuild.resourceGroups name) checked.1
          · exact deployed _ checked.2

theorem valid_provider (overrides : Overrides) (valid : overrides.Valid) (merge : Merge)
    (azure : AzureProviderCopy) (checked : azureProviderCopies.Valid azure) :
    azureProviderCopies.Valid (overrides.provider merge azure) := by
  cases merge with
  | capzProvider =>
      rw [Overrides.provider]
      by_cases enabled : azure.enabled = true
      · rw [valid_azureProvider] at checked
        rw [if_pos enabled, valid_azureProvider]
        constructor
        · exact nonEmpty_or _ _ valid.providerOci checked.1
        · exact nonEmpty_or _ _ valid.controllerImage checked.2
      · rwa [if_neg enabled]
  | ownerTag | localRegistry | localSlinky | azureBuild => exact checked

theorem valid_patch (overrides : Overrides) (valid : overrides.Valid) (merge : Merge)
    (config : InitStackCopy) (checked : initStackCopies.Valid config) :
    initStackCopies.Valid (overrides.patch merge config) := by
  rw [valid_initStack] at checked ⊢
  constructor
  · intro azure found
    obtain ⟨before, held, rfl⟩ := Option.map_eq_some_iff.mp found
    exact valid_provider overrides valid merge before (checked.1 before held)
  · intro entry member
    obtain ⟨before, held, same⟩ := (Mapping.mem_mapNamed _ _ _).mp member
    have first := (valid_workloadCluster _).mp (checked.2 _ held)
    rw [← same, valid_workloadCluster]
    exact valid_cluster overrides valid entry.1 merge before first

theorem valid_patches (overrides : Overrides) (valid : overrides.Valid) (order : List Merge)
    (config : InitStackCopy) (checked : initStackCopies.Valid config) :
    initStackCopies.Valid (order.foldl (fun held merge => overrides.patch merge held) config) := by
  induction order generalizing config with
  | nil => exact checked
  | cons merge rest ih =>
      exact ih (overrides.patch merge config) (valid_patch overrides valid merge config checked)

/-! What an override leaves alone. -/

/-- A Slinky deployment without the fields that the updates name. -/
def blankSlinky (updates : SlinkyUpdates) (held : SlinkyCopy) : SlinkyCopy where
  chartOciPrefix := if updates.chartOciPrefix.isSome then "" else held.chartOciPrefix
  chartPlainHttp := if updates.chartOciPrefix.isSome then false else held.chartPlainHttp
  operatorCrdsChartVersion :=
    if updates.chartVersion.isSome then "" else held.operatorCrdsChartVersion
  operatorChartVersion := if updates.chartVersion.isSome then "" else held.operatorChartVersion
  slurmChartVersion := if updates.chartVersion.isSome then "" else held.slurmChartVersion
  operatorImage := if updates.operatorImage.isSome then none else held.operatorImage
  webhookImage := if updates.webhookImage.isSome then none else held.webhookImage
  imagePullSecrets := held.imagePullSecrets

def noTags : Tags := ⟨[], List.nodup_nil⟩

/-- A cluster without the fields that the override names for its class. -/
def Overrides.blankCluster (overrides : Overrides) :
    Merge → WorkloadClusterCopy → WorkloadClusterCopy
  | .ownerTag, .azureBYO held => .azureBYO
      { held with parameters := { held.parameters with additionalTags := noTags } }
  | .ownerTag, .aks held => .aks
      { held with parameters := { held.parameters with additionalTags := noTags } }
  | .localRegistry, .localClass held => .localClass { held with registry := none }
  | .localSlinky, .localClass held => .localClass
      { held with
        slinky := blankSlinky (localUpdates overrides.localSlinky) held.slinky
        customRegistry :=
          if overrides.localSlinky.registryName.isSome && overrides.localSlinky.registryPort.isSome
          then none else held.customRegistry }
  | .azureBuild, .azureBYO held => .azureBYO
      { held with acr := none
                  slinky := blankSlinky (azureUpdates overrides.azureBuild) held.slinky }
  | .azureBuild, .aks held => .aks
      { acr := none, identities := none
        slinky := blankSlinky (azureUpdates overrides.azureBuild) held.slinky
        parameters := { held.parameters with resourceGroup := none
                                             useDiscoveredResourceGroup := false } }
  | _, held => held

def Overrides.blankProvider (overrides : Overrides) :
    Merge → AzureProviderCopy → AzureProviderCopy
  | .capzProvider, azure =>
      { azure with
        providerOci := if overrides.providerOci.isSome then none else azure.providerOci
        controllerImage :=
          if overrides.controllerImage.isSome then none else azure.controllerImage }
  | _, azure => azure

def Overrides.blank (overrides : Overrides) (merge : Merge) (config : InitStackCopy) :
    InitStackCopy :=
  withWorkloadClusters
    (withAzureProvider config
      (config.controlPlane.infrastructureProviders.azure.map (overrides.blankProvider merge)))
    (config.tenants.workloadClusters.mapValues (overrides.blankCluster merge))

inductive ClusterClass where
  | azureBYO
  | aks
  | localClass
  deriving DecidableEq

def classOf : WorkloadClusterCopy → ClusterClass
  | .azureBYO _ => .azureBYO
  | .aks _ => .aks
  | .localClass _ => .localClass

def tagsOf : WorkloadClusterCopy → Option Tags
  | .azureBYO held => some held.parameters.additionalTags
  | .aks held => some held.parameters.additionalTags
  | .localClass _ => none

/-- What an override puts behind the tags of a cluster. -/
def Overrides.addedTags (overrides : Overrides) (merge : Merge) (tags : Tags) :
    List (NonEmptyStr × String) :=
  match merge, hasOwnerTag tags with
  | .ownerTag, false => [(ownerTag, overrides.owner.getD "")]
  | _, _ => []

structure Preserves (overrides : Overrides) (merge : Merge) (before after : InitStackCopy) :
    Prop where
  keys : after.tenants.workloadClusters.keys = before.tenants.workloadClusters.keys
  classes : after.tenants.workloadClusters.mapValues classOf =
    before.tenants.workloadClusters.mapValues classOf
  fields : overrides.blank merge after = overrides.blank merge before
  tags : ∀ name held tags, (name, held) ∈ before.tenants.workloadClusters.entries →
    tagsOf held = some tags →
    ∃ changed left, (name, changed) ∈ after.tenants.workloadClusters.entries ∧
      tagsOf changed = some left ∧
      left.entries = tags.entries ++ overrides.addedTags merge tags

theorem blankSlinky_update (held : SlinkyCopy) (updates : SlinkyUpdates) :
    blankSlinky updates (updateSlinky held updates) = blankSlinky updates held := by
  obtain ⟨chartOciPrefix, chartVersion, operatorImage, webhookImage⟩ := updates
  cases chartOciPrefix <;> cases chartVersion <;> cases operatorImage <;> cases webhookImage <;> rfl

theorem customRegistrySetting_absent (registryName : Option String) (registryPort : Option Int)
    (absent : (registryName.isSome && registryPort.isSome) = false) :
    customRegistrySetting registryName registryPort = .ok none := by
  cases registryName with
  | none => rfl
  | some name =>
      cases registryPort with
      | none => rfl
      | some port => exact nomatch absent

theorem blankCluster_cluster (overrides : Overrides) (name : DnsLabel) (merge : Merge)
    (held : WorkloadClusterCopy) :
    overrides.blankCluster merge (overrides.cluster name merge held) =
      overrides.blankCluster merge held := by
  cases merge with
  | ownerTag => cases held <;> rfl
  | localRegistry => cases held <;> rfl
  | capzProvider => rfl
  | localSlinky =>
      cases held with
      | localClass held =>
          simp only [Overrides.cluster, patchLocalWorkload, patchLocal, Overrides.blankCluster,
            blankSlinky_update]
          cases given : overrides.localSlinky.registryName.isSome &&
              overrides.localSlinky.registryPort.isSome with
          | true => rfl
          | false =>
              rw [customRegistrySetting_absent _ _ given]
              rfl
      | azureBYO held => rfl
      | aks held => rfl
  | azureBuild =>
      cases held with
      | localClass held => rfl
      | azureBYO held =>
          simp only [Overrides.cluster, patchAzureWorkload, patchBYO, Overrides.blankCluster,
            blankSlinky_update]
      | aks held =>
          simp only [Overrides.cluster, patchAzureWorkload, patchAKS, Overrides.blankCluster,
            blankSlinky_update]

theorem blankProvider_provider (overrides : Overrides) (merge : Merge) (azure : AzureProviderCopy) :
    overrides.blankProvider merge (overrides.provider merge azure) =
      overrides.blankProvider merge azure := by
  cases merge with
  | capzProvider =>
      rw [Overrides.provider]
      by_cases enabled : azure.enabled = true
      · rw [if_pos enabled]
        cases provider : overrides.providerOci <;> cases image : overrides.controllerImage <;>
          simp [Overrides.blankProvider, withCapzProvider, provider, image]
      · rw [if_neg enabled]
  | ownerTag | localRegistry | localSlinky | azureBuild => rfl

theorem classOf_cluster (overrides : Overrides) (name : DnsLabel) (merge : Merge)
    (held : WorkloadClusterCopy) : classOf (overrides.cluster name merge held) = classOf held := by
  cases merge <;> cases held <;> rfl

theorem not_mem_of_untagged (tags : Tags) (untagged : hasOwnerTag tags = false) :
    ownerTag ∉ tags.keys := by
  intro member
  have tagged : hasOwnerTag tags = true :=
    List.any_eq_true.mpr ⟨ownerTag, member, by decide⟩
  rw [untagged] at tagged
  cases tagged

theorem entries_withOwnerTag (overrides : Overrides) (tags : Tags) :
    (withOwnerTag (overrides.owner.getD "") tags).entries =
      tags.entries ++ overrides.addedTags .ownerTag tags := by
  unfold Overrides.addedTags
  cases tagged : hasOwnerTag tags with
  | true => rw [withOwnerTag_of_tagged _ tags tagged, List.append_nil]
  | false =>
      rw [withOwnerTag, tagged]
      exact Mapping.assign_fresh _ _ _ (not_mem_of_untagged tags tagged)

theorem tagsOf_cluster (overrides : Overrides) (name : DnsLabel) (merge : Merge)
    (held : WorkloadClusterCopy) (tags : Tags) (found : tagsOf held = some tags) :
    ∃ left, tagsOf (overrides.cluster name merge held) = some left ∧
      left.entries = tags.entries ++ overrides.addedTags merge tags := by
  cases merge with
  | ownerTag =>
      refine ⟨withOwnerTag (overrides.owner.getD "") tags, ?_,
        entries_withOwnerTag overrides tags⟩
      cases held <;> cases found <;> rfl
  | localRegistry | capzProvider | localSlinky | azureBuild =>
      refine ⟨tags, ?_, (List.append_nil _).symm⟩
      cases held <;> exact found

theorem mapValues_mapNamed {Value Other : Type} (change : DnsLabel → Value → Value)
    (seen : Value → Other) (same : ∀ name value, seen (change name value) = seen value)
    (mapping : Mapping DnsLabel Value) :
    (mapping.mapNamed change).mapValues seen = mapping.mapValues seen := by
  rw [← Mapping.mapNamed_const, Mapping.mapNamed_mapNamed, ← Mapping.mapNamed_const]
  simp only [same]

theorem preserves_patch (overrides : Overrides) (merge : Merge) (config : InitStackCopy) :
    Preserves overrides merge config (overrides.patch merge config) := by
  constructor
  · exact Mapping.keys_mapNamed _ _
  · exact mapValues_mapNamed _ _ (fun name held => classOf_cluster overrides name merge held) _
  · have clusters := mapValues_mapNamed (fun name => overrides.cluster name merge) _
      (fun name held => blankCluster_cluster overrides name merge held)
      config.tenants.workloadClusters
    have provider : (config.controlPlane.infrastructureProviders.azure.map
        (overrides.provider merge)).map (overrides.blankProvider merge) =
        config.controlPlane.infrastructureProviders.azure.map (overrides.blankProvider merge) := by
      rw [Option.map_map]
      exact congrArg (fun change => Option.map change _)
        (funext (blankProvider_provider overrides merge))
    simp only [Overrides.blank, Overrides.patch, withWorkloadClusters, withAzureProvider, clusters,
      provider]
  · intro name held tags member found
    obtain ⟨left, same, appended⟩ := tagsOf_cluster overrides name merge held tags found
    refine ⟨overrides.cluster name merge held, left, ?_, same, appended⟩
    exact (Mapping.mem_mapNamed _ _ _).mpr ⟨held, member, rfl⟩

theorem coversCopy_copy (overrides : AzureBuildOverrides) (config : InitStackConfig)
    (covers : Covers overrides config) : CoversCopy overrides (initStackCopies.copy config) := by
  intro name held member
  obtain ⟨cluster, here, same⟩ := (Mapping.mem_mapValues _ _ _).mp member
  cases cluster with
  | aks cluster => exact covers name cluster here
  | azureBYO cluster => cases same
  | localClass cluster => cases same

/-- The overrides give one configuration in every order, and each of them is
idempotent, leaves alone what it does not name and keeps the configuration valid. -/
theorem override_pipeline_sound (overrides : Overrides) (valid : overrides.Valid)
    (config : InitStackConfig) (covers : Covers overrides.azureBuild config) :
    (∃ overridden result, (∀ order : List Merge, order.Perm Merge.all →
        overrides.runAll order (initStackCopies.copy config) = .ok overridden) ∧
      initStackCopies.validate overridden = some result) ∧
    ∀ merge, ∃ once result, overrides.run merge (initStackCopies.copy config) = .ok once ∧
      overrides.run merge once = .ok once ∧
      Preserves overrides merge (initStackCopies.copy config) once ∧
      initStackCopies.validate once = some result := by
  have covered := coversCopy_copy overrides.azureBuild config covers
  have given := initStackCopies.valid_copy config
  constructor
  · obtain ⟨result, same⟩ := valid_patches overrides valid Merge.all _ given
    refine ⟨_, result, ?_, (initStackCopies.exact _ _).mpr same⟩
    intro order reordered
    rw [runAll_eq_patches overrides valid order _ covered,
      patches_of_perm overrides order Merge.all reordered]
  · intro merge
    obtain ⟨result, same⟩ := valid_patch overrides valid merge _ given
    refine ⟨overrides.patch merge (initStackCopies.copy config), result, ?_, ?_, ?_, ?_⟩
    · exact run_eq_patch overrides valid merge _ covered
    · rw [run_eq_patch overrides valid merge _
        (coversCopy_patch overrides merge _ covered), patch_twice]
    · exact preserves_patch overrides merge _
    · exact (initStackCopies.exact _ _).mpr same

/-! One cluster of each class, with an owner tag in capitals on the AKS cluster. -/

def tagged : Tags := { entries := [(⟨"OWNER", by decide⟩, "platform")] }

def sharedClusters : InitStackConfig where
  controlPlane := { infrastructureProviders := { azure := some { enabled := true } } }
  tenants := { workloadClusters := { entries :=
    [(⟨"lab", by decide⟩, .localClass .plain),
      (⟨"lab-byo", by decide⟩, .azureBYO (.at UUID.nil eastus)),
      (⟨"lab-aks", by decide⟩, .aks { AKSWorkloadClusterConfig.at UUID.nil eastus with
        parameters := { (AKSWorkloadClusterConfig.at UUID.nil eastus).parameters with
                        additionalTags := tagged } })] } }

def sharedOverrides : Overrides where
  owner := some "slinky"
  discovered := none
  registry := ⟨⟨.int 5001, by decide⟩⟩
  providerOci := some "oci://registry/capz:v1"
  controllerImage := none
  localSlinky :=
    { chartOciPrefix := some "oci://registry/charts", chartVersion := some "0.0.0-dev"
      operatorImage := some "registry:5000/slurm-operator:dev"
      registryName := some "custom-registry", registryPort := some 5002 }
  azureBuild :=
    { acr := { server := ⟨"workload.azurecr.io", by decide⟩, resourceId := ⟨"/acr", by decide⟩ }
      imageRefs := { entries := [(slinkyOperatorImageKey,
        [("slurm-operator", "workload.azurecr.io/slurm-operator:dev")])] }
      aksIdentities := { entries := [(⟨"lab-aks", by decide⟩,
        { controlPlaneResourceId := ⟨"/control-plane", by decide⟩
          kubeletResourceId := ⟨"/kubelet", by decide⟩ })] }
      aksResourceGroups := { entries := [(⟨"lab-aks", by decide⟩, "workload-aks")] } }

theorem tagged_of_parts (repository tag : String) (named : repository ≠ "") (versioned : tag ≠ "")
    (plain : ':' ∉ tag.toList) : Tagged (repository ++ ":" ++ tag) :=
  ⟨repository, tag, named, versioned, plain, rfl⟩

theorem sharedOverrides_valid : sharedOverrides.Valid where
  owner := ⟨"slinky", rfl, by decide⟩
  providerOci := by
    rintro text ⟨⟩
    decide
  controllerImage := nofun
  localSlinky := by
    constructor
    · rintro text ⟨⟩
      decide
    · rintro text ⟨⟩
      decide
    · rintro reference ⟨⟩
      exact tagged_of_parts "registry:5000/slurm-operator" "dev" (by decide) (by decide) (by decide)
    · exact nofun
    · rintro name ⟨⟩
      decide
    · rintro port ⟨⟩
      decide
  azureBuild := by
    constructor
    · intro name member references found
      have here := Mapping.mem_of_lookup _ _ _ found
      obtain ⟨-, rfl⟩ := Prod.ext_iff.mp (List.mem_singleton.mp here)
      exact ⟨_, rfl, tagged_of_parts "workload.azurecr.io/slurm-operator" "dev" (by decide)
        (by decide) (by decide)⟩
    · exact nofun
    · exact nofun
    · intro name group found
      have here := Mapping.mem_of_lookup _ _ _ found
      obtain ⟨-, rfl⟩ := Prod.ext_iff.mp (List.mem_singleton.mp here)
      decide

theorem sharedClusters_covered : Covers sharedOverrides.azureBuild sharedClusters := by
  intro name cluster member
  simp only [sharedClusters, List.mem_cons, Prod.mk.injEq, reduceCtorEq, and_false, false_or,
    List.not_mem_nil, or_false] at member
  rw [member.1]
  exact ⟨⟨_, rfl⟩, _, rfl⟩

theorem shared_clusters_overridden :
    ∃ overridden result, (∀ order : List Merge, order.Perm Merge.all →
        sharedOverrides.runAll order (initStackCopies.copy sharedClusters) = .ok overridden) ∧
      initStackCopies.validate overridden = some result :=
  (override_pipeline_sound sharedOverrides sharedOverrides_valid sharedClusters
    sharedClusters_covered).1

end ClusterApiForSlinky.OverridePipeline
