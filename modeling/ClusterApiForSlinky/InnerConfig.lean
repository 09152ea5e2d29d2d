import ClusterApiForSlinky.OverridePipeline

/-!
The configuration from the outer stack's builds to the inner stack. The outer
stack applies its overrides, `PKOBootstrap` names the Flux source (pko_bootstrap.py)
and hands the result over; the inner stack validates what arrives.
-/

namespace ClusterApiForSlinky.InnerConfig
open ModelCodec ConfigModel LocalEnv ControlPlaneConfig WorkloadConfig RegistrySetting
  ConfigHandoff ConfigCopies StackMerges OverridePipeline
open TenantObjects (DnsLabel)

structure FluxSource where
  sourceName : String
  namespaceName : String

/-- `merge_flux_source` of `_init_stack_config_with_flux_source` -/
def withFluxSource (flux : FluxSource) (config : InitStackCopy) : InitStackCopy :=
  if config.controlPlane.deployments.awx.enabled then
    { config with controlPlane := { config.controlPlane with deployments :=
        { config.controlPlane.deployments with awx :=
            { config.controlPlane.deployments.awx with
              fluxSourceName := flux.sourceName
              fluxSourceNamespace := flux.namespaceName } } } }
  else config

/-- What the Stack CR holds. A copy with a value that its model refuses does not
get past the validation of its dump. -/
def stackConfig (outer : Environment) (flux : FluxSource) (held : InitStackCopy) : Option Json :=
  (initStackCopies.validate (withFluxSource flux held)).bind (initStackConfigToConfig outer)

/-- The outer stack's overrides in a given order, and what the inner stack makes of it. -/
def innerConfig (outer inner : Environment) (overrides : Overrides) (order : List Merge)
    (flux : FluxSource) (config : InitStackConfig) : Option InitStackConfig :=
  match overrides.runAll order (initStackCopies.copy config) with
  | .ok held => (stackConfig outer flux held).bind (initStack.decode inner)
  | .error _ => none

/-! What the overrides leave to the inner stack, on copies. -/

/-- `ClusterKept`, read from a copy. -/
def CopyKept (outer inner : Environment) : WorkloadClusterCopy → Prop
  | .azureBYO held => LocationKept outer inner held.parameters.location
  | .aks _ => True
  | .localClass held => (∀ setting, held.registry = some setting → setting.port.value ≠ .null) ∧
      ∀ setting, held.customRegistry = some setting → setting.port.value ≠ .null

theorem copyKept_copy (outer inner : Environment) (config : WorkloadClusterConfig) :
    CopyKept outer inner (workloadClusterCopy config) ↔ ClusterKept outer inner config := by
  cases config with
  | azureBYO config => exact Iff.rfl
  | aks config => exact Iff.rfl
  | localClass config => exact Iff.rfl

/-- `ProviderKept`, read from a copy. -/
structure ProviderCopyKept (held : AzureProviderCopy) : Prop where
  identity : ∀ identity, held.identity = some identity → identityKept identity
  given : held.enabled = true → held.identity.isSome ∧ held.defaultSubscriptionId.isSome ∧
    held.defaultLocation.isSome ∧ held.defaultResourceGroup.isSome

theorem providerCopyKept_copy (config : AzureInfrastructureProviderConfig) :
    ProviderCopyKept (azureProviderCopy config) ↔ ProviderKept config :=
  ⟨fun kept => ⟨kept.identity, kept.given⟩, fun kept => ⟨kept.identity, kept.given⟩⟩

theorem providersKept_copy (config : InitStackConfig) :
    (∀ azure, (initStackCopies.copy config).controlPlane.infrastructureProviders.azure =
        some azure → ProviderCopyKept azure) ↔
      ∀ azure, config.controlPlane.infrastructureProviders.azure = some azure →
        ProviderKept azure := by
  constructor
  · intro kept azure found
    have copied := kept (azureProviderCopy azure) (by
      show azureProviderCopies.optional.copy _ = _
      rw [found]
      rfl)
    exact (providerCopyKept_copy azure).mp copied
  · intro kept azure found
    obtain ⟨model, here, rfl⟩ := Option.map_eq_some_iff.mp found
    exact (providerCopyKept_copy model).mpr (kept model here)

/-- `Kept`, read from a copy. -/
structure AllKept (outer inner : Environment) (held : InitStackCopy) : Prop where
  provider : ∀ azure, held.controlPlane.infrastructureProviders.azure = some azure →
    ProviderCopyKept azure
  clusters : ∀ entry ∈ held.tenants.workloadClusters.entries, CopyKept outer inner entry.2

theorem allKept_copy (outer inner : Environment) (config : InitStackConfig) :
    AllKept outer inner (initStackCopies.copy config) ↔ Kept outer inner config := by
  constructor
  · intro kept
    constructor
    · exact (providersKept_copy config).mp kept.provider
    · intro entry member
      have copied := kept.clusters (entry.1, workloadClusterCopy entry.2)
        ((Mapping.mem_mapValues _ _ _).mpr ⟨entry.2, member, rfl⟩)
      exact (copyKept_copy outer inner entry.2).mp copied
  · intro kept
    constructor
    · exact (providersKept_copy config).mpr kept.provider
    · intro entry member
      obtain ⟨model, here, same⟩ := (Mapping.mem_mapValues _ _ _).mp member
      rw [← same]
      exact (copyKept_copy outer inner model).mpr (kept.clusters (entry.1, model) here)

/-- The Flux source is none of the settings an environment fills in. -/
theorem allKept_withFluxSource (outer inner : Environment) (flux : FluxSource)
    (held : InitStackCopy) :
    AllKept outer inner (withFluxSource flux held) ↔ AllKept outer inner held := by
  unfold withFluxSource
  split
  · exact ⟨fun kept => ⟨kept.provider, kept.clusters⟩, fun kept => ⟨kept.provider, kept.clusters⟩⟩
  · exact Iff.rfl

theorem valid_withFluxSource (flux : FluxSource) (held : InitStackCopy)
    (checked : initStackCopies.Valid held) : initStackCopies.Valid (withFluxSource flux held) := by
  rw [valid_initStack] at checked ⊢
  unfold withFluxSource
  split
  · exact checked
  · exact checked

/-! The overrides, one after the other. -/

def patches (overrides : Overrides) (order : List Merge) (config : InitStackCopy) :
    InitStackCopy :=
  order.foldl (fun held merge => overrides.patch merge held) config

/-- All overrides of one cluster. -/
def clusterAfter (overrides : Overrides) (order : List Merge) (name : DnsLabel)
    (held : WorkloadClusterCopy) : WorkloadClusterCopy :=
  order.foldl (fun held merge => overrides.cluster name merge held) held

theorem clusters_patches (overrides : Overrides) (order : List Merge) (config : InitStackCopy) :
    (patches overrides order config).tenants.workloadClusters =
      config.tenants.workloadClusters.mapNamed (clusterAfter overrides order) := by
  induction order generalizing config with
  | nil => exact (Mapping.mapNamed_id _).symm
  | cons merge rest ih =>
      have later := ih (overrides.patch merge config)
      rw [show (overrides.patch merge config).tenants.workloadClusters =
        config.tenants.workloadClusters.mapNamed (fun name => overrides.cluster name merge) from rfl,
        Mapping.mapNamed_mapNamed] at later
      exact later

theorem provider_kept (overrides : Overrides) (merge : Merge) (azure : AzureProviderCopy) :
    ProviderCopyKept (overrides.provider merge azure) ↔ ProviderCopyKept azure := by
  cases merge with
  | capzProvider =>
      simp only [Overrides.provider]
      split
      · exact ⟨fun kept => ⟨kept.identity, kept.given⟩, fun kept => ⟨kept.identity, kept.given⟩⟩
      · exact Iff.rfl
  | ownerTag => exact Iff.rfl
  | localRegistry => exact Iff.rfl
  | localSlinky => exact Iff.rfl
  | azureBuild => exact Iff.rfl

theorem providers_patches (overrides : Overrides) (order : List Merge) (config : InitStackCopy) :
    (∀ azure, (patches overrides order config).controlPlane.infrastructureProviders.azure =
        some azure → ProviderCopyKept azure) ↔
      ∀ azure, config.controlPlane.infrastructureProviders.azure = some azure →
        ProviderCopyKept azure := by
  induction order generalizing config with
  | nil => exact Iff.rfl
  | cons merge rest ih =>
      apply (ih (overrides.patch merge config)).trans
      show (∀ azure, config.controlPlane.infrastructureProviders.azure.map
        (overrides.provider merge) = some azure → ProviderCopyKept azure) ↔ _
      cases config.controlPlane.infrastructureProviders.azure with
      | none => simp
      | some azure => simp [provider_kept]

/-! What has to be given for the inner stack to read the configuration back. -/

def customRegistryGiven (overrides : Overrides) : Prop :=
  overrides.localSlinky.registryName.isSome ∧ overrides.localSlinky.registryPort.isSome

/-- A cluster of the configuration arrives with the overrides applied. -/
def Delivered (outer inner : Environment) (overrides : Overrides) :
    WorkloadClusterConfig → Prop
  | .azureBYO config => LocationKept outer inner config.parameters.location
  | .aks _ => True
  | .localClass config => overrides.registry.port.value ≠ .null ∧
      (customRegistryGiven overrides ∨
        ∀ setting, config.customRegistry = some setting → setting.port.value ≠ .null)

/-- The setting that replaces a custom registry names its port. -/
theorem chosen_registry (overrides : Overrides) (valid : LocalValid overrides.localSlinky)
    (held : Option LocalCustomRegistrySetting) :
    (∀ setting, ((chosen (customRegistrySetting overrides.localSlinky.registryName
        overrides.localSlinky.registryPort)).or held) = some setting →
        setting.port.value ≠ .null) ↔
      customRegistryGiven overrides ∨
        ∀ setting, held = some setting → setting.port.value ≠ .null := by
  obtain ⟨setting, fine⟩ := customRegistrySetting_fine overrides.localSlinky valid
  unfold customRegistryGiven
  cases named : overrides.localSlinky.registryName with
  | none => simp [customRegistrySetting, chosen, Except.toOption]
  | some name =>
      cases ported : overrides.localSlinky.registryPort with
      | none => simp [customRegistrySetting, chosen, Except.toOption]
      | some port =>
          rw [named, ported] at fine
          cases made : StackOverrides.localCustomRegistrySetting name port with
          | error failure => simp [customRegistrySetting, made, Except.map] at fine
          | ok custom =>
              have value := (StackOverrides.localCustomRegistrySetting_ok name port custom made).2.1
              simp [customRegistrySetting, made, Except.map, chosen, Except.toOption, value]

theorem clusterAfter_kept (outer inner : Environment) (overrides : Overrides)
    (valid : overrides.Valid) (name : DnsLabel) (config : WorkloadClusterConfig) :
    CopyKept outer inner (clusterAfter overrides Merge.all name (workloadClusterCopy config)) ↔
      Delivered outer inner overrides config := by
  cases config with
  | azureBYO config => exact Iff.rfl
  | aks config => exact Iff.rfl
  | localClass config =>
      rw [Delivered, ← chosen_registry overrides valid.localSlinky]
      refine and_congr ?_ Iff.rfl
      constructor
      · exact fun kept => kept overrides.registry rfl
      · intro given setting same
        obtain rfl : overrides.registry = setting := Option.some.inj same
        exact given

/-- When the inner stack gets what the outer one was configured with, overrides included. -/
structure HandedOver (outer inner : Environment) (overrides : Overrides)
    (config : InitStackConfig) : Prop where
  provider : ∀ azure, config.controlPlane.infrastructureProviders.azure = some azure →
    ProviderKept azure
  clusters : ∀ entry ∈ config.tenants.workloadClusters.entries,
    Delivered outer inner overrides entry.2

theorem allKept_patches (outer inner : Environment) (overrides : Overrides)
    (valid : overrides.Valid) (config : InitStackConfig) :
    AllKept outer inner (patches overrides Merge.all (initStackCopies.copy config)) ↔
      HandedOver outer inner overrides config := by
  constructor
  · intro kept
    constructor
    · have before := (providers_patches overrides Merge.all _).mp kept.provider
      exact (providersKept_copy config).mp before
    · intro entry member
      have copied : (entry.1, workloadClusterCopy entry.2) ∈
          (initStackCopies.copy config).tenants.workloadClusters.entries :=
        (Mapping.mem_mapValues _ _ _).mpr ⟨entry.2, member, rfl⟩
      have after := kept.clusters (entry.1,
        clusterAfter overrides Merge.all entry.1 (workloadClusterCopy entry.2)) (by
          rw [clusters_patches]
          exact (Mapping.mem_mapNamed _ _ _).mpr ⟨_, copied, rfl⟩)
      exact (clusterAfter_kept outer inner overrides valid entry.1 entry.2).mp after
  · intro handed
    constructor
    · rw [providers_patches]
      exact (providersKept_copy config).mpr handed.provider
    · intro entry member
      rw [clusters_patches] at member
      obtain ⟨held, copied, same⟩ := (Mapping.mem_mapNamed _ _ _).mp member
      obtain ⟨model, here, copy⟩ := (Mapping.mem_mapValues _ _ _).mp copied
      rw [← same, ← show workloadClusterCopy model = held from copy]
      exact (clusterAfter_kept outer inner overrides valid entry.1 model).mpr
        (handed.clusters (entry.1, model) here)

/-- The inner stack validates exactly what the outer one was configured with, every override and
the Flux source included, when nothing in the original is left for an environment to fill in. -/
theorem inner_config_iff (outer inner : Environment) (overrides : Overrides)
    (valid : overrides.Valid) (order : List Merge) (all : order.Perm Merge.all)
    (flux : FluxSource) (config : InitStackConfig) (covers : Covers overrides.azureBuild config) :
    ∃ held result, overrides.runAll order (initStackCopies.copy config) = .ok held ∧
      initStackCopies.copy result = withFluxSource flux held ∧
      (innerConfig outer inner overrides order flux config = some result ↔
        HandedOver outer inner overrides config) := by
  have covered := coversCopy_copy overrides.azureBuild config covers
  have ran : overrides.runAll order (initStackCopies.copy config) =
      .ok (patches overrides Merge.all (initStackCopies.copy config)) := by
    rw [runAll_eq_patches overrides valid order _ covered,
      patches_of_perm overrides order Merge.all all]
    rfl
  obtain ⟨result, same⟩ := valid_withFluxSource flux _
    (valid_patches overrides valid Merge.all _ (initStackCopies.valid_copy config))
  refine ⟨_, result, ran, same, ?_⟩
  have checked := (initStackCopies.exact _ _).mpr same
  have handed : innerConfig outer inner overrides order flux config =
      handoff outer inner result := by
    simp only [innerConfig, ran, stackConfig, patches, checked]
    rfl
  rw [handed, handoff_eq, returned_iff, ← allKept_copy, same, allKept_withFluxSource]
  exact allKept_patches outer inner overrides valid config

/-- An Azure provider that leaves nothing to discover. -/
def givenProvider : AzureInfrastructureProviderConfig :=
  { enabled := true
    identity := some (.workloadIdentity {})
    defaultSubscriptionId := some UUID.nil
    defaultLocation := some eastus
    defaultResourceGroup := some ⟨"platform", by decide⟩ }

/-- `sharedClusters` under `givenProvider`. -/
def givenClusters : InitStackConfig :=
  { sharedClusters with
    controlPlane := { infrastructureProviders := { azure := some givenProvider } } }

theorem givenClusters_handed :
    HandedOver (hostAt eastus) (hostAt eastus) sharedOverrides givenClusters := by
  constructor
  · rintro azure ⟨⟩
    constructor
    · rintro identity ⟨⟩
      trivial
    · exact fun _ => ⟨rfl, rfl, rfl, rfl⟩
  · intro entry member
    simp only [givenClusters, sharedClusters, List.mem_cons, List.not_mem_nil, or_false] at member
    rcases member with rfl | rfl | rfl
    · exact ⟨by decide, Or.inl ⟨rfl, rfl⟩⟩
    · exact ⟨eastus, rfl, fun _ => rfl⟩
    · trivial

/-- On a host in eastus they all arrive, with their overrides. -/
theorem given_clusters_arrive :
    ∃ held result, sharedOverrides.runAll Merge.all (initStackCopies.copy givenClusters) =
        .ok held ∧
      initStackCopies.copy result = withFluxSource ⟨"gitops", "pulumi-kubernetes-operator"⟩ held ∧
      innerConfig (hostAt eastus) (hostAt eastus) sharedOverrides Merge.all
        ⟨"gitops", "pulumi-kubernetes-operator"⟩ givenClusters = some result := by
  obtain ⟨held, result, ran, same, arrives⟩ := inner_config_iff (hostAt eastus) (hostAt eastus)
    sharedOverrides sharedOverrides_valid Merge.all (List.Perm.refl _)
    ⟨"gitops", "pulumi-kubernetes-operator"⟩ givenClusters sharedClusters_covered
  exact ⟨held, result, ran, same, arrives.mpr givenClusters_handed⟩

end ClusterApiForSlinky.InnerConfig
