import ClusterApiForSlinky.ConfigHandoff
import ClusterApiForSlinky.OrderedMapping

/-!
What `model_copy` leaves of the init stack configuration. A copy holds whatever
it was updated with: no validator runs, so a text of a copy may be any text.
`validate` runs the validators of the fields that a copy may have updated and of
the models that hold them; the other fields keep their checked types.
-/

namespace ClusterApiForSlinky.ConfigCopies
open ModelCodec ControlPlaneConfig WorkloadConfig RegistrySetting ConfigHandoff

/-- A model, its unvalidated copies and the validators that tell them apart. -/
structure Copies (Model Copy : Type) where
  copy : Model → Copy
  validate : Copy → Option Model
  exact : ∀ held model, validate held = some model ↔ copy model = held

namespace Copies

variable {Model Copy Name : Type} (copies : Copies Model Copy)

def Valid (held : Copy) : Prop := ∃ model, copies.copy model = held

theorem valid_copy (model : Model) : copies.Valid (copies.copy model) := ⟨model, rfl⟩

theorem validate_copy (model : Model) : copies.validate (copies.copy model) = some model :=
  (copies.exact _ _).mpr rfl

def optional : Copies (Option Model) (Option Copy) where
  copy model := model.map copies.copy
  validate held := match held with
    | none => some none
    | some held => (copies.validate held).map some
  exact held model := by
    cases held with
    | none => cases model <;> simp
    | some held => cases model <;> simp [copies.exact]

def check (held : Copy) : Except Unit Model :=
  match copies.validate held with
  | some model => .ok model
  | none => .error ()

theorem check_eq_ok (held : Copy) (model : Model) :
    copies.check held = .ok model ↔ copies.copy model = held := by
  rw [← copies.exact, check]
  cases copies.validate held <;> simp

theorem traverseEntries_check (entries : List (Name × Copy)) (models : List (Name × Model)) :
    Mapping.traverseEntries copies.check entries = .ok models ↔
      models.map (fun entry => (entry.1, copies.copy entry.2)) = entries := by
  induction entries generalizing models with
  | nil =>
      simp only [Mapping.traverseEntries, Except.ok.injEq, List.map_eq_nil_iff]
      exact eq_comm
  | cons entry rest ih =>
      constructor
      · intro done
        obtain ⟨model, others, mine, later, rfl⟩ :=
          Mapping.traverseEntries_cons copies.check entry.1 entry.2 rest models done
        rw [List.map_cons, (ih others).mp later, (copies.check_eq_ok _ _).mp mine]
      · intro same
        obtain ⟨first, others, rfl, rfl, later⟩ := List.map_eq_cons_iff.mp same
        simp only [Mapping.traverseEntries, (copies.check_eq_ok _ _).mpr rfl, (ih others).mpr later]

def mapping : Copies (Mapping Name Model) (Mapping Name Copy) where
  copy models := models.mapValues copies.copy
  validate held := (held.traverse copies.check).toOption
  exact held models := by
    have reads : held.traverse copies.check = .ok models ↔
        models.mapValues copies.copy = held := by
      rw [Mapping.traverse_eq_ok, traverseEntries_check]
      exact ⟨Mapping.eq_of_entries (models.mapValues copies.copy) held, congrArg Mapping.entries⟩
    rw [← reads]
    cases held.traverse copies.check <;> simp [Except.toOption]

/-- A dictionary is valid when each of its values is. -/
theorem valid_mapping (held : Mapping Name Copy)
    (valid : ∀ entry ∈ held.entries, copies.Valid entry.2) : copies.mapping.Valid held := by
  have built : ∀ entries : List (Name × Copy), (∀ entry ∈ entries, copies.Valid entry.2) →
      ∃ models : List (Name × Model),
        models.map (fun entry => (entry.1, copies.copy entry.2)) = entries := by
    intro entries valid
    induction entries with
    | nil => exact ⟨[], rfl⟩
    | cons entry rest ih =>
        obtain ⟨⟨model, mine⟩, later⟩ := List.forall_mem_cons.mp valid
        obtain ⟨models, others⟩ := ih later
        exact ⟨(entry.1, model) :: models, by rw [List.map_cons, mine, others]⟩
  obtain ⟨models, same⟩ := built held.entries valid
  have unique : (models.map Prod.fst).Nodup := by
    have named : models.map Prod.fst = held.keys := by
      simp [Mapping.keys, ← same, Function.comp_def]
    rw [named]
    exact held.unique
  exact ⟨⟨models, unique⟩, Mapping.eq_of_entries _ _ same⟩

end Copies

/-- A non-empty text. -/
def textCopies : Copies NonEmptyStr String where
  copy model := model.text
  validate held := Constrained.check _ held
  exact held model := Constrained.check_eq_some _ held model

theorem valid_text (held : String) : textCopies.Valid held ↔ held ≠ "" := by
  constructor
  · rintro ⟨model, rfl⟩
    exact of_decide_eq_true model.accepted
  · intro nonempty
    exact ⟨⟨held, decide_eq_true nonempty⟩, rfl⟩

theorem valid_optional {Model Copy : Type} (copies : Copies Model Copy) (held : Option Copy)
    (valid : ∀ given, held = some given → copies.Valid given) : copies.optional.Valid held := by
  cases held with
  | none => exact ⟨none, rfl⟩
  | some held =>
      obtain ⟨model, rfl⟩ := valid held rfl
      exact ⟨some model, rfl⟩

def NonEmpty (given : Option String) : Prop := ∀ text, given = some text → text ≠ ""

theorem valid_optionalText (held : Option String) :
    textCopies.optional.Valid held ↔ NonEmpty held := by
  constructor
  · rintro ⟨model, rfl⟩ given found
    obtain ⟨checked, -, rfl⟩ := Option.map_eq_some_iff.mp found
    exact (valid_text _).mp ⟨checked, rfl⟩
  · intro nonempty
    exact valid_optional textCopies held
      (fun given found => (valid_text given).mpr (nonempty given found))

/-! Slinky. -/

structure SlinkyCopy where
  chartOciPrefix : String
  chartPlainHttp : Bool
  operatorCrdsChartVersion : String
  operatorChartVersion : String
  slurmChartVersion : String
  operatorImage : Option SlinkyImageConfig
  webhookImage : Option SlinkyImageConfig
  imagePullSecrets : List NonEmptyStr
  deriving DecidableEq

def slinkyCopy (config : SlinkyDeploymentConfig) : SlinkyCopy where
  chartOciPrefix := config.chartOciPrefix.text
  chartPlainHttp := config.chartPlainHttp
  operatorCrdsChartVersion := config.operatorCrdsChartVersion.text
  operatorChartVersion := config.operatorChartVersion.text
  slurmChartVersion := config.slurmChartVersion.text
  operatorImage := config.operatorImage
  webhookImage := config.webhookImage
  imagePullSecrets := config.imagePullSecrets

/-- The types of five fields and `validate_chart_source`. -/
def validateSlinky (held : SlinkyCopy) : Option SlinkyDeploymentConfig := do
  let chartOciPrefix ← textCopies.validate held.chartOciPrefix
  let operatorCrdsChartVersion ← textCopies.validate held.operatorCrdsChartVersion
  let operatorChartVersion ← textCopies.validate held.operatorChartVersion
  let slurmChartVersion ← textCopies.validate held.slurmChartVersion
  slinkyShape.build (((((((((), chartOciPrefix), held.chartPlainHttp), operatorCrdsChartVersion),
    operatorChartVersion), slurmChartVersion), held.operatorImage), held.webhookImage),
    held.imagePullSecrets)

def slinkyCopies : Copies SlinkyDeploymentConfig SlinkyCopy where
  copy := slinkyCopy
  validate := validateSlinky
  exact held model := by
    simp only [validateSlinky, Option.bind_eq_bind, Option.bind_eq_some_iff, textCopies.exact]
    constructor
    · rintro ⟨chartOciPrefix, same, crds, sameCrds, operator, sameOperator, slurm, sameSlurm, built⟩
      have read := slinkyShape.reads _ _ built
      cases model
      cases held
      simp only [slinkyShape, Prod.mk.injEq] at read
      simp_all [slinkyCopy, textCopies]
    · rintro rfl
      exact ⟨_, rfl, _, rfl, _, rfl, _, rfl, slinkyShape.rebuild model⟩

/-- What the validators of a Slinky deployment refuse. -/
structure SlinkyValid (held : SlinkyCopy) : Prop where
  chartOciPrefix : held.chartOciPrefix ≠ ""
  operatorCrdsChartVersion : held.operatorCrdsChartVersion ≠ ""
  operatorChartVersion : held.operatorChartVersion ≠ ""
  slurmChartVersion : held.slurmChartVersion ≠ ""
  chartSource : held.chartPlainHttp = true → Text.startsWith held.chartOciPrefix "oci://" = true

theorem valid_slinky (held : SlinkyCopy) : slinkyCopies.Valid held ↔ SlinkyValid held := by
  constructor
  · rintro ⟨config, rfl⟩
    constructor
    · exact (valid_text _).mp ⟨config.chartOciPrefix, rfl⟩
    · exact (valid_text _).mp ⟨config.operatorCrdsChartVersion, rfl⟩
    · exact (valid_text _).mp ⟨config.operatorChartVersion, rfl⟩
    · exact (valid_text _).mp ⟨config.slurmChartVersion, rfl⟩
    · exact config.oci
  · intro valid
    obtain ⟨chartOciPrefix, first⟩ := (valid_text _).mpr valid.chartOciPrefix
    obtain ⟨crds, second⟩ := (valid_text _).mpr valid.operatorCrdsChartVersion
    obtain ⟨operator, third⟩ := (valid_text _).mpr valid.operatorChartVersion
    obtain ⟨slurm, fourth⟩ := (valid_text _).mpr valid.slurmChartVersion
    have source := valid.chartSource
    rw [← first] at source
    refine ⟨{ chartOciPrefix, chartPlainHttp := held.chartPlainHttp
              operatorCrdsChartVersion := crds, operatorChartVersion := operator
              slurmChartVersion := slurm, operatorImage := held.operatorImage
              webhookImage := held.webhookImage, imagePullSecrets := held.imagePullSecrets
              oci := source }, ?_⟩
    cases held
    cases first
    cases second
    cases third
    cases fourth
    rfl

/-! Azure provider. -/

structure AzureProviderCopy where
  enabled : Bool
  providerOci : Option String
  controllerImage : Option String
  identity : Option AzureClusterIdentityConfig
  defaultSubscriptionId : Option UUID
  defaultLocation : Option NonEmptyStr
  defaultResourceGroup : Option NonEmptyStr
  deriving DecidableEq

def azureProviderCopy (config : AzureInfrastructureProviderConfig) : AzureProviderCopy where
  enabled := config.enabled
  providerOci := textCopies.optional.copy config.providerOci
  controllerImage := textCopies.optional.copy config.controllerImage
  identity := config.identity
  defaultSubscriptionId := config.defaultSubscriptionId
  defaultLocation := config.defaultLocation
  defaultResourceGroup := config.defaultResourceGroup

def validateAzureProvider (held : AzureProviderCopy) :
    Option AzureInfrastructureProviderConfig := do
  let providerOci ← textCopies.optional.validate held.providerOci
  let controllerImage ← textCopies.optional.validate held.controllerImage
  return { enabled := held.enabled, providerOci, controllerImage, identity := held.identity
           defaultSubscriptionId := held.defaultSubscriptionId
           defaultLocation := held.defaultLocation
           defaultResourceGroup := held.defaultResourceGroup }

def azureProviderCopies : Copies AzureInfrastructureProviderConfig AzureProviderCopy where
  copy := azureProviderCopy
  validate := validateAzureProvider
  exact held model := by
    simp only [validateAzureProvider, Option.bind_eq_bind, Option.bind_eq_some_iff,
      textCopies.optional.exact]
    constructor
    · rintro ⟨providerOci, same, controllerImage, sameImage, built⟩
      cases built
      simp only [azureProviderCopy, same, sameImage]
    · rintro rfl
      exact ⟨_, rfl, _, rfl, rfl⟩

theorem valid_azureProvider (held : AzureProviderCopy) :
    azureProviderCopies.Valid held ↔ NonEmpty held.providerOci ∧ NonEmpty held.controllerImage := by
  constructor
  · rintro ⟨config, rfl⟩
    constructor
    · exact (valid_optionalText _).mp ⟨config.providerOci, rfl⟩
    · exact (valid_optionalText _).mp ⟨config.controllerImage, rfl⟩
  · rintro ⟨provider, image⟩
    obtain ⟨providerOci, first⟩ := (valid_optionalText _).mpr provider
    obtain ⟨controllerImage, second⟩ := (valid_optionalText _).mpr image
    refine ⟨{ enabled := held.enabled, providerOci, controllerImage, identity := held.identity
              defaultSubscriptionId := held.defaultSubscriptionId
              defaultLocation := held.defaultLocation
              defaultResourceGroup := held.defaultResourceGroup }, ?_⟩
    show azureProviderCopy _ = held
    simp only [azureProviderCopy, first, second]

/-! Workload clusters. -/

structure AKSParametersCopy where
  subscriptionId : UUID
  location : NonEmptyStr
  resourceGroup : Option String
  useDiscoveredResourceGroup : Bool
  additionalTags : Tags
  aks : AKSWorkloadSizingConfig
  deriving DecidableEq

def aksParametersCopy (config : AzureWorkloadSpec) : AKSParametersCopy where
  subscriptionId := config.subscriptionId
  location := config.location
  resourceGroup := textCopies.optional.copy config.resourceGroup
  useDiscoveredResourceGroup := config.useDiscoveredResourceGroup
  additionalTags := config.additionalTags
  aks := config.aks

def aksParametersCopies : Copies AzureWorkloadSpec AKSParametersCopy where
  copy := aksParametersCopy
  validate held := (textCopies.optional.validate held.resourceGroup).map (fun resourceGroup =>
    { subscriptionId := held.subscriptionId, location := held.location, resourceGroup
      useDiscoveredResourceGroup := held.useDiscoveredResourceGroup
      additionalTags := held.additionalTags, aks := held.aks })
  exact held model := by
    rw [Option.map_eq_some_iff]
    constructor
    · rintro ⟨resourceGroup, same, rfl⟩
      rw [textCopies.optional.exact] at same
      simp only [aksParametersCopy, same]
    · rintro rfl
      exact ⟨_, textCopies.optional.validate_copy _, rfl⟩

structure AKSClusterCopy where
  parameters : AKSParametersCopy
  slinky : SlinkyCopy
  acr : Option AzureContainerRegistryConfig
  identities : Option AKSIdentityConfig
  deriving DecidableEq

structure AzureBYOClusterCopy where
  parameters : AzureBYOWorkloadSpec
  slinky : SlinkyCopy
  acr : Option AzureContainerRegistryConfig
  deriving DecidableEq

structure LocalClusterCopy where
  registry : Option LocalPortRegistrySetting
  customRegistry : Option LocalCustomRegistrySetting
  registryRoutes : RegistryRoutes
  slinky : SlinkyCopy
  deriving DecidableEq

inductive WorkloadClusterCopy where
  | azureBYO (held : AzureBYOClusterCopy)
  | aks (held : AKSClusterCopy)
  | localClass (held : LocalClusterCopy)
  deriving DecidableEq

def localClusterCopy (config : LocalWorkloadClusterConfig) : LocalClusterCopy where
  registry := config.registry
  customRegistry := config.customRegistry
  registryRoutes := config.registryRoutes
  slinky := slinkyCopies.copy config.slinky

def workloadClusterCopy : WorkloadClusterConfig → WorkloadClusterCopy
  | .azureBYO config => .azureBYO
      { parameters := config.parameters, slinky := slinkyCopies.copy config.slinky
        acr := config.acr }
  | .aks config => .aks
      { parameters := aksParametersCopies.copy config.parameters
        slinky := slinkyCopies.copy config.slinky, acr := config.acr, identities := config.identities }
  | .localClass config => .localClass (localClusterCopy config)

def validateWorkloadCluster : WorkloadClusterCopy → Option WorkloadClusterConfig
  | .azureBYO held => (slinkyCopies.validate held.slinky).map (fun slinky =>
      .azureBYO { parameters := held.parameters, slinky, acr := held.acr })
  | .aks held => (aksParametersCopies.validate held.parameters).bind (fun parameters =>
      (slinkyCopies.validate held.slinky).map (fun slinky =>
        .aks { parameters, slinky, acr := held.acr, identities := held.identities }))
  | .localClass held => (slinkyCopies.validate held.slinky).map (fun slinky =>
      .localClass { registry := held.registry, customRegistry := held.customRegistry
                    registryRoutes := held.registryRoutes, slinky })

def workloadClusterCopies : Copies WorkloadClusterConfig WorkloadClusterCopy where
  copy := workloadClusterCopy
  validate := validateWorkloadCluster
  exact held model := by
    constructor
    · intro validated
      cases held with
      | azureBYO held =>
          obtain ⟨config, same, rfl⟩ := Option.map_eq_some_iff.mp validated
          simp only [workloadClusterCopy, (slinkyCopies.exact _ _).mp same]
      | aks held =>
          obtain ⟨parameters, first, validated⟩ := Option.bind_eq_some_iff.mp validated
          obtain ⟨config, same, rfl⟩ := Option.map_eq_some_iff.mp validated
          simp only [workloadClusterCopy, (slinkyCopies.exact _ _).mp same,
            (aksParametersCopies.exact _ _).mp first]
      | localClass held =>
          obtain ⟨config, same, rfl⟩ := Option.map_eq_some_iff.mp validated
          simp only [workloadClusterCopy, localClusterCopy, (slinkyCopies.exact _ _).mp same]
    · rintro rfl
      cases model <;>
        simp only [workloadClusterCopy, localClusterCopy, validateWorkloadCluster, Copies.validate_copy,
          Option.map_some, Option.bind_some]

/-- What the validators of a workload cluster refuse. -/
def ClusterValid : WorkloadClusterCopy → Prop
  | .azureBYO held => SlinkyValid held.slinky
  | .aks held => NonEmpty held.parameters.resourceGroup ∧ SlinkyValid held.slinky
  | .localClass held => SlinkyValid held.slinky

theorem valid_workloadCluster (held : WorkloadClusterCopy) :
    workloadClusterCopies.Valid held ↔ ClusterValid held := by
  constructor
  · rintro ⟨config, rfl⟩
    cases config with
    | azureBYO config => exact (valid_slinky _).mp ⟨config.slinky, rfl⟩
    | aks config =>
        constructor
        · exact (valid_optionalText _).mp ⟨config.parameters.resourceGroup, rfl⟩
        · exact (valid_slinky _).mp ⟨config.slinky, rfl⟩
    | localClass config => exact (valid_slinky _).mp ⟨config.slinky, rfl⟩
  · intro valid
    cases held with
    | azureBYO held =>
        obtain ⟨deployment, same⟩ := (valid_slinky _).mpr valid
        refine ⟨.azureBYO { parameters := held.parameters, slinky := deployment
                            acr := held.acr }, ?_⟩
        simp only [workloadClusterCopies, workloadClusterCopy, same]
    | aks held =>
        obtain ⟨deployment, same⟩ := (valid_slinky _).mpr valid.2
        obtain ⟨resourceGroup, group⟩ := (valid_optionalText _).mpr valid.1
        refine ⟨.aks { parameters :=
                         { subscriptionId := held.parameters.subscriptionId
                           location := held.parameters.location, resourceGroup
                           useDiscoveredResourceGroup := held.parameters.useDiscoveredResourceGroup
                           additionalTags := held.parameters.additionalTags
                           aks := held.parameters.aks }
                       slinky := deployment, acr := held.acr, identities := held.identities }, ?_⟩
        simp only [workloadClusterCopies, workloadClusterCopy, same, aksParametersCopies,
          aksParametersCopy, group]
    | localClass held =>
        obtain ⟨deployment, same⟩ := (valid_slinky _).mpr valid
        refine ⟨.localClass { registry := held.registry, customRegistry := held.customRegistry
                              registryRoutes := held.registryRoutes, slinky := deployment }, ?_⟩
        simp only [workloadClusterCopies, workloadClusterCopy, localClusterCopy, same]

/-! The whole configuration. -/

structure ProvidersCopy where
  docker : Option InfrastructureProviderConfig
  azure : Option AzureProviderCopy
  deriving DecidableEq

structure ControlPlaneCopy where
  infrastructureProviders : ProvidersCopy
  deployments : ControlPlaneDeploymentsConfig
  deriving DecidableEq

structure TenantsCopy where
  workloadClusters : Mapping TenantObjects.DnsLabel WorkloadClusterCopy
  deriving DecidableEq

structure InitStackCopy where
  controlPlane : ControlPlaneCopy
  tenants : TenantsCopy
  deriving DecidableEq

def initStackCopy (config : InitStackConfig) : InitStackCopy where
  controlPlane :=
    { infrastructureProviders :=
        { docker := config.controlPlane.infrastructureProviders.docker
          azure := azureProviderCopies.optional.copy
            config.controlPlane.infrastructureProviders.azure }
      deployments := config.controlPlane.deployments }
  tenants :=
    { workloadClusters := workloadClusterCopies.mapping.copy config.tenants.workloadClusters }

def validateInitStack (held : InitStackCopy) : Option InitStackConfig := do
  let azure ← azureProviderCopies.optional.validate held.controlPlane.infrastructureProviders.azure
  let workloadClusters ← workloadClusterCopies.mapping.validate held.tenants.workloadClusters
  return { controlPlane :=
             { infrastructureProviders :=
                 { docker := held.controlPlane.infrastructureProviders.docker, azure }
               deployments := held.controlPlane.deployments }
           tenants := { workloadClusters } }

def initStackCopies : Copies InitStackConfig InitStackCopy where
  copy := initStackCopy
  validate := validateInitStack
  exact held model := by
    simp only [validateInitStack, Option.bind_eq_bind, Option.bind_eq_some_iff, Copies.exact]
    constructor
    · rintro ⟨azure, same, workloadClusters, sameClusters, built⟩
      cases built
      simp only [initStackCopy, same, sameClusters]
    · rintro rfl
      exact ⟨_, rfl, _, rfl, rfl⟩

/-- A copy is valid when its Azure provider and each of its clusters are. -/
theorem valid_initStack (held : InitStackCopy) :
    initStackCopies.Valid held ↔
      (∀ azure, held.controlPlane.infrastructureProviders.azure = some azure →
        azureProviderCopies.Valid azure) ∧
      ∀ entry ∈ held.tenants.workloadClusters.entries, workloadClusterCopies.Valid entry.2 := by
  constructor
  · rintro ⟨config, rfl⟩
    constructor
    · intro azure found
      obtain ⟨model, -, rfl⟩ := Option.map_eq_some_iff.mp found
      exact ⟨model, rfl⟩
    · intro entry member
      obtain ⟨model, -, same⟩ := (Mapping.mem_mapValues _ _ _).mp member
      exact ⟨model, same⟩
  · rintro ⟨provider, clusters⟩
    obtain ⟨azure, sameAzure⟩ := valid_optional azureProviderCopies _ provider
    obtain ⟨workloadClusters, sameClusters⟩ := workloadClusterCopies.valid_mapping _ clusters
    refine ⟨{ controlPlane :=
                { infrastructureProviders :=
                    { docker := held.controlPlane.infrastructureProviders.docker, azure }
                  deployments := held.controlPlane.deployments }
              tenants := { workloadClusters } }, ?_⟩
    show initStackCopy _ = held
    simp only [initStackCopy, sameAzure, sameClusters]

end ClusterApiForSlinky.ConfigCopies
