import ClusterApiForSlinky.LocalEnv

/-!
The control plane half of the init stack configuration:
stacks/control_plane/control_plane_config.py.
-/

namespace ClusterApiForSlinky.ControlPlaneConfig
open ModelCodec ConfigModel LocalEnv

abbrev text : Codec Environment (Option NonEmptyStr) := ConfigModel.optionalText

abbrev uuidText : Codec Environment (Option UUID) := uuid.optional solid_uuid

/-! Identities. -/

structure AllowedNamespacesConfig where
  list : Option (List NonEmptyStr) := none
  selector : Option (List (String × Json)) := none
  deriving DecidableEq

def allowedNamespacesFields : Fields Environment ((Unit × Option (List NonEmptyStr)) ×
    Option (List (String × Json))) :=
  Fields.nil
  |>.snoc (.static (key "list") (constrained.tuple.optional (solid_tuple _)) false none)
  |>.snoc (.static (key "selector") (object.optional solid_object) false none)

def allowedNamespacesShape : Shape AllowedNamespacesConfig
    ((Unit × Option (List NonEmptyStr)) × Option (List (String × Json))) where
  parts config := (((), config.list), config.selector)
  build := fun ((_, list), selector) => some { list, selector }
  rebuild _ := rfl
  reads := by
    rintro _ _ ⟨⟩
    rfl

def allowedNamespaces : Codec Environment AllowedNamespacesConfig :=
  (allowedNamespacesFields.codec (by decide)).shaped allowedNamespacesShape

theorem exact_allowedNamespaces : allowedNamespaces.Exact := by
  apply exact_shaped
  apply exact_codec
  apply_rules [exact_static_optional, exact_snoc, exact_nil, exact_constrained, exact_tuple,
    exact_object]

structure AzureClusterIdentityBaseConfig where
  clientId : Option UUID := none
  tenantId : Option UUID := none
  resourceId : Option NonEmptyStr := none
  allowedNamespaces : AllowedNamespacesConfig := {}
  deriving DecidableEq

abbrev IdentityParts := ((((Unit × Option UUID) × Option UUID) × Option NonEmptyStr) ×
  AllowedNamespacesConfig) × Unit

def identityShape : Shape AzureClusterIdentityBaseConfig IdentityParts where
  parts config := ((((((), config.clientId), config.tenantId), config.resourceId),
    config.allowedNamespaces), ())
  build := fun (((((_, clientId), tenantId), resourceId), allowedNamespaces), _) =>
    some { clientId, tenantId, resourceId, allowedNamespaces }
  rebuild _ := rfl
  reads := by
    rintro _ _ ⟨⟩
    rfl

/-- The default factory of `client_id`. -/
def discoverClientId (env : Environment) : Option (Option UUID) :=
  match discoverAzureCredentials env [.userAssignedMSI] none with
  | [] => none
  | credential :: _ => (UUID.parse credential.clientId).map some

/-- The default factory of `tenant_id`, which reads the client id before it. -/
def discoverTenantId (env : Environment) (clientId : Option UUID) : Option (Option UUID) :=
  match discoverAzureCredentials env [.userAssignedMSI] clientId with
  | [] => none
  | credential :: _ => (UUID.parse credential.tenantId).map some

def identityRest {Before : Type} (before : Fields Environment Before) (type : String) :
    Fields Environment (((Before × Option NonEmptyStr) × AllowedNamespacesConfig) × Unit) :=
  before
  |>.snoc (.static (key "resource_id") text false none)
  |>.snoc (.static (key "allowed_namespaces") allowedNamespaces false {})
  |>.snoc (.static (key "type") (tag type) true ())

def managedIds : Fields Environment ((Unit × Option UUID) × Option UUID) :=
  Fields.nil
  |>.snoc (.discovered (key "client_id") uuidText true discoverClientId)
  |>.snoc (.derived (key "tenant_id") uuidText (fun env before => discoverTenantId env before.2))

def workloadIds : Fields Environment ((Unit × Option UUID) × Option UUID) :=
  Fields.nil
  |>.snoc (.static (key "client_id") uuidText true none)
  |>.snoc (.static (key "tenant_id") uuidText true none)

def userAssignedMSI : Codec Environment AzureClusterIdentityBaseConfig :=
  ((identityRest managedIds "UserAssignedMSI").codec (by decide)).shaped identityShape

def workloadIdentity : Codec Environment AzureClusterIdentityBaseConfig :=
  ((identityRest workloadIds "WorkloadIdentity").codec (by decide)).shaped identityShape

theorem solid_userAssignedMSI : userAssignedMSI.Solid := solid_shaped _ _ (solid_codec _ _)

theorem solid_workloadIdentity : workloadIdentity.Solid := solid_shaped _ _ (solid_codec _ _)

inductive AzureClusterIdentityConfig where
  | userAssignedMSI (config : AzureClusterIdentityBaseConfig)
  | workloadIdentity (config : AzureClusterIdentityBaseConfig)
  deriving DecidableEq

def identityVariants : Shape AzureClusterIdentityConfig
    (AzureClusterIdentityBaseConfig ⊕ (AzureClusterIdentityBaseConfig ⊕ Empty)) where
  parts config := match config with
    | .userAssignedMSI config => .inl config
    | .workloadIdentity config => .inr (.inl config)
  build read := match read with
    | .inl config => some (.userAssignedMSI config)
    | .inr (.inl config) => some (.workloadIdentity config)
  rebuild config := by cases config <;> rfl
  reads := by
    rintro (config | config | ⟨⟨⟩⟩) _ ⟨⟩ <;> rfl

theorem tagged_identityRest {Before : Type} (ids : Fields Environment Before) (type : String)
    (apart : (identityRest ids type).keys.Pairwise Apart) :
    (identityRest ids type).Tagged (key "type") type := by
  intro mode outer parts entries encoded
  have away : ∀ other ∈ _, Apart other (key "type") := fun other member =>
    apart_symm _ _ ((List.pairwise_cons.mp apart).1 other member)
  have found : find entries (key "type") = some (.str type) :=
    Fields.find_encode_last _ (.static (key "type") (tag type) true ()) mode outer _ _ away rfl
      entries encoded
  simp only [tagOf, found]

theorem tagged_userAssignedMSI : userAssignedMSI.Tagged (key "type") "UserAssignedMSI" :=
  tagged_shaped (tagged_identityRest managedIds _ (by decide)) _ _

theorem tagged_workloadIdentity : workloadIdentity.Tagged (key "type") "WorkloadIdentity" :=
  tagged_shaped (tagged_identityRest workloadIds _ (by decide)) _ _

def identity : Codec Environment AzureClusterIdentityConfig :=
  (tagged (key "type") "UserAssignedMSI" userAssignedMSI
    (tagged (key "type") "WorkloadIdentity" workloadIdentity untagged tagged_workloadIdentity
      (untagged_untagged _ _))
    tagged_userAssignedMSI
    (untagged_tagged _ _ _ _ _ _ _ (by decide) (untagged_untagged _ _))).shaped identityVariants

theorem solid_identity : identity.Solid := by
  intro mode outer value
  cases value with
  | userAssignedMSI config => exact solid_userAssignedMSI mode outer config
  | workloadIdentity config => exact solid_workloadIdentity mode outer config

/-! Providers. -/

structure InfrastructureProviderConfig where
  enabled : Bool := false
  providerOci : Option NonEmptyStr := none
  controllerImage : Option NonEmptyStr := none
  deriving DecidableEq

abbrev ProviderParts := ((Unit × Bool) × Option NonEmptyStr) × Option NonEmptyStr

def providerFields : Fields Environment ProviderParts :=
  Fields.nil
  |>.snoc (.static (key "enabled") bool true false)
  |>.snoc (.static (key "provider_oci") text false none)
  |>.snoc (.static (key "controller_image") text false none)

def providerShape : Shape InfrastructureProviderConfig ProviderParts where
  parts config := ((((), config.enabled), config.providerOci), config.controllerImage)
  build := fun (((_, enabled), providerOci), controllerImage) =>
    some { enabled, providerOci, controllerImage }
  rebuild _ := rfl
  reads := by
    rintro _ _ ⟨⟩
    rfl

def dockerProvider : Codec Environment InfrastructureProviderConfig :=
  (providerFields.codec (by decide)).shaped providerShape

theorem solid_dockerProvider : dockerProvider.Solid := solid_shaped _ _ (solid_codec _ _)

structure AzureInfrastructureProviderConfig extends InfrastructureProviderConfig where
  identity : Option AzureClusterIdentityConfig := none
  defaultSubscriptionId : Option UUID := none
  defaultLocation : Option NonEmptyStr := none
  defaultResourceGroup : Option NonEmptyStr := none
  deriving DecidableEq

abbrev AzureParts := (((ProviderParts × Option AzureClusterIdentityConfig) × Option UUID) ×
  Option NonEmptyStr) × Option NonEmptyStr

def optionalText : Option String → Json
  | none => .null
  | some text => .str text

/-- `_discover_default_identity`: only one ambient credential may be found. -/
def discoverDefaultIdentity (env : Environment) (provider : ProviderParts) :
    Option (Option AzureClusterIdentityConfig) :=
  if provider.1.1.2 = false then some none
  else match discoverAzureCredentials env azureAmbientIdentityTypes none with
    | [credential] => (identity.decode env (.dict
        [("type", .str credential.type.text), ("clientId", .str credential.clientId),
          ("tenantId", .str credential.tenantId),
          ("resourceId", optionalText credential.resourceId)])).map some
    | _ => none

/-- `_discover_default_resource_placement`, and one text of what it finds. -/
def discoverDefaultPlacement {Value : Type} (env : Environment) (provider : ProviderParts)
    (choose : AzureResourcePlacement → Option Value) : Option (Option Value) :=
  if provider.1.1.2 = false then some none
  else (env.placement.bind choose).map some

def azureFields : Fields Environment AzureParts :=
  providerFields
  |>.snoc (.derived (key "identity") (identity.optional solid_identity) discoverDefaultIdentity)
  |>.snoc (.derived (key "default_subscription_id") uuidText (fun env before =>
      discoverDefaultPlacement env before.1 (fun found => UUID.parse found.subscriptionId.text)))
  |>.snoc (.derived (key "default_location") text (fun env before =>
      discoverDefaultPlacement env before.1.1 (fun found => some found.location)))
  |>.snoc (.derived (key "default_resource_group") text (fun env before =>
      discoverDefaultPlacement env before.1.1.1 (fun found => some found.resourceGroup)))

def azureShape : Shape AzureInfrastructureProviderConfig AzureParts where
  parts config := ((((providerShape.parts config.toInfrastructureProviderConfig, config.identity),
    config.defaultSubscriptionId), config.defaultLocation), config.defaultResourceGroup)
  build := fun (((((((_, enabled), providerOci), controllerImage), identity),
      defaultSubscriptionId), defaultLocation), defaultResourceGroup) =>
    some { enabled, providerOci, controllerImage, identity, defaultSubscriptionId,
           defaultLocation, defaultResourceGroup }
  rebuild _ := rfl
  reads := by
    rintro _ _ ⟨⟩
    rfl

def azureProvider : Codec Environment AzureInfrastructureProviderConfig :=
  (azureFields.codec (by decide)).shaped azureShape

theorem solid_azureProvider : azureProvider.Solid := solid_shaped _ _ (solid_codec _ _)

structure InfrastructureProvidersConfig where
  docker : Option InfrastructureProviderConfig := none
  azure : Option AzureInfrastructureProviderConfig := none
  deriving DecidableEq

abbrev ProvidersParts := (Unit × Option InfrastructureProviderConfig) ×
  Option AzureInfrastructureProviderConfig

def providersFields : Fields Environment ProvidersParts :=
  Fields.nil
  |>.snoc (.static (key "docker") (dockerProvider.optional solid_dockerProvider) false none)
  |>.snoc (.static (key "azure") (azureProvider.optional solid_azureProvider) false none)

def providersShape : Shape InfrastructureProvidersConfig ProvidersParts where
  parts config := (((), config.docker), config.azure)
  build := fun ((_, docker), azure) => some { docker, azure }
  rebuild _ := rfl
  reads := by
    rintro _ _ ⟨⟩
    rfl

def providers : Codec Environment InfrastructureProvidersConfig :=
  (providersFields.codec (by decide)).shaped providersShape

/-! Deployments. -/

structure ControlPlaneAWXConfig where
  enabled : Bool := false
  fluxSourceName : String := ""
  fluxSourceNamespace : String := ""
  deriving DecidableEq

abbrev AWXParts := ((Unit × Bool) × String) × String

def awxFields : Fields Environment AWXParts :=
  Fields.nil
  |>.snoc (.static (key "enabled") bool true false)
  |>.snoc (.static (key "flux_source_name") string false "")
  |>.snoc (.static (key "flux_source_namespace") string false "")

def awxShape : Shape ControlPlaneAWXConfig AWXParts where
  parts config := ((((), config.enabled), config.fluxSourceName), config.fluxSourceNamespace)
  build := fun (((_, enabled), fluxSourceName), fluxSourceNamespace) =>
    some { enabled, fluxSourceName, fluxSourceNamespace }
  rebuild _ := rfl
  reads := by
    rintro _ _ ⟨⟩
    rfl

def awx : Codec Environment ControlPlaneAWXConfig :=
  (awxFields.codec (by decide)).shaped awxShape

structure ControlPlaneDeploymentsConfig where
  awx : ControlPlaneAWXConfig := {}
  deriving DecidableEq

def deploymentsFields : Fields Environment (Unit × ControlPlaneAWXConfig) :=
  Fields.nil.snoc (.static (key "awx") awx false {})

def deploymentsShape : Shape ControlPlaneDeploymentsConfig (Unit × ControlPlaneAWXConfig) where
  parts config := ((), config.awx)
  build := fun (_, awx) => some { awx }
  rebuild _ := rfl
  reads := by
    rintro _ _ ⟨⟩
    rfl

def deployments : Codec Environment ControlPlaneDeploymentsConfig :=
  (deploymentsFields.codec (by decide)).shaped deploymentsShape

structure ControlPlaneKindConfig where
  infrastructureProviders : InfrastructureProvidersConfig := {}
  deployments : ControlPlaneDeploymentsConfig := {}
  deriving DecidableEq

abbrev ControlPlaneParts := (Unit × InfrastructureProvidersConfig) × ControlPlaneDeploymentsConfig

def controlPlaneFields : Fields Environment ControlPlaneParts :=
  Fields.nil
  |>.snoc (.static (key "infrastructure_providers") providers false {})
  |>.snoc (.static (key "deployments") deployments false {})

def controlPlaneShape : Shape ControlPlaneKindConfig ControlPlaneParts where
  parts config := (((), config.infrastructureProviders), config.deployments)
  build := fun ((_, infrastructureProviders), deployments) =>
    some { infrastructureProviders, deployments }
  rebuild _ := rfl
  reads := by
    rintro _ _ ⟨⟩
    rfl

def controlPlane : Codec Environment ControlPlaneKindConfig :=
  (controlPlaneFields.codec (by decide)).shaped controlPlaneShape

/-! What survives a handoff. -/

theorem exact_workloadIdentity : workloadIdentity.Exact := by
  apply exact_shaped
  apply exact_codec
  apply_rules [exact_static_optional, exact_static, exact_snoc, exact_nil, exact_constrained,
    exact_uuid, exact_allowedNamespaces, exact_tag]

theorem discoverClientId_some (env : Environment) : discoverClientId env ≠ some none := by
  unfold discoverClientId
  split
  · exact nofun
  · simp

theorem discoverTenantId_some (env : Environment) (clientId : Option UUID) :
    discoverTenantId env clientId ≠ some none := by
  unfold discoverTenantId
  split
  · exact nofun
  · simp

/-- Both ids of a managed identity are discovered again when they are `None`. -/
theorem keeps_userAssignedMSI (outer inner : Environment)
    (config : AzureClusterIdentityBaseConfig) :
    userAssignedMSI.Keeps outer inner config ↔
      config.clientId.isSome ∧ config.tenantId.isSome := by
  unfold userAssignedMSI
  rw [keeps_shaped, keeps_codec]
  dsimp only [identityShape]
  unfold identityRest managedIds
  rw [keeps_before _ _ (exact_static _ _ _ _ (fun _ => rfl) (exact_tag _)),
    keeps_before _ _ (exact_static _ _ _ _ (fun _ => rfl) exact_allowedNamespaces),
    keeps_before _ _ (exact_static_optional _ _ _ _ exact_constrained), keeps_snoc,
    keeps_last _ _ exact_nil, keeps_discovered _ _ _ _ (exact_optional _ _ exact_uuid),
    keeps_derived]
  refine and_congr ?_ ?_
  · cases config.clientId with
    | none => simp [Codec.optional, discoverClientId_some]
    | some clientId => simp [Codec.optional]
  · cases config.tenantId with
    | none => simp [discoverTenantId_some]
    | some tenantId => exact iff_of_true (exact_uuid.keeps outer inner tenantId) rfl

/-- A managed identity needs both of its ids; a workload identity needs nothing. -/
def identityKept : AzureClusterIdentityConfig → Prop
  | .userAssignedMSI config => config.clientId.isSome ∧ config.tenantId.isSome
  | .workloadIdentity _ => True

theorem keeps_identity (outer inner : Environment) (config : AzureClusterIdentityConfig) :
    identity.Keeps outer inner config ↔ identityKept config := by
  unfold identity
  rw [keeps_shaped]
  cases config with
  | userAssignedMSI config =>
      exact (keeps_tagged_inl _ _ _ _ _ _ _ _ _).trans (keeps_userAssignedMSI outer inner config)
  | workloadIdentity config =>
      refine Iff.trans (keeps_tagged_inr _ _ _ _ _ _ _ _ _) ?_
      refine Iff.trans (keeps_tagged_inl _ _ _ _ _ _ _ _ _) ?_
      exact iff_of_true (exact_workloadIdentity.keeps outer inner config) trivial

theorem discoverDefaultIdentity_none (env : Environment) (provider : ProviderParts) :
    discoverDefaultIdentity env provider = some none ↔ provider.1.1.2 = false := by
  unfold discoverDefaultIdentity
  split
  case isTrue off => exact iff_of_true rfl off
  case isFalse on =>
    refine iff_of_false ?_ on
    split
    · simp
    · exact nofun

theorem exact_providerFields : providerFields.Exact := by
  apply_rules [exact_static_optional, exact_static, exact_snoc, exact_nil, exact_constrained,
    exact_bool]

theorem exact_dockerProvider : dockerProvider.Exact :=
  exact_shaped _ _ (exact_codec _ _ exact_providerFields)

/-- A default of an enabled provider is discovered again when it is `None`. -/
theorem keeps_placement {Before Value : Type} (name : Key) (codec : Codec Environment Value)
    (solid : codec.Solid) (exact : codec.Exact) (provider : Before → ProviderParts)
    (choose : AzureResourcePlacement → Option Value) (outer inner : Environment)
    (before : Before) (value : Option Value) :
    (Field.derived name (codec.optional solid) (fun env before =>
      discoverDefaultPlacement env (provider before) choose)).Keeps outer inner before value ↔
      ((provider before).1.1.2 = true → value.isSome) := by
  rw [keeps_derived]
  cases value with
  | some value => exact iff_of_true (exact.keeps outer inner value) (fun _ => rfl)
  | none =>
      cases enabled : (provider before).1.1.2 with
      | false => simp [discoverDefaultPlacement, enabled]
      | true =>
          cases found : inner.placement.bind choose <;>
            simp [discoverDefaultPlacement, enabled, found]

theorem keeps_defaultIdentity (outer inner : Environment) (provider : ProviderParts)
    (value : Option AzureClusterIdentityConfig) :
    (Field.derived (key "identity") (identity.optional solid_identity)
      discoverDefaultIdentity).Keeps outer inner provider value ↔
      (∀ identity, value = some identity → identityKept identity) ∧
        (provider.1.1.2 = true → value.isSome) := by
  rw [keeps_derived]
  cases value with
  | some value => simpa using keeps_identity outer inner value
  | none => simpa using discoverDefaultIdentity_none inner provider

/-- What an Azure provider must give explicitly to survive. -/
structure ProviderKept (config : AzureInfrastructureProviderConfig) : Prop where
  identity : ∀ identity, config.identity = some identity → identityKept identity
  given : config.enabled = true → config.identity.isSome ∧ config.defaultSubscriptionId.isSome ∧
    config.defaultLocation.isSome ∧ config.defaultResourceGroup.isSome

theorem keeps_azureProvider (outer inner : Environment)
    (config : AzureInfrastructureProviderConfig) :
    azureProvider.Keeps outer inner config ↔ ProviderKept config := by
  unfold azureProvider
  rw [keeps_shaped, keeps_codec]
  dsimp only [azureShape, providerShape]
  unfold azureFields
  rw [keeps_snoc, keeps_snoc, keeps_snoc, keeps_last _ _ exact_providerFields,
    keeps_placement _ _ _ exact_constrained, keeps_placement _ _ _ exact_constrained,
    keeps_placement _ _ _ exact_uuid, keeps_defaultIdentity]
  constructor
  · rintro ⟨⟨⟨⟨kept, identity⟩, subscription⟩, location⟩, group⟩
    exact ⟨kept, fun on => ⟨identity on, subscription on, location on, group on⟩⟩
  · rintro ⟨kept, given⟩
    exact ⟨⟨⟨⟨kept, fun on => (given on).1⟩, fun on => (given on).2.1⟩,
      fun on => (given on).2.2.1⟩, fun on => (given on).2.2.2⟩

theorem keeps_providers (outer inner : Environment) (config : InfrastructureProvidersConfig) :
    providers.Keeps outer inner config ↔
      ∀ azure, config.azure = some azure → ProviderKept azure := by
  have exact_docker : (Fields.nil.snoc (.static (key "docker")
      (dockerProvider.optional solid_dockerProvider) false none) :
        Fields Environment (Unit × Option InfrastructureProviderConfig)).Exact := by
    apply_rules [exact_static_optional, exact_snoc, exact_nil, exact_dockerProvider]
  unfold providers
  rw [keeps_shaped, keeps_codec]
  dsimp only [providersShape]
  unfold providersFields
  rw [keeps_last _ _ exact_docker, keeps_static_optional]
  exact forall_congr' fun azure => imp_congr_right fun _ => keeps_azureProvider outer inner azure

theorem exact_deployments : deployments.Exact := by
  apply exact_shaped
  apply exact_codec
  apply_rules [exact_static, exact_snoc, exact_nil]
  apply exact_shaped
  apply exact_codec
  apply_rules [exact_static, exact_snoc, exact_nil, exact_bool, exact_string]

theorem exact_deploymentsField : (Field.static (key "deployments") deployments false {} :
    Field Environment (Unit × InfrastructureProvidersConfig) _).Exact :=
  exact_static _ _ _ _ (present_shaped _ _) exact_deployments

theorem keeps_noProviders (outer inner : Environment) : providers.Keeps outer inner {} := by
  rw [keeps_providers]
  intro azure found
  exact absurd found.symm (Option.some_ne_none azure)

theorem keeps_providersField (outer inner : Environment) (value : InfrastructureProvidersConfig) :
    (Field.static (key "infrastructure_providers") providers false {} :
      Field Environment Unit _).Keeps outer inner () value ↔
        ∀ azure, value.azure = some azure → ProviderKept azure := by
  have absents := present_absent providers (present_shaped _ _) {}
  rw [keeps_static _ _ _ _ absents _ _ (keeps_noProviders outer inner), keeps_providers]

theorem keeps_controlPlane (outer inner : Environment) (config : ControlPlaneKindConfig) :
    controlPlane.Keeps outer inner config ↔
      ∀ azure, config.infrastructureProviders.azure = some azure → ProviderKept azure := by
  unfold controlPlane
  rw [keeps_shaped, keeps_codec]
  dsimp only [controlPlaneShape]
  unfold controlPlaneFields
  rw [keeps_before _ _ exact_deploymentsField, keeps_last _ _ exact_nil, keeps_providersField]

/-! What is returned from two handoffs came unchanged through both. -/

theorem settles_userAssignedMSI : userAssignedMSI.Settles := by
  apply settles_shaped
  apply settles_codec
  apply settles_snoc
  · apply settles_snoc
    · apply settles_snoc
      · apply settles_snoc
        · apply settles_snoc
          · exact settles_nil
          · exact settles_discovered _ _ _ _ (exact_optional _ _ exact_uuid) (Or.inl rfl)
              (fun left right noLeft noRight => (optional_absent _ _ left noLeft).trans
                (optional_absent _ _ right noRight).symm)
        · exact settles_derived _ _ _ _ exact_uuid.settles
      · exact (exact_static_optional _ _ _ _ exact_constrained).settles
    · exact (exact_static _ _ _ _ (fun _ => rfl) exact_allowedNamespaces).settles
  · exact (exact_static _ _ _ _ (fun _ => rfl) (exact_tag _)).settles

theorem settles_identity : identity.Settles :=
  settles_shaped _ _ (settles_tagged _ _ _ _ _ _ settles_userAssignedMSI
    (settles_tagged _ _ _ _ _ _ exact_workloadIdentity.settles settles_untagged))

theorem settles_azureProvider : azureProvider.Settles := by
  apply settles_shaped
  apply settles_codec
  apply settles_snoc
  · apply settles_snoc
    · apply settles_snoc
      · exact settles_snoc _ _ exact_providerFields.settles
          (settles_derived _ _ _ _ settles_identity)
      · exact settles_derived _ _ _ _ exact_uuid.settles
    · exact settles_derived _ _ _ _ exact_constrained.settles
  · exact settles_derived _ _ _ _ exact_constrained.settles

theorem settles_providers : providers.Settles := by
  apply settles_shaped
  apply settles_codec
  apply settles_snoc
  · exact settles_snoc _ _ settles_nil
      (exact_static_optional _ _ _ _ exact_dockerProvider).settles
  · exact settles_static _ _ _ _ (optional_absent _ _) (settles_optional _ _ settles_azureProvider)

theorem settles_controlPlane : controlPlane.Settles := by
  apply settles_shaped
  apply settles_codec
  apply settles_snoc
  · exact settles_snoc _ _ settles_nil (settles_static _ _ _ _
      (present_absent _ (present_shaped _ _) _) settles_providers)
  · exact exact_deploymentsField.settles

end ClusterApiForSlinky.ControlPlaneConfig
