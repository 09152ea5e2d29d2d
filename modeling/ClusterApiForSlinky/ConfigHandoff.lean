import ClusterApiForSlinky.ControlPlaneConfig
import ClusterApiForSlinky.WorkloadConfig

/-!
The handoff of the init stack configuration. The outer stack dumps it, validates
the dump and dumps it once more into the Stack CR; the inner stack validates that
in its own environment.
-/

namespace ClusterApiForSlinky.ConfigHandoff
open ModelCodec ConfigModel LocalEnv RegistrySetting ControlPlaneConfig WorkloadConfig

structure InitStackConfig where
  controlPlane : ControlPlaneKindConfig := {}
  tenants : TenantsConfig := {}
  deriving DecidableEq

def initStackFields : Fields Environment ((Unit × ControlPlaneKindConfig) × TenantsConfig) :=
  Fields.nil
  |>.snoc (.static (key "control_plane") controlPlane false {})
  |>.snoc (.static (key "tenants") tenants false {})

def initStackShape : Shape InitStackConfig ((Unit × ControlPlaneKindConfig) × TenantsConfig) where
  parts config := (((), config.controlPlane), config.tenants)
  build := fun ((_, controlPlane), tenants) => some { controlPlane, tenants }
  rebuild _ := rfl
  reads := by
    rintro _ _ ⟨⟩
    rfl

def initStack : Codec Environment InitStackConfig :=
  (initStackFields.codec (by decide)).shaped initStackShape

def unresolvedConfig (outer : Environment) (config : InitStackConfig) : Option Json :=
  initStack.encode .byName outer config

def toConfig (outer : Environment) (config : InitStackConfig) : Option Json :=
  initStack.encode .byAlias outer config

/-- `_init_stack_config_to_config` -/
def initStackConfigToConfig (outer : Environment) (config : InitStackConfig) : Option Json :=
  ((unresolvedConfig outer config).bind (initStack.decode outer)).bind (toConfig outer)

/-- What `run` of the inner stack validates. -/
def handoff (outer inner : Environment) (config : InitStackConfig) : Option InitStackConfig :=
  (initStackConfigToConfig outer config).bind (initStack.decode inner)

theorem handoff_eq (outer inner : Environment) (config : InitStackConfig) :
    handoff outer inner config =
      (initStack.refresh outer outer config).bind (initStack.refresh outer inner) := by
  unfold handoff initStackConfigToConfig unresolvedConfig toConfig
  rw [initStack.law, Option.bind_assoc]
  apply congrArg
  funext fresh
  exact initStack.law .byAlias outer inner fresh

/-! What survives in a workload cluster. -/

/-- The outer host discovers a location; if it is the one of the cluster, which is
then left out, the inner host discovers it too. -/
def LocationKept (outer inner : Environment) (location : NonEmptyStr) : Prop :=
  ∃ found, discoverLocation outer = some found ∧
    (found = location → discoverLocation inner = some location)

theorem keeps_byoSpec (outer inner : Environment) (config : AzureBYOWorkloadSpec) :
    byoSpec.Keeps outer inner config ↔ LocationKept outer inner config.location := by
  unfold byoSpec
  rw [keeps_shaped, keeps_codec]
  dsimp only [byoSpecShape]
  unfold byoSpecFields
  -- the ten settings with a default of their own lose nothing
  rw [keeps_before, keeps_before, keeps_before, keeps_before, keeps_before, keeps_before,
    keeps_before, keeps_before, keeps_before, keeps_before]
  · unfold byoPlacementFields
    rw [keeps_last _ _ (exact_snoc _ _ exact_nil exact_subscriptionId),
      keeps_discovered _ _ _ _ exact_constrained]
    simp [constrained, leaf, LocationKept]
  all_goals apply_rules [exact_static_optional, exact_static, exact_constrained, exact_bool,
    exact_tuple, exact_tags, exact_positiveInt, exact_byoVNet]

theorem keeps_byoCluster (outer inner : Environment) (config : AzureBYOWorkloadClusterConfig) :
    byoCluster.Keeps outer inner config ↔
      LocationKept outer inner config.parameters.location := by
  unfold byoCluster
  rw [keeps_shaped, keeps_codec]
  dsimp only [byoClusterShape]
  unfold byoClusterFields
  rw [keeps_before _ _ exact_acrField, keeps_before _ _ exact_slinkyField,
    keeps_last _ _ (exact_classTag _), keeps_required]
  exact (and_iff_right (present_shaped _ _ _)).trans (keeps_byoSpec outer inner _)

/-- A setting that is given names its port. -/
def PortsGiven (config : LocalWorkloadClusterConfig) : Prop :=
  (∀ setting, config.registry = some setting → setting.port.value ≠ .null) ∧
    (∀ setting, config.customRegistry = some setting → setting.port.value ≠ .null)

theorem keeps_localCluster (outer inner : Environment) (config : LocalWorkloadClusterConfig) :
    localCluster.Keeps outer inner config ↔ PortsGiven config := by
  unfold localCluster
  rw [keeps_shaped, keeps_codec]
  dsimp only [localClusterShape]
  unfold localClusterFields localRegistryFields
  have routes : (Field.static (key "registry_routes") registryRoutes false {} :
      Field Environment LocalRegistryParts _).Exact :=
    exact_static _ _ _ _ (present_shaped _ _) exact_registryRoutes
  rw [keeps_before _ _ exact_slinkyField, keeps_before _ _ routes, keeps_snoc,
    keeps_last _ _ (exact_classTag _), keeps_static_optional, keeps_static_optional]
  simp only [keeps_localPort, keeps_customRegistry, PortsGiven]

/-- When the configuration of one workload cluster reaches the inner stack unchanged. -/
def ClusterKept (outer inner : Environment) : WorkloadClusterConfig → Prop
  | .azureBYO config => LocationKept outer inner config.parameters.location
  | .aks _ => True
  | .localClass config => PortsGiven config

theorem keeps_workloadCluster (outer inner : Environment) (config : WorkloadClusterConfig) :
    workloadCluster.Keeps outer inner config ↔ ClusterKept outer inner config := by
  unfold workloadCluster
  rw [keeps_shaped]
  cases config with
  | azureBYO config =>
      exact (keeps_tagged_inl _ _ _ _ _ _ _ _ _).trans (keeps_byoCluster outer inner config)
  | aks config =>
      apply (keeps_tagged_inr _ _ _ _ _ _ _ _ _).trans
      apply (keeps_tagged_inl _ _ _ _ _ _ _ _ _).trans
      exact iff_of_true (exact_aksCluster.keeps outer inner config) trivial
  | localClass config =>
      apply (keeps_tagged_inr _ _ _ _ _ _ _ _ _).trans
      apply (keeps_tagged_inr _ _ _ _ _ _ _ _ _).trans
      apply (keeps_tagged_inl _ _ _ _ _ _ _ _ _).trans
      exact keeps_localCluster outer inner config

theorem keeps_workloadClusters (outer inner : Environment) (clusters : WorkloadClusters) :
    workloadClusters.Keeps outer inner clusters ↔
      ∀ entry ∈ clusters.entries, ClusterKept outer inner entry.2 := by
  apply (keeps_shaped _ _ outer inner clusters).trans
  apply (keeps_entries _ _ outer inner clusters.entries).trans
  simp only [keeps_workloadCluster]

theorem keeps_defaultClusters (outer inner : Environment) :
    workloadClusters.Keeps outer inner defaultWorkloadClusters := by
  rw [keeps_workloadClusters]
  intro entry member
  rw [List.mem_singleton.mp member]
  constructor <;> exact nofun

theorem keeps_tenants (outer inner : Environment) (config : TenantsConfig) :
    tenants.Keeps outer inner config ↔
      ∀ entry ∈ config.workloadClusters.entries, ClusterKept outer inner entry.2 := by
  have absents := present_absent workloadClusters (present_shaped _ _) defaultWorkloadClusters
  unfold tenants
  rw [keeps_shaped, keeps_codec]
  dsimp only [tenantsShape]
  unfold tenantsFields
  rw [keeps_last _ _ exact_nil,
    keeps_static _ _ _ _ absents _ _ (keeps_defaultClusters outer inner), keeps_workloadClusters]

/-! What survives in the whole configuration. -/

/-- The settings that neither environment may fill in again. -/
structure Kept (outer inner : Environment) (config : InitStackConfig) : Prop where
  provider : ∀ azure, config.controlPlane.infrastructureProviders.azure = some azure →
    ProviderKept azure
  clusters : ∀ entry ∈ config.tenants.workloadClusters.entries, ClusterKept outer inner entry.2

theorem keeps_initStack (outer inner : Environment) (config : InitStackConfig) :
    initStack.Keeps outer inner config ↔ Kept outer inner config := by
  have noControlPlane : controlPlane.Keeps outer inner {} := by
    rw [keeps_controlPlane]
    intro azure found
    exact absurd found.symm (Option.some_ne_none azure)
  have noTenants : tenants.Keeps outer inner {} :=
    (keeps_tenants outer inner {}).mpr
      ((keeps_workloadClusters outer inner _).mp (keeps_defaultClusters outer inner))
  have controls := present_absent controlPlane (present_shaped _ _) {}
  have tenancies := present_absent tenants (present_shaped _ _) {}
  unfold initStack
  rw [keeps_shaped, keeps_codec]
  dsimp only [initStackShape]
  unfold initStackFields
  rw [keeps_snoc, keeps_last _ _ exact_nil,
    keeps_static _ _ _ _ controls _ _ noControlPlane, keeps_controlPlane,
    keeps_static _ _ _ _ tenancies _ _ noTenants, keeps_tenants]
  constructor
  · rintro ⟨provider, clusters⟩
    exact ⟨provider, clusters⟩
  · rintro ⟨provider, clusters⟩
    exact ⟨provider, clusters⟩

/-! The two validations do not undo each other's losses. -/

theorem settles_byoSpec : byoSpec.Settles := by
  apply settles_shaped
  apply settles_codec
  unfold byoSpecFields
  iterate 10 apply settles_before
  · apply settles_snoc
    · exact settles_before _ _ settles_nil exact_subscriptionId
    · exact settles_discovered _ _ _ _ exact_constrained (Or.inr fun _ => rfl)
        (fun _ _ absent _ => nomatch absent)
  all_goals apply_rules [exact_static_optional, exact_static, exact_constrained, exact_bool,
    exact_tuple, exact_tags, exact_positiveInt, exact_byoVNet]

theorem settles_byoCluster : byoCluster.Settles := by
  apply settles_shaped
  apply settles_codec
  apply settles_before
  · apply settles_before
    · exact settles_snoc _ _ (exact_classTag _).settles (settles_required _ _ settles_byoSpec)
    · exact exact_slinkyField
  · exact exact_acrField

theorem settles_localCluster : localCluster.Settles := by
  apply settles_shaped
  apply settles_codec
  apply settles_before
  · apply settles_before
    · apply settles_snoc
      · exact settles_snoc _ _ (exact_classTag _).settles (settles_static _ _ _ _
          (optional_absent _ _) (settles_optional _ _ settles_localPort))
      · exact settles_static _ _ _ _ (optional_absent _ _)
          (settles_optional _ _ settles_customRegistry)
    · exact exact_static _ _ _ _ (present_shaped _ _) exact_registryRoutes
  · exact exact_slinkyField

theorem settles_workloadCluster : workloadCluster.Settles := by
  apply settles_shaped
  apply settles_tagged _ _ _ _ _ _ settles_byoCluster
  apply settles_tagged _ _ _ _ _ _ exact_aksCluster.settles
  exact settles_tagged _ _ _ _ _ _ settles_localCluster settles_untagged

theorem settles_tenants : tenants.Settles := by
  apply settles_shaped
  apply settles_codec
  apply settles_snoc _ _ settles_nil
  apply settles_static _ _ _ _ (present_absent _ (present_shaped _ _) _)
  exact settles_shaped _ _ (settles_entries _ _ settles_workloadCluster)

theorem settles_initStack : initStack.Settles := by
  apply settles_shaped
  apply settles_codec
  apply settles_snoc
  · exact settles_snoc _ _ settles_nil
      (settles_static _ _ _ _ (present_absent _ (present_shaped _ _) _) settles_controlPlane)
  · exact settles_static _ _ _ _ (present_absent _ (present_shaped _ _) _) settles_tenants

/-- A location that was discovered is the only setting that the inner stack, but
not the outer one, can lose. -/
theorem kept_outer (outer inner : Environment) (config : InitStackConfig)
    (kept : Kept outer inner config) : Kept outer outer config := by
  constructor
  · exact kept.provider
  · intro entry member
    have survives := kept.clusters entry member
    cases same : entry.2 with
    | azureBYO config =>
        rw [same] at survives
        obtain ⟨found, held, -⟩ := survives
        exact ⟨found, held, fun same => same ▸ held⟩
    | aks config => trivial
    | localClass config => rwa [same] at survives

theorem returned_iff (outer inner : Environment) (config : InitStackConfig) :
    (initStack.refresh outer outer config).bind (initStack.refresh outer inner) = some config ↔
      Kept outer inner config := by
  apply (refresh_twice initStack settles_initStack outer inner config).trans
  rw [keeps_initStack, keeps_initStack]
  constructor
  · intro both
    exact both.2
  · intro kept
    exact ⟨kept_outer outer inner config kept, kept⟩

/-- The inner stack reads the configuration that the outer stack was given exactly
when nothing in it is left for an environment to fill in again. -/
theorem handoff_returns_iff (outer inner : Environment) (config : InitStackConfig) :
    handoff outer inner config = some config ↔ Kept outer inner config := by
  rw [handoff_eq]
  exact returned_iff outer inner config

def hostAt (location : NonEmptyStr) : Environment where
  placement := some ⟨⟨"00000000-0000-0000-0000-000000000000", by decide⟩, location,
    ⟨"group", by decide⟩⟩
  managedIdentity _ := none
  workloadIdentity := none

def eastus : NonEmptyStr := ⟨"eastus", by decide⟩
def westus : NonEmptyStr := ⟨"westus", by decide⟩

/-- An Azure BYO cluster placed in eastus. -/
def placedEast : InitStackConfig where
  tenants := { workloadClusters := { entries := [(⟨"byo", by decide⟩, .azureBYO
    (.at UUID.nil eastus))] } }

/-- Read on a host in westus, it moves there. -/
theorem explicit_location_moves :
    ¬ ∀ outer inner config, handoff outer inner config = some config := by
  intro always
  have returned := always (hostAt eastus) (hostAt westus) placedEast
  rw [handoff_eq] at returned
  have kept := (returned_iff _ _ _).mp returned
  obtain ⟨found, held, stays⟩ := kept.clusters _ List.mem_cons_self
  have same : found = eastus := (Option.some.inj held).symm
  exact absurd (stays same) (by decide)

end ClusterApiForSlinky.ConfigHandoff
