import ClusterApiForSlinky.RegistrySetting
import ClusterApiForSlinky.TenantObjects

/-!
The workload half of the init stack configuration: the three workload cluster
classes of stacks/workload_cluster and the tenants that name them.
-/

namespace ClusterApiForSlinky.WorkloadConfig
open ModelCodec ConfigModel LocalEnv RegistrySetting

abbrev text : Codec Environment NonEmptyStr := constrained

/-! Slinky. -/

structure SlinkyImageConfig where
  repository : NonEmptyStr
  tag : Option NonEmptyStr := none
  digest : Option NonEmptyStr := none
  exactlyOne : tag.isNone ≠ digest.isNone
  deriving DecidableEq

abbrev SlinkyImageParts := ((Unit × NonEmptyStr) × Option NonEmptyStr) × Option NonEmptyStr

def slinkyImageFields : Fields Environment SlinkyImageParts :=
  Fields.nil
  |>.snoc (.required (key "repository") text)
  |>.snoc (.static (key "tag") optionalText false none)
  |>.snoc (.static (key "digest") optionalText false none)

def slinkyImageShape : Shape SlinkyImageConfig SlinkyImageParts where
  parts config := ((((), config.repository), config.tag), config.digest)
  build := fun (((_, repository), tag), digest) =>
    if exactlyOne : tag.isNone ≠ digest.isNone then some { repository, tag, digest, exactlyOne }
    else none
  rebuild config := by simp [config.exactlyOne]
  reads := by
    rintro ⟨⟨⟨⟨⟩, repository⟩, tag⟩, digest⟩ config built
    simp only [Option.dite_none_right_eq_some, Option.some.injEq] at built
    obtain ⟨_, rfl⟩ := built
    rfl

def slinkyImage : Codec Environment SlinkyImageConfig :=
  (slinkyImageFields.codec (by decide)).shaped slinkyImageShape

theorem solid_slinkyImage : slinkyImage.Solid := solid_shaped _ _ (solid_codec _ _)

theorem exact_slinkyImage : slinkyImage.Exact := by
  apply exact_shaped
  apply exact_codec
  apply_rules [exact_static_optional, exact_required, exact_snoc, exact_nil, exact_constrained]

def slinkyChartOciPrefix : NonEmptyStr := ⟨"oci://ghcr.io/slinkyproject/charts", by decide⟩
def slinkyChartVersion : NonEmptyStr := ⟨"1.2.1", by decide⟩

structure SlinkyDeploymentConfig where
  chartOciPrefix : NonEmptyStr := slinkyChartOciPrefix
  chartPlainHttp : Bool := false
  operatorCrdsChartVersion : NonEmptyStr := slinkyChartVersion
  operatorChartVersion : NonEmptyStr := slinkyChartVersion
  slurmChartVersion : NonEmptyStr := slinkyChartVersion
  operatorImage : Option SlinkyImageConfig := none
  webhookImage : Option SlinkyImageConfig := none
  imagePullSecrets : List NonEmptyStr := []
  oci : chartPlainHttp = true → Text.startsWith chartOciPrefix.text "oci://" = true := by decide
  deriving DecidableEq

abbrev SlinkyParts := (((((((Unit × NonEmptyStr) × Bool) × NonEmptyStr) × NonEmptyStr) ×
  NonEmptyStr) × Option SlinkyImageConfig) × Option SlinkyImageConfig) × List NonEmptyStr

def slinkyFields : Fields Environment SlinkyParts :=
  Fields.nil
  |>.snoc (.static (key "chart_oci_prefix") text false slinkyChartOciPrefix)
  |>.snoc (.static (key "chart_plain_http") bool false false)
  |>.snoc (.static (key "operator_crds_chart_version") text false slinkyChartVersion)
  |>.snoc (.static (key "operator_chart_version") text false slinkyChartVersion)
  |>.snoc (.static (key "slurm_chart_version") text false slinkyChartVersion)
  |>.snoc (.static (key "operator_image") (slinkyImage.optional solid_slinkyImage) false none)
  |>.snoc (.static (key "webhook_image") (slinkyImage.optional solid_slinkyImage) false none)
  |>.snoc (.static (key "image_pull_secrets") text.tuple false [])

def slinkyShape : Shape SlinkyDeploymentConfig SlinkyParts where
  parts config := (((((((((), config.chartOciPrefix), config.chartPlainHttp),
    config.operatorCrdsChartVersion), config.operatorChartVersion), config.slurmChartVersion),
    config.operatorImage), config.webhookImage), config.imagePullSecrets)
  build := fun ((((((((_, chartOciPrefix), chartPlainHttp), operatorCrdsChartVersion),
      operatorChartVersion), slurmChartVersion), operatorImage), webhookImage),
      imagePullSecrets) =>
    if oci : chartPlainHttp = true → Text.startsWith chartOciPrefix.text "oci://" = true then
      some { chartOciPrefix, chartPlainHttp, operatorCrdsChartVersion, operatorChartVersion,
             slurmChartVersion, operatorImage, webhookImage, imagePullSecrets, oci }
    else none
  rebuild config := dif_pos config.oci
  reads := by
    rintro ⟨⟨⟨⟨⟨⟨⟨⟨⟨⟩, ociPrefix⟩, plainHttp⟩, crds⟩, operator⟩, slurm⟩, operatorImage⟩,
      webhookImage⟩, secrets⟩ config built
    simp only [Option.dite_none_right_eq_some, Option.some.injEq] at built
    obtain ⟨_, rfl⟩ := built
    rfl

def slinky : Codec Environment SlinkyDeploymentConfig :=
  (slinkyFields.codec (by decide)).shaped slinkyShape

theorem exact_slinky : slinky.Exact := by
  apply exact_shaped
  apply exact_codec
  apply_rules [exact_static_optional, exact_static, exact_snoc, exact_nil, exact_constrained,
    exact_bool, exact_tuple, exact_slinkyImage]

/-! Registries and identities the outer stack resolves. -/

/-- A registry authority without a scheme or path. -/
def serverAccepts (server : String) : Bool := server ≠ "" && !server.toList.contains '/'

structure AzureContainerRegistryConfig where
  server : Constrained serverAccepts
  resourceId : NonEmptyStr
  deriving DecidableEq

def acrFields : Fields Environment ((Unit × Constrained serverAccepts) × NonEmptyStr) :=
  Fields.nil
  |>.snoc (.required (key "server") constrained)
  |>.snoc (.required (key "resource_id") text)

def acrShape : Shape AzureContainerRegistryConfig
    ((Unit × Constrained serverAccepts) × NonEmptyStr) where
  parts config := (((), config.server), config.resourceId)
  build := fun ((_, server), resourceId) => some { server, resourceId }
  rebuild _ := rfl
  reads := by
    rintro _ _ ⟨⟩
    rfl

def acr : Codec Environment AzureContainerRegistryConfig :=
  (acrFields.codec (by decide)).shaped acrShape

theorem solid_acr : acr.Solid := solid_shaped _ _ (solid_codec _ _)

theorem exact_acr : acr.Exact := by
  apply exact_shaped
  apply exact_codec
  apply_rules [exact_required, exact_snoc, exact_nil, exact_constrained]

structure AKSIdentityConfig where
  controlPlaneResourceId : NonEmptyStr
  kubeletResourceId : NonEmptyStr
  deriving DecidableEq

def aksIdentityFields : Fields Environment ((Unit × NonEmptyStr) × NonEmptyStr) :=
  Fields.nil
  |>.snoc (.required (key "control_plane_resource_id") text)
  |>.snoc (.required (key "kubelet_resource_id") text)

def aksIdentityShape : Shape AKSIdentityConfig ((Unit × NonEmptyStr) × NonEmptyStr) where
  parts config := (((), config.controlPlaneResourceId), config.kubeletResourceId)
  build := fun ((_, controlPlaneResourceId), kubeletResourceId) =>
    some { controlPlaneResourceId, kubeletResourceId }
  rebuild _ := rfl
  reads := by
    rintro _ _ ⟨⟩
    rfl

def aksIdentity : Codec Environment AKSIdentityConfig :=
  (aksIdentityFields.codec (by decide)).shaped aksIdentityShape

theorem solid_aksIdentity : aksIdentity.Solid := solid_shaped _ _ (solid_codec _ _)

theorem exact_aksIdentity : aksIdentity.Exact := by
  apply exact_shaped
  apply exact_codec
  apply_rules [exact_required, exact_snoc, exact_nil, exact_constrained]

/-! Placement of an Azure workload. -/

def discoverSubscriptionId (env : Environment) : Option UUID :=
  env.placement.bind (fun found => UUID.parse found.subscriptionId.text)

def discoverLocation (env : Environment) : Option NonEmptyStr :=
  env.placement.map AzureResourcePlacement.location

abbrev Tags := Mapping NonEmptyStr String

def tags : Codec Environment Tags := string.mapping (constrainedKey _)

theorem exact_tags : tags.Exact := exact_shaped _ _ (exact_entries _ _ exact_string)

theorem exact_subscriptionId {Before : Type} : (Field.discovered (key "subscription_id") uuid true
    discoverSubscriptionId : Field Environment Before UUID).Exact := by
  intro outer inner before value
  rw [keeps_discovered _ _ _ _ exact_uuid]
  exact ⟨nofun, fun _ => nofun⟩

/-! AKS. -/

def defaultAksKubernetesVersion : NonEmptyStr := ⟨"v1.34.0", by decide⟩
def defaultVmSize : NonEmptyStr := ⟨"Standard_D2as_v5", by decide⟩
def one : StrictPositiveInt := ⟨1, by decide⟩

structure AKSWorkloadSizingConfig where
  kubernetesVersion : NonEmptyStr := defaultAksKubernetesVersion
  nodeSku : NonEmptyStr := defaultVmSize
  nodeCount : StrictPositiveInt := one
  deriving DecidableEq

abbrev AKSSizingParts := ((Unit × NonEmptyStr) × NonEmptyStr) × StrictPositiveInt

def aksSizingFields : Fields Environment AKSSizingParts :=
  Fields.nil
  |>.snoc (.static (key "kubernetes_version") text false defaultAksKubernetesVersion)
  |>.snoc (.static (key "node_sku") text false defaultVmSize)
  |>.snoc (.static (key "node_count") positiveInt false one)

def aksSizingShape : Shape AKSWorkloadSizingConfig AKSSizingParts where
  parts config := ((((), config.kubernetesVersion), config.nodeSku), config.nodeCount)
  build := fun (((_, kubernetesVersion), nodeSku), nodeCount) =>
    some { kubernetesVersion, nodeSku, nodeCount }
  rebuild _ := rfl
  reads := by
    rintro _ _ ⟨⟩
    rfl

def aksSizing : Codec Environment AKSWorkloadSizingConfig :=
  (aksSizingFields.codec (by decide)).shaped aksSizingShape

theorem exact_aksSizing : aksSizing.Exact := by
  apply exact_shaped
  apply exact_codec
  apply_rules [exact_static, exact_snoc, exact_nil, exact_constrained, exact_positiveInt]

structure AzureWorkloadSpec where
  subscriptionId : UUID
  location : NonEmptyStr
  resourceGroup : Option NonEmptyStr := none
  useDiscoveredResourceGroup : Bool := false
  additionalTags : Tags := {}
  aks : AKSWorkloadSizingConfig := {}
  deriving DecidableEq

abbrev AKSSpecParts := (((((Unit × UUID) × NonEmptyStr) × Option NonEmptyStr) × Bool) × Tags) ×
  AKSWorkloadSizingConfig

def aksSpecFields : Fields Environment AKSSpecParts :=
  Fields.nil
  |>.snoc (.discovered (key "subscription_id") uuid true discoverSubscriptionId)
  |>.snoc (.discovered (key "location") text true discoverLocation)
  |>.snoc (.static (key "resource_group") optionalText true none)
  |>.snoc (.static (key "use_discovered_resource_group") bool false false)
  |>.snoc (.static (key "additional_tags") tags true {})
  |>.snoc (.static (key "aks") aksSizing false {})

def aksSpecShape : Shape AzureWorkloadSpec AKSSpecParts where
  parts config := (((((((), config.subscriptionId), config.location), config.resourceGroup),
    config.useDiscoveredResourceGroup), config.additionalTags), config.aks)
  build := fun ((((((_, subscriptionId), location), resourceGroup), useDiscoveredResourceGroup),
      additionalTags), aks) =>
    some { subscriptionId, location, resourceGroup, useDiscoveredResourceGroup, additionalTags,
           aks }
  rebuild _ := rfl
  reads := by
    rintro _ _ ⟨⟩
    rfl

def aksSpec : Codec Environment AzureWorkloadSpec :=
  (aksSpecFields.codec (by decide)).shaped aksSpecShape

theorem exact_serializedLocation {Before : Type} : (Field.discovered (key "location") text true
    discoverLocation : Field Environment Before NonEmptyStr).Exact := by
  intro outer inner before value
  rw [keeps_discovered _ _ _ _ exact_constrained]
  exact ⟨nofun, fun _ => nofun⟩

theorem exact_aksSpec : aksSpec.Exact := by
  apply exact_shaped
  apply exact_codec
  apply_rules [exact_static_optional, exact_static, exact_snoc, exact_nil, exact_constrained,
    exact_bool, exact_tags, exact_aksSizing, exact_subscriptionId, exact_serializedLocation]

/-! The class of a workload cluster, which is always dumped. -/

def classTag (name : String) : Fields Environment (Unit × Unit) :=
  Fields.nil.snoc (.static (key "class_name") (tag name) true ())

theorem exact_classTag (name : String) : (classTag name).Exact := by
  apply_rules [exact_snoc, exact_nil, exact_static, exact_tag]

theorem tagged_classTag (name : String) : (classTag name).Tagged (key "class_name") name := by
  intro mode outer parts entries encoded
  have found : find entries (key "class_name") = some (.str name) :=
    Fields.find_encode_last Fields.nil (.static (key "class_name") (tag name) true ()) mode outer
      parts.1 parts.2 (fun _ member => absurd member List.not_mem_nil) rfl entries encoded
  simp only [tagOf, found]

abbrev slinkyField {Before : Type} : Field Environment Before SlinkyDeploymentConfig :=
  .static (key "slinky") slinky false {}

theorem exact_slinkyField {Before : Type} : (slinkyField : Field Environment Before _).Exact :=
  exact_static _ _ _ _ (present_shaped _ _) exact_slinky

abbrev acrField {Before : Type} :
    Field Environment Before (Option AzureContainerRegistryConfig) :=
  .static (key "acr") (acr.optional solid_acr) false none

theorem exact_acrField {Before : Type} : (acrField : Field Environment Before _).Exact :=
  exact_static_optional _ _ _ _ exact_acr

structure AKSWorkloadClusterConfig where
  parameters : AzureWorkloadSpec
  slinky : SlinkyDeploymentConfig := {}
  acr : Option AzureContainerRegistryConfig := none
  identities : Option AKSIdentityConfig := none
  deriving DecidableEq

abbrev AKSClusterParts := ((((Unit × Unit) × AzureWorkloadSpec) × SlinkyDeploymentConfig) ×
  Option AzureContainerRegistryConfig) × Option AKSIdentityConfig

def aksClusterFields : Fields Environment AKSClusterParts :=
  classTag "aks"
  |>.snoc (.required (key "parameters") aksSpec)
  |>.snoc slinkyField
  |>.snoc acrField
  |>.snoc (.static (key "identities") (aksIdentity.optional solid_aksIdentity) false none)

def aksClusterShape : Shape AKSWorkloadClusterConfig AKSClusterParts where
  parts config := ((((((), ()), config.parameters), config.slinky), config.acr), config.identities)
  build := fun ((((_, parameters), slinky), acr), identities) =>
    some { parameters, slinky, acr, identities }
  rebuild _ := rfl
  reads := by
    rintro _ _ ⟨⟩
    rfl

def aksCluster : Codec Environment AKSWorkloadClusterConfig :=
  (aksClusterFields.codec (by decide)).shaped aksClusterShape

theorem exact_aksCluster : aksCluster.Exact := by
  apply exact_shaped
  apply exact_codec
  apply_rules [exact_classTag, exact_slinkyField, exact_acrField, exact_static_optional,
    exact_required, exact_snoc, exact_aksSpec, exact_aksIdentity]

theorem tagged_aksCluster : aksCluster.Tagged (key "class_name") "aks" := by
  apply tagged_shaped
  apply Fields.Tagged.snoc _ _ (by decide)
  apply Fields.Tagged.snoc _ _ (by decide)
  apply Fields.Tagged.snoc _ _ (by decide)
  exact (tagged_classTag "aks").snoc _ (by decide)

def AKSWorkloadClusterConfig.at (subscriptionId : UUID) (location : NonEmptyStr) :
    AKSWorkloadClusterConfig where
  parameters := { subscriptionId, location }

/-! Azure with existing networks. -/

structure AzureBYOSubnetConfig where
  name : NonEmptyStr
  addressPrefix : Option NonEmptyStr := none
  deriving DecidableEq

def byoSubnetFields : Fields Environment ((Unit × NonEmptyStr) × Option NonEmptyStr) :=
  Fields.nil
  |>.snoc (.required (key "name") text)
  |>.snoc (.static (key "address_prefix") optionalText false none)

def byoSubnetShape : Shape AzureBYOSubnetConfig ((Unit × NonEmptyStr) × Option NonEmptyStr) where
  parts config := (((), config.name), config.addressPrefix)
  build := fun ((_, name), addressPrefix) => some { name, addressPrefix }
  rebuild _ := rfl
  reads := by
    rintro _ _ ⟨⟩
    rfl

def byoSubnet : Codec Environment AzureBYOSubnetConfig :=
  (byoSubnetFields.codec (by decide)).shaped byoSubnetShape

theorem exact_byoSubnet : byoSubnet.Exact := by
  apply exact_shaped
  apply exact_codec
  apply_rules [exact_static_optional, exact_required, exact_snoc, exact_nil, exact_constrained]

structure AzureBYOVNetConfig where
  name : NonEmptyStr
  resourceGroup : NonEmptyStr
  subnet : AzureBYOSubnetConfig
  deriving DecidableEq

abbrev BYOVNetParts := ((Unit × NonEmptyStr) × NonEmptyStr) × AzureBYOSubnetConfig

def byoVNetFields : Fields Environment BYOVNetParts :=
  Fields.nil
  |>.snoc (.required (key "name") text)
  |>.snoc (.required (key "resource_group") text)
  |>.snoc (.required (key "subnet") byoSubnet)

def byoVNetShape : Shape AzureBYOVNetConfig BYOVNetParts where
  parts config := ((((), config.name), config.resourceGroup), config.subnet)
  build := fun (((_, name), resourceGroup), subnet) => some { name, resourceGroup, subnet }
  rebuild _ := rfl
  reads := by
    rintro _ _ ⟨⟩
    rfl

def byoVNet : Codec Environment AzureBYOVNetConfig :=
  (byoVNetFields.codec (by decide)).shaped byoVNetShape

theorem solid_byoVNet : byoVNet.Solid := solid_shaped _ _ (solid_codec _ _)

theorem exact_byoVNet : byoVNet.Exact := by
  apply exact_shaped
  apply exact_codec
  apply_rules [exact_required, exact_snoc, exact_nil, exact_constrained, exact_byoSubnet]

/-- The zeros of `\d`, each followed by the other nine digits of its script. -/
def zeros : List Nat := [
  0x30, 0x660, 0x6f0, 0x7c0, 0x966, 0x9e6, 0xa66, 0xae6, 0xb66, 0xbe6, 0xc66, 0xce6, 0xd66,
  0xde6, 0xe50, 0xed0, 0xf20, 0x1040, 0x1090, 0x17e0, 0x1810, 0x1946, 0x19d0, 0x1a80, 0x1a90,
  0x1b50, 0x1bb0, 0x1c40, 0x1c50, 0xa620, 0xa8d0, 0xa900, 0xa9d0, 0xa9f0, 0xaa50, 0xabf0, 0xff10,
  0x104a0, 0x10d30, 0x11066, 0x110f0, 0x11136, 0x111d0, 0x112f0, 0x11450, 0x114d0, 0x11650,
  0x116c0, 0x11730, 0x118e0, 0x11950, 0x11c50, 0x11d50, 0x11da0, 0x11f50, 0x16a60, 0x16ac0,
  0x16b50, 0x1d7ce, 0x1d7d8, 0x1d7e2, 0x1d7ec, 0x1d7f6, 0x1e140, 0x1e2f0, 0x1e4f0, 0x1e950,
  0x1fbf0]

def digit (char : Char) : Option Nat :=
  (zeros.find? (fun first => first ≤ char.toNat && char.toNat < first + 10)).map (char.toNat - ·)

/-- The digits at the front, and what follows them. -/
def spanDigits : List Char → List Nat × List Char
  | [] => ([], [])
  | char :: rest =>
      match digit char with
      | some value => (value :: (spanDigits rest).1, (spanDigits rest).2)
      | none => ([], char :: rest)

/-- `int`, which refuses more than 4300 digits. -/
def readInt (digits : List Nat) : Option Nat :=
  if digits.length ≤ 4300 then some (digits.foldl (fun total value => 10 * total + value) 0)
  else none

/-- `(?:[-+].*)?$` -/
def versionSuffix : List Char → Bool
  | [] => true
  | char :: rest => (char == '-' || char == '+') && !rest.contains '\n'

/-- `(?:\.\d+)?(?:[-+].*)?$` -/
def versionTail : List Char → Bool
  | '.' :: rest => (spanDigits rest).1 ≠ [] && versionSuffix (spanDigits rest).2
  | rest => versionSuffix rest

/-- `_KUBERNETES_VERSION_PATTERN`, and the two numbers it finds. -/
def matchVersion (text : String) : Option (List Nat × List Nat) :=
  let start := match text.toList with
    | 'v' :: rest => rest
    | rest => rest
  match spanDigits start with
  | ([], _) => none
  | (major, '.' :: rest) =>
      match spanDigits rest with
      | ([], _) => none
      | (minor, tail) => if versionTail tail = true then some (major, minor) else none
  | _ => none

/-- `validate_kubernetes_version` -/
def versionAccepts (text : String) : Bool :=
  match matchVersion text with
  | none => false
  | some (major, minor) =>
      match readInt major, readInt minor with
      | some major, some minor => 1 < major || (major == 1 && 36 ≤ minor)
      | _, _ => false

example : ["v1.36", "1.36.1-rc+x", "v2.0"].all versionAccepts = true := by decide
example : ["v1.35.9", "1.36.", "1", "v1.36.1\n"].any versionAccepts = false := by decide

abbrev KubernetesVersion := Constrained versionAccepts

def defaultKubernetesVersion : KubernetesVersion := ⟨"v1.36.1", by decide⟩
def defaultSshUsername : NonEmptyStr := ⟨"capi", by decide⟩

structure AzureBYOWorkloadSpec where
  subscriptionId : UUID
  location : NonEmptyStr
  additionalTags : Tags := {}
  kubernetesVersion : KubernetesVersion := defaultKubernetesVersion
  controlPlaneVmSize : NonEmptyStr := defaultVmSize
  workerVmSize : NonEmptyStr := defaultVmSize
  workerReplicas : StrictPositiveInt := one
  sshUsername : NonEmptyStr := defaultSshUsername
  sshAuthorizedKeys : List NonEmptyStr := []
  vnet : Option AzureBYOVNetConfig := none
  useAutoDiscoveredVnet : Option Bool := none
  useDiscoveredResourceGroup : Bool := false
  deriving DecidableEq

abbrev BYOPlacementParts := (Unit × UUID) × NonEmptyStr

abbrev BYOSpecParts := (((((((((BYOPlacementParts × Tags) × KubernetesVersion) × NonEmptyStr) ×
  NonEmptyStr) × StrictPositiveInt) × NonEmptyStr) × List NonEmptyStr) ×
  Option AzureBYOVNetConfig) × Option Bool) × Bool

/-- Unlike the location of AKS, this one has no serializer. -/
def byoPlacementFields : Fields Environment BYOPlacementParts :=
  Fields.nil
  |>.snoc (.discovered (key "subscription_id") uuid true discoverSubscriptionId)
  |>.snoc (.discovered (key "location") text false discoverLocation)

def byoSpecFields : Fields Environment BYOSpecParts :=
  byoPlacementFields
  |>.snoc (.static (key "additional_tags") tags true {})
  |>.snoc (.static (key "kubernetes_version") constrained false defaultKubernetesVersion)
  |>.snoc (.static (key "control_plane_vm_size") text false defaultVmSize)
  |>.snoc (.static (key "worker_vm_size") text false defaultVmSize)
  |>.snoc (.static (key "worker_replicas") positiveInt false one)
  |>.snoc (.static (key "ssh_username") text false defaultSshUsername)
  |>.snoc (.static (key "ssh_authorized_keys") text.tuple false [])
  |>.snoc (.static (key "vnet") (byoVNet.optional solid_byoVNet) false none)
  |>.snoc (.static (key "use_auto_discovered_vnet") (bool.optional solid_bool) false none)
  |>.snoc (.static (key "use_discovered_resource_group") bool false false)

def byoSpecShape : Shape AzureBYOWorkloadSpec BYOSpecParts where
  parts config := (((((((((((((), config.subscriptionId), config.location),
    config.additionalTags), config.kubernetesVersion), config.controlPlaneVmSize),
    config.workerVmSize), config.workerReplicas), config.sshUsername), config.sshAuthorizedKeys),
    config.vnet), config.useAutoDiscoveredVnet), config.useDiscoveredResourceGroup)
  build := fun ((((((((((((_, subscriptionId), location), additionalTags), kubernetesVersion),
      controlPlaneVmSize), workerVmSize), workerReplicas), sshUsername), sshAuthorizedKeys), vnet),
      useAutoDiscoveredVnet), useDiscoveredResourceGroup) =>
    some { subscriptionId, location, additionalTags, kubernetesVersion, controlPlaneVmSize,
           workerVmSize, workerReplicas, sshUsername, sshAuthorizedKeys, vnet,
           useAutoDiscoveredVnet, useDiscoveredResourceGroup }
  rebuild _ := rfl
  reads := by
    rintro _ _ ⟨⟩
    rfl

def byoSpec : Codec Environment AzureBYOWorkloadSpec :=
  (byoSpecFields.codec (by decide)).shaped byoSpecShape

structure AzureBYOWorkloadClusterConfig where
  parameters : AzureBYOWorkloadSpec
  slinky : SlinkyDeploymentConfig := {}
  acr : Option AzureContainerRegistryConfig := none
  deriving DecidableEq

abbrev BYOClusterParts := (((Unit × Unit) × AzureBYOWorkloadSpec) × SlinkyDeploymentConfig) ×
  Option AzureContainerRegistryConfig

def byoClusterFields : Fields Environment BYOClusterParts :=
  classTag "azure-byo"
  |>.snoc (.required (key "parameters") byoSpec)
  |>.snoc slinkyField
  |>.snoc acrField

def byoClusterShape : Shape AzureBYOWorkloadClusterConfig BYOClusterParts where
  parts config := (((((), ()), config.parameters), config.slinky), config.acr)
  build := fun (((_, parameters), slinky), acr) => some { parameters, slinky, acr }
  rebuild _ := rfl
  reads := by
    rintro _ _ ⟨⟩
    rfl

def byoCluster : Codec Environment AzureBYOWorkloadClusterConfig :=
  (byoClusterFields.codec (by decide)).shaped byoClusterShape

theorem tagged_byoCluster : byoCluster.Tagged (key "class_name") "azure-byo" := by
  apply tagged_shaped
  apply Fields.Tagged.snoc _ _ (by decide)
  apply Fields.Tagged.snoc _ _ (by decide)
  exact (tagged_classTag "azure-byo").snoc _ (by decide)

/-- A cluster with every other setting at its default. -/
def AzureBYOWorkloadClusterConfig.at (subscriptionId : UUID) (location : NonEmptyStr) :
    AzureBYOWorkloadClusterConfig where
  parameters := { subscriptionId, location }

/-! Local. -/

abbrev RegistryRoutes := Mapping RegistryName ContainerdRegistryConfig

def registryRoutes : Codec Environment RegistryRoutes := registry.mapping (constrainedKey _)

theorem exact_registryRoutes : registryRoutes.Exact :=
  exact_shaped _ _ (exact_entries _ _ exact_registry)

structure LocalWorkloadClusterConfig where
  registry : Option LocalPortRegistrySetting := none
  customRegistry : Option LocalCustomRegistrySetting := none
  registryRoutes : RegistryRoutes := {}
  slinky : SlinkyDeploymentConfig := {}
  deriving DecidableEq

def LocalWorkloadClusterConfig.plain : LocalWorkloadClusterConfig := {}

abbrev LocalRegistryParts := ((Unit × Unit) × Option LocalPortRegistrySetting) ×
  Option LocalCustomRegistrySetting

def localRegistryFields : Fields Environment LocalRegistryParts :=
  classTag "local"
  |>.snoc (.static (key "registry") (localPort.optional solid_localPort) false none)
  |>.snoc (.static (key "custom_registry") (customRegistry.optional solid_customRegistry) false
    none)

def localClusterFields : Fields Environment
    ((LocalRegistryParts × RegistryRoutes) × SlinkyDeploymentConfig) :=
  localRegistryFields
  |>.snoc (.static (key "registry_routes") registryRoutes false {})
  |>.snoc slinkyField

def localClusterShape : Shape LocalWorkloadClusterConfig
    ((LocalRegistryParts × RegistryRoutes) × SlinkyDeploymentConfig) where
  parts config := ((((((), ()), config.registry), config.customRegistry), config.registryRoutes),
    config.slinky)
  build := fun ((((_, registry), customRegistry), registryRoutes), slinky) =>
    some { registry, customRegistry, registryRoutes, slinky }
  rebuild _ := rfl
  reads := by
    rintro _ _ ⟨⟩
    rfl

def localCluster : Codec Environment LocalWorkloadClusterConfig :=
  (localClusterFields.codec (by decide)).shaped localClusterShape

theorem tagged_localCluster : localCluster.Tagged (key "class_name") "local" := by
  apply tagged_shaped
  apply Fields.Tagged.snoc _ _ (by decide)
  apply Fields.Tagged.snoc _ _ (by decide)
  apply Fields.Tagged.snoc _ _ (by decide)
  exact (tagged_classTag "local").snoc _ (by decide)

/-! Tenants. -/

inductive WorkloadClusterConfig where
  | azureBYO (config : AzureBYOWorkloadClusterConfig)
  | aks (config : AKSWorkloadClusterConfig)
  | localClass (config : LocalWorkloadClusterConfig)
  deriving DecidableEq

def clusterVariants : Shape WorkloadClusterConfig
    (AzureBYOWorkloadClusterConfig ⊕ (AKSWorkloadClusterConfig ⊕
      (LocalWorkloadClusterConfig ⊕ Empty))) where
  parts config := match config with
    | .azureBYO config => .inl config
    | .aks config => .inr (.inl config)
    | .localClass config => .inr (.inr (.inl config))
  build read := match read with
    | .inl config => some (.azureBYO config)
    | .inr (.inl config) => some (.aks config)
    | .inr (.inr (.inl config)) => some (.localClass config)
  rebuild config := by cases config <;> rfl
  reads := by
    rintro (config | config | config | ⟨⟨⟩⟩) _ ⟨⟩ <;> rfl

def localVariant : Codec Environment (LocalWorkloadClusterConfig ⊕ Empty) :=
  tagged (key "class_name") "local" localCluster untagged tagged_localCluster
    (untagged_untagged _ _)

theorem untagged_localVariant (tag : String) (different : "local" ≠ tag) :
    localVariant.Untagged (key "class_name") tag :=
  untagged_tagged _ _ _ _ _ _ _ different (untagged_untagged _ _)

def aksVariant : Codec Environment (AKSWorkloadClusterConfig ⊕ (LocalWorkloadClusterConfig ⊕ Empty)) :=
  tagged (key "class_name") "aks" aksCluster localVariant tagged_aksCluster
    (untagged_localVariant "aks" (by decide))

theorem untagged_aksVariant : aksVariant.Untagged (key "class_name") "azure-byo" :=
  untagged_tagged _ _ _ _ _ _ _ (by decide) (untagged_localVariant "azure-byo" (by decide))

def workloadCluster : Codec Environment WorkloadClusterConfig :=
  (tagged (key "class_name") "azure-byo" byoCluster aksVariant tagged_byoCluster
    untagged_aksVariant).shaped clusterVariants

def labelKey : TextKey TenantObjects.DnsLabel where
  text label := label.text
  read text := if valid : TenantObjects.isDnsLabel text = true then some ⟨text, valid⟩ else none
  exact label := by simp [label.valid]

abbrev WorkloadClusters := Mapping TenantObjects.DnsLabel WorkloadClusterConfig

def workloadClusters : Codec Environment WorkloadClusters := workloadCluster.mapping labelKey

def defaultWorkloadClusters : WorkloadClusters :=
  { entries := [(⟨"local", by decide⟩, .localClass {})] }

structure TenantsConfig where
  workloadClusters : WorkloadClusters := defaultWorkloadClusters
  deriving DecidableEq

def tenantsFields : Fields Environment (Unit × WorkloadClusters) :=
  Fields.nil.snoc (.static (key "workload_clusters") workloadClusters false
    defaultWorkloadClusters)

def tenantsShape : Shape TenantsConfig (Unit × WorkloadClusters) where
  parts config := ((), config.workloadClusters)
  build := fun (_, workloadClusters) => some { workloadClusters }
  rebuild _ := rfl
  reads := by
    rintro _ _ ⟨⟩
    rfl

def tenants : Codec Environment TenantsConfig :=
  (tenantsFields.codec (by decide)).shaped tenantsShape

end ClusterApiForSlinky.WorkloadConfig
