import ClusterApiForSlinky.CtlptlRegistry
import ClusterApiForSlinky.Effect
import ClusterApiForSlinky.LocalRegistryRoutes
import ClusterApiForSlinky.StackMerges

/-!
Where the outer stack (stack.py) publishes each build and which reference each
workload cluster is given. The registries, their ports and names, the identities
and the resource groups are what the providers resolved.
-/

namespace ClusterApiForSlinky.BuildRouting
open ModelCodec ArtifactRegistry ArtifactPublishing ControlPlaneConfig WorkloadConfig
open RegistrySetting ConfigHandoff ConfigCopies StackBuilds StackMerges
open TenantObjects (DnsLabel)
open LocalRegistryRoutes (endpoint)
open StackOverrides (localPortRegistrySetting slinkyImageConfig)

/-- The configuration, the commit git resolves the source of each publication to and
the port that was observed of the cache registry. -/
structure OuterStack where
  builds : Builds
  customRegistry : CustomRegistryConfig := {}
  initStack : InitStackConfig := {}
  commits : NonEmptyStr → Target → String
  cachePort : Int

def isLocal : WorkloadClusterConfig → Bool
  | .localClass _ => true
  | .aks _ | .azureBYO _ => false

def hasLocal (config : InitStackConfig) : Bool :=
  config.tenants.workloadClusters.entries.any (fun entry => isLocal entry.2)

def hasAzure (config : InitStackConfig) : Bool :=
  config.tenants.workloadClusters.entries.any (fun entry => !isLocal entry.2)

/-- `RegistryDestination` -/
structure RegistryDestination where
  server : String
  consumerServer : String
  plainHttp : Bool
  acrResourceId : Option NonEmptyStr := none
  deriving DecidableEq

/-- The resource that a publication depends on. -/
inductive RegistryResource where
  | customRegistry
  | workloadRegistry
  deriving DecidableEq

/-- What the providers return; `username` is what `_discover_username` finds. -/
structure Resolved where
  username : Option String
  customRegistry : CtlptlRegistry.Props
  acr : AzureContainerRegistryConfig
  identities : DnsLabel → AKSIdentityConfig
  resourceGroups : DnsLabel → String

inductive Failure where
  | builds (message : String)
  | runnerIdentity
  | cachePort (failure : StackOverrides.Failure)
  /-- A `KeyError` of `destinations` or of `registry_dependencies`. -/
  | target (target : Target)
  | override (failure : StackMerges.Failure)

structure Publication where
  build : NonEmptyStr
  config : BuildConfig
  target : Target
  destination : RegistryDestination
  dependency : RegistryResource
  deriving DecidableEq

/-- What `artifact_refs` resolves to. -/
def artifactRefs (commits : NonEmptyStr → Target → String) (publication : Publication) :
    List (String × String) :=
  match artifactTags publication.config.recipe (commits publication.build publication.target) with
  | .ok tags => referencesAt publication.destination.consumerServer tags
  | .error _ => []

/-- `next(iter(references.values()))` of a publication. -/
def firstReference (commits : NonEmptyStr → Target → String) (publication : Publication) :
    Option String :=
  (artifactRefs commits publication).head?.map Prod.snd

/-! Registries. -/

section Registries

variable (stack : OuterStack) (resolved : Resolved)

def azureDestination : RegistryDestination where
  server := resolved.acr.server.text
  consumerServer := resolved.acr.server.text
  plainHttp := false
  acrResourceId := some resolved.acr.resourceId

def recordedName (recorded : CtlptlRegistry.Props) : String := recorded.registryName.getD ""

def consumerServer (recorded : CtlptlRegistry.Props) : String := endpoint (recordedName recorded)

def localDestination : RegistryDestination where
  server := "localhost:" ++ toString (resolved.customRegistry.port.getD 0)
  consumerServer := consumerServer resolved.customRegistry
  plainHttp := true

def targets (name : NonEmptyStr) : List Target :=
  buildDestinations (hasAzure stack.initStack) (hasLocal stack.initStack) name

def hasCustomRegistry : Bool :=
  needsCustomRegistry stack.builds (hasAzure stack.initStack) (hasLocal stack.initStack)

/-- An entry for each registry that the stack makes. -/
def perRegistry {Value : Type} (azure custom : Value) : Mapping Target Value :=
  let made : Mapping Target Value := if hasAzure stack.initStack then Mapping.set {} .acr azure else {}
  if hasCustomRegistry stack then made.set .localRegistry custom else made

def destinations : Mapping Target RegistryDestination :=
  perRegistry stack (azureDestination resolved) (localDestination resolved)

def registryDependencies : Mapping Target RegistryResource :=
  perRegistry stack .workloadRegistry .customRegistry

def indexed {Value : Type} (mapping : Mapping Target Value) (target : Target) : Except Failure Value :=
  match mapping.lookup target with
  | some value => .ok value
  | none => .error (.target target)

def createPublication (name : NonEmptyStr) (config : BuildConfig) (target : Target) :
    Except Failure (Target × Publication) := do
  let destination ← indexed (destinations stack resolved) target
  let dependency ← indexed (registryDependencies stack) target
  return (target, { build := name, config, target, destination, dependency })

abbrev Publications := Mapping NonEmptyStr (List (Target × Publication))

def publish : Except Failure Publications :=
  stack.builds.traverseNamed (fun name config =>
    (targets stack name).mapM (createPublication stack resolved name config))

end Registries

/-- `published_builds` or `azure_builds` -/
def buildsAt (publications : Publications) (target : Target) : Mapping NonEmptyStr Publication :=
  publications.filterMap (fun made => made.lookup target)

/-! Overrides. -/

section Overrides

variable (stack : OuterStack) (resolved : Resolved) (publications : Publications)

def localRef (name : NonEmptyStr) : Option String :=
  ((buildsAt publications .localRegistry).lookup name).bind (firstReference stack.commits)

def slinkyCharts : Option Publication :=
  (buildsAt publications .localRegistry).lookup slinkyChartsBuildKey

def pkoNamespace : String := "pulumi-kubernetes-operator"

/-- The service of the registry carries the name the provider recorded. -/
def serviceHost (recorded : CtlptlRegistry.Props) : String :=
  recordedName recorded ++ "." ++ pkoNamespace ++ ".svc.cluster.local:5000"

/-- The registry has a service in the cluster wherever it was made. -/
def chartOciPrefix : Option String :=
  if hasCustomRegistry stack then
    (slinkyCharts publications).map
      (fun _ => "oci://" ++ serviceHost resolved.customRegistry ++ "/charts")
  else none

def chartVersion : Option String :=
  (slinkyCharts publications).map
    (fun charts => ArtifactPublishing.chartVersion (stack.commits charts.build charts.target))

/-- The arguments of `_with_local_slinky_overrides`. -/
def localOverrides : LocalSlinkyOverrides :=
  let operator := localRef stack publications slinkyOperatorImageKey
  let webhook := localRef stack publications slinkyWebhookImageKey
  let overridden := (slinkyCharts publications).isSome || operator.isSome || webhook.isSome
  { chartOciPrefix := chartOciPrefix stack resolved publications
    chartVersion := chartVersion stack publications
    operatorImage := operator
    webhookImage := webhook
    registryName := if overridden then some stack.customRegistry.name.text else none
    registryPort :=
      if hasCustomRegistry stack && overridden then resolved.customRegistry.port else none }

/-- `_capz_artifact_oci_url` -/
def capzArtifactOciUrl (publication : Publication) : Option String :=
  match artifactTags publication.config.recipe
      (stack.commits publication.build publication.target) with
  | .ok (tag :: _) => some ("http://" ++ serviceHost resolved.customRegistry ++ "/" ++
      tag.repository ++ ":" ++ tag.tag)
  | .ok [] | .error _ => none

def providerOci : Option String :=
  if hasCustomRegistry stack then
    ((buildsAt publications .localRegistry).lookup capzProviderBuildKey).bind
      (capzArtifactOciUrl stack resolved)
  else none

def isAKS : WorkloadClusterConfig → Bool
  | .aks _ => true
  | .azureBYO _ | .localClass _ => false

/-- The names of the AKS instances, each with what its component resolves to. -/
def perAKS {Value : Type} (value : DnsLabel → Value) : Mapping DnsLabel Value :=
  ((stack.initStack.tenants.workloadClusters.withNames).filterMap
    (fun entry => if isAKS entry.2 then some (value entry.1) else none))

/-- The arguments of `_merge_azure_build_overrides`. -/
def azureOverrides : AzureBuildOverrides where
  acr := resolved.acr
  imageRefs := (buildsAt publications .acr).mapValues (artifactRefs stack.commits)
  chartOciPrefix := chartOciPrefix stack resolved publications
  chartVersion := chartVersion stack publications
  aksIdentities := perAKS stack resolved.identities
  aksResourceGroups := perAKS stack resolved.resourceGroups

end Overrides

/-! The run. -/

def isBYO : WorkloadClusterConfig → Bool
  | .azureBYO _ => true
  | .aks _ | .localClass _ => false

/-- The resource id of the node identity. -/
def runnerIdentity (config : InitStackCopy) : Option NonEmptyStr :=
  match config.controlPlane.infrastructureProviders.azure.bind AzureProviderCopy.identity with
  | some (.userAssignedMSI identity) | some (.workloadIdentity identity) => identity.resourceId
  | none => none

structure Outcome where
  publications : Publications
  configured : InitStackCopy
  config : InitStackCopy

/-- From the configured stack to the one that is handed over. -/
def overrideStack (stack : OuterStack) (resolved : Resolved) (publications : Publications)
    (configured : InitStackCopy) : Except Failure InitStackCopy := do
  let cache ← (localPortRegistrySetting stack.cachePort).mapError .cachePort
  let base := withLocalRegistryConfig configured cache
  let provided := mergeCapzProviderOverrides base (providerOci stack resolved publications)
    (localRef stack publications capzControllerImageKey)
  let overridden ← (withLocalSlinkyOverrides provided (localOverrides stack resolved
    publications)).mapError (fun failure => .override (.override failure))
  if hasAzure stack.initStack then
    (mergeAzureBuildOverrides overridden (azureOverrides stack resolved publications)).mapError
      .override
  else return overridden

def runStack (stack : OuterStack) (resolved : Resolved) : Except Failure Outcome := do
  (validateBuildConsumers stack.builds).mapError .builds
  let configured := withOwnerTagConfig (initStackCopies.copy stack.initStack) none resolved.username
  if stack.initStack.tenants.workloadClusters.entries.any (fun entry => isBYO entry.2) &&
      (runnerIdentity configured).isNone then
    .error .runnerIdentity
  else
    let publications ← publish stack resolved
    let config ← overrideStack stack resolved publications configured
    return { publications, configured, config }

/-! Every publication has its registry. -/

theorem lookup_acr {Value : Type} (stack : OuterStack) (azure custom : Value) :
    (perRegistry stack azure custom).lookup .acr =
      if hasAzure stack.initStack then some azure else none := by
  unfold perRegistry
  cases hasAzure stack.initStack <;> cases hasCustomRegistry stack <;> rfl

theorem lookup_localRegistry {Value : Type} (stack : OuterStack) (azure custom : Value) :
    (perRegistry stack azure custom).lookup .localRegistry =
      if hasCustomRegistry stack then some custom else none := by
  unfold perRegistry
  cases hasAzure stack.initStack <;> cases hasCustomRegistry stack <;> rfl

/-- What the stack makes for each target. -/
def chosenFor {Value : Type} (azure custom : Value) : Target → Value
  | .acr => azure
  | .localRegistry => custom

theorem acr_of_target (stack : OuterStack) (name : NonEmptyStr)
    (member : Target.acr ∈ targets stack name) : hasAzure stack.initStack = true := by
  unfold targets buildDestinations at member
  cases azure : hasAzure stack.initStack with
  | true => rfl
  | false => simp [azure] at member

theorem custom_of_target (stack : OuterStack) (name : NonEmptyStr) (config : BuildConfig)
    (built : stack.builds.lookup name = some config)
    (member : Target.localRegistry ∈ targets stack name) : hasCustomRegistry stack = true :=
  needsCustomRegistry_of_local stack.builds _ _ name config built member

/-- The registry of a target of a build was made before the builds are published. -/
theorem lookup_of_target {Value : Type} (stack : OuterStack) (azure custom : Value)
    (name : NonEmptyStr) (config : BuildConfig) (built : stack.builds.lookup name = some config)
    (target : Target) (member : target ∈ targets stack name) :
    (perRegistry stack azure custom).lookup target = some (chosenFor azure custom target) := by
  cases target with
  | acr => rw [lookup_acr, if_pos (acr_of_target stack name member), chosenFor]
  | localRegistry =>
      rw [lookup_localRegistry, if_pos (custom_of_target stack name config built member), chosenFor]

def destinationOf (resolved : Resolved) (target : Target) : RegistryDestination :=
  chosenFor (azureDestination resolved) (localDestination resolved) target

/-- The publication of a build to a target. -/
def publicationOf (resolved : Resolved) (name : NonEmptyStr) (config : BuildConfig)
    (target : Target) : Publication where
  build := name
  config := config
  target := target
  destination := destinationOf resolved target
  dependency := chosenFor .workloadRegistry .customRegistry target

theorem createPublication_ok (stack : OuterStack) (resolved : Resolved) (name : NonEmptyStr)
    (config : BuildConfig) (built : stack.builds.lookup name = some config) (target : Target)
    (member : target ∈ targets stack name) :
    createPublication stack resolved name config target =
      .ok (target, publicationOf resolved name config target) := by
  have destination := lookup_of_target stack (azureDestination resolved) (localDestination resolved)
    name config built target member
  have dependency := lookup_of_target stack RegistryResource.workloadRegistry .customRegistry
    name config built target member
  simp only [createPublication, indexed, destinations, registryDependencies, destination, dependency]
  rfl

def allPublications (stack : OuterStack) (resolved : Resolved) : Publications :=
  stack.builds.mapNamed (fun name config =>
    (targets stack name).map (fun target => (target, publicationOf resolved name config target)))

/-- No destination and no dependency is missing, whatever the builds and tenants. -/
theorem publish_ok (stack : OuterStack) (resolved : Resolved) :
    publish stack resolved = .ok (allPublications stack resolved) := by
  apply Mapping.traverseNamed_of_total
  intro entry member
  have built := Mapping.lookup_of_mem stack.builds entry.1 entry.2 member
  exact Effect.mapM_of_total _ _ _ (fun target inside =>
    createPublication_ok stack resolved entry.1 entry.2 built target inside)

theorem lookup_targets {Value : Type} (value : Target → Value) (made : List Target)
    (target : Target) :
    (made.map (fun target => (target, value target))).lookup target =
      if target ∈ made then some (value target) else none := by
  induction made with
  | nil => rfl
  | cons first rest ih =>
      rw [List.map_cons, Mapping.lookup_cons, ih]
      by_cases same : target = first <;> simp [same]

/-- A build is found at a target exactly when it was published there. -/
theorem lookup_buildsAt (stack : OuterStack) (resolved : Resolved) (target : Target)
    (name : NonEmptyStr) :
    (buildsAt (allPublications stack resolved) target).lookup name =
      if target ∈ targets stack name then
        (stack.builds.lookup name).map (fun config => publicationOf resolved name config target)
      else none := by
  rw [buildsAt, Mapping.lookup_filterMap, allPublications, Mapping.lookup_mapNamed]
  cases stack.builds.lookup name with
  | none => simp
  | some config => simp [lookup_targets]

/-- Every publication that is made has its destination and its dependency, and
nothing else is published. -/
structure Published (stack : OuterStack) (resolved : Resolved) (publications : Publications) :
    Prop where
  made : ∀ name config target, stack.builds.lookup name = some config →
    target ∈ targets stack name →
    ∃ publication, (buildsAt publications target).lookup name = some publication
  defined : ∀ name target publication,
    (buildsAt publications target).lookup name = some publication →
    stack.builds.lookup name = some publication.config ∧ target ∈ targets stack name ∧
      publication.build = name ∧ publication.target = target ∧
      (destinations stack resolved).lookup target = some publication.destination ∧
      (registryDependencies stack).lookup target = some publication.dependency

theorem published_all (stack : OuterStack) (resolved : Resolved) :
    Published stack resolved (allPublications stack resolved) := by
  constructor
  · intro name config target built member
    exact ⟨_, by rw [lookup_buildsAt, if_pos member, built, Option.map_some]⟩
  · intro name target publication found
    rw [lookup_buildsAt] at found
    by_cases member : target ∈ targets stack name
    · rw [if_pos member] at found
      obtain ⟨config, built, rfl⟩ := Option.map_eq_some_iff.mp found
      exact ⟨built, member, rfl, rfl, lookup_of_target stack _ _ name config built target member,
        lookup_of_target stack _ _ name config built target member⟩
    · rw [if_neg member] at found
      exact nomatch found

/-! Which reference a cluster is given. -/

def targetOf : WorkloadClusterCopy → Target
  | .localClass _ => .localRegistry
  | .aks _ | .azureBYO _ => .acr

def slinkyOf : WorkloadClusterCopy → SlinkyCopy
  | .localClass held => held.slinky
  | .aks held => held.slinky
  | .azureBYO held => held.slinky

/-- The image is the first reference of the publication of a build to a target. -/
def ImageFrom (stack : OuterStack) (resolved : Resolved) (publications : Publications)
    (target : Target) (name : NonEmptyStr) (image : Option SlinkyImageConfig) : Prop :=
  ∃ publication reference parsed,
    (buildsAt publications target).lookup name = some publication ∧
    publication.destination = destinationOf resolved target ∧
    firstReference stack.commits publication = some reference ∧
    Text.startsWith reference (publication.destination.consumerServer ++ "/") = true ∧
    slinkyImageConfig reference = .ok parsed ∧ image = some parsed

def charts (held : SlinkyCopy) : String × Bool × String × String × String :=
  (held.chartOciPrefix, held.chartPlainHttp, held.operatorCrdsChartVersion,
    held.operatorChartVersion, held.slurmChartVersion)

/-- A cluster without the fields that the overrides name for its class. -/
def unnamed : WorkloadClusterCopy → WorkloadClusterCopy
  | .localClass held => .localClass
      { held with registry := none, customRegistry := none, slinky := unnamedSlinky held.slinky }
  | .aks held => .aks
      { acr := none, identities := none, slinky := unnamedSlinky held.slinky
        parameters := { held.parameters with resourceGroup := none
                                             useDiscoveredResourceGroup := false } }
  | .azureBYO held => .azureBYO { held with acr := none, slinky := unnamedSlinky held.slinky }
where
  unnamedSlinky (held : SlinkyCopy) : SlinkyCopy :=
    { chartOciPrefix := "", chartPlainHttp := false, operatorCrdsChartVersion := ""
      operatorChartVersion := "", slurmChartVersion := "", operatorImage := none
      webhookImage := none, imagePullSecrets := held.imagePullSecrets }

section Routed

variable (stack : OuterStack) (resolved : Resolved) (publications : Publications)

/-- With a build for the image there is an override, and without one there is none. -/
def ImageRouted (target : Target) (name : NonEmptyStr) (before after : Option SlinkyImageConfig) :
    Prop :=
  if (stack.builds.lookup name).isSome then
    ImageFrom stack resolved publications target name after
  else after = before

structure ClusterRouted (before after : WorkloadClusterCopy) : Prop where
  operator : ImageRouted stack resolved publications (targetOf before) slinkyOperatorImageKey
    (slinkyOf before).operatorImage (slinkyOf after).operatorImage
  webhook : ImageRouted stack resolved publications (targetOf before) slinkyWebhookImageKey
    (slinkyOf before).webhookImage (slinkyOf after).webhookImage
  charts : charts (slinkyOf after) = charts (slinkyOf before) ∨
    (ImageFrom stack resolved publications (targetOf before) slinkyOperatorImageKey
      (slinkyOf after).operatorImage ∧
    ImageFrom stack resolved publications (targetOf before) slinkyWebhookImageKey
      (slinkyOf after).webhookImage)
  fields : unnamed after = unnamed before

end Routed

structure Routed (stack : OuterStack) (resolved : Resolved) (outcome : Outcome) : Prop where
  keys : outcome.config.tenants.workloadClusters.keys =
    outcome.configured.tenants.workloadClusters.keys
  clusters : ∀ name before after,
    (name, before) ∈ outcome.configured.tenants.workloadClusters.entries →
    (name, after) ∈ outcome.config.tenants.workloadClusters.entries →
    ClusterRouted stack resolved outcome.publications before after

/-! References of the image builds. -/

/-- An image has one reference, at the server its consumers pull from. -/
theorem artifactRefs_image (commits : NonEmptyStr → Target → String) (publication : Publication)
    (made : publication.config.builder = .dockerImage) :
    ∃ image : NonEmptyStr, artifactRefs commits publication =
      [(image.text, publication.destination.consumerServer ++ "/" ++ image.text ++ ":" ++
        sourceTag (commits publication.build publication.target))] := by
  cases built : publication.config with
  | dockerImage source config =>
      refine ⟨config.imageName, ?_⟩
      rw [artifactRefs, built]
      rfl
  | capzBundle source =>
      rw [built] at made
      exact nomatch made
  | slinkyCharts source =>
      rw [built] at made
      exact nomatch made

theorem imageRole (name : NonEmptyStr) (member : name ∈ slinkyImageKeys) :
    (name, Builder.dockerImage) ∈ roles := by
  simp only [slinkyImageKeys, List.mem_cons, List.not_mem_nil, or_false] at member
  rcases member with rfl | rfl <;> simp [roles]

section Sources

variable (stack : OuterStack) (resolved : Resolved)

theorem image_published (valid : validateBuildConsumers stack.builds = .ok ()) (target : Target)
    (name : NonEmptyStr) (image : name ∈ slinkyImageKeys) (member : target ∈ targets stack name)
    (built : (stack.builds.lookup name).isSome = true) :
    ∃ publication key reference,
      (buildsAt (allPublications stack resolved) target).lookup name = some publication ∧
      artifactRefs stack.commits publication = [(key, reference)] ∧
      ∀ parsed, slinkyImageConfig reference = .ok parsed →
        ImageFrom stack resolved (allPublications stack resolved) target name (some parsed) := by
  obtain ⟨config, found⟩ := Option.isSome_iff_exists.mp built
  have made := builder_of_validated stack.builds valid _ (imageRole name image) config found
  have published : (buildsAt (allPublications stack resolved) target).lookup name =
      some (publicationOf resolved name config target) := by
    rw [lookup_buildsAt, if_pos member, found, Option.map_some]
  obtain ⟨repository, refs⟩ :=
    artifactRefs_image stack.commits (publicationOf resolved name config target) made
  refine ⟨_, repository.text, _, published, refs, ?_⟩
  intro parsed checked
  have pulled : Text.startsWith ((publicationOf resolved name config target).destination.consumerServer
      ++ "/" ++ repository.text ++ ":" ++ sourceTag (stack.commits name target))
      ((publicationOf resolved name config target).destination.consumerServer ++ "/") = true := by
    rw [String.append_assoc, String.append_assoc]
    exact Text.startsWith_append _ _
  exact ⟨_, _, parsed, published, rfl, by rw [firstReference, refs]; rfl, pulled, checked, rfl⟩

theorem not_published (target : Target) (name : NonEmptyStr)
    (absent : ¬ (stack.builds.lookup name).isSome = true) :
    (buildsAt (allPublications stack resolved) target).lookup name = none := by
  rw [Option.not_isSome_iff_eq_none] at absent
  rw [lookup_buildsAt, absent]
  split <;> rfl

/-- The updates that a cluster is given for a target. -/
structure UpdatesRouted (target : Target) (updates : SlinkyUpdates) : Prop where
  operator : ImageRouted stack resolved (allPublications stack resolved) target
    slinkyOperatorImageKey none updates.operatorImage
  webhook : ImageRouted stack resolved (allPublications stack resolved) target
    slinkyWebhookImageKey none updates.webhookImage
  charts : (updates.chartOciPrefix = none ∧ updates.chartVersion = none) ∨
    ((stack.builds.lookup slinkyOperatorImageKey).isSome = true ∧
      (stack.builds.lookup slinkyWebhookImageKey).isSome = true)

/-- Charts are only built together with both images. -/
theorem images_of_charts (valid : validateBuildConsumers stack.builds = .ok ())
    (built : (stack.builds.lookup slinkyChartsBuildKey).isSome = true) (name : NonEmptyStr)
    (image : name ∈ slinkyImageKeys) : (stack.builds.lookup name).isSome = true := by
  unfold validateBuildConsumers at valid
  cases wrong : roles.find? (wrongBuilder stack.builds) with
  | some role =>
      rw [wrong] at valid
      cases valid
  | none =>
      rw [wrong] at valid
      by_cases missing : missingImages stack.builds = []
      · have present := List.filter_eq_nil_iff.mp missing name image
        exact Option.isSome_iff_ne_none.mpr (by simpa using present)
      · dsimp only at valid
        rw [built, Bool.true_and, if_pos (by simpa using missing)] at valid
        cases valid

theorem charts_routed (valid : validateBuildConsumers stack.builds = .ok ()) :
    (chartOciPrefix stack resolved (allPublications stack resolved) = none ∧
      chartVersion stack (allPublications stack resolved) = none) ∨
    ((stack.builds.lookup slinkyOperatorImageKey).isSome = true ∧
      (stack.builds.lookup slinkyWebhookImageKey).isSome = true) := by
  by_cases built : (stack.builds.lookup slinkyChartsBuildKey).isSome = true
  · right
    constructor
    · exact images_of_charts stack valid built _ (by simp [slinkyImageKeys])
    · exact images_of_charts stack valid built _ (by simp [slinkyImageKeys])
  · left
    have absent : slinkyCharts (allPublications stack resolved) = none :=
      not_published stack resolved .localRegistry slinkyChartsBuildKey built
    rw [chartOciPrefix, chartVersion, absent]
    exact ⟨ite_self _, rfl⟩

theorem imageRouted_or (target : Target) (name : NonEmptyStr)
    (update before : Option SlinkyImageConfig)
    (routed : ImageRouted stack resolved (allPublications stack resolved) target name none update) :
    ImageRouted stack resolved (allPublications stack resolved) target name before
      (update.or before) := by
  unfold ImageRouted at routed ⊢
  by_cases built : (stack.builds.lookup name).isSome = true
  · rw [if_pos built] at routed ⊢
    obtain ⟨publication, reference, parsed, found, destination, first, pulled, checked, rfl⟩ := routed
    exact ⟨publication, reference, parsed, found, destination, first, pulled, checked, rfl⟩
  · rw [if_neg built] at routed ⊢
    rw [routed, Option.none_or]

theorem imageFrom_of_routed (target : Target) (name : NonEmptyStr)
    (before after : Option SlinkyImageConfig)
    (built : (stack.builds.lookup name).isSome = true)
    (routed : ImageRouted stack resolved (allPublications stack resolved) target name before after) :
    ImageFrom stack resolved (allPublications stack resolved) target name after := by
  rwa [ImageRouted, if_pos built] at routed

/-- A cluster whose Slinky deployment is updated so is routed. -/
theorem clusterRouted_of_updates (before after : WorkloadClusterCopy) (updates : SlinkyUpdates)
    (routed : UpdatesRouted stack resolved (targetOf before) updates)
    (updated : slinkyOf after = updateSlinky (slinkyOf before) updates)
    (fields : unnamed after = unnamed before) :
    ClusterRouted stack resolved (allPublications stack resolved) before after := by
  have operator := imageRouted_or stack resolved _ _ _ (slinkyOf before).operatorImage
    routed.operator
  have webhook := imageRouted_or stack resolved _ _ _ (slinkyOf before).webhookImage routed.webhook
  constructor
  · rw [updated]
    exact operator
  · rw [updated]
    exact webhook
  · rw [updated]
    rcases routed.charts with ⟨source, version⟩ | ⟨first, second⟩
    · left
      simp [charts, updateSlinky, source, version]
    · right
      constructor
      · exact imageFrom_of_routed stack resolved _ _ _ _ first operator
      · exact imageFrom_of_routed stack resolved _ _ _ _ second webhook
  · exact fields

/-! Local clusters. -/

theorem local_mem_targets (some_local : hasLocal stack.initStack = true) (name : NonEmptyStr) :
    Target.localRegistry ∈ targets stack name := by
  unfold targets buildDestinations
  rw [some_local]
  split <;> simp

theorem localImage_routed (valid : validateBuildConsumers stack.builds = .ok ())
    (some_local : hasLocal stack.initStack = true) (name : NonEmptyStr)
    (image : name ∈ slinkyImageKeys) (override : Option SlinkyImageConfig)
    (ran : StackOverrides.optionalImageConfig
      (localRef stack (allPublications stack resolved) name) = .ok override) :
    ImageRouted stack resolved (allPublications stack resolved) .localRegistry name none
      override := by
  unfold ImageRouted
  by_cases built : (stack.builds.lookup name).isSome = true
  · obtain ⟨publication, key, reference, found, refs, routed⟩ :=
      image_published stack resolved valid .localRegistry name image
        (local_mem_targets stack some_local name) built
    rw [localRef, found, Option.bind_some, firstReference, refs] at ran
    obtain ⟨parsed, checked, rfl⟩ := (Effect.map_eq_ok _ _ _).mp ran
    rw [if_pos built]
    exact routed parsed checked
  · rw [localRef, not_published stack resolved .localRegistry name built] at ran
    cases ran
    rw [if_neg built]

theorem localCluster_routed (valid : validateBuildConsumers stack.builds = .ok ())
    (some_local : hasLocal stack.initStack = true) (cache : LocalPortRegistrySetting)
    (before after : LocalClusterCopy)
    (ran : mergeLocalCluster (localOverrides stack resolved (allPublications stack resolved))
      { before with registry := some cache } = .ok after) :
    ClusterRouted stack resolved (allPublications stack resolved) (.localClass before)
      (.localClass after) := by
  obtain ⟨operator, webhook, custom, first, second, -, rfl⟩ := mergeLocalCluster_ok _ _ _ ran
  refine clusterRouted_of_updates stack resolved _ _ _ ?_ rfl rfl
  constructor
  · exact localImage_routed stack resolved valid some_local _ (by simp [slinkyImageKeys]) _ first
  · exact localImage_routed stack resolved valid some_local _ (by simp [slinkyImageKeys]) _ second
  · exact charts_routed stack resolved valid

/-! Azure clusters. -/

theorem acr_mem_targets (azure : hasAzure stack.initStack = true) (name : NonEmptyStr)
    (image : name ∈ slinkyImageKeys) : Target.acr ∈ targets stack name := by
  unfold targets buildDestinations
  rw [if_pos (by simp [azure, image])]
  split <;> simp

theorem azureImage_routed (valid : validateBuildConsumers stack.builds = .ok ())
    (azure : hasAzure stack.initStack = true) (name : NonEmptyStr)
    (image : name ∈ slinkyImageKeys) (override : Option SlinkyImageConfig)
    (ran : builtImage (azureOverrides stack resolved (allPublications stack resolved)).imageRefs
      name = .ok override) :
    ImageRouted stack resolved (allPublications stack resolved) .acr name none override := by
  have refs_of : (azureOverrides stack resolved (allPublications stack resolved)).imageRefs.lookup
      name = ((buildsAt (allPublications stack resolved) .acr).lookup name).map
        (artifactRefs stack.commits) := Mapping.lookup_mapValues _ _ _
  unfold ImageRouted
  unfold builtImage at ran
  by_cases built : (stack.builds.lookup name).isSome = true
  · obtain ⟨publication, key, reference, found, refs, routed⟩ :=
      image_published stack resolved valid .acr name image (acr_mem_targets stack azure name image)
        built
    rw [refs_of, found, Option.map_some, refs] at ran
    rw [if_pos built]
    dsimp only at ran
    cases checked : slinkyImageConfig reference with
    | error failure =>
        rw [checked] at ran
        exact nomatch ran
    | ok parsed =>
        rw [checked] at ran
        cases ran
        exact routed parsed checked
  · rw [refs_of, not_published stack resolved .acr name built] at ran
    cases ran
    rw [if_neg built]

theorem azureSlinky_routed (valid : validateBuildConsumers stack.builds = .ok ())
    (azure : hasAzure stack.initStack = true) (before after : SlinkyCopy)
    (ran : mergeAzureSlinky (azureOverrides stack resolved (allPublications stack resolved)) before =
      .ok after) :
    ∃ updates, UpdatesRouted stack resolved .acr updates ∧ after = updateSlinky before updates := by
  unfold mergeAzureSlinky at ran
  obtain ⟨operator, first, ran⟩ := (Effect.bind_eq_ok _ _ _).mp ran
  obtain ⟨webhook, second, ran⟩ := (Effect.bind_eq_ok _ _ _).mp ran
  cases ran
  refine ⟨_, ?_, rfl⟩
  constructor
  · exact azureImage_routed stack resolved valid azure _ (by simp [slinkyImageKeys]) _ first
  · exact azureImage_routed stack resolved valid azure _ (by simp [slinkyImageKeys]) _ second
  · exact charts_routed stack resolved valid

theorem azureCluster_routed (valid : validateBuildConsumers stack.builds = .ok ())
    (azure : hasAzure stack.initStack = true) (name : DnsLabel) (before after : WorkloadClusterCopy)
    (placed : targetOf before = .acr)
    (ran : mergeAzureCluster (azureOverrides stack resolved (allPublications stack resolved)) name
      before = .ok after) :
    ClusterRouted stack resolved (allPublications stack resolved) before after := by
  cases before with
  | localClass held => exact nomatch placed
  | azureBYO held =>
      obtain ⟨slinky, first, ran⟩ := (Effect.bind_eq_ok _ _ _).mp ran
      obtain ⟨updates, routed, rfl⟩ := azureSlinky_routed stack resolved valid azure _ _ first
      cases ran
      exact clusterRouted_of_updates stack resolved _ _ updates routed rfl rfl
  | aks held =>
      obtain ⟨slinky, first, ran⟩ := (Effect.bind_eq_ok _ _ _).mp ran
      obtain ⟨updates, routed, rfl⟩ := azureSlinky_routed stack resolved valid azure _ _ first
      obtain ⟨identities, -, ran⟩ := (Effect.bind_eq_ok _ _ _).mp ran
      obtain ⟨group, -, ran⟩ := (Effect.bind_eq_ok _ _ _).mp ran
      cases ran
      exact clusterRouted_of_updates stack resolved _ _ updates routed rfl rfl

end Sources

/-! The whole run. -/

theorem mergeLocal_of_with (config overridden : InitStackCopy) (overrides : LocalSlinkyOverrides)
    (done : withLocalSlinkyOverrides config overrides = .ok overridden) :
    mergeLocalSlinkyOverrides config overrides = .ok overridden := by
  unfold withLocalSlinkyOverrides at done
  split at done
  case isTrue nothing =>
    -- A merge that is skipped would have changed nothing.
    have kept := Mapping.traverse_of_total (mergeLocalWorkload {}) id
      config.tenants.workloadClusters (fun entry _ => by cases entry.2 <;> rfl)
    have same : config.tenants.workloadClusters.mapValues id = config.tenants.workloadClusters :=
      Mapping.eq_of_entries _ _ (List.map_id _)
    cases done
    rw [nothing, mergeLocalSlinkyOverrides, kept, same]
    rfl
  case isFalse => exact done

theorem tenants_mergeCapz (config : InitStackCopy) (providerOci controllerImage : Option String) :
    (mergeCapzProviderOverrides config providerOci controllerImage).tenants = config.tenants := by
  unfold mergeCapzProviderOverrides
  split
  · rfl
  · split
    · rfl
    · split <;> rfl

section Run

variable (stack : OuterStack) (resolved : Resolved) (publications : Publications)
variable (configured config : InitStackCopy)

/-- What happened to a cluster on its way through the overrides. -/
def Step (cache : LocalPortRegistrySetting) (name : DnsLabel) (before after : WorkloadClusterCopy) :
    Prop :=
  ∃ middle,
    mergeLocalWorkload (localOverrides stack resolved publications) (withRegistry cache before) =
      .ok middle ∧
    if hasAzure stack.initStack then
      mergeAzureCluster (azureOverrides stack resolved publications) name middle = .ok after
    else after = middle

theorem overrideStack_ok
    (done : overrideStack stack resolved publications configured = .ok config) :
    ∃ cache, localPortRegistrySetting stack.cachePort = .ok cache ∧
      config.tenants.workloadClusters.keys = configured.tenants.workloadClusters.keys ∧
      ∀ name after, (name, after) ∈ config.tenants.workloadClusters.entries →
        ∃ before, (name, before) ∈ configured.tenants.workloadClusters.entries ∧
          Step stack resolved publications cache name before after := by
  unfold overrideStack at done
  obtain ⟨cache, checked, done⟩ := (Effect.bind_eq_ok _ _ _).mp done
  have cached := (Effect.mapError_eq_ok _ _ _).mp checked
  obtain ⟨overridden, merged, done⟩ := (Effect.bind_eq_ok _ _ _).mp done
  have merging := mergeLocal_of_with _ _ _ ((Effect.mapError_eq_ok _ _ _).mp merged)
  obtain ⟨clusters, traversed, rfl⟩ := (Effect.map_eq_ok _ _ _).mp merging
  rw [tenants_mergeCapz] at traversed
  have keys : clusters.keys = configured.tenants.workloadClusters.keys := by
    rw [Mapping.keys_traverse _ _ clusters traversed]
    simp [withLocalRegistryConfig, withWorkloadClusters, Mapping.keys, Mapping.mapValues,
      Function.comp_def]
  have merged_from : ∀ name middle, (name, middle) ∈ clusters.entries →
      ∃ before, (name, before) ∈ configured.tenants.workloadClusters.entries ∧
        mergeLocalWorkload (localOverrides stack resolved publications)
          (withRegistry cache before) = .ok middle := by
    intro name middle member
    obtain ⟨based, inside, ran⟩ := (Mapping.mem_traverse _ _ clusters traversed _).mp member
    obtain ⟨before, here, same⟩ := (Mapping.mem_mapValues _ _ _).mp inside
    exact ⟨before, here, same ▸ ran⟩
  split at done
  case isTrue azure =>
    have merging := (Effect.mapError_eq_ok _ _ _).mp done
    obtain ⟨placed, visited, rfl⟩ := (Effect.map_eq_ok _ _ _).mp merging
    refine ⟨cache, cached, ?_, ?_⟩
    · exact (Mapping.keys_traverseNamed _ _ placed visited).trans keys
    · intro name after member
      obtain ⟨middle, inside, ran⟩ := (Mapping.mem_traverseNamed _ _ placed visited _).mp member
      obtain ⟨before, here, first⟩ := merged_from name middle inside
      exact ⟨before, here, middle, first, by rwa [if_pos azure]⟩
  case isFalse local_only =>
    cases done
    refine ⟨cache, cached, ?_, ?_⟩
    · exact keys
    · intro name after member
      obtain ⟨before, here, first⟩ := merged_from name after member
      exact ⟨before, here, after, first, by rw [if_neg local_only]⟩

/-- The Azure overrides leave a Local cluster as it is. -/
theorem step_local (cache : LocalPortRegistrySetting) (name : DnsLabel) (held : LocalClusterCopy)
    (after : WorkloadClusterCopy)
    (step : Step stack resolved publications cache name (.localClass held) after) :
    ∃ merged, after = .localClass merged ∧
      mergeLocalCluster (localOverrides stack resolved publications)
        { held with registry := some cache } = .ok merged := by
  obtain ⟨middle, first, second⟩ := step
  obtain ⟨merged, ran, rfl⟩ := (Effect.map_eq_ok _ _ _).mp first
  refine ⟨merged, ?_, ran⟩
  split at second
  · exact (Except.ok.inj second).symm
  · exact second

/-- The other overrides leave a cluster of Azure as it is. -/
theorem step_azure (cache : LocalPortRegistrySetting) (name : DnsLabel)
    (before after : WorkloadClusterCopy) (placed : targetOf before = .acr)
    (azure : hasAzure stack.initStack = true)
    (step : Step stack resolved publications cache name before after) :
    mergeAzureCluster (azureOverrides stack resolved publications) name before = .ok after := by
  obtain ⟨middle, first, second⟩ := step
  have untouched : middle = before := by
    cases before with
    | localClass held => exact nomatch placed
    | azureBYO held => exact (Except.ok.inj first).symm
    | aks held => exact (Except.ok.inj first).symm
  rwa [if_pos azure, untouched] at second

end Run

/-- A cluster stays of the class that the configuration gives it. -/
theorem configured_class (stack : OuterStack) (username : Option String) (name : DnsLabel)
    (held : WorkloadClusterCopy)
    (member : (name, held) ∈ (withOwnerTagConfig (initStackCopies.copy stack.initStack) none
      username).tenants.workloadClusters.entries) :
    (targetOf held = .localRegistry ∧ hasLocal stack.initStack = true) ∨
      (targetOf held = .acr ∧ hasAzure stack.initStack = true) := by
  have known : ∃ cluster, (name, cluster) ∈ stack.initStack.tenants.workloadClusters.entries ∧
      targetOf held = targetOf (workloadClusterCopies.copy cluster) := by
    unfold withOwnerTagConfig at member
    split at member
    case h_1 =>
      obtain ⟨cluster, here, rfl⟩ := (Mapping.mem_mapValues _ _ _).mp member
      exact ⟨cluster, here, rfl⟩
    case h_2 owner _ =>
      obtain ⟨copied, inside, rfl⟩ := (Mapping.mem_mapValues _ _ _).mp member
      obtain ⟨cluster, here, rfl⟩ := (Mapping.mem_mapValues _ _ _).mp inside
      exact ⟨cluster, here, by cases cluster <;> rfl⟩
  obtain ⟨cluster, here, same⟩ := known
  cases cluster with
  | localClass cluster =>
      exact Or.inl ⟨same, List.any_eq_true.mpr ⟨_, here, rfl⟩⟩
  | azureBYO cluster => exact Or.inr ⟨same, List.any_eq_true.mpr ⟨_, here, rfl⟩⟩
  | aks cluster => exact Or.inr ⟨same, List.any_eq_true.mpr ⟨_, here, rfl⟩⟩

theorem step_routed (stack : OuterStack) (resolved : Resolved)
    (valid : validateBuildConsumers stack.builds = .ok ()) (cache : LocalPortRegistrySetting)
    (name : DnsLabel) (before after : WorkloadClusterCopy)
    (placed : (targetOf before = .localRegistry ∧ hasLocal stack.initStack = true) ∨
      (targetOf before = .acr ∧ hasAzure stack.initStack = true))
    (step : Step stack resolved (allPublications stack resolved) cache name before after) :
    ClusterRouted stack resolved (allPublications stack resolved) before after := by
  rcases placed with ⟨target, some_local⟩ | ⟨target, azure⟩
  · cases before with
    | azureBYO held => exact nomatch target
    | aks held => exact nomatch target
    | localClass held =>
        obtain ⟨merged, rfl, ran⟩ := step_local stack resolved _ cache name held after step
        exact localCluster_routed stack resolved valid some_local cache held merged ran
  · have ran := step_azure stack resolved _ cache name before after target azure step
    exact azureCluster_routed stack resolved valid azure name before after target ran

/-- What a run that completes has done. -/
theorem runStack_ok (stack : OuterStack) (resolved : Resolved) (outcome : Outcome)
    (done : runStack stack resolved = .ok outcome) :
    validateBuildConsumers stack.builds = .ok () ∧
      outcome.publications = allPublications stack resolved ∧
      outcome.configured =
        withOwnerTagConfig (initStackCopies.copy stack.initStack) none resolved.username ∧
      overrideStack stack resolved outcome.publications outcome.configured = .ok outcome.config := by
  unfold runStack at done
  obtain ⟨_, validated, done⟩ := (Effect.bind_eq_ok _ _ _).mp done
  have valid := (Effect.mapError_eq_ok _ _ _).mp validated
  dsimp only at done
  split at done
  case isTrue => exact nomatch done
  case isFalse =>
    obtain ⟨publications, published, done⟩ := (Effect.bind_eq_ok _ _ _).mp done
    obtain ⟨config, overridden, done⟩ := (Effect.bind_eq_ok _ _ _).mp done
    cases done
    cases (publish_ok stack resolved).symm.trans published
    exact ⟨valid, rfl, rfl, overridden⟩

/-- Every publication has its destination and dependency, and in a run that completes
each cluster is given the references of its own side. -/
theorem build_routing_sound (stack : OuterStack) (resolved : Resolved) :
    (∃ publications, publish stack resolved = .ok publications ∧
      Published stack resolved publications) ∧
    ∀ outcome, runStack stack resolved = .ok outcome → Routed stack resolved outcome := by
  constructor
  · exact ⟨_, publish_ok stack resolved, published_all stack resolved⟩
  · intro outcome done
    obtain ⟨valid, publications, configured, overridden⟩ := runStack_ok stack resolved outcome done
    obtain ⟨cache, -, keys, traced⟩ := overrideStack_ok stack resolved _ _ _ overridden
    constructor
    · exact keys
    · intro name before after first second
      obtain ⟨held, here, step⟩ := traced name after second
      cases Mapping.eq_of_mem _ name before held first here
      rw [configured] at first
      rw [publications] at step ⊢
      exact step_routed stack resolved valid cache name before after
        (configured_class stack resolved.username name before first) step

/-! A Local and an AKS cluster, with charts and both images. -/

def imageBuild (name : NonEmptyStr) : BuildConfig := .dockerImage
  { sourcePath := some ⟨"/src/operator", by decide⟩, sourceRef := ⟨"main", by decide⟩
    exactlyOne := by decide } { imageName := name }

def mixedStack : OuterStack where
  builds :=
    { entries :=
        [(slinkyOperatorImageKey, imageBuild ⟨"slurm/operator", by decide⟩),
          (slinkyWebhookImageKey, imageBuild ⟨"slurm/webhook", by decide⟩),
          (slinkyChartsBuildKey, .slinkyCharts
            { sourcePath := some ⟨"/src/operator", by decide⟩, sourceRef := ⟨"main", by decide⟩
              exactlyOne := by decide })]
      unique := by decide }
  initStack := { tenants := { workloadClusters := { entries :=
    [(⟨"edge", by decide⟩, .localClass .plain), (⟨"cloud", by decide⟩, .aks (.at UUID.nil eastus))] } } }
  commits _ _ := "0f3c9a1b22d4e5f60718293a4b5c6d7e8f901234"
  cachePort := 5001

def mixedResolved : Resolved where
  username := some "slinky"
  customRegistry := { registryName := some "custom-registry", port := some 5002 }
  acr := { server := ⟨"shared.azurecr.io", by decide⟩, resourceId := ⟨"/shared-acr", by decide⟩ }
  identities _ := { controlPlaneResourceId := ⟨"/shared-plane", by decide⟩
                    kubeletResourceId := ⟨"/shared-kubelet", by decide⟩ }
  resourceGroups _ := "shared-aks"

theorem mixed_stack_routed :
    ∃ outcome, runStack mixedStack mixedResolved = .ok outcome ∧
      Routed mixedStack mixedResolved outcome := by
  have completes : (runStack mixedStack mixedResolved).isOk = true := by decide +kernel
  cases ran : runStack mixedStack mixedResolved with
  | error failure =>
      rw [ran] at completes
      exact nomatch completes
  | ok outcome =>
      exact ⟨outcome, rfl, (build_routing_sound mixedStack mixedResolved).2 outcome ran⟩

end ClusterApiForSlinky.BuildRouting
