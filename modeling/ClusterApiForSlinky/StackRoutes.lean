import ClusterApiForSlinky.BuildRouting
import ClusterApiForSlinky.RegistryCalls

/-!
The custom registry of the outer stack (stack.py): the provider makes or adopts
it, images are published under the name it recorded, and each Local workload
cluster routes a registry name that is passed on separately.
-/

namespace ClusterApiForSlinky.StackRoutes
open ModelCodec RegistrySetting WorkloadConfig ConfigHandoff ConfigCopies StackBuilds StackMerges
  LocalRegistryRoutes
open ArtifactRegistry (sourceTag)
open BuildRouting hiding Failure Outcome runStack runStack_ok Routed ImageRouted
open StackOverrides (slinkyImageConfig localPortRegistrySetting)
open TenantObjects (DnsLabel)

def customRegistryEnv : List String := ["CA4S_REGISTRY_MODE=custom-registry"]

def customRegistryProps (config : CustomRegistryConfig) : CtlptlRegistry.Props where
  registryName := some config.name.text
  port := config.port.map StrictPositiveInt.value
  env := some customRegistryEnv
  autonameSeed := some "custom-registry"

inductive Failure where
  | registry (failure : CtlptlRegistry.Failure)
  | stack (failure : BuildRouting.Failure)

/-- What the provider of the custom registry records, when the stack has one. -/
def recordedRegistry (host : CtlptlRegistry.Host) (world : CtlptlRegistry.World)
    (stack : OuterStack) : Except Failure (Option CtlptlRegistry.Props) :=
  if hasCustomRegistry stack then
    match (CtlptlRegistry.create host (customRegistryProps stack.customRegistry) world).1 with
    | .error failure => .error (.registry failure)
    | .ok made => .ok (some made.outs)
  else .ok none

/-- What the provider recorded, what was overridden and with what result. -/
structure Outcome where
  recorded : Option CtlptlRegistry.Props
  overrides : LocalSlinkyOverrides
  config : InitStackCopy

/-- `run_stack` on a host. The builds and the routes use what the provider records
there; everything else is resolved as given. -/
def runStack (host : CtlptlRegistry.Host) (world : CtlptlRegistry.World) (stack : OuterStack)
    (resolved : Resolved) : Except Failure Outcome := do
  -- No registry is made for builds that are refused.
  (validateBuildConsumers stack.builds).mapError (fun message => .stack (.builds message))
  let recorded ← recordedRegistry host world stack
  let resolved := { resolved with customRegistry := recorded.getD resolved.customRegistry }
  let outcome ← (BuildRouting.runStack stack resolved).mapError .stack
  return { recorded, overrides := localOverrides stack resolved outcome.publications
           config := outcome.config }

/-! What it means that an image is routed. -/

/-- The operator and webhook images that came from a build. -/
def injectedImages (overrides : LocalSlinkyOverrides) (cluster : LocalClusterCopy) :
    List SlinkyImageConfig :=
  (if overrides.operatorImage.isSome then cluster.slinky.operatorImage.toList else []) ++
    (if overrides.webhookImage.isSome then cluster.slinky.webhookImage.toList else [])

/-- The cluster's own routes name the host. -/
def NamesRoute (routes : RegistryRoutes) (registryHost : String) : Prop :=
  ∃ key ∈ routes.keys, key.text = registryHost

/-- The image is pulled from the registry the provider recorded, and unless the
cluster routes that host itself, it is routed to the port the provider observed. -/
structure ImageRouted (recorded : CtlptlRegistry.Props) (cluster : LocalClusterCopy)
    (image : SlinkyImageConfig) : Prop where
  pulled : Text.startsWith image.repository.text (consumerServer recorded ++ "/") = true
  routed : ¬ NamesRoute cluster.registryRoutes (consumerServer recorded) →
    ∃ routes route, localRegistryRoutes cluster.registry cluster.customRegistry
        cluster.registryRoutes = some routes ∧
      routes.lookup (consumerServer recorded) = some route ∧
      route.hosts.map (fun host => host.gatewayPort.map StrictPositiveInt.value) = [recorded.port]

def Routed (outcome : Outcome) : Prop :=
  ∀ recorded name cluster image, outcome.recorded = some recorded →
    (name, .localClass cluster) ∈ outcome.config.tenants.workloadClusters.entries →
    image ∈ injectedImages outcome.overrides cluster → ImageRouted recorded cluster image

/-! Which registry the provider adopts. -/

/-- What `create` looks for among the listed registries. -/
def adoptable (config : CustomRegistryConfig) (item : CtlptlRegistry.RegistryObject) : Bool :=
  (CtlptlRegistry.registryName item).any (fun name => Text.startsWith name config.name.text) &&
    CtlptlRegistry.envIsCompatible item (some customRegistryEnv) &&
    config.port.all (fun port => CtlptlRegistry.registryPort item = some port.value)

def listed (host : CtlptlRegistry.Host) (world : CtlptlRegistry.World) :
    List CtlptlRegistry.RegistryObject :=
  if host.fails .getRegistries || host.garbled .getRegistries then [] else world.registries

theorem adoptable_suits (config : CustomRegistryConfig) :
    adoptable config = RegistryCalls.suits config.name.text (some customRegistryEnv)
      (config.port.map StrictPositiveInt.value) := by
  funext item
  cases pinned : config.port <;> simp [adoptable, RegistryCalls.suits, pinned]

theorem firstRegistry_listed (host : CtlptlRegistry.Host) (world : CtlptlRegistry.World)
    (installed : host.installed = true) (start : String) (env : Option (List String))
    (port : Option Int) :
    (CtlptlRegistry.firstRegistryWithPrefix host start env port world).1 =
      CtlptlRegistry.firstMatch start env port (listed host world) := by
  unfold CtlptlRegistry.firstRegistryWithPrefix listed
  cases failed : host.fails .getRegistries <;> cases garbled : host.garbled .getRegistries <;>
    simp [CtlptlRegistry.runCommand, CtlptlRegistry.serve, CtlptlRegistry.firstMatch, installed,
      failed]

/-- The name is that of the first adoptable registry, or the configured one. -/
theorem create_names (host : CtlptlRegistry.Host) (world : CtlptlRegistry.World)
    (config : CustomRegistryConfig) (made : CtlptlRegistry.CreateResult)
    (success : (CtlptlRegistry.create host (customRegistryProps config) world).1 = .ok made) :
    made.id = (((listed host world).find? (adoptable config)).bind
      CtlptlRegistry.registryName).getD config.name.text := by
  have fresh : ∀ world, (CtlptlRegistry.createNew host (customRegistryProps config) world).1 =
      .ok made → made.id = config.name.text := by
    intro world success
    obtain ⟨port, rfl, -⟩ := RegistryCalls.createNew_port host _ world made success
    have named : config.name.text ≠ "" := of_decide_eq_true config.name.accepted
    exact RegistryCalls.newName_pinned host _ _
      ((Text.nonempty_eq_some _ _).mpr ⟨rfl, named⟩)
  -- A configured port is positive, so `create` does not take it for absent.
  have port : CtlptlRegistry.nonzero (customRegistryProps config).port =
      config.port.map StrictPositiveInt.value := by
    cases pinned : config.port with
    | none => simp [customRegistryProps, CtlptlRegistry.nonzero, pinned]
    | some wanted =>
        have positive := wanted.positive
        have real : wanted.value ≠ 0 := by omega
        simp [customRegistryProps, CtlptlRegistry.nonzero, pinned, Option.filter, real]
  unfold CtlptlRegistry.create at success
  split at success
  case isTrue => cases success
  case isFalse installed =>
    rw [Bool.not_eq_true', Bool.not_eq_false] at installed
    have looked := firstRegistry_listed host world installed config.name.text
      (some customRegistryEnv) (config.port.map StrictPositiveInt.value)
    rw [if_pos (show CtlptlRegistry.adoptExistingProp (customRegistryProps config) = true from rfl),
      port] at success
    split at success
    case h_1 => cases success
    case h_2 name observed after found =>
      cases success
      have names := RegistryCalls.firstMatch_names _ _ _ _ _
        (looked.symm.trans (congrArg Prod.fst found))
      rw [adoptable_suits, ← names]
      rfl
    case h_3 after found =>
      have names := RegistryCalls.firstMatch_names _ _ _ _ _
        (looked.symm.trans (congrArg Prod.fst found))
      rw [adoptable_suits, ← names]
      exact fresh after success

/-! References and images. -/

def BuildsImages (builds : Builds) : Prop :=
  ∃ name ∈ slinkyImageKeys, (builds.lookup name).isSome = true

section References

variable (stack : OuterStack) (resolved : Resolved)

/-- An image is published under the name the provider recorded. -/
theorem localRef_shape (valid : validateBuildConsumers stack.builds = .ok ()) (name : NonEmptyStr)
    (image : name ∈ slinkyImageKeys) (reference : String)
    (given : localRef stack (allPublications stack resolved) name = some reference) :
    (stack.builds.lookup name).isSome = true ∧ ∃ image tag : String,
      reference = consumerServer resolved.customRegistry ++ "/" ++ image ++ ":" ++ tag := by
  obtain ⟨publication, found, first⟩ := Option.bind_eq_some_iff.mp given
  rw [lookup_buildsAt] at found
  split at found
  case isFalse => cases found
  case isTrue =>
    obtain ⟨config, built, rfl⟩ := Option.map_eq_some_iff.mp found
    have made := builder_of_validated stack.builds valid _ (imageRole name image) config built
    obtain ⟨repository, refs⟩ := artifactRefs_image stack.commits
      (publicationOf resolved name config .localRegistry) made
    rw [firstReference, refs] at first
    exact ⟨by rw [built]; rfl, repository.text, _, (Option.some.inj first).symm⟩

theorem localRef_of_build (valid : validateBuildConsumers stack.builds = .ok ())
    (some_local : hasLocal stack.initStack = true) (name : NonEmptyStr)
    (image : name ∈ slinkyImageKeys) (built : (stack.builds.lookup name).isSome = true) :
    (localRef stack (allPublications stack resolved) name).isSome = true := by
  obtain ⟨publication, key, reference, found, refs, -⟩ :=
    image_published stack resolved valid .localRegistry name image
      (local_mem_targets stack some_local name) built
  rw [localRef, found, Option.bind_some, firstReference, refs]
  rfl

end References

theorem image_of_reference (overrides : LocalSlinkyOverrides) (held merged : LocalClusterCopy)
    (done : mergeLocalCluster overrides held = .ok merged) (image : SlinkyImageConfig)
    (injected : image ∈ injectedImages overrides merged) :
    ∃ reference, (overrides.operatorImage = some reference ∨
      overrides.webhookImage = some reference) ∧ slinkyImageConfig reference = .ok image := by
  obtain ⟨operator, webhook, custom, first, second, -, rfl⟩ := mergeLocalCluster_ok _ _ _ done
  rcases List.mem_append.mp injected with fromOperator | fromWebhook
  · cases given : overrides.operatorImage with
    | none => simp [given] at fromOperator
    | some reference =>
        rw [given] at first
        obtain ⟨parsed, ran, rfl⟩ := (Effect.map_eq_ok _ _ _).mp first
        have same : image = parsed := by simpa [given, updateSlinky] using fromOperator
        exact ⟨reference, Or.inl rfl, same ▸ ran⟩
  · cases given : overrides.webhookImage with
    | none => simp [given] at fromWebhook
    | some reference =>
        rw [given] at second
        obtain ⟨parsed, ran, rfl⟩ := (Effect.map_eq_ok _ _ _).mp second
        have same : image = parsed := by simpa [given, updateSlinky] using fromWebhook
        exact ⟨reference, Or.inr rfl, same ▸ ran⟩

theorem reference_of_image (overrides : LocalSlinkyOverrides) (held merged : LocalClusterCopy)
    (done : mergeLocalCluster overrides held = .ok merged)
    (given : overrides.operatorImage.isSome = true ∨ overrides.webhookImage.isSome = true) :
    ∃ image, image ∈ injectedImages overrides merged := by
  obtain ⟨operator, webhook, custom, first, second, -, rfl⟩ := mergeLocalCluster_ok _ _ _ done
  rcases given with given | given
  · obtain ⟨reference, same⟩ := Option.isSome_iff_exists.mp given
    rw [same] at first
    obtain ⟨parsed, -, rfl⟩ := (Effect.map_eq_ok _ _ _).mp first
    exact ⟨parsed, List.mem_append_left _ (by simp [given, updateSlinky])⟩
  · obtain ⟨reference, same⟩ := Option.isSome_iff_exists.mp given
    rw [same] at second
    obtain ⟨parsed, -, rfl⟩ := (Effect.map_eq_ok _ _ _).mp second
    exact ⟨parsed, List.mem_append_right _ (by simp [given, updateSlinky])⟩

/-! One run. -/

theorem mem_configured (config : InitStackConfig) (username : Option String) (name : DnsLabel)
    (held : LocalClusterCopy) :
    (name, .localClass held) ∈ (withOwnerTagConfig (initStackCopies.copy config) none
        username).tenants.workloadClusters.entries ↔
      ∃ given, (name, .localClass given) ∈ config.tenants.workloadClusters.entries ∧
        localClusterCopy given = held := by
  have copied : (name, .localClass held) ∈
      (initStackCopies.copy config).tenants.workloadClusters.entries ↔
      ∃ given, (name, .localClass given) ∈ config.tenants.workloadClusters.entries ∧
        localClusterCopy given = held := by
    apply (Mapping.mem_mapValues _ _ _).trans
    constructor
    · rintro ⟨value, member, same⟩
      cases value with
      | localClass given =>
          cases same
          exact ⟨given, member, rfl⟩
      | azureBYO _ => exact nomatch same
      | aks _ => exact nomatch same
    · rintro ⟨given, member, rfl⟩
      exact ⟨.localClass given, member, rfl⟩
  rw [← copied]
  unfold withOwnerTagConfig
  split
  case h_1 => rfl
  case h_2 owner _ =>
    apply (Mapping.mem_mapValues _ _ _).trans
    constructor
    · rintro ⟨value, member, same⟩
      cases value with
      | localClass given =>
          cases same
          exact member
      | azureBYO _ => exact nomatch same
      | aks _ => exact nomatch same
    · exact fun member => ⟨.localClass held, member, rfl⟩

/-- A Local cluster of a completed run is one of the configuration with the cache registry
and the overrides, and every one of the configuration is there. -/
theorem local_traced (stack : OuterStack) (resolved : Resolved) (outcome : BuildRouting.Outcome)
    (done : BuildRouting.runStack stack resolved = .ok outcome) :
    ∃ cache, localPortRegistrySetting stack.cachePort = .ok cache ∧
      (∀ name after,
        (name, .localClass after) ∈ outcome.config.tenants.workloadClusters.entries →
        ∃ given, (name, .localClass given) ∈ stack.initStack.tenants.workloadClusters.entries ∧
          mergeLocalCluster (localOverrides stack resolved outcome.publications)
            { localClusterCopy given with registry := some cache } = .ok after) ∧
      ∀ name given,
        (name, .localClass given) ∈ stack.initStack.tenants.workloadClusters.entries →
        ∃ after, (name, .localClass after) ∈ outcome.config.tenants.workloadClusters.entries ∧
          mergeLocalCluster (localOverrides stack resolved outcome.publications)
            { localClusterCopy given with registry := some cache } = .ok after := by
  obtain ⟨valid, publications, configured, overridden⟩ :=
    BuildRouting.runStack_ok stack resolved outcome done
  obtain ⟨cache, cached, keys, traced⟩ := overrideStack_ok stack resolved _ _ _ overridden
  rw [configured] at keys traced
  refine ⟨cache, cached, ?_, ?_⟩
  · intro name after member
    obtain ⟨before, here, step⟩ := traced name (.localClass after) member
    have routed := step_routed stack resolved valid cache name before (.localClass after)
      (configured_class stack resolved.username name before here) (publications ▸ step)
    cases before with
    | azureBYO held => exact nomatch routed.fields
    | aks held => exact nomatch routed.fields
    | localClass held =>
        obtain ⟨given, known, rfl⟩ := (mem_configured _ _ name held).mp here
        obtain ⟨merged, same, ran⟩ := step_local stack resolved _ cache name _ _ step
        cases same
        exact ⟨given, known, ran⟩
  · intro name given known
    have here := (mem_configured _ resolved.username name _).mpr ⟨given, known, rfl⟩
    have present : name ∈ outcome.config.tenants.workloadClusters.keys := by
      rw [keys]
      exact List.mem_map_of_mem here
    obtain ⟨⟨_, after⟩, member, rfl⟩ := List.mem_map.mp present
    obtain ⟨before, there, step⟩ := traced _ after member
    cases Mapping.eq_of_mem _ _ _ _ here there
    obtain ⟨merged, rfl, ran⟩ := step_local stack resolved _ cache _ _ _ step
    exact ⟨merged, member, ran⟩

/-- A run that completes validated the builds; if it has a registry, the provider
made or adopted it. -/
theorem recordedRegistry_ok (host : CtlptlRegistry.Host) (world : CtlptlRegistry.World)
    (stack : OuterStack) (recorded : Option CtlptlRegistry.Props)
    (done : recordedRegistry host world stack = .ok recorded) :
    recorded.isSome = hasCustomRegistry stack ∧
      ∀ props, recorded = some props → ∃ port,
        recordedName props = (((listed host world).find? (adoptable stack.customRegistry)).bind
          CtlptlRegistry.registryName).getD stack.customRegistry.name.text ∧
        props.port = some port := by
  unfold recordedRegistry at done
  split at done
  case isFalse unneeded =>
    cases done
    exact ⟨(Bool.eq_false_iff.mpr unneeded).symm, nofun⟩
  case isTrue needed =>
    split at done
    case h_1 => exact nomatch done
    case h_2 made success =>
      cases done
      refine ⟨needed.symm, ?_⟩
      rintro _ ⟨⟩
      -- Adopted or created, the record has the port that was observed.
      obtain ⟨port, created⟩ := RegistryCalls.create_created host _ world made success
      obtain ⟨adopted, outs⟩ := created.recorded
      refine ⟨port, ?_, congrArg CtlptlRegistry.Props.port outs⟩
      rw [← create_names host world stack.customRegistry made success, outs]
      rfl

/-- What a run that completes has done: the builds are published under what was recorded. -/
structure Ran (host : CtlptlRegistry.Host) (world : CtlptlRegistry.World) (stack : OuterStack)
    (outcome : Outcome) (resolved : Resolved) : Prop where
  valid : validateBuildConsumers stack.builds = .ok ()
  registry : recordedRegistry host world stack = .ok outcome.recorded
  passed : ∀ recorded, outcome.recorded = some recorded → resolved.customRegistry = recorded
  overrides : outcome.overrides = localOverrides stack resolved (allPublications stack resolved)
  config : ∃ ran, BuildRouting.runStack stack resolved = .ok ran ∧ ran.config = outcome.config

theorem runStack_ran (host : CtlptlRegistry.Host) (world : CtlptlRegistry.World)
    (stack : OuterStack) (given : Resolved) (outcome : Outcome)
    (done : runStack host world stack given = .ok outcome) :
    ∃ resolved, Ran host world stack outcome resolved := by
  unfold runStack at done
  obtain ⟨_, validated, done⟩ := (Effect.bind_eq_ok _ _ _).mp done
  obtain ⟨recorded, registry, done⟩ := (Effect.bind_eq_ok _ _ _).mp done
  obtain ⟨ran, stacked, done⟩ := (Effect.bind_eq_ok _ _ _).mp done
  cases done
  have completed := (Effect.mapError_eq_ok _ _ _).mp stacked
  obtain ⟨-, publications, -, -⟩ := BuildRouting.runStack_ok stack _ ran completed
  refine ⟨_, (Effect.mapError_eq_ok _ _ _).mp validated, registry, ?_, ?_, ran, completed, rfl⟩
  · rintro _ rfl
    rfl
  · rw [publications]

section Overrides

variable (stack : OuterStack) (resolved : Resolved)

/-- The arguments of `_with_local_slinky_overrides` once everything is published. -/
def passedOverrides : LocalSlinkyOverrides :=
  localOverrides stack resolved (allPublications stack resolved)

/-- The routes of an overridden cluster name its custom registry as configured. -/
theorem merged_routes (custom : hasCustomRegistry stack = true) (cache : LocalPortRegistrySetting)
    (cached : localPortRegistrySetting stack.cachePort = .ok cache)
    (port : Int) (observed : resolved.customRegistry.port = some port)
    (overridden : (passedOverrides stack resolved).operatorImage.isSome = true ∨
      (passedOverrides stack resolved).webhookImage.isSome = true)
    (held merged : LocalClusterCopy)
    (done : mergeLocalCluster (passedOverrides stack resolved)
      { held with registry := some cache } = .ok merged) :
    ∃ routes positive, localRegistryRoutes merged.registry merged.customRegistry
        merged.registryRoutes = some routes ∧
      ∀ name, ¬ NamesRoute held.registryRoutes (endpoint name) →
        if name = stack.customRegistry.name.text then
          ∃ route, routes.lookup (endpoint name) = some route ∧
            route.hosts.map ContainerdHostConfig.gatewayPort = [some ⟨port, positive⟩]
        else routes.lookup (endpoint name) = none := by
  obtain ⟨_, _, setting, -, -, third, rfl⟩ := mergeLocalCluster_ok _ _ _ done
  -- Name and port of the registry are passed on together with any override.
  have some_image : ((slinkyCharts (allPublications stack resolved)).isSome ||
      (localRef stack (allPublications stack resolved) slinkyOperatorImageKey).isSome ||
      (localRef stack (allPublications stack resolved) slinkyWebhookImageKey).isSome) = true := by
    rcases overridden with operator | webhook
    · rw [show (localRef stack (allPublications stack resolved) slinkyOperatorImageKey).isSome =
        true from operator, Bool.or_true, Bool.true_or]
    · rw [show (localRef stack (allPublications stack resolved) slinkyWebhookImageKey).isSome =
        true from webhook, Bool.or_true]
  have name : (passedOverrides stack resolved).registryName =
      some stack.customRegistry.name.text := if_pos some_image
  have passed : (passedOverrides stack resolved).registryPort = some port := by
    rw [← observed]
    exact if_pos (by rw [custom, Bool.true_and]; exact some_image)
  rw [name, passed] at third
  obtain ⟨setting, valid, rfl⟩ := (Effect.map_eq_ok _ _ _).mp third
  obtain ⟨settingName, literal, positive⟩ :=
    StackOverrides.localCustomRegistrySetting_ok _ _ setting valid
  obtain ⟨cacheLiteral, cachePositive⟩ :=
    StackOverrides.localPortRegistrySetting_ok _ cache cached
  obtain ⟨routes, computed, found⟩ := lookup_localRegistryRoutes cache setting
    held.registryRoutes stack.cachePort port cacheLiteral cachePositive literal positive
  refine ⟨routes, positive, computed, ?_⟩
  intro name unnamed
  rw [← settingName]
  apply found name
  intro key member same
  exact unnamed ⟨key, member, same⟩

theorem overridden_of_images (valid : validateBuildConsumers stack.builds = .ok ())
    (some_local : hasLocal stack.initStack = true) (images : BuildsImages stack.builds) :
    (passedOverrides stack resolved).operatorImage.isSome = true ∨
      (passedOverrides stack resolved).webhookImage.isSome = true := by
  obtain ⟨name, member, built⟩ := images
  have given := localRef_of_build stack resolved valid some_local name member built
  simp only [slinkyImageKeys, List.mem_cons, List.not_mem_nil, or_false] at member
  rcases member with rfl | rfl
  · exact Or.inl given
  · exact Or.inr given

/-- Whichever build an injected image came from, its reference has the recorded name. -/
theorem reference_published (valid : validateBuildConsumers stack.builds = .ok ())
    (reference : String)
    (given : (passedOverrides stack resolved).operatorImage = some reference ∨
      (passedOverrides stack resolved).webhookImage = some reference) :
    BuildsImages stack.builds ∧ ∃ image tag : String,
      reference = consumerServer resolved.customRegistry ++ "/" ++ image ++ ":" ++ tag := by
  rcases given with operator | webhook
  · have member : slinkyOperatorImageKey ∈ slinkyImageKeys := by simp [slinkyImageKeys]
    obtain ⟨built, shape⟩ := localRef_shape stack resolved valid _ member reference operator
    exact ⟨⟨_, member, built⟩, shape⟩
  · have member : slinkyWebhookImageKey ∈ slinkyImageKeys := by simp [slinkyImageKeys]
    obtain ⟨built, shape⟩ := localRef_shape stack resolved valid _ member reference webhook
    exact ⟨⟨_, member, built⟩, shape⟩

end Overrides

/-! When the name that is passed on is the one that was recorded. -/

/-- The provider adopts a registry whose name only starts with the configured one. -/
def AdoptsOther (host : CtlptlRegistry.Host) (world : CtlptlRegistry.World)
    (config : CustomRegistryConfig) (name : String) : Prop :=
  ((listed host world).find? (adoptable config)).bind CtlptlRegistry.registryName = some name ∧
    name ≠ config.name.text

/-- Then every Local cluster that is given an image routes the registry itself. -/
def RoutesAgree (host : CtlptlRegistry.Host) (world : CtlptlRegistry.World)
    (stack : OuterStack) : Prop :=
  ∀ name, AdoptsOther host world stack.customRegistry name → BuildsImages stack.builds →
    ∀ tenant cluster,
      (tenant, .localClass cluster) ∈ stack.initStack.tenants.workloadClusters.entries →
      NamesRoute cluster.registryRoutes (endpoint name)

theorem hasLocal_of_mem (config : InitStackConfig) (tenant : DnsLabel)
    (cluster : LocalWorkloadClusterConfig)
    (member : (tenant, .localClass cluster) ∈ config.tenants.workloadClusters.entries) :
    hasLocal config = true :=
  List.any_eq_true.mpr ⟨_, member, rfl⟩

theorem needed_of_images (stack : OuterStack) (some_local : hasLocal stack.initStack = true)
    (images : BuildsImages stack.builds) : hasCustomRegistry stack = true := by
  obtain ⟨name, -, built⟩ := images
  obtain ⟨build, found⟩ := Option.isSome_iff_exists.mp built
  exact custom_of_target stack name build found (local_mem_targets stack some_local name)

theorem overridden_of_injected (overrides : LocalSlinkyOverrides) (cluster : LocalClusterCopy)
    (image : SlinkyImageConfig) (injected : image ∈ injectedImages overrides cluster) :
    overrides.operatorImage.isSome = true ∨ overrides.webhookImage.isSome = true := by
  rcases List.mem_append.mp injected with operator | webhook
  · left
    by_contra absent
    rw [if_neg absent] at operator
    exact nomatch operator
  · right
    by_contra absent
    rw [if_neg absent] at webhook
    exact nomatch webhook

theorem routed_of_agree (host : CtlptlRegistry.Host) (world : CtlptlRegistry.World)
    (stack : OuterStack) (given : Resolved) (outcome : Outcome)
    (done : runStack host world stack given = .ok outcome)
    (agree : RoutesAgree host world stack) : Routed outcome := by
  intro recorded tenant cluster image have_registry member injected
  obtain ⟨resolved, ran⟩ := runStack_ran host world stack given outcome done
  obtain ⟨made, observed⟩ := recordedRegistry_ok host world stack _ ran.registry
  obtain ⟨port, name, ported⟩ := observed recorded have_registry
  have passed := ran.passed recorded have_registry
  have custom : hasCustomRegistry stack = true := by rw [← made, have_registry]; rfl
  obtain ⟨result, completed, same⟩ := ran.config
  obtain ⟨cache, cached, traced, -⟩ := local_traced stack resolved result completed
  obtain ⟨-, publications, -, -⟩ := BuildRouting.runStack_ok stack resolved result completed
  rw [ran.overrides] at injected
  rw [← same] at member
  rw [publications] at traced
  have overridden := overridden_of_injected _ cluster image injected
  obtain ⟨config, known, merged⟩ := traced tenant cluster member
  obtain ⟨reference, source, parsed⟩ := image_of_reference _ _ cluster merged image injected
  obtain ⟨images, repository, tag, rfl⟩ :=
    reference_published stack resolved ran.valid reference source
  rw [passed] at parsed
  constructor
  · exact Text.startsWith_trans _ _ _
      (StackOverrides.slinkyImageConfig_repository _ tag image parsed)
      (Text.startsWith_append _ _)
  · intro unnamed
    obtain ⟨routes, positive, computed, found⟩ := merged_routes stack resolved custom cache cached
      port (passed ▸ ported) overridden (localClusterCopy config) cluster merged
    obtain ⟨_, _, _, -, -, -, rfl⟩ := mergeLocalCluster_ok _ _ _ merged
    -- Had another registry been adopted, the cluster would route it itself.
    have named : recordedName recorded = stack.customRegistry.name.text := by
      cases adopted : ((listed host world).find? (adoptable stack.customRegistry)).bind
          CtlptlRegistry.registryName with
      | none => rw [name, adopted, Option.getD_none]
      | some other =>
          by_contra different
          rw [name, adopted, Option.getD_some] at different
          apply unnamed
          rw [consumerServer, name, adopted, Option.getD_some]
          exact agree other ⟨adopted, different⟩ images tenant config known
    have looked := found (recordedName recorded) unnamed
    rw [if_pos named] at looked
    obtain ⟨route, here, ports⟩ := looked
    refine ⟨routes, route, computed, here, ?_⟩
    have values := congrArg (List.map (Option.map StrictPositiveInt.value)) ports
    rw [List.map_map] at values
    rw [ported]
    exact values

theorem agree_of_routed (host : CtlptlRegistry.Host) (world : CtlptlRegistry.World)
    (stack : OuterStack) (given : Resolved) (outcome : Outcome)
    (done : runStack host world stack given = .ok outcome)
    (routed : Routed outcome) : RoutesAgree host world stack := by
  rintro other ⟨adopted, different⟩ images tenant config known
  obtain ⟨resolved, ran⟩ := runStack_ran host world stack given outcome done
  obtain ⟨made, observed⟩ := recordedRegistry_ok host world stack _ ran.registry
  have some_local := hasLocal_of_mem _ tenant config known
  have custom := needed_of_images stack some_local images
  obtain ⟨recorded, have_registry⟩ := Option.isSome_iff_exists.mp (made.trans custom)
  obtain ⟨port, name, ported⟩ := observed recorded have_registry
  have passed := ran.passed recorded have_registry
  obtain ⟨result, completed, same⟩ := ran.config
  obtain ⟨cache, cached, -, reached⟩ := local_traced stack resolved result completed
  obtain ⟨-, publications, -, -⟩ := BuildRouting.runStack_ok stack resolved result completed
  rw [publications] at reached
  have overridden := overridden_of_images stack resolved ran.valid some_local images
  obtain ⟨cluster, member, merged⟩ := reached tenant config known
  -- The cluster has an image of a build, which has to be routed.
  obtain ⟨image, injected⟩ := reference_of_image _ _ cluster merged overridden
  rw [← ran.overrides] at injected
  rw [same] at member
  have served := routed recorded tenant cluster image have_registry member injected
  rw [adopted, Option.getD_some] at name
  rw [← name] at different ⊢
  by_contra unnamed
  -- The routes hold the configured name only, and the adopted one is another.
  obtain ⟨routes, _, computed, found⟩ := merged_routes stack resolved custom cache cached
    port (passed ▸ ported) overridden (localClusterCopy config) cluster merged
  have looked := found (recordedName recorded) unnamed
  rw [if_neg different] at looked
  obtain ⟨_, _, _, -, -, -, rfl⟩ := mergeLocalCluster_ok _ _ _ merged
  obtain ⟨again, route, recomputed, here, -⟩ := served.routed unnamed
  rw [computed] at recomputed
  cases recomputed
  exact nomatch looked.symm.trans here

/-- In a run that completes, the images of every Local cluster are routed to the
registry they are pulled from exactly when that registry has the configured name. -/
theorem images_routed_iff (host : CtlptlRegistry.Host) (world : CtlptlRegistry.World)
    (stack : OuterStack) (resolved : Resolved) (outcome : Outcome)
    (done : runStack host world stack resolved = .ok outcome) :
    Routed outcome ↔ RoutesAgree host world stack := by
  constructor
  · exact agree_of_routed host world stack resolved outcome done
  · exact routed_of_agree host world stack resolved outcome done

/-! A registry that an earlier stack left behind under a longer name, and none. -/

def calmHost : CtlptlRegistry.Host where
  installed := true
  fails _ := false
  garbled _ := false
  freePort := 5005
  tokenHex := "ab12cd34"

def leftBehind : CtlptlRegistry.World where
  registries := [{ name := some "custom-registry-old", port := some 5006
                   env := some customRegistryEnv }]
  log := []

def noRegistry : CtlptlRegistry.World where
  registries := []
  log := []

def operatorStack : OuterStack where
  builds := { entries := [(slinkyOperatorImageKey, .dockerImage
    { sourcePath := some ⟨"/src/slinky", by decide⟩, sourceRef := ⟨"release", by decide⟩
      exactlyOne := by decide }
    { imageName := ⟨"slinkyproject/slurm-operator", by decide⟩ })] }
  commits _ _ := "0f3c9a1b22d4e5f60718293a4b5c6d7e8f901234"
  cachePort := 5001

theorem adopting_completes :
    ∃ outcome, runStack calmHost leftBehind operatorStack mixedResolved = .ok outcome := by
  have completes : (runStack calmHost leftBehind operatorStack mixedResolved).isOk = true := by
    decide +kernel
  cases ran : runStack calmHost leftBehind operatorStack mixedResolved with
  | error failure => rw [ran] at completes; exact nomatch completes
  | ok outcome => exact ⟨outcome, rfl⟩

theorem leftBehind_disagrees : ¬ RoutesAgree calmHost leftBehind operatorStack := by
  intro agree
  have adopts : AdoptsOther calmHost leftBehind operatorStack.customRegistry
      "custom-registry-old" := by
    constructor <;> decide
  obtain ⟨key, member, -⟩ := agree _ adopts
    ⟨slinkyOperatorImageKey, List.mem_cons_self, by decide⟩ _ {} List.mem_cons_self
  exact nomatch member

/-- The images are pulled from custom-registry-old, and custom-registry is routed. -/
theorem adopted_registry_unrouted :
    ¬ ∀ host world stack resolved outcome,
      runStack host world stack resolved = .ok outcome → Routed outcome := by
  intro always
  obtain ⟨outcome, ran⟩ := adopting_completes
  exact leftBehind_disagrees (agree_of_routed calmHost leftBehind operatorStack mixedResolved
    outcome ran (always _ _ _ _ _ ran))

theorem images_routed_leftBehind :
    (∃ outcome, runStack calmHost leftBehind operatorStack mixedResolved = .ok outcome ∧
      ¬ Routed outcome) ∧
    ∃ outcome, runStack calmHost noRegistry operatorStack mixedResolved = .ok outcome ∧
      Routed outcome := by
  constructor
  · obtain ⟨outcome, ran⟩ := adopting_completes
    refine ⟨outcome, ran, ?_⟩
    rw [images_routed_iff calmHost leftBehind operatorStack mixedResolved outcome ran]
    exact leftBehind_disagrees
  · have completes : (runStack calmHost noRegistry operatorStack mixedResolved).isOk = true := by
      decide +kernel
    cases ran : runStack calmHost noRegistry operatorStack mixedResolved with
    | error failure => rw [ran] at completes; exact nomatch completes
    | ok outcome =>
        refine ⟨outcome, rfl, ?_⟩
        rw [images_routed_iff calmHost noRegistry operatorStack mixedResolved outcome ran]
        rintro name ⟨adopted, -⟩
        exact nomatch adopted

end ClusterApiForSlinky.StackRoutes
