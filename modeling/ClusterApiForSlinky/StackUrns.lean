import ClusterApiForSlinky.BuildRouting
import ClusterApiForSlinky.ResourceUrns

/-!
The resources that `run_stack` (stack.py) registers, in a run in which nothing
raises. The components that are made once keep what is below them apart from
everything else; of these only the component is named here.
-/

namespace ClusterApiForSlinky.StackUrns
open ModelCodec ConfigModel WorkloadConfig ConfigHandoff StackBuilds BuildRouting ResourceUrns
open TenantObjects (DnsLabel)

/-- The type of every dynamic resource that names no other. -/
def dynamicType : String := "pulumi-python:dynamic:Resource"
def azureProvider : String := "pulumi:providers:azure-native"
def resourceGroup : String := "azure-native:resources:ResourceGroup"
def userAssignedIdentity : String := "azure-native:managedidentity:UserAssignedIdentity"
def roleAssignment : String := "azure-native:authorization:RoleAssignment"
def registryType : String := "ca4s:registry:EphemeralAzureRegistry"
def identitiesType : String := "ca4s:azure:AKSClusterIdentities"
def pullAccessType : String := "ca4s:registry:AzurePullAccess"

def dynamicResource (name : String) : Registration := { type := dynamicType, name }

/-! Azure components. -/

def ephemeralAzureContainerRegistry : Registration where
  type := registryType
  name := "workload-registry"
  suffixes :=
    [(azureProvider, "-provider"), (resourceGroup, "-rg"),
      ("azure-native:containerregistry:Registry", "")]

def aksClusterIdentities (name : String) : Registration where
  type := identitiesType
  name := name
  suffixes :=
    [(azureProvider, "-provider"), (resourceGroup, "-rg"),
      (userAssignedIdentity, "-control-plane"), (userAssignedIdentity, "-kubelet"),
      (roleAssignment, "-kubelet-operator"), (roleAssignment, "-network")]

/-- The identity is looked up through a provider of its own where only its id is known. -/
def pullAccessSuffixes (byResourceId : Bool) : List (String × String) :=
  [(azureProvider, "-registry-provider")] ++
  (if byResourceId then [(azureProvider, "-identity-provider")] else []) ++
  [(roleAssignment, "-acr-pull")]

def azureContainerRegistryPullAccess (name : String) (byResourceId : Bool) : Registration :=
  { type := pullAccessType, name, suffixes := pullAccessSuffixes byResourceId }

section

variable (stack : OuterStack)

def clusters : List (DnsLabel × WorkloadClusterConfig) :=
  stack.initStack.tenants.workloadClusters.entries

def aksInstances : List String :=
  ((clusters stack).filter (fun entry => isAKS entry.2)).map (fun entry => entry.1.text)

def hasBYO : Bool := (clusters stack).any (fun entry => isBYO entry.2)

def aksResources (instanceName : String) : List Registration :=
  [aksClusterIdentities (instanceName ++ "-identities"),
    azureContainerRegistryPullAccess (instanceName ++ "-registry") false]

def azureResources : List Registration :=
  if hasAzure stack.initStack then
    [ephemeralAzureContainerRegistry] ++ (aksInstances stack).flatMap aksResources ++
      if hasBYO stack then [azureContainerRegistryPullAccess "byo-registry" true] else []
  else []

def publicationName (build : NonEmptyStr) : Target → String
  | .localRegistry => "build-" ++ build.text
  | .acr => "build-" ++ build.text ++ "-acr"

def publicationNames (build : NonEmptyStr) : List String :=
  (targets stack build).map (publicationName build)

/-- One `PublishedArtifacts` for each build and each of its targets. -/
def publishedArtifacts : List Registration :=
  (stack.builds.keys.flatMap (publicationNames stack)).map dynamicResource

def customRegistry : List Registration :=
  if hasCustomRegistry stack then [dynamicResource "custom-registry"] else []

def customRegistryService : List Registration :=
  if hasCustomRegistry stack then
    [{ type := "ca4s:local:CtlptlRegistryService", name := "custom-registry-service" }]
  else []

/-- `run_stack`, in its order. -/
def registrations : List Registration :=
  azureResources stack ++
  [dynamicResource "cache-registry"] ++
  customRegistry stack ++
  publishedArtifacts stack ++
  [dynamicResource "mgmt",
    { type := "pulumi:providers:kubernetes", name := "mgmt-k8s" },
    { type := "kubernetes:core/v1:Namespace", name := "pko-ns" }] ++
  customRegistryService stack ++
  [dynamicResource "lb",
    { type := "ca4s:fluxcd:FluxInfrastructure", name := "flux" },
    { type := "ca4s:gitrepo:GitOpsRepository", name := "gitops" },
    { type := "ca4s:pko:PKOBootstrap", name := "pko" },
    { type := "ca4s:gitrepo:GitOpsWebhook", name := "gitops-flux-webhook" }]

end

/-! What is registered, type by type. -/

/-- The components whose children are named after them. -/
def parents : List (String × List (String × String)) :=
  [(registryType, ephemeralAzureContainerRegistry.suffixes),
    (identitiesType, (aksClusterIdentities "").suffixes),
    (pullAccessType, pullAccessSuffixes false), (pullAccessType, pullAccessSuffixes true)]

/-- The types of the components that `run_stack` makes once. -/
def singleTypes : List String :=
  ["pulumi:providers:kubernetes", "kubernetes:core/v1:Namespace",
    "ca4s:local:CtlptlRegistryService", "ca4s:fluxcd:FluxInfrastructure",
    "ca4s:gitrepo:GitOpsRepository", "ca4s:pko:PKOBootstrap", "ca4s:gitrepo:GitOpsWebhook",
    registryType]

def types : List String := [dynamicType, identitiesType, pullAccessType] ++ singleTypes

structure Known (one : Registration) : Prop where
  type : one.type ∈ types
  suffixes : one.suffixes = [] ∨ (one.type, one.suffixes) ∈ parents

instance (one : Registration) : Decidable (Known one) :=
  decidable_of_iff (one.type ∈ types ∧ (one.suffixes = [] ∨ (one.type, one.suffixes) ∈ parents))
    ⟨fun both => ⟨both.1, both.2⟩, fun known => ⟨known.type, known.suffixes⟩⟩

theorem known_dynamic (name : String) : Known (dynamicResource name) :=
  ⟨List.mem_cons_self, Or.inl rfl⟩

theorem known_aks (instanceName : String) (one : Registration)
    (member : one ∈ aksResources instanceName) : Known one := by
  have types : identitiesType ∈ types ∧ pullAccessType ∈ types := by decide
  have listed : (identitiesType, (aksClusterIdentities "").suffixes) ∈ parents ∧
      (pullAccessType, pullAccessSuffixes false) ∈ parents := by decide
  simp only [aksResources, List.mem_cons, List.not_mem_nil, or_false] at member
  rcases member with rfl | rfl
  · exact ⟨types.1, Or.inr listed.1⟩
  · exact ⟨types.2, Or.inr listed.2⟩

section

variable (stack : OuterStack)

theorem known_azure (one : Registration) (member : one ∈ azureResources stack) : Known one := by
  rw [azureResources] at member
  split at member
  · rw [List.mem_append, List.mem_append] at member
    rcases member with (registry | aks) | byo
    · rw [List.mem_singleton.mp registry]
      decide
    · obtain ⟨instanceName, _, made⟩ := List.mem_flatMap.mp aks
      exact known_aks instanceName one made
    · split at byo
      · rw [List.mem_singleton.mp byo]
        decide
      · cases byo
  · cases member

theorem known_custom (one : Registration)
    (member : one ∈ customRegistry stack ∨ one ∈ customRegistryService stack) : Known one := by
  rcases member with registry | service
  · rw [customRegistry] at registry
    split at registry
    · rw [List.mem_singleton.mp registry]
      exact known_dynamic _
    · cases registry
  · rw [customRegistryService] at service
    split at service
    · rw [List.mem_singleton.mp service]
      decide
    · cases service

theorem known_of_mem (one : Registration) (member : one ∈ registrations stack) : Known one := by
  have listed : ∀ made : List Registration, (∀ each ∈ made, Known each) → one ∈ made → Known one :=
    fun _ every here => every one here
  simp only [registrations, List.mem_append] at member
  rcases member with ((((((azure | cache) | custom) | published) | cluster) | service) | rest)
  · exact known_azure stack one azure
  · exact listed _ (by decide) cache
  · exact known_custom stack one (Or.inl custom)
  · obtain ⟨name, _, rfl⟩ := List.mem_map.mp published
    exact known_dynamic name
  · exact listed _ (by decide) cluster
  · exact known_custom stack one (Or.inr service)
  · exact listed _ (by decide) rest

theorem stack_nodup_iff_named :
    (urns (registrations stack)).Nodup ↔
      ∀ type ∈ types, (named type (registrations stack)).Nodup := by
  have lone : ∀ entry ∈ parents, entry.2.Nodup := by decide
  have apart : ∀ first ∈ parents, ∀ second ∈ parents, first.1 = second.1 →
      SuffixesApart first.2 second.2 := by decide
  rw [nodup_urns, nodup_keys_iff types]
  · exact fun one member => (known_of_mem stack one member).type
  · intro one member
    rcases (known_of_mem stack one member).suffixes with none | parent
    · rw [none]
      exact List.nodup_nil
    · exact lone _ parent
  · intro first left second right same
    rcases (known_of_mem stack first left).suffixes with none | parent
    · rw [none]
      exact fun _ nothing => absurd nothing List.not_mem_nil
    · rcases (known_of_mem stack second right).suffixes with none | other
      · rw [none]
        exact fun _ _ _ nothing => absurd nothing List.not_mem_nil
      · exact apart _ parent _ other same

theorem named_published (type : String) :
    named type (publishedArtifacts stack) =
      if dynamicType = type then stack.builds.keys.flatMap (publicationNames stack) else [] := by
  rw [publishedArtifacts]
  generalize stack.builds.keys.flatMap (publicationNames stack) = names
  induction names with
  | nil => simp
  | cons name rest ih =>
      rw [List.map_cons, named_cons, ih]
      by_cases same : dynamicType = type
      · simp [dynamicResource, same]
      · simp [dynamicResource, same]

theorem named_aks (type : String) (instances : List String) :
    named type (instances.flatMap aksResources) =
      if identitiesType = type then instances.map (fun name => name ++ "-identities")
      else if pullAccessType = type then instances.map (fun name => name ++ "-registry")
      else [] := by
  have apart : identitiesType ≠ pullAccessType := by decide
  induction instances with
  | nil => simp
  | cons first rest ih =>
      rw [List.flatMap_cons, named_append, ih]
      by_cases identities : identitiesType = type
      · subst identities
        simp [aksResources, aksClusterIdentities, azureContainerRegistryPullAccess, apart.symm]
      · by_cases grants : pullAccessType = type
        · subst grants
          simp [aksResources, aksClusterIdentities, azureContainerRegistryPullAccess, apart]
        · simp [aksResources, aksClusterIdentities, azureContainerRegistryPullAccess, identities,
            grants]

/-- The names of the pull grants. -/
def grantNames : List String :=
  (aksInstances stack).map (fun name => name ++ "-registry") ++
    if hasBYO stack then ["byo-registry"] else []

theorem azure_of_instances (azure : hasAzure stack.initStack = false) :
    aksInstances stack = [] ∧ hasBYO stack = false := by
  have all : ∀ entry ∈ clusters stack, isLocal entry.2 = true := by
    intro entry member
    have each := List.any_eq_false.mp azure entry member
    simpa using each
  constructor
  · rw [aksInstances, List.map_eq_nil_iff, List.filter_eq_nil_iff]
    intro entry member aks
    have local_ := all entry member
    cases kind : entry.2 <;> simp [kind, isLocal, isAKS] at local_ aks
  · rw [hasBYO, List.any_eq_false]
    intro entry member byo
    have local_ := all entry member
    cases kind : entry.2 <;> simp [kind, isLocal, isBYO] at local_ byo

theorem named_azure (type : String) :
    named type (azureResources stack) =
      if registryType = type then (if hasAzure stack.initStack then ["workload-registry"] else [])
      else if identitiesType = type then
        (aksInstances stack).map (fun name => name ++ "-identities")
      else if pullAccessType = type then grantNames stack
      else [] := by
  have registry : ephemeralAzureContainerRegistry.type = registryType := rfl
  have first : registryType ≠ identitiesType := by decide
  have second : registryType ≠ pullAccessType := by decide
  have third : identitiesType ≠ pullAccessType := by decide
  rw [azureResources]
  cases azure : hasAzure stack.initStack with
  | false =>
      obtain ⟨nobody, nothing⟩ := azure_of_instances stack azure
      simp [nobody, nothing, grantNames]
  | true =>
      have byo : named type (if hasBYO stack then
          [azureContainerRegistryPullAccess "byo-registry" true] else []) =
          if pullAccessType = type then (if hasBYO stack then ["byo-registry"] else []) else [] := by
        cases hasBYO stack <;> simp [azureContainerRegistryPullAccess]
      rw [if_pos rfl, named_append, named_append, named_aks, named_cons, named_nil, byo, registry]
      by_cases same : registryType = type
      · subst same
        simp [first.symm, second.symm, ephemeralAzureContainerRegistry]
      · by_cases identities : identitiesType = type
        · subst identities
          simp [first, third.symm]
        · by_cases grants : pullAccessType = type
          · subst grants
            simp [second, third, grantNames]
          · simp [same, identities, grants]

theorem named_custom (type : String) :
    named type (customRegistry stack) =
      if dynamicType = type then
        (if hasCustomRegistry stack then ["custom-registry"] else []) else [] := by
  rw [customRegistry]
  cases hasCustomRegistry stack <;> simp [dynamicResource]

theorem named_service (type : String) :
    named type (customRegistryService stack) =
      if "ca4s:local:CtlptlRegistryService" = type then
        (if hasCustomRegistry stack then ["custom-registry-service"] else []) else [] := by
  rw [customRegistryService]
  cases hasCustomRegistry stack <;> simp

theorem named_pullAccess : named pullAccessType (registrations stack) = grantNames stack := by
  simp [registrations, named_azure, named_custom, named_published, named_service, dynamicResource,
    registryType, identitiesType, pullAccessType, dynamicType]

theorem named_identities : named identitiesType (registrations stack) =
    (aksInstances stack).map (fun name => name ++ "-identities") := by
  simp [registrations, named_azure, named_custom, named_published, named_service, dynamicResource,
    registryType, identitiesType, dynamicType]

theorem named_dynamic : named dynamicType (registrations stack) =
    ["cache-registry"] ++ (if hasCustomRegistry stack then ["custom-registry"] else []) ++
      stack.builds.keys.flatMap (publicationNames stack) ++ ["mgmt", "lb"] := by
  simp [registrations, named_azure, named_custom, named_published, named_service, dynamicResource,
    registryType, identitiesType, pullAccessType, dynamicType]

theorem named_single (type : String) (single : type ∈ singleTypes) :
    (named type (registrations stack)).Nodup := by
  simp only [singleTypes, List.mem_cons, List.not_mem_nil, or_false] at single
  cases azure : hasAzure stack.initStack <;> cases custom : hasCustomRegistry stack <;>
    rcases single with rfl | rfl | rfl | rfl | rfl | rfl | rfl | rfl <;>
    simp [registrations, named_azure, named_custom, named_published, named_service,
      dynamicResource, registryType, identitiesType, pullAccessType, dynamicType, azure, custom]

/-! Builds. -/

/-- The image for the Azure clusters is named like another build. -/
def BuildClash : Prop :=
  hasAzure stack.initStack = true ∧ ∃ image ∈ slinkyImageKeys, image ∈ stack.builds.keys ∧
    ∃ build ∈ stack.builds.keys, build.text = image.text ++ "-acr"

theorem publicationName_injective (first second : NonEmptyStr) (target other : Target)
    (same : publicationName first target = publicationName second other) :
    first = second ∧ target = other ∨
      target = .localRegistry ∧ other = .acr ∧ first.text = second.text ++ "-acr" ∨
      target = .acr ∧ other = .localRegistry ∧ second.text = first.text ++ "-acr" := by
  have equal : ∀ one two : NonEmptyStr, one.text = two.text → one = two := by
    rintro ⟨one, _⟩ ⟨two, _⟩ rfl
    rfl
  -- Only the name for Azure is longer than `build-` and the build, by `-acr`.
  cases target <;> cases other <;>
    simp only [publicationName, String.append_assoc, String.append_right_inj,
      String.append_left_inj] at same
  · exact Or.inl ⟨equal _ _ same, rfl⟩
  · exact Or.inr (Or.inl ⟨rfl, rfl, same⟩)
  · exact Or.inr (Or.inr ⟨rfl, rfl, same.symm⟩)
  · exact Or.inl ⟨equal _ _ same, rfl⟩

theorem acr_mem_targets_iff (name : NonEmptyStr) :
    Target.acr ∈ targets stack name ↔
      hasAzure stack.initStack = true ∧ name ∈ slinkyImageKeys := by
  rw [targets, buildDestinations]
  by_cases both : (hasAzure stack.initStack && name ∈ slinkyImageKeys) = true
  · rw [if_pos both]
    simp only [Bool.and_eq_true, decide_eq_true_eq] at both
    split <;> simp [both]
  · rw [if_neg both]
    simp only [Bool.and_eq_true, decide_eq_true_eq] at both
    simp [both]

theorem local_mem_targets (image build : NonEmptyStr) (slinky : image ∈ slinkyImageKeys)
    (named : build.text = image.text ++ "-acr") : Target.localRegistry ∈ targets stack build := by
  have other : build ∉ slinkyImageKeys := by
    have none : ∀ image ∈ slinkyImageKeys, ∀ key ∈ slinkyImageKeys,
        key.text ≠ image.text ++ "-acr" := by decide
    exact fun member => none image slinky build member named
  rw [targets, buildDestinations, if_neg (by simp [other])]
  exact List.mem_singleton.mpr rfl

theorem publicationNames_nodup (build : NonEmptyStr) : (publicationNames stack build).Nodup := by
  have longer : build.text ≠ build.text ++ "-acr" := by
    intro same
    have lengths := congrArg String.length same
    simp at lengths
  rw [publicationNames, targets, buildDestinations]
  apply List.Nodup.map_on
  · intro first _ second _ same
    rcases publicationName_injective build build first second same with
      ⟨_, same⟩ | ⟨_, _, same⟩ | ⟨_, _, same⟩
    · exact same
    · exact absurd same longer
    · exact absurd same longer
  · split
    · split <;> decide
    · decide

theorem builds_meet (first second : NonEmptyStr) (left : first ∈ stack.builds.keys)
    (right : second ∈ stack.builds.keys) (differ : first ≠ second) (clean : ¬BuildClash stack) :
    List.Disjoint (publicationNames stack first) (publicationNames stack second) := by
  intro name member there
  obtain ⟨target, mine, rfl⟩ := List.mem_map.mp member
  obtain ⟨other, its, same⟩ := List.mem_map.mp there
  rcases publicationName_injective second first other target same with
    ⟨same, _⟩ | ⟨_, rfl, longer⟩ | ⟨rfl, _, longer⟩
  · exact differ same.symm
  · obtain ⟨azure, image⟩ := (acr_mem_targets_iff stack first).mp mine
    exact clean ⟨azure, first, image, left, second, right, longer⟩
  · obtain ⟨azure, image⟩ := (acr_mem_targets_iff stack second).mp its
    exact clean ⟨azure, second, image, right, first, left, longer⟩

theorem builds_nodup_iff :
    (stack.builds.keys.flatMap (publicationNames stack)).Nodup ↔ ¬BuildClash stack := by
  have symmetric : Std.Symm (Function.onFun List.Disjoint (publicationNames stack)) :=
    ⟨fun _ _ apart => apart.symm⟩
  rw [List.nodup_flatMap]
  constructor
  · rintro ⟨_, apart⟩ ⟨azure, image, slinky, left, build, right, longer⟩
    have differ : image ≠ build := by
      rintro rfl
      have lengths := congrArg String.length longer
      simp at lengths
    have disjoint := apart.forall left right differ
    apply @disjoint ("build-" ++ build.text)
    · refine List.mem_map.mpr ⟨.acr, (acr_mem_targets_iff stack image).mpr ⟨azure, slinky⟩, ?_⟩
      rw [publicationName, longer, String.append_assoc]
    · exact List.mem_map.mpr ⟨.localRegistry, local_mem_targets stack image build slinky longer, rfl⟩
  · intro clean
    refine ⟨fun build _ => publicationNames_nodup stack build, ?_⟩
    apply List.Nodup.pairwise_of_forall_ne stack.builds.unique
    intro first left second right differ
    exact builds_meet stack first second left right differ clean

theorem dynamic_nodup_iff : (named dynamicType (registrations stack)).Nodup ↔
    ¬BuildClash stack := by
  have starts : ∀ name ∈ stack.builds.keys.flatMap (publicationNames stack),
      name.toList.head? = some 'b' := by
    intro name member
    obtain ⟨build, _, made⟩ := List.mem_flatMap.mp member
    obtain ⟨target, _, rfl⟩ := List.mem_map.mp made
    cases target <;> simp [publicationName]
  rw [named_dynamic, ← builds_nodup_iff]
  apply nodup_between
  · split <;> decide
  · intro name member other
    have others : ∀ name ∈ ["cache-registry", "custom-registry", "mgmt", "lb"],
        name.toList.head? ≠ some 'b' := by decide
    apply others name _ (starts name member)
    split at other <;> simp at other ⊢ <;> tauto

/-! Grants. -/

/-- An AKS instance is called what the grant of the BYO clusters is called. -/
def GrantClash : Prop :=
  (∃ entry ∈ clusters stack, entry.1.text = "byo" ∧ isAKS entry.2 = true) ∧ hasBYO stack = true

theorem mem_aksInstances (instanceName : String) : instanceName ∈ aksInstances stack ↔
    ∃ entry ∈ clusters stack, entry.1.text = instanceName ∧ isAKS entry.2 = true := by
  rw [aksInstances]
  constructor
  · intro member
    obtain ⟨entry, kept, named⟩ := List.mem_map.mp member
    obtain ⟨here, aks⟩ := List.mem_filter.mp kept
    exact ⟨entry, here, named, aks⟩
  · rintro ⟨entry, here, named, aks⟩
    exact List.mem_map.mpr ⟨entry, List.mem_filter.mpr ⟨here, aks⟩, named⟩

theorem instances_nodup : (aksInstances stack).Nodup := by
  have names : ((clusters stack).map (fun entry => entry.1.text)).Nodup := by
    have texts : Function.Injective DnsLabel.text := by
      rintro ⟨first, _⟩ ⟨second, _⟩ rfl
      rfl
    have unique := stack.initStack.tenants.workloadClusters.unique.map texts
    rwa [List.map_map] at unique
  exact names.sublist (List.filter_sublist.map _)

theorem suffixed_nodup (suffix : String) :
    ((aksInstances stack).map (fun name => name ++ suffix)).Nodup := by
  apply (instances_nodup stack).map
  exact fun first second same => (String.append_left_inj suffix).mp same

theorem grants_nodup_iff : (grantNames stack).Nodup ↔ ¬GrantClash stack := by
  have byo : "byo-registry" ∈ (aksInstances stack).map (fun name => name ++ "-registry") ↔
      ∃ entry ∈ clusters stack, entry.1.text = "byo" ∧ isAKS entry.2 = true := by
    rw [← mem_aksInstances, List.mem_map]
    constructor
    · rintro ⟨name, member, same⟩
      have named : name = "byo" := (String.append_left_inj "-registry").mp same
      exact named ▸ member
    · exact fun member => ⟨"byo", member, rfl⟩
  rw [grantNames, GrantClash, ← byo]
  cases hasBYO stack with
  | false => simp [suffixed_nodup stack "-registry"]
  | true =>
      rw [if_pos rfl, List.nodup_append']
      simp [suffixed_nodup stack "-registry"]

/-- `run_stack` registers each of its resources under a URN of its own exactly when
no image for the Azure clusters is named like another build and no AKS instance is
called what the grant of the BYO clusters is called. -/
theorem stack_urns_distinct_iff :
    (urns (registrations stack)).Nodup ↔ ¬BuildClash stack ∧ ¬GrantClash stack := by
  rw [stack_nodup_iff_named]
  constructor
  · intro each
    have dynamic := each dynamicType (by decide)
    have grants := each pullAccessType (by decide)
    rw [named_pullAccess] at grants
    exact ⟨(dynamic_nodup_iff stack).mp dynamic, (grants_nodup_iff stack).mp grants⟩
  · rintro ⟨builds, grants⟩ type known
    rcases List.mem_append.mp known with several | single
    · simp only [List.mem_cons, List.not_mem_nil, or_false] at several
      rcases several with rfl | rfl | rfl
      · exact (dynamic_nodup_iff stack).mpr builds
      · rw [named_identities]
        exact suffixed_nodup stack "-identities"
      · rw [named_pullAccess]
        exact (grants_nodup_iff stack).mpr grants
    · exact named_single stack type single

end

end ClusterApiForSlinky.StackUrns
