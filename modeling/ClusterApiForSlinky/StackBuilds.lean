import ClusterApiForSlinky.ArtifactPublishing
import ClusterApiForSlinky.OrderedMapping

/-!
The builds of the outer stack (stack.py): which builder a deployment requires of
each and where each is published.
-/

namespace ClusterApiForSlinky.StackBuilds
open ModelCodec ArtifactRegistry ArtifactPublishing

def customRegistryName : NonEmptyStr := ⟨"custom-registry", by decide⟩
def capzControllerImageKey : NonEmptyStr := ⟨"capz-controller", by decide⟩
def capzProviderBuildKey : NonEmptyStr := ⟨"capz-provider", by decide⟩
def slinkyChartsBuildKey : NonEmptyStr := ⟨"slinky-charts", by decide⟩
def slinkyOperatorImageKey : NonEmptyStr := ⟨"slurm-operator", by decide⟩
def slinkyWebhookImageKey : NonEmptyStr := ⟨"slurm-operator-webhook", by decide⟩
def slinkyImageKeys : List NonEmptyStr := [slinkyOperatorImageKey, slinkyWebhookImageKey]

inductive Builder where
  | dockerImage
  | capzBundle
  | slinkyCharts
  deriving DecidableEq

def Builder.text : Builder → String
  | .dockerImage => "docker-image"
  | .capzBundle => "capz-bundle"
  | .slinkyCharts => "slinky-charts"

structure DockerImageBuildConfig where
  imageName : NonEmptyStr
  target : Option NonEmptyStr := none
  buildArgs : Option (Dictionary NonEmptyStr) := none
  deriving DecidableEq

inductive BuildConfig where
  | dockerImage (source : GitSource) (config : DockerImageBuildConfig)
  | capzBundle (source : GitSource)
  | slinkyCharts (source : GitSource)
  deriving DecidableEq

def BuildConfig.builder : BuildConfig → Builder
  | .dockerImage _ _ => .dockerImage
  | .capzBundle _ => .capzBundle
  | .slinkyCharts _ => .slinkyCharts

/-- `_BUILDERS`, with the build options of an image. -/
def BuildConfig.recipe : BuildConfig → Recipe
  | .dockerImage _ config => .image
      { imageName := some config.imageName, target := config.target, buildArgs := config.buildArgs }
  | .capzBundle _ => .capz
  | .slinkyCharts _ => .slinky

abbrev Builds := Mapping NonEmptyStr BuildConfig

structure CustomRegistryConfig where
  name : NonEmptyStr := customRegistryName
  port : Option StrictPositiveInt := none
  deriving DecidableEq

/-! `_validate_build_consumers` -/

def roles : List (NonEmptyStr × Builder) :=
  [(capzControllerImageKey, .dockerImage), (capzProviderBuildKey, .capzBundle),
    (slinkyOperatorImageKey, .dockerImage), (slinkyWebhookImageKey, .dockerImage),
    (slinkyChartsBuildKey, .slinkyCharts)]

def wrongBuilder (builds : Builds) (role : NonEmptyStr × Builder) : Bool :=
  (builds.lookup role.1).any (fun build => build.builder ≠ role.2)

def missingImages (builds : Builds) : List NonEmptyStr :=
  slinkyImageKeys.filter (fun name => (builds.lookup name).isNone)

def validateBuildConsumers (builds : Builds) : Except String Unit :=
  match roles.find? (wrongBuilder builds) with
  | some (name, builder) => .error
      ("deployment build '" ++ name.text ++ "' requires builder '" ++ builder.text ++ "'")
  | none =>
      if (builds.lookup slinkyChartsBuildKey).isSome && missingImages builds ≠ [] then
        .error ("slinky-charts requires builds: " ++
          ", ".intercalate ((missingImages builds).map (fun name => name.text)))
      else .ok ()

/-- A build with a role is made by the builder of that role. -/
theorem builder_of_validated (builds : Builds) (valid : validateBuildConsumers builds = .ok ())
    (role : NonEmptyStr × Builder) (member : role ∈ roles) (build : BuildConfig)
    (found : builds.lookup role.1 = some build) : build.builder = role.2 := by
  unfold validateBuildConsumers at valid
  split at valid
  case h_1 => exact nomatch valid
  case h_2 none_wrong =>
    have right := List.find?_eq_none.mp none_wrong role member
    simpa [wrongBuilder, found] using right

/-! Destinations. -/

inductive Target where
  | localRegistry
  | acr
  deriving DecidableEq

/-- `build_destinations` of one build. -/
def buildDestinations (hasAzure hasLocal : Bool) (name : NonEmptyStr) : List Target :=
  if hasAzure && name ∈ slinkyImageKeys then
    if hasLocal then [.localRegistry, .acr] else [.acr]
  else [.localRegistry]

/-- Whether the stack makes a custom registry. -/
def needsCustomRegistry (builds : Builds) (hasAzure hasLocal : Bool) : Bool :=
  builds.keys.any (fun name => Target.localRegistry ∈ buildDestinations hasAzure hasLocal name)

theorem needsCustomRegistry_of_local (builds : Builds) (hasAzure hasLocal : Bool)
    (name : NonEmptyStr) (build : BuildConfig) (found : builds.lookup name = some build)
    (here : Target.localRegistry ∈ buildDestinations hasAzure hasLocal name) :
    needsCustomRegistry builds hasAzure hasLocal = true := by
  apply List.any_eq_true.mpr
  refine ⟨name, ?_, decide_eq_true here⟩
  by_contra absent
  rw [(Mapping.lookup_eq_none builds name).mpr absent] at found
  exact nomatch found

end ClusterApiForSlinky.StackBuilds
