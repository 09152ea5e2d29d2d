import Mathlib.Data.Finset.Sort
import ClusterApiForSlinky.ArtifactRegistry

/-!
The three recipes (artifacts/image.py, capz.py, slinky.py) and the provider that
runs them (artifacts/publishing.py).
-/

namespace ClusterApiForSlinky.ArtifactPublishing
open Effect ArtifactRegistry

/-! Plans: repository and tag of everything a build publishes, in order. -/

def capzArtifactName : String := "capz/cluster-api-provider-azure"
def capzArtifactFiles : List String := ["metadata.yaml", "infrastructure-components.yaml"]
def chartNames : List String := ["slurm-operator-crds", "slurm-operator", "slurm"]
def slinkyResourceIdRepository : String := "charts/slinky"

def chartVersion (commit : String) : String := "0.0.0-source" ++ Text.truncate commit 12

def chartRef (version name : String) : Ref := ⟨"charts" ++ "/" ++ name, version⟩

def artifactTags (recipe : Recipe) (commit : String) : Except Failure (List Ref) :=
  match recipe with
  | .image options =>
      (requiredStr "image_name" options.imageName).map
        (fun name => [⟨name.text, sourceTag commit⟩])
  | .capz => .ok [⟨capzArtifactName, sourceTag commit⟩]
  | .slinky => .ok (chartNames.map (chartRef (chartVersion commit)))

/-! Builds. -/

def amd64 : NonEmptyStr := ⟨"amd64", by decide⟩

def defaultBuildArgs : Dictionary NonEmptyStr := Finmap.singleton "ARCH" amd64

def buildArgument (given : Dictionary NonEmptyStr) (key : String) : List String :=
  match given.lookup key with
  | none => []
  | some value => ["--build-arg", key ++ "=" ++ value.text]

def buildArguments (options : ImageOptions) : List String :=
  let given := options.buildArgs.getD defaultBuildArgs
  given.keys.sort.flatMap (buildArgument given) ++
    match options.target with
    | none => []
    | some target => ["--target", target.text]

def buildImage (host : Host) (options : ImageOptions) (commit : String) (tags : List Ref) :
    Run PUnit :=
  match tags with
  | [] => raise .nothingPlanned
  | ref :: _ => do
      -- Only the first tag of the plan is built and pushed.
      requireBinary host "docker"
      run host (.dockerBuild ref (buildArguments options))
      pushImage host ref ⟨.image options, commit⟩

def buildBundle (host : Host) (commit : String) (tags : List Ref) : Run PUnit := do
  requireBinary host "make"
  run host (.make ["release-manifests", "release-metadata"])
  run host (.checkFiles capzArtifactFiles)
  -- The tag is taken from the plan, the name from the recipe.
  match tags.find? (fun ref => ref.repository = capzArtifactName) with
  | none => raise .nothingPlanned
  | some ref => pushFiles host ⟨capzArtifactName, ref.tag⟩ ⟨.capz, commit⟩

def packageCharts (host : Host) : List String → Run PUnit
  | [] => pure ⟨⟩
  | name :: rest => do
      run host (.helmPackage name)
      packageCharts host rest

def pushCharts (host : Host) (version commit : String) : List String → Run PUnit
  | [] => pure ⟨⟩
  | name :: rest => do
      pushChart host name version "charts" ⟨.slinky, commit⟩
      pushCharts host version commit rest

def buildCharts (host : Host) (commit : String) (tags : List Ref) : Run PUnit :=
  match tags with
  | [] => raise .nothingPlanned
  | ref :: _ => do
      requireBinary host "helm"
      requireBinary host "make"
      run host (.make ["VERSION=" ++ ref.tag, "version-match"])
      run host .makeDist
      -- All charts are packaged before the first one is pushed.
      packageCharts host chartNames
      pushCharts host ref.tag commit chartNames

def buildAndPublish (host : Host) (recipe : Recipe) (commit : String) (tags : List Ref) :
    Run PUnit :=
  match recipe with
  | .image options => buildImage host options commit tags
  | .capz => buildBundle host commit tags
  | .slinky => buildCharts host commit tags

/-! The provider. -/

structure Props where
  source : GitSource
  destination : Destination
  recipe : Recipe
  deriving DecidableEq

/-- The inputs of the resource with the outputs the provider adds to them. -/
structure Outputs where
  props : Props
  sourceCommit : Option String := none
  artifactTags : Option (List Ref) := none
  artifactRefs : Option (List (String × String)) := none
  hostArtifactRefs : Option (List (String × String)) := none
  built : Option Bool := none
  deriving DecidableEq

def referencesAt (server : String) (tags : List Ref) : List (String × String) :=
  tags.map (fun ref => (ref.repository, server ++ "/" ++ ref.repository ++ ":" ++ ref.tag))

/-- `_outputs` over recorded properties. -/
def outputs (recorded : Outputs) (commit : String) (tags : List Ref) : Outputs :=
  { recorded with
    sourceCommit := some commit
    artifactTags := some tags
    artifactRefs := some (referencesAt recorded.props.destination.consumerServer.text tags)
    hostArtifactRefs := some (referencesAt recorded.props.destination.server.text tags) }

/-- `all(manifest_exists ...)`: the first absent one ends the probing. -/
def allExist (host : Host) (session : Session) : List Ref → Run Bool
  | [] => pure true
  | ref :: rest => do
      let found ← manifestExists host session ref
      if found then allExist host session rest else pure false

def publish (host : Host) (recipe : Recipe) (commit : String) (tags : List Ref)
    (session : Session) : Run Bool := do
  let present ← allExist host session tags
  if present then pure false
  else do
    detachedWorktree host (buildAndPublish host recipe commit tags)
    pure true

def ensure (host : Host) (props : Props) : Run Outputs :=
  sourceRepository host props.source (fun commit => do
    let tags ← ofExcept (artifactTags props.recipe commit)
    let built ← registrySession host props.destination
      (publish host props.recipe commit tags)
    pure { outputs { props } commit tags with built := some built })

structure CreateResult where
  id : String
  outs : Outputs
  deriving DecidableEq

def resourceIdRepository : Recipe → Option String
  | .slinky => some slinkyResourceIdRepository
  | _ => none

def create (host : Host) (props : Props) : Run CreateResult := do
  let outs ← ensure host props
  match outs.artifactTags with
  | some (first :: _) =>
      -- The id names the consumer side, whichever server the artifact was pushed to.
      let repository := (resourceIdRepository props.recipe).getD first.repository
      pure { id := props.destination.consumerServer.text ++ "/" ++ repository ++ ":" ++ first.tag
             outs }
  | _ => raise .nothingPlanned

def update (host : Host) (news : Props) : Run Outputs := ensure host news

structure ReadResult where
  id : Option String
  outs : Option Outputs
  deriving DecidableEq

/-- The body of `read` under its `try`. -/
def refresh (host : Host) (id : String) (recorded : Outputs) : Run ReadResult := do
  let commit ← sourceRepository host recorded.props.source pure
  let tags ← ofExcept (artifactTags recorded.props.recipe commit)
  registrySession host recorded.props.destination (fun session => do
    let present ← allExist host session tags
    if present then pure ⟨some id, some (outputs recorded commit tags)⟩
    else pure ⟨none, none⟩)

/-- An exception of any kind leaves the resource as it was recorded. -/
protected def read (host : Host) (id : String) (recorded : Outputs) (world : World) :
    ReadResult × World :=
  match refresh host id recorded world with
  | (.ok result, after) => (result, after)
  | (.error _, after) => (⟨some id, some recorded⟩, after)

end ClusterApiForSlinky.ArtifactPublishing
