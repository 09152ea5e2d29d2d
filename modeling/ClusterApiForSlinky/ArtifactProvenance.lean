import ClusterApiForSlinky.ArtifactLifecycle
import ClusterApiForSlinky.Execution

/-!
Several resources that publish into one registry. The tag of a reference names
the commit and nothing else, so a build is skipped whenever the reference is
there, whatever options it was built with.
-/

namespace ClusterApiForSlinky.ArtifactProvenance
open Effect ArtifactRegistry ArtifactTraces ArtifactPublishing ArtifactLifecycle

inductive Request where
  | create
  | update
  deriving DecidableEq

structure Operation where
  resource : String
  request : Request
  host : Host
  props : Props

/-- The registry, and what each resource last output from which operation. -/
structure Deployment where
  world : World
  published : String → Option (Operation × Outputs)

def perform (op : Operation) : Run Outputs :=
  match op.request with
  | .create => do
      let created ← create op.host op.props
      pure created.outs
  | .update => update op.host op.props

def apply (state : Deployment) (op : Operation) : Deployment :=
  match perform op state.world with
  | (.ok outs, after) =>
      { world := after
        published := Function.update state.published op.resource (some (op, outs)) }
  | (.error _, after) => { state with world := after }

def shared (world : World) : Deployment := ⟨world, fun _ => none⟩

/-- Every recorded reference resolves to the artifact its operation asked for. -/
def Matches (state : Deployment) : Prop :=
  ∀ resource op outs, state.published resource = some (op, outs) →
    ∃ tags, outs.artifactTags = some tags ∧
      outs.artifactRefs = some (referencesAt op.props.destination.consumerServer.text tags) ∧
      ∀ ref ∈ tags, state.world.registry.lookup ref = some ⟨op.props.recipe, op.host.commit⟩

/-- Two resources output one reference only for one recipe and commit. -/
def Apart (state : Deployment) : Prop :=
  ∀ first second one two firstOuts secondOuts,
    state.published first = some (one, firstOuts) →
    state.published second = some (two, secondOuts) →
    ∀ firstTags secondTags, firstOuts.artifactTags = some firstTags →
      secondOuts.artifactTags = some secondTags →
      ∀ ref, ref ∈ firstTags → ref ∈ secondTags →
        one.props.recipe = two.props.recipe ∧ one.host.commit = two.host.commit

theorem apart_of_matches (state : Deployment) (agrees : Matches state) : Apart state := by
  intro first second one two firstOuts secondOuts isFirst isSecond firstTags secondTags
    firstPlan secondPlan ref inFirst inSecond
  obtain ⟨_, sameFirst, -, resolvesFirst⟩ := agrees first one firstOuts isFirst
  obtain ⟨_, sameSecond, -, resolvesSecond⟩ := agrees second two secondOuts isSecond
  rw [firstPlan] at sameFirst
  rw [secondPlan] at sameSecond
  cases sameFirst
  cases sameSecond
  have same := (resolvesFirst ref inFirst).symm.trans (resolvesSecond ref inSecond)
  simpa using same

/-! Tags. -/

/-- The reference of an artifact names its commit, up to the first twelve digits. -/
theorem planned_truncate (recipe : Recipe) (left right : String) (leftTags rightTags : List Ref)
    (leftPlan : artifactTags recipe left = .ok leftTags)
    (rightPlan : artifactTags recipe right = .ok rightTags)
    (ref : Ref) (inLeft : ref ∈ leftTags) (inRight : ref ∈ rightTags) :
    Text.truncate left 12 = Text.truncate right 12 := by
  cases recipe with
  | image options =>
      cases name : options.imageName with
      | none => simp [artifactTags, requiredStr, name, Except.map] at leftPlan
      | some text =>
          simp only [artifactTags, requiredStr, name, Except.map, Except.ok.injEq] at leftPlan rightPlan
          subst leftPlan rightPlan
          have same := (List.mem_singleton.mp inLeft).symm.trans (List.mem_singleton.mp inRight)
          simp only [Ref.mk.injEq, true_and] at same
          -- The tag is a fixed prefix and the truncated commit.
          exact (String.append_right_inj "source-").mp same
  | capz =>
      cases leftPlan
      cases rightPlan
      have same := (List.mem_singleton.mp inLeft).symm.trans (List.mem_singleton.mp inRight)
      simp only [Ref.mk.injEq, true_and] at same
      exact (String.append_right_inj "source-").mp same
  | slinky =>
      cases leftPlan
      cases rightPlan
      obtain ⟨_, -, rfl⟩ := List.mem_map.mp inLeft
      obtain ⟨_, -, same⟩ := List.mem_map.mp inRight
      simp only [chartRef, Ref.mk.injEq] at same
      exact (String.append_right_inj "0.0.0-source").mp same.2.symm

section Runs
variable (Known : String → Prop)
  (distinct : ∀ left right, Known left → Known right →
    Text.truncate left 12 = Text.truncate right 12 → left = right)

/-- Every artifact stands under a reference that its own recipe and commit plan. -/
def Tagged (registry : Registry) : Prop :=
  ∀ ref artifact, registry.lookup ref = some artifact →
    Known artifact.commit ∧
      ∃ tags, artifactTags artifact.recipe artifact.commit = .ok tags ∧ ref ∈ tags

/-- What already answers for a planned reference was built by the same recipe. -/
def Unclaimed (state : Deployment) (op : Operation) : Prop :=
  ∀ tags, artifactTags op.props.recipe op.host.commit = .ok tags → ∀ ref ∈ tags,
    ∀ artifact, state.world.registry.lookup ref = some artifact →
      artifact.recipe = op.props.recipe

include distinct in
theorem artifact_of_unclaimed (state : Deployment) (op : Operation) (known : Known op.host.commit)
    (tagged : Tagged Known state.world.registry) (unclaimed : Unclaimed state op)
    (tags : List Ref) (planned : artifactTags op.props.recipe op.host.commit = .ok tags)
    (ref : Ref) (member : ref ∈ tags) (artifact : Artifact)
    (found : state.world.registry.lookup ref = some artifact) :
    artifact = ⟨op.props.recipe, op.host.commit⟩ := by
  have recipe := unclaimed tags planned ref member artifact found
  obtain ⟨knownCommit, theirs, theirPlan, theirRef⟩ := tagged ref artifact found
  rw [recipe] at theirPlan
  have digits := planned_truncate op.props.recipe artifact.commit op.host.commit theirs tags
    theirPlan planned ref theirRef member
  have commit := distinct artifact.commit op.host.commit knownCommit known digits
  obtain ⟨_, _⟩ := artifact
  simp only at recipe commit
  rw [recipe, commit]

/-- One artifact at most is pushed by the entries of one operation. -/
theorem lookup_foldl_record (entries : List Entry) (registry : Registry)
    (plan : Ref → Artifact → Prop) (allowed : ∀ entry ∈ entries, Allows plan entry) (ref : Ref) :
    (∃ artifact, plan ref artifact ∧
      (entries.foldl record registry).lookup ref = some artifact) ∨
      (entries.foldl record registry).lookup ref = registry.lookup ref := by
  induction entries generalizing registry with
  | nil => exact Or.inr rfl
  | cons entry rest ih =>
      have later : ∀ entry ∈ rest, Allows plan entry :=
        fun other member => allowed other (List.mem_cons_of_mem _ member)
      rcases ih (record registry entry) later with made | same
      · exact Or.inl made
      rw [List.foldl_cons, same]
      obtain ⟨step, outcome⟩ := entry
      cases step with
      | push pushed artifact =>
          cases outcome with
          | done =>
              by_cases here : ref = pushed
              · subst here
                exact Or.inl ⟨artifact, allowed _ List.mem_cons_self, Finmap.lookup_insert _⟩
              · exact Or.inr (Finmap.lookup_insert_of_ne _ here)
          | notFound => exact Or.inr rfl
          | failed fault => exact Or.inr rfl
      | _ => exact Or.inr rfl

theorem perform_conducts (op : Operation) :
    Conducts op.host (Planned op.props.recipe op.host.commit) (Ready op.host op.props)
      (Ensures op.host op.props) (perform op) := by
  unfold perform
  cases op.request with
  | update => exact ensure_conducts op.host op.props
  | create =>
      refine behaves_bind (tracing op.host) _ _ _ _ _ _ (create_conducts op.host op.props) ?_
      intro created before ensures
      apply behaves_pure (tracing op.host)
      rw [List.append_nil]
      exact ensures

/-- A reference shows what the operation pushed there or what it showed before. -/
theorem perform_shows (op : Operation) (world : World) (ref : Ref) :
    (∃ artifact, Planned op.props.recipe op.host.commit ref artifact ∧
      (perform op world).2.registry.lookup ref = some artifact) ∨
      (perform op world).2.registry.lookup ref = world.registry.lookup ref := by
  obtain ⟨entries, reached, ended⟩ := perform_conducts op world
  rw [reached.recorded]
  exact lookup_foldl_record entries _ _ ended.steps ref

include distinct in
/-- An artifact that was there is there afterwards, pushed again or not. -/
theorem perform_keeps (state : Deployment) (op : Operation) (known : Known op.host.commit)
    (tagged : Tagged Known state.world.registry) (unclaimed : Unclaimed state op)
    (ref : Ref) (artifact : Artifact)
    (found : state.world.registry.lookup ref = some artifact) :
    (perform op state.world).2.registry.lookup ref = some artifact := by
  rcases perform_shows op state.world ref with ⟨made, ⟨⟨tags, planned, member⟩, rfl⟩, pushed⟩ | same
  · rw [pushed, artifact_of_unclaimed Known distinct state op known tagged unclaimed tags planned
      ref member artifact found]
  · rw [same, found]

theorem perform_tagged (op : Operation) (world : World) (known : Known op.host.commit)
    (tagged : Tagged Known world.registry) : Tagged Known (perform op world).2.registry := by
  intro ref artifact found
  rcases perform_shows op world ref with ⟨made, ⟨⟨tags, planned, member⟩, rfl⟩, pushed⟩ | same
  · rw [pushed] at found
    cases found
    exact ⟨known, tags, planned, member⟩
  · rw [same] at found
    exact tagged ref artifact found

include distinct in
/-- What an operation returns resolves to its own recipe and commit. -/
theorem perform_resolves (state : Deployment) (op : Operation) (known : Known op.host.commit)
    (tagged : Tagged Known state.world.registry) (unclaimed : Unclaimed state op)
    (outs : Outputs) (after : World) (ran : perform op state.world = (.ok outs, after)) :
    ∃ tags, outs.artifactTags = some tags ∧
      outs.artifactRefs = some (referencesAt op.props.destination.consumerServer.text tags) ∧
      ∀ ref ∈ tags, after.registry.lookup ref = some ⟨op.props.recipe, op.host.commit⟩ := by
  obtain ⟨entries, reached, ended⟩ := perform_conducts op state.world
  rw [ran] at reached ended
  obtain ⟨tags, built, planned, rfl, present⟩ := ended.value outs rfl
  refine ⟨tags, rfl, rfl, ?_⟩
  intro ref member
  have found := mem_registry_of_present op.host entries _ _ reached tags _ present ref member
  obtain ⟨artifact, lookup⟩ := Finmap.mem_iff.mp found
  have shown := perform_shows op state.world ref
  rw [ran] at shown
  rcases shown with ⟨made, ⟨_, rfl⟩, pushed⟩ | unchanged
  · exact pushed
  · -- the build was skipped, so the reference had been claimed by its own recipe
    rw [lookup] at unchanged
    rw [lookup, artifact_of_unclaimed Known distinct state op known tagged unclaimed tags planned
      ref member artifact unchanged.symm]

/-- A record survives a world in which every artifact is still there. -/
theorem matches_of_kept (state : Deployment) (world : World) (agrees : Matches state)
    (kept : ∀ ref artifact, state.world.registry.lookup ref = some artifact →
      world.registry.lookup ref = some artifact) : Matches { state with world } := by
  intro resource op outs isOutput
  obtain ⟨tags, listed, refs, resolves⟩ := agrees resource op outs isOutput
  exact ⟨tags, listed, refs, fun ref member => kept ref _ (resolves ref member)⟩

/-- What a run keeps: the record agrees with the registry. -/
structure Sound (state : Deployment) : Prop where
  agrees : Matches state
  tagged : Tagged Known state.world.registry

include distinct in
theorem sound_apply (state : Deployment) (op : Operation) (sound : Sound Known state)
    (ok : Known op.host.commit ∧ Unclaimed state op) : Sound Known (apply state op) := by
  obtain ⟨known, unclaimed⟩ := ok
  have tagged := perform_tagged Known op state.world known sound.tagged
  -- A failed operation may have pushed a part of its plan, which the record survives.
  have survives := matches_of_kept state (perform op state.world).2 sound.agrees
    (perform_keeps Known distinct state op known sound.tagged unclaimed)
  have resolves := perform_resolves Known distinct state op known sound.tagged unclaimed
  unfold apply
  split
  case h_2 failure after ran =>
    rw [ran] at tagged survives
    exact ⟨survives, tagged⟩
  case h_1 outs after ran =>
    rw [ran] at tagged survives
    refine ⟨?_, tagged⟩
    intro resource other recorded isOutput
    -- The resource operated on is recorded anew, every other one keeps its record.
    by_cases own : resource = op.resource
    · subst own
      simp only [Function.update_self, Option.some.injEq, Prod.mk.injEq] at isOutput
      obtain ⟨rfl, rfl⟩ := isOutput
      exact resolves outs after ran
    · simp only [Function.update_of_ne own] at isOutput
      exact survives resource other recorded isOutput

theorem sound_shared (world : World) (start : Tagged Known world.registry) :
    Sound Known (shared world) := by
  refine ⟨?_, start⟩
  intro resource op outs isOutput
  exact absurd isOutput.symm (Option.some_ne_none _)

include distinct in
theorem published_match_when (world : World) (start : Tagged Known world.registry)
    (ops : List Operation) (known : ∀ op ∈ ops, Known op.host.commit)
    (unclaimed : Execution.Guarded apply Unclaimed (shared world) ops) :
    Matches (Execution.run apply (shared world) ops) ∧
      Apart (Execution.run apply (shared world) ops) := by
  have sound := Execution.guarded_invariant apply _ (Sound Known)
    (sound_apply Known distinct) (shared world) ops (sound_shared Known world start)
    (Execution.guarded_and apply Unclaimed _ (shared world) ops known unclaimed)
  exact ⟨sound.agrees, apart_of_matches _ sound.agrees⟩

end Runs

/-! A controller image built for one architecture, then for another. -/

def firstCommit : String := "0f3c9a1b22d4e5f60718293a4b5c6d7e8f901234"
def secondCommit : String := "9b1d0c3e55a6f7081928374655647382910fedcb"

def resolving (commit : String) : Host := ⟨fun _ _ => none, commit⟩

def controller (arch : NonEmptyStr) : Props where
  source := { sourcePath := some ⟨"/src/slurm-operator", by decide⟩
              sourceRef := ⟨"HEAD", by decide⟩
              exactlyOne := by decide }
  destination := { server := ⟨"localhost:5002", by decide⟩
                   consumerServer := ⟨"custom-registry:5000", by decide⟩
                   plainHttp := true
                   secure := by simp }
  recipe := .image
    { imageName := some ⟨"slinky.slurm.net/slurm-operator", by decide⟩
      buildArgs := some (Finmap.singleton "ARCH" arch) }

def arm64 : NonEmptyStr := ⟨"arm64", by decide⟩

def buildController (request : Request) (commit : String) (arch : NonEmptyStr) : Operation :=
  ⟨"build-slurm-operator", request, resolving commit, controller arch⟩

/-- At one commit the update reports the image of the other architecture. -/
theorem update_keeps_old_image :
    ¬ Matches (Execution.run apply (shared ⟨∅, []⟩)
      [buildController .create firstCommit amd64, buildController .update firstCommit arm64]) := by
  intro agrees
  obtain ⟨tags, listed, -, resolves⟩ := agrees "build-slurm-operator"
    (buildController .update firstCommit arm64) _ rfl
  cases listed
  have stale := resolves _ List.mem_cons_self
  exact absurd stale (by decide)

theorem published_match_commits :
    Matches (Execution.run apply (shared ⟨∅, []⟩)
      [buildController .create firstCommit amd64, buildController .update secondCommit arm64]) ∧
    Apart (Execution.run apply (shared ⟨∅, []⟩)
      [buildController .create firstCommit amd64,
        buildController .update secondCommit arm64]) := by
  apply published_match_when (fun commit => commit = firstCommit ∨ commit = secondCommit)
  · rintro _ _ (rfl | rfl) (rfl | rfl) same
    · rfl
    · exact absurd same (by decide)
    · exact absurd same (by decide)
    · rfl
  · intro ref artifact found
    exact absurd found (by simp)
  · intro op member
    simp only [List.mem_cons, List.not_mem_nil, or_false] at member
    rcases member with rfl | rfl
    · exact Or.inl rfl
    · exact Or.inr rfl
  · refine ⟨?_, ?_, trivial⟩
    · intro tags _ ref _ artifact found
      exact absurd found (by simp [shared])
    · intro tags planned ref member artifact found
      cases planned
      cases List.mem_singleton.mp member
      exact nomatch found

end ClusterApiForSlinky.ArtifactProvenance
