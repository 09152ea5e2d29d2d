import ClusterApiForSlinky.ArtifactPublishing
import ClusterApiForSlinky.ArtifactTraces

/-!
Create, update and read of published artifacts. A build that returns has pushed
its plan, an operation that returns left its plan in the registry, and one that
raised can be repeated.
-/

namespace ClusterApiForSlinky.ArtifactLifecycle
open Effect ArtifactRegistry ArtifactTraces ArtifactPublishing

/-- What an operation may push. -/
def Planned (recipe : Recipe) (commit : String) (ref : Ref) (artifact : Artifact) : Prop :=
  (∃ tags, artifactTags recipe commit = .ok tags ∧ ref ∈ tags) ∧ artifact = ⟨recipe, commit⟩

variable (host : Host) (plan : Ref → Artifact → Prop) (calm : Prop)

/-! The three builds. -/

theorem buildImage_conducts (options : ImageOptions) (commit : String) (ref : Ref)
    (planned : plan ref ⟨.image options, commit⟩) :
    Conducts host plan calm (fun _ entries => AllPushed [ref] ⟨.image options, commit⟩ entries)
      (buildImage host options commit [ref]) := by
  have framed := framed_allPushed host [ref] ⟨.image options, commit⟩
  apply run_then host plan calm _ _ _ (by trivial) framed
  apply run_then host plan calm _ _ _ (by trivial) framed
  apply run_then host plan calm _ _ _ (by trivial) framed
  exact push_conducts host plan calm ref ⟨.image options, commit⟩ _ planned

theorem buildBundle_conducts (commit tag : String)
    (planned : plan ⟨capzArtifactName, tag⟩ ⟨.capz, commit⟩) :
    Conducts host plan calm
      (fun _ entries => AllPushed [⟨capzArtifactName, tag⟩] ⟨.capz, commit⟩ entries)
      (buildBundle host commit [⟨capzArtifactName, tag⟩]) := by
  have framed := framed_allPushed host [⟨capzArtifactName, tag⟩] ⟨.capz, commit⟩
  apply run_then host plan calm _ _ _ (by trivial) framed
  apply run_then host plan calm _ _ _ (by trivial) framed
  apply run_then host plan calm _ _ _ (by trivial) framed
  exact push_conducts host plan calm ⟨capzArtifactName, tag⟩ ⟨.capz, commit⟩ _ planned

theorem packageCharts_conducts (names : List String) :
    Conducts host plan calm (fun _ entries => Quietly host entries)
      (packageCharts host names) := by
  induction names with
  | nil => exact behaves_pure (tracing host) _ _ _ _ (clean_nil _)
  | cons name rest ih =>
      exact run_then host plan calm _ _ _ (by trivial) (framed_quietly host) ih _

theorem pushCharts_conducts (version commit : String) (names : List String)
    (planned : ∀ name ∈ names, plan (chartRef version name) ⟨.slinky, commit⟩) :
    Conducts host plan calm
      (fun _ entries => AllPushed (names.map (chartRef version)) ⟨.slinky, commit⟩ entries)
      (pushCharts host version commit names) := by
  induction names with
  | nil => exact behaves_pure (tracing host) _ _ _ _ nofun
  | cons name rest ih =>
      have one : Conducts host plan calm
          (fun _ entries => AllPushed [chartRef version name] ⟨.slinky, commit⟩ entries)
          (pushChart host name version "charts" ⟨.slinky, commit⟩) := by
        refine run_then host plan calm _ _ _ (by trivial) (framed_allPushed host _ _) ?_ _
        exact push_conducts host plan calm (chartRef version name) ⟨.slinky, commit⟩ _
          (planned name List.mem_cons_self)
      refine behaves_bind (tracing host) _ _ _ _ _ _ one ?_
      intro _ before pushed
      refine behaves_mono (tracing host) _ _ _ _ _ _ _ And.left (fun _ allowed => allowed) ?_
        (ih (fun other member => planned other (List.mem_cons_of_mem _ member)))
      intro _ entries others
      exact allPushed_append [chartRef version name] _ _ before entries pushed others

theorem buildCharts_conducts (commit : String)
    (planned : ∀ name ∈ chartNames, plan (chartRef (chartVersion commit) name) ⟨.slinky, commit⟩) :
    Conducts host plan calm
      (fun _ entries =>
        AllPushed (chartNames.map (chartRef (chartVersion commit))) ⟨.slinky, commit⟩ entries)
      (buildCharts host commit (chartNames.map (chartRef (chartVersion commit)))) := by
  have framed := framed_allPushed host (chartNames.map (chartRef (chartVersion commit)))
    ⟨.slinky, commit⟩
  apply run_then host plan calm _ _ _ (by trivial) framed
  apply run_then host plan calm _ _ _ (by trivial) framed
  apply run_then host plan calm _ _ _ (by trivial) framed
  apply run_then host plan calm _ _ _ (by trivial) framed
  refine conducts_after host plan calm _ _ _ _
    (packageCharts_conducts host plan calm chartNames) (fun _ _ clean => clean) framed ?_
  intro _ _ _
  exact pushCharts_conducts host plan calm (chartVersion commit) commit chartNames planned

/-- A build that returns has pushed all of its plan. -/
theorem buildAndPublish_conducts (recipe : Recipe) (commit : String) (tags : List Ref)
    (planned : artifactTags recipe commit = .ok tags) :
    Conducts host (Planned recipe commit) calm
      (fun _ entries => AllPushed tags ⟨recipe, commit⟩ entries)
      (buildAndPublish host recipe commit tags) := by
  cases recipe with
  | image options =>
      have named := planned
      cases name : options.imageName with
      | none => simp [artifactTags, requiredStr, name, Except.map] at named
      | some text =>
          simp only [artifactTags, requiredStr, name, Except.map, Except.ok.injEq] at named
          subst named
          exact buildImage_conducts host _ calm options commit _
            ⟨⟨_, planned, List.mem_singleton.mpr rfl⟩, rfl⟩
  | capz =>
      cases planned
      exact buildBundle_conducts host _ calm commit (sourceTag commit)
        ⟨⟨_, rfl, List.mem_singleton.mpr rfl⟩, rfl⟩
  | slinky =>
      cases planned
      refine buildCharts_conducts host _ calm commit ?_
      intro name member
      exact ⟨⟨_, rfl, List.mem_map_of_mem member⟩, rfl⟩

/-! The provider. -/

/-- The references seen or pushed by an operation, each present afterwards. -/
def Present (tags : List Ref) (artifact : Artifact) (entries : List Entry) : Prop :=
  ∀ ref ∈ tags, (.probe ref, .done) ∈ entries ∨ (.push ref artifact, .done) ∈ entries

theorem present_mono (tags : List Ref) (artifact : Artifact) (entries more : List Entry)
    (subset : entries ⊆ more) (present : Present tags artifact entries) :
    Present tags artifact more :=
  fun ref member => (present ref member).imp (fun seen => subset seen) (fun made => subset made)

/-- Probing ends at the first reference that is absent. -/
def Probed (tags : List Ref) (found : Bool) (entries : List Entry) : Prop :=
  Quietly host entries ∧
    if found then ∀ ref ∈ tags, (.probe ref, .done) ∈ entries
    else ∃ ref ∈ tags, (.probe ref, .notFound) ∈ entries

theorem allExist_conducts (session : Session) (tags : List Ref) :
    Conducts host plan calm (Probed host tags) (allExist host session tags) := by
  induction tags with
  | nil => exact behaves_pure (tracing host) _ _ _ _ ⟨clean_nil _, nofun⟩
  | cons ref rest ih =>
      refine behaves_bind (tracing host) _ _ _ _ _ _
        (manifestExists_conducts host plan calm session ref) ?_
      rintro found before ⟨clean, answered⟩
      cases found with
      -- `all` stops here: the rest is not probed.
      | false =>
          apply behaves_pure (tracing host)
          rw [List.append_nil]
          exact ⟨clean, ref, List.mem_cons_self, answered⟩
      | true =>
          refine behaves_mono (tracing host) _ _ _ _ _ _ _ And.left (fun _ allowed => allowed)
            ?_ ih
          rintro found entries ⟨quiet, probed⟩
          refine ⟨(clean_append _ _ _).mpr ⟨clean, quiet⟩, ?_⟩
          cases found with
          | false =>
              obtain ⟨absent, member, missed⟩ := probed
              exact ⟨absent, List.mem_cons_of_mem _ member, List.mem_append_right _ missed⟩
          | true =>
              intro other member
              rcases List.mem_cons.mp member with rfl | later
              · exact List.mem_append_left _ answered
              · exact List.mem_append_right _ (probed other later)

theorem publish_conducts (recipe : Recipe) (commit : String) (tags : List Ref)
    (planned : artifactTags recipe commit = .ok tags) (session : Session) :
    Conducts host (Planned recipe commit) calm
      (fun _ entries => Present tags ⟨recipe, commit⟩ entries)
      (publish host recipe commit tags session) := by
  refine behaves_bind (tracing host) _ _ _ _ _ _ (allExist_conducts host _ calm session tags) ?_
  rintro found before ⟨-, probed⟩
  cases found with
  | true =>
      apply behaves_pure (tracing host)
      rw [List.append_nil]
      exact fun ref member => Or.inl (probed ref member)
  | false =>
      refine behaves_bind (tracing host) _ _ _ _ _ _
        (detachedWorktree_conducts host _ _ _ _ (framed_allPushed host tags ⟨recipe, commit⟩)
          (fun entries after => allPushed_before tags ⟨recipe, commit⟩ entries after)
          (buildAndPublish_conducts host _ recipe commit tags planned)) ?_
      intro _ entries pushed
      apply behaves_pure (tracing host)
      intro ref member
      exact Or.inr (List.mem_append_right _ (List.mem_append_left _ (pushed ref member)))

/-- Planning and resolving the source do not fail. -/
def Ready (props : Props) : Prop :=
  host.commit ≠ "" ∧ ∃ tags, artifactTags props.recipe host.commit = .ok tags

/-- An operation that returns outputs its plan and leaves it present. -/
def Ensures (props : Props) (outs : Outputs) (entries : List Entry) : Prop :=
  ∃ tags built, artifactTags props.recipe host.commit = .ok tags ∧
    outs = { outputs { props } host.commit tags with built := some built } ∧
    Present tags ⟨props.recipe, host.commit⟩ entries

theorem framed_ensures (props : Props) : Framed host (Ensures host props) := by
  rintro outs before entries after _ _ ⟨tags, built, planned, same, present⟩
  refine ⟨tags, built, planned, same, present_mono _ _ entries _ ?_ present⟩
  exact fun entry member => List.mem_append_left _ (List.mem_append_right _ member)

theorem ensure_conducts (props : Props) :
    Conducts host (Planned props.recipe host.commit) (Ready host props) (Ensures host props)
      (ensure host props) := by
  refine sourceRepository_conducts host _ _ props.source _ _ And.left
    (framed_ensures host props) ?_
  intro _
  refine behaves_bind (tracing host) _ _ _ _
    (fun tags entries => entries = [] ∧ artifactTags props.recipe host.commit = .ok tags) _
    (behaves_ofExcept (tracing host) _ _ _ _ And.right
      (fun tags planned => ⟨rfl, planned⟩)) ?_
  rintro tags _ ⟨rfl, planned⟩
  refine behaves_bind (tracing host) _ _ _ _ _ _
    (registrySession_conducts host _ _ props.destination _
      (fun _ entries => Present tags ⟨props.recipe, host.commit⟩ entries) ?_
      (publish_conducts host _ props.recipe host.commit tags planned)) ?_
  · intro _ before entries after _ _ present
    refine present_mono _ _ entries _ ?_ present
    exact fun entry member => List.mem_append_left _ (List.mem_append_right _ member)
  · intro built entries present
    apply behaves_pure (tracing host)
    refine ⟨tags, built, planned, rfl, present_mono _ _ entries _ ?_ present⟩
    exact fun entry member => List.mem_append_right _ (List.mem_append_left _ member)

theorem artifactTags_nonempty (recipe : Recipe) (commit : String) (tags : List Ref)
    (planned : artifactTags recipe commit = .ok tags) : tags ≠ [] := by
  cases recipe with
  | image options =>
      cases name : options.imageName with
      | none => simp [artifactTags, requiredStr, name, Except.map] at planned
      | some text =>
          simp only [artifactTags, requiredStr, name, Except.map, Except.ok.injEq] at planned
          simp [← planned]
  | capz => cases planned; exact List.cons_ne_nil _ _
  | slinky => cases planned; exact List.cons_ne_nil _ _

theorem create_conducts (props : Props) :
    Conducts host (Planned props.recipe host.commit) (Ready host props)
      (fun created entries => Ensures host props created.outs entries)
      (create host props) := by
  refine behaves_bind (tracing host) _ _ _ _ _ _ (ensure_conducts host props) ?_
  rintro outs before ⟨tags, built, planned, rfl, present⟩
  cases tags with
  | nil => exact absurd rfl (artifactTags_nonempty _ _ _ planned)
  | cons first rest =>
      apply behaves_pure (tracing host)
      rw [List.append_nil]
      exact ⟨first :: rest, built, planned, rfl, present⟩

/-- A refresh that raises nothing saw nothing fail, and names what is absent. -/
def Refreshes (recorded : Outputs) (result : ReadResult) (entries : List Entry) : Prop :=
  Quietly host entries ∧ Ready host recorded.props ∧
    (result.id = none → ∃ ref artifact,
      Planned recorded.props.recipe host.commit ref artifact ∧
        (.probe ref, .notFound) ∈ entries)

theorem framed_refreshes (recorded : Outputs) : Framed host (Refreshes host recorded) := by
  rintro result before entries after early late ⟨clean, ready, gone⟩
  refine ⟨framed_quietly host result before entries after early late clean, ready, ?_⟩
  intro absent
  obtain ⟨ref, artifact, planned, missed⟩ := gone absent
  exact ⟨ref, artifact, planned, List.mem_append_left _ (List.mem_append_right _ missed)⟩

theorem refresh_conducts (id : String) (recorded : Outputs) :
    Conducts host (fun _ _ => False) (Ready host recorded.props) (Refreshes host recorded)
      (refresh host id recorded) := by
  refine conducts_after host _ _ _ _
    (fun commit entries => (commit = host.commit ∧ host.commit ≠ "") ∧ Quietly host entries) _
    (sourceRepository_conducts host _ _ recorded.props.source pure _ And.left ?_
      (fun resolved => behaves_pure (tracing host) _ _ _ _ ⟨⟨rfl, resolved⟩, clean_nil _⟩))
    (fun _ _ justified => justified.2) (framed_refreshes host recorded) ?_
  · rintro commit before entries after early late ⟨resolved, clean⟩
    exact ⟨resolved, framed_quietly host commit before entries after early late clean⟩
  -- The commit is resolved; its plan comes next and leaves no entry.
  rintro _ _ ⟨⟨rfl, resolved⟩, -⟩
  refine conducts_after host _ _ _ _
    (fun tags entries => entries = [] ∧
      artifactTags recorded.props.recipe host.commit = .ok tags) _
    (behaves_ofExcept (tracing host) _ _ _ _ And.right (fun tags planned => ⟨rfl, planned⟩))
    ?_ (framed_refreshes host recorded) ?_
  · rintro _ _ ⟨rfl, -⟩
    exact clean_nil _
  rintro tags _ ⟨-, planned⟩
  have ready : Ready host recorded.props := ⟨resolved, tags, planned⟩
  refine registrySession_conducts host _ _ recorded.props.destination _ _
    (framed_refreshes host recorded) ?_
  intro session
  refine behaves_bind (tracing host) _ _ _ _ _ _ (allExist_conducts host _ _ session tags) ?_
  rintro found before ⟨clean, probed⟩
  cases found with
  | true =>
      apply behaves_pure (tracing host)
      rw [List.append_nil]
      exact ⟨clean, ready, nofun⟩
  -- The provider reports the resource gone.
  | false =>
      apply behaves_pure (tracing host)
      rw [List.append_nil]
      obtain ⟨ref, member, missed⟩ := probed
      exact ⟨clean, ready, fun _ => ⟨ref, _, ⟨⟨tags, planned, member⟩, rfl⟩, missed⟩⟩

/-! Runs of one operation. -/

def newEntries (before after : World) : List Entry := after.log.drop before.log.length

theorem newEntries_reaches (entries : List Entry) (before after : World)
    (reached : Reaches host entries before after) : newEntries before after = entries := by
  rw [newEntries, reached.logged, List.drop_left]

/-- Nothing fails, and the source and the plan are found. -/
def Quiet (props : Props) : Prop :=
  (∀ log step, host.fails log step = none) ∧ Ready host props

theorem quietly_of_quiet (entries : List Entry) (before after : World)
    (reached : Reaches host entries before after)
    (quiet : ∀ log step, host.fails log step = none) : Quietly host entries := by
  rintro ⟨step, _⟩ member ⟨fault, rfl⟩
  obtain ⟨log, fails⟩ := reached.faults step fault member
  exact nomatch (quiet log step).symm.trans fails

theorem mem_registry_of_present (entries : List Entry) (before after : World)
    (reached : Reaches host entries before after) (tags : List Ref) (artifact : Artifact)
    (present : Present tags artifact entries) (ref : Ref) (member : ref ∈ tags) :
    ref ∈ after.registry := by
  rcases present ref member with seen | made
  · exact reached.found ref seen
  · rw [reached.recorded, mem_foldl_record]
    exact Or.inr ⟨artifact, made⟩

variable {Value : Type}

/-- What holds of one operation, however it ends; an error carries no outputs. -/
structure Lifecycle (operation : Host → Run Value) (props : Props) (world : World) : Prop where
  converges : ∀ value after, operation host world = (.ok value, after) →
    ∃ tags, artifactTags props.recipe host.commit = .ok tags ∧
      ∀ ref ∈ tags, ref ∈ after.registry
  atomic : ∀ failure after, operation host world = (.error failure, after) →
    ∀ ref ∈ after.registry, ref ∈ world.registry ∨
      ∃ tags, artifactTags props.recipe host.commit = .ok tags ∧ ref ∈ tags
  repeats : ∀ failure after, operation host world = (.error failure, after) →
    ∀ later : Host, Quiet later props → ∃ value final, operation later after = (.ok value, final)

theorem lifecycle_of_conducts (operation : Host → Run Value) (props : Props) (world : World)
    (outs : Value → Outputs)
    (spec : ∀ host, Conducts host (Planned props.recipe host.commit) (Ready host props)
      (fun value entries => Ensures host props (outs value) entries) (operation host)) :
    Lifecycle host operation props world := by
  obtain ⟨entries, reached, ended⟩ := spec host world
  refine ⟨?_, ?_, ?_⟩
  · intro value after ran
    rw [ran] at reached ended
    obtain ⟨tags, built, planned, -, present⟩ := ended.value value rfl
    exact ⟨tags, planned, mem_registry_of_present host entries world after reached tags _ present⟩
  · intro failure after ran ref member
    rw [ran] at reached ended
    rw [reached.recorded, mem_foldl_record] at member
    rcases member with before | ⟨artifact, made⟩
    · exact Or.inl before
    · exact Or.inr (ended.steps _ made).1
  · rintro failure after - later ⟨quiet, ready⟩
    obtain ⟨entries, reached, ended⟩ := spec later after
    obtain ⟨value, ran⟩ := ended.fine ready
      (quietly_of_quiet later entries after _ reached quiet)
    exact ⟨value, _, Prod.ext ran rfl⟩

theorem pushes_exactly (recipe : Recipe) (commit : String) (tags : List Ref)
    (planned : artifactTags recipe commit = .ok tags) (world after : World)
    (ran : buildAndPublish host recipe commit tags world = (.ok ⟨⟩, after)) (ref : Ref) :
    ref ∈ tags ↔ ∃ artifact, (.push ref artifact, .done) ∈ newEntries world after := by
  obtain ⟨entries, reached, ended⟩ := buildAndPublish_conducts host True recipe commit tags
    planned world
  rw [ran] at reached ended
  rw [newEntries_reaches host entries world after reached]
  constructor
  · intro member
    exact ⟨_, ended.value ⟨⟩ rfl ref member⟩
  · rintro ⟨artifact, made⟩
    obtain ⟨⟨known, same, member⟩, -⟩ := ended.steps _ made
    rw [planned] at same
    cases same
    exact member

/-- What a refresh reports, and what it reports after any failure. -/
structure Refresh (id : String) (recorded : Outputs) (world after : World)
    (result : ReadResult) : Prop where
  gone : result.id = none → ∃ tags ref,
    artifactTags recorded.props.recipe host.commit = .ok tags ∧ ref ∈ tags ∧
      (.probe ref, .notFound) ∈ newEntries world after
  kept : (∃ entry ∈ newEntries world after, Failed entry) ∨ ¬ Ready host recorded.props →
    result = ⟨some id, some recorded⟩

theorem read_refreshes (id : String) (recorded : Outputs) (world : World) :
    Refresh host id recorded world (ArtifactPublishing.read host id recorded world).2
      (ArtifactPublishing.read host id recorded world).1 := by
  obtain ⟨entries, reached, ended⟩ := refresh_conducts host id recorded world
  unfold ArtifactPublishing.read
  cases ran : refresh host id recorded world with
  | mk outcome after =>
      rw [ran] at reached ended
      cases outcome with
      | error failure => exact ⟨nofun, fun _ => rfl⟩
      | ok result =>
          obtain ⟨clean, ready, absent⟩ := ended.value result rfl
          have same := newEntries_reaches host entries world after reached
          constructor
          · intro none
            obtain ⟨ref, artifact, ⟨⟨tags, planned, member⟩, -⟩, missed⟩ := absent none
            exact ⟨tags, ref, planned, member, by rw [same]; exact missed⟩
          · rintro (⟨entry, member, failed⟩ | unready)
            · rw [same] at member
              exact absurd failed (clean entry member)
            · exact absurd ready unready

theorem artifact_lifecycle (host : Host) (props : Props) (id : String) (recorded : Outputs)
    (world : World) :
    Lifecycle host (create · props) props world ∧ Lifecycle host (update · props) props world ∧
    (∀ recipe commit tags, artifactTags recipe commit = .ok tags →
      ∀ after, buildAndPublish host recipe commit tags world = (.ok ⟨⟩, after) →
        ∀ ref, ref ∈ tags ↔ ∃ artifact, (.push ref artifact, .done) ∈ newEntries world after) ∧
    Refresh host id recorded world (ArtifactPublishing.read host id recorded world).2
      (ArtifactPublishing.read host id recorded world).1 := by
  refine ⟨?_, ?_, ?_, read_refreshes host id recorded world⟩
  · exact lifecycle_of_conducts host _ props world CreateResult.outs
      (fun host => create_conducts host props)
  · exact lifecycle_of_conducts host _ props world (fun outs => outs)
      (fun host => ensure_conducts host props)
  · intro recipe commit tags planned after ran ref
    exact pushes_exactly host recipe commit tags planned world after ran ref

end ClusterApiForSlinky.ArtifactLifecycle
