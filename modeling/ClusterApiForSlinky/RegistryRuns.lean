import ClusterApiForSlinky.RegistryCalls
import ClusterApiForSlinky.Execution

/-!
Runs of one `CtlptlRegistry` resource under Pulumi. The recorded state is the
resource id with its outputs; `created` remembers what the `create` that made
the current id recorded and is read by no provider method. Each operation gets
its own host, so a command may fail in one step and succeed in the next.
-/

namespace ClusterApiForSlinky.RegistryRuns
open CtlptlRegistry RegistryCalls

structure Resource where
  id : String
  outs : Props
  created : CreateResult

structure State where
  resource : Option Resource
  registries : List RegistryObject

def initial (registries : List RegistryObject) : State := ⟨none, registries⟩

/-- One provider call. `replace` is the delete-before-create order `diff` asks
for: the old resource is deleted first and the new one created after it. -/
inductive Op where
  | check (news : Props)
  | diff (news : Props)
  | create (host : Host) (props : Props)
  | update (host : Host) (news : Props)
  | read (host : Host)
  | delete (host : Host)
  | replace (deleting creating : Host) (props : Props)

/-- The state after an operation and the commands it issued. An operation that
raises leaves the recorded state as it was. -/
def performCreate (host : Host) (props : Props) (registries : List RegistryObject) :
    State × List Command :=
  match create host props ⟨registries, []⟩ with
  | (.ok made, after) => (⟨some ⟨made.id, made.outs, made⟩, after.registries⟩, after.log)
  | (.error _, after) => (⟨none, after.registries⟩, after.log)

def performDelete (host : Host) (resource : Resource) (registries : List RegistryObject) :
    State × List Command :=
  match delete host resource.id resource.outs ⟨registries, []⟩ with
  | (.ok _, after) => (⟨none, after.registries⟩, after.log)
  | (.error _, after) => (⟨some resource, after.registries⟩, after.log)

def perform (state : State) : Op → State × List Command
  | .check _ | .diff _ => (state, [])
  | .create host props =>
      match state.resource with
      | some _ => (state, [])
      | none => performCreate host props state.registries
  | .update host news =>
      match state.resource with
      | none => (state, [])
      | some resource =>
          let updated := update host resource.id resource.outs news ⟨state.registries, []⟩
          (⟨some { resource with outs := updated.1 }, updated.2.registries⟩, updated.2.log)
  | .read host =>
      match state.resource with
      | none => (state, [])
      | some resource =>
          match CtlptlRegistry.read host resource.id resource.outs ⟨state.registries, []⟩ with
          | (.ok (some outs), after) =>
              (⟨some { resource with outs }, after.registries⟩, after.log)
          | (.ok none, after) => (⟨none, after.registries⟩, after.log)
          | (.error _, after) => (⟨some resource, after.registries⟩, after.log)
  | .delete host =>
      match state.resource with
      | none => (state, [])
      | some resource => performDelete host resource state.registries
  | .replace deleting creating props =>
      match state.resource with
      | none => (state, [])
      | some resource =>
          let deleted := performDelete deleting resource state.registries
          match deleted.1.resource with
          | some _ => deleted
          | none =>
              let made := performCreate creating props deleted.1.registries
              (made.1, deleted.2 ++ made.2)

def step (state : State) (op : Op) : State := (perform state op).1

def deletedName : Command → Option String
  | .deleteRegistry name => some name
  | _ => none

/-- The names for which an operation issues `ctlptl delete registry`. -/
def deletions (state : State) (op : Op) : List String :=
  (perform state op).2.filterMap deletedName

def deletingHost : Op → Option Host
  | .delete host => some host
  | .replace host _ _ => some host
  | _ => none

/-! Every call but `delete` only appends commands that delete nothing. -/

def Retains (before after : World) : Prop :=
  ∃ issued, after.log = before.log ++ issued ∧ issued.filterMap deletedName = []

theorem retains_refl (world : World) : Retains world world := ⟨[], by simp⟩

theorem retains_trans (first second third : World) (early : Retains first second)
    (late : Retains second third) : Retains first third := by
  obtain ⟨before, same, quiet⟩ := early
  obtain ⟨later, follows, calm⟩ := late
  exact ⟨before ++ later, by simp [follows, same], by simp [quiet, calm]⟩

theorem runCommand_log (host : Host) (command : Command) (world : World) :
    (runCommand host command world).2.log = world.log ++ [command] := by
  unfold runCommand
  split
  · rfl
  · split <;> rfl

theorem runCommand_retains (host : Host) (command : Command) (world : World)
    (quiet : deletedName command = none) : Retains world (runCommand host command world).2 :=
  ⟨[command], runCommand_log host command world, by simp [quiet]⟩

theorem observePort_world (host : Host) (name : String) (world : World) :
    (observePort host name world).2 = (runCommand host (.getRegistry name) world).2 := by
  simp only [observePort]
  split
  · rfl
  · split
    · rfl
    · split <;> rfl

theorem observePort_retains (host : Host) (name : String) (world : World) :
    Retains world (observePort host name world).2 := by
  rw [observePort_world]
  exact runCommand_retains host _ world rfl

theorem firstRegistry_retains (host : Host) (start : String) (env : Option (List String))
    (port : Option Int) (world : World) :
    Retains world (firstRegistryWithPrefix host start env port world).2 := by
  have listed := runCommand_retains host .getRegistries world rfl
  simp only [firstRegistryWithPrefix]
  split <;> exact listed

theorem createNew_retains (host : Host) (props : Props) (world : World) :
    Retains world (createNew host props world).2 := by
  have ran := runCommand_retains host
    (.apply (registryManifest (newName host props) props.port (envProp props))) world rfl
  have seen := retains_trans _ _ _ ran (observePort_retains host (newName host props) _)
  simp only [createNew]
  split
  · exact ran
  · split
    · next observed => simpa [observed] using seen
    · next observed => simpa [observed] using seen

theorem create_retains (host : Host) (props : Props) (world : World) :
    Retains world (create host props world).2 := by
  unfold create
  split
  · exact retains_refl world
  · split
    · have listed := firstRegistry_retains host (props.registryName.getD "") (envProp props)
        (nonzero props.port) world
      split
      · next found => simpa [found] using listed
      · next found => simpa [found] using listed
      · next after found =>
          have made := createNew_retains host props after
          exact retains_trans _ _ _ (by simpa [found] using listed) made
    · exact createNew_retains host props world

theorem update_retains (host : Host) (id : String) (olds news : Props) (world : World) :
    Retains world (update host id olds news world).2 :=
  observePort_retains host id world

theorem read_retains (host : Host) (id : String) (props : Props) (world : World) :
    Retains world (CtlptlRegistry.read host id props world).2 := by
  have ran := runCommand_retains host (.getRegistry id) world rfl
  simp only [CtlptlRegistry.read]
  split
  · exact retains_refl world
  · split <;> exact ran

/-- A call on an empty log that retains everything issues no deletion. -/
theorem retains_deletions (registries : List RegistryObject) (after : World)
    (kept : Retains ⟨registries, []⟩ after) : after.log.filterMap deletedName = [] := by
  obtain ⟨issued, same, quiet⟩ := kept
  simpa [same] using quiet

theorem delete_deletions (host : Host) (id : String) (props : Props)
    (registries : List RegistryObject) :
    (delete host id props ⟨registries, []⟩).2.log.filterMap deletedName =
      if host.installed && !adoptedProp props && deleteOnDestroyProp props then [id] else [] := by
  unfold delete
  cases host.installed <;> cases adoptedProp props <;> cases deleteOnDestroyProp props <;>
    simp [runCommand_log, deletedName]

/-- The recorded state stays tied to the `create` that made it: same id, same
adopted flag, and a definite answer for `delete_on_destroy`. -/
structure Tied (resource : Resource) : Prop where
  sameId : resource.created.id = resource.id
  named : resource.created.outs.registryName = some resource.id
  sameAdopted : resource.outs.adopted = resource.created.outs.adopted
  decided : resource.created.outs.adopted.isSome
  destroyDecided : resource.outs.deleteOnDestroy.isSome

def Invariant (state : State) : Prop :=
  ∀ resource, state.resource = some resource → Tied resource

theorem tied_adoptedProp (resource : Resource) (tied : Tied resource) :
    resource.outs.adopted = some (adoptedProp resource.outs) := by
  have decided : resource.outs.adopted.isSome := by
    rw [tied.sameAdopted]
    exact tied.decided
  obtain ⟨flag, same⟩ := Option.isSome_iff_exists.mp decided
  simp [adoptedProp, same]

theorem refreshed_tied (resource : Resource) (news : Props) (port : Option Int)
    (tied : Tied resource) :
    Tied { resource with outs := refreshed resource.id resource.outs news port } where
  sameId := tied.sameId
  named := tied.named
  sameAdopted := by
    rw [← tied.sameAdopted, tied_adoptedProp resource tied]
    rfl
  decided := tied.decided
  destroyDecided := rfl

theorem performCreate_invariant (host : Host) (props : Props)
    (registries : List RegistryObject) : Invariant (performCreate host props registries).1 := by
  intro resource recorded
  unfold performCreate at recorded
  split at recorded
  · next made after call =>
      obtain ⟨port, created⟩ :=
        create_created host props ⟨registries, []⟩ made (by rw [call])
      obtain ⟨adopted, same⟩ := created.recorded
      cases recorded
      exact { sameId := rfl, named := by simp [same, outputs], sameAdopted := rfl
              decided := by simp [same, outputs], destroyDecided := by simp [same, outputs] }
  · cases recorded

theorem performDelete_invariant (host : Host) (resource : Resource)
    (registries : List RegistryObject) (tied : Tied resource) :
    Invariant (performDelete host resource registries).1 := by
  intro kept recorded
  unfold performDelete at recorded
  split at recorded
  · cases recorded
  · cases recorded
    exact tied

theorem step_invariant (state : State) (op : Op) (holds : Invariant state) :
    Invariant (step state op) := by
  unfold step
  cases op with
  | check news => exact holds
  | diff news => exact holds
  | create host props =>
      cases present : state.resource with
      | some resource => simpa only [perform, present] using holds
      | none => simpa only [perform, present] using performCreate_invariant host props _
  | update host news =>
      cases present : state.resource with
      | none => simpa only [perform, present] using holds
      | some resource =>
          intro kept recorded
          simp only [perform, present, update, Option.some.injEq] at recorded
          subst kept
          exact refreshed_tied resource news _ (holds resource present)
  | read host =>
      cases present : state.resource with
      | none => simpa only [perform, present] using holds
      | some resource =>
          intro kept recorded
          simp only [perform, present] at recorded
          split at recorded
          · next outs after call =>
              cases recorded
              rw [read_ok host resource.id resource.outs outs _ (congrArg Prod.fst call)]
              exact refreshed_tied resource resource.outs _ (holds resource present)
          · cases recorded
          · cases recorded
            exact holds resource present
  | delete host =>
      cases present : state.resource with
      | none => simpa only [perform, present] using holds
      | some resource =>
          simpa only [perform, present] using
            performDelete_invariant host resource _ (holds resource present)
  | replace deleting creating props =>
      cases present : state.resource with
      | none => simpa only [perform, present] using holds
      | some resource =>
          -- The new registry is created only after the old one is gone.
          have deleted := performDelete_invariant deleting resource state.registries
            (holds resource present)
          simp only [perform, present]
          split
          · exact deleted
          · exact performCreate_invariant creating props _

theorem run_invariant (registries : List RegistryObject) (ops : List Op) :
    Invariant (Execution.run step (initial registries) ops) :=
  Execution.run_invariant step Invariant step_invariant (initial registries) ops
    (fun _ recorded => by cases recorded)

/-! The deletions of one operation, and of every operation of a run. -/

def mayDelete (outs : Props) : Bool :=
  outs.adopted == some false && outs.deleteOnDestroy == some true

def expectedDeletions (state : State) (op : Op) : List String :=
  match state.resource, deletingHost op with
  | some resource, some host =>
      if host.installed && mayDelete resource.outs then
        resource.created.outs.registryName.toList
      else []
  | _, _ => []

theorem mayDelete_eq (resource : Resource) (tied : Tied resource) :
    mayDelete resource.outs =
      (!adoptedProp resource.outs && deleteOnDestroyProp resource.outs) := by
  obtain ⟨destroy, recorded⟩ := Option.isSome_iff_exists.mp tied.destroyDecided
  have adopted := tied_adoptedProp resource tied
  rw [mayDelete, adopted, recorded, deleteOnDestroyProp, recorded]
  cases adoptedProp resource.outs <;> cases destroy <;> rfl

theorem performDelete_deletions (host : Host) (resource : Resource)
    (registries : List RegistryObject) (tied : Tied resource) :
    (performDelete host resource registries).2.filterMap deletedName =
      if host.installed && mayDelete resource.outs then
        resource.created.outs.registryName.toList
      else [] := by
  have issued := delete_deletions host resource.id resource.outs registries
  rw [mayDelete_eq resource tied, tied.named, ← Bool.and_assoc]
  unfold performDelete
  split
  · next call => simpa [call] using issued
  · next call => simpa [call] using issued

theorem performCreate_deletions (host : Host) (props : Props)
    (registries : List RegistryObject) :
    (performCreate host props registries).2.filterMap deletedName = [] := by
  have quiet := retains_deletions registries _ (create_retains host props ⟨registries, []⟩)
  unfold performCreate
  split
  · next call => simpa [call] using quiet
  · next call => simpa [call] using quiet

theorem deletions_expected (state : State) (op : Op) (holds : Invariant state) :
    deletions state op = expectedDeletions state op := by
  unfold deletions expectedDeletions
  cases present : state.resource with
  | none =>
      cases op with
      | create host props =>
          simpa only [perform, present] using performCreate_deletions host props _
      | _ => simp [perform, present]
  | some resource =>
      have tied := holds resource present
      cases op with
      | check news => rfl
      | diff news => rfl
      -- Creating over a recorded resource is no operation of the engine.
      | create host props => simp [perform, present, deletingHost]
      | update host news =>
          simpa only [perform, present, deletingHost] using
            retains_deletions _ _ (update_retains host resource.id resource.outs news _)
      | read host =>
          have quiet := retains_deletions _ _
            (read_retains host resource.id resource.outs ⟨state.registries, []⟩)
          simp only [perform, present, deletingHost]
          split
          · next call => simpa [call] using quiet
          · next call => simpa [call] using quiet
          · next call => simpa [call] using quiet
      | delete host =>
          simpa only [perform, present, deletingHost] using
            performDelete_deletions host resource _ tied
      | replace deleting creating props =>
          have deleted := performDelete_deletions deleting resource state.registries tied
          have made := performCreate_deletions creating props
            (performDelete deleting resource state.registries).1.registries
          simp only [perform, present, deletingHost]
          split
          · exact deleted
          · simpa only [List.filterMap_append, made, List.append_nil] using deleted

/-- In every run, an operation issues `ctlptl delete registry` exactly when it
deletes a resource recorded as not adopted and marked for deletion, for the name
its `create` recorded; a resource created by adoption never comes to that. -/
theorem registry_deletions_exact (registries : List RegistryObject) (ops : List Op) (op : Op) :
    let state := Execution.run step (initial registries) ops
    deletions state op = expectedDeletions state op ∧
      ∀ resource, state.resource = some resource →
        resource.created.outs.adopted = some true → deletions state op = [] := by
  have holds := run_invariant registries ops
  refine ⟨deletions_expected _ op holds, ?_⟩
  intro resource present adopted
  have kept : mayDelete resource.outs = false := by
    simp [mayDelete, (holds resource present).sameAdopted, adopted]
  rw [deletions_expected _ op holds, expectedDeletions, present]
  cases deletingHost op <;> simp [kept]

/-- A reliable machine on which ctlptl picks port 5001. -/
def quietHost : Host :=
  { installed := true, fails := fun _ => false, garbled := fun _ => false
    freePort := 5001, tokenHex := "0a1b2c3d" }

def cacheRegistry : RegistryObject :=
  { name := some "ctlptl-registry", port := some 5000, statusHostPort := some 5000
    statusEnv := some defaultRegistryEnv }

/-- Adopting a registry and then marking it for deletion still deletes nothing. -/
theorem registry_deletions_exact_adopted :
    deletions (Execution.run step (initial [cacheRegistry])
      [.create quietHost {}, .update quietHost { deleteOnDestroy := some true },
        .read quietHost]) (.delete quietHost) = [] :=
  (registry_deletions_exact [cacheRegistry]
    [.create quietHost {}, .update quietHost { deleteOnDestroy := some true },
      .read quietHost] (.delete quietHost)).2 _ rfl rfl

end ClusterApiForSlinky.RegistryRuns
