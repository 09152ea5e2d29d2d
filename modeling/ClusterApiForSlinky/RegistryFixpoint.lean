import ClusterApiForSlinky.RegistryCalls
import ClusterApiForSlinky.Execution

/-!
Re-applying a `CtlptlRegistry` with unchanged inputs. After `create`, each later
`read` or `update` meets ctlptl in some later world; all that is known of that
world is that the registry, while it exists, still has its name and port.
-/

namespace ClusterApiForSlinky.RegistryFixpoint
open CtlptlRegistry RegistryCalls

/-! Later operations on the registry. -/

/-- A `read` or an `update` with the same inputs, and the machine and the world
it is run in. -/
inductive Visit where
  | read (host : Host) (world : World)
  | update (host : Host) (world : World)

def Visit.world : Visit → World
  | .read _ world => world
  | .update _ world => world

/-- The registry, while it exists, shows the port it was bound to. -/
def Keeps (id : String) (port : Int) (visit : Visit) : Prop :=
  ∀ data, lookup id visit.world.registries = some data → registryPort data = some port

/-- The recorded outputs after a visit; `none` once a `read` found the registry
gone. A `read` that raises leaves the record alone. -/
def visited (id : String) (props : Props) : Option Props → Visit → Option Props
  | none, _ => none
  | some outs, .read host world =>
      match (CtlptlRegistry.read host id outs world).1 with
      | .ok seen => seen
      | .error _ => some outs
  | some outs, .update host world => some (update host id outs (check outs props) world).1

/-- The normal form in which a record agrees with the inputs it was made from;
`env` is compared the way `diff` reads it. -/
structure Settled (props : Props) (id : String) (port : Int) (outs : Props) : Prop where
  name : outs.registryName = some id
  port : outs.port = some port
  env : envProp outs = some ((envProp props).getD defaultRegistryEnv)
  adoptExisting : outs.adoptExisting = some (adoptExistingProp props)
  deleteOnDestroy : outs.deleteOnDestroy = some (deleteOnDestroyProp props)

/-- Recording an `env` and reading it back: only a recorded `None` changes. -/
theorem envProp_again (props outs : Props) (recorded : outs.env = envProp props) :
    envProp outs = some ((envProp props).getD defaultRegistryEnv) := by
  unfold envProp at *
  cases asked : props.env with
  | none => simp [recorded, asked, defaultRegistryEnv]
  | some items => cases items <;> simp [recorded, asked]

theorem envProp_getD (props : Props) :
    envProp props = some ((envProp props).getD defaultRegistryEnv) ↔ props.env ≠ some [] := by
  unfold envProp
  cases props.env with
  | none => simp
  | some items => cases items <;> simp

theorem settled_outputs (props : Props) (id : String) (port : Int) (adopted : Bool) :
    Settled props id port (outputs props id port adopted) :=
  ⟨rfl, rfl, envProp_again props _ rfl, rfl, rfl⟩

/-- `refreshed` records the inputs again; a `read` records its own record again. -/
theorem settled_refreshed (props olds news : Props) (id : String) (port : Int)
    (observed : Option Int)
    (shown : observed.or news.port = some port)
    (env : envProp (refreshed id olds news observed) =
      some ((envProp props).getD defaultRegistryEnv))
    (adopt : adoptExistingProp news = adoptExistingProp props)
    (remove : deleteOnDestroyProp news = deleteOnDestroyProp props) :
    Settled props id port (refreshed id olds news observed) :=
  ⟨rfl, shown, env, by simp [refreshed, adopt], by simp [refreshed, remove]⟩

theorem read_settled (props : Props) (id : String) (port : Int) (host : Host) (world : World)
    (outs next : Props) (settled : Settled props id port outs)
    (keeps : Keeps id port (.read host world))
    (seen : (CtlptlRegistry.read host id outs world).1 = .ok (some next)) :
    Settled props id port next := by
  rw [read_ok host id outs next world seen]
  apply settled_refreshed props outs outs id port
  · cases found : lookup id world.registries with
    | none => simp [settled.port]
    | some data => simp [keeps data found]
  · rw [envProp_again outs _ rfl, settled.env, Option.getD_some]
  · simp [adoptExistingProp, settled.adoptExisting]
  · simp [deleteOnDestroyProp, settled.deleteOnDestroy]

/-- Observed or recorded, `update` has the port the registry was bound to. -/
theorem update_port (host : Host) (id : String) (port : Int) (world : World)
    (olds news : Props) (recorded : olds.port = some port) (real : port ≠ 0)
    (keeps : Keeps id port (.update host world)) :
    (update host id olds news world).1 = refreshed id olds news (some port) := by
  have kept : nonzero (some port) = some port := (nonzero_eq_some _ _).mpr ⟨rfl, real⟩
  simp only [update]
  split
  · next seen call =>
      obtain ⟨data, present, shown⟩ := observePort_ok host id world seen call
      rw [runCommand_get] at present
      rw [← shown, keeps data present, kept]
  · rw [recorded, kept]

theorem update_settled (props : Props) (id : String) (port : Int) (host : Host) (world : World)
    (outs : Props) (settled : Settled props id port outs) (real : port ≠ 0)
    (keeps : Keeps id port (.update host world)) :
    Settled props id port (update host id outs (check outs props) world).1 := by
  rw [update_port host id port world outs _ settled.port real keeps]
  apply settled_refreshed props outs (check outs props) id port
  · rfl
  · have same : envProp (check outs props) = envProp props := by
      simp [envProp, check_env]
    rw [envProp_again (check outs props) _ rfl, same]
  · simp [adoptExistingProp, check_adoptExisting]
  · simp [deleteOnDestroyProp, check_deleteOnDestroy]

theorem visited_settled (props : Props) (id : String) (port : Int) (visit : Visit)
    (outs next : Props) (settled : Settled props id port outs) (real : port ≠ 0)
    (keeps : Keeps id port visit) (recorded : visited id props (some outs) visit = some next) :
    Settled props id port next := by
  cases visit with
  | read host world =>
      simp only [visited] at recorded
      split at recorded
      · next seen call =>
          rw [recorded] at call
          exact read_settled props id port host world outs next settled keeps call
      · cases recorded
        exact settled
  | update host world =>
      cases recorded
      exact update_settled props id port host world outs settled real keeps

/-- Once the registry is gone no record comes back. -/
theorem run_gone (id : String) (props : Props) (visits : List Visit) :
    Execution.run (visited id props) none visits = none := by
  induction visits with
  | nil => rfl
  | cons visit rest ih => exact ih

theorem run_settled (props : Props) (id : String) (port : Int) (visits : List Visit)
    (outs next : Props) (settled : Settled props id port outs) (real : port ≠ 0)
    (keeps : ∀ visit ∈ visits, Keeps id port visit)
    (recorded : Execution.run (visited id props) (some outs) visits = some next) :
    Settled props id port next := by
  induction visits generalizing outs with
  | nil =>
      cases recorded
      exact settled
  | cons visit rest ih =>
      rw [Execution.run_cons] at recorded
      cases after : visited id props (some outs) visit with
      | none => simp [after, run_gone] at recorded
      | some middle =>
          rw [after] at recorded
          have held := visited_settled props id port visit outs middle settled real
            (keeps visit (by simp)) after
          exact ih middle held (fun later member => keeps later (by simp [member])) recorded

/-! What `diff` makes of a settled record. -/

/-- The name half: a created or adopted id is compatible with the pinned name. -/
theorem created_name (olds props : Props) (made : CreateResult) (port : Int) (outs : Props)
    (created : Created (check olds props) made port)
    (settled : Settled props made.id port outs) :
    nameReplaces made.id outs (check outs props) = false := by
  have adopts : adoptExistingProp (check olds props) = adoptExistingProp props := by
    simp [adoptExistingProp, check_adoptExisting]
  have adoptsAgain : adoptExistingProp (check outs props) = adoptExistingProp props := by
    simp [adoptExistingProp, check_adoptExisting]
  have oldName : (Text.nonempty outs.registryName).getD made.id = made.id := by
    rw [settled.name]
    by_cases empty : made.id = "" <;> simp [Text.nonempty, Option.filter, empty]
  unfold nameReplaces
  rw [oldName, check_registryName, adoptsAgain]
  cases asked : Text.nonempty props.registryName with
  | none => rfl
  | some pinned =>
      have given := ((Text.nonempty_eq_some _ _).mp asked).1
      cases adopt : adoptExistingProp props with
      | true =>
          have starts := created.adopting (adopts.trans adopt)
          rw [check_registryName, given, Option.getD_some] at starts
          simp [starts]
      | false =>
          have same := created.pinned (adopts.trans adopt) pinned
            (by rw [check_registryName]; exact asked)
          simp [same]

theorem settled_port (props : Props) (id : String) (port : Int) (outs : Props)
    (settled : Settled props id port outs) (real : port ≠ 0)
    (honoured : ∀ wanted, nonzero props.port = some wanted → port = wanted) :
    portReplaces outs (check outs props) = false := by
  have carried := check_port outs props port settled.port real
    (fun wanted asked => (honoured wanted asked).symm)
  simp [portReplaces, carried, settled.port]

theorem settled_diff (props : Props) (id : String) (port : Int) (outs : Props)
    (settled : Settled props id port outs)
    (name : nameReplaces id outs (check outs props) = false)
    (bound : portReplaces outs (check outs props) = false) :
    diff id outs (check outs props) =
      if props.env = some [] then ⟨true, ["env"], true⟩ else ⟨false, [], true⟩ := by
  have adopt : adoptExistingProp (check outs props) = adoptExistingProp outs := by
    simp [adoptExistingProp, check_adoptExisting, settled.adoptExisting]
  have remove : deleteOnDestroyProp (check outs props) = deleteOnDestroyProp outs := by
    simp [deleteOnDestroyProp, check_deleteOnDestroy, settled.deleteOnDestroy]
  have env : envProp (check outs props) = envProp props := by simp [envProp, check_env]
  have again := envProp_getD props
  rw [← settled.env] at again
  by_cases explicit : props.env = some []
  · have differ : envProp props ≠ envProp outs := fun same => again.mp same explicit
    simp [diff, name, bound, adopt, remove, env, differ, explicit]
  · have same : envProp props = envProp outs := again.mpr explicit
    simp [diff, name, bound, adopt, remove, env, same, explicit]

/-- The re-apply of a registry is a no-op exactly when its inputs do not spell
out an empty `env`: that one is recorded as `None` and read back as the default. -/
theorem reapply_noop_iff (host : Host) (olds props : Props) (world : World)
    (made : CreateResult) (visits : List Visit) (outs : Props)
    (success : (create host (check olds props) world).1 = .ok made)
    (keeps : ∀ visit ∈ visits, ∀ port, made.outs.port = some port → Keeps made.id port visit)
    (recorded : Execution.run (visited made.id props) (some made.outs) visits = some outs) :
    ((diff made.id outs (check outs props)).changes = false ∧
      (diff made.id outs (check outs props)).replaces = []) ↔ props.env ≠ some [] := by
  obtain ⟨port, created⟩ := create_created host (check olds props) world made success
  obtain ⟨adopted, shown⟩ := created.recorded
  have start : Settled props made.id port made.outs := by
    have settled := settled_outputs (check olds props) made.id port adopted
    rw [← shown] at settled
    refine ⟨settled.name, settled.port, ?_, ?_, ?_⟩
    · simpa [envProp, check_env] using settled.env
    · simpa [adoptExistingProp, check_adoptExisting] using settled.adoptExisting
    · simpa [deleteOnDestroyProp, check_deleteOnDestroy] using settled.deleteOnDestroy
  have settled := run_settled props made.id port visits made.outs outs start created.real
    (fun visit member => keeps visit member port start.port) recorded
  have name := created_name olds props made port outs created settled
  have bound := settled_port props made.id port outs settled created.real
    (fun wanted asked => created.honoured wanted (check_pins olds props wanted asked))
  rw [settled_diff props made.id port outs settled name bound]
  by_cases explicit : props.env = some [] <;> simp [explicit]

/-- A host on which every command succeeds and ctlptl binds port 5005. -/
def workingHost : Host where
  installed := true
  fails := fun _ => false
  garbled := fun _ => false
  freePort := 5005
  tokenHex := "0a1b2c3d"

/-- A pinned registry without an `env`, read once in the world `create` left. -/
theorem reapply_noop_pinned :
    let props : Props := { registryName := some "mirror" }
    let world := (create workingHost (check {} props) ⟨[], []⟩).2
    let outs := outputs props "mirror" 5005 false
    ((diff "mirror" outs (check outs props)).changes = false ∧
      (diff "mirror" outs (check outs props)).replaces = []) ∧
    (visited "mirror" props (some outs) (.read workingHost world)) = some outs := by
  intro props world outs
  refine ⟨?_, by decide⟩
  refine (reapply_noop_iff workingHost {} props ⟨[], []⟩ ⟨"mirror", outs⟩
    [.read workingHost world] outs (by decide) ?_ (by decide)).mpr (by decide)
  intro visit member port bound data found
  have only : visit = .read workingHost world := by simpa using member
  subst only
  have listed : lookup "mirror" world.registries =
      some { name := some "mirror", port := some 5005, statusHostPort := some 5005
             statusEnv := some defaultRegistryEnv } := by decide
  have bound5005 : some 5005 = some port := bound
  cases bound5005
  cases listed.symm.trans found
  decide

/-- With `env: []` the very next `diff` replaces the registry it just made. -/
theorem reapply_empty_env_replaces :
    ∃ (props : Props) (made : CreateResult),
      (create workingHost (check {} props) ⟨[], []⟩).1 = .ok made ∧
      (diff made.id made.outs (check made.outs props)).changes = true ∧
      (diff made.id made.outs (check made.outs props)).replaces = ["env"] := by
  refine ⟨{ registryName := some "plain", env := some [] },
    ⟨"plain", { registryName := some "plain", port := some 5005, adoptExisting := some true
                adopted := some false, deleteOnDestroy := some false }⟩, ?_, ?_, ?_⟩
  · decide
  · decide
  · decide

end ClusterApiForSlinky.RegistryFixpoint
