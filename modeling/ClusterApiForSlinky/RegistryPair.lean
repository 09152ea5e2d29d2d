import ClusterApiForSlinky.MarkedStore
import ClusterApiForSlinky.RegistryRuns
import ClusterApiForSlinky.StackRoutes

/-!
The two registries of `run_stack` (stack.py) on one machine: the pull-through cache
and the registry that the builds are pushed to. Each adopts a registry that ctlptl
already knows when its environment suits, and makes one otherwise.
-/

namespace ClusterApiForSlinky.RegistryPair
open CtlptlRegistry RegistryCalls
open RegistryRuns (Resource performCreate performDelete)
open StackBuilds (CustomRegistryConfig)
open StackRoutes (customRegistryEnv customRegistryProps)

inductive Role where
  | cacheRegistry
  | customRegistry
  deriving DecidableEq

def Role.env : Role → List String
  | .cacheRegistry => defaultRegistryEnv
  | .customRegistry => customRegistryEnv

/-- The inputs `run_stack` passes. -/
def Role.props (config : CustomRegistryConfig) : Role → Props
  | .cacheRegistry => { autonameSeed := some "cache-registry" }
  | .customRegistry => customRegistryProps config

structure State where
  records : Role → Option Resource
  registries : List RegistryObject

def initial (registries : List RegistryObject) : State := ⟨fun _ => none, registries⟩

inductive Op where
  | own (role : Role) (op : RegistryRuns.Op)
  /-- Somebody else makes, remakes or removes the registry of a name. -/
  | outside (name : String) (made : Option RegistryObject)

def view (state : State) (role : Role) : RegistryRuns.State :=
  ⟨state.records role, state.registries⟩

def others (name : String) (registries : List RegistryObject) : List RegistryObject :=
  registries.filter (fun data => registryName data ≠ some name)

def step (state : State) : Op → State
  | .own role op =>
      let after := RegistryRuns.step (view state role) op
      ⟨Function.update state.records role after.resource, after.registries⟩
  | .outside name made => { state with registries := made.toList ++ others name state.registries }

def serves (role : Role) (data : RegistryObject) : Bool := envIsCompatible data (some role.env)

/-- A registry is the one or the other, or neither. -/
def Single (data : RegistryObject) : Prop :=
  ∀ first second, serves first data = true → serves second data = true → first = second

def given : RegistryRuns.Op → Option Props
  | .create _ props | .update _ props | .replace _ _ props => some props
  | .check _ | .diff _ | .read _ | .delete _ => none

/-- The inputs of a role, as `check` leaves them; the configuration may change. -/
def Asked (role : Role) (props : Props) : Prop :=
  ∃ config port, props = { role.props config with port := port }

def FromStack : Op → Prop
  | .own role op => ∀ props, given op = some props → Asked role props
  | .outside name made => ∀ data, made = some data → registryName data = some name ∧ Single data

/-! The registry that a `create` makes. -/

def adopts (host : Host) (props : Props) (registries : List RegistryObject) :
    Except Failure (Option (String × Int)) :=
  (firstRegistryWithPrefix host (props.registryName.getD "") (envProp props)
    (nonzero props.port) ⟨registries, []⟩).1

def manifestOf (host : Host) (props : Props) : Manifest :=
  registryManifest (newName host props) props.port (envProp props)

/-- The name under which it makes one; it may still fail to observe its port. -/
def makes (host : Host) (props : Props) (registries : List RegistryObject) : Option String :=
  match adopts host props registries with
  | .ok none =>
      if host.installed && !host.fails (.apply (manifestOf host props)) then
        some (newName host props)
      else none
  | .ok (some _) | .error _ => none

/-- Likewise for an operation on a resource in its state. -/
def madeBy (state : RegistryRuns.State) : RegistryRuns.Op → Option String
  | .create host props =>
      if state.resource.isSome then none else makes host props state.registries
  | .replace deleting host props =>
      if state.resource.isSome && deleting.installed then makes host props state.registries
      else none
  | .check _ | .diff _ | .update _ _ | .read _ | .delete _ => none

/-! What is to be kept apart. -/

structure Apart (state : State) : Prop where
  /-- What a resource recorded is, while it exists, a registry of its kind. -/
  serves : ∀ role resource, state.records role = some resource → ∀ data,
    lookup resource.id state.registries = some data → serves role data = true
  differ : ∀ first second one two, state.records first = some one →
    state.records second = some two → one.id = two.id → first = second

/-- Nothing is made over the registry that the other resource recorded, and nobody
else makes a recorded one anew for another purpose. -/
def Allowed (state : State) : Op → Prop
  | .own role op => ∀ name, madeBy (view state role) op = some name → ∀ other resource,
      state.records other = some resource → resource.id = name → other = role
  | .outside name made => ∀ role resource, state.records role = some resource →
      resource.id = name → ∀ data, made = some data → RegistryPair.serves role data = true

structure Sound (state : State) : Prop where
  named : (state.registries.filterMap registryName).Nodup
  single : ∀ data ∈ state.registries, Single data
  retained : ∀ role resource, state.records role = some resource →
    deleteOnDestroyProp resource.outs = false

/-! Lookups. -/

theorem lookup_some (name : String) (registries : List RegistryObject) (data : RegistryObject)
    (found : lookup name registries = some data) :
    data ∈ registries ∧ registryName data = some name := by
  refine ⟨List.mem_of_find?_eq_some found, ?_⟩
  simpa using List.find?_some found

theorem lookup_cons (name : String) (data : RegistryObject) (rest : List RegistryObject) :
    lookup name (data :: rest) =
      if registryName data = some name then some data else lookup name rest := by
  rw [lookup, List.find?_cons]
  by_cases named : registryName data = some name
  · simp [named]
  · have unlike : (registryName data == some name) = false := by simpa using named
    rw [unlike, if_neg named]
    rfl

theorem lookup_of_mem (name : String) (registries : List RegistryObject) (data : RegistryObject)
    (unique : (registries.filterMap registryName).Nodup) (member : data ∈ registries)
    (named : registryName data = some name) : lookup name registries = some data := by
  induction registries with
  | nil => cases member
  | cons first rest ih =>
      rw [lookup_cons]
      rcases List.mem_cons.mp member with rfl | later
      · rw [if_pos named]
      · have later_name : name ∈ rest.filterMap registryName :=
          List.mem_filterMap.mpr ⟨data, later, named⟩
        cases own : registryName first with
        | none =>
            rw [List.filterMap_cons_none own] at unique
            simpa using ih unique later
        | some other =>
            rw [List.filterMap_cons_some own, List.nodup_cons] at unique
            have differs : other ≠ name := by
              rintro rfl
              exact unique.1 later_name
            simpa [differs] using ih unique.2 later

theorem lookup_others (name other : String) (registries : List RegistryObject) :
    lookup other (others name registries) =
      if other = name then none else lookup other registries := by
  induction registries with
  | nil => simp [others, lookup]
  | cons first rest ih =>
      by_cases own : registryName first = some name
      · have dropped : others name (first :: rest) = others name rest := by simp [others, own]
        rw [dropped, ih, lookup_cons, own]
        by_cases same : other = name
        · simp [same]
        · simp [same, Ne.symm same]
      · have kept : others name (first :: rest) = first :: others name rest := by
          simp [others, own]
        rw [kept, lookup_cons, lookup_cons, ih]
        by_cases same : other = name
        · subst same
          simp [own]
        · simp [same]

theorem lookup_replaced (name other : String) (made : Option RegistryObject)
    (registries : List RegistryObject)
    (named : ∀ data, made = some data → registryName data = some name) :
    lookup other (made.toList ++ others name registries) =
      if other = name then made else lookup other registries := by
  cases made with
  | none => exact lookup_others name other registries
  | some data =>
      show lookup other (data :: others name registries) = _
      rw [lookup_cons, named data rfl, lookup_others]
      by_cases same : other = name
      · simp [same]
      · simp [same, Ne.symm same]

/-! What `create` leaves behind. -/

section Creating

variable (host : Host) (props : Props) (registries : List RegistryObject)

theorem apply_succeeds (manifest : Manifest) (world : World) :
    (runCommand host (.apply manifest) world).1 =
      (host.installed && !host.fails (.apply manifest)) := by
  rw [runCommand]
  cases host.installed <;> cases host.fails (.apply manifest) <;> rfl

theorem apply_failed (manifest : Manifest) (world : World)
    (failed : (runCommand host (.apply manifest) world).1 = false) :
    (runCommand host (.apply manifest) world).2.registries = world.registries := by
  rw [apply_succeeds] at failed
  rw [runCommand]
  cases installed : host.installed <;> cases fails : host.fails (.apply manifest) <;>
    simp_all

theorem observePort_registries (name : String) (world : World) :
    (observePort host name world).2.registries = world.registries := by
  rw [RegistryRuns.observePort_world, runCommand_get]

theorem getRegistries_registries (world : World) :
    (runCommand host .getRegistries world).2.registries = world.registries := by
  rw [runCommand]
  split <;> rfl

theorem firstRegistry_registries (start : String) (env : Option (List String))
    (port : Option Int) (world : World) :
    (firstRegistryWithPrefix host start env port world).2.registries = world.registries := by
  have listed := getRegistries_registries host world
  rw [firstRegistryWithPrefix]
  split <;> exact listed

theorem adopts_found (name : String) (port : Int)
    (found : adopts host props registries = .ok (some (name, port))) :
    ∃ item ∈ registries, registryName item = some name ∧
      envIsCompatible item (envProp props) = true := by
  have listed := getRegistries_registries host ⟨registries, []⟩
  rw [adopts, firstRegistryWithPrefix] at found
  split at found
  · cases found
  · have matched : firstMatch _ _ _ registries = _ := listed ▸ found
    rcases firstMatch_find _ _ _ _ _ matched with ⟨_, none⟩ | ⟨item, _, _, first, named, _, same⟩
    · cases none
    · cases same
      have fit := List.find?_some first
      rw [suits_named _ _ _ item name named, Bool.and_eq_true, Bool.and_eq_true] at fit
      exact ⟨item, List.mem_of_find?_eq_some first, named, fit.1.2⟩

/-- `createNew`, from a world in which the adoption found nothing. -/
theorem createNew_registries (world : World) :
    (createNew host props world).2.registries =
      if host.installed && !host.fails (.apply (manifestOf host props)) then
        applied host (manifestOf host props) world.registries ::
          others (newName host props) world.registries
      else world.registries := by
  rw [← apply_succeeds host (manifestOf host props) world, createNew]
  split
  · next failed =>
      rw [Bool.not_eq_true'] at failed
      rw [if_neg (by rw [manifestOf, failed]; simp)]
      exact apply_failed host (manifestOf host props) world failed
  · next reached =>
      rw [Bool.not_eq_true, Bool.not_eq_false'] at reached
      have made : (runCommand host (.apply (manifestOf host props)) world).2.registries =
          applied host (manifestOf host props) world.registries ::
            others (newName host props) world.registries :=
        runCommand_apply host (manifestOf host props) world reached
      have seen := observePort_registries host (newName host props)
        (runCommand host (.apply (manifestOf host props)) world).2
      rw [if_pos (by rw [manifestOf, reached]), ← made, ← seen]
      split
      · next call => exact (congrArg (fun out => out.2.registries) call).symm
      · next call => exact (congrArg (fun out => out.2.registries) call).symm

theorem createNew_id (world : World) (made : CreateResult)
    (success : (createNew host props world).1 = .ok made) :
    made.id = newName host props ∧
      (host.installed && !host.fails (.apply (manifestOf host props))) = true := by
  obtain ⟨_, same, _⟩ := createNew_port host props world made success
  refine ⟨congrArg CreateResult.id same, ?_⟩
  rw [← apply_succeeds host (manifestOf host props) world]
  rw [createNew] at success
  split at success
  · cases success
  · next reached =>
      rw [Bool.not_eq_true, Bool.not_eq_false'] at reached
      exact reached

/-- Where it makes nothing, it adopts a registry that suits or records nothing. -/
theorem create_idle (adopting : adoptExistingProp props = true)
    (idle : makes host props registries = none) :
    (create host props ⟨registries, []⟩).2.registries = registries ∧
      ∀ made, (create host props ⟨registries, []⟩).1 = .ok made →
        ∃ item ∈ registries, registryName item = some made.id ∧
          envIsCompatible item (envProp props) = true := by
  have listed := firstRegistry_registries host (props.registryName.getD "") (envProp props)
    (nonzero props.port) ⟨registries, []⟩
  rw [create, if_pos adopting]
  split
  · exact ⟨rfl, fun made ok => by cases ok⟩
  · split
    · next call => exact ⟨by simpa [call] using listed, fun made ok => by cases ok⟩
    · next name port after call =>
        have found : adopts host props registries = .ok (some (name, port)) := congrArg Prod.fst call
        refine ⟨by simpa [call] using listed, ?_⟩
        intro made ok
        cases ok
        exact adopts_found host props registries name port found
    · next after call =>
        have found : adopts host props registries = .ok none := congrArg Prod.fst call
        have same : after.registries = registries := by simpa [call] using listed
        -- Nothing suits and nothing is made, so the apply itself has failed.
        have failed : ¬(host.installed && !host.fails (.apply (manifestOf host props))) = true := by
          intro reached
          rw [makes, found] at idle
          simp [reached] at idle
        constructor
        · rw [createNew_registries, if_neg failed, same]
        · intro made ok
          exact absurd (createNew_id host props after made ok).2 failed

theorem create_makes (adopting : adoptExistingProp props = true) (name : String)
    (made : makes host props registries = some name) :
    name = newName host props ∧
      (create host props ⟨registries, []⟩).2.registries =
        applied host (manifestOf host props) registries :: others name registries ∧
      ∀ result, (create host props ⟨registries, []⟩).1 = .ok result → result.id = name := by
  have listed := firstRegistry_registries host (props.registryName.getD "") (envProp props)
    (nonzero props.port) ⟨registries, []⟩
  rw [makes] at made
  split at made
  · next found =>
      split at made
      · next reached =>
          cases made
          have installed : host.installed = true := (Bool.and_eq_true_iff.mp reached).1
          rw [create, installed, if_neg (by simp), if_pos adopting]
          split
          · next call => exact absurd (found.symm.trans (congrArg Prod.fst call)) (by simp)
          · next call => exact absurd (found.symm.trans (congrArg Prod.fst call)) (by simp)
          · next after call =>
              have same : after.registries = registries := by simpa [call] using listed
              refine ⟨rfl, ?_, fun result ok => (createNew_id host props after result ok).1⟩
              rw [createNew_registries, if_pos reached, same]
      · cases made
  · cases made
  · cases made

end Creating

/-! What an operation does to its own record and to the registries. -/

structure Inputs (role : Role) (props : Props) : Prop where
  adopting : adoptExistingProp props = true
  env : envProp props = some role.env
  retaining : deleteOnDestroyProp props = false

theorem Asked.inputs {role : Role} {props : Props} (asked : Asked role props) :
    Inputs role props := by
  obtain ⟨config, port, rfl⟩ := asked
  cases role <;> exact ⟨rfl, rfl, rfl⟩

theorem serves_applied (role other : Role) (host : Host) (props : Props)
    (registries : List RegistryObject) (env : envProp props = some role.env) :
    serves other (applied host (manifestOf host props) registries) = true ↔ other = role := by
  have carried : registryEnv (applied host (manifestOf host props) registries) =
      (nonemptyList (nonemptyList (envProp props))).getD [] := rfl
  rw [serves, envIsCompatible, carried, env]
  cases role <;> cases other <;> decide

/-- Where `made` is a name, a registry has been made under it. -/
inductive Effect (role : Role) (before after : RegistryRuns.State) : Option String → Prop
  | kept (same : after.registries = before.registries)
      (id : after.resource.map Resource.id = before.resource.map Resource.id) :
      Effect role before after none
  | released (same : after.registries = before.registries) (gone : after.resource = none) :
      Effect role before after none
  | adopted (same : after.registries = before.registries) (resource : Resource)
      (recorded : after.resource = some resource) (item : RegistryObject)
      (member : item ∈ before.registries) (named : registryName item = some resource.id)
      (suits : serves role item = true) : Effect role before after none
  | made (name : String) (data : RegistryObject) (own : registryName data = some name)
      (purpose : ∀ other, serves other data = true ↔ other = role)
      (registries : after.registries = data :: others name before.registries)
      (id : ∀ resource, after.resource = some resource → resource.id = name) :
      Effect role before after (some name)

theorem performCreate_registries (host : Host) (props : Props)
    (registries : List RegistryObject) :
    (performCreate host props registries).1.registries =
      (create host props ⟨registries, []⟩).2.registries := by
  rw [performCreate]
  split <;> next call => rw [call]

theorem performCreate_resource (host : Host) (props : Props) (registries : List RegistryObject)
    (resource : Resource)
    (recorded : (performCreate host props registries).1.resource = some resource) :
    ∃ made, (create host props ⟨registries, []⟩).1 = .ok made ∧ resource.id = made.id ∧
      resource.outs = made.outs := by
  rw [performCreate] at recorded
  split at recorded
  · next made _ call =>
      cases recorded
      exact ⟨made, congrArg Prod.fst call, rfl, rfl⟩
  · cases recorded

theorem performCreate_effect (role : Role) (before : RegistryRuns.State) (host : Host)
    (props : Props) (inputs : Inputs role props) :
    Effect role before (performCreate host props before.registries).1
      (makes host props before.registries) := by
  have world := performCreate_registries host props before.registries
  have record := performCreate_resource host props before.registries
  cases outcome : makes host props before.registries with
  | none =>
      obtain ⟨same, adopted⟩ := create_idle host props before.registries inputs.adopting outcome
      cases after : (performCreate host props before.registries).1.resource with
      | none => exact .released (world.trans same) after
      | some resource =>
          obtain ⟨made, ok, id, _⟩ := record resource after
          obtain ⟨item, member, named, suits⟩ := adopted made ok
          rw [inputs.env] at suits
          exact .adopted (world.trans same) resource after item member (id ▸ named) suits
  | some name =>
      obtain ⟨newly, registries, ids⟩ :=
        create_makes host props before.registries inputs.adopting name outcome
      refine .made name (applied host (manifestOf host props) before.registries) ?_ ?_
        (world.trans registries) ?_
      · rw [newly]
        exact applied_named host (manifestOf host props) _ (newName_nonempty host props)
      · exact fun other => serves_applied role other host props before.registries inputs.env
      · intro resource recorded
        obtain ⟨made, ok, id, _⟩ := record resource recorded
        exact id.trans (ids made ok)

theorem performDelete_retained (host : Host) (resource : Resource)
    (registries : List RegistryObject) (retained : deleteOnDestroyProp resource.outs = false) :
    (performDelete host resource registries).1 =
      ⟨if host.installed then none else some resource, registries⟩ := by
  rw [performDelete, delete, retained]
  cases host.installed <;> simp

theorem read_registries (host : Host) (id : String) (props : Props)
    (registries : List RegistryObject) :
    (CtlptlRegistry.read host id props ⟨registries, []⟩).2.registries = registries := by
  have ran := runCommand_get host id ⟨registries, []⟩
  rw [CtlptlRegistry.read]
  split
  · rfl
  · dsimp only
    split <;> exact ran

theorem step_effect (role : Role) (before : RegistryRuns.State) (op : RegistryRuns.Op)
    (asked : ∀ props, given op = some props → Asked role props)
    (retained : ∀ resource, before.resource = some resource →
      deleteOnDestroyProp resource.outs = false) :
    Effect role before (RegistryRuns.step before op) (madeBy before op) := by
  rw [RegistryRuns.step]
  cases op with
  | check news => exact .kept rfl rfl
  | diff news => exact .kept rfl rfl
  | create host props =>
      cases present : before.resource with
      | some resource => simpa [RegistryRuns.perform, madeBy, present] using .kept rfl rfl
      | none =>
          simpa [RegistryRuns.perform, madeBy, present] using
            performCreate_effect role before host props (asked props rfl).inputs
  | update host news =>
      cases present : before.resource with
      | none => simpa [RegistryRuns.perform, madeBy, present] using .kept rfl rfl
      | some resource =>
          simp only [RegistryRuns.perform, madeBy, present]
          exact .kept (observePort_registries host resource.id _) (by simp [present])
  | read host =>
      cases present : before.resource with
      | none => simpa [RegistryRuns.perform, madeBy, present] using .kept rfl rfl
      | some resource =>
          have seen := read_registries host resource.id resource.outs before.registries
          simp only [RegistryRuns.perform, madeBy, present]
          split
          · next call => exact .kept (by simpa [call] using seen) (by simp [present])
          · next call => exact .released (by simpa [call] using seen) rfl
          · next call => exact .kept (by simpa [call] using seen) (by simp [present])
  | delete host =>
      cases present : before.resource with
      | none => simpa [RegistryRuns.perform, madeBy, present] using .kept rfl rfl
      | some resource =>
          simp only [RegistryRuns.perform, madeBy, present]
          rw [performDelete_retained host resource _ (retained resource present)]
          cases host.installed with
          | true => exact .released rfl rfl
          | false => exact .kept rfl (by simp [present])
  | replace deleting creating props =>
      cases present : before.resource with
      | none => simpa [RegistryRuns.perform, madeBy, present] using .kept rfl rfl
      | some resource =>
          simp only [RegistryRuns.perform, madeBy, present]
          have deleted := performDelete_retained deleting resource before.registries
            (retained resource present)
          cases installed : deleting.installed with
          | true =>
              -- The old registry stays in place, so the new one meets the same list.
              simpa [deleted, installed] using
                performCreate_effect role before creating props (asked props rfl).inputs
          | false => simpa [deleted, installed] using .kept rfl (by simp [present])

/-! The machine as a store of marked registries. -/

def markOf (data : RegistryObject) : Option Role :=
  if serves .cacheRegistry data then some .cacheRegistry
  else if serves .customRegistry data then some .customRegistry
  else none

theorem markOf_iff (data : RegistryObject) (single : Single data) (role : Role) :
    markOf data = some role ↔ serves role data = true := by
  have cache : serves .cacheRegistry data = true → serves .customRegistry data = true → False :=
    fun first second => absurd (single _ _ first second) (by decide)
  rw [markOf]
  cases role <;> cases first : serves .cacheRegistry data <;>
    cases second : serves .customRegistry data <;> simp_all

theorem single_of_purpose (role : Role) (data : RegistryObject)
    (purpose : ∀ other, serves other data = true ↔ other = role) : Single data := by
  intro first second one two
  exact ((purpose first).mp one).trans ((purpose second).mp two).symm

theorem markOf_applied (role : Role) (data : RegistryObject)
    (purpose : ∀ other, serves other data = true ↔ other = role) : markOf data = some role := by
  have single := single_of_purpose role data purpose
  exact (markOf_iff data single role).mpr ((purpose role).mpr rfl)

def abs (state : State) : MarkedStore.State Role String where
  mark name := (lookup name state.registries).map markOf
  claim role := (state.records role).map Resource.id

theorem abs_claim (state : State) (role : Role) (name : String) :
    (abs state).claim role = some name ↔
      ∃ resource, state.records role = some resource ∧ resource.id = name := by
  rw [abs, Option.map_eq_some_iff]

theorem apart_iff (state : State) (sound : Sound state) :
    Apart state ↔ MarkedStore.Apart (abs state) := by
  have marks : ∀ name data role, lookup name state.registries = some data →
      (markOf data = some role ↔ serves role data = true) := fun name data role found =>
    markOf_iff data (sound.single data (lookup_some name _ data found).1) role
  constructor
  · intro apart
    constructor
    · intro role name claimed mark there
      obtain ⟨resource, recorded, rfl⟩ := (abs_claim state role name).mp claimed
      obtain ⟨data, found, rfl⟩ := Option.map_eq_some_iff.mp there
      exact (marks _ data role found).mpr (apart.serves role resource recorded data found)
    · intro first second name left right
      obtain ⟨one, recorded, same⟩ := (abs_claim state first name).mp left
      obtain ⟨two, kept, equal⟩ := (abs_claim state second name).mp right
      exact apart.differ first second one two recorded kept (same.trans equal.symm)
  · intro apart
    constructor
    · intro role resource recorded data found
      have claimed := (abs_claim state role resource.id).mpr ⟨resource, recorded, rfl⟩
      have there : (abs state).mark resource.id = some (markOf data) := by
        show (lookup resource.id state.registries).map markOf = _
        rw [found, Option.map_some]
      exact (marks _ data role found).mp (apart.marked role resource.id claimed _ there)
    · intro first second one two left right same
      exact apart.differ first second one.id ((abs_claim state first _).mpr ⟨one, left, rfl⟩)
        ((abs_claim state second _).mpr ⟨two, right, same.symm⟩)

/-- The registries after a change to the one of a name. -/
theorem abs_marking (state : State) (name : String) (made : Option RegistryObject)
    (named : ∀ data, made = some data → registryName data = some name) :
    (fun other => (lookup other (made.toList ++ others name state.registries)).map markOf) =
      Function.update (abs state).mark name (made.map markOf) := by
  funext other
  rw [lookup_replaced name other made _ named, Function.update_apply]
  split <;> rfl

def recorded (state : State) (role : Role) (after : RegistryRuns.State) : State :=
  ⟨Function.update state.records role after.resource, after.registries⟩

theorem abs_recorded (state : State) (role : Role) (after : RegistryRuns.State) :
    abs (recorded state role after) =
      { mark := fun name => (lookup name after.registries).map markOf
        claim := Function.update (abs state).claim role (after.resource.map Resource.id) } := by
  rw [abs, MarkedStore.State.mk.injEq]
  refine ⟨rfl, ?_⟩
  funext other
  show (Function.update state.records role after.resource other).map Resource.id = _
  rw [Function.update_apply, Function.update_apply]
  split <;> rfl

/-- Whoever else recorded what is made loses it. -/
def Undisturbed (state : State) (role : Role) (made : Option String) : Prop :=
  ∀ name, made = some name → ∀ other resource, state.records other = some resource →
    resource.id = name → other = role

structure Simulated (state next : State) (allowed : Prop)
    (move : MarkedStore.Move Role String) : Prop where
  legal : MarkedStore.Legal (abs state) move
  same : abs next = MarkedStore.step (abs state) move
  clean : MarkedStore.Clean (abs state) move ↔ allowed

theorem effect_simulated (state : State) (sound : Sound state) (role : Role)
    (after : RegistryRuns.State) (made : Option String)
    (effect : Effect role (view state role) after made) :
    ∃ move, Simulated state (recorded state role after) (Undisturbed state role made) move := by
  have nothing : Undisturbed state role none := fun name none => by cases none
  have held := abs_recorded state role after
  cases effect with
  | kept same id =>
      refine ⟨.idle, trivial, ?_, iff_of_true trivial nothing⟩
      have unchanged : Function.update (abs state).claim role
          ((state.records role).map Resource.id) = (abs state).claim :=
        Function.update_eq_self role (abs state).claim
      rw [held, same, id]
      exact congrArg (MarkedStore.State.mk (abs state).mark) unchanged
  | released same gone =>
      refine ⟨.release role, trivial, ?_, iff_of_true trivial nothing⟩
      rw [held, same, gone]
      rfl
  | adopted same resource taken item member named suits =>
      refine ⟨.adopt role resource.id, ?_, ?_, iff_of_true trivial nothing⟩
      · have found := lookup_of_mem resource.id state.registries item sound.named member named
        show (lookup resource.id state.registries).map markOf = _
        rw [found, Option.map_some, (markOf_iff item (sound.single item member) role).mpr suits]
      · rw [held, same, taken]
        rfl
  | made name data own purpose registries id =>
      have marked := abs_marking state name (some data) (fun _ same => by cases same; exact own)
      rw [Option.map_some, markOf_applied role data purpose] at marked
      -- A port that cannot be observed fails the create, but the registry is there.
      have claims : after.resource.map Resource.id =
          if after.resource.isSome then some name else none := by
        cases taken : after.resource with
        | none => rfl
        | some resource => simp [id resource taken]
      refine ⟨.make role name after.resource.isSome, trivial, ?_, ?_⟩
      · rw [held, registries, claims]
        exact congrArg (fun mark => MarkedStore.State.mk mark _) marked
      · show (∀ other, (abs state).claim other = some name → other = role) ↔ _
        constructor
        · intro clean taken made other resource recorded same
          cases made
          exact clean other ((abs_claim state other name).mpr ⟨resource, recorded, same⟩)
        · intro free other claimed
          obtain ⟨resource, recorded, same⟩ := (abs_claim state other name).mp claimed
          exact free name rfl other resource recorded same

/-! Soundness. -/

theorem named_replaced (name : String) (made : Option RegistryObject)
    (registries : List RegistryObject)
    (named : ∀ data, made = some data → registryName data = some name)
    (unique : (registries.filterMap registryName).Nodup) :
    ((made.toList ++ others name registries).filterMap registryName).Nodup := by
  have rest : ((others name registries).filterMap registryName).Nodup :=
    unique.sublist (List.filter_sublist.filterMap _)
  cases made with
  | none => exact rest
  | some data =>
      show ((data :: others name registries).filterMap registryName).Nodup
      rw [List.filterMap_cons_some (named data rfl), List.nodup_cons]
      refine ⟨?_, rest⟩
      intro member
      obtain ⟨other, kept, same⟩ := List.mem_filterMap.mp member
      simp [others, same] at kept

theorem single_replaced (name : String) (made : Option RegistryObject)
    (registries : List RegistryObject) (new : ∀ data, made = some data → Single data)
    (single : ∀ data ∈ registries, Single data) :
    ∀ data ∈ made.toList ++ others name registries, Single data := by
  intro data member
  rcases List.mem_append.mp member with here | kept
  · exact new data (Option.mem_toList.mp here)
  · exact single data (List.mem_filter.mp kept).1

theorem performCreate_retained (host : Host) (props : Props) (registries : List RegistryObject)
    (inputs : deleteOnDestroyProp props = false) (resource : Resource)
    (recorded : (performCreate host props registries).1.resource = some resource) :
    deleteOnDestroyProp resource.outs = false := by
  obtain ⟨made, ok, _, outs⟩ := performCreate_resource host props registries resource recorded
  obtain ⟨port, created⟩ := create_created host props _ made ok
  obtain ⟨adopted, same⟩ := created.recorded
  rw [outs, same]
  exact inputs

/-- Nothing that is recorded is ever marked for deletion. -/
theorem step_retained (role : Role) (before : RegistryRuns.State) (op : RegistryRuns.Op)
    (asked : ∀ props, given op = some props → Asked role props)
    (retained : ∀ resource, before.resource = some resource →
      deleteOnDestroyProp resource.outs = false) :
    ∀ resource, (RegistryRuns.step before op).resource = some resource →
      deleteOnDestroyProp resource.outs = false := by
  rw [RegistryRuns.step]
  cases present : before.resource with
  | none =>
      cases op with
      | create host props =>
          simpa [RegistryRuns.perform, present] using
            performCreate_retained host props _ (asked props rfl).inputs.retaining
      | _ => simp [RegistryRuns.perform, present]
  | some resource =>
      have own := retained resource present
      cases op with
      | check news => simpa [RegistryRuns.perform, present] using own
      | diff news => simpa [RegistryRuns.perform, present] using own
      | create host props => simpa [RegistryRuns.perform, present] using own
      | update host news =>
          intro kept after
          simp only [RegistryRuns.perform, present, update, Option.some.injEq] at after
          subst after
          exact (asked news rfl).inputs.retaining
      | read host =>
          intro kept after
          simp only [RegistryRuns.perform, present] at after
          split at after
          · next outs _ call =>
              cases after
              rw [read_ok host resource.id resource.outs outs _ (congrArg Prod.fst call)]
              exact own
          · cases after
          · cases after
            exact own
      | delete host =>
          intro kept after
          simp only [RegistryRuns.perform, present] at after
          rw [performDelete_retained host resource _ own] at after
          split at after
          · cases after
          · cases after
            exact own
      | replace deleting creating props =>
          intro kept after
          have deleted := performDelete_retained deleting resource before.registries own
          simp only [RegistryRuns.perform, present] at after
          cases installed : deleting.installed with
          | true =>
              simp only [deleted, installed, if_true] at after
              exact performCreate_retained creating props _ (asked props rfl).inputs.retaining
                kept after
          | false =>
              simp [deleted, installed] at after
              exact after ▸ own

theorem own_sound (state : State) (role : Role) (op : RegistryRuns.Op) (sound : Sound state)
    (asked : ∀ props, given op = some props → Asked role props) :
    Sound (step state (.own role op)) := by
  have retained := step_retained role (view state role) op asked (sound.retained role)
  have effect := step_effect role (view state role) op asked (sound.retained role)
  have records : ∀ other resource, (step state (.own role op)).records other = some resource →
      deleteOnDestroyProp resource.outs = false := by
    intro other resource held
    by_cases same : other = role
    · subst same
      apply retained resource
      simpa [step] using held
    · apply sound.retained other resource
      simpa [step, Function.update_of_ne same] using held
  have same : (RegistryRuns.step (view state role) op).registries = state.registries →
      Sound (step state (.own role op)) := by
    intro same
    refine ⟨?_, ?_, records⟩
    · show ((RegistryRuns.step (view state role) op).registries.filterMap registryName).Nodup
      rw [same]
      exact sound.named
    · show ∀ data ∈ (RegistryRuns.step (view state role) op).registries, Single data
      rw [same]
      exact sound.single
  generalize madeBy (view state role) op = made at effect
  cases effect with
  | kept registries _ => exact same registries
  | released registries _ => exact same registries
  | adopted registries _ _ _ _ _ _ => exact same registries
  | made name data own purpose registries _ =>
      have named : ∀ given, some data = some given → registryName given = some name :=
        fun _ same => by cases same; exact own
      have single : ∀ given, some data = some given → Single given := by
        intro given same
        cases same
        exact single_of_purpose role data purpose
      refine ⟨?_, ?_, records⟩
      · show ((RegistryRuns.step (view state role) op).registries.filterMap registryName).Nodup
        rw [registries]
        exact named_replaced name (some data) _ named sound.named
      · show ∀ data ∈ (RegistryRuns.step (view state role) op).registries, Single data
        rw [registries]
        exact single_replaced name (some data) _ single sound.single

theorem step_sound (state : State) (op : Op) (sound : Sound state) (asked : FromStack op) :
    Sound (step state op) := by
  cases op with
  | own role op => exact own_sound state role op sound asked
  | outside name made =>
      exact ⟨named_replaced name made _ (fun data same => (asked data same).1) sound.named,
        single_replaced name made _ (fun data same => (asked data same).2) sound.single,
        sound.retained⟩

theorem outside_simulated (state : State) (name : String) (made : Option RegistryObject)
    (asked : FromStack (.outside name made)) :
    Simulated state (step state (.outside name made)) (Allowed state (.outside name made))
      (.outside name (made.map markOf)) where
  legal := trivial
  same := by
    have marked := abs_marking state name made (fun data same => (asked data same).1)
    exact congrArg (fun mark => MarkedStore.State.mk mark (abs state).claim) marked
  clean := by
    constructor
    · intro clean role resource recorded same data given
      have claimed := (abs_claim state role name).mpr ⟨resource, recorded, same⟩
      have mark := clean role claimed (markOf data) (by rw [given, Option.map_some])
      exact (markOf_iff data (asked data given).2 role).mp mark
    · intro allowed role claimed mark given
      obtain ⟨resource, recorded, same⟩ := (abs_claim state role name).mp claimed
      obtain ⟨data, there, rfl⟩ := Option.map_eq_some_iff.mp given
      exact (markOf_iff data (asked data there).2 role).mpr
        (allowed role resource recorded same data there)

theorem step_simulated (state : State) (op : Op) (sound : Sound state) (asked : FromStack op) :
    ∃ move, Simulated state (step state op) (Allowed state op) move := by
  cases op with
  | own role op =>
      exact effect_simulated state sound role _ _
        (step_effect role (view state role) op asked (sound.retained role))
  | outside name made => exact ⟨_, outside_simulated state name made asked⟩

theorem step_apart_iff (state : State) (op : Op) (sound : Sound state) (asked : FromStack op)
    (apart : Apart state) : Apart (step state op) ↔ Allowed state op := by
  obtain ⟨move, simulated⟩ := step_simulated state op sound asked
  have before := (apart_iff state sound).mp apart
  rw [apart_iff _ (step_sound state op sound asked), simulated.same, ← simulated.clean]
  exact MarkedStore.step_apart_iff (abs state) move before simulated.legal

/-- In every run of the two resources of the stack on a machine that others use too,
with any of their operations in any order, they record two different registries,
each of its own kind, as long as and only as long as nothing is made over the one that
the other has recorded. -/
theorem registries_apart_iff (registries : List RegistryObject)
    (unique : (registries.filterMap registryName).Nodup)
    (single : ∀ data ∈ registries, Single data) (ops : List Op)
    (asked : ∀ op ∈ ops, FromStack op) :
    (∀ count, Apart (Execution.run step (initial registries) (ops.take count))) ↔
      Execution.Guarded step Allowed (initial registries) ops := by
  have sound : Sound (initial registries) :=
    ⟨unique, single, fun _ _ recorded => by cases recorded⟩
  have apart : Apart (initial registries) :=
    ⟨fun _ _ recorded => (by cases recorded), fun _ _ _ _ recorded => (by cases recorded)⟩
  exact Execution.prefixes_iff_guarded step Allowed FromStack Sound Apart step_sound
    step_apart_iff (initial registries) ops asked sound apart

/-- The first `up` on a machine that has a cache already, for a configured name. -/
def firstUp (config : CustomRegistryConfig) : List Op :=
  [.own .cacheRegistry (.create RegistryRuns.quietHost (Role.cacheRegistry.props config)),
    .own .customRegistry (.create RegistryRuns.quietHost (Role.customRegistry.props config))]

def namedAsCache : CustomRegistryConfig := { name := ⟨"ctlptl-registry", by decide⟩ }

theorem firstUp_fromStack (config : CustomRegistryConfig) (op : Op) (member : op ∈ firstUp config) :
    FromStack op := by
  simp only [firstUp, List.mem_cons, List.not_mem_nil, or_false] at member
  rcases member with rfl | rfl
  · intro props same
    cases same
    exact ⟨config, none, rfl⟩
  · intro props same
    cases same
    exact ⟨config, (Role.customRegistry.props config).port, rfl⟩

def afterCache (config : CustomRegistryConfig) : State :=
  step (initial [RegistryRuns.cacheRegistry])
    (.own .cacheRegistry (.create RegistryRuns.quietHost (Role.cacheRegistry.props config)))

theorem afterCache_recorded (config : CustomRegistryConfig) :
    ((afterCache config).records .cacheRegistry).map Resource.id = some "ctlptl-registry" := rfl

theorem registries_apart_first_up :
    (∀ count, Apart (Execution.run step (initial [RegistryRuns.cacheRegistry])
      ((firstUp {}).take count))) ∧
      ¬∀ count, Apart (Execution.run step (initial [RegistryRuns.cacheRegistry])
        ((firstUp namedAsCache).take count)) := by
  have single : ∀ data ∈ [RegistryRuns.cacheRegistry], Single data := by
    intro data member
    rw [List.mem_singleton.mp member]
    intro first second
    cases first <;> cases second <;> decide
  constructor
  · apply (registries_apart_iff _ (by decide) single (firstUp {}) (firstUp_fromStack {})).mpr
    refine ⟨?_, ?_, trivial⟩
    · intro name made
      have adopted : madeBy (view (initial [RegistryRuns.cacheRegistry]) .cacheRegistry)
        (.create RegistryRuns.quietHost (Role.cacheRegistry.props {})) = none := by decide
      rw [adopted] at made
      cases made
    · intro name made other resource recorded same
      have newly : madeBy (view (afterCache {}) .customRegistry)
        (.create RegistryRuns.quietHost (Role.customRegistry.props {})) =
          some "custom-registry" := by decide
      have taken : some name = some "custom-registry" := made.symm.trans newly
      cases other with
      | customRegistry => rfl
      | cacheRegistry =>
          have held := afterCache_recorded {}
          rw [show (afterCache {}).records .cacheRegistry = some resource from recorded,
            Option.map_some, same, taken] at held
          exact absurd held (by decide)
  · rw [registries_apart_iff _ (by decide) single _ (firstUp_fromStack namedAsCache)]
    rintro ⟨_, allowed, _⟩
    have newly : madeBy (view (afterCache namedAsCache) .customRegistry)
      (.create RegistryRuns.quietHost (Role.customRegistry.props namedAsCache)) =
        some "ctlptl-registry" := by decide
    obtain ⟨resource, recorded, same⟩ :=
      Option.map_eq_some_iff.mp (afterCache_recorded namedAsCache)
    exact absurd (allowed _ newly .cacheRegistry resource recorded same) (by decide)

end ClusterApiForSlinky.RegistryPair

