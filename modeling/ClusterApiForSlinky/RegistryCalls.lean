import ClusterApiForSlinky.CtlptlRegistry

/-!
What each call of the `CtlptlRegistry` provider returns when it succeeds. The
proofs about re-applying a registry and about runs take the provider apart
through these lemmas only.
-/

namespace ClusterApiForSlinky.RegistryCalls
open CtlptlRegistry

theorem nonzero_eq_some (port : Option Int) (value : Int) :
    nonzero port = some value ↔ port = some value ∧ value ≠ 0 := by
  simp [nonzero, Option.filter_eq_some_iff]

theorem registryPort_nonzero (data : RegistryObject) (port : Int)
    (seen : registryPort data = some port) : port ≠ 0 := by
  rw [registryPort, Option.or_eq_some_iff] at seen
  rcases seen with own | ⟨_, status⟩
  · exact ((nonzero_eq_some _ _).mp own).2
  · exact ((nonzero_eq_some _ _).mp status).2

theorem check_registryName (olds news : Props) :
    (check olds news).registryName = news.registryName := by
  unfold check
  split <;> rfl

theorem check_env (olds news : Props) : (check olds news).env = news.env := by
  unfold check
  split <;> rfl

theorem check_adoptExisting (olds news : Props) :
    (check olds news).adoptExisting = news.adoptExisting := by
  unfold check
  split <;> rfl

theorem check_deleteOnDestroy (olds news : Props) :
    (check olds news).deleteOnDestroy = news.deleteOnDestroy := by
  unfold check
  split <;> rfl

/-- A pinned port survives `check`; an unpinned one becomes the recorded port. -/
theorem check_port (olds news : Props) (bound : Int) (recorded : olds.port = some bound)
    (real : bound ≠ 0) (pinned : ∀ port, nonzero news.port = some port → port = bound) :
    nonzero (check olds news).port = some bound := by
  have carried : nonzero olds.port = some bound := (nonzero_eq_some _ _).mpr ⟨recorded, real⟩
  unfold check
  cases asked : nonzero news.port with
  | none => simp [carried, (nonzero_eq_some (some bound) bound).mpr ⟨rfl, real⟩]
  | some port =>
      have same := pinned port asked
      simpa [carried, same] using asked

theorem check_pins (olds news : Props) (port : Int)
    (asked : nonzero news.port = some port) :
    nonzero (check olds news).port = some port := by
  unfold check
  simp [asked]

/-! The registry a successful `create` leaves behind. -/

/-- What the loop of `_first_registry_with_prefix` looks for. -/
def suits (start : String) (env : Option (List String)) (port : Option Int)
    (item : RegistryObject) : Bool :=
  (registryName item).any (fun name => Text.startsWith name start) &&
    envIsCompatible item env && port.all (fun wanted => registryPort item = some wanted)

theorem suits_named (start : String) (env : Option (List String)) (port : Option Int)
    (item : RegistryObject) (name : String) (named : registryName item = some name) :
    suits start env port item = (Text.startsWith name start && envIsCompatible item env &&
      port.all (fun wanted => registryPort item = some wanted)) := by
  rw [suits, named, Option.any_some]

/-- One turn of the loop that does not raise: it ends here or goes on. -/
theorem firstMatch_cons (start : String) (env : Option (List String)) (port : Option Int)
    (item : RegistryObject) (rest : List RegistryObject) (found : Option (String × Int))
    (done : firstMatch start env port (item :: rest) = .ok found) :
    (suits start env port item = false ∧ firstMatch start env port rest = .ok found) ∨
      (suits start env port item = true ∧ ∃ name observed, registryName item = some name ∧
        registryPort item = some observed ∧ found = some (name, observed)) := by
  unfold firstMatch at done
  split at done
  case h_1 unnamed =>
    left
    constructor
    · rw [suits, unnamed]
      rfl
    · exact done
  case h_2 name named =>
    rw [suits_named start env port item name named]
    by_cases starts : Text.startsWith name start = true
    case neg => simp_all
    by_cases like : envIsCompatible item env = true
    case neg => simp_all
    simp only [starts, like, Bool.not_true, Bool.false_eq_true, if_false] at done
    -- Only here does a missing port raise; a port that differs is passed over.
    split at done
    case h_1 => cases done
    case h_2 observed seen =>
      rw [starts, like, seen, Bool.true_and, Bool.true_and]
      split at done
      case isTrue apart =>
        left
        constructor
        · cases port with
          | none => simp at apart
          | some wanted =>
              have differs : wanted ≠ observed := by simpa using apart
              simp [differs.symm]
        · exact done
      case isFalse together =>
        right
        cases done
        constructor
        · cases port with
          | none => rfl
          | some wanted =>
              have same : wanted = observed := by simpa using together
              simp [same]
        · exact ⟨name, observed, named, rfl, rfl⟩

/-- The loop returns the first registry that suits. -/
theorem firstMatch_find (start : String) (env : Option (List String)) (port : Option Int)
    (items : List RegistryObject) (found : Option (String × Int))
    (done : firstMatch start env port items = .ok found) :
    (items.find? (suits start env port) = none ∧ found = none) ∨
      ∃ item name observed, items.find? (suits start env port) = some item ∧
        registryName item = some name ∧ registryPort item = some observed ∧
        found = some (name, observed) := by
  induction items with
  | nil =>
      cases done
      exact Or.inl ⟨rfl, rfl⟩
  | cons item rest ih =>
      rw [List.find?_cons]
      rcases firstMatch_cons start env port item rest found done with ⟨unfit, later⟩ | ⟨fit, chosen⟩
      · rw [unfit]
        exact ih later
      · rw [fit]
        obtain ⟨name, observed, named, seen, same⟩ := chosen
        exact Or.inr ⟨item, name, observed, rfl, named, seen, same⟩

theorem firstMatch_names (start : String) (env : Option (List String)) (port : Option Int)
    (items : List RegistryObject) (found : Option (String × Int))
    (done : firstMatch start env port items = .ok found) :
    found.map Prod.fst = (items.find? (suits start env port)).bind registryName := by
  rcases firstMatch_find start env port items found done with
    ⟨nowhere, rfl⟩ | ⟨item, name, observed, first, named, -, rfl⟩
  · rw [nowhere]
    rfl
  · rw [first]
    exact named.symm

theorem firstMatch_some (start : String) (env : Option (List String)) (port : Option Int)
    (items : List RegistryObject) (name : String) (observed : Int)
    (found : firstMatch start env port items = .ok (some (name, observed))) :
    Text.startsWith name start = true ∧ observed ≠ 0 ∧
      ∀ wanted, port = some wanted → observed = wanted := by
  rcases firstMatch_find start env port items _ found with
    ⟨-, absent⟩ | ⟨item, _, _, first, named, seen, same⟩
  · cases absent
  · cases same
    have fit := List.find?_some first
    rw [suits_named start env port item name named, Bool.and_eq_true, Bool.and_eq_true] at fit
    obtain ⟨⟨starts, -⟩, agrees⟩ := fit
    refine ⟨starts, registryPort_nonzero item _ seen, ?_⟩
    rintro wanted rfl
    simpa [seen] using agrees

theorem firstRegistry_some (host : Host) (start : String) (env : Option (List String))
    (port : Option Int) (world : World) (name : String) (observed : Int)
    (found : (firstRegistryWithPrefix host start env port world).1 =
      .ok (some (name, observed))) :
    Text.startsWith name start = true ∧ observed ≠ 0 ∧
      ∀ wanted, port = some wanted → observed = wanted := by
  simp only [firstRegistryWithPrefix] at found
  split at found
  · cases found
  · exact firstMatch_some start env port _ name observed found

theorem observePort_ok (host : Host) (name : String) (world : World) (port : Int)
    (seen : (observePort host name world).1 = .ok port) :
    ∃ data, lookup name (runCommand host (.getRegistry name) world).2.registries = some data ∧
      registryPort data = some port := by
  simp only [observePort] at seen
  split at seen
  · cases seen
  · split at seen
    · cases seen
    · split at seen
      · next observed => exact Option.bind_eq_some_iff.mp (by cases seen; exact observed)
      · cases seen

theorem runCommand_get (host : Host) (name : String) (world : World) :
    (runCommand host (.getRegistry name) world).2.registries = world.registries := by
  simp only [runCommand, serve]
  split
  · rfl
  · cases (lookup name world.registries).isSome <;> rfl

theorem applied_named (host : Host) (manifest : Manifest) (registries : List RegistryObject)
    (named : manifest.name ≠ "") :
    registryName (applied host manifest registries) = some manifest.name := by
  have kept : Text.nonempty (some manifest.name) = some manifest.name :=
    (Text.nonempty_eq_some _ _).mpr ⟨rfl, named⟩
  simp [registryName, applied, kept]

theorem newName_nonempty (host : Host) (props : Props) : newName host props ≠ "" := by
  unfold newName
  cases pinned : Text.nonempty props.registryName with
  | some name => exact ((Text.nonempty_eq_some _ _).mp pinned).2
  | none =>
      intro empty
      have lists := congrArg String.toList empty
      simp at lists

theorem runCommand_apply (host : Host) (manifest : Manifest) (world : World)
    (ran : (runCommand host (.apply manifest) world).1 = true) :
    (runCommand host (.apply manifest) world).2.registries =
      applied host manifest world.registries ::
        world.registries.filter (fun data => registryName data ≠ some manifest.name) := by
  simp only [runCommand, serve] at ran ⊢
  split at ran
  · cases ran
  · next reached => simp [reached]

theorem lookup_applied (host : Host) (manifest : Manifest) (registries rest : List RegistryObject)
    (named : manifest.name ≠ "") :
    lookup manifest.name (applied host manifest registries :: rest) =
      some (applied host manifest registries) := by
  simp [lookup, applied_named host manifest registries named]

theorem registryPort_applied (host : Host) (manifest : Manifest)
    (registries : List RegistryObject) (port : Int) (asked : manifest.port = some port)
    (real : port ≠ 0) : registryPort (applied host manifest registries) = some port := by
  have kept : nonzero (some port) = some port := (nonzero_eq_some _ _).mpr ⟨rfl, real⟩
  simp [registryPort, applied, boundPort, asked, kept]

/-- ctlptl has honoured the pinned port by the time `create` observes it. -/
theorem createNew_port (host : Host) (props : Props) (world : World) (made : CreateResult)
    (success : (createNew host props world).1 = .ok made) :
    ∃ port, made = ⟨newName host props, outputs props (newName host props) port false⟩ ∧
      port ≠ 0 ∧ ∀ wanted, nonzero props.port = some wanted → port = wanted := by
  simp only [createNew] at success
  split at success
  · cases success
  · next ran =>
      split at success
      · next port after call =>
          cases success
          obtain ⟨data, present, seen⟩ := observePort_ok host _ _ port (by rw [call])
          refine ⟨port, rfl, registryPort_nonzero data port seen, ?_⟩
          intro wanted asked
          let manifest := registryManifest (newName host props) props.port (envProp props)
          have served := runCommand_apply host manifest world (by simpa using ran)
          have applies := lookup_applied host manifest world.registries
            (world.registries.filter (fun data => registryName data ≠ some manifest.name))
            (newName_nonempty host props)
          rw [← served] at applies
          rw [runCommand_get] at present
          have same : some (applied host manifest world.registries) = some data :=
            applies.symm.trans present
          cases same
          have honoured := registryPort_applied host manifest world.registries wanted asked
            ((nonzero_eq_some _ _).mp asked).2
          exact Option.some.inj (seen.symm.trans honoured)
      · cases success

/-- What a successful `create` records about the registry it made or adopted. -/
structure Created (props : Props) (made : CreateResult) (port : Int) : Prop where
  recorded : ∃ adopted, made.outs = outputs props made.id port adopted
  real : port ≠ 0
  honoured : ∀ wanted, nonzero props.port = some wanted → port = wanted
  adopting : adoptExistingProp props = true →
    Text.startsWith made.id (props.registryName.getD "") = true
  pinned : adoptExistingProp props = false →
    ∀ name, Text.nonempty props.registryName = some name → made.id = name

theorem newName_pinned (host : Host) (props : Props) (name : String)
    (asked : Text.nonempty props.registryName = some name) : newName host props = name := by
  simp [newName, asked]

theorem newName_startsWith (host : Host) (props : Props) :
    Text.startsWith (newName host props) (props.registryName.getD "") = true := by
  cases asked : props.registryName with
  | none => simp
  | some name =>
      by_cases empty : name = ""
      · simp [empty]
      · have kept : Text.nonempty props.registryName = some name :=
          (Text.nonempty_eq_some _ _).mpr ⟨asked, empty⟩
        simp [newName_pinned host props name kept]

theorem createNew_created (host : Host) (props : Props) (world : World) (made : CreateResult)
    (success : (createNew host props world).1 = .ok made) :
    ∃ port, Created props made port := by
  obtain ⟨port, rfl, real, honoured⟩ := createNew_port host props world made success
  refine ⟨port, ⟨false, rfl⟩, real, honoured, ?_, ?_⟩
  · intro _
    exact newName_startsWith host props
  · intro _ name asked
    exact newName_pinned host props name asked

theorem create_created (host : Host) (props : Props) (world : World) (made : CreateResult)
    (success : (create host props world).1 = .ok made) : ∃ port, Created props made port := by
  unfold create at success
  split at success
  · cases success
  · split at success
    · next adopting =>
        split at success
        · cases success
        · next name port after found =>
            cases success
            obtain ⟨starts, real, honoured⟩ := firstRegistry_some host _ _ _ world name port
              (by rw [found])
            refine ⟨port, ⟨true, rfl⟩, real, honoured, fun _ => starts, ?_⟩
            intro exactly
            simp [adopting] at exactly
        · exact createNew_created host props _ made success
    · exact createNew_created host props world made success

/-! What a `read` that finds the registry records. -/

theorem read_ok (host : Host) (id : String) (props next : Props) (world : World)
    (seen : (CtlptlRegistry.read host id props world).1 = .ok (some next)) :
    next = refreshed id props props ((lookup id world.registries).bind registryPort) := by
  simp only [CtlptlRegistry.read] at seen
  split at seen
  · cases seen
  · split at seen
    · cases seen
    · cases seen
      rw [runCommand_get]

end ClusterApiForSlinky.RegistryCalls
