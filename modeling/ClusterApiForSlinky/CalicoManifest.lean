import ClusterApiForSlinky.Documents
import ClusterApiForSlinky.NodePools

/-!
The edit of the Calico manifest (`_calico_manifest_objects` of
stacks/workload_cluster/workload_cluster_addons.py). `safeLoadAll` is the YAML
parser; without anchors no two places of what it returns are one object. The
calico-node container is the first of that name, as `next` takes it.
-/

namespace ClusterApiForSlinky.CalicoManifest
open Documents Documents.Value NodePools

variable {Scalar : Type}

def criticalAddonsOnlyTaintKey : String := "CriticalAddonsOnly"

def controllerNodeSelector : List (String × Value Scalar) :=
  [(nodeTypeLabel, .str controllerNodeType.text)]

def controllerTolerations : Value Scalar :=
  .list [.dict [(.text "key", .str criticalAddonsOnlyTaintKey),
    (.text "operator", .str "Exists"), (.text "effect", .str "NoSchedule")]]

def overrides (podCidr vxlanMode : String) : List (String × String) :=
  [("CLUSTER_TYPE", "k8s"), ("CALICO_IPV4POOL_CIDR", podCidr), ("CALICO_IPV4POOL_IPIP", "Never"),
    ("CALICO_IPV4POOL_VXLAN", vxlanMode), ("IP_AUTODETECTION_METHOD", "kubernetes-internal-ip")]

def envEntry (setting : String × String) : Value Scalar :=
  .dict [(.text "name", .str setting.1), (.text "value", .str setting.2)]

variable [DecidableEq Scalar]

/-- `item["name"] in overrides`; a name that is a list or a mapping has no hash. -/
def isOverridden (settings : List (String × String)) (item : Value Scalar) : Except Fault Bool := do
  match ← item.getItem "name" with
  | .str name => .ok ((settings.map Prod.fst).contains name)
  | .list _ | .dict _ => .error .typeError
  | .null | .int _ | .scalar _ => .ok false

def keptEnv (settings : List (String × String)) :
    List (Value Scalar) → Except Fault (List (Value Scalar))
  | [] => .ok []
  | item :: rest => do
      let dropped ← isOverridden settings item
      let later ← keptEnv settings rest
      .ok (if dropped then later else item :: later)

def setEnv (settings : List (String × String)) (container : Value Scalar) :
    Except Fault (Value Scalar) := do
  let env ← container.getItem "env"
  let kept ← keptEnv settings (← env.iterate)
  setItem "env" (.list (kept ++ settings.map envEntry)) container

def livenessCommand : List String := ["/bin/calico-node", "-felix-live"]
def readinessCommand : List String := ["/bin/calico-node", "-felix-ready"]

def setProbe (probe : String) (command : List String) (container : Value Scalar) :
    Except Fault (Value Scalar) :=
  updateIn [probe, "exec"] (setItem "command" (.list (command.map .str))) container

def calicoNode (settings : List (String × String)) (container : Value Scalar) :
    Except Fault (Value Scalar) := do
  let withEnv ← setEnv settings container
  let alive ← setProbe "livenessProbe" livenessCommand withEnv
  setProbe "readinessProbe" readinessCommand alive

def calicoConfig (obj : Value Scalar) : Except Fault (Value Scalar) := do
  let withBackend ← updateIn ["data"] (setItem "calico_backend" (.str "vxlan")) obj
  updateIn ["data"] (setItem "typha_service_name" (.str "none")) withBackend

def calicoNodes (settings : List (String × String)) (obj : Value Scalar) :
    Except Fault (Value Scalar) :=
  updateIn ["spec", "template", "spec", "containers"]
    (updateNext "calico-node" (calicoNode settings)) obj

def controllerPod (pod : Value Scalar) : Except Fault (Value Scalar) := do
  let selecting ← updateIn ["nodeSelector"] (updateDict controllerNodeSelector) pod
  setItem "tolerations" controllerTolerations selecting

def calicoKubeControllers (obj : Value Scalar) : Except Fault (Value Scalar) := do
  let single ← updateIn ["spec"] (setItem "replicas" (.int 1)) obj
  updateIn ["spec", "template", "spec"] controllerPod single

/-- One turn of the loop over the objects. -/
def rewriteObject (podCidr vxlanMode : String) (obj : Value Scalar) :
    Except Fault (Value Scalar) := do
  let kind ← obj.getItem "kind"
  let metadata ← obj.getItem "metadata"
  let name ← metadata.getItem "name"
  if kind.isText "ConfigMap" && name.isText "calico-config" then calicoConfig obj
  else if kind.isText "DaemonSet" && name.isText "calico-node" then
    calicoNodes (overrides podCidr vxlanMode) obj
  else if kind.isText "Deployment" && name.isText "calico-kube-controllers" then
    calicoKubeControllers obj
  else .ok obj

def calicoManifestObjects (safeLoadAll : String → Except Fault (List (Value Scalar)))
    (manifest podCidr vxlanMode : String) : Except Fault (List (Value Scalar)) := do
  let documents ← safeLoadAll manifest
  (documents.filter (fun obj => !obj.isNull)).mapM (rewriteObject podCidr vxlanMode)

/-! The environment. -/

def hasName (item : Value Scalar) (name : String) : Bool :=
  match item.child (.key (.text "name")) with
  | some held => held.isText name
  | none => false

def overridden (settings : List (String × String)) (item : Value Scalar) : Bool :=
  (settings.map Prod.fst).any (hasName item)

theorem isOverridden_ok (settings : List (String × String)) (item : Value Scalar) (dropped : Bool)
    (checked : isOverridden settings item = .ok dropped) : dropped = overridden settings item := by
  rw [isOverridden] at checked
  obtain ⟨name, read, checked⟩ := (Effect.bind_eq_ok _ _ _).mp checked
  have here := (getItem_ok item name "name").mp read
  have same : hasName item = name.isText := by
    funext text
    simp only [hasName, here]
  rw [overridden, same]
  cases name with
  | str text =>
      cases checked
      exact List.contains_eq_any_beq
  | list values => cases checked
  | dict entries => cases checked
  | null => cases checked; simp [isText]
  | int value => cases checked; simp [isText]
  | scalar value => cases checked; simp [isText]

theorem keptEnv_ok (settings : List (String × String)) (before kept : List (Value Scalar))
    (done : keptEnv settings before = .ok kept) :
    kept = before.filter (fun item => !overridden settings item) := by
  induction before generalizing kept with
  | nil => cases done; rfl
  | cons item rest ih =>
      rw [keptEnv] at done
      obtain ⟨dropped, checked, done⟩ := (Effect.bind_eq_ok _ _ _).mp done
      obtain ⟨later, visited, done⟩ := (Effect.bind_eq_ok _ _ _).mp done
      cases done
      rw [isOverridden_ok settings item dropped checked, ih later visited, List.filter_cons]
      cases overridden settings item <;> rfl

theorem overridden_envEntry (settings : List (String × String)) (setting : String × String)
    (member : setting ∈ settings) :
    isOverridden settings (envEntry setting : Value Scalar) = .ok true := by
  have contained : (settings.map Prod.fst).contains setting.1 = true :=
    List.contains_iff_mem.mpr (List.mem_map_of_mem member)
  have read : (envEntry setting : Value Scalar).getItem "name" = .ok (.str setting.1) := by
    rw [getItem_ok]
    simp [envEntry, child]
  rw [isOverridden, read]
  exact congrArg Except.ok contained

/-- What is kept is kept again, and the overriding entries are dropped. -/
theorem keptEnv_again (settings : List (String × String)) (before kept : List (Value Scalar))
    (done : keptEnv settings before = .ok kept) :
    keptEnv settings (kept ++ settings.map envEntry) = .ok kept := by
  have entries : ∀ some_settings ⊆ settings,
      keptEnv settings (some_settings.map (envEntry : String × String → Value Scalar)) = .ok [] := by
    intro some_settings subset
    induction some_settings with
    | nil => rfl
    | cons setting rest ih =>
        obtain ⟨here, later⟩ := List.cons_subset.mp subset
        rw [List.map_cons, keptEnv, overridden_envEntry settings setting here, ih later]
        rfl
  induction before generalizing kept with
  | nil =>
      cases done
      exact entries settings (List.Subset.refl settings)
  | cons item rest ih =>
      rw [keptEnv] at done
      obtain ⟨dropped, checked, done⟩ := (Effect.bind_eq_ok _ _ _).mp done
      obtain ⟨later, visited, done⟩ := (Effect.bind_eq_ok _ _ _).mp done
      cases done
      cases dropped with
      | true => exact ih later visited
      | false =>
          rw [if_neg Bool.false_ne_true, List.cons_append, keptEnv, checked, ih later visited]
          rfl

theorem filter_key (settings : List (String × String)) (distinct : (settings.map Prod.fst).Nodup)
    (setting : String × String) (member : setting ∈ settings) :
    settings.filter (fun other => other.1 == setting.1) = [setting] := by
  induction settings with
  | nil => cases member
  | cons first rest ih =>
      obtain ⟨fresh, later⟩ := List.nodup_cons.mp distinct
      rw [List.filter_cons]
      rcases List.mem_cons.mp member with rfl | inside
      · rw [if_pos (beq_self_eq_true setting.1)]
        congr 1
        rw [List.filter_eq_nil_iff]
        intro other second same
        exact fresh (eq_of_beq same ▸ List.mem_map_of_mem second)
      · rw [if_neg, ih later inside]
        intro same
        exact fresh (eq_of_beq same ▸ List.mem_map_of_mem inside)

/-- Each variable that is set comes once. -/
theorem set_once (settings : List (String × String)) (distinct : (settings.map Prod.fst).Nodup)
    (before : List (Value Scalar)) (setting : String × String) (member : setting ∈ settings) :
    (before.filter (fun item => !overridden settings item) ++ settings.map envEntry).filter
      (fun item => hasName item setting.1) = [envEntry setting] := by
  have kept_none : (before.filter (fun item => !overridden settings item)).filter
      (fun item => hasName item setting.1) = [] := by
    rw [List.filter_filter, List.filter_eq_nil_iff]
    intro item _ both
    obtain ⟨here, free⟩ := Bool.and_eq_true_iff.mp both
    rw [overridden, Bool.not_eq_true', List.any_eq_false] at free
    exact free setting.1 (List.mem_map_of_mem member) here
  have named : ((fun item : Value Scalar => hasName item setting.1) ∘ envEntry) =
      fun other => other.1 == setting.1 := by
    funext other
    simp [hasName, envEntry, child, isText]
  rw [List.filter_append, kept_none, List.nil_append, List.filter_map, named,
    filter_key settings distinct setting member]
  rfl

theorem overrides_distinct (podCidr vxlanMode : String) :
    ((overrides podCidr vxlanMode).map Prod.fst).Nodup := by
  simp only [overrides, List.map_cons, List.map_nil]
  decide

/-! The container. -/

def envPath : Path Scalar := items ["env"]
def livenessPath : Path Scalar := items ["livenessProbe", "exec", "command"]
def readinessPath : Path Scalar := items ["readinessProbe", "exec", "command"]

/-- What the edit makes of the container. -/
structure ContainerRewritten (settings : List (String × String)) (old new : Value Scalar) : Prop where
  env : ∃ held before, old.find envPath = some held ∧ held.iterate = .ok before ∧
    new.find envPath = some (.list (before.filter (fun item => !overridden settings item) ++
      settings.map envEntry))
  once : ∀ after, new.find envPath = some (.list after) → ∀ setting ∈ settings,
    after.filter (fun item => hasName item setting.1) = [envEntry setting]
  liveness : new.find livenessPath = some (.list (livenessCommand.map .str))
  readiness : new.find readinessPath = some (.list (readinessCommand.map .str))
  keeps : Keeps [envPath, livenessPath, readinessPath] old new

theorem setEnv_ok (settings : List (String × String)) (container after : Value Scalar)
    (done : setEnv settings container = .ok after) :
    ∃ held before, container.find envPath = some held ∧ held.iterate = .ok before ∧
      keptEnv settings before = .ok (before.filter (fun item => !overridden settings item)) ∧
      after.find envPath = some (.list (before.filter (fun item => !overridden settings item) ++
        settings.map envEntry)) ∧
      Keeps [envPath] container after := by
  rw [setEnv] at done
  obtain ⟨held, read, done⟩ := (Effect.bind_eq_ok _ _ _).mp done
  obtain ⟨before, iterated, done⟩ := (Effect.bind_eq_ok _ _ _).mp done
  obtain ⟨kept, visited, done⟩ := (Effect.bind_eq_ok _ _ _).mp done
  have here := (getItem_ok container held "env").mp read
  obtain rfl := keptEnv_ok settings before kept visited
  refine ⟨held, before, ?_, iterated, visited, ?_, keeps_setItem _ _ _ _ done⟩
  · simp [envPath, items, find, here]
  · simp [envPath, items, find, setItem_child _ _ _ _ done]

theorem setEnv_fixed (settings : List (String × String)) (container : Value Scalar)
    (kept : List (Value Scalar))
    (held : container.find envPath = some (.list (kept ++ settings.map envEntry)))
    (again : keptEnv settings (kept ++ settings.map envEntry) = .ok kept) :
    setEnv settings container = .ok container := by
  have here : container.child (.key (.text "env")) =
      some (.list (kept ++ settings.map envEntry)) := by
    simpa [envPath, items, find] using held
  rw [setEnv, (getItem_ok container _ "env").mpr here]
  simp only [bind, Except.bind, iterate, again]
  exact setItem_same "env" _ container here

theorem calicoNode_ok (settings : List (String × String)) (distinct : (settings.map Prod.fst).Nodup)
    (container after : Value Scalar) (done : calicoNode settings container = .ok after) :
    ContainerRewritten settings container after ∧ calicoNode settings after = .ok after := by
  rw [calicoNode] at done
  obtain ⟨withEnv, first, done⟩ := (Effect.bind_eq_ok _ _ _).mp done
  obtain ⟨alive, second, third⟩ := (Effect.bind_eq_ok _ _ _).mp done
  obtain ⟨held, before, found, iterated, visited, set, keepsEnv⟩ :=
    setEnv_ok settings container withEnv first
  obtain ⟨aliveSet, keepsAlive⟩ := setBelow_ok _ _ _ withEnv alive second
  obtain ⟨readySet, keepsReady⟩ := setBelow_ok _ _ _ alive after third
  have apartAlive : Apart [(livenessPath : Path Scalar)] envPath := by
    simp [Apart, envPath, livenessPath, items]
  have apartReady : Apart [(readinessPath : Path Scalar)] envPath := by
    simp [Apart, envPath, readinessPath, items]
  have apartProbes : Apart [(readinessPath : Path Scalar)] livenessPath := by
    simp [Apart, livenessPath, readinessPath, items]
  have env : after.find envPath = some (.list (before.filter
      (fun item => !overridden settings item) ++ settings.map envEntry)) := by
    rw [← set, ← keepsAlive envPath apartAlive]
    exact keepsReady envPath apartReady
  have liveness : after.find livenessPath = some (.list (livenessCommand.map .str)) :=
    (keepsReady livenessPath apartProbes).trans aliveSet
  constructor
  · constructor
    · exact ⟨held, before, found, iterated, env⟩
    · intro listed same setting member
      obtain rfl := Value.list.inj (Option.some.inj (same.symm.trans env))
      exact set_once settings distinct before setting member
    · exact liveness
    · exact readySet
    · exact (keepsEnv.trans keepsAlive).trans keepsReady
  · have envFixed := setEnv_fixed settings after _ env (keptEnv_again settings before _ visited)
    have aliveFixed := setBelow_fixed ["livenessProbe", "exec"] "command" _ after liveness
    have readyFixed := setBelow_fixed ["readinessProbe", "exec"] "command" _ after readySet
    rw [calicoNode, envFixed]
    simp only [bind, Except.bind, setProbe, aliveFixed]
    exact readyFixed

theorem ContainerRewritten.name {settings : List (String × String)} {old new : Value Scalar}
    (rewritten : ContainerRewritten settings old new) :
    new.child (.key (.text "name")) = old.child (.key (.text "name")) := by
  have apart : Apart [(envPath : Path Scalar), livenessPath, readinessPath] (items ["name"]) := by
    simp [Apart, envPath, livenessPath, readinessPath, items]
  simpa [items, find] using rewritten.keeps (items ["name"]) apart

/-! The objects. -/

def containersPath : Path Scalar := items ["spec", "template", "spec", "containers"]

/-- The places the edit of the container at a position may touch. -/
def containerPlaces (position : Nat) : List (Path Scalar) :=
  [envPath, livenessPath, readinessPath].map (containersPath ++ .index position :: ·)

def backendPath : Path Scalar := items ["data", "calico_backend"]
def typhaPath : Path Scalar := items ["data", "typha_service_name"]
def replicasPath : Path Scalar := items ["spec", "replicas"]
def nodeTypePath : Path Scalar := items ["spec", "template", "spec", "nodeSelector", nodeTypeLabel]
def tolerationsPath : Path Scalar := items ["spec", "template", "spec", "tolerations"]

structure ConfigRewritten (old new : Value Scalar) : Prop where
  backend : new.find backendPath = some (.str "vxlan")
  typha : new.find typhaPath = some (.str "none")
  keeps : Keeps [backendPath, typhaPath] old new

/-- Only the first container called calico-node is another. -/
structure NodeRewritten (settings : List (String × String)) (old new : Value Scalar) : Prop where
  rewritten : ∃ values position container changed, old.find containersPath = some (.list values) ∧
    IsFirst "calico-node" values position ∧ values[position]? = some container ∧
    new.find containersPath = some (.list (values.set position changed)) ∧
    ContainerRewritten settings container changed ∧ Keeps (containerPlaces position) old new

structure ControllersRewritten (old new : Value Scalar) : Prop where
  replicas : new.find replicasPath = some (.int 1)
  nodeType : new.find nodeTypePath = some (.str controllerNodeType.text)
  tolerations : new.find tolerationsPath = some controllerTolerations
  keeps : Keeps [replicasPath, nodeTypePath, tolerationsPath] old new

theorem calicoConfig_ok (obj after : Value Scalar) (done : calicoConfig obj = .ok after) :
    ConfigRewritten obj after ∧ calicoConfig after = .ok after := by
  rw [calicoConfig] at done
  obtain ⟨withBackend, first, second⟩ := (Effect.bind_eq_ok _ _ _).mp done
  obtain ⟨backendSet, keepsBackend⟩ := setBelow_ok _ _ _ obj withBackend first
  obtain ⟨typhaSet, keepsTypha⟩ := setBelow_ok _ _ _ withBackend after second
  have apart : Apart [(typhaPath : Path Scalar)] backendPath := by
    simp [Apart, backendPath, typhaPath, items]
  have backend : after.find backendPath = some (.str "vxlan") :=
    (keepsTypha backendPath apart).trans backendSet
  constructor
  · exact ⟨backend, typhaSet, keepsBackend.trans keepsTypha⟩
  · rw [calicoConfig, setBelow_fixed ["data"] "calico_backend" _ after backend]
    exact setBelow_fixed ["data"] "typha_service_name" _ after typhaSet

theorem calicoNodes_ok (settings : List (String × String))
    (distinct : (settings.map Prod.fst).Nodup) (obj after : Value Scalar)
    (done : calicoNodes settings obj = .ok after) :
    NodeRewritten settings obj after ∧ calicoNodes settings after = .ok after := by
  obtain ⟨inner, changed, found, made, there, keeps⟩ := updateIn_ok _ _ obj after done
  obtain ⟨values, position, container, edited, rfl, searched, located, rewrote, rfl⟩ :=
    updateNext_ok _ _ inner changed made
  obtain ⟨rewritten, fixed⟩ := calicoNode_ok settings distinct container edited rewrote
  have kept := keeps_set _ values position container edited located (List.cons_ne_nil _ _)
    rewritten.keeps
  constructor
  · refine ⟨values, position, container, edited, found, nextNamed_isFirst _ _ _ searched, located,
      there, rewritten, ?_⟩
    have whole := keeps _ (by simp) kept
    simpa [containerPlaces, containersPath, Function.comp_def] using whole
  · obtain ⟨bound, -⟩ := List.getElem?_eq_some_iff.mp located
    have again := nextNamed_set _ values position container edited searched located rewritten.name
    apply updateIn_fixed _ _ after _ there
    exact updateNext_fixed _ _ _ position edited again (List.getElem?_set_self bound) fixed

theorem updateDict_single (name : String) (new value after : Value Scalar) :
    updateDict [(name, new)] value = .ok after ↔ setItem name new value = .ok after := by
  cases value <;> simp [updateDict, setItem]

theorem controllerPod_ok (pod after : Value Scalar) (done : controllerPod pod = .ok after) :
    after.find (items ["nodeSelector", nodeTypeLabel]) = some (.str controllerNodeType.text) ∧
      after.find (items ["tolerations"]) = some controllerTolerations ∧
      Keeps [items ["nodeSelector", nodeTypeLabel], items ["tolerations"]] pod after ∧
      controllerPod after = .ok after := by
  have same := updateDict_single nodeTypeLabel (.str controllerNodeType.text : Value Scalar)
  rw [controllerPod] at done
  obtain ⟨selecting, first, second⟩ := (Effect.bind_eq_ok _ _ _).mp done
  obtain ⟨selectorSet, keepsSelector⟩ := setBelow_ok ["nodeSelector"] nodeTypeLabel _ pod selecting
    ((updateIn_congr _ _ _ same pod selecting).mp first)
  have keepsTolerations := keeps_setItem "tolerations" _ selecting after second
  have apart : Apart [(items ["tolerations"] : Path Scalar)]
      (items ["nodeSelector", nodeTypeLabel]) := by
    simp [Apart, items]
  have selector : after.find (items ["nodeSelector", nodeTypeLabel]) =
      some (.str controllerNodeType.text) := (keepsTolerations _ apart).trans selectorSet
  have tolerations : after.child (.key (.text "tolerations")) = some controllerTolerations := by
    rw [setItem_child "tolerations" _ selecting after second, if_pos rfl]
  refine ⟨selector, ?_, keepsSelector.trans keepsTolerations, ?_⟩
  · simp [items, find, tolerations]
  · have selectorFixed := (updateIn_congr _ _ _ same after after).mpr
      (setBelow_fixed ["nodeSelector"] nodeTypeLabel _ after selector)
    rw [controllerPod, controllerNodeSelector, selectorFixed]
    exact setItem_same "tolerations" _ after tolerations

theorem calicoKubeControllers_ok (obj after : Value Scalar)
    (done : calicoKubeControllers obj = .ok after) :
    ControllersRewritten obj after ∧ calicoKubeControllers after = .ok after := by
  rw [calicoKubeControllers] at done
  obtain ⟨single, first, second⟩ := (Effect.bind_eq_ok _ _ _).mp done
  obtain ⟨replicasSet, keepsReplicas⟩ := setBelow_ok ["spec"] "replicas" _ obj single first
  obtain ⟨pod, changed, -, made, there, keeps⟩ := updateIn_ok _ _ single after second
  obtain ⟨selector, tolerations, keepsPod, podFixed⟩ := controllerPod_ok pod changed made
  have keepsBelow := keeps _ (List.cons_ne_nil _ _) keepsPod
  have apart : Apart [(nodeTypePath : Path Scalar), tolerationsPath] replicasPath := by
    simp [Apart, nodeTypePath, tolerationsPath, replicasPath, items]
  have replicas : after.find replicasPath = some (.int 1) :=
    (keepsBelow replicasPath apart).trans replicasSet
  have below : ∀ rest : Path Scalar, after.find (items ["spec", "template", "spec"] ++ rest) =
      changed.find rest := by
    intro rest
    rw [find_append, there, Option.bind_some]
  constructor
  · exact ⟨replicas, (below _).trans selector, (below _).trans tolerations,
      keepsReplicas.trans keepsBelow⟩
  · rw [calicoKubeControllers, setBelow_fixed ["spec"] "replicas" _ after replicas]
    exact updateIn_fixed _ _ after changed there podFixed

def Names (obj : Value Scalar) (kind name : String) : Prop :=
  obj.find (items ["kind"]) = some (.str kind) ∧
    obj.find (items ["metadata", "name"]) = some (.str name)

/-- What the loop makes of one object. -/
structure Rewritten (podCidr vxlanMode : String) (old new : Value Scalar) : Prop where
  config : Names old "ConfigMap" "calico-config" → ConfigRewritten old new
  node : Names old "DaemonSet" "calico-node" → NodeRewritten (overrides podCidr vxlanMode) old new
  controllers : Names old "Deployment" "calico-kube-controllers" → ControllersRewritten old new
  other : ¬ Names old "ConfigMap" "calico-config" → ¬ Names old "DaemonSet" "calico-node" →
    ¬ Names old "Deployment" "calico-kube-controllers" → new = old

/-- The branch a kind and a name lead to. -/
def rewriteNamed (podCidr vxlanMode : String) (kind name obj : Value Scalar) :
    Except Fault (Value Scalar) :=
  if kind.isText "ConfigMap" && name.isText "calico-config" then calicoConfig obj
  else if kind.isText "DaemonSet" && name.isText "calico-node" then
    calicoNodes (overrides podCidr vxlanMode) obj
  else if kind.isText "Deployment" && name.isText "calico-kube-controllers" then
    calicoKubeControllers obj
  else .ok obj

theorem rewriteObject_eq_ok (podCidr vxlanMode : String) (obj new : Value Scalar) :
    rewriteObject podCidr vxlanMode obj = .ok new ↔ ∃ kind name,
      obj.find (items ["kind"]) = some kind ∧ obj.find (items ["metadata", "name"]) = some name ∧
      rewriteNamed podCidr vxlanMode kind name obj = .ok new := by
  have kindPath : obj.find (items ["kind"]) = obj.child (.key (.text "kind")) := by
    simp [items, find]
  have namePath : obj.find (items ["metadata", "name"]) =
      (obj.child (.key (.text "metadata"))).bind (fun inner => inner.child (.key (.text "name"))) := by
    simp [items, find]
  simp only [rewriteObject, Effect.bind_eq_ok, getItem_ok, kindPath, namePath,
    Option.bind_eq_some_iff]
  constructor
  · rintro ⟨kind, kindHere, metadata, metadataHere, name, nameHere, done⟩
    exact ⟨kind, name, kindHere, ⟨metadata, metadataHere, nameHere⟩, done⟩
  · rintro ⟨kind, name, kindHere, ⟨metadata, metadataHere, nameHere⟩, done⟩
    exact ⟨kind, kindHere, metadata, metadataHere, name, nameHere, done⟩

theorem names_iff (obj kind name : Value Scalar) (kindFound : obj.find (items ["kind"]) = some kind)
    (nameFound : obj.find (items ["metadata", "name"]) = some name) (wantedKind wantedName : String) :
    Names obj wantedKind wantedName ↔
      (kind.isText wantedKind && name.isText wantedName) = true := by
  rw [Names, kindFound, nameFound, Bool.and_eq_true, isText_iff, isText_iff, Option.some.injEq,
    Option.some.injEq]

theorem Names.kind_unique {obj : Value Scalar} {first second name other : String}
    (one : Names obj first name) (two : Names obj second other) : first = second := by
  have same := one.1.symm.trans two.1
  simpa using same

/-- An edit that touches neither the kind nor the name is repeated by the loop. -/
theorem rewriteObject_again (podCidr vxlanMode : String) (touched : List (Path Scalar))
    (obj new kind name : Value Scalar) (kindFound : obj.find (items ["kind"]) = some kind)
    (nameFound : obj.find (items ["metadata", "name"]) = some name) (keeps : Keeps touched obj new)
    (kindApart : Apart touched (items ["kind"]))
    (nameApart : Apart touched (items ["metadata", "name"]))
    (fixed : rewriteNamed podCidr vxlanMode kind name new = .ok new) :
    rewriteObject podCidr vxlanMode new = .ok new := by
  apply (rewriteObject_eq_ok podCidr vxlanMode new new).mpr
  exact ⟨kind, name, (keeps _ kindApart).trans kindFound, (keeps _ nameApart).trans nameFound, fixed⟩

theorem rewriteObject_ok (podCidr vxlanMode : String) (obj new : Value Scalar)
    (done : rewriteObject podCidr vxlanMode obj = .ok new) :
    Rewritten podCidr vxlanMode obj new ∧ rewriteObject podCidr vxlanMode new = .ok new := by
  obtain ⟨kind, name, kindFound, nameFound, rewrote⟩ :=
    (rewriteObject_eq_ok podCidr vxlanMode obj new).mp done
  have named := names_iff obj kind name kindFound nameFound
  have again := fun touched => rewriteObject_again podCidr vxlanMode touched obj new kind name
    kindFound nameFound
  unfold rewriteNamed at rewrote
  by_cases config : Names obj "ConfigMap" "calico-config"
  · have branch := (named _ _).mp config
    rw [if_pos branch] at rewrote
    obtain ⟨rewritten, fixed⟩ := calicoConfig_ok obj new rewrote
    constructor
    · constructor
      · exact fun _ => rewritten
      · exact fun node => absurd (config.kind_unique node) (by decide)
      · exact fun controllers => absurd (config.kind_unique controllers) (by decide)
      · exact fun none _ _ => absurd config none
    · apply again _ rewritten.keeps
      · simp [Apart, backendPath, typhaPath, items]
      · simp [Apart, backendPath, typhaPath, items]
      · rw [rewriteNamed, if_pos branch, fixed]
  · rw [if_neg (mt (named _ _).mpr config)] at rewrote
    by_cases node : Names obj "DaemonSet" "calico-node"
    · have branch := (named _ _).mp node
      rw [if_pos branch] at rewrote
      obtain ⟨rewritten, fixed⟩ :=
        calicoNodes_ok _ (overrides_distinct podCidr vxlanMode) obj new rewrote
      constructor
      · constructor
        · exact fun other => absurd other config
        · exact fun _ => rewritten
        · exact fun controllers => absurd (node.kind_unique controllers) (by decide)
        · exact fun _ none _ => absurd node none
      · obtain ⟨values, position, container, changed, -, -, -, -, -, keeps⟩ := rewritten.rewritten
        apply again _ keeps
        · simp [Apart, containerPlaces, containersPath, items]
        · simp [Apart, containerPlaces, containersPath, items]
        · rw [rewriteNamed, if_neg (mt (named _ _).mpr config), if_pos branch, fixed]
    · rw [if_neg (mt (named _ _).mpr node)] at rewrote
      by_cases controllers : Names obj "Deployment" "calico-kube-controllers"
      · have branch := (named _ _).mp controllers
        rw [if_pos branch] at rewrote
        obtain ⟨rewritten, fixed⟩ := calicoKubeControllers_ok obj new rewrote
        constructor
        · constructor
          · exact fun other => absurd other config
          · exact fun other => absurd other node
          · exact fun _ => rewritten
          · exact fun _ _ none => absurd controllers none
        · apply again _ rewritten.keeps
          · simp [Apart, replicasPath, nodeTypePath, tolerationsPath, items]
          · simp [Apart, replicasPath, nodeTypePath, tolerationsPath, items]
          · rw [rewriteNamed, if_neg (mt (named _ _).mpr config),
              if_neg (mt (named _ _).mpr node), if_pos branch, fixed]
      · rw [if_neg (mt (named _ _).mpr controllers)] at rewrote
        obtain rfl := Except.ok.inj rewrote
        constructor
        · constructor
          · exact fun other => absurd other config
          · exact fun other => absurd other node
          · exact fun other => absurd other controllers
          · exact fun _ _ _ => rfl
        · exact done

theorem rewriteObjects_fixed (podCidr vxlanMode : String) (documents objects : List (Value Scalar))
    (turns : List.Forall₂ (fun old new => rewriteObject podCidr vxlanMode old = .ok new) documents
      objects) : ∀ obj ∈ objects, rewriteObject podCidr vxlanMode obj = .ok obj := by
  induction turns with
  | nil => simp
  | cons done _ ih =>
      rw [List.forall_mem_cons]
      exact ⟨(rewriteObject_ok podCidr vxlanMode _ _ done).2, ih⟩

theorem rewriteObject_filled (podCidr vxlanMode : String) (obj : Value Scalar)
    (fixed : rewriteObject podCidr vxlanMode obj = .ok obj) : obj.isNull = false := by
  cases obj with
  | null => cases fixed
  | int value => rfl
  | str text => rfl
  | scalar value => rfl
  | list values => rfl
  | dict entries => rfl

/-- Only what is named changes, the objects keep their order, and the edit of
what was edited changes nothing. -/
theorem calico_manifest_rewritten (safeLoadAll : String → Except Fault (List (Value Scalar)))
    (manifest podCidr vxlanMode : String) (objects : List (Value Scalar))
    (accepted : calicoManifestObjects safeLoadAll manifest podCidr vxlanMode = .ok objects) :
    ∃ documents, safeLoadAll manifest = .ok documents ∧
      List.Forall₂ (Rewritten podCidr vxlanMode) (documents.filter (fun obj => !obj.isNull))
        objects ∧
      ∀ reload dumped, reload dumped = .ok objects →
        calicoManifestObjects reload dumped podCidr vxlanMode = .ok objects := by
  obtain ⟨documents, loaded, visited⟩ := (Effect.bind_eq_ok _ _ _).mp accepted
  have turns := (Effect.mapM_eq_ok _ _ _).mp visited
  have settled := rewriteObjects_fixed podCidr vxlanMode _ objects turns
  refine ⟨documents, loaded, ?_, ?_⟩
  · exact turns.imp (fun old new done => (rewriteObject_ok podCidr vxlanMode old new done).1)
  · intro reload dumped reloaded
    have filled : objects.filter (fun obj => !obj.isNull) = objects := by
      rw [List.filter_eq_self]
      intro obj member
      rw [rewriteObject_filled podCidr vxlanMode obj (settled obj member)]
      rfl
    rw [calicoManifestObjects, reloaded]
    simp only [bind, Except.bind, filled]
    rw [Effect.mapM_of_total _ id objects settled, List.map_id]

def sampleManifest : String :=
  "kind: DaemonSet\nmetadata:\n  name: calico-node\nspec:\n  template:\n    spec:\n" ++
    "      containers:\n      - name: calico-node\n        env:\n" ++
    "        - name: CALICO_IPV4POOL_IPIP\n          value: Always\n" ++
    "        - name: DATASTORE_TYPE\n          value: kubernetes\n" ++
    "        livenessProbe:\n          exec: \x7b\x7d\n        readinessProbe:\n          exec: \x7b\x7d\n" ++
    "---\n"

def named (name : String) (value : Value Bool) : Key Bool × Value Bool := (.text name, value)

/-- What the sample is parsed to. -/
def sampleDocuments : List (Value Bool) :=
  [.dict [named "kind" (.str "DaemonSet"), named "metadata" (.dict [named "name" (.str "calico-node")]),
    named "spec" (.dict [named "template" (.dict [named "spec" (.dict [named "containers" (.list
      [.dict [named "name" (.str "calico-node"),
        named "env" (.list [envEntry ("CALICO_IPV4POOL_IPIP", "Always"),
          envEntry ("DATASTORE_TYPE", "kubernetes")]),
        named "livenessProbe" (.dict [named "exec" (.dict [])]),
        named "readinessProbe" (.dict [named "exec" (.dict [])])]])])])])], .null]

def sampleLoad : String → Except Fault (List (Value Bool)) := fun _ => .ok sampleDocuments

theorem sample_manifest_rewritten : ∃ objects,
    calicoManifestObjects sampleLoad sampleManifest "192.168.0.0/16" "Always" = .ok objects ∧
    ∃ documents, sampleLoad sampleManifest = .ok documents ∧
      List.Forall₂ (Rewritten "192.168.0.0/16" "Always")
        (documents.filter (fun obj => !obj.isNull)) objects ∧
      ∀ reload dumped, reload dumped = .ok objects →
        calicoManifestObjects reload dumped "192.168.0.0/16" "Always" = .ok objects :=
  ⟨_, rfl, calico_manifest_rewritten sampleLoad sampleManifest "192.168.0.0/16" "Always" _ rfl⟩

end ClusterApiForSlinky.CalicoManifest
