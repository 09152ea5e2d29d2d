import ClusterApiForSlinky.RouteDocuments
import ClusterApiForSlinky.Shell

/-!
How the containerd routes of a Local workload cluster reach its nodes:
`_containerd_registry_commands` of
stacks/workload_cluster/workload_cluster_infrastructure_local.py.
-/

namespace ClusterApiForSlinky.RouteRendering
open ModelCodec WorkloadConfig LocalRegistryRoutes RouteDocuments
open RegistrySetting hiding endpoint

def dockerDesktopHost : String := "host.docker.internal"
def containerdCertsDir : String := "/etc/containerd/certs.d"
def registryHostVariable : String := "_CA4S_REGISTRY_HOST"

/-- The command that finds the gateway. -/
def gatewayDiscovery : String :=
  registryHostVariable ++ "=" ++ dockerDesktopHost ++ "\n" ++
  "if ! getent hosts \"$\x7b_CA4S_REGISTRY_HOST\x7d\" >/dev/null 2>&1; then\n" ++
  "  _CA4S_REGISTRY_HOST=$(ip route show default | awk '\x7bprint $3; exit\x7d')\n" ++
  "fi\n" ++
  "if [ -z \"$\x7b_CA4S_REGISTRY_HOST\x7d\" ]; then\n" ++
  "  echo \"could not determine registry gateway\" >&2\n" ++
  "  exit 1\n" ++
  "fi"

def registryDirectory (registry : String) : String := containerdCertsDir ++ "/" ++ registry

def hostsFile (registry : String) : String := registryDirectory registry ++ "/hosts.toml"

def writeCommand (content file : String) (substituted : Bool) : String :=
  if substituted then
    "printf %s " ++ Shell.quote content ++ " | sed \"s|" ++ registryHostMarker ++ "|$\x7b" ++
      registryHostVariable ++ "\x7d|g\" > " ++ Shell.quote file
  else "printf %s " ++ Shell.quote content ++ " > " ++ Shell.quote file

def routeCommands (dumps : Toml.Document → String)
    (entry : String × ContainerdRegistryConfig) : List String :=
  ["mkdir -p " ++ Shell.quote (registryDirectory entry.1),
    writeCommand (dumps (routeDocument entry.2)) (hostsFile entry.1) (usesGateway entry.2)]

def restartCommand : String := "systemctl restart containerd"

/-- `_containerd_registry_commands` -/
def containerdRegistryCommands (dumps : Toml.Document → String) (routes : Routes) : List String :=
  if routes.entries = [] then []
  else
    (if routes.entries.any (fun entry => usesGateway entry.2) then [gatewayDiscovery] else []) ++
      routes.entries.flatMap (routeCommands dumps) ++ [restartCommand]

/-! Running the commands on a node. -/

/-- What the discovery asks the node for. -/
structure Node where
  /-- `getent hosts` finds the name of Docker Desktop. -/
  desktop : Bool
  /-- The third field of the default route; empty without such a route. -/
  defaultGateway : String

def Node.registryHost (node : Node) : String :=
  if node.desktop then dockerDesktopHost else node.defaultGateway

/-- What `gatewayDiscovery` does; it exits where there is no gateway to be found. -/
def discover (node : Node) (state : Shell.State) : Option Shell.State :=
  if node.registryHost = "" then none
  else some { state with
    env := fun name =>
      if name = registryHostVariable then some node.registryHost else state.env name }

def execute (node : Node) (state : Shell.State) (command : String) : Option Shell.State :=
  if command = gatewayDiscovery then discover node state else state.execute command

/-- What one shell that runs every command in order does; `none` when a command fails. -/
def run (node : Node) (commands : List String) : Option (List Shell.Event) :=
  (commands.foldlM (execute node) ⟨fun _ => none, []⟩).map Shell.State.trace

/-! What the nodes should have. -/

/-- The files are written, then containerd is restarted. -/
structure Written (library : Toml.Library) (gateway : String) (routes : Routes)
    (trace : List Shell.Event) : Prop where
  loaded : ∀ entry ∈ routes.entries, ∃ content,
    Shell.writes trace (hostsFile entry.1) = [content] ∧
      library.loads content = some (routedDocument gateway entry.2)
  only : ∀ file content, .wrote file content ∈ trace →
    ∃ entry ∈ routes.entries, file = hostsFile entry.1
  restarted : ∃ earlier, trace = earlier ++ [.restarted "containerd"] ∧
    ∀ unit, .restarted unit ∉ earlier

structure Rendered (library : Toml.Library) (node : Node) (overrides : RegistryRoutes)
    (routes : Routes) (commands : List String) : Prop where
  explicit : ∀ entry ∈ overrides.entries, routes.lookup entry.1.text = some entry.2
  discovered : if routes.entries.any (fun entry => usesGateway entry.2)
    then ∃ rest, commands = gatewayDiscovery :: rest ∧ gatewayDiscovery ∉ rest
    else gatewayDiscovery ∉ commands
  written : ∃ trace, run node commands = some trace ∧
    Written library node.registryHost routes trace

/-! One command. -/

theorem gatewayDiscovery_start : gatewayDiscovery.toList.head? = some '_' := by
  simp only [gatewayDiscovery, registryHostVariable, String.toList_append, List.append_assoc]
  rfl

/-- No other command starts with an underscore. -/
theorem ne_gatewayDiscovery (command : String) (start : command.toList.head? ≠ some '_') :
    command ≠ gatewayDiscovery := by
  rintro rfl
  exact start gatewayDiscovery_start

theorem execute_other (node : Node) (state : Shell.State) (command : String)
    (start : command.toList.head? ≠ some '_') :
    execute node state command = state.execute command :=
  if_neg (ne_gatewayDiscovery command start)

theorem hostsFile_inj (left right : String) : hostsFile left = hostsFile right ↔ left = right := by
  simp [hostsFile, registryDirectory, String.append_left_inj, String.append_right_inj]

theorem makeCommand_start (directory : String) :
    ("mkdir -p " ++ Shell.quote directory).toList.head? ≠ some '_' := by
  rw [String.toList_append]
  exact fun same => absurd (Option.some.inj same) (by decide)

theorem writeCommand_start (content file : String) (substituted : Bool) :
    (writeCommand content file substituted).toList.head? ≠ some '_' := by
  cases substituted <;> simp [writeCommand]

theorem write_made (state : Shell.State) (registry content : String)
    (made : .made (registryDirectory registry) ∈ state.trace) :
    state.write (hostsFile registry) content =
      some (state.record (.wrote (hostsFile registry) content)) := by
  have parts : hostsFile registry = registryDirectory registry ++ "/" ++ "hosts.toml" := by
    rw [hostsFile, String.append_assoc]
    rfl
  have directory : Shell.dirname (hostsFile registry) = some (registryDirectory registry) := by
    rw [parts]
    exact Shell.dirname_append (registryDirectory registry) "hosts.toml" (by decide)
  rw [Shell.State.write, directory, Option.bind_some, if_pos made]

theorem replacement_of_isHost (gateway : String) (host : isHost gateway = true) :
    Shell.Replacement gateway := by
  have named := fun char member => nameChar_of_isHost gateway host char member
  constructor
  · intro member
    exact absurd (named '|' member) (by decide)
  · intro char member
    have other := nameChar_ne char
    simp [other '&' (named char member) (by decide), other '\\' (named char member) (by decide),
      other '\n' (named char member) (by decide)]

theorem pattern_marker : Shell.Pattern registryHostMarker := by
  have named : registryHostMarker.toList.all
      (fun char => char.isAlphanum || char == '_') = true := by decide
  exact ⟨by decide, List.all_eq_true.mp named⟩

/-- The discovery has run when some host needs it. -/
def Discovered (gateway : String) (needed : Bool) (state : Shell.State) : Prop :=
  needed = true → state.env registryHostVariable = some gateway

theorem execute_write (library : Toml.Library) (gateway : String) (host : isHost gateway = true)
    (state : Shell.State) (route : ContainerdRegistryConfig) (file : String)
    (discovered : Discovered gateway (usesGateway route) state) :
    state.execute (writeCommand (library.dumps (routeDocument route)) file (usesGateway route)) =
      state.write file (routeText library gateway route) := by
  cases used : usesGateway route with
  | true =>
      have set : state.env registryHostVariable = some gateway := discovered used
      have expanded := Shell.execute_sed state (library.dumps (routeDocument route))
        registryHostMarker registryHostVariable file pattern_marker (by decide)
      rw [set, Option.bind_some, Shell.substitution_literal _ _ pattern_marker
        (replacement_of_isHost gateway host), Option.bind_some] at expanded
      rw [routeText, used, if_pos rfl, writeCommand, if_pos rfl]
      exact expanded
  | false =>
      rw [routeText, used, if_neg Bool.false_ne_true, writeCommand, if_neg Bool.false_ne_true]
      exact Shell.execute_printf state _ _

/-! The commands of a route, and of all of them. -/

def routeEvents (library : Toml.Library) (gateway : String)
    (entry : String × ContainerdRegistryConfig) : List Shell.Event :=
  [.made (registryDirectory entry.1),
    .wrote (hostsFile entry.1) (routeText library gateway entry.2)]

theorem run_route (library : Toml.Library) (node : Node) (host : isHost node.registryHost = true)
    (entry : String × ContainerdRegistryConfig) (state : Shell.State)
    (discovered : Discovered node.registryHost (usesGateway entry.2) state) :
    (routeCommands library.dumps entry).foldlM (execute node) state =
      some ⟨state.env, state.trace ++ routeEvents library node.registryHost entry⟩ := by
  have first := Shell.execute_mkdir state (registryDirectory entry.1)
  have second := execute_write library node.registryHost host
    (state.record (.made (registryDirectory entry.1))) entry.2 (hostsFile entry.1) discovered
  rw [write_made _ _ _ (List.mem_append_right _ List.mem_cons_self)] at second
  rw [routeCommands, List.foldlM_cons, execute_other node state _ (makeCommand_start _), first]
  simp only [Option.bind_eq_bind, Option.bind_some, List.foldlM_cons, List.foldlM_nil]
  rw [execute_other node _ _ (writeCommand_start _ _ _), second]
  simp [Shell.State.record, routeEvents]

theorem run_routes (library : Toml.Library) (node : Node) (host : isHost node.registryHost = true)
    (entries : List (String × ContainerdRegistryConfig)) (state : Shell.State)
    (discovered : Discovered node.registryHost (entries.any (fun entry => usesGateway entry.2))
      state) :
    (entries.flatMap (routeCommands library.dumps)).foldlM (execute node) state =
      some ⟨state.env, state.trace ++ entries.flatMap (routeEvents library node.registryHost)⟩ := by
  induction entries generalizing state with
  | nil => simp
  | cons entry rest ih =>
      have mine : Discovered node.registryHost (usesGateway entry.2) state := by
        intro used
        exact discovered (by simp [used])
      have later : Discovered node.registryHost (rest.any (fun entry => usesGateway entry.2))
          ⟨state.env, state.trace ++ routeEvents library node.registryHost entry⟩ := by
        intro used
        exact discovered (by rw [List.any_cons, used, Bool.or_true])
      rw [List.flatMap_cons, List.foldlM_append, run_route library node host entry state mine]
      simp only [Option.bind_eq_bind, Option.bind_some]
      rw [ih _ later, List.flatMap_cons, List.append_assoc]

def routesTrace (library : Toml.Library) (gateway : String) (routes : Routes) : List Shell.Event :=
  routes.entries.flatMap (routeEvents library gateway) ++ [.restarted "containerd"]

theorem restart_start : restartCommand.toList.head? ≠ some '_' := by decide

theorem execute_restart (node : Node) (state : Shell.State) :
    execute node state restartCommand = some (state.record (.restarted "containerd")) := by
  rw [execute_other node state _ restart_start]
  exact Shell.execute_restart state "containerd" (by decide)

/-- The commands of a route map run to their end. -/
theorem run_commands (library : Toml.Library) (node : Node) (host : isHost node.registryHost = true)
    (routes : Routes) (filled : routes.entries ≠ []) :
    run node (containerdRegistryCommands library.dumps routes) =
      some (routesTrace library node.registryHost routes) := by
  have present : node.registryHost ≠ "" := of_decide_eq_true (Bool.and_eq_true_iff.mp host).1
  have rest (state : Shell.State) (nothing : state.trace = [])
      (discovered : Discovered node.registryHost
        (routes.entries.any (fun entry => usesGateway entry.2)) state) :
      ((routes.entries.flatMap (routeCommands library.dumps) ++ [restartCommand]).foldlM
        (execute node) state).map Shell.State.trace =
          some (routesTrace library node.registryHost routes) := by
    rw [List.foldlM_append, run_routes library node host _ state discovered]
    simp only [Option.bind_eq_bind, Option.bind_some, List.foldlM_cons, List.foldlM_nil,
      execute_restart, nothing, List.nil_append]
    rfl
  rw [run, containerdRegistryCommands, if_neg filled, List.append_assoc]
  cases used : routes.entries.any (fun entry => usesGateway entry.2) with
  | false =>
      rw [if_neg Bool.false_ne_true, List.nil_append]
      apply rest _ rfl
      intro needed
      rw [used] at needed
      cases needed
  | true =>
      have found : execute node ⟨fun _ => none, []⟩ gatewayDiscovery =
          some ⟨fun name => if name = registryHostVariable then some node.registryHost else none,
            []⟩ := by
        rw [execute, if_pos rfl, discover, if_neg present]
      rw [if_pos rfl, List.singleton_append, List.foldlM_cons, found]
      apply rest _ rfl
      intro _
      show (if registryHostVariable = registryHostVariable then some node.registryHost
        else none) = _
      rw [if_pos rfl]

/-! What the trace says. -/

theorem writes_append (first second : List Shell.Event) (file : String) :
    Shell.writes (first ++ second) file = Shell.writes first file ++ Shell.writes second file :=
  List.filterMap_append

theorem writes_route (library : Toml.Library) (gateway : String)
    (entry : String × ContainerdRegistryConfig) (registry : String) :
    Shell.writes (routeEvents library gateway entry) (hostsFile registry) =
      if entry.1 = registry then [routeText library gateway entry.2] else [] := by
  by_cases same : entry.1 = registry
  · rw [if_pos same]
    simp [routeEvents, Shell.writes, same]
  · have different := mt (hostsFile_inj entry.1 registry).mp same
    rw [if_neg same]
    simp [routeEvents, Shell.writes, different]

theorem writes_routes (library : Toml.Library) (gateway : String)
    (entries : List (String × ContainerdRegistryConfig)) (unique : (entries.map Prod.fst).Nodup)
    (entry : String × ContainerdRegistryConfig) (member : entry ∈ entries) :
    Shell.writes (entries.flatMap (routeEvents library gateway)) (hostsFile entry.1) =
      [routeText library gateway entry.2] := by
  have absent (others : List (String × ContainerdRegistryConfig))
      (fresh : entry.1 ∉ others.map Prod.fst) :
      Shell.writes (others.flatMap (routeEvents library gateway)) (hostsFile entry.1) = [] := by
    induction others with
    | nil => rfl
    | cons other rest ih =>
        rw [List.map_cons, List.mem_cons, not_or] at fresh
        rw [List.flatMap_cons, writes_append, writes_route, if_neg (Ne.symm fresh.1), ih fresh.2]
        rfl
  induction entries with
  | nil => cases member
  | cons first rest ih =>
      obtain ⟨fresh, later⟩ := List.nodup_cons.mp unique
      rw [List.flatMap_cons, writes_append, writes_route]
      rcases List.mem_cons.mp member with rfl | held
      · rw [if_pos rfl, absent rest fresh, List.append_nil]
      · have different : first.1 ≠ entry.1 := by
          intro same
          exact fresh (same ▸ List.mem_map_of_mem held)
        rw [if_neg different, ih later held, List.nil_append]

theorem writes_routesTrace (library : Toml.Library) (gateway : String) (routes : Routes)
    (entry : String × ContainerdRegistryConfig) (member : entry ∈ routes.entries) :
    Shell.writes (routesTrace library gateway routes) (hostsFile entry.1) =
      [routeText library gateway entry.2] := by
  rw [routesTrace, writes_append, writes_routes library gateway _ routes.unique entry member]
  rfl

theorem mem_routeEvents (library : Toml.Library) (gateway : String)
    (entries : List (String × ContainerdRegistryConfig)) (event : Shell.Event)
    (member : event ∈ entries.flatMap (routeEvents library gateway)) :
    ∃ entry ∈ entries, event = .made (registryDirectory entry.1) ∨
      event = .wrote (hostsFile entry.1) (routeText library gateway entry.2) := by
  obtain ⟨entry, held, inside⟩ := List.mem_flatMap.mp member
  refine ⟨entry, held, ?_⟩
  simpa [routeEvents] using inside

/-- Whatever the routes are, their files are written and containerd is restarted last;
what is loaded decides whether anything was lost. -/
theorem written_iff (library : Toml.Library) (gateway : String) (host : isHost gateway = true)
    (routes : Routes) :
    Written library gateway routes (routesTrace library gateway routes) ↔
      ∀ entry ∈ routes.entries, Lossless gateway entry.2 := by
  constructor
  · intro written entry member
    obtain ⟨content, once, loaded⟩ := written.loaded entry member
    rw [writes_routesTrace library gateway routes entry member] at once
    rw [← List.singleton_inj.mp once] at loaded
    exact (loads_routeText_iff library gateway host entry.2).mp loaded
  · intro lossless
    refine ⟨?_, ?_, ?_⟩
    · intro entry member
      exact ⟨_, writes_routesTrace library gateway routes entry member,
        (loads_routeText_iff library gateway host entry.2).mpr (lossless entry member)⟩
    · intro file content member
      rcases List.mem_append.mp member with route | last
      · obtain ⟨entry, held, made | wrote⟩ := mem_routeEvents library gateway _ _ route
        · cases made
        · cases wrote
          exact ⟨entry, held, rfl⟩
      · cases List.mem_singleton.mp last
    · refine ⟨_, rfl, ?_⟩
      intro unit member
      obtain ⟨entry, -, made | wrote⟩ := mem_routeEvents library gateway _ _ member
      · cases made
      · cases wrote

theorem gatewayDiscovery_not_mem (dumps : Toml.Document → String)
    (entries : List (String × ContainerdRegistryConfig)) :
    gatewayDiscovery ∉ entries.flatMap (routeCommands dumps) ++ [restartCommand] := by
  intro member
  rcases List.mem_append.mp member with route | last
  · obtain ⟨entry, -, inside⟩ := List.mem_flatMap.mp route
    rw [routeCommands, List.mem_cons, List.mem_singleton] at inside
    rcases inside with made | wrote
    · exact ne_gatewayDiscovery _ (makeCommand_start _) made.symm
    · exact ne_gatewayDiscovery _ (writeCommand_start _ _ _) wrote.symm
  · exact ne_gatewayDiscovery _ restart_start (List.mem_singleton.mp last).symm

theorem discovered_first (dumps : Toml.Document → String) (routes : Routes)
    (filled : routes.entries ≠ []) :
    if routes.entries.any (fun entry => usesGateway entry.2)
      then ∃ rest, containerdRegistryCommands dumps routes = gatewayDiscovery :: rest ∧
        gatewayDiscovery ∉ rest
      else gatewayDiscovery ∉ containerdRegistryCommands dumps routes := by
  have others := gatewayDiscovery_not_mem dumps routes.entries
  rw [containerdRegistryCommands, if_neg filled, List.append_assoc]
  split
  case isTrue => exact ⟨_, rfl, others⟩
  case isFalse => exact others

/-- A route map is rendered exactly when its routes are lossless. -/
theorem rendered_iff (library : Toml.Library) (node : Node) (host : isHost node.registryHost = true)
    (overrides : RegistryRoutes) (routes : Routes) (filled : routes.entries ≠ [])
    (explicit : ∀ entry ∈ overrides.entries, routes.lookup entry.1.text = some entry.2) :
    Rendered library node overrides routes (containerdRegistryCommands library.dumps routes) ↔
      ∀ entry ∈ routes.entries, Lossless node.registryHost entry.2 := by
  rw [← written_iff library node.registryHost host routes]
  constructor
  · intro rendered
    obtain ⟨trace, ran, written⟩ := rendered.written
    rw [run_commands library node host routes filled] at ran
    rw [← Option.some.inj ran] at written
    exact written
  · intro written
    exact ⟨explicit, discovered_first library.dumps routes filled, _,
      run_commands library node host routes filled, written⟩

/-! The routes of a cluster. -/

/-- What the settings of a cluster have to avoid. -/
structure LosslessSettings (gateway : String) (customRegistry : Option LocalCustomRegistrySetting)
    (overrides : RegistryRoutes) : Prop where
  routes : ∀ entry ∈ overrides.entries, Lossless gateway entry.2
  customRegistry : ∀ setting, customRegistry = some setting →
    (∀ name ∈ overrides.keys, name.text ≠ endpoint setting.registryName.text) →
      ¬ Marked setting.registryName.text

theorem usesGateway_single (server : RegistryURL) (host : ContainerdHostConfig) :
    usesGateway (singleHost server host) = host.gatewayPort.isSome :=
  Bool.or_false _

theorem lossless_single (gateway : String) (server : RegistryURL) (host : ContainerdHostConfig)
    (unmarked : ¬ Marked server.text) (direct : ∀ url, host.url = some url → ¬ Marked url.text) :
    Lossless gateway (singleHost server host) := by
  refine ⟨List.nodup_singleton _, ?_⟩
  intro _
  refine ⟨unmarked, ?_⟩
  intro other member url
  rw [List.mem_singleton.mp member]
  exact direct url

/-- The server of a custom registry has the marker only when its name has it. -/
theorem marked_endpoint (name : String) : Marked ("http://" ++ endpoint name) ↔ Marked name := by
  have shape : ("http://" ++ endpoint name).toList =
      "http:/".toList ++ '/' :: (name.toList ++ ':' :: "5000".toList) := by
    simp only [endpoint, String.toList_append]
    rfl
  constructor
  · intro marked
    by_contra unmarked
    have scheme : ¬ registryHostMarker.toList <:+: "http:/".toList :=
      unmarked_of_not_mem "http:/" (by decide)
    have port : ¬ registryHostMarker.toList <:+: "5000".toList :=
      unmarked_of_not_mem "5000" (by decide)
    have kept : Text.replaceChars registryHostMarker.toList [] 0
        ("http://" ++ endpoint name).toList = ("http://" ++ endpoint name).toList := by
      rw [shape, Text.replaceChars_boundary _ _ marker_word.nonempty '/' (by decide),
        Text.replaceChars_boundary _ _ marker_word.nonempty ':' (by decide),
        Text.replaceChars_absent _ _ _ scheme, Text.replaceChars_absent _ _ _ port,
        Text.replaceChars_absent _ _ _ unmarked]
    exact Text.absent_of_replaceChars _ _ marker_word.nonempty marker_word.nonempty _ kept marked
  · intro marked
    rw [Marked, shape]
    exact marked.trans ⟨"http://".toList, ":5000".toList, by simp⟩

theorem lossless_custom (gateway : String) (setting : LocalCustomRegistrySetting)
    (route : ContainerdRegistryConfig) (made : customRoute setting = some route) :
    Lossless gateway route ↔ ¬ Marked setting.registryName.text := by
  obtain ⟨server, host, rfl, text, direct, port⟩ := customRoute_eq_some setting route made
  rw [← marked_endpoint, ← text]
  constructor
  · intro lossless
    exact (lossless.unmarked ((usesGateway_single server host).trans port)).1
  · intro unmarked
    apply lossless_single gateway server host unmarked
    intro url found
    rw [direct] at found
    cases found

theorem lossless_docker (gateway : String) (registry : Option LocalPortRegistrySetting)
    (host : ContainerdHostConfig) (made : dockerIoHost registry = some host) :
    Lossless gateway (singleHost dockerIoServer host) := by
  apply lossless_single
  · exact unmarked_of_not_mem _ (by decide)
  · intro url found
    cases registry with
    | some setting =>
        rw [(gatewayHost_url setting.port host made).1] at found
        cases found
    | none =>
        cases made
        cases found
        exact unmarked_of_not_mem _ (by decide)

/-- The generated routes lose nothing, unless a custom registry has the marker in its
name and keeps its generated route. -/
theorem lossless_routes_iff (gateway : String) (registry : Option LocalPortRegistrySetting)
    (customRegistry : Option LocalCustomRegistrySetting) (overrides : RegistryRoutes)
    (routes : Routes)
    (generated : localRegistryRoutes registry customRegistry overrides = some routes) :
    (∀ entry ∈ routes.entries, Lossless gateway entry.2) ↔
      LosslessSettings gateway customRegistry overrides := by
  have explicit := explicit_routes registry customRegistry overrides routes generated
  obtain ⟨host, start, base, docker, first, custom, rfl⟩ :=
    localRegistryRoutes_eq_some registry customRegistry overrides routes generated
  constructor
  · intro lossless
    refine ⟨?_, ?_⟩
    · intro entry member
      exact lossless (entry.1.text, entry.2) (Mapping.mem_of_lookup _ _ _ (explicit entry member))
    · rintro setting rfl free
      obtain ⟨route, made, found⟩ := lookup_custom start base setting custom
      have kept : (base.update (overrides.mapKeys (fun name => name.text) text_injective)).lookup
          (endpoint setting.registryName.text) = some route := by
        rw [Mapping.lookup_update, (lookup_override_none overrides _).mpr free, found]
        rfl
      exact (lossless_custom gateway setting route made).mp
        (lossless (_, route) (Mapping.mem_of_lookup _ _ _ kept))
  · rintro ⟨own, unmarked⟩ ⟨name, route⟩ member
    have found := Mapping.lookup_of_mem _ name route member
    rw [Mapping.lookup_update] at found
    cases overridden : (overrides.mapKeys (fun name => name.text) text_injective).lookup name with
    | some other =>
        rw [overridden] at found
        cases found
        obtain ⟨entry, held, same⟩ := List.mem_map.mp (Mapping.mem_of_lookup _ _ _ overridden)
        cases same
        exact own entry held
    | none =>
        rw [overridden, Option.none_or] at found
        rcases lookup_withCustomRoute start base customRegistry custom name route found with
          there | ⟨setting, given, made, rfl⟩
        · rw [first] at there
          by_cases hub : name = "docker.io"
          · rw [if_pos hub] at there
            cases there
            exact lossless_docker gateway registry host docker
          · rw [if_neg hub] at there
            cases there
        · exact (lossless_custom gateway setting route made).mpr
            (unmarked setting given ((lookup_override_none overrides _).mp overridden))

/-- For every setting and every gateway, the commands bring each route to the node as it
was configured exactly when no two hosts of a route get one URL and the marker of the
gateway stands nowhere else. -/
theorem registry_routes_rendered_iff (library : Toml.Library) (node : Node)
    (host : isHost node.registryHost = true) (registry : Option LocalPortRegistrySetting)
    (customRegistry : Option LocalCustomRegistrySetting) (overrides : RegistryRoutes)
    (routes : Routes)
    (generated : localRegistryRoutes registry customRegistry overrides = some routes) :
    Rendered library node overrides routes (containerdRegistryCommands library.dumps routes) ↔
      LosslessSettings node.registryHost customRegistry overrides := by
  rw [rendered_iff library node host overrides routes
    (routes_filled registry customRegistry overrides routes generated)
    (explicit_routes registry customRegistry overrides routes generated)]
  exact lossless_routes_iff node.registryHost registry customRegistry overrides routes generated

def mirroredRoute : ContainerdRegistryConfig where
  server := ⟨"https://registry.example", by decide⟩
  hosts := [
    { url := some ⟨"https://cache.example", by decide⟩, capabilities := [.pull],
      exactlyOne := by decide, unique := by decide },
    { gatewayPort := some ⟨5443, by decide⟩, scheme := .https
      capabilities := [.pull, .resolve, .push], exactlyOne := by decide, unique := by decide }]
  unique := by decide

def mirroredRoutes : RegistryRoutes :=
  ⟨[(⟨"registry.example", by decide⟩, mirroredRoute)], List.nodup_singleton _⟩

def routedRegistry : LocalCustomRegistrySetting :=
  ⟨⟨"custom-registry", by decide⟩, ⟨.int 5003, by decide⟩⟩

theorem mirrored_routes_rendered : ∃ routes,
    localRegistryRoutes (some ⟨⟨.int 5002, by decide⟩⟩) (some routedRegistry) mirroredRoutes =
      some routes ∧
    Rendered Toml.layout ⟨false, "172.17.0.1"⟩ mirroredRoutes routes
      (containerdRegistryCommands Toml.layout.dumps routes) := by
  obtain ⟨routes, generated, -⟩ := lookup_localRegistryRoutes ⟨⟨.int 5002, by decide⟩⟩
    routedRegistry mirroredRoutes 5002 5003 rfl (by decide) rfl (by decide)
  refine ⟨routes, generated, (registry_routes_rendered_iff Toml.layout ⟨false, "172.17.0.1"⟩
    (by decide) _ _ mirroredRoutes routes generated).mpr ⟨?_, ?_⟩⟩
  · intro entry member
    cases List.mem_singleton.mp member
    refine ⟨by decide, ?_⟩
    intro _
    refine ⟨unmarked_of_not_mem _ (by decide), ?_⟩
    intro host held url direct
    rcases List.mem_cons.mp held with rfl | later
    · cases direct
      exact unmarked_of_not_mem _ (by decide)
    · cases List.mem_singleton.mp later
      cases direct
  · intro setting given _
    cases given
    exact unmarked_of_not_mem _ (by decide)

/-! A mirror that is reached with two schemes. -/

def mirrorHost (scheme : Scheme) (capabilities : List Capability)
    (unique : capabilities ≠ [] ∧ capabilities.Nodup) : ContainerdHostConfig where
  url := some ⟨"https://mirror.example", by decide⟩
  scheme := scheme
  capabilities := capabilities
  exactlyOne := by decide
  unique := unique

/-- The validator compares the schemes of direct hosts, which their URLs do not use. -/
def twinMirrors : RegistryRoutes :=
  ⟨[(⟨"private.example", by decide⟩,
    { server := ⟨"https://private.example", by decide⟩
      hosts := [mirrorHost .http [.pull] (by decide), mirrorHost .https [.push] (by decide)]
      unique := by decide })], List.nodup_singleton _⟩

theorem twin_mirrors_collapse : ∃ routes, localRegistryRoutes none none twinMirrors = some routes ∧
    ¬ Rendered Toml.layout ⟨false, "172.17.0.1"⟩ twinMirrors routes
      (containerdRegistryCommands Toml.layout.dumps routes) := by
  refine ⟨_, rfl, ?_⟩
  intro rendered
  have lossless := (rendered_iff Toml.layout ⟨false, "172.17.0.1"⟩ (by decide) twinMirrors _
    (routes_filled none none twinMirrors _ rfl)
    (explicit_routes none none twinMirrors _ rfl)).mp rendered
  have settings := (lossless_routes_iff "172.17.0.1" none none twinMirrors _ rfl).mp lossless
  have distinct := (settings.routes _ List.mem_cons_self).distinct
  exact absurd distinct (by decide)

end ClusterApiForSlinky.RouteRendering
