import ClusterApiForSlinky.OrderedMapping
import ClusterApiForSlinky.WorkloadConfig

/-!
The containerd routes of a Local workload cluster:
stacks/workload_cluster/workload_cluster_infrastructure_local.py.
-/

namespace ClusterApiForSlinky.LocalRegistryRoutes
open ModelCodec RegistrySetting Urls WorkloadConfig

def dockerIoServer : RegistryURL := ⟨"https://registry-1.docker.io", by decide⟩
def dockerHubPublicMirror : RegistryURL := ⟨"https://mirror.gcr.io", by decide⟩

/-- `ContainerdHostConfig(gateway_port=port)` -/
def gatewayHost (port : Port) : Option ContainerdHostConfig :=
  match port.value with
  | .int value =>
      if positive : 0 < value then
        some { gatewayPort := some ⟨value, positive⟩, exactlyOne := Bool.noConfusion
               unique := by decide }
      else none
  | _ => none

def directHost (url : RegistryURL) : ContainerdHostConfig :=
  { url := some url, exactlyOne := Bool.noConfusion, unique := by decide }

def singleHost (server : RegistryURL) (host : ContainerdHostConfig) : ContainerdRegistryConfig :=
  { server, hosts := [host], unique := List.nodup_singleton _ }

abbrev Routes := Mapping String ContainerdRegistryConfig

def dockerIoHost : Option LocalPortRegistrySetting → Option ContainerdHostConfig
  | some setting => gatewayHost setting.port
  | none => some (directHost dockerHubPublicMirror)

def endpoint (registryName : String) : String := registryName ++ ":5000"

def customRoute (setting : LocalCustomRegistrySetting) : Option ContainerdRegistryConfig :=
  match Constrained.check registryUrlAccepts ("http://" ++ endpoint setting.registryName.text),
      gatewayHost setting.port with
  | some server, some host => some (singleHost server host)
  | _, _ => none

def withCustomRoute (routes : Routes) : Option LocalCustomRegistrySetting → Option Routes
  | none => some routes
  | some setting => (customRoute setting).map (routes.set (endpoint setting.registryName.text))

theorem text_injective : Function.Injective (fun name : RegistryName => name.text) := by
  rintro ⟨left, _⟩ ⟨right, _⟩ same
  simpa using same

/-- `_local_registry_routes` -/
def localRegistryRoutes (registry : Option LocalPortRegistrySetting)
    (customRegistry : Option LocalCustomRegistrySetting) (overrides : RegistryRoutes) :
    Option Routes :=
  (dockerIoHost registry).bind (fun host =>
    (withCustomRoute (Mapping.set {} "docker.io" (singleHost dockerIoServer host))
      customRegistry).map (fun routes =>
        routes.update (overrides.mapKeys (fun name => name.text) text_injective)))

/-! The URL of a custom registry is always accepted. -/

theorem nameChar_printed (char : Char) (named : isNameChar char = true) :
    45 ≤ char.toNat ∧ char.toNat ≤ 122 := by
  have upper : char.isUpper = decide (65 ≤ char.toNat ∧ char.toNat ≤ 90) := rfl
  have lower : char.isLower = (decide (97 ≤ char.toNat) && decide (char.toNat ≤ 122)) := rfl
  have digit : char.isDigit = (decide (48 ≤ char.toNat) && decide (char.toNat ≤ 57)) := rfl
  have alphanum : char.isAlphanum = (char.isUpper || char.isLower || char.isDigit) := rfl
  simp only [isNameChar, alphanum, upper, lower, digit, Bool.or_eq_true, Bool.and_eq_true,
    decide_eq_true_eq, beq_iff_eq] at named
  rcases named with ((((letters | rfl) | rfl) | rfl) | rfl)
  · omega
  all_goals decide

theorem nameChar_not_space (char : Char) (named : isNameChar char = true) :
    Text.isSpace char = false := by
  have printed := nameChar_printed char named
  simp only [Text.isSpace, Bool.or_eq_false_iff, Bool.and_eq_false_iff, decide_eq_false_iff_not,
    beq_eq_false_iff_ne]
  omega

theorem nameChar_ne (char other : Char) (named : isNameChar char = true)
    (special : isNameChar other = false) : char ≠ other := by
  rintro rfl
  exact absurd named (Bool.eq_false_iff.mp special)

theorem not_mem_named (body : List Char) (named : ∀ char ∈ body, isNameChar char = true)
    (other : Char) (special : isNameChar other = false) : other ∉ body :=
  fun member => nameChar_ne other other (named other member) special rfl

/-- Nothing in a name is taken out of a URL or ends its authority. -/
theorem nameChar_quiet (char : Char) (named : isNameChar char = true) :
    isRemoved char = false ∧ endsNetloc char = false := by
  have ne := nameChar_ne char
  constructor
  · simp [isRemoved, ne '\t' named (by decide), ne '\r' named (by decide),
      ne '\n' named (by decide)]
  · simp [endsNetloc, ne '/' named (by decide), ne '?' named (by decide), ne '#' named (by decide)]

theorem toList_http (body : List Char) : ("http://" ++ String.ofList body).toList =
    "http".toList ++ "://".toList ++ body := by
  simp

theorem urlsplit_http (body : List Char) (named : ∀ char ∈ body, isNameChar char = true) :
    asciiTables.urlsplit ("http://" ++ String.ofList body).toList =
      some { scheme := "http".toList, netloc := body, path := [], query := [], fragment := [] } := by
  have quiet := fun char member => nameChar_quiet char (named char member)
  have kept : body.filter (fun char => !isRemoved char) = body := by
    rw [List.filter_eq_self]
    intro char member
    rw [(quiet char member).1]
    rfl
  have inside : ∀ char ∈ body, (!endsNetloc char) = true := by
    intro char member
    rw [(quiet char member).2]
    rfl
  have netloc : body.takeWhile (fun char => !endsNetloc char) = body :=
    List.takeWhile_eq_self_iff.mpr inside
  have tail : body.dropWhile (fun char => !endsNetloc char) = [] :=
    List.dropWhile_eq_nil_iff.mpr inside
  have opening := not_mem_named body named '[' (by decide)
  have closing := not_mem_named body named ']' (by decide)
  have ascii : ∀ char ∈ body, char.toNat < 128 := by
    intro char member
    have printed := nameChar_printed char (named char member)
    omega
  have admitted : asciiTables.admits body = true := by
    simp only [Tables.admits, List.contains_eq_mem, opening, closing]
    simpa using fun char member => Or.inl (ascii char member)
  rw [toList_http, urlsplit_schemed asciiTables "http".toList body (by decide) (by decide)]
  simp only [kept, netloc, tail, admitted, if_true]
  rfl

theorem accepts_http (first : Char) (rest : List Char) (start : first ≠ ':')
    (named : ∀ char ∈ first :: rest, isNameChar char = true) :
    registryUrlAccepts ("http://" ++ String.ofList (first :: rest)) = true := by
  have free := not_mem_named (first :: rest) named
  -- Without an `@` there is no userinfo, and the whole netloc is the host.
  have whole : Text.rpartition '@' (first :: rest) = none :=
    Text.rpartition_of_not_mem '@' _ (free '@' (by decide))
  have host : (hostAndPort (hostInfo (first :: rest))).1 ≠ [] := by
    simp [hostInfo, whole, hostAndPort, before, free '[' (by decide), start]
  have plain : ∀ char ∈ first :: rest, Text.isSpace char = false := by
    intro char member
    exact nameChar_not_space char (named char member)
  have scheme : ("http".toList ++ "://".toList).any Text.isSpace = false := by decide
  -- The scheme is checked by computation, the name character by character.
  have spaceless : ("http://" ++ String.ofList (first :: rest)).toList.any Text.isSpace =
      false := by
    rw [toList_http, List.any_append, scheme, Bool.false_or, List.any_eq_false]
    intro char member
    rw [plain char member]
    exact Bool.false_ne_true
  unfold registryUrlAccepts
  rw [urlsplit_http _ named, spaceless]
  simp [SplitResult.hostname, SplitResult.username, SplitResult.password, userInfo, whole, host]

theorem accepts_endpoint (name : RegistryName) :
    registryUrlAccepts ("http://" ++ endpoint name.text) = true := by
  obtain ⟨text, accepted⟩ := name
  unfold registryNameAccepts at accepted
  split at accepted
  case h_1 => exact nomatch accepted
  case h_2 first rest shape =>
    obtain ⟨alphanumeric, named⟩ := Bool.and_eq_true_iff.mp accepted
    have whole : endpoint text = String.ofList (first :: (rest ++ ":5000".toList)) := by
      apply String.toList_inj.mp
      simp [endpoint, shape]
    rw [whole]
    apply accepts_http
    · rintro rfl
      exact absurd alphanumeric (by decide)
    · intro char member
      rw [← List.cons_append] at member
      rcases List.mem_append.mp member with given | fixed
      · rcases List.mem_cons.mp given with rfl | later
        · simp [isNameChar, alphanumeric]
        · exact List.all_eq_true.mp named char later
      · have ported : ":5000".toList.all isNameChar = true := by decide
        exact List.all_eq_true.mp ported char fixed

/-! What the routes of a cluster name. -/

theorem gatewayHost_of_int (port : Port) (value : Int) (literal : port.value = .int value)
    (positive : 0 < value) :
    ∃ host, gatewayHost port = some host ∧ host.gatewayPort = some ⟨value, positive⟩ := by
  unfold gatewayHost
  rw [literal]
  exact ⟨_, dif_pos positive, rfl⟩

theorem customRoute_of_int (setting : LocalCustomRegistrySetting) (value : Int)
    (literal : setting.port.value = .int value) (positive : 0 < value) :
    ∃ route, customRoute setting = some route ∧
      route.hosts.map ContainerdHostConfig.gatewayPort = [some ⟨value, positive⟩] := by
  obtain ⟨host, gateway, port⟩ := gatewayHost_of_int setting.port value literal positive
  have server : Constrained.check registryUrlAccepts
      ("http://" ++ endpoint setting.registryName.text) =
        some ⟨_, accepts_endpoint setting.registryName⟩ := dif_pos _
  refine ⟨singleHost ⟨_, accepts_endpoint setting.registryName⟩ host, ?_, ?_⟩
  · unfold customRoute
    rw [server, gateway]
  · simp [singleHost, port]

theorem endpoint_ne_docker (registryName : String) : endpoint registryName ≠ "docker.io" := by
  intro same
  have last := congrArg (fun text => text.toList.getLast?) same
  simp [endpoint] at last

theorem endpoint_inj (left right : String) :
    endpoint left = endpoint right ↔ left = right := String.append_left_inj _

theorem lookup_override (overrides : RegistryRoutes) (name : RegistryName)
    (route : ContainerdRegistryConfig) (member : (name, route) ∈ overrides.entries) :
    (overrides.mapKeys (fun name => name.text) text_injective).lookup name.text = some route :=
  Mapping.lookup_of_mem _ _ _
    (List.mem_map_of_mem (f := fun entry => (entry.1.text, entry.2)) member)

theorem lookup_override_none (overrides : RegistryRoutes) (name : String) :
    (overrides.mapKeys (fun name => name.text) text_injective).lookup name = none ↔
      ∀ key ∈ overrides.keys, key.text ≠ name := by
  rw [Mapping.lookup_eq_none, Mapping.mem_keys_mapKeys]
  constructor
  · intro absent key member same
    exact absent ⟨key, member, same⟩
  · rintro free ⟨key, member, same⟩
    exact free key member same

/-- A registry that the cluster's own routes do not name is routed only when it is
the custom registry of the cluster. -/
theorem lookup_localRegistryRoutes (registry : LocalPortRegistrySetting)
    (setting : LocalCustomRegistrySetting) (overrides : RegistryRoutes) (cachePort port : Int)
    (cacheLiteral : registry.port.value = .int cachePort) (cachePositive : 0 < cachePort)
    (literal : setting.port.value = .int port) (positive : 0 < port) :
    ∃ routes, localRegistryRoutes (some registry) (some setting) overrides = some routes ∧
      ∀ name, (∀ key ∈ overrides.keys, key.text ≠ endpoint name) →
        if name = setting.registryName.text then
          ∃ route, routes.lookup (endpoint name) = some route ∧
            route.hosts.map ContainerdHostConfig.gatewayPort = [some ⟨port, positive⟩]
        else routes.lookup (endpoint name) = none := by
  obtain ⟨host, gateway, -⟩ := gatewayHost_of_int registry.port cachePort cacheLiteral cachePositive
  obtain ⟨route, routed, ported⟩ := customRoute_of_int setting port literal positive
  refine ⟨((Mapping.set {} "docker.io" (singleHost dockerIoServer host)).set
    (endpoint setting.registryName.text) route).update
      (overrides.mapKeys (fun name => name.text) text_injective), ?_, ?_⟩
  · simp only [localRegistryRoutes, dockerIoHost, gateway, withCustomRoute, routed,
      Option.bind_some, Option.map_some]
  · intro name unnamed
    have free := (lookup_override_none overrides (endpoint name)).mpr unnamed
    -- The own routes are merged last, so they decide first; then the custom registry.
    rw [Mapping.lookup_update, free, Option.none_or, Mapping.lookup_set, Mapping.lookup_set]
    by_cases same : name = setting.registryName.text
    · rw [if_pos same, if_pos (congrArg endpoint same)]
      exact ⟨route, rfl, ported⟩
    · rw [if_neg same, if_neg (mt (endpoint_inj _ _).mp same),
        if_neg (endpoint_ne_docker name)]
      rfl

/-! The routes that were given and those that were generated. -/

theorem gatewayHost_url (port : Port) (host : ContainerdHostConfig)
    (made : gatewayHost port = some host) :
    host.url = none ∧ host.gatewayPort.isSome = true := by
  unfold gatewayHost at made
  split at made
  case h_1 value literal =>
    split at made
    case isTrue =>
      cases made
      exact ⟨rfl, rfl⟩
    case isFalse => cases made
  case h_2 => cases made

theorem customRoute_eq_some (setting : LocalCustomRegistrySetting)
    (route : ContainerdRegistryConfig) (made : customRoute setting = some route) :
    ∃ server host, route = singleHost server host ∧
      server.text = "http://" ++ endpoint setting.registryName.text ∧
      host.url = none ∧ host.gatewayPort.isSome = true := by
  unfold customRoute at made
  split at made
  case h_1 server host checked found =>
    obtain ⟨url, port⟩ := gatewayHost_url setting.port host found
    exact ⟨server, host, (Option.some.inj made).symm,
      (Constrained.check_eq_some _ _ server).mp checked, url, port⟩
  case h_2 => cases made

/-- The explicit routes are merged over those of Docker Hub and the custom registry. -/
theorem localRegistryRoutes_eq_some (registry : Option LocalPortRegistrySetting)
    (customRegistry : Option LocalCustomRegistrySetting) (overrides : RegistryRoutes)
    (routes : Routes)
    (generated : localRegistryRoutes registry customRegistry overrides = some routes) :
    ∃ host start base, dockerIoHost registry = some host ∧
      (∀ name, start.lookup name =
        if name = "docker.io" then some (singleHost dockerIoServer host) else none) ∧
      withCustomRoute start customRegistry = some base ∧
      routes = base.update (overrides.mapKeys (fun name => name.text) text_injective) := by
  obtain ⟨host, found, merged⟩ := Option.bind_eq_some_iff.mp generated
  obtain ⟨base, custom, same⟩ := Option.map_eq_some_iff.mp merged
  refine ⟨host, _, base, found, ?_, custom, same.symm⟩
  intro name
  exact Mapping.lookup_set _ "docker.io" name _

theorem lookup_custom (start base : Routes) (setting : LocalCustomRegistrySetting)
    (made : withCustomRoute start (some setting) = some base) :
    ∃ route, customRoute setting = some route ∧
      base.lookup (endpoint setting.registryName.text) = some route := by
  obtain ⟨route, custom, rfl⟩ := Option.map_eq_some_iff.mp made
  exact ⟨route, custom, (Mapping.lookup_set start _ _ route).trans (if_pos rfl)⟩

theorem lookup_withCustomRoute (start base : Routes)
    (customRegistry : Option LocalCustomRegistrySetting)
    (made : withCustomRoute start customRegistry = some base) (name : String)
    (route : ContainerdRegistryConfig) (found : base.lookup name = some route) :
    start.lookup name = some route ∨
      ∃ setting, customRegistry = some setting ∧ customRoute setting = some route ∧
        name = endpoint setting.registryName.text := by
  cases customRegistry with
  | none =>
      cases made
      exact .inl found
  | some setting =>
      obtain ⟨own, custom, rfl⟩ := Option.map_eq_some_iff.mp made
      rw [Mapping.lookup_set] at found
      by_cases same : name = endpoint setting.registryName.text
      · rw [if_pos same] at found
        cases found
        exact .inr ⟨setting, rfl, custom, same⟩
      · rw [if_neg same] at found
        exact .inl found

theorem explicit_routes (registry : Option LocalPortRegistrySetting)
    (customRegistry : Option LocalCustomRegistrySetting) (overrides : RegistryRoutes)
    (routes : Routes)
    (generated : localRegistryRoutes registry customRegistry overrides = some routes)
    (entry : RegistryName × ContainerdRegistryConfig) (member : entry ∈ overrides.entries) :
    routes.lookup entry.1.text = some entry.2 := by
  obtain ⟨_, _, base, -, -, -, rfl⟩ :=
    localRegistryRoutes_eq_some registry customRegistry overrides routes generated
  rw [Mapping.lookup_update, lookup_override overrides entry.1 entry.2 member]
  rfl

theorem routes_filled (registry : Option LocalPortRegistrySetting)
    (customRegistry : Option LocalCustomRegistrySetting) (overrides : RegistryRoutes)
    (routes : Routes)
    (generated : localRegistryRoutes registry customRegistry overrides = some routes) :
    routes.entries ≠ [] := by
  obtain ⟨host, start, base, -, first, custom, rfl⟩ :=
    localRegistryRoutes_eq_some registry customRegistry overrides routes generated
  have held : base.lookup "docker.io" = some (singleHost dockerIoServer host) := by
    have docker := (first "docker.io").trans (if_pos rfl)
    cases customRegistry with
    | none =>
        cases custom
        exact docker
    | some setting =>
        obtain ⟨own, -, rfl⟩ := Option.map_eq_some_iff.mp custom
        rw [Mapping.lookup_set, if_neg (endpoint_ne_docker _).symm, docker]
  intro empty
  have found := Mapping.lookup_update base
    (overrides.mapKeys (fun name => name.text) text_injective) "docker.io"
  rw [held, Mapping.lookup, empty] at found
  cases overridden :
      (overrides.mapKeys (fun name => name.text) text_injective).lookup "docker.io" with
  | none =>
      rw [overridden] at found
      cases found
  | some route =>
      rw [overridden] at found
      cases found

end ClusterApiForSlinky.LocalRegistryRoutes
