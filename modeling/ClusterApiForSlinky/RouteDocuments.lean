import ClusterApiForSlinky.LocalRegistryRoutes
import ClusterApiForSlinky.TomlEdits

/-!
The documents `_containerd_registry_commands` writes for containerd, before and after
the gateway has been put in:
stacks/workload_cluster/workload_cluster_infrastructure_local.py.
-/

namespace ClusterApiForSlinky.RouteDocuments
open ModelCodec RegistrySetting LocalRegistryRoutes

def registryHostMarker : String := "__CA4S_REGISTRY_HOST__"

def usesGateway (route : ContainerdRegistryConfig) : Bool :=
  route.hosts.any (fun host => host.gatewayPort.isSome)

/-- A formatted `gateway_port`. -/
def portText : Option StrictPositiveInt → String
  | some port => toString port.value
  | none => "None"

/-- The URL of a host, with this text where the gateway belongs. -/
def hostUrl (gateway : String) (host : ContainerdHostConfig) : String :=
  match host.url with
  | some url => url.text
  | none => host.scheme.text ++ "://" ++ gateway ++ ":" ++ portText host.gatewayPort

/-- `hosts`: of two hosts with one URL, the later one has its capabilities kept. -/
def hostTables (hosts : List ContainerdHostConfig) : Mapping String (List Capability) :=
  Mapping.ofItems (hosts.map (fun host => (hostUrl registryHostMarker host, host.capabilities)))

/-- `{"server": server, "host": hosts}`, where a table of tables is written as its
tables, each under both keys. -/
def hostsDocument (server : String) (hosts : List (String × List Capability)) : Toml.Document where
  entries := [("server", .text server)]
  tables := hosts.map (fun host =>
    ⟨["host", host.1], [("capabilities", .texts (host.2.map Capability.text))]⟩)

def routeDocument (route : ContainerdRegistryConfig) : Toml.Document :=
  hostsDocument route.server.text (hostTables route.hosts).entries

/-- A host name or an address. -/
def isHost (text : String) : Bool :=
  text ≠ "" && text.toList.all (fun char =>
    char.isAlphanum || char == '.' || char == ':' || char == '-')

/-- The server and every host of the route, with the gateway in its place. -/
def routedDocument (gateway : String) (route : ContainerdRegistryConfig) : Toml.Document :=
  hostsDocument route.server.text
    (route.hosts.map (fun host => (hostUrl gateway host, host.capabilities)))

/-- The marker stands somewhere in the text. -/
def Marked (text : String) : Prop := registryHostMarker.toList <:+: text.toList

/-- No two hosts of the route share a URL, and where the marker is replaced it stands for
the gateway only. -/
structure Lossless (gateway : String) (route : ContainerdRegistryConfig) : Prop where
  distinct : (route.hosts.map (hostUrl gateway)).Nodup
  unmarked : usesGateway route = true → ¬ Marked route.server.text ∧
    ∀ host ∈ route.hosts, ∀ url, host.url = some url → ¬ Marked url.text

/-- What stands in the file of a route. -/
def routeText (library : Toml.Library) (gateway : String) (route : ContainerdRegistryConfig) :
    String :=
  if usesGateway route then
    Text.replace (library.dumps (routeDocument route)) registryHostMarker gateway
  else library.dumps (routeDocument route)

/-! Documents of hosts. -/

theorem capability_text_injective : Function.Injective Capability.text := by
  intro left right same
  cases left <;> cases right <;> first | rfl | exact absurd same (by decide)

theorem hostsDocument_inj (server other : String) (hosts others : List (String × List Capability)) :
    hostsDocument server hosts = hostsDocument other others ↔ server = other ∧ hosts = others := by
  have tables : Function.Injective (fun host : String × List Capability =>
      (⟨["host", host.1], [("capabilities", .texts (host.2.map Capability.text))]⟩ :
        Toml.Table)) := by
    rintro ⟨url, capabilities⟩ ⟨second, more⟩ same
    simp only [Toml.Table.mk.injEq, List.cons.injEq, Prod.mk.injEq, Toml.Value.texts.injEq,
      and_true, true_and] at same
    obtain ⟨rfl, texts⟩ := same
    rw [List.map_injective_iff.mpr capability_text_injective texts]
  simp only [hostsDocument, Toml.Document.mk.injEq, List.cons.injEq, Prod.mk.injEq,
    Toml.Value.text.injEq, and_true, true_and]
  exact and_congr_right fun _ => (List.map_injective_iff.mpr tables).eq_iff

theorem entryPaths_hostsDocument (server : String) (hosts : List (String × List Capability)) :
    (hostsDocument server hosts).entryPaths =
      ["server"] :: (hosts.map Prod.fst).map (fun url => ["host", url, "capabilities"]) := by
  induction hosts with
  | nil => rfl
  | cons host rest ih =>
      simp only [Toml.Document.entryPaths, hostsDocument, List.map_cons, List.map_nil,
        List.flatMap_cons, List.singleton_append, List.cons.injEq, true_and] at ih ⊢
      exact ⟨rfl, ih⟩

theorem paths_hostsDocument (server : String) (hosts : List (String × List Capability)) :
    (hostsDocument server hosts).tables.map Toml.Table.path =
      (hosts.map Prod.fst).map (fun url => ["host", url]) := by
  simp [hostsDocument, Function.comp_def]

theorem valid_hostsDocument (server : String) (hosts : List (String × List Capability)) :
    (hostsDocument server hosts).Valid ↔ (hosts.map Prod.fst).Nodup := by
  have tables : ∀ table ∈ (hostsDocument server hosts).tables,
      ∃ url, table.path = ["host", url] := by
    intro table member
    obtain ⟨host, -, rfl⟩ := List.mem_map.mp member
    exact ⟨host.1, rfl⟩
  have named : Function.Injective (fun url : String => ["host", url]) := by
    intro left right same
    simpa using same
  have filled : Function.Injective (fun url : String => ["host", url, "capabilities"]) := by
    intro left right same
    simpa using same
  rw [Toml.Document.Valid, entryPaths_hostsDocument, paths_hostsDocument]
  constructor
  · rintro ⟨unique, -⟩
    exact (List.nodup_map_iff named).mp (List.nodup_append.mp unique).2.1
  · intro unique
    refine ⟨?_, ?_⟩
    · rw [List.cons_append, List.nodup_cons, List.nodup_append, List.nodup_map_iff named,
        List.nodup_map_iff filled]
      refine ⟨by simp, unique, unique, ?_⟩
      intro left first right second
      obtain ⟨url, -, rfl⟩ := List.mem_map.mp first
      obtain ⟨other, -, rfl⟩ := List.mem_map.mp second
      simp
    · intro path member table held
      obtain ⟨url, shape⟩ := tables table held
      rw [shape]
      rcases List.mem_cons.mp member with rfl | entry
      · simp [List.cons_prefix_cons]
      · obtain ⟨other, -, rfl⟩ := List.mem_map.mp entry
        simp [List.cons_prefix_cons]

theorem named_hostsDocument (server : String) (hosts : List (String × List Capability)) :
    (hostsDocument server hosts).Named := by
  intro table member
  obtain ⟨host, -, rfl⟩ := List.mem_map.mp member
  exact List.cons_ne_nil _ _

/-! Replacing the marker. -/

theorem marker_word : Toml.Word registryHostMarker :=
  ⟨⟨"_CA4S_REGISTRY_HOST__".toList, by decide⟩,
    List.all_eq_true.mp (show registryHostMarker.toList.all Toml.isWordChar = true by decide)⟩

theorem unmarked_of_not_mem (text : String) (free : '_' ∉ text.toList) : ¬ Marked text := by
  intro within
  exact free (within.subset (show '_' ∈ registryHostMarker.toList by decide))

theorem replace_unmarked (text gateway : String) (unmarked : ¬ Marked text) :
    Text.replace text registryHostMarker gateway = text := by
  rw [Text.replace, Text.replaceChars_absent _ _ _ unmarked, String.ofList_toList]

theorem nameChar_of_isHost (gateway : String) (host : isHost gateway = true) (char : Char)
    (member : char ∈ gateway.toList) : isNameChar char = true := by
  have named := List.all_eq_true.mp (Bool.and_eq_true_iff.mp host).2 char member
  simp only [isNameChar, Bool.or_eq_true] at named ⊢
  tauto

theorem plain_of_isHost (gateway : String) (host : isHost gateway = true) :
    Toml.Plain gateway := by
  intro char member
  have inside := nameChar_of_isHost gateway host char member
  have printed := nameChar_printed char inside
  have quote := nameChar_ne char '"' inside (by decide)
  have backslash := nameChar_ne char '\\' inside (by decide)
  have printable : Toml.isControl char = false := by
    simp only [Toml.isControl, Bool.or_eq_false_iff, Bool.and_eq_false_iff,
      decide_eq_false_iff_not, beq_eq_false_iff_ne]
    omega
  simp [Toml.isPlain, printable, quote, backslash]

theorem marker_ne_host (gateway : String) (host : isHost gateway = true) :
    registryHostMarker.toList ≠ gateway.toList := by
  intro same
  have named := List.all_eq_true.mp (Bool.and_eq_true_iff.mp host).2
  rw [← same] at named
  exact absurd (named '_' (by decide)) (by decide)

theorem unmarked_of_replace (text gateway : String) (host : isHost gateway = true)
    (same : Text.replace text registryHostMarker gateway = text) : ¬ Marked text := by
  apply Text.absent_of_replaceChars _ _ marker_word.nonempty (marker_ne_host gateway host)
  rw [← Toml.toList_replace, same]

theorem replace_hostsDocument (gateway server : String) (hosts : List (String × List Capability)) :
    (hostsDocument server hosts).replace registryHostMarker gateway =
      hostsDocument (Text.replace server registryHostMarker gateway)
        (hosts.map (fun host => (Text.replace host.1 registryHostMarker gateway, host.2))) := by
  have keys : ∀ key ∈ ["server", "host", "capabilities"],
      Text.replace key registryHostMarker gateway = key := by
    have every : ∀ key ∈ ["server", "host", "capabilities"], '_' ∉ key.toList := by decide
    intro key member
    exact replace_unmarked key gateway (unmarked_of_not_mem key (every key member))
  have capabilities : ∀ capability : Capability,
      Text.replace capability.text registryHostMarker gateway = capability.text := by
    intro capability
    have free : '_' ∉ capability.text.toList := by cases capability <;> decide
    exact replace_unmarked _ gateway (unmarked_of_not_mem _ free)
  simp only [List.forall_mem_cons] at keys
  simp [hostsDocument, Toml.Document.replace, Toml.Entry.replace, Toml.Table.replace,
    Toml.Value.replace, Function.comp_def, keys, capabilities]

theorem colon_mem_url (url : RegistryURL) : ':' ∈ url.text.toList := by
  obtain ⟨text, accepted⟩ := url
  by_contra absent
  unfold registryUrlAccepts at accepted
  split at accepted
  · cases accepted
  · next parsed read =>
      rw [Urls.urlsplit_colonless Urls.asciiTables text.toList parsed absent read] at accepted
      cases accepted

theorem portText_unmarked (port : Option StrictPositiveInt) : '_' ∉ (portText port).toList := by
  cases port with
  | none => decide
  | some port =>
      obtain ⟨value, positive⟩ := port
      obtain ⟨natural, rfl⟩ := Int.eq_ofNat_of_zero_le (Int.le_of_lt positive)
      intro member
      exact absurd (Text.digit_of_mem_decimal natural '_' member) (by decide)

/-- The marker of a host that uses the gateway gives way to the gateway. -/
theorem replace_gatewayUrl (gateway : String) (host : ContainerdHostConfig)
    (direct : host.url = none) :
    Text.replace (hostUrl registryHostMarker host) registryHostMarker gateway =
      hostUrl gateway host := by
  have scheme : '_' ∉ (host.scheme.text ++ "://").toList := by
    cases host.scheme <;> decide
  have port : '_' ∉ (":" ++ portText host.gatewayPort).toList := by
    rw [String.toList_append, List.mem_append, not_or]
    exact ⟨by decide, portText_unmarked host.gatewayPort⟩
  have shape (middle : String) : hostUrl middle host =
      (host.scheme.text ++ "://") ++ middle ++ (":" ++ portText host.gatewayPort) := by
    rw [hostUrl, direct]
    simp only [String.append_assoc]
  have last := marker_word.replace_append gateway _ [] port
  rw [shape, shape, ← String.toList_inj, Toml.toList_replace]
  simp only [String.toList_append] at scheme port last ⊢
  rw [List.append_assoc, marker_word.replace_append gateway _ _ scheme,
    Text.replaceChars_match _ _ marker_word.nonempty]
  rw [List.append_nil] at last
  rw [last]
  simp [Text.replaceChars]

theorem hostUrl_direct (gateway : String) (host : ContainerdHostConfig) (url : RegistryURL)
    (direct : host.url = some url) : hostUrl gateway host = url.text := by
  rw [hostUrl, direct]

theorem colon_mem_hostUrl (gateway : String) (host : ContainerdHostConfig) :
    ':' ∈ (hostUrl gateway host).toList := by
  cases direct : host.url with
  | some url =>
      rw [hostUrl_direct gateway host url direct]
      exact colon_mem_url url
  | none =>
      rw [hostUrl, direct]
      simp

theorem isBareKey_hostUrl (gateway : String) (host : ContainerdHostConfig) :
    Toml.isBareKey (hostUrl gateway host) = false := by
  rw [Toml.isBareKey, Bool.and_eq_false_iff, List.all_eq_false]
  exact .inr ⟨':', colon_mem_hostUrl gateway host, by decide⟩

/-- Only the fixed keys are written without quotes. -/
theorem quotes_routeDocument (route : ContainerdRegistryConfig) :
    (routeDocument route).Quotes registryHostMarker := by
  intro key member inside
  have fixed : ∀ key ∈ ["server", "host", "capabilities"], '_' ∉ key.toList := by decide
  have url : ∀ table ∈ (hostTables route.hosts).entries, key ≠ table.1 := by
    rintro table held rfl
    have named := List.mem_map_of_mem (f := Prod.fst) held
    rcases (Mapping.mem_keys_assignAll _ _ _).mp named with empty | item
    · cases empty
    · obtain ⟨_, paired, same⟩ := List.mem_map.mp item
      obtain ⟨host, -, rfl⟩ := List.mem_map.mp paired
      rw [← same, isBareKey_hostUrl] at inside
      cases inside
  have known : key ∈ ["server", "host", "capabilities"] := by
    rcases List.mem_append.mp member with root | nested
    · rw [List.mem_singleton.mp root]
      exact List.mem_cons_self
    · obtain ⟨table, held, named⟩ := List.mem_flatMap.mp nested
      obtain ⟨host, listed, rfl⟩ := List.mem_map.mp held
      simp only [List.map_cons, List.map_nil, List.cons_append, List.nil_append, List.mem_cons,
        List.not_mem_nil, or_false] at named ⊢
      rcases named with same | same | same
      · exact .inr (.inl same)
      · exact absurd same (url host listed)
      · exact .inr (.inr same)
  exact unmarked_of_not_mem key (fixed key known)

/-! What is loaded from the file of a route. -/

def substituted (gateway : String) (route : ContainerdRegistryConfig) (text : String) : String :=
  if usesGateway route then Text.replace text registryHostMarker gateway else text

def substitutedDocument (gateway : String) (route : ContainerdRegistryConfig) : Toml.Document :=
  hostsDocument (substituted gateway route route.server.text)
    ((hostTables route.hosts).entries.map
      (fun table => (substituted gateway route table.1, table.2)))

theorem routeText_eq (library : Toml.Library) (gateway : String) (host : isHost gateway = true)
    (route : ContainerdRegistryConfig) :
    routeText library gateway route = library.dumps (substitutedDocument gateway route) := by
  unfold routeText substitutedDocument substituted
  cases usesGateway route with
  | true =>
      rw [if_pos rfl, if_pos rfl, library.substitutes _ _ _ marker_word
        (plain_of_isHost gateway host) (quotes_routeDocument route), routeDocument,
        replace_hostsDocument]
      rfl
  | false =>
      simp only [Bool.false_eq_true, if_false, List.map_id']
      rfl

theorem direct_of_not_usesGateway (route : ContainerdRegistryConfig)
    (unused : usesGateway route = false) (host : ContainerdHostConfig)
    (member : host ∈ route.hosts) : ∃ url, host.url = some url := by
  have port : ¬ host.gatewayPort.isSome = true := List.any_eq_false.mp unused host member
  have exactly := host.exactlyOne
  cases direct : host.url with
  | some url => exact ⟨url, rfl⟩
  | none => simp_all

/-- The substitution leaves the server alone and gives every host its URL exactly when
the marker stands for the gateway only. -/
theorem substituted_iff (gateway : String) (host : isHost gateway = true)
    (route : ContainerdRegistryConfig) :
    (substituted gateway route route.server.text = route.server.text ∧
      ∀ host ∈ route.hosts,
        substituted gateway route (hostUrl registryHostMarker host) = hostUrl gateway host) ↔
      (usesGateway route = true → ¬ Marked route.server.text ∧
        ∀ host ∈ route.hosts, ∀ url, host.url = some url → ¬ Marked url.text) := by
  unfold substituted
  cases used : usesGateway route with
  | true =>
      simp only [if_true, forall_const]
      constructor
      · rintro ⟨server, urls⟩
        refine ⟨unmarked_of_replace _ gateway host server, ?_⟩
        intro member held url direct
        have same := urls member held
        rw [hostUrl_direct _ member url direct, hostUrl_direct _ member url direct] at same
        exact unmarked_of_replace _ gateway host same
      · rintro ⟨server, urls⟩
        refine ⟨replace_unmarked _ gateway server, ?_⟩
        intro member held
        cases direct : member.url with
        | some url =>
            rw [hostUrl_direct _ member url direct, hostUrl_direct _ member url direct]
            exact replace_unmarked _ gateway (urls member held url direct)
        | none => exact replace_gatewayUrl gateway member direct
  | false =>
      simp only [Bool.false_eq_true, if_false, true_and, false_implies, iff_true]
      intro member held
      obtain ⟨url, direct⟩ := direct_of_not_usesGateway route used member held
      rw [hostUrl_direct _ member url direct, hostUrl_direct _ member url direct]

/-- The tables of a route are its hosts, unless two of them have one URL. -/
theorem tables_iff (gateway : String) (change : String → String)
    (hosts : List ContainerdHostConfig) :
    (((hostTables hosts).entries.map (fun table => (change table.1, table.2)) =
        hosts.map (fun host => (hostUrl gateway host, host.capabilities))) ∧
      (hosts.map (hostUrl gateway)).Nodup) ↔
      (∀ host ∈ hosts, change (hostUrl registryHostMarker host) = hostUrl gateway host) ∧
        (hosts.map (hostUrl gateway)).Nodup := by
  have kept (unique : (hosts.map (hostUrl registryHostMarker)).Nodup) :
      (hostTables hosts).entries =
        hosts.map (fun host => (hostUrl registryHostMarker host, host.capabilities)) := by
    apply Mapping.entries_ofItems
    simpa [Function.comp_def] using unique
  apply and_congr_left
  intro distinct
  constructor
  · intro same
    have level : (hostTables hosts).entries.length =
        (hosts.map (fun host => (hostUrl registryHostMarker host, host.capabilities))).length := by
      simpa using congrArg List.length same
    have unique := Mapping.nodup_of_length_ofItems _ level
    rw [List.map_map] at unique
    rw [kept unique, List.map_map, List.map_inj_left] at same
    intro host member
    exact congrArg Prod.fst (same host member)
  · intro each
    have renamed : (hosts.map (hostUrl registryHostMarker)).map change =
        hosts.map (hostUrl gateway) := by
      rw [List.map_map]
      exact List.map_congr_left each
    rw [← renamed] at distinct
    rw [kept distinct.of_map, List.map_map]
    apply List.map_congr_left
    intro host member
    exact Prod.ext (each host member) rfl

/-- The file of a route holds the route exactly when the route is lossless. -/
theorem loads_routeText_iff (library : Toml.Library) (gateway : String)
    (host : isHost gateway = true) (route : ContainerdRegistryConfig) :
    library.loads (routeText library gateway route) = some (routedDocument gateway route) ↔
      Lossless gateway route := by
  have urls : (route.hosts.map (fun host => (hostUrl gateway host, host.capabilities))).map
      Prod.fst = route.hosts.map (hostUrl gateway) := by simp [Function.comp_def]
  rw [routeText_eq library gateway host, substitutedDocument,
    library.reads _ (named_hostsDocument _ _), routedDocument]
  have read : ∀ left right : Toml.Document,
      (if left.Valid then some left else none) = some right ↔ left = right ∧ right.Valid := by
    intro left right
    simp only [Option.ite_none_right_eq_some, Option.some.injEq]
    constructor
    · rintro ⟨valid, rfl⟩
      exact ⟨rfl, valid⟩
    · rintro ⟨rfl, valid⟩
      exact ⟨valid, rfl⟩
  rw [read, hostsDocument_inj, valid_hostsDocument, urls, and_assoc, tables_iff, ← and_assoc,
    substituted_iff gateway host route]
  constructor
  · rintro ⟨unmarked, distinct⟩
    exact ⟨distinct, unmarked⟩
  · rintro ⟨distinct, unmarked⟩
    exact ⟨unmarked, distinct⟩

end ClusterApiForSlinky.RouteDocuments
