import ClusterApiForSlinky.ConfigModel
import ClusterApiForSlinky.LocalEnv
import ClusterApiForSlinky.Urls

/-!
Registry coordinates and containerd routes:
stacks/workload_cluster/registry_setting.py.
-/

namespace ClusterApiForSlinky.RegistrySetting
open ModelCodec ConfigModel LocalEnv Urls

/-! Checked texts. -/

def isNameChar (char : Char) : Bool :=
  char.isAlphanum || char == '.' || char == '_' || char == ':' || char == '-'

/-- `^[A-Za-z0-9][A-Za-z0-9._:-]*$`. -/
def registryNameAccepts (text : String) : Bool :=
  match text.toList with
  | [] => false
  | first :: rest => first.isAlphanum && rest.all isNameChar

abbrev RegistryName := Constrained registryNameAccepts

/-- `_registry_url`; a host name counts only by whether there is one, so that it
does not matter how it is lower-cased. -/
def registryUrlAccepts (value : String) : Bool :=
  match asciiTables.urlsplit value.toList with
  | none => false
  | some parsed =>
      (parsed.scheme == "http".toList || parsed.scheme == "https".toList) &&
        (parsed.hostname asciiTables).isSome && (parsed.username.getD []).isEmpty &&
        (parsed.password.getD []).isEmpty && parsed.query.isEmpty && parsed.fragment.isEmpty &&
        !value.toList.any Text.isSpace

abbrev RegistryURL := Constrained registryUrlAccepts

/-! Routes. -/

inductive Scheme where
  | http
  | https
  deriving DecidableEq

def Scheme.text : Scheme → String
  | .http => "http"
  | .https => "https"

def Scheme.read (label : String) : Option Scheme :=
  if label = "http" then some .http else if label = "https" then some .https else none

def scheme : Codec Environment Scheme :=
  literal Scheme.text Scheme.read (fun value => by cases value <;> decide)

inductive Capability where
  | pull
  | resolve
  | push
  deriving DecidableEq

def Capability.text : Capability → String
  | .pull => "pull"
  | .resolve => "resolve"
  | .push => "push"

def Capability.read (label : String) : Option Capability :=
  if label = "pull" then some .pull
  else if label = "resolve" then some .resolve
  else if label = "push" then some .push
  else none

def capability : Codec Environment Capability :=
  literal Capability.text Capability.read (fun value => by cases value <;> decide)

/-- A gateway port is compared with others, so only integers are accepted. -/
structure ContainerdHostConfig where
  url : Option RegistryURL := none
  gatewayPort : Option StrictPositiveInt := none
  scheme : Scheme := .http
  capabilities : List Capability := [.pull, .resolve]
  exactlyOne : url.isSome ≠ gatewayPort.isSome
  unique : capabilities ≠ [] ∧ capabilities.Nodup
  deriving DecidableEq

abbrev HostParts := ((((Unit × Option RegistryURL) × Option StrictPositiveInt) × Scheme) ×
  List Capability)

def hostFields : Fields Environment HostParts :=
  Fields.nil
  |>.snoc (.static (key "url") (constrained.optional solid_constrained) false none)
  |>.snoc (.static (key "gateway_port") (positiveInt.optional solid_positiveInt) false none)
  |>.snoc (.static (key "scheme") scheme false .http)
  |>.snoc (.static (key "capabilities") capability.tuple false [.pull, .resolve])

def hostShape : Shape ContainerdHostConfig HostParts where
  parts host := (((((), host.url), host.gatewayPort), host.scheme), host.capabilities)
  build := fun ((((_, url), gatewayPort), scheme), capabilities) =>
    if valid : url.isSome ≠ gatewayPort.isSome ∧ capabilities ≠ [] ∧ capabilities.Nodup then
      some { url, gatewayPort, scheme, capabilities, exactlyOne := valid.1, unique := valid.2 }
    else none
  rebuild host := by simp [host.exactlyOne, host.unique]
  reads := by
    rintro ⟨⟨⟨⟨⟨⟩, url⟩, gatewayPort⟩, scheme⟩, capabilities⟩ host built
    simp only [Option.dite_none_right_eq_some, Option.some.injEq] at built
    obtain ⟨_, rfl⟩ := built
    rfl

def host : Codec Environment ContainerdHostConfig :=
  (hostFields.codec (by decide)).shaped hostShape

theorem exact_scheme : scheme.Exact := fun _ _ _ => rfl
theorem exact_capability : capability.Exact := fun _ _ _ => rfl

theorem exact_host : host.Exact := by
  apply exact_shaped
  apply exact_codec
  apply_rules [exact_static_optional, exact_static, exact_snoc, exact_nil, exact_constrained,
    exact_positiveInt, exact_scheme, exact_tuple, exact_capability]

abbrev RegistryParts := (Unit × RegistryURL) × List ContainerdHostConfig

def endpoint (host : ContainerdHostConfig) : Option RegistryURL × Option StrictPositiveInt × Scheme :=
  (host.url, host.gatewayPort, host.scheme)

structure ContainerdRegistryConfig where
  server : RegistryURL
  hosts : List ContainerdHostConfig := []
  unique : (hosts.map endpoint).Nodup
  deriving DecidableEq

def registryFields : Fields Environment RegistryParts :=
  Fields.nil
  |>.snoc (.required (key "server") constrained)
  |>.snoc (.static (key "hosts") host.tuple false [])

def registryShape : Shape ContainerdRegistryConfig RegistryParts where
  parts registry := (((), registry.server), registry.hosts)
  build := fun ((_, server), hosts) =>
    if unique : (hosts.map endpoint).Nodup then some { server, hosts, unique } else none
  rebuild registry := by simp [registry.unique]
  reads := by
    rintro ⟨⟨⟨⟩, server⟩, hosts⟩ registry built
    simp only [Option.dite_none_right_eq_some, Option.some.injEq] at built
    obtain ⟨_, rfl⟩ := built
    rfl

def registry : Codec Environment ContainerdRegistryConfig :=
  (registryFields.codec (by decide)).shaped registryShape

theorem exact_registry : registry.Exact := by
  apply exact_shaped
  apply exact_codec
  apply_rules [exact_required, exact_static, exact_snoc, exact_nil, exact_constrained,
    exact_tuple, exact_host]

/-! The two settings of a local cluster. -/

/-- `_validate_literal_port`: `null`, lists and dictionaries pass. -/
def literalPortAccepts : Json → Bool
  | .int value => 0 < value
  | .bool _ | .str _ | .real _ => false
  | .null | .list _ | .dict _ => true

structure Port where
  value : Json
  accepted : literalPortAccepts value = true
  deriving DecidableEq

def port : Codec Environment Port where
  encode _ _ port := some port.value
  decode _ json := if accepted : literalPortAccepts json = true then some ⟨json, accepted⟩ else none
  absent port := port.value = .null
  refresh _ _ port := some port
  law _ _ _ port := by simp [port.accepted]

structure LocalPortRegistrySetting where
  port : Port
  deriving DecidableEq

def localPortFields : Fields Environment ((Unit × Unit) × Port) :=
  Fields.nil
  |>.snoc (.static (key "kind") (tag "local-port") true ())
  |>.snoc (.required (key "port") port)

def localPortShape : Shape LocalPortRegistrySetting ((Unit × Unit) × Port) where
  parts setting := (((), ()), setting.port)
  build parts := some ⟨parts.2⟩
  rebuild _ := rfl
  reads := by
    rintro _ _ ⟨⟩
    rfl

def localPort : Codec Environment LocalPortRegistrySetting :=
  (localPortFields.codec (by decide)).shaped localPortShape

structure LocalCustomRegistrySetting where
  registryName : RegistryName
  port : Port
  deriving DecidableEq

def customRegistryFields : Fields Environment ((Unit × RegistryName) × Port) :=
  Fields.nil
  |>.snoc (.required (key "registry_name") constrained)
  |>.snoc (.required (key "port") port)

def customRegistryShape : Shape LocalCustomRegistrySetting ((Unit × RegistryName) × Port) where
  parts setting := (((), setting.registryName), setting.port)
  build parts := some ⟨parts.1.2, parts.2⟩
  rebuild _ := rfl
  reads := by
    rintro _ _ ⟨⟩
    rfl

def customRegistry : Codec Environment LocalCustomRegistrySetting :=
  (customRegistryFields.codec (by decide)).shaped customRegistryShape

theorem solid_localPort : localPort.Solid := solid_shaped _ _ (solid_codec _ _)
theorem solid_customRegistry : customRegistry.Solid := solid_shaped _ _ (solid_codec _ _)

/-- A port of `null` is dropped when the setting is dumped, and is then missing. -/
theorem keeps_port (outer inner : Environment) {Before : Type} (before : Before) (value : Port) :
    (Field.required (key "port") port : Field Environment Before Port).Keeps outer inner before
      value ↔ value.value ≠ .null := by
  rw [keeps_required]
  simp [port, Codec.Keeps]

theorem exact_localPortKind : (Fields.nil.snoc
    (.static (key "kind") (tag "local-port") true ()) : Fields Environment (Unit × Unit)).Exact := by
  apply_rules [exact_snoc, exact_nil, exact_static, exact_tag]

theorem exact_customRegistryName : (Fields.nil.snoc
    (.required (key "registry_name") constrained) :
      Fields Environment (Unit × RegistryName)).Exact := by
  apply_rules [exact_snoc, exact_nil, exact_required, exact_constrained]

theorem keeps_localPort (outer inner : Environment) (setting : LocalPortRegistrySetting) :
    localPort.Keeps outer inner setting ↔ setting.port.value ≠ .null := by
  unfold localPort
  rw [keeps_shaped]
  exact (keeps_last _ _ exact_localPortKind _ _ _ _).trans (keeps_port _ _ _ _)

theorem keeps_customRegistry (outer inner : Environment) (setting : LocalCustomRegistrySetting) :
    customRegistry.Keeps outer inner setting ↔ setting.port.value ≠ .null := by
  unfold customRegistry
  rw [keeps_shaped]
  exact (keeps_last _ _ exact_customRegistryName _ _ _ _).trans (keeps_port _ _ _ _)

theorem settles_port : port.Settles := by
  intro outer inner value fresh first _
  exact (Option.some.inj first).symm

theorem settles_localPort : localPort.Settles :=
  settles_shaped _ _ (settles_codec _ _ (settles_snoc _ _ exact_localPortKind.settles
    (settles_required _ _ settles_port)))

theorem settles_customRegistry : customRegistry.Settles :=
  settles_shaped _ _ (settles_codec _ _ (settles_snoc _ _ exact_customRegistryName.settles
    (settles_required _ _ settles_port)))

end ClusterApiForSlinky.RegistrySetting
