import ClusterApiForSlinky.ConfigHandoff
import ClusterApiForSlinky.Effect
import ClusterApiForSlinky.OrderedMapping

/-!
The values that the overrides of the outer stack (stack.py) put into a
configuration: registry settings of a resolved port and images of a reference.
-/

namespace ClusterApiForSlinky.StackOverrides
open ModelCodec RegistrySetting WorkloadConfig ConfigHandoff

/-- The validation errors of an override. -/
inductive Failure where
  | invalidImageReference (reference : String)
  | invalidPort (port : Int)
  | invalidRegistry (name : String) (port : Int)
  deriving DecidableEq

/-! Settings of a resolved port. -/

def literalPort (port : Int) : Option Port :=
  if accepted : literalPortAccepts (.int port) = true then some ⟨.int port, accepted⟩ else none

def localPortRegistrySetting (port : Int) : Except Failure LocalPortRegistrySetting :=
  match literalPort port with
  | some port => .ok ⟨port⟩
  | none => .error (.invalidPort port)

def localCustomRegistrySetting (name : String) (port : Int) :
    Except Failure LocalCustomRegistrySetting :=
  match Constrained.check registryNameAccepts name, literalPort port with
  | some registryName, some port => .ok ⟨registryName, port⟩
  | _, _ => .error (.invalidRegistry name port)

theorem literalPort_value (port : Int) (setting : Port) (valid : literalPort port = some setting) :
    setting.value = .int port ∧ 0 < port := by
  unfold literalPort at valid
  simp only [Option.dite_none_right_eq_some, Option.some.injEq] at valid
  obtain ⟨accepted, rfl⟩ := valid
  exact ⟨rfl, of_decide_eq_true accepted⟩

theorem localPortRegistrySetting_ok (port : Int) (setting : LocalPortRegistrySetting)
    (valid : localPortRegistrySetting port = .ok setting) :
    setting.port.value = .int port ∧ 0 < port := by
  unfold localPortRegistrySetting at valid
  split at valid
  case h_1 checked ported =>
    cases valid
    exact literalPort_value port checked ported
  case h_2 => exact nomatch valid

theorem localCustomRegistrySetting_ok (name : String) (port : Int)
    (setting : LocalCustomRegistrySetting)
    (valid : localCustomRegistrySetting name port = .ok setting) :
    setting.registryName.text = name ∧ setting.port.value = .int port ∧ 0 < port := by
  unfold localCustomRegistrySetting at valid
  split at valid
  case h_1 registryName checked named ported =>
    cases valid
    exact ⟨(Constrained.check_eq_some _ _ _).mp named, literalPort_value port checked ported⟩
  case h_2 => exact nomatch valid

/-! Images. -/

def nonEmpty (chars : List Char) : Option NonEmptyStr :=
  Constrained.check (fun text => text ≠ "") (String.ofList chars)

theorem nonEmpty_text (chars : List Char) (text : NonEmptyStr) (checked : nonEmpty chars = some text) :
    text.text.toList = chars := by
  rw [(Constrained.check_eq_some _ _ _).mp checked, String.toList_ofList]

/-- `_slinky_image_config` of a reference that is given. -/
def slinkyImageConfig (reference : String) : Except Failure SlinkyImageConfig :=
  match Text.rpartition ':' reference.toList with
  | none => .error (.invalidImageReference reference)
  | some (repository, tag) =>
      match nonEmpty repository, nonEmpty tag with
      | some repository, some tag =>
          .ok { repository, tag := some tag, exactlyOne := Bool.noConfusion }
      | _, _ => .error (.invalidImageReference reference)

def optionalImageConfig : Option String → Except Failure (Option SlinkyImageConfig)
  | none => .ok none
  | some reference => (slinkyImageConfig reference).map some

/-- What stands before the tag stays in the repository. -/
theorem slinkyImageConfig_repository (start tag : String) (image : SlinkyImageConfig)
    (parsed : slinkyImageConfig (start ++ ":" ++ tag) = .ok image) :
    Text.startsWith image.repository.text start = true := by
  obtain ⟨sides, cut⟩ := Text.rpartition_of_mem ':' (':' :: tag.toList) List.mem_cons_self
  have whole : (start ++ ":" ++ tag).toList = start.toList ++ ':' :: tag.toList := by
    simp [String.toList_append]
  unfold slinkyImageConfig at parsed
  -- The last colon may stand inside the tag, never before it.
  rw [whole, Text.rpartition_append ':' start.toList _ sides cut] at parsed
  simp only at parsed
  split at parsed
  case h_1 repository _ named _ =>
    cases parsed
    rw [Text.startsWith_iff, nonEmpty_text _ _ named]
    exact List.prefix_append _ _
  case h_2 => exact nomatch parsed

end ClusterApiForSlinky.StackOverrides
