import ClusterApiForSlinky.ModelCodec
import ClusterApiForSlinky.Text

/-!
The constrained types of lib/config.py and their codecs.
-/

namespace ClusterApiForSlinky

/-- A string that passes a check. -/
structure Constrained (accepts : String → Bool) where
  text : String
  accepted : accepts text = true
  deriving DecidableEq

def Constrained.check (accepts : String → Bool) (text : String) : Option (Constrained accepts) :=
  if accepted : accepts text = true then some ⟨text, accepted⟩ else none

theorem Constrained.check_eq_some (accepts : String → Bool) (text : String)
    (value : Constrained accepts) :
    Constrained.check accepts text = some value ↔ value.text = text := by
  unfold Constrained.check
  constructor
  · intro checked
    simp only [Option.dite_none_right_eq_some, Option.some.injEq] at checked
    obtain ⟨_, rfl⟩ := checked
    rfl
  · rintro rfl
    exact dif_pos value.accepted

abbrev NonEmptyStr := Constrained (fun text => text ≠ "")

structure StrictPositiveInt where
  value : Int
  positive : 0 < value
  deriving DecidableEq

namespace ConfigModel
open ModelCodec

variable {Env : Type}

def constrained {accepts : String → Bool} : Codec Env (Constrained accepts) :=
  leaf (fun value => .str value.text)
    (fun json => match json with
      | .str text => if accepted : accepts text = true then some ⟨text, accepted⟩ else none
      | _ => none)
    (fun value => by simp [value.accepted])

theorem solid_constrained {accepts : String → Bool} :
    (constrained : Codec Env (Constrained accepts)).Solid :=
  solid_leaf _ _ _ (fun _ => nofun)

abbrev optionalText : Codec Env (Option NonEmptyStr) := constrained.optional solid_constrained

/-- Keys that pass a check. -/
def constrainedKey (accepts : String → Bool) : TextKey (Constrained accepts) where
  text name := name.text
  read text := if accepted : accepts text = true then some ⟨text, accepted⟩ else none
  exact name := by simp [name.accepted]

def positiveInt : Codec Env StrictPositiveInt :=
  leaf (fun value => .int value.value)
    (fun json => match json with
      | .int value => if positive : 0 < value then some ⟨value, positive⟩ else none
      | _ => none)
    (fun value => by simp [value.positive])

/-- A `Literal` with one value, the discriminator of a union. -/
def tag (text : String) : Codec Env Unit :=
  literal (fun _ => text) (fun label => if label = text then some () else none) (by simp)

theorem solid_positiveInt : (positiveInt : Codec Env StrictPositiveInt).Solid :=
  solid_leaf _ _ _ (fun _ => nofun)

theorem exact_constrained {accepts : String → Bool} :
    (constrained : Codec Env (Constrained accepts)).Exact := fun _ _ _ => rfl

theorem exact_positiveInt : (positiveInt : Codec Env StrictPositiveInt).Exact := fun _ _ _ => rfl

theorem exact_tag (text : String) : (tag text : Codec Env Unit).Exact := fun _ _ _ => rfl

end ConfigModel
end ClusterApiForSlinky
