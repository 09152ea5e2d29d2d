import ClusterApiForSlinky.ArtifactPublishing
import ClusterApiForSlinky.StackOverrides

/-!
Image references between the two modules that print and parse them: a
publication outputs `server/repository:tag`, and stack.py cuts such a text at
its last colon. The colon is also what separates a server from its port.
-/

namespace ClusterApiForSlinky.ImageReferences
open StackOverrides ArtifactRegistry ArtifactPublishing

def consumerRef (session : Session) (ref : Ref) : String :=
  session.consumerServer ++ "/" ++ ref.repository ++ ":" ++ ref.tag

def tagStarts (char : Char) : Bool := char.isAlphanum || char == '_'

def tagContinues (char : Char) : Bool := tagStarts char || char == '.' || char == '-'

/-- A tag as image references allow it: `[A-Za-z0-9_][A-Za-z0-9_.-]{0,127}`. -/
def isTag (text : String) : Bool :=
  match text.toList with
  | [] => false
  | first :: rest => tagStarts first && rest.all tagContinues && decide (rest.length ≤ 127)

/-- The text after the last `/`. -/
def lastSegment (reference : String) : List Char := reference.toList.rtakeWhile (· ≠ '/')

def CarriesTag (reference : String) : Prop :=
  ∃ name tag, lastSegment reference = name ++ ':' :: tag ∧ ':' ∉ tag ∧ tag ≠ []

/-- Something stands before the last colon and a `/` after it: the colon of a port. -/
def EndsAfterPort (reference : String) : Prop :=
  ∃ server rest, reference.toList = server ++ ':' :: rest ∧ ':' ∉ rest ∧ '/' ∈ rest ∧ server ≠ []

/-- Only references with a tag are accepted, and they are cut without loss. -/
def AcceptsTagged (reference : String) : Prop :=
  ∀ image, slinkyImageConfig reference = .ok image →
    CarriesTag reference ∧
      ∃ tag, image.tag = some tag ∧ image.repository.text ++ ":" ++ tag.text = reference

def ParsedAs (reference repository tag : String) : Prop :=
  ∃ image, slinkyImageConfig reference = .ok image ∧ image.repository.text = repository ∧
    image.tag.map (·.text) = some tag ∧ image.digest = none

/-- Each reference a publication outputs for its consumers is read back. -/
def InvertsOutputs (recorded : Outputs) (commit : String) (tags : List Ref) : Prop :=
  ∃ references, (outputs recorded commit tags).artifactRefs = some references ∧
    List.Forall₂ (fun ref entry => isTag ref.tag = true →
      ParsedAs entry.2
        (recorded.props.destination.consumerServer.text ++ "/" ++ ref.repository) ref.tag)
      tags references

theorem tag_chars (text : String) (valid : isTag text = true) :
    text.toList ≠ [] ∧ ∀ char ∈ text.toList, tagContinues char = true := by
  unfold isTag at valid
  cases chars : text.toList with
  | nil =>
      rw [chars] at valid
      cases valid
  | cons first rest =>
      rw [chars] at valid
      simp only [Bool.and_eq_true, List.all_eq_true] at valid
      refine ⟨List.cons_ne_nil first rest, List.forall_mem_cons.mpr ⟨?_, valid.1.2⟩⟩
      simp [tagContinues, valid.1.1]

theorem tag_without (text : String) (valid : isTag text = true) (char : Char)
    (other : tagContinues char = false) : char ∉ text.toList := by
  intro member
  rw [(tag_chars text valid).2 char member] at other
  cases other

/-- Parsing succeeds exactly when the last colon has something on both sides. -/
theorem slinkyImageConfig_ok_iff (reference : String) (image : WorkloadConfig.SlinkyImageConfig) :
    slinkyImageConfig reference = .ok image ↔
      ∃ tag, image.tag = some tag ∧ image.digest = none ∧ ':' ∉ tag.text.toList ∧
        reference.toList = image.repository.text.toList ++ ':' :: tag.text.toList := by
  unfold slinkyImageConfig
  constructor
  · intro parsed
    cases cut : Text.rpartition ':' reference.toList with
    | none =>
        rw [cut] at parsed
        cases parsed
    | some sides =>
        obtain ⟨before, after⟩ := sides
        obtain ⟨whole, absent⟩ := (Text.rpartition_eq_some_iff _ _ _ _).mp cut
        simp only [cut] at parsed
        split at parsed
        case h_1 repository tag named tagged =>
          cases parsed
          refine ⟨tag, rfl, rfl, ?_, ?_⟩
          · rwa [nonEmpty_text _ _ tagged]
          · rw [nonEmpty_text _ _ named, nonEmpty_text _ _ tagged, whole]
        case h_2 => cases parsed
  · rintro ⟨tag, tagged, undigested, absent, whole⟩
    have cut := (Text.rpartition_eq_some_iff _ _ _ _).mpr ⟨whole, absent⟩
    have kept : ∀ text : NonEmptyStr, nonEmpty text.text.toList = some text := by
      intro text
      rw [nonEmpty, Constrained.check_eq_some, String.ofList_toList]
    obtain ⟨repository, imageTag, digest, exactlyOne⟩ := image
    dsimp only at tagged undigested whole cut
    subst tagged undigested
    simp only [cut, kept]

/-- A tag holds no colon, so the last colon of a printed reference is the one before it. -/
theorem printed_parsed (server repository tag : String) (valid : isTag tag = true) :
    ParsedAs (server ++ "/" ++ repository ++ ":" ++ tag) (server ++ "/" ++ repository) tag := by
  have absent : ':' ∉ tag.toList := tag_without tag valid ':' (by decide)
  have filled : tag ≠ "" := by
    rintro rfl
    cases valid
  have named : server ++ "/" ++ repository ≠ "" := by
    intro same
    have chars := congrArg String.toList same
    simp [String.toList_append] at chars
  refine ⟨{ repository := ⟨server ++ "/" ++ repository, decide_eq_true named⟩
            tag := some ⟨tag, decide_eq_true filled⟩
            exactlyOne := Bool.noConfusion }, ?_, rfl, rfl, rfl⟩
  rw [slinkyImageConfig_ok_iff]
  exact ⟨_, rfl, rfl, absent, by simp [String.toList_append]⟩

theorem lastSegment_of_colon (reference : String) (before after : List Char)
    (whole : reference.toList = before ++ ':' :: after) (inside : '/' ∉ after) :
    lastSegment reference = before.rtakeWhile (· ≠ '/') ++ ':' :: after := by
  have kept : ∀ char ∈ ':' :: after, (decide (char ≠ '/')) = true := by
    intro char member
    rcases List.mem_cons.mp member with rfl | later
    · rfl
    · exact decide_eq_true (fun same => inside (same ▸ later))
  unfold lastSegment List.rtakeWhile
  rw [whole, List.reverse_append, List.takeWhile_append_of_pos]
  · simp
  · exact fun char member => kept char (List.mem_reverse.mp member)

theorem lastSegment_after_slash (reference : String) (before after : List Char)
    (whole : reference.toList = before ++ '/' :: after) (inside : '/' ∉ after) :
    lastSegment reference = after := by
  have kept : ∀ char ∈ after.reverse, decide (char ≠ '/') = true := by
    intro char member
    exact decide_eq_true (fun same => inside (same ▸ List.mem_reverse.mp member))
  unfold lastSegment List.rtakeWhile
  rw [whole, List.reverse_append, List.reverse_cons, List.append_assoc,
    List.takeWhile_append_of_pos kept]
  simp

theorem acceptsTagged_iff (reference : String) :
    AcceptsTagged reference ↔ ¬ EndsAfterPort reference := by
  constructor
  · rintro accepts ⟨server, rest, whole, absent, slash, named⟩
    obtain ⟨sides, cut⟩ := Text.rpartition_of_mem '/' rest slash
    obtain ⟨same, inside⟩ := (Text.rpartition_eq_some_iff '/' rest sides.1 sides.2).mp cut
    have filled : rest ≠ [] := List.ne_nil_of_mem slash
    have parsed := (slinkyImageConfig_ok_iff reference
      { repository := ⟨String.ofList server, by simpa using named⟩
        tag := some ⟨String.ofList rest, by simpa using filled⟩
        exactlyOne := Bool.noConfusion }).mpr ⟨_, rfl, rfl, by simpa using absent, by simpa using whole⟩
    obtain ⟨⟨name, tag, segment, -, -⟩, -⟩ := accepts _ parsed
    -- What follows the last slash is a part of what follows the last colon.
    have after : lastSegment reference = sides.2 := by
      refine lastSegment_after_slash reference (server ++ ':' :: sides.1) sides.2 ?_ inside
      rw [whole, same]
      simp
    rw [after] at segment
    apply absent
    rw [same, segment]
    simp
  · intro plain image parsed
    obtain ⟨tag, tagged, -, absent, whole⟩ := (slinkyImageConfig_ok_iff reference image).mp parsed
    have named : image.repository.text.toList ≠ [] := by
      simpa using image.repository.accepted
    have filled : tag.text.toList ≠ [] := by
      simpa using tag.accepted
    have inside : '/' ∉ tag.text.toList :=
      fun slash => plain ⟨_, _, whole, absent, slash, named⟩
    refine ⟨⟨_, _, lastSegment_of_colon reference _ _ whole inside, absent, filled⟩, tag, tagged, ?_⟩
    apply String.toList_inj.mp
    simp [String.toList_append, whole]

theorem outputs_inverted (recorded : Outputs) (commit : String) (tags : List Ref) :
    InvertsOutputs recorded commit tags := by
  refine ⟨_, rfl, ?_⟩
  unfold referencesAt
  rw [List.forall₂_map_right_iff, List.forall₂_same]
  intro ref _ valid
  exact printed_parsed _ ref.repository ref.tag valid

/-- What holds of printing and parsing, with `reference` any text given to the parser. -/
structure ReferencesSound (reference : String) : Prop where
  inverts : ∀ (session : Session) (ref : Ref), isTag ref.tag = true →
    ParsedAs (consumerRef session ref) (session.consumerServer ++ "/" ++ ref.repository) ref.tag
  outputs : ∀ recorded commit tags, InvertsOutputs recorded commit tags
  accepts : AcceptsTagged reference

/-- Printed references are always read back; a text is taken for tagged without
need exactly when its last colon is the one of a port. -/
theorem references_sound_iff (reference : String) :
    ReferencesSound reference ↔ ¬ EndsAfterPort reference := by
  constructor
  · exact fun sound => (acceptsTagged_iff reference).mp sound.accepts
  · intro plain
    constructor
    · exact fun session ref valid => printed_parsed _ ref.repository ref.tag valid
    · exact outputs_inverted
    · exact (acceptsTagged_iff reference).mpr plain

/-- `5000/slurm-operator` for a tag. -/
theorem untagged_reference_accepted : ¬ ∀ reference, ReferencesSound reference := by
  intro always
  have absent : ¬ EndsAfterPort "kind-registry:5000/slurm-operator" :=
    (acceptsTagged_iff _).mp (always _).accepts
  apply absent
  exact ⟨"kind-registry".toList, "5000/slurm-operator".toList, rfl, by decide, by decide, by decide⟩

/-- The tag of every publication is one, whatever its commit begins with. -/
theorem sourceTag_isTag (commit : String)
    (hex : ∀ char ∈ commit.toList, char.isAlphanum = true) : isTag (sourceTag commit) = true := by
  have chars : (sourceTag commit).toList = "source-".toList ++ commit.toList.take 12 := by
    simp [sourceTag, Text.truncate, String.toList_append]
  have letters : ∀ char ∈ commit.toList.take 12, tagContinues char = true := by
    intro char member
    simp [tagContinues, tagStarts, hex char (List.mem_of_mem_take member)]
  have short : (commit.toList.take 12).length ≤ 12 := List.length_take_le 12 _
  unfold isTag
  rw [chars]
  simp only [String.reduceToList, List.cons_append, List.nil_append, List.all_cons,
    List.length_cons, Bool.and_eq_true, List.all_eq_true, decide_eq_true_eq]
  refine ⟨⟨by decide, by decide, by decide, by decide, by decide, by decide, by decide, letters⟩, ?_⟩
  omega

end ClusterApiForSlinky.ImageReferences
