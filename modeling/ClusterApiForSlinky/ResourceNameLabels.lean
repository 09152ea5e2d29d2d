import ClusterApiForSlinky.TenantCollisions
import Mathlib.Data.List.Chain

/-!
When the names the five `_resource_name` copies and `_cluster_name` return are
DNS labels. The instance is normalized, cut to make room for the suffix and
stripped again; only the Azure BYO copy looks at the suffix.
-/

namespace ClusterApiForSlinky.ResourceNameLabels
open ResourceNames TenantObjects

/-- What is asked of a label apart from its length. -/
structure Stem (chars : List Char) : Prop where
  allowed : ∀ char ∈ chars, isDnsLabelChar char = true
  first : chars.head?.any isLabelChar = true
  last : chars.getLast?.any isLabelChar = true

theorem isDnsLabel_iff (text : String) :
    isDnsLabel text = true ↔ Stem text.toList ∧ text.toList.length ≤ dnsLabelMaxLength := by
  simp only [isDnsLabel, Bool.and_eq_true, decide_eq_true_eq, List.all_eq_true]
  constructor
  · rintro ⟨⟨⟨short, chars⟩, first⟩, last⟩
    exact ⟨⟨chars, first, last⟩, short⟩
  · rintro ⟨⟨chars, first, last⟩, short⟩
    exact ⟨⟨⟨short, chars⟩, first⟩, last⟩

theorem Stem.ne_nil (chars : List Char) (stem : Stem chars) : chars ≠ [] := by
  rintro rfl
  simpa using stem.first

theorem isLabelChar_of_not_dash (char : Char) (allowed : isDnsLabelChar char = true)
    (other : isDash char = false) : isLabelChar char = true := by
  simpa [isDnsLabelChar, other] using allowed

/-! What normalization leaves: no two dashes in a row, none at an end. -/

/-- No two dashes stand next to each other. -/
def SingleDashes (chars : List Char) : Prop :=
  List.IsChain (fun left right => ¬(isDash left = true ∧ isDash right = true)) chars

theorem singleDashes_within {part chars : List Char} (single : SingleDashes chars)
    (inside : part <:+: chars) : SingleDashes part := List.IsChain.infix single inside

theorem substituteInvalid_chars (inRun : Bool) (chars : List Char) :
    ∀ char ∈ substituteInvalid inRun chars, isDnsLabelChar char = true := by
  induction chars generalizing inRun with
  | nil => simp [substituteInvalid]
  | cons char rest ih =>
      unfold substituteInvalid
      intro other member
      split at member
      case isTrue label =>
        rcases List.mem_cons.mp member with rfl | later
        · simp [isDnsLabelChar, label]
        · exact ih false other later
      case isFalse =>
        split at member
        · exact ih true other member
        · rcases List.mem_cons.mp member with rfl | later
          · decide
          · exact ih true other later

/-- Inside a run the next dash waits for a label character. -/
theorem substituteInvalid_run_head (chars : List Char) :
    ∀ first ∈ (substituteInvalid true chars).head?, isDash first = false := by
  induction chars with
  | nil => simp [substituteInvalid]
  | cons char rest ih =>
      intro first head
      cases label : isLabelChar char with
      | true =>
          simp only [substituteInvalid, label, if_true, List.head?_cons, Option.mem_some_iff] at head
          subst head
          exact isDash_of_label char label
      | false =>
          simp only [substituteInvalid, label, Bool.false_eq_true, if_false, if_true] at head
          exact ih first head

theorem substituteInvalid_single (inRun : Bool) (chars : List Char) :
    SingleDashes (substituteInvalid inRun chars) := by
  induction chars generalizing inRun with
  | nil => exact List.isChain_nil
  | cons char rest ih =>
      unfold substituteInvalid
      split
      case isTrue label =>
        refine List.isChain_cons.mpr ⟨?_, ih false⟩
        rintro next _ ⟨dash, _⟩
        rw [isDash_of_label char label] at dash
        cases dash
      case isFalse =>
        split
        · exact ih true
        · refine List.isChain_cons.mpr ⟨?_, ih true⟩
          rintro next head ⟨_, dash⟩
          rw [substituteInvalid_run_head rest next head] at dash
          cases dash

theorem substituteInvalid_self (inRun : Bool) (chars : List Char)
    (allowed : ∀ char ∈ chars, isDnsLabelChar char = true) (single : SingleDashes chars)
    (ready : inRun = true → ∀ first ∈ chars.head?, isDash first = false) :
    substituteInvalid inRun chars = chars := by
  induction chars generalizing inRun with
  | nil => rfl
  | cons char rest ih =>
      have chain := List.isChain_cons.mp single
      have later := fun next member => allowed next (List.mem_cons_of_mem char member)
      cases dash : isDash char with
      | false =>
          have label := isLabelChar_of_not_dash char (allowed char List.mem_cons_self) dash
          rw [substituteInvalid, if_pos label, ih false later chain.2 (absurd · Bool.false_ne_true)]
      | true =>
          have notLabel : ¬isLabelChar char = true := by
            intro label
            rw [isDash_of_label char label] at dash
            cases dash
          have fresh : ¬inRun = true := by
            intro run
            have head := ready run char (by simp)
            rw [dash] at head
            cases head
          have same : char = '-' := by simpa [isDash] using dash
          have apart : ∀ first ∈ rest.head?, isDash first = false := by
            intro first head
            have pair := chain.1 first head
            simpa [dash] using pair
          rw [substituteInvalid, if_neg notLabel, if_neg fresh,
            ih true later chain.2 (fun _ => apart), same]

theorem normalizedLabel_within (text : String) :
    normalizedLabel text <:+: substituteInvalid false (lower text) :=
  Text.stripChars_within _ _

theorem normalizedLabel_single (text : String) : SingleDashes (normalizedLabel text) :=
  singleDashes_within (substituteInvalid_single false (lower text)) (normalizedLabel_within text)

theorem normalizedLabel_stem (text : String) (present : normalizedLabel text ≠ []) :
    Stem (normalizedLabel text) := by
  have allowed : ∀ char ∈ normalizedLabel text, isDnsLabelChar char = true := fun char member =>
    substituteInvalid_chars false _ char ((normalizedLabel_within text).subset member)
  refine ⟨allowed, ?_, ?_⟩
  · cases shape : normalizedLabel text with
    | nil => exact absurd shape present
    | cons first rest =>
        have head := Text.stripChars_start isDash _ first rest shape
        simp only [List.head?_cons, Option.any_some]
        exact isLabelChar_of_not_dash first (allowed first (by simp [shape])) head
  · have tail := List.rdropWhile_last_not isDash _ present
    rw [List.getLast?_eq_some_getLast present, Option.any_some]
    exact isLabelChar_of_not_dash _ (allowed _ (List.getLast_mem present))
      (Bool.eq_false_iff.mpr tail)

theorem stripChars_stem (chars : List Char) (stem : Stem chars) :
    Text.stripChars isDash chars = chars := by
  obtain ⟨_, first, last⟩ := stem
  have front : chars.dropWhile isDash = chars := by
    cases chars with
    | nil => rfl
    | cons char rest =>
        have head : isLabelChar char = true := first
        simp [isDash_of_label char head]
  rw [Text.stripChars, front, List.rdropWhile_eq_self_iff]
  intro present dash
  rw [List.getLast?_eq_some_getLast present, Option.any_some] at last
  rw [isDash_of_label _ last] at dash
  cases dash

/-- The Azure BYO copy keeps a suffix that is a label, but for doubled dashes. -/
theorem normalizedLabel_eq_iff (text : String) (stem : Stem text.toList) :
    normalizedLabel text = text.toList ↔ SingleDashes text.toList := by
  constructor
  · intro same
    rw [← same]
    exact normalizedLabel_single text
  · intro single
    have lowered : lower text = text.toList :=
      TenantCollisions.lower_of_dnsLabel _ stem.allowed
    rw [normalizedLabel, lowered,
      substituteInvalid_self false _ stem.allowed single (absurd · Bool.false_ne_true),
      stripChars_stem _ stem]

/-! One name: a cut of the instance, a dash and the suffix. -/

/-- What a returned name is asked for; `suffix` is the normalized suffix. -/
structure ValidName (normalized suffix : List Char) (value : String) : Prop where
  label : isDnsLabel value = true
  start : ∃ start, start ≠ [] ∧ start <+: normalized ∧ start <+: value.toList
  ending : '-' :: suffix <:+ value.toList

theorem cut_stem (normalized : List Char) (stem : Stem normalized) (stop : Nat) (room : 0 < stop) :
    ∃ first rest, (normalized.take stop).rdropWhile isDash = first :: rest ∧
      isLabelChar first = true := by
  cases normalized with
  | nil => exact absurd rfl (stem.ne_nil _)
  | cons first rest =>
      have label : isLabelChar first = true := stem.first
      obtain ⟨size, rfl⟩ := Nat.exists_eq_succ_of_ne_zero room.ne'
      rw [List.take_succ_cons]
      obtain ⟨tail, whole⟩ := List.rdropWhile_prefix isDash (first :: rest.take size)
      cases cut : (first :: rest.take size).rdropWhile isDash with
      | nil =>
          have dashes := List.rdropWhile_eq_nil_iff.mp cut first List.mem_cons_self
          rw [isDash_of_label first label] at dashes
          cases dashes
      | cons char more =>
          rw [cut, List.cons_append, List.cons.injEq] at whole
          exact ⟨char, more, rfl, whole.1 ▸ label⟩

theorem cut_prefix (normalized : List Char) (stop : Nat) :
    (normalized.take stop).rdropWhile isDash <+: normalized :=
  (List.rdropWhile_prefix _ _).trans (List.take_prefix _ _)

theorem cut_length (normalized : List Char) (stop : Nat) :
    ((normalized.take stop).rdropWhile isDash).length ≤ stop :=
  (List.rdropWhile_prefix _ _).length_le.trans (List.length_take_le _ _)

/-- With room for one character before the dash the name is a label. -/
theorem joinSuffix_valid (normalized suffix : List Char) (stem : Stem normalized)
    (ending : Stem suffix) (room : suffix.length ≤ 61) :
    ValidName normalized suffix (joinSuffix normalized suffix) := by
  obtain ⟨stop, size⟩ : ∃ stop : Nat, stop + suffix.length = 62 :=
    ⟨62 - suffix.length, by omega⟩
  have cut : truncatedLabel (dnsLabelMaxLength - suffix.length - 1) normalized =
      (normalized.take stop).rdropWhile isDash := by
    rw [← truncatedLabel_take]
    congr 1
    simp only [dnsLabelMaxLength]
    omega
  obtain ⟨first, rest, shape, label⟩ := cut_stem normalized stem stop (by omega)
  have inside := cut_prefix normalized stop
  have short := cut_length normalized stop
  have text : (joinSuffix normalized suffix).toList = (first :: rest) ++ '-' :: suffix := by
    rw [TenantCollisions.joinSuffix_toList, cut, shape]
  rw [shape] at inside short
  refine ⟨?_, ⟨first :: rest, by simp, inside, text ▸ List.prefix_append _ _⟩, ?_⟩
  · refine (isDnsLabel_iff _).mpr ⟨⟨?_, ?_, ?_⟩, ?_⟩
    · rw [text]
      intro char member
      rcases List.mem_append.mp member with front | back
      · exact stem.allowed char (inside.subset front)
      · rcases List.mem_cons.mp back with rfl | later
        · decide
        · exact ending.allowed char later
    · rw [text]
      exact label
    · have last := ending.last
      rw [text, List.getLast?_append, List.getLast?_cons]
      rw [List.getLast?_eq_some_getLast (ending.ne_nil _)] at last ⊢
      simpa using last
    · rw [text]
      simp only [List.length_append, List.length_cons, dnsLabelMaxLength] at short ⊢
      omega
  · rw [text]
    exact List.suffix_append _ _

/-- Without that room the name starts with the dash, or is too long. -/
theorem joinSuffix_invalid (normalized suffix : List Char) (full : 62 ≤ suffix.length) :
    isDnsLabel (joinSuffix normalized suffix) = false := by
  cases valid : isDnsLabel (joinSuffix normalized suffix) with
  | false => rfl
  | true =>
      obtain ⟨stem, short⟩ := (isDnsLabel_iff _).mp valid
      have first := stem.first
      rw [TenantCollisions.joinSuffix_toList] at first short
      rw [List.length_append, List.length_cons] at short
      have empty : truncatedLabel (dnsLabelMaxLength - suffix.length - 1) normalized = [] := by
        rw [← List.length_eq_zero_iff]
        have limit : dnsLabelMaxLength = 63 := rfl
        omega
      rw [empty] at first
      revert first
      simp [isLabelChar]

theorem clusterNameOf_valid (text value : String) (named : clusterNameOf text = .ok value) :
    isDnsLabel value = true ∧
      ∃ start, start ≠ [] ∧ start <+: normalizedLabel text ∧ start <+: value.toList := by
  unfold clusterNameOf at named
  by_cases empty : normalizedLabel text = []
  · simp [empty] at named
  · simp only [empty, if_false, Except.ok.injEq] at named
    subst named
    have stem := normalizedLabel_stem text empty
    rw [show (dnsLabelMaxLength : Int) = ((63 : Nat) : Int) from rfl, truncatedLabel_take]
    obtain ⟨first, rest, shape, label⟩ := cut_stem _ stem 63 (by omega)
    have inside := cut_prefix (normalizedLabel text) 63
    have short := cut_length (normalizedLabel text) 63
    have tail := List.rdropWhile_last_not isDash ((normalizedLabel text).take 63) (by simp [shape])
    simp only [shape] at inside short tail ⊢
    refine ⟨?_, ⟨first :: rest, by simp, inside, by simp⟩⟩
    refine (isDnsLabel_iff _).mpr ⟨⟨?_, ?_, ?_⟩, by simpa [dnsLabelMaxLength] using short⟩
    · intro char member
      exact stem.allowed char (inside.subset (by simpa using member))
    · simpa using label
    · rw [String.toList_ofList, List.getLast?_eq_some_getLast (by simp), Option.any_some]
      exact isLabelChar_of_not_dash _ (stem.allowed _ (inside.subset (List.getLast_mem (by simp))))
        (Bool.eq_false_iff.mpr tail)

/-! All copies on one instance and one suffix. -/

def copies (instanceName suffix : String) : List (Except String String) :=
  [AzureBYO.resourceName instanceName suffix, AKS.resourceName instanceName (some suffix),
    Local.resourceName instanceName suffix, Deployments.resourceName instanceName suffix,
    Autoscaler.resourceName instanceName suffix]

def Agree (results : List (Except String String)) : Prop :=
  (∃ value, ∀ result ∈ results, result = .ok value) ∨
    ∀ result ∈ results, ∃ message, result = .error message

def Sound (instanceName suffix : String) (result : Except String String) : Prop :=
  ∀ value, result = .ok value →
    ValidName (normalizedLabel instanceName) (normalizedLabel suffix) value

/-- Every copy, on a suffix that is a label; Azure BYO on any suffix; `_cluster_name`. -/
structure NamesSound (instanceName suffix : String) : Prop where
  copies : isDnsLabel suffix = true →
    (∀ result ∈ copies instanceName suffix, Sound instanceName suffix result) ∧
      Agree (copies instanceName suffix)
  byo : Sound instanceName suffix (AzureBYO.resourceName instanceName suffix)
  cluster : ∀ value, AzureBYO.clusterName instanceName = .ok value →
    isDnsLabel value = true ∧
      ∃ start, start ≠ [] ∧ start <+: normalizedLabel instanceName ∧ start <+: value.toList

/-- The suffix leaves room for the instance and is kept by normalization. -/
structure SuffixFits (suffix : String) : Prop where
  normalized : (normalizedLabel suffix).length ≠ 62
  label : isDnsLabel suffix = true → suffix.toList.length ≤ 61 ∧ SingleDashes suffix.toList

/-- The four copies that take the suffix as it is. -/
theorem resourceNameOf_eq (subject instanceName : String) (suffix : List Char)
    (present : normalizedLabel instanceName ≠ []) :
    resourceNameOf subject instanceName suffix =
      .ok (joinSuffix (normalizedLabel instanceName) suffix) := by
  simp [resourceNameOf, present]

theorem byo_ok_iff (instanceName suffix value : String) :
    AzureBYO.resourceName instanceName suffix = .ok value ↔
      normalizedLabel instanceName ≠ [] ∧ normalizedLabel suffix ≠ [] ∧
      (normalizedLabel suffix).length < dnsLabelMaxLength ∧
      value = joinSuffix (normalizedLabel instanceName) (normalizedLabel suffix) := by
  unfold AzureBYO.resourceName
  by_cases empty : normalizedLabel instanceName = []
  · simp [empty]
  · by_cases blank : normalizedLabel suffix = []
    · simp [empty, blank]
    · by_cases long : dnsLabelMaxLength ≤ (normalizedLabel suffix).length
      · simp [empty, blank, long]
      · simp only [empty, blank, long, if_false, Except.ok.injEq, ne_eq, not_false_eq_true,
          true_and]
        exact ⟨fun same => ⟨by omega, same.symm⟩, fun both => both.2.symm⟩

theorem byo_sound_iff (instanceName suffix : String) :
    Sound instanceName suffix (AzureBYO.resourceName instanceName suffix) ↔
      normalizedLabel instanceName = [] ∨ (normalizedLabel suffix).length ≠ 62 := by
  constructor
  · intro sound
    by_cases empty : normalizedLabel instanceName = []
    · exact Or.inl empty
    · refine Or.inr ?_
      intro full
      have present : normalizedLabel suffix ≠ [] := by
        intro blank
        simp [blank] at full
      have named := (byo_ok_iff instanceName suffix _).mpr
        ⟨empty, present, by simp [dnsLabelMaxLength, full], rfl⟩
      have valid := (sound _ named).label
      rw [joinSuffix_invalid _ _ (by omega)] at valid
      cases valid
  · intro condition value named
    obtain ⟨present, ending, short, rfl⟩ := (byo_ok_iff _ _ _).mp named
    rcases condition with empty | size
    · exact absurd empty present
    · refine joinSuffix_valid _ _ (normalizedLabel_stem _ present) (normalizedLabel_stem _ ending) ?_
      simp only [dnsLabelMaxLength] at short
      omega

/-- A name made of a normalized suffix has no doubled dash. -/
theorem joinSuffix_single (instanceName : String) (suffix : List Char) (stem : Stem suffix)
    (single : SingleDashes suffix) :
    SingleDashes (joinSuffix (normalizedLabel instanceName) suffix).toList := by
  rw [TenantCollisions.joinSuffix_toList]
  set start := truncatedLabel (dnsLabelMaxLength - suffix.length - 1) (normalizedLabel instanceName)
    with cut
  have inside : start <+: normalizedLabel instanceName := by
    refine (List.rdropWhile_prefix _ _).trans ?_
    unfold Text.sliceTo
    split
    · exact List.take_prefix _ _
    · exact List.take_prefix _ _
  refine List.isChain_append.mpr ⟨singleDashes_within (normalizedLabel_single instanceName) inside.isInfix,
    List.isChain_cons.mpr ⟨?_, single⟩, ?_⟩
  · rintro next head ⟨_, dash⟩
    have first := stem.first
    rw [Option.mem_def.mp head, Option.any_some] at first
    rw [isDash_of_label next first] at dash
    cases dash
  · rintro last ends _ _ ⟨dash, _⟩
    obtain ⟨present, same⟩ := List.mem_getLast?_eq_getLast ends
    subst same
    exact List.rdropWhile_last_not isDash _ present dash

theorem normalizedLabel_of_stem (text : String) (stem : Stem text.toList) :
    normalizedLabel text ≠ [] := by
  have first := stem.first
  cases shape : text.toList with
  | nil => simp [shape] at first
  | cons char rest =>
      rw [shape] at first
      exact normalizedLabel_ne_nil text char (by simp [shape]) first

theorem copies_sound_iff (instanceName suffix : String) (label : isDnsLabel suffix = true)
    (present : normalizedLabel instanceName ≠ []) :
    (∀ result ∈ copies instanceName suffix, Sound instanceName suffix result) ∧
        Agree (copies instanceName suffix) ↔
      suffix.toList.length ≤ 61 ∧ SingleDashes suffix.toList := by
  obtain ⟨stem, short⟩ := (isDnsLabel_iff suffix).mp label
  have plain := fun subject => resourceNameOf_eq subject instanceName suffix.toList present
  constructor
  · rintro ⟨sound, agree⟩
    have valid := (sound (Local.resourceName instanceName suffix) (by simp [copies]) _
      (plain "tenant")).label
    have room : suffix.toList.length ≤ 61 := by
      by_contra full
      rw [joinSuffix_invalid _ _ (by omega)] at valid
      cases valid
    refine ⟨room, ?_⟩
    -- the plain copies return a name, so Azure BYO has to return the same one
    rcases agree with ⟨value, all⟩ | raises
    · have ours := (plain "tenant").symm.trans
        (all (Local.resourceName instanceName suffix) (by simp [copies]))
      obtain ⟨_, ending, _, theirs⟩ := (byo_ok_iff instanceName suffix value).mp
        (all (AzureBYO.resourceName instanceName suffix) (by simp [copies]))
      have whole := joinSuffix_single instanceName (normalizedLabel suffix)
        (normalizedLabel_stem suffix ending) (normalizedLabel_single suffix)
      rw [← theirs, ← Except.ok.inj ours, TenantCollisions.joinSuffix_toList] at whole
      exact singleDashes_within whole
        ((List.suffix_cons '-' suffix.toList).isInfix.trans (List.suffix_append _ _).isInfix)
    · obtain ⟨message, raised⟩ := raises (Local.resourceName instanceName suffix) (by simp [copies])
      rw [Local.resourceName, plain "tenant"] at raised
      cases raised
  · rintro ⟨room, single⟩
    have same := (normalizedLabel_eq_iff suffix stem).mpr single
    have all : ∀ result ∈ copies instanceName suffix,
        result = .ok (joinSuffix (normalizedLabel instanceName) suffix.toList) := by
      have byo := (byo_ok_iff instanceName suffix
        (joinSuffix (normalizedLabel instanceName) suffix.toList)).mpr
          ⟨present, normalizedLabel_of_stem suffix stem,
            by simp only [same, dnsLabelMaxLength]; omega, by rw [same]⟩
      simp [copies, byo, AKS.resourceName, Local.resourceName, Deployments.resourceName,
        Autoscaler.resourceName, plain]
    refine ⟨?_, Or.inl ⟨_, all⟩⟩
    intro result member value named
    rw [all result member] at named
    cases named
    rw [same]
    exact joinSuffix_valid _ _ (normalizedLabel_stem _ present) stem room

/-- An instance without a letter or digit has no names at all; otherwise the
suffix decides. -/
theorem resource_names_sound_iff (instanceName suffix : String) :
    NamesSound instanceName suffix ↔
      normalizedLabel instanceName = [] ∨ SuffixFits suffix := by
  by_cases empty : normalizedLabel instanceName = []
  · have raises : ∀ result ∈ copies instanceName suffix, ∃ message, result = .error message := by
      simp [copies, AzureBYO.resourceName, AKS.resourceName, Local.resourceName,
        Deployments.resourceName, Autoscaler.resourceName, resourceNameOf, empty]
    simp only [empty, true_or, iff_true]
    refine ⟨fun _ => ⟨?_, Or.inr raises⟩, (byo_sound_iff _ _).mpr (Or.inl empty),
      clusterNameOf_valid instanceName⟩
    intro result member value named
    obtain ⟨message, raised⟩ := raises result member
    rw [raised] at named
    cases named
  · simp only [empty, false_or]
    constructor
    · intro sound
      refine ⟨((byo_sound_iff _ _).mp sound.byo).resolve_left empty, ?_⟩
      intro label
      exact (copies_sound_iff instanceName suffix label empty).mp (sound.copies label)
    · intro fits
      refine ⟨?_, (byo_sound_iff _ _).mpr (Or.inr fits.normalized), clusterNameOf_valid instanceName⟩
      intro label
      exact (copies_sound_iff instanceName suffix label empty).mpr (fits.label label)

/-- A suffix of 62 characters leaves no room for the instance. -/
theorem suffix_of_62_drops_instance :
    Local.resourceName "team-a" (String.ofList (List.replicate 62 'w')) =
      .ok (String.ofList ('-' :: List.replicate 62 'w')) ∧
    ¬NamesSound "team-a" (String.ofList (List.replicate 62 'w')) := by
  refine ⟨by decide, ?_⟩
  intro sound
  have room := ((copies_sound_iff _ _ (by decide) (by decide)).mp (sound.copies (by decide))).1
  simp at room

end ClusterApiForSlinky.ResourceNameLabels
