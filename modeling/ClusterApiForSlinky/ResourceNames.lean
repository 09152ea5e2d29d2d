import ClusterApiForSlinky.Text

/-!
The name helpers of the workload-cluster classes. Each class has its own copy
of `_resource_name`; they share the normalization of the tenant's instance name.
-/

namespace ClusterApiForSlinky.ResourceNames

def dnsLabelMaxLength : Nat := 63

def isLabelChar (char : Char) : Bool :=
  ('a' ≤ char && char ≤ 'z') || ('0' ≤ char && char ≤ '9')

def isDash (char : Char) : Bool := char = '-'

/-- `str.lower` as far as the patterns here can see it: the Kelvin sign and the
dotted capital I are the only characters outside ASCII whose lower case has an
ASCII letter in it. -/
def lowerChar (char : Char) : List Char :=
  if char = Char.ofNat 0x212a then ['k']
  else if char = Char.ofNat 0x130 then ['i', Char.ofNat 0x307]
  else [char.toLower]

def lower (text : String) : List Char := text.toList.flatMap lowerChar

/-- `_DNS_LABEL_INVALID_CHARS.sub("-", ..)`: each run of other characters is one dash. -/
def substituteInvalid : Bool → List Char → List Char
  | _, [] => []
  | inRun, char :: rest =>
      if isLabelChar char then char :: substituteInvalid false rest
      else if inRun then substituteInvalid true rest
      else '-' :: substituteInvalid true rest

def normalizedLabel (text : String) : List Char :=
  Text.stripChars isDash (substituteInvalid false (lower text))

/-- `label[:stop].rstrip("-")` -/
def truncatedLabel (stop : Int) (label : List Char) : List Char :=
  (Text.sliceTo label stop).rdropWhile isDash

def joinSuffix (label suffix : List Char) : String :=
  String.ofList (truncatedLabel (dnsLabelMaxLength - suffix.length - 1) label ++ '-' :: suffix)

def resourceNameOf (subject text : String) (suffix : List Char) : Except String String :=
  let normalized := normalizedLabel text
  if normalized = [] then
    .error (subject ++ " must contain at least one alphanumeric character")
  else .ok (joinSuffix normalized suffix)

def clusterNameOf (text : String) : Except String String :=
  let normalized := normalizedLabel text
  if normalized = [] then .error "instance must contain at least one alphanumeric character"
  else .ok (String.ofList (truncatedLabel dnsLabelMaxLength normalized))

namespace Local

/-- workload_cluster_infrastructure_local.py -/
def resourceName (tenant suffix : String) : Except String String :=
  resourceNameOf "tenant" tenant suffix.toList

end Local

namespace Deployments

/-- workload_cluster_deployments.py -/
def resourceName (tenant suffix : String) : Except String String :=
  resourceNameOf "tenant" tenant suffix.toList

end Deployments

namespace Autoscaler

/-- workload_cluster_infrastructure.py -/
def resourceName (tenant suffix : String) : Except String String :=
  resourceNameOf "tenant" tenant suffix.toList

end Autoscaler

namespace AKS

/-- workload_cluster_infrastructure_aks.py -/
def resourceName (instanceName : String) : Option String → Except String String
  | none => clusterNameOf instanceName
  | some suffix => resourceNameOf "instance" instanceName suffix.toList

end AKS

namespace AzureBYO

/-- workload_cluster_infrastructure_azure_byo.py; the only copy that normalizes
its suffix as well. -/
def resourceName (instanceName suffix : String) : Except String String :=
  let normalized := normalizedLabel instanceName
  let normalizedSuffix := normalizedLabel suffix
  if normalized = [] then .error "instance must contain at least one alphanumeric character"
  else if normalizedSuffix = [] then
    .error "resource suffix must contain at least one alphanumeric character"
  else if dnsLabelMaxLength ≤ normalizedSuffix.length then
    .error "resource suffix must be shorter than 63 characters"
  else .ok (joinSuffix normalized normalizedSuffix)

def clusterName (instanceName : String) : Except String String := clusterNameOf instanceName

end AzureBYO

/-! Normalized labels. -/

theorem truncatedLabel_take (stop : Nat) (label : List Char) :
    truncatedLabel stop label = (label.take stop).rdropWhile isDash := by
  simp [truncatedLabel, Text.sliceTo]

/-- Labels that agree up to one length agree up to every shorter one. -/
theorem truncatedLabel_shorter (shorter longer : Nat) (within : shorter ≤ longer)
    (first second : List Char)
    (same : truncatedLabel longer first = truncatedLabel longer second) :
    truncatedLabel shorter first = truncatedLabel shorter second := by
  simp only [truncatedLabel_take] at same ⊢
  rw [← Text.rdropWhile_take_take isDash first shorter longer within,
    ← Text.rdropWhile_take_take isDash second shorter longer within, same]

theorem substituteInvalid_length (inRun : Bool) (chars : List Char) :
    (substituteInvalid inRun chars).length ≤ chars.length := by
  induction chars generalizing inRun with
  | nil => simp [substituteInvalid]
  | cons char rest ih =>
      have kept := ih false
      have dropped := ih true
      unfold substituteInvalid
      split
      · simp only [List.length_cons]
        omega
      · split
        · simp only [List.length_cons]
          omega
        · simp only [List.length_cons]
          omega

theorem mem_substituteInvalid (inRun : Bool) (chars : List Char) (char : Char)
    (member : char ∈ chars) (label : isLabelChar char = true) :
    char ∈ substituteInvalid inRun chars := by
  induction chars generalizing inRun with
  | nil => cases member
  | cons first rest ih =>
      unfold substituteInvalid
      rcases List.mem_cons.mp member with rfl | later
      · simp [label]
      · split
        · exact List.mem_cons_of_mem _ (ih false later)
        · split
          · exact ih true later
          · exact List.mem_cons_of_mem _ (ih true later)

theorem isDash_of_label (char : Char) (label : isLabelChar char = true) : isDash char = false := by
  cases dashed : isDash char with
  | false => rfl
  | true =>
      have dash : char = '-' := by simpa [isDash] using dashed
      subst dash
      revert label
      decide

theorem normalizedLabel_rstripped (text : String) :
    (normalizedLabel text).rdropWhile isDash = normalizedLabel text :=
  List.rdropWhile_idempotent isDash _

/-- A lower-case letter or a digit is left alone by `lower`. -/
theorem lowerChar_label (char : Char) (label : isLabelChar char = true) :
    lowerChar char = [char] := by
  -- The two characters that `lower` treats apart are no label characters.
  have notKelvin : char ≠ Char.ofNat 0x212a := by
    rintro rfl
    revert label
    decide
  have notDotted : char ≠ Char.ofNat 0x130 := by
    rintro rfl
    revert label
    decide
  have unchanged : char.toLower = char := by
    unfold Char.toLower
    split
    · next upper =>
        exfalso
        simp only [isLabelChar, Bool.or_eq_true, Bool.and_eq_true, decide_eq_true_eq] at label
        obtain ⟨low, high⟩ := upper
        have low' : (65 : UInt32) ≤ char.val := low
        have high' : char.val ≤ (90 : UInt32) := high
        rcases label with ⟨letter, _⟩ | ⟨_, digit⟩
        · have letter' : (97 : UInt32) ≤ char.val := letter
          rw [UInt32.le_iff_toNat_le] at high' letter'
          simp at high' letter'
          omega
        · have digit' : char.val ≤ (57 : UInt32) := digit
          rw [UInt32.le_iff_toNat_le] at low' digit'
          simp at low' digit'
          omega
    · rfl
  simp [lowerChar, notKelvin, notDotted, unchanged]

theorem normalizedLabel_ne_nil (text : String) (char : Char) (member : char ∈ text.toList)
    (label : isLabelChar char = true) : normalizedLabel text ≠ [] := by
  intro empty
  have lowered : char ∈ lower text :=
    List.mem_flatMap.mpr ⟨char, member, by simp [lowerChar_label char label]⟩
  have substituted := mem_substituteInvalid false (lower text) char lowered label
  have kept := Text.mem_stripChars_of_kept isDash _ char substituted (isDash_of_label char label)
  have nothing : char ∈ normalizedLabel text := kept
  rw [empty] at nothing
  cases nothing

end ClusterApiForSlinky.ResourceNames
