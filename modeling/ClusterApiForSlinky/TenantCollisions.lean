import ClusterApiForSlinky.TenantObjects

/-!
Which pairs of tenants render an object of the same kind and name. A name is a
label cut to make room for its suffix, so two names can agree when the labels
agree up to the cut, or when one tenant's label is another's finished name.
-/

namespace ClusterApiForSlinky.TenantCollisions
open ResourceNames TenantObjects

/-! Names of valid labels. -/

theorem lower_of_dnsLabel (chars : List Char) (valid : ∀ char ∈ chars, isDnsLabelChar char = true) :
    chars.flatMap lowerChar = chars := by
  induction chars with
  | nil => rfl
  | cons char rest ih =>
      rw [List.flatMap_cons, ih (fun later member => valid later (by simp [member]))]
      have allowed := valid char (by simp)
      simp only [isDnsLabelChar, Bool.or_eq_true] at allowed
      rcases allowed with label | dash
      · rw [lowerChar_label char label]
        rfl
      · have same : char = '-' := by simpa [isDash] using dash
        subst same
        rfl

def label (instanceName : DnsLabel) : List Char := normalizedLabel instanceName.text

theorem dnsLabel_parts (instanceName : DnsLabel) :
    instanceName.text.toList.length ≤ 63 ∧
      (∀ char ∈ instanceName.text.toList, isDnsLabelChar char = true) ∧
      ∃ char, char ∈ instanceName.text.toList ∧ isLabelChar char = true := by
  have valid := instanceName.valid
  simp only [isDnsLabel, Bool.and_eq_true, decide_eq_true_eq, List.all_eq_true] at valid
  obtain ⟨⟨⟨short, allowed⟩, first⟩, _⟩ := valid
  refine ⟨short, allowed, ?_⟩
  cases shape : instanceName.text.toList with
  | nil => simp [shape] at first
  | cons char rest => exact ⟨char, by simp, by simpa [shape] using first⟩

theorem label_ne_nil (instanceName : DnsLabel) : label instanceName ≠ [] := by
  obtain ⟨_, _, char, member, letter⟩ := dnsLabel_parts instanceName
  exact normalizedLabel_ne_nil instanceName.text char member letter

theorem label_length (instanceName : DnsLabel) : (label instanceName).length ≤ 63 := by
  obtain ⟨short, allowed, _⟩ := dnsLabel_parts instanceName
  have lowered : lower instanceName.text = instanceName.text.toList :=
    lower_of_dnsLabel _ allowed
  have substituted := substituteInvalid_length false (lower instanceName.text)
  rw [lowered] at substituted
  have stripped : (label instanceName).length ≤
      (substituteInvalid false (lower instanceName.text)).length := by
    unfold label normalizedLabel Text.stripChars
    exact (List.rdropWhile_prefix _ _).length_le.trans (List.dropWhile_sublist _).length_le
  rw [lowered] at stripped
  omega

theorem truncated_whole (instanceName : DnsLabel) :
    truncatedLabel dnsLabelMaxLength (label instanceName) = label instanceName := by
  have within := label_length instanceName
  rw [truncatedLabel_take, dnsLabelMaxLength, List.take_of_length_le within]
  exact normalizedLabel_rstripped instanceName.text

/-! The shape of a name: the label itself, or a cut of it with a suffix. -/

inductive Shape where
  | whole
  | cut (suffix : String)
  deriving DecidableEq, Repr

def shapedName (label : List Char) : Shape → String
  | .whole => String.ofList label
  | .cut suffix => joinSuffix label suffix.toList

def clusterShape : ClusterClass → Shape
  | .localClass => .cut "workload"
  | .aks => .whole
  | .azureBYO => .whole

def shape (cls : ClusterClass) : Site → Shape
  | .cluster => clusterShape cls
  | .kubeconfig => clusterShape cls
  | .suffixed suffix => .cut suffix
  | .autoscaler suffix => .cut suffix

def plainName (cls : ClusterClass) (label : List Char) : Site → String
  | .kubeconfig => shapedName label (clusterShape cls) ++ "-kubeconfig"
  | site => shapedName label (shape cls site)

theorem clusterName_plain (cls : ClusterClass) (instanceName : DnsLabel) :
    clusterName cls instanceName.text = .ok (shapedName (label instanceName) (clusterShape cls)) := by
  have present : normalizedLabel instanceName.text ≠ [] := label_ne_nil instanceName
  have whole := truncated_whole instanceName
  unfold label at whole
  cases cls <;>
    simp [clusterName, Local.resourceName, AKS.resourceName, AzureBYO.clusterName,
      resourceNameOf, clusterNameOf, present, whole, shapedName, clusterShape, label]

def settledSuffix : Site → Bool
  | .suffixed suffix => normalizedLabel suffix = suffix.toList && suffix.toList ≠ [] &&
      suffix.toList.length < dnsLabelMaxLength
  | _ => true

/-- The suffixes of the default Azure BYO pools are labels already. -/
theorem byo_suffixes (kind : Kind) (suffix : String)
    (member : (kind, Site.suffixed suffix) ∈ byoSites) :
    normalizedLabel suffix = suffix.toList ∧ suffix.toList ≠ [] ∧
      suffix.toList.length < dnsLabelMaxLength := by
  have settled : ∀ entry ∈ byoSites, settledSuffix entry.2 = true := by decide
  simpa [settledSuffix, and_assoc] using settled _ member

theorem siteName_plain (cls : ClusterClass) (instanceName : DnsLabel) (kind : Kind) (site : Site)
    (member : (kind, site) ∈ sites cls) :
    siteName cls instanceName.text site = .ok (plainName cls (label instanceName) site) := by
  have present : normalizedLabel instanceName.text ≠ [] := label_ne_nil instanceName
  cases site with
  | cluster => exact clusterName_plain cls instanceName
  | kubeconfig =>
      unfold siteName
      rw [clusterName_plain]
      rfl
  | autoscaler suffix =>
      simp [siteName, Autoscaler.resourceName, resourceNameOf, present, plainName, shapedName,
        shape, label]
  | suffixed suffix =>
      cases cls with
      | localClass =>
          simp [siteName, resourceName, Local.resourceName, resourceNameOf, present, plainName,
            shapedName, shape, label]
      | aks =>
          simp [siteName, resourceName, AKS.resourceName, resourceNameOf, present, plainName,
            shapedName, shape, label]
      | azureBYO =>
          obtain ⟨same, nonempty, short⟩ := byo_suffixes kind suffix member
          have fits : ¬ dnsLabelMaxLength ≤ suffix.toList.length := by omega
          simp only [siteName, resourceName, AzureBYO.resourceName, present, same, nonempty, fits,
            if_false, plainName, shapedName, shape, label]

/-! When two shaped names agree. -/

/-- How far two labels have to agree for classes that share suffixed kinds. -/
def sharedLimit : ClusterClass → ClusterClass → Option Nat
  | .localClass, .localClass => some 42
  | .localClass, .azureBYO => some 46
  | .azureBYO, .localClass => some 46
  | .azureBYO, .azureBYO => some 46
  | .aks, .aks => some 55
  | _, _ => none

/-- No name with one suffix can be a name with the other. -/
def unrelated (first second : String) : Bool :=
  !('-' :: first.toList).isSuffixOf ('-' :: second.toList) &&
    !('-' :: second.toList).isSuffixOf ('-' :: first.toList)

/-- What two sites of one kind look like: suffixes that exclude each other, one
suffix with room for the shared limit, or cluster names. -/
def paired (first second : ClusterClass) : Shape → Shape → Bool
  | .cut suffix, .cut other =>
      unrelated suffix other ||
        (suffix = other && (sharedLimit first second).any (fun limit =>
          limit + suffix.toList.length + 1 ≤ dnsLabelMaxLength))
  | left, right => left = clusterShape first && right = clusterShape second

/-- The sites of two classes, compared kind by kind. -/
theorem sites_paired (first second : ClusterClass) (kind : Kind) (left right : Site)
    (leftSite : (kind, left) ∈ sites first) (rightSite : (kind, right) ∈ sites second) :
    (left = .kubeconfig ↔ right = .kubeconfig) ∧
      paired first second (shape first left) (shape second right) = true := by
  -- Nine pairs of classes, each a finite table of sites.
  have table : ∀ entry ∈ sites first, ∀ other ∈ sites second, entry.1 = other.1 →
      (entry.2 = .kubeconfig ↔ other.2 = .kubeconfig) ∧
        paired first second (shape first entry.2) (shape second other.2) = true := by
    cases first <;> cases second <;> decide
  exact table _ leftSite _ rightSite rfl

theorem joinSuffix_toList (label suffix : List Char) :
    (joinSuffix label suffix).toList =
      truncatedLabel (dnsLabelMaxLength - suffix.length - 1) label ++ '-' :: suffix := by
  simp [joinSuffix]

/-- Names with one suffix agree exactly when their labels do up to the cut. -/
theorem joinSuffix_inj_iff (first second suffix : List Char) :
    joinSuffix first suffix = joinSuffix second suffix ↔
      truncatedLabel (dnsLabelMaxLength - suffix.length - 1) first =
        truncatedLabel (dnsLabelMaxLength - suffix.length - 1) second := by
  constructor
  · intro same
    have lists := congrArg String.toList same
    rw [joinSuffix_toList, joinSuffix_toList] at lists
    exact List.append_cancel_right lists
  · intro same
    rw [joinSuffix, joinSuffix, same]

theorem joinSuffix_unrelated (first second : List Char) (suffix other : String)
    (apart : unrelated suffix other = true) :
    joinSuffix first suffix.toList ≠ joinSuffix second other.toList := by
  intro same
  have lists := congrArg String.toList same
  rw [joinSuffix_toList, joinSuffix_toList] at lists
  have left : '-' :: suffix.toList <:+ truncatedLabel
      (dnsLabelMaxLength - suffix.toList.length - 1) first ++ '-' :: suffix.toList :=
    List.suffix_append _ _
  have right : '-' :: other.toList <:+ truncatedLabel
      (dnsLabelMaxLength - suffix.toList.length - 1) first ++ '-' :: suffix.toList := by
    rw [lists]
    exact List.suffix_append _ _
  simp only [unrelated, Bool.and_eq_true, Bool.not_eq_true', ← Bool.not_eq_true,
    List.isSuffixOf_iff_suffix] at apart
  -- Both are suffixes of one name, so the shorter is a suffix of the longer.
  rcases Nat.le_total ('-' :: suffix.toList).length ('-' :: other.toList).length with short | long
  · exact apart.1 (List.suffix_of_suffix_length_le left right short)
  · exact apart.2 (List.suffix_of_suffix_length_le right left long)

/-- The name of a local cluster, as a label. -/
def workloadName (label : List Char) : List Char :=
  truncatedLabel 54 label ++ "-workload".toList

/-- The tenants whose objects collide, by class and by what their normalized
instance names look like up to the length that survives the longest suffix. -/
def Clash : ClusterClass → ClusterClass → List Char → List Char → Prop
  | .localClass, .localClass, first, second =>
      truncatedLabel 42 first = truncatedLabel 42 second
  | .azureBYO, .azureBYO, first, second =>
      truncatedLabel 46 first = truncatedLabel 46 second
  | .aks, .aks, first, second => truncatedLabel 55 first = truncatedLabel 55 second
  | .localClass, .azureBYO, first, second =>
      truncatedLabel 46 first = truncatedLabel 46 second ∨ workloadName first = second
  | .azureBYO, .localClass, first, second =>
      truncatedLabel 46 first = truncatedLabel 46 second ∨ first = workloadName second
  | .localClass, .aks, first, second => workloadName first = second
  | .aks, .localClass, first, second => first = workloadName second
  | .aks, .azureBYO, first, second => first = second
  | .azureBYO, .aks, first, second => first = second

theorem clash_of_limit (first second : ClusterClass) (left right : List Char) (limit : Nat)
    (shared : sharedLimit first second = some limit)
    (same : truncatedLabel limit left = truncatedLabel limit right) :
    Clash first second left right := by
  cases first <;> cases second <;> simp only [sharedLimit, reduceCtorEq] at shared <;>
    cases shared
  · exact same
  · exact Or.inl same
  · exact same
  · exact Or.inl same
  · exact same

/-- The cluster name of a tenant, as a label. -/
def clusterLabel : ClusterClass → List Char → List Char
  | .localClass, label => workloadName label
  | .aks, label => label
  | .azureBYO, label => label

theorem shapedName_cluster (cls : ClusterClass) (label : List Char) :
    shapedName label (clusterShape cls) = String.ofList (clusterLabel cls label) := by
  cases cls with
  | localClass =>
      apply String.toList_inj.mp
      simp only [clusterShape, shapedName, joinSuffix_toList, clusterLabel, workloadName,
        String.toList_ofList]
      rfl
  | aks => rfl
  | azureBYO => rfl

theorem clusterName_agree_iff (first second : ClusterClass) (left right : List Char) :
    shapedName left (clusterShape first) = shapedName right (clusterShape second) ↔
      clusterLabel first left = clusterLabel second right := by
  rw [shapedName_cluster, shapedName_cluster, String.ofList_inj]

theorem clash_of_cluster (first second : ClusterClass) (left right : List Char)
    (same : shapedName left (clusterShape first) = shapedName right (clusterShape second)) :
    Clash first second left right := by
  rw [clusterName_agree_iff] at same
  cases first <;> cases second
  -- The name of a local cluster keeps 54 characters, more than a clash needs.
  · have cut : truncatedLabel 54 left = truncatedLabel 54 right := List.append_cancel_right same
    exact truncatedLabel_shorter 42 54 (by omega) left right cut
  · exact same
  · exact Or.inr same
  · exact same
  · exact congrArg (truncatedLabel 55) same
  · exact same
  · exact Or.inr same
  · exact same
  · exact congrArg (truncatedLabel 46) same

theorem clash_of_paired (first second : ClusterClass) (left right : List Char)
    (leftShape rightShape : Shape) (pair : paired first second leftShape rightShape = true)
    (same : shapedName left leftShape = shapedName right rightShape) :
    Clash first second left right := by
  cases leftShape with
  | whole =>
      simp only [paired, Bool.and_eq_true, decide_eq_true_eq] at pair
      rw [pair.1, pair.2] at same
      exact clash_of_cluster first second left right same
  | cut suffix =>
      cases rightShape with
      | whole =>
          simp only [paired, Bool.and_eq_true, decide_eq_true_eq] at pair
          rw [pair.1, pair.2] at same
          exact clash_of_cluster first second left right same
      | cut other =>
          simp only [paired, Bool.or_eq_true, Bool.and_eq_true, decide_eq_true_eq,
            Option.any_eq_true] at pair
          rcases pair with apart | ⟨rfl, limit, shared, fits⟩
          · exact absurd same (joinSuffix_unrelated left right suffix other apart)
          · have cut := (joinSuffix_inj_iff left right suffix.toList).mp same
            have room : ((dnsLabelMaxLength : Int) - suffix.toList.length - 1) =
                ((dnsLabelMaxLength - suffix.toList.length - 1 : Nat) : Int) := by omega
            rw [room] at cut
            exact clash_of_limit first second left right limit shared
              (truncatedLabel_shorter limit _ (by omega) left right cut)

/-! Tenants. -/

def tenantLabel (tenant : Tenant) : List Char := label tenant.instanceName

/-- Two tenants render an object of one kind under one name. -/
def Collide (first second : Tenant) : Prop :=
  ∃ kind name, Renders first kind name ∧ Renders second kind name

theorem renders_iff (tenant : Tenant) (kind : Kind) (name : String) :
    Renders tenant kind name ↔
      ∃ site, (kind, site) ∈ sites tenant.cls ∧
        name = plainName tenant.cls (tenantLabel tenant) site := by
  unfold Renders
  constructor
  · rintro ⟨site, member, ok⟩
    rw [siteName_plain tenant.cls tenant.instanceName kind site member] at ok
    exact ⟨site, member, (Except.ok.inj ok).symm⟩
  · rintro ⟨site, member, rfl⟩
    exact ⟨site, member, siteName_plain tenant.cls tenant.instanceName kind site member⟩

theorem plainName_shape (cls : ClusterClass) (label : List Char) (site : Site)
    (plain : site ≠ .kubeconfig) : plainName cls label site = shapedName label (shape cls site) := by
  cases site <;> first | rfl | exact absurd rfl plain

theorem clash_of_collide (first second : Tenant) (collide : Collide first second) :
    Clash first.cls second.cls (tenantLabel first) (tenantLabel second) := by
  obtain ⟨kind, name, renders, rendersToo⟩ := collide
  obtain ⟨left, leftSite, rfl⟩ := (renders_iff first kind name).mp renders
  obtain ⟨right, rightSite, same⟩ := (renders_iff second kind _).mp rendersToo
  obtain ⟨secrets, pair⟩ := sites_paired first.cls second.cls kind left right leftSite rightSite
  refine clash_of_paired first.cls second.cls _ _ (shape first.cls left) (shape second.cls right)
    pair ?_
  by_cases secret : left = .kubeconfig
  · have also := secrets.mp secret
    subst secret
    subst also
    exact (String.append_left_inj _).mp same
  · have neither : right ≠ .kubeconfig := fun is => secret (secrets.mpr is)
    rwa [plainName_shape _ _ _ secret, plainName_shape _ _ _ neither] at same

/-- The kind and the sites at which two clashing tenants meet. -/
theorem collide_of_sites (first second : Tenant) (kind : Kind) (left right : Site)
    (leftSite : (kind, left) ∈ sites first.cls) (rightSite : (kind, right) ∈ sites second.cls)
    (same : plainName first.cls (tenantLabel first) left =
      plainName second.cls (tenantLabel second) right) : Collide first second :=
  ⟨kind, _, (renders_iff first kind _).mpr ⟨left, leftSite, rfl⟩,
    (renders_iff second kind _).mpr ⟨right, rightSite, same⟩⟩

theorem collide_on_cluster (first second : Tenant)
    (same : shapedName (tenantLabel first) (clusterShape first.cls) =
      shapedName (tenantLabel second) (clusterShape second.cls)) : Collide first second := by
  have everywhere : ∀ cls, (Kind.Cluster, Site.cluster) ∈ sites cls := by
    intro cls
    cases cls <;> decide
  exact collide_of_sites first second .Cluster .cluster .cluster (everywhere _) (everywhere _) same

theorem collide_on_autoscaler (first second : Tenant) (scaled : first.cls ≠ .aks)
    (scaledToo : second.cls ≠ .aks)
    (same : truncatedLabel 46 (tenantLabel first) = truncatedLabel 46 (tenantLabel second)) :
    Collide first second := by
  have site : ∀ cls, cls ≠ .aks →
      (Kind.ClusterRole, Site.autoscaler "autoscaler-infra") ∈ sites cls := by
    intro cls
    cases cls <;> decide
  exact collide_of_sites first second .ClusterRole _ _ (site _ scaled) (site _ scaledToo)
    ((joinSuffix_inj_iff _ _ "autoscaler-infra".toList).mpr same)

theorem collide_of_clash (first second : Tenant)
    (clash : Clash first.cls second.cls (tenantLabel first) (tenantLabel second)) :
    Collide first second := by
  have health : (Kind.MachineHealthCheck, Site.suffixed "control-plane-health") ∈
      sites .localClass := by decide
  have pool : (Kind.MachinePool, Site.suffixed "compute") ∈ sites .aks := by decide
  obtain ⟨firstName, firstClass⟩ := first
  obtain ⟨secondName, secondClass⟩ := second
  -- Where suffixes decide, the objects with the longest suffix collide.
  cases firstClass <;> cases secondClass
  · exact collide_of_sites _ _ .MachineHealthCheck _ _ health health
      ((joinSuffix_inj_iff _ _ "control-plane-health".toList).mpr clash)
  · exact collide_on_cluster _ _ ((clusterName_agree_iff _ _ _ _).mpr clash)
  · rcases clash with cut | finished
    · exact collide_on_autoscaler _ _ (by simp) (by simp) cut
    · exact collide_on_cluster _ _ ((clusterName_agree_iff _ _ _ _).mpr finished)
  · exact collide_on_cluster _ _ ((clusterName_agree_iff _ _ _ _).mpr clash)
  · exact collide_of_sites _ _ .MachinePool _ _ pool pool
      ((joinSuffix_inj_iff _ _ "compute".toList).mpr clash)
  · exact collide_on_cluster _ _ ((clusterName_agree_iff _ _ _ _).mpr clash)
  · rcases clash with cut | finished
    · exact collide_on_autoscaler _ _ (by simp) (by simp) cut
    · exact collide_on_cluster _ _ ((clusterName_agree_iff _ _ _ _).mpr finished)
  · exact collide_on_cluster _ _ ((clusterName_agree_iff _ _ _ _).mpr clash)
  · exact collide_on_autoscaler _ _ (by simp) (by simp) clash

/-- No two tenants of a configuration share an object exactly when no two of
them clash. -/
theorem names_apart_iff (config : TenantsConfig) :
    (∀ first ∈ config.workloadClusters, ∀ second ∈ config.workloadClusters,
      first.instanceName ≠ second.instanceName → ¬ Collide first second) ↔
    (∀ first ∈ config.workloadClusters, ∀ second ∈ config.workloadClusters,
      first.instanceName ≠ second.instanceName →
        ¬ Clash first.cls second.cls (tenantLabel first) (tenantLabel second)) := by
  constructor
  · intro apart first member second secondMember differ clash
    exact apart first member second secondMember differ (collide_of_clash first second clash)
  · intro free first member second secondMember differ collide
    exact free first member second secondMember differ (clash_of_collide first second collide)

def teamA : Tenant := ⟨⟨"a", by decide⟩, .localClass⟩
def teamAWorkload : Tenant := ⟨⟨"a-workload", by decide⟩, .aks⟩

/-- A local tenant `a` and an AKS tenant `a-workload` both own the Cluster `a-workload`. -/
theorem workload_tenant_collides :
    ∃ config : TenantsConfig, teamA ∈ config.workloadClusters ∧
      teamAWorkload ∈ config.workloadClusters ∧
      teamA.instanceName ≠ teamAWorkload.instanceName ∧
      Renders teamA .Cluster "a-workload" ∧ Renders teamAWorkload .Cluster "a-workload" := by
  refine ⟨⟨[teamA, teamAWorkload], by decide⟩, by simp, by simp, by decide, ?_, ?_⟩
  · exact ⟨.cluster, by decide, by decide⟩
  · exact ⟨.cluster, by decide, by decide⟩

end ClusterApiForSlinky.TenantCollisions
