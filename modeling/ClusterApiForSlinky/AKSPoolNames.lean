import ClusterApiForSlinky.NodePools
import ClusterApiForSlinky.TenantCollisions

/-!
The names an AKS workload cluster derives for its pools. A pool has the name of
its Kubernetes objects and the AKS pool name; both are cut to a length, and
nothing checks the cuts against each other as Azure BYO does.
-/

namespace ClusterApiForSlinky.AKSPoolNames
open ResourceNames NodePools NodePools.AKS

/-- `_aks_pool_name` once it has letters to work with. -/
def poolNameChars (pool : NodePoolSpec) : List Char :=
  (if pool.controller then "sys".toList ++ poolLetters pool.name.text
    else poolLetters pool.name.text).take aksPoolNameMaxLength

theorem aksPoolName_ok_iff (pool : NodePoolSpec) (name : String) :
    aksPoolName pool = .ok name ↔
      poolLetters pool.name.text ≠ [] ∧ name = String.ofList (poolNameChars pool) := by
  unfold aksPoolName poolNameChars
  by_cases empty : poolLetters pool.name.text = []
  · simp [empty]
  · simp only [empty, if_false, Except.ok.injEq, ne_eq, not_false_eq_true, true_and]
    exact eq_comm

def renderedEntry (entry : NodePoolSpec × String) : MachinePool :=
  { name := entry.2
    aksPoolName := String.ofList (poolNameChars entry.1)
    mode := if entry.1.controller then "System" else "User"
    nodeLabels := [(nodeTypeLabel, entry.1.nodeType.text)]
    scaling := entry.1.autoscalingBounds.map (fun bounds => (bounds.1.value, bounds.2.value))
    replicas := entry.1.replicas.value
    ignoreChanges := none }

theorem machinePool_ok_iff (entry : NodePoolSpec × String) (result : MachinePool) :
    machinePool entry = .ok result ↔
      poolLetters entry.1.name.text ≠ [] ∧ result = renderedEntry entry := by
  unfold machinePool
  rw [Effect.bind_eq_ok]
  simp only [aksPoolName_ok_iff]
  constructor
  · rintro ⟨_, ⟨present, rfl⟩, same⟩
    exact ⟨present, (Except.ok.inj same).symm⟩
  · rintro ⟨present, rfl⟩
    exact ⟨_, ⟨present, rfl⟩, rfl⟩

def objectName (instanceName : String) (pool : NodePoolSpec) : String :=
  joinSuffix (normalizedLabel instanceName) pool.name.text.toList

def rendered (instanceName : String) (pool : NodePoolSpec) : MachinePool :=
  renderedEntry (pool, objectName instanceName pool)

/-- What the class accepts, and what it then renders. -/
theorem infrastructure_ok_iff (instanceName : String) (pools : List NodePoolSpec)
    (results : List MachinePool) :
    infrastructure instanceName pools = .ok results ↔
      normalizedLabel instanceName ≠ [] ∧ pools ≠ [] ∧
      (∀ pool ∈ pools, poolLetters pool.name.text ≠ []) ∧
      results = pools.map (rendered instanceName) := by
  unfold infrastructure
  by_cases empty : normalizedLabel instanceName = []
  · simp [AKS.resourceName, clusterNameOf, empty, bind, Except.bind]
  · have cluster : ∃ name, AKS.resourceName instanceName none = .ok name := by
      simp [AKS.resourceName, clusterNameOf, empty]
    obtain ⟨name, named⟩ := cluster
    have names : pools.mapM (fun pool => AKS.resourceName instanceName (some pool.name.text)) =
        .ok (pools.map (objectName instanceName)) := by
      refine (Effect.mapM_render _ (fun _ => True) _ ?_ _ _).mpr ⟨fun _ _ => trivial, rfl⟩
      intro pool result
      simp [AKS.resourceName, resourceNameOf, empty, objectName, eq_comm]
    have pairs : pools.zip (pools.map (objectName instanceName)) =
        pools.map (fun pool => (pool, objectName instanceName pool)) := by
      conv_lhs => rw [← List.map_id pools]
      rw [List.map_map]
      exact List.zip_map'
    simp only [Effect.bind_eq_ok, named, names, pairs, Except.ok.injEq, exists_eq_left',
      Effect.mapM_render machinePool _ _ machinePool_ok_iff]
    constructor
    · rintro ⟨all, ⟨letters, rfl⟩, chosen⟩
      split at chosen
      · cases chosen
      · next some_pool =>
        refine ⟨empty, ?_, ?_, ?_⟩
        · rintro rfl
          exact some_pool rfl
        · intro pool member
          exact letters _ (List.mem_map.mpr ⟨pool, member, rfl⟩)
        · rw [← Except.ok.inj chosen, List.map_map]
          rfl
    · rintro ⟨_, some_pool, letters, rfl⟩
      refine ⟨pools.map (rendered instanceName), ⟨?_, ?_⟩, ?_⟩
      · intro entry member
        obtain ⟨pool, inside, rfl⟩ := List.mem_map.mp member
        exact letters pool inside
      · rw [List.map_map]
        rfl
      · rw [if_neg]
        simpa using some_pool

/-! What the names should be, and when they are. -/

/-- `[a-z][a-z0-9]{0,11}` -/
def LegalPoolName (name : String) : Prop :=
  ∃ first rest, name.toList = first :: rest ∧ ('a' ≤ first ∧ first ≤ 'z') ∧
    (∀ char ∈ rest, isLabelChar char = true) ∧ rest.length ≤ 11

structure NamesSound (pools : List MachinePool) : Prop where
  objects : (pools.map MachinePool.name).Nodup
  unique : (pools.map MachinePool.aksPoolName).Nodup
  legal : ∀ pool ∈ pools, LegalPoolName pool.aksPoolName

/-- Two user pools need different first twelve letters, two controller pools
different first nine, and a user pool must not look like a controller pool. -/
def LettersApart (left right : NodePoolSpec) : Prop :=
  let user (pool : NodePoolSpec) := (poolLetters pool.name.text).take 12
  let controller (pool : NodePoolSpec) := (poolLetters pool.name.text).take 9
  match left.controller, right.controller with
  | false, false => user left ≠ user right
  | true, true => controller left ≠ controller right
  | true, false => "sys".toList ++ controller left ≠ user right
  | false, true => user left ≠ "sys".toList ++ controller right

/-- What is left of the instance in front of a pool's name. -/
def kept (instanceName : String) (pool : NodePoolSpec) : List Char :=
  truncatedLabel (dnsLabelMaxLength - pool.name.text.toList.length - 1)
    (normalizedLabel instanceName)

/-- The longer pool name ends with the shorter one, and what stands before it
makes up for the letters that the instance loses to it. -/
def Completes (instanceName : String) (longer shorter : NodePoolSpec) : Prop :=
  ∃ extra, longer.name.text.toList = extra ++ '-' :: shorter.name.text.toList ∧
    kept instanceName shorter = kept instanceName longer ++ '-' :: extra

structure NamesApart (instanceName : String) (pools : List NodePoolSpec) : Prop where
  letters : pools.Pairwise LettersApart
  start : ∀ pool ∈ pools, pool.controller = false →
    ∃ first rest, poolLetters pool.name.text = first :: rest ∧ 'a' ≤ first ∧ first ≤ 'z'
  objects : pools.Pairwise (fun left right =>
    ¬Completes instanceName left right ∧ ¬Completes instanceName right left)

theorem poolNameChars_eq (pool : NodePoolSpec) :
    poolNameChars pool =
      if pool.controller then "sys".toList ++ (poolLetters pool.name.text).take 9
      else (poolLetters pool.name.text).take 12 := by
  unfold poolNameChars
  split
  · rw [List.take_append]
    rfl
  · rfl

theorem lettersApart_iff (left right : NodePoolSpec) :
    LettersApart left right ↔ poolNameChars left ≠ poolNameChars right := by
  rw [poolNameChars_eq, poolNameChars_eq, LettersApart]
  cases left.controller <;> cases right.controller <;> simp

/-- Two cuts with a dash and a name agree when the names do, or when one name
is a tail of the other and the cut in front of it differs by the rest. -/
theorem dash_append_eq_iff (left right first second : List Char) (distinct : first ≠ second) :
    left ++ '-' :: first = right ++ '-' :: second ↔
      (∃ extra, first = extra ++ '-' :: second ∧ right = left ++ '-' :: extra) ∨
        ∃ extra, second = extra ++ '-' :: first ∧ left = right ++ '-' :: extra := by
  rw [List.append_eq_append_iff]
  constructor
  · rintro (⟨middle, same, tail⟩ | ⟨middle, same, tail⟩)
    · cases middle with
      | nil =>
          rw [List.nil_append, List.cons.injEq] at tail
          exact absurd tail.2 distinct
      | cons char extra =>
          rw [List.cons_append, List.cons.injEq] at tail
          exact Or.inl ⟨extra, tail.2, by rw [same, tail.1]⟩
    · cases middle with
      | nil =>
          rw [List.nil_append, List.cons.injEq] at tail
          exact absurd tail.2.symm distinct
      | cons char extra =>
          rw [List.cons_append, List.cons.injEq] at tail
          exact Or.inr ⟨extra, tail.2, by rw [same, tail.1]⟩
  · rintro (⟨extra, name, same⟩ | ⟨extra, name, same⟩)
    · exact Or.inl ⟨'-' :: extra, same, by rw [name, List.cons_append]⟩
    · exact Or.inr ⟨'-' :: extra, same, by rw [name, List.cons_append]⟩

theorem objectName_ne_iff (instanceName : String) (left right : NodePoolSpec)
    (distinct : left.name.text ≠ right.name.text) :
    objectName instanceName left ≠ objectName instanceName right ↔
      ¬Completes instanceName left right ∧ ¬Completes instanceName right left := by
  have apart : left.name.text.toList ≠ right.name.text.toList :=
    fun same => distinct (String.toList_inj.mp same)
  rw [← not_or, ne_eq, not_iff_not, ← String.toList_inj, objectName, objectName,
    TenantCollisions.joinSuffix_toList, TenantCollisions.joinSuffix_toList,
    dash_append_eq_iff _ _ _ _ apart]
  rfl

theorem legal_iff (pool : NodePoolSpec) (present : poolLetters pool.name.text ≠ []) :
    LegalPoolName (String.ofList (poolNameChars pool)) ↔
      (pool.controller = false →
        ∃ first rest, poolLetters pool.name.text = first :: rest ∧ 'a' ≤ first ∧ first ≤ 'z') := by
  have letters : ∀ char ∈ poolLetters pool.name.text, isLabelChar char = true :=
    fun char member => (List.mem_filter.mp member).2
  rw [poolNameChars_eq, LegalPoolName, String.toList_ofList]
  cases role : pool.controller with
  | true =>
      simp only [Bool.true_eq_false, false_implies, iff_true, if_true]
      refine ⟨'s', 'y' :: 's' :: (poolLetters pool.name.text).take 9, rfl, by decide, ?_, ?_⟩
      · intro char member
        rcases List.mem_cons.mp member with rfl | later
        · decide
        · rcases List.mem_cons.mp later with rfl | inside
          · decide
          · exact letters char (List.mem_of_mem_take inside)
      · simp only [List.length_cons, List.length_take]
        omega
  | false =>
      simp only [true_implies, Bool.false_eq_true, if_false]
      cases shape : poolLetters pool.name.text with
      | nil => exact absurd shape present
      | cons first rest =>
          rw [shape] at letters
          simp only [List.take_succ_cons, List.cons.injEq]
          constructor
          · rintro ⟨char, tail, ⟨rfl, _⟩, range, _⟩
            exact ⟨first, rest, ⟨rfl, rfl⟩, range⟩
          · rintro ⟨char, tail, ⟨rfl, _⟩, range⟩
            refine ⟨first, rest.take 11, ⟨rfl, rfl⟩, range, ?_, List.length_take_le _ _⟩
            intro char member
            exact letters char (List.mem_cons_of_mem _ (List.mem_of_mem_take member))

theorem nodup_map_iff {Item Name : Type} (name : Item → Name) (apart : Item → Item → Prop)
    (items : List Item)
    (same : items.Pairwise (fun left right => name left ≠ name right ↔ apart left right)) :
    (items.map name).Nodup ↔ items.Pairwise apart := by
  rw [List.Nodup, List.pairwise_map]
  induction items with
  | nil => simp
  | cons item rest ih =>
      obtain ⟨here, later⟩ := List.pairwise_cons.mp same
      rw [List.pairwise_cons, List.pairwise_cons, ih later]
      exact and_congr_left fun _ => forall₂_congr fun other member => here other member

/-- The pool loop keeps the names apart only where the cuts happen to differ. -/
theorem aks_pool_names_sound_iff (instanceName : String) (pools : List NodePoolSpec)
    (results : List MachinePool)
    (distinct : pools.Pairwise (fun left right => left.name.text ≠ right.name.text))
    (accepted : infrastructure instanceName pools = .ok results) :
    NamesSound results ↔ NamesApart instanceName pools := by
  obtain ⟨_, _, letters, rfl⟩ := (infrastructure_ok_iff instanceName pools results).mp accepted
  have objects : ((pools.map (rendered instanceName)).map MachinePool.name).Nodup ↔
      pools.Pairwise (fun left right =>
        ¬Completes instanceName left right ∧ ¬Completes instanceName right left) := by
    rw [List.map_map]
    exact nodup_map_iff _ _ pools
      (distinct.imp fun apart => objectName_ne_iff instanceName _ _ apart)
  have poolNames : ((pools.map (rendered instanceName)).map MachinePool.aksPoolName).Nodup ↔
      pools.Pairwise LettersApart := by
    rw [List.map_map]
    refine nodup_map_iff _ _ pools (distinct.imp ?_)
    intro left right _
    rw [lettersApart_iff]
    exact not_congr String.ofList_inj
  have legal : (∀ pool ∈ pools.map (rendered instanceName), LegalPoolName pool.aksPoolName) ↔
      ∀ pool ∈ pools, pool.controller = false → ∃ first rest,
        poolLetters pool.name.text = first :: rest ∧ 'a' ≤ first ∧ first ≤ 'z' := by
    rw [List.forall_mem_map]
    exact forall₂_congr fun pool member => legal_iff pool (letters pool member)
  constructor
  · intro sound
    exact ⟨poolNames.mp sound.unique, legal.mp sound.legal, objects.mp sound.objects⟩
  · intro apart
    exact ⟨objects.mpr apart.objects, poolNames.mpr apart.letters, legal.mpr apart.start⟩

theorem default_pools_sound :
    NamesSound ((defaultNodePools WorkloadConfig.one).map (rendered "team-a")) := by
  -- No name has a dash, so none completes another.
  have undashed : ∀ pool ∈ defaultNodePools WorkloadConfig.one, '-' ∉ pool.name.text.toList := by
    decide
  have incomplete : ∀ longer ∈ defaultNodePools WorkloadConfig.one, ∀ shorter,
      ¬Completes "team-a" longer shorter := by
    rintro longer member shorter ⟨extra, same, -⟩
    exact undashed longer member (by simp [same])
  have letters : (defaultNodePools WorkloadConfig.one).Pairwise
      (fun left right => poolNameChars left ≠ poolNameChars right) := by
    decide
  refine (aks_pool_names_sound_iff "team-a" (defaultNodePools WorkloadConfig.one) _ (by decide)
    ((infrastructure_ok_iff _ _ _).mpr ⟨by decide, by decide, by decide, rfl⟩)).mpr ⟨?_, ?_, ?_⟩
  · exact letters.imp (fun apart => (lettersApart_iff _ _).mpr apart)
  · refine List.forall_mem_cons.mpr ⟨fun user => absurd user (by decide),
      List.forall_mem_cons.mpr ⟨fun _ => ⟨'c', "ompute".toList, by decide⟩, by simp⟩⟩
  · exact List.pairwise_of_forall_mem_list
      (fun left member right other => ⟨incomplete left member right, incomplete right other left⟩)

def userPool (name : NonEmptyStr) : NodePoolSpec :=
  { name := name, nodeType := computeNodeType, replicas := WorkloadConfig.one }

/-- Two compute pools of one GPU family, and a pool named after a size. -/
def clashingPools : List NodePoolSpec :=
  [userPool ⟨"gpu-compute-large-a", by decide⟩, userPool ⟨"gpu-compute-large-b", by decide⟩,
    userPool ⟨"2xlarge", by decide⟩]

theorem clashing_pools_accepted :
    infrastructure "team-a" clashingPools = .ok (clashingPools.map (rendered "team-a")) ∧
    (clashingPools.map (rendered "team-a")).map MachinePool.aksPoolName =
      ["gpucomputela", "gpucomputela", "2xlarge"] ∧
    ¬NamesSound (clashingPools.map (rendered "team-a")) := by
  have names : (clashingPools.map (rendered "team-a")).map MachinePool.aksPoolName =
      ["gpucomputela", "gpucomputela", "2xlarge"] := by decide
  refine ⟨(infrastructure_ok_iff _ _ _).mpr ⟨by decide, by decide, by decide, rfl⟩, names, ?_⟩
  intro sound
  have apart := sound.unique
  rw [names] at apart
  exact absurd apart (by decide)

end ClusterApiForSlinky.AKSPoolNames
