import ClusterApiForSlinky.OrderedMapping
import ClusterApiForSlinky.SdkArtifacts

/-!
The comparison of a generated SDK with the tracked one, and the step that makes
the tracked one equal to it (scripts/regenerate_sdks.py). Both read the trees
through the same filter but work on real paths. A set is walked in an order of
its own, which is a parameter.
-/

namespace ClusterApiForSlinky.SdkReplacement
open FileTree ModelCodec SdkArtifacts

variable {Content : Type}

/-- The order in which the elements of a set come. -/
structure SetOrder where
  arrange : List Path → List Path
  perm : ∀ paths, (arrange paths).Perm paths

inductive Difference where
  | missing (path : Path)
  | untracked (path : Path)
  | content (path : Path)
  deriving DecidableEq

def posix (path : Path) : String := "/".intercalate path

def Difference.message : Difference → String
  | .missing path => "missing generated file: " ++ posix path
  | .untracked path => "untracked generated file: " ++ posix path
  | .content path => "content differs: " ++ posix path

def keys (files : List (Path × Content)) : List Path := files.map Prod.fst

/-- `left.keys() - right.keys()` -/
def keysOnlyIn (left right : List (Path × Content)) : List Path :=
  (keys left).filter (fun path => !(keys right).contains path)

/-- The keys are the paths of the walk that the filter lets through. -/
theorem keys_eq (tree : DirTree Content) : keys (generatedFiles tree) =
    tree.paths.filter (fun path => tree.isFile path && isGenerated path) := by
  unfold keys generatedFiles
  rw [List.map_filterMap, ← List.filterMap_eq_filter]
  congr 1
  funext path
  unfold DirTree.isFile
  cases found : tree.node path with
  | none => simp [Option.guard, found]
  | some node =>
      cases node with
      | directory => simp [Option.guard, found]
      | file content => cases included : isGenerated path <;> simp [Option.guard, found, included]

theorem keys_nodup (tree : DirTree Content) : (keys (generatedFiles tree)).Nodup := by
  rw [keys_eq]
  exact tree.unique.filter _

/-- The dictionary `_generated_files` returns. -/
def generatedContents (tree : DirTree Content) : Mapping Path Content :=
  ⟨generatedFiles tree, keys_nodup tree⟩

def compareTrees [DecidableEq Content] (generated tracked : DirTree Content) : List Difference :=
  let generatedFiles := generatedFiles generated
  let trackedFiles := SdkArtifacts.generatedFiles tracked
  let shared := (keys generatedFiles).filter (fun path => (keys trackedFiles).contains path &&
    (generatedContents generated).lookup path != (generatedContents tracked).lookup path)
  ((keysOnlyIn trackedFiles generatedFiles).mergeSort pathLe).map .missing ++
    ((keysOnlyIn generatedFiles trackedFiles).mergeSort pathLe).map .untracked ++
    (shared.mergeSort pathLe).map .content

/-- `_replace_generated_files` on the directory `tracked` of a repository. -/
def replaceGeneratedFilesIn (order : SetOrder) (generated repo : DirTree Content) (tracked : Path) :
    Except Fault Unit × DirTree Content :=
  let removed := keysOnlyIn (generatedFiles (repo.below tracked)) (generatedFiles generated)
  match forEach unlink repo ((order.arrange removed).map (tracked ++ ·)) with
  | (.ok (), left) =>
      forEach installEach left
        ((generatedFiles generated).map (fun file => (tracked ++ file.1, file.2)))
  | (.error fault, left) => (.error fault, left)

def replaceGeneratedFiles (order : SetOrder) (generated tracked : DirTree Content) :
    Except Fault Unit × DirTree Content :=
  replaceGeneratedFilesIn order generated tracked []

theorem replaceGeneratedFiles_eq (order : SetOrder) (generated tracked : DirTree Content) :
    replaceGeneratedFiles order generated tracked =
      match forEach unlink tracked
          (order.arrange (keysOnlyIn (generatedFiles tracked) (generatedFiles generated))) with
      | (.ok (), left) => forEach installEach left (generatedFiles generated)
      | (.error fault, left) => (.error fault, left) := by
  simp only [replaceGeneratedFiles, replaceGeneratedFilesIn, DirTree.below_root, List.nil_append,
    List.map_id']

theorem mem_keys (tree : DirTree Content) (path : Path) : path ∈ keys (generatedFiles tree) ↔
    tree.isFile path = true ∧ isGenerated path = true := by
  rw [keys_eq, List.mem_filter, Bool.and_eq_true, and_iff_right_of_imp]
  rintro ⟨file, -⟩
  obtain ⟨content, found⟩ := (tree.isFile_iff path).mp file
  rw [tree.listed, found]
  exact ⟨ne_root_of_file tree path content found, Option.some_ne_none _⟩

theorem mem_keysOnlyIn (left right : DirTree Content) (path : Path) :
    path ∈ keysOnlyIn (generatedFiles left) (generatedFiles right) ↔
      left.isFile path = true ∧ isGenerated path = true ∧ right.isFile path = false := by
  simp only [keysOnlyIn, List.mem_filter, mem_keys, Bool.not_eq_true', List.contains_eq_mem,
    decide_eq_false_iff_not, not_and, Bool.not_eq_true]
  constructor
  · rintro ⟨⟨file, included⟩, absent⟩
    refine ⟨file, included, ?_⟩
    cases other : right.isFile path with
    | false => rfl
    | true => rw [absent other] at included; cases included
  · rintro ⟨file, included, absent⟩
    exact ⟨⟨file, included⟩, fun other => by rw [absent] at other; cases other⟩

theorem lookup_generatedContents (tree : DirTree Content) (path : Path) (content : Content)
    (member : (path, content) ∈ generatedFiles tree) :
    (generatedContents tree).lookup path = some content :=
  Mapping.lookup_of_mem (generatedContents tree) path content member

/-- Trees with the same generated files show no difference. -/
theorem compareTrees_nil [DecidableEq Content] (generated tracked : DirTree Content)
    (same : ∀ path, isGenerated path = true → ∀ content,
      generated.node path = some (.file content) ↔ tracked.node path = some (.file content)) :
    compareTrees generated tracked = [] := by
  have files : ∀ path, isGenerated path = true →
      (generated.isFile path = true ↔ tracked.isFile path = true) := by
    intro path included
    rw [generated.isFile_iff, tracked.isFile_iff]
    exact exists_congr (same path included)
  have onlyTracked : keysOnlyIn (generatedFiles tracked) (generatedFiles generated) = [] := by
    rw [List.eq_nil_iff_forall_not_mem]
    intro path member
    obtain ⟨file, included, absent⟩ := (mem_keysOnlyIn tracked generated path).mp member
    rw [(files path included).mpr file] at absent
    cases absent
  have onlyGenerated : keysOnlyIn (generatedFiles generated) (generatedFiles tracked) = [] := by
    rw [List.eq_nil_iff_forall_not_mem]
    intro path member
    obtain ⟨file, included, absent⟩ := (mem_keysOnlyIn generated tracked path).mp member
    rw [(files path included).mp file] at absent
    cases absent
  have differing : (keys (generatedFiles generated)).filter (fun path =>
      (keys (generatedFiles tracked)).contains path &&
        (generatedContents generated).lookup path != (generatedContents tracked).lookup path) =
      [] := by
    rw [List.filter_eq_nil_iff]
    intro path member
    obtain ⟨file, included⟩ := (mem_keys generated path).mp member
    obtain ⟨content, found⟩ := (generated.isFile_iff path).mp file
    have here := lookup_generatedContents generated path content
      ((mem_generatedFiles generated path content).mpr ⟨found, included⟩)
    have there := lookup_generatedContents tracked path content
      ((mem_generatedFiles tracked path content).mpr ⟨(same path included content).mp found, included⟩)
    simp [here, there]
  simp only [compareTrees, onlyTracked, onlyGenerated, differing, List.mergeSort_nil,
    List.map_nil, List.append_nil]

/-- No generated file meets a directory of the tracked tree, or a tracked file
above it that the filter leaves out and so nothing removes. -/
def NoConflict (generated tracked : DirTree Content) : Prop :=
  ∀ path, generated.isFile path = true → isGenerated path = true →
    tracked.isDir path = false ∧
      ∀ above, above <+: path → above ≠ path → tracked.isFile above = true →
        isGenerated above = true

/-- What a replacement has to do. -/
structure Converges [DecidableEq Content] (order : SetOrder) (generated tracked : DirTree Content) :
    Prop where
  returns : ∃ left, replaceGeneratedFiles order generated tracked = (.ok (), left) ∧
    compareTrees generated left = [] ∧
    (∀ path, isGenerated path = false → ∀ node, tracked.node path = some node →
      left.node path = some node) ∧
    (∀ path content, isGenerated path = false → left.node path = some (.file content) →
      tracked.node path = some (.file content)) ∧
    (∀ path, path.headD "" ∈ maintainedRootDirectories → left.node path = tracked.node path) ∧
    ∀ later : SetOrder, ∃ again, replaceGeneratedFiles later generated left = (.ok (), again) ∧
      ∀ path, again.node path = left.node path
  restores : ∀ fault left, replaceGeneratedFiles order generated tracked = (.error fault, left) →
    ∀ path, left.node path = tracked.node path

/-- `above` is a directory on the way to a generated file. -/
def LeadsToGenerated (generated : DirTree Content) (above : Path) : Prop :=
  ∃ path, generated.isFile path = true ∧ isGenerated path = true ∧ above <+: path ∧ above ≠ path

theorem generatedFiles_filled (tree : DirTree Content) (file : Path × Content)
    (member : file ∈ generatedFiles tree) : file.1 ≠ [] := by
  obtain ⟨found, -⟩ := (mem_generatedFiles tree file.1 file.2).mp member
  exact ne_root_of_file tree file.1 file.2 found

/-- A tree has no file above another. -/
theorem generatedFiles_apart (tree : DirTree Content) : ∀ first ∈ generatedFiles tree,
    ∀ second ∈ generatedFiles tree, first.1 <+: second.1 → first.1 = second.1 := by
  intro first member second other start
  obtain ⟨found, -⟩ := (mem_generatedFiles tree first.1 first.2).mp member
  obtain ⟨otherFound, -⟩ := (mem_generatedFiles tree second.1 second.2).mp other
  by_contra proper
  have absent := tree.absent_below_file first.1 second.1 first.2 found start proper
  rw [otherFound] at absent
  cases absent

/-- Where the tracked files that are no longer generated are gone. -/
theorem unlinkedIn_ok (order : SetOrder) (generated repo : DirTree Content) (dir : Path) :
    ∃ middle, forEach unlink repo ((order.arrange (keysOnlyIn (generatedFiles (repo.below dir))
        (generatedFiles generated))).map (dir ++ ·)) = (.ok (), middle) ∧
      (∀ path, middle.node (dir ++ path) =
        if (repo.below dir).isFile path = true ∧ isGenerated path = true ∧
            generated.isFile path = false then none
        else repo.node (dir ++ path)) ∧
      ∀ path, ¬ dir <+: path → middle.node path = repo.node path := by
  have arranged :=
    order.perm (keysOnlyIn (generatedFiles (repo.below dir)) (generatedFiles generated))
  have distinct := (arranged.nodup_iff.mpr ((keys_nodup (repo.below dir)).filter _)).map
    (fun _ _ => List.append_cancel_left : Function.Injective (dir ++ ·))
  have files : ∀ path ∈ (order.arrange (keysOnlyIn (generatedFiles (repo.below dir))
      (generatedFiles generated))).map (dir ++ ·), repo.isFile path = true := by
    intro path member
    obtain ⟨rest, inside, rfl⟩ := List.mem_map.mp member
    have stale := (mem_keysOnlyIn _ generated rest).mp (arranged.mem_iff.mp inside)
    exact ((repo.isFile_below_iff dir rest).mp stale.1).1
  obtain ⟨middle, unlinked, nodes⟩ := unlinkAll_ok repo _ distinct files
  refine ⟨middle, unlinked, ?_, ?_⟩
  · intro path
    rw [nodes]
    refine if_congr ?_ rfl rfl
    rw [List.mem_map_of_injective (fun _ _ => List.append_cancel_left), arranged.mem_iff,
      mem_keysOnlyIn]
  · intro path outside
    rw [nodes, if_neg]
    intro member
    obtain ⟨rest, -, rfl⟩ := List.mem_map.mp member
    exact outside (List.prefix_append dir rest)

theorem unlinked_ok (order : SetOrder) (generated tracked : DirTree Content) :
    ∃ middle, forEach unlink tracked
        (order.arrange (keysOnlyIn (generatedFiles tracked) (generatedFiles generated))) =
        (.ok (), middle) ∧
      ∀ path, middle.node path =
        if tracked.isFile path = true ∧ isGenerated path = true ∧ generated.isFile path = false then
          none
        else tracked.node path := by
  obtain ⟨middle, unlinked, nodes, -⟩ := unlinkedIn_ok order generated tracked []
  simp only [DirTree.below_root, List.nil_append, List.map_id'] at unlinked nodes
  exact ⟨middle, unlinked, nodes⟩

/-- What blocks a generated file once the unlinking is over. -/
theorem blocked_unlinked_iff (generated tracked middle : DirTree Content) (path : Path)
    (nodes : ∀ path, middle.node path =
      if tracked.isFile path = true ∧ isGenerated path = true ∧ generated.isFile path = false then
        none
      else tracked.node path)
    (file : generated.isFile path = true) :
    Blocked middle path ↔ ¬ (tracked.isDir path = false ∧
      ∀ above, above <+: path → above ≠ path → tracked.isFile above = true →
        isGenerated above = true) := by
  obtain ⟨content, found⟩ := (generated.isFile_iff path).mp file
  have present : generated.node path ≠ none := by
    rw [found]
    exact Option.some_ne_none _
  have directory_above : ∀ above, above <+: path → above ≠ path →
      generated.isFile above = false := by
    intro above start proper
    rw [Bool.eq_false_iff, Ne, generated.isFile_iff,
      generated.directory_of_prefix above path start proper present]
    rintro ⟨_, ⟨⟩⟩
  have here : middle.isDir path = tracked.isDir path := by
    have stays : ¬ (tracked.isFile path = true ∧ isGenerated path = true ∧
        generated.isFile path = false) := by
      rintro ⟨-, -, absent⟩
      rw [file] at absent
      cases absent
    unfold DirTree.isDir
    rw [nodes, if_neg stays]
  have above_stays : ∀ above, above <+: path → above ≠ path →
      (middle.isFile above = true ↔
        tracked.isFile above = true ∧ isGenerated above = false) := by
    intro above start proper
    have absent := directory_above above start proper
    rw [middle.isFile_iff, nodes]
    cases old : tracked.isFile above with
    | false =>
        rw [if_neg (by simp), ← tracked.isFile_iff, old]
        simp
    | true =>
        cases included : isGenerated above with
        | true => simp [absent]
        | false =>
            rw [if_neg (by simp), ← tracked.isFile_iff, old]
            simp
  rw [Blocked, here, not_and_or, Bool.not_eq_false]
  apply or_congr_right
  simp only [not_forall, exists_prop]
  constructor
  · rintro ⟨above, start, proper, remains⟩
    obtain ⟨old, excluded⟩ := (above_stays above start proper).mp remains
    exact ⟨above, start, proper, old, by simp [excluded]⟩
  · rintro ⟨above, start, proper, old, excluded⟩
    exact ⟨above, start, proper, (above_stays above start proper).mpr
      ⟨old, Bool.eq_false_iff.mpr excluded⟩⟩

/-- What a replacement without a conflict leaves behind. -/
structure Replaced (generated tracked left : DirTree Content) : Prop where
  files : ∀ path content, generated.node path = some (.file content) → isGenerated path = true →
    left.node path = some (.file content)
  directories : ∀ path, LeadsToGenerated generated path → left.node path = some .directory
  others : ∀ path, ¬ (generated.isFile path = true ∧ isGenerated path = true) →
    ¬ LeadsToGenerated generated path → left.node path =
      if tracked.isFile path = true ∧ isGenerated path = true then none else tracked.node path

theorem replace_ok (order : SetOrder) (generated tracked : DirTree Content)
    (free : NoConflict generated tracked) :
    ∃ left, replaceGeneratedFiles order generated tracked = (.ok (), left) ∧
      Replaced generated tracked left := by
  obtain ⟨middle, unlinked, nodes⟩ := unlinked_ok order generated tracked
  have clear : ∀ file ∈ generatedFiles generated, ¬ Blocked middle file.1 := by
    intro file member
    obtain ⟨found, included⟩ := (mem_generatedFiles generated file.1 file.2).mp member
    have isFile := (generated.isFile_iff file.1).mpr ⟨file.2, found⟩
    rw [blocked_unlinked_iff generated tracked middle file.1 nodes isFile, not_not]
    exact free file.1 isFile included
  obtain ⟨left, installed, files, directories, others⟩ := installAll_ok middle _
    (generatedFiles_filled generated) (keys_nodup generated) (generatedFiles_apart generated) clear
  refine ⟨left, by rw [replaceGeneratedFiles_eq, unlinked]; exact installed, ?_, ?_, ?_⟩
  · intro path content found included
    exact files (path, content) ((mem_generatedFiles generated path content).mpr ⟨found, included⟩)
  · rintro path ⟨below, file, included, start, proper⟩
    obtain ⟨content, found⟩ := (generated.isFile_iff below).mp file
    exact directories path ⟨(below, content),
      (mem_generatedFiles generated below content).mpr ⟨found, included⟩, start, proper⟩
  · intro path notFile notAbove
    have elsewhere : ∀ file ∈ generatedFiles generated, ¬ path <+: file.1 := by
      intro file member start
      obtain ⟨found, included⟩ := (mem_generatedFiles generated file.1 file.2).mp member
      have isFile := (generated.isFile_iff file.1).mpr ⟨file.2, found⟩
      by_cases same : path = file.1
      · exact notFile (same ▸ ⟨isFile, included⟩)
      · exact notAbove ⟨file.1, isFile, included, start, same⟩
    rw [others path elsewhere, nodes]
    apply if_congr _ rfl rfl
    constructor
    · rintro ⟨old, included, -⟩
      exact ⟨old, included⟩
    · rintro ⟨old, included⟩
      exact ⟨old, included, Bool.eq_false_iff.mpr (fun file => notFile ⟨file, included⟩)⟩

section
variable {generated tracked left : DirTree Content}

/-- The generated files of the two trees are then the same. -/
theorem Replaced.same_files (replaced : Replaced generated tracked left) (path : Path)
    (included : isGenerated path = true) (content : Content) :
    generated.node path = some (.file content) ↔ left.node path = some (.file content) := by
  constructor
  · exact fun found => replaced.files path content found included
  · intro found
    by_cases file : generated.isFile path = true
    · obtain ⟨other, foundOther⟩ := (generated.isFile_iff path).mp file
      rw [replaced.files path other foundOther included] at found
      rw [foundOther, found]
    · by_cases leads : LeadsToGenerated generated path
      · rw [replaced.directories path leads] at found
        cases found
      · rw [replaced.others path (fun both => file both.1) leads] at found
        split at found
        · cases found
        · next stays =>
            exact absurd ⟨(tracked.isFile_iff path).mpr ⟨content, found⟩, included⟩ stays

/-- What the filter leaves out stays. -/
theorem Replaced.keeps (replaced : Replaced generated tracked left)
    (free : NoConflict generated tracked) (path : Path) (excluded : isGenerated path = false)
    (node : Node Content) (found : tracked.node path = some node) :
    left.node path = some node := by
  by_cases leads : LeadsToGenerated generated path
  · rw [replaced.directories path leads]
    cases node with
    | directory => rfl
    | file content =>
        obtain ⟨below, file, included, start, proper⟩ := leads
        have old := (tracked.isFile_iff path).mpr ⟨content, found⟩
        rw [(free below file included).2 path start proper old] at excluded
        cases excluded
  · rw [replaced.others path _ leads, if_neg, found]
    · simp [excluded]
    · simp [excluded]

theorem Replaced.adds_nothing (replaced : Replaced generated tracked left) (path : Path)
    (content : Content) (excluded : isGenerated path = false)
    (found : left.node path = some (.file content)) :
    tracked.node path = some (.file content) := by
  by_cases leads : LeadsToGenerated generated path
  · rw [replaced.directories path leads] at found
    cases found
  · rwa [replaced.others path (by simp [excluded]) leads, if_neg (by simp [excluded])] at found

/-- Nothing generated is below a directory that is maintained by hand. -/
theorem Replaced.keeps_maintained (replaced : Replaced generated tracked left) (path : Path)
    (maintained : path.headD "" ∈ maintainedRootDirectories) :
    left.node path = tracked.node path := by
  have excluded : ∀ below, path <+: below → isGenerated below = false := by
    rintro below ⟨rest, rfl⟩
    cases path with
    | nil => exact absurd maintained (by decide)
    | cons first others =>
        have directory : first ∈ maintainedRootDirectories := maintained
        simp [isGenerated, isMaintained, directory]
  have leads : ¬ LeadsToGenerated generated path := by
    rintro ⟨below, -, included, start, -⟩
    rw [excluded below start] at included
    cases included
  have here := excluded path List.prefix_rfl
  rw [replaced.others path (by simp [here]) leads, if_neg (by simp [here])]

theorem Replaced.noConflict (replaced : Replaced generated tracked left) :
    NoConflict generated left := by
  intro path file included
  obtain ⟨content, found⟩ := (generated.isFile_iff path).mp file
  constructor
  · rw [Bool.eq_false_iff, Ne, left.isDir_iff, replaced.files path content found included]
    rintro ⟨⟩
  · intro above start proper other
    rw [left.isFile_iff, replaced.directories above ⟨path, file, included, start, proper⟩] at other
    obtain ⟨_, ⟨⟩⟩ := other

/-- Another replacement by the same generated tree changes nothing. -/
theorem Replaced.again {again : DirTree Content} (replaced : Replaced generated tracked left)
    (later : Replaced generated left again) (path : Path) : again.node path = left.node path := by
  by_cases file : generated.isFile path = true ∧ isGenerated path = true
  · obtain ⟨content, found⟩ := (generated.isFile_iff path).mp file.1
    rw [replaced.files path content found file.2, later.files path content found file.2]
  · by_cases leads : LeadsToGenerated generated path
    · rw [replaced.directories path leads, later.directories path leads]
    · rw [later.others path file leads, if_neg]
      rintro ⟨old, included⟩
      obtain ⟨content, found⟩ := (left.isFile_iff path).mp old
      have there := (replaced.same_files path included content).mpr found
      exact file ⟨(generated.isFile_iff path).mpr ⟨content, there⟩, included⟩

end

/-- A conflict makes the replacement raise. -/
theorem replace_blocked (order : SetOrder) (generated tracked : DirTree Content)
    (conflict : ¬ NoConflict generated tracked) :
    ∃ fault left, replaceGeneratedFiles order generated tracked = (.error fault, left) := by
  obtain ⟨middle, unlinked, nodes⟩ := unlinked_ok order generated tracked
  simp only [NoConflict, not_forall] at conflict
  obtain ⟨path, isFile, included, conflict⟩ := conflict
  obtain ⟨content, found⟩ := (generated.isFile_iff path).mp isFile
  have blocked := (blocked_unlinked_iff generated tracked middle path nodes isFile).mpr conflict
  obtain ⟨fault, left, raised⟩ := installAll_blocked middle _ (generatedFiles_filled generated)
    (path, content) ((mem_generatedFiles generated path content).mpr ⟨found, included⟩) blocked
  exact ⟨fault, left, by rw [replaceGeneratedFiles_eq, unlinked]; exact raised⟩

theorem converges_iff [DecidableEq Content] (order : SetOrder) (generated tracked : DirTree Content) :
    Converges order generated tracked ↔ NoConflict generated tracked := by
  constructor
  · intro converges
    by_contra conflict
    obtain ⟨left, returned, -⟩ := converges.returns
    obtain ⟨fault, other, raised⟩ := replace_blocked order generated tracked conflict
    rw [raised] at returned
    cases returned
  · intro free
    obtain ⟨left, returned, replaced⟩ := replace_ok order generated tracked free
    constructor
    · refine ⟨left, returned, ?_, replaced.keeps free, ?_, replaced.keeps_maintained, ?_⟩
      · exact compareTrees_nil generated left replaced.same_files
      · exact fun path content excluded found => replaced.adds_nothing path content excluded found
      · intro later
        obtain ⟨again, done, laterReplaced⟩ := replace_ok later generated left replaced.noConflict
        exact ⟨again, done, replaced.again laterReplaced⟩
    · intro fault other raised
      rw [returned] at raised
      cases raised

/-- The elements in the order of the walk. -/
def SetOrder.unchanged : SetOrder := ⟨id, fun paths => List.Perm.refl paths⟩

/-- The tracked SDK has a package where the generated one has a file. The files
of the package and the module that is gone are unlinked before the write raises. -/
def trackedPackage : DirTree String :=
  (forEach installEach DirTree.empty [(["setup.py"], "setup()"), (["docs", "index.md"], "# SDK")]).2

def generatedPage : DirTree String :=
  (forEach installEach DirTree.empty [(["docs"], "# SDK")]).2

theorem directory_blocks_replacement :
    (replaceGeneratedFiles .unchanged generatedPage trackedPackage).1 =
        .error (.isADirectory ["docs"]) ∧
      trackedPackage.isFile ["setup.py"] = true ∧
      (replaceGeneratedFiles .unchanged generatedPage trackedPackage).2.isFile ["setup.py"] = false ∧
      ¬ Converges .unchanged generatedPage trackedPackage := by
  have raised : (replaceGeneratedFiles .unchanged generatedPage trackedPackage).1 =
      .error (.isADirectory ["docs"]) := by decide +kernel
  refine ⟨raised, by decide +kernel, by decide +kernel, ?_⟩
  intro converges
  obtain ⟨left, returned, -⟩ := converges.returns
  rw [returned] at raised
  cases raised

end ClusterApiForSlinky.SdkReplacement
