import ClusterApiForSlinky.FileTree
import ClusterApiForSlinky.Text
import Mathlib.Data.String.Basic

/-!
Build artifacts in the trees of the generated SDKs (scripts/regenerate_sdks.py):
what is listed and removed as one, and what the comparison of two trees leaves
out. `above` are the names on the way from the file system's root to the root of
a tree, its own included.
-/

namespace ClusterApiForSlinky.SdkArtifacts
open FileTree

universe u
variable {Content : Type u}

def maintainedRootFiles : List String := [".gitattributes", ".gitignore", "LICENSE", "README.md"]
def maintainedRootDirectories : List String := ["crds"]
def artifactDirectoryNames : List String := ["build", "dist", "__pycache__"]
def artifactSuffixes : List String := [".egg-info"]
def artifactFileSuffixes : List String := [".pyc", ".pyo"]

/-- `name.endswith(suffixes)` -/
def endsWith (name : String) (suffixes : List String) : Bool :=
  suffixes.any (fun suffix => suffix.toList.isSuffixOf name.toList)

def nameOf (path : Path) : String := path.getLastD ""

def isArtifactName (name : String) : Bool :=
  artifactDirectoryNames.contains name || endsWith name artifactSuffixes

def isMaintained (relative : Path) : Bool :=
  (relative.length == 1 && maintainedRootFiles.contains (nameOf relative)) ||
    maintainedRootDirectories.contains (relative.headD "")

def isArtifactByName (relative : Path) : Bool :=
  relative.any artifactDirectoryNames.contains || relative.any (endsWith · artifactSuffixes) ||
    endsWith (nameOf relative) artifactFileSuffixes

def isGenerated (relative : Path) : Bool := !isMaintained relative && !isArtifactByName relative

/-- `_generated_files`, in the order of the walk. -/
def generatedFiles (tree : DirTree Content) : List (Path × Content) :=
  tree.paths.filterMap (fun relative =>
    match tree.node relative with
    | some (.file content) => if isGenerated relative then some (relative, content) else none
    | _ => none)

/-- A directory above the path has the name of an artifact directory. -/
def isHidden (above : List String) (relative : Path) : Bool :=
  (above ++ relative.dropLast).any artifactDirectoryNames.contains

def isArtifact (tree : DirTree Content) (relative : Path) : Bool :=
  (tree.isDir relative && isArtifactName (nameOf relative)) ||
    (tree.isFile relative && endsWith (nameOf relative) artifactFileSuffixes)

/-- Paths are compared part by part. -/
def pathLe : Path → Path → Bool
  | [], _ => true
  | _ :: _, [] => false
  | first :: rest, other :: others => if first = other then pathLe rest others else first < other

def artifactPaths (above : List String) (tree : DirTree Content) : List Path :=
  (tree.paths.filter (fun relative => !isHidden above relative && isArtifact tree relative)).mergeSort
    pathLe

def removeArtifact (tree : DirTree Content) (path : Path) : Except Fault (DirTree Content) :=
  if tree.isDir path then rmtree tree path else unlink tree path

def removeAll (tree : DirTree Content) (paths : List Path) : Except Fault Unit × DirTree Content :=
  forEach removeArtifact tree paths

def cleanArtifacts (above : List String) (tree : DirTree Content) (check : Bool) :
    Except Fault Bool × DirTree Content :=
  let artifacts := artifactPaths above tree
  if check then (.ok artifacts.isEmpty, tree)
  else match removeAll tree artifacts with
    | (.ok (), left) => (.ok artifacts.isEmpty, left)
    | (.error fault, left) => (.error fault, left)

theorem artifact_listed (tree : DirTree Content) (path : Path) (artifact : isArtifact tree path = true) :
    path ∈ tree.paths := by
  rw [isArtifact, Bool.or_eq_true, Bool.and_eq_true, Bool.and_eq_true] at artifact
  rw [tree.listed]
  rcases artifact with ⟨directory, named⟩ | ⟨file, -⟩
  · constructor
    · rintro rfl
      exact absurd named (by decide)
    · rw [(tree.isDir_iff path).mp directory]
      exact Option.some_ne_none _
  · obtain ⟨content, found⟩ := (tree.isFile_iff path).mp file
    refine ⟨ne_root_of_file tree path content found, ?_⟩
    rw [found]
    exact Option.some_ne_none _

theorem mem_artifactPaths (above : List String) (tree : DirTree Content) (path : Path) :
    path ∈ artifactPaths above tree ↔
      isHidden above path = false ∧ isArtifact tree path = true := by
  unfold artifactPaths
  rw [List.mem_mergeSort, List.mem_filter, Bool.and_eq_true, Bool.not_eq_true']
  exact and_iff_right_of_imp (fun kind => artifact_listed tree path kind.2)

theorem mem_generatedFiles (tree : DirTree Content) (path : Path) (content : Content) :
    (path, content) ∈ generatedFiles tree ↔
      tree.node path = some (.file content) ∧ isGenerated path = true := by
  unfold generatedFiles
  rw [List.mem_filterMap]
  constructor
  · rintro ⟨relative, -, read⟩
    split at read
    · next held found =>
        split at read
        · next included =>
            cases read
            exact ⟨found, included⟩
        · cases read
    · cases read
  · rintro ⟨found, included⟩
    refine ⟨path, (tree.listed path).mpr ⟨ne_root_of_file tree path content found, ?_⟩, ?_⟩
    · rw [found]
      exact Option.some_ne_none _
    · rw [found]
      exact if_pos included

/-! Removing. -/

theorem isFile_or_isDir (tree : DirTree Content) (path : Path) (present : tree.node path ≠ none) :
    tree.isFile path = true ∨ tree.isDir path = true := by
  cases found : tree.node path with
  | none => exact absurd found present
  | some node =>
      cases node with
      | file content => exact Or.inl ((tree.isFile_iff path).mpr ⟨content, found⟩)
      | directory => exact Or.inr ((tree.isDir_iff path).mpr found)

theorem removeArtifact_ok (tree : DirTree Content) (path : Path) (listed : path ∈ tree.paths) :
    ∃ left, removeArtifact tree path = .ok left ∧
      ∀ other, left.node other = if path <+: other then none else tree.node other := by
  obtain ⟨filled, present⟩ := (tree.listed path).mp listed
  unfold removeArtifact
  cases directory : tree.isDir path with
  | true => exact rmtree_ok tree path filled directory
  | false =>
      have file := (isFile_or_isDir tree path present).resolve_right (by simp [directory])
      obtain ⟨left, unlinked, nodes⟩ := unlink_ok tree path file
      refine ⟨left, unlinked, ?_⟩
      intro other
      rw [nodes]
      by_cases same : other = path
      · rw [if_pos same, if_pos (same ▸ List.prefix_rfl)]
      · rw [if_neg same]
        split
        · next below =>
            obtain ⟨content, found⟩ := (tree.isFile_iff path).mp file
            exact tree.absent_below_file path other content found below (Ne.symm same)
        · rfl

/-- Paths of which none is below another are removed without fail, and nothing else is. -/
theorem removeAll_ok (tree : DirTree Content) (paths : List Path)
    (listed : ∀ path ∈ paths, path ∈ tree.paths)
    (apart : paths.Pairwise (fun first second => ¬ first <+: second)) :
    ∃ left, removeAll tree paths = (.ok (), left) ∧ ∀ other, left.node other =
      if ∃ path ∈ paths, path <+: other then none else tree.node other := by
  induction paths generalizing tree with
  | nil => exact ⟨tree, rfl, fun other => by simp⟩
  | cons path rest ih =>
      obtain ⟨here, later⟩ := List.forall_mem_cons.mp listed
      obtain ⟨others, restApart⟩ := List.pairwise_cons.mp apart
      obtain ⟨middle, removed, nodes⟩ := removeArtifact_ok tree path here
      have restListed : ∀ other ∈ rest, other ∈ middle.paths := by
        intro other member
        obtain ⟨filled, present⟩ := (tree.listed other).mp (later other member)
        rw [middle.listed, nodes, if_neg (others other member)]
        exact ⟨filled, present⟩
      obtain ⟨left, done, leftNodes⟩ := ih middle restListed restApart
      refine ⟨left, by rw [removeAll, forEach, removed]; exact done, ?_⟩
      intro other
      rw [leftNodes, nodes]
      by_cases below : path <+: other <;> simp [below]

/-! Which files go. -/

theorem isArtifactByName_iff (relative : Path) : isArtifactByName relative = true ↔
    (∃ part ∈ relative, isArtifactName part = true) ∨
      endsWith (nameOf relative) artifactFileSuffixes = true := by
  simp only [isArtifactByName, isArtifactName, Bool.or_eq_true, List.any_eq_true]
  constructor
  · rintro ((⟨part, member, named⟩ | ⟨part, member, suffixed⟩) | compiled)
    · exact Or.inl ⟨part, member, Or.inl named⟩
    · exact Or.inl ⟨part, member, Or.inr suffixed⟩
    · exact Or.inr compiled
  · rintro (⟨part, member, named | suffixed⟩ | compiled)
    · exact Or.inl (Or.inl ⟨part, member, named⟩)
    · exact Or.inl (Or.inr ⟨part, member, suffixed⟩)
    · exact Or.inr compiled

theorem nameOf_mem (path : Path) (filled : path ≠ []) : nameOf path ∈ path := by
  rw [nameOf, List.getLastD_eq_getLast?, List.getLast?_eq_getLast_of_ne_nil filled]
  exact List.getLast_mem filled

/-- A file lies in a directory with an artifact's name, or is a compiled one. -/
def GoesWithArtifacts (path : Path) : Prop :=
  (∃ part ∈ path.dropLast, isArtifactName part = true) ∨
    endsWith (nameOf path) artifactFileSuffixes = true

/-- The outermost directory with an artifact's name is listed. -/
theorem outermost_artifact (tree : DirTree Content) (path : Path) (rest : Path) (further : rest ≠ [])
    (present : tree.node (path ++ rest) ≠ none) (named : ∃ part ∈ path, isArtifactName part = true) :
    ∃ artifact ∈ artifactPaths [] tree, artifact <+: path := by
  induction path using List.reverseRecOn generalizing rest with
  | nil =>
      obtain ⟨part, member, -⟩ := named
      cases member
  | append_singleton path name ih =>
      by_cases earlier : ∃ part ∈ path, isArtifactName part = true
      · have deeper : tree.node (path ++ (name :: rest)) ≠ none := by simpa using present
        obtain ⟨artifact, listed, start⟩ := ih (name :: rest) (List.cons_ne_nil _ _) deeper earlier
        exact ⟨artifact, listed, start.trans (List.prefix_append _ _)⟩
      · have directory := tree.directory_above (path ++ [name]) rest further present
        have last : isArtifactName name = true := by
          obtain ⟨part, member, isNamed⟩ := named
          rcases List.mem_append.mp member with inside | here
          · exact absurd ⟨part, inside, isNamed⟩ earlier
          · rwa [List.mem_singleton.mp here] at isNamed
        refine ⟨path ++ [name], ?_, List.prefix_rfl⟩
        rw [mem_artifactPaths]
        constructor
        · rw [isHidden, List.nil_append, List.dropLast_concat, List.any_eq_false]
          intro part member hides
          exact earlier ⟨part, member, by rw [isArtifactName, hides, Bool.true_or]⟩
        · rw [isArtifact, (tree.isDir_iff _).mpr directory]
          simp [nameOf, last]

/-- The files at or below a listed path, where the root is placed neutrally. -/
theorem covered_iff (tree : DirTree Content) (path : Path) (file : tree.isFile path = true) :
    (∃ artifact ∈ artifactPaths [] tree, artifact <+: path) ↔ GoesWithArtifacts path := by
  obtain ⟨content, found⟩ := (tree.isFile_iff path).mp file
  have filled := ne_root_of_file tree path content found
  have whole := List.dropLast_concat_getLast filled
  have present : tree.node path ≠ none := by
    rw [found]
    exact Option.some_ne_none _
  constructor
  · rintro ⟨artifact, listed, start⟩
    have artifactKind := ((mem_artifactPaths [] tree artifact).mp listed).2
    have artifactFilled := ((tree.listed artifact).mp (artifact_listed tree artifact artifactKind)).1
    rw [isArtifact, Bool.or_eq_true, Bool.and_eq_true, Bool.and_eq_true] at artifactKind
    rcases artifactKind with ⟨directory, named⟩ | ⟨compiledFile, compiled⟩
    · have proper : artifact ≠ path := by
        rintro rfl
        rw [tree.isDir_iff, found] at directory
        cases directory
      have parts := ((prefix_dropLast_iff artifact path filled).mpr ⟨start, proper⟩).subset
      exact Or.inl ⟨nameOf artifact, parts (nameOf_mem artifact artifactFilled), named⟩
    · obtain ⟨held, artifactFound⟩ := (tree.isFile_iff artifact).mp compiledFile
      by_cases same : artifact = path
      · rw [← same]
        exact Or.inr compiled
      · exact absurd (tree.absent_below_file artifact path held artifactFound start same) present
  · intro goes
    by_cases inside : ∃ part ∈ path.dropLast, isArtifactName part = true
    · have parent : tree.node (path.dropLast ++ [path.getLast filled]) ≠ none := by
        rwa [whole]
      obtain ⟨artifact, listed, start⟩ :=
        outermost_artifact tree path.dropLast _ (List.cons_ne_nil _ _) parent inside
      exact ⟨artifact, listed, start.trans (List.dropLast_prefix path)⟩
    · have compiled := goes.resolve_left inside
      refine ⟨path, ?_, List.prefix_rfl⟩
      rw [mem_artifactPaths]
      constructor
      · rw [isHidden, List.nil_append, List.any_eq_false]
        intro part member hides
        exact inside ⟨part, member, by rw [isArtifactName, hides, Bool.true_or]⟩
      · rw [isArtifact, file, compiled]
        simp

/-! Cleaning. -/

theorem isHidden_neutral (above : List String) (path : Path)
    (neutral : ∀ name ∈ above, name ∉ artifactDirectoryNames) :
    isHidden above path = isHidden [] path := by
  have plain : above.any artifactDirectoryNames.contains = false := by
    rw [List.any_eq_false]
    intro name member
    simpa using neutral name member
  rw [isHidden, isHidden, List.any_append, plain, Bool.false_or, List.nil_append]

theorem artifactPaths_of_none (above : List String) (tree : DirTree Content)
    (none : ∀ path, isHidden [] path = false → isArtifact tree path = false) :
    artifactPaths above tree = [] := by
  rw [List.eq_nil_iff_forall_not_mem]
  intro path listed
  obtain ⟨shown, artifact⟩ := (mem_artifactPaths above tree path).mp listed
  rw [isHidden, List.any_append, Bool.or_eq_false_iff] at shown
  rw [none path (by rw [isHidden, List.nil_append, shown.2])] at artifact
  cases artifact

/-- Below an artifact directory nothing is listed. -/
theorem artifactPaths_under_artifact (above : List String) (tree : DirTree Content) (name : String)
    (member : name ∈ above) (named : name ∈ artifactDirectoryNames) :
    artifactPaths above tree = [] := by
  rw [List.eq_nil_iff_forall_not_mem]
  intro path listed
  have shown := ((mem_artifactPaths above tree path).mp listed).1
  rw [isHidden, List.any_eq_false] at shown
  exact shown name (List.mem_append_left _ member) (by simpa using named)

theorem artifactPaths_nodup (above : List String) (tree : DirTree Content) :
    (artifactPaths above tree).Nodup :=
  (List.mergeSort_perm _ _).nodup_iff.mpr (tree.unique.filter _)

/-- The property of listing and cleaning, at one place of one tree. -/
structure CleansExactly (above : List String) (tree : DirTree Content) : Prop where
  apart : ∀ first ∈ artifactPaths above tree, ∀ second ∈ artifactPaths above tree,
    first <+: second → first = second
  exact : ∀ path, tree.isFile path = true →
    ((∃ artifact ∈ artifactPaths above tree, artifact <+: path) ↔
      isMaintained path = false ∧ isArtifactByName path = true)
  placed : artifactPaths above tree = artifactPaths [] tree
  cleaned : ∃ found left, cleanArtifacts above tree false = (.ok found, left) ∧
    artifactPaths above left = [] ∧
    ∀ path, (∀ artifact ∈ artifactPaths above tree, ¬ artifact <+: path) →
      left.node path = tree.node path

/-- Listed paths nest only inside a `.egg-info` directory, which hides nothing. -/
theorem apart_iff (tree : DirTree Content) :
    (∀ first ∈ artifactPaths [] tree, ∀ second ∈ artifactPaths [] tree,
      first <+: second → first = second) ↔
    ∀ path, isHidden [] path = false → isArtifact tree path = true →
      ∀ name ∈ path.dropLast, endsWith name artifactSuffixes = false := by
  constructor
  · intro apart path shown artifact name member
    by_contra suffixed
    have named : isArtifactName name = true := by
      rw [isArtifactName, eq_true_of_ne_false suffixed, Bool.or_true]
    obtain ⟨filled, present⟩ := (tree.listed path).mp (artifact_listed tree path artifact)
    rw [← List.dropLast_concat_getLast filled] at present
    -- The outermost directory with such a name is listed, and lies above the path.
    obtain ⟨outer, listed, start⟩ :=
      outermost_artifact tree path.dropLast _ (List.cons_ne_nil _ _) present ⟨name, member, named⟩
    have same := apart outer listed path ((mem_artifactPaths [] tree path).mpr ⟨shown, artifact⟩)
      (start.trans (List.dropLast_prefix path))
    exact ((prefix_dropLast_iff outer path filled).mp start).2 same
  · intro flat first listed second other start
    obtain ⟨shown, artifact⟩ := (mem_artifactPaths [] tree first).mp listed
    obtain ⟨otherShown, otherArtifact⟩ := (mem_artifactPaths [] tree second).mp other
    by_contra different
    have present := ((tree.listed second).mp (artifact_listed tree second otherArtifact)).2
    have otherFilled := ((tree.listed second).mp (artifact_listed tree second otherArtifact)).1
    have filled := ((tree.listed first).mp (artifact_listed tree first artifact)).1
    have inside := ((prefix_dropLast_iff first second otherFilled).mpr ⟨start, different⟩).subset
      (nameOf_mem first filled)
    -- The first one's name stands above the second and hides it, unless its suffix makes it one.
    rw [isArtifact, Bool.or_eq_true, Bool.and_eq_true, Bool.and_eq_true] at artifact
    rcases artifact with ⟨-, named⟩ | ⟨file, -⟩
    · rw [isArtifactName, flat second otherShown otherArtifact _ inside, Bool.or_false] at named
      rw [isHidden, List.nil_append, List.any_eq_false] at otherShown
      exact otherShown _ inside named
    · obtain ⟨held, found⟩ := (tree.isFile_iff first).mp file
      exact present (tree.absent_below_file first second held found start different)

/-- What a tree and its place must be like. -/
structure Cleanable (above : List String) (tree : DirTree Content) : Prop where
  neutral : (∀ name ∈ above, name ∉ artifactDirectoryNames) ∨
    ∀ path, isHidden [] path = false → isArtifact tree path = false
  flat : ∀ path, isHidden [] path = false → isArtifact tree path = true →
    ∀ name ∈ path.dropLast, endsWith name artifactSuffixes = false
  named : ∀ path, tree.isFile path = true → isMaintained path = false →
    isArtifactName (nameOf path) = true → GoesWithArtifacts path
  kept : ∀ path, tree.isFile path = true → isMaintained path = true → ¬ GoesWithArtifacts path

theorem removeAll_artifacts (above : List String) (tree : DirTree Content)
    (apart : ∀ first ∈ artifactPaths above tree, ∀ second ∈ artifactPaths above tree,
      first <+: second → first = second) :
    ∃ left, removeAll tree (artifactPaths above tree) = (.ok (), left) ∧
      ∀ other, left.node other =
        if ∃ path ∈ artifactPaths above tree, path <+: other then none else tree.node other := by
  apply removeAll_ok
  · exact fun path listed =>
      artifact_listed tree path ((mem_artifactPaths above tree path).mp listed).2
  · apply (artifactPaths_nodup above tree).pairwise_of_forall_ne
    intro first member second other different start
    exact different (apart first member second other start)

/-- A path that is still there is the artifact it was before, or none. -/
theorem isArtifact_left (tree left : DirTree Content) (path : Path)
    (same : left.node path = tree.node path) : isArtifact left path = isArtifact tree path := by
  unfold isArtifact DirTree.isDir DirTree.isFile
  rw [same]

theorem artifactPaths_left (above : List String) (tree left : DirTree Content)
    (nodes : ∀ other, left.node other =
      if ∃ path ∈ artifactPaths above tree, path <+: other then none else tree.node other) :
    artifactPaths above left = [] := by
  rw [List.eq_nil_iff_forall_not_mem]
  intro path listed
  obtain ⟨shown, artifact⟩ := (mem_artifactPaths above left path).mp listed
  by_cases gone : ∃ removed ∈ artifactPaths above tree, removed <+: path
  · have present := ((left.listed path).mp (artifact_listed left path artifact)).2
    rw [nodes, if_pos gone] at present
    exact present rfl
  · have same : left.node path = tree.node path := by rw [nodes, if_neg gone]
    rw [isArtifact_left tree left path same] at artifact
    exact gone ⟨path, (mem_artifactPaths above tree path).mpr ⟨shown, artifact⟩, List.prefix_rfl⟩

/-- Which files go is what the comparison leaves out, save for names it treats otherwise. -/
theorem goes_iff (tree : DirTree Content)
    (named : ∀ path, tree.isFile path = true → isMaintained path = false →
      isArtifactName (nameOf path) = true → GoesWithArtifacts path)
    (kept : ∀ path, tree.isFile path = true → isMaintained path = true → ¬ GoesWithArtifacts path)
    (path : Path) (file : tree.isFile path = true) :
    GoesWithArtifacts path ↔ isMaintained path = false ∧ isArtifactByName path = true := by
  rw [isArtifactByName_iff]
  constructor
  · intro goes
    constructor
    · exact Bool.eq_false_iff.mpr (fun maintained => kept path file maintained goes)
    · rcases goes with ⟨part, member, isNamed⟩ | compiled
      · exact Or.inl ⟨part, List.dropLast_subset path member, isNamed⟩
      · exact Or.inr compiled
  · rintro ⟨unmaintained, ⟨part, member, isNamed⟩ | compiled⟩
    · obtain ⟨content, found⟩ := (tree.isFile_iff path).mp file
      have filled := ne_root_of_file tree path content found
      rw [← List.dropLast_concat_getLast filled] at member
      rcases List.mem_append.mp member with inside | last
      · exact Or.inl ⟨part, inside, isNamed⟩
      · apply named path file unmaintained
        rw [nameOf, List.getLastD_eq_getLast?, List.getLast?_eq_getLast_of_ne_nil filled]
        rwa [List.mem_singleton.mp last] at isNamed
    · exact Or.inr compiled

/-- Listing and cleaning are exact for the trees and places that keep clear of four things. -/
theorem cleans_exactly_iff (above : List String) (tree : DirTree Content) :
    CleansExactly above tree ↔ Cleanable above tree := by
  constructor
  · intro cleans
    have covered := cleans.exact
    have separate := cleans.apart
    rw [cleans.placed] at covered separate
    constructor
    · by_cases neutral : ∀ name ∈ above, name ∉ artifactDirectoryNames
      · exact Or.inl neutral
      · obtain ⟨name, member, named⟩ : ∃ name ∈ above, name ∈ artifactDirectoryNames := by
          simpa using neutral
        have none := cleans.placed.symm.trans
          (artifactPaths_under_artifact above tree name member named)
        refine Or.inr (fun path shown => Bool.eq_false_iff.mpr (fun artifact => ?_))
        have listed := (mem_artifactPaths [] tree path).mpr ⟨shown, artifact⟩
        rw [none] at listed
        cases listed
    · exact (apart_iff tree).mp separate
    · intro path file unmaintained named
      rw [← covered_iff tree path file, covered path file, isArtifactByName_iff]
      obtain ⟨content, found⟩ := (tree.isFile_iff path).mp file
      have filled := ne_root_of_file tree path content found
      exact ⟨unmaintained, Or.inl ⟨nameOf path, nameOf_mem path filled, named⟩⟩
    · intro path file maintained goes
      rw [← covered_iff tree path file, covered path file, maintained] at goes
      cases goes.1
  · intro cleanable
    have placed : artifactPaths above tree = artifactPaths [] tree := by
      rcases cleanable.neutral with neutral | none
      · have same : isHidden above = isHidden [] :=
          funext (fun path => isHidden_neutral above path neutral)
        rw [artifactPaths, artifactPaths, same]
      · rw [artifactPaths_of_none above tree none, artifactPaths_of_none [] tree none]
    have separate : ∀ first ∈ artifactPaths above tree, ∀ second ∈ artifactPaths above tree,
        first <+: second → first = second := by
      rw [placed]
      exact (apart_iff tree).mpr cleanable.flat
    obtain ⟨left, removed, nodes⟩ := removeAll_artifacts above tree separate
    constructor
    · exact separate
    · intro path file
      rw [placed, covered_iff tree path file]
      exact goes_iff tree cleanable.named cleanable.kept path file
    · exact placed
    · refine ⟨_, left, by rw [cleanArtifacts, removed]; rfl, artifactPaths_left above tree left nodes, ?_⟩
      intro path elsewhere
      rw [nodes, if_neg]
      rintro ⟨artifact, listed, start⟩
      exact elsewhere artifact listed start

def cachedProvider : DirTree Unit :=
  (forEach installEach DirTree.empty [(["pulumi_awx", "__pycache__", "provider.pyc"], ())]).2

/-- A tree placed under a directory called `build` keeps its artifacts. -/
theorem build_ancestor_hides_artifacts :
    cachedProvider.isFile ["pulumi_awx", "__pycache__", "provider.pyc"] = true ∧
    artifactPaths ["home", "build", "sdk"] cachedProvider = [] ∧
    ¬ CleansExactly ["home", "build", "sdk"] cachedProvider := by
  have file : cachedProvider.isFile ["pulumi_awx", "__pycache__", "provider.pyc"] = true := by
    decide +kernel
  have none := artifactPaths_under_artifact ["home", "build", "sdk"] cachedProvider "build"
    (by decide) (by decide)
  refine ⟨file, none, ?_⟩
  intro cleans
  obtain ⟨artifact, listed, -⟩ := (cleans.exact _ file).mpr ⟨by decide, by decide⟩
  rw [none] at listed
  cases listed

end ClusterApiForSlinky.SdkArtifacts
