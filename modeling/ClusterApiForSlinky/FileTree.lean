import Mathlib.Data.List.Basic
import Mathlib.Data.List.Infix
import Mathlib.Data.List.Nodup

/-!
Trees of regular files and directories below a root, by the paths in them. The
parent of whatever is in a tree is a directory, and `paths` lists everything
below the root in the order a walk comes across it. An operation of the file
system either raises or returns the tree it leaves behind.
-/

namespace ClusterApiForSlinky.FileTree

universe u

abbrev Path := List String

inductive Node (Content : Type u) where
  | file (content : Content)
  | directory
  deriving DecidableEq

structure DirTree (Content : Type u) where
  node : Path → Option (Node Content)
  paths : List Path
  root : node [] = some .directory
  nested : ∀ path, path ≠ [] → node path ≠ none → node path.dropLast = some .directory
  listed : ∀ path, path ∈ paths ↔ path ≠ [] ∧ node path ≠ none
  unique : paths.Nodup

variable {Content : Type u}

namespace DirTree

def isDir (tree : DirTree Content) (path : Path) : Bool :=
  match tree.node path with
  | some .directory => true
  | _ => false

def isFile (tree : DirTree Content) (path : Path) : Bool :=
  match tree.node path with
  | some (.file _) => true
  | _ => false

theorem isDir_iff (tree : DirTree Content) (path : Path) :
    tree.isDir path = true ↔ tree.node path = some .directory := by
  unfold isDir
  split
  · next found => simp [found]
  · next other => simpa using other

theorem isFile_iff (tree : DirTree Content) (path : Path) :
    tree.isFile path = true ↔ ∃ content, tree.node path = some (.file content) := by
  unfold isFile
  split
  · next content found => simp [found]
  · next other => simpa using other

/-- Whatever is above something in the tree is a directory. -/
theorem directory_above (tree : DirTree Content) (path rest : Path) (further : rest ≠ [])
    (present : tree.node (path ++ rest) ≠ none) : tree.node path = some .directory := by
  induction rest using List.reverseRecOn with
  | nil => exact absurd rfl further
  | append_singleton rest name ih =>
      have filled : path ++ (rest ++ [name]) ≠ [] := by simp
      have parent := tree.nested _ filled present
      rw [← List.append_assoc, List.dropLast_concat] at parent
      cases rest with
      | nil => rwa [List.append_nil] at parent
      | cons first others =>
          apply ih (List.cons_ne_nil first others)
          rw [parent]
          exact Option.some_ne_none _

theorem directory_of_prefix (tree : DirTree Content) (above path : Path) (start : above <+: path)
    (proper : above ≠ path) (present : tree.node path ≠ none) :
    tree.node above = some .directory := by
  obtain ⟨rest, rfl⟩ := start
  apply tree.directory_above above rest _ present
  rintro rfl
  exact proper (List.append_nil above).symm

/-- Nothing is below a file. -/
theorem absent_below_file (tree : DirTree Content) (file path : Path) (content : Content)
    (found : tree.node file = some (.file content)) (start : file <+: path)
    (proper : file ≠ path) : tree.node path = none := by
  by_contra present
  have directory := tree.directory_of_prefix file path start proper present
  rw [found] at directory
  cases directory

/-- A root with nothing below it. -/
def empty : DirTree Content where
  node path := if path = [] then some .directory else none
  paths := []
  root := if_pos rfl
  nested := by
    intro path filled present
    rw [if_neg filled] at present
    exact absurd rfl present
  listed := by
    intro path
    by_cases filled : path = [] <;> simp [filled]
  unique := List.nodup_nil

/-- The tree without a path and everything below it. -/
def remove (tree : DirTree Content) (path : Path) (filled : path ≠ []) : DirTree Content where
  node other := if path <+: other then none else tree.node other
  paths := tree.paths.filter (fun other => ¬ path <+: other)
  root := by
    rw [if_neg]
    · exact tree.root
    · exact fun start => filled (List.prefix_nil.mp start)
  nested := by
    intro other proper present
    by_cases gone : path <+: other
    · rw [if_pos gone] at present
      exact absurd rfl present
    · rw [if_neg gone] at present
      rw [if_neg]
      · exact tree.nested other proper present
      · exact fun start => gone (start.trans (List.dropLast_prefix other))
  listed := by
    intro other
    rw [List.mem_filter, tree.listed, decide_eq_true_iff]
    by_cases gone : path <+: other <;> simp [gone]
  unique := tree.unique.filter _

theorem node_remove (tree : DirTree Content) (path other : Path) (filled : path ≠ []) :
    (tree.remove path filled).node other = if path <+: other then none else tree.node other := rfl

/-- The tree with a path set, below a directory and not in the place of one. -/
def put (tree : DirTree Content) (path : Path) (new : Node Content) (filled : path ≠ [])
    (parent : tree.node path.dropLast = some .directory)
    (leaf : tree.node path ≠ some .directory) : DirTree Content where
  node other := if other = path then some new else tree.node other
  paths := if path ∈ tree.paths then tree.paths else tree.paths ++ [path]
  root := by
    rw [if_neg (Ne.symm filled)]
    exact tree.root
  nested := by
    intro other proper present
    have elsewhere : other.dropLast ≠ path → tree.node other.dropLast = some .directory →
        (if other.dropLast = path then some new else tree.node other.dropLast) =
          some .directory := by
      intro different directory
      rw [if_neg different, directory]
    by_cases same : other = path
    · subst same
      apply elsewhere _ parent
      intro equal
      have lengths := congrArg List.length equal
      rw [List.length_dropLast] at lengths
      have positive := List.length_pos_iff.mpr filled
      omega
    · rw [if_neg same] at present
      have directory := tree.nested other proper present
      apply elsewhere _ directory
      rintro rfl
      exact leaf directory
  listed := by
    intro other
    have known := tree.listed other
    by_cases same : other = path
    · subst same
      by_cases old : other ∈ tree.paths <;> simp [old, filled]
    · by_cases old : path ∈ tree.paths <;> simp [old, same, known]
  unique := by
    split
    · exact tree.unique
    · next fresh =>
        rw [List.nodup_append_comm]
        exact List.nodup_cons.mpr ⟨fresh, tree.unique⟩

/-- What is below a directory, seen from there. -/
def subtree (tree : DirTree Content) (dir : Path) (here : tree.node dir = some .directory) :
    DirTree Content where
  node path := tree.node (dir ++ path)
  paths := (tree.paths.filter (fun path => dir <+: path ∧ path ≠ dir)).map (List.drop dir.length)
  root := by rwa [List.append_nil]
  nested := by
    intro path filled present
    rw [← List.dropLast_append_of_ne_nil filled]
    exact tree.nested _ (List.append_ne_nil_of_right_ne_nil dir filled) present
  listed := by
    intro path
    simp only [List.mem_map, List.mem_filter, decide_eq_true_iff, tree.listed]
    constructor
    · rintro ⟨_, ⟨⟨-, present⟩, ⟨rest, rfl⟩, proper⟩, rfl⟩
      rw [List.drop_left]
      refine ⟨?_, present⟩
      rintro rfl
      exact proper (List.append_nil dir)
    · rintro ⟨filled, present⟩
      refine ⟨dir ++ path, ⟨⟨?_, present⟩, List.prefix_append dir path, ?_⟩, List.drop_left⟩
      · exact List.append_ne_nil_of_right_ne_nil dir filled
      · exact fun same => filled (List.append_right_eq_self.mp same)
  unique := by
    apply List.Nodup.map_on _ (tree.unique.filter _)
    intro first member second other same
    obtain ⟨rest, rfl⟩ := (of_decide_eq_true (List.mem_filter.mp member).2).1
    obtain ⟨more, rfl⟩ := (of_decide_eq_true (List.mem_filter.mp other).2).1
    rw [List.drop_left, List.drop_left] at same
    rw [same]

/-- What a walk from `dir` comes across: nothing unless it is a directory. -/
def below (tree : DirTree Content) (dir : Path) : DirTree Content :=
  if here : tree.isDir dir = true then tree.subtree dir ((tree.isDir_iff dir).mp here) else empty

theorem below_root (tree : DirTree Content) : tree.below [] = tree := by
  have every : (tree.paths.filter (fun path => [] <+: path ∧ path ≠ [])).map (List.drop 0) =
      tree.paths := by
    rw [List.filter_eq_self.mpr]
    · exact List.map_id tree.paths
    · intro path member
      exact decide_eq_true ⟨List.nil_prefix, ((tree.listed path).mp member).1⟩
  rw [below, dif_pos ((tree.isDir_iff []).mpr tree.root)]
  simp only [subtree, List.length_nil, every, List.nil_append]

/-- A file of a walk is one of the whole tree. -/
theorem file_below_iff (tree : DirTree Content) (dir path : Path) (content : Content) :
    (tree.below dir).node path = some (.file content) ↔
      tree.node (dir ++ path) = some (.file content) ∧ path ≠ [] := by
  unfold below
  split
  · next here =>
      constructor
      · intro found
        refine ⟨found, ?_⟩
        rintro rfl
        have held : tree.node (dir ++ []) = some (.file content) := found
        rw [List.append_nil, (tree.isDir_iff dir).mp here] at held
        cases held
      · exact And.left
  · next absent =>
      constructor
      · intro found
        by_cases root : path = [] <;> simp [empty, root] at found
      · rintro ⟨found, filled⟩
        have directory := tree.directory_above dir path filled (by rw [found]; exact nofun)
        exact absurd ((tree.isDir_iff dir).mpr directory) absent

theorem isFile_below_iff (tree : DirTree Content) (dir path : Path) :
    (tree.below dir).isFile path = true ↔ tree.isFile (dir ++ path) = true ∧ path ≠ [] := by
  simp only [isFile_iff, file_below_iff, exists_and_right]

end DirTree

inductive Fault where
  | fileNotFound (path : Path)
  | isADirectory (path : Path)
  | notADirectory (path : Path)
  | fileExists (path : Path)
  deriving DecidableEq

theorem ne_root_of_file (tree : DirTree Content) (path : Path) (content : Content)
    (found : tree.node path = some (.file content)) : path ≠ [] := by
  rintro rfl
  rw [tree.root] at found
  cases found

/-- `Path.unlink` -/
def unlink (tree : DirTree Content) (path : Path) : Except Fault (DirTree Content) :=
  match found : tree.node path with
  | some (.file content) => .ok (tree.remove path (ne_root_of_file tree path content found))
  | some .directory => .error (.isADirectory path)
  | none => .error (.fileNotFound path)

/-- `shutil.rmtree` of something below the root; the root itself stays. -/
def rmtree (tree : DirTree Content) (path : Path) : Except Fault (DirTree Content) :=
  if filled : path = [] then .error (.isADirectory path)
  else match tree.node path with
    | some .directory => .ok (tree.remove path filled)
    | some (.file _) => .error (.notADirectory path)
    | none => .error (.fileNotFound path)

/-- Makes the directory `path ++ [name]` unless it is there already. -/
def makeDir (tree : DirTree Content) (path : Path) (name : String) : Except Fault (DirTree Content) :=
  if parent : tree.isDir path = true then
    match found : tree.node (path ++ [name]) with
    | some .directory => .ok tree
    | some (.file _) => .error (.fileExists (path ++ [name]))
    | none => .ok (tree.put (path ++ [name]) .directory (List.append_ne_nil_of_right_ne_nil _ nofun)
        ((List.dropLast_concat : (path ++ [name]).dropLast = path).symm ▸ (tree.isDir_iff path).mp parent)
        (found.symm ▸ nofun))
  else .error (.notADirectory path)

/-- `Path.mkdir(parents=True, exist_ok=True)` of `path ++ names`, where `path` is
there: the missing directories are made from the top. -/
def makeDirs (tree : DirTree Content) (path : Path) : List String → Except Fault (DirTree Content)
  | [] => .ok tree
  | name :: rest =>
      match makeDir tree path name with
      | .ok made => makeDirs made (path ++ [name]) rest
      | .error fault => .error fault

/-- `Path.write_bytes` -/
def writeBytes (tree : DirTree Content) (path : Path) (content : Content) :
    Except Fault (DirTree Content) :=
  if filled : path = [] then .error (.isADirectory path)
  else if leaf : tree.isDir path = true then .error (.isADirectory path)
  else if parent : tree.isDir path.dropLast = true then
    .ok (tree.put path (.file content) filled ((tree.isDir_iff _).mp parent)
      (fun directory => leaf ((tree.isDir_iff path).mpr directory)))
  else .error (.fileNotFound path)

/-- The directories above a path are made, then the file is written. -/
def install (tree : DirTree Content) (path : Path) (content : Content) :
    Except Fault (DirTree Content) :=
  match makeDirs tree [] path.dropLast with
  | .ok made => writeBytes made path content
  | .error fault => .error fault

/-- A loop of such operations; what was done before one raises stays done. -/
def forEach {Item : Type*} (step : DirTree Content → Item → Except Fault (DirTree Content))
    (tree : DirTree Content) : List Item → Except Fault Unit × DirTree Content
  | [] => (.ok (), tree)
  | item :: rest =>
      match step tree item with
      | .ok left => forEach step left rest
      | .error fault => (.error fault, tree)

/-! What the operations leave behind. -/

theorem unlink_ok (tree : DirTree Content) (path : Path) (file : tree.isFile path = true) :
    ∃ left, unlink tree path = .ok left ∧
      ∀ other, left.node other = if other = path then none else tree.node other := by
  obtain ⟨content, found⟩ := (tree.isFile_iff path).mp file
  refine ⟨tree.remove path (ne_root_of_file tree path content found), ?_, ?_⟩
  · unfold unlink
    split
    · rfl
    · next other => rw [found] at other; cases other
    · next other => rw [found] at other; cases other
  · intro other
    rw [DirTree.node_remove]
    by_cases same : other = path
    · rw [if_pos same, if_pos (by rw [same])]
    · rw [if_neg same]
      split
      · next below =>
          exact (tree.absent_below_file path other content found below (Ne.symm same)).symm
      · rfl

theorem rmtree_ok (tree : DirTree Content) (path : Path) (filled : path ≠ [])
    (directory : tree.isDir path = true) : ∃ left, rmtree tree path = .ok left ∧
      ∀ other, left.node other = if path <+: other then none else tree.node other := by
  refine ⟨tree.remove path filled, ?_, fun other => rfl⟩
  unfold rmtree
  rw [dif_neg filled, (tree.isDir_iff path).mp directory]

theorem makeDir_ok (tree : DirTree Content) (path : Path) (name : String)
    (parent : tree.isDir path = true) (clear : tree.isFile (path ++ [name]) = false) :
    ∃ made, makeDir tree path name = .ok made ∧ ∀ other, made.node other =
      if other = path ++ [name] then some .directory else tree.node other := by
  unfold makeDir
  rw [dif_pos parent]
  split
  · next found =>
      refine ⟨tree, rfl, ?_⟩
      intro other
      split
      · next same => rw [same, found]
      · rfl
  · next content found =>
      rw [(tree.isFile_iff _).mpr ⟨content, found⟩] at clear
      cases clear
  · next found => exact ⟨_, rfl, fun other => rfl⟩

theorem makeDir_blocked (tree : DirTree Content) (path : Path) (name : String)
    (blocked : tree.isFile (path ++ [name]) = true) : ∃ fault, makeDir tree path name = .error fault := by
  obtain ⟨content, file⟩ := (tree.isFile_iff _).mp blocked
  unfold makeDir
  split
  · split
    · next found => rw [file] at found; cases found
    · exact ⟨_, rfl⟩
    · next found => rw [file] at found; cases found
  · exact ⟨_, rfl⟩

theorem makeDir_nodes (tree made : DirTree Content) (path : Path) (name : String)
    (done : makeDir tree path name = .ok made) (other : Path) : made.node other =
      if other = path ++ [name] then some .directory else tree.node other := by
  cases parent : tree.isDir path with
  | false =>
      rw [makeDir, dif_neg (by simp [parent])] at done
      cases done
  | true =>
      cases blocked : tree.isFile (path ++ [name]) with
      | true =>
          obtain ⟨fault, raised⟩ := makeDir_blocked tree path name blocked
          rw [raised] at done
          cases done
      | false =>
          obtain ⟨same, finished, nodes⟩ := makeDir_ok tree path name parent blocked
          obtain rfl : same = made := Except.ok.inj (finished.symm.trans done)
          exact nodes other

theorem prefix_concat_cases (path other : Path) (name : String) (rest : List String) :
    path <+: other ∧ other <+: path ++ name :: rest ↔
      other = path ∨ (path ++ [name] <+: other ∧ other <+: path ++ [name] ++ rest) := by
  constructor
  · rintro ⟨⟨tail, rfl⟩, inside⟩
    rw [List.prefix_append_right_inj] at inside
    cases tail with
    | nil => exact Or.inl (List.append_nil path)
    | cons first others =>
        obtain ⟨rfl, within⟩ := List.cons_prefix_cons.mp inside
        refine Or.inr ⟨⟨others, by simp⟩, ?_⟩
        rw [List.append_assoc, List.prefix_append_right_inj]
        exact List.cons_prefix_cons.mpr ⟨rfl, within⟩
  · rintro (rfl | ⟨begins, inside⟩)
    · exact ⟨List.prefix_rfl, List.prefix_append _ _⟩
    · refine ⟨(List.prefix_append path [name]).trans begins, ?_⟩
      simpa using inside

/-- With no file in the way, exactly the directories along the names are there. -/
theorem makeDirs_ok (tree : DirTree Content) (path : Path) (names : List String)
    (start : tree.node path = some .directory)
    (clear : ∀ above, path <+: above → above <+: path ++ names → tree.isFile above = false) :
    ∃ made, makeDirs tree path names = .ok made ∧ ∀ other, made.node other =
      if path <+: other ∧ other <+: path ++ names then some .directory else tree.node other := by
  induction names generalizing tree path with
  | nil =>
      refine ⟨tree, rfl, ?_⟩
      intro other
      split
      · next between =>
          rw [List.append_nil] at between
          rw [between.2.eq_of_length_le between.1.length_le, start]
      · rfl
  | cons name rest ih =>
      have stepClear : tree.isFile (path ++ [name]) = false :=
        clear _ (List.prefix_append _ _) (by simp)
      obtain ⟨made, done, nodes⟩ :=
        makeDir_ok tree path name ((tree.isDir_iff path).mpr start) stepClear
      have here : made.node (path ++ [name]) = some .directory := by rw [nodes, if_pos rfl]
      have restClear : ∀ above, path ++ [name] <+: above → above <+: path ++ [name] ++ rest →
          made.isFile above = false := by
        intro above begins inside
        rw [Bool.eq_false_iff, Ne, made.isFile_iff, nodes]
        rintro ⟨content, file⟩
        split at file
        · cases file
        · have between := (prefix_concat_cases path above name rest).mpr (Or.inr ⟨begins, inside⟩)
          have blocked := clear above between.1 between.2
          rw [(tree.isFile_iff above).mpr ⟨content, file⟩] at blocked
          cases blocked
      obtain ⟨all, finished, allNodes⟩ := ih made (path ++ [name]) here restClear
      refine ⟨all, by rw [makeDirs, done]; exact finished, ?_⟩
      intro other
      rw [allNodes, nodes, if_congr (prefix_concat_cases path other name rest) rfl rfl]
      by_cases further : path ++ [name] <+: other ∧ other <+: path ++ [name] ++ rest
      · rw [if_pos further, if_pos (Or.inr further)]
      · rw [if_neg further]
        by_cases same : other = path
        · subst same
          simp [start]
        · have step : other ≠ path ++ [name] := by
            rintro rfl
            exact further ⟨List.prefix_rfl, List.prefix_append _ _⟩
          rw [if_neg step]
          exact (if_neg (not_or.mpr ⟨same, further⟩)).symm

/-- A file along the names stops it. -/
theorem makeDirs_blocked (tree : DirTree Content) (path done rest : Path) (further : done ≠ [])
    (blocked : tree.isFile (path ++ done) = true) :
    ∃ fault, makeDirs tree path (done ++ rest) = .error fault := by
  induction done generalizing tree path with
  | nil => exact absurd rfl further
  | cons name others ih =>
      rw [List.cons_append, makeDirs]
      cases made : makeDir tree path name with
      | error fault => exact ⟨fault, rfl⟩
      | ok next =>
          cases others with
          | nil =>
              obtain ⟨fault, raised⟩ := makeDir_blocked tree path name blocked
              rw [raised] at made
              cases made
          | cons second more =>
              have deeper : path ++ [name] ++ second :: more ≠ path ++ [name] := by simp
              have still : next.isFile (path ++ [name] ++ second :: more) = true := by
                obtain ⟨content, file⟩ := (tree.isFile_iff _).mp blocked
                refine (next.isFile_iff _).mpr ⟨content, ?_⟩
                rw [makeDir_nodes tree next path name made, if_neg deeper]
                simpa using file
              exact ih next (path ++ [name]) (List.cons_ne_nil second more) still

theorem prefix_dropLast_iff (above path : Path) (filled : path ≠ []) :
    above <+: path.dropLast ↔ above <+: path ∧ above ≠ path := by
  have whole := List.dropLast_concat_getLast filled
  constructor
  · intro start
    refine ⟨start.trans (List.dropLast_prefix path), ?_⟩
    rintro rfl
    have lengths := start.length_le
    rw [List.length_dropLast] at lengths
    have positive := List.length_pos_iff.mpr filled
    omega
  · rintro ⟨start, proper⟩
    rw [← whole, List.prefix_concat_iff, whole] at start
    exact start.resolve_left proper

theorem writeBytes_ok (tree : DirTree Content) (path : Path) (content : Content) (filled : path ≠ [])
    (leaf : tree.isDir path = false) (parent : tree.isDir path.dropLast = true) :
    ∃ left, writeBytes tree path content = .ok left ∧ ∀ other, left.node other =
      if other = path then some (.file content) else tree.node other := by
  have free : ¬ tree.isDir path = true := by simp [leaf]
  unfold writeBytes
  rw [dif_neg filled, dif_neg free, dif_pos parent]
  exact ⟨_, rfl, fun other => rfl⟩

/-- The directories above a path can be made when no file is above it. -/
theorem parents_ok (tree : DirTree Content) (path : Path) (filled : path ≠ [])
    (clear : ∀ above, above <+: path → above ≠ path → tree.isFile above = false) :
    ∃ made, makeDirs tree [] path.dropLast = .ok made ∧ ∀ other, made.node other =
      if other <+: path ∧ other ≠ path then some .directory else tree.node other := by
  have dirsClear : ∀ above, [] <+: above → above <+: [] ++ path.dropLast →
      tree.isFile above = false := by
    intro above _ inside
    obtain ⟨start, proper⟩ := (prefix_dropLast_iff above path filled).mp inside
    exact clear above start proper
  obtain ⟨made, done, nodes⟩ := makeDirs_ok tree [] path.dropLast tree.root dirsClear
  simp only [List.nil_prefix, true_and, List.nil_append, prefix_dropLast_iff _ path filled] at nodes
  exact ⟨made, done, nodes⟩

theorem parents_blocked (tree : DirTree Content) (above path : Path) (start : above <+: path)
    (proper : above ≠ path) (blocked : tree.isFile above = true) :
    ∃ fault, makeDirs tree [] path.dropLast = .error fault := by
  have further : above ≠ [] := by
    obtain ⟨content, found⟩ := (tree.isFile_iff above).mp blocked
    exact ne_root_of_file tree above content found
  have filled : path ≠ [] := by
    rintro rfl
    exact further (List.prefix_nil.mp start)
  obtain ⟨rest, same⟩ := (prefix_dropLast_iff above path filled).mpr ⟨start, proper⟩
  rw [← same]
  exact makeDirs_blocked tree [] above rest further blocked

/-- A file can be installed where no directory is and no file is above. -/
theorem install_ok (tree : DirTree Content) (path : Path) (content : Content) (filled : path ≠ [])
    (leaf : tree.isDir path = false)
    (clear : ∀ above, above <+: path → above ≠ path → tree.isFile above = false) :
    ∃ left, install tree path content = .ok left ∧ ∀ other, left.node other =
      if other = path then some (.file content)
      else if other <+: path then some .directory else tree.node other := by
  obtain ⟨made, done, nodes⟩ := parents_ok tree path filled clear
  have madeLeaf : made.isDir path = false := by
    rw [Bool.eq_false_iff, Ne, made.isDir_iff, nodes, if_neg (by simp), ← tree.isDir_iff, leaf]
    exact Bool.false_ne_true
  have madeParent : made.isDir path.dropLast = true := by
    rw [made.isDir_iff, nodes, if_pos]
    exact (prefix_dropLast_iff _ path filled).mp List.prefix_rfl
  obtain ⟨left, written, leftNodes⟩ := writeBytes_ok made path content filled madeLeaf madeParent
  refine ⟨left, by rw [install, done]; exact written, ?_⟩
  intro other
  rw [leftNodes, nodes]
  by_cases same : other = path
  · rw [if_pos same, if_pos same]
  · rw [if_neg same, if_neg same]
    simp [same]

/-- Otherwise it raises. -/
theorem install_blocked (tree : DirTree Content) (path : Path) (content : Content)
    (blocked : tree.isDir path = true ∨
      ∃ above, above <+: path ∧ above ≠ path ∧ tree.isFile above = true) :
    ∃ fault, install tree path content = .error fault := by
  by_cases inTheWay : ∃ above, above <+: path ∧ above ≠ path ∧ tree.isFile above = true
  · obtain ⟨above, start, proper, file⟩ := inTheWay
    obtain ⟨fault, raised⟩ := parents_blocked tree above path start proper file
    exact ⟨fault, by rw [install, raised]⟩
  · have directory := blocked.resolve_right inTheWay
    by_cases filled : path = []
    · subst filled
      exact ⟨_, rfl⟩
    · have clear : ∀ above, above <+: path → above ≠ path → tree.isFile above = false := by
        intro above start proper
        exact Bool.eq_false_iff.mpr (fun file => inTheWay ⟨above, start, proper, file⟩)
      obtain ⟨made, done, nodes⟩ := parents_ok tree path filled clear
      have still : made.isDir path = true := by
        rw [made.isDir_iff, nodes, if_neg (by simp), ← tree.isDir_iff, directory]
      rw [install, done]
      simp only [writeBytes, dif_neg filled, dif_pos still]
      exact ⟨_, rfl⟩

theorem install_nodes (tree left : DirTree Content) (path : Path) (content : Content)
    (filled : path ≠ []) (done : install tree path content = .ok left) :
    tree.isDir path = false ∧
      (∀ above, above <+: path → above ≠ path → tree.isFile above = false) ∧
      ∀ other, left.node other = if other = path then some (.file content)
        else if other <+: path then some .directory else tree.node other := by
  by_cases blocked : tree.isDir path = true ∨
      ∃ above, above <+: path ∧ above ≠ path ∧ tree.isFile above = true
  · obtain ⟨fault, raised⟩ := install_blocked tree path content blocked
    rw [raised] at done
    cases done
  · rw [not_or] at blocked
    have leaf := Bool.eq_false_iff.mpr blocked.1
    have clear : ∀ above, above <+: path → above ≠ path → tree.isFile above = false := by
      intro above start proper
      exact Bool.eq_false_iff.mpr (fun file => blocked.2 ⟨above, start, proper, file⟩)
    obtain ⟨same, finished, nodes⟩ := install_ok tree path content filled leaf clear
    obtain rfl : same = left := Except.ok.inj (finished.symm.trans done)
    exact ⟨leaf, clear, nodes⟩

theorem unlinkAll_ok (tree : DirTree Content) (paths : List Path) (distinct : paths.Nodup)
    (files : ∀ path ∈ paths, tree.isFile path = true) :
    ∃ left, forEach unlink tree paths = (.ok (), left) ∧
      ∀ other, left.node other = if other ∈ paths then none else tree.node other := by
  induction paths generalizing tree with
  | nil => exact ⟨tree, rfl, fun other => by simp⟩
  | cons path rest ih =>
      obtain ⟨here, later⟩ := List.forall_mem_cons.mp files
      obtain ⟨fresh, restDistinct⟩ := List.nodup_cons.mp distinct
      obtain ⟨middle, unlinked, nodes⟩ := unlink_ok tree path here
      have restFiles : ∀ other ∈ rest, middle.isFile other = true := by
        intro other member
        obtain ⟨content, found⟩ := (tree.isFile_iff other).mp (later other member)
        have different : other ≠ path := by
          rintro rfl
          exact fresh member
        exact (middle.isFile_iff other).mpr ⟨content, by rw [nodes, if_neg different, found]⟩
      obtain ⟨left, done, leftNodes⟩ := ih middle restDistinct restFiles
      refine ⟨left, by rw [forEach, unlinked]; exact done, ?_⟩
      intro other
      rw [leftNodes, nodes]
      by_cases same : other = path <;> simp [same]

/-- Something is where a file is to be installed, or a file above it. -/
def Blocked (tree : DirTree Content) (path : Path) : Prop :=
  tree.isDir path = true ∨ ∃ above, above <+: path ∧ above ≠ path ∧ tree.isFile above = true

def installEach (tree : DirTree Content) (file : Path × Content) : Except Fault (DirTree Content) :=
  install tree file.1 file.2

/-- Installing another file does not take away what blocks a path. -/
theorem blocked_install (tree left : DirTree Content) (path other : Path) (content : Content)
    (filled : other ≠ []) (done : install tree other content = .ok left)
    (blocked : Blocked tree path) : Blocked left path := by
  obtain ⟨leaf, clear, nodes⟩ := install_nodes tree left other content filled done
  rcases blocked with directory | ⟨above, start, proper, file⟩
  · refine Or.inl ((left.isDir_iff path).mpr ?_)
    have different : path ≠ other := by
      rintro rfl
      rw [leaf] at directory
      cases directory
    rw [nodes, if_neg different]
    split
    · rfl
    · exact (tree.isDir_iff path).mp directory
  · refine Or.inr ⟨above, start, proper, (left.isFile_iff above).mpr ?_⟩
    obtain ⟨held, found⟩ := (tree.isFile_iff above).mp file
    by_cases same : above = other
    · exact ⟨content, by rw [nodes, if_pos same]⟩
    · refine ⟨held, ?_⟩
      rw [nodes, if_neg same, if_neg, found]
      intro below
      rw [clear above below same] at file
      cases file

theorem installAll_blocked (tree : DirTree Content) (files : List (Path × Content))
    (filled : ∀ file ∈ files, file.1 ≠ []) (file : Path × Content) (member : file ∈ files)
    (blocked : Blocked tree file.1) :
    ∃ fault left, forEach installEach tree files = (.error fault, left) := by
  induction files generalizing tree with
  | nil => cases member
  | cons first rest ih =>
      obtain ⟨here, later⟩ := List.forall_mem_cons.mp filled
      rw [forEach]
      cases installed : installEach tree first with
      | error fault => exact ⟨fault, tree, rfl⟩
      | ok left =>
          rcases List.mem_cons.mp member with rfl | inside
          · obtain ⟨fault, raised⟩ := install_blocked tree file.1 file.2 blocked
            rw [installEach, raised] at installed
            cases installed
          · exact ih left later inside
              (blocked_install tree left file.1 first.1 first.2 here installed blocked)

/-- Files of which none is above another are installed where nothing blocks them. -/
theorem installAll_ok (tree : DirTree Content) (files : List (Path × Content))
    (filled : ∀ file ∈ files, file.1 ≠ [])
    (distinct : (files.map Prod.fst).Nodup)
    (apart : ∀ first ∈ files, ∀ second ∈ files, first.1 <+: second.1 → first.1 = second.1)
    (free : ∀ file ∈ files, ¬ Blocked tree file.1) :
    ∃ left, forEach installEach tree files = (.ok (), left) ∧
      (∀ file ∈ files, left.node file.1 = some (.file file.2)) ∧
      (∀ other, (∃ file ∈ files, other <+: file.1 ∧ other ≠ file.1) →
        left.node other = some .directory) ∧
      ∀ other, (∀ file ∈ files, ¬ other <+: file.1) → left.node other = tree.node other := by
  induction files generalizing tree with
  | nil => exact ⟨tree, rfl, by simp, by simp, fun other _ => rfl⟩
  | cons first rest ih =>
      obtain ⟨here, later⟩ := List.forall_mem_cons.mp filled
      obtain ⟨fresh, restDistinct⟩ := List.nodup_cons.mp distinct
      obtain ⟨firstFree, restFree⟩ := List.forall_mem_cons.mp free
      rw [Blocked, not_or] at firstFree
      have clear : ∀ above, above <+: first.1 → above ≠ first.1 → tree.isFile above = false := by
        intro above start proper
        exact Bool.eq_false_iff.mpr (fun file => firstFree.2 ⟨above, start, proper, file⟩)
      obtain ⟨middle, installed, nodes⟩ :=
        install_ok tree first.1 first.2 here (Bool.eq_false_iff.mpr firstFree.1) clear
      have other : ∀ file ∈ rest, file.1 ≠ first.1 := by
        intro file member same
        exact fresh (same ▸ List.mem_map_of_mem member)
      have notBelow : ∀ file ∈ rest, ¬ first.1 <+: file.1 := by
        intro file member start
        exact other file member
          (apart first List.mem_cons_self file (List.mem_cons_of_mem _ member) start).symm
      have notAbove : ∀ file ∈ rest, ¬ file.1 <+: first.1 := by
        intro file member start
        exact other file member
          (apart file (List.mem_cons_of_mem _ member) first List.mem_cons_self start)
      have middleFree : ∀ file ∈ rest, ¬ Blocked middle file.1 := by
        intro file member
        rintro (directory | ⟨above, start, proper, isFile⟩)
        · rw [middle.isDir_iff, nodes, if_neg (other file member),
            if_neg (notAbove file member), ← tree.isDir_iff] at directory
          exact restFree file member (Or.inl directory)
        · obtain ⟨content, found⟩ := (middle.isFile_iff above).mp isFile
          rw [nodes] at found
          split at found
          · next same => exact notBelow file member (same ▸ start)
          · split at found
            · cases found
            · exact restFree file member
                (Or.inr ⟨above, start, proper, (tree.isFile_iff above).mpr ⟨content, found⟩⟩)
      obtain ⟨left, done, files, directories, others⟩ := ih middle later restDistinct
        (fun file member second inside => apart file (List.mem_cons_of_mem _ member) second
          (List.mem_cons_of_mem _ inside)) middleFree
      refine ⟨left, by rw [forEach, installEach, installed]; exact done, ?_, ?_, ?_⟩
      · rw [List.forall_mem_cons]
        refine ⟨?_, files⟩
        rw [others first.1 notBelow, nodes, if_pos rfl]
      · rintro path ⟨file, member, start, proper⟩
        rcases List.mem_cons.mp member with rfl | inside
        · by_cases shared : ∃ second ∈ rest, path <+: second.1
          · obtain ⟨second, secondMember, secondStart⟩ := shared
            refine directories path ⟨second, secondMember, secondStart, ?_⟩
            rintro rfl
            exact notAbove second secondMember start
          · have alone : ∀ second ∈ rest, ¬ path <+: second.1 := by simpa using shared
            rw [others path alone, nodes, if_neg proper, if_pos start]
        · exact directories path ⟨file, inside, start, proper⟩
      · intro path elsewhere
        obtain ⟨notFirst, notRest⟩ := List.forall_mem_cons.mp elsewhere
        have different : path ≠ first.1 := by
          rintro rfl
          exact notFirst List.prefix_rfl
        rw [others path notRest, nodes, if_neg different, if_neg notFirst]

end ClusterApiForSlinky.FileTree
