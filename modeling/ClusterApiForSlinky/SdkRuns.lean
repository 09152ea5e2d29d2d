import ClusterApiForSlinky.SdkReplacement
import ClusterApiForSlinky.Segments

/-!
`generate` of scripts/regenerate_sdks.py on one tree that holds the whole
repository: every selected SDK is generated into a temporary directory and then
compared with the tracked one, or written over it. The generator is a parameter:
what it makes of an SDK may depend on the repository and on the SDKs made before
it in the same run.
-/

namespace ClusterApiForSlinky.SdkRuns
open FileTree ModelCodec SdkArtifacts SdkReplacement

variable {Content : Type}

inductive Failure where
  | unknownSdks (names : List String)
  | generation (message : String)
  | osError (fault : Fault)
  deriving DecidableEq

/-- The text of an OSError is the operating system's. -/
def Failure.message : Failure → Option String
  | .unknownSdks names => some ("unknown SDK(s): " ++ ", ".intercalate (names.mergeSort (· ≤ ·)))
  | .generation message => some message
  | .osError _ => none

abbrev Generator (Content : Type) :=
  DirTree Content → List String → String → Except String (DirTree Content)

/-- The parts of a relative path, as pathlib takes them apart. -/
def pathParts (text : String) : Path :=
  ((Segments.split text.toList).map String.ofList).filter (· ≠ ".")

/-- An `output` of the manifest that does not lead out of the repository. -/
structure Output where
  text : String
  relative : Text.startsWith text "/" = false
  inside : ".." ∉ pathParts text

def Output.path (output : Output) : Path := pathParts output.text

/-- `sdks` is `none` for `--all`. -/
structure Args where
  sdks : Option (List String)
  check : Bool

/-- The repository, what was printed, and `success`. -/
structure Run (Content : Type) where
  repo : DirTree Content
  stdout : List String
  stderr : List String
  success : Bool

section Script

variable [DecidableEq Content] (outputOf : String → Path) (generator : Generator Content)
  (order : SetOrder) (check : Bool)

/-- The end of `generate_sdk`, from the comparison on. -/
def generateSdk (state : Run Content) (name : String) (generated : DirTree Content) :
    Option Failure × Run Content :=
  let tracked := outputOf name
  let differences := compareTrees generated (state.repo.below tracked)
  if differences = [] then
    (none, { state with stdout := state.stdout ++ ["unchanged: " ++ name] })
  else if check then
    (none, { state with
      stderr := state.stderr ++ differences.map (fun entry => name ++ ": " ++ entry.message)
      success := false })
  else
    match replaceGeneratedFilesIn order generated state.repo tracked with
    | (.ok (), repo) =>
        (none, { state with repo := repo, stdout := state.stdout ++ ["updated: " ++ name] })
    | (.error fault, repo) => (some (.osError fault), { state with repo := repo })

/-- The loop of `main`; `done` holds the SDKs that are already generated. -/
def generateAll (done : List String) : List String → Run Content → Option Failure × Run Content
  | [], state => (none, state)
  | name :: rest, state =>
      match generator state.repo done name with
      | .error message => (some (.generation message), state)
      | .ok generated =>
          match generateSdk outputOf order check state name generated with
          | (some failure, left) => (some failure, left)
          | (none, left) => generateAll (done ++ [name]) rest left

end Script

structure Outcome (Content : Type) where
  code : Nat
  repo : DirTree Content
  stdout : List String
  stderr : List String
  failure : Option Failure

def outputIn (manifest : Mapping String Output) (name : String) : Path :=
  ((manifest.lookup name).map Output.path).getD []

def selected (manifest : Mapping String Output) (args : Args) : List String :=
  args.sdks.getD manifest.keys

def unknownNames (manifest : Mapping String Output) (args : Args) : List String :=
  (selected manifest args).filter (fun name => !manifest.keys.contains name)

/-- `main` for the command `generate`; the manifest gives each SDK its output. -/
def main [DecidableEq Content] (manifest : Mapping String Output) (generator : Generator Content)
    (order : SetOrder) (args : Args) (repo : DirTree Content) : Outcome Content :=
  if unknownNames manifest args ≠ [] then
    { code := 1, repo := repo, stdout := [], stderr := []
      failure := some (.unknownSdks (unknownNames manifest args).dedup) }
  else
    let ran := generateAll (outputIn manifest) generator order args.check []
      (selected manifest args) { repo := repo, stdout := [], stderr := [], success := true }
    { code := if ran.1 = none ∧ ran.2.success then 0 else 1, repo := ran.2.repo
      stdout := ran.2.stdout, stderr := ran.2.stderr, failure := ran.1 }

/-! One SDK. -/

/-- The comparison sees no difference between the two trees. -/
def SameFiles (generated tracked : DirTree Content) : Prop :=
  ∀ path, isGenerated path = true → ∀ content,
    generated.node path = some (.file content) ↔ tracked.node path = some (.file content)

theorem file_in_both (left right : DirTree Content)
    (none : keysOnlyIn (generatedFiles left) (generatedFiles right) = []) (path : Path)
    (included : isGenerated path = true) (file : left.isFile path = true) :
    right.isFile path = true := by
  by_contra absent
  have member := (mem_keysOnlyIn left right path).mpr ⟨file, included, by simpa using absent⟩
  rw [none] at member
  cases member

theorem compareTrees_eq_nil_iff [DecidableEq Content] (generated tracked : DirTree Content) :
    compareTrees generated tracked = [] ↔ SameFiles generated tracked := by
  constructor
  · intro none path included content
    have sorted : ∀ paths : List Path, paths.mergeSort pathLe = [] → paths = [] := by
      intro paths empty
      exact List.perm_nil.mp (empty ▸ (List.mergeSort_perm paths pathLe).symm)
    simp only [compareTrees, List.append_eq_nil_iff, List.map_eq_nil_iff] at none
    obtain ⟨⟨onlyTracked, onlyGenerated⟩, differing⟩ := none
    -- a file of both trees has one content, or it would be listed
    have agree : ∀ first second, generated.node path = some (.file first) →
        tracked.node path = some (.file second) → first = second := by
      intro first second here there
      have listed : path ∈ keys (generatedFiles generated) :=
        (mem_keys generated path).mpr ⟨(generated.isFile_iff path).mpr ⟨first, here⟩, included⟩
      have known : path ∈ keys (generatedFiles tracked) :=
        (mem_keys tracked path).mpr ⟨(tracked.isFile_iff path).mpr ⟨second, there⟩, included⟩
      have same := List.filter_eq_nil_iff.mp (sorted _ differing) path listed
      rw [lookup_generatedContents generated path first
          ((mem_generatedFiles generated path first).mpr ⟨here, included⟩),
        lookup_generatedContents tracked path second
          ((mem_generatedFiles tracked path second).mpr ⟨there, included⟩)] at same
      simpa [known] using same
    constructor
    · intro here
      have file := file_in_both generated tracked (sorted _ onlyGenerated) path included
        ((generated.isFile_iff path).mpr ⟨content, here⟩)
      obtain ⟨other, there⟩ := (tracked.isFile_iff path).mp file
      rwa [agree content other here there]
    · intro there
      have file := file_in_both tracked generated (sorted _ onlyTracked) path included
        ((tracked.isFile_iff path).mpr ⟨content, there⟩)
      obtain ⟨other, here⟩ := (generated.isFile_iff path).mp file
      rwa [← agree other content here there]
  · exact compareTrees_nil generated tracked

/-- A path that a comparison with the SDK in `output` looks at. -/
def Compared (output path : Path) : Prop :=
  ∃ relative, path = output ++ relative ∧ relative ≠ [] ∧ isGenerated relative = true

/-- A file that the generated SDK puts into `output`. -/
def HasFile (output : Path) (generated : DirTree Content) (path : Path) (content : Content) : Prop :=
  ∃ relative, path = output ++ relative ∧ isGenerated relative = true ∧
    generated.node relative = some (.file content)

/-- The SDK in `output` is the generated one. -/
def Tracks (output : Path) (generated repo : DirTree Content) : Prop :=
  ∀ path, Compared output path → ∀ content,
    repo.node path = some (.file content) ↔ HasFile output generated path content

theorem hasFile_append (output relative : Path) (generated : DirTree Content) (content : Content) :
    HasFile output generated (output ++ relative) content ↔
      isGenerated relative = true ∧ generated.node relative = some (.file content) := by
  constructor
  · rintro ⟨other, same, file⟩
    rw [List.append_cancel_left same]
    exact file
  · exact fun file => ⟨relative, rfl, file⟩

theorem HasFile.compared {output path : Path} {generated : DirTree Content} {content : Content}
    (file : HasFile output generated path content) : Compared output path := by
  obtain ⟨relative, same, included, found⟩ := file
  exact ⟨relative, same, ne_root_of_file generated relative content found, included⟩

theorem sameFiles_below_iff (output : Path) (generated repo : DirTree Content) :
    SameFiles generated (repo.below output) ↔ Tracks output generated repo := by
  constructor
  · rintro same path ⟨relative, rfl, filled, included⟩ content
    rw [hasFile_append, same relative included content, DirTree.file_below_iff]
    simp [included, filled]
  · intro tracks relative included content
    rw [DirTree.file_below_iff]
    constructor
    · intro found
      have filled := ne_root_of_file generated relative content found
      have here := tracks (output ++ relative) ⟨relative, rfl, filled, included⟩ content
      exact ⟨here.mpr ⟨relative, rfl, included, found⟩, filled⟩
    · rintro ⟨found, filled⟩
      have here := tracks (output ++ relative) ⟨relative, rfl, filled, included⟩ content
      exact ((hasFile_append output relative generated content).mp (here.mp found)).2

/-- What a written SDK leaves in the repository. -/
structure Written (output : Path) (generated before after : DirTree Content) : Prop where
  tracks : Tracks output generated after
  others : ∀ path, ¬ Compared output path → ∀ content,
    before.node path = some (.file content) ↔ after.node path = some (.file content)
  directories : ∀ path, before.node path = some .directory → after.node path = some .directory

/-- The generated files at the paths that they are written to. -/
def placedFiles (output : Path) (generated : DirTree Content) : List (Path × Content) :=
  (generatedFiles generated).map (fun file => (output ++ file.1, file.2))

theorem mem_placedFiles (output path : Path) (generated : DirTree Content) (content : Content) :
    (path, content) ∈ placedFiles output generated ↔ HasFile output generated path content := by
  simp only [placedFiles, List.mem_map, Prod.exists, Prod.mk.injEq, mem_generatedFiles]
  constructor
  · rintro ⟨relative, held, ⟨found, included⟩, rfl, rfl⟩
    exact ⟨relative, rfl, included, found⟩
  · rintro ⟨relative, rfl, included, found⟩
    exact ⟨relative, content, ⟨found, included⟩, rfl, rfl⟩

theorem placedFiles_filled (output : Path) (generated : DirTree Content) :
    ∀ file ∈ placedFiles output generated, file.1 ≠ [] := by
  intro file member
  obtain ⟨held, inside, rfl⟩ := List.mem_map.mp member
  exact List.append_ne_nil_of_right_ne_nil _ (generatedFiles_filled generated held inside)

theorem placedFiles_distinct (output : Path) (generated : DirTree Content) :
    ((placedFiles output generated).map Prod.fst).Nodup := by
  have distinct := (keys_nodup generated).map
    (fun _ _ => List.append_cancel_left : Function.Injective (output ++ ·))
  simpa only [placedFiles, keys, List.map_map, Function.comp_def] using distinct

theorem placedFiles_apart (output : Path) (generated : DirTree Content) :
    ∀ first ∈ placedFiles output generated, ∀ second ∈ placedFiles output generated,
      first.1 <+: second.1 → first.1 = second.1 := by
  intro first member second other start
  obtain ⟨above, aboveMember, rfl⟩ := List.mem_map.mp member
  obtain ⟨below, belowMember, rfl⟩ := List.mem_map.mp other
  rw [List.prefix_append_right_inj] at start
  exact congrArg (output ++ ·) (generatedFiles_apart generated above aboveMember below belowMember start)

/-- The repository once the files that are no longer generated are gone from `output`. -/
structure Unlinked (output : Path) (generated repo middle : DirTree Content) : Prop where
  others : ∀ path, ¬ Compared output path → middle.node path = repo.node path
  directories : ∀ path, repo.node path = some .directory → middle.node path = some .directory
  stale : ∀ path content, Compared output path → middle.node path = some (.file content) →
    ∃ other, HasFile output generated path other

theorem unlinkedIn_spec (order : SetOrder) (generated repo : DirTree Content) (output : Path) :
    ∃ middle, forEach unlink repo ((order.arrange (keysOnlyIn (generatedFiles (repo.below output))
        (generatedFiles generated))).map (output ++ ·)) = (.ok (), middle) ∧
      Unlinked output generated repo middle := by
  obtain ⟨middle, unlinked, inside, outside⟩ := unlinkedIn_ok order generated repo output
  refine ⟨middle, unlinked, ?_, ?_, ?_⟩
  · intro path elsewhere
    by_cases start : output <+: path
    · obtain ⟨relative, rfl⟩ := start
      rw [inside, if_neg]
      rintro ⟨file, included, -⟩
      have filled := ((repo.isFile_below_iff output relative).mp file).2
      exact elsewhere ⟨relative, rfl, filled, included⟩
    · exact outside path start
  · intro path directory
    by_cases start : output <+: path
    · obtain ⟨relative, rfl⟩ := start
      rw [inside, if_neg, directory]
      rintro ⟨file, -, -⟩
      obtain ⟨content, found⟩ :=
        (repo.isFile_iff _).mp ((repo.isFile_below_iff output relative).mp file).1
      rw [directory] at found
      cases found
    · rw [outside path start, directory]
  · rintro path content ⟨relative, rfl, filled, included⟩ found
    rw [inside] at found
    split at found
    · cases found
    · next stays =>
        have file : (repo.below output).isFile relative = true :=
          (repo.isFile_below_iff output relative).mpr
            ⟨(repo.isFile_iff _).mpr ⟨content, found⟩, filled⟩
        have kept : generated.isFile relative = true := by
          by_contra absent
          exact stays ⟨file, included, Bool.eq_false_iff.mpr absent⟩
        obtain ⟨other, held⟩ := (generated.isFile_iff relative).mp kept
        exact ⟨other, relative, rfl, included, held⟩

/-- The repository once the generated files are written. -/
structure Installed (output : Path) (generated middle left : DirTree Content) : Prop where
  free : ∀ path content, HasFile output generated path content → middle.isDir path = false
  files : ∀ path content, HasFile output generated path content →
    left.node path = some (.file content)
  others : ∀ path, (∃ content, HasFile output generated path content) ∨
    (left.node path = some .directory ∧ middle.isFile path = false) ∨
    left.node path = middle.node path

theorem installed_of_ok (output : Path) (generated middle left : DirTree Content)
    (done : forEach installEach middle (placedFiles output generated) = (.ok (), left)) :
    Installed output generated middle left := by
  have free : ∀ file ∈ placedFiles output generated, ¬ Blocked middle file.1 := by
    intro file member blocked
    obtain ⟨fault, other, raised⟩ := installAll_blocked middle _
      (placedFiles_filled output generated) file member blocked
    rw [raised] at done
    cases done
  obtain ⟨same, finished, files, above, elsewhere⟩ := installAll_ok middle _
    (placedFiles_filled output generated) (placedFiles_distinct output generated)
    (placedFiles_apart output generated) free
  obtain rfl : same = left := (Prod.mk.inj (finished.symm.trans done)).2
  constructor
  · intro path content file
    have member := (mem_placedFiles output path generated content).mpr file
    exact Bool.eq_false_iff.mpr (fun directory => free _ member (Or.inl directory))
  · intro path content file
    exact files (path, content) ((mem_placedFiles output path generated content).mpr file)
  · intro path
    by_cases leads : ∃ file ∈ placedFiles output generated, path <+: file.1
    · obtain ⟨file, member, start⟩ := leads
      by_cases last : path = file.1
      · exact Or.inl ⟨file.2, (mem_placedFiles output path generated file.2).mp (last ▸ member)⟩
      · refine Or.inr (Or.inl ⟨above path ⟨file, member, start, last⟩, ?_⟩)
        exact Bool.eq_false_iff.mpr
          (fun isFile => free file member (Or.inr ⟨path, start, last, isFile⟩))
    · refine Or.inr (Or.inr (elsewhere path ?_))
      exact fun file member start => leads ⟨file, member, start⟩

section
variable {output : Path} {generated repo middle left : DirTree Content}

theorem Installed.tracks (unlinked : Unlinked output generated repo middle)
    (installed : Installed output generated middle left) : Tracks output generated left := by
  intro path compared content
  refine ⟨?_, installed.files path content⟩
  intro found
  -- The path was written, became a directory above a written one, or was left alone.
  rcases installed.others path with ⟨other, file⟩ | ⟨directory, -⟩ | untouched
  · rw [installed.files path other file] at found
    cases found
    exact file
  · rw [directory] at found
    cases found
  · have stayed := untouched ▸ found
    obtain ⟨other, file⟩ := unlinked.stale path content compared stayed
    rw [installed.files path other file] at found
    cases found
    exact file

theorem Installed.keeps_file (unlinked : Unlinked output generated repo middle)
    (installed : Installed output generated middle left) (path : Path)
    (other : ¬ Compared output path) (content : Content) :
    repo.node path = some (.file content) ↔ left.node path = some (.file content) := by
  rw [← unlinked.others path other]
  rcases installed.others path with ⟨_, file⟩ | ⟨directory, noFile⟩ | untouched
  · exact absurd file.compared other
  · rw [directory]
    constructor
    · intro found
      rw [(middle.isFile_iff path).mpr ⟨content, found⟩] at noFile
      cases noFile
    · intro found
      cases found
  · rw [untouched]

theorem Installed.keeps_directory (unlinked : Unlinked output generated repo middle)
    (installed : Installed output generated middle left) (path : Path)
    (directory : repo.node path = some .directory) : left.node path = some .directory := by
  have kept := unlinked.directories path directory
  rcases installed.others path with ⟨content, file⟩ | ⟨found, -⟩ | untouched
  · have free := installed.free path content file
    rw [(middle.isDir_iff path).mpr kept] at free
    cases free
  · exact found
  · rw [untouched, kept]

end

theorem replaceIn_written (order : SetOrder) (generated repo left : DirTree Content) (output : Path)
    (replaced : replaceGeneratedFilesIn order generated repo output = (.ok (), left)) :
    Written output generated repo left := by
  obtain ⟨middle, unlinking, unlinked⟩ := unlinkedIn_spec order generated repo output
  rw [replaceGeneratedFilesIn, unlinking] at replaced
  have installed := installed_of_ok output generated middle left replaced
  exact ⟨installed.tracks unlinked, installed.keeps_file unlinked, installed.keeps_directory unlinked⟩

section Steps

variable [DecidableEq Content] (outputOf : String → Path) (order : SetOrder)

/-- With `--check` nothing is written, and `success` says whether nothing differs. -/
theorem generateSdk_check (state : Run Content) (name : String) (generated : DirTree Content) :
    (generateSdk outputOf order true state name generated).1 = none ∧
    (generateSdk outputOf order true state name generated).2.repo = state.repo ∧
    ((generateSdk outputOf order true state name generated).2.success = true ↔
      state.success = true ∧ Tracks (outputOf name) generated state.repo) := by
  rw [← sameFiles_below_iff, ← compareTrees_eq_nil_iff]
  by_cases none : compareTrees generated (state.repo.below (outputOf name)) = []
  · simp [generateSdk, none]
  · simp [generateSdk, none]

theorem generateSdk_same (check : Bool) (state : Run Content) (name : String)
    (generated : DirTree Content) (same : Tracks (outputOf name) generated state.repo) :
    generateSdk outputOf order check state name generated =
      (none, { state with stdout := state.stdout ++ ["unchanged: " ++ name] }) := by
  rw [← sameFiles_below_iff, ← compareTrees_eq_nil_iff] at same
  simp [generateSdk, same]

theorem generateSdk_write (state left : Run Content) (name : String) (generated : DirTree Content)
    (wrote : generateSdk outputOf order false state name generated = (none, left)) :
    Written (outputOf name) generated state.repo left.repo := by
  by_cases none : compareTrees generated (state.repo.below (outputOf name)) = []
  · have same := (sameFiles_below_iff _ _ _).mp ((compareTrees_eq_nil_iff _ _).mp none)
    rw [generateSdk_same outputOf order false state name generated same] at wrote
    cases wrote
    exact ⟨same, fun _ _ _ => Iff.rfl, fun _ found => found⟩
  · rcases replaced : replaceGeneratedFilesIn order generated state.repo (outputOf name) with
      ⟨result, repo⟩
    simp only [generateSdk, none, if_false, Bool.false_eq_true, replaced] at wrote
    cases result with
    | error fault => cases wrote
    | ok finished =>
        cases wrote
        exact replaceIn_written order generated state.repo repo (outputOf name) replaced

end Steps

/-! The loop over the selected SDKs. -/

/-- The trees that the generator makes of the SDKs, if it makes all of them. -/
def made (generator : Generator Content) (repo : DirTree Content) (done : List String) :
    List String → Option (List (String × DirTree Content))
  | [] => some []
  | name :: rest =>
      match generator repo done name with
      | .error _ => none
      | .ok tree =>
          (made generator repo (done ++ [name]) rest).map (fun trees => (name, tree) :: trees)

theorem made_names (generator : Generator Content) (repo : DirTree Content)
    (done names : List String) (trees : List (String × DirTree Content))
    (all : made generator repo done names = some trees) : trees.map Prod.fst = names := by
  induction names generalizing done trees with
  | nil => simp [← Option.some.inj all]
  | cons name rest ih =>
      cases generated : generator repo done name with
      | error message => simp [made, generated] at all
      | ok tree =>
          simp only [made, generated, Option.map_eq_some_iff] at all
          obtain ⟨others, rest_made, rfl⟩ := all
          simp [ih (done ++ [name]) others rest_made]

theorem made_congr (generator : Generator Content) (before after : DirTree Content)
    (same : generator before = generator after) (done names : List String) :
    made generator before done names = made generator after done names := by
  induction names generalizing done with
  | nil => rfl
  | cons name rest ih => simp only [made, same, ih]

/-- The files that a comparison with none of these SDKs looks at. -/
def SameSources (outputs : List Path) (before after : DirTree Content) : Prop :=
  ∀ path, (∀ output ∈ outputs, ¬ Compared output path) → ∀ content,
    before.node path = some (.file content) ↔ after.node path = some (.file content)

/-- The generator reads only files that the comparison with these SDKs leaves out, such as the
CRDs that are kept beside one. -/
def ReadsSources (generator : Generator Content) (outputs : List Path) : Prop :=
  ∀ before after, SameSources outputs before after → generator before = generator after

theorem SameSources.trans {outputs : List Path} {before middle after : DirTree Content}
    (first : SameSources outputs before middle) (second : SameSources outputs middle after) :
    SameSources outputs before after :=
  fun path away content => (first path away content).trans (second path away content)

theorem Written.sameSources {output : Path} {generated before after : DirTree Content}
    (written : Written output generated before after) (outputs : List Path)
    (member : output ∈ outputs) : SameSources outputs before after :=
  fun path away content => written.others path (away output member) content

/-- A run that writes one SDK after the other. -/
inductive WrittenAll (outputOf : String → Path) :
    List (String × DirTree Content) → DirTree Content → DirTree Content → Prop
  | nil (repo : DirTree Content) : WrittenAll outputOf [] repo repo
  | cons {entry : String × DirTree Content} {rest : List (String × DirTree Content)}
      {before middle after : DirTree Content} (first : Written (outputOf entry.1) entry.2 before middle)
      (others : WrittenAll outputOf rest middle after) :
      WrittenAll outputOf (entry :: rest) before after

/-- Where both outputs have a path, the two SDKs are the same there. -/
def GeneratedAlike (output other : Path) (generated second : DirTree Content) : Prop :=
  ∀ path, Compared output path → Compared other path → ∀ content,
    HasFile output generated path content ↔ HasFile other second path content

/-- The SDKs are generated alike where their outputs overlap. -/
def OutputsAgree (outputOf : String → Path) (trees : List (String × DirTree Content)) : Prop :=
  ∀ first ∈ trees, ∀ second ∈ trees,
    GeneratedAlike (outputOf first.1) (outputOf second.1) first.2 second.2

theorem Written.keeps_tracks {output other : Path} {generated second before after : DirTree Content}
    (written : Written other second before after)
    (alike : GeneratedAlike output other generated second)
    (tracks : Tracks output generated before) : Tracks output generated after := by
  intro path compared content
  -- Where the outputs overlap, the other SDK wrote the same; elsewhere it wrote nothing.
  by_cases both : Compared other path
  · exact (written.tracks path both content).trans (alike path compared both content).symm
  · exact (written.others path both content).symm.trans (tracks path compared content)

section
variable {outputOf : String → Path} {trees : List (String × DirTree Content)}
  {before after : DirTree Content}

theorem WrittenAll.sameSources (written : WrittenAll outputOf trees before after)
    (outputs : List Path) (among : ∀ entry ∈ trees, outputOf entry.1 ∈ outputs) :
    SameSources outputs before after := by
  induction written with
  | nil repo => exact fun _ _ _ => Iff.rfl
  | cons first others ih =>
      obtain ⟨here, later⟩ := List.forall_mem_cons.mp among
      exact (first.sameSources outputs here).trans (ih later)

theorem WrittenAll.directories (written : WrittenAll outputOf trees before after) (path : Path)
    (directory : before.node path = some .directory) : after.node path = some .directory := by
  induction written with
  | nil repo => exact directory
  | cons first others ih => exact ih (first.directories path directory)

theorem WrittenAll.keeps_tracks (written : WrittenAll outputOf trees before after) (output : Path)
    (generated : DirTree Content)
    (alike : ∀ entry ∈ trees, GeneratedAlike output (outputOf entry.1) generated entry.2)
    (tracks : Tracks output generated before) : Tracks output generated after := by
  induction written with
  | nil repo => exact tracks
  | cons first others ih =>
      obtain ⟨here, later⟩ := List.forall_mem_cons.mp alike
      exact ih later (first.keeps_tracks here tracks)

/-- After a run every SDK finds its own files exactly when those with overlapping outputs agree. -/
theorem WrittenAll.all_tracked_iff (written : WrittenAll outputOf trees before after) :
    (∀ entry ∈ trees, Tracks (outputOf entry.1) entry.2 after) ↔ OutputsAgree outputOf trees := by
  constructor
  · -- both SDKs are what is in the repository in the end
    intro tracked first member second other path compared both content
    exact (tracked first member path compared content).symm.trans
      (tracked second other path both content)
  · -- the first SDK is in place once it is written, and those after it agree with it
    induction written with
    | nil repo => exact fun _ _ member => nomatch member
    | @cons entry rest before middle after first others ih =>
        intro agree
        have alike : ∀ other ∈ rest,
            GeneratedAlike (outputOf entry.1) (outputOf other.1) entry.2 other.2 :=
          fun other member => agree entry List.mem_cons_self other (List.mem_cons_of_mem _ member)
        have later : OutputsAgree outputOf rest := fun one member two other =>
          agree one (List.mem_cons_of_mem _ member) two (List.mem_cons_of_mem _ other)
        refine List.forall_mem_cons.mpr ⟨?_, ih later⟩
        exact others.keeps_tracks (outputOf entry.1) entry.2 alike first.tracks

end

section Loops

variable [DecidableEq Content] (outputOf : String → Path) (generator : Generator Content)
  (order : SetOrder)

theorem generateAll_check (done names : List String) (state : Run Content) :
    (generateAll outputOf generator order true done names state).2.repo = state.repo ∧
    (((generateAll outputOf generator order true done names state).1 = none ∧
        (generateAll outputOf generator order true done names state).2.success = true) ↔
      state.success = true ∧ ∃ trees, made generator state.repo done names = some trees ∧
        ∀ entry ∈ trees, Tracks (outputOf entry.1) entry.2 state.repo) := by
  induction names generalizing done state with
  | nil => simp [generateAll, made]
  | cons name rest ih =>
      cases generated : generator state.repo done name with
      | error message => simp [generateAll, made, generated]
      | ok tree =>
          obtain ⟨passes, repo, success⟩ := generateSdk_check outputOf order state name tree
          rcases stepped : generateSdk outputOf order true state name tree with ⟨failure, left⟩
          rw [stepped] at passes repo success
          obtain rfl : failure = none := passes
          have later := ih (done ++ [name]) left
          simp only [generateAll, made, generated, stepped]
          refine ⟨later.1.trans repo, later.2.trans ?_⟩
          rw [success, repo, and_assoc]
          simp only [Option.map_eq_some_iff]
          constructor
          · rintro ⟨succeeds, here, trees, rest_made, same⟩
            refine ⟨succeeds, (name, tree) :: trees, ⟨trees, rest_made, rfl⟩, ?_⟩
            exact List.forall_mem_cons.mpr ⟨here, same⟩
          · rintro ⟨succeeds, _, ⟨trees, rest_made, rfl⟩, same⟩
            obtain ⟨here, others⟩ := List.forall_mem_cons.mp same
            exact ⟨succeeds, here, trees, rest_made, others⟩

theorem generateAll_write (outputs : List Path) (sources : ReadsSources generator outputs)
    (done names : List String) (among : ∀ name ∈ names, outputOf name ∈ outputs)
    (state : Run Content)
    (wrote : (generateAll outputOf generator order false done names state).1 = none) :
    ∃ trees, made generator state.repo done names = some trees ∧
      WrittenAll outputOf trees state.repo
        (generateAll outputOf generator order false done names state).2.repo := by
  induction names generalizing done state with
  | nil => exact ⟨[], rfl, .nil _⟩
  | cons name rest ih =>
      obtain ⟨member, later⟩ := List.forall_mem_cons.mp among
      cases generated : generator state.repo done name with
      | error message => simp [generateAll, generated] at wrote
      | ok tree =>
          rcases stepped : generateSdk outputOf order false state name tree with ⟨failure, left⟩
          cases failure with
          | some failure => simp [generateAll, generated, stepped] at wrote
          | none =>
              have first := generateSdk_write outputOf order state left name tree stepped
              -- what was written is nothing that the later SDKs are generated from
              have same := sources _ _ (first.sameSources outputs member)
              simp only [generateAll, generated, stepped] at wrote ⊢
              obtain ⟨trees, rest_made, others⟩ := ih (done ++ [name]) later left wrote
              refine ⟨(name, tree) :: trees, ?_, .cons first others⟩
              have unchanged : made generator state.repo (done ++ [name]) rest = some trees := by
                rw [← rest_made]
                exact made_congr generator _ _ same _ _
              simp [made, generated, unchanged]

/-- Where nothing differs, a run writes nothing. -/
theorem generateAll_same (check : Bool) (done names : List String) (state : Run Content)
    (trees : List (String × DirTree Content))
    (all : made generator state.repo done names = some trees)
    (same : ∀ entry ∈ trees, Tracks (outputOf entry.1) entry.2 state.repo) :
    generateAll outputOf generator order check done names state =
      (none, { state with stdout := state.stdout ++ names.map (fun name => "unchanged: " ++ name) }) := by
  induction names generalizing done state trees with
  | nil => simp [generateAll]
  | cons name rest ih =>
      cases generated : generator state.repo done name with
      | error message => simp [made, generated] at all
      | ok tree =>
          simp only [made, generated, Option.map_eq_some_iff] at all
          obtain ⟨others, rest_made, rfl⟩ := all
          obtain ⟨here, away⟩ := List.forall_mem_cons.mp same
          simp only [generateAll, generated,
            generateSdk_same outputOf order check state name tree here]
          have later := ih (done ++ [name])
            { state with stdout := state.stdout ++ ["unchanged: " ++ name] } others rest_made away
          simp [later]

end Loops

/-! Whole runs of the script. -/

section Runs

variable [DecidableEq Content] (manifest : Mapping String Output) (generator : Generator Content)

def Known (args : Args) : Prop := ∀ name ∈ selected manifest args, name ∈ manifest.keys

theorem unknown_nil_iff (args : Args) :
    unknownNames manifest args = [] ↔ Known manifest args := by
  simp [unknownNames, List.filter_eq_nil_iff, Known]

theorem main_code (order : SetOrder) (args : Args) (repo : DirTree Content) :
    (main manifest generator order args repo).code = 0 ↔ Known manifest args ∧
      (generateAll (outputIn manifest) generator order args.check [] (selected manifest args)
        ⟨repo, [], [], true⟩).1 = none ∧
      (generateAll (outputIn manifest) generator order args.check [] (selected manifest args)
        ⟨repo, [], [], true⟩).2.success = true := by
  rw [← unknown_nil_iff]
  by_cases unknown : unknownNames manifest args = []
  · simp [main, unknown]
  · simp [main, unknown]

theorem main_repo (order : SetOrder) (args : Args) (repo : DirTree Content)
    (known : Known manifest args) :
    (main manifest generator order args repo).repo =
      (generateAll (outputIn manifest) generator order args.check [] (selected manifest args)
        ⟨repo, [], [], true⟩).2.repo := by
  have none := (unknown_nil_iff manifest args).mpr known
  simp [main, none]

theorem main_check_repo (order : SetOrder) (sdks : Option (List String)) (repo : DirTree Content) :
    (main manifest generator order ⟨sdks, true⟩ repo).repo = repo := by
  by_cases known : Known manifest ⟨sdks, true⟩
  · rw [main_repo manifest generator order ⟨sdks, true⟩ repo known]
    exact (generateAll_check (outputIn manifest) generator order [] _ _).1
  · have unknown := (not_congr (unknown_nil_iff manifest ⟨sdks, true⟩)).mpr known
    simp [main, unknown]

theorem main_check_code (order : SetOrder) (sdks : Option (List String)) (repo : DirTree Content) :
    (main manifest generator order ⟨sdks, true⟩ repo).code = 0 ↔
      Known manifest ⟨sdks, true⟩ ∧
      ∃ trees, made generator repo [] (selected manifest ⟨sdks, true⟩) = some trees ∧
        ∀ entry ∈ trees, Tracks (outputIn manifest entry.1) entry.2 repo := by
  rw [main_code]
  refine and_congr_right (fun _ => ?_)
  have checked := (generateAll_check (outputIn manifest) generator order []
    (selected manifest ⟨sdks, true⟩) ⟨repo, [], [], true⟩).2
  simpa using checked

/-- The directories that the selected SDKs are tracked in. -/
def selectedOutputs (sdks : Option (List String)) : List Path :=
  (selected manifest ⟨sdks, false⟩).map (outputIn manifest)

theorem main_write (order : SetOrder) (sdks : Option (List String)) (repo : DirTree Content)
    (sources : ReadsSources generator (selectedOutputs manifest sdks))
    (wrote : (main manifest generator order ⟨sdks, false⟩ repo).code = 0) :
    Known manifest ⟨sdks, false⟩ ∧
    ∃ trees, made generator repo [] (selected manifest ⟨sdks, false⟩) = some trees ∧
      WrittenAll (outputIn manifest) trees repo
        (main manifest generator order ⟨sdks, false⟩ repo).repo := by
  obtain ⟨known, passed, -⟩ := (main_code manifest generator order ⟨sdks, false⟩ repo).mp wrote
  rw [main_repo manifest generator order ⟨sdks, false⟩ repo known]
  exact ⟨known, generateAll_write (outputIn manifest) generator order _ sources [] _
    (fun _ member => List.mem_map_of_mem member) _ passed⟩

/-- The selected SDKs are generated alike where their outputs overlap. -/
def Agrees (sdks : Option (List String)) (repo : DirTree Content) : Prop :=
  ∀ trees, made generator repo [] (selected manifest ⟨sdks, false⟩) = some trees →
    OutputsAgree (outputIn manifest) trees

/-- After a run that wrote and succeeded, a check succeeds exactly when SDKs whose outputs overlap
agree there; a second run then writes nothing. No run touches a file that none of the selected
SDKs is compared with, and a check touches nothing. -/
theorem write_then_check (order later : SetOrder) (sdks : Option (List String))
    (repo : DirTree Content) (sources : ReadsSources generator (selectedOutputs manifest sdks))
    (wrote : (main manifest generator order ⟨sdks, false⟩ repo).code = 0) :
    let after := (main manifest generator order ⟨sdks, false⟩ repo).repo
    ((main manifest generator later ⟨sdks, true⟩ after).code = 0 ↔
      Agrees manifest generator sdks repo) ∧
    (Agrees manifest generator sdks repo →
      (main manifest generator later ⟨sdks, false⟩ after).code = 0 ∧
      (main manifest generator later ⟨sdks, false⟩ after).repo = after) ∧
    SameSources (selectedOutputs manifest sdks) repo after ∧
    (∀ path, repo.node path = some .directory → after.node path = some .directory) ∧
    ∀ other, (main manifest generator later ⟨sdks, true⟩ other).repo = other := by
  obtain ⟨known, trees, all, written⟩ := main_write manifest generator order sdks repo sources wrote
  intro after
  have among : ∀ entry ∈ trees, outputIn manifest entry.1 ∈ selectedOutputs manifest sdks := by
    intro entry member
    have named := made_names generator repo [] _ trees all
    exact List.mem_map_of_mem (named ▸ List.mem_map_of_mem member)
  have unchanged := written.sameSources (selectedOutputs manifest sdks) among
  have again : made generator after [] (selected manifest ⟨sdks, false⟩) = some trees := by
    rw [← all]
    exact made_congr generator _ _ (sources repo after unchanged).symm _ _
  have agrees : Agrees manifest generator sdks repo ↔
      ∀ entry ∈ trees, Tracks (outputIn manifest entry.1) entry.2 after := by
    rw [written.all_tracked_iff]
    constructor
    · exact fun agree => agree trees all
    · intro agree other made_other
      obtain rfl := Option.some.inj (all.symm.trans made_other)
      exact agree
  refine ⟨?_, ?_, unchanged, written.directories, main_check_repo manifest generator later sdks⟩
  · rw [main_check_code, agrees]
    constructor
    · rintro ⟨_, others, made_others, same⟩
      obtain rfl := Option.some.inj (again.symm.trans made_others)
      exact same
    · exact fun same => ⟨known, trees, again, same⟩
  · intro agree
    have settled := generateAll_same (outputIn manifest) generator later false []
      (selected manifest ⟨sdks, false⟩) ⟨after, [], [], true⟩ trees again (agrees.mp agree)
    rw [main_code, main_repo manifest generator later ⟨sdks, false⟩ after known, settled]
    exact ⟨⟨known, rfl, rfl⟩, rfl⟩

end Runs

/-! capi-core is generated from the CRDs that are kept in its own tracked directory. -/

def coreManifest : Mapping String Output :=
  ⟨[("capi-core", ⟨"pulumi/sdks/capi-core", by decide, by decide⟩)], by decide⟩

def coreSource : Path := ["pulumi", "sdks", "capi-core", "crds", "core-components.yaml"]

def fileText : Option (Node String) → Option String
  | some (.file text) => some text
  | _ => none

theorem fileText_eq_some_iff (node : Option (Node String)) (text : String) :
    fileText node = some text ↔ node = some (.file text) := by
  cases node with
  | none => simp [fileText]
  | some held => cases held <;> simp [fileText]

def coreGenerator : Generator String := fun repo _ name =>
  match fileText (repo.node coreSource) with
  | some components => .ok (forEach installEach DirTree.empty [(["sdk.py"], components)]).2
  | none => .error ("no source for " ++ name)

/-- The tracked SDK is older than its source. -/
def coreRepo : DirTree String :=
  (forEach installEach DirTree.empty [(coreSource, "kind: List"),
    (["pulumi", "sdks", "capi-core", "sdk.py"], "kind: None"),
    (["pulumi", "sdks", "capi-core", "README.md"], "# SDK")]).2

theorem coreGenerator_reads : ReadsSources coreGenerator (selectedOutputs coreManifest none) := by
  intro before after same
  have outputs : selectedOutputs coreManifest none = [["pulumi", "sdks", "capi-core"]] := by
    decide +kernel
  have away : ∀ output ∈ selectedOutputs coreManifest none, ¬ Compared output coreSource := by
    rw [outputs]
    intro output member
    rw [List.mem_singleton.mp member]
    rintro ⟨relative, split, -, included⟩
    have parts : ["pulumi", "sdks", "capi-core"] ++ ["crds", "core-components.yaml"] =
        ["pulumi", "sdks", "capi-core"] ++ relative := split
    rw [← List.append_cancel_left parts] at included
    exact absurd included (by decide)
  have text : fileText (before.node coreSource) = fileText (after.node coreSource) := by
    ext content
    rw [fileText_eq_some_iff, fileText_eq_some_iff]
    exact same coreSource away content
  funext done name
  simp only [coreGenerator, text]

theorem core_then_check :
    let after := (main coreManifest coreGenerator .unchanged ⟨none, false⟩ coreRepo).repo
    (main coreManifest coreGenerator .unchanged ⟨none, true⟩ coreRepo).code = 1 ∧
      (main coreManifest coreGenerator .unchanged ⟨none, true⟩ after).code = 0 := by
  have wrote : (main coreManifest coreGenerator .unchanged ⟨none, false⟩ coreRepo).code = 0 := by
    decide +kernel
  have alike : Agrees coreManifest coreGenerator none coreRepo := by
    intro trees all first member second other
    have names := made_names coreGenerator coreRepo [] _ trees all
    have single : (trees.map Prod.fst).length = 1 := by
      rw [names]
      rfl
    rw [List.length_map] at single
    obtain ⟨entry, rfl⟩ := List.length_eq_one_iff.mp single
    rw [List.mem_singleton.mp member, List.mem_singleton.mp other]
    exact fun _ _ _ _ => Iff.rfl
  refine ⟨by decide +kernel, ?_⟩
  exact (write_then_check coreManifest coreGenerator .unchanged .unchanged none coreRepo
    coreGenerator_reads wrote).1.mpr alike

/-- An SDK inside another one's directory is a file too many there. -/
def nestedManifest : Mapping String Output :=
  ⟨[("outer", ⟨"sdks/", by decide, by decide⟩), ("inner", ⟨"./sdks/inner", by decide, by decide⟩)],
    by decide⟩

def nestedGenerator : Generator String := fun _ _ name =>
  .ok (forEach installEach DirTree.empty [(["sdk.py"], name)]).2

theorem nested_output_differs :
    let ran := main nestedManifest nestedGenerator .unchanged ⟨none, false⟩ DirTree.empty
    ran.code = 0 ∧
      (main nestedManifest nestedGenerator .unchanged ⟨none, true⟩ ran.repo).stderr =
        ["outer: missing generated file: inner/sdk.py"] := by
  decide +kernel

end ClusterApiForSlinky.SdkRuns
