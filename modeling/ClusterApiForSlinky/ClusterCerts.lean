import ClusterApiForSlinky.CtlptlCluster
import ClusterApiForSlinky.Execution
import Mathlib.Data.List.Nodup

/-!
Runs of `CtlptlCluster` resources and the certs.d directories they leave behind.
Nothing is ever removed below the directory of a cluster, so what a create finds
there was written by the creates before it that came to the same name.
-/

namespace ClusterApiForSlinky.ClusterCerts
open CtlptlCluster Execution

theorem mem_addNames (names items : List Name) (name : Name) :
    name ∈ addNames names items ↔ name ∈ names ∨ (name ∈ items ∧ name.text ≠ "") := by
  induction items generalizing names with
  | nil => simp [addNames]
  | cons item rest ih =>
      rw [addNames]
      split
      · next fresh =>
          rw [ih, List.mem_append, List.mem_singleton, List.mem_cons]
          constructor
          · rintro ((old | rfl) | later)
            · exact Or.inl old
            · exact Or.inr ⟨Or.inl rfl, fresh.1⟩
            · exact Or.inr ⟨Or.inr later.1, later.2⟩
          · rintro (old | ⟨rfl | later, filled⟩)
            · exact Or.inl (Or.inl old)
            · exact Or.inl (Or.inr rfl)
            · exact Or.inr ⟨later, filled⟩
      · next skipped =>
          rw [ih, List.mem_cons]
          constructor
          · rintro (old | later)
            · exact Or.inl old
            · exact Or.inr ⟨Or.inr later.1, later.2⟩
          · rintro (old | ⟨rfl | later, filled⟩)
            · exact Or.inl old
            · exact Or.inl (by_contra fun absent => skipped ⟨filled, absent⟩)
            · exact Or.inr ⟨later, filled⟩

theorem nodup_addNames (names items : List Name) (distinct : names.Nodup) :
    (addNames names items).Nodup := by
  induction items generalizing names with
  | nil => exact distinct
  | cons item rest ih =>
      rw [addNames]
      split
      · next fresh =>
          apply ih
          rw [List.nodup_append_comm]
          exact List.nodup_cons.mpr ⟨fresh.2, distinct⟩
      · exact ih names distinct

theorem addNames_append (names items : List Name) (distinct : (names ++ items).Nodup)
    (filled : ∀ item ∈ items, item.text ≠ "") : addNames names items = names ++ items := by
  induction items generalizing names with
  | nil => simp [addNames]
  | cons item rest ih =>
      obtain ⟨here, later⟩ := List.forall_mem_cons.mp filled
      have fresh : item ∉ names := by
        intro old
        exact (List.nodup_append.mp distinct).2.2 item old item List.mem_cons_self rfl
      rw [addNames, if_pos ⟨here, fresh⟩, ih (names ++ [item]) (by simpa using distinct) later]
      simp

theorem registryNames_eq (input : RegistryInput) :
    ∃ items, registryNames input = addNames [] items := by
  cases input with
  | absent => exact ⟨[], rfl⟩
  | one name => exact ⟨[name], rfl⟩
  | many names => exact ⟨names, rfl⟩

theorem nodup_registryNames (input : RegistryInput) : (registryNames input).Nodup := by
  obtain ⟨items, same⟩ := registryNames_eq input
  rw [same]
  exact nodup_addNames [] items List.nodup_nil

theorem filled_of_mem_registryNames (input : RegistryInput) (name : Name)
    (member : name ∈ registryNames input) : name.text ≠ "" := by
  obtain ⟨items, same⟩ := registryNames_eq input
  rw [same, mem_addNames] at member
  rcases member with ⟨⟨⟩⟩ | ⟨-, filled⟩
  exact filled

/-- Names that went through `_registry_names` go through it unchanged. -/
theorem registryNames_registryNames (input : RegistryInput) :
    registryNames (.many (registryNames input)) = registryNames input :=
  addNames_append [] _ (nodup_registryNames input) (filled_of_mem_registryNames input)

/-- The registries a create attaches. -/
def attachList (props : Props) : List Name :=
  registryNames (.many (props.registryName.toList ++ registryNames props.customRegistryNames))

theorem mem_attachList (props : Props) (registry : Name)
    (named : given props.registryName = some registry) (name : Name) :
    name ∈ attachList props ↔ name = registry ∨ name ∈ registryNames props.customRegistryNames := by
  obtain ⟨found, filled⟩ := Option.filter_eq_some_iff.mp named
  have present : registry.text ≠ "" := of_decide_eq_true filled
  have custom := filled_of_mem_registryNames props.customRegistryNames name
  rw [attachList, registryNames, mem_addNames, found]
  simp only [List.not_mem_nil, false_or, Option.toList_some, List.singleton_append, List.mem_cons]
  constructor
  · exact fun both => both.1
  · rintro (rfl | member)
    · exact ⟨Or.inl rfl, present⟩
    · exact ⟨Or.inr member, custom member⟩

/-! The files. -/

theorem endpoint_injective : Function.Injective endpoint := by
  intro first second same
  have chars := congrArg String.toList same
  rw [endpoint, endpoint, String.toList_append, String.toList_append] at chars
  have texts := String.toList_injective (List.append_cancel_right chars)
  cases first
  cases second
  cases texts
  rfl

theorem endpoint_ne_dockerIo (registry : Name) : endpoint registry ≠ dockerIoEntry := by
  intro same
  have last := congrArg (fun text => text.toList.getLast?) same
  rw [endpoint] at last
  simp only [String.toList_append] at last
  rw [List.getLast?_append_of_ne_nil _ (by decide)] at last
  exact absurd last (by decide)

theorem writeCustom_other (cluster other : Name) (registries : List Name) (files : Files)
    (entry : String)
    (elsewhere : other = cluster → ∀ registry ∈ registries, entry ≠ endpoint registry) :
    writeCustomRegistryHostsToml cluster registries files other entry = files other entry := by
  unfold writeCustomRegistryHostsToml
  induction registries generalizing files with
  | nil => rfl
  | cons registry rest ih =>
      rw [List.foldl_cons, ih _ (fun same => (List.forall_mem_cons.mp (elsewhere same)).2)]
      rw [registryHostsToml, writeHosts, if_neg]
      rintro ⟨same, here⟩
      exact (List.forall_mem_cons.mp (elsewhere same)).1 here

theorem writeCustom_entry (cluster : Name) (registries : List Name) (files : Files)
    (registry : Name) (member : registry ∈ registries) :
    writeCustomRegistryHostsToml cluster registries files cluster (endpoint registry) =
      some (registryHosts registry) := by
  induction registries generalizing files with
  | nil => cases member
  | cons first rest ih =>
      by_cases later : registry ∈ rest
      · exact ih (registryHostsToml cluster first files) later
      · obtain rfl := (List.mem_cons.mp member).resolve_right later
        have last := writeCustom_other cluster cluster rest (registryHostsToml cluster registry files)
          (endpoint registry) (fun _ other inside same =>
            later (endpoint_injective same ▸ inside))
        exact last.trans (if_pos ⟨rfl, rfl⟩)

/-- What a create writes for a cluster. -/
def written (cluster registry : Name) (customRegistries : List Name) (files : Files) : Files :=
  writeCustomRegistryHostsToml cluster customRegistries (dockerIoHostsToml cluster registry files)

theorem written_dockerIo (cluster registry : Name) (customRegistries : List Name) (files : Files) :
    written cluster registry customRegistries files cluster dockerIoEntry =
      some (dockerIoHosts registry) := by
  rw [written, writeCustom_other]
  · exact if_pos ⟨rfl, rfl⟩
  · exact fun _ custom _ same => endpoint_ne_dockerIo custom same.symm

theorem written_custom (cluster registry : Name) (customRegistries : List Name) (files : Files)
    (custom : Name) (member : custom ∈ customRegistries) :
    written cluster registry customRegistries files cluster (endpoint custom) =
      some (registryHosts custom) :=
  writeCustom_entry cluster customRegistries _ custom member

theorem written_other (cluster registry other : Name) (customRegistries : List Name) (files : Files)
    (entry : String) (elsewhere : other = cluster → entry ≠ dockerIoEntry ∧
      ∀ custom ∈ customRegistries, entry ≠ endpoint custom) :
    written cluster registry customRegistries files other entry = files other entry := by
  rw [written, writeCustom_other _ _ _ _ _ (fun same => (elsewhere same).2)]
  exact if_neg (fun both => (elsewhere both.1).1 both.2)

/-! One create. -/

theorem connectAll_files (host : Host) (names : List Name) (world : World) :
    (connectAll host names world).2.files = world.files := by
  induction names generalizing world with
  | nil => rfl
  | cons name rest ih =>
      have kept : (connectRegistry host name world).2.files = world.files := by
        unfold connectRegistry
        split
        · rfl
        · dsimp only
          split <;> rfl
      rw [connectAll]
      split
      · next after connected =>
          rw [ih after, ← kept, connected]
      · next failure after failed =>
          rw [← kept, failed]

/-- All are attached one after the other, or some attempt raises. -/
theorem connectAll_ok (host : Host) (names : List Name) (world after : World) :
    connectAll host names world = (.ok (), after) ↔
      (∀ name ∈ names, host.which "docker" = true ∧
        isAttached (host.answer (.networkConnect name)) = true) ∧
      after = { world with log := world.log ++ names.map .networkConnect } := by
  induction names generalizing world with
  | nil =>
      simp only [connectAll, List.map_nil, List.append_nil, Prod.mk.injEq, true_and]
      constructor
      · rintro rfl
        exact ⟨nofun, rfl⟩
      · exact fun both => both.2.symm
  | cons name rest ih =>
      rw [connectAll, connectRegistry, List.forall_mem_cons]
      cases docker : host.which "docker" with
      | false => simp
      | true =>
          cases attached : isAttached (host.answer (.networkConnect name)) with
          | false => simp [attached]
          | true =>
              simp only [attached, Bool.not_true, Bool.false_eq_true, ↓reduceIte]
              rw [ih]
              simp [World.ran, docker]

theorem fetchKubeconfig_files (host : Host) (context : Name) (world : World) :
    (fetchKubeconfig host context world).2.files = world.files := by
  unfold fetchKubeconfig
  split
  · rfl
  · dsimp only
    split <;> rfl

theorem fetchKubeconfig_ok (host : Host) (context : Name) (world after : World)
    (kubeconfig : String) :
    fetchKubeconfig host context world = (.ok kubeconfig, after) ↔
      (host.which "kubectl" = true ∧ (host.answer (.viewConfig context)).returncode = 0) ∧
      kubeconfig = (host.answer (.viewConfig context)).stdout ∧
      after = world.ran (.viewConfig context) := by
  unfold fetchKubeconfig
  cases kubectl : host.which "kubectl" with
  | false => simp
  | true =>
      by_cases shown : (host.answer (.viewConfig context)).returncode = 0
      · simp [shown, eq_comm]
      · simp [shown]

/-- The machine lets a create get as far as the files. -/
def Writes (host : Host) (props : Props) : Prop :=
  host.which "ctlptl" = true ∧ (given props.registryName).isSome = true

/-- The machine lets a create through. -/
structure Succeeds (generatedConfigDir : String) (host : Host) (props : Props) : Prop where
  writes : Writes host props
  applies : (host.answer (.apply (rendered (clusterName host props).text
    (certsDir generatedConfigDir (clusterName host props))))).returncode = 0
  attaches : ∀ name ∈ attachList props, host.which "docker" = true ∧
    isAttached (host.answer (.networkConnect name)) = true
  shows : host.which "kubectl" = true ∧
    (host.answer (.viewConfig (clusterName host props))).returncode = 0

/-- The outputs a create records. -/
def outputs (host : Host) (props : Props) : Props :=
  { clusterName := some (clusterName host props)
    registryName := props.registryName
    customRegistryNames := .many (registryNames props.customRegistryNames)
    kubeconfig := some (host.answer (.viewConfig (clusterName host props))).stdout
    context := some (clusterName host props) }

/-- The commands of a create that returns. -/
def issued (generatedConfigDir : String) (host : Host) (props : Props) : List Command :=
  [.apply (rendered (clusterName host props).text
    (certsDir generatedConfigDir (clusterName host props)))] ++
    (attachList props).map .networkConnect ++ [.viewConfig (clusterName host props)]

theorem create_files (generatedConfigDir : String) (host : Host) (props : Props) (world : World) :
    (create generatedConfigDir host props world).2.files =
      match host.which "ctlptl", given props.registryName with
      | true, some registry => written (clusterName host props) registry
          (registryNames props.customRegistryNames) world.files
      | _, _ => world.files := by
  unfold create
  cases ctlptl : host.which "ctlptl" with
  | false => rfl
  | true =>
      cases named : given props.registryName with
      | none => simp [render, named]
      | some registry =>
          simp only [render, named, Bool.not_true, Bool.false_eq_true, ↓reduceIte]
          split
          · rfl
          · split
            · next failure connected failed =>
                have kept := congrArg (fun outcome => outcome.2.files) failed
                rw [connectAll_files] at kept
                exact kept.symm
            · next connected done =>
                have kept := congrArg (fun outcome => outcome.2.files) done
                rw [connectAll_files] at kept
                have last := fetchKubeconfig_files host (clusterName host props) connected
                split
                · next fetched => rw [← last, fetched] at kept; exact kept.symm
                · next fetched => rw [← last, fetched] at kept; exact kept.symm

/-- The world after a create that returns. -/
def afterCreate (generatedConfigDir : String) (host : Host) (props : Props) (registry : Name)
    (world : World) : World :=
  { files := written (clusterName host props) registry (registryNames props.customRegistryNames)
      world.files
    log := world.log ++ issued generatedConfigDir host props }

theorem create_succeeds (generatedConfigDir : String) (host : Host) (props : Props)
    (registry : Name) (world : World) (named : given props.registryName = some registry)
    (succeeds : Succeeds generatedConfigDir host props) :
    create generatedConfigDir host props world =
      (.ok ⟨clusterName host props, outputs host props⟩,
        afterCreate generatedConfigDir host props registry world) := by
  have connects := fun world => (connectAll_ok host (attachList props) world _).mpr
    ⟨succeeds.attaches, rfl⟩
  have fetches := fun world => (fetchKubeconfig_ok host (clusterName host props) world _ _).mpr
    ⟨succeeds.shows, rfl, rfl⟩
  have applies := succeeds.applies
  rw [attachList] at connects
  simp only [create, succeeds.writes.1, render, named, Bool.not_true, Bool.false_eq_true,
    ↓reduceIte, applies, ne_eq, not_true_eq_false, connects, fetches]
  simp [afterCreate, issued, written, World.ran, attachList, outputs]

theorem succeeds_of_create (generatedConfigDir : String) (host : Host) (props : Props)
    (world after : World) (result : CreateResult)
    (made : create generatedConfigDir host props world = (.ok result, after)) :
    Succeeds generatedConfigDir host props := by
  unfold create at made
  split at made
  · cases made
  · next ctlptl =>
      have installed : host.which "ctlptl" = true := by simpa using ctlptl
      dsimp only at made
      unfold render at made
      cases named : given props.registryName with
      | none => rw [named] at made; cases made
      | some registry =>
          rw [named] at made
          dsimp only at made
          split at made
          · cases made
          · next applied =>
              split at made
              · cases made
              · next connected done =>
                  split at made
                  · cases made
                  · next kubeconfig fetched shown =>
                      exact ⟨⟨installed, by rw [named]; rfl⟩, by simpa using applied,
                        ((connectAll_ok host _ _ _).mp done).1,
                        ((fetchKubeconfig_ok host _ _ _ _).mp shown).1⟩

/-! The manifest a create applies. -/

theorem fillIn_plain (clusterName certsDir text : String)
    (noName : Text.contains text "$\x7bCLUSTER_NAME\x7d" = false)
    (noCerts : Text.contains text "$\x7bCONTAINERD_CERTS_D\x7d" = false) :
    fillIn clusterName certsDir text = text := by
  rw [fillIn, Text.replace_absent _ _ _ noName, Text.replace_absent _ _ _ noCerts]

theorem fillIn_certsDir (clusterName certsDir : String) :
    fillIn clusterName certsDir "$\x7bCONTAINERD_CERTS_D\x7d" = certsDir := by
  have absent : Text.contains "$\x7bCONTAINERD_CERTS_D\x7d" "$\x7bCLUSTER_NAME\x7d" = false := by
    decide
  have filled : "$\x7bCONTAINERD_CERTS_D\x7d".toList ≠ [] := by decide
  rw [fillIn, Text.replace_absent _ _ clusterName absent]
  exact Text.replace_self _ certsDir filled

/-- What a node mounts as its certs.d directory. -/
def certsMounts (node : KindNode) : List String :=
  (node.extraMounts.filter (fun mount => mount.containerPath = certsMountPath)).map Mount.hostPath

theorem rendered_certsMounts (clusterName certsDir : String) (node : KindNode)
    (member : node ∈ (rendered clusterName certsDir).nodes) : certsMounts node = [certsDir] := by
  have certs := fillIn_plain clusterName certsDir certsMountPath (by decide) (by decide)
  have socket := fillIn_plain clusterName certsDir "/var/run/docker.sock" (by decide) (by decide)
  have mounts : ∀ role image, certsMounts ⟨role, image, templateMounts.map (fun mount =>
      { hostPath := fillIn clusterName certsDir mount.hostPath
        containerPath := fillIn clusterName certsDir mount.containerPath
        readOnly := mount.readOnly })⟩ = [certsDir] := by
    intro role image
    simp only [certsMounts, templateMounts, List.map_cons, List.map_nil, certs, socket,
      fillIn_certsDir]
    simp [certsMountPath]
  simp only [rendered, manifestTemplate, List.map_cons, List.map_nil, List.mem_cons,
    List.not_mem_nil, or_false] at member
  rcases member with rfl | rfl
  · exact mounts _ _
  · exact mounts _ _

theorem diff_outputs (host : Host) (props : Props) :
    (diff (outputs host props) props).changes = false := by
  have name : ¬ ((given props.clusterName).isSome = true ∧
      given props.clusterName ≠ some (clusterName host props)) := by
    rintro ⟨pinned, different⟩
    obtain ⟨value, found⟩ := Option.isSome_iff_exists.mp pinned
    apply different
    rw [clusterName, found, Option.getD_some]
  simp only [diff, outputs, name, registryNames_registryNames, ne_eq, not_true_eq_false,
    ↓reduceIte, List.append_nil, List.isEmpty_nil, Bool.not_true]

/-- The certs.d directory of a new cluster is the one its inputs ask for. -/
structure CertsMatch (generatedConfigDir : String) (host : Host) (props : Props) (registry : Name)
    (result : CreateResult) (after : World) : Prop where
  cache : after.files result.id dockerIoEntry = some (dockerIoHosts registry)
  custom : ∀ name ∈ registryNames props.customRegistryNames,
    after.files result.id (endpoint name) = some (registryHosts name)
  nothingElse : ∀ entry, after.files result.id entry ≠ none →
    entry = dockerIoEntry ∨ ∃ name ∈ registryNames props.customRegistryNames, entry = endpoint name
  applied : ∃ manifest, Command.apply manifest ∈ after.log
  mounted : ∀ manifest, Command.apply manifest ∈ after.log → ∀ node ∈ manifest.nodes,
    certsMounts node = [certsDir generatedConfigDir result.id]
  attached : ∀ name, Command.networkConnect name ∈ after.log ↔
    name = registry ∨ name ∈ registryNames props.customRegistryNames
  answered : ∀ name, Command.networkConnect name ∈ after.log →
    isAttached (host.answer (.networkConnect name)) = true
  unchanged : (diff result.outs props).changes = false

/-- Only what was there before can be too much. -/
theorem certsMatch_iff (generatedConfigDir : String) (host : Host) (props : Props)
    (registry : Name) (files : Files) (named : given props.registryName = some registry)
    (succeeds : Succeeds generatedConfigDir host props) :
    CertsMatch generatedConfigDir host props registry ⟨clusterName host props, outputs host props⟩
        (afterCreate generatedConfigDir host props registry ⟨files, []⟩) ↔
      ∀ entry, files (clusterName host props) entry ≠ none → entry = dockerIoEntry ∨
        ∃ name ∈ registryNames props.customRegistryNames, entry = endpoint name := by
  have kept : ∀ entry, ¬ (entry = dockerIoEntry ∨
      ∃ name ∈ registryNames props.customRegistryNames, entry = endpoint name) →
      written (clusterName host props) registry (registryNames props.customRegistryNames) files
        (clusterName host props) entry = files (clusterName host props) entry := by
    intro entry other
    rw [not_or] at other
    apply written_other
    exact fun _ => ⟨other.1, fun custom member same => other.2 ⟨custom, member, same⟩⟩
  constructor
  · intro certs entry present
    by_contra other
    apply other
    apply certs.nothingElse
    rw [← kept entry other] at present
    exact present
  · intro clean
    have connects : ∀ name, Command.networkConnect name ∈ issued generatedConfigDir host props ↔
        name ∈ attachList props := by
      intro name
      simp [issued]
    have applies : ∀ manifest, Command.apply manifest ∈ issued generatedConfigDir host props ↔
        manifest = rendered (clusterName host props).text
          (certsDir generatedConfigDir (clusterName host props)) := by
      intro manifest
      simp [issued]
    constructor
    · exact written_dockerIo _ registry _ files
    · exact fun name member => written_custom _ registry _ files name member
    · intro entry present
      by_contra other
      exact other (clean entry (kept entry other ▸ present))
    · exact ⟨_, (applies _).mpr rfl⟩
    · intro manifest member
      rw [(applies manifest).mp member]
      exact rendered_certsMounts _ _
    · intro name
      rw [← mem_attachList props registry named]
      exact connects name
    · exact fun name member => (succeeds.attaches name ((connects name).mp member)).2
    · exact diff_outputs host props

/-! Runs. -/

/-- A step of Pulumi. A replacement deletes first and creates after it. -/
inductive Op where
  | create (host : Host) (props : Props)
  | delete (host : Host) (id : Name)
  | replace (deleting creating : Host) (id : Name) (props : Props)

/-- The create a step calls, if it gets there. -/
def Op.called : Op → Option (Host × Props)
  | .create host props => if check props then some (host, props) else none
  | .delete _ _ => none
  | .replace deleting creating _ props =>
      if check props && deleting.which "ctlptl" then some (creating, props) else none

def perform (generatedConfigDir : String) (files : Files) : Op → Files
  | .create host props =>
      if check props then (create generatedConfigDir host props ⟨files, []⟩).2.files else files
  | .delete host id => (delete host id ⟨files, []⟩).2.files
  | .replace deleting creating id props =>
      if !check props then files
      else match delete deleting id ⟨files, []⟩ with
        | (.error _, after) => after.files
        | (.ok (), after) => (create generatedConfigDir creating props ⟨after.files, []⟩).2.files

theorem delete_files (host : Host) (id : Name) (world : World) :
    (delete host id world).2.files = world.files := by
  unfold delete
  split <;> rfl

theorem perform_called (generatedConfigDir : String) (files : Files) (op : Op) :
    perform generatedConfigDir files op =
      match op.called with
      | some (host, props) => (create generatedConfigDir host props ⟨files, []⟩).2.files
      | none => files := by
  cases op with
  | create host props => cases accepted : check props <;> simp [perform, Op.called, accepted]
  | delete host id => exact delete_files host id ⟨files, []⟩
  | replace deleting creating id props =>
      cases accepted : check props with
      | false => simp [perform, Op.called, accepted]
      | true =>
          cases ctlptl : deleting.which "ctlptl" <;>
            simp [perform, Op.called, accepted, ctlptl, delete, World.ran]

/-- A step writes an entry of a cluster's certs.d directory. -/
def Wrote (op : Op) (file : Name × String) : Prop :=
  ∃ host props, op.called = some (host, props) ∧ Writes host props ∧
    clusterName host props = file.1 ∧ (file.2 = dockerIoEntry ∨
      ∃ name ∈ registryNames props.customRegistryNames, file.2 = endpoint name)

theorem perform_present (generatedConfigDir : String) (files : Files) (op : Op)
    (file : Name × String) : perform generatedConfigDir files op file.1 file.2 ≠ none ↔
      files file.1 file.2 ≠ none ∨ Wrote op file := by
  obtain ⟨cluster, entry⟩ := file
  rw [perform_called]
  cases called : op.called with
  | none => simp [Wrote, called]
  | some call =>
      obtain ⟨host, props⟩ := call
      dsimp only
      rw [create_files]
      cases ctlptl : host.which "ctlptl" with
      | false => simp [Wrote, called, Writes, ctlptl]
      | true =>
          cases named : given props.registryName with
          | none => simp [Wrote, called, Writes, named]
          | some registry =>
              have writes : Writes host props := ⟨ctlptl, by rw [named]; rfl⟩
              dsimp only
              by_cases asked : clusterName host props = cluster ∧ (entry = dockerIoEntry ∨
                  ∃ name ∈ registryNames props.customRegistryNames, entry = endpoint name)
              · have wrote : Wrote op (cluster, entry) := ⟨host, props, called, writes, asked⟩
                obtain ⟨rfl, rfl | ⟨name, member, rfl⟩⟩ := asked
                · rw [written_dockerIo]
                  simp [wrote]
                · rw [written_custom _ _ _ _ _ member]
                  simp [wrote]
              · rw [written_other, or_iff_left]
                · rintro ⟨otherHost, otherProps, same, -, where_⟩
                  obtain ⟨rfl, rfl⟩ := Prod.mk.inj (Option.some.inj (called.symm.trans same))
                  exact asked where_
                · rintro rfl
                  refine ⟨fun same => asked ⟨rfl, Or.inl same⟩, ?_⟩
                  exact fun name member same => asked ⟨rfl, Or.inr ⟨name, member, same⟩⟩

def noFiles : Files := fun _ _ => none

/-- The entries a run leaves are those its creates wrote. -/
theorem run_present (generatedConfigDir : String) (ops : List Op) (cluster : Name)
    (entry : String) : run (perform generatedConfigDir) noFiles ops cluster entry ≠ none ↔
      ∃ op ∈ ops, Wrote op (cluster, entry) := by
  have accumulated := run_accumulates (perform generatedConfigDir)
    (fun files (file : Name × String) => files file.1 file.2 ≠ none) Wrote
    (perform_present generatedConfigDir) noFiles ops (cluster, entry)
  simpa [noFiles] using accumulated

/-- Every create of the run that returns leaves the directory its inputs ask for. -/
def CertsFollow (generatedConfigDir : String) (ops : List Op) : Prop :=
  ∀ before op after, ops = before ++ op :: after → ∀ host props, op.called = some (host, props) →
    ∀ result world, create generatedConfigDir host props
        ⟨run (perform generatedConfigDir) noFiles before, []⟩ = (.ok result, world) →
      ∃ registry, given props.registryName = some registry ∧
        CertsMatch generatedConfigDir host props registry result world

/-- No create before one that is let through wrote a registry for the same name
that the later one does not name. -/
def NothingStale (generatedConfigDir : String) (ops : List Op) : Prop :=
  ∀ before op after, ops = before ++ op :: after → ∀ host props, op.called = some (host, props) →
    Succeeds generatedConfigDir host props →
    ∀ earlier ∈ before, ∀ earlierHost earlierProps,
      earlier.called = some (earlierHost, earlierProps) → Writes earlierHost earlierProps →
      clusterName earlierHost earlierProps = clusterName host props →
      registryNames earlierProps.customRegistryNames ⊆ registryNames props.customRegistryNames

theorem given_of_succeeds {generatedConfigDir : String} {host : Host} {props : Props}
    (succeeds : Succeeds generatedConfigDir host props) :
    ∃ registry, given props.registryName = some registry :=
  Option.isSome_iff_exists.mp succeeds.writes.2

theorem certs_follow_iff (generatedConfigDir : String) (ops : List Op) :
    CertsFollow generatedConfigDir ops ↔ NothingStale generatedConfigDir ops := by
  constructor
  · intro follow before op after split host props called succeeds earlier member earlierHost
      earlierProps earlierCalled writes sameName name custom
    obtain ⟨registry, named⟩ := given_of_succeeds succeeds
    have made := create_succeeds generatedConfigDir host props registry
      ⟨run (perform generatedConfigDir) noFiles before, []⟩ named succeeds
    obtain ⟨other, otherNamed, certs⟩ := follow before op after split host props called _ _ made
    obtain rfl := Option.some.inj (named.symm.trans otherNamed)
    have clean := (certsMatch_iff generatedConfigDir host props registry _ named succeeds).mp certs
    have present := (run_present generatedConfigDir before (clusterName host props)
      (endpoint name)).mpr ⟨earlier, member, earlierHost, earlierProps, earlierCalled, writes,
        sameName, Or.inr ⟨name, custom, rfl⟩⟩
    obtain cache | ⟨current, listed, same⟩ := clean (endpoint name) present
    · exact absurd cache (endpoint_ne_dockerIo name)
    · rwa [endpoint_injective same]
  · intro nothingStale before op after split host props called result world made
    have succeeds := succeeds_of_create generatedConfigDir host props _ world result made
    obtain ⟨registry, named⟩ := given_of_succeeds succeeds
    refine ⟨registry, named, ?_⟩
    rw [create_succeeds generatedConfigDir host props registry _ named succeeds] at made
    cases made
    apply (certsMatch_iff generatedConfigDir host props registry _ named succeeds).mpr
    intro entry present
    obtain ⟨earlier, member, earlierHost, earlierProps, earlierCalled, writes, sameName, kind⟩ :=
      (run_present generatedConfigDir before (clusterName host props) entry).mp present
    rcases kind with cache | ⟨name, custom, same⟩
    · exact Or.inl cache
    · have current := nothingStale before op after split host props called succeeds earlier member
        earlierHost earlierProps earlierCalled writes sameName custom
      exact Or.inr ⟨name, current, same⟩

/-- Everything is installed and every command succeeds. -/
def steadyHost : Host where
  which _ := true
  answer _ := ⟨0, "", ""⟩
  tokenHex := ⟨"a1b2c3d4", by decide⟩

def mgmtProps (customRegistry : Name) : Props :=
  { clusterName := some ⟨"kind-mgmt", by decide⟩
    registryName := some ⟨"ctlptl-registry-cache", by decide⟩
    customRegistryNames := .many [customRegistry] }

theorem steadyHost_succeeds (generatedConfigDir : String) (customRegistry : Name) :
    Succeeds generatedConfigDir steadyHost (mgmtProps customRegistry) where
  writes := ⟨rfl, rfl⟩
  applies := rfl
  attaches _ _ := ⟨rfl, rfl⟩
  shows := ⟨rfl, rfl⟩

theorem mgmtProps_checked (customRegistry : Name) : check (mgmtProps customRegistry) = true := by
  have named : Text.startsWith "kind-mgmt" "kind-" = true := by decide
  exact named

/-- A replacement that takes another registry keeps the hosts.toml of the first. -/
theorem replaced_registry_stays : ¬ ∀ generatedConfigDir ops, CertsFollow generatedConfigDir ops := by
  intro always
  let old : Name := ⟨"registry-a", by decide⟩
  let new : Name := ⟨"registry-b", by decide⟩
  let first : Op := .create steadyHost (mgmtProps old)
  let second : Op := .replace steadyHost steadyHost ⟨"kind-mgmt", by decide⟩ (mgmtProps new)
  have firstCalled : first.called = some (steadyHost, mgmtProps old) := by
    simp [first, Op.called, mgmtProps_checked]
  have secondCalled : second.called = some (steadyHost, mgmtProps new) := by
    simp [second, Op.called, mgmtProps_checked, steadyHost]
  have succeeds := steadyHost_succeeds "/srv/pulumi/.state/ctlptl" new
  have made := create_succeeds "/srv/pulumi/.state/ctlptl" steadyHost (mgmtProps new) _
    ⟨run (perform "/srv/pulumi/.state/ctlptl") noFiles [first], []⟩ rfl succeeds
  obtain ⟨registry, named, certs⟩ := always "/srv/pulumi/.state/ctlptl" [first, second] [first]
    second [] rfl steadyHost (mgmtProps new) secondCalled _ _ made
  cases named
  have clean := (certsMatch_iff "/srv/pulumi/.state/ctlptl" steadyHost (mgmtProps new) _ _ rfl
    succeeds).mp certs
  have present := (run_present "/srv/pulumi/.state/ctlptl" [first]
    (clusterName steadyHost (mgmtProps new)) (endpoint old)).mpr
    ⟨first, List.mem_singleton_self first, steadyHost, mgmtProps old, firstCalled, ⟨rfl, rfl⟩, rfl,
      Or.inr ⟨old, by decide, rfl⟩⟩
  have stale := clean (endpoint old) present
  revert stale
  decide

end ClusterApiForSlinky.ClusterCerts
