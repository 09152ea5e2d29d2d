import ClusterApiForSlinky.GitSyncUps
import ClusterApiForSlinky.ProjectSync

/-!
From a commit to AWX: `GitSync` pushes HEAD, FluxSource waits for the revision that
was recorded, and the init stack syncs the AWX project to the revision that the
source reports when it is read. Commits land at any time, and the source controller
fetches the branch whenever it likes. The stack has one GitOps source.
-/

namespace ClusterApiForSlinky.Delivery
open GitSync GitSyncUps
open Urls (Tables asciiTables)

/-- `_field` of a mapping. -/
def field (value : Option Json) (name : String) : Option Json :=
  match value with
  | some (.dict entries) => entries.lookup name
  | _ => none

/-- `revision.rsplit(":", 1)[-1]` -/
def afterLastColon (revision : String) : String :=
  match Text.rpartition ':' revision.toList with
  | some sides => String.ofList sides.2
  | none => revision

def fluxArtifactRevisionSha (status : Option Json) : Except String String :=
  match field (field status "artifact") "revision" with
  | some (.str revision) =>
      if revision = "" then .error "Flux GitRepository status.artifact.revision is missing"
      else if Text.contains revision "@sha" && Text.contains revision ":" then
        .ok (afterLastColon revision)
      else .ok revision
  | _ => .error "Flux GitRepository status.artifact.revision is missing"

/-- `artifact` is the revision in the status of the GitRepository. -/
structure State where
  world : World
  artifact : Option String

def status (state : State) : Option Json :=
  some (.dict (match state.artifact with
    | none => []
    | some revision => [("artifact", .dict [("revision", .str revision)])]))

inductive Op where
  | git (op : GitSyncUps.Op)
  /-- The source controller fetches the branch. -/
  | reconcile

/-- With the stack its GitRepository is gone, and the status with it. -/
def kept (artifact : Option String) : GitSyncUps.Op → Option String
  | .destroy => none
  | .commit _ _ | .up _ _ | .refresh => artifact

def step (tables : Tables) (inputs : Inputs) (state : State) : Op → State
  | .git op => { world := act tables state.world op, artifact := kept state.artifact op }
  | .reconcile =>
      match state.world.remotes (target tables inputs) with
      | none => state
      | some tip => { state with artifact := some (artifactRevision inputs.repoBranch tip) }

/-- The condition of `_wait_for_artifact_revision` is met. -/
def Met (inputs : Inputs) (sha : String) (state : State) : Prop :=
  ∃ revision, state.artifact = some revision ∧
    waitForArtifactRevision inputs.repoBranch sha = artifactRevisionPath ++ revision

/-- What can happen while an `up` waits: it holds the lock of the stack. -/
def Bystander : Op → Prop
  | .git (.commit _ _) | .git .refresh | .reconcile => True
  | .git (.up _ _) | .git .destroy => False

/-- Every `up` pushes the one directory to the one branch. -/
def OneSource (tables : Tables) (inputs : Inputs) : Op → Prop
  | .git (.up other _) =>
      other.sourceDir = inputs.sourceDir ∧ target tables other = target tables inputs
  | .git (.commit _ _) | .git .refresh | .git .destroy | .reconcile => True

/-! `flux_artifact_revision_sha` of what the source controller reports. -/

theorem afterLastColon_append (start sha : String) (plain : ':' ∉ sha.toList) :
    afterLastColon (start ++ (":" ++ sha)) = sha := by
  have cut : Text.rpartition ':' (start ++ (":" ++ sha)).toList =
      some (start.toList, sha.toList) := by
    rw [Text.rpartition_eq_some_iff]
    exact ⟨by simp, plain⟩
  rw [afterLastColon, cut]
  exact String.ofList_toList

theorem contains_append (start part rest : String) :
    Text.contains (start ++ (part ++ rest)) part = true := by
  rw [Text.contains, List.any_eq_true]
  refine ⟨part.toList ++ rest.toList, ?_, ?_⟩
  · rw [List.mem_tails, String.toList_append, String.toList_append]
    exact List.suffix_append _ _
  · exact List.isPrefixOf_iff_prefix.mpr (List.prefix_append _ _)

/-- Whatever the branch is called, the sha is read back. -/
theorem sha_of_artifact (state : State) (branch sha : String) (plain : ':' ∉ sha.toList)
    (reported : state.artifact = some (artifactRevision branch sha)) :
    fluxArtifactRevisionSha (status state) = .ok sha := by
  have read : field (field (status state) "artifact") "revision" =
      some (.str (artifactRevision branch sha)) := by
    rw [status, reported]
    rfl
  have marked : Text.contains (artifactRevision branch sha) "@sha" = true := by
    have split : artifactRevision branch sha = branch ++ ("@sha" ++ ("1:" ++ sha)) := by
      rw [artifactRevision, show "@sha1:" = "@sha" ++ "1:" from rfl, String.append_assoc]
    rw [split]
    exact contains_append branch "@sha" ("1:" ++ sha)
  have split : artifactRevision branch sha = (branch ++ "@sha1") ++ (":" ++ sha) := by
    rw [artifactRevision, show "@sha1:" = "@sha1" ++ ":" from rfl, String.append_assoc,
      String.append_assoc]
  have colon : Text.contains (artifactRevision branch sha) ":" = true := by
    rw [split]
    exact contains_append (branch ++ "@sha1") ":" sha
  have present : artifactRevision branch sha ≠ "" := by
    intro empty
    rw [empty] at colon
    exact absurd colon (by decide)
  rw [fluxArtifactRevisionSha, read]
  simp only [present, if_false, marked, colon, Bool.and_self, if_true]
  rw [split, afterLastColon_append _ _ plain]

theorem sha_of_nothing (state : State) (expected : String) (nothing : state.artifact = none) :
    fluxArtifactRevisionSha (status state) ≠ .ok expected := by
  have read : field (field (status state) "artifact") "revision" = none := by
    rw [status, nothing]
    rfl
  rw [fluxArtifactRevisionSha, read]
  intro same
  cases same

theorem met_iff (inputs : Inputs) (sha : String) (state : State) :
    Met inputs sha state ↔
      state.artifact = some (artifactRevision inputs.repoBranch sha) := by
  have expression : waitForArtifactRevision inputs.repoBranch sha =
      artifactRevisionPath ++ artifactRevision inputs.repoBranch sha :=
    (wait_met_iff inputs.repoBranch sha sha).mpr rfl
  constructor
  · rintro ⟨revision, reported, met⟩
    rw [expression] at met
    rw [reported, (String.append_right_inj _).mp met]
  · exact fun reported => ⟨_, reported, expression⟩

/-- A commit moves no branch, and each history only grows. -/
theorem commit_grows (tables : Tables) (world : World) (own dir sha : String)
    (distinct : (world.histories own).Nodup) :
    (act tables world (.commit dir sha)).remotes = world.remotes ∧
      ∃ new, (act tables world (.commit dir sha)).histories own = new ++ world.histories own ∧
        ((act tables world (.commit dir sha)).histories own).Nodup := by
  -- What is in the history of a directory already cannot be committed there again.
  by_cases known : sha ∈ world.histories dir
  · rw [act, if_pos known]
    exact ⟨rfl, [], rfl, distinct⟩
  · rw [act, if_neg known]
    refine ⟨rfl, ?_⟩
    by_cases same : dir = own
    · subst same
      have history := Function.update_self dir (sha :: world.histories dir) world.histories
      refine ⟨[sha], history, ?_⟩
      exact (congrArg List.Nodup history).mpr (List.nodup_cons.mpr ⟨known, distinct⟩)
    · have history := Function.update_of_ne (Ne.symm same) (sha :: world.histories dir)
        world.histories
      exact ⟨[], history, (congrArg List.Nodup history).mpr distinct⟩

theorem notBefore_self {history : List String} {sha : String} (member : sha ∈ history) :
    NotBefore history sha sha := by
  obtain ⟨newer, older, rfl⟩ := List.append_of_mem member
  exact ⟨newer, older, rfl, List.mem_cons_self⟩

/-! Nothing goes back behind a commit that was pushed once. -/

section

variable (tables : Tables) (inputs : Inputs)

/-- The branch holds `base` or a later commit, and so does what the source reports. -/
structure Since (base : String) (state : State) : Prop where
  distinct : (state.world.histories inputs.sourceDir).Nodup
  remote : ∃ tip, state.world.remotes (target tables inputs) = some tip ∧
    NotBefore (state.world.histories inputs.sourceDir) base tip
  reported : ∀ revision, state.artifact = some revision →
    ∃ tip, revision = artifactRevision inputs.repoBranch tip ∧
      NotBefore (state.world.histories inputs.sourceDir) base tip

variable {tables inputs} {base : String}

theorem Since.base_mem {state : State} (since : Since tables inputs base state) :
    base ∈ state.world.histories inputs.sourceDir := by
  obtain ⟨_, _, order⟩ := since.remote
  exact order.base_mem

/-- The history grows, the branch stays or moves on, and the source keeps its status. -/
theorem Since.grows {state next : State} (since : Since tables inputs base state)
    (new : List String)
    (history : next.world.histories inputs.sourceDir =
      new ++ state.world.histories inputs.sourceDir)
    (distinct : (next.world.histories inputs.sourceDir).Nodup)
    (remote : next.world.remotes (target tables inputs) =
        state.world.remotes (target tables inputs) ∨
      ∃ tip, next.world.remotes (target tables inputs) = some tip ∧
        NotBefore (next.world.histories inputs.sourceDir) base tip)
    (artifact : next.artifact = state.artifact ∨ next.artifact = none) :
    Since tables inputs base next := by
  refine ⟨distinct, ?_, ?_⟩
  · rcases remote with same | moved
    · obtain ⟨tip, held, order⟩ := since.remote
      refine ⟨tip, same.trans held, ?_⟩
      rw [history]
      exact order.grows new
    · exact moved
  · intro revision shown
    rcases artifact with same | nothing
    · rw [same] at shown
      obtain ⟨tip, named, order⟩ := since.reported revision shown
      refine ⟨tip, named, ?_⟩
      rw [history]
      exact order.grows new
    · rw [nothing] at shown
      cases shown

theorem left_since {state : State} (since : Since tables inputs base state) (other : Inputs)
    (events : List Event) (dirs : other.sourceDir = inputs.sourceDir)
    (targets : target tables other = target tables inputs) (record : Option Outputs) :
    Since tables inputs base
      { state with world := { left tables state.world other
        (ended tables state.world other events) with recorded := record } } := by
  have follows := ended_follows tables inputs.sourceDir state.world other events base dirs
    since.distinct since.base_mem
  have history : (left tables state.world other (ended tables state.world other events)).histories
      inputs.sourceDir = (ended tables state.world other events).history := by
    rw [← dirs]
    exact left_histories tables state.world other _
  have branch : (left tables state.world other (ended tables state.world other events)).remotes
      (target tables inputs) = (ended tables state.world other events).remote := by
    rw [← targets]
    exact left_remotes tables state.world other _
  obtain ⟨new, grown⟩ := follows.grown
  have start : (called tables state.world other).history =
      state.world.histories inputs.sourceDir := by
    rw [← dirs]
    rfl
  have before : (called tables state.world other).remote =
      state.world.remotes (target tables inputs) := by
    rw [← targets]
    rfl
  apply since.grows new
  · show (left tables state.world other _).histories _ = _
    rw [history, grown, start]
  · show ((left tables state.world other _).histories _).Nodup
    rw [history]
    exact follows.distinct
  · show (left tables state.world other _).remotes _ = _ ∨
      ∃ tip, (left tables state.world other _).remotes _ = _ ∧
        NotBefore ((left tables state.world other _).histories _) _ _
    rw [branch, history, ← before]
    exact follows.remote
  · exact Or.inl rfl

theorem create_since {state : State} (since : Since tables inputs base state) (other : Inputs)
    (events : List Event) (dirs : other.sourceDir = inputs.sourceDir)
    (targets : target tables other = target tables inputs) :
    Since tables inputs base { state with world := (create tables state.world other events).2 } := by
  rw [create]
  split
  · exact left_since since other events dirs targets _
  · exact left_since since other events dirs targets state.world.recorded

theorem up_since {state : State} (since : Since tables inputs base state) (other : Inputs)
    (events : List Event) (dirs : other.sourceDir = inputs.sourceDir)
    (targets : target tables other = target tables inputs) :
    Since tables inputs base { state with world := (up tables state.world other events).2 } := by
  have made := create_since since other events dirs targets
  rw [up]
  split
  · exact since
  · split
    · exact made
    · split
      · exact since
      · exact made

theorem commit_since {state : State} (since : Since tables inputs base state)
    (dir sha : String) :
    Since tables inputs base
      { state with world := act tables state.world (.commit dir sha) } := by
  obtain ⟨remotes, new, grown, distinct⟩ :=
    commit_grows tables state.world inputs.sourceDir dir sha since.distinct
  exact since.grows new grown distinct (Or.inl (congrFun remotes _)) (Or.inl rfl)

theorem step_since {state : State} (since : Since tables inputs base state) (op : Op)
    (source : OneSource tables inputs op) :
    Since tables inputs base (step tables inputs state op) := by
  cases op with
  | reconcile =>
      obtain ⟨tip, held, order⟩ := since.remote
      rw [step, held]
      refine ⟨since.distinct, ⟨tip, held, order⟩, ?_⟩
      intro revision shown
      cases shown
      exact ⟨tip, rfl, order⟩
  | git op =>
      cases op with
      | commit dir sha => exact commit_since since dir sha
      | up other events => exact up_since since other events source.1 source.2
      | refresh => exact since
      | destroy =>
          apply since.grows []
          · rfl
          · exact since.distinct
          · exact Or.inl rfl
          · exact Or.inr rfl

theorem run_since {state : State} (since : Since tables inputs base state) (ops : List Op)
    (source : ∀ op ∈ ops, OneSource tables inputs op) :
    Since tables inputs base (Execution.run (step tables inputs) state ops) := by
  apply Execution.legal_invariant (step tables inputs) (OneSource tables inputs)
    (Since tables inputs base) _ state ops source since
  exact fun state op since own => step_since since op own

theorem step_published (state : State) (op : Op)
    (published : Published tables inputs.sourceDir state.world)
    (source : OneSource tables inputs op) :
    Published tables inputs.sourceDir (step tables inputs state op).world := by
  cases op with
  | git op =>
      apply act_published tables inputs.sourceDir state.world op _ published
      rintro other events rfl
      exact source.1
  | reconcile =>
      rw [step]
      split
      · exact published
      · exact published

theorem run_published (state : State) (ops : List Op)
    (source : ∀ op ∈ ops, OneSource tables inputs op)
    (published : Published tables inputs.sourceDir state.world) :
    Published tables inputs.sourceDir (Execution.run (step tables inputs) state ops).world :=
  Execution.legal_invariant (step tables inputs) (OneSource tables inputs)
    (fun state => Published tables inputs.sourceDir state.world) step_published state ops source
    published

end

/-! While an `up` waits. -/

section

variable (tables : Tables) (inputs : Inputs)

/-- The branch stays, commits may be added, and the source reports what it did or
what is there. -/
structure Waiting (start state : State) : Prop where
  remote : state.world.remotes = start.world.remotes
  grown : ∃ new, state.world.histories inputs.sourceDir =
    new ++ start.world.histories inputs.sourceDir
  distinct : (state.world.histories inputs.sourceDir).Nodup
  reported : state.artifact = start.artifact ∨
    ∃ tip, start.world.remotes (target tables inputs) = some tip ∧
      state.artifact = some (artifactRevision inputs.repoBranch tip)

theorem bystander_waits (start state : State) (op : Op)
    (waiting : Waiting tables inputs start state) (bystander : Bystander op) :
    Waiting tables inputs start (step tables inputs state op) := by
  obtain ⟨remote, ⟨before, grown⟩, distinct, reported⟩ := waiting
  cases op with
  | reconcile =>
      rw [step]
      split
      · exact ⟨remote, ⟨before, grown⟩, distinct, reported⟩
      · next tip held =>
          rw [remote] at held
          exact ⟨remote, ⟨before, grown⟩, distinct, Or.inr ⟨tip, held, rfl⟩⟩
  | git op =>
      cases op with
      | commit dir sha =>
          obtain ⟨remotes, new, grows, unique⟩ :=
            commit_grows tables state.world inputs.sourceDir dir sha distinct
          refine ⟨remotes.trans remote, ⟨new ++ before, ?_⟩, unique, reported⟩
          rw [List.append_assoc, ← grown]
          exact grows
      | refresh => exact ⟨remote, ⟨before, grown⟩, distinct, reported⟩
      | up other events => cases bystander
      | destroy => cases bystander

theorem bystanders_wait (start state : State) (waiting : Waiting tables inputs start state)
    (during : List Op) (bystanders : ∀ op ∈ during, Bystander op) :
    Waiting tables inputs start (Execution.run (step tables inputs) state during) :=
  Execution.legal_invariant (step tables inputs) Bystander (Waiting tables inputs start)
    (bystander_waits tables inputs start) state during bystanders waiting

/-- An `up` gets past the wait for some schedule exactly when the branch holds the
recorded commit, or the source still reports it from before. -/
theorem wait_ends_iff (start : State) (sha tip : String)
    (distinct : (start.world.histories inputs.sourceDir).Nodup)
    (held : start.world.remotes (target tables inputs) = some tip) :
    (∃ during, (∀ op ∈ during, Bystander op) ∧
      Met inputs sha (Execution.run (step tables inputs) start during)) ↔
      tip = sha ∨ Met inputs sha start := by
  constructor
  · rintro ⟨during, bystanders, met⟩
    have waiting := bystanders_wait tables inputs start start
      ⟨rfl, ⟨[], rfl⟩, distinct, Or.inl rfl⟩ during bystanders
    rw [met_iff] at met ⊢
    rcases waiting.reported with same | ⟨other, there, shown⟩
    · exact Or.inr (same ▸ met)
    · left
      rw [shown, Option.some.injEq] at met
      rw [held, Option.some.injEq] at there
      rw [there]
      exact (String.append_right_inj _).mp ((String.append_right_inj _).mp met)
  · rintro (rfl | met)
    -- One fetch is enough where the branch is right, none where the status already is.
    · refine ⟨[.reconcile], ?_, ?_⟩
      · intro op inside
        rw [List.mem_singleton.mp inside]
        trivial
      · rw [met_iff, Execution.run_cons, Execution.run_nil, step, held]
    · refine ⟨[], ?_, met⟩
      intro op inside
      cases inside

/-- When the wait is over, nothing is older than what was resolved before it. -/
theorem since_of_met (start state : State) (base sha : String)
    (waiting : Waiting tables inputs start state) (met : Met inputs sha state)
    (resolved : NotBefore (start.world.histories inputs.sourceDir) base sha)
    (branch : ∃ tip, start.world.remotes (target tables inputs) = some tip ∧
      NotBefore (start.world.histories inputs.sourceDir) base tip) :
    Since tables inputs base state := by
  obtain ⟨new, grown⟩ := waiting.grown
  obtain ⟨tip, held, order⟩ := branch
  refine ⟨waiting.distinct, ⟨tip, ?_, ?_⟩, ?_⟩
  · rw [waiting.remote, held]
  · rw [grown]
    exact order.grows new
  · intro revision shown
    rw [(met_iff inputs sha state).mp met, Option.some.injEq] at shown
    refine ⟨sha, shown.symm, ?_⟩
    rw [grown]
    exact resolved.grows new

end

/-! The AWX project. -/

/-- `_sync` returns on the revision it was given, which AWX reported with a success. -/
theorem sync_returns (str : Json → String) (props : ProjectSync.Props) (start : Int)
    (first : ProjectSync.Answer) (triggered : Option ProjectSync.Response)
    (answers : List ProjectSync.Answer) (outs : ProjectSync.Outs)
    (returned : (ProjectSync.sync str props start first triggered answers).outcome =
      some (.ok outs)) :
    ∃ answer ∈ answers, ProjectSync.Synced str props answer := by
  have polled : ∀ deadline requests,
      (ProjectSync.poll str props deadline requests [first] answers).outcome = some (.ok outs) →
      ∃ answer ∈ answers, ProjectSync.Synced str props answer := by
    intro deadline requests ended
    obtain ⟨waited, last, later, same, _, taken, _⟩ :=
      (Execution.poll_decided_iff (ProjectSync.turn str props deadline) answers _ _).mp
        (Prod.ext rfl ended)
    refine ⟨last, ?_, ProjectSync.turn_returns str props deadline last outs taken⟩
    rw [same]
    exact List.mem_append_right _ List.mem_cons_self
  unfold ProjectSync.sync at returned
  split at returned
  · cases returned
  · split at returned
    · exact polled _ _ returned
    · split at returned
      · cases returned
      · exact polled _ _ returned

/-- The revision that the init stack syncs AWX to is no older than `head` and `sha`,
and a sync that returns has seen AWX at it. -/
structure Fenced (inputs : Inputs) (head sha : String) (state : State) (expected : String) :
    Prop where
  head : NotBefore (state.world.histories inputs.sourceDir) head expected
  recorded : NotBefore (state.world.histories inputs.sourceDir) sha expected
  synced : ∀ str props start first triggered answers outs,
    props.expectedRevision = expected →
    (ProjectSync.sync str props start first triggered answers).outcome = some (.ok outs) →
    ∃ answer ∈ answers, ∃ project, ProjectSync.project answer.response = .ok project ∧
      project.lookup "scm_revision" = some (.str expected)

theorem fenced_of_since (tables : Tables) (inputs : Inputs) (head sha : String) (state : State)
    (fromHead : Since tables inputs head state) (fromSha : Since tables inputs sha state)
    (names : ∀ commit ∈ state.world.histories inputs.sourceDir, ':' ∉ commit.toList)
    (expected : String) (read : fluxArtifactRevisionSha (status state) = .ok expected) :
    Fenced inputs head sha state expected := by
  cases shown : state.artifact with
  | none => exact absurd read (sha_of_nothing state expected shown)
  | some revision =>
      obtain ⟨tip, rfl, order⟩ := fromHead.reported revision shown
      -- Both orders are about the one revision that is reported.
      obtain ⟨other, same, own⟩ := fromSha.reported _ shown
      have agree : other = tip :=
        ((String.append_right_inj _).mp ((String.append_right_inj _).mp same)).symm
      rw [agree] at own
      have back := sha_of_artifact state inputs.repoBranch tip (names tip order.mem) shown
      rw [back] at read
      cases read
      refine ⟨order, own, ?_⟩
      intro str props start first triggered answers outs asked returned
      obtain ⟨answer, inside, project, given, at_, _⟩ :=
        sync_returns str props start first triggered answers outs returned
      refine ⟨answer, inside, project, given, ?_⟩
      rw [← asked]
      exact of_decide_eq_true at_

/-- After any history of the stack, an `up` that pushed or had nothing to push gets
past the wait for some schedule exactly when its branch holds the commit it recorded
(or the source still reported that one); whenever it does, what the init stack syncs
AWX to, then or at any later time, is no older than HEAD was when the `up` began. -/
theorem awx_is_fenced (tables : Tables) (inputs : Inputs) (start : State) (ops : List Op)
    (events : List Event) (fresh : start.world.recorded = none)
    (distinct : (start.world.histories inputs.sourceDir).Nodup)
    (source : ∀ op ∈ ops, OneSource tables inputs op)
    (settled : (up tables (Execution.run (step tables inputs) start ops).world inputs
      events).1 ≠ .failed) :
    let before := Execution.run (step tables inputs) start ops
    let after := step tables inputs before (.git (.up inputs events))
    ∃ head sha tip, (before.world.histories inputs.sourceDir).head? = some head ∧
      after.world.recorded = some ⟨inputs, sha⟩ ∧
      after.world.remotes (target tables inputs) = some tip ∧
      ((∃ during, (∀ op ∈ during, Bystander op) ∧
        Met inputs sha (Execution.run (step tables inputs) after during)) ↔
          tip = sha ∨ Met inputs sha after) ∧
      ∀ during later, (∀ op ∈ during, Bystander op) →
        Met inputs sha (Execution.run (step tables inputs) after during) →
        (∀ op ∈ later, OneSource tables inputs op) →
        let final := Execution.run (step tables inputs)
          (Execution.run (step tables inputs) after during) later
        (∀ commit ∈ final.world.histories inputs.sourceDir, ':' ∉ commit.toList) →
        ∀ expected, fluxArtifactRevisionSha (status final) = .ok expected →
          Fenced inputs head sha final expected := by
  intro before after
  have published : Published tables inputs.sourceDir before.world := by
    apply run_published start ops source
    refine ⟨distinct, ?_⟩
    intro outs recorded
    rw [fresh] at recorded
    cases recorded
  obtain ⟨kept, failed | ⟨head, newest, ⟨sha, tip, recorded, held, resolved, order, own⟩⟩⟩ :=
    up_cases tables inputs.sourceDir before.world inputs events rfl published
  · exact absurd failed settled
  · have waited := wait_ends_iff tables inputs after sha tip kept.distinct held
    refine ⟨head, sha, tip, newest, recorded, held, waited, ?_⟩
    intro during later bystanders met source final names expected read
    have waiting := bystanders_wait tables inputs after after
      ⟨rfl, ⟨[], rfl⟩, kept.distinct, Or.inl rfl⟩ during bystanders
    have fromHead := since_of_met tables inputs after _ head sha waiting met resolved
      ⟨tip, held, order⟩
    have fromSha := since_of_met tables inputs after _ sha sha waiting met
      (notBefore_self (NotBefore.base_mem own)) ⟨tip, held, own⟩
    exact fenced_of_since tables inputs head sha final (run_since fromHead later source)
      (run_since fromSha later source) names expected read

def nothingYet : State := ⟨firstCommit, none⟩

/-- A first `up` in which `b2` is committed after HEAD was resolved, and one that is
left alone. -/
def crossed : List Event := [.revParse, .commit "b2", .enterPush, .startPush, .pushSucceeds]

def afterUp (events : List Event) : State :=
  step asciiTables gitea nothingYet (.git (.up gitea events))

/-- Left alone, the `up` gets past its wait, and a later commit that is pushed and
fetched is what AWX is synced to; crossed by a commit it waits in vain. -/
theorem awx_is_fenced_later :
    (∃ final, fluxArtifactRevisionSha (status final) = .ok "b2" ∧
      Fenced gitea "a1" "a1" final "b2") ∧
    ¬∃ during, (∀ op ∈ during, Bystander op) ∧
      Met gitea "a1" (Execution.run (step asciiTables gitea) (afterUp crossed) during) := by
  constructor
  · obtain ⟨head, sha, tip, newest, recorded, -, -, fenced⟩ :=
      awx_is_fenced asciiTables gitea nothingYet [] push rfl (by decide) (by simp) (by decide)
    have first : head = "a1" := Option.some.inj (newest.symm.trans (by decide))
    have same : (⟨gitea, sha⟩ : Outputs) = ⟨gitea, "a1"⟩ :=
      Option.some.inj (recorded.symm.trans (by decide))
    cases first
    cases same
    let later : List Op := [.git (.commit "/work" "b2"), .git (.up gitea push), .reconcile]
    refine ⟨_, ?_, fenced [.reconcile] later ?_ ?_ ?_ ?_ "b2" ?_⟩
    · decide
    · simp [Bystander]
    · exact (met_iff _ _ _).mpr (by decide)
    · simp [later, OneSource]
    · decide
    · decide
  · obtain ⟨head, sha, tip, -, recorded, held, ends, -⟩ :=
      awx_is_fenced asciiTables gitea nothingYet [] crossed rfl (by decide) (by simp) (by decide)
    have same : (⟨gitea, sha⟩ : Outputs) = ⟨gitea, "a1"⟩ :=
      Option.some.inj (recorded.symm.trans (by decide))
    have last : tip = "b2" := Option.some.inj (held.symm.trans (by decide))
    cases same
    intro passes
    rcases ends.mp passes with stale | met
    · rw [last] at stale
      exact absurd stale (by decide)
    · exact absurd ((met_iff _ _ _).mp met) (by decide)

end ClusterApiForSlinky.Delivery
