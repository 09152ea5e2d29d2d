import ClusterApiForSlinky.GitSync

/-!
What a `GitSync` create records against what it pushed. A run is watched: the
commits made since HEAD was resolved are collected, and each push attempt notes
which of them were there when git read HEAD for it.
-/

namespace ClusterApiForSlinky.GitSyncRuns
open GitSync

structure Watch where
  state : State
  pending : List String
  late : List String
  deriving DecidableEq, Repr

def isReady : Phase → Bool
  | .ready _ _ => true
  | _ => false

def watch (urlsplit : String → SplitUrl) (props : Props) (seen : Watch) (event : Event) : Watch :=
  { state := step urlsplit props seen.state event
    pending :=
      match event with
      | .commit sha => if sha ∈ seen.state.history then seen.pending else sha :: seen.pending
      | .revParse => if seen.state.phase = .called then [] else seen.pending
      | _ => seen.pending
    late :=
      match event with
      | .startPush => if isReady seen.state.phase then seen.pending else seen.late
      | _ => seen.late }

/-- The commits that land after HEAD is resolved and before the last push
attempt of the schedule starts, newest first. -/
def lateCommits (urlsplit : String → SplitUrl) (props : Props) (start : State)
    (events : List Event) : List String :=
  (Execution.run (watch urlsplit props) ⟨start, [], []⟩ events).late

theorem watch_run_state (urlsplit : String → SplitUrl) (props : Props) (seen : Watch)
    (events : List Event) :
    (Execution.run (watch urlsplit props) seen events).state =
      Execution.run (step urlsplit props) seen.state events := by
  induction events generalizing seen with
  | nil => rfl
  | cons event rest ih =>
      rw [Execution.run_cons, Execution.run_cons]
      exact ih (watch urlsplit props seen event)

/-- HEAD has moved past the resolved sha by exactly the pending commits. -/
def Ahead (seen : Watch) (head : String) : Prop :=
  ∃ older, seen.state.history = seen.pending ++ head :: older

/-- What a phase says about the sha `create` resolved; the attempt that is
running, or the one that succeeded, carries that sha when no commit was late. -/
def Tracked (seen : Watch) : Phase → Prop
  | .called => True
  | .resolved head => Ahead seen head
  | .ready head _ => Ahead seen head
  | .asleep head _ _ => Ahead seen head
  | .pushing head _ carried => Ahead seen head ∧ (carried = head ↔ seen.late = [])
  | .returned result =>
      ∃ tip, seen.state.remote = some tip ∧ (tip = result.headSha ↔ seen.late = [])
  | .raised _ => True

def Holds (seen : Watch) : Prop :=
  seen.state.history.Nodup ∧ Tracked seen seen.state.phase

/-- A commit moves HEAD and, once HEAD was resolved, the pending list with it. -/
theorem commit_holds (urlsplit : String → SplitUrl) (props : Props) (seen : Watch)
    (sha : String) (holds : Holds seen) : Holds (watch urlsplit props seen (.commit sha)) := by
  obtain ⟨distinct, tracked⟩ := holds
  -- A sha that is already in the history is no new commit.
  by_cases known : sha ∈ seen.state.history
  · simpa [Holds, watch, step, known, Tracked, Ahead] using And.intro distinct tracked
  · have moves : ∀ head, Ahead seen head → Ahead (watch urlsplit props seen (.commit sha)) head := by
      rintro head ⟨older, ahead⟩
      refine ⟨older, ?_⟩
      simp only [watch, step, known, if_false]
      rw [ahead, List.cons_append]
    refine ⟨by simp [watch, step, known, distinct], ?_⟩
    have phase : (watch urlsplit props seen (.commit sha)).state.phase = seen.state.phase := by
      simp [watch, step, known]
    rw [phase]
    cases current : seen.state.phase with
    | called => trivial
    | raised failure => trivial
    | resolved head =>
        rw [current] at tracked
        exact moves head tracked
    | ready head deadline =>
        rw [current] at tracked
        exact moves head tracked
    | asleep head deadline wakeAt =>
        rw [current] at tracked
        exact moves head tracked
    | pushing head deadline carried =>
        rw [current] at tracked
        exact ⟨moves head tracked.1, tracked.2⟩
    | returned result =>
        rw [current] at tracked
        simpa [Tracked, watch, step, known] using tracked

/-- git reads the newest commit: the resolved sha itself when nothing is pending. -/
theorem carried_eq_head_iff (pending older rest : List String) (head carried : String)
    (distinct : (carried :: rest).Nodup) (ahead : carried :: rest = pending ++ head :: older) :
    carried = head ↔ pending = [] := by
  cases pending with
  | nil =>
      simp only [List.nil_append, List.cons.injEq] at ahead
      simp [ahead.1]
  | cons newest others =>
      simp only [List.cons_append, List.cons.injEq] at ahead
      constructor
      · intro same
        have member : carried ∈ rest := by simp [ahead.2, same]
        exact absurd member (List.nodup_cons.mp distinct).1
      · intro empty
        cases empty

theorem startPush_holds (urlsplit : String → SplitUrl) (props : Props) (seen : Watch)
    (holds : Holds seen) : Holds (watch urlsplit props seen .startPush) := by
  cases current : seen.state.phase with
  | ready head deadline =>
      obtain ⟨distinct, tracked⟩ := holds
      rw [current] at tracked
      obtain ⟨older, ahead⟩ := tracked
      cases url : splitSshUrl (urlsplit props.repoUrl) with
      | error fault => simp [Holds, watch, step, current, url, distinct, Tracked]
      | ok parsed =>
          cases newest : seen.state.history with
          | nil => simp [newest] at ahead
          | cons carried rest =>
              rw [newest] at ahead distinct
              -- The push carries the tip of now, not the sha that was resolved.
              have reads := carried_eq_head_iff seen.pending older rest head carried distinct ahead
              have moved : Ahead (watch urlsplit props seen .startPush) head :=
                ⟨older, by simpa [watch, step, current, url, newest] using ahead⟩
              refine ⟨by simpa [watch, step, current, url, newest] using distinct, ?_⟩
              have phase : (watch urlsplit props seen .startPush).state.phase =
                  .pushing head deadline carried := by
                simp [watch, step, current, url, newest]
              rw [phase]
              exact ⟨moved, by simpa [watch, current, isReady] using reads⟩
  | _ =>
      have idle : watch urlsplit props seen .startPush = seen := by
        simp [watch, step, current, isReady]
      rwa [idle]

theorem pushSucceeds_holds (urlsplit : String → SplitUrl) (props : Props) (seen : Watch)
    (holds : Holds seen) : Holds (watch urlsplit props seen .pushSucceeds) := by
  cases current : seen.state.phase with
  | pushing head deadline carried =>
      obtain ⟨distinct, tracked⟩ := holds
      rw [current] at tracked
      by_cases forward : fastForwards seen.state carried = true
      · refine ⟨by simpa [watch, step, current, forward] using distinct, ?_⟩
        have phase : (watch urlsplit props seen .pushSucceeds).state.phase =
            .returned (created props head) := by
          simp [watch, step, current, forward]
        rw [phase]
        exact ⟨carried, by simp [watch, step, current, forward], tracked.2⟩
      · have idle : watch urlsplit props seen .pushSucceeds = seen := by
          simp [watch, step, current, forward]
        rw [idle]
        exact ⟨distinct, by rwa [current]⟩
  | _ =>
      have idle : watch urlsplit props seen .pushSucceeds = seen := by
        simp [watch, step, current]
      rwa [idle]

theorem afterFailure_tracked (seen : Watch) (props : Props) (head : String) (deadline : Nat)
    (stderr : String) (clock : Nat) (ahead : Ahead seen head) :
    Tracked seen (afterFailure props head deadline stderr clock) := by
  unfold afterFailure
  split
  · trivial
  · split
    · trivial
    · exact ahead

theorem pushFails_holds (urlsplit : String → SplitUrl) (props : Props) (seen : Watch)
    (stderr : String) (landed : Bool) (holds : Holds seen) :
    Holds (watch urlsplit props seen (.pushFails stderr landed)) := by
  cases current : seen.state.phase with
  | pushing head deadline carried =>
      obtain ⟨distinct, tracked⟩ := holds
      rw [current] at tracked
      obtain ⟨older, ahead⟩ := tracked.1
      refine ⟨by simpa [watch, step, current] using distinct, ?_⟩
      have phase : (watch urlsplit props seen (.pushFails stderr landed)).state.phase =
          afterFailure props head deadline stderr seen.state.clock := by
        simp [watch, step, current]
      rw [phase]
      exact afterFailure_tracked _ props head deadline stderr _
        ⟨older, by simp [watch, step, current, ahead]⟩
  | _ =>
      have idle : watch urlsplit props seen (.pushFails stderr landed) = seen := by
        simp [watch, step, current]
      rwa [idle]

theorem revParse_holds (urlsplit : String → SplitUrl) (props : Props) (seen : Watch)
    (holds : Holds seen) : Holds (watch urlsplit props seen .revParse) := by
  cases current : seen.state.phase with
  | called =>
      cases newest : seen.state.history with
      | nil => simp [Holds, watch, step, current, newest, Tracked]
      | cons head rest =>
          have distinct := holds.1
          rw [newest] at distinct
          refine ⟨by simpa [watch, step, current, newest] using distinct, ?_⟩
          have phase : (watch urlsplit props seen .revParse).state.phase = .resolved head := by
            simp [watch, step, current, newest]
          rw [phase]
          exact ⟨rest, by simp [watch, step, current, newest]⟩
  | _ =>
      have idle : watch urlsplit props seen .revParse = seen := by
        simp [watch, step, current]
      rwa [idle]

theorem enterPush_holds (urlsplit : String → SplitUrl) (props : Props) (seen : Watch)
    (holds : Holds seen) : Holds (watch urlsplit props seen .enterPush) := by
  cases current : seen.state.phase with
  | resolved head =>
      obtain ⟨distinct, tracked⟩ := holds
      rw [current] at tracked
      simpa [Holds, watch, step, current, Tracked, Ahead] using And.intro distinct tracked
  | _ =>
      have idle : watch urlsplit props seen .enterPush = seen := by
        simp [watch, step, current]
      rwa [idle]

theorem wake_holds (urlsplit : String → SplitUrl) (props : Props) (seen : Watch)
    (holds : Holds seen) : Holds (watch urlsplit props seen .wake) := by
  cases current : seen.state.phase with
  | asleep head deadline wakeAt =>
      obtain ⟨distinct, tracked⟩ := holds
      rw [current] at tracked
      by_cases due : wakeAt ≤ seen.state.clock
      · simpa [Holds, watch, step, current, due, Tracked, Ahead] using And.intro distinct tracked
      · simpa [Holds, watch, step, current, due, Tracked, Ahead] using And.intro distinct tracked
  | _ =>
      have idle : watch urlsplit props seen .wake = seen := by
        simp [watch, step, current]
      rwa [idle]

theorem watch_holds (urlsplit : String → SplitUrl) (props : Props) (seen : Watch)
    (event : Event) (holds : Holds seen) : Holds (watch urlsplit props seen event) := by
  cases event with
  | commit sha => exact commit_holds urlsplit props seen sha holds
  | elapse seconds =>
      -- only the clock moves, and no phase speaks about it
      refine ⟨holds.1, ?_⟩
      have tracked := holds.2
      have phase : (watch urlsplit props seen (.elapse seconds)).state.phase =
          seen.state.phase := rfl
      rw [phase]
      cases current : seen.state.phase <;> rw [current] at tracked <;> exact tracked
  | revParse => exact revParse_holds urlsplit props seen holds
  | enterPush => exact enterPush_holds urlsplit props seen holds
  | startPush => exact startPush_holds urlsplit props seen holds
  | pushSucceeds => exact pushSucceeds_holds urlsplit props seen holds
  | pushFails stderr landed => exact pushFails_holds urlsplit props seen stderr landed holds
  | wake => exact wake_holds urlsplit props seen holds

/-- The recorded sha is the commit at the branch, and its revision the one
FluxSource will see, exactly when no commit landed between resolving HEAD and
the start of the attempt that succeeded. -/
theorem recorded_sha_is_pushed_iff (urlsplit : String → SplitUrl) (props : Props)
    (start : State) (events : List Event) (result : CreateResult)
    (calling : start.phase = .called) (distinct : start.history.Nodup)
    (success : (Execution.run (step urlsplit props) start events).phase = .returned result) :
    (∃ tip, (Execution.run (step urlsplit props) start events).remote = some tip ∧
      result.headSha = tip ∧
      waitForArtifactRevision props.repoBranch result.headSha =
        artifactRevisionPath ++ artifactRevision props.repoBranch tip) ↔
      lateCommits urlsplit props start events = [] := by
  have begins : Holds ⟨start, [], []⟩ := by
    refine ⟨distinct, ?_⟩
    rw [calling]
    trivial
  have ends := Execution.run_invariant (watch urlsplit props) Holds
    (fun seen event holds => watch_holds urlsplit props seen event holds) _ events begins
  -- The watched run is the run of the model with the late commits beside it.
  have reached := watch_run_state urlsplit props ⟨start, [], []⟩ events
  obtain ⟨_, tracked⟩ := ends
  rw [reached, success] at tracked
  obtain ⟨tip, pushed, exactly⟩ := tracked
  rw [reached] at pushed
  constructor
  · rintro ⟨shown, remote, same, _⟩
    have tips : tip = shown := Option.some.inj (pushed.symm.trans remote)
    exact exactly.mp (tips.trans same.symm)
  · intro quiet
    have same := exactly.mpr quiet
    exact ⟨tip, pushed, same.symm, (wait_met_iff _ _ _).mpr same.symm⟩

def localUrl : String → SplitUrl := fun _ =>
  { scheme := "ssh", hostname := some "gitea", password := none, path := "/ops/config.git" }

def mainBranch : Props :=
  { repoUrl := "ssh://git@gitea/ops/config.git", repoBranch := "main", sshPrivateKey := none }

def beforeCreate : State :=
  { history := ["a1"], remote := none, clock := 0, phase := .called }

def refused : Event := .pushFails "ssh: connect to host gitea: Connection refused" false

/-- A refused attempt is retried; commits before `rev-parse` and after the last
attempt started do no harm. -/
theorem recorded_sha_is_pushed_retry :
    lateCommits localUrl mainBranch beforeCreate
      [.commit "b2", .revParse, .enterPush, .startPush, refused, .elapse 5, .wake, .startPush,
        .commit "c3", .pushSucceeds] = [] ∧
    ∃ tip, (Execution.run (step localUrl mainBranch) beforeCreate
      [.commit "b2", .revParse, .enterPush, .startPush, refused, .elapse 5, .wake, .startPush,
        .commit "c3", .pushSucceeds]).remote = some tip ∧ "b2" = tip ∧
      waitForArtifactRevision "main" "b2" =
        artifactRevisionPath ++ artifactRevision "main" tip := by
  have quiet : lateCommits localUrl mainBranch beforeCreate
      [.commit "b2", .revParse, .enterPush, .startPush, refused, .elapse 5, .wake, .startPush,
        .commit "c3", .pushSucceeds] = [] := by decide
  exact ⟨quiet, (recorded_sha_is_pushed_iff localUrl mainBranch beforeCreate _
    (created mainBranch "b2") rfl (by decide) (by decide)).mpr quiet⟩

/-- A commit made while the retry sleeps is what the retry pushes. -/
theorem recorded_sha_goes_stale :
    ∃ events result, (Execution.run (step localUrl mainBranch) beforeCreate events).phase =
        .returned result ∧ result.headSha = "a1" ∧
      (Execution.run (step localUrl mainBranch) beforeCreate events).remote = some "b2" ∧
      waitForArtifactRevision "main" result.headSha ≠
        artifactRevisionPath ++ artifactRevision "main" "b2" := by
  refine ⟨[.revParse, .enterPush, .startPush, refused, .commit "b2", .elapse 5, .wake,
    .startPush, .pushSucceeds], created mainBranch "a1", by decide, rfl, by decide, ?_⟩
  intro met
  have same := (wait_met_iff _ _ _).mp met
  revert same
  decide

end ClusterApiForSlinky.GitSyncRuns
