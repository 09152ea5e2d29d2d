import ClusterApiForSlinky.ArtifactRegistry

/-!
What each step of a source or a session adds to the log, as rules of
`Effect.Behaves`. `Allows plan` says that only planned artifacts are pushed.
-/

namespace ClusterApiForSlinky.ArtifactTraces
open Effect ArtifactRegistry

abbrev Entry := Step × Outcome

def record (registry : Registry) : Entry → Registry
  | (.push ref artifact, .done) => registry.insert ref artifact
  | _ => registry

def Failed (entry : Entry) : Prop := ∃ fault, entry.2 = .failed fault

structure Reaches (host : Host) (entries : List Entry) (before after : World) : Prop where
  logged : after.log = before.log ++ entries
  recorded : after.registry = entries.foldl record before.registry
  found : ∀ ref, (.probe ref, .done) ∈ entries → ref ∈ after.registry
  faults : ∀ step fault, (step, .failed fault) ∈ entries →
    ∃ log, host.fails log step = some fault

theorem mem_record (registry : Registry) (entry : Entry) (ref : Ref) :
    ref ∈ record registry entry ↔
      ref ∈ registry ∨ ∃ artifact, entry = (.push ref artifact, .done) := by
  obtain ⟨step, outcome⟩ := entry
  cases step with
  | push pushed artifact =>
      cases outcome with
      | done => simp [record, Finmap.mem_insert, or_comm, eq_comm]
      | notFound => simp [record]
      | failed fault => simp [record]
  | _ => simp [record]

/-- The references after a list of entries: those before it and those it pushed. -/
theorem mem_foldl_record (entries : List Entry) (registry : Registry) (ref : Ref) :
    ref ∈ entries.foldl record registry ↔
      ref ∈ registry ∨ ∃ artifact, (.push ref artifact, .done) ∈ entries := by
  induction entries generalizing registry with
  | nil => simp
  | cons entry rest ih =>
      rw [List.foldl_cons, ih, mem_record, or_assoc]
      simp [exists_or, eq_comm]

def tracing (host : Host) : Trace World Entry where
  reaches := Reaches host
  nil world := ⟨by simp, rfl, by simp, by simp⟩
  append first second before middle after one two := by
    refine ⟨?_, ?_, ?_, ?_⟩
    · rw [two.logged, one.logged, List.append_assoc]
    · rw [two.recorded, one.recorded, List.foldl_append]
    · intro ref member
      rcases List.mem_append.mp member with early | late
      · rw [two.recorded, mem_foldl_record]
        exact Or.inl (one.found ref early)
      · exact two.found ref late
    · intro step fault member
      rcases List.mem_append.mp member with early | late
      · exact one.faults step fault early
      · exact two.faults step fault late
  failed := Failed

def Allows (plan : Ref → Artifact → Prop) : Entry → Prop
  | (.push ref artifact, _) => plan ref artifact
  | _ => True

/-- Neither asks the registry nor changes it. -/
def Command : Step → Prop
  | .probe _ => False
  | .push _ _ => False
  | _ => True

theorem serve_command (step : Step) (command : Command step) (registry : Registry) :
    (serve registry step).1 = .done := by
  cases step with
  | probe ref => exact command.elim
  | _ => rfl

theorem allows_command (plan : Ref → Artifact → Prop) (step : Step) (command : Command step)
    (outcome : Outcome) : Allows plan (step, outcome) := by
  cases step with
  | push ref artifact => exact command.elim
  | _ => trivial

variable {Value Result : Type} (host : Host) (plan : Ref → Artifact → Prop) (calm : Prop)

abbrev Conducts (returns : Value → List Entry → Prop) (task : Run Value) : Prop :=
  Behaves (tracing host) calm (Allows plan) returns task

abbrev Quietly (entries : List Entry) : Prop := Clean (tracing host) entries

theorem quietly_single (step : Step) (outcome : Outcome) :
    Quietly host [(step, outcome)] ↔ ∀ fault, outcome ≠ .failed fault := by
  simp [Quietly, Clean, tracing, Failed]

/-- What entries justify stays justified between entries that did not fail. -/
def Framed (returns : Value → List Entry → Prop) : Prop :=
  ∀ value before entries after, Quietly host before → Quietly host after →
    returns value entries → returns value (before ++ entries ++ after)

theorem framed_quietly : Framed host (fun (_ : Value) entries => Quietly host entries) := by
  intro _ before entries after early late clean
  rw [Quietly, clean_append, clean_append]
  exact ⟨⟨early, clean⟩, late⟩

theorem framed_before (returns : Value → List Entry → Prop) (framed : Framed host returns)
    (value : Value) (before entries : List Entry) (clean : Quietly host before)
    (justified : returns value entries) : returns value (before ++ entries) := by
  simpa using framed value before entries [] clean (clean_nil _) justified

/-- A step that cannot be left unnoticed, followed by the rest. -/
theorem conducts_after (task : Run Value) (next : Value → Run Result)
    (middle : Value → List Entry → Prop) (returns : Result → List Entry → Prop)
    (first : Conducts host plan calm middle task)
    (clean : ∀ value entries, middle value entries → Quietly host entries)
    (framed : Framed host returns)
    (rest : ∀ value entries, middle value entries → Conducts host plan calm returns (next value)) :
    Conducts host plan calm returns (task >>= next) := by
  refine behaves_bind (tracing host) calm (Allows plan) task next middle returns first ?_
  intro value before justified
  refine behaves_mono (tracing host) _ _ _ _ _ returns _ And.left (fun _ allowed => allowed) ?_
    (rest value before justified)
  intro result entries
  exact framed_before host returns framed result before entries (clean value before justified)

/-! One step. -/

theorem serve_succeeds (registry : Registry) (step : Step) (fault : Fault) :
    (serve registry step).1 ≠ .failed fault := by
  cases step with
  | probe ref =>
      simp only [serve]
      split <;> exact nofun
  | _ => exact nofun

theorem perform_reaches (step : Step) (world : World) :
    ∃ outcome, (perform host step world).1 = .ok outcome ∧
      Reaches host [(step, outcome)] world (perform host step world).2 ∧
      ((∃ fault, outcome = .failed fault) ∨ outcome = (serve world.registry step).1) := by
  unfold perform
  cases failing : host.fails world.log step with
  | some fault =>
      refine ⟨.failed fault, rfl, ⟨rfl, ?_, by simp, ?_⟩, Or.inl ⟨fault, rfl⟩⟩
      · cases step <;> rfl
      · intro other observed member
        simp only [List.mem_singleton, Prod.mk.injEq, Outcome.failed.injEq] at member
        exact ⟨world.log, by rw [member.1, member.2, failing]⟩
  | none =>
      refine ⟨(serve world.registry step).1, rfl, ⟨rfl, ?_, ?_, ?_⟩, Or.inr rfl⟩
      · cases step <;> rfl
      · intro ref member
        simp only [List.mem_singleton, Prod.mk.injEq] at member
        obtain ⟨rfl, answered⟩ := member
        by_contra absent
        exact nomatch answered.trans (if_neg absent)
      · intro other fault member
        simp only [List.mem_singleton, Prod.mk.injEq] at member
        obtain ⟨-, answered⟩ := member
        exact (serve_succeeds world.registry step fault answered.symm).elim

theorem perform_conducts (step : Step) (allowed : ∀ outcome, Allows plan (step, outcome)) :
    Conducts host plan calm
      (fun outcome entries => entries = [(step, outcome)] ∧
        ((∃ fault, outcome = .failed fault) ∨
          ∃ registry, outcome = (serve registry step).1))
      (perform host step) := by
  intro world
  obtain ⟨outcome, ran, reached, answered⟩ := perform_reaches host step world
  refine ⟨[(step, outcome)], reached, ?_, ?_, ?_⟩
  · intro entry member
    rw [List.mem_singleton.mp member]
    exact allowed outcome
  · intro value returned
    rw [ran] at returned
    cases returned
    exact ⟨rfl, answered.imp id (fun served => ⟨world.registry, served⟩)⟩
  -- A failing step is an answer: only its caller raises.
  · exact fun _ _ => ⟨outcome, ran⟩

/-! artifacts/source.py -/

theorem runOr_conducts (step : Step) (failure : Failure)
    (served : ∀ registry, (serve registry step).1 = .done)
    (allowed : ∀ outcome, Allows plan (step, outcome)) :
    Conducts host plan calm (fun _ entries => entries = [(step, .done)])
      (runOr host step failure) := by
  refine behaves_bind (tracing host) calm (Allows plan) _ _ _ _
    (perform_conducts host plan calm step allowed) ?_
  rintro outcome before ⟨rfl, answered⟩
  rcases answered with ⟨fault, rfl⟩ | ⟨registry, rfl⟩
  · apply behaves_raise (tracing host)
    rintro ⟨-, clean⟩
    exact (quietly_single host step _).mp clean fault rfl
  · rw [served registry]
    exact behaves_pure (tracing host) _ _ _ _ rfl

theorem run_conducts (step : Step) (command : Command step) :
    Conducts host plan calm (fun _ entries => entries = [(step, .done)]) (run host step) :=
  runOr_conducts host plan calm step (.commandFailed step) (serve_command step command)
    (allows_command plan step command)

theorem runUnchecked_conducts (step : Step) (command : Command step) :
    Conducts host plan calm (fun succeeded entries => succeeded = true ↔ Quietly host entries)
      (runUnchecked host step) := by
  refine behaves_bind (tracing host) calm (Allows plan) _ _ _ _
    (perform_conducts host plan calm step (allows_command plan step command)) ?_
  rintro outcome before ⟨rfl, answered⟩
  rcases answered with ⟨fault, rfl⟩ | ⟨registry, rfl⟩
  · have stormy : ¬ Quietly host [(step, .failed fault)] := by simp [quietly_single]
    cases fault with
    | exitCode =>
        apply behaves_pure (tracing host)
        simpa using stormy
    | exception => exact behaves_raise (tracing host) _ _ _ _ (fun quiet => stormy quiet.2)
    | status code => exact behaves_raise (tracing host) _ _ _ _ (fun quiet => stormy quiet.2)
  · rw [serve_command step command registry]
    apply behaves_pure (tracing host)
    simp [quietly_single]

theorem quietly_done (step : Step) : Quietly host [(step, .done)] := by
  simp [quietly_single]

/-- A checked command, then the rest. -/
theorem run_then (step : Step) (next : PUnit → Run Result)
    (returns : Result → List Entry → Prop) (command : Command step)
    (framed : Framed host returns)
    (rest : Conducts host plan calm returns (next ⟨⟩)) (failure : Failure) :
    Conducts host plan calm returns (runOr host step failure >>= next) := by
  refine conducts_after host plan calm _ _ _ _
    (runOr_conducts host plan calm step failure (serve_command step command)
      (allows_command plan step command)) ?_ framed ?_
  · rintro _ _ rfl
    exact quietly_done host step
  · intro _ _ _
    exact rest

theorem revParse_conducts (resolves : calm → host.commit ≠ "") :
    Conducts host plan calm
      (fun commit entries => commit = host.commit ∧ host.commit ≠ "" ∧ Quietly host entries)
      (revParse host) := by
  have framed : Framed host (fun commit entries =>
      commit = host.commit ∧ host.commit ≠ "" ∧ Quietly host entries) := by
    rintro commit before entries after early late ⟨same, resolved, clean⟩
    exact ⟨same, resolved, framed_quietly host commit before entries after early late clean⟩
  apply run_then host plan calm _ _ _ (by trivial) framed
  by_cases missing : host.commit = ""
  · rw [if_pos missing]
    exact behaves_raise (tracing host) _ _ _ _ (fun quiet => resolves quiet missing)
  · rw [if_neg missing]
    exact behaves_pure (tracing host) _ _ _ _ ⟨rfl, missing, clean_nil _⟩

theorem detachedWorktree_conducts (body : Run PUnit) (returns : PUnit → List Entry → Prop)
    (framed : Framed host returns)
    (trailing : ∀ entries after, returns ⟨⟩ entries → returns ⟨⟩ (entries ++ after))
    (spec : Conducts host plan calm returns body) :
    Conducts host plan calm returns (detachedWorktree host body) := by
  apply run_then host plan calm _ _ _ (by trivial) framed
  have cleanup : Conducts host plan calm (fun _ _ => True)
      (do let _ ← runUnchecked host .worktreeRemove) := by
    refine behaves_bind (tracing host) calm (Allows plan) _ _ _ _
      (runUnchecked_conducts host plan calm _ (by trivial)) ?_
    intro _ _ _
    exact behaves_pure (tracing host) _ _ _ _ trivial
  refine behaves_finally (tracing host) _ _ _ _ _ _ _
    (run_then host plan calm _ _ _ (by trivial) framed spec _) cleanup ?_
  intro _ entries after justified _
  exact trailing entries after justified

/-- The body of a source runs on the commit that was read. -/
theorem revParse_then (body : String → Run Value) (returns : Value → List Entry → Prop)
    (resolves : calm → host.commit ≠ "") (framed : Framed host returns)
    (spec : host.commit ≠ "" → Conducts host plan calm returns (body host.commit)) :
    Conducts host plan calm returns (revParse host >>= body) := by
  refine conducts_after host plan calm _ _ _ _
    (revParse_conducts host plan calm resolves) (fun _ _ parsed => parsed.2.2) framed ?_
  rintro _ _ ⟨rfl, resolved, -⟩
  exact spec resolved

theorem remoteSourceRepository_conducts (body : String → Run Value)
    (returns : Value → List Entry → Prop) (resolves : calm → host.commit ≠ "")
    (framed : Framed host returns)
    (spec : host.commit ≠ "" → Conducts host plan calm returns (body host.commit)) :
    Conducts host plan calm returns (remoteSourceRepository host body) := by
  apply run_then host plan calm _ _ _ (by trivial) framed
  apply run_then host plan calm _ _ _ (by trivial) framed
  -- The clone is a temporary directory; removing it is no step of the run.
  refine behaves_finally (tracing host) _ _ _ _ returns _ (fun _ entries => entries = []) ?_
    (behaves_pure (tracing host) _ _ _ _ rfl) ?_
  · apply run_then host plan calm _ _ _ (by trivial) framed
    apply run_then host plan calm _ _ _ (by trivial) framed
    exact revParse_then host plan calm body returns resolves framed spec
  · rintro value before entries justified rfl
    simpa using justified

theorem sourceRepository_conducts (source : GitSource) (body : String → Run Value)
    (returns : Value → List Entry → Prop) (resolves : calm → host.commit ≠ "")
    (framed : Framed host returns)
    (spec : host.commit ≠ "" → Conducts host plan calm returns (body host.commit)) :
    Conducts host plan calm returns (sourceRepository host source body) := by
  have one := source.exactlyOne
  unfold sourceRepository
  -- A source has exactly one of a path and a URL, so the clash is never raised.
  cases local_path : source.sourcePath with
  | some path =>
      have remote : source.repositoryUrl = none := by
        rw [local_path] at one
        exact Option.not_isSome_iff_eq_none.mp (fun some => one (by simp [some]))
      simp only [remote, Option.isSome_some, Option.isSome_none, Bool.and_false,
        Bool.false_eq_true, if_false, if_true]
      apply run_then host plan calm _ _ _ (by trivial) framed
      exact revParse_then host plan calm body returns resolves framed spec
  | none =>
      simp only [Option.isSome_none, Bool.false_and, Bool.false_eq_true, if_false]
      cases remote : source.repositoryUrl with
      | none => simp [local_path, remote] at one
      | some url =>
          refine conducts_after host plan calm _ _ (fun _ entries => entries = []) _
            (behaves_ofExcept (tracing host) _ _ _ _ (fun _ => ⟨url, rfl⟩) (fun _ _ => rfl))
            ?_ framed ?_
          · rintro _ _ rfl
            exact clean_nil _
          · intro _ _ _
            exact remoteSourceRepository_conducts host plan calm body returns resolves framed spec

/-! artifacts/destination.py -/

/-- A command whose exit code decides between the rest and an error. -/
theorem login_then (step : Step) (failure : Failure) (next : Run Result)
    (returns : Result → List Entry → Prop) (command : Command step)
    (framed : Framed host returns)
    (rest : Conducts host plan calm returns next) :
    Conducts host plan calm returns (do
      let succeeded ← runUnchecked host step
      if !succeeded then raise failure else next) := by
  refine behaves_bind (tracing host) calm (Allows plan) _ _ _ _
    (runUnchecked_conducts host plan calm step command) ?_
  intro succeeded before justified
  cases succeeded with
  | false =>
      refine behaves_raise (tracing host) _ _ _ _ (fun quiet => ?_)
      exact absurd (justified.mpr quiet.2) Bool.false_ne_true
  | true =>
      refine behaves_mono (tracing host) _ _ _ _ _ returns _ And.left
        (fun _ allowed => allowed) ?_ rest
      intro result entries
      exact framed_before host returns framed result before entries (justified.mp rfl)

theorem manifestExists_conducts (session : Session) (ref : Ref) :
    Conducts host plan calm
      (fun found entries => Quietly host entries ∧
        (.probe ref, if found then Outcome.done else .notFound) ∈ entries)
      (manifestExists host session ref) := by
  refine behaves_bind (tracing host) calm (Allows plan) _ _ _ _
    (perform_conducts host plan calm _ (fun _ => trivial)) ?_
  rintro outcome before ⟨rfl, answered⟩
  cases outcome with
  | done => exact behaves_pure (tracing host) _ _ _ _ (by simp [quietly_single])
  | notFound => exact behaves_pure (tracing host) _ _ _ _ (by simp [quietly_single])
  | failed fault =>
      have stormy : ∀ calm : Prop, ¬ (calm ∧ Quietly host [(.probe ref, .failed fault)]) := by
        simp [quietly_single]
      cases fault with
      | status response =>
          simp only
          split <;> exact behaves_raise (tracing host) _ _ _ _ (stormy _)
      | exitCode => exact behaves_raise (tracing host) _ _ _ _ (stormy _)
      | exception => exact behaves_raise (tracing host) _ _ _ _ (stormy _)

def AllPushed (tags : List Ref) (artifact : Artifact) (entries : List Entry) : Prop :=
  ∀ ref ∈ tags, (.push ref artifact, .done) ∈ entries

theorem allPushed_append (first second : List Ref) (artifact : Artifact)
    (before entries : List Entry) (early : AllPushed first artifact before)
    (late : AllPushed second artifact entries) :
    AllPushed (first ++ second) artifact (before ++ entries) := by
  intro ref member
  rcases List.mem_append.mp member with one | two
  · exact List.mem_append_left _ (early ref one)
  · exact List.mem_append_right _ (late ref two)

theorem allPushed_before (tags : List Ref) (artifact : Artifact) (entries after : List Entry)
    (pushed : AllPushed tags artifact entries) : AllPushed tags artifact (entries ++ after) :=
  fun ref member => List.mem_append_left _ (pushed ref member)

theorem framed_allPushed (tags : List Ref) (artifact : Artifact) :
    Framed host (fun (_ : PUnit) entries => AllPushed tags artifact entries) := by
  intro _ before entries after _ _ pushed ref member
  exact List.mem_append_left _ (List.mem_append_right _ (pushed ref member))

/-- The three ways to push differ in what they check before and how they raise. -/
theorem push_conducts (ref : Ref) (artifact : Artifact) (failure : Failure)
    (planned : plan ref artifact) :
    Conducts host plan calm (fun _ entries => AllPushed [ref] artifact entries)
      (runOr host (.push ref artifact) failure) := by
  refine behaves_mono (tracing host) _ _ _ _ _ _ _ id (fun _ allowed => allowed) ?_
    (runOr_conducts host plan calm (.push ref artifact) failure (fun _ => rfl)
      (fun _ => planned))
  rintro _ _ rfl other member
  rw [List.mem_singleton.mp member]
  exact List.mem_singleton.mpr rfl

theorem registrySession_conducts (destination : Destination) (body : Session → Run Value)
    (returns : Value → List Entry → Prop) (framed : Framed host returns)
    (spec : ∀ session, Conducts host plan calm returns (body session)) :
    Conducts host plan calm returns (registrySession host destination body) := by
  unfold registrySession
  cases acr : destination.acr with
  | none => exact spec _
  | some registry =>
      -- A destination with an ACR is never plain HTTP.
      have https : destination.plainHttp = false := destination.secure (by simp [acr])
      simp only [https, Bool.false_eq_true, if_false]
      apply run_then host plan calm _ _ _ (by trivial) framed
      apply run_then host plan calm _ _ _ (by trivial) framed
      refine login_then host plan calm .acrLogin _ _ _ (by trivial) framed ?_
      apply run_then host plan calm _ _ _ (by trivial) framed
      refine behaves_finally (tracing host) _ _ _ _ returns _ _
        (login_then host plan calm .dockerLogin _ _ _ (by trivial) framed
          (spec _))
        (run_conducts host plan calm _ (by trivial)) ?_
      rintro value before entries justified rfl
      simpa using framed value [] before _ (clean_nil _) (quietly_done host _) justified

end ClusterApiForSlinky.ArtifactTraces
