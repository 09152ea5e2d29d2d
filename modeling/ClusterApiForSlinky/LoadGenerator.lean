import ClusterApiForSlinky.FractionalCarry
import Mathlib.Algebra.BigOperators.Group.Finset.Basic
import Mathlib.Data.Rat.Floor
import Mathlib.Tactic.NormNum
import Mathlib.Tactic.Positivity

/-!
The loop of `LoadGenerator.run` in scripts/slurm_load_generator.py, in exact
arithmetic over an ordered field and with the cosine as a parameter. Wall-clock
time only decides how long the loop sleeps and is left out.
-/

namespace ClusterApiForSlinky.LoadGenerator
open FractionalCarry

universe u
variable {K : Type u} [Field K] [LinearOrder K] [IsStrictOrderedRing K] [FloorRing K]

/-- What the command line and `Config.validate` let through. -/
structure Config (K : Type u) [Field K] [LinearOrder K] [IsStrictOrderedRing K] where
  minRate : K
  maxRate : K
  cycleMinutes : K
  tickSeconds : K
  maxMinutes : K
  minRate_nonneg : 0 ≤ minRate
  rates_ordered : minRate ≤ maxRate
  cycleMinutes_pos : 0 < cycleMinutes
  tickSeconds_pos : 0 < tickSeconds
  maxMinutes_nonneg : 0 ≤ maxMinutes

/-- `(1.0 - math.cos(math.tau * phase)) / 2.0` -/
structure Wave (K : Type u) [Field K] [LinearOrder K] [IsStrictOrderedRing K] where
  value : K → K
  nonneg : ∀ phase, 0 ≤ value phase
  le_one : ∀ phase, value phase ≤ 1

inductive Event (K : Type u) where
  | logState (logicalSeconds : K)
  | submitJob (jobIndex jobsThisTick : ℕ) (logicalSeconds : K)
  deriving DecidableEq

structure State (K : Type u) where
  totalJobs : ℕ
  logicalSeconds : K
  jobPhase : K
  nextStateLog : K
  events : List (Event K)
  deriving DecidableEq

def State.initial : State K :=
  { totalJobs := 0, logicalSeconds := 0, jobPhase := 0, nextStateLog := 0, events := [] }

def epsilon : K := 1 / 10 ^ 12

/-- `math.isclose` of finite numbers, with its default relative tolerance. -/
def isclose (a b absTol : K) : Bool := |a - b| ≤ max (1 / 10 ^ 9 * max |a| |b|) absTol

variable (config : Config K) (wave : Wave K)

def rateAtPhase (phase : K) : K :=
  config.minRate + (config.maxRate - config.minRate) * wave.value phase

def rateAt (logicalSeconds : K) : K :=
  rateAtPhase config wave (Int.fract (logicalSeconds / (config.cycleMinutes * 60)))

/-- `none` is `math.inf`. -/
def durationSeconds : Option K :=
  if config.maxMinutes ≠ 0 then some (config.maxMinutes * 60) else none

/-- The condition of the `while`. -/
def running (state : State K) : Bool :=
  match durationSeconds config with
  | none => true
  | some duration => state.logicalSeconds < duration

def tickLength (state : State K) : K :=
  match durationSeconds config with
  | none => config.tickSeconds
  | some duration => min config.tickSeconds (duration - state.logicalSeconds)

/-- What one tick adds to the phase: the rate in its middle for its length. -/
def added (state : State K) : K :=
  let midpoint := state.logicalSeconds + tickLength config state / 2
  rateAt config wave midpoint * tickLength config state / 60

def jobsThisTick (state : State K) : ℤ :=
  ⌊state.jobPhase + added config wave state + epsilon⌋

def tick (state : State K) : State K :=
  let logs := state.nextStateLog ≤ state.logicalSeconds
  let jobs := jobsThisTick config wave state
  let jobPhase := max 0 (state.jobPhase + added config wave state - jobs)
  let logicalSeconds := state.logicalSeconds + tickLength config state
  { totalJobs := state.totalJobs + jobs.toNat
    logicalSeconds
    jobPhase := if isclose jobPhase 0 epsilon then 0 else jobPhase
    nextStateLog := if logs then state.nextStateLog + 60 else state.nextStateLog
    events := state.events ++ (if logs then [.logState state.logicalSeconds] else []) ++
      (List.range jobs.toNat).map
        (fun job => .submitJob (job + 1) jobs.toNat logicalSeconds) }

/-- `run` within a number of ticks; `none` if it needs more. -/
def run : ℕ → State K → Option (State K)
  | 0, state => if running config state then none else some state
  | ticks + 1, state => if running config state then run ticks (tick config wave state) else some state

/-- The state after a number of ticks. -/
def after (ticks : ℕ) : State K := (tick config wave)^[ticks] State.initial

/-! One tick. -/

omit [FloorRing K] in
theorem epsilon_pos : (0 : K) < epsilon := by
  unfold epsilon
  positivity

theorem epsilon_lt_one : (epsilon : K) < 1 := by
  unfold epsilon
  norm_num

/-- Next to zero only the absolute tolerance counts. -/
theorem isclose_zero_iff (value : K) : isclose value 0 epsilon = true ↔ |value| ≤ epsilon := by
  have relative : max |value| |(0 : K)| = |value| := by
    rw [abs_zero]
    exact max_eq_left (abs_nonneg value)
  unfold isclose
  rw [decide_eq_true_eq, sub_zero, relative, le_max_iff]
  constructor
  · rintro (near | near)
    · have size := abs_nonneg value
      have zero : |value| ≤ 0 := by linarith
      exact le_trans zero epsilon_pos.le
    · exact near
  · exact Or.inr

theorem jobsThisTick_eq (state : State K) :
    jobsThisTick config wave state = units epsilon (state.jobPhase + added config wave state) := rfl

theorem tick_jobPhase (state : State K) : (tick config wave state).jobPhase =
    snapped epsilon (state.jobPhase + added config wave state) := by
  unfold snapped
  rw [← if_congr (isclose_zero_iff _) rfl rfl]
  rfl

theorem tick_logicalSeconds (state : State K) : (tick config wave state).logicalSeconds =
    state.logicalSeconds + tickLength config state := rfl

theorem rateAt_bounds (logicalSeconds : K) :
    0 ≤ rateAt config wave logicalSeconds ∧ rateAt config wave logicalSeconds ≤ config.maxRate := by
  have spread := sub_nonneg.mpr config.rates_ordered
  have low := wave.nonneg (Int.fract (logicalSeconds / (config.cycleMinutes * 60)))
  have high := wave.le_one (Int.fract (logicalSeconds / (config.cycleMinutes * 60)))
  unfold rateAt rateAtPhase
  constructor
  · exact add_nonneg config.minRate_nonneg (mul_nonneg spread low)
  · have most := mul_le_mul_of_nonneg_left high spread
    linarith

omit [FloorRing K] in
theorem tickLength_infinite (endless : durationSeconds config = none) (state : State K) :
    tickLength config state = config.tickSeconds := by
  unfold tickLength
  rw [endless]

omit [FloorRing K] in
theorem tickLength_finite (duration : K) (finite : durationSeconds config = some duration)
    (state : State K) : tickLength config state =
      min config.tickSeconds (duration - state.logicalSeconds) := by
  unfold tickLength
  rw [finite]

/-- What holds before and after every tick. -/
structure Invariant (state : State K) : Prop where
  phase_nonneg : 0 ≤ state.jobPhase
  phase_short : state.jobPhase + epsilon < 1
  within : ∀ duration, durationSeconds config = some duration → state.logicalSeconds ≤ duration

omit [FloorRing K] in
theorem tickLength_bounds (state : State K) (holds : Invariant config state) :
    0 ≤ tickLength config state ∧ tickLength config state ≤ config.tickSeconds := by
  cases finite : durationSeconds config with
  | none =>
      rw [tickLength_infinite config finite]
      exact ⟨config.tickSeconds_pos.le, le_rfl⟩
  | some duration =>
      rw [tickLength_finite config duration finite]
      have left := sub_nonneg.mpr (holds.within duration finite)
      exact ⟨le_min config.tickSeconds_pos.le left, min_le_left _ _⟩

theorem added_bounds (state : State K) (holds : Invariant config state) :
    0 ≤ added config wave state ∧
      added config wave state ≤ config.maxRate * config.tickSeconds / 60 := by
  obtain ⟨least, most⟩ := rateAt_bounds config wave
    (state.logicalSeconds + tickLength config state / 2)
  obtain ⟨forward, short⟩ := tickLength_bounds config state holds
  unfold added
  constructor
  · exact div_nonneg (mul_nonneg least forward) (by norm_num)
  · have product := mul_le_mul most short forward (le_trans least most)
    exact div_le_div_of_nonneg_right product (by norm_num)

theorem jobsThisTick_nonneg (state : State K) (holds : Invariant config state) :
    0 ≤ jobsThisTick config wave state := by
  have grown := add_nonneg holds.phase_nonneg (added_bounds config wave state holds).1
  exact units_nonneg epsilon _ epsilon_pos.le grown

theorem tick_totalJobs (state : State K) (holds : Invariant config state) :
    ((tick config wave state).totalJobs : K) =
      state.totalJobs + (jobsThisTick config wave state : K) := by
  have whole : ((jobsThisTick config wave state).toNat : ℤ) = jobsThisTick config wave state :=
    Int.toNat_of_nonneg (jobsThisTick_nonneg config wave state holds)
  change ((state.totalJobs + (jobsThisTick config wave state).toNat : ℕ) : K) = _
  rw [Nat.cast_add]
  congr 1
  exact_mod_cast congrArg (Int.cast (R := K)) whole

theorem invariant_initial : Invariant config State.initial := by
  constructor
  · exact le_rfl
  · have small : (epsilon : K) < 1 := epsilon_lt_one
    simpa [State.initial] using small
  · intro duration finite
    unfold durationSeconds at finite
    split at finite
    · cases finite
      exact mul_nonneg config.maxMinutes_nonneg (by norm_num)
    · cases finite

theorem invariant_tick (state : State K) : Invariant config (tick config wave state) := by
  constructor
  · rw [tick_jobPhase]
    exact snapped_nonneg _ _
  · rw [tick_jobPhase]
    exact snapped_lt _ _ epsilon_lt_one
  · intro duration finite
    rw [tick_logicalSeconds, tickLength_finite config duration finite]
    have last := min_le_right config.tickSeconds (duration - state.logicalSeconds)
    linarith

/-! Any number of them. -/

theorem after_succ (ticks : ℕ) :
    after config wave (ticks + 1) = tick config wave (after config wave ticks) :=
  Function.iterate_succ_apply' _ _ _

theorem invariant_after (ticks : ℕ) : Invariant config (after config wave ticks) := by
  cases ticks with
  | zero => exact invariant_initial config
  | succ ticks =>
      rw [after_succ]
      exact invariant_tick config wave _

/-- Jobs submitted and jobs in the phase differ from what the rate asked for by
no more than the tolerance of each tick. -/
theorem after_drift (ticks : ℕ) :
    |((after config wave ticks).totalJobs : K) + (after config wave ticks).jobPhase -
        ∑ done ∈ Finset.range ticks, added config wave (after config wave done)| ≤
      ticks * epsilon := by
  induction ticks with
  | zero => simp [after, State.initial]
  | succ ticks ih =>
      -- One more tick adds one more tolerance, from the floor or from the snap to zero.
      have holds := invariant_after config wave ticks
      have step := units_add_snapped epsilon ((after config wave ticks).jobPhase +
        added config wave (after config wave ticks)) epsilon_pos.le
      rw [after_succ, tick_totalJobs config wave _ holds, tick_jobPhase, jobsThisTick_eq,
        Finset.sum_range_succ]
      rw [abs_le] at ih step ⊢
      push_cast
      constructor <;> linarith

theorem after_logicalSeconds_infinite (endless : durationSeconds config = none) (ticks : ℕ) :
    (after config wave ticks).logicalSeconds = ticks * config.tickSeconds := by
  induction ticks with
  | zero => simp [after, State.initial]
  | succ ticks ih =>
      rw [after_succ, tick_logicalSeconds, ih, tickLength_infinite config endless, Nat.cast_succ,
        add_one_mul]

theorem after_logicalSeconds (duration : K) (finite : durationSeconds config = some duration)
    (ticks : ℕ) :
    (after config wave ticks).logicalSeconds = min (ticks * config.tickSeconds) duration := by
  induction ticks with
  | zero =>
      have start := (invariant_initial config).within duration finite
      rw [Nat.cast_zero, zero_mul]
      exact (min_eq_left start).symm
  | succ ticks ih =>
      have forward := config.tickSeconds_pos
      rw [after_succ, tick_logicalSeconds, tickLength_finite config duration finite, ih,
        Nat.cast_succ, add_one_mul]
      rcases le_total (ticks * config.tickSeconds) duration with early | late
      · rw [min_eq_left early, ← min_add_add_left, add_sub_cancel]
      · rw [min_eq_right late, sub_self, min_eq_right forward.le, add_zero, min_eq_right]
        linarith

/-- The number of ticks after which the duration is used up. -/
def ticksIn (duration : K) : ℕ := ⌈duration / config.tickSeconds⌉₊

theorem running_after_iff (duration : K) (finite : durationSeconds config = some duration)
    (ticks : ℕ) :
    running config (after config wave ticks) = true ↔ ticks < ticksIn config duration := by
  unfold running ticksIn
  rw [finite, Nat.lt_ceil, lt_div_iff₀ config.tickSeconds_pos]
  simp only [decide_eq_true_eq]
  rw [after_logicalSeconds config wave duration finite, min_lt_iff, or_iff_left (lt_irrefl _)]

/-- With a finite duration the loop makes exactly so many ticks. -/
theorem run_finite (duration : K) (finite : durationSeconds config = some duration)
    (fuel done : ℕ) (early : done ≤ ticksIn config duration) :
    run config wave fuel (after config wave done) =
      if ticksIn config duration ≤ done + fuel then
        some (after config wave (ticksIn config duration))
      else none := by
  have going := running_after_iff config wave duration finite done
  rcases Nat.lt_or_eq_of_le early with more | last
  · have onward := going.mpr more
    cases fuel with
    | zero => simp [run, onward, more]
    | succ fuel =>
        have rest := run_finite duration finite fuel (done + 1) more
        rw [run, if_pos onward, ← after_succ, rest, Nat.add_right_comm, Nat.add_assoc]
  · have stopped : running config (after config wave done) = false := by
      rw [← Bool.not_eq_true, going, last]
      exact lt_irrefl _
    subst last
    cases fuel <;> simp [run, stopped]

theorem run_infinite (endless : durationSeconds config = none) (fuel : ℕ) (state : State K) :
    run config wave fuel state = none := by
  induction fuel generalizing state with
  | zero => simp [run, running, endless]
  | succ fuel ih => simp [run, running, endless, ih]

def Event.isSubmission : Event K → Bool
  | .submitJob _ _ _ => true
  | .logState _ => false

def State.submissions (state : State K) : ℕ := state.events.countP Event.isSubmission

/-- A tick submits every job it counts once. -/
theorem tick_submissions (state : State K) : (tick config wave state).submissions =
    state.submissions + (jobsThisTick config wave state).toNat := by
  have logged : ∀ logs : Prop, ∀ [Decidable logs], ∀ seconds : K,
      (if logs then [Event.logState seconds] else []).countP Event.isSubmission = 0 := by
    intro logs _ seconds
    split <;> rfl
  simp only [State.submissions, tick, List.countP_append, logged, List.countP_map, Nat.add_zero]
  congr 1
  rw [List.countP_eq_length.mpr (by simp [Event.isSubmission]), List.length_range]

theorem after_submissions (ticks : ℕ) :
    (after config wave ticks).submissions = (after config wave ticks).totalJobs := by
  induction ticks with
  | zero => rfl
  | succ ticks ih =>
      rw [after_succ, tick_submissions, ih]
      rfl

theorem jobsThisTick_le (state : State K) (holds : Invariant config state) :
    jobsThisTick config wave state ≤ ⌈config.maxRate * config.tickSeconds / 60⌉ :=
  units_le_ceil epsilon _ _ _ holds.phase_short (added_bounds config wave state holds).2

/-- What the loop keeps, whatever the wave and however long it runs. -/
structure ConservesJobs : Prop where
  phase : ∀ ticks, 0 ≤ (after config wave ticks).jobPhase ∧ (after config wave ticks).jobPhase < 1
  drift : ∀ ticks,
    |((after config wave ticks).totalJobs : K) + (after config wave ticks).jobPhase -
        ∑ done ∈ Finset.range ticks,
          rateAt config wave ((after config wave done).logicalSeconds +
              tickLength config (after config wave done) / 2) *
            tickLength config (after config wave done) / 60| ≤
      ticks * epsilon
  submitted : ∀ ticks,
    (after config wave ticks).submissions = (after config wave ticks).totalJobs
  ends : ∀ duration, durationSeconds config = some duration →
    (∀ fuel, run config wave fuel State.initial =
      if ⌈duration / config.tickSeconds⌉₊ ≤ fuel then
        some (after config wave ⌈duration / config.tickSeconds⌉₊)
      else none) ∧
    (after config wave ⌈duration / config.tickSeconds⌉₊).logicalSeconds = duration
  endless : durationSeconds config = none →
    (∀ fuel, run config wave fuel State.initial = none) ∧
    ∀ ticks : ℕ, (after config wave ticks).logicalSeconds = ticks * config.tickSeconds
  bounded : ∀ ticks, ((after config wave (ticks + 1)).submissions : ℤ) ≤
    (after config wave ticks).submissions + ⌈config.maxRate * config.tickSeconds / 60⌉

theorem conserves_jobs : ConservesJobs config wave := by
  constructor
  · intro ticks
    have holds := invariant_after config wave ticks
    have small : (0 : K) < epsilon := epsilon_pos
    exact ⟨holds.phase_nonneg, lt_of_le_of_lt (le_add_of_nonneg_right small.le) holds.phase_short⟩
  · exact after_drift config wave
  · exact after_submissions config wave
  · intro duration finite
    constructor
    · intro fuel
      have whole := run_finite config wave duration finite fuel 0 (Nat.zero_le _)
      rwa [Nat.zero_add] at whole
    · rw [after_logicalSeconds config wave duration finite, min_eq_right]
      rw [← div_le_iff₀ config.tickSeconds_pos]
      exact Nat.le_ceil _
  · intro endless
    exact ⟨fun fuel => run_infinite config wave endless fuel _,
      after_logicalSeconds_infinite config wave endless⟩
  · intro ticks
    have holds := invariant_after config wave ticks
    have most := jobsThisTick_le config wave _ holds
    have whole := Int.toNat_of_nonneg (jobsThisTick_nonneg config wave _ holds)
    rw [after_succ, tick_submissions, Nat.cast_add, whole]
    exact add_le_add_right most _

/-- Ten to sixty jobs a minute in a cycle of half an hour, for an hour. -/
def hourlyConfig : Config ℚ :=
  { minRate := 10, maxRate := 60, cycleMinutes := 30, tickSeconds := 7, maxMinutes := 60
    minRate_nonneg := by norm_num
    rates_ordered := by norm_num
    cycleMinutes_pos := by norm_num
    tickSeconds_pos := by norm_num
    maxMinutes_nonneg := by norm_num }

/-- The cosine at the start and in the middle of the cycle, and its mean between. -/
def coarseWave : Wave ℚ :=
  { value := fun phase => if phase = 0 then 0 else if phase = 1 / 2 then 1 else 1 / 2
    nonneg := by intro phase; split <;> [norm_num; split <;> norm_num]
    le_one := by intro phase; split <;> [norm_num; split <;> norm_num] }

theorem hourly_conserves_jobs : ConservesJobs hourlyConfig coarseWave :=
  conserves_jobs hourlyConfig coarseWave

end ClusterApiForSlinky.LoadGenerator
