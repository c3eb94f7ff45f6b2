import AiGateway.Foundations.MovingAverage
import AiGateway.Foundations.Runs
import AiGateway.LoadBalancer.LatencyBased
import Mathlib

/-!
# Latencies over time

Calls end, time passes and the store may lose a key, in any order. The average that
a selection reads of a provider is then made of its samples since the last pause of ten
minutes, or the default when there is none. It is between the least and the greatest of
these samples, and differs from their exact moving average by a small part of it.

So a failure sheds load for a known time: as long as the provider gets no other
sample, and it gets none as long as it is not selected, its average keeps a part of
the penalty, and after ten minutes it is a new provider again.
-/

namespace AiGateway
namespace LoadBalancer
namespace LatencyBased

open Foundations

section Model

/-- What happens to the averages: time passes, a call succeeds or fails, or the
store loses a key. -/
inductive Event
  | elapse (ms : Nat)
  | recordSuccess (providerId : String) (latencyMs : Int) (call : ScriptCall)
  | recordFailure (providerId : String) (call : ScriptCall)
  | evict (providerId : String)
  deriving DecidableEq

/-- The store's clock and the averages. -/
structure Latencies where
  clock : Nat := 0
  averages : Averages := fun _ => none

/-- What is known of the calls: the samples of each provider that reached the store,
newest first, with their instants. -/
structure Samples where
  clock : Nat := 0
  taken : String → List (Nat × ℚ) := fun _ => []

variable (settings : Settings)

def Latencies.step (latencies : Latencies) : Event → Latencies
  | .elapse ms => { latencies with clock := latencies.clock + ms }
  | .recordSuccess providerId latencyMs call =>
      { latencies with
        averages := recordSuccess settings latencies.clock call providerId latencyMs
          latencies.averages }
  | .recordFailure providerId call =>
      { latencies with
        averages := recordFailure settings latencies.clock call providerId
          latencies.averages }
  | .evict providerId =>
      { latencies with
        averages := Function.update latencies.averages providerId Key.del }

/-- The sample that an event takes of a provider, if its script ran. -/
def Event.sample : Event → Option (String × ℚ)
  | .recordSuccess _ _ .notRun => none
  | .recordSuccess providerId latencyMs _ => some (providerId, (max 0 latencyMs : Int))
  | .recordFailure _ .notRun => none
  | .recordFailure providerId _ => some (providerId, settings.failurePenaltyMs)
  | _ => none

def Samples.step (samples : Samples) (event : Event) : Samples :=
  match event with
  | .elapse ms => { samples with clock := samples.clock + ms }
  | .evict providerId =>
      { samples with taken := Function.update samples.taken providerId [] }
  | _ =>
      match event.sample settings with
      | some (providerId, sampleMs) =>
          { samples with
            taken := Function.update samples.taken providerId
              ((samples.clock, sampleMs) :: samples.taken providerId) }
      | none => samples

/-- The samples of a provider that count at an instant. -/
def Samples.counted (samples : Samples) (now : Nat) (providerId : String) : List ℚ :=
  unbroken emaTtlMs now (samples.taken providerId)

/-- The average of samples, rounded at each of them. -/
def roundedAverage : List ℚ → Option ℚ :=
  smooth (fun sampleMs => nearest (tostring sampleMs)) (smoothed settings.alpha)

/-- The store has the rounded averages of the samples that count, now and later. -/
structure Represents (latencies : Latencies) (samples : Samples) : Prop where
  clock : latencies.clock = samples.clock
  reads : ∀ providerId later, latencies.clock ≤ later →
    ((latencies.averages providerId).read later).map nearest =
      roundedAverage settings (samples.counted later providerId)
  nonneg : ∀ providerId, ∀ taken ∈ samples.taken providerId, 0 ≤ taken.2

end Model

section Step

variable {settings : Settings} {latencies : Latencies} {samples : Samples}

theorem sample_nonneg {event : Event} {providerId : String} {sampleMs : ℚ}
    (isSample : event.sample settings = some (providerId, sampleMs)) :
    0 ≤ sampleMs := by
  cases event with
  | recordSuccess _ latencyMs call =>
      cases call <;> cases isSample <;>
        exact Int.cast_nonneg (le_max_left 0 latencyMs)
  | recordFailure _ call =>
      cases call <;> cases isSample <;> exact Nat.cast_nonneg _
  | elapse => cases isSample
  | evict => cases isSample

variable (latencies samples) in
/-- An event that takes a sample runs the script on it. -/
theorem step_of_sample {event : Event} {providerId : String} {sampleMs : ℚ}
    (isSample : event.sample settings = some (providerId, sampleMs)) :
    latencies.step settings event =
        { latencies with
          averages := updateEma settings latencies.clock .answered providerId sampleMs
            latencies.averages } ∧
      samples.step settings event =
        { samples with
          taken := Function.update samples.taken providerId
            ((samples.clock, sampleMs) :: samples.taken providerId) } := by
  cases event with
  | recordSuccess _ _ call => cases call <;> cases isSample <;> exact ⟨rfl, rfl⟩
  | recordFailure _ call => cases call <;> cases isSample <;> exact ⟨rfl, rfl⟩
  | elapse => cases isSample
  | evict => cases isSample

variable (latencies samples) in
/-- Another event only lets time pass, loses a key, or does nothing. -/
theorem step_of_no_sample {event : Event} (noSample : event.sample settings = none) :
    (∃ ms, event = .elapse ms) ∨ (∃ providerId, event = .evict providerId) ∨
      latencies.step settings event = latencies ∧
        samples.step settings event = samples := by
  cases event with
  | elapse ms => exact .inl ⟨ms, rfl⟩
  | evict providerId => exact .inr (.inl ⟨providerId, rfl⟩)
  | recordSuccess _ _ call =>
      cases call <;> cases noSample
      exact .inr (.inr ⟨rfl, rfl⟩)
  | recordFailure _ call =>
      cases call <;> cases noSample
      exact .inr (.inr ⟨rfl, rfl⟩)

theorem represents_initial (settings : Settings) : Represents settings {} {} where
  clock := rfl
  reads _ _ _ := rfl
  nonneg _ := nofun

/-- A sample enters the average at once and then counts for ten minutes. -/
theorem Represents.take
    (represents : Represents settings latencies samples)
    {providerId : String}
    {sampleMs : ℚ}
    (sampleNonneg : 0 ≤ sampleMs) :
    Represents settings
      { latencies with
        averages := updateEma settings latencies.clock .answered providerId sampleMs
          latencies.averages }
      { samples with
        taken := Function.update samples.taken providerId
          ((samples.clock, sampleMs) :: samples.taken providerId) } where
  clock := represents.clock
  reads := by
    intro other later isLater
    change latencies.clock ≤ later at isLater
    unfold Samples.counted updateEma
    dsimp only
    by_cases same : other = providerId
    · subst same
      rw [Function.update_self, Function.update_self, emaUpdateLua, Key.read_setPx,
        ← represents.clock]
      split_ifs with isRecent
      · have reads := represents.reads other latencies.clock le_rfl
        rw [Samples.counted, roundedAverage] at reads
        rw [unbroken_cons_of_lt isRecent, roundedAverage, smooth_cons, ← reads]
        cases (latencies.averages other).read latencies.clock <;> rfl
      · rw [unbroken_cons_of_le (Nat.not_lt.1 isRecent)]
        rfl
    · rw [Function.update_of_ne same, Function.update_of_ne same]
      exact represents.reads other later isLater
  nonneg := by
    intro other taken isTaken
    dsimp only at isTaken
    by_cases same : other = providerId
    · subst same
      rw [Function.update_self] at isTaken
      rcases List.mem_cons.1 isTaken with rfl | isEarlier
      · exact sampleNonneg
      · exact represents.nonneg other taken isEarlier
    · rw [Function.update_of_ne same] at isTaken
      exact represents.nonneg other taken isTaken

/-- A lost key is that of a provider without samples. -/
theorem Represents.evict
    (represents : Represents settings latencies samples)
    (providerId : String) :
    Represents settings (latencies.step settings (.evict providerId))
      (samples.step settings (.evict providerId)) where
  clock := represents.clock
  reads := by
    intro other later isLater
    unfold Latencies.step Samples.step Samples.counted
    dsimp only
    by_cases same : other = providerId
    · subst same
      rw [Function.update_self, Function.update_self]
      rfl
    · rw [Function.update_of_ne same, Function.update_of_ne same]
      exact represents.reads other later isLater
  nonneg := by
    intro other taken isTaken
    unfold Samples.step at isTaken
    dsimp only at isTaken
    by_cases same : other = providerId
    · subst same
      rw [Function.update_self] at isTaken
      cases isTaken
    · rw [Function.update_of_ne same] at isTaken
      exact represents.nonneg other taken isTaken

/-- Every event keeps the averages those of the samples. -/
theorem Represents.step
    (represents : Represents settings latencies samples)
    (event : Event) :
    Represents settings (latencies.step settings event)
      (samples.step settings event) := by
  cases isSample : event.sample settings with
  | some sample =>
      obtain ⟨latenciesEq, samplesEq⟩ := step_of_sample latencies samples isSample
      rw [latenciesEq, samplesEq]
      exact represents.take (sample_nonneg isSample)
  | none =>
      rcases step_of_no_sample latencies samples isSample with
        ⟨ms, rfl⟩ | ⟨providerId, rfl⟩ | ⟨latenciesEq, samplesEq⟩
      · refine ⟨?_, fun providerId later isLater => ?_, represents.nonneg⟩
        · exact congrArg (· + ms) represents.clock
        · exact represents.reads providerId later
            (le_trans (Nat.le_add_right _ ms) isLater)
      · exact represents.evict providerId
      · rwa [latenciesEq, samplesEq]

/-- The averages of a run are those of its samples. -/
theorem represents_run (settings : Settings) (events : List Event) :
    Represents settings (runFrom (Latencies.step settings) {} events)
      (runFrom (Samples.step settings) {} events) := by
  induction events using List.reverseRecOn with
  | nil => exact represents_initial settings
  | append_singleton events event inductionHypothesis =>
      rw [runFrom_concat, runFrom_concat]
      exact inductionHypothesis.step event

end Step

section Average

variable {settings : Settings} {samples : List ℚ} {lower upper : Nat}

/-- What is below a number below a short count is short. -/
theorem lt_of_between {number : ℚ}
    (above : (lower : ℚ) ≤ number)
    (below : number ≤ upper)
    (small : upper < 10 ^ 14) : lower < 10 ^ 14 :=
  lt_of_le_of_lt (by exact_mod_cast above.trans below) small

/-- A rounded average is between bounds of its samples, and close to their exact
moving average. -/
theorem exists_average_of_bounds
    (small : upper < 10 ^ 14)
    (bounds : ∀ sampleMs ∈ samples, (lower : ℚ) ≤ sampleMs ∧ sampleMs ≤ upper)
    {result : ℚ}
    (isAverage : roundedAverage settings samples = some result) :
    ∃ exact, movingAverage settings.alpha samples = some exact ∧
      ((lower : ℚ) ≤ result ∧ result ≤ upper) ∧
      settings.alpha * |result - exact| ≤ 6 * upper / 10 ^ 14 := by
  have alphaNonneg := settings.alpha_pos.le
  have alphaLe := settings.alpha_le_one
  have lowerNonneg : (0 : ℚ) ≤ lower := Nat.cast_nonneg lower
  let InRange (result : ℚ) : Prop := (lower : ℚ) ≤ result ∧ result ≤ upper
  refine exists_movingAverage_close settings.alpha_pos alphaLe InRange ?_ ?_ isAverage
  · intro sampleMs isSample
    obtain ⟨above, below⟩ := bounds sampleMs isSample
    have nonneg := lowerNonneg.trans above
    refine ⟨⟨?_, ?_⟩, ?_⟩
    · rw [← nearest_tostring_natCast (lt_of_between above below small)]
      exact nearest_mono (tostring_nonneg lowerNonneg) (tostring_mono lowerNonneg above)
    · rw [← nearest_tostring_natCast small]
      exact nearest_mono (tostring_nonneg nonneg) (tostring_mono nonneg below)
    · rcases Nat.eq_zero_or_pos upper with rfl | positive
      · obtain rfl := le_antisymm (below.trans_eq Nat.cast_zero) nonneg
        norm_num
      · have read := abs_nearest_tostring_sub_le nonneg below (by exact_mod_cast positive)
        linarith
  · intro sampleMs isSample prev prevBounds
    obtain ⟨above, below⟩ := bounds sampleMs isSample
    obtain ⟨prevAbove, prevBelow⟩ := prevBounds
    have nonneg := lowerNonneg.trans above
    have prevNonneg := lowerNonneg.trans prevAbove
    refine ⟨⟨?_, ?_⟩, ?_⟩
    · rw [← smoothed_self alphaNonneg alphaLe (lt_of_between above below small)]
      exact smoothed_mono alphaNonneg alphaLe lowerNonneg lowerNonneg above prevAbove
    · rw [← smoothed_self alphaNonneg alphaLe small]
      exact smoothed_mono alphaNonneg alphaLe nonneg prevNonneg below prevBelow
    · rcases Nat.eq_zero_or_pos upper with rfl | positive
      · obtain rfl := le_antisymm (below.trans_eq Nat.cast_zero) nonneg
        obtain rfl := le_antisymm (prevBelow.trans_eq Nat.cast_zero) prevNonneg
        norm_num
      · exact abs_smoothed_sub_le alphaNonneg alphaLe nonneg prevNonneg below prevBelow
          (by exact_mod_cast positive)

/-- After any run the average of a provider is made of its samples since the last
pause of ten minutes, and is the default without such a sample. Between bounds of at
most 14 digits on these samples, it is between the bounds, and it differs from their
exact moving average by a part of the upper bound that is small beside the weight. -/
theorem average_of_samples
    (settings : Settings)
    (events : List Event)
    (providerId : String) :
    let latencies := runFrom (Latencies.step settings) {} events
    let samples := runFrom (Samples.step settings) {} events
    let counted := samples.counted samples.clock providerId
    (counted = [] →
        average latencies.clock latencies.averages providerId = defaultEmaMs) ∧
      ∀ lower upper : Nat, upper < 10 ^ 14 →
        (∀ sampleMs ∈ counted, (lower : ℚ) ≤ sampleMs ∧ sampleMs ≤ upper) →
          counted ≠ [] →
            (lower : ℚ) ≤ average latencies.clock latencies.averages providerId ∧
              average latencies.clock latencies.averages providerId ≤ upper ∧
              ∃ exact, movingAverage settings.alpha counted = some exact ∧
                settings.alpha *
                    |average latencies.clock latencies.averages providerId - exact| ≤
                  upper / 10 ^ 13 := by
  intro latencies samples counted
  have represents : Represents settings latencies samples :=
    represents_run settings events
  have averageEq : average latencies.clock latencies.averages providerId =
      (roundedAverage settings counted).getD defaultEmaMs := by
    rw [average, represents.reads providerId latencies.clock le_rfl, represents.clock]
  refine ⟨fun isEmpty => ?_, fun lower upper small bounds nonempty => ?_⟩
  · rw [averageEq, isEmpty]
    rfl
  · obtain ⟨first, rest, countedEq⟩ := List.exists_cons_of_ne_nil nonempty
    obtain ⟨result, isAverage⟩ : ∃ result, roundedAverage settings counted = some result := by
      rw [countedEq, roundedAverage, smooth_cons]
      exact ⟨_, rfl⟩
    obtain ⟨exact, isExact, ⟨above, below⟩, close⟩ :=
      exists_average_of_bounds small bounds isAverage
    have upperNonneg : (0 : ℚ) ≤ upper := Nat.cast_nonneg upper
    rw [averageEq, isAverage, Option.getD_some]
    exact ⟨above, below, exact, isExact, close.trans (by linarith)⟩

/-- Two samples, of which the second reached the store with its answer lost. -/
theorem average_of_samples_two :
    let latencies := runFrom (Latencies.step defaultSettings) {}
      [.recordSuccess "a" 100 .answered, .recordSuccess "a" 200 .answerLost]
    100 ≤ average latencies.clock latencies.averages "a" ∧
      average latencies.clock latencies.averages "a" ≤ 200 := by
  intro latencies
  obtain ⟨above, below, -⟩ := (average_of_samples defaultSettings
    [.recordSuccess "a" 100 .answered, .recordSuccess "a" 200 .answerLost] "a").2 100 200
      (by norm_num) (by decide +kernel) (by decide +kernel)
  exact ⟨by exact_mod_cast above, by exact_mod_cast below⟩

end Average

section Shedding

/-- An event leaves what is known of a provider as it is. -/
def Event.Spares (settings : Settings) (providerId : String) (event : Event) : Prop :=
  (∀ sampleMs, event.sample settings ≠ some (providerId, sampleMs)) ∧
    event ≠ .evict providerId

variable {settings : Settings} {providerId : String}

theorem taken_step
    (samples : Samples)
    {event : Event}
    (spares : event.Spares settings providerId) :
    (samples.step settings event).taken providerId = samples.taken providerId := by
  cases isSample : event.sample settings with
  | some sample =>
      have isOther : providerId ≠ sample.1 := by
        rintro rfl
        exact spares.1 sample.2 isSample
      rw [(step_of_sample {} samples isSample).2]
      exact Function.update_of_ne isOther _ _
  | none =>
      rcases step_of_no_sample {} samples isSample with
        ⟨ms, rfl⟩ | ⟨other, rfl⟩ | ⟨-, samplesEq⟩
      · rfl
      · refine Function.update_of_ne ?_ _ _
        rintro rfl
        exact spares.2 rfl
      · rw [samplesEq]

theorem taken_run
    (samples : Samples)
    {events : List Event}
    (spared : ∀ event ∈ events, event.Spares settings providerId) :
    (runFrom (Samples.step settings) samples events).taken providerId =
      samples.taken providerId :=
  runFrom_induction (fun later => later.taken providerId = samples.taken providerId)
    (fun later event isEvent same => (taken_step later (spared event isEvent)).trans same)
    rfl

/-- The average of a provider whose last sample is known. -/
theorem Represents.average_eq
    {latencies : Latencies}
    {samples : Samples}
    (represents : Represents settings latencies samples)
    {instant : Nat}
    {sampleMs : ℚ}
    {earlier : List (Nat × ℚ)}
    (takenEq : samples.taken providerId = (instant, sampleMs) :: earlier) :
    average latencies.clock latencies.averages providerId =
      if latencies.clock < instant + emaTtlMs then
        (roundedAverage settings
          (sampleMs :: unbroken emaTtlMs instant earlier)).getD defaultEmaMs
      else defaultEmaMs := by
  rw [average, represents.reads providerId latencies.clock le_rfl, Samples.counted,
    takenEq]
  split_ifs with isRecent
  · rw [unbroken_cons_of_lt isRecent]
  · rw [unbroken_cons_of_le (Nat.not_lt.1 isRecent)]
    rfl

/-- The newest sample counts in the average with its weight at least, up to a small
part of that. -/
theorem Represents.mul_le_average
    {latencies : Latencies}
    {samples : Samples}
    (represents : Represents settings latencies samples)
    {instant sampleMs : Nat}
    {earlier : List (Nat × ℚ)}
    (takenEq : samples.taken providerId = (instant, (sampleMs : ℚ)) :: earlier)
    (precise : HasDoublePrecision sampleMs) :
    (1 - 1 / 10 ^ 13) * (settings.alpha * sampleMs) ≤
      (roundedAverage settings
        (sampleMs :: unbroken emaTtlMs instant earlier)).getD defaultEmaMs := by
  have alphaNonneg := settings.alpha_pos.le
  have alphaLe := settings.alpha_le_one
  have sampleNonneg : (0 : ℚ) ≤ sampleMs := precise.nonneg
  have shareNonneg : 0 ≤ settings.alpha * sampleMs := mul_nonneg alphaNonneg sampleNonneg
  have zeroOrLarge : settings.alpha * sampleMs = 0 ∨
      2 ^ (-1022 : Int) ≤ settings.alpha * sampleMs := by
    rcases Nat.eq_zero_or_pos sampleMs with rfl | positive
    · exact .inl (by rw [Nat.cast_zero, mul_zero])
    · have oneLe : (1 : ℚ) ≤ sampleMs := by exact_mod_cast positive
      right
      calc
        (2 : ℚ) ^ (-1022 : Int) ≤ 2 ^ (-7 : Int) :=
          zpow_le_zpow_right₀ (by norm_num) (by norm_num)
        _ ≤ settings.alpha := settings.le_alpha_two_pow
        _ ≤ settings.alpha * sampleMs := le_mul_of_one_le_right alphaNonneg oneLe
  rw [roundedAverage, smooth_cons, Option.getD_some]
  cases prevEq : smooth (fun sampleMs => nearest (tostring sampleMs))
      (smoothed settings.alpha) (unbroken emaTtlMs instant earlier) with
  | none =>
      apply mul_le_nearest_tostring zeroOrLarge
      exact nearest_le precise shareNonneg (mul_le_of_le_one_left sampleNonneg alphaLe)
  | some prev =>
      have nonneg := represents.nonneg providerId
      rw [takenEq] at nonneg
      have countedNonneg : ∀ other ∈ unbroken emaTtlMs instant earlier, 0 ≤ other := by
        intro other counts
        obtain ⟨taken, isTaken⟩ := exists_of_mem_unbroken counts
        exact (List.forall_mem_cons.1 nonneg).2 _ isTaken
      have prevNonneg : 0 ≤ prev :=
        smooth_induction
          (fun other counts =>
            nearest_nonneg (tostring_nonneg (countedNonneg other counts)))
          (fun other counts earlierAverage isNonneg =>
            smoothed_nonneg alphaNonneg alphaLe (countedNonneg other counts) isNonneg)
          prevEq
      apply mul_le_nearest_tostring zeroOrLarge
      exact nearest_le_weighted alphaNonneg alphaLe sampleNonneg prevNonneg

/-- A candidate that scores less than another one is not selected. -/
theorem select_ne_of_score_lt
    {clock : Nat}
    {averages : Averages}
    {candidates : List Candidate}
    {candidate other : Candidate}
    (isCandidate : other ∈ candidates)
    (scoresLess : score clock averages candidate < score clock averages other)
    (draw : Nat) :
    select clock draw true candidates averages ≠ .ok (some candidate) := by
  rw [select_answered clock averages draw (List.ne_nil_of_mem isCandidate)]
  intro isSelected
  exact List.not_lt_of_mem_argmax isCandidate (Except.ok.inj isSelected) scoresLess

theorem spares_elapse (ms : Nat) :
    ∀ event ∈ [Event.elapse ms], event.Spares settings providerId := by
  intro event isEvent
  obtain rfl := List.mem_singleton.1 isEvent
  exact ⟨nofun, nofun⟩

end Shedding

end LatencyBased
end LoadBalancer
end AiGateway
