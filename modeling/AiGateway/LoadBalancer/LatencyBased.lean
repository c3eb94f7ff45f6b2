import AiGateway.Foundations.Double
import AiGateway.Foundations.Expiry
import AiGateway.LoadBalancer.Shared
import Mathlib.Data.List.MinMax
import Mathlib.Logic.Function.Basic
import Mathlib.Tactic.GCongr
import Mathlib.Tactic.Ring

/-!
# Latency-based selection

Every provider has a moving average of its latencies, which lapses ten minutes after
the last sample. A selection takes the first candidate with the largest quotient of
weight and average.

The script computes with doubles and keeps its result as a text of 14 digits, so what
a selection reads is a rounded average. Every step of it is close to the exact one, and
keeps the order of the samples and of the averages before. Latencies and penalties are
so far below the largest double that no average is infinite.
-/

namespace AiGateway
namespace LoadBalancer
namespace LatencyBased

open Foundations

section Model

/-- `DEFAULT_EMA_MS`. -/
def defaultEmaMs : ℚ := 100

/-- `EMA_TTL_MS`. -/
def emaTtlMs : Nat := 600000

/-- `EPSILON_MS`. -/
def epsilonMs : ℚ := nearest (1 / 10)

/-- What the configuration admits; its numbers are doubles. -/
structure Settings where
  /-- `LB_LATENCY_EMA_ALPHA`. -/
  alpha : ℚ
  /-- `LB_FAILURE_PENALTY_MS`. -/
  failurePenaltyMs : Nat
  le_alpha : nearest (1 / 100) ≤ alpha
  alpha_le_one : alpha ≤ 1
  precise_alpha : HasDoublePrecision alpha
  precise_penalty : HasDoublePrecision failurePenaltyMs

/-- The settings of a deployment that sets none of them. -/
def defaultSettings : Settings where
  alpha := nearest (3 / 10)
  failurePenaltyMs := 30000
  le_alpha := nearest_mono (by norm_num) (by norm_num)
  alpha_le_one := nearest_le (hasDoublePrecision_two_pow 0) (by norm_num) (by norm_num)
  precise_alpha := Format.isPrecise_round (by norm_num)
  precise_penalty := hasDoublePrecision_natCast (by norm_num)

/-- The averages in Redis, by the id of the provider that they are named after: the
numbers in their texts. -/
abbrev Averages := String → Key ℚ

/-- `alpha * sample + (1 - alpha) * prev` of doubles. -/
def weighted (alpha sample prev : ℚ) : ℚ :=
  nearest (nearest (alpha * sample) + nearest (nearest (1 - alpha) * prev))

/-- What a selection reads after a sample. -/
def smoothed (alpha sample prev : ℚ) : ℚ :=
  nearest (tostring (weighted alpha sample prev))

/-- `EMA_UPDATE_LUA`: the number in the text that it returns, and the key it leaves. -/
def emaUpdateLua
    (clock : Nat)
    (alpha sample : ℚ)
    (ttl : Nat)
    (key : Key ℚ) : ℚ × Key ℚ :=
  let ema :=
    match key.read clock with
    | some prev => weighted alpha sample (nearest prev)
    | none => sample
  (tostring ema, Key.setPx clock ttl (tostring ema))

variable (settings : Settings)

/-- `updateEma(providerId, sampleMs)`; a failed call is only logged. -/
def updateEma
    (clock : Nat)
    (call : ScriptCall)
    (providerId : String)
    (sampleMs : ℚ)
    (averages : Averages) : Averages :=
  match call with
  | .notRun => averages
  | _ =>
      Function.update averages providerId
        (emaUpdateLua clock settings.alpha sampleMs emaTtlMs (averages providerId)).2

/-- `recordSuccess(providerId, latencyMs)`. -/
def recordSuccess
    (clock : Nat)
    (call : ScriptCall)
    (providerId : String)
    (latencyMs : Int)
    (averages : Averages) : Averages :=
  updateEma settings clock call providerId (max 0 latencyMs : Int) averages

/-- `recordFailure(providerId)`. -/
def recordFailure
    (clock : Nat)
    (call : ScriptCall)
    (providerId : String)
    (averages : Averages) : Averages :=
  updateEma settings clock call providerId settings.failurePenaltyMs averages

/-- `ema` in `select`. -/
def average (clock : Nat) (averages : Averages) (providerId : String) : ℚ :=
  (((averages providerId).read clock).map nearest).getD defaultEmaMs

/-- `safeEma`. -/
def safeEma (ema : ℚ) : ℚ := if 0 < ema then ema else epsilonMs

/-- `score`. -/
def score (clock : Nat) (averages : Averages) (candidate : Candidate) : WithTop ℚ :=
  quotient (max 0 candidate.weight : Int)
    (safeEma (average clock averages candidate.id))

/-- The body of the loop over the candidates, with `best` and `bestScore`, which is
at first below every number. -/
def visit
    (clock : Nat)
    (averages : Averages)
    (state : Candidate × Option (WithTop ℚ))
    (candidate : Candidate) : Candidate × Option (WithTop ℚ) :=
  let score := score clock averages candidate
  match state.2 with
  | none => (candidate, some score)
  | some bestScore => if bestScore < score then (candidate, some score) else state

/-- `select(candidates)`, with the draw of the fallback for a call that failed. -/
def select
    (clock draw : Nat)
    (answers : Bool)
    (candidates : List Candidate)
    (averages : Averages) : Except EmptyCandidatesError (Option Candidate) :=
  match candidates with
  | [] => .error {}
  | first :: rest =>
      if answers then
        .ok (some ((first :: rest).foldl (visit clock averages) (first, none)).1)
      else
        .ok (cryptoPick draw (first :: rest))

end Model

section Selection

variable (clock : Nat) (averages : Averages)

/-- The loop keeps the first candidate with the largest score. -/
theorem foldl_visit (best : Candidate) (candidates : List Candidate) :
    some (candidates.foldl (visit clock averages)
        (best, some (score clock averages best))).1 =
      (best :: candidates).argmax (score clock averages) := by
  have loop : ∀ best : Candidate,
      some (candidates.foldl (visit clock averages)
          (best, some (score clock averages best))).1 =
        candidates.foldl (List.argAux fun later earlier =>
          score clock averages earlier < score clock averages later) (some best) := by
    induction candidates with
    | nil => exact fun _ => rfl
    | cons candidate candidates inductionHypothesis =>
        intro best
        rw [List.foldl_cons, List.foldl_cons, visit, List.argAux]
        dsimp only
        split
        · exact inductionHypothesis candidate
        · exact inductionHypothesis best
  exact loop best

/-- While Redis answers, the first candidate with the largest score is selected. -/
theorem select_answered (draw : Nat) {candidates : List Candidate}
    (nonempty : candidates ≠ []) :
    select clock draw true candidates averages =
      .ok (candidates.argmax (score clock averages)) := by
  cases candidates with
  | nil => exact absurd rfl nonempty
  | cons first rest =>
      rw [select, if_pos rfl, ← foldl_visit]
      rfl

end Selection

section Weights

variable {alpha sample prev bound : ℚ}

/-- Every step of the average keeps the order of the samples and of the averages
before. -/
theorem weighted_mono
    {otherSample otherPrev : ℚ}
    (alphaNonneg : 0 ≤ alpha)
    (alphaLe : alpha ≤ 1)
    (sampleNonneg : 0 ≤ sample)
    (prevNonneg : 0 ≤ prev)
    (sampleLe : sample ≤ otherSample)
    (prevLe : prev ≤ otherPrev) :
    weighted alpha sample prev ≤ weighted alpha otherSample otherPrev := by
  have rest : 0 ≤ nearest (1 - alpha) := nearest_nonneg (sub_nonneg.2 alphaLe)
  have sampleShare : nearest (alpha * sample) ≤ nearest (alpha * otherSample) :=
    nearest_mono (mul_nonneg alphaNonneg sampleNonneg)
      (mul_le_mul_of_nonneg_left sampleLe alphaNonneg)
  have prevShare : nearest (nearest (1 - alpha) * prev) ≤
      nearest (nearest (1 - alpha) * otherPrev) :=
    nearest_mono (mul_nonneg rest prevNonneg) (mul_le_mul_of_nonneg_left prevLe rest)
  apply nearest_mono _ (add_le_add sampleShare prevShare)
  exact add_nonneg (nearest_nonneg (mul_nonneg alphaNonneg sampleNonneg))
    (nearest_nonneg (mul_nonneg rest prevNonneg))

theorem weighted_nonneg
    (alphaNonneg : 0 ≤ alpha)
    (alphaLe : alpha ≤ 1)
    (sampleNonneg : 0 ≤ sample)
    (prevNonneg : 0 ≤ prev) :
    0 ≤ weighted alpha sample prev := by
  have rest : 0 ≤ nearest (1 - alpha) := nearest_nonneg (sub_nonneg.2 alphaLe)
  exact nearest_nonneg (add_nonneg
    (nearest_nonneg (mul_nonneg alphaNonneg sampleNonneg))
    (nearest_nonneg (mul_nonneg rest prevNonneg)))

/-- A step is not below the rounded share of the sample. -/
theorem nearest_le_weighted
    (alphaNonneg : 0 ≤ alpha)
    (alphaLe : alpha ≤ 1)
    (sampleNonneg : 0 ≤ sample)
    (prevNonneg : 0 ≤ prev) :
    nearest (alpha * sample) ≤ weighted alpha sample prev := by
  have shareNonneg : 0 ≤ alpha * sample := mul_nonneg alphaNonneg sampleNonneg
  have restNonneg : 0 ≤ nearest (nearest (1 - alpha) * prev) :=
    nearest_nonneg (mul_nonneg (nearest_nonneg (sub_nonneg.2 alphaLe)) prevNonneg)
  apply Format.le_round (Format.isPrecise_round shareNonneg)
  · exact add_nonneg (nearest_nonneg shareNonneg) restNonneg
  · exact le_add_of_nonneg_right restNonneg

/-- A step is off by one rounding of each of its five operations at most. -/
theorem abs_weighted_sub_le
    (alphaNonneg : 0 ≤ alpha)
    (alphaLe : alpha ≤ 1)
    (sampleNonneg : 0 ≤ sample)
    (prevNonneg : 0 ≤ prev)
    (sampleLe : sample ≤ bound)
    (prevLe : prev ≤ bound)
    (large : 1 ≤ bound) :
    |weighted alpha sample prev - (alpha * sample + (1 - alpha) * prev)| ≤
      bound / 2 ^ 50 := by
  have inRange : (2 : ℚ) ^ (-1022 : Int) ≤ 1 :=
    zpow_le_one_of_nonpos₀ (by norm_num) (by norm_num)
  have boundNonneg : 0 ≤ bound := zero_le_one.trans large
  have restNonneg : 0 ≤ 1 - alpha := sub_nonneg.2 alphaLe
  have restLe : 1 - alpha ≤ 1 := sub_le_self 1 alphaNonneg
  have roundedNonneg : 0 ≤ nearest (1 - alpha) := nearest_nonneg restNonneg
  have roundedLe : nearest (1 - alpha) ≤ 1 :=
    nearest_le (hasDoublePrecision_two_pow 0) restNonneg restLe
  -- the share of the sample
  have sampleShareLe : alpha * sample ≤ bound :=
    (mul_le_of_le_one_left sampleNonneg alphaLe).trans sampleLe
  have sampleError := abs_le.1 (abs_nearest_sub_le
    (mul_nonneg alphaNonneg sampleNonneg) sampleShareLe (inRange.trans large))
  -- the share of the average before
  have restError : |nearest (1 - alpha) * prev - (1 - alpha) * prev| ≤
      bound / 2 ^ 53 := by
    have rounded := abs_nearest_sub_le restNonneg restLe inRange
    rw [← sub_mul, abs_mul, abs_of_nonneg prevNonneg]
    calc
      |nearest (1 - alpha) - (1 - alpha)| * prev ≤ 1 / 2 ^ 53 * bound := by gcongr
      _ = bound / 2 ^ 53 := by ring
  have prevShareLe : nearest (1 - alpha) * prev ≤ bound :=
    (mul_le_of_le_one_left prevNonneg roundedLe).trans prevLe
  have prevError := abs_le.1 (abs_nearest_sub_le
    (mul_nonneg roundedNonneg prevNonneg) prevShareLe (inRange.trans large))
  have restErrors := abs_le.1 restError
  -- the sum
  have exactLe : alpha * sample + (1 - alpha) * prev ≤ bound := by
    calc
      alpha * sample + (1 - alpha) * prev ≤ alpha * bound + (1 - alpha) * bound := by
        gcongr
      _ = bound := by ring
  have sumNonneg : 0 ≤
      nearest (alpha * sample) + nearest (nearest (1 - alpha) * prev) :=
    add_nonneg (nearest_nonneg (mul_nonneg alphaNonneg sampleNonneg))
      (nearest_nonneg (mul_nonneg roundedNonneg prevNonneg))
  have sumLe : nearest (alpha * sample) + nearest (nearest (1 - alpha) * prev) ≤
      2 * bound := by linarith
  have sumError := abs_le.1 (abs_nearest_sub_le sumNonneg sumLe (by linarith))
  rw [weighted, abs_le]
  constructor <;> linarith

theorem smoothed_mono
    {otherSample otherPrev : ℚ}
    (alphaNonneg : 0 ≤ alpha)
    (alphaLe : alpha ≤ 1)
    (sampleNonneg : 0 ≤ sample)
    (prevNonneg : 0 ≤ prev)
    (sampleLe : sample ≤ otherSample)
    (prevLe : prev ≤ otherPrev) :
    smoothed alpha sample prev ≤ smoothed alpha otherSample otherPrev := by
  have nonneg := weighted_nonneg alphaNonneg alphaLe sampleNonneg prevNonneg
  apply nearest_mono (tostring_nonneg nonneg)
  apply tostring_mono nonneg
  exact weighted_mono alphaNonneg alphaLe sampleNonneg prevNonneg sampleLe prevLe

theorem smoothed_nonneg
    (alphaNonneg : 0 ≤ alpha)
    (alphaLe : alpha ≤ 1)
    (sampleNonneg : 0 ≤ sample)
    (prevNonneg : 0 ≤ prev) :
    0 ≤ smoothed alpha sample prev :=
  nearest_nonneg (tostring_nonneg
    (weighted_nonneg alphaNonneg alphaLe sampleNonneg prevNonneg))

@[simp] theorem nearest_tostring_zero : nearest (tostring 0) = 0 := by
  rw [tostring, Format.round_zero, nearest_zero]

/-- What is read of a number is off by little more than the digits that the text leaves
out. -/
theorem abs_nearest_tostring_sub_le
    {number : ℚ}
    (nonnegative : 0 ≤ number)
    (atMost : number ≤ bound)
    (large : 1 ≤ bound) :
    |nearest (tostring number) - number| ≤ 51 * bound / 10 ^ 15 := by
  have inRange : (2 : ℚ) ^ (-1022 : Int) ≤ bound :=
    (zpow_le_one_of_nonpos₀ (by norm_num) (by norm_num)).trans large
  have text := abs_le.1 (abs_tostring_sub_le nonnegative atMost inRange)
  have read := abs_le.1 (abs_nearest_sub_le (tostring_nonneg nonnegative)
    (show tostring number ≤ 2 * bound by linarith) (by linarith))
  rw [abs_le]
  constructor <;> linarith

@[simp] theorem smoothed_zero (alpha : ℚ) : smoothed alpha 0 0 = 0 := by
  rw [smoothed, weighted, mul_zero, mul_zero, nearest_zero, add_zero, nearest_zero,
    nearest_tostring_zero]

/-- What is read after a sample is off by little more than that. -/
theorem abs_smoothed_sub_le
    (alphaNonneg : 0 ≤ alpha)
    (alphaLe : alpha ≤ 1)
    (sampleNonneg : 0 ≤ sample)
    (prevNonneg : 0 ≤ prev)
    (sampleLe : sample ≤ bound)
    (prevLe : prev ≤ bound)
    (large : 1 ≤ bound) :
    |smoothed alpha sample prev - (alpha * sample + (1 - alpha) * prev)| ≤
      6 * bound / 10 ^ 14 := by
  have exactLe : alpha * sample + (1 - alpha) * prev ≤ bound := by
    have restNonneg : 0 ≤ 1 - alpha := sub_nonneg.2 alphaLe
    calc
      alpha * sample + (1 - alpha) * prev ≤ alpha * bound + (1 - alpha) * bound := by
        gcongr
      _ = bound := by ring
  have nonneg := weighted_nonneg alphaNonneg alphaLe sampleNonneg prevNonneg
  have step := abs_le.1 (abs_weighted_sub_le alphaNonneg alphaLe sampleNonneg prevNonneg
    sampleLe prevLe large)
  have stepLe : weighted alpha sample prev ≤ bound + bound / 2 ^ 50 := by linarith
  have read := abs_le.1 (abs_nearest_tostring_sub_le nonneg stepLe (by linarith))
  rw [smoothed, abs_le]
  constructor <;> linarith

/-- Where the sample and the average before are the same count, so is the average:
the error of the step is less than half a unit of the 14th digit. -/
theorem tostring_weighted_self
    {count : Nat}
    (alphaNonneg : 0 ≤ alpha)
    (alphaLe : alpha ≤ 1)
    (positive : 0 < count)
    (small : count < 10 ^ 14) :
    tostring (weighted alpha count count) = count := by
  have oneLe : (1 : ℚ) ≤ count := by exact_mod_cast positive
  have precise := isPrecise_natCast small
  have step := abs_le.1 (abs_weighted_sub_le alphaNonneg alphaLe (Nat.cast_nonneg count)
    (Nat.cast_nonneg count) le_rfl le_rfl oneLe)
  have exact : alpha * count + (1 - alpha) * count = (count : ℚ) := by ring
  rw [exact] at step
  have steppedPos : 0 < weighted alpha count count := by linarith
  apply le_antisymm
  · apply Format.round_le_of_close precise (by linarith) steppedPos.le
    have digits := fourteenDigits.lt_mul_unit (count : ℚ)
    norm_num [fourteenDigits] at digits ⊢
    linarith
  · apply Format.le_round_of_close precise steppedPos
    have digits := fourteenDigits.lt_mul_unit (weighted alpha count count)
    norm_num [fourteenDigits] at digits ⊢
    linarith

theorem smoothed_self
    {count : Nat}
    (alphaNonneg : 0 ≤ alpha)
    (alphaLe : alpha ≤ 1)
    (small : count < 10 ^ 14) :
    smoothed alpha count count = count := by
  rcases Nat.eq_zero_or_pos count with rfl | positive
  · rw [Nat.cast_zero, smoothed_zero]
  · rw [smoothed, tostring_weighted_self alphaNonneg alphaLe positive small]
    exact nearest_eq_self (hasDoublePrecision_natCast (small.trans (by norm_num)))

/-- A count as the first sample is read as it is. -/
theorem nearest_tostring_natCast {count : Nat} (small : count < 10 ^ 14) :
    nearest (tostring count) = count := by
  rw [tostring, Format.round_eq_self (isPrecise_natCast small)]
  exact nearest_eq_self (hasDoublePrecision_natCast (small.trans (by norm_num)))

/-- What is read is not below the share of the sample, up to a small part of it. -/
theorem mul_le_nearest_tostring
    {result : ℚ}
    (zeroOrLarge : sample = 0 ∨ 2 ^ (-1022 : Int) ≤ sample)
    (atLeast : nearest sample ≤ result) :
    (1 - 1 / 10 ^ 13) * sample ≤ nearest (tostring result) := by
  rcases zeroOrLarge with rfl | large
  · rw [nearest_zero] at atLeast
    rw [mul_zero]
    exact nearest_nonneg (tostring_nonneg atLeast)
  have sampleNonneg : 0 ≤ sample := le_trans (by positivity) large
  have rounded := abs_le.1 (abs_nearest_sub_le sampleNonneg le_rfl large)
  have roundedNonneg : 0 ≤ nearest sample := nearest_nonneg sampleNonneg
  have text := abs_le.1 (abs_tostring_sub_le roundedNonneg
    (show nearest sample ≤ sample + sample / 2 ^ 53 by linarith) (by linarith))
  have textNonneg := tostring_nonneg roundedNonneg
  have read := abs_le.1 (abs_nearest_sub_le textNonneg
    (show tostring (nearest sample) ≤ 2 * sample by linarith) (by linarith))
  have monotone : nearest (tostring (nearest sample)) ≤ nearest (tostring result) :=
    nearest_mono textNonneg (tostring_mono roundedNonneg atLeast)
  linarith

end Weights

section Samples

variable
  (settings : Settings)
  {clock : Nat}
  {call : ScriptCall}
  (providerId : String)
  (averages : Averages)

theorem Settings.le_alpha_two_pow : 2 ^ (-7 : Int) ≤ settings.alpha := by
  refine le_trans ?_ settings.le_alpha
  have precise : HasDoublePrecision (2 ^ (-7 : Int)) :=
    doublePrecision.isPrecise_zpow (by decide)
  exact Format.le_round precise (by norm_num) (by norm_num)

theorem Settings.alpha_pos : 0 < settings.alpha :=
  lt_of_lt_of_le (by positivity) settings.le_alpha_two_pow

/-- The average after a sample. -/
theorem average_updateEma (answered : call ≠ .notRun) (sampleMs : ℚ) :
    average clock (updateEma settings clock call providerId sampleMs averages)
        providerId =
      match (averages providerId).read clock with
      | some prev => smoothed settings.alpha sampleMs (nearest prev)
      | none => nearest (tostring sampleMs) := by
  have updated : updateEma settings clock call providerId sampleMs averages =
      Function.update averages providerId
        (emaUpdateLua clock settings.alpha sampleMs emaTtlMs
          (averages providerId)).2 := by
    cases call with
    | notRun => exact absurd rfl answered
    | _ => rfl
  rw [average, updated, Function.update_self, emaUpdateLua, Key.read_setPx,
    if_pos (Nat.lt_add_of_pos_right (by decide)), Option.map_some, Option.getD_some]
  cases (averages providerId).read clock <;> rfl

/-- A sample of at most half the average lowers it. -/
theorem average_recordSuccess_lt
    (answered : call ≠ .notRun)
    {latencyMs : Int}
    (large : 1 ≤ average clock averages providerId)
    (isQuick : 2 * ((max 0 latencyMs : Int) : ℚ) ≤ average clock averages providerId) :
    average clock (recordSuccess settings clock call providerId latencyMs averages)
        providerId < average clock averages providerId := by
  have sampleNonneg : (0 : ℚ) ≤ (max 0 latencyMs : Int) :=
    Int.cast_nonneg (le_max_left 0 latencyMs)
  rw [recordSuccess, average_updateEma settings providerId averages answered]
  rw [average] at large isQuick ⊢
  cases reads : (averages providerId).read clock with
  | none =>
      rw [reads, Option.map_none, Option.getD_none, defaultEmaMs] at isQuick
      rw [Option.map_none, Option.getD_none, defaultEmaMs]
      have atMost : ((max 0 latencyMs : Int) : ℚ) ≤ (50 : Nat) := by
        push_cast at isQuick ⊢
        linarith
      calc
        nearest (tostring (max 0 latencyMs : Int)) ≤ nearest (tostring (50 : Nat)) :=
          nearest_mono (tostring_nonneg sampleNonneg)
            (tostring_mono sampleNonneg atMost)
        _ = (50 : Nat) := nearest_tostring_natCast (by norm_num)
        _ < 100 := by norm_num
  | some prev =>
      rw [reads, Option.map_some, Option.getD_some] at large isQuick
      rw [Option.map_some, Option.getD_some]
      dsimp only
      have error := (abs_le.1 (abs_smoothed_sub_le settings.alpha_pos.le
        settings.alpha_le_one sampleNonneg (by linarith) (by linarith) le_rfl large)).2
      have share : settings.alpha * (max 0 latencyMs : Int) ≤
          settings.alpha * (nearest prev / 2) :=
        mul_le_mul_of_nonneg_left (by linarith) settings.alpha_pos.le
      have weight : 2 ^ (-7 : Int) * nearest prev ≤ settings.alpha * nearest prev :=
        mul_le_mul_of_nonneg_right settings.le_alpha_two_pow (by linarith)
      norm_num at weight
      linarith

theorem safeEma_pos (ema : ℚ) : 0 < safeEma ema := by
  unfold safeEma
  split_ifs with positive
  · exact positive
  · refine lt_of_lt_of_le (by positivity : (0 : ℚ) < 2 ^ (-4 : Int)) ?_
    have precise : HasDoublePrecision (2 ^ (-4 : Int)) :=
      doublePrecision.isPrecise_zpow (by decide)
    exact Format.le_round precise (by norm_num) (by norm_num)

theorem epsilonMs_le_one : epsilonMs ≤ 1 :=
  nearest_le (hasDoublePrecision_two_pow 0) (by norm_num) (by norm_num)

/-- A lower average does not give a provider a lower score. -/
theorem score_le_score
    {candidate : Candidate}
    {others : Averages}
    (le : safeEma (average clock others candidate.id) ≤
      safeEma (average clock averages candidate.id)) :
    score clock averages candidate ≤ score clock others candidate :=
  quotient_anti (Int.cast_nonneg (le_max_left 0 candidate.weight)) (safeEma_pos _) le

/-- A sample of at most half the average lowers it and does not lower the score of its
provider. -/
theorem score_le_of_quick_sample
    (answered : call ≠ .notRun)
    (candidate : Candidate)
    {latencyMs : Int}
    (large : 1 ≤ average clock averages candidate.id)
    (isQuick :
      2 * ((max 0 latencyMs : Int) : ℚ) ≤ average clock averages candidate.id) :
    score clock averages candidate ≤
      score clock
        (recordSuccess settings clock call candidate.id latencyMs averages)
        candidate := by
  have lowered := average_recordSuccess_lt settings candidate.id averages answered large
    isQuick
  apply score_le_score
  rw [safeEma, safeEma, if_pos (zero_lt_one.trans_le large)]
  split_ifs
  · exact lowered.le
  · exact epsilonMs_le_one.trans large

end Samples

end LatencyBased
end LoadBalancer
end AiGateway
