import AiGateway.Foundations.Apportionment
import AiGateway.LoadBalancer.WeightedRoundRobin

/-!
# Fairness of smooth weighted round-robin

While the weights stay the same and the hash does not lapse, the script
apportions its selections by turns: a stored current weight is the credit of its
candidate. So each candidate is picked as often as its weight in every period of
as many selections as the total weight.
-/

namespace AiGateway
namespace LoadBalancer

open Foundations

section Model

/-- A list of distinct candidates of which some has a positive weight. -/
structure Pool where
  candidates : List Candidate
  distinct : (candidates.map Candidate.id).Nodup
  positive : 0 < (candidates.map Candidate.share).sum

variable (pool : Pool)

/-- The total weight. -/
def Pool.total : Int := (pool.candidates.map Candidate.share).sum

/-- The hash after a selection at an instant. -/
def Pool.after (key : Key (Hash String Int)) (clock : Nat) :
    Key (Hash String Int) :=
  (smoothWrrLua clock wrrStateTtlMs
    (pool.candidates.map Candidate.argument) key).2

/-- The id that a selection at an instant picks. -/
def Pool.picked (key : Key (Hash String Int)) (clock : Nat) : Option String :=
  (smoothWrrLua clock wrrStateTtlMs
    (pool.candidates.map Candidate.argument) key).1

/-- The hash has not lapsed. -/
def Kept (key : Key (Hash String Int)) (clock : Nat) : Prop :=
  key.visible clock = key

instance (key : Key (Hash String Int)) (clock : Nat) : Decidable (Kept key clock) :=
  inferInstanceAs (Decidable (key.visible clock = key))

/-- What is stored as the current weight of a candidate. -/
def storedWeight (key : Key (Hash String Int)) (candidate : Candidate) : Int :=
  ((key.map Entry.value).bind fun fields => fields.lookup candidate.id).getD 0

end Model

section Step

variable {pool : Pool} {key : Key (Hash String Int)} {clock : Nat}

theorem Pool.nodup (pool : Pool) : pool.candidates.Nodup :=
  pool.distinct.of_map Candidate.id

/-- The candidates share the turns by their weights. -/
def Pool.shares (pool : Pool) : Shares Candidate where
  parties := pool.candidates.toFinset
  weight := Candidate.share
  nonneg candidate _ := candidate.share_nonneg
  positive := by
    rw [List.sum_toFinset Candidate.share pool.nodup]
    exact pool.positive

@[simp] theorem Pool.mem_parties (pool : Pool) {candidate : Candidate} :
    candidate ∈ pool.shares.parties ↔ candidate ∈ pool.candidates :=
  List.mem_toFinset

theorem Pool.total_shares (pool : Pool) : pool.shares.total = pool.total :=
  List.sum_toFinset Candidate.share pool.nodup

/-- While a hash has not lapsed, what is stored is what the script reads. -/
theorem Kept.currentWeight (kept : Kept key clock) (candidate : Candidate) :
    currentWeight clock key candidate.id = storedWeight key candidate := by
  rw [LoadBalancer.currentWeight, Key.hget, Key.read, kept, storedWeight]

theorem before_deadline : clock < clock + wrrStateTtlMs :=
  Nat.lt_add_of_pos_right (by decide)

/-- What a selection wrote does not lapse at once. -/
theorem Pool.kept_after
    {id : String}
    (picked : pool.picked key clock = some id) :
    Kept (pool.after key clock) clock := by
  rw [Pool.picked, smoothWrrLua] at picked
  rw [Kept, Pool.after, smoothWrrLua]
  cases best : (List.foldl (Scan.visit clock) { key := key }
    (pool.candidates.map Candidate.argument)).best with
  | none =>
      simp only [best] at picked
      cases picked
  | some found => exact Key.visible_pexpire _ before_deadline

/-- A selection is a turn of the candidate it picks. -/
theorem Pool.exists_taker (kept : Kept key clock) :
    ∃ taker, pool.shares.Leads (storedWeight key) taker ∧
      pool.picked key clock = some taker.id ∧
      ∀ candidate ∈ pool.candidates,
        storedWeight (pool.after key clock) candidate =
          pool.shares.turn (storedWeight key) taker candidate := by
  have nonempty : pool.candidates ≠ [] := by
    intro empty
    have positive := pool.positive
    rw [empty] at positive
    exact absurd positive (by decide)
  have distinct : ((pool.candidates.map Candidate.argument).map Prod.fst).Nodup := by
    rw [List.map_map]
    exact pool.distinct
  obtain ⟨argument, picks⟩ : ∃ best, Picks clock wrrStateTtlMs key
      (pool.candidates.map Candidate.argument) best :=
    exists_picks _ (List.map_eq_nil_iff.not.2 nonempty) distinct
  obtain ⟨taker, rfl, isFirst⟩ := exists_isFirstMax_of_map picks.isFirst
  have raised : ∀ candidate, raisedWeight clock key candidate.argument =
      pool.shares.raised (storedWeight key) candidate := fun candidate => by
    rw [Shares.raised, ← kept.currentWeight candidate]
    rfl
  refine ⟨taker, ⟨pool.mem_parties.2 isFirst.mem, fun candidate isParty => ?_⟩,
    picks.answer, fun candidate isCandidate => ?_⟩
  · rw [← raised, ← raised]
    exact isFirst.le (pool.mem_parties.1 isParty)
  · have stored := picks.stored clock candidate.argument
      (List.mem_map_of_mem isCandidate)
    have isTaker : candidate.argument = taker.argument ↔ candidate = taker :=
      ⟨fun same => List.inj_on_of_nodup_map pool.distinct isCandidate
        isFirst.mem (congrArg Prod.fst same), fun same => by rw [same]⟩
    have total : ((pool.candidates.map Candidate.argument).map Prod.snd).sum =
        pool.shares.total := by
      rw [pool.total_shares, List.map_map]
      rfl
    rw [← (pool.kept_after picks.answer).currentWeight candidate, Shares.turn,
      ← raised]
    refine stored.trans ?_
    rw [if_pos before_deadline, total]
    simp only [isTaker]
    split_ifs
    · rfl
    · rw [Int.sub_zero]

end Step

section Runs

variable {pool : Pool}

/-- Selections are turns, as long as the hash does not lapse. -/
theorem Pool.exists_takers
    (clocks : List Nat)
    {key : Key (Hash String Int)}
    {credit : Candidate → Int}
    (agrees : ∀ candidate ∈ pool.candidates,
      storedWeight key candidate = credit candidate)
    (kept : EveryStep pool.after Kept key clocks) :
    ∃ takers, EveryStep pool.shares.turn pool.shares.Leads credit takers ∧
      answersFrom pool.after pool.picked key clocks =
        takers.map (fun taker => some taker.id) ∧
      ∀ candidate ∈ pool.candidates,
        storedWeight (runFrom pool.after key clocks) candidate =
          runFrom pool.shares.turn credit takers candidate := by
  induction clocks generalizing key credit with
  | nil => exact ⟨[], trivial, rfl, agrees⟩
  | cons clock clocks inductionHypothesis =>
      obtain ⟨here, later⟩ := kept
      obtain ⟨taker, leads, picked, stored⟩ := pool.exists_taker here
      have raised : ∀ candidate ∈ pool.candidates,
          pool.shares.raised (storedWeight key) candidate =
            pool.shares.raised credit candidate := by
        intro candidate isCandidate
        rw [Shares.raised, Shares.raised, agrees candidate isCandidate]
      have stillAgrees : ∀ candidate ∈ pool.candidates,
          storedWeight (pool.after key clock) candidate =
            pool.shares.turn credit taker candidate := by
        intro candidate isCandidate
        rw [stored candidate isCandidate, Shares.turn, Shares.turn,
          raised candidate isCandidate]
      obtain ⟨takers, fair, answers, after⟩ :=
        inductionHypothesis stillAgrees later
      refine ⟨taker :: takers, ⟨⟨leads.1, fun candidate isParty => ?_⟩, fair⟩,
        ?_, after⟩
      · rw [← raised candidate (pool.mem_parties.1 isParty),
          ← raised taker (pool.mem_parties.1 leads.1)]
        exact leads.2 candidate isParty
      · rw [answersFrom, picked, answers, List.map_cons]

/-- A run from the empty state is a fair list of turns. -/
theorem Pool.exists_fair
    {clocks : List Nat}
    (kept : EveryStep pool.after Kept none clocks) :
    ∃ takers, pool.shares.Fair takers ∧
      answersFrom pool.after pool.picked none clocks =
        takers.map (fun taker => some taker.id) ∧
      ∀ candidate ∈ pool.candidates,
        storedWeight (runFrom pool.after none clocks) candidate =
          runFrom pool.shares.turn (fun _ => 0) takers candidate :=
  pool.exists_takers clocks (fun _ _ => rfl) kept

/-- A candidate is picked as often as it takes a turn. -/
theorem Pool.count_picked
    {takers : List Candidate}
    (fair : pool.shares.Fair takers)
    {candidate : Candidate}
    (isCandidate : candidate ∈ pool.candidates) :
    (takers.map fun taker => some taker.id).count (some candidate.id) =
      takers.count candidate := by
  have isTaker : ∀ taker ∈ takers, taker ∈ pool.candidates :=
    fair.of_mem fun _ _ leads => pool.mem_parties.1 leads.1
  rw [List.count, List.count, List.countP_map]
  refine List.countP_congr fun taker isInTakers => ?_
  rw [Function.comp_apply, beq_iff_eq, beq_iff_eq, Option.some_inj]
  exact ⟨fun same => List.inj_on_of_nodup_map pool.distinct
    (isTaker taker isInTakers) isCandidate same, fun same => by rw [same]⟩

/-- After whole periods each candidate was picked its times, and the state is
that of the start. -/
theorem Pool.count_periods
    {clocks : List Nat}
    (kept : EveryStep pool.after Kept none clocks)
    {periods : Nat}
    (whole : (clocks.length : Int) = periods * pool.total)
    {candidate : Candidate}
    (isCandidate : candidate ∈ pool.candidates) :
    ((answersFrom pool.after pool.picked none clocks).count
        (some candidate.id) : Int) = periods * candidate.share ∧
      storedWeight (runFrom pool.after none clocks) candidate = 0 := by
  obtain ⟨takers, fair, answers, after⟩ := pool.exists_fair kept
  have length : takers.length = clocks.length := by
    rw [← length_answersFrom pool.after pool.picked none clocks, answers,
      List.length_map]
  rw [answers, pool.count_picked fair isCandidate, after candidate isCandidate]
  refine fair.count_eq ?_ (pool.mem_parties.2 isCandidate)
  rw [length, whole, pool.total_shares]

/-- In every run of selections from the empty state that does not let the hash
lapse, the stored current weights sum to zero after each selection and all lie
above minus the total weight. So in each period of as many selections as the
total weight, counted from the start, each candidate is picked as often as its
weight, and the period ends with all current weights at zero. A candidate of
weight zero is never picked. -/
theorem Pool.selections_fair
    (pool : Pool)
    {clocks : List Nat}
    (kept : EveryStep pool.after Kept none clocks) :
    (∀ before, before <+: clocks →
      (pool.candidates.map
        (storedWeight (runFrom pool.after none before))).sum = 0 ∧
      ∀ candidate ∈ pool.candidates,
        -pool.total < storedWeight (runFrom pool.after none before) candidate) ∧
    (∀ before period after, clocks = before ++ period ++ after →
      ∀ periods : Nat, (before.length : Int) = periods * pool.total →
        (period.length : Int) = pool.total →
          ∀ candidate ∈ pool.candidates,
            ((answersFrom pool.after pool.picked
              (runFrom pool.after none before) period).count
                (some candidate.id) : Int) = candidate.share ∧
            storedWeight (runFrom pool.after none (before ++ period))
              candidate = 0) ∧
    ∀ candidate ∈ pool.candidates, candidate.share = 0 →
      some candidate.id ∉ answersFrom pool.after pool.picked none clocks := by
  refine ⟨fun before isBefore => ?_, ?_, fun candidate isCandidate isZero => ?_⟩
  · obtain ⟨takers, fair, -, after⟩ :=
      pool.exists_fair (kept.of_prefix isBefore)
    have balanced := fair.balanced
    rw [List.map_congr_left after]
    refine ⟨?_, fun candidate isCandidate => ?_⟩
    · rw [← List.sum_toFinset _ pool.nodup]
      exact balanced.sum
    · rw [after candidate isCandidate, ← pool.total_shares]
      exact balanced.above candidate (pool.mem_parties.2 isCandidate)
  · rintro before period after rfl periods whole one candidate isCandidate
    have keptBoth := kept.of_prefix (List.prefix_append (before ++ period) after)
    have keptBefore := keptBoth.of_prefix (List.prefix_append before period)
    have next : ((before ++ period).length : Int) =
        (periods + 1 : Nat) * pool.total := by
      rw [List.length_append, Nat.cast_add, whole, one, Nat.cast_add, Int.add_mul,
        Nat.cast_one, Int.one_mul]
    obtain ⟨countBefore, -⟩ := pool.count_periods keptBefore whole isCandidate
    obtain ⟨countBoth, settled⟩ := pool.count_periods keptBoth next isCandidate
    refine ⟨?_, settled⟩
    rw [answersFrom_append, List.count_append, Nat.cast_add, countBefore,
      Nat.cast_add, Int.add_mul, Nat.cast_one, Int.one_mul] at countBoth
    omega
  · obtain ⟨takers, fair, answers, -⟩ := pool.exists_fair kept
    rw [answers, ← List.count_eq_zero, pool.count_picked fair isCandidate,
      List.count_eq_zero]
    exact fair.not_mem (pool.mem_parties.2 isCandidate) isZero

/-- Two periods of candidates of weights five, one and one. -/
theorem Pool.selections_fair_five_one_one :
    ((answersFrom
        (Pool.after ⟨[⟨"A", 5⟩, ⟨"B", 1⟩, ⟨"C", 1⟩], by decide, by decide⟩)
        (Pool.picked ⟨[⟨"A", 5⟩, ⟨"B", 1⟩, ⟨"C", 1⟩], by decide, by decide⟩)
        (runFrom
          (Pool.after ⟨[⟨"A", 5⟩, ⟨"B", 1⟩, ⟨"C", 1⟩], by decide, by decide⟩)
          none (.replicate 7 0))
        (.replicate 7 1000)).count (some "A") : Int) = 5 :=
  ((Pool.selections_fair
    ⟨[⟨"A", 5⟩, ⟨"B", 1⟩, ⟨"C", 1⟩], by decide, by decide⟩
    (by decide :
      EveryStep _ Kept none (.replicate 7 0 ++ .replicate 7 1000))).2.1
    (.replicate 7 0) (.replicate 7 1000) [] rfl 1 (by decide) (by decide)
    ⟨"A", 5⟩ (by decide)).1

end Runs

end LoadBalancer
end AiGateway
