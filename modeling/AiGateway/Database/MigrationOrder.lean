import AiGateway.Database.Migrations

/-!
# Migrations one run after another

When no run starts while another one is at work, and the directory stays the same,
the ledger is always a prefix of the sorted files, whatever statement a run
crashed at. No file takes effect before one that sorts before it, or after one
that sorts after it, and a run that completes leaves all files in the ledger.
-/

namespace AiGateway
namespace Database
namespace Migrations

open Foundations

section Model

/-- The runner sends nothing more. -/
def Runner.settled (runner : Runner) : Bool :=
  runner.stage = .complete || runner.stage = .failed

/-- A run starts when all earlier ones are settled, on the same directory. -/
def OneAtATime (directory : List Migration) (state : State) : Event → Prop
  | .start files =>
      files = directory ∧ ∀ runner ∈ state.runners, runner.settled = true
  | .advance .. | .crash _ => True

instance OneAtATime.decidable (directory : List Migration) (state : State) :
    (event : Event) → Decidable (OneAtATime directory state event)
  | .start files =>
      inferInstanceAs (Decidable (files = directory ∧
        ∀ runner ∈ state.runners, runner.settled = true))
  | .advance .. | .crash _ => isTrue trivial

variable (files : List Migration)

/-- The effects came in the order of the files: what had taken effect before a file
takes effect is every earlier file and no later one. -/
def InOrder (history : List Applied) : Prop :=
  ∀ before entry after, history = before ++ entry :: after →
    ∃ earlier file later, files = earlier ++ file :: later ∧
      entry = ⟨file.name, file.transactional⟩ ∧
      (∀ other ∈ earlier, other.name ∈ before.map Applied.name) ∧
      ∀ other ∈ later, other.name ∉ before.map Applied.name

/-- A runner that has read the ledger at `known` files. -/
def Runner.Read (count : Nat) (runner : Runner) : Prop :=
  ∃ known ≤ count, runner.applied = (files.take known).map Migration.name

/-- Where a runner is when the ledger holds the first `count` files. -/
def Runner.Placed (count : Nat) (history : List Applied) (runner : Runner) : Prop :=
  match runner.stage with
  | .ensuring | .reading => runner.remaining = files
  | .looping =>
      ∃ known done, runner.applied = (files.take known).map Migration.name ∧
        done ≤ files.length ∧ runner.remaining = files.drop done ∧
        count = max known done
  | .begun | .executed | .inserted =>
      runner.Read files count ∧
        ∃ file rest, files = files.take count ++ file :: rest ∧
          runner.remaining = file :: rest ∧ file.transactional = true
  | .unrecorded =>
      runner.Read files count ∧
        ∃ file rest, files = files.take count ++ file :: rest ∧
          runner.remaining = file :: rest ∧
          file.name ∈ history.map Applied.name
  | .complete => count = files.length
  | .failed => True

/-- The ledger holds the first `count` files, and the history at most one more. -/
structure Ordered (count : Nat) (state : State) : Prop where
  bound : count ≤ files.length
  ledger : state.ledger = (files.take count).map Migration.name
  inOrder : InOrder files state.history
  reached : ∀ file ∈ files.take count, file.name ∈ state.history.map Applied.name
  ahead : ∀ file ∈ files.drop (count + 1),
    file.name ∉ state.history.map Applied.name
  placed : ∀ (index : Nat) (runner : Runner), state.runners[index]? = some runner →
    runner.Placed files count state.history
  /-- Only the last runner may be at work. -/
  alone : ∀ (index : Nat) (runner : Runner), state.runners[index]? = some runner →
    runner.settled = false → index + 1 = state.runners.length

end Model

section Lists

variable {files : List Migration} {count : Nat} {file : Migration}
  {rest : List Migration}

/-- The files from a position on. -/
theorem split_of_drop (isNext : files.drop count = file :: rest) :
    files = files.take count ++ file :: rest := by
  rw [← isNext, List.take_append_drop]

theorem lt_of_split (split : files = files.take count ++ file :: rest) :
    count < files.length := by
  have lengths := congrArg List.length split
  rw [List.length_append, List.length_cons, List.length_take] at lengths
  omega

/-- The files of a directory have different names. -/
theorem nodup_migrationFiles
    (localeCompare : String → String → Ordering)
    {directory : List Migration}
    (distinctNames : (directory.map Migration.name).Nodup) :
    ((migrationFiles localeCompare directory).map Migration.name).Nodup := by
  have sorted := List.mergeSort_perm
    (directory.filter fun file => ".sql".toList <:+ file.name.toList)
    fun left right => (localeCompare left.name right.name).isLE
  refine (sorted.map Migration.name).nodup_iff.2 ?_
  exact distinctNames.sublist (List.filter_sublist.map _)

/-- One more file. -/
theorem take_succ_of_split (split : files = files.take count ++ file :: rest) :
    files.take (count + 1) = files.take count ++ [file] ∧
      files.drop (count + 1) = rest := by
  have short : (files.take count).length = count := by
    rw [List.length_take]
    exact Nat.min_eq_left (lt_of_split split).le
  constructor
  · conv_lhs => rw [split]
    rw [List.take_append, short, Nat.add_sub_cancel_left, List.take_of_length_le
      (by omega)]
    rfl
  · conv_lhs => rw [split]
    rw [List.drop_append, short, Nat.add_sub_cancel_left, List.drop_eq_nil_of_le
      (by omega)]
    rfl

/-- One more effect, of the next file. -/
theorem InOrder.append
    {history : List Applied}
    (inOrder : InOrder files history)
    (split : files = files.take count ++ file :: rest)
    (reached : ∀ other ∈ files.take count,
      other.name ∈ history.map Applied.name)
    (ahead : ∀ other ∈ rest, other.name ∉ history.map Applied.name) :
    InOrder files (history ++ [⟨file.name, file.transactional⟩]) := by
  intro before entry after isHistory
  rcases List.eq_nil_or_concat after with rfl | ⟨middle, last, rfl⟩
  · obtain ⟨rfl, single⟩ := List.append_inj' isHistory rfl
    obtain rfl := (List.cons.inj single).1
    exact ⟨_, file, rest, split, rfl, reached, ahead⟩
  · rw [List.concat_eq_append, ← List.cons_append, ← List.append_assoc] at isHistory
    obtain ⟨isOld, -⟩ := List.append_inj' isHistory rfl
    exact inOrder before entry middle isOld

end Lists

section Steps

variable {files : List Migration} {count : Nat} {state : State} {index : Nat}
  {runner : Runner}

/-- The names of the history after one more effect. -/
theorem names_commit (state : State) (name : String) (inTransaction : Bool) :
    (state.commit name inTransaction).history.map Applied.name =
      state.history.map Applied.name ++ [name] :=
  List.map_append

namespace Ordered

/-- While a runner is at work all others are settled. -/
theorem settled_of_ne
    (ordered : Ordered files count state)
    (isRunner : state.runners[index]? = some runner)
    (working : runner.settled = false)
    {other : Nat}
    {otherRunner : Runner}
    (different : other ≠ index)
    (isOther : state.runners[other]? = some otherRunner) :
    otherRunner.settled = true := by
  by_contra unsettled
  have last := ordered.alone index runner isRunner working
  have alsoLast := ordered.alone other otherRunner isOther
    (Bool.eq_false_iff.2 unsettled)
  omega

/-- A settled runner is where it is whatever the history, unless it completed and
there are more files. -/
theorem placed_of_settled
    (settled : runner.settled = true)
    {history later : List Applied}
    (placed : runner.Placed files count history)
    {after : Nat}
    (unlessDone : count = files.length → after = files.length) :
    runner.Placed files after later := by
  rw [Runner.settled, Bool.or_eq_true, decide_eq_true_iff, decide_eq_true_iff]
    at settled
  unfold Runner.Placed at placed ⊢
  rcases settled with stage | stage
  · rw [stage] at placed ⊢
    exact unlessDone placed
  · rw [stage]
    trivial

/-- The runner at work moves, and what is committed changes with it. -/
theorem update
    (ordered : Ordered files count state)
    (isRunner : state.runners[index]? = some runner)
    (working : runner.settled = false)
    {after : Nat}
    {moved : Runner}
    {changed : State}
    (runners : changed.runners = state.runners.set index moved)
    (unlessDone : count = files.length → after = files.length)
    (bound : after ≤ files.length)
    (ledger : changed.ledger = (files.take after).map Migration.name)
    (inOrder : InOrder files changed.history)
    (reached : ∀ file ∈ files.take after,
      file.name ∈ changed.history.map Applied.name)
    (ahead : ∀ file ∈ files.drop (after + 1),
      file.name ∉ changed.history.map Applied.name)
    (placed : moved.Placed files after changed.history) :
    Ordered files after changed where
  bound := bound
  ledger := ledger
  inOrder := inOrder
  reached := reached
  ahead := ahead
  placed := by
    intro other otherRunner isOther
    rw [runners] at isOther
    rcases State.Sound.cases_getElem?_put isOther with ⟨-, rfl⟩ | ⟨different, isOld⟩
    · exact placed
    · exact placed_of_settled (ordered.settled_of_ne isRunner working different isOld)
        (ordered.placed other otherRunner isOld) unlessDone
  alone := by
    intro other otherRunner isOther unsettled
    rw [runners] at isOther ⊢
    rw [List.length_set]
    rcases State.Sound.cases_getElem?_put isOther with ⟨rfl, rfl⟩ | ⟨different, isOld⟩
    · exact ordered.alone other runner isRunner working
    · exact ordered.alone other otherRunner isOld unsettled

/-- The runner at work moves, and nothing is committed. -/
theorem put
    (ordered : Ordered files count state)
    (isRunner : state.runners[index]? = some runner)
    (working : runner.settled = false)
    {moved : Runner}
    (placed : moved.Placed files count state.history) :
    Ordered files count (state.put index moved) :=
  ordered.update isRunner working rfl id ordered.bound ordered.ledger
    ordered.inOrder ordered.reached ordered.ahead placed

/-- Any runner may fail. -/
theorem fail
    (ordered : Ordered files count state)
    (index : Nat)
    (runner : Runner) :
    Ordered files count (state.put index runner.fail) where
  bound := ordered.bound
  ledger := ordered.ledger
  inOrder := ordered.inOrder
  reached := ordered.reached
  ahead := ordered.ahead
  placed := by
    intro other otherRunner isOther
    rcases State.Sound.cases_getElem?_put isOther with ⟨-, rfl⟩ | ⟨-, isOld⟩
    · trivial
    · exact ordered.placed other otherRunner isOld
  alone := by
    intro other otherRunner isOther unsettled
    change _ = (state.runners.set index _).length
    rw [List.length_set]
    rcases State.Sound.cases_getElem?_put isOther with ⟨-, rfl⟩ | ⟨-, isOld⟩
    · cases unsettled
    · exact ordered.alone other otherRunner isOld unsettled

/-- One more file is in the ledger, its effects in the history. -/
theorem advanceTo
    (ordered : Ordered files count state)
    (isRunner : state.runners[index]? = some runner)
    (working : runner.settled = false)
    {file : Migration}
    {rest : List Migration}
    (split : files = files.take count ++ file :: rest)
    (read : runner.Read files count)
    (remaining : runner.remaining = file :: rest)
    {moved : Runner}
    (next : moved = runner.fail ∨ moved = runner.next)
    {history : List Applied}
    (inOrder : InOrder files history)
    (reached : ∀ other ∈ files.take count,
      other.name ∈ history.map Applied.name)
    (has : file.name ∈ history.map Applied.name)
    (ahead : ∀ other ∈ rest, other.name ∉ history.map Applied.name) :
    Ordered files (count + 1)
      { ledger := state.ledger ++ [file.name]
        history := history
        runners := state.runners.set index moved } := by
  obtain ⟨taken, dropped⟩ := take_succ_of_split split
  have bound := lt_of_split split
  refine ordered.update isRunner working rfl (fun done => by omega) bound ?_ inOrder
    (fun other isOther => ?_) (fun other isOther => ?_) ?_
  · rw [ordered.ledger, taken, List.map_append]
    rfl
  · rw [taken] at isOther
    rcases List.mem_append.1 isOther with isOld | isNew
    · exact reached other isOld
    · rw [List.mem_singleton.1 isNew]
      exact has
  · refine ahead other ?_
    rw [← dropped]
    rw [← List.drop_drop] at isOther
    exact List.mem_of_mem_drop isOther
  · rcases next with rfl | rfl
    · trivial
    · obtain ⟨known, before, applied⟩ := read
      refine ⟨known, count + 1, applied, bound, ?_, by omega⟩
      change runner.remaining.tail = _
      rw [remaining, dropped]
      rfl

/-- Names of later files are not the name of a file. -/
theorem ne_of_split
    (distinct : (files.map Migration.name).Nodup)
    {file : Migration}
    {rest : List Migration}
    (split : files = files.take count ++ file :: rest) :
    ∀ other ∈ rest, other.name ≠ file.name := by
  rw [split, List.map_append, List.map_cons, List.nodup_append] at distinct
  obtain ⟨-, unique, -⟩ := distinct
  intro other isLater same
  exact (List.nodup_cons.1 unique).1 (same ▸ List.mem_map_of_mem isLater)

/-- The name of a file is not among those of earlier files. -/
theorem not_mem_of_split
    (distinct : (files.map Migration.name).Nodup)
    {file : Migration}
    {rest : List Migration}
    (split : files = files.take count ++ file :: rest) :
    file.name ∉ (files.take count).map Migration.name := by
  rw [split, List.map_append, List.map_cons, List.nodup_append] at distinct
  intro isEarlier
  exact distinct.2.2 file.name isEarlier file.name List.mem_cons_self rfl

/-- A file that the runner does not know is the first that is not in the ledger. -/
theorem split_of_unknown
    (ordered : Ordered files count state)
    (isRunner : state.runners[index]? = some runner)
    (stage : runner.stage = .looping)
    {file : Migration}
    {rest : List Migration}
    (remaining : runner.remaining = file :: rest)
    (unknown : file.name ∉ runner.applied) :
    runner.Read files count ∧ files = files.take count ++ file :: rest := by
  have placed := ordered.placed index runner isRunner
  unfold Runner.Placed at placed
  rw [stage] at placed
  obtain ⟨known, done, applied, bound, isRest, same⟩ := placed
  rw [remaining] at isRest
  have split := split_of_drop isRest.symm
  have notBefore : known ≤ done := by
    by_contra before
    refine unknown (applied ▸ List.mem_map_of_mem ?_)
    have within : files.take (done + 1) ⊆ files.take known :=
      (List.take_prefix_take_left (by omega)).subset
    refine within ?_
    rw [(take_succ_of_split split).1]
    exact List.mem_concat_self
  obtain rfl : count = done := by omega
  exact ⟨⟨known, notBefore, applied⟩, split⟩

/-- Every move keeps the order. -/
theorem move
    (ordered : Ordered files count state)
    (distinct : (files.map Migration.name).Nodup)
    (isRunner : state.runners[index]? = some runner)
    {moved : State}
    (move : Move state index runner moved) :
    ∃ after, Ordered files after moved := by
  have placed := ordered.placed index runner isRunner
  unfold Runner.Placed at placed
  have working : ∀ {stage : Stage}, runner.stage = stage → stage ≠ .complete →
      stage ≠ .failed → runner.settled = false := by
    rintro stage rfl notComplete notFailed
    simp [Runner.settled, notComplete, notFailed]
  cases move with
  | stays => exact ⟨count, ordered⟩
  | fails => exact ⟨count, ordered.fail index runner⟩
  | ensured stage =>
      rw [stage] at placed
      exact ⟨count, ordered.put isRunner (working stage nofun nofun) placed⟩
  | read stage =>
      rw [stage] at placed
      refine ⟨count, ordered.put isRunner (working stage nofun nofun) ?_⟩
      exact ⟨count, 0, ordered.ledger, Nat.zero_le _, placed, by omega⟩
  | completed stage remaining =>
      rw [stage] at placed
      refine ⟨count, ordered.put isRunner (working stage nofun nofun) ?_⟩
      obtain ⟨known, done, -, bound, isRest, same⟩ := placed
      rw [remaining] at isRest
      have reachedEnd : files.length ≤ done := List.drop_eq_nil_iff.1 isRest.symm
      have inBound := ordered.bound
      change count = files.length
      omega
  | skipped stage remaining isKnown =>
      rename_i file rest
      rw [stage] at placed
      refine ⟨count, ordered.put isRunner (working stage nofun nofun) ?_⟩
      obtain ⟨known, done, applied, bound, isRest, same⟩ := placed
      rw [remaining] at isRest
      have split := split_of_drop isRest.symm
      have before : done < known := by
        by_contra notBefore
        refine not_mem_of_split distinct split ?_
        rw [applied] at isKnown
        have within : files.take known ⊆ files.take done :=
          (List.take_prefix_take_left (by omega)).subset
        exact List.map_subset _ within isKnown
      refine ⟨known, done + 1, applied, lt_of_split split, ?_, by omega⟩
      change runner.remaining.tail = _
      rw [remaining, (take_succ_of_split split).2]
      rfl
  | began stage remaining unknown transactional =>
      obtain ⟨read, split⟩ :=
        ordered.split_of_unknown isRunner stage remaining unknown
      exact ⟨count, ordered.put isRunner (working stage nofun nofun)
        ⟨read, _, _, split, remaining, transactional⟩⟩
  | ran stage remaining unknown bare next =>
      rename_i file rest after
      obtain ⟨read, split⟩ :=
        ordered.split_of_unknown isRunner stage remaining unknown
      have dropped := (take_succ_of_split split).2
      have later : ∀ other ∈ rest, other.name ∉ state.history.map Applied.name := by
        rw [← dropped]
        exact ordered.ahead
      have inOrder := ordered.inOrder.append split ordered.reached later
      rw [bare] at inOrder
      refine ⟨count, ordered.update isRunner (working stage nofun nofun) rfl id ordered.bound
        ordered.ledger inOrder (fun other isOther => ?_) (fun other isOther => ?_) ?_⟩
      · change other.name ∈ (state.commit file.name false).history.map Applied.name
        rw [names_commit]
        exact List.mem_append_left _ (ordered.reached other isOther)
      · change other.name ∉ (state.commit file.name false).history.map Applied.name
        rw [names_commit, List.mem_append, List.mem_singleton, not_or]
        rw [dropped] at isOther
        exact ⟨later other isOther, ne_of_split distinct split other isOther⟩
      · rcases next with rfl | rfl
        · trivial
        · refine ⟨read, file, rest, split, remaining, ?_⟩
          change file.name ∈ (state.commit file.name false).history.map Applied.name
          rw [names_commit]
          exact List.mem_concat_self
  | executed stage =>
      rw [stage] at placed
      exact ⟨count, ordered.put isRunner (working stage nofun nofun) placed⟩
  | inserted stage remaining free isNew =>
      rw [stage] at placed
      exact ⟨count, ordered.put isRunner (working stage nofun nofun) placed⟩
  | committed stage remaining next =>
      rename_i file rest after
      rw [stage] at placed
      obtain ⟨read, first, later, split, isNext, transactional⟩ := placed
      obtain ⟨rfl, rfl⟩ := List.cons.inj (remaining.symm.trans isNext)
      have ahead : ∀ other ∈ rest, other.name ∉ state.history.map Applied.name := by
        rw [← (take_succ_of_split split).2]
        exact ordered.ahead
      have inOrder := ordered.inOrder.append split ordered.reached ahead
      rw [transactional] at inOrder
      refine ⟨count + 1, ordered.advanceTo isRunner (working stage nofun nofun) split
        read remaining next inOrder (fun other isOther => ?_) ?_
        fun other isOther => ?_⟩
      · change other.name ∈ (state.commit file.name true).history.map Applied.name
        rw [names_commit]
        exact List.mem_append_left _ (ordered.reached other isOther)
      · change file.name ∈ (state.commit file.name true).history.map Applied.name
        rw [names_commit]
        exact List.mem_concat_self
      · change other.name ∉ (state.commit file.name true).history.map Applied.name
        rw [names_commit, List.mem_append, List.mem_singleton, not_or]
        exact ⟨ahead other isOther, ne_of_split distinct split other isOther⟩
  | recorded stage remaining free isNew next =>
      rename_i file rest after
      rw [stage] at placed
      obtain ⟨read, first, later, split, isNext, has⟩ := placed
      obtain ⟨rfl, rfl⟩ := List.cons.inj (remaining.symm.trans isNext)
      have ahead : ∀ other ∈ rest, other.name ∉ state.history.map Applied.name := by
        rw [← (take_succ_of_split split).2]
        exact ordered.ahead
      exact ⟨count + 1, ordered.advanceTo isRunner (working stage nofun nofun) split
        read remaining next ordered.inOrder ordered.reached has ahead⟩

/-- Every event keeps the order. -/
theorem step
    {localeCompare : String → String → Ordering}
    {directory : List Migration}
    (ordered : Ordered (migrationFiles localeCompare directory) count state)
    (distinct :
      ((migrationFiles localeCompare directory).map Migration.name).Nodup)
    {event : Event}
    (oneAtATime : OneAtATime directory state event) :
    ∃ after, Ordered (migrationFiles localeCompare directory) after
      (State.step localeCompare state event) := by
  cases event with
  | advance index answer =>
      simp only [State.step]
      cases isRunner : state.runners[index]? with
      | none => exact ⟨count, ordered⟩
      | some runner =>
          exact ordered.move distinct isRunner
            (move_advance state index runner answer)
  | crash index =>
      simp only [State.step]
      cases isRunner : state.runners[index]? with
      | none => exact ⟨count, ordered⟩
      | some runner => exact ⟨count, ordered.fail index runner⟩
  | start files =>
      obtain ⟨rfl, settled⟩ := oneAtATime
      have cases : ∀ (other : Nat) (otherRunner : Runner),
          (state.runners ++ [{ remaining := migrationFiles localeCompare files }] :
            List Runner)[other]? = some otherRunner →
          state.runners[other]? = some otherRunner ∨
            other = state.runners.length ∧
              otherRunner = { remaining := migrationFiles localeCompare files } := by
        intro other otherRunner isOther
        rcases Nat.lt_or_ge other state.runners.length with isOld | isNew
        · rw [List.getElem?_append_left isOld] at isOther
          exact .inl isOther
        · rw [List.getElem?_append_right isNew] at isOther
          have single := List.mem_singleton.1 (List.mem_of_getElem? isOther)
          obtain ⟨inBound, -⟩ := List.getElem?_eq_some_iff.1 isOther
          rw [List.length_singleton] at inBound
          exact .inr ⟨by omega, single⟩
      refine ⟨count, { ordered with placed := ?_, alone := ?_ }⟩
      · intro other otherRunner isOther
        rcases cases other otherRunner isOther with isOld | ⟨-, rfl⟩
        · exact ordered.placed other otherRunner isOld
        · exact rfl
      · intro other otherRunner isOther unsettled
        change _ = (state.runners ++ [_]).length
        rw [List.length_append, List.length_singleton]
        rcases cases other otherRunner isOther with isOld | ⟨rfl, -⟩
        · rw [settled otherRunner (List.mem_of_getElem? isOld)] at unsettled
          cases unsettled
        · rfl

end Ordered

/-- Runs of the runner one after another, on files of different names, each
crashing wherever it may: the ledger holds the first files and no others; the
effects came in the order of the files, each in a transaction unless its file opts
out; and once a run has completed the ledger holds all of them. -/
theorem migrations_in_order
    (localeCompare : String → String → Ordering)
    (directory : List Migration)
    (distinctNames : (directory.map Migration.name).Nodup)
    {events : List Event}
    (oneAtATime : EveryStep (State.step localeCompare) (OneAtATime directory) {}
      events) :
    let final := runFrom (State.step localeCompare) {} events
    let files := migrationFiles localeCompare directory
    final.ledger <+: files.map Migration.name ∧
      InOrder files final.history ∧
      ∀ runner ∈ final.runners, runner.stage = .complete →
        final.ledger = files.map Migration.name := by
  intro final files
  have distinct := nodup_migrationFiles localeCompare distinctNames
  have initially : Ordered files 0 {} :=
    { bound := Nat.zero_le _
      ledger := rfl
      inOrder := by
        intro before entry after isHistory
        cases before <;> cases isHistory
      reached := nofun
      ahead := nofun
      placed := nofun
      alone := nofun }
  obtain ⟨count, ordered⟩ : ∃ count, Ordered files count final :=
    EveryStep.invariant (fun state => ∃ count, Ordered files count state)
      (fun state event ⟨count, ordered⟩ condition => ordered.step distinct condition)
      ⟨0, initially⟩ oneAtATime
  refine ⟨?_, ordered.inOrder, fun runner isRunner stage => ?_⟩
  · rw [ordered.ledger]
    exact (List.take_prefix count files).map _
  · obtain ⟨index, found⟩ := List.mem_iff_getElem?.1 isRunner
    have placed := ordered.placed index runner found
    unfold Runner.Placed at placed
    rw [stage] at placed
    rw [ordered.ledger, placed, List.take_length]

/-- A migration in a transaction. -/
def initialMigration : Migration where
  name := "0001_initial.sql"
  sql := "CREATE TYPE adapter_type AS ENUM ();"

/-- A migration that opts out of the transaction. -/
def cohereMigration : Migration where
  name := "0002_add_cohere.sql"
  sql := "-- migrate:no-transaction\n" ++
    "ALTER TYPE adapter_type ADD VALUE IF NOT EXISTS 'cohere';"

/-- The two files, as they are listed. -/
def twoFiles : List Migration := [cohereMigration, initialMigration]

theorem migrationFiles_twoFiles :
    migrationFiles compare twoFiles = [initialMigration, cohereMigration] := by
  have kept : twoFiles.filter (fun file => ".sql".toList <:+ file.name.toList) =
      twoFiles := by
    decide
  have unsorted : (compare cohereMigration.name initialMigration.name).isLE = false := by
    decide
  rw [migrationFiles, kept]
  simp [twoFiles, List.mergeSort, List.MergeSort.Internal.splitInTwo, unsorted]

/-- The connection is lost at the `COMMIT` of the first file, and a second run skips
that file and completes. -/
def lostCommit : List Event :=
  [.start twoFiles] ++ List.replicate 5 (.advance 0 .ok) ++
    [.advance 0 .lost, .start twoFiles] ++ List.replicate 6 (.advance 1 .ok)

theorem migrations_in_order_lostCommit :
    (runFrom (State.step compare) {} lostCommit).ledger =
      ["0001_initial.sql", "0002_add_cohere.sql"] := by
  have oneAtATime : EveryStep (State.step compare) (OneAtATime twoFiles) {}
      lostCommit := by
    simp only [lostCommit, List.replicate, List.cons_append, List.nil_append,
      everyStep_cons, State.step, migrationFiles_twoFiles]
    decide
  have completes : (runFrom (State.step compare) {} lostCommit).runners[1]? =
      some { applied := ["0001_initial.sql"], remaining := [], stage := .complete } := by
    simp only [lostCommit, List.replicate, List.cons_append, List.nil_append,
      runFrom_cons, State.step, migrationFiles_twoFiles]
    decide
  have whole := (migrations_in_order compare twoFiles (by decide)
    oneAtATime).2.2 _ (List.mem_of_getElem? completes) rfl
  rw [migrationFiles_twoFiles] at whole
  exact whole

end Steps

end Migrations
end Database
end AiGateway
