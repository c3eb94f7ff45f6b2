import Mathlib.Data.List.Basic

/-!
# Generators

A generator yields a list of items and then either finishes or throws. A
transducer is a generator that reads another one in a loop: each item updates
its state, makes it yield, and lets it go on, return or throw; when the source
finishes it may yield once more, and an error of the source passes through.
-/

namespace AiGateway
namespace Foundations

/-- How a generator ends. -/
inductive Ending (ε : Type u)
  | finished
  | threw (error : ε)
  deriving DecidableEq

/-- All that a generator does. -/
structure Yields (α : Type u) (ε : Type v) where
  items : List α
  ending : Ending ε

namespace Yields

/-- Yield some items first. -/
def prepend (first : List α) (rest : Yields α ε) : Yields α ε :=
  { rest with items := first ++ rest.items }

@[simp] theorem items_prepend (first : List α) (rest : Yields α ε) :
    (rest.prepend first).items = first ++ rest.items := rfl

@[simp] theorem ending_prepend (first : List α) (rest : Yields α ε) :
    (rest.prepend first).ending = rest.ending := rfl

@[simp] theorem prepend_nil (rest : Yields α ε) :
    rest.prepend [] = rest := rfl

theorem prepend_prepend (first second : List α) (rest : Yields α ε) :
    (rest.prepend second).prepend first = rest.prepend (first ++ second) := by
  simp [prepend]

/-- The first call of `next`: the first item, nothing, or an error. -/
def next (generator : Yields α ε) : Except ε (Option α) :=
  match generator.items, generator.ending with
  | item :: _, _ => .ok (some item)
  | [], .finished => .ok none
  | [], .threw error => .error error

end Yields

/-- What the body of a loop does after an item. -/
inductive Control (ε : Type u)
  | proceed
  | done
  | fail (error : ε)

/-- The body of a loop over a generator, and what follows the loop. -/
structure Transducer (σ ι ο ε : Type) where
  step : σ → ι → σ × List ο × Control ε
  finish : σ → List ο

namespace Transducer

variable (transducer : Transducer σ ι ο ε)

/-- The state after an item. -/
def after (state : σ) (item : ι) : σ := (transducer.step state item).1

/-- What an item makes the transducer yield. -/
def output (state : σ) (item : ι) : List ο := (transducer.step state item).2.1

/-- Whether the transducer goes on after an item. -/
def control (state : σ) (item : ι) : Control ε :=
  (transducer.step state item).2.2

/-- Read the items of a source with a given ending. -/
def run (ending : Ending ε) : σ → List ι → Yields ο ε
  | state, [] =>
      match ending with
      | .finished => { items := transducer.finish state, ending := .finished }
      | .threw error => { items := [], ending := .threw error }
  | state, item :: items =>
      let output := transducer.output state item
      match transducer.control state item with
      | .proceed =>
          (run ending (transducer.after state item) items).prepend
            output
      | .done => { items := output, ending := .finished }
      | .fail error => { items := output, ending := .threw error }

/-- Read a source from a first state. -/
def transduce (start : σ) (source : Yields ι ε) : Yields ο ε :=
  transducer.run source.ending start source.items

/-- The same transducer with other outputs. -/
def mapOutput (f : ο → π) : Transducer σ ι π ε where
  step state item :=
    let (state, output, control) := transducer.step state item
    (state, output.map f, control)
  finish state := (transducer.finish state).map f

/-- A transducer that always goes on ends as its source does. -/
theorem ending_transduce_of_proceeds
    (proceeds : ∀ state item, transducer.control state item = .proceed)
    (start : σ)
    (source : Yields ι ε) :
    (transducer.transduce start source).ending = source.ending := by
  unfold transduce
  induction source.items generalizing start with
  | nil => cases source.ending <;> rfl
  | cons item items inductionHypothesis =>
      simp only [run, proceeds, Yields.ending_prepend]
      exact inductionHypothesis _

/-- A transducer that first decodes its items runs on what they decode to. -/
theorem run_map
    {decoded : Transducer σ κ ο ε}
    {decode : ι → κ}
    (sameStep : ∀ state item,
      transducer.step state item = decoded.step state (decode item))
    (sameFinish : ∀ state, transducer.finish state = decoded.finish state)
    (ending : Ending ε)
    (state : σ)
    (items : List ι) :
    transducer.run ending state items =
      decoded.run ending state (items.map decode) := by
  induction items generalizing state with
  | nil => cases ending <;> simp [run, sameFinish]
  | cons item items inductionHypothesis =>
      simp only [List.map_cons, run, control, output, after, sameStep,
        inductionHypothesis]

section Silence

/-- The transducer reads all the items and yields nothing. -/
def Silent : σ → List ι → Prop
  | _, [] => True
  | state, item :: items =>
      transducer.control state item = .proceed ∧
        transducer.output state item = [] ∧
        Silent (transducer.after state item) items

/-- An error after a silent prefix is the first thing that is seen. -/
theorem transduce_of_silent
    {start : σ}
    {items : List ι}
    (silent : transducer.Silent start items)
    (error : ε) :
    transducer.transduce start { items := items, ending := .threw error } =
      { items := [], ending := .threw error } := by
  unfold transduce
  induction items generalizing start with
  | nil => rfl
  | cons item items inductionHypothesis =>
      obtain ⟨proceeds, noOutput, rest⟩ := silent
      simp only [run, proceeds, noOutput, Yields.prepend_nil]
      exact inductionHypothesis rest

end Silence

section Prefixes

/-- The transducer reads all the items and goes on after each. -/
def Proceeds : σ → List ι → Prop
  | _, [] => True
  | state, item :: items =>
      transducer.control state item = .proceed ∧
        Proceeds (transducer.after state item) items

/-- The state after some items. -/
def afterAll (state : σ) (items : List ι) : σ :=
  items.foldl transducer.after state

/-- What some items make the transducer yield. -/
def outputAll : σ → List ι → List ο
  | _, [] => []
  | state, item :: items =>
      transducer.output state item ++
        outputAll (transducer.after state item) items

@[simp] theorem afterAll_nil (state : σ) :
    transducer.afterAll state [] = state := rfl

@[simp] theorem afterAll_cons (state : σ) (item : ι) (items : List ι) :
    transducer.afterAll state (item :: items) =
      transducer.afterAll (transducer.after state item) items := rfl

theorem afterAll_append (state : σ) (items later : List ι) :
    transducer.afterAll state (items ++ later) =
      transducer.afterAll (transducer.afterAll state items) later :=
  List.foldl_append

@[simp] theorem outputAll_nil (state : σ) :
    transducer.outputAll state [] = [] := rfl

@[simp] theorem outputAll_cons (state : σ) (item : ι) (items : List ι) :
    transducer.outputAll state (item :: items) =
      transducer.output state item ++
        transducer.outputAll (transducer.after state item) items := rfl

theorem outputAll_append (state : σ) (items later : List ι) :
    transducer.outputAll state (items ++ later) =
      transducer.outputAll state items ++
        transducer.outputAll (transducer.afterAll state items) later := by
  induction items generalizing state with
  | nil => rfl
  | cons item items inductionHypothesis =>
      rw [List.cons_append, outputAll_cons, inductionHypothesis, outputAll_cons,
        afterAll_cons, List.append_assoc]

/-- A transducer that always goes on reads everything. -/
theorem proceeds_of_control
    (proceeds : ∀ state item, transducer.control state item = .proceed)
    (state : σ)
    (items : List ι) : transducer.Proceeds state items := by
  induction items generalizing state with
  | nil => trivial
  | cons item items inductionHypothesis =>
      exact ⟨proceeds state item, inductionHypothesis _⟩

/-- A run over items after which the transducer goes on. -/
theorem run_append
    {state : σ}
    {items : List ι}
    (proceeds : transducer.Proceeds state items)
    (ending : Ending ε)
    (later : List ι) :
    transducer.run ending state (items ++ later) =
      (transducer.run ending (transducer.afterAll state items) later).prepend
        (transducer.outputAll state items) := by
  induction items generalizing state with
  | nil => rfl
  | cons item items inductionHypothesis =>
      obtain ⟨proceedsNow, proceedsLater⟩ := proceeds
      simp only [List.cons_append, run, proceedsNow]
      rw [inductionHypothesis proceedsLater, Yields.prepend_prepend]
      rfl

/-- A transducer that always goes on yields what its steps yield, and what it
finishes with. -/
theorem items_transduce_of_control
    (proceeds : ∀ state item, transducer.control state item = .proceed)
    (start : σ)
    (items : List ι) :
    (transducer.transduce start { items := items, ending := .finished }).items =
      transducer.outputAll start items ++
        transducer.finish (transducer.afterAll start items) := by
  have run := transducer.run_append
    (transducer.proceeds_of_control proceeds start items) .finished []
  rw [List.append_nil] at run
  rw [transduce, run, Yields.items_prepend]
  rfl

/-- The state after items that are first decoded. -/
theorem afterAll_map
    {decoded : Transducer σ κ ο ε}
    {decode : ι → κ}
    (sameStep : ∀ state item,
      transducer.step state item = decoded.step state (decode item))
    (state : σ)
    (items : List ι) :
    transducer.afterAll state items =
      decoded.afterAll state (items.map decode) := by
  induction items generalizing state with
  | nil => rfl
  | cons item items inductionHypothesis =>
      rw [afterAll_cons, inductionHypothesis, List.map_cons, afterAll_cons,
        after, sameStep]
      rfl

variable {transducer}

/-- A relation between the state before, what is yielded and the state after
holds of a whole prefix if it holds of every step. -/
theorem emits_outputAll
    {Emits : σ → List ο → σ → Prop}
    (nothing : ∀ state, Emits state [] state)
    (append : ∀ first outputs second later third, Emits first outputs second →
      Emits second later third → Emits first (outputs ++ later) third)
    (keeps : ∀ state item,
      Emits state (transducer.output state item) (transducer.after state item))
    (state : σ)
    (items : List ι) :
    Emits state (transducer.outputAll state items)
      (transducer.afterAll state items) := by
  induction items generalizing state with
  | nil => exact nothing state
  | cons item items inductionHypothesis =>
      exact append _ _ _ _ _ (keeps state item) (inductionHypothesis _)

end Prefixes

section Invariants

variable {transducer}

/-- Where a run ends, under an invariant that every step keeps while it goes on:
after all the items, or at one of them. -/
theorem exists_last_state
    {Invariant : σ → Prop}
    {Output : ο → Prop}
    (ending : Ending ε)
    {items : List ι}
    (keeps : ∀ state, ∀ item ∈ items, Invariant state →
      transducer.control state item = .proceed →
        Invariant (transducer.after state item) ∧
          ∀ chunk ∈ transducer.output state item, Output chunk)
    {start : σ}
    (initially : Invariant start) :
    ∃ outputs state, (∀ chunk ∈ outputs, Output chunk) ∧ Invariant state ∧
      ((transducer.run ending start items =
            (transducer.run ending state []).prepend outputs ∧
          ∀ item ∈ items, ∃ state, transducer.control state item = .proceed) ∨
        ∃ item ∈ items,
          (transducer.control state item = .done ∧
            transducer.run ending start items =
              { items := outputs ++ transducer.output state item
                ending := .finished }) ∨
          ∃ error, transducer.control state item = .fail error ∧
            transducer.run ending start items =
              { items := outputs ++ transducer.output state item
                ending := .threw error }) := by
  induction items generalizing start with
  | nil =>
      exact ⟨[], start, by simp, initially, .inl ⟨rfl, by simp⟩⟩
  | cons item items inductionHypothesis =>
      cases controlEq : transducer.control start item with
      | done =>
          refine ⟨[], start, by simp, initially, .inr ⟨item, by simp, .inl ?_⟩⟩
          simp [run, controlEq]
      | fail error =>
          refine ⟨[], start, by simp, initially,
            .inr ⟨item, by simp, .inr ⟨error, controlEq, ?_⟩⟩⟩
          simp [run, controlEq]
      | proceed =>
          obtain ⟨invariantAfter, outputsNow⟩ :=
            keeps start item List.mem_cons_self initially controlEq
          obtain ⟨outputs, state, areOutputs, invariant, ends⟩ :=
            inductionHypothesis
              (fun state other isItem =>
                keeps state other (List.mem_cons_of_mem _ isItem))
              invariantAfter
          refine ⟨transducer.output start item ++ outputs, state,
            List.forall_mem_append.2 ⟨outputsNow, areOutputs⟩, invariant, ?_⟩
          have runCons : transducer.run ending start (item :: items) =
              (transducer.run ending (transducer.after start item)
                items).prepend (transducer.output start item) := by
            simp only [run, controlEq]
          rw [runCons]
          rcases ends with ⟨runEq, proceeds⟩ | ⟨last, isItem, stops⟩
          · refine .inl ⟨by rw [runEq, Yields.prepend_prepend], ?_⟩
            exact List.forall_mem_cons.2 ⟨⟨start, controlEq⟩, proceeds⟩
          · refine .inr ⟨last, List.mem_cons_of_mem _ isItem, ?_⟩
            rcases stops with ⟨isDone, runEq⟩ | ⟨error, fails, runEq⟩
            · exact .inl ⟨isDone, by rw [runEq, List.append_assoc]; rfl⟩
            · exact .inr ⟨error, fails, by rw [runEq, List.append_assoc]; rfl⟩

/-- A transducer that always goes on ends with its source. -/
theorem exists_outputs_of_proceeds
    {Invariant : σ → Prop}
    {Output : ο → Prop}
    {source : Yields ι ε}
    (proceeds : ∀ state item, transducer.control state item = .proceed)
    (keeps : ∀ state, ∀ item ∈ source.items, Invariant state →
      Invariant (transducer.after state item) ∧
        ∀ chunk ∈ transducer.output state item, Output chunk)
    {start : σ}
    (initially : Invariant start) :
    ∃ outputs state, (∀ chunk ∈ outputs, Output chunk) ∧ Invariant state ∧
      transducer.transduce start source =
        (transducer.run source.ending state []).prepend outputs := by
  obtain ⟨outputs, state, areOutputs, invariant, ends⟩ :=
    exists_last_state source.ending
      (fun state item isItem holds _ => keeps state item isItem holds) initially
  refine ⟨outputs, state, areOutputs, invariant, ?_⟩
  rcases ends with ⟨runEq, -⟩ | ⟨item, -, ⟨isDone, -⟩ | ⟨error, fails, -⟩⟩
  · exact runEq
  · rw [proceeds] at isDone
    cases isDone
  · rw [proceeds] at fails
    cases fails

end Invariants

end Transducer

end Foundations
end AiGateway
