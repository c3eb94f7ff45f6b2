import Mathlib.Data.Option.Basic

/-!
# Keys with a time to live

A key holds a value and, when one was set, the instant at which it stops being
returned. A key written at time `s` with a time to live of `d` is live exactly
at the times below `s + d`. Commands read the clock of the server, which does
not move while a script runs.
-/

namespace AiGateway
namespace Foundations

/-- A stored value and the instant from which it is gone, if there is one. -/
structure Entry (α : Type u) where
  /-- The stored value. -/
  value : α
  /-- The instant from which the entry is gone. -/
  deadline : Option Nat := none
  deriving DecidableEq, Repr

/-- An entry is live below its deadline, and for ever without one. -/
def Entry.live (entry : Entry α) (clock : Nat) : Bool :=
  entry.deadline.all fun deadline => decide (clock < deadline)

/-- A key of the store; `none` when nothing was written or it was deleted. -/
abbrev Key (α : Type u) := Option (Entry α)

namespace Key

/-- The entry a command executed at `clock` works on. -/
def visible (clock : Nat) (key : Key α) : Key α :=
  key.filter fun entry => entry.live clock

/-- GET. -/
def read (clock : Nat) (key : Key α) : Option α :=
  (key.visible clock).map Entry.value

/-- SET without an expiry clears any earlier one. -/
def set (value : α) : Key α :=
  some { value := value }

/-- SET with a time to live in milliseconds. -/
def setPx (clock ttl : Nat) (value : α) : Key α :=
  some { value := value, deadline := some (clock + ttl) }

/-- PEXPIRE; it does nothing on a key that is not there. -/
def pexpire (clock ttl : Nat) (key : Key α) : Key α :=
  (key.visible clock).map fun entry =>
    { entry with deadline := some (clock + ttl) }

/-- INCR and DECR by an amount: a missing key counts as zero and is created
without a time to live; a live one keeps its deadline. -/
def incrBy (clock : Nat) (amount : Int) (key : Key Int) : Key Int :=
  match key.visible clock with
  | none => some { value := amount }
  | some entry => some { entry with value := entry.value + amount }

/-- DEL. -/
def del : Key α := none

@[simp] theorem visible_none (clock : Nat) :
    Key.visible clock (none : Key α) = none := rfl

@[simp] theorem read_none (clock : Nat) :
    Key.read clock (none : Key α) = none := rfl

@[simp] theorem visible_some (clock : Nat) (entry : Entry α) :
    Key.visible clock (some entry) =
      if entry.live clock then some entry else none := by
  by_cases alive : entry.live clock <;> simp [Key.visible, Option.filter, alive]

theorem read_setPx (clock ttl now : Nat) (value : α) :
    (Key.setPx clock ttl value).read now =
      if now < clock + ttl then some value else none := by
  by_cases before : now < clock + ttl <;>
    simp [Key.setPx, Key.read, Entry.live, before]

/-- A visible entry is the stored one, and it is live. -/
theorem eq_some_of_visible
    {key : Key α}
    {entry : Entry α}
    {clock : Nat}
    (alive : key.visible clock = some entry) :
    key = some entry ∧ entry.live clock = true := by
  cases key with
  | none => cases alive
  | some stored =>
      rw [visible_some] at alive
      split at alive
      · rename_i live
        cases alive
        exact ⟨rfl, live⟩
      · cases alive

/-- A counter that is incremented and given a new deadline. -/
theorem pexpire_incrBy (clock ttl : Nat) (amount : Int) (key : Key Int) :
    (key.incrBy clock amount).pexpire clock ttl =
      some
        { value := (key.read clock).getD 0 + amount
          deadline := some (clock + ttl) } := by
  unfold incrBy
  cases alive : key.visible clock with
  | none => simp [pexpire, read, alive, Entry.live]
  | some entry =>
      have live := (eq_some_of_visible alive).2
      have stillLive :
          ({ entry with value := entry.value + amount } : Entry Int).live clock =
            true := live
      simp [pexpire, read, alive, stillLive]

/-- INCR answers with the value it leaves. -/
theorem read_incrBy (clock : Nat) (amount : Int) (key : Key Int) :
    (key.incrBy clock amount).read clock =
      some ((key.read clock).getD 0 + amount) := by
  unfold incrBy
  cases alive : key.visible clock with
  | none => simp [read, alive, Entry.live]
  | some entry =>
      have live := (eq_some_of_visible alive).2
      have stillLive :
          ({ entry with value := entry.value + amount } : Entry Int).live clock =
            true := live
      simp [read, alive, stillLive]

/-- A new deadline holds from now on. -/
theorem read_pexpire (clock ttl : Nat) (key : Key α) (later : Nat) :
    (key.pexpire clock ttl).read later =
      if later < clock + ttl then key.read clock else none := by
  unfold pexpire read
  cases key.visible clock with
  | none => simp
  | some entry =>
      by_cases before : later < clock + ttl <;> simp [Entry.live, before]

/-- A key with a new deadline is there until then. -/
theorem visible_pexpire
    {clock ttl later : Nat}
    (key : Key α)
    (before : later < clock + ttl) :
    (key.pexpire clock ttl).visible later = key.pexpire clock ttl := by
  unfold pexpire
  cases key.visible clock with
  | none => rfl
  | some entry => simp [Entry.live, before]

/-- Selecting the live entry twice at one instant changes nothing. -/
@[simp] theorem visible_visible (clock : Nat) (key : Key α) :
    (key.visible clock).visible clock = key.visible clock := by
  cases key with
  | none => rfl
  | some entry =>
      by_cases alive : entry.live clock <;> simp [alive]

/-- A key that is live at a later instant was live before. -/
theorem visible_of_visible_later
    {key : Key α}
    {entry : Entry α}
    {clock later : Nat}
    (order : clock ≤ later)
    (alive : key.visible later = some entry) :
    key.visible clock = some entry := by
  obtain ⟨rfl, live⟩ := eq_some_of_visible alive
  have liveBefore : entry.live clock = true := by
    unfold Entry.live at live ⊢
    cases deadline : entry.deadline with
    | none => rfl
    | some instant =>
        simp only [deadline, Option.all_some, decide_eq_true_eq] at live ⊢
        omega
  rw [visible_some, if_pos liveBefore]

/-- Between two instants a key either lapses or reads the same. -/
theorem visible_later
    (key : Key α)
    {clock later : Nat}
    (order : clock ≤ later) :
    key.visible later = none ∨ key.visible later = key.visible clock := by
  cases alive : key.visible later with
  | none => exact Or.inl rfl
  | some entry => exact Or.inr (visible_of_visible_later order alive).symm

/-- What is seen later of what is seen now is what is seen later. -/
theorem visible_visible_later
    (key : Key α)
    {clock later : Nat}
    (order : clock ≤ later) :
    (key.visible clock).visible later = key.visible later := by
  cases alive : key.visible clock with
  | none =>
      rcases visible_later key order with gone | same
      · rw [gone]
        rfl
      · rw [same, alive]
        rfl
  | some entry => rw [(eq_some_of_visible alive).1]

end Key

end Foundations
end AiGateway
