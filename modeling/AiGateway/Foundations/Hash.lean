import AiGateway.Foundations.Expiry
import AiGateway.Foundations.OrderedMap

/-!
# Hashes

A hash keeps a value for each of its fields under one key, so the fields lapse
together. A field that is set on a key that is not there creates the key without
a time to live.
-/

namespace AiGateway
namespace Foundations

/-- The fields of a hash with their values. -/
abbrev Hash (κ : Type u) (β : Type v) := List (κ × β)

namespace Key

variable {κ : Type u} {β : Type v} [DecidableEq κ]

/-- HGET. -/
def hget (clock : Nat) (field : κ) (key : Key (Hash κ β)) : Option β :=
  (key.read clock).bind fun fields => fields.lookup field

/-- HSET. -/
def hset (clock : Nat) (field : κ) (value : β) (key : Key (Hash κ β)) :
    Key (Hash κ β) :=
  match key.visible clock with
  | none => some { value := [(field, value)] }
  | some entry =>
      some { entry with value := OrderedMap.set entry.value field value }

/-- HINCRBY: a missing field counts as zero. -/
def hincrBy (clock : Nat) (field : κ) (amount : Int) (key : Key (Hash κ Int)) :
    Key (Hash κ Int) :=
  key.hset clock field ((key.hget clock field).getD 0 + amount)

/-- What a field reads after one was set. -/
theorem hget_hset
    (clock : Nat)
    (field other : κ)
    (value : β)
    (key : Key (Hash κ β)) :
    (key.hset clock field value).hget clock other =
      if other = field then some value else key.hget clock other := by
  unfold hset hget
  cases alive : key.visible clock with
  | none =>
      have written : ([(field, value)] : Hash κ β).lookup other =
          if other = field then some value else none := by
        by_cases isField : other = field
        · simp [isField]
        · rw [List.lookup_cons, beq_false_of_ne isField, if_neg isField]
          rfl
      simp [read, alive, Entry.live, written]
  | some entry =>
      have live := (eq_some_of_visible alive).2
      have stillLive :
          ({ entry with
              value := OrderedMap.set entry.value field value } :
            Entry (Hash κ β)).live clock = true := live
      simp [read, alive, stillLive, OrderedMap.lookup_set]

/-- What a field reads after one was incremented. -/
theorem hget_hincrBy
    (clock : Nat)
    (field other : κ)
    (amount : Int)
    (key : Key (Hash κ Int)) :
    (key.hincrBy clock field amount).hget clock other =
      if other = field then some ((key.hget clock field).getD 0 + amount)
      else key.hget clock other :=
  hget_hset clock field other _ key

/-- With a new time to live the fields read the same until they all lapse. -/
theorem hget_pexpire
    (clock ttl later : Nat)
    (field : κ)
    (key : Key (Hash κ β)) :
    (key.pexpire clock ttl).hget later field =
      if later < clock + ttl then key.hget clock field else none := by
  unfold hget
  rw [read_pexpire]
  split_ifs
  · rfl
  · rfl

end Key

end Foundations
end AiGateway
