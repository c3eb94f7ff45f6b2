import AiGateway.Foundations.Expiry
import Mathlib.Data.List.Nodup

/-!
# Sorted sets

A sorted set gives each of its members one score. The members are listed in
the order in which they were last added; the commands of this module do not
depend on that order, except that a listing follows it. A key holding a sorted
set is deleted when its last member is removed.
-/

namespace AiGateway
namespace Foundations

/-- Members with integer scores, no member twice and at least one. -/
structure SortedSet (μ : Type u) where
  /-- The members and their scores. -/
  entries : List (μ × Int)
  /-- A member has one score. -/
  distinct : (entries.map Prod.fst).Nodup
  /-- A set without members is not stored. -/
  nonempty : entries ≠ []
  deriving DecidableEq

namespace SortedSet

variable {μ : Type u}

/-- The set with one member. -/
def single (member : μ) (score : Int) : SortedSet μ where
  entries := [(member, score)]
  distinct := List.nodup_singleton member
  nonempty := List.cons_ne_nil _ _

/-- The subset of the entries that satisfy a test, if there are any. -/
def restrict (keep : μ × Int → Bool) (set : SortedSet μ) :
    Option (SortedSet μ) :=
  if nonempty : set.entries.filter keep ≠ [] then
    some
      { entries := set.entries.filter keep
        distinct := set.distinct.sublist (List.filter_sublist.map Prod.fst)
        nonempty := nonempty }
  else
    none

/-- Add a member, or give a member its new score. -/
def add [DecidableEq μ] (member : μ) (score : Int) (set : SortedSet μ) :
    SortedSet μ where
  entries := set.entries.filter (fun entry => entry.1 ≠ member) ++
    [(member, score)]
  distinct := by
    rw [List.map_append, List.nodup_append]
    refine ⟨set.distinct.sublist (List.filter_sublist.map Prod.fst),
      List.nodup_singleton member, ?_⟩
    intro left leftMember right rightMember equal
    obtain ⟨entry, kept, rfl⟩ := List.mem_map.1 leftMember
    rw [List.map_singleton, List.mem_singleton] at rightMember
    have differs := (List.mem_filter.1 kept).2
    simp only [ne_eq, decide_not, Bool.not_eq_eq_eq_not, Bool.not_true,
      decide_eq_false_iff_not] at differs
    exact differs (equal.trans rightMember)
  nonempty := List.append_ne_nil_of_right_ne_nil _ (List.cons_ne_nil _ _)

/-- A set is determined by its listing. -/
theorem eq_of_entries
    {left right : SortedSet μ}
    (same : left.entries = right.entries) : left = right := by
  cases left
  cases right
  cases same
  rfl

/-- The entries of a subset that is not empty. -/
theorem entries_of_restrict
    {keep : μ × Int → Bool}
    {set part : SortedSet μ}
    (isPart : set.restrict keep = some part) :
    part.entries = set.entries.filter keep := by
  unfold restrict at isPart
  split at isPart
  · cases isPart
    rfl
  · cases isPart

theorem restrict_eq_none_iff (keep : μ × Int → Bool) (set : SortedSet μ) :
    set.restrict keep = none ↔ set.entries.filter keep = [] := by
  unfold restrict
  split <;> simp_all

/-- A test that every entry satisfies keeps the whole set. -/
theorem restrict_eq_self
    {keep : μ × Int → Bool}
    {set : SortedSet μ}
    (all : set.entries.filter keep = set.entries) :
    set.restrict keep = some set := by
  cases restricted : set.restrict keep with
  | none =>
      rw [restrict_eq_none_iff, all] at restricted
      exact absurd restricted set.nonempty
  | some part =>
      rw [eq_of_entries ((entries_of_restrict restricted).trans all)]

/-- A restriction is determined by the entries it keeps. -/
theorem restrict_congr
    {leftKeep rightKeep : μ × Int → Bool}
    {left right : SortedSet μ}
    (same : left.entries.filter leftKeep = right.entries.filter rightKeep) :
    left.restrict leftKeep = right.restrict rightKeep := by
  cases restricted : right.restrict rightKeep with
  | none =>
      rw [restrict_eq_none_iff] at restricted ⊢
      exact same.trans restricted
  | some part =>
      have entries := entries_of_restrict restricted
      cases other : left.restrict leftKeep with
      | none =>
          rw [restrict_eq_none_iff, same, ← entries] at other
          exact absurd other part.nonempty
      | some otherPart =>
          have equal : otherPart = part := eq_of_entries
            (by rw [entries_of_restrict other, same, entries])
          rw [equal]

/-- Restricting by a weaker test first makes no difference. -/
theorem restrict_bind_restrict
    {first second : μ × Int → Bool}
    (stronger : ∀ entry, second entry = true → first entry = true)
    (set : SortedSet μ) :
    (set.restrict first).bind (restrict second) = set.restrict second := by
  have filtered : (set.entries.filter first).filter second =
      set.entries.filter second := by
    rw [List.filter_filter]
    apply List.filter_congr
    intro entry _
    cases kept : second entry with
    | true => simp [stronger entry kept]
    | false => simp
  cases restricted : set.restrict first with
  | none =>
      rw [restrict_eq_none_iff] at restricted
      rw [restricted] at filtered
      exact ((restrict_eq_none_iff second set).2 filtered.symm).symm
  | some part =>
      rw [Option.bind_some]
      apply restrict_congr
      rw [entries_of_restrict restricted, filtered]

/-- A fresh member is listed last. -/
theorem entries_add_of_fresh [DecidableEq μ]
    {member : μ}
    {set : SortedSet μ}
    (fresh : member ∉ set.entries.map Prod.fst)
    (score : Int) :
    (set.add member score).entries = set.entries ++ [(member, score)] := by
  change set.entries.filter (fun entry => entry.1 ≠ member) ++
    [(member, score)] = _
  rw [List.filter_eq_self.2]
  intro entry entryMember
  have differs : entry.1 ≠ member := fun equal =>
    fresh (equal ▸ List.mem_map_of_mem entryMember)
  simpa using differs

end SortedSet

/-- Is a score in a closed range? -/
def scoreInRange (low high : Int) (entry : μ × Int) : Bool :=
  decide (low ≤ entry.2 ∧ entry.2 ≤ high)

namespace Key

variable {μ : Type u}

/-- The members and scores a command executed at `clock` sees; a missing key
is an empty set. -/
def members (clock : Nat) (key : Key (SortedSet μ)) : List (μ × Int) :=
  match key.visible clock with
  | none => []
  | some entry => entry.value.entries

/-- ZADD. -/
def zadd [DecidableEq μ]
    (clock : Nat)
    (score : Int)
    (member : μ)
    (key : Key (SortedSet μ)) : Key (SortedSet μ) :=
  match key.visible clock with
  | none => some { value := SortedSet.single member score }
  | some entry => some { entry with value := entry.value.add member score }

/-- ZREMRANGEBYSCORE. -/
def zremrangebyscore
    (clock : Nat)
    (low high : Int)
    (key : Key (SortedSet μ)) : Key (SortedSet μ) :=
  (key.visible clock).bind fun entry =>
    (entry.value.restrict fun stored => !scoreInRange low high stored).map
      fun kept => { entry with value := kept }

/-- ZRANGEBYSCORE. -/
def zrangebyscore
    (clock : Nat)
    (low high : Int)
    (key : Key (SortedSet μ)) : List μ :=
  ((key.members clock).filter (scoreInRange low high)).map Prod.fst

/-- ZCARD. -/
def zcard (clock : Nat) (key : Key (SortedSet μ)) : Nat :=
  (key.members clock).length

/-- The score of the first member of ZRANGE 0 0 WITHSCORES. -/
def zleast (clock : Nat) (key : Key (SortedSet μ)) : Option Int :=
  ((key.members clock).map Prod.snd).min?

@[simp] theorem members_none (clock : Nat) :
    Key.members clock (none : Key (SortedSet μ)) = [] := rfl

@[simp] theorem members_some (clock : Nat) (entry : Entry (SortedSet μ)) :
    Key.members clock (some entry) =
      if entry.live clock then entry.value.entries else [] := by
  unfold members
  by_cases live : entry.live clock <;> simp [live]

@[simp] theorem members_visible (clock : Nat) (key : Key (SortedSet μ)) :
    Key.members clock (key.visible clock) = key.members clock := by
  rw [members, members, visible_visible]

@[simp] theorem zrangebyscore_visible
    (clock : Nat)
    (low high : Int)
    (key : Key (SortedSet μ)) :
    (key.visible clock).zrangebyscore clock low high =
      key.zrangebyscore clock low high := by
  rw [zrangebyscore, zrangebyscore, members_visible]

@[simp] theorem zremrangebyscore_visible
    (clock : Nat)
    (low high : Int)
    (key : Key (SortedSet μ)) :
    (key.visible clock).zremrangebyscore clock low high =
      key.zremrangebyscore clock low high := by
  rw [zremrangebyscore, zremrangebyscore, visible_visible]

/-- Between two instants a set either lapses or has the same members. -/
theorem members_later
    (key : Key (SortedSet μ))
    {clock later : Nat}
    (order : clock ≤ later) :
    key.members later = [] ∨ key.members later = key.members clock := by
  rcases visible_later key order with gone | same
  · exact Or.inl (by rw [members, gone])
  · exact Or.inr (by rw [members, members, same])

/-- Removing members leaves the deadline of the set. -/
theorem deadline_zremrangebyscore
    {clock : Nat}
    {low high : Int}
    {key : Key (SortedSet μ)}
    {stored : Entry (SortedSet μ)}
    (isStored : key.zremrangebyscore clock low high = some stored) :
    ∃ old, key = some old ∧ old.deadline = stored.deadline := by
  obtain ⟨old, alive, isPart⟩ := Option.bind_eq_some_iff.1 isStored
  obtain ⟨part, _, rfl⟩ := Option.map_eq_some_iff.1 isPart
  exact ⟨old, (eq_some_of_visible alive).1, rfl⟩

/-- Removing a range of scores keeps the members outside it, in their order,
and they are seen as long as the set they come from would be. -/
theorem members_zremrangebyscore
    {clock later : Nat}
    (order : clock ≤ later)
    (low high : Int)
    (key : Key (SortedSet μ)) :
    (key.zremrangebyscore clock low high).members later =
      (key.members later).filter fun stored =>
        !scoreInRange low high stored := by
  unfold zremrangebyscore
  cases alive : key.visible clock with
  | none =>
      have gone : key.visible later = none := by
        rcases visible_later key order with gone | same
        · exact gone
        · exact same.trans alive
      rw [members, members, gone]
      rfl
  | some entry =>
      obtain ⟨rfl, live⟩ := eq_some_of_visible alive
      rw [Option.bind_some, members_some]
      cases restricted : entry.value.restrict
          fun stored => !scoreInRange low high stored with
      | none =>
          rw [SortedSet.restrict_eq_none_iff] at restricted
          split
          · exact restricted.symm
          · rfl
      | some part =>
          rw [Option.map_some, members_some,
            SortedSet.entries_of_restrict restricted]
          change (if entry.live later then _ else _) = _
          split <;> rfl

/-- Removing a range in which there is no score. -/
theorem zremrangebyscore_of_none
    {clock : Nat}
    {low high : Int}
    {key : Key (SortedSet μ)}
    (outside : key.zrangebyscore clock low high = []) :
    key.zremrangebyscore clock low high = key.visible clock := by
  unfold zremrangebyscore
  cases alive : key.visible clock with
  | none => rfl
  | some entry =>
      have entries : key.members clock = entry.value.entries := by
        rw [members, alive]
      have allKept : entry.value.entries.filter
          (fun stored => !scoreInRange low high stored) =
            entry.value.entries := by
        refine List.filter_eq_self.2 fun stored isStored => ?_
        have excluded := List.filter_eq_nil_iff.1
          (List.map_eq_nil_iff.1 outside) stored (entries ▸ isStored)
        rw [Bool.not_eq_true] at excluded
        rw [excluded]
        rfl
      rw [Option.bind_some, SortedSet.restrict_eq_self allKept]
      rfl

/-- Removing a range before a wider one is removed makes no difference. -/
theorem zremrangebyscore_zremrangebyscore
    {clock later : Nat}
    (order : clock ≤ later)
    (low : Int)
    {high higher : Int}
    (wider : high ≤ higher)
    (key : Key (SortedSet μ)) :
    (key.zremrangebyscore clock low high).zremrangebyscore later low higher =
      key.zremrangebyscore later low higher := by
  have stronger : ∀ stored : μ × Int,
      (!scoreInRange low higher stored) = true →
        (!scoreInRange low high stored) = true := by
    intro stored
    simp only [scoreInRange, Bool.not_eq_true', decide_eq_false_iff_not]
    omega
  cases alive : key.visible clock with
  | none =>
      have gone : key.visible later = none := by
        rcases visible_later key order with gone | same
        · exact gone
        · exact same.trans alive
      rw [zremrangebyscore, zremrangebyscore, zremrangebyscore, alive, gone]
      rfl
  | some entry =>
      obtain ⟨rfl, live⟩ := eq_some_of_visible alive
      have composed := SortedSet.restrict_bind_restrict stronger entry.value
      have first : zremrangebyscore clock low high (some entry) =
          (entry.value.restrict fun stored =>
            !scoreInRange low high stored).map
              fun kept => { entry with value := kept } := by
        rw [zremrangebyscore, alive]
        rfl
      rw [first, zremrangebyscore, zremrangebyscore, visible_some]
      cases restricted : entry.value.restrict
          fun stored => !scoreInRange low high stored with
      | none =>
          rw [restricted, Option.bind_none] at composed
          cases entry.live later with
          | false => rfl
          | true => simp [← composed]
      | some part =>
          rw [restricted, Option.bind_some] at composed
          rw [Option.map_some, visible_some]
          change (if entry.live later then _ else _ : Key (SortedSet μ)).bind _ = _
          cases entry.live later with
          | false => rfl
          | true => simp [composed]

/-- A fresh member is added at the end of the listing. -/
theorem members_zadd_of_fresh [DecidableEq μ]
    {clock : Nat}
    {member : μ}
    {key : Key (SortedSet μ)}
    (fresh : member ∉ (key.members clock).map Prod.fst)
    (score : Int) :
    (key.zadd clock score member).members clock =
      key.members clock ++ [(member, score)] := by
  unfold zadd
  cases alive : key.visible clock with
  | none => simp [members, alive, Entry.live, SortedSet.single]
  | some entry =>
      obtain ⟨rfl, live⟩ := eq_some_of_visible alive
      rw [members_some, if_pos live] at fresh
      rw [members_some _ entry, if_pos live,
        ← SortedSet.entries_add_of_fresh fresh score]
      change Key.members clock
        (some { entry with value := entry.value.add member score }) = _
      rw [members_some]
      exact if_pos live

/-- Setting a deadline in the future changes no member. -/
@[simp] theorem members_pexpire
    (clock : Nat)
    {ttl : Nat}
    (positive : 0 < ttl)
    (key : Key (SortedSet μ)) :
    (key.pexpire clock ttl).members clock = key.members clock := by
  unfold pexpire
  cases alive : key.visible clock with
  | none => simp [members, alive]
  | some entry =>
      obtain ⟨rfl, live⟩ := eq_some_of_visible alive
      rw [members_some _ entry, if_pos live]
      change Key.members clock
        (some { entry with deadline := some (clock + ttl) }) = _
      rw [members_some]
      exact if_pos (decide_eq_true (Nat.lt_add_of_pos_right positive))

end Key

end Foundations
end AiGateway
