import AiGateway.Foundations.SortedSet
import Mathlib.Data.List.Perm.Subperm

/-!
# Sorted sets covered by others

One key covers another when it holds every entry of it and is not gone before
it. The commands that keep one set a copy of another with shorter windows
preserve this: a removal of more from the smaller set, and an addition to both.
-/

namespace AiGateway
namespace Foundations

namespace Key

variable {μ : Type u}

/-- What a command sees has no entry twice. -/
theorem nodup_members (key : Key (SortedSet μ)) (clock : Nat) :
    (key.members clock).Nodup := by
  unfold members
  cases key.visible clock with
  | none => exact List.nodup_nil
  | some stored => exact stored.value.distinct.of_map

/-- What is left after a removal is there at once. -/
theorem visible_zremrangebyscore
    (clock : Nat)
    (low high : Int)
    (key : Key (SortedSet μ)) :
    (key.zremrangebyscore clock low high).visible clock =
      key.zremrangebyscore clock low high := by
  unfold zremrangebyscore
  cases seen : key.visible clock with
  | none => rfl
  | some stored =>
      have live := (eq_some_of_visible seen).2
      rw [Option.bind_some]
      cases stored.value.restrict fun stored => !scoreInRange low high stored with
      | none => rfl
      | some kept =>
          rw [Option.map_some, visible_some]
          exact if_pos live

/-- A set to which a member is added and which then gets a deadline is there
under that deadline, with the member under its new score and the others as
they were. -/
theorem exists_pexpire_zadd [DecidableEq μ]
    (clock : Nat)
    (score : Int)
    (member : μ)
    (key : Key (SortedSet μ))
    (ttl : Nat) :
    ∃ set, (key.zadd clock score member).pexpire clock ttl =
        some { value := set, deadline := some (clock + ttl) } ∧
      ∀ entry, entry ∈ set.entries ↔
        entry = (member, score) ∨
          entry ∈ key.members clock ∧ entry.1 ≠ member := by
  unfold zadd members
  cases seen : key.visible clock with
  | none =>
      exact ⟨SortedSet.single member score, by simp [pexpire, Entry.live],
        by simp [SortedSet.single]⟩
  | some stored =>
      have live := (eq_some_of_visible seen).2
      have stillLive : ({ stored with
          value := stored.value.add member score } :
            Entry (SortedSet μ)).live clock = true := live
      refine ⟨stored.value.add member score,
        by simp [pexpire, stillLive], ?_⟩
      intro entry
      simp [SortedSet.add, or_comm]

end Key

/-- Every entry of the first set is one of the second, which lives as long. -/
def CoveredBy (inner outer : Key (SortedSet μ)) : Prop :=
  ∀ small, inner = some small → ∃ large, outer = some large ∧
    small.value.entries ⊆ large.value.entries ∧
    ∀ clock, small.live clock = true → large.live clock = true

namespace CoveredBy

variable {μ : Type u} {inner outer : Key (SortedSet μ)}

/-- A missing key is covered. -/
theorem of_none (outer : Key (SortedSet μ)) :
    CoveredBy none outer := by
  rintro small ⟨⟩

/-- Covered keys stay so when the keys that lapsed are dropped. -/
theorem visible
    (covered : CoveredBy inner outer)
    (clock : Nat) :
    CoveredBy (inner.visible clock) (outer.visible clock) := by
  intro small isVisible
  obtain ⟨stored, live⟩ := Key.eq_some_of_visible isVisible
  obtain ⟨large, rfl, isSubset, outlives⟩ := covered small stored
  refine ⟨large, ?_, isSubset, outlives⟩
  rw [Key.visible_some, if_pos (outlives clock live)]

/-- At any time the smaller set shows no member that the larger one hides. -/
theorem members_subset
    (covered : CoveredBy inner outer)
    (clock : Nat) :
    inner.members clock ⊆ outer.members clock := by
  cases seen : inner.visible clock with
  | none =>
      rw [Key.members, seen]
      exact List.nil_subset _
  | some small =>
      obtain ⟨large, isVisible, isSubset, _⟩ :=
        covered.visible clock small seen
      rw [Key.members, Key.members, seen, isVisible]
      exact isSubset

/-- So it does not have more of them. -/
theorem zcard_le
    (covered : CoveredBy inner outer)
    (clock : Nat) :
    inner.zcard clock ≤ outer.zcard clock := by
  have distinct : (inner.members clock).Nodup := inner.nodup_members clock
  exact (distinct.subperm (covered.members_subset clock)).length_le

/-- Removing a wider range from the smaller set. -/
theorem zremrangebyscore
    (covered : CoveredBy inner outer)
    (clock : Nat)
    (low : Int)
    {high higher : Int}
    (wider : high ≤ higher) :
    CoveredBy (inner.zremrangebyscore clock low higher)
      (outer.zremrangebyscore clock low high) := by
  intro small isStored
  obtain ⟨old, seen, isPart⟩ := Option.bind_eq_some_iff.1 isStored
  obtain ⟨part, restricted, rfl⟩ := Option.map_eq_some_iff.1 isPart
  obtain ⟨large, isVisible, isSubset, outlives⟩ :=
    covered.visible clock old seen
  have kept : ∀ entry ∈ part.entries,
      entry ∈ large.value.entries.filter
        fun stored => !scoreInRange low high stored := by
    intro entry isEntry
    rw [SortedSet.entries_of_restrict restricted, List.mem_filter] at isEntry
    refine List.mem_filter.2 ⟨isSubset isEntry.1, ?_⟩
    have outside := isEntry.2
    simp only [scoreInRange, Bool.not_eq_true', decide_eq_false_iff_not]
      at outside ⊢
    omega
  cases remains : large.value.restrict
      fun stored => !scoreInRange low high stored with
  | none =>
      rw [SortedSet.restrict_eq_none_iff] at remains
      obtain ⟨entry, isEntry⟩ := List.exists_mem_of_ne_nil _ part.nonempty
      have inNone := kept entry isEntry
      rw [remains] at inNone
      cases inNone
  | some rest =>
      refine ⟨{ large with value := rest }, ?_, ?_, outlives⟩
      · rw [Key.zremrangebyscore, isVisible, Option.bind_some, remains,
          Option.map_some]
      · intro entry isEntry
        rw [SortedSet.entries_of_restrict remains]
        exact kept entry isEntry

/-- Adding one member to both sets, which then live for at least as long. -/
theorem zadd_pexpire [DecidableEq μ]
    (covered : CoveredBy inner outer)
    (clock : Nat)
    (score : Int)
    (member : μ)
    {ttl longer : Nat}
    (outlasts : ttl ≤ longer) :
    CoveredBy ((inner.zadd clock score member).pexpire clock ttl)
      ((outer.zadd clock score member).pexpire clock longer) := by
  intro small isStored
  obtain ⟨smallSet, smallEq, smallEntries⟩ :=
    Key.exists_pexpire_zadd clock score member inner ttl
  obtain ⟨largeSet, largeEq, largeEntries⟩ :=
    Key.exists_pexpire_zadd clock score member outer longer
  rw [smallEq, Option.some.injEq] at isStored
  subst isStored
  refine ⟨_, largeEq, ?_, ?_⟩
  · intro entry isEntry
    refine (largeEntries entry).2 (((smallEntries entry).1 isEntry).imp_right ?_)
    exact And.imp_left fun isMember => covered.members_subset clock isMember
  · intro time live
    have before : time < clock + ttl := of_decide_eq_true live
    exact decide_eq_true (by omega)

end CoveredBy

end Foundations
end AiGateway
