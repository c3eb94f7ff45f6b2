import Mathlib.Data.List.Chain
import Mathlib.Data.List.Count
import Mathlib.Data.List.Nodup
import Mathlib.Data.List.Perm.Subperm
import Mathlib.Order.Lattice

/-!
# Reading a changing table page by page

A page is a stretch of a listing of the table, newest entries first, in which
entries of one time may come in any order. A reader asks for one page after the
other while the table changes.

An entry that no other entry shares its time with stands behind exactly the newer
ones. As long as none of these goes, it does not move to the front, so a reader
that goes on to the end has come upon it.
-/

namespace AiGateway
namespace Foundations

section Listing

variable {α : Type u} {κ : Type v} [LinearOrder κ]

/-- A listing of a table, newest first. -/
structure NewestFirst
    (time : α → κ)
    (table listing : List α) : Prop where
  perm : listing.Perm table
  sorted : listing.Pairwise fun first second => time second ≤ time first

/-- The number of entries that are newer than an instant. -/
def newerThan
    (time : α → κ)
    (table : List α)
    (instant : κ) : Nat :=
  table.countP fun entry => instant < time entry

/-- No other entry of a table has the time of an entry. -/
def AloneAt
    (time : α → κ)
    (table : List α)
    (entry : α) : Prop :=
  ∀ other ∈ table, time other = time entry → other = entry

variable {time : α → κ} {table listing : List α} {entry : α}

/-- A table that has lost no newer entry has at least as many. -/
theorem newerThan_le_of_subset
    {later : List α}
    {instant : κ}
    (nodup : table.Nodup)
    (noneLost : ∀ entry ∈ table, instant < time entry → entry ∈ later) :
    newerThan time table instant ≤ newerThan time later instant := by
  rw [newerThan, newerThan, List.countP_eq_length_filter, List.countP_eq_length_filter]
  refine (List.subperm_of_subset (nodup.filter _) fun entry isNewer => ?_).length_le
  obtain ⟨isEntry, newer⟩ := List.mem_filter.1 isNewer
  exact List.mem_filter.2 ⟨noneLost entry isEntry (of_decide_eq_true newer), newer⟩

theorem NewestFirst.newerThan_eq
    (newestFirst : NewestFirst time table listing)
    (instant : κ) :
    newerThan time listing instant = newerThan time table instant :=
  newestFirst.perm.countP_eq _

/-- In a sorted listing an entry stands behind the newer ones. -/
theorem getElem?_newerThan
    (sorted : listing.Pairwise fun first second => time second ≤ time first)
    (isEntry : entry ∈ listing)
    (alone : AloneAt time listing entry) :
    listing[newerThan time listing (time entry)]? = some entry := by
  induction listing with
  | nil => cases isEntry
  | cons first rest inductionHypothesis =>
      obtain ⟨notNewer, sortedRest⟩ := List.pairwise_cons.1 sorted
      by_cases isFirst : first = entry
      · subst isFirst
        have noneNewer : newerThan time (first :: rest) (time first) = 0 := by
          rw [newerThan, List.countP_eq_zero]
          intro other isOther
          rcases List.mem_cons.1 isOther with rfl | isOther
          · simp
          · simpa using notNewer other isOther
        rw [noneNewer]
        rfl
      · have inRest : entry ∈ rest :=
          (List.mem_cons.1 isEntry).resolve_left (Ne.symm isFirst)
        have newer : time entry < time first :=
          lt_of_le_of_ne (notNewer entry inRest)
            fun same => isFirst (alone first List.mem_cons_self same.symm)
        have oneMore : newerThan time (first :: rest) (time entry) =
            newerThan time rest (time entry) + 1 := by
          rw [newerThan, List.countP_cons_of_pos (by simpa using newer)]
          rfl
        rw [oneMore, List.getElem?_cons_succ]
        exact inductionHypothesis sortedRest inRest
          fun other isOther => alone other (List.mem_cons_of_mem _ isOther)

/-- The place of an entry in every listing. -/
theorem NewestFirst.getElem?_newerThan
    (newestFirst : NewestFirst time table listing)
    (isEntry : entry ∈ table)
    (alone : AloneAt time table entry) :
    listing[newerThan time table (time entry)]? = some entry := by
  rw [← newestFirst.newerThan_eq]
  exact Foundations.getElem?_newerThan newestFirst.sorted
    (newestFirst.perm.mem_iff.2 isEntry)
    fun other isOther => alone other (newestFirst.perm.mem_iff.1 isOther)

/-- Where all times differ there is one listing. -/
theorem NewestFirst.unique
    {other : List α}
    (newestFirst : NewestFirst time table listing)
    (otherToo : NewestFirst time table other)
    (alone : ∀ entry ∈ table, AloneAt time table entry) :
    other = listing := by
  refine (otherToo.perm.trans newestFirst.perm.symm).eq_of_pairwise
    (fun first second isFirst isSecond atMost atLeast => ?_)
    otherToo.sorted newestFirst.sorted
  exact alone second (newestFirst.perm.mem_iff.1 isSecond) first
    (otherToo.perm.mem_iff.1 isFirst) (le_antisymm atLeast atMost)

end Listing

section Page

variable {α : Type u} {κ : Type v} [LinearOrder κ]

/-- `ORDER BY time DESC LIMIT limit OFFSET offset`. -/
def IsPage
    (time : α → κ)
    (table : List α)
    (offset limit : Nat)
    (page : List α) : Prop :=
  ∃ listing, NewestFirst time table listing ∧
    page = (listing.drop offset).take limit

variable {time : α → κ} {table page : List α} {entry : α} {offset limit : Nat}

namespace IsPage

theorem length_eq (isPage : IsPage time table offset limit page) :
    page.length = min limit (table.length - offset) := by
  obtain ⟨listing, newestFirst, rfl⟩ := isPage
  rw [List.length_take, List.length_drop, newestFirst.perm.length_eq]

theorem mem_table
    (isPage : IsPage time table offset limit page)
    (isEntry : entry ∈ page) : entry ∈ table := by
  obtain ⟨listing, newestFirst, rfl⟩ := isPage
  exact newestFirst.perm.mem_iff.1 (List.mem_of_mem_drop (List.mem_of_mem_take isEntry))

/-- A page holds the entries whose place is in its stretch. -/
theorem mem
    (isPage : IsPage time table offset limit page)
    (isEntry : entry ∈ table)
    (alone : AloneAt time table entry)
    (fromOffset : offset ≤ newerThan time table (time entry))
    (beforeEnd : newerThan time table (time entry) < offset + limit) :
    entry ∈ page := by
  obtain ⟨listing, newestFirst, rfl⟩ := isPage
  have place := newestFirst.getElem?_newerThan isEntry alone
  obtain ⟨more, placeEq⟩ := Nat.exists_eq_add_of_le fromOffset
  rw [placeEq] at place beforeEnd
  refine List.mem_of_getElem? (i := more) ?_
  rw [List.getElem?_take_of_lt (Nat.lt_of_add_lt_add_left beforeEnd),
    List.getElem?_drop, place]

end IsPage

/-- What there is for a reader that asks for one page of `limit` entries after the
other: each time the table, as it then is, and its answer. -/
def Reads
    (time : α → κ)
    (limit : Nat) : Nat → List (List α × List α) → Prop
  | _, [] => True
  | offset, (table, page) :: visits =>
      IsPage time table offset limit page ∧ Reads time limit (offset + limit) visits

/-- A reader stops at a page that is not full. -/
def EndsShort (limit : Nat) (visits : List (List α × List α)) : Prop :=
  ∃ visit, visits.getLast? = some visit ∧ visit.2.length < limit

variable {visits : List (List α × List α)}

theorem EndsShort.tail
    {visit : List α × List α}
    (short : EndsShort limit (visit :: visits))
    (more : visits ≠ []) : EndsShort limit visits := by
  rwa [EndsShort, List.getLast?_cons_of_ne_nil more] at short

namespace Reads

theorem isPage
    (reads : Reads time limit offset visits) :
    ∀ visit ∈ visits, ∃ offset, IsPage time visit.1 offset limit visit.2 := by
  induction visits generalizing offset with
  | nil => exact nofun
  | cons visit visits inductionHypothesis =>
      exact List.forall_mem_cons.2 ⟨⟨offset, reads.1⟩, inductionHypothesis reads.2⟩

/-- An entry that stays alone at its time and does not move to the front is come
upon. -/
theorem mem_of_endsShort
    (reads : Reads time limit offset visits)
    (short : EndsShort limit visits)
    (stays : ∀ visit ∈ visits, entry ∈ visit.1)
    (alone : ∀ visit ∈ visits, AloneAt time visit.1 entry)
    (noneGoes : visits.IsChain fun before after =>
      newerThan time before.1 (time entry) ≤ newerThan time after.1 (time entry))
    (ahead : ∀ visit ∈ visits.head?, offset ≤ newerThan time visit.1 (time entry)) :
    ∃ visit ∈ visits, entry ∈ visit.2 := by
  induction visits generalizing offset with
  | nil =>
      obtain ⟨visit, isLast, -⟩ := short
      cases isLast
  | cons visit visits inductionHypothesis =>
      obtain ⟨isPage, rest⟩ := reads
      have isEntry := stays visit List.mem_cons_self
      have isAlone := alone visit List.mem_cons_self
      have notPassed := ahead visit rfl
      by_cases onPage : newerThan time visit.1 (time entry) < offset + limit
      · exact ⟨visit, List.mem_cons_self,
          isPage.mem isEntry isAlone notPassed onPage⟩
      rw [Nat.not_lt] at onPage
      have more : visits ≠ [] := by
        rintro rfl
        -- the entry is behind this page, so the page is full
        obtain ⟨last, isLast, lastShort⟩ := short
        obtain rfl : visit = last := Option.some_inj.1 isLast
        have fits : newerThan time visit.1 (time entry) < visit.1.length :=
          lt_of_le_of_ne List.countP_le_length fun all =>
            absurd (List.countP_eq_length.1 all entry isEntry) (by simp)
        rw [isPage.length_eq] at lastShort
        omega
      obtain ⟨found, isFound, onIt⟩ := inductionHypothesis rest (short.tail more)
        (fun other isOther => stays other (List.mem_cons_of_mem _ isOther))
        (fun other isOther => alone other (List.mem_cons_of_mem _ isOther))
        noneGoes.tail
        (fun next isNext => onPage.trans (noneGoes.rel_head? isNext))
      exact ⟨found, List.mem_cons_of_mem _ isFound, onIt⟩

/-- A reader of a table that does not change gets its listing. -/
theorem flatten_eq
    {listing : List α}
    (reads : Reads time limit offset visits)
    (short : EndsShort limit visits)
    (newestFirst : NewestFirst time table listing)
    (alone : ∀ entry ∈ table, AloneAt time table entry)
    (unchanged : ∀ visit ∈ visits, visit.1.Perm table) :
    (visits.map Prod.snd).flatten = listing.drop offset := by
  induction visits generalizing offset with
  | nil =>
      obtain ⟨visit, isLast, -⟩ := short
      cases isLast
  | cons visit visits inductionHypothesis =>
      obtain ⟨isPage, rest⟩ := reads
      have sameRows := unchanged visit List.mem_cons_self
      have lengthEq := isPage.length_eq
      obtain ⟨other, otherNewestFirst, pageEq⟩ := isPage
      obtain rfl : other = listing := newestFirst.unique
        ⟨otherNewestFirst.perm.trans sameRows, otherNewestFirst.sorted⟩ alone
      rw [List.map_cons, List.flatten_cons, pageEq]
      by_cases more : visits = []
      · subst more
        obtain ⟨last, isLast, lastShort⟩ := short
        obtain rfl : visit = last := Option.some_inj.1 isLast
        rw [lengthEq, sameRows.length_eq, ← newestFirst.perm.length_eq] at lastShort
        rw [List.map_nil, List.flatten_nil, List.append_nil, List.take_of_length_le]
        rw [List.length_drop]
        omega
      · rw [inductionHypothesis rest (short.tail more)
          fun other isOther => unchanged other (List.mem_cons_of_mem _ isOther),
          ← List.drop_drop, List.take_append_drop]

end Reads

end Page

end Foundations
end AiGateway
