/-!
# Sets in order of arrival

A finite set that remembers the order in which its members came: a list without duplicates.
`insert` appends a new member and leaves a set that has the member already as it is
(`toList_insert`); `union` inserts the members of a second set one after the other. The first
arrival fixes a member's place, so `ofList` keeps the first of equal elements.
-/

namespace StudyGraph

/-- A list without duplicates, read as a set with an order of arrival. -/
@[ext] structure OrderedSet (α : Type) where
  /-- The members, first arrival first. -/
  toList : List α
  /-- No member is listed twice. -/
  nodup : toList.Nodup

namespace OrderedSet

variable {α : Type}

/-- The set without members. -/
def empty : OrderedSet α := ⟨[], List.nodup_nil⟩

instance : Inhabited (OrderedSet α) := ⟨empty⟩

instance : Membership α (OrderedSet α) := ⟨fun s a => a ∈ s.toList⟩

instance [DecidableEq α] : DecidableEq (OrderedSet α) := fun s t =>
  decidable_of_iff (s.toList = t.toList) OrderedSet.ext_iff.symm

instance [DecidableEq α] (a : α) (s : OrderedSet α) : Decidable (a ∈ s) :=
  inferInstanceAs (Decidable (a ∈ s.toList))

@[simp] theorem mem_toList {s : OrderedSet α} {a : α} : a ∈ s.toList ↔ a ∈ s := Iff.rfl

@[simp] theorem toList_empty : (empty : OrderedSet α).toList = [] := rfl

/-- The number of members. -/
def size (s : OrderedSet α) : Nat := s.toList.length

variable [DecidableEq α]

/-- The set with one more member, which comes last if it is new. -/
def insert (s : OrderedSet α) (a : α) : OrderedSet α :=
  if h : a ∈ s then s
  else ⟨s.toList ++ [a], by
    refine List.nodup_append.2 ⟨s.nodup, by simp, ?_⟩
    intro x hx y hy
    obtain rfl : y = a := by simpa using hy
    rintro rfl
    exact h hx⟩

theorem toList_insert (s : OrderedSet α) (a : α) :
    (s.insert a).toList = if a ∈ s then s.toList else s.toList ++ [a] := by
  unfold insert
  split <;> rfl

@[simp] theorem mem_insert {s : OrderedSet α} {a b : α} : b ∈ s.insert a ↔ b ∈ s ∨ b = a := by
  rw [← mem_toList, toList_insert]
  split
  · next h => exact ⟨Or.inl, fun hb => hb.elim id fun e => e ▸ h⟩
  · simp

/-- The members of `s`, then those of the list that are not in `s`, in the order of the list. -/
def insertAll (s : OrderedSet α) (as : List α) : OrderedSet α :=
  as.foldl insert s

/-- The members of `s`, then the further members of `t`. -/
def union (s t : OrderedSet α) : OrderedSet α :=
  s.insertAll t.toList

/-- The elements of a list, each at its first place. -/
def ofList (as : List α) : OrderedSet α :=
  empty.insertAll as

@[simp] theorem mem_insertAll {s : OrderedSet α} {as : List α} {b : α} :
    b ∈ s.insertAll as ↔ b ∈ s ∨ b ∈ as := by
  unfold insertAll
  induction as generalizing s with
  | nil => simp
  | cons a as ih => simp [ih, or_assoc]

@[simp] theorem mem_union {s t : OrderedSet α} {b : α} : b ∈ s.union t ↔ b ∈ s ∨ b ∈ t := by
  simp [union]

@[simp] theorem mem_ofList {as : List α} {b : α} : b ∈ ofList as ↔ b ∈ as := by
  simp only [ofList, mem_insertAll]
  constructor
  · rintro (h | h)
    · simp [← mem_toList] at h
    · exact h
  · exact Or.inr

end OrderedSet

end StudyGraph
