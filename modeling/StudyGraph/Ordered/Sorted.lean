import StudyGraph.Text.Order

/-!
# Maps in order of keys

A finite map from texts, kept as an association list with strictly rising keys. The order of keys
is that of their characters' code points, which is also the order of their UTF-8 bytes. A sorted
map is determined by what it holds, whatever the order in which it was filled.
-/

namespace StudyGraph

/-- An association list with strictly rising keys. -/
@[ext] structure SortedMap (ν : Type) where
  /-- The keys with their values, least key first. -/
  entries : List (Text × ν)
  /-- The keys rise strictly. -/
  sorted : entries.Pairwise fun a b => Text.before Char.toNat a.1 b.1 = true

namespace SortedMap

variable {ν : Type}

/-- The map without keys. -/
def empty : SortedMap ν := ⟨[], List.Pairwise.nil⟩

instance : Inhabited (SortedMap ν) := ⟨empty⟩

instance [DecidableEq ν] : DecidableEq (SortedMap ν) := fun m n =>
  decidable_of_iff (m.entries = n.entries) SortedMap.ext_iff.symm

/-- The keys, least first. -/
def keys (m : SortedMap ν) : List Text := m.entries.map Prod.fst

/-- Whether the map has no keys. -/
def isEmpty (m : SortedMap ν) : Bool := m.entries.isEmpty

/-- The value of the first entry with key `k`. -/
def find? (k : Text) : List (Text × ν) → Option ν
  | [] => none
  | (k', v) :: rest => if k' = k then some v else find? k rest

/-- The value at a key. -/
def get? (m : SortedMap ν) (k : Text) : Option ν := find? k m.entries

/-- Put the value `f` of what is at `k` in its place among rising keys. -/
def change (k : Text) (f : Option ν → ν) : List (Text × ν) → List (Text × ν)
  | [] => [(k, f none)]
  | (k', v) :: rest =>
    if Text.before Char.toNat k k' then (k, f none) :: (k', v) :: rest
    else if k' = k then (k', f (some v)) :: rest
    else (k', v) :: change k f rest

theorem fst_mem_change {k : Text} {f : Option ν → ν} {es : List (Text × ν)} {e : Text × ν}
    (h : e ∈ change k f es) : e.1 = k ∨ e ∈ es := by
  induction es with
  | nil => simp_all [change]
  | cons x es ih =>
    obtain ⟨k', v⟩ := x
    rw [change] at h
    split at h
    · simp only [List.mem_cons] at h ⊢
      rcases h with rfl | h
      · exact Or.inl rfl
      · exact Or.inr h
    · split at h
      · next hk =>
        simp only [List.mem_cons] at h ⊢
        rcases h with rfl | h
        · exact Or.inl hk
        · exact Or.inr (Or.inr h)
      · simp only [List.mem_cons] at h ⊢
        rcases h with rfl | h
        · exact Or.inr (Or.inl rfl)
        · exact (ih h).imp_right Or.inr

theorem sorted_change {k : Text} {f : Option ν → ν} {es : List (Text × ν)}
    (h : es.Pairwise fun a b => Text.before Char.toNat a.1 b.1 = true) :
    (change k f es).Pairwise fun a b => Text.before Char.toNat a.1 b.1 = true := by
  induction es with
  | nil => simp [change]
  | cons x es ih =>
    obtain ⟨k', v⟩ := x
    obtain ⟨hx, hes⟩ := List.pairwise_cons.1 h
    rw [change]
    split
    · next hk =>
      refine List.pairwise_cons.2 ⟨?_, h⟩
      intro e he
      rcases List.mem_cons.1 he with rfl | he
      · exact hk
      · exact Text.before_trans hk (hx e he)
    · next hk =>
      split
      · exact List.pairwise_cons.2 ⟨hx, hes⟩
      · next hne =>
        refine List.pairwise_cons.2 ⟨?_, ih hes⟩
        intro e he
        rcases fst_mem_change he with h' | h'
        · rw [h']
          exact Text.before_of_not_before Text.injective_toNat hk hne
        · exact hx e h'

/-- Change the value at `k` to `f` of what is there. -/
def upsert (m : SortedMap ν) (k : Text) (f : Option ν → ν) : SortedMap ν :=
  ⟨change k f m.entries, sorted_change m.sorted⟩

/-- Put a value at a key, in place of any that is there. -/
def insert (m : SortedMap ν) (k : Text) (v : ν) : SortedMap ν :=
  m.upsert k fun _ => v

/-- The pairs of a list, inserted one after the other: of equal keys the last counts. -/
def ofList (es : List (Text × ν)) : SortedMap ν :=
  es.foldl (fun m e => m.insert e.1 e.2) empty

end SortedMap

end StudyGraph
