import StudyGraph.Ordered.Set

/-!
# Maps in order of arrival

A finite map that remembers the order in which its keys came: an association list without repeated
keys. The one way to change a map is `upsert k f`, which rewrites the value at `k` in place, or
appends `k` with the value `f none`. Its laws are `get?_upsert` for the values and `keys_upsert`
for the keys and their order: a new key comes last, and a known key keeps its place.
-/

namespace StudyGraph

/-- An association list without repeated keys. -/
@[ext] structure OrderedMap (κ ν : Type) where
  /-- The keys with their values, first arrival first. -/
  entries : List (κ × ν)
  /-- No key is listed twice. -/
  nodup_keys : (entries.map Prod.fst).Nodup

namespace OrderedMap

variable {κ ν : Type}

/-- The map without keys. -/
def empty : OrderedMap κ ν := ⟨[], List.nodup_nil⟩

instance : Inhabited (OrderedMap κ ν) := ⟨empty⟩

instance [DecidableEq κ] [DecidableEq ν] : DecidableEq (OrderedMap κ ν) := fun m n =>
  decidable_of_iff (m.entries = n.entries) OrderedMap.ext_iff.symm

/-- The keys, first arrival first. -/
def keys (m : OrderedMap κ ν) : List κ := m.entries.map Prod.fst

/-- The values, in the order of their keys. -/
def values (m : OrderedMap κ ν) : List ν := m.entries.map Prod.snd

/-- The number of keys. -/
def size (m : OrderedMap κ ν) : Nat := m.entries.length

@[simp] theorem entries_empty : (empty : OrderedMap κ ν).entries = [] := rfl

theorem nodup_keys' (m : OrderedMap κ ν) : m.keys.Nodup := m.nodup_keys

variable [DecidableEq κ]

/-! ## Association lists -/

/-- The value of the first entry with key `k`. -/
def find? (k : κ) : List (κ × ν) → Option ν
  | [] => none
  | (k', v) :: rest => if k' = k then some v else find? k rest

/-- Rewrite the value of the first entry with key `k`, or append an entry. -/
def change (k : κ) (f : Option ν → ν) : List (κ × ν) → List (κ × ν)
  | [] => [(k, f none)]
  | (k', v) :: rest => if k' = k then (k', f (some v)) :: rest else (k', v) :: change k f rest

theorem map_fst_change (k : κ) (f : Option ν → ν) (es : List (κ × ν)) :
    (change k f es).map Prod.fst =
      if k ∈ es.map Prod.fst then es.map Prod.fst else es.map Prod.fst ++ [k] := by
  induction es with
  | nil => simp [change]
  | cons e es ih =>
    obtain ⟨k', v⟩ := e
    by_cases h : k' = k
    · simp [change, h]
    · have h' : k ≠ k' := fun e => h e.symm
      simp only [change, h, if_false, List.map_cons, ih, List.mem_cons, h', false_or]
      split <;> simp_all

theorem find?_change (k k' : κ) (f : Option ν → ν) (es : List (κ × ν)) :
    find? k' (change k f es) = if k = k' then some (f (find? k es)) else find? k' es := by
  induction es with
  | nil => by_cases h : k = k' <;> simp [change, find?, h]
  | cons e es ih =>
    obtain ⟨j, v⟩ := e
    by_cases hj : j = k
    · subst hj
      by_cases h : j = k' <;> simp [change, find?, h]
    · by_cases h : k = k'
      · subst h
        simp [change, find?, hj, ih]
      · simp only [change, hj, if_false, find?, ih, h]

/-! ## Maps -/

/-- The value at a key. -/
def get? (m : OrderedMap κ ν) (k : κ) : Option ν := find? k m.entries

/-- Change the value at `k` to `f` of what is there. -/
def upsert (m : OrderedMap κ ν) (k : κ) (f : Option ν → ν) : OrderedMap κ ν where
  entries := change k f m.entries
  nodup_keys := by
    rw [map_fst_change]
    split
    · exact m.nodup_keys
    · next h =>
      refine List.nodup_append.2 ⟨m.nodup_keys, by simp, ?_⟩
      intro x hx y hy
      obtain rfl : y = k := by simpa using hy
      rintro rfl
      exact h hx

/-- Put a value at a key, in place of any that is there. -/
def insert (m : OrderedMap κ ν) (k : κ) (v : ν) : OrderedMap κ ν :=
  m.upsert k fun _ => v

/-- The pairs of a list, inserted one after the other. -/
def ofList (es : List (κ × ν)) : OrderedMap κ ν :=
  es.foldl (fun m e => m.insert e.1 e.2) empty

theorem keys_upsert (m : OrderedMap κ ν) (k : κ) (f : Option ν → ν) :
    (m.upsert k f).keys = if k ∈ m.keys then m.keys else m.keys ++ [k] :=
  map_fst_change k f m.entries

theorem get?_upsert (m : OrderedMap κ ν) (k k' : κ) (f : Option ν → ν) :
    (m.upsert k f).get? k' = if k = k' then some (f (m.get? k)) else m.get? k' :=
  find?_change k k' f m.entries

@[simp] theorem get?_empty (k : κ) : (empty : OrderedMap κ ν).get? k = none := rfl

end OrderedMap

end StudyGraph
