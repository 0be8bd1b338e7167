import Mathlib.Data.List.Induction
import Mathlib.Data.List.Nodup
import StudyGraph.Ordered.Sorted

/-!
# Entries of maps in order of keys

Keys that rise strictly are listed once (`SortedMap.nodup_keys`), so a map is determined by which
entries it has, whatever their order of arrival (`ext_mem`). To insert a pair drops the entry at its
key and no other (`mem_entries_insert`). A map is restricted to some of its keys by `filter`, and
`union` inserts the entries of a second map. As long as all entries come from one map, none of them
is ever replaced (`mem_entries_foldl_insert`).
-/

namespace StudyGraph.SortedMap

variable {ν : Type} {k : Text} {v : ν} {e : Text × ν} {es : List (Text × ν)} {m n : SortedMap ν}

/-! ## Entries -/

theorem ne_of_before {s t : Text} (h : Text.before Char.toNat s t = true) : s ≠ t := by
  rintro rfl
  simp at h

/-- No key is listed twice. -/
theorem nodup_keys (m : SortedMap ν) : m.keys.Nodup :=
  List.pairwise_map.2 (m.sorted.imp ne_of_before)

/-- A key has one value. -/
theorem eq_of_fst_eq {d : Text × ν} (hd : d ∈ m.entries) (he : e ∈ m.entries) (h : d.1 = e.1) :
    d = e :=
  List.inj_on_of_nodup_map m.nodup_keys hd he h

/-- A map is determined by which entries it has. -/
theorem ext_mem (h : ∀ e, e ∈ m.entries ↔ e ∈ n.entries) : m = n := by
  have hperm : m.entries.Perm n.entries :=
    (List.perm_ext_iff_of_nodup (.of_map _ m.nodup_keys) (.of_map _ n.nodup_keys)).2 h
  refine SortedMap.ext (hperm.eq_of_pairwise (fun d e _ _ hde hed => ?_) m.sorted n.sorted)
  have hself : Text.before Char.toNat d.1 d.1 = true := Text.before_trans hde hed
  exact absurd rfl (ne_of_before hself)

theorem find?_eq_none_of_ne (h : ∀ e ∈ es, e.1 ≠ k) : find? k es = none := by
  induction es with
  | nil => rfl
  | cons e es ih =>
    obtain ⟨he, hes⟩ := List.forall_mem_cons.1 h
    rw [find?, if_neg he, ih hes]

/-! ## Changing an entry -/

/-- What is changed among rising keys is the entry at one key. -/
theorem mem_change_iff {f : Option ν → ν}
    (h : es.Pairwise fun a b => Text.before Char.toNat a.1 b.1 = true) :
    e ∈ change k f es ↔ e = (k, f (find? k es)) ∨ e ∈ es ∧ e.1 ≠ k := by
  induction es with
  | nil => simp [change, find?]
  | cons d es ih =>
    obtain ⟨k', v⟩ := d
    obtain ⟨hd, hes⟩ := List.pairwise_cons.1 h
    rw [change]
    split
    · next hk =>
      -- The key comes before all others, so it is new.
      have htail : ∀ d ∈ es, d.1 ≠ k := fun d hmem =>
        (ne_of_before (Text.before_trans hk (hd d hmem))).symm
      have hne : ∀ d ∈ (k', v) :: es, d.1 ≠ k :=
        List.forall_mem_cons.2 ⟨(ne_of_before hk).symm, htail⟩
      rw [find?_eq_none_of_ne hne, List.mem_cons]
      exact or_congr_right ⟨fun hmem => ⟨hmem, hne e hmem⟩, And.left⟩
    · split
      · next hk =>
        obtain rfl := hk
        have hne : ∀ d ∈ es, d.1 ≠ k' := fun d hmem => (ne_of_before (hd d hmem)).symm
        rw [find?, if_pos rfl, List.mem_cons, List.mem_cons]
        refine or_congr_right ⟨fun hmem => ⟨Or.inr hmem, hne e hmem⟩, ?_⟩
        rintro ⟨rfl | hmem, hne'⟩
        · exact absurd rfl hne'
        · exact hmem
      · next hk =>
        rw [find?, if_neg hk, List.mem_cons, List.mem_cons, ih hes]
        constructor
        · rintro (rfl | he | ⟨hmem, hne⟩)
          · exact Or.inr ⟨Or.inl rfl, hk⟩
          · exact Or.inl he
          · exact Or.inr ⟨Or.inr hmem, hne⟩
        · rintro (he | ⟨rfl | hmem, hne⟩)
          · exact Or.inr (Or.inl he)
          · exact Or.inl rfl
          · exact Or.inr (Or.inr ⟨hmem, hne⟩)

theorem mem_entries_insert : e ∈ (m.insert k v).entries ↔ e = (k, v) ∨ e ∈ m.entries ∧ e.1 ≠ k :=
  mem_change_iff m.sorted

/-! ## Parts of a map -/

/-- The map with those keys alone that satisfy `p`. -/
def filter (p : Text → Bool) (m : SortedMap ν) : SortedMap ν :=
  ⟨m.entries.filter fun e => p e.1, m.sorted.filter _⟩

@[simp] theorem mem_entries_filter {p : Text → Bool} :
    e ∈ (m.filter p).entries ↔ e ∈ m.entries ∧ p e.1 = true :=
  List.mem_filter

theorem filter_eq_self {p : Text → Bool} (h : ∀ key ∈ m.keys, p key = true) : m.filter p = m :=
  ext_mem fun _ => mem_entries_filter.trans
    ⟨And.left, fun he => ⟨he, h _ (List.mem_map_of_mem he)⟩⟩

/-- The entries of two maps, those of the second in place of others at their keys. -/
def union (m n : SortedMap ν) : SortedMap ν :=
  n.entries.foldl (fun m e => m.insert e.1 e.2) m

/-- Entries of one map can be inserted without loss. -/
theorem mem_entries_foldl_insert {all : SortedMap ν} (hes : ∀ e ∈ es, e ∈ all.entries)
    (hm : ∀ e ∈ m.entries, e ∈ all.entries) :
    e ∈ (es.foldl (fun m e => m.insert e.1 e.2) m).entries ↔ e ∈ m.entries ∨ e ∈ es := by
  induction es generalizing m with
  | nil => simp
  | cons d es ih =>
    obtain ⟨hd, hes⟩ := List.forall_mem_cons.1 hes
    have hinsert : ∀ e, e ∈ (m.insert d.1 d.2).entries ↔ e = d ∨ e ∈ m.entries := by
      intro e
      rw [mem_entries_insert]
      refine ⟨Or.imp_right And.left, ?_⟩
      rintro (rfl | he)
      · exact Or.inl rfl
      · by_cases hkey : e.1 = d.1
        · exact Or.inl (eq_of_fst_eq (hm e he) hd hkey)
        · exact Or.inr ⟨he, hkey⟩
    have hm' : ∀ e ∈ (m.insert d.1 d.2).entries, e ∈ all.entries := by
      intro e he
      rcases (hinsert e).1 he with rfl | he
      · exact hd
      · exact hm e he
    rw [List.foldl_cons, ih hes hm', hinsert, List.mem_cons, or_comm (a := e = d), or_assoc]

theorem mem_entries_union {all : SortedMap ν} (hm : ∀ e ∈ m.entries, e ∈ all.entries)
    (hn : ∀ e ∈ n.entries, e ∈ all.entries) :
    e ∈ (m.union n).entries ↔ e ∈ m.entries ∨ e ∈ n.entries :=
  mem_entries_foldl_insert hn hm

/-- Pairs with rising keys come one after the other as they are. -/
theorem entries_ofList (h : es.Pairwise fun a b => Text.before Char.toNat a.1 b.1 = true) :
    (ofList es).entries = es := by
  let all : SortedMap ν := ⟨es, h⟩
  have hes : ∀ e ∈ es, e ∈ all.entries := fun _ => id
  have hempty : ∀ e ∈ (empty : SortedMap ν).entries, e ∈ all.entries := fun _ he =>
    absurd he List.not_mem_nil
  have hlist : ofList es = all := ext_mem fun e =>
    (mem_entries_foldl_insert hes hempty).trans (or_iff_right List.not_mem_nil)
  rw [hlist]

/-- Parts of one map make the part with the keys of any of them. -/
theorem foldl_union_filter {ι : Type} (p : ι → Text → Bool) (is : List ι) :
    (is.map fun i => m.filter (p i)).foldl union .empty = m.filter fun key => is.any (p · key) := by
  induction is using List.reverseRecOn with
  | nil => exact ext_mem fun e => by simp [empty]
  | append_singleton is i ih =>
    rw [List.map_append, List.foldl_append, ih]
    refine ext_mem fun e => ?_
    have hunion := mem_entries_union (e := e) (m := m.filter fun key => is.any (p · key))
      (n := m.filter (p i)) (fun _ h => (mem_entries_filter.1 h).1)
      (fun _ h => (mem_entries_filter.1 h).1)
    simp only [List.map_cons, List.map_nil, List.foldl_cons, List.foldl_nil, hunion,
      mem_entries_filter, List.any_append, List.any_cons, List.any_nil, Bool.or_false,
      Bool.or_eq_true]
    exact and_or_left.symm

end StudyGraph.SortedMap
