import StudyGraph.Ordered.Map

/-!
# Blending maps in order of arrival

Everything that arrives at a graph arrives under a key : a new key is appended with its value, and
at a known key the newcomer is joined to what is there. `OrderedMap.blend op` is this step for a
joining operation `op`, and `OrderedMap.blendAll op` takes a list of arrivals. Blending is
associative where `op` is (`AssocOn`) : to blend a map that was itself blended out of arrivals is to
blend the arrivals (`blendAll_entries_blendAll`), with the same order of keys. The order of keys
follows the first arrivals alone (`keySet_blendAll`), and values at new keys are appended
(`entries_blendAll_of_fresh`). To insert is to blend where the newcomer always wins
(`ofList_eq_blendAll`).
-/

set_option linter.unusedSectionVars false

namespace StudyGraph

/-! ## Sets -/

namespace OrderedSet

variable {α : Type} [DecidableEq α]

theorem insert_of_mem {s : OrderedSet α} {a : α} (h : a ∈ s) : s.insert a = s := by
  ext1
  rw [toList_insert, if_pos h]

theorem insertAll_append (s : OrderedSet α) (as bs : List α) :
    s.insertAll (as ++ bs) = (s.insertAll as).insertAll bs :=
  List.foldl_append

theorem insertAll_of_mem {s : OrderedSet α} {as : List α} (h : ∀ a ∈ as, a ∈ s) :
    s.insertAll as = s := by
  induction as with
  | nil => rfl
  | cons a as ih =>
    have ha : s.insertAll (a :: as) = (s.insert a).insertAll as := rfl
    rw [ha, insert_of_mem (h a (by simp))]
    exact ih fun b hb => h b (by simp [hb])

@[simp] theorem union_empty (s : OrderedSet α) : s.union empty = s := rfl

theorem union_insert (s t : OrderedSet α) (a : α) :
    s.union (t.insert a) = (s.union t).insert a := by
  unfold union
  rw [toList_insert]
  split
  · next h =>
    have hmem : a ∈ s.insertAll t.toList := mem_insertAll.2 (Or.inr h)
    rw [insert_of_mem hmem]
  · rw [insertAll_append]
    rfl

theorem union_insertAll (s t : OrderedSet α) (as : List α) :
    s.union (t.insertAll as) = (s.union t).insertAll as := by
  induction as generalizing t with
  | nil => rfl
  | cons a as ih =>
    have hleft : t.insertAll (a :: as) = (t.insert a).insertAll as := rfl
    have hright : (s.union t).insertAll (a :: as) = ((s.union t).insert a).insertAll as := rfl
    rw [hleft, hright, ih, union_insert]

theorem union_ofList (s : OrderedSet α) (as : List α) : s.union (ofList as) = s.insertAll as := by
  rw [ofList, union_insertAll, union_empty]

theorem union_assoc (s t u : OrderedSet α) : (s.union t).union u = s.union (t.union u) :=
  (union_insertAll s t u.toList).symm

/-- New members are appended as they come. -/
theorem toList_insertAll_of_fresh {s : OrderedSet α} {as : List α} (hfresh : ∀ a ∈ as, a ∉ s)
    (hnodup : as.Nodup) : (s.insertAll as).toList = s.toList ++ as := by
  induction as generalizing s with
  | nil => simp [insertAll]
  | cons a as ih =>
    obtain ⟨ha, has⟩ := List.nodup_cons.1 hnodup
    have hcons : s.insertAll (a :: as) = (s.insert a).insertAll as := rfl
    have hnew : (s.insert a).toList = s.toList ++ [a] := by
      rw [toList_insert, if_neg (hfresh a (by simp))]
    rw [hcons, ih ?_ has, hnew, List.append_assoc, List.singleton_append]
    intro b hb hmem
    rcases mem_insert.1 hmem with hbs | rfl
    · exact hfresh b (by simp [hb]) hbs
    · exact ha hb

theorem ofList_toList (s : OrderedSet α) : ofList s.toList = s := by
  ext1
  rw [ofList, toList_insertAll_of_fresh (by simp [← mem_toList]) s.nodup]
  rfl

end OrderedSet

/-! ## Maps -/

namespace OrderedMap

variable {κ ν : Type} [DecidableEq κ]

theorem find?_isSome_iff {k : κ} {es : List (κ × ν)} :
    (find? k es).isSome ↔ k ∈ es.map Prod.fst := by
  induction es with
  | nil => simp [find?]
  | cons e es ih =>
    obtain ⟨k', v⟩ := e
    by_cases h : k' = k
    · simp [find?, h]
    · have h' : k ≠ k' := fun e => h e.symm
      simp [find?, h, h', ih]

theorem find?_eq_none_iff {k : κ} {es : List (κ × ν)} :
    find? k es = none ↔ k ∉ es.map Prod.fst := by
  rw [← find?_isSome_iff, Option.not_isSome_iff_eq_none]

theorem mem_of_find? {k : κ} {v : ν} {es : List (κ × ν)} (h : find? k es = some v) :
    (k, v) ∈ es := by
  induction es with
  | nil => simp [find?] at h
  | cons e es ih =>
    obtain ⟨k', w⟩ := e
    rw [find?] at h
    split at h
    · next hk =>
      obtain rfl := Option.some.inj h
      simp [hk]
    · exact List.mem_cons_of_mem _ (ih h)

theorem find?_of_mem {k : κ} {v : ν} {es : List (κ × ν)} (hes : (es.map Prod.fst).Nodup)
    (h : (k, v) ∈ es) : find? k es = some v := by
  induction es with
  | nil => simp at h
  | cons e es ih =>
    obtain ⟨k', w⟩ := e
    obtain ⟨hk', hes⟩ := List.nodup_cons.1 hes
    rcases List.mem_cons.1 h with he | h
    · obtain ⟨rfl, rfl⟩ := Prod.mk.inj he
      simp [find?]
    · have hne : k' ≠ k := by
        intro hkk
        exact hk' (List.mem_map.2 ⟨(k, v), h, hkk.symm⟩)
      rw [find?, if_neg hne]
      exact ih hes h

theorem mem_entries_iff {m : OrderedMap κ ν} {k : κ} {v : ν} :
    (k, v) ∈ m.entries ↔ m.get? k = some v :=
  ⟨find?_of_mem m.nodup_keys, mem_of_find?⟩

theorem get?_eq_none_iff {m : OrderedMap κ ν} {k : κ} : m.get? k = none ↔ k ∉ m.keys :=
  find?_eq_none_iff

theorem entries_eq_of_find? : ∀ {es fs : List (κ × ν)}, (es.map Prod.fst).Nodup →
    es.map Prod.fst = fs.map Prod.fst → (∀ k, find? k es = find? k fs) → es = fs
  | [], [], _, _, _ => rfl
  | [], _ :: _, _, hk, _ => by simp at hk
  | _ :: _, [], _, hk, _ => by simp at hk
  | (k, v) :: es, (l, w) :: fs, hes, hk, hf => by
    simp only [List.map_cons, List.cons.injEq] at hk
    obtain ⟨rfl, hk⟩ := hk
    obtain ⟨hfresh, hes⟩ := List.nodup_cons.1 hes
    have hv : v = w := by simpa [find?] using hf k
    have htail : ∀ k', find? k' es = find? k' fs := by
      intro k'
      by_cases h : k = k'
      · subst h
        rw [find?_eq_none_iff.2 hfresh, find?_eq_none_iff.2 (hk ▸ hfresh)]
      · simpa [find?, h] using hf k'
    rw [hv, entries_eq_of_find? hes hk htail]

/-- A map is determined by the order of its keys and by its values. -/
theorem ext_get? {m n : OrderedMap κ ν} (hk : m.keys = n.keys) (hg : ∀ k, m.get? k = n.get? k) :
    m = n :=
  OrderedMap.ext (entries_eq_of_find? m.nodup_keys hk hg)

/-- The keys as a set in order of arrival. -/
def keySet (m : OrderedMap κ ν) : OrderedSet κ :=
  ⟨m.keys, m.nodup_keys'⟩

@[simp] theorem mem_keySet {m : OrderedMap κ ν} {k : κ} : k ∈ m.keySet ↔ k ∈ m.keys := Iff.rfl

theorem keySet_inj {ξ : Type} {m : OrderedMap κ ν} {n : OrderedMap κ ξ} :
    m.keySet = n.keySet ↔ m.keys = n.keys :=
  OrderedSet.ext_iff

theorem keySet_upsert (m : OrderedMap κ ν) (k : κ) (f : Option ν → ν) :
    (m.upsert k f).keySet = m.keySet.insert k := by
  ext1
  rw [OrderedSet.toList_insert]
  exact keys_upsert m k f

/-! ## Arrivals -/

variable (op : ν → ν → ν)

/-- A value arrives at a key : a known value is joined with it by `op`. -/
def blend (m : OrderedMap κ ν) (k : κ) (v : ν) : OrderedMap κ ν :=
  m.upsert k fun known => (known.map (op · v)).getD v

/-- Values arrive one after the other, each at its key. -/
def blendAll (m : OrderedMap κ ν) (es : List (κ × ν)) : OrderedMap κ ν :=
  es.foldl (fun m e => m.blend op e.1 e.2) m

@[simp] theorem blendAll_nil (m : OrderedMap κ ν) : m.blendAll op [] = m := rfl

@[simp] theorem blendAll_cons (m : OrderedMap κ ν) (e : κ × ν) (es : List (κ × ν)) :
    m.blendAll op (e :: es) = (m.blend op e.1 e.2).blendAll op es := rfl

theorem blendAll_append (m : OrderedMap κ ν) (es fs : List (κ × ν)) :
    m.blendAll op (es ++ fs) = (m.blendAll op es).blendAll op fs :=
  List.foldl_append

theorem keySet_blend (m : OrderedMap κ ν) (k : κ) (v : ν) :
    (m.blend op k v).keySet = m.keySet.insert k :=
  keySet_upsert m k _

theorem get?_blend (m : OrderedMap κ ν) (k k' : κ) (v : ν) :
    (m.blend op k v).get? k' =
      if k = k' then some (((m.get? k).map (op · v)).getD v) else m.get? k' :=
  get?_upsert m k k' _

/-- The keys and their order depend on the keys that arrive alone. -/
theorem keySet_blendAll (m : OrderedMap κ ν) (es : List (κ × ν)) :
    (m.blendAll op es).keySet = m.keySet.insertAll (es.map Prod.fst) := by
  induction es generalizing m with
  | nil => rfl
  | cons e es ih =>
    rw [blendAll_cons, ih, keySet_blend]
    rfl

theorem mem_keys_blendAll {m : OrderedMap κ ν} {es : List (κ × ν)} {k : κ} :
    k ∈ (m.blendAll op es).keys ↔ k ∈ m.keys ∨ k ∈ es.map Prod.fst := by
  rw [← mem_keySet, keySet_blendAll, OrderedSet.mem_insertAll, mem_keySet]

variable {op}

/-- Two arrivals at different keys may change places if the first key is known. -/
theorem blend_comm {m : OrderedMap κ ν} {k l : κ} {v w : ν} (hkl : k ≠ l) (hk : k ∈ m.keys) :
    (m.blend op l w).blend op k v = (m.blend op k v).blend op l w := by
  have hlk : l ≠ k := fun h => hkl h.symm
  refine ext_get? (keySet_inj.1 ?_) fun k' => ?_
  · simp only [keySet_blend]
    rw [OrderedSet.insert_of_mem (OrderedSet.mem_insert.2 (Or.inl hk)),
      OrderedSet.insert_of_mem (s := m.keySet) hk]
  · simp only [get?_blend]
    by_cases h1 : k = k'
    · subst h1
      simp [hlk]
    · by_cases h2 : l = k'
      · subst h2
        simp [hkl]
      · simp [h1, h2]

theorem blendAll_blend_comm {m : OrderedMap κ ν} {k : κ} {v : ν} {es : List (κ × ν)}
    (hk : k ∈ m.keys) (hes : k ∉ es.map Prod.fst) :
    (m.blend op k v).blendAll op es = (m.blendAll op es).blend op k v := by
  induction es generalizing m with
  | nil => rfl
  | cons e es ih =>
    obtain ⟨l, w⟩ := e
    simp only [List.map_cons, List.mem_cons, not_or] at hes
    have hk' : k ∈ (m.blend op l w).keys := by
      rw [← mem_keySet, keySet_blend]
      exact OrderedSet.mem_insert.2 (Or.inl hk)
    rw [blendAll_cons, blendAll_cons, ← ih hk' hes.2, blend_comm hes.1 hk]

/-- Two arrivals at one key are one arrival of both joined. -/
theorem blend_blend_self {m : OrderedMap κ ν} {k : κ} {v w : ν}
    (hop : ∀ u, op (op u v) w = op u (op v w)) :
    (m.blend op k v).blend op k w = m.blend op k (op v w) := by
  refine ext_get? (keySet_inj.1 ?_) fun k' => ?_
  · simp only [keySet_blend]
    exact OrderedSet.insert_of_mem (OrderedSet.mem_insert.2 (Or.inr rfl))
  · simp only [get?_blend]
    by_cases h : k = k'
    · cases hm : m.get? k <;> simp [h, hop]
    · simp [h]

/-- An arrival that changes nothing about a known value changes nothing. -/
theorem blend_of_absorbed {m : OrderedMap κ ν} {k : κ} {v w : ν} (hk : m.get? k = some v)
    (hop : op v w = v) : m.blend op k w = m := by
  have hmem : k ∈ m.keySet := List.mem_map.2 ⟨(k, v), mem_entries_iff.2 hk, rfl⟩
  refine ext_get? (keySet_inj.1 ?_) fun k' => ?_
  · rw [keySet_blend, OrderedSet.insert_of_mem hmem]
  · rw [get?_blend]
    split
    · next h =>
      rw [← h, hk]
      simp [hop]
    · rfl

/-! ## New keys -/

theorem change_of_notMem {k : κ} {f : Option ν → ν} {es : List (κ × ν)}
    (h : k ∉ es.map Prod.fst) : change k f es = es ++ [(k, f none)] := by
  induction es with
  | nil => rfl
  | cons e es ih =>
    simp only [List.map_cons, List.mem_cons, not_or] at h
    rw [change, if_neg fun heq => h.1 heq.symm, ih h.2, List.cons_append]

/-- Values at new keys are appended as they come. -/
theorem entries_blendAll_of_fresh {m : OrderedMap κ ν} {es : List (κ × ν)}
    (h : (m.keys ++ es.map Prod.fst).Nodup) : (m.blendAll op es).entries = m.entries ++ es := by
  induction es generalizing m with
  | nil => exact (List.append_nil _).symm
  | cons e es ih =>
    have hfresh : e.1 ∉ m.entries.map Prod.fst := fun hmem =>
      (List.nodup_append.1 h).2.2 e.1 hmem e.1 (by simp) rfl
    have hentries : (m.blend op e.1 e.2).entries = m.entries ++ [e] := change_of_notMem hfresh
    have hkeys : (m.blend op e.1 e.2).keys = m.keys ++ [e.1] := by
      rw [keys, hentries, List.map_append]
      rfl
    rw [blendAll_cons, ih, hentries, List.append_assoc, List.singleton_append]
    rw [hkeys, List.append_assoc, List.singleton_append]
    exact h

/-- The entries of a map, blended into the empty map, are the map. -/
theorem empty_blendAll_entries (m : OrderedMap κ ν) : empty.blendAll op m.entries = m :=
  OrderedMap.ext (entries_blendAll_of_fresh m.nodup_keys)

/-- To insert a value is to blend it in where the newcomer always wins. -/
theorem insert_eq_blend (m : OrderedMap κ ν) (k : κ) (v : ν) :
    m.insert k v = m.blend (fun _ new => new) k v := by
  have hnew : (fun _ => v) = fun known : Option ν => (known.map fun _ => v).getD v := by
    funext known
    cases known <;> rfl
  rw [insert, blend, hnew]

theorem ofList_eq_blendAll (es : List (κ × ν)) :
    ofList es = empty.blendAll (fun _ new => new) es := by
  simp only [ofList, blendAll, insert_eq_blend]

/-- A map is read back from its entries. -/
theorem ofList_entries (m : OrderedMap κ ν) : ofList m.entries = m := by
  rw [ofList_eq_blendAll, empty_blendAll_entries]

/-! ## Associativity -/

/-- On the values that `P` allows at a key, `op` is closed and associative. -/
structure AssocOn (P : κ → ν → Prop) (op : ν → ν → ν) : Prop where
  closed : ∀ {k v w}, P k v → P k w → P k (op v w)
  assoc : ∀ {k v w}, P k v → P k w → ∀ u, op (op u v) w = op u (op v w)

/-- Every value of the map is allowed at its key. -/
def All (P : κ → ν → Prop) (m : OrderedMap κ ν) : Prop :=
  ∀ e ∈ m.entries, P e.1 e.2

variable {P : κ → ν → Prop}

theorem all_empty : (empty : OrderedMap κ ν).All P := by
  simp [All]

theorem all_iff_get? {m : OrderedMap κ ν} : m.All P ↔ ∀ k v, m.get? k = some v → P k v :=
  ⟨fun h k v hv => h (k, v) (mem_entries_iff.2 hv), fun h e he => h e.1 e.2 (mem_entries_iff.1 he)⟩

theorem All.blend {m : OrderedMap κ ν} (hop : ∀ {k v w}, P k v → P k w → P k (op v w))
    (hm : m.All P) {k : κ} {v : ν} (hv : P k v) : (m.blend op k v).All P := by
  rw [all_iff_get?] at hm ⊢
  intro k' v' h
  rw [get?_blend] at h
  split at h
  · next hk =>
    subst hk
    obtain rfl := Option.some.inj h
    cases hg : m.get? k with
    | none => exact hv
    | some u => exact hop (hm k u hg) hv
  · exact hm k' v' h

theorem All.blendAll {m : OrderedMap κ ν} (hop : ∀ {k v w}, P k v → P k w → P k (op v w))
    (hm : m.All P) {es : List (κ × ν)} (hes : ∀ e ∈ es, P e.1 e.2) : (m.blendAll op es).All P := by
  induction es generalizing m with
  | nil => exact hm
  | cons e es ih =>
    exact ih (hm.blend hop (hes e (by simp))) fun e' he' => hes e' (by simp [he'])

/-- A list with a late arrival at a key blends like the list, and then the arrival. -/
theorem blendAll_change {m : OrderedMap κ ν} {es : List (κ × ν)} {k : κ} {v : ν}
    (hnodup : (es.map Prod.fst).Nodup)
    (hop : ∀ w, find? k es = some w → ∀ u, op (op u w) v = op u (op w v)) :
    m.blendAll op (change k (fun known => (known.map (op · v)).getD v) es) =
      (m.blendAll op es).blend op k v := by
  induction es generalizing m with
  | nil => rfl
  | cons e es ih =>
    obtain ⟨l, w⟩ := e
    obtain ⟨hl, hes⟩ := List.nodup_cons.1 hnodup
    by_cases h : l = k
    · subst h
      have hassoc := hop w (by simp [find?])
      have hmem : l ∈ (m.blend op l w).keys := by
        rw [← mem_keySet, keySet_blend]
        exact OrderedSet.mem_insert.2 (Or.inr rfl)
      calc m.blendAll op (change l (fun known => (known.map (op · v)).getD v) ((l, w) :: es))
        _ = (m.blend op l (op w v)).blendAll op es := by simp [change]
        _ = ((m.blend op l w).blend op l v).blendAll op es := by rw [blend_blend_self hassoc]
        _ = ((m.blend op l w).blendAll op es).blend op l v := blendAll_blend_comm hmem hl
    · rw [change, if_neg h, blendAll_cons, blendAll_cons]
      refine ih hes fun w' hw' => hop w' ?_
      rw [find?, if_neg h, hw']

/-- To blend in a map with arrivals of its own is to blend in the map and then its arrivals. -/
theorem blendAll_entries_blendAll (hop : AssocOn P op) (m : OrderedMap κ ν) {n : OrderedMap κ ν}
    (hn : n.All P) {es : List (κ × ν)} (hes : ∀ e ∈ es, P e.1 e.2) :
    m.blendAll op (n.blendAll op es).entries = (m.blendAll op n.entries).blendAll op es := by
  induction es generalizing n with
  | nil => rfl
  | cons e es ih =>
    have he : P e.1 e.2 := hes e (by simp)
    have hstep : m.blendAll op (n.blend op e.1 e.2).entries =
        (m.blendAll op n.entries).blend op e.1 e.2 :=
      blendAll_change n.nodup_keys fun w hw => hop.assoc (all_iff_get?.1 hn e.1 w hw) he
    rw [blendAll_cons, blendAll_cons,
      ih (hn.blend hop.closed he) fun e' he' => hes e' (by simp [he']),
      hstep]

end OrderedMap

end StudyGraph
