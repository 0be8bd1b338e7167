import StudyGraph.Proofs.PlanContribution

/-!
# What a graph relates

Order of arrival apart, the edges of a graph are a relation between identities, and its raw texts
are a relation between texts and identities. `OrderedMap.Relates` reads the relation off a map of
sets, and `OrderedMap.Brings` reads it off arrivals. An addition relates what was related, and
what it brings (`OrderedMap.relates_blendAll`). Two maps without empty sets that relate the same
have the same keys with the same members, in some order (`OrderedMap.perm_keys_of_relates`,
`OrderedMap.perm_toList_of_relates`).

What contributions bring together is what they bring one by one
(`Contribution.flatMap_of_collect`, `Contribution.brings_edges_collect`), and the links of a matrix
are the edges that it asks for (`Matrix.asks_iff_exists_mem_links`).
-/

set_option linter.unusedSectionVars false

namespace StudyGraph

/-! ## Maps of sets -/

namespace OrderedMap

variable {κ α : Type} [DecidableEq κ] [DecidableEq α]

/-- A key, and a member of its set. -/
def Relates (m : OrderedMap κ (OrderedSet α)) (k : κ) (a : α) : Prop :=
  ∃ s, m.get? k = some s ∧ a ∈ s

/-- A key among arrivals, and a member of a set that arrives there. -/
def Brings (es : List (κ × OrderedSet α)) (k : κ) (a : α) : Prop :=
  ∃ e ∈ es, e.1 = k ∧ a ∈ e.2

variable {m n : OrderedMap κ (OrderedSet α)} {k : κ} {a : α}

@[simp] theorem not_relates_empty : ¬(empty : OrderedMap κ (OrderedSet α)).Relates k a := by
  rintro ⟨s, hs, -⟩
  simp at hs

@[simp] theorem not_brings_nil : ¬Brings ([] : List (κ × OrderedSet α)) k a := by
  simp [Brings]

theorem brings_append {es fs : List (κ × OrderedSet α)} :
    Brings (es ++ fs) k a ↔ Brings es k a ∨ Brings fs k a := by
  simp only [Brings, List.mem_append, or_and_right, exists_or]

theorem brings_congr {es fs : List (κ × OrderedSet α)} (h : ∀ e, e ∈ es ↔ e ∈ fs) :
    Brings es k a ↔ Brings fs k a := by
  simp only [Brings, h]

theorem relates_iff_brings_entries : m.Relates k a ↔ Brings m.entries k a := by
  constructor
  · rintro ⟨s, hs, ha⟩
    exact ⟨(k, s), mem_entries_iff.2 hs, rfl, ha⟩
  · rintro ⟨e, he, rfl, ha⟩
    exact ⟨e.2, mem_entries_iff.1 he, ha⟩

theorem relates_blend {k' : κ} {s : OrderedSet α} :
    (m.blend OrderedSet.union k' s).Relates k a ↔ m.Relates k a ∨ (k' = k ∧ a ∈ s) := by
  unfold Relates
  rw [get?_blend]
  by_cases hk : k' = k
  · subst hk
    cases hget : m.get? k' with
    | none => simp
    | some t => simp
  · simp [hk]

/-- An addition relates what was related, and what it brings. -/
theorem relates_blendAll {es : List (κ × OrderedSet α)} :
    (m.blendAll OrderedSet.union es).Relates k a ↔ m.Relates k a ∨ Brings es k a := by
  induction es generalizing m with
  | nil => simp
  | cons e es ih =>
    rw [blendAll_cons, ih, relates_blend, or_assoc]
    simp [Brings]

/-- With no empty sets around, the keys are those that are related to something. -/
theorem mem_keys_iff_exists_relates (hm : m.All fun _ s => s ≠ .empty) :
    k ∈ m.keys ↔ ∃ a, m.Relates k a := by
  constructor
  · intro hk
    obtain ⟨e, he, rfl⟩ := List.mem_map.1 hk
    obtain ⟨a, ha⟩ := OrderedSet.exists_mem_of_ne_empty (hm e he)
    exact ⟨a, e.2, mem_entries_iff.1 he, ha⟩
  · rintro ⟨a, s, hs, -⟩
    exact List.mem_map.2 ⟨(k, s), mem_entries_iff.2 hs, rfl⟩

theorem perm_keys_of_relates (hm : m.All fun _ s => s ≠ .empty) (hn : n.All fun _ s => s ≠ .empty)
    (h : ∀ k a, m.Relates k a ↔ n.Relates k a) : m.keys.Perm n.keys := by
  refine (List.perm_ext_iff_of_nodup m.nodup_keys' n.nodup_keys').2 fun k => ?_
  rw [mem_keys_iff_exists_relates hm, mem_keys_iff_exists_relates hn]
  exact exists_congr (h k)

/-- The members of a key, none if there is no such key. -/
theorem mem_getD_iff_relates : a ∈ ((m.get? k).map OrderedSet.toList).getD [] ↔ m.Relates k a := by
  unfold Relates
  cases m.get? k with
  | none => simp
  | some s => simp

theorem nodup_getD : (((m.get? k).map OrderedSet.toList).getD []).Nodup := by
  cases m.get? k with
  | none => simp
  | some s => exact s.nodup

theorem perm_toList_of_relates (h : ∀ k a, m.Relates k a ↔ n.Relates k a) (k : κ) :
    (((m.get? k).map OrderedSet.toList).getD []).Perm
      (((n.get? k).map OrderedSet.toList).getD []) := by
  refine (List.perm_ext_iff_of_nodup nodup_getD nodup_getD).2 fun a => ?_
  rw [mem_getD_iff_relates, mem_getD_iff_relates]
  exact h k a

end OrderedMap

/-! ## Contributions -/

namespace Contribution

variable {cs : List Contribution} {c : Contribution}

theorem edges_join (cs : List Contribution) : (join cs).edges = cs.flatMap edges := by
  induction cs with
  | nil => rfl
  | cons c cs ih => rw [join, edges_append, ih, List.flatMap_cons]

theorem raws_join (cs : List Contribution) : (join cs).raws = cs.flatMap raws := by
  induction cs with
  | nil => rfl
  | cons c cs ih => rw [join, raws_append, ih, List.flatMap_cons]

theorem quizzes_join (cs : List Contribution) : (join cs).quizzes = cs.flatMap quizzes := by
  induction cs with
  | nil => rfl
  | cons c cs ih => rw [join, quizzes_append, ih, List.flatMap_cons]

theorem ids_join (cs : List Contribution) : (join cs).ids = cs.flatMap ids := by
  induction cs with
  | nil => rfl
  | cons c cs ih => rw [join, ids_append, ih, List.flatMap_cons]

/-- What is read off contributions one by one is read off what they collect. -/
theorem flatMap_of_collect {α β : Type} {f : α → Except Fault Contribution}
    {read : Contribution → List β} (hnil : read nil = [])
    (happend : ∀ c d, read (c ++ d) = read c ++ read d) {expected : α → List β}
    (hf : ∀ {a d}, f a = .ok d → read d = expected a) :
    ∀ {as : List α} {c : Contribution}, collect (as.map f) = .ok c →
      read c = as.flatMap expected
  | [], c, h => by
    obtain rfl : nil = c := Except.ok.inj h
    exact hnil
  | a :: as, c, h => by
    obtain ⟨d, e, ha, hrest, rfl⟩ := collect_cons_eq_ok_iff.1 h
    rw [happend, hf ha, flatMap_of_collect hnil happend hf hrest, List.flatMap_cons]

/-- The edges that are collected are those that the members bring. -/
theorem brings_edges_collect {α : Type} {f : α → Except Fault Contribution} {p q : QuizId}
    {Asks : α → Prop}
    (hf : ∀ {a d}, f a = .ok d → (OrderedMap.Brings d.edges p q ↔ Asks a)) :
    ∀ {as : List α} {c : Contribution}, collect (as.map f) = .ok c →
      (OrderedMap.Brings c.edges p q ↔ ∃ a ∈ as, Asks a)
  | [], c, h => by
    obtain rfl : nil = c := Except.ok.inj h
    simp [nil]
  | a :: as, c, h => by
    obtain ⟨d, e, ha, hrest, rfl⟩ := collect_cons_eq_ok_iff.1 h
    rw [edges_append, OrderedMap.brings_append, hf ha, brings_edges_collect hf hrest]
    simp

end Contribution

/-! ## Graphs -/

namespace Graph

variable {g : Graph} {p q : QuizId}

theorem mem_children_iff : q ∈ g.children p ↔ g.edges.Relates p q :=
  OrderedMap.mem_getD_iff_relates

theorem mem_edgeList_iff : (p, q) ∈ g.edgeList ↔ g.edges.Relates p q := by
  rw [OrderedMap.relates_iff_brings_entries, edgeList, List.mem_flatMap]
  constructor
  · rintro ⟨e, he, hpair⟩
    obtain ⟨child, hchild, hpair⟩ := List.mem_map.1 hpair
    obtain ⟨rfl, rfl⟩ := Prod.mk.inj hpair
    exact ⟨e, he, rfl, hchild⟩
  · rintro ⟨e, he, rfl, hq⟩
    exact ⟨e, he, List.mem_map.2 ⟨q, hq, rfl⟩⟩

theorem relates_edges_add {c : Contribution} :
    (g.add c).edges.Relates p q ↔ g.edges.Relates p q ∨ OrderedMap.Brings c.edges p q :=
  OrderedMap.relates_blendAll

theorem relates_raws_add {raw : Text} {c : Contribution} :
    (g.add c).raws.Relates raw q ↔ g.raws.Relates raw q ∨ OrderedMap.Brings c.raws raw q :=
  OrderedMap.relates_blendAll

theorem mem_nodes_add {c : Contribution} :
    q ∈ (g.add c).nodes.keys ↔ q ∈ g.nodes.keys ∨ q ∈ c.ids := by
  rw [add, OrderedMap.mem_keys_blendAll, Contribution.map_fst_arrivals]

end Graph

/-! ## Matrices -/

namespace Matrix

variable {m : Matrix} {group : List (Option Quiz)}

/-- A matrix asks for an edge in a group: the cell in the row of the child and the column of the
parent is set, and both slots have a quiz. -/
def Asks (m : Matrix) (group : List (Option Quiz)) (p c : QuizId) : Prop :=
  ∃ i j parent child, m.get j i = true ∧ group[i]? = some (some parent) ∧
    group[j]? = some (some child) ∧ parent.id = p ∧ child.id = c

theorem asks_iff_exists_mem_links {p c : QuizId} :
    m.Asks group p c ↔ ∃ l ∈ m.links group, l.parent.id = p ∧ l.child.id = c := by
  constructor
  · rintro ⟨i, j, parent, child, hcell, hparent, hchild, hp, hc⟩
    exact ⟨⟨i, j, parent, child⟩, mem_links_iff.2 ⟨hcell, hparent, hchild⟩, hp, hc⟩
  · rintro ⟨l, hl, hp, hc⟩
    obtain ⟨hcell, hparent, hchild⟩ := mem_links_iff.1 hl
    exact ⟨l.parentSlot, l.childSlot, l.parent, l.child, hcell, hparent, hchild, hp, hc⟩

end Matrix

end StudyGraph
