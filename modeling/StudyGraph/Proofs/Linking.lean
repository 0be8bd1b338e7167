import StudyGraph.Proofs.Edges
import StudyGraph.Proofs.Growth

/-!
# Linking a group

What linking a group does to a graph is told by the matrix and the slots alone. The links contribute
the two quizzes of every set cell whose slots are filled (`Matrix.mem_ids_links`), also where both
have one identity, the edges that the matrix asks for between different identities
(`Matrix.brings_links`), and nothing under raw texts (`Matrix.raws_links`). The size is looked at
first, so a matrix that does not fit its group leaves the graph as it was. `Graph.link_exact` puts
this together.
-/

namespace StudyGraph

namespace Matrix

variable {m : Matrix} {group : List (Option Quiz)}

/-- The links bring the quizzes in the two slots of every edge that is asked for. -/
theorem mem_ids_links {id : QuizId} :
    id ∈ (Contribution.join ((m.links group).map fun l => .edge l.parent l.child)).ids ↔
      ∃ p c, m.Asks group p c ∧ (id = p ∨ id = c) := by
  have hlinks : id ∈ (Contribution.join
      ((m.links group).map fun l => .edge l.parent l.child)).ids ↔
      ∃ l ∈ m.links group, id = l.parent.id ∨ id = l.child.id := by
    rw [Contribution.ids_join, List.flatMap_map]
    simp [Contribution.ids, Contribution.edge]
  rw [hlinks]
  constructor
  · rintro ⟨l, hl, hid⟩
    exact ⟨l.parent.id, l.child.id, asks_iff_exists_mem_links.2 ⟨l, hl, rfl, rfl⟩, hid⟩
  · rintro ⟨p, c, hasks, hid⟩
    obtain ⟨l, hl, rfl, rfl⟩ := asks_iff_exists_mem_links.1 hasks
    exact ⟨l, hl, hid⟩

theorem raws_links :
    (Contribution.join ((m.links group).map fun l => .edge l.parent l.child)).raws = [] := by
  rw [Contribution.raws_join, List.flatMap_map]
  exact List.flatMap_eq_nil_iff.2 fun _ _ => rfl

end Matrix

namespace Graph

variable {g g' : Graph} {m : Matrix} {group : List (Option Quiz)}

theorem link_eq_ok_iff : g.link m group = .ok g' ↔ m.Fits group ∧
    g' = g.add (.join ((m.links group).map fun l => .edge l.parent l.child)) := by
  rw [link_eq]
  split
  · next hfits => simp [hfits, eq_comm]
  · next hfits => simp [hfits]

theorem link_eq_error_iff {e : Link.SizeError} :
    g.link m group = .error e ↔ ¬m.Fits group ∧ e = ⟨m.height, group.length⟩ := by
  rw [link_eq]
  split
  · next hfits => simp [hfits]
  · next hfits => simp [hfits, eq_comm]

/-- Linking fails exactly if the matrix is not a square as large as the group, and then the graph
stays as it was. Otherwise the new edges are those that the matrix asks for between quizzes of
different identities, the new nodes are the quizzes of every set cell whose two slots are filled,
and the raw texts are the old ones. -/
theorem link_exact (g : Graph) (m : Matrix) (group : List (Option Quiz)) :
    ((∃ e, g.link m group = .error e) ↔ ¬(m.height = group.length ∧ m.width = group.length)) ∧
    (∀ e, g.link m group = .error e →
      e = ⟨m.height, group.length⟩ ∧ (Operation.link m group).run g = g) ∧
    ∀ g', g.link m group = .ok g' → (Operation.link m group).run g = g' ∧
      (∀ p c, c ∈ g'.children p ↔ c ∈ g.children p ∨ p ≠ c ∧ m.Asks group p c) ∧
      (∀ id, id ∈ g'.nodes.keys ↔ id ∈ g.nodes.keys ∨
        ∃ p c, m.Asks group p c ∧ (id = p ∨ id = c)) ∧
      g'.raws = g.raws := by
  refine ⟨?_, ?_, ?_⟩
  · simp only [link_eq_error_iff, exists_and_left, exists_eq, and_true]
    rfl
  · intro e he
    refine ⟨(link_eq_error_iff.1 he).2, ?_⟩
    rw [Operation.run, he]
    rfl
  · intro g' hg'
    have hrun : (Operation.link m group).run g = g' := by
      rw [Operation.run, hg']
      rfl
    obtain ⟨-, rfl⟩ := link_eq_ok_iff.1 hg'
    refine ⟨hrun, fun p c => ?_, fun id => ?_, ?_⟩
    · rw [mem_children_iff, mem_children_iff, relates_edges_add, Matrix.brings_links]
    · rw [mem_nodes_add, Matrix.mem_ids_links]
    · rw [add, Matrix.raws_links]
      rfl

/-- A card that is linked to a node of the graph, and to itself under another slot, beside an empty
slot; and a group that is too small. -/
theorem link_exact_with_equal_slots :
    let a : Quiz := .card (.make "a" ["b"] true false)
    let b : Quiz := .card (.make "b" ["a"] true false)
    let c : Quiz := .card (.make "c" ["d"] true false)
    let again : Quiz := .card (.make "c" ["d"] true true)
    let g := empty.addEdge a b
    let group := [some a, none, some c, some again]
    let m : Matrix := ⟨[[false, false, true, false], [true, false, false, false],
      [false, false, false, true], [false, false, false, false]], 4, by simp, by simp⟩
    ∃ g', g.link m group = .ok g' ∧
      (∀ p q, q ∈ g'.children p ↔ q ∈ g.children p ∨ p ≠ q ∧ m.Asks group p q) ∧
      g'.edgeCount = 2 ∧ g'.nodes.keys = [a.id, b.id, c.id] ∧
      g.link m [some a] = .error ⟨4, 1⟩ ∧ (Operation.link m [some a]).run g = g := by
  intro a b c again g group m
  obtain ⟨g', hg'⟩ : ∃ g', g.link m group = .ok g' := exists_eq_ok_of_isSome (by decide +kernel)
  have hcount : (g.link m group).toOption.map (fun g => (g.edgeCount, g.nodes.keys)) =
      some (2, [a.id, b.id, c.id]) := by
    decide +kernel
  have hsmall : g.link m [some a] = .error ⟨4, 1⟩ := by decide +kernel
  obtain ⟨-, -, hlinked⟩ := link_exact g m group
  obtain ⟨-, hfails, -⟩ := link_exact g m [some a]
  rw [hg'] at hcount
  obtain ⟨hedges, hkeys⟩ := Prod.mk.inj (Option.some.inj hcount)
  exact ⟨g', hg', (hlinked g' hg').2.1, hedges, hkeys, hsmall, (hfails _ hsmall).2⟩

end Graph

end StudyGraph
