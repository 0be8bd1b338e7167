import StudyGraph.Graph
import StudyGraph.Proofs.Blend
import StudyGraph.Proofs.Identity

/-!
# What a change contributes

Every change of a graph is an addition : quizzes that settle, children that are united with those of
a parent, and identities that are united with those of a raw text. `Contribution` lists them in
order, `Graph.add` carries them out, and every `Edit` and every merge is such an addition
(`apply_eq_add`, `merge_eq_add`). One edit after the other adds up to one contribution
(`foldl_apply_eq_add`).

Absorbing is associative between quizzes of one identity (`assocOn_absorb`), because one identity
means one kind. So a graph whose quizzes stand under their own identities can be replayed : merging
what was added to it is merging it and then adding (`add_contribution_add`). Starting from the empty
graph, this says that staging edits apart and merging them at the end is unobservable
(`foldl_apply_eq_merge_foldl_apply`).
-/

namespace StudyGraph

/-- What a change brings to a graph. -/
@[ext] structure Contribution where
  /-- The quizzes, in the order in which they settle. -/
  quizzes : List Quiz
  /-- Children for parents. -/
  edges : List (QuizId × OrderedSet QuizId)
  /-- Identities for raw texts. -/
  raws : List (Text × OrderedSet QuizId)

namespace Contribution

/-- The contribution that brings nothing. -/
def nil : Contribution := ⟨[], [], []⟩

instance : Append Contribution :=
  ⟨fun c d => ⟨c.quizzes ++ d.quizzes, c.edges ++ d.edges, c.raws ++ d.raws⟩⟩

@[simp] theorem quizzes_append (c d : Contribution) : (c ++ d).quizzes = c.quizzes ++ d.quizzes :=
  rfl

@[simp] theorem edges_append (c d : Contribution) : (c ++ d).edges = c.edges ++ d.edges := rfl

@[simp] theorem raws_append (c d : Contribution) : (c ++ d).raws = c.raws ++ d.raws := rfl

theorem append_assoc (c d e : Contribution) : c ++ d ++ e = c ++ (d ++ e) :=
  Contribution.ext (List.append_assoc ..) (List.append_assoc ..) (List.append_assoc ..)

/-- One contribution after the other. -/
def join : List Contribution → Contribution
  | [] => nil
  | c :: cs => c ++ join cs

/-- A quiz, inserted. -/
def quiz (quiz : Quiz) : Contribution := ⟨[quiz], [], []⟩

/-- An identity, listed under a raw text. -/
def raw (raw : Text) (id : QuizId) : Contribution := ⟨[], [], [(raw, .ofList [id])]⟩

/-- Two quizzes, and the edge between them if they differ in identity. -/
def edge (parent child : Quiz) : Contribution where
  quizzes := [parent, child]
  edges := if parent.id = child.id then [] else [(parent.id, .ofList [child.id])]
  raws := []

/-- The quizzes with the identities under which they settle. -/
def arrivals (c : Contribution) : List (QuizId × Quiz) :=
  c.quizzes.map fun quiz => (quiz.id, quiz)

/-- The identities of the quizzes. -/
def ids (c : Contribution) : List QuizId :=
  c.quizzes.map Quiz.id

@[simp] theorem arrivals_append (c d : Contribution) :
    (c ++ d).arrivals = c.arrivals ++ d.arrivals :=
  List.map_append

@[simp] theorem ids_append (c d : Contribution) : (c ++ d).ids = c.ids ++ d.ids :=
  List.map_append

@[simp] theorem map_fst_arrivals (c : Contribution) : c.arrivals.map Prod.fst = c.ids := by
  simp [arrivals, ids]

end Contribution

/-! ## Absorbing -/

theorem Notes.absorb_assoc (a b c : Notes) : (a.absorb b).absorb c = a.absorb (b.absorb c) := by
  simp [absorb, Option.or_assoc]

namespace Quiz

theorem question_absorb_of_id_eq {old new : Quiz} (h : old.id = new.id) :
    (old.absorb new).question = old.question :=
  question_absorb (kind_eq_of_id_eq h)

theorem id_absorb {old new : Quiz} (h : old.id = new.id) : (old.absorb new).id = old.id :=
  id_eq_id_iff_question.2 (question_absorb_of_id_eq h)

/-- Absorbing two newcomers of one kind in turn is absorbing both joined. -/
theorem absorb_assoc {b c : Quiz} (h : b.kind = c.kind) (a : Quiz) :
    (a.absorb b).absorb c = a.absorb (b.absorb c) := by
  cases b with
  | card b =>
    cases c with
    | card c => cases a <;> simp [absorb, Notes.absorb_assoc, Option.or_assoc]
    | _ => simp [kind] at h
  | cloze b =>
    cases c with
    | cloze c => cases a <;> simp [absorb, Notes.absorb_assoc]
    | _ => simp [kind] at h
  | matching b =>
    cases c with
    | matching c => cases a <;> simp [absorb, Notes.absorb_assoc]
    | _ => simp [kind] at h

/-- Among quizzes of one identity absorbing is closed and associative. -/
theorem assocOn_absorb : OrderedMap.AssocOn (fun id quiz => quiz.id = id) absorb where
  closed := by
    rintro id v w rfl hw
    exact id_absorb hw.symm
  assoc := by
    rintro id v w rfl hw u
    exact absorb_assoc (kind_eq_of_id_eq hw.symm) u

end Quiz

theorem OrderedSet.assocOn_union {κ α : Type} [DecidableEq κ] [DecidableEq α] :
    OrderedMap.AssocOn (fun _ _ => True) (OrderedSet.union : OrderedSet α → _ → _) (κ := κ) where
  closed := fun _ _ => trivial
  assoc := fun _ _ _ => union_assoc _ _ _

namespace Graph

/-! ## Additions -/

/-- Carry out a contribution. -/
def add (g : Graph) (c : Contribution) : Graph where
  nodes := g.nodes.blendAll Quiz.absorb c.arrivals
  edges := g.edges.blendAll OrderedSet.union c.edges
  raws := g.raws.blendAll OrderedSet.union c.raws

@[simp] theorem add_nil (g : Graph) : g.add .nil = g := rfl

theorem add_append (g : Graph) (c d : Contribution) : g.add (c ++ d) = (g.add c).add d := by
  simp [add, OrderedMap.blendAll_append]

theorem foldl_add (g : Graph) (cs : List Contribution) : cs.foldl add g = g.add (.join cs) := by
  induction cs generalizing g with
  | nil => rfl
  | cons c cs ih => rw [List.foldl_cons, ih, Contribution.join, add_append]

theorem foldl_settle (nodes : OrderedMap QuizId Quiz) (quizzes : List Quiz) :
    quizzes.foldl settle nodes =
      nodes.blendAll Quiz.absorb (quizzes.map fun quiz => (quiz.id, quiz)) := by
  rw [OrderedMap.blendAll, List.foldl_map]
  rfl

theorem uniteAt_eq_blend {κ : Type} [DecidableEq κ] (m : OrderedMap κ (OrderedSet QuizId))
    (key : κ) (ids : List QuizId) :
    uniteAt m key ids = m.blend OrderedSet.union key (.ofList ids) := by
  unfold uniteAt OrderedMap.blend
  congr 1
  funext known
  cases known with
  | none => rfl
  | some s => simp [OrderedSet.union_ofList]

theorem uniteAll_eq_blendAll {κ : Type} [DecidableEq κ] (m n : OrderedMap κ (OrderedSet QuizId)) :
    uniteAll m n = m.blendAll OrderedSet.union n.entries := by
  simp only [uniteAll, OrderedMap.blendAll, uniteAt_eq_blend, OrderedSet.ofList_toList]

theorem insert_eq_add (g : Graph) (quiz : Quiz) : g.insert quiz = g.add (.quiz quiz) := rfl

theorem insertRaw_eq_add (g : Graph) (raw : Text) (id : QuizId) :
    g.insertRaw raw id = g.add (.raw raw id) := by
  simp [insertRaw, add, Contribution.raw, Contribution.arrivals, uniteAt_eq_blend]

theorem insertWithRaw_eq_add (g : Graph) (raw : Text) (quiz : Quiz) :
    g.insertWithRaw raw quiz = g.add (.raw raw quiz.id ++ .quiz quiz) := by
  rw [insertWithRaw, insertRaw_eq_add, insert_eq_add, add_append]

theorem addEdge_eq_add (g : Graph) (parent child : Quiz) :
    g.addEdge parent child = g.add (.edge parent child) := by
  unfold addEdge add Contribution.edge Contribution.arrivals
  split <;> simp [insert, settle, OrderedMap.blend, uniteAt_eq_blend]

/-- Everything that a graph holds. -/
def contribution (g : Graph) : Contribution where
  quizzes := g.nodes.values
  edges := g.edges.entries
  raws := g.raws.entries

theorem merge_eq_add (g other : Graph) : g.merge other = g.add other.contribution := by
  simp only [merge, foldl_settle, uniteAll_eq_blendAll]
  rfl

/-- What an edit contributes. -/
def Edit.contribution : Edit → Contribution
  | insert quiz => .quiz quiz
  | insertRaw raw id => .raw raw id
  | insertWithRaw raw quiz => .raw raw quiz.id ++ .quiz quiz
  | addEdge parent child => .edge parent child
  | merge other => other.contribution

theorem apply_eq_add (g : Graph) (edit : Edit) : g.apply edit = g.add edit.contribution := by
  cases edit with
  | insert quiz => exact insert_eq_add g quiz
  | insertRaw raw id => exact insertRaw_eq_add g raw id
  | insertWithRaw raw quiz => exact insertWithRaw_eq_add g raw quiz
  | addEdge parent child => exact addEdge_eq_add g parent child
  | merge other => exact merge_eq_add g other

theorem foldl_apply_eq_add (g : Graph) (edits : List Edit) :
    edits.foldl apply g = g.add (.join (edits.map Edit.contribution)) := by
  have happly : apply = fun g edit => g.add edit.contribution :=
    funext fun g => funext fun edit => apply_eq_add g edit
  rw [← foldl_add, List.foldl_map, happly]

/-! ## Replaying a graph -/

/-- Every quiz stands under its own identity. -/
def Keyed (g : Graph) : Prop :=
  g.nodes.All fun id quiz => quiz.id = id

theorem keyed_empty : empty.Keyed :=
  OrderedMap.all_empty

theorem Keyed.add {g : Graph} (hg : g.Keyed) (c : Contribution) : (g.add c).Keyed := by
  refine hg.blendAll Quiz.assocOn_absorb.closed ?_
  simp [Contribution.arrivals]

theorem Keyed.arrivals_contribution {g : Graph} (hg : g.Keyed) :
    g.contribution.arrivals = g.nodes.entries := by
  have hentry : ∀ e ∈ g.nodes.entries, (e.2.id, e.2) = e := fun e he => by rw [hg e he]
  simp only [Contribution.arrivals, contribution, OrderedMap.values, List.map_map]
  exact (List.map_congr_left hentry).trans (List.map_id _)

/-- To add a graph that grew by a contribution is to add the graph and then the contribution. -/
theorem add_contribution_add (g : Graph) {h : Graph} (hh : h.Keyed) (c : Contribution) :
    g.add (h.add c).contribution = (g.add h.contribution).add c := by
  have hnodes : g.nodes.blendAll Quiz.absorb (h.add c).nodes.entries =
      (g.nodes.blendAll Quiz.absorb h.nodes.entries).blendAll Quiz.absorb c.arrivals :=
    OrderedMap.blendAll_entries_blendAll Quiz.assocOn_absorb g.nodes hh
      (by simp [Contribution.arrivals])
  have hsets : ∀ {κ : Type} [DecidableEq κ] (m n : OrderedMap κ (OrderedSet QuizId))
      (es : List (κ × OrderedSet QuizId)),
      m.blendAll OrderedSet.union (n.blendAll OrderedSet.union es).entries =
        (m.blendAll OrderedSet.union n.entries).blendAll OrderedSet.union es := fun m n _ =>
    OrderedMap.blendAll_entries_blendAll OrderedSet.assocOn_union m (fun _ _ => trivial)
      (fun _ _ => trivial)
  rw [← (hh.add c).arrivals_contribution, ← hh.arrivals_contribution] at hnodes
  exact Graph.ext hnodes (hsets g.edges h.edges c.edges) (hsets g.raws h.raws c.raws)

/-- A contribution that is first carried out on the empty graph arrives unchanged. -/
theorem merge_empty_add (g : Graph) (c : Contribution) : g.merge (empty.add c) = g.add c := by
  rw [merge_eq_add, add_contribution_add g keyed_empty]
  rfl

/-- Staging is unobservable: edits that are carried out apart, on an empty graph that is merged at
the end, leave the graph that they leave when carried out on the spot. -/
theorem foldl_apply_eq_merge_foldl_apply (g : Graph) (edits : List Edit) :
    edits.foldl apply g = g.merge (edits.foldl apply empty) := by
  rw [foldl_apply_eq_add, foldl_apply_eq_add, merge_empty_add]

end Graph

end StudyGraph
