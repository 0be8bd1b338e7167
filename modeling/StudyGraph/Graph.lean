import StudyGraph.Quiz
import StudyGraph.Ordered.Map

/-!
# Quiz graphs

A quiz graph holds quizzes under their identities, edges between identities, and for each raw
source text the identities of the quizzes it gave. An edge from a parent to a child means that a
review of the parent counts as a passive review of the child. Nothing is ever taken out of a graph:
a quiz with a known identity is absorbed, and edges and raw entries are united. All three maps keep
the order of arrival.

`Edit` lists the ways to change a graph, and `apply` carries one out.
-/

namespace StudyGraph

/-- A graph of quizzes. -/
@[ext] structure Graph where
  /-- The quizzes by identity. -/
  nodes : OrderedMap QuizId Quiz
  /-- The children of each parent. -/
  edges : OrderedMap QuizId (OrderedSet QuizId)
  /-- The identities that each raw text gave. -/
  raws : OrderedMap Text (OrderedSet QuizId)
  deriving DecidableEq

namespace Graph

/-- The graph with nothing in it. -/
def empty : Graph := ⟨.empty, .empty, .empty⟩

instance : Inhabited Graph := ⟨empty⟩

/-! ## Growth -/

/-- The identities at a key, united with more of them. -/
def uniteAt {κ : Type} [DecidableEq κ] (m : OrderedMap κ (OrderedSet QuizId)) (key : κ)
    (ids : List QuizId) : OrderedMap κ (OrderedSet QuizId) :=
  m.upsert key fun known => (known.getD .empty).insertAll ids

/-- Put a quiz into a map of quizzes, absorbed by the one with its identity if there is one. -/
def settle (nodes : OrderedMap QuizId Quiz) (quiz : Quiz) : OrderedMap QuizId Quiz :=
  nodes.upsert quiz.id fun known => (known.map (·.absorb quiz)).getD quiz

/-- Insert a quiz, or absorb it into the node with its identity. -/
def insert (g : Graph) (quiz : Quiz) : Graph :=
  { g with nodes := settle g.nodes quiz }

/-- List an identity under a raw text. -/
def insertRaw (g : Graph) (raw : Text) (id : QuizId) : Graph :=
  { g with raws := uniteAt g.raws raw [id] }

/-- List a quiz under a raw text and insert it. -/
def insertWithRaw (g : Graph) (raw : Text) (quiz : Quiz) : Graph :=
  (g.insertRaw raw quiz.id).insert quiz

/-- Insert two quizzes, and an edge from the first to the second if they differ in identity. -/
def addEdge (g : Graph) (parent child : Quiz) : Graph :=
  let g := (g.insert parent).insert child
  if parent.id = child.id then g else { g with edges := uniteAt g.edges parent.id [child.id] }

/-- Unite the sets of two maps key by key. -/
def uniteAll {κ : Type} [DecidableEq κ] (m n : OrderedMap κ (OrderedSet QuizId)) :
    OrderedMap κ (OrderedSet QuizId) :=
  n.entries.foldl (fun m e => uniteAt m e.1 e.2.toList) m

/-- Take another graph in: its quizzes are inserted, its edges and raw entries are united. -/
def merge (g other : Graph) : Graph where
  nodes := other.nodes.values.foldl settle g.nodes
  edges := uniteAll g.edges other.edges
  raws := uniteAll g.raws other.raws

/-- A change to a graph. -/
inductive Edit where
  | insert (quiz : Quiz)
  | insertRaw (raw : Text) (id : QuizId)
  | insertWithRaw (raw : Text) (quiz : Quiz)
  | addEdge (parent child : Quiz)
  | merge (other : Graph)

/-- Carry out a change. -/
def apply (g : Graph) : Edit → Graph
  | .insert quiz => g.insert quiz
  | .insertRaw raw id => g.insertRaw raw id
  | .insertWithRaw raw quiz => g.insertWithRaw raw quiz
  | .addEdge parent child => g.addEdge parent child
  | .merge other => g.merge other

/-! ## Queries -/

/-- The quiz with an identity. -/
def get? (g : Graph) (id : QuizId) : Option Quiz :=
  g.nodes.get? id

/-- The number of nodes. -/
def size (g : Graph) : Nat :=
  g.nodes.size

/-- The edges, each a parent with one of its children. -/
def edgeList (g : Graph) : List (QuizId × QuizId) :=
  g.edges.entries.flatMap fun e => e.2.toList.map (e.1, ·)

/-- The number of edges. -/
def edgeCount (g : Graph) : Nat :=
  g.edgeList.length

/-- The number of parents that are listed with their children. -/
def parentCount (g : Graph) : Nat :=
  g.edges.size

/-- The children of an identity. -/
def children (g : Graph) (id : QuizId) : List QuizId :=
  ((g.edges.get? id).map OrderedSet.toList).getD []

/-- The parents of an identity. -/
def parents (g : Graph) (id : QuizId) : List QuizId :=
  (g.edges.entries.filter fun e => id ∈ e.2).map Prod.fst

/-- The quizzes of one kind. -/
def ofKind (g : Graph) (kind : Quiz.Kind) : List Quiz :=
  g.nodes.values.filter (·.kind = kind)

/-- The number of quizzes of one kind. -/
def countKind (g : Graph) (kind : Quiz.Kind) : Nat :=
  (g.ofKind kind).length

/-- The identities that a raw text gave. -/
def rawIds? (g : Graph) (raw : Text) : Option (List QuizId) :=
  (g.raws.get? raw).map OrderedSet.toList

end Graph

end StudyGraph
