import StudyGraph.Graph
import StudyGraph.Matrix

/-!
# Linking a group

A group is a list of slots, each with a quiz or empty. A square matrix as large as the group says
which slots are linked: a set cell in row `c` and column `p` links slot `p` as parent to slot `c` as
child, if both slots have a quiz. `links` lists the links, parent by parent, and `link` adds them to
a graph.
-/

namespace StudyGraph

/-- Two slots to be linked, and the quizzes in them. -/
structure Link where
  /-- The slot of the parent. -/
  parentSlot : Nat
  /-- The slot of the child. -/
  childSlot : Nat
  /-- The quiz whose review counts. -/
  parent : Quiz
  /-- The quiz it counts for. -/
  child : Quiz

/-- The matrix is not a square as large as the group. -/
structure Link.SizeError where
  /-- The height of the matrix. -/
  expected : Nat
  /-- The number of slots. -/
  actual : Nat
  deriving DecidableEq

namespace Matrix

/-- The links that a matrix asks for in a group, parent by parent and child by child. -/
def links (m : Matrix) (group : List (Option Quiz)) : List Link :=
  group.zipIdx.flatMap fun (parent, p) =>
    group.zipIdx.filterMap fun (child, c) =>
      if m.get c p then do
        let parent ← parent
        let child ← child
        pure ⟨p, c, parent, child⟩
      else none

/-- Whether a matrix fits a group. -/
def Fits (m : Matrix) (group : List (Option Quiz)) : Prop :=
  m.height = group.length ∧ m.width = group.length

instance (m : Matrix) (group : List (Option Quiz)) : Decidable (m.Fits group) :=
  inferInstanceAs (Decidable (_ ∧ _))

end Matrix

/-- Add the edges that a matrix asks for in a group. -/
def Graph.link (g : Graph) (m : Matrix) (group : List (Option Quiz)) :
    Except Link.SizeError Graph :=
  if m.Fits group then .ok ((m.links group).foldl (fun g l => g.addEdge l.parent l.child) g)
  else .error ⟨m.height, group.length⟩

end StudyGraph
