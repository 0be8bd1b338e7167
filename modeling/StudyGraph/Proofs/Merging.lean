import StudyGraph.Proofs.Independence
import StudyGraph.Readers.Markdown.Heading

/-!
# Merging is an idempotent monoid

A quiz that absorbs itself stays as it is (`Quiz.absorb_self`), and so does a set that is united
with itself. So a map whose values are blended in once more stays as it is
(`OrderedMap.blendAll_of_absorbed`), and a map that is blended into the empty one is rebuilt in its
own order (`OrderedMap.empty_blendAll_entries`). For graphs whose quizzes stand under their own
identities this makes merging associative (`Graph.merge_assoc`), idempotent (`Graph.merge_self`) and
the empty graph neutral on both sides; `Graph.merge_laws_of_keyed` collects the laws.

Hence what was added to a graph may be added again (`Graph.add_add_self`). Without bullets that give
a sentence its part of speech, blocks contribute the same in every graph
(`Graph.exists_contribution_of_compileUntil_none`), so a source that was compiled may be compiled
again and changes nothing (`Graph.compileUntil_again`).
-/

set_option linter.unusedSectionVars false

namespace StudyGraph

/-! ## Maps -/

namespace OrderedMap

variable {κ ν : Type} [DecidableEq κ] {op : ν → ν → ν}

/-- Arrivals that change no known value change nothing. -/
theorem blendAll_of_absorbed {m : OrderedMap κ ν} {es : List (κ × ν)}
    (h : ∀ e ∈ es, ∃ v, m.get? e.1 = some v ∧ op v e.2 = v) : m.blendAll op es = m := by
  induction es with
  | nil => rfl
  | cons e es ih =>
    obtain ⟨⟨v, hv, hop⟩, hes⟩ := List.forall_mem_cons.1 h
    rw [blendAll_cons, blend_of_absorbed hv hop]
    exact ih hes

/-- A map that is blended with its own entries stays as it is. -/
theorem blendAll_entries_self {m : OrderedMap κ ν} (hop : ∀ v, op v v = v) :
    m.blendAll op m.entries = m :=
  blendAll_of_absorbed fun e he => ⟨e.2, mem_entries_iff.1 he, hop e.2⟩

end OrderedMap

theorem OrderedSet.union_self {α : Type} [DecidableEq α] (s : OrderedSet α) : s.union s = s :=
  insertAll_of_mem fun _ h => h

/-! ## Quizzes -/

theorem Notes.absorb_self (notes : Notes) : notes.absorb notes = notes := by
  simp [absorb]

theorem Quiz.absorb_self (quiz : Quiz) : quiz.absorb quiz = quiz := by
  cases quiz <;> simp [absorb, Notes.absorb_self]

namespace Graph

/-! ## Merging -/

variable {g h : Graph}

theorem merge_assoc (g : Graph) (hh : h.Keyed) (k : Graph) :
    (g.merge h).merge k = g.merge (h.merge k) := by
  simp only [merge_eq_add]
  exact (add_contribution_add g hh k.contribution).symm

theorem merge_empty (g : Graph) : g.merge empty = g := rfl

theorem empty_merge (hg : g.Keyed) : empty.merge g = g := by
  rw [merge_eq_add, add, hg.arrivals_contribution]
  exact Graph.ext (OrderedMap.empty_blendAll_entries g.nodes)
    (OrderedMap.empty_blendAll_entries g.edges) (OrderedMap.empty_blendAll_entries g.raws)

theorem merge_self (hg : g.Keyed) : g.merge g = g := by
  rw [merge_eq_add, add, hg.arrivals_contribution]
  exact Graph.ext (OrderedMap.blendAll_entries_self Quiz.absorb_self)
    (OrderedMap.blendAll_entries_self OrderedSet.union_self)
    (OrderedMap.blendAll_entries_self OrderedSet.union_self)

theorem merge_merge_self (g : Graph) (hh : h.Keyed) : (g.merge h).merge h = g.merge h := by
  rw [merge_assoc g hh, merge_self hh]

/-- Merging is associative and idempotent, and the empty graph is neutral. Of a graph that is merged
into another one, all that matters is that its quizzes stand under their own identities: its edges
and raw texts may mention anything. The graphs are equal with the fields of their quizzes and with
the order of arrival in all three maps and in their sets. -/
theorem merge_laws_of_keyed {a b : Graph} (ha : a.Keyed) (hb : b.Keyed) (c : Graph) :
    (a.merge b).merge c = a.merge (b.merge c) ∧ a.merge empty = a ∧ empty.merge a = a ∧
      a.merge a = a ∧ (a.merge b).merge b = a.merge b :=
  ⟨merge_assoc a hb c, merge_empty a, empty_merge ha, merge_self ha, merge_merge_self a hb⟩

/-- Two graphs with one card, to which they give different notes, and with edges and raw texts that
mention nothing they have. -/
theorem merge_laws_of_keyed_astray :
    let noted (notes : Notes) : Quiz := .card { Card.make "a" ["b"] true false with notes := notes }
    let reading := noted ⟨none, some [.ruby "a" "b"]⟩
    let translated := noted ⟨some (.ofList [("en", "c")]), some []⟩
    let other : Quiz := .card (.make "d" ["e"] true false)
    let a : Graph := { empty.insert reading with edges := .ofList [("x", .ofList ["y", "z"])] }
    let b : Graph :=
      { (empty.insert other).insert translated with raws := .ofList [("x", .empty)] }
    let c := empty.addEdge reading other
    a.merge b ≠ b.merge a ∧ (a.merge b).merge c = a.merge (b.merge c) ∧ empty.merge a = a ∧
      a.merge a = a ∧ (a.merge b).merge b = a.merge b := by
  intro noted reading translated other a b c
  have ha : a.Keyed := keyed_empty.add (.quiz reading)
  have hb : b.Keyed := (keyed_empty.add (.quiz other)).add (.quiz translated)
  obtain ⟨hassoc, -, hempty, hself, htwice⟩ := merge_laws_of_keyed ha hb c
  exact ⟨by decide +kernel, hassoc, hempty, hself, htwice⟩

/-! ## Repeating -/

/-- What was added may be added again. -/
theorem add_add_self (g : Graph) (c : Contribution) : (g.add c).add c = g.add c := by
  have hkeyed : (empty.add c).Keyed := keyed_empty.add c
  rw [← merge_empty_add g c, ← merge_empty_add _ c, merge_merge_self g hkeyed]

/-- Blocks that compile, none of which has a bullet that gives the sentence a part of speech, come
to one contribution, whatever the graph and the number of the file. -/
theorem exists_contribution_of_compileUntil_none {file : Nat} {g g' : Graph} {blocks : List Block}
    (hblocks : ∀ block ∈ blocks, ¬ block.RepeatsWithPartOfSpeech)
    (h : g.compileUntil file blocks = (g', none)) :
    ∃ c : Contribution, g' = g.add c ∧
      ∀ (file' : Nat) (h : Graph), h.compileUntil file' blocks = (h.add c, none) := by
  induction blocks generalizing g with
  | nil =>
    obtain ⟨rfl, -⟩ := Prod.mk.inj h
    exact ⟨.nil, rfl, fun _ _ => rfl⟩
  | cons block blocks ih =>
    obtain ⟨hblock, hblocks⟩ := List.forall_mem_cons.1 hblocks
    rw [compileUntil, compileBlock_eq] at h
    cases hcontribution : block.contribution g with
    | error fault => simp [hcontribution] at h
    | ok c =>
      simp only [hcontribution] at h
      obtain ⟨d, rfl, hrest⟩ := ih hblocks h
      refine ⟨c ++ d, (add_append g c d).symm, fun file' k => ?_⟩
      rw [compileUntil, compileBlock_eq, Block.contribution_eq hblock k g, hcontribution]
      simp only [hrest, add_append]

/-- Compiling again changes nothing. If a source compiles into a graph, and no bullet of it that
repeats the sentence of its block carries a part of speech, it compiles again into the graph that it
came to, and leaves it as it is. -/
theorem compileUntil_again {headings : Text → List Nat} {file file' : Nat} {g g' : Graph}
    {source : Text}
    (hsource : ∀ block ∈ Block.ofSource headings source, ¬ block.RepeatsWithPartOfSpeech)
    (h : g.compileUntil file (Block.ofSource headings source) = (g', none)) :
    g'.compileUntil file' (Block.ofSource headings source) = (g', none) := by
  obtain ⟨c, rfl, hagain⟩ := exists_contribution_of_compileUntil_none hsource h
  rw [hagain, add_add_self]

/-- Two blocks that translate one sentence differently, in a graph that translates it in a third
way : the first block alone undoes the second, and both together restore it. -/
theorem compileUntil_again_of_two_translations :
    let source := "# @ a @ b @t-en c\n- @ b @ a @pos n\n\n# @ a @ b @t-en d"
    let notes : Notes := ⟨some (.ofList [("en", "e")]), none⟩
    let g := empty.insert (.card { Card.make "a" ["b"] true false with notes := notes })
    let blocks := Block.ofSource Markdown.headingStarts source
    ∃ g', g.compileUntil 0 blocks = (g', none) ∧ g' ≠ g ∧
      (g'.compileUntil 1 (blocks.take 1)).1 ≠ g' ∧ g'.compileUntil 1 blocks = (g', none) := by
  intro source notes g blocks
  have hitems : ∀ block ∈ blocks,
      ∀ content ∈ block.header?.bind fun header => headerContent? header.text,
      ∀ bullet ∈ block.bullets, bullet.fields.item ≠ (Fields.ofText content).item := by
    decide +kernel
  have hsource : ∀ block ∈ blocks, ¬ block.RepeatsWithPartOfSpeech := by
    rintro block hblock ⟨header, content, hheader, hcontent, bullet, hbullet, -, hitem, -⟩
    refine hitems block hblock content ?_ bullet hbullet hitem
    rw [hheader]
    exact hcontent
  have hcompile : g.compileUntil 0 blocks = ((g.compileUntil 0 blocks).1, none) :=
    Prod.ext rfl (by decide +kernel)
  exact ⟨_, hcompile, by decide +kernel, by decide +kernel, compileUntil_again hsource hcompile⟩

end Graph

end StudyGraph
