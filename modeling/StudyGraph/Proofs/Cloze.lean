import StudyGraph.Proofs.Built
import StudyGraph.Proofs.Locate
import StudyGraph.Proofs.Provenance

/-!
# Clozes are blanks of sentences

A cut that a locator designates takes a part out of the sentence (`Cut.blanks_of_locate`). Every
cloze that a bullet gives is made of such a cut (`Sentence.blankIn_of_mem_given`), with one list of
answers in which none is repeated and with at most one hint. What a question says of this is a
property of the question alone (`Question.BlankIn`), so it holds of every cloze with the identity of
one that is given.

A source that compiles lists what its blocks list (`Graph.exists_contribution_of_compileUntil`). No
line of it has a newline (`Line.newline_notMem_of_mem_ofSource`), so the raw text of a bullet tells
the header line and the bullet line, and with them the cloze that a fill bullet gives
(`Block.Lists.eq_of_fill`). `clozes_of_compileText` puts this together.
-/

set_option linter.unusedSectionVars false

namespace StudyGraph

/-! ## Questions -/

/-- The elements of a list, each at its first place, are the list without duplicates. -/
theorem OrderedSet.toList_ofList {α : Type} [DecidableEq α] [BEq α] [LawfulBEq α] (as : List α) :
    (ofList as).toList = as.eraseDups := by
  induction as using List.reverseRecOn with
  | nil => rfl
  | append_singleton as a ih =>
    have hlast : ofList (as ++ [a]) = (ofList as).insert a := insertAll_append empty as [a]
    rw [hlast, toList_insert, ih, List.eraseDups_append]
    by_cases h : a ∈ as
    · simp [h, List.removeAll]
    · simp [h, List.removeAll, List.eraseDups_cons]

theorem OrderedSet.toList_ofList_cons {α : Type} [DecidableEq α] [BEq α] [LawfulBEq α] (a : α)
    (as : List α) : (ofList (a :: as)).toList = a :: (as.filter (· ≠ a)).eraseDups := by
  have hothers : as.filter (fun b => !b == a) = as.filter (· ≠ a) := by
    refine List.filter_congr fun b _ => ?_
    by_cases h : b = a <;> simp [h]
  rw [toList_ofList, List.eraseDups_cons, hothers]

/-- A question with one blank in the sentence, for which there are answers, none repeated, and at
most one hint. -/
def Question.BlankIn (sentence : Text) : Question → Prop
  | cloze pieces answers hints =>
    (∃ cut : Cut, cut.Blanks sentence ∧ pieces = cut.pieces) ∧
      (∃ accepted, answers = [accepted] ∧ accepted ≠ [] ∧ accepted.Nodup) ∧
      (hints = none ∨ ∃ hint, hints = some [hint])
  | _ => False

namespace Cloze

variable {sentence : Text} {cut : Cut}

theorem blankIn_ofCut (h : cut.Blanks sentence) (rule : Rule) {answers : List Text}
    (hanswers : answers ≠ []) {hints : Option (List Text)}
    (hhints : hints = none ∨ ∃ hint, hints = some [hint]) :
    (Quiz.cloze (ofCut cut rule answers hints)).question.BlankIn sentence := by
  obtain ⟨answer, hanswer⟩ := List.exists_mem_of_ne_nil _ hanswers
  have hmem : answer ∈ (OrderedSet.ofList answers).toList := by simpa using hanswer
  have hnodup := (OrderedSet.ofList answers).nodup
  exact ⟨⟨cut, h, rfl⟩, ⟨_, rfl, List.ne_nil_of_mem hmem, hnodup⟩, hhints⟩

theorem blankIn_trio (h : cut.Blanks sentence) {prompt : Text} {responses : List Text}
    {reading : Option Text} {trivial : Bool} {cloze : Cloze}
    (hcloze : cloze ∈ (trio cut prompt responses reading trivial).toList) :
    (Quiz.cloze cloze).question.BlankIn sentence := by
  cases trivial with
  | true =>
    obtain rfl := List.mem_singleton.1 hcloze
    exact blankIn_ofCut h _ (by simp) (Or.inl rfl)
  | false =>
    rcases List.mem_cons.1 hcloze with rfl | hcloze
    · exact blankIn_ofCut h _ (by simp) (Or.inl rfl)
    · rcases List.mem_cons.1 hcloze with rfl | hcloze
      · exact blankIn_ofCut h _ (by simp) (Or.inr ⟨_, rfl⟩)
      · obtain rfl := List.mem_singleton.1 hcloze
        exact blankIn_ofCut h _ (by simp) (Or.inr ⟨_, rfl⟩)

end Cloze

namespace Sentence

variable {s : Sentence} {bullet : Bullet}

/-- Every cloze that a bullet gives is a blank in the sentence. -/
theorem blankIn_of_mem_given {cloze : Cloze} (h : .cloze cloze ∈ s.given bullet) :
    (Quiz.cloze cloze).question.BlankIn s.item.prompt := by
  rcases given_cases h with ⟨-, own, hown, heq⟩ | ⟨-, v, hentry, hv⟩
  · obtain rfl := Quiz.cloze.inj heq
    obtain ⟨-, cut, hcut, rfl⟩ := fillCloze_eq_ok_iff.1 hown
    exact Cloze.blankIn_ofCut (Cut.blanks_of_locate hcut) .fill (List.cons_ne_nil _ _) (Or.inl rfl)
  · rw [Vocabulary.quizzes_eq, List.mem_append] at hv
    rcases hv with hv | hv
    · obtain ⟨card, -, hcard⟩ := List.mem_map.1 hv
      cases hcard
    · obtain ⟨own, hown, heq⟩ := List.mem_map.1 hv
      obtain rfl := Quiz.cloze.inj heq
      obtain ⟨clozes, hclozes, hown⟩ := List.mem_flatMap.1 hown
      obtain ⟨locator, cut, hcut, rfl⟩ :=
        (itemizes_of_entry hentry).clozes_eq clozes (Option.mem_toList.1 hclozes)
      rw [Trio.toList_map] at hown
      obtain ⟨bare, hbare, rfl⟩ := List.mem_map.1 hown
      have hblank : (Quiz.cloze bare).question.BlankIn s.item.prompt :=
        Cloze.blankIn_trio (Cut.blanks_of_locate hcut) hbare
      exact hblank

/-- The item and the text of a fill bullet tell what its cloze asks. -/
theorem question_fillCloze_congr {s' : Sentence} {bullet' : Bullet} {cloze cloze' : Cloze}
    (h : s.fillCloze bullet = .ok cloze) (h' : s'.fillCloze bullet' = .ok cloze')
    (hitem : s.item = s'.item) (hcontent : bullet.content = bullet'.content) :
    (Quiz.cloze cloze).question = (Quiz.cloze cloze').question := by
  have hfields : bullet.fields = bullet'.fields := congrArg Fields.ofText hcontent
  obtain ⟨-, cut, hcut, rfl⟩ := fillCloze_eq_ok_iff.1 h
  obtain ⟨-, cut', hcut', rfl⟩ := fillCloze_eq_ok_iff.1 h'
  rw [hitem, hfields, hcut'] at hcut
  obtain rfl := Except.ok.inj hcut
  rw [hfields]
  rfl

end Sentence

/-! ## Sources -/

/-- A block lists an identity under a raw text. -/
def Block.Lists (block : Block) (raw : Text) (id : QuizId) : Prop :=
  ∃ s, block.sentence? = some (.ok s) ∧ (raw, id) ∈ s.listings block.bullets

namespace Block

variable {headings : Text → List Nat} {source : Text} {block block' : Block} {s s' : Sentence}
  {bullet : Bullet}

theorem header_mem_lines (h : block.sentence? = some (.ok s)) : s.header ∈ block.lines := by
  obtain ⟨header, content, hheader, -, hreads⟩ := exists_reads_of_sentence? h
  rw [hreads.header_eq]
  exact mem_lines_of_header? hheader

/-- The text of the header line tells the item. -/
theorem item_eq_of_text_eq (h : block.sentence? = some (.ok s))
    (h' : block'.sentence? = some (.ok s')) (htext : s.header.text = s'.header.text) :
    s.item = s'.item := by
  obtain ⟨header, content, -, hcontent, hreads⟩ := exists_reads_of_sentence? h
  obtain ⟨header', content', -, hcontent', hreads'⟩ := exists_reads_of_sentence? h'
  rw [hreads.header_eq, hreads'.header_eq] at htext
  rw [htext, hcontent', Option.some.injEq] at hcontent
  rw [hreads.item_eq, hreads'.item_eq, hcontent]

/-- A cloze that is listed is a blank in the sentence of the block. -/
theorem Lists.blankIn {raw : Text} {cloze : Cloze} (h : block.Lists raw (Quiz.cloze cloze).id) :
    ∃ s, block.sentence? = some (.ok s) ∧
      (Quiz.cloze cloze).question.BlankIn s.item.prompt := by
  obtain ⟨s, hs, hlisted⟩ := h
  refine ⟨s, hs, ?_⟩
  rcases Sentence.mem_listings.1 hlisted with
    ⟨-, quiz, hquiz, hid⟩ | ⟨bullet, -, -, quiz, hquiz, hid⟩
  · -- Neither a card nor a matching has the identity of a cloze.
    have hkind : quiz.kind = .cloze := Quiz.kind_eq_of_id_eq hid
    rcases List.mem_append.1 hquiz with hquiz | hquiz
    · obtain ⟨card, -, rfl⟩ := List.mem_map.1 hquiz
      cases hkind
    · obtain ⟨matching, -, rfl⟩ := List.mem_map.1 hquiz
      cases hkind
  · have hkind : quiz.kind = .cloze := Quiz.kind_eq_of_id_eq hid
    cases quiz with
    | cloze own =>
      rw [← Quiz.id_eq_id_iff_question.1 hid]
      exact Sentence.blankIn_of_mem_given hquiz
    | card card => cases hkind
    | matching matching => cases hkind

/-- In one source, only the cloze of a fill bullet is listed under its raw text. -/
theorem Lists.eq_of_fill {cloze : Cloze} (hblock : block ∈ ofSource headings source)
    (hs : block.sentence? = some (.ok s)) (hbullet : bullet ∈ block.bullets)
    (hkind : bullet.kind = .fill) (hcloze : s.fillCloze bullet = .ok cloze)
    (hblock' : block' ∈ ofSource headings source) {id : QuizId}
    (h : block'.Lists (s.raw bullet) id) :
    id = (Quiz.cloze cloze).id := by
  obtain ⟨s', hs', hlisted⟩ := h
  have hnewline : ∀ {block : Block} {line : Line}, block ∈ ofSource headings source →
      line ∈ block.lines → '\n' ∉ line.text := fun hblock hline =>
    Line.newline_notMem_of_mem_ofSource (mem_ofSource_of_mem_lines hblock hline)
  rcases Sentence.mem_listings.1 hlisted with
    ⟨hheader, -⟩ | ⟨bullet', hbullet', hraw, quiz, hquiz, rfl⟩
  · refine absurd ?_ (hnewline hblock' (header_mem_lines hs'))
    rw [← hheader]
    simp [Sentence.raw]
  · obtain ⟨hheader, hline⟩ := Text.append_cons_inj (hnewline hblock (header_mem_lines hs))
      (hnewline hblock' (header_mem_lines hs')) hraw
    obtain ⟨hkind', hcontent⟩ := Bullet.eq_of_text_eq hbullet hbullet' hline
    rcases Sentence.given_cases hquiz with ⟨-, cloze', hcloze', rfl⟩ | ⟨hvocabulary, -⟩
    · have hitem := item_eq_of_text_eq hs hs' hheader
      exact Quiz.id_eq_id_iff_question.2
        (Sentence.question_fillCloze_congr hcloze hcloze' hitem hcontent).symm
    · rw [← hkind', hkind] at hvocabulary
      cases hvocabulary

end Block

namespace Graph

variable {g g' : Graph} {file : Nat}

/-- A block that compiles adds what it lists, and no quiz that it does not list. -/
theorem exists_contribution_of_compileBlock {block : Block}
    (h : g.compileBlock file block = .ok g') :
    ∃ c, g' = g.add c ∧ (∀ raw id, OrderedMap.Brings c.raws raw id ↔ block.Lists raw id) ∧
      ∀ quiz ∈ c.quizzes, ∃ raw, block.Lists raw quiz.id := by
  rcases compileBlock_ok_cases h with ⟨hnone, rfl⟩ | ⟨s, c, hs, hc, rfl⟩
  · refine ⟨.nil, rfl, fun raw id => ?_, by simp [Contribution.nil]⟩
    simp [Contribution.nil, Block.Lists, hnone]
  · have hlists : ∀ raw id, (raw, id) ∈ s.listings block.bullets ↔ block.Lists raw id := by
      simp [Block.Lists, hs]
    refine ⟨c, rfl, fun raw id => (Sentence.brings_raws_plan hc).trans (hlists raw id), ?_⟩
    intro quiz hquiz
    obtain ⟨raw, hraw⟩ := ((Sentence.mem_quizzes_iff_mentions hc).1 hquiz).lists
    exact ⟨raw, (hlists raw quiz.id).1 hraw⟩

theorem compileUntil_cons_none {block : Block} {blocks : List Block}
    (h : g.compileUntil file (block :: blocks) = (g', none)) :
    ∃ next, g.compileBlock file block = .ok next ∧ next.compileUntil file blocks = (g', none) := by
  rw [compileUntil] at h
  split at h
  · next next hnext => exact ⟨next, hnext, h⟩
  · simp at h

/-- Blocks that compile one after the other add what they list. -/
theorem exists_contribution_of_compileUntil {blocks : List Block}
    (h : g.compileUntil file blocks = (g', none)) :
    ∃ c, g' = g.add c ∧
      (∀ raw id, OrderedMap.Brings c.raws raw id ↔ ∃ block ∈ blocks, block.Lists raw id) ∧
      ∀ quiz ∈ c.quizzes, ∃ block ∈ blocks, ∃ raw, block.Lists raw quiz.id := by
  induction blocks generalizing g with
  | nil =>
    obtain ⟨rfl, -⟩ := Prod.mk.inj h
    exact ⟨.nil, rfl, by simp [Contribution.nil], by simp [Contribution.nil]⟩
  | cons block blocks ih =>
    obtain ⟨next, hblock, hblocks⟩ := compileUntil_cons_none h
    obtain ⟨c, rfl, hraws, hquizzes⟩ := exists_contribution_of_compileBlock hblock
    obtain ⟨d, rfl, hraws', hquizzes'⟩ := ih hblocks
    refine ⟨c ++ d, (add_append g c d).symm, fun raw id => ?_, fun quiz hquiz => ?_⟩
    · rw [Contribution.raws_append, OrderedMap.brings_append, hraws, hraws']
      simp
    · rcases List.mem_append.1 hquiz with hquiz | hquiz
      · exact ⟨block, List.mem_cons_self, hquizzes quiz hquiz⟩
      · obtain ⟨other, hother, hlists⟩ := hquizzes' quiz hquiz
        exact ⟨other, List.mem_cons_of_mem _ hother, hlists⟩

theorem exists_compileBlock_of_compileUntil {blocks : List Block}
    (h : g.compileUntil file blocks = (g', none)) {block : Block} (hblock : block ∈ blocks) :
    ∃ before after, compileBlock file before block = .ok after := by
  induction blocks generalizing g with
  | nil => cases hblock
  | cons first blocks ih =>
    obtain ⟨next, hfirst, hblocks⟩ := compileUntil_cons_none h
    rcases List.mem_cons.1 hblock with rfl | hblock
    · exact ⟨g, next, hfirst⟩
    · exact ih hblocks hblock

theorem exists_fillCloze_of_compileBlock {block : Block} (h : g.compileBlock file block = .ok g')
    {s : Sentence} (hs : block.sentence? = some (.ok s)) {bullet : Bullet}
    (hbullet : bullet ∈ block.bullets) (hkind : bullet.kind = .fill) :
    ∃ cloze, s.fillCloze bullet = .ok cloze := by
  rcases compileBlock_ok_cases h with ⟨hnone, -⟩ | ⟨s', c, hs', hc, -⟩
  · rw [hnone] at hs
    cases hs
  · rw [hs', Option.some.injEq, Except.ok.injEq] at hs
    subst hs
    exact (Sentence.exists_of_collect_plan hc).1 bullet hbullet hkind

theorem rawIds?_eq_singleton {raw : Text} {id : QuizId}
    (h : ∀ other, g.raws.Relates raw other ↔ other = id) : g.rawIds? raw = some [id] := by
  obtain ⟨ids, hids, hid⟩ := (h id).2 rfl
  have hmem : ∀ other, other ∈ ids.toList ↔ other ∈ [id] := by
    intro other
    rw [List.mem_singleton, ← h other]
    constructor
    · exact fun hother => ⟨ids, hids, hother⟩
    · rintro ⟨ids', hids', hother⟩
      rw [hids, Option.some.injEq] at hids'
      rwa [hids']
  have hperm := (List.perm_ext_iff_of_nodup ids.nodup (List.nodup_singleton id)).2 hmem
  rw [rawIds?, hids, Option.map_some, List.perm_singleton.1 hperm]

/-- Under an identity that is listed stands a quiz that asks what the identity says. -/
theorem WellFormed.exists_get?_of_relates (hg : g.WellFormed) {raw : Text} {quiz : Quiz}
    (h : g.raws.Relates raw quiz.id) :
    ∃ node, g.get? quiz.id = some node ∧ node.question = quiz.question := by
  obtain ⟨ids, hids, hid⟩ := h
  have hnode : quiz.id ∈ g.nodes.keys :=
    (hg.raw (raw, ids) (OrderedMap.mem_entries_iff.2 hids)).2 _ hid
  obtain ⟨e, he, hkey⟩ := List.mem_map.1 hnode
  have hquestion : e.2.question = quiz.question :=
    Quiz.id_eq_id_iff_question.1 ((hg.keyed e he).trans hkey)
  refine ⟨e.2, ?_, hquestion⟩
  rw [← hkey]
  exact OrderedMap.mem_entries_iff.1 he

end Graph

section

variable {headings : Text → List Nat} {source : Text} {g : Graph}

theorem compileUntil_of_compileText (h : compileText headings source = .ok g) :
    Graph.empty.compileUntil 0 (Block.ofSource headings source) = (g, none) := by
  unfold compileText at h
  split at h
  · next g' hrun =>
    rw [Except.ok.inj h] at hrun
    exact hrun
  · cases h

theorem wellFormed_of_compileText (h : compileText headings source = .ok g) : g.WellFormed := by
  have hwellFormed := Graph.wellFormed_empty.compileUntil 0 (Block.ofSource headings source)
  rwa [compileUntil_of_compileText h] at hwellFormed

end

namespace Graph

variable {g : Graph} {file : Nat} {blocks : List Block}

/-- Every node of blocks that compile alone is listed by a block. -/
theorem exists_lists_of_compileUntil (h : empty.compileUntil file blocks = (g, none)) {id : QuizId}
    (hid : id ∈ g.nodes.keys) : ∃ block ∈ blocks, ∃ raw, block.Lists raw id := by
  obtain ⟨c, rfl, -, hquizzes⟩ := exists_contribution_of_compileUntil h
  rcases mem_nodes_add.1 hid with hid | hid
  · cases hid
  · obtain ⟨quiz, hquiz, rfl⟩ := List.mem_map.1 hid
    exact hquizzes quiz hquiz

theorem relates_raws_of_compileUntil (h : empty.compileUntil file blocks = (g, none)) {raw : Text}
    {id : QuizId} : g.raws.Relates raw id ↔ ∃ block ∈ blocks, block.Lists raw id := by
  obtain ⟨c, rfl, hraws, -⟩ := exists_contribution_of_compileUntil h
  have hempty : ¬empty.raws.Relates raw id := OrderedMap.not_relates_empty
  rw [relates_raws_add, hraws]
  simp only [hempty, false_or]

/-- Under a fill bullet of a source stands the one cloze that the bullet gives. -/
theorem exists_fillCloze_of_compileText {headings : Text → List Nat} {source : Text}
    (h : compileText headings source = .ok g) {block : Block}
    (hblock : block ∈ Block.ofSource headings source) {s : Sentence}
    (hs : block.sentence? = some (.ok s)) {bullet : Bullet} (hbullet : bullet ∈ block.bullets)
    (hkind : bullet.kind = .fill) :
    ∃ own node, s.fillCloze bullet = .ok own ∧
      g.rawIds? (s.raw bullet) = some [(Quiz.cloze own).id] ∧
      g.get? (Quiz.cloze own).id = some node ∧ node.question = (Quiz.cloze own).question := by
  have hrun := compileUntil_of_compileText h
  obtain ⟨before, after, hcompile⟩ := exists_compileBlock_of_compileUntil hrun hblock
  obtain ⟨own, hown⟩ := exists_fillCloze_of_compileBlock hcompile hs hbullet hkind
  have hlists : block.Lists (s.raw bullet) (Quiz.cloze own).id := by
    have hgiven : Quiz.cloze own ∈ s.given bullet := by
      rw [Sentence.given_of_fillCloze hkind hown]
      exact List.mem_singleton.2 rfl
    exact ⟨s, hs, Sentence.mem_listings.2 (Or.inr ⟨bullet, hbullet, rfl, _, hgiven, rfl⟩)⟩
  have honly : ∀ other, g.raws.Relates (s.raw bullet) other ↔ other = (Quiz.cloze own).id := by
    intro other
    rw [relates_raws_of_compileUntil hrun]
    constructor
    · rintro ⟨block', hblock', hlists'⟩
      exact hlists'.eq_of_fill hblock hs hbullet hkind hown hblock'
    · rintro rfl
      exact ⟨block, hblock, hlists⟩
  have hg : g.WellFormed := wellFormed_of_compileText h
  obtain ⟨node, hnode, hquestion⟩ := hg.exists_get?_of_relates ((honly _).2 rfl)
  exact ⟨own, node, hown, rawIds?_eq_singleton honly, hnode, hquestion⟩

end Graph

/-- Every cloze of a source that compiles is a blank in the sentence of one of its blocks : a text,
the blank and a text, which are the sentence around a part that is not empty. There is one list of
answers, which is not empty and has no duplicates, and at most one hint. Under a fill bullet stands
one cloze, that of the cut which the bullet designates : its first answer is what was blanked, and
behind it stand the further values of the bullet in order, without duplicates. -/
theorem clozes_of_compileText {headings : Text → List Nat} {source : Text} {g : Graph}
    (h : compileText headings source = .ok g) :
    (∀ id cloze, g.get? id = some (.cloze cloze) →
      ∃ block ∈ Block.ofSource headings source, ∃ s, block.sentence? = some (.ok s) ∧
        (∃ l c r, cloze.pieces = [.text l, .blank, .text r] ∧ l ++ c ++ r = s.item.prompt ∧
          c ≠ []) ∧
        (∃ accepted, cloze.answers = [accepted] ∧ accepted ≠ [] ∧ accepted.Nodup) ∧
        (cloze.hints = none ∨ ∃ hint, cloze.hints = some [hint])) ∧
    ∀ block ∈ Block.ofSource headings source, ∀ s, block.sentence? = some (.ok s) →
      ∀ bullet ∈ block.bullets, bullet.kind = .fill → ∃ id cloze cut,
        g.rawIds? (s.raw bullet) = some [id] ∧ g.get? id = some (.cloze cloze) ∧
        Cut.locate s.item.prompt bullet.fields.first = .ok cut ∧ cloze.pieces = cut.pieces ∧
        cut.fill cut.blank = s.item.prompt ∧
        cloze.answers = [cut.blank :: (bullet.fields.rest.filter (· ≠ cut.blank)).eraseDups] := by
  have hrun := compileUntil_of_compileText h
  constructor
  · intro id cloze hnode
    have hentry := OrderedMap.mem_entries_iff.2 hnode
    obtain rfl : (Quiz.cloze cloze).id = id := (wellFormed_of_compileText h).keyed _ hentry
    obtain ⟨block, hblock, raw, hlists⟩ :=
      Graph.exists_lists_of_compileUntil hrun (List.mem_map_of_mem hentry)
    obtain ⟨s, hs, ⟨cut, hblanks, hpieces⟩, hanswers, hhints⟩ := hlists.blankIn
    exact ⟨block, hblock, s, hs,
      ⟨cut.left, cut.blank, cut.right, hpieces, hblanks.append_eq, hblanks.blank_ne_nil⟩,
      hanswers, hhints⟩
  · intro block hblock s hs bullet hbullet hkind
    obtain ⟨own, node, hown, hraw, hnode, hquestion⟩ :=
      Graph.exists_fillCloze_of_compileText h hblock hs hbullet hkind
    obtain ⟨-, cut, hcut, rfl⟩ := Sentence.fillCloze_eq_ok_iff.1 hown
    cases node with
    | cloze cloze =>
      obtain ⟨hpieces, hanswers, -⟩ := Question.cloze.inj hquestion
      have haccepted : cloze.answers =
          [cut.blank :: (bullet.fields.rest.filter (· ≠ cut.blank)).eraseDups] := by
        rw [← OrderedSet.toList_ofList_cons]
        exact hanswers
      exact ⟨_, cloze, cut, hraw, hnode, hcut, hpieces, (Cut.blanks_of_locate hcut).append_eq,
        haccepted⟩
    | card card => cases hquestion
    | matching matching => cases hquestion

/-- Two blocks with one header and one fill bullet, of which the first has a vocabulary item and the
second a translation. -/
theorem clozes_of_compileText_of_equal_headers :
    let header := "# @ aba @ c\n".toList
    let fill := "- @fill [a]b @ x @ a @ x".toList
    let source := header ++ fill ++ "\n- @ b @ d\n\n".toList ++ header ++
      "- @translation @en e\n".toList ++ fill
    let compiled := compileText Markdown.headingStarts source
    ∃ g, compiled = .ok g ∧ g.countKind .cloze = 4 ∧
      (∀ id cloze, g.get? id = some (.cloze cloze) →
        ∃ block ∈ Block.ofSource Markdown.headingStarts source,
          ∃ s, block.sentence? = some (.ok s) ∧
          ∃ l c r, cloze.pieces = [.text l, .blank, .text r] ∧ l ++ c ++ r = s.item.prompt) ∧
      (g.rawIds? (header ++ fill)).map (·.map g.get?) = some [some (.cloze
        { pieces := [.text [], .blank, .text "ba".toList]
          answers := [["a".toList, "x".toList]]
          hints := none
          rule := .fill
          notes := ⟨translationOf? [("en".toList, "e".toList)], none⟩ })] := by
  intro header fill source compiled
  obtain ⟨g, hg⟩ : ∃ g, compiled = .ok g :=
    exists_eq_ok_of_isSome (by decide +kernel)
  have hcount : compiled.toOption.map (·.countKind .cloze) = some 4 := by
    decide +kernel
  have hfill : compiled.toOption.map
      (fun g => (g.rawIds? (header ++ fill)).map (·.map g.get?)) = some (some [some (.cloze
        { pieces := [.text [], .blank, .text "ba".toList]
          answers := [["a".toList, "x".toList]]
          hints := none
          rule := .fill
          notes := ⟨translationOf? [("en".toList, "e".toList)], none⟩ })]) := by
    decide +kernel
  obtain ⟨hclozes, -⟩ := clozes_of_compileText hg
  rw [hg] at hcount hfill
  refine ⟨g, hg, Option.some.inj hcount, fun id cloze hcloze => ?_, Option.some.inj hfill⟩
  obtain ⟨block, hblock, s, hs, ⟨l, c, r, hpieces, happend, -⟩, -⟩ := hclozes id cloze hcloze
  exact ⟨block, hblock, s, hs, l, c, r, hpieces, happend⟩

end StudyGraph
