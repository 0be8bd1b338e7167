import StudyGraph.Compile

/-!
# The lines of a block that matter

A block is compiled from its header and from the bullets directly behind it (`Line.leading`). These
are read kind by kind : the first bullet for the translation and the first for the reading, and all
bullets for blanks and for vocabulary (`Bullet.find?_run`, `Bullet.filter_run`). Blocks that agree
in this are `Block.Alike`, and they have the same plan in every graph (`Block.Alike.plan?_eq`), so
they come to the same.

Hence much of a block is idle : all lines behind the first that is no bullet, unknown bullets, a
bullet for the translation or the reading behind another one, and the order of bullets of different
kinds. For each of these, `Line.leadingOf` says what becomes of the bullets of one kind, by
recursion on the lines in front (`Line.leadingOf_append_congr`). `Graph.compileBlock_eq_of_alike`
puts them together.
-/

namespace StudyGraph

/-! ## Lines -/

namespace Line

/-- The kind of bullet that the line is, if it is one. -/
def kind? (line : Line) : Option Bullet.Kind :=
  (Bullet.classify line.text).map Prod.fst

/-- The bullets with which the lines start. -/
def leading (lines : List Line) : List Line :=
  lines.takeWhile fun line => line.kind?.isSome

/-- The bullets of one kind among them. -/
def leadingOf (kind : Bullet.Kind) (lines : List Line) : List Line :=
  (leading lines).filter fun line => line.kind? = some kind

variable {kind : Bullet.Kind} {line next : Line} {lines rest before after : List Line}

theorem kind?_of_mem_leadingOf (h : line ∈ leadingOf kind lines) : line.kind? = some kind := by
  simpa using (List.mem_filter.1 h).2

theorem leadingOf_cons : leadingOf kind (line :: lines) =
    if line.kind? = none then []
    else if line.kind? = some kind then line :: leadingOf kind lines else leadingOf kind lines := by
  unfold leadingOf leading
  rw [List.takeWhile_cons]
  cases hline : line.kind? with
  | none => simp
  | some k => by_cases hk : k = kind <;> simp [hline, hk]

theorem leadingOf_cons_of_none (h : line.kind? = none) : leadingOf kind (line :: lines) = [] := by
  rw [leadingOf_cons, if_pos h]

/-- A bullet of another kind is passed over. -/
theorem leadingOf_cons_of_ne (hbullet : line.kind? ≠ none) (h : line.kind? ≠ some kind) :
    leadingOf kind (line :: lines) = leadingOf kind lines := by
  rw [leadingOf_cons, if_neg hbullet, if_neg h]

/-- Behind the same lines, what is the same stays the same. -/
theorem leadingOf_append_congr (h : leadingOf kind lines = leadingOf kind rest) :
    leadingOf kind (before ++ lines) = leadingOf kind (before ++ rest) := by
  induction before with
  | nil => exact h
  | cons first before ih =>
    rw [List.cons_append, List.cons_append, leadingOf_cons, leadingOf_cons, ih]

/-- What stands behind a line that is no bullet is not reached. -/
theorem leadingOf_append_of_none (h : line.kind? = none) :
    leadingOf kind (before ++ line :: after) = leadingOf kind before := by
  have hcut : leadingOf kind (line :: after) = leadingOf kind [] := leadingOf_cons_of_none h
  rw [leadingOf_append_congr hcut, List.append_nil]

/-- A bullet of another kind may come later. -/
theorem leadingOf_swap_of_ne (hbullet : line.kind? ≠ none) (h : line.kind? ≠ some kind) :
    leadingOf kind (line :: next :: after) = leadingOf kind (next :: line :: after) :=
  calc leadingOf kind (line :: next :: after)
    _ = leadingOf kind ([next] ++ after) := leadingOf_cons_of_ne hbullet h
    _ = leadingOf kind ([next] ++ line :: after) :=
      leadingOf_append_congr (leadingOf_cons_of_ne hbullet h).symm

/-- Neighbours of different kinds may change places. -/
theorem leadingOf_swap (hline : line.kind? ≠ none) (hnext : next.kind? ≠ none)
    (h : line.kind? ≠ next.kind?) :
    leadingOf kind (before ++ line :: next :: after) =
      leadingOf kind (before ++ next :: line :: after) := by
  refine leadingOf_append_congr ?_
  by_cases hkind : line.kind? = some kind
  · have hother : next.kind? ≠ some kind := fun hnext => h (hkind.trans hnext.symm)
    exact (leadingOf_swap_of_ne hnext hother).symm
  · exact leadingOf_swap_of_ne hline hkind

/-- Without the unknown bullets, those of every other kind are the same. -/
theorem leadingOf_filter_unknown (hkind : kind ≠ .unknown) :
    leadingOf kind (lines.filter fun line => line.kind? ≠ some .unknown) =
      leadingOf kind lines := by
  induction lines with
  | nil => rfl
  | cons first lines ih =>
    by_cases h : first.kind? = some .unknown
    · have hother : first.kind? ≠ some kind := by simpa [h] using Ne.symm hkind
      rw [List.filter_cons_of_neg (by simp [h]), ih, leadingOf_cons_of_ne (by simp [h]) hother]
    · rw [List.filter_cons_of_pos (by simpa using h), leadingOf_cons, leadingOf_cons, ih]

/-- The first bullet of a kind hides what comes behind it. -/
theorem head?_leadingOf_append (h : ∃ earlier ∈ before, earlier.kind? = some kind) :
    (leadingOf kind (before ++ lines)).head? = (leadingOf kind (before ++ rest)).head? := by
  induction before with
  | nil => simp at h
  | cons first before ih =>
    rw [List.cons_append, List.cons_append, leadingOf_cons, leadingOf_cons]
    split
    · rfl
    · split
      · rfl
      · next hfirst =>
        obtain ⟨earlier, hmem, hearlier⟩ := h
        rcases List.mem_cons.1 hmem with rfl | hmem
        · exact absurd hearlier hfirst
        · exact ih ⟨earlier, hmem, hearlier⟩

end Line

/-! ## Bullets -/

namespace Bullet

/-- The bullet on a line, if the line is one. -/
def ofLine? (line : Line) : Option Bullet :=
  (classify line.text).map fun (kind, content) => ⟨kind, content, line⟩

theorem kind?_eq_map_ofLine? (line : Line) : line.kind? = (ofLine? line).map Bullet.kind := by
  rw [Line.kind?, ofLine?, Option.map_map]
  rfl

/-- The bullets of a block are those on its leading lines. -/
theorem run_eq (lines : List Line) : run lines = (Line.leading lines).filterMap ofLine? := by
  induction lines with
  | nil => rfl
  | cons line lines ih =>
    rw [run, Line.leading, List.takeWhile_cons]
    cases hline : classify line.text with
    | none => simp [Line.kind?, hline]
    | some found =>
      have hbullet : line.kind?.isSome = true := by simp [Line.kind?, hline]
      have hof : ofLine? line = some ⟨found.1, found.2, line⟩ := by simp [ofLine?, hline]
      rw [if_pos hbullet, List.filterMap_cons_some hof, ih, Line.leading]

/-- The bullets of a kind are those on the leading lines of the kind. -/
theorem filter_run (kind : Kind) (lines : List Line) :
    (run lines).filter (·.kind = kind) = (Line.leadingOf kind lines).filterMap ofLine? := by
  have hline : ∀ line : Line, (ofLine? line).filter (·.kind = kind) =
      if line.kind? = some kind then ofLine? line else none := by
    intro line
    rw [kind?_eq_map_ofLine?]
    cases ofLine? line with
    | none => simp
    | some bullet => simp [Option.filter]
  rw [run_eq, Line.leadingOf, List.filter_filterMap, List.filterMap_filter]
  simp only [hline, decide_eq_true_eq]

theorem find?_run (kind : Kind) (lines : List Line) :
    (run lines).find? (·.kind = kind) = (Line.leadingOf kind lines).head?.bind ofLine? := by
  rw [← List.head?_filter, filter_run]
  cases hlines : Line.leadingOf kind lines with
  | nil => rfl
  | cons line rest =>
    have hkind : line.kind? = some kind := Line.kind?_of_mem_leadingOf (by rw [hlines]; simp)
    rw [kind?_eq_map_ofLine?, Option.map_eq_some_iff] at hkind
    obtain ⟨bullet, hbullet, -⟩ := hkind
    rw [List.filterMap_cons_some hbullet, List.head?_cons, List.head?_cons, Option.bind_some,
      hbullet]

end Bullet

/-! ## Blocks -/

/-- A sentence is read from the first bullets for the translation and for the reading. -/
theorem Sentence.read_congr (header : Line) (content : Text) {bullets bullets' : List Bullet}
    (htranslation : bullets.find? (·.kind = .translation) = bullets'.find? (·.kind = .translation))
    (hfurigana : bullets.find? (·.kind = .furigana) = bullets'.find? (·.kind = .furigana)) :
    read header content bullets = read header content bullets' := by
  simp only [read, ledeOf, translationOf, htranslation, hfurigana]

/-- A plan is made from the bullets for blanks and for vocabulary. -/
theorem Sentence.plan_congr (s : Sentence) (known : Bool) {bullets bullets' : List Bullet}
    (hfills : bullets.filter (·.kind = .fill) = bullets'.filter (·.kind = .fill))
    (hitems : bullets.filter (·.kind = .vocabulary) = bullets'.filter (·.kind = .vocabulary)) :
    s.plan known bullets = s.plan known bullets' := by
  simp only [plan, hfills, hitems]

namespace Block

/-- The leading bullet lines of a kind, behind the header. -/
def leadingOf (kind : Bullet.Kind) (block : Block) : List Line :=
  Line.leadingOf kind block.body

/-- Blocks with the same header line, whose leading bullets begin with the same for the translation
and with the same for the reading, and are the same for blanks and for vocabulary. -/
structure Alike (a b : Block) : Prop where
  header : a.header? = b.header?
  translation : (a.leadingOf .translation).head? = (b.leadingOf .translation).head?
  furigana : (a.leadingOf .furigana).head? = (b.leadingOf .furigana).head?
  fills : a.leadingOf .fill = b.leadingOf .fill
  vocabulary : a.leadingOf .vocabulary = b.leadingOf .vocabulary

variable {a b : Block}

/-- Blocks that are alike have the same plan. -/
theorem Alike.plan?_eq (h : a.Alike b) (g : Graph) : a.plan? g = b.plan? g := by
  have htranslation : a.bullets.find? (·.kind = .translation) =
      b.bullets.find? (·.kind = .translation) := by
    rw [bullets, bullets, Bullet.find?_run, Bullet.find?_run]
    exact congrArg (Option.bind · Bullet.ofLine?) h.translation
  have hfurigana : a.bullets.find? (·.kind = .furigana) = b.bullets.find? (·.kind = .furigana) := by
    rw [bullets, bullets, Bullet.find?_run, Bullet.find?_run]
    exact congrArg (Option.bind · Bullet.ofLine?) h.furigana
  have hfills : a.bullets.filter (·.kind = .fill) = b.bullets.filter (·.kind = .fill) := by
    rw [bullets, bullets, Bullet.filter_run, Bullet.filter_run]
    exact congrArg (List.filterMap Bullet.ofLine?) h.fills
  have hitems : a.bullets.filter (·.kind = .vocabulary) =
      b.bullets.filter (·.kind = .vocabulary) := by
    rw [bullets, bullets, Bullet.filter_run, Bullet.filter_run]
    exact congrArg (List.filterMap Bullet.ofLine?) h.vocabulary
  have hread := fun header content =>
    Sentence.read_congr header content htranslation hfurigana
  have hplan := fun (s : Sentence) known => s.plan_congr known hfills hitems
  simp only [plan?, h.header, hread, hplan]

theorem Alike.compileBlock_eq (h : a.Alike b) (file : Nat) (g : Graph) :
    g.compileBlock file a = g.compileBlock file b := by
  rw [Graph.compileBlock, Graph.compileBlock, stage, stage, h.plan?_eq]

/-- Blocks with one header whose leading bullets are the same in the four kinds that matter. -/
theorem alike_of_leadingOf {header : Line} {lines lines' : List Line}
    (h : ∀ kind, kind ≠ .unknown → Line.leadingOf kind lines = Line.leadingOf kind lines') :
    Alike ⟨header :: lines⟩ ⟨header :: lines'⟩ where
  header := rfl
  translation := congrArg List.head? (h .translation (by simp))
  furigana := congrArg List.head? (h .furigana (by simp))
  fills := h .fill (by simp)
  vocabulary := h .vocabulary (by simp)

/-- Of a kind that counts once, a further bullet is idle. -/
theorem alike_of_later {header line : Line} {before after : List Line} {kind : Bullet.Kind}
    (hkind : kind = .translation ∨ kind = .furigana) (hline : line.kind? = some kind)
    (hearlier : ∃ earlier ∈ before, earlier.kind? = some kind) :
    Alike ⟨header :: (before ++ line :: after)⟩ ⟨header :: (before ++ after)⟩ := by
  have hother : ∀ k, k ≠ kind → Line.leadingOf k (before ++ line :: after) =
      Line.leadingOf k (before ++ after) := by
    intro k hk
    refine Line.leadingOf_append_congr (Line.leadingOf_cons_of_ne (by simp [hline]) ?_)
    simpa [hline] using Ne.symm hk
  have hfirst : (Line.leadingOf kind (before ++ line :: after)).head? =
      (Line.leadingOf kind (before ++ after)).head? := Line.head?_leadingOf_append hearlier
  have hheads : ∀ k, (Line.leadingOf k (before ++ line :: after)).head? =
      (Line.leadingOf k (before ++ after)).head? := by
    intro k
    by_cases hk : k = kind
    · rw [hk, hfirst]
    · rw [hother k hk]
  refine ⟨rfl, hheads .translation, hheads .furigana, hother .fill ?_, hother .vocabulary ?_⟩
  · rcases hkind with rfl | rfl <;> simp
  · rcases hkind with rfl | rfl <;> simp

end Block

/-- Only the meaningful bullets of the leading run matter. Blocks that are alike come to the same
graph or the same failure, in every graph. So it makes no difference what stands behind the first
line that is no bullet, whether unknown bullets are there, whether another bullet for the
translation or the reading follows the first one, and in which order bullets of different kinds
stand. -/
theorem Graph.compileBlock_eq_of_alike (file : Nat) (g : Graph) :
    (∀ a b : Block, a.Alike b → g.compileBlock file a = g.compileBlock file b) ∧
    (∀ header line before after, line.kind? = none →
      g.compileBlock file ⟨header :: (before ++ line :: after)⟩ =
        g.compileBlock file ⟨header :: before⟩) ∧
    (∀ header lines, g.compileBlock file ⟨header :: lines.filter (·.kind? ≠ some .unknown)⟩ =
      g.compileBlock file ⟨header :: lines⟩) ∧
    (∀ header line before after kind, kind = .translation ∨ kind = .furigana →
      line.kind? = some kind → (∃ earlier ∈ before, earlier.kind? = some kind) →
      g.compileBlock file ⟨header :: (before ++ line :: after)⟩ =
        g.compileBlock file ⟨header :: (before ++ after)⟩) ∧
    ∀ header line next before after, line.kind? ≠ none → next.kind? ≠ none →
      line.kind? ≠ next.kind? →
      g.compileBlock file ⟨header :: (before ++ line :: next :: after)⟩ =
        g.compileBlock file ⟨header :: (before ++ next :: line :: after)⟩ := by
  refine ⟨fun a b h => h.compileBlock_eq file g, ?_, ?_, ?_, ?_⟩
  · intro header line before after hline
    have halike : Block.Alike ⟨header :: (before ++ line :: after)⟩ ⟨header :: before⟩ :=
      Block.alike_of_leadingOf fun kind _ => Line.leadingOf_append_of_none hline
    exact halike.compileBlock_eq file g
  · intro header lines
    have halike : Block.Alike ⟨header :: lines.filter (·.kind? ≠ some .unknown)⟩
        ⟨header :: lines⟩ :=
      Block.alike_of_leadingOf fun kind hkind => Line.leadingOf_filter_unknown hkind
    exact halike.compileBlock_eq file g
  · intro header line before after kind hkind hline hearlier
    exact (Block.alike_of_later hkind hline hearlier).compileBlock_eq file g
  · intro header line next before after hline hnext hne
    have halike : Block.Alike ⟨header :: (before ++ line :: next :: after)⟩
        ⟨header :: (before ++ next :: line :: after)⟩ :=
      Block.alike_of_leadingOf fun kind _ => Line.leadingOf_swap hline hnext hne
    exact halike.compileBlock_eq file g

/-- A broken reading is idle behind another one, and is a fault in front of it. -/
theorem Graph.compileBlock_eq_of_alike_past_broken_reading :
    let header : Line := ⟨"# @ ab @ c", 0⟩
    let reading : Line := ⟨"- @furigana ab", 11⟩
    let broken : Line := ⟨"- @furigana \x7b", 26⟩
    let fill : Line := ⟨"- @fill a", 40⟩
    let word : Line := ⟨"- @ b @ d", 50⟩
    let note : Line := ⟨"- @note", 60⟩
    let prose : Line := ⟨"prose", 68⟩
    ∃ g, empty.compileBlock 0 ⟨[header, reading, fill, word]⟩ = .ok g ∧
      empty.compileBlock 0 ⟨[header, reading, broken, fill, word]⟩ = .ok g ∧
      empty.compileBlock 0 ⟨[header, reading, word, fill]⟩ = .ok g ∧
      empty.compileBlock 0 ⟨[header, reading, note, fill, word]⟩ = .ok g ∧
      empty.compileBlock 0 ⟨[header, reading, fill, word, prose, broken, word]⟩ = .ok g ∧
      (empty.compileBlock 0 ⟨[header, broken, reading, fill, word]⟩).toOption = none := by
  intro header reading broken fill word note prose
  obtain ⟨-, hbehind, hunknown, hlater, hswap⟩ := compileBlock_eq_of_alike 0 empty
  cases hcompile : empty.compileBlock 0 ⟨[header, reading, fill, word]⟩ with
  | error failure =>
    have hfails :
        (empty.compileBlock 0 ⟨[header, reading, fill, word]⟩).toOption.isSome = true := by
      decide +kernel
    simp [hcompile, Except.toOption] at hfails
  | ok g =>
    have hkind : broken.kind? = some .furigana := by decide +kernel
    have hearlier : ∃ earlier ∈ [reading], earlier.kind? = some .furigana :=
      ⟨reading, by simp, by decide +kernel⟩
    have hnote : [reading, note, fill, word].filter (·.kind? ≠ some .unknown) =
        [reading, fill, word] := by decide +kernel
    have hunknown := hunknown header [reading, note, fill, word]
    rw [hnote] at hunknown
    refine ⟨g, rfl, ?_, ?_, ?_, ?_, by decide +kernel⟩
    · exact (hlater header broken [reading] [fill, word] _ (Or.inr rfl) hkind hearlier).trans
        hcompile
    · exact (hswap header word fill [reading] [] (by decide +kernel) (by decide +kernel)
        (by decide +kernel)).trans hcompile
    · exact hunknown.symm.trans hcompile
    · exact (hbehind header prose [reading, fill, word] [broken, word] (by decide +kernel)).trans
        hcompile

end StudyGraph
