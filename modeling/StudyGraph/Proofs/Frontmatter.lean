import StudyGraph.Fixture
import StudyGraph.Proofs.Join
import StudyGraph.Readers.Settings
import Mathlib.Data.List.DropRight

/-!
# Frontmatter

`Fixture.render` writes a fixture from the lines of its settings and its source. The closing is the
first newline with hyphens behind it, and no line of the settings starts with hyphens, so the search
for the closing ends behind the settings, whatever the source is (`Fixture.cutAt?_lines`), and what
was written comes back (`Fixture.split_render`). This takes a line of settings. Without one, the
newline in front of the closing hyphens is the one behind the opening hyphens, which `Fixture.split`
has dropped by then. So the closing is missed (`Fixture.split_render_nil_eq_ok_iff`), and never is
the source what comes back (`Fixture.length_lt_of_split_render_nil`). `Fixture.read_render_iff` puts
the two together.
-/

namespace StudyGraph

namespace Text

variable {c : Char} {needle lead s t before rest : Text}

/-! ## Cutting at the first occurrence -/

theorem afterPrefix?_eq_some_iff : afterPrefix? lead t = some rest ↔ t = lead ++ rest := by
  rw [afterPrefix?, List.isPrefixOf?_eq_some_iff_append_eq, eq_comm]

theorem afterPrefix?_append (lead t : Text) : afterPrefix? lead (lead ++ t) = some t :=
  afterPrefix?_eq_some_iff.2 rfl

theorem afterPrefix?_eq_none_of_not_prefix (h : ¬lead <+: t) : afterPrefix? lead t = none := by
  rw [Option.eq_none_iff_forall_ne_some]
  intro rest hrest
  exact h ⟨rest, (afterPrefix?_eq_some_iff.1 hrest).symm⟩

/-- What a text is cut at stands between the two parts. -/
theorem eq_append_of_cutAt? (h : cutAt? needle t = some (before, rest)) :
    t = before ++ needle ++ rest := by
  induction t generalizing before with
  | nil =>
    obtain ⟨rfl, rfl, rfl⟩ : needle = [] ∧ [] = before ∧ [] = rest := by simpa [cutAt?] using h
    rfl
  | cons c t ih =>
    rw [cutAt?] at h
    cases hafter : afterPrefix? needle (c :: t) with
    | some rest' =>
      obtain ⟨rfl, rfl⟩ : [] = before ∧ rest' = rest := by simpa [hafter] using h
      exact afterPrefix?_eq_some_iff.1 hafter
    | none =>
      obtain ⟨before, hcut, rfl⟩ : ∃ before', cutAt? needle t = some (before', rest) ∧
          c :: before' = before := by
        simpa [hafter] using h
      rw [ih hcut, List.append_assoc, List.append_assoc, List.cons_append]

theorem cutAt?_append_self (c : Char) (lead rest : Text) :
    cutAt? (c :: lead) (c :: lead ++ rest) = some ([], rest) := by
  rw [List.cons_append, cutAt?, ← List.cons_append, afterPrefix?_append]

theorem cutAt?_cons_of_not_prefix (h : ¬needle <+: c :: t) :
    cutAt? needle (c :: t) = (cutAt? needle t).map (Prod.map (c :: ·) id) := by
  rw [cutAt?, afterPrefix?_eq_none_of_not_prefix h]
  rfl

/-- A search passes over a text without the first character of what it searches for. -/
theorem cutAt?_append_of_notMem (hs : c ∉ s) (t : Text) :
    cutAt? (c :: lead) (s ++ t) = (cutAt? (c :: lead) t).map (Prod.map (s ++ ·) id) := by
  induction s with
  | nil => exact (congrFun Option.map_id _).symm
  | cons d s ih =>
    obtain ⟨hd, hs⟩ := not_or.1 (fun hmem => hs (List.mem_cons.2 hmem))
    have hprefix : ¬(c :: lead) <+: d :: (s ++ t) := fun h => hd (List.cons_prefix_cons.1 h).1
    rw [List.cons_append, cutAt?_cons_of_not_prefix hprefix, ih hs, Option.map_map]
    rfl

/-- A prefix without a character ends in front of the first such character. -/
theorem prefix_of_prefix_append_cons (hc : c ∉ lead) (h : lead <+: s ++ c :: t) : lead <+: s := by
  rcases List.prefix_or_prefix_of_prefix h (List.prefix_append s (c :: t)) with hlead | ⟨u, rfl⟩
  · exact hlead
  · cases u with
    | nil => simp
    | cons d u =>
      have hd : d = c := (List.cons_prefix_cons.1 ((List.prefix_append_right_inj s).1 h)).1
      exact absurd (by simp [hd]) hc

end Text

namespace Fixture

variable {newline : Text} {lines : List Text} {expectationsOf : Text → Except Text Expectations}

/-! ## Writing -/

/-- A fixture: the lines of its settings between two lines of hyphens, and its source behind them.
The newline ends each of the lines. -/
def render (newline : Text) (lines : List Text) (source : Text) : Text :=
  "---" ++ newline ++ lines.flatMap (· ++ newline) ++ "---" ++ newline ++ source

/-! ## Newlines -/

theorem dropNewline_append (h : newline = "\n" ∨ newline = "\r\n") (t : Text) :
    dropNewline (newline ++ t) = t := by
  rcases h with rfl | rfl <;> rfl

/-- A newline is carriage returns and a line feed. -/
theorem exists_eq_returns_append (h : newline = "\n" ∨ newline = "\r\n") :
    ∃ returns : Text, (∀ c ∈ returns, c = '\r') ∧ newline = returns ++ ['\n'] := by
  rcases h with rfl | rfl
  · exact ⟨[], by simp, rfl⟩
  · exact ⟨['\r'], by simp, rfl⟩

theorem dropReturns_eq_rdropWhile (t : Text) : dropReturns t = t.rdropWhile (· == '\r') := rfl

theorem dropReturns_append {returns : Text} (h : ∀ c ∈ returns, c = '\r') (t : Text) :
    dropReturns (t ++ returns) = dropReturns t := by
  rw [dropReturns, List.reverse_append, List.dropWhile_append_of_pos (by simpa using h),
    dropReturns]

theorem dropReturns_eq_self {t : Text} (h : t.getLast? ≠ some '\r') : dropReturns t = t := by
  rw [dropReturns_eq_rdropWhile, List.rdropWhile_eq_self_iff]
  intro hne hlast
  rw [List.getLast?_eq_some_getLast hne, eq_of_beq hlast] at h
  exact h rfl

/-- Lines that do not end with a carriage return keep all of their characters. -/
theorem dropReturns_join (hnewline : newline = "\n" ∨ newline = "\r\n")
    (hlines : ∀ line ∈ lines, line.getLast? ≠ some '\r') :
    dropReturns (Text.join newline lines) = Text.join newline lines := by
  obtain ⟨returns, -, rfl⟩ := exists_eq_returns_append hnewline
  apply dropReturns_eq_self
  rcases List.eq_nil_or_concat lines with rfl | ⟨front, last, rfl⟩
  · simp [Text.join]
  · rw [List.concat_eq_append] at hlines ⊢
    rw [Text.join_append_cons, Text.join_singleton]
    cases last with
    | cons c last => simpa using hlines (c :: last) (by simp)
    | nil =>
      -- An empty last line leaves the newline of the line in front of it at the end.
      rcases List.eq_nil_or_concat front with rfl | ⟨front, line, rfl⟩
      · simp
      · simp

/-! ## Searching for the closing -/

/-- A line that does not start with hyphens does not do so with its newline either. -/
theorem not_hyphens_prefix {returns line : Text} (hreturns : ∀ c ∈ returns, c = '\r')
    (hline : ¬("---" : Text) <+: line) (t : Text) :
    ¬("---" : Text) <+: line ++ (returns ++ '\n' :: t) := by
  intro hprefix
  cases returns with
  | nil => exact hline (Text.prefix_of_prefix_append_cons (by decide) hprefix)
  | cons c returns =>
    obtain rfl : c = '\r' := hreturns c List.mem_cons_self
    exact hline (Text.prefix_of_prefix_append_cons (by decide) hprefix)

/-- The first newline with hyphens behind it is the one behind the lines. -/
theorem cutAt?_lines {returns : Text} (hreturns : ∀ c ∈ returns, c = '\r') (rest : Text) :
    ∀ {lines : List Text}, lines ≠ [] →
      (∀ line ∈ lines, '\n' ∉ line ∧ ¬("---" : Text) <+: line) →
      Text.cutAt? ('\n' :: "---") (lines.flatMap (· ++ (returns ++ ['\n'])) ++ ("---" ++ rest)) =
        some (Text.join (returns ++ ['\n']) lines ++ returns, rest)
  | [], hne, _ => absurd rfl hne
  | line :: lines, _, hlines => by
    obtain ⟨⟨hline, -⟩, hlines⟩ := List.forall_mem_cons.1 hlines
    have hpass : '\n' ∉ line ++ returns := by
      intro hmem
      rcases List.mem_append.1 hmem with hmem | hmem
      · exact hline hmem
      · exact absurd (hreturns _ hmem) (by decide)
    have hsplit : (line :: lines).flatMap (· ++ (returns ++ ['\n'])) ++ ("---" ++ rest) =
        (line ++ returns) ++
          '\n' :: (lines.flatMap (· ++ (returns ++ ['\n'])) ++ ("---" ++ rest)) := by
      simp
    rw [hsplit, Text.cutAt?_append_of_notMem hpass]
    cases lines with
    | nil =>
      rw [List.flatMap_nil, List.nil_append, ← List.cons_append, Text.cutAt?_append_self]
      simp
    | cons next lines =>
      have hnext : ¬('\n' :: ("---" : Text)) <+: '\n' ::
          ((next :: lines).flatMap (· ++ (returns ++ ['\n'])) ++ ("---" ++ rest)) := by
        intro hprefix
        have hhyphens := (List.cons_prefix_cons.1 hprefix).2
        rw [List.flatMap_cons, List.append_assoc, List.append_assoc, List.append_assoc,
          List.singleton_append] at hhyphens
        exact not_hyphens_prefix hreturns (hlines next List.mem_cons_self).2 _ hhyphens
      rw [Text.cutAt?_cons_of_not_prefix hnext,
        cutAt?_lines hreturns rest (List.cons_ne_nil next lines) hlines,
        Text.join_cons _ _ (List.cons_ne_nil next lines)]
      simp

/-! ## Reading -/

/-- Reading starts behind the opening hyphens and their newline, with the search for the closing. -/
theorem split_opening_eq_ok_iff (hnewline : newline = "\n" ∨ newline = "\r\n") (marks : Nat)
    (t settings source : Text) :
    split (List.replicate marks mark ++ ("---" ++ newline ++ t)) = .ok (settings, source) ↔
      ∃ before rest, Text.cutAt? "\n---" t = some (before, rest) ∧
        settings = dropReturns before ∧ source = dropNewline rest := by
  have hmarks : (List.replicate marks mark ++ ("---" ++ newline ++ t)).dropWhile (· == mark) =
      "---" ++ (newline ++ t) := by
    rw [List.dropWhile_append_of_pos (by simp), List.append_assoc]
    rfl
  simp only [split, hmarks, Text.afterPrefix?_append, dropNewline_append hnewline]
  cases Text.cutAt? "\n---" t with
  | none => simp
  | some cut => simp [Prod.ext_iff, eq_comm]

/-- The settings and the source come back if there are lines of settings. -/
theorem split_render (hnewline : newline = "\n" ∨ newline = "\r\n") (hne : lines ≠ [])
    (hlines : ∀ line ∈ lines, '\n' ∉ line ∧ ¬("---" : Text) <+: line) (marks : Nat)
    (source : Text) :
    split (List.replicate marks mark ++ render newline lines source) =
      .ok (dropReturns (Text.join newline lines), source) := by
  have hrender : render newline lines source = "---" ++ newline ++
      (lines.flatMap (· ++ newline) ++ ("---" ++ (newline ++ source))) := by
    simp [render]
  obtain ⟨returns, hreturns, hreturns_append⟩ := exists_eq_returns_append hnewline
  have hcut : Text.cutAt? "\n---"
      (lines.flatMap (· ++ newline) ++ ("---" ++ (newline ++ source))) =
      some (Text.join newline lines ++ returns, newline ++ source) := by
    rw [hreturns_append]
    exact cutAt?_lines hreturns _ hne hlines
  rw [hrender, split_opening_eq_ok_iff hnewline]
  exact ⟨_, _, hcut, (dropReturns_append hreturns _).symm, (dropNewline_append hnewline _).symm⟩

/-- Without lines the search for the closing starts at the closing hyphens, so they are no closing
themselves, and stand among what is read as settings if there is another closing. -/
theorem split_render_nil_eq_ok_iff (hnewline : newline = "\n" ∨ newline = "\r\n") (marks : Nat)
    (source settings source' : Text) :
    split (List.replicate marks mark ++ render newline [] source) = .ok (settings, source') ↔
      ∃ before rest, Text.cutAt? "\n---" (newline ++ source) = some (before, rest) ∧
        settings = dropReturns ("---" ++ before) ∧ source' = dropNewline rest := by
  have hrender : render newline [] source =
      "---" ++ newline ++ ("---" ++ (newline ++ source)) := by
    simp [render]
  have hpass : Text.cutAt? "\n---" ("---" ++ (newline ++ source)) =
      (Text.cutAt? "\n---" (newline ++ source)).map (Prod.map (("---" : Text) ++ ·) id) :=
    Text.cutAt?_append_of_notMem (by decide) _
  rw [hrender, split_opening_eq_ok_iff hnewline, hpass]
  cases Text.cutAt? "\n---" (newline ++ source) with
  | none => simp
  | some cut => simp [Prod.ext_iff]

theorem length_dropNewline_le (t : Text) : (dropNewline t).length ≤ t.length := by
  unfold dropNewline
  split
  · exact Nat.le_succ _
  · exact (Nat.le_succ _).trans (Nat.le_succ _)
  · exact Nat.le_refl _

/-- Without lines less than the source comes back. -/
theorem length_lt_of_split_render_nil (hnewline : newline = "\n" ∨ newline = "\r\n") {marks : Nat}
    {source settings source' : Text}
    (h : split (List.replicate marks mark ++ render newline [] source) = .ok (settings, source')) :
    source'.length < source.length := by
  obtain ⟨before, rest, hcut, -, rfl⟩ := (split_render_nil_eq_ok_iff hnewline _ _ _ _).1 h
  have hlength : newline.length + source.length = before.length + (rest.length + 4) := by
    simpa using congrArg List.length (Text.eq_append_of_cutAt? hcut)
  have hnewline_length : newline.length ≤ 2 := by rcases hnewline with rfl | rfl <;> decide
  have hdrop := length_dropNewline_le rest
  omega

theorem read_of_split {content settings source : Text}
    (h : split content = .ok (settings, source)) : read expectationsOf content =
      ((expectationsOf settings).mapError .settings).map fun expectations =>
        ⟨expectations, source⟩ := by
  simp only [read, h, bind, Except.bind]
  cases expectationsOf settings <;> rfl

/-- What is read has the source that the file is split into. -/
theorem exists_split_of_read {content : Text} {fixture : Fixture}
    (h : read expectationsOf content = .ok fixture) :
    ∃ settings, split content = .ok (settings, fixture.source) := by
  cases hsplit : split content with
  | error e =>
    rw [read, hsplit] at h
    cases h
  | ok parts =>
    obtain ⟨settings, source⟩ := parts
    rw [read_of_split hsplit] at h
    cases hexpectations : expectationsOf settings with
    | error message =>
      rw [hexpectations] at h
      cases h
    | ok expectations =>
      rw [hexpectations] at h
      cases h
      exact ⟨settings, rfl⟩

/-- A fixture is split where its delimiters are, exactly if it has lines of settings: behind any
byte-order marks, with either newline, and whatever its source is. Then the settings are read from
the text of those lines alone, which loses at most carriage returns at its end, and the source is
what was written. The reader of the settings may be any that expects nothing of empty settings. -/
theorem read_render_iff (hempty : expectationsOf [] = .ok {})
    (hnewline : newline = "\n" ∨ newline = "\r\n")
    (hlines : ∀ line ∈ lines, '\n' ∉ line ∧ ¬("---" : Text) <+: line) (marks : Nat)
    (source : Text) :
    let file := List.replicate marks mark ++ render newline lines source
    let settings := dropReturns (Text.join newline lines)
    (split file = .ok (settings, source) ↔ lines ≠ []) ∧
      (read expectationsOf file =
        ((expectationsOf settings).mapError .settings).map (⟨·, source⟩) ↔ lines ≠ []) ∧
      ((∀ line ∈ lines, line.getLast? ≠ some '\r') → settings = Text.join newline lines) := by
  intro file settings
  have hsplit : lines ≠ [] → split file = .ok (settings, source) := fun hne =>
    split_render hnewline hne hlines marks source
  refine ⟨⟨?_, hsplit⟩, ⟨?_, fun hne => read_of_split (hsplit hne)⟩, dropReturns_join hnewline⟩
  · rintro h rfl
    exact Nat.lt_irrefl _ (length_lt_of_split_render_nil hnewline h)
  · rintro h rfl
    -- Where there are no settings everything is left out, so nothing but the source can be wrong.
    have hnone : expectationsOf settings = .ok {} := hempty
    have hread : read expectationsOf file = .ok ⟨{}, source⟩ := by
      rw [h, hnone]
      rfl
    obtain ⟨settings', hsettings'⟩ := exists_split_of_read hread
    exact Nat.lt_irrefl _ (length_lt_of_split_render_nil hnewline hsettings')

/-- The newline may have a carriage return, and the source and the settings empty lines and more
hyphens. -/
theorem read_render_iff_beside_hyphens :
    Settings.read [] = .ok {} ∧
    read Settings.read (List.replicate 1 mark ++
        render "\r\n" [[], "expect_nodes = 3".toList, [], "description = '---'".toList]
          "\n---\n# @ a @ b\r\n---\n") =
      .ok ⟨{ description := some "---".toList, nodes := some 3 }, "\n---\n# @ a @ b\r\n---\n"⟩ := by
  have hempty : Settings.read [] = .ok {} := by decide +kernel
  have hlines : ∀ line ∈ [[], "expect_nodes = 3".toList, [], "description = '---'".toList],
      '\n' ∉ line ∧ ¬("---" : Text) <+: line := by
    decide
  obtain ⟨-, hread, -⟩ :=
    read_render_iff hempty (Or.inr rfl) hlines 1 "\n---\n# @ a @ b\r\n---\n"
  exact ⟨hempty, (hread.2 (by decide)).trans (by decide +kernel)⟩

/-- There is nothing wrong with settings that are empty, and still their file is no fixture. -/
theorem read_of_adjacent_hyphens :
    render "\n" [] "# @ a @ b\n" = "---\n---\n# @ a @ b\n".toList ∧
      Settings.read [] = .ok {} ∧
      read Settings.read "---\n---\n# @ a @ b\n" = .error .noClosing := by
  decide +kernel

end Fixture

end StudyGraph
