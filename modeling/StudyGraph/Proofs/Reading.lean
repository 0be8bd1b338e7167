import StudyGraph.Proofs.Furigana
import StudyGraph.Proofs.Given
import StudyGraph.Proofs.Locate

/-!
# The reading of a blank

Units can be split into two runs between any two units, and inside a plain unit between any two of
its characters, but never inside a group (`Furigana.Splits`). The base texts and the entries for the
characters of the two runs are those of the units (`Furigana.Splits.base_eq`,
`Furigana.Splits.readings_eq`).

Where no base and no reading of a group is empty, as in units that are parsed, there is one entry
for each character (`Furigana.length_readings`), and the entry behind a position is empty exactly
inside a group. So the units can be split at a position unless the entry there is empty
(`Furigana.exists_splits_iff`), and a blank has a reading exactly if the units can be split at both
of its ends, namely that of the run between (`Furigana.exists_splitsInThree_iff`,
`Sentence.readingOf_eq_some_iff`).
-/

namespace StudyGraph

namespace Furigana

/-! ## Runs of units -/

/-- Units as two runs, one behind the other. A plain unit may be cut between two characters, and a
group is not cut. -/
inductive Splits : Furigana → Furigana → Furigana → Prop where
  /-- Before the first unit. -/
  | start (units : Furigana) : Splits units [] units
  /-- Inside a plain unit. -/
  | inside (s t : Text) (units : Furigana) :
      Splits (.plain (s ++ t) :: units) [.plain s] (.plain t :: units)
  /-- Behind the first unit. -/
  | behind (unit : Unit) {units before after : Furigana} (h : Splits units before after) :
      Splits (unit :: units) (unit :: before) after

/-- Units as three runs, one behind the other. -/
def SplitsInThree (units before middle after : Furigana) : Prop :=
  ∃ rest, units.Splits before rest ∧ rest.Splits middle after

/-- A group has a base and a reading. -/
def Unit.Spoken : Unit → Prop
  | plain _ => True
  | ruby base reading => base ≠ [] ∧ reading ≠ []

variable {units before middle after : Furigana} {unit : Unit}

theorem Unit.Proper.spoken (h : unit.Proper) : unit.Spoken := by
  cases unit with
  | plain text => trivial
  | ruby base reading => exact ⟨h.1.1, h.2.1⟩

theorem spoken_of_parse {t : Text} (h : parse t = .ok units) : ∀ unit ∈ units, unit.Spoken :=
  fun unit hunit => ((canonical_of_parseFrom h).1.proper unit hunit).spoken

theorem Unit.Spoken.length_readings (h : unit.Spoken) :
    unit.readings.length = unit.base.length := by
  cases unit with
  | plain text => simp [Unit.readings, Unit.base]
  | ruby base reading =>
    have hpos : 0 < base.length := List.length_pos_iff.2 h.1
    simp only [Unit.readings, Unit.base, List.length_cons, List.length_replicate]
    omega

theorem Unit.flatten_readings (unit : Unit) : unit.readings.flatten = unit.reading := by
  cases unit with
  | plain text => simp [readings, reading, ← List.flatMap_def]
  | ruby base reading => simp [readings, Unit.reading]

theorem base_cons (unit : Unit) (units : Furigana) :
    base (unit :: units) = unit.base ++ units.base :=
  List.flatMap_cons

theorem readings_cons (unit : Unit) (units : Furigana) :
    readings (unit :: units) = unit.readings ++ units.readings :=
  List.flatMap_cons

/-- There is one entry for each character of the base text. -/
theorem length_readings (h : ∀ unit ∈ units, unit.Spoken) :
    units.readings.length = units.base.length := by
  induction units with
  | nil => rfl
  | cons unit units ih =>
    obtain ⟨hunit, hunits⟩ := List.forall_mem_cons.1 h
    rw [readings_cons, base_cons, List.length_append, List.length_append, hunit.length_readings,
      ih hunits]

/-- The entries make up the full reading. -/
theorem flatten_readings (units : Furigana) : units.readings.flatten = units.reading := by
  induction units with
  | nil => rfl
  | cons unit units ih =>
    rw [readings_cons, List.flatten_append, unit.flatten_readings, ih]
    rfl

namespace Splits

variable (h : units.Splits before after)

include h

theorem base_eq : units.base = before.base ++ after.base := by
  induction h with
  | start units => rfl
  | inside s t units => simp [base, Unit.base]
  | behind unit _ ih => rw [base_cons, base_cons, ih, List.append_assoc]

theorem readings_eq : units.readings = before.readings ++ after.readings := by
  induction h with
  | start units => rfl
  | inside s t units => simp [readings, Unit.readings]
  | behind unit _ ih => rw [readings_cons, readings_cons, ih, List.append_assoc]

theorem spoken (hunits : ∀ unit ∈ units, unit.Spoken) :
    (∀ unit ∈ before, unit.Spoken) ∧ ∀ unit ∈ after, unit.Spoken := by
  induction h with
  | start units => exact ⟨by simp, hunits⟩
  | inside s t units =>
    refine ⟨by simp [Unit.Spoken], List.forall_mem_cons.2 ⟨trivial, ?_⟩⟩
    exact (List.forall_mem_cons.1 hunits).2
  | behind unit _ ih =>
    obtain ⟨hunit, hrest⟩ := List.forall_mem_cons.1 hunits
    obtain ⟨hbefore, hafter⟩ := ih hrest
    exact ⟨List.forall_mem_cons.2 ⟨hunit, hbefore⟩, hafter⟩

end Splits

/-- The first entry is not empty. -/
theorem head?_readings_ne (h : ∀ unit ∈ units, unit.Spoken) : units.readings.head? ≠ some [] := by
  induction units with
  | nil => simp [readings]
  | cons unit units ih =>
    obtain ⟨hunit, hunits⟩ := List.forall_mem_cons.1 h
    cases unit with
    | plain text =>
      cases text with
      | nil => exact ih hunits
      | cons c text => simp [readings, Unit.readings]
    | ruby base reading =>
      have hreading : reading ≠ [] := hunit.2
      simpa [readings, Unit.readings] using hreading

/-- Units can be split wherever no empty entry stands. -/
theorem exists_splits_of_getElem?_ne {i : Nat} (h : ∀ unit ∈ units, unit.Spoken)
    (hi : i ≤ units.base.length) (hentry : units.readings[i]? ≠ some []) :
    ∃ before after, units.Splits before after ∧ before.base.length = i := by
  induction units generalizing i with
  | nil =>
    obtain rfl := Nat.le_zero.1 hi
    exact ⟨[], [], .start [], rfl⟩
  | cons unit units ih =>
    obtain ⟨hunit, hunits⟩ := List.forall_mem_cons.1 h
    rw [base_cons, List.length_append] at hi
    rw [readings_cons] at hentry
    by_cases hbehind : unit.base.length ≤ i
    · rw [List.getElem?_append_right (by rwa [hunit.length_readings]),
        hunit.length_readings] at hentry
      obtain ⟨before, after, hsplits, hlength⟩ := ih hunits (by omega) hentry
      refine ⟨unit :: before, after, .behind unit hsplits, ?_⟩
      rw [base_cons, List.length_append]
      omega
    · rw [List.getElem?_append_left (by rw [hunit.length_readings]; omega)] at hentry
      cases unit with
      | plain text =>
        refine ⟨[.plain (text.take i)], .plain (text.drop i) :: units, ?_, ?_⟩
        · have hsplits := Splits.inside (text.take i) (text.drop i) units
          rwa [List.take_append_drop] at hsplits
        · have hlt : i < text.length := by simpa [Unit.base] using hbehind
          simp only [base, Unit.base, List.flatMap_cons, List.flatMap_nil, List.append_nil,
            List.length_take]
          omega
      | ruby base reading =>
        -- Behind the first character of a group all entries are empty.
        cases i with
        | zero => exact ⟨[], _, .start _, rfl⟩
        | succ i =>
          refine absurd ?_ hentry
          have hlt : i + 1 < base.length := by simpa [Unit.base] using hbehind
          rw [Unit.readings, List.getElem?_cons_succ, List.getElem?_replicate, if_pos (by omega)]

/-- Where units are split, the entries are split too. -/
theorem Splits.take_drop_readings (h : units.Splits before after)
    (hunits : ∀ unit ∈ units, unit.Spoken) :
    units.readings.take before.base.length = before.readings ∧
      units.readings.drop before.base.length = after.readings := by
  rw [h.readings_eq, ← length_readings (h.spoken hunits).1, List.take_left, List.drop_left]
  exact ⟨rfl, rfl⟩

/-- Units can be split exactly where no empty entry stands. -/
theorem exists_splits_iff {i : Nat} (h : ∀ unit ∈ units, unit.Spoken)
    (hi : i ≤ units.base.length) :
    (∃ before after, units.Splits before after ∧ before.base.length = i) ↔
      units.readings[i]? ≠ some [] := by
  refine ⟨?_, exists_splits_of_getElem?_ne h hi⟩
  rintro ⟨before, after, hsplits, rfl⟩
  have hhead := head?_readings_ne (hsplits.spoken h).2
  rwa [← (hsplits.take_drop_readings h).2, List.head?_drop] at hhead

/-- Units can be split between two parts of their base text exactly if no empty entry stands
there. -/
theorem exists_splits_base_iff {l r : Text} (h : ∀ unit ∈ units, unit.Spoken)
    (hbase : units.base = l ++ r) :
    (∃ before after, units.Splits before after ∧ before.base = l ∧ after.base = r) ↔
      units.readings[l.length]? ≠ some [] := by
  rw [← exists_splits_iff h (by simp [hbase])]
  constructor
  · rintro ⟨before, after, hsplits, rfl, -⟩
    exact ⟨before, after, hsplits, rfl⟩
  · rintro ⟨before, after, hsplits, hlength⟩
    have happend : before.base ++ after.base = l ++ r := hsplits.base_eq.symm.trans hbase
    exact ⟨before, after, hsplits, List.append_inj happend hlength⟩

/-- Units can be split around a middle part of their base text exactly if no empty entry stands at
its ends, and the entries between are the reading of the middle run. -/
theorem exists_splitsInThree_iff {l c r reading : Text} (h : ∀ unit ∈ units, unit.Spoken)
    (hbase : units.base = l ++ c ++ r) :
    (∃ before middle after, units.SplitsInThree before middle after ∧ before.base = l ∧
        middle.base = c ∧ after.base = r ∧ middle.reading = reading) ↔
      units.readings[l.length]? ≠ some [] ∧ units.readings[l.length + c.length]? ≠ some [] ∧
        ((units.readings.drop l.length).take c.length).flatten = reading := by
  rw [List.append_assoc] at hbase
  -- Behind a split at the start of the middle part, the entries are those of the rest.
  have hrest : ∀ {before rest : Furigana}, units.Splits before rest → before.base = l →
      (∀ unit ∈ rest, unit.Spoken) ∧ units.readings.drop l.length = rest.readings ∧
        units.readings[l.length + c.length]? = rest.readings[c.length]? := by
    rintro before rest hsplits rfl
    have hdrop := (hsplits.take_drop_readings h).2
    exact ⟨(hsplits.spoken h).2, hdrop, by rw [← hdrop, List.getElem?_drop]⟩
  constructor
  · rintro ⟨before, middle, after, ⟨rest, hbefore, hmiddle⟩, hl, rfl, hr, rfl⟩
    obtain ⟨hspoken, hdrop, hentry⟩ := hrest hbefore hl
    have hrestBase : rest.base = middle.base ++ r := hr ▸ hmiddle.base_eq
    refine ⟨(exists_splits_base_iff h hbase).1 ⟨before, rest, hbefore, hl, hrestBase⟩, ?_, ?_⟩
    · rw [hentry]
      exact (exists_splits_base_iff hspoken hrestBase).1 ⟨middle, after, hmiddle, rfl, hr⟩
    · rw [hdrop, (hmiddle.take_drop_readings hspoken).1, flatten_readings]
  · rintro ⟨hstart, hstop, hreading⟩
    obtain ⟨before, rest, hbefore, hl, hrestBase⟩ := (exists_splits_base_iff h hbase).2 hstart
    obtain ⟨hspoken, hdrop, hentry⟩ := hrest hbefore hl
    rw [hentry] at hstop
    obtain ⟨middle, after, hmiddle, rfl, hr⟩ :=
      (exists_splits_base_iff hspoken hrestBase).2 hstop
    rw [hdrop, (hmiddle.take_drop_readings hspoken).1, flatten_readings] at hreading
    exact ⟨before, middle, after, ⟨rest, hbefore, hmiddle⟩, hl, rfl, hr, hreading⟩

end Furigana

namespace Sentence

variable {s : Sentence} {cut : Cut} {reading : Text} {units : Furigana}

open Furigana

/-- A blank inside the entries has a reading if no empty entry stands at its ends. -/
theorem readingOf_eq_some_iff_getElem? {readings : List Text} (hs : s.readings = some readings)
    (hstart : cut.start < readings.length) (hstop : cut.stop ≤ readings.length) :
    s.readingOf cut = some reading ↔
      readings[cut.start]? ≠ some [] ∧ readings[cut.stop]? ≠ some [] ∧
        ((readings.drop cut.start).take cut.blank.length).flatten = reading := by
  have hempty : ∀ entry : Option Text, entry.any (·.isEmpty) = true ↔ entry = some [] := by
    intro entry
    cases entry <;> simp
  have hentry : ∀ entry : Option Text, entry ≠ none →
      entry.all (·.isEmpty) = entry.any (·.isEmpty) := by
    intro entry h
    cases entry <;> simp_all
  have hsome : readings[cut.start]? ≠ none := by simpa using hstart
  simp only [readingOf, hs, Option.bind_eq_bind, Option.bind_some, if_neg (Nat.not_lt.2 hstop),
    hentry _ hsome, Bool.or_eq_true, hempty]
  split
  · next h =>
    refine ⟨nofun, ?_⟩
    rintro ⟨hstart, hstop, -⟩
    exact absurd h (not_or.2 ⟨hstart, hstop⟩)
  · next h =>
    obtain ⟨hstart, hstop⟩ := not_or.1 h
    simp [hstart, hstop]

/-- The entries of a sentence are those of the units that spell out exactly its prompt. -/
theorem readingsOf_eq_some_iff {prompt : Text} {readings : List Text} :
    readingsOf prompt (some units) = some readings ↔
      units.base = prompt ∧ units.readings = readings := by
  simp [readingsOf, Option.filter_eq_some_iff]

/-- A blank in the prompt lies inside the entries. -/
theorem start_lt_length_of_blanks {readings : List Text} (hunits : ∀ unit ∈ units, unit.Spoken)
    (hs : readingsOf s.item.prompt (some units) = some readings) (hcut : cut.Blanks s.item.prompt) :
    cut.start < readings.length ∧ cut.stop ≤ readings.length := by
  obtain ⟨hbase, rfl⟩ := readingsOf_eq_some_iff.1 hs
  have hpos : 0 < cut.blank.length := List.length_pos_iff.2 hcut.blank_ne_nil
  rw [length_readings hunits, hbase, ← hcut.append_eq]
  simp only [Cut.stop, Cut.start, List.length_append]
  omega

/-- Where the units spell out exactly the prompt, a blank has a reading exactly if the units can be
split at both of its ends, and this is the reading of the run between. -/
theorem readingOf_eq_some_iff (hunits : ∀ unit ∈ units, unit.Spoken)
    (hs : s.readings = readingsOf s.item.prompt (some units)) (hcut : cut.Blanks s.item.prompt)
    (hbase : units.base = s.item.prompt) :
    s.readingOf cut = some reading ↔ ∃ before middle after,
      units.SplitsInThree before middle after ∧ before.base = cut.left ∧
        middle.base = cut.blank ∧ after.base = cut.right ∧ middle.reading = reading := by
  have hreadings := readingsOf_eq_some_iff.2 ⟨hbase, rfl⟩
  obtain ⟨hstart, hstop⟩ := start_lt_length_of_blanks hunits hreadings hcut
  rw [readingOf_eq_some_iff_getElem? (hs.trans hreadings) hstart hstop,
    exists_splitsInThree_iff hunits (hbase.trans hcut.append_eq.symm)]
  rfl

/-- Where the units do not spell out the prompt, no blank has a reading. -/
theorem readingOf_eq_none (hs : s.readings = readingsOf s.item.prompt (some units))
    (hbase : units.base ≠ s.item.prompt) : s.readingOf cut = none := by
  have hreadings : s.readings = none := by
    rw [hs]
    simp [readingsOf, hbase]
  simp [readingOf, hreadings]

/-- The reading of a blank is not empty, since the entry at its start is not. -/
theorem readingOf_ne_nil (hblank : cut.blank ≠ []) (h : s.readingOf cut = some reading) :
    reading ≠ [] := by
  obtain ⟨readings, -, h⟩ := Option.bind_eq_some_iff.1 h
  split at h
  · cases h
  · split at h
    · cases h
    · next hentries =>
      obtain rfl := Option.some.inj h
      rw [← List.head?_drop] at hentries
      obtain ⟨c, blank, hcut⟩ := List.exists_cons_of_ne_nil hblank
      cases hdrop : readings.drop cut.start with
      | nil => simp [hdrop] at hentries
      | cons entry entries =>
        have hentry : entry ≠ [] := by
          rintro rfl
          simp [hdrop] at hentries
        simp [hcut, hentry]

theorem readings_of_read {header : Line} {content : Text} {bullets : List Bullet}
    (h : read header content bullets = .ok s) :
    s.readings = readingsOf s.item.prompt s.notes.lede := by
  simp only [read, bind, Except.bind, pure, Except.pure] at h
  split at h
  · cases h
  · split at h
    · cases h
    · obtain rfl := Except.ok.inj h
      rfl

/-- The units of a sentence that is read are parsed from a bullet for the reading. -/
theorem exists_parse_of_read {header : Line} {content : Text} {bullets : List Bullet}
    (h : read header content bullets = .ok s) (hlede : s.notes.lede = some units) :
    ∃ bullet, bullets.find? (·.kind = .furigana) = some bullet ∧
      Furigana.parse bullet.content.trim = .ok units := by
  have hread := (reads_of_read h).ledeOf_eq
  rw [hlede, ledeOf] at hread
  split at hread
  · cases hread
  · next bullet hbullet =>
    obtain ⟨units', hunits, hsome⟩ := map_eq_ok_iff.1 hread
    obtain rfl := Option.some.inj hsome
    refine ⟨bullet, hbullet, ?_⟩
    cases hparse : Furigana.parse bullet.content.trim with
    | error e => simp [readFurigana, hparse, Except.mapError] at hunits
    | ok units => simpa [readFurigana, hparse, Except.mapError] using hunits

/-- The cloze of an item that gives nothing away accepts the item, and the reading of its blank. -/
theorem mem_answers_of_vocabularyClozes {fields : Fields} {trivial : Bool} {line : Line}
    {clozes : Trio Cloze} (h : s.vocabularyClozes fields trivial line = .ok (some clozes)) :
    ∃ cut : Cut, cut.Blanks s.item.prompt ∧ clozes.first.pieces = cut.pieces ∧
      ∀ answer, answer ∈ clozes.first.answers.flatten ↔
        answer ∈ fields.item.responses ∨ answer = fields.item.prompt ∨
          s.readingOf cut = some answer := by
  obtain ⟨locator, cut, hcut, rfl⟩ := exists_cut_of_vocabularyClozes h
  refine ⟨cut, Cut.blanks_of_locate hcut, rfl, fun answer => ?_⟩
  simp [Trio.map, Cloze.trio, Cloze.ofCut, Cloze.make]

/-- The units of a sentence are parsed from its first bullet for the reading. Where they spell out
exactly the prompt, a blank in the prompt has a reading exactly if they can be split into three runs
over the parts of the sentence, and it is the reading of the middle run. Otherwise no blank has a
reading. The blank always lies inside the entries. The cloze of an item that gives nothing away
accepts the reading of its blank where it has one, and otherwise only the item. -/
theorem readingOf_exact :
    (∀ header content bullets s, read header content bullets = .ok s →
      s.readings = readingsOf s.item.prompt s.notes.lede ∧
      ∀ units, s.notes.lede = some units →
        ∃ bullet, bullets.find? (·.kind = .furigana) = some bullet ∧
          Furigana.parse bullet.content.trim = .ok units) ∧
    (∀ (t : Text) (units : Furigana) (s : Sentence) (cut : Cut), Furigana.parse t = .ok units →
      s.readings = readingsOf s.item.prompt (some units) → cut.Blanks s.item.prompt →
      (units.base = s.item.prompt → ∀ reading, s.readingOf cut = some reading ↔
        ∃ before middle after, units.SplitsInThree before middle after ∧ before.base = cut.left ∧
          middle.base = cut.blank ∧ after.base = cut.right ∧ middle.reading = reading) ∧
      (units.base ≠ s.item.prompt → s.readingOf cut = none) ∧
      ∀ readings, s.readings = some readings →
        cut.start < readings.length ∧ cut.stop ≤ readings.length) ∧
    ∀ (s : Sentence) (fields : Fields) (trivial : Bool) (line : Line) (clozes : Trio Cloze),
      s.vocabularyClozes fields trivial line = .ok (some clozes) →
      ∃ cut : Cut, cut.Blanks s.item.prompt ∧ clozes.first.pieces = cut.pieces ∧
        ∀ answer, answer ∈ clozes.first.answers.flatten ↔
          answer ∈ fields.item.responses ∨ answer = fields.item.prompt ∨
            s.readingOf cut = some answer := by
  refine ⟨fun header content bullets s h =>
      ⟨readings_of_read h, fun units => exists_parse_of_read h⟩,
    fun t units s cut hparse hs hcut => ⟨fun hbase reading => ?_, readingOf_eq_none hs, ?_⟩,
    fun s fields trivial line clozes => mem_answers_of_vocabularyClozes⟩
  · exact readingOf_eq_some_iff (spoken_of_parse hparse) hs hcut hbase
  · intro readings hreadings
    exact start_lt_length_of_blanks (spoken_of_parse hparse) (hs ▸ hreadings) hcut

/-- A blank over a whole group has the reading of the group, and one over a part of it has none. -/
theorem readingOf_exact_over_group :
    let bullet : Bullet := ⟨.furigana, "\x7b今日\x7d^\x7bきょう\x7dは".toList,
      ⟨"- @furigana \x7b今日\x7d^\x7bきょう\x7dは".toList, 14⟩⟩
    ∃ s, read ⟨"# @ 今日は".toList, 0⟩ "今日は".toList [bullet] = .ok s ∧
      s.readingOf ⟨[], "今日".toList, "は".toList⟩ = some "きょう".toList ∧
      s.readingOf ⟨"今".toList, "日".toList, "は".toList⟩ = none := by
  intro bullet
  let units : Furigana := [.ruby "今日".toList "きょう".toList, .plain "は".toList]
  obtain ⟨s, hs, hprompt, hlede⟩ : ∃ s, read ⟨"# @ 今日は".toList, 0⟩ "今日は".toList [bullet] =
      .ok s ∧ s.item.prompt = "今日は".toList ∧ s.notes.lede = some units := by
    have hread : (read ⟨"# @ 今日は".toList, 0⟩ "今日は".toList [bullet]).toOption.map
        (fun s => (s.item.prompt, s.notes.lede)) = some ("今日は".toList, some units) := by
      decide +kernel
    cases hs : read ⟨"# @ 今日は".toList, 0⟩ "今日は".toList [bullet] with
    | error fault =>
      rw [hs] at hread
      cases hread
    | ok s =>
      rw [hs] at hread
      exact ⟨s, rfl, Prod.mk.inj (Option.some.inj hread)⟩
  obtain ⟨hreadings, hparses⟩ := readingOf_exact.1 _ _ _ s hs
  obtain ⟨_, -, hparse⟩ := hparses units hlede
  rw [hlede] at hreadings
  have hbase : units.base = s.item.prompt := hprompt ▸ rfl
  refine ⟨s, hs, ?_, Option.eq_none_iff_forall_ne_some.2 fun reading hreading => ?_⟩
  · have hcut : Cut.Blanks ⟨[], "今日".toList, "は".toList⟩ s.item.prompt := ⟨hprompt ▸ rfl, by decide⟩
    refine ((readingOf_exact.2.1 _ units s _ hparse hreadings hcut).1 hbase _).2 ?_
    exact ⟨[], _, _, ⟨units, .start units, .behind _ (.start _)⟩, rfl, rfl, rfl, rfl⟩
  · have hcut : Cut.Blanks ⟨"今".toList, "日".toList, "は".toList⟩ s.item.prompt :=
      ⟨hprompt ▸ rfl, by decide⟩
    obtain ⟨before, middle, after, ⟨rest, hsplits, -⟩, hleft, -⟩ :=
      ((readingOf_exact.2.1 _ units s _ hparse hreadings hcut).1 hbase _).1 hreading
    have hgroup : Splits (.ruby "今日".toList "きょう".toList :: [.plain "は".toList]) before rest :=
      hsplits
    cases hgroup with
    | start => simp [base] at hleft
    | behind unit h => simp [base_cons, Unit.base] at hleft

end Sentence

end StudyGraph
