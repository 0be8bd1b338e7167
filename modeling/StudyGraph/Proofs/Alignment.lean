import StudyGraph.Proofs.Reading

/-!
# Entries line up with the base text

Every character of the base text comes from one unit (`Furigana.StandsAt`,
`Furigana.exists_standsAt`). As long as no base is empty, the entries in front of a unit are as many
as the characters there, so the entry of a character is told by its unit alone
(`Furigana.StandsAt.getElem?_eq`) : a plain character is its own entry, and a group has its reading
at its first character and nothing at the others. Texts that are parsed have no empty base and no
empty reading, so entries are empty only inside groups (`Furigana.readings_line_up`).
-/

namespace StudyGraph.Furigana

variable {units : Furigana} {unit : Unit} {i j : Nat}

/-- The character at position `i` of the base text is the one at position `j` of a unit. -/
def StandsAt (units : Furigana) (i : Nat) (unit : Unit) (j : Nat) : Prop :=
  ∃ before after, units = before ++ unit :: after ∧ j < unit.base.length ∧
    i = before.base.length + j

theorem base_append (before after : Furigana) :
    base (before ++ after) = before.base ++ after.base :=
  List.flatMap_append

theorem readings_append (before after : Furigana) :
    readings (before ++ after) = before.readings ++ after.readings :=
  List.flatMap_append

/-- Every character of the base text comes from a unit. -/
theorem exists_standsAt (h : i < units.base.length) : ∃ unit j, units.StandsAt i unit j := by
  induction units generalizing i with
  | nil => simp [base] at h
  | cons first units ih =>
    rw [base_cons, List.length_append] at h
    by_cases hi : i < first.base.length
    · exact ⟨first, i, [], units, rfl, hi, by simp [base]⟩
    · obtain ⟨unit, j, before, after, rfl, hj, heq⟩ := ih (i := i - first.base.length) (by omega)
      refine ⟨unit, j, first :: before, after, rfl, hj, ?_⟩
      rw [base_cons, List.length_append]
      omega

/-- The character of the base text and its entry are those of the unit. -/
theorem StandsAt.getElem?_eq (h : units.StandsAt i unit j) (hunits : ∀ unit ∈ units, unit.Spoken) :
    units.base[i]? = unit.base[j]? ∧ units.readings[i]? = unit.readings[j]? := by
  obtain ⟨before, after, rfl, hj, rfl⟩ := h
  obtain ⟨hbefore, hrest⟩ := List.forall_mem_append.1 hunits
  have hunit : unit.Spoken := hrest unit List.mem_cons_self
  constructor
  · rw [base_append, base_cons, List.getElem?_append_right (Nat.le_add_right _ _),
      Nat.add_sub_cancel_left, List.getElem?_append_left hj]
  · rw [readings_append, readings_cons, ← length_readings hbefore,
      List.getElem?_append_right (Nat.le_add_right _ _), Nat.add_sub_cancel_left,
      List.getElem?_append_left (by rwa [hunit.length_readings])]

theorem StandsAt.mem (h : units.StandsAt i unit j) : unit ∈ units := by
  obtain ⟨before, after, rfl, -, -⟩ := h
  simp

/-- A plain character is its own entry. -/
theorem StandsAt.exists_of_plain {text : Text} (h : units.StandsAt i (.plain text) j)
    (hunits : ∀ unit ∈ units, unit.Spoken) :
    ∃ c, units.base[i]? = some c ∧ units.readings[i]? = some [c] := by
  obtain ⟨hbase, hreadings⟩ := h.getElem?_eq hunits
  obtain ⟨-, -, -, hj, -⟩ := h
  have hchar : text[j]? = some text[j] := List.getElem?_eq_getElem hj
  refine ⟨text[j], hbase.trans hchar, ?_⟩
  rw [hreadings, Unit.readings, List.getElem?_map, hchar]
  rfl

/-- A group has its reading at its first character, and nothing at the others. -/
theorem StandsAt.getElem?_readings_of_ruby {base reading : Text}
    (h : units.StandsAt i (.ruby base reading) j) (hunits : ∀ unit ∈ units, unit.Spoken) :
    units.readings[i]? = some (if j = 0 then reading else []) := by
  have hreadings := (h.getElem?_eq hunits).2
  obtain ⟨-, -, -, hj, -⟩ := h
  have hlength : j < base.length := hj
  rw [hreadings, Unit.readings]
  cases j with
  | zero => rfl
  | succ j =>
    rw [List.getElem?_cons_succ, List.getElem?_replicate, if_pos (by omega),
      if_neg (Nat.succ_ne_zero j)]

/-- Entries are empty exactly inside groups, behind their first characters. -/
theorem getElem?_readings_eq_nil_iff (hunits : ∀ unit ∈ units, unit.Spoken) :
    units.readings[i]? = some [] ↔
      ∃ base reading j, units.StandsAt i (.ruby base reading) j ∧ 0 < j := by
  constructor
  · intro h
    have hi : i < units.base.length := by
      rw [← length_readings hunits]
      exact (List.getElem?_eq_some_iff.1 h).1
    obtain ⟨unit, j, hstands⟩ := exists_standsAt hi
    cases unit with
    | plain text =>
      obtain ⟨c, -, hentry⟩ := hstands.exists_of_plain hunits
      cases h.symm.trans hentry
    | ruby base reading =>
      refine ⟨base, reading, j, hstands, Nat.pos_of_ne_zero fun hj => ?_⟩
      have hentry := hstands.getElem?_readings_of_ruby hunits
      rw [h, if_pos hj] at hentry
      exact (hunits _ hstands.mem).2 (Option.some.inj hentry).symm
  · rintro ⟨base, reading, j, hstands, hj⟩
    rw [hstands.getElem?_readings_of_ruby hunits, if_neg (Nat.ne_of_gt hj)]

/-- The entries of a text that is parsed are as many as the characters of its base text, and make up
its reading. Every character comes from a unit. A plain character is its own entry, the first
character of a group has the reading of the group, and the entries that are empty are those of the
other characters of groups. -/
theorem readings_line_up {t : Text} (h : parse t = .ok units) :
    units.readings.length = units.base.length ∧ units.readings.flatten = units.reading ∧
    (∀ i < units.base.length, ∃ unit j, units.StandsAt i unit j) ∧
    (∀ i text j, units.StandsAt i (.plain text) j →
      ∃ c, units.base[i]? = some c ∧ units.readings[i]? = some [c]) ∧
    (∀ i base reading, units.StandsAt i (.ruby base reading) 0 →
      units.readings[i]? = some reading) ∧
    ∀ i, units.readings[i]? = some [] ↔
      ∃ base reading j, units.StandsAt i (.ruby base reading) j ∧ 0 < j := by
  have hunits := spoken_of_parse h
  refine ⟨length_readings hunits, flatten_readings units, fun i => exists_standsAt,
    fun i text j hstands => hstands.exists_of_plain hunits, fun i base reading hstands => ?_,
    fun i => getElem?_readings_eq_nil_iff hunits⟩
  rw [hstands.getElem?_readings_of_ruby hunits, if_pos rfl]

/-- A group of two characters, and a plain character behind it. -/
theorem readings_line_up_behind_group :
    ∃ units, parse "\x7b今日\x7d^\x7bきょう\x7dは" = .ok units ∧
      units.readings.length = 3 ∧ units.readings[0]? = some "きょう".toList ∧
      units.readings[1]? = some [] ∧ units.readings[2]? = some "は".toList := by
  let group : Unit := .ruby "今日".toList "きょう".toList
  let plain : Unit := .plain "は".toList
  have hparse : parse "\x7b今日\x7d^\x7bきょう\x7dは" = .ok [group, plain] := by cbv
  obtain ⟨hlength, -, -, hplain, hgroup, hempty⟩ := readings_line_up hparse
  refine ⟨_, hparse, hlength, hgroup 0 _ _ ⟨[], [plain], rfl, by decide, rfl⟩, ?_, ?_⟩
  · exact (hempty 1).2 ⟨_, _, 1, ⟨[], [plain], rfl, by decide, rfl⟩, by decide⟩
  · obtain ⟨c, hbase, hentry⟩ := hplain 2 _ 0 ⟨[group], [], rfl, by decide, rfl⟩
    obtain rfl := Option.some.inj hbase
    exact hentry

end StudyGraph.Furigana
