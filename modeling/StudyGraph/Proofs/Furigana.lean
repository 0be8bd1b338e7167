import Mathlib.Data.List.Chain
import StudyGraph.Furigana

/-!
# Furigana notation is read exactly

A text is furigana notation if it is made of characters other than braces, and of groups whose base
and reading are not empty and have no braces (`Furigana.Notation`). Units are canonical if no part
of them is empty or has a brace, and no two plain units are neighbours (`Furigana.Canonical`).

What is read is canonical and is written as the text that was read
(`Furigana.canonical_of_parseFrom`), and canonical units are read from what is written of them (`Furigana.Canonical.parseFrom_render`),
group by group (`Furigana.group_eq_ok_iff`) and plain character by plain character
(`Furigana.parseFrom_append`). So the notation is what canonical units are written as
(`Furigana.notation_iff_exists_canonical`). An error points at what is wrong
(`Furigana.blames_of_parseFrom`) : read from a later position on, it points into the text from there
on (`Furigana.Blames.shift`). `Furigana.parse_exact` puts this together.
-/

namespace StudyGraph.Furigana

/-! ## Notation -/

/-- The text has no brace. -/
def BraceFree (t : Text) : Prop :=
  '\x7b' ∉ t ∧ '\x7d' ∉ t

/-- Texts that are furigana notation. -/
inductive Notation : Text → Prop where
  | nil : Notation []
  | char {c : Char} {t : Text} (hopen : c ≠ '\x7b') (hclose : c ≠ '\x7d') (ht : Notation t) :
      Notation (c :: t)
  | group {base reading t : Text} (hbase : base ≠ [] ∧ BraceFree base)
      (hreading : reading ≠ [] ∧ BraceFree reading) (ht : Notation t) :
      Notation ('\x7b' :: base ++ '\x7d' :: '^' :: '\x7b' :: reading ++ '\x7d' :: t)

/-- No part of the unit is empty or has a brace. -/
def Unit.Proper : Unit → Prop
  | plain text => text ≠ [] ∧ BraceFree text
  | ruby base reading => (base ≠ [] ∧ BraceFree base) ∧ reading ≠ [] ∧ BraceFree reading

/-- Whether the unit is plain. -/
def Unit.isPlain : Unit → Bool
  | plain _ => true
  | ruby _ _ => false

/-- The units are proper, and no two plain ones are neighbours. -/
structure Canonical (units : Furigana) : Prop where
  proper : ∀ unit ∈ units, unit.Proper
  apart : units.IsChain fun unit next => ¬(unit.isPlain = true ∧ next.isPlain = true)

theorem braceFree_cons_iff {c : Char} {t : Text} :
    BraceFree (c :: t) ↔ (c ≠ '\x7b' ∧ c ≠ '\x7d') ∧ BraceFree t := by
  simp only [BraceFree, List.mem_cons, not_or, ne_eq, eq_comm]
  exact and_and_and_comm

theorem Notation.append {s t : Text} (hs : Notation s) (ht : Notation t) : Notation (s ++ t) := by
  induction hs with
  | nil => exact ht
  | char hopen hclose _ ih => exact .char hopen hclose ih
  | group hbase hreading _ ih => simpa using Notation.group hbase hreading ih

theorem notation_of_braceFree {t : Text} (h : BraceFree t) : Notation t := by
  induction t with
  | nil => exact .nil
  | cons c t ih =>
    obtain ⟨⟨hopen, hclose⟩, ht⟩ := braceFree_cons_iff.1 h
    exact .char hopen hclose (ih ht)

/-- What is written of proper units is notation. -/
theorem Unit.Proper.notation_render {unit : Unit} (h : unit.Proper) : Notation unit.render := by
  cases unit with
  | plain text => exact notation_of_braceFree h.2
  | ruby base reading => simpa [render] using Notation.group h.1 h.2 .nil

theorem notation_render {units : Furigana} (h : ∀ unit ∈ units, unit.Proper) :
    Notation (render units) := by
  induction units with
  | nil => exact .nil
  | cons unit units ih =>
    obtain ⟨hunit, hunits⟩ := List.forall_mem_cons.1 h
    rw [render, List.flatMap_cons]
    exact hunit.notation_render.append (ih hunits)

/-! ## Groups -/

theorem braced?_eq_some_iff {t inner rest : Text} :
    braced? t = some (inner, rest) ↔ t = inner ++ '\x7d' :: rest ∧ BraceFree inner := by
  constructor
  · intro h
    refine ⟨eq_append_of_braced? h, ?_⟩
    induction t generalizing inner with
    | nil => cases h
    | cons c t ih =>
      rw [braced?] at h
      split at h
      · cases h
        simp [BraceFree]
      · next hclose =>
        split at h
        · cases h
        · next hopen =>
          obtain ⟨⟨inner', rest'⟩, hinner, heq⟩ := Option.map_eq_some_iff.1 h
          cases heq
          exact braceFree_cons_iff.2 ⟨⟨hopen, hclose⟩, ih hinner⟩
  · rintro ⟨rfl, h⟩
    induction inner with
    | nil => simp [braced?]
    | cons c inner ih =>
      obtain ⟨⟨hopen, hclose⟩, hinner⟩ := braceFree_cons_iff.1 h
      rw [List.cons_append, braced?, if_neg hclose, if_neg hopen, ih hinner]
      rfl

/-- A group is read from behind its opening brace exactly if it is written there. -/
theorem group_eq_ok_iff {i : Nat} {t rest : Text} {unit : Unit} :
    group i t = .ok (unit, rest) ↔
      unit.isPlain = false ∧ unit.Proper ∧ '\x7b' :: t = unit.render ++ rest := by
  constructor
  · intro h
    have happend := eq_append_of_group h
    unfold group at h
    split at h
    · cases h
    · next base more hbase =>
      split at h
      · cases h
      · next reading rest' hreading =>
        split at h
        · cases h
        · next hempty =>
          cases h
          have hbaseFree := (braced?_eq_some_iff.1 hbase).2
          have hreadingFree := (braced?_eq_some_iff.1 hreading).2
          obtain ⟨hbaseNe, hreadingNe⟩ : base ≠ [] ∧ reading ≠ [] := by simpa using hempty
          exact ⟨rfl, ⟨⟨hbaseNe, hbaseFree⟩, hreadingNe, hreadingFree⟩, happend⟩
    · cases h
  · rintro ⟨hplain, hproper, happend⟩
    cases unit with
    | plain text => cases hplain
    | ruby base reading =>
      obtain ⟨⟨hbaseNe, hbaseFree⟩, hreadingNe, hreadingFree⟩ := hproper
      have ht : t = base ++ '\x7d' :: ('^' :: '\x7b' :: (reading ++ '\x7d' :: rest)) := by
        simpa [Unit.render] using happend
      have hbase := braced?_eq_some_iff.2 ⟨ht, hbaseFree⟩
      have hreading : braced? (reading ++ '\x7d' :: rest) = some (reading, rest) :=
        braced?_eq_some_iff.2 ⟨rfl, hreadingFree⟩
      simp [group, hbase, hreading, hbaseNe, hreadingNe]

/-! ## Units -/

theorem canonical_nil : Canonical [] :=
  ⟨by simp, .nil⟩

/-- A group may stand before any units. -/
theorem Canonical.cons_ruby {unit : Unit} {units : Furigana} (hplain : unit.isPlain = false)
    (hproper : unit.Proper) (h : Canonical units) : Canonical (unit :: units) where
  proper := List.forall_mem_cons.2 ⟨hproper, h.proper⟩
  apart := by
    cases units with
    | nil => exact .singleton unit
    | cons next units => exact .cons_cons (by simp [hplain]) h.apart

theorem canonical_consPlain {c : Char} {units : Furigana} (hopen : c ≠ '\x7b') (hclose : c ≠ '\x7d')
    (h : Canonical units) : Canonical (consPlain c units) := by
  have hchar : Unit.Proper (.plain [c]) :=
    ⟨List.cons_ne_nil c [], braceFree_cons_iff.2 ⟨⟨hopen, hclose⟩, by simp [BraceFree]⟩⟩
  match units with
  | [] => exact ⟨by simpa [consPlain] using hchar, .singleton _⟩
  | .ruby base reading :: units =>
    exact ⟨List.forall_mem_cons.2 ⟨hchar, h.proper⟩, .cons_cons (by simp [Unit.isPlain]) h.apart⟩
  | .plain text :: units =>
    obtain ⟨⟨-, htext⟩, hunits⟩ := List.forall_mem_cons.1 h.proper
    have hlonger : Unit.Proper (.plain (c :: text)) :=
      ⟨List.cons_ne_nil c text, braceFree_cons_iff.2 ⟨⟨hopen, hclose⟩, htext⟩⟩
    refine ⟨List.forall_mem_cons.2 ⟨hlonger, hunits⟩, ?_⟩
    cases units with
    | nil => exact .singleton _
    | cons next units =>
      obtain ⟨hnext, hapart⟩ := List.isChain_cons_cons.1 h.apart
      exact .cons_cons hnext hapart

theorem render_consPlain (c : Char) (units : Furigana) :
    render (consPlain c units) = c :: render units := by
  match units with
  | [] => rfl
  | .plain _ :: _ => rfl
  | .ruby _ _ :: _ => rfl

/-- Characters that come one by one before units that start with no plain unit form a plain
unit. -/
theorem foldr_consPlain {units : Furigana} (h : ∀ unit ∈ units.head?, unit.isPlain = false) :
    ∀ {text : Text}, text ≠ [] → text.foldr consPlain units = .plain text :: units
  | [], hne => absurd rfl hne
  | [c], _ => by
    match units, h with
    | [], _ => rfl
    | .ruby _ _ :: _, _ => rfl
    | .plain text :: _, h => exact absurd (h (.plain text) rfl) (by simp [Unit.isPlain])
  | c :: d :: text, _ => by
    rw [List.foldr_cons, foldr_consPlain h (List.cons_ne_nil d text)]
    rfl

/-- The notation is what canonical units are written as. -/
theorem notation_iff_exists_canonical {t : Text} :
    Notation t ↔ ∃ units, Canonical units ∧ render units = t := by
  constructor
  · intro h
    induction h with
    | nil => exact ⟨[], canonical_nil, rfl⟩
    | @char c t hopen hclose _ ih =>
      obtain ⟨units, hunits, rfl⟩ := ih
      exact ⟨consPlain c units, canonical_consPlain hopen hclose hunits, render_consPlain c units⟩
    | @group base reading t hbase hreading _ ih =>
      obtain ⟨units, hunits, rfl⟩ := ih
      exact ⟨.ruby base reading :: units, hunits.cons_ruby rfl ⟨hbase, hreading⟩,
        by simp [render, Unit.render]⟩
  · rintro ⟨units, hunits, rfl⟩
    exact notation_render hunits.proper

/-! ## Reading -/

theorem parseFrom_open (i : Nat) (t : Text) : parseFrom i ('\x7b' :: t) =
    match group i t with
    | .error e => .error e
    | .ok (unit, rest) => (parseFrom (i + unit.render.length) rest).map (unit :: ·) := by
  rw [parseFrom, if_pos rfl]
  split <;> simp only [*]

theorem parseFrom_plain {i : Nat} {c : Char} {t : Text} (hopen : c ≠ '\x7b') (hclose : c ≠ '\x7d') :
    parseFrom i (c :: t) = (parseFrom (i + 1) t).map (consPlain c) := by
  rw [parseFrom, if_neg hopen, if_neg hclose]

theorem map_eq_ok_iff {ε α β : Type} {f : α → β} {x : Except ε α} {b : β} :
    x.map f = .ok b ↔ ∃ a, x = .ok a ∧ f a = b := by
  cases x <;> simp [Except.map]

/-- What is read is canonical, and is written as the text that was read. -/
theorem canonical_of_parseFrom {i : Nat} {t : Text} {units : Furigana}
    (h : parseFrom i t = .ok units) : Canonical units ∧ render units = t := by
  induction i, t using parseFrom.induct generalizing units with
  | case1 i =>
    rw [parseFrom] at h
    cases h
    exact ⟨canonical_nil, rfl⟩
  | case2 i t e hgroup =>
    rw [parseFrom_open, hgroup] at h
    cases h
  | case3 i t unit rest hgroup _ ih =>
    rw [parseFrom_open, hgroup] at h
    obtain ⟨hplain, hproper, happend⟩ := group_eq_ok_iff.1 hgroup
    obtain ⟨units, hunits, rfl⟩ := map_eq_ok_iff.1 h
    obtain ⟨hcanonical, rfl⟩ := ih hunits
    exact ⟨hcanonical.cons_ruby hplain hproper, happend.symm⟩
  | case4 i t hne =>
    rw [parseFrom, if_neg hne] at h
    cases h
  | case5 i c t hopen hclose ih =>
    rw [parseFrom_plain hopen hclose] at h
    obtain ⟨units, hunits, rfl⟩ := map_eq_ok_iff.1 h
    obtain ⟨hcanonical, rfl⟩ := ih hunits
    exact ⟨canonical_consPlain hopen hclose hcanonical, render_consPlain c units⟩

/-- Plain text is read character by character. -/
theorem parseFrom_append {text : Text} (h : BraceFree text) (i : Nat) (t : Text) :
    parseFrom i (text ++ t) =
      (parseFrom (i + text.length) t).map fun units => text.foldr consPlain units := by
  induction text generalizing i with
  | nil =>
    rw [List.nil_append, List.length_nil, Nat.add_zero]
    cases parseFrom i t <;> rfl
  | cons c text ih =>
    obtain ⟨⟨hopen, hclose⟩, htext⟩ := braceFree_cons_iff.1 h
    rw [List.cons_append, parseFrom_plain hopen hclose, ih htext, List.length_cons,
      Nat.add_assoc, Nat.add_comm 1]
    cases parseFrom (i + (text.length + 1)) t <;> rfl

/-- Canonical units are read from what is written of them. -/
theorem Canonical.parseFrom_render {units : Furigana} (h : Canonical units) (i : Nat) :
    parseFrom i (render units) = .ok units := by
  induction units generalizing i with
  | nil => rw [render, List.flatMap_nil, parseFrom]
  | cons unit units ih =>
    obtain ⟨hproper, hunits⟩ := List.forall_mem_cons.1 h.proper
    have hrest : Canonical units := ⟨hunits, h.apart.tail⟩
    have happend : render (unit :: units) = unit.render ++ render units := List.flatMap_cons
    rw [happend]
    cases unit with
    | plain text =>
      have hhead : ∀ next ∈ units.head?, next.isPlain = false := by
        intro next hnext
        cases units with
        | nil => cases hnext
        | cons first units =>
          obtain rfl : first = next := by simpa using hnext
          simpa [Unit.isPlain] using (List.isChain_cons_cons.1 h.apart).1
      rw [Unit.render, parseFrom_append hproper.2, ih hrest]
      simp [Except.map, foldr_consPlain hhead hproper.1]
    | ruby base reading =>
      obtain ⟨t, ht⟩ : ∃ t, (Unit.ruby base reading).render ++ render units = '\x7b' :: t :=
        ⟨_, rfl⟩
      have hgroup := group_eq_ok_iff (i := i).2 ⟨rfl, hproper, ht.symm⟩
      rw [ht, parseFrom_open, hgroup]
      simp only
      rw [ih hrest]
      rfl

theorem notation_iff_exists_parse {t : Text} : Notation t ↔ ∃ units, parse t = .ok units := by
  rw [notation_iff_exists_canonical]
  constructor
  · rintro ⟨units, hunits, rfl⟩
    exact ⟨units, hunits.parseFrom_render 0⟩
  · rintro ⟨units, hunits⟩
    exact ⟨units, canonical_of_parseFrom hunits⟩

/-! ## Errors -/

/-- The error points at what is wrong in a text that starts at position `i`. -/
def Blames (i : Nat) (t : Text) : Error → Prop
  | .unclosedBrace p => ∃ before after, t = before ++ '\x7b' :: after ∧ p = i + before.length
  | .strayBrace p =>
    ∃ before after, t = before ++ '\x7d' :: after ∧ p = i + before.length ∧ Notation before
  | .missingReading base =>
    ∃ before after, t = before ++ '\x7b' :: base ++ '\x7d' :: after ∧ ¬['^', '\x7b'] <+: after ∧
      Notation before
  | .emptyRuby p =>
    ∃ before after, t = before ++ '\x7b' :: after ∧ p = i + before.length ∧ Notation before

/-- What an error points at behind some notation stands behind it in the whole text. -/
theorem Blames.shift {i : Nat} {s t : Text} {e : Error} (hs : Notation s)
    (h : Blames (i + s.length) t e) : Blames i (s ++ t) e := by
  have hlength : ∀ before : Text, i + s.length + before.length = i + (s ++ before).length :=
    fun before => by rw [List.length_append, Nat.add_assoc]
  cases e with
  | unclosedBrace p =>
    obtain ⟨before, after, rfl, rfl⟩ := h
    exact ⟨s ++ before, after, by simp, hlength before⟩
  | strayBrace p =>
    obtain ⟨before, after, rfl, rfl, hbefore⟩ := h
    exact ⟨s ++ before, after, by simp, hlength before, hs.append hbefore⟩
  | missingReading base =>
    obtain ⟨before, after, rfl, hafter, hbefore⟩ := h
    exact ⟨s ++ before, after, by simp, hafter, hs.append hbefore⟩
  | emptyRuby p =>
    obtain ⟨before, after, rfl, rfl, hbefore⟩ := h
    exact ⟨s ++ before, after, by simp, hlength before, hs.append hbefore⟩

theorem blames_of_group {i : Nat} {t : Text} {e : Error} (h : group i t = .error e) :
    Blames i ('\x7b' :: t) e := by
  unfold group at h
  split at h
  · cases h
    exact ⟨[], t, rfl, rfl⟩
  · next base more hbase =>
    obtain ⟨rfl, -⟩ := braced?_eq_some_iff.1 hbase
    split at h
    · cases h
      refine ⟨'\x7b' :: base ++ ['\x7d', '^'], more, by simp, ?_⟩
      simp only [List.cons_append, List.length_cons, List.length_append, List.length_nil]
      omega
    · split at h
      · cases h
        exact ⟨[], _, rfl, rfl, .nil⟩
      · cases h
  · next base after hafter hbase =>
    cases h
    obtain ⟨rfl, -⟩ := braced?_eq_some_iff.1 hbase
    refine ⟨[], after, rfl, ?_, .nil⟩
    rintro ⟨more, rfl⟩
    exact hafter more rfl

/-- An error points at what is wrong. -/
theorem blames_of_parseFrom {i : Nat} {t : Text} {e : Error} (h : parseFrom i t = .error e) :
    Blames i t e := by
  have hmap : ∀ {α β : Type} {f : α → β} {x : Except Error α}, x.map f = .error e → x = .error e :=
    fun {_ _ _ x} hx => by cases x <;> simp_all [Except.map]
  induction i, t using parseFrom.induct with
  | case1 i =>
    rw [parseFrom] at h
    cases h
  | case2 i t e' hgroup =>
    rw [parseFrom_open, hgroup] at h
    cases h
    exact blames_of_group hgroup
  | case3 i t unit rest hgroup _ ih =>
    rw [parseFrom_open, hgroup] at h
    obtain ⟨-, hproper, happend⟩ := group_eq_ok_iff.1 hgroup
    rw [happend]
    exact (ih (hmap h)).shift hproper.notation_render
  | case4 i t hne =>
    rw [parseFrom, if_neg hne, if_pos rfl] at h
    cases h
    exact ⟨[], t, rfl, rfl, .nil⟩
  | case5 i c t hopen hclose ih =>
    rw [parseFrom_plain hopen hclose] at h
    exact Blames.shift (s := [c]) (.char hopen hclose .nil) (ih (hmap h))

/-- A text is read exactly if it is furigana notation. Then the units are canonical and written as
the text, and canonical units are read from what is written of them. Otherwise the error points at
what is wrong : an opening brace that is not closed, a closing brace that closes nothing, a base
without a reading, or a group with an empty part. But for the first of these, the text in front of
it is notation. -/
theorem parse_exact (t : Text) :
    ((∃ units, parse t = .ok units) ↔ Notation t) ∧
    (∀ units, parse t = .ok units ↔ Canonical units ∧ render units = t) ∧
    (∀ i, parse t = .error (.unclosedBrace i) → t[i]? = some '\x7b') ∧
    (∀ i, parse t = .error (.strayBrace i) →
      t[i]? = some '\x7d' ∧ ∃ units, parse (t.take i) = .ok units) ∧
    (∀ i, parse t = .error (.emptyRuby i) →
      t[i]? = some '\x7b' ∧ ∃ units, parse (t.take i) = .ok units) ∧
    ∀ base, parse t = .error (.missingReading base) →
      ∃ before after, t = before ++ '\x7b' :: base ++ '\x7d' :: after ∧
        ¬['^', '\x7b'] <+: after ∧ ∃ units, parse before = .ok units := by
  refine ⟨notation_iff_exists_parse.symm, fun units => ⟨canonical_of_parseFrom, ?_⟩,
    fun i h => ?_, fun i h => ?_, fun i h => ?_, fun base h => ?_⟩
  · rintro ⟨hunits, rfl⟩
    exact hunits.parseFrom_render 0
  · obtain ⟨before, after, rfl, rfl⟩ := blames_of_parseFrom h
    simp
  · obtain ⟨before, after, rfl, rfl, hbefore⟩ := blames_of_parseFrom h
    simpa using notation_iff_exists_parse.1 hbefore
  · obtain ⟨before, after, rfl, rfl, hbefore⟩ := blames_of_parseFrom h
    simpa using notation_iff_exists_parse.1 hbefore
  · obtain ⟨before, after, happend, hafter, hbefore⟩ := blames_of_parseFrom h
    exact ⟨before, after, happend, hafter, notation_iff_exists_parse.1 hbefore⟩

end StudyGraph.Furigana
