import StudyGraph.Proofs.JsonText
import StudyGraph.Quiz

/-!
# Identities tell questions apart

The identity of a quiz is the JSON text of its question. `Json.render_injective` says that the text
tells the JSON value. Here every part of a question is shown to be told by its own value : a blank
is `null` and text a string, plain text is a string and a ruby group an object, an absent list is
`null` and a list an array, and a translation is the object of its sorted entries. So the question
is told by its identity (`Question.toJson_injective`), and two quizzes have one identity exactly if
they ask the same (`Quiz.id_eq_id_iff_question`). `Quiz.identity_exact` says this of quizzes as they
are made, field by field, and that the keys of every object of the encoding rise
(`Json.SortedKeys`).
-/

namespace StudyGraph

namespace Json

/-! ## Encodings of lists and options -/

theorem array_map_inj {α : Type} {f : α → Json} (hf : Function.Injective f) {as bs : List α}
    (h : array (as.map f) = array (bs.map f)) : as = bs :=
  (List.map_inj_right hf).1 (array.inj h)

theorem strings_injective : Function.Injective strings := fun _ _ h =>
  array_map_inj (fun _ _ => string.inj) h

theorem array_strings_injective :
    Function.Injective fun lists : List (List Text) => array (lists.map strings) :=
  fun _ _ h => array_map_inj strings_injective h

/-- Absence is told from every value whose encoding is not `null`. -/
theorem ofOption_injective {α : Type} {f : α → Json} (hf : Function.Injective f)
    (hnull : ∀ a, f a ≠ null) : Function.Injective (ofOption f) := by
  intro a b h
  cases a with
  | none =>
    cases b with
    | none => rfl
    | some b => exact absurd h.symm (hnull b)
  | some a =>
    cases b with
    | none => exact absurd h (hnull a)
    | some b => exact congrArg some (hf h)

/-! ## Order of keys -/

mutual

/-- In every object of the value the keys rise strictly, by their code points. -/
def SortedKeys : Json → Prop
  | array items => AllSortedKeys items
  | object members =>
    (members.Pairwise fun a b => Text.before Char.toNat a.1 b.1 = true) ∧
      MembersSortedKeys members
  | _ => True

/-- `SortedKeys` of every item. -/
def AllSortedKeys : List Json → Prop
  | [] => True
  | item :: items => SortedKeys item ∧ AllSortedKeys items

/-- `SortedKeys` of the value of every member. -/
def MembersSortedKeys : List (Text × Json) → Prop
  | [] => True
  | (_, value) :: members => SortedKeys value ∧ MembersSortedKeys members

end

theorem sortedKeys_array_map {α : Type} {f : α → Json} (hf : ∀ a, (f a).SortedKeys) :
    ∀ as : List α, (array (as.map f)).SortedKeys
  | [] => trivial
  | a :: as => ⟨hf a, sortedKeys_array_map hf as⟩

theorem sortedKeys_strings (texts : List Text) : (strings texts).SortedKeys := by
  have hstring : ∀ t, (string t).SortedKeys := fun _ => trivial
  exact sortedKeys_array_map hstring texts

theorem sortedKeys_ofOption {α : Type} {f : α → Json} (hf : ∀ a, (f a).SortedKeys) :
    ∀ a : Option α, (ofOption f a).SortedKeys
  | none => trivial
  | some a => hf a

end Json

/-! ## Parts of a question -/

theorem Piece.toJson_injective : Function.Injective Piece.toJson := by
  intro a b h
  cases a <;> cases b <;> simp_all [Piece.toJson]

namespace Furigana

theorem Unit.toJson_injective : Function.Injective Unit.toJson := by
  intro a b h
  cases a <;> cases b <;> simp_all [Unit.toJson]

theorem toJson_injective : Function.Injective toJson := fun _ _ h =>
  Json.array_map_inj Unit.toJson_injective h

theorem sortedKeys_toJson : ∀ units : Furigana, units.toJson.SortedKeys := by
  refine Json.sortedKeys_array_map fun unit => ?_
  cases unit with
  | plain text => trivial
  | ruby base reading => exact ⟨by simp, trivial, trivial, trivial⟩

end Furigana

theorem translationToJson_injective : Function.Injective translationToJson := by
  intro a b h
  have hinj : ∀ x y : Text × Text, (x.1, Json.string x.2) = (y.1, Json.string y.2) → x = y := by
    rintro ⟨k, v⟩ ⟨l, w⟩ hxy
    simpa using hxy
  exact SortedMap.ext ((List.map_inj_right hinj).1 (Json.object.inj h))

theorem membersSortedKeys_strings :
    ∀ es : List (Text × Text), Json.MembersSortedKeys (es.map fun e => (e.1, Json.string e.2))
  | [] => trivial
  | _ :: es => ⟨trivial, membersSortedKeys_strings es⟩

theorem sortedKeys_translationToJson (translation : Translation) :
    (translationToJson translation).SortedKeys :=
  ⟨List.pairwise_map.2 translation.sorted, membersSortedKeys_strings translation.entries⟩

namespace Pair

theorem toJson_injective : Function.Injective toJson := by
  rintro ⟨text, translation⟩ ⟨text', translation'⟩ h
  simp only [toJson, Json.object.injEq, List.cons.injEq, Prod.mk.injEq, true_and, and_true] at h
  obtain ⟨htext, htranslation⟩ := h
  rw [Furigana.toJson_injective htext, translationToJson_injective htranslation]

theorem sortedKeys_toJson (pair : Pair) : pair.toJson.SortedKeys :=
  ⟨by simp, Furigana.sortedKeys_toJson pair.text,
    sortedKeys_translationToJson pair.translation, trivial⟩

end Pair

/-! ## Questions -/

namespace Question

/-- A question is told by its JSON value. -/
theorem toJson_injective : Function.Injective toJson := by
  intro a b h
  cases a with
  | card prompt responses passive =>
    cases b with
    | card prompt' responses' passive' =>
      simp only [toJson, Json.object.injEq, List.cons.injEq, Prod.mk.injEq, true_and, and_true,
        Json.bool.injEq, Json.string.injEq] at h
      obtain ⟨hpassive, hprompt, hresponses⟩ := h
      rw [hprompt, Json.strings_injective hresponses, hpassive]
    | cloze => simp [toJson] at h
    | matching => simp [toJson] at h
  | cloze pieces answers hints =>
    cases b with
    | card => simp [toJson] at h
    | cloze pieces' answers' hints' =>
      simp only [toJson, Json.object.injEq, List.cons.injEq, Prod.mk.injEq, true_and,
        and_true] at h
      obtain ⟨hanswers, hpieces, hhints⟩ := h
      rw [Json.array_map_inj Piece.toJson_injective hpieces, Json.array_strings_injective hanswers,
        Json.ofOption_injective Json.strings_injective (by simp [Json.strings]) hhints]
    | matching => simp [toJson] at h
  | matching sentence pairs =>
    cases b with
    | card => simp [toJson] at h
    | cloze => simp [toJson] at h
    | matching sentence' pairs' =>
      simp only [toJson, Json.object.injEq, List.cons.injEq, Prod.mk.injEq, true_and,
        and_true] at h
      obtain ⟨hsentence, hpairs⟩ := h
      rw [Json.array_map_inj Pair.toJson_injective hpairs,
        Json.ofOption_injective Furigana.toJson_injective (by simp [Furigana.toJson]) hsentence]

theorem sortedKeys_toJson (question : Question) : question.toJson.SortedKeys := by
  cases question with
  | card prompt responses passive =>
    exact ⟨by simp, trivial, trivial, Json.sortedKeys_strings responses, trivial⟩
  | cloze pieces answers hints =>
    have hpieces : ∀ piece : Piece, piece.toJson.SortedKeys := by
      intro piece
      cases piece <;> trivial
    exact ⟨by simp, Json.sortedKeys_array_map Json.sortedKeys_strings answers,
      Json.sortedKeys_array_map hpieces pieces,
      Json.sortedKeys_ofOption Json.sortedKeys_strings hints, trivial⟩
  | matching sentence pairs =>
    exact ⟨by simp, Json.sortedKeys_ofOption Furigana.sortedKeys_toJson sentence,
      Json.sortedKeys_array_map Pair.sortedKeys_toJson pairs, trivial⟩

end Question

/-! ## Quizzes -/

namespace Quiz

/-- Two quizzes have one identity exactly if they ask the same. -/
theorem id_eq_id_iff_question {a b : Quiz} : a.id = b.id ↔ a.question = b.question := by
  constructor
  · intro h
    exact Question.toJson_injective (Json.render_injective h)
  · intro h
    rw [id, id, h]

theorem kind_eq_of_question_eq {a b : Quiz} (h : a.question = b.question) : a.kind = b.kind := by
  cases a <;> cases b <;> simp_all [question, kind]

theorem kind_eq_of_id_eq {a b : Quiz} (h : a.id = b.id) : a.kind = b.kind :=
  kind_eq_of_question_eq (id_eq_id_iff_question.1 h)

/-- Identity is exact. Quizzes as they are made have one identity exactly if they are of one kind
and have the same defining fields, whatever their other fields. The text of an identity is compact
JSON whose keys rise, and different JSON values have different texts. -/
theorem identity_exact :
    (∀ a b : Quiz, a.id = b.id → a.kind = b.kind) ∧
    (∀ prompt responses passive inverted prompt' responses' passive' inverted',
      (card (.make prompt responses passive inverted)).id =
          (card (.make prompt' responses' passive' inverted')).id ↔
        prompt = prompt' ∧ responses = responses' ∧ passive = passive') ∧
    (∀ pieces answers hints rule pieces' answers' hints' rule',
      (cloze (.make pieces answers hints rule)).id =
          (cloze (.make pieces' answers' hints' rule')).id ↔
        pieces = pieces' ∧ answers = answers' ∧ hints = hints') ∧
    (∀ pairs notes pairs' notes',
      (matching (.make pairs notes)).id = (matching (.make pairs' notes')).id ↔
        notes.lede = notes'.lede ∧ pairs = pairs') ∧
    (∀ a b : Quiz, a.id = b.id ↔ a.question = b.question) ∧
    (∀ a : Quiz, a.id = a.question.toJson.render ∧ a.question.toJson.SortedKeys) ∧
    Function.Injective Json.render := by
  refine ⟨fun _ _ => kind_eq_of_id_eq, ?_, ?_, ?_, fun _ _ => id_eq_id_iff_question,
    fun a => ⟨rfl, a.question.sortedKeys_toJson⟩, Json.render_injective⟩
  · intros
    simp [id_eq_id_iff_question, question, Card.make]
  · intros
    simp [id_eq_id_iff_question, question, Cloze.make]
  · intros
    simp [id_eq_id_iff_question, question, Matching.make]

end Quiz

end StudyGraph
