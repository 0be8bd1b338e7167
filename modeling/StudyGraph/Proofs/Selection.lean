import Mathlib.Data.List.TakeWhile
import StudyGraph.Proofs.Sorted
import StudyGraph.Session

/-!
# What requests select

A request names a folder, whatever slashes there are around the name (`Categories.Names`,
`names_iff`), and stands for the categories that are this folder or lie in it
(`Categories.StandsFor`). Requests are taken one after the other into one selection. What is
selected at any time are all the categories that some request so far stands for, each with all of
its files (`Categories.foldl_addRequest`), so neither the order of the requests nor their repetition
matters (`Categories.select_eq_union`).

Whether a request is warned about is seen from the number of selected categories before and after
it. So a request is warned about if it adds nothing (`Categories.Adds`) : if it stands for no
category, but also if all that it stands for is selected already (`Categories.missed_select_iff`).
-/

namespace StudyGraph

namespace Categories

variable {request folder category : Text} {all : Categories}

/-! ## Requests -/

/-- The request is the name of the folder with slashes around it. -/
def Names (request folder : Text) : Prop :=
  ∃ i j, request = List.replicate i '/' ++ folder ++ List.replicate j '/' ∧
    folder.head? ≠ some '/' ∧ folder.getLast? ≠ some '/'

/-- The category is the folder or lies in it. -/
def LiesIn (folder category : Text) : Prop :=
  category = folder ∨ ∃ rest, category = folder ++ '/' :: rest

/-- The request names a folder that the category is or lies in. -/
def StandsFor (request category : Text) : Prop :=
  ∃ folder, Names request folder ∧ LiesIn folder category

theorem head?_dropWhile_ne (t : Text) : (t.dropWhile (· == '/')).head? ≠ some '/' := by
  intro h
  have hne := List.head?_dropWhile_not (· == '/') t
  rw [h] at hne
  simp at hne

theorem dropWhile_replicate_append (i : Nat) {t : Text} (h : t.head? ≠ some '/') :
    (List.replicate i '/' ++ t).dropWhile (· == '/') = t := by
  rw [List.dropWhile_append_of_pos (by simp)]
  cases t with
  | nil => rfl
  | cons c t => exact List.dropWhile_cons_of_neg (by simpa using h)

theorem exists_eq_replicate_append (t : Text) :
    ∃ i, t = List.replicate i '/' ++ t.dropWhile (· == '/') := by
  refine ⟨(t.takeWhile (· == '/')).length, ?_⟩
  have hslashes : t.takeWhile (· == '/') = List.replicate (t.takeWhile (· == '/')).length '/' :=
    List.eq_replicate_iff.2 ⟨rfl, fun c hc => by
      simpa using List.mem_takeWhile_imp (p := (· == '/')) hc⟩
  rw [← hslashes, List.takeWhile_append_dropWhile]

/-- A request names one folder : what is left without the slashes. -/
theorem names_iff : Names request folder ↔ trimSlashes request = folder := by
  constructor
  · rintro ⟨i, j, rfl, hhead, hlast⟩
    rw [trimSlashes, List.append_assoc]
    cases folder with
    | nil =>
      rw [List.nil_append, List.replicate_append_replicate, ← List.append_nil (List.replicate _ _),
        dropWhile_replicate_append _ (by simp)]
      rfl
    | cons c folder =>
      rw [dropWhile_replicate_append _ (by simpa using hhead), List.reverse_append,
        List.reverse_replicate, dropWhile_replicate_append _ (by rwa [List.head?_reverse]),
        List.reverse_reverse]
  · rintro rfl
    obtain ⟨i, hi⟩ := exists_eq_replicate_append request
    obtain ⟨j, hj⟩ := exists_eq_replicate_append (request.dropWhile (· == '/')).reverse
    have hfront : request.dropWhile (· == '/') = trimSlashes request ++ List.replicate j '/' := by
      have hreverse := congrArg List.reverse hj
      rwa [List.reverse_append, List.reverse_replicate, List.reverse_reverse] at hreverse
    refine ⟨i, j, ?_, ?_, ?_⟩
    · rw [List.append_assoc, ← hfront]
      exact hi
    · intro hhead
      refine head?_dropWhile_ne request ?_
      rw [hfront, List.head?_append, hhead, Option.some_or]
    · rw [trimSlashes, List.getLast?_reverse]
      exact head?_dropWhile_ne _

theorem matchesRequest_iff : matchesRequest folder category = true ↔ LiesIn folder category := by
  simp only [matchesRequest, LiesIn, Bool.or_eq_true, decide_eq_true_eq, List.isPrefixOf_iff_prefix]
  refine or_congr_right ⟨?_, ?_⟩
  · rintro ⟨rest, rfl⟩
    exact ⟨rest, by simp⟩
  · rintro ⟨rest, rfl⟩
    exact ⟨rest, by simp⟩

theorem standsFor_iff :
    StandsFor request category ↔ matchesRequest (trimSlashes request) category = true := by
  rw [matchesRequest_iff]
  constructor
  · rintro ⟨folder, hnames, hlies⟩
    rwa [names_iff.1 hnames]
  · exact fun hlies => ⟨_, names_iff.2 rfl, hlies⟩

instance (request category : Text) : Decidable (StandsFor request category) :=
  decidable_of_iff _ standsFor_iff.symm

/-- Behind the name of a folder the first character decides : only a slash opens what lies in the
folder. -/
theorem standsFor_append_cons_iff {c : Char} {rest : Text} (h : Names request folder) :
    StandsFor request (folder ++ c :: rest) ↔ c = '/' := by
  obtain rfl := names_iff.1 h
  rw [standsFor_iff, matchesRequest_iff, LiesIn]
  simp

/-! ## Selecting -/

/-- The categories that some request stands for. -/
def requested (all : Categories) (requests : List Text) : Categories :=
  all.filter fun category => requests.any (StandsFor · category)

theorem mem_entries_requested {requests : List Text} {e : Text × List Text} :
    e ∈ (all.requested requests).entries ↔
      e ∈ all.entries ∧ ∃ request ∈ requests, StandsFor request e.1 := by
  rw [requested, SortedMap.mem_entries_filter]
  simp

/-- The request stands for a category that no earlier one stands for. -/
def Adds (all : Categories) (earlier : List Text) (request : Text) : Prop :=
  ∃ category ∈ all.keys, StandsFor request category ∧ ∀ r ∈ earlier, ¬StandsFor r category

instance (all : Categories) (earlier : List Text) (request : Text) :
    Decidable (Adds all earlier request) :=
  inferInstanceAs (Decidable (∃ category ∈ all.keys, _))

/-- The requests that add nothing to those before them, without their slashes. -/
def idle (all : Categories) (requests : List Text) : List Text :=
  (requests.zipIdx.filter fun e => ¬Adds all (requests.take e.2) e.1).map fun e => trimSlashes e.1

theorem idle_append_singleton (requests : List Text) (request : Text) :
    all.idle (requests ++ [request]) =
      all.idle requests ++ if Adds all requests request then [] else [trimSlashes request] := by
  have hfront : requests.zipIdx.filter (fun e => ¬Adds all ((requests ++ [request]).take e.2) e.1) =
      requests.zipIdx.filter fun e => ¬Adds all (requests.take e.2) e.1 := by
    refine List.filter_congr fun e he => ?_
    have hlength : e.2 < requests.length := by
      simpa using (List.mem_zipIdx he).2.1
    rw [List.take_append_of_le_length (Nat.le_of_lt hlength)]
  rw [idle, List.zipIdx_append, List.filter_append, List.map_append, hfront, ← idle]
  by_cases hadds : Adds all requests request <;> simp [hadds]

/-- A request selects what it stands for beside what was selected. -/
theorem selected_addRequest {requests missed : List Text} :
    (addRequest all ⟨all.requested requests, missed⟩ request).selected =
      all.requested (requests ++ [request]) := by
  have hselected : (addRequest all ⟨all.requested requests, missed⟩ request).selected =
      (all.entries.filter fun e => matchesRequest (trimSlashes request) e.1).foldl
        (fun m e => m.insert e.1 e.2) (all.requested requests) := by
    unfold addRequest
    dsimp only
    split <;> rfl
  have hmatching : ∀ e ∈ all.entries.filter fun e => matchesRequest (trimSlashes request) e.1,
      e ∈ all.entries := fun _ h => (List.mem_filter.1 h).1
  have hrequested : ∀ e ∈ (all.requested requests).entries, e ∈ all.entries := fun _ h =>
    (mem_entries_requested.1 h).1
  refine SortedMap.ext_mem fun e => ?_
  rw [hselected, SortedMap.mem_entries_foldl_insert hmatching hrequested]
  simp only [mem_entries_requested, List.mem_filter, ← standsFor_iff, List.mem_append,
    List.mem_singleton, or_and_right, exists_or, exists_eq_left, ← and_or_left]

/-- As many categories are selected as before exactly if the request adds nothing. -/
theorem length_requested_append_iff {requests : List Text} :
    (all.requested (requests ++ [request])).entries.length =
        (all.requested requests).entries.length ↔ ¬Adds all requests request := by
  have hsublist : (all.requested requests).entries.Sublist
      (all.requested (requests ++ [request])).entries :=
    List.monotone_filter_right _ fun e he => by
      simp only [List.any_append]
      exact Bool.or_eq_true_iff.2 (Or.inl he)
  constructor
  · rintro hlength ⟨category, hmem, hstands, hnone⟩
    obtain ⟨e, he, rfl⟩ := List.mem_map.1 hmem
    have hrequested : e ∈ (all.requested (requests ++ [request])).entries :=
      mem_entries_requested.2 ⟨he, request, by simp, hstands⟩
    rw [← hsublist.eq_of_length hlength.symm] at hrequested
    obtain ⟨-, r, hr, hr'⟩ := mem_entries_requested.1 hrequested
    exact hnone r hr hr'
  · intro hadds
    refine congrArg (fun m : Categories => m.entries.length) (SortedMap.ext_mem fun e => ?_)
    rw [mem_entries_requested, mem_entries_requested]
    refine and_congr_right fun he => ⟨?_, fun ⟨r, hr, hstands⟩ =>
      ⟨r, List.mem_append_left _ hr, hstands⟩⟩
    rintro ⟨r, hr, hstands⟩
    rcases List.mem_append.1 hr with hr | hr
    · exact ⟨r, hr, hstands⟩
    · obtain rfl := List.mem_singleton.1 hr
      by_contra hnone
      exact hadds ⟨e.1, List.mem_map_of_mem he, hstands, fun r' hr' hstands' =>
        hnone ⟨r', hr', hstands'⟩⟩

/-- Requests select what any of them stands for, and those that add nothing are noted. -/
theorem foldl_addRequest (all : Categories) (requests : List Text) :
    requests.foldl (addRequest all) ⟨.empty, []⟩ = ⟨all.requested requests, all.idle requests⟩ := by
  induction requests using List.reverseRecOn with
  | nil =>
    have hnone : all.requested [] = .empty := SortedMap.ext_mem fun e => by
      simp [mem_entries_requested, SortedMap.empty]
    rw [hnone]
    rfl
  | append_singleton requests request ih =>
    have hselected : (addRequest all ⟨all.requested requests, all.idle requests⟩ request).selected =
        all.requested (requests ++ [request]) := selected_addRequest
    have hmissed : (addRequest all ⟨all.requested requests, all.idle requests⟩ request).missed =
        all.idle (requests ++ [request]) := by
      have hlength : (all.requested (requests ++ [request])).entries.length =
          (all.requested requests).entries.length ↔ ¬Adds all requests request :=
        length_requested_append_iff
      rw [← hselected] at hlength
      rw [idle_append_singleton]
      unfold addRequest at hlength ⊢
      dsimp only at hlength ⊢
      split
      · next h =>
        rw [if_pos h] at hlength
        rw [if_neg (hlength.1 h)]
      · next h =>
        rw [if_neg h] at hlength
        rw [if_pos (not_not.1 (mt hlength.2 h)), List.append_nil]
    rw [List.foldl_append, ih, List.foldl_cons, List.foldl_nil, ← hmissed, ← hselected]

theorem selected_select_of_ne_nil {requests : List Text} (h : requests ≠ []) :
    (all.select requests).selected = all.requested requests := by
  rw [select, if_neg (by simpa using h), foldl_addRequest]

theorem missed_select (all : Categories) (requests : List Text) :
    (all.select requests).missed = all.idle requests := by
  cases requests with
  | nil => rfl
  | cons request requests => rw [select, if_neg (by simp), foldl_addRequest]

/-- Requests are united. Without requests all categories are selected, and otherwise those that some
request stands for, each with all of its files. The order of the requests and their repetition do
not matter, and together they select what each of them selects alone. A request stands for the
folder that it names and for what lies in it, but not for a longer name. -/
theorem select_eq_union (all : Categories) (requests : List Text) :
    (all.select []).selected = all ∧
    (requests ≠ [] → ∀ category files,
      (category, files) ∈ (all.select requests).selected.entries ↔
        (category, files) ∈ all.entries ∧ ∃ request ∈ requests, StandsFor request category) ∧
    (∀ requests', (∀ request, request ∈ requests' ↔ request ∈ requests) →
      (all.select requests').selected = (all.select requests).selected) ∧
    (requests ≠ [] → (all.select requests).selected =
      (requests.map fun request => (all.select [request]).selected).foldl .union .empty) ∧
    ∀ request folder, Names request folder → StandsFor request folder ∧
      ∀ c rest, StandsFor request (folder ++ c :: rest) ↔ c = '/' := by
  refine ⟨rfl, fun hne category files => ?_, fun requests' hsame => ?_, fun hne => ?_,
    fun request folder hnames => ⟨⟨folder, hnames, Or.inl rfl⟩, fun c rest =>
      standsFor_append_cons_iff hnames⟩⟩
  · rw [selected_select_of_ne_nil hne, mem_entries_requested]
  · rcases List.eq_nil_or_concat requests with rfl | ⟨front, last, rfl⟩
    · obtain rfl : requests' = [] := List.eq_nil_iff_forall_not_mem.2 fun request hmem =>
        List.not_mem_nil ((hsame request).1 hmem)
      rfl
    · have hne' : requests' ≠ [] := List.ne_nil_of_mem ((hsame last).2 (by simp))
      rw [selected_select_of_ne_nil hne', selected_select_of_ne_nil (by simp)]
      exact SortedMap.ext_mem fun e => by simp only [mem_entries_requested, hsame]
  · have hsingle : ∀ request, (all.select [request]).selected =
        all.filter fun category => StandsFor request category := by
      intro request
      rw [selected_select_of_ne_nil (by simp)]
      exact congrArg (SortedMap.filter · all) (funext fun category => by simp)
    simp only [hsingle]
    rw [SortedMap.foldl_union_filter, selected_select_of_ne_nil hne, requested]

/-- Two requests for one folder and what lies in it, one with slashes, beside a longer name. -/
theorem select_eq_union_of_nested :
    let all : Categories := .ofList [("ab", ["1".toList]), ("a", ["2".toList, "3".toList]),
      ("a/b", ["4".toList]), ("", ["5".toList])]
    let requests : List Text := ["a/b", "/a//"]
    (all.select requests).selected.entries = [("a".toList, ["2".toList, "3".toList]),
      ("a/b".toList, ["4".toList])] ∧
    (all.select requests.reverse).selected = (all.select requests).selected ∧
    (all.select requests).selected = (requests.map fun request =>
      (all.select [request]).selected).foldl .union .empty ∧
    ("ab".toList, ["1".toList]) ∉ (all.select requests).selected.entries := by
  intro all requests
  obtain ⟨-, hmem, hsame, hunion, -⟩ := select_eq_union all requests
  exact ⟨by decide +kernel, hsame _ fun _ => List.mem_reverse, hunion (by decide),
    fun h => absurd ((hmem (by decide) _ _).1 h).2 (by decide +kernel)⟩

/-! ## Warnings -/

/-- The request stands for some category. -/
def Known (all : Categories) (request : Text) : Prop :=
  ∃ category ∈ all.keys, StandsFor request category

instance (all : Categories) (request : Text) : Decidable (Known all request) :=
  inferInstanceAs (Decidable (∃ category ∈ all.keys, _))

/-- The requests that stand for no category, without their slashes. -/
def strangers (all : Categories) (requests : List Text) : List Text :=
  (requests.filter fun request => ¬Known all request).map trimSlashes

theorem Adds.known {earlier : List Text} (h : Adds all earlier request) : Known all request := by
  obtain ⟨category, hmem, hstands, -⟩ := h
  exact ⟨category, hmem, hstands⟩

/-- The requests for no category are among those that add nothing. -/
theorem strangers_eq (all : Categories) (requests : List Text) :
    all.strangers requests =
      (requests.zipIdx.filter fun e => ¬Known all e.1).map fun e => trimSlashes e.1 := by
  rw [strangers]
  conv_lhs => rw [← List.zipIdx_map_fst 0 requests]
  rw [List.filter_map, List.map_map]
  rfl

/-- A stranger adds nothing, whatever was requested before it. -/
theorem filter_not_known_sublist (requests : List Text) :
    (requests.zipIdx.filter fun e => ¬Known all e.1).Sublist
      (requests.zipIdx.filter fun e => ¬Adds all (requests.take e.2) e.1) :=
  List.monotone_filter_right _ fun e he => by
    simp only [decide_eq_true_eq] at he ⊢
    exact fun hadds => he hadds.known

/-- All that adds nothing is strange exactly if every known request adds something. -/
theorem idle_eq_strangers_iff (requests : List Text) : all.idle requests = all.strangers requests ↔
    ∀ i request, requests[i]? = some request → Known all request →
      Adds all (requests.take i) request := by
  rw [strangers_eq, idle]
  constructor
  · intro heq i request hrequest hknown
    have hlength := congrArg List.length heq
    rw [List.length_map, List.length_map] at hlength
    have hfilter := (filter_not_known_sublist requests).eq_of_length hlength.symm
    have hmem : (request, i) ∈ requests.zipIdx := List.mk_mem_zipIdx_iff_getElem?.2 hrequest
    by_contra hadds
    have hstranger : (request, i) ∈ requests.zipIdx.filter fun e => ¬Known all e.1 := by
      rw [hfilter]
      exact List.mem_filter.2 ⟨hmem, decide_eq_true hadds⟩
    exact absurd hknown (of_decide_eq_true (List.mem_filter.1 hstranger).2)
  · intro hadds
    refine congrArg _ (List.filter_congr fun e he => ?_)
    have hrequest := List.mk_mem_zipIdx_iff_getElem?.1 he
    exact decide_eq_decide.2 (not_congr ⟨Adds.known, hadds _ _ hrequest⟩)

end Categories

namespace Session

/-- The results of the fixtures of a selection, category by category. -/
def resultsOf (readers : Readers) (files : Files) (selected : Categories) :
    List (Text × List Result) :=
  selected.entries.map fun e => (e.1, e.2.map fun path => runFixture readers path (files.read path))

/-- What a run of the fixtures of a selection comes to. -/
def outcomeOf (readers : Readers) (files : Files) (noColor : Bool) (selected : Categories) :
    Outcome :=
  if selected.isEmpty then
    { code := 1, output := [], errors := [.line "no matching categories found"] }
  else
    let results := resultsOf readers files selected
    { code := exitCode (results.flatMap Prod.snd)
      output := []
      errors := results.flatMap (fun e => categoryLines noColor e.1 e.2) ++
        reportLines noColor (results.flatMap Prod.snd) }

/-- The warnings stand in front of what the selection comes to. -/
theorem testCategories_eq (readers : Readers) (files : Files) (noColor : Bool) (all : Categories)
    (requests : List Text) : testCategories readers files noColor all requests =
      { outcomeOf readers files noColor (all.select requests).selected with
        errors := (all.select requests).missed.map (.line <| all.missedWarning ·) ++
          (outcomeOf readers files noColor (all.select requests).selected).errors } := by
  unfold testCategories outcomeOf
  dsimp only
  split
  · rfl
  · rw [← List.append_assoc]
    rfl

end Session

namespace Categories

/-- A request is warned about exactly if it adds nothing to those before it. So there is one warning
for each request that stands for no category, in order, and no other exactly if every request that
stands for some category stands for one that no earlier request does. The warnings are all that a
run of fixtures writes in front of what the selection comes to. -/
theorem missed_select_iff (all : Categories) (requests : List Text) :
    let missed := (all.select requests).missed
    missed = all.idle requests ∧
    (all.strangers requests).Sublist missed ∧
    (missed = all.strangers requests ↔
      ∀ i request, requests[i]? = some request → Known all request →
        Adds all (requests.take i) request) ∧
    ∀ readers files noColor, (Session.testCategories readers files noColor all requests).errors =
      missed.map (fun request => .line (all.missedWarning request)) ++
        (Session.outcomeOf readers files noColor (all.select requests).selected).errors := by
  intro missed
  have hmissed : missed = all.idle requests := missed_select all requests
  refine ⟨hmissed, ?_, ?_, fun readers files noColor => ?_⟩
  · rw [hmissed, strangers_eq, idle]
    exact (filter_not_known_sublist requests).map _
  · rw [hmissed]
    exact idle_eq_strangers_iff requests
  · rw [Session.testCategories_eq]

/-- A folder that is requested behind one that lies in it adds itself, so that only the stranger
between them is warned about. -/
theorem missed_select_iff_of_nested :
    let all : Categories := .ofList [("a", ["1".toList]), ("a/b", ["2".toList])]
    let requests : List Text := ["a/b/", "b", "a"]
    (∀ i request, requests[i]? = some request → Known all request →
      Adds all (requests.take i) request) ∧
    (all.select requests).missed = ["b".toList] := by
  intro all requests
  have hadds : ∀ i request, requests[i]? = some request → Known all request →
      Adds all (requests.take i) request := by
    intro i request hrequest hknown
    obtain ⟨hi, rfl⟩ := List.getElem?_eq_some_iff.1 hrequest
    have hall : ∀ i (hi : i < requests.length), Known all requests[i] →
        Adds all (requests.take i) requests[i] := by
      decide +kernel
    exact hall i hi hknown
  exact ⟨hadds, ((missed_select_iff all requests).2.2.1.2 hadds).trans (by decide +kernel)⟩

/-- A category that is requested twice is selected, and its second request is warned about. -/
theorem missed_select_of_repeated :
    let all : Categories := .ofList [("a", ["1".toList])]
    Known all "a" ∧ all.strangers ["a", "a"] = [] ∧
      (all.select ["a", "a"]).selected = all ∧ (all.select ["a", "a"]).missed = ["a".toList] ∧
      all.missedWarning "a" = "warning: category 'a' not found (available: a)" := by
  decide +kernel

end Categories

end StudyGraph
