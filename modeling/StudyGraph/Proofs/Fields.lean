import Mathlib.Data.List.TakeWhile
import StudyGraph.Fields
import StudyGraph.Proofs.Blend
import StudyGraph.Proofs.Join

/-!
# Fields are read back from their notation

A text is trimmed if no blank stands at either end of it (`Text.Trimmed`), and the blanks around it
are trimmed away again (`Text.trim_append_append`). Fields are `Normal` if their values and texts
are trimmed and free of `@`, and their names are not empty and free of `@` and white space.

In the notation of normal fields every `@` between values is followed by a blank, so the region of
the markers is cut off where it was put on (`Fields.cutAtBlank_join_append`). The values are what
stands between `@` in front of it (`Fields.map_trim_splitOn_join`), and so are the markers in it
(`Fields.filterMap_marker?_splitOn`). Fields that are read are normal, whatever the text
(`Fields.normal_ofText`). `Fields.ofLine_undoes_render` puts this together.
-/

namespace StudyGraph

/-! ## Trimmed texts -/

namespace Text

/-- No blank stands at either end of the text. -/
structure Trimmed (t : Text) : Prop where
  head : ∀ c ∈ t.head?, isBlank c = false
  last : ∀ c ∈ t.getLast?, isBlank c = false

/-- All characters of the text are blank. -/
def Blank (t : Text) : Prop :=
  ∀ c ∈ t, isBlank c = true

theorem blank_nil : Blank [] := by simp [Blank]

theorem blank_space : Blank [' '] := by simp [Blank, isBlank]

theorem not_isBlank_at : isBlank '@' = false := by decide

theorem Blank.at_notMem {t : Text} (h : Blank t) : '@' ∉ t := fun hmem => by
  simpa [not_isBlank_at] using h _ hmem

theorem trimStart_append {front : Text} (h : Blank front) (t : Text) :
    trimStart (front ++ t) = trimStart t :=
  List.dropWhile_append_of_pos h

theorem trimEnd_append {back : Text} (h : Blank back) (t : Text) :
    trimEnd (t ++ back) = trimEnd t := by
  rw [trimEnd, List.reverse_append,
    List.dropWhile_append_of_pos fun c hc => h c (List.mem_reverse.1 hc), trimEnd]

theorem trimStart_of_head {t : Text} (h : ∀ c ∈ t.head?, isBlank c = false) : trimStart t = t := by
  cases t with
  | nil => rfl
  | cons c t => exact List.dropWhile_cons_of_neg (by simp [h c rfl])

theorem trimEnd_of_last {t : Text} (h : ∀ c ∈ t.getLast?, isBlank c = false) : trimEnd t = t := by
  have hreverse : trimStart t.reverse = t.reverse :=
    trimStart_of_head fun c hc => h c (by rwa [List.head?_reverse] at hc)
  rw [trimEnd, ← trimStart, hreverse, List.reverse_reverse]

/-- Blanks around a trimmed text are trimmed away. -/
theorem trim_append_append {front t back : Text} (hfront : Blank front) (ht : t.Trimmed)
    (hback : Blank back) : trim (front ++ t ++ back) = t := by
  rw [trim, List.append_assoc, trimStart_append hfront]
  cases t with
  | nil =>
    have hnil : trimStart (back ++ []) = [] := trimStart_append hback []
    rw [List.nil_append, ← List.append_nil back, hnil]
    rfl
  | cons c t =>
    rw [trimStart_of_head (by simpa using ht.head), trimEnd_append hback, trimEnd_of_last ht.last]

theorem head_trimStart {t : Text} : ∀ c ∈ (trimStart t).head?, isBlank c = false := by
  intro c hc
  have hhead := List.head?_dropWhile_not isBlank t
  rw [← trimStart, Option.mem_def.1 hc] at hhead
  exact hhead

theorem last_trimEnd {t : Text} : ∀ c ∈ (trimEnd t).getLast?, isBlank c = false := by
  intro c hc
  rw [trimEnd, List.getLast?_reverse] at hc
  exact head_trimStart c hc

theorem prefix_trimEnd (t : Text) : trimEnd t <+: t := by
  have hsuffix : t.reverse.dropWhile isBlank <:+ t.reverse := List.dropWhile_suffix _
  rwa [← List.reverse_prefix, List.reverse_reverse] at hsuffix

theorem trimmed_trim (t : Text) : (trim t).Trimmed where
  head := by
    intro c hc
    obtain ⟨back, hback⟩ := prefix_trimEnd (trimStart t)
    obtain ⟨rest, hrest⟩ := List.head?_eq_some_iff.1 (Option.mem_def.1 hc)
    refine head_trimStart (t := t) c ?_
    rw [← hback, ← trim, hrest]
    rfl
  last := last_trimEnd

theorem trim_subset (t : Text) : trim t ⊆ t :=
  fun _ hc => (List.dropWhile_suffix _).mem ((prefix_trimEnd _).mem hc)

end Text

namespace Fields

/-- The name is not empty, and free of white space and `@`. The text is trimmed and free of `@`. -/
structure NormalMarker (name text : Text) : Prop where
  name_ne_nil : name ≠ []
  name : ∀ c ∈ name, Text.isBlank c = false ∧ c ≠ '@'
  trimmed : text.Trimmed
  at_notMem : '@' ∉ text

/-- There are values, all trimmed and free of `@`, and the markers are normal. -/
structure Normal (fields : Fields) : Prop where
  values_ne_nil : fields.values ≠ []
  value : ∀ v ∈ fields.values, v.Trimmed ∧ '@' ∉ v
  marker : fields.markers.All NormalMarker

/-! ## The region of the markers -/

theorem opensMarker_append {s t : Text} (hs : '@' ∉ s) (ht : opensMarker t = false) :
    opensMarker (s ++ t) = false := by
  cases s with
  | nil => exact ht
  | cons c s =>
    have hc : c ≠ '@' := fun h => hs (by simp [h])
    simp [opensMarker, hc]

/-- Text without `@` is passed over. -/
theorem cutAtBlank_append_of_notMem {t : Text} (ht : opensMarker t = false) : ∀ {s : Text},
    '@' ∉ s → cutAtBlank (s ++ t) = (s ++ (cutAtBlank t).1, (cutAtBlank t).2)
  | [], _ => rfl
  | c :: s, hs => by
    have hs : '@' ∉ s := fun h => hs (List.mem_cons_of_mem _ h)
    rw [List.cons_append, cutAtBlank, opensMarker_append hs ht, Bool.and_false,
      cutAtBlank_append_of_notMem ht hs]
    rfl

/-- Values that are free of `@` are passed over, with what stands between them. -/
theorem cutAtBlank_join_append {region : Text} (hopens : opensMarker region = false)
    (hcut : cutAtBlank region = ([], region)) : ∀ {values : List Text}, values ≠ [] →
    (∀ v ∈ values, '@' ∉ v) →
      opensMarker (Text.join " @ " values ++ region) = false ∧
        cutAtBlank (Text.join " @ " values ++ region) = (Text.join " @ " values, region)
  | [], hne, _ => absurd rfl hne
  | [v], _, h => by
    have hv : '@' ∉ v := h v List.mem_cons_self
    rw [Text.join_singleton, cutAtBlank_append_of_notMem hopens hv, hcut, List.append_nil]
    exact ⟨opensMarker_append hv hopens, rfl⟩
  | v :: w :: values, _, h => by
    obtain ⟨hv, hvalues⟩ := List.forall_mem_cons.1 h
    obtain ⟨hrest, hcutRest⟩ :=
      cutAtBlank_join_append hopens hcut (List.cons_ne_nil w values) hvalues
    rw [Text.join_cons _ _ (List.cons_ne_nil w values), List.append_assoc, List.append_assoc]
    have hopensBetween : opensMarker (" @ ".toList ++
        (Text.join " @ " (w :: values) ++ region)) = false := rfl
    refine ⟨opensMarker_append hv hopensBetween, ?_⟩
    have hbetween : cutAtBlank (" @ ".toList ++ (Text.join " @ " (w :: values) ++ region)) =
        (" @ ".toList ++ Text.join " @ " (w :: values), region) := by
      change cutAtBlank (' ' :: '@' :: ' ' :: (Text.join " @ " (w :: values) ++ region)) = _
      rw [cutAtBlank, cutAtBlank, cutAtBlank, hrest, hcutRest]
      rfl
    rw [cutAtBlank_append_of_notMem hopensBetween hv, hbetween, List.append_assoc]

/-! ## Values -/

/-- The values are what stands between `@`, trimmed. -/
theorem map_trim_splitOn_join : ∀ {pad : Text} {values : List Text}, Text.Blank pad →
    values ≠ [] → (∀ v ∈ values, v.Trimmed ∧ '@' ∉ v) →
      (Text.splitOn '@' (pad ++ Text.join " @ " values)).map Text.trim = values
  | _, [], _, hne, _ => absurd rfl hne
  | pad, [v], hpad, _, h => by
    obtain ⟨htrimmed, hv⟩ := h v List.mem_cons_self
    have hnone : '@' ∉ pad ++ v := by simp [hpad.at_notMem, hv]
    have htrim : Text.trim (pad ++ v ++ []) = v :=
      Text.trim_append_append hpad htrimmed Text.blank_nil
    rw [List.append_nil] at htrim
    rw [Text.join_singleton, Text.splitOn_of_notMem hnone, List.map_singleton, htrim]
  | pad, v :: w :: values, hpad, _, h => by
    obtain ⟨⟨htrimmed, hv⟩, hvalues⟩ := List.forall_mem_cons.1 h
    have hnone : '@' ∉ pad ++ v ++ [' '] := by simp [hpad.at_notMem, hv]
    have hjoin : pad ++ Text.join " @ " (v :: w :: values) =
        (pad ++ v ++ [' ']) ++ '@' :: ([' '] ++ Text.join " @ " (w :: values)) := by
      rw [Text.join_cons _ _ (List.cons_ne_nil w values)]
      simp
    rw [hjoin, Text.splitOn_append_cons hnone, List.map_cons,
      Text.trim_append_append hpad htrimmed Text.blank_space,
      map_trim_splitOn_join Text.blank_space (List.cons_ne_nil w values) hvalues]

/-! ## Markers -/

/-- What is written of a marker behind its `@`. -/
def token (m : Text × Text) : Text :=
  m.1 ++ if m.2.isEmpty then [] else ' ' :: m.2

theorem renderMarker_eq (m : Text × Text) : renderMarker m = ' ' :: '@' :: token m := by
  simp [renderMarker, token]

/-- A token is the name, blanks and the text; without blanks there is no text. -/
theorem exists_gap (m : Text × Text) : ∃ gap, Text.Blank gap ∧ token m = m.1 ++ gap ++ m.2 ∧
    (gap = [] → m.2 = []) := by
  unfold token
  cases htext : m.2 with
  | nil => exact ⟨[], Text.blank_nil, by simp, fun _ => rfl⟩
  | cons c t => exact ⟨[' '], Text.blank_space, by simp, by simp⟩

theorem NormalMarker.at_notMem_token {m : Text × Text} (h : NormalMarker m.1 m.2) :
    '@' ∉ token m := by
  obtain ⟨gap, hgap, htoken, -⟩ := exists_gap m
  have hname : '@' ∉ m.1 := fun hmem => (h.name '@' hmem).2 rfl
  simp [htoken, hname, hgap.at_notMem, h.at_notMem]

/-- The name of a marker ends before the first blank. -/
theorem marker?_append {name rest : Text} (hne : name ≠ [])
    (hname : ∀ c ∈ name, Text.isBlank c = false)
    (hrest : ∀ c ∈ rest.head?, Text.isBlank c = true) :
    marker? (name ++ rest) = some (name, Text.trim rest) := by
  have hletters : ∀ c ∈ name, (!Text.isBlank c) = true := fun c hc => by simp [hname c hc]
  have hspan : rest.takeWhile (fun c => !Text.isBlank c) = [] ∧
      rest.dropWhile (fun c => !Text.isBlank c) = rest := by
    cases rest with
    | nil => exact ⟨rfl, rfl⟩
    | cons c rest => simp [hrest c rfl]
  obtain ⟨c, name', rfl⟩ := List.exists_cons_of_ne_nil hne
  rw [List.cons_append, marker?, hname c List.mem_cons_self, if_neg (by simp), ← List.cons_append,
    List.takeWhile_append_of_pos hletters, List.dropWhile_append_of_pos hletters, hspan.1, hspan.2,
    List.append_nil]

/-- A marker is read from its token, whatever blanks stand behind it. -/
theorem marker?_token_append {m : Text × Text} (h : NormalMarker m.1 m.2) {pad : Text}
    (hpad : Text.Blank pad) : marker? (token m ++ pad) = some m := by
  obtain ⟨gap, hgap, htoken, hnone⟩ := exists_gap m
  have hrest : ∀ c ∈ (gap ++ m.2 ++ pad).head?, Text.isBlank c = true := by
    intro c hc
    cases gap with
    | nil =>
      rw [hnone rfl] at hc
      exact hpad c (List.mem_of_mem_head? hc)
    | cons d gap =>
      obtain rfl : d = c := by simpa using hc
      exact hgap d List.mem_cons_self
  have hline : token m ++ pad = m.1 ++ (gap ++ m.2 ++ pad) := by
    rw [htoken]
    simp only [List.append_assoc]
  rw [hline, marker?_append h.name_ne_nil (fun c hc => (h.name c hc).1) hrest,
    Text.trim_append_append hgap h.trimmed hpad]

/-- The markers are read from their tokens, one behind every `@`. -/
theorem filterMap_marker?_splitOn : ∀ {m : Text × Text} {ms : List (Text × Text)},
    (∀ e ∈ m :: ms, NormalMarker e.1 e.2) →
      (Text.splitOn '@' (token m ++ ms.flatMap renderMarker)).filterMap marker? = m :: ms
  | m, [], h => by
    have hm := h m List.mem_cons_self
    have hmarker : marker? (token m ++ []) = some m := marker?_token_append hm Text.blank_nil
    rw [List.append_nil] at hmarker
    rw [List.flatMap_nil, List.append_nil, Text.splitOn_of_notMem hm.at_notMem_token,
      List.filterMap_cons_some hmarker, List.filterMap_nil]
  | m, m' :: ms, h => by
    obtain ⟨hm, hms⟩ := List.forall_mem_cons.1 h
    have hnone : '@' ∉ token m ++ [' '] := by simp [hm.at_notMem_token]
    have hrender : token m ++ (m' :: ms).flatMap renderMarker =
        (token m ++ [' ']) ++ '@' :: (token m' ++ ms.flatMap renderMarker) := by
      simp [renderMarker_eq]
    rw [hrender, Text.splitOn_append_cons hnone,
      List.filterMap_cons_some (marker?_token_append hm Text.blank_space),
      filterMap_marker?_splitOn hms]

theorem exists_token_eq_append {m : Text × Text} (h : NormalMarker m.1 m.2) :
    ∃ front c, token m = front ++ [c] ∧ Text.isBlank c = false := by
  obtain ⟨gap, -, htoken, hnone⟩ := exists_gap m
  rcases List.eq_nil_or_concat m.2 with htext | ⟨text, c, htext⟩
  · obtain ⟨name, c, hname⟩ := (List.eq_nil_or_concat m.1).resolve_left h.name_ne_nil
    have hgap : token m = m.1 := by simp [token, htext]
    exact ⟨name, c, by rw [hgap, hname, List.concat_eq_append], (h.name c (by simp [hname])).1⟩
  · refine ⟨m.1 ++ gap ++ text, c, ?_, h.trimmed.last c (by simp [htext])⟩
    rw [htoken, htext, List.concat_eq_append, List.append_assoc _ text]

/-- Markers end with a character that is not blank. -/
theorem exists_flatMap_renderMarker_eq_append {ms : List (Text × Text)} (hne : ms ≠ [])
    (h : ∀ e ∈ ms, NormalMarker e.1 e.2) :
    ∃ front c, ms.flatMap renderMarker = front ++ [c] ∧ Text.isBlank c = false := by
  obtain ⟨init, last, rfl⟩ := (List.eq_nil_or_concat ms).resolve_left hne
  obtain ⟨text, c, htoken, hc⟩ := exists_token_eq_append (h last (by simp))
  refine ⟨init.flatMap renderMarker ++ ' ' :: '@' :: text, c, ?_, hc⟩
  rw [List.concat_eq_append, List.flatMap_append, List.flatMap_singleton, renderMarker_eq, htoken,
    List.append_assoc]
  rfl

/-- Trimmed, the region of the markers starts with the `@` of the first one. -/
theorem trim_flatMap_renderMarker {m : Text × Text} {ms : List (Text × Text)}
    (h : ∀ e ∈ m :: ms, NormalMarker e.1 e.2) :
    Text.trim ((m :: ms).flatMap renderMarker) = '@' :: (token m ++ ms.flatMap renderMarker) := by
  have hregion : (m :: ms).flatMap renderMarker =
      [' '] ++ ('@' :: (token m ++ ms.flatMap renderMarker)) ++ [] := by
    simp [renderMarker_eq]
  have htrimmed : Text.Trimmed ('@' :: (token m ++ ms.flatMap renderMarker)) := by
    refine ⟨fun c hc => ?_, fun c hc => ?_⟩
    · obtain rfl : '@' = c := by simpa using hc
      exact Text.not_isBlank_at
    · obtain ⟨front, last, hfront, hlast⟩ :=
        exists_flatMap_renderMarker_eq_append (List.cons_ne_nil m ms) h
      have hends := congrArg List.getLast? (hregion.symm.trans hfront)
      rw [List.append_nil, List.singleton_append, List.getLast?_cons_cons, List.getLast?_concat,
        Option.mem_def.1 hc] at hends
      rwa [Option.some.inj hends]
  rw [hregion, Text.trim_append_append Text.blank_space htrimmed Text.blank_nil]

/-- The markers of a region are read back. -/
theorem filterMap_marker?_trim {ms : List (Text × Text)} (h : ∀ e ∈ ms, NormalMarker e.1 e.2) :
    (Text.splitOn '@' (Text.trim (ms.flatMap renderMarker))).filterMap marker? = ms := by
  cases ms with
  | nil => rfl
  | cons m ms =>
    have hfirst : Text.splitOn '@' ([] ++ '@' :: (token m ++ ms.flatMap renderMarker)) =
        [] :: Text.splitOn '@' (token m ++ ms.flatMap renderMarker) :=
      Text.splitOn_append_cons (by simp) _
    rw [trim_flatMap_renderMarker h]
    rw [List.nil_append] at hfirst
    rw [hfirst, List.filterMap_cons_none rfl, filterMap_marker?_splitOn h]

/-! ## Reading and writing -/

variable {fields : Fields}

theorem ofLine_zero (line : Text) : ofLine line 0 = ofText line := by
  rw [ofLine, Text.dropBytes?_zero, Option.getD_some]

/-- A region of markers is cut off at its first blank. -/
theorem cutAtBlank_flatMap_renderMarker {ms : List (Text × Text)}
    (h : ∀ e ∈ ms, NormalMarker e.1 e.2) :
    opensMarker (ms.flatMap renderMarker) = false ∧
      cutAtBlank (ms.flatMap renderMarker) = ([], ms.flatMap renderMarker) := by
  cases ms with
  | nil => exact ⟨rfl, rfl⟩
  | cons m ms =>
    have hm := h m List.mem_cons_self
    obtain ⟨c, name, hname⟩ := List.exists_cons_of_ne_nil hm.name_ne_nil
    have hc : Text.isBlank c = false := (hm.name c (by simp [hname])).1
    have hblank : Text.isBlank ' ' = true := by decide
    rw [List.flatMap_cons, renderMarker_eq, token, hname]
    simp [opensMarker, cutAtBlank, hc, hblank]

/-- Normal fields are read from what is written of them. -/
theorem Normal.ofText_render (h : fields.Normal) : ofText fields.render = fields := by
  obtain ⟨hopens, hcut⟩ := cutAtBlank_flatMap_renderMarker h.marker
  obtain ⟨hopens, hcut⟩ :=
    cutAtBlank_join_append hopens hcut h.values_ne_nil fun v hv => (h.value v hv).2
  have hregion : cutRegion fields.render =
      (Text.join " @ " fields.values, fields.markers.entries.flatMap renderMarker) := by
    rw [cutRegion, render, hopens, hcut]
    rfl
  have hvalues := map_trim_splitOn_join Text.blank_nil h.values_ne_nil h.value
  rw [List.nil_append] at hvalues
  rw [ofText, hregion]
  simp only [hvalues, filterMap_marker?_trim h.marker, OrderedMap.ofList_entries]

theorem normalMarker_of_marker? {t : Text} {m : Text × Text} (ht : '@' ∉ t)
    (h : marker? t = some m) : NormalMarker m.1 m.2 := by
  cases t with
  | nil => cases h
  | cons c t =>
    rw [marker?] at h
    split at h
    · cases h
    · next hc =>
      obtain rfl := Option.some.inj h
      refine ⟨?_, fun d hd => ⟨?_, ?_⟩, Text.trimmed_trim _, fun hat => ?_⟩
      · rw [List.takeWhile_cons_of_pos (by simpa using hc)]
        exact List.cons_ne_nil _ _
      · simpa using List.mem_takeWhile_imp (p := fun d => !Text.isBlank d) hd
      · rintro rfl
        exact ht ((List.takeWhile_sublist fun d => !Text.isBlank d).subset hd)
      · exact ht ((List.dropWhile_suffix _).mem (Text.trim_subset _ hat))

/-- Fields that are read are normal. -/
theorem normal_ofText (t : Text) : (ofText t).Normal where
  values_ne_nil := by simp [ofText, Text.splitOn_ne_nil]
  value := by
    intro v hv
    obtain ⟨field, hfield, rfl⟩ := List.mem_map.1 hv
    exact ⟨Text.trimmed_trim _, fun hat =>
      Text.notMem_of_mem_splitOn hfield (Text.trim_subset _ hat)⟩
  marker := by
    rw [ofText, OrderedMap.ofList_eq_blendAll]
    refine OrderedMap.all_empty.blendAll (fun _ hnew => hnew) fun m hm => ?_
    obtain ⟨field, hfield, hmarker⟩ := List.mem_filterMap.1 hm
    exact normalMarker_of_marker? (Text.notMem_of_mem_splitOn hfield) hmarker

/-- Reading undoes writing, exactly for normal fields, with the values and the markers in their
order. Fields that are read are normal, so to write them and to read them again gives the same. -/
theorem ofLine_undoes_render :
    (∀ fields : Fields, fields.Normal ↔ ofLine fields.render 0 = fields) ∧
      ∀ line : Text, (ofLine line 0).Normal ∧ ofLine (ofLine line 0).render 0 = ofLine line 0 := by
  have hnormal : ∀ line : Text, (ofLine line 0).Normal := fun line => by
    rw [ofLine_zero]
    exact normal_ofText line
  have hread : ∀ fields : Fields, fields.Normal → ofLine fields.render 0 = fields :=
    fun fields h => by rw [ofLine_zero, h.ofText_render]
  refine ⟨fun fields => ⟨hread fields, fun h => ?_⟩, fun line => ⟨hnormal line, ?_⟩⟩
  · rw [← h]
    exact hnormal _
  · exact hread _ (hnormal line)

end Fields

end StudyGraph
