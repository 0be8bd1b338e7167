import Mathlib.Data.List.Perm.Basic
import Mathlib.Data.List.TakeWhile
import StudyGraph.Proofs.Sorted
import StudyGraph.Session

/-!
# Every fixture is discovered once

In a folder all entries have different names, which are not empty and have no slashes
(`FileTree.Named`). The paths of what is found at an entry are the path of the entry, or start with
it and a slash (`Text.AtOrBelow`), so the names of entries are read back from the paths of what is
found there (`Text.AtOrBelow.eq_of_joinPath`), and no path is found twice
(`Session.nodup_fixturesIn`). To file paths under categories and to sort them there loses and
repeats none (`Session.perm_discover`).
-/

namespace StudyGraph

/-! ## Paths -/

namespace Text

/-- The path leads to the same place as the other one, or to one in the folder there. -/
def AtOrBelow (path deeper : Text) : Prop :=
  ∃ rest, deeper = path ++ rest ∧ (rest = [] ∨ rest.head? = some '/')

variable {path name deeper : Text}

theorem exists_joinPath_eq (path : Text) : ∃ base, ∀ name, joinPath path name = base ++ name := by
  unfold joinPath
  split
  · exact ⟨path, fun _ => rfl⟩
  · exact ⟨path ++ ['/'], fun name => by simp⟩

theorem getLast?_joinPath_ne (hne : name ≠ []) (hname : '/' ∉ name) :
    (joinPath path name).getLast? ≠ some '/' := by
  obtain ⟨base, hbase⟩ := exists_joinPath_eq path
  rw [hbase, List.getLast?_append_of_ne_nil _ hne]
  exact fun hlast => hname (List.mem_of_getLast? hlast)

theorem takeWhile_name {rest : Text} (hname : '/' ∉ name)
    (hrest : rest = [] ∨ rest.head? = some '/') : (name ++ rest).takeWhile (· != '/') = name := by
  rw [List.takeWhile_append_of_pos fun c hc => by
    simpa using fun heq : c = '/' => hname (heq ▸ hc)]
  rcases hrest with rfl | hhead
  · simp
  · obtain ⟨rest, rfl⟩ := List.head?_eq_some_iff.1 hhead
    simp

/-- A path at or below an entry has the name of the entry. -/
theorem AtOrBelow.eq_of_joinPath {name' : Text} (h : AtOrBelow (joinPath path name) deeper)
    (h' : AtOrBelow (joinPath path name') deeper) (hname : '/' ∉ name) (hname' : '/' ∉ name') :
    name = name' := by
  obtain ⟨base, hbase⟩ := exists_joinPath_eq path
  obtain ⟨rest, hdeeper, hrest⟩ := h
  obtain ⟨rest', hdeeper', hrest'⟩ := h'
  rw [hbase, List.append_assoc] at hdeeper hdeeper'
  have hsame := List.append_cancel_left (hdeeper.symm.trans hdeeper')
  rw [← takeWhile_name hname hrest, hsame, takeWhile_name hname' hrest']

/-- What is at or below an entry of a folder is below the folder. -/
theorem AtOrBelow.of_joinPath (hpath : path.getLast? ≠ some '/')
    (h : AtOrBelow (joinPath path name) deeper) : AtOrBelow path deeper := by
  obtain ⟨rest, rfl, -⟩ := h
  refine ⟨'/' :: (name ++ rest), ?_, Or.inr rfl⟩
  rw [joinPath, if_neg hpath, List.append_assoc, List.cons_append]

end Text

/-! ## Trees -/

mutual

/-- In all folders of the tree the entries have different names, which are not empty and have no
slashes. -/
def FileTree.Named : FileTree → Prop
  | .file _ => True
  | .folder entries => FileTree.NamedEntries entries

/-- The entries have different names, which are not empty and have no slashes, and so have those
of all folders in them. -/
def FileTree.NamedEntries : List (Text × FileTree) → Prop
  | [] => True
  | (name, tree) :: rest =>
    (name ≠ [] ∧ '/' ∉ name ∧ name ∉ rest.map Prod.fst) ∧ tree.Named ∧ FileTree.NamedEntries rest

end

namespace Session

variable {found : Text × Text}

mutual

/-- What is found at an entry is at or below its path. -/
theorem atOrBelow_of_mem_fixturesOf : ∀ {category path name : Text} {tree : FileTree},
    path.getLast? ≠ some '/' → tree.Named → found ∈ fixturesOf category path name tree →
      Text.AtOrBelow path found.2
  | _, _, _, .file _, _, _, hfound => by
    rw [fixturesOf] at hfound
    split at hfound
    · obtain rfl := List.mem_singleton.1 hfound
      exact ⟨[], (List.append_nil _).symm, Or.inl rfl⟩
    · cases hfound
  | _, _, _, .folder _, hpath, hnamed, hfound => by
    rw [fixturesOf] at hfound
    rw [FileTree.Named] at hnamed
    obtain ⟨name, -, -, hbelow⟩ := exists_of_mem_fixturesIn hnamed hfound
    exact hbelow.of_joinPath hpath

/-- What is found in a folder is at or below the path of an entry. -/
theorem exists_of_mem_fixturesIn : ∀ {category path : Text} {entries : List (Text × FileTree)},
    FileTree.NamedEntries entries → found ∈ fixturesIn category path entries →
      ∃ name ∈ entries.map Prod.fst, '/' ∉ name ∧ Text.AtOrBelow (Text.joinPath path name) found.2
  | _, _, [], _, hfound => by
    rw [fixturesIn] at hfound
    cases hfound
  | _, _, (name, tree) :: rest, hnamed, hfound => by
    rw [fixturesIn] at hfound
    rw [FileTree.NamedEntries] at hnamed
    obtain ⟨⟨hne, hname, -⟩, htree, hrest⟩ := hnamed
    rcases List.mem_append.1 hfound with hfound | hfound
    · exact ⟨name, List.mem_cons_self, hname,
        atOrBelow_of_mem_fixturesOf (Text.getLast?_joinPath_ne hne hname) htree hfound⟩
    · obtain ⟨name', hmem, hname', hbelow⟩ := exists_of_mem_fixturesIn hrest hfound
      exact ⟨name', List.mem_cons_of_mem _ hmem, hname', hbelow⟩

end

mutual

theorem nodup_fixturesOf : ∀ {category path name : Text} {tree : FileTree},
    path.getLast? ≠ some '/' → tree.Named →
      ((fixturesOf category path name tree).map Prod.snd).Nodup
  | _, _, _, .file _, _, _ => by
    rw [fixturesOf]
    split <;> simp
  | _, _, _, .folder _, _, hnamed => by
    rw [fixturesOf]
    rw [FileTree.Named] at hnamed
    exact nodup_fixturesIn hnamed

/-- No path is found twice. -/
theorem nodup_fixturesIn : ∀ {category path : Text} {entries : List (Text × FileTree)},
    FileTree.NamedEntries entries → ((fixturesIn category path entries).map Prod.snd).Nodup
  | _, _, [], _ => by
    rw [fixturesIn]
    exact List.nodup_nil
  | _, path, (name, tree) :: rest, hnamed => by
    rw [FileTree.NamedEntries] at hnamed
    obtain ⟨⟨hne, hname, hfresh⟩, htree, hrest⟩ := hnamed
    have hpath : (Text.joinPath path name).getLast? ≠ some '/' :=
      Text.getLast?_joinPath_ne hne hname
    rw [fixturesIn, List.map_append]
    refine List.Nodup.append (nodup_fixturesOf hpath htree) (nodup_fixturesIn hrest) ?_
    intro file hfile hfile'
    obtain ⟨found, hfound, rfl⟩ := List.mem_map.1 hfile
    obtain ⟨found', hfound', hsame⟩ := List.mem_map.1 hfile'
    have hbelow := atOrBelow_of_mem_fixturesOf hpath htree hfound
    obtain ⟨name', hmem, hname', hbelow'⟩ := exists_of_mem_fixturesIn hrest hfound'
    rw [hsame] at hbelow'
    rw [hbelow.eq_of_joinPath hbelow' hname hname'] at hfresh
    exact hfresh hmem

end

/-! ## Categories -/

/-- A file is filed under one category, in addition to what is there. -/
theorem perm_change (key file : Text) (es : List (Text × List Text)) :
    ((SortedMap.change key (fun known => known.getD [] ++ [file]) es).flatMap Prod.snd).Perm
      (es.flatMap Prod.snd ++ [file]) := by
  induction es with
  | nil => exact List.Perm.refl _
  | cons e es ih =>
    obtain ⟨k, files⟩ := e
    rw [SortedMap.change]
    split
    · exact (List.perm_append_singleton file _).symm
    · split
      · simp only [List.flatMap_cons, Option.getD_some, List.append_assoc]
        exact List.perm_append_comm.append_left _
      · simp only [List.flatMap_cons, List.append_assoc]
        exact ih.append_left _

theorem perm_foldl_upsert (found : List (Text × Text)) (m : Categories) :
    ((found.foldl (fun (m : Categories) (folder, file) =>
      m.upsert (categoryOf folder) fun known => known.getD [] ++ [file]) m).entries.flatMap
        Prod.snd).Perm (m.entries.flatMap Prod.snd ++ found.map Prod.snd) := by
  induction found generalizing m with
  | nil =>
    rw [List.map_nil, List.append_nil]
    exact List.Perm.refl _
  | cons e found ih =>
    obtain ⟨folder, file⟩ := e
    refine (ih _).trans ?_
    rw [List.map_cons, ← List.singleton_append, ← List.append_assoc]
    exact (perm_change _ _ _).append_right _

/-- The categories below a folder hold the fixtures that are found there. -/
theorem perm_discover (path : Text) (tree : FileTree) :
    ((discover path tree).entries.flatMap Prod.snd).Perm
      ((fixturesIn [] path tree.entries).map Prod.snd) := by
  have hfound := perm_foldl_upsert (fixturesIn [] path tree.entries) .empty
  unfold discover
  dsimp only
  generalize (fixturesIn [] path tree.entries).foldl (fun (m : Categories) (folder, file) =>
    m.upsert (categoryOf folder) fun known => known.getD [] ++ [file]) .empty = m at hfound
  have hsorted : (m.entries.map fun e : Text × List Text =>
      (e.1, e.2.mergeSort fun a b => !Text.before Text.pathRank b a)).Pairwise
        fun a b => Text.before Char.toNat a.1 b.1 = true :=
    List.pairwise_map.2 m.sorted
  rw [SortedMap.entries_ofList hsorted, List.flatMap_map]
  exact (List.Perm.flatMap_left _ fun e _ => List.mergeSort_perm _ _).trans hfound

/-- No fixture stands twice in the categories below a folder. -/
theorem nodup_discover (path : Text) {tree : FileTree} (h : tree.Named) :
    ((discover path tree).entries.flatMap Prod.snd).Nodup := by
  rw [(perm_discover path tree).nodup_iff]
  cases tree with
  | file content =>
    rw [FileTree.entries, fixturesIn]
    exact List.nodup_nil
  | folder entries =>
    rw [FileTree.Named] at h
    exact nodup_fixturesIn h

end Session

end StudyGraph
