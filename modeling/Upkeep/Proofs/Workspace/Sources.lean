import Mathlib.Algebra.GroupWithZero.Nat
import Mathlib.Data.List.Lex
import Mathlib.Data.List.Nodup
import Upkeep.Proofs.Text.Order
import Upkeep.Proofs.Workspace.Below
import Upkeep.Structure.Survey

/-!
# What a search finds

A search finds just the files that it is meant to find, each once and in order.

* `Dir.mem_sourcePlaces_iff`: the files that are reached are those with no skipped directory on the way.
* `Workspace.IsSource`: the files that a search is meant to find. As a directory is read under its own path, those in
  one whose path is too long are not among them (`deep_source_missed`).
* `Workspace.sources_listed`: a search finds these, and the lines that are counted are theirs.
-/

namespace Upkeep

open Text

/-! ## The files that are reached -/

namespace Dir

variable {d : Dir} {place : Place}

theorem placeNotAfter_iff {a b : Place} : placeNotAfter a b = true ↔ a ≤ b := by
  rw [← not_lt]
  induction a generalizing b with
  | nil => simp [placeNotAfter]
  | cons m a ih =>
    cases b with
    | nil => simp [placeNotAfter]
    | cons n b =>
      rw [placeNotAfter, List.cons_lt_cons_iff]
      split
      · next h =>
        subst h
        simp [ih]
      · next h =>
        have hne : n ≠ m := Ne.symm h
        rw [notAfter_iff]
        simp [hne]

theorem nil_notMem_sourcePlaces (d : Dir) : [] ∉ d.sourcePlaces := by
  intro h
  obtain ⟨n, rest, he, -⟩ := exists_child_of_mem_sourcePlaces h
  cases he

theorem mem_sub_iff {m : Text} {entries : Dir} : m :: place ∈ (if skippedNames.contains m then []
    else entries.sourcePlaces.map (m :: ·)) ↔ m ∉ skippedNames ∧ place ∈ entries.sourcePlaces := by
  by_cases hm : m ∈ skippedNames
  · simp [hm]
  · simp [hm]

/-- A file is reached if no directory on the way is skipped. -/
theorem mem_sourcePlaces_iff (hd : d.Proper) : place ∈ d.sourcePlaces ↔
    (d.content? place).isSome = true ∧ ∀ n ∈ place.dropLast, n ∉ skippedNames := by
  cases place with
  | nil => exact iff_of_false (nil_notMem_sourcePlaces d) fun h => by cases h.1
  | cons n place =>
    induction d generalizing n place with
    | empty => exact iff_of_false List.not_mem_nil fun h => by cases h.1
    | file m content rest ih =>
      obtain ⟨-, hnone, hrest⟩ := hd
      rw [sourcePlaces, List.mem_cons, content?_cons, child?]
      by_cases hm : m = n
      · subst hm
        have hnot := cons_notMem_sourcePlaces hnone place
        by_cases hplace : place = [] <;> simp [hplace, hnot]
      · rw [if_neg hm, ← content?_cons, ← ih hrest]
        simp [Ne.symm hm]
    | sub m entries rest ihe ih =>
      obtain ⟨-, hnone, hentries, hrest⟩ := hd
      rw [sourcePlaces, List.mem_append, content?_cons, child?]
      by_cases hm : m = n
      · subst hm
        -- the name comes once, so its places are those of this directory
        rw [if_pos rfl, Option.bind_some, or_iff_left (cons_notMem_sourcePlaces hnone place), mem_sub_iff]
        cases place with
        | nil => exact iff_of_false (fun h => nil_notMem_sourcePlaces entries h.2) fun h => by cases h.1
        | cons k place => rw [List.dropLast_cons_cons, List.forall_mem_cons, ihe hentries, and_left_comm]
      · have hother : n :: place ∉ (if skippedNames.contains m then [] else entries.sourcePlaces.map (m :: ·)) := by
          split <;> simp [hm]
        rw [if_neg hm, ← content?_cons, ← ih hrest, or_iff_right hother]

end Dir

/-- The bytes of the file at a place below a node, which is the node itself if that is a file. -/
def Node.content? : Node → Place → Option ByteArray
  | file bytes, place => if place = [] then some bytes else none
  | dir entries, place => entries.content? place

namespace Workspace

/-! ## Sources -/

def bytesBelow? (w : Workspace) (root : Path) (place : Place) : Option ByteArray :=
  match w.node root with
  | .ok node => node.content? place
  | .error _ => none

/-- A file below a path that a search is meant to find: it has the extension, and the search enters every directory
on the way, none of which is skipped and the last of which has a path that can be followed. -/
structure IsSource (w : Workspace) (root : Path) (extension : Text) (place : Place) : Prop where
  file : (w.bytesBelow? root place).isSome = true
  extension : Path.extension? (place.foldl Path.join root) = some extension
  entered : ∀ n ∈ place.dropLast, n ∉ Dir.skippedNames
  short : IsShort (place.dropLast.foldl Path.join root)

/-- The number of lines of the file at a place below a path, if its path can be followed and it holds a text. -/
def linesBelow (w : Workspace) (root : Path) (place : Place) : Nat :=
  if IsShort (place.foldl Path.join root) then
    ((w.bytesBelow? root place).bind ofBytes?).elim 0 fun t => (lines t).length
  else 0

variable {w : Workspace} {root : Path} {place : Place} {extension : Text} {bytes : ByteArray} {d : Dir}

theorem exists_dir_of_content? (h : d.content? place = some bytes) :
    ∃ front n entries, place = front ++ [n] ∧ d.lookup? front = some (.dir entries) := by
  rcases List.eq_nil_or_concat' place with rfl | ⟨front, n, rfl⟩
  · cases h
  · obtain ⟨entries, hfront, -⟩ := Dir.exists_dir_of_lookup?_append (Dir.content?_eq_some_iff.mp h)
    exact ⟨front, n, entries, rfl, hfront⟩

theorem exists_content?_of_bytesBelow? (h : w.bytesBelow? root place = some bytes) :
    ∃ above, w.locate root = .ok above ∧ w.root.content? (above ++ place) = some bytes := by
  unfold bytesBelow? at h
  cases hn : w.node root with
  | error reason => simp [hn] at h
  | ok node =>
    obtain ⟨above, hroot, habove⟩ := locate_of_node hn
    rw [hn] at h
    refine ⟨above, hroot, ?_⟩
    cases node with
    | dir d =>
      have hfile : d.content? place = some bytes := h
      rw [Dir.content?_eq_some_iff, Dir.lookup?_append habove, Dir.content?_eq_some_iff.mp hfile]
    | file other =>
      obtain rfl : place = [] := by
        by_contra hne
        simp [Node.content?, hne] at h
      obtain rfl : other = bytes := by simpa [Node.content?] using h
      rw [List.append_nil, Dir.content?_eq_some_iff, habove]

/-- The places of the files that a search finds. -/
def placesFound (w : Workspace) (root : Path) (extension : Text) : List Place :=
  match w.node root with
  | .error _ => []
  | .ok (.file _) => if Path.extension? root = some extension then [[]] else []
  | .ok (.dir d) => (d.placesWithExtension extension).filter (w.readsDirOf root)

theorem filesWithExtension_eq_map (w : Workspace) (root : Path) (extension : Text) :
    w.filesWithExtension root extension = (w.placesFound root extension).map fun place => place.foldl Path.join root := by
  unfold filesWithExtension placesFound
  cases w.node root with
  | error reason => rfl
  | ok node =>
    cases node with
    | dir d => rfl
    | file bytes =>
      dsimp only
      split <;> rfl

theorem hasExtension_concat_iff {front : Place} {n : Text} (hnames : ∀ m ∈ front ++ [n], IsName m) :
    Dir.hasExtension extension (front ++ [n]) = true ↔
      Path.extension? ((front ++ [n]).foldl Path.join root) = some extension := by
  rw [Path.extension?_foldl_join hnames root List.getLast?_concat, Dir.hasExtension, List.getLast?_concat]
  simp

theorem mem_filter_readsDirOf_iff {above : Place} (hproper : w.root.Proper) (hstorable : w.root.AllNames IsStorable)
    (hroot : w.locate root = .ok above) (habove : w.root.lookup? above = some (.dir d)) :
    place ∈ (d.placesWithExtension extension).filter (w.readsDirOf root) ↔ w.IsSource root extension place := by
  have hnode : w.node root = .ok (.dir d) := by rw [node_eq hroot, habove]
  have hbytes : w.bytesBelow? root place = d.content? place := by
    rw [bytesBelow?, hnode]
    rfl
  rw [List.mem_filter, Dir.placesWithExtension, List.mem_mergeSort, List.mem_filter,
    Dir.mem_sourcePlaces_iff (hproper.of_lookup? habove), ← hbytes]
  cases hfile : w.bytesBelow? root place with
  | none => exact iff_of_false (fun h => by simpa using h.1.1.1) fun h => by simpa [hfile] using h.file
  | some bytes =>
    obtain ⟨front, n, entries, rfl, hfront⟩ := exists_dir_of_content? (hbytes.symm.trans hfile)
    obtain ⟨_, hroot', hcontent⟩ := exists_content?_of_bytesBelow? hfile
    obtain rfl := Except.ok.inj (hroot.symm.trans hroot')
    have hreads : w.readsDirOf root (front ++ [n]) = true ↔
        IsShort ((front ++ [n]).dropLast.foldl Path.join root) := by
      rw [readsDirOf, List.dropLast_concat]
      exact isDir_below hproper hstorable hroot ((Dir.lookup?_append habove front).trans hfront)
    rw [hasExtension_concat_iff (names_below hproper hstorable (Dir.content?_eq_some_iff.mp hcontent)).1, hreads]
    constructor
    · rintro ⟨⟨⟨-, hentered⟩, hext⟩, hshort⟩
      exact ⟨by rw [hfile]; rfl, hext, hentered, hshort⟩
    · rintro ⟨-, hext, hentered, hshort⟩
      exact ⟨⟨⟨rfl, hentered⟩, hext⟩, hshort⟩

theorem mem_placesFound_iff (hproper : w.root.Proper) (hstorable : w.root.AllNames IsStorable) :
    place ∈ w.placesFound root extension ↔ w.IsSource root extension place := by
  unfold placesFound
  cases hn : w.node root with
  | error reason => exact iff_of_false List.not_mem_nil fun h => by simpa [bytesBelow?, hn] using h.file
  | ok node =>
    obtain ⟨above, hroot, habove⟩ := locate_of_node hn
    cases node with
    | dir d => exact mem_filter_readsDirOf_iff hproper hstorable hroot habove
    | file bytes =>
      have hbytes : w.bytesBelow? root place = if place = [] then some bytes else none := by rw [bytesBelow?, hn]; rfl
      dsimp only
      constructor
      · intro h
        split at h
        · next hext =>
          obtain rfl := List.mem_singleton.mp h
          exact ⟨by simp [hbytes], hext, by simp, isShort_of_locate hroot⟩
        · cases h
      · intro h
        obtain rfl : place = [] := by
          by_contra hne
          simpa [hbytes, hne] using h.file
        rw [if_pos (by exact h.extension)]
        exact List.mem_singleton_self _

theorem ascending_placesFound (hproper : w.root.Proper) (root : Path) (extension : Text) :
    (w.placesFound root extension).Pairwise (· < ·) := by
  unfold placesFound
  cases hn : w.node root with
  | error reason => exact .nil
  | ok node =>
    obtain ⟨above, -, habove⟩ := locate_of_node hn
    cases node with
    | file bytes =>
      dsimp only
      split
      · exact List.pairwise_singleton _ _
      · exact .nil
    | dir d =>
      have hnodup := (Dir.nodup_sourcePlaces (hproper.of_lookup? habove)).filter (Dir.hasExtension extension)
      exact (pairwise_lt_mergeSort id (fun _ _ => Dir.placeNotAfter_iff) (by rwa [List.map_id])).filter _

theorem lines_readText_below (hproper : w.root.Proper) (hstorable : w.root.AllNames IsStorable)
    (h : w.bytesBelow? root place = some bytes) :
    (w.readText (place.foldl Path.join root)).toOption.elim 0 (fun t => (lines t).length) = w.linesBelow root place := by
  obtain ⟨above, hroot, hcontent⟩ := exists_content?_of_bytesBelow? h
  unfold linesBelow
  split
  · next hshort =>
    have hlocate := locate_below hproper hstorable hroot (Dir.content?_eq_some_iff.mp hcontent) hshort
    rw [readText_eq (file?_eq_some_iff.mpr ⟨hlocate, bytes, hcontent⟩) hcontent, h, Option.bind_some]
    cases ofBytes? bytes <;> rfl
  · next hlong =>
    cases hl : w.locate (place.foldl Path.join root) with
    | error reason => simp [readText, read, node, hl, Except.bind, Except.toOption]
    | ok reached => exact absurd (isShort_of_locate hl) hlong

theorem sum_lines_filterMap {α : Type} (f : α → Option Text) (l : List α) :
    (l.filterMap f).foldr (fun t n => (lines t).length + n) 0 =
      (l.map fun a => (f a).elim 0 fun t => (lines t).length).sum := by
  induction l with
  | nil => rfl
  | cons a l ih =>
    rw [List.map_cons, List.sum_cons, ← ih]
    cases h : f a with
    | none => simp [List.filterMap_cons_none h]
    | some t => simp [List.filterMap_cons_some h]

theorem countLines_eq (hproper : w.root.Proper) (hstorable : w.root.AllNames IsStorable) (label : Text) (root : Path)
    (extension : Text) : Structure.countLines w label root extension =
      ⟨label, (w.placesFound root extension).length,
        ((w.placesFound root extension).map (w.linesBelow root)).sum⟩ := by
  have hlines : ∀ place ∈ w.placesFound root extension,
      (w.readText (place.foldl Path.join root)).toOption.elim 0 (fun t => (lines t).length) = w.linesBelow root place :=
    fun place hplace => by
      obtain ⟨bytes, hbytes⟩ := Option.isSome_iff_exists.mp ((mem_placesFound_iff hproper hstorable).mp hplace).file
      exact lines_readText_below hproper hstorable hbytes
  unfold Structure.countLines
  dsimp only
  rw [filesWithExtension_eq_map, List.length_map, sum_lines_filterMap, List.map_map]
  exact congrArg (fun ns : List Nat => (⟨label, _, ns.sum⟩ : Structure.LineCount)) (List.map_congr_left hlines)

/-- A search finds just the files with the extension below a path to which no skipped directory leads and whose
directories can be followed by their paths, each once and in the order of the names that lead to it. The lines that are
counted are those of the files that hold a text and can be followed themselves. -/
theorem sources_listed (w : Workspace) (hproper : w.root.Proper) (hstorable : w.root.AllNames IsStorable)
    (root : Path) (extension label : Text) :
    ∃ places : List Place,
      w.filesWithExtension root extension = places.map (fun place => place.foldl Path.join root) ∧
      (w.filesWithExtension root extension).Nodup ∧
      (∀ place, place ∈ places ↔ w.IsSource root extension place) ∧
      places.Pairwise (· < ·) ∧
      (∀ place ∈ places,
        Path.components (place.foldl Path.join root) = Path.components root ++ place.map .name) ∧
      Structure.countLines w label root extension = ⟨label, places.length, (places.map (w.linesBelow root)).sum⟩ := by
  have hmem : ∀ place, place ∈ w.placesFound root extension ↔ w.IsSource root extension place :=
    fun place => mem_placesFound_iff hproper hstorable
  have hcomponents : ∀ place ∈ w.placesFound root extension,
      Path.components (place.foldl Path.join root) = Path.components root ++ place.map .name :=
    fun place hplace => by
      obtain ⟨bytes, hbytes⟩ := Option.isSome_iff_exists.mp ((hmem place).mp hplace).file
      obtain ⟨above, -, hcontent⟩ := exists_content?_of_bytesBelow? hbytes
      exact Path.components_foldl_join (names_below hproper hstorable (Dir.content?_eq_some_iff.mp hcontent)).1 root
  have hascending := ascending_placesFound hproper root extension
  refine ⟨w.placesFound root extension, filesWithExtension_eq_map w root extension, ?_, hmem, hascending, hcomponents,
    countLines_eq hproper hstorable label root extension⟩
  rw [filesWithExtension_eq_map]
  -- paths with the same components lead to the same place
  refine List.Nodup.map_on (fun p hp q hq he => ?_) (hascending.imp fun h => h.ne)
  have hnames := (hcomponents p hp).symm.trans ((congrArg Path.components he).trans (hcomponents q hq))
  exact List.map_injective_iff.mpr (fun _ _ h => Path.Component.name.inj h) (List.append_cancel_left hnames)

/-- A directory with the name of a skipped one, with a skipped one and others below it. -/
def generated : Workspace :=
  ⟨.sub "build".toList
    (.sub "a-b".toList (.file "c.dart".toList .empty .empty)
      (.sub ".git".toList (.file "d.dart".toList .empty .empty)
        (.sub "a".toList (.file "b.dart".toList (toBytes "x\ny".toList) .empty) .empty))) .empty, []⟩

/-- A search from a directory with the name of a skipped one finds what is below it, but not in a skipped one. -/
theorem sources_listed_generated : generated.root.Proper ∧ generated.root.AllNames IsStorable ∧
    ∃ places : List Place,
      generated.filesWithExtension "build".toList dartExtension =
        places.map (fun place => place.foldl Path.join "build".toList) ∧
      ["a".toList, "b.dart".toList] ∈ places ∧ [".git".toList, "d.dart".toList] ∉ places ∧
      generated.linesBelow "build".toList ["a".toList, "b.dart".toList] = 2 := by
  have hproper : generated.root.Proper := by decide +kernel
  have hstorable : generated.root.AllNames IsStorable := by decide +kernel
  obtain ⟨places, hfiles, -, hmem, -⟩ := sources_listed generated hproper hstorable "build".toList dartExtension []
  have hsource : generated.IsSource "build".toList dartExtension ["a".toList, "b.dart".toList] :=
    ⟨by decide +kernel, by decide +kernel, by decide +kernel, by decide +kernel⟩
  refine ⟨hproper, hstorable, places, hfiles, (hmem _).mpr hsource, fun h => ?_, by decide +kernel⟩
  exact absurd ((hmem _).mp h).entered (by decide +kernel)

/-! ## A path that is long for nothing -/

/-- The dot of the current directory, so many times and once more. -/
def dotted : Nat → Path
  | 0 => ['.']
  | n + 1 => '.' :: '/' :: dotted n

theorem steps_dotted (n : Nat) : steps (dotted n) = List.replicate (n + 1) ['.'] := by
  have hdot : steps ['.'] = [['.']] := by
    rw [steps, splitOn_of_not_contains (contains_of_not_mem List.mem_cons_self (by decide))]
    rfl
  induction n with
  | zero => exact hdot
  | succ n ih =>
    change steps (['.'] ++ '/' :: dotted n) = _
    rw [steps_append_slash, hdot, ih]
    rfl

theorem size_toBytes_dotted (n : Nat) : (toBytes (dotted n)).size = 2 * n + 1 := by
  have hdot : Char.utf8Size '.' = 1 := by decide
  have hslash : Char.utf8Size '/' = 1 := by decide
  induction n with
  | zero => decide
  | succ n ih =>
    rw [dotted, size_toBytes_cons, size_toBytes_cons, ih, hdot, hslash]
    omega

theorem dotted_ne_nil (n : Nat) : dotted n ≠ [] := by cases n <;> exact List.cons_ne_nil _ _

theorem endsWith_dotted (n : Nat) : Text.endsWith ['/'] (dotted n) = false := by
  induction n with
  | zero => rfl
  | succ n ih =>
    change Text.endsWith ['/'] (['.', '/'] ++ dotted n) = false
    rw [endsWith_append _ (dotted_ne_nil n), ih]

theorem mem_dotted {n : Nat} {c : Char} (h : c ∈ dotted n) : c = '.' ∨ c = '/' := by
  induction n with
  | zero => exact .inl (List.mem_singleton.mp h)
  | succ n ih =>
    rcases List.mem_cons.mp h with h | h
    · exact .inl h
    · exact (List.mem_cons.mp h).elim .inr ih

theorem follow_dots {entries : Dir} (h : d.lookup? place = some (.dir entries)) (n : Nat) :
    follow d place (List.replicate n ['.']) = .ok place := by
  induction n with
  | zero => rfl
  | succ n ih => rw [List.replicate_succ, follow, h]; exact ih

theorem locate_dotted {entries : Dir} (h : w.root.lookup? w.here = some (.dir entries)) {n : Nat}
    (hn : 2 * n + 1 < 4096) : w.locate (dotted n) = .ok w.here := by
  have hflaw : flaw? (dotted n) = none := by
    refine flaw?_eq_none_iff.mpr ⟨fun hmem => ?_, dotted_ne_nil n, ?_⟩
    · rcases mem_dotted hmem with h | h <;> cases h
    · rw [IsShort, size_toBytes_dotted]
      exact hn
  have hstart : w.start (dotted n) = w.here := by cases n <;> rfl
  rw [locate, hflaw]
  simp only [endsWith_dotted, Bool.false_eq_true, if_false, List.append_nil]
  rw [hstart, steps_dotted, follow_dots h]

/-- A source in a directory with a long name. -/
def deep : Workspace :=
  ⟨.sub (List.replicate 50 'd') (.file "a.dart".toList .empty .empty) .empty, []⟩

/-- The source is below the path and no skipped directory is on the way, but the path of its directory is too long
to be read, so the search finds nothing. -/
theorem deep_source_missed : deep.root.Proper ∧ deep.root.AllNames IsStorable ∧
    (deep.bytesBelow? (dotted 2030) [List.replicate 50 'd', "a.dart".toList]).isSome = true ∧
    Path.extension? ([List.replicate 50 'd', "a.dart".toList].foldl Path.join (dotted 2030)) = some dartExtension ∧
    (∀ n ∈ [List.replicate 50 'd', "a.dart".toList].dropLast, n ∉ Dir.skippedNames) ∧
    deep.filesWithExtension (dotted 2030) dartExtension = [] := by
  have hproper : deep.root.Proper := by decide +kernel
  have hstorable : deep.root.AllNames IsStorable := by decide +kernel
  have hnode : deep.node (dotted 2030) = .ok (.dir deep.root) := by
    rw [node_eq (locate_dotted rfl (by decide))]
    rfl
  have hnames : ∀ n ∈ [List.replicate 50 'd', "a.dart".toList], IsName n := by decide +kernel
  refine ⟨hproper, hstorable, by rw [bytesBelow?, hnode]; rfl, ?_, by decide +kernel, ?_⟩
  · rw [Path.extension?_foldl_join hnames _ rfl]
    decide +kernel
  · rw [filesWithExtension_eq_map, List.map_eq_nil_iff, List.eq_nil_iff_forall_not_mem]
    intro place hplace
    have hsource := (mem_placesFound_iff hproper hstorable).mp hplace
    have hfile := hsource.file
    rw [bytesBelow?, hnode] at hfile
    have hreached : place ∈ deep.root.sourcePlaces := (Dir.mem_sourcePlaces_iff hproper).mpr ⟨hfile, hsource.entered⟩
    have honly : deep.root.sourcePlaces = [[List.replicate 50 'd', "a.dart".toList]] := by decide +kernel
    rw [honly, List.mem_singleton] at hreached
    subst hreached
    have hlong : (toBytes ([List.replicate 50 'd'].foldl Path.join (dotted 2030))).size = 4112 := by
      have hjoin : Path.join (dotted 2030) (List.replicate 50 'd') = dotted 2030 ++ '/' :: List.replicate 50 'd' := by
        rw [Path.join, endsWith_dotted]
        rfl
      rw [List.foldl_cons, List.foldl_nil, hjoin, toBytes_append, ByteArray.size_append, size_toBytes_dotted]
      decide +kernel
    have hshort : (toBytes ([List.replicate 50 'd'].foldl Path.join (dotted 2030))).size < 4096 := hsource.short
    omega

end Workspace
end Upkeep
