import Mathlib.Data.List.Forall2
import Mathlib.Data.List.TakeWhile
import Upkeep.Finding.Group
import Upkeep.Proofs.Text.Splitting

/-!
# Spellings of a path

The analyzer reports a file of the project by its path there, by its path from the directory above, or by an
absolute path, and with slashes or backslashes. A selection brings all of them to one spelling.

* `Path.relativeTo?_append`: a base directory is cut off by its components, and what stays keeps its own text.
* `Path.components_of_relativeTo?`: nothing else is cut off. So a directory whose name only begins like that of the
  base is another one (`Path.not_below_append`), and a base that starts with a dot holds no path without one
  (`Path.relativeTo?_eq_none`).
* `localPath_of_isLocal`, `localPath_of_below`: the local path of a spelling.
* `spellings_meet`: the spellings of a source are accepted under one path, and no other absolute path is.
-/

namespace Upkeep

open Text

theorem Text.replaceChar_eq_self {c : Char} {t : Text} (d : Char) (h : c ∉ t) : replaceChar c d t = t := by
  have hid : ∀ x ∈ t, (if x = c then d else x) = x := by
    intro x hx
    rw [if_neg]
    rintro rfl
    exact h hx
  rw [replaceChar, List.map_congr_left hid, List.map_id']

theorem Text.splitOn_append_of_not_mem {c : Char} {u : Text} (hu : c ∉ u) (t : Text) :
    ∃ init last, splitOn [c] t = init ++ [last] ∧ splitOn [c] (t ++ u) = init ++ [last ++ u] := by
  fun_induction splitOn [c] t with
  | case1 t hs => cases hs
  | case2 t hs hb =>
    have hc : c ∉ t := by
      intro hc
      obtain ⟨a, b, rfl⟩ := List.append_of_mem hc
      have := breakOn?_isSome a [c] b
      simp [hb] at this
    have hnone : contains [c] (t ++ u) = false := contains_of_not_mem List.mem_cons_self (by simp [hc, hu])
    exact ⟨[], t, rfl, splitOn_of_not_contains hnone⟩
  | case3 t hs before rest hb ih =>
    obtain ⟨init, last, hrest, hlonger⟩ := ih
    refine ⟨before :: init, last, by rw [hrest, List.cons_append], ?_⟩
    rw [splitOn_of_breakOn? hs (breakOn?_append hb u), hlonger, List.cons_append]

namespace Path

variable {p q base : Path} {piece : Text} {ps : List Piece} {cs : List Component}

/-! ## Components -/

def Piece.inner (piece : Text) : Piece := ⟨Component.ofPiece? piece, piece⟩

/-- Whether a piece has a meaning behind the first. -/
def IsProper (piece : Text) : Prop := piece ≠ [] ∧ piece ≠ ['.']

instance : DecidablePred IsProper := fun _ => inferInstanceAs (Decidable (_ ∧ _))

theorem ofPiece?_ne_none (h : IsProper piece) : Component.ofPiece? piece ≠ none := by
  unfold Component.ofPiece?
  rw [if_neg (not_or.mpr h)]
  split <;> simp

theorem ofPiece?_ne_some (piece : Text) {c : Component} (hc : c = .root ∨ c = .here) :
    Component.ofPiece? piece ≠ some c := by
  unfold Component.ofPiece?
  rcases hc with rfl | rfl <;> split_ifs <;> simp

theorem ofPiece?_injective {c : Component} (hp : Component.ofPiece? p = some c) (hq : Component.ofPiece? q = some c) :
    p = q := by
  unfold Component.ofPiece? at hp hq
  split_ifs at hp hq with _ hup _ hup'
  · rw [hup, hup']
  · exact absurd (hp.trans hq.symm) (by simp)
  · exact absurd (hp.trans hq.symm) (by simp)
  · simpa using hp.trans hq.symm

theorem splitOn_nil : splitOn ['/'] [] = [[]] :=
  splitOn_of_not_contains (contains_of_not_mem List.mem_cons_self List.not_mem_nil)

theorem pieces_slash (t : Text) : pieces ('/' :: t) = ⟨some .root, []⟩ :: (splitOn ['/'] t).map Piece.inner := by
  have hsplit : splitOn ['/'] ('/' :: t) = [] :: splitOn ['/'] t := by
    rw [← List.nil_append ('/' :: t), splitOn_append_singleton, splitOn_nil, List.singleton_append]
  simp only [pieces, hsplit, if_pos, splitOn_ne_nil, if_false]
  rfl

theorem components_slash (t : Text) :
    components ('/' :: t) = .root :: (splitOn ['/'] t).filterMap Component.ofPiece? := by
  rw [components, pieces_slash, List.filterMap_cons, List.filterMap_map]
  rfl

theorem isAbsolute_iff : isAbsolute p = true ↔ ∃ t, p = '/' :: t := startsWith_iff

theorem mem_components {c : Component} (h : c ∈ components p) : c = .root ∧ isAbsolute p = true ∨
    c = .here ∧ (splitOn ['/'] p).head? = some ['.'] ∨ ∃ piece, Component.ofPiece? piece = some c := by
  obtain ⟨x, hx, hc⟩ := List.mem_filterMap.mp h
  unfold pieces at hx
  cases hsplit : splitOn ['/'] p with
  | nil => exact absurd hsplit (splitOn_ne_nil _ _)
  | cons first rest =>
    rw [hsplit] at hx
    rcases List.mem_cons.mp hx with rfl | hx
    · by_cases hdot : first = ['.']
      · subst hdot
        exact .inr (.inl ⟨(Option.some.inj hc).symm, rfl⟩)
      · dsimp only at hc
        split_ifs at hc with hfirst hrest
        · -- only an empty piece before a slash is the root
          have hp := intercalate_splitOn ['/'] p
          obtain ⟨second, others, rfl⟩ := List.exists_cons_of_ne_nil hrest
          rw [hsplit, hfirst, List.intercalate_cons_cons] at hp
          exact .inl ⟨(Option.some.inj hc).symm, by rw [← hp]; rfl⟩
        · exact .inr (.inr ⟨first, hc⟩)
    · obtain ⟨piece, -, rfl⟩ := List.mem_map.mp hx
      exact .inr (.inr ⟨piece, hc⟩)

theorem root_not_mem_components (h : isAbsolute p = false) : Component.root ∉ components p := by
  intro hmem
  rcases mem_components hmem with ⟨-, habs⟩ | ⟨hroot, -⟩ | ⟨piece, hpiece⟩
  · exact Bool.false_ne_true (h.symm.trans habs)
  · cases hroot
  · exact ofPiece?_ne_some piece (.inl rfl) hpiece

theorem here_not_mem_components (h : (splitOn ['/'] p).head? ≠ some ['.']) : Component.here ∉ components p := by
  intro hmem
  rcases mem_components hmem with ⟨hhere, -⟩ | ⟨-, hhead⟩ | ⟨piece, hpiece⟩
  · cases hhere
  · exact h hhead
  · exact ofPiece?_ne_some piece (.inr rfl) hpiece

theorem here_not_mem_components_slash (t : Text) : Component.here ∉ components ('/' :: t) := by
  apply here_not_mem_components
  rw [← List.nil_append ('/' :: t), splitOn_append_singleton, splitOn_nil]
  simp

/-! ## Cutting off components -/

theorem components_of_dropComponents? {rest : List Piece} (h : dropComponents? cs ps = some rest) :
    ps.filterMap (·.component?) = cs ++ rest.filterMap (·.component?) := by
  fun_induction dropComponents? cs ps with
  | case1 ps =>
    obtain rfl := Option.some.inj h
    rfl
  | case2 => cases h
  | case3 c cs p ps hnone ih => rw [List.filterMap_cons_none hnone, ih h]
  | case4 cs p ps d hd ih => rw [List.filterMap_cons_some hd, ih h, List.cons_append]
  | case5 => cases h

theorem dropComponents?_append (front ps : List Piece) :
    ∃ voids : List Piece, (∀ v ∈ voids, v.component?.isNone = true) ∧
      dropComponents? (front.filterMap (·.component?)) (front ++ ps) = some (voids ++ ps) := by
  induction front with
  | nil => exact ⟨[], by simp, by simp [dropComponents?]⟩
  | cons x front ih =>
    obtain ⟨voids, hvoids, hdrop⟩ := ih
    cases hx : x.component? with
    | none =>
      rw [List.filterMap_cons_none hx]
      cases hcs : front.filterMap (·.component?) with
      | nil =>
        refine ⟨x :: front, List.forall_mem_cons.mpr ⟨by simp [hx], fun v hv => ?_⟩, by simp [dropComponents?]⟩
        simpa using List.filterMap_eq_nil_iff.mp hcs v hv
      | cons c cs =>
        rw [hcs] at hdrop
        refine ⟨voids, hvoids, ?_⟩
        simp only [List.cons_append, dropComponents?, hx]
        exact hdrop
    | some d =>
      refine ⟨voids, hvoids, ?_⟩
      rw [List.filterMap_cons_some hx]
      simp only [List.cons_append, dropComponents?, hx, if_true]
      exact hdrop

/-- A path leads through a directory and on. -/
def Below (base p : Path) : Prop := ∃ c cs, components p = components base ++ c :: cs

theorem ofPieces_nil : ofPieces (dropVoidEnd []) = [] := rfl

/-- What is behind a base is behind its components. Nothing is behind the base itself. -/
theorem components_of_relativeTo? {rest : Path} (h : relativeTo? base p = some rest) :
    Below base p ∨ components p = components base ∧ (components base ≠ [] → rest = []) := by
  unfold relativeTo? at h
  split at h
  · next hbase =>
    cases hp : components p with
    | nil => exact .inr ⟨hbase.symm, fun hne => absurd hbase hne⟩
    | cons c cs => exact .inl ⟨c, cs, by rw [hp, hbase, List.nil_append]⟩
  · next hbase =>
    obtain ⟨ps, hdrop, rfl⟩ := Option.map_eq_some_iff.mp h
    have hp : components p = components base ++ ps.filterMap (·.component?) := components_of_dropComponents? hdrop
    cases hcs : ps.filterMap (·.component?) with
    | nil =>
      rw [hcs, List.append_nil] at hp
      refine .inr ⟨hp, fun _ => ?_⟩
      have hvoid : ps.dropWhile (·.component?.isNone) = [] :=
        List.dropWhile_eq_nil_iff.mpr fun v hv => by simpa using List.filterMap_eq_nil_iff.mp hcs v hv
      rw [hvoid, ofPieces_nil]
    | cons c cs => exact .inl ⟨c, cs, by rw [hp, hcs]⟩

def FromHere (p : Path) : Prop := (components p).head? = some .here

instance : DecidablePred FromHere := fun _ => inferInstanceAs (Decidable (_ = _))

theorem here_mem_of_fromHere (h : FromHere p) : Component.here ∈ components p := List.mem_of_mem_head? h

theorem not_below_of_mem {c : Component} (hc : c ∈ components base) (hp : c ∉ components p) : ¬ Below base p := by
  rintro ⟨d, ds, hbelow⟩
  rw [hbelow] at hp
  exact hp (List.mem_append_left _ hc)

theorem relativeTo?_eq_none {c : Component} (hc : c ∈ components base) (hp : c ∉ components p) :
    relativeTo? base p = none := by
  refine Option.eq_none_iff_forall_ne_some.mpr fun rest h => ?_
  rcases components_of_relativeTo? h with hbelow | ⟨hsame, -⟩
  · exact not_below_of_mem hc hp hbelow
  · exact hp (hsame ▸ hc)

theorem relativeTo?_of_relative (hbase : isAbsolute base = true) (hp : isAbsolute p = false) :
    relativeTo? base p = none := by
  obtain ⟨t, rfl⟩ := isAbsolute_iff.mp hbase
  refine relativeTo?_eq_none ?_ (root_not_mem_components hp)
  rw [components_slash]
  exact List.mem_cons_self

theorem dropWhile_eq_self_of_proper {ts : List Text} (h : ∀ t ∈ ts, IsProper t) :
    (ts.map Piece.inner).dropWhile (·.component?.isNone) = ts.map Piece.inner := by
  cases ts with
  | nil => rfl
  | cons t ts =>
    have ht := ofPiece?_ne_none (h t List.mem_cons_self)
    rw [List.map_cons, List.dropWhile_cons_of_neg (by simpa [Piece.inner] using ht)]

theorem dropVoidEnd_of_proper {ts : List Text} (h : ∀ t ∈ ts, IsProper t) :
    dropVoidEnd (ts.map Piece.inner) = ts.map Piece.inner := by
  have hrev := @dropWhile_eq_self_of_proper ts.reverse (by simpa using h)
  rw [dropVoidEnd, ← List.map_reverse, hrev, ← List.map_reverse, List.reverse_reverse]

theorem ofPieces_splitOn (p : Path) : ofPieces ((splitOn ['/'] p).map Piece.inner) = p := by
  have htext : ((splitOn ['/'] p).map Piece.inner).map (·.text) = splitOn ['/'] p := by
    rw [List.map_map]
    exact List.map_id _
  unfold ofPieces
  split
  · next h =>
    obtain ⟨piece, hpieces, hroot⟩ := List.map_eq_singleton_iff.mp h
    exact absurd (congrArg Piece.component? hroot) (ofPiece?_ne_some piece (.inl rfl))
  · rw [htext, intercalate_splitOn]

theorem relativeTo?_append (hbase : isAbsolute base = true) (hp : ∀ piece ∈ splitOn ['/'] p, IsProper piece) :
    relativeTo? base (base ++ '/' :: p) = some p := by
  obtain ⟨t, rfl⟩ := isAbsolute_iff.mp hbase
  obtain ⟨voids, hvoids, hdrop⟩ := dropComponents?_append (pieces ('/' :: t)) ((splitOn ['/'] p).map Piece.inner)
  have hpieces : pieces ('/' :: t ++ '/' :: p) = pieces ('/' :: t) ++ (splitOn ['/'] p).map Piece.inner := by
    rw [List.cons_append, pieces_slash, pieces_slash, splitOn_append_singleton, List.map_append, List.cons_append]
  have hcs : components ('/' :: t) ≠ [] := by simp [components_slash]
  unfold relativeTo?
  split
  · next hnil => exact absurd hnil hcs
  · rw [hpieces]
    have hdrop' := hdrop
    rw [← components] at hdrop'
    rw [hdrop', Option.map_some, List.dropWhile_append_of_pos hvoids, dropWhile_eq_self_of_proper hp,
      dropVoidEnd_of_proper hp, ofPieces_splitOn]

/-! ## Other directories -/

/-- An absolute path of which every piece behind the first slash has a meaning, without backslashes. -/
structure IsBase (p : Path) : Prop where
  absolute : isAbsolute p = true
  proper : ∀ piece ∈ (splitOn ['/'] p).tail, IsProper piece
  noBackslash : '\\' ∉ p

theorem IsBase.exists_slash (h : IsBase p) :
    ∃ t, p = '/' :: t ∧ ∀ piece ∈ splitOn ['/'] t, IsProper piece := by
  obtain ⟨t, rfl⟩ := isAbsolute_iff.mp h.absolute
  have hproper := h.proper
  rw [← List.nil_append ('/' :: t), splitOn_append_singleton, splitOn_nil] at hproper
  exact ⟨t, rfl, hproper⟩

/-- A directory whose name goes on is another directory, and what is in it is not below the first one. -/
theorem not_below_append (hbase : IsBase base) {more : Text} (hmore : more ≠ []) (hslash : '/' ∉ more) (rest : Path) :
    ¬ Below base (base ++ more ++ '/' :: rest) := by
  obtain ⟨t, rfl, hproper⟩ := hbase.exists_slash
  obtain ⟨init, last, hsplit, hlonger⟩ := splitOn_append_of_not_mem hslash t
  have hlast : IsProper last := hproper last (by simp [hsplit])
  have hlong : IsProper (last ++ more) := by
    refine ⟨by simp [hmore], fun hdot => ?_⟩
    have hlength := congrArg List.length hdot
    have hpos := List.length_pos_iff.mpr hlast.1
    have hpos' := List.length_pos_iff.mpr hmore
    simp only [List.length_append, List.length_singleton] at hlength
    omega
  obtain ⟨c, hc⟩ := Option.ne_none_iff_exists'.mp (ofPiece?_ne_none hlast)
  obtain ⟨d, hd⟩ := Option.ne_none_iff_exists'.mp (ofPiece?_ne_none hlong)
  rintro ⟨e, es, hbelow⟩
  rw [List.cons_append, List.cons_append, components_slash, components_slash, splitOn_append_singleton, hsplit,
    hlonger] at hbelow
  simp only [List.filterMap_append, List.filterMap_cons, List.filterMap_nil, hc, hd, List.cons_append,
    List.append_assoc, List.nil_append, List.cons.injEq, true_and] at hbelow
  obtain ⟨hcd, -⟩ := List.cons.inj (List.append_cancel_left hbelow)
  have hsame := ofPiece?_injective (hd.trans (congrArg some hcd)) hc
  simp [hmore] at hsame

/-- A path is another one with some of its slashes turned into backslashes. -/
def Backslashed (p q : Path) : Prop := List.Forall₂ (fun c d => d = c ∨ c = '/' ∧ d = '\\') p q

theorem Backslashed.replaceChar_eq (h : Backslashed p q) (hp : '\\' ∉ p) : replaceChar '\\' '/' q = p := by
  induction h with
  | nil => rfl
  | @cons c d p q hcd _ ih =>
    obtain ⟨hc, hrest⟩ : '\\' ≠ c ∧ '\\' ∉ p := by simpa using hp
    rcases hcd with rfl | ⟨rfl, rfl⟩
    · exact List.cons_eq_cons.mpr ⟨if_neg hc.symm, ih hrest⟩
    · exact List.cons_eq_cons.mpr ⟨if_pos rfl, ih hrest⟩

/-- A relative path without backslashes, with a meaning in each piece. -/
structure IsLocal (p : Path) : Prop where
  relative : isAbsolute p = false
  proper : ∀ piece ∈ splitOn ['/'] p, IsProper piece
  noBackslash : '\\' ∉ p

theorem IsLocal.here_not_mem_components (h : IsLocal p) : Component.here ∉ components p :=
  Path.here_not_mem_components fun hhead => (h.proper ['.'] (List.mem_of_mem_head? hhead)).2 rfl

theorem IsLocal.relativeTo?_eq_none (h : IsLocal p) (hbase : FromHere base ∨ isAbsolute base = true) :
    relativeTo? base p = none :=
  hbase.elim (fun hhere => Path.relativeTo?_eq_none (here_mem_of_fromHere hhere) h.here_not_mem_components)
    fun habs => relativeTo?_of_relative habs h.relative

end Path

namespace Selection

variable {s : Selection} {f : Finding} {p : Path}

/-! ## Local paths -/

theorem localPath_of_findSome? {head : Text} (hsub : s.subdirectory = some head) :
    s.localPath p =
      let rest := ((s.baseDirs.findSome? (Path.relativeTo? · (replaceChar '\\' '/' p))).map (replaceChar '\\' '/')).getD
        (replaceChar '\\' '/' p)
      (after? head rest).getD rest := by
  cases hfind : s.baseDirs.findSome? (Path.relativeTo? · (replaceChar '\\' '/' p)) with
  | none => simp only [localPath, hsub, hfind, Option.map_none, Option.getD_none]
  | some rest => simp only [localPath, hsub, hfind, Option.map_some, Option.getD_some]

theorem localPath_of_isLocal {head : Text} {x : Path} (hsub : s.subdirectory = some head)
    (hdirs : ∀ dir ∈ s.baseDirs, Path.FromHere dir ∨ Path.isAbsolute dir = true) (hx : Path.IsLocal x)
    (hp : Path.Backslashed x p) : s.localPath p = (after? head x).getD x := by
  have hnone : s.baseDirs.findSome? (Path.relativeTo? · x) = none :=
    List.findSome?_eq_none_iff.mpr fun dir hdir => hx.relativeTo?_eq_none (hdirs dir hdir)
  rw [localPath_of_findSome? hsub, hp.replaceChar_eq hx.noBackslash, hnone]
  rfl

theorem localPath_of_below {head : Text} {x root : Path} {before others : List Path}
    (hsub : s.subdirectory = some head) (hdirs : s.baseDirs = before ++ root :: others)
    (hbefore : ∀ dir ∈ before, Path.FromHere dir) (hroot : Path.IsBase root) (hx : Path.IsLocal x)
    (hp : Path.Backslashed (root ++ '/' :: x) p) : s.localPath p = (after? head x).getD x := by
  have hreplace := hp.replaceChar_eq (by simp [hroot.noBackslash, hx.noBackslash])
  have hnone : before.findSome? (Path.relativeTo? · (root ++ '/' :: x)) = none := by
    refine List.findSome?_eq_none_iff.mpr fun dir hdir => ?_
    obtain ⟨t, rfl⟩ := Path.isAbsolute_iff.mp hroot.absolute
    exact Path.relativeTo?_eq_none (Path.here_mem_of_fromHere (hbefore dir hdir))
      (Path.here_not_mem_components_slash _)
  have hsome : s.baseDirs.findSome? (Path.relativeTo? · (root ++ '/' :: x)) = some x := by
    rw [hdirs, List.findSome?_append, hnone, Option.none_or, List.findSome?_cons,
      Path.relativeTo?_append hroot.absolute hx.proper]
  rw [localPath_of_findSome? hsub, hreplace, hsome, Option.map_some, replaceChar_eq_self _ hx.noBackslash]
  rfl

theorem accept?_eq_none (hscope : s.inScope (s.localPath p) = false) : s.accept? { f with file := p } = none := by
  simp [accept?, hscope]

theorem accept?_eq_some {r : Path} (hrule : s.wantsRule f.rule = true) (hscope : s.inScope r = true)
    (h : s.localPath p = r) : s.accept? { f with file := p } = some { f with file := r } := by
  simp [accept?, hrule, h, hscope]

/-! ## The usual scope and subdirectory -/

/-- A selection of the library sources of a project that lies in the usual subdirectory. -/
structure IsUsual (s : Selection) : Prop where
  scope : s.scope = some "lib/".toList
  subdirectory : s.subdirectory = some "jive-flutter/".toList

theorem IsUsual.inScope_slash (hs : IsUsual s) (t : Text) : s.inScope ('/' :: t) = false := by
  rw [inScope, hs.scope]
  rfl

theorem IsUsual.inScope_nil (hs : IsUsual s) : s.inScope [] = false := by
  rw [inScope, hs.scope]
  rfl

theorem IsUsual.accept?_of_absolute (hs : IsUsual s) (f : Finding)
    (habs : Path.isAbsolute (replaceChar '\\' '/' p) = true)
    (hnot : ∀ dir ∈ s.baseDirs, ¬ Path.Below dir (replaceChar '\\' '/' p)) :
    s.accept? { f with file := p } = none := by
  apply accept?_eq_none
  rw [localPath_of_findSome? hs.subdirectory]
  generalize replaceChar '\\' '/' p = q at habs hnot
  obtain ⟨t, rfl⟩ := Path.isAbsolute_iff.mp habs
  cases hfind : s.baseDirs.findSome? (Path.relativeTo? · ('/' :: t)) with
  | none => exact hs.inScope_slash t
  | some rest =>
    -- only the path of a base directory itself is left, and nothing stays of it
    obtain ⟨dir, hdir, hrest⟩ := List.exists_of_findSome?_eq_some hfind
    obtain ⟨hsame, hvoid⟩ := (Path.components_of_relativeTo? hrest).resolve_left (hnot dir hdir)
    have hne : Path.components dir ≠ [] := by
      rw [← hsame, Path.components_slash]
      exact List.cons_ne_nil _ _
    rw [hvoid hne]
    exact hs.inScope_nil

/-- A path of a library source: below the scope, without backslashes, and with a meaning in each piece. -/
structure IsSource (r : Path) : Prop where
  scope : startsWith "lib/".toList r = true
  proper : ∀ piece ∈ splitOn ['/'] r, Path.IsProper piece
  noBackslash : '\\' ∉ r

def fromAbove (r : Path) : Path := "jive-flutter/".toList ++ r

/-- The paths at which a source of the project is reported, when the project's root is `root`. -/
def spellings (root r : Path) : List Path := [r, fromAbove r, root ++ '/' :: r, root ++ '/' :: fromAbove r]

variable {root r : Path} {before others : List Path}

theorem IsSource.isLocal (hr : IsSource r) : Path.IsLocal r := by
  obtain ⟨rest, rfl⟩ := startsWith_iff.mp hr.scope
  exact ⟨rfl, hr.proper, hr.noBackslash⟩

theorem IsSource.isLocal_fromAbove (hr : IsSource r) : Path.IsLocal (fromAbove r) := by
  have hname : splitOn ['/'] "jive-flutter".toList = ["jive-flutter".toList] :=
    splitOn_of_not_contains (contains_of_not_mem List.mem_cons_self (by decide))
  have hsplit : splitOn ['/'] (fromAbove r) = "jive-flutter".toList :: splitOn ['/'] r := by
    have happend := splitOn_append_singleton '/' "jive-flutter".toList r
    rw [hname] at happend
    exact happend
  have hnone : '\\' ∉ "jive-flutter/".toList := by decide
  refine ⟨rfl, ?_, fun hmem => (List.mem_append.mp hmem).elim hnone hr.noBackslash⟩
  rw [hsplit]
  exact List.forall_mem_cons.mpr ⟨⟨by decide, by decide⟩, hr.proper⟩

theorem IsSource.after?_eq_none (hr : IsSource r) : after? "jive-flutter/".toList r = none := by
  obtain ⟨rest, rfl⟩ := startsWith_iff.mp hr.scope
  rfl

theorem after?_fromAbove (r : Path) : after? "jive-flutter/".toList (fromAbove r) = some r := after?_append _ r

theorem IsUsual.localPath_spelling (hs : IsUsual s) (hdirs : s.baseDirs = before ++ root :: others)
    (hbefore : ∀ dir ∈ before, Path.FromHere dir) (hothers : ∀ dir ∈ others, Path.isAbsolute dir = true)
    (hroot : Path.IsBase root) (hr : IsSource r) {q : Path} (hq : q ∈ spellings root r)
    (hp : Path.Backslashed q p) : s.localPath p = r := by
  have hall : ∀ dir ∈ s.baseDirs, Path.FromHere dir ∨ Path.isAbsolute dir = true := by
    rw [hdirs]
    exact List.forall_mem_append.mpr ⟨fun dir hdir => .inl (hbefore dir hdir),
      List.forall_mem_cons.mpr ⟨.inr hroot.absolute, fun dir hdir => .inr (hothers dir hdir)⟩⟩
  simp only [spellings, List.mem_cons, List.not_mem_nil, or_false] at hq
  rcases hq with rfl | rfl | rfl | rfl
  · rw [localPath_of_isLocal hs.subdirectory hall hr.isLocal hp, hr.after?_eq_none, Option.getD_none]
  · rw [localPath_of_isLocal hs.subdirectory hall hr.isLocal_fromAbove hp, after?_fromAbove, Option.getD_some]
  · rw [localPath_of_below hs.subdirectory hdirs hbefore hroot hr.isLocal hp, hr.after?_eq_none, Option.getD_none]
  · rw [localPath_of_below hs.subdirectory hdirs hbefore hroot hr.isLocal_fromAbove hp, after?_fromAbove,
      Option.getD_some]

/-- The project's root is one of the base directories, those in front of it start with a dot, and those behind it
are absolute. Then all spellings of a source of the project are accepted under its path there, and nothing is
accepted at an absolute path that no base directory holds, such as one below a directory whose name begins with that
of the root. -/
theorem spellings_meet (hs : IsUsual s) (hdirs : s.baseDirs = before ++ root :: others)
    (hbefore : ∀ dir ∈ before, Path.FromHere dir) (hothers : ∀ dir ∈ others, Path.isAbsolute dir = true)
    (hroot : Path.IsBase root) (f : Finding) :
    (s.wantsRule f.rule = true → ∀ r, IsSource r → ∀ q ∈ spellings root r, ∀ p, Path.Backslashed q p →
      s.accept? { f with file := p } = some { f with file := r }) ∧
    (∀ p, Path.isAbsolute (replaceChar '\\' '/' p) = true →
      (∀ dir ∈ s.baseDirs, ¬ Path.Below dir (replaceChar '\\' '/' p)) → s.accept? { f with file := p } = none) ∧
    ∀ more rest p, more ≠ [] → '/' ∉ more → '\\' ∉ more → '\\' ∉ rest →
      (∀ dir ∈ others, ¬ Path.Below dir (root ++ more ++ '/' :: rest)) →
      Path.Backslashed (root ++ more ++ '/' :: rest) p → s.accept? { f with file := p } = none := by
  refine ⟨fun hrule r hr q hq p hp => ?_, fun p => hs.accept?_of_absolute f, ?_⟩
  · refine accept?_eq_some hrule ?_ (hs.localPath_spelling hdirs hbefore hothers hroot hr hq hp)
    rw [inScope, hs.scope]
    exact hr.scope
  · intro more rest p hmore hslash hback hback' hnot hp
    have hreplace := hp.replaceChar_eq (by simp [hroot.noBackslash, hback, hback'])
    have hbeside := Path.not_below_append hroot hmore hslash rest
    obtain ⟨t, rfl⟩ := Path.isAbsolute_iff.mp hroot.absolute
    apply hs.accept?_of_absolute
    · rw [hreplace]
      rfl
    · rw [hreplace, hdirs]
      refine List.forall_mem_append.mpr ⟨fun dir hdir => ?_, List.forall_mem_cons.mpr ⟨hbeside, hnot⟩⟩
      exact Path.not_below_of_mem (Path.here_mem_of_fromHere (hbefore dir hdir))
        (Path.here_not_mem_components_slash _)

/-- A finding in a source, reported at a path. -/
def foundAt (path : String) : Finding :=
  ⟨.warning, "Unused import: 'a'".toList, path.toList, 3, 8, Rule.unusedImport⟩

/-- A path from the directory above the project, with backslashes between some of its names, is accepted under the
path in the project, and a path below a directory beside the project is not. -/
theorem spellings_meet_backslashed :
    let s : Selection :=
      ⟨[], some "lib/".toList, some "jive-flutter/".toList, [".".toList, "/w/app".toList, "/srv/app".toList]⟩
    s.wantsRule (foundAt "lib/../a.dart").rule = true ∧
    s.accept? (foundAt "/w\\app/jive-flutter\\lib/../a.dart") = some (foundAt "lib/../a.dart") ∧
    s.accept? (foundAt "/w/app2/lib\\a.dart") = none := by
  intro s
  have hdirs : s.baseDirs = [".".toList] ++ "/w/app".toList :: ["/srv/app".toList] := rfl
  have hbefore : ∀ dir ∈ [".".toList], Path.FromHere dir := List.forall_mem_singleton.mpr (by decide +kernel)
  have hothers : ∀ dir ∈ ["/srv/app".toList], Path.isAbsolute dir = true := List.forall_mem_singleton.mpr rfl
  have hroot : Path.IsBase "/w/app".toList := ⟨rfl, by decide +kernel, by decide⟩
  have hr : IsSource "lib/../a.dart".toList := ⟨by decide, by decide +kernel, by decide⟩
  have habove : Path.Backslashed ("/w/app".toList ++ '/' :: fromAbove "lib/../a.dart".toList)
      "/w\\app/jive-flutter\\lib/../a.dart".toList := by
    unfold Path.Backslashed
    decide +kernel
  have hbeside : Path.Backslashed ("/w/app".toList ++ "2".toList ++ '/' :: "lib/a.dart".toList)
      "/w/app2/lib\\a.dart".toList := by
    unfold Path.Backslashed
    decide +kernel
  obtain ⟨haccepted, -, hrefused⟩ :=
    spellings_meet (s := s) ⟨rfl, rfl⟩ hdirs hbefore hothers hroot (foundAt "lib/../a.dart")
  refine ⟨rfl, haccepted rfl _ hr _ (by simp [spellings]) _ habove, ?_⟩
  refine hrefused "2".toList "lib/a.dart".toList _ (by decide) (by decide) (by decide) (by decide)
    (List.forall_mem_singleton.mpr ?_) hbeside
  rintro ⟨c, cs, hbelow⟩
  have hother : ¬ Path.components "/srv/app".toList <+: Path.components "/w/app2/lib/a.dart".toList := by decide +kernel
  exact hother ⟨c :: cs, hbelow.symm⟩

end Selection
end Upkeep
