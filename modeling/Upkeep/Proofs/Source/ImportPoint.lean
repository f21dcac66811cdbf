import Upkeep.Proofs.Source.Directive

/-!
# Imports at the import point

A line that starts an import belongs to the header, wherever in the header it is put. At the import point it is behind
all imports of the header, so that it is the last one then, and the import point moves behind it.

* `Adds b b' lines`: `b'` is `b` with some lines at its import point, all of them in the header, and its import point is
  behind them. Added lines add up (`Adds.trans`).
* `adds_addImport`: one import, and `imports_added_in_order`: imports one after the other.
-/

namespace Upkeep

open Text Directive

/-! ## Lines of imports -/

namespace Directive

variable {body : Text}

/-- What can follow the word of an import on its line: not only blanks, and nothing that would end the line. -/
structure IsImportBody (body : Text) : Prop where
  not_blank : allBlank body = false
  isContent : IsContent body

def importLine (body : Text) : Text := importWord ++ body

theorem trimStart_importLine (body : Text) : trimStart (importLine body) = importLine body :=
  trimStart_append (by decide) (by decide)

theorem opensWith_importLine (body : Text) : opensWith importWord (importLine body) = true := by
  rw [opensWith, trimStart_importLine]
  exact startsWith_iff.mpr ⟨body, rfl⟩

theorem IsImportBody.isHeaderLine (h : IsImportBody body) : isHeaderLine (importLine body) = true :=
  isHeaderLine_of_startsDirective (startsDirective_of_trimStart (trimStart_importLine body) h.not_blank)

theorem IsImportBody.isContent_importLine (h : IsImportBody body) : IsContent (importLine body) where
  no_feed := List.not_mem_append (by decide) h.isContent.no_feed
  no_return := by
    intro hlast
    rw [importLine, List.getLast?_append, Option.or_eq_some_iff] at hlast
    rcases hlast with hlast | ⟨-, hlast⟩
    · exact h.isContent.no_return hlast
    · exact absurd hlast (by decide)

end Directive

namespace Buffer

variable {b b' b'' : Buffer} {lines more : List Text} {body line : Text} {i n : Nat}

def addImport (b : Buffer) (line : Text) : Buffer := b.insert b.importPoint line

/-- The buffer with some lines added one after the other, each at the import point that there is then. -/
def addImports (b : Buffer) (lines : List Text) : Buffer := lines.foldl addImport b

/-! ## Added lines -/

theorem not_inHeader_of_importPoint_le (h : b.importPoint ≤ i) : ¬ b.InHeader (opensWith importWord) i := by
  intro hi
  obtain ⟨last, hpoint, -, hlast⟩ := importPoint_eq hi
  have := hlast i hi
  omega

/-- Lines come to stand at the import point of `b`, in the header, and the import point moves behind them. -/
structure Adds (b b' : Buffer) (lines : List Text) : Prop where
  contents : b'.contents = b.contents.take b.importPoint ++ lines ++ b.contents.drop b.importPoint
  header : b'.header = b.header.take b.importPoint ++ lines ++ b.header.drop b.importPoint
  importPoint : b'.importPoint = b.importPoint + lines.length

theorem Adds.refl (b : Buffer) : b.Adds b [] where
  contents := by simp
  header := by simp
  importPoint := rfl

theorem Adds.headerLength (h : b.Adds b' lines) : b'.headerLength = b.headerLength + lines.length := by
  have hle := b.importPoint_le
  rw [Buffer.headerLength] at hle ⊢
  rw [h.header, Buffer.headerLength]
  simp only [List.length_append, List.length_take, List.length_drop]
  omega

theorem put_behind {l : List Text} (h : n ≤ l.length) (lines more : List Text) :
    (l.take n ++ lines ++ l.drop n).take (n + lines.length) ++ more ++
      (l.take n ++ lines ++ l.drop n).drop (n + lines.length) = l.take n ++ (lines ++ more) ++ l.drop n := by
  have hlength : (l.take n ++ lines).length = n + lines.length := by
    rw [List.length_append, List.length_take_of_le h]
  rw [List.take_left' hlength, List.drop_left' hlength]
  simp only [List.append_assoc]

theorem Adds.trans (h : b.Adds b' lines) (h' : b'.Adds b'' more) : b.Adds b'' (lines ++ more) where
  contents := by
    have hle : b.importPoint ≤ b.contents.length := by
      rw [length_contents]
      exact Nat.le_trans b.importPoint_le b.headerLength_le
    rw [h'.contents, h.contents, h.importPoint, put_behind hle]
  header := by rw [h'.header, h.header, h.importPoint, put_behind b.importPoint_le]
  importPoint := by rw [h'.importPoint, h.importPoint, List.length_append, Nat.add_assoc]

/-! ## One import -/

theorem insertIdx_eq_append {l : List Text} (h : n ≤ l.length) :
    l.insertIdx n line = l.take n ++ [line] ++ l.drop n := by
  induction l generalizing n with
  | nil =>
    obtain rfl : n = 0 := by simpa using h
    rfl
  | cons first rest ih =>
    cases n with
    | zero => rfl
    | succ n =>
      rw [List.insertIdx_succ_cons, ih (by simpa using h), List.take_succ_cons, List.drop_succ_cons]
      rfl

theorem isLastInHeader_addImport (hb : Framed b.lines) (h : IsImportBody body) :
    (b.addImport (importLine body)).IsLastInHeader (opensWith importWord) b.importPoint := by
  have hle : b.importPoint ≤ b.header.length := b.importPoint_le
  have hheader := header_insert hb h.isContent_importLine h.isHeaderLine hle
  rw [← addImport] at hheader
  constructor
  · refine ⟨importLine body, ?_, opensWith_importLine body⟩
    rw [hheader, List.getElem?_insertIdx_self, if_pos hle]
  · -- an import further down was one line higher before, and there the header had none
    rintro j ⟨line, hline, hopens⟩
    by_contra hj
    rw [hheader, List.getElem?_insertIdx_of_gt (by omega)] at hline
    exact not_inHeader_of_importPoint_le (b := b) (i := j - 1) (by omega) ⟨line, hline, hopens⟩

theorem adds_addImport (hb : Framed b.lines) (h : IsImportBody body) :
    b.Adds (b.addImport (importLine body)) [importLine body] where
  contents := by
    rw [addImport, contents_insert_header hb h.isContent_importLine b.importPoint_le, insertIdx_eq_append]
    rw [length_contents]
    exact Nat.le_trans b.importPoint_le b.headerLength_le
  header := by
    rw [addImport, header_insert hb h.isContent_importLine h.isHeaderLine b.importPoint_le,
      insertIdx_eq_append b.importPoint_le]
  importPoint := by
    have hlast := afterLastInHeader?_eq_some_iff.mpr ⟨_, rfl, isLastInHeader_addImport hb h⟩
    rw [Buffer.importPoint, hlast]
    rfl

/-! ## Imports one after the other -/

theorem adds_addImports (hb : Framed b.lines) {bodies : List Text} (h : ∀ body ∈ bodies, IsImportBody body) :
    b.Adds (b.addImports (bodies.map importLine)) (bodies.map importLine) := by
  induction bodies generalizing b with
  | nil => exact Adds.refl b
  | cons body bodies ih =>
    obtain ⟨hbody, hbodies⟩ := List.forall_mem_cons.mp h
    have hframed : Framed (b.addImport (importLine body)).lines :=
      framed_insert hb hbody.isContent_importLine.no_feed b.importPoint
    exact (adds_addImport hb hbody).trans (ih hframed hbodies)

/-- An import that is put at the import point stands in the header, which is one line longer, and the import point moves
behind it; the other lines stay, in the same order. So imports that are added one after the other follow each other in the
header. -/
theorem imports_added_in_order (t : Text) (bodies : List Text) (h : ∀ body ∈ bodies, IsImportBody body) :
    (∀ body ∈ bodies,
      (ofText t).Adds ((ofText t).insert (ofText t).importPoint (importLine body)) [importLine body] ∧
      ((ofText t).insert (ofText t).importPoint (importLine body)).headerLength = (ofText t).headerLength + 1) ∧
    (ofText t).Adds ((ofText t).addImports (bodies.map importLine)) (bodies.map importLine) ∧
    ((ofText t).addImports (bodies.map importLine)).headerLength = (ofText t).headerLength + bodies.length := by
  have hframed := framed_ofText t
  refine ⟨fun body hbody => ?_, adds_addImports hframed h, ?_⟩
  · have hone := adds_addImport hframed (h body hbody)
    exact ⟨hone, hone.headerLength⟩
  · rw [(adds_addImports hframed h).headerLength, List.length_map]

/-- A library directive without an end, and no imports. -/
def bare : Text := "// app\r\nlibrary app;".toList

/-- The first import closes the directive, and the second one comes behind it. -/
theorem imports_added_in_order_bare :
    (∀ body ∈ ["'b';".toList, "'a'".toList], IsImportBody body) ∧
    ((ofText bare).addImports ["import 'b';".toList, "import 'a'".toList]).contents =
      ["// app".toList, "library app;".toList, "import 'b';".toList, "import 'a'".toList] ∧
    ((ofText bare).addImports ["import 'b';".toList, "import 'a'".toList]).importPoint = 4 := by
  have hbodies : ∀ body ∈ ["'b';".toList, "'a'".toList], IsImportBody body :=
    List.forall_mem_cons.mpr ⟨⟨by decide, by decide, by decide⟩,
      List.forall_mem_singleton.mpr ⟨by decide, by decide, by decide⟩⟩
  obtain ⟨-, hadds, -⟩ := imports_added_in_order bare _ hbodies
  exact ⟨hbodies, hadds.contents.trans (by decide +kernel), hadds.importPoint.trans (by decide +kernel)⟩

end Buffer
end Upkeep
