import Upkeep.Finding
import Upkeep.Text.Count

/-!
# Tables that are read back

A reader of comma-separated values goes through a table one character after the other. `Reader.step` is the effect of a
character, and there is none for what no table has, such as a quote in a field that did not start with one.

What a field is written as is read as this field, whatever it holds (`foldlM_field`), since only the quote that closes
it is not followed by another one. So a line is read as one record (`foldlM_line`), and a table as its records
(`records?_flatMap_line`).

`csv_read_back`: the table of some findings is read as the names of the columns and one record for each finding, from
which the findings are had again.
-/

namespace Upkeep

namespace Csv

/-! ## Readers -/

/-- How far a field has been read. -/
inductive Mode where
  /-- Nothing of it has been read. -/
  | start
  /-- It started without a quote. -/
  | bare
  /-- It started with a quote, and the one that closes it is to come. -/
  | quoted
  /-- A quote has been read that closes it, unless another one follows. -/
  | closing
  deriving DecidableEq, Repr

/-- What has been read of a table: whole records, whole fields of a further record, and some of its next field. -/
structure Reader where
  records : List (List Text)
  fields : List Text
  field : Text
  mode : Mode
  deriving DecidableEq, Repr

namespace Reader

def behind (records : List (List Text)) : Reader := ⟨records, [], [], .start⟩

def endField (r : Reader) : Reader := ⟨r.records, r.fields ++ [r.field], [], .start⟩

def endRecord (r : Reader) : Reader := behind (r.records ++ [r.fields ++ [r.field]])

/-- The field that is being read has one more character. -/
def add (r : Reader) (c : Char) (mode : Mode) : Reader := { r with field := r.field ++ [c], mode }

/-- The effect of a character. -/
def step (r : Reader) (c : Char) : Option Reader :=
  match r.mode with
  | .quoted => if c = '"' then some { r with mode := .closing } else some (r.add c .quoted)
  | mode =>
    if c = ',' then some r.endField
    else if c = '\n' then some r.endRecord
    else if c = '"' then
      match mode with
      | .start => some { r with mode := .quoted }
      | .closing => some (r.add c .quoted)
      | _ => none
    else if c = '\r' ∨ mode = .closing then none
    else some (r.add c .bare)

/-- The records when the table ends. The last one may have no line end. -/
def finish (r : Reader) : Option (List (List Text)) :=
  match r.mode, r.fields with
  | .quoted, _ => none
  | .start, [] => some r.records
  | _, _ => some r.endRecord.records

end Reader

def records? (t : Text) : Option (List (List Text)) := (t.foldlM Reader.step (.behind [])).bind Reader.finish

/-! ## Fields and lines -/

open Reader

variable {records : List (List Text)} {fields : List Text} {t : Text} {mode : Mode}

theorem foldlM_bare (h : ∀ c ∈ t, isSpecial c = false) (front : Text) (hmode : mode = .start ∨ mode = .bare) :
    ∃ mode', mode' ≠ .quoted ∧ t.foldlM step ⟨records, fields, front, mode⟩ =
      some ⟨records, fields, front ++ t, mode'⟩ := by
  induction t generalizing front mode with
  | nil =>
    refine ⟨mode, ?_, by rw [List.append_nil]; rfl⟩
    rcases hmode with rfl | rfl <;> decide
  | cons c t ih =>
    obtain ⟨hc, ht⟩ := List.forall_mem_cons.mp h
    obtain ⟨mode', hne, hrest⟩ := ih ht (front ++ [c]) (.inr rfl)
    refine ⟨mode', hne, ?_⟩
    have hstep : step ⟨records, fields, front, mode⟩ c = some ⟨records, fields, front ++ [c], .bare⟩ := by
      simp only [isSpecial, Bool.or_eq_false_iff, beq_eq_false_iff_ne] at hc
      obtain ⟨⟨⟨hcomma, hquote⟩, hreturn⟩, hfeed⟩ := hc
      rcases hmode with rfl | rfl <;> simp [step, add, hcomma, hquote, hreturn, hfeed]
    rw [List.foldlM_cons, hstep, List.append_cons front c t]
    exact hrest

theorem foldlM_doubled (t front : Text) : (doubled t).foldlM step ⟨records, fields, front, .quoted⟩ =
    some ⟨records, fields, front ++ t, .quoted⟩ := by
  induction t generalizing front with
  | nil => rw [List.append_nil]; rfl
  | cons c t ih =>
    have hrest := ih (front ++ [c])
    rw [← List.append_cons] at hrest
    rw [doubled]
    split
    · next h =>
      -- the first quote might close the field, and the second one says that it does not
      subst h
      exact hrest
    · next h =>
      have hstep : step ⟨records, fields, front, .quoted⟩ c = some ⟨records, fields, front ++ [c], .quoted⟩ := by
        simp [step, add, h]
      rw [List.foldlM_cons, hstep]
      exact hrest

theorem foldlM_field (records : List (List Text)) (fields : List Text) (t : Text) :
    ∃ mode, mode ≠ .quoted ∧ (field t).foldlM step ⟨records, fields, [], .start⟩ = some ⟨records, fields, t, mode⟩ := by
  rw [field]
  split
  · refine ⟨.closing, by decide, ?_⟩
    have hopen : step ⟨records, fields, [], .start⟩ '"' = some ⟨records, fields, [], .quoted⟩ := rfl
    rw [List.cons_append, List.foldlM_cons, hopen, Option.bind_eq_bind, Option.bind_some, List.foldlM_append,
      foldlM_doubled]
    rfl
  · next h =>
    have hplain : ∀ c ∈ t, isSpecial c = false := by simpa using h
    exact foldlM_bare hplain [] (.inl rfl)

theorem step_comma (h : mode ≠ .quoted) (t : Text) :
    step ⟨records, fields, t, mode⟩ ',' = some ⟨records, fields ++ [t], [], .start⟩ := by
  cases mode with
  | quoted => exact absurd rfl h
  | start => rfl
  | bare => rfl
  | closing => rfl

theorem step_feed (h : mode ≠ .quoted) (t : Text) :
    step ⟨records, fields, t, mode⟩ '\n' = some (behind (records ++ [fields ++ [t]])) := by
  cases mode with
  | quoted => exact absurd rfl h
  | start => rfl
  | bare => rfl
  | closing => rfl

/-- A line is read as one record with its fields. -/
theorem foldlM_line (h : fields ≠ []) (records : List (List Text)) (before : List Text) :
    (line fields).foldlM step ⟨records, before, [], .start⟩ = some (behind (records ++ [before ++ fields])) := by
  induction fields generalizing before with
  | nil => exact absurd rfl h
  | cons t fields ih =>
    obtain ⟨mode, hmode, hfield⟩ := foldlM_field records before t
    cases fields with
    | nil =>
      rw [line, List.map_singleton, List.intercalate_singleton, List.foldlM_append, hfield, Option.bind_eq_bind,
        Option.bind_some, List.foldlM_cons, step_feed hmode]
      rfl
    | cons u fields =>
      have hrest := ih (List.cons_ne_nil u fields) (before ++ [t])
      rw [← List.append_cons] at hrest
      have hline : line (t :: u :: fields) = field t ++ ',' :: line (u :: fields) := by
        simp only [line, List.map_cons, List.intercalate_cons_cons, List.append_assoc, List.cons_append, List.nil_append]
      rw [hline, List.foldlM_append, hfield, Option.bind_eq_bind, Option.bind_some, List.foldlM_cons, step_comma hmode]
      exact hrest

theorem records?_flatMap_line (h : ∀ fields ∈ records, fields ≠ []) : records? (records.flatMap line) = some records := by
  have hread : ∀ before, (records.flatMap line).foldlM step (behind before) = some (behind (before ++ records)) := by
    induction records with
    | nil => exact fun before => by rw [List.append_nil]; rfl
    | cons fields records ih =>
      obtain ⟨hfields, hrecords⟩ := List.forall_mem_cons.mp h
      intro before
      have hline := foldlM_line hfields before []
      rw [List.nil_append] at hline
      rw [List.flatMap_cons, List.foldlM_append, behind, hline, Option.bind_eq_bind, Option.bind_some,
        ih hrecords, ← List.append_cons]
  rw [records?, hread, List.nil_append]
  rfl

end Csv

/-! ## Findings -/

namespace Finding

/-- The finding of a record. -/
def ofFields? : List Text → Option Finding
  | [word, message, file, line, column, rule] => do
    let severity ← Severity.ofWord? word
    let line ← Text.count? line
    let column ← Text.count? column
    return { severity, message, file, line, column, rule }
  | _ => none

/-- The findings in a table, whose first record are the names of the columns. -/
def ofCsv? (t : Text) : Option (List Finding) :=
  match Csv.records? t with
  | some (names :: records) => if names = columnNames then records.mapM ofFields? else none
  | _ => none

variable {f : Finding} {fs : List Finding}

theorem ofFields?_fields (hline : f.line < Text.countLimit) (hcolumn : f.column < Text.countLimit) :
    ofFields? f.fields = some f := by
  simp only [fields, ofFields?, Severity.ofWord?_word, Text.count?_ofNat hline, Text.count?_ofNat hcolumn]
  rfl

theorem csv_eq (h : fs ≠ []) : csv fs = (columnNames :: fs.map fields).flatMap Csv.line := by
  have hempty : fs.isEmpty = false := by simpa using h
  rw [csv, hempty, List.flatMap_cons, List.flatMap_map]
  rfl

/-- The table of findings whose places 64 bits hold is read as the names of the columns and a record of six fields for
each finding, and the findings are had from it as they were. -/
theorem csv_read_back (hne : fs ≠ []) (hfs : ∀ f ∈ fs, f.line < Text.countLimit ∧ f.column < Text.countLimit) :
    Csv.records? (csv fs) = some (columnNames :: fs.map fields) ∧
      (∀ record ∈ columnNames :: fs.map fields, record.length = 6) ∧ ofCsv? (csv fs) = some fs := by
  have hlength : ∀ record ∈ columnNames :: fs.map fields, record.length = 6 := by
    refine List.forall_mem_cons.mpr ⟨rfl, fun record hrecord => ?_⟩
    obtain ⟨f, -, rfl⟩ := List.mem_map.mp hrecord
    rfl
  have hrecords : Csv.records? (csv fs) = some (columnNames :: fs.map fields) := by
    rw [csv_eq hne]
    refine Csv.records?_flatMap_line fun record hrecord => ?_
    rintro rfl
    cases hlength [] hrecord
  refine ⟨hrecords, hlength, ?_⟩
  have hread : (fs.map fields).mapM ofFields? = some fs := by
    clear hne hlength hrecords
    induction fs with
    | nil => rfl
    | cons f fs ih =>
      obtain ⟨⟨hline, hcolumn⟩, hrest⟩ := List.forall_mem_cons.mp hfs
      rw [List.map_cons, List.mapM_cons, ofFields?_fields hline hcolumn, ih hrest]
      rfl
  simp only [ofCsv?, hrecords, if_true, hread]

/-- Two findings, the first with all that a table has a meaning for, and the second without a text in its fields. -/
def breakingFindings : List Finding :=
  [⟨.warning, "a \"b\",\r\n\"".toList, " c\n".toList, 18446744073709551615, 1, ['"']⟩, ⟨.info, [], [], 0, 0, []⟩]

theorem csv_read_back_breaking :
    breakingFindings ≠ [] ∧ (∀ f ∈ breakingFindings, f.line < Text.countLimit ∧ f.column < Text.countLimit) ∧
      csv breakingFindings = ("severity,message,file,line,column,rule\n".toList ++
        "warning,\"a \"\"b\"\",\r\n\"\"\",\" c\n\",18446744073709551615,1,\"\"\"\"\n".toList ++ "info,,,0,0,\n".toList) ∧
      ofCsv? (csv breakingFindings) = some breakingFindings := by
  have hne : breakingFindings ≠ [] := List.cons_ne_nil _ _
  have hfs : ∀ f ∈ breakingFindings, f.line < Text.countLimit ∧ f.column < Text.countLimit := by decide
  exact ⟨hne, hfs, by decide +kernel, (csv_read_back hne hfs).2.2⟩

end Finding
end Upkeep
