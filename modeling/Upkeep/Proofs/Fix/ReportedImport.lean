import Upkeep.Proofs.Finding.Machine
import Upkeep.Proofs.Finding.RoundTrip
import Upkeep.Proofs.Fix.ImportCount

/-!
# From a report to the import

The analyzer tells of an unused import in one of three ways: by a line without severity and rule, by a bulleted line and
by a machine line. In each the URI stands between quotes that are read last of all, so what the URI looks like does not
matter to the reading of the line.

* `Reportable uri file line column`: the quotes and bullets of a report are its own.
* `unmarked`, `bulleted`, `machineLine`: the three reports, and `ofLine?_unmarked`, `ofLine?_bulleted`,
  `ofLine?_machineLine`: the findings that they are read as.
* `takesImport`: a finding takes the import of the URI that it names, if there is just one, from any line.
* `reported_import_removed`: so a report of any of the three forms removes the import.
-/

namespace Upkeep.UnusedImport

open Text Buffer Directive

def messageOf (uri : Text) : Text := head ++ '\'' :: uri ++ ['\'']

/-- A URI and a place that a report can name: its quotes, bullets and bars are its own. -/
structure Reportable (uri file : Text) (line column : Nat) : Prop where
  uri_quote : '\'' ∉ uri
  uri_bullet : contains Finding.bullet uri = false
  file_ne : file ≠ []
  file_trim : trim file = file
  file_bullet : contains Finding.bullet file = false
  file_bar : '|' ∉ file
  line_pos : 0 < line
  line_lt : line < countLimit
  column_pos : 0 < column
  column_lt : column < countLimit

variable {uri file : Text} {line column : Nat} {f : Finding}

/-! ## Messages -/

theorem messageOf_append (uri rest : Text) : messageOf uri ++ rest = head ++ ('\'' :: uri ++ '\'' :: rest) := by
  rw [messageOf, List.append_assoc, List.append_assoc, List.singleton_append]

theorem uri?_messageOf (h : '\'' ∉ uri) (rest : Text) : uri? (messageOf uri ++ rest) = some uri := by
  have hquoted : firstQuoted? ('\'' :: uri ++ '\'' :: rest) = some uri := by
    simp [firstQuoted?, breakOn?_singleton h]
  rw [uri?, messageOf_append, breakOn?_append_self]
  exact hquoted

theorem trim_messageOf_append (uri : Text) {rest : Text} (hrest : trimEnd ('\'' :: rest) = '\'' :: rest) :
    trim (messageOf uri ++ rest) = messageOf uri ++ rest := by
  rw [messageOf_append, ← List.append_assoc]
  exact trim_append (by decide) (by decide) hrest (List.cons_ne_nil _ _) _

theorem trim_messageOf (uri : Text) : trim (messageOf uri) = messageOf uri := by
  have hquote : trimEnd ['\''] = ['\''] := by decide
  have htrim := trim_messageOf_append uri hquote
  rwa [List.append_nil] at htrim

theorem messageOf_ne_nil (uri : Text) : messageOf uri ≠ [] :=
  List.append_ne_nil_of_right_ne_nil _ (List.cons_ne_nil _ _)

theorem mem_messageOf (uri : Text) : '\'' ∈ messageOf uri := List.mem_append_right _ List.mem_cons_self

theorem endsWith_messageOf (uri : Text) : endsWith [' ', '•'] (messageOf uri) = false := by
  rw [endsWith_eq_false_iff]
  intro before h
  have hmark : (before ++ [' ', '•']).getLast? = some '•' := by simp
  rw [← h, messageOf, List.getLast?_concat] at hmark
  exact absurd hmark (by decide)

theorem contains_messageOf (h : contains Finding.bullet uri = false) :
    contains Finding.bullet (messageOf uri) = false := by
  have hquote : '\'' ∉ Finding.bullet := by decide
  have hopen : contains Finding.bullet (head ++ '\'' :: uri) = false :=
    not_contains_append_cons hquote (by decide) h
  exact not_contains_append_cons hquote hopen (by decide)

theorem startsWith_messageOf (uri : Text) : startsWith Finding.unusedImportHead (messageOf uri) = true :=
  have hhead : head = Finding.unusedImportHead ++ [' '] := by decide
  startsWith_iff.mpr ⟨[' '] ++ ('\'' :: uri ++ ['\'']), by rw [messageOf, hhead]; simp only [List.append_assoc]⟩

/-! ## Reports -/

/-- The finding of an unused import at a place. -/
def reported (severity : Severity) (uri file : Text) (line column : Nat) : Finding :=
  ⟨severity, messageOf uri, file, line, column, Rule.unusedImport⟩

/-- The line without severity and rule. -/
def unmarked (uri file : Text) (line column : Nat) : Text :=
  Finding.bullet.intercalate [messageOf uri, file ++ ':' :: ofNat line ++ ':' :: ofNat column]

def bulleted (uri file : Text) (line column : Nat) : Text :=
  Finding.bullet.intercalate ["warning".toList, messageOf uri, file ++ ':' :: ofNat line ++ ':' :: ofNat column,
    "unused_import".toList]

/-- The machine line, with the word of a severity and what the analyzer writes for the kind and the length. -/
def machineLine (word kind length uri file : Text) (line column : Nat) : Text :=
  ['|'].intercalate [word, kind, "UNUSED_IMPORT".toList, file, ofNat line, ofNat column, length, messageOf uri ++ ['.']]

theorem Reportable.printable (h : Reportable uri file line column) (severity : Severity) :
    (reported severity uri file line column).Printable where
  line_pos := h.line_pos
  line_lt := h.line_lt
  column_pos := h.column_pos
  column_lt := h.column_lt
  file_ne := h.file_ne
  file_trim := h.file_trim
  rule_ne := show Rule.unusedImport ≠ [] by decide
  rule_trim := show trim Rule.unusedImport = Rule.unusedImport by decide
  rule_location := show Finding.location? Rule.unusedImport = none by decide
  rule_stop := show endsWith ['.'] Rule.unusedImport = false by decide
  file_bullet := h.file_bullet
  rule_bullet := show contains Finding.bullet Rule.unusedImport = false by decide
  message_end := endsWith_messageOf uri

theorem Reportable.ofLine?_bulleted (h : Reportable uri file line column) (default : Severity) :
    Finding.ofLine? default (bulleted uri file line column) = some (reported .warning uri file line column) := by
  have hpieces : ∀ piece ∈ (reported .warning uri file line column).pieces, trim piece = piece := by
    have hsplit : (reported .warning uri file line column).pieces = [messageOf uri] :=
      splitOn_of_not_contains (contains_messageOf h.uri_bullet)
    rw [hsplit, List.forall_mem_singleton]
    exact trim_messageOf uri
  have hread := (h.printable .warning).ofLine?_display default
  rw [Finding.intercalate_pieces hpieces] at hread
  exact hread

theorem Reportable.ofParts?_eq (h : Reportable uri file line column) (default : Severity) (sep : Text) :
    Finding.ofParts? default sep [messageOf uri, (reported default uri file line column).location] =
      some (reported default uri file line column) := by
  have hsplit := Finding.splitAtLocation?_append (h.printable default).location?_location
    (fun _ hpart => absurd hpart List.not_mem_nil) [messageOf uri]
  have hseverity : Severity.ofWord? (messageOf uri) = none :=
    Severity.ofWord?_eq_none (by decide) (by decide) (mem_messageOf uri)
  have hrule : Finding.ruleOf [] (messageOf uri) = Rule.unusedImport := by
    simp [Finding.ruleOf, dropEndWhile, startsWith_messageOf]
  rw [List.singleton_append] at hsplit
  rw [Finding.ofParts?, hsplit]
  simp only [Option.bind_eq_bind, Option.bind_some, Finding.splitSeverity, hseverity, List.dropLast_nil,
    List.append_nil, List.intercalate_singleton, List.getLast?_nil, Option.getD_none, hrule, reported]

/-- A line without severity and rule has the default severity. -/
theorem Reportable.ofLine?_unmarked (h : Reportable uri file line column) (default : Severity) :
    Finding.ofLine? default (unmarked uri file line column) = some (reported default uri file line column) := by
  have hplaced := (h.printable default).toPlaced
  have hparts := h.ofParts?_eq default (spaced '•')
  have hmessage := contains_messageOf h.uri_bullet
  have hfile := h.file_bullet
  rw [Finding.bullet_eq] at hmessage hfile
  have hlocation := Finding.contains_location (f := reported default uri file line column) hfile
  have htrim := hplaced.trim_location
  have hne : (reported default uri file line column).location ≠ [] := by simp [Finding.location]
  have htext : unmarked uri file line column =
      messageOf uri ++ spaced '•' ++ (reported default uri file line column).location := by
    rw [unmarked, List.intercalate_cons_cons, List.intercalate_singleton, Finding.bullet_eq]
    rfl
  generalize (reported default uri file line column).location = location at hparts hlocation htrim hne htext
  have hline : trim (messageOf uri ++ spaced '•' ++ location) = messageOf uri ++ spaced '•' ++ location :=
    trim_append (trim_eq_self_iff.mp (trim_messageOf uri)).1 (messageOf_ne_nil uri) (trim_eq_self_iff.mp htrim).2 hne _
  have hmachine : Finding.ofMachine? (messageOf uri ++ spaced '•' ++ location) = none := by
    have hcolon : ':' ∈ head := by decide
    rw [List.append_assoc, messageOf_append]
    exact Finding.ofMachine?_append_eq_none (by decide) (by decide) (by decide) hcolon _
  have hsplit : (splitOn (spaced '•') (messageOf uri ++ spaced '•' ++ location)).map trim =
      [messageOf uri, location] := by
    rw [splitOn_append_spaced (by decide) (endsWith_messageOf uri), splitOn_of_not_contains hmessage,
      splitOn_of_not_contains hlocation, List.map_append, List.map_singleton, List.map_singleton, trim_messageOf, htrim,
      List.singleton_append]
  rw [htext, Finding.ofLine?, hline, hmachine, Finding.bullet_eq, Finding.ofSeparated?,
    if_pos (contains_iff.mpr ⟨_, _, rfl⟩), hsplit, hparts]
  rfl

theorem Reportable.ofLine?_machineLine (h : Reportable uri file line column) {severity : Severity}
    {word kind length : Text} (hword : toLower word ∈ severity.words) (hkind : '|' ∉ kind) (hlength : '|' ∉ length)
    (default : Severity) : Finding.ofLine? default (machineLine word kind length uri file line column) =
      some { reported severity uri file line column with message := messageOf uri ++ ['.'] } := by
  have hbarrable : Finding.Barrable ⟨severity, messageOf uri ++ ['.'], file, line, column, "UNUSED_IMPORT".toList⟩ :=
    { h with
      file_ne := by rw [h.file_trim]; exact h.file_ne
      rule_bar := show '|' ∉ "UNUSED_IMPORT".toList by decide }
  have hread := hbarrable.ofLine?_barred hword hkind hlength default
  have hrule : toLower (trim "UNUSED_IMPORT".toList) = Rule.unusedImport := by decide
  have hstop : trimEnd ['\'', '.'] = ['\'', '.'] := by decide
  simp only [Finding.trimmed, hrule, h.file_trim, trim_messageOf_append uri hstop] at hread
  exact hread

/-! ## The import -/

/-- A finding that reports the import of a URI at a place. -/
structure Reports (f : Finding) (uri file : Text) (line column : Nat) : Prop where
  rule : f.rule = Rule.unusedImport
  file : f.file = file
  line : f.line = line
  column : f.column = column
  uri : uri? f.message = some uri

/-- A finding takes the import of a URI from every text with just one: its directive goes from the line on which it
starts, and nothing else does. -/
def TakesImport (f : Finding) (uri : Text) : Prop :=
  ∀ t, importCount (ofText t) uri = 1 → importCount (ofText (fix t [f]).text) uri = 0 ∧
    ∃ i line, (ofText t).content? i = some line ∧ isImportOf uri line = true ∧
      fix t [f] = ⟨(removeLines (ofText t) i ((ofText t).directiveEnd i)).toText, 1, []⟩

theorem takesImport (huri : uri? f.message = some uri) : TakesImport f uri := by
  intro t hone
  have hmentions : mentions [f] uri = 1 := by simp [mentions, huri]
  refine ⟨by rw [importCount_fix, hone, hmentions], ?_⟩
  cases hstep : step (ofText t) f with
  | left reason =>
    have hzero := importCount_of_left hstep huri
    omega
  | edited b =>
    obtain ⟨uri', i, huri', htarget, rfl⟩ := of_step hstep
    obtain rfl : uri = uri' := Option.some.inj (huri.symm.trans huri')
    obtain ⟨l, hl, himport⟩ := isImportOf_of_target? htarget
    refine ⟨i, l, hl, himport, ?_⟩
    simp only [fix, Edit.run, List.foldl_cons, List.foldl_nil, Edit.advance, hstep, Nat.zero_add]

theorem reports_reported (h : '\'' ∉ uri) (severity : Severity) (file : Text) (line column : Nat) :
    Reports (reported severity uri file line column) uri file line column := by
  refine ⟨rfl, rfl, rfl, rfl, ?_⟩
  have huri := uri?_messageOf h []
  rwa [List.append_nil] at huri

/-- The URI of a report goes unchanged to the edit. Each of the three lines is read as a finding of the URI at its
place, and that takes the import of the URI, whether it stands on the line of the report or on another. -/
theorem reported_import_removed (default : Severity) (h : Reportable uri file line column) {severity : Severity}
    {word kind length : Text} (hword : toLower word ∈ severity.words) (hkind : '|' ∉ kind) (hlength : '|' ∉ length) :
    ∀ report ∈ [unmarked uri file line column, bulleted uri file line column,
      machineLine word kind length uri file line column],
      ∃ f, Finding.ofLine? default report = some f ∧ Reports f uri file line column ∧ TakesImport f uri := by
  have hreports : ∀ severity, Reports (reported severity uri file line column) uri file line column :=
    fun severity => reports_reported h.uri_quote severity file line column
  have hstop : Reports { reported severity uri file line column with message := messageOf uri ++ ['.'] }
      uri file line column := { hreports severity with uri := uri?_messageOf h.uri_quote ['.'] }
  simp only [List.forall_mem_cons, List.not_mem_nil, false_implies, implies_true, and_true]
  exact ⟨⟨_, h.ofLine?_unmarked default, hreports default, takesImport (hreports default).uri⟩,
    ⟨_, h.ofLine?_bulleted default, hreports .warning, takesImport (hreports .warning).uri⟩,
    ⟨_, h.ofLine?_machineLine hword hkind hlength default, hstop, takesImport hstop.uri⟩⟩

def markedUri : Text := "b.dart:1:1 - info •".toList

def importsMarked : Text := "import 'a.dart';\n\nimport \"b.dart:1:1 - info •\"\n    as b;\nf();\n".toList

/-- All reports of the URI take its import, though they name another line. -/
theorem reported_import_removed_marked :
    Reportable markedUri "• C:/d.dart:5".toList 1 18446744073709551615 ∧
    importCount (ofText importsMarked) markedUri = 1 ∧
    ∀ report ∈ [unmarked markedUri "• C:/d.dart:5".toList 1 18446744073709551615,
      bulleted markedUri "• C:/d.dart:5".toList 1 18446744073709551615,
      machineLine "Hint".toList [] " • ".toList markedUri "• C:/d.dart:5".toList 1 18446744073709551615],
      ∃ f, Finding.ofLine? .info report = some f ∧ f.file = "• C:/d.dart:5".toList ∧ f.line = 1 ∧
        importCount (ofText (fix importsMarked [f]).text) markedUri = 0 := by
  have hreportable : Reportable markedUri "• C:/d.dart:5".toList 1 18446744073709551615 := by
    constructor <;> decide +kernel
  have hone : importCount (ofText importsMarked) markedUri = 1 := by decide +kernel
  refine ⟨hreportable, hone, fun report hreport => ?_⟩
  have hword : toLower "Hint".toList ∈ Severity.words .info := by decide
  obtain ⟨f, hread, hreports, htakes⟩ :=
    reported_import_removed .info hreportable hword (by decide) (by decide) report hreport
  exact ⟨f, hread, hreports.file, hreports.line, (htakes importsMarked hone).1⟩

end Upkeep.UnusedImport
