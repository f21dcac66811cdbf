import Upkeep.Analyzer.Source
import Upkeep.Finding.Listing
import Upkeep.Proofs.Text.Lines
import Upkeep.Proofs.Text.Trimming

/-!
# Listings of both streams

What a command prints on its two streams is read as one text. The listing of that text is the listing of what the
command printed, followed by that of its complaints.

* `Listing.ofText_append`: a text that ends with a line, and the text behind it, are read one after the other.
* `Listing.ofText_close`: it does not matter to a listing whether its last line is closed. The line feed may turn a
  carriage return at the end of the line into a part of the line end, but that is a blank, and blanks at the ends of
  a line are not read.
* `listing_of_streams`: so the line feed that `Source.merge` adds neither joins two lines nor makes one more.
-/

namespace Upkeep

open Text

namespace Listing

variable {default : Severity} {t : Text}

/-- Two listings, one after the other: their findings in a row, and their counts added. -/
def append (a b : Listing) : Listing :=
  ⟨a.findings ++ b.findings, ⟨a.counts.lines + b.counts.lines, a.counts.parsed + b.counts.parsed,
    a.counts.unrecognized + b.counts.unrecognized⟩⟩

instance : Append Listing := ⟨append⟩

theorem append_def (a b : Listing) : a ++ b = ⟨a.findings ++ b.findings, ⟨a.counts.lines + b.counts.lines,
    a.counts.parsed + b.counts.parsed, a.counts.unrecognized + b.counts.unrecognized⟩⟩ := rfl

theorem empty_append (a : Listing) : empty ++ a = a := by
  simp [append_def, empty]

theorem append_empty (a : Listing) : a ++ empty = a := by
  simp [append_def, empty]

theorem cons_append (default : Severity) (line : Text) (a b : Listing) :
    cons default line a ++ b = cons default line (a ++ b) := by
  unfold cons
  cases Finding.ofLine? default line with
  | none => simp only [append_def, Nat.add_right_comm]
  | some finding => simp only [append_def, List.cons_append, Nat.add_right_comm]

theorem foldr_cons_append (default : Severity) (lines : List Text) (a b : Listing) :
    lines.foldr (cons default) a ++ b = lines.foldr (cons default) (a ++ b) := by
  induction lines with
  | nil => rfl
  | cons line lines ih => rw [List.foldr_cons, List.foldr_cons, cons_append, ih]

theorem ofText_append (ht : t = [] ∨ endsWith ['\n'] t = true) (u : Text) :
    ofText default (t ++ u) = ofText default t ++ ofText default u := by
  rw [ofText, ofText, foldr_cons_append, empty_append, lines_append ht, List.foldr_append, ofText]

/-! ## The end of a line -/

theorem looksLikeDiagnostic_append_return (line : Text) :
    looksLikeDiagnostic (line ++ ['\r']) = looksLikeDiagnostic line := by
  unfold looksLikeDiagnostic
  rw [contains_append_singleton (by decide) (by decide), contains_append_singleton (by decide) (by decide),
    List.count_append]
  simp

theorem cons_append_return (default : Severity) (line : Text) (rest : Listing) :
    cons default (line ++ ['\r']) rest = cons default line rest := by
  have hblank : ∀ c ∈ ['\r'], isBlank c = true := List.forall_mem_singleton.mpr rfl
  have hline : Finding.ofLine? default (line ++ ['\r']) = Finding.ofLine? default line := by
    rw [Finding.ofLine?, trim_append_of_blanks hblank, Finding.ofLine?]
  have hall : allBlank (line ++ ['\r']) = allBlank line := by
    rw [allBlank, List.all_append, List.all_eq_true.mpr hblank, Bool.and_true, allBlank]
  unfold cons
  rw [hline, hall, looksLikeDiagnostic_append_return]

theorem cons_close (default : Severity) {line : Text} (rest : Listing) :
    cons default (dropLineEnd (line ++ ['\n'])) rest = cons default line rest := by
  by_cases hlast : line.getLast? = some '\r'
  · obtain ⟨body, rfl⟩ := List.getLast?_eq_some_iff.mp hlast
    have hdrop : dropLineEnd (body ++ ['\r'] ++ ['\n']) = body := by simp [dropLineEnd]
    rw [hdrop, cons_append_return]
  · rw [dropLineEnd_append hlast]

theorem ofText_close (hne : t ≠ []) (h : endsWith ['\n'] t = false) :
    ofText default (t ++ ['\n']) = ofText default t := by
  obtain ⟨front, line, hlines, hclosed⟩ := lines_close hne h
  rw [ofText, hclosed, List.foldr_append, List.foldr_cons, cons_close, ofText, hlines, List.foldr_append,
    List.foldr_cons]

end Listing

namespace Analyzer.Source

theorem ofText_merge (default : Severity) (streams : Streams) : Listing.ofText default (merge streams) =
    Listing.ofText default (ofBytesLossy ⟨streams.out.toArray⟩) ++
      Listing.ofText default (ofBytesLossy ⟨streams.err.toArray⟩) := by
  have hnone : ofBytesLossy ⟨([] : List UInt8).toArray⟩ = [] := by decide +kernel
  simp only [merge]
  split
  · next hempty =>
    rw [List.isEmpty_iff.mp hempty, hnone]
    exact (Listing.append_empty _).symm
  · split
    · next hout => exact Listing.ofText_append hout _
    · next hout =>
      obtain ⟨hne, hopen⟩ := not_or.mp hout
      rw [Listing.ofText_append (.inr (endsWith_iff.mpr ⟨_, rfl⟩)),
        Listing.ofText_close hne (Bool.not_eq_true _ ▸ hopen)]

/-- What a command prints on both streams is read as the one and then the other, line by line: no line is lost, two
lines are never joined, and none is made up. That holds of all that can be printed, whatever runs the command. If it
cannot be started, that is what is told. -/
theorem listing_of_streams (default : Severity) :
    (∀ streams : Streams, Listing.ofText default (merge streams) =
      Listing.ofText default (ofBytesLossy ⟨streams.out.toArray⟩) ++
        Listing.ofText default (ofBytesLossy ⟨streams.err.toArray⟩)) ∧
    ∀ (run : Runner) (w : Workspace) (program : Text) (args : List Text) (dir : Path),
      match run w dir program args with
      | .ok (w', streams) => ∃ t, (command run program args dir).read w = (w', .ok t) ∧
          Listing.ofText default t = Listing.ofText default (ofBytesLossy ⟨streams.out.toArray⟩) ++
            Listing.ofText default (ofBytesLossy ⟨streams.err.toArray⟩)
      | .error reason =>
          (command run program args dir).read w = (w, .error (.launch (commandLine program args) reason)) := by
  refine ⟨ofText_merge default, fun run w program args dir => ?_⟩
  rw [read]
  cases run w dir program args with
  | error reason => exact rfl
  | ok ran => exact ⟨_, rfl, ofText_merge default ran.2⟩

/-- A runner that knows one command. What it prints has a diagnostic on each stream, and the last line of the first is
open. -/
def twoLines : Runner := fun w _ program args =>
  if program = "flutter".toList ∧ args = ["analyze".toList] then
    .ok (w, ⟨(toBytes "a:1:2 - r".toList).toList, (toBytes "b:3:4 - r\n".toList).toList⟩)
  else .error FileError.notFound.message

theorem listing_of_twoLines : ∃ t,
    (command twoLines "flutter".toList ["analyze".toList] ".".toList).read ⟨.empty, []⟩ = (⟨.empty, []⟩, .ok t) ∧
      (Listing.ofText .warning t).findings.map (·.file) = ["a".toList, "b".toList] ∧
      (Listing.ofText .warning t).counts = ⟨2, 2, 0⟩ := by
  obtain ⟨t, hread, hlisting⟩ :=
    (listing_of_streams .warning).2 twoLines ⟨.empty, []⟩ "flutter".toList ["analyze".toList] ".".toList
  refine ⟨t, hread, ?_⟩
  rw [hlisting]
  decide +kernel

end Analyzer.Source
end Upkeep
