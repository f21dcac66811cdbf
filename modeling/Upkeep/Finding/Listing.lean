import Upkeep.Finding.Layout

/-!
# Analyzer listings

The text that an analyzer run prints has a finding on some of its lines. `Listing.ofText` reads the
findings and counts the lines, those that were read, and those that look like diagnostics but
follow no layout.
-/

namespace Upkeep

/-- How much of a listing was understood. -/
structure LineCounts where
  lines : Nat
  parsed : Nat
  unrecognized : Nat
  deriving DecidableEq, Repr

/-- The findings of an analyzer run, and how many lines were understood. -/
structure Listing where
  findings : List Finding
  counts : LineCounts
  deriving DecidableEq, Repr

namespace Listing

/-- Whether a line that follows no layout was meant as a diagnostic. -/
def looksLikeDiagnostic (line : Text) : Bool :=
  Text.contains Finding.bullet line || Text.contains ".dart:".toList line ||
    decide (Finding.machineBars ≤ line.count '|')

def defaultSeverity : Severity := .warning

/-- What a listing of no lines says. -/
def empty : Listing := ⟨[], ⟨0, 0, 0⟩⟩

/-- A listing with one more line in front. -/
def cons (default : Severity) (line : Text) (rest : Listing) : Listing :=
  let c := rest.counts
  match Finding.ofLine? default line with
  | some finding => ⟨finding :: rest.findings, ⟨c.lines + 1, c.parsed + 1, c.unrecognized⟩⟩
  | none =>
    let unread := !Text.allBlank line && looksLikeDiagnostic line
    ⟨rest.findings, ⟨c.lines + 1, c.parsed, c.unrecognized + if unread then 1 else 0⟩⟩

def ofText (default : Severity) (t : Text) : Listing :=
  (Text.lines t).foldr (cons default) empty

end Listing
end Upkeep
