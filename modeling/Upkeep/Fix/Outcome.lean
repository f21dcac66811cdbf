import Upkeep.Finding
import Upkeep.Source.Buffer

/-!
# Outcomes of a fix

A fix turns the text of one file into another and tells how many edits it made. A fix that follows
findings makes one edit for each, or a note that says why it made none: `Edit.run` folds such a step
over the findings of a file, and every finding shows in the outcome (`applied_add_notes_run`).
-/

namespace Upkeep

/-- What a fix made of a text. -/
structure Outcome where
  text : Text
  applied : Nat
  notes : List Text
  deriving DecidableEq, Repr

/-- The outcome of a fix that leaves the text as it is. -/
def Outcome.unchanged (t : Text) : Outcome := ⟨t, 0, []⟩

/-- What a fix does about one finding: an edited buffer, or the reason to leave it. -/
inductive Edit where
  | edited (buffer : Buffer)
  | left (reason : Text)

namespace Edit

def note (f : Finding) (reason : Text) : Text := f.location ++ ": ".toList ++ reason

/-- The state of a fix between two findings: the buffer, the edits so far and the notes so far. -/
structure Progress where
  buffer : Buffer
  applied : Nat
  notes : List Text

/-- The state after one more finding. -/
def advance (step : Buffer → Finding → Edit) (p : Progress) (f : Finding) : Progress :=
  match step p.buffer f with
  | edited buffer => { p with buffer, applied := p.applied + 1 }
  | left reason => { p with notes := p.notes ++ [note f reason] }

/-- The outcome of a step taken for each finding in turn. -/
def run (step : Buffer → Finding → Edit) (t : Text) (fs : List Finding) : Outcome :=
  let p := fs.foldl (advance step) ⟨Buffer.ofText t, 0, []⟩
  ⟨p.buffer.toText, p.applied, p.notes⟩

theorem applied_add_notes_foldl (step : Buffer → Finding → Edit) (fs : List Finding) (p : Progress) :
    (fs.foldl (advance step) p).applied + (fs.foldl (advance step) p).notes.length =
      p.applied + p.notes.length + fs.length := by
  induction fs generalizing p with
  | nil => rfl
  | cons f fs ih =>
    rw [List.foldl_cons, ih]
    unfold advance
    split <;> simp <;> omega

theorem applied_add_notes_run (step : Buffer → Finding → Edit) (t : Text) (fs : List Finding) :
    (run step t fs).applied + (run step t fs).notes.length = fs.length := by
  simpa [run] using applied_add_notes_foldl step fs ⟨Buffer.ofText t, 0, []⟩

theorem run_nil (step : Buffer → Finding → Edit) (t : Text) :
    run step t [] = Outcome.unchanged t := by
  simp [run, Outcome.unchanged, Buffer.toText_ofText]

end Edit
end Upkeep
