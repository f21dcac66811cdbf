import Upkeep.Text.Blank

/-!
# Line buffers

A source file as its lines, each with the line end that it has in the file, so that a file which is
not edited is written back as it was (`toText_ofText`). New lines end as the file does: with a
carriage return and a line feed if any line has both, else with a line feed.

`contents` is the view of a buffer as a list of lines without their ends; `insert`, `remove` and
`replace` edit a line of it.
-/

namespace Upkeep

/-- What ends the lines of a file. -/
inductive LineEnd where
  | lf
  | crlf
  deriving DecidableEq, Repr

namespace LineEnd

/-- The characters of a line end. -/
def text : LineEnd → Text
  | lf => ['\n']
  | crlf => ['\r', '\n']

def ofText (t : Text) : LineEnd := if Text.contains ['\r', '\n'] t then crlf else lf

end LineEnd

/-- The lines of a source file with their ends, and the end of new lines. -/
structure Buffer where
  lines : List Text
  lineEnd : LineEnd
  deriving DecidableEq, Repr

namespace Buffer

def ofText (t : Text) : Buffer := ⟨Text.linesWithEnds t, LineEnd.ofText t⟩

def toText (b : Buffer) : Text := b.lines.flatten

theorem toText_ofText (t : Text) : (ofText t).toText = t := Text.flatten_linesWithEnds t

def length (b : Buffer) : Nat := b.lines.length

/-- A line without the line feeds at its end and the carriage returns before them. -/
def contentOf (line : Text) : Text :=
  Text.dropEndWhile (· == '\r') (Text.dropEndWhile (· == '\n') line)

/-- The lines without their ends. -/
def contents (b : Buffer) : List Text := b.lines.map contentOf

/-- The line at `i` without its end. -/
def content? (b : Buffer) (i : Nat) : Option Text := b.lines[i]?.map contentOf

theorem content?_eq (b : Buffer) (i : Nat) : b.content? i = b.contents[i]? := by
  simp [content?, contents]

/-- The blanks at the start of the line at `i`. -/
def indent (b : Buffer) (i : Nat) : Text := Text.leadingBlanks ((b.content? i).getD [])

def closedLines (b : Buffer) : List Text :=
  match b.lines.getLast? with
  | some line =>
    if Text.endsWith ['\n'] line then b.lines else b.lines.dropLast ++ [line ++ b.lineEnd.text]
  | none => []

/-- A new line before the line at `i`, or behind the last one. -/
def insert (b : Buffer) (i : Nat) (content : Text) : Buffer :=
  let line := content ++ b.lineEnd.text
  if i < b.lines.length then { b with lines := b.lines.insertIdx i line }
  else { b with lines := b.closedLines ++ [line] }

/-- The buffer without the line at `i`. -/
def remove (b : Buffer) (i : Nat) : Buffer := { b with lines := b.lines.eraseIdx i }

/-- The end of a line: a line feed with or without a carriage return, or nothing. -/
def endOf (line : Text) : Text :=
  if Text.endsWith ['\r', '\n'] line then ['\r', '\n']
  else if Text.endsWith ['\n'] line then ['\n']
  else []

/-- The buffer with other content on the line at `i`, which keeps its end. -/
def replace (b : Buffer) (i : Nat) (content : Text) : Buffer :=
  { b with lines := b.lines.modify i fun line => content ++ endOf line }

theorem length_remove {b : Buffer} {i : Nat} (h : i < b.length) :
    (b.remove i).length + 1 = b.length := by
  have := List.length_eraseIdx_of_lt (l := b.lines) h
  simp only [length, remove] at *; omega

theorem contents_remove (b : Buffer) (i : Nat) : (b.remove i).contents = b.contents.eraseIdx i := by
  simp [contents, remove, List.eraseIdx_eq_take_drop_succ, List.map_take, List.map_drop]

end Buffer
end Upkeep
