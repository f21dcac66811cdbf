import Upkeep.Source.Buffer

/-!
# Import directives

A source file opens with a header of directives, blank lines and comments. Lines are judged by how
they start and end; nothing is parsed beyond that.

* `importUri? line`: the URI that a line imports.
* `Buffer.directiveEnd b i`: the last line of the directive that starts at `i`.
* `Buffer.header b`: the leading lines that are directives, blank or comments.
* `Buffer.importPoint b`: the index at which a new import belongs.
-/

namespace Upkeep

namespace Directive

def importWord : Text := "import ".toList

def exportWord : Text := "export ".toList

def libraryWord : Text := "library ".toList

def partWord : Text := "part ".toList

/-- A text between two quotes of one kind at the start of `t`. -/
def quotedHead? : Text → Option Text
  | [] => none
  | q :: t => if q = '\'' ∨ q = '"' then (Text.breakOn? [q] t).map (·.1) else none

def importUri? (line : Text) : Option Text :=
  (Text.after? importWord (Text.trimStart line)).bind fun rest => quotedHead? (Text.trimStart rest)

/-- Whether a line imports `uri`. -/
def isImportOf (uri line : Text) : Bool := importUri? line == some uri

/-- Whether a line starts with a word, blanks aside. -/
def opensWith (word line : Text) : Bool := Text.startsWith word (Text.trimStart line)

/-- Whether a line starts an import or export, blanks at both ends aside. -/
def startsDirective (line : Text) : Bool :=
  let line := Text.trim line
  Text.startsWith importWord line || Text.startsWith exportWord line

/-- Whether a line ends in a semicolon, blanks aside. -/
def closes (line : Text) : Bool := Text.endsWith [';'] (Text.trim line)

/-- The number of lines up to the next one that closes, unless another directive starts before. -/
def linesToClose? : List Text → Option Nat
  | [] => none
  | line :: rest =>
    if startsDirective line then none
    else if closes line then some 1
    else (linesToClose? rest).map (· + 1)

def isHeaderLine (line : Text) : Bool :=
  let line := Text.trim line
  line.isEmpty || Text.startsWith importWord line || Text.startsWith exportWord line ||
    Text.startsWith libraryWord line || Text.startsWith partWord line ||
    Text.startsWith ['/', '/'] line || Text.startsWith ['/', '*'] line || Text.startsWith ['*'] line

/-- The number of lines up to the last one that satisfies `p`. -/
def afterLast? (p : Text → Bool) : List Text → Option Nat
  | [] => none
  | line :: rest =>
    match afterLast? p rest with
    | some n => some (n + 1)
    | none => if p line then some 1 else none

theorem afterLast?_le {p : Text → Bool} {lines : List Text} {n : Nat}
    (h : afterLast? p lines = some n) : n ≤ lines.length := by
  induction lines generalizing n with
  | nil => simp [afterLast?] at h
  | cons line rest ih =>
    unfold afterLast? at h
    split at h
    · next m hm => have := ih hm; simp at h ⊢; omega
    · split at h <;> simp at h ⊢; omega

end Directive

namespace Buffer
open Directive

/-- The last line of the directive that starts at `i`: the first from there that ends in a semicolon.
A directive that is not closed before the next one is its first line alone. -/
def directiveEnd (b : Buffer) (i : Nat) : Nat :=
  match b.contents.drop i with
  | [] => i
  | line :: rest => if closes line then i else i + (linesToClose? rest).getD 0

theorem le_directiveEnd (b : Buffer) (i : Nat) : i ≤ b.directiveEnd i := by
  unfold directiveEnd; split
  · omega
  · split <;> omega

/-- The leading lines that are directives, blank or comments. -/
def header (b : Buffer) : List Text := b.contents.takeWhile isHeaderLine

def headerLength (b : Buffer) : Nat := b.header.length

/-- The index behind the last line of the header that satisfies `p`. -/
def afterLastInHeader? (b : Buffer) (p : Text → Bool) : Option Nat := afterLast? p b.header

/-- Where a new import belongs: behind the last import of the header, else behind its last library
directive, else at the top. -/
def importPoint (b : Buffer) : Nat :=
  ((b.afterLastInHeader? (opensWith importWord)).or
    (b.afterLastInHeader? (opensWith libraryWord))).getD 0

theorem importPoint_le (b : Buffer) : b.importPoint ≤ b.headerLength := by
  unfold importPoint
  cases h : (b.afterLastInHeader? (opensWith importWord)).or
      (b.afterLastInHeader? (opensWith libraryWord)) with
  | none => simp
  | some n =>
    rcases Option.or_eq_some_iff.mp h with h | ⟨-, h⟩ <;> exact afterLast?_le h

end Buffer
end Upkeep
