import Upkeep.Text.Utf8

/-!
# Values and answers

What stands in the columns of a database, and what a program takes out of the rows that a query gives. A value has
one of five kinds, and a program that expects another kind has its trouble with it.

* `Value`: what stands in a column. A text is its bytes, which need not be right.
* `Answer`: the rows of a query. `Answer.text?`, `Answer.optionalText?` and `Answer.number?` are what a row has in a
  column of some kind.
* `Trouble`: why a statement or a column of its answer is not there.
-/

namespace Upkeep.Database

abbrev Bytes := List UInt8

/-- What stands in a column. -/
inductive Value where
  | null
  | integer (n : Int)
  /-- A number by the eight bytes of its binary form. -/
  | real (bits : Bytes)
  | text (bytes : Bytes)
  | blob (bytes : Bytes)
  deriving DecidableEq, Repr

namespace Value

def ofText (t : Text) : Value := .text (Text.toBytes t).toList

def ofText? : Option Text → Value
  | none => null
  | some t => ofText t

def text? : Value → Option Text
  | text bytes => Text.ofBytes? ⟨bytes.toArray⟩
  | _ => none

def kindWord : Value → Text
  | null => "Null".toList
  | integer _ => "Integer".toList
  | real _ => "Real".toList
  | text _ => "Text".toList
  | blob _ => "Blob".toList

end Value

/-- Why the answer to a statement is not there: the statement is refused, or a column holds something of a kind that
is not expected there, or a text that is none. -/
inductive Trouble where
  | refused (message : Text)
  | wrongKind (kind : Text) (index : Nat) (column : Text)
  | noText (index : Nat) (s : Text.Stretch)
  deriving DecidableEq, Repr

/-- What is said of a trouble. -/
def Trouble.message : Trouble → Text
  | refused message => message
  | wrongKind kind i column =>
    "Invalid column type ".toList ++ kind ++ " at index: ".toList ++ Text.ofNat i ++ ", name: ".toList ++ column
  | noText i s =>
    "Conversion error from type Text at index: ".toList ++ Text.ofNat i ++ ", ".toList ++ s.message ++
      ": ".toList ++ s.message

/-- The rows of a query. -/
structure Answer where
  names : List Text
  rows : List (List Value)

namespace Answer

def unexpected (a : Answer) (i : Nat) (v : Value) : Trouble :=
  .wrongKind v.kindWord i ((a.names[i]?).getD [])

def at_ (i : Nat) (row : List Value) : Value := (row[i]?).getD .null

def text? (a : Answer) (i : Nat) (row : List Value) : Except Trouble Text :=
  match at_ i row with
  | .text bytes =>
    match Text.ofBytes? ⟨bytes.toArray⟩ with
    | some t => .ok t
    | none => .error (.noText i ((Text.stretch? bytes).getD ⟨0, none⟩))
  | v => .error (a.unexpected i v)

def optionalText? (a : Answer) (i : Nat) (row : List Value) : Except Trouble (Option Text) :=
  if at_ i row = .null then .ok none else some <$> a.text? i row

def number? (a : Answer) (i : Nat) (row : List Value) : Except Trouble Int :=
  match at_ i row with
  | .integer n => .ok n
  | v => .error (a.unexpected i v)

end Answer

end Upkeep.Database
