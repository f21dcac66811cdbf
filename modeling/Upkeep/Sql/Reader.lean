import Upkeep.Sql.Syntax
import Upkeep.Sql.Token

/-!
# Reading statements token by token

A reader takes tokens from the front of a statement or fails at one of them.

* `Reader.run t r`: what a reader makes of a whole text.
* `Flaw.message`: why a text is no statement.
-/

namespace Upkeep.Sql

/-- Why a text is no statement. -/
inductive Flaw where
  /-- A token stands where it may not. -/
  | unexpected (t : Text)
  /-- A text that is no token. -/
  | noToken (t : Text)
  | unknownOption (t : Text)
  | incomplete
  /-- What a statement asks for and may not. -/
  | refused (why : String)
  deriving DecidableEq, Repr

/-- The text of a flaw. -/
def Flaw.message : Flaw → Text
  | unexpected t => "near \"".toList ++ t ++ "\": syntax error".toList
  | noToken t => "unrecognized token: \"".toList ++ t ++ ['"']
  | unknownOption t => "unknown table option: ".toList ++ t
  | incomplete => "incomplete input".toList
  | refused why => why.toList

/-- A statement of which some tokens have been read. -/
structure Reading where
  rest : List Token
  source : Text
  /-- The name that the next rule gets. -/
  ruleName : Option Text

abbrev Reader := StateT Reading (Except Flaw)

namespace Reader

def flaw : List Token → Flaw
  | [] => .incomplete
  | t :: _ => if t.kind = .unknown then .noToken t.written else .unexpected t.written

def fail {α : Type} : Reader α := do throw (flaw (← get).rest)

def peek : Reader (Option Token) := return (← get).rest.head?

/-- Passes over the next token. -/
def skip : Reader Unit := modify fun s => { s with rest := s.rest.drop 1 }

/-- Whether the next tokens are some words and signs. -/
def follows (ws : List String) : Reader Bool := do
  let rest := (← get).rest
  return decide (ws.length ≤ rest.length) &&
    (rest.zip ws).all fun (t, w) => t.isKeyword w || t.isSign w

/-- Passes over some words and signs if they follow. -/
def accept (ws : List String) : Reader Bool := do
  if ← follows ws then
    modify fun s => { s with rest := s.rest.drop ws.length }
    return true
  else return false

/-- Passes over words and signs that have to follow. -/
def expect : List String → Reader Unit
  | [] => return
  | w :: ws => do
    if ← accept [w] then expect ws else fail

def name : Reader Text := do
  match (← peek).bind Token.name? with
  | some n => do skip; return n
  | none => fail

/-- The words that join sources, which are no names without marks behind a source. -/
def joinWords : List String := ["CROSS", "FULL", "INNER", "LEFT", "NATURAL", "OUTER", "RIGHT", "INDEXED"]

/-- Reads a name that nothing announces, if there is one. -/
def plainName? : Reader (Option Text) := do
  match ← peek with
  | none => return none
  | some t =>
    if joinWords.any t.isKeyword then return none
    else match t.name? with
      | some n => do skip; return some n
      | none => return none

/-- Reads a name behind `AS`, or one that nothing announces. -/
def alias? : Reader (Option Text) := do
  if ← accept ["AS"] then return some (← name) else plainName?

/-- Reads items with commas between them, at most `n`. -/
def separated {α : Type} (item : Reader α) : Nat → Reader (List α)
  | 0 => fail
  | n + 1 => do
    let a ← item
    if ← accept [","] then return a :: (← separated item n) else return [a]

/-- Reads something between parentheses. -/
def inParens {α : Type} (r : Reader α) : Reader α := do
  expect ["("]
  let a ← r
  expect [")"]
  return a

/-- Passes over tokens up to the parenthesis that closes an open one, at most `n`. -/
def skipParens : Nat → Nat → Reader Unit
  | 0, _ => fail
  | n + 1, depth => do
    if ← accept ["("] then skipParens n (depth + 1)
    else if ← accept [")"] then (if depth = 0 then return else skipParens n (depth - 1))
    else if (← peek).isNone then fail
    else do skip; skipParens n depth

/-- Where the next token starts, or the text ends. -/
def place : Reader Nat := do
  let s ← get
  return (s.rest.head?.map (·.start)).getD s.source.length

/-- The source between two places, without the blanks around it. -/
def written (start stop : Nat) : Reader Text := do
  let s ← get
  let part := (s.source.take stop).drop start
  return Text.dropEndWhile Token.isBlank (part.dropWhile Token.isBlank)

/-- Something that is read as often as it is there, at most `n` times. -/
def many {α : Type} (item? : Reader (Option α)) : Nat → Reader (List α)
  | 0 => return []
  | n + 1 => do
    match ← item? with
    | none => return []
    | some a => return a :: (← many item? n)

/-- What a reader makes of a whole text. -/
def run {α : Type} (t : Text) (r : Reader α) : Except Flaw α := do
  let (a, s) ← StateT.run r ⟨Token.scan t, t, none⟩
  match s.rest.dropWhile (·.isSign ";") with
  | [] => .ok a
  | rest => .error (flaw rest)

end Reader
end Upkeep.Sql
