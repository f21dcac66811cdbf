import Upkeep.Text.Basic

/-!
# Tokens of statements

A statement is a row of tokens with blanks and comments between them. A token knows where it starts, so that
a part of a statement can be shown as it was written.

* `Token.scan t`: the tokens of a text.
* `Token.name? t`: the name that a token may be.
-/

namespace Upkeep.Sql

/-- What a token is. -/
inductive TokenKind where
  | blank
  | word
  /-- A name between marks. -/
  | name
  | string
  | blob
  | integer
  | real
  | parameter
  | sign
  | unknown
  deriving DecidableEq, Repr

/-- A token. -/
structure Token where
  kind : TokenKind
  written : Text
  /-- How many characters come before it. -/
  start : Nat
  deriving DecidableEq, Repr

def sameName (s t : Text) : Bool := Text.toLower s == Text.toLower t

/-- The text between two marks of a kind, where a doubled mark stands for one. -/
def unquote (mark : Char) : Text → Text
  | [] => []
  | c :: d :: rest =>
    if c = mark then (if d = mark then mark :: unquote mark rest else []) else c :: unquote mark (d :: rest)
  | [c] => if c = mark then [] else [c]

def withoutMarks : Text → Text
  | '[' :: rest => unquote ']' rest
  | c :: rest => if c = '"' ∨ c = '\'' ∨ c = '\x60' then unquote c rest else c :: rest
  | [] => []

namespace Token

def isWordChar (c : Char) : Bool := c.isAlphanum || c == '_' || c == '$' || decide (128 ≤ c.toNat)

def isBlank (c : Char) : Bool := c == ' ' || c == '\t' || c == '\n' || c == '\x0c' || c == '\r'

def isHexDigit (c : Char) : Bool := c.isDigit || 'a' ≤ c.toLower && c.toLower ≤ 'f'

/-- How many characters come up to the mark that closes what some text is the inside of, that mark among
them. -/
def closed? (mark : Char) : Text → Option Nat
  | [] => none
  | c :: d :: rest =>
    if c = mark then (if d = mark then (closed? mark rest).map (· + 2) else some 1)
    else (closed? mark (d :: rest)).map (· + 1)
  | [c] => if c = mark then some 1 else none

/-- The length of a comment whose opening marks have been read. -/
def commentLength : Text → Nat
  | '*' :: '/' :: _ => 2
  | _ :: rest => commentLength rest + 1
  | [] => 0

/-- The length of the characters in front that have a property. -/
def run (p : Char → Bool) (t : Text) : Nat := (t.takeWhile p).length

/-- The kind and the length of the number that a text starts with. -/
def number (t : Text) : TokenKind × Nat :=
  let (kind, n) : TokenKind × Nat :=
    match t with
    | '0' :: x :: rest =>
      if x.toLower = 'x' && (rest.head?.any isHexDigit) then (.integer, 2 + run isHexDigit rest)
      else decimal t
    | _ => decimal t
  let more := run isWordChar (t.drop n)
  if more = 0 then (kind, n) else (.unknown, n + more)
where
  decimal (t : Text) : TokenKind × Nat :=
    let whole := run Char.isDigit t
    let (kind, n) : TokenKind × Nat :=
      match t.drop whole with
      | '.' :: rest => (.real, whole + 1 + run Char.isDigit rest)
      | _ => (.integer, whole)
    match t.drop n with
    | e :: rest =>
      if e.toLower = 'e' then
        let sign := if rest.head? = some '+' ∨ rest.head? = some '-' then 1 else 0
        let digits := run Char.isDigit (rest.drop sign)
        if digits = 0 then (kind, n) else (.real, n + 1 + sign + digits)
      else (kind, n)
    | [] => (kind, n)

/-- The signs of more than one character, each before those that it starts with. -/
def longSigns : List Text := ["->>", "->", "==", "<=", "<>", "<<", ">=", ">>", "!=", "||"].map (·.toList)

/-- The kind of the token that a text starts with, and its length. -/
def first (c : Char) (rest : Text) : TokenKind × Nat :=
  if isBlank c then (.blank, 1 + run isBlank rest)
  else if c = '-' ∧ rest.head? = some '-' then (.blank, 1 + run (· ≠ '\n') rest)
  else if c = '/' ∧ rest.head? = some '*' ∧ 1 < rest.length then (.blank, 2 + commentLength (rest.drop 1))
  else if c.isDigit ∨ c = '.' ∧ rest.head?.any Char.isDigit then number (c :: rest)
  else if c = '\'' then ((closed? c rest).elim (.unknown, 1 + rest.length) fun n => (.string, 1 + n))
  else if c = '"' ∨ c = '\x60' then
    ((closed? c rest).elim (.unknown, 1 + rest.length) fun n => (.name, 1 + n))
  else if c = '[' then
    let n := run (· ≠ ']') rest
    if n = rest.length then (.unknown, 1 + n) else (.name, 2 + n)
  else if c = '?' then (.parameter, 1 + run Char.isDigit rest)
  else if c = '$' ∨ c = '@' ∨ c = ':' ∨ c = '#' then
    let n := run isWordChar rest
    (if n = 0 then .unknown else .parameter, 1 + n)
  else if c.toLower = 'x' ∧ rest.head? = some '\'' then
    let n := run isHexDigit (rest.drop 1)
    if n % 2 = 0 ∧ (rest.drop (1 + n)).head? = some '\'' then (.blob, 3 + n)
    else (.unknown, 2 + run (· ≠ '\'') (rest.drop 1) + (if (rest.drop 1).contains '\'' then 1 else 0))
  else if isWordChar c then (.word, 1 + run isWordChar rest)
  else match longSigns.find? fun s => Text.startsWith s (c :: rest) with
    | some s => (.sign, s.length)
    | none => (if "-()+;*/%=<>|,&~.".toList.contains c then .sign else .unknown, 1)

/-- The tokens of a text that starts at a place, for at most `n` tokens. -/
def scanFrom : Nat → Nat → Text → List Token
  | _, _, [] => []
  | 0, _, _ => []
  | n + 1, start, c :: rest =>
    let (kind, length) := first c rest
    let length := max 1 length
    let others := scanFrom n (start + length) ((c :: rest).drop length)
    if kind = .blank then others else ⟨kind, (c :: rest).take length, start⟩ :: others

def scan (t : Text) : List Token := scanFrom t.length 0 t

/-- Whether a token is a word of the language, whose capitals are given. -/
def isKeyword (t : Token) (w : String) : Bool := t.kind = .word && t.written.map Char.toUpper == w.toList

def isSign (t : Token) (s : String) : Bool := t.kind = .sign && t.written == s.toList

/-- The words of the language that are never names. -/
def reserved : List Text :=
  ["ADD", "ALL", "ALTER", "AND", "AS", "AUTOINCREMENT", "BETWEEN", "CASE", "CHECK", "COLLATE", "COMMIT",
    "CONSTRAINT", "CREATE", "DEFAULT", "DEFERRABLE", "DELETE", "DISTINCT", "DROP", "ELSE", "ESCAPE",
    "EXISTS", "FOREIGN", "FROM", "GROUP", "HAVING", "IN", "INDEX", "INSERT", "INTO", "IS", "ISNULL",
    "JOIN", "LIMIT", "NOT", "NOTHING", "NOTNULL", "NULL", "ON", "OR", "ORDER", "PRIMARY", "REFERENCES",
    "RETURNING", "SELECT", "SET", "TABLE", "THEN", "TO", "TRANSACTION", "UNION", "EXCEPT", "INTERSECT",
    "UNIQUE", "UPDATE", "USING", "VALUES", "WHEN", "WHERE"].map (·.toList)

/-- Whether a token may be a name without marks. -/
def isPlainName (t : Token) : Bool :=
  t.kind = .word && !reserved.contains (t.written.map Char.toUpper)

def name? (t : Token) : Option Text :=
  if t.isPlainName then some t.written
  else if t.kind = .name ∨ t.kind = .string then some (withoutMarks t.written)
  else none

end Token
end Upkeep.Sql
