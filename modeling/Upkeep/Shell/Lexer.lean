import Upkeep.Shell.Syntax

/-!
# Words and signs of scripts

A script is read from left to right; what has been read of it is a `Reading`. Here words are read, with
their quotes and their parts that stand for something else, and the signs between words. A part may
hold a script of its own, so the reader of scripts is an argument of these readers.

* `word nested fuel`: the word that stands next.
* `token nested fuel`: the next word or sign.
-/

namespace Upkeep.Shell

/-- A word, a word of the language, or a sign. -/
inductive Token where
  | word (w : Word)
  | keyword (k : Octets)
  | sign (s : Octets)
  | redirect (stream : Nat) (kind : RedirectKind) (dropsTabs : Bool)
  | newLine
  | stop

namespace Token

/-- How complaints call a token. -/
def describe : Token → Octets
  | word _ => "word".toList
  | keyword k => '"' :: k ++ ['"']
  | sign s => '"' :: s ++ ['"']
  | redirect .. => "redirection".toList
  | newLine => "newline".toList
  | stop => "end of file".toList

def isSign (s : String) : Token → Bool
  | sign t => t == s.toList
  | _ => false

/-- Whether a token is a word of the language. -/
def isKeyword (k : String) : Token → Bool
  | keyword j => j == k.toList
  | _ => false

def keywords : List Octets :=
  ["!", "case", "do", "done", "elif", "else", "esac", "fi", "for", "if", "in", "then", "until",
    "while", "\x7b", "\x7d"].map String.toList

end Token

/-- A text behind a command that is still to be read: its number, the line that ends it, whether tabs are
dropped from its lines, and whether its parts are read. -/
structure Waiting where
  number : Nat
  mark : Octets
  dropsTabs : Bool
  isPlain : Bool

/-- What ends the text that is being read. -/
inductive Ending where
  /-- No text is read, but the words of a script. -/
  | none
  /-- There is nothing behind the text. -/
  | whole
  /-- A line that is a mark. Tabs may be dropped from the lines. -/
  | line (mark : Octets) (dropsTabs : Bool)
  deriving DecidableEq

/-- What has been read of a script. -/
structure Reading where
  rest : Octets
  line : Nat
  ending : Ending
  /-- What stands behind the line that ended a text. -/
  beyond : Option Octets
  /-- A token that was read and put back. -/
  pushed : Option Token
  last : Token
  waiting : List Waiting
  /-- Whether the next word ends a text behind a command. Nothing in such a word stands for something else. -/
  readsMark : Bool
  /-- The texts behind commands, by their numbers. -/
  texts : List (Nat × Word)
  count : Nat
  /-- The texts that words stand for where a command may start. -/
  aliases : List (Octets × Octets)
  /-- The aliases whose texts are being read: how many octets stand behind the text, and whether it ends in a
  blank. -/
  inUse : List (Octets × Nat × Bool)
  /-- Whether the last token stands right behind a text that ends in a blank. -/
  followsAlias : Bool

/-- Why a script cannot be read on, with the line. -/
structure SyntaxFlaw where
  line : Nat
  message : Octets

abbrev Reader := StateT Reading (Except SyntaxFlaw)

namespace Reader

def fail {α : Type} (message : Octets) : Reader α := fun s => .error ⟨s.line, message⟩

/-- Complains about the last token. -/
def unexpected {α : Type} (wanted : Option Token) : Reader α := do
  let found := (← get).last.describe ++ " unexpected".toList
  fail (found ++ (wanted.map fun t => " (expecting ".toList ++ t.describe ++ [')']).getD [])

def peek : Reader (Option Char) := return (← get).rest.head?

/-- Passes over some octets of one line. -/
def skip (n : Nat) : Reader Unit := modify fun s => { s with rest := s.rest.drop n }

def skipLine : Reader Unit := modify fun s => { s with rest := s.rest.drop 1, line := s.line + 1 }

/-- Begins a line of a text. The text ends where the line is its mark. -/
def beginLine : Reader Unit := do
  let s ← get
  match s.ending with
  | .line mark dropsTabs =>
    let rest := if dropsTabs then s.rest.dropWhile (· == '\t') else s.rest
    let found := rest.takeWhile (· ≠ '\n')
    if found = mark ∧ !rest.isEmpty then
      set { s with rest := [], beyond := some (rest.drop (found.length + 1)), line := s.line + 1 }
    else set { s with rest }
  | _ => return

/-- Some octets without the joints of lines at their start, and the number of these. -/
def dropJoints : Octets → Nat × Octets
  | '\\' :: '\n' :: t => let (n, t) := dropJoints t; (n + 1, t)
  | t => (0, t)

/-- The next octet behind joints of lines. -/
def peekJoined : Reader (Option Char) := do
  modify fun s => let (n, rest) := dropJoints s.rest; { s with rest, line := s.line + n }
  peek

/-- The next octets as long as they satisfy `p`. -/
def takeWhile (p : Char → Bool) : Reader Octets := do
  let found := (← get).rest.takeWhile p
  skip found.length
  return found

end Reader

open Reader

/-! ## Words -/

/-- In what a part of a word stands. -/
inductive Mode where
  | bare
  | double
  | braces (isQuoted : Bool)
  | arithmetic (depth : Nat)
  /-- A text behind a command. -/
  | text
  deriving DecidableEq

def endsWord (c : Char) : Bool := "\n \t;&|()<>".toList.contains c

def isSpecialParameter (c : Char) : Bool := "@*#?-$!".toList.contains c

/-- Parts behind one more literal octet. The newest part is in front, and so is the newest octet in it. -/
def addOctet (isQuoted : Bool) (c : Char) : List Part → List Part
  | .literal q o :: acc =>
    if q = isQuoted then .literal q (c :: o) :: acc else .literal isQuoted [c] :: .literal q o :: acc
  | acc => .literal isQuoted [c] :: acc

def closeParts (acc : List Part) : List Part :=
  acc.reverse.map fun
    | .literal q o => .literal q o.reverse
    | p => p

/-- Whether a backslash takes away the meaning of an octet behind it, within a mode. -/
def Mode.escapes (m : Mode) (c : Char) : Bool :=
  match m with
  | .bare | .braces false => true
  | .double | .arithmetic _ => "$\x60\"\\".toList.contains c
  | .braces true => "$\x60\"\\\x7d".toList.contains c
  | .text => "$\x60\\".toList.contains c

def Mode.isQuoted : Mode → Bool
  | .bare | .braces false => false
  | _ => true

/-- The complaint about a script, or a text, that ends within a mode. -/
def Mode.complaint (isText : Bool) : Mode → Octets
  | .arithmetic _ => "Missing '))'".toList
  | .braces false => "Missing '\x7d'".toList
  | _ => if isText then "Missing '\x7d'".toList else "Unterminated quoted string".toList

/-- The script in backquotes, and what stands behind them. Fails where there is no closing quote. -/
def backquoted (isQuoted : Bool) : Octets → Option (Octets × Octets)
  | [] => none
  | '\x60' :: t => some ([], t)
  | '\\' :: '\n' :: t => backquoted isQuoted t
  | '\\' :: c :: t =>
    let plain := "\\\x60$".toList.contains c || isQuoted && c == '"'
    (backquoted isQuoted t).map fun (o, rest) => (if plain then c :: o else '\\' :: c :: o, rest)
  | c :: t => (backquoted isQuoted t).map fun (o, rest) => (c :: o, rest)

/-- The use of a parameter by the signs behind its name, with the number of octets that they take, and
whether quotes around it are forgotten in its word. -/
def useOf (isQuoted : Bool) : Octets → Use × Nat × Bool
  | '}' :: _ => (.value, 0, isQuoted)
  | ':' :: '}' :: _ => (.value, 2, isQuoted)
  | ':' :: '-' :: _ => (.valueOr true, 2, isQuoted)
  | ':' :: '=' :: _ => (.assignOr true, 2, isQuoted)
  | ':' :: '?' :: _ => (.failOr true, 2, isQuoted)
  | ':' :: '+' :: _ => (.wordIf true, 2, isQuoted)
  | '-' :: _ => (.valueOr false, 1, isQuoted)
  | '=' :: _ => (.assignOr false, 1, isQuoted)
  | '?' :: _ => (.failOr false, 1, isQuoted)
  | '+' :: _ => (.wordIf false, 1, isQuoted)
  | '%' :: '%' :: _ => (.dropEnd true, 2, false)
  | '%' :: _ => (.dropEnd false, 1, false)
  | '#' :: '#' :: _ => (.dropStart true, 2, false)
  | '#' :: _ => (.dropStart false, 1, false)
  | ':' :: _ => (.unknown, 2, isQuoted)
  | _ => (.unknown, 1, isQuoted)

def nameInBraces : Reader (Option Octets) := do
  match ← peekJoined with
  | none => return none
  | some c =>
    if Octets.startsName c then some <$> takeWhile Octets.inName
    else if c.isDigit then some <$> takeWhile Char.isDigit
    else if isSpecialParameter c then do skip 1; return some [c]
    else do
      unless c = '}' do skip 1
      return none

/-- Whether a number sign behind an opening brace asks for a length. -/
def asksLength : Octets → Bool
  | '#' :: c :: rest =>
    Octets.startsName c || c.isDigit || c != '}' && rest.head? == some '}'
  | _ => false

mutual

/-- Reads the parts of a word behind those read so far. -/
def parts (nested : Reader Command) : Nat → Mode → List Part → Reader (List Part)
  | 0, _, _ => fail "word too long".toList
  | n + 1, mode, acc => do
    let quoted := mode.isQuoted
    match ← peek with
    | none =>
      if mode = .bare ∨ mode = .text then return acc
      else fail (mode.complaint ((← get).ending != .none))
    | some '\n' =>
      if mode = .bare then return acc
      else do
        skipLine
        beginLine
        parts nested n mode (addOctet quoted '\n' acc)
    | some '\\' =>
      match (← get).rest.drop 1 with
      | [] => do skip 1; parts nested n mode (addOctet true '\\' acc)
      | '\n' :: _ => do skip 1; skipLine; parts nested n mode acc
      | c :: _ =>
        skip 2
        parts nested n mode
          (if mode.escapes c then addOctet true c acc
            else addOctet quoted c (addOctet quoted '\\' acc))
    | some '$' => do
      skip 1
      if (← get).readsMark then parts nested n mode (addOctet quoted '$' acc)
      else match ← dollar nested n quoted with
      | none => parts nested n mode (addOctet quoted '$' acc)
      | some p => parts nested n mode (p :: acc)
    | some '\x60' => do
      skip 1
      let s ← get
      let lines := s.rest.count '\n'
      if s.readsMark then parts nested n mode (addOctet quoted '\x60' acc)
      else match backquoted quoted s.rest with
      | none =>
        set { s with line := s.line + lines }
        fail "EOF in backquote substitution".toList
      | some (script, rest) =>
        set { s with rest := script, line := 1, ending := .none, pushed := none, waiting := [], inUse := [] }
        let c ← nested
        let inner ← get
        let line := s.line + lines - rest.count '\n'
        set
          { inner with
            rest, line, ending := s.ending, pushed := none, waiting := s.waiting, inUse := s.inUse }
        parts nested n mode (.output quoted c :: acc)
    | some '"' =>
      match mode with
      | .double => do skip 1; return acc
      | .text => do skip 1; parts nested n mode (addOctet quoted '"' acc)
      | .arithmetic _ => do skip 1; parts nested n mode (addOctet quoted '"' acc)
      | _ => do
        skip 1
        if (← peek) = some '"' then do skip 1; parts nested n mode (.literal true [] :: acc)
        else do parts nested n mode (← parts nested n .double acc)
    | some '\'' =>
      if quoted then do skip 1; parts nested n mode (addOctet quoted '\'' acc)
      else do
        skip 1
        let inner := (← get).rest.takeWhile (· ≠ '\'')
        modify fun s =>
          { s with rest := s.rest.drop inner.length, line := s.line + inner.count '\n' }
        if (← peek).isNone then fail (Mode.double.complaint ((← get).ending != .none))
        skip 1
        parts nested n mode (inner.foldl (fun acc c => addOctet true c acc) (.literal true [] :: acc))
    | some c =>
      match mode with
      | .bare =>
        if endsWord c then return acc
        else do skip 1; parts nested n mode (addOctet false c acc)
      | .braces _ =>
        skip 1
        if c = '}' then return acc else parts nested n mode (addOctet quoted c acc)
      | .arithmetic depth =>
        skip 1
        if c = '(' then parts nested n (.arithmetic (depth + 1)) (addOctet quoted c acc)
        else if c = ')' then
          if 0 < depth then parts nested n (.arithmetic (depth - 1)) (addOctet quoted c acc)
          else if (← peekJoined) = some ')' then do skip 1; return acc
          else parts nested n mode (addOctet quoted c acc)
        else parts nested n mode (addOctet quoted c acc)
      | _ => do skip 1; parts nested n mode (addOctet quoted c acc)

/-- Reads what stands behind a dollar sign. A dollar sign may also stand for itself. -/
def dollar (nested : Reader Command) : Nat → Bool → Reader (Option Part)
  | 0, _ => fail "word too long".toList
  | n + 1, isQuoted => do
    match ← peekJoined with
    | some '(' =>
      skip 1
      if (← peekJoined) = some '(' then do
        skip 1
        return some (.number isQuoted (closeParts (← parts nested n (.arithmetic 0) [])))
      else do
        let s ← get
        set { s with pushed := none, waiting := [], ending := .none }
        let c ← nested
        modify fun inner => { inner with waiting := s.waiting, ending := s.ending }
        if (← get).last.isSign ")" then do
          modify fun inner => { inner with pushed := none }
          return some (.output isQuoted c)
        else unexpected (some (.sign [')']))
    | some '{' => do skip 1; some <$> braces nested n isQuoted
    | some c =>
      if Octets.startsName c then do
        return some (.parameter isQuoted (← takeWhile Octets.inName) .value [])
      else if c.isDigit || isSpecialParameter c then do
        skip 1
        return some (.parameter isQuoted [c] .value [])
      else return none
    | none => return none

/-- Reads a parameter in braces behind the opening one. -/
def braces (nested : Reader Command) : Nat → Bool → Reader Part
  | 0, _ => fail "word too long".toList
  | n + 1, isQuoted => do
    let _ ← peekJoined
    let asked := asksLength (← get).rest
    if asked then skip 1
    let name ← nameInBraces
    let _ ← peekJoined
    match name with
    | none => return .parameter isQuoted [] .unknown (closeParts (← parts nested n (.braces isQuoted) []))
    | some name =>
      let (use, taken, wordQuoted) := useOf isQuoted (← get).rest
      skip taken
      let w := closeParts (← parts nested n (.braces wordQuoted) [])
      return .parameter isQuoted name
        (if asked then (if use = .value then .length else .unknown) else use) w

end

/-! ## Tokens -/

/-- Passes over blanks, joints of lines and a comment. -/
def skipBlanks : Nat → Reader Unit
  | 0 => return
  | n + 1 => do
    match ← peekJoined with
    | some ' ' | some '\t' => do skip 1; skipBlanks n
    | some '#' => do let _ ← takeWhile (· ≠ '\n')
    | _ => return

/-- Reads the rest of a redirection behind its first sign. -/
def redirection (c : Char) (stream : Option Nat) : Reader Token := do
  let finish := fun (taken usual : Nat) (kind : RedirectKind) => do
    skip taken
    return Token.redirect (stream.getD usual) kind false
  let _ ← peekJoined
  match c, (← get).rest with
  | '>', '>' :: _ => finish 1 1 .append
  | '>', '|' :: _ => finish 1 1 .replace
  | '>', '&' :: _ => finish 1 1 .copy
  | '>', _ => finish 0 1 .output
  | _, '<' :: rest => do
    let number := (← get).count
    modify fun s => { s with count := number + 1 }
    let dropsTabs := rest.head? == some '-'
    skip (if dropsTabs then 2 else 1)
    return .redirect (stream.getD 0) (.here number) dropsTabs
  | _, '&' :: _ => finish 1 0 .copy
  | _, '>' :: _ => finish 1 0 .both
  | _, _ => finish 0 0 .input

/-- The stream that a word names directly before a redirection. -/
def streamOf? : Word → Option Nat
  | [.literal false [c]] => if c.isDigit then some (Octets.toNat [c]) else none
  | _ => none

/-- Notes whether the end of an alias that ends in a blank is among the octets passed over since `before` was
left. -/
def noteAliasEnd (before : Octets) : Reader Unit :=
  modify fun s =>
    let ended := s.inUse.any fun (_, behind, endsInBlank) =>
      endsInBlank && decide (behind < before.length ∧ s.rest.length ≤ behind)
    { s with followsAlias := s.followsAlias || ended }

/-- Reads the next token. -/
def token (nested : Reader Command) (fuel : Nat) : Reader Token := do
  let before := (← get).rest
  skipBlanks fuel
  noteAliasEnd before
  let sign := fun (s : String) => do
    skip s.length
    return Token.sign s.toList
  match (← get).rest with
  | [] => return .stop
  | '\n' :: _ => do skipLine; return .newLine
  | '&' :: '&' :: _ => sign "&&"
  | '&' :: _ => sign "&"
  | '|' :: '|' :: _ => sign "||"
  | '|' :: _ => sign "|"
  | ';' :: ';' :: _ => sign ";;"
  | ';' :: _ => sign ";"
  | '(' :: _ => sign "("
  | ')' :: _ => sign ")"
  | c :: _ =>
    if c = '>' ∨ c = '<' then do
      skip 1
      redirection c none
    else do
      let w := closeParts (← parts nested fuel .bare [])
      match streamOf? w, ← peek with
      | some stream, some c =>
        if c = '>' ∨ c = '<' then do
          skip 1
          redirection c (some stream)
        else return .word w
      | _, _ => return .word w

end Upkeep.Shell
