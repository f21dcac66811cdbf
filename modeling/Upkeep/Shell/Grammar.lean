import Upkeep.Shell.Lexer

/-!
# Commands of scripts

A script is read line by line, so that what stands before a flaw is carried out. A line is a list of
commands; a command that is made of others goes on over as many lines as it needs.

* `Reading.start script`: a script of which nothing has been read.
* `nextLine`: the commands of the next line, if there is one.
-/

namespace Upkeep.Shell

open Reader

/-- What may stand before a token. -/
structure Before where
  /-- Line feeds may. -/
  lines : Bool
  /-- A word of the language is known as such. -/
  keywords : Bool
  /-- An alias is known as such. -/
  aliases : Bool

def Before.command : Before := ⟨true, true, true⟩

def Before.clause : Before := ⟨true, true, false⟩

/-- Only a word or a sign may stand. -/
def Before.plain : Before := ⟨false, false, false⟩

/-- The text of a word without quotes and parts. -/
def plainText? : Word → Option Octets
  | [.literal false o] => some o
  | _ => none

/-- The octets of a word without its quotes, and whether it had some. -/
def unquoted (w : Word) : Octets × Bool :=
  w.foldl (fun (o, q) p =>
    match p with
    | .literal isQuoted t => (o ++ t, q || isQuoted)
    | _ => (o, q)) ([], false)

def setting? : Word → Option (Octets × Word)
  | .literal false o :: rest =>
    match Text.breakOn? ['='] o with
    | some (name, value) =>
      if Octets.isName name then
        some (name, if value.isEmpty then rest else .literal false value :: rest)
      else none
    | none => none
  | _ => none

/-! ## Texts behind commands -/

/-- The lines before the one that is a mark, and what stands behind that. -/
def linesBefore (dropsTabs : Bool) (mark : Octets) : List Octets → List Octets × List Octets
  | [] => ([], [])
  | l :: ls =>
    let l := if dropsTabs then l.dropWhile (· == '\t') else l
    if l.filter (· ≠ '\n') = mark then ([], ls)
    else
      let (before, rest) := linesBefore dropsTabs mark ls
      (l :: before, rest)

/-- Reads the texts that are waited for. -/
def readTexts (nested : Reader Command) (fuel : Nat) : List Waiting → Reader Unit
  | [] => return
  | t :: ts => do
    let s ← get
    let body ← if t.isPlain then do
        let (before, rest) := linesBefore t.dropsTabs t.mark (Text.linesWithEnds s.rest)
        let after := rest.flatten
        let isMarked := before.length < (Text.linesWithEnds s.rest).length
        let isUnended := after.isEmpty && isMarked && s.rest.getLast? != some '\n'
        let line := s.line + s.rest.count '\n' - after.count '\n' + (if isUnended then 1 else 0)
        set { s with rest := after, line }
        pure [Part.literal true before.flatten]
      else do
        set { s with ending := .line t.mark t.dropsTabs, pushed := none, waiting := [], inUse := [] }
        let _ ← peekJoined
        beginLine
        let body ← parts nested fuel .text []
        modify fun inner =>
          { inner with
            rest := inner.beyond.getD inner.rest, beyond := none, ending := .none
            pushed := none, waiting := [], inUse := s.inUse }
        pure (closeParts body)
    modify fun inner => { inner with texts := inner.texts ++ [(t.number, body)] }
    readTexts nested fuel ts

def readWaiting (nested : Reader Command) (fuel : Nat) : Reader Unit := do
  let waiting := (← get).waiting
  readTexts nested fuel waiting
  modify fun s => { s with waiting := [] }

/-! ## Tokens in their places -/

/-- Passes over line feeds. -/
def pastLines (nested : Reader Command) (fuel : Nat) : Nat → Token → Reader Token
  | 0, t => return t
  | n + 1, t => do
    match t with
    | .newLine => do
      readWaiting nested fuel
      pastLines nested fuel n (← token nested fuel)
    | t => return t

/-- The text that a word stands for as an alias. The text of an alias does not stand for itself again while
it is read. -/
def aliasText? (o : Octets) : Reader (Option Octets) := do
  modify fun s => { s with inUse := s.inUse.filter fun (_, behind, _) => decide (behind ≤ s.rest.length) }
  let s ← get
  return if (s.inUse.lookup o).isSome then none else s.aliases.lookup o

/-- Puts the text of an alias in front of the rest. -/
def useAlias (o value : Octets) : Reader Unit :=
  modify fun s =>
    let endsInBlank := value.getLast?.any fun c => c == ' ' || c == '\t'
    if value.isEmpty then s
    else { s with rest := value ++ s.rest, inUse := (o, s.rest.length, endsInBlank) :: s.inUse }

/-- Reads the next token in its place. -/
def next (nested : Reader Command) : Nat → Before → Reader Token
  | 0, _ => fail "script too deep".toList
  | fuel + 1, before => do
    let t ← match (← get).pushed with
      | some t => do
        modify fun s => { s with pushed := none }
        pure t
      | none => do
        modify fun s => { s with followsAlias := false }
        token nested fuel
    let t ← if before.lines then pastLines nested fuel fuel t else pure t
    let finish := fun (t : Token) => do
      modify fun s => { s with last := t }
      return t
    match t with
    | .word w =>
      match plainText? w with
      | none => finish t
      | some o =>
        if before.keywords && Token.keywords.contains o then finish (.keyword o)
        else if before.aliases || (← get).followsAlias then
          match ← aliasText? o with
          | none => finish t
          | some value => do
            useAlias o value
            next nested fuel before
        else finish t
    | t => finish t

def putBack : Reader Unit := modify fun s => { s with pushed := some s.last }

def Token.endsList : Token → Bool
  | .stop => true
  | .sign s => s == [')'] || s == [';', ';']
  | .keyword k =>
    let starting := ["!", "case", "for", "if", "in", "until", "while", "\x7b"]
    !starting.contains (String.ofList k)
  | _ => false

/-- What a list is read as. -/
inductive ListKind where
  | line
  | block
  | clause
  deriving DecidableEq

def appendCommand (cs : List Command) : Command := match cs with
  | [c] => c
  | cs => .sequence cs

def withRedirects (line : Nat) (c : Command) (redirects : List Redirect) : Command :=
  if redirects.isEmpty then c
  else match c with
    | .subshell line body _ => .subshell line body redirects
    | c => .redirected line c redirects

/-- The builtin commands that belong to the language, whose names no function may have. -/
def languageNames : List Octets :=
  [".", ":", "break", "continue", "eval", "exec", "exit", "export", "local", "readonly", "return", "set", "shift",
    "times", "trap", "unset"].map String.toList

mutual

/-- Reads a list of commands behind those read so far. -/
def listFrom : Nat → ListKind → List Command → Reader Command
  | 0, _, _ => fail "script too deep".toList
  | n + 1, kind, cs => do
    let nested := listFrom n .clause []
    let t ← next nested n ⟨kind ≠ .line, true, true⟩
    match t with
    | .newLine => do
      readWaiting nested n
      return appendCommand cs
    | .stop => do
      readWaiting nested n
      putBack
      return appendCommand cs
    | t =>
      putBack
      if kind ≠ .line && t.endsList && (kind = .clause || !cs.isEmpty) then return appendCommand cs
      else do
        let c ← andOr n .plain
        let t ← next nested n .plain
        let ended := cs ++ [if t.isSign "&" then .background c else c]
        match t with
        | .newLine => do putBack; listFrom n kind ended
        | .stop => do
          readWaiting nested n
          putBack
          return appendCommand ended
        | t =>
          if t.isSign "&" || t.isSign ";" then listFrom n kind ended
          else if kind = .line then unexpected none
          else do putBack; return appendCommand ended

/-- Reads pipelines that depend on each other. -/
def andOr : Nat → Before → Reader Command
  | 0, _ => fail "script too deep".toList
  | n + 1, before => do
    let first ← pipeline n before
    moreAndOr n first

/-- Reads the pipelines that depend on one. -/
def moreAndOr : Nat → Command → Reader Command
  | 0, _ => fail "script too deep".toList
  | n + 1, first => do
    let t ← next (listFrom n .clause []) n .plain
    if t.isSign "&&" then do
      moreAndOr n (.both first (← pipeline n .command))
    else if t.isSign "||" then do
      moreAndOr n (.either first (← pipeline n .command))
    else do
      putBack
      return first

/-- Reads a pipeline. -/
def pipeline : Nat → Before → Reader Command
  | 0, _ => fail "script too deep".toList
  | n + 1, before => do
    let negated := (← next (listFrom n .clause []) n before).isKeyword "!"
    unless negated do putBack
    let first ← command n ⟨false, negated, negated⟩
    let all ← piped n [first]
    let c := match all with
      | [c] => c
      | cs => .pipeline cs
    return if negated then .negation c else c

/-- Reads the commands behind bars. -/
def piped : Nat → List Command → Reader (List Command)
  | 0, _ => fail "script too deep".toList
  | n + 1, cs => do
    if (← next (listFrom n .clause []) n .plain).isSign "|" then do
      piped n (cs ++ [← command n .command])
    else do
      putBack
      return cs

/-- Reads a command. -/
def command : Nat → Before → Reader Command
  | 0, _ => fail "script too deep".toList
  | n + 1, before => do
    let nested := listFrom n .clause []
    let t ← next nested n before
    let line := (← get).line
    let close := fun (wanted : Token) (isWanted : Token → Bool) (c : Command) => do
      if isWanted (← next nested n .plain) then
        return withRedirects line c (← redirects n [])
      else unexpected (some wanted)
    let keyword := fun (k : String) => Token.keyword k.toList
    match t with
    | .word _ | .redirect .. => do
      putBack
      simple n line [] [] []
    | .sign ['('] => do
      let body ← listFrom n .block []
      close (.sign [')']) (·.isSign ")") (.subshell line body [])
    | .keyword k =>
      match String.ofList k with
      | "\x7b" => do
        let body ← listFrom n .block []
        close (keyword "\x7d") (·.isKeyword "\x7d") body
      | "if" => do
        let c ← choice n
        close (keyword "fi") (·.isKeyword "fi") c
      | "while" | "until" => do
        let test ← listFrom n .block []
        unless (← next nested n .plain).isKeyword "do" do unexpected (some (keyword "do"))
        let body ← listFrom n .block []
        close (keyword "done") (·.isKeyword "done") (.loop (k == "until".toList) test body)
      | "for" => do
        let name ← match ← next nested n .plain with
          | .word w =>
            match plainText? w with
            | some o => if Octets.isName o then pure o else fail "Bad for loop variable".toList
            | none => fail "Bad for loop variable".toList
          | _ => fail "Bad for loop variable".toList
        let words ← if (← next nested n .command).isKeyword "in" then do
            let words ← wordsOf n []
            match (← get).last with
            | .newLine => pure words
            | t => if t.isSign ";" then pure words else unexpected none
          else do
            unless (← get).last.isSign ";" do putBack
            pure [[.parameter true ['@'] .value []]]
        unless (← next nested n .command).isKeyword "do" do unexpected (some (keyword "do"))
        let body ← listFrom n .block []
        close (keyword "done") (·.isKeyword "done") (.each line name words body)
      | "case" => do
        match ← next nested n .plain with
        | .word subject => do
          unless (← next nested n .command).isKeyword "in" do unexpected (some (keyword "in"))
          let clauses ← clausesOf n []
          return withRedirects line (.select line subject clauses) (← redirects n [])
        | _ => unexpected (some (.word []))
      | _ => unexpected none
    | _ => unexpected none

/-- Reads a choice behind its first word. -/
def choice : Nat → Reader Command
  | 0 => fail "script too deep".toList
  | n + 1 => do
    let nested := listFrom n .clause []
    let test ← listFrom n .block []
    unless (← next nested n .plain).isKeyword "then" do
      unexpected (some (.keyword "then".toList))
    let yes ← listFrom n .block []
    let t ← next nested n .plain
    if t.isKeyword "elif" then return .choice test yes (← choice n)
    else if t.isKeyword "else" then return .choice test yes (← listFrom n .block [])
    else do
      putBack
      return .choice test yes .nothing

/-- Reads the words of a loop behind those read so far. -/
def wordsOf : Nat → List Word → Reader (List Word)
  | 0, _ => fail "script too deep".toList
  | n + 1, ws => do
    match ← next (listFrom n .clause []) n .plain with
    | .word w => wordsOf n (ws ++ [w])
    | _ => return ws

/-- Reads the clauses of a selection behind those read so far. -/
def clausesOf : Nat → List (List Word × Command) → Reader (List (List Word × Command))
  | 0, _ => fail "script too deep".toList
  | n + 1, clauses => do
    let nested := listFrom n .clause []
    let t ← next nested n .clause
    if t.isKeyword "esac" then return clauses
    else do
      let t ← if t.isSign "(" then next nested n .plain else pure t
      let patterns ← patternsOf n t []
      unless (← get).last.isSign ")" do unexpected (some (.sign [')']))
      let body ← listFrom n .clause []
      let clauses := clauses ++ [(patterns, body)]
      let t ← next nested n .clause
      if t.isKeyword "esac" then return clauses
      else if t.isSign ";;" then clausesOf n clauses
      else unexpected (some (.sign [';', ';']))

/-- Reads the patterns of a clause behind those read so far, the next of which is a token. -/
def patternsOf : Nat → Token → List Word → Reader (List Word)
  | 0, _, _ => fail "script too deep".toList
  | n + 1, t, ws => do
    let nested := listFrom n .clause []
    let ws := match t with
      | .word w => ws ++ [w]
      | .keyword k => ws ++ [[.literal false k]]
      | _ => ws
    if (← next nested n .plain).isSign "|" then
      patternsOf n (← next nested n .plain) ws
    else return ws

/-- Reads the redirections behind a command. -/
def redirects : Nat → List Redirect → Reader (List Redirect)
  | 0, _ => fail "script too deep".toList
  | n + 1, rs => do
    match ← next (listFrom n .clause []) n ⟨false, rs.isEmpty, rs.isEmpty⟩ with
    | .redirect stream kind dropsTabs => do
      redirects n (rs ++ [← target n stream kind dropsTabs])
    | _ => do
      putBack
      return rs

/-- Reads the word of a redirection. -/
def target : Nat → Nat → RedirectKind → Bool → Reader Redirect
  | 0, _, _, _ => fail "script too deep".toList
  | n + 1, stream, kind, dropsTabs => do
    let readsMark := match kind with
      | .here _ => true
      | _ => false
    modify fun s => { s with readsMark }
    let t ← next (listFrom n .clause []) n .plain
    modify fun s => { s with readsMark := false }
    match t with
    | .word w =>
      match kind with
      | .here number => do
        let (mark, hasQuotes) := unquoted w
        modify fun s => { s with waiting := s.waiting ++ [⟨number, mark, dropsTabs, hasQuotes⟩] }
      | _ => pure ()
      return .mk stream kind w
    | _ => unexpected none

/-- Reads a command of words behind its settings, words and redirections read so far. -/
def simple : Nat → Nat → List (Octets × Word) → List Word → List Redirect → Reader Command
  | 0, _, _, _, _ => fail "script too deep".toList
  | n + 1, line, settings, words, rs => do
    let nested := listFrom n .clause []
    match ← next nested n ⟨false, false, words.isEmpty⟩ with
    | .word w =>
      match (if words.isEmpty then setting? w else none) with
      | some s => simple n line (settings ++ [s]) words rs
      | none => simple n line settings (words ++ [w]) rs
    | .redirect stream kind dropsTabs => do
      simple n line settings words (rs ++ [← target n stream kind dropsTabs])
    | t =>
      match t.isSign "(", settings, words, rs with
      | true, [], [w], [] => do
        unless (← next nested n .plain).isSign ")" do unexpected (some (.sign [')']))
        let name := (plainText? w).getD []
        if !Octets.isName name || languageNames.contains name then fail "Bad function name".toList
        let line := (← get).line
        return .define line name (← command n .command)
      | _, _, _, _ => do
        putBack
        return .simple line settings words rs

end

/-! ## Lines -/

/-- A script of which nothing has been read, with the number of texts behind commands before it and the
aliases. -/
def Reading.start (script : Octets) (count : Nat) (aliases : List (Octets × Octets)) : Reading :=
  { rest := script, line := 1, ending := .none, beyond := none, pushed := none, last := .newLine, waiting := []
    readsMark := false, texts := [], count, aliases, inUse := [], followsAlias := false }

/-- How deep readers may be nested for a script with aliases. -/
def depthOf (script : Octets) (aliases : List (Octets × Octets)) : Nat :=
  2 * (script.length + 1) * ((aliases.flatMap (·.2)).length + 1) + 100

/-- Reads the commands of the next line. There are none behind the last line. -/
def nextLine : Reader (Option Command) := do
  let n := depthOf (← get).rest (← get).aliases
  let c ← listFrom n .line []
  let atEnd := match (← get).last with
    | .stop => true
    | _ => false
  modify fun s => { s with pushed := none }
  match c with
  | .sequence [] => return if atEnd then none else some c
  | c => return some c

/-- The word that a text stands for as if it stood between quotes, with the texts behind commands in it, the first of
which has a number. -/
def embedded (text : Octets) (count : Nat) : Except SyntaxFlaw (Word × List (Nat × Word)) :=
  let n := depthOf text []
  match parts (listFrom n .clause []) n .text [] { Reading.start text count [] with ending := .whole } with
  | .ok (found, r) => .ok (closeParts found, r.texts)
  | .error f => .error f

end Upkeep.Shell
