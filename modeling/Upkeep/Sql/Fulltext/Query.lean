import Upkeep.Sql.Fulltext.Basic

/-!
# What is looked for in texts

A row is looked for by phrases: words that stand one behind the other in a column. Phrases are put together by
`AND`, `OR` and `NOT`; some may have to stand near each other.

* `Sought.ofText? f t`: what a text asks for in the rows of a table of texts.
-/

namespace Upkeep.Sql

/-- Words that stand one behind the other, each with whether it may go on, and whether they have to be the first
ones of a column. -/
structure Phrase where
  words : List (Text × Bool)
  isFirst : Bool
  deriving DecidableEq, Repr

/-- What is looked for. -/
inductive Sought where
  | nothing
  /-- Phrases in one of some columns, with so many words between them at most. -/
  | near (columns : Option (List Nat)) (phrases : List Phrase) (gap : Nat)
  | both (a b : Sought)
  | oneOf (a b : Sought)
  | without (a b : Sought)
  deriving Repr

namespace Sought

/-- What is looked for in some columns only. -/
def inside (cs : List Nat) : Sought → Sought
  | nothing => nothing
  | near none ps gap => near (some cs) ps gap
  | near (some own) ps gap => near (some (own.filter cs.contains)) ps gap
  | both a b => both (a.inside cs) (b.inside cs)
  | oneOf a b => oneOf (a.inside cs) (b.inside cs)
  | without a b => without (a.inside cs) (b.inside cs)

/-- Some phrases, those without words left out. -/
def ofPhrases (ps : List Phrase) (gap : Nat) : Sought :=
  match ps.filter fun p => !p.words.isEmpty with
  | [] => nothing
  | ps => near none ps gap

/-- Two things that stand side by side: what asks for nothing does not count. -/
def beside : Sought → Sought → Sought
  | a, nothing => a
  | nothing, b => b
  | a, b => both a b

/-! ## Signs -/

/-- A part of what asks for rows. -/
inductive Sign where
  /-- A word, as it is and as it is written. -/
  | word (t written : Text)
  | mark (c : Char)
  /-- `AND`, `OR` and `NOT`. -/
  | joint (t : Text)
  /-- A phrase that is known. -/
  | phrase (s : Sought)
  /-- Phrases before and behind it stand near each other. -/
  | nearness (gap : Nat)
  | flaw (message : Text)
  deriving Repr

/-- The words that put phrases together. -/
def joints : List Text := ["AND", "OR", "NOT"].map (·.toList)

/-- What is said of a part that stands where it may not. -/
def misplaced (written : Text) : Text := "fts5: syntax error near \"".toList ++ written ++ ['"']

/-- The parts of a text, at most `n`. -/
def scan : Nat → Text → List Sign
  | 0, _ => []
  | n + 1, t =>
    match t.dropWhile fun c => [' ', '\t', '\n', '\r'].contains c with
    | [] => []
    | c :: rest =>
      if ['(', ')', '{', '}', ':', ',', '+', '*', '-', '^'].contains c then .mark c :: scan n rest
      else if c = '"' then
        let (w, more) := Fulltext.quoted '"' rest
        let written := (c :: rest).take (rest.length + 1 - more.length)
        if isClosed rest then .word w written :: scan n more else [.flaw "unterminated string".toList]
      else if !Fulltext.isBare c then [.flaw (misplaced [c])]
      else
        let w := (c :: rest).takeWhile Fulltext.isBare
        (if joints.contains w then .joint w else .word w w) :: scan n (rest.drop (w.length - 1))
where
  /-- Whether what stands between marks ends. -/
  isClosed : Text → Bool
    | '"' :: '"' :: t => isClosed t
    | '"' :: _ => true
    | _ :: t => isClosed t
    | [] => false

abbrev SignReader := StateT (List Sign) (Except Text)

/-- Fails at the next part. -/
def refuse {α : Type} : SignReader α := do
  match ← get with
  | [] => throw (misplaced [])
  | .word _ w :: _ => throw (misplaced w)
  | .mark c :: _ => throw (misplaced [c])
  | .joint w :: _ => throw (misplaced w)
  | .flaw m :: _ => throw m
  | _ => throw (misplaced [])

/-- Passes over a mark if it follows. -/
def acceptMark (c : Char) : SignReader Bool := do
  match ← get with
  | .mark d :: rest =>
    if c = d then
      set rest
      return true
    else return false
  | _ => return false

def expectMark (c : Char) : SignReader Unit := do if !(← acceptMark c) then refuse

def readWord : SignReader Text := do
  match ← get with
  | .word w _ :: rest =>
    set rest
    return w
  | _ => refuse

def columnOf (f : Fulltext) (name : Text) : SignReader Nat :=
  match f.columns.findIdx? fun (c, _) => Text.toLower c == Text.toLower name with
  | some i => return i
  | none => throw ("no such column: ".toList ++ name)

/-- Reads words as long as there are some, at most `n`. -/
def wordsWhile : Nat → SignReader (List Text)
  | 0 => return []
  | n + 1 => do
    match ← get with
    | .word .. :: _ =>
      let w ← readWord
      return w :: (← wordsWhile n)
    | _ => return []

/-- Reads a choice of columns, if one follows. -/
def columns? (f : Fulltext) (n : Nat) : SignReader (Option (List Nat)) := do
  let others := fun (cs : List Nat) => (List.range f.columns.length).filter (!cs.contains ·)
  let several : SignReader (List Nat) := do
    let first ← readWord
    let names := first :: (← wordsWhile n)
    let cs ← names.mapM (columnOf f)
    expectMark '}'
    return cs
  let found ← match ← get with
    | .mark '-' :: .mark '{' :: rest => do
      set rest
      some <$> others <$> several
    | .mark '-' :: rest => do
      set rest
      pure (some (others [← columnOf f (← readWord)]))
    | .mark '{' :: rest => do
      set rest
      some <$> several
    | .word w _ :: .mark ':' :: rest => do
      set (Sign.mark ':' :: rest)
      pure (some [← columnOf f w])
    | _ => pure none
  if found.isSome then expectMark ':'
  return found

/-- Reads a phrase, of at most `n` parts. -/
def readPhrase (f : Fulltext) : Nat → SignReader (List (Text × Bool))
  | 0 => refuse
  | n + 1 => do
    let w ← readWord
    let isOpen ← acceptMark '*'
    let words := f.splitter.words w
    let own := words.mapIdx fun i w => (w, isOpen && i + 1 == words.length)
    if ← acceptMark '+' then return own ++ (← readPhrase f n) else return own

/-- Reads phrases as long as there are some, at most `n`. -/
def phrasesWhile (f : Fulltext) : Nat → SignReader (List Phrase)
  | 0 => return []
  | n + 1 => do
    match ← get with
    | .word .. :: _ =>
      let p ← readPhrase f n
      return ⟨p, false⟩ :: (← phrasesWhile f n)
    | _ => return []

/-- Reads phrases that stand near each other behind their open parenthesis. -/
def nearby (f : Fulltext) (n : Nat) (written : Text) : SignReader Sought := do
  let first ← readPhrase f n
  let ps := ⟨first, false⟩ :: (← phrasesWhile f n)
  let gap ← if ← acceptMark ',' then pure (some (← readWord)) else pure none
  expectMark ')'
  if written ≠ "NEAR".toList then throw (misplaced written)
  match gap with
  | none => return ofPhrases ps 10
  | some g =>
    if g.all Char.isDigit then return ofPhrases ps (g.foldl (fun n c => 10 * n + (c.toNat - '0'.toNat)) 0)
    else throw ("expected integer, got \"".toList ++ g ++ ['"'])

/-- Reads phrases that stand for themselves. -/
def readNear (f : Fulltext) (n : Nat) : SignReader Sought := do
  match ← get with
  | .phrase s :: rest => do
    set rest
    return s
  | .mark '^' :: rest => do
    set rest
    return ofPhrases [⟨← readPhrase f n, true⟩] 0
  | .word _ written :: .mark '(' :: rest => do
    set rest
    nearby f n written
  | _ => return ofPhrases [⟨← readPhrase f n, false⟩] 0

/-- Reads phrases that stand side by side, at most `n`, when some have been read. -/
def sideBySide (f : Fulltext) : Nat → Sought → SignReader Sought
  | 0, s => return s
  | n + 1, s => do
    let goesOn := match ← get with
      | .word .. :: _ => true
      | .mark c :: _ => ['^', '-', '{'].contains c
      | _ => false
    if !goesOn then return s
    else do
      let cs ← columns? f n
      let next ← readNear f n
      sideBySide f n (s.beside (cs.elim next next.inside))

/-- The words that put phrases together, the loosest first. -/
def levels : List Text := ["OR", "AND", "NOT"].map (·.toList)

/-- Puts together what stands before and behind a word. -/
def joined (joint : Text) (a b : Sought) : Sought :=
  if joint == "OR".toList then oneOf a b else if joint == "NOT".toList then without a b else both a b

mutual

/-- Reads what some words put together. -/
def level (f : Fulltext) : Nat → List Text → SignReader Sought
  | 0, _ => refuse
  | n + 1, [] => do
    if ← acceptMark '(' then
      let s ← level f n levels
      expectMark ')'
      return s
    else do
      let cs ← columns? f n
      if cs.isSome && (← acceptMark '(') then
        let s ← level f n levels
        expectMark ')'
        return cs.elim s s.inside
      else do
        let first ← readNear f n
        sideBySide f n (cs.elim first first.inside)
  | n + 1, joint :: tighter => do
    let first ← level f n tighter
    others f n joint tighter first

/-- Reads more of what a word puts together. -/
def others (f : Fulltext) : Nat → Text → List Text → Sought → SignReader Sought
  | 0, _, _, s => return s
  | n + 1, joint, tighter, s => do
    match ← get with
    | .joint w :: rest =>
      if w == joint then do
        set rest
        let next ← level f n tighter
        others f n joint tighter (joined joint s next)
      else return s
    | _ => return s

end

/-! ## Older editions -/

def leadingNumber (t : Text) : Nat × Text :=
  ((t.takeWhile Char.isDigit).foldl (fun n c => 10 * n + (c.toNat - '0'.toNat)) 0, t.dropWhile Char.isDigit)

/-- The word that puts phrases together at the start of a text, and the rest. -/
def olderJoint? (t : Text) : Option (Sign × Text) :=
  let ends := fun (rest : Text) => rest.head?.all fun c => c.isWhitespace || ['"', '(', ')'].contains c
  let near := (Text.after? "NEAR".toList t).bind fun rest =>
    match rest with
    | '/' :: more =>
      if more.head?.any Char.isDigit then
        let (n, rest) := leadingNumber more
        if ends rest then some (Sign.nearness n, rest) else none
      else none
    | rest => if ends rest then some (Sign.nearness 10, rest) else none
  (joints.findSome? fun j => (Text.after? j t).bind fun rest =>
    if ends rest then some (Sign.joint j, rest) else none).or near

/-- The words of a phrase as they are written in an older edition, each with whether it may go on and whether it has
to come first. -/
def olderWords (s : Splitter) (t : Text) : List (Text × Bool × Bool) :=
  let pieces := t.splitBy fun a b => s.isPart a == s.isPart b
  (pieces.zipIdx).filterMap fun (w, i) =>
    if w.head?.any s.isPart then
      let next := (pieces[i + 1]?).bind List.head?
      let before := if i = 0 then none else (pieces[i - 1]?).bind List.getLast?
      some (s.plainWord w, next == some '*', before == some '^')
    else none

def olderPhrase (s : Splitter) (column : Option Nat) (t : Text) : Sought :=
  let ws := olderWords s t
  let found := ofPhrases [⟨ws.map fun (w, isOpen, _) => (w, isOpen), ws.head?.any fun (_, _, b) => b⟩] 0
  column.elim found fun c => found.inside [c]

/-- The parts of a text in an older edition, at most `n`, with `AND` between those that stand side by side. -/
def olderScan (f : Fulltext) : Nat → Bool → Text → List Sign
  | 0, _, _ => []
  | n + 1, isOpen, t =>
    let side := if isOpen then [Sign.joint "AND".toList] else []
    match t.dropWhile (·.isWhitespace) with
    | [] => []
    | c :: rest =>
      match olderJoint? (c :: rest) with
      | some (j, rest) => j :: olderScan f n false rest
      | none =>
        if c = '(' then side ++ .mark '(' :: olderScan f n false rest
        else if c = ')' then .mark ')' :: olderScan f n true rest
        else if c = '"' then
          if rest.contains '"' then
            side ++ .phrase (olderPhrase f.splitter none (rest.takeWhile (· ≠ '"'))) ::
              olderScan f n true ((rest.dropWhile (· ≠ '"')).drop 1)
          else [.flaw []]
        else
          let (column, body) := match (f.columns.zipIdx).findSome? fun ((name, _), i) =>
              (Text.after? (Text.toLower name ++ [':']) (Text.toLower (c :: rest))).map fun _ =>
                (some i, (c :: rest).drop (name.length + 1)) with
            | some found => found
            | none => (none, c :: rest)
          let isFree := fun (c : Char) => !f.splitter.isPart c && c ≠ '(' && c ≠ ')'
          let skipped := body.takeWhile isFree
          let word := (body.drop skipped.length).takeWhile f.splitter.isPart
          let behind := body.drop (skipped.length + word.length)
          if word.isEmpty then olderScan f n isOpen behind
          else
            let open_ := behind.head? == some '*'
            let first := skipped.getLast? == some '^'
            let found : Sought := ofPhrases [⟨[(f.splitter.plainWord word, open_)], first⟩] 0
            side ++ .phrase (column.elim found fun i => found.inside [i]) ::
              olderScan f n true (if open_ then behind.drop 1 else behind)

/-- Phrases that stand near each other, put together. -/
def gathered : List Sign → List Sign
  | .phrase (near cs ps _) :: .nearness gap :: .phrase (near _ qs _) :: rest =>
    gathered (.phrase (near cs (ps ++ qs) gap) :: rest)
  | s :: rest => s :: gathered rest
  | [] => []
termination_by l => l.length

/-- What a text asks for in the rows of a table of texts. -/
def ofText? (f : Fulltext) (t : Text) : Except Text Sought :=
  let size := 8 * (t.length + 2)
  let read := fun (signs : List Sign) => do
    let (s, rest) ← StateT.run (level f size levels) signs
    if rest.isEmpty then pure s
    else
      let (s, _) ← StateT.run (refuse : SignReader Sought) rest
      pure s
  match f.edition with
  | .fifth =>
    match t with
    | '*' :: rest =>
      .error ("unknown special query: ".toList ++ (rest.dropWhile (· == ' ')).takeWhile (· ≠ ' '))
    | t => read (scan (t.length + 1) t)
  | _ =>
    match gathered (olderScan f (t.length + 1) false t) with
    | [] => .ok nothing
    | signs => (read signs).mapError fun _ => "malformed MATCH expression: [".toList ++ t ++ [']']

end Sought
end Upkeep.Sql
