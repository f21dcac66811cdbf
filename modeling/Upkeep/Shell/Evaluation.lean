import Upkeep.Shell.Program

/-!
# Carrying out scripts

Words are expanded to fields, and commands are carried out one after the other on a machine. The parts of a
pipeline run in turn, each on what the one before it has printed. Every function gets a number that
bounds how deep it may go.

* `Evaluation.fields`: the fields of some words.
* `Evaluation.run`: a command.
* `Evaluation.runText`: a script.
-/

namespace Upkeep.Shell

open Exec

namespace Evaluation

def tooDeep {α : Type} : Exec α := abort "too deep".toList

/-! ## Parameters -/

/-- The first sign that parts words, which stands between parameters that make up one text. -/
def between : Exec Octets := return (((← get).value? "IFS".toList).map (·.take 1)).getD [' ']

def joined : Exec Octets := return (← between).intercalate (← ask (·.parameters))

/-- The value of a parameter. -/
def parameter? (name : Octets) : Exec (Option Octets) := do
  let m ← get
  let p := m.process
  match name with
  | ['#'] => return some (Text.ofNat p.parameters.length)
  | ['?'] => return some (Text.ofNat p.status)
  | ['-'] => return some (Builtin.shownOptions p.options)
  | ['$'] => return some (Text.ofNat Builtin.ownNumber)
  | ['!'] => return p.lastJob.map Text.ofNat
  | ['@'] | ['*'] => return some (← joined)
  | name =>
    if Octets.isNumber name then
      let n := Octets.toNat name
      return if n = 0 then some p.name else p.parameters[n - 1]?
    else return m.value? name

def valueItems (isQuoted : Bool) (o : Octets) : List Item :=
  if isQuoted then .quotes :: Item.ofOctets true false o else Item.ofOctets false true o

def allItems (isQuoted : Bool) (name : Octets) : Exec (List Item) := do
  let ps ← ask (·.parameters)
  if isQuoted && name == ['*'] then return valueItems true (← joined)
  else return ([Item.border isQuoted]).intercalate (ps.map (valueItems isQuoted))

/-- The items of a word that stands for a value: what is not quoted may be parted. -/
def asValue (isQuoted : Bool) (items : List Item) : List Item :=
  if isQuoted then .quotes :: items
  else items.map fun
    | .octet m _ => .octet m !m.isQuoted
    | i => i

/-- The value behind some changes of variables. -/
def settle (changed : List (Octets × Octets)) : Exec Unit :=
  changed.reverse.forM fun (name, value) => assign name value

/-- The number that an expression stands for. -/
def calculate (t : Octets) : Exec Octets := do
  let m ← get
  match Arithmetic.evaluate m.value? t with
  | .ok (n, changed) => do
    settle changed
    return Octets.ofInt n
  | .error (.wrong what) =>
    abort ("arithmetic expression: ".toList ++ what ++ ": \"".toList ++ t ++ ['"'])
  | .error (.notANumber value) => abort ("Illegal number: ".toList ++ value)

/-- The home directories of users. Without a name the own one is meant. -/
def home? (user : Octets) : Exec (Option Octets) := do
  if user.isEmpty then return (← get).value? "HOME".toList
  else return Surroundings.homes.lookup user

/-- The parts of a piece of a word that may start with a tilde. It stands for a home directory, if the name behind
it ends in the piece or with it. -/
def expandPiece (isEnd : Bool) (o : Octets) : Exec Word := do
  match o with
  | '~' :: rest =>
    let user := rest.takeWhile (· ≠ '/')
    let behind := rest.drop user.length
    match ← if behind.isEmpty && !isEnd then pure none else home? user with
    | some home => return (if home.isEmpty then [] else [.literal true home]) ++ [.literal false behind]
    | none => return [.literal false o]
  | o => return [.literal false o]

/-- A word with its tildes expanded: at its start, and in a setting behind colons too. -/
def expandTildes (isSetting : Bool) : Bool → Word → Exec Word
  | atStart, .literal false o :: more => do
    let pieces := if isSetting then Text.splitOn [':'] o else [o]
    let count := pieces.length
    let parts ← (pieces.zipIdx).mapM fun (o, i) => do
      let own ← if 0 < i || atStart then expandPiece (i + 1 < count || more.isEmpty) o
        else pure [Part.literal false o]
      return (if 0 < i then [Part.literal false [':']] else []) ++ own
    return parts.flatten ++ (← expandTildes isSetting false more)
  | _, part :: more => return part :: (← expandTildes isSetting false more)
  | _, [] => return []

def expandTilde (w : Word) : Exec Word :=
  match w with
  | .literal false ('~' :: _) :: _ => expandTildes false true w
  | w => return w

/-! ## Processes -/

def startProcess : Exec Unit := onProcess fun p => { p with jobs := p.jobs.pass }

/-- Runs something as a process of its own, which gets a copy of this one. -/
def fork (atEnd : Exec Unit) (x : Exec Unit) : Exec Unit := do
  startProcess
  let before ← ask id
  onProcess fun p =>
    { p with
      loopDepth := 0, traps := p.traps.filter (·.2.isEmpty), jobs := [], depth := p.depth + 1 }
  let r ← attempt x
  match r with
  | .error .unread => leave .unread
  | _ => pure ()
  let _ ← attempt atEnd
  let status ← ask (·.status)
  onProcess fun _ => { before with status }
  noteChild

/-- Runs something with other streams. -/
def withStreams (streams : List (Nat × Nat)) (x : Exec Unit) : Exec Unit := do
  let before ← ask (·.streams)
  onProcess fun p => { p with streams }
  let r ← attempt x
  onProcess fun p => { p with streams := before }
  match r with
  | .ok () => return
  | .error l => leave l

/-- What something prints. -/
def capture (x : Exec Unit) : Exec Octets := do
  let (id, m) := (← get).newChannel (.sink [] none)
  set m
  withStreams (Machine.setEntry 1 id m.process.streams) x
  let o := (← get).collected id
  modify fun m => { m with channels := Machine.dropEntry id m.channels }
  return o

/-- What something prints, as far as there is room for it, and whether that was not enough. -/
def captureWithin (room : Nat) (x : Exec Unit) : Exec (Octets × Bool) := do
  let (id, m) := (← get).newChannel (.sink [] (some room))
  set m
  let process := m.process
  let r ← attempt (withStreams (Machine.setEntry 1 id m.process.streams) x)
  let o := (← get).collected id
  modify fun m => { m with channels := Machine.dropEntry id m.channels }
  match r with
  | .ok () => return (o, false)
  | .error .unread => do
    onProcess fun _ => process
    return (o, true)
  | .error l => leave l

/-- Octets without the line feeds at their end, and without zeros. -/
def trimPrinted (o : Octets) : Octets := Text.dropEndWhile (· == '\n') (o.filter (· ≠ '\x00'))

/-- Runs something with octets to read, behind which there may be more. -/
def feeding (o : Octets) (isCut : Bool) (x : Exec Unit) : Exec Unit := do
  let (id, m) := (← get).newChannel (.source o isCut)
  set m
  withStreams (Machine.setEntry 0 id m.process.streams) x

/-- How much a part of a pipeline may print. What it prints may have no end, but the part behind it may stop to
read. -/
def pipeRooms : List Nat := [65536, 2097152]

/-- Runs two parts of a pipeline, the second on what the first has printed. Where the second asks for more than
the first has printed in its room, both run again with more room. -/
def piped (first second : Exec Unit) : List Nat → Exec Unit
  | [] => return
  | room :: rooms => do
    let before ← get
    let (o, isCut) ← captureWithin room first
    modify fun m => { m with isStarved := false }
    let r ← attempt (feeding o isCut second)
    let m ← get
    set { m with isStarved := before.isStarved }
    if isCut && m.isStarved && !rooms.isEmpty then do
      set before
      piped first second rooms
    else match r with
      | .ok () => return
      | .error l => leave l

/-- The round of a loop behind which something was left, if it goes on. -/
inductive Round where
  | goesOn
  | ends
  deriving DecidableEq

def inRound (x : Exec Unit) : Exec Round := do
  match ← attempt x with
  | .ok () => return .goesOn
  | .error (.breakLoops n) => if 1 < n then leave (.breakLoops (n - 1)) else return .ends
  | .error (.nextRound n) => if 1 < n then leave (.nextRound (n - 1)) else return .goesOn
  | .error l => leave l

def mostRounds : Nat := 1000000000

/-- Runs rounds as long as that goes on, at most some number. Each round gets the status of the one before it. -/
def rounds (x : Nat → Exec Round) : Nat → Nat → Exec Unit
  | 0, _, m => tooDeep m
  | n + 1, status, m =>
    match x status m with
    | (.ok .goesOn, m) => rounds x n m.process.status m
    | (.ok .ends, m) => (.ok (), m)
    | (.error l, m) => (.error l, m)

/-- Runs a round for each of some values as long as that goes on. -/
def roundsFor (x : Octets → Exec Round) : List Octets → Exec Unit
  | [], m => (.ok (), m)
  | v :: vs, m =>
    match x v m with
    | (.ok .goesOn, m) => roundsFor x vs m
    | (.ok .ends, m) => (.ok (), m)
    | (.error l, m) => (.error l, m)

/-- Runs a loop, whose depth is counted. -/
def inLoop (x : Exec Unit) : Exec Unit := do
  onProcess fun p => { p with loopDepth := p.loopDepth + 1 }
  let r ← attempt x
  onProcess fun p => { p with loopDepth := p.loopDepth - 1 }
  match r with
  | .ok () => return
  | .error l => leave l

/-- Ends the process behind a failure, if that is asked for. -/
def checkStatus (tested : Bool) : Exec Unit := do
  let p ← ask id
  if !tested && p.status != 0 && p.options.contains 'e' then leave .endProcess

/-- Runs something with variables that are put back behind it. -/
def withVariables (names : List Octets) (x : Exec Unit) : Exec Unit := do
  let before ← ask (·.bindings)
  let r ← attempt x
  onProcess fun p =>
    { p with
      found := if names.contains searchPath then [] else p.found
      bindings := names.foldl (fun vs n =>
        match before.lookup n with
        | some v => Machine.setEntry n v vs
        | none => Machine.dropEntry n vs) p.bindings }
  match r with
  | .ok () => return
  | .error l => leave l

/-- Runs a builtin command or a program in its name. -/
def inNameOf (name : Octets) (x : Exec Unit) : Exec Unit := do
  let before ← ask (·.command)
  onProcess fun p => { p with command := some name }
  let r ← attempt x
  onProcess fun p => { p with command := before }
  match r with
  | .ok () => return
  | .error l => leave l

/-- Runs a builtin command, and complains if it could not write all that it prints. What is wrong with one that
does not belong to the language does not end the process. -/
def runBuiltin (name : Octets) (isLanguage : Bool) (x : Exec Unit) : Exec Unit :=
  inNameOf name do
    match ← attempt x with
    | .ok () => pure ()
    | .error .refused => if isLanguage then leave .refused
    | .error l => leave l
    if ← ask (·.hasLost) then do
      onProcess fun p => { p with hasLost := false }
      complain (name ++ ": I/O error".toList)
      setStatus 1

/-- A process in which something is as it was before a function made it its own. -/
def putBack (p : Process) : Saved → Process
  | .binding n (some v) => { p with bindings := Machine.setEntry n v p.bindings }
  | .binding n none => { p with bindings := Machine.dropEntry n p.bindings }
  | .options letters => { p with options := letters }

/-- Puts back what a function has made its own. A variable that came with a value is only told by a bad name
when it goes. -/
def endScope : Exec Unit := do
  let own := ((← ask (·.saved)).head?).getD []
  onProcess fun p => own.foldl putBack { p with saved := p.saved.tail }
  let isBad := fun (s : Saved) => match s with
    | .binding n none => !Octets.isName n
    | _ => false
  if let some (.binding n _) := own.find? isBad then abort (n ++ ": bad variable name".toList)

/-! ## Programs -/

def programDirs : List Octets := Surroundings.programDirs.map (·.toList)

def programAt? (path : Octets) : Option Octets :=
  match Text.breakAtLast? '/' path with
  | some (dir, name) => if programDirs.contains dir then some name else none
  | none => some path

def shellNames : List Octets := ["sh".toList, "dash".toList]

def programNames : List Octets := shellNames ++ Program.table.map (·.1)

def isProgram (name : Octets) : Bool := programNames.contains name

/-- The first of the directories to look in that has an entry with a name, and whether that is a program. -/
def find? (m : Machine) (name : Octets) : Option (Octets × Bool) :=
  let dirs := Text.splitOn [':'] ((m.value? "PATH".toList).getD [])
  let found := dirs.filterMap fun d =>
    if programDirs.contains d && isProgram name then some (d, true)
    else
      let d := if d.isEmpty then ['.'] else d
      if m.workspace.isFile (Octets.toText (d ++ '/' :: name)) then some (d, false) else none
  (found.find? (·.2)).or found.head?

/-- The directory that a program is in, which is kept in mind. -/
def lookUp (name : Octets) : Exec (Option Octets) := do
  match (← ask (·.found)).lookup name with
  | some (dir, false) => return some dir
  | _ =>
    match find? (← get) name with
    | some (dir, true) => do
      onProcess fun p => { p with found := Machine.setEntry name (dir, false) p.found }
      return some dir
    | _ => return none

def programRank (name : Octets) : Nat :=
  (16 * (name.head?.map (·.toNat)).getD 0 + name.foldl (fun n c => n + c.toNat) 0) % 32768 % 31

/-- Lists the programs that have been found. Those that have to be found again are marked. -/
def listFound : Exec Unit := do
  let all := (← ask (·.found)).mergeSort fun a b => decide (programRank a.1 ≤ programRank b.1)
  all.forM fun (name, dir, isOld) => put 1 (dir ++ '/' :: name ++ (if isOld then ['*'] else []) ++ ['\n'])

/-- Complains that there is no such program. -/
def refuse (name : Octets) : Exec Unit := do
  let m ← get
  let isThere :=
    if name.contains '/' then m.workspace.pathExists (Octets.toText name) else (find? m name).isSome
  complain (name ++ (if isThere || name.isEmpty then ": Permission denied" else ": not found").toList)
  setStatus (if isThere && name.contains '/' then 126 else 127)

/-- Says what a name of a command is. -/
def describe (long : Bool) (name : Octets) : Exec Unit := do
  let meant := (← ask (·.aliases)).lookup name
  let isFunction := ((← ask (·.functions)).lookup name).isSome
  let say := fun (o : Octets) => do
    put 1 (o ++ ['\n'])
    setStatus 0
  if Token.keywords.contains name then say (if long then name ++ " is a shell keyword".toList else name)
  else if let some value := meant then
    say (if long then name ++ " is an alias for ".toList ++ value
      else "alias ".toList ++ Builtin.aliasWord name value)
  else if isFunction then say (if long then name ++ " is a shell function".toList else name)
  else if Builtin.has name then
    let kind := if languageNames.contains name then " is a special shell builtin" else " is a shell builtin"
    say (if long then name ++ kind.toList else name)
  else match ← lookUp name with
    | some dir =>
      let path := dir ++ '/' :: name
      say (if long then name ++ " is ".toList ++ path else path)
    | _ => do
      if long then put 1 (name ++ ": not found\n".toList)
      setStatus 127

/-- The variables that a shell starts with, some of which come from outside. -/
def startBindings (outer : List (Octets × Variable)) : List (Octets × Variable) :=
  let own := fun (name value : String) => (name.toList, (⟨some value.toList, false, false⟩ : Variable))
  let fixed := [own "IFS" " \t\n", own "OPTIND" "1", own "PPID" "0"]
  let usual := [own "PS1" "# ", own "PS2" "> ", own "PS4" "+ "]
  fixed ++ (usual.filter fun (k, _) => (outer.lookup k).isNone) ++
    outer.filter fun (k, _) => (fixed.lookup k).isNone

/-- How the shell is called: its options, the script if it is a word, and the words behind. -/
structure Call where
  options : List Char
  isWord : Bool
  words : List Octets
  /-- Whether the options are listed, and whether as words that set them. -/
  listing : Option Bool

/-- The call that words make, or what is wrong with it. -/
def callOf : Nat → List Octets → Except Octets Call
  | 0, words => .ok ⟨[], false, words, none⟩
  | n + 1, words =>
    match words with
    | (sign :: c :: letters) :: rest =>
      if (sign = '-' ∨ sign = '+') ∧ ¬(c = '-' ∧ letters = []) then
        if c :: letters = ['o'] ∧ rest = [] then .ok ⟨[], false, [], some (sign == '+')⟩
        else if c :: letters = ['o'] then
          match Builtin.optionNames.lookup (rest.headD []) with
          | some c => (callOf n rest.tail).map fun call => { call with options := c :: call.options }
          | none => .error ("Illegal option -o ".toList ++ rest.headD [])
        else match (c :: letters).find? fun c => !('c' :: Builtin.optionLetters).contains c with
          | some c => .error ("Illegal option -".toList ++ [c])
          | none => (callOf n rest).map fun call =>
              { call with
                options := (if sign = '-' then (c :: letters).filter (· ≠ 'c') else []) ++ call.options
                isWord := call.isWord || (c :: letters).contains 'c' }
      else .ok ⟨[], false, if sign = '-' ∧ c = '-' then rest else words, none⟩
    | ['+'] :: rest => callOf n rest
    | ['-'] :: rest => .ok ⟨[], false, rest, none⟩
    | words => .ok ⟨[], false, words, none⟩

/-- The commands whose words may be settings of variables. -/
def settingNames : List Octets := ["export", "readonly", "local", "alias"].map String.toList

mutual

def items : Nat → Word → Exec (List Item)
  | 0, _ => tooDeep
  | n + 1, w => do return (← w.mapM (partItems n)).flatten

/-- The items of a part of a word. -/
def partItems : Nat → Part → Exec (List Item)
  | 0, _ => tooDeep
  | n + 1, part => do
    match part with
    | .literal isQuoted o =>
      return (if isQuoted then [.quotes] else []) ++ Item.ofOctets isQuoted false o
    | .number isQuoted w => do
      let o ← calculate (Field.text (← between) (← items n w))
      return valueItems isQuoted o
    | .output isQuoted script => do
      let status ← ask (·.status)
      let o ← capture (fork (atEnd n) (run n false script))
      onProcess fun p => { p with partStatus := p.status, status }
      return valueItems isQuoted (trimPrinted o)
    | .parameter isQuoted name use word => do
      let value ← parameter? name
      let isAll := name == ['@'] || name == ['*']
      let own := fun (o : Octets) => do
        if isAll then
          return (if isQuoted && use != .value then [.quotes] else []) ++ (← allItems isQuoted name)
        else return valueItems isQuoted o
      let inner : Exec (List Item) := do items n (← expandTilde word)
      let word' : Exec (List Item) := do return asValue isQuoted (← inner)
      let needed : Exec Octets := do
        match value with
        | some o => return o
        | none =>
          if !isAll && (← ask (·.options)).contains 'u' then
            abort (name ++ ": parameter not set".toList)
          else return []
      let cut := fun (drop : Pattern → Octets → Octets) => do
        let isParted := isAll && !(isQuoted && name == ['*'])
        let o ← if isParted then do pure (['\x00'].intercalate (← ask (·.parameters))) else needed
        let p := Pattern.ofMarked (Field.marked (← between) (← inner))
        if isParted then
          let values := Text.splitOn ['\x00'] (drop p o)
          return ([Item.border isQuoted]).intercalate (values.map (valueItems isQuoted))
        else return valueItems isQuoted (drop p o)
      let isGiven := fun (emptyToo : Bool) => value.any fun o => !(emptyToo && o.isEmpty)
      match use with
      | .value => do own (← needed)
      | .length => do return valueItems isQuoted (Text.ofNat (← needed).length)
      | .valueOr emptyToo => do
        if isGiven emptyToo then own (value.getD []) else word'
      | .wordIf emptyToo => do
        if isGiven emptyToo then word' else return if isQuoted then [.quotes] else []
      | .assignOr emptyToo => do
        if isGiven emptyToo then own (value.getD [])
        else do
          let o := Field.text (← between) (← inner)
          if !Octets.isName name then abort (name ++ ": bad variable name".toList)
          assign name o
          return valueItems isQuoted o
      | .failOr emptyToo => do
        if isGiven emptyToo then own (value.getD [])
        else do
          let o := Field.text (← between) (← inner)
          let usual := if emptyToo then ": parameter not set or null" else ": parameter not set"
          abort (name ++ if word.isEmpty then usual.toList else ": ".toList ++ o)
      | .dropEnd longest => cut (Pattern.dropEnd longest)
      | .dropStart longest => cut (Pattern.dropStart longest)
      | .unknown => abort "Bad substitution".toList

def textOf : Nat → Word → Exec Octets
  | 0, _ => tooDeep
  | n + 1, w => do return Field.text (← between) (← items n (← expandTilde w))

def settingOf : Nat → Word → Exec Octets
  | 0, _ => tooDeep
  | n + 1, w => do return Field.text (← between) (← items n (← expandTildes true true w))

/-- Says what is run, if that is asked for, on some streams. -/
def trace : Nat → List (Nat × Nat) → List Octets → Exec Unit
  | 0, _, _ => tooDeep
  | n + 1, streams, words => do
    let m ← get
    if m.process.options.contains 'x' then
      let mark := (m.value? "PS4".toList).getD []
      let options := m.process.options
      let shown ← match embedded mark m.process.nextText with
        | .ok (w, texts) => do
          onProcess fun p =>
            { p with
              texts := texts ++ p.texts, nextText := p.nextText + texts.length
              options := options.filter (· ≠ 'x') }
          let o ← textOf n w
          onProcess fun p => { p with options }
          pure o
        | .error f => do
          withStreams streams (complain ("Syntax error: ".toList ++ f.message))
          pure mark
      withStreams streams do put 2 (shown ++ [' '].intercalate words ++ ['\n'])

def fields : Nat → List Word → Exec (List Octets)
  | 0, _ => tooDeep
  | n + 1, ws => do
    let found ← ws.mapM fun w => do
      let parted := Field.split (← get).wordSigns (← items n (← expandTilde w))
      let m ← get
      if m.process.options.contains 'f' then return parted.map (·.map (·.octet))
      else return parted.flatMap (Field.paths m.workspace)
    return found.flatten

/-- The fields of a word of a command that sets variables: a setting is not parted. -/
def settingFields : Nat → Word → Exec (List Octets)
  | 0, _ => tooDeep
  | n + 1, w =>
    match setting? w with
    | some (name, value) => do return [name ++ '=' :: (← settingOf n value)]
    | none => fields n [w]

/-- The fields of the words of a command, some of which are known. -/
def commandFields : Nat → List Octets → List Word → Exec (List Octets)
  | 0, _, _ => tooDeep
  | _ + 1, known, [] => return known
  | n + 1, known, w :: ws => do
    let found := known ++ (← fields n [w])
    match found.find? fun o => o ≠ "command".toList ∧ o.head? ≠ some '-' with
    | none => commandFields n found ws
    | some name =>
      let isSetting := settingNames.contains name && !(name == "alias".toList &&
        ((← ask (·.functions)).lookup name).isSome)
      if found.take 1 ≠ [name] ∧ found.take 1 ≠ ["command".toList] then return found ++ (← fields n ws)
      else if isSetting then return found ++ (← ws.mapM (settingFields n)).flatten
      else return found ++ (← fields n ws)

/-- Redirects a stream. Complains where that fails. -/
def redirect : Nat → Redirect → Exec Bool
  | 0, _ => tooDeep
  | n + 1, .mk stream kind target => do
    let lead := fun (c : Channel) (m : Machine) => do
      let (id, m) := m.newChannel c
      set { m with process := { m.process with streams := Machine.setEntry stream id m.process.streams } }
      return true
    match kind with
    | .here number => do
      let o ← textOf n (((← ask (·.texts)).lookup number).getD [])
      lead (.source o false) (← get)
    | .copy => do
      let o ← textOf n target
      if o = ['-'] then do
        onProcess fun p => { p with streams := Machine.dropEntry stream p.streams }
        return true
      else if o.length = 1 ∧ Octets.isNumber o then
        match (← ask (·.streams)).lookup (Octets.toNat o) with
        | some id => do
          onProcess fun p => { p with streams := Machine.setEntry stream id p.streams }
          return true
        | none => do
          complain (o ++ ": Bad file descriptor".toList)
          return false
      else do
        onProcess fun p => { p with line := p.readLine }
        abort "Syntax error: Bad fd number".toList
    | kind => do
      let o ← textOf n target
      match (← get).openFile kind (Octets.toText o) with
      | .ok (c, m) => lead c m
      | .error e => do
        let isMissing := e = .notFound ∨ e = .notADirectory
        let words := if kind = .input then "cannot open ".toList else "cannot create ".toList
        let reason :=
          if isMissing then (if kind = .input then "No such file" else "Directory nonexistent").toList
          else Program.reason e
        complain (words ++ o ++ ": ".toList ++ reason)
        return false

def redirectAll : Nat → List Redirect → Exec Bool
  | 0, _ => tooDeep
  | _ + 1, [] => return true
  | n + 1, r :: rs => do if ← redirect n r then redirectAll n rs else return false

/-- Runs something with redirected streams. What happens when they cannot be redirected is `otherwise`. -/
def redirecting : Nat → List Redirect → Exec Unit → Exec Unit → Exec Unit
  | 0, _, _, _ => tooDeep
  | n + 1, rs, otherwise, x => do
    withStreams (← ask (·.streams)) do
      if ← redirectAll n rs then x
      else do
        setStatus 2
        otherwise

/-- Carries out a command. A failure of one that is `tested` never ends the process. -/
def run : Nat → Bool → Command → Exec Unit
  | 0, _, _ => tooDeep
  | n + 1, tested, c => do
    if (← ask (·.options)).contains 'n' then return
    match c with
    | .simple line settings words redirects => do
      runSimple n line tested settings words redirects
      receive n
      checkStatus tested
    | .pipeline cs => do
      fork (pure ()) (runPipeline n cs)
      receive n
      checkStatus tested
    | .negation c => do
      run n true c
      let status ← ask (·.status)
      setStatus (if status = 0 then 1 else 0)
    | .both first second => do
      run n true first
      if (← ask (·.status)) = 0 then run n tested second
    | .either first second => do
      run n true first
      if (← ask (·.status)) ≠ 0 then run n tested second
    | .sequence cs => do
      if cs.isEmpty then setStatus 0
      cs.forM (run n tested)
    | .background c => do
      let p ← ask id
      feeding [] false (fork (atEnd n) (run n false c))
      let number := (← get).nextJob
      modify fun m => { m with nextJob := number + 1 }
      onProcess fun q =>
        { q with
          jobs := p.jobs.add number q.status, lastJob := some number, status := 0 }
      receive n
    | .subshell line body redirects => do
      onProcess fun p => { p with line }
      redirecting n redirects (pure ()) (fork (atEnd n) (run n tested body))
      receive n
      checkStatus tested
    | .redirected line body redirects => do
      onProcess fun p => { p with line }
      redirecting n redirects (pure ()) (run n tested body)
    | .choice test yes no => do
      run n true test
      if (← ask (·.status)) = 0 then run n tested yes else run n tested no
    | .loop endsOnSuccess test body =>
      let round := fun (status : Nat) => inRound do
        run n true test
        if ((← ask (·.status)) == 0) == endsOnSuccess then do
          setStatus status
          leave (.breakLoops 1)
        run n tested body
      inLoop (rounds round mostRounds 0)
    | .each line name words body => do
      onProcess fun p => { p with line }
      let values ← fields n words
      setStatus 0
      inLoop (roundsFor (fun v => do
        assign name v
        inRound (run n tested body)) values)
    | .select line subject clauses => do
      onProcess fun p => { p with line }
      let o ← textOf n subject
      setStatus 0
      runClauses n tested o clauses
    | .define line name body => do
      onProcess fun p => { p with functions := Machine.setEntry name (line, body) p.functions }
      setStatus 0

def runClauses : Nat → Bool → Octets → List (List Word × Command) → Exec Unit
  | 0, _, _, _ => tooDeep
  | _ + 1, _, _, [] => return
  | n + 1, tested, o, (patterns, body) :: rest => do
    let isFitting ← patterns.anyM fun w => do
      return (Pattern.ofMarked (Field.marked (← between) (← items n (← expandTilde w)))).fits o
    if isFitting then run n tested body else runClauses n tested o rest

/-- Runs commands, each on what the one before it has printed. -/
def runPipeline : Nat → List Command → Exec Unit
  | 0, _ => tooDeep
  | _ + 1, [] => return
  | n + 1, [c] => fork (atEnd n) (run n false c)
  | n + 1, c :: cs => piped (fork (atEnd n) (run n false c)) (runPipeline n cs) pipeRooms

/-- Runs a command of words. -/
def runSimple : Nat → Nat → Bool → List (Octets × Word) → List Word → List Redirect → Exec Unit
  | 0, _, _, _, _, _ => tooDeep
  | n + 1, line, tested, settings, words, redirects => do
    onProcess fun p => { p with line, partStatus := 0 }
    let found ← commandFields n [] words
    let streams ← ask (·.streams)
    let assignAll : Exec (List Octets) := settings.mapM fun (name, w) => do
      let o ← settingOf n w
      assign name o
      return name ++ '=' :: o
    match found with
    | [] => redirecting n redirects (pure ()) do
        let shown ← assignAll
        unless shown.isEmpty do trace n streams shown
        setStatus (← ask (·.partStatus))
    | name :: args => do
      let isLanguage := languageNames.contains name
      let otherwise : Exec Unit := if isLanguage then leave .refused else pure ()
      let go : Exec Unit := do
        let shown ← assignAll
        trace n streams (shown ++ found)
        runNamed n tested name args
      if name = "exec".toList then do
        if ← redirectAll n redirects then go
        else do
          setStatus 2
          leave .refused
      else redirecting n redirects otherwise do
        if isLanguage || settings.isEmpty then go
        else withVariables (settings.map (·.1)) do
          let exported := settings.map (·.1)
          let shown ← assignAll
          exported.forM fun e => onProcess fun p =>
            { p with
              bindings := p.bindings.map fun (k, v) =>
                (k, if k = e then { v with isExported := true } else v) }
          trace n streams (shown ++ found)
          runNamed n tested name args

def runNamed : Nat → Bool → Octets → List Octets → Exec Unit
  | 0, _, _, _ => tooDeep
  | n + 1, tested, name, args => do
    let functions ← ask (·.functions)
    match (if languageNames.contains name then none else functions.lookup name) with
    | some (_, body) => runFunction n tested body args
    | none =>
      match Builtin.table.lookup name with
      | some f => runBuiltin name (languageNames.contains name) (f args)
      | none => runOther n tested true name args

/-- Runs a function. -/
def runFunction : Nat → Bool → Command → List Octets → Exec Unit
  | 0, _, _, _ => tooDeep
  | n + 1, tested, body, args => do
    let parameters ← ask (·.parameters)
    let depth ← ask (·.loopDepth)
    let optionPlace ← ask (·.optionPlace)
    onProcess fun p =>
      { p with parameters := args, optionPlace := (1, none), loopDepth := 0, saved := [] :: p.saved }
    let r ← attempt (run n tested body)
    endScope
    onProcess fun p => { p with parameters, optionPlace, loopDepth := depth }
    match r with
    | .ok () => return
    | .error .endFunction => return
    | .error l => leave l

/-- Runs a builtin command that runs others, or a program. What is wrong with a command that is `tough` and belongs
to the language ends the process. -/
def runOther : Nat → Bool → Bool → Octets → List Octets → Exec Unit
  | 0, _, _, _, _ => tooDeep
  | n + 1, tested, tough, name, args => do
    match String.ofList name, args with
    | "eval", args => runBuiltin name tough do
      setStatus 0
      runText n tested false ([' '].intercalate args)
    | ".", args => runBuiltin name tough <| Builtin.withOptions "" args fun _ args => do
      let path :: _ := args | return
      let m ← get
      let file := if path.contains '/' then m.workspace.read (Octets.toText path) else .error .notFound
      match file with
      | .ok content => do
        let r ← attempt (inNameOf path (runText n tested true (Octets.ofBytes content.toList)))
        match r with
        | .error .endFunction => return
        | .error l => leave l
        | .ok () => return
      | .error _ =>
        let said := if path.contains '/' then "cannot open ".toList ++ path ++ ": No such file".toList
          else path ++ ": not found".toList
        Builtin.fail said
    | "exec", [] => return
    | "exec", program :: args => runBuiltin name tough do
      onProcess fun p => { p with traps := [] }
      runProgram n program args
      leave .endProcess
    | "command", args =>
      match OptionScan.all "pvV" args with
      | .error o => runBuiltin name false (Builtin.fail o)
      | .ok (options, args) =>
        match (options.filter (·.1 ≠ 'p')).getLast?, args with
        | some (how, _), names => do
          setStatus 0
          (names.take 1).forM (describe (how == 'V'))
        | none, name :: args =>
          match Builtin.table.lookup name with
          | some f => runBuiltin name false (f args)
          | none => runOther n tested false name args
        | none, [] => setStatus 0
    | "type", names => do
      setStatus 0
      let mut status := 0
      for o in names do
        describe true o
        status := max status (← ask (·.status))
      setStatus status
    | "hash", args => runBuiltin name false <| Builtin.withOptions "r" args fun options names => do
      setStatus 0
      if !options.isEmpty then onProcess fun p => { p with found := [] }
      else if names.isEmpty then listFound
      names.forM fun o => do
        onProcess fun p => { p with found := Machine.dropEntry o p.found }
        let isKnown := Builtin.has o || ((← ask (·.functions)).lookup o).isSome || (← lookUp o).isSome
        unless isKnown do
          complain (o ++ ": not found".toList)
          setStatus 1
    | _, args => do
      runProgram n name args
      noteChild

/-- Runs a program. -/
def runProgram : Nat → Octets → List Octets → Exec Unit
  | 0, _, _ => tooDeep
  | n + 1, name, args => do
    startProcess
    let isThere ← if name.contains '/' then pure true else do pure (← lookUp name).isSome
    match (if isThere then programAt? name else none) with
    | none => refuse name
    | some base =>
      if shellNames.contains base then runShell n name args
      else match Program.table.lookup base with
        | some f => inNameOf name (f args)
        | none => refuse name

/-- Runs the shell as a program. -/
def runShell : Nat → Octets → List Octets → Exec Unit
  | 0, _, _ => tooDeep
  | n + 1, name, args => do
    let outer ← ask id
    let start := fun (name : Octets) (options : List Char) (parameters : List Octets) =>
      onProcess fun p =>
        { p with
          name, parameters, options, functions := [], texts := [], nextText := 0, line := 0, loopDepth := 0
          readLine := 0, saved := [], found := [], traps := [], aliases := [], jobs := [], lastJob := none
          optionPlace := (1, none), depth := 0, status := 0, command := none
          bindings := startBindings (p.bindings.filter fun (_, v) => v.isExported) }
    let fails := fun (o : Octets) => do
      start name [] []
      complain o
      setStatus 2
    match callOf (args.length + 1) args with
    | .error o => fails o
    | .ok call => do
      if let some asWords := call.listing then put 1 (Builtin.listOptions asWords fun _ => true)
      if call.isWord then
        match call.words with
        | [] => fails "-c requires an argument".toList
        | script :: words => do
          start (words.headD name) call.options words.tail
          let _ ← attempt (runText n false false script)
          let _ ← attempt (atEnd n)
      else match (if call.options.contains 's' then [] else call.words) with
        | [] => do
          start name (if call.words.isEmpty then 's' :: call.options else call.options) call.words
          match (← get).readAll 0 with
          | .ok (script, m) => do
            set m
            let _ ← attempt (runText n false true script)
            let _ ← attempt (atEnd n)
          | .error _ => return
        | path :: words => do
          match (← get).workspace.node (Octets.toText path) with
          | .error _ => fails ("cannot open ".toList ++ path ++ ": No such file".toList)
          | .ok (.dir _) => start path [] []
          | .ok (.file content) => do
            start path call.options words
            let _ ← attempt (runText n false true (Octets.ofBytes content.toList))
            let _ ← attempt (atEnd n)
    let status ← ask (·.status)
    onProcess fun _ => { outer with status }

/-- Runs what is to run at the end of the process. -/
def atEnd : Nat → Exec Unit
  | 0 => tooDeep
  | n + 1 => do
    match (← ask (·.traps)).lookup 0 with
    | none => return
    | some script => do
      let status ← ask (·.status)
      onProcess fun p => { p with traps := Machine.dropEntry 0 p.traps }
      runText n false false script
      setStatus status

/-- Looks at the signals that the shell has got. One for which nothing is to run ends it, unless it is
harmless. -/
def receive : Nat → Exec Unit
  | 0 => tooDeep
  | n + 1 => do
    let m ← get
    match (if m.process.depth = 0 then m.signals else []) with
    | [] => return
    | signal :: rest => do
      set { m with signals := rest }
      match (if signal = 9 then none else m.process.traps.lookup signal) with
      | some script => do
        let status ← ask (·.status)
        unless script.isEmpty do runText n false false script
        setStatus status
        receive n
      | none =>
        if Signal.harmless.contains signal then receive n
        else do
          onProcess fun p => { p with traps := [] }
          setStatus (128 + signal)
          leave .endProcess

/-- Runs the lines of a script. Those of a file may be shown as they are read. -/
def runText : Nat → Bool → Bool → Octets → Exec Unit
  | 0, _, _, _ => tooDeep
  | n + 1, tested, isFile, script => do
    let line ← ask (·.line)
    let readLine ← ask (·.readLine)
    let count ← ask (·.nextText)
    runLines n tested (if isFile then Text.linesWithEnds script else []) (Reading.start script count [])
    onProcess fun p => { p with line, readLine }

/-- Runs the lines of a script that have not been read. Some of them are still to be shown. -/
def runLines : Nat → Bool → List Octets → Reading → Exec Unit
  | 0, _, _, _ => tooDeep
  | n + 1, tested, lines, r => do
    let aliases ← ask (·.aliases)
    let found := nextLine { r with aliases }
    let count := match found with
      | .ok (none, _) => lines.length
      | .ok (some _, s) => if s.rest.isEmpty then lines.length else s.line - r.line
      | .error f => f.line + 1 - r.line
    if (← ask (·.options)).contains 'v' then put 2 (lines.take count).flatten
    match found with
    | .error f => do
      onProcess fun p => { p with line := f.line }
      abort ("Syntax error: ".toList ++ f.message)
    | .ok (none, _) => return
    | .ok (some c, r) => do
      onProcess fun p => { p with texts := r.texts ++ p.texts, nextText := r.count, readLine := r.line }
      match c with
      | .sequence [] => pure ()
      | c => run n tested c
      runLines n tested (lines.drop count) { r with texts := [] }

end

end Evaluation
end Upkeep.Shell
