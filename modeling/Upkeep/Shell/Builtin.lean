import Upkeep.Shell.Condition
import Upkeep.Shell.Field
import Upkeep.Shell.Grammar
import Upkeep.Shell.Job
import Upkeep.Shell.Printing

/-!
# Builtin commands

The commands that a shell has itself and that run no others. Each gets its words and sets the status; the
ones that belong to the language end the process when they are misused.

* `Mask.describe`, `Mask.change?`: the rights that new files do not get, three bits for each of the owner, the group
  and others.
* `OptionScan.all`, `OptionScan.step`: options among words. Words that start with a dash are options, each of their
  letters is one, and two dashes end them.
* `Builtin.table`: the builtin commands by their names.
-/

namespace Upkeep.Shell

/-! ## Rights of new files -/

namespace Mask

def all : Nat := 511

/-- Everyone, with the number of bits behind theirs. -/
def holders : List (Char × Nat) := [('u', 6), ('g', 3), ('o', 0)]

def rights : List (Char × Nat) := [('r', 4), ('w', 2), ('x', 1)]

/-- The rights that a mask leaves, holder by holder. -/
def describe (mask : Nat) : Octets :=
  let given := all - mask
  [','].intercalate (holders.map fun (holder, shift) =>
    holder :: '=' :: (rights.filter fun (_, bit) => given / Nat.pow 2 shift / bit % 2 = 1).map (·.1))

def digits (mask : Nat) : Octets :=
  let d := Nat.toDigits 8 mask
  List.replicate (4 - d.length) '0' ++ d

def ofDigits? (o : Octets) : Option Nat :=
  if o.all fun c => decide ('0' ≤ c ∧ c ≤ '7') then some (Nat.ofDigitChars 8 o 0 % (all + 1)) else none

/-- The bits that a letter behind a sign means, of given rights. -/
def bits (given : Nat) (c : Char) : Nat :=
  match rights.lookup c, holders.lookup c with
  | some bit, _ => bit
  | _, some shift => given / Nat.pow 2 shift % 8
  | none, none => if c = 'X' ∧ given.land 73 ≠ 0 then 1 else 0

/-- The given rights behind a sign with some bits for some holders. -/
def apply (given : Nat) (sign : Char) (shifts : List Nat) (bits : Nat) : Nat :=
  let spread := fun (n : Nat) => shifts.foldl (fun m s => m.lor (n * Nat.pow 2 s)) 0
  let without := fun (n m : Nat) => n.land (all - m)
  if sign = '-' then without given (spread bits)
  else if sign = '=' then (without given (spread 7)).lor (spread bits)
  else given.lor (spread bits)

/-- The given rights behind a list of changes, of which at most `n` are read. The holders stay for signs that
follow each other. -/
def changed? : Nat → Nat → List Nat → Octets → Option Nat
  | 0, _, _, _ => none
  | n + 1, given, shifts, o =>
    if o.isEmpty then some given
    else
      let named := o.takeWhile fun c => c == 'a' || (holders.lookup c).isSome
      let meant := named.flatMap fun c =>
        if c = 'a' then holders.map (·.2) else ((holders.lookup c).map ([·])).getD []
      let shifts := shifts ++ meant
      let shifts := if shifts.isEmpty then holders.map (·.2) else shifts
      match o.drop named.length with
      | sign :: t =>
        if "=+-".toList.contains sign then
          let letters := t.takeWhile fun c => "rwxugoXs".toList.contains c
          let given' := apply given sign shifts (letters.foldl (fun b c => b.lor (bits given c)) 0)
          match t.drop letters.length with
          | ',' :: t => changed? n given' [] t
          | c :: t => if "=+-".toList.contains c then changed? n given' shifts (c :: t) else none
          | [] => some given'
        else none
      | [] => some given

def change? (mask : Nat) (o : Octets) : Option Nat :=
  (changed? (o.length + 1) (all - mask) [] o).map (all - ·)

end Mask

/-! ## Options among words -/

namespace OptionScan

/-- Whether a letter is among the letters of options, and whether it takes a word, which a colon behind it
says. -/
def kind? (c : Char) : Octets → Option Bool
  | [] => none
  | d :: ':' :: rest => if d = c then some true else kind? c rest
  | d :: rest => if d = c then some false else kind? c rest

/-- The options in the letters of a word and in the words behind it, of which at most `n` are read. -/
def allFrom (letters : Octets) : Nat → Octets → List Octets → Except Octets (List (Char × Octets) × List Octets)
  | 0, _, args => .ok ([], args)
  | n + 1, c :: word, args =>
    match kind? c letters with
    | none => .error ("Illegal option -".toList ++ [c])
    | some false => (allFrom letters n word args).map fun (os, rest) => ((c, []) :: os, rest)
    | some true =>
      match word, args with
      | [], [] => .error ("No arg for -".toList ++ c :: " option".toList)
      | [], o :: args => (allFrom letters n [] args).map fun (os, rest) => ((c, o) :: os, rest)
      | word, args => (allFrom letters n [] args).map fun (os, rest) => ((c, word) :: os, rest)
  | n + 1, [], args =>
    match args with
    | ['-', '-'] :: rest => .ok ([], rest)
    | ('-' :: c :: word) :: rest => allFrom letters n (c :: word) rest
    | args => .ok ([], args)

/-- The options at the start of some words, and the words behind them. Else what is wrong with them. -/
def all (letters : String) (args : List Octets) : Except Octets (List (Char × Octets) × List Octets) :=
  allFrom letters.toList (args.length + (args.flatten).length + 1) [] args

/-! ## One at a time -/

/-- An option that was found: its letter, or a sign that it is a wrong one; the word with it; where the next
one is; whether there was none; and a complaint. -/
structure Found where
  letter : Char
  word : Option Octets
  place : Nat × Option Nat
  isOver : Bool
  complaint : Option Octets

/-- The next option among some words. A place is the number of the next word, and where to go on in the one
before it. When the letters start with a colon, wrong options come with their letter and without a
complaint. -/
def step (letters : Octets) (place : Nat × Option Nat) (words : List Octets) : Found :=
  let (index, offset) := place
  let inside := match offset with
    | some k => if index ≤ 1 then [] else ((words[index - 2]?).getD []).drop k
    | none => []
  let ended := fun (index : Nat) => Found.mk '?' none (index, none) true none
  let isQuiet := letters.head? == some ':'
  let go := fun (c : Char) (behind : Octets) (index : Nat) =>
    let length := ((words[index - 2]?).getD []).length
    let here := (index, some (length - behind.length))
    let wrong := fun (place : Nat × Option Nat) (sign : Char) (words : Octets) =>
      if isQuiet then Found.mk sign (some [c]) place false none else Found.mk '?' none place false (some words)
    match kind? c letters with
    | none => wrong here '?' ("Illegal option -".toList ++ [c])
    | some false => Found.mk c (some []) here false none
    | some true =>
      if !behind.isEmpty then Found.mk c (some behind) (index, none) false none
      else match words[index - 1]? with
        | some o => Found.mk c (some o) (index + 1, none) false none
        | none => wrong (index, none) ':' ("No arg for -".toList ++ c :: " option".toList)
  match inside with
  | c :: behind => go c behind index
  | [] =>
    match words[index - 1]? with
    | some ['-', '-'] => ended (index + 1)
    | some ('-' :: c :: behind) => go c behind (index + 1)
    | _ => ended index

end OptionScan

open Exec

namespace Builtin

/-- Complains about the words of the command. A command of the language ends the process with that. -/
def fail (o : Octets) : Exec Unit := do
  complain o
  setStatus 2
  if (← ask (·.command)).any languageNames.contains then leave .refused

def done : Exec Unit := setStatus 0

def count? (o : Octets) : Option Nat :=
  match Arithmetic.number? (some 10) false o with
  | some n => if 0 ≤ n then some n.toNat else none
  | none => none

/-- Does something with the number that a word is. -/
def withCount (o : Octets) (f : Nat → Exec Unit) : Exec Unit :=
  match count? o with
  | some n => f n
  | none => fail ("Illegal number: ".toList ++ o)

/-- Does something with the options at the start of the words and with the words behind them. -/
def withOptions (letters : String) (args : List Octets)
    (f : List (Char × Octets) → List Octets → Exec Unit) : Exec Unit :=
  match OptionScan.all letters args with
  | .ok (options, args) => f options args
  | .error o => fail o

/-! ## Leaving -/

/-- Leaves the process. -/
def exit (args : List Octets) : Exec Unit :=
  match args with
  | [] => leave .endProcess
  | o :: _ => withCount o fun n => do
    setStatus (n % 256)
    leave .endProcess

/-- Leaves a function. -/
def return_ (args : List Octets) : Exec Unit :=
  match args with
  | [] => leave .endFunction
  | o :: _ => withCount o fun n => do
    setStatus n
    leave .endFunction

def leaveLoops (how : Nat → Leave) (args : List Octets) : Exec Unit :=
  withCount (args.headD ['1']) fun n => do
    if n = 0 then fail ("Illegal number: ".toList ++ args.headD [])
    else do
      done
      let depth ← ask (·.loopDepth)
      if 0 < depth then leave (how (min n depth))

/-! ## Directories -/

/-- The place to which names lead from a place, whatever is there. -/
def byNames (place : Place) (names : List Text) : Place :=
  names.foldl (fun place name =>
    if name = ['.'] then place else if name = ['.', '.'] then place.dropLast else place ++ [name]) place

def hereText : Exec Octets := return Octets.ofText (Workspace.pathOf (← ask (·.here)))

/-- Gives a variable of the environment a value. -/
def assignExported (name value : Octets) : Exec Unit := do
  assign name value
  onProcess fun p =>
    { p with bindings := p.bindings.map fun (n, v) => (n, if n = name then { v with isExported := true } else v) }

/-- Goes to the directory at a place. -/
def enter (place : Place) : Exec Unit := do
  let old ← hereText
  onProcess fun p =>
    { p with here := place, found := p.found.map fun (name, dir, _) => (name, dir, true) }
  assignExported "OLDPWD".toList old
  assignExported "PWD".toList (← hereText)

/-- The directories in which another one is looked for, by the name that is written. -/
def searchDirs (m : Machine) (target : Octets) : List Octets :=
  let first := (Text.splitOn ['/'] target).headD []
  if first.isEmpty && !target.isEmpty || first = ['.'] || first = ['.', '.'] then []
  else ((m.value? "CDPATH".toList).map (Text.splitOn [':'])).getD []

/-- Changes the directory. -/
def cd (args : List Octets) : Exec Unit := withOptions "LP" args fun _ args => do
  let m ← get
  let (target, isShown) := match args with
    | [] => ((m.value? "HOME".toList).getD [], false)
    | ['-'] :: _ => ((m.value? "OLDPWD".toList).getD [], true)
    | o :: _ => (o, false)
  let placeOf := fun (o : Octets) =>
    let path := Octets.toText o
    byNames (if Path.isAbsolute path then [] else m.process.here) (Workspace.steps path)
  let through := (searchDirs m target).findSome? fun dir =>
    let path := if dir.isEmpty then target else dir ++ '/' :: target
    if m.workspace.isDir (Octets.toText path) then some (placeOf path, !dir.isEmpty) else none
  let (place, isFar) := through.getD (placeOf target, false)
  if m.root.isDirAt place then do
    enter place
    if isShown || isFar then put 1 ((← hereText) ++ ['\n'])
    done
  else fail ("can't cd to ".toList ++ target)

def pwd (args : List Octets) : Exec Unit := withOptions "LP" args fun _ _ => do
  put 1 ((← hereText) ++ ['\n'])
  done

/-! ## Printing -/

def echo (args : List Octets) : Exec Unit := do
  put 1 (Printing.echo args)
  done

def printf (args : List Octets) : Exec Unit := withOptions "" args fun _ args => do
  match args with
  | [] => fail "usage: printf format [arg ...]".toList
  | f :: args => do
    let p := Printing.format f args
    put 1 p.out
    p.complaints.forM complain
    setStatus (if p.isFlawed then 2 else if p.complaints.isEmpty then 0 else 1)

def test (args : List Octets) : Exec Unit := do
  match Condition.holds (← get).workspace (args.length + 2) args with
  | .ok b => setStatus (if b then 0 else 1)
  | .error o => fail o

def bracket (args : List Octets) : Exec Unit := do
  if args.getLast?.bind (·.head?) ≠ some ']' then fail "missing ]".toList
  else match Condition.holds (← get).workspace (args.length + 2) args.dropLast with
    | .ok b => setStatus (if b then 0 else 1)
    | .error o => fail o

/-! ## Variables -/

/-- A name and a value that a word gives it, if it does. -/
def assignment (o : Octets) : Octets × Option Octets :=
  match Text.breakOn? ['='] o with
  | some (name, value) => (name, some value)
  | none => (o, none)

/-- A word between single quotes. Single quotes of its own stand between double ones. -/
def quoted (o : Octets) : Octets :=
  '\'' :: o.flatMap (fun c => if c = '\'' then "'\"'\"'".toList else [c]) ++ ['\'']

def checkName (n : Octets) : Exec Unit := unless Octets.isName n do fail (n ++ ": bad variable name".toList)

/-- Prints the variables of a kind as commands. -/
def list (isMeant : Variable → Bool) : Exec Unit := do
  let name := (← ask (·.command)).getD []
  let found := (← ask (·.bindings)).filter fun (_, v) => isMeant v
  (found.mergeSort fun a b => decide (¬ b.1 < a.1)).forM fun (n, v) =>
    put 1 (name ++ ' ' :: n ++ ((v.value.map fun o => '=' :: quoted o).getD []) ++ ['\n'])

/-- Marks variables, and gives them the values that their words have. The marked ones are printed when there
are no words, or when that is asked for. -/
def mark (isMarked : Variable → Bool) (f : Variable → Variable) (args : List Octets) : Exec Unit :=
  withOptions "p" args fun options args => do
    if args.isEmpty || !options.isEmpty then list isMarked
    else args.forM fun o => do
      let (n, value) := assignment o
      checkName n
      if let some v := value then assign n v
      let old := ((← get).found? n).getD ⟨none, false, false⟩
      onProcess fun p => { p with bindings := Machine.setEntry n (f old) p.bindings }
    done

/-- Makes variables a function's own, or the options. -/
def local_ (args : List Octets) : Exec Unit := do
  if (← ask (·.saved)).isEmpty then abort "not in a function".toList
  let save := fun (s : Saved) => onProcess fun p =>
    match p.saved with
    | top :: rest => { p with saved := (s :: top) :: rest }
    | [] => p
  args.forM fun o => do
    if o = ['-'] then save (.options (← ask (·.options)))
    else do
      let (n, value) := assignment o
      if value.isNone then checkName n
      save (.binding n ((← get).found? n))
      if let some v := value then assign n v
  done

/-- Forgets variables or functions. -/
def unset (args : List Octets) : Exec Unit := withOptions "vf" args fun options args => do
  args.forM fun n =>
    if (options.getLast?.map (·.1)) = some 'f' then
      onProcess fun p => { p with functions := Machine.dropEntry n p.functions }
    else do
      checkName n
      if ((← get).found? n).any (·.isFixed) then fail (n ++ ": is read only".toList)
      if n = optionIndex then abort "Illegal number: ".toList
      onProcess fun p => { p with bindings := Machine.dropEntry n p.bindings }
  done

/-- The parts of a line for some variables. The last one gets all that is left. -/
def share (signs : Octets) : Nat → List Marked → List Octets
  | 0, _ => []
  | n + 1, ms =>
    let isSign := fun (m : Marked) => !m.isQuoted && signs.contains m.octet
    let isBlank := fun (m : Marked) => isSign m && Field.isBlank m.octet
    let ms := ms.dropWhile isBlank
    if n = 0 then [((ms.reverse.dropWhile isBlank).reverse).map (·.octet)]
    else
      let first := ms.takeWhile (!isSign ·)
      let rest := (ms.drop first.length).dropWhile isBlank
      let rest := match rest with
        | m :: more => if isSign m then more else rest
        | [] => []
      first.map (·.octet) :: share signs n rest

/-- A line with its escapes read: an octet behind a backslash is quoted. Whether the line goes on. -/
def escaped : Octets → List Marked × Bool
  | [] => ([], false)
  | ['\\'] => ([], true)
  | '\\' :: c :: t => let (ms, more) := escaped t; (⟨c, true⟩ :: ms, more)
  | c :: t => let (ms, more) := escaped t; (⟨c, false⟩ :: ms, more)

/-- Reads a line that may go on over several. Whether it was ended by a line feed. -/
def readMarked (isRaw : Bool) : Nat → Exec (List Marked × Bool)
  | 0 => return ([], false)
  | n + 1 => do
    match (← get).readLine 0 with
    | .error _ => return ([], false)
    | .ok (line, m) => do
      set m
      let isEnded := line.getLast? == some '\n'
      let line := if isEnded then line.dropLast else line
      if isRaw then return (line.map (⟨·, false⟩), isEnded)
      else
        let (ms, goesOn) := escaped line
        if goesOn && isEnded then do
          let (more, isEnded) ← readMarked isRaw n
          return (ms ++ more, isEnded)
        else return (ms, isEnded)

/-- Reads a line into variables. A prompt would only be shown to someone who types. -/
def read (args : List Octets) : Exec Unit := withOptions "p:r" args fun options names => do
  if names.isEmpty then fail "arg count".toList
  else do
    let (ms, isEnded) ← readMarked (options.any (·.1 == 'r')) 1000
    let values := share (← get).wordSigns names.length ms
    setStatus (if isEnded then 0 else 1)
    for (n, v) in names.zip values do
      if Octets.isName n then assign n v
      else do
        fail (n ++ ": bad variable name".toList)
        break

/-- Puts the next option among words into a variable. -/
def getopts (args : List Octets) : Exec Unit := do
  match args with
  | letters :: name :: words => do
    let words ← if words.isEmpty then ask (·.parameters) else pure words
    let place ← ask (·.optionPlace)
    let found := OptionScan.step letters (if words.length + 1 < place.1 then (1, none) else place) words
    let wordName := "OPTARG".toList
    match found.complaint, found.word with
    | some o, _ => do
      put 2 (o ++ ['\n'])
      onProcess fun p => { p with bindings := Machine.dropEntry wordName p.bindings }
    | none, some o => assign wordName o
    | none, none => pure ()
    assign optionIndex (Text.ofNat found.place.1)
    onProcess fun p => { p with optionPlace := found.place }
    setStatus (if found.isOver then 1 else 0)
    let restart := onProcess fun p => { p with optionPlace := (1, none) }
    if !Octets.isName name then do
      restart
      fail (name ++ ": bad variable name".toList)
    else if ((← get).found? name).any (·.isFixed) then do
      restart
      fail (name ++ ": is read only".toList)
    else assign name [found.letter]
  | _ => fail "Usage: getopts optstring var [arg...]".toList

/-! ## The shell itself -/

/-- The options that have names, with their letters. Two of them have no letter that anyone writes. -/
def optionNames : List (Octets × Char) :=
  [("errexit".toList, 'e'), ("noglob".toList, 'f'), ("ignoreeof".toList, 'I'), ("interactive".toList, 'i'),
    ("monitor".toList, 'm'), ("noexec".toList, 'n'), ("stdin".toList, 's'), ("xtrace".toList, 'x'),
    ("verbose".toList, 'v'), ("vi".toList, 'V'), ("emacs".toList, 'E'), ("noclobber".toList, 'C'),
    ("allexport".toList, 'a'), ("notify".toList, 'b'), ("nounset".toList, 'u'), ("privileged".toList, 'p'),
    ("nolog".toList, '\x01'), ("debug".toList, '\x02')]

def optionLetters : List Char := (optionNames.map (·.2)).filter fun c => decide (' ' < c)

def shownOptions (options : List Char) : Octets := optionLetters.reverse.filter options.contains

/-- The options with their settings, or the words that set them so. -/
def listOptions (asWords : Bool) (isSet : Char → Bool) : Octets :=
  (if asWords then [] else "Current option settings\n".toList) ++
    optionNames.flatMap fun (name, c) =>
      if asWords then "set ".toList ++ (if isSet c then '-' else '+') :: "o ".toList ++ name ++ ['\n']
      else name ++ List.replicate (16 - name.length) ' ' ++ (if isSet c then "on\n" else "off\n").toList

/-- Sets or takes back an option. The two ways to type exclude each other. -/
def setOption (isOn : Bool) (c : Char) : Exec Unit :=
  onProcess fun p =>
    let other := if c = 'V' then 'E' else 'V'
    let rest := p.options.filter fun d => d != c && !(isOn && (c == 'V' || c == 'E') && d == other)
    { p with options := if isOn then rest ++ [c] else rest }

def setParameters (args : List Octets) : Exec Unit :=
  onProcess fun p => { p with parameters := args, optionPlace := (1, none) }

/-- Sets options and parameters. -/
def set : Nat → List Octets → Exec Unit
  | 0, _ => done
  | n + 1, args => do
    match args with
    | ['-', '-'] :: rest => do
      setParameters rest
      done
    | ['-'] :: rest => do
      setOption false 'x'
      unless rest.isEmpty do setParameters rest
      done
    | (sign :: letters) :: rest =>
      if sign = '-' ∨ sign = '+' then
        if letters = ['o'] then
          match rest with
          | [] => do
            let options ← ask (·.options)
            put 1 (listOptions (sign == '+') options.contains)
            done
          | o :: rest =>
            match optionNames.lookup o with
            | some c => do
              setOption (sign == '-') c
              set n rest
            | none => fail ("Illegal option -o ".toList ++ o)
        else match letters.find? fun c => !optionLetters.contains c with
          | some c => fail ("Illegal option -".toList ++ [c])
          | none => do
            letters.forM (setOption (sign == '-'))
            set n rest
      else do
        setParameters args
        done
    | [] :: _ => do
      setParameters args
      done
    | [] => done

def listValues : Exec Unit := do
  let known := (← ask (·.bindings)).filterMap fun (n, v) => v.value.map fun o => (n, o)
  (known.mergeSort fun a b => decide (¬ b.1 < a.1)).forM fun (n, o) => put 1 (n ++ '=' :: quoted o ++ ['\n'])
  done

/-- Drops parameters. -/
def shift (args : List Octets) : Exec Unit :=
  withCount (args.headD ['1']) fun n => do
    if (← ask (·.parameters.length)) < n then fail "can't shift that many".toList
    else do
      setParameters ((← ask (·.parameters)).drop n)
      done

/-- The rights that new files do not get. -/
def umask (args : List Octets) : Exec Unit := withOptions "S" args fun options args => do
  let mask ← ask (·.mask)
  let change := fun (mask : Nat) => do
    onProcess fun p => { p with mask }
    done
  match args with
  | [] => do
    put 1 ((if options.isEmpty then Mask.digits mask else Mask.describe mask) ++ ['\n'])
    done
  | o :: _ =>
    if (o.head?.map Char.isDigit).getD false then
      match Mask.ofDigits? o with
      | some mask => change mask
      | none => fail ("Illegal number: ".toList ++ o)
    else match Mask.change? mask o with
      | some mask => change mask
      | none => fail ("Illegal mode: ".toList ++ o)

/-! ## Aliases -/

def aliasWord (name value : Octets) : Octets := name ++ '=' :: quoted value

def aliasRank (name : Octets) : Nat :=
  (16 * (name.head?.map (·.toNat)).getD 0 + name.foldl (fun n c => n + c.toNat) 0) % 39

/-- Makes aliases, and prints those that are asked for. -/
def alias_ (args : List Octets) : Exec Unit := do
  done
  if args.isEmpty then
    let known := (← ask (·.aliases)).mergeSort fun a b => decide (aliasRank a.1 ≤ aliasRank b.1)
    known.forM fun (name, value) => put 1 (aliasWord name value ++ ['\n'])
  args.forM fun o => do
    match o with
    | [] => put 2 "alias:  not found\n".toList
    | first :: rest =>
      match Text.breakOn? ['='] rest with
      | some (name, value) =>
        onProcess fun p => { p with aliases := Machine.setEntry (first :: name) value p.aliases }
      | none =>
        match (← ask (·.aliases)).lookup o with
        | some value => put 1 (aliasWord o value ++ ['\n'])
        | none => do
          put 2 ("alias: ".toList ++ o ++ " not found\n".toList)
          setStatus 1

/-- Forgets aliases. -/
def unalias (args : List Octets) : Exec Unit := withOptions "a" args fun options args => do
  done
  if options.isEmpty then
    args.forM fun o => do
      if ((← ask (·.aliases)).lookup o).isSome then
        onProcess fun p => { p with aliases := Machine.dropEntry o p.aliases }
      else do
        put 2 ("unalias: ".toList ++ o ++ " not found\n".toList)
        setStatus 1
  else onProcess fun p => { p with aliases := [] }

/-! ## Signals and jobs -/

/-- Sets what runs at signals. A first word that is a number is no action but a signal. -/
def trap (args : List Octets) : Exec Unit := withOptions "" args fun _ args => do
  let isSignal := fun (o : Octets) => Octets.isNumber o && (Signal.number? 0 o).isSome
  let (action, signals) := match args with
    | [] => ([], [])
    | [o] => (['-'], [o])
    | first :: rest => if isSignal first then (['-'], first :: rest) else (first, rest)
  if args.isEmpty then
    let known := (← ask (·.traps)).mergeSort fun a b => decide (a.1 ≤ b.1)
    known.forM fun (n, o) =>
      put 1 ("trap -- ".toList ++ quoted o ++ ' ' :: Signal.name n ++ ['\n'])
  let known := signals.takeWhile fun o => (Signal.number? 0 o).isSome
  (known.filterMap (Signal.number? 0)).forM fun n =>
    onProcess fun p =>
      let others := Machine.dropEntry n p.traps
      { p with traps := if action = ['-'] then others else (n, action) :: others }
  done
  if let some o := (signals.drop known.length).head? then
    put 2 ("trap: ".toList ++ o ++ ": bad trap\n".toList)
    setStatus 1

def killUsage : Octets :=
  "Usage: kill [-s sigspec | -signum | -sigspec] [pid | job]... or\nkill -l [exitstatus]".toList

def ownNumber : Nat := 1

/-- Sends a signal to processes. The only one that runs is the shell. -/
def send (signal : Nat) (targets : List Octets) : Exec Unit := do
  done
  for o in targets do
    let digits := if o.head? = some '-' then o.tail else o
    let jobs ← ask (·.jobs)
    if o.head? = some '%' then
      match jobs.meant o with
      | .error said => do
        fail said
        break
      | .ok _ => do
        complain "No such process\n".toList
        setStatus 1
    else if !Octets.isNumber digits then do
      fail ("Illegal number: ".toList ++ digits)
      break
    else if Octets.toNat digits = ownNumber then
      modify fun m => if signal = 0 then m else { m with signals := m.signals ++ [signal] }
    else do
      unless jobs.any fun j => j.number == Octets.toNat digits && !j.isWaited do
        complain "No such process\n".toList
        setStatus 1

/-- Lists signals, or names the one behind a status. -/
def listSignals (args : List Octets) : Exec Unit := do
  match args with
  | [] => do
    put 1 ('0' :: '\n' :: (Signal.names.drop 1).flatMap fun n => n.toList ++ ['\n'])
    done
  | o :: _ => withCount o fun n => do
    let n := if 128 < n then n - 128 else n
    if 0 < n ∧ n < Signal.names.length then do
      put 1 (Signal.name n ++ ['\n'])
      done
    else fail ("invalid signal number or exit status: ".toList ++ o)

/-- Sends signals, or lists them. -/
def kill (args : List Octets) : Exec Unit := do
  match args with
  | [] => fail killUsage
  | first :: rest =>
    match (if first.head? = some '-' then Signal.number? 1 first.tail else none) with
    | some n => if rest.isEmpty then fail killUsage else send n rest
    | none => withOptions "ls:" args fun options targets => do
      let isListing := options.any (·.1 == 'l')
      match (options.filter (·.1 == 's')).getLast? with
      | some (_, o) =>
        match Signal.number? 1 o with
        | none => fail ("invalid signal number or name: ".toList ++ o)
        | some n => if targets.isEmpty || isListing then fail killUsage else send n targets
      | none =>
        if isListing then listSignals targets
        else if targets.isEmpty then fail killUsage
        else send Signal.usual targets

/-- Waits for jobs in the background, which are always done. -/
def wait (args : List Octets) : Exec Unit := withOptions "" args fun _ args => do
  let mark := fun (isMeant : Job → Bool) => onProcess fun p => { p with jobs := p.jobs.wait isMeant }
  if args.isEmpty then do
    mark fun _ => true
    done
  else do
    setStatus 127
    for o in args do
      let jobs ← ask (·.jobs)
      let found : Except Octets (Option Job) :=
        if o.head? = some '%' then (jobs.meant o).map some
        else match count? o with
          | none => .error ("Illegal number: ".toList ++ o)
          | some n => .ok (List.find? (fun j => j.number == n) jobs)
      match found with
      | .error said => do
        fail said
        break
      | .ok none => continue
      | .ok (some j) => do
        mark (· == j)
        setStatus j.status

/-- Lists jobs. Those that are done and have been listed are forgotten. -/
def jobs (args : List Octets) : Exec Unit := withOptions "lp" args fun options args => do
  let show_ := fun (j : Job) => do
    if (options.getLast?.map (·.1)) = some 'p' then put 1 (Text.ofNat j.number ++ ['\n'])
    else do
      put 1 (j.line (← ask (·.jobs)) !options.isEmpty)
      onProcess fun p => { p with jobs := p.jobs.filter (· != j) }
  done
  if args.isEmpty then (← ask (·.jobs)).forM show_
  else for o in args do
    match (← ask (·.jobs)).meant o with
    | .ok j => show_ j
    | .error said => do
      fail said
      break

/-- Brings back a job that was stopped, of which there is none. -/
def resume (args : List Octets) : Exec Unit := withOptions "" args fun _ args => do
  match (← ask (·.jobs)).meant (args.headD ['%']) with
  | .ok _ => fail ("job ".toList ++ args.headD "(null)".toList ++ " not created under job control".toList)
  | .error said => fail said

/-- The bounds of what a process may use, by their letters, each with its name and the unit that is shown. -/
def bounds : List (Char × String × String) :=
  [('t', "time(seconds)", "unlimited"), ('f', "file(blocks)", "unlimited"), ('d', "data(kbytes)", "unlimited"),
    ('s', "stack(kbytes)", "8192"), ('c', "coredump(blocks)", "unlimited"), ('m', "memory(kbytes)", "unlimited"),
    ('l', "locked memory(kbytes)", "8192"), ('p', "process", "unlimited"), ('n', "nofiles", "1048576"),
    ('v', "vmemory(kbytes)", "unlimited"), ('w', "locks", "unlimited"), ('r', "rtprio", "0")]

/-- Shows bounds of what a process may use. New bounds are only looked at. -/
def ulimit (args : List Octets) : Exec Unit := withOptions "HSatfdscmlpnvwr" args fun options args => do
  let letter := (((options.map (·.1)).filter fun c => c ≠ 'H' ∧ c ≠ 'S').getLast?).getD 'f'
  done
  match args with
  | [] =>
    if options.any (·.1 == 'a') then
      bounds.forM fun (_, name, value) =>
        put 1 (name.toList ++ List.replicate (20 - name.length) ' ' ++ ' ' :: value.toList ++ ['\n'])
    else put 1 (((bounds.lookup letter).map (·.2)).getD "unlimited").toList >>= fun _ => put 1 ['\n']
  | o :: more =>
    if options.any (·.1 == 'a') || !more.isEmpty then fail "too many arguments".toList
    else if o ≠ "unlimited".toList ∧ !Octets.isNumber o then fail "bad number".toList

/-- Prints the time that was taken, of which none is counted. -/
def times (_ : List Octets) : Exec Unit := do
  let none := "0m0.000000s".toList
  let line := none ++ ' ' :: none ++ ['\n']
  put 1 (line ++ line)
  done

/-- The builtin commands by their names. -/
def table : List (Octets × (List Octets → Exec Unit)) :=
  [(":", fun _ => done), ("true", fun _ => done), ("false", fun _ => setStatus 1), ("exit", exit),
    ("return", return_), ("break", leaveLoops .breakLoops),
    ("continue", leaveLoops .nextRound), ("cd", cd), ("chdir", cd), ("pwd", pwd),
    ("echo", echo), ("printf", printf), ("test", test), ("[", bracket),
    ("export", mark (·.isExported) fun v => { v with isExported := true }),
    ("readonly", mark (·.isFixed) fun v => { v with isFixed := true }), ("local", local_),
    ("unset", unset), ("read", read), ("getopts", getopts), 
    ("set", fun args => if args.isEmpty then listValues else set (args.length + 1) args),
    ("shift", shift), ("trap", trap), ("kill", kill), ("wait", wait),
    ("jobs", jobs), ("fg", resume), ("bg", resume),
    ("alias", alias_), ("unalias", unalias), ("umask", umask), ("times", times), ("ulimit", ulimit)].map
    fun (name, f) => (name.toList, f)

def running : List Octets := [".", "command", "eval", "exec", "hash", "type"].map String.toList

def has (name : Octets) : Bool := (table.lookup name).isSome || running.contains name

end Builtin
end Upkeep.Shell
