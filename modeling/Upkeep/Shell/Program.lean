import Upkeep.Shell.Builtin
import Upkeep.Text.Blank

/-!
# Programs

The programs that commands may name besides the shell and its builtin commands. They read and write the
streams of their process and the files of the machine, and complain in their own name.

* `Program.table`: the programs by their names.
* `Program.quote o`: a file name as it stands in complaints.
-/

namespace Upkeep.Shell

open Exec

namespace Program

/-! ## Complaints -/

def isPrintable (c : Char) : Bool := decide (' ' ≤ c ∧ c ≤ '~')

def asksQuotes (isFirst isOnly : Bool) (c : Char) : Bool :=
  !isPrintable c || " !\"$&()*;<=>?[\\^\x60|':".toList.contains c ||
    isFirst && (c == '#' || c == '~') || isOnly && (c == '\x7b' || c == '\x7d')

/-- Whether an octet of a name with a single quote can stand between double quotes. -/
def fitsDouble (isFirst : Bool) (c : Char) : Bool :=
  isPrintable c && !"!\"$&()*;<=>?[\\^\x60|\x7b\x7d".toList.contains c && (isFirst || c != '#' && c != '~')

def escape (c : Char) : Octets :=
  match Printing.letters.find? fun (_, d) => d == c && d != '\\' && d != '\x1b' with
  | some (letter, _) => ['\\', letter]
  | none =>
    let digits := Nat.toDigits 8 c.toNat
    '\\' :: List.replicate (3 - digits.length) '0' ++ digits

/-- The octets of a name between single quotes. What cannot be printed stands in quotes of its own. -/
def quoteRest (isEscaping : Bool) : Octets → Octets
  | [] => ['\'']
  | c :: t =>
    if c = '\'' then "'\\''".toList ++ quoteRest false t
    else if isPrintable c then (if isEscaping then "''".toList else []) ++ c :: quoteRest false t
    else (if isEscaping then [] else "'$'".toList) ++ escape c ++ quoteRest true t

/-- A name as it stands in complaints. -/
def quote (o : Octets) : Octets :=
  let marks := o.mapIdx fun i c => asksQuotes (i == 0) (o.length == 1) c
  if !o.isEmpty && !marks.any id then o
  else if o.contains '\'' && (o.mapIdx fun i c => fitsDouble (i == 0) c).all id then '"' :: o ++ ['"']
  else '\'' :: quoteRest false o

def alwaysQuote (o : Octets) : Octets :=
  let q := quote o
  if q = o then '\'' :: o ++ ['\''] else q

def ownName : Exec Octets := return (← ask (·.command)).getD []

def complain (o : Octets) : Exec Unit := do
  put 2 ((← ownName) ++ ": ".toList ++ o ++ ['\n'])
  setStatus 1

def reason : FileError → Octets
  | .notFound => "No such file or directory".toList
  | .alreadyExists => "File exists".toList
  | .notADirectory => "Not a directory".toList
  | .isADirectory => "Is a directory".toList
  | .notAllowed => "Permission denied".toList
  | .nameTooLong => "File name too long".toList
  | _ => "Invalid argument".toList

/-- Complains about the words of the program. -/
def misused (o : Octets) : Exec Unit := do
  complain (o ++ "\nTry '".toList ++ (← ownName) ++ " --help' for more information.".toList)

def unknownOption : Octets → Octets
  | '-' :: '-' :: name => "unrecognized option '--".toList ++ name ++ ['\'']
  | o => "invalid option -- '".toList ++ o ++ ['\'']

/-! ## Words -/

/-- The words of a program: the letters of its options, with a word for those that take one, and the
operands. A number behind a dash is the word of the option `n`. Else the option that there is not. -/
def sorted (letters taking : List Char) : Nat → List Octets → Except Octets (List (Char × Octets) × List Octets)
  | 0, _ => .ok ([], [])
  | _ + 1, [] => .ok ([], [])
  | n + 1, o :: rest =>
    let more := fun (options : List (Char × Octets)) (rest : List Octets) =>
      (sorted letters taking n rest).map fun (os, operands) => (options ++ os, operands)
    match o with
    | ['-'] => (sorted letters taking n rest).map fun (os, operands) => (os, o :: operands)
    | ['-', '-'] => .ok ([], rest)
    | '-' :: '-' :: _ => .error o
    | '-' :: c :: behind =>
      if taking.contains 'n' && (c :: behind).all Char.isDigit then more [('n', c :: behind)] rest
      else if taking.contains c then
        if behind.isEmpty then more [(c, rest.headD [])] rest.tail else more [(c, behind)] rest
      else match (c :: behind).find? fun d => !letters.contains d with
        | some d => .error [d]
        | none => more ((c :: behind).map fun d => (d, [])) rest
    | o => (sorted letters taking n rest).map fun (os, operands) => (os, o :: operands)

/-- Runs a program with its options and operands. -/
def withWords (letters taking : String)
    (f : (Char → Option Octets) → List Octets → Exec Unit) (args : List Octets) : Exec Unit := do
  match sorted letters.toList taking.toList (args.length + 1) args with
  | .error o => misused (unknownOption o)
  | .ok (options, operands) => do
    setStatus 0
    f (fun c => options.lookup c) operands

/-! ## Reading -/

/-- The octets of an operand: a file, or the stream when there is a dash. -/
def contents (describe : Octets → Octets) (o : Octets) : Exec (Option Octets) := do
  let m ← get
  if o = ['-'] then
    match m.readAll 0 with
    | .ok (all, m) => do
      set m
      return some all
    | .error .directory => do
      complain "-: Is a directory".toList
      return none
    | .error .closed => do
      complain "-: Bad file descriptor".toList
      return none
  else
    match m.openFile .input (Octets.toText o) with
    | .ok (.file place .., _) => return some (m.octetsAt place)
    | .ok (.directory, _) => do
      complain (quote o ++ ": Is a directory".toList)
      return none
    | .ok (.source rest _, _) => return some rest
    | .ok _ => return some []
    | .error e => do
      complain (describe o ++ ": ".toList ++ reason e)
      return none

def orStream (operands : List Octets) : List Octets := if operands.isEmpty then [['-']] else operands

/-- Runs a program, and complains if it could not write all that it prints. -/
def running (lost : String) (f : List Octets → Exec Unit) (args : List Octets) : Exec Unit := do
  f args
  if ← ask (·.hasLost) then
    onProcess fun p => { p with hasLost := false }
    complain (lost.toList ++ ": Bad file descriptor".toList)

/-! ## cat -/

/-- How `cat` shows an octet. -/
def show_ (isVisible showsTabs : Bool) (c : Char) : Octets :=
  let n := c.toNat
  if c = '\n' then [c]
  else if c = '\t' then (if showsTabs then "^I".toList else [c])
  else if !isVisible then [c]
  else
    let low := fun n =>
      if n < 32 then ['^', Char.ofNat (n + 64)] else if n = 127 then "^?".toList else [Char.ofNat n]
    if n < 128 then low n else "M-".toList ++ low (n - 128)

/-- The long names of the options of `cat`, with their letters. Two of them ask about the program. -/
def catOptions : List (Octets × Option (List Char)) :=
  [("--number-nonblank".toList, some ['b']), ("--number".toList, some ['n']),
    ("--squeeze-blank".toList, some ['s']), ("--show-nonprinting".toList, some ['v']),
    ("--show-ends".toList, some ['E']), ("--show-tabs".toList, some ['T']),
    ("--show-all".toList, some "vET".toList), ("--help".toList, none), ("--version".toList, none)]

/-- The option of `cat` that a word means by the start of its name, or what is wrong with the word. -/
def catOption (o : Octets) : Except Octets (Option (List Char)) :=
  let name := o.takeWhile (· ≠ '=')
  let hasWord := name.length < o.length
  let settled := fun (full : Octets) (cs : Option (List Char)) =>
    if hasWord then .error ("option '".toList ++ full ++ "' doesn't allow an argument".toList) else .ok cs
  match catOptions.lookup name with
  | some cs => settled name cs
  | none =>
    match catOptions.filter fun (full, _) => Text.startsWith name full with
    | [] => .error (unknownOption o)
    | [(full, cs)] => settled full cs
    | several =>
      let names := several.flatMap fun (full, _) => " '".toList ++ full ++ ['\'']
      .error ("option '".toList ++ o ++ "' is ambiguous; possibilities:".toList ++ names)

/-- A line as `cat` prints it with options. Where ends are shown, a carriage return that belongs to the end is
too. -/
def catLine (has : Char → Bool) (l : Octets) : Octets :=
  let shown := fun (o : Octets) => o.flatMap (show_ (has 'v') (has 'T'))
  if l.getLast? = some '\n' ∧ has 'E' then
    let inner := l.dropLast
    if inner.getLast? = some '\r' then shown inner.dropLast ++ "^M$\n".toList else shown inner ++ "$\n".toList
  else shown l

/-- Lines as `cat` prints them with options, behind the number of the last line, whether the last line was
empty, and whether the text starts within a line. -/
def catLines (has : Char → Bool) : Nat → Bool → List Octets → Octets
  | _, _, [] => []
  | count, wasEmpty, l :: ls =>
    let isEmpty := l == ['\n']
    if isEmpty && wasEmpty && has 's' then catLines has count true ls
    else
      let numbered := if has 'b' then !isEmpty else has 'n'
      let count := if numbered then count + 1 else count
      let number := Text.ofNat count
      let head := if numbered then List.replicate (6 - number.length) ' ' ++ number ++ ['\t'] else []
      head ++ catLine has l ++ catLines has count isEmpty ls

/-- The options of `cat` and its operands, or what is wrong with them. There are none when the words ask about
the program. -/
def catWords : List Octets → Except Octets (Option (List Char × List Octets))
  | [] => .ok (some ([], []))
  | ['-', '-'] :: rest => .ok (some ([], rest))
  | ['-'] :: rest => return (← catWords rest).map fun (os, operands) => (os, ['-'] :: operands)
  | ('-' :: '-' :: long) :: rest => do
    match ← catOption ('-' :: '-' :: long) with
    | some cs => return (← catWords rest).map fun (os, operands) => (cs ++ os, operands)
    | none => return none
  | ('-' :: letters) :: rest => do
    if let some c := letters.find? fun c => !"AbeEnstTuv".toList.contains c then .error (unknownOption [c])
    let meant := letters.flatMap fun c =>
      if c = 'A' then "vET".toList else if c = 'e' then "vE".toList
      else if c = 't' then "vT".toList else [c]
    return (← catWords rest).map fun (os, operands) => (meant ++ os, operands)
  | o :: rest => return (← catWords rest).map fun (os, operands) => (os, o :: operands)

/-- Whether something is still to be read in the file to which the output goes. -/
def isOutputFile (m : Machine) (o : Octets) : Bool :=
  let input : Option Channel := if o = ['-'] then (m.channel? 0).map (·.2)
    else (m.openFile .input (Octets.toText o)).toOption.map (·.1)
  match input, m.channel? 1 with
  | some (.file place position ..), some (_, .file output ..) =>
    place == output && decide (position < (m.octetsAt place).length)
  | _, _ => false

/-- Prints files one behind the other. -/
def cat (args : List Octets) : Exec Unit := do
  match catWords args with
  | .error o => misused o
  | .ok none => setStatus 0
  | .ok (some (options, operands)) => do
    setStatus 0
    let has := fun c => options.contains c
    let isPlain := (options.filter (· ≠ 'u')).isEmpty
    let shown := fun (o : Octets) => if isPlain then o else catLines has 0 false (Text.linesWithEnds o)
    let mut all := []
    let mut printed := 0
    for o in orStream operands do
      if isOutputFile (← get) o then complain (quote o ++ ": input file is output file".toList)
      else
        all := all ++ ((← contents quote o).getD [])
        -- A carriage return at the end may still turn out to belong to the end of a line.
        let out := shown (if has 'E' && all.getLast? == some '\r' then all.dropLast else all)
        put 1 (out.drop printed)
        printed := out.length
    put 1 ((shown all).drop printed)

/-! ## Programs about lines -/

/-- Lines of files, with a header for each where there are several. -/
def partOf (f : (Char → Option Octets) → Octets → Octets)
    (options : Char → Option Octets) (operands : List Octets) : Exec Unit := do
  let operands := orStream operands
  let describe := fun o => "cannot open ".toList ++ alwaysQuote o ++ " for reading".toList
  let mut isFirst := true
  for o in operands do
    if let some c ← contents describe o then
      if 1 < operands.length then
        let title := if o = ['-'] then "standard input".toList else o
        put 1 ((if isFirst then [] else ['\n']) ++ "==> ".toList ++ title ++ " <==\n".toList)
      isFirst := false
      put 1 (f options c)

/-- The first lines or octets. -/
def headOf (options : Char → Option Octets) (o : Octets) : Octets :=
  match options 'c' with
  | some n => o.take (Octets.toNat n)
  | none => ((Text.linesWithEnds o).take (((options 'n').map Octets.toNat).getD 10)).flatten

/-- The last items of a row, or those from a number on. -/
def lastOf {α : Type} (n : Octets) (xs : List α) : List α :=
  match n with
  | '+' :: n => xs.drop (Octets.toNat n - 1)
  | n => xs.drop (xs.length - Octets.toNat n)

/-- The last lines or octets, or those from a number on. -/
def tailOf (options : Char → Option Octets) (o : Octets) : Octets :=
  match options 'c' with
  | some n => lastOf n o
  | none => (lastOf ((options 'n').getD "10".toList) (Text.linesWithEnds o)).flatten

def sort (options : Char → Option Octets) (operands : List Octets) : Exec Unit := do
  let all ← (orStream operands).mapM (contents fun o => "cannot read: ".toList ++ quote o)
  let lines := (all.map fun c => Octets.lines (c.getD [])).flatten
  let value := fun (l : Octets) => ((Arithmetic.leading? (some 10) l).map (·.1)).getD 0
  let notAfter := fun (a b : Octets) =>
    if (options 'n').isSome && value a != value b then decide (value a < value b) else decide (¬ b < a)
  let sorted := lines.mergeSort fun a b => if (options 'r').isSome then notAfter b a else notAfter a b
  let sorted := if (options 'u').isSome then sorted.eraseReps else sorted
  put 1 (sorted.flatMap (· ++ ['\n']))

/-- Counts lines, words and octets. -/
def wc (options : Char → Option Octets) (operands : List Octets) : Exec Unit := do
  let asked := ['l', 'w', 'c'].filter fun c => (options c).isSome
  let asked := if asked.isEmpty then ['l', 'w', 'c'] else asked
  let numbers := fun (o : Octets) => asked.map fun c =>
    if c = 'l' then o.count '\n' else if c = 'w' then (Text.splitWhitespace o).length else o.length
  let row := fun (width : Nat) (ns : List Nat) (name : Octets) =>
    let cells := ns.map fun n => (List.replicate (width - (Text.ofNat n).length) ' ') ++ Text.ofNat n
    [' '].intercalate (cells ++ if name.isEmpty then [] else [name]) ++ ['\n']
  match operands with
  | [] => do
    let c := ((← contents quote ['-'])).getD []
    put 1 (row (if asked.length = 1 then 1 else 7) (numbers c) [])
  | operands => do
    let found ← operands.mapM fun o => return (o, ← contents quote o)
    let all := found.filterMap fun (o, c) => c.map fun c => (o, c)
    let total := numbers (all.flatMap (·.2))
    let sizes := (all.flatMap (·.2)).length
    let width := if asked.length = 1 ∧ operands.length = 1 then 1 else (Text.ofNat sizes).length
    all.forM fun (o, c) => put 1 (row width (numbers c) o)
    if 1 < operands.length then put 1 (row width total "total".toList)

/-! ## Programs about files -/

/-- Does something to the files of the machine for each operand, and complains where that fails. -/
def onFiles (words : Octets) (f : Workspace → Path → Except FileError Workspace)
    (operands : List Octets) : Exec Unit :=
  operands.forM fun o => do
    match f (← get).workspace (Octets.toText o) with
    | .ok w => modify fun m => m.withFiles w
    | .error e => complain (words ++ alwaysQuote o ++ ": ".toList ++ reason e)

/-- Makes directories. -/
def mkdir (options : Char → Option Octets) (operands : List Octets) : Exec Unit :=
  onFiles "cannot create directory ".toList (fun w p =>
    if (options 'p').isSome then
      let (w, made) := w.makeDirs p
      made.map fun _ => w
    else w.makeDir p) operands

/-- Removes files, and directories where that is asked for. -/
def rm (options : Char → Option Octets) (operands : List Octets) : Exec Unit :=
  let has := fun c => (options c).isSome
  onFiles "cannot remove ".toList (fun w p =>
    match w.locate p with
    | .error e => if has 'f' && e = .notFound then .ok w else .error e
    | .ok place =>
      if w.root.isDirAt place && !(has 'r' || has 'R') then .error .isADirectory
      else .ok { w with root := w.root.remove place }) operands

/-- Makes files that are not there. -/
def touch (_ : Char → Option Octets) (operands : List Octets) : Exec Unit :=
  onFiles "cannot touch ".toList
    (fun w p => if w.pathExists p then .ok w else w.write p ⟨#[]⟩) operands

/-- Copies or moves files to another name or into a directory. -/
def transfer (moves : Bool) (options : Char → Option Octets) (operands : List Octets) : Exec Unit := do
  let target := Octets.toText ((operands.getLast?).getD [])
  operands.dropLast.forM fun o => do
    let w := (← get).workspace
    let path := Octets.toText o
    let goal := if w.isDir target then Path.join target ((Path.fileName? path).getD []) else target
    match w.locate path with
    | .error e => complain ("cannot stat ".toList ++ alwaysQuote o ++ ": ".toList ++ reason e)
    | .ok place =>
      match w.root.lookup? place with
      | some (.file content) =>
        match w.write goal content with
        | .ok w =>
          let same := (w.locate goal).toOption == some place
          let w := if moves && !same then { w with root := w.root.remove place } else w
          modify fun m => m.withFiles w
        | .error e =>
          let words := "cannot create regular file ".toList
          complain (words ++ alwaysQuote (Octets.ofText goal) ++ ": ".toList ++ reason e)
      | some (.dir entries) =>
        if moves || (options 'r').isSome || (options 'R').isSome || (options 'a').isSome then
          match w.newPlace .alreadyExists goal with
          | .ok new =>
            let w := if moves then { w with root := w.root.remove place } else w
            modify fun m => m.withFiles (w.put new (.dir entries))
          | .error e => complain ("cannot stat ".toList ++ alwaysQuote o ++ ": ".toList ++ reason e)
        else complain ("-r not specified; omitting directory ".toList ++ alwaysQuote o)
      | none => pure ()

/-- Lists directories. -/
def ls (options : Char → Option Octets) (operands : List Octets) : Exec Unit := do
  let w := (← get).workspace
  let names := fun (d : Dir) =>
    let all := (Field.entryNames d).map Octets.ofText
    let all := all.filter fun n => n.head? != some '.' || (options 'a').isSome || (options 'A').isSome
    let all := if (options 'a').isSome then ['.'] :: ['.', '.'] :: all else all
    (all.mergeSort fun a b => decide (¬ b < a)).flatMap (· ++ ['\n'])
  let found := (if operands.isEmpty then [['.']] else operands).mergeSort fun a b => decide (¬ b < a)
  let nodes ← found.filterMapM fun o => do
    match w.node (Octets.toText o) with
    | .ok n => return some (o, n)
    | .error e => do
      complain ("cannot access ".toList ++ alwaysQuote o ++ ": ".toList ++ reason e)
      setStatus 2
      return none
  let files := nodes.filterMap fun (o, n) =>
    match n with
    | .file _ => some (o ++ ['\n'])
    | .dir _ => none
  let dirs := nodes.filterMap fun (o, n) =>
    match n with
    | .file _ => none
    | .dir d => some (if operands.length ≤ 1 then names d else o ++ ":\n".toList ++ names d)
  put 1 (['\n'].intercalate ((if files.isEmpty then [] else [files.flatten]) ++ dirs))

/-- Prints the stream, and writes it to files as well. -/
def tee (options : Char → Option Octets) (operands : List Octets) : Exec Unit := do
  let all := (← contents quote ['-']).getD []
  put 1 all
  onFiles [] (fun w p =>
    let old := if (options 'a').isSome then ((w.read p).toOption.map (·.toList)).getD [] else []
    w.write p ⟨(old ++ Octets.toBytes all).toArray⟩) operands

/-! ## Programs about words -/

/-- The last part of a path without an ending. -/
def basename (_ : Char → Option Octets) (operands : List Octets) : Exec Unit := do
  let path := Text.dropEndWhile (· == '/') (operands.headD [])
  let last := if path.isEmpty then ['/'] else ((Text.splitOn ['/'] path).getLast?).getD []
  let ending := (operands.drop 1).headD []
  let cut := Text.endsWith ending last && ending.length < last.length
  put 1 ((if cut then last.take (last.length - ending.length) else last) ++ ['\n'])

/-- The path before the last part. -/
def dirname (_ : Char → Option Octets) (operands : List Octets) : Exec Unit :=
  operands.forM fun o => do
    let path := Text.dropEndWhile (· == '/') o
    let before := match Text.breakAtLast? '/' path with
      | none => if path.isEmpty && !o.isEmpty then ['/'] else ['.']
      | some (before, _) =>
        let before := Text.dropEndWhile (· == '/') before
        if before.isEmpty then ['/'] else before
    put 1 (before ++ ['\n'])

/-- Prints the whole numbers between two. -/
def seq (_ : Char → Option Octets) (operands : List Octets) : Exec Unit := do
  let numbers := operands.map fun o => ((Arithmetic.leading? (some 10) o).map (·.1)).getD 0
  let (first, step, last) := match numbers with
    | [last] => (1, 1, last)
    | [first, last] => (first, 1, last)
    | first :: step :: last :: _ => (first, step, last)
    | [] => (1, 1, 0)
  let count := if step = 0 then 0 else ((last - first) / step + 1).toNat
  put 1 ((List.range count).flatMap fun (i : Nat) => Octets.ofInt (first + step * (i : Int)) ++ ['\n'])

/-- Prints words as they are. -/
def echo (args : List Octets) : Exec Unit := do
  setStatus 0
  match args with
  | ['-', 'n'] :: args => put 1 ([' '].intercalate args)
  | args => put 1 ([' '].intercalate args ++ ['\n'])

/-- The programs by their names. -/
def table : List (Octets × (List Octets → Exec Unit)) :=
  [("cat", cat), ("true", fun _ => setStatus 0), ("false", fun _ => setStatus 1), ("echo", echo),
    ("pwd", Builtin.pwd), ("head", withWords "" "nc" (partOf headOf)),
    ("tail", withWords "" "nc" (partOf tailOf)), ("sort", withWords "nru" "" sort),
    ("wc", withWords "lwc" "" wc), ("mkdir", withWords "p" "" mkdir),
    ("rm", withWords "rRf" "" rm), ("touch", withWords "" "" touch),
    ("cp", withWords "rRaf" "" (transfer false)),
    ("mv", withWords "f" "" (transfer true)), ("ls", withWords "1aA" "" ls),
    ("tee", withWords "a" "" tee), ("basename", withWords "" "" basename),
    ("dirname", withWords "" "" dirname), ("seq", withWords "" "" seq),
    ("sleep", fun _ => setStatus 0)].map fun (name, f) =>
      (name.toList, running (if name = "cat" then "standard output" else "write error") f)

end Program
end Upkeep.Shell
