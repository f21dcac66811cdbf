import Upkeep.Shell.Job
import Upkeep.Shell.Syntax
import Upkeep.Workspace

/-!
# What scripts run on

A machine holds the files of a workspace, the channels that streams lead to, and the process that runs.
A process has its own directory, variables and streams; a part of a script that runs by itself gets a
copy of its process, while files and channels are shared by all.

A script may also look at directories and files that every system has.

* `Surroundings.around root`: a tree of files with what every system has.
* `Machine.write`, `Machine.readAll`, `Machine.readLine`: streams by their numbers.
* `Machine.openFile`: a channel to a file.
* `Machine.value?`, `Machine.assign`: variables and the other parameters.
-/

namespace Upkeep.Shell

/-! ## What is around a workspace -/

namespace Surroundings

def place (path : String) : Place := (Text.splitOn ['/'] path.toList).filter (· ≠ [])

def dirs : List String :=
  ["/bin", "/boot", "/dev", "/etc", "/home", "/lib", "/media", "/mnt", "/opt", "/proc", "/root", "/run", "/sbin",
    "/srv", "/sys", "/tmp", "/usr", "/usr/bin", "/usr/include", "/usr/lib", "/usr/local", "/usr/local/bin",
    "/usr/local/lib", "/usr/sbin", "/usr/share", "/usr/src", "/var", "/var/cache", "/var/lib", "/var/log",
    "/var/spool", "/var/tmp"]

def files : List String := ["/etc/group", "/etc/hostname", "/etc/hosts", "/etc/passwd"]

def programDirs : List String := ["/usr/bin", "/bin"]

/-- A tree of files with what every system has and some programs. What is there stays. -/
def around (programs : List Octets) (root : Dir) : Dir :=
  let withNew := fun (root : Dir) (p : Place) (n : Node) =>
    if (root.lookup? p).isSome then root else root.put p n
  let root := dirs.foldl (fun root p => withNew root (place p) (.dir .empty)) root
  let root := files.foldl (fun root p => withNew root (place p) (.file ⟨#[10]⟩)) root
  programDirs.foldl (fun root d =>
    programs.foldl (fun root n => withNew root (place d ++ [n]) (.file ⟨#[127]⟩)) root) root

def devices : List Octets :=
  ["/dev/null", "/dev/zero", "/dev/full", "/dev/random", "/dev/urandom", "/dev/tty"].map (·.toList)

def isProgram (p : Place) : Bool := programDirs.any fun d => place d == p.dropLast

/-- The home directories of the users that every system has. -/
def homes : List (Octets × Octets) :=
  [("root", "/root"), ("daemon", "/usr/sbin"), ("bin", "/bin"), ("sys", "/dev"), ("sync", "/bin"),
    ("games", "/usr/games"), ("man", "/var/cache/man"), ("lp", "/var/spool/lpd"), ("mail", "/var/mail"),
    ("news", "/var/spool/news"), ("uucp", "/var/spool/uucp"), ("proxy", "/bin"), ("www-data", "/var/www"),
    ("backup", "/var/backups"), ("list", "/var/list"), ("irc", "/run/ircd"), ("_apt", "/nonexistent"),
    ("nobody", "/nonexistent")].map fun (a, b) => (a.toList, b.toList)

end Surroundings

/-! ## Machines -/

/-- Where a stream leads. -/
inductive Channel where
  /-- What is written is collected, the newest piece in front, up to some number of octets if there is a bound. -/
  | sink (pieces : List Octets) (room : Option Nat)
  /-- What is there to be read. There may be more, which nobody has made yet. -/
  | source (rest : Octets) (isCut : Bool)
  | file (place : Place) (position : Nat) (isAppending mayRead mayWrite : Bool)
  | directory
  /-- Nothing can be read, and what is written is gone. -/
  | void
  /-- Nothing can be written. -/
  | full

/-- A variable. One that is only marked has no value. -/
structure Variable where
  value : Option Octets
  isExported : Bool
  isFixed : Bool

/-- Something of a process that a function has made its own, as it was before. -/
inductive Saved where
  | binding (name : Octets) (before : Option Variable)
  | options (letters : List Char)

/-- A process. -/
structure Process where
  here : Place
  /-- The name of the script. -/
  name : Octets
  parameters : List Octets
  bindings : List (Octets × Variable)
  functions : List (Octets × Nat × Command)
  /-- The texts behind commands, by their numbers. -/
  texts : List (Nat × Word)
  /-- The letters of the options that are set. -/
  options : List Char
  /-- The channels of the streams, by the numbers of both. -/
  streams : List (Nat × Nat)
  /-- The number that the next text behind a command gets. -/
  nextText : Nat
  line : Nat
  /-- The line up to which the script has been read. -/
  readLine : Nat
  loopDepth : Nat
  /-- What the functions that run have made their own. -/
  saved : List (List Saved)
  /-- The programs that have been found, with their directories, and whether they have to be found again. -/
  found : List (Octets × Octets × Bool)
  /-- What runs at signals, by their numbers. The signal zero is the end of the process. -/
  traps : List (Nat × Octets)
  aliases : List (Octets × Octets)
  /-- The rights that new files do not get. -/
  mask : Nat
  /-- The jobs in the background. -/
  jobs : Jobs
  lastJob : Option Nat
  /-- How far the options among the parameters have been looked at: the number of the next one, and the place
  in the one before it. -/
  optionPlace : Nat × Option Nat
  /-- How many processes the shell has started to get to this one. -/
  depth : Nat
  status : Nat
  /-- The status of the last part of a word that ran a script. -/
  partStatus : Nat
  /-- The builtin command or the program that runs. -/
  command : Option Octets
  /-- Whether something could not be written to the stream of output. -/
  hasLost : Bool

/-- What scripts run on. -/
structure Machine where
  root : Dir
  channels : List (Nat × Channel)
  nextChannel : Nat
  process : Process
  /-- The number that the next job in the background gets. -/
  nextJob : Nat
  /-- The signals that the shell has got and not yet looked at. -/
  signals : List Nat
  /-- Whether something asked for more than has been made to be read. -/
  isStarved : Bool

/-- How a command is left before its end. -/
inductive Leave where
  | breakLoops (count : Nat)
  | nextRound (count : Nat)
  | endFunction
  | endProcess
  /-- Something is wrong, which ends the process unless it stays within a builtin command. -/
  | refused
  /-- Nobody reads what is written. -/
  | unread
  deriving DecidableEq

abbrev Exec := ExceptT Leave (StateM Machine)

namespace Exec

def onProcess (f : Process → Process) : Exec Unit := modify fun m => { m with process := f m.process }

def ask {α : Type} (f : Process → α) : Exec α := return f (← get).process

def setStatus (n : Nat) : Exec Unit := onProcess fun p => { p with status := n }

/-- What runs without changing the machine. -/
def leave {α : Type} (l : Leave) : Exec α := throw l

/-- How something ends, with the machine behind it. -/
def attempt {α : Type} (x : Exec α) : Exec (Except Leave α) := fun m =>
  match x m with
  | (r, m) => (.ok r, m)

end Exec

namespace Machine

def workspace (m : Machine) : Workspace := ⟨m.root, m.process.here⟩

def withFiles (m : Machine) (w : Workspace) : Machine := { m with root := w.root }

def channel? (m : Machine) (stream : Nat) : Option (Nat × Channel) := do
  let id ← m.process.streams.lookup stream
  let c ← m.channels.lookup id
  some (id, c)

def setEntry {α β : Type} [BEq α] (k : α) (v : β) : List (α × β) → List (α × β)
  | [] => [(k, v)]
  | (j, u) :: rest => if j == k then (k, v) :: rest else (j, u) :: setEntry k v rest

def dropEntry {α β : Type} [BEq α] (k : α) (entries : List (α × β)) : List (α × β) :=
  entries.filter fun e => !(e.1 == k)

def setChannel (m : Machine) (id : Nat) (c : Channel) : Machine :=
  { m with channels := setEntry id c m.channels }

def newChannel (m : Machine) (c : Channel) : Nat × Machine :=
  (m.nextChannel,
    { m with channels := (m.nextChannel, c) :: m.channels, nextChannel := m.nextChannel + 1 })

def octetsAt (m : Machine) (place : Place) : Octets :=
  match m.root.lookup? place with
  | some (.file content) => Octets.ofBytes content.toList
  | _ => []

/-- Octets with others written over them from a position on. -/
def overwrite (old new : Octets) (position : Nat) : Octets :=
  let before := old.take position
  before ++ List.replicate (position - before.length) '\x00' ++ new ++ old.drop (position + new.length)

/-- Why nothing can be written to a stream. -/
inductive WriteFlaw where
  | closed
  | unread
  deriving DecidableEq

/-- The machine behind writing to a stream. -/
def write (m : Machine) (stream : Nat) (o : Octets) : Except WriteFlaw Machine :=
  match m.channel? stream with
  | some (_, .void) => .ok m
  | some (id, .sink pieces none) => .ok (m.setChannel id (.sink (o :: pieces) none))
  | some (id, .sink pieces (some room)) =>
    if room < o.length then .error .unread
    else .ok (m.setChannel id (.sink (o :: pieces) (some (room - o.length))))
  | some (id, .file place position isAppending mayRead true) =>
    let old := m.octetsAt place
    let start := if isAppending then old.length else position
    let content : ByteArray := ⟨(Octets.toBytes (overwrite old o start)).toArray⟩
    let m := { m with root := m.root.put place (.file content) }
    .ok (m.setChannel id (.file place (start + o.length) isAppending mayRead true))
  | _ => .error .closed

/-- Why nothing can be read from a stream. -/
inductive ReadFlaw where
  | directory
  | closed
  deriving DecidableEq

/-- All that can still be read from a stream. -/
def readAll (m : Machine) (stream : Nat) : Except ReadFlaw (Octets × Machine) :=
  match m.channel? stream with
  | some (_, .void) => .ok ([], m)
  | some (id, .source rest isCut) =>
    .ok (rest, { m.setChannel id (.source [] isCut) with isStarved := m.isStarved || isCut })
  | some (_, .directory) => .error .directory
  | some (id, .file place position isAppending true mayWrite) =>
    let all := m.octetsAt place
    .ok (all.drop position, m.setChannel id (.file place all.length isAppending true mayWrite))
  | _ => .error .closed

/-- The next line that can be read from a stream, with the line feed that ends it. -/
def readLine (m : Machine) (stream : Nat) : Except ReadFlaw (Octets × Machine) :=
  (m.readAll stream).map fun (all, _) =>
    let line := ((Text.linesWithEnds all).head?).getD []
    match m.channel? stream with
    | some (id, .source _ isCut) =>
      let isStarved := m.isStarved || isCut && line.getLast? != some '\n'
      (line, { m.setChannel id (.source (all.drop line.length) isCut) with isStarved })
    | some (id, .file place position isAppending mayRead mayWrite) =>
      (line, m.setChannel id (.file place (position + line.length) isAppending mayRead mayWrite))
    | _ => (line, m)

def collected (m : Machine) (id : Nat) : Octets :=
  match m.channels.lookup id with
  | some (.sink pieces _) => pieces.reverse.flatten
  | _ => []

/-! ## Files -/

/-- The paths that are no files, with what they lead to. -/
def devices : List (Path × Channel) :=
  [("/dev/null".toList, .void), ("/dev/full".toList, .full)]

def streamPaths : List (Path × Nat) :=
  [("/dev/stdin".toList, 0), ("/dev/stdout".toList, 1), ("/dev/stderr".toList, 2)]

/-- A channel to a file, opened by a kind of redirection. -/
def openFile (m : Machine) (kind : RedirectKind) (path : Path) : Except FileError (Channel × Machine) :=
  match devices.lookup path, (streamPaths.lookup path).bind m.channel? with
    | some c, _ => .ok (c, m)
    | none, some (_, c) => .ok (c, m)
    | none, none =>
      let w := m.workspace
      if kind = .input then
        (w.locate path).map fun place =>
          match m.root.lookup? place with
          | some (.file _) => (.file place 0 false true false, m)
          | _ => (.directory, m)
      else
        let isKept := kind = .output && m.process.options.contains 'C' && w.isFile path
        let keeps := kind ≠ .output && kind ≠ .replace && w.isFile path
        let opened :=
          if isKept then .error .alreadyExists else if keeps then .ok w else w.write path ⟨#[]⟩
        opened.bind fun w =>
          (w.locate path).map fun place =>
            (.file place 0 (kind = .append) (kind = .both) true, m.withFiles w)

/-! ## Parameters -/

def found? (m : Machine) (name : Octets) : Option Variable := m.process.bindings.lookup name

def value? (m : Machine) (name : Octets) : Option Octets := (m.found? name).bind (·.value)

def wordSigns (m : Machine) : Octets := (m.value? "IFS".toList).getD " \t\n".toList

/-- The machine in which a variable has a value, unless the variable is fixed. -/
def assign? (m : Machine) (name value : Octets) : Option Machine :=
  let old := m.found? name
  if (old.map (·.isFixed)).getD false then none
  else
    let exported := (old.map (·.isExported)).getD false || m.process.options.contains 'a'
    let v : Variable := ⟨some value, exported, false⟩
    some { m with process := { m.process with bindings := setEntry name v m.process.bindings } }

end Machine

namespace Exec

/-- Writes to a stream. It is marked when the stream of output cannot be written to. -/
def put (stream : Nat) (o : Octets) : Exec Unit := do
  match (← get).write stream o with
  | .ok m => set m
  | .error .unread => leave .unread
  | .error .closed => if stream = 1 && !o.isEmpty then onProcess fun p => { p with hasLost := true }

def childSignal : Nat := 17

/-- Notes that a process has ended which this one has started, if that is asked for. -/
def noteChild : Exec Unit :=
  modify fun m =>
    if m.process.depth = 0 && (m.process.traps.lookup childSignal).isSome && !m.signals.contains childSignal then
      { m with signals := m.signals ++ [childSignal] }
    else m

/-- The script, the line and the command that complaints start with. -/
def position : Exec Octets := do
  let p ← ask id
  return ([p.name, Text.ofNat p.line] ++ p.command.toList).flatMap (· ++ ": ".toList)

def complain (o : Octets) : Exec Unit := do put 2 ((← position) ++ o ++ ['\n'])

/-- Complains, which ends the process unless it stays within a builtin command. -/
def abort {α : Type} (o : Octets) : Exec α := do
  complain o
  setStatus 2
  leave .refused

/-- The variable that tells how far options have been looked at. -/
def optionIndex : Octets := "OPTIND".toList

/-- The variable that tells in which directories programs are. -/
def searchPath : Octets := "PATH".toList

/-- Gives a variable a value. -/
def assign (name value : Octets) : Exec Unit := do
  match (← get).assign? name value with
  | none => abort (name ++ ": is read only".toList)
  | some m => do
    set m
    if name = searchPath then onProcess fun p => { p with found := [] }
    if name = optionIndex then
      if !Octets.isNumber value then abort ("Illegal number: ".toList ++ value)
      onProcess fun p => { p with optionPlace := (max 1 (Octets.toNat value), none) }

end Exec
end Upkeep.Shell
