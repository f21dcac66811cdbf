import Upkeep.Shell.Octets

/-!
# Jobs and signals

What runs in the background is a job. A job has the least number that is free; the number is free again when the
job has been waited for. The newest job is the current one.

* `Jobs.add`, `Jobs.pass`: the jobs behind a new process in the background, or in the foreground.
* `Jobs.meant jobs spec`: the job that a word means.
* `Job.line`: how a job is listed.
* `Signal.number? least o`: the number of the signal that a word names. Signals, which processes send each other, have
  numbers and names; the signal zero stands for the end of a process.
-/

namespace Upkeep.Shell

/-- A job that is done. -/
structure Job where
  slot : Nat
  /-- The number of its process. -/
  number : Nat
  status : Nat
  isWaited : Bool
  deriving DecidableEq

abbrev Jobs := List Job

namespace Jobs

/-- The least number that no job needs. -/
def freeSlot (jobs : Jobs) : Nat :=
  let isFree := fun (slot : Nat) => jobs.all fun j => j.slot != slot || j.isWaited
  (((List.range (jobs.length + 1)).map (· + 1)).find? isFree).getD 1

/-- The jobs behind a process in the foreground, which takes a number and gives it back. -/
def pass (jobs : Jobs) : Jobs := jobs.filter fun j => j.slot != jobs.freeSlot

def add (jobs : Jobs) (number status : Nat) : Jobs := ⟨jobs.freeSlot, number, status, false⟩ :: jobs.pass

def wait (jobs : Jobs) (isMeant : Job → Bool) : Jobs :=
  jobs.map fun j => { j with isWaited := j.isWaited || isMeant j }

/-- The job that a word means, or what is said if there is none. -/
def meant (jobs : Jobs) (spec : Octets) : Except Octets Job :=
  let orElse := fun (words : Octets) (found : Option Job) =>
    match found with
    | some j => Except.ok j
    | none => .error words
  let missing := "No such job: ".toList ++ spec
  match spec with
  | ['%'] | ['%', '%'] | ['%', '+'] => orElse "No current job".toList jobs.head?
  | ['%', '-'] => orElse "No previous job".toList jobs[1]?
  | ['%', '?'] =>
    if jobs.length ≤ 1 then orElse missing jobs.head? else .error (spec ++ ": ambiguous".toList)
  | '%' :: digits =>
    if Octets.isNumber digits then orElse missing (List.find? (fun j => j.slot == Octets.toNat digits) jobs)
    else .error missing
  | _ => .error missing

end Jobs

/-- How a job is listed among others, with the number of its process if that is asked for. -/
def Job.line (jobs : Jobs) (withNumber : Bool) (j : Job) : Octets :=
  let sign := if jobs.head? = some j then '+' else if jobs[1]? = some j then '-' else ' '
  let number := if withNumber then Text.ofNat j.number ++ [' '] else []
  let done := if j.status = 0 then "Done".toList else "Done(".toList ++ Text.ofNat j.status ++ [')']
  let shown := '[' :: Text.ofNat j.slot ++ "] ".toList ++ sign :: ' ' :: number ++ done
  shown ++ List.replicate (33 - shown.length) ' ' ++ ['\n']

/-! ## Signals -/

namespace Signal

/-- The names of the signals by their numbers. Those that have no name of their own have their number. -/
def names : List String :=
  ["EXIT", "HUP", "INT", "QUIT", "ILL", "TRAP", "ABRT", "BUS", "FPE", "KILL", "USR1", "SEGV", "USR2", "PIPE",
    "ALRM", "TERM", "16", "CHLD", "CONT", "STOP", "TSTP", "TTIN", "TTOU", "URG", "XCPU", "XFSZ", "VTALRM",
    "PROF", "WINCH", "IO", "PWR", "SYS", "32", "33", "RTMIN"] ++
    (List.range 15).map (fun i => "RTMIN+" ++ (i + 1).repr) ++
    (List.range 14).map (fun i => "RTMAX-" ++ (14 - i).repr) ++ ["RTMAX"]

def name (n : Nat) : Octets := ((names[n]?).getD "").toList

def number? (least : Nat) (o : Octets) : Option Nat :=
  if Octets.isNumber o then (if Octets.toNat o < names.length then some (Octets.toNat o) else none)
  else ((names.drop least).findIdx? fun n => n.toList == o.map Char.toUpper).map (· + least)

/-- The signal that is sent when none is named. -/
def usual : Nat := 15

/-- The signals that do nothing to a process that does not ask for them. -/
def harmless : List Nat := [17, 18, 19, 20, 21, 22, 23, 28]

end Signal
end Upkeep.Shell
