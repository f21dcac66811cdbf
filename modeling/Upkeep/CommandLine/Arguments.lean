import Upkeep.Text.Basic

/-!
# Arguments of a command line

The arguments of a command are read from left to right against the options that it has. An option is
`--name`, and its value is the next argument or stands behind an equals sign. `--` ends the options.

* `Arguments.read?`: what was given, and the rest from the name of a command on.
* Only lists of names may be given twice (`Given.add_of_given`), and no value is taken from an argument
  that looks like an option.
-/

namespace Upkeep.CommandLine

/-- What an option takes. -/
inductive Takes where
  | nothing
  | path
  | pathOrNothing
  /-- Names with commas between them. The option may be given again. -/
  | names
  deriving DecidableEq, Repr

/-- An option of a command. -/
structure OptionRule where
  name : Text
  takes : Takes
  deriving DecidableEq, Repr

/-- Why the arguments ask for no work. -/
inductive Stop where
  | misuse
  | help
  | version
  deriving DecidableEq, Repr

abbrev Given := List (Text × List Text)

namespace Given

def has (g : Given) (name : String) : Bool := (g.lookup name.toList).isSome

def values? (g : Given) (name : String) : Option (List Text) := g.lookup name.toList

def value? (g : Given) (name : String) : Option Text := (g.values? name).bind List.head?

/-- What was given, with one more option. Paths are not empty, and only names may come twice. -/
def add (g : Given) (o : OptionRule) (value : Option Text) : Except Stop Given :=
  match o.takes, value with
  | .names, some t =>
    let old := (g.lookup o.name).getD []
    .ok ((o.name, old ++ Text.splitOn [','] t) :: g)
  | .names, none => .error .misuse
  | _, value =>
    if (g.lookup o.name).isSome || value == some [] then .error .misuse
    else .ok ((o.name, value.toList) :: g)

theorem add_of_given {g : Given} {o : OptionRule} {value : Option Text} (hn : o.takes ≠ .names)
    (h : (g.lookup o.name).isSome = true) : g.add o value = .error .misuse := by
  unfold add
  split
  · next h' => exact absurd h' hn
  · next h' => exact absurd h' hn
  · simp [h]

end Given

namespace Arguments

/-- What was read so far, and the option that waits for its value. -/
structure State where
  given : Given
  waiting : Option OptionRule

/-- The state in which nothing was read. -/
def State.start : State := ⟨[], none⟩

/-- What was given when the option that waits gets no value. -/
def State.settle (s : State) : Except Stop Given :=
  match s.waiting with
  | none => .ok s.given
  | some o => if o.takes = .pathOrNothing then s.given.add o none else .error .misuse

/-- Whether an argument stands for itself. A single dash does. -/
def isPlain (arg : Text) : Bool := !Text.startsWith ['-'] arg || arg == ['-']

/-- The name of a long option and the value behind its equals sign. -/
def longName? (arg : Text) : Option (Text × Option Text) :=
  (Text.after? ['-', '-'] arg).map fun body =>
    match Text.breakOn? ['='] body with
    | none => (body, none)
    | some (name, value) => (name, some value)

/-- What a long option asks for that is no option of the command. Only the program has a version. -/
def longStop (isProgram : Bool) (name : Text) : Stop :=
  if name = "help".toList then .help
  else if isProgram ∧ name = "version".toList then .version
  else .misuse

def shortStop (isProgram : Bool) (letter : Char) : Stop :=
  if letter = 'h' then .help
  else if isProgram ∧ letter = 'V' then .version
  else .misuse

/-- The state behind an argument that is an option. -/
def option (rules : List OptionRule) (isProgram : Bool) (given : Given) (arg : Text) :
    Except Stop State :=
  match longName? arg with
  | none => .error (shortStop isProgram ((arg.drop 1).headD '-'))
  | some (name, value) =>
    match rules.find? (·.name == name), value with
    | none, none => .error (longStop isProgram name)
    | none, some _ => .error .misuse
    | some o, some v =>
      if o.takes = .nothing then .error .misuse
      else (given.add o (some v)).map fun g => ⟨g, none⟩
    | some o, none =>
      if o.takes = .nothing then (given.add o none).map fun g => ⟨g, none⟩
      else .ok ⟨given, some o⟩

/-- The options at the start of some arguments. The program ends them with the name of a command, which
comes back with what follows it; a command has no arguments but options. -/
def read? (rules : List OptionRule) (isProgram : Bool) :
    State → List Text → Except Stop (Given × List Text)
  | s, [] => s.settle.map fun g => (g, [])
  | s, arg :: rest =>
    if isPlain arg then
      match s.waiting with
      | some o => do read? rules isProgram ⟨← s.given.add o (some arg), none⟩ rest
      | none => if isProgram then .ok (s.given, arg :: rest) else .error .misuse
    else do
      let given ← s.settle
      if arg = ['-', '-'] then if rest = [] then .ok (given, []) else .error .misuse
      else read? rules isProgram (← option rules isProgram given arg) rest

end Arguments
end Upkeep.CommandLine
