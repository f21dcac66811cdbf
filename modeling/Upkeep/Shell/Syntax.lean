import Upkeep.Shell.Octets

/-!
# The language of shell scripts

A script is a row of commands. A command is a row of words with redirections, or is made of other commands:
a pipeline, a list, a choice, a loop, a function. A word is made of parts: literal octets, and what
stands for octets that are only known when the command runs.
-/

namespace Upkeep.Shell

/-- What is done with the value of a parameter. Where a flag says so, an empty value is taken for none. -/
inductive Use where
  | value
  | length
  | valueOr (emptyToo : Bool)
  | assignOr (emptyToo : Bool)
  | failOr (emptyToo : Bool)
  | wordIf (emptyToo : Bool)
  | dropEnd (longest : Bool)
  | dropStart (longest : Bool)
  /-- A use that the language does not have. -/
  | unknown
  deriving DecidableEq

/-- What a redirection makes of a stream. -/
inductive RedirectKind where
  | input
  | output
  /-- Output to a file that may be there even if files are to be kept. -/
  | replace
  | append
  | both
  | copy
  /-- The text behind the command, by its number among such texts. -/
  | here (number : Nat)
  deriving DecidableEq

mutual

/-- A part of a word. -/
inductive Part where
  | literal (isQuoted : Bool) (octets : Octets)
  | parameter (isQuoted : Bool) (name : Octets) (use : Use) (word : List Part)
  /-- What a script prints. -/
  | output (isQuoted : Bool) (script : Command)
  /-- The value of an arithmetic expression. -/
  | number (isQuoted : Bool) (expression : List Part)

/-- The redirection of a stream. -/
inductive Redirect where
  | mk (stream : Nat) (kind : RedirectKind) (target : List Part)

/-- A command. -/
inductive Command where
  | simple (line : Nat) (settings : List (Octets × List Part)) (words : List (List Part))
    (redirects : List Redirect)
  | pipeline (commands : List Command)
  | negation (c : Command)
  | both (first second : Command)
  | either (first second : Command)
  | sequence (commands : List Command)
  | background (c : Command)
  | subshell (line : Nat) (body : Command) (redirects : List Redirect)
  | redirected (line : Nat) (body : Command) (redirects : List Redirect)
  | choice (test yes no : Command)
  | loop (endsOnSuccess : Bool) (test body : Command)
  | each (line : Nat) (name : Octets) (words : List (List Part)) (body : Command)
  | select (line : Nat) (subject : List Part) (clauses : List (List (List Part) × Command))
  | define (line : Nat) (name : Octets) (body : Command)

end

abbrev Word := List Part

def Command.nothing : Command := .sequence []

end Upkeep.Shell
