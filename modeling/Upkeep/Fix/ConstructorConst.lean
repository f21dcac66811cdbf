import Upkeep.Fix.Outcome
import Upkeep.Text.Quoted
import Upkeep.Text.Word

/-!
# Removing `const` before chosen constructors

Calls of some constructors often hold what is no constant. `const` and the blanks behind it are
removed wherever a call of a chosen constructor follows, also over a line break; `const` before any
other name stays, also before one that only starts like a chosen one.
-/

namespace Upkeep.ConstructorConst

def defaultNames : List Text := ["Text".toList, "Icon".toList]

/-- Why a choice of constructors is refused. -/
inductive NameError where
  | noNames
  | notAName (t : Text)
  deriving DecidableEq, Repr

def NameError.message : NameError → Text
  | noNames => "at least one constructor name is required".toList
  | notAName t => "not a constructor name: ".toList ++ Text.quoted t

/-- ASCII letters, digits, underscores and dots, of which a letter or underscore comes first. -/
def isName : Text → Bool
  | [] => false
  | c :: t => (c.isAlpha || c == '_') && t.all fun d => d.isAlphanum || d == '_' || d == '.'

/-- The chosen constructors, trimmed. The first that is no name is refused. -/
def names? (given : List Text) : Except NameError (List Text) :=
  if given = [] then .error .noNames
  else given.mapM fun t =>
    let name := Text.trim t
    if isName name then .ok name else .error (.notAName name)

/-- Whether `t` starts with a call of one of the constructors. -/
def startsCall (names : List Text) (t : Text) : Bool :=
  names.any fun name =>
    match Text.after? name t with
    | some rest => Text.startsWith ['('] (Text.trimStart rest)
    | none => false

/-- The number of characters to remove at the start of `t` behind the character `before?`: those of
the keyword and the blanks behind it, if a call of a chosen constructor follows, else none. -/
def removable (names : List Text) (before? : Option Char) (t : Text) : Nat :=
  match Text.after? "const".toList t with
  | none => 0
  | some rest =>
    let blanks := Text.leadingBlanks rest
    if !before?.any Text.isWordChar && !blanks.isEmpty && startsCall names (Text.trimStart rest) then
      5 + blanks.length
    else 0

/-- The rest of a text behind the character `before?` without the keywords, of which `skip` more
characters are to be removed, and the number of keywords that start in it. -/
def strip (names : List Text) (before? : Option Char) : Nat → Text → Text × Nat
  | _, [] => ([], 0)
  | skip + 1, c :: t => strip names (some c) skip t
  | 0, c :: t =>
    match removable names before? (c :: t) with
    | 0 =>
      let (kept, n) := strip names (some c) 0 t
      (c :: kept, n)
    | more + 1 =>
      let (kept, n) := strip names (some c) more t
      (kept, n + 1)

/-- The text without `const` before calls of the constructors. -/
def fix (names : List Text) (t : Text) : Outcome :=
  let (kept, n) := strip names none 0 t
  ⟨kept, n, []⟩

end Upkeep.ConstructorConst
