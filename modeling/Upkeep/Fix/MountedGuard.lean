import Upkeep.Fix.Outcome

/-!
# Guarding build contexts

A build context that is used after a wait may belong to a widget that is gone. For a use on a line the
nearest line above it that waits is looked up, and behind the statement that waits a guard is
inserted, indented as the waiting line. A line in between that mentions `mounted` is a guard already.
-/

namespace Upkeep.MountedGuard

def waitLookback : Nat := 20

/-- How many lines above a use the head of its class is looked for. -/
def classLookback : Nat := 50

def stateGuard : Text := "if (!mounted) return;".toList

def contextGuard : Text := "if (!context.mounted) return;".toList

/-- Whether the line at `i` contains `part`. -/
def mentions (b : Buffer) (part : Text) (i : Nat) : Bool :=
  (b.content? i).any (Text.contains part)

/-- The last line before `use` and at most `waitLookback` lines above it that waits. -/
def wait? (b : Buffer) (use : Nat) : Option Nat :=
  let first := use - waitLookback
  (List.range' first (use - first)).reverse.find? (mentions b "await ".toList)

def endsStatement (line : Text) : Bool := Text.endsWith [';'] (Text.trimEnd line)

/-- The first line from `i` on that ends a statement. -/
def statementEnd? (b : Buffer) (i : Nat) : Option Nat :=
  ((b.contents.drop i).findIdx? endsStatement).map (i + ·)

/-- Whether a line from `first` to `last` is a guard. -/
def isGuarded (b : Buffer) (first last : Nat) : Bool :=
  (List.range' first (last + 1 - first)).any (mentions b "mounted".toList)

def inStateClass (b : Buffer) (use : Nat) : Bool :=
  let first := use - classLookback
  (List.range' first (use - first)).any fun i =>
    mentions b "class ".toList i && mentions b "State<".toList i

def guardFor (b : Buffer) (use : Nat) : Text :=
  if inStateClass b use then stateGuard else contextGuard

/-- The guard inserted for one finding. -/
def step (b : Buffer) (f : Finding) : Edit :=
  let use := f.lineIndex
  if b.length ≤ use then .left "line out of range".toList
  else match wait? b use with
    | none => .left ("no await within ".toList ++ Text.ofNat waitLookback ++ " lines".toList)
    | some wait =>
      if isGuarded b (wait + 1) use then .left "already guarded".toList
      else
        let inside := Edit.left "context used inside the awaited statement".toList
        match statementEnd? b wait with
        | none => inside
        | some stop =>
          if stop < use then .edited (b.insert (stop + 1) (b.indent wait ++ guardFor b use))
          else inside

/-- The text with the guards that the findings ask for. -/
def fix (t : Text) (fs : List Finding) : Outcome := Edit.run step t fs

end Upkeep.MountedGuard
