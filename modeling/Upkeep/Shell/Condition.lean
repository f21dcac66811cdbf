import Upkeep.Shell.Arithmetic
import Upkeep.Shell.Machine
import Upkeep.Workspace

/-!
# Conditions in scripts

What `test` decides: words about files, texts and numbers, which may be joined. A word in the place of an
operator is one only where it can be.

* `Condition.holds w args`: whether the condition that some words write holds in a workspace.
-/

namespace Upkeep.Shell.Condition

/-- What an operator does. -/
inductive Operator where
  | unary (c : Char)
  | binary (o : Octets)
  | both
  | either
  | negation
  | opening
  | closing
  deriving DecidableEq

def unaryLetters : List Char := "bcdefghknprstuwxzGLOS".toList

def binaryOperators : List Octets :=
  ["=", "!=", "<", ">", "-eq", "-ne", "-ge", "-gt", "-le", "-lt", "-nt", "-ot", "-ef"].map String.toList

def operator? (o : Octets) : Option Operator :=
  if binaryOperators.contains o then some (.binary o)
  else match o with
    | ['-', 'a'] => some .both
    | ['-', 'o'] => some .either
    | ['!'] => some .negation
    | ['('] => some .opening
    | [')'] => some .closing
    | ['-', c] => if unaryLetters.contains c then some (.unary c) else none
    | _ => none

/-- Whether a word is an operator between two words. -/
def isBinary (o : Octets) : Bool :=
  match operator? o with
  | some (.binary _) => true
  | _ => false

/-- The operator at the start of some words. A word that can only be an operand is none. -/
def operatorOf? (args : List Octets) : Option Operator :=
  match args with
  | [] => none
  | o :: rest =>
    match operator? o with
    | some (.unary c) =>
      match rest with
      | [] => none
      | [_] => some (.unary c)
      | second :: _ => if isBinary second then none else some (.unary c)
    | some .opening => if rest.isEmpty then none else some .opening
    | op => op

/-- The number that a word is. One for which 64 bits are too few is none. -/
def number (o : Octets) : Except Octets Int :=
  let size := Octets.toNat (o.filter Char.isDigit)
  let hasRoom := decide (size < Nat.pow 2 63) || size == Nat.pow 2 63 && o.contains '-'
  match Arithmetic.number? (some 10) false o with
  | some n => if hasRoom then .ok n else .error ("Illegal number: ".toList ++ o)
  | none => .error ("Illegal number: ".toList ++ o)

/-- Whether a unary operator holds of a word. -/
def unaryHolds (w : Workspace) (c : Char) (o : Octets) : Except Octets Bool :=
  let path := Octets.toText o
  if c = 'z' then .ok o.isEmpty
  else if c = 'n' then .ok (!o.isEmpty)
  else if c = 't' then (number o).map fun _ => false
  else if Surroundings.devices.contains o then .ok ("cerwGO".toList.contains c)
  else if c = 'f' then .ok (w.isFile path)
  else if c = 'd' then .ok (w.isDir path)
  else if c = 'x' then .ok (w.isDir path || (w.locate path).toOption.any Surroundings.isProgram)
  else if "erwGO".toList.contains c then .ok (w.pathExists path)
  else if c = 's' then
    .ok (match w.node path with
      | .ok (.file content) => decide (0 < content.size)
      | .ok (.dir _) => true
      | .error _ => false)
  else .ok false

/-- Whether an operator holds between two words. -/
def binaryHolds (w : Workspace) (op a b : Octets) : Except Octets Bool :=
  let compare := fun (f : Int → Int → Bool) => do return f (← number a) (← number b)
  match String.ofList op with
  | "=" => .ok (a == b)
  | "!=" => .ok (a != b)
  | "<" => .ok (decide (a < b))
  | ">" => .ok (decide (b < a))
  | "-eq" => compare (· == ·)
  | "-ne" => compare (· != ·)
  | "-ge" => compare fun a b => decide (b ≤ a)
  | "-gt" => compare fun a b => decide (b < a)
  | "-le" => compare fun a b => decide (a ≤ b)
  | "-lt" => compare fun a b => decide (a < b)
  | "-ef" =>
    .ok (match w.locate (Octets.toText a), w.locate (Octets.toText b) with
      | .ok p, .ok q => p == q
      | _, _ => false)
  | _ => .ok false

mutual

/-- Whether a condition of alternatives holds, and the words from its last one on. -/
def alternatives (w : Workspace) : Nat → List Octets → Except Octets (Bool × List Octets)
  | 0, _ => .error "too deep".toList
  | n + 1, args => do
    let (first, rest) ← conjuncts w n args
    if operatorOf? (rest.drop 1) = some .either then do
      let (second, rest) ← alternatives w n (rest.drop 2)
      return (first || second, rest)
    else return (first, rest)

/-- Whether all conditions that are joined hold, and the words from the last one of them on. -/
def conjuncts (w : Workspace) : Nat → List Octets → Except Octets (Bool × List Octets)
  | 0, _ => .error "too deep".toList
  | n + 1, args => do
    let (first, rest) ← negated w n args
    if operatorOf? (rest.drop 1) = some .both then do
      let (second, rest) ← conjuncts w n (rest.drop 2)
      return (first && second, rest)
    else return (first, rest)

/-- Whether a condition holds that may be negated, and the words from its last one on. -/
def negated (w : Workspace) : Nat → List Octets → Except Octets (Bool × List Octets)
  | 0, _ => .error "too deep".toList
  | n + 1, args =>
    if operatorOf? args = some .negation then do
      let (holds, rest) ← negated w n (if args.length = 1 then [] else args.drop 1)
      return (!holds, rest)
    else single w n args

/-- Whether a single condition holds, and the words from its last one on. -/
def single (w : Workspace) : Nat → List Octets → Except Octets (Bool × List Octets)
  | 0, _ => .error "too deep".toList
  | n + 1, args =>
    match args with
    | [] => .ok (false, [])
    | o :: rest =>
      match operatorOf? args with
      | some .opening =>
        if operatorOf? rest = some .closing then .ok (false, rest)
        else do
          let (holds, rest) ← alternatives w n rest
          if operatorOf? (rest.drop 1) = some .closing then return (holds, rest.drop 1)
          else throw "closing paren expected".toList
      | some (.unary c) =>
        match rest with
        | [] => .error (o ++ ": argument expected".toList)
        | operand :: _ => do return (← unaryHolds w c operand, rest)
      | _ =>
        match rest with
        | op :: more =>
          if isBinary op then
            match more with
            | [] => .error (op ++ ": argument expected".toList)
            | second :: _ => do return (← binaryHolds w op o second, more)
          else .ok (!o.isEmpty, args)
        | [] => .ok (!o.isEmpty, args)

end

/-- Whether the condition that some words write holds. A negation or parentheses around few words come
before their other meanings. -/
def holds (w : Workspace) : Nat → List Octets → Except Octets Bool
  | 0, _ => .error "too deep".toList
  | n + 1, args =>
    let whole := do
      let (holds, rest) ← alternatives w (8 * args.length + 40) args
      match rest with
      | o :: _ :: _ => throw ((if o.isEmpty then [] else o ++ ": ".toList) ++ "unexpected operator".toList)
      | _ => return holds
    match args with
    | [] => .ok false
    | [a, op, b] =>
      if isBinary op then binaryHolds w op a b
      else if a = ['('] ∧ b = [')'] then holds w n [op]
      else if a = ['!'] then (holds w n [op, b]).map (!·)
      else whole
    | [a, b, c, d] =>
      if a = ['('] ∧ d = [')'] then holds w n [b, c]
      else if a = ['!'] then (holds w n [b, c, d]).map (!·)
      else whole
    | _ => whole

end Upkeep.Shell.Condition
