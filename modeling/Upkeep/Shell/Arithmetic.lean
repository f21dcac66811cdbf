import Upkeep.Shell.Octets

/-!
# Arithmetic in scripts

An arithmetic expression is a text of numbers, names of variables and signs, with the values and ranks
that the signs have in C. Numbers have 64 bits. A name with an assigning sign behind it changes the
variable for the rest of the expression and behind it.

* `Arithmetic.evaluate value t`: the value of an expression with the variables that it changed.
-/

namespace Upkeep.Shell.Arithmetic

/-- The number with 64 bits that another one leaves. -/
def wrap (n : Int) : Int := Int.bmod n (Nat.pow 2 64)

/-- The nearest number with 64 bits. -/
def clamp (n : Int) : Int :=
  let half : Int := Nat.pow 2 63
  if n < -half then -half else if half ≤ n then half - 1 else n

def digitValue (c : Char) : Nat :=
  if c.isDigit then c.toNat - 48 else if c.isUpper then c.toNat - 55 else if c.isLower then c.toNat - 87 else 99

/-- The digits of a base at the start of a text, as a number, and the rest. -/
def digits (base : Nat) (t : Octets) : Nat × Octets :=
  let d := t.takeWhile fun c => decide (digitValue c < base)
  (d.foldl (fun n c => base * n + digitValue c) 0, t.drop d.length)

/-- The number without a sign at the start of a text, in the base that its first digits tell. -/
def constant (t : Octets) : Nat × Octets :=
  match t with
  | '0' :: x :: c :: rest =>
    if (x = 'x' ∨ x = 'X') ∧ digitValue c < 16 then digits 16 (c :: rest) else digits 8 t
  | '0' :: _ => digits 8 t
  | t => digits 10 t

def isSpace (c : Char) : Bool := " \t\n\r\x0b\x0c".toList.contains c

/-- The number at the start of a text behind blanks and a sign: whether the sign is a minus sign, the size,
and the rest. Nothing without digits. -/
def signed? (base : Option Nat) (t : Octets) : Option (Bool × Nat × Octets) :=
  let t := t.dropWhile isSpace
  let (isNegative, t) := match t with
    | '-' :: t => (true, t)
    | '+' :: t => (false, t)
    | t => (false, t)
  match t with
  | [] => none
  | c :: _ =>
    if !c.isDigit then none
    else
      let (n, rest) := match base with
        | some b => digits b t
        | none => constant t
      some (isNegative, n, rest)

/-- The number with 64 bits at the start of a text behind blanks and a sign, and the rest. -/
def leading? (base : Option Nat) (t : Octets) : Option (Int × Octets) :=
  (signed? base t).map fun (isNegative, n, rest) => (clamp (if isNegative then -(n : Int) else n), rest)

/-- The number that a text is, blanks around it aside. An empty text is zero where `emptyToo` says so. -/
def number? (base : Option Nat) (emptyToo : Bool) (t : Octets) : Option Int :=
  match leading? base t with
  | some (n, rest) => if rest.all isSpace then some n else none
  | none => if emptyToo && t.all isSpace then some 0 else none

/-- A token of an expression. -/
inductive Token where
  | number (n : Int)
  | name (n : Octets)
  | sign (s : Octets)
  deriving DecidableEq

def signs : List Octets :=
  ["<<=", ">>=", "&&", "||", "<<", ">>", "<=", ">=", "==", "!=", "+=", "-=", "*=", "/=", "%=", "&=", "^=",
    "|=", "+", "-", "*", "/", "%", "<", ">", "=", "!", "~", "&", "^", "|", "?", ":", "(", ")"].map
    String.toList

/-- The tokens of an expression. An octet that has no meaning is a sign of its own. -/
def tokens : Nat → Octets → List Token
  | 0, _ => []
  | _ + 1, [] => []
  | n + 1, c :: t =>
    if isSpace c then tokens n t
    else if c.isDigit then
      let (k, rest) := constant (c :: t)
      .number (clamp k) :: tokens n rest
    else if Octets.startsName c then
      let name := (c :: t).takeWhile Octets.inName
      .name name :: tokens n ((c :: t).drop name.length)
    else match signs.find? fun s => Text.startsWith s (c :: t) with
      | some s => .sign s :: tokens n ((c :: t).drop s.length)
      | none => .sign [c] :: tokens n t

/-- An expression that is evaluated: what is left of it, and the values of variables. -/
structure Evaluation where
  rest : List Token
  value : Octets → Option Octets
  changed : List (Octets × Octets)

/-- Why an expression has no value. -/
inductive Flaw where
  | wrong (what : Octets)
  | notANumber (value : Octets)
  deriving DecidableEq

abbrev Evaluator := StateT Evaluation (Except Flaw)

namespace Evaluator

def fail {α : Type} (what : String) : Evaluator α := fun _ => .error (.wrong what.toList)

def takeSign (s : String) : Evaluator Bool := do
  match (← get).rest with
  | .sign t :: rest =>
    if t = s.toList then do
      modify fun e => { e with rest }
      return true
    else return false
  | _ => return false

def variableValue (name : Octets) : Evaluator Int := do
  let e ← get
  let t := ((e.changed.lookup name).or (e.value name)).getD []
  match number? none true t with
  | some n => return n
  | none => fun _ => .error (.notANumber t)

/-- The value of a sign between two numbers. -/
def apply (s : Octets) (a b : Int) : Evaluator Int :=
  let truth := fun (b : Bool) => if b then (1 : Int) else 0
  let bits := fun (f : Nat → Nat → Nat) =>
    wrap (f (a % Nat.pow 2 64).toNat (b % Nat.pow 2 64).toNat)
  match String.ofList s with
  | "*" => return wrap (a * b)
  | "/" => if b = 0 then fail "division by zero" else return wrap (a.tdiv b)
  | "%" => if b = 0 then fail "division by zero" else return a.tmod b
  | "+" => return wrap (a + b)
  | "-" => return wrap (a - b)
  | "<<" => return wrap (a * Nat.pow 2 (b % 64).toNat)
  | ">>" => return a / Nat.pow 2 (b % 64).toNat
  | "<" => return truth (decide (a < b))
  | "<=" => return truth (decide (a ≤ b))
  | ">" => return truth (decide (b < a))
  | ">=" => return truth (decide (b ≤ a))
  | "==" => return truth (a == b)
  | "!=" => return truth (a != b)
  | "&" => return bits (· &&& ·)
  | "^" => return bits (· ^^^ ·)
  | _ => return bits (· ||| ·)

end Evaluator

open Evaluator

/-- The signs between two numbers, each with those of its rank, the ones that bind least first. -/
def ranks : List (List Octets) :=
  [["|"], ["^"], ["&"], ["==", "!="], ["<", "<=", ">", ">="], ["<<", ">>"], ["+", "-"],
    ["*", "/", "%"]].map (·.map String.toList)

/-- The signs that assign, with the sign that combines the old value with the new one. -/
def assigning : List (Octets × Option Octets) :=
  ("=".toList, none) ::
    ["+", "-", "*", "/", "%", "<<", ">>", "&", "^", "|"].map fun s => ((s ++ "=").toList, some s.toList)

mutual

/-- Evaluates an assignment or what stands in its place. What is `idle` is read only. -/
def assignment : Nat → Bool → Evaluator Int
  | 0, _ => fail "too deep"
  | n + 1, idle => do
    let e ← get
    match e.rest with
    | .name name :: .sign s :: rest =>
      match assigning.lookup s with
      | none => conditional n idle
      | some combined => do
        set { e with rest }
        let new ← assignment n idle
        if idle then return new
        else do
          let value ← match combined with
            | none => pure new
            | some op => do apply op (← variableValue name) new
          modify fun e => { e with changed := (name, Octets.ofInt value) :: e.changed }
          return value
    | _ => conditional n idle

def conditional : Nat → Bool → Evaluator Int
  | 0, _ => fail "too deep"
  | n + 1, idle => do
    let test ← disjunction n idle
    if ← takeSign "?" then do
      let yes ← assignment n (idle || test == 0)
      unless ← takeSign ":" do fail "expecting ':'"
      let no ← conditional n (idle || test != 0)
      return if test ≠ 0 then yes else no
    else return test

def disjunction : Nat → Bool → Evaluator Int
  | 0, _ => fail "too deep"
  | n + 1, idle => do
    let first ← conjunction n idle
    if ← takeSign "||" then do
      let second ← disjunction n (idle || first != 0)
      return if first ≠ 0 ∨ second ≠ 0 then 1 else 0
    else return first

def conjunction : Nat → Bool → Evaluator Int
  | 0, _ => fail "too deep"
  | n + 1, idle => do
    let first ← ranked n idle ranks
    if ← takeSign "&&" then do
      let second ← conjunction n (idle || first == 0)
      return if first ≠ 0 ∧ second ≠ 0 then 1 else 0
    else return first

/-- Evaluates numbers with signs of some ranks between. -/
def ranked : Nat → Bool → List (List Octets) → Evaluator Int
  | 0, _, _ => fail "too deep"
  | n + 1, idle, [] => primary n idle
  | n + 1, idle, signs :: tighter => do
    let first ← ranked n idle tighter
    moreRanked n idle signs tighter first

/-- Evaluates what stands behind a number and signs of one rank. -/
def moreRanked : Nat → Bool → List Octets → List (List Octets) → Int → Evaluator Int
  | 0, _, _, _, _ => fail "too deep"
  | n + 1, idle, signs, tighter, first => do
    let e ← get
    match e.rest with
    | .sign s :: rest =>
      if signs.contains s then do
        set { e with rest }
        let second ← ranked n idle tighter
        let value ← if idle then pure second else apply s first second
        moreRanked n idle signs tighter value
      else return first
    | _ => return first

/-- Evaluates a number, a name, something in parentheses, or one of them behind a sign. -/
def primary : Nat → Bool → Evaluator Int
  | 0, _ => fail "too deep"
  | n + 1, idle => do
    let e ← get
    match e.rest with
    | .number k :: rest => do
      set { e with rest }
      return k
    | .name name :: rest => do
      set { e with rest }
      if idle then return 0 else variableValue name
    | .sign s :: rest => do
      set { e with rest }
      match String.ofList s with
      | "(" => do
        let value ← assignment n idle
        unless ← takeSign ")" do fail "expecting ')'"
        return value
      | "+" => primary n idle
      | "-" => return wrap (-(← primary n idle))
      | "!" => return if (← primary n idle) = 0 then 1 else 0
      | "~" => return wrap (-(← primary n idle) - 1)
      | _ => fail "expecting primary"
    | [] => fail "expecting primary"

end

/-- The value of an expression, and the variables that it changed, the last change in front. -/
def evaluate (value : Octets → Option Octets) (t : Octets) :
    Except Flaw (Int × List (Octets × Octets)) :=
  let ts := tokens (t.length + 1) t
  match assignment (20 * ts.length + 40) false ⟨ts, value, []⟩ with
  | .error f => .error f
  | .ok (n, e) => if e.rest.isEmpty then .ok (n, e.changed) else .error (.wrong "expecting EOF".toList)

end Upkeep.Shell.Arithmetic
