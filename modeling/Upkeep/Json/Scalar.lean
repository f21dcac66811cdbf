import Upkeep.Decimal.Binary
import Upkeep.Text.Quoted

/-!
# Scalars of JSON texts

Readers for the parts of a JSON text that hold no others. Each takes the text from the first character
of the part on, and gives the rest behind it.

* `stringTail t`: a string behind its opening quote, with escapes read.
* `stringEnd t`: the same without regard to code points, for strings that nothing needs.
* `number t`: a number, as the integer or double that it denotes.
* `numberEnd t`: a number of any size, for numbers that nothing needs.

A text is refused because it is no JSON, or because it has another shape than the one asked for (`Error`). Only the
second kind says more.
-/

namespace Upkeep.Json

/-! ## Errors -/

/-- What a text has where a value of another kind was expected. Numbers keep their writing. -/
inductive Found where
  | null
  | bool (b : Bool)
  | integer (digits : Text)
  | float (digits : Text)
  | string (t : Text)
  | sequence
  | map
  deriving DecidableEq, Repr

def Found.words : Found → Text
  | null => "null".toList
  | bool b => "boolean `".toList ++ (if b then "true" else "false").toList ++ ['\x60']
  | integer digits => "integer `".toList ++ digits ++ ['\x60']
  | float digits => "floating point `".toList ++ digits ++ ['\x60']
  | string t => "string ".toList ++ Text.quoted t
  | sequence => "sequence".toList
  | map => "map".toList

/-- Why a text is refused. -/
inductive Error where
  | malformed
  | invalidType (found : Found) (expected : Text)
  | invalidLength (length : Nat) (expected : Text)
  | missingField (name : Text)
  | duplicateField (name : Text)
  deriving DecidableEq, Repr

/-- The text of a refusal. -/
def Error.message : Error → Text
  | malformed => "malformed JSON".toList
  | invalidType found expected =>
    "invalid type: ".toList ++ found.words ++ ", expected ".toList ++ expected
  | invalidLength n expected =>
    "invalid length ".toList ++ Text.ofNat n ++ ", expected ".toList ++ expected
  | missingField name => "missing field `".toList ++ name ++ ['\x60']
  | duplicateField name => "duplicate field `".toList ++ name ++ ['\x60']

/-! ## White space and words -/

def isSpace (c : Char) : Bool := c == ' ' || c == '\n' || c == '\t' || c == '\r'

def skipSpace (t : Text) : Text := t.dropWhile isSpace

def word (w t : Text) : Except Error Text :=
  match Text.after? w t with
  | some rest => .ok rest
  | none => .error .malformed

/-! ## Strings -/

def hexDigit? (c : Char) : Option Nat :=
  if c.isDigit then some (c.toNat - '0'.toNat)
  else if 'a' ≤ c ∧ c ≤ 'f' then some (c.toNat - 'a'.toNat + 10)
  else if 'A' ≤ c ∧ c ≤ 'F' then some (c.toNat - 'A'.toNat + 10)
  else none

def hex4? (a b c d : Char) : Option Nat := do
  some (4096 * (← hexDigit? a) + 256 * (← hexDigit? b) + 16 * (← hexDigit? c) + (← hexDigit? d))

/-- The character that a letter behind a backslash denotes. -/
def shortEscape? (c : Char) : Option Char :=
  if c = '"' ∨ c = '\\' ∨ c = '/' then some c
  else if c = 'b' then some (Char.ofNat 8)
  else if c = 'f' then some (Char.ofNat 12)
  else if c = 'n' then some '\n'
  else if c = 'r' then some '\r'
  else if c = 't' then some '\t'
  else none

def isLeading (n : Nat) : Bool := decide (0xD800 ≤ n ∧ n < 0xDC00)

def isTrailing (n : Nat) : Bool := decide (0xDC00 ≤ n ∧ n < 0xE000)

/-- A string with one more character in front. -/
def consRead (c : Char) (r : Except Error (Text × Text)) :
    Except Error (Text × Text) := r.map fun (t, rest) => (c :: t, rest)

/-- A string behind its opening quote. Two escaped units make one character only as a pair. -/
def stringTail : Text → Except Error (Text × Text)
  | '"' :: rest => .ok ([], rest)
  | '\\' :: 'u' :: a :: b :: c :: d :: '\\' :: 'u' :: e :: f :: g :: h :: rest =>
    match hex4? a b c d with
    | none => .error .malformed
    | some n =>
      if isTrailing n then .error .malformed
      else if isLeading n then
        match hex4? e f g h with
        | none => .error .malformed
        | some m =>
          if isTrailing m then
            consRead (Char.ofNat (0x10000 + 1024 * (n - 0xD800) + (m - 0xDC00))) (stringTail rest)
          else .error .malformed
      else consRead (Char.ofNat n) (stringTail ('\\' :: 'u' :: e :: f :: g :: h :: rest))
  | '\\' :: 'u' :: a :: b :: c :: d :: rest =>
    match hex4? a b c d with
    | none => .error .malformed
    | some n =>
      if isLeading n || isTrailing n then .error .malformed
      else consRead (Char.ofNat n) (stringTail rest)
  | '\\' :: c :: rest =>
    match shortEscape? c with
    | none => .error .malformed
    | some x => consRead x (stringTail rest)
  | c :: rest =>
    if c = '\\' ∨ c.toNat < 32 then .error .malformed else consRead c (stringTail rest)
  | [] => .error .malformed

/-- The rest behind a string, whatever code points it denotes. -/
def stringEnd : Text → Except Error Text
  | '"' :: rest => .ok rest
  | '\\' :: 'u' :: a :: b :: c :: d :: rest =>
    if (hex4? a b c d).isSome then stringEnd rest else .error .malformed
  | '\\' :: c :: rest => if (shortEscape? c).isSome then stringEnd rest else .error .malformed
  | c :: rest => if c = '\\' ∨ c.toNat < 32 then .error .malformed else stringEnd rest
  | [] => .error .malformed

/-! ## Numbers -/

/-- The parts of a number as it is written. -/
structure NumberParts where
  negative : Bool
  whole : Text
  /-- The digits behind the point, if there is one. -/
  fraction : Option Text
  /-- The sign and digits of the exponent, if there is one. -/
  exponent : Option (Bool × Text)

def digits (t : Text) : Text × Text := (t.takeWhile Char.isDigit, t.dropWhile Char.isDigit)

/-- The parts of a number. A number has no needless zero in front, and digits behind a point or an
exponent mark. -/
def numberParts (t : Text) : Except Error (NumberParts × Text) := do
  let (negative, t) := match t with
    | '-' :: rest => (true, rest)
    | _ => (false, t)
  let (whole, t) := digits t
  if whole = [] ∨ (whole.head? = some '0' ∧ whole.length ≠ 1) then .error .malformed
  let (fraction, t) ← match t with
    | '.' :: rest =>
      let (fraction, rest) := digits rest
      if fraction = [] then .error .malformed else pure (some fraction, rest)
    | _ => pure (none, t)
  let (exponent, t) ← match t with
    | c :: rest =>
      if c = 'e' ∨ c = 'E' then
        let (below, rest) := match rest with
          | '-' :: rest => (true, rest)
          | '+' :: rest => (false, rest)
          | _ => (false, rest)
        let (exponent, rest) := digits rest
        if exponent = [] then .error .malformed else pure (some (below, exponent), rest)
      else pure (none, t)
    | [] => pure (none, t)
  .ok (⟨negative, whole, fraction, exponent⟩, t)

def numberEnd (t : Text) : Except Error Text := (numberParts t).map (·.2)

/-- The longest head of some digits whose value behind `n` fits in 64 bits: the value, and the number
of digits taken. -/
def takeCount (n taken : Nat) : Text → Nat × Nat
  | [] => (n, taken)
  | c :: t =>
    let m := 10 * n + (c.toNat - '0'.toNat)
    if m < Nat.pow 2 64 then takeCount m (taken + 1) t else (n, taken)

/-- `significand * 10 ^ exponent` as a double, one rounding for the significand and one for each power
of ten. None if it is too large. -/
def scale? (significand : Nat) (exponent : Int) : Option Float :=
  let f := Float.ofNat significand
  if 0 ≤ exponent then
    if exponent ≤ 308 then
      let r := f * Float.ofScientific 1 false exponent.toNat
      if r.isInf then none else some r
    else if significand = 0 then some 0.0 else none
  else some (shrink 12 f exponent.natAbs)
where
  /-- Division by a power of ten in steps of at most 308 places. -/
  shrink : Nat → Float → Nat → Float
    | 0, f, _ => f * 0.0
    | fuel + 1, f, places =>
      if places ≤ 308 then f / Float.ofScientific 1 false places
      else if f == 0.0 then f
      else shrink fuel (f / Float.ofScientific 1 false 308) (places - 308)

def exponentLimit : Nat := 2147483647

/-- The double that the parts of a number denote. Digits that 64 bits do not hold are dropped. -/
def double? (p : NumberParts) : Option Float :=
  let (n, taken) := takeCount 0 0 p.whole
  let dropped := p.whole.length - taken
  let (n, places) := takeCount n 0 (p.fraction.getD [])
  let start : Int := (dropped : Int) - places
  let magnitude := match p.exponent with
    | none => scale? n start
    | some (below, digits) =>
      let e := Nat.ofDigitChars 10 digits 0
      if exponentLimit < e then (if n = 0 ∨ below then some 0.0 else none)
      else scale? n (if below then start - e else start + e)
  magnitude.map fun f => if p.negative then -f else f

/-- A number. Numbers without a point and an exponent that 64 bits hold are integers, except for zero
behind a minus sign. -/
def number (t : Text) : Except Error (Found × Text) := do
  let (p, rest) ← numberParts t
  let value := Nat.ofDigitChars 10 p.whole 0
  let isInteger := p.fraction.isNone && p.exponent.isNone &&
    if p.negative then decide (0 < value ∧ value ≤ Nat.pow 2 63) else decide (value < Nat.pow 2 64)
  if isInteger then
    .ok (.integer ((if p.negative then ['-'] else []) ++ p.whole), rest)
  else match double? p with
    | some f => .ok (.float (Decimal.shortest f), rest)
    | none => .error .malformed

end Upkeep.Json
