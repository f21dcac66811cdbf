import Upkeep.Shell.Arithmetic
import Upkeep.Shell.RealNumber

/-!
# Printing in scripts

What `echo` and `printf` make of their words. A backslash with what follows it stands for an octet, and in a
format a percent sign with what follows it stands for the next word.

* `Printing.unescape o`: octets with their escapes read, and whether one of them ends all printing.
* `Printing.format f args`: a format filled with words, as often as it takes to use them up.
-/

namespace Upkeep.Shell.Printing

def letters : List (Char × Char) :=
  [('\\', '\\'), ('a', '\x07'), ('b', '\x08'), ('e', '\x1b'), ('f', '\x0c'), ('n', '\n'), ('r', '\r'), ('t', '\t'),
    ('v', '\x0b')]

def isOctal (c : Char) : Bool := decide ('0' ≤ c ∧ c ≤ '7')

def ofOctal (digits : Octets) : Char := Char.ofNat (Nat.ofDigitChars 8 digits 0 % 256)

/-- The octet of an escape behind its backslash, and the number of octets that it takes there. What is no
escape is a backslash. -/
def escape (t : Octets) : Char × Nat :=
  let digits := (t.take 3).takeWhile isOctal
  if !digits.isEmpty then (ofOctal digits, digits.length)
  else match t.head?.bind fun c => letters.lookup c with
    | some c => (c, 1)
    | none => ('\\', 0)

/-- The octet of an escape in a word behind its backslash, and the number of octets that it takes there. A
zero may stand before three octal digits. -/
def escapeInWord (t : Octets) : Char × Nat :=
  match t with
  | '0' :: rest =>
    let digits := (rest.take 3).takeWhile isOctal
    (ofOctal digits, digits.length + 1)
  | t => escape t

/-- Octets with their escapes read, of which the first `skipped` are passed over, and whether an escape ends
all printing. -/
def unescapeFrom : Nat → Octets → Octets × Bool
  | _, [] => ([], false)
  | skipped + 1, _ :: t => unescapeFrom skipped t
  | 0, '\\' :: t =>
    if t.head? = some 'c' then ([], true)
    else
      let (c, taken) := escapeInWord t
      let (o, ends) := unescapeFrom taken t
      (c :: o, ends)
  | 0, c :: t =>
    let (o, ends) := unescapeFrom 0 t
    (c :: o, ends)

/-- Octets with their escapes read, and whether an escape ends all printing. -/
def unescape (o : Octets) : Octets × Bool := unescapeFrom 0 o

/-! ## Formats -/

/-- How a word is laid out. -/
structure Layout where
  flags : List Char
  width : Nat
  precision : Option Nat

namespace Layout

/-- Octets filled with blanks to the width. -/
def pad (l : Layout) (o : Octets) : Octets :=
  let blanks := List.replicate (l.width - o.length) ' '
  if l.flags.contains '-' then o ++ blanks else blanks ++ o

/-- The signs before the digits of a number, and the digits, filled with zeros where that is asked for. -/
def number (l : Layout) (signs digits : Octets) : Octets :=
  match l.precision with
  | some p =>
    let digits := if p = 0 ∧ digits = ['0'] then [] else digits
    l.pad (signs ++ List.replicate (p - digits.length) '0' ++ digits)
  | none =>
    if l.flags.contains '0' && !l.flags.contains '-' then
      signs ++ List.replicate (l.width - signs.length - digits.length) '0' ++ digits
    else l.pad (signs ++ digits)

def octets (l : Layout) (o : Octets) : Octets :=
  l.pad (match l.precision with
    | some p => o.take p
    | none => o)

def signs (l : Layout) (isNegative : Bool) : Octets :=
  if isNegative then ['-'] else if l.flags.contains '+' then ['+']
  else if l.flags.contains ' ' then [' '] else []

/-- A number as a kind of directive writes it. -/
def directive (l : Layout) (kind : Char) (n : Int) : Octets :=
  let unsigned := (n % Nat.pow 2 64).toNat
  if kind = 'd' ∨ kind = 'i' then
    l.number (l.signs (decide (n < 0))) (Text.ofNat n.natAbs)
  else if kind = 'u' then l.number [] (Text.ofNat unsigned)
  else if kind = 'o' then
    let digits := Nat.toDigits 8 unsigned
    l.number [] (if l.flags.contains '#' && digits.head? != some '0' then '0' :: digits else digits)
  else
    let digits := Nat.toDigits 16 unsigned
    let mark := if l.flags.contains '#' && unsigned != 0 then ['0', kind] else []
    l.number mark (if kind = 'X' then digits.map Char.toUpper else digits)

/-- A real number as a kind of directive writes it. -/
def real (l : Layout) (kind : Char) (x : Float) : Octets :=
  let (isNegative, size, isFinite) := RealNumber.write kind (l.flags.contains '#') l.precision x
  let l := { l with precision := none, flags := if isFinite then l.flags else l.flags.filter (· ≠ '0') }
  let signs := l.signs isNegative
  if kind.toLower = 'a' ∧ isFinite then l.number (signs ++ size.take 2) (size.drop 2)
  else l.number signs size

end Layout

/-- What a format prints: the octets so far, the words that are left, complaints about words, whether printing is
over, and whether that is so because of a flaw of the format. -/
structure Printed where
  out : Octets
  args : List Octets
  complaints : List Octets
  isOver : Bool
  isFlawed : Bool

namespace Printed

def add (p : Printed) (o : Octets) : Printed := { p with out := p.out ++ o }

/-- Ends printing with a complaint about the format. -/
def refuse (p : Printed) (what : Octets) : Printed :=
  { p with complaints := p.complaints ++ [what], isOver := true, isFlawed := true }

/-- The next word, which is empty when none is left. -/
def take (p : Printed) : Octets × Printed := (p.args.headD [], { p with args := p.args.tail })

/-- Adds a complaint about a word. -/
def doubt (p : Printed) (word : Octets) (what : String) : Printed :=
  { p with complaints := p.complaints ++ [word ++ what.toList] }

/-- The next word as a number by its reader, which is zero when none is left. A quote stands before an octet
whose number is meant. The reader tells the number, whether it went out of range, and the rest. -/
def takeBy {α : Type} (ofNat : Nat → α) (read? : Octets → Option (α × Bool × Octets)) (p : Printed) :
    α × Printed :=
  match p.args with
  | [] => (ofNat 0, p)
  | o :: rest =>
    let p := { p with args := rest }
    if o.head? = some '"' ∨ o.head? = some '\'' then (ofNat (((o.drop 1).head?.map (·.toNat)).getD 0), p)
    else match read? o with
      | some (n, isOut, []) => (n, if isOut then p.doubt o ": Numerical result out of range" else p)
      | some (n, _, _) => (n, p.doubt o ": not completely converted")
      | none => (ofNat 0, if o.isEmpty then p else p.doubt o ": expected numeric value")

/-- The next word as a whole number from `low` up to `high`. Where no number is below zero, the one that
64 bits leave of it is taken. -/
def takeWithin (low high : Int) (p : Printed) : Int × Printed :=
  p.takeBy (·) fun o =>
    (Arithmetic.signed? none o).map fun (isNegative, n, rest) =>
      let k : Int := if isNegative then -(n : Int) else n
      if low < 0 then (max low (min high k), decide (k < low ∨ high < k), rest)
      else if high < n then (high, true, rest)
      else (if k < 0 then k + high + 1 else k, false, rest)

def takeNumber (p : Printed) : Int × Printed := p.takeWithin (-Nat.pow 2 63) (Nat.pow 2 63 - 1)

/-- The next word as a whole number without a sign. -/
def takeUnsigned (p : Printed) : Int × Printed := p.takeWithin 0 (Nat.pow 2 64 - 1)

def takeReal (p : Printed) : Float × Printed :=
  p.takeBy Float.ofNat fun o => (RealNumber.leading? o).map fun f => (f.value, f.isOut, f.rest)

end Printed

/-- The flags, the width and the precision of a directive behind its percent sign, and the rest. -/
def layout (p : Printed) (t : Octets) : Layout × Octets × Printed :=
  let flags := t.takeWhile "#-+ 0".toList.contains
  let t := t.drop flags.length
  let (width, t, p) := match t with
    | '*' :: t => let (n, p) := p.takeNumber; (n, t, p)
    | t =>
      let digits := t.takeWhile Char.isDigit
      ((Octets.toNat digits : Int), t.drop digits.length, p)
  let flags := if width < 0 then '-' :: flags else flags
  let (precision, t, p) := match t with
    | '.' :: '*' :: t => let (n, p) := p.takeNumber; (if n < 0 then none else some n.toNat, t, p)
    | '.' :: t =>
      let digits := t.takeWhile Char.isDigit
      (some (Octets.toNat digits), t.drop digits.length, p)
    | t => (none, t, p)
  (⟨flags, width.natAbs, precision⟩, t, p)

/-- Prints a format once. -/
def formatOnce : Nat → Printed → Octets → Printed
  | 0, p, _ => p
  | _ + 1, p, [] => p
  | n + 1, p, '\\' :: t =>
    let (c, taken) := escape t
    formatOnce n (p.add [c]) (t.drop taken)
  | n + 1, p, '%' :: '%' :: t => formatOnce n (p.add ['%']) t
  | n + 1, p, '%' :: t =>
    let (l, rest, p) := layout p t
    match rest with
    | [] => p.refuse "missing format character".toList
    | kind :: rest =>
      if kind = 's' then
        let (o, p) := p.take
        formatOnce n (p.add (l.octets o)) rest
      else if kind = 'c' then
        let (o, p) := p.take
        formatOnce n (p.add (l.pad [o.headD '\x00'])) rest
      else if kind = 'b' then
        let (o, p) := p.take
        let (o, ends) := unescape o
        let p := p.add (l.octets o)
        if ends then { p with isOver := true } else formatOnce n p rest
      else if "diouxX".toList.contains kind then
        let (k, p) := if kind = 'd' ∨ kind = 'i' then p.takeNumber else p.takeUnsigned
        formatOnce n (p.add (l.directive kind k)) rest
      else if "aefgAEFG".toList.contains kind then
        let (x, p) := p.takeReal
        formatOnce n (p.add (l.real kind x)) rest
      else
        let directive := '%' :: t.take (t.length - rest.length)
        p.refuse (directive ++ ": invalid directive".toList)
  | n + 1, p, c :: t => formatOnce n (p.add [c]) t

/-- Prints a format at most `times` more times, as long as that uses up words. -/
def formatUpTo (f : Octets) : Nat → Printed → Printed
  | 0, p => p
  | times + 1, p =>
    let q := formatOnce (f.length + 1) p f
    if q.isOver || q.args.isEmpty || q.args.length == p.args.length then q else formatUpTo f times q

def format (f : Octets) (args : List Octets) : Printed :=
  formatUpTo f (args.length + 1) ⟨[], args, [], false, false⟩

/-- What `echo` prints. -/
def echo (args : List Octets) : Octets :=
  let (args, ending) := match args with
    | ['-', 'n'] :: args => (args, [])
    | args => (args, ['\n'])
  let (o, ends) := unescape ([' '].intercalate args)
  if ends then o else o ++ ending

end Upkeep.Shell.Printing
