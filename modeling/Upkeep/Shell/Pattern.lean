import Upkeep.Shell.Octets

/-!
# Patterns

Patterns choose among texts and file names. A star stands for any octets, a question mark for one, brackets
for one of a set; quoted signs stand for themselves.

* `Pattern.ofMarked marks`: the pattern that octets write, each with whether it is quoted.
* `Pattern.fits p t`: whether a pattern stands for a text.
-/

namespace Upkeep.Shell

/-- An octet with whether it is quoted. -/
structure Marked where
  octet : Char
  isQuoted : Bool
  deriving DecidableEq

namespace Pattern

/-- A part of a set of octets. -/
inductive Range where
  | span (first last : Char)
  | kind (p : Char → Bool)

/-- Whether an octet is in a part of a set. -/
def Range.has : Range → Char → Bool
  | span first last, c => decide (first ≤ c ∧ c ≤ last)
  | kind p, c => p c

/-- A piece of a pattern. -/
inductive Piece where
  | octet (c : Char)
  | any
  | many
  | set (isOutside : Bool) (ranges : List Range)

/-- The kinds of octets that have names. -/
def kinds : List (Octets × (Char → Bool)) :=
  [("alpha".toList, Char.isAlpha), ("digit".toList, Char.isDigit), ("alnum".toList, Char.isAlphanum),
    ("upper".toList, Char.isUpper), ("lower".toList, Char.isLower),
    ("space".toList, fun c => " \t\n\r\x0b\x0c".toList.contains c),
    ("blank".toList, fun c => c == ' ' || c == '\t'),
    ("punct".toList, fun c => decide ('!' ≤ c ∧ c ≤ '~') && !c.isAlphanum),
    ("print".toList, fun c => decide (' ' ≤ c ∧ c ≤ '~')),
    ("graph".toList, fun c => decide ('!' ≤ c ∧ c ≤ '~')),
    ("cntrl".toList, fun c => decide (c < ' ' ∨ c = '\x7f')),
    ("xdigit".toList, fun c => c.isDigit || "abcdefABCDEF".toList.contains c)]

/-- The ranges of a set behind those read so far, and what stands behind the set. A bracket that closes
it may come first as an octet of its own. Nothing when the set is not closed. -/
def ranges : Nat → Bool → List Range → List Marked → Option (List Range × List Marked)
  | 0, _, _, _ => none
  | _ + 1, _, _, [] => none
  | n + 1, isFirst, acc, m :: ms =>
    if m.octet = ']' ∧ !m.isQuoted ∧ !isFirst then some (acc.reverse, ms)
    else
      let named := if m.octet = '[' ∧ !m.isQuoted ∧ (ms.head?.map (·.octet)) = some ':' then
          let name := (ms.drop 1).takeWhile (·.octet.isAlpha)
          let rest := (ms.drop 1).drop name.length
          if (rest.take 2).map (·.octet) = [':', ']'] then
            (kinds.lookup (name.map (·.octet))).map fun p => (Range.kind p, rest.drop 2)
          else none
        else none
      match named with
      | some (r, rest) => ranges n false (r :: acc) rest
      | none =>
        match ms with
        | dash :: last :: rest =>
          if dash.octet = '-' ∧ !dash.isQuoted ∧ !(last.octet = ']' ∧ !last.isQuoted) then
            ranges n false (.span m.octet last.octet :: acc) rest
          else ranges n false (.span m.octet m.octet :: acc) ms
        | ms => ranges n false (.span m.octet m.octet :: acc) ms

/-- The pieces that octets write. -/
def pieces : Nat → List Marked → List Piece
  | 0, _ => []
  | _ + 1, [] => []
  | n + 1, m :: ms =>
    if m.isQuoted then .octet m.octet :: pieces n ms
    else if m.octet = '*' then .many :: pieces n ms
    else if m.octet = '?' then .any :: pieces n ms
    else if m.octet = '[' then
      let isOutside := (ms.head?.map fun m => !m.isQuoted && m.octet == '!').getD false
      match ranges (ms.length + 1) true [] (if isOutside then ms.drop 1 else ms) with
      | some (rs, rest) => .set isOutside rs :: pieces n rest
      | none => .octet '[' :: pieces n ms
    else .octet m.octet :: pieces n ms

end Pattern

abbrev Pattern := List Pattern.Piece

namespace Pattern

def ofMarked (ms : List Marked) : Pattern := pieces (ms.length + 1) ms

/-- Whether octets write a pattern that may stand for more than one text. -/
def isOpen (ms : List Marked) : Bool := ms.any fun m => !m.isQuoted && "*?[".toList.contains m.octet

/-- The patterns of which one stands for what follows an octet, where a pattern stands for all of it. -/
def after (c : Char) : Pattern → List Pattern
  | [] => []
  | .many :: p => (.many :: p) :: after c p
  | .any :: p => [p]
  | .octet d :: p => if d == c then [p] else []
  | .set isOutside rs :: p => if rs.any (·.has c) != isOutside then [p] else []

/-- Patterns that stand for all that the given ones stand for, where each is an end of one pattern. A star
stands for whatever leads up to it, so what is longer than the shortest one that begins with a star is not
needed. -/
def narrow (ps : List Pattern) : List Pattern :=
  let isStarred := fun (p : Pattern) => match p with
    | .many :: _ => true
    | _ => false
  let ps := match (ps.filter isStarred).map List.length with
    | [] => ps
    | n :: ns => ps.filter fun p => p.length ≤ ns.foldl min n
  ps.eraseDupsBy fun p q => p.length == q.length

/-- Whether a pattern stands for the empty text. -/
def fitsNothing (p : Pattern) : Bool := p.all fun piece => match piece with
  | .many => true
  | _ => false

/-- Whether one of some ends of a pattern stands for a text. -/
def someFits : List Pattern → Octets → Bool
  | ps, [] => ps.any fitsNothing
  | ps, c :: t => !ps.isEmpty && someFits (narrow (ps.flatMap (after c))) t

def fits (p : Pattern) (t : Octets) : Bool := someFits [p] t

/-- The lengths of the starts of a text, behind as many octets as given, for which one of some ends of a
pattern stands. -/
def lengths : Nat → List Pattern → Octets → List Nat
  | n, ps, [] => if ps.any fitsNothing then [n] else []
  | n, ps, c :: t =>
    if ps.isEmpty then []
    else
      let more := lengths (n + 1) (narrow (ps.flatMap (after c))) t
      if ps.any fitsNothing then n :: more else more

/-- A text without the longest or shortest start that fits. -/
def dropStart (longest : Bool) (p : Pattern) (t : Octets) : Octets :=
  let found := lengths 0 [p] t
  t.drop ((if longest then found.getLast? else found.head?).getD 0)

/-- A text without the longest or shortest end that fits: what is an end of a text is a start of the text
read backwards. -/
def dropEnd (longest : Bool) (p : Pattern) (t : Octets) : Octets :=
  (dropStart longest p.reverse t.reverse).reverse

end Pattern
end Upkeep.Shell
