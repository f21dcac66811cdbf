import Upkeep.Sql.Function.Format
import Upkeep.Text.Basic

/-!
# Functions of texts and numbers

* `Function.plainOnes`: the functions by their names.
* `Pattern.like escape p t`: `%` stands for any characters and `_` for one; the case of ASCII letters does not
  matter, and a character behind the escape stands for itself.
* `Pattern.glob p t`: `*` stands for any characters, `?` for one, and a set in brackets for one that is in it.
-/

/-! ## Patterns -/

namespace Upkeep.Sql.Pattern

/-- Whether a text fits a pattern without regard to case. -/
def like (escape : Option Char) (p t : Text) : Bool :=
  match p, t with
  | [], t => t.isEmpty
  | c :: p, t =>
    if some c = escape then
      match p, t with
      | d :: p, x :: t => d.toLower == x.toLower && like escape p t
      | _, _ => false
    else if c = '%' then
      like escape p t || match t with
        | [] => false
        | _ :: t => like escape (c :: p) t
    else match t with
      | [] => false
      | x :: t => (c = '_' || c.toLower == x.toLower) && like escape p t
termination_by p.length + t.length

def without (c : Char) (t : Text) : Text := if t.head? = some c then t.drop 1 else t

theorem length_without_le (c : Char) (t : Text) : (without c t).length ≤ t.length := by
  unfold without
  split
  · simp
  · exact Nat.le_refl _

/-- Whether a character is in the set that a text writes. -/
def isMember : Text → Char → Bool
  | a :: '-' :: b :: more, c => (a ≤ c && c ≤ b) || isMember more c
  | a :: more, c => a == c || isMember more c
  | [], _ => false

/-- The set that a pattern starts with behind its open bracket, as a test, and the rest of the pattern. A
bracket that closes sets is in the set when it comes first; no range starts with it. -/
def set? (p : Text) : Option ((Char → Bool) × Text) :=
  let q := without '^' p
  let r := without ']' q
  let body := r.takeWhile (· ≠ ']')
  match r.dropWhile (· ≠ ']') with
  | [] => none
  | _ :: rest => 
    some (fun c => (isMember body c || r.length < q.length && c == ']') != decide (q.length < p.length), rest)

theorem length_of_set? {p rest : Text} {f : Char → Bool} (h : set? p = some (f, rest)) :
    rest.length < p.length := by
  unfold set? at h
  simp only at h
  split at h
  · simp at h
  · next c rest' hd =>
    simp only [Option.some.injEq, Prod.mk.injEq] at h
    obtain ⟨-, rfl⟩ := h
    have e := congrArg List.length hd
    simp only [List.length_cons] at e
    have h1 := (List.dropWhile_sublist (l := without ']' (without '^' p)) (· ≠ ']')).length_le
    have h2 := length_without_le ']' (without '^' p)
    have h3 := length_without_le '^' p
    omega

/-- Whether a text fits a pattern with sets. -/
def glob (p t : Text) : Bool :=
  match p, t with
  | [], t => t.isEmpty
  | c :: p, t =>
    if c = '*' then
      glob p t || match t with
        | [] => false
        | _ :: t => glob (c :: p) t
    else match t with
      | [] => false
      | x :: t =>
        if c = '?' then glob p t
        else if c = '[' then
          match h : set? p with
          | none => false
          | some (isIn, rest) =>
            have := length_of_set? h
            isIn x && glob rest t
        else c == x && glob p t
termination_by p.length + t.length

end Upkeep.Sql.Pattern

/-! ## Functions -/

namespace Upkeep.Sql
open Database (Value Bytes Encoding)

namespace Function

def items (v : Value) : List Value :=
  match v with
  | .blob bytes => bytes.map fun b => .blob [b]
  | v => v.chars.map fun c => textOf [c]

def together (isBlob : Bool) (vs : List Value) : Value :=
  let bytes := vs.flatMap Value.textBytes
  if isBlob then .blob bytes else .text bytes

/-- How many characters or bytes a value has. -/
def length (v : Value) : Value :=
  match v with
  | .blob bytes => .integer bytes.length
  | v => .integer (v.chars.takeWhile (· ≠ '\x00')).length

def narrow (v : Value) : Int := Int.bmod v.toInt (Nat.pow 2 32)

/-- A part of a value from a place on, counted from one or from behind, with a length that may go back. -/
def part (v : Value) (start : Int) (length : Option Int) : Value :=
  let all := items v
  let size : Int := all.length
  let wanted := length.elim 1000000000 fun n => (n.natAbs : Int)
  let (first, count) : Int × Int :=
    if start < 0 then
      if start + size < 0 then (0, max 0 (wanted + (start + size))) else (start + size, wanted)
    else if 0 < start then (start - 1, wanted)
    else (0, if 0 < wanted then wanted - 1 else wanted)
  let (first, count) : Int × Int :=
    if length.any fun n => decide (n < 0) then
      if first - count < 0 then (0, count + (first - count)) else (first - count, count)
    else (first, count)
  together (isBlob v) ((all.drop first.toNat).take count.toNat)

/-- The place where some items start in others, counted from one, or zero. -/
def placeOf (part : List Value) : List Value → Nat → Nat
  | [], n => if part.isEmpty then n else 0
  | v :: vs, n => if (v :: vs).take part.length == part then n else placeOf part vs (n + 1)

def replaced (part by_ : Text) : Nat → Text → Text
  | 0, t => t
  | _, [] => []
  | n + 1, c :: t =>
    match Text.after? part (c :: t) with
    | some rest => by_ ++ replaced part by_ n rest
    | none => c :: replaced part by_ n t

/-- The value of the size of a number. -/
def absolute (v : Value) : Except Problem Value :=
  match v with
  | .null => .ok .null
  | .integer n => if n = leastWhole then .error .overflow else .ok (.integer n.natAbs)
  | v => .ok (.ofReal v.toReal.abs)

/-- A number rounded to places behind the point. -/
def rounded (v : Value) (places : Int) : Value :=
  let x := v.toReal
  let n := (max 0 (min 30 places)).toNat
  if x < -4503599627370496 ∨ 4503599627370496 < x then .ofReal x
  else if n = 0 then .ofReal (realOfInt (Double.toInt (x + if x < 0 then -0.5 else 0.5)))
  else
    let t := Format.real { Format.Place.plain with isWide := true, precision := some n } .fixed false x
    .ofReal (((Numeral.leading? t).map Numeral.real).getD 0)

/-- A value as it is written in statements. -/
def quoted : Value → Text
  | .null => "NULL".toList
  | .text bytes =>
    '\'' :: (Value.chars (.text bytes)).flatMap (fun c => if c = '\'' then [c, c] else [c]) ++ ['\'']
  | .blob bytes =>
    "X'".toList ++ (bytes.flatMap fun b => (Decimal.hexDigits 2 b.toNat).map Char.toUpper) ++ ['\'']
  | .real bits =>
    let x := Value.realOf bits
    let short := Double.text x
    if ((Numeral.leading? short).map Numeral.real).any (· == x) ∨ x - x != 0 then short
    else Format.real { Format.Place.plain with isWide := true, precision := some 20 } .scientific false x
  | v => v.chars

/-- The bytes of a value in base sixteen. A text is looked at as the file writes it. -/
def hex (e : Encoding) (v : Value) : Value :=
  let bytes := match v with
    | .text bytes => e.encode bytes
    | v => v.textBytes
  textOf (bytes.flatMap fun b => (Decimal.hexDigits 2 b.toNat).map Char.toUpper)

def hexDigit? (c : Char) : Option Nat :=
  if c.isDigit then some (c.toNat - 48)
  else if 'a' ≤ c.toLower ∧ c.toLower ≤ 'f' then some (c.toLower.toNat - 87)
  else none

/-- The bytes that pairs of digits of base sixteen write, between which some characters may stand. -/
def unhexed? (passed : Text) : Text → Option Bytes
  | [] => some []
  | c :: t =>
    match hexDigit? c, t with
    | some n, d :: t => do return UInt8.ofNat (16 * n + (← hexDigit? d)) :: (← unhexed? passed t)
    | some _, [] => none
    | none, t => if List.elem c passed then unhexed? passed t else none

/-- How many bytes the file needs for a value as a text. -/
def fileLength (e : Encoding) (v : Value) : Value :=
  match v with
  | .null => .null
  | .blob bytes => .integer bytes.length
  | .text bytes => .integer (e.encode bytes).length
  | v => .integer (v.textBytes.length * if e = .octets then 1 else 2)

/-- A text without some characters at its ends. -/
def trimmed (atStart atEnd : Bool) (set : Text) (t : Text) : Text :=
  let isIn := fun (c : Char) => List.elem c set
  let t := if atStart then t.dropWhile isIn else t
  if atEnd then Text.dropEndWhile isIn t else t

/-- A function that takes characters away. -/
def trimming (atStart atEnd : Bool) : Function :=
  total (fun n => n = 1 || n = 2) fun vs =>
    if vs.any Value.isNull then .null
    else match vs with
      | [v] => textOf (trimmed atStart atEnd [' '] v.chars)
      | [v, set] => textOf (trimmed atStart atEnd set.chars v.chars)
      | _ => .null

def soundDigit (c : Char) : Option Char :=
  ([("BFPV", '1'), ("CGJKQSXZ", '2'), ("DT", '3'), ("L", '4'), ("MN", '5'), ("R", '6')].find?
    fun (letters, _) => letters.toList.contains c.toUpper).map (·.2)

/-- The digits of the letters of a word, each run of one digit once. `H` and `W` do not end a run. -/
def soundDigits : Option Char → Text → Text
  | _, [] => []
  | last, c :: t =>
    match soundDigit c with
    | some d => if last = some d then soundDigits last t else d :: soundDigits (some d) t
    | none => soundDigits none t

def sound (t : Text) : Text :=
  match t.dropWhile (!·.isAlpha) with
  | [] => "?000".toList
  | c :: t => (c.toUpper :: soundDigits (soundDigit c) t ++ "000".toList).take 4

/-- The least or the greatest of some values, or nothing if one of them is. -/
def extreme (wanted : Ordering) (s : Surrounding) (vs : List Value) : Value :=
  if vs.any Value.isNull then .null
  else match vs with
    | [] => .null
    | v :: vs =>
      vs.foldl (fun best v => if Value.compare s.collation s.encoding v best = wanted then v else best) v

/-- The functions of texts and numbers by their names. -/
def plainOnes : List (String × Function) :=
  [("abs", ofValues (· = 1) fun _ vs => absolute (vs.head?.getD .null)),
    ("char", total any fun vs => .text (vs.flatMap fun v =>
      let n := v.toInt
      Encoding.codePointBytes (if n < 0 ∨ 0x10FFFF < n then 0xFFFD else n.toNat))),
    ("concat", total (1 ≤ ·) fun vs => .text (vs.flatMap Value.textBytes)),
    ("concat_ws", total (2 ≤ ·) fun vs =>
      match vs with
      | s :: vs =>
        if s.isNull then .null
        else .text (s.textBytes.intercalate ((vs.filter (!·.isNull)).map Value.textBytes))
      | [] => .null),
    ("format", total any formatValue),
    ("printf", total any formatValue),
    ("glob", total (· = 2) fun vs =>
      match vs with
      | [p, t] => if p.isNull || t.isNull then .null else .ofBool? (some (Pattern.glob p.chars t.chars))
      | _ => .null),
    ("hex", ofValues (· = 1) fun s vs => .ok (hex s.encoding (vs.head?.getD .null))),
    ("unhex", total (fun n => n = 1 || n = 2) fun vs =>
      if vs.any Value.isNull then .null
      else match vs with
        | [v] => ((unhexed? [] v.chars).map Value.blob).getD .null
        | [v, p] => ((unhexed? (p.chars.filter fun c => (hexDigit? c).isNone) v.chars).map Value.blob).getD .null
        | _ => .null),
    ("instr", total (· = 2) fun vs =>
      match vs with
      | [v, p] =>
        if v.isNull || p.isNull then .null
        else
          let both := isBlob v && isBlob p
          let own := fun (x : Value) => if both then items x else items (.text x.textBytes)
          .integer (placeOf (own p) (own v) 1)
      | _ => .null),
    ("length", strict length),
    ("octet_length", ofValues (· = 1) fun s vs => .ok (fileLength s.encoding (vs.head?.getD .null))),
    ("like", ofValues (fun n => n = 2 || n = 3) fun _ vs =>
      if vs.any Value.isNull then .ok .null
      else match vs with
        | [p, t] => .ok (.ofBool? (some (Pattern.like none p.chars t.chars)))
        | [p, t, e] =>
          match e.chars with
          | [c] => .ok (.ofBool? (some (Pattern.like (some c) p.chars t.chars)))
          | _ => .error (.failed "ESCAPE expression must be a single character".toList)
        | _ => .ok .null),
    ("likelihood", total (· = 2) fun vs => vs.head?.getD .null),
    ("likely", total (· = 1) fun vs => vs.head?.getD .null),
    ("unlikely", total (· = 1) fun vs => vs.head?.getD .null),
    ("lower", strict fun v => textOf (v.chars.map Char.toLower)),
    ("upper", strict fun v => textOf (v.chars.map Char.toUpper)),
    ("ltrim", trimming true false),
    ("rtrim", trimming false true),
    ("trim", trimming true true),
    ("max", ofValues (2 ≤ ·) fun s vs => .ok (extreme .gt s vs)),
    ("min", ofValues (2 ≤ ·) fun s vs => .ok (extreme .lt s vs)),
    ("nullif", ofValues (· = 2) fun s vs =>
      match vs with
      | [a, b] => .ok (if Value.compare s.collation s.encoding a b = .eq then .null else a)
      | _ => .ok .null),
    ("quote", total (· = 1) fun vs => textOf (quoted (vs.head?.getD .null))),
    ("replace", total (· = 3) fun vs =>
      if vs.any Value.isNull then .null
      else match vs with
        | [v, p, by_] =>
          if p.textBytes.isEmpty then .text v.textBytes
          else textOf (replaced p.chars by_.chars v.chars.length v.chars)
        | _ => .null),
    ("round", total (fun n => n = 1 || n = 2) fun vs =>
      if vs.any Value.isNull then .null
      else match vs with
        | [v] => rounded v 0
        | [v, p] => rounded v p.toInt
        | _ => .null),
    ("sign", total (· = 1) fun vs =>
      match (vs.head?.getD .null).toNumber, vs with
      | .null, _ => .null
      | n, [.text bytes] =>
        if (Numeral.whole? (Value.octets bytes)).isNone then .null else signOf n
      | _, [.blob _] => .null
      | n, _ => signOf n),
    ("soundex", total (· = 1) fun vs => textOf (sound (vs.head?.getD .null).chars)),
    ("sqlite_version", total (· = 0) fun _ => textOf "3.45.0".toList),
    ("sqlite_source_id", total (· = 0) fun _ =>
      textOf ("2024-01-15 17:01:13 " ++ "1066602b2b1976fe58b5150777cced894af17c803e068f5918390d6915b46e1d").toList),
    ("substr", partFunction),
    ("substring", partFunction),
    ("typeof", total (· = 1) fun vs => textOf (vs.head?.getD .null).typeWord),
    ("unicode", strict fun v => (v.chars.head?.map fun c => Value.integer c.toNat).getD .null),
    ("zeroblob", total (· = 1) fun vs =>
      .blob (List.replicate (vs.head?.getD .null).toInt.toNat 0))]
where
  formatValue (vs : List Value) : Value :=
    match vs with
    | [] => .null
    | f :: vs => if f.isNull then .null else
      let bytes := Format.fill f.chars vs
      if bytes.isEmpty then .null else .text bytes
  signOf (n : Value) : Value := .integer (if n.toReal < 0 then -1 else if 0 < n.toReal then 1 else 0)
  partFunction : Function :=
    total (fun n => n = 2 || n = 3) fun vs =>
      if vs.any Value.isNull then .null
      else match vs with
        | [.blob [], _] => .null
        | [.blob [], _, _] => .null
        | [v, start] => part v (narrow start) none
        | [v, start, n] => part v (narrow start) (some (narrow n))
        | _ => .null


end Function
end Upkeep.Sql
