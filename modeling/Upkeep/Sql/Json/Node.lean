import Upkeep.Sql.Function.Format

/-!
# Documents in values

A text may be a document: numbers, texts, lists and objects. Documents are read more generously than they are
written: names may stand without marks, texts between single ones, and there may be comments. A node keeps how its
numbers and texts are written.

* `Json.Node.ofText? t`: the document that a text is, and whether it is written strictly.
* `Json.Node.text n`: a document as a text.
* `Json.Node.value n`: a node as a value.
* `Json.Node.size n`: how many bytes a node has in its short form.
-/

namespace Upkeep.Sql.Json
open Database (Value Bytes)

/-- How the characters of a text in a document are written. -/
inductive TextForm where
  /-- As they are; none has to be escaped. -/
  | plain
  /-- With escapes. -/
  | escaped
  /-- With escapes of the generous kind. -/
  | loose
  /-- As they are, though some have to be escaped. -/
  | raw
  deriving DecidableEq, Repr

/-- A document. -/
inductive Node where
  | null
  | bool (b : Bool)
  /-- A number as it is written, of the strict or the generous kind. -/
  | number (written : Text) (isWhole isLoose : Bool)
  | string (chars : Text) (form : TextForm)
  | list (items : List Node)
  | object (members : List ((Text × TextForm) × Node))

/-! ## Characters -/

def isBlank (c : Char) : Bool := c == ' ' || c == '\t' || c == '\n' || c == '\r'

def isLooseBlank (c : Char) : Bool :=
  isBlank c || c == '\x0b' || c == '\x0c' ||
    [0xA0, 0x1680, 0x2028, 0x2029, 0x202F, 0x205F, 0x3000, 0xFEFF].contains c.toNat ||
    decide (0x2000 ≤ c.toNat ∧ c.toNat ≤ 0x200A)

def isNameChar (c : Char) : Bool := c.isAlphanum || c == '_' || c == '$' || decide (0x80 ≤ c.toNat)

def hexDigit? (c : Char) : Option Nat :=
  if c.isDigit then some (c.toNat - 48)
  else if 'a' ≤ c.toLower ∧ c.toLower ≤ 'f' then some (c.toLower.toNat - 87)
  else none

/-- The number that some digits of base sixteen in front of a text write. -/
def hexNumber? (count : Nat) (t : Text) : Option Nat := do
  let ds ← (t.take count).mapM hexDigit?
  if ds.length = count then some (ds.foldl (fun n d => 16 * n + d) 0) else none

def startsWithWord (w : String) (t : Text) : Bool := sameName (t.take w.length) w.toList

/-! ## Reading -/

/-- What has been read: a node, the rest, and whether it is all strict. -/
structure Read where
  node : Node
  rest : Text
  isStrict : Bool

def behindComment? : Text → Option Text
  | '/' :: '*' :: t => (Text.breakOn? "*/".toList t).map (·.2)
  | '/' :: '/' :: t => some (t.dropWhile fun c => c != '\n' && c != '\r' && c.toNat != 0x2028 && c.toNat != 0x2029)
  | _ => none

/-- A text without blanks in front, and whether they are all strict. -/
def unblanked : Nat → Text → Text × Bool
  | 0, t => (t, true)
  | n + 1, t =>
    let rest := t.dropWhile isBlank
    match rest with
    | [] => ([], true)
    | c :: more =>
      if isLooseBlank c then ((unblanked n more).1, false)
      else match behindComment? rest with
        | some rest => ((unblanked n rest).1, false)
        | none => (rest, true)

/-- The characters of a text up to its mark, how they are written, and the rest. -/
def textBody? (mark : Char) : Nat → Text → Option (Text × TextForm × Text)
  | 0, _ => none
  | _, [] => none
  | n + 1, c :: t =>
    let put := fun (own : Text) (form : TextForm) (rest : Text) => do
      let (more, f, rest) ← textBody? mark n rest
      let f := if form = .loose ∨ f = .loose then .loose else if form = .escaped then .escaped else f
      some (own ++ more, f, rest)
    if c = mark then some ([], .plain, t)
    else if c = '\\' then
      match t with
      | [] => none
      | d :: t =>
        if "\"\\/bfnrt".toList.contains d then put [c, d] .escaped t
        else if d = 'u' then
          if (hexNumber? 4 t).isSome then put (c :: d :: t.take 4) .escaped (t.drop 4) else none
        else if d = '\'' ∨ d = 'v' ∨ d = '\n' ∨ d.toNat = 0x2028 ∨ d.toNat = 0x2029 then put [c, d] .loose t
        else if d = '0' then
          if t.head?.any Char.isDigit then none else put [c, d] .loose t
        else if d = 'x' then
          if (hexNumber? 2 t).isSome then put (c :: d :: t.take 2) .loose (t.drop 2) else none
        else if d = '\r' then
          if t.head? = some '\n' then put [c, d, '\n'] .loose (t.drop 1) else put [c, d] .loose t
        else none
    else if c = '\x00' then none
    else if c.toNat < 32 ∨ c = '"' then put [c] .loose t
    else put [c] .plain t

/-- The digits, the point and the power of a number behind its first character, with the character read last,
whether there is a point or a power, and whether it is strict. -/
def numberBody? : Nat → Text → Char → Char → Bool → Bool → Option (Text × Text × Bool × Bool)
  | 0, _, _, _, _, _ => none
  | n + 1, t, last, before, isReal, hasPower =>
    -- A number may end with a point only behind a digit, and then it is not strict.
    let ends := fun (t : Text) =>
      if last.isDigit then some ([], t, isReal, true)
      else if last = '.' ∧ before.isDigit then some ([], t, isReal, false)
      else none
    match t with
    | [] => ends []
    | c :: t =>
      if c.isDigit then (numberBody? n t c last isReal hasPower).map fun (b, r) => (c :: b, r)
      else if c = '.' then
        if isReal then none else (numberBody? n t c last true hasPower).map fun (b, r) => (c :: b, r)
      else if c = 'e' ∨ c = 'E' then
        if hasPower then none
        else
          let isStrict := last.isDigit
          if !isStrict && !(last == '.' && before.isDigit) then none
          else
            let (sign, t) := match t with
              | '+' :: t => (['+'], t)
              | '-' :: t => (['-'], t)
              | t => ([], t)
            match t with
            | d :: t =>
              if d.isDigit then
                (numberBody? n t d 'e' true true).map fun (b, r, real, s) =>
                  (c :: sign ++ d :: b, r, real, s && isStrict)
              else none
            | [] => none
      else ends (c :: t)

/-- A number in base sixteen behind its two first characters, with those in front of it. -/
def hexNumber (front t : Text) : Read :=
  let ds := t.takeWhile fun c => (hexDigit? c).isSome
  ⟨.number (front ++ ds) true true, t.drop ds.length, false⟩

/-- A number, at most its sign passed over. -/
def number? (t : Text) : Option Read :=
  let isHex := fun (t : Text) => match t with
    | x :: d :: _ => (x == 'x' || x == 'X') && (hexDigit? d).isSome
    | _ => false
  let go := fun (front : Text) (first : Char) (before : Char) (t : Text) (isReal isStrict : Bool) => do
    let (body, rest, real, strict) ← numberBody? (t.length + 1) t first before isReal false
    let strict := strict && isStrict
    some ⟨.number (front ++ body) (!real) (!strict), rest, strict⟩
  let isPlus := t.head? == some '+'
  let (sign, body) : Text × Text := match t with
    | '+' :: t => ([], t)
    | '-' :: t => (['-'], t)
    | t => ([], t)
  match body with
  | '0' :: rest =>
    if isHex rest then some (hexNumber (sign ++ '0' :: rest.take 1) (rest.drop 1))
    else if rest.head?.any Char.isDigit then none
    else (go (sign ++ ['0']) '0' ' ' rest false (!isPlus)).map fun r => { r with isStrict := r.isStrict && !isPlus }
  | '.' :: c :: rest =>
    if c.isDigit then go (sign ++ ['.', c]) c '.' rest true false
    else none
  | c :: rest =>
    if c.isDigit then
      match go (sign ++ [c]) c ' ' rest false true with
      | some ⟨.number w whole loose, r, s⟩ => some ⟨.number w whole loose, r, s && !isPlus⟩
      | r => r
    else if (isPlus || !sign.isEmpty) && startsWithWord "inf" body then
      some ⟨.number (sign ++ "9e999".toList) false false,
        body.drop (if startsWithWord "infinity" body then 8 else 3), false⟩
    else none
  | [] => none

/-- A word for an infinite number or for no number. -/
def oddNumber? (t : Text) : Option Read :=
  let word? := fun (w : String) (n : Node) =>
    if startsWithWord w t && !((t.drop w.length).head?.any Char.isAlphanum) then
      some (⟨n, t.drop w.length, false⟩ : Read)
    else none
  let infinite : Node := .number "9e999".toList false false
  (((word? "inf" infinite).or (word? "infinity" infinite)).or ((word? "nan" .null).or (word? "qnan" .null))).or
    (word? "snan" .null)

/-- How many nodes may lie in each other. -/
def deepest : Nat := 1000

mutual

/-- Reads a node. The first number bounds how many steps there are, the second how deep nodes lie. -/
def node? : Nat → Nat → Text → Option Read
  | 0, _, _ => none
  | fuel + 1, depth, t =>
    let (t, s) := unblanked (t.length + 1) t
    let given := fun (r : Read) => some { r with isStrict := r.isStrict && s }
    let word? := fun (w : String) (n : Node) =>
      match Text.after? w.toList t with
      | some rest => if rest.head?.any Char.isAlphanum then none else some (⟨n, rest, s⟩ : Read)
      | none => none
    match t with
    | '{' :: rest =>
      if depth = 0 then none
      else do
        let (ms, rest, strict) ← members? fuel (depth - 1) true rest
        given ⟨.object ms, rest, strict⟩
    | '[' :: rest =>
      if depth = 0 then none
      else do
        let (ns, rest, strict) ← items? fuel (depth - 1) true rest
        given ⟨.list ns, rest, strict⟩
    | '"' :: rest => do
      let (cs, form, rest) ← textBody? '"' (rest.length + 1) rest
      given ⟨.string cs form, rest, form != .loose⟩
    | '\'' :: rest => do
      let (cs, form, rest) ← textBody? '\'' (rest.length + 1) rest
      given ⟨.string cs form, rest, false⟩
    | [] => none
    | c :: _ =>
      if c.isDigit ∨ c = '-' ∨ c = '+' ∨ c = '.' then (number? t).bind given
      else (((word? "true" (.bool true)).or (word? "false" (.bool false))).or (word? "null" .null)).or
        ((oddNumber? t).bind given)

/-- Reads the items of a list. A comma behind the last one is not strict. -/
def items? : Nat → Nat → Bool → Text → Option (List Node × Text × Bool)
  | 0, _, _, _ => none
  | fuel + 1, depth, isFirst, t =>
    let (u, s) := unblanked (t.length + 1) t
    match u with
    | ']' :: rest => some ([], rest, isFirst && s)
    | _ => do
      let r ← node? fuel depth t
      let (u, s) := unblanked (r.rest.length + 1) r.rest
      match u with
      | ',' :: rest => do
        let (ns, rest, strict) ← items? fuel depth false rest
        some (r.node :: ns, rest, r.isStrict && s && strict)
      | ']' :: rest => some ([r.node], rest, r.isStrict && s)
      | _ => none

/-- Reads the members of an object. -/
def members? : Nat → Nat → Bool → Text → Option (List ((Text × TextForm) × Node) × Text × Bool)
  | 0, _, _, _ => none
  | fuel + 1, depth, isFirst, t =>
    let (u, s) := unblanked (t.length + 1) t
    match u with
    | '}' :: rest => some ([], rest, isFirst && s)
    | _ => do
      let (key, rest, strict) ← name? u
      let (u, s') := unblanked (rest.length + 1) rest
      match u with
      | ':' :: rest => do
        let r ← node? fuel depth rest
        let strict := strict && s && s' && r.isStrict
        let (u, s) := unblanked (r.rest.length + 1) r.rest
        match u with
        | ',' :: rest => do
          let (ms, rest, more) ← members? fuel depth false rest
          some ((key, r.node) :: ms, rest, strict && s && more)
        | '}' :: rest => some ([(key, r.node)], rest, strict && s)
        | _ => none
      | _ => none

/-- Reads the name of a member. -/
def name? : Text → Option ((Text × TextForm) × Text × Bool)
  | '"' :: rest => do
    let (cs, form, rest) ← textBody? '"' (rest.length + 1) rest
    some ((cs, form), rest, form != .loose)
  | '\'' :: rest => do
    let (cs, form, rest) ← textBody? '\'' (rest.length + 1) rest
    some ((cs, form), rest, false)
  | c :: t =>
    if isNameChar c && !c.isDigit && !isLooseBlank c then
      let own := (c :: t).takeWhile fun c => isNameChar c && !isLooseBlank c
      some ((own, .plain), (c :: t).drop own.length, false)
    else none
  | [] => none

end

def Node.ofText? (t : Text) : Option (Node × Bool) := do
  let r ← node? (2 * t.length + 2) deepest t
  let (rest, s) := unblanked (r.rest.length + 1) r.rest
  if rest.isEmpty then some (r.node, r.isStrict && s) else none

/-! ## Texts -/

/-- Digits of base sixteen for a number. -/
def hexText (width n : Nat) : Text := Decimal.hexDigits width n

/-- A character as it is written between marks. -/
def escapedChar (c : Char) : Text :=
  match c with
  | '"' => "\\\"".toList
  | '\\' => "\\\\".toList
  | '\n' => "\\n".toList
  | '\r' => "\\r".toList
  | '\t' => "\\t".toList
  | '\x08' => "\\b".toList
  | '\x0c' => "\\f".toList
  | c => if c.toNat < 32 then "\\u".toList ++ hexText 4 c.toNat else [c]

def quoted (t : Text) : Text := '"' :: t.flatMap escapedChar ++ ['"']

/-- The units of sixteen bits that an escape behind `u` writes, as bytes, and the rest. -/
def unitBytes (t : Text) : Bytes × Text :=
  let n := (hexNumber? 4 t).getD 0
  let rest := t.drop 4
  let low := match rest with
    | '\\' :: 'u' :: more => (hexNumber? 4 more).filter fun m => decide (0xDC00 ≤ m ∧ m < 0xE000)
    | _ => none
  match decide (0xD800 ≤ n ∧ n < 0xDC00), low with
  | true, some m =>
    (Database.Encoding.codePointBytes ((n % 1024) * 1024 + m % 1024 + 0x10000), rest.drop 6)
  | _, _ => (Database.Encoding.codePointBytes n, rest)

/-- The bytes of a text whose escapes are taken away. -/
def unescaped : Nat → Text → Bytes
  | 0, _ => []
  | _, [] => []
  | n + 1, '\\' :: c :: t =>
    let put := fun (d : Char) => d.toNat.toUInt8 :: unescaped n t
    match c with
    | 'b' => put '\x08'
    | 'f' => put '\x0c'
    | 'n' => put '\n'
    | 'r' => put '\r'
    | 't' => put '\t'
    | 'v' => put '\x0b'
    | '0' => put '\x00'
    | 'u' =>
      let (bytes, rest) := unitBytes t
      bytes ++ unescaped n rest
    | 'x' => Database.Encoding.codePointBytes ((hexNumber? 2 t).getD 0) ++ unescaped n (t.drop 2)
    | '\n' => unescaped n t
    | '\r' => unescaped n (if t.head? = some '\n' then t.drop 1 else t)
    | c =>
      if c.toNat = 0x2028 ∨ c.toNat = 0x2029 then unescaped n t
      else (Text.toBytes [c]).toList ++ unescaped n t
  | n + 1, c :: t => (Text.toBytes [c]).toList ++ unescaped n t

/-- A text of the generous kind as it is written strictly. -/
def strictText : Nat → Text → Text
  | 0, _ => []
  | _, [] => []
  | n + 1, '\\' :: c :: t =>
    match c with
    | '\'' => '\'' :: strictText n t
    | 'v' => "\\u000b".toList ++ strictText n t
    | 'x' => "\\u00".toList ++ t.take 2 ++ strictText n (t.drop 2)
    | '0' => "\\u0000".toList ++ strictText n t
    | '\n' => strictText n t
    | '\r' => strictText n (if t.head? = some '\n' then t.drop 1 else t)
    | c =>
      if c.toNat = 0x2028 ∨ c.toNat = 0x2029 then strictText n t
      else '\\' :: c :: strictText n t
  | n + 1, c :: t => escapedChar c ++ strictText n t

/-- A number of the generous kind as it is written strictly. -/
def strictNumber (t : Text) : Text :=
  let (sign, t) : Text × Text := match t with
    | '-' :: t => (['-'], t)
    | t => ([], t)
  match t with
  | '0' :: x :: digits =>
    if x = 'x' ∨ x = 'X' then
      let n := digits.foldl (fun n c => 16 * n + (hexDigit? c).getD 0) 0
      sign ++ if Nat.pow 2 64 ≤ n then "9.0e999".toList else Text.ofNat n
    else sign ++ pointed t
  | '.' :: _ => sign ++ '0' :: pointed t
  | t => sign ++ pointed t
where
  /-- A zero stands behind a point without digits. -/
  pointed : Text → Text
    | '.' :: c :: t => if c.isDigit then '.' :: c :: t else '.' :: '0' :: c :: t
    | ['.'] => ['.', '0']
    | c :: t => c :: pointed t
    | [] => []

def written (chars : Text) (form : TextForm) : Text :=
  match form with
  | .plain => '"' :: chars ++ ['"']
  | .escaped => '"' :: chars ++ ['"']
  | .loose => '"' :: strictText (chars.length + 1) chars ++ ['"']
  | .raw => quoted chars

/-- The bytes of a text in a document. -/
def contents (chars : Text) (form : TextForm) : Bytes :=
  match form with
  | .plain => (Text.toBytes chars).toList
  | .raw => (Text.toBytes chars).toList
  | _ => unescaped (chars.length + 1) chars

namespace Node

mutual

def text : Node → Text
  | null => "null".toList
  | bool b => (if b then "true" else "false").toList
  | number w _ isLoose => if isLoose then strictNumber w else w
  | string cs form => written cs form
  | list ns => '[' :: itemTexts ns ++ [']']
  | object ms => '\x7b' :: memberTexts ms ++ ['\x7d']

/-- The items of a list with commas between them. -/
def itemTexts : List Node → Text
  | [] => []
  | [n] => n.text
  | n :: m :: ns => n.text ++ ',' :: itemTexts (m :: ns)

/-- The members of an object with commas between them. -/
def memberTexts : List ((Text × TextForm) × Node) → Text
  | [] => []
  | [((k, form), n)] => written k form ++ ':' :: n.text
  | ((k, form), n) :: m :: ms => written k form ++ ':' :: n.text ++ ',' :: memberTexts (m :: ms)

end

def numberValue (w : Text) (isWhole isLoose : Bool) : Value :=
  let t := if isLoose then strictNumber w else w
  match Numeral.leading? t with
  | some n => if isWhole && inRange n.int then .integer n.int else .ofReal n.real
  | none => .null

/-- A node as a value. Lists and objects are texts. -/
def value : Node → Value
  | null => .null
  | bool b => .integer (if b then 1 else 0)
  | number w isWhole isLoose => numberValue w isWhole isLoose
  | string cs form => .text (contents cs form)
  | n => .ofText n.text

def hasParts : Node → Bool
  | list _ => true
  | object _ => true
  | _ => false

def typeWord : Node → Text
  | null => "null".toList
  | bool b => (if b then "true" else "false").toList
  | number _ isWhole _ => (if isWhole then "integer" else "real").toList
  | string _ _ => "text".toList
  | list _ => "array".toList
  | object _ => "object".toList

/-- How many bytes stand in front of so many bytes in the short form. -/
def headSize (n : Nat) : Nat := if n ≤ 11 then 1 else if n ≤ 0xFF then 2 else if n ≤ 0xFFFF then 3 else 5

def charsSize (cs : Text) : Nat :=
  let n := (Text.toBytes cs).size
  headSize n + n

mutual

/-- How many bytes a node has in its short form. -/
def size : Node → Nat
  | null => 1
  | bool _ => 1
  | number w _ _ => charsSize w
  | string cs _ => charsSize cs
  | list ns => let n := itemsSize ns; headSize n + n
  | object ms => let n := membersSize ms; headSize n + n

def itemsSize : List Node → Nat
  | [] => 0
  | n :: ns => n.size + itemsSize ns

def membersSize : List ((Text × TextForm) × Node) → Nat
  | [] => 0
  | ((k, _), n) :: ms => charsSize k + n.size + membersSize ms

end

end Node
end Upkeep.Sql.Json
