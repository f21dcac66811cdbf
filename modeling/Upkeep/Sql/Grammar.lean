import Upkeep.Sql.Reader
import Upkeep.Sql.Value

/-!
# The grammar of expressions and queries

Operators bind more or less tightly. An expression is read from its first operand on: an operator takes what
stands before it if it binds as tightly as is asked for, and behind it what binds more tightly than itself.

* `Grammar.expression`, `Grammar.query`: an expression and a query.
* `Grammar.statement`: a statement that reads or changes rows.
-/

namespace Upkeep.Sql.Grammar
open Database (Value)
open Reader

/-- How many items a list may have. -/
def most : Nat := 100000

/-- How tightly operators bind. -/
def orLevel : Nat := 0

/-- Behind `NOT` everything goes on that binds more tightly than it. -/
def equalLevel : Nat := 3

def orderLevel : Nat := 4

def operandLevel : Nat := 10

/-- The operators of two operands that are one token, with their levels. -/
def operators : List (String × Nat × BinaryOp) :=
  [("OR", 0, .or), ("AND", 1, .and), ("=", 3, .equal), ("==", 3, .equal), ("<>", 3, .differ),
    ("!=", 3, .differ), ("<", 4, .less), ("<=", 4, .notMore), (">", 4, .more), (">=", 4, .notLess),
    ("&", 5, .bitAnd), ("|", 5, .bitOr), ("<<", 5, .shiftLeft), (">>", 5, .shiftRight), ("+", 6, .plus),
    ("-", 6, .minus), ("*", 7, .times), ("/", 7, .divide), ("%", 7, .remainder), ("||", 8, .join),
    ("->", 8, .member), ("->>", 8, .memberText)]

def operator? (t : Token) : Option (Nat × BinaryOp) :=
  (operators.find? fun (w, _) => t.isKeyword w || t.isSign w).map (·.2)

def matchWords : List (String × MatchOp) :=
  [("LIKE", .like), ("GLOB", .glob), ("REGEXP", .regexp), ("MATCH", .document)]

def moments : List (String × Moment) :=
  [("CURRENT_DATE", .date), ("CURRENT_TIME", .time), ("CURRENT_TIMESTAMP", .dateTime)]

def hexValue (digits : Text) : Nat :=
  digits.foldl (fun n c => 16 * n + (if c.isDigit then c.toNat - 48 else c.toLower.toNat - 87)) 0

def numberValue (t : Token) : Value :=
  match t.written with
  | '0' :: x :: digits =>
    if x.toLower = 'x' then
      let n : Int := hexValue digits
      .integer (if n ≤ greatestWhole then n else n - (Nat.pow 2 64 : Nat))
    else plain
  | _ => plain
where
  plain : Value :=
    match Numeral.leading? t.written with
    | some n => if n.isWhole then Value.ofInt n.int else Value.ofReal n.real
    | none => .null

/-- The bytes that pairs of digits of base sixteen write. -/
def hexBytes : Text → Database.Bytes
  | a :: b :: rest => UInt8.ofNat (hexValue [a, b]) :: hexBytes rest
  | _ => []

/-- The value that a token is, if it is one. -/
def constant? (t : Token) : Option Value :=
  if t.kind = .integer ∨ t.kind = .real then some (numberValue t)
  else if t.kind = .string then some (Value.ofText (withoutMarks t.written))
  else if t.kind = .blob then some (.blob (hexBytes ((t.written.drop 2).dropLast)))
  else if t.isKeyword "NULL" then some .null
  else none

/-- Reads the words of a type, up to a word that announces a rule. -/
def typeWords : Nat → Reader Unit
  | 0 => fail
  | n + 1 => do
    match ← peek with
    | none => return
    | some t =>
      if (t.name?).isSome && !t.isKeyword "GENERATED" then do skip; typeWords n else return

def type : Reader Text := do
  let start ← place
  typeWords most
  if (← place) ≠ start then
    if ← accept ["("] then skipParens most 0
  written start (← place)

/-- Reads what happens when a row breaks a rule. -/
def conflictWord : Reader Conflict := do
  if ← accept ["ROLLBACK"] then return .rollback
  else if ← accept ["ABORT"] then return .abort
  else if ← accept ["FAIL"] then return .fail
  else if ← accept ["IGNORE"] then return .ignore
  else do expect ["REPLACE"]; return .replace

/-- Reads how a source is joined to those before it, if one follows. -/
def joint? : Reader (Option (JoinKind × Bool)) := do
  if ← accept [","] then return some (.inner, false)
  let isNatural ← accept ["NATURAL"]
  let kind : JoinKind ←
    if ← accept ["LEFT"] then pure .left
    else if ← accept ["RIGHT"] then pure .right
    else if ← accept ["FULL"] then pure .full
    else do
      let _ ← accept ["INNER"]
      if ← accept ["CROSS"] then pure .cross else pure .inner
  let _ ← accept ["OUTER"]
  let isNatural' ← accept ["NATURAL"]
  if ← accept ["JOIN"] then return some (kind, isNatural || isNatural')
  else return none

mutual

/-- Reads an expression whose operators bind at least as tightly as a level. -/
def expression : Nat → Nat → Reader Expr
  | 0, _ => fail
  | fuel + 1, level => do
    let first ← operand fuel
    operations fuel level first

/-- Reads the operators and operands behind an expression. -/
def operations : Nat → Nat → Expr → Reader Expr
  | 0, _, _ => fail
  | fuel + 1, level, left => do
    match ← peek with
    | none => return left
    | some t =>
      match operator? t with
      | some (own, op) =>
        if own < level then return left
        else do
          skip
          let right ← expression fuel (own + 1)
          operations fuel level (.binary op left right)
      | none =>
        if t.isKeyword "COLLATE" then do
          skip
          let c ← name
          operations fuel level (.collate left c)
        else if equalLevel < level then return left
        else do
          match ← comparison? fuel left with
          | some e => operations fuel level e
          | none => return left

/-- Reads a comparison that is written in words, if there is one. -/
def comparison? : Nat → Expr → Reader (Option Expr)
  | 0, _ => fail
  | fuel + 1, left => do
    if ← accept ["ISNULL"] then return some (.isNull false left)
    else if ← accept ["NOTNULL"] then return some (.isNull true left)
    else if ← accept ["NOT", "NULL"] then return some (.isNull true left)
    else if ← accept ["IS"] then
      let isNegated ← accept ["NOT"]
      let isDistinct ← accept ["DISTINCT", "FROM"]
      let right ← expression fuel orderLevel
      return some <| match right with
        | .constant .null => .isNull (isNegated != isDistinct) left
        | right => .same (isNegated != isDistinct) left right
    else
      let rest := (← get).rest
      let isNegated := (rest.head?.any fun t => t.isKeyword "NOT")
      let word := if isNegated then rest[1]? else rest[0]?
      match word with
      | none => return none
      | some w =>
        let skipWords : Reader Unit := do
          if isNegated then skip
          skip
        match (matchWords.find? fun (m, _) => w.isKeyword m).map (·.2) with
        | some op =>
          skipWords
          let pattern ← expression fuel orderLevel
          let escape ← if ← accept ["ESCAPE"] then some <$> expression fuel orderLevel else pure none
          return some (.compare op isNegated left pattern escape)
        | none =>
          if w.isKeyword "BETWEEN" then
            skipWords
            let low ← expression fuel 2
            expect ["AND"]
            let high ← expression fuel orderLevel
            return some (.between isNegated left low high)
          else if w.isKeyword "IN" then
            skipWords
            if ← accept ["("] then
              if ← accept [")"] then return some (.inList isNegated left [])
              else if (← follows ["SELECT"]) || (← follows ["VALUES"]) || (← follows ["WITH"]) then
                let q ← query fuel
                expect [")"]
                return some (.inQuery isNegated left q)
              else
                let es ← separated (expression fuel orLevel) most
                expect [")"]
                return some (.inList isNegated left es)
            else
              let first ← name
              let (database, table) ←
                if ← accept ["."] then pure (some first, ← name) else pure (none, first)
              let link := Link.make .inner false none []
              let source ←
                if ← accept ["("] then do pure (Source.function link table (← arguments fuel) none)
                else pure (Source.table link database table none .free)
              let q := Query.make [] (.select false [.all] [source] none [] none []) [] [] none none
              return some (.inQuery isNegated left q)
          else return none

/-- Reads an operand with the signs and words in front of it. -/
def operand : Nat → Reader Expr
  | 0 => fail
  | fuel + 1 => do
    if ← accept ["NOT"] then return .unary .not (← expression fuel equalLevel)
    else if ← accept ["-"] then
      match ← peek with
      | some t =>
        if t.kind = .integer ∧ t.written = "9223372036854775808".toList then do
          skip
          return .constant (.integer leastWhole)
        else return .unary .negate (← expression fuel operandLevel)
      | none => fail
    else if ← accept ["+"] then return .unary .keep (← expression fuel operandLevel)
    else if ← accept ["~"] then return .unary .invert (← expression fuel operandLevel)
    else if ← accept ["CAST", "("] then
      let e ← expression fuel orLevel
      expect ["AS"]
      let t ← type
      expect [")"]
      return .cast e t
    else if ← accept ["CASE"] then
      let subject ←
        if ← follows ["WHEN"] then pure none else some <$> expression fuel orLevel
      let cases ← many (do
        if ← accept ["WHEN"] then
          let e ← expression fuel orLevel
          expect ["THEN"]
          return some (e, ← expression fuel orLevel)
        else return none) most
      let otherwise ← if ← accept ["ELSE"] then some <$> expression fuel orLevel else pure none
      if cases.isEmpty then fail
      expect ["END"]
      return .choice subject cases otherwise
    else if ← accept ["EXISTS"] then return .holds (← inParens (query fuel))
    else if ← accept ["RAISE", "("] then
      if ← accept ["IGNORE"] then do
        expect [")"]
        return .raise .ignore []
      else do
        let how ← conflictWord
        expect [","]
        let message ← name
        expect [")"]
        return .raise how message
    else if ← accept ["("] then
      if (← follows ["SELECT"]) || (← follows ["VALUES"]) || (← follows ["WITH"]) then
        let q ← query fuel
        expect [")"]
        return .query q
      else
        let es ← separated (expression fuel orLevel) most
        expect [")"]
        match es with
        | [e] => return e
        | es => return .row es
    else match ← peek with
      | none => fail
      | some t =>
        match constant? t, moments.find? fun (w, _) => t.isKeyword w with
        | some v, _ => do skip; return .constant v
        | none, some (_, m) => do skip; return .moment m
        | none, none =>
          if t.kind = .parameter then do
            skip
            return .parameter (Numeral.value (t.written.filter Char.isDigit))
          else match t.name? with
            | none => fail
            | some n => do
              skip
              if ← accept ["("] then call fuel n t.start
              else
                let isQuoted := t.written.head? = some '"'
                if ← accept ["."] then
                  let m ← name
                  if ← accept ["."] then return .column ⟨some n, some m, ← name, false, t.start⟩
                  else return .column ⟨none, some n, m, false, t.start⟩
                else return .column ⟨none, none, n, isQuoted, t.start⟩

/-- Reads the rest of a call behind its open parenthesis. -/
def call : Nat → Text → Nat → Reader Expr
  | 0, _, _ => fail
  | fuel + 1, n, start => do
    let isDistinct ← accept ["DISTINCT"]
    let _ ← accept ["ALL"]
    let args ←
      if ← accept ["*"] then pure none
      else if (← follows [")"]) || (← follows ["ORDER"]) then pure (some [])
      else some <$> separated (expression fuel orLevel) most
    let order ← if ← accept ["ORDER", "BY"] then separated (term fuel) most else pure []
    expect [")"]
    let filter ←
      if ← accept ["FILTER", "("] then do
        expect ["WHERE"]
        let e ← expression fuel orLevel
        expect [")"]
        pure (some e)
      else pure none
    let within ←
      if ← accept ["OVER"] then
        if ← accept ["("] then do pure (some (Over.own (← window fuel)))
        else do pure (some (Over.named (← name)))
      else pure none
    if isDistinct && within.isSome then throw (.refused "DISTINCT is not supported for window functions")
    return .call n start isDistinct args order filter within

/-- Reads the arguments of a source behind an open parenthesis. -/
def arguments : Nat → Reader (List Expr)
  | 0 => fail
  | fuel + 1 => do
    if ← accept [")"] then return []
    else
      let es ← separated (expression fuel orLevel) most
      expect [")"]
      return es

/-- Reads a window behind its open parenthesis. -/
def window : Nat → Reader WindowDefinition
  | 0 => fail
  | fuel + 1 => do
    let isBase := !((← follows ["PARTITION"]) || (← follows ["ORDER"]) || (← follows ["ROWS"]) ||
      (← follows ["RANGE"]) || (← follows ["GROUPS"]) || (← follows [")"]))
    let base ← if isBase then some <$> name else pure none
    let parts ←
      if ← accept ["PARTITION", "BY"] then separated (expression fuel orLevel) most else pure []
    let order ← if ← accept ["ORDER", "BY"] then separated (term fuel) most else pure []
    let unit : Option FrameUnit ←
      if ← accept ["ROWS"] then pure (some .rows)
      else if ← accept ["RANGE"] then pure (some .values)
      else if ← accept ["GROUPS"] then pure (some .groups)
      else pure none
    let frame ← match unit with
      | none => pure none
      | some u => do
        let (first, last) ←
          if ← accept ["BETWEEN"] then do
            let first ← edge fuel false
            expect ["AND"]
            pure (first, ← edge fuel true)
          else do pure (← edge fuel false, Edge.own)
        let exclusion : Exclusion ←
          if ← accept ["EXCLUDE"] then
            if ← accept ["NO", "OTHERS"] then pure .nothing
            else if ← accept ["CURRENT", "ROW"] then pure .own
            else if ← accept ["GROUP"] then pure .peers
            else do expect ["TIES"]; pure .otherPeers
          else pure .nothing
        if !(Edge.mayFrame first last) then throw (.refused "unsupported frame specification")
        pure (some (Frame.make u first last exclusion))
    expect [")"]
    return .make base parts order frame

/-- Reads the first or the last end of a frame. -/
def edge : Nat → Bool → Reader Edge
  | 0, _ => fail
  | fuel + 1, isLast => do
    if ← accept ["UNBOUNDED", if isLast then "FOLLOWING" else "PRECEDING"] then
      return if isLast then .stop else .start
    else if ← accept ["CURRENT", "ROW"] then return .own
    else
      let e ← expression fuel orLevel
      if ← accept ["PRECEDING"] then return .before e
      else do expect ["FOLLOWING"]; return .after e

/-- Reads an expression with a direction. -/
def term : Nat → Reader Term
  | 0 => fail
  | fuel + 1 => do
    let e ← expression fuel orLevel
    let isDescending ← accept ["DESC"]
    let _ ← accept ["ASC"]
    let nullsFirst ←
      if ← accept ["NULLS", "FIRST"] then pure (some true)
      else if ← accept ["NULLS", "LAST"] then pure (some false)
      else pure none
    return .make e isDescending nullsFirst

/-- Reads a column of a selection. -/
def result : Nat → Reader Result
  | 0 => fail
  | fuel + 1 => do
    if ← accept ["*"] then return .all
    else
      let rest := (← get).rest
      let isAllOf := (rest[1]?.any fun t => t.isSign ".") && (rest[2]?.any fun t => t.isSign "*")
      if isAllOf then do
        let n ← name
        expect [".", "*"]
        return .allOf n
      else do
        let start ← place
        let e ← expression fuel orLevel
        let stop ← place
        let n ← alias?
        return .expr e n (← written start stop)

/-- Reads a source with its name, but not how it is tied to those before it. -/
def source : Nat → JoinKind → Bool → Reader Source
  | 0, _, _ => fail
  | fuel + 1, kind, isNatural => do
    let finish : Reader Link := do
      if ← accept ["ON"] then return .make kind isNatural (some (← expression fuel orLevel)) []
      else if ← accept ["USING"] then
        return .make kind isNatural none (← inParens (separated name most))
      else return .make kind isNatural none []
    if ← accept ["("] then
      if (← follows ["SELECT"]) || (← follows ["VALUES"]) || (← follows ["WITH"]) then
        let q ← query fuel
        expect [")"]
        let a ← alias?
        return .query (← finish) q a
      else
        let inner ← sources fuel
        expect [")"]
        let a ← alias?
        return .group (← finish) inner a
    else
      let first ← name
      let (database, table) ←
        if ← accept ["."] then pure (some first, ← name) else pure (none, first)
      if ← accept ["("] then
        let args ← arguments fuel
        let a ← alias?
        return .function (← finish) table args a
      else
        let a ← alias?
        let hint : Hint ←
          if ← accept ["INDEXED", "BY"] then do pure (.through (← name))
          else if ← accept ["NOT", "INDEXED"] then pure .directly
          else pure .free
        return .table (← finish) database table a hint

def sources : Nat → Reader (List Source)
  | 0 => fail
  | fuel + 1 => do
    let first ← source fuel .inner false
    let more ← many (do
      match ← joint? with
      | some (kind, isNatural) => return some (← source fuel kind isNatural)
      | none => return none) most
    return first :: more

/-- Reads a selection. -/
def selection : Nat → Reader Selection
  | 0 => fail
  | fuel + 1 => do
    if ← accept ["VALUES"] then
      return .values (← separated (inParens (separated (expression fuel orLevel) most)) most)
    else do
      expect ["SELECT"]
      let isDistinct ← accept ["DISTINCT"]
      let _ ← accept ["ALL"]
      let results ← separated (result fuel) most
      let from_ ← if ← accept ["FROM"] then sources fuel else pure []
      let condition ← if ← accept ["WHERE"] then some <$> expression fuel orLevel else pure none
      let groups ←
        if ← accept ["GROUP", "BY"] then separated (expression fuel orLevel) most else pure []
      let having ← if ← accept ["HAVING"] then some <$> expression fuel orLevel else pure none
      let windows ←
        if ← accept ["WINDOW"] then
          separated (do
            let n ← name
            expect ["AS", "("]
            return (n, ← window fuel)) most
        else pure []
      return .select isDistinct results from_ condition groups having windows

/-- Reads a query. -/
def query : Nat → Reader Query
  | 0 => fail
  | fuel + 1 => do
    let tables ←
      if ← accept ["WITH"] then do
        let _ ← accept ["RECURSIVE"]
        separated (do
          let n ← name
          let columns ← if ← follows ["("] then inParens (separated name most) else pure []
          expect ["AS"]
          let isOpen ← accept ["NOT", "MATERIALIZED"]
          let isSealed ← if isOpen then pure false else accept ["MATERIALIZED"]
          return NamedQuery.make n columns isSealed (← inParens (query fuel))) most
      else pure []
    let first ← selection fuel
    let more ← many (do
      if ← accept ["UNION"] then
        let op := if ← accept ["ALL"] then SetOp.unionAll else SetOp.union
        return some (op, ← selection fuel)
      else if ← accept ["EXCEPT"] then return some (SetOp.except, ← selection fuel)
      else if ← accept ["INTERSECT"] then return some (SetOp.intersect, ← selection fuel)
      else return none) most
    let order ← if ← accept ["ORDER", "BY"] then separated (term fuel) most else pure []
    if ← accept ["LIMIT"] then
      let a ← expression fuel orLevel
      if ← accept ["OFFSET"] then
        return .make tables first more order (some a) (some (← expression fuel orLevel))
      else if ← accept [","] then
        return .make tables first more order (some (← expression fuel orLevel)) (some a)
      else return .make tables first more order (some a) none
    else return .make tables first more order none none

end

/-! ## Statements -/

/-- Reads the name of a table or something like it. The name of the database in front of it says nothing
more. -/
def qualifiedName : Reader Text := do
  let first ← name
  if ← accept ["."] then name else return first

/-- Reads the table that a statement changes. -/
def target : Reader Text := do
  let first ← name
  if ← accept ["."] then
    throw (.refused ("qualified table names are not allowed on INSERT, UPDATE, and DELETE statements within " ++
      "triggers"))
  else return first

/-- Refuses to say how the rows of a table that is changed are reached. -/
def noHint : Reader Unit := do
  let refuse := fun (words : String) => throw (.refused ("the " ++ words ++
    " clause is not allowed on UPDATE or DELETE statements within triggers"))
  if ← accept ["INDEXED", "BY"] then refuse "INDEXED BY"
  else if ← accept ["NOT", "INDEXED"] then refuse "NOT INDEXED"

/-- Reads what columns are set to. -/
def changes (fuel : Nat) : Reader (List (List Text × Expr)) :=
  separated (do
    let columns ← if ← follows ["("] then inParens (separated name most) else pure [← name]
    expect ["="]
    return (columns, ← expression fuel orLevel)) most

def condition? (fuel : Nat) : Reader (Option Expr) := do
  if ← accept ["WHERE"] then return some (← expression fuel orLevel) else return none

/-- Reads what an insertion does when it meets a key, if it says so. -/
def upsert? (fuel : Nat) : Reader (Option Upsert) := do
  if ← accept ["ON", "CONFLICT"] then
    let (parts, condition) ←
      if ← follows ["("] then do
        let parts ← inParens (separated (term fuel) most)
        pure (parts, ← condition? fuel)
      else pure ([], none)
    expect ["DO"]
    if ← accept ["NOTHING"] then return some ⟨parts, condition, .nothing⟩
    else do
      expect ["UPDATE", "SET"]
      let cs ← changes fuel
      return some ⟨parts, condition, .update cs (← condition? fuel)⟩
  else return none

def insertion (fuel : Nat) (conflict : Option Conflict) : Reader Statement := do
  expect ["INTO"]
  let table ← target
  let columns ← if ← follows ["("] then some <$> inParens (separated name most) else pure none
  if ← accept ["DEFAULT", "VALUES"] then return .insert conflict table columns none []
  else
    let q ← query fuel
    let upserts ← many (upsert? fuel) most
    if ← accept ["RETURNING"] then throw (.refused "cannot use RETURNING in a trigger")
    return .insert conflict table columns (some q) upserts

/-- Reads `OR` and what happens when a row breaks a rule, if it is said. -/
def conflict? : Reader (Option Conflict) := do
  if ← accept ["OR"] then return some (← conflictWord) else return none

/-- Reads a statement. -/
def statement (fuel : Nat) : Reader Statement := do
  if ← accept ["INSERT"] then insertion fuel (← conflict?)
  else if ← accept ["REPLACE"] then insertion fuel (some .replace)
  else if ← accept ["UPDATE"] then
    let conflict ← conflict?
    let table ← target
    noHint
    expect ["SET"]
    let cs ← changes fuel
    let from_ ← if ← accept ["FROM"] then sources fuel else pure []
    return .update conflict table cs from_ (← condition? fuel)
  else if ← accept ["DELETE", "FROM"] then
    let table ← target
    noHint
    return .delete table (← condition? fuel)
  else return .select (← query fuel)

def statement? (t : Text) : Except Flaw Statement := Reader.run t (statement (t.length + 100))

end Upkeep.Sql.Grammar
