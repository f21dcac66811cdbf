import Upkeep.Sql.Grammar

/-!
# The grammar of definitions

* `Definition.ofText? t`: the table, index, view or trigger that a statement defines.
-/

namespace Upkeep.Sql

namespace Grammar
open Database (Value)
open Reader

/-- How deep the expressions of a definition may be. -/
abbrev Depth := Nat

/-- The table that is read, with the column that its next rules belong to. -/
structure Draft where
  table : TableDefinition
  column : ColumnDefinition

/-- Reads what happens when a row breaks a rule, if it is said. -/
def onConflict? : Reader (Option Conflict) := do
  if ← accept ["ON", "CONFLICT"] then return some (← conflictWord) else return none

/-- Reads a direction, and whether it is down. -/
def isDescending : Reader Bool := do
  if ← accept ["DESC"] then return true
  else
    let _ ← accept ["ASC"]
    return false

/-- Reads what happens to rows that name a row which goes or changes. -/
def keyAction : Reader KeyAction := do
  if ← accept ["SET", "NULL"] then return .setNull
  else if ← accept ["SET", "DEFAULT"] then return .setDefault
  else if ← accept ["CASCADE"] then return .cascade
  else if ← accept ["RESTRICT"] then return .restrict
  else do expect ["NO", "ACTION"]; return .nothing

/-- Reads when a reference is checked, if it is said: whether only at the end. -/
def deferring? : Reader (Option Bool) := do
  let isNot ← accept ["NOT", "DEFERRABLE"]
  if isNot || (← accept ["DEFERRABLE"]) then
    if ← accept ["INITIALLY", "DEFERRED"] then return some !isNot
    else
      let _ ← accept ["INITIALLY", "IMMEDIATE"]
      return some false
  else return none

/-- Reads the actions of a reference, at most `n`. -/
def keyActions : Nat → Reference → Reader Reference
  | 0, r => return r
  | n + 1, r => do
    if ← accept ["ON", "DELETE"] then keyActions n { r with onDelete := ← keyAction }
    else if ← accept ["ON", "UPDATE"] then keyActions n { r with onUpdate := ← keyAction }
    else if ← accept ["ON", "INSERT"] then do
      let _ ← keyAction
      keyActions n r
    else if ← accept ["MATCH"] then do
      let _ ← name
      keyActions n r
    else return r

/-- Reads a reference of some columns behind its first word. -/
def reference (columns : List Text) : Reader Reference := do
  let table ← name
  let keys ←
    if ← follows ["("] then
      inParens (separated (do
        let n ← name
        if ← accept ["COLLATE"] then let _ ← name
        let _ ← isDescending
        return n) most)
    else pure []
  let r ← keyActions most
    { columns, table, keys, onDelete := .nothing, onUpdate := .nothing, isDeferred := false }
  return { r with isDeferred := (← deferring?).getD false }

/-- Reads a condition between parentheses, and how it is written. -/
def writtenCondition (d : Depth) : Reader (Expr × Text) := do
  expect ["("]
  let start ← place
  let e ← expression d orLevel
  let stop ← place
  let t ← written start stop
  expect [")"]
  return (e, t)

def check (d : Depth) : Reader Check := do
  let (e, t) ← writtenCondition d
  return ⟨((← get).ruleName).getD (withoutMarks t), e⟩

def ruleName : Reader Bool := do
  if ← accept ["CONSTRAINT"] then do
    let n ← name
    modify fun s => { s with ruleName := some n }
    return true
  else return false

def forgetRuleName : Reader Unit := modify fun s => { s with ruleName := none }

def partOf (column : Text) (isDescending : Bool) : Term :=
  .make (.column ⟨none, none, column, false, 0⟩) isDescending none

/-- Reads a default value. -/
def defaultValue (d : Depth) : Reader Expr := do
  if ← follows ["("] then inParens (expression d orLevel)
  else if (← follows ["+"]) || (← follows ["-"]) then operand d
  else match ← peek with
    | none => fail
    | some t =>
      match constant? t with
      | some v => do skip; return .constant v
      | none =>
        if moments.any fun (w, _) => t.isKeyword w then operand d
        else do
          let n ← name
          if sameName n "true".toList then return .constant (.integer 1)
          else if sameName n "false".toList then return .constant (.integer 0)
          else return .constant (Value.ofText n)

/-- Reads a rule of a column, if one follows. -/
def columnRule? (d : Depth) (draft : Draft) : Reader (Option Draft) := do
  let c := draft.column
  let t := draft.table
  let keep := fun (c : ColumnDefinition) => pure (some { draft with column := c })
  if ← ruleName then return some draft
  else if ← accept ["DEFAULT"] then keep { c with default? := some (← defaultValue d) }
  else if ← accept ["NULL"] then do
    let _ ← onConflict?
    return some draft
  else if ← accept ["NOT", "NULL"] then keep { c with notNull := some ((← onConflict?).getD .abort) }
  else if ← accept ["PRIMARY", "KEY"] then
    let down ← isDescending
    let conflict ← onConflict?
    let isAutoincrement ← accept ["AUTOINCREMENT"]
    return some { draft with
      table := { t with
        keys := t.keys ++ [⟨true, [partOf c.name down], conflict⟩]
        isAutoincrement := t.isAutoincrement || isAutoincrement } }
  else if ← accept ["UNIQUE"] then
    let conflict ← onConflict?
    return some { draft with
      table := { t with keys := t.keys ++ [⟨false, [partOf c.name false], conflict⟩] } }
  else if ← accept ["CHECK"] then
    return some { draft with table := { t with checks := t.checks ++ [← check d] } }
  else if ← accept ["REFERENCES"] then
    return some { draft with table := { t with references := t.references ++ [← reference [c.name]] } }
  else if ← accept ["COLLATE"] then keep { c with collation := some (← name) }
  else if (← accept ["GENERATED", "ALWAYS", "AS"]) || (← accept ["AS"]) then
    let e ← inParens (expression d orLevel)
    let isStored ← accept ["STORED"]
    let _ ← accept ["VIRTUAL"]
    keep { c with generated := some (e, isStored) }
  else match ← deferring? with
    | some isDeferred =>
      let references := match t.references.getLast? with
        | some r => t.references.dropLast ++ [{ r with isDeferred }]
        | none => []
      return some { draft with table := { t with references } }
    | none => return none

/-- Reads the rules of a column, at most `n`. -/
def columnRules (d : Depth) : Nat → Draft → Reader Draft
  | 0, draft => return draft
  | n + 1, draft => do
    match ← columnRule? d draft with
    | some draft => columnRules d n draft
    | none => return draft

def column (d : Depth) (t : TableDefinition) : Reader TableDefinition := do
  let n ← name
  forgetRuleName
  let c : ColumnDefinition :=
    { name := n, type := ← type, collation := none, notNull := none, default? := none, generated := none }
  let draft ← columnRules d most ⟨t, c⟩
  return { draft.table with columns := draft.table.columns ++ [draft.column] }

/-- Reads a rule of a table, if one follows. -/
def tableRule? (d : Depth) (t : TableDefinition) : Reader (Option TableDefinition) := do
  if ← accept [","] then do
    forgetRuleName
    return some t
  else if ← ruleName then return some t
  else if ← accept ["PRIMARY", "KEY"] then
    expect ["("]
    let parts ← separated (term d) most
    let isAutoincrement ← accept ["AUTOINCREMENT"]
    expect [")"]
    return some { t with
      keys := t.keys ++ [⟨true, parts, ← onConflict?⟩]
      isAutoincrement := t.isAutoincrement || isAutoincrement }
  else if ← accept ["UNIQUE"] then
    let parts ← inParens (separated (term d) most)
    return some { t with keys := t.keys ++ [⟨false, parts, ← onConflict?⟩] }
  else if ← accept ["CHECK"] then
    let c ← check d
    let _ ← onConflict?
    return some { t with checks := t.checks ++ [c] }
  else if ← accept ["FOREIGN", "KEY"] then
    let columns ← inParens (separated name most)
    expect ["REFERENCES"]
    return some { t with references := t.references ++ [← reference columns] }
  else return none

/-- Reads the rules of a table, at most `n`. -/
def tableRules (d : Depth) : Nat → TableDefinition → Reader TableDefinition
  | 0, t => return t
  | n + 1, t => do
    match ← tableRule? d t with
    | some t => tableRules d n t
    | none => return t

def tableRuleWords : List String := ["CONSTRAINT", "PRIMARY", "UNIQUE", "CHECK", "FOREIGN"]

/-- Reads the columns and rules of a table, at most `n` columns. -/
def tableParts (d : Depth) : Nat → TableDefinition → Reader TableDefinition
  | 0, _ => fail
  | n + 1, t => do
    let t ← column d t
    if ← accept [","] then
      let next ← peek
      if next.any fun k => tableRuleWords.any k.isKeyword then tableRules d most t
      else tableParts d n t
    else return t

/-- Reads the options of a table. -/
def tableOptions (t : TableDefinition) : Reader TableDefinition := do
  let options ← many (do
    let _ ← accept [","]
    if ← accept ["WITHOUT"] then do
      let n ← name
      if sameName n "rowid".toList then return some true else throw (.unknownOption n)
    else match (← peek).bind Token.name? with
      | some n =>
        if sameName n "strict".toList then do skip; return some false else throw (.unknownOption n)
      | none => return none) most
  return { t with hasNoNumbers := options.contains true, isStrict := options.contains false }

/-- Reads a table behind its first words. -/
def tableBody (d : Depth) (n : Text) : Reader TableDefinition := do
  let t : TableDefinition :=
    { name := n, columns := [], checks := [], keys := [], references := [], isAutoincrement := false
      hasNoNumbers := false, isStrict := false }
  let t ← inParens (tableParts d most t)
  tableOptions t

/-- Reads a trigger behind its first words. -/
def triggerBody (d : Depth) (n : Text) : Reader TriggerDefinition := do
  let timing : Timing ←
    if ← accept ["BEFORE"] then pure .before
    else if ← accept ["AFTER"] then pure .after
    else if ← accept ["INSTEAD", "OF"] then pure .instead
    else pure .before
  let event : Event ←
    if ← accept ["INSERT"] then pure .insert
    else if ← accept ["DELETE"] then pure .delete
    else do
      expect ["UPDATE"]
      if ← accept ["OF"] then pure (.update (← separated name most)) else pure (.update [])
  expect ["ON"]
  let t ← qualifiedName
  let _ ← accept ["FOR", "EACH", "ROW"]
  let condition ← if ← accept ["WHEN"] then some <$> expression d orLevel else pure none
  expect ["BEGIN"]
  let steps ← many (do
    if ← accept ["END"] then return none
    else do
      let s ← statement d
      expect [";"]
      return some s) most
  return { name := n, table := t, timing, event, condition, steps }

/-- Reads the arguments of a module behind their open parenthesis, at most `n` parts: what is written between commas
that lie in no further parentheses. -/
def moduleArguments : Nat → Nat → Nat → Reader (List Text)
  | 0, _, _ => fail
  | n + 1, inner, start => do
    let here ← place
    if inner = 0 && (← accept [")"]) then return [← written start here]
    else if inner = 0 && (← accept [","]) then
      let first ← written start here
      return first :: (← moduleArguments n 0 (← place))
    else if ← accept ["("] then moduleArguments n (inner + 1) start
    else if ← accept [")"] then moduleArguments n (inner - 1) start
    else if (← peek).isNone then fail
    else do skip; moduleArguments n inner start

/-- Reads a definition. -/
def definition (d : Depth) : Reader Definition := do
  expect ["CREATE"]
  let _ ← accept ["TEMP"]
  let _ ← accept ["TEMPORARY"]
  let named : Reader Text := do
    let _ ← accept ["IF", "NOT", "EXISTS"]
    qualifiedName
  if ← accept ["TABLE"] then return .table (← tableBody d (← named))
  else if ← accept ["VIEW"] then
    let n ← named
    let columns ← if ← follows ["("] then inParens (separated name most) else pure []
    expect ["AS"]
    return .view ⟨n, columns, ← query d⟩
  else if ← accept ["TRIGGER"] then return .trigger (← triggerBody d (← named))
  else if ← accept ["VIRTUAL", "TABLE"] then
    let n ← named
    expect ["USING"]
    let m ← name
    let arguments ← if ← accept ["("] then moduleArguments most 0 (← place) else pure []
    return .kept ⟨n, m, arguments.filter fun t => !t.isEmpty⟩
  else
    let isUnique ← accept ["UNIQUE"]
    expect ["INDEX"]
    let n ← named
    expect ["ON"]
    let t ← name
    let parts ← inParens (separated (term d) most)
    return .index ⟨n, t, isUnique, parts, ← condition? d⟩

end Grammar

def Definition.ofText? (t : Text) : Except Flaw Definition :=
  Reader.run t (Grammar.definition (t.length + 100))

end Upkeep.Sql
