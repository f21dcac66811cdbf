import Upkeep.Sql.Evaluation.Basic

/-!
# The values of formulas

* `Formula.value e env f`: the value of a formula, when `e` knows the values of its parts.
* `Formula.cells e env f`: the values of a row of values.
-/

namespace Upkeep.Sql
open Database (Value Encoding)

namespace Formula

def firstOfAll (e : Evaluator) (env : Env) : List Formula → Run Datum
  | [] => return .plain .null
  | f :: fs => do
    let d ← e.value env f
    if d.value.isNull then firstOfAll e env fs else return d

/-- The value of the first case that holds. -/
def chosen (e : Evaluator) (env : Env) (subject : Option Value) :
    List (Comparing × Formula × Formula) → Option Formula → Run Datum
  | [], none => return .plain .null
  | [], some f => e.value env f
  | (c, a, b) :: cases, otherwise => do
    let w := (← e.value env a).value
    let holds ← match subject with
      | some v => do pure (c.order? (← encoding) v w == some .eq)
      | none => pure (w.truth? == some true)
    if holds then e.value env b else chosen e env subject cases otherwise

/-- Whether a row is one of some rows. -/
def isMember (enc : Encoding) (how : List Comparing) (vs : List Value) (rows : List (List Value)) : Option Bool :=
  if rows.any fun ws => Comparing.same? enc how vs ws == some true then some true
  else if rows.any fun ws => Comparing.same? enc how vs ws == none then none else some false

def ofMoment (now : Text) : Moment → Value
  | .date => .ofText (now.take 10)
  | .time => .ofText (now.drop 11)
  | .dateTime => .ofText now

/-- What is known of the work that goes on. -/
def ofFact (args : List Value) : Fact → Run Value
  | .changes => do return .integer (← get).changes
  | .allChanges => do return .integer (← get).allChanges
  | .lastNumber => do return .integer (← get).lastNumber
  | .chance => do return .integer (Value.signed (← modifyGet (State.drawn 8)))
  | .chanceBytes => do
    return .blob (← modifyGet (State.drawn (max 1 (args.head?.getD .null).toInt).toNat))

/-- The values of a row of values. -/
def cells (e : Evaluator) (env : Env) : Formula → Run (List Datum)
  | .row fs => e.values env fs
  | .plan width k p => do
    return ((← e.rows env k (some 1) p).head?).getD (List.replicate width (.plain .null))
  | .out n f => e.cells (env.out n) f
  | f => do return [← e.value env f]

/-- The value of a formula. -/
def value (e : Evaluator) (env : Env) : Formula → Run Datum
  | .constant v => return .plain v
  | .parameter n => return .plain ((env.parameters[n - 1]?).getD .null)
  | .moment m => do return .plain (ofMoment (← get).now m)
  | .column i j => return .plain ((env.tuple i).at_ j)
  | .number i => return .plain (env.tuple i).number
  | .out n f => e.value (env.out n) f
  | .unary .keep f => e.value env f
  | .unary op f => do return .plain (op.value (← e.value env f).value)
  | .binary .and a b => do
    let x := (← e.value env a).value.truth?
    if x = some false then return .plain (.integer 0)
    else return .plain (.ofBool? (both x (← e.value env b).value.truth?))
  | .binary .or a b => do
    let x := (← e.value env a).value.truth?
    if x = some true then return .plain (.integer 1)
    else return .plain (.ofBool? (either x (← e.value env b).value.truth?))
  | .binary op a b => do
    let v ← e.value env a
    let w ← e.value env b
    return .plain (op.value (← encoding) v.value w.value)
  | .compare op [c] a b => do
    let v ← e.value env a
    let w ← e.value env b
    return .plain (.ofBool? ((c.order? (← encoding) v.value w.value).map op.holds))
  | .compare op how a b => do
    let vs ← e.cells env a
    let ws ← e.cells env b
    return .plain (.ofBool?
      (Comparing.holds? (← encoding) op how (vs.map (·.value)) (ws.map (·.value))))
  | .same isNegated how a b => do
    let vs ← e.cells env a
    let ws ← e.cells env b
    let isSame := Comparing.isSame (← encoding) how (vs.map (·.value)) (ws.map (·.value))
    return .plain (.ofBool? (some (isSame != isNegated)))
  | .isTruth isNegated wanted f => do
    return .plain (.ofBool? (some (((← e.value env f).value.truth? == some wanted) != isNegated)))
  | .isNull isNegated f => do
    return .plain (.ofBool? (some ((← e.value env f).value.isNull != isNegated)))
  | .between isNegated howLow howHigh f low high => do
    let enc ← encoding
    let vs := (← e.cells env f).map (·.value)
    let x := Comparing.holds? enc .notLess howLow vs ((← e.cells env low).map (·.value))
    let y := Comparing.holds? enc .notMore howHigh vs ((← e.cells env high).map (·.value))
    return .plain (decided isNegated (both x y))
  | .inList isNegated how f fs => do
    let v := (← e.value env f).value
    let ws := (← e.values env fs).map (·.value)
    return .plain (decided isNegated (isMember (← encoding) [how] [v] (ws.map fun w => [w])))
  | .inPlan isNegated how k f p => do
    let vs := (← e.cells env f).map (·.value)
    let rows ← e.rows env k none p
    return .plain (decided isNegated (isMember (← encoding) how vs (rows.map fun r => r.map (·.value))))
  | .plan _ k p => do
    return (((← e.rows env k (some 1) p).head?).bind List.head?).getD (.plain .null)
  | .holds k p => do return .plain (.ofBool? (some !(← e.rows env k (some 1) p).isEmpty))
  | .choice subject cases otherwise => do
    chosen e env ((← subject.mapM (e.value env)).map (·.value)) cases otherwise
  | .cast a f => do
    let v := (← e.value env f).value
    return .plain (Value.cast (← encoding) a v)
  | .firstOf fs => firstOfAll e env fs
  | .call isNegated _ f c fs => do
    let ds ← e.values env fs
    let d ← Run.lift (f.apply ((← get).surrounding c) ds)
    return if isNegated then .plain (decided true d.value.truth?) else d
  | .fact f fs => do
    let ds ← e.values env fs
    return .plain (← ofFact (ds.map (·.value)) f)
  | .aggregate n => return ((env.sights.head?).bind fun f => f.totals[n]?).getD (.plain .null)
  | .window n => return ((env.sights.head?).bind fun f => f.windows[n]?).getD (.plain .null)
  | .raise .ignore _ => throw .skipRow
  | .raise how m => Run.refuse how (.raised m)
  | .row fs => do return ((← e.values env fs).head?).getD (.plain .null)

end Formula
end Upkeep.Sql
