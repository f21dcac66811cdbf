import Upkeep.Sql.Resolution.Selection

/-!
# The rules of a table

What the expressions in the definition of a table mean: the values of computed columns, the conditions of its
rows, the keys of its indexes, and default values.

* `Table.ruleFormula schema t e`: the formula of an expression in the definition of a table.
* `Rules.ofTable schema t`: the rules of a table.
-/

namespace Upkeep.Sql
open Database (Value)

/-- A problem in the definition of a table: a function that is not there is missed only now. -/
def Problem.ofRule : Problem → Problem
  | unknownFunction n _ => missingFunction n
  | p => p.unplaced

namespace Table

def ruleScope (t : Table) : Scope := Scope.outermost.push (.ofPlaces [t.place t.name])

def ruleFormula (schema : Schema) (t : Table) (e : Expr) : Except Problem Formula :=
  (Resolve.run do return (← (Resolver.ofSchema schema).value t.ruleScope e).formula).mapError Problem.ofRule

end Table

/-- The rules of an index: which rows it has, and the parts of its keys. -/
structure IndexRule where
  index : Index
  condition : Option Formula
  parts : List Formula

/-- The rules of a table. -/
structure Rules where
  /-- The values of computed columns, by their places. -/
  computed : List (Nat × Formula)
  checks : List (Check × Formula)
  indexes : List IndexRule
  /-- The default value of every column. -/
  defaults : List Formula

namespace Rules

/-- The rules of a table. An expression that means nothing stands for nothing. -/
def ofTable (schema : Schema) (t : Table) : Rules :=
  let formula := fun (e : Expr) => ((t.ruleFormula schema e).toOption).getD default
  { computed := (t.columns.mapIdx fun i c => c.generated.map fun (e, _) => (i, formula e)).filterMap id
    checks := t.checks.map fun c => (c, formula c.condition)
    indexes := t.indexes.map fun i =>
      { index := i, condition := i.condition.map formula
        parts := i.parts.map fun p => p.column.elim (formula p.expr) (Formula.column 0) }
    defaults := t.columns.map fun c => (c.default?.map formula).getD default }

end Rules
end Upkeep.Sql
