import Upkeep.Sql.Problem
import Upkeep.Sql.Value

/-!
# What a function is

A function takes some numbers of arguments and has a value, or a problem. A text that a function made as a
document goes on as one into functions of documents; everywhere else it is a text.

* `Function.total`, `Function.strict`: functions that have no problems.
-/

namespace Upkeep.Sql
open Database (Value Bytes Encoding)

/-- What functions know besides their arguments. -/
structure Surrounding where
  encoding : Encoding
  /-- How texts among the arguments compare. -/
  collation : Collation
  /-- The present date and time. -/
  now : Text

/-- A value, and whether it is the text of a document. -/
structure Datum where
  value : Value
  isDocument : Bool
  deriving DecidableEq

def Datum.plain (v : Value) : Datum := ⟨v, false⟩

/-- A function of values. -/
structure Function where
  takes : Nat → Bool
  apply : Surrounding → List Datum → Except Problem Datum
  /-- Whether it looks at which arguments are documents. -/
  readsDocuments : Bool

namespace Function

def ofValues (takes : Nat → Bool) (f : Surrounding → List Value → Except Problem Value) : Function :=
  ⟨takes, fun s ds => Datum.plain <$> f s (ds.map (·.value)), false⟩

def total (takes : Nat → Bool) (f : List Value → Value) : Function := ofValues takes fun _ vs => .ok (f vs)

/-- A function of one value that is nothing for nothing. -/
def strict (f : Value → Value) : Function :=
  total (· = 1) fun vs =>
    match vs with
    | [v] => if v.isNull then .null else f v
    | _ => .null

def textOf (t : Text) : Value := Value.ofText t

def isBlob : Value → Bool
  | .blob _ => true
  | _ => false

def any : Nat → Bool := fun _ => true

/-- The value of a function for some values. -/
def ofArguments (f : Function) (s : Surrounding) (vs : List Value) : Except Problem Value :=
  Datum.value <$> f.apply s (vs.map Datum.plain)

end Function
end Upkeep.Sql
