import Upkeep.Sql.Function.Json

/-!
# Functions of many rows

A function of many rows has one value for the arguments of all of them.

* `Aggregate.all`: the functions by their names.
* `Total`: a sum with the error that it carries along.
-/

namespace Upkeep.Sql
open Database (Value Bytes)

/-- A function of the arguments of many rows. -/
structure Aggregate where
  name : Text
  takes : Nat → Bool
  /-- Which extreme it is, if it is one. -/
  extreme? : Option Ordering
  gather : Surrounding → List (List Datum) → Except Problem Datum

/-! ## Sums -/

/-- A sum. As long as all that came are whole numbers and the sum is in range, it is one. -/
structure Total where
  count : Nat
  whole : Int
  isWhole : Bool
  /-- Whether whole numbers alone left the range. -/
  overflows : Bool
  sum : Float
  error : Float

namespace Total

def zero : Total := ⟨0, 0, true, false, 0, 0⟩

/-- A sum with one more double: what the addition loses goes into the error. -/
def addReal (t : Total) (x : Float) : Total :=
  let s := t.sum + x
  let lost := if t.sum.abs > x.abs then (t.sum - s) + x else (x - s) + t.sum
  { t with sum := s, error := t.error + lost }

/-- The size from which on a whole number goes into a sum in two parts. -/
def large : Int := 4503599627370496

/-- The two parts of a whole number, the second less than 2 ^ 14. -/
def parts (n : Int) : Float × Float :=
  if n ≤ -large ∨ large ≤ n then (realOfInt (n - Int.tmod n 16384), realOfInt (Int.tmod n 16384))
  else (realOfInt n, 0)

/-- A sum with one more whole number among doubles. -/
def addParts (t : Total) (n : Int) : Total :=
  let (big, small) := parts n
  if n ≤ -large ∨ large ≤ n then (t.addReal big).addReal small else t.addReal big

/-- A sum of whole numbers as one of doubles. -/
def opened (t : Total) : Total :=
  let (big, small) := parts t.whole
  { t with isWhole := false, sum := big, error := small }

/-- A value as a number for a sum: a text that is none as a whole is a double. -/
def number : Value → Value
  | .text bytes =>
    match Numeral.whole? (Value.octets bytes) with
    | some n => Value.toNumber.fromNumeral n
    | none => .ofReal (Value.toReal (.text bytes))
  | .blob bytes => .ofReal (Value.toReal (.blob bytes))
  | v => v

/-- A sum with one more value. -/
def add (t : Total) (v : Value) : Total :=
  match number v with
  | .null => t
  | .integer n =>
    let t := { t with count := t.count + 1 }
    if !t.isWhole then t.addParts n
    else if inRange (t.whole + n) then { t with whole := t.whole + n }
    else { t.opened with overflows := true }.addParts n
  | w =>
    let t := { t with count := t.count + 1 }
    (if t.isWhole then t.opened else { t with overflows := false }).addReal w.toReal

def ofValues (vs : List Value) : Total := vs.foldl add zero

def real (t : Total) : Float :=
  if t.isWhole then realOfInt t.whole else if t.error.isNaN then t.sum else t.sum + t.error

end Total

namespace Aggregate

def firsts (rows : List (List Datum)) : List Value :=
  rows.map fun r => (r.head?.map (·.value)).getD .null

/-- How many rows have a value, or how many there are if none is asked for. -/
def count : Aggregate :=
  { name := "count".toList, takes := (· ≤ 1), extreme? := none
    gather := fun _ rows =>
      .ok (.plain (.integer (rows.filter fun r => r.head?.all fun d => !d.value.isNull).length)) }

def ofTotal (name : String) (f : Total → Except Problem Value) : Aggregate :=
  { name := name.toList, takes := (· = 1), extreme? := none
    gather := fun _ rows => Datum.plain <$> f (Total.ofValues (firsts rows)) }

/-- The least or the greatest value of rows. -/
def ofExtreme (name : String) (wanted : Ordering) : Aggregate :=
  { name := name.toList, takes := (· = 1), extreme? := some wanted
    gather := fun s rows =>
      .ok <| (rows.filterMap List.head?).foldl (fun best d =>
        if d.value.isNull then best
        else if best.value.isNull then d
        else if Value.compare s.collation s.encoding d.value best.value = wanted then d else best)
        (.plain .null) }

/-- The texts of rows, each but the first behind what separates it. -/
def joining (name : String) (takes : Nat → Bool) : Aggregate :=
  { name := name.toList, takes, extreme? := none
    gather := fun _ rows =>
      let kept := rows.filter fun r => r.head?.any fun d => !d.value.isNull
      let own := fun (r : List Datum) => (r.head?.elim [] fun d => d.value.textBytes)
      let mark := fun (r : List Datum) => (r[1]?).elim [44] fun d => d.value.textBytes
      .ok <| match kept with
        | [] => .plain .null
        | r :: rs => .plain (.text (own r ++ rs.flatMap fun r => mark r ++ own r)) }

def listing (name : String) (show_ : Json.Node → Datum) : Aggregate :=
  { name := name.toList, takes := (· = 1), extreme? := none
    gather := fun _ rows => do
      return show_ (.list (← (rows.filterMap List.head?).mapM Function.partOf)) }

/-- An object of the names and values of rows. -/
def objects (name : String) (show_ : Json.Node → Datum) : Aggregate :=
  { name := name.toList, takes := (· = 2), extreme? := none
    gather := fun _ rows => do
      let members ← rows.filterMapM fun r =>
        match r with
        | [k, d] => do return some ((k.value.chars, .raw), ← Function.partOf d)
        | _ => return none
      return show_ (.object members) }

/-- The functions of many rows. -/
def all : List Aggregate :=
  [count,
    ofTotal "sum" fun t =>
      if t.count = 0 then .ok .null
      else if t.isWhole then .ok (.integer t.whole)
      else if t.overflows then .error .overflow
      else .ok (.ofReal t.real),
    ofTotal "total" fun t => .ok (.ofReal t.real),
    ofTotal "avg" fun t => .ok (if t.count = 0 then .null else .ofReal (t.real / realOfInt t.count)),
    ofExtreme "min" .lt, ofExtreme "max" .gt,
    joining "group_concat" fun n => n = 1 || n = 2, joining "string_agg" (· = 2),
    listing "json_group_array" Function.asDocument, listing "jsonb_group_array" Function.asBytes,
    objects "json_group_object" Function.asDocument, objects "jsonb_group_object" Function.asBytes]

def named (name : Text) : Option Aggregate := all.find? fun a => sameName a.name name

def ignoresOrder (a : Aggregate) : Bool := sameName a.name "count".toList || a.extreme?.isSome

end Aggregate
end Upkeep.Sql
