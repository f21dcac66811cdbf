import Upkeep.Sql.Json.Path

/-!
# Documents as rows

What is in a document can be listed: the members of one node, or everything inside of it. Every row tells the key
of a node, its value, its type, its place, the place of the node that it is in, and the ways to both.

* `Json.members n root`, `Json.nodes n root`: the rows of a document from a way on.
-/

namespace Upkeep.Sql.Json
open Database (Value)

/-- A row of a listing. -/
structure Row where
  key : Value
  node : Node
  id : Nat
  parent : Option Nat
  fullKey : Text
  path : Text

/-- The columns of listings. The last two are not shown. -/
def columnNames : List String :=
  ["key", "value", "type", "atom", "id", "parent", "fullkey", "path", "json", "root"]

def shownColumns : Nat := 8

def memberStep (label : Text) : Text :=
  if label.isEmpty || !label.all Char.isAlphanum then ".\"".toList ++ label ++ ['"'] else '.' :: label

def itemStep (i : Nat) : Text := '[' :: Text.ofNat i ++ [']']

namespace Node

/-- The nodes right inside of a node at some place: the key, the step to it, the place of its name if it has one,
its own place, and the node. -/
def children (start : Nat) (n : Node) : List (Value × Text × Option Nat × Nat × Node) :=
  let first := start + n.frontSize
  match n with
  | object ms =>
    ms.mapIdx fun i ((k, form), m) =>
      let label := first + membersSize (ms.take i)
      (.text (contents k form), memberStep k, some label, label + charsSize k, m)
  | list ns =>
    ns.mapIdx fun i m => (.integer i, itemStep i, none, first + itemsSize (ns.take i), m)
  | _ => []

end Node

def rowId (label : Option Nat) (start : Nat) : Nat := label.getD start

/-- The rows of a node that is in another, and of everything inside of it, as deep as some levels. -/
def rowsBelow : Nat → Option Nat → Text → Value × Text × Option Nat × Nat × Node → List Row
  | 0, _, _, _ => []
  | depth + 1, parent, path, (key, step, label, start, n) =>
    let own := path ++ step
    ⟨key, n, rowId label start, parent, own, path⟩ ::
      (n.children start).flatMap fun c => rowsBelow depth (some (label.getD start)) own c

def stepStarts (way : Text) : List Nat :=
  ((List.range way.length).filter fun i => decide (0 < i) && (way[i]? == some '.' || way[i]? == some '[')).reverse

/-- How much of a way to the node at a place leads to the node that it is in, as far as that can be told. -/
def outerLength (document : Node) (way : Text) (place : Nat) : Nat :=
  if way.length < 2 then way.length
  else
    ((stepStarts way).find? fun i =>
      match document.at_ ((way.take i).drop 1) with
      | .node m _ start => start + m.frontSize == place
      | _ => false).getD 1

def lastKey (step : Text) : Value :=
  match step with
  | [] => .null
  | '[' :: t => .integer (Numeral.leadingInt t)
  | _ :: '"' :: t => .ofText (t.take (step.length - 3))
  | _ :: t => .ofText t

/-- The rows of a document from a way on; nothing if the way is none. -/
def rowsFrom (document : Node) (root : Text) (list : Node → Option Nat → Nat → List Row) : Option (List Row) :=
  match root with
  | '$' :: way =>
    match document.at_ way with
    | .node n label start => some (list n label start)
    | .nothing => some []
    | .lost => none
  | _ => none

/-- The members of the node that a way leads to, or the node itself if it has none in it. -/
def members (document : Node) (root : Text) : Option (List Row) :=
  rowsFrom document root fun n label start =>
    if n.hasParts then
      (n.children start).map fun (key, step, label, start, m) =>
        ⟨key, m, rowId label start, none, root ++ step, root⟩
    else [⟨.null, n, rowId label start, none, root, root⟩]

/-- The node that a way leads to, and everything inside of it. -/
def nodes (document : Node) (root : Text) : Option (List Row) :=
  rowsFrom document root fun n label start =>
    let outer := outerLength document root (label.getD start)
    let key := if root.length = 1 then .null else lastKey (root.drop outer)
    ⟨key, n, rowId label start, none, root, root.take outer⟩ ::
      (n.children start).flatMap fun c => rowsBelow deepest (some (label.getD start)) root c

end Upkeep.Sql.Json
