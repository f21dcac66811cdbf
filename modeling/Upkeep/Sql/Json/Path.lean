import Upkeep.Sql.Json.Node

/-!
# Ways into documents

A way leads from a document to a node in it: by the names of members and by the numbers of items, which may be
counted from the end. What a way leads to can be looked up, changed and taken away; and what is not there can be
put in.

* `Json.Node.at_ n way`: what a way leads to.
* `Json.Node.edited edit n new way`: a document that is changed where a way leads to.
* `Json.Node.patched n p`: a document with the members of another.
-/

namespace Upkeep.Sql.Json
open Database (Bytes)

/-- What is at the end of a way. A node has its place in the short form of the document, and that of its name if
it has one. -/
inductive Found where
  | node (n : Node) (label : Option Nat) (start : Nat)
  | nothing
  /-- The way is none. -/
  | lost

/-- How a document is changed at the end of a way: only where nothing is, only where something is, in any case,
or so that nothing is left there. -/
inductive Edit where
  | insert
  | replace
  | set
  | remove
  deriving DecidableEq, Repr

/-- Whether a change puts in what is not there. -/
def Edit.adds (e : Edit) : Bool := e == .insert || e == .set

/-- The name that a way starts with behind its point, how it is written, and the rest. -/
def leadingName? (t : Text) : Option ((Text × TextForm) × Text) :=
  match t with
  | '"' :: t =>
    let name := t.takeWhile (· ≠ '"')
    match t.drop name.length with
    | [] => none
    | _ :: rest => some ((name, if name.contains '\\' then .loose else .raw), rest)
  | t =>
    let name := t.takeWhile fun c => c != '.' && c != '['
    if name.isEmpty then none else some ((name, .raw), t.drop name.length)

/-- The number of the item that a way starts with behind its bracket, in a list with a length, and the rest.
There is no number if it lies in front of the list. -/
def leadingItem? (length : Nat) (t : Text) : Option (Option Nat × Text) :=
  let closed := fun (n : Option Nat) (t : Text) =>
    match t with
    | ']' :: rest => some (n, rest)
    | _ => none
  let digits := t.takeWhile Char.isDigit
  let value := fun (ds : Text) => Numeral.value ds % Nat.pow 2 32
  match t with
  | '#' :: '-' :: t =>
    let back := t.takeWhile Char.isDigit
    let n := value back
    if back.isEmpty then none
    else if length < n then some (none, []) else closed (some (length - n)) (t.drop back.length)
  | '#' :: t => closed (some length) t
  | t => if digits.isEmpty then none else closed (some (value digits)) (t.drop digits.length)

def sameKey (k l : Text × TextForm) : Bool := contents k.1 k.2 == contents l.1 l.2

namespace Node

def innerSize : Node → Nat
  | list ns => itemsSize ns
  | object ms => membersSize ms
  | _ => 0

/-- How many bytes stand in front of what is in a node. -/
def frontSize (n : Node) : Nat := headSize n.innerSize

/-- What a way leads to, in at most some steps, from a node at some place. -/
def find : Nat → Node → Option Nat → Nat → Text → Found
  | _, n, label, start, [] => .node n label start
  | 0, _, _, _, _ => .lost
  | fuel + 1, n, _, start, '.' :: t =>
    match leadingName? t, n with
    | none, _ => .lost
    | some (k, rest), object ms =>
      let before := ms.takeWhile fun (l, _) => !sameKey k l
      match ms[before.length]? with
      | some (l, m) =>
        let label := start + n.frontSize + membersSize before
        find fuel m (some label) (label + charsSize l.1) rest
      | none => .nothing
    | _, _ => .nothing
  | fuel + 1, n, _, start, '[' :: t =>
    match n with
    | list ns =>
      match leadingItem? ns.length t with
      | none => .lost
      | some (i, rest) =>
        match i.bind fun i => (ns[i]?).map fun m => (i, m) with
        | some (i, m) => find fuel m none (start + n.frontSize + itemsSize (ns.take i)) rest
        | none => .nothing
    | _ => .nothing
  | _, _, _, _, _ => .lost

def at_ (n : Node) (way : Text) : Found := find (way.length + 1) n none 0 way

/-- A document that is changed where a way leads to, in at most some steps; nothing if nothing changes. There is
a problem if the way is none. -/
def edit (e : Edit) (new : Node) : Nat → Node → Text → Except Unit (Option Node)
  | _, _, [] => .ok (if e = .insert then none else some new)
  | 0, _, _ => .error ()
  | fuel + 1, n, '.' :: t =>
    match leadingName? t with
    | none => .error ()
    | some (k, rest) =>
      match n with
      | object ms =>
        match ms.findIdx? fun (l, _) => sameKey k l with
        | some i =>
          if e = .remove ∧ rest.isEmpty then .ok (some (object (ms.eraseIdx i)))
          else match ms[i]? with
            | some (l, m) => do
              return (← edit e new fuel m rest).map fun m => object (ms.set i (l, m))
            | none => .ok none
        | none =>
          if e.adds then do
            return (← grown fuel rest).map fun m => object (ms ++ [(k, m)])
          else .ok none
      | _ => .ok none
  | fuel + 1, n, '[' :: t =>
    match n with
    | list ns =>
      match leadingItem? ns.length t with
      | none => .error ()
      | some (none, _) => .ok none
      | some (some i, rest) =>
        match ns[i]? with
        | some m =>
          if e = .remove ∧ rest.isEmpty then .ok (some (list (ns.eraseIdx i)))
          else do return (← edit e new fuel m rest).map fun m => list (ns.set i m)
        | none =>
          if e.adds ∧ i = ns.length then do
            return (← grown fuel rest).map fun m => list (ns ++ [m])
          else .ok none
    | _ => .ok none
  | _, _, _ => .error ()
where
  /-- What is put in at the start of the rest of a way. -/
  grown (fuel : Nat) (rest : Text) : Except Unit (Option Node) :=
    match rest with
    | [] => .ok (some new)
    | '.' :: _ => edit e new fuel (object []) rest
    | _ => edit e new fuel (list []) rest

/-- A document that is changed where a way leads to. -/
def edited (e : Edit) (n new : Node) (way : Text) : Except Unit Node :=
  match edit e new (way.length + 1) n way with
  | .ok m => .ok (m.getD n)
  | .error () => .error ()

def members : Node → List ((Text × TextForm) × Node)
  | object ms => ms
  | _ => []

def isNull : Node → Bool
  | null => true
  | _ => false

mutual

/-- A document with the members of another one: those that are nothing there go, the others come or change. -/
def patched (n : Node) : Node → Node
  | object ps => object (patchedMembers n.members ps)
  | null => null
  | bool b => bool b
  | number w isWhole isLoose => number w isWhole isLoose
  | string cs form => string cs form
  | list ns => list ns

/-- Members with those of another document. -/
def patchedMembers (ms : List ((Text × TextForm) × Node)) :
    List ((Text × TextForm) × Node) → List ((Text × TextForm) × Node)
  | [] => ms
  | (k, p) :: ps =>
    let ms := match ms.findIdx? fun (l, _) => sameKey k l with
      | some i =>
        if p.isNull then ms.eraseIdx i
        else match ms[i]? with
          | some (l, m) => ms.set i (l, patched m p)
          | none => ms
      | none => if p.isNull then ms else ms ++ [(k, patched (object []) p)]
    patchedMembers ms ps

end

end Node
end Upkeep.Sql.Json
