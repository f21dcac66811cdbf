import Upkeep.Sql.Function.Basic
import Upkeep.Sql.Json.Packed
import Upkeep.Sql.Json.Listing

/-!
# Functions of documents

A value that a function takes for a document is a text that is one, or bytes that are its short form. A text that
such a function makes goes on as a document into others; any other text goes into a document as a text.

* `Function.ofDocuments`: the functions by their names.
* `Function.member`, `Function.memberValue`: what a way leads to.
-/

namespace Upkeep.Sql.Function

open Database (Value Bytes)

def malformed : Problem := .failed "malformed JSON".toList

def bytesInside : Problem := .failed "JSON cannot hold BLOB values".toList

def badWay (way : Text) : Problem :=
  .failed ("bad JSON path: '".toList ++ (way.flatMap fun c => if c = '\'' then [c, c] else [c]) ++ ['\''])

def shownChars (v : Value) : Text := v.chars.takeWhile (· ≠ '\x00')

/-- The document that a value is, unless there is no value. -/
def document? (v : Value) : Except Problem (Option Json.Node) :=
  let found := fun (n : Option Json.Node) => n.elim (.error malformed) fun n => .ok (some n)
  match v with
  | .null => .ok none
  | .blob bytes => found (if Json.Node.isPacked bytes then Json.Node.ofPacked? bytes else none)
  | v => found ((Json.Node.ofText? (shownChars v)).map (·.1))

/-- A value as a part of a document. The last argument says how an infinite number is written. -/
def part? (d : Datum) (infinite : String) : Except Problem Json.Node :=
  match d.value with
  | .null => .ok .null
  | .integer n => .ok (.number (intText n) true false)
  | .real bits =>
    let x := Value.realOf bits
    .ok (.number
      (if x.isInf then (if x < 0 then ['-'] else []) ++ infinite.toList else Double.text x) false false)
  | .text bytes =>
    let chars := Text.ofBytesLossy ⟨bytes.toArray⟩
    if d.isDocument then (Json.Node.ofText? chars).elim (.error malformed) fun (n, _) => .ok n
    else .ok (.string chars .raw)
  | .blob bytes =>
    if Json.Node.isPacked bytes then (Json.Node.ofPacked? bytes).elim (.error malformed) .ok else .error bytesInside

def partOf (d : Datum) : Except Problem Json.Node := part? d "9.0e+999"

/-- A value as it is put into a document. -/
def inserted (d : Datum) : Except Problem Json.Node := part? d "9e999"

def asDocument (n : Json.Node) : Datum := ⟨.ofText n.text, true⟩

def asBytes (n : Json.Node) : Datum := .plain (.blob n.packed)

def nothing : Datum := .plain .null

/-- A function that looks at which arguments are documents. -/
def ofData (takes : Nat → Bool) (f : List Datum → Except Problem Datum) : Function :=
  ⟨takes, fun _ ds => f ds, true⟩

/-- A function of a document, which is nothing for nothing. -/
def ofDocument (takes : Nat → Bool) (f : Json.Node → List Datum → Except Problem Datum) : Function :=
  ofData takes fun ds =>
    match ds with
    | [] => .ok nothing
    | d :: rest => do
      match ← document? d.value with
      | none => .ok nothing
      | some n => f n rest

def way? (v : Value) : Except Problem Text :=
  match shownChars v with
  | '$' :: t => .ok t
  | t => .error (badWay t)

/-- The way that a value is, or an abbreviation of one: the number of an item, or the name of a member. -/
def shortWay? (v : Value) : Text :=
  match shownChars v with
  | '$' :: t => t
  | t =>
    if t.all Char.isDigit then '[' :: t ++ [']']
    else if t.all Char.isAlphanum then '.' :: t
    else if t.head? = some '[' ∧ 3 ≤ t.length ∧ t.getLast? = some ']' then t
    else ".\"".toList ++ t ++ ['"']

def lookUp (n : Json.Node) (shown way : Text) : Except Problem (Option Json.Node) :=
  match n.at_ way with
  | .node m _ _ => .ok (some m)
  | .nothing => .ok none
  | .lost => .error (badWay shown)

/-- A node as a value. Lists and objects are documents. -/
def valueOf (n : Json.Node) : Datum := ⟨n.value, n.hasParts⟩

def leading (show_ : Json.Node → Datum) : Function :=
  ofDocument (· = 2) fun n rest =>
    match rest with
    | [d] =>
      if d.value.isNull then .ok nothing
      else do return ((← lookUp n (shownChars d.value) (shortWay? d.value)).map show_).getD nothing
    | _ => .ok nothing

def member : Function := leading asDocument

def memberValue : Function := leading fun n => .plain n.value

/-- What some ways lead to: one as a value, several as a list. -/
def extraction (isPacked : Bool) : Function :=
  ofDocument any fun n rest => do
    let all ← rest.foldlM (fun (found : Option (List (Option Json.Node))) d =>
      match found with
      | none => pure none
      | some ms =>
        if d.value.isNull then pure none
        else do return some (ms ++ [← lookUp n (shownChars d.value) (← way? d.value)])) (some [])
    match all with
    | none => return nothing
    | some [] => return nothing
    | some [m] => return (m.map fun m => if isPacked && m.hasParts then asBytes m else valueOf m).getD nothing
    | some ms => return (if isPacked then asBytes else asDocument) (.list (ms.map (·.getD .null)))

/-- What some ways lead to, as far as the first value is a document. -/
def extracting (isPacked : Bool) : Function :=
  { extraction isPacked with apply := fun s ds =>
      if ds.length < 2 then .ok nothing else (extraction isPacked).apply s ds }

/-- A document with values put in where ways lead to. -/
def changing (name : String) (e : Json.Edit) (show_ : Json.Node → Datum) : Function :=
  ofData any fun ds => do
    if ds.isEmpty then return nothing
    if ds.length % 2 = 0 then
      throw (.failed ("json_".toList ++ name.toList ++ "() needs an odd number of arguments".toList))
    match ds with
    | [] => return nothing
    | d :: rest =>
      match ← document? d.value with
      | none => return nothing
      | some n => return show_ (← change rest.length n rest)
where
  /-- Puts in one value behind the other. -/
  change : Nat → Json.Node → List Datum → Except Problem Json.Node
    | fuel + 1, n, way :: d :: rest => do
      if way.value.isNull then change fuel n rest
      else do
        let w ← way? way.value
        let new ← inserted d
        match n.edited e new w with
        | .ok m => change fuel m rest
        | .error () => throw (badWay (shownChars way.value))
    | _, n, _ => .ok n

/-- A document without what some ways lead to. -/
def removing (show_ : Json.Node → Datum) : Function :=
  ofDocument any fun n rest => do
    let left ← rest.foldlM (fun (n : Option Json.Node) d =>
      match n with
      | none => pure none
      | some n =>
        if d.value.isNull then pure none
        else do
          let w ← way? d.value
          if w.isEmpty then return none
          else match n.edited .remove .null w with
            | .ok m => return some m
            | .error () => throw (badWay (shownChars d.value))) (some n)
    return (left.map show_).getD nothing

/-- Members of an object by names and values in turn. -/
def membersOf : List Datum → Except Problem (List ((Text × Json.TextForm) × Json.Node))
  | k :: d :: rest => do
    match k.value with
    | .text bytes =>
      return ((Text.ofBytesLossy ⟨bytes.toArray⟩, .raw), ← partOf d) :: (← membersOf rest)
    | _ => throw (.failed "json_object() labels must be TEXT".toList)
  | _ => .ok []

/-- An object of names and values in turn. -/
def objectOf (show_ : Json.Node → Datum) : Function :=
  ofData any fun ds => do
    if ds.length % 2 = 1 then
      throw (.failed "json_object() requires an even number of arguments".toList)
    return show_ (.object (← membersOf ds))

def listOf (show_ : Json.Node → Datum) : Function :=
  ofData any fun ds => do return show_ (.list (← ds.mapM partOf))

/-- A document with the members of another one. -/
def patching (show_ : Json.Node → Datum) : Function :=
  ofDocument (· = 2) fun n rest =>
    match rest with
    | [d] => do
      match ← document? d.value with
      | none => return nothing
      | some p => return show_ (n.patched p)
    | _ => .ok nothing

/-- Whether a value is a document of some kinds. -/
def validity : Function :=
  ofData (fun n => n = 1 || n = 2) fun ds =>
    let flags := (ds[1]?).elim 1 fun d => d.value.toInt
    if flags < 1 ∨ 15 < flags then
      .error (.failed "FLAGS parameter to json_valid() must be between 1 and 15".toList)
    else
      let has := fun (bit : Nat) => decide (flags.toNat / bit % 2 = 1)
      let yes := fun (b : Bool) => Datum.plain (.ofBool? (some b))
      match (ds.head?.map (·.value)).getD .null with
      | .null => .ok nothing
      | .blob bytes =>
        .ok (yes (Json.Node.isPacked bytes && (has 4 || has 8 && (Json.Node.ofPacked? bytes).isSome)))
      | v =>
        if has 1 || has 2 then
          .ok (yes ((Json.Node.ofText? (shownChars v)).any fun (_, isStrict) => has 2 || isStrict))
        else .ok (yes false)

/-- What a function tells of the node that a way leads to, or of the whole document. -/
def telling (tell : Json.Node → Value) : Function :=
  ofDocument (fun n => n = 1 || n = 2) fun n rest =>
    match rest with
    | [] => .ok (.plain (tell n))
    | d :: _ =>
      if d.value.isNull then .ok nothing
      else do return ((← lookUp n (shownChars d.value) (← way? d.value)).map fun m => .plain (tell m)).getD nothing

def itemCount : Json.Node → Value
  | .list ns => .integer ns.length
  | _ => .integer 0

/-- The functions of documents by their names. -/
def ofDocuments : List (String × Function) :=
  [("->", member), ("->>", memberValue),
    ("json", ofDocument (· = 1) fun n _ => .ok (asDocument n)),
    ("jsonb", ofDocument (· = 1) fun n _ => .ok (asBytes n)),
    ("json_array", listOf asDocument), ("jsonb_array", listOf asBytes),
    ("json_array_length", telling itemCount),
    ("json_error_position", ofData (· = 1) fun ds =>
      let v := (ds.head?.map (·.value)).getD .null
      .ok (if v.isNull then nothing
        else .plain (.integer (match document? v with | .ok _ => 0 | .error _ => 1)))),
    ("json_extract", extracting false), ("jsonb_extract", extracting true),
    ("json_insert", changing "insert" .insert asDocument), ("jsonb_insert", changing "insert" .insert asBytes),
    ("json_object", objectOf asDocument), ("jsonb_object", objectOf asBytes),
    ("json_patch", patching asDocument), ("jsonb_patch", patching asBytes),
    ("json_quote", ofData (· = 1) fun ds => do
      match ds with
      | [d] => return asDocument (← partOf d)
      | _ => return nothing),
    ("json_remove", removing asDocument), ("jsonb_remove", removing asBytes),
    ("json_replace", changing "replace" .replace asDocument),
    ("jsonb_replace", changing "replace" .replace asBytes),
    ("json_set", changing "set" .set asDocument), ("jsonb_set", changing "set" .set asBytes),
    ("json_type", telling fun n => .ofText n.typeWord),
    ("json_valid", validity)]

end Upkeep.Sql.Function
