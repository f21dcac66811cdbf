import Upkeep.Json.Scalar

/-!
# Reading JSON by shape

A file of settings is read against the shape that it should have. `Shape.parse` reads the text once
from left to right and reports the first thing that is wrong with it, be it the text or the shape.

* A record is an object, or an array of its fields in their order. Fields may be left out if the shape
  allows it, fields that it does not name are skipped, and none may come twice.
* Objects and arrays nest up to `nestingLimit` deep, except in skipped fields.
-/

namespace Upkeep.Json

/-- Whether a field has to be there, may be left out, or may also be null. -/
inductive Presence where
  | required
  | optional
  | nullable
  deriving DecidableEq

/-- What a JSON text is expected to hold. Lists have items of one shape; records have fields. -/
inductive Shape where
  | string
  | bool
  | any
  | list (item : Shape)
  | record (name : Text) (fields : List (Text × Presence × Shape))

/-- What was read by a shape. A record has the values of its fields in their order, null for those that
were left out; a value of any shape is kept only as something that is not null. -/
inductive Value where
  | null
  | bool (b : Bool)
  | string (t : Text)
  | list (items : List Value)
  | record (fields : List Value)
  | something

namespace Value

def text? : Value → Option Text
  | string t => some t
  | _ => none

def text (v : Value) : Text := v.text?.getD []

/-- The truth value, if there is one. -/
def bool? : Value → Option Bool
  | bool b => some b
  | _ => none

def items : Value → List Value
  | list vs => vs
  | _ => []

def field (v : Value) (i : Nat) : Value :=
  match v with
  | record vs => vs.getD i null
  | _ => null

def isPresent : Value → Bool
  | null => false
  | _ => true

end Value

/-- How deep arrays and objects nest: one level less than this number. -/
def nestingLimit : Nat := 128

/-! ## Between the parts of arrays and objects -/

/-- What follows behind an opening bracket or an item of an array or object: the text of the next item,
or none before the closing bracket. -/
def next? (close : Char) (first : Bool) (t : Text) : Except Error (Option Text) :=
  match skipSpace t with
  | [] => .error .malformed
  | c :: rest =>
    if c = close then .ok none
    else if first then .ok (some (c :: rest))
    else if c = ',' then
      match skipSpace rest with
      | [] => .error .malformed
      | d :: rest => if d = close then .error .malformed else .ok (some (d :: rest))
    else .error .malformed

/-- The rest behind one character, white space before it aside. -/
def expect (c : Char) (t : Text) : Except Error Text :=
  match skipSpace t with
  | [] => .error .malformed
  | d :: rest => if c = d then .ok rest else .error .malformed

def key (t : Text) : Except Error (Text × Text) := (expect '"' t).bind stringTail

/-- The items of an array up to its closing bracket. Each step reads an item, so the length of the text
bounds their number. -/
def items {α : Type} (read : Text → Except Error (α × Text)) :
    Nat → Bool → Text → Except Error (List α × Text)
  | 0, _, _ => .error .malformed
  | steps + 1, first, t => do
    match ← next? ']' first t with
    | none => .ok ([], ← expect ']' t)
    | some t =>
      let (v, t) ← read t
      let (vs, t) ← items read steps false t
      .ok (v :: vs, t)

/-- The state behind the members of an object. `member` reads one member from its key on. -/
def members {σ : Type} (member : σ → Text → Except Error (σ × Text)) :
    Nat → Bool → σ → Text → Except Error (σ × Text)
  | 0, _, _, _ => .error .malformed
  | steps + 1, first, s, t => do
    match ← next? '\x7d' first t with
    | none => .ok (s, t)
    | some t =>
      let (s, t) ← member s t
      members member steps false s t

/-! ## Values that nothing needs -/

mutual

/-- The rest behind a value of any shape and depth. -/
def skipValue : Nat → Text → Except Error Text
  | 0, _ => .error .malformed
  | steps + 1, t =>
    match skipSpace t with
    | 'n' :: rest => word "ull".toList rest
    | 't' :: rest => word "rue".toList rest
    | 'f' :: rest => word "alse".toList rest
    | '"' :: rest => stringEnd rest
    | '[' :: rest => skipItems steps true rest
    | '\x7b' :: rest => skipMembers steps true rest
    | t => numberEnd t

/-- The rest behind the items of an array. -/
def skipItems : Nat → Bool → Text → Except Error Text
  | 0, _, _ => .error .malformed
  | steps + 1, first, t => do
    match ← next? ']' first t with
    | none => expect ']' t
    | some t => skipItems steps false (← skipValue steps t)

/-- The rest behind the members of an object. -/
def skipMembers : Nat → Bool → Text → Except Error Text
  | 0, _, _ => .error .malformed
  | steps + 1, first, t => do
    match ← next? '\x7d' first t with
    | none => expect '\x7d' t
    | some t =>
      let t ← stringEnd (← expect '"' t)
      skipMembers steps false (← skipValue steps (← expect ':' t))

end

/-- The rest behind a value that is not needed. Every two steps consume a character. -/
def skip (t : Text) : Except Error Text := skipValue (2 * t.length + 2) t

/-- A value of any shape with the given number of levels left, as null or not null. -/
def anyValue : Nat → Text → Except Error (Value × Text)
  | 0, _ => .error .malformed
  | levels + 1, t =>
    match skipSpace t with
    | 'n' :: rest => (word "ull".toList rest).map (Value.null, ·)
    | 't' :: rest => (word "rue".toList rest).map (Value.something, ·)
    | 'f' :: rest => (word "alse".toList rest).map (Value.something, ·)
    | '"' :: rest => (stringTail rest).map fun (_, rest) => (Value.something, rest)
    | '[' :: rest =>
      if levels = 0 then .error .malformed
      else (items (anyValue levels) (rest.length + 1) true rest).map fun (_, rest) =>
        (Value.something, rest)
    | '\x7b' :: rest =>
      if levels = 0 then .error .malformed
      else do
        let member := fun (_ : Unit) t => do
          let (_, t) ← key t
          let (_, t) ← anyValue levels (← expect ':' t)
          pure ((), t)
        let (_, t) ← members member (rest.length + 1) true () rest
        .ok (Value.something, ← expect '\x7d' t)
    | t => (number t).map fun (_, rest) => (Value.something, rest)

/-! ## Values of a shape -/

/-- The error for a value of another kind than expected. A scalar is read first, and may be malformed. -/
def mismatch {α : Type} (expected t : Text) : Except Error α :=
  let found := fun f => .error (.invalidType f expected)
  match t with
  | 'n' :: rest => (word "ull".toList rest).bind fun _ => found .null
  | 't' :: rest => (word "rue".toList rest).bind fun _ => found (.bool true)
  | 'f' :: rest => (word "alse".toList rest).bind fun _ => found (.bool false)
  | '"' :: rest => (stringTail rest).bind fun (s, _) => found (.string s)
  | '[' :: _ => found .sequence
  | '\x7b' :: _ => found .map
  | t => (number t).bind fun (n, _) => found n

def recordWords (name : Text) : Text := "struct ".toList ++ name

def recordLength (name : Text) (n : Nat) : Text :=
  recordWords name ++ " with ".toList ++ Text.ofNat n ++ (if n = 1 then " element" else " elements").toList

/-- The fields of a record with the values found under their names. -/
def close (found : List (Text × Value)) : List (Text × Presence × Shape) → Except Error (List Value)
  | [] => .ok []
  | (name, presence, _) :: fields =>
    match found.lookup name with
    | some v => (close found fields).map (v :: ·)
    | none =>
      if presence = .required then .error (.missingField name)
      else (close found fields).map (Value.null :: ·)

/-- The fields of a record that is written as an array, from the one at `index` on. -/
def fieldItems (field : Presence → Shape → Text → Except Error (Value × Text)) (expected : Text)
    (index : Nat) (t : Text) : List (Text × Presence × Shape) → Except Error (List Value × Text)
  | [] => .ok ([], t)
  | (_, presence, shape) :: fields => do
    match ← next? ']' (index = 0) t with
    | none =>
      if presence = .required then .error (.invalidLength index expected)
      else
        let (vs, t) ← fieldItems field expected (index + 1) t fields
        .ok (Value.null :: vs, t)
    | some t =>
      let (v, t) ← field presence shape t
      let (vs, t) ← fieldItems field expected (index + 1) t fields
      .ok (v :: vs, t)

/-- A field that may be null, by a reader for its shape. -/
def fieldValue (read : Shape → Text → Except Error (Value × Text)) (presence : Presence)
    (shape : Shape) (t : Text) : Except Error (Value × Text) :=
  match skipSpace t with
  | 'n' :: rest =>
    if presence = .nullable then (word "ull".toList rest).map (Value.null, ·) else read shape t
  | _ => read shape t

/-- One member of a record: a field, or a member that is skipped. A second one of a name is refused at
its key. -/
def recordMember (field : Presence → Shape → Text → Except Error (Value × Text))
    (fields : List (Text × Presence × Shape)) (found : List (Text × Value)) (t : Text) :
    Except Error (List (Text × Value) × Text) := do
  let (name, t) ← key t
  match fields.lookup name with
  | none => .ok (found, ← skip (← expect ':' t))
  | some (presence, shape) =>
    if (found.lookup name).isSome then .error (.duplicateField name)
    else
      let (v, t) ← field presence shape (← expect ':' t)
      .ok ((name, v) :: found, t)

namespace Shape

/-- A value of a shape with the given number of levels left, and the rest of the text. -/
def read : Nat → Shape → Text → Except Error (Value × Text)
  | 0, _, _ => .error .malformed
  | levels + 1, shape, t =>
    let t := skipSpace t
    match shape, t with
    | any, t => anyValue (levels + 1) t
    | string, '"' :: rest => (stringTail rest).map fun (s, rest) => (Value.string s, rest)
    | string, t => mismatch "a string".toList t
    | bool, 't' :: rest => (word "rue".toList rest).map (Value.bool true, ·)
    | bool, 'f' :: rest => (word "alse".toList rest).map (Value.bool false, ·)
    | bool, t => mismatch "a boolean".toList t
    | list item, '[' :: rest =>
      if levels = 0 then .error .malformed
      else (items (read levels item) (rest.length + 1) true rest).map fun (vs, rest) =>
        (Value.list vs, rest)
    | list _, t => mismatch "a sequence".toList t
    | record name fields, '[' :: rest =>
      if levels = 0 then .error .malformed
      else do
        let expected := recordLength name fields.length
        let (vs, t) ← fieldItems (fieldValue (read levels)) expected 0 rest fields
        .ok (Value.record vs, ← expect ']' t)
    | record _ fields, '\x7b' :: rest =>
      if levels = 0 then .error .malformed
      else do
        let member := recordMember (fieldValue (read levels)) fields
        let (found, t) ← members member (rest.length + 1) true [] rest
        let vs ← close found fields
        .ok (Value.record vs, ← expect '\x7d' t)
    | record name _, t => mismatch (recordWords name) t

/-- The value of a shape that a whole text holds. -/
def parse (shape : Shape) (t : Text) : Except Error Value := do
  let (v, rest) ← read nestingLimit shape t
  if skipSpace rest = [] then .ok v else .error .malformed

end Shape
end Upkeep.Json
