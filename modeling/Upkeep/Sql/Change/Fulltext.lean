import Upkeep.Sql.Change.Numbering

/-!
# Changing tables of texts

The rows of a table of texts are kept in a table beside it, in another one that is changed for itself, or nowhere.
How many words there are is counted anyhow: words can only be taken back that are there.

* `Fulltext.insert`, `Fulltext.delete`, `Fulltext.update`: one row.
* `Fulltext.command`: an insertion that is none, but asks for something to be done.
-/

namespace Upkeep.Sql
open Database (Value Bytes)

namespace Fulltext

/-! ## Counts -/

/-- A number in sevens of bits, the highest first, each but the last with a mark. -/
def sevens (n : Nat) : Bytes :=
  let digits := Nat.toDigits 128 n
  if n < 128 then [UInt8.ofNat n] else go n (digits.length + 1) []
where
  go (n : Nat) : Nat → Bytes → Bytes
    | 0, bytes => bytes
    | fuel + 1, bytes =>
      if n = 0 then bytes
      else go (n / 128) fuel (UInt8.ofNat (n % 128 + if bytes.isEmpty then 0 else 128) :: bytes)

/-- The numbers that bytes write in sevens of bits, behind the start of the first. -/
def ofSevens (start : Nat) : Bytes → List Nat
  | [] => []
  | b :: bs => if b < 128 then (128 * start + b.toNat) :: ofSevens 0 bs else ofSevens (128 * start + b.toNat - 128) bs

/-- How many words the texts of a row have in each column. -/
def sizes (f : Fulltext) (texts : List Text) : List Nat :=
  (f.columns.mapIdx fun i (_, isIn) => if isIn then (f.splitter.words ((texts[i]?).getD [])).length else 0)

/-- How many rows there are, and how many words in each column. -/
def counts (t : Table) (f : Fulltext) : Run (List Nat) := do
  let none_ := 0 :: f.columns.map fun _ => 0
  match ← t.aside? "data" with
  | none => return none_
  | some own =>
    let block : Option Value := ((← ownRows evaluator own).find? (·.number == 1)).bind fun r => r.values[1]?
    match block with
    | some (.blob bytes) => return none_.mapIdx fun i _ => ((ofSevens 0 bytes)[i]?).getD 0
    | _ => return none_

/-- Writes down how many rows there are, and how many words in each column. -/
def setCounts (t : Table) (counts : List Nat) : Run Unit := do
  match ← t.aside? "data" with
  | none => return
  | some own => putRow own (some 1) ⟨1, [.integer 1, .blob (counts.flatMap sevens)]⟩

/-- Counts the words of a row that comes. -/
def countIn (t : Table) (f : Fulltext) (number : Int) (texts : List Text) : Run Unit := do
  let own := f.sizes texts
  if f.edition = .fifth then
    setCounts t ((← counts t f).mapIdx fun i n => n + if i = 0 then 1 else (own[i - 1]?).getD 0)
  match ← t.aside? "docsize" with
  | some sizes => putRow sizes (some number) (numberedSizes sizes number (.blob (own.flatMap sevens)))
  | none => pure ()
  match f.keeper, ← f.blocks? t with
  | .beside, _ => return
  | _, some blocks =>
    let n := blockNumber number
    putRow blocks (some n) ⟨n, [.integer n, packed (texts.map Value.ofText)]⟩
  | _, none => return
where
  /-- The row that keeps how many words a row has. -/
  numberedSizes (sizes : Table) (number : Int) (v : Value) : Row :=
    ⟨number, sizes.columns.mapIdx fun i _ => if i = 0 then .integer number else if i = 1 then v else .integer 0⟩

/-- Counts the words of a row that goes. They have to be there. -/
def countOut (t : Table) (f : Fulltext) (number : Int) (texts : List Text) : Run Unit := do
  if f.edition = .fifth then
    let gone := 1 :: f.sizes texts
    let there ← counts t f
    if (there.zip gone).any fun (n, k) => decide (n < k) then Run.fail .misworded
    setCounts t ((there.zip gone).map fun (n, k) => n - k)
  match ← t.aside? "docsize" with
  | some sizes => dropRow sizes number
  | none => pure ()
  match f.keeper, ← f.blocks? t with
  | .beside, _ => return
  | _, some blocks => dropRow blocks (blockNumber number)
  | _, none => return

/-! ## Rows -/

/-- The table whose rows say which numbers are taken. -/
def holder? (t : Table) (f : Fulltext) : Run (Option Table) :=
  t.aside? (if f.keeper matches .beside then "content" else "docsize")

def freshNumber (t : Table) (f : Fulltext) : Run Int := do
  match ← holder? t f with
  | some own => return (← greatestNumber? own).elim 1 (· + 1)
  | none => return 1

/-- Keeps a row, if the table keeps rows, in the place of none. -/
def keep (t : Table) (f : Fulltext) (number : Int) (values : List Value) : Run Unit := do
  match f.keeper, ← t.aside? "content" with
  | .beside, some own =>
    putRow own (some number)
      ⟨number, own.columns.mapIdx fun i _ => if i = 0 then .integer number else (values[i - 1]?).getD (.integer 0)⟩
  | _, _ => return

def known? (t : Table) (number : Int) : Run (Option Row) := rowAt? t number

/-- Lets a row go, if it is there. -/
def remove (t : Table) (f : Fulltext) (number : Int) : Run Unit := do
  match ← known? t number with
  | none => return
  | some r =>
    countOut t f number (f.textsOf r)
    match f.keeper, ← t.aside? "content" with
    | .beside, some own => dropRow own number
    | _, _ => return

/-- Lets a row go of which nothing is kept but its words. -/
def forget (t : Table) (f : Fulltext) (number : Int) : Run Unit := do
  match (← f.wordedRows evaluator t).find? fun (r, _) => r.number == number with
  | some (_, texts) => countOut t f number texts
  | none => return

def add (t : Table) (f : Fulltext) (number : Int) (values : List Value) : Run Unit := do
  keep t f number (values.take f.columns.length)
  countIn t f number (f.textsOf ⟨number, values⟩)

/-- What is said of a change that cannot be made without the rows. -/
def rowless (t : Table) (what : String) : Problem :=
  .failed ("cannot ".toList ++ what.toList ++ " contentless fts5 table: ".toList ++ t.name)

/-! ## Commands -/

/-- Settings of the newest edition, and what older ones may be asked to do. -/
def settingNames : List String :=
  ["pgsz", "hashsize", "automerge", "usermerge", "crisismerge", "deletemerge", "secure-delete"]

def unknownCommand : Problem := .failed "SQL logic error".toList

def takeBack (t : Table) (f : Fulltext) (number : Option Int) (values : List Value) : Run Unit := do
  match number with
  | some n => countOut t f n (f.textsOf ⟨n, values⟩)
  | none => return

/-- Counts all rows anew. -/
def rebuild (t : Table) (f : Fulltext) : Run Unit := do
  let rows ← tableRows evaluator t
  setCounts t (0 :: f.columns.map fun _ => 0)
  rows.forM fun r => countIn t f r.number (f.textsOf r)

/-- Does what an insertion asks for. -/
def command (t : Table) (f : Fulltext) (asked : Text) (number : Option Int) (values : List Value) : Run Unit := do
  let word := String.ofList (Text.toLower asked)
  if f.edition ≠ .fifth then
    let isKnown := ["optimize", "rebuild", "integrity-check"].contains word ||
      ["merge=", "automerge="].any fun w => Text.startsWith w.toList word.toList
    if isKnown then return else Run.fail unknownCommand
  else if word == "delete" && !f.keeper matches .beside then
    if f.keeper matches .nowhere true then
      Run.fail (.failed "'delete' may not be used with a contentless_delete=1 table".toList)
    else takeBack t f number values
  else if word == "delete-all" then
    if f.keeper matches .beside then
      Run.fail (.failed "'delete-all' may only be used with a contentless or external content fts5 table".toList)
    else do
      (← f.wordedRows evaluator t).forM fun (r, texts) => countOut t f r.number texts
      setCounts t (0 :: f.columns.map fun _ => 0)
  else if word == "rebuild" then
    if f.keeper matches .nowhere _ then
      Run.fail (.failed "'rebuild' may not be used with a contentless fts5 table".toList)
    else rebuild t f
  else if ["optimize", "merge", "integrity-check"].contains word then return
  else
    let setting := (values[f.columns.length + 1]?).getD .null
    let isFit := match setting with
      | .integer n => decide (0 ≤ n)
      | _ => false
    if settingNames.contains word && isFit then return
    else if word == "rank" && !setting.isNull then return
    else Run.fail unknownCommand

/-! ## Changes -/

/-- Puts a new row in. `values` are those of all columns. How many rows changed. -/
def insert (t : Table) (f : Fulltext) (override : Option Conflict) (number : Option Int) (values : List Value) :
    Run Nat := do
  let asked := (values[f.columns.length]?).getD .null
  if !asked.isNull then
    command t f asked.chars number values
    return 1
  else
    let isOwn := f.keeper matches .beside
    let mayForget := f.keeper matches .nowhere true
    if f.edition ≠ .fifth && !isOwn && number.isNone then Run.fail (.unfit false)
    let n ← match number with
      | some n => pure n
      | none => freshNumber t f
    if isOwn && (← known? t n).isSome then
      match override with
      | some .replace => remove t f n
      | some .ignore => throw .skipRow
      | _ => Run.fail (.unfit true)
    if mayForget && override = some .replace then forget t f n
    add t f n values
    modify fun s => { s with lastNumber := n }
    return 1

/-- Lets a row go. -/
def delete (t : Table) (f : Fulltext) (number : Int) : Run Unit := do
  match f.keeper with
  | .nowhere true => forget t f number
  | .nowhere false => Run.fail (if f.edition = .fifth then rowless t "DELETE from" else unknownCommand)
  | _ => remove t f number

/-- Changes a row: `values` are those of all columns. -/
def update (t : Table) (f : Fulltext) (override : Option Conflict) (number moved : Int) (values : List Value) :
    Run Unit := do
  if f.keeper matches .nowhere false then
    Run.fail (if f.edition = .fifth then rowless t "UPDATE" else unknownCommand)
  else if number ≠ moved && f.keeper matches .beside && (← known? t moved).isSome then
    match override with
    | some .replace => remove t f moved
    | some .ignore => throw .skipRow
    | _ => Run.fail (.unfit true)
  if f.keeper matches .nowhere _ then forget t f number else remove t f number
  add t f moved values

end Fulltext
end Upkeep.Sql
