import Upkeep.Database.Image

/-!
# Writing a database file

A database is written anew as a whole: first the trees of its objects, each behind the pages of the one
before, then the list of the objects with the root pages that the trees have got, whose root is the first
page. Leaves are filled from the left; an inner page has up to four pages below it.

* `Layout.place tree`: the pages of a tree, and its root.
* `Database.bytes d`: the file of a database.
-/

namespace Upkeep.Database

namespace Layout

/-- The size of the pages that are written. All of a page holds records. -/
def pageSize : Nat := 4096

abbrev Pages := List Bytes

def nextPage (ps : Pages) : Nat := ps.length + 2

/-- `bytes` with zeros behind them to fill a page. -/
def fill (bytes : Bytes) : Bytes := bytes ++ List.replicate (pageSize - bytes.length) 0

/-- The pages of a chain that holds some bytes. -/
def chain : Nat → Bytes → List Bytes
  | _, [] => []
  | page, b :: bytes =>
    let here := (b :: bytes).take (pageSize - 4)
    let rest := bytes.drop (pageSize - 5)
    fill (bigEndian 4 (if rest.isEmpty then 0 else page + 1) ++ here) :: chain (page + 1) rest
termination_by _ bytes => bytes.length
decreasing_by simp only [List.length_drop, List.length_cons]; omega

/-- A cell without a page below it, and the pages that the end of its record takes. -/
def cell (isNumbered : Bool) (ps : Pages) (c : Cell) : Bytes × Pages :=
  let length := c.record.length
  let here := Image.localLength pageSize (Image.mostLocal pageSize isNumbered) length
  let head := compact length ++ if isNumbered then compact c.number else []
  let first := nextPage ps
  let pages := chain first (c.record.drop here)
  let pointer := if pages.isEmpty then [] else bigEndian 4 first
  let bytes := head ++ c.record.take here ++ pointer
  (bytes ++ List.replicate (4 - bytes.length) 0, pages.reverse ++ ps)

/-- The cells of a list, and the pages that they take. -/
def cells (isNumbered : Bool) (ps : Pages) : List Cell → List (Cell × Bytes) × Pages
  | [] => ([], ps)
  | c :: cs =>
    let (bytes, ps) := cell isNumbered ps c
    let (rest, ps) := cells isNumbered ps cs
    ((c, bytes) :: rest, ps)

/-- A page by its first byte, its cells and the page below its right end. A root page of the list of
objects has the head of the file in front. -/
def page (kind : Nat) (front : Bytes) (contents : List Bytes) (right : Option Nat) : Bytes :=
  let (start, places) := contents.foldl
    (fun (stop, places) c => (stop - c.length, places ++ [stop - c.length])) (pageSize, [])
  let head := front ++ [UInt8.ofNat kind, 0, 0] ++ bigEndian 2 contents.length ++ bigEndian 2 start ++
    [0] ++ (right.map (bigEndian 4)).getD [] ++ places.flatMap (bigEndian 2)
  head ++ List.replicate (start - head.length) 0 ++ contents.reverse.flatten

def pageKind (isLeaf isNumbered : Bool) : Nat :=
  ((Image.pageKinds.find? fun (_, leaf, numbered) => leaf == isLeaf && numbered == isNumbered).map
    (·.1)).getD 0

/-- The cells that go on a page with some room, and those behind them. The first one always goes. -/
def takeFitting : Nat → List (Cell × Bytes) → List (Cell × Bytes) × List (Cell × Bytes)
  | _, [] => ([], [])
  | room, c :: cs =>
    if room < c.2.length + 2 then ([], c :: cs)
    else
      let (fitting, rest) := takeFitting (room - (c.2.length + 2)) cs
      (c :: fitting, rest)

/-- A page of cells, and the cell that parts it from the next one. -/
structure Part where
  cells : List (Cell × Bytes)
  /-- What a page above keeps of the end of this one: the last cell, or the first one behind it, which
  then stands only there. -/
  bound : Option (Cell × Bytes)

/-- The cells of a tree, parted to leaves. The last leaf has no bound. -/
def leaves (isNumbered : Bool) : Nat → List (Cell × Bytes) → List Part
  | 0, cs => [⟨cs, none⟩]
  | parts + 1, cs =>
    let (fitting, rest) := takeFitting (pageSize - 8) cs
    match rest with
    | [] => [⟨cs, none⟩]
    | c :: rest =>
      if isNumbered then ⟨fitting, fitting.getLast?⟩ :: leaves isNumbered parts (c :: rest)
      else if rest.isEmpty then [⟨fitting.dropLast, fitting.getLast?⟩, ⟨[c], none⟩]
      else ⟨fitting, some c⟩ :: leaves isNumbered parts rest

def innerCell (isNumbered : Bool) (below : Nat) (bound : Option (Cell × Bytes)) : Bytes :=
  bigEndian 4 below ++ match bound with
    | none => []
    | some (c, bytes) => if isNumbered then compact c.number else bytes

/-- A page that is written, with what parts it from the next one. -/
abbrev Placed := Nat × Option (Cell × Bytes)

/-- The pages of one level in groups that have one page above them. Of several groups none has only one
page. -/
def groups : List Placed → List (List Placed)
  | a :: b :: c :: d :: e :: f :: rest => [a, b, c, d] :: groups (e :: f :: rest)
  | [a, b, c, d, e] => [[a, b, c], [d, e]]
  | few => [few]

def above (isNumbered : Bool) (front : Bytes) (group : List Placed) : Bytes :=
  let inner := group.dropLast.map fun (below, bound) => innerCell isNumbered below bound
  page (pageKind false isNumbered) front inner (group.getLast?.map (·.1))

/-- The pages above those of one level, and what bounds each of them. -/
def levelAbove (isNumbered : Bool) (ps : Pages) : List (List Placed) → List Placed × Pages
  | [] => ([], ps)
  | g :: gs =>
    let (rest, ps') := levelAbove isNumbered (above isNumbered [] g :: ps) gs
    ((nextPage ps, g.getLast?.bind (·.2)) :: rest, ps')

/-- The root page above some pages of one level, and the pages between. -/
def root (isNumbered : Bool) (front : Bytes) : Nat → Pages → List Placed → Bytes × Pages
  | 0, ps, level => (above isNumbered front level, ps)
  | levels + 1, ps, level =>
    match groups level with
    | [] => (above isNumbered front level, ps)
    | [group] => (above isNumbered front group, ps)
    | several =>
      let (level, ps) := levelAbove isNumbered ps several
      root isNumbered front levels ps level

def placeLeaves (isNumbered : Bool) (ps : Pages) : List Part → List Placed × Pages
  | [] => ([], ps)
  | p :: parts =>
    let leaf := page (pageKind true isNumbered) [] (p.cells.map (·.2)) none
    let (rest, ps') := placeLeaves isNumbered (leaf :: ps) parts
    ((nextPage ps, p.bound) :: rest, ps')

/-- The root page of a tree, and the pages of the rest of it. A first page has less room than a leaf, so
it may come to stand above a single one. -/
def rootOf (front : Bytes) (ps : Pages) (t : Tree) : Bytes × Pages :=
  let (cs, ps) := cells t.isNumbered ps t.cells
  let room := pageSize - 8 - front.length
  if (takeFitting room cs).2.isEmpty then
    (page (pageKind true t.isNumbered) front (cs.map (·.2)) none, ps)
  else
    let (level, ps) := placeLeaves t.isNumbered ps (leaves t.isNumbered cs.length cs)
    root t.isNumbered front level.length ps level

/-- The pages of a tree, and the number of its root. -/
def place (ps : Pages) (t : Tree) : Nat × Pages :=
  let (page, ps) := rootOf [] ps t
  (nextPage ps, page :: ps)

/-- A root page that points to free bytes where there are none, so that nothing is put into it. -/
def stiffened : Bytes → Bytes
  | kind :: _ :: _ :: rest => kind :: 0 :: 1 :: rest
  | page => page

/-- The page that stands for a tree which cannot be read. -/
def damaged : Bytes := List.replicate pageSize 0

/-- The pages of the objects, and the records of the list of objects. -/
def placeObjects (e : Encoding) (ps : Pages) : List Object → List Bytes × Pages
  | [] => ([], ps)
  | o :: os =>
    let (root, ps) := match o.content with
      | .nothing => (0, ps)
      | .tree t => place ps t
      | .rigid t =>
        let (root, ps) := place ps t
        (root, ps.modifyHead stiffened)
      | .damaged => (nextPage ps, damaged :: ps)
      | .misplaced => (nextPage ps, damaged :: ps)
      | .unplaced => (0, ps)
    let (rest, ps) := placeObjects e ps os
    let text := fun (t : Option Text) => e.encodeValue (.ofText? t)
    (Record.bytes [text o.kind, text o.name, text o.table, .integer root, text o.definition] :: rest, ps)

/-- The version of the format's library that writes files like these. -/
def writerVersion : Nat := 3045000

def head (d : Database) (pageCount : Nat) : Bytes :=
  let mode : UInt8 := if d.isLogged then 2 else 1
  magic ++ bigEndian 2 pageSize ++ [mode, mode, 0] ++ shares ++ bigEndian 4 d.changes ++
    bigEndian 4 pageCount ++ bigEndian 4 0 ++ bigEndian 4 0 ++ bigEndian 4 d.objectChanges ++
    bigEndian 4 newestFormat ++ bigEndian 4 0 ++ bigEndian 4 0 ++ bigEndian 4 d.encoding.number ++
    bigEndian 4 d.ownerVersion ++ bigEndian 4 0 ++ bigEndian 4 d.ownerId ++ List.replicate 20 0 ++
    bigEndian 4 d.changes ++ bigEndian 4 writerVersion

end Layout

open Layout in
/-- The file of a database. -/
def bytes (d : Database) : ByteArray :=
  let (records, ps) := placeObjects d.encoding [] d.objects
  let list : Tree := ⟨true, records.mapIdx fun i r => ⟨i + 1, r⟩⟩
  let (first, ps) := rootOf (List.replicate 100 0) ps list
  let first := head d (ps.length + 1) ++ first.drop 100
  ⟨((first :: ps.reverse).flatten).toArray⟩

end Upkeep.Database
