import Upkeep.Database.Content

/-!
# Reading a database file

A database file is a row of pages of one size, counted from one. The first page starts with the head of
the file and is the root of the tree that lists the objects; every other tree has its own root page. A
page lists its cells, and an inner page has a page below it for each cell and one more at its right end.
The end of a record that is too long for its page stands in a chain of pages of its own.

* `Image.open? content`: the file by its head, or the flaw of the head.
* `Image.tree? im root`: the records below a root page, in order.
* `Database.ofBytes content`: the database in a file.
-/

namespace Upkeep.Database

/-- A database file by its head. -/
structure Image where
  content : ByteArray
  pageSize : Nat
  /-- The bytes of a page that hold records. -/
  usable : Nat
  pageCount : Nat

/-- The bytes of a file from `start` on. Behind the end of the file there are zeros. -/
def slice (content : ByteArray) (start length : Nat) : Bytes :=
  (List.range length).map fun i => content[start + i]?.getD 0

def numberAt (content : ByteArray) (start length : Nat) : Nat := ofBigEndian (slice content start length)

/-- The words that every database file starts with. -/
def magic : Bytes := (Text.toBytes "SQLite format 3".toList).toList ++ [0]

/-- The shares of a page that bound its records, which are the same in every file. -/
def shares : Bytes := [64, 32, 32]

def pageSizes : List Nat := [512, 1024, 2048, 4096, 8192, 16384, 32768, 65536]

/-- The size of the pages, as the head of a file gives it. The largest size is written as one. -/
def pageSize? (content : ByteArray) : Option Nat :=
  let written := numberAt content 16 2
  pageSizes.find? (· == if written = 1 then 65536 else written)

/-- The number of pages that the head of a file gives, if the head was last written by one who counts
them. -/
def countedPages? (content : ByteArray) : Option Nat :=
  let counted := numberAt content 28 4
  if counted ≠ 0 ∧ slice content 24 4 = slice content 92 4 then some counted else none

namespace Image

/-- A file by its head. -/
def open? (content : ByteArray) : Except Flaw Image :=
  match pageSize? content with
  | none => .error .notADatabase
  | some pageSize =>
    let usable := pageSize - numberAt content 20 1
    let present := (content.size + pageSize - 1) / pageSize
    let pageCount := (countedPages? content).getD present
    if slice content 0 16 ≠ magic ∨ 2 < numberAt content 19 1 ∨ slice content 21 3 ≠ shares then
      .error .notADatabase
    else if present < pageCount then .error .damaged
    else if usable < 480 then .error .notADatabase
    else .ok ⟨content, pageSize, usable, pageCount⟩

def pageStart (im : Image) (page : Nat) : Nat := (page - 1) * im.pageSize

def number (im : Image) (start length : Nat) : Nat := numberAt im.content start length

/-- The bytes of a record that stand in its cell, for a record of `length` bytes that may take up to
`most` of them there. -/
def localLength (usable most length : Nat) : Nat :=
  if length ≤ most then length
  else
    let least := (usable - 12) * 32 / 255 - 23
    let wanted := least + (length - least) % (usable - 4)
    if wanted ≤ most then wanted else least

def mostLocal (usable : Nat) (isNumbered : Bool) : Nat :=
  if isNumbered then usable - 35 else (usable - 12) * 64 / 255 - 23

/-- `length` bytes from a chain of pages, of which at most `pages` are read. -/
def chain? (im : Image) : Nat → Nat → Nat → Option Bytes
  | pages, page, length =>
    if length = 0 then some []
    else match pages with
      | 0 => none
      | pages + 1 => do
        if page = 0 ∨ im.pageCount < page then none
        else
          let start := im.pageStart page
          let here := min length (im.usable - 4)
          let rest ← chain? im pages (im.number start 4) (length - here)
          some (slice im.content (start + 4) here ++ rest)

/-- The record of `length` bytes that starts at a place of the file. -/
def record? (im : Image) (isNumbered : Bool) (start length : Nat) : Option Bytes :=
  if im.content.size + im.pageSize < length then none
  else
    let here := localLength im.usable (mostLocal im.usable isNumbered) length
    let bytes := slice im.content start here
    if here = length then some bytes
    else (bytes ++ ·) <$> im.chain? im.pageCount (im.number (start + here) 4) (length - here)

/-- A page of a tree. -/
structure Page where
  isLeaf : Bool
  isNumbered : Bool
  /-- Where its cells are in the file. -/
  cells : List Nat
  /-- The page below its right end. -/
  right : Nat

/-- What a page is by the byte it starts with: whether it is a leaf, and whether its records have
numbers. -/
def pageKinds : List (Nat × Bool × Bool) :=
  [(2, false, false), (5, false, true), (10, true, false), (13, true, true)]

/-- A page of a tree. -/
def page? (im : Image) (page : Nat) : Option Page := do
  if page = 0 ∨ im.pageCount < page then none
  else
    let start := im.pageStart page
    let head := if page = 1 then start + 100 else start
    let (isLeaf, isNumbered) ← pageKinds.lookup (im.number head 1)
    let count := im.number (head + 3) 2
    let list := if isLeaf then head + 8 else head + 12
    if start + im.usable < list + 2 * count then none
    else
      let cells := (List.range count).map fun i => start + im.number (list + 2 * i) 2
      if cells.any fun c => decide (c < list + 2 * count ∨ start + im.pageSize < c + 4) then none
      else some ⟨isLeaf, isNumbered, cells, im.number (head + 8) 4⟩

/-- Whether the chain of free stretches of a page that starts at a place goes forward and stays in the page,
and how many bytes it has. -/
def freeBytes? (im : Image) (start : Nat) : Nat → Nat → Option Nat
  | 0, _ => none
  | n + 1, place =>
    if im.usable < place + 4 then none
    else
      let next := im.number (start + place) 2
      let size := im.number (start + place + 2) 2
      if place + size + 3 < next then (freeBytes? im start n next).map (size + ·)
      else if 0 < next ∨ im.usable < place + size then none
      else some size

/-- Whether the bytes of a page that are free can be found, so that something can be put into it. -/
def hasRoom (im : Image) (page : Nat) (p : Page) : Bool :=
  let start := im.pageStart page
  let head := if page = 1 then start + 100 else start
  let written := im.number (head + 5) 2
  let top := if written = 0 then 65536 else written
  let first := im.number (head + 1) 2
  let free := if first = 0 then some 0 else if first < top then none else im.freeBytes? start im.usable first
  let list := head - start + (if p.isLeaf then 8 else 12) + 2 * p.cells.length
  p.cells.all (fun c => decide (start + top ≤ c)) && free.any fun n =>
    let all := n + im.number (head + 7) 1 + top
    decide (all ≤ im.usable ∧ list ≤ all)

/-- The cell at a place of the file, without the number of the page below it. -/
def cell? (im : Image) (isNumbered : Bool) (start : Nat) : Option Cell := do
  let bytes := slice im.content start 18
  let (length, behind) ← readCompact? bytes
  let (number, behind) ← if isNumbered then readCompact? behind else some (0, behind)
  let record ← im.record? isNumbered (start + (bytes.length - behind.length)) length
  some ⟨number, record⟩

/-- The cells below a page, in order. The tree may have at most `levels` levels. -/
def cells? (im : Image) (isNumbered : Bool) : Nat → Nat → Option (List Cell)
  | 0, _ => none
  | levels + 1, page => do
    let p ← im.page? page
    if p.isNumbered ≠ isNumbered then none
    else if p.isLeaf then p.cells.mapM (im.cell? isNumbered)
    else
      let inner ← p.cells.mapM fun c => do
        let below ← cells? im isNumbered levels (im.number c 4)
        if isNumbered then some below
        else
          let own ← im.cell? false (c + 4)
          some (below ++ [own])
      let last ← cells? im isNumbered levels p.right
      some (inner.flatten ++ last)

def mostLevels : Nat := 20

/-- Whether all pages from one down have room. The tree may have at most `levels` levels. -/
def isSupple (im : Image) : Nat → Nat → Bool
  | 0, _ => false
  | levels + 1, page =>
    (im.page? page).any fun p => im.hasRoom page p &&
      (p.isLeaf || (isSupple im levels p.right && p.cells.all fun c => isSupple im levels (im.number c 4)))

/-- The records below a root page. -/
def tree? (im : Image) (root : Nat) : Option Tree := do
  let p ← im.page? root
  let cells ← im.cells? p.isNumbered mostLevels root
  some ⟨p.isNumbered, cells⟩

def encoding (im : Image) : Encoding := Encoding.ofNumber (im.number 56 4)

/-- The text of a column of the list of objects, if there is one. It ends before its first zero. -/
def textOf? (e : Encoding) : Value → Option Text
  | .null => none
  | .integer n => some (if n < 0 then '-' :: Text.ofNat n.natAbs else Text.ofNat n.toNat)
  | .real _ => some "0.0".toList
  | .text bytes => some (Text.ofBytesLossy ⟨((e.decode bytes).takeWhile (· ≠ 0)).toArray⟩)
  | .blob bytes => some (Text.ofBytesLossy ⟨(bytes.takeWhile (· ≠ 0)).toArray⟩)

def ofDigits (digits : Text) : Nat := digits.foldl (fun n c => 10 * n + (c.toNat - '0'.toNat)) 0

/-- What an object with a root page keeps. The page is given as a text of digits. -/
def contentAt (im : Image) : Option Text → Content
  | none => .unplaced
  | some t =>
    let root := ofDigits t
    if t.isEmpty ∨ !t.all Char.isDigit ∨ im.pageCount < root then .misplaced
    else if root = 0 then .nothing
    else (im.tree? root).elim .damaged (if im.isSupple mostLevels root then .tree else .rigid)

/-- The object that a record of the list of objects describes, with its root page. An object without a name is
known by a question mark. -/
def object? (im : Image) (record : Bytes) : Option (Nat × Object) := do
  let values ← Record.ofBytes? record
  let text? := fun i => (values[i]?).bind (textOf? im.encoding)
  some (ofDigits ((text? 3).getD []),
    ⟨(text? 0).getD [], (text? 1).getD ['?'], (text? 2).getD [], text? 4, im.contentAt (text? 3)⟩)

/-- Whether an index has a place of its own: not the one of an index of the same table before it, nor, without
a definition, one that no tree can have. -/
def isPlaced (before : List (Nat × Object)) (root : Nat) (o : Object) : Bool :=
  o.kind != "index".toList ||
    ((o.definition.isSome || 2 ≤ root) &&
      !before.any fun (r, b) => b.kind == o.kind && b.table == o.table && 2 ≤ r && r == root)

/-- The objects of some records. -/
def placed (before : List (Nat × Object)) : List (Nat × Object) → List Object
  | [] => []
  | (root, o) :: rest =>
    let o := if isPlaced before root o || o.content = .unplaced then o else { o with content := .misplaced }
    o :: placed ((root, o) :: before) rest

def objects? (im : Image) : Option (List Object) := do
  let list ← im.tree? 1
  if list.isNumbered then some (placed [] (← list.cells.mapM fun c => im.object? c.record)) else none

end Image

def newestFormat : Nat := 4

/-- The database in a file. A file of at most one byte holds the empty one. -/
def ofBytes (content : ByteArray) : Except Flaw Database :=
  if content.size ≤ 1 then .ok .empty
  else (Image.open? content).bind fun im =>
    if newestFormat < im.number 47 1 then .error .unknownFormat
    else match im.objects? with
      | none => .error .damaged
      | some objects =>
        .ok { objects, objectChanges := im.number 40 4, changes := im.number 24 4
              ownerVersion := im.number 60 4, ownerId := im.number 68 4
              isLogged := im.number 19 1 == 2, isLocked := decide (2 < im.number 18 1)
              encoding := im.encoding }

end Upkeep.Database
