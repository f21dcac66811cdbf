import Upkeep.Database.Image
import Upkeep.FileTree

/-!
# The journal and the log beside a database file

Pages of a database file that are about to be changed may be kept in a journal beside it. A journal that is still
there when the database is opened belongs to changes that were not finished: its pages are put back. The journal
is made of parts, each with a head in a sector of its own and records behind it.

* `Journal.isHot content`: whether something is to be put back.
* `Journal.owner? content`: the file that has to be there for that, if one is named.
* `Journal.restored journal file`: the file with its old pages.

Changes of a database may be kept in a log beside its file before they are made in it. A log has a head and
frames behind it; a frame is a page as it is after a change, and the last frame of a change says how many pages
the database has then. All is summed up from the head on, so that the log ends where its sums no longer hold; a
change without its last frame was never made.

* `Log.open? content`: a log by its head, if there is one that can be read.
* `Log.change? l`: the pages that are newer than the file.
* `Log.merged log file`: the file with the changes in its log.

What is beside a database file tells what became of its last changes. Changes that were not finished are undone,
then those that were finished are made. Beside a file without a byte there is nothing of worth.

* `Recovery.journalOf place`, `Recovery.logOf place`: what is beside the file at a place.
* `Recovery.content? ...`: what the file holds in truth.
-/

namespace Upkeep.Database

/-! ## The log -/

abbrev Sums := UInt32 × UInt32

/-- A log by its head. -/
structure Log where
  content : ByteArray
  pageSize : Nat
  /-- Whether the words that are summed up start with their high byte. -/
  isBigEndian : Bool
  /-- What every frame has in common with the head. -/
  mark : Bytes
  /-- The sums behind the head. -/
  sums : Sums

/-- What a log makes of a file: the pages that are new, each with its place in the log, the newest in front,
and the number of pages. -/
structure Change where
  pages : List (Nat × Nat)
  pageCount : Nat

namespace Log

def headSize : Nat := 32

def frameHeadSize : Nat := 24

def wordAt (content : ByteArray) (isBigEndian : Bool) (place : Nat) : UInt32 :=
  let bytes := slice content place 4
  UInt32.ofNat (ofBigEndian (if isBigEndian then bytes else bytes.reverse))

/-- The sums behind `n` pairs of words. -/
def addPairs (content : ByteArray) (isBigEndian : Bool) : Nat → Nat → Sums → Sums
  | 0, _, sums => sums
  | n + 1, place, (a, b) =>
    let a := a + wordAt content isBigEndian place + b
    let b := b + wordAt content isBigEndian (place + 4) + a
    addPairs content isBigEndian n (place + 8) (a, b)

def sumsAt (content : ByteArray) (place : Nat) : Sums :=
  (wordAt content true place, wordAt content true (place + 4))

/-- The number that logs start with. One more is written where words start with their high byte. -/
def magic : Nat := 0x377f0682

def format : Nat := 3007000

/-- A log by its head. There is none where the head is not whole; one of another format cannot be read. -/
def open? (content : ByteArray) : Except Flaw (Option Log) :=
  let written := numberAt content 0 4
  let pageSize := numberAt content 8 4
  let isBigEndian := written == magic + 1
  let sums := addPairs content isBigEndian 3 0 (0, 0)
  if content.size ≤ headSize ∨ !isBigEndian && written != magic ∨ !pageSizes.contains pageSize ∨
      sums ≠ sumsAt content 24 then .ok none
  else if numberAt content 4 4 ≠ format then .error .noLog
  else .ok (some ⟨content, pageSize, isBigEndian, slice content 16 8, sums⟩)

/-- The change behind at most `n` more frames from a place on, where the frames since the last change that was
made, and that change, are given. -/
def changeFrom (l : Log) : Nat → Nat → Sums → List (Nat × Nat) → Option Change → Option Change
  | 0, _, _, _, made => made
  | n + 1, place, sums, pages, made =>
    let data := place + frameHeadSize
    let sums := addPairs l.content l.isBigEndian 1 place sums
    let sums := addPairs l.content l.isBigEndian (l.pageSize / 8) data sums
    let page := numberAt l.content place 4
    let pageCount := numberAt l.content (place + 4) 4
    if slice l.content (place + 8) 8 ≠ l.mark ∨ page = 0 ∨ sums ≠ sumsAt l.content (place + 16) then made
    else
      let pages := (page, data) :: pages
      changeFrom l n (data + l.pageSize) sums pages (if pageCount = 0 then made else some ⟨pages, pageCount⟩)

/-- The pages that are newer than the file, if any change was made. -/
def change? (l : Log) : Option Change :=
  changeFrom l ((l.content.size - headSize) / (frameHeadSize + l.pageSize)) headSize l.sums [] none

/-- The bytes of a page of a file, with zeros behind the end of the file. -/
def pageOf (file : ByteArray) (pageSize page : Nat) : ByteArray :=
  let found := file.extract ((page - 1) * pageSize) (page * pageSize)
  found ++ ⟨Array.replicate (pageSize - found.size) 0⟩

/-- A file with the changes in its log. -/
def merged (log file : ByteArray) : Except Flaw ByteArray := do
  match ← open? log with
  | none => return file
  | some l =>
    match l.change? with
    | none => return file
    | some change =>
      return ((List.range change.pageCount).map (· + 1)).foldl
        (fun made page =>
          match change.pages.lookup page with
          | some place => made ++ l.content.extract place (place + l.pageSize)
          | none => made ++ pageOf file l.pageSize page)
        .empty

end Log

/-! ## The journal -/

namespace Journal

/-- The bytes that every part starts with. -/
def magic : Bytes := [0xd9, 0xd5, 0x05, 0xf9, 0x20, 0xa1, 0x63, 0xd7]

def isHot (content : ByteArray) : Bool := content[0]?.any (· != 0)

/-- The path of the file that has to be there if something is to be put back. It is written behind the last
part, with the sum of its bytes. -/
def owner? (content : ByteArray) : Option Bytes :=
  let stop := content.size - 16
  let length := numberAt content stop 4
  let name := slice content (stop - length) length
  if content.size < 16 ∨ length = 0 ∨ 512 < length ∨ stop < length ∨
      slice content (content.size - 8) 8 ≠ magic then none
  else if (name.foldl (fun n b => n + b.toNat) 0) % Nat.pow 2 32 = numberAt content (stop + 4) 4 then some name
  else none

/-- What has been put back so far. -/
structure State where
  file : ByteArray
  /-- The pages that the file had. -/
  pageCount : Nat
  pageSize : Nat
  sectorSize : Nat
  /-- The pages that have been put back. -/
  pages : List Nat

/-- The most bytes that a file grows to. Behind its end there are zeros as well. -/
def mostBytes : Nat := 67108864

/-- A file of another size. -/
def resized (file : ByteArray) (size : Nat) : ByteArray :=
  let kept := file.extract 0 size
  kept ++ ⟨Array.replicate (min size mostBytes - kept.size) 0⟩

/-- The sum of a page from a start: of each two hundredth byte counted from the end. -/
def sum (content : ByteArray) (start place pageSize : Nat) : Nat :=
  let bytes := (List.range ((pageSize - 1) / 200)).map fun i => pageSize - 200 * (i + 1)
  (bytes.foldl (fun n i => n + (content[place + i]?.getD 0).toNat) start) % Nat.pow 2 32

/-- Whether a number counts the one page that no file keeps. -/
def isLockPage (pageSize page : Nat) : Bool := page == 0x40000000 / pageSize + 1

/-- Puts back at most `n` pages of the records from a place on. Tells where the next part may start: nowhere
when a record is not whole. -/
def putBack (content : ByteArray) (start : Nat) : Nat → Nat → State → State × Option Nat
  | 0, place, s => (s, some place)
  | n + 1, place, s =>
    let page := numberAt content place 4
    let data := place + 4
    let next := data + s.pageSize + 4
    if content.size < data + s.pageSize ∨ page = 0 ∨ isLockPage s.pageSize page then (s, none)
    else if s.pageCount < page ∨ s.pages.contains page then putBack content start n next s
    else if content.size < next ∨ sum content start data s.pageSize ≠ numberAt content (next - 4) 4 then (s, none)
    else
      let before := s.file.extract 0 ((page - 1) * s.pageSize)
      let after := s.file.extract (page * s.pageSize) s.file.size
      let file := before ++ content.extract data (data + s.pageSize) ++ after
      putBack content start n next { s with file, pages := page :: s.pages }

def sectorSizes : List Nat := (List.range 12).map fun i => 32 * Nat.pow 2 i

/-- Puts back the pages of at most `n` parts from a place on. The first part tells the sizes, and how many pages
the file had. -/
def putBackParts (content : ByteArray) : Nat → Nat → State → State
  | 0, _, s => s
  | n + 1, place, s =>
    let place := (place + s.sectorSize - 1) / s.sectorSize * s.sectorSize
    let sectorSize := numberAt content (place + 20) 4
    let written := numberAt content (place + 24) 4
    let pageSize := if written = 0 then s.pageSize else written
    if content.size < place + s.sectorSize ∨ slice content place 8 ≠ magic then s
    else if place = 0 ∧ (!pageSizes.contains pageSize ∨ !sectorSizes.contains sectorSize) then s
    else
      let pageCount := numberAt content (place + 16) 4
      let s := if place = 0 then
          { s with
            file := resized s.file (pageCount * pageSize), pageCount, pageSize, sectorSize }
        else s
      let counted := numberAt content (place + 8) 4
      let most := (content.size - s.sectorSize) / (s.pageSize + 8)
      let count := if counted = 0xffffffff then most else counted
      match putBack content (numberAt content (place + 12) 4) (min count (content.size + 1))
          (place + s.sectorSize) s with
      | (s, some next) => putBackParts content n next s
      | (s, none) => s

/-- A file with its old pages. -/
def restored (content file : ByteArray) : ByteArray :=
  let start : State := ⟨file, 0, (pageSize? file).getD 4096, 512, []⟩
  (putBackParts content (content.size + 1) 0 start).file

end Journal

/-! ## Recovery -/

namespace Recovery

/-- The place beside another one whose name has some more letters. -/
def beside (more : String) (place : Place) : Place :=
  place.dropLast ++ [(place.getLast?.getD []) ++ more.toList]

def journalOf : Place → Place := beside "-journal"

def logOf : Place → Place := beside "-wal"

/-- A file as it was before changes that were not finished. -/
def undone (mayWrite : Bool) (isThere : Bytes → Bool) (file : ByteArray) : Option Node → Except Flaw ByteArray
  | none => .ok file
  | some (.dir _) => .error .unreadable
  | some (.file journal) =>
    if !Journal.isHot journal then .ok file
    else if !mayWrite then .error .unfinished
    else if (Journal.owner? journal).any fun o => !isThere o then .ok file
    else .ok (Journal.restored journal file)

/-- A file with the changes in its log. -/
def done (canLog : Bool) (file : ByteArray) : Option Node → Except Flaw ByteArray
  | none => .ok file
  | some (.dir _) => .error .noLog
  | some (.file log) =>
    if log.isEmpty then .ok file else if canLog then Log.merged log file else .error .noLog

/-- What a file holds, by what is beside it. -/
def content? (mayWrite canLog : Bool) (isThere : Bytes → Bool) (journal log : Option Node) (file : ByteArray) :
    Except Flaw ByteArray := do
  if file.isEmpty then return file
  let file ← undone mayWrite isThere file journal
  if file.isEmpty then return file
  done canLog file log

end Recovery
end Upkeep.Database
