import Upkeep.Database.Record
import Upkeep.Sql.Fulltext.Query
import Upkeep.Sql.Function.Basic

/-!
# Rows that are found

A row is found if what is looked for is in its texts. What is known of it then goes along with the row: how well it
fits, and where the phrases stand that were found.

* `Sought.found f s rows`: which of some texts fit, each with what is known of it.
* `Fulltext.functions`: the functions that tell of it.
-/

namespace Upkeep.Sql
open Database (Value)

/-- A phrase in the texts of a row: which phrase of those that are looked for, and where. -/
structure Hit where
  phrase : Nat
  column : Nat
  place : Nat
  size : Nat
  deriving DecidableEq, Repr

namespace Phrase

def starts : List (Text × Bool) → List Text → Bool
  | [], _ => true
  | _ :: _, [] => false
  | (w, isOpen) :: more, v :: vs => (if isOpen then w.isPrefixOf v else w == v) && starts more vs

/-- Where a phrase stands in a list of words. -/
def places (p : Phrase) : Nat → List Text → List Nat
  | _, [] => []
  | i, w :: ws =>
    (if (!p.isFirst || i == 0) && starts p.words (w :: ws) then [i] else []) ++ places p (i + 1) ws

end Phrase

namespace Sought

/-- The places of phrases that stand near each other, each with its size, as far as they take part in that. -/
def nearPlaces (gap : Nat) (all : List (Nat × List Nat)) : List (List Nat) :=
  match all with
  | [(_, places)] => [places]
  | all =>
    let lasts := (all.flatMap (·.2)).eraseDups
    let fits := fun (last : Nat) => all.all fun (size, places) => places.any fun p => p ≤ last && last ≤ p + size + gap
    let ends := lasts.filter fits
    all.map fun (size, places) => places.filter fun p => ends.any fun last => p ≤ last && last ≤ p + size + gap

/-- Where the phrases stand that are found in the words of a row, if the row fits. The phrases are numbered from the
left; the number behind the last one stands beside. -/
def hits (row : List (List Text)) : Nat → Sought → Nat × Option (List Hit)
  | n, nothing => (n, none)
  | n, near cs ps gap =>
    let found := (row.zipIdx).flatMap fun (ws, c) =>
      if cs.all (·.contains c) then
        let places := nearPlaces gap (ps.map fun p => (p.words.length, p.places 0 ws))
        if places.any List.isEmpty then []
        else ((ps.zip places).zipIdx).flatMap fun ((p, ks), i) => ks.map fun k => ⟨n + i, c, k, p.words.length⟩
      else []
    (n + ps.length, if found.isEmpty then none else some found)
  | n, both a b =>
    let (n, x) := hits row n a
    let (n, y) := hits row n b
    (n, match x, y with
      | some xs, some ys => some (xs ++ ys)
      | _, _ => none)
  | n, oneOf a b =>
    let (n, x) := hits row n a
    let (n, y) := hits row n b
    (n, match x, y with
      | none, none => none
      | _, _ => some (x.getD [] ++ y.getD []))
  | n, without a b =>
    let (n, x) := hits row n a
    let (n, y) := hits row n b
    (n, if y.isSome then none else x)

def phrases : Sought → List (Phrase × Option (List Nat))
  | nothing => []
  | near cs ps _ => ps.map fun p => (p, cs)
  | both a b => phrases a ++ phrases b
  | oneOf a b => phrases a ++ phrases b
  | without a b => phrases a ++ phrases b

end Sought

namespace Fulltext

/-! ## What goes along with a row -/

def packed (vs : List Value) : Value := .blob (Database.Record.bytes vs)

def unpacked? : Value → Option (List Value)
  | .blob bytes => Database.Record.ofBytes? bytes
  | _ => none

/-- The words of a text by where they start and where they end. -/
def spans (s : Splitter) (t : Text) : List (Nat × Nat) :=
  match s.alphabet with
  | .triples => (List.range (t.length - 2)).map fun i => (i, i + 3)
  | _ =>
    ((t.splitBy fun a b => s.isPart a == s.isPart b).foldl (fun (at_, all) w =>
      (at_ + w.length, if w.head?.any s.isPart then all ++ [(at_, at_ + w.length)] else all))
      ((0, []) : Nat × List (Nat × Nat))).2

/-- Stretches in order, those that overlap put together. -/
def merged : List (Nat × Nat) → List (Nat × Nat)
  | (a, b) :: (c, d) :: rest => if c ≤ b then merged ((a, max b d) :: rest) else (a, b) :: merged ((c, d) :: rest)
  | l => l
termination_by l => l.length

/-- A text cut at stretches: what lies outside and what lies inside, one behind the other. -/
def cut (t : Text) (at_ : Nat) : List (Nat × Nat) → List Text
  | [] => [t]
  | (a, b) :: rest => t.take (a - at_) :: (t.drop (a - at_)).take (b - a) :: cut (t.drop (b - at_)) b rest

/-- The pieces of a text, every other one of which belongs to phrases that were found. -/
def pieces (s : Splitter) (t : Text) (hits : List Hit) : List Text :=
  let all := spans s t
  let stretches := hits.map fun h => (h.place, h.place + h.size - 1)
  let sorted := merged (stretches.mergeSort fun a b => decide (a.1 ≤ b.1))
  cut t 0 (sorted.filterMap fun (i, j) => do return ((← all[i]?).1, (← all[j]?).2))

/-- How often each phrase was found in each column, behind how rare it is, and behind the length of the row beside
that of others. -/
def packedCounts (width : Nat) (ratio : Float) (rarity : List Float) (hits : List Hit) : Value :=
  packed (Value.ofReal ratio :: rarity.mapIdx fun i x =>
    packed (Value.ofReal x :: (List.range width).map fun c =>
      .integer (hits.countP fun h => h.phrase == i && h.column == c)))

/-- How well a row fits, when columns have some weights: the less, the better. -/
def score (weights : List Float) (counts : Value) : Option Float := do
  match ← unpacked? counts with
  | ratio :: phrases =>
    let total := phrases.foldl (fun (sum : Float) p =>
      match unpacked? p with
      | some (rarity :: found) =>
        let often := (found.mapIdx fun c n => n.toReal * (weights[c]?).getD 1.0).foldl (· + ·) 0.0
        sum + rarity.toReal * ((often * (1.2 + 1.0)) / (often + 1.2 * (1.0 - 0.75 + 0.75 * ratio.toReal)))
      | _ => sum) 0.0
    some (-1.0 * total)
  | [] => none

/-- How rare a phrase is that some of so many rows have. -/
def rarity (rows hits : Nat) : Float :=
  let x := Float.log ((rows.toFloat - hits.toFloat + 0.5) / (hits.toFloat + 0.5))
  if x ≤ 0.0 then 1e-6 else x

end Fulltext

/-- Which of some texts have what is looked for, by their places, each with how well it fits and what is known of it
besides. -/
def Sought.found (f : Fulltext) (s : Sought) (rows : List (List Text)) : List (Nat × Value × Value) :=
  let width := f.columns.length
  let split := rows.map fun texts => (texts.zip f.columns).map fun (t, _, isIn) =>
    if isIn then f.splitter.words t else []
  let size := fun (ws : List (List Text)) => (ws.map List.length).foldl (· + ·) 0
  let average := ((split.map size).foldl (· + ·) 0).toFloat / rows.length.toFloat
  let rarity := s.phrases.map fun (p, cs) =>
    Fulltext.rarity rows.length <| split.countP fun ws =>
      (ws.zipIdx).any fun (ws, c) => cs.all (·.contains c) && !(p.places 0 ws).isEmpty
  (((rows.zip split).zipIdx).filterMap fun ((texts, words), i) =>
    (s.hits words 0).2.map fun hits =>
      let counts := Fulltext.packedCounts width ((size words).toFloat / average) rarity hits
      let shown := texts.mapIdx fun c t =>
        Fulltext.packed ((Fulltext.pieces f.splitter t (hits.filter (·.column == c))).map Value.ofText)
      let rank := if f.edition = .fifth then ((Fulltext.score [] counts).map Value.ofReal).getD .null else .null
      (i, rank, Fulltext.packed (counts :: shown)))

namespace Fulltext

/-! ## Functions -/

/-- What is said of a function that tells of rows that are found, when a row is not. -/
def notFound (name : String) : Problem :=
  .failed ("unable to use function ".toList ++ name.toList ++ " in the requested context".toList)

/-- The text of pieces, with something around every other one. -/
def between (opening closing : Text) : List Value → Text
  | outside :: inside :: rest =>
    outside.chars ++ opening ++ inside.chars ++ closing ++ between opening closing rest
  | rest => rest.flatMap Value.chars

def piecesOf (columns : List Value) (i : Nat) : List Value := ((columns[i]?).bind unpacked?).getD []

/-- The column in which most is found. -/
def fullest (columns : List Value) : Nat :=
  ((columns.zipIdx).foldl (fun ((best, at_) : Nat × Nat) (_, i) =>
    let n := (piecesOf columns i).length
    if best < n then (n, i) else (best, at_)) (1, 0)).2

/-- The functions that tell of rows that are found, by their names. -/
def functions : List (String × Function) :=
  [("bm25", .ofValues Function.any fun _ vs =>
      match vs with
      | row :: weights =>
        match (unpacked? row).bind fun all => all.head?.bind (score (weights.map Value.toReal)) with
        | some x => .ok (.ofReal x)
        | none => .error (notFound "bm25")
      | [] => .error (notFound "bm25")),
    ("highlight", .ofValues Function.any fun _ vs =>
      match vs.head?.bind unpacked?, vs with
      | some (_ :: columns), [_, i, opening, closing] =>
        .ok (.ofText (between opening.chars closing.chars (piecesOf columns i.toInt.toNat)))
      | some _, _ => .error (.failed "wrong number of arguments to function highlight()".toList)
      | none, _ => .error (notFound "highlight")),
    ("snippet", .ofValues Function.any fun _ vs =>
      match vs.head?.bind unpacked?, vs with
      | some (_ :: columns), [_, i, opening, closing, _, _] =>
        let n := i.toInt
        .ok (.ofText (between opening.chars closing.chars
          (piecesOf columns (if n < 0 then fullest columns else n.toNat))))
      | some _, _ => .error (.failed "wrong number of arguments to function snippet()".toList)
      | none, _ => .error (notFound "snippet"))]

end Fulltext
end Upkeep.Sql
