import Upkeep.Sql.Plan.Rewriting

/-!
# What conditions say of sources

A condition may say that a column has a certain value. Then that can stand for the column in the other conditions,
which may then be looked at without a row of its source.

* `Supply.given`: the conditions of sources and of their selection, with given values in them.

A condition may say what has to be found in the texts of a source. Then the rows of the source are only those in
which it is found, and nothing is left of the condition.

* `Supply.searched`: sources of which only rows are there that are found, with the conditions that are left.
-/

namespace Upkeep.Sql
open Database (Value)

/-! ## Columns with a given value -/

/-- A value that a condition gives a column: the place of the condition among all, the column and its affinity. -/
structure Given where
  place : Nat
  source : Nat
  column : Nat
  affinity : Affinity
  value : Value

namespace Formula

/-- The value that is written in a formula. -/
def literal? : Formula → Option Value
  | .constant v => some v
  | .unary .negate (.constant (.integer n)) => some (.ofInt (-n))
  | .unary .keep (.constant v) => some v
  | _ => none

/-- The value that a condition gives a column, with the place of the condition. -/
def given? (place : Nat) : Formula → Option Given
  | .compare .equal [how] a b =>
    if how.collation ≠ .plain then none
    else match a, b with
      | .column s i, b => if how.right = .none then b.literal?.map (⟨place, s, i, how.left, ·⟩) else none
      | a, .column s i => if how.left = .none then a.literal?.map (⟨place, s, i, how.right, ·⟩) else none
      | _, _ => none
  | _ => none

def ties (f : Formula) : Bool := decide (1 < (f.uses.eraseDups).length)

end Formula

namespace Given

/-- What stands for a column with a value that is given. Where the affinity leaves values as they are, the column is
left, unless it `isSide` of a comparison. -/
def stand (all : List Given) (isSide : Bool) : Formula → Formula
  | .column s i =>
    match all.find? fun g => g.source == s && g.column == i with
    | some g => if g.affinity = .blob && !isSide then .column s i else .firstOf [.constant (g.affinity.keep g.value)]
    | none => .column s i
  | f => f

/-- A formula with given values in it, as deep as some levels. -/
def put (all : List Given) : Nat → Formula → Formula
  | 0, f => f
  | d + 1, f =>
    match f with
    | .column s i => stand all (!all.any (·.affinity == .blob)) (.column s i)
    | .compare op [how] a b =>
      let b := if how.left = .text then b else stand all true b
      .compare op [how] (put all d (stand all true a)) (put all d b)
    | .same n [how] a b =>
      let b := if how.left = .text then b else stand all true b
      .same n [how] (put all d (stand all true a)) (put all d b)
    | f => f.map (put all d) id

/-- Conditions with the values in them that other conditions give. A later condition stands before an earlier one. -/
def conditions (fs : List Formula) : List Formula :=
  let found := (fs.mapIdx fun i f => f.given? i).filterMap id
  let all := found.reverse.foldl (fun (all : List Given) g =>
    if all.any fun h => h.source == g.source && h.column == g.column then all else all ++ [g]) []
  if all.isEmpty then fs
  else fs.mapIdx fun i f => if f.ties && !all.any (·.place == i) then put all depth f else f

end Given

/-- The conditions of sources and of their selection, with given values in them. Those that belong to an open end are
left as they are. -/
def Supply.given (supplies : List Supply) (conditions : List Formula) : List Supply × List Formula :=
  let isOwn := fun (s : Supply) => s.kind == .inner || s.kind == .cross
  let tied := supplies.map fun s => if isOwn s then s.conditions else []
  let all := Given.conditions (tied.flatten ++ conditions)
  let (supplies, rest) := supplies.foldl (fun ((done, rest) : List Supply × List Formula) s =>
    if isOwn s then
      let n := s.conditions.length
      (done ++ [.make s.origin s.kind (rest.take n)], rest.drop n)
    else (done ++ [s], rest)) ([], all)
  (supplies, rest)

/-! ## Looking for texts -/

/-- The table of texts that a source is. -/
def Supply.fulltext? (s : Supply) : Option (Table × Fulltext) :=
  match s.origin with
  | .table t _ => t.fulltext.map fun f => (t, f)
  | .function (.search t _) _ => t.fulltext.map fun f => (t, f)
  | _ => none

/-- What a condition looks for: in which of some sources, in one column or in any, and the formula of what it is. -/
def Formula.search? (supplies : List Supply) (f : Formula) : Option (Nat × Option Nat × Formula) :=
  let found := fun (s c : Nat) (wanted : Formula) (isMatch : Bool) => do
    let (_, f) ← (supplies[s]?).bind Supply.fulltext?
    if wanted.sources.contains s || f.columns.length < c then none
    else if c = f.columns.length then
      if isMatch || f.edition = .fifth then some (s, none, wanted) else none
    else if isMatch then some (s, some c, wanted)
    else none
  match f with
  | .call false name _ _ [wanted, .column s c] => if name = "match".toList then found s c wanted true else none
  | .compare .equal [_] (.column s c) wanted =>
    (found s c wanted false).or <|
      match wanted with
      | .column t d => found t d (.column s c) false
      | _ => none
  | .compare .equal [_] wanted (.column s c) => found s c wanted false
  | _ => none

/-- A source of which only rows are there in which something is found. -/
def Supply.finding (column : Option Nat) (wanted : Formula) : Supply → Supply
  | .make (.table t _) kind cs => .make (.function (.search t [column]) [wanted]) kind cs
  | .make (.function (.search t columns) args) kind cs =>
    .make (.function (.search t (columns ++ [column])) (args ++ [wanted])) kind cs
  | s => s

/-- Sources of which only rows are there that are found, with the conditions that are left. Behind an open end only
conditions of the source itself count. -/
def Supply.searched (supplies : List Supply) (conditions : List Formula) : List Supply × List Formula :=
  if supplies.all fun s => s.fulltext?.isNone then (supplies, conditions)
  else
    let (supplies, conditions) := conditions.foldl (fun ((ss, cs) : List Supply × List Formula) f =>
      match f.search? ss with
      | some (s, column, wanted) =>
        if (ss[s]?).any fun s => s.kind == .inner || s.kind == .cross then (ss.modify s (finding column wanted), cs)
        else (ss, cs ++ [f])
      | none => (ss, cs ++ [f])) (supplies, [])
    (supplies.mapIdx fun i s =>
      s.conditions.foldl (fun (s : Supply) f =>
        match f.search? supplies with
        | some (j, column, wanted) => if i = j then s.finding column wanted else s
        | none => s) <|
        .make s.origin s.kind (s.conditions.filter fun f => !(f.search? supplies).any fun (j, _) => i == j),
      conditions)

end Upkeep.Sql
