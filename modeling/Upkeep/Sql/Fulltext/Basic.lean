import Upkeep.Text.Basic
import Upkeep.Text.Blank
import Upkeep.Text.Word

/-!
# Tables of texts

A table of texts is one whose rows are found by the words in their columns. It is defined by a list of arguments:
its columns, and how words are told apart and where the rows are kept.

* `Fulltext.ofModule? module args`: the table of texts that a definition describes.
* `Splitter.words s t`: the words of a text.
-/

namespace Upkeep.Sql

/-!
## Letters that count as the same

Words are found again without regard to the case of their letters and to the marks on them.

* `Letter.plain? c`: the letter that a character counts as, unless it is a mark that counts for nothing.
-/

namespace Letter

/-- Letters without marks, each with the letters that count as it besides its capital. -/
def marked : List (Char × String) :=
  [('a', "ÀÁÂÃÄÅàáâãäåĀāĂăĄąǍǎȀȁȂȃȦȧḀḁẠạẢảÅ"), ('b', "ḂḃḄḅḆḇ"), ('c', "ÇçĆćĈĉĊċČč"), ('d', "ĎďḊḋḌḍḎḏḐḑḒḓ"),
    ('e', "ÈÉÊËèéêëĒēĔĕĖėĘęĚěȄȅȆȇȨȩḘḙḚḛẸẹẺẻẼẽ"), ('f', "Ḟḟ"), ('g', "ĜĝĞğĠġĢģǦǧǴǵḠḡ"), ('h', "ĤĥȞȟḢḣḤḥḦḧḨḩḪḫẖ"),
    ('i', "ÌÍÎÏìíîïĨĩĪīĬĭĮįİǏǐȈȉȊȋḬḭỈỉỊị"), ('j', "Ĵĵǰ"), ('k', "ĶķǨǩḰḱḲḳḴḵK"), ('l', "ĹĺĻļĽľḶḷḺḻḼḽ"),
    ('m', "ḾḿṀṁṂṃ"), ('n', "ÑñŃńŅņŇňǸǹṄṅṆṇṈṉṊṋ"), ('o', "ÒÓÔÕÖòóôõöŌōŎŏŐőƠơǑǒǪǫȌȍȎȏȮȯỌọỎỏ"), ('p', "ṔṕṖṗ"),
    ('r', "ŔŕŖŗŘřȐȑȒȓṘṙṚṛṞṟ"), ('s', "ŚśŜŝŞşŠšſȘșṠṡṢṣẛ"), ('t', "ŢţŤťȚțṪṫṬṭṮṯṰṱẗ"),
    ('u', "ÙÚÛÜùúûüŨũŪūŬŭŮůŰűŲųƯưǓǔȔȕȖȗṲṳṴṵṶṷỤụỦủ"), ('v', "ṼṽṾṿ"), ('w', "ŴŵẀẁẂẃẄẅẆẇẈẉẘ"), ('x', "ẊẋẌẍ"),
    ('y', "ÝýÿŶŷŸȲȳẎẏẙỲỳỴỵỶỷỸỹ"), ('z', "ŹźŻżŽžẐẑẒẓẔẕ")]

/-- Capitals outside of ASCII: from one to another with what lies between two of them, and how far behind each its
small letter lies. -/
def capitals : List (Nat × Nat × Nat × Nat) :=
  [(0xC6, 0xD0, 10, 32), (0xD8, 0xDE, 6, 32), (0x110, 0x110, 1, 1), (0x126, 0x126, 1, 1), (0x132, 0x132, 1, 1),
    (0x141, 0x141, 1, 1), (0x14A, 0x14A, 1, 1), (0x152, 0x152, 1, 1), (0x166, 0x166, 1, 1), (0x1D5, 0x1DB, 2, 1),
    (0x391, 0x3A1, 1, 32), (0x3A3, 0x3AB, 1, 32), (0x400, 0x40F, 1, 80), (0x410, 0x42F, 1, 32), (0x460, 0x480, 2, 1),
    (0x48A, 0x4BE, 2, 1), (0x4D0, 0x526, 2, 1), (0x531, 0x556, 1, 48), (0x1EA4, 0x1EB6, 2, 1), (0x1EBE, 0x1EC6, 2, 1),
    (0x1ED0, 0x1EE2, 2, 1), (0x1EE8, 0x1EF0, 2, 1), (0x2160, 0x216F, 1, 16), (0x2C80, 0x2CE2, 2, 1),
    (0xFF21, 0xFF3A, 1, 32)]

def isMark (c : Char) : Bool := decide (0x300 ≤ c.toNat) && decide (c.toNat ≤ 0x331)

def small (c : Char) : Char :=
  let n := c.toNat
  match capitals.find? fun (first, last, step, _) => first ≤ n && n ≤ last && (n - first) % step == 0 with
  | some (_, _, _, offset) => .ofNat (n + offset)
  | none => c.toLower

/-- The letter that a character counts as, unless it is a mark that counts for nothing. -/
def plain? (c : Char) : Option Char :=
  if c.toNat < 0x80 then some c.toLower
  else if isMark c then none
  else match marked.find? fun (_, cs) => cs.toList.contains c with
    | some (l, _) => some l
    | none => some (small c)

end Letter

/-! ## Definitions -/

/-- The rules that a table of texts follows. -/
inductive Edition where
  | third
  | fourth
  | fifth
  deriving DecidableEq, Repr

/-- What words are made of. -/
inductive Alphabet where
  /-- Letters and numbers of all scripts. -/
  | world
  /-- ASCII letters and digits, and everything that is not ASCII. -/
  | plain
  /-- Any three characters that stand side by side make a word. -/
  | triples
  deriving DecidableEq, Repr

/-- How words are told apart. -/
structure Splitter where
  alphabet : Alphabet
  keepsMarks : Bool
  keepsCase : Bool
  /-- What counts as a part of words too, and what does not. -/
  joining : Text
  parting : Text
  deriving DecidableEq, Repr

/-- Where the rows of a table of texts are kept. -/
inductive Keeper where
  /-- In a table beside it. -/
  | beside
  /-- In another table that is kept without it, where a column is the number of a row. -/
  | elsewhere (table number : Text)
  /-- Nowhere. Some tables can let rows go nevertheless. -/
  | nowhere (mayForget : Bool)
  deriving DecidableEq, Repr

/-- A table of texts. -/
structure Fulltext where
  edition : Edition
  /-- The columns, and whether their words are looked for. -/
  columns : List (Text × Bool)
  splitter : Splitter
  keeper : Keeper
  deriving DecidableEq, Repr

namespace Splitter

/-- How words are told apart where nothing is said: the newest edition knows all scripts. -/
def usual (e : Edition) : Splitter := ⟨if e = .fifth then .world else .plain, false, false, [], []⟩

def isPart (s : Splitter) (c : Char) : Bool :=
  if s.joining.any (· == c) then true
  else if s.parting.any (· == c) then false
  else match s.alphabet with
    | .world => Text.isAlphanumeric c || Letter.isMark c
    | .plain => c.isAlphanum || decide (0x80 ≤ c.toNat)
    | .triples => true

def plainWord (s : Splitter) (w : Text) : Text :=
  match s.alphabet with
  | .plain => Text.toLower w
  | .triples => if s.keepsCase then w else w.map Letter.small
  | .world => if s.keepsMarks then w.map Letter.small else w.filterMap Letter.plain?

/-- All groups of three characters that stand side by side. -/
def triples : Text → List Text
  | a :: b :: c :: t => [a, b, c] :: triples (b :: c :: t)
  | _ => []

def writtenWords (s : Splitter) (t : Text) : List Text :=
  match s.alphabet with
  | .triples => triples t
  | _ => (t.splitBy fun a b => s.isPart a == s.isPart b).filter fun w => w.head?.any s.isPart

def words (s : Splitter) (t : Text) : List Text := (s.writtenWords t).map s.plainWord

/-- A way to tell words apart with what some options say of it. -/
def withOptions (s : Splitter) : List Text → Splitter
  | key :: value :: more =>
    let s :=
      if sameKey key "tokenchars" then { s with joining := s.joining ++ value }
      else if sameKey key "separators" then { s with parting := s.parting ++ value }
      else if sameKey key "remove_diacritics" then { s with keepsMarks := value == ['0'] }
      else if sameKey key "case_sensitive" then { s with keepsCase := value == ['1'] }
      else s
    withOptions s more
  | _ => s
where
  sameKey (key : Text) (name : String) : Bool := Text.toLower key == name.toList

end Splitter

namespace Fulltext

/-! ## Arguments -/

/-- Whether a character may stand in a word of an argument. -/
def isBare (c : Char) : Bool := c.isAlphanum || c == '_' || c == '\x1a' || decide (0x80 ≤ c.toNat)

/-- What stands between marks, of which two stand for one, and what stands behind the last of them. -/
def quoted (close : Char) : Text → Text × Text
  | [] => ([], [])
  | c :: t =>
    if c ≠ close then
      let (word, rest) := quoted close t
      (c :: word, rest)
    else match t with
      | d :: more =>
        if d = close then
          let (word, rest) := quoted close more
          (c :: word, rest)
        else ([], t)
      | [] => ([], [])

def closing? (c : Char) : Option Char :=
  if c == '[' then some ']' else if ['"', '\'', '`'].contains c then some c else none

/-- The first word of a text, without marks, and the rest. -/
def firstWord (t : Text) : Text × Text :=
  match t.dropWhile (·.isWhitespace) with
  | [] => ([], [])
  | c :: rest =>
    match closing? c with
    | some close => quoted close rest
    | none => ((c :: rest).takeWhile isBare, (c :: rest).dropWhile isBare)

/-- All words of a text, at most `n`. -/
def allWords : Nat → Text → List Text
  | 0, _ => []
  | n + 1, t =>
    match firstWord t with
    | ([], rest) => if rest.isEmpty then [] else allWords n (rest.drop 1)
    | (w, rest) => w :: allWords n rest

/-- An argument that sets something, and what it sets it to. -/
def setting? (t : Text) : Option (Text × Text) :=
  let (key, rest) := firstWord t
  match rest.dropWhile (·.isWhitespace) with
  | '=' :: value => some (Text.toLower key, Text.trim value)
  | _ => none

def bareValue (t : Text) : Text :=
  match t.head?.bind closing? with
  | some _ => (firstWord t).1
  | none => t

/-- How words are told apart as some words say. What takes endings off words stands before what splits texts. -/
def splitterOf (e : Edition) (ws : List Text) : Splitter :=
  let options := if e = .fifth then id else List.flatMap fun (w : Text) => match Text.breakOn? ['='] w with
    | some (key, value) => [key, value]
    | none => [w]
  match ws with
  | [] => .usual e
  | w :: rest =>
    let (name, rest) :=
      if Text.toLower w == "porter".toList then
        match rest with
        | v :: rest => (Text.toLower v, rest)
        | [] => ((if e = .fifth then "unicode61" else "simple").toList, [])
      else (Text.toLower w, rest)
    let alphabet : Alphabet :=
      if name == "unicode61".toList then .world else if name == "trigram".toList then .triples else .plain
    Splitter.withOptions ⟨alphabet, false, false, [], []⟩ (options rest)

/-- A table of texts with what a setting says of it. -/
def withSetting (f : Fulltext) (key value : Text) : Fulltext :=
  let isKey := fun (s : String) =>
    if f.edition = .fifth then !key.isEmpty && Text.startsWith key s.toList else key == s.toList
  let plain := bareValue value
  if isKey "content" then
    { f with keeper := if plain.isEmpty then .nowhere false else
        match f.keeper with
        | .elsewhere _ n => .elsewhere plain n
        | _ => .elsewhere plain "rowid".toList }
  else if isKey "content_rowid" then
    { f with keeper := match f.keeper with
        | .elsewhere t _ => .elsewhere t plain
        | k => k }
  else if f.edition = .fifth && key == "contentless_delete".toList then
    { f with keeper := match f.keeper with
        | .nowhere _ => .nowhere (plain == ['1'])
        | k => k }
  else if isKey "tokenize" then
    { f with splitter := splitterOf f.edition (allWords value.length (if f.edition = .fifth then plain else value)) }
  else if isKey "notindexed" then
    { f with columns := f.columns.map fun (c, isIn) => (c, isIn && Text.toLower c != Text.toLower plain) }
  else f

def withColumn (f : Fulltext) (t : Text) : Fulltext :=
  let (name, rest) := firstWord t
  let isIn := f.edition ≠ .fifth || Text.toLower (firstWord rest).1 != "unindexed".toList
  { f with columns := f.columns ++ [(name, isIn)] }

/-- The number column of the rows that are kept elsewhere is said behind the table or before it. -/
def inOrder (settings : List (Text × Text)) : List (Text × Text) :=
  let (contents, others) := settings.partition fun (k, _) => k == "content".toList
  contents ++ others

/-- The table of texts that a definition describes: nothing if the module keeps something else. -/
def ofModule? (module_ : Text) (args : List Text) : Option Fulltext := do
  let e ← match String.ofList (Text.toLower module_) with
    | "fts3" => some Edition.third
    | "fts4" => some Edition.fourth
    | "fts5" => some Edition.fifth
    | _ => none
  let isTokenizer := fun (t : Text) => e ≠ .fifth && Text.startsWith "tokenize ".toList (Text.toLower t)
  let start : Fulltext := ⟨e, [], .usual e, .beside⟩
  let columns := args.filter fun t => (setting? t).isNone && !isTokenizer t
  let f := columns.foldl withColumn start
  let f := (inOrder (args.filterMap setting?)).foldl (fun f (key, value) => f.withSetting key value) f
  let f := (args.filter isTokenizer).foldl (fun f t => f.withSetting "tokenize".toList (t.drop 9)) f
  return if f.columns.isEmpty && f.keeper matches .beside then f.withColumn "content".toList else f

/-- The columns that a star does not show, and the one among them that is the number of a row. -/
def hiddenColumns (f : Fulltext) (table : Text) : List Text × Option Text :=
  match f.edition with
  | .fifth => ([table, "rank".toList], none)
  | .fourth => ([table, "docid".toList, "__langid".toList], some "docid".toList)
  | .third => ([table, "docid".toList], some "docid".toList)

end Fulltext

end Upkeep.Sql
