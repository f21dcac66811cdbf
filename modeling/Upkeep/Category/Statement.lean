import Upkeep.Text.Basic

/-!
# Statements about the template table

What the catalogue asks of its database. The statements are made of few parts, so that it can be said apart from any
database what they mean; `Change.text` and `Query.text` are how they are written, and this is what the database gets.

* `insertion`, `clearance`, `iconChange`: the statements that change rows.
* `rowQuery`, `countQuery`, `iconlessQuery`, `sizeQuery`, `idQuery`: the queries.
* `definition`, `indexDefinitions`: the table with its indexes, as it is set up.
-/

namespace Upkeep.Category

def tableName : Text := "system_category_templates".toList

/-! ## Parts -/

/-- The columns that statements name. -/
inductive Column where
  | id
  | name
  | englishName
  | pinyin
  | shortPinyin
  | icon
  | kind
  | parentId
  | isActive
  | color
  deriving DecidableEq, Repr

namespace Column

/-- The columns of a template, in the order in which statements name them. -/
def all : List Column :=
  [id, name, englishName, pinyin, shortPinyin, icon, kind, parentId, isActive, color]

def word : Column → Text
  | id => "id".toList
  | name => "name".toList
  | englishName => "name_en".toList
  | pinyin => "name_pinyin".toList
  | shortPinyin => "name_pinyin_abbr".toList
  | icon => "icon".toList
  | kind => "type".toList
  | parentId => "parent_id".toList
  | isActive => "is_active".toList
  | color => "color".toList

end Column

/-- What is computed of a row. -/
inductive Formula where
  | column (c : Column)
  /-- The number of the row, which tells when it came. -/
  | number
  | parameter (n : Nat)
  | constant (n : Nat)
  | emptyText
  | isNull (a : Formula)
  | isThere (a : Formula)
  | equal (a b : Formula)
  | either (a b : Formula)
  | choice (condition a b : Formula)
  deriving DecidableEq, Repr

/-- How a formula is written. None of the formulas below needs parentheses. -/
def Formula.text : Formula → Text
  | column c => c.word
  | number => "rowid".toList
  | parameter n => '?' :: Text.ofNat n
  | constant n => Text.ofNat n
  | emptyText => "''".toList
  | isNull a => a.text ++ " IS NULL".toList
  | isThere a => a.text ++ " IS NOT NULL".toList
  | equal a b => a.text ++ " = ".toList ++ b.text
  | either a b => a.text ++ " OR ".toList ++ b.text
  | choice c a b =>
    "CASE WHEN ".toList ++ c.text ++ " THEN ".toList ++ a.text ++ " ELSE ".toList ++ b.text ++ " END".toList

/-- What a query shows of rows that fall together. -/
inductive Shown where
  | value (a : Formula)
  | size
  | sum (a : Formula)
  deriving DecidableEq, Repr

def Shown.text : Shown → Text
  | value a => a.text
  | size => "COUNT(*)".toList
  | sum a => "SUM(".toList ++ a.text ++ [')']

/-- Which rows fall together. -/
inductive Grouping where
  | each
  | all
  | by (a : Formula)
  deriving DecidableEq, Repr

/-- A query of the table. What it shows may have names of its own. -/
structure Query where
  isDistinct : Bool
  shown : List (Shown × Option Text)
  condition : Option Formula
  grouping : Grouping
  order : List Formula
  limit : Option Nat
  /-- The blanks in front of what is shown, and those in front of the later parts. -/
  gap : Text
  margin : Text
  deriving DecidableEq, Repr

/-- A statement that changes rows. -/
inductive Change where
  /-- Adds a row with parameters in some columns, which are written on some lines, unless its key is taken. -/
  | insert (lines : List (List Column)) (key : Column)
  | delete
  | set (target : Column) (value condition : Formula)
  deriving DecidableEq, Repr

/-! ## Texts -/

def commaSeparated (gap : Text) (parts : List Text) : Text := (',' :: gap).intercalate parts

def Query.text (q : Query) : Text :=
  let named := fun (s : Shown × Option Text) => s.1.text ++ s.2.elim [] (" as ".toList ++ ·)
  let part := fun (words : String) (t : Text) => q.margin ++ words.toList ++ ' ' :: t
  "SELECT".toList ++ (if q.isDistinct then " DISTINCT".toList else []) ++ q.gap ++
    commaSeparated q.gap (q.shown.map named) ++ part "FROM" tableName ++
    (q.condition.elim [] fun a => part "WHERE" a.text) ++
    (match q.grouping with
      | .by a => part "GROUP BY" a.text
      | _ => []) ++
    (if q.order.isEmpty then [] else part "ORDER BY" (commaSeparated [' '] (q.order.map Formula.text))) ++
    q.limit.elim [] fun n => part "LIMIT" (Text.ofNat n)

def newLine (n : Nat) : Text := '\n' :: List.replicate n ' '

def Change.text : Change → Text
  | insert lines key =>
    let columns := lines.map fun line => commaSeparated [' '] (line.map Column.word)
    let parameters := lines.flatten.mapIdx fun i _ => (Formula.parameter (i + 1)).text
    "INSERT INTO ".toList ++ tableName ++ " (".toList ++ newLine 12 ++ commaSeparated (newLine 12) columns ++
      newLine 8 ++ ") VALUES (".toList ++ commaSeparated [' '] parameters ++ [')'] ++
      newLine 8 ++ "ON CONFLICT(".toList ++ key.word ++ ") DO NOTHING".toList
  | delete => "DELETE FROM ".toList ++ tableName
  | set target value condition =>
    "UPDATE ".toList ++ tableName ++ " SET ".toList ++ target.word ++ " = ".toList ++ value.text ++
      " WHERE ".toList ++ condition.text

/-! ## The statements -/

/-- Adds a row, unless its id is taken. -/
def insertion : Change :=
  .insert [[.id, .name, .englishName, .pinyin, .shortPinyin], [.icon, .kind, .parentId, .isActive, .color]] .id

/-- Lets all rows go. -/
def clearance : Change := .delete

def iconChange : Change := .set .icon (.parameter 1) (.equal (.column .name) (.parameter 2))

def hasNoParent : Formula := .isNull (.column .parentId)

def hasParent : Formula := .isThere (.column .parentId)

/-- Lists the rows, main categories first. -/
def rowQuery : Query where
  isDistinct := false
  shown := Column.all.map fun c => (.value (.column c), none)
  condition := none
  grouping := .each
  order := [hasParent, .number]
  limit := none
  gap := [' ']
  margin := newLine 9

/-- Counts the active rows of each type. -/
def countQuery : Query where
  isDistinct := false
  shown :=
    [(.value (.column .kind), none), (.size, some "total".toList),
      (.sum (.choice hasNoParent (.constant 1) (.constant 0)), some "parents".toList),
      (.sum (.choice hasParent (.constant 1) (.constant 0)), some "children".toList)]
  condition := some (.equal (.column .isActive) (.constant 1))
  grouping := .by (.column .kind)
  order := [.column .kind]
  limit := none
  gap := newLine 12
  margin := newLine 9

/-- Lists the names of rows without an icon. -/
def iconlessQuery : Query where
  isDistinct := true
  shown := [(.value (.column .name), none)]
  condition := some (.either (.isNull (.column .icon)) (.equal (.column .icon) .emptyText))
  grouping := .each
  order := [.column .name]
  limit := none
  gap := [' ']
  margin := newLine 9

/-- Counts the rows. -/
def sizeQuery : Query where
  isDistinct := false
  shown := [(.size, none)]
  condition := none
  grouping := .all
  order := []
  limit := none
  gap := [' ']
  margin := [' ']

/-- The id of the first row with a name. -/
def idQuery : Query where
  isDistinct := false
  shown := [(.value (.column .id), none)]
  condition := some (.equal (.column .name) (.parameter 1))
  grouping := .each
  order := [.number]
  limit := some 1
  gap := [' ']
  margin := [' ']

def queries : List Query := [rowQuery, countQuery, iconlessQuery, sizeQuery]

def ofLines (lines : List String) : Text := ['\n'].intercalate (lines.map (·.toList))

example : insertion.text = ofLines
    ["INSERT INTO system_category_templates (",
      "            id, name, name_en, name_pinyin, name_pinyin_abbr,",
      "            icon, type, parent_id, is_active, color",
      "        ) VALUES (?1, ?2, ?3, ?4, ?5, ?6, ?7, ?8, ?9, ?10)",
      "        ON CONFLICT(id) DO NOTHING"] := by decide +kernel

example : [clearance, iconChange].map Change.text =
    ["DELETE FROM system_category_templates".toList,
      "UPDATE system_category_templates SET icon = ?1 WHERE name = ?2".toList] := by decide +kernel

example : queries.map Query.text =
    [ofLines
      ["SELECT id, name, name_en, name_pinyin, name_pinyin_abbr, icon, type, parent_id, is_active, color",
        "         FROM system_category_templates",
        "         ORDER BY parent_id IS NOT NULL, rowid"],
    ofLines
      ["SELECT",
        "            type,",
        "            COUNT(*) as total,",
        "            SUM(CASE WHEN parent_id IS NULL THEN 1 ELSE 0 END) as parents,",
        "            SUM(CASE WHEN parent_id IS NOT NULL THEN 1 ELSE 0 END) as children",
        "         FROM system_category_templates",
        "         WHERE is_active = 1",
        "         GROUP BY type",
        "         ORDER BY type"],
    ofLines
      ["SELECT DISTINCT name",
        "         FROM system_category_templates",
        "         WHERE icon IS NULL OR icon = ''",
        "         ORDER BY name"],
    "SELECT COUNT(*) FROM system_category_templates".toList] := by decide +kernel

/-! ## Setting up -/

/-- The table, unless there is one. -/
def definition : Text :=
  ofLines
    ["CREATE TABLE IF NOT EXISTS system_category_templates (",
      "            id TEXT PRIMARY KEY,",
      "            name TEXT NOT NULL,",
      "            name_en TEXT,",
      "            name_pinyin TEXT,",
      "            name_pinyin_abbr TEXT,",
      "            icon TEXT,",
      "            type TEXT NOT NULL CHECK (type IN ('expense', 'income')),",
      "            parent_id TEXT REFERENCES system_category_templates(id),",
      "            is_active BOOLEAN NOT NULL DEFAULT 1,",
      "            color TEXT,",
      "            created_at DATETIME DEFAULT CURRENT_TIMESTAMP",
      "        )"]

/-- The indexes of the names and of the parents, unless they are there. -/
def indexDefinitions : List Text :=
  ["CREATE INDEX IF NOT EXISTS idx_templates_name ON system_category_templates(name)".toList,
    "CREATE INDEX IF NOT EXISTS idx_templates_parent ON system_category_templates(parent_id)".toList]

end Upkeep.Category
