import Upkeep.Text.Basic

/-!
# Writing JSON

The documents that reports are written as, and their layout: two blanks for every level, one item or
field to a line, and brackets side by side around nothing.
-/

namespace Upkeep.Json

/-- A document. Objects keep the order of their fields. -/
inductive Document where
  | null
  | bool (b : Bool)
  | number (n : Nat)
  | string (t : Text)
  | array (items : List Document)
  | object (fields : List (Text × Document))

namespace Document

def ofOption : Option Text → Document
  | none => null
  | some t => string t

/-- One character of a string. Quotes, backslashes and controls are escaped. -/
def escapedChar (c : Char) : Text :=
  if c = '"' then ['\\', '"']
  else if c = '\\' then ['\\', '\\']
  else if c = '\n' then ['\\', 'n']
  else if c = '\r' then ['\\', 'r']
  else if c = '\t' then ['\\', 't']
  else if c.toNat = 8 then ['\\', 'b']
  else if c.toNat = 12 then ['\\', 'f']
  else if c.toNat < 32 then
    "\\u00".toList ++ [Nat.digitChar (c.toNat / 16), Nat.digitChar (c.toNat % 16)]
  else [c]

def stringText (t : Text) : Text := '"' :: t.flatMap escapedChar ++ ['"']

def newLine (level : Nat) : Text := '\n' :: List.replicate (2 * level) ' '

mutual

/-- The text of a document that starts at a level. -/
def pretty (level : Nat) : Document → Text
  | null => "null".toList
  | bool true => "true".toList
  | bool false => "false".toList
  | number n => Text.ofNat n
  | string t => stringText t
  | array [] => ['[', ']']
  | array (item :: items) =>
    '[' :: newLine (level + 1) ++ pretty (level + 1) item ++ prettyItems (level + 1) items ++
      newLine level ++ [']']
  | object [] => ['\x7b', '\x7d']
  | object ((name, value) :: fields) =>
    '\x7b' :: newLine (level + 1) ++ stringText name ++ ": ".toList ++ pretty (level + 1) value ++
      prettyFields (level + 1) fields ++ newLine level ++ ['\x7d']

def prettyItems (level : Nat) : List Document → Text
  | [] => []
  | item :: items => ',' :: newLine level ++ pretty level item ++ prettyItems level items

def prettyFields (level : Nat) : List (Text × Document) → Text
  | [] => []
  | (name, value) :: fields =>
    ',' :: newLine level ++ stringText name ++ ": ".toList ++ pretty level value ++
      prettyFields level fields

end

def render (d : Document) : Text := pretty 0 d

end Document
end Upkeep.Json
