import Upkeep.Fix.Outcome
import Upkeep.Source.Directive
import Upkeep.Text.Word

/-!
# Adding the Material import

A file that uses symbols of the Material library and does not name the library anywhere gets the
missing import at the point where new imports belong.
-/

namespace Upkeep.MaterialImport

def uri : Text := "package:flutter/material.dart".toList

def directive : Text := "import 'package:flutter/material.dart';".toList

def memberUses : List Text := ["Icons.".toList, "Colors.".toList]

def wordUses : List Text :=
  ["ElevatedButton".toList, "OutlinedButton".toList, "TextButton".toList]

/-- Whether a symbol of the library starts at `t` behind the character `before?`. -/
def usesAt (before? : Option Char) (t : Text) : Bool :=
  !before?.any Text.isWordChar &&
    (memberUses.any (Text.startsWith · t) ||
      wordUses.any fun word =>
        match Text.after? word t with
        | some rest => !rest.head?.any Text.isWordChar
        | none => false)

/-- Whether a text uses a symbol of the library behind the character `before?`. -/
def usesFrom (before? : Option Char) : Text → Bool
  | [] => false
  | c :: t => usesAt before? (c :: t) || usesFrom (some c) t

def usesSymbols (t : Text) : Bool := usesFrom none t

/-- Whether a text uses the library and does not name it. -/
def isNeeded (t : Text) : Bool := !Text.contains uri t && usesSymbols t

/-- The text with the import, if it is needed. -/
def fix (t : Text) : Outcome :=
  if isNeeded t then
    let b := Buffer.ofText t
    ⟨(b.insert b.importPoint directive).toText, 1, []⟩
  else Outcome.unchanged t

end Upkeep.MaterialImport
