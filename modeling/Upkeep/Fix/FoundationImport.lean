import Upkeep.Fix.Outcome
import Upkeep.Source.Directive

/-!
# Moving the Foundation import

Imports of the Foundation library below the header of a file are removed. Unless the header has one
already, it is added behind the last import of a Flutter library in the header.
-/

namespace Upkeep.FoundationImport

def uri : Text := "package:flutter/foundation.dart".toList

def directive : Text := "import 'package:flutter/foundation.dart';".toList

def flutterImport : Text := "import 'package:flutter/".toList

def isImport (line : Text) : Bool := Directive.isImportOf uri line

/-- The number of imports of the library below the header. -/
def misplaced (b : Buffer) : Nat := (b.contents.drop b.headerLength).countP isImport

/-- The buffer without the imports below the header. -/
def removeMisplaced (b : Buffer) : Buffer :=
  { b with lines := b.lines.take b.headerLength ++
      (b.lines.drop b.headerLength).filter fun line => !isImport (Buffer.contentOf line) }

def addToHeader (b : Buffer) : Buffer :=
  b.insert ((b.afterLastInHeader? (Directive.opensWith flutterImport)).getD b.importPoint) directive

/-- The text with its misplaced imports moved into the header. -/
def fix (t : Text) : Outcome :=
  let b := Buffer.ofText t
  if misplaced b = 0 then Outcome.unchanged t
  else
    let cleared := removeMisplaced b
    let moved := if b.header.any isImport then cleared else addToHeader cleared
    ⟨moved.toText, misplaced b, []⟩

end Upkeep.FoundationImport
