import Upkeep.Fix.FoundationImport
import Upkeep.Fix.InvalidConst
import Upkeep.Fix.MaterialImport
import Upkeep.Fix.ConstructorConst
import Upkeep.Fix.MountedGuard
import Upkeep.Fix.UnusedImport

/-!
# The fixers

Three fixers follow the findings of their rules, and three scan a file on their own. Each has the name
under which it is run and reported.
-/

namespace Upkeep

/-- A fixer that follows findings. -/
inductive FindingFixer where
  | unusedImports
  | invalidConst
  | contextGuards
  deriving DecidableEq, Repr

namespace FindingFixer

def name : FindingFixer → Text
  | unusedImports => "unused-imports".toList
  | invalidConst => "invalid-const".toList
  | contextGuards => "context-guards".toList

def rules : FindingFixer → List Text
  | unusedImports => [Rule.unusedImport]
  | invalidConst => [Rule.invalidConstant, Rule.constWithNonConst]
  | contextGuards => [Rule.buildContextAcrossWait]

def fix : FindingFixer → Text → List Finding → Outcome
  | unusedImports => UnusedImport.fix
  | invalidConst => InvalidConst.fix
  | contextGuards => MountedGuard.fix

theorem applied_add_notes_fix (x : FindingFixer) (t : Text) (fs : List Finding) :
    (x.fix t fs).applied + (x.fix t fs).notes.length = fs.length := by
  cases x <;> exact Edit.applied_add_notes_run _ t fs

end FindingFixer

/-- A fixer that scans a file on its own. -/
inductive ScanFixer where
  | constMisuse (names : List Text)
  | materialImports
  | foundationImports
  deriving DecidableEq, Repr

namespace ScanFixer

def name : ScanFixer → Text
  | constMisuse _ => "const-misuse".toList
  | materialImports => "material-imports".toList
  | foundationImports => "foundation-imports".toList

def fix : ScanFixer → Text → Outcome
  | constMisuse names => ConstructorConst.fix names
  | materialImports => MaterialImport.fix
  | foundationImports => FoundationImport.fix

theorem notes_fix (x : ScanFixer) (t : Text) : (x.fix t).notes = [] := by
  cases x with
  | constMisuse names => rfl
  | materialImports =>
    simp only [fix, MaterialImport.fix]
    split <;> rfl
  | foundationImports =>
    simp only [fix, FoundationImport.fix]
    split <;> rfl

end ScanFixer
end Upkeep
