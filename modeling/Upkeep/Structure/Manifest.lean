import Upkeep.Failure

/-!
# Layout manifests

A manifest says which files and directories a project is to have and whose lines are counted. It is
read from a file, or is the built-in layout of a project with a service core and a mobile app.
-/

namespace Upkeep.Structure

/-- One file or directory that is expected. -/
structure Check where
  heading : Text
  path : Path
  label : Text
  /-- Whether its absence is a failure, and not only a warning. -/
  critical : Bool
  /-- The path without which the check is skipped. -/
  requires : Option Path
  deriving DecidableEq, Repr

/-- The sources whose lines are counted. -/
structure CountTarget where
  label : Text
  dir : Path
  extension : Text
  deriving DecidableEq, Repr

/-- What a project is to have. -/
structure Manifest where
  checks : List Check
  targets : List CountTarget
  deriving DecidableEq, Repr

namespace Manifest

/-! ## Reading a manifest -/

open Json (Shape Value)

def checkShape : Shape :=
  .record "StructureCheck".toList
    [("section".toList, .required, .string), ("path".toList, .required, .string),
      ("label".toList, .required, .string), ("critical".toList, .optional, .bool),
      ("requires".toList, .nullable, .string)]

def targetShape : Shape :=
  .record "LineCountTarget".toList
    [("label".toList, .required, .string), ("dir".toList, .required, .string),
      ("extension".toList, .required, .string)]

def shape : Shape :=
  .record "Manifest".toList
    [("checks".toList, .required, .list checkShape),
      ("line_counts".toList, .optional, .list targetShape)]

/-- A check. One that does not say so is critical. -/
def checkOf (v : Value) : Check :=
  ⟨(v.field 0).text, (v.field 1).text, (v.field 2).text, (v.field 3).bool?.getD true,
    (v.field 4).text?⟩

def targetOf (v : Value) : CountTarget := ⟨(v.field 0).text, (v.field 1).text, (v.field 2).text⟩

def parse? (t : Text) : Except Json.Error Manifest :=
  (shape.parse t).map fun v => ⟨(v.field 0).items.map checkOf, (v.field 1).items.map targetOf⟩

def load (w : Workspace) (path : Path) : Except Failure Manifest :=
  (FileTask.readManifest.of path (w.readText path)).bind fun t =>
    (parse? t).mapError (Failure.json (some (.manifest, path)))

/-! ## The built-in layout -/

def expect (heading path label : String) (requires : Option String) : Check :=
  ⟨heading.toList, path.toList, label.toList, true, requires.map String.toList⟩

/-- Critical checks of the entries of a directory, labelled with a word before their names. -/
def expectIn (heading dir word : String) (names : List String) : List Check :=
  names.map fun n => expect heading (dir ++ "/" ++ n) (word ++ n) (some dir)

def rootChecks : List Check :=
  let heading := "Project root"
  expect heading "jive-core" "directory jive-core" none ::
    expect heading "jive-flutter" "directory jive-flutter" none ::
    ["README.md", "JIVE_PROJECT_SUMMARY.md", "JIVE_COMPLETE_TEST_REPORT.md",
      "MAYBE_TO_JIVE_CONVERSION_COMPLETE.md"].map fun doc => expect heading doc doc none

/-- The checks of the service core. -/
def coreChecks : List Check :=
  let heading := "Rust core"
  [expect heading "jive-core/Cargo.toml" "Cargo.toml" none,
    expect heading "jive-core/src" "src directory" none] ++
  expectIn heading "jive-core/src" "module " ["domain", "application", "infrastructure", "wasm"] ++
  (expectIn heading "jive-core/src/application" "service "
    ["account_service.rs", "transaction_service.rs", "ledger_service.rs", "category_service.rs",
      "budget_service.rs", "report_service.rs", "user_service.rs", "auth_service.rs",
      "sync_service.rs", "import_service.rs", "export_service.rs", "rule_service.rs",
      "tag_service.rs", "payee_service.rs", "notification_service.rs",
      "scheduled_transaction_service.rs", "currency_service.rs", "statistics_service.rs"])

/-- The checks of the mobile app. -/
def appChecks : List Check :=
  let heading := "Flutter app"
  [expect heading "jive-flutter/pubspec.yaml" "pubspec.yaml" none,
    expect heading "jive-flutter/lib" "lib directory" none] ++
  expectIn heading "jive-flutter/lib" "" ["main.dart", "app.dart"] ++
  expectIn heading "jive-flutter/lib" "directory " ["models", "providers", "services", "ui", "core"] ++
  expectIn heading "jive-flutter/lib/providers" "provider "
    ["auth_provider.dart", "transaction_provider.dart", "account_provider.dart",
      "budget_provider.dart"] ++
  (expectIn heading "jive-flutter/lib/ui/components" "component "
    ["buttons", "cards", "charts", "dashboard", "transactions", "accounts", "budget"]).map
      fun c => { c with critical := false }

def documentChecks : List Check :=
  [("README.md", "project readme"), ("JIVE_PROJECT_SUMMARY.md", "project summary"),
    ("SERVICES_TEST_SUMMARY.md", "services test summary"),
    ("JIVE_COMPLETE_TEST_REPORT.md", "complete test report"),
    ("MAYBE_TO_JIVE_CONVERSION_COMPLETE.md", "conversion report")].map fun (doc, label) =>
      expect "Documentation" doc (label ++ " (" ++ doc ++ ")") none

def builtIn : Manifest where
  checks := rootChecks ++ coreChecks ++ appChecks ++ documentChecks
  targets := [⟨"Rust".toList, "jive-core".toList, "rs".toList⟩,
    ⟨"Dart".toList, "jive-flutter".toList, "dart".toList⟩]

end Manifest
end Upkeep.Structure
