import Scaffold.Files.Fault
import Scaffold.Files.Path
import Scaffold.Generation.Stage
import Scaffold.Inflection.Language
import Scaffold.Validation.Issue

/-!
Why work on a project ends early. A failure says what could not be done; its wording is made from
that in one place.
-/
namespace Scaffold

open Files Generation Validation

/-- Why the columns of a table cannot be had. -/
inductive SchemaFault where
  | engine (reason : String)
  | lookup (table reason : String)
  | missing (table : String)
  | columns (table reason : String)
  | noColumns (table : String)
  deriving DecidableEq, Repr

def SchemaFault.message : SchemaFault → String
  | .engine reason => "Cannot create database engine: " ++ reason
  | .lookup table reason => "Could not check whether table `" ++ table ++ "` exists: " ++ reason
  | .missing table => "Table `" ++ table ++ "` does not exist."
  | .columns table reason => "Could not read columns of `" ++ table ++ "`: " ++ reason
  | .noColumns table => "Table `" ++ table ++ "` does not exist or has no columns."

/-- Why settings cannot be had from a file. -/
inductive SettingsFault where
  | missing (path : Path)
  | notFile (path : Path)
  /-- The file is not written in its format. -/
  | malformed (format : String) (path : Path)
  /-- A value in the file means nothing. -/
  | meaningless (reason : String)
  /-- The file holds something else than a map. -/
  | notMap (expected found : String)
  | sectionNotMap (path : Path)
  | invalid (issues : List Issue)
  deriving DecidableEq, Repr

def SettingsFault.message : SettingsFault → String
  | .missing path => "Config file not found: " ++ path.text
  | .notFile path => "Config path is not a file: " ++ path.text
  | .malformed format path => "Invalid " ++ format ++ " in " ++ path.text
  | .meaningless reason => reason
  | .notMap expected found => "Expected a " ++ expected ++ " at top level, got " ++ found ++ "."
  | .sectionNotMap path => "The 'crudgen' section of " ++ path.text ++ " must be a mapping."
  | .invalid issues => "Config validation failed: " ++ headline "GeneratorConfig" issues

inductive Failure where
  /-- An input that is not what it has to be. -/
  | invalid (issues : List Issue)
  | unsupportedLanguage (language : String)
  | noDatabase
  | schema (fault : SchemaFault)
  | templateMissing (name : String) (path : Option Path)
  | layoutMissing (layout : String) (path : Path)
  | templateUnreadable (name : String) (path : Path)
  | templateRefused (name : String) (path : Path) (fault : Fault)
  | artifact (path : Path) (fault : Fault)
  | route (path : Path) (fault : Fault)
  | illegalStep (source target : Stage)
  | file (fault : Fault)
  /-- A file whose bytes are no text. -/
  | notText
  | settings (fault : SettingsFault)
  deriving DecidableEq, Repr

namespace Failure

/-- What is said about bytes that are no text. -/
def notTextMessage : String :=
  "not UTF-8"

/-- The wording of a failure. -/
def message : Failure → String
  | .invalid issues => String.intercalate "; " (issues.map (·.defect.message))
  | .unsupportedLanguage language => Inflection.unsupportedLanguage language
  | .noDatabase => "No database URL configured (use --database-url or 'database_url')."
  | .schema fault => fault.message
  | .templateMissing name _ => "Template '" ++ name ++ "' not found."
  | .layoutMissing layout path => "Layout '" ++ layout ++ "' not found at " ++ path.text ++ "."
  | .templateUnreadable name _ => "Cannot read template '" ++ name ++ "': " ++ notTextMessage
  | .templateRefused name _ fault => "Cannot read template '" ++ name ++ "': " ++ fault.message
  | .artifact path fault => "Cannot write " ++ path.text ++ ": " ++ fault.message
  | .route path fault => "Cannot append route to " ++ path.text ++ ": " ++ fault.message
  | .illegalStep source target =>
    "Illegal generator transition " ++ source.name ++ " → " ++ target.name
  | .file fault => fault.message
  | .notText => notTextMessage
  | .settings fault => fault.message

/-- The path that a failure is about, for the failures of reading and writing artifacts. -/
def path? : Failure → Option Path
  | .templateMissing _ path => path
  | .layoutMissing _ path => some path
  | .templateUnreadable _ path => some path
  | .templateRefused _ path _ => some path
  | .artifact path _ => some path
  | .route path _ => some path
  | _ => none

/-- Failures of reading templates and of writing artifacts and routes. -/
def isFileTrouble : Failure → Bool
  | .templateMissing .. | .layoutMissing .. | .templateUnreadable .. | .templateRefused ..
  | .artifact .. | .route .. => true
  | _ => false

end Failure

end Scaffold
