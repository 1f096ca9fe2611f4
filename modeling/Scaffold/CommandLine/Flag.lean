import Scaffold.Text.Pieces

/-!
The options of the command line. A switch stands alone and a parameter takes a value. Every option
has a long name; some switches have a letter as well, and letters can be joined in one word.
-/
namespace Scaffold.CommandLine

/-- An option that stands alone. -/
inductive Switch where
  | help
  | version
  | force
  | noOverwrite
  | verbose
  | quiet
  deriving DecidableEq, Repr

/-- An option that takes a value. -/
inductive Parameter where
  | route
  | className
  | language
  | config
  | databaseUrl
  | projectRoot
  | stubPath
  deriving DecidableEq, Repr

inductive Flag where
  | switch (s : Switch)
  | parameter (p : Parameter)
  deriving DecidableEq, Repr

def Switch.names : Switch → List String
  | .help => ["-h", "--help"]
  | .version => ["--version"]
  | .force => ["--force"]
  | .noOverwrite => ["--no-overwrite"]
  | .verbose => ["-v", "--verbose"]
  | .quiet => ["-q", "--quiet"]

def Parameter.names : Parameter → List String
  | .route => ["--route"]
  | .className => ["--crud-name"]
  | .language => ["--lang"]
  | .config => ["--config"]
  | .databaseUrl => ["--database-url"]
  | .projectRoot => ["--project-root"]
  | .stubPath => ["--stub-path"]

namespace Flag

def names : Flag → List String
  | .switch s => s.names
  | .parameter p => p.names

/-- All options, in the order in which they are listed. -/
def all : List Flag :=
  [.switch .help, .switch .version, .parameter .route, .parameter .className,
   .parameter .language, .parameter .config, .parameter .databaseUrl, .parameter .projectRoot,
   .parameter .stubPath, .switch .force, .switch .noOverwrite, .switch .verbose, .switch .quiet]

/-- Every name of an option, with the option. -/
def named : List (String × Flag) :=
  all.flatMap fun flag => flag.names.map (·, flag)

/-- How messages call an option. -/
def label (flag : Flag) : String :=
  Text.join "/" flag.names

/-- The word for the value of an option in a help text. -/
def valueWord : Flag → String
  | .switch _ => ""
  | .parameter .route => " NAME"
  | .parameter .className => " NAME"
  | .parameter .language => " LANG"
  | .parameter .config => " PATH"
  | .parameter .databaseUrl => " URL"
  | .parameter .projectRoot => " DIR"
  | .parameter .stubPath => " DIR"

/-- What a help text says about an option. -/
def description : Flag → String
  | .switch .help => "Show this help and exit."
  | .switch .version => "Show the version and exit."
  | .switch .force => "Overwrite existing files without asking."
  | .switch .noOverwrite => "Never overwrite existing files."
  | .switch .verbose => "Say more (once for what is done, twice for every detail)."
  | .switch .quiet => "Say nothing but errors."
  | .parameter .route => "Route name (default: the lower-cased table name)."
  | .parameter .className => "Class name (default: the singular of the table name)."
  | .parameter .language => "Language of the table name, for singulars and plurals."
  | .parameter .config => "Settings file, in YAML or JSON (default: crudgen.yaml)."
  | .parameter .databaseUrl => "Address of the database."
  | .parameter .projectRoot => "Root of the project (default: the current directory)."
  | .parameter .stubPath => "Directory of templates that replace the standard ones."

end Flag

end Scaffold.CommandLine
