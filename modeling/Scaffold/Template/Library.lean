import Scaffold.Emission.File
import Scaffold.Schema.FieldKind
import Scaffold.Template.Standard.Controller
import Scaffold.Template.Standard.Fields
import Scaffold.Template.Standard.Model
import Scaffold.Template.Standard.Views

/-!
Libraries of templates by name. A file in the project's own template directory comes before a
built-in template of the same name; the directory may also hold templates that are not built in.
-/
namespace Scaffold.Template

open Files Schema

/-- The ending of template files. -/
def fileEnding : String :=
  ".stub"

/-- The name of the template for the input of a kind of field. -/
def inputName (kind : FieldKind) : String :=
  "fields/form-" ++ kind.name

/-- The body of the input of a kind of field. -/
def inputBody : FieldKind → Body
  | .text => Standard.textInput
  | .textarea => Standard.textareaInput
  | .number => Standard.numberInput
  | .boolean => Standard.booleanInput
  | .date => Standard.dateInput
  | .datetime => Standard.datetimeInput
  | .time => Standard.timeInput
  | .file => Standard.fileInput

/-- The bodies of the standard templates. -/
def standardBodies : List (String × Body) :=
  [("controller", Standard.controller), ("model", Standard.model),
   ("views/index", Standard.indexView), ("views/create", Standard.createView),
   ("views/edit", Standard.editView), ("views/form", Standard.formView),
   ("views/show", Standard.showView), ("layouts/app", Standard.layoutView),
   ("fields/head", Standard.headField), ("fields/cell", Standard.cellField),
   ("fields/view", Standard.viewField)] ++
  FieldKind.all.map fun kind => (inputName kind, inputBody kind)

/-- Templates that are built in, and the directory with the project's own ones. -/
structure Library where
  directory : Option Path
  builtIn : List (String × String)

namespace Library

/-- The standard templates. -/
def standard : List (String × String) :=
  standardBodies.map fun (name, body) => (name, body.written)

/-- The path of the file that would hold a template. -/
def path? (library : Library) (name : String) : Option Path :=
  library.directory.map (·.child (name ++ fileEnding))

/-- The path of the file that holds a template, if there is one. -/
def file? (library : Library) (w : Workspace) (name : String) : Option Path :=
  (library.path? name).filter (w.isFile ·)

/-- Whether there is a template of a name. -/
def has (library : Library) (w : Workspace) (name : String) : Bool :=
  (library.file? w name).isSome || (library.builtIn.lookup name).isSome

/-- What it is called for a template that its file cannot be read. -/
def unread (name : String) (path : Path) : Failure → Failure
  | .notText => .templateUnreadable name path
  | .file fault => if fault.isSystem then .templateRefused name path fault else .file fault
  | other => other

/-- The body of a template. -/
def get (library : Library) (name : String) : Action String := do
  match library.file? (← Action.workspace) name with
  | some path =>
    let body ← tryCatch (Emission.readText path) fun failure => throw (unread name path failure)
    Action.say .debug .templates ("Template '" ++ name ++ "' loaded from " ++ path.text)
    return body
  | none =>
    match library.builtIn.lookup name with
    | some body =>
      Action.say .debug .templates ("Template '" ++ name ++ "' resolved to the built-in stub")
      return body
    | none => throw (.templateMissing name (library.path? name))

/-- The names of the entries at or below a place, from there, that end like template files. Links
are not followed. -/
def namesBelow (w : Workspace) (place : Location) : List (List String) :=
  let inside := w.entries.filterMap fun (known, _) =>
    if place.isPrefixOf known && place.length < known.length then some (known.drop place.length)
    else none
  inside.filter fun names => (names.getLast?.getD "").endsWith fileEnding

/-- Whether one way to an entry comes before another or is the same, name by name. -/
def comesFirst : List String → List String → Bool
  | [], _ => true
  | _ :: _, [] => false
  | a :: as, b :: bs => if a == b then comesFirst as bs else a ≤ b

/-- The template name that a file name stands for: the name without its ending. -/
def nameOf (names : List String) : String :=
  let last := String.ofList (Path.splitEnding (names.getLast?.getD "").toList).1
  Text.join "/" (names.dropLast ++ [last])

/-- The template names of the files in the directory, in order. -/
def ownNames (library : Library) (w : Workspace) : List String :=
  match library.directory with
  | none => []
  | some directory =>
    match w.find? .follow directory with
    | .ok (place, .directory) =>
      ((namesBelow w place).mergeSort comesFirst).map nameOf
    | _ => []

/-- All template names: the built-in ones in order and then the others of the directory. -/
def names (library : Library) (w : Workspace) : List String :=
  let builtIn := (library.builtIn.map (·.1)).mergeSort fun a b => a ≤ b
  (builtIn ++ library.ownNames w).eraseDups

end Library

end Scaffold.Template
