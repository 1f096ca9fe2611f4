import Scaffold.Data.Value
import Scaffold.Text.Blank
import Scaffold.Validation.Issue

/-!
Readers of single values. Text is never made from other values; truth values have a few spellings.
-/
namespace Scaffold.Validation

open Data

/-- Text, as it is. -/
def readText : Value → Except Defect String
  | .text s => .ok s
  | _ => .error .notText

/-- Text of at least one character. -/
def readFilledText (value : Value) : Except Defect String := do
  let s ← readText value
  if s.isEmpty then .error .emptyText else .ok s

/-- Text or null. -/
def readOptionalText : Value → Except Defect (Option String)
  | .null => .ok none
  | value => some <$> readText value

/-- Stripped text, or null. Blank text counts as null. -/
def readOptionalName : Value → Except Defect (Option String)
  | .null => .ok none
  | .text s => .ok (let name := Text.strip s; if name.isEmpty then none else some name)
  | _ => .error .notText

/-- Stripped text that is not blank. -/
def readTableName : Value → Except Defect String
  | .text s =>
    let name := Text.strip s
    if name.isEmpty then .error .blankTableName else .ok name
  | _ => .error .notText

/-- The words for true and false, in lower case. -/
def booleanWords : List (String × Bool) :=
  [("0", false), ("off", false), ("f", false), ("false", false), ("n", false), ("no", false),
   ("1", true), ("on", true), ("t", true), ("true", true), ("y", true), ("yes", true)]

/-- A whole number as a truth value: zero or one. Numbers beyond 64 bits are of the wrong sort. -/
def readWholeBoolean (i : Int) : Except Defect Bool :=
  if i == 0 then .ok false
  else if i == 1 then .ok true
  else if -9223372036854775808 ≤ i && i < 9223372036854775808 then .error .unclearBoolean
  else .error .notBoolean

/-- A truth value: true, false, zero, one or one of the words for them. -/
def readBoolean : Value → Except Defect Bool
  | .bool b => .ok b
  | .int i => readWholeBoolean i
  | .float x =>
    match x.toInt? with
    | some i => readWholeBoolean i
    | none => .error .notBoolean
  | .text s =>
    match booleanWords.lookup (String.ofList (s.toList.map Char.toLower)) with
    | some b => .ok b
    | none => .error .unclearBoolean
  | _ => .error .notBoolean

/-- The texts of a list, or the defects of the items that are not text. -/
def readTextItems (field : String) : Nat → List Value → List String × List Issue
  | _, [] => ([], [])
  | index, value :: rest =>
    let (texts, issues) := readTextItems field (index + 1) rest
    match readText value with
    | .ok s => (s :: texts, issues)
    | .error defect => (texts, ⟨some field, some index, defect⟩ :: issues)

/-- A list of texts. -/
def readTextList (field : String) : Value → Except (List Issue) (List String)
  | .list items =>
    let (texts, issues) := readTextItems field 0 items
    if issues.isEmpty then .ok texts else .error issues
  | _ => .error [⟨some field, none, .notList⟩]

/-- The issues with entries that no field is called. A key that is not text is one issue. -/
def unknownEntries (known : List String) (entries : Entries) : List Issue :=
  entries.filterMap fun
    | (.text key, _) => if known.contains key then none else some ⟨some key, none, .unknownField⟩
    | _ => some ⟨none, none, .unknownField⟩

/-- Reads a field: the value of its entry, or `absent` when it has none. -/
def readField (entries : Entries) (field : String) (absent : Except Defect α)
    (read : Value → Except Defect α) : Except (List Issue) α :=
  match (entries.get? field).elim absent read with
  | .ok a => .ok a
  | .error defect => .error [⟨some field, none, defect⟩]

/-- The issues of a reading, none when it succeeded. -/
def issuesOf : Except (List Issue) α → List Issue
  | .ok _ => []
  | .error issues => issues

end Scaffold.Validation
