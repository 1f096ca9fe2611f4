import Scaffold.CommandLine.Flag
import Scaffold.Text.Display

/-!
What can be wrong with a command line, apart from what the values of its options mean.
-/
namespace Scaffold.CommandLine

inductive Misuse where
  /-- A word begins the names of several options. -/
  | ambiguous (word : String) (names : List String)
  | valueMissing (parameter : Parameter)
  | valueRefused (switch : Switch) (value : String)
  /-- Two options exclude each other. The first one named here came later. -/
  | conflict (switch earlier : Switch)
  | tableMissing
  | unrecognized (words : List String)
  deriving DecidableEq, Repr

/-- The wording of a misuse. -/
def Misuse.message : Misuse → String
  | .ambiguous word names =>
    "ambiguous option: " ++ word ++ " could match " ++ Text.join ", " names
  | .valueMissing parameter =>
    "argument " ++ (Flag.parameter parameter).label ++ ": expected one argument"
  | .valueRefused switch value =>
    "argument " ++ (Flag.switch switch).label ++ ": ignored explicit argument " ++
      Text.shown value
  | .conflict switch earlier =>
    "argument " ++ (Flag.switch switch).label ++ ": not allowed with argument " ++
      (Flag.switch earlier).label
  | .tableMissing => "the following arguments are required: TABLE"
  | .unrecognized words => "unrecognized arguments: " ++ Text.join " " words

end Scaffold.CommandLine
