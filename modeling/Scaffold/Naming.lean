import Scaffold.Inflection.Language
import Scaffold.Request
import Scaffold.Text.Identifier

/-!
The names of one run. The class name comes from the request, or is the singular of the table name;
all spellings of it and of its plural follow from it, so that every artifact agrees on them.
-/
namespace Scaffold

open Inflection

structure Naming where
  className : String
  tableName : String
  routeName : String
  pluralClassName : String
  snakeName : String
  pluralSnakeName : String
  viewFolder : String
  title : String
  titlePlural : String
  deriving DecidableEq, Repr

namespace Naming

/-- The class name that a request asks for, or the singular of its table name. -/
def classNameOf (rules : RuleSet) (request : Request) : String :=
  match request.classNameOverride with
  | some name => Text.upperFirst name
  | none => Identifier.studly (rules.singularize request.tableName)

/-- The route that a request asks for, or its table name in lower case. -/
def routeNameOf (request : Request) : String :=
  request.routeOverride.getD (Text.lower request.tableName)

/-- The names that follow from a request under a rule set. -/
def resolve (rules : RuleSet) (request : Request) : Naming :=
  let className := classNameOf rules request
  let plural := rules.pluralize className
  { className
    tableName := request.tableName
    routeName := routeNameOf request
    pluralClassName := plural
    snakeName := Identifier.snake className
    pluralSnakeName := Identifier.snake plural
    viewFolder := Identifier.kebab className
    title := Identifier.title className
    titlePlural := Identifier.title plural }

end Naming

end Scaffold
