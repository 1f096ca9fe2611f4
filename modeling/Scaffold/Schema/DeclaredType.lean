import Scaffold.Schema.FieldKind
import Scaffold.Text.Blank
import Scaffold.Text.Case
import Scaffold.Text.Pieces
import Scaffold.Text.Word

/-!
Declared column types, as a database spells them. A type is looked up by its normal form: lower
case, without arguments in parentheses and without sign or fill modifiers, its words one space
apart.
-/
namespace Scaffold.Schema

open Text

/-- Puts a space in the place of every opening parenthesis and all that follows it up to the next
closing one. A parenthesis that is never closed stays. -/
def blankArguments (inside : Bool) : List Char → List Char
  | [] => []
  | c :: rest =>
    if inside then blankArguments (c != ')') rest
    else if c == '(' && rest.contains ')' then ' ' :: blankArguments true rest
    else c :: blankArguments false rest

/-- The words that say nothing about the kind of a column. -/
def modifiers : List (List Char) :=
  ["unsigned".toList, "zerofill".toList, "signed".toList]

/-- A word, given last letter first, or a space when it is a modifier. -/
def closeWord (word : List Char) : List Char :=
  if modifiers.contains word.reverse then [' '] else word.reverse

/-- Puts a space in the place of every modifier. `word` holds the letters read of the current
word, nearest first. -/
def blankModifiers (word : List Char) : List Char → List Char
  | [] => closeWord word
  | c :: rest =>
    if isWord c then blankModifiers (c :: word) rest
    else closeWord word ++ c :: blankModifiers [] rest

/-- The normal form of a declared type. -/
def normalChars (declared : List Char) : List Char :=
  let plain := blankModifiers [] (blankArguments false (lowerChars declared))
  stripBy isBlank (collapse isBlank ' ' plain)

/-- The normal form of a declared type. -/
def normalType (declared : String) : String :=
  String.ofList (normalChars declared.toList)

/-- The first word of a type in normal form. -/
def firstWord (normal : String) : String :=
  String.ofList (normal.toList.takeWhile (· != ' '))

/-- Declared types in normal form with the kind of field they get. -/
abbrev TypeMap := List (String × FieldKind)

private def all (kind : FieldKind) (types : List String) : TypeMap :=
  types.map fun type => (type, kind)

/-- The whole-number types. -/
def integerTypes : List String :=
  ["int", "integer", "tinyint", "smallint", "mediumint", "bigint", "serial", "smallserial",
   "bigserial", "year"]

/-- The types of numbers with a floating point. -/
def floatTypes : List String :=
  ["float", "double", "double precision", "real"]

/-- The kinds of the types that databases commonly declare. -/
def commonTypes : TypeMap :=
  all .number (integerTypes ++ ["decimal", "numeric"] ++ floatTypes ++ ["money"])
  ++ all .boolean ["bool", "boolean", "bit"]
  ++ all .date ["date"]
  ++ all .datetime ["datetime", "datetime2", "smalldatetime", "datetimeoffset", "timestamp",
      "timestamptz", "timestamp with time zone", "timestamp without time zone"]
  ++ all .time ["time", "timetz", "time with time zone", "time without time zone"]
  ++ all .text ["char", "nchar", "varchar", "nvarchar", "varchar2", "character",
      "character varying", "string", "uuid", "enum", "set", "inet", "cidr", "macaddr"]
  ++ all .textarea ["text", "tinytext", "mediumtext", "longtext", "ntext", "clob", "nclob", "json",
      "jsonb", "xml"]
  ++ all .file ["blob", "tinyblob", "mediumblob", "longblob", "binary", "varbinary", "bytea",
      "image"]

/-- The kind of field for a declared type: by its normal form, else by the first word of that,
else a text field. -/
def fieldKind (types : TypeMap) (declared : String) : FieldKind :=
  let normal := normalType declared
  match types.lookup normal with
  | some kind => kind
  | none => (types.lookup (firstWord normal)).getD .text

end Scaffold.Schema
