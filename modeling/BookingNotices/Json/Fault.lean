import BookingNotices.Json.Value
import BookingNotices.Text.Quoted

/-!
# What can be wrong with a document

* `Json.Found`   : what a document has where something else was expected;
* `Json.Breach`  : a breach of the grammar of texts;
* `Json.Problem` : all the reasons for which a document is not of the shape asked for;
* `Json.Fault`   : a problem, and where in a text it was met (a value has no places);
* `Fault.message` : the wording of all of them.
-/

namespace BookingNotices.Json

open Numeric Text

/-- What stands in a document. -/
inductive Found where
  | null
  | bool (b : Bool)
  | integer (n : Int)
  | float (x : Double)
  | text (s : String)
  | sequence
  | map

/-- What a value is, as far as messages tell. -/
def found : Json → Found
  | .null => .null
  | .bool b => .bool b
  | .integer n => .integer n
  | .float x => .float x
  | .text s => .text s
  | .array _ => .sequence
  | .object _ => .map

def Found.describe : Found → String
  | .null => "null"
  | .bool b => "boolean " ++ ticked (if b then "true" else "false")
  | .integer n => "integer " ++ ticked (toString n)
  | .float x => "floating point " ++ ticked x.text
  | .text s => "string " ++ quote s
  | .sequence => "sequence"
  | .map => "map"

/-- A breach of the grammar of JSON texts. -/
inductive Breach where
  | endInValue
  | endInObject
  | endInList
  | endInString
  | expectedValue
  | expectedIdent
  | expectedColon
  | expectedCommaOrBrace
  | expectedCommaOrBracket
  | trailingComma
  | trailingCharacters
  | keyNotText
  | badNumber
  | numberOutOfRange
  | badEscape
  | controlCharacter
  | loneSurrogate
  | unfinishedEscape
  | tooDeep
  deriving DecidableEq, Repr

def Breach.message : Breach → String
  | .endInValue => "EOF while parsing a value"
  | .endInObject => "EOF while parsing an object"
  | .endInList => "EOF while parsing a list"
  | .endInString => "EOF while parsing a string"
  | .expectedValue => "expected value"
  | .expectedIdent => "expected ident"
  | .expectedColon => "expected " ++ ticked ":"
  | .expectedCommaOrBrace => "expected " ++ ticked "," ++ " or " ++ ticked "\x7d"
  | .expectedCommaOrBracket => "expected " ++ ticked "," ++ " or " ++ ticked "]"
  | .trailingComma => "trailing comma"
  | .trailingCharacters => "trailing characters"
  | .keyNotText => "key must be a string"
  | .badNumber => "invalid number"
  | .numberOutOfRange => "number out of range"
  | .badEscape => "invalid escape"
  | .controlCharacter => "control character (\\u0000-\\u001F) found while parsing a string"
  | .loneSurrogate => "lone leading surrogate in hex escape"
  | .unfinishedEscape => "unexpected end of hex escape"
  | .tooDeep => "recursion limit exceeded"

/-- Why a document is not of the shape asked for. -/
inductive Problem where
  /-- something of another type stands there -/
  | wrongType (found : Found) (expected : String)
  /-- an integer that does not fit the width asked for -/
  | outOfRange (n : Int) (expected : String)
  /-- a variant in the form of an object that has not exactly one field -/
  | notSingleKey
  | missingField (name : String)
  | repeatedField (name : String)
  | unknownVariant (name : String) (allowed : List String)
  /-- an array with too few or too many items -/
  | wrongLength (count : Nat) (expected : String)
  /-- a text or a number of the right type that means nothing -/
  | meaningless (message : String)
  | breach (b : Breach)

/-- The names of an enumeration in a message. -/
private def oneOf : List String → String
  | [] => "there are no variants"
  | [a] => "expected " ++ ticked a
  | [a, b] => "expected " ++ ticked a ++ " or " ++ ticked b
  | names => "expected one of " ++ ", ".intercalate (names.map ticked)

def Problem.message : Problem → String
  | .wrongType found expected => "invalid type: " ++ found.describe ++ ", expected " ++ expected
  | .outOfRange n expected =>
    "invalid value: integer " ++ ticked (toString n) ++ ", expected " ++ expected
  | .notSingleKey => "invalid value: map, expected map with a single key"
  | .missingField name => "missing field " ++ ticked name
  | .repeatedField name => "duplicate field " ++ ticked name
  | .unknownVariant name allowed => "unknown variant " ++ ticked name ++ ", " ++ oneOf allowed
  | .wrongLength count expected =>
    "invalid length " ++ toString count ++ ", expected " ++ expected
  | .meaningless message => message
  | .breach b => b.message

/-- A place in a text: the line, and the bytes of that line read so far. -/
structure Place where
  line : Nat
  column : Nat
  deriving DecidableEq, Repr

/-- A problem, and the place in a text at which it was met. -/
structure Fault where
  problem : Problem
  place : Option Place := none

def Fault.message (f : Fault) : String :=
  match f.place with
  | none => f.problem.message
  | some p =>
    f.problem.message ++ " at line " ++ toString p.line ++ " column " ++ toString p.column

/-- A fault met at a place keeps it; one without a place gets this one. -/
def Fault.locate (place : Place) (f : Fault) : Fault :=
  match f.place with
  | some _ => f
  | none => { f with place := some place }

end BookingNotices.Json
