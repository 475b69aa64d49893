import BookingNotices.Bytes
import BookingNotices.Text.Quoted

/-!
# Content types

* `ContentType.Problem`  : what is wrong with a content type, and its wording;
* `ContentType.problem?` : the first problem of a content type, if there is one.

A content type is two names with a slash between them, and perhaps parameters behind semicolons:
`name=value`, or `name="value"` for values of other characters.
-/

namespace BookingNotices.Mail.ContentType

/-- What is wrong with a content type. -/
inductive Problem where
  | noSlash
  | noEquals
  | noQuote
  /-- a byte that cannot stand where it stands -/
  | badToken (byte : UInt8) (position : Nat)
  deriving DecidableEq, Repr

def Problem.message : Problem → String
  | .noSlash => "a slash (/) was missing between the type and subtype"
  | .noEquals => "an equals sign (=) was missing between a parameter and its value"
  | .noQuote => "a quote (\") was missing from a parameter value"
  | .badToken byte position =>
    "an invalid token was encountered, " ++ (Text.hex byte.toNat).toUpper ++ " at position " ++
      toString position

/-- Where the reading of a content type is. -/
inductive State where
  /-- in the first name -/
  | kind (started : Bool)
  /-- in the second name -/
  | subtype (started : Bool)
  /-- in the name of a parameter -/
  | name (started : Bool)
  /-- in the value of a parameter -/
  | value (started : Bool)
  /-- in a value between quotes -/
  | quoted (started : Bool)
  /-- behind the closing quote of a value -/
  | closed
  deriving DecidableEq, Repr

/-- The bytes of names and values. -/
def isToken (byte : UInt8) : Bool :=
  let c := Char.ofNat byte.toNat
  c.isAlphanum || "!#$&-^_.+%'*\x60|~".toList.contains c

/-- The state behind a byte, if it can stand there. -/
def State.next? (byte : UInt8) : State → Option State
  | .kind started =>
    if isToken byte then some (.kind true)
    else if byte = 0x2F && started then some (.subtype false)
    else none
  | .subtype started =>
    if isToken byte then some (.subtype true)
    else if byte = 0x3B && started then some (.name false)
    else none
  | .name started =>
    if isToken byte then some (.name true)
    else if byte = 0x20 && !started then some (.name false)
    else if byte = 0x3D && started then some (.value false)
    else none
  | .value started =>
    if isToken byte then some (.value true)
    else if byte = 0x22 && !started then some (.quoted false)
    else if byte = 0x3B && started then some (.name false)
    else none
  | .quoted started =>
    if byte = 0x22 && started then some .closed
    else if 31 < byte && byte ≠ 127 then some (.quoted true)
    else none
  | .closed =>
    if byte = 0x3B then some (.name false)
    else if byte = 0x20 then some .closed
    else none

/-- What is wrong with a content type that ends in a state. -/
def State.endProblem? : State → Option Problem
  | .kind _ => some .noSlash
  | .name true => some .noEquals
  | .quoted _ => some .noQuote
  | _ => none

/-- The first problem of the bytes from a position on. -/
def problemFrom (state : State) (position : Nat) : List UInt8 → Option Problem
  | [] => state.endProblem?
  | byte :: rest =>
    match state.next? byte with
    | some state => problemFrom state (position + 1) rest
    | none => some (.badToken byte position)

/-- The first problem of a content type. -/
def problem? (s : String) : Option Problem := problemFrom (.kind false) 0 s.toUTF8.toList

end BookingNotices.Mail.ContentType
