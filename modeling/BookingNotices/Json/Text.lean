import BookingNotices.Json.Value

/-!
# The compact text of a JSON value

* `Json.escape` : a string as written between its quotes;
* `Json.compact` : the text of a value, with no blanks, the fields of an object in their order.
-/

namespace BookingNotices.Json

/-- The two hexadecimal digits of a control character. -/
def hexPair (n : Nat) : List Char := [Nat.digitChar (n / 16), Nat.digitChar (n % 16)]

/-- One character of a string: quotes, backslashes and control characters are escaped. -/
def escapeChar (c : Char) : List Char :=
  if c = '"' then ['\\', '"']
  else if c = '\\' then ['\\', '\\']
  else if c = '\n' then ['\\', 'n']
  else if c = '\r' then ['\\', 'r']
  else if c = '\t' then ['\\', 't']
  else if c.toNat = 0x08 then ['\\', 'b']
  else if c.toNat = 0x0C then ['\\', 'f']
  else if c.toNat < 0x20 then ['\\', 'u', '0', '0'] ++ hexPair c.toNat
  else [c]

/-- A string with its quotes. -/
def quoted (s : String) : List Char := '"' :: s.toList.flatMap escapeChar ++ ['"']

mutual

/-- The characters of a value. -/
def chars : Json → List Char
  | .null => "null".toList
  | .bool true => "true".toList
  | .bool false => "false".toList
  | .integer n => (toString n).toList
  | .float x => x.text.toList
  | .text s => quoted s
  | .array [] => ['[', ']']
  | .array (v :: vs) => '[' :: chars v ++ itemChars vs
  | .object [] => ['{', '}']
  | .object ((name, v) :: fs) => '{' :: quoted name ++ ':' :: chars v ++ fieldChars fs

/-- The items after the first one, and the closing bracket. -/
def itemChars : List Json → List Char
  | [] => [']']
  | v :: vs => ',' :: chars v ++ itemChars vs

/-- The fields after the first one, and the closing brace. -/
def fieldChars : List (String × Json) → List Char
  | [] => ['}']
  | (name, v) :: fs => ',' :: quoted name ++ ':' :: chars v ++ fieldChars fs

end

/-- The text of a value, without blanks. -/
def compact (v : Json) : String := String.ofList (chars v)

end BookingNotices.Json
