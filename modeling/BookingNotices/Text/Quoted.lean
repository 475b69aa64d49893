import BookingNotices.Text.Unprintable

/-!
# Quoted texts in messages

* `quote` : a text between double quotes, with the quote, the backslash and every character that
  does not show escaped.
-/

namespace BookingNotices.Text

/-- The digits of a number in base sixteen, lower case. -/
def hex (n : Nat) : String := String.ofList (Nat.toDigits 16 n)

/-- One character of a quoted text. -/
def quoteChar (c : Char) : String :=
  if c = '"' then "\\\""
  else if c = '\\' then "\\\\"
  else if c = '\t' then "\\t"
  else if c = '\n' then "\\n"
  else if c = '\r' then "\\r"
  else if c.toNat = 0 then "\\0"
  else if isUnprintable c then "\\u\x7b" ++ hex c.toNat ++ "\x7d"
  else c.toString

/-- A text between double quotes, such that each character of it can be told from the message. -/
def quote (s : String) : String := "\"" ++ String.join (s.toList.map quoteChar) ++ "\""

/-- A text between two grave accents, as messages name a field or a value. -/
def ticked (s : String) : String := "\x60" ++ s ++ "\x60"

end BookingNotices.Text
