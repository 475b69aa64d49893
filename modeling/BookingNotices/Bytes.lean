/-!
# Bytes

* `Bytes`       : the contents of a blob, of an attachment or of a field of a stream;
* `Bytes.text?` : the text that they spell, if they are well-formed UTF-8.
-/

namespace BookingNotices

/-- A sequence of bytes. -/
abbrev Bytes := ByteArray

/-- Equality of bytes is decided one byte after the other. -/
instance : DecidableEq Bytes := ByteArray.instDecidableEq

/-- The text that bytes spell, if they are well-formed UTF-8. -/
def Bytes.text? (b : Bytes) : Option String := String.fromUTF8? b

end BookingNotices
