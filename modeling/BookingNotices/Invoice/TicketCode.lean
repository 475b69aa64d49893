import BookingNotices.Numeric.Total

/-!
# The size of a ticket's code

A QR code holds runs of bytes, each in a mode of its own, in which digits, capitals and pairs of
bytes take less room than other bytes.

* `TicketCode.Segment`  : a run of bytes in a mode, and how many bits it takes (`Segment.bits`);
* `TicketCode.segments` : the maximal runs of a text;
* `TicketCode.joined`   : neighbours are put together, from left to right, where that takes no more
  room (`bits_joined_le`);
* `TicketCode.holds`    : whether a code of one of three sizes has room for a text.
-/

namespace BookingNotices.Invoice.TicketCode

open Numeric

/-- How the bytes of a run are written. -/
inductive Mode where
  | numeric
  | alphanumeric
  | byte
  /-- two bytes at a time -/
  | pairs
  deriving DecidableEq, Repr

/-- The mode in which runs of two modes can be written together. -/
def Mode.join : Mode → Mode → Mode
  | .numeric, m => if m = .pairs then .byte else m
  | m, .numeric => if m = .pairs then .byte else m
  | .alphanumeric, .alphanumeric => .alphanumeric
  | .pairs, .pairs => .pairs
  | _, _ => .byte

/-- The bits that a size of code spends on the length of a run in each mode, and the bits that it
has for all runs. -/
structure Size where
  numeric : Nat
  alphanumeric : Nat
  byte : Nat
  pairs : Nat
  capacity : Nat
  deriving DecidableEq, Repr

/-- The largest codes of medium error correction for each way of writing lengths. -/
def sizes : List Size :=
  [⟨10, 9, 8, 8, 1456⟩, ⟨12, 11, 16, 10, 8496⟩, ⟨14, 13, 16, 12, 18672⟩]

/-- A run of bytes in a mode. -/
structure Segment where
  mode : Mode
  length : Nat
  deriving DecidableEq, Repr

/-- The bits that a run takes: its mode, its length, and its bytes. -/
def Segment.bits (size : Size) (s : Segment) : Nat :=
  4 + match s.mode with
    | .numeric => size.numeric + (s.length * 10 + 2) / 3
    | .alphanumeric => size.alphanumeric + (s.length * 11 + 1) / 2
    | .byte => size.byte + s.length * 8
    | .pairs => size.pairs + s.length / 2 * 13

/-! ## Runs -/

/-- What a byte can be part of. -/
inductive Class where
  | symbol
  | digit
  | letter
  /-- the first byte of a pair -/
  | first
  /-- the first byte of a pair, but not the second one behind the greatest first byte -/
  | highFirst
  /-- the greatest first byte of a pair -/
  | lastFirst
  /-- the second byte of a pair -/
  | second
  /-- the second byte of a pair, but not behind the greatest first byte -/
  | highSecond
  | other
  deriving DecidableEq, Repr

def Class.of (byte : UInt8) : Class :=
  let n := byte.toNat
  let within (low high : Nat) : Bool := low ≤ n && n ≤ high
  if [0x20, 0x24, 0x25, 0x2A, 0x2B, 0x2D, 0x2E, 0x2F, 0x3A].contains n then .symbol
  else if within 0x30 0x39 then .digit
  else if within 0x41 0x5A then .letter
  else if within 0x81 0x9F then .first
  else if within 0xE0 0xEA then .highFirst
  else if n = 0xEB then .lastFirst
  else if n = 0x40 || within 0x5B 0x7E || n = 0x80 || within 0xA0 0xBF then .second
  else if within 0xC0 0xDF || within 0xEC 0xFC then .highSecond
  else .other

/-- A run begun. -/
inductive Run where
  | numeric
  | alphanumeric
  | byte
  | pairs
  /-- pairs, and the first byte of another one, which may be the greatest -/
  | half (greatest : Bool)
  deriving DecidableEq, Repr

/-- The run that a byte begins. -/
def Run.start : Class → Run
  | .digit => .numeric
  | .symbol | .letter => .alphanumeric
  | .first | .highFirst => .half false
  | .lastFirst => .half true
  | .second | .highSecond | .other => .byte

/-- The run that goes on with a byte, if it can. -/
def Run.next : Run → Class → Option Run
  | .numeric, .digit => some .numeric
  | .alphanumeric, .symbol => some .alphanumeric
  | .alphanumeric, .letter => some .alphanumeric
  | .byte, .second => some .byte
  | .byte, .highSecond => some .byte
  | .byte, .other => some .byte
  | .pairs, .first => some (.half false)
  | .pairs, .highFirst => some (.half false)
  | .pairs, .lastFirst => some (.half true)
  | .half _, .letter => some .pairs
  | .half _, .first => some .pairs
  | .half _, .second => some .pairs
  | .half false, .highFirst => some .pairs
  | .half false, .lastFirst => some .pairs
  | .half false, .highSecond => some .pairs
  | _, _ => none

/-- The segments of a run of some length; half a pair is a byte of its own. -/
def Run.close (length : Nat) : Run → List Segment
  | .numeric => [⟨.numeric, length⟩]
  | .alphanumeric => [⟨.alphanumeric, length⟩]
  | .byte => [⟨.byte, length⟩]
  | .pairs => [⟨.pairs, length⟩]
  | .half _ => if length ≤ 1 then [⟨.byte, length⟩] else [⟨.pairs, length - 1⟩, ⟨.byte, 1⟩]

/-- The segments of bytes that stand behind a run begun, that run included. -/
def segmentsFrom (run : Run) (length : Nat) : List Class → List Segment
  | [] => run.close length
  | c :: cs =>
    match run.next c with
    | some run => segmentsFrom run (length + 1) cs
    | none => run.close length ++ segmentsFrom (Run.start c) 1 cs

/-- The maximal runs of a text. -/
def segments (s : String) : List Segment :=
  match s.toUTF8.toList.map Class.of with
  | [] => []
  | c :: cs => segmentsFrom (Run.start c) 1 cs

/-! ## Room -/

/-- Puts a segment together with the ones behind it while that takes no more room, and these with
one another. -/
def joinedFrom (size : Size) (s : Segment) : List Segment → List Segment
  | [] => [s]
  | t :: rest =>
    let both : Segment := ⟨s.mode.join t.mode, s.length + t.length⟩
    if both.bits size ≤ s.bits size + t.bits size then joinedFrom size both rest
    else s :: joinedFrom size t rest

/-- Puts neighbours together where that takes no more room. -/
def joined (size : Size) : List Segment → List Segment
  | [] => []
  | s :: rest => joinedFrom size s rest

/-- The bits that segments take. -/
def bits (size : Size) (segments : List Segment) : Nat := total (segments.map (Segment.bits size))

/-- Whether a code of one of the sizes has room for a text. -/
def holds (s : String) : Bool :=
  let segments := segments s
  sizes.any fun size => bits size (joined size segments) ≤ size.capacity

theorem bits_joinedFrom_le (size : Size) (s : Segment) (rest : List Segment) :
    bits size (joinedFrom size s rest) ≤ s.bits size + bits size rest := by
  induction rest generalizing s with
  | nil => simp [joinedFrom, bits]
  | cons t rest ih =>
    have key : bits size (t :: rest) = t.bits size + bits size rest := by simp [bits]
    simp only [joinedFrom]
    split
    · next h => have := ih ⟨s.mode.join t.mode, s.length + t.length⟩; omega
    · have h : bits size (s :: joinedFrom size t rest) =
          s.bits size + bits size (joinedFrom size t rest) := by simp [bits]
      have := ih t
      omega

theorem bits_joined_le (size : Size) (segments : List Segment) :
    bits size (joined size segments) ≤ bits size segments := by
  cases segments with
  | nil => simp [joined]
  | cons s rest =>
    have key : bits size (s :: rest) = s.bits size + bits size rest := by simp [bits]
    simpa [joined, key] using bits_joinedFrom_le size s rest

end BookingNotices.Invoice.TicketCode
