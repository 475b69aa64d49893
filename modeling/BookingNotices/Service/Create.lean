import BookingNotices.Service.Transaction

/-!
# Creating a notice

* `World.create` : creates the notice of a booking and announces it, unless the booking has one.
-/

namespace BookingNotices

/-- Creates the notice of a booking and announces it. -/
def Transaction.create (booking : BookingId) (cause : Option String) : Transaction Notice := do
  if 0 < (← count booking) then throw (.alreadyExists booking)
  let n ← insert (Notice.pending booking (← now))
  announce n.id cause
  return n

/-- Creates the notice of a booking, with the event that caused it. -/
def World.create (w : World) (booking : BookingId) (cause : Option String) :
    Except Notice.Error Notice × World :=
  (Transaction.create booking cause).run (fun _ => true) w

end BookingNotices
