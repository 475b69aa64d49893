import BookingNotices.Notice.Error
import BookingNotices.Proofs.Identity

/-!
# Errors that cross a port

* `Notice.Error.returned`     : what an error is once it was reported as a failure and read again
  (`ofFailure_toFailure`);
* `Notice.Error.Alike`        : errors of one kind, about the same booking or notice;
* `crossing_keeps_meaning_iff` : all errors keep their meaning but that about a booking's status.

A failure with the code of an unsupported status is read as one of the infrastructure, which may be
tried again.
-/

namespace BookingNotices.Notice.Error

/-- What an error is once it was reported as a failure and read again. Its message goes into the
next one. -/
def returned (e : Error) : Error :=
  match e with
  | .alreadyExists _ | .notFound _ => e
  | .recordNotFound _ => .recordNotFound e.message
  | .unavailable _ => .unavailable e.message
  | .invalid _ => .invalid e.message
  | .unsupportedStatus _ | .infrastructure _ => .infrastructure e.toFailure.describe

/-- The booking of the failure is in its details. -/
theorem ofFailure_alreadyExists (booking : BookingId) :
    ofFailure (alreadyExists booking).toFailure = .alreadyExists booking := by
  have hcode : (alreadyExists booking).toFailure.code = .noticeExists := rfl
  have hdetail : (alreadyExists booking).toFailure.details.find? bookingKey =
      some booking.toText := if_pos rfl
  unfold ofFailure
  rw [hcode, hdetail]
  dsimp only
  rw [Option.bind_some, BookingId.read_toText]
  rfl

/-- The notice of the failure is in its details. -/
theorem ofFailure_notFound (id : NoticeId) : ofFailure (notFound id).toFailure = .notFound id := by
  have hcode : (notFound id).toFailure.code = .noticeNotFound := rfl
  have hdetail : (notFound id).toFailure.details.find? noticeKey = some id.toText := if_pos rfl
  unfold ofFailure
  rw [hcode, hdetail]
  dsimp only
  rw [Option.bind_some, NoticeId.read_toText]
  rfl

theorem ofFailure_toFailure (e : Error) : ofFailure e.toFailure = e.returned := by
  cases e with
  | alreadyExists booking => exact ofFailure_alreadyExists booking
  | notFound id => exact ofFailure_notFound id
  | recordNotFound m => rfl
  | unavailable m => rfl
  | unsupportedStatus status => rfl
  | invalid m => rfl
  | infrastructure m => rfl

/-- Errors of one kind, about the same booking or notice if they are about one. -/
inductive Alike : Error → Error → Prop where
  | alreadyExists (booking : BookingId) : Alike (.alreadyExists booking) (.alreadyExists booking)
  | notFound (id : NoticeId) : Alike (.notFound id) (.notFound id)
  | recordNotFound (m m' : String) : Alike (.recordNotFound m) (.recordNotFound m')
  | unavailable (m m' : String) : Alike (.unavailable m) (.unavailable m')
  | unsupportedStatus (s s' : Booking.Status) : Alike (.unsupportedStatus s) (.unsupportedStatus s')
  | invalid (m m' : String) : Alike (.invalid m) (.invalid m')
  | infrastructure (m m' : String) : Alike (.infrastructure m) (.infrastructure m')

/-- Errors of one kind are reported under one code. -/
theorem Alike.code {e e' : Error} (h : Alike e e') : e'.code = e.code := by cases h <;> rfl

/-- Errors of one kind are tried again alike. -/
theorem Alike.isRetryable {e e' : Error} (h : Alike e e') : e'.isRetryable = e.isRetryable := by
  cases h <;> rfl

/-- An error that comes back is one of its own kind, unless it is about a status. -/
theorem alike_returned {e : Error} (h : ∀ status, e ≠ .unsupportedStatus status) :
    Alike e e.returned := by
  cases e with
  | alreadyExists booking => exact .alreadyExists booking
  | notFound id => exact .notFound id
  | recordNotFound m => exact .recordNotFound ..
  | unavailable m => exact .unavailable ..
  | unsupportedStatus status => exact absurd rfl (h status)
  | invalid m => exact .invalid ..
  | infrastructure m => exact .infrastructure ..

/-- An error that crosses a port keeps its kind, the booking or notice it is about, its code and
whether it may be tried again, exactly if it is not about a booking's status. -/
theorem crossing_keeps_meaning_iff (e : Error) :
    (Alike e (ofFailure e.toFailure) ∧ (ofFailure e.toFailure).code = e.code ∧
      (ofFailure e.toFailure).isRetryable = e.isRetryable) ↔
    ∀ status, e ≠ .unsupportedStatus status := by
  rw [ofFailure_toFailure]
  constructor
  · rintro ⟨halike, -⟩ status rfl
    cases halike
  · intro h
    have halike := alike_returned h
    exact ⟨halike, halike.code, halike.isRetryable⟩

/-- An error about the status of a booking must not be tried again, but it comes back as one of
another kind and code that may. -/
theorem unsupported_status_comes_back_retryable :
    (unsupportedStatus .pending).code = .unsupportedBookingStatus ∧
    (unsupportedStatus .pending).isRetryable = false ∧
    ofFailure (unsupportedStatus .pending).toFailure =
      .infrastructure "[UNSUPPORTED_BOOKING_STATUS] Unsupported booking status: pending" ∧
    ¬ Alike (unsupportedStatus .pending) (ofFailure (unsupportedStatus .pending).toFailure) ∧
    (ofFailure (unsupportedStatus .pending).toFailure).code = .internalError ∧
    (ofFailure (unsupportedStatus .pending).toFailure).isRetryable = true := by
  refine ⟨rfl, rfl, ?_, nofun, rfl, rfl⟩
  rw [ofFailure_toFailure]
  decide

end BookingNotices.Notice.Error
