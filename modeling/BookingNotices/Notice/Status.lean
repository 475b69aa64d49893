import BookingNotices.Failure

/-!
# The status of a notice

* `Notice.Status`       : how far the work on a notice has come;
* `Status.successors`   : the statuses that may follow one;
* `Status.advance`      : the step to a next status, or the rejection of it;
* `Status.text`, `Status.read` : the stored text (`read_text`).

Work goes from pending to processing, and from there to success or failure, which are final.
-/

namespace BookingNotices.Notice

/-- How far the work on a notice has come. -/
inductive Status where
  /-- waits for a worker -/
  | pending
  /-- a worker has claimed it -/
  | processing
  /-- the outcome is stored and its mail may be sent -/
  | success
  /-- there is nothing to tell about the booking -/
  | failed
  deriving DecidableEq, Repr, Inhabited

namespace Status

/-- All statuses. -/
def all : List Status := [.pending, .processing, .success, .failed]

/-- The stored text. -/
def text : Status → String
  | .pending => "pending"
  | .processing => "processing"
  | .success => "success"
  | .failed => "failed"

/-- The name that messages about a step use. -/
def label : Status → String
  | .pending => "Pending"
  | .processing => "Processing"
  | .success => "Success"
  | .failed => "Failed"

/-- Reads a stored text. -/
def read (s : String) : Except Rejection Status :=
  match all.find? fun status => status.text == s with
  | some status => .ok status
  | none => .error (.unknownVariant "notification status" s)

@[simp] theorem read_text (s : Status) : read s.text = .ok s := by cases s <;> rfl

/-- Reads a text that a database holds. -/
def readStored (s : String) : Except Failure Status :=
  (read s).mapError fun r =>
    ⟨.databaseError, "Invalid notification status in database: " ++ r.message, []⟩

/-- The statuses that may follow. -/
def successors : Status → List Status
  | .pending => [.processing]
  | .processing => [.success, .failed]
  | .success => []
  | .failed => []

/-- Whether a status may follow. -/
def mayBecome (s target : Status) : Bool := s.successors.contains target

/-- Whether nothing follows. -/
def isFinal (s : Status) : Bool := s.successors.isEmpty

/-- The step to a status that may follow. -/
def advance (s target : Status) : Except Rejection Status :=
  if s.mayBecome target then .ok target
  else .error (.badFormat "state_transition"
    ("Cannot transition from " ++ s.label ++ " to " ++ target.label))

end Status

end BookingNotices.Notice
