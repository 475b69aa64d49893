/-!
# Settings that do not fit

* `Settings.Problem` : what a setting must not be, and its wording;
* `Settings.check`   : the first problem of a list that is really there.
-/

namespace BookingNotices.Settings

/-- What is wrong with a setting. -/
inductive Problem where
  | missing (name : String)
  | port
  | timeout (purpose : String)
  | databaseUrl
  | streamUrl
  /-- more connections are to be kept than there may be -/
  | poolBounds
  | poolTooLarge
  | batch
  | deliveryLimit
  | sender
  | recordsUrl (service : String)
  | blobLimit
  | sweepInterval
  deriving DecidableEq, Repr

def Problem.message : Problem → String
  | .missing name => "Required configuration missing: " ++ name
  | .port => "Invalid port number"
  | .timeout purpose => "Invalid timeout for " ++ purpose
  | .databaseUrl => "Invalid database URL format"
  | .streamUrl => "Invalid Redis URL format"
  | .poolBounds => "Pool min_connections exceeds max_connections"
  | .poolTooLarge => "Pool size exceeds maximum allowed (100)"
  | .batch => "Stream batch size must be between 1 and 1000"
  | .deliveryLimit => "Max deliveries must be at least 1"
  | .sender => "Invalid from email address"
  | .recordsUrl service => "Invalid upstream URL for " ++ service
  | .blobLimit => "Blob size limit must be greater than zero"
  | .sweepInterval => "Sweep interval must be shorter than the staleness threshold"

/-- Reports the first problem that is there. -/
def check : List (Bool × Problem) → Except Problem Unit
  | [] => .ok ()
  | (there, p) :: rest => if there then .error p else check rest

theorem check_eq_ok_iff {problems : List (Bool × Problem)} :
    check problems = .ok () ↔ ∀ p ∈ problems, p.1 = false := by
  induction problems with
  | nil => simp [check]
  | cons p rest ih => cases h : p.1 <;> simp [check, h, ih]

/-- Whether a text starts with one of some schemes. -/
def hasScheme (schemes : List String) (url : String) : Bool :=
  schemes.any fun s => s.toList.isPrefixOf url.toList

end BookingNotices.Settings
