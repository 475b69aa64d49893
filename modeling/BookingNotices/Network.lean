/-!
# Connections to other machines

* `Connection`          : what became of an attempt to connect;
* `Connection.problem?` : why there is none, in the words of the system.
-/

namespace BookingNotices

/-- What became of an attempt to connect. -/
inductive Connection where
  | accepted
  | refused
  | unreachable
  deriving DecidableEq, Repr

/-- Why there is no connection, in the words of the system. -/
def Connection.problem? : Connection → Option String
  | .accepted => none
  | .refused => some "Connection refused (os error 111)"
  | .unreachable => some "Network is unreachable (os error 101)"

end BookingNotices
