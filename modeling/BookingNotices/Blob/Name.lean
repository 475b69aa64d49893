import BookingNotices.Bytes
import BookingNotices.Failure

/-!
# Names of blobs

* `Blob.Error`     : what can go wrong with a blob; `Error.toFailure` is how it is reported;
* `Blob.checkName` : a name must stand for an object of its container and for nothing else.
-/

namespace BookingNotices.Blob

/-- What can go wrong with a blob. -/
inductive Error where
  | notFound (name : String)
  | badName (name : String)
  | tooLarge (size limit : Nat)
  /-- the medium failed; the text is its own -/
  | medium (reason : String)
  deriving DecidableEq, Repr

namespace Error

def message : Error → String
  | .notFound name => "Blob not found: " ++ name
  | .badName name => "Invalid blob name: " ++ name
  | .tooLarge size limit =>
    "Blob too large: " ++ toString size ++ " bytes (max: " ++ toString limit ++ " bytes)"
  | .medium reason => "Blob I/O error: " ++ reason

/-- The failure that an error is reported as. -/
def toFailure (e : Error) : Failure :=
  match e with
  | .badName _ => ⟨.validationFailed, e.message, []⟩
  | _ => ⟨.storageError, e.message, []⟩

end Error

/-- Whether a name stands for an object of its container: it is not empty, not a dot or two, and
holds no separator and no null character. -/
def isName (s : String) : Bool :=
  !s.isEmpty && s != "." && s != ".." &&
    s.toList.all fun c => c != '/' && c != '\\' && c.toNat != 0

/-- Refuses what is not a name. -/
def checkName (s : String) : Except Error Unit :=
  if isName s then .ok () else .error (.badName s)

end BookingNotices.Blob
