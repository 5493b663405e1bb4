import Sluice.Text.Quoted

set_option autoImplicit false

/-! The outcome that a remote service reports instead of an answer. -/

namespace Sluice

inductive StatusCode where
  | ok
  | cancelled
  | unknown
  | invalidArgument
  | deadlineExceeded
  | notFound
  | alreadyExists
  | permissionDenied
  | resourceExhausted
  | failedPrecondition
  | aborted
  | outOfRange
  | unimplemented
  | internal
  | unavailable
  | dataLoss
  | unauthenticated
deriving DecidableEq

namespace StatusCode

def all : List StatusCode :=
  [.ok, .cancelled, .unknown, .invalidArgument, .deadlineExceeded, .notFound, .alreadyExists,
    .permissionDenied, .resourceExhausted, .failedPrecondition, .aborted, .outOfRange,
    .unimplemented, .internal, .unavailable, .dataLoss, .unauthenticated]

/-- A number without a code of its own is `unknown`. -/
def ofNumber (number : Nat) : StatusCode :=
  all[number]?.getD .unknown

def name : StatusCode → String
  | .ok => "Ok"
  | .cancelled => "Cancelled"
  | .unknown => "Unknown"
  | .invalidArgument => "InvalidArgument"
  | .deadlineExceeded => "DeadlineExceeded"
  | .notFound => "NotFound"
  | .alreadyExists => "AlreadyExists"
  | .permissionDenied => "PermissionDenied"
  | .resourceExhausted => "ResourceExhausted"
  | .failedPrecondition => "FailedPrecondition"
  | .aborted => "Aborted"
  | .outOfRange => "OutOfRange"
  | .unimplemented => "Unimplemented"
  | .internal => "Internal"
  | .unavailable => "Unavailable"
  | .dataLoss => "DataLoss"
  | .unauthenticated => "Unauthenticated"

end StatusCode

structure Status where
  code : StatusCode
  message : String
deriving DecidableEq

namespace Status

def text (status : Status) : String :=
  "status: " ++ status.code.name ++ ", message: " ++ Text.quoted status.message ++
    ", details: [], metadata: MetadataMap \x7b headers: \x7b\x7d \x7d"

def isUnavailable (status : Status) : Bool :=
  status.code = .unavailable

end Sluice.Status
