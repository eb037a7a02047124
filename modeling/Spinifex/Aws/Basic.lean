/-!
# Accounts and error codes of the API

What every service of the API shares: which texts are account identifiers, the
system's own account, and the error codes a request may be answered with.
-/

namespace Spinifex.Aws

/-- `GlobalAccountID`: the system account. -/
def globalAccountID : String := "000000000000"

/-- `IsAccountID`: twelve digits. -/
def isAccountID (text : String) : Bool :=
  text.utf8ByteSize = 12 && text.toList.all fun rune => '0' ≤ rune && rune ≤ '9'

/-- The error codes a volume request may be answered with. -/
inductive ErrorCode where
  | attachmentLimitExceeded
  | incorrectInstanceState
  | incorrectState
  | internalError
  | invalidInstanceIDNotFound
  | invalidParameterValue
  | invalidVolumeIDMalformed
  | invalidVolumeNotFound
  | invalidVolumeZoneMismatch
  | missingParameter
  | operationNotPermitted
  | serverInternal
  | unsupportedOperation
  | volumeInUse
deriving DecidableEq, Repr

/-- `IsNotFound`: the codes that end in `.NotFound`. -/
def ErrorCode.isNotFound : ErrorCode → Bool
  | .invalidInstanceIDNotFound => true
  | .invalidVolumeNotFound => true
  | _ => false

end Spinifex.Aws
