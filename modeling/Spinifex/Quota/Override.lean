import Spinifex.Quota.Counter

/-!
# Quota overrides of an account

An override record raises or lowers single limits of one account.  An admin
stores or clears it; sealing it, when the account is being terminated, is
meant to be final.  All three go through conditional writes, and all three
decide on reads that a lagging replica may have served.
-/

namespace Spinifex.Quota

open Aws (globalAccountID isAccountID)
open Concurrency Go State

/-- An error carrying an AWS error code. -/
def awsError (code message : String) : Failure :=
  ⟨[], message ++ ": " ++ code⟩

/-- An error that is only an AWS error code. -/
def codeError (code : String) : Failure :=
  ⟨[], code⟩

namespace Override

/-! ## Records -/

/-- The limits that can be overridden. -/
structure Limits where
  vcpus : Int64
  vpcs : Int64
  subnets : Int64
  eips : Int64
  volumesGiB : Int64
  volumes : Int64
  rdsInstances : Int64
  loadBalancers : Int64
deriving DecidableEq

/-- Overridden limits of one account; an absent one is inherited. -/
structure Overrides where
  vcpus : Option Int64
  vpcs : Option Int64
  subnets : Option Int64
  eips : Option Int64
  volumesGiB : Option Int64
  volumes : Option Int64
  rdsInstances : Option Int64
  loadBalancers : Option Int64
  updatedAt : String
  updatedBy : String
deriving DecidableEq

/-- `Overrides.Empty`: no limit is overridden. -/
def Overrides.empty (overrides : Overrides) : Bool :=
  overrides.vcpus.isNone && overrides.vpcs.isNone && overrides.subnets.isNone &&
    overrides.eips.isNone && overrides.volumesGiB.isNone && overrides.volumes.isNone &&
    overrides.rdsInstances.isNone && overrides.loadBalancers.isNone

/-- `Overrides.apply`: the limits with the overridden ones replaced. -/
def Overrides.apply (overrides : Overrides) (base : Limits) : Limits where
  vcpus := overrides.vcpus.getD base.vcpus
  vpcs := overrides.vpcs.getD base.vpcs
  subnets := overrides.subnets.getD base.subnets
  eips := overrides.eips.getD base.eips
  volumesGiB := overrides.volumesGiB.getD base.volumesGiB
  volumes := overrides.volumes.getD base.volumes
  rdsInstances := overrides.rdsInstances.getD base.rdsInstances
  loadBalancers := overrides.loadBalancers.getD base.loadBalancers

/-- `OverrideState`: the empty text, `sealed`, or anything else. -/
inductive OverrideState where
  | active
  | sealed
  | unknown (text : String)
deriving DecidableEq

/-- `overrideRecord`: the stored form. -/
structure OverrideRecord extends Overrides where
  state : OverrideState
deriving DecidableEq

def noOverrides : Overrides :=
  ⟨none, none, none, none, none, none, none, none, "", ""⟩

/-- The record an absent key stands for. -/
def zeroRecord : OverrideRecord :=
  ⟨noOverrides, .active⟩

/-- `sealedRecord`: the value a seal writes. -/
def sealedRecord : OverrideRecord :=
  ⟨noOverrides, .sealed⟩

/-! ## Errors -/

/-- `errOverridesSealed`. -/
def errOverridesSealed : Failure :=
  ⟨[.own .overridesSealed], "Blocked"⟩

/-- `errOverridesContended`. -/
def errOverridesContended : Failure :=
  ⟨[.own .overridesContended], "quota override: CAS retries exhausted"⟩

/-- The bound on a write's attempts. -/
def overrideMaxAttempts : Nat := 5

/-- `checkActive`: refuse a sealed or unknown record. -/
def checkActive (record : OverrideRecord) : Except Failure Unit :=
  match record.state with
  | .active => .ok ()
  | .sealed => .error errOverridesSealed
  | .unknown text =>
    .error ⟨[], "quota override: unknown state " ++ Failure.quoted text⟩

/-- `mapOverrideError`. -/
def mapOverrideError {Result : Type} :
    Except Failure Result → Except Failure Result
  | .ok result => .ok result
  | .error failure =>
    if failure.is (.own .overridesSealed) then
      .error (codeError "Blocked")
    else
      .error (codeError "InternalError")

/-! ## Programs -/

/-- The clock, the account's status, and the bucket of a seal. -/
inductive Question where
  | now
  | accountTerminating (account : String)
  | openBucket
deriving DecidableEq

/-- What they come back with. -/
@[reducible]
def Answer : Question → Type
  | .now => String
  | .accountTerminating _ => Except Failure Bool
  | .openBucket => Except Failure Unit

/-- A program on the bucket of overrides. -/
abbrev Session := State.Session OverrideRecord Answer

/-- `time.Now` in UTC, formatted. -/
def now : Session String :=
  ask Question.now

/-- `AccountTerminationChecker.AccountTerminating`. -/
def accountTerminating (account : String) : Session (Except Failure Bool) :=
  ask (Question.accountTerminating account)

/-- `sealBucket`: the bucket, opened if need be. -/
def sealBucket : Session (Except Failure Unit) :=
  ask Question.openBucket

/-- `recordFor`: an account's stored record. -/
def recordFor (account : String) : Session (Except Failure OverrideRecord) := do
  match ← KeyValue.get account with
  | .ok ⟨some record, _⟩ => return .ok record
  | .ok ⟨none, _⟩ =>
    return .error ⟨[], "decode quota override for " ++ account⟩
  | .error failure =>
    if failure.is .keyNotFound then
      return .ok zeroRecord
    else
      return .error (context ("read quota override for " ++ account) failure)

/-- `GetAccountQuota`: the overrides and the resolved limits. -/
def getAccountQuota (limits : Limits) (account : String) :
    Session (Except Failure (Overrides × Limits)) := do
  match ← recordFor account with
  | .error failure => return .error failure
  | .ok record =>
    match checkActive record with
    | .error failure => return mapOverrideError (.error failure)
    | .ok () =>
      return .ok (record.toOverrides, record.toOverrides.apply limits)

/-- The attempts of `clearAccountQuota` that are left. -/
def clearLoop (account : String) :
    Nat → Session (Except Failure Unit)
  | 0 => return mapOverrideError (.error errOverridesContended)
  | attempts + 1 => do
      match ← KeyValue.get account with
      | .error failure =>
        if failure.is .keyNotFound then
          return .ok ()
        else
          return mapOverrideError (.error (context "read quota override for clear" failure))
      | .ok ⟨none, _⟩ =>
        return mapOverrideError (.error ⟨[], "decode quota override for clear"⟩)
      | .ok ⟨some record, revision⟩ =>
        match checkActive record with
        | .error failure => return mapOverrideError (.error failure)
        | .ok () =>
          match ← KeyValue.delete account revision with
          | .ok _ => return .ok ()
          | .error failure =>
            if failure.is .keyNotFound then
              return .ok ()
            else if isRevisionConflict failure then
              clearLoop account attempts
            else
              return mapOverrideError (.error (context "clear quota override" failure))

/-- `clearAccountQuota`. -/
def clearAccountQuota (account : String) : Session (Except Failure Unit) :=
  clearLoop account overrideMaxAttempts

/-- The retries of a store. -/
def overrideConfig : CASConfig Sentinel where
  attempts := overrideMaxAttempts
  createIfAbsent := true
  notFound := none
  exhausted := some fun _ _ => errOverridesContended

/-- The mutation of a store: new overrides over an active record. -/
def storeMutation (overrides : Overrides) (record : OverrideRecord) :
    Except Failure (OverrideRecord × Bool) :=
  match checkActive record with
  | .error failure => .error failure
  | .ok () => .ok ({ record with toOverrides := overrides }, true)

/-- `PutAccountQuota`: store or clear an account's overrides. -/
def putAccountQuota (account : String) (overrides : Overrides) (updatedBy : String) :
    Session (Except Failure Unit) := do
  if overrides.empty then
    clearAccountQuota account
  else
    let updatedAt ← now
    let overrides := { overrides with updatedAt := updatedAt, updatedBy := updatedBy }
    match ← update account overrideConfig zeroRecord (storeMutation overrides) with
    | .error failure => return mapOverrideError (.error failure)
    | .ok _ => return .ok ()

def sealMaxAttempts : Nat := 5

/-- The revision a seal writes at; zero for an absent key. -/
def sealRevision (found : Except Failure (Version (Stored OverrideRecord))) : Except Failure Nat :=
  match found with
  | .ok version => .ok version.revision
  | .error failure =>
    if failure.is .keyNotFound then .ok 0 else .error (codeError "InternalError")

/-- The attempts of a seal that are left. -/
def sealLoop (account : String) :
    Nat → Session (Except Failure Nat)
  | 0 => return .error (codeError "InternalError")
  | attempts + 1 => do
      match sealRevision (← KeyValue.get account) with
      | .error failure => return .error failure
      | .ok rev =>
        match ←
          (if rev = 0 then
            KeyValue.create account sealedRecord
          else
            KeyValue.update account sealedRecord rev : Session (Except Failure Nat)) with
        | .ok newRev => return .ok newRev
        | .error failure =>
          if isRevisionConflict failure then
            sealLoop account attempts
          else
            return .error (codeError "InternalError")

/-- `SealAccountOverrides`: the revision of the sealed record. -/
def sealAccountOverrides (account : String) : Session (Except Failure Nat) := do
  if account = "" then
    return .error (awsError "MissingParameter" "accountID is required to seal quota overrides")
  else if ¬isAccountID account then
    return .error (awsError "InvalidParameterValue"
      ("accountID " ++ Failure.quoted account ++ " is not a valid AWS account ID"))
  else if account = globalAccountID then
    return .error (awsError "InvalidParameterValue"
      "quota override seal must not target the global account")
  else
    match ← accountTerminating account with
    | .error _ => return .error (codeError "InternalError")
    | .ok false =>
      return .error (awsError "IncorrectState" ("account " ++ account ++ " is not TERMINATING"))
    | .ok true =>
      match ← sealBucket with
      | .error failure => return .error failure
      | .ok () => sealLoop account sealMaxAttempts

end Override

end Spinifex.Quota
