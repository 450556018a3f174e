import Payable.Domain.PaymentStates
import Payable.Foundation.Binary64
import Payable.Foundation.IsoDates
import Payable.Foundation.Text

namespace Payable.Reconciliation
open Binary64 (times plus)
open Doubles (Number)

abbrev Double := {value : Rat // Binary64.round value = value}

-- An option that is given is a finite double, or NaN or an infinity.
abbrev Given := Option Double

structure TrustMyTravelReconciliationOptions where
  maxAttempts : Option Given
  baseDelayMs : Option Given
  maxDelayMs : Option Given

structure ResolvedOptions where
  maxAttempts : Nat
  baseDelayMs : Int
  maxDelayMs : Int
  attempts : 1 ≤ maxAttempts ∧ maxAttempts ≤ 100
  delays : 1 ≤ baseDelayMs ∧ baseDelayMs ≤ maxDelayMs
  held : Binary64.round baseDelayMs = baseDelayMs

def whole (n : Int) (small : n.natAbs < 2 ^ 53) : Double := ⟨n,Binary64.round_small n small⟩

inductive Failure where
  | options | input | cursor | notDue | bookingRequired | bookingId | unsettled (bookingId : Nat)
  | response | differentTransaction | otherBooking (bookingId : Nat)
  | invalidTime
  | lookup (error : String)
  deriving DecidableEq

def Failure.message : Failure → String
  | .options => "Trust My Travel reconciliation options are invalid"
  | .input => "Recurring reconciliation input is invalid"
  | .cursor => "Recurring reconciliation cursor is invalid"
  | .notDue => "Recurring reconciliation is not due yet"
  | .bookingRequired => "Trust My Travel recurring reconciliation requires the booking the payment belongs to"
  | .bookingId => "Trust My Travel bookingId must be a positive integer"
  | .unsettled _ => "Trust My Travel payment still carries its booking id, so no transaction has settled for it"
  | .response => "Trust My Travel transaction response is invalid"
  | .differentTransaction => "Trust My Travel returned a different transaction"
  | .otherBooking _ => "Trust My Travel transaction does not belong to the payment booking"
  | .invalidTime => "Invalid time value"
  | .lookup error => error

-- The code of a PayableError; the RangeError of a date and what the lookup throws have none here.
def Failure.code : Failure → Option String
  | .options => some "PROVIDER_TMT_RECONCILIATION_OPTIONS_INVALID"
  | .input => some "PROVIDER_RECONCILIATION_INPUT_INVALID"
  | .cursor => some "PROVIDER_RECONCILIATION_CURSOR_INVALID"
  | .notDue => some "PROVIDER_RECONCILIATION_NOT_DUE"
  | .bookingRequired => some "PROVIDER_TMT_RECONCILIATION_BOOKING_REQUIRED"
  | .bookingId => some "PROVIDER_TMT_BOOKING_ID_INVALID"
  | .unsettled _ => some "PROVIDER_TMT_RECONCILIATION_BOOKING_UNSETTLED"
  | .response => some "PROVIDER_TMT_TRANSACTION_RESPONSE_INVALID"
  | .differentTransaction => some "PROVIDER_TMT_TRANSACTION_ID_MISMATCH"
  | .otherBooking _ => some "PROVIDER_TMT_TRANSACTION_BOOKING_MISMATCH"
  | .invalidTime | .lookup _ => none

theorem attempts_small : (35 : Int).natAbs < 2 ^ 53 := by decide
theorem minute_small : (60000 : Int).natAbs < 2 ^ 53 := by decide
theorem day_small : (86400000 : Int).natAbs < 2 ^ 53 := by decide

theorem attempts_range {n : Int} (range : 1 ≤ n ∧ n ≤ 100) : 1 ≤ n.toNat ∧ n.toNat ≤ 100 := by omega

theorem numerator_round {x : Double} (integral : x.val.den = 1) : Binary64.round (x.val.num : Rat) = (x.val.num : Rat) := by
  rw [Rat.coe_int_num_of_den_eq_one integral]
  exact x.property

def resolveOptions (options : TrustMyTravelReconciliationOptions) : Except Failure ResolvedOptions :=
  match options.maxAttempts.getD (some (whole 35 attempts_small)),options.baseDelayMs.getD (some (whole 60000 minute_small)),
    options.maxDelayMs.getD (some (whole 86400000 day_small)) with
  | some maxAttempts,some baseDelayMs,some maxDelayMs =>
      if valid : (maxAttempts.val.den = 1 ∧ 1 ≤ maxAttempts.val.num ∧ maxAttempts.val.num ≤ 100) ∧
          (baseDelayMs.val.den = 1 ∧ 1 ≤ baseDelayMs.val.num) ∧ maxDelayMs.val.den = 1 ∧ baseDelayMs.val.num ≤ maxDelayMs.val.num then
        .ok ⟨maxAttempts.val.num.toNat,baseDelayMs.val.num,maxDelayMs.val.num,attempts_range valid.1.2,⟨valid.2.1.2,valid.2.2.2⟩,
          numerator_round valid.2.1.1⟩
      else .error .options
  | _,_,_ => .error .options

-- NaN and the infinities are none.
structure Cursor where
  providerPaymentId : String
  attempt : Option Rat
  nextAttemptAt : List Char
  lastProviderStatus : Option String
  lastStatus : Option Domain.PaymentStatus

structure Input where
  providerPaymentId : String
  cursor : Option Cursor
  bookingId : Option (Option Rat)

-- What the lookup answers: the id as text, and the status, the bookings' ids as texts and the rest
-- where they are what their types say.
structure TmtTransactionResponse where
  id : String
  status : Option String
  bookings : Option (List String)
  chargebackStatus : Option String
  outcomeStatus : Option String
  reasonCode : Option String
  challengeDate : Option String

structure Observation where
  providerPaymentId : String
  providerStatus : String
  status : Domain.PaymentStatus
  attempt : Nat
  providerData : List (String × String)

inductive Result where
  | terminal (observation : Observation)
  | exhausted (observation : Observation)
  | retry (observation : Observation) (cursor : Cursor)

def Result.observation : Result → Observation
  | .terminal observation | .exhausted observation | .retry observation _ => observation

def maxTime : Nat := 8640000000000000

-- What a clock can read: the time of a valid Date.
structure Instant where
  ms : Int
  valid : ms.natAbs ≤ maxTime

-- Date.parse, which reads back what toISOString writes.
structure DateParser where
  parse : List Char → Option Int
  iso : ∀ time, IsoDates.validTime time = true → parse (IsoDates.toISOString time) = some time

def bookingId (input : Input) : Except Failure Nat :=
  match input.bookingId with
  | none => .error .bookingRequired
  | some none => .error .bookingId
  | some (some id_) => if Binary64.isSafeInteger id_ = true ∧ 0 < id_ then .ok id_.num.toNat else .error .bookingId

def assertSettled (providerPaymentId : String) (bookingId : Nat) : Except Failure Unit :=
  if providerPaymentId ≠ toString bookingId then .ok () else .error (.unsettled bookingId)

def validAttempt (options : ResolvedOptions) (attempt : Option Rat) : Bool :=
  attempt.any fun value => Binary64.isInteger value = true ∧ 0 < value ∧ value < options.maxAttempts

def assertInput (dates : DateParser) (options : ResolvedOptions) (now : Instant) (input : Input) : Except Failure Unit :=
  if Text.trim input.providerPaymentId = "" then .error .input
  else match input.cursor with
    | none => .ok ()
    | some cursor =>
        match dates.parse cursor.nextAttemptAt with
        | none => .error .cursor
        | some due =>
            if cursor.providerPaymentId ≠ input.providerPaymentId ∨ validAttempt options cursor.attempt = false ∨
                cursor.lastProviderStatus = none ∨ cursor.lastStatus = none then .error .cursor
            else if now.ms < due then .error .notDue
            else .ok ()

-- (input.cursor?.attempt ?? 0) + 1
def nextAttempt (cursor : Option Cursor) : Nat :=
  match cursor with
  | some ⟨_,some attempt,_,_,_⟩ => attempt.num.toNat + 1
  | _ => 1

def recurringStatus (providerStatus : String) : Domain.PaymentStatus :=
  if providerStatus = "complete" then .succeeded
  else if providerStatus = "failed" ∨ providerStatus = "expired" then .failed
  else if providerStatus = "pending" then .processing
  else .pending

def presentField (key : String) (value : Option String) : List (String × String) := (value.map fun its => (key,its)).toList

def chargebackData (transaction : TmtTransactionResponse) : List (String × String) :=
  presentField "chargebackStatus" transaction.chargebackStatus ++ presentField "outcomeStatus" transaction.outcomeStatus ++
    presentField "reasonCode" transaction.reasonCode ++ presentField "challengeDate" transaction.challengeDate

-- A transaction response that passes the checks, with its status.
def checkTransaction (input : Input) (bookingId : Nat) (transaction : TmtTransactionResponse) : Except Failure String :=
  match transaction.status,transaction.bookings with
  | some status,some bookings =>
      if status = "" then .error .response
      else if transaction.id ≠ input.providerPaymentId then .error .differentTransaction
      else if bookings.contains (toString bookingId) = false then .error (.otherBooking bookingId)
      else .ok status
  | _,_ => .error .response

def settles (status : String) : Bool := status = "complete" || status = "failed" || status = "expired"

-- baseDelayMs * 2 ** (attempt - 1), which past the largest double is Infinity, and the smaller of it
-- and maxDelayMs.
def retryDelay (options : ResolvedOptions) (attempt : Nat) : Rat := min (times options.baseDelayMs (2 ^ (attempt - 1))) options.maxDelayMs

-- new Date(value).toISOString(), which throws where the date is invalid.
def isoOf (value : Rat) : Except Failure (List Char) :=
  if -(maxTime : Rat) ≤ value ∧ value ≤ maxTime then .ok (IsoDates.toISOString (Doubles.trunc value)) else .error .invalidTime

def conclude (options : ResolvedOptions) (answered : Instant) (observation : Observation) : Except Failure Result :=
  if settles observation.providerStatus = true then .ok (.terminal observation)
  else if options.maxAttempts ≤ observation.attempt then .ok (.exhausted observation)
  else do
    let nextAttemptAt ← isoOf (plus answered.ms (retryDelay options observation.attempt))
    return .retry observation
      ⟨observation.providerPaymentId,some observation.attempt,nextAttemptAt,some observation.providerStatus,some observation.status⟩

-- A call with the clock as it is when the input is checked, the answer of the lookup, and the clock
-- as it is then.
structure Step where
  asked : Instant
  answer : Except Failure TmtTransactionResponse
  answered : Instant

def reconcile (dates : DateParser) (options : ResolvedOptions) (input : Input) (step : Step) : Except Failure Result := do
  assertInput dates options step.asked input
  let bookingId ← bookingId input
  assertSettled input.providerPaymentId bookingId
  let transaction ← step.answer
  let status ← checkTransaction input bookingId transaction
  conclude options step.answered ⟨transaction.id,status,recurringStatus status,nextAttempt input.cursor,chargebackData transaction⟩

end Payable.Reconciliation
