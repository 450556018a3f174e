import Payable.Customers.Synchronization

namespace Payable.Customers

-- What a fetch rejects with.
inductive FetchError where
  | payable (code : Option String)
  | timeout
  | other
  deriving DecidableEq

-- A body after JSON.parse. A code is a string or a number, as String(code) writes it; an id of null is
-- no id.
inductive JsonBody where
  | null
  | object (code : Option String) (id : Option String)
  | other
  deriving DecidableEq

inductive ResponseText where
  | empty
  | json (body : JsonBody)
  | notJson
  deriving DecidableEq

inductive RevolutAnswer where
  | rejected (error : FetchError)
  -- response.text() rejects.
  | unread
  | response (status : Nat) (text : ResponseText)
  deriving DecidableEq

def parseResponseBody : ResponseText → JsonBody
  | .empty => .null
  | .json body => body
  | .notJson => .other

def codeByStatus : Nat → Option String
  | 400 => some "PROVIDER_REQUEST_INVALID"
  | 401 => some "PROVIDER_AUTH_FAILED"
  | 403 => some "PROVIDER_AUTH_FAILED"
  | 409 => some "PROVIDER_IDEMPOTENCY_CONFLICT"
  | 422 => some "PROVIDER_REQUEST_INVALID"
  | 429 => some "PROVIDER_RATE_LIMITED"
  | _ => none

-- The keys an object literal inherits, whose values are no strings.
def inheritedKeys : List String :=
  ["constructor","__defineGetter__","__defineSetter__","hasOwnProperty","__lookupGetter__","__lookupSetter__",
    "isPrototypeOf","propertyIsEnumerable","toString","valueOf","__proto__","toLocaleString"]

def codeByRevolut (code : String) : Option (Option String) :=
  if code ∈ ["unauthenticated","unauthorized","forbidden"] then some (some "PROVIDER_AUTH_FAILED")
  else if code ∈ ["bad_request","validation_error"] then some (some "PROVIDER_REQUEST_INVALID")
  else if code ∈ ["too_many_requests","rate_limit_exceeded"] then some (some "PROVIDER_RATE_LIMITED")
  else if code ∈ ["idempotency_conflict","3020"] then some (some "PROVIDER_IDEMPOTENCY_CONFLICT")
  else if code ∈ inheritedKeys then some none
  else none

def parseRevolutError : JsonBody → Option String
  | .object code _ => code
  | .null | .other => none

def toRevolutPayableError (status : Nat) (body : JsonBody) : SyncError :=
  match codeByRevolut ((parseRevolutError body).getD "") with
  | some code => .payable code
  | none => .payable (some ((codeByStatus status).getD "PROVIDER_ERROR"))

def revolutNetworkError : FetchError → SyncError
  | .payable code => .payable code
  | .timeout => .payable (some "PROVIDER_REQUEST_TIMEOUT")
  | .other => .payable (some "PROVIDER_ERROR")

-- RevolutCustomers.create: the request, and toRevolutCustomerDTO of what it returns. Reading the id of
-- null throws a TypeError; text and other values have none.
def createRevolutCustomer : RevolutAnswer → Except SyncError (Option String)
  | .rejected error => .error (revolutNetworkError error)
  | .unread => .error .other
  | .response status text =>
    let body := parseResponseBody text
    if 200 ≤ status ∧ status < 300 then
      match body with
      | .null => .error .other
      | .object _ id => .ok id
      | .other => .ok none
    else .error (toRevolutPayableError status body)

end Payable.Customers
