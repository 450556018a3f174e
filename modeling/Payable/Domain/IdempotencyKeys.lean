import Payable.Foundation.Text

namespace Payable.Domain

structure BillableKeyParts where
  tenantId : Option String
  provider : String
  billableType : String
  billableId : String
  deriving DecidableEq

structure RefundKeyParts where
  tenantId : Option String
  provider : String
  paymentId : String
  amount : Int
  currency : String
  reference : Option String

structure ChargeKeyParts where
  tenantId : Option String
  provider : String
  billableType : String
  billableId : String
  reference : String
  amount : Int
  currency : String

structure CheckoutKeyParts where
  tenantId : Option String
  provider : String
  billableType : String
  billableId : String
  price : String
  subscriptionName : String
  reference : Option String

structure SubscriptionKeyParts where
  tenantId : Option String
  provider : String
  billableType : String
  billableId : String
  subscriptionName : String
  price : String

structure WebhookKeyParts where
  provider : String
  providerEventId : String

structure SubscriptionOperationKeyParts where
  tenantId : Option String
  operation : String
  provider : String
  providerSubscriptionId : String
  discriminator : Option String
  nonce : Option String

def maxKeyLength : Nat := 512

namespace IdempotencyKey

def segment (value : String) : String := Text.encodeURIComponent value

def tenantSegment (value : Option String) : String := segment (value.getD "")

def isSafeInteger (value : Int) : Bool := value.natAbs ≤ 9007199254740991

-- none is the TypeError of an amount that is no safe integer.
def amountSegment (value : Int) : Option String := if isSafeInteger value then some (segment (toString value)) else none

-- toUpperCase is that of JavaScript's texts: any map of texts to texts.
def currencySegment (toUpperCase : String → String) (value : String) : String := segment (toUpperCase value)

-- none is the TypeError of an empty or an overlong key.
def of (value : String) : Option String :=
  let normalized := Text.trim value
  if Text.length normalized = 0 ∨ maxKeyLength < Text.length normalized then none else some normalized

-- An empty string is no part.
def optionalSegment : Option String → String
  | none | some "" => ""
  | some value => ":" ++ segment value

def forCheckout (parts : CheckoutKeyParts) : Option String :=
  of ("checkout:" ++ tenantSegment parts.tenantId ++ ":" ++ segment parts.provider ++ ":" ++ segment parts.billableType ++ ":" ++
    segment parts.billableId ++ ":" ++ segment parts.price ++ ":" ++ segment parts.subscriptionName ++
    optionalSegment parts.reference)

def forRefund (toUpperCase : String → String) (parts : RefundKeyParts) : Option String := do
  let amount ← amountSegment parts.amount
  of ("refund:" ++ tenantSegment parts.tenantId ++ ":" ++ segment parts.provider ++ ":" ++ segment parts.paymentId ++ ":" ++
    amount ++ ":" ++ currencySegment toUpperCase parts.currency ++ optionalSegment parts.reference)

def forCharge (toUpperCase : String → String) (parts : ChargeKeyParts) : Option String := do
  let amount ← amountSegment parts.amount
  of ("charge:" ++ tenantSegment parts.tenantId ++ ":" ++ segment parts.provider ++ ":" ++
    segment parts.billableType ++ ":" ++ segment parts.billableId ++ ":" ++ segment parts.reference ++ ":" ++
    amount ++ ":" ++ currencySegment toUpperCase parts.currency)

def forSubscription (parts : SubscriptionKeyParts) : Option String :=
  of ("subscription:" ++ tenantSegment parts.tenantId ++ ":" ++ segment parts.provider ++ ":" ++ segment parts.billableType ++ ":" ++
    segment parts.billableId ++ ":" ++ segment parts.subscriptionName ++ ":" ++ segment parts.price)

def forSubscriptionOperation (parts : SubscriptionOperationKeyParts) : Option String :=
  of ("subscription:" ++ segment parts.operation ++ ":" ++ tenantSegment parts.tenantId ++ ":" ++ segment parts.provider ++ ":" ++
    segment parts.providerSubscriptionId ++ optionalSegment parts.discriminator ++ optionalSegment parts.nonce)

def forWebhook (parts : WebhookKeyParts) : Option String :=
  of ("webhook:" ++ segment parts.provider ++ ":" ++ segment parts.providerEventId)

def forCustomer (parts : BillableKeyParts) : Option String :=
  of ("customer:" ++ tenantSegment parts.tenantId ++ ":" ++ segment parts.provider ++ ":" ++
    segment parts.billableType ++ ":" ++ segment parts.billableId)

def forBillingPortal (parts : BillableKeyParts) : Option String :=
  of ("portal:" ++ tenantSegment parts.tenantId ++ ":" ++ segment parts.provider ++ ":" ++
    segment parts.billableType ++ ":" ++ segment parts.billableId)

example : forRefund Text.asciiUpperCase ⟨none,"tmt","pay 1",40,"EUR",some "r/é"⟩ = some "refund::tmt:pay%201:40:EUR:r%2F%C3%A9" := by decide

end IdempotencyKey

end Payable.Domain
