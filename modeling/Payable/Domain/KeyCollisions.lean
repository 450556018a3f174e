import Payable.Domain.IdempotencyKeys
import Payable.Foundation.UriComponents

namespace Payable.Domain
open IdempotencyKey

-- One call of a builder with its parts.
inductive KeyCall where
  | checkout (parts : CheckoutKeyParts)
  | charge (parts : ChargeKeyParts)
  | subscription (parts : SubscriptionKeyParts)
  | refund (parts : RefundKeyParts)
  | subscriptionOperation (parts : SubscriptionOperationKeyParts)
  | webhook (parts : WebhookKeyParts)
  | customer (parts : BillableKeyParts)
  | billingPortal (parts : BillableKeyParts)

section Keys

variable (toUpperCase : String → String)

namespace KeyCall

def key : KeyCall → Option String
  | .checkout parts => forCheckout parts
  | .charge parts => forCharge toUpperCase parts
  | .subscription parts => forSubscription parts
  | .refund parts => forRefund toUpperCase parts
  | .subscriptionOperation parts => forSubscriptionOperation parts
  | .webhook parts => forWebhook parts
  | .customer parts => forCustomer parts
  | .billingPortal parts => forBillingPortal parts

end KeyCall

def present (value : Option String) : Option String := value.filter (· ≠ "")

-- The parts up to null tenant = empty tenant, currency letter case, and absent = empty optional part.
def normalTenant (tenantId : Option String) : Option String := some (tenantId.getD "")

def KeyCall.normal : KeyCall → KeyCall
  | .checkout parts => .checkout {parts with tenantId := normalTenant parts.tenantId,reference := present parts.reference}
  | .charge parts => .charge {parts with tenantId := normalTenant parts.tenantId,currency := toUpperCase parts.currency}
  | .subscription parts => .subscription {parts with tenantId := normalTenant parts.tenantId}
  | .refund parts =>
    .refund {parts with
      tenantId := normalTenant parts.tenantId,currency := toUpperCase parts.currency,reference := present parts.reference}
  | .subscriptionOperation parts =>
    .subscriptionOperation {parts with
      tenantId := normalTenant parts.tenantId,discriminator := present parts.discriminator,nonce := present parts.nonce}
  | .webhook parts => .webhook parts
  | .customer parts => .customer {parts with tenantId := normalTenant parts.tenantId}
  | .billingPortal parts => .billingPortal {parts with tenantId := normalTenant parts.tenantId}

def Equivalent (a b : KeyCall) : Prop := a.normal toUpperCase = b.normal toUpperCase

-- A subscription key whose six parts stand where an operation with both optional parts has its own.
def Crosses (plain : SubscriptionKeyParts) (operation : SubscriptionOperationKeyParts) : Prop :=
  operation.operation = plain.tenantId.getD "" ∧ operation.tenantId.getD "" = plain.provider ∧
    operation.provider = plain.billableType ∧ operation.providerSubscriptionId = plain.billableId ∧
    present operation.discriminator = some plain.subscriptionName ∧ present operation.nonce = some plain.price

-- The nonce of the one is the discriminator of the other, and they have no other optional part.
def Moves (p q : SubscriptionOperationKeyParts) : Prop :=
  p.operation = q.operation ∧ p.tenantId.getD "" = q.tenantId.getD "" ∧ p.provider = q.provider ∧
    p.providerSubscriptionId = q.providerSubscriptionId ∧ present p.discriminator = none ∧ present q.nonce = none ∧
    present p.nonce = present q.discriminator ∧ present q.discriminator ≠ none

def Clash : KeyCall → KeyCall → Prop
  | .subscription plain,.subscriptionOperation operation => Crosses plain operation
  | .subscriptionOperation operation,.subscription plain => Crosses plain operation
  | .subscriptionOperation p,.subscriptionOperation q => Moves p q ∨ Moves q p
  | _,_ => False

-- The texts between the separators of a key, before they are encoded.
def KeyCall.segments : KeyCall → List String
  | .checkout parts =>
    ["checkout",parts.tenantId.getD "",parts.provider,parts.billableType,parts.billableId,parts.price,parts.subscriptionName] ++
      (present parts.reference).toList
  | .charge parts =>
    ["charge",parts.tenantId.getD "",parts.provider,parts.billableType,parts.billableId,parts.reference,toString parts.amount,
      toUpperCase parts.currency]
  | .subscription parts =>
    ["subscription",parts.tenantId.getD "",parts.provider,parts.billableType,parts.billableId,parts.subscriptionName,parts.price]
  | .refund parts =>
    ["refund",parts.tenantId.getD "",parts.provider,parts.paymentId,toString parts.amount,toUpperCase parts.currency] ++
      (present parts.reference).toList
  | .subscriptionOperation parts =>
    ["subscription",parts.operation,parts.tenantId.getD "",parts.provider,parts.providerSubscriptionId] ++
      (present parts.discriminator).toList ++ (present parts.nonce).toList
  | .webhook parts => ["webhook",parts.provider,parts.providerEventId]
  | .customer parts => ["customer",parts.tenantId.getD "",parts.provider,parts.billableType,parts.billableId]
  | .billingPortal parts => ["portal",parts.tenantId.getD "",parts.provider,parts.billableType,parts.billableId]

variable {toUpperCase : String → String}

def joined (segments : List String) : List Char := [':'].intercalate (segments.map fun value => (segment value).toList)

theorem joined_cons (first second : String) (rest : List String) :
    joined (first :: second :: rest) = (segment first).toList ++ ':' :: joined (second :: rest) := by
  simp [joined,List.intercalate]

theorem joined_single (only : String) : joined [only] = (segment only).toList := by
  simp [joined,List.intercalate]

theorem joined_flat (first : String) (rest : List String) :
    joined (first :: rest) = (segment first).toList ++ rest.flatMap fun value => ':' :: (segment value).toList := by
  induction rest generalizing first with
  | nil => simp [joined_single]
  | cons second others ih => rw [joined_cons,ih,List.flatMap_cons,List.cons_append]

theorem segment_clear (value : String) : ∀ c ∈ (segment value).toList, Text.isWhitespace c = false ∧ c ≠ ':' :=
  fun _ inside => Text.encodeURIComponent_visible inside

theorem joined_visible (segments : List String) : ∀ c ∈ joined segments, Text.isWhitespace c = false := by
  induction segments with
  | nil => intro c inside; cases inside
  | cons first rest ih =>
      intro c inside
      cases rest with
      | nil =>
          rw [joined_single] at inside
          exact (segment_clear first c inside).1
      | cons second others =>
          rw [joined_cons] at inside
          rcases List.mem_append.mp inside with here | later
          · exact (segment_clear first c here).1
          · rcases List.mem_cons.mp later with rfl | later
            · decide
            · exact ih c later

theorem joined_injective {a b : List String} (some_ : a ≠ []) (some' : b ≠ []) (same : joined a = joined b) : a = b := by
  have clear : ∀ segments : List String, ∀ l ∈ segments.map fun value => (segment value).toList, ':' ∉ l := by
    intro segments l member inside
    obtain ⟨value,_,rfl⟩ := List.mem_map.mp member
    exact (segment_clear value ':' inside).2 rfl
  have split := congrArg (List.splitOn ':') same
  unfold joined at split
  rw [List.splitOn_intercalate ':' (clear a) (by simpa using some_),List.splitOn_intercalate ':' (clear b) (by simpa using some')] at split
  refine List.map_injective_iff.mpr ?_ split
  intro x y its
  exact Text.encodeURIComponent_injective (String.toList_inj.mp its)

theorem of_visible (visible : ∀ c ∈ value.toList, Text.isWhitespace c = false) (made : IdempotencyKey.of value = some key) : key = value := by
  unfold IdempotencyKey.of at made
  rw [Text.trim_visible visible] at made
  dsimp only at made
  split at made
  · cases made
  · exact (Option.some.inj made).symm

-- A key that is built is its segments, joined.
theorem built (segments : List String) (its : value.toList = joined segments) (made : IdempotencyKey.of value = some key) :
    key.toList = joined segments := by
  rw [of_visible (fun c inside => joined_visible segments c (its ▸ inside)) made,its]

theorem optionalSegment_present (value : Option String) :
    (optionalSegment value).toList = (present value).toList.flatMap fun its => ':' :: (segment its).toList := by
  cases value with
  | none => rfl
  | some its =>
      by_cases empty : its = ""
      · subst empty; rfl
      · have shown : optionalSegment (some its) = ":" ++ segment its := by
          unfold optionalSegment
          split
          · rename_i none; cases none
          · rename_i same; cases same; exact absurd rfl empty
          · rename_i same; cases same; rfl
        have stays : present (some its) = some its := by simp [present,Option.filter,empty]
        rw [shown,stays,String.toList_append]
        simp

theorem prefix_checkout : "checkout:".toList = (segment "checkout").toList ++ [':'] := by decide
theorem prefix_charge : "charge:".toList = (segment "charge").toList ++ [':'] := by decide
theorem prefix_subscription : "subscription:".toList = (segment "subscription").toList ++ [':'] := by decide
theorem prefix_refund : "refund:".toList = (segment "refund").toList ++ [':'] := by decide
theorem prefix_webhook : "webhook:".toList = (segment "webhook").toList ++ [':'] := by decide
theorem prefix_customer : "customer:".toList = (segment "customer").toList ++ [':'] := by decide
theorem prefix_portal : "portal:".toList = (segment "portal").toList ++ [':'] := by decide

theorem colon : ":".toList = [':'] := rfl

theorem amountSegment_eq (made : amountSegment value = some text) : text = segment (toString value) := by
  unfold amountSegment at made
  split at made
  · exact (Option.some.inj made).symm
  · cases made

theorem key_segments (call : KeyCall) (made : call.key toUpperCase = some key) :
    key.toList = joined (call.segments toUpperCase) := by
  cases call with
  | checkout parts =>
      simp only [KeyCall.key,forCheckout] at made
      refine built _ ?_ made
      simp [KeyCall.segments,joined_flat,optionalSegment_present,prefix_checkout,colon,tenantSegment]
  | charge parts =>
      simp only [KeyCall.key,forCharge,Option.bind_eq_bind,Option.bind_eq_some_iff] at made
      obtain ⟨amount,its,made⟩ := made
      cases amountSegment_eq its
      refine built _ ?_ made
      simp [KeyCall.segments,joined_flat,prefix_charge,colon,tenantSegment,currencySegment]
  | subscription parts =>
      simp only [KeyCall.key,forSubscription] at made
      refine built _ ?_ made
      simp [KeyCall.segments,joined_flat,prefix_subscription,colon,tenantSegment]
  | refund parts =>
      simp only [KeyCall.key,forRefund,Option.bind_eq_bind,Option.bind_eq_some_iff] at made
      obtain ⟨amount,its,made⟩ := made
      cases amountSegment_eq its
      refine built _ ?_ made
      simp [KeyCall.segments,joined_flat,optionalSegment_present,prefix_refund,colon,tenantSegment,currencySegment]
  | subscriptionOperation parts =>
      simp only [KeyCall.key,forSubscriptionOperation] at made
      refine built _ ?_ made
      simp [KeyCall.segments,joined_flat,optionalSegment_present,prefix_subscription,colon,tenantSegment]
  | webhook parts =>
      simp only [KeyCall.key,forWebhook] at made
      refine built _ ?_ made
      simp [KeyCall.segments,joined_flat,prefix_webhook,colon]
  | customer parts =>
      simp only [KeyCall.key,forCustomer] at made
      refine built _ ?_ made
      simp [KeyCall.segments,joined_flat,prefix_customer,colon,tenantSegment]
  | billingPortal parts =>
      simp only [KeyCall.key,forBillingPortal] at made
      refine built _ ?_ made
      simp [KeyCall.segments,joined_flat,prefix_portal,colon,tenantSegment]

theorem segments_nonempty (call : KeyCall) : call.segments toUpperCase ≠ [] := by
  cases call <;> exact List.cons_ne_nil _ _

theorem same_segments {a b : KeyCall} (first : a.key toUpperCase = some key) (second : b.key toUpperCase = some key') :
    key = key' ↔ a.segments toUpperCase = b.segments toUpperCase := by
  constructor
  · rintro rfl
    exact joined_injective (segments_nonempty a) (segments_nonempty b) ((key_segments a first).symm.trans (key_segments b second))
  · intro same
    rw [← String.toList_inj,key_segments a first,key_segments b second,same]

theorem decimal_apart {m n : Int} (same : toString m = toString n) : m = n := by
  have signs : ∀ k l : Nat, (toString k).toList ≠ '-' :: (toString l).toList := by
    intro k l its
    have digit := Text.decimal_digits k '-' (its ▸ List.mem_cons_self)
    exact absurd digit (by decide)
  have positive : ∀ k : Nat, (toString (Int.ofNat k)).toList = (toString k).toList := fun _ => rfl
  have negative : ∀ k : Nat, (toString (Int.negSucc k)).toList = '-' :: (toString (k + 1)).toList := by
    intro k
    show ("-" ++ toString (k + 1)).toList = _
    simp
  have chars := congrArg String.toList same
  cases m with
  | ofNat k =>
      cases n with
      | ofNat l =>
          rw [positive,positive] at chars
          rw [Text.decimal_injective chars]
      | negSucc l =>
          rw [positive,negative] at chars
          exact absurd chars (signs k (l + 1))
  | negSucc k =>
      cases n with
      | ofNat l =>
          rw [positive,negative] at chars
          exact absurd chars.symm (signs l (k + 1))
      | negSucc l =>
          rw [negative,negative] at chars
          have same := Text.decimal_injective (List.cons.inj chars).2
          rw [Nat.succ_inj.mp same]

theorem optional_parts {d n d' n' : Option String} (same : d.toList ++ n.toList = d'.toList ++ n'.toList) :
    d = d' ∧ n = n' ∨ (d = none ∧ n' = none ∧ n = d' ∧ d' ≠ none) ∨ d' = none ∧ n = none ∧ n' = d ∧ d ≠ none := by
  cases d <;> cases n <;> cases d' <;> cases n' <;> simp_all

theorem both_parts {d n : Option String} (same : d.toList ++ n.toList = [first,second]) : d = some first ∧ n = some second := by
  cases d <;> cases n <;> simp_all

theorem listed {value other : Option String} (same : value.toList = other.toList) : value = other := by
  cases value <;> cases other <;> simp_all

-- Segments that are equal are those of one builder, but for the two builders that share a prefix.
theorem segments_agree {a b : KeyCall} (same : a.segments toUpperCase = b.segments toUpperCase) :
    Equivalent toUpperCase a b ∨ Clash a b := by
  cases a <;> cases b <;> simp only [KeyCall.segments] at same <;>
    try exact absurd (List.cons.inj same).1 (by decide)
  case checkout.checkout =>
      simp only [List.cons_append,List.nil_append,List.cons.injEq,true_and] at same
      obtain ⟨tenant,provider,type,id,price,name,reference⟩ := same
      exact .inl (by simp only [Equivalent,KeyCall.normal,normalTenant,tenant,provider,type,id,price,name,listed reference])
  case charge.charge =>
      simp only [List.cons.injEq,true_and,and_true] at same
      obtain ⟨tenant,provider,type,id,reference,amount,currency⟩ := same
      exact .inl (by simp only [Equivalent,KeyCall.normal,normalTenant,tenant,provider,type,id,reference,decimal_apart amount,currency])
  case subscription.subscription =>
      simp only [List.cons.injEq,true_and,and_true] at same
      obtain ⟨tenant,provider,type,id,name,price⟩ := same
      exact .inl (by simp only [Equivalent,KeyCall.normal,normalTenant,tenant,provider,type,id,name,price])
  case subscription.subscriptionOperation =>
      simp only [List.cons_append,List.nil_append,List.cons.injEq,true_and] at same
      obtain ⟨tenant,provider,type,id,parts⟩ := same
      obtain ⟨discriminator,nonce⟩ := both_parts parts.symm
      exact .inr ⟨tenant.symm,provider.symm,type.symm,id.symm,discriminator,nonce⟩
  case refund.refund =>
      simp only [List.cons_append,List.nil_append,List.cons.injEq,true_and] at same
      obtain ⟨tenant,provider,payment,amount,currency,reference⟩ := same
      exact .inl (by simp only [Equivalent,KeyCall.normal,normalTenant,tenant,provider,payment,decimal_apart amount,currency,listed reference])
  case subscriptionOperation.subscription =>
      simp only [List.cons_append,List.nil_append,List.cons.injEq,true_and] at same
      obtain ⟨tenant,provider,type,id,parts⟩ := same
      obtain ⟨discriminator,nonce⟩ := both_parts parts
      exact .inr ⟨tenant,provider,type,id,discriminator,nonce⟩
  case subscriptionOperation.subscriptionOperation =>
      simp only [List.cons_append,List.nil_append,List.cons.injEq,true_and] at same
      obtain ⟨operation,tenant,provider,id,parts⟩ := same
      rcases optional_parts parts with ⟨discriminator,nonce⟩ | ⟨none,none',moved,some_⟩ | ⟨none,none',moved,some_⟩
      · exact .inl (by simp only [Equivalent,KeyCall.normal,normalTenant,operation,tenant,provider,id,discriminator,nonce])
      · exact .inr (.inl ⟨operation,tenant,provider,id,none,none',moved,some_⟩)
      · exact .inr (.inr ⟨operation.symm,tenant.symm,provider.symm,id.symm,none,none',moved,some_⟩)
  case webhook.webhook p q =>
      simp only [List.cons.injEq,true_and,and_true] at same
      obtain ⟨provider,event⟩ := same
      have equal : p = q := by
        cases p
        cases q
        rw [WebhookKeyParts.mk.injEq]
        exact ⟨provider,event⟩
      exact .inl (by rw [equal]; rfl)
  case customer.customer =>
      simp only [List.cons.injEq,true_and,and_true] at same
      obtain ⟨tenant,provider,type,id⟩ := same
      exact .inl (by simp only [Equivalent,KeyCall.normal,normalTenant,tenant,provider,type,id])
  case billingPortal.billingPortal =>
      simp only [List.cons.injEq,true_and,and_true] at same
      obtain ⟨tenant,provider,type,id⟩ := same
      exact .inl (by simp only [Equivalent,KeyCall.normal,normalTenant,tenant,provider,type,id])

theorem crosses_segments (crosses : Crosses plain operation) :
    (KeyCall.subscription plain).segments toUpperCase = (KeyCall.subscriptionOperation operation).segments toUpperCase := by
  obtain ⟨tenant,provider,type,id,discriminator,nonce⟩ := crosses
  simp [KeyCall.segments,tenant,provider,type,id,discriminator,nonce]

theorem moves_segments (moves : Moves p q) :
    (KeyCall.subscriptionOperation p).segments toUpperCase = (KeyCall.subscriptionOperation q).segments toUpperCase := by
  obtain ⟨operation,tenant,provider,id,none,none',moved,_⟩ := moves
  simp [KeyCall.segments,operation,tenant,provider,id,none,none',moved]

theorem moves_apart (moves : Moves p q) : present p.discriminator ≠ present q.discriminator := by
  obtain ⟨_,_,_,_,none,_,_,some_⟩ := moves
  rw [none]
  exact some_.symm

theorem clash_segments {a b : KeyCall} (clash : Clash a b) :
    a.segments toUpperCase = b.segments toUpperCase ∧ ¬ Equivalent toUpperCase a b := by
  cases a <;> cases b <;> try exact clash.elim
  case subscription.subscriptionOperation => exact ⟨crosses_segments clash,fun same => KeyCall.noConfusion same⟩
  case subscriptionOperation.subscription => exact ⟨(crosses_segments clash).symm,fun same => KeyCall.noConfusion same⟩
  case subscriptionOperation.subscriptionOperation p q =>
      have apart : present p.discriminator ≠ present q.discriminator := by
        rcases clash with moves | moves
        · exact moves_apart moves
        · exact (moves_apart moves).symm
      refine ⟨?_,fun same => apart ?_⟩
      · rcases clash with moves | moves
        · exact moves_segments moves
        · exact (moves_segments moves).symm
      · simp only [Equivalent,KeyCall.normal,KeyCall.subscriptionOperation.injEq,SubscriptionOperationKeyParts.mk.injEq] at same
        exact same.2.2.2.2.1

-- Two keys that are built are equal for equivalent parts only, but for the clashes.
theorem keys_apart_iff (a b : KeyCall) (first : a.key toUpperCase = some key) (second : b.key toUpperCase = some key') :
    (key = key' → Equivalent toUpperCase a b) ↔ ¬ Clash a b := by
  rw [same_segments first second]
  constructor
  · intro apart clash
    obtain ⟨same,other⟩ := clash_segments clash
    exact other (apart same)
  · intro none same
    exact (segments_agree same).resolve_right none

def swapDiscriminated : KeyCall := .subscriptionOperation ⟨none,"swap","stripe","sub_1",some "price_2",none⟩

def swapNonced : KeyCall := .subscriptionOperation ⟨none,"swap","stripe","sub_1",none,some "price_2"⟩

theorem keys_collide : ¬ ∃ toUpperCase, ∀ a b key,
    KeyCall.key toUpperCase a = some key → KeyCall.key toUpperCase b = some key → Equivalent toUpperCase a b := by
  rintro ⟨toUpperCase,apart⟩
  have same : swapDiscriminated.key toUpperCase = some "subscription:swap::stripe:sub_1:price_2" := by
    show forSubscriptionOperation ⟨none,"swap","stripe","sub_1",some "price_2",none⟩ = _
    decide +kernel
  have same' : swapNonced.key toUpperCase = some "subscription:swap::stripe:sub_1:price_2" := by
    show forSubscriptionOperation ⟨none,"swap","stripe","sub_1",none,some "price_2"⟩ = _
    decide +kernel
  have equal := apart _ _ _ same same'
  simp [Equivalent,swapDiscriminated,swapNonced,KeyCall.normal,present] at equal

theorem keys_apart_charge :
    ∃ key key', (KeyCall.charge ⟨none,"stripe","user","1","a:100",5,"eur"⟩).key Text.asciiUpperCase = some key ∧
      (KeyCall.charge ⟨none,"stripe","user","1","a",100,"EUR"⟩).key Text.asciiUpperCase = some key' ∧ key ≠ key' := by
  have first : (KeyCall.charge ⟨none,"stripe","user","1","a:100",5,"eur"⟩).key Text.asciiUpperCase =
      some "charge::stripe:user:1:a%3A100:5:EUR" := by
    decide +kernel
  have second : (KeyCall.charge ⟨none,"stripe","user","1","a",100,"EUR"⟩).key Text.asciiUpperCase =
      some "charge::stripe:user:1:a:100:EUR" := by
    decide +kernel
  refine ⟨_,_,first,second,fun same => ?_⟩
  have equal := (keys_apart_iff _ _ first second).mpr (fun clash => clash) same
  simp [Equivalent,KeyCall.normal] at equal

end Keys

end Payable.Domain
