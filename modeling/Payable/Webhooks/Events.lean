import Payable.Foundation.Tables
import Payable.Foundation.Text

namespace Payable.Webhooks
open Tables

inductive WebhookEventStatus where
  | pending | processing | processed | failed
  deriving DecidableEq

-- A field of the event's data object: a string, or the JSON text of anything else.
inductive Field where
  | text (value : String)
  | json (value : String)
  deriving DecidableEq

structure VerifiedWebhook where
  providerEventId : String
  type : String
  normalizedType : Option String
  occurredAt : Option Int
  data : List (String × Field)
  deriving DecidableEq

-- A row of payable_webhook_events; payload, signature and headers are stored beside it.
structure WebhookEvent where
  id : Nat
  tenantId : String
  provider : String
  providerEventId : String
  type : String
  normalizedType : Option String
  data : List (String × Field)
  status : WebhookEventStatus
  correlationId : String
  occurredAt : Option Int
  receivedAt : Int
  processedAt : Option Int
  claimedUntil : Option Int
  claimToken : Option Nat
  deriving DecidableEq

def tenant (tenantId : Option String) : String := tenantId.getD ""

-- The unique index (tenant_id, provider, provider_event_id).
def WebhookEvent.key (row : WebhookEvent) : String × String × String := (row.tenantId,row.provider,row.providerEventId)

-- INSERT; none is a violation of the primary key or of the index.
def create (events : List WebhookEvent) (new : WebhookEvent) : Option (List WebhookEvent) :=
  if events.any fun row => row.id = new.id || row.key = new.key then none else some (events ++ [new])

def addressed (id : Nat) (tenantId : Option String) (row : WebhookEvent) : Bool :=
  row.id == id && row.tenantId == tenant tenantId

def findById (events : List WebhookEvent) (id : Nat) (tenantId : Option String) : Option WebhookEvent :=
  events.find? (addressed id tenantId)

def findByProviderEvent (events : List WebhookEvent) (provider providerEventId : String) (tenantId : Option String) :
    Option WebhookEvent :=
  lookup WebhookEvent.key (tenant tenantId,provider,providerEventId) events

def CLAIM_TTL_MS : Int := 300000

-- The WHERE clause of claim, without its replay option.
def claimable (id : Nat) (tenantId : Option String) (now : Int) (row : WebhookEvent) : Bool :=
  addressed id tenantId row && (row.status == .pending || row.status == .failed ||
    (row.status == .processing && row.claimedUntil.any (· < now)))

def WebhookEvent.claim (now : Int) (claimToken : Nat) (row : WebhookEvent) : WebhookEvent :=
  {row with status := .processing, claimedUntil := some (now + CLAIM_TTL_MS), claimToken := some claimToken}

def claim (events : List WebhookEvent) (id : Nat) (tenantId : Option String) (now : Int) (claimToken : Nat) :
    List WebhookEvent × Option Nat :=
  (updateWhere (claimable id tenantId now) (WebhookEvent.claim now claimToken) events,
    if events.any (claimable id tenantId now) then some claimToken else none)

def holds (id : Nat) (tenantId : Option String) (claimToken : Nat) (row : WebhookEvent) : Bool :=
  addressed id tenantId row && row.claimToken == some claimToken

def WebhookEvent.mark (status : WebhookEventStatus) (processedAt : Option Int) (row : WebhookEvent) : WebhookEvent :=
  {row with status := status, processedAt := processedAt}

-- markStatus with a claim token; false is the null it answers when no row is affected.
def markStatus (events : List WebhookEvent) (id : Nat) (status : WebhookEventStatus) (processedAt : Option Int)
    (tenantId : Option String) (claimToken : Nat) : List WebhookEvent × Bool :=
  (updateWhere (holds id tenantId claimToken) (WebhookEvent.mark status processedAt) events,
    events.any (holds id tenantId claimToken))

-- What identifies a row; no update changes it.
def WebhookEvent.identity (row : WebhookEvent) : Nat × String × String × String := (row.id,row.key)

variable {id : Nat}

theorem create_cases (did : create events new = some rows) :
    rows = events ++ [new] ∧ ∀ row ∈ events, row.id ≠ new.id ∧ row.key ≠ new.key := by
  unfold create at did
  split at did
  · cases did
  · rename_i apart
    cases did
    refine ⟨rfl,?_⟩
    intro row member
    simp only [List.any_eq_true,not_exists,not_and,Bool.or_eq_true,decide_eq_true_eq,not_or] at apart
    exact apart row member

theorem findByProviderEvent_found (found : findByProviderEvent events provider providerEventId tenantId = some row) :
    row ∈ events ∧ row.key = (tenant tenantId,provider,providerEventId) := lookup_member found

theorem claimable_of {row : WebhookEvent} (selected : claimable id tenantId now row = true) :
    row.id = id ∧ row.status ≠ .processed := by
  simp only [claimable,addressed,Bool.and_eq_true,Bool.or_eq_true,beq_iff_eq] at selected
  refine ⟨selected.1.1,?_⟩
  rcases selected.2 with (waiting | failed) | ⟨processing,_⟩
  · simp [waiting]
  · simp [failed]
  · simp [processing]

theorem holds_of {row : WebhookEvent} (selected : holds id tenantId claimToken row = true) :
    row.id = id ∧ row.claimToken = some claimToken := by
  simp only [holds,addressed,Bool.and_eq_true,beq_iff_eq] at selected
  exact ⟨selected.1.1,selected.2⟩

theorem holds_eq_false {row : WebhookEvent} (other : row.claimToken ≠ some claimToken) :
    holds id tenantId claimToken row = false := by
  simp [holds,other]

theorem claim_identities (events : List WebhookEvent) :
    (claim events id tenantId now claimToken).1.map WebhookEvent.identity = events.map WebhookEvent.identity :=
  updateWhere_keys events fun _ => rfl

theorem markStatus_identities (events : List WebhookEvent) :
    (markStatus events id status processedAt tenantId claimToken).1.map WebhookEvent.identity =
      events.map WebhookEvent.identity :=
  updateWhere_keys events fun _ => rfl

-- A row of one identity stands in every table of the same identities.
theorem identity_kept {events rows : List WebhookEvent}
    (same : rows.map WebhookEvent.identity = events.map WebhookEvent.identity) (member : row ∈ events) :
    ∃ row' ∈ rows, row'.id = row.id ∧ row'.key = row.key := by
  have inside : row.identity ∈ rows.map WebhookEvent.identity := same ▸ List.mem_map_of_mem member
  obtain ⟨row',member',equal⟩ := List.mem_map.mp inside
  exact ⟨row',member',congrArg Prod.fst equal,congrArg Prod.snd equal⟩

theorem keyed_identities {events rows : List WebhookEvent}
    (same : rows.map WebhookEvent.identity = events.map WebhookEvent.identity) (ids : Keyed WebhookEvent.id events)
    (keys : Keyed WebhookEvent.key events) : Keyed WebhookEvent.id rows ∧ Keyed WebhookEvent.key rows := by
  have first := congrArg (List.map Prod.fst) same
  have second := congrArg (List.map Prod.snd) same
  rw [List.map_map,List.map_map] at first second
  constructor
  · unfold Keyed
    exact first.symm ▸ ids
  · unfold Keyed
    exact second.symm ▸ keys

-- A token that a claim does not write is where it was.
theorem claim_other {row : WebhookEvent} (member : row ∈ (claim events id tenantId now claimToken).1)
    (other : row.claimToken ≠ some claimToken) : row ∈ events := by
  obtain ⟨old,before,changed⟩ := mem_updateWhere.mp member
  split at changed
  · exact absurd (changed ▸ rfl) other
  · exact changed ▸ before

theorem claim_own {row : WebhookEvent} (unheld : ∀ row ∈ events, row.claimToken ≠ some claimToken)
    (member : row ∈ (claim events id tenantId now claimToken).1) (own : row.claimToken = some claimToken) :
    row.status = .processing ∧ row.id = id := by
  obtain ⟨old,before,changed⟩ := mem_updateWhere.mp member
  split at changed
  · rename_i selected
    subst changed
    exact ⟨rfl,(claimable_of selected).1⟩
  · subst changed
    exact absurd own (unheld old before)

theorem claim_processed {row : WebhookEvent} (member : row ∈ events) (processed : row.status = .processed) :
    row ∈ (claim events id tenantId now claimToken).1 := by
  apply mem_updateWhere_other member
  cases selected : claimable id tenantId now row with
  | false => rfl
  | true => exact absurd processed (claimable_of selected).2

theorem markStatus_other {row : WebhookEvent}
    (member : row ∈ (markStatus events id status processedAt tenantId claimToken).1)
    (other : row.claimToken ≠ some claimToken) : row ∈ events := by
  obtain ⟨old,before,changed⟩ := mem_updateWhere.mp member
  split at changed
  · rename_i selected
    subst changed
    exact absurd (holds_of selected).2 other
  · exact changed ▸ before

-- A mark leaves every token where it is.
theorem markStatus_token {row : WebhookEvent}
    (member : row ∈ (markStatus events id status processedAt tenantId claimToken).1) :
    ∃ old ∈ events, old.id = row.id ∧ old.claimToken = row.claimToken := by
  obtain ⟨old,before,changed⟩ := mem_updateWhere.mp member
  split at changed
  all_goals subst changed; exact ⟨old,before,rfl,rfl⟩

theorem markStatus_kept {row : WebhookEvent} (member : row ∈ events) (other : row.claimToken ≠ some claimToken) :
    row ∈ (markStatus events id status processedAt tenantId claimToken).1 :=
  mem_updateWhere_other member (holds_eq_false other)

theorem markStatus_marked (marked : (markStatus events id status processedAt tenantId claimToken).2 = true) :
    ∃ row ∈ events, row.id = id ∧ row.claimToken = some claimToken ∧
      row.mark status processedAt ∈ (markStatus events id status processedAt tenantId claimToken).1 := by
  obtain ⟨row,member,held⟩ := List.any_eq_true.mp marked
  exact ⟨row,member,(holds_of held).1,(holds_of held).2,mem_updateWhere_self member held⟩

end Payable.Webhooks
