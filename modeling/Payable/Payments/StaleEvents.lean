import Payable.Payments.Writers

namespace Payable.Payments.StaleEvents
open Domain Refunds

-- A verified event: what reconcilePayment reads off it, and when it occurred.
structure VerifiedWebhook where
  dto : Option PaymentWebhookReconciliation
  occurredAt : Int

-- One processing alone: the read, then the write it decides on.
def reconcileWebhookPayment (providerName : String) (row : Row) (verified : VerifiedWebhook) : Row :=
  match verified.dto with
  | none => row
  | some dto =>
    match webhookStep providerName dto verified.occurredAt row .reading with
    | some (read,.writing found status) =>
      ((webhookStep providerName dto verified.occurredAt read (.writing found status)).map (·.1)).getD read
    | _ => row

-- latest is when the latest event occurred of those that changed the payment.
structure Delivered where
  row : Row
  latest : Option Int

def deliver (providerName : String) (s : Delivered) (verified : VerifiedWebhook) : Delivered :=
  let row := reconcileWebhookPayment providerName s.row verified
  ⟨row,if row.payment.status = s.row.payment.status then s.latest
    else some (s.latest.elim verified.occurredAt (max verified.occurredAt))⟩

def Stale (s : Delivered) (verified : VerifiedWebhook) : Prop := ∃ latest, s.latest = some latest ∧ verified.occurredAt < latest

def Unmoved (providerName : String) (row : Row) (verified : VerifiedWebhook) : Prop :=
  (reconcileWebhookPayment providerName row verified).payment.status = row.payment.status

-- Whatever is delivered, an event that is stale when it comes leaves the status alone.
def StaleKept (providerName : String) (row : Row) (deliveries : List VerifiedWebhook) : Prop :=
  ∀ before verified after, deliveries = before ++ verified :: after →
    Stale (before.foldl (deliver providerName) ⟨row,none⟩) verified →
      Unmoved providerName (before.foldl (deliver providerName) ⟨row,none⟩).row verified

-- The part of a row that decides on its next status.
structure Standing where
  status : PaymentStatus
  authorized : Bool
  deriving DecidableEq

def standing (row : Row) : Standing := ⟨row.payment.status,row.authorizedAt.isSome⟩

-- The payment map, less the authorization that has been superseded.
def follows (at_ : Standing) (status : PaymentStatus) : Option Standing :=
  if status = .authorized ∧ at_.status = .failed ∧ at_.authorized = true then none
  else (at_.status.tryTransitionTo status).map fun next => ⟨next,at_.authorized || next == .authorized⟩

-- The status an event brings to the payment, where it is about that payment.
def brings (providerName : String) (row : Row) (verified : VerifiedWebhook) : Option PaymentStatus :=
  (verified.dto.filter fun dto => findByProviderId providerName dto.providerPaymentId row).map (·.status)

-- What the statuses of a set of events can make of a payment, whatever their times.
inductive Attains (brought : PaymentStatus → Prop) (start : Standing) : Standing → Prop
  | start : Attains brought start start
  | step (before : Attains brought start at_) (member : brought status) (moves : follows at_ status = some next) :
      Attains brought start next

def Brought (providerName : String) (row : Row) (events : List VerifiedWebhook) (status : PaymentStatus) : Prop :=
  ∃ verified ∈ events, brings providerName row verified = some status

-- No event that can be applied right after another, wherever the statuses lead, is older than it.
def InOrder (providerName : String) (row : Row) (events : List VerifiedWebhook) : Prop :=
  ∀ at_, Attains (Brought providerName row events) (standing row) at_ →
    ∀ first ∈ events, ∀ second ∈ events, ∀ status middle status' last,
      brings providerName row first = some status → follows at_ status = some middle →
      brings providerName row second = some status' → follows middle status' = some last →
        first.occurredAt ≤ second.occurredAt

theorem tryTransitionTo_changes {state target next : PaymentStatus} (moved : state.tryTransitionTo target = some next) :
    next ≠ state := by
  cases state <;> cases target <;> cases moved <;> exact PaymentStatus.noConfusion

theorem follows_changes (moves : follows at_ status = some next) : next.status ≠ at_.status := by
  unfold follows at moves
  split at moves
  · cases moves
  · obtain ⟨status',tried,rfl⟩ := Option.map_eq_some_iff.mp moves
    exact tryTransitionTo_changes tried

-- One processing of an event: the row stays, or goes where the map leads.
inductive Reconciled (providerName : String) (row : Row) (verified : VerifiedWebhook) : Row → Prop
  | stays (none_ : (brings providerName row verified).bind (follows (standing row)) = none) :
      Reconciled providerName row verified row
  | moves (brought : brings providerName row verified = some status) (leads : follows (standing row) status = some next)
      (noted : authorizedAt.isSome = next.authorized) :
      Reconciled providerName row verified {row.update next.status with authorizedAt := authorizedAt}

theorem reconcile_cases (providerName : String) (row : Row) (verified : VerifiedWebhook) :
    Reconciled providerName row verified (reconcileWebhookPayment providerName row verified) := by
  unfold reconcileWebhookPayment
  cases has : verified.dto with
  | none => exact .stays (by simp [brings,has])
  | some dto =>
      by_cases mine : findByProviderId providerName dto.providerPaymentId row = true
      · have brought : brings providerName row verified = some dto.status := by simp [brings,has,mine]
        have same := beq_iff_eq.mp (Bool.and_eq_true_iff.mp mine).2
        by_cases superseded : isSupersededAuthorization row dto.status dto.providerPaymentId = true
        · have guard := superseded
          simp only [isSupersededAuthorization,Bool.and_eq_true,beq_iff_eq] at guard
          simp only [webhookStep,mine,superseded]
          refine .stays ?_
          rw [brought]
          exact if_pos ⟨guard.1.1.1,guard.1.1.2,guard.1.2⟩
        · have open_ : ¬ (dto.status = .authorized ∧ row.payment.status = .failed ∧ row.authorizedAt.isSome = true) := by
            intro guard
            exact superseded (by simp [isSupersededAuthorization,guard,same])
          cases tried : row.payment.status.tryTransitionTo dto.status with
          | none =>
              simp only [webhookStep,mine,superseded,tried]
              refine .stays ?_
              rw [brought]
              exact (if_neg open_).trans (congrArg _ tried)
          | some status =>
              simp only [webhookStep,mine,superseded,tried]
              refine .moves brought ((if_neg open_).trans (congrArg _ tried)) ?_
              show _ = (row.authorizedAt.isSome || status == .authorized)
              cases row.authorizedAt <;> by_cases authorized : status = .authorized <;> simp [authorized]
      · simp only [webhookStep,Bool.not_eq_true _ ▸ mine]
        exact .stays (by simp [brings,has,mine])

theorem reconcile_standing (providerName : String) (row : Row) (verified : VerifiedWebhook) :
    standing (reconcileWebhookPayment providerName row verified) =
      ((brings providerName row verified).bind (follows (standing row))).getD (standing row) := by
  have did := reconcile_cases providerName row verified
  generalize reconcileWebhookPayment providerName row verified = after at did
  cases did with
  | stays none_ => rw [none_]; rfl
  | moves brought leads noted =>
      rw [brought,Option.bind_some,leads]
      exact congrArg (Standing.mk _) noted

-- An event never changes which payment it is.
theorem reconcile_brings (providerName : String) (row : Row) (verified : VerifiedWebhook) :
    brings providerName (reconcileWebhookPayment providerName row verified) = brings providerName row := by
  have did := reconcile_cases providerName row verified
  generalize reconcileWebhookPayment providerName row verified = after at did
  cases did with
  | stays | moves => rfl

-- What is delivered so far: the payment stands where the statuses lead, and the latest event is the one applied last.
structure Along (providerName : String) (row : Row) (events : List VerifiedWebhook) (s : Delivered) : Prop where
  payment : brings providerName s.row = brings providerName row
  attains : Attains (Brought providerName row events) (standing row) (standing s.row)
  last : ∀ latest, s.latest = some latest → ∃ first ∈ events, ∃ at_ status,
    Attains (Brought providerName row events) (standing row) at_ ∧ brings providerName row first = some status ∧
      follows at_ status = some (standing s.row) ∧ latest = first.occurredAt

theorem along_deliver (ordered : InOrder providerName row events) (along : Along providerName row events s)
    (member : verified ∈ events) : Along providerName row events (deliver providerName s verified) ∧
      (Stale s verified → Unmoved providerName s.row verified) := by
  have moved := reconcile_standing providerName s.row verified
  have kept := reconcile_brings providerName s.row verified
  rw [along.payment] at moved
  cases brought : (brings providerName row verified).bind (follows (standing s.row)) with
  | none =>
      rw [brought] at moved
      have unmoved : Unmoved providerName s.row verified := congrArg Standing.status moved
      refine ⟨⟨kept.trans along.payment,?_,?_⟩,fun _ => unmoved⟩
      · show Attains _ _ (standing (reconcileWebhookPayment providerName s.row verified))
        rw [moved]
        exact along.attains
      · intro latest its
        have before : s.latest = some latest := (if_pos unmoved).symm.trans its
        show ∃ first ∈ events, ∃ at_ status, _ ∧ _ ∧ _ = some (standing (reconcileWebhookPayment providerName s.row verified)) ∧ _
        rw [moved]
        exact along.last latest before
  | some next =>
      rw [brought] at moved
      obtain ⟨status,brings_,leads⟩ := Option.bind_eq_some_iff.mp brought
      have moves : standing (reconcileWebhookPayment providerName s.row verified) = next := moved
      have changed : ¬ Unmoved providerName s.row verified :=
        fun same => follows_changes leads ((congrArg Standing.status moves).symm.trans same)
      -- The event applied last leads here, so it is not younger than this one.
      have later : ∀ latest, s.latest = some latest → latest ≤ verified.occurredAt := by
        intro latest its
        obtain ⟨first,inside,at_,status',attains,brings',before,rfl⟩ := along.last latest its
        exact ordered at_ attains first inside verified member status' _ status next brings' before brings_ leads
      refine ⟨⟨kept.trans along.payment,?_,?_⟩,?_⟩
      · exact moves ▸ .step along.attains ⟨verified,member,brings_⟩ leads
      · intro latest its
        refine ⟨verified,member,standing s.row,status,along.attains,brings_,moves ▸ leads,?_⟩
        have now : some (s.latest.elim verified.occurredAt (max verified.occurredAt)) = some latest :=
          (if_neg changed).symm.trans its
        cases before : s.latest with
        | none => simpa [before] using now.symm
        | some earlier =>
            have least := later earlier before
            have is : max verified.occurredAt earlier = latest := by simpa [before] using now
            omega
      · rintro ⟨latest,its,older⟩
        exact absurd (later latest its) (not_le.mpr older)

theorem along_run (ordered : InOrder providerName row events) (along : Along providerName row events s)
    (deliveries : List VerifiedWebhook) (members : ∀ verified ∈ deliveries, verified ∈ events) :
    Along providerName row events (deliveries.foldl (deliver providerName) s) := by
  induction deliveries generalizing s with
  | nil => exact along
  | cons verified rest ih =>
      have next := (along_deliver ordered along (members verified List.mem_cons_self)).1
      exact ih next fun other inside => members other (List.mem_cons_of_mem _ inside)

-- Wherever the statuses lead, some order of the events brings the payment there.
theorem attained_delivered (attained : Attains (Brought providerName row events) (standing row) at_) :
    ∃ deliveries : List VerifiedWebhook, (∀ verified ∈ deliveries, verified ∈ events) ∧
      standing (deliveries.foldl (deliver providerName) ⟨row,none⟩).row = at_ ∧
      brings providerName (deliveries.foldl (deliver providerName) ⟨row,none⟩).row = brings providerName row := by
  induction attained with
  | start => exact ⟨[],by simp,rfl,rfl⟩
  | step _ brought moves ih =>
      obtain ⟨deliveries,members,rfl,same⟩ := ih
      obtain ⟨verified,member,brings_⟩ := brought
      refine ⟨deliveries ++ [verified],?_,?_,?_⟩
      · intro other inside
        rcases List.mem_append.mp inside with before | last
        · exact members other before
        · exact List.mem_singleton.mp last ▸ member
      · rw [List.foldl_concat]
        have moved := reconcile_standing providerName (deliveries.foldl (deliver providerName) ⟨row,none⟩).row verified
        rw [same,brings_,Option.bind_some,moves] at moved
        exact moved
      · rw [List.foldl_concat]
        exact (reconcile_brings providerName _ verified).trans same

-- In whatever order a payment's events are delivered, with whatever repetitions, no stale one moves it: exactly where
-- the statuses lead nowhere from which an event can be applied and an older one after it.
theorem stale_events_kept (providerName : String) (row : Row) (events : List VerifiedWebhook) :
    (∀ deliveries, (∀ verified ∈ deliveries, verified ∈ events) → StaleKept providerName row deliveries) ↔
      InOrder providerName row events := by
  constructor
  · intro kept at_ attained first member second member' status middle status' last brings_ moves brings' moves'
    obtain ⟨deliveries,members,rfl,same⟩ := attained_delivered attained
    by_contra younger
    have older : second.occurredAt < first.occurredAt := not_le.mp younger
    let s := deliveries.foldl (deliver providerName) ⟨row,none⟩
    have here : standing (reconcileWebhookPayment providerName s.row first) = middle := by
      rw [reconcile_standing,same,brings_,Option.bind_some,moves]
      rfl
    have changed : (reconcileWebhookPayment providerName s.row first).payment.status ≠ s.row.payment.status := by
      intro its
      exact follows_changes moves ((congrArg Standing.status here).symm.trans its)
    have stale : Stale (deliver providerName s first) second := by
      refine ⟨_,if_neg changed,?_⟩
      cases s.latest with
      | none => exact older
      | some latest => exact lt_of_lt_of_le older (le_max_left _ _)
    have unmoved := kept (deliveries ++ [first,second]) (by
      intro verified inside
      simp only [List.mem_append,List.mem_cons,List.not_mem_nil,or_false] at inside
      rcases inside with before | rfl | rfl
      · exact members verified before
      · exact member
      · exact member') (deliveries ++ [first]) second [] (by simp) (by rw [List.foldl_concat]; exact stale)
    rw [List.foldl_concat] at unmoved
    have there := reconcile_standing providerName (deliver providerName s first).row second
    rw [show (deliver providerName s first).row = reconcileWebhookPayment providerName s.row first from rfl,
      reconcile_brings,same,brings',Option.bind_some,here,moves'] at there
    have final := congrArg Standing.status there
    exact follows_changes moves' (final.symm.trans (unmoved.trans (congrArg Standing.status here)))
  · intro ordered deliveries members before verified after split stale
    have start : Along providerName row events ⟨row,none⟩ := ⟨rfl,.start,by simp⟩
    have along := along_run ordered start before fun other inside =>
      members other (split ▸ List.mem_append_left _ inside)
    exact (along_deliver ordered along (members verified (split ▸ List.mem_append_right _ List.mem_cons_self))).2 stale

def Final (status : PaymentStatus) : Prop :=
  status = .succeeded ∨ status = .partiallyRefunded ∨ status = .refunded ∨ status = .canceled

theorem reachable_final (final : Final before) (reached : Reachable before after) : Final after := by
  obtain ⟨event,moved⟩ := reached
  rcases final with is | is | is | is <;> rw [is] at moved <;> cases event <;> cases moved
  · exact .inr (.inr (.inl rfl))
  · exact .inr (.inl rfl)
  · exact .inr (.inr (.inl rfl))
  · exact .inr (.inl rfl)

theorem reconcile_reachable (providerName : String) (row : Row) (verified : VerifiedWebhook) :
    Unmoved providerName row verified ∨
      Reachable row.payment.status (reconcileWebhookPayment providerName row verified).payment.status := by
  unfold Unmoved reconcileWebhookPayment
  cases verified.dto with
  | none => exact .inl rfl
  | some dto =>
      simp only [webhookStep]
      cases findByProviderId providerName dto.providerPaymentId row with
      | false => exact .inl rfl
      | true =>
          cases isSupersededAuthorization row dto.status dto.providerPaymentId with
          | true => exact .inl rfl
          | false =>
              cases tried : row.payment.status.tryTransitionTo dto.status with
              | none => exact .inl rfl
              | some status => exact .inr (tryTransitionTo_reachable tried)

-- What no event can do, in any order: move a final payment back.
theorem final_kept (providerName : String) (s : Delivered) (events : List VerifiedWebhook)
    (final : Final s.row.payment.status) : Final (events.foldl (deliver providerName) s).row.payment.status := by
  induction events generalizing s with
  | nil => exact final
  | cons verified rest ih =>
      apply ih
      rcases reconcile_reachable providerName s.row verified with same | reached
      · exact (congrArg Final same).mpr final
      · exact reachable_final final reached

section Schedules

def pendingPayment : Delivered := ⟨⟨⟨some "stripe",some "pi_1",.pending,"EUR",100,0,0,none⟩,none⟩,none⟩

def occurred (status : PaymentStatus) (occurredAt : Int) : VerifiedWebhook := ⟨some ⟨"pi_1",status⟩,occurredAt⟩

-- The failure at 10 comes first, then the event of the attempt that failed, from 5.
theorem stale_processing_applied :
    (deliver "stripe" pendingPayment (occurred .failed 10)).row.payment.status = .failed ∧
      Stale (deliver "stripe" pendingPayment (occurred .failed 10)) (occurred .processing 5) ∧
      ¬ Unmoved "stripe" (deliver "stripe" pendingPayment (occurred .failed 10)).row (occurred .processing 5) :=
  ⟨by decide,⟨10,rfl,by decide⟩,by unfold Unmoved; decide⟩

end Schedules

end Payable.Payments.StaleEvents
