import Payable.Charges.ChargeAction
import Payable.Foundation.Tables
import Payable.Idempotency.Effects

namespace Payable.Charges
open Tables Runs

-- A response that charge accepts and handle books in the currency that was asked for.
def inScope (purchases : RetainedPurchases) (input : ChargeInput) (method : PaymentMethodReference) (channelId : Int)
    (transaction : TmtTransactionResponse) : Bool :=
  Domain.IdempotencyKey.isSafeInteger transaction.id && decide (0 < transaction.id) && transaction.transaction_types == some "retained_purchase" &&
    transaction.linked_id == some method.transactionId && transaction.channels == channelId &&
    transaction.total == input.amount.amount &&
    ["complete","failed","expired","pending"].contains transaction.status &&
    (purchases.registry (purchases.toUpperCase transaction.currencies)).any fun currency =>
      currency.code == method.currency && (purchases.registry (purchases.toUpperCase currency.code)).any fun resolved =>
        resolved.exponent == requiredCurrencyExponent && resolved.code == input.amount.currency

def isPosted (s : State) (caller : Nat) : Bool := s.posted.any (·.caller == caller)

-- A POST that took effect is either lost or answered in scope; after a lost one the
-- decline look-up answers and does not list the payment method; after an effective one
-- the payments repository answers; and a takeOver only matches a failed record that has
-- expired.
def careful (deps : Deps) (s : State) : Action → Bool
  | .replied caller effective reply =>
    match s.charges caller,reply with
    | some ⟨_,.posting _ _ _⟩,.threw => true
    | some ⟨input,.posting _ method channelId⟩,.transaction response =>
      !effective || inScope deps.purchases (chargeInput input) method channelId response
    | some ⟨_,.posting _ _ _⟩,_ => !effective
    | some ⟨_,.rechecking method⟩,.declines transactions =>
      !isPosted s caller || !transactions.contains method.transactionId
    | some ⟨_,.rechecking _⟩,_ => !isPosted s caller
    | _,_ => true
  | .payments caller fault =>
    !isPosted s caller || fault == .none && match s.charges caller with
      | some ⟨input,.creating customerId dto⟩ => (create s.payments (newPayment deps caller input customerId dto)).isSome
      | _ => true
  | .store caller _ =>
    (s.idempotency.calls caller).all fun call =>
      match call.phase,s.idempotency.rows call.slot with
      | .takingOver _ _,some row =>
        !Idempotency.claimable s.idempotency.now row ||
          row.status == .failed && Idempotency.isExpired s.idempotency.now row
      | _,_ => true
  | _ => true

def Careful (deps : Deps) (s : State) (action : Action) : Prop := careful deps s action = true

instance (s : State) (action : Action) : Decidable (Careful deps s action) := inferInstanceAs (Decidable (_ = _))

-- The phases of run, between its start and its end.
def Phase.charging : Phase → Bool
  | .channel _ _ | .vault _ _ _ | .active _ _ _ | .posting _ _ _ | .rechecking _ | .finding _ _ | .creating _ _ => true
  | _ => false

-- Where a call whose POST took effect can be.
def Phase.paid : Phase → Bool
  | .rechecking _ | .finding _ _ | .creating _ _ | .returned _ | .crashed => true
  | .thrown error => isFailureOutcomeUncertain error
  | _ => false

def Held (row : Idempotency.Record Payment) : Prop := row.status ≠ .failed ∨ row.expiresAt = none

def Done (s : State) (caller : Nat) : Prop := ∃ post ∈ s.posted, post.caller = caller

structure Charging (deps : Deps) (s : State) : Prop where
  effects : Idempotency.Effects Held (Done s) s.idempotency
  unique : Keyed Posted.caller s.posted
  keys : ∀ post ∈ s.posted, s.keys post.caller = some post.key
  executions : ∀ caller call, s.idempotency.calls caller = some call →
    ∃ key requestHash, s.keys caller = some key ∧ call.execution = chargeExecution deps key requestHash
  running : ∀ caller charge, s.charges caller = some charge → charge.phase.charging = true →
    ∃ call, s.idempotency.calls caller = some call ∧ call.phase = .running
  paid : ∀ caller, Done s caller → ∃ charge, s.charges caller = some charge ∧ charge.phase.paid = true
  unexpiring : ∀ caller call error expiresAt, Done s caller → s.idempotency.calls caller = some call →
    call.phase = .failing error expiresAt → expiresAt = none

theorem isPosted_done {s : State} : isPosted s caller = true ↔ Done s caller := by
  simp [isPosted,Done]

theorem inScope_chargeResult (accepted : inScope purchases input method channelId transaction = true) :
    ∃ dto, chargeResult purchases input method channelId transaction = .ok dto ∧
      dto.amount.currency = input.amount.currency := by
  simp only [inScope,Bool.and_eq_true,decide_eq_true_eq,beq_iff_eq,Option.any_eq_true,List.contains_iff_mem] at accepted
  obtain ⟨⟨⟨⟨⟨⟨⟨safe,positive⟩,types⟩,linked⟩,channels⟩,total⟩,named⟩,currency,registered,code,resolved,again,exponent,asked⟩ :=
    accepted
  have normal : purchases.normalize transaction.currencies = .ok method.currency := by
    simp [RetainedPurchases.normalize,RetainedPurchases.resolve,registered,code,Except.map]
  have money : trustMyTravelMoney purchases transaction.total transaction.currencies =
      .ok ⟨transaction.total,input.amount.currency⟩ := by
    simp [trustMyTravelMoney,normal,← code,RetainedPurchases.resolve,again,exponent,asked,Bind.bind,Except.bind,
      Pure.pure,Except.pure]
  have status : ∃ status, chargeStatus transaction.status = .ok status := by
    simp only [List.mem_cons,List.not_mem_nil,or_false] at named
    rcases named with named | named | named | named <;> rw [named] <;> exact ⟨_,rfl⟩
  obtain ⟨status,known⟩ := status
  have numbered : ¬ transaction.id ≤ 0 := Int.not_le.mpr positive
  refine ⟨⟨toString transaction.id,status,⟨transaction.total,input.amount.currency⟩⟩,?_,rfl⟩
  rw [total] at money
  simp [chargeResult,safe,numbered,types,linked,channels,normal,total,known,money,Bind.bind,Except.bind,Pure.pure,Except.pure]

theorem replied_charging {phase : Phase} (did : replied deps input phase reply = some next)
    (inside : next.charging = true) : phase.charging = true := by
  cases phase with
  | syncing => cases reply <;> cases did <;> cases inside
  | findingCustomer =>
      cases reply with
      | customer customerId => cases customerId <;> cases did <;> cases inside
      | threw => cases did; cases inside
      | malformed | synced | channel | transaction | declines => cases did
  | prepared | returned | thrown | crashed => cases did
  | channel | vault | active | posting | rechecking | finding | creating => rfl

-- After a lost POST the look-up that does not list the payment method leaves the outcome open.
theorem replied_rechecking (did : replied deps input (.rechecking method) (.declines transactions) = some next)
    (unlisted : transactions.contains method.transactionId = false) : next = .thrown .retainedPurchaseOutcomeUncertain := by
  simp only [replied,assertActive,unlisted,Bool.false_eq_true,if_false,thrownOr,Option.some.injEq] at did
  exact did.symm

theorem chargedPhase_paid (accepted : inScope deps.purchases (chargeInput input) method channelId response = true) :
    (chargedPhase deps input customerId method channelId response).paid = true := by
  obtain ⟨dto,charged,currency⟩ := inScope_chargeResult accepted
  have same : dto.amount.currency = input.amount.currency := currency
  simp [chargedPhase,charged,same,Phase.paid]

theorem charging_put {s : State} {charge : Charge} (charging : Charging deps s)
    (inside : charge.phase.charging = true → ∃ call, s.idempotency.calls caller = some call ∧ call.phase = .running)
    (paid : Done s caller → charge.phase.paid = true) : Charging deps (s.put caller charge) := by
  refine ⟨charging.effects,charging.unique,charging.keys,charging.executions,?_,?_,charging.unexpiring⟩
  · intro other its live settling
    by_cases same : other = caller
    · subst same
      have equal : charge = its := Option.some.inj ((Function.update_self other _ s.charges).symm.trans live)
      subst equal
      exact inside settling
    · exact charging.running other its ((Function.update_of_ne same _ _).symm.trans live) settling
  · intro other done
    by_cases same : other = caller
    · subst same
      exact ⟨charge,Function.update_self _ _ _,paid done⟩
    · obtain ⟨its,live,kept⟩ := charging.paid other done
      exact ⟨its,(Function.update_of_ne same _ _).trans live,kept⟩

theorem charging_payments {s : State} (charging : Charging deps s) (payments : List Payment) :
    Charging deps {s with payments := payments} :=
  ⟨charging.effects,charging.unique,charging.keys,charging.executions,charging.running,charging.paid,charging.unexpiring⟩

-- A call of execute moves on, the store with it.
theorem charging_moved {s : State} {call : Idempotency.Call Payment Payment ChargeError}
    {rows : Idempotency.Rows Payment} {phase : Idempotency.Phase Payment Payment ChargeError}
    (charging : Charging deps s) (live : s.idempotency.calls caller = some call)
    (effects : Idempotency.Effects Held (Done s) {s.idempotency.put caller {call with phase := phase} with rows := rows})
    (idle : ∀ charge, s.charges caller = some charge → charge.phase.charging = false)
    (mine : Done s caller → ∀ error expiresAt, phase = .failing error expiresAt → expiresAt = none) :
    Charging deps (s.withIdempotency {s.idempotency.put caller {call with phase := phase} with rows := rows}) := by
  refine ⟨effects,charging.unique,charging.keys,?_,?_,charging.paid,?_⟩
  · intro other its alive
    by_cases same : other = caller
    · subst same
      have equal := Option.some.inj ((Idempotency.put_self s.idempotency).symm.trans alive)
      subst equal
      exact charging.executions other call live
    · exact charging.executions other its ((Idempotency.put_other s.idempotency same).symm.trans alive)
  · intro other charge alive inside
    by_cases same : other = caller
    · subst same
      simp [idle charge alive] at inside
    · obtain ⟨its,before,still⟩ := charging.running other charge alive inside
      exact ⟨its,(Idempotency.put_other s.idempotency same).trans before,still⟩
  · intro other its error expiresAt done alive failing
    by_cases same : other = caller
    · subst same
      have equal := Option.some.inj ((Idempotency.put_self s.idempotency).symm.trans alive)
      subst equal
      exact mine done error expiresAt failing
    · exact charging.unexpiring other its error expiresAt done
        ((Idempotency.put_other s.idempotency same).symm.trans alive) failing

theorem charging_holds {s : State} (charging : Charging deps s) :
    Idempotency.FailsHeld Held (Done s) s.idempotency (.store caller fault : Idempotency.Action Payment ChargeError) :=
  fun call error expiresAt done live failing _ _ => .inr (charging.unexpiring caller call error expiresAt done live failing)

theorem charging_idle {s : State} (charging : Charging deps s) (live : s.idempotency.calls caller = some call)
    (waiting : call.phase ≠ .running) : ∀ charge, s.charges caller = some charge → charge.phase.charging = false := by
  intro charge alive
  by_contra inside
  obtain ⟨its,there,running⟩ := charging.running caller charge alive (by simpa using inside)
  rw [live,Option.some.injEq] at there
  exact waiting (there ▸ running)

-- Under reconciliation-required a failure whose outcome is open never expires.
theorem failedTtlMs_none {call : Idempotency.Call Payment Payment ChargeError}
    (known : call.execution = chargeExecution deps key requestHash) :
    call.policy.failedTtlMs = none := by
  simp [Idempotency.Call.policy,known,chargeExecution,Idempotency.resolvePolicy]

theorem failureTtlMs_none {call : Idempotency.Call Payment Payment ChargeError}
    (known : call.execution = chargeExecution deps key requestHash) (uncertain : isFailureOutcomeUncertain error = true) :
    Idempotency.failureTtlMs call.execution call.policy error = none := by
  have policy := failedTtlMs_none known
  simp [Idempotency.failureTtlMs,known,chargeExecution,uncertain,policy]

theorem localStep_failing (did : Idempotency.localStep caller call now = some (.failing error expiresAt)) :
    expiresAt = Idempotency.failedExpiresAt now call.policy.failedTtlMs := by
  unfold Idempotency.localStep at did
  cases phase : call.phase with
  | verified result acknowledged found =>
      simp only [phase] at did
      repeat' split at did
      all_goals cases did
      all_goals rfl
  | readLegacy rest legacy =>
      simp only [phase] at did
      split at did
      · cases did
      · cases did
      · cases rest <;> cases did
  | read | reread =>
      simp only [phase] at did
      repeat' split at did
      all_goals cases did
  | readingLegacy | reading | acquiring | rereading | takingOver | running | completing | verifying | failing
  | returned | thrown | crashed => simp [phase] at did

theorem charging_store {s : State} (charging : Charging deps s) (careful : Careful deps s (.store caller fault))
    (moved : Idempotency.advance some s.idempotency (.store caller fault) = some idempotency) :
    Charging deps (s.withIdempotency idempotency) := by
  have step := Idempotency.advance_step moved
  have spent : Idempotency.TakesOverSpent Held s.idempotency
      (.store caller fault : Idempotency.Action Payment ChargeError) := by
    intro call lockedUntil existing row live before taken open_
    have ended : row.status = .failed ∧ Idempotency.isExpired s.idempotency.now row = true := by
      simpa [Careful,Charges.careful,live,before,taken,open_] using careful
    refine ⟨ended.1,?_⟩
    rintro (unfailed | unexpiring)
    · exact unfailed ended.1
    · simp [Idempotency.isExpired,unexpiring] at ended
  have effects := Idempotency.effects_preserved charging.effects (fun _ => .inl) spent (charging_holds charging) step
  cases step with
  | store live did =>
      refine charging_moved charging live effects (charging_idle charging live (Idempotency.stored_idle did)) ?_
      intro _ error expiresAt failing
      subst failing
      cases did

theorem charging_compute {s : State} (charging : Charging deps s)
    (moved : Idempotency.advance some s.idempotency (.compute caller) = some idempotency) :
    Charging deps (s.withIdempotency idempotency) := by
  have step := Idempotency.advance_step moved
  have effects := Idempotency.effects_preserved charging.effects (fun _ => .inl) (by trivial) (by trivial) step
  cases step with
  | compute live did =>
      refine charging_moved charging live effects (charging_idle charging live (Idempotency.localStep_waiting did)) ?_
      intro _ error expiresAt failing
      subst failing
      obtain ⟨_,_,_,known⟩ := charging.executions caller _ live
      rw [localStep_failing did,failedTtlMs_none known]
      rfl

-- run settles; a call whose POST took effect throws nothing but an uncertain error.
theorem charging_settle {s : State} {outcome : Except ChargeError Payment} (charging : Charging deps s)
    (finished : ∀ charge, s.charges caller = some charge → charge.phase.charging = false)
    (answered : Done s caller → ∀ error, outcome = .error error → isFailureOutcomeUncertain error = true)
    (moved : Idempotency.advance some s.idempotency (.settle caller outcome) = some idempotency) :
    Charging deps (s.withIdempotency idempotency) := by
  have step := Idempotency.advance_step moved
  have effects := Idempotency.effects_preserved charging.effects (fun _ => .inl) (by trivial) (by trivial) step
  cases step with
  | settle live did =>
      refine charging_moved charging live effects finished ?_
      intro done error expiresAt failing
      subst failing
      obtain ⟨_,_,_,known⟩ := charging.executions caller _ live
      have running := Idempotency.settleStep_running did
      cases outcome with
      | ok payment =>
          simp only [Idempotency.settleStep,running] at did
          cases did
      | error thrown =>
          simp only [Idempotency.settleStep,running] at did
          cases did
          rw [failureTtlMs_none known (answered done thrown rfl)]
          rfl

theorem charging_begin {s : State} (charging : Charging deps s) (fresh : s.keys caller = none)
    (outside : ∀ charge, s.charges caller = some charge → charge.phase.charging = false)
    (moved : Idempotency.advance some s.idempotency
      (.begin caller service (chargeExecution deps key requestHash)) = some idempotency) :
    Charging deps ((s.withIdempotency idempotency).withKey caller key) := by
  have step := Idempotency.advance_step moved
  have effects := Idempotency.effects_preserved charging.effects (fun _ => .inl) (by trivial) (by trivial) step
  cases step with
  | begin unbegun =>
      refine ⟨effects,charging.unique,?_,?_,?_,charging.paid,?_⟩
      · intro post member
        have elsewhere : post.caller ≠ caller := by
          intro same
          simp [← same,charging.keys post member] at fresh
        exact (Function.update_of_ne elsewhere _ _).trans (charging.keys post member)
      · intro other call live
        by_cases same : other = caller
        · subst same
          have equal := Option.some.inj ((Idempotency.put_self s.idempotency).symm.trans live)
          subst equal
          exact ⟨key,requestHash,Function.update_self _ _ _,rfl⟩
        · obtain ⟨its,hash,known,same'⟩ :=
            charging.executions other call ((Idempotency.put_other s.idempotency same).symm.trans live)
          exact ⟨its,hash,(Function.update_of_ne same _ _).trans known,same'⟩
      · intro other charge alive inside
        by_cases same : other = caller
        · subst same
          simp [outside charge alive] at inside
        · obtain ⟨its,there,still⟩ := charging.running other charge alive inside
          exact ⟨its,(Idempotency.put_other s.idempotency same).trans there,still⟩
      · intro other call error expiresAt done live failing
        by_cases same : other = caller
        · subst same
          have equal := Option.some.inj ((Idempotency.put_self s.idempotency).symm.trans live)
          subst equal
          cases failing
        · exact charging.unexpiring other call error expiresAt done
            ((Idempotency.put_other s.idempotency same).symm.trans live) failing

-- A call that has not reached run has not posted.
theorem charging_unpaid {s : State} (charging : Charging deps s) (live : s.charges caller = some charge)
    (unpaid : charge.phase.paid = false) : ¬ Done s caller := by
  intro done
  obtain ⟨its,alive,paid⟩ := charging.paid caller done
  rw [live,Option.some.injEq] at alive
  subst alive
  simp [unpaid] at paid

theorem charging_execute {s next : State} (charging : Charging deps s) (moved : execute deps s caller = some next) :
    Charging deps next := by
  unfold execute at moved
  split at moved
  · rename_i input customerId live fresh
    have unposted : ¬ Done s caller := charging_unpaid charging live rfl
    split at moved
    · cases moved
      exact charging_put charging (by simp [Phase.charging]) (fun done => (unposted done).elim)
    · cases moved
      exact charging_put charging (by simp [Phase.charging]) (fun done => (unposted done).elim)
    · cases moved
    · obtain ⟨idempotency,began,same⟩ := Option.map_eq_some_iff.mp moved
      cases same
      refine charging_begin charging fresh ?_ began
      intro charge alive
      rw [live,Option.some.injEq] at alive
      subst alive
      rfl
  · cases moved

-- The answer of a request that charged nothing, or whose charge is booked apart.
theorem charging_answered {s : State} {input : ChargeActionInput} {phase next : Phase} (charging : Charging deps s)
    (careful : Careful deps s (.replied caller effective reply)) (live : s.charges caller = some ⟨input,phase⟩)
    (did : replied deps input phase reply = some next) : Charging deps (s.put caller ⟨input,next⟩) := by
  refine charging_put charging ?_ ?_
  · intro inside
    exact charging.running caller _ live (replied_charging did inside)
  · intro done
    obtain ⟨charge,alive,paid⟩ := charging.paid caller done
    rw [live,Option.some.injEq] at alive
    subst alive
    cases phase with
    | rechecking method =>
        have posted := isPosted_done.mpr done
        cases reply with
        | declines transactions =>
            have unlisted : transactions.contains method.transactionId = false := by
              simpa [Careful,Charges.careful,live,posted] using careful
            rw [replied_rechecking did unlisted]
            rfl
        | threw | malformed | synced | customer | channel | transaction =>
            simp [Careful,Charges.careful,live,posted] at careful
    | finding | creating | returned | thrown | crashed => cases did
    | syncing | findingCustomer | prepared | channel | vault | active | posting => cases paid

theorem posting_paid {s : State} {input : ChargeActionInput} (careful : Careful deps s (.replied caller true reply))
    (live : s.charges caller = some ⟨input,.posting customerId method channelId⟩)
    (did : replied deps input (.posting customerId method channelId) reply = some next) : next.paid = true := by
  cases reply with
  | threw => cases did; rfl
  | transaction response =>
      have accepted : inScope deps.purchases (chargeInput input) method channelId response = true := by
        simpa [Careful,Charges.careful,live] using careful
      cases did
      exact chargedPhase_paid accepted
  | malformed | synced | customer | channel | declines => simp [Careful,Charges.careful,live] at careful

-- The POST takes effect while the record is held for its caller alone.
theorem charging_posted {s : State} (charging : Charging deps s) (live : s.charges caller = some charge)
    (unpaid : charge.phase.paid = false) (there : s.idempotency.calls caller = some call)
    (inside : call.phase = .running) (known : s.keys caller = some key) (paid : after.phase.paid = true)
    (before : Charging deps (s.put caller after)) :
    Charging deps {s.put caller after with posted := s.posted ++ [⟨caller,key⟩]} := by
  have unspent : ∀ post ∈ s.posted, post.caller ≠ caller :=
    fun post member same => charging_unpaid charging live unpaid ⟨post,member,same⟩
  have effects := charging.effects.perform (fun _ => .inl) there inside
  have done : Done {s.put caller after with posted := s.posted ++ [⟨caller,key⟩]} = fun i => Done s i ∨ i = caller := by
    funext i
    simp [Done,or_and_right,exists_or,eq_comm]
  refine ⟨done ▸ effects,keyed_append charging.unique unspent,?_,before.executions,before.running,?_,?_⟩
  · intro post member
    rcases List.mem_append.mp member with old | new
    · exact charging.keys post old
    · cases List.mem_singleton.mp new
      exact known
  · intro other finished
    rw [done] at finished
    rcases finished with old | rfl
    · exact before.paid other old
    · exact ⟨after,Function.update_self _ _ _,paid⟩
  · intro other its error expiresAt finished alive failing
    rw [done] at finished
    rcases finished with old | rfl
    · exact before.unexpiring other its error expiresAt old alive failing
    · cases Option.some.inj (there.symm.trans alive)
      rw [inside] at failing
      cases failing

theorem charging_replied {s next : State} (charging : Charging deps s)
    (careful : Careful deps s (.replied caller effective reply))
    (moved : advance deps s (.replied caller effective reply) = some next) : Charging deps next := by
  simp only [advance,Option.bind_eq_bind,Option.bind_eq_some_iff] at moved
  obtain ⟨⟨input,phase⟩,live,after,did,moved⟩ := moved
  have before := charging_answered charging careful live did
  split at moved
  · rename_i key known
    split at moved
    · rename_i took
      cases moved
      rw [Bool.and_eq_true] at took
      obtain ⟨rfl,posting⟩ := took
      cases phase with
      | posting customerId method channelId =>
          obtain ⟨call,there,inside⟩ := charging.running caller _ live rfl
          exact charging_posted charging live rfl there inside known (posting_paid careful live did) before
      | syncing | findingCustomer | prepared | channel | vault | active | rechecking | finding | creating | returned
      | thrown | crashed => cases posting
    · cases moved
      exact before
  · cases moved
    exact before

theorem charging_run {s next : State} (charging : Charging deps s) (moved : advance deps s (.run caller) = some next) :
    Charging deps next := by
  simp only [advance] at moved
  split at moved
  · rename_i live
    split at moved
    · rename_i inside
      cases moved
      exact charging_put charging (fun _ => Idempotency.isRunning_call inside) (fun done => (charging_unpaid charging live rfl done).elim)
    · cases moved
  · cases moved

theorem paymentsStep_phase (did : paymentsStep deps caller input payments fault phase = some (payments',next)) :
    (∃ customerId dto, phase = .finding customerId dto) ∨ ∃ customerId dto, phase = .creating customerId dto := by
  cases phase with
  | finding customerId dto => exact .inl ⟨customerId,dto,rfl⟩
  | creating customerId dto => exact .inr ⟨customerId,dto,rfl⟩
  | syncing | findingCustomer | prepared | channel | vault | active | posting | rechecking | returned | thrown
  | crashed => cases did

-- The repository answers a call whose POST took effect.
theorem paymentsStep_paid (quiet : fault = .none)
    (inserts : ∀ customerId dto, phase = .creating customerId dto →
      (create payments (newPayment deps caller input customerId dto)).isSome = true)
    (did : paymentsStep deps caller input payments fault phase = some (payments',next)) : next.paid = true := by
  subst quiet
  rcases paymentsStep_phase did with ⟨customerId,dto,rfl⟩ | ⟨customerId,dto,rfl⟩
  · simp only [paymentsStep,ne_eq,not_true,if_false,Option.some.injEq,Prod.mk.injEq] at did
    obtain ⟨_,rfl⟩ := did
    split <;> rfl
  · obtain ⟨created,inserted⟩ := Option.isSome_iff_exists.mp (inserts customerId dto rfl)
    simp only [paymentsStep,inserted,if_true] at did
    cases did
    rfl

theorem charging_booked {s next : State} (charging : Charging deps s) (careful : Careful deps s (.payments caller fault))
    (moved : advance deps s (.payments caller fault) = some next) : Charging deps next := by
  simp only [advance,Option.bind_eq_bind,Option.bind_eq_some_iff] at moved
  obtain ⟨⟨input,phase⟩,live,⟨payments,after⟩,did,same⟩ := moved
  cases same
  refine charging_payments (charging_put charging ?_ ?_) payments
  · intro _
    refine charging.running caller _ live ?_
    rcases paymentsStep_phase did with ⟨_,_,rfl⟩ | ⟨_,_,rfl⟩ <;> rfl
  · intro done
    have posted := isPosted_done.mpr done
    have answered := careful
    simp only [Careful,Charges.careful,posted,Bool.not_true,Bool.false_or,Bool.and_eq_true,beq_iff_eq,live] at answered
    refine paymentsStep_paid answered.1 ?_ did
    intro customerId dto creating
    subst creating
    exact answered.2

-- A crash takes the call of handle and its call of execute.
theorem charging_crash {s next : State} (charging : Charging deps s) (moved : advance deps s (.crash caller) = some next) :
    Charging deps next := by
  simp only [advance,Option.bind_eq_bind,Option.bind_eq_some_iff] at moved
  obtain ⟨charge,live,same⟩ := moved
  have put : Charging deps (s.put caller {charge with phase := .crashed}) :=
    charging_put charging (by simp [Phase.charging]) (fun _ => rfl)
  cases begun : s.idempotency.calls caller with
  | none =>
      simp only [Idempotency.advance,begun,Option.bind_eq_bind,Option.bind_none,Option.getD_none] at same
      cases same
      exact put
  | some call =>
      simp only [Idempotency.advance,begun,Option.bind_eq_bind,Option.bind_some,Option.getD_some] at same
      cases same
      have crashed : Idempotency.Step some s.idempotency (.crash caller : Idempotency.Action Payment ChargeError)
          (s.idempotency.put caller {call with phase := .crashed}) := .crash begun
      have effects := Idempotency.effects_preserved put.effects (fun _ => .inl) (by trivial) (by trivial) crashed
      refine charging_moved put begun effects ?_ (by simp)
      intro its alive
      have equal := Option.some.inj ((Function.update_self caller _ s.charges).symm.trans alive)
      subst equal
      rfl

theorem charging_preserved {s next : State} (charging : Charging deps s) (careful : Careful deps s action)
    (moved : advance deps s action = some next) : Charging deps next := by
  cases action with
  | begin caller input =>
      simp only [advance] at moved
      split at moved
      · cases moved
      · rename_i fresh
        cases moved
        refine charging_put charging ?_ ?_
        · intro inside
          unfold beginHandle at inside
          repeat' split at inside
          all_goals cases inside
        · intro done
          obtain ⟨charge,live,_⟩ := charging.paid caller done
          simp [fresh] at live
  | replied caller effective reply => exact charging_replied charging careful moved
  | execute caller => exact charging_execute charging moved
  | store caller fault =>
      obtain ⟨idempotency,moved,same⟩ := Option.map_eq_some_iff.mp moved
      exact same ▸ charging_store charging careful moved
  | compute caller =>
      obtain ⟨idempotency,moved,same⟩ := Option.map_eq_some_iff.mp moved
      exact same ▸ charging_compute charging moved
  | run caller => exact charging_run charging moved
  | payments caller fault => exact charging_booked charging careful moved
  | settle caller =>
      simp only [advance] at moved
      split at moved
      · rename_i live
        obtain ⟨idempotency,moved,same⟩ := Option.map_eq_some_iff.mp moved
        refine same ▸ charging_settle charging ?_ (by simp) moved
        intro charge alive
        cases Option.some.inj (live.symm.trans alive)
        rfl
      · rename_i live
        obtain ⟨idempotency,moved,same⟩ := Option.map_eq_some_iff.mp moved
        refine same ▸ charging_settle charging ?_ ?_ moved
        · intro charge alive
          cases Option.some.inj (live.symm.trans alive)
          rfl
        · intro done error thrown
          cases thrown
          obtain ⟨charge,alive,paid⟩ := charging.paid caller done
          cases Option.some.inj (live.symm.trans alive)
          exact paid
      · cases moved
  | crash caller => exact charging_crash charging moved
  | tick elapsed =>
      cases moved
      exact ⟨⟨charging.effects.running,charging.effects.held⟩,charging.unique,charging.keys,charging.executions,
        charging.running,charging.paid,charging.unexpiring⟩

theorem reached_charging {s : State} (path : Reached (system deps) (Careful deps) s) : Charging deps s := by
  refine path.invariant (Charging deps) ?_ ?_
  · intro u initial
    obtain ⟨payments,now,same⟩ := initial
    subst same
    refine ⟨⟨?_,?_⟩,List.nodup_nil,?_,?_,?_,?_,?_⟩
    · intro caller call live
      cases live
    · intro caller done
      obtain ⟨post,member,_⟩ := done
      cases member
    · intro post member
      cases member
    · intro caller call live
      cases live
    · intro caller charge live
      cases live
    · intro caller done
      obtain ⟨post,member,_⟩ := done
      cases member
    · intro caller call error expiresAt done
      obtain ⟨post,member,_⟩ := done
      cases member
  · intro u action next _ charging careful moved
    exact charging_preserved charging careful moved

-- However often a charge is retried, one POST for its key takes effect.
theorem charged_once {s : State} (path : Reached (system deps) (Careful deps) s) (key : String) :
    (s.posted.filter (·.key == key)).length ≤ 1 := by
  have charging := reached_charging path
  apply keyed_alone charging.unique
  intro one first other second same same'
  have done : Done s one.caller := ⟨one,first,rfl⟩
  have done' : Done s other.caller := ⟨other,second,rfl⟩
  obtain ⟨call,_,live,_⟩ := charging.effects.held one.caller done
  obtain ⟨call',_,live',_⟩ := charging.effects.held other.caller done'
  refine charging.effects.alone done done' live live' ?_
  obtain ⟨key₁,hash₁,known₁,execution₁⟩ := charging.executions _ call live
  obtain ⟨key₂,hash₂,known₂,execution₂⟩ := charging.executions _ call' live'
  rw [charging.keys one first,Option.some.injEq] at known₁
  rw [charging.keys other second,Option.some.injEq] at known₂
  have equal : key₁ = key₂ := by rw [← known₁,← known₂,beq_iff_eq.mp same,beq_iff_eq.mp same']
  simp [Idempotency.Call.slot,Idempotency.scopedKey,execution₁,execution₂,chargeExecution,equal]

section Schedules

-- No completed record of the slot has expired.
def Unexpired (target : Idempotency.Slot) (s : State) (_ : Action) : Prop :=
  (s.idempotency.rows target).all (fun row =>
    row.status != .completed || !Idempotency.isExpired s.idempotency.now row) = true

instance (s : State) (action : Action) : Decidable (Unexpired target s action) := inferInstanceAs (Decidable (_ = _))

def euro (code : String) : Option Currency := if code = "EUR" then some ⟨"EUR",2⟩ else none

def vaulted : PaymentMethodReference := ⟨7,"site",3,"EUR","trust","live"⟩

def trustMyTravel : Deps :=
  ⟨none,"tmt",false,true,some (Idempotency.Service.create ⟨none,none,none,none⟩),
    ⟨9,"EUR","live","site",Text.asciiUpperCase,euro,fun sealed_ => if sealed_ = "pm" then some vaulted else none⟩,fun _ => 0⟩

def booking : ChargeActionInput :=
  ⟨⟨"user","1"⟩,⟨40,"EUR"⟩,some "trip",none,some "pm",some true,some ⟨some [some ⟨1,"EUR",40⟩],false⟩,none⟩

def chargeKey40 : String := "charge::tmt:user:1:trip:40:EUR"

def asked (caller : Nat) : List Action :=
  [.begin caller booking,.replied caller false (.synced "cus"),.replied caller false (.customer (some "c1")),.execute caller]

def untilPost (caller : Nat) : List Action :=
  [.run caller,.replied caller false (.channel ⟨9,"EUR","trust","live"⟩),
    .replied caller false (.transaction ⟨7,"complete",0,"EUR",3,some "vault",none⟩),.replied caller false (.declines [])]

def acquires (caller : Nat) : List Action := [.store caller .none,.compute caller,.store caller .none]

def answeredPost (caller : Nat) (transactionId : Int) : Action :=
  .replied caller true (.transaction ⟨transactionId,"complete",40,"EUR",9,some "retained_purchase",some 7⟩)

-- The POST takes effect, its response is lost and the decline look-up fails as well.
def lookUpFails : List Action :=
  [asked 0,acquires 0,untilPost 0,[.replied 0 true .threw,.replied 0 false .threw,.settle 0,.store 0 .none],
  asked 1,acquires 1,acquires 1,untilPost 1,[answeredPost 1 12]].flatten

-- The response arrives, but the local payment cannot be created.
def createFails : List Action :=
  [asked 0,acquires 0,untilPost 0,
    [answeredPost 0 11,.payments 0 .none,.payments 0 .lost,.settle 0,.store 0 .none],
  asked 1,acquires 1,acquires 1,untilPost 1,[answeredPost 1 12]].flatten

theorem started_initial (payments : List Payment) (now : Int) : (system deps).initial (started payments now) :=
  ⟨payments,now,rfl⟩

def postedTwice (s : State) : Bool := (s.posted.filter (·.key == chargeKey40)).length == 2

theorem charged_twice :
    (∃ s : State, Reached (system trustMyTravel) (Unexpired ⟨"","payment:" ++ chargeKey40⟩) s ∧
      s.payments = [] ∧ (s.posted.filter (·.key == chargeKey40)).length = 2) ∧
    ∃ s : State, Reached (system trustMyTravel) (Unexpired ⟨"","payment:" ++ chargeKey40⟩) s ∧
      (s.charges 0).any (fun charge => charge.phase matches .thrown .storage) = true ∧
        (s.posted.filter (·.key == chargeKey40)).length = 2 := by
  constructor
  · have passed : (run (system trustMyTravel) (Unexpired ⟨"","payment:" ++ chargeKey40⟩) (started [] 0) lookUpFails).any
        (fun s => decide (s.payments = []) && postedTwice s) = true := by decide +kernel
    obtain ⟨s,path,found⟩ := run_reaches (started_initial [] 0) passed
    exact ⟨s,path,by simpa [postedTwice] using found⟩
  · have passed : (run (system trustMyTravel) (Unexpired ⟨"","payment:" ++ chargeKey40⟩) (started [] 0) createFails).any
        (fun s => (s.charges 0).any (fun charge => charge.phase matches .thrown .storage) && postedTwice s) = true := by
      decide
    obtain ⟨s,path,found⟩ := run_reaches (started_initial [] 0) passed
    exact ⟨s,path,by simpa [postedTwice] using found⟩

-- The lost POST is left for reconciliation: the retry is refused by the record.
def reconciled : List Action :=
  [asked 0,acquires 0,untilPost 0,
    [.replied 0 true .threw,.replied 0 false (.declines []),.settle 0,.store 0 .none,.tick 90000000],
  asked 1,[.store 1 .none,.compute 1]].flatten

theorem charged_once_reconciled :
    ∃ s : State, s.posted.length = 1 ∧ (s.posted.filter (·.key == chargeKey40)).length ≤ 1 := by
  have passed : (run (system trustMyTravel) (Careful trustMyTravel) (started [] 0) reconciled).any
      (fun s => s.posted.length == 1) = true := by decide +kernel
  obtain ⟨s,path,found⟩ := run_reaches (started_initial [] 0) passed
  exact ⟨s,by simpa using found,charged_once path chargeKey40⟩

end Schedules

end Payable.Charges
