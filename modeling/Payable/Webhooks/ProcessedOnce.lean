import Payable.Webhooks.Processing

namespace Payable.Webhooks
open Idempotency (Fault)
open Catalog (CatalogSynchronization updateIfCurrent)
open Runs Tables

-- Before its claim has been sent.
def WorkerPhase.unclaimed : WorkerPhase → Bool
  | .loading | .claiming _ => true
  | _ => false

-- Past its claim, and may still write the event's row.
def WorkerPhase.fenced : WorkerPhase → Bool
  | .cataloging _ _ _ | .pipeline _ _ _ | .failing _ => true
  | _ => false

-- What one awaited call of a worker does to the events and to what is committed.
inductive Worked (s : Inbox) (worker : Nat) (party : Worker) :
    List WebhookEvent → List Transaction → WorkerPhase → Prop where
  | quiet {phase : WorkerPhase} (claims : phase.unclaimed = true → party.phase.unclaimed = true)
      (fences : phase.fenced = true → party.phase.fenced = true) : Worked s worker party s.events [] phase
  | claimed {phase : WorkerPhase} (waiting : party.phase.unclaimed = true) (sent : phase.unclaimed = false) :
      Worked s worker party (claim s.events party.payload.webhookEventId party.payload.tenantId s.now worker).1 [] phase
  | committed {phase : WorkerPhase} (fenced : party.phase.fenced = true) (ended : phase.fenced = false)
      (sent : phase.unclaimed = false) (id : new.webhookEventId = party.payload.webhookEventId) (mine : new.worker = worker)
      (marked : (markStatus s.events party.payload.webhookEventId .processed processedAt party.payload.tenantId worker).2 =
        true) :
      Worked s worker party
        (markStatus s.events party.payload.webhookEventId .processed processedAt party.payload.tenantId worker).1 [new] phase
  | failed {phase : WorkerPhase} (fenced : party.phase.fenced = true) (ended : phase.fenced = false)
      (sent : phase.unclaimed = false) :
      Worked s worker party
        (markStatus s.events party.payload.webhookEventId .failed none party.payload.tenantId worker).1 [] phase

theorem commit_worked {party : Worker} (at_ : party.phase = .pipeline verified processedAt (.mark publishes))
    (acknowledged : fault ≠ .unacknowledged)
    (did : commit worker party verified processedAt publishes s.events fault = (events,new,phase)) :
    Worked s worker party events new phase := by
  have fenced : party.phase.fenced = true := by rw [at_]; rfl
  simp only [commit] at did
  split at did
  · cases did
    exact .quiet (by simp [WorkerPhase.unclaimed]) (fun _ => fenced)
  · rename_i effective
    have none : fault = .none := by
      cases fault with
      | none => rfl
      | lost => exact absurd rfl effective
      | unacknowledged => exact absurd rfl acknowledged
    subst none
    split at did
    · rename_i marked
      cases did
      exact .committed fenced rfl rfl rfl rfl marked
    · cases did
      exact .quiet (by simp [WorkerPhase.unclaimed]) (fun _ => fenced)

theorem cataloged_claimed (step : Except WebhookError (Option CatalogPhase)) :
    (cataloged verified processedAt step).unclaimed = false := by
  rcases step with error | (_ | phase) <;> rfl

theorem worker_worked {party : Worker} (acknowledged : fault = .unacknowledged → party.phase.committing = false)
    (did : workerStep worker party s fault = some (events,new,phase)) : Worked s worker party events new phase := by
  cases at_ : party.phase with
  | loading =>
      simp only [workerStep,at_,Option.some.injEq,Prod.mk.injEq] at did
      obtain ⟨same,nothing,moved⟩ := did
      subst same nothing
      have fences : phase.fenced = true → party.phase.fenced = true := by
        subst moved
        repeat' split
        all_goals intro fenced; cases fenced
      exact .quiet (fun _ => by rw [at_]; rfl) fences
  | claiming event =>
      simp only [workerStep,at_,Option.some.injEq,Prod.mk.injEq] at did
      obtain ⟨same,nothing,moved⟩ := did
      have sent : phase.unclaimed = false := by
        subst moved
        repeat' split
        all_goals rfl
      subst nothing
      split at same
      · rename_i lost
        subst lost same
        simp only [reduceCtorEq,if_false] at moved
        subst moved
        exact .quiet (by simp [WorkerPhase.unclaimed]) (by simp [WorkerPhase.fenced])
      · subst same
        exact .claimed (by rw [at_]; rfl) sent
  | cataloging verified processedAt stage =>
      simp only [workerStep,at_,Option.map_eq_some_iff,Prod.mk.injEq] at did
      obtain ⟨step,_,same,nothing,moved⟩ := did
      subst same nothing moved
      exact .quiet (fun waiting => by rw [cataloged_claimed] at waiting; cases waiting) (fun _ => by rw [at_]; rfl)
  | pipeline verified processedAt stage =>
      have fenced : party.phase.fenced = true := by rw [at_]; rfl
      by_cases marking : ∃ publishes, stage = .mark publishes
      · obtain ⟨publishes,is⟩ := marking
        subst is
        simp only [workerStep,at_,Option.some.injEq] at did
        refine commit_worked at_ ?_ did
        intro unacknowledged
        have idle := acknowledged unacknowledged
        rw [at_] at idle
        cases idle
      · have moved : ∃ phase', phase = phase' ∧ events = s.events ∧ new = [] ∧ phase'.unclaimed = false := by
          cases stage with
          | mark publishes => exact absurd ⟨publishes,rfl⟩ marking
          | reconcile | audit | outbox =>
              simp only [workerStep,at_] at did
              split at did
              all_goals cases did; exact ⟨_,rfl,rfl,rfl,rfl⟩
        obtain ⟨phase',same,kept,nothing,sent⟩ := moved
        subst same kept nothing
        exact .quiet (fun waiting => by rw [sent] at waiting; cases waiting) (fun _ => fenced)
  | emitting =>
      simp only [workerStep,at_,Option.some.injEq,Prod.mk.injEq] at did
      obtain ⟨same,nothing,moved⟩ := did
      subst same nothing moved
      exact .quiet (by simp [WorkerPhase.unclaimed]) (by simp [WorkerPhase.fenced])
  | failing error =>
      have fenced : party.phase.fenced = true := by rw [at_]; rfl
      simp only [workerStep,at_,Option.some.injEq,Prod.mk.injEq] at did
      obtain ⟨same,nothing,moved⟩ := did
      subst nothing moved
      split at same
      · subst same
        exact .quiet (by simp [WorkerPhase.unclaimed]) (by simp [WorkerPhase.fenced])
      · subst same
        exact .failed fenced rfl rfl
  | returned | thrown error | crashed =>
      simp only [workerStep,at_] at did
      cases did

-- A worker that may still write finds its token on the row it claimed, which is then
-- processing; what a transaction processed still carries the token of its worker.
structure Fenced (s : Inbox) : Prop where
  ids : Keyed WebhookEvent.id s.events
  keys : Keyed WebhookEvent.key s.events
  tokens : ∀ row ∈ s.events, ∀ worker, row.claimToken = some worker →
    ∃ party, s.workers worker = some party ∧ party.phase.unclaimed = false
  live : ∀ worker party, s.workers worker = some party → party.phase.fenced = true → ∀ row ∈ s.events,
    row.claimToken = some worker → row.status = .processing ∧ row.id = party.payload.webhookEventId
  done : ∀ transaction ∈ s.committed, ∃ row ∈ s.events, row.id = transaction.webhookEventId ∧
    row.status = .processed ∧ row.claimToken = some transaction.worker
  apart : Keyed Transaction.webhookEventId s.committed
  answers : ∀ receiver party stored, s.receivers receiver = some party → party.phase = .stored stored →
    ∃ row ∈ s.events, row.id = stored.id ∧
      row.key = (tenant party.delivery.tenantId,party.delivery.provider,party.delivery.verified.providerEventId)

theorem worked_identities (worked : Worked s worker party events new phase) :
    events.map WebhookEvent.identity = s.events.map WebhookEvent.identity := by
  cases worked with
  | quiet => rfl
  | claimed => exact claim_identities s.events
  | committed => exact markStatus_identities s.events
  | failed => exact markStatus_identities s.events

-- The rows that carry another's token are as they were.
theorem worked_other (worked : Worked s worker party events new phase) (member : row ∈ events)
    (other : row.claimToken ≠ some worker) : row ∈ s.events := by
  cases worked with
  | quiet => exact member
  | claimed => exact claim_other member other
  | committed => exact markStatus_other member other
  | failed => exact markStatus_other member other

theorem worked_processed (fenced : Fenced s) (active : s.workers worker = some party)
    (worked : Worked s worker party events new phase) (member : row ∈ s.events) (processed : row.status = .processed) :
    row ∈ events := by
  have unheld (holding : party.phase.fenced = true) : row.claimToken ≠ some worker := by
    intro held
    have processing := (fenced.live worker party active holding row member held).1
    rw [processed] at processing
    cases processing
  cases worked with
  | quiet => exact member
  | claimed => exact claim_processed member processed
  | committed holding => exact markStatus_kept member (unheld holding)
  | failed holding => exact markStatus_kept member (unheld holding)

-- A worker's own token, wherever it stands after its step.
theorem worked_sent (fenced : Fenced s) (active : s.workers worker = some party)
    (worked : Worked s worker party events new phase) (member : row ∈ events) (own : row.claimToken = some worker) :
    phase.unclaimed = false := by
  cases worked with
  | quiet claims =>
      obtain ⟨party',active',claimed⟩ := fenced.tokens row member worker own
      rw [active,Option.some.injEq] at active'
      subst active'
      cases waiting : phase.unclaimed with
      | false => rfl
      | true => exact (claimed.symm.trans (claims waiting)).symm
  | claimed _ sent => exact sent
  | committed _ _ sent => exact sent
  | failed _ _ sent => exact sent

theorem worked_live (fenced : Fenced s) (active : s.workers worker = some party)
    (worked : Worked s worker party events new phase) (holding : phase.fenced = true) (member : row ∈ events)
    (own : row.claimToken = some worker) : row.status = .processing ∧ row.id = party.payload.webhookEventId := by
  cases worked with
  | quiet _ fences => exact fenced.live worker party active (fences holding) row member own
  | claimed waiting =>
      refine claim_own ?_ member own
      intro old before held
      obtain ⟨party',active',claimed⟩ := fenced.tokens old before worker held
      rw [active,Option.some.injEq] at active'
      subst active'
      rw [waiting] at claimed
      cases claimed
  | committed _ ended => exact absurd holding (by simp [ended])
  | failed _ ended => exact absurd holding (by simp [ended])

theorem worked_done (fenced : Fenced s) (active : s.workers worker = some party)
    (worked : Worked s worker party events new phase) :
    ∀ transaction ∈ s.committed ++ new, ∃ row ∈ events, row.id = transaction.webhookEventId ∧
      row.status = .processed ∧ row.claimToken = some transaction.worker := by
  intro transaction member
  rcases List.mem_append.mp member with before | added
  · obtain ⟨row,inside,id,processed,token⟩ := fenced.done transaction before
    exact ⟨row,worked_processed fenced active worked inside processed,id,processed,token⟩
  · cases worked with
    | committed _ _ _ id mine marked =>
        rw [List.mem_singleton.mp added]
        obtain ⟨row,_,its,token,after⟩ := markStatus_marked marked
        exact ⟨_,after,its.trans id.symm,rfl,token.trans (congrArg some mine.symm)⟩
    | quiet | claimed | failed => cases added

-- The event of a new transaction has none yet: its row is processing.
theorem worked_apart (fenced : Fenced s) (active : s.workers worker = some party)
    (worked : Worked s worker party events new phase) : Keyed Transaction.webhookEventId (s.committed ++ new) := by
  cases worked with
  | committed holding _ _ id _ marked =>
      refine keyed_append fenced.apart ?_
      intro earlier inside same
      obtain ⟨row,member,its,token,_⟩ := markStatus_marked marked
      obtain ⟨row',member',its',processed,_⟩ := fenced.done earlier inside
      have one : row = row' := keyed_unique fenced.ids member member' (by rw [its,its',same,id])
      have processing := (fenced.live worker party active holding row member token).1
      rw [one,processed] at processing
      cases processing
  | quiet | claimed | failed =>
      rw [List.append_nil]
      exact fenced.apart

theorem fenced_worked (fenced : Fenced s) (active : s.workers worker = some party)
    (worked : Worked s worker party events new phase) :
    Fenced ((s.putWorker worker {party with phase := phase}).write events new) := by
  have keyed := keyed_identities (worked_identities worked) fenced.ids fenced.keys
  have live {row : WebhookEvent} (holding : phase.fenced = true) (member : row ∈ events)
      (own : row.claimToken = some worker) := worked_live fenced active worked holding member own
  have done := worked_done fenced active worked
  have apart := worked_apart fenced active worked
  refine ⟨keyed.1,keyed.2,?_,?_,?_,?_,?_⟩
  · intro row member holder token
    by_cases mine : holder = worker
    · subst mine
      exact ⟨_,putWorker_self,worked_sent fenced active worked member token⟩
    · rw [write_workers,putWorker_other mine]
      have before := worked_other worked member (by rw [token]; simpa using mine)
      exact fenced.tokens row before holder token
  · intro holder party' active' holding row member token
    by_cases mine : holder = worker
    · subst mine
      rw [write_workers,putWorker_self,Option.some.injEq] at active'
      subst active'
      exact live holding member token
    · rw [write_workers,putWorker_other mine] at active'
      have before := worked_other worked member (by rw [token]; simpa using mine)
      exact fenced.live holder party' active' holding row before token
  · exact done
  · exact apart
  · intro receiver party' stored answered at_
    obtain ⟨row,member,id,key⟩ := fenced.answers receiver party' stored answered at_
    obtain ⟨row',member',id',key'⟩ := identity_kept (worked_identities worked) member
    exact ⟨row',member',id'.trans id,key'.trans key⟩

-- A worker that stops short of its row leaves everything where it is.
theorem fenced_putWorker (fenced : Fenced s) {party : Worker} (idle : party.phase.fenced = false)
    (sent : ∀ before, s.workers worker = some before → before.phase.unclaimed = false → party.phase.unclaimed = false) :
    Fenced (s.putWorker worker party) := by
  refine ⟨fenced.ids,fenced.keys,?_,?_,fenced.done,fenced.apart,fenced.answers⟩
  · intro row member holder token
    obtain ⟨before,active,claimed⟩ := fenced.tokens row member holder token
    by_cases mine : holder = worker
    · subst mine
      exact ⟨party,putWorker_self,sent before active claimed⟩
    · exact ⟨before,(putWorker_other mine).trans active,claimed⟩
  · intro holder party' active holding row member token
    by_cases mine : holder = worker
    · subst mine
      rw [putWorker_self,Option.some.injEq] at active
      subst active
      rw [idle] at holding
      cases holding
    · exact fenced.live holder party' ((putWorker_other mine).symm.trans active) holding row member token

-- What one awaited call of a receiver does to the events, and what its answer names.
structure Received (receiver : Nat) (delivery : Delivery) (before after : List WebhookEvent) (phase : ReceiverPhase) :
    Prop where
  rows : after = before ∨ ∃ row, after = before ++ [row] ∧ row.claimToken = none ∧
    ∀ old ∈ before, old.id ≠ row.id ∧ old.key ≠ row.key
  answer : ∀ stored, phase = .stored stored → ∃ row ∈ after, row.id = stored.id ∧
    row.key = (tenant delivery.tenantId,delivery.provider,delivery.verified.providerEventId)

theorem find_received {delivery : Delivery} (found : delivery.find before = some row) :
    Received receiver delivery before before (duplicateOf row) := by
  refine ⟨.inl rfl,?_⟩
  intro stored at_
  cases at_
  exact ⟨row,(findByProviderEvent_found found).1,rfl,(findByProviderEvent_found found).2⟩

theorem unanswered_received (quiet : ∀ stored, phase ≠ .stored stored) : Received receiver delivery before before phase :=
  ⟨.inl rfl,fun stored at_ => absurd at_ (quiet stored)⟩

theorem receiver_received {party : Receiver}
    (did : receiverStep receiver party now before fault = some (after,phase)) :
    Received receiver party.delivery before after phase := by
  cases at_ : party.phase with
  | finding | refinding =>
      simp only [receiverStep,at_,Option.some.injEq,Prod.mk.injEq] at did
      obtain ⟨same,moved⟩ := did
      subst same
      split at moved
      · split at moved
        · rename_i found
          exact moved ▸ find_received found
        · subst moved
          exact unanswered_received fun _ => by simp
      · subst moved
        exact unanswered_received fun _ => by simp
  | creating =>
      simp only [receiverStep,at_] at did
      split at did
      · cases did
        exact unanswered_received fun _ => by simp
      · rename_i rows inserted
        obtain ⟨is,apart⟩ := create_cases inserted
        simp only [Option.some.injEq,Prod.mk.injEq] at did
        obtain ⟨same,moved⟩ := did
        subst same moved
        cases fault with
        | lost => exact unanswered_received fun _ => by simp
        | none =>
            refine ⟨.inr ⟨_,is,rfl,apart⟩,?_⟩
            intro stored answered
            cases answered
            exact ⟨party.delivery.row receiver now,by simp [is],rfl,rfl⟩
        | unacknowledged =>
            refine ⟨.inr ⟨_,is,rfl,apart⟩,?_⟩
            intro stored answered
            cases answered
  | stored _ | thrown | crashed =>
      simp only [receiverStep,at_] at did
      cases did

theorem fenced_received (fenced : Fenced s) {party : Receiver} (received : Received receiver party.delivery s.events events phase) :
    Fenced ((s.putReceiver receiver {party with phase := phase}).write events []) := by
  have grown : ∀ row ∈ s.events, row ∈ events := by
    intro row member
    rcases received.rows with same | ⟨new,is,_⟩
    · exact same ▸ member
    · rw [is]
      exact List.mem_append_left _ member
  have old : ∀ row ∈ events, ∀ worker, row.claimToken = some worker → row ∈ s.events := by
    intro row member worker token
    rcases received.rows with same | ⟨new,is,unheld,_⟩
    · exact same ▸ member
    · rcases List.mem_append.mp (is ▸ member) with before | added
      · exact before
      · rw [List.mem_singleton.mp added,unheld] at token
        cases token
  have keyed : Keyed WebhookEvent.id events ∧ Keyed WebhookEvent.key events := by
    rcases received.rows with same | ⟨new,is,_,apart⟩
    · exact same ▸ ⟨fenced.ids,fenced.keys⟩
    · rw [is]
      exact ⟨keyed_append fenced.ids fun row member => (apart row member).1,
        keyed_append fenced.keys fun row member => (apart row member).2⟩
  have same : ((s.putReceiver receiver {party with phase := phase}).write events []).committed = s.committed :=
    List.append_nil _
  refine ⟨keyed.1,keyed.2,?_,?_,?_,same.symm ▸ fenced.apart,?_⟩
  · intro row member worker token
    exact fenced.tokens row (old row member worker token) worker token
  · intro worker party' active holding row member token
    exact fenced.live worker party' active holding row (old row member worker token) token
  · intro transaction committed
    obtain ⟨row,member,its⟩ := fenced.done transaction (same ▸ committed)
    exact ⟨row,grown row member,its⟩
  · intro other party' stored answered at_
    by_cases mine : other = receiver
    · subst mine
      rw [write_receivers,putReceiver_self,Option.some.injEq] at answered
      subst answered
      exact received.answer stored at_
    · rw [write_receivers,putReceiver_other mine] at answered
      obtain ⟨row,member,its⟩ := fenced.answers other party' stored answered at_
      exact ⟨row,grown row member,its⟩

theorem fenced_putReceiver (fenced : Fenced s) {party : Receiver} (quiet : ∀ stored, party.phase ≠ .stored stored) :
    Fenced (s.putReceiver receiver party) := by
  refine ⟨fenced.ids,fenced.keys,fenced.tokens,fenced.live,fenced.done,fenced.apart,?_⟩
  intro other party' stored answered at_
  by_cases mine : other = receiver
  · subst mine
    rw [putReceiver_self,Option.some.injEq] at answered
    subst answered
    exact absurd at_ (quiet stored)
  · exact fenced.answers other party' stored ((putReceiver_other mine).symm.trans answered) at_

theorem retrieved_fenced (answered : retrieved reconciliation phase = some phase') :
    phase'.unclaimed = false ∧ phase.fenced = true := by
  unfold retrieved at answered
  split at answered
  · split at answered <;> cases answered
    exact ⟨rfl,rfl⟩
  · cases answered

-- Everything one step of the system can do; the catalog's tables hold no event's row.
inductive Stepped (s : Inbox) : Inbox → Prop where
  | worked (active : s.workers worker = some party) (worked : Worked s worker party events new phase) :
      Stepped s ((s.putWorker worker {party with phase := phase}).write events new)
  | parked {party : Worker} (idle : party.phase.fenced = false)
      (sent : ∀ before, s.workers worker = some before → before.phase.unclaimed = false → party.phase.unclaimed = false) :
      Stepped s (s.putWorker worker party)
  | received {party : Receiver} (received : Received receiver party.delivery s.events events phase) :
      Stepped s ((s.putReceiver receiver {party with phase := phase}).write events [])
  | waiting {party : Receiver} (quiet : ∀ stored, party.phase ≠ .stored stored) : Stepped s (s.putReceiver receiver party)
  | ticked (now : Int) : Stepped s {s with now := now}
  | reconciled (stepped : Stepped s next) : Stepped s {next with catalog := catalog}

theorem step_cases (acknowledged : commitAcknowledged s action) (moved : webhooks.advance s action = some next) :
    Stepped s next := by
  change advance s action = some next at moved
  cases action with
  | receive receiver delivery =>
      simp only [advance] at moved
      split at moved <;> cases moved
      exact .waiting fun _ => by simp
  | store receiver fault =>
      simp only [advance,Option.bind_eq_bind,Option.bind_eq_some_iff] at moved
      obtain ⟨party,_,⟨events,phase⟩,did,same⟩ := moved
      cases same
      exact .received (receiver_received did)
  | handle worker deps payload =>
      simp only [advance] at moved
      split at moved <;> cases moved
      rename_i absent
      refine .parked rfl ?_
      intro before active
      rw [absent] at active
      cases active
  | work worker fault =>
      simp only [advance,Option.bind_eq_bind,Option.bind_eq_some_iff] at moved
      obtain ⟨party,active,⟨events,new,phase⟩,did,same⟩ := moved
      cases same
      refine .reconciled (.worked active (worker_worked ?_ did))
      intro unacknowledged
      subst unacknowledged
      simpa [commitAcknowledged,acknowledges,active] using acknowledged
  | retrieve worker reconciliation =>
      simp only [advance,Option.bind_eq_bind,Option.bind_eq_some_iff,Option.some.injEq] at moved
      obtain ⟨party,active,phase,answered,same⟩ := moved
      subst same
      obtain ⟨sent,fences⟩ := retrieved_fenced answered
      exact .worked active (.quiet (fun waiting => by rw [sent] at waiting; cases waiting) (fun _ => fences))
  | catalog bindings synchronizations =>
      cases moved
      exact .reconciled (.ticked s.now)
  | crashReceiver receiver =>
      simp only [advance,Option.bind_eq_bind,Option.bind_eq_some_iff] at moved
      obtain ⟨party,_,same⟩ := moved
      split at same <;> cases same
      exact .waiting fun _ => by simp
  | crash worker =>
      simp only [advance,Option.bind_eq_bind,Option.bind_eq_some_iff] at moved
      obtain ⟨party,_,same⟩ := moved
      split at same <;> cases same
      exact .parked rfl fun _ _ _ => rfl
  | tick elapsed =>
      cases moved
      exact .ticked _

theorem fenced_step (fenced : Fenced s) (stepped : Stepped s next) : Fenced next := by
  induction stepped with
  | worked active worked => exact fenced_worked fenced active worked
  | parked idle sent => exact fenced_putWorker fenced idle sent
  | received received => exact fenced_received fenced received
  | waiting quiet => exact fenced_putReceiver fenced quiet
  | ticked => exact ⟨fenced.ids,fenced.keys,fenced.tokens,fenced.live,fenced.done,fenced.apart,fenced.answers⟩
  | reconciled _ ih => exact ⟨ih.ids,ih.keys,ih.tokens,ih.live,ih.done,ih.apart,ih.answers⟩

theorem fenced_empty (now : Int) : Fenced (empty now) := by
  refine ⟨List.nodup_nil,List.nodup_nil,?_,?_,?_,List.nodup_nil,?_⟩
  · intro row member
    cases member
  · intro worker party active
    cases active
  · intro transaction member
    cases member
  · intro receiver party stored answered
    cases answered

theorem reached_fenced (path : Reached webhooks commitAcknowledged s) : Fenced s := by
  refine path.invariant Fenced ?_ ?_
  · intro u initial
    obtain ⟨now,same⟩ := initial
    exact same ▸ fenced_empty now
  · intro u action next _ fenced acknowledged moved
    exact fenced_step fenced (step_cases acknowledged moved)

theorem path_fenced (fenced : Fenced s) (path : Path webhooks commitAcknowledged s t) : Fenced t :=
  path.invariant Fenced fenced fun _ _ _ before acknowledged moved => fenced_step before (step_cases acknowledged moved)

theorem processed_step (fenced : Fenced s) (stepped : Stepped s next) (member : row ∈ s.events)
    (processed : row.status = .processed) : row ∈ next.events := by
  induction stepped with
  | worked active worked => exact worked_processed fenced active worked member processed
  | received received =>
      rcases received.rows with same | ⟨new,is,_⟩
      · exact same ▸ member
      · exact is ▸ List.mem_append_left _ member
  | parked | waiting | ticked => exact member
  | reconciled _ ih => exact ih

-- A row that is processed stays as it is.
theorem processed_stays (fenced : Fenced s) (path : Path webhooks commitAcknowledged s t) (member : row ∈ s.events)
    (processed : row.status = .processed) : row ∈ t.events := by
  induction path with
  | refl => exact member
  | step before acknowledged moved ih => exact processed_step (path_fenced fenced before) (step_cases acknowledged moved) ih processed

-- A worker past its claim, which may still write, while the row carries another claim's token.
def Superseded (s : Inbox) (worker : Nat) : Prop :=
  ∃ party, s.workers worker = some party ∧ party.phase.fenced = true ∧
    ∃ row ∈ s.events, row.id = party.payload.webhookEventId ∧ row.claimToken ≠ some worker

-- A worker that has claimed and whose token no row carries.
structure Lost (s : Inbox) (worker : Nat) : Prop where
  sent : ∃ party, s.workers worker = some party ∧ party.phase.unclaimed = false
  unheld : ∀ row ∈ s.events, row.claimToken ≠ some worker
  silent : ∀ transaction ∈ s.committed, transaction.worker ≠ worker

theorem fenced_claimed {phase : WorkerPhase} (fenced : phase.fenced = true) : phase.unclaimed = false := by
  cases phase with
  | cataloging | pipeline | failing => rfl
  | loading | claiming | emitting | returned | thrown | crashed => cases fenced

theorem superseded_lost (fenced : Fenced s) (superseded : Superseded s worker) : Lost s worker := by
  obtain ⟨party,active,holding,row,member,id,other⟩ := superseded
  have unheld : ∀ held ∈ s.events, held.claimToken ≠ some worker := by
    intro held inside token
    have its := (fenced.live worker party active holding held inside token).2
    rw [keyed_unique fenced.ids member inside (id.trans its.symm)] at other
    exact other token
  refine ⟨⟨party,active,fenced_claimed holding⟩,unheld,?_⟩
  intro transaction committed mine
  obtain ⟨held,inside,_,_,token⟩ := fenced.done transaction committed
  exact unheld held inside (mine ▸ token)

theorem lost_worked (lost : Lost s other) (active : s.workers worker = some party)
    (worked : Worked s worker party events new phase) :
    Lost ((s.putWorker worker {party with phase := phase}).write events new) other := by
  by_cases mine : other = worker
  · subst mine
    obtain ⟨party',active',claimed⟩ := lost.sent
    rw [active,Option.some.injEq] at active'
    subst active'
    cases worked with
    | quiet claims =>
        refine ⟨⟨_,putWorker_self,?_⟩,lost.unheld,?_⟩
        · cases waiting : phase.unclaimed with
          | false => rfl
          | true => exact (claimed.symm.trans (claims waiting)).symm
        · rw [write_nothing]
          exact lost.silent
    | claimed waiting =>
        rw [waiting] at claimed
        cases claimed
    | committed _ _ _ _ _ marked =>
        obtain ⟨row,member,_,token,_⟩ := markStatus_marked marked
        exact absurd token (lost.unheld row member)
    | failed _ _ sent =>
        refine ⟨⟨_,putWorker_self,sent⟩,?_,?_⟩
        · intro row member token
          obtain ⟨old,before,_,same⟩ := markStatus_token member
          exact lost.unheld old before (same.trans token)
        · rw [write_nothing]
          exact lost.silent
  · obtain ⟨party',active',claimed⟩ := lost.sent
    refine ⟨⟨party',?_,claimed⟩,?_,?_⟩
    · rw [write_workers,putWorker_other mine]
      exact active'
    · intro row member token
      exact lost.unheld row (worked_other worked member (by rw [token]; simpa using mine)) token
    · intro transaction member
      rcases List.mem_append.mp member with before | added
      · exact lost.silent transaction before
      · cases worked with
        | committed _ _ _ _ its =>
            rw [List.mem_singleton.mp added,its]
            exact fun same => mine same.symm
        | quiet | claimed | failed => cases added

theorem lost_step (lost : Lost s worker) (stepped : Stepped s next) : Lost next worker := by
  induction stepped with
  | worked active worked => exact lost_worked lost active worked
  | @parked other party idle sent =>
      refine ⟨?_,lost.unheld,lost.silent⟩
      obtain ⟨before,active,claimed⟩ := lost.sent
      by_cases mine : worker = other
      · subst mine
        exact ⟨party,putWorker_self,sent before active claimed⟩
      · exact ⟨before,(putWorker_other mine).trans active,claimed⟩
  | received received =>
      refine ⟨lost.sent,?_,?_⟩
      · intro row member token
        rcases received.rows with same | ⟨new,is,unheld,_⟩
        · exact lost.unheld row (same ▸ member) token
        · rcases List.mem_append.mp (is ▸ member) with before | added
          · exact lost.unheld row before token
          · rw [List.mem_singleton.mp added,unheld] at token
            cases token
      · rw [write_nothing]
        exact lost.silent
  | waiting => exact ⟨lost.sent,lost.unheld,lost.silent⟩
  | ticked => exact ⟨lost.sent,lost.unheld,lost.silent⟩
  | reconciled _ ih => exact ⟨ih.sent,ih.unheld,ih.silent⟩

theorem lost_stays (lost : Lost s worker) (path : Path webhooks commitAcknowledged s t) : Lost t worker :=
  path.invariant (Lost · worker) lost fun _ _ _ before acknowledged moved => lost_step before (step_cases acknowledged moved)

-- What the transactions of one event have left.
structure TakenOnce (s : Inbox) (id : Nat) : Prop where
  transactions : (s.committed.filter fun transaction => transaction.webhookEventId = id).length ≤ 1
  reconciliations : ((s.committed.filter Transaction.reconciles).filter fun transaction =>
    transaction.webhookEventId = id).length ≤ 1
  auditLogs : (s.auditLogs.filter fun row => row.resourceId = id).length ≤ 1
  outboxEvents : ∀ normalizedType,
    (s.outboxEvents.filter fun row => row.dedupeKey = some (dedupeKey id normalizedType)).length ≤ 1

theorem dedupeKey_injective {id id' : Nat} (same : dedupeKey id normalizedType = dedupeKey id' normalizedType') : id = id' := by
  have characters := congrArg String.toList same
  simp only [dedupeKey,String.toList_append,List.append_assoc] at characters
  have after := List.append_cancel_left characters
  have digits (n : Nat) : ':' ∉ (toString n).toList := by
    intro inside
    have digit := Text.decimal_digits n ':' inside
    cases digit
  exact Text.decimal_injective (Text.separated_first after (digits id) (digits id')).1

theorem outboxEvent_id {transaction : Transaction} {id : Nat} (found : transaction.outboxEvent = some row)
    (keyed : row.dedupeKey = some (dedupeKey id normalizedType)) : transaction.webhookEventId = id := by
  unfold Transaction.outboxEvent at found
  split at found
  · obtain ⟨type,_,same⟩ := Option.map_eq_some_iff.mp found
    subst same
    exact dedupeKey_injective (Option.some.inj keyed)
  · cases found

theorem takenOnce (apart : Keyed Transaction.webhookEventId s.committed) (id : Nat) : TakenOnce s id := by
  have one {transactions : List Transaction} (keyed : Keyed Transaction.webhookEventId transactions) :
      (transactions.filter fun transaction => transaction.webhookEventId = id).length ≤ 1 := by
    refine keyed_alone keyed ?_
    intro a _ b _ first second
    rw [decide_eq_true_eq] at first second
    exact first.trans second.symm
  refine ⟨one apart,one ?_,?_,?_⟩
  · exact List.Nodup.sublist (List.filter_sublist.map _) apart
  · rw [Inbox.auditLogs,List.filter_map,List.length_map]
    exact one apart
  · intro normalizedType
    refine Nat.le_trans (given_few s.committed ?_) (one apart)
    intro transaction _ row found keyed
    rw [decide_eq_true_eq] at keyed ⊢
    exact outboxEvent_id found keyed

-- The reconciler of the catalog wrote its row only over the generation that it had read.
def OfGeneration (transaction : CatalogTransaction) : Prop :=
  transaction.written.canonicalVersion = transaction.read.canonicalVersion ∧
    transaction.written.idempotencyKey = transaction.read.idempotencyKey

theorem catalogStep_generation (kept : ∀ transaction ∈ tables.committed, OfGeneration transaction)
    (did : catalogStep worker party verified tables now fault phase = some (tables',next)) :
    ∀ transaction ∈ tables'.committed, OfGeneration transaction := by
  cases phase with
  | binding =>
      simp only [catalogStep] at did
      split at did <;> cases did <;> exact kept
  | reading reference resourceId =>
      cases did
      exact kept
  | retrieving reference resourceId row => cases did
  | transitioning reference resourceId row reconciliation =>
      simp only [catalogStep,Option.some.injEq,Prod.mk.injEq] at did
      obtain ⟨same,-⟩ := did
      subst same
      split
      · exact kept
      · cases moved : updateIfCurrent (tables.synchronizations reference) row.canonicalVersion row.idempotencyKey
            (reconciliationPatch reference row reconciliation) none none with
        | none => exact kept
        | some written =>
            intro transaction member
            rcases List.mem_append.mp member with before | added
            · exact kept transaction before
            · obtain ⟨old,_,version,key,_,_,patched⟩ := Catalog.updateIfCurrent_some moved
              rw [List.mem_singleton.mp added]
              subst patched
              exact ⟨version,key⟩

theorem catalogWritten_generation (kept : ∀ transaction ∈ s.catalog.committed, OfGeneration transaction) :
    ∀ transaction ∈ (catalogWritten worker party s fault).committed, OfGeneration transaction := by
  unfold catalogWritten
  split
  · rename_i verified processedAt phase _
    cases did : catalogStep worker party verified s.catalog s.now fault phase with
    | none => exact kept
    | some step => exact catalogStep_generation kept did
  · exact kept

theorem generation_step (kept : ∀ transaction ∈ s.catalog.committed, OfGeneration transaction)
    (moved : webhooks.advance s action = some next) : ∀ transaction ∈ next.catalog.committed, OfGeneration transaction := by
  change advance s action = some next at moved
  cases action with
  | receive | handle =>
      simp only [advance] at moved
      split at moved <;> cases moved
      exact kept
  | store | retrieve | crashReceiver | crash =>
      simp only [advance,Option.bind_eq_bind,Option.bind_eq_some_iff] at moved
      obtain ⟨party,_,moved⟩ := moved
      first
        | (obtain ⟨step,_,same⟩ := moved; cases same; exact kept)
        | (split at moved <;> cases moved; exact kept)
  | work worker fault =>
      simp only [advance,Option.bind_eq_bind,Option.bind_eq_some_iff] at moved
      obtain ⟨party,_,step,_,same⟩ := moved
      cases same
      exact catalogWritten_generation kept
  | catalog | tick =>
      cases moved
      exact kept

theorem reached_generation (path : Reached webhooks commitAcknowledged s) :
    ∀ transaction ∈ s.catalog.committed, OfGeneration transaction := by
  refine path.invariant (fun u => ∀ transaction ∈ u.catalog.committed, OfGeneration transaction) ?_ ?_
  · rintro u ⟨now,same⟩ transaction member
    subst same
    cases member
  · intro u action next _ kept _ moved
    exact generation_step kept moved

-- The pipeline's transaction of a stored webhook event takes effect once; the catalog's
-- reconciler commits on its own, by the generation of its row.
theorem processed_once (path : Reached webhooks commitAcknowledged s) :
    Keyed WebhookEvent.key s.events ∧ (∀ id, TakenOnce s id) ∧
    (∀ worker, Superseded s worker → ∀ t, Path webhooks commitAcknowledged s t →
      ∀ transaction ∈ t.committed, transaction.worker ≠ worker) ∧
    (∀ row ∈ s.events, row.status = .processed → ∀ t, Path webhooks commitAcknowledged s t →
      row ∈ t.events ∧ ∀ after ∈ t.events, after.id = row.id → after = row) ∧
    ∀ transaction ∈ s.catalog.committed, OfGeneration transaction := by
  have fenced := reached_fenced path
  refine ⟨fenced.keys,takenOnce fenced.apart,?_,?_,reached_generation path⟩
  · intro worker superseded t later
    exact (lost_stays (superseded_lost fenced superseded) later).silent
  · intro row member processed t later
    have stays := processed_stays fenced later member processed
    refine ⟨stays,?_⟩
    intro after inside same
    exact keyed_unique (path_fenced fenced later).ids inside stays same

section Schedules

def paid : Delivery :=
  ⟨"stripe",none,⟨"evt_1","payment_intent.succeeded",some "payment.succeeded",some 0,[("id",.text "pi_1")]⟩,"corr_1"⟩

def stripe : WebhookDependencies := ⟨"stripe",true,true,true⟩

def paidJob : ProcessWebhookJobPayload := ⟨0,"corr_1",none⟩

-- Two deliveries race for the row; the first worker stops inside its transaction until its
-- claim has run out and the second one has claimed.
def deliveriesRace : List Action :=
  [.receive 0 paid,.receive 1 paid,.store 0 .none,.store 1 .none,.store 0 .none,.store 1 .none,.store 1 .none,
    .handle 10 stripe paidJob,.work 10 .none,.work 10 .none,.work 10 .none,.work 10 .none,.work 10 .none,.tick 300001,
    .handle 11 stripe paidJob,.work 11 .none,.work 11 .none]

def bothFinish : List Action :=
  [.work 11 .none,.work 11 .none,.work 11 .none,.work 11 .none,.work 10 .none,.work 11 .none,.work 10 .none,.work 11 .none]

def supersededNow (s : Inbox) (worker : Nat) : Bool :=
  (s.workers worker).any fun party => party.phase.fenced &&
    s.events.any fun row => row.id == party.payload.webhookEventId && row.claimToken != some worker

theorem supersededNow_iff : supersededNow s worker = true ↔ Superseded s worker := by
  unfold supersededNow Superseded
  rw [Option.any_eq_true]
  simp only [Bool.and_eq_true,List.any_eq_true,beq_iff_eq,bne_iff_ne]

theorem processed_once_raced :
    ∃ s t, Superseded s 10 ∧ Path webhooks commitAcknowledged s t ∧ t.committed.map Transaction.worker = [11] ∧
      t.outboxEvents.map OutboxEvent.eventType = ["payment.succeeded.v1"] ∧ TakenOnce t 0 ∧
      ∀ transaction ∈ t.committed, transaction.worker ≠ 10 := by
  have passed : (run webhooks commitAcknowledged (empty 0) deliveriesRace).any (fun s => supersededNow s 10 &&
      (run webhooks commitAcknowledged s bothFinish).any fun t => t.committed.map Transaction.worker == [11] &&
        t.outboxEvents.map OutboxEvent.eventType == ["payment.succeeded.v1"]) = true := by decide +kernel
  obtain ⟨s,t,before,superseded,after,found⟩ := run_continues passed
  simp only [Bool.and_eq_true,beq_iff_eq] at found
  have stopped := supersededNow_iff.mp superseded
  have path : Reached webhooks commitAcknowledged s := ⟨empty 0,⟨0,rfl⟩,before⟩
  exact ⟨s,t,stopped,after,found.1,found.2,(processed_once (path.later after)).2.1 0,
    (processed_once path).2.2.1 10 stopped t after⟩

def updated : Delivery :=
  ⟨"stripe",none,⟨"evt_2","product.updated",none,some 0,[("id",.text "prod_1")]⟩,"corr_2"⟩

def updatedJob : ProcessWebhookJobPayload := ⟨0,"corr_2",none⟩

def product : CatalogReference := ⟨.product,"stripe","prod_1",none⟩

def synchronized : CatalogSynchronization :=
  ⟨"sync",.update,"2026-01-01","key",.succeeded,.inSync,some "prod_1",some "v1",0,none,none,none,none,none⟩

def plan : Catalog.CatalogDependencies := {Catalog.plainDependencies true with resourceId := "plan"}

-- Worker 10 has read the row and the remote product when its claim runs out.
def readBeforeLapse : List Action :=
  [.catalog (fun reference => if reference = product then some "plan" else none)
      (fun reference => if reference = product then some synchronized else none),
    .receive 0 updated,.store 0 .none,.store 0 .none,
    .handle 10 stripe updatedJob,.work 10 .none,.work 10 .none,.work 10 .none,.work 10 .none,
    .retrieve 10 (.compared false (some "v1") 0),.tick 300001,
    .handle 11 stripe updatedJob,.work 11 .none,.work 11 .none]

def catalogTwice : List Action :=
  [.work 11 .none,.work 11 .none,.retrieve 11 (.compared true (some "v2") 300001),.work 11 .none,.work 10 .none]

-- A superseded worker commits its reconciliation of the catalog, over that of its successor.
theorem superseded_commits :
    ∃ s t, Reached webhooks commitAcknowledged s ∧ Superseded s 10 ∧ Path webhooks commitAcknowledged s t ∧
      s.catalog.committed = [] ∧ t.catalog.committed.map CatalogTransaction.worker = [11,10] ∧
      (t.catalog.books plan).audits.length = 2 ∧ (t.catalog.books plan).outbox.length = 2 ∧
      (t.catalog.synchronizations product).map CatalogSynchronization.reconciliationState = some .staleLocal := by
  have passed : (run webhooks commitAcknowledged (empty 0) readBeforeLapse).any (fun s =>
      (supersededNow s 10 && s.catalog.committed == []) &&
      (run webhooks commitAcknowledged s catalogTwice).any fun t =>
        t.catalog.committed.map CatalogTransaction.worker == [11,10] &&
        ((t.catalog.books plan).audits.length == 2 && (t.catalog.books plan).outbox.length == 2) &&
        (t.catalog.synchronizations product).map CatalogSynchronization.reconciliationState == some .staleLocal) = true := by
    decide +kernel
  obtain ⟨s,t,before,stopped,after,found⟩ := run_continues passed
  simp only [Bool.and_eq_true,beq_iff_eq] at stopped found
  exact ⟨s,t,⟨empty 0,⟨0,rfl⟩,before⟩,supersededNow_iff.mp stopped.1,after,stopped.2,found.1.1,found.1.2.1,found.1.2.2,
    found.2⟩

end Schedules

end Payable.Webhooks
