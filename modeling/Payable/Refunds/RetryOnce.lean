import Payable.Refunds.Retries

namespace Payable.Refunds
open Domain Tables Runs

def isExecuted (s : Retried) (caller : Nat) : Bool := s.executed.any (·.caller == caller)

-- The provider answers every refund it carries out, as asked; the answer reaches the
-- ledger; its record is not marked failed; and a takeOver only matches a record of a failed call.
def careful (s : Retried) : Retry → Bool
  | .ledger (.abort caller _) =>
    match s.ledger.parties caller with
    | some (.refund _ _ (.finalizing _ _ _)) => false
    | _ => true
  | .refunded caller true reply =>
    match s.ledger.parties caller,reply with
    | some (.refund _ _ (.refunding payment reservation)),.answered response =>
      response.amount == ⟨reservation.requested,payment.currency⟩ &&
        (response.status == "pending" || response.status == "succeeded")
    | some (.refund _ _ (.refunding _ _)),.threw => false
    | _,_ => true
  | .store caller fault =>
    (s.idempotency.calls caller).all fun call =>
      match call.phase,s.idempotency.rows call.slot with
      | .failing _ _,_ => fault == .lost || !isExecuted s caller
      | .takingOver _ _,some row => !Idempotency.claimable s.idempotency.now row || row.status == .failed
      | _,_ => true
  | _ => true

def Careful (s : Retried) (action : Retry) : Prop := careful s action = true

instance (s : Retried) (action : Retry) : Decidable (Careful s action) := inferInstanceAs (Decidable (_ = _))

-- The phases of settle, between the start of run and its end.
def RefundPhase.settling : RefundPhase → Bool
  | .reserving _ _ | .claiming _ _ _ _ | .refunding _ _ | .mismatched _ _ | .releasing _ _ _ | .reverting _ _ _ _
  | .unreleased _ _ | .rereading _ | .finalizing _ _ _ => true
  | _ => false

-- Where a call whose refund was carried out can be.
def RefundPhase.carried : RefundPhase → Bool
  | .finalizing _ _ _ | .returned _ | .crashed => true
  | _ => false

def Unfailed (row : Idempotency.Record Refund) : Prop := row.status ≠ .failed

def Done (s : Retried) (caller : Nat) : Prop := ∃ refund ∈ s.executed, refund.caller = caller

structure Carried (deps : Deps) (s : Retried) (refund : Executed) : Prop where
  key : s.keys refund.caller = some refund.key
  party : ∃ provider input phase,
    s.ledger.parties refund.caller = some (.refund provider input phase) ∧ phase.carried = true
  row : ∃ row ∈ s.ledger.refunds, row.id = refund.caller ∧ outstanding row = true ∧ row.amount = refund.amount

structure Retrying (deps : Deps) (s : Retried) : Prop where
  sound : Sound s.ledger
  effects : Idempotency.Effects Unfailed (Done s) s.idempotency
  unique : Keyed Executed.caller s.executed
  keyed : ∀ caller call, s.idempotency.calls caller = some call →
    ∃ key, s.keys caller = some key ∧ call.slot = refundSlot deps key
  running : ∀ caller provider input phase, s.ledger.parties caller = some (.refund provider input phase) →
    phase.settling = true → ∃ call, s.idempotency.calls caller = some call ∧ call.phase = .running
  carried : ∀ refund ∈ s.executed, Carried deps s refund

theorem refundStep_settling {phase : RefundPhase}
    (did : refundStep caller now provider input payment refunds phase = some (payment',refunds',phase'))
    (settling : phase'.settling = true) : phase.settling = true := by
  cases phase with
  | checking | listing =>
      simp only [refundStep] at did
      repeat' split at did
      all_goals cases did; cases settling
  | prepared | refunding | returned | thrown | crashed => cases did
  | reserving | claiming | mismatched | releasing | reverting | unreleased | rereading | finalizing => rfl

-- The last step of a refund that was carried out: its row is confirmed and returned.
theorem refundStep_carried {phase : RefundPhase} (accounted : Accounted payment refunds)
    (standing : phase.standing input payment refunds caller) (carried : phase.carried = true)
    (did : refundStep caller now provider input payment refunds phase = some (payment',refunds',phase')) :
    phase'.carried = true ∧ ∀ row ∈ refunds, row.id = caller → outstanding row = true →
      ∃ row' ∈ refunds', row'.id = caller ∧ outstanding row' = true ∧ row'.amount = row.amount := by
  cases phase with
  | finalizing reservation response status =>
      obtain ⟨⟨mine,row,member,here,_,_⟩,open_⟩ := standing
      have confirmed : findRefund (updateRefund refunds reservation.refundId status (some response.providerRefundId))
          reservation.refundId =
          some {row with status := status,providerRefundId := (some response.providerRefundId).or row.providerRefundId} := by
        have patched : {row with
            status := status,providerRefundId := (some response.providerRefundId).or row.providerRefundId} ∈
            updateRefund refunds reservation.refundId status (some response.providerRefundId) :=
          mem_patchKey_self member (here.trans mine.symm)
        have found := lookup_of_member (updateRefund_keyed accounted.keyed) patched
        rw [← here.trans mine.symm] at found ⊢
        exact found
      simp only [refundStep,confirmed] at did
      cases did
      refine ⟨rfl,?_⟩
      intro other inside its _
      refine ⟨_,mem_patchKey_self inside (its.trans mine.symm),its,?_,rfl⟩
      rcases open_ with rfl | rfl <;> rfl
  | returned | crashed => cases did
  | checking | listing | prepared | reserving | claiming | refunding | mismatched | releasing | reverting | unreleased
  | rereading | thrown => cases carried

-- A step of the ledger that is not part of run: what it leaves of the calls inside run,
-- and of the refunds that were carried out.
structure LedgerStep (s next : Ledger) : Prop where
  settling : ∀ caller provider input phase, next.parties caller = some (.refund provider input phase) →
    phase.settling = true → ∃ before, s.parties caller = some (.refund provider input before) ∧ before.settling = true
  carried : ∀ caller provider input phase, s.parties caller = some (.refund provider input phase) →
    phase.carried = true → ∃ after, next.parties caller = some (.refund provider input after) ∧ after.carried = true
  rows : ∀ caller provider input phase row, s.parties caller = some (.refund provider input phase) →
    phase.carried = true → row ∈ s.refunds → row.id = caller → outstanding row = true →
    ∃ row' ∈ next.refunds, row'.id = caller ∧ outstanding row' = true ∧ row'.amount = row.amount

theorem ledgerStep_put {s : Ledger} {party : Party}
    (settling : ∀ provider input phase, party = .refund provider input phase → phase.settling = true →
      ∃ before, s.parties caller = some (.refund provider input before) ∧ before.settling = true)
    (carried : ∀ provider input phase, s.parties caller = some (.refund provider input phase) →
      phase.carried = true → ∃ after, party = .refund provider input after ∧ after.carried = true) :
    LedgerStep s (s.put caller party) := by
  refine ⟨?_,?_,?_⟩
  · intro other provider input phase live inside
    rcases Ledger.put_cases live with ⟨_,before⟩ | ⟨mine,same⟩
    · exact ⟨phase,before,inside⟩
    · rw [mine]
      exact settling provider input phase same.symm inside
  · intro other provider input phase live outside
    by_cases mine : other = caller
    · subst mine
      obtain ⟨after,same,kept⟩ := carried provider input phase live outside
      exact ⟨after,by simp [Ledger.put,same],kept⟩
    · exact ⟨phase,by simp only [Ledger.put,Function.update_of_ne mine,live],outside⟩
  · intro other provider input phase row _ _ member here live
    exact ⟨row,member,here,live,rfl⟩

-- A party that is no refund, before and after.
theorem ledgerStep_other {s : Ledger} {before party : Party} (live : s.parties caller = some before)
    (apart : ∀ provider input phase, before ≠ .refund provider input phase)
    (apart' : ∀ provider input phase, party ≠ .refund provider input phase) : LedgerStep s (s.put caller party) := by
  apply ledgerStep_put
  · intro provider input phase same
    exact absurd same (apart' provider input phase)
  · intro provider input phase alive
    exact absurd (Option.some.inj (live.symm.trans alive)) (apart provider input phase)

theorem ledgerStep_write {s : Ledger} (step : LedgerStep s (s.put caller party))
    (write : Write caller s.payment s.refunds payment refunds)
    (mine : ∀ provider input phase, s.parties caller = some (.refund provider input phase) → phase.carried = true →
      ∀ row ∈ s.refunds, row.id = caller → outstanding row = true →
        ∃ row' ∈ refunds, row'.id = caller ∧ outstanding row' = true ∧ row'.amount = row.amount) :
    LedgerStep s ((s.put caller party).write payment refunds) := by
  refine ⟨step.settling,step.carried,?_⟩
  intro other provider input phase row live outside member here outstanding_
  by_cases same : other = caller
  · subst same
    exact mine provider input phase live outside row member here outstanding_
  · exact ⟨row,((write_framed write).others row (here ▸ same)).mpr member,here,outstanding_,rfl⟩

theorem ledgerStep_store {s : Ledger} {party : Party} (sound : Sound s) (live : s.parties caller = some party)
    (did : partyStep caller s.now s.payment s.refunds party = some (payment,refunds,after)) :
    LedgerStep s ((s.put caller after).write payment refunds) := by
  have standing := sound.standing caller party live
  have write := (partyStep_write standing did).1
  cases party with
  | refund provider input phase =>
      simp only [partyStep,Option.map_eq_some_iff] at did
      obtain ⟨⟨_,_,phase'⟩,did,same⟩ := did
      cases same
      apply ledgerStep_write (ledgerStep_put _ _) write
      · intro _ _ before alive outside
        rw [live] at alive
        cases alive
        exact (refundStep_carried sound.accounted standing outside did).2
      · intro _ _ after same inside
        cases same
        exact ⟨phase,live,refundStep_settling did inside⟩
      · intro _ _ before alive outside
        rw [live] at alive
        cases alive
        exact ⟨phase',rfl,(refundStep_carried sound.accounted standing outside did).1⟩
  | record input phase =>
      simp only [partyStep,Option.map_eq_some_iff] at did
      obtain ⟨⟨_,_,_⟩,_,same⟩ := did
      cases same
      refine ledgerStep_write (ledgerStep_other live (fun _ _ _ => Party.noConfusion) (fun _ _ _ => Party.noConfusion)) write ?_
      intro _ _ _ alive
      cases live.symm.trans alive
  | settle input phase =>
      simp only [partyStep,Option.map_eq_some_iff] at did
      obtain ⟨⟨_,_⟩,_,same⟩ := did
      cases same
      refine ledgerStep_write (ledgerStep_other live (fun _ _ _ => Party.noConfusion) (fun _ _ _ => Party.noConfusion)) write ?_
      intro _ _ _ alive
      cases live.symm.trans alive

theorem ledgerStep_abort {s : Ledger} {party : Party} {committed : Bool} (sound : Sound s)
    (unfinished : ∀ provider input reservation response status,
      s.parties caller ≠ some (.refund provider input (.finalizing reservation response status)))
    (live : s.parties caller = some party)
    (did : partyStep caller s.now s.payment s.refunds party = some (payment,refunds,after)) :
    LedgerStep s (if committed then (s.put caller party.storageThrew).write payment refunds
      else s.put caller party.storageThrew) := by
  have standing := sound.standing caller party live
  have write := (partyStep_write standing did).1
  have idle : ∀ provider input phase, s.parties caller = some (.refund provider input phase) → phase.carried = true →
      False := by
    intro provider input phase alive outside
    rw [live] at alive
    cases alive
    cases phase with
    | finalizing reservation response status => exact unfinished provider input reservation response status live
    | returned | crashed => cases did
    | checking | listing | prepared | reserving | claiming | refunding | mismatched | releasing | reverting
    | unreleased | rereading | thrown => cases outside
  have thrown : LedgerStep s (s.put caller party.storageThrew) := by
    apply ledgerStep_put
    · intro provider input phase same inside
      cases party <;> cases same
      cases inside
    · intro provider input phase alive outside
      exact (idle provider input phase alive outside).elim
  cases committed with
  | true =>
      apply ledgerStep_write thrown write
      intro provider input phase alive outside
      exact (idle provider input phase alive outside).elim
  | false => exact thrown

theorem ledgerStep_begin {s : Ledger} {party : Party} (fresh : s.parties caller = none)
    (unstarted : ∀ provider input phase, party = .refund provider input phase → phase.settling = false) :
    LedgerStep s (s.put caller party) := by
  apply ledgerStep_put
  · intro provider input phase same inside
    simp [unstarted provider input phase same] at inside
  · intro provider input phase live
    simp [fresh] at live

theorem beginRefund_unstarted (input : RefundPaymentActionInput) : (beginRefund input).settling = false := by
  unfold beginRefund
  split <;> rfl

-- A refund party that changes phase on its own, inside run or before it.
theorem ledgerStep_phase {s : Ledger} {phase phase' : RefundPhase}
    (live : s.parties caller = some (.refund provider input phase)) (outside : phase.carried = false)
    (inside : phase'.settling = true → phase.settling = true) :
    LedgerStep s (s.put caller (.refund provider input phase')) := by
  apply ledgerStep_put
  · intro _ _ _ same settling
    cases same
    exact ⟨phase,live,inside settling⟩
  · intro _ _ _ alive carried
    rw [live] at alive
    cases alive
    simp [outside] at carried

theorem retrying_ledger {s : Retried} {ledger : Ledger} (retrying : Retrying deps s) (sound : Sound ledger)
    (step : LedgerStep s.ledger ledger) : Retrying deps (s.withLedger ledger) := by
  refine ⟨sound,retrying.effects,retrying.unique,retrying.keyed,?_,?_⟩
  · intro caller provider input phase live settling
    obtain ⟨before,alive,inside⟩ := step.settling caller provider input phase live settling
    exact retrying.running caller provider input before alive inside
  · intro refund member
    obtain ⟨key,⟨provider,input,phase,live,outside⟩,⟨row,inside,here,counts,amount⟩⟩ := retrying.carried refund member
    obtain ⟨after,alive,still⟩ := step.carried refund.caller provider input phase live outside
    obtain ⟨row',inside',here',counts',amount'⟩ := step.rows refund.caller provider input phase row live outside inside
      here counts
    exact ⟨key,⟨provider,input,after,alive,still⟩,⟨row',inside',here',counts',amount'.trans amount⟩⟩

-- A call of execute moves on, the store with it.
theorem retrying_moved {s : Retried} {call : Idempotency.Call Refund Refund LedgerError}
    {rows : Idempotency.Rows Refund} {phase : Idempotency.Phase Refund Refund LedgerError}
    (retrying : Retrying deps s) (live : s.idempotency.calls caller = some call)
    (effects : Idempotency.Effects Unfailed (Done s) {s.idempotency.put caller {call with phase := phase} with rows := rows})
    (idle : ∀ provider input phase, s.ledger.parties caller = some (.refund provider input phase) →
      phase.settling = false) :
    Retrying deps (s.withIdempotency {s.idempotency.put caller {call with phase := phase} with rows := rows}) := by
  refine ⟨retrying.sound,effects,retrying.unique,?_,?_,?_⟩
  · intro other its alive
    by_cases same : other = caller
    · subst same
      have equal := Option.some.inj ((Idempotency.put_self s.idempotency).symm.trans alive)
      subst equal
      exact retrying.keyed other call live
    · exact retrying.keyed other its ((Idempotency.put_other s.idempotency same).symm.trans alive)
  · intro other provider input settling alive inside
    by_cases same : other = caller
    · subst same
      simp [idle provider input settling alive] at inside
    · obtain ⟨its,before,still⟩ := retrying.running other provider input settling alive inside
      exact ⟨its,(Idempotency.put_other s.idempotency same).trans before,still⟩
  · intro refund member
    have carried := retrying.carried refund member
    exact ⟨carried.key,carried.party,carried.row⟩

theorem retrying_idle {s : Retried} (retrying : Retrying deps s) (live : s.idempotency.calls caller = some call)
    (waiting : call.phase ≠ .running) :
    ∀ provider input phase, s.ledger.parties caller = some (.refund provider input phase) → phase.settling = false := by
  intro provider input phase alive
  by_contra inside
  obtain ⟨its,there,running⟩ := retrying.running caller provider input phase alive (by simpa using inside)
  rw [live,Option.some.injEq] at there
  exact waiting (there ▸ running)

theorem isExecuted_done {s : Retried} : isExecuted s caller = true ↔ Done s caller := by
  simp [isExecuted,Done]

theorem retrying_store {s : Retried} (retrying : Retrying deps s) (careful : Careful s (.store caller fault))
    (moved : Idempotency.advance some s.idempotency (.store caller fault) = some idempotency) :
    Retrying deps (s.withIdempotency idempotency) := by
  have step := Idempotency.advance_step moved
  have spent : Idempotency.TakesOverSpent Unfailed s.idempotency
      (.store caller fault : Idempotency.Action Refund LedgerError) := by
    intro call lockedUntil existing row live before taken open_
    have failed : row.status = .failed := by
      simpa [Careful,Refunds.careful,live,before,taken,open_] using careful
    exact ⟨failed,fun unfailed => unfailed failed⟩
  have fails : Idempotency.FailsHeld Unfailed (Done s) s.idempotency
      (.store caller fault : Idempotency.Action Refund LedgerError) := by
    intro call error expiresAt done live before effective
    have executed := isExecuted_done.mpr done
    simp [Careful,Refunds.careful,live,before,executed,effective] at careful
  have effects := Idempotency.effects_preserved retrying.effects (fun _ unfailed => unfailed) spent fails step
  cases step with
  | store live did => exact retrying_moved retrying live effects (retrying_idle retrying live (Idempotency.stored_idle did))

theorem retrying_compute {s : Retried} (retrying : Retrying deps s)
    (moved : Idempotency.advance some s.idempotency (.compute caller) = some idempotency) :
    Retrying deps (s.withIdempotency idempotency) := by
  have step := Idempotency.advance_step moved
  have effects := Idempotency.effects_preserved retrying.effects (fun _ unfailed => unfailed) (by trivial) (by trivial) step
  cases step with
  | compute live did =>
      exact retrying_moved retrying live effects (retrying_idle retrying live (Idempotency.localStep_waiting did))

-- run settles, as its party has returned or thrown.
theorem retrying_settle {s : Retried} {outcome : Except LedgerError Refund} (retrying : Retrying deps s)
    (finished : ∀ provider input phase, s.ledger.parties caller = some (.refund provider input phase) →
      phase.settling = false)
    (moved : Idempotency.advance some s.idempotency (.settle caller outcome) = some idempotency) :
    Retrying deps (s.withIdempotency idempotency) := by
  have step := Idempotency.advance_step moved
  have effects := Idempotency.effects_preserved retrying.effects (fun _ unfailed => unfailed) (by trivial) (by trivial) step
  cases step with
  | settle live did => exact retrying_moved retrying live effects finished

-- handle hands the refund to execute.
theorem retrying_begin {s : Retried} (retrying : Retrying deps s) (fresh : s.keys caller = none)
    (party : s.ledger.parties caller = some (.refund provider input (.prepared payment requested)))
    (moved : Idempotency.advance some s.idempotency
      (.begin caller service (refundExecution deps key payment requested)) = some idempotency) :
    Retrying deps ((s.withIdempotency idempotency).withKey caller key) := by
  have step := Idempotency.advance_step moved
  have effects := Idempotency.effects_preserved retrying.effects (fun _ unfailed => unfailed) (by trivial) (by trivial) step
  cases step with
  | begin unbegun =>
      have apart : ∀ refund ∈ s.executed, refund.caller ≠ caller := by
        intro refund member same
        have carried := (retrying.carried refund member).key
        simp [same,fresh] at carried
      refine ⟨retrying.sound,effects,retrying.unique,?_,?_,?_⟩
      · intro other call live
        by_cases same : other = caller
        · subst same
          cases Option.some.inj (live.symm.trans (Idempotency.put_self s.idempotency))
          exact ⟨key,Function.update_self _ _ _,rfl⟩
        · have before := (Idempotency.put_other s.idempotency same).symm.trans live
          obtain ⟨its,known,here⟩ := retrying.keyed other call before
          exact ⟨its,(Function.update_of_ne same _ _).trans known,here⟩
      · intro other provider' input' phase alive inside
        have elsewhere : other ≠ caller := by
          intro same
          subst same
          cases Option.some.inj (alive.symm.trans party)
          cases inside
        obtain ⟨its,there,still⟩ := retrying.running other provider' input' phase alive inside
        exact ⟨its,(Idempotency.put_other s.idempotency elsewhere).trans there,still⟩
      · intro refund member
        have carried := retrying.carried refund member
        exact ⟨(Function.update_of_ne (apart refund member) _ _).trans carried.key,carried.party,carried.row⟩

-- What happens in the ledger on its own: none of it inside run, and no crash.
def Action.apart : Action → Bool
  | .run _ | .refunded _ _ | .crash _ | .tick _ => false
  | _ => true

-- Every step of the retries, read back.
inductive Tried (deps : Deps) (s : Retried) : Retry → Retried → Prop where
  | ledger (apart : action.apart = true) (did : advance s.ledger action = some ledger) :
      Tried deps s (.ledger action) (s.withLedger ledger)
  | unkeyed (live : s.ledger.parties caller = some (.refund provider input (.prepared payment requested))) :
      Tried deps s (.execute caller) (s.withLedger (s.ledger.put caller (.refund provider input (.thrown .typeError))))
  | unlocked (live : s.ledger.parties caller = some (.refund provider input (.prepared payment requested)))
      (fresh : s.keys caller = none) (given : refundKey deps payment requested input = some key)
      (unconfigured : deps.idempotency = none) (did : advance s.ledger (.run caller) = some ledger) :
      Tried deps s (.execute caller) ((s.withLedger ledger).withKey caller key)
  | execute (live : s.ledger.parties caller = some (.refund provider input (.prepared payment requested)))
      (fresh : s.keys caller = none) (given : refundKey deps payment requested input = some key)
      (did : Idempotency.advance some s.idempotency (.begin caller service (refundExecution deps key payment requested)) =
        some idempotency) :
      Tried deps s (.execute caller) ((s.withIdempotency idempotency).withKey caller key)
  | store (did : Idempotency.advance some s.idempotency (.store caller fault) = some idempotency) :
      Tried deps s (.store caller fault) (s.withIdempotency idempotency)
  | compute (did : Idempotency.advance some s.idempotency (.compute caller) = some idempotency) :
      Tried deps s (.compute caller) (s.withIdempotency idempotency)
  | run (inside : running s caller = true) (did : advance s.ledger (.run caller) = some ledger) :
      Tried deps s (.run caller) (s.withLedger ledger)
  | refunded (live : s.ledger.parties caller = some (.refund provider input (.refunding payment reservation)))
      (known : s.keys caller = some key) (did : advance s.ledger (.refunded caller reply) = some ledger) :
      Tried deps s (.refunded caller effective reply) {s.withLedger ledger with
        executed := if effective then s.executed ++ [⟨caller,key,reservation.requested⟩] else s.executed}
  | returned (live : s.ledger.parties caller = some (.refund provider input (.returned refund)))
      (did : Idempotency.advance some s.idempotency (.settle caller (.ok refund)) = some idempotency) :
      Tried deps s (.settle caller) (s.withIdempotency idempotency)
  | thrown (live : s.ledger.parties caller = some (.refund provider input (.thrown error)))
      (did : Idempotency.advance some s.idempotency (.settle caller (.error error)) = some idempotency) :
      Tried deps s (.settle caller) (s.withIdempotency idempotency)
  | crash (did : advance s.ledger (.crash caller) = some ledger) :
      Tried deps s (.crash caller) ((s.withLedger ledger).withIdempotency
        ((Idempotency.advance some s.idempotency (.crash caller)).getD s.idempotency))
  | tick (did : advance s.ledger (.tick elapsed) = some ledger)
      (ticked : Idempotency.advance some s.idempotency (.tick elapsed) = some idempotency) :
      Tried deps s (.tick elapsed) ((s.withLedger ledger).withIdempotency idempotency)

theorem execute_tried {s next : Retried} (moved : execute deps s caller = some next) : Tried deps s (.execute caller) next := by
  unfold execute at moved
  split at moved
  · rename_i live fresh
    split at moved
    · cases moved
      exact .unkeyed live
    · rename_i given unconfigured
      obtain ⟨ledger,did,same⟩ := Option.map_eq_some_iff.mp moved
      exact same ▸ .unlocked live fresh given unconfigured did
    · rename_i given _
      obtain ⟨idempotency,did,same⟩ := Option.map_eq_some_iff.mp moved
      exact same ▸ .execute live fresh given did
  · cases moved

theorem retry_tried {s next : Retried} (moved : retry deps s action = some next) : Tried deps s action next := by
  cases action with
  | ledger action =>
      cases action with
      | run | refunded | crash | tick => cases moved
      | beginRefund | beginRecord | beginSettle | store | abort | settled =>
          obtain ⟨ledger,did,same⟩ := Option.map_eq_some_iff.mp moved
          exact same ▸ .ledger rfl did
  | execute caller => exact execute_tried moved
  | store caller fault =>
      obtain ⟨idempotency,did,same⟩ := Option.map_eq_some_iff.mp moved
      exact same ▸ .store did
  | compute caller =>
      obtain ⟨idempotency,did,same⟩ := Option.map_eq_some_iff.mp moved
      exact same ▸ .compute did
  | run caller =>
      simp only [retry] at moved
      split at moved
      · rename_i inside
        obtain ⟨ledger,did,same⟩ := Option.map_eq_some_iff.mp moved
        exact same ▸ .run inside did
      · cases moved
  | refunded caller effective reply =>
      simp only [retry] at moved
      split at moved
      · rename_i live known
        obtain ⟨ledger,did,same⟩ := Option.map_eq_some_iff.mp moved
        exact same ▸ .refunded live known did
      · cases moved
  | settle caller =>
      simp only [retry] at moved
      split at moved
      · rename_i live
        obtain ⟨idempotency,did,same⟩ := Option.map_eq_some_iff.mp moved
        exact same ▸ .returned live did
      · rename_i live
        obtain ⟨idempotency,did,same⟩ := Option.map_eq_some_iff.mp moved
        exact same ▸ .thrown live did
      · cases moved
  | crash caller =>
      obtain ⟨ledger,did,same⟩ := Option.map_eq_some_iff.mp moved
      exact same ▸ .crash did
  | tick elapsed =>
      simp only [retry,Option.bind_eq_bind,Option.bind_eq_some_iff] at moved
      obtain ⟨ledger,did,idempotency,ticked,same⟩ := moved
      cases same
      exact .tick did ticked

-- A refund party moves on while its run is under way.
theorem retrying_phase {s : Retried} {phase phase' : RefundPhase} (retrying : Retrying deps s)
    (live : s.ledger.parties caller = some (.refund provider input phase)) (outside : phase.carried = false)
    (inside : ∃ call, s.idempotency.calls caller = some call ∧ call.phase = .running)
    (sound : Sound (s.ledger.put caller (.refund provider input phase'))) :
    Retrying deps (s.withLedger (s.ledger.put caller (.refund provider input phase'))) := by
  refine ⟨sound,retrying.effects,retrying.unique,retrying.keyed,?_,?_⟩
  · intro other provider' input' its alive settling
    by_cases same : other = caller
    · subst same
      exact inside
    · exact retrying.running other provider' input' its ((Function.update_of_ne same _ _).symm.trans alive) settling
  · intro refund member
    have carried := retrying.carried refund member
    obtain ⟨provider',input',its,alive,kept⟩ := carried.party
    have elsewhere : refund.caller ≠ caller := by
      intro same
      rw [same] at alive
      cases Option.some.inj (alive.symm.trans live)
      simp [outside] at kept
    exact ⟨carried.key,⟨provider',input',its,(Function.update_of_ne elsewhere _ _).trans alive,kept⟩,carried.row⟩

theorem retrying_run {s : Retried} (retrying : Retrying deps s) (inside : running s caller = true)
    (moved : advance s.ledger (.run caller) = some ledger) : Retrying deps (s.withLedger ledger) := by
  have sound := (advance_write retrying.sound moved).1
  cases advance_moved moved with
  | run live => exact retrying_phase retrying live rfl (Idempotency.isRunning_call inside) sound

-- The provider carries a refund out: its answer confirms the reservation, and no other
-- call holds the record of its key.
theorem retrying_refunded {s : Retried} (retrying : Retrying deps s) (careful : Careful s (.refunded caller effective reply))
    (live : s.ledger.parties caller = some (.refund provider input (.refunding payment reservation)))
    (known : s.keys caller = some key) (moved : advance s.ledger (.refunded caller reply) = some ledger) :
    Retrying deps {s.withLedger ledger with
      executed := if effective then s.executed ++ [⟨caller,key,reservation.requested⟩] else s.executed} := by
  have sound := (advance_write retrying.sound moved).1
  have backed : Backed s.ledger.refunds caller reservation := retrying.sound.standing caller _ live
  obtain ⟨call,there,inside⟩ := retrying.running caller provider input _ live rfl
  simp only [advance,live,Option.map_eq_some_iff] at moved
  obtain ⟨phase,replied,rfl⟩ := moved
  have before := retrying_phase retrying live rfl ⟨call,there,inside⟩ sound
  cases effective with
  | false => exact before
  | true =>
      have unspent : ∀ refund ∈ s.executed, refund.caller ≠ caller := by
        intro refund member same
        obtain ⟨_,_,its,alive,kept⟩ := (retrying.carried refund member).party
        rw [same] at alive
        cases Option.some.inj (alive.symm.trans live)
        cases kept
      have confirmed : phase.carried = true := by
        cases reply with
        | threw => simp [Careful,Refunds.careful,live] at careful
        | answered response =>
            simp only [Careful,Refunds.careful,live,Bool.and_eq_true,beq_iff_eq,Bool.or_eq_true] at careful
            obtain ⟨amount,named⟩ := careful
            simp only [refundReplied,amount,ne_eq,not_true,or_self,if_false] at replied
            rcases named with named | named <;> rw [named] at replied <;> cases replied <;> rfl
      have effects := retrying.effects.perform (fun _ unfailed => unfailed) there inside
      have done : Done {s.withLedger (s.ledger.put caller (.refund provider input phase)) with
          executed := s.executed ++ [⟨caller,key,reservation.requested⟩]} = fun i => Done s i ∨ i = caller := by
        funext i
        simp [Done,or_and_right,exists_or,eq_comm]
      refine ⟨before.sound,done ▸ effects,keyed_append retrying.unique unspent,before.keyed,before.running,?_⟩
      intro refund member
      rcases List.mem_append.mp member with old | new
      · have carried := before.carried refund old
        exact ⟨carried.key,carried.party,carried.row⟩
      · cases List.mem_singleton.mp new
        obtain ⟨_,row,inside_,here,pending,amount⟩ := backed
        exact ⟨known,⟨provider,input,phase,Function.update_self _ _ _,confirmed⟩,
          ⟨row,inside_,here,by simp [outstanding,pending],amount⟩⟩

theorem retrying_outside {s : Retried} (retrying : Retrying deps s) (careful : Careful s (.ledger action))
    (apart : action.apart = true) (moved : advance s.ledger action = some ledger) : Retrying deps (s.withLedger ledger) := by
  apply retrying_ledger retrying (advance_write retrying.sound moved).1
  cases advance_moved moved with
  | run | refunded | crash | tick => cases apart
  | @beginRefund _ _ input absent =>
      apply ledgerStep_begin absent
      intro _ _ _ same
      cases same
      exact beginRefund_unstarted input
  | beginRecord absent | beginSettle absent => exact ledgerStep_begin absent (by simp)
  | store live did => exact ledgerStep_store retrying.sound live did
  | abort live did =>
      refine ledgerStep_abort retrying.sound ?_ live did
      intro provider input reservation response status finalizing
      simp [Careful,Refunds.careful,finalizing] at careful
  | settled live => exact ledgerStep_other live (fun _ _ _ => Party.noConfusion) (fun _ _ _ => Party.noConfusion)

-- A crash takes both the party and its call of execute.
theorem retrying_crash {s : Retried} (retrying : Retrying deps s)
    (moved : advance s.ledger (.crash caller) = some ledger) :
    Retrying deps ((s.withLedger ledger).withIdempotency
      ((Idempotency.advance some s.idempotency (.crash caller)).getD s.idempotency)) := by
  have sound := (advance_write retrying.sound moved).1
  obtain ⟨party,live,same⟩ := Option.map_eq_some_iff.mp moved
  subst same
  have stopped : ∀ provider input phase, party.crash = .refund provider input phase → phase = .crashed := by
    intro provider input phase crashed
    cases party <;> cases crashed
    rfl
  have step : LedgerStep s.ledger (s.ledger.put caller party.crash) := by
    apply ledgerStep_put
    · intro provider input phase crashed inside
      rw [stopped provider input phase crashed] at inside
      cases inside
    · intro provider input phase alive _
      cases Option.some.inj (live.symm.trans alive)
      exact ⟨.crashed,rfl,rfl⟩
  have put := retrying_ledger retrying sound step
  cases begun : s.idempotency.calls caller with
  | none =>
      simp only [Idempotency.advance,begun,Option.bind_eq_bind,Option.bind_none,Option.getD_none]
      exact put
  | some call =>
      simp only [Idempotency.advance,begun,Option.bind_eq_bind,Option.bind_some,Option.getD_some]
      have crashed : Idempotency.Step some s.idempotency (.crash caller : Idempotency.Action Refund LedgerError)
          (s.idempotency.put caller {call with phase := .crashed}) := .crash begun
      have effects := Idempotency.effects_preserved put.effects (fun _ unfailed => unfailed) (by trivial) (by trivial) crashed
      refine retrying_moved put begun effects ?_
      intro provider input phase alive
      have is := stopped provider input phase (Option.some.inj ((Ledger.put_self s.ledger).symm.trans alive))
      rw [is]
      rfl

theorem retrying_tick {s : Retried} (retrying : Retrying deps s) (moved : advance s.ledger (.tick elapsed) = some ledger)
    (ticked : Idempotency.advance some s.idempotency (.tick elapsed) = some idempotency) :
    Retrying deps ((s.withLedger ledger).withIdempotency idempotency) := by
  cases moved
  cases ticked
  have sound := retrying.sound
  have effects := retrying.effects
  refine ⟨⟨sound.accounted,sound.begun,sound.standing⟩,⟨effects.running,effects.held⟩,retrying.unique,retrying.keyed,
    retrying.running,?_⟩
  intro refund member
  have carried := retrying.carried refund member
  exact ⟨carried.key,carried.party,carried.row⟩

theorem retrying_preserved {s next : Retried} (configured : deps.idempotency ≠ none) (retrying : Retrying deps s)
    (careful : Careful s action) (moved : retry deps s action = some next) : Retrying deps next := by
  cases retry_tried moved with
  | ledger apart did => exact retrying_outside retrying careful apart did
  | @unkeyed caller provider input _ _ live =>
      have step : LedgerStep s.ledger (s.ledger.put caller (.refund provider input (.thrown .typeError))) :=
        ledgerStep_phase live rfl (by simp [RefundPhase.settling])
      exact retrying_ledger retrying (sound_put retrying.sound trivial) step
  | unlocked _ _ _ unconfigured => exact absurd unconfigured configured
  | execute live fresh _ did => exact retrying_begin retrying fresh live did
  | store did => exact retrying_store retrying careful did
  | compute did => exact retrying_compute retrying did
  | run inside did => exact retrying_run retrying inside did
  | refunded live known did => exact retrying_refunded retrying careful live known did
  | returned live did | thrown live did =>
      refine retrying_settle retrying ?_ did
      intro provider input phase alive
      cases Option.some.inj (live.symm.trans alive)
      rfl
  | crash did => exact retrying_crash retrying did
  | tick did ticked => exact retrying_tick retrying did ticked

theorem reached_retrying {s : Retried} (configured : deps.idempotency ≠ none)
    (path : Reached (retries deps) Careful s) : Retrying deps s := by
  refine path.invariant (Retrying deps) ?_ ?_
  · intro u initial
    obtain ⟨payment,now,collected,same⟩ := initial
    subst same
    refine ⟨sound_opened (collected_unrefunded collected),⟨?_,?_⟩,List.nodup_nil,?_,?_,?_⟩
    · intro caller call live
      cases live
    · rintro caller ⟨refund,member,_⟩
      cases member
    · intro caller call live
      cases live
    · intro caller provider input phase live
      cases live
    · intro refund member
      cases member
  · intro u action next _ retrying careful moved
    exact retrying_preserved configured retrying careful moved

-- At most one refund is carried out for a key, and the ledger counts every one.
theorem retried_refunds_once {s : Retried} (configured : deps.idempotency ≠ none)
    (path : Reached (retries deps) Careful s) :
    (∀ key, (s.executed.filter (·.key == key)).length ≤ 1) ∧
      total Executed.amount s.executed ≤ s.ledger.payment.refundedAmount := by
  have retrying := reached_retrying configured path
  refine ⟨?_,?_⟩
  · intro key
    apply keyed_alone retrying.unique
    intro one first other second same same'
    have left := retrying.carried one first
    have right := retrying.carried other second
    obtain ⟨a,_,liveOne,_⟩ := retrying.effects.held one.caller ⟨one,first,rfl⟩
    obtain ⟨b,_,liveOther,_⟩ := retrying.effects.held other.caller ⟨other,second,rfl⟩
    refine retrying.effects.alone ⟨one,first,rfl⟩ ⟨other,second,rfl⟩ liveOne liveOther ?_
    obtain ⟨key₁,known₁,slot₁⟩ := retrying.keyed _ a liveOne
    obtain ⟨key₂,known₂,slot₂⟩ := retrying.keyed _ b liveOther
    rw [left.key,Option.some.injEq] at known₁
    rw [right.key,Option.some.injEq] at known₂
    rw [slot₁,slot₂,← known₁,← known₂,beq_iff_eq.mp same,beq_iff_eq.mp same']
  · rw [retrying.sound.accounted.balance]
    apply total_covered Refund.id Executed.caller s.executed s.ledger.refunds retrying.unique
    · intro refund member
      obtain ⟨row,inside,here,counts,amount⟩ := (retrying.carried refund member).row
      exact ⟨row,inside,here,by simp [counted,counts,amount]⟩
    · exact counted_nonneg retrying.sound.accounted

section Schedules

def trustMyTravel : Deps :=
  ⟨none,"trust-my-travel",some (Idempotency.Service.create ⟨none,none,none,none⟩),Text.asciiUpperCase,fun _ _ => 0⟩

def refundKey40 : String := "refund::trust-my-travel:pay_1:40:EUR:return-1"

def asked (caller : Nat) : List Retry :=
  [.ledger (.beginRefund caller "trust-my-travel" ⟨some ⟨40,"EUR"⟩,some "return-1"⟩),.ledger (.store caller),
    .ledger (.store caller),.execute caller]

def reserved (caller : Nat) : List Retry := [.run caller,.ledger (.store caller),.ledger (.store caller)]

-- The refund takes effect and the call throws; 30 s later a retry takes the record over.
def lostRefund : List Retry :=
  [asked 0,[.store 0 .none,.compute 0,.store 0 .none],reserved 0,
    [.refunded 0 true .threw,.ledger (.store 0),.ledger (.store 0),.settle 0,.store 0 .none],
  [.tick 30000],asked 1,[.store 1 .none,.compute 1,.store 1 .none,.store 1 .none,.compute 1,.store 1 .none],reserved 1,
    [.refunded 1 true (.answered ⟨"re_2","succeeded",⟨40,"EUR"⟩⟩),.ledger (.store 1)]].flatten

theorem started_initial (collected : Collected payment) (now : Int) :
    (retries deps).initial (started payment now) := ⟨payment,now,collected,rfl⟩

theorem retried_refund_twice :
    ∃ s : Retried, Reached (retries trustMyTravel) anyStep s ∧
      (s.executed.filter (·.key == refundKey40)).length = 2 ∧
      ¬ total Executed.amount s.executed ≤ s.ledger.payment.refundedAmount := by
  have passed : (run (retries trustMyTravel) anyStep (started cardPayment 0) lostRefund).any (fun s =>
      (s.executed.filter (·.key == refundKey40)).length == 2 &&
        decide (¬ total Executed.amount s.executed ≤ s.ledger.payment.refundedAmount)) = true := by decide +kernel
  obtain ⟨s,path,found⟩ := run_reaches (started_initial ⟨rfl,rfl,by decide⟩ 0) passed
  simp only [Bool.and_eq_true,beq_iff_eq,decide_eq_true_eq] at found
  exact ⟨s,path,found⟩

-- The refund is answered and its completion not acknowledged, and a retry in flight is refused by the record.
def answeredRefund : List Retry :=
  [asked 0,asked 1,[.store 0 .none,.compute 0,.store 0 .none],reserved 0,
    [.refunded 0 true (.answered ⟨"re_1","succeeded",⟨40,"EUR"⟩⟩),.ledger (.store 0),.settle 0],
    [.store 0 .unacknowledged,.store 0 .none,.compute 0,.store 1 .none,.compute 1]].flatten

theorem retried_refunds_once_answered :
    ∃ s : Retried, s.executed.length = 1 ∧ (s.executed.filter (·.key == refundKey40)).length ≤ 1 ∧
      total Executed.amount s.executed ≤ s.ledger.payment.refundedAmount := by
  have passed : (run (retries trustMyTravel) Careful (started cardPayment 0) answeredRefund).any (fun s =>
      s.executed.length == 1) = true := by decide +kernel
  obtain ⟨s,path,found⟩ := run_reaches (started_initial ⟨rfl,rfl,by decide⟩ 0) passed
  obtain ⟨once,counted⟩ := retried_refunds_once (by simp [trustMyTravel]) path
  exact ⟨s,by simpa using found,once refundKey40,counted⟩

end Schedules

end Payable.Refunds
