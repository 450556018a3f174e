import Payable.Refunds.Completions

namespace Payable.Refunds
open Domain Tables Runs

-- handle of the caller has come to its end with the refund, and its completed record has not expired.
structure Completed (s : Retried) (caller : Nat) (provider : String) (input : RefundPaymentActionInput) (refund : Refund)
    (record : Idempotency.Record Refund) : Prop where
  party : s.ledger.parties caller = some (.refund provider input (.returned refund))
  call : ∃ call, s.idempotency.calls caller = some call ∧ call.phase = .returned (.own refund) ∧
    s.idempotency.rows call.slot = some record
  completed : record.status = .completed
  token : record.lockToken = some caller
  unexpired : Idempotency.isExpired s.idempotency.now record = false

-- The steps of one call and of nobody else, up to the run of a refund; time goes on while the record has not expired.
def Repeating (caller : Nat) (provider : String) (input : RefundPaymentActionInput) (record : Idempotency.Record Refund)
    (s : Retried) : Retry → Prop
  | .ledger (.beginRefund other provider' input') => other = caller ∧ provider' = provider ∧ input' = input
  | .ledger (.store other) | .execute other | .compute other => other = caller
  | .store other fault => other = caller ∧ fault = .none
  | .tick elapsed => Idempotency.isExpired (s.idempotency.now + elapsed) record = false
  | _ => False

-- revive: the refund as it is stored now.
def revive (refunds : List Refund) (response : Refund) : Refund := (findRefund refunds response.id).getD response

-- What handle has come to: the refund it returns, or none where it throws or runs the refund.
def answer (s : Retried) (caller : Nat) : Option (Option Refund) :=
  match s.idempotency.calls caller with
  | some call => match call.phase with
    | .returned (.own refund) => some (some refund)
    | .returned (.stored response) => some (response.map (revive s.ledger.refunds))
    | .thrown _ | .running => some none
    | _ => none
  | none => match s.ledger.parties caller with
    | some (.refund _ _ (.thrown _)) => some none
    | _ => none

-- The repeated call returns the refund again, whatever it meets, and leaves everything as it is.
structure Replays (deps : Deps) (s : Retried) (caller : Nat) (provider : String) (input : RefundPaymentActionInput)
    (refund : Refund) (record : Idempotency.Record Refund) : Prop where
  always : ∀ t, Path (retries deps) (Repeating caller provider input record) s t →
    t.ledger.payment = s.ledger.payment ∧ t.ledger.refunds = s.ledger.refunds ∧ t.executed = s.executed ∧
      ∀ result, answer t caller = some result → result = some refund
  once : ∃ t, Path (retries deps) (Repeating caller provider input record) s t ∧ answer t caller = some (some refund)

-- What the first call has to leave: a payment that can still be refunded by the amount, no pending refund, and an
-- amount that gives the same key.
structure Repeatable (deps : Deps) (s : Retried) (caller : Nat) (input : RefundPaymentActionInput) : Prop where
  status : refundable s.ledger.payment.status = true
  settled : (listByPayment s.ledger.refunds).any (·.status = .pending) = false
  left : 0 < remaining s.ledger.payment
  fits : named input s.ledger.payment ≤ remaining s.ledger.payment
  key : refundKey deps s.ledger.payment (named input s.ledger.payment) input = s.keys caller

abbrev RefundCall := Idempotency.Call Refund Refund LedgerError

def Unrun : Idempotency.Phase Refund Refund LedgerError → Prop
  | .reading | .read _ | .acquiring _ | .rereading _ | .reread _ _ | .takingOver _ _ | .running | .returned (.stored _) | .thrown _ => True
  | _ => False

-- Where a call stands that has met the payment and the refunds as they are in s.
inductive Stage (deps : Deps) (s : Retried) (provider : String) (input : RefundPaymentActionInput) :
    Option Party → Option RefundCall → Prop where
  | absent : Stage deps s provider input none none
  | checking : Stage deps s provider input (some (.refund provider input .checking)) none
  | listing (open_ : refundable s.ledger.payment.status = true) :
      Stage deps s provider input (some (.refund provider input (.listing s.ledger.payment))) none
  | prepared (open_ : refundable s.ledger.payment.status = true)
      (checked : checkRefund s.ledger.payment input (listByPayment s.ledger.refunds) = .ok requested) :
      Stage deps s provider input (some (.refund provider input (.prepared s.ledger.payment requested))) none
  | refused : Stage deps s provider input (some (.refund provider input (.thrown error))) none
  | called (open_ : refundable s.ledger.payment.status = true)
      (checked : checkRefund s.ledger.payment input (listByPayment s.ledger.refunds) = .ok requested)
      (given : refundKey deps s.ledger.payment requested input = some key) (unrun : Unrun phase) :
      Stage deps s provider input (some (.refund provider input (.prepared s.ledger.payment requested)))
        (some ⟨service,refundExecution deps key s.ledger.payment requested,phase⟩)

structure Alone (deps : Deps) (s : Retried) (caller : Nat) (provider : String) (input : RefundPaymentActionInput) (t : Retried) :
    Prop where
  payment : t.ledger.payment = s.ledger.payment
  refunds : t.ledger.refunds = s.ledger.refunds
  executed : t.executed = s.executed
  others : ∀ other, other ≠ caller → t.idempotency.calls other = s.idempotency.calls other
  stage : Stage deps s provider input (t.ledger.parties caller) (t.idempotency.calls caller)
  keyed : t.keys caller = none ↔ t.idempotency.calls caller = none

variable {deps : Deps} {s t next : Retried} {provider : String} {input : RefundPaymentActionInput}

-- A step of the ledger that puts the party in another phase.
theorem alone_put (alone : Alone deps s caller provider input t) (absent : t.idempotency.calls caller = none)
    (stage : Stage deps s provider input (some party) none) :
    Alone deps s caller provider input (t.withLedger (t.ledger.put caller party)) := by
  refine ⟨alone.payment,alone.refunds,alone.executed,alone.others,?_,alone.keyed⟩
  show Stage deps s provider input ((t.ledger.put caller party).parties caller) (t.idempotency.calls caller)
  rw [Ledger.put_self,absent]
  exact stage

theorem alone_checked (alone : Alone deps s caller provider input t)
    (moved : retry deps t (.ledger (.store caller)) = some next) : Alone deps s caller provider input next := by
  obtain ⟨ledger,did,rfl⟩ := Option.map_eq_some_iff.mp moved
  have stage := alone.stage
  cases advance_moved did with
  | @store _ party payment refunds after live ran =>
      rw [live] at stage
      have kept : ∀ phase, party = .refund provider input phase → t.idempotency.calls caller = none →
          ∀ phase', refundStep caller t.ledger.now provider input t.ledger.payment t.ledger.refunds phase =
            some (t.ledger.payment,t.ledger.refunds,phase') → Stage deps s provider input (some (.refund provider input phase')) none →
          Alone deps s caller provider input (t.withLedger ((t.ledger.put caller after).write payment refunds)) := by
        intro phase same absent phase' step stage'
        subst same
        simp only [partyStep,step,Option.map_some,Option.some.injEq,Prod.mk.injEq] at ran
        obtain ⟨rfl,rfl,rfl⟩ := ran
        exact alone_put alone absent stage'
      generalize standing : t.idempotency.calls caller = call at stage
      cases stage with
      | checking =>
          by_cases known : t.ledger.payment.providerPaymentId = none
          · exact kept .checking rfl standing _ (by simp only [refundStep]; rw [if_pos known]) .refused
          · by_cases open_ : refundable t.ledger.payment.status = false
            · exact kept .checking rfl standing _ (by simp only [refundStep]; rw [if_neg known,if_pos open_]) .refused
            · refine kept .checking rfl standing (.listing t.ledger.payment) (by simp only [refundStep]; rw [if_neg known,if_neg open_]) ?_
              rw [alone.payment] at open_ ⊢
              exact .listing (by simpa using open_)
      | listing open_ =>
          cases checked : checkRefund s.ledger.payment input (listByPayment s.ledger.refunds) with
          | error error =>
              refine kept _ rfl standing (.thrown error) ?_ .refused
              simp only [refundStep,alone.refunds,checked]
          | ok requested =>
              refine kept _ rfl standing (.prepared s.ledger.payment requested) ?_ (.prepared open_ checked)
              simp only [refundStep,alone.refunds,checked]
      | prepared | refused | called =>
          simp only [partyStep,refundStep,Option.map_none] at ran
          cases ran

theorem alone_begun (alone : Alone deps s caller provider input t)
    (moved : retry deps t (.ledger (.beginRefund caller provider input)) = some next) : Alone deps s caller provider input next := by
  obtain ⟨ledger,did,rfl⟩ := Option.map_eq_some_iff.mp moved
  have stage := alone.stage
  cases advance_moved did with
  | beginRefund absent =>
      rw [absent] at stage
      generalize standing : t.idempotency.calls caller = call at stage
      cases stage
      refine alone_put alone standing ?_
      unfold beginRefund
      split
      · exact .refused
      · exact .checking

theorem alone_executed (configured : deps.idempotency ≠ none) (alone : Alone deps s caller provider input t)
    (moved : retry deps t (.execute caller) = some next) : Alone deps s caller provider input next := by
  have stage := alone.stage
  have keyed := alone.keyed
  obtain ⟨service,its⟩ := Option.ne_none_iff_exists'.mp configured
  change execute deps t caller = some next at moved
  unfold execute at moved
  split at moved
  · rename_i prior_provider prior_input payment requested live fresh
    rw [live,keyed.mp fresh] at stage
    cases stage with
    | prepared open_ checked =>
        cases given : refundKey deps s.ledger.payment requested input with
        | none =>
            simp only [given,Option.some.injEq] at moved
            subst moved
            exact alone_put alone (keyed.mp fresh) .refused
        | some key =>
            simp only [given,its,Option.map_eq_some_iff] at moved
            obtain ⟨idempotency,did,rfl⟩ := moved
            cases Idempotency.advance_step did with
            | begin absent =>
                refine ⟨alone.payment,alone.refunds,alone.executed,?_,?_,?_⟩
                · intro other apart
                  exact (Idempotency.put_other t.idempotency apart).trans (alone.others other apart)
                · change Stage deps s provider input (t.ledger.parties caller) ((t.idempotency.put caller _).calls caller)
                  rw [live,Idempotency.put_self]
                  exact .called open_ checked given trivial
                · change Function.update t.keys caller (some key) caller = none ↔ (t.idempotency.put caller _).calls caller = none
                  rw [Function.update_self,Idempotency.put_self]
                  simp
  · cases moved

-- A step of the call inside execute.
theorem alone_moved (alone : Alone deps s caller provider input t) (live : t.idempotency.calls caller = some call)
    (goes : Unrun call.phase → Unrun phase) :
    Alone deps s caller provider input
      (t.withIdempotency {t.idempotency.put caller {call with phase := phase} with rows := rows}) := by
  refine ⟨alone.payment,alone.refunds,alone.executed,?_,?_,?_⟩
  · intro other apart
    exact (Idempotency.put_other t.idempotency apart).trans (alone.others other apart)
  · change Stage deps s provider input (t.ledger.parties caller) ((t.idempotency.put caller {call with phase := phase}).calls caller)
    rw [Idempotency.put_self]
    have stage := alone.stage
    rw [live] at stage
    generalize t.ledger.parties caller = party at stage
    cases stage with
    | called open_ checked given unrun => exact .called open_ checked given (goes unrun)
  · have called : t.keys caller ≠ none := by
      intro fresh
      cases live.symm.trans (alone.keyed.mp fresh)
    change t.keys caller = none ↔ (t.idempotency.put caller {call with phase := phase}).calls caller = none
    rw [Idempotency.put_self]
    simp [called]

theorem unrun_stored {call : RefundCall} (unrun : Unrun call.phase)
    (did : Idempotency.storeStep some caller call now rows .none = some (rows',phase)) : Unrun phase := by
  unfold Idempotency.storeStep at did
  generalize call.phase = before at unrun did
  cases before with
  | reading | rereading =>
      cases did
      trivial
  | acquiring | takingOver =>
      cases did
      split
      · trivial
      · split <;> trivial
  | read | reread | running | thrown => cases did
  | returned answer => cases did
  | readingLegacy | readLegacy | completing | verifying | verified | failing | crashed => cases unrun

theorem unrun_computed {call : RefundCall} (unrun : Unrun call.phase)
    (did : Idempotency.localStep caller call now = some phase) : Unrun phase := by
  unfold Idempotency.localStep at did
  generalize call.phase = before at unrun did
  cases before with
  | read =>
      dsimp only at did
      split at did <;> cases did <;> trivial
  | reread =>
      dsimp only at did
      split at did
      · cases did
        trivial
      · cases did
        trivial
      · split at did <;> cases did <;> trivial
  | reading | rereading | acquiring | takingOver | running | thrown => cases did
  | returned answer => cases did
  | readingLegacy | readLegacy | completing | verifying | verified | failing | crashed => cases unrun

theorem alone_step (configured : deps.idempotency ≠ none) (alone : Alone deps s caller provider input t)
    (mine : Repeating caller provider input record t action) (moved : retry deps t action = some next) :
    Alone deps s caller provider input next := by
  cases action with
  | ledger inner =>
      cases inner with
      | beginRefund other provider' input' =>
          obtain ⟨rfl,rfl,rfl⟩ := mine
          exact alone_begun alone moved
      | store other =>
          cases mine
          exact alone_checked alone moved
      | beginRecord | beginSettle | run | abort | refunded | settled | crash | tick => cases mine
  | execute other =>
      cases mine
      exact alone_executed configured alone moved
  | store other fault =>
      obtain ⟨rfl,rfl⟩ := mine
      obtain ⟨idempotency,did,rfl⟩ := Option.map_eq_some_iff.mp moved
      simp only [Idempotency.advance,Option.bind_eq_bind,Option.bind_eq_some_iff] at did
      obtain ⟨call,live,⟨rows,phase⟩,ran,same⟩ := did
      cases same
      exact alone_moved alone live fun unrun => unrun_stored unrun ran
  | compute other =>
      cases mine
      obtain ⟨idempotency,did,rfl⟩ := Option.map_eq_some_iff.mp moved
      simp only [Idempotency.advance,Option.bind_eq_bind,Option.bind_eq_some_iff] at did
      obtain ⟨call,live,phase,ran,same⟩ := did
      cases same
      exact alone_moved alone live fun unrun => unrun_computed unrun ran
  | tick elapsed =>
      cases moved
      exact ⟨alone.payment,alone.refunds,alone.executed,alone.others,alone.stage,alone.keyed⟩
  | run | refunded | settle | crash => cases mine

theorem alone_path (configured : deps.idempotency ≠ none) (alone : Alone deps s caller provider input s)
    (path : Path (retries deps) (Repeating caller provider input record) s t) : Alone deps s caller provider input t :=
  path.invariant (Alone deps s caller provider input) alone fun _ _ _ alone mine moved => alone_step configured alone mine moved

-- A caller nobody has begun has called nothing.
theorem alone_start (named : Named deps s) (fresh : s.ledger.parties caller = none) : Alone deps s caller provider input s := by
  obtain ⟨unkeyed,uncalled⟩ := (named.each caller).early (by rw [fresh]; rfl)
  have absent : s.idempotency.calls caller = none := Option.map_eq_none_iff.mp uncalled
  refine ⟨rfl,rfl,rfl,fun _ _ => rfl,?_,⟨fun _ => absent,fun _ => unkeyed⟩⟩
  rw [fresh,absent]
  exact .absent

end Payable.Refunds
