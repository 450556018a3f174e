import Payable.Payments.Settlements

namespace Payable.Payments
open Domain Refunds Runs

-- A record that nobody may take over under this policy.
def Firm (row : Idempotency.Record Payment) : Prop :=
  (row.status = .processing ∨ row.status = .failed) ∧ row.expiresAt = none

-- Where a call of the lifecycle can be while the payment is authorized, and what it has
-- seen of the stored record.
def Standing (stored : Option (Idempotency.Record Payment)) (caller : Nat) :
    Idempotency.Phase Payment Payment LedgerError → Prop
  | .reading | .acquiring _ | .thrown _ | .crashed => True
  | .read existing => ∀ row, existing = some row → Firm row
  | .rereading _ => stored ≠ none
  | .reread _ existing => ∃ row, existing = some row ∧ Firm row
  | .running => ∃ row, stored = some row ∧ row.lockToken = some caller
  | .failing _ expiresAt => expiresAt = none
  | _ => False

-- Inside mutate, past its read of the payment.
def mutated : SettlePhase → Bool
  | .expiring | .settling _ | .committing _ _ _ => true
  | _ => false

-- A call that will not reach the provider again.
def passed : SettlePhase → Bool
  | .loading | .mutating => false
  | _ => true

structure Unsettled (deps : SettleDeps) (s : Settlements) : Prop where
  initial : ∀ caller first, s.initial caller = some first → first = s.ledger.payment
  calls : ∀ caller call, s.idempotency.calls caller = some call →
    (∃ key input, call.execution = settlementExecution deps key s.ledger.payment input) ∧
      Standing (s.idempotency.rows (settlementSlot deps s.ledger.payment)) caller call.phase
  firm : ∀ row, s.idempotency.rows (settlementSlot deps s.ledger.payment) = some row → Firm row
  busy : ∀ caller input phase, s.ledger.parties caller = some (.settle input phase) → mutated phase = true →
    inRun s caller = true
  open_ : ∀ caller input, s.ledger.parties caller ≠ some (.settle input .returned)
  issued : ∀ call ∈ s.issued, (∃ row, s.idempotency.rows (settlementSlot deps s.ledger.payment) = some row ∧
      row.lockToken = some call.caller) ∧
    ∃ input phase, s.ledger.parties call.caller = some (.settle input phase) ∧ passed phase = true

structure Once (deps : SettleDeps) (s : Settlements) : Prop where
  settles : ∀ caller party, s.ledger.parties caller = some party → ∃ input phase, party = .settle input phase ∧ phase.standing
  few : s.issued.length ≤ 1
  unsettled : s.ledger.payment.status = .authorized → Unsettled deps s

variable {deps : SettleDeps}

structure NotNative (deps : SettleDeps) : Prop where
  capture : deps.captureNative = false
  void : deps.voidNative = false

theorem nativeIdempotency_none (native : NotNative deps) (operation : Settlement) :
    nativeIdempotency deps operation = false := by
  cases operation with
  | capture => exact native.capture
  | void => exact native.void

theorem settlement_policy (native : NotNative deps) (service : Idempotency.Service) (key : String) (initial : Payment)
    (input : SettleAuthorizationInput) :
    Idempotency.resolvePolicy service (settlementExecution deps key initial input) =
      ⟨false,false,service.lockTtlMs,none,.reconciliationRequired⟩ := by
  simp [Idempotency.resolvePolicy,settlementExecution,nativeIdempotency_none native]

-- Every write of a settlement ends the authorization, and no call returns without one.
theorem settleStep_ends {phase : SettlePhase} (standing : phase.standing)
    (did : settleStep input now payment phase = some (payment',phase')) :
    payment' = payment ∧ phase' ≠ .returned ∨ payment'.status ≠ .authorized := by
  cases phase with
  | loading | mutating =>
      simp only [settleStep] at did
      repeat' split at did
      all_goals cases did; exact .inl ⟨rfl,by simp⟩
  | expiring =>
      simp only [settleStep,updateStatusIfAuthorized] at did
      split at did <;> cases did
      · exact .inr (by simp)
      · exact .inl ⟨rfl,by simp⟩
  | committing status capturedAmount providerPaymentId =>
      simp only [settleStep,updateStatusIfAuthorized] at did
      by_cases authorized : payment.status = .authorized
      · rw [if_pos authorized] at did
        cases did
        refine .inr ?_
        rcases standing with rfl | rfl <;> simp
      · rw [if_neg authorized] at did
        cases did
        exact .inl ⟨rfl,by simp⟩
  | settling | returned | thrown | crashed => cases did

theorem settleStep_onward {phase : SettlePhase}
    (did : settleStep input now payment phase = some (payment',phase')) :
    (passed phase = true → passed phase' = true) ∧ (mutated phase' = true → phase = .mutating) := by
  cases phase with
  | loading | mutating | expiring | committing =>
      simp only [settleStep] at did
      repeat' split at did
      all_goals cases did; exact ⟨by simp [passed],by simp [mutated]⟩
  | settling | returned | thrown | crashed => cases did

-- Only mutate's own read of an authorized payment leads to the provider.
theorem settleStep_settling {phase : SettlePhase}
    (did : settleStep input now payment phase = some (payment',.settling first)) :
    phase = .mutating ∧ payment' = payment ∧ payment.status = .authorized := by
  cases phase with
  | mutating =>
      simp only [settleStep] at did
      repeat' split at did
      all_goals cases did
      rename_i authorized _ _
      exact ⟨rfl,rfl,by simpa using authorized⟩
  | loading | expiring | committing =>
      simp only [settleStep] at did
      repeat' split at did
      all_goals cases did
  | settling | returned | thrown | crashed => cases did

-- A firm record is refused, or is a processing one whose lock has run out.
theorem firm_replay (firm : Firm row) (now : Int) (requestHash : Nat) (key : String) (lockTtlMs : Int) :
    (∃ error, (Idempotency.replay now (some row) requestHash key ⟨false,false,lockTtlMs,none,.reconciliationRequired⟩ :
      Idempotency.Replay Payment LedgerError) = .refused error) ∨
    row.status = .processing ∧
      (Idempotency.replay now (some row) requestHash key ⟨false,false,lockTtlMs,none,.reconciliationRequired⟩ :
        Idempotency.Replay Payment LedgerError) = .unhandled := by
  obtain ⟨status,fixed⟩ := firm
  unfold Idempotency.replay
  simp only [Idempotency.isExpired,fixed,Option.any_none,Bool.false_eq_true,if_false]
  by_cases hash : row.requestHash = requestHash
  · rcases status with processing | failed
    · by_cases locked : Idempotency.isLocked now row = true
      · exact .inl ⟨.inProgress key,by simp [hash,processing,locked]⟩
      · exact .inr ⟨processing,by simp [hash,processing,locked]⟩
    · exact .inl ⟨.reconciliationRequired key,by simp [hash,failed]⟩
  · exact .inl ⟨.conflict key,by simp [hash]⟩

theorem localStep_standing {call : Idempotency.Call Payment Payment LedgerError} (native : NotNative deps)
    (given : call.execution = settlementExecution deps key initial input) (standing : Standing stored caller call.phase)
    (did : Idempotency.localStep caller call now = some phase) : Standing stored caller phase := by
  have policy : call.policy = ⟨false,false,call.service.lockTtlMs,none,.reconciliationRequired⟩ := by
    rw [Idempotency.Call.policy,given]
    exact settlement_policy native _ _ _ _
  unfold Idempotency.localStep at did
  cases before : call.phase with
  | read existing =>
      rw [before] at standing
      simp only [before,policy] at did
      cases existing with
      | none =>
          simp only [Idempotency.replay] at did
          cases did
          trivial
      | some row =>
          rcases firm_replay (standing row rfl) now call.execution.requestHash call.execution.key
            call.service.lockTtlMs with ⟨error,refused⟩ | ⟨_,unhandled⟩
          · rw [refused] at did
            cases did
            trivial
          · rw [unhandled] at did
            cases did
            trivial
  | reread lockedUntil existing =>
      rw [before] at standing
      obtain ⟨row,found,firm⟩ := standing
      subst found
      simp only [before,policy] at did
      rcases firm_replay firm now call.execution.requestHash call.execution.key
        call.service.lockTtlMs with ⟨error,refused⟩ | ⟨processing,unhandled⟩
      · rw [refused] at did
        cases did
        trivial
      · rw [unhandled] at did
        simp only [Option.any_some,processing,decide_true,and_self,if_true] at did
        cases did
        trivial
  | readLegacy | verified =>
      rw [before] at standing
      exact standing.elim
  | readingLegacy | reading | acquiring | rereading | takingOver | running | completing | verifying | failing
  | returned | thrown | crashed => simp [before] at did

-- What one call's store step leaves in the lifecycle's slot.
structure Kept (stored after : Option (Idempotency.Record Payment)) : Prop where
  firm : (∀ row, stored = some row → Firm row) → ∀ row, after = some row → Firm row
  token : ∀ row, stored = some row → ∃ row', after = some row' ∧ row'.lockToken = row.lockToken

theorem kept_refl : Kept stored stored := ⟨fun before => before,fun row found => ⟨row,found,rfl⟩⟩

theorem standing_kept (kept : Kept stored after) (standing : Standing stored caller phase) :
    Standing after caller phase := by
  cases phase with
  | reading | acquiring | thrown | crashed => trivial
  | read | reread | failing => exact standing
  | rereading lockedUntil =>
      obtain ⟨row,found⟩ := Option.ne_none_iff_exists'.mp standing
      obtain ⟨row',after_,_⟩ := kept.token row found
      rw [Standing,after_]
      exact Option.some_ne_none row'
  | running =>
      obtain ⟨row,found,token⟩ := standing
      obtain ⟨row',after_,same⟩ := kept.token row found
      exact ⟨row',after_,same.trans token⟩
  | readingLegacy | readLegacy | takingOver | completing | verifying | verified | returned => exact standing.elim

theorem stored_kept {call : Idempotency.Call Payment Payment LedgerError} (standing : Standing (rows call.slot) caller call.phase)
    (firm : ∀ row, rows call.slot = some row → Firm row)
    (did : Idempotency.Stored some caller call now rows .none rows' phase) :
    Kept (rows call.slot) (rows' call.slot) ∧ Standing (rows' call.slot) caller phase := by
  cases did with
  | read before => exact ⟨kept_refl,firm⟩
  | reread before =>
      rw [before] at standing
      obtain ⟨row,found⟩ := Option.ne_none_iff_exists'.mp standing
      exact ⟨kept_refl,row,found,firm row found⟩
  | acquired before free =>
      refine ⟨⟨?_,?_⟩,_,Function.update_self _ _ _,rfl⟩
      · intro _ row found
        rw [Function.update_self,Option.some.injEq] at found
        subst found
        exact ⟨.inl rfl,rfl⟩
      · intro row found
        rw [free] at found
        cases found
  | raced before taken =>
      refine ⟨kept_refl,?_⟩
      rw [Standing,taken]
      exact Option.some_ne_none _
  | failed before written =>
      rw [before] at standing
      rcases written with rfl | ⟨_,row,found,_,rfl⟩
      · exact ⟨kept_refl,trivial⟩
      · refine ⟨⟨?_,?_⟩,trivial⟩
        · intro _ after here
          rw [Function.update_self,Option.some.injEq] at here
          subst here
          exact ⟨.inr rfl,standing⟩
        · intro other here
          rw [found,Option.some.injEq] at here
          subst here
          exact ⟨_,Function.update_self _ _ _,rfl⟩
  | unread _ threw | acquireThrew _ threw | takeOverThrew _ threw | unverified _ threw => exact absurd rfl threw
  | legacyRead before | tookOver before | unclaimed before | completed before | verified before =>
      rw [before] at standing
      exact standing.elim

theorem inRun_idle {s : Settlements} (live : s.idempotency.calls caller = some call) (idle : call.phase ≠ .running) :
    inRun s caller = false := by
  by_contra running
  obtain ⟨its,alive,is⟩ := Idempotency.isRunning_call ((Bool.not_eq_false _).mp running)
  rw [live,Option.some.injEq] at alive
  exact idle (alive ▸ is)

-- A party moves on while the payment stays what it is.
theorem unsettled_put {s : Settlements} (input : SettleAuthorizationInput) (unsettled : Unsettled deps s)
    (onward : ∀ input phase, s.ledger.parties caller = some (.settle input phase) → passed phase = true → passed phase' = true)
    (running : mutated phase' = true → inRun s caller = true) (open_ : phase' ≠ .returned) :
    Unsettled deps (s.withLedger (s.ledger.put caller (.settle input phase'))) := by
  refine ⟨unsettled.initial,unsettled.calls,unsettled.firm,?_,?_,?_⟩
  · intro other input' phase live inside
    rcases Ledger.put_cases live with ⟨_,before⟩ | ⟨mine,same⟩
    · exact unsettled.busy other input' phase before inside
    · cases same
      exact mine ▸ running inside
  · intro other input' live
    rcases Ledger.put_cases live with ⟨_,before⟩ | ⟨_,same⟩
    · exact unsettled.open_ other input' before
    · cases same
      exact open_ rfl
  · intro call member
    obtain ⟨holds,input',phase,live,spent⟩ := unsettled.issued call member
    refine ⟨holds,?_⟩
    by_cases mine : call.caller = caller
    · rw [mine] at live ⊢
      exact ⟨input,phase',Ledger.put_self s.ledger,onward input' phase live spent⟩
    · exact ⟨input',phase,(Ledger.put_other s.ledger mine).trans live,spent⟩

-- A call of execute moves on, its record with it.
theorem unsettled_call {s : Settlements} {call : Idempotency.Call Payment Payment LedgerError}
    {rows : Idempotency.Rows Payment} {phase : Idempotency.Phase Payment Payment LedgerError} (unsettled : Unsettled deps s)
    (live : s.idempotency.calls caller = some call)
    (kept : Kept (s.idempotency.rows (settlementSlot deps s.ledger.payment)) (rows (settlementSlot deps s.ledger.payment)))
    (standing : Standing (rows (settlementSlot deps s.ledger.payment)) caller phase)
    (quiet : inRun s caller = true → ∀ input phase, s.ledger.parties caller = some (.settle input phase) →
      mutated phase = false) :
    Unsettled deps (s.withIdempotency {s.idempotency.put caller {call with phase := phase} with rows := rows}) := by
  refine ⟨unsettled.initial,?_,kept.firm unsettled.firm,?_,unsettled.open_,?_⟩
  · intro other its alive
    by_cases mine : other = caller
    · subst mine
      have same := Option.some.inj ((Idempotency.put_self s.idempotency).symm.trans alive)
      subst same
      exact ⟨(unsettled.calls other call live).1,standing⟩
    · obtain ⟨given,before⟩ := unsettled.calls other its ((Idempotency.put_other s.idempotency mine).symm.trans alive)
      exact ⟨given,standing_kept kept before⟩
  · intro other input phase' alive inside
    have running := unsettled.busy other input phase' alive inside
    by_cases mine : other = caller
    · subst mine
      rw [quiet running input phase' alive] at inside
      cases inside
    · obtain ⟨its,there,is⟩ := Idempotency.isRunning_call running
      refine (Option.any_eq_true _ _).mpr ⟨its,?_,by rw [is]; rfl⟩
      exact (Idempotency.put_other s.idempotency mine).trans there
  · intro call' member
    obtain ⟨⟨row,found,token⟩,party⟩ := unsettled.issued call' member
    obtain ⟨row',after,same⟩ := kept.token row found
    exact ⟨⟨row',after,same.trans token⟩,party⟩

theorem unsettled_begin {s : Settlements} (unsettled : Unsettled deps s) (known : s.initial caller = some first)
    (moved : Idempotency.advance some s.idempotency (.begin caller service (settlementExecution deps key first input)) =
      some idempotency) : Unsettled deps (s.withIdempotency idempotency) := by
  have same := unsettled.initial caller first known
  subst same
  cases Idempotency.advance_step moved with
  | begin fresh =>
      refine ⟨unsettled.initial,?_,unsettled.firm,?_,unsettled.open_,unsettled.issued⟩
      · intro other call alive
        by_cases mine : other = caller
        · subst mine
          have same := Option.some.inj ((Idempotency.put_self s.idempotency).symm.trans alive)
          subst same
          exact ⟨⟨key,input,rfl⟩,trivial⟩
        · exact unsettled.calls other call ((Idempotency.put_other s.idempotency mine).symm.trans alive)
      · intro other input phase alive inside
        obtain ⟨its,there,is⟩ := Idempotency.isRunning_call (unsettled.busy other input phase alive inside)
        have mine : other ≠ caller := by
          intro same
          rw [same,fresh] at there
          cases there
        refine (Option.any_eq_true _ _).mpr ⟨its,?_,by rw [is]; rfl⟩
        exact (Idempotency.put_other s.idempotency mine).trans there

theorem call_slot (unsettled : Unsettled deps s) (live : s.idempotency.calls caller = some call) :
    call.slot = settlementSlot deps s.ledger.payment := by
  obtain ⟨⟨key,input,given⟩,_⟩ := unsettled.calls caller call live
  rw [Idempotency.Call.slot,given]
  rfl

theorem unsettled_store {s : Settlements} (unsettled : Unsettled deps s)
    (moved : Idempotency.advance some s.idempotency (.store caller .none) = some idempotency) :
    Unsettled deps (s.withIdempotency idempotency) := by
  cases Idempotency.advance_step moved with
  | store live did =>
      have slot := call_slot unsettled live
      obtain ⟨kept,standing⟩ := stored_kept (slot ▸ (unsettled.calls _ _ live).2) (slot ▸ unsettled.firm) did
      rw [slot] at kept standing
      refine unsettled_call unsettled live kept standing ?_
      intro running
      rw [inRun_idle live (Idempotency.stored_idle did)] at running
      cases running

theorem unsettled_compute {s : Settlements} (native : NotNative deps) (unsettled : Unsettled deps s)
    (moved : Idempotency.advance some s.idempotency (.compute caller) = some idempotency) :
    Unsettled deps (s.withIdempotency idempotency) := by
  cases Idempotency.advance_step moved with
  | compute live did =>
      obtain ⟨⟨key,input,given⟩,before⟩ := unsettled.calls _ _ live
      refine unsettled_call unsettled live kept_refl (localStep_standing native given before did) ?_
      intro running
      rw [inRun_idle live (Idempotency.localStep_waiting did)] at running
      cases running

-- run throws: the record fails for good.
theorem unsettled_settle {s : Settlements} (native : NotNative deps) (unsettled : Unsettled deps s)
    (party : s.ledger.parties caller = some (.settle input (.thrown error)))
    (moved : Idempotency.advance some s.idempotency (.settle caller (.error error)) = some idempotency) :
    Unsettled deps (s.withIdempotency idempotency) := by
  cases Idempotency.advance_step moved with
  | settle live did =>
      rename_i call phase
      obtain ⟨⟨key,input',given⟩,before⟩ := unsettled.calls _ _ live
      have fails : Standing (s.idempotency.rows (settlementSlot deps s.ledger.payment)) caller phase := by
        have running := Idempotency.settleStep_running did
        simp only [Idempotency.settleStep,running,Option.some.injEq] at did
        subst did
        rw [Standing,Idempotency.Call.policy,given,settlement_policy native]
        rfl
      refine unsettled_call unsettled live kept_refl fails ?_
      intro _ input phase alive
      rw [party,Option.some.injEq] at alive
      cases alive
      rfl

theorem ledger_store {s : Settlements} (once : Once deps s) (moved : advance s.ledger (.store caller) = some ledger) :
    ∃ input phase payment' phase', s.ledger.parties caller = some (.settle input phase) ∧ phase.standing ∧
      settleStep input s.ledger.now s.ledger.payment phase = some (payment',phase') ∧
      ledger = (s.ledger.put caller (.settle input phase')).write payment' s.ledger.refunds := by
  cases advance_moved moved with
  | @store _ party _ _ _ live did =>
      obtain ⟨input,phase,is,standing⟩ := once.settles caller party live
      subst is
      simp only [partyStep,Option.map_eq_some_iff] at did
      obtain ⟨⟨payment',phase'⟩,step,given⟩ := did
      cases given
      exact ⟨input,phase,_,phase',live,standing,step,rfl⟩

theorem settles_put {s : Settlements} {phase' : SettlePhase} (once : Once deps s) (standing : phase'.standing) :
    ∀ other party, (s.ledger.put caller (.settle input phase')).parties other = some party →
      ∃ input phase, party = .settle input phase ∧ phase.standing := by
  intro other party live
  rcases Ledger.put_cases live with ⟨_,before⟩ | ⟨_,same⟩
  · exact once.settles other party before
  · exact ⟨input,phase',same,standing⟩

theorem once_put {s : Settlements} {phase' : SettlePhase} (once : Once deps s) (standing : phase'.standing)
    (onward : ∀ input phase, s.ledger.parties caller = some (.settle input phase) → passed phase = true → passed phase' = true)
    (running : mutated phase' = true → inRun s caller = true) (open_ : phase' ≠ .returned) :
    Once deps (s.withLedger (s.ledger.put caller (.settle input phase'))) :=
  ⟨settles_put once standing,once.few,fun authorized => unsettled_put input (once.unsettled authorized) onward running open_⟩

theorem once_call {s : Settlements} (once : Once deps s) (unsettled : Unsettled deps s → Unsettled deps (s.withIdempotency idempotency)) :
    Once deps (s.withIdempotency idempotency) :=
  ⟨once.settles,once.few,fun authorized => unsettled (once.unsettled authorized)⟩

-- handle's read: what it finds is what the payment is, for as long as it is authorized.
theorem once_load {s next : Settlements} (once : Once deps s) (moved : settleAdvance deps s (.load caller) = some next) :
    Once deps next := by
  simp only [settleAdvance] at moved
  split at moved
  · rename_i _ asked loading
    obtain ⟨ledger,did,same⟩ := Option.map_eq_some_iff.mp moved
    obtain ⟨input,phase,payment',phase',live,standing,step,is⟩ := ledger_store once did
    rw [loading,Option.some.injEq] at live
    cases live
    subst is
    subst same
    have kept : payment' = s.ledger.payment ∧ phase' ≠ .returned ∧ mutated phase' = false ∧ phase'.standing := by
      simp only [settleStep] at step
      repeat' split at step
      all_goals cases step; exact ⟨rfl,by simp,rfl,trivial⟩
    obtain ⟨same,open_,early,standing'⟩ := kept
    subst same
    have onward : ∀ input phase, s.ledger.parties caller = some (.settle input phase) → passed phase = true →
        passed phase' = true := by
      intro _ _ alive spent
      rw [loading,Option.some.injEq] at alive
      cases alive
      cases spent
    refine ⟨settles_put once standing',once.few,?_⟩
    intro authorized
    have unsettled := once.unsettled authorized
    have put := unsettled_put asked unsettled onward (by simp [early]) open_
    refine ⟨?_,put.calls,put.firm,put.busy,put.open_,put.issued⟩
    intro other first known
    change Function.update s.initial caller (some s.ledger.payment) other = some first at known
    by_cases mine : other = caller
    · subst mine
      rw [Function.update_self,Option.some.injEq] at known
      exact known.symm
    · rw [Function.update_of_ne mine] at known
      exact unsettled.initial other first known
  · cases moved

theorem issuedBy_none (party : Option Party) (quiet : ∀ input first, party ≠ some (.settle input (.settling first))) :
    issuedBy caller party = [] := by
  unfold issuedBy
  split
  · rename_i input first
    exact absurd rfl (quiet input first)
  · rfl

-- The one step that may reach the provider: nobody has, or the payment is not authorized.
theorem once_mutate {s next : Settlements} (once : Once deps s) (moved : settleAdvance deps s (.mutate caller) = some next) :
    Once deps next := by
  simp only [settleAdvance] at moved
  split at moved
  · cases moved
  · split at moved
    · rename_i running
      obtain ⟨ledger,did,same⟩ := Option.map_eq_some_iff.mp moved
      obtain ⟨input,phase,payment',phase',live,standing,step,is⟩ := ledger_store once did
      subst is
      subst same
      have standing' : phase'.standing :=
        (settleStep_write standing step : Write caller s.ledger.payment [] payment' [] ∧ phase'.standing).2
      have reached : ((s.ledger.put caller (.settle input phase')).write payment' s.ledger.refunds).parties caller =
          some (.settle input phase') := Ledger.put_self s.ledger
      have onward : ∀ input phase, s.ledger.parties caller = some (.settle input phase) → passed phase = true →
          passed phase' = true := by
        intro _ _ alive spent
        rw [live,Option.some.injEq] at alive
        cases alive
        exact (settleStep_onward step).1 spent
      by_cases asks : ∃ first, phase' = .settling first
      · obtain ⟨first,is⟩ := asks
        subst is
        obtain ⟨rfl,rfl,authorized⟩ := settleStep_settling step
        have unsettled := once.unsettled authorized
        obtain ⟨call,begun,is⟩ := Idempotency.isRunning_call running
        obtain ⟨row,found,token⟩ : ∃ row, s.idempotency.rows (settlementSlot deps s.ledger.payment) = some row ∧
            row.lockToken = some caller := by
          have standing := (unsettled.calls caller call begun).2
          rw [is] at standing
          exact standing
        -- Whoever has been at the provider holds the record that this call holds.
        have first_ : s.issued = [] := by
          cases already : s.issued with
          | nil => rfl
          | cons earlier rest =>
              obtain ⟨⟨row',found',token'⟩,input',phase',alive,spent⟩ :=
                unsettled.issued earlier (by rw [already]; exact List.mem_cons_self)
              rw [found,Option.some.injEq] at found'
              subst found'
              rw [token,Option.some.injEq] at token'
              rw [← token',live,Option.some.injEq] at alive
              cases alive
              cases spent
        have put := unsettled_put input unsettled onward (fun _ => running) (by simp)
        refine ⟨settles_put once standing',?_,?_⟩
        · show (s.issued ++ issuedBy caller _).length ≤ 1
          rw [first_,reached]
          exact Nat.le_refl 1
        · intro _
          refine ⟨put.initial,put.calls,put.firm,put.busy,put.open_,?_⟩
          intro issued member
          have mine : issued = ⟨caller,operationName input.operation⟩ := by
            have member : issued ∈ s.issued ++ issuedBy caller
              (((s.ledger.put caller (.settle input (.settling first))).write s.ledger.payment s.ledger.refunds).parties
                caller) := member
            rw [first_,reached] at member
            exact List.mem_singleton.mp member
          subst mine
          exact ⟨⟨row,found,token⟩,input,.settling first,reached,rfl⟩
      · have silent : s.issued ++ issuedBy caller
            (((s.ledger.put caller (.settle input phase')).write payment' s.ledger.refunds).parties caller) = s.issued := by
          rw [reached,issuedBy_none,List.append_nil]
          intro input' first same
          rw [Option.some.injEq,Party.settle.injEq] at same
          exact asks ⟨first,same.2⟩
        have put : Once deps (s.withLedger ((s.ledger.put caller (.settle input phase')).write payment' s.ledger.refunds)) := by
          refine ⟨settles_put once standing',once.few,?_⟩
          intro authorized
          rcases settleStep_ends standing step with ⟨same,open_⟩ | ended
          · subst same
            exact unsettled_put input (once.unsettled authorized) onward (fun _ => running) open_
          · exact absurd authorized ended
        rw [silent]
        exact put
    · cases moved

theorem once_handOver {s next : Settlements} (once : Once deps s) (moved : settleAdvance deps s (.execute caller) = some next) :
    Once deps next := by
  simp only [settleAdvance,handOver] at moved
  split at moved
  · rename_i input initial live known
    split at moved
    · cases moved
      refine once_put once trivial ?_ (by simp [mutated]) (by simp)
      intro _ _ _ _
      rfl
    · obtain ⟨idempotency,began,same⟩ := Option.map_eq_some_iff.mp moved
      subst same
      exact once_call once fun unsettled => unsettled_begin unsettled known began
  · cases moved

theorem once_settle {s next : Settlements} (native : NotNative deps) (once : Once deps s)
    (moved : settleAdvance deps s (.settle caller) = some next) : Once deps next := by
  simp only [settleAdvance] at moved
  split at moved
  · rename_i input live
    obtain ⟨idempotency,settled,same⟩ := Option.map_eq_some_iff.mp moved
    subst same
    exact once_call once fun unsettled => absurd live (unsettled.open_ caller input)
  · rename_i input error live
    obtain ⟨idempotency,settled,same⟩ := Option.map_eq_some_iff.mp moved
    subst same
    exact once_call once fun unsettled => unsettled_settle native unsettled live settled
  · cases moved

theorem once_crash {s next : Settlements} (once : Once deps s) (moved : settleAdvance deps s (.crash caller) = some next) :
    Once deps next := by
  obtain ⟨ledger,did,same⟩ := Option.map_eq_some_iff.mp moved
  obtain ⟨party,live,given⟩ := Option.map_eq_some_iff.mp did
  obtain ⟨input,phase,is,_⟩ := once.settles caller party live
  subst is
  subst given
  have put : Once deps (s.withLedger (s.ledger.put caller (.settle input .crashed))) := by
    refine once_put once trivial ?_ (by simp [mutated]) (by simp)
    intro _ _ _ _
    rfl
  rw [← same]
  cases begun : s.idempotency.calls caller with
  | none =>
      simp only [Idempotency.advance,begun,Option.bind_eq_bind,Option.bind_none,Option.getD_none]
      exact put
  | some call =>
      simp only [Idempotency.advance,begun,Option.bind_eq_bind,Option.bind_some,Option.getD_some]
      refine ⟨put.settles,put.few,?_⟩
      intro authorized
      refine unsettled_call (put.unsettled authorized) begun kept_refl trivial ?_
      intro _ input' phase' alive
      have same := Option.some.inj ((Ledger.put_self s.ledger).symm.trans alive)
      cases same
      rfl

theorem once_preserved {s next : Settlements} (native : NotNative deps) (once : Once deps s)
    (moved : settleAdvance deps s action = some next) : Once deps next := by
  cases action with
  | handle caller input =>
      obtain ⟨ledger,did,same⟩ := Option.map_eq_some_iff.mp moved
      simp only [advance] at did
      split at did <;> cases did
      rename_i absent
      subst same
      refine once_put once trivial ?_ (by simp [mutated]) (by simp)
      intro _ _ alive
      rw [absent] at alive
      cases alive
  | load caller => exact once_load once moved
  | execute caller => exact once_handOver once moved
  | store caller =>
      obtain ⟨idempotency,did,same⟩ := Option.map_eq_some_iff.mp moved
      subst same
      exact once_call once fun unsettled => unsettled_store unsettled did
  | compute caller =>
      obtain ⟨idempotency,did,same⟩ := Option.map_eq_some_iff.mp moved
      subst same
      exact once_call once fun unsettled => unsettled_compute native unsettled did
  | unlocked caller =>
      simp only [settleAdvance] at moved
      split at moved
      · split at moved <;> cases moved
        refine once_put once trivial ?_ (by simp [mutated]) (by simp)
        intro _ _ _ _
        rfl
      · cases moved
  | mutate caller => exact once_mutate once moved
  | settled caller reply =>
      obtain ⟨ledger,did,same⟩ := Option.map_eq_some_iff.mp moved
      simp only [advance] at did
      split at did
      · rename_i input phase live
        obtain ⟨phase',replied,is⟩ := Option.map_eq_some_iff.mp did
        subst is
        subst same
        have settling : ∃ first, phase = .settling first := by
          unfold settlementReplied at replied
          split at replied
          · exact ⟨_,rfl⟩
          · cases replied
        have later : passed phase' = true ∧ phase' ≠ .returned := by
          unfold settlementReplied at replied
          repeat' split at replied
          all_goals cases replied
          all_goals exact ⟨rfl,by simp⟩
        obtain ⟨first,is⟩ := settling
        subst is
        refine ⟨settles_put once (settlementReplied_standing replied),once.few,?_⟩
        intro authorized
        have unsettled := once.unsettled authorized
        exact unsettled_put input unsettled (fun _ _ _ _ => later.1)
          (fun _ => unsettled.busy caller input _ live rfl) later.2
      · cases did
  | settle caller => exact once_settle native once moved
  | crash caller => exact once_crash once moved
  | tick elapsed =>
      cases moved
      refine ⟨once.settles,once.few,?_⟩
      intro authorized
      have unsettled := once.unsettled authorized
      exact ⟨unsettled.initial,unsettled.calls,unsettled.firm,unsettled.busy,unsettled.open_,unsettled.issued⟩

theorem reached_once (native : NotNative deps) (path : Reached (settlements deps) allowed s) : Once deps s := by
  refine path.invariant (Once deps) ?_ ?_
  · intro u initial
    obtain ⟨payment,rows,now,free,same⟩ := initial
    subst same
    refine ⟨?_,Nat.zero_le 1,?_⟩
    · intro caller party live
      cases live
    · intro _
      refine ⟨?_,?_,?_,?_,?_,?_⟩
      · intro caller first known
        cases known
      · intro caller call live
        cases live
      · intro row found
        cases free.symm.trans found
      · intro caller input phase live
        cases live
      · intro caller input live
        cases live
      · intro call member
        cases member
  · intro u action next _ once _ moved
    exact once_preserved native once moved

-- However captures and voids are called and end, the provider is asked at most once.
theorem settled_once (native : NotNative deps) (path : Reached (settlements deps) anyStep s) : s.issued.length ≤ 1 :=
  (reached_once native path).few

section Schedules

def trustMyTravelSettle : SettleDeps :=
  ⟨none,Idempotency.Service.create ⟨none,none,none,none⟩,false,false,fun _ => 0⟩

def authorizedLink : Payment := ⟨some "trust-my-travel",some "link_1",.authorized,"EUR",100,0,0,none⟩

theorem unsettled_initial (payment : Payment) (now : Int) :
    (settlements deps).initial (unsettled payment (fun _ => none) now) := ⟨payment,_,now,rfl,rfl⟩

def refusedBy (s : Settlements) (caller : Nat) : Bool :=
  match s.idempotency.calls caller with
  | some ⟨_,_,.thrown (.reconciliationRequired _)⟩ => true
  | _ => false

-- A capture takes effect and throws; a void with another reference is refused for good.
def captureThenVoid : List Settle :=
  [.handle 0 ⟨.capture none none,"order-1:capture"⟩,.load 0,.execute 0,.store 0,.compute 0,.store 0,.mutate 0,
    .settled 0 .threw,.settle 0,.store 0,.tick 86400000,
    .handle 1 ⟨.void,"order-1:void"⟩,.load 1,.execute 1,.store 1,.compute 1]

theorem settled_once_thrown :
    ∃ s, refusedBy s 1 = true ∧ s.issued = [⟨0,"capture"⟩] ∧ s.issued.length ≤ 1 := by
  have passed : (run (settlements trustMyTravelSettle) anyStep (unsettled authorizedLink (fun _ => none) 0)
      captureThenVoid).any (fun s => refusedBy s 1 && s.issued == [⟨0,"capture"⟩]) = true := by decide +kernel
  obtain ⟨s,path,found⟩ := run_reaches (unsettled_initial authorizedLink 0) passed
  simp only [Bool.and_eq_true,beq_iff_eq] at found
  exact ⟨s,found.1,found.2,settled_once ⟨rfl,rfl⟩ path⟩

end Schedules

end Payable.Payments
