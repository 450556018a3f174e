import Payable.Foundation.Checked
import Payable.Payments.RecurringReconciliation

namespace Payable.Reconciliation
open Binary64 (times plus)

variable {dates : DateParser} {options : ResolvedOptions} {input : Input} {step : Step} {steps : List Step} {cursor : Option Cursor} {n : Nat}

-- min(base * 2^(attempt-1), max)
def delay (options : ResolvedOptions) (attempt : Nat) : Int := min (options.baseDelayMs * 2 ^ (attempt - 1)) options.maxDelayMs

theorem retryDelay_exact (options : ResolvedOptions) (attempt : Nat) : retryDelay options attempt = delay options attempt := by
  unfold retryDelay delay times
  rw [Binary64.round_power options.held]
  push_cast
  rfl

theorem delay_positive (options : ResolvedOptions) (attempt : Nat) : 1 ≤ delay options attempt := by
  obtain ⟨base,max⟩ := options.delays
  refine le_min ?_ (le_trans base max)
  calc (1 : Int) = 1 * 1 := rfl
    _ ≤ options.baseDelayMs * 2 ^ (attempt - 1) := mul_le_mul base (one_le_pow₀ (by decide)) (by decide) (by omega)

theorem delay_grows (options : ResolvedOptions) {a b : Nat} (later : a ≤ b) : delay options a ≤ delay options b := by
  have base : 0 ≤ options.baseDelayMs := le_trans (by decide) options.delays.1
  exact min_le_min_right _ (mul_le_mul_of_nonneg_left (pow_le_pow_right₀ (by decide) (by omega)) base)

-- The date of a retry, or that it is none.
theorem isoOf_later (now : Instant) {wait : Int} (positive : 1 ≤ wait) : isoOf (plus now.ms wait) =
    if now.ms + wait ≤ maxTime then .ok (IsoDates.toISOString (now.ms + wait)) else .error .invalidTime := by
  have valid := now.valid
  have sum : (now.ms : Rat) + wait = ((now.ms + wait : Int) : Rat) := by push_cast; rfl
  unfold isoOf plus
  rw [sum]
  by_cases small : now.ms + wait < 2 ^ 53
  · have exact_ : Binary64.round ((now.ms + wait : Int) : Rat) = ((now.ms + wait : Int) : Rat) :=
      Binary64.round_small _ (by unfold maxTime at valid; omega)
    rw [exact_,Doubles.trunc_int]
    have low : -(maxTime : Rat) ≤ ((now.ms + wait : Int) : Rat) := by
      have below : -(maxTime : Int) ≤ now.ms + wait := by omega
      exact_mod_cast below
    by_cases within_ : now.ms + wait ≤ maxTime
    · rw [if_pos within_,if_pos ⟨low,by exact_mod_cast within_⟩]
    · rw [if_neg within_,if_neg]
      rintro ⟨_,above⟩
      exact within_ (by exact_mod_cast above)
  · have large : (2 ^ 53 : Rat) ≤ ((now.ms + wait : Int) : Rat) := by
      have above : (2 : Int) ^ 53 ≤ now.ms + wait := by omega
      exact_mod_cast above
    have beyond : (maxTime : Rat) < 2 ^ 53 - 1 := by
      unfold maxTime
      norm_num
    have past : ¬ now.ms + wait ≤ maxTime := by
      unfold maxTime
      omega
    have invalid : ¬ (-(maxTime : Rat) ≤ Binary64.round ((now.ms + wait : Int) : Rat) ∧
        Binary64.round ((now.ms + wait : Int) : Rat) ≤ maxTime) :=
      fun within_ => absurd (lt_of_lt_of_le beyond (Binary64.round_large large)) (not_lt.mpr within_.2)
    rw [if_neg past,if_neg invalid]

-- The chain of calls from a cursor: each retry's cursor goes into the next call.
def follow (dates : DateParser) (options : ResolvedOptions) (input : Input) : Option Cursor → List Step → List (Except Failure Result)
  | _,[] => []
  | cursor,step :: rest =>
      match reconcile dates options {input with cursor := cursor} step with
      | .ok (.retry observation next) => .ok (.retry observation next) :: follow dates options input (some next) rest
      | other => [other]

-- Each cursor is passed at or after its nextAttemptAt.
def Timely (dates : DateParser) (options : ResolvedOptions) (input : Input) : Option Cursor → List Step → Prop
  | _,[] => True
  | cursor,step :: rest =>
      (∀ its due, cursor = some its → dates.parse its.nextAttemptAt = some due → due ≤ step.asked.ms) ∧
        ∀ observation next, reconcile dates options {input with cursor := cursor} step = .ok (.retry observation next) →
          Timely dates options input (some next) rest

-- The answer is about the payment and the booking, and a payment is settled for them.
structure Answers (input : Input) (step : Step) (status : String) : Prop where
  named : Text.trim input.providerPaymentId ≠ ""
  booked : ∃ booking, bookingId input = .ok booking ∧ input.providerPaymentId ≠ toString booking ∧
    ∃ transaction bookings, step.answer = .ok transaction ∧ transaction.status = some status ∧ transaction.bookings = some bookings ∧
      status ≠ "" ∧ transaction.id = input.providerPaymentId ∧ bookings.contains (toString booking) = true

-- Every answer that is looked up is about the payment, and the date of every retry is a valid one.
def Fits (options : ResolvedOptions) (input : Input) : Nat → List Step → Prop
  | _,[] => True
  | n,step :: rest => ∃ status, Answers input step status ∧ (settles status = true ∨ options.maxAttempts ≤ n + 1 ∨
      step.answered.ms + delay options (n + 1) ≤ maxTime ∧ Fits options input (n + 1) rest)

-- A cursor that the n-th call has given out, to be passed from its due time on.
structure Issued (dates : DateParser) (options : ResolvedOptions) (input : Input) (n : Nat) (due : Int) (cursor : Cursor) : Prop where
  payment : cursor.providerPaymentId = input.providerPaymentId
  attempt : cursor.attempt = some (n : Rat)
  range : 0 < n ∧ n < options.maxAttempts
  status : cursor.lastProviderStatus.isSome = true ∧ cursor.lastStatus.isSome = true
  due : dates.parse cursor.nextAttemptAt = some due

def Ready (dates : DateParser) (options : ResolvedOptions) (input : Input) (n : Nat) (cursor : Option Cursor) : Prop :=
  cursor = none ∧ n = 0 ∨ ∃ its due, cursor = some its ∧ Issued dates options input n due its

theorem ready_attempt (ready : Ready dates options input n cursor) : nextAttempt cursor = n + 1 := by
  rcases ready with ⟨rfl,rfl⟩ | ⟨⟨payment,attempt,_,_,_⟩,_,rfl,issued⟩
  · rfl
  · have its : attempt = some (n : Rat) := issued.attempt
    unfold nextAttempt
    rw [its]
    rfl

theorem assertInput_issued {its : Cursor} {due : Int} (named : Text.trim input.providerPaymentId ≠ "")
    (issued : Issued dates options input n due its) (now : Instant) : assertInput dates options now {input with cursor := some its} =
      if now.ms < due then .error .notDue else .ok () := by
  have attempt : validAttempt options its.attempt = true := by
    obtain ⟨first,last⟩ := issued.range
    rw [issued.attempt]
    simp [validAttempt,Binary64.isInteger,first,last]
  obtain ⟨status,status'⟩ := issued.status
  have valid : ¬ (its.providerPaymentId ≠ input.providerPaymentId ∨ validAttempt options its.attempt = false ∨
      its.lastProviderStatus = none ∨ its.lastStatus = none) := by
    rw [attempt,issued.payment]
    rintro (other | invalid | none_ | none_)
    · exact other rfl
    · cases invalid
    · rw [none_] at status
      cases status
    · rw [none_] at status'
      cases status'
  unfold assertInput
  dsimp only
  rw [if_neg named,issued.due]
  dsimp only
  rw [if_neg valid]

theorem assertInput_ready (named : Text.trim input.providerPaymentId ≠ "") (ready : Ready dates options input n cursor)
    (timely : ∀ its due, cursor = some its → dates.parse its.nextAttemptAt = some due → due ≤ now.ms) :
    assertInput dates options now {input with cursor := cursor} = .ok () := by
  rcases ready with ⟨rfl,_⟩ | ⟨its,due,rfl,issued⟩
  · unfold assertInput
    rw [if_neg named]
  · rw [assertInput_issued named issued,if_neg (not_lt.mpr (timely its due rfl issued.due))]

theorem checkTransaction_ok {transaction : TmtTransactionResponse} : checkTransaction input booking transaction = .ok status ↔
    ∃ bookings, transaction.status = some status ∧ transaction.bookings = some bookings ∧ status ≠ "" ∧
      transaction.id = input.providerPaymentId ∧ bookings.contains (toString booking) = true := by
  unfold checkTransaction
  cases given : transaction.status with
  | none => simp
  | some its =>
      cases listed : transaction.bookings with
      | none => simp
      | some bookings =>
          dsimp only
          by_cases empty : its = ""
          · rw [if_pos empty]
            refine iff_of_false nofun ?_
            rintro ⟨_,same,_,some_,_⟩
            exact some_ (Option.some.inj same ▸ empty)
          · by_cases other : transaction.id ≠ input.providerPaymentId
            · rw [if_neg empty,if_pos other]
              refine iff_of_false nofun ?_
              rintro ⟨_,_,_,_,same,_⟩
              exact other same
            · rw [if_neg empty,if_neg other]
              cases there : bookings.contains (toString booking) with
              | false =>
                  refine iff_of_false nofun ?_
                  rintro ⟨_,_,same,_,_,inside⟩
                  rw [← Option.some.inj same,there] at inside
                  cases inside
              | true =>
                  refine ⟨?_,?_⟩
                  · intro same
                    cases same
                    exact ⟨bookings,rfl,rfl,empty,not_not.mp other,there⟩
                  · rintro ⟨_,same,_⟩
                    cases same
                    rfl

theorem ran_answers (ran : reconcile dates options {input with cursor := cursor} step = .ok result) : ∃ status, Answers input step status := by
  unfold reconcile at ran
  obtain ⟨_,asserted,ran⟩ := Checked.bind_ok.mp ran
  obtain ⟨booking,booked,ran⟩ := Checked.bind_ok.mp ran
  obtain ⟨_,settled,ran⟩ := Checked.bind_ok.mp ran
  obtain ⟨transaction,answered,ran⟩ := Checked.bind_ok.mp ran
  obtain ⟨status,checked,_⟩ := Checked.bind_ok.mp ran
  obtain ⟨bookings,given,listed,some_,same,inside⟩ := checkTransaction_ok.mp checked
  refine ⟨status,?_,booking,booked,?_,transaction,bookings,answered,given,listed,some_,same,inside⟩
  · intro blank
    unfold assertInput at asserted
    rw [if_pos blank] at asserted
    cases asserted
  · intro its
    unfold assertSettled at settled
    rw [if_neg (not_not.mpr its)] at settled
    cases settled

theorem answers_ran (ready : Ready dates options input n cursor) (answers : Answers input step status)
    (timely : ∀ its due, cursor = some its → dates.parse its.nextAttemptAt = some due → due ≤ step.asked.ms) :
    ∃ observation : Observation, observation.attempt = n + 1 ∧ observation.providerStatus = status ∧
      observation.providerPaymentId = input.providerPaymentId ∧
      reconcile dates options {input with cursor := cursor} step = conclude options step.answered observation := by
  obtain ⟨named,booking,booked,other,transaction,bookings,answered,given,listed,some_,same,inside⟩ := answers
  refine ⟨⟨transaction.id,status,recurringStatus status,n + 1,chargebackData transaction⟩,rfl,rfl,same,?_⟩
  have checked : checkTransaction {input with cursor := cursor} booking transaction = .ok status :=
    checkTransaction_ok.mpr ⟨bookings,given,listed,some_,same,inside⟩
  have settled : assertSettled input.providerPaymentId booking = .ok () := if_pos other
  unfold reconcile
  rw [assertInput_ready named ready timely]
  show (bookingId input >>= _) = _
  rw [booked]
  show (assertSettled input.providerPaymentId booking >>= _) = _
  rw [settled]
  show (step.answer >>= _) = _
  rw [answered]
  show (checkTransaction {input with cursor := cursor} booking transaction >>= _) = _
  rw [checked,ready_attempt ready]
  rfl

theorem conclude_terminal {observation : Observation} (settled : settles observation.providerStatus = true) :
    conclude options now observation = .ok (.terminal observation) := by
  unfold conclude
  rw [if_pos settled]

theorem conclude_exhausted {observation : Observation} (pending : ¬ settles observation.providerStatus = true)
    (last : options.maxAttempts ≤ observation.attempt) : conclude options now observation = .ok (.exhausted observation) := by
  unfold conclude
  rw [if_neg pending,if_pos last]

def issue (options : ResolvedOptions) (now : Instant) (observation : Observation) : Cursor :=
  ⟨observation.providerPaymentId,some observation.attempt,IsoDates.toISOString (now.ms + delay options observation.attempt),
    some observation.providerStatus,some observation.status⟩

theorem conclude_retry {observation : Observation} (pending : ¬ settles observation.providerStatus = true)
    (more : ¬ options.maxAttempts ≤ observation.attempt) : conclude options now observation =
      if now.ms + delay options observation.attempt ≤ maxTime then .ok (.retry observation (issue options now observation))
      else .error .invalidTime := by
  unfold conclude
  rw [if_neg pending,if_neg more,retryDelay_exact,isoOf_later now (delay_positive options _)]
  by_cases fits : now.ms + delay options observation.attempt ≤ maxTime
  · rw [if_pos fits,if_pos fits]
    rfl
  · rw [if_neg fits,if_neg fits]
    rfl

theorem issue_issued {observation : Observation} (attempt : observation.attempt = n + 1) (payment : observation.providerPaymentId = input.providerPaymentId)
    (more : ¬ options.maxAttempts ≤ n + 1) (fits : now.ms + delay options (n + 1) ≤ maxTime) :
    Issued dates options input (n + 1) (now.ms + delay options (n + 1)) (issue options now observation) := by
  refine ⟨payment,?_,by omega,⟨rfl,rfl⟩,?_⟩
  · unfold issue
    rw [attempt]
  · unfold issue
    rw [attempt]
    refine dates.iso _ ?_
    have valid := now.valid
    have positive := delay_positive options (n + 1)
    unfold maxTime at fits valid
    simp only [IsoDates.validTime,Bool.and_eq_true,decide_eq_true_eq]
    omega

-- What the calls of a chain come to from the n-th on: retries, each numbered by its attempt, with
-- its delay and refused before it is due, and then the end.
inductive Chain (dates : DateParser) (options : ResolvedOptions) (input : Input) : Nat → List Step → List (Except Failure Result) → Prop where
  | waiting {n : Nat} : Chain dates options input n [] []
  | terminal {n : Nat} {step : Step} : observation.attempt = n + 1 → Chain dates options input n (step :: rest) [.ok (.terminal observation)]
  | exhausted {n : Nat} {step : Step} : observation.attempt = n + 1 → options.maxAttempts ≤ n + 1 → Chain dates options input n (step :: rest) [.ok (.exhausted observation)]
  | retry {n : Nat} {step : Step} : observation.attempt = n + 1 → n + 1 < options.maxAttempts →
      next.nextAttemptAt = IsoDates.toISOString (step.answered.ms + delay options (n + 1)) →
      (∀ early, early.asked.ms < step.answered.ms + delay options (n + 1) →
        reconcile dates options {input with cursor := some next} early = .error .notDue) →
      Chain dates options input (n + 1) rest results → Chain dates options input n (step :: rest) (.ok (.retry observation next) :: results)

theorem refused_early {its : Cursor} {due : Int} (named : Text.trim input.providerPaymentId ≠ "") (issued : Issued dates options input n due its)
    (early : step.asked.ms < due) : reconcile dates options {input with cursor := some its} step = .error .notDue := by
  unfold reconcile
  rw [assertInput_issued named issued,if_pos early]
  rfl

theorem follow_chain (ready : Ready dates options input n cursor) (timely : Timely dates options input cursor steps) (fits : Fits options input n steps) :
    Chain dates options input n steps (follow dates options input cursor steps) := by
  induction steps generalizing n cursor with
  | nil => exact .waiting
  | cons step rest ih =>
      obtain ⟨status,answers,fits⟩ := fits
      obtain ⟨observation,attempt,its,payment,ran⟩ := answers_ran ready answers timely.1
      unfold follow
      by_cases settled : settles status = true
      · rw [ran,conclude_terminal (its ▸ settled)]
        exact .terminal attempt
      · have pending : ¬ settles observation.providerStatus = true := its ▸ settled
        by_cases last : options.maxAttempts ≤ n + 1
        · rw [ran,conclude_exhausted pending (attempt ▸ last)]
          exact .exhausted attempt last
        · obtain ⟨valid,fits⟩ := (fits.resolve_left settled).resolve_left last
          have issued := @issue_issued dates options input n _ _ attempt payment last valid
          have retried : reconcile dates options {input with cursor := cursor} step = .ok (.retry observation (issue options step.answered observation)) := by
            rw [ran,conclude_retry pending (attempt ▸ last),attempt,if_pos valid]
          rw [retried]
          refine .retry attempt (by omega) (by rw [← attempt]; rfl) (fun early before => refused_early answers.named issued before) ?_
          exact ih (.inr ⟨_,_,rfl,issued⟩) (timely.2 _ _ retried) fits

theorem chain_ok (chain : Chain dates options input n steps results) : ∀ result ∈ results, ∃ its, result = .ok its := by
  induction chain with
  | waiting => exact fun _ inside => absurd inside List.not_mem_nil
  | terminal | exhausted =>
      intro result inside
      exact ⟨_,List.mem_singleton.mp inside⟩
  | retry _ _ _ _ _ ih =>
      intro result inside
      rcases List.mem_cons.mp inside with rfl | inside
      · exact ⟨_,rfl⟩
      · exact ih result inside

theorem ok_fits (ready : Ready dates options input n cursor) (timely : Timely dates options input cursor steps)
    (answered : ∀ result ∈ follow dates options input cursor steps, ∃ its, result = .ok its) : Fits options input n steps := by
  induction steps generalizing n cursor with
  | nil => trivial
  | cons step rest ih =>
      unfold follow at answered
      cases did : reconcile dates options {input with cursor := cursor} step with
      | error error =>
          rw [did] at answered
          obtain ⟨_,same⟩ := answered (.error error) (List.mem_singleton_self _)
          cases same
      | ok result =>
          obtain ⟨status,answers⟩ := ran_answers did
          obtain ⟨observation,attempt,its,payment,ran⟩ := answers_ran ready answers timely.1
          refine ⟨status,answers,?_⟩
          by_cases settled : settles status = true
          · exact .inl settled
          · have pending : ¬ settles observation.providerStatus = true := its ▸ settled
            by_cases last : options.maxAttempts ≤ n + 1
            · exact .inr (.inl last)
            · rw [conclude_retry pending (attempt ▸ last),attempt] at ran
              by_cases valid : step.answered.ms + delay options (n + 1) ≤ maxTime
              · rw [if_pos valid] at ran
                have issued := @issue_issued dates options input n _ _ attempt payment last valid
                rw [ran] at answered
                refine .inr (.inr ⟨valid,ih (.inr ⟨_,_,rfl,issued⟩) (timely.2 _ _ ran) ?_⟩)
                exact fun result inside => answered result (List.mem_cons_of_mem _ inside)
              · rw [if_neg valid,did] at ran
                cases ran

theorem chain_length (chain : Chain dates options input n steps results) (bounded : n < options.maxAttempts) :
    n + results.length ≤ options.maxAttempts := by
  induction chain with
  | waiting => exact bounded.le
  | terminal | exhausted => exact bounded
  | retry _ more _ _ _ ih =>
      have rest := ih more
      rw [List.length_cons]
      omega

def Ended (result : Except Failure Result) : Prop := ∃ observation, result = .ok (.terminal observation) ∨ result = .ok (.exhausted observation)

theorem chain_ends (chain : Chain dates options input n steps results) (bounded : n < options.maxAttempts)
    (enough : options.maxAttempts ≤ n + steps.length) : ∃ result, results.getLast? = some result ∧ Ended result := by
  induction chain with
  | waiting => exact absurd enough (by rw [List.length_nil]; omega)
  | terminal => exact ⟨_,rfl,_,.inl rfl⟩
  | exhausted => exact ⟨_,rfl,_,.inr rfl⟩
  | retry _ more _ _ _ ih =>
      rw [List.length_cons] at enough
      obtain ⟨result,last,ended⟩ := ih more (by omega)
      refine ⟨result,?_,ended⟩
      rw [List.getLast?_cons,last]
      rfl

-- What the chain from no cursor on is to be.
structure Exact (dates : DateParser) (options : ResolvedOptions) (input : Input) (steps : List Step) (results : List (Except Failure Result)) : Prop where
  chain : Chain dates options input 0 steps results
  bounded : results.length ≤ options.maxAttempts
  ends : options.maxAttempts ≤ steps.length → ∃ result, results.getLast? = some result ∧ Ended result
  grows : ∀ a b, a ≤ b → delay options a ≤ delay options b

theorem chain_exact (timely : Timely dates options input none steps) :
    Exact dates options input steps (follow dates options input none steps) ↔ Fits options input 0 steps := by
  have ready : Ready dates options input 0 none := .inl ⟨rfl,rfl⟩
  have bounded : 0 < options.maxAttempts := options.attempts.1
  refine ⟨fun exact_ => ok_fits ready timely (chain_ok exact_.chain),fun fits => ?_⟩
  have chain := follow_chain ready timely fits
  refine ⟨chain,?_,?_,fun a b => delay_grows options⟩
  · have length := chain_length chain bounded
    omega
  · intro enough
    exact chain_ends chain bounded (by omega)

def isoDates : DateParser := ⟨IsoDates.readISOString,fun _ => IsoDates.readISOString_toISOString⟩

def payment : Input := ⟨"txn_1",none,some (some 7)⟩

def pendingAnswer : TmtTransactionResponse := ⟨"txn_1",some "pending",some ["7"],none,none,none,none⟩

def newYear : Instant := ⟨1767225600000,by decide⟩

def firstCall : Step := ⟨newYear,.ok pendingAnswer,newYear⟩

def defaults : ResolvedOptions := ⟨35,60000,86400000,by decide,by decide,Binary64.round_small 60000 (by decide)⟩

def secondCall : Step := ⟨⟨1767225660000,by decide⟩,.ok {pendingAnswer with status := some "complete"},newYear⟩

theorem first_answers : Answers payment firstCall "pending" :=
  ⟨by decide,7,rfl,by decide,pendingAnswer,["7"],rfl,rfl,rfl,by decide,rfl,rfl⟩

theorem first_ran (options : ResolvedOptions) (more : ¬ options.maxAttempts ≤ 1) : ∃ observation : Observation, observation.attempt = 1 ∧
    reconcile isoDates options {payment with cursor := none} firstCall =
      if newYear.ms + delay options 1 ≤ maxTime then .ok (.retry observation (issue options newYear observation)) else .error .invalidTime := by
  obtain ⟨observation,attempt,its,_,ran⟩ := @answers_ran isoDates options payment firstCall none 0 "pending" (.inl ⟨rfl,rfl⟩) first_answers nofun
  have pending : ¬ settles observation.providerStatus = true := by
    rw [its]
    decide
  refine ⟨observation,attempt,?_⟩
  rw [ran,conclude_retry pending (attempt ▸ more),attempt]
  rfl

theorem second_timely : Timely isoDates defaults payment none [firstCall,secondCall] := by
  refine ⟨nofun,fun observation next ran => ⟨?_,fun _ _ _ => trivial⟩⟩
  rintro its due same parsed
  cases same
  obtain ⟨observation',attempt,ran'⟩ := first_ran defaults (by decide)
  rw [if_pos (by decide)] at ran'
  cases ran.symm.trans ran'
  unfold issue at parsed
  rw [attempt] at parsed
  cases (isoDates.iso (newYear.ms + delay defaults 1) (by decide)).symm.trans parsed
  decide

theorem chain_exact_second :
    Exact isoDates defaults payment [firstCall,secondCall] (follow isoDates defaults payment none [firstCall,secondCall]) ↔
      Fits defaults payment 0 [firstCall,secondCall] :=
  chain_exact second_timely

-- Accepted options with which no retry can be computed.
def longest : Given := some (whole 8640000000000000 (by decide))

def unlimited : ResolvedOptions :=
  ⟨35,8640000000000000,8640000000000000,by decide,by decide,Binary64.round_small 8640000000000000 (by decide)⟩

theorem retry_throws : resolveOptions ⟨none,some longest,some longest⟩ = .ok unlimited ∧ Answers payment firstCall "pending" ∧
    reconcile isoDates unlimited payment firstCall = .error .invalidTime := by
  refine ⟨rfl,first_answers,?_⟩
  obtain ⟨_,_,ran⟩ := first_ran unlimited (by decide)
  rw [if_neg (by decide)] at ran
  exact ran

end Payable.Reconciliation
