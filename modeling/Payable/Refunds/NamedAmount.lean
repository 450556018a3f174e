import Payable.Refunds.RetryOnce

namespace Payable.Refunds
open Domain Tables Runs

-- The amount handle computes the key and the hashed request for.
def named (input : RefundPaymentActionInput) (payment : Payment) : Int :=
  (input.amount.map Money.amount).getD (remaining payment)

-- The payment handle read first, for as long as the call still goes by it.
def RefundPhase.read : RefundPhase → Option Payment
  | .listing payment | .prepared payment _ | .reserving payment _ | .claiming payment _ _ _ | .refunding payment _ =>
    some payment
  | _ => none

-- Between the key and the provider's answer.
def RefundPhase.begun : RefundPhase → Bool
  | .reserving _ _ | .claiming _ _ _ _ | .refunding _ _ => true
  | _ => false

def RefundPhase.asks (input : RefundPaymentActionInput) : RefundPhase → Prop
  | .prepared payment requested => requested = named input payment
  | .claiming _ _ fresh claim => claim.requested = named input fresh
  | _ => True

-- Before handle has a key.
def early : Option Party → Bool
  | none | some (.refund _ _ .checking) | some (.refund _ _ (.listing _)) => true
  | _ => false

-- A reservation without an amount is committed on the refunded amount the key was computed from.
def unmoved (s : Retried) : Retry → Bool
  | .ledger (.store caller) =>
    match s.ledger.parties caller with
    | some (.refund _ input (.claiming read _ fresh _)) =>
      input.amount.isSome || s.ledger.payment.refundedAmount != fresh.refundedAmount ||
        s.ledger.payment.refundedAmount == read.refundedAmount
    | _ => true
  | _ => true

def Unmoved (s : Retried) (action : Retry) : Prop := unmoved s action = true

instance (s : Retried) (action : Retry) : Decidable (Unmoved s action) := inferInstanceAs (Decidable (_ = _))

-- Everything that can become of one party while the payment stands as given, run apart.
inductive Follows (payment : Payment) (caller : Nat) : Option Party → Party → Prop where
  | begin (silent : ∀ provider input phase, party = .refund provider input phase → phase.read = none ∧ phase.begun = false) :
      Follows payment caller none party
  | look : Follows payment caller (some (.refund provider input .checking)) (.refund provider input (.listing payment))
  | check (checked : requested = named input first) :
      Follows payment caller (some (.refund provider input (.listing first)))
        (.refund provider input (.prepared first requested))
  | claim (claimed : claim.requested = named input payment) :
      Follows payment caller (some (.refund provider input (.reserving first attempt)))
        (.refund provider input (.claiming first attempt payment claim))
  | reserve (unchanged : payment.refundedAmount = fresh.refundedAmount) :
      Follows payment caller (some (.refund provider input (.claiming first attempt fresh claim)))
        (.refund provider input (.refunding first ⟨caller,claim.requested⟩))
  | again : Follows payment caller (some (.refund provider input (.claiming first attempt fresh claim)))
        (.refund provider input (.reserving first (attempt + 1)))
  | leave (silent : ∀ provider input phase, party = .refund provider input phase → phase.read = none ∧ phase.begun = false)
      (late : early (some party) = false) : Follows payment caller (some before) party

-- A party that goes by no payment.
def Unread (party : Party) : Prop :=
  ∀ provider input phase, party = .refund provider input phase → phase.read = none ∧ phase.begun = false

theorem unread_refund {phase : RefundPhase} (silent : phase.read = none) (unbegun : phase.begun = false) :
    Unread (.refund provider input phase) := by
  intro _ _ _ same
  cases same
  exact ⟨silent,unbegun⟩

theorem unread_record : Unread (.record input phase) := by
  intro _ _ _ same
  cases same

theorem unread_settle : Unread (.settle input phase) := by
  intro _ _ _ same
  cases same

theorem follows_leave {before : Party} {phase : RefundPhase} (silent : phase.read = none) (unbegun : phase.begun = false)
    (late : early (some (.refund provider input phase)) = false) :
    Follows payment caller (some before) (.refund provider input phase) :=
  .leave (unread_refund silent unbegun) late

theorem checkRefund_named (checked : checkRefund payment input refunds = .ok requested) :
    requested = named input payment := by
  unfold checkRefund at checked
  dsimp only at checked
  repeat' split at checked
  all_goals cases checked
  rfl

theorem claimRefund_named (claimed : claimRefund fresh input = .ok claim) : claim.requested = named input fresh := by
  unfold claimRefund at claimed
  dsimp only at claimed
  repeat' split at claimed
  all_goals cases claimed
  rfl

theorem refundStep_follows {phase : RefundPhase}
    (did : refundStep caller now provider input payment refunds phase = some (payment',refunds',phase')) :
    Follows payment caller (some (.refund provider input phase)) (.refund provider input phase') := by
  cases phase with
  | checking =>
      simp only [refundStep] at did
      split at did
      · cases did; exact follows_leave rfl rfl rfl
      · split at did <;> cases did
        · exact follows_leave rfl rfl rfl
        · exact .look
  | listing read =>
      simp only [refundStep] at did
      split at did
      · cases did; exact follows_leave rfl rfl rfl
      · rename_i checked
        cases did
        exact .check (checkRefund_named checked)
  | reserving read attempt =>
      simp only [refundStep] at did
      split at did
      · cases did; exact follows_leave rfl rfl rfl
      · rename_i claimed
        cases did
        exact .claim (claimRefund_named claimed)
  | claiming read attempt fresh claim =>
      simp only [refundStep,updateRefundedAmountIfUnchanged] at did
      by_cases unchanged : payment.refundedAmount = fresh.refundedAmount
      · rw [if_pos unchanged] at did
        cases did
        exact .reserve unchanged
      · rw [if_neg unchanged] at did
        dsimp only at did
        split at did <;> cases did
        · exact .again
        · exact follows_leave rfl rfl rfl
  | mismatched | releasing | unreleased =>
      cases did
      exact follows_leave rfl rfl rfl
  | reverting reservation release attempt fresh =>
      simp only [refundStep] at did
      split at did
      · cases did
        cases release <;> exact follows_leave rfl rfl rfl
      · split at did <;> cases did <;> exact follows_leave rfl rfl rfl
  | rereading | finalizing =>
      simp only [refundStep] at did
      split at did <;> cases did <;> exact follows_leave rfl rfl rfl
  | prepared | refunding | returned | thrown | crashed => cases did

theorem refundReplied_unread {phase : RefundPhase} (did : refundReplied reply phase = some phase') :
    Unread (.refund provider input phase') ∧ early (some (.refund provider input phase')) = false := by
  unfold refundReplied at did
  repeat' split at did
  all_goals cases did
  all_goals exact ⟨unread_refund rfl rfl,rfl⟩

theorem storageThrew_unread (before : Party) : Unread before.storageThrew ∧ early (some before.storageThrew) = false := by
  cases before with
  | refund => exact ⟨unread_refund rfl rfl,rfl⟩
  | record => exact ⟨unread_record,rfl⟩
  | settle => exact ⟨unread_settle,rfl⟩

theorem crash_unread (before : Party) : Unread before.crash ∧ early (some before.crash) = false := by
  cases before with
  | refund => exact ⟨unread_refund rfl rfl,rfl⟩
  | record => exact ⟨unread_record,rfl⟩
  | settle => exact ⟨unread_settle,rfl⟩

theorem partyStep_follows {party : Party}
    (did : partyStep caller now payment refunds party = some (payment',refunds',party')) :
    Follows payment caller (some party) party' := by
  cases party with
  | refund provider input phase =>
      simp only [partyStep,Option.map_eq_some_iff] at did
      obtain ⟨⟨_,_,_⟩,step,same⟩ := did
      cases same
      exact refundStep_follows step
  | record input phase =>
      simp only [partyStep,Option.map_eq_some_iff] at did
      obtain ⟨_,_,same⟩ := did
      cases same
      exact .leave unread_record rfl
  | settle input phase =>
      simp only [partyStep,Option.map_eq_some_iff] at did
      obtain ⟨_,_,same⟩ := did
      cases same
      exact .leave unread_settle rfl

-- What becomes of a party in one step; only a store call leaves it going by a payment.
def Moves (action : Action) (s next : Ledger) (caller : Nat) : Prop :=
  next.parties caller = s.parties caller ∨
    ∃ after, next.parties caller = some after ∧ Follows s.payment caller (s.parties caller) after ∧
      (action = .store caller ∨ Unread after)

theorem put_moves {s : Ledger} (follows : Follows s.payment caller (s.parties caller) party)
    (origin : action = .store caller ∨ Unread party) (other : Nat) : Moves action s (s.put caller party) other := by
  by_cases same : other = caller
  · subst same
    exact .inr ⟨party,Ledger.put_self s,follows,origin⟩
  · exact .inl (Ledger.put_other s same)

theorem begin_moves {s : Ledger} (absent : s.parties caller = none) (unread : Unread party) (other : Nat) :
    Moves action s (s.put caller party) other :=
  put_moves (absent ▸ .begin unread) (.inr unread) other

theorem leave_moves {s : Ledger} (live : s.parties caller = some before)
    (unread : Unread party ∧ early (some party) = false) (other : Nat) : Moves action s (s.put caller party) other :=
  put_moves (live ▸ .leave unread.1 unread.2) (.inr unread.1) other

theorem beginRefund_unread (input : RefundPaymentActionInput) : Unread (.refund provider input (beginRefund input)) := by
  unfold beginRefund
  split <;> exact unread_refund rfl rfl

theorem advance_moves {s next : Ledger} (moved : advance s action = some next)
    (outside : ∀ caller, action ≠ .run caller) (other : Nat) : Moves action s next other := by
  cases advance_moved moved with
  | @beginRefund _ _ input absent => exact begin_moves absent (beginRefund_unread input) other
  | beginRecord absent => exact begin_moves absent unread_record other
  | beginSettle absent => exact begin_moves absent unread_settle other
  | @run caller => exact absurd rfl (outside caller)
  | store live did => exact put_moves (live ▸ partyStep_follows did) (.inl rfl) other
  | @abort caller party _ _ _ committed live =>
      have threw : Moves (.abort caller committed) s (s.put caller party.storageThrew) other :=
        leave_moves live (storageThrew_unread party) other
      cases committed <;> exact threw
  | refunded live did => exact leave_moves live (refundReplied_unread did) other
  | settled live => exact leave_moves live ⟨unread_settle,rfl⟩ other
  | @crash _ party live => exact leave_moves live (crash_unread party) other
  | tick => exact .inl rfl

-- What a caller's key and its execute call have been given, beside where its party stands.
structure Naming (deps : Deps) (payment : Payment) (party : Option Party) (key : Option String)
    (execution : Option (Idempotency.Execution LedgerError)) : Prop where
  early : early party = true → key = none ∧ execution = none
  asks : ∀ provider input phase, party = some (.refund provider input phase) → phase.asks input
  amount : ∀ provider input phase first, party = some (.refund provider input phase) → phase.read = some first →
    first.amount = payment.amount
  keyed : ∀ provider input phase first name, party = some (.refund provider input phase) → phase.read = some first →
    key = some name → refundKey deps first (named input first) input = some name
  request : ∀ provider input phase first its, party = some (.refund provider input phase) → phase.read = some first →
    execution = some its → key = some its.key ∧ its.requestHash = deps.hashRequest (named input first) first.currency
  begun : ∀ provider input phase, party = some (.refund provider input phase) → phase.begun = true →
    key ≠ none ∧ (deps.idempotency ≠ none → execution ≠ none)

theorem naming_silent (silent : Unread party) (late : early (some party) = true → key = none ∧ execution = none) :
    Naming deps payment (some party) key execution := by
  have unread : ∀ provider input phase first, some party = some (.refund provider input phase) →
      phase.read = some first → False := by
    intro provider input phase first same known
    rw [(silent provider input phase (Option.some.inj same)).1] at known
    cases known
  refine ⟨late,?_,?_,?_,?_,?_⟩
  · intro provider input phase same
    have quiet := (silent provider input phase (Option.some.inj same)).1
    cases phase <;> trivial
  · intro provider input phase first same known
    exact (unread provider input phase first same known).elim
  · intro provider input phase first name same known
    exact (unread provider input phase first same known).elim
  · intro provider input phase first its same known
    exact (unread provider input phase first same known).elim
  · intro provider input phase same begun
    rw [(silent provider input phase (Option.some.inj same)).2] at begun
    cases begun

theorem naming_absent : Naming deps payment none none none := by
  refine ⟨fun _ => ⟨rfl,rfl⟩,?_,?_,?_,?_,?_⟩
  · intro _ _ _ same
    cases same
  · intro _ _ _ _ same
    cases same
  · intro _ _ _ _ _ same
    cases same
  · intro _ _ _ _ _ same
    cases same
  · intro _ _ _ same
    cases same

-- A party that still goes by the payment it read.
theorem naming_moved {before phase : RefundPhase}
    (naming : Naming deps payment (some (.refund provider input before)) key execution)
    (kept : before.read = some first) (known : phase.read = some first) (asks : phase.asks input)
    (later : early (some (.refund provider input phase)) = false)
    (ready : phase.begun = true → key ≠ none ∧ (deps.idempotency ≠ none → execution ≠ none)) :
    Naming deps payment (some (.refund provider input phase)) key execution := by
  refine ⟨by simp [later],?_,?_,?_,?_,?_⟩
  · intro _ _ _ same
    cases same
    exact asks
  · intro _ _ _ other same given
    cases same
    cases Option.some.inj (known.symm.trans given)
    exact naming.amount _ _ _ _ rfl kept
  · intro _ _ _ other name same given
    cases same
    cases Option.some.inj (known.symm.trans given)
    exact naming.keyed _ _ _ _ name rfl kept
  · intro _ _ _ other its same given
    cases same
    cases Option.some.inj (known.symm.trans given)
    exact naming.request _ _ _ _ its rfl kept
  · intro _ _ _ same
    cases same
    exact ready

theorem naming_follows (naming : Naming deps payment before key execution) (follows : Follows payment caller before party) :
    Naming deps payment (some party) key execution := by
  cases follows with
  | begin silent => exact naming_silent silent (fun _ => naming.early rfl)
  | look =>
      obtain ⟨rfl,rfl⟩ := naming.early rfl
      refine ⟨fun _ => ⟨rfl,rfl⟩,?_,?_,?_,?_,?_⟩
      · intro _ _ _ same
        cases same
        trivial
      · intro _ _ _ _ same known
        cases same
        cases known
        rfl
      · intro _ _ _ _ _ same _ known
        cases same
        cases known
      · intro _ _ _ _ _ same _ known
        cases same
        cases known
      · intro _ _ _ same known
        cases same
        cases known
  | check checked => exact naming_moved naming rfl rfl checked rfl (by simp [RefundPhase.begun])
  | claim claimed => exact naming_moved naming rfl rfl claimed rfl (fun _ => naming.begun _ _ _ rfl rfl)
  | reserve => exact naming_moved naming rfl rfl trivial rfl (fun _ => naming.begun _ _ _ rfl rfl)
  | again => exact naming_moved naming rfl rfl trivial rfl (fun _ => naming.begun _ _ _ rfl rfl)
  | leave silent late => exact naming_silent silent (by simp [late])

theorem naming_payment (naming : Naming deps payment party key execution) (amount : payment'.amount = payment.amount) :
    Naming deps payment' party key execution := by
  refine ⟨naming.early,naming.asks,?_,naming.keyed,naming.request,naming.begun⟩
  intro provider input phase first live known
  rw [amount]
  exact naming.amount provider input phase first live known

def executionOf (s : Retried) (caller : Nat) : Option (Idempotency.Execution LedgerError) :=
  (s.idempotency.calls caller).map Idempotency.Call.execution

structure Named (deps : Deps) (s : Retried) : Prop where
  sound : Sound s.ledger
  each : ∀ caller, Naming deps s.ledger.payment (s.ledger.parties caller) (s.keys caller) (executionOf s caller)

theorem named_ledger {s : Retried} (naming : Named deps s) (outside : ∀ caller, action ≠ .run caller)
    (moved : advance s.ledger action = some ledger) : Named deps (s.withLedger ledger) := by
  obtain ⟨sound,caller,write⟩ := advance_write naming.sound moved
  refine ⟨sound,?_⟩
  intro other
  apply naming_payment _ (write_framed write).amount
  rcases advance_moves moved outside other with same | ⟨after,same,follows,_⟩
  · rw [show (s.withLedger ledger).ledger.parties other = _ from same]
    exact naming.each other
  · rw [show (s.withLedger ledger).ledger.parties other = _ from same]
    exact naming_follows (naming.each other) follows

theorem named_idempotency {s : Retried} (naming : Named deps s)
    (unbegun : ∀ caller service execution, action ≠ .begin caller service execution)
    (moved : Idempotency.advance some s.idempotency action = some idempotency) :
    Named deps (s.withIdempotency idempotency) := by
  refine ⟨naming.sound,?_⟩
  intro caller
  have same : executionOf (s.withIdempotency idempotency) caller = executionOf s caller :=
    Idempotency.step_execution (Idempotency.advance_step moved) (unbegun caller)
  rw [same]
  exact naming.each caller

theorem begin_executions {idempotency : Idempotency.State Refund Refund LedgerError}
    (moved : Idempotency.advance some s.idempotency (.begin caller service execution) = some idempotency) :
    executionOf (s.withIdempotency idempotency) caller = some execution ∧
      ∀ other, other ≠ caller → executionOf (s.withIdempotency idempotency) other = executionOf s other := by
  cases Idempotency.advance_step moved with
  | begin fresh =>
      refine ⟨by simp [executionOf,Retried.withIdempotency],?_⟩
      intro other apart
      simp [executionOf,Retried.withIdempotency,apart]

-- handle has its key, and hands it to execute when there is a service.
theorem naming_keyed (naming : Naming deps payment (some (.refund provider input (.prepared first requested))) none none)
    (given : refundKey deps first requested input = some key)
    (handed : ∀ its, execution = some its → its = refundExecution deps key first requested) :
    Naming deps payment (some (.refund provider input (.prepared first requested))) (some key) execution := by
  have asked : requested = named input first := naming.asks _ _ _ rfl
  refine ⟨by simp [early],naming.asks,naming.amount,?_,?_,?_⟩
  · intro _ _ _ other name same known given
    cases same
    cases known
    cases given
    exact asked ▸ given
  · intro _ _ _ other its same known standing
    cases same
    cases known
    cases handed its standing
    exact ⟨rfl,by rw [← asked]; rfl⟩
  · intro _ _ _ same known
    cases same
    cases known

theorem naming_run (naming : Naming deps payment (some (.refund provider input (.prepared first requested))) key execution)
    (ready : key ≠ none ∧ (deps.idempotency ≠ none → execution ≠ none)) :
    Naming deps payment (some (.refund provider input (.reserving first 0))) key execution :=
  naming_moved naming rfl rfl trivial rfl (fun _ => ready)

-- A caller's party moves on its own.
theorem named_put {s : Retried} (naming : Named deps s) (sound : Sound (s.ledger.put caller party))
    (mine : Naming deps s.ledger.payment (some party) (s.keys caller) (executionOf s caller)) :
    Named deps (s.withLedger (s.ledger.put caller party)) := by
  refine ⟨sound,?_⟩
  intro other
  change Naming deps s.ledger.payment ((s.ledger.put caller party).parties other) (s.keys other) (executionOf s other)
  by_cases same : other = caller
  · subst same
    rw [Ledger.put_self]
    exact mine
  · rw [Ledger.put_other s.ledger same]
    exact naming.each other

-- A prepared caller is given its key, and an execution when there is a service.
theorem named_keyed {s : Retried} {idempotency : Idempotency.State Refund Refund LedgerError} (naming : Named deps s)
    (mine : Naming deps s.ledger.payment (s.ledger.parties caller) (some key) (executionOf (s.withIdempotency idempotency) caller))
    (others : ∀ other, other ≠ caller → executionOf (s.withIdempotency idempotency) other = executionOf s other) :
    Named deps ((s.withIdempotency idempotency).withKey caller key) := by
  refine ⟨naming.sound,?_⟩
  intro other
  by_cases same : other = caller
  · subst same
    simpa [Retried.withKey,Retried.withIdempotency,executionOf] using mine
  · have kept : executionOf ((s.withIdempotency idempotency).withKey caller key) other = executionOf s other :=
      others other same
    rw [kept,show ((s.withIdempotency idempotency).withKey caller key).keys other = s.keys other from
      Function.update_of_ne same _ _]
    exact naming.each other

-- A party that waits for its key has called nothing yet.
theorem named_unbegun {s : Retried} (naming : Named deps s) (live : s.ledger.parties caller = some party)
    (prepared : party = .refund provider input (.prepared payment requested)) (fresh : s.keys caller = none) :
    Naming deps s.ledger.payment (some party) none none ∧ executionOf s caller = none := by
  have mine := naming.each caller
  rw [live,fresh] at mine
  have unbegun : executionOf s caller = none := by
    subst prepared
    cases given : executionOf s caller with
    | none => rfl
    | some its => exact absurd (mine.request _ _ _ _ its rfl rfl given).1 (by simp)
  exact ⟨unbegun ▸ mine,unbegun⟩

theorem named_unlocked {s : Retried} (naming : Named deps s)
    (live : s.ledger.parties caller = some (.refund provider input (.prepared payment requested)))
    (fresh : s.keys caller = none) (given : refundKey deps payment requested input = some key)
    (unconfigured : deps.idempotency = none) (moved : advance s.ledger (.run caller) = some ledger) :
    Named deps ((s.withLedger ledger).withKey caller key) := by
  obtain ⟨mine,unbegun⟩ := named_unbegun naming live rfl fresh
  have sound := (advance_write naming.sound moved).1
  cases advance_moved moved with
  | run alive =>
      cases Option.some.inj (live.symm.trans alive)
      have keyed : Naming deps _ _ (some key) none := naming_keyed mine given (by simp)
      have known : Named deps (s.withKey caller key) :=
        named_keyed naming (live ▸ unbegun ▸ keyed : Naming deps _ (s.ledger.parties caller) _ (executionOf s caller))
          (fun _ _ => rfl)
      apply named_put known sound
      have ran := naming_run keyed ⟨by simp,fun configured => absurd unconfigured configured⟩
      rw [show (s.withKey caller key).keys caller = some key from Function.update_self _ _ _,
        show executionOf (s.withKey caller key) caller = none from unbegun]
      exact ran

theorem named_execute {s : Retried} (naming : Named deps s)
    (live : s.ledger.parties caller = some (.refund provider input (.prepared payment requested)))
    (fresh : s.keys caller = none) (given : refundKey deps payment requested input = some key)
    (moved : Idempotency.advance some s.idempotency
      (.begin caller service (refundExecution deps key payment requested)) = some idempotency) :
    Named deps ((s.withIdempotency idempotency).withKey caller key) := by
  have mine := (named_unbegun naming live rfl fresh).1
  obtain ⟨self,rest⟩ := begin_executions moved
  apply named_keyed naming _ rest
  rw [live,self]
  exact naming_keyed mine given (fun its same => (Option.some.inj same).symm)

theorem named_run {s : Retried} (naming : Named deps s) (inside : running s caller = true)
    (moved : advance s.ledger (.run caller) = some ledger) : Named deps (s.withLedger ledger) := by
  have sound := (advance_write naming.sound moved).1
  obtain ⟨call,begun,_⟩ := Idempotency.isRunning_call inside
  have execution : executionOf s caller = some call.execution := by simp [executionOf,begun]
  have mine := naming.each caller
  cases advance_moved moved with
  | run live =>
      rw [live] at mine
      have keyed := (mine.request _ _ _ _ call.execution rfl rfl execution).1
      exact named_put naming sound (naming_run mine ⟨by simp [keyed],by simp [execution]⟩)

theorem apart_unrun {action : Action} (apart : action.apart = true) : ∀ caller, action ≠ .run caller := by
  intro caller same
  subst same
  cases apart

theorem named_preserved {s next : Retried} (naming : Named deps s) (moved : retry deps s action = some next) :
    Named deps next := by
  cases retry_tried moved with
  | ledger apart did => exact named_ledger naming (apart_unrun apart) did
  | @unkeyed caller provider input _ _ live =>
      have sound : Sound (s.ledger.put caller (.refund provider input (.thrown .typeError))) :=
        sound_put naming.sound trivial
      apply named_put naming sound
      exact naming_follows (live ▸ naming.each caller) (follows_leave rfl rfl rfl : Follows _ caller _ _)
  | unlocked live fresh given unconfigured did => exact named_unlocked naming live fresh given unconfigured did
  | execute live fresh given did => exact named_execute naming live fresh given did
  | store did | compute did | returned _ did | thrown _ did => exact named_idempotency naming (by simp) did
  | run inside did => exact named_run naming inside did
  | refunded _ _ did =>
      have named := named_ledger naming (by simp) did
      exact ⟨named.sound,named.each⟩
  | @crash caller ledger did =>
      have put := named_ledger naming (by simp) did
      cases crashed : Idempotency.advance some s.idempotency (.crash caller) with
      | none => exact put
      | some idempotency => exact named_idempotency put (by simp) crashed
  | tick did ticked => exact named_idempotency (named_ledger naming (by simp) did) (by simp) ticked

theorem reached_named (path : Reached (retries deps) allowed s) : Named deps s := by
  refine path.invariant (Named deps) ?_ ?_
  · intro u initial
    obtain ⟨payment,now,collected,same⟩ := initial
    subst same
    refine ⟨sound_opened (collected_unrefunded collected),?_⟩
    intro caller
    exact naming_absent
  · intro u action next _ naming _ moved
    exact named_preserved naming moved

-- Only the commit of a reservation brings a call to the provider.
theorem advance_refunding {s next : Ledger} (moved : advance s action = some next)
    (live : next.parties caller = some (.refund provider input (.refunding first reservation))) :
    s.parties caller = some (.refund provider input (.refunding first reservation)) ∨ action = .store caller := by
  by_cases running : ∃ other, action = .run other
  · obtain ⟨other,is⟩ := running
    subst is
    cases advance_moved moved with
    | run =>
        rcases Ledger.put_cases live with ⟨_,before⟩ | ⟨_,impossible⟩
        · exact .inl before
        · cases impossible
  · rcases advance_moves moved (fun other is => running ⟨other,is⟩) caller with same | ⟨after,same,_,origin⟩
    · exact .inl (same.symm.trans live)
    · rcases origin with stored | unread
      · exact .inr stored
      · cases (unread _ _ _ (Option.some.inj (same.symm.trans live))).1

-- What a step of the retries does to the ledger under them.
theorem retry_ledger {s next : Retried} (moved : retry deps s action = some next) :
    next.ledger = s.ledger ∨
      (∃ caller provider input error, next.ledger = s.ledger.put caller (.refund provider input (.thrown error))) ∨
      ∃ inner, advance s.ledger inner = some next.ledger ∧ (action = .ledger inner ∨ ∀ caller, inner ≠ .store caller) := by
  cases retry_tried moved with
  | ledger _ did => exact .inr (.inr ⟨_,did,.inl rfl⟩)
  | unkeyed => exact .inr (.inl ⟨_,_,_,_,rfl⟩)
  | execute | store | compute | returned | thrown => exact .inl rfl
  | unlocked _ _ _ _ did | run _ did | refunded _ _ did | crash did | tick did => exact .inr (.inr ⟨_,did,.inr (by simp)⟩)

theorem retry_refunding {s next : Retried} (moved : retry deps s action = some next)
    (live : next.ledger.parties caller = some (.refund provider input (.refunding first reservation))) :
    s.ledger.parties caller = some (.refund provider input (.refunding first reservation)) ∨
      action = .ledger (.store caller) := by
  rcases retry_ledger moved with same | ⟨other,_,_,_,same⟩ | ⟨inner,did,outer⟩
  · exact .inl (same ▸ live)
  · rw [same] at live
    rcases Ledger.put_cases live with ⟨_,before⟩ | ⟨_,impossible⟩
    · exact .inl before
    · cases impossible
  · rcases advance_refunding did live with before | rfl
    · exact .inl before
    · rcases outer with same | impossible
      · exact .inr same
      · exact absurd rfl (impossible caller)

-- The reservation behind a call to the provider, as its commit found the payment.
theorem store_reserves {s next : Retried} (naming : Named deps s) (moved : retry deps s (.ledger (.store caller)) = some next)
    (live : next.ledger.parties caller = some (.refund provider input (.refunding first reservation))) :
    ∃ attempt fresh claim,
      s.ledger.parties caller = some (.refund provider input (.claiming first attempt fresh claim)) ∧
      s.ledger.payment.refundedAmount = fresh.refundedAmount ∧ first.amount = fresh.amount ∧
      reservation.requested = named input fresh := by
  obtain ⟨ledger,did,same⟩ := Option.map_eq_some_iff.mp moved
  cases same
  have mine := naming.each caller
  rcases advance_moves did (by simp) caller with same | ⟨after,same,follows,_⟩
  · have stuck : s.ledger.parties caller = some (.refund provider input (.refunding first reservation)) :=
      same.symm.trans live
    cases advance_moved did with
    | store alive ran =>
        cases Option.some.inj (alive.symm.trans stuck)
        cases ran
  · have after_ : after = .refund provider input (.refunding first reservation) := Option.some.inj (same.symm.trans live)
    subst after_
    generalize standing : s.ledger.parties caller = before at follows mine
    cases follows with
    | begin silent => cases (silent _ _ _ rfl).1
    | leave silent => cases (silent _ _ _ rfl).1
    | reserve unchanged =>
        obtain ⟨_,_,fits⟩ := naming.sound.standing caller _ standing
        have amount : first.amount = s.ledger.payment.amount := mine.amount _ _ _ first rfl rfl
        exact ⟨_,_,_,rfl,unchanged,amount.trans fits.amount.symm,mine.asks _ _ _ rfl⟩

theorem named_remaining (without : input.amount = none) : named input payment = remaining payment := by
  simp [named,without]

theorem named_given (given : input.amount = some money) : named input payment = money.amount := by
  simp [named,given]

-- A reservation is for the amount its key names exactly when it meets the condition.
theorem reserved_iff {s next : Retried} (naming : Named deps s) (moved : retry deps s (.ledger (.store caller)) = some next)
    (live : next.ledger.parties caller = some (.refund provider input (.refunding first reservation))) :
    reservation.requested = named input first ↔ Unmoved s (.ledger (.store caller)) := by
  obtain ⟨attempt,fresh,claim,standing,unchanged,amount,asked⟩ := store_reserves naming moved live
  rw [asked]
  simp only [Unmoved,unmoved,standing,Bool.or_eq_true,bne_iff_ne,beq_iff_eq]
  cases given : input.amount with
  | some money => simp [named_given given]
  | none =>
      rw [named_remaining given,named_remaining given]
      unfold remaining
      simp only [Option.isSome_none,Bool.false_eq_true,false_or]
      omega

-- Every provider refund sends the amount its key and its hashed request name, in every run
-- whose reservations meet the condition.
theorem refunded_as_named (path : Reached (retries deps) Unmoved s)
    (live : s.ledger.parties caller = some (.refund provider input (.refunding first reservation))) :
    (∃ row ∈ s.ledger.refunds, row.id = reservation.refundId ∧ row.amount = reservation.requested) ∧
    (∃ key, s.keys caller = some key ∧ refundKey deps first reservation.requested input = some key) ∧
    (deps.idempotency ≠ none → ∃ call, s.idempotency.calls caller = some call ∧
      s.keys caller = some call.execution.key ∧
      call.execution.requestHash = deps.hashRequest reservation.requested first.currency) := by
  have naming := reached_named path
  have asked : reservation.requested = named input first := by
    have everywhere : ∀ caller provider input first reservation,
        s.ledger.parties caller = some (.refund provider input (.refunding first reservation)) →
          reservation.requested = named input first := by
      refine path.invariant (fun u => ∀ caller provider input first reservation,
        u.ledger.parties caller = some (.refund provider input (.refunding first reservation)) →
          reservation.requested = named input first) ?_ ?_
      · intro u initial caller provider input first reservation live
        obtain ⟨payment,now,collected,same⟩ := initial
        subst same
        cases live
      · intro u action next before ih unmoved moved caller provider input first reservation live
        rcases retry_refunding moved live with before | rfl
        · exact ih caller provider input first reservation before
        · exact (reserved_iff (reached_named before) moved live).mpr unmoved
    exact everywhere caller provider input first reservation live
  have mine := naming.each caller
  rw [live] at mine
  obtain ⟨known,handed⟩ := mine.begun _ _ _ rfl rfl
  obtain ⟨backed,row,member,here,_,amount⟩ := naming.sound.standing caller _ live
  refine ⟨⟨row,member,here.trans backed.symm,amount⟩,?_,?_⟩
  · obtain ⟨key,given⟩ := Option.ne_none_iff_exists'.mp known
    exact ⟨key,given,asked ▸ mine.keyed _ _ _ first key rfl rfl given⟩
  · intro configured
    obtain ⟨execution,standing⟩ := Option.ne_none_iff_exists'.mp (handed configured)
    obtain ⟨call,begun,rfl⟩ := Option.map_eq_some_iff.mp standing
    obtain ⟨key,hash⟩ := mine.request _ _ _ first _ rfl rfl standing
    exact ⟨call,begun,key,asked ▸ hash⟩

section Schedules

-- A hash that tells amounts apart.
def hashing : Deps :=
  ⟨none,"trust-my-travel",some (Idempotency.Service.create ⟨none,none,none,none⟩),Text.asciiUpperCase,fun amount _ => amount.toNat⟩

def begins (caller : Nat) (amount : Option Money) (reference : String) : List Retry :=
  [.ledger (.beginRefund caller "trust-my-travel" ⟨amount,some reference⟩),.ledger (.store caller),.ledger (.store caller),
    .execute caller]

def reserves (caller : Nat) : List Retry := [.store caller .none,.compute caller,.store caller .none] ++ reserved caller

-- A partial refund of 30 runs between the key of another refund and its reservation.
def overtaken (amount : Option Money) : List Retry :=
  [begins 0 amount "return-0",begins 1 (some ⟨30,"EUR"⟩) "return-1",reserves 1,
    [.refunded 1 true (.answered ⟨"re_1","succeeded",⟨30,"EUR"⟩⟩),.ledger (.store 1)],reserves 0].flatten

-- A test of a call that is about to reach the provider.
def sending (s : Retried) (caller : Nat) (test : RefundPaymentActionInput → Payment → RefundReservation → Bool) : Bool :=
  match s.ledger.parties caller with
  | some (.refund _ input (.refunding first reservation)) => test input first reservation
  | _ => false

theorem sending_found (found : sending s caller test = true) : ∃ provider input first reservation,
    s.ledger.parties caller = some (.refund provider input (.refunding first reservation)) ∧
      test input first reservation = true := by
  unfold sending at found
  split at found
  · rename_i provider input first reservation live
    exact ⟨provider,input,first,reservation,live,found⟩
  · cases found

theorem refunded_as_named_between :
    ∃ s provider input first reservation, Reached (retries hashing) Unmoved s ∧
      s.ledger.parties 0 = some (.refund provider input (.refunding first reservation)) ∧ reservation.requested = 40 ∧
      ∃ key, s.keys 0 = some key ∧ refundKey hashing first reservation.requested input = some key := by
  have passed : (run (retries hashing) Unmoved (started cardPayment 0) (overtaken (some ⟨40,"EUR"⟩))).any
      (fun s => sending s 0 fun _ _ reservation => reservation.requested == 40) = true := by decide +kernel
  obtain ⟨s,path,found⟩ := run_reaches (started_initial ⟨rfl,rfl,by decide⟩ 0) passed
  obtain ⟨provider,input,first,reservation,live,amount⟩ := sending_found found
  exact ⟨s,provider,input,first,reservation,path,live,beq_iff_eq.mp amount,(refunded_as_named path live).2.1⟩

theorem full_refund_resized :
    ∃ s provider input first reservation call, Reached (retries hashing) anyStep s ∧
      s.ledger.parties 0 = some (.refund provider input (.refunding first reservation)) ∧ reservation.requested = 70 ∧
      s.keys 0 = refundKey hashing first 100 input ∧ refundKey hashing first reservation.requested input ≠ s.keys 0 ∧
      s.idempotency.calls 0 = some call ∧
      call.execution.requestHash ≠ hashing.hashRequest reservation.requested first.currency := by
  have passed : (run (retries hashing) anyStep (started cardPayment 0) (overtaken none)).any (fun s =>
      sending s 0 fun input first reservation => reservation.requested == 70 &&
        s.keys 0 == refundKey hashing first 100 input &&
        refundKey hashing first reservation.requested input != s.keys 0 &&
        (s.idempotency.calls 0).any fun call =>
          call.execution.requestHash != hashing.hashRequest reservation.requested first.currency) = true := by decide +kernel
  obtain ⟨s,path,found⟩ := run_reaches (started_initial ⟨rfl,rfl,by decide⟩ 0) passed
  obtain ⟨provider,input,first,reservation,live,found⟩ := sending_found found
  simp only [Bool.and_eq_true,beq_iff_eq,bne_iff_ne,Option.any_eq_true] at found
  obtain ⟨⟨⟨amount,key⟩,other⟩,call,begun,hash⟩ := found
  exact ⟨s,provider,input,first,reservation,call,path,live,amount,key,other,begun,hash⟩

end Schedules

end Payable.Refunds
