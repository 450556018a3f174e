import Payable.Payments.Writers

namespace Payable.Payments
open Domain Refunds Tables Runs

-- Every webhook writes while the status is still the one it decided on.
def upToDate (s : Shared) : Action → Bool
  | .store caller | .abort caller true =>
    match s.writers caller with
    | some (.webhook _ _ _ (.writing found _)) => s.row.payment.status == found.payment.status
    | _ => true
  | _ => true

def UpToDate (s : Shared) (action : Action) : Prop := upToDate s action = true

instance (s : Shared) (action : Action) : Decidable (UpToDate s action) := inferInstanceAs (Decidable (_ = _))

def Commit.Legal (commit : Commit) : Prop :=
  Reachable commit.before commit.after ∨
    commit.released = true ∧ (commit.before = .partiallyRefunded ∨ commit.before = .refunded) ∧
      (commit.after = .partiallyRefunded ∨ commit.after = .succeeded)

-- The books hold whatever a webhook makes of the status of a refunded payment.
structure Booked (payment : Payment) (refunds : List Refund) : Prop where
  keyed : Keyed Refund.id refunds
  positive : ∀ refund ∈ refunds, 0 < refund.amount
  balance : payment.refundedAmount = total counted refunds
  bounded : payment.refundedAmount ≤ payment.amount
  status : 0 < payment.refundedAmount → payment.status = .partiallyRefunded ∨ payment.status = .refunded

-- The status the refunded amount alone would give.
def agreed (payment : Payment) : Payment :=
  {payment with
    status := if payment.refundedAmount = 0 then .succeeded
      else if payment.refundedAmount = payment.amount then .refunded else .partiallyRefunded}

theorem booked_accounted (booked : Booked payment refunds) : Accounted (agreed payment) refunds := by
  refine ⟨booked.keyed,booked.positive,booked.balance,booked.bounded,?_⟩
  have balance := booked.balance
  have bounded := booked.bounded
  have nonneg : 0 ≤ payment.refundedAmount := by
    rw [balance]
    apply total_nonneg
    intro refund member
    have positive := booked.positive refund member
    unfold counted
    split <;> omega
  unfold StatusAgrees agreed
  dsimp only
  by_cases none_ : payment.refundedAmount = 0
  · rw [if_pos none_]
    exact none_
  · rw [if_neg none_]
    by_cases whole : payment.refundedAmount = payment.amount
    · rw [if_pos whole]
      exact ⟨by omega,whole⟩
    · rw [if_neg whole]
      exact ⟨by omega,by omega⟩

theorem booked_status (booked : Booked payment refunds) (reached : Reachable payment.status status) :
    Booked {payment with status := status,capturedAmount := amount,providerPaymentId := providerPaymentId} refunds := by
  refine ⟨booked.keyed,booked.positive,booked.balance,booked.bounded,?_⟩
  intro refunded
  apply reachable_paid reached
  exact .inr (booked.status refunded)

theorem booked_write (booked : Booked payment refunds) (write : Write caller payment refunds payment' refunds') :
    Booked payment' refunds' := by
  have accounted := booked_accounted booked
  cases write with
  | none => exact booked
  | reserve new mine fresh live positive fits =>
      subst mine
      have after := accounted_reserve accounted fresh live positive fits
      refine ⟨after.keyed,after.positive,after.balance,after.bounded,?_⟩
      intro _
      unfold reservedStatus
      dsimp only
      split
      · exact .inr rfl
      · exact .inl rfl
  | release row member mine live status closed providerRefundId =>
      subst mine
      have after := @accounted_release _ _ _ _ providerRefundId accounted member live closed
      refine ⟨after.keyed,after.positive,after.balance,after.bounded,?_⟩
      intro refunded
      refine .inl ?_
      unfold releasedStatus
      dsimp only at refunded ⊢
      rw [if_neg (by omega)]
  | mark row member mine live status open_ providerRefundId =>
      subst mine
      have after := @accounted_mark _ _ _ _ providerRefundId accounted member live open_
      exact ⟨after.keyed,after.positive,after.balance,after.bounded,booked.status⟩
  | settle authorized status settled capturedAmount providerPaymentId =>
      apply booked_status booked
      rw [authorized]
      rcases settled with rfl | rfl | rfl
      · exact ⟨.capture,rfl⟩
      · exact ⟨.void,rfl⟩
      · exact ⟨.fail,rfl⟩

-- What a writer has decided is one event from what it read.
def Writer.decided : Writer → Prop
  | .books (.refund _ _ (.claiming _ _ fresh claim)) | .books (.record _ (.claiming _ fresh claim)) =>
    Reachable fresh.status claim.status
  | .webhook _ _ _ (.writing found status) => Reachable found.payment.status status
  | .redirect _ _ (.committing fresh status) | .unsettled _ _ (.committing fresh status) =>
    Reachable fresh.payment.status status
  | _ => True

theorem claimRefund_decided (claimed : claimRefund fresh input = .ok claim) : Reachable fresh.status claim.status := by
  unfold claimRefund at claimed
  dsimp only at claimed
  repeat' split at claimed
  all_goals cases claimed
  rename_i moved
  exact ⟨_,moved⟩

theorem claimLocalRefund_decided (claimed : claimLocalRefund fresh input = .ok claim) :
    Reachable fresh.status claim.status := by
  unfold claimLocalRefund at claimed
  dsimp only at claimed
  repeat' split at claimed
  all_goals cases claimed
  rename_i moved
  exact ⟨_,moved⟩

-- Entering a transaction reads the row and writes nothing.
structure Entered (row : Row) (written : Written) : Prop where
  decided : written.writer.decided
  snapshot : ∀ payment, written.writer.snapshot = some payment → payment = row.payment ∧ written.row = row

theorem entered_silent {written : Written} (decided : written.writer.decided) (silent : written.writer.snapshot = none) :
    Entered row written := by
  refine ⟨decided,?_⟩
  intro payment taken
  rw [silent] at taken
  cases taken

theorem entered_unwritten {written : Written} (decided : written.writer.decided) (same : written.row = row)
    (snapshot : ∀ payment, written.writer.snapshot = some payment → payment = row.payment) : Entered row written :=
  ⟨decided,fun payment taken => ⟨snapshot payment taken,same⟩⟩

theorem refundStep_entered {phase : RefundPhase}
    (did : refundStep caller now provider input payment refunds phase = some (payment',refunds',phase')) :
    (Writer.books (.refund provider input phase')).decided ∧
      ∀ taken, (Writer.books (.refund provider input phase')).snapshot = some taken → taken = payment ∧ payment' = payment := by
  cases phase with
  | reserving first attempt =>
      simp only [refundStep] at did
      split at did
      · cases did; exact ⟨trivial,by simp [Writer.snapshot]⟩
      · rename_i claimed
        cases did
        exact ⟨claimRefund_decided claimed,fun _ same => ⟨(Option.some.inj same).symm,rfl⟩⟩
  | releasing reservation release attempt =>
      cases did
      exact ⟨trivial,fun _ same => ⟨(Option.some.inj same).symm,rfl⟩⟩
  | reverting reservation release attempt fresh =>
      simp only [refundStep] at did
      split at did
      · cases did
        cases release <;> exact ⟨trivial,by simp [Writer.snapshot]⟩
      · split at did <;> cases did <;> exact ⟨trivial,by simp [Writer.snapshot]⟩
  | checking | listing | claiming | mismatched | unreleased | rereading | finalizing =>
      simp only [refundStep] at did
      repeat' split at did
      all_goals cases did; exact ⟨trivial,by simp [Writer.snapshot]⟩
  | prepared | refunding | returned | thrown | crashed => cases did

theorem recordStep_entered {phase : RecordPhase}
    (did : recordStep caller now input payment refunds phase = some (payment',refunds',phase')) :
    (Writer.books (.record input phase')).decided ∧
      ∀ taken, (Writer.books (.record input phase')).snapshot = some taken → taken = payment ∧ payment' = payment := by
  cases phase with
  | recording attempt =>
      simp only [recordStep] at did
      split at did
      · cases did; exact ⟨trivial,by simp [Writer.snapshot]⟩
      · rename_i claimed
        cases did
        exact ⟨claimLocalRefund_decided claimed,fun _ same => ⟨(Option.some.inj same).symm,rfl⟩⟩
  | claiming attempt fresh claim =>
      simp only [recordStep] at did
      split at did
      · cases did; exact ⟨trivial,by simp [Writer.snapshot]⟩
      · split at did <;> cases did <;> exact ⟨trivial,by simp [Writer.snapshot]⟩
  | returned | thrown | crashed => cases did

theorem writerStep_entered (did : writerStep caller now row refunds writer = some written) : Entered row written := by
  cases writer with
  | books party =>
      simp only [writerStep,Option.map_eq_some_iff] at did
      obtain ⟨⟨payment,refunds',after⟩,step,rfl⟩ := did
      cases party with
      | refund provider input phase =>
          simp only [partyStep,Option.map_eq_some_iff] at step
          obtain ⟨⟨_,_,_⟩,moved,same⟩ := step
          cases same
          obtain ⟨decided,snapshot⟩ := refundStep_entered moved
          refine ⟨decided,?_⟩
          intro taken same
          obtain ⟨rfl,rfl⟩ := snapshot taken same
          exact ⟨rfl,rfl⟩
      | record input phase =>
          simp only [partyStep,Option.map_eq_some_iff] at step
          obtain ⟨⟨_,_,_⟩,moved,same⟩ := step
          cases same
          obtain ⟨decided,snapshot⟩ := recordStep_entered moved
          refine ⟨decided,?_⟩
          intro taken same
          obtain ⟨rfl,rfl⟩ := snapshot taken same
          exact ⟨rfl,rfl⟩
      | settle input phase =>
          simp only [partyStep,Option.map_eq_some_iff] at step
          obtain ⟨⟨_,_⟩,_,same⟩ := step
          cases same
          exact entered_silent trivial rfl
  | webhook providerName dto occurredAt phase =>
      simp only [writerStep,Option.map_eq_some_iff] at did
      obtain ⟨⟨_,_⟩,step,rfl⟩ := did
      cases phase with
      | reading =>
          simp only [webhookStep] at step
          split at step
          · cases step; exact entered_silent trivial rfl
          · split at step
            · cases step; exact entered_silent trivial rfl
            · split at step <;> cases step
              · exact entered_silent trivial rfl
              · rename_i moved
                exact entered_silent (tryTransitionTo_reachable moved) rfl
      | writing => cases step; exact entered_silent trivial rfl
      | returned | thrown | crashed => cases step
  | redirect providerName result phase =>
      simp only [writerStep,Option.map_eq_some_iff] at did
      obtain ⟨⟨_,_⟩,step,rfl⟩ := did
      cases phase with
      | finding | findingSession =>
          simp only [redirectStep] at step
          repeat' split at step
          all_goals cases step; exact entered_silent trivial rfl
      | locking =>
          simp only [redirectStep] at step
          split at step
          · cases step; exact entered_silent trivial rfl
          · split at step
            · cases step; exact entered_silent trivial rfl
            · split at step <;> cases step
              · exact entered_silent trivial rfl
              · rename_i moved
                exact entered_unwritten (tryTransitionTo_reachable moved) rfl (fun _ same => (Option.some.inj same).symm)
      | committing => cases step; exact entered_silent trivial rfl
      | returned | thrown | crashed => cases step
  | unsettled providerName checkoutSessionId phase =>
      simp only [writerStep,Option.map_eq_some_iff] at did
      obtain ⟨⟨_,_⟩,step,rfl⟩ := did
      cases phase with
      | owning =>
          simp only [unsettledStep] at step
          split at step <;> cases step <;> exact entered_silent trivial rfl
      | locking session =>
          simp only [unsettledStep] at step
          split at step
          · cases step; exact entered_silent trivial rfl
          · split at step
            · cases step; exact entered_silent trivial rfl
            · split at step
              · cases step; exact entered_silent trivial rfl
              · split at step <;> cases step
                · exact entered_silent trivial rfl
                · rename_i moved
                  exact entered_unwritten (tryTransitionTo_reachable moved) rfl (fun _ same => (Option.some.inj same).symm)
      | committing =>
          simp only [unsettledStep] at step
          split at step <;> cases step <;> exact entered_silent trivial rfl
      | asking | returned | thrown | crashed => cases step

-- A store call that does not wait for the row leaves it alone.
theorem partyStep_unlocked {party : Party} (open_ : (Writer.books party).locks = false)
    (did : partyStep caller now payment refunds party = some (payment',refunds',party')) :
    payment' = payment ∧ (Writer.books party').snapshot = none := by
  cases party with
  | refund provider input phase =>
      simp only [partyStep,Option.map_eq_some_iff] at did
      obtain ⟨⟨_,_,_⟩,step,same⟩ := did
      cases same
      cases phase with
      | checking | listing | mismatched | unreleased | rereading | finalizing =>
          simp only [refundStep] at step
          repeat' split at step
          all_goals cases step; exact ⟨rfl,rfl⟩
      | prepared | refunding | returned | thrown | crashed => cases step
      | reserving | claiming | releasing | reverting => cases open_
  | record input phase =>
      simp only [partyStep,Option.map_eq_some_iff] at did
      obtain ⟨⟨_,_,_⟩,step,same⟩ := did
      cases same
      cases phase with
      | recording | claiming => cases open_
      | returned | thrown | crashed => cases step
  | settle input phase =>
      simp only [partyStep,Option.map_eq_some_iff] at did
      obtain ⟨⟨_,_⟩,step,same⟩ := did
      cases same
      cases phase with
      | loading | mutating =>
          simp only [settleStep] at step
          repeat' split at step
          all_goals cases step; exact ⟨rfl,rfl⟩
      | expiring | committing => cases open_
      | settling | returned | thrown | crashed => cases step

theorem writerStep_unlocked {writer : Writer} (open_ : writer.locks = false)
    (did : writerStep caller now row refunds writer = some written) :
    written.row = row ∧ written.writer.snapshot = none := by
  cases writer with
  | books party =>
      simp only [writerStep,Option.map_eq_some_iff] at did
      obtain ⟨⟨payment,refunds',after⟩,step,rfl⟩ := did
      obtain ⟨rfl,silent⟩ := partyStep_unlocked open_ step
      exact ⟨rfl,silent⟩
  | webhook providerName dto occurredAt phase =>
      simp only [writerStep,Option.map_eq_some_iff] at did
      obtain ⟨⟨_,_⟩,step,rfl⟩ := did
      cases phase with
      | reading =>
          simp only [webhookStep] at step
          repeat' split at step
          all_goals cases step; exact ⟨rfl,rfl⟩
      | writing => cases open_
      | returned | thrown | crashed => cases step
  | redirect providerName result phase =>
      simp only [writerStep,Option.map_eq_some_iff] at did
      obtain ⟨⟨_,_⟩,step,rfl⟩ := did
      cases phase with
      | finding | findingSession =>
          simp only [redirectStep] at step
          repeat' split at step
          all_goals cases step; exact ⟨rfl,rfl⟩
      | locking | committing => cases open_
      | returned | thrown | crashed => cases step
  | unsettled providerName checkoutSessionId phase =>
      simp only [writerStep,Option.map_eq_some_iff] at did
      obtain ⟨⟨_,_⟩,step,rfl⟩ := did
      cases phase with
      | owning =>
          simp only [unsettledStep] at step
          split at step <;> cases step <;> exact ⟨rfl,rfl⟩
      | locking | committing => cases open_
      | asking | returned | thrown | crashed => cases step

-- What a store call may do to the row, its refunds and its status.
structure Lawful (caller : Nat) (row : Row) (refunds : List Refund) (released : Bool) (written : Written) : Prop where
  booked : Booked written.row.payment written.refunds
  framed : Framed caller row.payment refunds written.row.payment written.refunds
  legal : written.row.payment.status = row.payment.status ∨
    Commit.Legal ⟨row.payment.status,written.row.payment.status,released⟩

theorem lawful_same (booked : Booked row.payment refunds) (same : written.row.payment = row.payment)
    (kept : written.refunds = refunds) : Lawful caller row refunds released written := by
  refine ⟨?_,?_,?_⟩
  · rw [same,kept]; exact booked
  · rw [same,kept]; exact ⟨rfl,fun _ _ => Iff.rfl⟩
  · exact .inl (by rw [same])

theorem lawful_status (booked : Booked row.payment refunds) (kept : written.refunds = refunds)
    (same : written.row.payment =
      {row.payment with status := status,capturedAmount := amount,providerPaymentId := providerPaymentId})
    (reached : Reachable row.payment.status status) : Lawful caller row refunds released written := by
  refine ⟨?_,?_,?_⟩
  · rw [same,kept]; exact booked_status booked reached
  · rw [same,kept]; exact ⟨rfl,fun _ _ => Iff.rfl⟩
  · exact .inr (.inl (by rw [same]; exact reached))

theorem lawful_write (booked : Booked row.payment refunds) (write : Write caller row.payment refunds written.row.payment written.refunds)
    (legal : written.row.payment.status = row.payment.status ∨
      Commit.Legal ⟨row.payment.status,written.row.payment.status,released⟩) :
    Lawful caller row refunds released written :=
  ⟨booked_write booked write,write_framed write,legal⟩

-- A release starts from a refunded payment.
theorem backed_refunded (booked : Booked payment refunds) (backed : Backed refunds caller reservation) :
    payment.status = .partiallyRefunded ∨ payment.status = .refunded := by
  obtain ⟨_,row,member,_,pending,_⟩ := backed
  obtain ⟨positive,reserved⟩ := outstanding_reserved (booked_accounted booked) member (by simp [outstanding,pending])
  apply booked.status
  have amount : (agreed payment).refundedAmount = payment.refundedAmount := rfl
  omega

theorem refundStep_legal {phase : RefundPhase} (booked : Booked payment refunds)
    (standing : phase.standing input payment refunds caller) (decided : (Writer.books (.refund provider input phase)).decided)
    (held : ∀ taken, (Writer.books (.refund provider input phase)).snapshot = some taken → taken = payment)
    (did : refundStep caller now provider input payment refunds phase = some (payment',refunds',phase')) :
    payment'.status = payment.status ∨
      Commit.Legal ⟨payment.status,payment'.status,(Writer.books (.refund provider input phase)).releases⟩ := by
  cases phase with
  | claiming first attempt fresh claim =>
      have same : fresh = payment := held fresh rfl
      subst same
      simp only [refundStep,updateRefundedAmountIfUnchanged,if_true] at did
      cases did
      exact .inr (.inl decided)
  | reverting reservation release attempt fresh =>
      have same : fresh = payment := held fresh rfl
      subst same
      simp only [refundStep,updateRefundedAmountIfUnchanged,if_true] at did
      cases did
      refine .inr (.inr ⟨rfl,backed_refunded booked standing.1,?_⟩)
      dsimp only
      unfold releasedStatus
      split
      · exact .inr rfl
      · exact .inl rfl
  | checking | listing | reserving | mismatched | releasing | unreleased | rereading | finalizing =>
      simp only [refundStep] at did
      repeat' split at did
      all_goals cases did; exact .inl rfl
  | prepared | refunding | returned | thrown | crashed => cases did

theorem recordStep_legal {phase : RecordPhase} (decided : (Writer.books (.record input phase)).decided)
    (held : ∀ taken, (Writer.books (.record input phase)).snapshot = some taken → taken = payment)
    (did : recordStep caller now input payment refunds phase = some (payment',refunds',phase')) :
    payment'.status = payment.status ∨ Commit.Legal ⟨payment.status,payment'.status,false⟩ := by
  cases phase with
  | recording attempt =>
      simp only [recordStep] at did
      split at did <;> cases did <;> exact .inl rfl
  | claiming attempt fresh claim =>
      have same : fresh = payment := held fresh rfl
      subst same
      simp only [recordStep,updateRefundedAmountIfUnchanged,if_true] at did
      cases did
      exact .inr (.inl decided)
  | returned | thrown | crashed => cases did

theorem settleStep_legal {phase : SettlePhase} (standing : phase.standing)
    (did : settleStep input now payment phase = some (payment',phase')) :
    payment'.status = payment.status ∨ Commit.Legal ⟨payment.status,payment'.status,false⟩ := by
  cases phase with
  | loading | mutating =>
      simp only [settleStep] at did
      repeat' split at did
      all_goals cases did; exact .inl rfl
  | expiring =>
      simp only [settleStep,updateStatusIfAuthorized] at did
      split at did <;> cases did
      · rename_i authorized
        exact .inr (.inl ⟨.fail,by rw [authorized]; rfl⟩)
      · exact .inl rfl
  | committing status capturedAmount providerPaymentId =>
      simp only [settleStep,updateStatusIfAuthorized] at did
      by_cases authorized : payment.status = .authorized
      · rw [if_pos authorized] at did
        cases did
        dsimp only
        rw [authorized]
        rcases standing with rfl | rfl
        · exact .inr (.inl ⟨.capture,rfl⟩)
        · exact .inr (.inl ⟨.void,rfl⟩)
      · rw [if_neg authorized] at did
        cases did
        exact .inl rfl
  | settling | returned | thrown | crashed => cases did

-- Any writer whose snapshot still stands, and any webhook that is up to date.
theorem writerStep_lawful {writer : Writer} (booked : Booked row.payment refunds)
    (standing : ∀ party, writer = .books party → party.standing row.payment refunds caller) (decided : writer.decided)
    (held : ∀ payment, writer.snapshot = some payment → payment = row.payment)
    (current : ∀ providerName dto occurredAt found status, writer = .webhook providerName dto occurredAt (.writing found status) →
      row.payment.status = found.payment.status)
    (did : writerStep caller now row refunds writer = some written) :
    Lawful caller row refunds writer.releases written := by
  cases writer with
  | books party =>
      simp only [writerStep,Option.map_eq_some_iff] at did
      obtain ⟨⟨payment,refunds',after⟩,step,rfl⟩ := did
      have write := (partyStep_write (standing party rfl) step).1
      refine lawful_write booked write ?_
      cases party with
      | refund provider input phase =>
          simp only [partyStep,Option.map_eq_some_iff] at step
          obtain ⟨⟨_,_,_⟩,moved,same⟩ := step
          cases same
          exact refundStep_legal booked (standing _ rfl) decided held moved
      | record input phase =>
          simp only [partyStep,Option.map_eq_some_iff] at step
          obtain ⟨⟨_,_,_⟩,moved,same⟩ := step
          cases same
          exact recordStep_legal decided held moved
      | settle input phase =>
          simp only [partyStep,Option.map_eq_some_iff] at step
          obtain ⟨⟨_,_⟩,moved,same⟩ := step
          cases same
          exact settleStep_legal (standing _ rfl) moved
  | webhook providerName dto occurredAt phase =>
      simp only [writerStep,Option.map_eq_some_iff] at did
      obtain ⟨⟨_,_⟩,step,rfl⟩ := did
      cases phase with
      | reading =>
          simp only [webhookStep] at step
          repeat' split at step
          all_goals cases step; exact lawful_same booked rfl rfl
      | writing found status =>
          cases step
          apply lawful_status booked rfl rfl
          rw [current _ _ _ _ _ rfl]
          exact decided
      | returned | thrown | crashed => cases step
  | redirect providerName result phase =>
      simp only [writerStep,Option.map_eq_some_iff] at did
      obtain ⟨⟨_,_⟩,step,rfl⟩ := did
      cases phase with
      | finding | findingSession | locking =>
          simp only [redirectStep] at step
          repeat' split at step
          all_goals cases step; exact lawful_same booked rfl rfl
      | committing fresh status =>
          have same : fresh.payment = row.payment := held _ rfl
          cases step
          apply lawful_status booked rfl rfl
          rw [← same]
          exact decided
      | returned | thrown | crashed => cases step
  | unsettled providerName checkoutSessionId phase =>
      simp only [writerStep,Option.map_eq_some_iff] at did
      obtain ⟨⟨_,_⟩,step,rfl⟩ := did
      cases phase with
      | owning | locking =>
          simp only [unsettledStep] at step
          repeat' split at step
          all_goals cases step; exact lawful_same booked rfl rfl
      | committing fresh status =>
          have same : fresh.payment = row.payment := held _ rfl
          simp only [unsettledStep] at step
          split at step <;> cases step
          · apply lawful_status booked rfl rfl
            rw [← same]
            exact decided
          · exact lawful_same booked rfl rfl
      | asking | returned | thrown | crashed => cases step

@[simp] theorem put_self (s : Shared) : (s.put caller writer).writers caller = some writer := by
  simp [Shared.put]

@[simp] theorem put_other (s : Shared) (other : i ≠ caller) : (s.put caller writer).writers i = s.writers i := by
  simp [Shared.put,other]

theorem attempt_did {s : Shared} (did : attempt s caller = some (writer,written)) :
    s.writers caller = some writer ∧ (writer.locks = true → ∀ other, s.locked = some other → other = caller) ∧
      writerStep caller s.now s.row s.refunds writer = some written := by
  simp only [attempt,Option.bind_eq_bind,Option.bind_eq_some_iff] at did
  obtain ⟨its,live,rest⟩ := did
  split at rest
  · cases rest
  · rename_i unblocked
    obtain ⟨result,step,same⟩ := Option.map_eq_some_iff.mp rest
    cases same
    refine ⟨live,?_,step⟩
    intro locks other locked
    by_contra apart
    exact unblocked (by simp [locks,locked,apart])

structure Orderly (s : Shared) : Prop where
  booked : Booked s.row.payment s.refunds
  begun : ∀ row ∈ s.refunds, s.writers row.id ≠ none
  standing : ∀ caller party, s.writers caller = some (.books party) → party.standing s.row.payment s.refunds caller
  decided : ∀ caller writer, s.writers caller = some writer → writer.decided
  held : ∀ caller writer payment, s.writers caller = some writer → writer.snapshot = some payment →
    s.locked = some caller ∧ payment = s.row.payment
  legal : ∀ commit ∈ s.commits, commit.Legal

theorem relock_other (locked : s = some other) (apart : other ≠ caller) (silent : writer.snapshot = none) :
    relock s caller writer = some other := by
  simp [relock,silent,locked,apart]

-- A writer outside any transaction.
structure Silent (payment : Payment) (refunds : List Refund) (caller : Nat) (writer : Writer) : Prop where
  standing : ∀ party, writer = .books party → party.standing payment refunds caller
  decided : writer.decided
  snapshot : writer.snapshot = none

theorem silent_books {party : Party} (standing : party.standing payment refunds caller)
    (decided : (Writer.books party).decided) (snapshot : (Writer.books party).snapshot = none) :
    Silent payment refunds caller (.books party) := by
  refine ⟨?_,decided,snapshot⟩
  intro other same
  cases same
  exact standing

theorem silent_unbooked {writer : Writer} (unbooked : ∀ party, writer ≠ .books party) (decided : writer.decided)
    (snapshot : writer.snapshot = none) : Silent payment refunds caller writer :=
  ⟨fun party same => absurd same (unbooked party),decided,snapshot⟩

theorem silent_threw (writer : Writer) : Silent payment refunds caller writer.storageThrew := by
  cases writer with
  | books party => cases party <;> exact silent_books trivial trivial rfl
  | webhook | redirect | unsettled => exact silent_unbooked (fun _ => Writer.noConfusion) trivial rfl

theorem silent_crash (writer : Writer) : Silent payment refunds caller writer.crash := by
  cases writer with
  | books party => cases party <;> exact silent_books trivial trivial rfl
  | webhook | redirect | unsettled => exact silent_unbooked (fun _ => Writer.noConfusion) trivial rfl

-- A writer that moves without a store call is in no transaction.
theorem orderly_put {s : Shared} {writer : Writer} (orderly : Orderly s)
    (silent : Silent s.row.payment s.refunds caller writer) : Orderly (s.put caller writer) := by
  refine ⟨orderly.booked,?_,?_,?_,?_,orderly.legal⟩
  · intro row member
    by_cases mine : row.id = caller
    · simp [mine]
    · rw [put_other s mine]
      exact orderly.begun row member
  · intro other party live
    by_cases mine : other = caller
    · subst mine
      rw [put_self,Option.some.injEq] at live
      exact silent.standing party live
    · rw [put_other s mine] at live
      exact orderly.standing other party live
  · intro other its live
    by_cases mine : other = caller
    · subst mine
      rw [put_self,Option.some.injEq] at live
      exact live ▸ silent.decided
    · rw [put_other s mine] at live
      exact orderly.decided other its live
  · intro other its payment live taken
    by_cases mine : other = caller
    · subst mine
      rw [put_self,Option.some.injEq] at live
      subst live
      rw [silent.snapshot] at taken
      cases taken
    · rw [put_other s mine] at live
      obtain ⟨locked,same⟩ := orderly.held other its payment live taken
      exact ⟨relock_other locked mine silent.snapshot,same⟩

-- A store call takes effect and leaves its writer at after.
theorem orderly_write {s : Shared} {after : Writer} (orderly : Orderly s) (did : attempt s caller = some (writer,written))
    (lawful : Lawful caller s.row s.refunds writer.releases written) (decided : after.decided)
    (standing : ∀ party, after = .books party → party.standing written.row.payment written.refunds caller)
    (snapshot : ∀ payment, after.snapshot = some payment → written.writer.snapshot = some payment) :
    Orderly ((s.put caller after).write writer.releases written) := by
  obtain ⟨live,free,step⟩ := attempt_did did
  have entered := writerStep_entered step
  refine ⟨lawful.booked,?_,?_,?_,?_,?_⟩
  · intro row member
    by_cases mine : row.id = caller
    · simp [Shared.write,mine]
    · have before := (lawful.framed.others row mine).mp member
      simpa [Shared.write,mine] using orderly.begun row before
  · intro other party alive
    by_cases mine : other = caller
    · subst mine
      simp only [Shared.write,put_self,Option.some.injEq] at alive
      exact standing party alive
    · simp only [Shared.write,put_other s mine] at alive
      exact standing_framed (orderly.standing other party alive) mine lawful.framed
  · intro other its alive
    by_cases mine : other = caller
    · subst mine
      simp only [Shared.write,put_self,Option.some.injEq] at alive
      exact alive ▸ decided
    · simp only [Shared.write,put_other s mine] at alive
      exact orderly.decided other its alive
  · intro other its payment alive taken
    by_cases mine : other = caller
    · subst mine
      simp only [Shared.write,put_self,Option.some.injEq] at alive
      subst alive
      obtain ⟨same,unwritten⟩ := entered.snapshot payment (snapshot payment taken)
      refine ⟨by simp [Shared.write,Shared.put,relock,taken],?_⟩
      show payment = written.row.payment
      rw [unwritten]
      exact same
    · simp only [Shared.write,put_other s mine] at alive
      obtain ⟨locked,same⟩ := orderly.held other its payment alive taken
      -- Someone else holds the row, so this call did not wait for it.
      have open_ : writer.locks = false := by
        by_contra waits
        exact mine (free (by simpa using waits) other locked)
      obtain ⟨unwritten,silent⟩ := writerStep_unlocked open_ step
      have after_ : after.snapshot = none := by
        cases taken : after.snapshot with
        | none => rfl
        | some payment => simp [snapshot payment taken] at silent
      refine ⟨relock_other locked mine after_,?_⟩
      show payment = written.row.payment
      rw [unwritten]
      exact same
  · intro commit member
    simp only [Shared.write] at member
    split at member
    · exact orderly.legal commit member
    · rename_i changed
      rcases List.mem_append.mp member with old | new
      · exact orderly.legal commit old
      · cases List.mem_singleton.mp new
        exact lawful.legal.resolve_left changed

theorem orderly_lawful {s : Shared} (orderly : Orderly s) (did : attempt s caller = some (writer,written))
    (current : UpToDate s (.store caller)) : Lawful caller s.row s.refunds writer.releases written := by
  obtain ⟨live,_,step⟩ := attempt_did did
  refine writerStep_lawful orderly.booked ?_ (orderly.decided caller writer live) ?_ ?_ step
  · intro party is
    exact orderly.standing caller party (is ▸ live)
  · intro payment taken
    exact (orderly.held caller writer payment live taken).2
  · intro providerName dto occurredAt found status is
    subst is
    simpa [UpToDate,upToDate,live] using current

theorem orderly_begin {s : Shared} {writer : Writer} (orderly : Orderly s)
    (silent : s.writers caller = none → Silent s.row.payment s.refunds caller writer)
    (moved : begin s caller writer = some next) : Orderly next := by
  unfold begin at moved
  split at moved <;> cases moved
  rename_i absent
  exact orderly_put orderly (silent absent)

theorem orderly_unused {s : Shared} (orderly : Orderly s) (absent : s.writers caller = none) : Unused s.refunds caller := by
  intro row member mine
  exact orderly.begun row member (mine ▸ absent)

theorem orderly_preserved {s next : Shared} (orderly : Orderly s) (current : UpToDate s action)
    (moved : advance s action = some next) : Orderly next := by
  cases action with
  | beginRefund caller provider input =>
      refine orderly_begin orderly ?_ moved
      intro absent
      unfold beginRefund
      split
      · exact silent_books trivial trivial rfl
      · rename_i positive
        refine silent_books ⟨orderly_unused orderly absent,?_⟩ trivial rfl
        intro money given
        simp only [Option.mem_def] at given
        simpa [given] using positive
  | beginRecord caller input =>
      refine orderly_begin orderly ?_ moved
      intro absent
      refine silent_books ?_ trivial rfl
      exact orderly_unused orderly absent
  | beginSettle caller input =>
      refine orderly_begin orderly ?_ moved
      intro _
      exact silent_books trivial trivial rfl
  | beginWebhook | beginRedirect | beginUnsettled =>
      refine orderly_begin orderly ?_ moved
      intro _
      exact silent_unbooked (fun _ => Writer.noConfusion) trivial rfl
  | run caller =>
      simp only [advance] at moved
      split at moved <;> cases moved
      rename_i live
      have standing := orderly.standing caller _ live
      apply orderly_put orderly
      refine silent_books ?_ trivial rfl
      exact standing
  | store caller =>
      obtain ⟨⟨writer,written⟩,did,same⟩ := Option.map_eq_some_iff.mp moved
      cases same
      have lawful := orderly_lawful orderly did current
      obtain ⟨live,_,step⟩ := attempt_did did
      refine orderly_write orderly did lawful (writerStep_entered step).decided ?_ (fun _ taken => taken)
      intro party is
      cases writer with
      | books before =>
          simp only [writerStep,Option.map_eq_some_iff] at step
          obtain ⟨⟨_,_,_⟩,step,rfl⟩ := step
          cases is
          exact (partyStep_write (orderly.standing caller before live) step).2
      | webhook | redirect | unsettled =>
          simp only [writerStep,Option.map_eq_some_iff] at step
          obtain ⟨⟨_,_⟩,_,rfl⟩ := step
          cases is
  | abort caller committed =>
      obtain ⟨⟨writer,written⟩,did,same⟩ := Option.map_eq_some_iff.mp moved
      cases same
      cases committed with
      | true =>
          have silent := @silent_threw written.row.payment written.refunds caller writer
          refine orderly_write orderly did (orderly_lawful orderly did current) silent.decided silent.standing ?_
          intro payment taken
          rw [silent.snapshot] at taken
          cases taken
      | false => exact orderly_put orderly (silent_threw writer)
  | refunded caller reply =>
      simp only [advance] at moved
      split at moved
      · rename_i provider input phase live
        obtain ⟨after,replied,same⟩ := Option.map_eq_some_iff.mp moved
        cases same
        have standing := refundReplied_standing (orderly.standing caller _ live) replied
        apply orderly_put orderly
        refine silent_books standing ?_ ?_
        all_goals
          unfold refundReplied at replied
          repeat' split at replied
          all_goals cases replied
          all_goals trivial
      · cases moved
  | settled caller reply =>
      simp only [advance] at moved
      split at moved
      · rename_i input phase live
        obtain ⟨after,replied,same⟩ := Option.map_eq_some_iff.mp moved
        cases same
        have put : Orderly (s.put caller (.books (.settle input after))) := by
          apply orderly_put orderly
          refine silent_books ?_ trivial rfl
          exact settlementReplied_standing replied
        exact ⟨put.booked,put.begun,put.standing,put.decided,put.held,put.legal⟩
      · cases moved
  | checked caller reply =>
      simp only [advance] at moved
      split at moved
      · obtain ⟨after,replied,same⟩ := Option.map_eq_some_iff.mp moved
        cases same
        apply orderly_put orderly
        refine silent_unbooked (fun _ => Writer.noConfusion) ?_ ?_
        all_goals
          unfold unsettledReplied at replied
          repeat' split at replied
          all_goals cases replied
          all_goals trivial
      · cases moved
  | crash caller =>
      obtain ⟨writer,_,same⟩ := Option.map_eq_some_iff.mp moved
      cases same
      exact orderly_put orderly (silent_crash writer)
  | tick elapsed =>
      cases moved
      exact ⟨orderly.booked,orderly.begun,orderly.standing,orderly.decided,orderly.held,orderly.legal⟩

theorem unrefunded_booked (unrefunded : Unrefunded payment) : Booked payment [] := by
  refine ⟨List.nodup_nil,by simp,unrefunded.refundedAmount,?_,?_⟩
  · rw [unrefunded.refundedAmount]
    exact unrefunded.amount
  · intro refunded
    rw [unrefunded.refundedAmount] at refunded
    exact absurd refunded (Int.lt_irrefl 0)

theorem reached_orderly (path : Reached payments UpToDate s) : Orderly s := by
  refine path.invariant Orderly ?_ ?_
  · intro u initial
    obtain ⟨row,now,unrefunded,same⟩ := initial
    subst same
    refine ⟨unrefunded_booked unrefunded,?_,?_,?_,?_,?_⟩
    · intro refund member
      cases member
    · intro caller party live
      cases live
    · intro caller writer live
      cases live
    · intro caller writer payment live
      cases live
    · intro commit member
      cases member
  · intro u action next _ orderly current moved
    exact orderly_preserved orderly current moved

-- Every committed change of a payment's status is one the map allows, or a release.
theorem committed_legal (path : Reached payments UpToDate s) : ∀ commit ∈ s.commits, commit.Legal ∧
    (commit.before = .succeeded → commit.after ≠ .failed ∧ commit.after ≠ .canceled ∧ commit.after ≠ .authorized ∧
      commit.after ≠ .processing) := by
  intro commit member
  have legal := (reached_orderly path).legal commit member
  refine ⟨legal,?_⟩
  intro succeeded
  rcases legal with reached | ⟨_,refunded,_⟩
  · rcases reachable_paid reached (.inl succeeded) with after | after <;> simp [after]
  · simp [succeeded] at refunded

section Schedules

def authorizedCard : Row := ⟨⟨some "stripe",some "pi_1",.authorized,"EUR",100,0,0,none⟩,some 0⟩

theorem opened_initial (unrefunded : Unrefunded row.payment) (now : Int) : payments.initial (opened row now) :=
  ⟨row,now,unrefunded,rfl⟩

theorem authorizedCard_unrefunded : Unrefunded authorizedCard.payment := ⟨rfl,by decide,by decide⟩

def capturing (caller : Nat) : List Action :=
  [.beginSettle caller ⟨.capture none none,"order-1:capture"⟩,.store caller,.store caller,
    .settled caller (.answered ⟨"pi_1","succeeded",100⟩)]

-- A capture, then a refund of 40 that the provider fails.
def releasedRefund : List Action :=
  [capturing 0,[.store 0,.beginRefund 1 "stripe" ⟨some ⟨40,"EUR"⟩,none⟩,.store 1,.store 1,.run 1,.store 1,.store 1,
    .refunded 1 .threw,.store 1,.store 1]].flatten

theorem committed_legal_released :
    ∃ s, Reached payments UpToDate s ∧ s.commits = [⟨.authorized,.succeeded,false⟩,⟨.succeeded,.partiallyRefunded,false⟩,
      ⟨.partiallyRefunded,.succeeded,true⟩] ∧ ∀ commit ∈ s.commits, commit.Legal := by
  have passed : (run payments UpToDate (opened authorizedCard 0) releasedRefund).any (fun s =>
      s.commits == [⟨.authorized,.succeeded,false⟩,⟨.succeeded,.partiallyRefunded,false⟩,
        ⟨.partiallyRefunded,.succeeded,true⟩]) = true := by decide
  obtain ⟨s,path,found⟩ := run_reaches (opened_initial authorizedCard_unrefunded 0) passed
  exact ⟨s,path,beq_iff_eq.mp found,fun commit member => (committed_legal path commit member).1⟩

-- A webhook decides on failed before the capture commits, and writes after it.
def undone : List Action :=
  [[.beginWebhook 1 "stripe" ⟨"pi_1",.failed⟩ 0,.store 1],capturing 0,[.store 0,.store 1]].flatten

theorem succeeded_undone :
    ∃ s commit, Reached payments anyStep s ∧ commit ∈ s.commits ∧ commit.before = .succeeded ∧ commit.after = .failed ∧
      ¬ commit.Legal := by
  have passed : (run payments anyStep (opened authorizedCard 0) undone).any (fun s =>
      s.commits == [⟨.authorized,.succeeded,false⟩,⟨.succeeded,.failed,false⟩]) = true := by decide
  obtain ⟨s,path,found⟩ := run_reaches (opened_initial authorizedCard_unrefunded 0) passed
  refine ⟨s,⟨.succeeded,.failed,false⟩,path,by simp [beq_iff_eq.mp found],rfl,rfl,?_⟩
  rintro (⟨event,moved⟩ | ⟨impossible,_⟩)
  · cases event <;> cases moved
  · cases impossible

end Schedules

end Payable.Payments
