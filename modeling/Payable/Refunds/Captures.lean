import Payable.Refunds.LedgerInvariant

namespace Payable.Refunds
open Domain Tables Runs

-- A payment as AuthorizePaymentAction creates it.
structure Authorized (payment : Payment) : Prop where
  status : payment.status = .authorized
  refundedAmount : payment.refundedAmount = 0
  capturedAmount : payment.capturedAmount = 0
  amount : 0 ≤ payment.amount

theorem authorized_unrefunded (authorized : Authorized payment) : Unrefunded payment :=
  ⟨authorized.refundedAmount,authorized.amount,by simp [authorized.status]⟩

-- The reservation that is about to be made, beside the refunded amount it was made for.
def Party.claim : Party → Option (Int × Claim)
  | .refund _ _ (.claiming _ _ fresh claim) => some (fresh.refundedAmount,claim)
  | .record _ (.claiming _ fresh claim) => some (fresh.refundedAmount,claim)
  | _ => none

def fitsCapture (s : Ledger) (party : Party) : Bool :=
  party.claim.all fun (expected,claim) =>
    s.payment.refundedAmount != expected || s.payment.refundedAmount + claim.requested ≤ s.payment.capturedAmount

-- No reservation that is committed is larger than what is left of the captured amount, and
-- a provider captures no negative amount.
def withinCapture (s : Ledger) : Action → Bool
  | .store caller | .abort caller true => (s.parties caller).all (fitsCapture s)
  | .settled _ (.answered result) => 0 ≤ result.amount
  | _ => true

def WithinCapture (s : Ledger) (action : Action) : Prop := withinCapture s action = true

instance (s : Ledger) (action : Action) : Decidable (WithinCapture s action) := inferInstanceAs (Decidable (_ = _))

-- A captured payment's refunds fit what was captured.
def Within (payment : Payment) : Prop := Settled payment → payment.refundedAmount ≤ payment.capturedAmount

def SettlePhase.captures : SettlePhase → Prop
  | .committing status capturedAmount _ => status = .succeeded → 0 ≤ capturedAmount
  | _ => True

def Party.captures : Party → Prop
  | .settle _ phase => phase.captures
  | _ => True

theorem swapped_unchanged {payment updated : Payment}
    (swapped : updateRefundedAmountIfUnchanged payment expected refundedAmount status = some updated) :
    payment.refundedAmount = expected := by
  unfold updateRefundedAmountIfUnchanged at swapped
  split at swapped
  · assumption
  · cases swapped

-- A store call raises the refunded amount only by the reservation it commits.
theorem refundStep_grew {phase : RefundPhase} (accounted : Accounted payment refunds)
    (standing : phase.standing input payment refunds caller)
    (did : refundStep caller now provider input payment refunds phase = some (payment',refunds',phase'))
    (grew : payment.refundedAmount < payment'.refundedAmount) :
    ∃ claim, (Party.refund provider input phase).claim = some (payment.refundedAmount,claim) ∧
      payment'.refundedAmount = payment.refundedAmount + claim.requested := by
  cases phase with
  | claiming read attempt fresh claim =>
      simp only [refundStep] at did
      split at did
      · rename_i swapped
        cases did
        obtain ⟨_,rfl⟩ := updateRefundedAmount_some standing.2.2 swapped
        exact ⟨claim,by rw [swapped_unchanged swapped]; rfl,rfl⟩
      · split at did <;> cases did <;> exact absurd grew (Int.lt_irrefl _)
  | reverting reservation release attempt fresh =>
      simp only [refundStep,updateRefundedAmountIfUnchanged] at did
      split at did
      · rename_i swapped
        split at swapped
        · rename_i unchanged
          cases swapped
          cases did
          obtain ⟨_,row,member,_,pending,amount⟩ := standing.1
          have reserved := outstanding_reserved accounted member (by simp [outstanding,pending])
          simp only [releasedAmount,← unchanged,← amount] at grew
          omega
        · cases swapped
      · split at did <;> cases did <;> exact absurd grew (Int.lt_irrefl _)
  | checking | listing | reserving | mismatched | releasing | unreleased | rereading | finalizing =>
      simp only [refundStep] at did
      repeat' split at did
      all_goals cases did; exact absurd grew (Int.lt_irrefl _)
  | prepared | refunding | returned | thrown | crashed => cases did

theorem settleStep_payment {phase : SettlePhase} (did : settleStep input now payment phase = some (payment',phase')) :
    payment' = payment ∧ phase'.captures ∨
      payment.status = .authorized ∧ ∃ status capturedAmount providerPaymentId,
        payment' = {payment with
          status := status,capturedAmount := capturedAmount,providerPaymentId := providerPaymentId} ∧
        (phase.captures → status = .succeeded → 0 ≤ capturedAmount) ∧ phase'.captures := by
  cases phase with
  | loading | mutating =>
      simp only [settleStep] at did
      repeat' split at did
      all_goals cases did; exact .inl ⟨rfl,trivial⟩
  | expiring =>
      simp only [settleStep,updateStatusIfAuthorized] at did
      split at did <;> cases did
      · rename_i authorized
        exact .inr ⟨authorized,_,_,_,rfl,by simp,trivial⟩
      · exact .inl ⟨rfl,trivial⟩
  | committing status capturedAmount providerPaymentId =>
      simp only [settleStep,updateStatusIfAuthorized] at did
      by_cases authorized : payment.status = .authorized
      · rw [if_pos authorized] at did
        cases did
        exact .inr ⟨authorized,_,_,_,rfl,fun bounded => bounded,trivial⟩
      · rw [if_neg authorized] at did
        cases did
        exact .inl ⟨rfl,trivial⟩
  | settling | returned | thrown | crashed => cases did

theorem partyStep_grew {party : Party} (accounted : Accounted payment refunds)
    (standing : party.standing payment refunds caller)
    (did : partyStep caller now payment refunds party = some (payment',refunds',party'))
    (grew : payment.refundedAmount < payment'.refundedAmount) :
    ∃ claim, party.claim = some (payment.refundedAmount,claim) ∧
      payment'.refundedAmount = payment.refundedAmount + claim.requested := by
  cases party with
  | refund provider input phase =>
      simp only [partyStep,Option.map_eq_some_iff] at did
      obtain ⟨⟨_,_,_⟩,step,same⟩ := did
      cases same
      exact refundStep_grew accounted standing step grew
  | record input phase =>
      simp only [partyStep,Option.map_eq_some_iff] at did
      obtain ⟨⟨_,_,_⟩,step,same⟩ := did
      cases same
      cases phase with
      | recording attempt =>
          simp only [recordStep] at step
          split at step <;> cases step <;> exact absurd grew (Int.lt_irrefl _)
      | claiming attempt fresh claim =>
          simp only [recordStep] at step
          split at step
          · rename_i swapped
            cases step
            obtain ⟨_,rfl⟩ := updateRefundedAmount_some standing.2 swapped
            exact ⟨claim,by rw [swapped_unchanged swapped]; rfl,rfl⟩
          · split at step <;> cases step <;> exact absurd grew (Int.lt_irrefl _)
      | returned | thrown | crashed => cases step
  | settle input phase =>
      simp only [partyStep,Option.map_eq_some_iff] at did
      obtain ⟨⟨_,_⟩,step,same⟩ := did
      cases same
      rcases settleStep_payment step with ⟨rfl,_⟩ | ⟨_,_,_,_,rfl,_⟩ <;> exact absurd grew (Int.lt_irrefl _)

-- The captured amount stays what a capture made it.
theorem write_within (accounted : Accounted payment refunds) (within : Within payment)
    (write : Write caller payment refunds payment' refunds')
    (room : payment.refundedAmount < payment'.refundedAmount → payment'.refundedAmount ≤ payment.capturedAmount)
    (captured : payment.status = .authorized → payment'.status = .succeeded → 0 ≤ payment'.capturedAmount) :
    Within payment' := by
  cases write with
  | none | mark => exact within
  | reserve new mine fresh live positive fits =>
      intro _
      dsimp only at room ⊢
      omega
  | release row member mine live =>
      have reserved := outstanding_reserved accounted member live
      have settled : Settled payment := by
        have agrees := accounted.status
        unfold StatusAgrees at agrees
        cases status : payment.status <;> simp only [status] at agrees <;> first
          | omega
          | exact .inr (.inl status)
          | exact .inr (.inr status)
      have before := within settled
      intro _
      show max 0 (payment.refundedAmount - row.amount) ≤ payment.capturedAmount
      omega
  | settle authorized status settled capturedAmount providerPaymentId =>
      intro collected
      have unrefunded : payment.refundedAmount = 0 := by
        have agrees := accounted.status
        unfold StatusAgrees at agrees
        rw [authorized] at agrees
        exact agrees
      have succeeded : status = .succeeded := by
        rcases settled with same | same | same
        · exact same
        · rcases collected with other | other | other <;> simp [same] at other
        · rcases collected with other | other | other <;> simp [same] at other
      have nonneg := captured authorized succeeded
      dsimp only at nonneg ⊢
      omega

theorem authorized_unreserved (accounted : Accounted payment refunds) (authorized : payment.status = .authorized)
    (backed : Backed refunds caller reservation) : False := by
  obtain ⟨_,row,member,_,pending,_⟩ := backed
  have reserved := outstanding_reserved accounted member (by simp [outstanding,pending])
  have agrees := accounted.status
  unfold StatusAgrees at agrees
  rw [authorized] at agrees
  dsimp only at agrees
  omega

theorem swapped_uncollected {payment updated : Payment} (fits : Claim.Fits claim fresh payment)
    (swapped : updateRefundedAmountIfUnchanged payment fresh.refundedAmount claim.refundedAmount claim.status = some updated) :
    updated.status ≠ .succeeded := by
  obtain ⟨_,rfl⟩ := updateRefundedAmount_some fits swapped
  dsimp only [reservedStatus]
  split <;> simp

-- Only a capture turns an authorized payment into a collected one.
theorem partyStep_captures {party : Party} (accounted : Accounted payment refunds)
    (standing : party.standing payment refunds caller) (bounded : party.captures)
    (did : partyStep caller now payment refunds party = some (payment',refunds',party')) :
    (payment.status = .authorized → payment'.status = .succeeded → 0 ≤ payment'.capturedAmount) ∧ party'.captures := by
  cases party with
  | refund provider input phase =>
      simp only [partyStep,Option.map_eq_some_iff] at did
      obtain ⟨⟨_,_,_⟩,step,same⟩ := did
      cases same
      refine ⟨?_,trivial⟩
      intro authorized collected
      have uncollected : payment.status ≠ .succeeded := by simp [authorized]
      cases phase with
      | claiming read attempt fresh claim =>
          simp only [refundStep] at step
          split at step
          · rename_i swapped
            cases step
            exact absurd collected (swapped_uncollected standing.2.2 swapped)
          · split at step <;> cases step <;> exact absurd collected uncollected
      | reverting reservation release attempt fresh =>
          exact (authorized_unreserved accounted authorized standing.1).elim
      | checking | listing | reserving | mismatched | releasing | unreleased | rereading | finalizing =>
          simp only [refundStep] at step
          repeat' split at step
          all_goals cases step; exact absurd collected uncollected
      | prepared | refunding | returned | thrown | crashed => cases step
  | record input phase =>
      simp only [partyStep,Option.map_eq_some_iff] at did
      obtain ⟨⟨_,_,_⟩,step,same⟩ := did
      cases same
      refine ⟨?_,trivial⟩
      intro authorized collected
      have uncollected : payment.status ≠ .succeeded := by simp [authorized]
      cases phase with
      | recording attempt =>
          simp only [recordStep] at step
          split at step <;> cases step <;> exact absurd collected uncollected
      | claiming attempt fresh claim =>
          simp only [recordStep] at step
          split at step
          · rename_i swapped
            cases step
            exact absurd collected (swapped_uncollected standing.2 swapped)
          · split at step <;> cases step <;> exact absurd collected uncollected
      | returned | thrown | crashed => cases step
  | settle input phase =>
      simp only [partyStep,Option.map_eq_some_iff] at did
      obtain ⟨⟨_,_⟩,step,same⟩ := did
      cases same
      rcases settleStep_payment step with ⟨rfl,after⟩ | ⟨_,status,capturedAmount,_,rfl,held,after⟩
      · refine ⟨?_,after⟩
        intro authorized collected
        simp [authorized] at collected
      · exact ⟨fun _ collected => held bounded collected,after⟩

structure Capturing (s : Ledger) : Prop where
  within : Within s.payment
  captures : ∀ caller party, s.parties caller = some party → party.captures

theorem capturing_put {s : Ledger} (capturing : Capturing s) (captures : party.captures) :
    Capturing (s.put caller party) := by
  refine ⟨capturing.within,?_⟩
  intro other its alive
  rcases Ledger.put_cases alive with ⟨_,before⟩ | ⟨_,same⟩
  · exact capturing.captures other its before
  · exact same ▸ captures

theorem capturing_moved {s : Ledger} (sound : Sound s) (capturing : Capturing s) (live : s.parties caller = some party)
    (fits : fitsCapture s party = true)
    (did : partyStep caller s.now s.payment s.refunds party = some (payment,refunds,party')) :
    Within payment ∧ party'.captures := by
  have standing := sound.standing caller party live
  have captures := partyStep_captures sound.accounted standing (capturing.captures caller party live) did
  refine ⟨?_,captures.2⟩
  apply write_within sound.accounted capturing.within (partyStep_write standing did).1 _ captures.1
  intro grew
  obtain ⟨claim,claimed,amount⟩ := partyStep_grew sound.accounted standing did grew
  rw [amount]
  simpa [fitsCapture,claimed] using fits

theorem settlementReplied_captures {s : Ledger} (within : WithinCapture s (.settled caller reply))
    (did : settlementReplied input reply phase = some after) : after.captures := by
  unfold settlementReplied at did
  split at did
  · repeat' split at did
    all_goals cases did
    · trivial
    · trivial
    · exact fun _ => of_decide_eq_true within
    · trivial
    · intro impossible; cases impossible
  · cases did

theorem capturing_preserved {s next : Ledger} (sound : Sound s) (capturing : Capturing s) (within : WithinCapture s action)
    (moved : advance s action = some next) : Capturing next := by
  cases advance_moved moved with
  | beginRefund | beginRecord | beginSettle | run => exact capturing_put capturing trivial
  | @store caller party _ _ _ live did =>
      have fits : fitsCapture s party = true := by simpa [WithinCapture,withinCapture,live] using within
      obtain ⟨after,captures⟩ := capturing_moved sound capturing live fits did
      exact ⟨after,(capturing_put capturing captures).captures⟩
  | @abort caller party _ _ _ committed live did =>
      have threw : Capturing (s.put caller party.storageThrew) := by
        apply capturing_put capturing
        cases party <;> trivial
      cases committed with
      | true =>
          have fits : fitsCapture s party = true := by simpa [WithinCapture,withinCapture,live] using within
          exact ⟨(capturing_moved sound capturing live fits did).1,threw.captures⟩
      | false => exact threw
  | refunded => exact capturing_put capturing trivial
  | settled _ did => exact capturing_put capturing (settlementReplied_captures within did)
  | @crash caller party =>
      apply capturing_put capturing
      cases party <;> trivial
  | tick => exact ⟨capturing.within,capturing.captures⟩

theorem reached_capturing (path : Reached (system Authorized) WithinCapture s) : Capturing s := by
  refine path.invariant Capturing ?_ ?_
  · intro u initial
    obtain ⟨payment,now,authorized,same⟩ := initial
    subst same
    refine ⟨?_,by simp [opened]⟩
    intro settled
    show payment.refundedAmount ≤ payment.capturedAmount
    rw [authorized.refundedAmount,authorized.capturedAmount]
  · intro u action next before capturing within moved
    exact capturing_preserved (reached_sound before fun _ => authorized_unrefunded) capturing within moved

-- Refunds are bounded by the payment amount, so by the captured amount when all of it was
-- captured; short of that, by the captured amount as long as each reservation fits it.
theorem refunds_within_payment :
    (∀ s, Reached (system Authorized) anyStep s → total counted s.refunds ≤ s.payment.amount ∧
      (s.payment.amount ≤ s.payment.capturedAmount → total counted s.refunds ≤ s.payment.capturedAmount)) ∧
    ∀ s, Reached (system Authorized) WithinCapture s → Settled s.payment →
      total counted s.refunds ≤ s.payment.capturedAmount := by
  refine ⟨?_,?_⟩
  · intro s path
    have accounted := (reached_sound path fun _ => authorized_unrefunded).accounted
    have bounded := accounted.bounded
    rw [accounted.balance] at bounded
    exact ⟨bounded,Int.le_trans bounded⟩
  · intro s path settled
    have accounted := (reached_sound path fun _ => authorized_unrefunded).accounted
    rw [← accounted.balance]
    exact (reached_capturing path).within settled

section Runs

def authorization : Payment := ⟨some "trust-my-travel",some "auth_1",.authorized,"EUR",100,0,0,none⟩

def capturePart : List Action :=
  [.beginSettle 0 ⟨.capture (some ⟨40,"EUR"⟩) none,"ship-1"⟩,.store 0,.store 0,
    .settled 0 (.answered ⟨"auth_1","succeeded",40⟩),.store 0]

-- Captured 40 of 100, then a provider refund of 60 and a local one of 40.
def refundAll : List Action :=
  [.beginRefund 1 "trust-my-travel" ⟨some ⟨60,"EUR"⟩,none⟩,.store 1,.store 1,.run 1,.store 1,.store 1,
    .refunded 1 (.answered ⟨"re_1","succeeded",⟨60,"EUR"⟩⟩),.store 1,
    .beginRecord 2 ⟨some ⟨40,"EUR"⟩,true,some "receipt"⟩,.store 2,.store 2]

theorem refunds_exceed_captured :
    ∃ s : Ledger, Reached (system Authorized) anyStep s ∧ Settled s.payment ∧
      ¬ total counted s.refunds ≤ s.payment.capturedAmount := by
  have passed : (run (system Authorized) anyStep (opened authorization 0) (capturePart ++ refundAll)).any (fun s =>
      s.payment.status == .refunded && decide (¬ total counted s.refunds ≤ s.payment.capturedAmount)) = true := by decide
  obtain ⟨s,path,found⟩ := run_reaches (opened_initial ⟨rfl,rfl,rfl,by decide⟩ 0) passed
  simp only [Bool.and_eq_true,beq_iff_eq,decide_eq_true_eq] at found
  exact ⟨s,path,.inr (.inr found.1),found.2⟩

-- Captured 60 of 100: a refund of 30 wins over a local one of 40, which is then rolled back, and a local one of 20 fits.
def refundFitting : List Action :=
  [.beginSettle 0 ⟨.capture (some ⟨60,"EUR"⟩) none,"ship-1"⟩,.store 0,.store 0,
    .settled 0 (.answered ⟨"auth_1","succeeded",60⟩),.store 0,
    .beginRefund 1 "trust-my-travel" ⟨some ⟨30,"EUR"⟩,none⟩,.store 1,.store 1,.run 1,.store 1,
    .beginRecord 2 ⟨some ⟨40,"EUR"⟩,true,some "receipt"⟩,.store 2,.store 1,.store 2,.store 2,.abort 2 false,
    .refunded 1 (.answered ⟨"re_1","succeeded",⟨30,"EUR"⟩⟩),.store 1,
    .beginRecord 3 ⟨some ⟨20,"EUR"⟩,true,some "receipt"⟩,.store 3,.store 3]

theorem refunds_within_payment_exceeding :
    (∃ s : Ledger, Settled s.payment ∧ s.payment.capturedAmount = 40 ∧ total counted s.refunds ≤ s.payment.amount) ∧
      ∃ s : Ledger, s.refunds.length = 2 ∧ s.payment.capturedAmount = 60 ∧
        total counted s.refunds ≤ s.payment.capturedAmount := by
  refine ⟨?_,?_⟩
  · have passed : (run (system Authorized) anyStep (opened authorization 0) (capturePart ++ refundAll)).any (fun s =>
        s.payment.status == .refunded && s.payment.capturedAmount == 40) = true := by decide
    obtain ⟨s,path,found⟩ := run_reaches (opened_initial ⟨rfl,rfl,rfl,by decide⟩ 0) passed
    simp only [Bool.and_eq_true,beq_iff_eq] at found
    exact ⟨s,.inr (.inr found.1),found.2,(refunds_within_payment.1 s path).1⟩
  · have passed : (run (system Authorized) WithinCapture (opened authorization 0) refundFitting).any (fun s =>
        s.payment.status == .partiallyRefunded && (s.refunds.length == 2 && s.payment.capturedAmount == 60)) = true := by
      decide
    obtain ⟨s,path,found⟩ := run_reaches (opened_initial ⟨rfl,rfl,rfl,by decide⟩ 0) passed
    simp only [Bool.and_eq_true,beq_iff_eq] at found
    exact ⟨s,found.2.1,found.2.2,refunds_within_payment.2 s path (.inr (.inl found.1))⟩

end Runs

end Payable.Refunds
