import Payable.Refunds.Balance

namespace Payable.Refunds
open Domain Tables Runs

def system (initial : Payment → Prop) : System Ledger Action :=
  ⟨fun s => ∃ payment now, initial payment ∧ s = opened payment now,advance⟩

theorem opened_initial {initial : Payment → Prop} (begins : initial payment) (now : Int) :
    (system initial).initial (opened payment now) := ⟨payment,now,begins,rfl⟩

def Unused (refunds : List Refund) (caller : Nat) : Prop := ∀ row ∈ refunds, row.id ≠ caller

-- The reservation is in the ledger, pending, and no one else's.
def Backed (refunds : List Refund) (caller : Nat) (reservation : RefundReservation) : Prop :=
  reservation.refundId = caller ∧
    ∃ row ∈ refunds, row.id = caller ∧ row.status = .pending ∧ row.amount = reservation.requested

structure Claim.Fits (claim : Claim) (fresh payment : Payment) : Prop where
  amount : fresh.amount = payment.amount
  positive : 0 < claim.requested
  refunded : claim.refundedAmount = fresh.refundedAmount + claim.requested
  bounded : claim.refundedAmount ≤ fresh.amount
  status : claim.status = reservedStatus fresh claim.refundedAmount

def Release.closed (release : Release) : Prop := release.status = .failed ∨ release.status = .canceled

-- What the ledger holds of a provider refund in each phase.
def RefundPhase.standing (input : RefundPaymentActionInput) (payment : Payment) (refunds : List Refund) (caller : Nat) :
    RefundPhase → Prop
  | .checking | .listing _ | .prepared _ _ | .reserving _ _ =>
    Unused refunds caller ∧ ∀ money ∈ input.amount, 0 < money.amount
  | .claiming _ _ fresh claim =>
    Unused refunds caller ∧ (∀ money ∈ input.amount, 0 < money.amount) ∧ claim.Fits fresh payment
  | .refunding _ reservation | .mismatched reservation _ => Backed refunds caller reservation
  | .releasing reservation release _ | .reverting reservation release _ _ | .unreleased reservation release =>
    Backed refunds caller reservation ∧ release.closed
  | .finalizing reservation _ status =>
    Backed refunds caller reservation ∧ (status = .pending ∨ status = .succeeded)
  | .rereading _ | .returned _ | .thrown _ | .crashed => True

def RecordPhase.standing (payment : Payment) (refunds : List Refund) (caller : Nat) : RecordPhase → Prop
  | .recording _ => Unused refunds caller
  | .claiming _ fresh claim => Unused refunds caller ∧ claim.Fits fresh payment
  | .returned | .thrown _ | .crashed => True

def SettlePhase.standing : SettlePhase → Prop
  | .committing status _ _ => status = .succeeded ∨ status = .canceled
  | _ => True

def Party.standing (payment : Payment) (refunds : List Refund) (caller : Nat) : Party → Prop
  | .refund _ input phase => phase.standing input payment refunds caller
  | .record _ phase => phase.standing payment refunds caller
  | .settle _ phase => phase.standing

theorem on_refund {full : Prop} [Decidable full] {status next : PaymentStatus}
    (moved : status.on (if full then .refund else .partiallyRefund) = some next) :
    next = if full then .refunded else .partiallyRefunded := by
  by_cases whole : full
  · rw [if_pos whole] at moved ⊢
    cases status <;> simp [PaymentStatus.on] at moved <;> exact moved.symm
  · rw [if_neg whole] at moved ⊢
    cases status <;> simp [PaymentStatus.on] at moved <;> exact moved.symm

theorem claimRefund_fits (positive : ∀ money ∈ input.amount, 0 < money.amount)
    (claimed : claimRefund fresh input = .ok claim) : claim.Fits fresh fresh := by
  unfold claimRefund at claimed
  dsimp only at claimed
  split at claimed
  · cases claimed
  · rename_i room
    have requested : 0 < (input.amount.map Money.amount).getD (remaining fresh) := by
      cases given : input.amount with
      | none => simp only [given,Option.map_none,Option.getD_none] at room ⊢; omega
      | some money => exact positive money (by simp [given])
    split at claimed
    · rename_i status moved
      cases claimed
      unfold remaining at room requested moved ⊢
      refine ⟨rfl,requested,rfl,by dsimp only; omega,?_⟩
      rw [on_refund moved]
      dsimp only [reservedStatus]
      congr 1
      simp only [eq_iff_iff]
      omega
    · cases claimed

theorem claimLocalRefund_fits (claimed : claimLocalRefund fresh input = .ok claim) : claim.Fits fresh fresh := by
  unfold claimLocalRefund at claimed
  dsimp only at claimed
  repeat' split at claimed
  all_goals cases claimed
  rename_i room _ status moved
  unfold remaining at room moved ⊢
  refine ⟨rfl,?_,rfl,?_,on_refund moved⟩
  · dsimp only; omega
  · dsimp only; omega

theorem updateRefundedAmount_some {payment updated : Payment} (fits : Claim.Fits claim fresh payment)
    (swapped : updateRefundedAmountIfUnchanged payment fresh.refundedAmount claim.refundedAmount claim.status = some updated) :
    payment.refundedAmount + claim.requested ≤ payment.amount ∧
      updated = {payment with
        refundedAmount := payment.refundedAmount + claim.requested
        status := reservedStatus payment (payment.refundedAmount + claim.requested)} := by
  unfold updateRefundedAmountIfUnchanged at swapped
  split at swapped
  · rename_i unchanged
    cases swapped
    have bounded := fits.bounded
    have refunded : claim.refundedAmount = payment.refundedAmount + claim.requested := by
      rw [fits.refunded,unchanged]
    rw [fits.amount,refunded] at bounded
    refine ⟨bounded,?_⟩
    rw [fits.status,refunded]
    simp only [reservedStatus,fits.amount]
  · cases swapped

theorem reserve_write {payment updated : Payment} (unused : Unused refunds caller) (fits : Claim.Fits claim fresh payment)
    (swapped : updateRefundedAmountIfUnchanged payment fresh.refundedAmount claim.refundedAmount claim.status = some updated)
    (new : Refund) (mine : new.id = caller) (live : outstanding new = true) (amount : new.amount = claim.requested) :
    Write caller payment refunds updated (refunds ++ [new]) := by
  obtain ⟨room,rfl⟩ := updateRefundedAmount_some fits swapped
  rw [← amount] at room ⊢
  exact .reserve new mine unused live (amount ▸ fits.positive) room

theorem backed_write (backed : Backed refunds caller reservation) (open_ : status = .pending ∨ status = .succeeded) :
    Write caller payment refunds payment (updateRefund refunds reservation.refundId status providerRefundId) := by
  obtain ⟨mine,row,member,here,pending,_⟩ := backed
  rw [mine]
  exact .mark row member here (by simp [outstanding,pending]) status open_ providerRefundId

theorem release_write {payment updated : Payment} (backed : Backed refunds caller reservation)
    (closed : status = .failed ∨ status = .canceled)
    (swapped : updateRefundedAmountIfUnchanged payment fresh.refundedAmount (releasedAmount fresh reservation)
      (releasedStatus (releasedAmount fresh reservation)) = some updated) :
    Write caller payment refunds updated (updateRefund refunds reservation.refundId status providerRefundId) := by
  obtain ⟨mine,row,member,here,pending,amount⟩ := backed
  unfold updateRefundedAmountIfUnchanged at swapped
  split at swapped
  · rename_i unchanged
    cases swapped
    have released : releasedAmount fresh reservation = releasedAmount payment ⟨caller,row.amount⟩ := by
      simp only [releasedAmount,unchanged,amount]
    rw [released,mine]
    exact .release row member here (by simp [outstanding,pending]) status closed providerRefundId
  · cases swapped

theorem refundStep_write (standing : phase.standing input payment refunds caller)
    (did : refundStep caller now provider input payment refunds phase = some (payment',refunds',phase')) :
    Write caller payment refunds payment' refunds' ∧ phase'.standing input payment' refunds' caller := by
  cases phase with
  | checking =>
      simp only [refundStep] at did
      split at did
      · cases did; exact ⟨.none,trivial⟩
      · split at did <;> cases did
        · exact ⟨.none,trivial⟩
        · exact ⟨.none,standing⟩
  | listing read =>
      simp only [refundStep] at did
      split at did <;> cases did
      · exact ⟨.none,trivial⟩
      · exact ⟨.none,standing⟩
  | reserving read attempt =>
      simp only [refundStep] at did
      split at did
      · cases did; exact ⟨.none,trivial⟩
      · rename_i claimed
        cases did
        exact ⟨.none,standing.1,standing.2,claimRefund_fits standing.2 claimed⟩
  | claiming read attempt fresh claim =>
      obtain ⟨unused,positive,fits⟩ := standing
      simp only [refundStep] at did
      split at did
      · rename_i swapped
        cases did
        refine ⟨reserve_write unused fits swapped _ rfl rfl rfl,rfl,_,List.mem_append_right _ (List.mem_singleton_self _),?_⟩
        exact ⟨rfl,rfl,rfl⟩
      · split at did <;> cases did
        · exact ⟨.none,unused,positive⟩
        · exact ⟨.none,trivial⟩
  | mismatched reservation response =>
      cases did
      exact ⟨backed_write standing (.inl rfl),trivial⟩
  | releasing reservation release attempt => cases did; exact ⟨.none,standing⟩
  | reverting reservation release attempt fresh =>
      obtain ⟨backed,closed⟩ := standing
      simp only [refundStep] at did
      split at did
      · rename_i swapped
        cases did
        refine ⟨release_write backed closed swapped,?_⟩
        cases release <;> trivial
      · split at did <;> cases did
        · exact ⟨.none,backed,closed⟩
        · exact ⟨.none,backed,closed⟩
  | unreleased reservation release =>
      cases did
      exact ⟨backed_write standing.1 (.inl rfl),trivial⟩
  | rereading reservation =>
      simp only [refundStep] at did
      split at did <;> cases did <;> exact ⟨.none,trivial⟩
  | finalizing reservation response status =>
      simp only [refundStep] at did
      split at did <;> cases did
      · exact ⟨backed_write standing.1 standing.2,trivial⟩
      · exact ⟨.none,trivial⟩
  | prepared | refunding | returned | thrown | crashed => cases did

theorem refundReplied_standing {phase : RefundPhase} (standing : phase.standing input payment refunds caller)
    (did : refundReplied reply phase = some phase') : phase'.standing input payment refunds caller := by
  cases phase with
  | refunding read reservation =>
      cases reply with
      | threw => cases did; exact ⟨standing,.inl rfl⟩
      | answered response =>
          simp only [refundReplied] at did
          split at did
          · cases did; exact standing
          · cases named : resolveInitialRefundStatus response.status with
            | none => simp only [named] at did; cases did; trivial
            | some status =>
                cases status <;> simp only [named] at did <;> cases did
                · exact ⟨standing,.inl rfl⟩
                · exact ⟨standing,.inr rfl⟩
                · exact ⟨standing,.inl rfl⟩
                · exact ⟨standing,.inr rfl⟩
  | checking | listing | prepared | reserving | claiming | mismatched | releasing | reverting | unreleased | rereading
  | finalizing | returned | thrown | crashed => cases did

theorem recordStep_write {phase : RecordPhase} (standing : phase.standing payment refunds caller)
    (did : recordStep caller now input payment refunds phase = some (payment',refunds',phase')) :
    Write caller payment refunds payment' refunds' ∧ phase'.standing payment' refunds' caller := by
  cases phase with
  | recording attempt =>
      simp only [recordStep] at did
      split at did
      · cases did; exact ⟨.none,trivial⟩
      · rename_i claimed
        cases did
        exact ⟨.none,standing,claimLocalRefund_fits claimed⟩
  | claiming attempt fresh claim =>
      obtain ⟨unused,fits⟩ := standing
      simp only [recordStep] at did
      split at did
      · rename_i swapped
        cases did
        exact ⟨reserve_write unused fits swapped _ rfl rfl rfl,trivial⟩
      · split at did <;> cases did
        · exact ⟨.none,unused⟩
        · exact ⟨.none,trivial⟩
  | returned | thrown | crashed => cases did

theorem settleStep_write {phase : SettlePhase} (standing : phase.standing)
    (did : settleStep input now payment phase = some (payment',phase')) :
    Write caller payment refunds payment' refunds ∧ phase'.standing := by
  cases phase with
  | loading =>
      simp only [settleStep] at did
      repeat' split at did
      all_goals cases did; exact ⟨.none,trivial⟩
  | mutating =>
      simp only [settleStep] at did
      repeat' split at did
      all_goals cases did; exact ⟨.none,trivial⟩
  | expiring =>
      simp only [settleStep,updateStatusIfAuthorized] at did
      split at did <;> cases did
      · rename_i authorized
        exact ⟨.settle authorized .failed (.inr (.inr rfl)) _ _,trivial⟩
      · exact ⟨.none,trivial⟩
  | committing status capturedAmount providerPaymentId =>
      simp only [settleStep,updateStatusIfAuthorized] at did
      by_cases authorized : payment.status = .authorized
      · rw [if_pos authorized] at did
        cases did
        refine ⟨.settle authorized status ?_ _ _,trivial⟩
        rcases standing with succeeded | canceled
        · exact .inl succeeded
        · exact .inr (.inl canceled)
      · rw [if_neg authorized] at did
        cases did
        exact ⟨.none,trivial⟩
  | settling | returned | thrown | crashed => cases did

theorem settlementReplied_standing {phase : SettlePhase} (did : settlementReplied input reply phase = some phase') :
    phase'.standing := by
  unfold settlementReplied at did
  split at did
  · repeat' split at did
    all_goals cases did
    all_goals first | trivial | exact .inl rfl | exact .inr rfl
  · cases did

theorem partyStep_write {party : Party} (standing : party.standing payment refunds caller)
    (did : partyStep caller now payment refunds party = some (payment',refunds',party')) :
    Write caller payment refunds payment' refunds' ∧ party'.standing payment' refunds' caller := by
  cases party with
  | refund provider input phase =>
      simp only [partyStep,Option.map_eq_some_iff] at did
      obtain ⟨⟨_,_,_⟩,step,same⟩ := did
      cases same
      exact refundStep_write standing step
  | record input phase =>
      simp only [partyStep,Option.map_eq_some_iff] at did
      obtain ⟨⟨_,_,_⟩,step,same⟩ := did
      cases same
      exact recordStep_write standing step
  | settle input phase =>
      simp only [partyStep,Option.map_eq_some_iff] at did
      obtain ⟨⟨_,_⟩,step,same⟩ := did
      cases same
      exact settleStep_write standing step

-- The standing of a party outlives what the others write.
theorem standing_framed {party : Party} (standing : party.standing payment refunds other) (apart : other ≠ caller)
    (framed : Framed caller payment refunds payment' refunds') : party.standing payment' refunds' other := by
  have unused : Unused refunds other → Unused refunds' other := by
    intro before row member same
    exact before row ((framed.others row (same ▸ apart)).mp member) same
  have backed : ∀ reservation, Backed refunds other reservation → Backed refunds' other reservation := by
    rintro reservation ⟨mine,row,member,here,pending⟩
    exact ⟨mine,row,(framed.others row (here ▸ apart)).mpr member,here,pending⟩
  have fits : ∀ claim fresh, Claim.Fits claim fresh payment → claim.Fits fresh payment' := by
    intro claim fresh before
    exact ⟨before.amount.trans framed.amount.symm,before.positive,before.refunded,before.bounded,before.status⟩
  cases party with
  | refund provider input phase =>
      cases phase with
      | checking | listing | prepared | reserving => exact ⟨unused standing.1,standing.2⟩
      | claiming => exact ⟨unused standing.1,standing.2.1,fits _ _ standing.2.2⟩
      | refunding | mismatched => exact backed _ standing
      | releasing | reverting | unreleased | finalizing => exact ⟨backed _ standing.1,standing.2⟩
      | rereading | returned | thrown | crashed => trivial
  | record input phase =>
      cases phase with
      | recording => exact unused standing
      | claiming => exact ⟨unused standing.1,fits _ _ standing.2⟩
      | returned | thrown | crashed => trivial
  | settle => exact standing

@[simp] theorem Ledger.put_self (s : Ledger) : (s.put caller party).parties caller = some party := by
  simp [Ledger.put]

@[simp] theorem Ledger.put_other (s : Ledger) (other : i ≠ caller) : (s.put caller party).parties i = s.parties i := by
  simp [Ledger.put,other]

-- Whoever is in the ledger after a party was put there is that party, or was there before.
theorem Ledger.put_cases {s : Ledger} (live : (s.put caller party).parties other = some its) :
    other ≠ caller ∧ s.parties other = some its ∨ other = caller ∧ its = party := by
  by_cases mine : other = caller
  · subst mine
    rw [Ledger.put_self,Option.some.injEq] at live
    exact .inr ⟨rfl,live.symm⟩
  · exact .inl ⟨mine,(Ledger.put_other s mine).symm.trans live⟩

structure Sound (s : Ledger) : Prop where
  accounted : Accounted s.payment s.refunds
  begun : ∀ row ∈ s.refunds, s.parties row.id ≠ none
  standing : ∀ caller party, s.parties caller = some party → party.standing s.payment s.refunds caller

theorem write_begun {parties : Nat → Option Party} (begun : ∀ row ∈ refunds, parties row.id ≠ none) (live : parties caller = some party)
    (write : Write caller payment refunds payment' refunds') : ∀ row ∈ refunds', parties row.id ≠ none := by
  intro row member
  by_cases mine : row.id = caller
  · rw [mine,live]
    exact Option.some_ne_none party
  · exact begun row (((write_framed write).others row mine).mp member)

-- A party moves, the ledger with it.
theorem sound_moved {s : Ledger} (sound : Sound s) (live : s.parties caller = some party)
    (write : Write caller s.payment s.refunds payment refunds) (standing : party'.standing payment refunds caller) :
    Sound ((s.put caller party').write payment refunds) := by
  refine ⟨accounted_write sound.accounted write,?_,?_⟩
  · intro row member
    by_cases mine : row.id = caller
    · simp [Ledger.write,Ledger.put,mine]
    · have before := write_begun sound.begun live write row member
      simpa [Ledger.write,Ledger.put,mine] using before
  · intro other its alive
    rcases @Ledger.put_cases caller party' other its s alive with ⟨apart,before⟩ | ⟨mine,same⟩
    · exact standing_framed (sound.standing other its before) apart (write_framed write)
    · rw [mine,same]
      exact standing

theorem sound_put {s : Ledger} (sound : Sound s) (standing : party.standing s.payment s.refunds caller) :
    Sound (s.put caller party) := by
  refine ⟨sound.accounted,?_,?_⟩
  · intro row member
    have before := sound.begun row member
    by_cases mine : row.id = caller
    · simp [Ledger.put,mine]
    · simpa [Ledger.put,mine] using before
  · intro other its alive
    rcases Ledger.put_cases alive with ⟨_,before⟩ | ⟨mine,same⟩
    · exact sound.standing other its before
    · rw [mine,same]
      exact standing

theorem sound_unused {s : Ledger} (sound : Sound s) (fresh : s.parties caller = none) : Unused s.refunds caller := by
  intro row member mine
  exact sound.begun row member (mine ▸ fresh)

theorem beginRefund_standing {s : Ledger} (sound : Sound s) (fresh : s.parties caller = none)
    (input : RefundPaymentActionInput) : (beginRefund input).standing input s.payment s.refunds caller := by
  unfold beginRefund
  split
  · trivial
  · rename_i positive
    refine ⟨sound_unused sound fresh,?_⟩
    intro money given
    simp only [Option.mem_def] at given
    simpa [given] using positive

-- Every step, read back: what it found, and the ledger it leaves.
inductive Moved (s : Ledger) : Action → Ledger → Prop where
  | beginRefund (absent : s.parties caller = none) :
      Moved s (.beginRefund caller provider input) (s.put caller (.refund provider input (beginRefund input)))
  | beginRecord (absent : s.parties caller = none) :
      Moved s (.beginRecord caller input) (s.put caller (.record input (.recording 0)))
  | beginSettle (absent : s.parties caller = none) :
      Moved s (.beginSettle caller input) (s.put caller (.settle input .loading))
  | run (live : s.parties caller = some (.refund provider input (.prepared payment requested))) :
      Moved s (.run caller) (s.put caller (.refund provider input (.reserving payment 0)))
  | store (live : s.parties caller = some party)
      (did : partyStep caller s.now s.payment s.refunds party = some (payment,refunds,after)) :
      Moved s (.store caller) ((s.put caller after).write payment refunds)
  | abort (live : s.parties caller = some party)
      (did : partyStep caller s.now s.payment s.refunds party = some (payment,refunds,after)) :
      Moved s (.abort caller committed)
        (if committed then (s.put caller party.storageThrew).write payment refunds else s.put caller party.storageThrew)
  | refunded (live : s.parties caller = some (.refund provider input phase)) (did : refundReplied reply phase = some after) :
      Moved s (.refunded caller reply) (s.put caller (.refund provider input after))
  | settled (live : s.parties caller = some (.settle input phase)) (did : settlementReplied input reply phase = some after) :
      Moved s (.settled caller reply) (s.put caller (.settle input after))
  | crash (live : s.parties caller = some party) : Moved s (.crash caller) (s.put caller party.crash)
  | tick : Moved s (.tick elapsed) {s with now := s.now + elapsed}

theorem advance_moved {s next : Ledger} (moved : advance s action = some next) : Moved s action next := by
  cases action with
  | beginRefund caller provider input =>
      simp only [advance] at moved
      split at moved <;> cases moved
      rename_i absent
      exact .beginRefund absent
  | beginRecord caller input =>
      simp only [advance] at moved
      split at moved <;> cases moved
      rename_i absent
      exact .beginRecord absent
  | beginSettle caller input =>
      simp only [advance] at moved
      split at moved <;> cases moved
      rename_i absent
      exact .beginSettle absent
  | run caller =>
      simp only [advance] at moved
      split at moved <;> cases moved
      rename_i live
      exact .run live
  | store caller =>
      simp only [advance,Option.bind_eq_bind,Option.bind_eq_some_iff] at moved
      obtain ⟨party,live,⟨payment,refunds,after⟩,did,same⟩ := moved
      cases same
      exact .store live did
  | abort caller committed =>
      simp only [advance,Option.bind_eq_bind,Option.bind_eq_some_iff] at moved
      obtain ⟨party,live,⟨payment,refunds,after⟩,did,same⟩ := moved
      cases same
      exact .abort live did
  | refunded caller reply =>
      simp only [advance] at moved
      split at moved
      · rename_i live
        obtain ⟨after,did,same⟩ := Option.map_eq_some_iff.mp moved
        cases same
        exact .refunded live did
      · cases moved
  | settled caller reply =>
      simp only [advance] at moved
      split at moved
      · rename_i live
        obtain ⟨after,did,same⟩ := Option.map_eq_some_iff.mp moved
        cases same
        exact .settled live did
      · cases moved
  | crash caller =>
      obtain ⟨party,live,same⟩ := Option.map_eq_some_iff.mp moved
      cases same
      exact .crash live
  | tick elapsed =>
      cases moved
      exact .tick

theorem storageThrew_standing (party : Party) : party.storageThrew.standing payment refunds caller := by
  cases party <;> trivial

-- Whatever happens, the books stay sound and are written as one caller may write them.
theorem advance_write {s next : Ledger} (sound : Sound s) (moved : advance s action = some next) :
    Sound next ∧ ∃ caller, Write caller s.payment s.refunds next.payment next.refunds := by
  cases advance_moved moved with
  | @beginRefund caller _ input absent => exact ⟨sound_put sound (beginRefund_standing sound absent input),caller,.none⟩
  | @beginRecord caller _ absent => exact ⟨sound_put sound (sound_unused sound absent),caller,.none⟩
  | @beginSettle caller _ absent => exact ⟨sound_put sound trivial,caller,.none⟩
  | @run caller _ _ _ _ live =>
      have standing := sound.standing caller _ live
      exact ⟨sound_put sound standing,caller,.none⟩
  | @store caller party _ _ _ live did =>
      obtain ⟨write,standing⟩ := partyStep_write (sound.standing caller party live) did
      exact ⟨sound_moved sound live write standing,caller,write⟩
  | @abort caller party _ _ _ committed live did =>
      obtain ⟨write,_⟩ := partyStep_write (sound.standing caller party live) did
      cases committed with
      | true => exact ⟨sound_moved sound live write (storageThrew_standing party),caller,write⟩
      | false => exact ⟨sound_put sound (storageThrew_standing party),caller,.none⟩
  | @refunded caller _ _ _ _ _ live did =>
      have standing := sound.standing caller _ live
      exact ⟨sound_put sound (refundReplied_standing standing did),caller,.none⟩
  | @settled caller _ _ _ _ _ did => exact ⟨sound_put sound (settlementReplied_standing did),caller,.none⟩
  | @crash caller party =>
      refine ⟨sound_put sound ?_,caller,.none⟩
      cases party <;> trivial
  | tick => exact ⟨⟨sound.accounted,sound.begun,sound.standing⟩,0,.none⟩

-- A payment as its create actions leave it: nothing refunded, no refunded status.
structure Unrefunded (payment : Payment) : Prop where
  refundedAmount : payment.refundedAmount = 0
  amount : 0 ≤ payment.amount
  status : payment.status ≠ .refunded ∧ payment.status ≠ .partiallyRefunded

theorem sound_opened (unrefunded : Unrefunded payment) : Sound (opened payment now) := by
  refine ⟨⟨List.nodup_nil,by simp [opened],unrefunded.refundedAmount,?_,?_⟩,by simp [opened],by simp [opened]⟩
  · rw [show (opened payment now).payment = payment from rfl,unrefunded.refundedAmount]
    exact unrefunded.amount
  · obtain ⟨notRefunded,notPartially⟩ := unrefunded.status
    show StatusAgrees payment
    unfold StatusAgrees
    split
    · rename_i partially; exact absurd partially notPartially
    · rename_i whole; exact absurd whole notRefunded
    · exact unrefunded.refundedAmount

theorem reached_sound (path : Reached (system initial) allowed s) (starts : ∀ payment, initial payment → Unrefunded payment) :
    Sound s := by
  refine path.invariant Sound ?_ ?_
  · intro u initial
    obtain ⟨payment,now,begins,same⟩ := initial
    subst same
    exact sound_opened (starts payment begins)
  · intro u action next _ sound _ moved
    exact (advance_write sound moved).1

-- A payment taken at once, as charge and record create it.
structure Collected (payment : Payment) : Prop where
  status : payment.status = .succeeded
  refundedAmount : payment.refundedAmount = 0
  amount : 0 ≤ payment.amount

theorem collected_unrefunded (collected : Collected payment) : Unrefunded payment :=
  ⟨collected.refundedAmount,collected.amount,by simp [collected.status]⟩

-- From then on the status is one of the three a collected payment can have.
def Settled (payment : Payment) : Prop :=
  payment.status = .succeeded ∨ payment.status = .partiallyRefunded ∨ payment.status = .refunded

theorem write_settled (settled : Settled payment) (write : Write caller payment refunds payment' refunds') :
    Settled payment' := by
  cases write with
  | none | mark => exact settled
  | reserve new =>
      unfold Settled reservedStatus
      dsimp only
      split <;> simp
  | release row =>
      unfold Settled releasedStatus
      dsimp only
      split <;> simp
  | settle authorized =>
      unfold Settled at settled
      simp [authorized] at settled

theorem reached_settled (path : Reached (system Collected) allowed s) : Settled s.payment := by
  refine path.invariant (fun u => Settled u.payment) ?_ ?_
  · intro u initial
    obtain ⟨payment,now,collected,same⟩ := initial
    subst same
    exact .inl collected.status
  · intro u action next before settled _ moved
    have sound := reached_sound before (fun _ => collected_unrefunded)
    obtain ⟨_,caller,write⟩ := advance_write sound moved
    exact write_settled settled write

-- The refund ledger: the sum, the bound and the status stay in step in every reachable state.
theorem refund_ledger_balanced (path : Reached (system Collected) anyStep s) :
    s.payment.refundedAmount = total counted s.refunds ∧
    (0 ≤ s.payment.refundedAmount ∧ s.payment.refundedAmount ≤ s.payment.amount) ∧
    (s.payment.status = .succeeded ↔ s.payment.refundedAmount = 0) ∧
    (s.payment.status = .partiallyRefunded ↔
      0 < s.payment.refundedAmount ∧ s.payment.refundedAmount < s.payment.amount) ∧
    (0 < s.payment.amount → (s.payment.status = .refunded ↔ s.payment.refundedAmount = s.payment.amount)) := by
  have sound := reached_sound path (fun _ => collected_unrefunded)
  have accounted := sound.accounted
  have nonneg := accounted_nonneg accounted
  refine ⟨accounted.balance,⟨nonneg,accounted.bounded⟩,?_⟩
  have agrees := accounted.status
  unfold StatusAgrees at agrees
  rcases reached_settled path with status | status | status <;> rw [status] at agrees ⊢ <;> dsimp only at agrees
  · simp only [true_iff,reduceCtorEq,false_iff]
    omega
  · simp only [true_iff,reduceCtorEq,false_iff]
    omega
  · simp only [true_iff,reduceCtorEq,false_iff]
    omega

section Runs

def cardPayment : Payment := ⟨some "trust-my-travel",some "pay_1",.succeeded,"EUR",100,0,0,none⟩

-- A provider refund of 40 and a local one of the rest.
def refundTwice : List Action :=
  [.beginRefund 0 "trust-my-travel" ⟨some ⟨40,"EUR"⟩,none⟩,.store 0,.store 0,.run 0,.store 0,.store 0,
    .refunded 0 (.answered ⟨"re_1","succeeded",⟨40,"EUR"⟩⟩),.store 0,
    .beginRecord 1 ⟨none,true,some "receipt"⟩,.store 1,.store 1]

theorem refund_ledger_balanced_twice :
    ∃ s, Reached (system Collected) anyStep s ∧ s.payment.status = .refunded ∧ total counted s.refunds = 100 := by
  have passed : (run (system Collected) anyStep (opened cardPayment 0) refundTwice).any (fun s =>
      s.payment.status == .refunded && s.payment.refundedAmount == 100) = true := by decide
  obtain ⟨s,path,found⟩ := run_reaches (opened_initial ⟨rfl,rfl,by decide⟩ 0) passed
  simp only [Bool.and_eq_true,beq_iff_eq] at found
  exact ⟨s,path,found.1,(refund_ledger_balanced path).1 ▸ found.2⟩

end Runs

end Payable.Refunds
