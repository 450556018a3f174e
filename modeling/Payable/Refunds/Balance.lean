import Payable.Refunds.Ledger

namespace Payable.Refunds
open Domain Tables

def outstanding (refund : Refund) : Bool := refund.status == .pending || refund.status == .succeeded

-- A refund counts against its payment while it is pending or succeeded.
def counted (refund : Refund) : Int := if outstanding refund then refund.amount else 0

-- What the status of a payment says about its refunded amount.
def StatusAgrees (payment : Payment) : Prop :=
  match payment.status with
  | .partiallyRefunded => 0 < payment.refundedAmount ∧ payment.refundedAmount < payment.amount
  | .refunded => 0 < payment.refundedAmount ∧ payment.refundedAmount = payment.amount
  | _ => payment.refundedAmount = 0

structure Accounted (payment : Payment) (refunds : List Refund) : Prop where
  keyed : Keyed Refund.id refunds
  positive : ∀ refund ∈ refunds, 0 < refund.amount
  balance : payment.refundedAmount = total counted refunds
  bounded : payment.refundedAmount ≤ payment.amount
  status : StatusAgrees payment

def reservedStatus (payment : Payment) (refundedAmount : Int) : PaymentStatus :=
  if refundedAmount = payment.amount then .refunded else .partiallyRefunded

-- Everything a store call can do to the payment and its refunds.
inductive Write (caller : Nat) (payment : Payment) (refunds : List Refund) : Payment → List Refund → Prop where
  | none : Write caller payment refunds payment refunds
  | reserve (new : Refund) (mine : new.id = caller) (fresh : ∀ row ∈ refunds, row.id ≠ caller) (live : outstanding new = true)
      (positive : 0 < new.amount) (fits : payment.refundedAmount + new.amount ≤ payment.amount) :
      Write caller payment refunds
        {payment with
          refundedAmount := payment.refundedAmount + new.amount
          status := reservedStatus payment (payment.refundedAmount + new.amount)}
        (refunds ++ [new])
  | release (row : Refund) (member : row ∈ refunds) (mine : row.id = caller) (live : outstanding row = true)
      (status : RefundStatus) (closed : status = .failed ∨ status = .canceled) (providerRefundId : Option String) :
      Write caller payment refunds
        {payment with
          refundedAmount := releasedAmount payment ⟨caller,row.amount⟩
          status := releasedStatus (releasedAmount payment ⟨caller,row.amount⟩)}
        (updateRefund refunds caller status providerRefundId)
  | mark (row : Refund) (member : row ∈ refunds) (mine : row.id = caller) (live : outstanding row = true)
      (status : RefundStatus) (open_ : status = .pending ∨ status = .succeeded) (providerRefundId : Option String) :
      Write caller payment refunds payment (updateRefund refunds caller status providerRefundId)
  | settle (authorized : payment.status = .authorized) (status : PaymentStatus)
      (settled : status = .succeeded ∨ status = .canceled ∨ status = .failed) (capturedAmount : Int)
      (providerPaymentId : Option String) :
      Write caller payment refunds
        {payment with status := status,capturedAmount := capturedAmount,providerPaymentId := providerPaymentId} refunds

theorem counted_nonneg (accounted : Accounted payment refunds) : ∀ refund ∈ refunds, 0 ≤ counted refund := by
  intro refund member
  have positive := accounted.positive refund member
  unfold counted
  split <;> omega

theorem accounted_nonneg (accounted : Accounted payment refunds) : 0 ≤ payment.refundedAmount := by
  rw [accounted.balance]
  exact total_nonneg (counted_nonneg accounted)

-- A live refund is part of the refunded amount.
theorem outstanding_reserved (accounted : Accounted payment refunds) (member : row ∈ refunds)
    (live : outstanding row = true) : 0 < row.amount ∧ row.amount ≤ payment.refundedAmount := by
  refine ⟨accounted.positive row member,?_⟩
  have single : total counted [row] ≤ total counted refunds := by
    apply total_covered Refund.id Refund.id [row] refunds (List.nodup_singleton _)
    · intro entry same
      cases List.mem_singleton.mp same
      exact ⟨row,member,rfl,Int.le_refl _⟩
    · exact counted_nonneg accounted
  have weight : total counted [row] = row.amount := by simp [total,counted,live]
  rw [accounted.balance,← weight]
  exact single

theorem updateRefund_keyed (keyed : Keyed Refund.id refunds) :
    Keyed Refund.id (updateRefund refunds refundId status providerRefundId) :=
  keyed_patch keyed (fun _ => rfl)

theorem updateRefund_amounts (positive : ∀ refund ∈ refunds, 0 < refund.amount) :
    ∀ refund ∈ updateRefund refunds refundId status providerRefundId, 0 < refund.amount := by
  intro refund member
  obtain ⟨old,inside,rfl⟩ := mem_patchKey.mp member
  have before := positive old inside
  split <;> exact before

theorem updateRefund_total (keyed : Keyed Refund.id refunds) (member : row ∈ refunds) (live : outstanding row = true)
    (status : RefundStatus) (providerRefundId : Option String) :
    total counted (updateRefund refunds row.id status providerRefundId) =
      total counted refunds - (if status = .pending ∨ status = .succeeded then 0 else row.amount) := by
  unfold updateRefund
  rw [total_patch counted keyed member]
  have before : counted row = row.amount := by simp [counted,live]
  rw [before]
  cases status <;> simp [counted,outstanding]
  all_goals omega

theorem accounted_reserve (accounted : Accounted payment refunds) (fresh : ∀ row ∈ refunds, row.id ≠ new.id)
    (live : outstanding new = true) (positive : 0 < new.amount)
    (fits : payment.refundedAmount + new.amount ≤ payment.amount) :
    Accounted
      {payment with
        refundedAmount := payment.refundedAmount + new.amount
        status := reservedStatus payment (payment.refundedAmount + new.amount)}
      (refunds ++ [new]) := by
  have before := accounted_nonneg accounted
  refine ⟨keyed_append accounted.keyed fresh,?_,?_,fits,?_⟩
  · intro refund member
    rcases List.mem_append.mp member with old | last
    · exact accounted.positive refund old
    · rw [List.mem_singleton.mp last]; exact positive
  · rw [total_append,← accounted.balance]
    simp [counted,live]
  · unfold StatusAgrees reservedStatus
    by_cases full : payment.refundedAmount + new.amount = payment.amount
    · simp only [full,if_true,and_true]
      omega
    · simp only [full,if_false]
      omega

theorem accounted_release (accounted : Accounted payment refunds) (member : row ∈ refunds)
    (live : outstanding row = true) (closed : status = .failed ∨ status = .canceled) :
    Accounted
      {payment with
        refundedAmount := releasedAmount payment ⟨row.id,row.amount⟩
        status := releasedStatus (releasedAmount payment ⟨row.id,row.amount⟩)}
      (updateRefund refunds row.id status providerRefundId) := by
  obtain ⟨positive,reserved⟩ := outstanding_reserved accounted member live
  have bounded := accounted.bounded
  have after : releasedAmount payment ⟨row.id,row.amount⟩ = payment.refundedAmount - row.amount := by
    show max 0 (payment.refundedAmount - row.amount) = payment.refundedAmount - row.amount
    omega
  refine ⟨updateRefund_keyed accounted.keyed,updateRefund_amounts accounted.positive,?_,?_,?_⟩
  · rw [updateRefund_total accounted.keyed member live,← accounted.balance,after]
    rcases closed with rfl | rfl <;> simp
  · rw [after]
    dsimp only
    omega
  · unfold StatusAgrees releasedStatus
    rw [after]
    by_cases none_ : payment.refundedAmount - row.amount ≤ 0
    · simp only [none_,if_true]
      omega
    · simp only [none_,if_false]
      omega

theorem accounted_mark (accounted : Accounted payment refunds) (member : row ∈ refunds)
    (live : outstanding row = true) (open_ : status = .pending ∨ status = .succeeded) :
    Accounted payment (updateRefund refunds row.id status providerRefundId) := by
  refine ⟨updateRefund_keyed accounted.keyed,updateRefund_amounts accounted.positive,?_,accounted.bounded,accounted.status⟩
  rw [updateRefund_total accounted.keyed member live,if_pos open_,accounted.balance]
  omega

theorem accounted_settle (accounted : Accounted payment refunds) (authorized : payment.status = .authorized)
    (settled : status = .succeeded ∨ status = .canceled ∨ status = .failed) :
    Accounted {payment with status := status,capturedAmount := captured,providerPaymentId := id_} refunds := by
  have unrefunded : payment.refundedAmount = 0 := by
    have agrees := accounted.status
    unfold StatusAgrees at agrees
    rw [authorized] at agrees
    exact agrees
  refine ⟨accounted.keyed,accounted.positive,accounted.balance,accounted.bounded,?_⟩
  rcases settled with rfl | rfl | rfl <;> exact unrefunded

-- The books stay balanced whatever a store call does.
theorem accounted_write (accounted : Accounted payment refunds) (write : Write caller payment refunds payment' refunds') :
    Accounted payment' refunds' := by
  cases write with
  | none => exact accounted
  | reserve row mine fresh live positive fits =>
      subst mine
      exact accounted_reserve accounted fresh live positive fits
  | release row member mine live status closed providerRefundId =>
      subst mine
      exact accounted_release accounted member live closed
  | mark row member mine live status open_ providerRefundId =>
      subst mine
      exact accounted_mark accounted member live open_
  | settle authorized status settled capturedAmount providerPaymentId =>
      exact accounted_settle accounted authorized settled

-- What a write of one caller leaves to the others.
structure Framed (caller : Nat) (payment : Payment) (refunds : List Refund) (payment' : Payment)
    (refunds' : List Refund) : Prop where
  amount : payment'.amount = payment.amount
  others : ∀ row : Refund, row.id ≠ caller → (row ∈ refunds' ↔ row ∈ refunds)

theorem updateRefund_others (other : row.id ≠ refundId) :
    row ∈ updateRefund refunds refundId status providerRefundId ↔ row ∈ refunds := by
  refine ⟨?_,fun member => mem_patchKey_other member other⟩
  intro member
  obtain ⟨old,inside,same⟩ := mem_patchKey.mp member
  by_cases here : old.id = refundId
  · rw [if_pos here] at same
    exact absurd (same ▸ here) other
  · rw [if_neg here] at same
    exact same ▸ inside

theorem write_framed (write : Write caller payment refunds payment' refunds') :
    Framed caller payment refunds payment' refunds' := by
  cases write with
  | none => exact ⟨rfl,fun _ _ => Iff.rfl⟩
  | reserve new mine =>
      refine ⟨rfl,?_⟩
      intro row other
      have elsewhere : row ≠ new := by
        intro same
        subst same
        exact other mine
      simp [elsewhere]
  | release => exact ⟨rfl,fun _ other => updateRefund_others other⟩
  | mark => exact ⟨rfl,fun _ other => updateRefund_others other⟩
  | settle => exact ⟨rfl,fun _ _ => Iff.rfl⟩

end Payable.Refunds
