import Payable.Payments.Transitions

namespace Payable.Payments
open Domain Refunds Runs

-- One capture, and any number of payment webhooks beside it.
def oneCapture (capturer : Nat) : Action → Bool
  | .beginSettle caller ⟨.capture _ _,_⟩ => caller == capturer
  | .beginWebhook caller _ _ _ => caller != capturer
  | .store _ | .abort _ _ | .crash _ | .settled _ _ | .tick _ => true
  | _ => false

def OneCapture (capturer : Nat) (_ : Shared) (action : Action) : Prop := oneCapture capturer action = true

instance (capturer : Nat) (s : Shared) (action : Action) : Decidable (OneCapture capturer s action) :=
  inferInstanceAs (Decidable (_ = _))

def Writer.isWebhook : Writer → Bool
  | .webhook _ _ _ _ => true
  | _ => false

def Writer.over_ : Writer → Bool
  | .books (.settle _ .returned) | .books (.settle _ (.thrown _)) | .books (.settle _ .crashed) => true
  | .webhook _ _ _ .returned | .webhook _ _ _ .thrown | .webhook _ _ _ .crashed => true
  | _ => false

def capturedAudits (s : Shared) : Nat := (s.audits.filter (·.action == .captured)).length

-- A confirmed capture is over and is not on record.
def lapsed (s : Shared) : Bool :=
  s.captures.any (fun captured => (s.writers captured.caller).all Writer.over_) && capturedAudits s == 0

-- The settling transaction of a confirmed capture meets a payment that nobody has marked succeeded.
def endsOpen (s : Shared) : Writer → Bool
  | .books (.settle _ (.committing _ _ _)) => s.row.payment.status != .succeeded
  | _ => true

-- No webhook marks a payment succeeded whose confirmed capture has lapsed.
def marksKept (s : Shared) : Writer → Bool
  | .webhook _ _ _ (.writing _ .succeeded) => !lapsed s
  | _ => true

def recordable (s : Shared) : Action → Bool
  | .store caller | .abort caller true => (s.writers caller).all fun writer => endsOpen s writer && marksKept s writer
  | .abort caller false | .crash caller => (s.writers caller).all (endsOpen s)
  | _ => true

def Recordable (s : Shared) (action : Action) : Prop := recordable s action = true

instance (s : Shared) (action : Action) : Decidable (Recordable s action) := inferInstanceAs (Decidable (_ = _))

-- Before the provider has answered the capture, or once it has failed.
def Untold (s : Shared) : Prop := s.captures = [] ∧ capturedAudits s = 0

-- A capture that is over: never confirmed, recorded, or lapsed with the payment short of succeeded.
inductive Ended (capturer : Nat) (s : Shared) : Prop where
  | untold (untold : Untold s)
  | recorded (told : s.captures = [⟨capturer,amount⟩]) (stored : s.row.payment.capturedAmount = amount)
      (once : capturedAudits s = 1)
  | lapsed (told : s.captures = [⟨capturer,amount⟩]) (unaudited : capturedAudits s = 0)
      (open_ : s.row.payment.status ≠ .succeeded)

-- What is on record in each phase of the capture.
def told (capturer : Nat) (s : Shared) : SettlePhase → Prop
  | .loading | .mutating | .expiring | .settling _ => Untold s
  | .committing status amount _ => status = .succeeded ∧ s.captures = [⟨capturer,amount⟩] ∧ capturedAudits s = 0
  | .returned | .thrown _ | .crashed => Ended capturer s

structure Capturing (capturer : Nat) (s : Shared) : Prop where
  others : ∀ caller writer, s.writers caller = some writer → caller ≠ capturer → writer.isWebhook = true
  absent : s.writers capturer = none → Untold s
  capture : ∀ writer, s.writers capturer = some writer → ∃ amount allocations reference phase,
    writer = .books (.settle ⟨.capture amount allocations,reference⟩ phase) ∧ told capturer s phase

def isCommitting : SettlePhase → Bool
  | .committing _ _ _ => true
  | _ => false

def isOver : SettlePhase → Bool
  | .returned | .thrown _ | .crashed => true
  | _ => false

theorem webhookStep_captured (did : webhookStep providerName dto occurredAt row phase = some (row',phase')) :
    row'.payment.capturedAmount = row.payment.capturedAmount := by
  unfold webhookStep at did
  repeat' split at did
  all_goals cases did
  all_goals rfl

-- A webhook's write is the only one that marks the payment succeeded.
theorem webhookStep_marks (did : webhookStep providerName dto occurredAt row phase = some (row',phase'))
    (open_ : row.payment.status ≠ .succeeded) (unmarked : ∀ found, phase ≠ .writing found .succeeded) :
    row'.payment.status ≠ .succeeded := by
  cases phase with
  | reading =>
      simp only [webhookStep] at did
      repeat' split at did
      all_goals cases did; exact open_
  | writing found status =>
      cases did
      intro succeeded
      exact unmarked found (congrArg (WebhookPhase.writing found) succeeded)
  | returned | thrown | crashed => cases did

theorem told_kept {s next : Shared} (before : told capturer s phase) (captures : next.captures = s.captures)
    (audits : next.audits = s.audits) (captured : next.row.payment.capturedAmount = s.row.payment.capturedAmount)
    (stays : isOver phase = true → ∀ amount, s.captures = [⟨capturer,amount⟩] → capturedAudits s = 0 →
      s.row.payment.status ≠ .succeeded → next.row.payment.status ≠ .succeeded) :
    told capturer next phase := by
  have counted : capturedAudits next = capturedAudits s := by rw [capturedAudits,audits]; rfl
  have ended : isOver phase = true → Ended capturer s → Ended capturer next := by
    intro over_ before
    cases before with
    | untold untold => exact .untold ⟨captures.trans untold.1,counted.trans untold.2⟩
    | recorded told stored once => exact .recorded (captures.trans told) (captured.trans stored) (counted.trans once)
    | lapsed told unaudited open_ =>
        exact .lapsed (captures.trans told) (counted.trans unaudited) (stays over_ _ told unaudited open_)
  cases phase with
  | loading | mutating | expiring | settling => exact ⟨captures.trans before.1,counted.trans before.2⟩
  | committing status amount providerPaymentId =>
      obtain ⟨succeeded,told_,none_⟩ := before
      exact ⟨succeeded,captures.trans told_,counted.trans none_⟩
  | returned | thrown | crashed => exact ended rfl before

-- The capture stops where it stands.
theorem told_stopped {s : Shared} (before : told capturer s phase)
    (open_ : isCommitting phase = true → s.row.payment.status ≠ .succeeded) : Ended capturer s := by
  cases phase with
  | loading | mutating | expiring | settling => exact .untold before
  | committing status amount providerPaymentId => exact .lapsed before.2.1 before.2.2 (open_ rfl)
  | returned | thrown | crashed => exact before

-- A webhook comes, goes on, or stops; the capture's records stay.
theorem capturing_webhook {s next : Shared} (capturing : Capturing capturer s) (apart : caller ≠ capturer)
    (webhook : writer.isWebhook = true) (writers : next.writers = Function.update s.writers caller (some writer))
    (captures : next.captures = s.captures) (audits : next.audits = s.audits)
    (captured : next.row.payment.capturedAmount = s.row.payment.capturedAmount)
    (stays : lapsed s = true → s.row.payment.status ≠ .succeeded → next.row.payment.status ≠ .succeeded) :
    Capturing capturer next := by
  have mine : next.writers capturer = s.writers capturer := by
    rw [writers,Function.update_of_ne (Ne.symm apart)]
  refine ⟨?_,?_,?_⟩
  · intro other its live elsewhere
    rw [writers] at live
    by_cases same : other = caller
    · subst same
      rw [Function.update_self,Option.some.injEq] at live
      exact live ▸ webhook
    · rw [Function.update_of_ne same] at live
      exact capturing.others other its live elsewhere
  · intro absent
    obtain ⟨none_,unaudited⟩ := capturing.absent (mine.symm.trans absent)
    refine ⟨captures.trans none_,?_⟩
    rw [capturedAudits,audits]
    exact unaudited
  · intro its live
    obtain ⟨amount,allocations,reference,phase,is,before⟩ := capturing.capture its (mine.symm.trans live)
    refine ⟨amount,allocations,reference,phase,is,told_kept before captures audits captured ?_⟩
    intro over_ amount told unaudited
    apply stays
    have ends : its.over_ = true := by
      rw [is]
      cases phase <;> first | rfl | cases over_
    simp [lapsed,told,mine ▸ live,ends,unaudited]

-- The capture itself moves on.
theorem capturing_moved {s next : Shared} (capturing : Capturing capturer s)
    (writers : next.writers = Function.update s.writers capturer
      (some (.books (.settle ⟨.capture amount allocations,reference⟩ phase)))) (now : told capturer next phase) :
    Capturing capturer next := by
  refine ⟨?_,?_,?_⟩
  · intro other its live elsewhere
    rw [writers,Function.update_of_ne elsewhere] at live
    exact capturing.others other its live elsewhere
  · intro absent
    rw [writers,Function.update_self] at absent
    cases absent
  · intro its live
    rw [writers,Function.update_self,Option.some.injEq] at live
    exact ⟨amount,allocations,reference,phase,live.symm,now⟩

-- The capture's own store calls.
theorem settleStep_told {s next : Shared} (before : told capturer s phase)
    (open_ : isCommitting phase = true → s.row.payment.status ≠ .succeeded)
    (did : settleStep ⟨.capture amount allocations,reference⟩ s.now s.row.payment phase = some (payment,phase'))
    (captures : next.captures = s.captures) (row : next.row.payment = payment)
    (audits : next.audits = s.audits ++ settlementAudit (.settle ⟨.capture amount allocations,reference⟩ phase)
      (.settle ⟨.capture amount allocations,reference⟩ phase') payment) : told capturer next phase' := by
  have untold : settlementAudit (.settle ⟨.capture amount allocations,reference⟩ phase)
      (.settle ⟨.capture amount allocations,reference⟩ phase') payment = [] → Untold s → Untold next := by
    intro silent told_
    refine ⟨captures.trans told_.1,?_⟩
    rw [capturedAudits,audits,silent,List.append_nil]
    exact told_.2
  cases phase with
  | loading | mutating =>
      simp only [settleStep] at did
      repeat' split at did
      all_goals cases did
      all_goals first
        | exact Ended.untold (untold rfl before)
        | exact untold rfl before
  | expiring =>
      cases did
      exact Ended.untold (untold rfl before)
  | committing status captured providerPaymentId =>
      obtain ⟨rfl,told_,none_⟩ := before
      simp only [settleStep,updateStatusIfAuthorized] at did
      by_cases authorized : s.row.payment.status = .authorized
      · rw [if_pos authorized] at did
        cases did
        refine Ended.recorded (captures.trans told_) (by rw [row]) ?_
        rw [capturedAudits,audits,List.filter_append,List.length_append]
        change capturedAudits s + 1 = 1
        omega
      · rw [if_neg authorized] at did
        cases did
        refine Ended.lapsed (captures.trans told_) ?_ (row ▸ open_ rfl)
        have silent : s.audits ++ [] = s.audits := List.append_nil _
        rw [capturedAudits,audits]
        exact silent.symm ▸ none_
  | settling | returned | thrown | crashed => cases did

theorem settleStep_uncommitting (did : settleStep input now payment phase = some (payment',phase')) :
    isCommitting phase' = false := by
  cases phase with
  | loading | mutating | committing =>
      simp only [settleStep] at did
      repeat' split at did
      all_goals cases did; rfl
  | expiring =>
      cases did
      rfl
  | settling | returned | thrown | crashed => cases did

theorem settlementReplied_told {s next : Shared} (before : told capturer s phase)
    (did : settlementReplied ⟨.capture amount allocations,reference⟩ reply phase = some phase')
    (captures : next.captures = s.captures ++ captured capturer phase') (audits : next.audits = s.audits) :
    told capturer next phase' := by
  have counted : capturedAudits next = capturedAudits s := by rw [capturedAudits,audits]; rfl
  cases phase with
  | settling payment =>
      obtain ⟨untold,unaudited⟩ := before
      cases reply with
      | threw =>
          cases did
          exact Ended.untold ⟨by rw [captures,untold]; rfl,counted.trans unaudited⟩
      | answered result =>
          simp only [settlementReplied] at did
          split at did <;> cases did
          · exact Ended.untold ⟨by rw [captures,untold]; rfl,counted.trans unaudited⟩
          · exact ⟨rfl,by rw [captures,untold]; rfl,counted.trans unaudited⟩
  | loading | mutating | expiring | committing | returned | thrown | crashed => cases did

theorem writerStep_webhook {writer : Writer} (webhook : writer.isWebhook = true)
    (did : writerStep caller now row refunds writer = some written) :
    written.writer.isWebhook = true ∧ written.audits = [] ∧
      written.row.payment.capturedAmount = row.payment.capturedAmount ∧
      (∀ s, marksKept s writer = true → lapsed s = true → row.payment.status ≠ .succeeded →
        written.row.payment.status ≠ .succeeded) := by
  cases writer with
  | webhook providerName dto occurredAt phase =>
      simp only [writerStep,Option.map_eq_some_iff] at did
      obtain ⟨⟨_,_⟩,step,rfl⟩ := did
      refine ⟨rfl,rfl,webhookStep_captured step,?_⟩
      intro s kept gone open_
      refine webhookStep_marks step open_ ?_
      rintro found rfl
      simp [marksKept,gone] at kept
  | books | redirect | unsettled => cases webhook

theorem storageThrew_webhook {writer : Writer} (webhook : writer.isWebhook = true) : writer.storageThrew.isWebhook = true := by
  cases writer with
  | webhook => rfl
  | books | redirect | unsettled => cases webhook

theorem endsOpen_settle {s : Shared} (open_ : endsOpen s (.books (.settle input phase)) = true) :
    isCommitting phase = true → s.row.payment.status ≠ .succeeded := by
  cases phase with
  | committing => exact fun _ => by simpa [endsOpen] using open_
  | loading | mutating | expiring | settling | returned | thrown | crashed => exact nofun

-- A store call of the capture or of a webhook, which takes effect whether or not it then throws.
theorem capturing_wrote {s : Shared} (capturing : Capturing capturer s) (did : attempt s caller = some (writer,written))
    (open_ : endsOpen s writer = true) (kept : marksKept s writer = true) :
    Capturing capturer ((s.put caller written.writer).write writer.releases written) ∧
      Capturing capturer ((s.put caller writer.storageThrew).write writer.releases written) := by
  obtain ⟨live,_,step⟩ := attempt_did did
  by_cases mine : caller = capturer
  · subst mine
    obtain ⟨amount,allocations,reference,phase,is,before⟩ := capturing.capture writer live
    subst is
    simp only [writerStep,Option.map_eq_some_iff,partyStep] at step
    obtain ⟨⟨payment,refunds,after⟩,⟨⟨payment',phase'⟩,settled,same⟩,written_⟩ := step
    cases same
    cases written_
    refine ⟨capturing_moved capturing rfl (settleStep_told before (endsOpen_settle open_) settled rfl rfl rfl),
      capturing_moved capturing rfl ?_⟩
    show Ended caller _
    exact told_stopped (settleStep_told before (endsOpen_settle open_) settled rfl rfl rfl)
      (by simp [settleStep_uncommitting settled])
  · have webhook := capturing.others caller writer live mine
    obtain ⟨webhook',silent,captured,stays⟩ := writerStep_webhook webhook step
    have audits : s.audits ++ written.audits = s.audits := by rw [silent,List.append_nil]
    exact ⟨capturing_webhook capturing mine webhook' rfl rfl audits captured (stays s kept),
      capturing_webhook capturing mine (storageThrew_webhook webhook) rfl rfl audits captured (stays s kept)⟩

-- A store call that is rolled back, or a crash.
theorem capturing_stopped {s next : Shared} {writer : Writer} (capturing : Capturing capturer s)
    (live : s.writers caller = some writer) (open_ : endsOpen s writer = true)
    (stopped : writer.isWebhook = true → writer'.isWebhook = true)
    (settled : ∀ input phase, writer = .books (.settle input phase) → ∃ phase', writer' = .books (.settle input phase') ∧
      isOver phase' = true)
    (same : next = s.put caller writer') : Capturing capturer next := by
  subst same
  by_cases mine : caller = capturer
  · subst mine
    obtain ⟨amount,allocations,reference,phase,is,before⟩ := capturing.capture writer live
    obtain ⟨phase',is',over_⟩ := settled _ _ is
    subst is is'
    refine capturing_moved capturing rfl ?_
    have ended : Ended caller (s.put caller (.books (.settle ⟨.capture amount allocations,reference⟩ phase'))) := by
      cases told_stopped before (endsOpen_settle open_) with
      | untold untold => exact .untold untold
      | recorded told stored once => exact .recorded told stored once
      | lapsed told unaudited short => exact .lapsed told unaudited short
    cases phase' <;> first | exact ended | cases over_
  · exact capturing_webhook capturing mine (stopped (capturing.others caller writer live mine)) rfl rfl rfl rfl fun _ open_ => open_

theorem capturing_preserved {s next : Shared} (capturing : Capturing capturer s)
    (one : OneCapture capturer s action) (recordable : Recordable s action)
    (moved : advance s action = some next) : Capturing capturer next := by
  cases action with
  | beginSettle caller input =>
      obtain ⟨operation,reference⟩ := input
      cases operation with
      | void => cases one
      | capture amount allocations =>
          have mine : caller = capturer := beq_iff_eq.mp one
          subst mine
          simp only [advance,begin] at moved
          split at moved <;> cases moved
          rename_i absent
          exact capturing_moved capturing rfl (capturing.absent absent)
  | beginWebhook caller providerName dto occurredAt =>
      have apart : caller ≠ capturer := bne_iff_ne.mp one
      simp only [advance,begin] at moved
      split at moved <;> cases moved
      exact capturing_webhook capturing apart rfl rfl rfl rfl rfl fun _ open_ => open_
  | store caller =>
      obtain ⟨⟨writer,written⟩,did,same⟩ := Option.map_eq_some_iff.mp moved
      obtain ⟨live,_,_⟩ := attempt_did did
      obtain ⟨open_,kept⟩ : endsOpen s writer = true ∧ marksKept s writer = true := by
        simpa [Recordable,Payments.recordable,live] using recordable
      exact same ▸ (capturing_wrote capturing did open_ kept).1
  | abort caller committed =>
      obtain ⟨⟨writer,written⟩,did,same⟩ := Option.map_eq_some_iff.mp moved
      obtain ⟨live,_,_⟩ := attempt_did did
      cases committed with
      | true =>
          obtain ⟨open_,kept⟩ : endsOpen s writer = true ∧ marksKept s writer = true := by
            simpa [Recordable,Payments.recordable,live] using recordable
          exact same ▸ (capturing_wrote capturing did open_ kept).2
      | false =>
          have open_ : endsOpen s writer = true := by simpa [Recordable,Payments.recordable,live] using recordable
          refine capturing_stopped capturing live open_ storageThrew_webhook ?_ same.symm
          rintro input phase rfl
          exact ⟨_,rfl,rfl⟩
  | settled caller reply =>
      simp only [advance] at moved
      split at moved
      · rename_i input phase live
        obtain ⟨after,replied,same⟩ := Option.map_eq_some_iff.mp moved
        cases same
        by_cases mine : caller = capturer
        · subst mine
          obtain ⟨amount,allocations,reference,phase,is,before⟩ := capturing.capture _ live
          cases is
          exact capturing_moved capturing rfl (settlementReplied_told before replied rfl rfl)
        · cases capturing.others caller _ live mine
      · cases moved
  | crash caller =>
      obtain ⟨writer,live,same⟩ := Option.map_eq_some_iff.mp moved
      have open_ : endsOpen s writer = true := by simpa [Recordable,Payments.recordable,live] using recordable
      refine capturing_stopped capturing live open_ ?_ ?_ same.symm
      · intro webhook
        cases writer with
        | webhook => rfl
        | books | redirect | unsettled => cases webhook
      · rintro input phase rfl
        exact ⟨_,rfl,rfl⟩
  | tick elapsed =>
      cases moved
      refine ⟨capturing.others,capturing.absent,?_⟩
      intro writer live
      obtain ⟨amount,allocations,reference,phase,is,before⟩ := capturing.capture writer live
      exact ⟨amount,allocations,reference,phase,is,told_kept before rfl rfl rfl fun _ _ _ _ open_ => open_⟩
  | beginRefund | beginRecord | beginRedirect | beginUnsettled | run | refunded | checked => cases one

theorem reached_capturing (path : Reached payments (both (OneCapture capturer) Recordable) s) :
    Capturing capturer s := by
  refine path.invariant (Capturing capturer) ?_ ?_
  · intro u initial
    obtain ⟨row,now,_,same⟩ := initial
    cases same
    refine ⟨?_,fun _ => ⟨rfl,rfl⟩,?_⟩
    · intro caller writer live
      cases live
    · intro writer live
      cases live
  · intro u action next _ capturing allowed moved
    exact capturing_preserved capturing allowed.1 allowed.2 moved

-- A capture the provider has confirmed is stored with its amount and audited once where the payment succeeded.
theorem captured_amount_kept {captured : Captured} (path : Reached payments (both (OneCapture capturer) Recordable) s)
    (confirmed : captured ∈ s.captures) (ended : (s.writers capturer).all Writer.over_ = true)
    (succeeded : s.row.payment.status = .succeeded) :
    s.row.payment.capturedAmount = captured.amount ∧ capturedAudits s = 1 := by
  have capturing := reached_capturing path
  have over_ : Ended capturer s := by
    cases live : s.writers capturer with
    | none => exact .untold (capturing.absent live)
    | some writer =>
        obtain ⟨amount,allocations,reference,phase,is,now⟩ := capturing.capture writer live
        subst is
        rw [live] at ended
        cases phase with
        | returned | thrown | crashed => exact now
        | loading | mutating | expiring | settling | committing => cases ended
  cases over_ with
  | untold untold =>
      rw [untold.1] at confirmed
      cases confirmed
  | recorded told stored once =>
      rw [told] at confirmed
      cases List.mem_singleton.mp confirmed
      exact ⟨stored,once⟩
  | lapsed _ _ open_ => exact absurd succeeded open_

section Schedules

-- The webhook of the captured payment is reconciled before the capture begins its transaction.
def webhookFirst : List Action :=
  [capturing 0,[.beginWebhook 1 "stripe" ⟨"pi_1",.succeeded⟩ 0,.store 1,.store 1,.store 0]].flatten

theorem captured_amount_kept_webhook :
    ∃ s, s.captures = [⟨0,100⟩] ∧ s.row.payment.status = .succeeded ∧ s.row.payment.capturedAmount = 100 ∧
      capturedAudits s = 1 := by
  have passed : (run payments (both (OneCapture 0) Recordable) (opened authorizedCard 0)
      (capturing 0 ++ [.beginWebhook 1 "stripe" ⟨"pi_1",.succeeded⟩ 0,.store 1,.store 0,.store 1])).any (fun s =>
        s.captures == [⟨0,100⟩] && s.row.payment.status == .succeeded && (s.writers 0).all Writer.over_) = true := by decide
  obtain ⟨s,path,found⟩ := run_reaches (opened_initial authorizedCard_unrefunded 0) passed
  simp only [Bool.and_eq_true,beq_iff_eq] at found
  obtain ⟨⟨confirmed,succeeded⟩,ended⟩ := found
  obtain ⟨amount,once⟩ := captured_amount_kept path (by rw [confirmed]; exact List.mem_singleton_self _) ended succeeded
  exact ⟨s,confirmed,succeeded,amount,once⟩

theorem captured_amount_lost :
    ∃ s, Reached payments (OneCapture 0) s ∧ s.captures = [⟨0,100⟩] ∧ (s.writers 0).all Writer.over_ = true ∧
      (s.writers 1).all Writer.over_ = true ∧ s.row.payment.status = .succeeded ∧ s.row.payment.capturedAmount = 0 ∧
      capturedAudits s = 0 := by
  have passed : (run payments (OneCapture 0) (opened authorizedCard 0) webhookFirst).any (fun s =>
      s.captures == [⟨0,100⟩] && (s.writers 0).all Writer.over_ && (s.writers 1).all Writer.over_ &&
        s.row.payment.status == .succeeded && s.row.payment.capturedAmount == 0 && capturedAudits s == 0) = true := by decide
  obtain ⟨s,path,found⟩ := run_reaches (opened_initial authorizedCard_unrefunded 0) passed
  simp only [Bool.and_eq_true,beq_iff_eq] at found
  obtain ⟨⟨⟨⟨⟨confirmed,ended⟩,webhook⟩,succeeded⟩,amount⟩,unaudited⟩ := found
  exact ⟨s,path,confirmed,ended,webhook,succeeded,amount,unaudited⟩

end Schedules

end Payable.Payments
