import Payable.Domain.KeyCollisions
import Payable.Idempotency.Results
import Payable.Refunds.NamedAmount

namespace Payable.Refunds
open Domain Tables Runs

-- Payments that agree in what no party writes.
structure Alike (first payment : Payment) : Prop where
  amount : first.amount = payment.amount
  currency : first.currency = payment.currency
  providerPaymentId : first.providerPaymentId = payment.providerPaymentId

def Mine (caller : Nat) (refund : Refund) : Prop := refund.id = caller

-- What the last steps of a refund know of its row.
def RefundPhase.ends (refunds : List Refund) (caller : Nat) : RefundPhase → Prop
  | .rereading reservation => reservation.refundId = caller
  | .returned refund => Mine caller refund ∧ findRefund refunds caller = some refund
  | _ => True

def InCurrency (input : RefundPaymentActionInput) (payment : Payment) : Prop :=
  ∀ money ∈ input.amount, money.currency = payment.currency

def RefundPhase.accepts (input : RefundPaymentActionInput) : RefundPhase → Prop
  | .listing first => first.providerPaymentId ≠ none
  | .prepared first _ => first.providerPaymentId ≠ none ∧ InCurrency input first
  | _ => True

-- A party goes by a payment like the stored one.
structure Reading (payment : Payment) (refunds : List Refund) (caller : Nat) (party : Party) : Prop where
  reads : ∀ provider input phase first, party = .refund provider input phase → phase.read = some first → Alike first payment
  ends : ∀ provider input phase, party = .refund provider input phase → phase.ends refunds caller
  accepts : ∀ provider input phase, party = .refund provider input phase → phase.accepts input

-- What execute was given for a call, whatever has become of it since.
def Filed (deps : Deps) (s : Retried) (caller : Nat) (call : Idempotency.Call Refund Refund LedgerError) : Prop :=
  ∃ provider input phase first key, s.ledger.parties caller = some (.refund provider input phase) ∧
    Alike first s.ledger.payment ∧ (∀ money ∈ input.amount, 0 < money.amount) ∧
    (first.providerPaymentId ≠ none ∧ InCurrency input first) ∧
    call.execution = refundExecution deps key first (named input first) ∧
    refundKey deps first (named input first) input = some key ∧ s.keys caller = some key

structure Books (deps : Deps) (s : Retried) : Prop where
  named : Named deps s
  settled : Settled s.ledger.payment
  readings : ∀ caller party, s.ledger.parties caller = some party → Reading s.ledger.payment s.ledger.refunds caller party
  filed : ∀ caller call, s.idempotency.calls caller = some call → Filed deps s caller call
  results : Idempotency.Results some Mine s.idempotency

theorem Alike.trans (one : Alike first payment) (two : Alike payment next) : Alike first next :=
  ⟨one.amount.trans two.amount,one.currency.trans two.currency,one.providerPaymentId.trans two.providerPaymentId⟩

theorem write_alike (settled : Settled payment) (write : Write caller payment refunds payment' refunds') : Alike payment payment' := by
  cases write with
  | none | reserve | release | mark => exact ⟨rfl,rfl,rfl⟩
  | settle authorized =>
      unfold Settled at settled
      simp [authorized] at settled

theorem findRefund_others (framed : Framed writer payment refunds payment' refunds') (keyed : Keyed Refund.id refunds)
    (keyed' : Keyed Refund.id refunds') (apart : caller ≠ writer) : findRefund refunds' caller = findRefund refunds caller := by
  have moves : ∀ a b : List Refund, (∀ row : Refund, row.id ≠ writer → row ∈ a → row ∈ b) → Keyed Refund.id b →
      ∀ row, findRefund a caller = some row → findRefund b caller = some row := by
    intro a b kept keyed row found
    obtain ⟨member,same⟩ := lookup_member found
    have there := lookup_of_member keyed (kept row (fun its => apart (same.symm.trans its)) member)
    rw [same] at there
    exact there
  cases found : findRefund refunds caller with
  | some row => exact moves refunds refunds' (fun row other => (framed.others row other).mpr) keyed' row found
  | none =>
      cases found' : findRefund refunds' caller with
      | none => rfl
      | some row =>
          have before := moves refunds' refunds (fun row other => (framed.others row other).mp) keyed row found'
          cases found.symm.trans before

theorem reading_unread (unread : Unread party) (silent : ∀ provider input phase, party = .refund provider input phase →
    phase.ends refunds caller ∧ phase.accepts input) : Reading payment refunds caller party := by
  refine ⟨?_,fun provider input phase same => (silent provider input phase same).1,
    fun provider input phase same => (silent provider input phase same).2⟩
  intro provider input phase first same known
  rw [(unread provider input phase same).1] at known
  cases known

theorem reading_later (reading : Reading payment refunds caller party) (alike : Alike payment payment')
    (found : findRefund refunds' caller = findRefund refunds caller) : Reading payment' refunds' caller party := by
  refine ⟨fun provider input phase first same known => (reading.reads provider input phase first same known).trans alike,?_,reading.accepts⟩
  intro provider input phase same
  have ends := reading.ends provider input phase same
  cases phase with
  | returned refund => exact ⟨ends.1,found.trans ends.2⟩
  | rereading reservation => exact ends
  | checking | listing | prepared | reserving | claiming | refunding | mismatched | releasing | reverting | unreleased
  | finalizing | thrown | crashed => trivial

theorem checkRefund_currency (checked : checkRefund payment input refunds = .ok requested) : InCurrency input payment := by
  unfold checkRefund at checked
  dsimp only at checked
  split at checked
  · cases checked
  · split at checked
    · cases checked
    · rename_i same
      intro money given
      cases amount : input.amount with
      | none =>
          rw [amount] at given
          cases given
      | some its =>
          rw [amount] at given same
          cases given
          simpa using same

-- A step of a refund on the store.
theorem reading_refundStep (sound : Accounted payment' refunds') (alike : Alike payment payment')
    (reading : Reading payment refunds caller (.refund provider input phase))
    (standing : phase.standing input payment refunds caller)
    (did : refundStep caller now provider input payment refunds phase = some (payment',refunds',phase')) :
    Reading payment' refunds' caller (.refund provider input phase') := by
  have reads : ∀ first, phase'.read = some first → Alike first payment' := by
    intro first known
    have before : phase.read = some first ∨ first = payment := by
      cases phase with
      | checking =>
          simp only [refundStep] at did
          split at did
          · cases did
            cases known
          · split at did <;> cases did
            · cases known
            · exact .inr (Option.some.inj known).symm
      | listing read =>
          simp only [refundStep] at did
          split at did <;> cases did
          · cases known
          · exact .inl known
      | reserving read attempt =>
          simp only [refundStep] at did
          split at did <;> cases did
          · cases known
          · exact .inl known
      | claiming read attempt fresh claim =>
          simp only [refundStep] at did
          split at did
          · cases did
            exact .inl known
          · split at did <;> cases did
            · exact .inl known
            · cases known
      | mismatched | releasing | unreleased =>
          cases did
          cases known
      | reverting reservation release attempt fresh =>
          simp only [refundStep] at did
          split at did
          · cases did
            cases release <;> cases known
          · split at did <;> cases did <;> cases known
      | rereading | finalizing =>
          simp only [refundStep] at did
          split at did <;> cases did <;> cases known
      | prepared | refunding | returned | thrown | crashed => cases did
    rcases before with before | rfl
    · exact (reading.reads _ _ _ first rfl before).trans alike
    · exact alike
  have returned : ∀ rows : List Refund, ∀ refundId refund, refundId = caller → findRefund rows refundId = some refund →
      Mine caller refund ∧ findRefund rows caller = some refund := by
    rintro rows refundId refund rfl found
    exact ⟨(lookup_member found).2,found⟩
  have ends : phase'.ends refunds' caller ∧ phase'.accepts input := by
    cases phase with
    | checking =>
        simp only [refundStep] at did
        split at did
        · cases did
          exact ⟨trivial,trivial⟩
        · rename_i known
          split at did <;> cases did
          · exact ⟨trivial,trivial⟩
          · exact ⟨trivial,known⟩
    | listing read =>
        simp only [refundStep] at did
        split at did
        · cases did
          exact ⟨trivial,trivial⟩
        · rename_i checked
          cases did
          exact ⟨trivial,reading.accepts _ _ _ rfl,checkRefund_currency checked⟩
    | reserving =>
        simp only [refundStep] at did
        split at did <;> cases did <;> exact ⟨trivial,trivial⟩
    | claiming =>
        simp only [refundStep] at did
        split at did
        · cases did
          exact ⟨trivial,trivial⟩
        · split at did <;> cases did <;> exact ⟨trivial,trivial⟩
    | mismatched | releasing | unreleased =>
        cases did
        exact ⟨trivial,trivial⟩
    | reverting reservation release attempt fresh =>
        simp only [refundStep] at did
        split at did
        · cases did
          cases release with
          | threw => exact ⟨trivial,trivial⟩
          | settled => exact ⟨standing.1.1,trivial⟩
        · split at did <;> cases did <;> exact ⟨trivial,trivial⟩
    | rereading reservation =>
        have mine := reading.ends _ _ _ rfl
        simp only [refundStep] at did
        split at did <;> cases did
        · rename_i refund found
          exact ⟨returned refunds' _ refund mine found,trivial⟩
        · exact ⟨trivial,trivial⟩
    | finalizing reservation response status =>
        simp only [refundStep] at did
        split at did <;> cases did
        · rename_i refund found
          exact ⟨returned _ _ refund standing.1.1 found,trivial⟩
        · exact ⟨trivial,trivial⟩
    | prepared | refunding | returned | thrown | crashed => cases did
  refine ⟨?_,?_,?_⟩
  · rintro _ _ _ first ⟨⟩ known
    exact reads first known
  · rintro _ _ _ ⟨⟩
    exact ends.1
  · rintro _ _ _ ⟨⟩
    exact ends.2

-- A party that goes by no payment and ends in nothing.
theorem reading_silent (unread : Unread party) (silent : ∀ provider input phase, party = .refund provider input phase →
    phase = .checking ∨ phase = .crashed ∨ (∃ error, phase = .thrown error) ∨ (∃ reservation release attempt, phase = .releasing reservation release attempt) ∨
      (∃ reservation response, phase = .mismatched reservation response) ∨
      ∃ reservation response status, phase = .finalizing reservation response status) :
    Reading payment refunds caller party := by
  refine reading_unread unread ?_
  intro provider input phase same
  rcases silent provider input phase same with rfl | rfl | ⟨_,rfl⟩ | ⟨_,_,_,rfl⟩ | ⟨_,_,rfl⟩ | ⟨_,_,_,rfl⟩ <;>
    exact ⟨trivial,trivial⟩

theorem reading_record (phase : RecordPhase) : Reading payment refunds caller (.record input phase) := by
  refine reading_silent unread_record ?_
  intro _ _ _ same
  cases same

theorem reading_settle (phase : SettlePhase) : Reading payment refunds caller (.settle input phase) := by
  refine reading_silent unread_settle ?_
  intro _ _ _ same
  cases same

theorem refundReplied_cases {phase : RefundPhase} (did : refundReplied reply phase = some after) :
    (∃ error, after = .thrown error) ∨ (∃ reservation release attempt, after = .releasing reservation release attempt) ∨
      (∃ reservation response, after = .mismatched reservation response) ∨
      ∃ reservation response status, after = .finalizing reservation response status := by
  unfold refundReplied at did
  split at did
  · split at did
    · cases did
      exact .inr (.inl ⟨_,_,_,rfl⟩)
    · split at did
      · cases did
        exact .inr (.inr (.inl ⟨_,_,rfl⟩))
      · split at did <;> cases did
        · exact .inl ⟨_,rfl⟩
        · exact .inr (.inl ⟨_,_,_,rfl⟩)
        · exact .inr (.inl ⟨_,_,_,rfl⟩)
        · exact .inr (.inr (.inr ⟨_,_,_,rfl⟩))
  · cases did

-- The readings after a step of one party: its own is given, the others outlive its write.
theorem readings_put {s : Ledger} (readings : ∀ caller party, s.parties caller = some party → Reading s.payment s.refunds caller party)
    (sound : Sound s) (sound' : Sound ((s.put writer party).write payment refunds)) (settled : Settled s.payment)
    (write : Write writer s.payment s.refunds payment refunds) (mine : Reading payment refunds writer party) :
    ∀ caller party', ((s.put writer party).write payment refunds).parties caller = some party' →
      Reading payment refunds caller party' := by
  intro caller party' live
  rcases Ledger.put_cases live with ⟨apart,before⟩ | ⟨rfl,rfl⟩
  · refine reading_later (readings caller party' before) (write_alike settled write) ?_
    exact findRefund_others (write_framed write) sound.accounted.keyed sound'.accounted.keyed apart
  · exact mine

theorem readings_advance {s next : Ledger} (sound : Sound s) (settled : Settled s.payment)
    (readings : ∀ caller party, s.parties caller = some party → Reading s.payment s.refunds caller party)
    (moved : advance s action = some next) :
    ∀ caller party, next.parties caller = some party → Reading next.payment next.refunds caller party := by
  have sound' := (advance_write sound moved).1
  have quiet : ∀ (writer : Nat) (party : Party), Sound (s.put writer party) → Reading s.payment s.refunds writer party →
      ∀ caller its, (s.put writer party).parties caller = some its → Reading s.payment s.refunds caller its := by
    intro writer party after mine
    have write : Write writer s.payment s.refunds s.payment s.refunds := .none
    have whole : Sound ((s.put writer party).write s.payment s.refunds) := after
    exact readings_put readings sound whole settled write mine
  cases advance_moved moved with
  | beginRefund absent =>
      refine quiet _ _ sound' (reading_silent (beginRefund_unread _) ?_)
      rintro _ input _ ⟨⟩
      unfold beginRefund
      split
      · exact .inr (.inr (.inl ⟨_,rfl⟩))
      · exact .inl rfl
  | beginRecord absent => exact quiet _ _ sound' (reading_record _)
  | beginSettle absent => exact quiet _ _ sound' (reading_settle _)
  | run live =>
      refine quiet _ _ sound' ⟨?_,?_,?_⟩
      · rintro _ _ _ first ⟨⟩ known
        exact (readings _ _ live).reads _ _ _ first rfl known
      · rintro _ _ _ ⟨⟩
        trivial
      · rintro _ _ _ ⟨⟩
        trivial
  | @store caller party payment refunds after live did =>
      have standing := sound.standing caller party live
      have write := (partyStep_write standing did).1
      refine readings_put readings sound sound' settled write ?_
      cases party with
      | refund provider input phase =>
          simp only [partyStep,Option.map_eq_some_iff] at did
          obtain ⟨⟨_,_,phase'⟩,step,same⟩ := did
          cases same
          exact reading_refundStep sound'.accounted (write_alike settled write) (readings caller _ live) standing step
      | record input phase =>
          simp only [partyStep,Option.map_eq_some_iff] at did
          obtain ⟨_,_,same⟩ := did
          cases same
          exact reading_record _
      | settle input phase =>
          simp only [partyStep,Option.map_eq_some_iff] at did
          obtain ⟨_,_,same⟩ := did
          cases same
          exact reading_settle _
  | @abort caller party payment refunds after committed live did =>
      have write := (partyStep_write (sound.standing caller party live) did).1
      have mine : ∀ payment refunds, Reading payment refunds caller party.storageThrew := by
        intro payment refunds
        refine reading_silent (storageThrew_unread party).1 ?_
        intro _ _ _ same
        cases party <;> cases same
        exact .inr (.inr (.inl ⟨_,rfl⟩))
      cases committed with
      | true => exact readings_put readings sound sound' settled write (mine payment refunds)
      | false => exact quiet _ _ sound' (mine _ _)
  | refunded live did =>
      refine quiet _ _ sound' (reading_silent (refundReplied_unread did).1 ?_)
      rintro _ _ _ ⟨⟩
      exact .inr (.inr (refundReplied_cases did))
  | settled live did => exact quiet _ _ sound' (reading_settle _)
  | @crash caller party live =>
      refine quiet _ _ sound' (reading_silent (crash_unread party).1 ?_)
      intro _ _ _ same
      cases party <;> cases same
      exact .inr (.inl rfl)
  | tick => exact readings

-- A refund stays the refund it began as.
theorem party_kept {s next : Ledger} (moved : advance s action = some next)
    (live : s.parties caller = some (.refund provider input phase)) :
    ∃ phase', next.parties caller = some (.refund provider input phase') := by
  have put : ∀ (other : Nat) (party : Party), (other = caller → ∃ phase', party = .refund provider input phase') →
      ∃ phase', (s.put other party).parties caller = some (.refund provider input phase') := by
    intro other party own
    by_cases mine : other = caller
    · subst mine
      obtain ⟨phase',rfl⟩ := own rfl
      exact ⟨phase',Ledger.put_self s⟩
    · exact ⟨phase,(Ledger.put_other s (Ne.symm mine)).trans live⟩
  cases advance_moved moved with
  | beginRefund absent | beginRecord absent | beginSettle absent =>
      refine put _ _ ?_
      rintro rfl
      cases absent.symm.trans live
  | run its | refunded its =>
      refine put _ _ ?_
      rintro rfl
      cases its.symm.trans live
      exact ⟨_,rfl⟩
  | settled its =>
      refine put _ _ ?_
      rintro rfl
      cases its.symm.trans live
  | store its did =>
      refine put _ _ ?_
      rintro rfl
      cases its.symm.trans live
      obtain ⟨⟨_,_,phase'⟩,_,same⟩ := Option.map_eq_some_iff.mp did
      cases same
      exact ⟨phase',rfl⟩
  | @abort other party _ _ _ committed its =>
      have threw : ∃ phase', (s.put other party.storageThrew).parties caller = some (.refund provider input phase') := by
        refine put _ _ ?_
        rintro rfl
        cases its.symm.trans live
        exact ⟨_,rfl⟩
      cases committed <;> exact threw
  | crash its =>
      refine put _ _ ?_
      rintro rfl
      cases its.symm.trans live
      exact ⟨_,rfl⟩
  | tick => exact ⟨phase,live⟩

theorem advance_settled {s next : Ledger} (sound : Sound s) (settled : Settled s.payment) (moved : advance s action = some next) :
    Settled next.payment ∧ Alike s.payment next.payment := by
  obtain ⟨_,_,write⟩ := advance_write sound moved
  exact ⟨write_settled settled write,write_alike settled write⟩

theorem start_reached (collected : Collected payment) (now : Int) : Reached (retries deps) anyStep (started payment now) :=
  ⟨started payment now,⟨payment,now,collected,rfl⟩,.refl⟩

theorem books_ledger {s : Retried} (books : Books deps s) (named : Named deps (s.withLedger ledger))
    (moved : advance s.ledger action = some ledger) : Books deps (s.withLedger ledger) := by
  obtain ⟨settled,alike⟩ := advance_settled books.named.sound books.settled moved
  refine ⟨named,settled,readings_advance books.named.sound books.settled books.readings moved,?_,books.results⟩
  intro caller call live
  obtain ⟨provider,input,phase,first,key,party,same,rest⟩ := books.filed caller call live
  obtain ⟨phase',there⟩ := party_kept moved party
  exact ⟨provider,input,phase',first,key,there,same.trans alike,rest⟩

-- A step of the idempotency store that begins no call.
theorem books_idempotency {s : Retried} (books : Books deps s) (named : Named deps (s.withIdempotency idempotency))
    (moved : Idempotency.advance some s.idempotency action = some idempotency)
    (unbegun : ∀ caller service execution, action ≠ .begin caller service execution)
    (settles : ∀ caller refund, action = .settle caller (.ok refund) → Mine caller refund) :
    Books deps (s.withIdempotency idempotency) := by
  have step := Idempotency.advance_step moved
  have begins : ∀ caller service execution, action = .begin caller service execution → execution.legacyStorageKeys = [] :=
    fun caller service execution its => absurd its (unbegun caller service execution)
  refine ⟨named,books.settled,books.readings,?_,Idempotency.results_preserved books.results step begins settles⟩
  intro caller call live
  have same := Idempotency.step_execution step (unbegun caller)
  rw [show idempotency.calls caller = some call from live,Option.map_some] at same
  obtain ⟨before,there,its⟩ := Option.map_eq_some_iff.mp same.symm
  obtain ⟨provider,input,phase,first,key,party,alike,positive,currency,execution,rest⟩ := books.filed caller before there
  exact ⟨provider,input,phase,first,key,party,alike,positive,currency,its ▸ execution,rest⟩

theorem books_execute {s : Retried} (books : Books deps s)
    (named : Named deps ((s.withIdempotency idempotency).withKey caller key))
    (live : s.ledger.parties caller = some (.refund provider input (.prepared payment requested)))
    (fresh : s.keys caller = none) (given : refundKey deps payment requested input = some key)
    (moved : Idempotency.advance some s.idempotency (.begin caller service (refundExecution deps key payment requested)) =
      some idempotency) : Books deps ((s.withIdempotency idempotency).withKey caller key) := by
  have step := Idempotency.advance_step moved
  have asked : requested = Refunds.named input payment := (books.named.each caller).asks _ _ _ live
  have results : Idempotency.Results some Mine idempotency := by
    refine Idempotency.results_preserved books.results step ?_ nofun
    rintro _ _ _ ⟨⟩
    rfl
  have reading := books.readings caller _ live
  have standing := books.named.sound.standing caller _ live
  refine ⟨named,books.settled,books.readings,?_,results⟩
  intro other call theirs
  change idempotency.calls other = some call at theirs
  cases step with
  | begin absent =>
      by_cases mine : other = caller
      · subst mine
        rw [Idempotency.put_self] at theirs
        cases theirs
        refine ⟨provider,input,_,payment,key,live,reading.reads _ _ _ payment rfl rfl,standing.2,
          reading.accepts _ _ _ rfl,?_,?_,Function.update_self _ _ _⟩
        · rw [← asked]
        · rw [← asked]
          exact given
      · rw [Idempotency.put_other s.idempotency mine] at theirs
        obtain ⟨provider,input,phase,first,key',party,alike,positive,currency,execution,made,known⟩ := books.filed other call theirs
        exact ⟨provider,input,phase,first,key',party,alike,positive,currency,execution,made,(Function.update_of_ne mine _ _).trans known⟩

theorem books_preserved {s next : Retried} (configured : deps.idempotency ≠ none) (books : Books deps s)
    (moved : retry deps s action = some next) : Books deps next := by
  have named := named_preserved books.named moved
  cases retry_tried moved with
  | ledger _ did | run _ did => exact books_ledger books named did
  | unkeyed live =>
      rename_i caller provider input payment requested
      have sound : Sound ((s.ledger.put caller (.refund provider input (.thrown .typeError))).write s.ledger.payment s.ledger.refunds) :=
        named.sound
      refine ⟨named,books.settled,?_,?_,books.results⟩
      · refine readings_put books.readings books.named.sound sound books.settled .none ?_
        refine reading_silent (unread_refund rfl rfl) ?_
        rintro _ _ _ ⟨⟩
        exact .inr (.inr (.inl ⟨_,rfl⟩))
      · intro other call theirs
        obtain ⟨provider',input',phase,first,key,party,rest⟩ := books.filed other call theirs
        by_cases mine : other = caller
        · subst mine
          rw [live] at party
          cases party
          exact ⟨provider,input,_,first,key,Ledger.put_self s.ledger,rest⟩
        · exact ⟨provider',input',phase,first,key,(Ledger.put_other s.ledger mine).trans party,rest⟩
  | unlocked _ _ _ unconfigured => exact absurd unconfigured configured
  | execute live fresh given did => exact books_execute books named live fresh given did
  | store did => exact books_idempotency books named did (by simp) (by simp)
  | compute did => exact books_idempotency books named did (by simp) (by simp)
  | returned live did =>
      refine books_idempotency books named did (by simp) ?_
      rintro _ _ ⟨⟩
      exact ((books.readings _ _ live).ends _ _ _ rfl).1
  | thrown live did => exact books_idempotency books named did (by simp) (by simp)
  | refunded live known did =>
      have after : Books deps (s.withLedger _) := books_ledger books ⟨named.sound,named.each⟩ did
      exact ⟨named,after.settled,after.readings,after.filed,after.results⟩
  | @crash caller ledger did =>
      have put : Books deps (s.withLedger ledger) := books_ledger books (named_ledger books.named (by simp) did) did
      cases crashed : Idempotency.advance some s.idempotency (.crash caller) with
      | none => exact put
      | some idempotency =>
          rw [crashed] at named
          exact books_idempotency put named crashed (by simp) (by simp)
  | @tick _ ledger idempotency did ticked =>
      have put : Books deps (s.withLedger ledger) := books_ledger books (named_ledger books.named (by simp) did) did
      exact books_idempotency put named ticked (by simp) (by simp)

theorem reached_books (configured : deps.idempotency ≠ none) (path : Reached (retries deps) allowed s) : Books deps s := by
  refine path.invariant (Books deps) ?_ ?_
  · intro u initial
    obtain ⟨payment,now,collected,same⟩ := initial
    subst same
    refine ⟨reached_named (start_reached collected now),.inl collected.status,?_,?_,Idempotency.results_empty now⟩
    · intro caller party live
      cases live
    · intro caller call live
      cases live
  · intro u action next _ books _ moved
    exact books_preserved configured books moved

end Payable.Refunds
