import Payable.Refunds.Replays

namespace Payable.Refunds
open Domain Tables Runs

-- What a completed refund has left behind for a call that repeats it.
structure Recorded (deps : Deps) (s : Retried) (caller : Nat) (input : RefundPaymentActionInput) (refund : Refund)
    (record : Idempotency.Record Refund) (first : Payment) (key : String) : Prop where
  mine : Mine caller refund
  found : findRefund s.ledger.refunds caller = some refund
  keyed : s.keys caller = some key
  stored : s.idempotency.rows (refundSlot deps key) = some record
  response : record.response = some refund
  hash : record.requestHash = deps.hashRequest (named input first) first.currency
  given : refundKey deps first (named input first) input = some key
  alike : Alike first s.ledger.payment
  positive : ∀ money ∈ input.amount, 0 < money.amount
  known : s.ledger.payment.providerPaymentId ≠ none
  currency : InCurrency input s.ledger.payment

-- Where a repeated call stands that will be answered from the record.
def Going (refund : Refund) (record : Idempotency.Record Refund) : Idempotency.Phase Refund Refund LedgerError → Prop
  | .reading => True
  | .read existing => existing = some record
  | .returned answer => answer = .stored (some refund)
  | _ => False

structure Straight (deps : Deps) (s : Retried) (caller : Nat) (provider : String) (input : RefundPaymentActionInput) (refund : Refund)
    (record : Idempotency.Record Refund) (key : String) (t : Retried) : Prop where
  alone : Alone deps s caller provider input t
  stored : t.idempotency.rows (refundSlot deps key) = some record
  unexpired : Idempotency.isExpired t.idempotency.now record = false
  unrefused : ∀ provider' input' error, t.ledger.parties caller ≠ some (.refund provider' input' (.thrown error))
  going : ∀ call, t.idempotency.calls caller = some call → Going refund record call.phase

variable {deps : Deps} {s t next : Retried} {provider : String} {input : RefundPaymentActionInput} {refund : Refund}
  {record : Idempotency.Record Refund}

theorem completed_recorded (books : Books deps s) (completed : Completed s caller provider input refund record) :
    ∃ first key, Recorded deps s caller input refund record first key := by
  obtain ⟨call,live,phase,stored⟩ := completed.call
  obtain ⟨_,_,_,first,key,party,alike,positive,⟨known,currency⟩,execution,given,keyed⟩ := books.filed caller call live
  cases completed.party.symm.trans party
  have slot : call.slot = refundSlot deps key := by
    unfold Idempotency.Call.slot
    rw [execution]
    rfl
  have held := books.results.holder live stored completed.token
  have ends := (books.readings caller _ completed.party).ends _ _ _ rfl
  refine ⟨first,key,ends.1,ends.2,keyed,slot ▸ stored,?_,?_,given,alike,positive,alike.providerPaymentId ▸ known,?_⟩
  · exact books.results.own _ _ caller call refund stored completed.token completed.completed live (by rw [phase]; rfl)
  · rw [held.hash,execution]
    rfl
  · intro money inside
    rw [← alike.currency]
    exact currency money inside

-- The key names the amount.
theorem refundKey_amount {first payment : Payment} (one : refundKey deps first m input = some key)
    (two : refundKey deps payment n input = some key) : m = n := by
  have first_ : (KeyCall.refund ⟨deps.tenantId,deps.providerName,first.providerPaymentId.getD "",m,first.currency,input.reference⟩).key deps.toUpperCase =
      some key := one
  have second_ : (KeyCall.refund ⟨deps.tenantId,deps.providerName,payment.providerPaymentId.getD "",n,payment.currency,
      input.reference⟩).key deps.toUpperCase = some key := two
  have same := (same_segments first_ second_).mp rfl
  simp only [KeyCall.segments,List.cons_append,List.cons.injEq] at same
  exact decimal_apart same.2.2.2.2.1

theorem repeated_hash (recorded : Recorded deps s caller input refund record first key) (repeatable : Repeatable deps s caller input) :
    deps.hashRequest (named input s.ledger.payment) s.ledger.payment.currency = record.requestHash := by
  have again : refundKey deps s.ledger.payment (named input s.ledger.payment) input = some key :=
    repeatable.key.trans recorded.keyed
  rw [recorded.hash,refundKey_amount recorded.given again,recorded.alike.currency]

theorem repeated_checked (recorded : Recorded deps s caller input refund record first key) (repeatable : Repeatable deps s caller input) :
    checkRefund s.ledger.payment input (listByPayment s.ledger.refunds) = .ok (named input s.ledger.payment) := by
  have currency : input.amount.any (·.currency ≠ s.ledger.payment.currency) = false := by
    cases amount : input.amount with
    | none => rfl
    | some money => simpa using recorded.currency money amount
  have room : ¬ (remaining s.ledger.payment ≤ 0 ∨ named input s.ledger.payment > remaining s.ledger.payment) := by
    have left := repeatable.left
    have fits := repeatable.fits
    omega
  unfold checkRefund
  rw [if_neg (ne_true_of_eq_false repeatable.settled),if_neg (ne_true_of_eq_false currency)]
  exact if_neg room

theorem beginRefund_positive (positive : ∀ money ∈ input.amount, 0 < money.amount) : beginRefund input = .checking := by
  unfold beginRefund
  cases amount : input.amount with
  | none => rfl
  | some money =>
      have above := positive money amount
      rw [if_neg (by simp; omega)]

-- What a repeated call that is answered goes by.
structure Ready (deps : Deps) (s : Retried) (input : RefundPaymentActionInput) (refund : Refund)
    (record : Idempotency.Record Refund) (key : String) (service : Idempotency.Service) : Prop where
  configured : deps.idempotency = some service
  begins : beginRefund input = .checking
  known : s.ledger.payment.providerPaymentId ≠ none
  open_ : refundable s.ledger.payment.status = true
  checked : checkRefund s.ledger.payment input (listByPayment s.ledger.refunds) = .ok (named input s.ledger.payment)
  given : refundKey deps s.ledger.payment (named input s.ledger.payment) input = some key
  hash : deps.hashRequest (named input s.ledger.payment) s.ledger.payment.currency = record.requestHash
  completed : record.status = .completed
  response : record.response = some refund
  found : findRefund s.ledger.refunds refund.id = some refund

theorem recorded_ready (configured : deps.idempotency = some service) (completed : record.status = .completed)
    (recorded : Recorded deps s caller input refund record first key) (repeatable : Repeatable deps s caller input) :
    Ready deps s input refund record key service := by
  have found := recorded.found
  rw [← show refund.id = caller from recorded.mine] at found
  exact ⟨configured,beginRefund_positive recorded.positive,recorded.known,repeatable.status,repeated_checked recorded repeatable,
    repeatable.key.trans recorded.keyed,repeated_hash recorded repeatable,completed,recorded.response,found⟩

def stepsLeft (t : Retried) (caller : Nat) : Nat :=
  match t.idempotency.calls caller with
  | some call => match call.phase with
    | .reading => 2
    | .read _ => 1
    | _ => 0
  | none => match t.ledger.parties caller with
    | none => 6
    | some (.refund _ _ .checking) => 5
    | some (.refund _ _ (.listing _)) => 4
    | some (.refund _ _ (.prepared _ _)) => 3
    | _ => 0

-- The one step that the repeated call takes next.
def Goes (deps : Deps) (s : Retried) (caller : Nat) (provider : String) (input : RefundPaymentActionInput) (refund : Refund)
    (record : Idempotency.Record Refund) (key : String) (t : Retried) (action : Retry) (left : Nat) : Prop :=
  ∃ next, retry deps t action = some next ∧ Straight deps s caller provider input refund record key next ∧
    stepsLeft next caller = left

theorem straight_put (straight : Straight deps s caller provider input refund record key t)
    (uncalled : t.idempotency.calls caller = none) (stage : Stage deps s provider input (some (.refund provider input phase)) none)
    (unthrown : ∀ error, phase ≠ .thrown error) :
    Straight deps s caller provider input refund record key (t.withLedger (t.ledger.put caller (.refund provider input phase))) := by
  refine ⟨alone_put straight.alone uncalled stage,straight.stored,straight.unexpired,?_,straight.going⟩
  intro provider' input' error live
  change (t.ledger.put caller (.refund provider input phase)).parties caller = _ at live
  rw [Ledger.put_self] at live
  cases live
  exact unthrown error rfl

theorem goes_begin (ready : Ready deps s input refund record key service)
    (straight : Straight deps s caller provider input refund record key t) (absent : t.ledger.parties caller = none)
    (uncalled : t.idempotency.calls caller = none) :
    Goes deps s caller provider input refund record key t (.ledger (.beginRefund caller provider input)) 5 := by
  refine ⟨_,?_,straight_put straight uncalled .checking (by intro error; simp),?_⟩
  · simp only [retry,advance,if_pos absent,ready.begins,Option.map_some]
  · simp [stepsLeft,Retried.withLedger,uncalled]

theorem goes_check (ready : Ready deps s input refund record key service)
    (straight : Straight deps s caller provider input refund record key t)
    (live : t.ledger.parties caller = some (.refund provider input .checking)) (uncalled : t.idempotency.calls caller = none) :
    Goes deps s caller provider input refund record key t (.ledger (.store caller)) 4 := by
  refine ⟨_,?_,straight_put straight uncalled (.listing ready.open_) (by intro error; simp),?_⟩
  · have looked : refundStep caller t.ledger.now provider input t.ledger.payment t.ledger.refunds .checking =
        some (t.ledger.payment,t.ledger.refunds,.listing s.ledger.payment) := by
      simp only [refundStep]
      rw [straight.alone.payment,if_neg ready.known,if_neg (by simp [ready.open_])]
    simp [retry,advance,live,partyStep,looked]
    rfl
  · simp [stepsLeft,Retried.withLedger,uncalled]

theorem goes_list (ready : Ready deps s input refund record key service)
    (straight : Straight deps s caller provider input refund record key t)
    (live : t.ledger.parties caller = some (.refund provider input (.listing s.ledger.payment)))
    (uncalled : t.idempotency.calls caller = none) :
    Goes deps s caller provider input refund record key t (.ledger (.store caller)) 3 := by
  refine ⟨_,?_,straight_put straight uncalled (.prepared ready.open_ ready.checked) (by intro error; simp),?_⟩
  · have checked : refundStep caller t.ledger.now provider input t.ledger.payment t.ledger.refunds (.listing s.ledger.payment) =
        some (t.ledger.payment,t.ledger.refunds,.prepared s.ledger.payment (named input s.ledger.payment)) := by
      simp only [refundStep,straight.alone.refunds,ready.checked]
    simp [retry,advance,live,partyStep,checked]
    rfl
  · simp [stepsLeft,Retried.withLedger,uncalled]

theorem goes_execute (ready : Ready deps s input refund record key service)
    (straight : Straight deps s caller provider input refund record key t)
    (live : t.ledger.parties caller = some (.refund provider input (.prepared s.ledger.payment (named input s.ledger.payment))))
    (uncalled : t.idempotency.calls caller = none) :
    Goes deps s caller provider input refund record key t (.execute caller) 2 := by
  have fresh := straight.alone.keyed.mpr uncalled
  let call : RefundCall := ⟨service,refundExecution deps key s.ledger.payment (named input s.ledger.payment),.reading⟩
  have moved : retry deps t (.execute caller) =
      some ((t.withIdempotency (t.idempotency.put caller call)).withKey caller key) := by
    change execute deps t caller = _
    unfold execute
    rw [live,fresh]
    simp only [ready.given,ready.configured,Idempotency.advance,uncalled,Option.map_some]
    rfl
  have alone := alone_executed (by rw [ready.configured]; simp) straight.alone moved
  have called : ((t.withIdempotency (t.idempotency.put caller call)).withKey caller key).idempotency.calls caller = some call :=
    Idempotency.put_self t.idempotency
  refine ⟨_,moved,⟨alone,straight.stored,straight.unexpired,straight.unrefused,?_⟩,?_⟩
  · intro its theirs
    cases called.symm.trans theirs
    trivial
  · unfold stepsLeft
    rw [called]

-- A call that is under way is for the slot and the hash of the record.
theorem straight_called (ready : Ready deps s input refund record key service)
    (straight : Straight deps s caller provider input refund record key t) (live : t.idempotency.calls caller = some call) :
    call.slot = refundSlot deps key ∧ call.execution.requestHash = record.requestHash := by
  have stage := straight.alone.stage
  rw [live] at stage
  generalize t.ledger.parties caller = party at stage
  cases stage with
  | called open_ checked given unrun =>
      cases ready.checked.symm.trans checked
      cases ready.given.symm.trans given
      exact ⟨rfl,ready.hash⟩

theorem goes_read (ready : Ready deps s input refund record key service)
    (straight : Straight deps s caller provider input refund record key t) (live : t.idempotency.calls caller = some call)
    (reading : call.phase = .reading) : Goes deps s caller provider input refund record key t (.store caller .none) 1 := by
  let after : RefundCall := {call with phase := .read (some record)}
  have moved : retry deps t (.store caller .none) = some (t.withIdempotency {t.idempotency.put caller after with rows := t.idempotency.rows}) := by
    have found : Idempotency.find t.idempotency.rows call.slot = some record :=
      (straight_called ready straight live).1 ▸ straight.stored
    simp [retry,Idempotency.advance,live,Idempotency.storeStep,reading,found,after]
  have alone : Alone deps s caller provider input (t.withIdempotency {t.idempotency.put caller after with rows := t.idempotency.rows}) :=
    alone_moved straight.alone live fun _ => trivial
  have called : (t.idempotency.put caller after).calls caller = some after := Idempotency.put_self t.idempotency
  refine ⟨_,moved,⟨alone,straight.stored,straight.unexpired,straight.unrefused,?_⟩,?_⟩
  · intro its theirs
    cases called.symm.trans theirs
    rfl
  · change stepsLeft (t.withIdempotency {t.idempotency.put caller after with rows := t.idempotency.rows}) caller = 1
    simp [stepsLeft,Retried.withIdempotency,after]

theorem replay_completed {existing : Idempotency.Record Refund} (unexpired : Idempotency.isExpired now existing = false)
    (hash : existing.requestHash = requestHash) (completed : existing.status = .completed) :
    (Idempotency.replay now (some existing) requestHash key policy : Idempotency.Replay Refund LedgerError) =
      .handled existing.response := by
  unfold Idempotency.replay
  simp only [unexpired,hash,completed]
  simp

theorem goes_replay (ready : Ready deps s input refund record key service)
    (straight : Straight deps s caller provider input refund record key t) (live : t.idempotency.calls caller = some call)
    (reading : call.phase = .read (some record)) : Goes deps s caller provider input refund record key t (.compute caller) 0 := by
  let after : RefundCall := {call with phase := .returned (.stored (some refund))}
  have moved : retry deps t (.compute caller) = some (t.withIdempotency (t.idempotency.put caller after)) := by
    have handled : Idempotency.replay t.idempotency.now (some record) call.execution.requestHash call.execution.key call.policy =
        .handled record.response := replay_completed straight.unexpired (straight_called ready straight live).2.symm ready.completed
    simp [retry,Idempotency.advance,live,Idempotency.localStep,reading,handled,ready.response,after]
  have alone : Alone deps s caller provider input (t.withIdempotency {t.idempotency.put caller after with rows := t.idempotency.rows}) :=
    alone_moved straight.alone live fun _ => trivial
  have called : (t.idempotency.put caller after).calls caller = some after := Idempotency.put_self t.idempotency
  refine ⟨_,moved,⟨alone,straight.stored,straight.unexpired,straight.unrefused,?_⟩,?_⟩
  · intro its theirs
    cases called.symm.trans theirs
    rfl
  · simp [stepsLeft,Retried.withIdempotency,after]

-- All the places where a repeated call can stand that is answered from the record.
inductive Standing (s : Retried) (caller : Nat) (provider : String) (input : RefundPaymentActionInput) (refund : Refund)
    (record : Idempotency.Record Refund) (t : Retried) : Prop where
  | absent (live : t.ledger.parties caller = none) (uncalled : t.idempotency.calls caller = none)
  | checking (live : t.ledger.parties caller = some (.refund provider input .checking)) (uncalled : t.idempotency.calls caller = none)
  | listing (live : t.ledger.parties caller = some (.refund provider input (.listing s.ledger.payment)))
      (uncalled : t.idempotency.calls caller = none)
  | prepared (live : t.ledger.parties caller = some (.refund provider input (.prepared s.ledger.payment (named input s.ledger.payment))))
      (uncalled : t.idempotency.calls caller = none)
  | called (live : t.ledger.parties caller = some (.refund provider input (.prepared s.ledger.payment (named input s.ledger.payment))))
      (call : RefundCall) (its : t.idempotency.calls caller = some call)
      (phase : call.phase = .reading ∨ call.phase = .read (some record) ∨ call.phase = .returned (.stored (some refund)))

theorem straight_standing (ready : Ready deps s input refund record key service)
    (straight : Straight deps s caller provider input refund record key t) : Standing s caller provider input refund record t := by
  have stage := straight.alone.stage
  generalize live : t.ledger.parties caller = party at stage
  generalize its : t.idempotency.calls caller = call at stage
  cases stage with
  | absent => exact .absent live its
  | checking => exact .checking live its
  | listing => exact .listing live its
  | prepared open_ checked =>
      cases ready.checked.symm.trans checked
      exact .prepared live its
  | refused => exact absurd live (straight.unrefused _ _ _)
  | called open_ checked given unrun =>
      cases ready.checked.symm.trans checked
      have going := straight.going _ its
      refine .called live _ its ?_
      rename_i phase _
      cases phase with
      | reading => exact .inl rfl
      | read existing => exact .inr (.inl (congrArg Idempotency.Phase.read going))
      | returned answer => exact .inr (.inr (congrArg Idempotency.Phase.returned going))
      | readingLegacy | readLegacy | acquiring | rereading | reread | takingOver | running | completing | verifying | verified
      | failing | thrown | crashed => cases going

theorem goes_straight (goes : Goes deps s caller provider input refund record key t action left)
    (moved : retry deps t action = some next) : Straight deps s caller provider input refund record key next := by
  obtain ⟨after,same,straight,_⟩ := goes
  cases moved.symm.trans same
  exact straight

theorem straight_step (ready : Ready deps s input refund record key service)
    (straight : Straight deps s caller provider input refund record key t) (mine : Repeating caller provider input record t action)
    (moved : retry deps t action = some next) : Straight deps s caller provider input refund record key next := by
  have standing := straight_standing ready straight
  cases action with
  | ledger inner =>
      cases inner with
      | beginRefund other provider' input' =>
          obtain ⟨rfl,rfl,rfl⟩ := mine
          cases standing with
          | absent live uncalled => exact goes_straight (goes_begin ready straight live uncalled) moved
          | checking live | listing live | prepared live | called live => simp [retry,advance,live] at moved
      | store other =>
          cases mine
          cases standing with
          | checking live uncalled => exact goes_straight (goes_check ready straight live uncalled) moved
          | listing live uncalled => exact goes_straight (goes_list ready straight live uncalled) moved
          | absent live | prepared live | called live => simp [retry,advance,live,partyStep,refundStep] at moved
      | beginRecord | beginSettle | run | abort | refunded | settled | crash | tick => cases mine
  | execute other =>
      cases mine
      cases standing with
      | prepared live uncalled => exact goes_straight (goes_execute ready straight live uncalled) moved
      | absent live | checking live | listing live => simp [retry,execute,live] at moved
      | called live call its =>
          have keyed : t.keys caller ≠ none := by
            intro fresh
            cases its.symm.trans (straight.alone.keyed.mp fresh)
          obtain ⟨key',known⟩ := Option.ne_none_iff_exists'.mp keyed
          simp [retry,execute,live,known] at moved
  | store other fault =>
      obtain ⟨rfl,rfl⟩ := mine
      cases standing with
      | absent _ uncalled | checking _ uncalled | listing _ uncalled | prepared _ uncalled =>
          simp [retry,Idempotency.advance,uncalled] at moved
      | called live call its phase =>
          rcases phase with reading | reading | answered
          · exact goes_straight (goes_read ready straight its reading) moved
          · simp [retry,Idempotency.advance,its,Idempotency.storeStep,reading] at moved
          · simp [retry,Idempotency.advance,its,Idempotency.storeStep,answered] at moved
  | compute other =>
      cases mine
      cases standing with
      | absent _ uncalled | checking _ uncalled | listing _ uncalled | prepared _ uncalled =>
          simp [retry,Idempotency.advance,uncalled] at moved
      | called live call its phase =>
          rcases phase with reading | reading | answered
          · simp [retry,Idempotency.advance,its,Idempotency.localStep,reading] at moved
          · exact goes_straight (goes_replay ready straight its reading) moved
          · simp [retry,Idempotency.advance,its,Idempotency.localStep,answered] at moved
  | tick elapsed =>
      have alone := alone_step (by rw [ready.configured]; simp) straight.alone mine moved
      cases moved
      exact ⟨alone,straight.stored,mine,straight.unrefused,straight.going⟩
  | run | refunded | settle | crash => cases mine

theorem straight_goes (ready : Ready deps s input refund record key service)
    (straight : Straight deps s caller provider input refund record key t) (left : stepsLeft t caller = n + 1) :
    ∃ action, Repeating caller provider input record t action ∧ Goes deps s caller provider input refund record key t action n := by
  cases straight_standing ready straight with
  | absent live uncalled =>
      have steps : stepsLeft t caller = 6 := by simp [stepsLeft,live,uncalled]
      cases steps.symm.trans left
      exact ⟨.ledger (.beginRefund caller provider input),⟨rfl,rfl,rfl⟩,goes_begin ready straight live uncalled⟩
  | checking live uncalled =>
      have steps : stepsLeft t caller = 5 := by simp [stepsLeft,live,uncalled]
      cases steps.symm.trans left
      exact ⟨.ledger (.store caller),rfl,goes_check ready straight live uncalled⟩
  | listing live uncalled =>
      have steps : stepsLeft t caller = 4 := by simp [stepsLeft,live,uncalled]
      cases steps.symm.trans left
      exact ⟨.ledger (.store caller),rfl,goes_list ready straight live uncalled⟩
  | prepared live uncalled =>
      have steps : stepsLeft t caller = 3 := by simp [stepsLeft,live,uncalled]
      cases steps.symm.trans left
      exact ⟨.execute caller,rfl,goes_execute ready straight live uncalled⟩
  | called live call its phase =>
      rcases phase with reading | reading | answered
      · have steps : stepsLeft t caller = 2 := by simp [stepsLeft,its,reading]
        cases steps.symm.trans left
        exact ⟨.store caller .none,⟨rfl,rfl⟩,goes_read ready straight its reading⟩
      · have steps : stepsLeft t caller = 1 := by simp [stepsLeft,its,reading]
        cases steps.symm.trans left
        exact ⟨.compute caller,rfl,goes_replay ready straight its reading⟩
      · have steps : stepsLeft t caller = 0 := by simp [stepsLeft,its,answered]
        cases steps.symm.trans left

-- What the call comes to is the refund.
theorem straight_answer (ready : Ready deps s input refund record key service)
    (straight : Straight deps s caller provider input refund record key t) :
    (∀ result, answer t caller = some result → result = some refund) ∧
      (stepsLeft t caller = 0 → answer t caller = some (some refund)) := by
  cases straight_standing ready straight with
  | absent live uncalled | checking live uncalled | listing live uncalled | prepared live uncalled =>
      simp [answer,stepsLeft,live,uncalled]
  | called live call its phase =>
      have revived : revive t.ledger.refunds refund = refund := by
        unfold revive
        rw [straight.alone.refunds,ready.found]
        rfl
      rcases phase with reading | reading | answered
      · simp [answer,stepsLeft,its,reading]
      · simp [answer,stepsLeft,its,reading]
      · simp [answer,stepsLeft,its,answered,revived]

theorem straight_replays (ready : Ready deps s input refund record key service)
    (straight : Straight deps s caller provider input refund record key s) : Replays deps s caller provider input refund record := by
  refine ⟨?_,?_⟩
  · intro t path
    have there := path.invariant (Straight deps s caller provider input refund record key) straight
      fun _ _ _ straight mine moved => straight_step ready straight mine moved
    exact ⟨there.alone.payment,there.alone.refunds,there.alone.executed,(straight_answer ready there).1⟩
  · let left : Retried → Nat → Prop := fun t n =>
      Straight deps s caller provider input refund record key t ∧ stepsLeft t caller = n
    have descends : ∃ t, Path (retries deps) (Repeating caller provider input record) s t ∧ left t 0 := by
      refine Path.descend left ⟨straight,rfl⟩ ?_
      rintro t n ⟨there,steps⟩
      obtain ⟨action,mine,next,moved,after,fewer⟩ := straight_goes ready there steps
      exact ⟨action,next,n,mine,moved,le_refl n,after,fewer⟩
    obtain ⟨t,path,there,none⟩ := descends
    exact ⟨t,path,(straight_answer ready there).2 none⟩

theorem revive_id (response : Refund) : (revive refunds response).id = response.id := by
  unfold revive
  cases found : findRefund refunds response.id with
  | none => rfl
  | some row => exact (lookup_member found).2

-- An answer with a refund is a stored one, and the call is for the payment as it stands.
theorem answered_stage (stage : Stage deps s provider input (t.ledger.parties caller) (t.idempotency.calls caller))
    (answered : answer t caller = some (some refund)) :
    ∃ service key response, refundable s.ledger.payment.status = true ∧
      checkRefund s.ledger.payment input (listByPayment s.ledger.refunds) = .ok (named input s.ledger.payment) ∧
      refundKey deps s.ledger.payment (named input s.ledger.payment) input = some key ∧
      t.idempotency.calls caller = some ⟨service,refundExecution deps key s.ledger.payment (named input s.ledger.payment),
        .returned (.stored (some response))⟩ ∧ response.id = refund.id := by
  unfold answer at answered
  generalize t.ledger.parties caller = party at stage answered
  generalize t.idempotency.calls caller = call at stage answered
  cases stage with
  | absent | checking | listing | prepared | refused => simp at answered
  | called open_ checked given unrun =>
      rename_i phase service
      cases checkRefund_named checked
      cases phase with
      | returned reply =>
          cases reply with
          | own => cases unrun
          | stored response =>
              cases response with
              | none => simp at answered
              | some response =>
                  simp only [Option.map_some,Option.some.injEq] at answered
                  refine ⟨service,_,response,open_,checked,given,rfl,?_⟩
                  rw [← answered,revive_id]
      | reading | read | readingLegacy | readLegacy | acquiring | rereading | reread | takingOver | running | completing | verifying
      | verified | failing | thrown | crashed => simp at answered

theorem checkRefund_open (checked : checkRefund payment input refunds = .ok requested) :
    refunds.any (·.status = .pending) = false ∧ 0 < remaining payment ∧ requested ≤ remaining payment := by
  unfold checkRefund at checked
  dsimp only at checked
  split at checked
  · cases checked
  · rename_i settled
    split at checked
    · cases checked
    · split at checked
      · cases checked
      · rename_i room
        cases checked
        refine ⟨by simpa using settled,?_,?_⟩ <;> omega

theorem answered_repeatable (configured : deps.idempotency ≠ none) (path : Reached (retries deps) anyStep s)
    (completed : Completed s caller provider input refund record) (fresh : s.ledger.parties repeating = none)
    (onward : Path (retries deps) (Repeating repeating provider input record) s t)
    (answered : answer t repeating = some (some refund)) : Repeatable deps s caller input := by
  have books := reached_books configured path
  have books' := reached_books configured (path.later (onward.weaken fun _ _ _ => trivial))
  have alone := alone_path configured (alone_start books.named fresh) onward
  obtain ⟨service,key,response,open_,checked,given,live,same⟩ := answered_stage alone.stage answered
  obtain ⟨settled,left,fits⟩ := checkRefund_open checked
  obtain ⟨first,key',recorded⟩ := completed_recorded books completed
  -- The stored response is the result of the call under the slot whose number it bears.
  obtain ⟨owner,call,result,theirs,slot,its,origin⟩ := books'.results.answered repeating _ (some response) live rfl
  cases origin
  have owner_ : owner = caller := by
    rw [← show response.id = owner from its,same]
    exact recorded.mine
  subst owner_
  have apart : owner ≠ repeating := by
    intro its
    subst its
    cases completed.party.symm.trans fresh
  rw [alone.others owner apart] at theirs
  obtain ⟨_,_,_,_,other,_,_,_,_,execution,_,keyed⟩ := books.filed owner call theirs
  refine ⟨open_,settled,left,fits,?_⟩
  cases keyed.symm.trans recorded.keyed
  rw [given,recorded.keyed]
  have slots : refundSlot deps key = refundSlot deps key' := by
    rw [show call.slot = refundSlot deps key' from by unfold Idempotency.Call.slot; rw [execution]; rfl] at slot
    exact slot.symm
  have texts : "refund" ++ ":" ++ key = "refund" ++ ":" ++ key' := congrArg Idempotency.Slot.key slots
  exact congrArg some ((String.append_right_inj _).mp texts)

-- A completed refund is answered again to a caller that repeats it exactly when the payment it left behind passes the checks
-- once more and gives the amount the same key.
theorem refund_replays (configured : deps.idempotency ≠ none) (path : Reached (retries deps) anyStep s)
    (completed : Completed s caller provider input refund record) (fresh : s.ledger.parties repeating = none) :
    Replays deps s repeating provider input refund record ↔ Repeatable deps s caller input := by
  have books := reached_books configured path
  constructor
  · intro replays
    obtain ⟨t,onward,answered⟩ := replays.once
    exact answered_repeatable configured path completed fresh onward answered
  · intro repeatable
    obtain ⟨service,its⟩ := Option.ne_none_iff_exists'.mp configured
    obtain ⟨first,key,recorded⟩ := completed_recorded books completed
    have ready := recorded_ready its completed.completed recorded repeatable
    have alone : Alone deps s repeating provider input s := alone_start books.named fresh
    refine straight_replays ready ⟨alone,recorded.stored,completed.unexpired,?_,?_⟩
    · intro _ _ _ live
      cases fresh.symm.trans live
    · intro call live
      have stage := alone.stage
      rw [fresh,live] at stage
      cases stage

section Schedules

-- A refund that the provider answers with success, to the end of its call.
def finishes (caller : Nat) (amount : Int) : List Retry :=
  [.refunded caller true (.answered ⟨"re_0","succeeded",⟨amount,"EUR"⟩⟩),.ledger (.store caller),.settle caller,.store caller .none,
    .store caller .none,.compute caller]

def completedIn (s : Retried) (caller : Nat) (test : RefundPaymentActionInput → Bool) : Bool :=
  match s.ledger.parties caller,s.idempotency.calls caller with
  | some (.refund _ input (.returned refund)),some call =>
    match call.phase with
    | .returned (.own its) => its == refund && test input && (s.idempotency.rows call.slot).any fun record =>
        record.status == .completed && (record.lockToken == some caller && !Idempotency.isExpired s.idempotency.now record)
    | _ => false
  | _,_ => false

theorem completedIn_found (found : completedIn s caller test = true) :
    ∃ provider input refund record, Completed s caller provider input refund record ∧ test input = true := by
  unfold completedIn at found
  split at found
  · rename_i provider input refund call party live
    split at found
    · rename_i its phase
      simp only [Bool.and_eq_true,beq_iff_eq,Option.any_eq_true,Bool.not_eq_true'] at found
      obtain ⟨⟨rfl,passed⟩,record,stored,completed,token,unexpired⟩ := found
      exact ⟨provider,input,its,record,⟨party,⟨call,live,phase,stored⟩,completed,token,unexpired⟩,passed⟩
    · cases found
  · cases found

-- After a partial refund there is room for the same again.
theorem refund_replays_part :
    ∃ s provider input refund record, Reached (retries hashing) anyStep s ∧ input.amount = some ⟨30,"EUR"⟩ ∧
      Completed s 0 provider input refund record ∧ Replays hashing s 1 provider input refund record := by
  have passed : (run (retries hashing) anyStep (started cardPayment 0)
      (begins 0 (some ⟨30,"EUR"⟩) "return-0" ++ reserves 0 ++ finishes 0 30)).any (fun s =>
        completedIn s 0 (fun input => input.amount == some ⟨30,"EUR"⟩ &&
          refundKey hashing s.ledger.payment (named input s.ledger.payment) input == s.keys 0) &&
        (s.ledger.parties 1).isNone && refundable s.ledger.payment.status &&
        (!(listByPayment s.ledger.refunds).any (·.status = .pending) && remaining s.ledger.payment == 70)) = true := by decide +kernel
  obtain ⟨s,path,found⟩ := run_reaches (started_initial ⟨rfl,rfl,by decide⟩ 0) passed
  simp only [Bool.and_eq_true,beq_iff_eq,Bool.not_eq_true',Option.isNone_iff_eq_none] at found
  obtain ⟨⟨⟨found,fresh⟩,open_⟩,settled,left⟩ := found
  obtain ⟨provider,input,refund,record,completed,passed⟩ := completedIn_found found
  obtain ⟨amount,key⟩ : input.amount = some ⟨30,"EUR"⟩ ∧
      refundKey hashing s.ledger.payment (named input s.ledger.payment) input = s.keys 0 := by simpa using passed
  have fits : named input s.ledger.payment ≤ remaining s.ledger.payment := by
    rw [named_given amount,left]
    decide
  exact ⟨s,provider,input,refund,record,path,amount,completed,
    (refund_replays (by simp [hashing]) path completed fresh).mpr ⟨open_,settled,by omega,fits,key⟩⟩

-- After a full refund the payment is refunded, and the same call is refused.
theorem full_refund_refused :
    ∃ s provider input refund record, Reached (retries hashing) anyStep s ∧ Completed s 0 provider input refund record ∧
      s.ledger.parties 1 = none ∧ input.amount = none ∧ remaining s.ledger.payment = 0 ∧
      ¬ Replays hashing s 1 provider input refund record := by
  have passed : (run (retries hashing) anyStep (started cardPayment 0) (begins 0 none "return-0" ++ reserves 0 ++ finishes 0 100)).any
      (fun s => completedIn s 0 (·.amount == none) && (s.ledger.parties 1).isNone && (remaining s.ledger.payment == 0 &&
        !refundable s.ledger.payment.status)) = true := by decide +kernel
  obtain ⟨s,path,found⟩ := run_reaches (started_initial ⟨rfl,rfl,by decide⟩ 0) passed
  simp only [Bool.and_eq_true,beq_iff_eq,Bool.not_eq_true',Option.isNone_iff_eq_none] at found
  obtain ⟨⟨found,fresh⟩,left,closed⟩ := found
  obtain ⟨provider,input,refund,record,completed,whole⟩ := completedIn_found found
  refine ⟨s,provider,input,refund,record,path,completed,fresh,beq_iff_eq.mp whole,left,?_⟩
  intro replays
  obtain ⟨t,onward,answered⟩ := replays.once
  have repeatable := answered_repeatable (by simp [hashing]) path completed fresh onward answered
  cases closed.symm.trans repeatable.status

end Schedules

end Payable.Refunds
