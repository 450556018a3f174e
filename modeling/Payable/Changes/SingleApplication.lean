import Payable.Changes.Application
import Payable.Idempotency.Reserved

namespace Payable.Changes
open Domain Runs Tables
open Subscriptions (Commit Store Subscription listBySubscription)

def isSent (s : State) (previewToken : String) : Bool := s.sent.any (·.previewToken == previewToken)

-- A check of a preview that was applied before finds other items than those of the preview.
def spentChanged (deps : Deps) (s : State) : Action → Bool
  | .check caller =>
    match s.applies caller with
    | some ⟨input,.executing application⟩ =>
      !isSent s input.previewToken || !itemsMatchPreview deps s application
    | _ => true
  | _ => true

def SpentChanged (deps : Deps) (s : State) (action : Action) : Prop := spentChanged deps s action = true

instance (deps : Deps) (s : State) (action : Action) : Decidable (SpentChanged deps s action) :=
  inferInstanceAs (Decidable (_ = _))

-- The phases inside of run, between the check and its end.
def Phase.mutates : Phase → Bool
  | .acquiring _ _ | .calling _ _ | .awaiting _ _ | .persisting _ _ _ => true
  | _ => false

def Phase.sends : Phase → Bool
  | .acquiring _ _ | .calling _ _ => true
  | _ => false

-- The phases that only a call of the provider leads to.
def Phase.sentAlready : Phase → Bool
  | .awaiting _ _ | .persisting _ _ _ | .returned _ => true
  | _ => false

def WasSent (sent : List Sent) (previewToken : String) : Prop := ∃ entry ∈ sent, entry.previewToken = previewToken

def spentSlot (deps : Deps) (sent : List Sent) (target : Idempotency.Slot) : Prop :=
  ∃ previewToken, WasSent sent previewToken ∧ target = Idempotency.slot deps.tenantId (applyStorageKey deps previewToken)

structure Once (deps : Deps) (s : State) : Prop where
  reserved : Idempotency.Reserved (spentSlot deps s.sent) s.idempotency
  executions : ∀ caller call, s.idempotency.calls caller = some call →
    ∃ apply key requestHash, s.applies caller = some apply ∧
      call.execution = applyExecution deps apply.input.previewToken key requestHash
  inside : ∀ caller apply, s.applies caller = some apply → apply.phase.mutates = true →
    ∃ call, s.idempotency.calls caller = some call ∧ call.phase = .running
  unsent : ∀ caller apply, s.applies caller = some apply → apply.phase.sends = true → ¬ WasSent s.sent apply.input.previewToken
  sent : ∀ caller apply, s.applies caller = some apply → apply.phase.sentAlready = true → WasSent s.sent apply.input.previewToken
  unique : Keyed Sent.previewToken s.sent

theorem isSent_was {s : State} : isSent s previewToken = true ↔ WasSent s.sent previewToken := by
  simp [isSent,WasSent]

theorem storageKey_injective (same : applyStorageKey deps one = applyStorageKey deps other) : one = other :=
  (String.append_right_inj _).mp same

theorem execution_slot {call : Idempotency.Call Subscription Subscription ApplyError}
    (known : call.execution = applyExecution deps previewToken key requestHash) :
    call.slot = Idempotency.slot deps.tenantId (applyStorageKey deps previewToken) := by
  simp [Idempotency.Call.slot,known,applyExecution,Idempotency.scopedKey]

theorem spent_sent (spent : spentSlot deps sent (Idempotency.slot deps.tenantId (applyStorageKey deps previewToken))) :
    WasSent sent previewToken := by
  obtain ⟨its,was,same⟩ := spent
  have keys : applyStorageKey deps previewToken = applyStorageKey deps its := congrArg Idempotency.Slot.key same
  exact storageKey_injective keys ▸ was

theorem once_reconciled {s : State} (once : Once deps s) (live : s.idempotency.calls caller = some call) :
    Idempotency.Reconciled call.execution := by
  obtain ⟨_,_,_,_,known⟩ := once.executions caller call live
  rw [known]
  exact ⟨rfl,rfl⟩

-- A call of handle begins, or moves on with its input.
theorem once_set {s : State} {next : Phase} (once : Once deps s)
    (kept : ∀ apply, s.applies caller = some apply → apply.input = input)
    (inside : next.mutates = true → ∃ call, s.idempotency.calls caller = some call ∧ call.phase = .running)
    (unsent : next.sends = true → ¬ WasSent s.sent input.previewToken)
    (sent : next.sentAlready = true → WasSent s.sent input.previewToken) : Once deps (s.put caller ⟨input,next⟩) := by
  have moved : ∀ other apply, (s.put caller ⟨input,next⟩).applies other = some apply →
      other = caller ∧ apply = ⟨input,next⟩ ∨ s.applies other = some apply := by
    intro other apply there
    by_cases same : other = caller
    · subst same
      exact .inl ⟨rfl,(Option.some.inj ((Function.update_self other _ s.applies).symm.trans there)).symm⟩
    · exact .inr ((Function.update_of_ne same _ _).symm.trans there)
  refine ⟨once.reserved,?_,?_,?_,?_,once.unique⟩
  · intro other call there
    obtain ⟨apply,key,requestHash,its,known⟩ := once.executions other call there
    by_cases same : other = caller
    · subst same
      exact ⟨_,key,requestHash,Function.update_self _ _ _,kept apply its ▸ known⟩
    · exact ⟨apply,key,requestHash,(Function.update_of_ne same _ _).trans its,known⟩
  · intro other apply there mutates
    rcases moved other apply there with ⟨rfl,rfl⟩ | old
    · exact inside mutates
    · exact once.inside other apply old mutates
  · intro other apply there sends
    rcases moved other apply there with ⟨rfl,rfl⟩ | old
    · exact unsent sends
    · exact once.unsent other apply old sends
  · intro other apply there already
    rcases moved other apply there with ⟨rfl,rfl⟩ | old
    · exact sent already
    · exact once.sent other apply old already

theorem once_put {s : State} {next : Phase} (once : Once deps s) (live : s.applies caller = some ⟨input,phase⟩)
    (inside : next.mutates = true → ∃ call, s.idempotency.calls caller = some call ∧ call.phase = .running)
    (unsent : next.sends = true → ¬ WasSent s.sent input.previewToken)
    (sent : next.sentAlready = true → WasSent s.sent input.previewToken) : Once deps (s.put caller ⟨input,next⟩) := by
  refine once_set once ?_ inside unsent sent
  intro apply there
  cases live.symm.trans there
  rfl

theorem once_idle {s : State} {next : Phase} (once : Once deps s) (live : s.applies caller = some ⟨input,phase⟩)
    (mutates : next.mutates = false) (sends : next.sends = false) (already : next.sentAlready = false) :
    Once deps (s.put caller ⟨input,next⟩) :=
  once_put once live (by simp [mutates]) (by simp [sends]) (by simp [already])

theorem once_subscriptions {s : State} (once : Once deps s) (subscriptions : Subscriptions.State)
    (previews : String → Option SubscriptionChangePreview) :
    Once deps {s with subscriptions := subscriptions,previews := previews} :=
  ⟨once.reserved,once.executions,once.inside,once.unsent,once.sent,once.unique⟩

-- A call of execute moves on, the records with it.
theorem once_moved {s : State} {call : Idempotency.Call Subscription Subscription ApplyError}
    {rows : Idempotency.Rows Subscription} {phase : Idempotency.Phase Subscription Subscription ApplyError}
    (once : Once deps s) (live : s.idempotency.calls caller = some call)
    (reserved : Idempotency.Reserved (spentSlot deps s.sent)
      {s.idempotency.put caller {call with phase := phase} with rows := rows})
    (outside : ∀ apply, s.applies caller = some apply → apply.phase.mutates = false) :
    Once deps (s.withIdempotency {s.idempotency.put caller {call with phase := phase} with rows := rows}) := by
  refine ⟨reserved,?_,?_,once.unsent,once.sent,once.unique⟩
  · intro other its there
    by_cases same : other = caller
    · subst same
      cases Option.some.inj ((Idempotency.put_self s.idempotency).symm.trans there)
      exact once.executions other call live
    · exact once.executions other its ((Idempotency.put_other s.idempotency same).symm.trans there)
  · intro other apply there mutates
    by_cases same : other = caller
    · subst same
      rw [outside apply there] at mutates
      cases mutates
    · obtain ⟨its,before,runs⟩ := once.inside other apply there mutates
      exact ⟨its,(Idempotency.put_other s.idempotency same).trans before,runs⟩

theorem once_outside {s : State} (once : Once deps s) (live : s.idempotency.calls caller = some call)
    (waiting : call.phase ≠ .running) : ∀ apply, s.applies caller = some apply → apply.phase.mutates = false := by
  intro apply there
  by_contra mutates
  obtain ⟨its,here,runs⟩ := once.inside caller apply there (by simpa using mutates)
  cases live.symm.trans here
  exact waiting runs

theorem once_store {s : State} (once : Once deps s)
    (moved : Idempotency.advance some s.idempotency (.store caller .none) = some idempotency) :
    Once deps (s.withIdempotency idempotency) := by
  have step := Idempotency.advance_step moved
  have reserved := Idempotency.reserved_preserved once.reserved (fun _ _ => once_reconciled once)
    (by intro _ _ same; cases same; rfl) (by intro _ _ _ same; cases same) step
  cases step with
  | store live did => exact once_moved once live reserved (once_outside once live (Idempotency.stored_idle did))

theorem once_compute {s : State} (once : Once deps s)
    (moved : Idempotency.advance some s.idempotency (.compute caller) = some idempotency) :
    Once deps (s.withIdempotency idempotency) := by
  have step := Idempotency.advance_step moved
  have reserved := Idempotency.reserved_preserved once.reserved (fun _ _ => once_reconciled once)
    (by intro _ _ same; cases same) (by intro _ _ _ same; cases same) step
  cases step with
  | compute live did => exact once_moved once live reserved (once_outside once live (Idempotency.localStep_waiting did))

-- run settles; it has returned only if the provider was called.
theorem once_settle {s : State} {outcome : Except ApplyError Subscription} (once : Once deps s)
    (there : s.applies caller = some apply) (over_ : apply.phase.mutates = false)
    (called : ∀ value, outcome = .ok value → WasSent s.sent apply.input.previewToken)
    (moved : Idempotency.advance some s.idempotency (.settle caller outcome) = some idempotency) :
    Once deps (s.withIdempotency idempotency) := by
  have step := Idempotency.advance_step moved
  have reserved := Idempotency.reserved_preserved once.reserved (fun _ _ => once_reconciled once)
    (by intro _ _ same; cases same) (by
      intro other value call same live
      cases same
      obtain ⟨its,key,requestHash,its_,known⟩ := once.executions _ call live
      cases there.symm.trans its_
      exact ⟨_,called value rfl,execution_slot known⟩) step
  cases step with
  | settle live did =>
      refine once_moved once live reserved ?_
      intro its its_
      cases there.symm.trans its_
      exact over_

theorem once_begin {s : State} (once : Once deps s) (there : s.applies caller = some apply)
    (outside : apply.phase.mutates = false)
    (moved : Idempotency.advance some s.idempotency
      (.begin caller service (applyExecution deps apply.input.previewToken key requestHash)) = some idempotency) :
    Once deps (s.withIdempotency idempotency) := by
  have step := Idempotency.advance_step moved
  have reserved := Idempotency.reserved_preserved once.reserved (fun _ _ => once_reconciled once)
    (by intro _ _ same; cases same) (by intro _ _ _ same; cases same) step
  cases step with
  | begin fresh =>
      refine ⟨reserved,?_,?_,once.unsent,once.sent,once.unique⟩
      · intro other call live
        by_cases same : other = caller
        · subst same
          cases Option.some.inj ((Idempotency.put_self s.idempotency).symm.trans live)
          exact ⟨apply,key,requestHash,there,rfl⟩
        · exact once.executions other call ((Idempotency.put_other s.idempotency same).symm.trans live)
      · intro other its its_ mutates
        by_cases same : other = caller
        · subst same
          cases there.symm.trans its_
          rw [outside] at mutates
          cases mutates
        · obtain ⟨call,before,runs⟩ := once.inside other its its_ mutates
          exact ⟨call,(Idempotency.put_other s.idempotency same).trans before,runs⟩

theorem once_begun {s next : State} (once : Once deps s) (live : s.applies caller = some ⟨input,.beginning application⟩)
    (moved : begin deps s caller input application = some next) : Once deps next := by
  dsimp only [begin] at moved
  split at moved
  · cases moved
    exact once_idle once live rfl rfl rfl
  · split at moved
    · cases moved
      exact once_idle once live rfl rfl rfl
    · split at moved
      · cases moved
        exact once_idle once live rfl rfl rfl
      · obtain ⟨idempotency,began,same⟩ := Option.map_eq_some_iff.mp moved
        cases same
        have put : Once deps (s.put caller ⟨input,.executing application⟩) := once_idle once live rfl rfl rfl
        exact once_begin put (Function.update_self _ _ _) rfl began

theorem spentSlot_grows (deps : Deps) (sent : List Sent) (entry : Sent) (target : Idempotency.Slot)
    (spent : spentSlot deps sent target) : spentSlot deps (sent ++ [entry]) target := by
  obtain ⟨previewToken,⟨its,member,same⟩,here⟩ := spent
  exact ⟨previewToken,⟨its,List.mem_append_left _ member,same⟩,here⟩

-- Until a preview is sent its record lets one call in.
theorem once_alone {s : State} (once : Once deps s) (one : s.applies first = some a) (sends : a.phase.sends = true)
    (other : s.applies second = some b) (sends' : b.phase.sends = true)
    (same : a.input.previewToken = b.input.previewToken) : first = second := by
  have mutates : ∀ phase : Phase, phase.sends = true → phase.mutates = true := by
    intro phase sends
    cases phase <;> first | rfl | cases sends
  obtain ⟨call,live,runs⟩ := once.inside first a one (mutates _ sends)
  obtain ⟨call',live',runs'⟩ := once.inside second b other (mutates _ sends')
  obtain ⟨its,key,requestHash,its_,known⟩ := once.executions first call live
  cases one.symm.trans its_
  obtain ⟨its',key',requestHash',its_',known'⟩ := once.executions second call' live'
  cases other.symm.trans its_'
  refine once.reserved.alone live runs live' runs' ?_ ?_
  · rw [execution_slot known,execution_slot known',same]
  · rw [execution_slot known]
    exact fun spent => once.unsent first a one sends (spent_sent spent)

-- The provider is called: the preview was not sent before, and nobody else is about to.
theorem once_called {s : State} (once : Once deps s)
    (live : s.applies caller = some ⟨input,.calling application ownerToken⟩) (its : entry.previewToken = input.previewToken) :
    Once deps {s.put caller ⟨input,.awaiting application ownerToken⟩ with sent := s.sent ++ [entry]} := by
  have was : WasSent (s.sent ++ [entry]) input.previewToken := ⟨entry,by simp,its⟩
  have grows : ∀ previewToken, WasSent s.sent previewToken → WasSent (s.sent ++ [entry]) previewToken := by
    intro previewToken ⟨old,member,same⟩
    exact ⟨old,List.mem_append_left _ member,same⟩
  refine ⟨once.reserved.weaken (spentSlot_grows deps s.sent entry),?_,?_,?_,?_,?_⟩
  · intro other call there
    obtain ⟨apply,key,requestHash,here,known⟩ := once.executions other call there
    by_cases same : other = caller
    · subst same
      cases live.symm.trans here
      exact ⟨_,key,requestHash,Function.update_self _ _ _,known⟩
    · exact ⟨apply,key,requestHash,(Function.update_of_ne same _ _).trans here,known⟩
  · intro other apply there mutates
    by_cases same : other = caller
    · subst same
      exact once.inside other _ live rfl
    · exact once.inside other apply ((Function.update_of_ne same _ _).symm.trans there) mutates
  · intro other apply there sends
    by_cases same : other = caller
    · subst same
      cases (Function.update_self other _ s.applies).symm.trans there
      cases sends
    · have old := (Function.update_of_ne same _ _).symm.trans there
      rintro ⟨late,member,token⟩
      rcases List.mem_append.mp member with before | new
      · exact once.unsent other apply old sends ⟨late,before,token⟩
      · cases List.mem_singleton.mp new
        exact same (once_alone once old sends live rfl (token.symm.trans its))
  · intro other apply there already
    by_cases same : other = caller
    · subst same
      cases (Function.update_self other _ s.applies).symm.trans there
      exact was
    · exact grows _ (once.sent other apply ((Function.update_of_ne same _ _).symm.trans there) already)
  · refine keyed_append once.unique ?_
    intro old member same
    exact once.unsent caller _ live rfl ⟨old,member,same.trans its⟩

-- What a step does where it commits a transaction.
theorem commits_cases (s : State) (caller : Nat) (input : ApplyInput) (commit : Commit)
    (ran : Except Migrations.MigrationError (Store × Phase)) (threw : Migrations.MigrationError → Phase) (lost : Phase) :
    (∃ phase, commits s caller input commit ran threw lost = s.put caller ⟨input,phase⟩ ∧
        (phase = lost ∨ ∃ error, phase = threw error)) ∨
      ∃ store next, ran = .ok (store,next) ∧
        (commits s caller input commit ran threw lost = (s.put caller ⟨input,next⟩).withStore store ∨
          commits s caller input commit ran threw lost = (s.put caller ⟨input,lost⟩).withStore store) := by
  cases ran with
  | error error => exact .inl ⟨threw error,rfl,.inr ⟨error,rfl⟩⟩
  | ok result =>
      obtain ⟨store,next⟩ := result
      cases commit with
      | committed => exact .inr ⟨store,next,rfl,.inl rfl⟩
      | rolledBack => exact .inl ⟨lost,rfl,.inl rfl⟩
      | unacknowledged => exact .inr ⟨store,next,rfl,.inr rfl⟩

theorem once_committed {s : State} (once : Once deps s) (live : s.applies caller = some ⟨input,phase⟩)
    (done : ∀ store next, ran = .ok (store,next) → Once deps (s.put caller ⟨input,next⟩))
    (thrown : ∀ next, next = lost ∨ (∃ error, next = threw error) →
      next.mutates = false ∧ next.sends = false ∧ next.sentAlready = false) :
    Once deps (commits s caller input commit ran threw lost) := by
  have idle : ∀ next, next = lost ∨ (∃ error, next = threw error) → Once deps (s.put caller ⟨input,next⟩) := by
    intro next its
    obtain ⟨mutates,sends,already⟩ := thrown next its
    exact once_idle once live mutates sends already
  rcases commits_cases s caller input commit ran threw lost with ⟨next,same,its⟩ | ⟨store,next,ok,same | same⟩ <;> rw [same]
  · exact idle next its
  · exact once_subscriptions (done store next ok) _ _
  · exact once_subscriptions (idle lost (.inl rfl)) _ _

theorem read_idle {s : State} {phase next : Phase} (read : phase.read deps s input migrating = some next) :
    next.mutates = false ∧ next.sends = false ∧ next.sentAlready = false := by
  cases phase with
  | loading | resolving | binding | checkingClaim | checkingMigration =>
      cases read
      refine ⟨?_,?_,?_⟩ <;> split <;> rfl
  | beginning | executing | acquiring | calling | awaiting | persisting | returned | thrown | crashed => cases read

-- A crash takes the call of handle and its call of execute.
theorem once_crash {s next : State} (once : Once deps s) (moved : advance deps s (.crash caller) = some next) :
    Once deps next := by
  simp only [advance,Option.bind_eq_bind,Option.bind_eq_some_iff] at moved
  obtain ⟨⟨input,phase⟩,live,same⟩ := moved
  have put : Once deps (s.put caller ⟨input,.crashed⟩) := once_idle once live rfl rfl rfl
  cases begun : s.idempotency.calls caller with
  | none =>
      simp only [Idempotency.advance,begun,Option.bind_eq_bind,Option.bind_none,Option.getD_none] at same
      cases same
      exact put
  | some call =>
      simp only [Idempotency.advance,begun,Option.bind_eq_bind,Option.bind_some,Option.getD_some] at same
      cases same
      have crashed : Idempotency.Step some s.idempotency (.crash caller : Idempotency.Action Subscription ApplyError)
          (s.idempotency.put caller {call with phase := .crashed}) := .crash begun
      have reserved := Idempotency.reserved_preserved put.reserved (fun _ _ => once_reconciled put)
        (by intro _ _ same; cases same) (by intro _ _ _ same; cases same) crashed
      refine once_moved put begun reserved ?_
      intro its there
      cases (Function.update_self caller _ s.applies).symm.trans there
      rfl

theorem once_checked {s : State} (once : Once deps s) (live : s.applies caller = some ⟨input,.executing application⟩)
    (inside : running s caller = true) (changed : SpentChanged deps s (.check caller)) :
    Once deps (s.put caller ⟨input,checked deps s application⟩) := by
  unfold checked
  split
  · rename_i fits
    refine once_put once live (fun _ => Idempotency.isRunning_call inside) ?_ (by simp [Phase.sentAlready])
    intro _ was
    simp only [SpentChanged,spentChanged,live,fits,isSent_was.mpr was] at changed
    cases changed
  · exact once_idle once live rfl rfl rfl

theorem once_acquired {s : State} {subscriptions : Subscriptions.State} (once : Once deps s)
    (live : s.applies caller = some ⟨input,.acquiring application items⟩) :
    Once deps (commits {s with subscriptions := subscriptions} caller input commit (acquired deps s application ownerToken uuid)
      (fun error => .thrown (.mutation error)) (.thrown .storage)) := by
  have drawn : Once deps {s with subscriptions := subscriptions} := once_subscriptions once _ _
  refine once_committed drawn live ?_ ?_
  · intro store next ran
    simp only [acquired,Checked.bind_ok,Checked.pure_ok] at ran
    obtain ⟨_,_,same⟩ := ran
    cases same
    exact once_put drawn live (fun _ => once.inside caller _ live rfl) (fun _ => once.unsent caller _ live rfl)
      (by simp [Phase.sentAlready])
  · rintro next (rfl | ⟨error,rfl⟩) <;> exact ⟨rfl,rfl,rfl⟩

theorem once_persisted {s : State} (once : Once deps s)
    (live : s.applies caller = some ⟨input,.persisting application ownerToken providerStatus⟩) :
    Once deps (commits s caller input commit (persisted deps s application ownerToken providerStatus)
      (fun _ => ambiguous) ambiguous) := by
  refine once_committed once live ?_ ?_
  · intro store next ran
    simp only [persisted,Checked.bind_ok,Checked.pure_ok] at ran
    obtain ⟨_,_,same⟩ := ran
    cases same
    exact once_put once live (by simp [Phase.mutates]) (by simp [Phase.sends]) (fun _ => once.sent caller _ live rfl)
  · rintro next (rfl | ⟨error,rfl⟩) <;> exact ⟨rfl,rfl,rfl⟩

theorem once_preserved {s next : State} (once : Once deps s) (changed : SpentChanged deps s action)
    (moved : advance deps s action = some next) : Once deps next := by
  cases action with
  | mutate action =>
      simp only [advance] at moved
      split at moved
      · obtain ⟨subscriptions,_,rfl⟩ := Option.map_eq_some_iff.mp moved
        exact once_subscriptions once _ _
      · cases moved
  | preview previewToken subscription items input calculatedAt =>
      simp only [advance] at moved
      split at moved
      · obtain ⟨preview,_,rfl⟩ := Option.map_eq_some_iff.mp moved
        exact once_subscriptions once _ _
      · cases moved
  | handle caller input =>
      simp only [advance] at moved
      split at moved
      · cases moved
      · rename_i fresh
        cases moved
        exact once_set once (by simp [fresh]) (by simp [Phase.mutates]) (by simp [Phase.sends]) (by simp [Phase.sentAlready])
  | read caller migrating =>
      simp only [advance,Option.bind_eq_bind,Option.bind_eq_some_iff] at moved
      obtain ⟨⟨input,phase⟩,live,after,read,same⟩ := moved
      cases same
      obtain ⟨mutates,sends,already⟩ := read_idle read
      exact once_idle once live mutates sends already
  | begin caller =>
      simp only [advance] at moved
      split at moved
      · rename_i live
        exact once_begun once live moved
      · cases moved
  | store caller =>
      obtain ⟨idempotency,did,rfl⟩ := Option.map_eq_some_iff.mp moved
      exact once_store once did
  | compute caller =>
      obtain ⟨idempotency,did,rfl⟩ := Option.map_eq_some_iff.mp moved
      exact once_compute once did
  | check caller =>
      simp only [advance] at moved
      split at moved
      · rename_i live
        split at moved
        · rename_i inside
          cases moved
          exact once_checked once live inside changed
        · cases moved
      · cases moved
  | acquire caller ownerToken uuid commit =>
      simp only [advance] at moved
      split at moved
      · rename_i live
        split at moved <;> cases moved
        exact once_acquired once live
      · cases moved
  | call caller =>
      simp only [advance] at moved
      split at moved <;> cases moved
      rename_i live
      exact once_called once live rfl
  | replied caller providerStatus =>
      simp only [advance] at moved
      split at moved <;> cases moved
      rename_i live
      cases providerStatus with
      | none => exact once_idle once live rfl rfl rfl
      | some providerStatus =>
          exact once_put once live (fun _ => once.inside caller _ live rfl) (by simp [Phase.sends])
            (fun _ => once.sent caller _ live rfl)
  | persist caller commit =>
      simp only [advance] at moved
      split at moved <;> cases moved
      rename_i live
      exact once_persisted once live
  | settle caller =>
      simp only [advance] at moved
      split at moved
      · rename_i live
        obtain ⟨idempotency,did,rfl⟩ := Option.map_eq_some_iff.mp moved
        exact once_settle once live rfl (fun _ _ => once.sent caller _ live rfl) did
      · rename_i live
        obtain ⟨idempotency,did,rfl⟩ := Option.map_eq_some_iff.mp moved
        exact once_settle once live rfl (by intro _ same; cases same) did
      · cases moved
  | crash caller => exact once_crash once moved
  | tick elapsed =>
      cases moved
      exact ⟨⟨once.reserved.rows,once.reserved.calls⟩,once.executions,once.inside,once.unsent,once.sent,once.unique⟩

theorem reached_once {s : State} (path : Reached (system deps) (SpentChanged deps) s) : Once deps s := by
  refine path.invariant (Once deps) ?_ ?_
  · intro u ⟨_,_,⟨now,empty_⟩,_,idle,unsent⟩
    refine ⟨⟨?_,?_⟩,?_,?_,?_,?_,?_⟩
    · intro target row _ stored
      rw [empty_] at stored
      cases stored
    · intro caller call live
      rw [empty_] at live
      cases live
    · intro caller call live
      rw [empty_] at live
      cases live
    · simp [idle]
    · simp [idle]
    · simp [idle]
    · rw [unsent]
      exact List.nodup_nil
  · intro u action next _ once changed moved
    exact once_preserved once changed moved

-- However many calls name a preview, the provider is called for it once.
theorem sent_once {s : State} (path : Reached (system deps) (SpentChanged deps) s) (previewToken : String) :
    (s.sent.filter (·.previewToken == previewToken)).length ≤ 1 := by
  apply keyed_alone (reached_once path).unique
  intro one _ other _ same same'
  exact (beq_iff_eq.mp same).trans (beq_iff_eq.mp same').symm

end Payable.Changes
