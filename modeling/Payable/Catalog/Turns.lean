import Payable.Catalog.Interleavings

namespace Payable.Catalog
open Runs

variable {deps : CatalogDependencies}

-- The remote product that a worker has been given and has yet to account for.
def Call.booking : Call → Option String
  | .worker (.committing _ _ remote false) | .worker (.remembering _ remote _) | .worker (.reporting _ remote _) =>
    some remote.providerProductId
  | _ => none

section Inversion

variable (deps : CatalogDependencies) (s : State)

-- Everything one step of a call can do: the call before it, how what it awaits ends, what
-- it changes outside itself, and the call after it.
inductive Turn : Call → Reply → Effect → Call → Prop where
  | stops (free : call.booking = none) : Turn call reply .nothing .finished
  | asks : Turn (.requester (.product dependent)) .returned .nothing (.requester (.binding dependent s.product))
  | looks : Turn (.requester (.binding dependent product)) .returned .nothing (.requester (.existing dependent product s.binding))
  | ensures : Turn (.requester (.existing true product binding)) .returned .nothing (ensure deps product s.row)
  | requests : Turn (.requester (.existing false product binding)) .returned .nothing (request deps product binding s.row)
  | keeps (there : s.row = some existing) (kept : keeps data existing = true) :
      Turn (.requester (.reading data)) .returned .nothing (.requester (.recording existing))
  | prepares (newer : ∀ existing, s.row = some existing → Catalog.keeps data existing = false) :
      Turn (.requester (.reading data)) .returned .nothing (.requester (.writing data s.row))
  | writes (written : writeGeneration s.row existing data (deps.randomUUID s.books.outbox.length) = some row) :
      Turn (.requester (.writing data existing)) .returned (.write row) .finished
  | loops (missed : writeGeneration s.row existing data (deps.randomUUID s.books.outbox.length) = none) :
      Turn (.requester (.writing data existing)) .returned .nothing (.requester (.reading data))
  | records : Turn (.requester (.recording saved)) .returned (.record saved) .finished
  | finds (there : s.row = some row) (version : row.canonicalVersion = canonicalVersion) (key : row.idempotencyKey = idempotencyKey) :
      Turn (.worker (.looking canonicalVersion idempotencyKey)) .returned .nothing (.worker (.product row))
  | draws (version : s.product.updatedAt = row.canonicalVersion) (fresh : ownerId ∉ s.owners)
      (made : claim = ⟨row.canonicalVersion,row.idempotencyKey,s.now,ownerId,s.now + catalogSyncLeaseMs⟩) :
      Turn (.worker (.product row)) (.drawn ownerId) (.draw ownerId) (.worker
        (if deps.capabilities.catalogIdempotency then .claiming claim s.product else .expiring claim s.product))
  | expires : Turn (.worker (.expiring claim product)) .returned (.expire claim) (.worker (.claiming claim product))
  | takes (taken : takeClaim deps.capabilities.catalogIdempotency s.row claim = some row) :
      Turn (.worker (.claiming claim product)) .returned (.take row) (.worker (.verifying claim product))
  | verifies (read : readClaim s.row claim = some claimed) :
      Turn (.worker (.verifying claim product)) .returned .nothing (.worker (proceed deps claimed product))
  | skips : Turn (.worker (.skipping claimed)) .returned (transition s claimed skipPatch) .finished
  | binds (bound : s.binding = some bound') :
      Turn (.worker (.recovering claimed product reference)) .returned .nothing (.worker (.calling claimed product))
  | recovers (unbound : s.binding = none) : Turn (.worker (.recovering claimed product reference)) .returned .nothing
      (.worker (.committing claimed product ⟨reference,claimed.providerResourceVersion⟩ true))
  | answers (mutated : mutate deps s claimed product fresh version = some provision) :
      Turn (.worker (.calling claimed product)) (.answered fresh version) (.provide provision (newlyCreated claimed provision.providerProductId))
        (.worker (.committing claimed product ⟨provision.providerProductId,version⟩ false))
  | loses (mutated : mutate deps s claimed product fresh version = some provision) :
      Turn (.worker (.calling claimed product)) (.lost fresh version code) (.provide provision []) (.worker (.failing claimed code))
  | throws : Turn (.worker (.calling claimed product)) (.threw code) .nothing (.worker (.failing claimed code))
  | commits (current : fenced s claimed (succeedPatch s remote) = some row) :
      Turn (.worker (.committing claimed product remote recovered)) .returned (.commit row remote.providerProductId) .finished
  | stale (superseded : fenced s claimed (succeedPatch s remote) = none) :
      Turn (.worker (.committing claimed product remote false)) .returned .nothing (.worker (.remembering claimed remote true))
  | uncommitted : Turn (.worker (.committing claimed product remote false)) (.threw code) .nothing (.worker (.remembering claimed remote false))
  | remembers : Turn (.worker (.remembering claimed remote late)) .returned (transition s claimed (rememberPatch deps remote))
      (.worker (.reporting claimed remote late))
  | forgets : Turn (.worker (.remembering claimed remote late)) (.threw code) .nothing (.worker (.reporting claimed remote late))
  | reports : Turn (.worker (.reporting claimed remote late)) .returned (.report claimed remote)
      (if late then .finished else .worker (.failing claimed "CATALOG_SYNC_LOCAL_PERSISTENCE_FAILED"))
  | unreported : Turn (.worker (.reporting claimed remote late)) (.threw code) .nothing
      (if late then .finished else .worker (.failing claimed "CATALOG_SYNC_LOCAL_PERSISTENCE_FAILED"))
  | fails : Turn (.worker (.failing claimed code)) .returned (transition s claimed (failPatch deps code)) .finished
  | reconciles : Turn (.reconciler (.product source)) .returned .nothing (.reconciler (.binding source s.product))
  | resolves : Turn (.reconciler (.binding source product)) .returned .nothing (.reconciler (.existing source product s.binding))
  | retrieves (there : s.row = some row) :
      Turn (.reconciler (.existing source product (some reference))) .returned .nothing (.reconciler (.retrieving source product reference row))
  | unreadable (there : s.row = some row) :
      Turn (.reconciler (.existing source product (some reference))) .returned .nothing (.reconciler (.transitioning source row .unsupported))
  | compares : Turn (.reconciler (.retrieving source product reference row)) reply .nothing
      (.reconciler (.transitioning source row reconciliation))
  | settles {read : CatalogSynchronization} (updated :
      updateIfCurrent s.row read.canonicalVersion read.idempotencyKey reconciliation.patch none none = some row) :
      Turn (.reconciler (.transitioning source read reconciliation)) .returned (.move row (some source)) .finished
  | rereads (there : s.row = some row) : Turn (.retrier .reading) .returned .nothing (.retrier (.retrying row))
  | retries (updated : updateIfCurrent s.row existing.canonicalVersion existing.idempotencyKey (retryPatch existing) none
      (some [.failed,.skipped]) = some row) : Turn (.retrier (.retrying existing)) .returned (.move row none) .finished

theorem ensure_cases (product : CanonicalProduct) (existing : Option CatalogSynchronization) :
    ensure deps product existing = .finished ∨
      ensure deps product existing = .requester (.reading (ensureData deps product.updatedAt existing)) := by
  simp only [ensure]
  split
  · exact .inl rfl
  · exact .inr rfl

theorem request_cases (product : CanonicalProduct) (binding : Option String) (existing : Option CatalogSynchronization) :
    request deps product binding existing = .finished ∨
      (∀ row, existing = some row → row.reconciliationState ≠ .required) ∧ request deps product binding existing =
        .requester (.reading (requestData deps (productOperation binding.isSome product.active existing) product.updatedAt
          (binding.or (existing.bind (·.providerResourceId))) existing)) := by
  simp only [request]
  split
  · exact .inl rfl
  · rename_i unrequired
    split
    · exact .inl rfl
    · refine .inr ⟨fun row there required => unrequired ?_,rfl⟩
      simp [there,required]

theorem requestTurn_exact (moved : requestTurn deps s phase = some (effect,call)) : Turn deps s (.requester phase) .returned effect call := by
  cases phase with
  | product dependent => cases moved; exact .asks
  | binding dependent product =>
      simp only [requestTurn] at moved
      split at moved <;> cases moved
      · exact .stops rfl
      · exact .looks
  | existing dependent product binding =>
      cases moved
      cases dependent with
      | false => exact .requests
      | true => exact .ensures
  | reading data =>
      simp only [requestTurn] at moved
      split at moved
      · rename_i existing there
        split at moved <;> cases moved
        · rename_i kept
          exact .keeps there kept
        · rename_i newer
          rw [← there]
          exact .prepares fun other its => by simpa [Option.some.inj (its.symm.trans there)] using newer
      · rename_i none_yet
        cases moved
        rw [← none_yet]
        exact .prepares fun other its => by rw [none_yet] at its; cases its
  | writing data existing =>
      simp only [requestTurn] at moved
      split at moved <;> cases moved
      · rename_i row written
        exact .writes written
      · rename_i missed
        exact .loops missed
  | recording saved => cases moved; exact .records

theorem workTurn_exact (moved : workTurn deps s phase reply = some (effect,call)) : Turn deps s (.worker phase) reply effect call := by
  unfold workTurn at moved
  split at moved
  case h_1 =>
    split at moved
    · rename_i row there
      split at moved <;> cases moved
      · exact .stops rfl
      · rename_i matched
        simp only [not_or,not_not] at matched
        exact .finds there matched.2.1 matched.2.2
    · cases moved; exact .stops rfl
  case h_2 =>
    split at moved
    · cases moved; exact .stops rfl
    · rename_i current
      simp only [not_or,not_not] at current
      split at moved
      · cases moved
      · rename_i fresh
        cases moved
        exact .draws current.1 fresh rfl
  case h_3 => cases moved; exact .expires
  case h_4 =>
    split at moved <;> cases moved
    · rename_i row taken
      exact .takes taken
    · exact .stops rfl
  case h_5 =>
    split at moved <;> cases moved
    · rename_i claimed read
      exact .verifies read
    · exact .stops rfl
  case h_6 => cases moved; exact .skips
  case h_7 =>
    cases moved
    cases bound : s.binding with
    | none => exact .recovers bound
    | some id => exact .binds bound
  case h_8 =>
    obtain ⟨provision,mutated,same⟩ := Option.map_eq_some_iff.mp moved
    cases same
    exact .answers mutated
  case h_9 =>
    obtain ⟨provision,mutated,same⟩ := Option.map_eq_some_iff.mp moved
    cases same
    exact .loses mutated
  case h_10 => cases moved; exact .throws
  case h_11 recovered =>
    split at moved <;> cases moved
    · rename_i row current
      exact .commits current
    · rename_i superseded
      cases recovered with
      | false => exact .stale superseded
      | true => exact .stops rfl
  case h_12 recovered _ =>
    cases moved
    cases recovered with
    | false => exact .uncommitted
    | true => exact .stops rfl
  case h_13 => cases moved; exact .remembers
  case h_14 => cases moved; exact .forgets
  case h_15 => cases moved; exact .reports
  case h_16 => cases moved; exact .unreported
  case h_17 => cases moved; exact .fails
  case h_18 => cases moved

theorem reconcileTurn_exact (moved : reconcileTurn deps s phase reply = some (effect,call)) :
    Turn deps s (.reconciler phase) reply effect call := by
  unfold reconcileTurn at moved
  split at moved
  case h_1 => cases moved; exact .reconciles
  case h_2 => cases moved; exact .resolves
  case h_3 =>
    split at moved
    · rename_i reference row there
      split at moved <;> cases moved
      · exact .retrieves there
      · exact .unreadable there
    · cases moved; exact .stops rfl
  case h_4 => cases moved; exact .compares
  case h_5 => cases moved; exact .compares
  case h_6 =>
    split at moved <;> cases moved
    · rename_i row updated
      exact .settles updated
    · exact .stops rfl
  case h_7 => cases moved

theorem retryTurn_exact (moved : retryTurn s phase = some (effect,call)) : Turn deps s (.retrier phase) .returned effect call := by
  cases phase with
  | reading =>
      simp only [retryTurn] at moved
      split at moved
      · rename_i row there
        split at moved <;> cases moved
        · exact .stops rfl
        · exact .rereads there
      · cases moved; exact .stops rfl
  | retrying existing =>
      simp only [retryTurn] at moved
      split at moved <;> cases moved
      · rename_i row updated
        exact .retries updated
      · exact .stops rfl

theorem turn_exact (moved : turn deps s call reply = some (effect,call')) : Turn deps s call reply effect call' := by
  unfold turn at moved
  split at moved
  · exact requestTurn_exact deps s moved
  · exact workTurn_exact deps s moved
  · exact reconcileTurn_exact deps s moved
  · exact retryTurn_exact deps s moved
  · cases moved

end Inversion

theorem reply_exact {s t : State} (moved : advance deps s (.reply caller reply) = some t) :
    ∃ effect call, Turn deps s (s.calls caller) reply effect call ∧ t = (s.apply deps effect).put caller call := by
  obtain ⟨⟨effect,call⟩,turned,same⟩ := Option.map_eq_some_iff.mp moved
  exact ⟨effect,call,turn_exact deps s turned,same.symm⟩

theorem start_exact {s t : State} (moved : advance deps s (.start caller call) = some t) :
    s.calls caller = .idle ∧ call.starts = true ∧ t = s.put caller call := by
  simp only [advance] at moved
  split at moved
  · rename_i may
    exact ⟨may.1,may.2,(Option.some.inj moved).symm⟩
  · cases moved

section Calls

variable {s : State}

-- The four ways a call begins.
theorem starting (goal : Call → Prop) (starts : call.starts = true) (asks : ∀ dependent, goal (.requester (.product dependent)))
    (looks : ∀ version key, goal (.worker (.looking version key))) (reconciles : ∀ source, goal (.reconciler (.product source)))
    (reads : goal (.retrier .reading)) : goal call := by
  unfold Call.starts at starts
  split at starts
  · exact asks _
  · exact looks _ _
  · exact reconciles _
  · exact reads
  · cases starts

@[simp] theorem apply_calls (s : State) (effect : Effect) : (s.apply deps effect).calls = s.calls := by cases effect <;> rfl

@[simp] theorem put_row (s : State) (caller : Nat) (call : Call) : (s.put caller call).row = s.row := rfl

theorem put_calls (s : State) (caller : Nat) (call : Call) (other : Nat) :
    (s.put caller call).calls other = if other = caller then call else s.calls other := by
  simp [State.put,Function.update_apply]

-- What a step that is not of one's own call leaves of it.
theorem call_kept (moved : advance deps s action = some t) (begun : s.calls caller ≠ .idle)
    (others : ∀ reply, action ≠ .reply caller reply) : t.calls caller = s.calls caller := by
  cases action with
  | elapse | edit | outside => cases moved; rfl
  | start other call =>
      obtain ⟨idle,_,rfl⟩ := start_exact moved
      rw [put_calls,if_neg]
      rintro rfl
      exact begun idle
  | reply other reply =>
      obtain ⟨effect,call,_,rfl⟩ := reply_exact moved
      rw [put_calls,if_neg,apply_calls]
      rintro rfl
      exact others reply rfl

-- A fact of each call, from a step lemma on the call that takes its turn.
theorem calls_step {before after : Call → Prop} (holds : ∀ caller, before (s.calls caller)) (moved : advance deps s action = some t)
    (kept : ∀ call, before call → after call) (starting : ∀ call : Call, call.starts = true → after call)
    (turning : ∀ caller reply effect call, Turn deps s (s.calls caller) reply effect call → t = (s.apply deps effect).put caller call → after call) :
    ∀ caller, after (t.calls caller) := by
  intro caller
  cases action with
  | elapse | edit | outside => cases moved; exact kept _ (holds caller)
  | start other call =>
      obtain ⟨_,starts,rfl⟩ := start_exact moved
      rw [put_calls]
      split
      · exact starting call starts
      · exact kept _ (holds caller)
  | reply other reply =>
      obtain ⟨effect,call,turned,same⟩ := reply_exact moved
      rw [same,put_calls,apply_calls]
      split
      · exact turning other reply effect call turned same
      · exact kept _ (holds caller)

end Calls

section Effects

variable {s : State}

theorem apply_binding (deps : CatalogDependencies) (s : State) (effect : Effect) : (s.apply deps effect).binding = s.binding ∨
    ∃ row id, effect = .commit row id ∧ (s.apply deps effect).binding = some id := by
  cases effect with
  | commit row id => exact .inr ⟨row,id,rfl,rfl⟩
  | _ => exact .inl rfl

theorem turn_report (turned : Turn deps s call reply effect call') (reports : effect = .report claimed remote) :
    reply = .returned ∧ call'.booking = none ∧ ∃ late, call = .worker (.reporting claimed remote late) := by
  cases turned with
  | reports =>
      cases reports
      refine ⟨rfl,?_,_,rfl⟩
      split <;> rfl
  | skips | remembers | fails =>
      unfold transition at reports
      split at reports <;> cases reports
  | _ => cases reports

theorem turn_commit {id : String} (turned : Turn deps s call reply effect call') (commits : effect = .commit row id) :
    reply = .returned ∧ ∃ claimed product remote recovered, call = .worker (.committing claimed product remote recovered) ∧
      fenced s claimed (succeedPatch s remote) = some row ∧ remote.providerProductId = id := by
  cases turned with
  | commits current => cases commits; exact ⟨rfl,_,_,_,_,rfl,current,rfl⟩
  | skips | remembers | fails =>
      unfold transition at commits
      split at commits <;> cases commits
  | _ => cases commits

end Effects

end Payable.Catalog
