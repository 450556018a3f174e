import Payable.Catalog.Generations

namespace Payable.Catalog
open Runs

variable {deps : CatalogDependencies}

def leased (now : Nat) (row : CatalogSynchronization) : Bool := row.status == .processing && row.leaseExpiresAt.any (now < ·)

-- The write of a reconciler that lands on a generation in processing under a lease. What it
-- has read does not decide this: a claim may come between its read and its write.
def intrudes (s : State) : Action → Bool
  | .reply caller _ => match s.calls caller with
    | .reconciler (.transitioning _ read _) =>
      s.row.any fun row => isGeneration read.canonicalVersion read.idempotencyKey row && leased s.now row
    | _ => false
  | _ => false

def Aloof (s : State) (action : Action) : Prop := intrudes s action = false

instance (s : State) (action : Action) : Decidable (Aloof s action) := inferInstanceAs (Decidable (_ = _))

-- The write of a requester that puts a generation on the row.
def rewrites (deps : CatalogDependencies) (s : State) : Action → Bool
  | .reply caller _ => match s.calls caller with
    | .requester (.writing data existing) => (writeGeneration s.row existing data (deps.randomUUID s.books.outbox.length)).isSome
    | _ => false
  | _ => false

def SameGeneration (deps : CatalogDependencies) (s : State) (action : Action) : Prop := rewrites deps s action = false

instance (s : State) (action : Action) : Decidable (SameGeneration deps s action) := inferInstanceAs (Decidable (_ = _))

structure LeaseKept (deps : CatalogDependencies) (allowed : State → Action → Prop) : Prop where
  -- From its claim on, whatever the others do short of asking for another generation.
  commits : ∀ r s t caller reply claim product product' claimed remote recovered, Reached (catalog deps) allowed r →
    r.calls caller = .worker (.claiming claim product) → advance deps r (.reply caller reply) = some s →
      s.calls caller = .worker (.verifying claim product) → Path (catalog deps) (both allowed (SameGeneration deps)) s t →
        t.calls caller = .worker (.committing claimed product' remote recovered) → t.now < claim.leaseExpiresAt →
          ∃ u row, advance deps t (.reply caller .returned) = some u ∧ u.row = some row ∧ row.status = .succeeded ∧
            row.reconciliationState = .inSync ∧ row.canonicalVersion = claim.canonicalVersion ∧
              row.idempotencyKey = claim.idempotencyKey ∧ u.binding = some remote.providerProductId
  undisturbed : ∀ s t caller reply phase row, Reached (catalog deps) allowed s → s.calls caller = .reconciler phase →
    allowed s (.reply caller reply) → advance deps s (.reply caller reply) = some t → s.row = some row →
      leased s.now row = true → t.row = some row
  alone : ∀ s t caller reply claim product row, Reached (catalog deps) allowed s →
    s.calls caller = .worker (.claiming claim product) → advance deps s (.reply caller reply) = some t → s.row = some row →
      leased s.now row = true → t.row = some row ∧ t.calls caller = .finished

section Attempts

-- A claim is never dated ahead, and what a claimant has read bears its owner id.
def Timely (now : Nat) : Call → Prop
  | .worker (.expiring claim _) | .worker (.claiming claim _) => claim.attemptedAt ≤ now
  | .worker (.skipping claimed) | .worker (.recovering claimed _ _) | .worker (.calling claimed _)
  | .worker (.committing claimed _ _ _) | .worker (.remembering claimed _ _) | .worker (.reporting claimed _ _)
  | .worker (.failing claimed _) => claimed.attemptOwnerId ≠ none
  | _ => True

theorem timely_later {call : Call} (holds : Timely now call) (later : now ≤ now') : Timely now' call := by
  unfold Timely at holds ⊢
  split
  · exact Nat.le_trans holds later
  · exact Nat.le_trans holds later
  all_goals first | exact holds | trivial

theorem turn_timely {s : State} (holds : Timely s.now call) (turned : Turn deps s call reply effect call') : Timely s.now call' := by
  cases turned with
  | ensures => rcases ensure_cases deps _ s.row with its | its <;> rw [its] <;> trivial
  | requests => rcases request_cases deps _ _ s.row with its | ⟨_,its⟩ <;> rw [its] <;> trivial
  | draws _ _ made =>
      subst made
      split <;> exact Nat.le_refl _
  | expires => exact holds
  | verifies read =>
      have owned := (readClaim_some read).2.1
      unfold proceed
      split
      · split <;> simp [Timely,owned]
      · simp [Timely,owned]
  | reports | unreported =>
      split
      · trivial
      · exact holds
  | binds | recovers | answers | loses | throws | stale | uncommitted | remembers | forgets => exact holds
  | _ => trivial

theorem timely_claimed {call : Call} (timely : Timely now call) (its : call.claimed = some claimed) :
    ∃ owner, claimed.attemptOwnerId = some owner := by
  unfold Call.claimed at its
  split at its
  all_goals first | (cases its; exact Option.ne_none_iff_exists'.mp timely) | cases its

theorem apply_now (s : State) (effect : Effect) : (s.apply deps effect).now = s.now := by cases effect <;> rfl

theorem step_now {s : State} (moved : advance deps s action = some t) : s.now ≤ t.now := by
  cases action with
  | elapse milliseconds => cases moved; exact Nat.le_add_right ..
  | edit | outside => cases moved; exact Nat.le_refl _
  | start other call =>
      obtain ⟨_,_,rfl⟩ := start_exact moved
      exact Nat.le_refl _
  | reply other reply =>
      obtain ⟨effect,call,_,rfl⟩ := reply_exact moved
      exact Nat.le_of_eq (apply_now s effect).symm

theorem reached_timely (path : Reached (catalog deps) allowed s) : ∀ caller, Timely s.now (s.calls caller) := by
  refine path.invariant (fun s => ∀ caller, Timely s.now (s.calls caller)) ?_ ?_
  · intro u initial caller
    rw [initial.calls caller]
    trivial
  · intro u action next _ holds _ moved
    have later : u.now ≤ next.now := step_now moved
    refine calls_step holds moved (fun call its => timely_later its later) ?_ ?_
    · intro call starts
      exact starting (Timely next.now) starts (fun _ => trivial) (fun _ _ => trivial) (fun _ => trivial) trivial
    · intro caller reply effect call turned _
      exact timely_later (turn_timely (holds caller) turned) later

end Attempts

section Kept

variable {s : State} {row : CatalogSynchronization}

theorem leased_exact : leased now row = true ↔ row.status = .processing ∧ ∃ lease, row.leaseExpiresAt = some lease ∧ now < lease := by
  cases lease : row.leaseExpiresAt <;> simp [leased,lease]

theorem unlapsed (held : leased now row = true) (dated : attemptedAt ≤ now) : lapsed attemptedAt row = false := by
  obtain ⟨_,lease,bears,valid⟩ := leased_exact.mp held
  rw [← Bool.not_eq_true]
  intro late
  have over_ := lapsed_lease late bears
  omega

-- A lease that runs lets nobody claim, and expires for nobody.
theorem unclaimable (held : leased now row = true) (dated : attemptedAt ≤ now) : claimable allowFailedRetry attemptedAt row = false := by
  rw [← Bool.not_eq_true]
  intro may
  have late := claimable_processing may (leased_exact.mp held).1
  rw [unlapsed held dated] at late
  cases late

theorem takeClaim_leased {claim : Claim} (held : leased now row = true) (dated : claim.attemptedAt ≤ now) :
    takeClaim allowFailedRetry (some row) claim = none := by
  simp [takeClaim,unclaimable held dated]

theorem expireClaim_leased {claim : Claim} (held : leased now row = true) (dated : claim.attemptedAt ≤ now) :
    expireClaim (some row) claim = some row := by
  simp [expireClaim,unlapsed held dated]

-- Under a lease that runs, only its owner, a reconciler and a requester of another generation reach the row.
theorem leased_turn (timely : Timely s.now call) (there : s.row = some row) (held : leased s.now row = true)
    (other : ∀ owner, call.holder = some owner → row.attemptOwnerId ≠ some owner)
    (aloof : ∀ source read reconciliation, call = .reconciler (.transitioning source read reconciliation) →
      isGeneration read.canonicalVersion read.idempotencyKey row = false)
    (unwritten : ∀ data existing, call = .requester (.writing data existing) →
      writeGeneration s.row existing data (deps.randomUUID s.books.outbox.length) = none)
    (turned : Turn deps s call reply effect call') : (s.apply deps effect).row = some row := by
  have fences : ∀ claimed patch, call.holder = claimed.attemptOwnerId → claimed.attemptOwnerId ≠ none → fenced s claimed patch = none := by
    intro claimed patch holder named
    obtain ⟨owner,its⟩ := Option.ne_none_iff_exists'.mp named
    refine fenced_unowned its ?_
    rintro ⟨found,found_there,owned⟩
    cases there.symm.trans found_there
    exact other owner (holder.trans its) (ownedBy_some.mp owned).2
  cases turned with
  | writes made =>
      rw [unwritten _ _ rfl] at made
      cases made
  | expires =>
      show expireClaim s.row _ = some row
      rw [there]
      exact expireClaim_leased held timely
  | takes taken =>
      rw [there,takeClaim_leased held timely] at taken
      cases taken
  | skips | remembers | fails =>
      rw [transition,fences _ _ rfl timely]
      exact there
  | commits current =>
      rw [fences _ _ rfl timely] at current
      cases current
  | settles updated =>
      obtain ⟨old,before,version,key,_⟩ := updateIfCurrent_some updated
      cases there.symm.trans before
      have apart := aloof _ _ _ rfl
      simp [isGeneration,version,key] at apart
  | retries updated =>
      obtain ⟨old,before,_,_,expected,_⟩ := updateIfCurrent_some updated
      cases there.symm.trans before
      rw [(leased_exact.mp held).1] at expected
      cases expected
  | _ => exact there

end Kept

variable {s : State} {claim : Claim}

-- A worker between its claim and its commit, and a worker past it.
def Engaged (claim : Claim) : Call → Prop
  | .worker (.verifying made _) => made = claim
  | .worker (.skipping claimed) | .worker (.recovering claimed _ _) | .worker (.calling claimed _)
  | .worker (.committing claimed _ _ _) => claimed.canonicalVersion = claim.canonicalVersion ∧
      claimed.idempotencyKey = claim.idempotencyKey ∧ claimed.attemptOwnerId = some claim.ownerId
  | _ => False

def Through : Call → Prop
  | .worker (.remembering _ _ _) | .worker (.reporting _ _ _) | .worker (.failing _ _) | .finished => True
  | _ => False

structure Bears (claim : Claim) (row : CatalogSynchronization) : Prop where
  processing : row.status = .processing
  owner : row.attemptOwnerId = some claim.ownerId
  lease : row.leaseExpiresAt = some claim.leaseExpiresAt
  version : row.canonicalVersion = claim.canonicalVersion
  key : row.idempotencyKey = claim.idempotencyKey

def Holding (claim : Claim) (caller : Nat) (s : State) : Prop :=
  claim.leaseExpiresAt ≤ s.now ∨ Through (s.calls caller) ∨
    Engaged claim (s.calls caller) ∧ ∃ row, s.row = some row ∧ Bears claim row

theorem through_turn (through : Through call) (turned : Turn deps s call reply effect call') : Through call' := by
  cases turned with
  | reports | unreported => split <;> trivial
  | stops | remembers | forgets | fails => trivial
  | _ => cases through

theorem engaged_turn (engaged : Engaged claim call) (turned : Turn deps s call reply effect call') :
    Through call' ∨ Engaged claim call' ∧ (s.apply deps effect).row = s.row := by
  cases turned with
  | verifies read =>
      subst engaged
      obtain ⟨_,owner,_,version,key⟩ := readClaim_some read
      refine .inr ⟨?_,rfl⟩
      unfold proceed
      split
      · split <;> exact ⟨version,key,owner⟩
      · exact ⟨version,key,owner⟩
  | binds | recovers | answers => exact .inr ⟨engaged,rfl⟩
  | stops | skips | loses | throws | commits | stale | uncommitted => exact .inl trivial
  | _ => cases engaged

theorem engaged_holder {call : Call} (engaged : Engaged claim call) : call.holder = some claim.ownerId := by
  unfold Engaged at engaged
  split at engaged
  · rw [engaged]; rfl
  all_goals first | exact engaged.2.2 | cases engaged

theorem holding_step (owners : Owners s) (timely : ∀ caller, Timely s.now (s.calls caller)) (aloof : Aloof s action)
    (same : SameGeneration deps s action) (moved : advance deps s action = some t) (holding : Holding claim caller s) :
    Holding claim caller t := by
  have later := step_now moved
  rcases holding with over_ | through | ⟨engaged,row,there,bears⟩
  · exact .inl (Nat.le_trans over_ later)
  · refine .inr (.inl ?_)
    by_cases mine : ∃ reply, action = .reply caller reply
    · obtain ⟨reply,rfl⟩ := mine
      obtain ⟨effect,call,turned,rfl⟩ := reply_exact moved
      rw [put_calls,if_pos rfl]
      exact through_turn through turned
    · rw [call_kept moved (fun idle => by rw [idle] at through; exact through) fun reply its => mine ⟨reply,its⟩]
      exact through
  · by_cases valid : claim.leaseExpiresAt ≤ s.now
    · exact .inl (Nat.le_trans valid later)
    have held : leased s.now row = true := leased_exact.mpr ⟨bears.processing,_,bears.lease,Nat.lt_of_not_le valid⟩
    have holder := engaged_holder engaged
    by_cases mine : ∃ reply, action = .reply caller reply
    · obtain ⟨reply,rfl⟩ := mine
      obtain ⟨effect,call,turned,rfl⟩ := reply_exact moved
      rcases engaged_turn engaged turned with through | ⟨still,unmoved⟩
      · exact .inr (.inl (by rw [put_calls,if_pos rfl]; exact through))
      · exact .inr (.inr ⟨by rw [put_calls,if_pos rfl]; exact still,row,unmoved.trans there,bears⟩)
    · have others : ∀ reply, action ≠ .reply caller reply := fun reply its => mine ⟨reply,its⟩
      have kept := call_kept moved (fun idle => by rw [idle] at holder; cases holder) others
      refine .inr (.inr ⟨by rw [kept]; exact engaged,row,?_,bears⟩)
      cases action with
      | elapse | edit | outside => cases moved; exact there
      | start other call =>
          obtain ⟨_,_,rfl⟩ := start_exact moved
          exact there
      | reply other reply =>
          obtain ⟨effect,call,turned,rfl⟩ := reply_exact moved
          refine leased_turn (timely other) there held ?_ ?_ ?_ turned
          · intro owner theirs its
            cases bears.owner.symm.trans its
            have one := owners.single caller other _ (owner_cases.mpr (.inl holder)) (owner_cases.mpr (.inl theirs))
            exact others reply (by rw [one])
          · intro source read reconciliation phase
            simpa [Aloof,intrudes,phase,there,held] using aloof
          · intro data existing phase
            simpa [SameGeneration,rewrites,phase] using same

theorem taken_bears {s : State} (claiming : r.calls caller = .worker (.claiming claim product))
    (taken : advance deps r (.reply caller reply) = some s) (verifying : s.calls caller = .worker (.verifying claim product)) :
    ∃ row, s.row = some row ∧ Bears claim row := by
  obtain ⟨effect,call,turned,rfl⟩ := reply_exact taken
  rw [put_calls,if_pos rfl] at verifying
  rw [claiming,verifying] at turned
  cases turned with
  | takes made =>
      obtain ⟨old,_,version,key,_,rfl⟩ := takeClaim_some made
      exact ⟨_,rfl,rfl,rfl,rfl,version,key⟩

theorem holding_path (reached : Reached (catalog deps) Aloof s) (path : Path (catalog deps) (both Aloof (SameGeneration deps)) s t)
    (start : Holding claim caller s) : Holding claim caller t := by
  induction path with
  | refl => exact start
  | step before permitted moved ih =>
      have reached' := reached.later (before.weaken fun _ _ => And.left)
      exact holding_step (reached_owners reached') (reached_timely reached') permitted.1 permitted.2 moved ih

theorem committing_held {claimed : CatalogSynchronization} (committing : t.calls caller = .worker (.committing claimed product remote recovered))
    (holding : Holding claim caller t) (valid : t.now < claim.leaseExpiresAt) :
    ∃ u row, advance deps t (.reply caller .returned) = some u ∧ u.row = some row ∧ row.status = .succeeded ∧
      row.reconciliationState = .inSync ∧ row.canonicalVersion = claim.canonicalVersion ∧
        row.idempotencyKey = claim.idempotencyKey ∧ u.binding = some remote.providerProductId := by
  rcases holding with over_ | through | ⟨engaged,row,there,bears⟩
  · omega
  · rw [committing] at through
    cases through
  · rw [committing] at engaged
    obtain ⟨version,key,owner⟩ := engaged
    have owned : ownedBy claimed.attemptOwnerId row = true := by
      rw [owner]
      exact ownedBy_some.mpr ⟨bears.processing,bears.owner⟩
    have current : fenced t claimed (succeedPatch t remote) =
        some (row.patched (releasing (succeedPatch t remote) claimed.attemptOwnerId)) := by
      rw [fenced,there]
      exact updateIfCurrent_owned (bears.version.trans version.symm) (bears.key.trans key.symm) owned
    refine ⟨(t.apply deps (.commit (row.patched (releasing (succeedPatch t remote) claimed.attemptOwnerId)) remote.providerProductId)).put
      caller .finished,row.patched (releasing (succeedPatch t remote) claimed.attemptOwnerId),?_,rfl,?_,?_,bears.version,bears.key,rfl⟩
    · simp [advance,committing,turn,workTurn,current]
    · rw [owner]
      rfl
    · rw [owner]
      rfl

-- Every reconciler that keeps off a lease leaves the attempt under it alone.
theorem lease_kept : LeaseKept deps Aloof where
  commits := by
    intro r s t caller reply claim product product' claimed remote recovered reached claiming taken verifying path committing valid
    have reached' : Reached (catalog deps) Aloof s := by
      have moved : (catalog deps).advance r (.reply caller reply) = some s := taken
      refine reached.step ?_ moved
      simp [Aloof,intrudes,claiming]
    have start : Holding claim caller s := .inr (.inr ⟨by rw [verifying]; rfl,taken_bears claiming taken verifying⟩)
    exact committing_held committing (holding_path reached' path start) valid
  undisturbed := by
    intro s t caller reply phase row reached reconciling aloof moved there held
    obtain ⟨effect,call,turned,rfl⟩ := reply_exact moved
    refine leased_turn (reached_timely reached caller) there held ?_ ?_ ?_ turned
    · intro owner holds
      rw [reconciling] at holds
      cases holds
    · intro source read reconciliation its
      simpa [Aloof,intrudes,its,there,held] using aloof
    · intro data existing its
      cases reconciling.symm.trans its
  alone := by
    intro s t caller reply claim product row reached claiming moved there held
    have timely := reached_timely reached caller
    rw [claiming] at timely
    obtain ⟨effect,call,turned,rfl⟩ := reply_exact moved
    rw [put_calls,if_pos rfl]
    rw [claiming] at turned
    cases turned with
    | stops => exact ⟨there,rfl⟩
    | takes taken =>
        rw [there,takeClaim_leased held timely] at taken
        cases taken

section Webhook

-- A product that the provider knows already, bound to its product there.
def knownProduct : CanonicalProduct := ⟨"Plan",none,true,none,"2026-01-01T00:00:00.000Z"⟩

def knownStart : State where
  now := 0
  product := knownProduct
  history := [knownProduct]
  binding := some "prod_1"
  row := none
  books := ⟨[],[]⟩
  remotes := Function.update (fun _ => none) "prod_1" (some ⟨"Old plan",none,true,none,none⟩)
  issued := ["prod_1"]
  replays _ := none
  created := []
  owners := []
  calls _ := .idle

theorem knownStart_initial : Initial knownStart :=
  ⟨rfl,rfl,rfl,rfl,rfl,fun _ => rfl,fun id bound => by cases bound; exact List.mem_singleton.mpr rfl,fun _ => rfl⟩

def knownKey : String := deriveCatalogSyncKey (plainDependencies true) .update knownProduct.updatedAt

def knownClaim : Claim := ⟨knownProduct.updatedAt,knownKey,0,"owner",catalogSyncLeaseMs⟩

def requestSteps (caller : Nat) : List Action := .start caller (.requester (.product false)) :: List.replicate 5 (.reply caller .returned)

def reconcileSteps (caller : Nat) (source : ReconciliationSource) : List Action :=
  .start caller (.reconciler (.product source)) :: List.replicate 5 (.reply caller .returned)

-- A worker claims, and what follows passes a test at its end.
def attempted (allowed : State → Action → Prop) [∀ s action, Decidable (allowed s action)] (steps : List Action) (test : State → Bool) : Bool :=
  (run (catalog (plainDependencies true)) allowed knownStart (requestSteps 0 ++
    [.start 1 (.worker (.looking knownProduct.updatedAt knownKey)),.reply 1 .returned,.reply 1 (.drawn "owner")])).any fun r =>
      decide (r.calls 1 = .worker (.claiming knownClaim knownProduct)) &&
        (advance (plainDependencies true) r (.reply 1 .returned)).any fun s =>
          decide (s.calls 1 = .worker (.verifying knownClaim knownProduct)) &&
            (run (catalog (plainDependencies true)) (both allowed (SameGeneration (plainDependencies true))) s steps).any test

theorem attempted_lands {allowed : State → Action → Prop} [∀ s action, Decidable (allowed s action)] {test : State → Bool}
    (passed : attempted allowed steps test = true) : ∃ r s t, Reached (catalog (plainDependencies true)) allowed r ∧
      r.calls 1 = .worker (.claiming knownClaim knownProduct) ∧ advance (plainDependencies true) r (.reply 1 .returned) = some s ∧
        s.calls 1 = .worker (.verifying knownClaim knownProduct) ∧
          Path (catalog (plainDependencies true)) (both allowed (SameGeneration (plainDependencies true))) s t ∧ test t = true := by
  obtain ⟨r,reached,found⟩ := run_reaches knownStart_initial passed
  rw [Bool.and_eq_true,decide_eq_true_eq] at found
  obtain ⟨claiming,found⟩ := found
  obtain ⟨s,taken,found⟩ := (Option.any_eq_true _ _).mp found
  rw [Bool.and_eq_true,decide_eq_true_eq] at found
  obtain ⟨t,later,tested⟩ := run_lands found.2
  exact ⟨r,s,t,reached,claiming,taken,found.1,later,tested⟩

-- Another worker's claim comes between, and a webhook whose reconciler still waits.
def rivalSteps : List Action :=
  [.start 2 (.worker (.looking knownProduct.updatedAt knownKey)),.start 3 (.reconciler (.product .webhook)),.reply 1 .returned,
    .reply 2 .returned,.reply 3 .returned,.reply 2 (.drawn "rival"),.reply 1 .returned,.reply 2 .returned,.reply 3 .returned,
    .reply 1 (.answered "" none)]

def committed (t : State) : Bool :=
  match t.calls 1,t.calls 2 with
  | .worker (.committing _ _ _ _),.finished => decide (t.now < catalogSyncLeaseMs)
  | _,_ => false

theorem lease_kept_rivalled : ∃ (t u : State) (row : CatalogSynchronization), t.calls 2 = .finished ∧
    advance (plainDependencies true) t (.reply 1 .returned) = some u ∧ u.row = some row ∧ row.status = .succeeded ∧
      row.reconciliationState = .inSync ∧ row.canonicalVersion = knownProduct.updatedAt := by
  have passed : attempted Aloof rivalSteps committed = true := by decide +kernel
  obtain ⟨r,s,t,reached,claiming,taken,verifying,later,committing⟩ := attempted_lands passed
  unfold committed at committing
  split at committing
  · rename_i phase rival
    obtain ⟨u,row,moved,there,succeeded,synced,version,_⟩ := lease_kept.commits r s t 1 .returned knownClaim knownProduct _ _ _ _
      reached claiming taken verifying later phase (of_decide_eq_true committing)
    exact ⟨t,u,row,rival,moved,there,succeeded,synced,version⟩
  · cases committing

-- The webhook of the worker's own update reconciles the product before the worker commits.
def webhookSteps : List Action :=
  [[.reply 1 .returned,.reply 1 .returned,.reply 1 (.answered "" none)],reconcileSteps 2 .webhook].flatten

def unsettled (t : State) : Bool :=
  match t.calls 1 with
  | .worker (.committing _ _ _ _) => decide (t.now < catalogSyncLeaseMs) &&
    (advance (plainDependencies true) t (.reply 1 .returned)).any fun u => u.row.all (·.status != .succeeded)
  | _ => false

theorem webhook_intrudes : ¬ LeaseKept (plainDependencies true) anyStep := by
  intro kept
  have passed : attempted anyStep webhookSteps unsettled = true := by decide +kernel
  obtain ⟨r,s,t,reached,claiming,taken,verifying,later,committing⟩ := attempted_lands passed
  unfold unsettled at committing
  split at committing
  · rename_i claimed product remote recovered phase
    rw [Bool.and_eq_true,decide_eq_true_eq] at committing
    obtain ⟨u,row,moved,there,succeeded,_⟩ := kept.commits r s t 1 .returned knownClaim knownProduct product claimed remote recovered
      reached claiming taken verifying later phase committing.1
    simp [moved,there,succeeded] at committing
  · cases committing

end Webhook

end Payable.Catalog
