import Payable.Migrations.Lifecycle

namespace Payable.Migrations
open Checked Tables

-- A direct mutation: its tokens are drawn before its first transaction.
structure Direct where
  tenantId : Option String
  subscriptionId : String
  operation : DirectOperation
  ownerToken : String
  uuid : String

def Direct.claim (direct : Direct) : Claim :=
  ⟨.mutation direct.uuid,tenantKey direct.tenantId,direct.subscriptionId,direct.ownerToken,.direct direct.operation,none⟩

-- Where a caller of execute, settle, executeSubscriptionMutation or of the claim resource
-- stands between two transactions. calling and mutating wait for the provider.
inductive Process where
  | preparing (tenantId : Option String) (id : String) (start : Start)
  | calling (tenantId : Option String) (migration : Migration)
  | failing (tenantId : Option String) (migration : Migration) (completion : Completion)
  | projecting (tenantId : Option String) (migration : Migration)
  | settling (tenantId : Option String) (migration : Migration)
  | resolvingClaim (claim : Claim) (outcome : Outcome) (evidenceReference : String)
  | acquiring (direct : Direct)
  | mutating (direct : Direct)
  | releasing (direct : Direct)
  | persisting (direct : Direct)
  | done

-- What the provider answers; identified is the identity check on the returned subscription.
inductive Reply where
  | threw
  | notApplied
  | applied (identified : Bool)

def Process.replied : Process → Reply → Option Process
  | .calling tenantId migration,.threw =>
    some (.failing tenantId migration (.reconciliationRequired .providerOutcomeUnknown))
  | .calling tenantId migration,.notApplied => some (.failing tenantId migration (.failed .providerNotApplied))
  | .calling tenantId migration,.applied false =>
    some (.failing tenantId migration (.reconciliationRequired .providerIdentityMismatch))
  | .calling tenantId migration,.applied true => some (.projecting tenantId migration)
  | .mutating _,.threw => some .done
  | .mutating direct,.notApplied => some (.releasing direct)
  | .mutating direct,.applied _ => some (.persisting direct)
  | _,_ => none

def prepared (tenantId : Option String) : Option Migration → Process
  | none => .done
  | some migration => .calling tenantId migration

-- The transaction a process is about to run, and where it goes when that throws.
def transaction (store : Store) (now : Int) (source projects : Bool) :
    Process → Option (Except MigrationError (Store × Process) × Process)
  | .failing tenantId migration completion => some ((complete store now tenantId migration completion).map (·,.done),.done)
  | .projecting tenantId migration =>
    some ((projectSubscriptionPriceMigrationSuccess store now tenantId migration source projects).map (·,.done),
      .failing tenantId migration (.reconciliationRequired .projectionFailed))
  | .settling tenantId migration =>
    some ((settleSubscriptionPriceMigration store now tenantId migration source projects).map (·,.done),.done)
  | .resolvingClaim claim outcome evidenceReference =>
    some ((resolveSubscriptionMutationClaim store.claims claim outcome evidenceReference projects).map
      fun claims => ({store with claims := claims},.done),.done)
  | .acquiring direct =>
    some ((acquireSubscriptionMutationClaim store.claims direct.claim).map
      fun claims => ({store with claims := claims},.mutating direct),.done)
  | .releasing direct =>
    some ((releaseSubscriptionMutationClaim store.claims direct.tenantId direct.subscriptionId direct.ownerToken).map
      fun claims => ({store with claims := claims},.done),.done)
  | .persisting direct =>
    some ((do
      ensure projects .storage
      let claims ← releaseSubscriptionMutationClaim store.claims direct.tenantId direct.subscriptionId direct.ownerToken
      return ({store with claims := claims},.done)),.done)
  | .preparing _ _ _ | .calling _ _ | .mutating _ | .done => none

-- A transaction commits, is rolled back for a reason of its own, or commits and the
-- caller sees an error.
inductive Commit where
  | committed | rolledBack | unacknowledged
  deriving DecidableEq

structure State where
  store : Store
  now : Int
  drawn : List String
  processes : Nat → Option Process

def State.put (s : State) (caller : Nat) (process : Process) : State :=
  {s with processes := Function.update s.processes caller (some process)}

def State.withStore (s : State) (store : Store) : State := {s with store := store}

def State.drawing (s : State) (uuids : List String) : State := {s with drawn := uuids ++ s.drawn}

def fresh (s : State) (uuid : String) : Bool := uuid ≠ "" && !s.drawn.contains uuid

def commits (s : State) (caller : Nat) (commit : Commit) (ran : Except MigrationError (Store × Process))
    (threw : Process) : State :=
  match ran,commit with
  | .ok (store,next),.committed => (s.put caller next).withStore store
  | .ok (store,_),.unacknowledged => (s.put caller threw).withStore store
  | .ok _,.rolledBack | .error _,_ => s.put caller threw

-- Where a single transaction is the whole operation, one that throws changes nothing.
inductive Action where
  | preview (tenantId : Option String) (id subscriptionId : String) (effectiveTiming : EffectiveTiming)
      (currentRenewalDate : Option Int) (expiresAt : Int)
  | schedule (tenantId : Option String) (id : String) (source : Bool)
  | cancel (tenantId : Option String) (id : String)
  | resolve (tenantId : Option String) (id : String) (outcome : Observed) (evidenceReference : String)
      (source projects : Bool)
  | execute (caller : Nat) (tenantId : Option String) (id : String) (start : Start)
  | prepare (caller : Nat) (executionToken : String) (source : Bool) (commit : Commit)
  | settle (caller : Nat) (tenantId : Option String) (id : String)
  | mutate (caller : Nat) (direct : Direct)
  | resolveClaim (caller : Nat) (claim : Claim) (outcome : Outcome) (evidenceReference : String)
  | replied (caller : Nat) (reply : Reply)
  | transact (caller : Nat) (source projects : Bool) (commit : Commit)
  | crash (caller : Nat)
  | tick (elapsed : Nat)

-- subscriptionPriceMigrationToStorageValues
def previewed (tenantId : Option String) (id subscriptionId : String) (effectiveTiming : EffectiveTiming)
    (currentRenewalDate : Option Int) (expiresAt now : Int) : Migration :=
  ⟨id,tenantKey tenantId,subscriptionId,some subscriptionId,effectiveTiming,currentRenewalDate,expiresAt,.previewed,0,none,
    none,none,none,none,none,none,none,none,none,none,none,none,none,now⟩

def advance (s : State) : Action → Option State
  | .preview tenantId id subscriptionId effectiveTiming currentRenewalDate expiresAt =>
    if fresh s id then
      match insert s.store.migrations
          (previewed tenantId id subscriptionId effectiveTiming currentRenewalDate expiresAt s.now) with
      | .ok migrations => some ((s.drawing [id]).withStore {s.store with migrations := migrations})
      | .error _ => none
    else none
  | .schedule tenantId id source => (schedule s.store s.now tenantId id source).toOption.map s.withStore
  | .cancel tenantId id => (cancel s.store s.now tenantId id).toOption.map s.withStore
  | .resolve tenantId id outcome evidenceReference source projects =>
    if validEvidence evidenceReference then
      (resolve s.store s.now tenantId id outcome evidenceReference source projects).toOption.map s.withStore
    else none
  | .execute caller tenantId id start =>
    match s.processes caller with
    | some _ => none
    | none => some (s.put caller (.preparing tenantId id start))
  | .prepare caller executionToken source commit =>
    match s.processes caller with
    | some (.preparing tenantId id start) =>
      if fresh s executionToken then
        some (commits (s.drawing [executionToken]) caller commit
          ((prepare s.store s.now tenantId id start executionToken source).map fun (store,claimed) =>
            (store,prepared tenantId claimed)) .done)
      else none
    | _ => none
  | .settle caller tenantId id =>
    match s.processes caller,requireMigration s.store tenantId id with
    | none,.ok migration => some (s.put caller (.settling tenantId migration))
    | _,_ => none
  | .mutate caller direct =>
    match s.processes caller with
    | some _ => none
    | none =>
      if fresh s direct.ownerToken && fresh s direct.uuid && direct.ownerToken != direct.uuid then
        some ((s.drawing [direct.ownerToken,direct.uuid]).put caller (.acquiring direct))
      else none
  | .resolveClaim caller claim outcome evidenceReference =>
    match s.processes caller with
    | some _ => none
    | none =>
      if claim ∈ s.store.claims then some (s.put caller (.resolvingClaim claim outcome evidenceReference)) else none
  | .replied caller reply => do
    let process ← s.processes caller
    let next ← process.replied reply
    some (s.put caller next)
  | .transact caller source projects commit => do
    let process ← s.processes caller
    let (ran,threw) ← transaction s.store s.now source projects process
    some (commits s caller commit ran threw)
  | .crash caller => do
    let _ ← s.processes caller
    some (s.put caller .done)
  | .tick elapsed => some {s with now := s.now + elapsed}

def empty (now : Int) : State := ⟨⟨[],[],[]⟩,now,[],fun _ => none⟩

def system : Runs.System State Action := ⟨fun s => ∃ now, s = empty now,advance⟩

-- Every step, read back: what it found, and the state it leaves.
inductive Moved (s : State) : Action → State → Prop where
  | preview (drawable : fresh s migrationId = true)
      (ran : insert s.store.migrations
        (previewed tenantId migrationId subscriptionId effectiveTiming currentRenewalDate expiresAt s.now) = .ok migrations) :
      Moved s (.preview tenantId migrationId subscriptionId effectiveTiming currentRenewalDate expiresAt)
        ((s.drawing [migrationId]).withStore {s.store with migrations := migrations})
  | schedule (ran : schedule s.store s.now tenantId migrationId source = .ok store) :
      Moved s (.schedule tenantId migrationId source) (s.withStore store)
  | cancel (ran : cancel s.store s.now tenantId migrationId = .ok store) :
      Moved s (.cancel tenantId migrationId) (s.withStore store)
  | resolve (valid : validEvidence evidenceReference = true)
      (ran : resolve s.store s.now tenantId migrationId outcome evidenceReference source projects = .ok store) :
      Moved s (.resolve tenantId migrationId outcome evidenceReference source projects) (s.withStore store)
  | execute (absent : s.processes caller = none) :
      Moved s (.execute caller tenantId migrationId start) (s.put caller (.preparing tenantId migrationId start))
  | prepare (live : s.processes caller = some (.preparing tenantId migrationId start))
      (drawable : fresh s executionToken = true) :
      Moved s (.prepare caller executionToken source commit) (commits (s.drawing [executionToken]) caller commit
        ((prepare s.store s.now tenantId migrationId start executionToken source).map fun (store,claimed) =>
          (store,prepared tenantId claimed)) .done)
  | settle (absent : s.processes caller = none) (found : requireMigration s.store tenantId migrationId = .ok migration) :
      Moved s (.settle caller tenantId migrationId) (s.put caller (.settling tenantId migration))
  | mutate (absent : s.processes caller = none) (owner : fresh s direct.ownerToken = true) (uuid : fresh s direct.uuid = true) :
      Moved s (.mutate caller direct) ((s.drawing [direct.ownerToken,direct.uuid]).put caller (.acquiring direct))
  | resolveClaim (absent : s.processes caller = none) (member : claim ∈ s.store.claims) :
      Moved s (.resolveClaim caller claim outcome evidenceReference)
        (s.put caller (.resolvingClaim claim outcome evidenceReference))
  | replied (live : s.processes caller = some process) (did : process.replied reply = some after) :
      Moved s (.replied caller reply) (s.put caller after)
  | transact (live : s.processes caller = some process)
      (did : transaction s.store s.now source projects process = some (ran,threw)) :
      Moved s (.transact caller source projects commit) (commits s caller commit ran threw)
  | crash (live : s.processes caller = some process) : Moved s (.crash caller) (s.put caller .done)
  | tick : Moved s (.tick elapsed) {s with now := s.now + elapsed}

theorem advance_moved {s next : State} (moved : advance s action = some next) : Moved s action next := by
  cases action with
  | preview tenantId migrationId subscriptionId effectiveTiming currentRenewalDate expiresAt =>
      simp only [advance] at moved
      split at moved
      · rename_i drawable
        split at moved
        · rename_i inserted
          cases moved
          exact .preview drawable inserted
        · cases moved
      · cases moved
  | schedule tenantId migrationId source =>
      obtain ⟨store,ran,same⟩ := Option.map_eq_some_iff.mp moved
      exact same ▸ .schedule (toOption_ok ran)
  | cancel tenantId migrationId =>
      obtain ⟨store,ran,same⟩ := Option.map_eq_some_iff.mp moved
      exact same ▸ .cancel (toOption_ok ran)
  | resolve tenantId migrationId outcome evidenceReference source projects =>
      simp only [advance] at moved
      split at moved
      · rename_i valid
        obtain ⟨store,ran,same⟩ := Option.map_eq_some_iff.mp moved
        exact same ▸ .resolve valid (toOption_ok ran)
      · cases moved
  | execute caller tenantId migrationId start =>
      simp only [advance] at moved
      split at moved <;> cases moved
      rename_i absent
      exact .execute absent
  | prepare caller executionToken source commit =>
      simp only [advance] at moved
      split at moved
      · rename_i live
        split at moved
        · rename_i drawable
          cases moved
          exact .prepare live drawable
        · cases moved
      · cases moved
  | settle caller tenantId migrationId =>
      simp only [advance] at moved
      split at moved <;> cases moved
      rename_i absent found
      exact .settle absent found
  | mutate caller direct =>
      simp only [advance] at moved
      split at moved
      · cases moved
      · rename_i absent
        split at moved
        · rename_i drawable
          cases moved
          simp only [Bool.and_eq_true] at drawable
          exact .mutate absent drawable.1.1 drawable.1.2
        · cases moved
  | resolveClaim caller claim outcome evidenceReference =>
      simp only [advance] at moved
      split at moved
      · cases moved
      · rename_i absent
        split at moved <;> cases moved
        rename_i member
        exact .resolveClaim absent member
  | replied caller reply =>
      simp only [advance,Option.bind_eq_bind,Option.bind_eq_some_iff] at moved
      obtain ⟨process,live,after,did,same⟩ := moved
      cases same
      exact .replied live did
  | transact caller source projects commit =>
      simp only [advance,Option.bind_eq_bind,Option.bind_eq_some_iff] at moved
      obtain ⟨process,live,⟨ran,threw⟩,did,same⟩ := moved
      cases same
      exact .transact live did
  | crash caller =>
      simp only [advance,Option.bind_eq_bind,Option.bind_eq_some_iff] at moved
      obtain ⟨process,live,same⟩ := moved
      cases same
      exact .crash live
  | tick elapsed =>
      cases moved
      exact .tick

end Payable.Migrations
