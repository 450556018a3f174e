import Payable.Catalog.Leases
import Payable.Catalog.Histories

namespace Payable.Catalog
open Runs

variable {deps : CatalogDependencies} {s : State}

-- The step of a worker that puts its success on the row.
def Concludes (deps : CatalogDependencies) (allowed : State → Action → Prop) (s t : State) (row : CatalogSynchronization) : Prop :=
  Reached (catalog deps) allowed s ∧
    (∃ caller phase reply, s.calls caller = .worker phase ∧ allowed s (.reply caller reply) ∧ advance deps s (.reply caller reply) = some t) ∧
      s.row ≠ some row ∧ t.row = some row ∧ row.status = .succeeded ∧ row.reconciliationState = .inSync

structure SyncedEqual (deps : CatalogDependencies) (allowed : State → Action → Prop) : Prop where
  equal : ∀ s t row canonical, Concludes deps allowed s t row → canonical ∈ t.history → canonical.updatedAt = row.canonicalVersion →
    ∃ id remote, t.binding = some id ∧ t.remotes id = some remote ∧ productMatches deps canonical remote = true
  -- A reconciliation that follows at once, of the version still.
  confirmed : ∀ s t row caller source, Concludes deps allowed s t row → t.product.updatedAt = row.canonicalVersion →
    deps.capabilities.catalogRead = true → t.calls caller = .idle → ∃ u row',
      run (catalog deps) anyStep t (reconcileSteps caller source) = some u ∧ u.row = some row' ∧ row'.status = .reconciled ∧
        row'.reconciliationState = .inSync

section Fields

variable (deps : CatalogDependencies)

-- The fields of the reconciler's comparison that an operation sends.
def sent (operation : SynchronizationOperation) (product : CanonicalProduct) (remote : ProductDTO) : Bool :=
  match operation with
  | .archive | .reactivate => product.active == remote.active
  | .create | .update => productMatches deps product remote

-- Those it leaves as they are.
def unsent (operation : SynchronizationOperation) (product : CanonicalProduct) (remote : ProductDTO) : Bool :=
  match operation with
  | .archive | .reactivate => product.name == remote.name && product.description == remote.description &&
      stableMetadata deps product.metadata == stableMetadata deps remote.metadata
  | .create | .update => true

theorem sent_unsent (kept : sent deps operation product remote = true) (agrees : unsent deps operation product remote = true) :
    productMatches deps product remote = true := by
  cases operation with
  | create | update => exact kept
  | archive | reactivate =>
      simp only [sent,unsent,Bool.and_eq_true] at kept agrees
      simp only [productMatches,Bool.and_eq_true]
      exact ⟨⟨agrees.1,kept⟩,agrees.2⟩

theorem productMatches_alike (made : productMatches deps source remote = true)
    (alike : productMatches deps source (CanonicalProduct.content product) = true) : productMatches deps product remote = true := by
  simp only [productMatches,CanonicalProduct.content,Bool.and_eq_true,beq_iff_eq] at made alike ⊢
  obtain ⟨⟨⟨name,description⟩,active⟩,metadata⟩ := alike
  rw [← name,← description,← active,← metadata]
  exact made

end Fields

-- A provider call that lands while the row's owner has its own call behind it and its commit
-- before it leaves what the owner has sent.
def Landing (deps : CatalogDependencies) (s : State) (provision : Provision) : Prop :=
  ∀ other claimed product remote, s.calls other = .worker (.committing claimed product remote false) → Current s other →
    (s.remotes remote.providerProductId).any (sent deps claimed.operation product) = true →
      (provision.remotes remote.providerProductId).any (sent deps claimed.operation product) = true

-- The create that made a remote product was for a version with the content of the one given.
def MadeAlike (deps : CatalogDependencies) (s : State) (product : CanonicalProduct) (id : String) : Prop :=
  ∃ key, s.replays key = some id ∧ ∀ made ∈ s.history, deriveCatalogSyncKey deps .create made.updatedAt = key →
    productMatches deps made product.content = true

-- A create of the owner that the provider answers with a product made before finds it matching,
-- and a commit that reaches the row finds the fields its worker has not sent agreeing already.
def Agreeing (deps : CatalogDependencies) (s : State) : Action → Prop
  | .reply caller reply => match s.calls caller,reply with
    | .worker (.calling claimed product),.answered id version =>
      ∀ provision, mutate deps s claimed product id version = some provision → Landing deps s provision ∧
        (claimed.operation = .create → deps.capabilities.catalogIdempotency = true → Current s caller →
          ∀ made, s.replays claimed.idempotencyKey = some made → (s.remotes made).any (productMatches deps product) = true)
    | .worker (.calling claimed product),.lost id version _ =>
      ∀ provision, mutate deps s claimed product id version = some provision → Landing deps s provision
    | .worker (.committing claimed product remote recovered),.returned =>
      fenced s claimed (succeedPatch s remote) ≠ none → if recovered then MadeAlike deps s product remote.providerProductId
        else (s.remotes remote.providerProductId).any (unsent deps claimed.operation product) = true
    | _,_ => True
  | _ => True

section Landings

-- What a call of the owner leaves: the fields it sends are as the product has them.
theorem mutate_sent {provision : Provision} (versioned : Versioned s.history product claimed.canonicalVersion)
    (single : ∀ one ∈ s.history, ∀ other ∈ s.history, one.updatedAt = other.updatedAt → one = other)
    (chosen : Chosen s.history claimed.operation claimed.canonicalVersion)
    (replayed : claimed.operation = .create → deps.capabilities.catalogIdempotency = true →
      ∀ made, s.replays claimed.idempotencyKey = some made → (s.remotes made).any (productMatches deps product) = true)
    (mutated : mutate deps s claimed product fresh version = some provision) :
    (provision.remotes provision.providerProductId).any (sent deps claimed.operation product) = true := by
  obtain ⟨source,inside,same,archived,reactivated⟩ := chosen
  cases single source inside product versioned.1 (same.trans versioned.2.symm)
  unfold mutate at mutated
  cases operation : claimed.operation with
  | archive =>
      rw [operation] at mutated
      obtain ⟨reference,_,mutated⟩ := Option.bind_eq_some_iff.mp mutated
      obtain ⟨remote,_,rfl⟩ := Option.map_eq_some_iff.mp mutated
      simp [sent,archived operation]
  | reactivate =>
      rw [operation] at mutated
      obtain ⟨reference,_,mutated⟩ := Option.bind_eq_some_iff.mp mutated
      obtain ⟨remote,_,rfl⟩ := Option.map_eq_some_iff.mp mutated
      simp [sent,reactivated operation]
  | update =>
      rw [operation] at mutated
      obtain ⟨reference,_,mutated⟩ := Option.bind_eq_some_iff.mp mutated
      obtain ⟨remote,_,rfl⟩ := Option.map_eq_some_iff.mp mutated
      simp [sent,productMatches]
  | create =>
      rw [operation] at mutated
      rcases createProduct_some mutated with ⟨idempotent,replays,remotes,_,_⟩ | ⟨_,same,remotes,_,_⟩
      · rw [remotes]
        exact replayed operation idempotent _ replays
      · rw [remotes,same]
        simp [sent,productMatches_content]

-- A worker comes to its commit by a recovery or by the answer to its call.
theorem turn_committing (turned : Turn deps s call reply effect call') (its : call' = .worker (.committing claimed product remote recovered)) :
    recovered = true ∧ s.binding = none ∧ effect = .nothing ∨
    recovered = false ∧ ∃ fresh version provision, call = .worker (.calling claimed product) ∧ reply = .answered fresh version ∧
      mutate deps s claimed product fresh version = some provision ∧ remote.providerProductId = provision.providerProductId ∧
        (s.apply deps effect).remotes = provision.remotes := by
  cases turned with
  | ensures => rcases ensure_cases deps _ s.row with same | same <;> rw [same] at its <;> cases its
  | requests => rcases request_cases deps _ _ s.row with same | ⟨_,same⟩ <;> rw [same] at its <;> cases its
  | draws => split at its <;> cases its
  | verifies =>
      unfold proceed at its
      split at its
      · split at its <;> cases its
      · cases its
  | recovers unbound => cases its; exact .inl ⟨rfl,unbound,rfl⟩
  | answers mutated => cases its; exact .inr ⟨rfl,_,_,_,rfl,rfl,mutated,rfl,rfl⟩
  | reports | unreported => split at its <;> cases its
  | _ => cases its

-- A claimant that the row names after a step it named before.
theorem current_before (owners : Owners s) (turned : Turn deps s (s.calls caller) reply effect call')
    (its : (s.calls other).claimed = some claimed) (holds : (s.calls other).holder = some owner)
    (owned : Owned (s.apply deps effect) owner) : Owned s owner := by
  by_contra unowned
  have unclaiming : (s.calls caller).claiming ≠ some owner := by
    intro claims
    have same := owners.single other caller owner (owner_cases.mpr (.inl holds)) (owner_cases.mpr (.inr claims))
    rw [← same,claimed_unclaiming its] at claims
    cases claims
  obtain ⟨row,there,bears⟩ := owned
  rw [unowned_change (turn_row turned) unowned unclaiming row there] at bears
  cases bears

-- A call that starts is not at its commit, and the others are where they were.
theorem start_committing (starts : call.starts = true) (its : (s.put caller call).calls one = .worker (.committing claimed product remote recovered))
    (current : Current (s.put caller call) one) : s.calls one = .worker (.committing claimed product remote recovered) ∧ Current s one := by
  obtain ⟨owner,holds,owned⟩ := current
  rw [put_calls] at its holds
  split at its
  · rw [its] at starts
    cases starts
  · rename_i differs
    rw [if_neg differs] at holds
    exact ⟨its,owner,holds,owned⟩

-- The provider still has what an owner has sent and is about to commit.
def Intact (deps : CatalogDependencies) (s : State) : Prop :=
  ∀ caller claimed product remote, s.calls caller = .worker (.committing claimed product remote false) → Current s caller →
    (s.remotes remote.providerProductId).any (sent deps claimed.operation product) = true

-- A recovery begins while nothing is bound, and only the owner binds.
def RecoversUnbound (s : State) : Prop :=
  ∀ caller claimed product remote, s.calls caller = .worker (.committing claimed product remote true) → Current s caller → s.binding = none

theorem fenced_released (named : claimed.attemptOwnerId = some owner) (updated : fenced s claimed patch = some row) : row.attemptOwnerId = none := by
  obtain ⟨old,_,_,_,_,_,rfl⟩ := updateIfCurrent_some updated
  simp [named,CatalogSynchronization.patched,releasing]

theorem recoversUnbound_turn (unbound : RecoversUnbound s) (owners : Owners s) (timely : ∀ caller, Timely s.now (s.calls caller))
    (turned : Turn deps s (s.calls caller) reply effect call') : RecoversUnbound ((s.apply deps effect).put caller call') := by
  intro one claimed product remote its current
  show (s.apply deps effect).binding = none
  obtain ⟨owner,holds,owned⟩ := current
  have owned : Owned (s.apply deps effect) owner := owned
  rw [put_calls,apply_calls] at its holds
  split at its
  · rcases turn_committing turned its with ⟨_,none_yet,rfl⟩ | ⟨called,_⟩
    · exact none_yet
    · cases called
  · rename_i differs
    rw [if_neg differs] at holds
    have before : s.binding = none :=
      unbound one claimed product remote its ⟨owner,holds,current_before owners turned (by rw [its]; rfl) holds owned⟩
    rcases apply_binding deps s effect with same | ⟨row,id,rfl,_⟩
    · exact same.trans before
    · -- The commit of another worker leaves the row to nobody.
      obtain ⟨rfl,other,_,_,_,phase,current,_⟩ := turn_commit turned rfl
      have claims : (s.calls caller).claimed = some other := by rw [phase]; rfl
      obtain ⟨theirs,named⟩ := timely_claimed (timely caller) claims
      obtain ⟨_,there,bears⟩ := owned
      cases there
      rw [ownedBy_some,fenced_released named current] at bears
      cases bears.2

theorem landing_keeps (agreeing : Agreeing deps s (.reply caller reply)) (calling : s.calls caller = .worker (.calling claimed product))
    (lands : reply = .answered fresh version ∨ ∃ code, reply = .lost fresh version code)
    (mutated : mutate deps s claimed product fresh version = some provision) : Landing deps s provision := by
  rcases lands with rfl | ⟨code,rfl⟩
  · simp only [Agreeing,calling] at agreeing
    exact (agreeing provision mutated).1
  · simp only [Agreeing,calling] at agreeing
    exact agreeing provision mutated

theorem intact_turn (intact : Intact deps s) (versions : Versions s) (owners : Owners s) (agreeing : Agreeing deps s (.reply caller reply))
    (turned : Turn deps s (s.calls caller) reply effect call') : Intact deps ((s.apply deps effect).put caller call') := by
  intro one claimed product remote its current
  show ((s.apply deps effect).remotes remote.providerProductId).any _ = true
  obtain ⟨owner,holds,owned⟩ := current
  have owned : Owned (s.apply deps effect) owner := owned
  rw [put_calls,apply_calls] at its holds
  split at its
  · rename_i here
    obtain ⟨called,_⟩ | ⟨_,fresh,version,provision,calling,rfl,mutated,same,remotes⟩ := turn_committing turned its
    · cases called
    have sourced := versions.calls caller
    rw [calling] at sourced
    rw [if_pos here,its] at holds
    rw [remotes,same]
    refine mutate_sent sourced.1 versions.single sourced.2 ?_ mutated
    intro create idempotent made replays
    have claims : (s.calls caller).claimed = some claimed := by rw [calling]; rfl
    have bears : (s.calls caller).holder = some owner := by rw [calling]; exact holds
    have current : Current s caller := ⟨owner,bears,current_before owners turned claims bears owned⟩
    simp only [Agreeing,calling] at agreeing
    exact (agreeing provision mutated).2 create idempotent current made replays
  · rename_i differs
    rw [if_neg differs] at holds
    have current : Current s one := ⟨owner,holds,current_before owners turned (by rw [its]; rfl) holds owned⟩
    rcases turn_provides turned with ⟨remotes,_⟩ | ⟨_,_,_,_,provision,calling,lands,mutated,remotes,_⟩ <;> rw [remotes]
    · exact intact one claimed product remote its current
    · exact landing_keeps agreeing calling lands mutated one claimed product remote its current (intact one claimed product remote its current)

end Landings

theorem reached_intact (path : Reached (catalog deps) (both Closed (Agreeing deps)) s) : Intact deps s := by
  refine path.invariant (Intact deps) ?_ ?_
  · intro u initial caller claimed product remote its
    rw [initial.calls caller] at its
    cases its
  · intro u action next reached intact permitted moved
    cases action with
    | elapse | edit => cases moved; exact intact
    | outside => cases permitted.1
    | start caller call =>
        have moved : advance deps u (.start caller call) = some next := moved
        obtain ⟨_,starts,rfl⟩ := start_exact moved
        intro one claimed product remote its current
        obtain ⟨before,current⟩ := start_committing starts its current
        exact intact one claimed product remote before current
    | reply caller reply =>
        obtain ⟨effect,call,turned,rfl⟩ := reply_exact moved
        exact intact_turn intact (reached_versions reached) (reached_owners reached) permitted.2 turned

theorem reached_recoversUnbound (path : Reached (catalog deps) allowed s) : RecoversUnbound s := by
  refine path.invariant RecoversUnbound ?_ ?_
  · intro u initial caller claimed product remote its
    rw [initial.calls caller] at its
    cases its
  · intro u action next reached unbound _ moved
    cases action with
    | elapse | edit | outside => cases moved; exact unbound
    | start caller call =>
        have moved : advance deps u (.start caller call) = some next := moved
        obtain ⟨_,starts,rfl⟩ := start_exact moved
        intro one claimed product remote its current
        obtain ⟨before,current⟩ := start_committing starts its current
        exact unbound one claimed product remote before current
    | reply caller reply =>
        obtain ⟨effect,call,turned,rfl⟩ := reply_exact moved
        exact recoversUnbound_turn unbound (reached_owners reached) (reached_timely reached) turned

section Conclusions

theorem fenced_status (given : patch.status = some status) (updated : fenced s claimed patch = some row) : row.status = status := by
  obtain ⟨old,_,_,_,_,_,rfl⟩ := updateIfCurrent_some updated
  cases owner : claimed.attemptOwnerId <;> simp [CatalogSynchronization.patched,releasing,given]

-- Only a commit makes a row succeeded that was not.
theorem turn_concludes (turned : Turn deps s (.worker phase) reply effect call') (moved : s.row ≠ some row)
    (there : (s.apply deps effect).row = some row) (succeeded : row.status = .succeeded) :
    ∃ claimed product remote recovered, phase = .committing claimed product remote recovered ∧ reply = .returned ∧
      fenced s claimed (succeedPatch s remote) = some row ∧ effect = .commit row remote.providerProductId := by
  have unsucceeded : ∀ claimed patch status, patch.status = some status → status ≠ .succeeded →
      (s.apply deps (transition s claimed patch)).row ≠ some row := by
    intro claimed patch status given other after
    unfold transition at after
    split at after
    · rename_i updated_row updated
      cases after
      exact other ((fenced_status given updated).symm.trans succeeded)
    · exact moved after
  cases turned with
  | takes taken =>
      obtain ⟨old,_,_,_,_,rfl⟩ := takeClaim_some taken
      cases there
      cases succeeded
  | expires =>
      obtain ⟨old,before,same⟩ := Option.map_eq_some_iff.mp there
      split at same
      · rw [← same] at succeeded
        cases succeeded
      · rw [same] at before
        exact absurd before moved
  | skips => exact absurd there (unsucceeded _ skipPatch _ rfl nofun)
  | remembers => exact absurd there (unsucceeded _ (rememberPatch deps _) _ rfl nofun)
  | fails => exact absurd there (unsucceeded _ (failPatch deps _) _ rfl nofun)
  | commits current =>
      cases there
      exact ⟨_,_,_,_,rfl,rfl,current,rfl⟩
  | _ => exact absurd there moved

theorem concludes_equal (concludes : Concludes deps (both Closed (Agreeing deps)) s t row) (inside : canonical ∈ t.history)
    (version : canonical.updatedAt = row.canonicalVersion) :
    ∃ id remote, t.binding = some id ∧ t.remotes id = some remote ∧ productMatches deps canonical remote = true := by
  obtain ⟨reached,⟨caller,phase,reply,working,permitted,step⟩,moved,there,succeeded,_⟩ := concludes
  have versions := reached_versions reached
  obtain ⟨effect,call,turned,rfl⟩ := reply_exact step
  rw [working] at turned
  obtain ⟨claimed,product,remote,recovered,rfl,rfl,current,rfl⟩ := turn_concludes turned moved there succeeded
  have sourced := versions.calls caller
  rw [working] at sourced
  -- The row is of the generation claimed, whose product the worker has read.
  obtain ⟨old,before,old_version,_,_,owned,same⟩ := updateIfCurrent_some current
  have generation : row.canonicalVersion = claimed.canonicalVersion := by
    rw [same]
    exact old_version
  have read : product = canonical :=
    versions.single product sourced.1.1 canonical inside (sourced.1.2.trans (version.trans generation).symm)
  subst read
  have agreeing := permitted.2
  simp only [Agreeing,working] at agreeing
  have rest := agreeing (by rw [current]; nofun)
  have claims : (s.calls caller).claimed = some claimed := by rw [working]; rfl
  obtain ⟨owner,named⟩ := timely_claimed (reached_timely reached caller) claims
  rw [named] at owned
  have current : Current s caller := ⟨owner,by rw [working]; exact named,old,before,owned⟩
  cases recovered with
  | true =>
      obtain ⟨key,keyed,alike⟩ := rest
      have none_yet := reached_recoversUnbound reached caller claimed product remote working current
      obtain ⟨source,known,same,matched⟩ := ((reached_creations reached).unbound none_yet).made key _ keyed
      obtain ⟨after,found,matched⟩ := (Option.any_eq_true _ _).mp matched
      exact ⟨remote.providerProductId,after,rfl,found,productMatches_alike deps matched (alike source known same)⟩
  | false =>
      obtain ⟨after,found,agrees⟩ := (Option.any_eq_true _ _).mp rest
      obtain ⟨_,found',kept⟩ := (Option.any_eq_true _ _).mp (reached_intact reached caller claimed product remote working current)
      cases found.symm.trans found'
      exact ⟨remote.providerProductId,after,rfl,found,sent_unsent deps kept agrees⟩

theorem run_next (moved : advance deps s action = some u) (rest : List Action) :
    run (catalog deps) anyStep s (action :: rest) = run (catalog deps) anyStep u rest := by
  have moved : (catalog deps).advance s action = some u := moved
  simp [run,anyStep,moved]

theorem put_put (s : State) (caller : Nat) (call call' : Call) : (s.put caller call).put caller call' = s.put caller call' := by
  simp [State.put]

theorem apply_put (s : State) (effect : Effect) (caller : Nat) (call : Call) :
    (s.put caller call).apply deps effect = (s.apply deps effect).put caller call := by cases effect <;> rfl

-- What a call is at does not matter to the turn it takes, but for its phase.
theorem turn_put (taken : turn deps s call reply = some (effect,call')) :
    advance deps (s.put caller call) (.reply caller reply) = some ((s.apply deps effect).put caller call') := by
  have phase : (s.put caller call).calls caller = call := by rw [put_calls,if_pos rfl]
  have same : turn deps (s.put caller call) call reply = some (effect,call') := taken
  simp only [advance,phase,same,Option.map_some,apply_put,put_put]

theorem run_read (taken : turn deps s call reply = some (.nothing,call')) (rest : List Action) :
    run (catalog deps) anyStep (s.put caller call) (.reply caller reply :: rest) = run (catalog deps) anyStep (s.put caller call') rest :=
  run_next (turn_put taken) rest

-- A reconciler that nobody comes between compares what it finds.
theorem reconcile_at_once (idle : s.calls caller = .idle) (readable : deps.capabilities.catalogRead = true) (there : s.row = some row)
    (bound : s.binding = some reference) (found : s.remotes reference = some remote)
    (matched : productMatches deps s.product remote = true) (source : ReconciliationSource) : ∃ u row',
      run (catalog deps) anyStep s (reconcileSteps caller source) = some u ∧ u.row = some row' ∧ row'.status = .reconciled ∧
        row'.reconciliationState = .inSync := by
  have starts : advance deps s (.start caller (.reconciler (.product source))) = some (s.put caller (.reconciler (.product source))) := by
    simp [advance,idle,Call.starts]
  have asks : turn deps s (.reconciler (.product source)) .returned = some (.nothing,.reconciler (.binding source s.product)) := rfl
  have resolves : turn deps s (.reconciler (.binding source s.product)) .returned =
      some (.nothing,.reconciler (.existing source s.product s.binding)) := rfl
  have reads : turn deps s (.reconciler (.existing source s.product s.binding)) .returned =
      some (.nothing,.reconciler (.retrieving source s.product reference row)) := by
    simp [turn,reconcileTurn,bound,there,readable]
  have retrieves : turn deps s (.reconciler (.retrieving source s.product reference row)) .returned =
      some (.nothing,.reconciler (.transitioning source row (.compared true remote.providerVersion s.now))) := by
    simp [turn,reconcileTurn,found,compare,matched]
  have settles : turn deps s (.reconciler (.transitioning source row (.compared true remote.providerVersion s.now))) .returned =
      some (.move (row.patched (Reconciliation.compared true remote.providerVersion s.now).patch) (some source),.finished) := by
    simp [turn,reconcileTurn,there,updateIfCurrent,isGeneration,ownedBy,releasing]
  refine ⟨(s.apply deps (.move (row.patched (Reconciliation.compared true remote.providerVersion s.now).patch) (some source))).put caller .finished,
    row.patched (Reconciliation.compared true remote.providerVersion s.now).patch,?_,rfl,rfl,rfl⟩
  simp only [reconcileSteps,List.replicate]
  rw [run_next starts,run_read asks,run_read resolves,run_read reads,run_read retrieves,run_next (turn_put settles)]
  rfl

theorem synced_equal : SyncedEqual deps (both Closed (Agreeing deps)) where
  equal s t row canonical concludes inside version := concludes_equal concludes inside version
  confirmed := by
    intro s t row caller source concludes version readable idle
    have ⟨reached,⟨worker,phase,reply,_,permitted,step⟩,_,there,_⟩ := concludes
    have versions := versions_step (reached_versions reached) permitted.1 step
    obtain ⟨reference,remote,bound,found,matched⟩ := concludes_equal concludes versions.present version
    exact reconcile_at_once idle readable there bound found matched source

end Conclusions

section Update

-- The steps of two callers short of a provider call's answer and of a commit.
def quietly (s : State) : Action → Bool
  | .reply caller _ => decide (caller < 2) && match s.calls caller with
    | .worker (.calling _ _) | .worker (.committing _ _ _ _) => false
    | _ => true
  | .start caller _ => caller < 2
  | _ => true

def Quietly (s : State) (action : Action) : Prop := quietly s action = true

instance (s : State) (action : Action) : Decidable (Quietly s action) := inferInstanceAs (Decidable (_ = _))

theorem quietly_agreeing (quiet : Quietly s action) : Agreeing deps s action := by
  unfold Agreeing
  split
  · split
    all_goals first | trivial | (rename_i calling; simp [Quietly,quietly,calling] at quiet)
  · trivial

theorem quietly_idle (path : Path (catalog deps) (both Closed Quietly) s t) (idle : ∀ caller, 2 ≤ caller → s.calls caller = .idle) :
    ∀ caller, 2 ≤ caller → t.calls caller = .idle := by
  refine path.invariant (fun u => ∀ caller, 2 ≤ caller → u.calls caller = .idle) idle ?_
  intro u action next before permitted moved caller other
  have quiet := permitted.2
  cases action with
  | elapse | edit | outside => cases moved; exact before caller other
  | start mine call =>
      have moved : advance deps u (.start mine call) = some next := moved
      have few : mine < 2 := of_decide_eq_true quiet
      obtain ⟨_,_,rfl⟩ := start_exact moved
      rw [put_calls,if_neg (by omega)]
      exact before caller other
  | reply mine reply =>
      have moved : advance deps u (.reply mine reply) = some next := moved
      have few : mine < 2 := of_decide_eq_true ((Bool.and_eq_true _ _).mp quiet).1
      obtain ⟨effect,call,_,rfl⟩ := reply_exact moved
      rw [put_calls,if_neg (by omega),apply_calls]
      exact before caller other

def updateSteps : List Action :=
  [requestSteps 0,[.start 1 (.worker (.looking knownProduct.updatedAt knownKey)),.reply 1 .returned,.reply 1 (.drawn "owner"),
    .reply 1 .returned,.reply 1 .returned,.reply 1 .returned]].flatten

-- The call of the provider that the worker is at.
def updates (s : State) : Bool :=
  match s.calls 0,s.calls 1 with
  | .finished,.worker (.calling claimed _) => claimed.operation == .update
  | _,_ => false

def lands (s : State) : Bool :=
  match s.calls 1 with
  | .worker (.committing claimed _ remote false) => claimed.operation == .update && (s.remotes remote.providerProductId).isSome
  | _ => false

def concluded (s t : State) : Bool :=
  t.row.any fun row => s.row != some row && row.status == .succeeded && row.reconciliationState == .inSync &&
    row.canonicalVersion == knownProduct.updatedAt && t.product.updatedAt == knownProduct.updatedAt && decide (knownProduct ∈ t.history) &&
      t.binding == some "prod_1" && decide (t.calls 2 = .idle)

theorem updates_agreeing (updating : updates s = true) (idle : ∀ caller, 2 ≤ caller → s.calls caller = .idle) :
    Agreeing deps s (.reply 1 (.answered fresh version)) := by
  unfold updates at updating
  split at updating
  · rename_i claimed product finished calling
    have update : claimed.operation = .update := beq_iff_eq.mp updating
    simp only [Agreeing,calling]
    refine fun provision _ => ⟨?_,fun create => by rw [update] at create; cases create⟩
    intro other claimed product remote committing
    match other with
    | 0 => rw [finished] at committing; cases committing
    | 1 => rw [calling] at committing; cases committing
    | n + 2 => rw [idle (n + 2) (by omega)] at committing; cases committing
  · cases updating

theorem lands_agreeing (landing : lands s = true) : Agreeing deps s (.reply 1 .returned) ∧ ∃ phase, s.calls 1 = .worker phase := by
  unfold lands at landing
  split at landing
  · rename_i claimed product remote committing
    rw [Bool.and_eq_true,beq_iff_eq] at landing
    refine ⟨?_,_,committing⟩
    simp only [Agreeing,committing]
    intro _
    obtain ⟨after,found⟩ := Option.isSome_iff_exists.mp landing.2
    simp [found,landing.1,unsent]
  · cases landing

theorem synced_equal_updated : ∃ (s t u : State) (row row' : CatalogSynchronization) (remote : ProductDTO),
    Concludes (plainDependencies true) (both Closed (Agreeing (plainDependencies true))) s t row ∧
      t.binding = some "prod_1" ∧ t.remotes "prod_1" = some remote ∧ productMatches (plainDependencies true) knownProduct remote = true ∧
        run (catalog (plainDependencies true)) anyStep t (reconcileSteps 2 .webhook) = some u ∧ u.row = some row' ∧
          row'.status = .reconciled ∧ row'.reconciliationState = .inSync := by
  have found : (run (catalog (plainDependencies true)) (both Closed Quietly) knownStart updateSteps).any (fun r => updates r &&
      (advance (plainDependencies true) r (.reply 1 (.answered "" none))).any fun s => lands s &&
        (advance (plainDependencies true) s (.reply 1 .returned)).any (concluded s)) = true := by
    decide +kernel
  obtain ⟨r,quiet,found⟩ := run_lands found
  rw [Bool.and_eq_true] at found
  obtain ⟨updating,found⟩ := found
  obtain ⟨s,answered,found⟩ := (Option.any_eq_true _ _).mp found
  rw [Bool.and_eq_true] at found
  obtain ⟨landing,found⟩ := found
  obtain ⟨t,moved,done⟩ := (Option.any_eq_true _ _).mp found
  obtain ⟨row,there,done⟩ := (Option.any_eq_true _ _).mp done
  simp only [Bool.and_eq_true,bne_iff_ne,beq_iff_eq,decide_eq_true_eq] at done
  obtain ⟨⟨⟨⟨⟨⟨⟨changed,succeeded⟩,synced⟩,version⟩,present⟩,inside⟩,bound⟩,idle⟩ := done
  have reached : Reached (catalog (plainDependencies true)) (both Closed (Agreeing (plainDependencies true))) s :=
    ⟨knownStart,knownStart_initial,Path.step (quiet.weaken fun _ _ permitted => ⟨permitted.1,quietly_agreeing permitted.2⟩)
      (show both _ _ r (.reply 1 (.answered "" none)) from ⟨rfl,updates_agreeing updating (quietly_idle quiet fun _ _ => rfl)⟩) answered⟩
  obtain ⟨agreeing,phase,working⟩ := lands_agreeing landing
  have concludes : Concludes (plainDependencies true) (both Closed (Agreeing (plainDependencies true))) s t row :=
    ⟨reached,⟨1,phase,.returned,working,⟨rfl,agreeing⟩,moved⟩,changed,there,succeeded,synced⟩
  obtain ⟨id,remote,held,remotes,matched⟩ := synced_equal.equal s t row knownProduct concludes inside version.symm
  cases bound.symm.trans held
  obtain ⟨u,row',run,after,reconciled,confirmed⟩ :=
    synced_equal.confirmed s t row 2 .webhook concludes (present.trans version.symm) rfl idle
  exact ⟨s,t,u,row,row',remote,concludes,bound,remotes,matched,run,after,reconciled,confirmed⟩

end Update

section Archive

-- The product is renamed and taken off sale; the archive that follows sends no name.
def archived : CanonicalProduct := ⟨"New plan",none,false,none,"2026-01-02T00:00:00.000Z"⟩

def archivedKey : String := deriveCatalogSyncKey (plainDependencies true) .archive archived.updatedAt

def archiveSteps : List Action :=
  [.edit archived :: requestSteps 0,[.start 1 (.worker (.looking archived.updatedAt archivedKey)),.reply 1 .returned,
    .reply 1 (.drawn "owner"),.reply 1 .returned,.reply 1 .returned,.reply 1 .returned,.reply 1 (.answered "" none)]].flatten

def falselySynced (s t : State) : Bool :=
  match s.calls 1,t.row with
  | .worker _,some row => s.row != some row && row.status == .succeeded && row.reconciliationState == .inSync &&
      decide (archived ∈ t.history) && archived.updatedAt == row.canonicalVersion &&
        t.binding.all fun id => (t.remotes id).all fun remote => !productMatches (plainDependencies true) archived remote
  | _,_ => false

theorem archive_unequal : ¬ SyncedEqual (plainDependencies true) Closed := by
  intro synced
  have found : (run (catalog (plainDependencies true)) Closed knownStart archiveSteps).any (fun s =>
      (advance (plainDependencies true) s (.reply 1 .returned)).any (falselySynced s)) = true := by
    decide +kernel
  obtain ⟨s,reached,found⟩ := run_reaches knownStart_initial found
  obtain ⟨t,step,found⟩ := (Option.any_eq_true _ _).mp found
  unfold falselySynced at found
  split at found
  · rename_i phase row working there
    simp only [Bool.and_eq_true,bne_iff_ne,beq_iff_eq,decide_eq_true_eq] at found
    obtain ⟨⟨⟨⟨⟨moved,succeeded⟩,state⟩,inside⟩,version⟩,differs⟩ := found
    have concludes : Concludes (plainDependencies true) Closed s t row :=
      ⟨reached,⟨1,phase,.returned,working,rfl,step⟩,moved,there,succeeded,state⟩
    obtain ⟨id,remote,bound,held,matched⟩ := synced.equal s t row archived concludes inside version
    simp [bound,held,matched] at differs
  · cases found

end Archive

end Payable.Catalog
