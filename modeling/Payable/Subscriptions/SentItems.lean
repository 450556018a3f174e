import Payable.Migrations.Writes
import Payable.Subscriptions.Canceled

namespace Payable.Subscriptions
open Checked Domain Runs Tables
open Migrations (Claim MigrationError tenantKey acquire_acquired)

def storedItems (store : Store) (subscriptionId : String) : List SubscriptionItem :=
  store.items.filter (·.subscriptionId == subscriptionId)

-- The one subscription whose items are changed, and the provider that has it too.
structure Target where
  providerName : String
  tenantId : Option String
  subscriptionId : String

-- The calls beside the items of the provider. proposed is a swap for later that the provider
-- received last: what is stored does not change for it.
structure Remote where
  state : State
  provider : List SubscriptionLineItem
  proposed : Option (String × String)

def Mutation.proposes (mutation : Mutation) : Option (String × String) :=
  match mutation.request.change with
  | .quantity _ => none
  | .swap priceId effectiveTiming =>
    if effectiveTiming = .immediate then none else some (mutation.selectedItem.id,priceId)

-- The provider replaces its items by the list it receives.
def Remote.received (r : Remote) : Action → Remote
  | .replied caller (some _) =>
    match r.state.calls caller with
    | some (.calling mutation _ input) => {r with provider := input.items,proposed := mutation.proposes}
    | _ => r
  | _ => r

def awaited (proposed : Option (String × String)) (item : SubscriptionItem) : SubscriptionLineItem :=
  match proposed with
  | none => item.line
  | some (itemId,priceId) => ⟨if item.id == itemId then priceId else item.priceId,item.quantity⟩

def Mutation.requested (mutation : Mutation) (item : SubscriptionItem) : SubscriptionLineItem :=
  requestedLine mutation.request.change (item.id == mutation.selectedItem.id) item

def remote (localeCompare : String → String → Ordering) (target : Target) : Runs.System Remote Action where
  initial := fun r => Started r.state ∧ r.proposed = none ∧
    r.provider.Perm ((storedItems r.state.store target.subscriptionId).map SubscriptionItem.line)
  advance := fun r action => (advance localeCompare r.state action).map fun state => {r.received action with state := state}

-- The mutation of a call that holds its claim: it has reached the provider, or may have.
def Phase.held : Phase → Option Mutation
  | .calling mutation _ _ | .persisting mutation _ _ => some mutation
  | .resolving _ | .binding _ _ | .checkingClaim _ _ _ | .checkingMigration _ _ _ | .selecting _ _ _ | .acquiring _
  | .done => none

def Phase.holds (phase : Phase) : Bool := phase.held.isSome

-- Quantity updates and swaps of one subscription, of which each that calls the provider
-- finishes successfully.
def succeeds (target : Target) (r : Remote) : Action → Bool
  | .handle _ request => request.providerName == target.providerName && request.tenantId == target.tenantId
  | .read caller _ =>
    match r.state.calls caller with
    | some (.resolving request) =>
      (findByName r.state.store.subscriptions request.customerId request.name request.tenantId).all
        (·.id == target.subscriptionId)
    | _ => true
  | .replied _ dto => dto.isSome
  | .persist caller commit =>
    match r.state.calls caller with
    | some (.persisting mutation ownerToken dto) =>
      commit ≠ .rolledBack && (persistClaimed r.state.store mutation ownerToken dto).toOption.isSome
    | _ => true
  | .crash caller => !(r.state.calls caller).any Phase.holds
  | .webhook _ => false
  | .acquire _ _ _ _ => true

-- A call acquires the claim while what it selected its item from is still what is stored.
def selectionStands (r : Remote) : Action → Bool
  | .acquire caller _ _ _ =>
    match r.state.calls caller with
    | some (.acquiring mutation) => decide (mutation.items.Perm (storedItems r.state.store mutation.subscription.id))
    | _ => true
  | _ => true

def Succeeding (target : Target) (r : Remote) (action : Action) : Prop := succeeds target r action = true

def Selected (r : Remote) (action : Action) : Prop := selectionStands r action = true

instance (target : Target) (r : Remote) (action : Action) : Decidable (Succeeding target r action) :=
  inferInstanceAs (Decidable (_ = _))

instance (r : Remote) (action : Action) : Decidable (Selected r action) := inferInstanceAs (Decidable (_ = _))

def Phase.About (target : Target) : Phase → Prop
  | .resolving request => request.tenantId = target.tenantId
  | .binding request subscription | .checkingClaim request subscription _ | .checkingMigration request subscription _
  | .selecting request subscription _ => request.tenantId = target.tenantId ∧ subscription.id = target.subscriptionId
  | .acquiring mutation | .calling mutation _ _ | .persisting mutation _ _ =>
    mutation.request.tenantId = target.tenantId ∧ mutation.subscription.id = target.subscriptionId
  | .done => True

def Phase.answered : Phase → Bool
  | .persisting _ _ _ => true
  | _ => false

-- One call at a time holds the claim; what it sent is what is stored with its own change.
structure Kept (target : Target) (r : Remote) : Prop where
  about : ∀ caller phase, r.state.calls caller = some phase → phase.About target
  locked : ∀ caller phase, r.state.calls caller = some phase → phase.holds = true →
    ∃ claim ∈ r.state.store.claims, claim.locks (tenantKey target.tenantId) target.subscriptionId = true
  alone : ∀ one other phase phase', r.state.calls one = some phase → phase.holds = true →
    r.state.calls other = some phase' → phase'.holds = true → one = other
  selected : ∀ caller phase mutation, r.state.calls caller = some phase → phase.held = some mutation →
    mutation.items.Perm (storedItems r.state.store target.subscriptionId)
  sent : ∀ caller mutation ownerToken input, r.state.calls caller = some (.calling mutation ownerToken input) →
    input = mutation.input
  answered : ∀ caller mutation ownerToken dto, r.state.calls caller = some (.persisting mutation ownerToken dto) →
    r.provider = mutation.input.items ∧ r.proposed = mutation.proposes
  settled : (∀ caller phase, r.state.calls caller = some phase → phase.answered = false) →
    r.provider.Perm ((storedItems r.state.store target.subscriptionId).map (awaited r.proposed))

theorem held_holds {phase : Phase} (held : phase.held = some mutation) : phase.holds = true := by
  simp [Phase.holds,held]

theorem answered_holds {phase : Phase} (answered : phase.answered = true) : phase.holds = true := by
  cases phase <;> first | rfl | cases answered

theorem storedItems_items {store next : Store} (items : next.items = store.items) (subscriptionId : String) :
    storedItems next subscriptionId = storedItems store subscriptionId := by
  unfold storedItems
  rw [items]

-- After a step of one caller, another stands where it stood.
theorem put_cases {calls next : Nat → Option Phase} (put : next = Function.update calls caller (some phase))
    (live : next other = some its) : other = caller ∧ its = phase ∨ other ≠ caller ∧ calls other = some its := by
  rw [put] at live
  by_cases same : other = caller
  · subst same
    cases (Function.update_self other _ calls).symm.trans live
    exact .inl ⟨rfl,rfl⟩
  · exact .inr ⟨same,(Function.update_of_ne same _ _).symm.trans live⟩

-- A call that does not hold the claim moves; no item changes and no claim goes.
theorem kept_idle {r next : Remote} (kept : Kept target r) (provider : next.provider = r.provider)
    (proposed : next.proposed = r.proposed) (items : next.state.store.items = r.state.store.items)
    (claims : ∀ claim ∈ r.state.store.claims, claim ∈ next.state.store.claims)
    (calls : next.state.calls = Function.update r.state.calls caller (some phase)) (idle : phase.holds = false)
    (was : ∀ before, r.state.calls caller = some before → before.holds = false) (about : phase.About target) :
    Kept target next := by
  have held : ∀ other its, next.state.calls other = some its → its.holds = true → r.state.calls other = some its := by
    intro other its live holds
    rcases put_cases calls live with ⟨_,rfl⟩ | ⟨_,old⟩
    · rw [idle] at holds
      cases holds
    · exact old
  have stored := storedItems_items items target.subscriptionId
  refine ⟨?_,?_,?_,?_,?_,?_,?_⟩
  · intro other its live
    rcases put_cases calls live with ⟨_,rfl⟩ | ⟨_,old⟩
    · exact about
    · exact kept.about other its old
  · intro other its live holds
    obtain ⟨claim,member,locks⟩ := kept.locked other its (held other its live holds) holds
    exact ⟨claim,claims claim member,locks⟩
  · intro one other its its' live holds live' holds'
    exact kept.alone one other its its' (held one its live holds) holds (held other its' live' holds') holds'
  · intro other its mutation live holding
    rw [stored]
    exact kept.selected other its mutation (held other its live (held_holds holding)) holding
  · intro other mutation ownerToken input live
    exact kept.sent other mutation ownerToken input (held other _ live rfl)
  · intro other mutation ownerToken dto live
    rw [provider,proposed]
    exact kept.answered other mutation ownerToken dto (held other _ live rfl)
  · intro idle_
    rw [provider,proposed,stored]
    apply kept.settled
    intro other its live
    by_cases same : other = caller
    · subst same
      exact Bool.eq_false_iff.mpr fun answered => Bool.false_ne_true ((was its live).symm.trans (answered_holds answered))
    · exact idle_ other its (by rw [calls]; exact (Function.update_of_ne same _ _).trans live)

theorem read_about {store : Store} {phase next : Phase} (about : phase.About target) (read : phase.read store migrating = some next)
    (found : ∀ request, phase = .resolving request →
      (findByName store.subscriptions request.customerId request.name request.tenantId).all (·.id == target.subscriptionId) =
        true) : next.About target := by
  cases phase with
  | resolving request =>
      cases read
      have named := found request rfl
      split
      · trivial
      · rename_i subscription here
        rw [here] at named
        exact ⟨about,by simpa using named⟩
  | binding request subscription =>
      cases read
      split
      · trivial
      · exact about
  | checkingClaim request subscription providerSubscriptionId | checkingMigration request subscription providerSubscriptionId =>
      cases read
      split
      · trivial
      · exact about
  | selecting request subscription providerSubscriptionId =>
      cases read
      split
      · trivial
      · exact about
  | acquiring | calling | persisting | done => cases read

theorem read_idle {store : Store} {phase next : Phase} (read : phase.read store migrating = some next) :
    phase.holds = false ∧ next.holds = false := by
  cases phase with
  | resolving | binding | checkingClaim | checkingMigration | selecting =>
      cases read
      refine ⟨rfl,?_⟩
      split <;> rfl
  | acquiring | calling | persisting | done => cases read

-- What a step does where it commits a transaction.
theorem commits_cases {s : State} (caller : Nat) (commit : Commit) (ran : Except MigrationError Store) (phase : Phase) :
    (commits s caller commit ran phase = s.put caller .done ∧ (commit = .rolledBack ∨ ran.toOption = none)) ∨
      ∃ store, ran = .ok store ∧ commit ≠ .rolledBack ∧
        (commits s caller commit ran phase = (s.put caller phase).withStore store ∨
          commits s caller commit ran phase = (s.put caller .done).withStore store) := by
  cases ran with
  | error failure => exact .inl ⟨rfl,.inr rfl⟩
  | ok store =>
      cases commit with
      | committed => exact .inr ⟨store,rfl,Commit.noConfusion,.inl rfl⟩
      | rolledBack => exact .inl ⟨rfl,.inl rfl⟩
      | unacknowledged => exact .inr ⟨store,rfl,Commit.noConfusion,.inr rfl⟩

theorem acquireClaim_acquired {store next : Store} (ran : acquireClaim store mutation ownerToken uuid = .ok next) :
    Migrations.Acquired store.claims next.claims (mutation.claim ownerToken uuid) ∧ next.items = store.items := by
  simp only [acquireClaim,bind_ok,pure_ok] at ran
  obtain ⟨claims,acquired,rfl⟩ := ran
  exact ⟨Migrations.acquire_acquired acquired,rfl⟩

theorem update_found {next : List Subscription} (ran : update subscriptions subscriptionId patch tenantId = .ok next) :
    (findById next subscriptionId tenantId).isSome = true := by
  unfold update at ran
  split at ran
  · cases ran
  · rename_i row found
    cases ran
    obtain ⟨here,visible⟩ := Option.filter_eq_some_iff.mp found
    rw [findById,lookup_patchKey subscriptions patch.apply_id,here]
    simp only [Option.map_some,Option.filter_some]
    have same : inTenant tenantId (patch.apply row).tenantId = true := visible
    rw [if_pos same]
    rfl

theorem updateItem_stored (found : (findById subscriptions subscriptionId tenantId).isSome = true)
    (items : List SubscriptionItem) (patch : SubscriptionItemPatch) :
    (updateItem subscriptions items subscriptionId itemId patch tenantId).filter (·.subscriptionId == subscriptionId) =
      (items.filter (·.subscriptionId == subscriptionId)).map fun item =>
        if item.id == itemId then patch.apply item else item := by
  rw [updateItem,if_pos found,List.filter_map]
  have same : (fun item : SubscriptionItem => item.subscriptionId == subscriptionId) ∘
      (fun row => if row.id = itemId ∧ row.subscriptionId = subscriptionId then patch.apply row else row) =
      fun item => item.subscriptionId == subscriptionId := by
    funext item
    simp only [Function.comp_apply]
    split <;> rfl
  rw [same]
  apply List.map_congr_left
  intro item member
  have its : item.subscriptionId = subscriptionId := by simpa using (List.mem_filter.mp member).2
  simp [its]

-- The items a call persists are stored with the lines it sent.
theorem persisted_lines {store next : Store} (ran : persistClaimed store mutation ownerToken dto = .ok next) :
    (storedItems next mutation.subscription.id).map (awaited mutation.proposes) =
      (storedItems store mutation.subscription.id).map mutation.requested := by
  simp only [persistClaimed,persist,bind_ok,pure_ok] at ran
  obtain ⟨_,⟨subscriptions,updated,rfl⟩,claims,_,rfl⟩ := ran
  have found := update_found updated
  obtain ⟨request,subscription,providerSubscriptionId,selectedItem,items⟩ := mutation
  obtain ⟨providerName,tenantId,customerId,name,itemId,change⟩ := request
  cases change with
  | quantity quantity =>
      simp only [storedItems,Mutation.itemPatch,Mutation.proposes,updateItem_stored found,List.map_map]
      apply List.map_congr_left
      intro item _
      by_cases its : item.id = selectedItem.id
      · simp [awaited,Mutation.requested,requestedLine,SubscriptionItem.line,SubscriptionItemPatch.apply,its]
      · simp [awaited,Mutation.requested,requestedLine,SubscriptionItem.line,its]
  | swap priceId effectiveTiming =>
      by_cases now : effectiveTiming = .immediate
      · simp only [storedItems,Mutation.itemPatch,Mutation.proposes,if_pos now,updateItem_stored found,List.map_map]
        apply List.map_congr_left
        intro item _
        by_cases its : item.id = selectedItem.id
        · simp [awaited,Mutation.requested,requestedLine,SubscriptionItem.line,SubscriptionItemPatch.apply,its]
        · simp [awaited,Mutation.requested,requestedLine,SubscriptionItem.line,its]
      · simp only [storedItems,Mutation.itemPatch,Mutation.proposes,if_neg now]
        rfl

theorem acquired_holder {r : Remote} (kept : Kept target r)
    (acquired : Migrations.Acquired r.state.store.claims claims claim)
    (tenant : claim.tenantKey = tenantKey target.tenantId) (subscription : claim.subscriptionId = target.subscriptionId) :
    ∀ other phase, r.state.calls other = some phase → phase.holds = false := by
  intro other phase live
  refine Bool.eq_false_iff.mpr fun holds => ?_
  obtain ⟨owner,member,locks⟩ := kept.locked other phase live holds
  have unlocked := (acquired.1 owner member).2
  rw [tenant,subscription,locks] at unlocked
  cases unlocked

theorem kept_acquired {r next : Remote} (kept : Kept target r) (provider : next.provider = r.provider)
    (proposed : next.proposed = r.proposed) (live : r.state.calls caller = some (.acquiring mutation))
    (standing : mutation.items.Perm (storedItems r.state.store mutation.subscription.id))
    (acquired : Migrations.Acquired r.state.store.claims next.state.store.claims (mutation.claim ownerToken uuid))
    (items : next.state.store.items = r.state.store.items)
    (calls : next.state.calls = Function.update r.state.calls caller (some (.calling mutation ownerToken mutation.input))) :
    Kept target next := by
  obtain ⟨tenant,subscription⟩ := kept.about caller _ live
  have nobody := acquired_holder kept acquired (congrArg tenantKey tenant) subscription
  have holder : ∀ other its, next.state.calls other = some its → its.holds = true →
      other = caller ∧ its = .calling mutation ownerToken mutation.input := by
    intro other its live holds
    rcases put_cases calls live with its_ | ⟨_,old⟩
    · exact its_
    · exact absurd (nobody other its old) (by rw [holds]; exact Bool.noConfusion)
  have stored := storedItems_items items target.subscriptionId
  refine ⟨?_,?_,?_,?_,?_,?_,?_⟩
  · intro other its live
    rcases put_cases calls live with ⟨_,rfl⟩ | ⟨_,old⟩
    · exact ⟨tenant,subscription⟩
    · exact kept.about other its old
  · intro other its live holds
    refine ⟨mutation.claim ownerToken uuid,by rw [acquired.2]; simp,?_⟩
    simp [Migrations.Claim.locks,Migrations.Claim.active,Mutation.claim,tenant,subscription]
  · intro one other its its' live holds live' holds'
    exact (holder one its live holds).1.trans (holder other its' live' holds').1.symm
  · intro other its held live holding
    obtain ⟨_,rfl⟩ := holder other its live (held_holds holding)
    cases holding
    rw [stored,← subscription]
    exact standing
  · intro other held ownerToken input live
    obtain ⟨_,same⟩ := holder other _ live rfl
    cases same
    rfl
  · intro other held ownerToken dto live
    obtain ⟨_,same⟩ := holder other _ live rfl
    cases same
  · intro _
    rw [provider,proposed,stored]
    apply kept.settled
    intro other its live
    exact Bool.eq_false_iff.mpr fun answered => Bool.false_ne_true ((nobody other its live).symm.trans (answered_holds answered))

theorem kept_replied {r next : Remote} (kept : Kept target r)
    (live : r.state.calls caller = some (.calling mutation ownerToken input)) (provider : next.provider = input.items)
    (proposed : next.proposed = mutation.proposes) (store : next.state.store = r.state.store)
    (calls : next.state.calls = Function.update r.state.calls caller (some (.persisting mutation ownerToken dto))) :
    Kept target next := by
  have holder : ∀ other its, next.state.calls other = some its → its.holds = true →
      other = caller ∧ its = .persisting mutation ownerToken dto := by
    intro other its live' holds
    rcases put_cases calls live' with its_ | ⟨apart,old⟩
    · exact its_
    · exact absurd (kept.alone other caller its _ old holds live rfl) apart
  refine ⟨?_,?_,?_,?_,?_,?_,?_⟩
  · intro other its live'
    rcases put_cases calls live' with ⟨_,rfl⟩ | ⟨_,old⟩
    · exact kept.about caller (.calling mutation ownerToken input) live
    · exact kept.about other its old
  · intro other its live' holds
    rw [store]
    exact kept.locked caller _ live rfl
  · intro one other its its' live' holds live'' holds'
    exact (holder one its live' holds).1.trans (holder other its' live'' holds').1.symm
  · intro other its held live' holding
    obtain ⟨_,rfl⟩ := holder other its live' (held_holds holding)
    cases holding
    rw [store]
    exact kept.selected caller _ mutation live rfl
  · intro other held ownerToken input live'
    obtain ⟨_,same⟩ := holder other _ live' rfl
    cases same
  · intro other held ownerToken dto live'
    obtain ⟨_,same⟩ := holder other _ live' rfl
    cases same
    rw [provider,kept.sent caller mutation _ input live]
    exact ⟨rfl,proposed⟩
  · intro unanswered
    have its := unanswered caller _ (by rw [calls]; exact Function.update_self ..)
    cases its

theorem kept_persisted {r next : Remote} (kept : Kept target r)
    (live : r.state.calls caller = some (.persisting mutation ownerToken dto)) (provider : next.provider = r.provider)
    (proposed : next.proposed = r.proposed)
    (ran : persistClaimed r.state.store mutation ownerToken dto = .ok next.state.store)
    (calls : next.state.calls = Function.update r.state.calls caller (some .done)) : Kept target next := by
  obtain ⟨_,subscription⟩ := kept.about caller _ live
  obtain ⟨sent,proposes⟩ := kept.answered caller mutation ownerToken dto live
  have nobody : ∀ other its, next.state.calls other = some its → its.holds = true → False := by
    intro other its live' holds
    rcases put_cases calls live' with ⟨_,rfl⟩ | ⟨apart,old⟩
    · cases holds
    · exact apart (kept.alone other caller its _ old holds live rfl)
  refine ⟨?_,?_,?_,?_,?_,?_,?_⟩
  · intro other its live'
    rcases put_cases calls live' with ⟨_,rfl⟩ | ⟨_,old⟩
    · trivial
    · exact kept.about other its old
  · exact fun other its live' holds => (nobody other its live' holds).elim
  · exact fun one other its its' live' holds _ _ => (nobody one its live' holds).elim
  · exact fun other its held live' holding => (nobody other its live' (held_holds holding)).elim
  · exact fun other held ownerToken input live' => (nobody other _ live' rfl).elim
  · exact fun other held ownerToken dto live' => (nobody other _ live' rfl).elim
  · intro _
    rw [provider,proposed,sent,proposes,← subscription,persisted_lines ran,subscription]
    exact (kept.selected caller _ mutation live rfl).map _

theorem received_same {r : Remote} (quiet : ∀ caller dto, action ≠ .replied caller (some dto)) : r.received action = r := by
  unfold Remote.received
  split
  · exact absurd rfl (quiet _ _)
  · rfl

theorem kept_preserved {r next : Remote} (kept : Kept target r) (succeeding : Succeeding target r action)
    (selected : Selected r action) (moved : (remote localeCompare target).advance r action = some next) : Kept target next := by
  obtain ⟨state,did,rfl⟩ := Option.map_eq_some_iff.mp moved
  cases action with
  | handle caller request =>
      rw [received_same (by intro _ _; exact Action.noConfusion)]
      simp only [advance] at did
      split at did
      · cases did
      · rename_i idle
        split at did <;> cases did
        simp only [Succeeding,succeeds,Bool.and_eq_true,beq_iff_eq] at succeeding
        exact kept_idle kept rfl rfl rfl (fun _ member => member) rfl rfl (by simp [idle]) succeeding.2
  | read caller migrating =>
      rw [received_same (by intro _ _; exact Action.noConfusion)]
      simp only [advance,Option.bind_eq_bind,Option.bind_eq_some_iff] at did
      obtain ⟨phase,live,after,read,same⟩ := did
      cases same
      obtain ⟨was,idle⟩ := read_idle read
      refine kept_idle kept rfl rfl rfl (fun _ member => member) rfl idle (by simp [live,was]) ?_
      refine read_about (kept.about caller phase live) read ?_
      intro request same
      subst same
      simpa only [Succeeding,succeeds,live] using succeeding
  | acquire caller ownerToken uuid commit =>
      rw [received_same (by intro _ _; exact Action.noConfusion)]
      simp only [advance] at did
      split at did
      · rename_i mutation live
        split at did <;> cases did
        simp only [Selected,selectionStands,live,decide_eq_true_eq] at selected
        rcases commits_cases caller commit _ (.calling mutation ownerToken mutation.input) with
          ⟨same,_⟩ | ⟨store,ran,_,same | same⟩ <;> rw [same]
        · exact kept_idle kept rfl rfl rfl (fun _ member => member) rfl rfl (by simp [live,Phase.holds,Phase.held]) trivial
        · obtain ⟨acquired,items⟩ := acquireClaim_acquired ran
          exact kept_acquired kept rfl rfl live selected acquired items rfl
        · obtain ⟨acquired,items⟩ := acquireClaim_acquired ran
          refine kept_idle kept rfl rfl items ?_ rfl rfl (by simp [live,Phase.holds,Phase.held]) trivial
          intro claim member
          exact acquired.2 ▸ List.mem_append_left _ member
      · cases did
  | replied caller dto =>
      cases dto with
      | none => cases succeeding
      | some dto =>
          simp only [advance] at did
          split at did <;> cases did
          rename_i mutation ownerToken input live
          simp only [Remote.received,live]
          exact kept_replied kept live rfl rfl rfl rfl
  | persist caller commit =>
      rw [received_same (by intro _ _; exact Action.noConfusion)]
      simp only [advance] at did
      split at did
      · rename_i mutation ownerToken dto live
        cases did
        simp only [Succeeding,succeeds,live,Bool.and_eq_true,decide_eq_true_eq] at succeeding
        rcases commits_cases caller commit (persistClaimed r.state.store mutation ownerToken dto) .done with
          ⟨_,rolledBack | threw⟩ | ⟨store,ran,_,same | same⟩
        · exact absurd rolledBack succeeding.1
        · rw [threw] at succeeding
          cases succeeding.2
        all_goals
          rw [same]
          exact kept_persisted kept live rfl rfl ran rfl
      · cases did
  | webhook webhook => cases succeeding
  | crash caller =>
      rw [received_same (by intro _ _; exact Action.noConfusion)]
      simp only [advance,Option.bind_eq_bind,Option.bind_eq_some_iff] at did
      obtain ⟨phase,live,same⟩ := did
      cases same
      have was : phase.holds = false := by simpa [Succeeding,succeeds,live] using succeeding
      exact kept_idle kept rfl rfl rfl (fun _ member => member) rfl rfl (by simp [live,was]) trivial

theorem reached_kept {r : Remote} (path : Reached (remote localeCompare target) (both (Succeeding target) Selected) r) :
    Kept target r := by
  refine path.invariant (Kept target) ?_ ?_
  · intro u ⟨⟨_,_,idle⟩,none_,same⟩
    refine ⟨?_,?_,?_,?_,?_,?_,?_⟩
    case refine_7 =>
      intro _
      rw [none_]
      exact same
    all_goals
      intro caller
      simp [idle]
  · intro u action next _ kept permitted moved
    exact kept_preserved kept permitted.1 permitted.2 moved

-- Where every call acquires its claim while its selection stands, it sends the stored items
-- with its own change; and when all calls are over, the provider's items are those stored.
theorem sent_items_stored {r : Remote}
    (path : Reached (remote localeCompare target) (both (Succeeding target) Selected) r) :
    (∀ caller mutation ownerToken input, r.state.calls caller = some (.calling mutation ownerToken input) →
      input.items.Perm ((storedItems r.state.store target.subscriptionId).map mutation.requested)) ∧
    ((∀ caller phase, r.state.calls caller = some phase → phase = .done) →
      r.provider.Perm ((storedItems r.state.store target.subscriptionId).map (awaited r.proposed))) := by
  have kept := reached_kept path
  refine ⟨?_,?_⟩
  · intro caller mutation ownerToken input live
    rw [kept.sent caller mutation ownerToken input live]
    exact (kept.selected caller _ mutation live rfl).map _
  · intro finished
    apply kept.settled
    intro caller phase live
    rw [finished caller phase live]
    rfl

section Schedules

def Action.caller : Action → Option Nat
  | .handle caller _ | .read caller _ | .acquire caller _ _ _ | .replied caller _ | .persist caller _ | .crash caller =>
    some caller
  | .webhook _ => none

theorem commits_others {s : State} (apart : other ≠ caller) : (commits s caller commit ran phase).calls other = s.calls other := by
  rcases commits_cases caller commit ran phase with ⟨same,_⟩ | ⟨store,_,_,same | same⟩ <;> rw [same] <;>
    exact Function.update_of_ne apart _ _

theorem advance_others {s next : State} (moved : advance localeCompare s action = some next)
    (apart : action.caller ≠ some other) : next.calls other = s.calls other := by
  have apart_ : ∀ caller, action.caller = some caller → other ≠ caller := fun caller its same => apart (same ▸ its)
  cases action with
  | handle caller request =>
      simp only [advance] at moved
      split at moved
      · cases moved
      · split at moved <;> cases moved
        exact Function.update_of_ne (apart_ caller rfl) _ _
  | read caller migrating =>
      simp only [advance,Option.bind_eq_bind,Option.bind_eq_some_iff] at moved
      obtain ⟨_,_,_,_,same⟩ := moved
      cases same
      exact Function.update_of_ne (apart_ caller rfl) _ _
  | acquire caller ownerToken uuid commit =>
      simp only [advance] at moved
      split at moved
      · split at moved <;> cases moved
        exact commits_others (apart_ caller rfl)
      · cases moved
  | replied caller dto =>
      simp only [advance] at moved
      split at moved <;> cases moved
      exact Function.update_of_ne (apart_ caller rfl) _ _
  | persist caller commit =>
      simp only [advance] at moved
      split at moved <;> cases moved
      exact commits_others (apart_ caller rfl)
  | webhook webhook =>
      obtain ⟨store,_,rfl⟩ := Option.map_eq_some_iff.mp moved
      rfl
  | crash caller =>
      simp only [advance,Option.bind_eq_bind,Option.bind_eq_some_iff] at moved
      obtain ⟨_,_,same⟩ := moved
      cases same
      exact Function.update_of_ne (apart_ caller rfl) _ _

-- The runs of the first two callers.
def OfTwo (_ : Remote) (action : Action) : Prop := action.caller = some 0 ∨ action.caller = some 1

instance (r : Remote) (action : Action) : Decidable (OfTwo r action) := inferInstanceAs (Decidable (_ ∨ _))

theorem two_idle {r : Remote} (path : Reached (remote localeCompare target) (both allowed OfTwo) r) (later : 2 ≤ caller) :
    r.state.calls caller = none := by
  refine path.invariant (fun u => u.state.calls caller = none) ?_ ?_
  · exact fun u initial => initial.1.2.2 caller
  · intro u action next _ idle permitted moved
    obtain ⟨state,did,rfl⟩ := Option.map_eq_some_iff.mp moved
    refine (advance_others did ?_).trans idle
    rcases permitted.2 with its | its <;> rw [its] <;> intro same <;> cases same <;> omega

def twoItems : Remote :=
  ⟨⟨⟨[storedSubscription],[⟨"i1","s1","p1",some "si_1",1,0⟩,⟨"i2","s1","p2",some "si_2",1,1⟩],
      [⟨"b1",none,"s1","stripe","sub_1",none⟩],[],[]⟩,[],fun _ => none⟩,[⟨"p1",1⟩,⟨"p2",1⟩],none⟩

def stripeTarget : Target := ⟨"stripe",none,"s1"⟩

def selecting (caller : Nat) (itemId : String) (quantity : Nat) : List Action :=
  [.handle caller ⟨"stripe",none,"c1","default",some itemId,.quantity quantity⟩,.read caller false,.read caller false,
    .read caller false,.read caller false,.read caller false]

def finishing (caller : Nat) : List Action := [.replied caller (some (answered .active)),.persist caller .committed]

-- Both select; the first finishes before the second acquires.
def racing : List Action :=
  [selecting 0 "i1" 5,selecting 1 "i2" 7,[.acquire 0 "t0" "u0" .committed],finishing 0,
    [.acquire 1 "t1" "u1" .committed]].flatten

theorem twoItems_initial : (remote compare stripeTarget).initial twoItems := by
  refine ⟨⟨List.nodup_singleton _,?_,fun _ => rfl⟩,rfl,.refl _⟩
  intro claim member
  cases member

def sendsStale (r : Remote) : Bool :=
  match r.state.calls 1 with
  | some (.calling mutation _ input) => !decide (input.items.Perm ((storedItems r.state.store "s1").map mutation.requested))
  | _ => false

def isOver : Phase → Bool
  | .done => true
  | _ => false

def lostUpdate (r : Remote) : Bool :=
  (r.state.calls 0).all isOver && (r.state.calls 1).all isOver && r.proposed.isNone &&
    !decide (r.provider.Perm ((storedItems r.state.store "s1").map SubscriptionItem.line))

theorem two_over {r : Remote} (path : Reached (remote localeCompare target) (both allowed OfTwo) r)
    (first : (r.state.calls 0).all isOver = true) (second : (r.state.calls 1).all isOver = true) :
    ∀ caller phase, r.state.calls caller = some phase → phase = .done := by
  have finished : ∀ phase : Phase, isOver phase = true → phase = .done := by
    intro phase ended
    cases phase <;> first | rfl | cases ended
  intro caller phase live
  match caller with
  | 0 => exact finished phase (by simpa [live] using first)
  | 1 => exact finished phase (by simpa [live] using second)
  | later + 2 =>
      rw [two_idle path (Nat.le_add_left 2 later)] at live
      cases live

theorem stale_selection_sent : ∃ r t : Remote,
    Reached (remote compare stripeTarget) (Succeeding stripeTarget) r ∧
    (∃ mutation ownerToken input, r.state.calls 1 = some (.calling mutation ownerToken input) ∧
      ¬ input.items.Perm ((storedItems r.state.store "s1").map mutation.requested)) ∧
    Reached (remote compare stripeTarget) (Succeeding stripeTarget) t ∧
    (∀ caller phase, t.state.calls caller = some phase → phase = .done) ∧ t.proposed = none ∧
      ¬ t.provider.Perm ((storedItems t.state.store "s1").map SubscriptionItem.line) := by
  have passed : (run (remote compare stripeTarget) (both (Succeeding stripeTarget) OfTwo) twoItems racing).any (fun r =>
      sendsStale r &&
        (run (remote compare stripeTarget) (both (Succeeding stripeTarget) OfTwo) r (finishing 1)).any lostUpdate) = true := by
    decide
  obtain ⟨r,t,path,stale,later,lost⟩ := run_continues passed
  have before : Reached (remote compare stripeTarget) (both (Succeeding stripeTarget) OfTwo) r := ⟨_,twoItems_initial,path⟩
  have after := before.later later
  simp only [lostUpdate,Bool.and_eq_true,Option.isNone_iff_eq_none,Bool.not_eq_true',decide_eq_false_iff_not] at lost
  refine ⟨r,t,before.weaken fun _ _ both => both.1,?_,after.weaken fun _ _ both => both.1,
    two_over after lost.1.1.1 lost.1.1.2,lost.1.2,lost.2⟩
  unfold sendsStale at stale
  split at stale
  · rename_i mutation ownerToken input live
    exact ⟨mutation,ownerToken,input,live,by simpa using stale⟩
  · cases stale

-- The second has its checks behind it when the first acquires, and reads the items once that has finished.
def inTurn : List Action :=
  [selecting 0 "i1" 5,(selecting 1 "i2" 7).dropLast,[.acquire 0 "t0" "u0" .committed],finishing 0,
    [.read 1 false,.acquire 1 "t1" "u1" .committed],finishing 1].flatten

theorem sent_items_stored_updated : ∃ r : Remote, r.provider.Perm ((storedItems r.state.store "s1").map (awaited r.proposed)) ∧
    r.provider = [⟨"p2",7⟩,⟨"p1",5⟩] := by
  have passed : (run (remote compare stripeTarget) (both (both (Succeeding stripeTarget) Selected) OfTwo) twoItems inTurn).any
      (fun r => (r.state.calls 0).all isOver && (r.state.calls 1).all isOver && decide (r.provider = [⟨"p2",7⟩,⟨"p1",5⟩])) = true := by
    decide
  obtain ⟨r,path,found⟩ := run_reaches twoItems_initial passed
  simp only [Bool.and_eq_true,decide_eq_true_eq] at found
  have finished := two_over path found.1.1 found.1.2
  exact ⟨r,(sent_items_stored (path.weaken fun _ _ both => both.1)).2 finished,found.2⟩

end Schedules

end Payable.Subscriptions
