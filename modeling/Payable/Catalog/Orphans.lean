import Payable.Catalog.OrphanReports

namespace Payable.Catalog
open Runs

variable {deps : CatalogDependencies} {s : State}

-- Provider calls return, and the events of reports are written.
def orderly (s : State) : Action → Bool
  | .reply caller reply => match s.calls caller,reply with
    | .worker (.calling _ _),.answered _ _ => true
    | .worker (.calling _ _),_ | .worker (.reporting _ _ _),.threw _ => false
    | _,_ => true
  | _ => true

def Orderly (s : State) (action : Action) : Prop := orderly s action = true

instance (s : State) (action : Action) : Decidable (Orderly s action) := inferInstanceAs (Decidable (_ = _))

structure OrphansExact (deps : CatalogDependencies) (allowed : State → Action → Prop) : Prop where
  -- A product that a create has returned is bound, remembered, named, or its worker is not through with it yet.
  accounted : ∀ s id, Reached (catalog deps) allowed s → id ∈ s.created → s.binding = some id ∨
    (∃ row, s.row = some row ∧ row.providerResourceId = some id) ∨ named s.books id = true ∨
      ∃ caller, (s.calls caller).booking = some id
  -- Events stay, so this is about every state from the report on.
  apart : ∀ s id, Reached (catalog deps) allowed s → named s.books id = true → s.binding ≠ some id

-- No report is made for the bound product; no recovery succeeds; no commit takes the
-- place of a product that a create has returned; and a create returns a product again
-- only while it is bound.
def Sole (deps : CatalogDependencies) (s : State) : Action → Prop
  | .reply caller reply => match s.calls caller,reply with
    | .worker (.reporting _ remote _),.returned => s.binding ≠ some remote.providerProductId
    | .worker (.committing claimed _ remote recovered),.returned =>
      fenced s claimed (succeedPatch s remote) ≠ none →
        recovered = false ∧ ∀ id, s.binding = some id → id = remote.providerProductId ∨ id ∉ s.created
    | .worker (.calling claimed product),.answered id version =>
      claimed.operation = .create → ∀ provision, mutate deps s claimed product id version = some provision →
        provision.providerProductId ∈ s.created → s.binding = some provision.providerProductId
    | _,_ => True
  | _ => True

instance (s : State) (action : Action) : Decidable (Sole deps s action) := by
  unfold Sole
  split
  · split
    · infer_instance
    · exact inferInstanceAs (Decidable (_ → _ ∧ ∀ id ∈ s.binding, _))
    · exact inferInstanceAs (Decidable (_ → ∀ provision ∈ mutate _ s _ _ _ _, _))
    · infer_instance
  · infer_instance

section Frames

theorem created_grows {id : String} (s : State) (effect : Effect) (there : id ∈ s.created) : id ∈ (s.apply deps effect).created := by
  cases effect with
  | provide provision created => exact List.mem_append_left _ there
  | _ => exact there

-- A report in a step is by a worker whose claim belongs to its key.
def Reports (deps : CatalogDependencies) (effect : Effect) : Prop := ∀ claimed remote, effect = .report claimed remote → Derived deps claimed

theorem apply_filed (filed : ∀ event ∈ s.books.outbox, Filed deps event) (derived : Reports deps effect) :
    ∀ event ∈ (s.apply deps effect).books.outbox, Filed deps event := by
  cases effect with
  | record saved => exact filed_recorded filed saved none s.now
  | write row => exact filed_recorded filed row none s.now
  | move row source => exact filed_recorded filed row source s.now
  | commit row id => exact filed_recorded filed row none s.now
  | report claimed remote => exact filed_reported filed (derived claimed remote rfl) _ _ _
  | _ => exact filed

theorem apply_named (filed : ∀ event ∈ s.books.outbox, Filed deps event) (derived : Reports deps effect) (id : String) :
    named (s.apply deps effect).books id = true ↔
      named s.books id = true ∨ ∃ claimed remote, effect = .report claimed remote ∧ id = remote.providerProductId := by
  cases effect with
  | record saved => simp [State.apply,named_recorded]
  | write row => simp [State.apply,named_recorded]
  | move row source => simp [State.apply,named_recorded]
  | commit row id => simp [State.apply,named_recorded]
  | report claimed remote =>
      rw [State.apply,named_reported filed (derived claimed remote rfl)]
      constructor
      · rintro (before | its)
        · exact .inl before
        · exact .inr ⟨claimed,remote,rfl,its⟩
      · rintro (before | ⟨_,_,same,its⟩)
        · exact .inl before
        · cases same
          exact .inr its
  | _ => simp [State.apply]

theorem mutate_product {provision : Provision} (mutated : mutate deps s claimed product fresh version = some provision) :
    claimed.operation = .create ∨ claimed.operation ≠ .create ∧ claimed.reference = some provision.providerProductId := by
  unfold mutate at mutated
  cases operation : claimed.operation with
  | create => exact .inl rfl
  | _ =>
      rw [operation] at mutated
      obtain ⟨reference,its,mutated⟩ := Option.bind_eq_some_iff.mp mutated
      obtain ⟨remote,_,rfl⟩ := Option.map_eq_some_iff.mp mutated
      exact .inr ⟨nofun,its⟩

theorem reference_resource {id : String} {row : CatalogSynchronization} (its : row.reference = some id) : row.providerResourceId = some id :=
  (Option.filter_eq_some_iff.mp its).1

end Frames

section Bookings

-- A worker comes to account for a product through the answer to its own call.
theorem turn_booking {id : String} (turned : Turn deps s call reply effect call') (its : call'.booking = some id) :
    call.booking = some id ∨ ∃ claimed product fresh version provision, call = .worker (.calling claimed product) ∧
      reply = .answered fresh version ∧ mutate deps s claimed product fresh version = some provision ∧
        provision.providerProductId = id ∧ effect = .provide provision (newlyCreated claimed id) := by
  cases turned with
  | ensures => rcases ensure_cases deps _ s.row with same | same <;> rw [same] at its <;> cases its
  | requests => rcases request_cases deps _ _ s.row with same | ⟨_,same⟩ <;> rw [same] at its <;> cases its
  | draws => split at its <;> cases its
  | verifies =>
      unfold proceed at its
      split at its
      · split at its <;> cases its
      · cases its
  | answers mutated => cases its; exact .inr ⟨_,_,_,_,_,rfl,rfl,mutated,rfl,rfl⟩
  | reports | unreported => split at its <;> cases its
  | stale | uncommitted | remembers | forgets => exact .inl its
  | _ => cases its

-- It is through with the product when it has bound it or has reported it.
theorem booking_turn {id : String} (turned : Turn deps s call reply effect call') (its : call.booking = some id) :
    call'.booking = some id ∨ (∃ row, effect = .commit row id) ∨
      (∃ claimed remote late, call = .worker (.reporting claimed remote late) ∧ remote.providerProductId = id ∧
        (effect = .report claimed remote ∧ reply = .returned ∨ ∃ code, reply = .threw code)) := by
  cases turned with
  | stops free =>
      rw [free] at its
      cases its
  | commits =>
      rename_i recovered _
      cases recovered with
      | true => cases its
      | false => cases its; exact .inr (.inl ⟨_,rfl⟩)
  | stale | uncommitted | remembers | forgets => exact .inl its
  | reports => cases its; exact .inr (.inr ⟨_,_,_,rfl,rfl,.inl ⟨rfl,rfl⟩⟩)
  | unreported => cases its; exact .inr (.inr ⟨_,_,_,rfl,rfl,.inr ⟨_,rfl⟩⟩)
  | _ => cases its

theorem turn_created {id : String} (turned : Turn deps s call reply effect call') (made : id ∈ (s.apply deps effect).created) :
    id ∈ s.created ∨ call'.booking = some id := by
  cases turned with
  | answers =>
      rcases List.mem_append.mp made with before | new
      · exact .inl before
      · unfold newlyCreated at new
        split at new
        · rw [List.mem_singleton.mp new]
          exact .inr rfl
        · cases new
  | loses =>
      rcases List.mem_append.mp made with before | new
      · exact .inl before
      · cases new
  | skips | remembers | fails =>
      unfold transition at made
      split at made <;> exact .inl made
  | _ => exact .inl made

end Bookings

section Links

-- While the row bears a claimant's id, it is of the operation that was claimed.
def Linked (s : State) : Prop := ∀ caller claimed row, (s.calls caller).claimed = some claimed → s.row = some row →
  row.attemptOwnerId = claimed.attemptOwnerId → row.operation = claimed.operation

theorem change_linked {row : CatalogSynchronization} {owner : String} (changed : RowChange deps s row' call call') (there : row' = some row)
    (its : row.attemptOwnerId = some owner) (other : call.claiming ≠ some owner) :
    ∃ old, s.row = some old ∧ old.attemptOwnerId = some owner ∧ row.operation = old.operation := by
  cases changed with
  | same => exact ⟨row,there,its,rfl⟩
  | written made =>
      obtain ⟨id',rfl,_⟩ := writeGeneration_some made
      cases there
      cases its
  | taken taken =>
      obtain ⟨old,_,_,_,_,rfl⟩ := takeClaim_some taken
      cases there
      exact absurd its other
  | descends before descends =>
      cases there
      rcases descends.owner with same | released
      · exact ⟨_,before,same.symm.trans its,descends.operation⟩
      · rw [released] at its
        cases its

theorem linked_turn (linked : Linked s) (owners : Owners s) (timely : ∀ caller, Timely s.now (s.calls caller))
    (turned : Turn deps s (s.calls caller) reply effect call') : Linked ((s.apply deps effect).put caller call') := by
  intro one claimed row its there same
  have old : (s.calls one).claimed = some claimed → row.operation = claimed.operation := by
    intro before
    have holder := claimed_holder before
    obtain ⟨owner,named⟩ := timely_claimed (timely one) before
    have unclaiming : (s.calls caller).claiming ≠ some owner := by
      intro claims
      have same := owners.single one caller owner (owner_cases.mpr (.inl (holder.trans named))) (owner_cases.mpr (.inr claims))
      rw [← same,claimed_unclaiming before] at claims
      cases claims
    obtain ⟨found,found_there,bears,operation⟩ := change_linked (turn_row turned) there (same.trans named) unclaiming
    rw [operation]
    exact linked one claimed found before found_there (bears.trans named.symm)
  rw [put_calls,apply_calls] at its
  split at its
  · rename_i here
    rcases turn_claimed turned its with before | ⟨claim,product,_,read,_,rfl⟩
    · exact old (by rw [here]; exact before)
    · cases (readClaim_some read).1.symm.trans there
      rfl
  · exact old its

theorem reached_linked (path : Reached (catalog deps) allowed s) : Linked s := by
  refine path.invariant Linked ?_ ?_
  · intro u initial caller claimed row its
    rw [initial.calls caller] at its
    cases its
  · intro u action next reached linked _ moved
    cases action with
    | elapse | edit | outside => cases moved; exact linked
    | start caller call =>
        have moved : advance deps u (.start caller call) = some next := moved
        obtain ⟨_,starts,rfl⟩ := start_exact moved
        intro one claimed row its there
        rw [put_calls] at its
        split at its
        · rw [starting_unclaimed starts] at its
          cases its
        · exact linked one claimed row its there
    | reply caller reply =>
        obtain ⟨effect,call,turned,rfl⟩ := reply_exact moved
        exact linked_turn linked (reached_owners reached) (reached_timely reached) turned

end Links

-- Before the provider call a generation other than a create refers to the bound product, and
-- after it the product the worker accounts for is the bound one.
def Refers (binding : Option String) : Call → Prop
  | .requester (.existing _ _ read) => read = binding
  | .requester (.reading data) | .requester (.writing data _) => data.operation ≠ .create → data.providerResourceId = binding
  | .worker (.recovering claimed _ _) | .worker (.calling claimed _) => claimed.operation ≠ .create → claimed.providerResourceId = binding
  | .worker (.committing claimed _ remote false) | .worker (.remembering claimed remote _) | .worker (.reporting claimed remote _) =>
    claimed.operation ≠ .create → binding = some remote.providerProductId
  | _ => True

-- The bound product is one that a create has returned: no commit takes its place.
def Frozen (s : State) : Prop := ∃ id, s.binding = some id ∧ id ∈ s.created

-- Until then the binding is as it was at the start, and every product that a create has
-- returned is in the hands of one worker, or named.
structure Loose (s : State) : Prop where
  told : ∀ id, named s.books id = true → id ∈ s.created ∧ ∀ caller, (s.calls caller).booking ≠ some id
  held : ∀ caller id, (s.calls caller).booking = some id →
    s.binding = some id ∨ id ∈ s.created ∧ ∀ other, (s.calls other).booking = some id → other = caller
  refers : ∀ caller, Refers s.binding (s.calls caller)
  row : ∀ row, s.row = some row → row.operation ≠ .create → row.providerResourceId = s.binding

structure Accounts (deps : CatalogDependencies) (s : State) : Prop where
  filed : ∀ event ∈ s.books.outbox, Filed deps event
  listed : ∀ id ∈ s.created, s.binding = some id ∨ named s.books id = true ∨ ∃ caller, (s.calls caller).booking = some id
  apart : ∀ id, named s.books id = true → s.binding ≠ some id
  stage : Frozen s ∨ Loose s

section LooseSteps

theorem operation_bound (bound : productOperation bound' active existing ≠ .create) : bound' = true := by
  cases bound' with
  | true => rfl
  | false => simp [productOperation] at bound

theorem turn_refers (loose : Loose s) (refers : Refers s.binding call) (turned : Turn deps s call reply effect call') :
    Refers s.binding call' := by
  cases turned with
  | looks => rfl
  | ensures =>
      rcases ensure_cases deps _ s.row with same | same <;> rw [same]
      · trivial
      · exact fun other => absurd rfl other
  | requests =>
      rename_i product binding
      rcases request_cases deps product binding s.row with same | ⟨_,same⟩ <;> rw [same]
      · trivial
      · intro other
        obtain ⟨id,there⟩ := Option.isSome_iff_exists.mp (operation_bound other)
        rw [← show binding = s.binding from refers,there]
        rfl
  | verifies read =>
      have row := loose.row _ (readClaim_some read).1
      unfold proceed
      split
      · split <;> exact row
      · trivial
  | answers mutated =>
      intro other
      rcases mutate_product mutated with create | ⟨_,reference⟩
      · exact absurd create other
      · exact (refers other).symm.trans (reference_resource reference)
  | draws | reports | unreported => split <;> trivial
  | prepares | loops | binds | stale | uncommitted | remembers | forgets => exact refers
  | _ => trivial

theorem patched_resource (row : CatalogSynchronization) (kept : patch.providerResourceId = none) :
    (row.patched (releasing patch ownerId)).providerResourceId = row.providerResourceId := by
  cases ownerId <;> simp [CatalogSynchronization.patched,releasing,kept]

theorem patched_named (row : CatalogSynchronization) (given : patch.providerResourceId = some resource) :
    (row.patched (releasing patch ownerId)).providerResourceId = resource := by
  cases ownerId <;> simp [CatalogSynchronization.patched,releasing,given]

theorem reconciliation_resource (reconciliation : Reconciliation) : reconciliation.patch.providerResourceId = none := by
  cases reconciliation <;> rfl

theorem updated_resource (kept : patch.providerResourceId = none) (updated : updateIfCurrent s.row version key patch ownerId expected = some row) :
    ∃ old, s.row = some old ∧ row.operation = old.operation ∧ row.providerResourceId = old.providerResourceId := by
  obtain ⟨old,there,_,_,_,_,rfl⟩ := updateIfCurrent_some updated
  exact ⟨old,there,rfl,patched_resource old kept⟩

-- The row after a step that leaves the binding as it is.
theorem turn_resource (loose : Loose s) (linked : Linked s) (timely : Timely s.now (s.calls caller)) (turned : Turn deps s (s.calls caller) reply effect call')
    (same : (s.apply deps effect).binding = s.binding) (there : (s.apply deps effect).row = some row) (other : row.operation ≠ .create) :
    row.providerResourceId = s.binding := by
  have refers := loose.refers caller
  generalize phase : s.calls caller = call at turned refers timely
  have kept : ∀ claimed patch, patch.providerResourceId = none → (s.apply deps (transition s claimed patch)).row = some row →
      row.providerResourceId = s.binding := by
    intro claimed patch none_named after
    unfold transition at after
    split at after
    · rename_i updated_row updated
      cases after
      obtain ⟨old,before,operation,resource⟩ := updated_resource none_named updated
      rw [resource]
      exact loose.row old before (operation ▸ other)
    · exact loose.row row after other
  cases turned with
  | writes made =>
      obtain ⟨id',rfl,_⟩ := writeGeneration_some made
      cases there
      exact refers other
  | takes taken =>
      obtain ⟨old,before,_,_,_,rfl⟩ := takeClaim_some taken
      cases there
      exact loose.row old before other
  | expires =>
      obtain ⟨old,before,operation,_,resource⟩ := expireClaim_some there
      rw [resource]
      exact loose.row old before (operation ▸ other)
  | skips => exact kept _ skipPatch rfl there
  | fails => exact kept _ (failPatch deps _) rfl there
  | remembers =>
      rename_i claimed remote late
      unfold transition at there
      split at there
      · rename_i updated
        cases there
        obtain ⟨old,before,_,_,_,owned,rfl⟩ := updateIfCurrent_some updated
        obtain ⟨owner,named⟩ := timely_claimed timely rfl
        rw [named] at owned
        have operation := linked caller claimed old (by rw [phase]; rfl) before ((ownedBy_some.mp owned).2.trans named.symm)
        have kind : claimed.operation ≠ .create := operation ▸ other
        rw [refers kind]
        exact patched_named old rfl
      · exact loose.row row there other
  | commits current =>
      cases there
      obtain ⟨old,before,_,_,_,_,rfl⟩ := updateIfCurrent_some current
      rw [← same]
      exact patched_named old rfl
  | settles updated =>
      cases there
      obtain ⟨old,before,operation,resource⟩ := updated_resource (reconciliation_resource _) updated
      rw [resource]
      exact loose.row old before (operation ▸ other)
  | retries updated =>
      cases there
      obtain ⟨old,before,operation,resource⟩ := updated_resource rfl updated
      rw [resource]
      exact loose.row old before (operation ▸ other)
  | _ => exact loose.row row there other

-- The product a worker is answered with is the bound one, or new.
theorem answered_product (refers : Refers s.binding (s.calls caller)) (sole : Sole deps s (.reply caller (.answered fresh version)))
    (calling : s.calls caller = .worker (.calling claimed product)) {provision : Provision}
    (mutated : mutate deps s claimed product fresh version = some provision) :
    s.binding = some provision.providerProductId ∨ claimed.operation = .create ∧ provision.providerProductId ∉ s.created := by
  rw [calling] at refers
  rcases mutate_product mutated with create | ⟨other,reference⟩
  · by_cases made : provision.providerProductId ∈ s.created
    · simp only [Sole,calling] at sole
      exact .inl (sole create provision mutated made)
    · exact .inr ⟨create,made⟩
  · exact .inl ((refers other).symm.trans (reference_resource reference))

-- A bound product that a create has returned stays bound.
theorem bound_turn {id : String} (sole : Sole deps s (.reply caller reply)) (turned : Turn deps s (s.calls caller) reply effect call')
    (made : id ∈ s.created) (bound : s.binding = some id) : (s.apply deps effect).binding = some id := by
  rcases apply_binding deps s effect with same | ⟨row,other,rfl,after⟩
  · exact same.trans bound
  · obtain ⟨rfl,claimed,product,remote,recovered,phase,current,rfl⟩ := turn_commit turned rfl
    simp only [Sole,phase,current] at sole
    rcases (sole nofun).2 id bound with same | unmade
    · rw [after,same]
    · exact absurd made unmade

theorem frozen_turn (frozen : Frozen s) (sole : Sole deps s (.reply caller reply)) (turned : Turn deps s (s.calls caller) reply effect call') :
    (s.apply deps effect).binding = s.binding := by
  obtain ⟨id,bound,made⟩ := frozen
  rw [bound_turn sole turned made bound,bound]

-- What a commit binds is bound already, or is a product that a create has returned and no event names.
theorem loose_commit {id : String} (loose : Loose s) (sole : Sole deps s (.reply caller reply))
    (turned : Turn deps s (s.calls caller) reply (.commit row id) call') :
    s.binding = some id ∨ id ∈ s.created ∧ named s.books id = false := by
  obtain ⟨rfl,claimed,product,remote,recovered,phase,current,rfl⟩ := turn_commit turned rfl
  simp only [Sole,phase,current] at sole
  obtain ⟨rfl,_⟩ := sole nofun
  have books : (s.calls caller).booking = some remote.providerProductId := by rw [phase]; rfl
  rcases loose.held caller _ books with bound | ⟨made,_⟩
  · exact .inl bound
  · refine .inr ⟨made,?_⟩
    rw [← Bool.not_eq_true]
    intro its
    exact (loose.told _ its).2 caller books

-- A product in a worker's hands after its step that is neither bound nor new was there before.
theorem booked_before {id : String} (loose : Loose s) (sole : Sole deps s (.reply caller reply))
    (turned : Turn deps s (s.calls caller) reply effect call') (unbound : s.binding ≠ some id) (its : call'.booking = some id) :
    (s.calls caller).booking = some id ∨ id ∉ s.created ∧ id ∈ (s.apply deps effect).created := by
  rcases turn_booking turned its with before | ⟨claimed,product,fresh,version,provision,phase,rfl,mutated,rfl,rfl⟩
  · exact .inl before
  · rcases answered_product (loose.refers caller) sole phase mutated with bound | ⟨create,new⟩
    · exact absurd bound unbound
    · exact .inr ⟨new,List.mem_append_right _ (by simp [newlyCreated,create])⟩

-- Who has a product in hand after a step had it before, or it is new and the caller's.
theorem bookings_before {id : String} (loose : Loose s) (sole : Sole deps s (.reply caller reply))
    (turned : Turn deps s (s.calls caller) reply effect call') (unbound : s.binding ≠ some id)
    (its : (((s.apply deps effect).put caller call').calls one).booking = some id) :
    (s.calls one).booking = some id ∨ one = caller ∧ id ∉ s.created ∧ id ∈ (s.apply deps effect).created := by
  rw [put_calls,apply_calls] at its
  split at its
  · rename_i here
    rw [here]
    exact (booked_before loose sole turned unbound its).imp_right fun new => ⟨rfl,new⟩
  · exact .inl its

theorem told_turn {id : String} (loose : Loose s) (unfrozen : ¬ Frozen s) (filed : ∀ event ∈ s.books.outbox, Filed deps event)
    (derived : Reports deps effect) (sole : Sole deps s (.reply caller reply)) (turned : Turn deps s (s.calls caller) reply effect call')
    (its : named (s.apply deps effect).books id = true) : id ∈ (s.apply deps effect).created ∧
      ∀ other, (((s.apply deps effect).put caller call').calls other).booking ≠ some id := by
  rcases (apply_named filed derived id).mp its with before | ⟨claimed,remote,rfl,rfl⟩
  · obtain ⟨made,nobody⟩ := loose.told id before
    refine ⟨created_grows s effect made,fun other books => ?_⟩
    rcases bookings_before loose sole turned (fun bound => unfrozen ⟨id,bound,made⟩) books with held | ⟨_,new,_⟩
    · exact nobody other held
    · exact new made
  · obtain ⟨rfl,nothing,late,phase⟩ := turn_report turned rfl
    simp only [Sole,phase] at sole
    have books : (s.calls caller).booking = some remote.providerProductId := by rw [phase]; rfl
    obtain ⟨made,alone⟩ := (loose.held caller _ books).resolve_left sole
    refine ⟨made,fun other => ?_⟩
    rw [put_calls,apply_calls]
    split
    · rw [nothing]
      nofun
    · rename_i differs
      exact fun its => differs (alone other its)

theorem held_turn {id : String} (loose : Loose s) (sole : Sole deps s (.reply caller reply))
    (turned : Turn deps s (s.calls caller) reply effect call') (unbound : s.binding ≠ some id)
    (its : (((s.apply deps effect).put caller call').calls one).booking = some id) : id ∈ (s.apply deps effect).created ∧
      ∀ other, (((s.apply deps effect).put caller call').calls other).booking = some id → other = one := by
  rcases bookings_before loose sole turned unbound its with before | ⟨here,new,made⟩
  · obtain ⟨made,alone⟩ := (loose.held one id before).resolve_left unbound
    refine ⟨created_grows s effect made,fun other books => ?_⟩
    rcases bookings_before loose sole turned unbound books with held | ⟨_,new,_⟩
    · exact alone other held
    · exact absurd made new
  · refine ⟨made,fun other books => ?_⟩
    rcases bookings_before loose sole turned unbound books with held | ⟨there,_⟩
    · exact absurd ((loose.held other id held).resolve_left unbound).1 new
    · rw [there,here]

theorem loose_turn (loose : Loose s) (unfrozen : ¬ Frozen s) (filed : ∀ event ∈ s.books.outbox, Filed deps event) (derived : Reports deps effect)
    (linked : Linked s) (timely : Timely s.now (s.calls caller)) (sole : Sole deps s (.reply caller reply))
    (turned : Turn deps s (s.calls caller) reply effect call') (same : (s.apply deps effect).binding = s.binding) :
    Loose ((s.apply deps effect).put caller call') := by
  have binding : ((s.apply deps effect).put caller call').binding = s.binding := same
  refine ⟨?_,?_,?_,?_⟩
  · exact fun id its => told_turn loose unfrozen filed derived sole turned its
  · intro one id its
    by_cases bound : s.binding = some id
    · exact .inl (binding.trans bound)
    · exact .inr (held_turn loose sole turned bound its)
  · intro one
    rw [binding,put_calls,apply_calls]
    split
    · exact turn_refers loose (loose.refers caller) turned
    · exact loose.refers one
  · intro row there other
    rw [binding]
    exact turn_resource loose linked timely turned same there other

end LooseSteps

theorem initial_accounts (initial : Initial s) : Accounts deps s := by
  have silent : ∀ id, named s.books id = false := fun id => by rw [initial.books]; rfl
  have idle : ∀ caller id, (s.calls caller).booking ≠ some id := fun caller id => by rw [initial.calls caller]; nofun
  refine ⟨?_,?_,?_,.inr ⟨?_,?_,?_,?_⟩⟩
  · intro event inside
    rw [initial.books] at inside
    cases inside
  · intro id made
    rw [initial.created] at made
    cases made
  · intro id its
    rw [silent] at its
    cases its
  · intro id its
    rw [silent] at its
    cases its
  · intro caller id its
    exact absurd its (idle caller id)
  · intro caller
    rw [initial.calls caller]
    trivial
  · intro row there
    rw [initial.row] at there
    cases there

theorem listed_turn {id : String} (accounts : Accounts deps s) (derived : Reports deps effect) (sole : Sole deps s (.reply caller reply))
    (turned : Turn deps s (s.calls caller) reply effect call') (orderly : Orderly s (.reply caller reply)) (made : id ∈ (s.apply deps effect).created) :
    (s.apply deps effect).binding = some id ∨ named (s.apply deps effect).books id = true ∨
      ∃ other, (((s.apply deps effect).put caller call').calls other).booking = some id := by
  have names := apply_named accounts.filed derived
  rcases turn_created turned made with before | books
  · rcases accounts.listed id before with bound | its | ⟨other,books⟩
    · exact .inl (bound_turn sole turned before bound)
    · exact .inr (.inl ((names id).mpr (.inl its)))
    · by_cases mine : other = caller
      · subst mine
        rcases booking_turn turned books with still | ⟨row,rfl⟩ | ⟨claimed,remote,late,phase,rfl,⟨rfl,rfl⟩ | ⟨code,rfl⟩⟩
        · exact .inr (.inr ⟨other,by rw [put_calls,if_pos rfl]; exact still⟩)
        · exact .inl rfl
        · exact .inr (.inl ((names _).mpr (.inr ⟨claimed,remote,rfl,rfl⟩)))
        · simp [Orderly,Catalog.orderly,phase] at orderly
      · exact .inr (.inr ⟨other,by rw [put_calls,if_neg mine,apply_calls]; exact books⟩)
  · exact .inr (.inr ⟨caller,by rw [put_calls,if_pos rfl]; exact books⟩)

theorem apart_turn {id : String} (accounts : Accounts deps s) (derived : Reports deps effect) (sole : Sole deps s (.reply caller reply))
    (turned : Turn deps s (s.calls caller) reply effect call') (its : named (s.apply deps effect).books id = true) :
    (s.apply deps effect).binding ≠ some id := by
  rcases (apply_named accounts.filed derived id).mp its with before | ⟨claimed,remote,rfl,rfl⟩
  · rcases apply_binding deps s effect with same | ⟨row,other,rfl,after⟩
    · rw [same]
      exact accounts.apart id before
    · rw [after]
      rintro bound
      cases bound
      by_cases frozen : Frozen s
      · exact accounts.apart id before ((frozen_turn frozen sole turned).symm.trans after)
      · rcases loose_commit (accounts.stage.resolve_left frozen) sole turned with already | ⟨_,silent⟩
        · exact accounts.apart id before already
        · rw [silent] at before
          cases before
  · obtain ⟨rfl,_,late,phase⟩ := turn_report turned rfl
    simp only [Sole,phase] at sole
    exact sole

theorem stage_turn (accounts : Accounts deps s) (derived : Reports deps effect) (sole : Sole deps s (.reply caller reply))
    (turned : Turn deps s (s.calls caller) reply effect call') (linked : Linked s) (timely : Timely s.now (s.calls caller)) :
    Frozen ((s.apply deps effect).put caller call') ∨ Loose ((s.apply deps effect).put caller call') := by
  by_cases frozen : Frozen s
  · obtain ⟨id,bound,made⟩ := frozen
    exact .inl ⟨id,bound_turn sole turned made bound,created_grows s effect made⟩
  have loose := accounts.stage.resolve_left frozen
  rcases apply_binding deps s effect with same | ⟨row,id,rfl,bound⟩
  · exact .inr (loose_turn loose frozen accounts.filed derived linked timely sole turned same)
  · rcases loose_commit loose sole turned with already | ⟨made,_⟩
    · exact .inr (loose_turn loose frozen accounts.filed derived linked timely sole turned (bound.trans already.symm))
    · exact .inl ⟨id,bound,made⟩

theorem accounts_turn (accounts : Accounts deps s) (generations : Generations deps s) (linked : Linked s)
    (timely : Timely s.now (s.calls caller)) (orderly : Orderly s (.reply caller reply)) (sole : Sole deps s (.reply caller reply))
    (turned : Turn deps s (s.calls caller) reply effect call') : Accounts deps ((s.apply deps effect).put caller call') := by
  have derived : Reports deps effect := by
    intro claimed remote reports
    obtain ⟨_,_,late,phase⟩ := turn_report turned reports
    exact generations.claimed caller claimed (by rw [phase]; rfl)
  refine ⟨apply_filed accounts.filed derived,?_,?_,stage_turn accounts derived sole turned linked timely⟩
  · exact fun id made => listed_turn accounts derived sole turned orderly made
  · exact fun id its => apart_turn accounts derived sole turned its

theorem accounts_start (accounts : Accounts deps s) (idle : s.calls caller = .idle) (starts : call.starts = true) :
    Accounts deps (s.put caller call) := by
  have nothing : call.booking = none := starting (fun call => call.booking = none) starts (fun _ => rfl) (fun _ _ => rfl) (fun _ => rfl) rfl
  have books : ∀ other id, ((s.put caller call).calls other).booking = some id ↔ (s.calls other).booking = some id := by
    intro other id
    rw [put_calls]
    split
    · rename_i here
      rw [here,idle,nothing]
      exact ⟨nofun,nofun⟩
    · exact Iff.rfl
  refine ⟨accounts.filed,?_,accounts.apart,accounts.stage.imp (fun frozen => frozen) fun loose => ⟨?_,?_,?_,loose.row⟩⟩
  · intro id made
    rcases accounts.listed id made with bound | its | ⟨other,before⟩
    · exact .inl bound
    · exact .inr (.inl its)
    · exact .inr (.inr ⟨other,(books other id).mpr before⟩)
  · intro id its
    exact ⟨(loose.told id its).1,fun other after => (loose.told id its).2 other ((books other id).mp after)⟩
  · intro one id its
    rcases loose.held one id ((books one id).mp its) with bound | ⟨made,alone⟩
    · exact .inl bound
    · exact .inr ⟨made,fun other after => alone other ((books other id).mp after)⟩
  · intro other
    rw [put_calls]
    split
    · exact starting (Refers s.binding) starts (fun _ => trivial) (fun _ _ => trivial) (fun _ => trivial) trivial
    · exact loose.refers other

theorem reached_accounts (path : Reached (catalog deps) (both Orderly (Sole deps)) s) : Accounts deps s := by
  refine path.invariant (Accounts deps) (fun _ => initial_accounts) ?_
  intro u action next reached accounts permitted moved
  cases action with
  | elapse | edit | outside => cases moved; exact ⟨accounts.filed,accounts.listed,accounts.apart,accounts.stage.imp (fun frozen => frozen)
      fun loose => ⟨loose.told,loose.held,loose.refers,loose.row⟩⟩
  | start caller call =>
      have moved : advance deps u (.start caller call) = some next := moved
      obtain ⟨idle,starts,rfl⟩ := start_exact moved
      exact accounts_start accounts idle starts
  | reply caller reply =>
      obtain ⟨effect,call,turned,rfl⟩ := reply_exact moved
      exact accounts_turn accounts (reached_generations reached) (reached_linked reached) (reached_timely reached caller)
        permitted.1 permitted.2 turned

theorem orphans_exact : OrphansExact deps (both Orderly (Sole deps)) where
  accounted s id reached made := by
    rcases (reached_accounts reached).listed id made with bound | its | books
    · exact .inl bound
    · exact .inr (.inr (.inl its))
    · exact .inr (.inr (.inr books))
  apart s id reached its := (reached_accounts reached).apart id its

-- A product made for nothing: its source is edited before the worker that made it commits.
def newStart : State := {knownStart with binding := none,remotes := fun _ => none,issued := []}

theorem newStart_initial : Initial newStart :=
  ⟨rfl,rfl,rfl,rfl,rfl,fun _ => rfl,fun _ bound => by (cases bound),fun _ => rfl⟩

def newKey : String := deriveCatalogSyncKey (plainDependencies true) .create knownProduct.updatedAt

def orphanSteps : List Action :=
  [requestSteps 0,[.start 1 (.worker (.looking knownProduct.updatedAt newKey)),.reply 1 .returned,.reply 1 (.drawn "owner"),
    .reply 1 .returned,.reply 1 .returned,.reply 1 (.answered "prod_1" none),
    .edit {knownProduct with name := "New plan",updatedAt := "2026-01-02T00:00:00.000Z"}],requestSteps 2,
      [.reply 1 .returned,.reply 1 .returned,.reply 1 .returned]].flatten

theorem orphans_exact_edited : ∃ t, Reached (catalog (plainDependencies true)) (both Orderly (Sole (plainDependencies true))) t ∧
    t.created = ["prod_1"] ∧ t.binding ≠ some "prod_1" ∧ named t.books "prod_1" = true := by
  have found : (run (catalog (plainDependencies true)) (both Orderly (Sole (plainDependencies true))) newStart orphanSteps).any (fun t =>
      t.created == ["prod_1"] && named t.books "prod_1") = true := by
    decide +kernel
  obtain ⟨t,reached,found⟩ := run_reaches newStart_initial found
  rw [Bool.and_eq_true,beq_iff_eq] at found
  exact ⟨t,reached,found.1,orphans_exact.apart t "prod_1" reached found.2,found.2⟩

-- An update of a bound product is superseded: its worker reports the bound product.
def supersededSteps : List Action :=
  [requestSteps 0,[.start 1 (.worker (.looking knownProduct.updatedAt knownKey)),.reply 1 .returned,.reply 1 (.drawn "owner"),
    .reply 1 .returned,.reply 1 .returned,.reply 1 .returned,.reply 1 (.answered "" none),
    .edit {knownProduct with name := "New plan",updatedAt := "2026-01-02T00:00:00.000Z"}],requestSteps 2,
      [.reply 1 .returned,.reply 1 .returned,.reply 1 .returned]].flatten

theorem bound_reported : ¬ OrphansExact (plainDependencies true) Orderly := by
  intro exact
  have found : (run (catalog (plainDependencies true)) Orderly knownStart supersededSteps).any
      (fun t => named t.books "prod_1" && t.binding == some "prod_1") = true := by
    decide +kernel
  obtain ⟨t,reached,found⟩ := run_reaches knownStart_initial found
  rw [Bool.and_eq_true,beq_iff_eq] at found
  exact exact.apart t "prod_1" reached found.1 found.2

end Payable.Catalog
