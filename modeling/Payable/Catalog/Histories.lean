import Payable.Catalog.GenerationProtocol

namespace Payable.Catalog
open Runs

variable {deps : CatalogDependencies} {s : State}

-- The provider's products change by the calls made here, and a version has one content.
def closed (s : State) : Action → Bool
  | .outside _ _ => false
  | .edit product => s.history.all (·.updatedAt != product.updatedAt)
  | _ => true

def Closed (s : State) (action : Action) : Prop := closed s action = true

instance (s : State) (action : Action) : Decidable (Closed s action) := inferInstanceAs (Decidable (_ = _))

section Versions

-- A version of the history that the operation was chosen for.
def Chosen (history : List CanonicalProduct) (operation : SynchronizationOperation) (version : String) : Prop :=
  ∃ product ∈ history, product.updatedAt = version ∧ (operation = .archive → product.active = false) ∧
    (operation = .reactivate → product.active = true)

def Versioned (history : List CanonicalProduct) (product : CanonicalProduct) (version : String) : Prop :=
  product ∈ history ∧ product.updatedAt = version

-- What a call has read is of the history, under the version it goes by.
def Sourced (history : List CanonicalProduct) : Call → Prop
  | .requester (.binding _ product) | .requester (.existing _ product _) => product ∈ history
  | .requester (.reading data) | .requester (.writing data _) => Chosen history data.operation data.canonicalVersion
  | .worker (.expiring claim product) | .worker (.claiming claim product) | .worker (.verifying claim product) =>
    Versioned history product claim.canonicalVersion
  | .worker (.recovering claimed product _) | .worker (.calling claimed product) | .worker (.committing claimed product _ _) =>
    Versioned history product claimed.canonicalVersion ∧ Chosen history claimed.operation claimed.canonicalVersion
  | _ => True

structure Versions (s : State) : Prop where
  present : s.product ∈ s.history
  single : ∀ product ∈ s.history, ∀ other ∈ s.history, product.updatedAt = other.updatedAt → product = other
  calls : ∀ caller, Sourced s.history (s.calls caller)
  row : ∀ row, s.row = some row → Chosen s.history row.operation row.canonicalVersion

theorem Chosen.grows {history : List CanonicalProduct} (chosen : Chosen history operation version) (more : List CanonicalProduct) :
    Chosen (history ++ more) operation version := by
  obtain ⟨product,inside,rest⟩ := chosen
  exact ⟨product,List.mem_append_left _ inside,rest⟩

theorem Versioned.grows {history : List CanonicalProduct} (versioned : Versioned history product version) (more : List CanonicalProduct) :
    Versioned (history ++ more) product version := ⟨List.mem_append_left _ versioned.1,versioned.2⟩

theorem sourced_grows {call : Call} {history : List CanonicalProduct} (sourced : Sourced history call) (more : List CanonicalProduct) :
    Sourced (history ++ more) call := by
  cases call with
  | requester phase =>
      cases phase with
      | binding | existing => exact List.mem_append_left _ sourced
      | reading | writing => exact Chosen.grows sourced more
      | _ => trivial
  | worker phase =>
      cases phase with
      | expiring | claiming | verifying => exact Versioned.grows sourced more
      | recovering | calling | committing => exact ⟨sourced.1.grows more,sourced.2.grows more⟩
      | _ => trivial
  | _ => trivial

theorem productOperation_active (bound active : Bool) (existing : Option CatalogSynchronization) :
    (productOperation bound active existing = .archive → active = false) ∧
      (productOperation bound active existing = .reactivate → active = true) := by
  unfold productOperation
  cases active with
  | false => exact ⟨fun _ => rfl,by split <;> simp⟩
  | true =>
      refine ⟨?_,fun _ => rfl⟩
      split
      · nofun
      · simp only [Bool.not_true,Bool.false_eq_true,if_false]
        split <;> nofun

theorem requestData_chosen {history : List CanonicalProduct} (inside : product ∈ history) (bound : Bool) (resource : Option String)
    (existing read : Option CatalogSynchronization) :
    let data := requestData deps (productOperation bound product.active read) product.updatedAt resource existing
    Chosen history data.operation data.canonicalVersion :=
  ⟨product,inside,rfl,productOperation_active bound product.active read⟩

theorem turn_sourced (versions : Versions s) (sourced : Sourced s.history call) (turned : Turn deps s call reply effect call') :
    Sourced s.history call' := by
  cases turned with
  | asks => exact versions.present
  | looks => exact sourced
  | ensures =>
      rcases ensure_cases deps _ s.row with its | its <;> rw [its]
      · trivial
      · exact ⟨_,sourced,rfl,nofun,nofun⟩
  | requests =>
      rename_i product binding
      rcases request_cases deps product binding s.row with its | ⟨_,its⟩ <;> rw [its]
      · trivial
      · exact requestData_chosen sourced _ _ _ _
  | draws version _ made =>
      subst made
      split <;> exact ⟨versions.present,version⟩
  | verifies read =>
      obtain ⟨there,_,_,version,_⟩ := readClaim_some read
      have chosen := versions.row _ there
      unfold proceed
      split
      · split <;> exact ⟨⟨sourced.1,sourced.2.trans version.symm⟩,chosen⟩
      · trivial
  | reports | unreported => split <;> trivial
  | prepares | loops | expires | takes | binds | recovers | answers => exact sourced
  | _ => trivial

theorem change_chosen (versions : Versions s) (sourced : Sourced s.history call) (changed : RowChange deps s row' call call')
    (there : row' = some row) : Chosen s.history row.operation row.canonicalVersion := by
  cases changed with
  | same => exact versions.row row there
  | written made =>
      obtain ⟨id',rfl,_⟩ := writeGeneration_some made
      cases there
      exact sourced
  | taken taken =>
      obtain ⟨old,before,_,_,_,rfl⟩ := takeClaim_some taken
      cases there
      exact versions.row old before
  | descends before descends =>
      cases there
      rw [descends.operation,descends.version]
      exact versions.row _ before

theorem apply_product (s : State) (effect : Effect) : (s.apply deps effect).product = s.product := by cases effect <;> rfl

theorem apply_history (s : State) (effect : Effect) : (s.apply deps effect).history = s.history := by cases effect <;> rfl

theorem edit_versions (versions : Versions s) (fresh : Closed s (.edit product)) :
    Versions {s with product := product,history := s.history ++ [product]} := by
  have apart : ∀ other ∈ s.history, other.updatedAt ≠ product.updatedAt := by
    simpa [Closed,closed] using fresh
  refine ⟨List.mem_append_right _ (List.mem_singleton.mpr rfl),?_,fun caller => sourced_grows (versions.calls caller) _,
    fun row there => (versions.row row there).grows _⟩
  intro one inside other inside' same
  rcases List.mem_append.mp inside with old | new <;> rcases List.mem_append.mp inside' with old' | new'
  · exact versions.single one old other old' same
  · cases List.mem_singleton.mp new'
    exact absurd same (apart one old)
  · cases List.mem_singleton.mp new
    exact absurd same.symm (apart other old')
  · rw [List.mem_singleton.mp new,List.mem_singleton.mp new']

theorem versions_turn (versions : Versions s) (turned : Turn deps s (s.calls caller) reply effect call') :
    Versions ((s.apply deps effect).put caller call') := by
  have history : ((s.apply deps effect).put caller call').history = s.history := apply_history s effect
  refine ⟨?_,?_,?_,?_⟩
  · rw [history]
    exact (apply_product s effect).symm ▸ versions.present
  · rw [history]
    exact versions.single
  · intro other
    rw [history,put_calls,apply_calls]
    split
    · exact turn_sourced versions (versions.calls caller) turned
    · exact versions.calls other
  · intro row there
    rw [history]
    exact change_chosen versions (versions.calls caller) (turn_row turned) there

theorem versions_step (versions : Versions s) (permitted : Closed s action) (moved : advance deps s action = some t) : Versions t := by
  cases action with
  | elapse | outside => cases moved; exact ⟨versions.present,versions.single,versions.calls,versions.row⟩
  | edit product => cases moved; exact edit_versions versions permitted
  | start caller call =>
      obtain ⟨_,starts,rfl⟩ := start_exact moved
      refine ⟨versions.present,versions.single,?_,versions.row⟩
      intro other
      rw [put_calls]
      split
      · exact starting (Sourced s.history) starts (fun _ => trivial) (fun _ _ => trivial) (fun _ => trivial) trivial
      · exact versions.calls other
  | reply caller reply =>
      obtain ⟨effect,call,turned,rfl⟩ := reply_exact moved
      exact versions_turn versions turned

theorem initial_versions (initial : Initial s) : Versions s := by
  refine ⟨?_,?_,?_,?_⟩
  · rw [initial.history]
    exact List.mem_singleton.mpr rfl
  · intro product inside other inside' _
    rw [initial.history] at inside inside'
    rw [List.mem_singleton.mp inside,List.mem_singleton.mp inside']
  · intro caller
    rw [initial.calls caller]
    trivial
  · intro row there
    rw [initial.row] at there
    cases there

theorem reached_versions (path : Reached (catalog deps) (both Closed allowed) s) : Versions s := by
  refine path.invariant Versions (fun _ => initial_versions) ?_
  intro u action next _ versions permitted moved
  exact versions_step versions permitted.1 moved

end Versions

-- The fields that a create sends, as the provider keeps them.
def CanonicalProduct.content (product : CanonicalProduct) : ProductDTO :=
  ⟨product.name,product.description,product.active,product.metadata,none⟩

section Unbound

-- Until a product is bound every generation is a create.
def Creating : Call → Prop
  | .requester (.existing _ _ read) => read = none
  | .requester (.reading data) | .requester (.writing data _) => data.operation = .create
  | .worker (.recovering claimed _ _) | .worker (.calling claimed _) => claimed.operation = .create
  | _ => True

def Made (deps : CatalogDependencies) (s : State) (key id : String) : Prop :=
  ∃ product ∈ s.history, deriveCatalogSyncKey deps .create product.updatedAt = key ∧
    (s.remotes id).any (productMatches deps product) = true

-- And what creates have made is as it was made.
structure Unbound (deps : CatalogDependencies) (s : State) : Prop where
  calls : ∀ caller, Creating (s.calls caller)
  row : ∀ row, s.row = some row → row.operation = .create
  made : ∀ key id, s.replays key = some id → Made deps s key id

structure Creations (deps : CatalogDependencies) (s : State) : Prop where
  issued : ∀ key id, s.replays key = some id → id ∈ s.issued
  unbound : s.binding = none → Unbound deps s

theorem initial_creations (initial : Initial s) : Creations deps s := by
  refine ⟨?_,fun _ => ⟨?_,?_,?_⟩⟩
  · intro key id its
    rw [initial.replays key] at its
    cases its
  · intro caller
    rw [initial.calls caller]
    trivial
  · intro row there
    rw [initial.row] at there
    cases there
  · intro key id its
    rw [initial.replays key] at its
    cases its

theorem turn_creating (unbound : Unbound deps s) (none_yet : s.binding = none) (creating : Creating call)
    (turned : Turn deps s call reply effect call') : Creating call' := by
  cases turned with
  | looks => exact none_yet
  | ensures =>
      rcases ensure_cases deps _ s.row with its | its <;> rw [its]
      · trivial
      · rfl
  | requests =>
      rename_i product binding
      rcases request_cases deps product binding s.row with its | ⟨_,its⟩ <;> rw [its]
      · trivial
      · rw [show binding = none from creating]
        rfl
  | verifies read =>
      have row := unbound.row _ (readClaim_some read).1
      unfold proceed
      split
      · split <;> exact row
      · trivial
  | draws | reports | unreported => split <;> trivial
  | prepares | loops | binds => exact creating
  | _ => trivial

theorem change_creating (unbound : Unbound deps s) (creating : Creating call) (changed : RowChange deps s row' call call')
    (there : row' = some row) : row.operation = .create := by
  cases changed with
  | same => exact unbound.row row there
  | written made =>
      obtain ⟨id',rfl,_⟩ := writeGeneration_some made
      cases there
      exact creating
  | taken taken =>
      obtain ⟨old,before,_,_,_,rfl⟩ := takeClaim_some taken
      cases there
      exact unbound.row old before
  | descends before descends =>
      cases there
      exact descends.operation.trans (unbound.row _ before)

-- A create makes a product under a new id, or the provider repeats its answer.
theorem createProduct_some {key : String} {provision : Provision} (made : createProduct deps s key product fresh version = some provision) :
    (deps.capabilities.catalogIdempotency = true ∧ s.replays key = some provision.providerProductId ∧ provision.remotes = s.remotes ∧
      provision.issued = s.issued ∧ provision.replays = s.replays) ∨
    (fresh ∉ s.issued ∧ provision.providerProductId = fresh ∧
      provision.remotes = Function.update s.remotes fresh (some {product.content with providerVersion := version}) ∧
        provision.issued = fresh :: s.issued ∧ provision.replays = Function.update s.replays key (some fresh)) := by
  unfold createProduct at made
  split at made
  · rename_i again repeats
    cases made
    split at repeats
    · rename_i idempotent
      exact .inl ⟨idempotent,repeats,rfl,rfl,rfl⟩
    · cases repeats
  · split at made <;> cases made
    rename_i unused
    exact .inr ⟨unused,rfl,rfl,rfl,rfl⟩

-- Of what the provider keeps, a step changes what an answered or a lost call changes.
theorem turn_provides (turned : Turn deps s call reply effect call') :
    ((s.apply deps effect).remotes = s.remotes ∧ (s.apply deps effect).issued = s.issued ∧ (s.apply deps effect).replays = s.replays) ∨
    ∃ claimed product fresh version provision, call = .worker (.calling claimed product) ∧
      (reply = .answered fresh version ∨ ∃ code, reply = .lost fresh version code) ∧
        mutate deps s claimed product fresh version = some provision ∧ (s.apply deps effect).remotes = provision.remotes ∧
          (s.apply deps effect).issued = provision.issued ∧ (s.apply deps effect).replays = provision.replays := by
  cases turned with
  | answers mutated => exact .inr ⟨_,_,_,_,_,rfl,.inl rfl,mutated,rfl,rfl,rfl⟩
  | loses mutated => exact .inr ⟨_,_,_,_,_,rfl,.inr ⟨_,rfl⟩,mutated,rfl,rfl,rfl⟩
  | skips | remembers | fails =>
      unfold transition
      split <;> exact .inl ⟨rfl,rfl,rfl⟩
  | _ => exact .inl ⟨rfl,rfl,rfl⟩

theorem mutate_issued {provision : Provision} (issued : ∀ key id, s.replays key = some id → id ∈ s.issued)
    (mutated : mutate deps s claimed product fresh version = some provision) :
    ∀ key id, provision.replays key = some id → id ∈ provision.issued := by
  unfold mutate at mutated
  split at mutated
  case h_3 =>
    intro key made its
    rcases createProduct_some mutated with ⟨_,_,_,same,replays⟩ | ⟨_,_,_,grown,replays⟩
    · rw [same]
      rw [replays] at its
      exact issued key made its
    · rw [grown]
      rw [replays,Function.update_apply] at its
      split at its
      · cases its
        exact List.mem_cons_self ..
      · exact List.mem_cons_of_mem _ (issued key made its)
  all_goals
    obtain ⟨reference,_,mutated⟩ := Option.bind_eq_some_iff.mp mutated
    obtain ⟨remote,_,rfl⟩ := Option.map_eq_some_iff.mp mutated
    exact issued

theorem productMatches_content (product : CanonicalProduct) (version : Option String) :
    productMatches deps product {product.content with providerVersion := version} = true := by
  simp [productMatches,CanonicalProduct.content]

theorem mutate_made {provision : Provision} (issued : ∀ key id, s.replays key = some id → id ∈ s.issued)
    (made : ∀ key id, s.replays key = some id → Made deps s key id) (derived : Derived deps claimed) (create : claimed.operation = .create)
    (versioned : Versioned s.history product claimed.canonicalVersion)
    (mutated : mutate deps s claimed product fresh version = some provision) :
    ∀ key id, provision.replays key = some id → ∃ product ∈ s.history, deriveCatalogSyncKey deps .create product.updatedAt = key ∧
      (provision.remotes id).any (productMatches deps product) = true := by
  intro key other its
  simp only [mutate,create] at mutated
  rcases createProduct_some mutated with ⟨_,_,remotes,_,replays⟩ | ⟨unused,_,remotes,_,replays⟩
  · rw [replays] at its
    rw [remotes]
    exact made key other its
  · rw [replays,Function.update_apply] at its
    rw [remotes]
    split at its
    · rename_i same
      cases its
      refine ⟨product,versioned.1,?_,by simp [productMatches_content]⟩
      rw [same,derived,create,versioned.2]
    · obtain ⟨source,inside,keyed,matched⟩ := made key other its
      have apart : other ≠ fresh := by
        rintro rfl
        exact unused (issued key other its)
      exact ⟨source,inside,keyed,by rw [Function.update_of_ne apart]; exact matched⟩

theorem binding_kept (none_yet : (s.apply deps effect).binding = none) : s.binding = none := by
  cases effect with
  | commit row id => cases none_yet
  | _ => exact none_yet

theorem creations_turn (creations : Creations deps s) (versions : Versions s) (generations : Generations deps s)
    (turned : Turn deps s (s.calls caller) reply effect call') : Creations deps ((s.apply deps effect).put caller call') := by
  have provides := turn_provides turned
  refine ⟨?_,fun none_yet => ?_⟩
  · show ∀ key id, (s.apply deps effect).replays key = some id → id ∈ (s.apply deps effect).issued
    rcases provides with ⟨_,issued,replays⟩ | ⟨_,_,_,_,_,_,_,mutated,_,issued,replays⟩ <;> rw [issued,replays]
    · exact creations.issued
    · exact mutate_issued creations.issued mutated
  · have unbound := creations.unbound (binding_kept none_yet)
    refine ⟨?_,?_,?_⟩
    · intro other
      rw [put_calls,apply_calls]
      split
      · exact turn_creating unbound (binding_kept none_yet) (unbound.calls caller) turned
      · exact unbound.calls other
    · exact fun row there => change_creating unbound (unbound.calls caller) (turn_row turned) there
    · show ∀ key id, (s.apply deps effect).replays key = some id → ∃ product ∈ (s.apply deps effect).history, _ ∧
        ((s.apply deps effect).remotes id).any _ = true
      rw [apply_history]
      rcases provides with ⟨remotes,_,replays⟩ | ⟨claimed,product,_,_,provision,calling,_,mutated,remotes,_,replays⟩ <;> rw [remotes,replays]
      · exact unbound.made
      · have creating := unbound.calls caller
        have sourced := versions.calls caller
        rw [calling] at creating sourced
        exact mutate_made creations.issued unbound.made (generations.claimed caller claimed (by rw [calling]; rfl)) creating sourced.1 mutated

theorem creations_step (creations : Creations deps s) (versions : Versions s) (generations : Generations deps s)
    (permitted : Closed s action) (moved : advance deps s action = some t) : Creations deps t := by
  cases action with
  | elapse => cases moved; exact ⟨creations.issued,fun none_yet => ⟨(creations.unbound none_yet).calls,(creations.unbound none_yet).row,(creations.unbound none_yet).made⟩⟩
  | edit product =>
      cases moved
      refine ⟨creations.issued,fun none_yet => ⟨(creations.unbound none_yet).calls,(creations.unbound none_yet).row,?_⟩⟩
      intro key id its
      obtain ⟨source,inside,rest⟩ := (creations.unbound none_yet).made key id its
      exact ⟨source,List.mem_append_left _ inside,rest⟩
  | outside => cases permitted
  | start caller call =>
      obtain ⟨_,starts,rfl⟩ := start_exact moved
      refine ⟨creations.issued,fun none_yet => ⟨?_,(creations.unbound none_yet).row,(creations.unbound none_yet).made⟩⟩
      intro other
      rw [put_calls]
      split
      · exact starting Creating starts (fun _ => trivial) (fun _ _ => trivial) (fun _ => trivial) trivial
      · exact (creations.unbound none_yet).calls other
  | reply caller reply =>
      obtain ⟨effect,call,turned,rfl⟩ := reply_exact moved
      exact creations_turn creations versions generations turned

theorem reached_creations (path : Reached (catalog deps) (both Closed allowed) s) : Creations deps s := by
  refine path.invariant (Creations deps) (fun _ => initial_creations) ?_
  intro u action next reached creations permitted moved
  exact creations_step creations (reached_versions reached) (reached_generations reached) permitted.1 moved

end Unbound

end Payable.Catalog
