import Payable.Migrations.Writes

namespace Payable.Migrations
open Checked Tables Runs

structure Fence (store : Store) (drawn : List String) : Prop where
  ids : Keyed Migration.id store.migrations
  owners : Keyed Claim.ownerToken store.claims
  alone : ∀ one ∈ store.claims, ∀ other ∈ store.claims, one.locks other.tenantKey other.subscriptionId = true →
    other.active = true → one.ownerToken = other.ownerToken
  constrained : ∀ row ∈ store.migrations, constraints row = true
  decoded : ∀ row ∈ store.migrations, toEntity row = .ok row
  tokens : ∀ row ∈ store.migrations, ∀ other ∈ store.migrations, ∀ token, row.executionToken = some token →
    other.executionToken = some token → row.id = other.id
  spent : ∀ row ∈ store.migrations, ∀ token, row.executionToken = some token → token ∈ drawn
  claimed : ∀ claim ∈ store.claims, claim.ownerToken ∈ drawn
  held : ∀ row ∈ store.migrations, row.status.fenced = true → ∃ claim ∈ store.claims, Owns row claim
  owns : ∀ claim ∈ store.claims, claim.active = true → claim.operation = .priceMigration →
    ∃ row ∈ store.migrations, row.status.fenced = true ∧ Owns row claim ∧
      claim.claimReference = .priceMigration row.id claim.ownerToken

theorem fence_inserted {next : Store} (fence : Fence store drawn) (grown : ∀ token ∈ drawn, token ∈ drawn')
    (unknown : ∀ other ∈ store.migrations, other.id ≠ row.id) (constrained : constraints row = true)
    (decoded : toEntity row = .ok row) (unfenced : row.status.fenced = false) (unowned : row.executionToken = none)
    (migrations : next.migrations = store.migrations ++ [row]) (claims : next.claims = store.claims) :
    Fence next drawn' := by
  have cases_ : ∀ other ∈ next.migrations, other ∈ store.migrations ∨ other = row := by
    intro other member
    rw [migrations] at member
    exact (List.mem_append.mp member).imp_right List.mem_singleton.mp
  have tokened : ∀ other ∈ next.migrations, ∀ token, other.executionToken = some token → other ∈ store.migrations := by
    intro other member token held
    rcases cases_ other member with old | rfl
    · exact old
    · simp [unowned] at held
  refine ⟨?_,claims ▸ fence.owners,claims ▸ fence.alone,?_,?_,?_,?_,?_,?_,?_⟩
  · rw [migrations]
    exact keyed_append fence.ids unknown
  · intro other member
    rcases cases_ other member with old | rfl
    · exact fence.constrained other old
    · exact constrained
  · intro other member
    rcases cases_ other member with old | rfl
    · exact fence.decoded other old
    · exact decoded
  · intro one member other member' token held held'
    exact fence.tokens one (tokened one member token held) other (tokened other member' token held') token held held'
  · intro other member token held
    exact grown token (fence.spent other (tokened other member token held) token held)
  · intro claim member
    exact grown _ (fence.claimed claim (claims ▸ member))
  · intro other member fenced
    rcases cases_ other member with old | rfl
    · exact claims ▸ fence.held other old fenced
    · simp [unfenced] at fenced
  · intro claim member active price
    obtain ⟨owner,inside,owns⟩ := fence.owns claim (claims ▸ member) active price
    exact ⟨owner,by rw [migrations]; exact List.mem_append_left _ inside,owns⟩

theorem fence_relabelled {next : Store} (fence : Fence store drawn)
    (rewritten : Rewritten store.migrations next.migrations row patch)
    (token : (patch row).executionToken = row.executionToken) (status : (patch row).status.fenced = row.status.fenced)
    (claims : next.claims = store.claims) : Fence next drawn := by
  have stable := rewritten.stable
  have before : ∀ other ∈ next.migrations, ∃ old ∈ store.migrations, old.id = other.id ∧ old.tenantKey = other.tenantKey ∧
      old.subscriptionId = other.subscriptionId ∧ old.executionToken = other.executionToken ∧
        old.status.fenced = other.status.fenced := by
    intro other member
    rcases rewritten_cases fence.ids rewritten member with rfl | ⟨old,_⟩
    · exact ⟨row,rewritten.member,(stable.id row).symm,(stable.tenantKey row).symm,(stable.subscriptionId row).symm,
        token.symm,status.symm⟩
    · exact ⟨other,old,rfl,rfl,rfl,rfl,rfl⟩
  refine ⟨rewritten_keyed fence.ids rewritten,claims ▸ fence.owners,claims ▸ fence.alone,?_,?_,?_,?_,claims ▸ fence.claimed,
    ?_,?_⟩
  · exact rewritten_all fence.ids rewritten fence.constrained rewritten.constrained
  · exact rewritten_all fence.ids rewritten fence.decoded rewritten.decoded
  · intro one member other member' token held held'
    obtain ⟨old,inside,same,_,_,its,_⟩ := before one member
    obtain ⟨old',inside',same',_,_,its',_⟩ := before other member'
    rw [← same,← same']
    exact fence.tokens old inside old' inside' token (its.trans held) (its'.trans held')
  · intro other member token held
    obtain ⟨old,inside,_,_,_,its,_⟩ := before other member
    exact fence.spent old inside token (its.trans held)
  · intro other member fenced
    obtain ⟨old,inside,_,tenant,subscription,its,standing⟩ := before other member
    obtain ⟨claim,there,active,price,tenant',subscription',holds⟩ := fence.held old inside (standing.trans fenced)
    exact ⟨claim,claims ▸ there,active,price,tenant'.trans tenant,subscription'.trans subscription,its ▸ holds⟩
  · intro claim member active price
    obtain ⟨owner,inside,fenced,⟨active',price',tenant,subscription,holds⟩,reference⟩ :=
      fence.owns claim (claims ▸ member) active price
    by_cases same : owner.id = row.id
    · have equal : owner = row := keyed_unique fence.ids inside rewritten.member same
      subst equal
      exact ⟨patch owner,rewritten_self rewritten,status.trans fenced,
        ⟨active',price',tenant.trans (stable.tenantKey owner).symm,subscription.trans (stable.subscriptionId owner).symm,
          token.trans holds⟩,by rw [reference,stable.id]⟩
    · exact ⟨owner,rewritten_other rewritten inside same,fenced,⟨active',price',tenant,subscription,holds⟩,reference⟩

-- A new active claim: nobody else has its token or locks its subscription.
theorem acquired_alone {store : Store} (fence : Fence store drawn) (acquired : Acquired store.claims claims claim) :
    Keyed Claim.ownerToken claims ∧ ∀ one ∈ claims, ∀ other ∈ claims,
      one.locks other.tenantKey other.subscriptionId = true → other.active = true → one.ownerToken = other.ownerToken := by
  obtain ⟨apart,rfl⟩ := acquired
  refine ⟨keyed_append fence.owners (fun row member => (apart row member).1),?_⟩
  intro one member other member' locks live
  rcases List.mem_append.mp member with old | new <;> rcases List.mem_append.mp member' with old' | new'
  · exact fence.alone one old other old' locks live
  · cases List.mem_singleton.mp new'
    simp [(apart one old).2] at locks
  · cases List.mem_singleton.mp new
    have back : other.locks claim.tenantKey claim.subscriptionId = true := by
      simp only [Claim.locks,Bool.and_eq_true,beq_iff_eq] at locks ⊢
      exact ⟨⟨live,locks.1.2.symm⟩,locks.2.symm⟩
    simp [(apart other old').2] at back
  · cases List.mem_singleton.mp new
    cases List.mem_singleton.mp new'
    rfl

theorem acquired_member (acquired : Acquired claims next claim) : other ∈ next ↔ other ∈ claims ∨ other = claim := by
  rw [acquired.2,List.mem_append,List.mem_singleton]

theorem fence_fenced {store next : Store} (fence : Fence store drawn) (grown : ∀ token ∈ drawn, token ∈ drawn')
    (rewritten : Rewritten store.migrations next.migrations row patch) (unowned : row.executionToken = none)
    (token : (patch row).executionToken = some executionToken) (status : (patch row).status.fenced = true)
    (undrawn : executionToken ∉ drawn) (drawn_ : executionToken ∈ drawn')
    (acquired : Acquired store.claims next.claims (priceClaim row executionToken)) : Fence next drawn' := by
  have stable := rewritten.stable
  obtain ⟨owners,alone⟩ := acquired_alone fence acquired
  have elsewhere : ∀ other ∈ store.migrations, other.executionToken ≠ none → other ∈ next.migrations := by
    intro other member holds
    refine rewritten_other rewritten member ?_
    intro same
    rw [keyed_unique fence.ids member rewritten.member same] at holds
    exact holds unowned
  have tokened : ∀ other ∈ next.migrations, ∀ its, other.executionToken = some its →
      other = patch row ∧ its = executionToken ∨ other ∈ store.migrations ∧ its ≠ executionToken := by
    intro other member its held
    rcases rewritten_cases fence.ids rewritten member with rfl | ⟨old,_⟩
    · exact .inl ⟨rfl,Option.some.inj (held.symm.trans token)⟩
    · refine .inr ⟨old,?_⟩
      intro same
      subst same
      exact undrawn (fence.spent other old its held)
  refine ⟨rewritten_keyed fence.ids rewritten,owners,alone,?_,?_,?_,?_,?_,?_,?_⟩
  · exact rewritten_all fence.ids rewritten fence.constrained rewritten.constrained
  · exact rewritten_all fence.ids rewritten fence.decoded rewritten.decoded
  · intro one member other member' its held held'
    rcases tokened one member its held with ⟨rfl,here⟩ | ⟨old,apart⟩ <;>
      rcases tokened other member' its held' with ⟨rfl,here'⟩ | ⟨old',apart'⟩
    · rfl
    · exact absurd here apart'
    · exact absurd here' apart
    · exact fence.tokens one old other old' its held held'
  · intro other member its held
    rcases tokened other member its held with ⟨_,rfl⟩ | ⟨old,_⟩
    · exact drawn_
    · exact grown its (fence.spent other old its held)
  · intro claim member
    rcases (acquired_member acquired).mp member with old | rfl
    · exact grown _ (fence.claimed claim old)
    · exact drawn_
  · intro other member fenced
    rcases rewritten_cases fence.ids rewritten member with rfl | ⟨old,_⟩
    · exact ⟨priceClaim row executionToken,(acquired_member acquired).mpr (.inr rfl),rfl,rfl,(stable.tenantKey row).symm,
        (stable.subscriptionId row).symm,token⟩
    · obtain ⟨claim,there,owns⟩ := fence.held other old fenced
      exact ⟨claim,(acquired_member acquired).mpr (.inl there),owns⟩
  · intro claim member active price
    rcases (acquired_member acquired).mp member with old | rfl
    · obtain ⟨owner,inside,fenced,owns,reference⟩ := fence.owns claim old active price
      exact ⟨owner,elsewhere owner inside (by simp [owns.2.2.2.2]),fenced,owns,reference⟩
    · refine ⟨patch row,rewritten_self rewritten,status,⟨rfl,rfl,(stable.tenantKey row).symm,
        (stable.subscriptionId row).symm,token⟩,?_⟩
      rw [stable.id]
      rfl

theorem fence_unfenced {store next : Store} (fence : Fence store drawn)
    (rewritten : Rewritten store.migrations next.migrations row patch) (held : row.executionToken = some executionToken)
    (token : (patch row).executionToken = none ∨ (patch row).executionToken = some executionToken)
    (status : (patch row).status.fenced = false) (released : Released store.claims next.claims executionToken) :
    Fence next drawn := by
  have before : ∀ other ∈ next.migrations, ∀ its, other.executionToken = some its →
      ∃ old ∈ store.migrations, old.id = other.id ∧ old.executionToken = some its := by
    intro other member its holds
    rcases rewritten_cases fence.ids rewritten member with rfl | ⟨old,_⟩
    · refine ⟨row,rewritten.member,(rewritten.stable.id row).symm,?_⟩
      rcases token with gone | kept
      · simp [gone] at holds
      · rw [held,← kept,holds]
    · exact ⟨other,old,rfl,holds⟩
  have kept : ∀ claim, claim ∈ next.claims ↔ claim ∈ store.claims ∧ claim.ownerToken ≠ executionToken :=
    fun _ => released_member fence.owners released
  refine ⟨rewritten_keyed fence.ids rewritten,released_keyed fence.owners released,?_,?_,?_,?_,?_,?_,?_,?_⟩
  · intro one member other member'
    exact fence.alone one ((kept one).mp member).1 other ((kept other).mp member').1
  · exact rewritten_all fence.ids rewritten fence.constrained rewritten.constrained
  · exact rewritten_all fence.ids rewritten fence.decoded rewritten.decoded
  · intro one member other member' its holds holds'
    obtain ⟨old,inside,same,here⟩ := before one member its holds
    obtain ⟨old',inside',same',here'⟩ := before other member' its holds'
    rw [← same,← same']
    exact fence.tokens old inside old' inside' its here here'
  · intro other member its holds
    obtain ⟨old,inside,_,here⟩ := before other member its holds
    exact fence.spent old inside its here
  · intro claim member
    exact fence.claimed claim ((kept claim).mp member).1
  · intro other member fenced
    rcases rewritten_cases fence.ids rewritten member with rfl | ⟨old,apart⟩
    · simp [status] at fenced
    · obtain ⟨claim,there,owns⟩ := fence.held other old fenced
      refine ⟨claim,(kept claim).mpr ⟨there,?_⟩,owns⟩
      intro same
      exact apart (fence.tokens other old row rewritten.member executionToken (same ▸ owns.2.2.2.2) held)
  · intro claim member active price
    obtain ⟨there,other⟩ := (kept claim).mp member
    obtain ⟨owner,inside,fenced,owns,reference⟩ := fence.owns claim there active price
    refine ⟨owner,rewritten_other rewritten inside ?_,fenced,owns,reference⟩
    intro same
    have equal : owner = row := keyed_unique fence.ids inside rewritten.member same
    have holds := owns.2.2.2.2
    rw [equal,held,Option.some.injEq] at holds
    exact other holds.symm

theorem fence_acquired {store next : Store} (fence : Fence store drawn) (grown : ∀ token ∈ drawn, token ∈ drawn')
    (direct : claim.operation ≠ .priceMigration) (drawn_ : claim.ownerToken ∈ drawn')
    (migrations : next.migrations = store.migrations) (acquired : Acquired store.claims next.claims claim) :
    Fence next drawn' := by
  obtain ⟨owners,alone⟩ := acquired_alone fence acquired
  refine ⟨migrations ▸ fence.ids,owners,alone,migrations ▸ fence.constrained,migrations ▸ fence.decoded,
    migrations ▸ fence.tokens,?_,?_,?_,?_⟩
  · intro row member token holds
    exact grown token (fence.spent row (migrations ▸ member) token holds)
  · intro other member
    rcases (acquired_member acquired).mp member with old | rfl
    · exact grown _ (fence.claimed other old)
    · exact drawn_
  · intro row member fenced
    obtain ⟨other,there,owns⟩ := fence.held row (migrations ▸ member) fenced
    exact ⟨other,(acquired_member acquired).mpr (.inl there),owns⟩
  · intro other member live price
    rcases (acquired_member acquired).mp member with old | rfl
    · exact migrations ▸ fence.owns other old live price
    · exact absurd price direct

theorem fence_released {store next : Store} (fence : Fence store drawn)
    (foreign : ∀ claim ∈ store.claims, claim.ownerToken = ownerToken → claim.operation ≠ .priceMigration)
    (migrations : next.migrations = store.migrations) (released : Released store.claims next.claims ownerToken) :
    Fence next drawn := by
  have kept : ∀ claim, claim ∈ next.claims ↔ claim ∈ store.claims ∧ claim.ownerToken ≠ ownerToken :=
    fun _ => released_member fence.owners released
  refine ⟨migrations ▸ fence.ids,released_keyed fence.owners released,?_,migrations ▸ fence.constrained,
    migrations ▸ fence.decoded,migrations ▸ fence.tokens,migrations ▸ fence.spent,?_,?_,?_⟩
  · intro one member other member'
    exact fence.alone one ((kept one).mp member).1 other ((kept other).mp member').1
  · intro claim member
    exact fence.claimed claim ((kept claim).mp member).1
  · intro row member fenced
    obtain ⟨claim,there,owns⟩ := fence.held row (migrations ▸ member) fenced
    exact ⟨claim,(kept claim).mpr ⟨there,fun same => foreign claim there same owns.2.1⟩,owns⟩
  · intro claim member active price
    exact migrations ▸ fence.owns claim ((kept claim).mp member).1 active price

theorem fence_resolved {store next : Store} {selects : Claim → Bool} {recorded : Outcome × String} (fence : Fence store drawn)
    (direct : ∀ claim ∈ store.claims, selects claim = true → claim.operation ≠ .priceMigration)
    (migrations : next.migrations = store.migrations)
    (claims : next.claims = store.claims.map fun claim =>
      if selects claim then {claim with resolution := some recorded} else claim) : Fence next drawn := by
  have before : ∀ claim ∈ next.claims, ∃ old ∈ store.claims, old.ownerToken = claim.ownerToken ∧
      (claim.active = true → old = claim) := by
    intro claim member
    rw [claims] at member
    obtain ⟨old,inside,rfl⟩ := List.mem_map.mp member
    split
    · exact ⟨old,inside,rfl,fun active => by cases active⟩
    · exact ⟨old,inside,rfl,fun _ => rfl⟩
  have kept : ∀ claim ∈ store.claims, claim.operation = .priceMigration → claim ∈ next.claims := by
    intro claim member price
    rw [claims]
    refine List.mem_map.mpr ⟨claim,member,if_neg ?_⟩
    intro selected
    exact direct claim member selected price
  refine ⟨migrations ▸ fence.ids,?_,?_,migrations ▸ fence.constrained,migrations ▸ fence.decoded,
    migrations ▸ fence.tokens,migrations ▸ fence.spent,?_,?_,?_⟩
  · have keys : next.claims.map Claim.ownerToken = store.claims.map Claim.ownerToken := by
      rw [claims,List.map_map]
      apply List.map_congr_left
      intro claim _
      simp only [Function.comp]
      split <;> rfl
    unfold Keyed
    rw [keys]
    exact fence.owners
  · intro one member other member' locks live
    obtain ⟨old,inside,_,same⟩ := before one member
    obtain ⟨old',inside',_,same'⟩ := before other member'
    have active : one.active = true := by
      simp only [Claim.locks,Bool.and_eq_true] at locks
      exact locks.1.1
    have equal := same active
    have equal' := same' live
    subst equal
    subst equal'
    exact fence.alone old inside old' inside' locks live
  · intro claim member
    obtain ⟨old,inside,same,_⟩ := before claim member
    exact same ▸ fence.claimed old inside
  · intro row member fenced
    obtain ⟨claim,there,owns⟩ := fence.held row (migrations ▸ member) fenced
    exact ⟨claim,kept claim there owns.2.1,owns⟩
  · intro claim member active price
    obtain ⟨old,inside,_,same⟩ := before claim member
    have equal := same active
    subst equal
    exact migrations ▸ fence.owns old inside active price

theorem fence_written {store next : Store} (fence : Fence store drawn) (grown : ∀ token ∈ drawn, token ∈ drawn')
    (write : Write drawn drawn' store next) : Fence next drawn' := by
  have grow : ∀ store : Store, Fence store drawn → Fence store drawn' := by
    intro store fence
    exact {fence with
      spent := fun row member token holds => grown token (fence.spent row member token holds)
      claimed := fun claim member => grown _ (fence.claimed claim member)}
  cases write with
  | same migrations claims =>
      apply grow
      exact ⟨migrations ▸ fence.ids,claims ▸ fence.owners,claims ▸ fence.alone,migrations ▸ fence.constrained,
        migrations ▸ fence.decoded,migrations ▸ fence.tokens,migrations ▸ fence.spent,claims ▸ fence.claimed,migrations ▸ claims ▸ fence.held,
        migrations ▸ claims ▸ fence.owns⟩
  | inserted unknown constrained decoded unfenced unowned _ migrations claims =>
      exact fence_inserted fence grown unknown constrained decoded unfenced unowned migrations claims
  | relabelled rewritten token status _ claims => exact grow _ (fence_relabelled fence rewritten token status claims)
  | fenced rewritten unowned token status undrawn drawn_ acquired =>
      exact fence_fenced fence grown rewritten unowned token status undrawn drawn_ acquired
  | unfenced rewritten held token status _ released =>
      exact grow _ (fence_unfenced fence rewritten held token status released)
  | acquired direct drawn_ migrations acquired =>
      exact fence_acquired fence grown direct drawn_ migrations acquired
  | released foreign migrations released => exact grow _ (fence_released fence foreign migrations released)
  | resolved direct migrations claims => exact grow _ (fence_resolved fence direct migrations claims)

-- The token under which a process holds a claim that is not of a price migration.
def Process.foreign : Process → Option String
  | .acquiring direct | .mutating direct | .releasing direct | .persisting direct => some direct.ownerToken
  | .resolvingClaim claim _ _ => if claim.operation = .priceMigration then none else some claim.ownerToken
  | .preparing _ _ _ | .calling _ _ | .failing _ _ _ | .projecting _ _ | .settling _ _ | .done => none

def Foreign (drawn : List String) (claims : List Claim) (token : String) : Prop :=
  token ∈ drawn ∧ ∀ claim ∈ claims, claim.ownerToken = token → claim.operation ≠ .priceMigration

structure Fenced (s : State) : Prop where
  fence : Fence s.store s.drawn
  foreign : ∀ caller process token, s.processes caller = some process → process.foreign = some token →
    Foreign s.drawn s.store.claims token

theorem write_foreign (grown : ∀ token ∈ drawn, token ∈ drawn') (write : Write drawn drawn' store next)
    (foreign : Foreign drawn store.claims token) : Foreign drawn' next.claims token := by
  obtain ⟨known,others⟩ := foreign
  refine ⟨grown token known,?_⟩
  intro claim member its
  cases write with
  | same _ claims => exact others claim (claims ▸ member) its
  | inserted _ _ _ _ _ _ _ claims => exact others claim (claims ▸ member) its
  | relabelled _ _ _ _ claims => exact others claim (claims ▸ member) its
  | fenced _ _ _ _ undrawn _ acquired =>
      rcases (acquired_member acquired).mp member with old | rfl
      · exact others claim old its
      · subst its
        exact absurd known undrawn
  | unfenced _ _ _ _ _ released =>
      obtain ⟨_,_,_,same⟩ := released
      rw [same] at member
      exact others claim (List.mem_of_mem_filter member) its
  | acquired direct _ _ acquired =>
      rcases (acquired_member acquired).mp member with old | rfl
      · exact others claim old its
      · exact direct
  | released _ _ released =>
      obtain ⟨_,_,_,same⟩ := released
      rw [same] at member
      exact others claim (List.mem_of_mem_filter member) its
  | resolved _ _ claims =>
      rw [claims] at member
      obtain ⟨old,inside,rfl⟩ := List.mem_map.mp member
      have same : old.ownerToken = token := by split at its <;> exact its
      split <;> exact others old inside same

-- A process moves on, with what its transaction wrote.
theorem fenced_moved {s : State} {store : Store} {process : Process} (fenced : Fenced s)
    (grown : ∀ token ∈ s.drawn, token ∈ drawn) (write : Write s.drawn drawn s.store store)
    (mine : ∀ token, process.foreign = some token → Foreign drawn store.claims token) :
    Fenced {s.put caller process with store := store,drawn := drawn} := by
  refine ⟨fence_written fenced.fence grown write,?_⟩
  intro other its token live foreign
  by_cases same : other = caller
  · subst same
    have equal : process = its := Option.some.inj ((Function.update_self other _ s.processes).symm.trans live)
    subst equal
    exact mine token foreign
  · have before : s.processes other = some its := (Function.update_of_ne same _ _).symm.trans live
    exact write_foreign grown write (fenced.foreign other its token before foreign)

theorem fenced_put {s : State} {process : Process} (fenced : Fenced s)
    (mine : ∀ token, process.foreign = some token → Foreign s.drawn s.store.claims token) : Fenced (s.put caller process) :=
  fenced_moved fenced (fun _ => id) (.same rfl rfl) mine

theorem fenced_commits {s : State} {ran : Except MigrationError (Store × Process)} {threw : Process} (fenced : Fenced s)
    (grown : ∀ token ∈ s.drawn, token ∈ drawn)
    (stopped : ∀ token, threw.foreign = some token → Foreign s.drawn s.store.claims token)
    (wrote : ∀ store next, ran = .ok (store,next) → Write s.drawn drawn s.store store ∧
      ∀ token, next.foreign = some token → Foreign s.drawn s.store.claims token) :
    Fenced (commits {s with drawn := drawn} caller commit ran threw) := by
  have unchanged : Write s.drawn drawn s.store s.store := .same rfl rfl
  have unwritten : Fenced ({s with drawn := drawn}.put caller threw) :=
    fenced_moved fenced grown unchanged (fun token foreign => write_foreign grown unchanged (stopped token foreign))
  unfold commits
  split
  · rename_i store next
    obtain ⟨write,mine⟩ := wrote store next rfl
    change Fenced {s.put caller next with store := store,drawn := drawn}
    exact fenced_moved fenced grown write (fun token foreign => write_foreign grown write (mine token foreign))
  · rename_i store next
    obtain ⟨write,_⟩ := wrote store next rfl
    change Fenced {s.put caller threw with store := store,drawn := drawn}
    exact fenced_moved fenced grown write (fun token foreign => write_foreign grown write (stopped token foreign))
  · exact unwritten
  · exact unwritten

-- A transaction after which its process holds no token.
theorem ended {Result : Type} {ran : Except MigrationError Result} {wrap : Result → Store × Process} {threw : Process}
    {foreign : Option String} (silent : threw.foreign = none) (finished : ∀ result, (wrap result).2.foreign = none)
    (wrote : ∀ result, ran = .ok result → Write drawn drawn store (wrap result).1) :
    (∀ token, threw.foreign = some token → foreign = some token) ∧
      ∀ after next, ran.map wrap = .ok (after,next) → Write drawn drawn store after ∧
        ∀ token, next.foreign = some token → foreign = some token := by
  refine ⟨by simp [silent],?_⟩
  intro after next did
  obtain ⟨result,did,same⟩ := map_ok.mp did
  have last := finished result
  have write := wrote result did
  rw [same] at last write
  exact ⟨write,by simp [last]⟩

theorem transaction_write {s : State} (fenced : Fenced s) (live : s.processes caller = some process)
    (did : transaction s.store s.now source projects process = some (ran,threw)) :
    (∀ token, threw.foreign = some token → process.foreign = some token) ∧
      ∀ store next, ran = .ok (store,next) → Write s.drawn s.drawn s.store store ∧
        ∀ token, next.foreign = some token → process.foreign = some token := by
  have constrained := fenced.fence.constrained
  cases process with
  | failing tenantId migration completion =>
      cases did
      exact ended rfl (fun _ => rfl) (fun _ => complete_write constrained)
  | projecting tenantId migration =>
      cases did
      exact ended rfl (fun _ => rfl) (fun _ => project_write constrained)
  | settling tenantId migration =>
      cases did
      exact ended rfl (fun _ => rfl) (fun _ => settle_write)
  | resolvingClaim claim outcome evidenceReference =>
      cases did
      refine ended rfl (fun _ => rfl) ?_
      intro claims did
      refine resolveClaim_write did ?_
      intro direct
      exact (fenced.foreign caller _ claim.ownerToken live (if_neg direct)).2
  | acquiring direct =>
      cases did
      refine ⟨by simp [Process.foreign],?_⟩
      intro store next did
      obtain ⟨_,ran,same⟩ := map_ok.mp did
      cases same
      have known := (fenced.foreign caller _ direct.ownerToken live rfl).1
      exact ⟨.acquired (by simp [Direct.claim]) known rfl (acquire_acquired ran),fun _ same => same⟩
  | releasing direct =>
      cases did
      have foreign := (fenced.foreign caller _ direct.ownerToken live rfl).2
      exact ended rfl (fun _ => rfl) (fun _ did => .released foreign rfl (release_released did))
  | persisting direct =>
      cases did
      refine ⟨by simp [Process.foreign],?_⟩
      intro store next did
      simp only [bind_ok,pure_ok] at did
      obtain ⟨_,_,_,did,same⟩ := did
      cases same
      have foreign := (fenced.foreign caller _ direct.ownerToken live rfl).2
      exact ⟨.released foreign rfl (release_released did),by simp [Process.foreign]⟩
  | preparing | calling | mutating | done => cases did

theorem fresh_undrawn {s : State} (drawable : fresh s uuid = true) : uuid ∉ s.drawn := by
  simpa [fresh] using ((Bool.and_eq_true _ _).mp drawable).2

theorem replied_foreign {process next : Process} (did : process.replied reply = some next) :
    ∀ token, next.foreign = some token → process.foreign = some token := by
  intro token foreign
  cases process with
  | calling => rcases reply with _ | _ | _ | _ <;> cases did <;> cases foreign
  | mutating direct => cases reply <;> cases did <;> first | exact foreign | cases foreign
  | preparing | failing | projecting | settling | resolvingClaim | acquiring | releasing | persisting | done => cases did

theorem fenced_withStore {s : State} (fenced : Fenced s) (write : Write s.drawn s.drawn s.store store) :
    Fenced (s.withStore store) :=
  ⟨fence_written fenced.fence (fun _ => id) write,fun caller process token live foreign =>
    write_foreign (fun _ => id) write (fenced.foreign caller process token live foreign)⟩

theorem fenced_mutate {s : State} {direct : Direct} (fenced : Fenced s) (owner : fresh s direct.ownerToken = true) :
    Fenced ((s.drawing [direct.ownerToken,direct.uuid]).put caller (.acquiring direct)) := by
  have undrawn := fresh_undrawn owner
  have grown : ∀ token ∈ s.drawn, token ∈ [direct.ownerToken,direct.uuid] ++ s.drawn := by
    intro token known
    exact List.mem_append_right _ known
  refine fenced_moved fenced grown (.same rfl rfl) ?_
  intro token its
  cases its
  refine ⟨List.mem_cons_self ..,?_⟩
  intro claim member same
  exact absurd (same ▸ fenced.fence.claimed claim member) undrawn

theorem fenced_resolveClaim {s : State} (fenced : Fenced s) (member : claim ∈ s.store.claims) :
    Fenced (s.put caller (.resolvingClaim claim outcome evidenceReference)) := by
  refine fenced_put fenced ?_
  intro token its
  simp only [Process.foreign] at its
  split at its
  · cases its
  · rename_i direct
    cases its
    refine ⟨fenced.fence.claimed claim member,?_⟩
    intro other inside same
    rw [keyed_unique fenced.fence.owners inside member same]
    exact direct

theorem fenced_preserved {s next : State} (fenced : Fenced s) (moved : advance s action = some next) : Fenced next := by
  cases advance_moved moved with
  | @preview migrationId _ _ _ _ _ _ drawable ran =>
      have write : Write s.drawn ([migrationId] ++ s.drawn) s.store _ := insert_write rfl rfl (fun _ => rfl) ran
      have grown : ∀ token ∈ s.drawn, token ∈ [migrationId] ++ s.drawn := fun token known => by simp [known]
      exact ⟨fence_written fenced.fence grown write,fun caller process token live foreign =>
        write_foreign grown write (fenced.foreign caller process token live foreign)⟩
  | schedule ran => exact fenced_withStore fenced (schedule_write ran)
  | cancel ran => exact fenced_withStore fenced (cancel_write ran)
  | resolve _ ran => exact fenced_withStore fenced (resolve_write ran)
  | execute | settle | crash => exact fenced_put fenced (by simp [Process.foreign])
  | prepare _ drawable =>
      refine fenced_commits fenced (fun token known => by simp [known]) (by simp [Process.foreign]) ?_
      intro store next ran
      obtain ⟨⟨after,claimed⟩,prepared_,same⟩ := map_ok.mp ran
      cases same
      refine ⟨prepare_write (fresh_undrawn drawable) (by simp) prepared_,?_⟩
      cases claimed <;> simp [prepared,Process.foreign]
  | mutate _ owner => exact fenced_mutate fenced owner
  | resolveClaim _ member => exact fenced_resolveClaim fenced member
  | replied live did =>
      exact fenced_put fenced (fun token foreign => fenced.foreign _ _ token live (replied_foreign did token foreign))
  | transact live did =>
      obtain ⟨stopped,wrote⟩ := transaction_write fenced live did
      refine fenced_commits fenced (fun _ => id) ?_ ?_
      · exact fun token foreign => fenced.foreign _ _ token live (stopped token foreign)
      · intro store next ran
        obtain ⟨write,mine⟩ := wrote store next ran
        exact ⟨write,fun token foreign => fenced.foreign _ _ token live (mine token foreign)⟩
  | tick => exact ⟨fenced.fence,fenced.foreign⟩

theorem reached_fenced {s : State} (path : Reached system allowed s) : Fenced s := by
  refine path.invariant Fenced ?_ ?_
  · intro u initial
    obtain ⟨now,same⟩ := initial
    subst same
    refine ⟨⟨List.nodup_nil,List.nodup_nil,?_,?_,?_,?_,?_,?_,?_,?_⟩,?_⟩
    iterate 8
      · intro row member
        cases member
    · intro caller process token live
      cases live
  · intro u action next _ fenced _ moved
    exact fenced_preserved fenced moved

-- The claims and the migrations exclude each other's work on a subscription.
theorem migrations_fenced {s : State} (path : Reached system anyStep s) :
    (∀ tenantKey subscriptionId, (s.store.claims.filter (·.locks tenantKey subscriptionId)).length ≤ 1) ∧
    (∀ row ∈ s.store.migrations, row.status.fenced = true ↔ ∃ claim ∈ s.store.claims, Owns row claim) ∧
    ∀ row ∈ s.store.migrations,
      row.status = .previewed ∨ row.status = .scheduled ∨ row.status = .failed ∨ row.status = .cancelled →
        row.executionToken = none ∧ ∀ claim ∈ s.store.claims, claim.active = true → claim.operation = .priceMigration →
          ∀ token, claim.claimReference ≠ .priceMigration row.id token := by
  have fence := (reached_fenced path).fence
  refine ⟨?_,?_,?_⟩
  · intro tenantKey subscriptionId
    apply keyed_alone fence.owners
    intro one member other member' locks locks'
    simp only [Claim.locks,Bool.and_eq_true,beq_iff_eq] at locks locks'
    refine fence.alone one member other member' ?_ locks'.1.1
    simp only [Claim.locks,Bool.and_eq_true,beq_iff_eq]
    exact ⟨⟨locks.1.1,locks.1.2.trans locks'.1.2.symm⟩,locks.2.trans locks'.2.symm⟩
  · intro row member
    refine ⟨fence.held row member,?_⟩
    rintro ⟨claim,there,active,price,_,_,holds⟩
    obtain ⟨owner,inside,fenced,owns,_⟩ := fence.owns claim there active price
    have same := fence.tokens owner inside row member claim.ownerToken owns.2.2.2.2 holds
    exact keyed_unique fence.ids inside member same ▸ fenced
  · intro row member idle
    have unfenced : row.status.fenced = false ∧ row.status.claimed = false := by
      rcases idle with idle | idle | idle | idle <;> rw [idle] <;> exact ⟨rfl,rfl⟩
    refine ⟨?_,?_⟩
    · have unclaimed := unclaimed_token (fence.constrained row member)
      rw [unfenced.2] at unclaimed
      simpa using unclaimed
    · intro claim there active price token reference
      obtain ⟨owner,inside,fenced,_,reference'⟩ := fence.owns claim there active price
      rw [reference,ClaimReference.priceMigration.injEq] at reference'
      have equal : owner = row := keyed_unique fence.ids inside member reference'.1.symm
      rw [equal,unfenced.1] at fenced
      cases fenced

section Schedules

def immediateMigration : List Action :=
  [.preview none "m1" "s1" .immediate none 1000,.execute 0 none "m1" .previewed,.prepare 0 "t1" true .committed]

theorem empty_initial (now : Int) : system.initial (empty now) := ⟨now,rfl⟩

theorem migrations_fenced_executing :
    ∃ s : State, s.store.migrations.any (·.status = .executing) = true ∧
      (s.store.claims.filter (·.locks "" "s1")).length ≤ 1 := by
  have passed : (run system anyStep (empty 0) immediateMigration).any (fun s =>
      s.store.migrations.any (·.status = .executing)) = true := by decide
  obtain ⟨s,path,found⟩ := run_reaches (empty_initial 0) passed
  exact ⟨s,found,(migrations_fenced path).1 "" "s1"⟩

end Schedules

end Payable.Migrations
