import Payable.Catalog.Turns

namespace Payable.Catalog
open Runs

variable {deps : CatalogDependencies}

-- The owner id of a worker that is past the statement which writes it on the row.
def Call.holder : Call → Option String
  | .worker (.verifying claim _) => some claim.ownerId
  | .worker (.skipping claimed) | .worker (.recovering claimed _ _) | .worker (.calling claimed _)
  | .worker (.committing claimed _ _ _) | .worker (.remembering claimed _ _) | .worker (.reporting claimed _ _)
  | .worker (.failing claimed _) => claimed.attemptOwnerId
  | _ => none

-- The row that a worker has claimed, as it read it back.
def Call.claimed : Call → Option CatalogSynchronization
  | .worker (.skipping claimed) | .worker (.recovering claimed _ _) | .worker (.calling claimed _)
  | .worker (.committing claimed _ _ _) | .worker (.remembering claimed _ _) | .worker (.reporting claimed _ _)
  | .worker (.failing claimed _) => some claimed
  | _ => none

def Call.claiming : Call → Option String
  | .worker (.expiring claim _) | .worker (.claiming claim _) => some claim.ownerId
  | _ => none

def Call.owner (call : Call) : Option String := call.holder.or call.claiming

def Owned (s : State) (owner : String) : Prop := ∃ row, s.row = some row ∧ ownedBy (some owner) row = true

def Current (s : State) (caller : Nat) : Prop := ∃ owner, (s.calls caller).holder = some owner ∧ Owned s owner

-- A worker whose claim stands on the row no more.
def Superseded (s : State) (caller : Nat) : Prop := ∃ owner, (s.calls caller).holder = some owner ∧ ¬ Owned s owner

section Descent

-- A write that leaves the generation, brings in no owner and starts no processing.
structure Descends (row row' : CatalogSynchronization) : Prop where
  same : row'.id = row.id
  operation : row'.operation = row.operation
  version : row'.canonicalVersion = row.canonicalVersion
  key : row'.idempotencyKey = row.idempotencyKey
  owner : row'.attemptOwnerId = row.attemptOwnerId ∨ row'.attemptOwnerId = none
  processing : row'.status = .processing → row.status = .processing

-- The patches of the program name no owner and do not begin an attempt.
structure Ends (patch : CatalogSynchronizationPatch) : Prop where
  owner : patch.attemptOwnerId = none
  status : patch.status ≠ some .processing

theorem skipPatch_ends : Ends skipPatch := ⟨rfl,by decide⟩
theorem succeedPatch_ends : Ends (succeedPatch s remote) := ⟨rfl,by simp [succeedPatch]⟩
theorem rememberPatch_ends : Ends (rememberPatch deps remote) := ⟨rfl,by simp [rememberPatch]⟩
theorem failPatch_ends : Ends (failPatch deps code) := ⟨rfl,by simp [failPatch]⟩
theorem retryPatch_ends : Ends (retryPatch existing) := ⟨rfl,by simp [retryPatch]⟩

theorem reconciliation_ends (reconciliation : Reconciliation) : Ends reconciliation.patch := by
  cases reconciliation <;> exact ⟨rfl,by simp [Reconciliation.patch]⟩

theorem patched_descends (row : CatalogSynchronization) (ends : Ends patch) : Descends row (row.patched (releasing patch ownerId)) := by
  refine ⟨rfl,rfl,rfl,rfl,?_,?_⟩
  · cases ownerId with
    | none => exact .inl (by simp [CatalogSynchronization.patched,releasing,ends.owner])
    | some owner => exact .inr (by simp [CatalogSynchronization.patched,releasing])
  · have status : (releasing patch ownerId).status = patch.status := by cases ownerId <;> rfl
    intro processing
    rw [CatalogSynchronization.patched,status] at processing
    cases stated : patch.status with
    | none => simpa [stated] using processing
    | some next =>
        rw [stated] at processing
        exact absurd (stated.trans (congrArg some processing)) ends.status

theorem updateIfCurrent_descends (ends : Ends patch) (updated : updateIfCurrent row version key patch ownerId expected = some row') :
    ∃ old, row = some old ∧ Descends old row' := by
  obtain ⟨old,there,_,_,_,_,rfl⟩ := updateIfCurrent_some updated
  exact ⟨old,there,patched_descends old ends⟩

theorem expireClaim_descends (claim : Claim) (there : row = some old) : ∃ row', expireClaim row claim = some row' ∧ Descends old row' := by
  subst there
  simp only [expireClaim,Option.map_some]
  refine ⟨_,rfl,?_⟩
  split
  · exact ⟨rfl,rfl,rfl,rfl,.inr rfl,nofun⟩
  · exact ⟨rfl,rfl,rfl,rfl,.inl rfl,fun processing => processing⟩

theorem Descends.unowned {owner : String} (descends : Descends row row') (owned : ownedBy (some owner) row' = true) : ownedBy (some owner) row = true := by
  rw [ownedBy_some] at owned ⊢
  refine ⟨descends.processing owned.1,?_⟩
  rcases descends.owner with same | released
  · rw [← same]
    exact owned.2
  · rw [released] at owned
    cases owned.2

-- What a step of a call does to the row.
inductive RowChange (deps : CatalogDependencies) (s : State) : Option CatalogSynchronization → Call → Call → Prop where
  | same : RowChange deps s s.row call call'
  | written (written : writeGeneration s.row existing data drawn = some row) :
      RowChange deps s (some row) (.requester (.writing data existing)) .finished
  | taken (taken : takeClaim deps.capabilities.catalogIdempotency s.row claim = some row) :
      RowChange deps s (some row) (.worker (.claiming claim product)) (.worker (.verifying claim product))
  | descends (there : s.row = some old) (descends : Descends old row) : RowChange deps s (some row) call call'

theorem fenced_change (ends : Ends patch) : RowChange deps s (s.apply deps (transition s claimed patch)).row call call' := by
  unfold transition
  split
  · rename_i row updated
    obtain ⟨old,there,descends⟩ := updateIfCurrent_descends ends updated
    exact .descends there descends
  · exact .same

theorem turn_row (turned : Turn deps s call reply effect call') : RowChange deps s (s.apply deps effect).row call call' := by
  cases turned with
  | writes made => exact .written made
  | takes taken => exact .taken taken
  | expires =>
      rename_i claim product
      cases there : s.row with
      | none =>
          have same : (s.apply deps (.expire claim)).row = s.row := by simp [State.apply,expireClaim,there]
          rw [same]
          exact .same
      | some old =>
          obtain ⟨row,expired,descends⟩ := expireClaim_descends claim there
          have same : (s.apply deps (.expire claim)).row = some row := expired
          rw [same]
          exact .descends there descends
  | skips => exact fenced_change skipPatch_ends
  | remembers => exact fenced_change rememberPatch_ends
  | fails => exact fenced_change failPatch_ends
  | commits current =>
      obtain ⟨old,there,descends⟩ := updateIfCurrent_descends succeedPatch_ends current
      exact .descends there descends
  | settles updated =>
      obtain ⟨old,there,descends⟩ := updateIfCurrent_descends (reconciliation_ends _) updated
      exact .descends there descends
  | retries updated =>
      obtain ⟨old,there,descends⟩ := updateIfCurrent_descends retryPatch_ends updated
      exact .descends there descends
  | _ => exact .same

end Descent

section Fencing

variable {s : State}

theorem apply_owners (deps : CatalogDependencies) (s : State) (effect : Effect) : (s.apply deps effect).owners = s.owners ∨
    ∃ owner, effect = .draw owner ∧ (s.apply deps effect).owners = owner :: s.owners := by
  cases effect with
  | draw owner => exact .inr ⟨owner,rfl,rfl⟩
  | _ => exact .inl rfl

theorem owners_grow {owner : String} (s : State) (effect : Effect) (there : owner ∈ s.owners) : owner ∈ (s.apply deps effect).owners := by
  rcases apply_owners deps s effect with same | ⟨_,_,same⟩ <;> rw [same]
  · exact there
  · exact List.mem_cons_of_mem _ there

theorem proceed_holder (claimed : CatalogSynchronization) (product : CanonicalProduct) :
    (Call.worker (proceed deps claimed product)).holder = claimed.attemptOwnerId := by
  unfold proceed
  split
  · split <;> rfl
  · rfl

theorem proceed_claiming (claimed : CatalogSynchronization) (product : CanonicalProduct) :
    (Call.worker (proceed deps claimed product)).claiming = none := by
  unfold proceed
  split
  · split <;> rfl
  · rfl

theorem proceed_claimed (claimed : CatalogSynchronization) (product : CanonicalProduct) :
    (Call.worker (proceed deps claimed product)).claimed = some claimed := by
  unfold proceed
  split
  · split <;> rfl
  · rfl

theorem turn_claimed (turned : Turn deps s call reply effect call') (holds : call'.claimed = some claimed) :
    call.claimed = some claimed ∨ ∃ claim product, call = .worker (.verifying claim product) ∧
      readClaim s.row claim = some claimed ∧ call' = .worker (proceed deps claimed product) ∧ effect = .nothing := by
  cases turned with
  | ensures => rcases ensure_cases deps _ s.row with its | its <;> rw [its] at holds <;> cases holds
  | requests => rcases request_cases deps _ _ s.row with its | ⟨_,its⟩ <;> rw [its] at holds <;> cases holds
  | draws => split at holds <;> cases holds
  | verifies read =>
      rw [proceed_claimed] at holds
      cases holds
      exact .inr ⟨_,_,rfl,read,rfl,rfl⟩
  | reports | unreported =>
      split at holds
      · cases holds
      · exact .inl holds
  | binds | recovers | answers | loses | throws | stale | uncommitted | remembers | forgets => exact .inl holds
  | _ => cases holds

theorem claimed_holder {call : Call} (its : call.claimed = some claimed) : call.holder = claimed.attemptOwnerId := by
  unfold Call.claimed at its
  split at its
  all_goals first | (cases its; rfl) | cases its

theorem claimed_unclaiming {call : Call} (its : call.claimed = some claimed) : call.claiming = none := by
  unfold Call.claimed at its
  split at its
  all_goals first | rfl | cases its

-- A holder is a claimant that has made its statement, under the same id.
theorem turn_holder {owner : String} (turned : Turn deps s call reply effect call') (holds : call'.holder = some owner) :
    call.holder = some owner ∨ call.claiming = some owner ∧ ∃ row, effect = .take row ∧ row.attemptOwnerId = some owner := by
  cases turned with
  | ensures => rcases ensure_cases deps _ s.row with its | its <;> rw [its] at holds <;> cases holds
  | requests => rcases request_cases deps _ _ s.row with its | ⟨_,its⟩ <;> rw [its] at holds <;> cases holds
  | draws => split at holds <;> cases holds
  | takes taken =>
      obtain ⟨old,_,_,_,_,rfl⟩ := takeClaim_some taken
      exact .inr ⟨holds,_,rfl,holds⟩
  | verifies read =>
      rw [proceed_holder] at holds
      exact .inl ((readClaim_some read).2.1.symm.trans holds)
  | reports | unreported =>
      split at holds
      · cases holds
      · exact .inl holds
  | binds | recovers | answers | loses | throws | stale | uncommitted | remembers | forgets => exact .inl holds
  | _ => cases holds

theorem turn_claiming {owner : String} (turned : Turn deps s call reply effect call') (claims : call'.claiming = some owner) :
    call.claiming = some owner ∨ effect = .draw owner ∧ owner ∉ s.owners := by
  cases turned with
  | ensures => rcases ensure_cases deps _ s.row with its | its <;> rw [its] at claims <;> cases claims
  | requests => rcases request_cases deps _ _ s.row with its | ⟨_,its⟩ <;> rw [its] at claims <;> cases claims
  | draws _ fresh made =>
      subst made
      split at claims <;> cases claims <;> exact .inr ⟨rfl,fresh⟩
  | expires => exact .inl claims
  | verifies =>
      rw [proceed_claiming] at claims
      cases claims
  | reports | unreported => split at claims <;> cases claims
  | _ => cases claims

theorem owner_cases {owner : String} {call : Call} : call.owner = some owner ↔ call.holder = some owner ∨ call.claiming = some owner := by
  have apart : call.holder = none ∨ call.claiming = none := by
    cases call with
    | worker phase => cases phase <;> first | exact .inr rfl | exact .inl rfl
    | _ => exact .inl rfl
  rcases apart with none_yet | none_yet <;> simp [Call.owner,none_yet]

theorem turn_owner {owner : String} (turned : Turn deps s call reply effect call') (its : call'.owner = some owner) :
    call.owner = some owner ∨ effect = .draw owner ∧ owner ∉ s.owners := by
  rcases owner_cases.mp its with holds | claims
  · rcases turn_holder turned holds with before | ⟨before,_⟩
    · exact .inl (owner_cases.mpr (.inl before))
    · exact .inl (owner_cases.mpr (.inr before))
  · rcases turn_claiming turned claims with before | drawn
    · exact .inl (owner_cases.mpr (.inr before))
    · exact .inr drawn

theorem holder_turn {owner : String} (turned : Turn deps s call reply effect call') (holds : call.holder = some owner) :
    call' = .finished ∨ call'.holder = some owner := by
  cases turned with
  | stops | skips | commits | fails => exact .inl rfl
  | verifies read =>
      rw [proceed_holder,(readClaim_some read).2.1]
      exact .inr holds
  | reports | unreported =>
      split
      · exact .inl rfl
      · exact .inr holds
  | binds | recovers | answers | loses | throws | stale | uncommitted | remembers | forgets => exact .inr holds
  | _ => cases holds

theorem fenced_unowned {claimed : CatalogSynchronization} {owner : String} (its : claimed.attemptOwnerId = some owner)
    (unowned : ¬ Owned s owner) : fenced s claimed patch = none := by
  cases updated : fenced s claimed patch with
  | none => rfl
  | some row =>
      obtain ⟨old,there,_,_,_,owned,_⟩ := updateIfCurrent_some updated
      rw [its] at owned
      exact absurd ⟨old,there,owned⟩ unowned

-- A worker whose owner id the row does not bear changes neither the row nor the binding.
theorem unowned_turn {owner : String} (turned : Turn deps s call reply effect call') (holds : call.holder = some owner)
    (unowned : ¬ Owned s owner) : (s.apply deps effect).row = s.row ∧ (s.apply deps effect).binding = s.binding := by
  cases turned with
  | skips | remembers | fails =>
      rw [transition,fenced_unowned holds unowned]
      exact ⟨rfl,rfl⟩
  | commits current =>
      rw [fenced_unowned holds unowned] at current
      cases current
  | writes | expires | takes | settles | retries => cases holds
  | _ => exact ⟨rfl,rfl⟩

theorem unowned_change {owner : String} (changed : RowChange deps s row' call call') (unowned : ¬ Owned s owner)
    (other : call.claiming ≠ some owner) : ∀ row, row' = some row → ownedBy (some owner) row = false := by
  intro row there
  rw [← Bool.not_eq_true]
  intro owned
  cases changed with
  | same => exact unowned ⟨row,there,owned⟩
  | written made =>
      obtain ⟨id',rfl,_⟩ := writeGeneration_some made
      cases there
      cases (ownedBy_some.mp owned).2
  | taken taken =>
      obtain ⟨old,_,_,_,_,rfl⟩ := takeClaim_some taken
      cases there
      exact other (ownedBy_some.mp owned).2
  | descends before descends =>
      cases there
      exact unowned ⟨_,before,descends.unowned owned⟩

end Fencing

section Owners

variable {s : State}

-- An owner id on the row is an old one or that of the worker that has just claimed.
theorem change_owner {s : State} {row : CatalogSynchronization} {owner : String} (changed : RowChange deps s row' call call')
    (there : row' = some row) (its : row.attemptOwnerId = some owner) :
    (∃ old, s.row = some old ∧ old.attemptOwnerId = some owner) ∨ call.claiming = some owner ∧ call'.claiming = none := by
  cases changed with
  | same => exact .inl ⟨row,there,its⟩
  | written made =>
      obtain ⟨id',rfl,_⟩ := writeGeneration_some made
      cases there
      cases its
  | taken taken =>
      obtain ⟨old,_,_,_,_,rfl⟩ := takeClaim_some taken
      cases there
      exact .inr ⟨its,rfl⟩
  | descends before descends =>
      cases there
      rcases descends.owner with same | released
      · exact .inl ⟨_,before,same.symm.trans its⟩
      · rw [released] at its
        cases its

-- Owner ids: one for each worker, and on the row only where its worker has claimed.
structure Owners (s : State) : Prop where
  known : ∀ caller owner, (s.calls caller).owner = some owner → owner ∈ s.owners
  single : ∀ caller other owner, (s.calls caller).owner = some owner → (s.calls other).owner = some owner → caller = other
  drawn : ∀ row owner, s.row = some row → row.attemptOwnerId = some owner → owner ∈ s.owners
  pending : ∀ caller owner row, (s.calls caller).claiming = some owner → s.row = some row → row.attemptOwnerId ≠ some owner

theorem initial_owners (initial : Initial s) : Owners s := by
  refine ⟨?_,?_,?_,?_⟩
  · intro caller owner its
    rw [initial.calls caller] at its
    cases its
  · intro caller other owner its
    rw [initial.calls caller] at its
    cases its
  · intro row owner there
    rw [initial.row] at there
    cases there
  · intro caller owner row its
    rw [initial.calls caller] at its
    cases its

theorem owners_turn (holds : Owners s) (turned : Turn deps s (s.calls caller) reply effect call') :
    Owners ((s.apply deps effect).put caller call') := by
  have changed := turn_row turned
  refine ⟨?_,?_,?_,?_⟩
  · intro other owner its
    rw [put_calls] at its
    split at its
    · rcases turn_owner turned its with before | ⟨rfl,_⟩
      · exact owners_grow s effect (holds.known caller owner before)
      · exact List.mem_cons_self ..
    · rw [apply_calls] at its
      exact owners_grow s effect (holds.known other owner its)
  · -- A new id is in nobody's hands; every other owner is the one it was.
    have apart : ∀ other owner, other ≠ caller → call'.owner = some owner → (s.calls other).owner = some owner → False := by
      intro other owner differs mine theirs
      rcases turn_owner turned mine with before | ⟨_,fresh⟩
      · exact differs (holds.single _ _ _ theirs before)
      · exact fresh (holds.known other owner theirs)
    intro one other owner its its'
    rw [put_calls,apply_calls] at its its'
    split at its <;> split at its'
    · rename_i here there
      rw [here,there]
    · rename_i _ differs
      exact (apart other owner differs its its').elim
    · rename_i differs _
      exact (apart one owner differs its' its).elim
    · exact holds.single one other owner its its'
  · intro row owner there its
    rcases change_owner changed there its with ⟨old,before,its⟩ | ⟨claims,_⟩
    · exact owners_grow s effect (holds.drawn old owner before its)
    · exact owners_grow s effect (holds.known caller owner (owner_cases.mpr (.inr claims)))
  · intro other owner row claims there its
    rw [put_calls,apply_calls] at claims
    rcases change_owner changed there its with ⟨old,before,old_its⟩ | ⟨mine,left⟩
    · split at claims
      · rcases turn_claiming turned claims with claimed | ⟨_,fresh⟩
        · exact holds.pending caller owner old claimed before old_its
        · exact fresh (holds.drawn old owner before old_its)
      · exact holds.pending other owner old claims before old_its
    · split at claims
      · rw [left] at claims
        cases claims
      · rename_i differs
        exact differs (holds.single other caller owner (owner_cases.mpr (.inr claims)) (owner_cases.mpr (.inr mine)))

theorem starting_bare {call : Call} (starts : call.starts = true) : call.owner = none :=
  starting (fun call => call.owner = none) starts (fun _ => rfl) (fun _ _ => rfl) (fun _ => rfl) rfl

theorem starting_unclaimed {call : Call} (starts : call.starts = true) : call.claimed = none :=
  starting (fun call => call.claimed = none) starts (fun _ => rfl) (fun _ _ => rfl) (fun _ => rfl) rfl

theorem owners_put (holds : Owners s) (bare : call.owner = none) : Owners (s.put caller call) := by
  have other : ∀ one owner, ((s.put caller call).calls one).owner = some owner → (s.calls one).owner = some owner := by
    intro one owner its
    rw [put_calls] at its
    split at its
    · rw [bare] at its
      cases its
    · exact its
  refine ⟨fun one owner its => holds.known one owner (other one owner its),
    fun one two owner its its' => holds.single one two owner (other one owner its) (other two owner its'),holds.drawn,?_⟩
  intro one owner row claims there
  rw [put_calls] at claims
  split at claims
  · rw [Call.owner,Option.or_eq_none_iff] at bare
    rw [bare.2] at claims
    cases claims
  · exact holds.pending one owner row claims there

theorem owners_step (holds : Owners s) (moved : advance deps s action = some t) : Owners t := by
  cases action with
  | elapse | edit | outside => cases moved; exact ⟨holds.known,holds.single,holds.drawn,holds.pending⟩
  | start caller call =>
      obtain ⟨_,starts,rfl⟩ := start_exact moved
      exact owners_put holds (starting_bare starts)
  | reply caller reply =>
      obtain ⟨effect,call,turned,rfl⟩ := reply_exact moved
      exact owners_turn holds turned

theorem reached_owners (path : Reached (catalog deps) allowed s) : Owners s :=
  path.invariant Owners (fun _ => initial_owners) fun _ _ _ _ holds _ moved => owners_step holds moved

end Owners

end Payable.Catalog
