import Payable.Prices.LookupKeyTransfers

namespace Payable.LookupKeys
open Runs Tables Transactions

def Calls.target (calls : Calls) (caller : Nat) : String := (calls.input caller).id

def Calls.key (calls : Calls) (caller : Nat) : String := (calls.input caller).lookupKey

def Action.caller : Action → Nat
  | .request caller | .findById caller | .findByLookupKey caller | .clear caller | .assign caller | .commit caller | .abort caller => caller

section Steps

variable {calls : Calls} {s s' : Transfers} {action : Action} {caller : Nat} {db db' : Database} {change : Write}

theorem updateIn_stored (stored : updateIn db caller change = .stored db') : ∃ locked, lock db caller change.id = some locked ∧
    contested db caller change = false ∧ taken (view apply db caller) change = false ∧ db' = write locked caller change := by
  unfold updateIn at stored
  split at stored
  · cases stored
  · rename_i locked held
    split at stored
    · cases stored
    · rename_i quiet_
      split at stored
      · cases stored
      · rename_i free
        cases stored
        exact ⟨locked,held,Bool.not_eq_true _ ▸ quiet_,Bool.not_eq_true _ ▸ free,rfl⟩

-- What a step can do.
inductive Step (calls : Calls) (s : Transfers) : Action → Transfers → Prop where
  | refused {caller : Nat} {error : TransferError} (phase : s.phases caller = .requested) :
      Step calls s (.request caller) (s.at_ caller (.thrown error))
  | accepted {caller : Nat} (phase : s.phases caller = .requested) (valid : validateLookupKey (calls.key caller) = .ok (calls.key caller)) :
      Step calls s (.request caller) (s.at_ caller .finding)
  | found {caller : Nat} {target : CanonicalPrice} (phase : s.phases caller = .finding)
      (its : findById (view apply s.db caller) (calls.target caller) calls.tenantId = some target) :
      Step calls s (.findById caller) (s.at_ caller (.reading target))
  | free {caller : Nat} {target : CanonicalPrice} (phase : s.phases caller = .reading target) :
      Step calls s (.findByLookupKey caller) (s.at_ caller (.assigning target))
  | owned {caller : Nat} {target current : CanonicalPrice} (phase : s.phases caller = .reading target)
      (its : findByLookupKey (view apply s.db caller) (calls.key caller) calls.tenantId = some current) (same : current.id = target.id) :
      Step calls s (.findByLookupKey caller) (s.at_ caller (.returning current))
  | held {caller : Nat} {target current : CanonicalPrice} (phase : s.phases caller = .reading target)
      (its : findByLookupKey (view apply s.db caller) (calls.key caller) calls.tenantId = some current) (apart : current.id ≠ target.id) :
      Step calls s (.findByLookupKey caller) (s.at_ caller (.clearing target current))
  | cleared {caller : Nat} {target current : CanonicalPrice} {db : Database} (phase : s.phases caller = .clearing target current)
      (stored : updateIn s.db caller ⟨current.id,calls.tenantId,none⟩ = .stored db) :
      Step calls s (.clear caller) ⟨db,Function.update s.phases caller (.assigning target)⟩
  | assigned {caller : Nat} {target updated : CanonicalPrice} {db : Database} (phase : s.phases caller = .assigning target)
      (stored : updateIn s.db caller ⟨target.id,calls.tenantId,some (calls.key caller)⟩ = .stored db) :
      Step calls s (.assign caller) ⟨db,Function.update s.phases caller (.committing updated)⟩
  | committed {caller : Nat} {price : CanonicalPrice} (phase : s.phases caller = .returning price ∨ s.phases caller = .committing price) :
      Step calls s (.commit caller) ⟨commit apply s.db caller,Function.update s.phases caller (.returned price)⟩
  | failed {action : Action} {error : TransferError} (phase : (s.phases action.caller).open_ = true) :
      Step calls s action (s.fail action.caller error)

theorem failed_at {error : TransferError} (same : action.caller = caller) (phase : (s.phases caller).open_ = true) :
    Step calls s action (s.fail caller error) := by
  rw [← same] at phase ⊢
  exact .failed phase

theorem validateLookupKey_same (valid : validateLookupKey value = .ok key) : key = value := by
  unfold validateLookupKey at valid
  split at valid
  · cases valid
  · split at valid
    · cases valid
    · exact (Except.ok.inj valid).symm

theorem advance_step (moved : advance calls s action = some s') : Step calls s action s' := by
  cases action with
  | request caller =>
      dsimp only [advance] at moved
      cases phase : s.phases caller <;> rw [phase] at moved <;> try cases moved
      cases valid : validateLookupKey (calls.input caller).lookupKey with
      | error error => exact .refused phase
      | ok key =>
          have same := validateLookupKey_same valid
          exact .accepted phase (valid.trans (congrArg Except.ok same))
  | findById caller =>
      dsimp only [advance] at moved
      cases phase : s.phases caller <;> rw [phase] at moved <;> try cases moved
      cases its : findById (view apply s.db caller) (calls.input caller).id calls.tenantId with
      | none => exact failed_at rfl (by rw [phase]; rfl)
      | some target => exact .found phase its
  | findByLookupKey caller =>
      dsimp only [advance] at moved
      cases phase : s.phases caller <;> rw [phase] at moved <;> try cases moved
      rename_i target
      cases its : findByLookupKey (view apply s.db caller) (calls.input caller).lookupKey calls.tenantId with
      | none => exact .free phase
      | some current =>
          dsimp only
          split
          · rename_i same
            exact .owned phase its same
          · rename_i apart
            exact .held phase its apart
  | clear caller =>
      dsimp only [advance] at moved
      cases phase : s.phases caller <;> rw [phase] at moved <;> try cases moved
      rename_i target current
      dsimp only at moved
      cases stored : updateIn s.db caller ⟨current.id,calls.tenantId,none⟩ with
      | waits =>
          rw [stored] at moved
          cases moved
      | violated =>
          rw [stored] at moved
          cases moved
          exact failed_at rfl (by rw [phase]; rfl)
      | stored db =>
          rw [stored] at moved
          cases moved
          split
          · exact failed_at rfl (by rw [phase]; rfl)
          · exact .cleared phase stored
  | assign caller =>
      dsimp only [advance] at moved
      cases phase : s.phases caller <;> rw [phase] at moved <;> try cases moved
      rename_i target
      dsimp only at moved
      cases stored : updateIn s.db caller ⟨target.id,calls.tenantId,some (calls.input caller).lookupKey⟩ with
      | waits =>
          rw [stored] at moved
          cases moved
      | violated =>
          rw [stored] at moved
          cases moved
          exact failed_at rfl (by rw [phase]; rfl)
      | stored db =>
          rw [stored] at moved
          cases moved
          split
          · exact failed_at rfl (by rw [phase]; rfl)
          · exact .assigned phase stored
  | commit caller =>
      dsimp only [advance] at moved
      cases phase : s.phases caller <;> rw [phase] at moved <;> try cases moved
      · exact .committed (.inl phase)
      · exact .committed (.inr phase)
  | abort caller =>
      dsimp only [advance] at moved
      split at moved
      · rename_i phase
        cases moved
        exact failed_at rfl phase
      · cases moved

-- A step is its caller's alone.
theorem step_others (step : Step calls s action s') (apart : other ≠ action.caller) : s'.phases other = s.phases other := by
  cases step with
  | _ => exact Function.update_of_ne apart ..

end Steps

section Stages

-- The rows that a transaction sees when it has cleared one, or none.
def cleared (rows : List CanonicalPrice) : Option String → List CanonicalPrice
  | none => rows
  | some id_ => assign rows id_ none

def clears (tenantId : Option String) : Option String → List Write
  | none => []
  | some id_ => [⟨id_,tenantId,none⟩]

-- The row that a transaction has cleared: no other transaction writes it, and no other key stood there.
structure Freed (calls : Calls) (db : Database) (caller : Nat) (id_ : String) : Prop where
  apart : id_ ≠ calls.target caller
  locked : Holds db caller id_
  held : ∀ row ∈ db.committed, row.id = id_ → row.lookupKey = none ∨ row.lookupKey = some (calls.key caller)

structure Aimed (calls : Calls) (db : Database) (caller : Nat) (target : CanonicalPrice) : Prop where
  valid : validateLookupKey (calls.key caller) = .ok (calls.key caller)
  id : target.id = calls.target caller
  listed : calls.target caller ∈ db.committed.map CanonicalPrice.id

-- What a transaction has written at each of its statements.
inductive Stage (calls : Calls) (db : Database) (caller : Nat) : Phase → Prop where
  | requested (silent : db.writes caller = []) : Stage calls db caller .requested
  | finding (silent : db.writes caller = []) (valid : validateLookupKey (calls.key caller) = .ok (calls.key caller)) :
      Stage calls db caller .finding
  | reading {target : CanonicalPrice} (silent : db.writes caller = []) (aimed : Aimed calls db caller target) :
      Stage calls db caller (.reading target)
  | clearing {target current : CanonicalPrice} (silent : db.writes caller = []) (aimed : Aimed calls db caller target)
      (apart : current.id ≠ target.id) : Stage calls db caller (.clearing target current)
  | assigning {target : CanonicalPrice} (aimed : Aimed calls db caller target) (gone : Option String)
      (freed : ∀ id_, gone = some id_ → Freed calls db caller id_) (writes : db.writes caller = clears calls.tenantId gone) :
      Stage calls db caller (.assigning target)
  | returning {current : CanonicalPrice} (silent : db.writes caller = []) : Stage calls db caller (.returning current)
  | committing {target updated : CanonicalPrice} (aimed : Aimed calls db caller target) (gone : Option String)
      (freed : ∀ id_, gone = some id_ → Freed calls db caller id_)
      (writes : db.writes caller = clears calls.tenantId gone ++ [⟨calls.target caller,calls.tenantId,some (calls.key caller)⟩])
      (locked : Holds db caller (calls.target caller))
      (others : ∀ row ∈ db.committed, row.id ≠ calls.target caller → gone ≠ some row.id → row.lookupKey ≠ some (calls.key caller)) :
      Stage calls db caller (.committing updated)
  | returned {price : CanonicalPrice} (silent : db.writes caller = []) : Stage calls db caller (.returned price)
  | thrown {error : TransferError} (silent : db.writes caller = []) : Stage calls db caller (.thrown error)

variable {calls : Calls} {caller : Nat} {db db' : Database} {phase : Phase}

theorem Aimed.kept (aimed : Aimed calls db caller target) (ids : db'.committed.map CanonicalPrice.id = db.committed.map CanonicalPrice.id) :
    Aimed calls db' caller target := ⟨aimed.valid,aimed.id,ids ▸ aimed.listed⟩

-- What the others write leaves a transaction's own rows, and gives no other row its key while it commits.
structure Framed (calls : Calls) (caller : Nat) (phase : Phase) (db db' : Database) : Prop where
  writes : db'.writes caller = db.writes caller
  holds : ∀ id_, Holds db caller id_ → Holds db' caller id_
  ids : db'.committed.map CanonicalPrice.id = db.committed.map CanonicalPrice.id
  rows : ∀ row' ∈ db'.committed, ∃ row ∈ db.committed, row.id = row'.id ∧ (Holds db caller row.id → row'.lookupKey = row.lookupKey) ∧
    ((∃ updated, phase = .committing updated) → row'.lookupKey = some (calls.key caller) → row.lookupKey = some (calls.key caller))

theorem Freed.framed (freed : Freed calls db caller id_) (framed : Framed calls caller phase db db') : Freed calls db' caller id_ := by
  refine ⟨freed.apart,framed.holds id_ freed.locked,?_⟩
  intro row' member same
  obtain ⟨row,there,equal,own,_⟩ := framed.rows row' member
  rw [own (by rw [equal,same]; exact freed.locked)]
  exact freed.held row there (equal.trans same)

theorem Stage.framed (stage : Stage calls db caller phase) (framed : Framed calls caller phase db db') : Stage calls db' caller phase := by
  cases stage with
  | requested silent => exact .requested (framed.writes.trans silent)
  | finding silent valid => exact .finding (framed.writes.trans silent) valid
  | reading silent aimed => exact .reading (framed.writes.trans silent) (aimed.kept framed.ids)
  | clearing silent aimed apart => exact .clearing (framed.writes.trans silent) (aimed.kept framed.ids) apart
  | assigning aimed gone freed writes =>
      exact .assigning (aimed.kept framed.ids) gone (fun id_ its => (freed id_ its).framed framed) (framed.writes.trans writes)
  | returning silent => exact .returning (framed.writes.trans silent)
  | committing aimed gone freed writes locked others =>
      refine .committing (aimed.kept framed.ids) gone (fun id_ its => (freed id_ its).framed framed) (framed.writes.trans writes)
        (framed.holds _ locked) ?_
      intro row' member apart elsewhere its
      obtain ⟨row,there,equal,_,key⟩ := framed.rows row' member
      exact others row there (equal ▸ apart) (equal ▸ elsewhere) (key ⟨_,rfl⟩ its)
  | returned silent => exact .returned (framed.writes.trans silent)
  | thrown silent => exact .thrown (framed.writes.trans silent)

theorem framed_same (writes : db'.writes caller = db.writes caller) (holds : ∀ id_, Holds db caller id_ → Holds db' caller id_)
    (same : db'.committed = db.committed) : Framed calls caller phase db db' := by
  refine ⟨writes,holds,by rw [same],?_⟩
  intro row member
  exact ⟨row,same ▸ member,rfl,fun _ => rfl,fun _ its => its⟩

theorem view_cleared (tenant : ∀ row ∈ db.committed, row.tenantId = tenantId) (writes : db.writes caller = clears tenantId gone) :
    view apply db caller = cleared db.committed gone := by
  unfold view
  rw [writes]
  cases gone with
  | none => rfl
  | some id_ => exact apply_assign tenant id_ none

theorem cleared_tenant {rows : List CanonicalPrice} (tenant : ∀ row ∈ rows, row.tenantId = tenantId) (gone : Option String) :
    ∀ row ∈ cleared rows gone, row.tenantId = tenantId := by
  cases gone with
  | none => exact tenant
  | some id_ => exact assign_tenant tenant

theorem view_assigned (tenant : ∀ row ∈ db.committed, row.tenantId = tenantId)
    (writes : db.writes caller = clears tenantId gone ++ [⟨target,tenantId,some key⟩]) :
    view apply db caller = assign (cleared db.committed gone) target (some key) := by
  have first : (clears tenantId gone).foldl apply db.committed = cleared db.committed gone := by
    cases gone with
    | none => rfl
    | some id_ => exact apply_assign tenant id_ none
  unfold view
  rw [writes,List.foldl_append,first]
  exact apply_assign (cleared_tenant tenant gone) target (some key)

-- The rows at a commit are those of a transfer by itself.
theorem view_transferred (catalog : Catalog calls.tenantId db.committed) (freed : ∀ id_, gone = some id_ → Freed calls db caller id_)
    (writes : db.writes caller = clears calls.tenantId gone ++ [⟨calls.target caller,calls.tenantId,some (calls.key caller)⟩])
    (others : ∀ row ∈ db.committed, row.id ≠ calls.target caller → gone ≠ some row.id → row.lookupKey ≠ some (calls.key caller)) :
    view apply db caller = transferred db.committed (calls.target caller) (calls.key caller) := by
  rw [view_assigned catalog.tenant writes]
  cases gone with
  | none => exact assign_transferred fun row member apart => others row member apart (Option.some_ne_none _).symm
  | some id_ =>
      have own := freed id_ rfl
      refine cleared_transferred own.apart ?_ own.held
      intro row member apart elsewhere
      exact others row member apart fun same => elsewhere (Option.some.inj same).symm

end Stages

end Payable.LookupKeys
