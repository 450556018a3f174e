import Payable.Foundation.Serializations
import Payable.Prices.TransferSteps

namespace Payable.LookupKeys
open Runs Tables Transactions Serializations

def Phase.isReturned : Phase → Bool
  | .returned _ => true
  | _ => false

-- Phases in which the result of a call is known, and those in which it stands.
def Phase.settled : Phase → Bool
  | .returning _ | .returned _ | .thrown _ => true
  | _ => false

def Phase.answered : Phase → Bool
  | .returning _ | .returned _ => true
  | _ => false

-- A call that nothing interrupts.
def alone (calls : Calls) (caller : Nat) (rows : List CanonicalPrice) : Except TransferError (List CanonicalPrice) :=
  (transferLookupKey calls.tenantId (calls.target caller) (calls.key caller) rows).map Prod.snd

section Marks

variable {phases : Nat → Phase} {entries : List (Nat × Bool)} {caller : Nat}

-- The calls of a log: those with an effect are committed, and those that are committed are there.
structure Marked (phases : Nat → Phase) (entries : List (Nat × Bool)) : Prop where
  once : (entries.map Prod.fst).Nodup
  changed : ∀ entry ∈ entries, entry.2 = true → (phases entry.1).isReturned = true
  settled : ∀ entry ∈ entries, (phases entry.1).settled = true
  listed : ∀ caller, (phases caller).answered = true → caller ∈ entries.map Prod.fst

theorem marked_update (marked : Marked phases entries) (unreturned : (phases caller).isReturned = false)
    (settles : (phases caller).settled = true → new.settled = true) (listed : new.answered = true → caller ∈ entries.map Prod.fst) :
    Marked (Function.update phases caller new) entries := by
  refine ⟨marked.once,?_,?_,?_⟩
  · intro entry member its
    by_cases mine : entry.1 = caller
    · have returned := marked.changed entry member its
      rw [mine,unreturned] at returned
      cases returned
    · rw [Function.update_of_ne mine]
      exact marked.changed entry member its
  · intro entry member
    by_cases mine : entry.1 = caller
    · rw [mine,Function.update_self]
      exact settles (mine ▸ marked.settled entry member)
    · rw [Function.update_of_ne mine]
      exact marked.settled entry member
  · intro other answered
    by_cases mine : other = caller
    · rw [mine,Function.update_self] at answered
      exact mine ▸ listed answered
    · rw [Function.update_of_ne mine] at answered
      exact marked.listed other answered

theorem marked_append (marked : Marked phases entries) (unsettled : (phases caller).settled = false) (settles : new.settled = true)
    (flag : Bool) (changed : flag = true → new.isReturned = true) :
    Marked (Function.update phases caller new) (entries ++ [(caller,flag)]) := by
  have absent : ∀ entry ∈ entries, entry.1 ≠ caller := by
    intro entry member same
    have settled := marked.settled entry member
    rw [same,unsettled] at settled
    cases settled
  refine ⟨?_,?_,?_,?_⟩
  · rw [List.map_append]
    refine List.nodup_append.mpr ⟨marked.once,List.nodup_singleton _,?_⟩
    intro one member other last same
    obtain ⟨entry,inside,rfl⟩ := List.mem_map.mp member
    rw [List.map_singleton,List.mem_singleton] at last
    exact absent entry inside (same.trans last)
  · intro entry member its
    rcases List.mem_append.mp member with old | last
    · rw [Function.update_of_ne (absent entry old)]
      exact marked.changed entry old its
    · rw [List.mem_singleton.mp last] at its ⊢
      rw [Function.update_self]
      exact changed its
  · intro entry member
    rcases List.mem_append.mp member with old | last
    · rw [Function.update_of_ne (absent entry old)]
      exact marked.settled entry old
    · rw [List.mem_singleton.mp last,Function.update_self]
      exact settles
  · intro other answered
    rw [List.map_append,List.mem_append]
    by_cases mine : other = caller
    · exact .inr (List.mem_singleton.mpr mine)
    · rw [Function.update_of_ne mine] at answered
      exact .inl (marked.listed other answered)

end Marks

section Invariant

variable {calls : Calls} {start : List CanonicalPrice} {s s' : Transfers} {caller : Nat}

-- What holds at every point: the committed rows are what the calls in some order leave.
structure Valid (calls : Calls) (start : List CanonicalPrice) (s : Transfers) : Prop where
  catalog : Catalog calls.tenantId s.db.committed
  stages : ∀ caller, Stage calls s.db caller (s.phases caller)
  exclusive : ∀ one other price price', s.phases one = .committing price → s.phases other = .committing price' →
    calls.key one = calls.key other → one = other
  logged : ∃ entries, Log (alone calls) start entries s.db.committed ∧ Marked s.phases entries

theorem valid_start (catalog : Catalog calls.tenantId start) : Valid calls start ⟨quiet start,fun _ => .requested⟩ := by
  refine ⟨catalog,fun _ => .requested rfl,?_,⟨[],.start,List.nodup_nil,?_,?_,?_⟩⟩
  · intro one other price price' phase
    cases phase
  · exact fun _ member => absurd member List.not_mem_nil
  · exact fun _ member => absurd member List.not_mem_nil
  · intro other answered
    cases answered

theorem exclusive_update {phases : Nat → Phase} {phase : Phase} (uncommitting : ∀ price, phase ≠ .committing price)
    (exclusive : ∀ one other price price', phases one = .committing price → phases other = .committing price' →
      calls.key one = calls.key other → one = other) :
    ∀ one other price price', Function.update phases caller phase one = .committing price →
      Function.update phases caller phase other = .committing price' → calls.key one = calls.key other → one = other := by
  have before : ∀ other price, Function.update phases caller phase other = .committing price → phases other = .committing price := by
    intro other price its
    by_cases mine : other = caller
    · rw [mine,Function.update_self] at its
      exact absurd its (uncommitting price)
    · rwa [Function.update_of_ne mine] at its
  intro one other price price' first second
  exact exclusive one other price price' (before one price first) (before other price' second)

-- The caller goes on, and the database stays.
theorem valid_at (valid : Valid calls start s) {phase : Phase} (stage : Stage calls s.db caller phase) (uncommitting : ∀ price, phase ≠ .committing price)
    (logged : ∃ entries, Log (alone calls) start entries s.db.committed ∧ Marked (Function.update s.phases caller phase) entries) :
    Valid calls start (s.at_ caller phase) := by
  refine ⟨valid.catalog,?_,exclusive_update uncommitting valid.exclusive,logged⟩
  intro other
  by_cases mine : other = caller
  · subst mine
    show Stage calls s.db other (Function.update s.phases other phase other)
    rw [Function.update_self]
    exact stage
  · show Stage calls s.db other (Function.update s.phases caller phase other)
    rw [Function.update_of_ne mine]
    exact valid.stages other

-- One whose result is not known goes on to a phase in which it is not either.
theorem logged_on (valid : Valid calls start s) {phase : Phase} (unsettled : (s.phases caller).settled = false) (unanswered : phase.answered = false) :
    ∃ entries, Log (alone calls) start entries s.db.committed ∧ Marked (Function.update s.phases caller phase) entries := by
  obtain ⟨entries,log,marked⟩ := valid.logged
  have unreturned : (s.phases caller).isReturned = false := by
    cases phase_ : s.phases caller <;> rw [phase_] at unsettled <;> first | rfl | cases unsettled
  refine ⟨entries,log,marked_update marked unreturned ?_ ?_⟩
  · intro settled
    rw [unsettled] at settled
    cases settled
  · intro answered
    rw [unanswered] at answered
    cases answered

theorem valid_failed (valid : Valid calls start s) (phase : (s.phases caller).open_ = true) (error : TransferError) :
    Valid calls start (s.fail caller error) := by
  have unreturned : (s.phases caller).isReturned = false := by
    cases phase_ : s.phases caller <;> rw [phase_] at phase <;> first | rfl | cases phase
  obtain ⟨entries,log,marked⟩ := valid.logged
  refine ⟨valid.catalog,?_,exclusive_update (fun _ => Phase.noConfusion) valid.exclusive,⟨entries,log,?_⟩⟩
  · intro other
    show Stage calls (rollback s.db caller) other (Function.update s.phases caller (.thrown error) other)
    by_cases mine : other = caller
    · subst mine
      rw [Function.update_self]
      exact .thrown (Function.update_self ..)
    · rw [Function.update_of_ne mine]
      refine (valid.stages other).framed (framed_same (Function.update_of_ne mine ..) ?_ rfl)
      intro id_ held
      exact unlocked_other held mine
  · refine marked_update marked unreturned (fun _ => rfl) ?_
    intro answered
    cases answered

theorem alone_transferred (catalog : Catalog calls.tenantId rows) (valid : validateLookupKey (calls.key caller) = .ok (calls.key caller))
    (listed : calls.target caller ∈ rows.map CanonicalPrice.id) :
    alone calls caller rows = .ok (transferred rows (calls.target caller) (calls.key caller)) := by
  obtain ⟨price,ran⟩ := transferLookupKey_transferred catalog valid listed
  unfold alone
  rw [ran]
  rfl

theorem valid_requested (valid : Valid calls start s) (phase : s.phases caller = .requested) :
    (∀ error, Valid calls start (s.at_ caller (.thrown error))) ∧
      (validateLookupKey (calls.key caller) = .ok (calls.key caller) → Valid calls start (s.at_ caller .finding)) := by
  have stage := valid.stages caller
  have unsettled : (s.phases caller).settled = false := by
    rw [phase]
    rfl
  rw [phase] at stage
  cases stage with
  | requested silent =>
      refine ⟨fun error => ?_,fun key => ?_⟩
      · exact valid_at valid (.thrown silent) (fun _ => Phase.noConfusion) (logged_on valid unsettled rfl)
      · exact valid_at valid (.finding silent key) (fun _ => Phase.noConfusion) (logged_on valid unsettled rfl)

theorem valid_found (valid : Valid calls start s) {target : CanonicalPrice} (phase : s.phases caller = .finding)
    (its : findById (view apply s.db caller) (calls.target caller) calls.tenantId = some target) : Valid calls start (s.at_ caller (.reading target)) := by
  have stage := valid.stages caller
  have unsettled : (s.phases caller).settled = false := by
    rw [phase]
    rfl
  rw [phase] at stage
  cases stage with
  | finding silent key =>
      rw [view_silent silent] at its
      obtain ⟨member,same⟩ := findById_found valid.catalog.tenant its
      have aimed : Aimed calls s.db caller target := ⟨key,same,same ▸ List.mem_map_of_mem member⟩
      exact valid_at valid (.reading silent aimed) (fun _ => Phase.noConfusion) (logged_on valid unsettled rfl)

theorem valid_read (valid : Valid calls start s) {target : CanonicalPrice} (phase : s.phases caller = .reading target) :
    Valid calls start (s.at_ caller (.assigning target)) ∧
      ∀ current, findByLookupKey (view apply s.db caller) (calls.key caller) calls.tenantId = some current →
        (current.id = target.id → Valid calls start (s.at_ caller (.returning current))) ∧
        (current.id ≠ target.id → Valid calls start (s.at_ caller (.clearing target current))) := by
  have stage := valid.stages caller
  have unsettled : (s.phases caller).settled = false := by
    rw [phase]
    rfl
  rw [phase] at stage
  cases stage with
  | reading silent aimed =>
      refine ⟨?_,fun current its => ⟨fun same => ?_,fun apart => ?_⟩⟩
      · refine valid_at valid (.assigning aimed none (fun _ nothing => ?_) silent) (fun _ => Phase.noConfusion) (logged_on valid unsettled rfl)
        cases nothing
      · rw [view_silent silent] at its
        obtain ⟨member,held⟩ := findByLookupKey_found valid.catalog.tenant its
        have ran := alone_transferred valid.catalog aimed.valid aimed.listed
        rw [transferred_held valid.catalog member (same.trans aimed.id) held] at ran
        obtain ⟨entries,log,marked⟩ := valid.logged
        refine valid_at valid (.returning silent) (fun _ => Phase.noConfusion) ⟨_,log.unchanged ran,?_⟩
        exact marked_append marked unsettled rfl false Bool.noConfusion
      · exact valid_at valid (.clearing silent aimed apart) (fun _ => Phase.noConfusion) (logged_on valid unsettled rfl)

-- A write of the caller: the committed rows and the others' writes stay.
theorem framed_write {db locked : Database} {change : Write} {phase : Phase} (held : lock db caller change.id = some locked) (apart : other ≠ caller) :
    Framed calls other phase db (write locked caller change) := by
  obtain ⟨_,_,committed,writes⟩ := lock_holds held
  refine framed_same ?_ ?_ committed
  · show Function.update locked.writes caller _ other = _
    rw [Function.update_of_ne apart,writes]
  · intro id_ its
    have kept : Holds locked other id_ := lock_others held its apart
    exact kept

theorem write_own {db locked : Database} {change : Write} (held : lock db caller change.id = some locked) :
    (write locked caller change).writes caller = db.writes caller ++ [change] ∧ Holds (write locked caller change) caller change.id ∧
      (write locked caller change).committed = db.committed ∧ ∀ id_, Holds db caller id_ → Holds (write locked caller change) caller id_ := by
  obtain ⟨mine,_,committed,writes⟩ := lock_holds held
  refine ⟨?_,mine,committed,?_⟩
  · show Function.update locked.writes caller _ caller = _
    rw [Function.update_self,writes]
  · intro id_ its
    exact (lock_holders held caller id_).mpr (.inl its)

-- The row that is cleared holds the key of the transfer, or none.
def Unmoved (calls : Calls) (s : Transfers) (caller : Nat) (id_ : String) : Prop :=
  ∀ row ∈ s.db.committed, row.id = id_ → row.lookupKey = none ∨ row.lookupKey = some (calls.key caller)

theorem valid_cleared (valid : Valid calls start s) {target current : CanonicalPrice} {db : Database} (phase : s.phases caller = .clearing target current)
    (stored : updateIn s.db caller ⟨current.id,calls.tenantId,none⟩ = .stored db) (unmoved : Unmoved calls s caller current.id) :
    Valid calls start ⟨db,Function.update s.phases caller (.assigning target)⟩ := by
  obtain ⟨locked,held,_,_,rfl⟩ := updateIn_stored stored
  obtain ⟨writes,mine,committed,_⟩ := write_own held
  have stage := valid.stages caller
  have unsettled : (s.phases caller).settled = false := by
    rw [phase]
    rfl
  have logged : ∃ entries, Log (alone calls) start entries s.db.committed ∧ Marked (Function.update s.phases caller (.assigning target)) entries :=
    logged_on valid unsettled rfl
  obtain ⟨entries,log,marked⟩ := logged
  refine ⟨committed ▸ valid.catalog,?_,exclusive_update (fun _ => Phase.noConfusion) valid.exclusive,⟨entries,committed ▸ log,marked⟩⟩
  intro other
  show Stage calls _ other (Function.update s.phases caller (.assigning target) other)
  by_cases mine_ : other = caller
  · subst mine_
    rw [Function.update_self]
    rw [phase] at stage
    cases stage with
    | clearing silent aimed apart =>
        rw [silent] at writes
        refine .assigning (aimed.kept (by rw [committed])) (some current.id) ?_ writes
        intro id_ its
        cases its
        refine ⟨fun same => apart (same.trans aimed.id.symm),mine,?_⟩
        rw [committed]
        exact unmoved
  · rw [Function.update_of_ne mine_]
    exact (valid.stages other).framed (framed_write held mine_)

-- Another that has given the key to its target and is still open: the index tells.
theorem contested_committing (valid : Valid calls start s) {other : Nat} {price : CanonicalPrice} (phase : s.phases other = .committing price)
    (apart : other ≠ caller) (same : calls.key other = calls.key caller) (elsewhere : calls.target other ≠ id_) :
    contested s.db caller ⟨id_,calls.tenantId,some (calls.key caller)⟩ = true := by
  have stage := valid.stages other
  rw [phase] at stage
  cases stage with
  | @committing target _ aimed gone freed writes locked others =>
      have seen := view_assigned valid.catalog.tenant writes
      obtain ⟨row,member,id'⟩ := List.mem_map.mp aimed.listed
      have listed : calls.target other ∈ (cleared s.db.committed gone).map CanonicalPrice.id := by
        cases gone with
        | none => exact aimed.listed
        | some gone =>
            show _ ∈ (assign s.db.committed gone none).map CanonicalPrice.id
            rw [assign_ids]
            exact aimed.listed
      obtain ⟨old,inside,old_⟩ := List.mem_map.mp listed
      have new : {old with lookupKey := some (calls.key other)} ∈ view apply s.db other := by
        rw [seen]
        exact mem_patchKey_self inside old_
      have tenant : ({old with lookupKey := some (calls.key other)} : CanonicalPrice).tenantId = calls.tenantId :=
        cleared_tenant valid.catalog.tenant gone old inside
      have holder : s.db.locks row.id = some other := id' ▸ locked
      unfold contested
      rw [Option.any_some,List.any_eq_true]
      refine ⟨row,member,?_⟩
      rw [holder,Option.any_some,Bool.and_eq_true,Bool.and_eq_true,Bool.or_eq_true,Bool.not_eq_true',decide_eq_true_eq]
      refine ⟨?_,apart,.inr ?_⟩
      · rw [← Bool.not_eq_true,scopedWhere_iff (valid.catalog.tenant row member)]
        exact fun its => elsewhere (id'.symm.trans its)
      · have its : keyWhere (calls.key caller) calls.tenantId {old with lookupKey := some (calls.key other)} = true :=
          (keyWhere_iff tenant).mpr (congrArg some same)
        rw [List.any_eq_true]
        refine ⟨_,new,?_⟩
        rw [Bool.and_eq_true,beq_iff_eq]
        exact ⟨old_.trans id'.symm,its⟩

theorem valid_assigned (valid : Valid calls start s) {target : CanonicalPrice} {db : Database} (phase : s.phases caller = .assigning target)
    (stored : updateIn s.db caller ⟨target.id,calls.tenantId,some (calls.key caller)⟩ = .stored db) (updated : CanonicalPrice) :
    Valid calls start ⟨db,Function.update s.phases caller (.committing updated)⟩ := by
  obtain ⟨locked,held,quiet_,free,rfl⟩ := updateIn_stored stored
  obtain ⟨writes,mine,committed,kept⟩ := write_own held
  have stage := valid.stages caller
  have unsettled : (s.phases caller).settled = false := by
    rw [phase]
    rfl
  have logged : ∃ entries, Log (alone calls) start entries s.db.committed ∧ Marked (Function.update s.phases caller (.committing updated)) entries :=
    logged_on valid unsettled rfl
  obtain ⟨entries,log,marked⟩ := logged
  rw [phase] at stage
  cases stage with
  | assigning aimed gone freed before =>
      have rivals : ∀ other price, s.phases other = .committing price → calls.key other = calls.key caller → other = caller := by
        intro other price phase_ same
        by_contra apart
        by_cases here : calls.target other = target.id
        · have stage_ := valid.stages other
          rw [phase_] at stage_
          cases stage_ with
          | committing _ _ _ _ locked_ _ => exact apart ((lock_holds held).2.1 other (here ▸ locked_))
        · rw [contested_committing valid phase_ apart same here] at quiet_
          cases quiet_
      refine ⟨committed ▸ valid.catalog,?_,?_,⟨entries,committed ▸ log,marked⟩⟩
      · intro other
        show Stage calls _ other (Function.update s.phases caller (.committing updated) other)
        by_cases mine_ : other = caller
        · subst mine_
          rw [Function.update_self]
          have writes_ : (write locked other ⟨target.id,calls.tenantId,some (calls.key other)⟩).writes other =
              clears calls.tenantId gone ++ [⟨calls.target other,calls.tenantId,some (calls.key other)⟩] := by
            rw [writes,before,aimed.id]
          refine .committing (aimed.kept (by rw [committed])) gone ?_ writes_ (aimed.id ▸ mine) ?_
          · intro id_ its
            have own := freed id_ its
            exact ⟨own.apart,kept id_ own.locked,by rw [committed]; exact own.held⟩
          · rw [committed]
            intro row member apart elsewhere its
            rw [view_cleared valid.catalog.tenant before,Bool.eq_false_iff] at free
            refine free ((taken_iff (cleared_tenant valid.catalog.tenant gone)).mpr ⟨row,?_,aimed.id ▸ apart,its⟩)
            cases gone with
            | none => exact member
            | some gone => exact mem_patchKey_other member fun same => elsewhere (congrArg some same.symm)
        · rw [Function.update_of_ne mine_]
          exact (valid.stages other).framed (framed_write held mine_)
      · intro one other price price' first second same
        dsimp only at first second
        by_cases here : one = caller
        · by_cases here' : other = caller
          · rw [here,here']
          · rw [Function.update_of_ne here'] at second
            exact here.trans (rivals other price' second (here ▸ same.symm)).symm
        · rw [Function.update_of_ne here] at first
          by_cases here' : other = caller
          · exact (rivals one price first (here' ▸ same)).trans here'.symm
          · rw [Function.update_of_ne here'] at second
            exact valid.exclusive one other price price' first second same

-- Others do not see a commit that changes only rows its transaction has locked.
theorem framed_commit (valid : Valid calls start s) {other : Nat} {price : CanonicalPrice} (phase : s.phases caller = .committing price)
    (apart : other ≠ caller) : Framed calls other (s.phases other) s.db (commit apply s.db caller) := by
  have stage := valid.stages caller
  rw [phase] at stage
  cases stage with
  | committing aimed gone freed writes locked others =>
      have rows : (commit apply s.db caller).committed = transferred s.db.committed (calls.target caller) (calls.key caller) :=
        view_transferred valid.catalog freed writes others
      refine ⟨Function.update_of_ne apart ..,?_,?_,?_⟩
      · intro id_ held
        exact unlocked_other held apart
      · rw [rows,transferred_ids]
      · intro row' member
        rw [rows] at member
        obtain ⟨row,there,equal,_,change⟩ := transferred_member member
        refine ⟨row,there,equal,?_,?_⟩
        · intro held
          rcases change with ⟨mine,_⟩ | ⟨elsewhere,_,same | ⟨key,_⟩⟩
          · exact absurd (holds_alone held (mine ▸ locked)) apart
          · rw [same]
          · by_cases its : gone = some row.id
            · exact absurd (holds_alone held (freed row.id its).locked) apart
            · exact absurd key (others row there elsewhere its)
        · rintro ⟨price',committing⟩ its
          rcases change with ⟨_,given⟩ | ⟨_,_,same | ⟨_,none_⟩⟩
          · rw [given] at its
            exact absurd (valid.exclusive other caller price' price committing phase (Option.some.inj its).symm) apart
          · rw [same]
            exact its
          · rw [none_] at its
            cases its

-- What a commit makes of the rows.
theorem valid_committed (valid : Valid calls start s) {price : CanonicalPrice} (phase : s.phases caller = .returning price ∨ s.phases caller = .committing price) :
    Valid calls start ⟨commit apply s.db caller,Function.update s.phases caller (.returned price)⟩ ∧
      ((commit apply s.db caller).committed = s.db.committed ∨
        (commit apply s.db caller).committed = transferred s.db.committed (calls.target caller) (calls.key caller)) := by
  obtain ⟨entries,log,marked⟩ := valid.logged
  have stages (others : ∀ other, other ≠ caller → Framed calls other (s.phases other) s.db (commit apply s.db caller)) :
      ∀ other, Stage calls (commit apply s.db caller) other (Function.update s.phases caller (.returned price) other) := by
    intro other
    by_cases mine : other = caller
    · subst mine
      rw [Function.update_self]
      exact .returned (Function.update_self ..)
    · rw [Function.update_of_ne mine]
      exact (valid.stages other).framed (others other mine)
  have exclusive : ∀ one other price' price'', Function.update s.phases caller (.returned price) one = .committing price' →
      Function.update s.phases caller (.returned price) other = .committing price'' → calls.key one = calls.key other → one = other :=
    exclusive_update (fun _ => Phase.noConfusion) valid.exclusive
  have stage := valid.stages caller
  rcases phase with phase | phase
  · rw [phase] at stage
    cases stage with
    | returning silent =>
        have same : (commit apply s.db caller).committed = s.db.committed := view_silent silent
        refine ⟨⟨same ▸ valid.catalog,stages ?_,exclusive,⟨entries,same ▸ log,marked_update marked ?_ (fun _ => rfl) ?_⟩⟩,.inl same⟩
        · intro other apart
          exact framed_same (Function.update_of_ne apart ..) (fun id_ held => unlocked_other held apart) same
        · rw [phase]
          rfl
        · intro _
          exact marked.listed caller (by rw [phase]; rfl)
  · have others := fun other (apart : other ≠ caller) => framed_commit valid phase apart
    have unsettled : (s.phases caller).settled = false := by
      rw [phase]
      rfl
    rw [phase] at stage
    cases stage with
    | committing aimed gone freed writes locked rest =>
        have rows : (commit apply s.db caller).committed = transferred s.db.committed (calls.target caller) (calls.key caller) :=
          view_transferred valid.catalog freed writes rest
        have ran := alone_transferred valid.catalog aimed.valid aimed.listed
        refine ⟨⟨rows ▸ catalog_transferred valid.catalog,stages others,exclusive,⟨_,rows ▸ log.changed ran,?_⟩⟩,.inr rows⟩
        exact marked_append marked unsettled rfl true fun _ => rfl

end Invariant

end Payable.LookupKeys
