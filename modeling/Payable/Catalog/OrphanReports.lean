import Payable.Catalog.Leases
import Payable.Catalog.GenerationProtocol
import Payable.Foundation.Text
import Mathlib.Data.List.Induction

namespace Payable.Catalog
open Runs

variable {deps : CatalogDependencies} {s : State}

def transitionOf : CatalogPayload → Option TransitionSnapshot
  | .transition snapshot => some snapshot
  | .orphan _ => none

-- The most recently created outbox row of a synchronization.
def newest (outbox : List (Outbox.OutboxEvent CatalogPayload)) (synchronizationId : String) : Option TransitionSnapshot :=
  ((outbox.filterMap fun event => transitionOf event.payload).filter (·.synchronizationId == synchronizationId)).getLast?

def tells (books : Books) (row : CatalogSynchronization) : Bool :=
  (newest books.outbox row.id).any fun snapshot => snapshot.status == row.status && snapshot.reconciliationState == row.reconciliationState

-- No event of the tenant bears the dedupe key yet.
def unusedKey (deps : CatalogDependencies) (outbox : List (Outbox.OutboxEvent CatalogPayload)) (key : String) : Bool :=
  outbox.all fun event => event.dedupeKey != some key || event.tenantId != deps.tenantId

def unused (deps : CatalogDependencies) (books : Books) (row : CatalogSynchronization) (source : Option ReconciliationSource) : Bool :=
  unusedKey deps books.outbox (transitionKey deps row source)

def Effect.transition : Effect → Option (CatalogSynchronization × Option ReconciliationSource)
  | .write row | .record row | .commit row _ => some (row,none)
  | .move row source => some (row,source)
  | _ => none

-- The transition that a step hands to recordCatalogSyncTransition.
def recorded (deps : CatalogDependencies) (s : State) : Action → Option (CatalogSynchronization × Option ReconciliationSource)
  | .reply caller reply => (turn deps s (s.calls caller) reply).bind (·.1.transition)
  | _ => none

def standing (s : State) : Option (SynchronizationStatus × ReconciliationState) :=
  s.row.map fun row => (row.status,row.reconciliationState)

def Told (s : State) : Prop := ∀ row, s.row = some row → tells s.books row = true

instance (s : State) : Decidable (Told s) :=
  match there : s.row with
  | none => isTrue fun row its => by rw [there] at its; cases its
  | some row => decidable_of_iff (tells s.books row = true)
      ⟨fun told other its => by rw [there] at its; cases its; exact told,fun told => told row there⟩

-- An event is added for a key of its own; otherwise the outbox is as it was.
theorem create_outbox {outbox : List (Outbox.OutboxEvent CatalogPayload)} {data : Outbox.NewOutboxEvent CatalogPayload} {drawn : String}
    (tenant : data.tenantId = deps.tenantId) (keyed : data.dedupeKey = some key) :
    Outbox.create outbox data drawn now =
      if unusedKey deps outbox key then outbox ++ [Outbox.stage data drawn now] else outbox := by
  have same : unusedKey deps outbox key =
      !(data.dedupeKey.isSome && outbox.any fun event => event.dedupeKey == data.dedupeKey && event.tenantId == data.tenantId) := by
    rw [unusedKey,keyed,tenant,Option.isSome_some,Bool.true_and,List.not_any_eq_all_not]
    congr 1
    funext event
    rw [Bool.not_and]
    rfl
  rw [Outbox.create,same]
  cases data.dedupeKey.isSome && outbox.any fun event => event.dedupeKey == data.dedupeKey && event.tenantId == data.tenantId <;> rfl

def transitionEvent (deps : CatalogDependencies) (row : CatalogSynchronization) (source : Option ReconciliationSource) :
    Outbox.NewOutboxEvent CatalogPayload :=
  ⟨deps.tenantId,"catalog.synchronization." ++ row.status.name ++ ".v1",.transition (snapshotOf deps row source),
    some (transitionKey deps row source)⟩

theorem record_outbox (deps : CatalogDependencies) (books : Books) (row : CatalogSynchronization) (source : Option ReconciliationSource) (now : Nat) :
    (recordCatalogSyncTransition deps books row source now).outbox =
      if unused deps books row source then
        books.outbox ++ [Outbox.stage (transitionEvent deps row source) (deps.randomUUID books.outbox.length) now]
      else books.outbox :=
  create_outbox rfl rfl

theorem report_outbox (deps : CatalogDependencies) (books : Books) (row : CatalogSynchronization) (id : String) (version : Option String) (now : Nat) :
    ∃ event : Outbox.OutboxEvent CatalogPayload, event.dedupeKey = some (orphanKey row.idempotencyKey id) ∧
      event.payload = .orphan ⟨deps.provider,deps.resourceId,row.canonicalVersion,row.idempotencyKey,id,version⟩ ∧
        (recordOrphan deps books row id version now).outbox =
          if unusedKey deps books.outbox (orphanKey row.idempotencyKey id) then books.outbox ++ [event] else books.outbox :=
  ⟨_,rfl,rfl,create_outbox rfl rfl⟩

theorem keys_apart (rest rest' : String) : "catalog-sync-transition:" ++ rest ≠ "catalog-sync-orphan:" ++ rest' := by
  intro same
  have texts := congrArg String.toList same
  simp at texts

theorem newest_appended (outbox : List (Outbox.OutboxEvent CatalogPayload)) (row : CatalogSynchronization) (source : Option ReconciliationSource)
    {event : Outbox.OutboxEvent CatalogPayload} (payload : event.payload = .transition (snapshotOf deps row source)) :
    newest (outbox ++ [event]) row.id = some (snapshotOf deps row source) := by
  simp [newest,List.filterMap_append,payload,transitionOf,snapshotOf]

-- A recorded transition is told unless its key is used up and the newest event tells of another.
theorem recorded_tells (books : Books) (row : CatalogSynchronization) (source : Option ReconciliationSource) (now : Nat) :
    tells (recordCatalogSyncTransition deps books row source now) row = (unused deps books row source || tells books row) := by
  have outbox := record_outbox deps books row source now
  cases fresh : unused deps books row source with
  | true =>
      rw [fresh,if_pos rfl] at outbox
      have last : newest (recordCatalogSyncTransition deps books row source now).outbox row.id = some (snapshotOf deps row source) := by
        rw [outbox]
        exact newest_appended books.outbox row source rfl
      simp [tells,last,snapshotOf]
  | false =>
      rw [fresh] at outbox
      rw [Bool.false_or,tells,tells,outbox]
      rfl

theorem effect_recorded (deps : CatalogDependencies) (s : State) {effect : Effect} (records : effect.transition = some (row,source)) :
    (s.apply deps effect).books = recordCatalogSyncTransition deps s.books row source s.now ∧
      ((s.apply deps effect).row = some row ∨ (s.apply deps effect).row = s.row) := by
  cases effect with
  | write | commit | move => cases records; exact ⟨rfl,.inl rfl⟩
  | record => cases records; exact ⟨rfl,.inr rfl⟩
  | _ => cases records

theorem recorded_step (moved : advance deps s action = some t) (records : recorded deps s action = some (row,source))
    (changed : standing t ≠ standing s) :
    t.row = some row ∧ t.books = recordCatalogSyncTransition deps s.books row source s.now := by
  cases action with
  | reply caller reply =>
      simp only [recorded] at records
      obtain ⟨⟨effect,call⟩,turned,its⟩ := Option.bind_eq_some_iff.mp records
      simp only [advance,turned,Option.map_some] at moved
      cases moved
      obtain ⟨books,now | kept⟩ := effect_recorded deps s its
      · exact ⟨now,books⟩
      · exact absurd (congrArg (Option.map fun row : CatalogSynchronization => (row.status,row.reconciliationState)) kept) changed
  | _ => cases records

-- A step that records a transition and changes the row's standing leaves a newest event that tells it.
def Tells (deps : CatalogDependencies) (s : State) (action : Action) : Prop :=
  ∀ t row source, advance deps s action = some t → recorded deps s action = some (row,source) → standing t ≠ standing s → Told t

section Histories

abbrev Recording := CatalogSynchronization × Option ReconciliationSource

-- A run beside the transitions that it has handed to recordCatalogSyncTransition so far.
structure History where
  state : State
  log : List Recording

def histories (deps : CatalogDependencies) : System History Action :=
  ⟨fun h => (catalog deps).initial h.state ∧ h.log = [],fun h action =>
    (advance deps h.state action).map fun t => ⟨t,h.log ++ (recorded deps h.state action).toList⟩⟩

-- The run has recorded these eight values of the synchronization before.
def repeats (deps : CatalogDependencies) (log : List Recording) (recording : Recording) : Bool :=
  log.any fun earlier => transitionKey deps earlier.1 earlier.2 == transitionKey deps recording.1 recording.2

-- The transitions of a run less its repetitions.
def firsts (deps : CatalogDependencies) : List Recording → List Recording
  | log => log.foldl (fun seen recording => if repeats deps seen recording then seen else seen ++ [recording]) []

-- What was last recorded of a synchronization that was not a repetition.
def lastFirst (deps : CatalogDependencies) (log : List Recording) (id : String) : Option Recording :=
  ((firsts deps log).filter (·.1.id == id)).getLast?

-- A return: an earlier transition of the run is repeated after one to another standing came up.
def returns (deps : CatalogDependencies) (log : List Recording) (recording : Recording) : Bool :=
  repeats deps log recording && (lastFirst deps log recording.1.id).all fun latest =>
    latest.1.status != recording.1.status || latest.1.reconciliationState != recording.1.reconciliationState

-- No step that records a transition and changes the row's standing returns to an earlier one.
def unreturning (deps : CatalogDependencies) (h : History) (action : Action) : Bool :=
  match advance deps h.state action,recorded deps h.state action with
  | some t,some recording => standing t == standing h.state || !returns deps h.log recording
  | _,_ => true

def Unreturning (deps : CatalogDependencies) (h : History) (action : Action) : Prop := unreturning deps h action = true

instance (h : History) (action : Action) : Decidable (Unreturning deps h action) := inferInstanceAs (Decidable (_ = _))

-- The outbox holds one event for each transition recorded, less the repetitions, in their order.
structure Listed (deps : CatalogDependencies) (h : History) : Prop where
  events : h.state.books.outbox.filterMap (fun event => transitionOf event.payload) =
    (firsts deps h.log).map fun recording => snapshotOf deps recording.1 recording.2
  keys : ∀ row source, unused deps h.state.books row source = !repeats deps h.log (row,source)

theorem unused_appended (outbox : List (Outbox.OutboxEvent CatalogPayload)) (event : Outbox.OutboxEvent CatalogPayload) (key : String) :
    unusedKey deps (outbox ++ [event]) key =
      (unusedKey deps outbox key && (event.dedupeKey != some key || event.tenantId != deps.tenantId)) := by
  simp [unusedKey,List.all_append]

theorem repeats_appended (log : List Recording) (recording other : Recording) :
    repeats deps (log ++ [recording]) other =
      (repeats deps log other || transitionKey deps recording.1 recording.2 == transitionKey deps other.1 other.2) := by
  simp [repeats,List.any_append]

-- Less its repetitions a log has the same transitions.
theorem repeats_firsts (log : List Recording) (other : Recording) : repeats deps (firsts deps log) other = repeats deps log other := by
  induction log using List.reverseRecOn with
  | nil => rfl
  | append_singleton log recording ih =>
      rw [firsts,List.foldl_append,List.foldl_cons,List.foldl_nil,repeats_appended,← ih]
      rw [← firsts]
      cases again : repeats deps (firsts deps log) recording with
      | false => rw [if_neg (by simp),repeats_appended]
      | true =>
          rw [if_pos rfl]
          cases same : transitionKey deps recording.1 recording.2 == transitionKey deps other.1 other.2 with
          | false => rw [Bool.or_false]
          | true =>
              rw [Bool.or_true]
              rw [beq_iff_eq] at same
              simpa [repeats,same] using again

theorem firsts_appended (log : List Recording) (recording : Recording) :
    firsts deps (log ++ [recording]) = if repeats deps log recording then firsts deps log else firsts deps log ++ [recording] := by
  rw [firsts,List.foldl_append,List.foldl_cons,List.foldl_nil,← firsts,repeats_firsts]

theorem listed_recorded (listed : Listed deps h) (row : CatalogSynchronization) (source : Option ReconciliationSource) (now : Nat)
    (books : t.books = recordCatalogSyncTransition deps h.state.books row source now) : Listed deps ⟨t,h.log ++ [(row,source)]⟩ := by
  have outbox := record_outbox deps h.state.books row source now
  rw [← books,listed.keys row source] at outbox
  cases again : repeats deps h.log (row,source) with
  | true =>
      rw [again] at outbox
      refine ⟨?_,fun row' source' => ?_⟩
      · rw [firsts_appended,again,if_pos rfl]
        exact outbox ▸ listed.events
      · rw [repeats_appended,unused,outbox]
        refine (listed.keys row' source').trans ?_
        cases same : transitionKey deps row source == transitionKey deps row' source' with
        | false => rw [Bool.or_false]
        | true =>
            rw [beq_iff_eq] at same
            have also : repeats deps h.log (row',source') = true := by simpa [repeats,same] using again
            rw [also,Bool.true_or]
  | false =>
      rw [again] at outbox
      refine ⟨?_,fun row' source' => ?_⟩
      · rw [firsts_appended,again,outbox]
        simp only [Bool.not_false,if_true,Bool.false_eq_true,if_false,List.filterMap_append,List.map_append,listed.events]
        rfl
      · rw [repeats_appended,unused,outbox]
        simp only [Bool.not_false,if_true,unused_appended]
        rw [show unusedKey deps h.state.books.outbox (transitionKey deps row' source') = _ from listed.keys row' source']
        simp [Outbox.stage,transitionEvent,Bool.not_or,bne]

-- A report of an orphan is no transition, and its key is none of a transition.
theorem listed_reported (listed : Listed deps h) (row : CatalogSynchronization) (id : String) (version : Option String) (now : Nat)
    (books : t.books = recordOrphan deps h.state.books row id version now) : Listed deps ⟨t,h.log⟩ := by
  obtain ⟨event,keyed,payload,outbox⟩ := report_outbox deps h.state.books row id version now
  rw [← books] at outbox
  split at outbox
  · refine ⟨?_,fun row' source' => ?_⟩
    · rw [outbox,List.filterMap_append,listed.events]
      simp [payload,transitionOf]
    · rw [unused,outbox,unused_appended,keyed]
      have apart : orphanKey row.idempotencyKey id ≠ transitionKey deps row' source' := by
        unfold orphanKey transitionKey
        rw [String.append_assoc,String.append_assoc,String.append_assoc,String.append_assoc]
        exact (keys_apart _ _).symm
      rw [bne_iff_ne.mpr (by simpa using apart),Bool.true_or,Bool.and_true]
      exact listed.keys row' source'
  · exact ⟨outbox ▸ listed.events,fun row' source' => by rw [unused,outbox]; exact listed.keys row' source'⟩

theorem effect_quiet (deps : CatalogDependencies) (s : State) {effect : Effect} (silent : effect.transition = none) :
    (s.apply deps effect).books = s.books ∨ ∃ claimed remote, effect = .report claimed remote := by
  cases effect with
  | write | record | commit | move => cases silent
  | report claimed remote => exact .inr ⟨claimed,remote,rfl⟩
  | nothing | draw | expire | take | provide => exact .inl rfl

theorem listed_quiet (listed : Listed deps h) (books : t.books = h.state.books) : Listed deps ⟨t,h.log⟩ :=
  ⟨books ▸ listed.events,fun row source => by rw [unused,books]; exact listed.keys row source⟩

theorem listed_step (listed : Listed deps h) (moved : (histories deps).advance h action = some m) : Listed deps m := by
  obtain ⟨t,stepped,rfl⟩ := Option.map_eq_some_iff.mp moved
  cases action with
  | reply caller reply =>
      simp only [advance] at stepped
      obtain ⟨⟨effect,call⟩,turned,rfl⟩ := Option.map_eq_some_iff.mp stepped
      simp only [recorded,turned,Option.bind_some]
      cases records : effect.transition with
      | some recording =>
          obtain ⟨row,source⟩ := recording
          exact listed_recorded listed row source h.state.now (effect_recorded deps h.state records).1
      | none =>
          simp only [Option.toList_none,List.append_nil]
          rcases effect_quiet deps h.state records with kept | ⟨claimed,remote,rfl⟩
          · exact listed_quiet listed kept
          · exact listed_reported listed claimed remote.providerProductId remote.providerVersion h.state.now rfl
  | start caller call =>
      simp only [advance] at stepped
      split at stepped <;> cases stepped
      exact (List.append_nil h.log).symm ▸ listed_quiet listed rfl
  | elapse | edit | outside =>
      cases stepped
      exact (List.append_nil h.log).symm ▸ listed_quiet listed rfl

theorem listed_reached (path : Reached (histories deps) allowed h) : Listed deps h := by
  refine path.invariant (Listed deps) ?_ fun _ _ _ _ listed _ moved => listed_step listed moved
  rintro ⟨s,log⟩ ⟨initial,rfl⟩
  have none_ : s.books.outbox = [] := by rw [initial.books]
  exact ⟨by rw [none_]; rfl,fun row source => by rw [unused,none_]; rfl⟩

-- In a run the newest event of a synchronization is that of its last transition that was no repetition.
theorem newest_lastFirst (listed : Listed deps h) (id : String) :
    newest h.state.books.outbox id = (lastFirst deps h.log id).map fun recording => snapshotOf deps recording.1 recording.2 := by
  rw [newest,listed.events,List.filter_map,List.getLast?_map]
  rfl

theorem tells_exact (listed : Listed deps h) : Tells deps h.state action ↔ Unreturning deps h action := by
  have same : ∀ t row source, advance deps h.state action = some t → recorded deps h.state action = some (row,source) →
      standing t ≠ standing h.state → (Told t ↔ returns deps h.log (row,source) = false) := by
    intro t row source moved records changed
    obtain ⟨there,books⟩ := recorded_step moved records changed
    have told : Told t ↔ tells t.books row = true :=
      ⟨fun told => told row there,fun told other its => by cases there.symm.trans its; exact told⟩
    rw [told,books,recorded_tells,listed.keys,tells,newest_lastFirst listed,returns]
    cases repeats deps h.log (row,source) with
    | false => simp
    | true =>
        cases lastFirst deps h.log row.id with
        | none => simp
        | some latest => simp [snapshotOf]
  cases moved : advance deps h.state action with
  | none => simp [Tells,Unreturning,unreturning,moved]
  | some t =>
      cases records : recorded deps h.state action with
      | none => simp [Tells,Unreturning,unreturning,moved,records]
      | some recording =>
          obtain ⟨row,source⟩ := recording
          by_cases changed : standing t = standing h.state
          · simp [Tells,Unreturning,unreturning,moved,records,changed]
          · simp [Tells,Unreturning,unreturning,moved,records,changed,same t row source moved records changed]

end Histories

-- The product is edited and edited back between reconciliations, which find it stale, in sync and stale again.
def swallowSteps : List Action :=
  requestSteps 0 ++ reconcileSteps 1 .manual ++
    .edit {knownProduct with name := "Old plan",updatedAt := "2026-01-02T00:00:00.000Z"} :: reconcileSteps 2 .manual ++
      .edit {knownProduct with updatedAt := "2026-01-03T00:00:00.000Z"} :: (reconcileSteps 3 .manual).dropLast

def swallowed (s : State) : Bool :=
  (advance (plainDependencies true) s (.reply 3 .returned)).any fun t =>
    (recorded (plainDependencies true) s (.reply 3 .returned)).isSome && standing t != standing s && !decide (Told t)

end Payable.Catalog

namespace Payable.Catalog
open Runs

variable {deps : CatalogDependencies} {s : State}

def reportOf : CatalogPayload → Option OrphanReport
  | .orphan report => some report
  | .transition _ => none

-- A remote product that an orphaned event names.
def named (books : Books) (id : String) : Bool :=
  books.outbox.any fun event => (reportOf event.payload).any (·.providerResourceId == id)

section Keys

theorem colon_separated {before x y a b : String} (apart : ':' ∉ x.toList) (apart' : ':' ∉ y.toList)
    (same : before ++ x ++ ":" ++ a = before ++ y ++ ":" ++ b) : x = y ∧ a = b := by
  have texts := congrArg String.toList same
  simp only [String.toList_append,List.append_assoc] at texts
  obtain ⟨firsts,seconds⟩ := Text.separated_first (List.append_cancel_left texts) apart apart'
  exact ⟨String.toList_inj.mp firsts,String.toList_inj.mp seconds⟩

theorem orphanKey_injective {id id' : String} (same : orphanKey (deriveCatalogSyncKey deps operation version) id =
    orphanKey (deriveCatalogSyncKey deps operation' version') id') : id = id' := by
  unfold orphanKey deriveCatalogSyncKey at same
  simp only [← String.append_assoc] at same
  exact (colon_separated (deps.hexadecimal _ _) (deps.hexadecimal _ _) same).2

end Keys

-- An event's dedupe key is the one made for what the event says.
def Filed (deps : CatalogDependencies) (event : Outbox.OutboxEvent CatalogPayload) : Prop :=
  match event.payload with
  | .transition _ => ∃ rest, event.dedupeKey = some ("catalog-sync-transition:" ++ rest)
  | .orphan report => event.dedupeKey = some (orphanKey report.idempotencyKey report.providerResourceId) ∧
      ∃ operation version, report.idempotencyKey = deriveCatalogSyncKey deps operation version

section Books

variable {books : Books}

theorem named_recorded (row : CatalogSynchronization) (source : Option ReconciliationSource) (now : Nat) (id : String) :
    named (recordCatalogSyncTransition deps books row source now) id = named books id := by
  rw [named,named,record_outbox]
  split
  · rw [List.any_append]
    simp [Outbox.stage,transitionEvent,reportOf]
  · rfl

theorem transition_filed (row : CatalogSynchronization) (source : Option ReconciliationSource) {drawn : String} :
    Filed deps (Outbox.stage (transitionEvent deps row source) drawn now) := by
  unfold Filed
  refine ⟨row.id ++ ":" ++ deps.hashTransition (identityOf row source),?_⟩
  rw [← String.append_assoc,← String.append_assoc]
  rfl

theorem filed_recorded (filed : ∀ event ∈ books.outbox, Filed deps event) (row : CatalogSynchronization)
    (source : Option ReconciliationSource) (now : Nat) :
    ∀ event ∈ (recordCatalogSyncTransition deps books row source now).outbox, Filed deps event := by
  intro event inside
  rw [record_outbox] at inside
  split at inside
  · rcases List.mem_append.mp inside with before | last
    · exact filed event before
    · rw [List.mem_singleton.mp last]
      exact transition_filed row source
  · exact filed event inside

theorem filed_reported (filed : ∀ event ∈ books.outbox, Filed deps event) (derived : Derived deps row) (id : String)
    (version : Option String) (now : Nat) : ∀ event ∈ (recordOrphan deps books row id version now).outbox, Filed deps event := by
  obtain ⟨new,keyed,payload,outbox⟩ := report_outbox deps books row id version now
  intro event inside
  rw [outbox] at inside
  split at inside
  · rcases List.mem_append.mp inside with before | last
    · exact filed event before
    · rw [List.mem_singleton.mp last,Filed,payload]
      exact ⟨keyed,row.operation,row.canonicalVersion,derived⟩
  · exact filed event inside

-- An event under the key of a report is a report of the same product.
theorem filed_orphan {event : Outbox.OutboxEvent CatalogPayload} {id : String} (filed : Filed deps event)
    (keyed : event.dedupeKey = some (orphanKey (deriveCatalogSyncKey deps operation version) id)) :
    (reportOf event.payload).any (·.providerResourceId == id) = true := by
  unfold Filed at filed
  split at filed
  · obtain ⟨rest,its⟩ := filed
    have same := Option.some.inj (its.symm.trans keyed)
    unfold orphanKey at same
    rw [String.append_assoc,String.append_assoc] at same
    exact (keys_apart _ _ same).elim
  · rename_i report payload
    obtain ⟨its,operation',version',made⟩ := filed
    rw [made] at its
    have same := orphanKey_injective (Option.some.inj (its.symm.trans keyed))
    rw [payload,reportOf,Option.any_some,beq_iff_eq]
    exact same

-- A report names its product, also when the event is not stored again, and no other.
theorem named_reported (filed : ∀ event ∈ books.outbox, Filed deps event) (derived : Derived deps row) (id : String)
    (version : Option String) (now : Nat) (other : String) :
    named (recordOrphan deps books row id version now) other = true ↔ named books other = true ∨ other = id := by
  obtain ⟨new,keyed,payload,outbox⟩ := report_outbox deps books row id version now
  rw [named,outbox]
  cases fresh : unusedKey deps books.outbox (orphanKey row.idempotencyKey id) with
  | true =>
      have its : (reportOf new.payload).any (·.providerResourceId == other) = true ↔ other = id := by
        rw [payload,reportOf,Option.any_some,beq_iff_eq]
        exact eq_comm
      rw [if_pos rfl,List.any_append,Bool.or_eq_true,List.any_cons,List.any_nil,Bool.or_false,its]
      rfl
  | false =>
      refine ⟨.inl,?_⟩
      rintro (before | rfl)
      · exact before
      · -- The event that bears the key already is an earlier report of the same product.
        rw [unusedKey] at fresh
        obtain ⟨event,inside,used⟩ := List.all_eq_false.mp fresh
        simp only [Bool.or_eq_true,bne_iff_ne,ne_eq,not_or,not_not] at used
        rw [derived] at used
        exact List.any_eq_true.mpr ⟨event,inside,filed_orphan (filed event inside) used.1⟩

end Books

end Payable.Catalog
