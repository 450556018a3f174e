import Payable.Foundation.Checked
import Payable.LocalPayments.LocalPaymentActions
import Payable.Storage.TenantIsolation

namespace Payable.LocalPayments
open Domain Storage Runs Transactions

variable {deps : Deps} {id : String}

def storedStatus (id : String) (books : Books) : Option PaymentStatus :=
  (Tables.lookup Payment.id id books.payments).map (·.status)

def transitions (id : String) (books : Books) : List AuditLog := books.audits.filter (recordsTransition id)

def announcements (id : String) (books : Books) : List (Outbox.OutboxEvent LocalPayload) :=
  books.outbox.filter (announcesTransition id)

-- Nothing has committed and nothing is on record, or one call has and all of it is.
def SettledOnce (id : String) (commits : List Committed) (books : Books) : Prop :=
  commits = [] ∧ storedStatus id books = some .pending ∧ transitions id books = [] ∧ announcements id books = [] ∨
    ∃ commit rowId now, commits = [commit] ∧ commit.input.event.next .pending = some commit.status ∧
      storedStatus id books = some commit.status ∧
      transitions id books = [auditLog id commit.input .pending commit.status] ∧
      announcements id books = [Outbox.stage (newOutboxEvent id commit.input commit.status) rowId now]

-- What each phase has written, and that the call has the payment to itself from its update on.
def Drafted (deps : Deps) (id : String) (s : Locals) (caller : Nat) (input : TransitionInput) : Phase → Prop
  | .requested | .reading | .returned _ | .thrown _ => s.db.writes caller = []
  | .updating before after => s.db.writes caller = [] ∧ before = .pending ∧ input.event.next .pending = some after ∧
      (deps.driver.locksRows = true → Holds s.db caller id ∧ s.commits = [])
  | .auditing before after _ => before = .pending ∧ input.event.next .pending = some after ∧
      Holds s.db caller id ∧ s.commits = [] ∧ s.db.committed.payments.any (scopedWhere id input.tenantId) = true ∧
      ∃ now, s.db.writes caller = [.payment id after input.tenantId now]
  | .finding after _ | .inserting after _ => input.event.next .pending = some after ∧
      Holds s.db caller id ∧ s.commits = [] ∧ s.db.committed.payments.any (scopedWhere id input.tenantId) = true ∧
      ∃ now, s.db.writes caller = [.payment id after input.tenantId now,.audit (auditLog id input .pending after)]
  | .committing after _ => input.event.next .pending = some after ∧
      Holds s.db caller id ∧ s.commits = [] ∧ s.db.committed.payments.any (scopedWhere id input.tenantId) = true ∧
      ∃ now rowId at_, s.db.writes caller = [.payment id after input.tenantId now,.audit (auditLog id input .pending after),
        .outbox (Outbox.stage (newOutboxEvent id input after) rowId at_)]

structure Kept (deps : Deps) (id : String) (s : Locals) : Prop where
  keyed : Tables.Keyed Payment.id s.db.committed.payments
  apart : ProvidersApart s.db.committed.payments
  idle : ∀ caller, s.calls caller = none → s.db.writes caller = []
  drafted : ∀ caller call, s.calls caller = some call → Drafted deps id s caller call.input call.phase
  settled : SettledOnce id s.commits s.db.committed

-- The update still finds the payment pending; always so where the read locks the row.
def stillPending (deps : Deps) (id : String) (s : Locals) : Action → Bool
  | .update _ => deps.driver.locksRows || storedStatus id s.db.committed == some .pending
  | _ => true

def StillPending (deps : Deps) (id : String) (s : Locals) (action : Action) : Prop := stillPending deps id s action = true

instance (s : Locals) (action : Action) : Decidable (StillPending deps id s action) := inferInstanceAs (Decidable (_ = _))

theorem settled_pending (settled : SettledOnce id commits books) (pending : storedStatus id books = some .pending) :
    commits = [] := by
  rcases settled with ⟨nothing,_⟩ | ⟨commit,_,_,_,moved,stored,_⟩
  · exact nothing
  · rw [stored,Option.some.injEq] at pending
    rw [pending] at moved
    cases event : commit.input.event <;> rw [event] at moved <;> cases moved

theorem settled_fresh (settled : SettledOnce id [] books) :
    storedStatus id books = some .pending ∧ transitions id books = [] ∧ announcements id books = [] := by
  rcases settled with ⟨_,fresh⟩ | ⟨_,_,_,same,_⟩
  · exact fresh
  · cases same

-- Others see the same writes, the same lock and the same commits.
theorem drafted_frame {s next : Locals} (drafted : Drafted deps id s caller input phase)
    (committed : next.db.committed = s.db.committed) (writes : next.db.writes caller = s.db.writes caller)
    (holds : Holds s.db caller id → Holds next.db caller id) (commits : next.commits = s.commits) :
    Drafted deps id next caller input phase := by
  cases phase with
  | requested | reading | returned | thrown => exact writes.trans drafted
  | updating before after =>
      obtain ⟨silent,pending,moved,alone⟩ := drafted
      refine ⟨writes.trans silent,pending,moved,?_⟩
      intro locks
      exact ⟨holds (alone locks).1,commits.trans (alone locks).2⟩
  | auditing before after updated =>
      obtain ⟨pending,moved,held,fresh,reaches,now,written⟩ := drafted
      exact ⟨pending,moved,holds held,commits.trans fresh,by rw [committed]; exact reaches,now,writes.trans written⟩
  | finding after updated | inserting after updated =>
      obtain ⟨moved,held,fresh,reaches,now,written⟩ := drafted
      exact ⟨moved,holds held,commits.trans fresh,by rw [committed]; exact reaches,now,writes.trans written⟩
  | committing after updated =>
      obtain ⟨moved,held,fresh,reaches,now,rowId,at_,written⟩ := drafted
      exact ⟨moved,holds held,commits.trans fresh,by rw [committed]; exact reaches,now,rowId,at_,writes.trans written⟩

-- One call moves on and nothing commits.
theorem kept_moved {s next : Locals} (kept : Kept deps id s) (committed : next.db.committed = s.db.committed)
    (commits : next.commits = s.commits) (calls : next.calls = Function.update s.calls caller (some call))
    (drafted : Drafted deps id next caller call.input call.phase)
    (writes : ∀ other, other ≠ caller → next.db.writes other = s.db.writes other)
    (holds : ∀ other, other ≠ caller → Holds s.db other id → Holds next.db other id) : Kept deps id next := by
  refine ⟨by rw [committed]; exact kept.keyed,by rw [committed]; exact kept.apart,?_,?_,by
    rw [committed,commits]; exact kept.settled⟩
  · intro other absent
    rw [calls] at absent
    by_cases mine : other = caller
    · subst mine
      rw [Function.update_self] at absent
      cases absent
    · rw [Function.update_of_ne mine] at absent
      exact (writes other mine).trans (kept.idle other absent)
  · intro other its live
    rw [calls] at live
    by_cases mine : other = caller
    · subst mine
      rw [Function.update_self,Option.some.injEq] at live
      subst live
      exact drafted
    · rw [Function.update_of_ne mine] at live
      exact drafted_frame (kept.drafted other its live) committed (writes other mine) (holds other mine) commits

theorem rollback_others (id : String) {db : Database} (apart : other ≠ caller) :
    (rollback db caller).writes other = db.writes other ∧ (Holds db other id → Holds (rollback db caller) other id) :=
  ⟨Function.update_of_ne apart _ _,fun held => unlocked_other held apart⟩

theorem kept_failed {s : Locals} (kept : Kept deps id s) (call : Call) (error : LocalError) :
    Kept deps id (s.fail caller call error) := by
  refine kept_moved kept rfl rfl rfl (Function.update_self _ _ _) ?_ ?_
  · intro other apart
    exact (rollback_others id apart).1
  · intro other apart
    exact (rollback_others _ apart).2

-- The same after the statement has taken its lock.
theorem kept_failed_locked {s : Locals} {db : Database} (kept : Kept deps id s) (committed : db.committed = s.db.committed)
    (writes : db.writes = s.db.writes) (holds : ∀ other, other ≠ caller → Holds s.db other id → Holds db other id)
    (call : Call) (error : LocalError) : Kept deps id ({s with db := db}.fail caller call error) := by
  refine kept_moved kept committed rfl rfl (Function.update_self _ _ _) ?_ ?_
  · intro other apart
    exact (rollback_others id apart).1.trans (by rw [writes])
  · intro other apart held
    exact (rollback_others _ apart).2 (holds other apart held)

theorem scoped_found {rows : Storage.Rows} (found : rows.find? (scopedWhere id tenantId) = some row) :
    row ∈ rows ∧ row.id = id := by
  have its := List.find?_some found
  simp only [scopedWhere,Bool.and_eq_true,decide_eq_true_eq] at its
  exact ⟨List.mem_of_find?_eq_some found,its.1⟩

theorem toEntity_status (read : toEntity backend row = .ok payment) : payment.status = row.status := by
  unfold toEntity at read
  split at read
  · cases read
  · obtain ⟨amount,_,rest⟩ := Checked.bind_ok.mp read
    obtain ⟨refunded,_,rest⟩ := Checked.bind_ok.mp rest
    obtain ⟨captured,_,rest⟩ := Checked.bind_ok.mp rest
    cases rest
    rfl

-- The read goes on only from a pending row of the table.
theorem judge_ok {rows : Storage.Rows} (passed : judge id event (findById backend id tenantId rows) = .ok (before,after)) :
    before = .pending ∧ event.next .pending = some after ∧
      ∃ row, rows.find? (scopedWhere id tenantId) = some row ∧ row.status = .pending := by
  unfold findById firstWhere at passed
  cases found : rows.find? (scopedWhere id tenantId) with
  | none => rw [found] at passed; cases passed
  | some row =>
      rw [found] at passed
      cases read : toEntity backend row with
      | error error => simp [read,Except.map,judge] at passed
      | ok payment =>
          simp only [read,Except.map,judge] at passed
          split at passed
          · cases passed
          · rename_i accepted
            simp only [not_or,not_not] at accepted
            split at passed
            · cases passed
            · rename_i status moved
              rw [accepted.2] at moved
              cases passed
              exact ⟨accepted.2,moved,row,rfl,(toEntity_status read).symm.trans accepted.2⟩

theorem stored_of_scoped (keyed : Tables.Keyed Payment.id books.payments)
    (found : books.payments.find? (scopedWhere id tenantId) = some row) : storedStatus id books = some row.status := by
  obtain ⟨member,its⟩ := scoped_found found
  rw [storedStatus,← its,Tables.lookup_of_member keyed member]
  rfl

theorem lockRow_keeps (id : String) {db db' : Database} (locked : lockRow locks db caller found = some db') :
    db'.committed = db.committed ∧ db'.writes = db.writes ∧
      (∀ other, other ≠ caller → Holds db other id → Holds db' other id) ∧
      (locks = true → ∀ row, found = some row → Holds db' caller row.id) := by
  unfold lockRow at locked
  split at locked
  · rename_i row
    split at locked
    · obtain ⟨held,_,committed,writes⟩ := lock_holds locked
      refine ⟨committed,writes,?_,?_⟩
      · intro other apart before
        exact lock_others locked before apart
      · intro _ row same
        cases same
        exact held
    · rename_i unlocked_
      cases locked
      exact ⟨rfl,rfl,fun _ _ held => held,fun yes => absurd yes unlocked_⟩
  · cases locked
    exact ⟨rfl,rfl,fun _ _ held => held,fun _ row none_ => by cases none_⟩

theorem kept_read {s next : Locals} (kept : Kept deps id s) (live : s.calls caller = some call)
    (phase : call.phase = .reading) (moved : readStep deps id s caller call = some next) : Kept deps id next := by
  have silent : s.db.writes caller = [] := by
    have drafted := kept.drafted caller call live
    rw [phase] at drafted
    exact drafted
  have same : (viewed deps s caller).payments = s.db.committed.payments :=
    congrArg Books.payments (view_silent silent)
  unfold readStep at moved
  rw [same] at moved
  obtain ⟨db,locked,rfl⟩ := Option.map_eq_some_iff.mp moved
  obtain ⟨committed,writes,holds,takes⟩ := lockRow_keeps id locked
  cases judged : judge id call.input.event (findById deps.backend id call.input.tenantId s.db.committed.payments) with
  | error error => exact kept_failed_locked kept committed writes holds call error
  | ok verdict =>
      obtain ⟨before,after⟩ := verdict
      obtain ⟨pending,event,row,found,stored⟩ := judge_ok judged
      refine kept_moved kept committed rfl rfl ?_ (fun other _ => congrFun writes other) holds
      refine ⟨(congrFun writes caller).trans silent,pending,event,?_⟩
      intro locks
      refine ⟨?_,settled_pending kept.settled ?_⟩
      · have held := takes locks row found
        rw [(scoped_found found).2] at held
        exact held
      · rw [stored_of_scoped kept.keyed found,stored]

theorem update_reaches {rows : Storage.Rows} (done : (update backend now id patch tenantId rows).1 = .ok updated) :
    ∃ row, rows.find? (scopedWhere id tenantId) = some row := by
  unfold update at done
  split at done
  · cases done
  · split at done
    · exact ⟨_,by assumption⟩
    · cases done

theorem kept_update {s next : Locals} (kept : Kept deps id s) (live : s.calls caller = some call)
    (phase : call.phase = .updating before after) (allowed : StillPending deps id s (.update caller))
    (moved : updateStep deps id s caller call before after = some next) : Kept deps id next := by
  have drafted := kept.drafted caller call live
  rw [phase] at drafted
  obtain ⟨silent,pending,event,alone⟩ := drafted
  have fresh : s.commits = [] := by
    simp only [StillPending,stillPending,Bool.or_eq_true,beq_iff_eq] at allowed
    rcases allowed with locks | stored
    · exact (alone locks).2
    · exact settled_pending kept.settled stored
  have same : (viewed deps s caller).payments = s.db.committed.payments :=
    congrArg Books.payments (view_silent silent)
  unfold updateStep at moved
  rw [same] at moved
  obtain ⟨db,locked,rfl⟩ := Option.map_eq_some_iff.mp moved
  obtain ⟨committed,writes,holds,takes⟩ := lockRow_keeps id locked
  cases done : (update deps.backend s.idempotency.now id (statusPatch after) call.input.tenantId s.db.committed.payments).1 with
  | error error => exact kept_failed_locked kept committed writes holds call (.repository error)
  | ok updated =>
      obtain ⟨row,found⟩ := update_reaches done
      have held := takes rfl row found
      rw [(scoped_found found).2] at held
      refine kept_moved kept committed rfl rfl ?_ ?_ holds
      · refine ⟨pending,event,held,fresh,?_,s.idempotency.now,?_⟩
        · rw [show (s.onto caller call _ (write db caller _)).db.committed = s.db.committed from committed]
          exact List.any_eq_true.mpr ⟨row,(scoped_found found).1,List.find?_some found⟩
        · show Function.update db.writes caller (db.writes caller ++ [_]) caller = _
          rw [Function.update_self,writes,silent]
          rfl
      · intro other apart
        exact (Function.update_of_ne apart _ _).trans (congrFun writes other)

-- A statement that only writes, or only moves on.
theorem kept_written {s next : Locals} (kept : Kept deps id s) (db : next.db = write s.db caller change)
    (commits : next.commits = s.commits) (calls : next.calls = Function.update s.calls caller (some call))
    (drafted : Drafted deps id next caller call.input call.phase) : Kept deps id next := by
  refine kept_moved kept (by rw [db]; rfl) commits calls drafted ?_ ?_
  · intro other apart
    rw [db]
    exact Function.update_of_ne apart _ _
  · intro other _ held
    rw [db]
    exact held

theorem kept_went {s next : Locals} (kept : Kept deps id s) (db : next.db = s.db) (commits : next.commits = s.commits)
    (calls : next.calls = Function.update s.calls caller (some call))
    (drafted : Drafted deps id next caller call.input call.phase) : Kept deps id next := by
  refine kept_moved kept (by rw [db]) commits calls drafted ?_ ?_
  · intro other _
    rw [db]
  · intro other _ held
    rw [db]
    exact held

theorem write_own {db : Database} (written : db.writes caller = before) :
    (write db caller change).writes caller = before ++ [change] := by
  rw [← written]
  exact Function.update_self _ _ _

theorem calm_status : ¬ Renames (statusPatch status) := by
  rintro ⟨named | named,_⟩
  · obtain ⟨value,named⟩ := named
    cases named
  · obtain ⟨value,named⟩ := named
    cases named

theorem known_fresh (fresh : announcements id books = []) : known id input books.outbox = false := by
  rw [Bool.eq_false_iff]
  intro found
  obtain ⟨row,member,its⟩ := List.any_eq_true.mp found
  rw [Bool.and_eq_true,beq_iff_eq] at its
  have announces : announcesTransition id row = true := by
    unfold announcesTransition
    rw [its.1]
    cases input.event <;> simp
  have inside : row ∈ announcements id books := List.mem_filter.mpr ⟨member,announces⟩
  rw [fresh] at inside
  cases inside

theorem unannounced_view {s : Locals} (kept : Kept deps id s) (fresh : s.commits = [])
    (written : s.db.writes caller = [.payment id status tenantId now,.audit entry]) :
    known id input (viewed deps s caller).outbox = false := by
  have settled := kept.settled
  rw [fresh] at settled
  have same : (viewed deps s caller).outbox = s.db.committed.outbox := by
    unfold viewed view
    rw [written]
    rfl
  rw [same]
  exact known_fresh (settled_fresh settled).2.2

theorem update_rows {rows : Storage.Rows} (apart : ProvidersApart rows) :
    (update backend now id (statusPatch status) tenantId rows).2 =
      Tables.updateWhere (scopedWhere id tenantId) ((statusPatch status).toRow now) rows := by
  unfold update
  rw [updateRows_calm calm_status apart]
  dsimp only
  split <;> rfl

theorem update_stored {books : Books} (books' : Books) (keyed : Tables.Keyed Payment.id books.payments)
    (apart : ProvidersApart books.payments) (reaches : books.payments.any (scopedWhere id tenantId) = true)
    (after : books'.payments = (update backend now id (statusPatch status) tenantId books.payments).2) :
    Tables.Keyed Payment.id books'.payments ∧ ProvidersApart books'.payments ∧ storedStatus id books' = some status := by
  rw [update_rows apart] at after
  have keyed' : Tables.Keyed Payment.id books'.payments := by
    rw [after,Tables.Keyed,Tables.updateWhere_keys]
    · exact keyed
    · intro row
      rfl
  refine ⟨keyed',?_,?_⟩
  · rw [after]
    exact apart_update apart (kept_key calm_status now)
  · obtain ⟨row,member,scoped_⟩ := List.any_eq_true.mp reaches
    have its : row.id = id := by
      simp only [scopedWhere,Bool.and_eq_true,decide_eq_true_eq] at scoped_
      exact scoped_.1
    have updated : (statusPatch status).toRow now row ∈ books'.payments := by
      rw [after]
      exact Tables.mem_updateWhere_self member scoped_
    have found := Tables.lookup_of_member keyed' updated
    rw [show ((statusPatch status).toRow now row).id = id from its] at found
    rw [storedStatus,found]
    rfl

theorem transitions_appended (books : Books) (audits : books'.audits = books.audits ++ [auditLog id input before after]) :
    transitions id books' = transitions id books ++ [auditLog id input before after] := by
  have records : recordsTransition id (auditLog id input before after) = true := by
    unfold recordsTransition auditLog
    cases input.event <;> simp
  rw [transitions,audits,List.filter_append,List.filter_cons_of_pos records]
  rfl

theorem announcements_appended (books : Books)
    (outbox : books'.outbox = books.outbox ++ [Outbox.stage (newOutboxEvent id input status) rowId now]) :
    announcements id books' = announcements id books ++ [Outbox.stage (newOutboxEvent id input status) rowId now] := by
  have announces : announcesTransition id (Outbox.stage (newOutboxEvent id input status) rowId now) = true := by
    unfold announcesTransition Outbox.stage newOutboxEvent
    cases input.event <;> simp
  rw [announcements,outbox,List.filter_append,List.filter_cons_of_pos announces]
  rfl

theorem kept_commit {s next : Locals} (kept : Kept deps id s) (live : s.calls caller = some call)
    (phase : call.phase = .committing status updated)
    (db : next.db = commit (apply deps.backend) s.db caller) (commits : next.commits = s.commits ++ [⟨caller,call.input,status⟩])
    (calls : next.calls = Function.update s.calls caller (some {call with phase := ended}))
    (over_ : ∀ db : Locals, db.db.writes caller = [] → Drafted deps id db caller call.input ended) : Kept deps id next := by
  have drafted := kept.drafted caller call live
  rw [phase] at drafted
  obtain ⟨event,held,fresh,reaches,now,rowId,at_,written⟩ := drafted
  have settled := kept.settled
  rw [fresh] at settled
  obtain ⟨_,unaudited,unannounced⟩ := settled_fresh settled
  have seen : view (apply deps.backend) s.db caller =
      ⟨(update deps.backend now id (statusPatch status) call.input.tenantId s.db.committed.payments).2,
        s.db.committed.audits ++ [auditLog id call.input .pending status],
        s.db.committed.outbox ++ [Outbox.stage (newOutboxEvent id call.input status) rowId at_]⟩ := by
    unfold view
    rw [written]
    rfl
  have committed : next.db.committed = view (apply deps.backend) s.db caller := by rw [db]; rfl
  rw [seen] at committed
  obtain ⟨keyed,apart,stored⟩ := update_stored next.db.committed kept.keyed kept.apart reaches (by rw [committed])
  have mine : next.db.writes caller = [] := by
    rw [db]
    exact Function.update_self _ _ _
  refine ⟨keyed,apart,?_,?_,?_⟩
  · intro other absent
    rw [calls] at absent
    by_cases same : other = caller
    · rw [same]
      exact mine
    · rw [Function.update_of_ne same] at absent
      rw [db]
      exact (Function.update_of_ne same _ _).trans (kept.idle other absent)
  · intro other its live_
    rw [calls] at live_
    by_cases same : other = caller
    · subst same
      rw [Function.update_self,Option.some.injEq] at live_
      subst live_
      exact over_ next mine
    · rw [Function.update_of_ne same] at live_
      have before := kept.drafted other its live_
      have silent : s.db.writes other = next.db.writes other := by
        rw [db]
        exact (Function.update_of_ne same _ _).symm
      -- Nobody else holds the lock, so nobody else has written.
      have elsewhere : ¬ Holds s.db other id := fun held' => same (holds_alone held' held)
      cases now_ : its.phase with
      | requested | reading | returned | thrown =>
          rw [now_] at before
          exact silent.symm.trans before
      | updating status_ next_ =>
          rw [now_] at before
          obtain ⟨none_,pending,event',alone⟩ := before
          exact ⟨silent.symm.trans none_,pending,event',fun locks => absurd (alone locks).1 elsewhere⟩
      | auditing =>
          rw [now_] at before
          exact absurd before.2.2.1 elsewhere
      | finding | inserting | committing =>
          rw [now_] at before
          exact absurd before.2.1 elsewhere
  · refine .inr ⟨⟨caller,call.input,status⟩,rowId,at_,by rw [commits,fresh]; rfl,event,stored,?_,?_⟩
    · rw [transitions_appended s.db.committed (by rw [committed]),unaudited]
      rfl
    · rw [announcements_appended s.db.committed (by rw [committed]),unannounced]
      rfl

theorem kept_statement {s next : Locals} (kept : Kept deps id s) (live : s.calls caller = some call)
    (allowed : StillPending deps id s action) (own : action.caller = some caller)
    (moved : statement deps id s caller call action = some next) : Kept deps id next := by
  have drafted := kept.drafted caller call live
  cases action with
  | read =>
      simp only [statement] at moved
      split at moved
      · exact kept_read kept live (by assumption) moved
      · cases moved
  | update other =>
      cases own
      simp only [statement] at moved
      split at moved
      · exact kept_update kept live (by assumption) allowed moved
      · cases moved
  | audit =>
      simp only [statement] at moved
      split at moved
      · rename_i before after updated phase
        cases moved
        rw [phase] at drafted
        obtain ⟨pending,event,held,fresh,reaches,now,written⟩ := drafted
        rw [pending]
        exact kept_written kept rfl rfl rfl ⟨event,held,fresh,reaches,now,write_own written⟩
      · cases moved
  | find =>
      simp only [statement] at moved
      split at moved
      · rename_i status updated phase
        rw [phase] at drafted
        obtain ⟨event,held,fresh,reaches,now,written⟩ := drafted
        rw [unannounced_view kept fresh written] at moved
        cases moved
        exact kept_went kept rfl rfl rfl ⟨event,held,fresh,reaches,now,written⟩
      · cases moved
  | insert other rowId =>
      simp only [statement] at moved
      split at moved
      · rename_i status updated phase
        rw [phase] at drafted
        obtain ⟨event,held,fresh,reaches,now,written⟩ := drafted
        rw [unannounced_view kept fresh written] at moved
        cases moved
        exact kept_written kept rfl rfl rfl ⟨event,held,fresh,reaches,now,rowId,_,write_own written⟩
      · cases moved
  | commit other acknowledged =>
      simp only [statement] at moved
      split at moved
      · rename_i status updated phase
        cases moved
        refine kept_commit kept live phase rfl rfl rfl ?_
        intro after silent
        cases acknowledged <;> exact silent
      · cases moved
  | abort =>
      simp only [statement] at moved
      split at moved
      · cases moved
      · cases moved
      · cases moved
      · cases moved
        exact kept_failed kept call .storage
  | request | execute | store | compute | begin | settle | tick => cases moved

-- The idempotency service touches neither the payment nor what records it.
theorem kept_idempotency {s : Locals} (kept : Kept deps id s)
    (moved : Option.map s.withIdempotency idempotency = some next) : Kept deps id next := by
  obtain ⟨idempotency,_,rfl⟩ := Option.map_eq_some_iff.mp moved
  refine ⟨kept.keyed,kept.apart,kept.idle,?_,kept.settled⟩
  intro caller call live
  exact drafted_frame (kept.drafted caller call live) rfl rfl (fun held => held) rfl

theorem kept_around {s next : Locals} (kept : Kept deps id s) (live : s.calls caller = some call)
    (moved : around deps s caller call action = some next) : Kept deps id next := by
  have drafted := kept.drafted caller call live
  cases action with
  | execute =>
      simp only [around] at moved
      split at moved
      · exact kept_idempotency kept moved
      · cases moved
  | store | compute => exact kept_idempotency kept moved
  | begin =>
      simp only [around] at moved
      split at moved
      · rename_i phase
        rw [phase] at drafted
        split at moved
        · cases moved
          exact kept_went kept rfl rfl rfl drafted
        · cases moved
      · cases moved
  | settle =>
      simp only [around] at moved
      split at moved
      · exact kept_idempotency kept moved
      · exact kept_idempotency kept moved
      · cases moved
  | request | read | update | audit | find | insert | commit | abort | tick => cases moved

theorem advance_cases {s next : Locals} (moved : advance deps id s action = some next) :
    (∃ caller input, s.calls caller = none ∧ next = s.put caller ⟨input,.requested⟩) ∨
      (∃ idempotency, Option.map s.withIdempotency idempotency = some next) ∨
      ∃ caller call, action.caller = some caller ∧ s.calls caller = some call ∧
        (statement deps id s caller call action = some next ∨ around deps s caller call action = some next) := by
  unfold advance at moved
  split at moved
  · split at moved
    · cases moved
      exact .inl ⟨_,_,by assumption,rfl⟩
    · cases moved
  · exact .inr (.inl ⟨_,moved⟩)
  · obtain ⟨caller,own,rest⟩ := Option.bind_eq_some_iff.mp moved
    obtain ⟨call,live,step⟩ := Option.bind_eq_some_iff.mp rest
    refine .inr (.inr ⟨caller,call,own,live,?_⟩)
    cases did : statement deps id s caller call action with
    | some after =>
        rw [did] at step
        exact .inl step
    | none =>
        rw [did] at step
        exact .inr step

theorem kept_preserved {s next : Locals} (kept : Kept deps id s) (allowed : StillPending deps id s action)
    (moved : advance deps id s action = some next) : Kept deps id next := by
  rcases advance_cases moved with ⟨caller,input,absent,rfl⟩ | ⟨idempotency,same⟩ | ⟨caller,call,own,live,did | did⟩
  · exact kept_went kept rfl rfl rfl (kept.idle caller absent)
  · exact kept_idempotency kept same
  · exact kept_statement kept live allowed own did
  · exact kept_around kept live did

theorem reached_kept (path : Reached (locals deps id) (StillPending deps id) s) : Kept deps id s := by
  refine path.invariant (Kept deps id) ?_ ?_
  · rintro u ⟨books,rows,now,open_,rfl⟩
    refine ⟨open_.keyed,open_.apart,fun _ _ => rfl,?_,.inl ⟨rfl,?_,open_.unaudited,open_.unannounced⟩⟩
    · intro caller call live
      cases live
    obtain ⟨row,member,its,_,pending⟩ := open_.pending
    show (Tables.lookup Payment.id id books.payments).map (·.status) = some .pending
    rw [← its,Tables.lookup_of_member open_.keyed member]
    exact congrArg some pending
  · intro u action next _ kept allowed moved
    exact kept_preserved kept allowed moved

theorem statement_commits {s next : Locals} (moved : statement deps id s caller call action = some next) :
    s.commits <+: next.commits := by
  have failed : ∀ (s : Locals) caller call error, (s.fail caller call error).commits = s.commits := fun _ _ _ _ => rfl
  cases action with
  | read =>
      simp only [statement,readStep] at moved
      split at moved
      · obtain ⟨db,_,rfl⟩ := Option.map_eq_some_iff.mp moved
        split <;> exact List.prefix_rfl
      · cases moved
  | update =>
      simp only [statement,updateStep] at moved
      split at moved
      · obtain ⟨db,_,rfl⟩ := Option.map_eq_some_iff.mp moved
        split <;> exact List.prefix_rfl
      · cases moved
  | commit =>
      simp only [statement] at moved
      split at moved
      · cases moved
        exact List.prefix_append _ _
      · cases moved
  | audit | find | insert | abort =>
      simp only [statement] at moved
      repeat' split at moved
      all_goals cases moved
      all_goals exact List.prefix_rfl
  | request | execute | store | compute | begin | settle | tick => cases moved

theorem around_commits {s next : Locals} (moved : around deps s caller call action = some next) :
    next.commits = s.commits := by
  have service : ∀ idempotency, Option.map s.withIdempotency idempotency = some next → next.commits = s.commits := by
    intro idempotency same
    obtain ⟨_,_,rfl⟩ := Option.map_eq_some_iff.mp same
    rfl
  cases action with
  | execute | settle =>
      simp only [around] at moved
      split at moved
      all_goals first | exact service _ moved | cases moved
  | store | compute => exact service _ moved
  | begin =>
      simp only [around] at moved
      repeat' split at moved
      all_goals cases moved
      rfl
  | request | read | update | audit | find | insert | commit | abort | tick => cases moved

theorem path_commits (path : Path (locals deps id) allowed s t) : s.commits <+: t.commits := by
  refine path.invariant (fun u => s.commits <+: u.commits) List.prefix_rfl ?_
  intro u action next before _ moved
  refine before.trans ?_
  rcases advance_cases moved with ⟨caller,input,_,rfl⟩ | ⟨idempotency,same⟩ | ⟨caller,call,_,_,did | did⟩
  · exact List.prefix_rfl
  · obtain ⟨_,_,rfl⟩ := Option.map_eq_some_iff.mp same
    exact List.prefix_rfl
  · exact statement_commits did
  · exact around_commits did ▸ List.prefix_rfl

theorem settled_few (settled : SettledOnce id commits books) : commits.length ≤ 1 := by
  rcases settled with ⟨nothing,_⟩ | ⟨commit,_,_,one,_⟩
  · rw [nothing]
    exact Nat.zero_le _
  · rw [one]
    exact Nat.le_refl _

-- One call commits at most; its status and its records are what is stored, and stay.
theorem transition_once (path : Reached (locals deps id) (StillPending deps id) s) :
    SettledOnce id s.commits s.db.committed ∧ ∀ commit, s.commits = [commit] →
      ∀ t, Path (locals deps id) (StillPending deps id) s t →
        t.commits = [commit] ∧ storedStatus id t.db.committed = some commit.status := by
  refine ⟨(reached_kept path).settled,?_⟩
  intro commit one t more
  have later := (reached_kept (path.later more)).settled
  have same : t.commits = [commit] := by
    have grown := path_commits more
    rw [one] at grown
    exact (grown.eq_of_length_le (settled_few later)).symm
  refine ⟨same,?_⟩
  rcases later with ⟨nothing,_⟩ | ⟨other,_,_,its,_,stored,_⟩
  · rw [nothing] at same
    cases same
  · rw [its,List.singleton_inj] at same
    rw [← same]
    exact stored

section Schedules

def plainBackend : Backend := ⟨fun text => text,fun text => text,some⟩

def onDriver (driver : StorageDriver) : Deps := ⟨driver,plainBackend,none,fun _ => 0⟩

def pendingCash : Payment :=
  ⟨"p1",none,some "c1",none,none,.pending,"usd",500,0,0,none,none,none,none,some .cash,some 0,none,none,0,0⟩

def pendingBooks : Books := ⟨[pendingCash],[],[]⟩

def byHand (event : LocalEvent) : TransitionInput := ⟨none,event,none,none,none⟩

theorem pending_open : Open "p1" pendingBooks := by
  refine ⟨by decide,by decide,⟨pendingCash,List.mem_singleton_self _,rfl,rfl,rfl⟩,rfl,rfl⟩

theorem pending_initial (driver : StorageDriver) :
    (locals (onDriver driver) "p1").initial (opened pendingBooks (fun _ => none) 0) :=
  ⟨pendingBooks,fun _ => none,0,pending_open,rfl⟩

-- The statements of one call from its read on.
def rest (caller : Nat) (rowId : String) : List Action :=
  [.update caller,.audit caller,.find caller,.insert caller rowId,.commit caller true]

def reads : List Action :=
  [.request 0 (byHand .succeed),.request 1 (byHand .cancel),.begin 0,.begin 1,.read 0]

-- With a row lock the second read waits for the first commit, and is refused.
theorem transition_once_locked :
    ∃ s : Locals, s.commits = [⟨0,byHand .succeed,.succeeded⟩] ∧ storedStatus "p1" s.db.committed = some .succeeded ∧
      (transitions "p1" s.db.committed).length = 1 ∧ (announcements "p1" s.db.committed).length = 1 := by
  have passed : (run (locals (onDriver (.knex "postgresql")) "p1") (StillPending (onDriver (.knex "postgresql")) "p1")
      (opened pendingBooks (fun _ => none) 0) (reads ++ rest 0 "o0" ++ [.read 1])).any (fun s =>
        s.commits == [⟨0,byHand .succeed,.succeeded⟩]) = true := by decide +kernel
  obtain ⟨s,path,found⟩ := run_reaches (pending_initial _) passed
  rw [beq_iff_eq] at found
  obtain ⟨settled,stays⟩ := transition_once path
  refine ⟨s,found,(stays _ found s .refl).2,?_⟩
  rcases settled with ⟨nothing,_⟩ | ⟨commit,rowId,now,_,_,_,audited,announced⟩
  · rw [found] at nothing
    cases nothing
  · rw [audited,announced]
    exact ⟨rfl,rfl⟩

-- Without one both calls read pending, and both commit.
theorem transition_twice :
    ∃ s, Reached (locals (onDriver .prisma) "p1") anyStep s ∧ ¬ SettledOnce "p1" s.commits s.db.committed ∧
      s.commits = [⟨0,byHand .succeed,.succeeded⟩,⟨1,byHand .cancel,.canceled⟩] ∧
      storedStatus "p1" s.db.committed = some .canceled ∧
      (transitions "p1" s.db.committed).length = 2 ∧ (announcements "p1" s.db.committed).length = 2 := by
  have passed : (run (locals (onDriver .prisma) "p1") anyStep (opened pendingBooks (fun _ => none) 0)
      (reads ++ [.read 1] ++ rest 0 "o0" ++ rest 1 "o1")).any (fun s =>
        s.commits == [⟨0,byHand .succeed,.succeeded⟩,⟨1,byHand .cancel,.canceled⟩] &&
          storedStatus "p1" s.db.committed == some .canceled && (transitions "p1" s.db.committed).length == 2 &&
          (announcements "p1" s.db.committed).length == 2) = true := by decide +kernel
  obtain ⟨s,path,found⟩ := run_reaches (pending_initial _) passed
  simp only [Bool.and_eq_true,beq_iff_eq] at found
  obtain ⟨⟨⟨both_,stored⟩,audited⟩,announced⟩ := found
  refine ⟨s,path,?_,both_,stored,audited,announced⟩
  intro settled
  have few := settled_few settled
  rw [both_] at few
  exact absurd few (by decide)

end Schedules

end Payable.LocalPayments
