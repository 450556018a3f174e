import Payable.Foundation.Checked
import Payable.Invoices.CanonicalInvoices

namespace Payable.Invoices
open Runs
open Storage (TenantId Backend RepositoryError)

variable {deps : Deps} {id : String}

def InvoiceStatus.final : InvoiceStatus → Bool
  | .paid | .void => true
  | _ => false

-- How far an invoice has come.
def InvoiceStatus.rank : InvoiceStatus → Nat
  | .draft => 0
  | .open_ => 1
  | .uncollectible => 2
  | .paid | .void => 3

-- Another call has ended the invoice with another status, or has gone past open.
def overtaken (stored status : InvoiceStatus) : Bool :=
  stored != status && (stored.final || stored == .uncollectible && status == .open_)

def inTime (id : String) (s : State) : Action → Bool
  | .update caller _ =>
    match s.calls caller,statusOf id s.rows with
    | some ⟨_,_,.updating _ status⟩,some stored => !overtaken stored status
    | _,_ => true
  | _ => true

def InTime (id : String) (s : State) (action : Action) : Prop := inTime id s action = true

instance (s : State) (action : Action) : Decidable (InTime id s action) := inferInstanceAs (Decidable (_ = _))

-- A write of the status already stored changes nothing.
def Change.Legal (change : Change) : Prop := change.before = change.after ∨ Allows change.before change.after

theorem allows_rank (allowed : Allows before after) : before.rank < after.rank := by
  obtain ⟨event,moved⟩ := allowed
  cases before <;> cases event <;> cases moved <;> decide

-- The write is legal exactly when nobody has overtaken it.
theorem legal_iff (allowed : Allows found status) (later : found.rank ≤ stored.rank) :
    (stored = status ∨ Allows stored status) ↔ overtaken stored status = false := by
  obtain ⟨event,moved⟩ := allowed
  constructor
  · rintro (rfl | ⟨event',moved'⟩)
    · simp [overtaken]
    · cases stored <;> cases event' <;> cases moved' <;> rfl
  · intro intime
    by_cases same : stored = status
    · exact .inl same
    · refine .inr ⟨event,?_⟩
      cases found <;> cases event <;> cases moved <;> cases stored <;>
        first | rfl | exact absurd intime (by decide) | exact absurd later (by decide) | exact absurd rfl same

theorem final_kept (final : stored.final = true) (intime : overtaken stored status = false) : status = stored := by
  cases stored with
  | paid | void => cases status <;> first | rfl | cases intime
  | draft | open_ | uncollectible => cases final

theorem judge_ok (passed : judge id target found = .ok (before,after)) :
    Allows before after ∧ ∃ invoice, found = .ok (some invoice) ∧ invoice.status = before := by
  unfold judge at passed
  split at passed
  · cases passed
  · cases passed
  · rename_i invoice
    split at passed
    · cases passed
    · rename_i event named
      split at passed
      · cases passed
      · rename_i status moved
        cases passed
        exact ⟨⟨event,moved⟩,invoice,rfl,rfl⟩

theorem toEntity_status (read : toEntity backend row = .ok invoice) : invoice.status = row.status := by
  unfold toEntity at read
  split at read
  · cases read
  · obtain ⟨total,_,rest⟩ := Checked.bind_ok.mp read
    obtain ⟨paid,_,rest⟩ := Checked.bind_ok.mp rest
    obtain ⟨due,_,rest⟩ := Checked.bind_ok.mp rest
    cases rest
    rfl

theorem scoped_id (scoped_ : scopedWhere driver id tenantId row = true) : row.id = id := by
  simp only [scopedWhere,Bool.and_eq_true,decide_eq_true_eq] at scoped_
  exact scoped_.1

theorem stored_of_scoped (keyed : Tables.Keyed Invoice.id rows)
    (found : rows.find? (scopedWhere driver id tenantId) = some row) : statusOf id rows = some row.status := by
  have its := scoped_id (List.find?_some found)
  rw [statusOf,← its,Tables.lookup_of_member keyed (List.mem_of_find?_eq_some found)]
  rfl

theorem findById_status (keyed : Tables.Keyed Invoice.id rows)
    (read : findById driver backend id tenantId rows = .ok (some invoice)) : statusOf id rows = some invoice.status := by
  unfold findById at read
  cases found : rows.find? (scopedWhere driver id tenantId) with
  | none => rw [found] at read; cases read
  | some row =>
      rw [found] at read
      cases entity : toEntity backend row with
      | error error => simp [entity,Except.map] at read
      | ok invoice' =>
          simp only [entity,Except.map,Except.ok.injEq,Option.some.injEq] at read
          rw [← read,toEntity_status entity]
          exact stored_of_scoped keyed found

theorem keyed_updateStatus (driver : Driver) (now : Int) (id : String) (status : InvoiceStatus) (tenantId : Option TenantId)
    (keyed : Tables.Keyed Invoice.id rows) :
    Tables.Keyed Invoice.id (updateStatus driver now id status tenantId rows) := by
  unfold Tables.Keyed updateStatus
  rw [Tables.updateWhere_keys]
  · exact keyed
  · intro row
    rfl

-- An update misses the invoice, or its status is the stored one from then on.
theorem updateStatus_cases (driver : Driver) (now : Int) (status : InvoiceStatus) (tenantId : Option TenantId)
    (keyed : Tables.Keyed Invoice.id rows) (caller : Nat) :
    changed driver id tenantId caller status rows = [] ∧ updateStatus driver now id status tenantId rows = rows ∨
      ∃ stored, statusOf id rows = some stored ∧
        statusOf id (updateStatus driver now id status tenantId rows) = some status ∧
        changed driver id tenantId caller status rows = [⟨caller,stored,status⟩] := by
  cases found : rows.find? (scopedWhere driver id tenantId) with
  | none =>
      refine .inl ⟨by rw [changed,found],?_⟩
      rw [updateStatus,Tables.updateWhere,Tables.map_unchanged]
      intro row member
      have missed := List.find?_eq_none.mp found row member
      rw [if_neg missed]
  | some row =>
      refine .inr ⟨row.status,stored_of_scoped keyed found,?_,by rw [changed,found]⟩
      have member := List.mem_of_find?_eq_some found
      have scoped_ := List.find?_some found
      have updated : patchStatus status now row ∈ updateStatus driver now id status tenantId rows :=
        Tables.mem_updateWhere_self member scoped_
      have its : (patchStatus status now row).id = id := scoped_id scoped_
      have looked := Tables.lookup_of_member (keyed_updateStatus driver now id status tenantId keyed) updated
      rw [its] at looked
      rw [statusOf,looked]
      rfl

-- What a call has read is behind what is stored, and its write is legal from there.
def Behind (id : String) (rows : Rows) : Phase → Prop
  | .updating found status => Allows found status ∧ ∀ stored, statusOf id rows = some stored → found.rank ≤ stored.rank
  | _ => True

structure Orderly (id : String) (s : State) : Prop where
  keyed : Tables.Keyed Invoice.id s.rows
  calls : ∀ caller call, s.calls caller = some call → Behind id s.rows call.phase
  legal : ∀ change ∈ s.changes, change.Legal

theorem behind_later {rows rows' : Rows} (behind : Behind id rows phase)
    (later : ∀ stored, statusOf id rows' = some stored → ∃ before, statusOf id rows = some before ∧ before.rank ≤ stored.rank) :
    Behind id rows' phase := by
  cases phase with
  | updating found status =>
      obtain ⟨allowed,before⟩ := behind
      refine ⟨allowed,?_⟩
      intro stored now
      obtain ⟨earlier,there,less⟩ := later stored now
      exact Nat.le_trans (before earlier there) less
  | reading | loading | returned | thrown => trivial

theorem orderly_entered {s : State} {call : Call} (orderly : Orderly id s) (behind : Behind id s.rows phase) :
    Orderly id (s.enter caller call phase) := by
  refine ⟨orderly.keyed,?_,orderly.legal⟩
  intro other its live
  by_cases mine : other = caller
  · subst mine
    rw [show (s.enter other call phase).calls other = some {call with phase := phase} from Function.update_self _ _ _,
      Option.some.injEq] at live
    subst live
    exact behind
  · rw [show (s.enter caller call phase).calls other = s.calls other from Function.update_of_ne mine _ _] at live
    exact orderly.calls other its live

theorem orderly_read {s : State} (orderly : Orderly id s)
    (judged : judge id target (findById driver backend id tenantId s.rows) = .ok (before,after)) :
    Orderly id (s.enter caller call (.updating before after)) := by
  obtain ⟨allowed,invoice,read,its⟩ := judge_ok judged
  refine orderly_entered orderly ⟨allowed,?_⟩
  intro stored there
  rw [findById_status orderly.keyed read,its,Option.some.injEq] at there
  rw [there]

-- The write of a call that nobody has overtaken.
theorem orderly_updated {s : State} (orderly : Orderly id s) (live : s.calls caller = some call)
    (phase : call.phase = .updating found status)
    (intime : ∀ stored, statusOf id s.rows = some stored → overtaken stored status = false)
    (quiet : ∀ rows, Behind id rows after) :
    Orderly id {s.enter caller call after with
      rows := updateStatus deps.driver s.now id status call.tenantId s.rows
      changes := s.changes ++ changed deps.driver id call.tenantId caller status s.rows} := by
  have behind := orderly.calls caller call live
  rw [phase] at behind
  obtain ⟨allowed,before⟩ := behind
  rcases updateStatus_cases deps.driver s.now status call.tenantId orderly.keyed caller with ⟨none_,same⟩ | ⟨stored,there,after_,one⟩
  · rw [none_,same,List.append_nil]
    exact orderly_entered orderly (quiet _)
  · have legal := (legal_iff allowed (before stored there)).mpr (intime stored there)
    refine ⟨keyed_updateStatus _ _ _ _ _ orderly.keyed,?_,?_⟩
    · intro other its live_
      have later : Behind id s.rows its.phase := (orderly_entered orderly (quiet s.rows)).calls other its live_
      refine behind_later later ?_
      intro stored' now_
      rw [after_,Option.some.injEq] at now_
      refine ⟨stored,there,?_⟩
      rw [← now_]
      rcases legal with rfl | allowed'
      · exact Nat.le_refl _
      · exact Nat.le_of_lt (allows_rank allowed')
    · intro change member
      rcases List.mem_append.mp member with old | new
      · exact orderly.legal change old
      · rw [one] at new
        rw [List.mem_singleton.mp new]
        exact legal

theorem given_quiet (read : Except RepositoryError (Option Invoice)) (rows : Rows) : Behind id rows (given read) := by
  unfold given
  split <;> trivial

theorem inTime_updating {s : State} (intime : InTime id s (.update caller acknowledged)) (live : s.calls caller = some call)
    (phase : call.phase = .updating found status) (there : statusOf id s.rows = some stored) :
    overtaken stored status = false := by
  obtain ⟨tenantId,target,_⟩ := call
  cases phase
  simpa [InTime,inTime,live,there] using intime

theorem orderly_preserved {s next : State} (orderly : Orderly id s) (intime : InTime id s action)
    (moved : advance deps id s action = some next) : Orderly id next := by
  cases action with
  | transition caller tenantId target =>
      simp only [advance] at moved
      split at moved <;> cases moved
      exact @orderly_entered id .reading caller s ⟨tenantId,target,.reading⟩ orderly trivial
  | read caller =>
      obtain ⟨call,live,step⟩ := Option.bind_eq_some_iff.mp moved
      split at step
      · split at step
        · cases step
          exact orderly_entered orderly trivial
        · rename_i judged
          cases step
          exact orderly_read orderly judged
      · cases step
  | update caller acknowledged =>
      obtain ⟨call,live,step⟩ := Option.bind_eq_some_iff.mp moved
      split at step
      · rename_i found status phase
        cases step
        refine orderly_updated orderly live phase (fun stored there => inTime_updating intime live phase there) ?_
        intro rows
        split
        · trivial
        · split
          · exact given_quiet _ rows
          · trivial
      · cases step
  | load caller =>
      obtain ⟨call,live,step⟩ := Option.bind_eq_some_iff.mp moved
      split at step
      · cases step
        exact orderly_entered orderly (given_quiet _ s.rows)
      · cases step
  | abort caller =>
      obtain ⟨call,live,step⟩ := Option.bind_eq_some_iff.mp moved
      split at step
      · cases step
      · cases step
      · cases step
        exact orderly_entered orderly trivial
  | tick elapsed =>
      cases moved
      exact ⟨orderly.keyed,orderly.calls,orderly.legal⟩

-- A paid or void invoice is left as it is.
theorem final_step {s next : State} (orderly : Orderly id s) (final : statusOf id s.rows = some status)
    (ended : status.final = true) (intime : InTime id s action) (moved : advance deps id s action = some next) :
    statusOf id next.rows = some status := by
  cases action with
  | update caller acknowledged =>
      obtain ⟨call,live,step⟩ := Option.bind_eq_some_iff.mp moved
      split at step
      · rename_i found target phase
        cases step
        rcases updateStatus_cases deps.driver s.now target call.tenantId orderly.keyed caller with ⟨_,same⟩ | ⟨stored,there,after,_⟩
        · show statusOf id (updateStatus _ _ _ _ _ _) = _
          rw [same]
          exact final
        · show statusOf id (updateStatus _ _ _ _ _ _) = _
          rw [there,Option.some.injEq] at final
          subst final
          rw [after,final_kept ended (inTime_updating intime live phase there)]
      · cases step
  | transition caller tenantId target =>
      simp only [advance] at moved
      split at moved <;> cases moved
      exact final
  | read caller =>
      obtain ⟨call,live,step⟩ := Option.bind_eq_some_iff.mp moved
      split at step
      · split at step
        all_goals cases step; exact final
      · cases step
  | load caller =>
      obtain ⟨call,live,step⟩ := Option.bind_eq_some_iff.mp moved
      split at step
      · cases step
        exact final
      · cases step
  | abort caller =>
      obtain ⟨call,live,step⟩ := Option.bind_eq_some_iff.mp moved
      split at step
      · cases step
      · cases step
      · cases step
        exact final
  | tick elapsed =>
      cases moved
      exact final

theorem reached_orderly (path : Reached (invoices deps id) (InTime id) s) : Orderly id s := by
  refine path.invariant (Orderly id) ?_ ?_
  · rintro u ⟨rows,now,keyed,rfl⟩
    refine ⟨keyed,?_,?_⟩
    · intro caller call live
      cases live
    · intro change member
      cases member
  · intro u action next _ orderly intime moved
    exact orderly_preserved orderly intime moved

-- Every change of a run is legal, and a paid or void invoice stays so.
theorem changes_legal (path : Reached (invoices deps id) (InTime id) s) :
    (∀ change ∈ s.changes, change.Legal) ∧
      ∀ status, statusOf id s.rows = some status → status.final = true →
        ∀ t, Path (invoices deps id) (InTime id) s t → statusOf id t.rows = some status := by
  refine ⟨(reached_orderly path).legal,?_⟩
  intro status stored ended t more
  have kept : Orderly id t ∧ statusOf id t.rows = some status := by
    refine more.invariant (fun u => Orderly id u ∧ statusOf id u.rows = some status) ⟨reached_orderly path,stored⟩ ?_
    intro u action next before intime moved
    exact ⟨orderly_preserved before.1 intime moved,final_step before.1 before.2 ended intime moved⟩
  exact kept.2

section Schedules

def onDriver (driver : Driver) : Deps := ⟨driver,⟨fun text => text,fun text => text,some⟩⟩

def openInvoice : Invoice :=
  ⟨"i1",none,"","c1",none,.open_,"usd",500,0,500,none,none,none,0,0⟩

theorem openInvoice_initial (driver : Driver) : (invoices (onDriver driver) "i1").initial (opened [openInvoice] 0) :=
  ⟨[openInvoice],0,by decide,rfl⟩

-- Both read the open invoice, and pay writes over uncollectible; void reads after it.
def overlapping : List Action :=
  [.transition 0 none .paid,.transition 1 none .uncollectible,.read 0,.read 1,.update 1 true,.update 0 true,
    .transition 2 none .void,.read 2]

def both_ : List Action :=
  [.transition 0 none .paid,.transition 1 none .void,.read 0,.read 1,.update 0 true,.update 1 true]

theorem changes_legal_paid :
    ∃ s : State, s.changes = [⟨1,.open_,.uncollectible⟩,⟨0,.uncollectible,.paid⟩] ∧ (∀ change ∈ s.changes, change.Legal) ∧
      ∀ t, Path (invoices (onDriver .knex) "i1") (InTime "i1") s t → statusOf "i1" t.rows = some .paid := by
  have passed : (run (invoices (onDriver .knex) "i1") (InTime "i1") (opened [openInvoice] 0) overlapping).any (fun s =>
      s.changes == [⟨1,.open_,.uncollectible⟩,⟨0,.uncollectible,.paid⟩] && statusOf "i1" s.rows == some .paid) = true := by decide +kernel
  obtain ⟨s,path,found⟩ := run_reaches (openInvoice_initial .knex) passed
  simp only [Bool.and_eq_true,beq_iff_eq] at found
  obtain ⟨legal,stays⟩ := changes_legal path
  exact ⟨s,found.1,legal,stays .paid found.2 rfl⟩

theorem paid_voided :
    ∃ s, Reached (invoices (onDriver .knex) "i1") anyStep s ∧ s.changes = [⟨0,.open_,.paid⟩,⟨1,.paid,.void⟩] ∧
      statusOf "i1" s.rows = some .void ∧ ¬ ∀ change ∈ s.changes, change.Legal := by
  have passed : (run (invoices (onDriver .knex) "i1") anyStep (opened [openInvoice] 0) both_).any (fun s =>
      s.changes == [⟨0,.open_,.paid⟩,⟨1,.paid,.void⟩] && statusOf "i1" s.rows == some .void) = true := by decide +kernel
  obtain ⟨s,path,found⟩ := run_reaches (openInvoice_initial .knex) passed
  simp only [Bool.and_eq_true,beq_iff_eq] at found
  refine ⟨s,path,found.1,found.2,?_⟩
  intro legal
  rw [found.1] at legal
  rcases legal ⟨1,.paid,.void⟩ (by simp) with same | ⟨event,moved⟩
  · cases same
  · cases event <;> cases moved

end Schedules

end Payable.Invoices
