import Payable.Redirects.Correlations

namespace Payable.Redirects
open Idempotency (Fault)
open Runs Tables

def ended : Phase → Prop
  | .recorded | .missing | .alreadyProcessed | .marked | .thrown _ => True
  | _ => False

-- Everything one repository call can do.
inductive Turn (now : Int) (rows : Rows) : Fault → Phase → Rows → Phase → Prop where
  | found (alone : ∀ session ∈ findSessionsByReference sisp request.merchantRef rows, session = request.merchantSession) :
      Turn now rows .none (.finding tenantId request) rows
        (.inserting (newCorrelation tenantId request now) (findSessionsByReference sisp request.merchantRef rows))
  | inserted (arrives : fault ≠ .lost) (ends : ended next) : Turn now rows fault (.inserting input sessions) (record input rows) next
  | took : Turn now rows .none (.claiming key claimedAt) (claimUpdate key claimedAt rows).2
      (.reading key (claimUpdate key claimedAt rows).1)
  | tookUnheard (ends : ended next) : Turn now rows fault (.claiming key claimedAt) (claimUpdate key claimedAt rows).2 next
  | claimed (there : find key rows = some row) (alone : affected = 1) :
      Turn now rows .none (.reading key affected) rows (.claimed key row.expected)
  | processed (ends : ended next) : Turn now rows fault (.marking key outcome) (markProcessed key outcome rows) next
  | over_ (lost : arriving fault phase = none) (ends : ended next) : Turn now rows fault phase rows next

theorem settleClaim_ended (given : ¬ (∃ row, find key rows = some row ∧ affected = 1)) :
    ended (settleClaim key affected (find key rows)) := by
  unfold settleClaim
  split
  · rename_i row there
    split
    · rename_i alone; exact absurd ⟨row,there,alone⟩ given
    · trivial
  · split <;> trivial

theorem storeStep_turn (did : storeStep now rows fault phase = some (rows',phase')) : Turn now rows fault phase rows' phase' := by
  cases phase with
  | finding tenantId request =>
      cases did
      split
      · exact .over_ rfl trivial
      · rename_i quiet
        have quiet : fault = .none := Classical.not_not.mp quiet
        subst quiet
        split
        · exact .over_ rfl trivial
        · rename_i alone
          exact .found (by simpa using alone)
  | inserting input sessions =>
      cases did
      cases fault with
      | none => exact .inserted (by simp) trivial
      | lost => exact .over_ rfl trivial
      | unacknowledged => exact .inserted (by simp) trivial
  | claiming key claimedAt =>
      cases did
      cases fault with
      | none => exact .took
      | lost => exact .over_ rfl trivial
      | unacknowledged => exact .tookUnheard trivial
  | reading key affected =>
      cases did
      cases fault with
      | none =>
          by_cases given : ∃ row, find key rows = some row ∧ affected = 1
          · obtain ⟨row,there,alone⟩ := given
            have settles : settleClaim key affected (find key rows) = .claimed key row.expected := by
              rw [there,settleClaim,if_pos alone]
            rw [if_pos rfl,settles]
            exact .claimed there alone
          · exact .over_ rfl (settleClaim_ended given)
      | lost | unacknowledged => exact .over_ rfl trivial
  | marking key outcome =>
      cases did
      cases fault with
      | none => exact .processed trivial
      | lost => exact .over_ rfl trivial
      | unacknowledged => exact .processed trivial
  | recorded | claimed | missing | alreadyProcessed | marked | thrown => cases did

-- Rows are never deleted, their payment never changes, and a claim is never taken back.
def Grows (rows rows' : Rows) : Prop :=
  ∀ row ∈ rows, ∃ row' ∈ rows', row'.key = row.key ∧ row'.expected = row.expected ∧ (row.claimedAt ≠ none → row'.claimedAt ≠ none)

theorem grows_refl (rows : Rows) : Grows rows rows := fun row member => ⟨row,member,rfl,rfl,fun taken => taken⟩

theorem grows_record (input : NewCorrelation) (rows : Rows) : Grows rows (record input rows) := by
  intro row member
  refine ⟨row,?_,rfl,rfl,fun taken => taken⟩
  unfold record
  split
  · exact member
  · exact List.mem_append_left _ member

theorem grows_update {selects : Correlation → Bool} {patch : Correlation → Correlation} (rows : Rows)
    (stable : ∀ row, (patch row).key = row.key ∧ (patch row).expected = row.expected ∧ (row.claimedAt ≠ none → (patch row).claimedAt ≠ none)) :
    Grows rows (updateWhere selects patch rows) := by
  intro row member
  cases selected : selects row with
  | true => exact ⟨patch row,mem_updateWhere_self member selected,stable row⟩
  | false => exact ⟨row,mem_updateWhere_other member selected,rfl,rfl,fun taken => taken⟩

theorem grows_claim (key : CorrelationKey) (claimedAt : Int) (rows : Rows) : Grows rows (claimUpdate key claimedAt rows).2 :=
  grows_update rows fun _ => ⟨rfl,rfl,fun _ => Option.some_ne_none _⟩

theorem markProcessed_update (key : CorrelationKey) (outcome : CorrelationOutcome) (rows : Rows) :
    markProcessed key outcome rows = updateWhere (fun row => row.key = key) (fun row => {row with outcome := some outcome}) rows := by
  simp [markProcessed,patchKey,updateWhere]

theorem grows_markProcessed (key : CorrelationKey) (outcome : CorrelationOutcome) (rows : Rows) :
    Grows rows (markProcessed key outcome rows) := by
  rw [markProcessed_update]
  exact grows_update rows fun _ => ⟨rfl,rfl,fun taken => taken⟩

theorem turn_grows (did : Turn now rows fault phase rows' next) : Grows rows rows' := by
  cases did with
  | found | claimed | over_ => exact grows_refl _
  | inserted => exact grows_record _ _
  | took | tookUnheard => exact grows_claim _ _ _
  | processed => exact grows_markProcessed _ _ _

-- Each SISP row holds the payment of the first record that arrived for it.
structure Ledger (rows : Rows) (inserts : List NewCorrelation) : Prop where
  keyed : Keyed Correlation.key rows
  first : ∀ row ∈ rows, row.key.provider = sisp → ∃ input, inserts.find? (fun input => input.key = row.key) = some input ∧
    row.expected = input.expected
  arrived : ∀ input ∈ inserts, ∃ row ∈ rows, row.key = input.key

theorem ledger_record (ledger : Ledger rows inserts) (input : NewCorrelation) :
    Ledger (record input rows) (inserts ++ [input]) := by
  have before : ∀ row ∈ rows, row.key.provider = sisp → ∃ first, (inserts ++ [input]).find? (fun input => input.key = row.key) = some first ∧
      row.expected = first.expected := by
    intro row member its
    obtain ⟨first,found,same⟩ := ledger.first row member its
    exact ⟨first,by rw [List.find?_append,found]; rfl,same⟩
  unfold record
  split
  · rename_i there
    obtain ⟨row,member,same⟩ := List.any_eq_true.mp there
    refine ⟨ledger.keyed,before,?_⟩
    intro other member'
    rcases List.mem_append.mp member' with old | new
    · exact ledger.arrived other old
    · cases List.mem_singleton.mp new
      exact ⟨row,member,of_decide_eq_true same⟩
  · rename_i absent
    have fresh : ∀ row ∈ rows, row.key ≠ input.key := by simpa using absent
    refine ⟨keyed_append ledger.keyed fresh,?_,?_⟩
    · intro row member its
      rcases List.mem_append.mp member with old | new
      · exact before row old its
      · cases List.mem_singleton.mp new
        have unseen : inserts.find? (fun other => other.key = input.key) = none := by
          refine List.find?_eq_none.mpr fun other seen same => ?_
          obtain ⟨row,member,key⟩ := ledger.arrived other seen
          exact fresh row member (key.trans (of_decide_eq_true same))
        refine ⟨input,?_,rfl⟩
        show (inserts ++ [input]).find? (fun other => other.key = input.key) = some input
        rw [List.find?_append,unseen]
        simp
    · intro other member
      rcases List.mem_append.mp member with old | new
      · obtain ⟨row,there,key⟩ := ledger.arrived other old
        exact ⟨row,List.mem_append_left _ there,key⟩
      · cases List.mem_singleton.mp new
        exact ⟨correlationRow input,List.mem_append_right _ (List.mem_singleton_self _),rfl⟩

theorem ledger_update {selects : Correlation → Bool} {patch : Correlation → Correlation} (ledger : Ledger rows inserts)
    (stable : ∀ row, (patch row).key = row.key ∧ (patch row).expected = row.expected) :
    Ledger (updateWhere selects patch rows) inserts := by
  refine ⟨?_,?_,?_⟩
  · unfold Keyed
    rw [updateWhere_keys rows fun row => (stable row).1]
    exact ledger.keyed
  · intro row member its
    obtain ⟨old,there,rfl⟩ := mem_updateWhere.mp member
    have kept : (if selects old then patch old else old).key = old.key ∧ (if selects old then patch old else old).expected = old.expected := by
      split
      · exact stable old
      · exact ⟨rfl,rfl⟩
    rw [kept.1] at its
    rw [kept.1,kept.2]
    exact ledger.first old there its
  · intro input member
    obtain ⟨row,there,key⟩ := ledger.arrived input member
    cases selected : selects row with
    | true => exact ⟨patch row,mem_updateWhere_self there selected,(stable row).1.trans key⟩
    | false => exact ⟨row,mem_updateWhere_other there selected,key⟩

theorem turn_ledger (ledger : Ledger rows inserts) (did : Turn now rows fault phase rows' next) :
    Ledger rows' (inserts ++ (arriving fault phase).toList) := by
  cases did with
  | found | claimed => simpa [arriving] using ledger
  | inserted arrives =>
      simp only [arriving,if_neg arrives]
      exact ledger_record ledger _
  | took | tookUnheard =>
      simp only [arriving,Option.toList_none,List.append_nil]
      exact ledger_update ledger fun _ => ⟨rfl,rfl⟩
  | processed =>
      simp only [arriving,Option.toList_none,List.append_nil,markProcessed_update]
      exact ledger_update ledger fun _ => ⟨rfl,rfl⟩
  | over_ lost => simpa [lost] using ledger

def Taken (rows : Rows) (key : CorrelationKey) : Prop := ∃ row ∈ rows, row.key = key ∧ row.claimedAt ≠ none

-- The correlation that a call has claimed.
def holds : Phase → Option CorrelationKey
  | .reading key affected => if affected = 1 then some key else none
  | .claimed key _ => some key
  | _ => none

def Knows (rows : Rows) : Phase → Prop
  | .inserting input sessions => input.key.provider = sisp ∧ ∀ session ∈ sessions, session = input.key.merchantSession
  | .claiming key _ | .reading key _ => key.provider = sisp
  | .claimed key payment => key.provider = sisp ∧ ∃ row ∈ rows, row.key = key ∧ row.expected = payment
  | _ => True

theorem taken_grows (grows : Grows rows rows') (taken : Taken rows key) : Taken rows' key := by
  obtain ⟨row,member,same,claimed⟩ := taken
  obtain ⟨row',member',key',_,keeps⟩ := grows row member
  exact ⟨row',member',key'.trans same,keeps claimed⟩

theorem knows_grows (grows : Grows rows rows') (knows : Knows rows phase) : Knows rows' phase := by
  cases phase with
  | claimed key payment =>
      obtain ⟨its,row,member,same,paid⟩ := knows
      obtain ⟨row',member',key',payment',_⟩ := grows row member
      exact ⟨its,row',member',key'.trans same,payment'.trans paid⟩
  | inserting | claiming | reading => exact knows
  | finding | marking | recorded | missing | alreadyProcessed | marked | thrown => trivial

theorem ended_knows (ends : ended phase) : Knows rows phase := by
  cases phase <;> first
    | exact ends.elim
    | trivial

theorem ended_holds (ends : ended phase) : holds phase = none := by
  cases phase <;> first
    | exact ends.elim
    | rfl

theorem turn_knows (did : Turn now rows fault phase rows' next) (knows : Knows rows phase) : Knows rows' next := by
  cases did with
  | found alone => exact ⟨rfl,alone⟩
  | took => exact knows
  | claimed there =>
      obtain ⟨member,same⟩ := lookup_member there
      exact ⟨knows,_,member,same,rfl⟩
  | inserted _ ends | tookUnheard ends | processed ends | over_ _ ends => exact ended_knows ends

theorem claim_taken (key : CorrelationKey) (claimedAt : Int) (rows : Rows) (some_ : (claimUpdate key claimedAt rows).1 = 1) :
    (∃ row ∈ rows, row.key = key ∧ row.claimedAt = none) ∧ Taken (claimUpdate key claimedAt rows).2 key := by
  have counted : 0 < rows.countP (isClaimable key) := by
    show 0 < (claimUpdate key claimedAt rows).1
    omega
  obtain ⟨row,member,claimable⟩ := List.countP_pos_iff.mp counted
  have free : row.key = key ∧ row.claimedAt = none := by simpa [isClaimable] using claimable
  exact ⟨⟨row,member,free⟩,_,mem_updateWhere_self member claimable,free.1,Option.some_ne_none _⟩

-- A call that holds a correlation after its step held it before, or took it while it was free.
theorem turn_holds (did : Turn now rows fault phase rows' next) (held : holds next = some key) :
    holds phase = some key ∨ (∃ row ∈ rows, row.key = key ∧ row.claimedAt = none) ∧ Taken rows' key := by
  cases did with
  | found => cases held
  | took =>
      simp only [holds] at held
      split at held
      · rename_i one
        cases held
        exact .inr (claim_taken _ _ _ one)
      · cases held
  | claimed there alone =>
      cases held
      exact .inl (if_pos alone)
  | inserted _ ends | tookUnheard ends | processed ends | over_ _ ends =>
      rw [ended_holds ends] at held
      cases held

structure Settled (s : State) : Prop where
  ledger : Ledger s.rows s.inserts
  knows : ∀ caller phase, s.calls caller = some phase → Knows s.rows phase
  taken : ∀ caller phase key, s.calls caller = some phase → holds phase = some key → Taken s.rows key
  alone : ∀ i j p q key, s.calls i = some p → s.calls j = some q → holds p = some key → holds q = some key → i = j

theorem put_self (s : State) : (s.put caller phase).calls caller = some phase := Function.update_self ..

theorem put_other (s : State) (other : i ≠ caller) : (s.put caller phase).calls i = s.calls i := Function.update_of_ne other ..

theorem store_settled {s : State} (settled : Settled s) (live : s.calls caller = some phase)
    (did : Turn s.now s.rows fault phase rows next) :
    Settled {s.put caller next with rows := rows,inserts := s.inserts ++ (arriving fault phase).toList} := by
  have grows := turn_grows did
  -- A correlation that another call holds is not free.
  have apart : ∀ other q key, other ≠ caller → s.calls other = some q → holds q = some key → holds next = some key → False := by
    intro other q key away running theirs mine
    rcases turn_holds did mine with before | ⟨⟨row,member,same,free⟩,_⟩
    · exact away (settled.alone other caller q phase key running live theirs before)
    · obtain ⟨row',member',same',claimed⟩ := settled.taken other q key running theirs
      cases keyed_unique settled.ledger.keyed member member' (same.trans same'.symm)
      exact claimed free
  refine ⟨turn_ledger settled.ledger did,?_,?_,?_⟩
  · intro i other running
    by_cases same : i = caller
    · subst same
      cases (put_self s).symm.trans running
      exact turn_knows did (settled.knows i phase live)
    · exact knows_grows grows (settled.knows i other ((put_other s same).symm.trans running))
  · intro i other key running held
    by_cases same : i = caller
    · subst same
      cases (put_self s).symm.trans running
      rcases turn_holds did held with before | ⟨_,taken⟩
      · exact taken_grows grows (settled.taken i phase key live before)
      · exact taken
    · exact taken_grows grows (settled.taken i other key ((put_other s same).symm.trans running) held)
  · intro i j p q key one other mine theirs
    by_cases first : i = caller
    · by_cases second : j = caller
      · exact first.trans second.symm
      · subst first
        cases (put_self s).symm.trans one
        exact (apart j q key second ((put_other s second).symm.trans other) theirs mine).elim
    · by_cases second : j = caller
      · subst second
        cases (put_self s).symm.trans other
        exact (apart i p key first ((put_other s first).symm.trans one) mine theirs).elim
      · exact settled.alone i j p q key ((put_other s first).symm.trans one) ((put_other s second).symm.trans other) mine theirs

theorem begins_knows (begun : begins now action = some (caller,phase)) : Knows rows phase := by
  cases action <;> cases begun <;> trivial

theorem begins_holds (begun : begins now action = some (caller,phase)) : holds phase = none := by
  cases action <;> cases begun <;> rfl

theorem begin_settled {s : State} (settled : Settled s) (begun : begins s.now action = some (caller,phase)) :
    Settled (s.put caller phase) := by
  have idle := begins_holds begun
  refine ⟨settled.ledger,?_,?_,?_⟩
  · intro i other running
    by_cases same : i = caller
    · subst same
      cases (put_self s).symm.trans running
      exact begins_knows begun
    · exact settled.knows i other ((put_other s same).symm.trans running)
  · intro i other key running held
    by_cases same : i = caller
    · subst same
      cases (put_self s).symm.trans running
      rw [idle] at held
      cases held
    · exact settled.taken i other key ((put_other s same).symm.trans running) held
  · intro i j p q key one other mine theirs
    by_cases first : i = caller
    · subst first
      cases (put_self s).symm.trans one
      rw [idle] at mine
      cases mine
    · by_cases second : j = caller
      · subst second
        cases (put_self s).symm.trans other
        rw [idle] at theirs
        cases theirs
      · exact settled.alone i j p q key ((put_other s first).symm.trans one) ((put_other s second).symm.trans other) mine theirs

inductive Step (s : State) : Action → State → Prop where
  | begin (begun : begins s.now action = some (caller,phase)) : Step s action (s.put caller phase)
  | store (live : s.calls caller = some phase) (did : Turn s.now s.rows fault phase rows next) :
      Step s (.store caller fault) {s.put caller next with rows := rows,inserts := s.inserts ++ (arriving fault phase).toList}
  | tick : Step s (.tick elapsed) {s with now := s.now + elapsed}

theorem advance_step (moved : advance s action = some t) : Step s action t := by
  cases action with
  | store caller fault =>
      simp only [advance,Option.bind_eq_bind,Option.bind_eq_some_iff,Option.some.injEq] at moved
      obtain ⟨phase,live,⟨rows,next⟩,did,rfl⟩ := moved
      exact .store live (storeStep_turn did)
  | tick elapsed => cases moved; exact .tick
  | record | claim | markProcessed =>
      simp only [advance,begins,Option.bind_eq_bind,Option.bind_some] at moved
      split at moved
      · cases moved
      · cases moved; exact .begin rfl

theorem initial_settled (initial : Initial s) : Settled s := by
  have idle : ∀ caller phase, s.calls caller ≠ some phase := by
    intro caller phase
    simp [initial.calls]
  refine ⟨⟨initial.keyed,?_,?_⟩,?_,?_,?_⟩
  · intro row member its
    exact absurd its (initial.foreign row member)
  · intro input member
    rw [initial.inserts] at member
    cases member
  · intro caller phase live
    exact absurd live (idle caller phase)
  · intro caller phase key live
    exact absurd live (idle caller phase)
  · intro i j p q key one
    exact absurd one (idle i p)

theorem step_settled {s t : State} (settled : Settled s) (moved : advance s action = some t) : Settled t := by
  cases advance_step moved with
  | begin begun => exact begin_settled settled begun
  | store live did => exact store_settled settled live did
  | tick => exact ⟨settled.ledger,settled.knows,settled.taken,settled.alone⟩

theorem reached_settled (path : Reached system allowed s) : Settled s :=
  path.invariant Settled (fun _ => initial_settled) fun _ _ _ _ settled _ moved => step_settled settled moved

-- No other session of the reference is stored between the read of a record call and its insert.
def unraced (s : State) : Action → Bool
  | .store caller fault =>
    match s.calls caller with
    | some (.inserting input sessions) =>
      fault = .lost || (findSessionsByReference sisp input.key.merchantRef s.rows).all fun session =>
        session = input.key.merchantSession || sessions.contains session
    | _ => true
  | _ => true

def Unraced (s : State) (action : Action) : Prop := unraced s action = true

instance (s : State) (action : Action) : Decidable (Unraced s action) := inferInstanceAs (Decidable (_ = _))

def SingleSession (rows : Rows) : Prop :=
  ∀ a ∈ rows, ∀ b ∈ rows, a.key.provider = sisp → b.key.provider = sisp → a.key.merchantRef = b.key.merchantRef →
    a.key.merchantSession = b.key.merchantSession

instance (rows : Rows) : Decidable (SingleSession rows) := inferInstanceAs (Decidable (∀ a ∈ rows, ∀ b ∈ rows, _))

theorem session_found (member : row ∈ rows) (its : row.key.provider = sisp) :
    row.key.merchantSession ∈ findSessionsByReference sisp row.key.merchantRef rows :=
  List.mem_map.mpr ⟨row,List.mem_filter.mpr ⟨member,by simp [its]⟩,rfl⟩

theorem single_record (single : SingleSession rows) (input : NewCorrelation)
    (alone : ∀ session ∈ findSessionsByReference sisp input.key.merchantRef rows, session = input.key.merchantSession) :
    SingleSession (record input rows) := by
  unfold record
  split
  · exact single
  · intro a one b other first second same
    rcases List.mem_append.mp one with old | new <;> rcases List.mem_append.mp other with old' | new'
    · exact single a old b old' first second same
    · cases List.mem_singleton.mp new'
      exact alone _ (same ▸ session_found old first)
    · cases List.mem_singleton.mp new
      exact (alone _ (same ▸ session_found old' second)).symm
    · cases List.mem_singleton.mp new
      cases List.mem_singleton.mp new'
      rfl

theorem single_update {selects : Correlation → Bool} {patch : Correlation → Correlation} (single : SingleSession rows)
    (stable : ∀ row, (patch row).key = row.key) : SingleSession (updateWhere selects patch rows) := by
  have kept : ∀ row, (if selects row then patch row else row).key = row.key := by
    intro row
    split
    · exact stable row
    · rfl
  intro a one b other first second same
  obtain ⟨old,there,rfl⟩ := mem_updateWhere.mp one
  obtain ⟨old',there',rfl⟩ := mem_updateWhere.mp other
  rw [kept] at first second same ⊢
  rw [kept] at same ⊢
  exact single old there old' there' first second same

theorem step_single {s t : State} (settled : Settled s) (single : SingleSession s.rows) (permitted : Unraced s action)
    (moved : advance s action = some t) : SingleSession t.rows := by
  cases advance_step moved with
  | begin | tick => exact single
  | store live did =>
      cases did with
      | found | claimed | over_ => exact single
      | inserted arrives =>
          refine single_record single _ fun session member => ?_
          simp only [Unraced,unraced,live,arrives,decide_false,Bool.false_or,List.all_eq_true,Bool.or_eq_true,decide_eq_true_eq,
            List.contains_iff_mem] at permitted
          rcases permitted session member with own | read
          · exact own
          · exact (settled.knows _ _ live).2 session read
      | took | tookUnheard => exact single_update single fun _ => rfl
      | processed =>
          rw [markProcessed_update]
          exact single_update single fun _ => rfl

-- Sessions are single in every run without such a race, the rest holds in every run.
theorem redirect_correlations_single (path : Reached system anyStep s) :
    (Reached system Unraced s → SingleSession s.rows) ∧
      (∀ i j key p q, s.calls i = some (.claimed key p) → s.calls j = some (.claimed key q) → i = j) ∧
      ∀ i key payment, s.calls i = some (.claimed key payment) →
        ∃ first, s.inserts.find? (fun input => input.key = key) = some first ∧ payment = first.expected := by
  have single : Reached system Unraced s → SingleSession s.rows := by
    intro unraced
    refine unraced.invariant (fun s => SingleSession s.rows) ?_ ?_
    · intro u initial a one _ _ its
      exact absurd its (initial.foreign a one)
    · intro u action next before single permitted moved
      exact step_single (reached_settled before) single permitted moved
  have settled := reached_settled path
  refine ⟨single,?_,?_⟩
  · intro i j key p q mine theirs
    exact settled.alone i j _ _ key mine theirs rfl rfl
  · intro i key payment mine
    obtain ⟨its,row,member,rfl,rfl⟩ := settled.knows i _ mine
    exact settled.ledger.first row member its

def empty : State := ⟨[],0,fun _ => none,[]⟩

theorem empty_initial : Initial empty := ⟨List.nodup_nil,fun _ member => (List.not_mem_nil member).elim,rfl,rfl⟩

def request (merchantSession amount : String) : SispPaymentRequest := ⟨"R1",merchantSession,amount,"132","1"⟩

-- Both record calls read the reference before either inserts.
def racedSteps : List Action :=
  [.record 1 none (request "S1" "1000"),.record 2 none (request "S2" "50"),.store 1 .none,.store 2 .none,.store 1 .none,
    .store 2 .none]

theorem two_sessions_stored : ¬ ∀ s, Reached system anyStep s → SingleSession s.rows := by
  intro single
  have passed : (run system anyStep empty racedSteps).any (fun s => decide (¬ SingleSession s.rows)) = true := by decide +kernel
  obtain ⟨s,path,found⟩ := run_reaches empty_initial passed
  exact of_decide_eq_true found (single s path)

-- The reference is recorded again with its own session and with another one, and claimed twice.
def settledSteps : List Action :=
  [.record 1 none (request "S1" "1000"),.store 1 .none,.store 1 .none,.record 2 none (request "S1" "1"),.store 2 .none,
    .store 2 .none,.record 3 none (request "S2" "50"),.store 3 .none,.claim 4 "R1" "S1",.claim 5 "R1" "S1",.store 4 .none,
    .store 5 .none,.store 5 .none,.store 4 .none]

def firstPayment : ExpectedPayment := ⟨"1000",some "132",some "1"⟩

theorem redirect_correlations_single_claimed :
    ∃ s, Reached system Unraced s ∧ s.calls 4 = some (.claimed (sispKey "R1" "S1") firstPayment) ∧ SingleSession s.rows ∧
      ∃ first, s.inserts.find? (fun input => input.key = sispKey "R1" "S1") = some first ∧ firstPayment = first.expected := by
  have passed : (run system Unraced empty settledSteps).any
      (fun s => decide (s.calls 4 = some (.claimed (sispKey "R1" "S1") firstPayment))) = true := by decide +kernel
  obtain ⟨s,path,found⟩ := run_reaches empty_initial passed
  have live := of_decide_eq_true found
  obtain ⟨single,_,paid⟩ := redirect_correlations_single (path.weaken fun _ _ _ => trivial)
  exact ⟨s,path,live,single path,paid 4 _ _ live⟩

end Payable.Redirects
