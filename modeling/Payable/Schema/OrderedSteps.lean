import Payable.Schema.Migrate

namespace Payable.Schema
open Runs

variable {dialect : Dialect}

section names

theorem steps_nodup : steps.Nodup := by decide +kernel

theorem steps_ascending : steps.Pairwise fun a b => a ≤ b := by decide +kernel

theorem name_get {k : Nat} (known : k < steps.length) : name k = steps[k] := by
  rw [name,List.getD_eq_getElem?_getD,List.getElem?_eq_getElem known,Option.getD_some]

-- A name is recorded where its place is behind the end of the ledger.
theorem recorded_iff {names : List String} (some_first : names <+: steps) (known : k < steps.length) :
    names.contains (name k) = true ↔ k < names.length := by
  rw [List.contains_iff_mem,name_get known]
  constructor
  · intro inside
    obtain ⟨place,within,same⟩ := List.getElem_of_mem inside
    have room := within.trans_le some_first.length_le
    have there : steps[place] = steps[k] := by
      rw [← same]
      exact (some_first.getElem within).symm
    rw [steps_nodup.getElem_inj_iff.mp there] at within
    exact within
  · intro within
    rw [← some_first.getElem within]
    exact List.getElem_mem within

theorem prefix_next {names : List String} (some_first : names <+: steps) (last : names.length = k) (known : k < steps.length) :
    names ++ [name k] <+: steps := by
  have its := List.prefix_iff_eq_take.mp some_first
  rw [its,last,name_get known,← List.take_succ_eq_append_getElem known]
  exact List.take_prefix _ _

end names

section splits

-- A list and one more at its end, taken apart at some element.
theorem split_last {log before rest : List Event} {event its : Event} (split : log ++ [event] = before ++ its :: rest) :
    (its = event ∧ before = log) ∨ ∃ rest', log = before ++ its :: rest' := by
  rcases List.eq_nil_or_concat rest with rfl | ⟨rest',last,rfl⟩
  · obtain ⟨same,its⟩ := List.append_inj' split rfl
    exact .inl ⟨(List.cons.inj its).1.symm,same.symm⟩
  · rw [List.concat_eq_append,← List.cons_append,← List.append_assoc] at split
    exact .inr ⟨rest',(List.append_inj' split rfl).1⟩

end splits

section order

def Phase.place : Phase → Option Nat
  | .looking k | .creating k | .rechecking k | .checking k | .running k | .recording k => some k
  | _ => none

-- What a call that has come so far relies on.
structure Fits (s : State) (phase : Phase) : Prop where
  place : ∀ k, phase.place = some k → k ≤ s.names.length ∧ k < steps.length
  recording : ∀ k, phase = .recording k → Event.finished k ∈ s.log
  ended : phase = .returned ∨ phase = .unlocking false → s.names.length = steps.length

structure Ordered (first : Nat) (s : State) : Prop where
  ledger : s.names <+: steps
  begun : first ≤ s.names.length
  calls : ∀ caller phase, s.calls caller = some phase → Fits s phase
  finished : ∀ k, first ≤ k → k < s.names.length → Event.finished k ∈ s.log
  log : ∀ before k rest, s.log = before ++ Event.started k :: rest → ∀ j, first ≤ j → j < k → Event.finished j ∈ before

theorem fits_later {s t : State} (fits : Fits s phase) (ledger : t.names <+: steps) (grows : s.names.length ≤ t.names.length)
    (log : ∀ event ∈ s.log, event ∈ t.log) : Fits t phase := by
  refine ⟨fun k its => ?_,fun k its => log _ (fits.recording k its),fun its => ?_⟩
  · obtain ⟨place,known⟩ := fits.place k its
    exact ⟨place.trans grows,known⟩
  · have whole := fits.ended its
    have bounded := ledger.length_le
    omega

-- A call that has not come to a step yet.
theorem fits_outside {s : State} (place : phase.place = none) (ends : ¬ (phase = .returned ∨ phase = .unlocking false)) : Fits s phase := by
  refine ⟨fun k its => ?_,fun k its => ?_,fun its => absurd its ends⟩
  · rw [place] at its
    cases its
  · rw [its] at place
    cases place

theorem fits_at {s : State} (known : k ≤ s.names.length ∧ k < steps.length) (place : phase.place = some k) (other : ∀ k, phase ≠ .recording k) :
    Fits s phase := by
  refine ⟨fun j its => ?_,fun j its => absurd its (other j),fun its => ?_⟩
  · rw [place] at its
    cases its
    exact known
  · rcases its with rfl | rfl <;> cases place

theorem fits_enter (dialect : Dialect) (s : State) : Fits s (enter dialect) := by
  unfold enter
  split
  · exact fits_outside rfl (by simp)
  · exact fits_at ⟨Nat.zero_le _,by decide⟩ rfl nofun

theorem fits_failed (dialect : Dialect) (s : State) : Fits s (leave dialect true) := by
  unfold leave
  split
  · exact fits_outside rfl (by simp)
  · exact fits_outside rfl (by simp [ended])

theorem fits_whole {s : State} (whole : s.names.length = steps.length) (place : phase.place = none) : Fits s phase := by
  refine ⟨fun k its => ?_,fun k its => ?_,fun _ => whole⟩
  · rw [place] at its
    cases its
  · rw [its] at place
    cases place

theorem fits_after (dialect : Dialect) {s : State} (ledger : s.names <+: steps) (recorded : k < s.names.length) : Fits s (after dialect k) := by
  have bounded := ledger.length_le
  unfold after
  split
  · rename_i more
    exact fits_at ⟨recorded,more⟩ rfl nofun
  · have whole : s.names.length = steps.length := by omega
    unfold leave
    split
    · exact fits_whole whole rfl
    · exact fits_whole whole rfl

-- One step: the ledger is still a beginning of the steps, and what is new in the log stands in its order.
theorem ordered_later {s t : State} (ordered : Ordered first s) (ledger : t.names <+: steps) (grows : s.names.length ≤ t.names.length)
    (log : ∀ event ∈ s.log, event ∈ t.log) (calls : ∀ other phase, t.calls other = some phase → s.calls other = some phase ∨ Fits t phase)
    (finished : ∀ k, s.names.length ≤ k → k < t.names.length → Event.finished k ∈ t.log)
    (logged : ∀ before k rest, t.log = before ++ Event.started k :: rest → ∀ j, first ≤ j → j < k → Event.finished j ∈ before) :
    Ordered first t := by
  refine ⟨ledger,ordered.begun.trans grows,fun other phase holds => ?_,fun k begun within => ?_,logged⟩
  · rcases calls other phase holds with old | fits
    · exact fits_later (ordered.calls other phase old) ledger grows log
    · exact fits
  · by_cases old : k < s.names.length
    · exact log _ (ordered.finished k begun old)
    · exact finished k (Nat.le_of_not_lt old) within

theorem put_calls {s : State} (holds : (s.put caller phase).calls other = some found) : s.calls other = some found ∨ found = phase := by
  by_cases same : other = caller
  · subst same
    exact .inr (by simpa [State.put] using holds.symm)
  · exact .inl (by simpa [State.put,same] using holds)

-- A call goes on; nothing is recorded or logged.
theorem ordered_put {s t : State} (ordered : Ordered first s) (names : t.names = s.names) (log : t.log = s.log)
    (calls : ∀ other phase, t.calls other = some phase → s.calls other = some phase ∨ Fits t phase) : Ordered first t := by
  refine ordered_later ordered (names ▸ ordered.ledger) (names ▸ Nat.le_refl _) (fun event inside => log ▸ inside) calls ?_ (log ▸ ordered.log)
  intro k past within
  rw [names] at within
  exact absurd within (Nat.not_lt.mpr past)

theorem fits_same {s t : State} (fits : Fits s phase) (names : t.names = s.names) (log : t.log = s.log) : Fits t phase := by
  refine ⟨fun k its => names ▸ fits.place k its,fun k its => log ▸ fits.recording k its,fun its => names ▸ fits.ended its⟩

theorem ordered_moved {s : State} (ordered : Ordered first s) (fits : Fits s phase) : Ordered first (s.put caller phase) := by
  refine ordered_put ordered rfl rfl fun other found holds => ?_
  rcases put_calls holds with old | rfl
  · exact .inl old
  · exact .inr (fits_same fits rfl rfl)

theorem ordered_locked {s : State} (ordered : Ordered first s) (lock : Option Nat) : Ordered first {s with lock := lock} :=
  ordered_put ordered rfl rfl fun _ _ holds => .inl holds

theorem ordered_created {s : State} (ordered : Ordered first s) (absent : s.ledger = none) : Ordered first {s with ledger := some []} := by
  have names : State.names {s with ledger := some []} = s.names := by simp [State.names,absent]
  exact ordered_put ordered names rfl fun _ _ holds => .inl holds

theorem ordered_logged {s : State} (ordered : Ordered first s) (event : Event)
    (its : ∀ k, event = .started k → ∀ j, first ≤ j → j < k → Event.finished j ∈ s.log) : Ordered first {s with log := s.log ++ [event]} := by
  refine ordered_later ordered ordered.ledger (Nat.le_refl _) (fun event inside => List.mem_append_left _ inside) (fun _ _ holds => .inl holds) ?_ ?_
  · intro k past within
    exact absurd within (Nat.not_lt.mpr past)
  · intro before k rest split
    rcases split_last split with ⟨same,rfl⟩ | ⟨rest',split⟩
    · exact its k same.symm
    · exact ordered.log before k rest' split

-- A step is recorded once it has finished, and only after all that come before it.
theorem ordered_record {s : State} (ordered : Ordered first s) (place : k ≤ s.names.length ∧ k < steps.length) (finished : Event.finished k ∈ s.log) :
    Ordered first (record s k) ∧ k < (record s k).names.length := by
  unfold record
  by_cases there : s.names.contains (name k) = true
  · rw [if_pos there]
    exact ⟨ordered,(recorded_iff ordered.ledger place.2).mp there⟩
  · rw [if_neg there]
    have last : s.names.length = k := by
      have past := (recorded_iff ordered.ledger place.2).not.mp there
      omega
    have longer : State.names {s with ledger := some (s.names ++ [name k]),log := s.log ++ [.recorded k]} = s.names ++ [name k] := rfl
    refine ⟨ordered_later ordered ?_ ?_ (fun event inside => List.mem_append_left _ inside) (fun _ _ holds => .inl holds) ?_ ?_,?_⟩
    · rw [longer]
      exact prefix_next ordered.ledger last place.2
    · rw [longer,List.length_append]
      omega
    · intro j past within
      rw [longer,List.length_append,List.length_singleton] at within
      have same : j = k := by omega
      rw [same]
      exact List.mem_append_left _ finished
    · intro before j rest split
      rcases split_last split with ⟨same,_⟩ | ⟨rest',split⟩
      · cases same
      · exact ordered.log before j rest' split
    · rw [longer,List.length_append,List.length_singleton]
      omega

theorem ordered_runStep {s t : State} (ordered : Ordered first s) (holds : s.calls caller = some phase)
    (moved : runStep dialect s caller phase = some t) : Ordered first t := by
  have fits := ordered.calls caller phase holds
  cases phase with
  | locking =>
      simp only [runStep] at moved
      split at moved
      · cases moved
        exact ordered_moved (ordered_locked ordered _) (fits_at ⟨Nat.zero_le _,by decide⟩ rfl nofun)
      · cases moved
  | looking k =>
      have known := fits.place k rfl
      cases moved
      refine ordered_moved ordered ?_
      split
      · exact fits_at known rfl nofun
      · exact fits_at known rfl nofun
  | creating k =>
      have known := fits.place k rfl
      cases moved
      split
      · exact ordered_moved ordered (fits_at known rfl nofun)
      · rename_i absent
        have none_yet : s.ledger = none := by simpa using absent
        have created := ordered_created ordered none_yet
        have names : State.names {s with ledger := some []} = s.names := by simp [State.names,none_yet]
        exact ordered_moved created (fits_at (names ▸ known) rfl nofun)
  | rechecking k =>
      have known := fits.place k rfl
      cases moved
      refine ordered_moved ordered ?_
      split
      · exact fits_at known rfl nofun
      · exact fits_failed dialect s
  | checking k =>
      have known := fits.place k rfl
      cases moved
      split
      · rename_i there
        exact ordered_moved ordered (fits_after dialect ordered.ledger ((recorded_iff ordered.ledger known.2).mp there))
      · have logged := ordered_logged ordered (.started k) fun j its i begun before => by
          cases its
          exact ordered.finished i begun (before.trans_le known.1)
        exact ordered_moved logged (fits_at known rfl nofun)
  | running k =>
      have known := fits.place k rfl
      cases moved
      have logged := ordered_logged ordered (.finished k) fun j its => Event.noConfusion its
      refine ordered_moved logged ⟨fun j its => ?_,fun j its => ?_,fun its => ?_⟩
      · cases its
        exact known
      · cases its
        exact List.mem_append_right _ (List.mem_singleton_self _)
      · rcases its with its | its <;> cases its
  | recording k =>
      have known := fits.place k rfl
      cases moved
      obtain ⟨recorded,within⟩ := ordered_record ordered known (fits.recording k rfl)
      exact ordered_moved recorded (fits_after dialect recorded.ledger within)
  | unlocking failed =>
      cases moved
      refine ordered_moved (ordered_locked ordered _) ?_
      cases failed with
      | true => exact fits_outside rfl (by simp [ended])
      | false => exact fits_whole (fits.ended (.inr rfl)) rfl
  | returned | thrown | crashed => cases moved

theorem ordered_faultStep {s t : State} (ordered : Ordered first s) (holds : s.calls caller = some phase)
    (moved : faultStep dialect s caller applied phase = some t) : Ordered first t := by
  have fits := ordered.calls caller phase holds
  cases phase with
  | locking | unlocking failed =>
      cases moved
      exact ordered_moved ordered (fits_outside rfl (by simp))
  | looking k | checking k | rechecking k | running k =>
      cases moved
      exact ordered_moved ordered (fits_failed dialect s)
  | creating k =>
      have known := fits.place k rfl
      cases moved
      split
      · rename_i absent
        simp only [Bool.and_eq_true,Option.isNone_iff_eq_none] at absent
        have names : State.names {s with ledger := some []} = s.names := by simp [State.names,absent.2]
        exact ordered_moved (ordered_created ordered absent.2) (fits_at (names ▸ known) rfl nofun)
      · exact ordered_moved ordered (fits_at known rfl nofun)
  | recording k =>
      cases moved
      split
      · exact ordered_moved (ordered_record ordered (fits.place k rfl) (fits.recording k rfl)).1 (fits_failed dialect _)
      · exact ordered_moved ordered (fits_failed dialect s)
  | returned | thrown | crashed => cases moved

theorem ordered_advance {s t : State} (ordered : Ordered first s) (moved : advance dialect s action = some t) : Ordered first t := by
  cases action with
  | migrate caller =>
      simp only [advance] at moved
      split at moved
      · cases moved
        exact ordered_moved ordered (fits_enter dialect s)
      · cases moved
  | run caller =>
      obtain ⟨phase,holds,moved⟩ := Option.bind_eq_some_iff.mp moved
      exact ordered_runStep ordered holds moved
  | fault caller applied =>
      obtain ⟨phase,holds,moved⟩ := Option.bind_eq_some_iff.mp moved
      exact ordered_faultStep ordered holds moved
  | timeout caller =>
      simp only [advance] at moved
      split at moved
      · cases moved
        exact ordered_moved ordered (fits_outside rfl (by simp))
      · cases moved
  | crash caller =>
      obtain ⟨phase,holds,rfl⟩ := Option.map_eq_some_iff.mp moved
      exact ordered_moved ordered (fits_outside rfl (by simp))
  | lose caller =>
      simp only [advance] at moved
      split at moved
      · cases moved
        exact ordered_locked ordered none
      · cases moved

theorem ordered_start {start : State} (initial : Initial start) : Ordered start.names.length start := by
  refine ⟨initial.ledger,Nat.le_refl _,fun caller phase holds => ?_,fun k begun within => absurd within (Nat.not_lt.mpr begun),?_⟩
  · rw [initial.calls] at holds
    cases holds
  · intro before k rest split
    rw [initial.log] at split
    exact absurd split (by simp)

theorem ordered_path {start s : State} (initial : Initial start) (path : Path (migrations dialect) allowed start s) :
    Ordered start.names.length s :=
  path.invariant (Ordered start.names.length) (ordered_start initial) fun _ _ _ ordered _ moved => ordered_advance ordered moved

end order

section alone

def Phase.body : Phase → Option Nat
  | .running k | .recording k => some k
  | _ => none

-- Under the lock one call is on the way, and in the step that is next.
structure Alone (s : State) : Prop where
  holder : ∀ caller phase, s.calls caller = some phase → phase.inside = true → s.lock = some caller
  body : ∀ caller phase k, s.calls caller = some phase → phase.body = some k → s.names.length = k
  starts : ∀ k, Event.started k ∈ s.log → k ≤ s.names.length
  marks : ∀ k, Event.recorded k ∈ s.log → k < s.names.length
  order : ∀ before k rest, s.log = before ++ Event.started k :: rest → (∀ j, Event.started j ∈ before → j ≤ k) ∧ Event.recorded k ∉ before

theorem body_inside {phase : Phase} (its : phase.body = some k) : phase.inside = true := by
  cases phase <;> first | rfl | cases its

theorem alone_moved {s : State} (alone : Alone s) (holder : phase.inside = true → s.lock = some caller)
    (body : ∀ k, phase.body = some k → s.names.length = k) : Alone (s.put caller phase) := by
  refine ⟨fun other found holds inside => ?_,fun other found k holds its => ?_,alone.starts,alone.marks,alone.order⟩
  · by_cases same : other = caller
    · subst same
      rw [show found = phase by simpa [State.put] using holds.symm] at inside
      exact holder inside
    · exact alone.holder other found (by simpa [State.put,same] using holds) inside
  · rcases put_calls holds with old | rfl
    · exact alone.body other found k old its
    · exact body k its

-- A call that stays where it has the lock, or goes out.
theorem alone_held {s : State} (alone : Alone s) (holds : s.calls caller = some phase) (inside : phase.inside = true)
    (outside : phase'.body = none) : Alone (s.put caller phase') := by
  refine alone_moved alone (fun _ => alone.holder caller phase holds inside) fun k its => ?_
  rw [outside] at its
  cases its

theorem alone_out {s : State} (alone : Alone s) (outside : phase.inside = false) : Alone (s.put caller phase) := by
  refine alone_moved alone (fun inside => ?_) fun k its => ?_
  · rw [outside] at inside
    cases inside
  · rw [body_inside its] at outside
    cases outside

-- The lock changes hands where nobody is inside.
theorem alone_lock {s : State} (alone : Alone s) (nobody : ∀ caller phase, s.calls caller = some phase → phase.inside = false)
    (lock : Option Nat) : Alone {s with lock := lock} := by
  refine ⟨fun caller phase holds inside => ?_,alone.body,alone.starts,alone.marks,alone.order⟩
  rw [nobody caller phase holds] at inside
  cases inside

theorem alone_created {s : State} (alone : Alone s) (absent : s.ledger = none) : Alone {s with ledger := some []} := by
  have names : State.names {s with ledger := some []} = s.names := by simp [State.names,absent]
  exact ⟨alone.holder,fun caller phase k holds its => names ▸ alone.body caller phase k holds its,fun k inside => names ▸ alone.starts k inside,
    fun k inside => names ▸ alone.marks k inside,alone.order⟩

theorem alone_finished {s : State} (alone : Alone s) (k : Nat) : Alone {s with log := s.log ++ [.finished k]} := by
  have other : ∀ event, event ∈ s.log ++ [Event.finished k] → event ≠ .finished k → event ∈ s.log := by
    intro event inside apart
    exact (List.mem_append.mp inside).resolve_right fun last => apart (List.mem_singleton.mp last)
  refine ⟨alone.holder,alone.body,fun j inside => alone.starts j (other _ inside Event.noConfusion),
    fun j inside => alone.marks j (other _ inside Event.noConfusion),fun before j rest split => ?_⟩
  rcases split_last split with ⟨same,_⟩ | ⟨rest',split⟩
  · cases same
  · exact alone.order before j rest' split

-- A body starts where the ledger ends.
theorem alone_started {s : State} (alone : Alone s) (next : s.names.length = k) : Alone {s with log := s.log ++ [.started k]} := by
  refine ⟨alone.holder,alone.body,fun j inside => ?_,fun j inside => ?_,fun before j rest split => ?_⟩
  · rcases List.mem_append.mp inside with old | last
    · exact alone.starts j old
    · cases List.mem_singleton.mp last
      exact next ▸ Nat.le_refl _
  · rcases List.mem_append.mp inside with old | last
    · exact alone.marks j old
    · cases List.mem_singleton.mp last
  · rcases split_last split with ⟨same,rfl⟩ | ⟨rest',split⟩
    · cases same
      refine ⟨fun i earlier => (alone.starts i earlier).trans next.le,fun marked => ?_⟩
      have before := alone.marks _ marked
      omega
    · exact alone.order before j rest' split

-- The caller in a body is the only one, so the ledger may go on.
theorem alone_record {s : State} (alone : Alone s) (ordered : Ordered first s) (holds : s.calls caller = some (.recording k))
    (outside : phase.body = none) : Alone ((record s k).put caller phase) := by
  have place := (ordered.calls caller _ holds).place k rfl
  have last := alone.body caller _ k holds rfl
  have mine := alone.holder caller _ holds rfl
  unfold record
  split
  · exact alone_held alone holds rfl outside
  · have grown : (State.put {s with ledger := some (s.names ++ [name k]),log := s.log ++ [.recorded k]} caller phase).names.length =
        s.names.length + 1 := List.length_append
    refine ⟨fun other found holds' inside => ?_,fun other found j holds' its => ?_,fun j inside => ?_,fun j inside => ?_,fun before j rest split => ?_⟩
    · by_cases same : other = caller
      · exact same ▸ mine
      · exact alone.holder other found (by simpa [State.put,same] using holds') inside
    · by_cases same : other = caller
      · subst same
        rw [show found = phase by simpa [State.put] using holds'.symm,outside] at its
        cases its
      · have theirs := alone.holder other found (by simpa [State.put,same] using holds') (body_inside its)
        rw [mine] at theirs
        exact absurd (Option.some.inj theirs).symm same
    · have old : Event.started j ∈ s.log := (List.mem_append.mp inside).resolve_right fun last => Event.noConfusion (List.mem_singleton.mp last)
      rw [grown]
      exact (alone.starts j old).trans (Nat.le_succ _)
    · rw [grown]
      rcases List.mem_append.mp inside with old | new
      · exact (alone.marks j old).trans (Nat.lt_succ_self _)
      · cases List.mem_singleton.mp new
        omega
    · rcases split_last split with ⟨same,_⟩ | ⟨rest',split⟩
      · cases same
      · exact alone.order before j rest' split

theorem alone_start {start : State} (initial : Initial start) : Alone start := by
  refine ⟨fun caller phase holds => ?_,fun caller phase k holds => ?_,fun k inside => ?_,fun k inside => ?_,fun before k rest split => ?_⟩
  · rw [initial.calls] at holds
    cases holds
  · rw [initial.calls] at holds
    cases holds
  · rw [initial.log] at inside
    cases inside
  · rw [initial.log] at inside
    cases inside
  · rw [initial.log] at split
    exact absurd split (by simp)

theorem leave_body (dialect : Dialect) (failed : Bool) : (leave dialect failed).body = none := by
  unfold leave ended
  split
  · rfl
  · split <;> rfl

theorem after_body (dialect : Dialect) (k : Nat) : (after dialect k).body = none := by
  unfold after
  split
  · rfl
  · exact leave_body dialect false

-- The one who is inside keeps everybody else out of the lock.
theorem alone_only {s : State} (alone : Alone s) (holds : s.calls caller = some phase) (inside : phase.inside = true)
    (holds' : s.calls other = some phase') (apart : other ≠ caller) : phase'.inside = false := by
  cases its : phase'.inside with
  | false => rfl
  | true =>
      have mine := alone.holder caller phase holds inside
      rw [alone.holder other phase' holds' its] at mine
      exact absurd (Option.some.inj mine) apart

theorem alone_runStep {s t : State} (alone : Alone s) (ordered : Ordered first s)
    (holds : s.calls caller = some phase) (moved : runStep dialect s caller phase = some t) : Alone t := by
  have fits := ordered.calls caller phase holds
  cases phase with
  | locking =>
      simp only [runStep] at moved
      split at moved
      · rename_i free
        cases moved
        have nobody : ∀ other phase, s.calls other = some phase → phase.inside = false := by
          intro other phase holds'
          cases its : phase.inside with
          | false => rfl
          | true =>
              have held := alone.holder other phase holds' its
              rw [free] at held
              cases held
        exact alone_moved (alone_lock alone nobody (some caller)) (fun _ => rfl) fun k its => by cases its
      · cases moved
  | looking k | rechecking k =>
      cases moved
      refine alone_held alone holds rfl ?_
      split
      · rfl
      · first | rfl | exact leave_body dialect true
  | creating k =>
      cases moved
      split
      · exact alone_held alone holds rfl rfl
      · rename_i absent
        exact alone_held (alone_created alone (by simpa using absent)) holds rfl rfl
  | checking k =>
      have known := fits.place k rfl
      have mine := alone.holder caller _ holds rfl
      cases moved
      split
      · exact alone_held alone holds rfl (after_body dialect k)
      · rename_i unrecorded
        have past := (recorded_iff ordered.ledger known.2).not.mp unrecorded
        have next : s.names.length = k := by omega
        refine alone_moved (alone_started alone next) (fun _ => mine) fun j its => ?_
        cases its
        exact next
  | running k =>
      have next := alone.body caller _ k holds rfl
      have mine := alone.holder caller _ holds rfl
      cases moved
      refine alone_moved (alone_finished alone k) (fun _ => mine) fun j its => ?_
      cases its
      exact next
  | recording k =>
      cases moved
      exact alone_record alone ordered holds (after_body dialect k)
  | unlocking failed =>
      have mine := alone.holder caller _ holds rfl
      cases moved
      rw [if_pos mine]
      have outside : (ended failed).inside = false := by cases failed <;> rfl
      have out : Alone (s.put caller (ended failed)) := alone_out alone outside
      have nobody : ∀ other phase, (s.put caller (ended failed)).calls other = some phase → phase.inside = false := by
        intro other phase holds'
        by_cases same : other = caller
        · subst same
          rw [show phase = ended failed by simpa [State.put] using holds'.symm]
          exact outside
        · exact alone_only alone holds rfl (by simpa [State.put,same] using holds') same
      exact alone_lock out nobody none
  | returned | thrown | crashed => cases moved

theorem alone_faultStep {s t : State} (alone : Alone s) (ordered : Ordered first s)
    (holds : s.calls caller = some phase) (moved : faultStep dialect s caller applied phase = some t) : Alone t := by
  cases phase with
  | locking | unlocking failed =>
      cases moved
      exact alone_out alone rfl
  | looking k | checking k | rechecking k | running k =>
      cases moved
      exact alone_held alone holds rfl (leave_body dialect true)
  | creating k =>
      cases moved
      split
      · rename_i absent
        simp only [Bool.and_eq_true,Option.isNone_iff_eq_none] at absent
        exact alone_held (alone_created alone absent.2) holds rfl rfl
      · exact alone_held alone holds rfl rfl
  | recording k =>
      cases moved
      split
      · exact alone_record alone ordered holds (leave_body dialect true)
      · exact alone_held alone holds rfl (leave_body dialect true)
  | returned | thrown | crashed => cases moved

theorem alone_advance (locks : dialect.locks = true) {s t : State} (alone : Alone s) (ordered : Ordered first s) (allowed : Connected s action)
    (moved : advance dialect s action = some t) : Alone t := by
  cases action with
  | migrate caller =>
      simp only [advance] at moved
      split at moved
      · cases moved
        rw [enter,if_pos locks]
        exact alone_out alone rfl
      · cases moved
  | run caller =>
      obtain ⟨phase,holds,moved⟩ := Option.bind_eq_some_iff.mp moved
      exact alone_runStep alone ordered holds moved
  | fault caller applied =>
      obtain ⟨phase,holds,moved⟩ := Option.bind_eq_some_iff.mp moved
      exact alone_faultStep alone ordered holds moved
  | timeout caller =>
      simp only [advance] at moved
      split at moved
      · cases moved
        exact alone_out alone rfl
      · cases moved
  | crash caller =>
      obtain ⟨phase,holds,rfl⟩ := Option.map_eq_some_iff.mp moved
      exact alone_out alone rfl
  | lose caller =>
      simp only [advance] at moved
      split at moved
      · rename_i held
        cases moved
        refine alone_lock alone (fun other phase holds => ?_) none
        cases its : phase.inside with
        | false => rfl
        | true =>
            have theirs := alone.holder other phase holds its
            rw [held] at theirs
            have same := Option.some.inj theirs
            subst same
            rw [allowed phase holds] at its
            cases its
      · cases moved

end alone

-- Runs of migrate in any order, stopped anywhere: what the ledger holds are the first steps, each finished before a later one began.
theorem steps_recorded_in_order (dialect : Dialect) {start s : State} (initial : (migrations dialect).initial start)
    (path : Path (migrations dialect) anyStep start s) :
    appliedMigrations s = steps.take s.names.length ∧
    (∀ k, start.names.length ≤ k → k < s.names.length → Event.finished k ∈ s.log) ∧
    (∀ before k rest, s.log = before ++ Event.started k :: rest → ∀ j, start.names.length ≤ j → j < k → Event.finished j ∈ before) ∧
    ∀ caller, s.calls caller = some .returned → appliedMigrations s = steps := by
  have ordered := ordered_path initial path
  have its := List.prefix_iff_eq_take.mp ordered.ledger
  have applied : appliedMigrations s = steps.take s.names.length := by
    have ascending : s.names.Pairwise fun a b => a ≤ b := by
      rw [its]
      exact steps_ascending.sublist (List.take_sublist _ _)
    rw [appliedMigrations,ascending.insertionSort_eq]
    exact its
  refine ⟨applied,ordered.finished,ordered.log,fun caller holds => ?_⟩
  rw [applied,(ordered.calls caller _ holds).ended (.inl rfl),List.take_length]

-- Under a lock whose connection is kept, no two bodies run at a time, none starts again once it is recorded, and none after a later one.
theorem steps_exclusive (dialect : Dialect) (locks : dialect.locks = true) {start s : State} (initial : (migrations dialect).initial start)
    (path : Path (migrations dialect) Connected start s) :
    (∀ caller other j k, s.calls caller = some (.running j) → s.calls other = some (.running k) → caller = other) ∧
    ∀ before k rest, s.log = before ++ Event.started k :: rest →
      (∀ j, Event.started j ∈ before → j ≤ k) ∧ Event.recorded k ∉ before := by
  have alone := path.invariant (fun u => Ordered start.names.length u ∧ Alone u) ⟨ordered_start initial,alone_start initial⟩ ?_
  · refine ⟨fun caller other j k holds holds' => ?_,alone.2.order⟩
    have mine := alone.2.holder caller _ holds rfl
    rw [alone.2.holder other _ holds' rfl] at mine
    exact (Option.some.inj mine).symm
  · rintro u action next ⟨ordered,alone⟩ allowed moved
    exact ⟨ordered_advance ordered moved,alone_advance locks alone ordered allowed moved⟩

-- The first run crashes in the body of a step; the second does that step again and the one that is left.
def resumed : List Action :=
  [.migrate 0 :: List.replicate 49 (.run 0),[.crash 0,.lose 0],.migrate 1 :: List.replicate 56 (.run 1)].flatten

def nearly : State := ⟨some (steps.take 23),none,fun _ => none,[]⟩

def finishedTwice (s : State) : Bool :=
  s.calls 1 == some .returned && s.log == [.started 23,.started 23,.finished 23,.recorded 23,.started 24,.finished 24,.recorded 24]

theorem nearly_initial : Initial nearly := ⟨List.take_prefix _ _,rfl,rfl,rfl⟩

theorem steps_recorded_resumed : ∃ s, finishedTwice s = true ∧ appliedMigrations s = steps := by
  have passed : (run (migrations .postgresql) anyStep nearly resumed).any finishedTwice = true := by decide +kernel
  obtain ⟨s,path,found⟩ := run_lands passed
  have returned := found
  rw [finishedTwice,Bool.and_eq_true,beq_iff_eq] at returned
  exact ⟨s,found,(steps_recorded_in_order .postgresql nearly_initial path).2.2.2 1 returned.1⟩

-- The connection of a lock is lost after its call has crashed.
def kept (s : State) : Action → Bool
  | .lose caller => (s.calls caller).all fun phase => !phase.inside
  | _ => true

theorem kept_connected (s : State) (action : Action) (its : kept s action = true) : Connected s action := by
  cases action with
  | lose caller =>
      intro phase holds
      simpa [kept,holds] using its
  | migrate | run | fault | timeout | crash => trivial

theorem steps_exclusive_resumed : ∃ s, finishedTwice s = true ∧ ∀ before k rest, s.log = before ++ Event.started k :: rest →
    (∀ j, Event.started j ∈ before → j ≤ k) ∧ Event.recorded k ∉ before := by
  have passed : (run (migrations .postgresql) (fun s action => kept s action = true) nearly resumed).any finishedTwice = true := by
    decide +kernel
  obtain ⟨s,path,found⟩ := run_lands passed
  exact ⟨s,found,(steps_exclusive .postgresql rfl nearly_initial (path.weaken kept_connected)).2⟩

end Payable.Schema
