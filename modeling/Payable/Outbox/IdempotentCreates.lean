import Payable.Outbox.CreateStatements

namespace Payable.Outbox.Creates
open Transactions UniqueIndexes

variable {Payload : Type} {driver : Driver} {uuids : Uuids} {s next : State Payload}

-- The insert of the call has come to its end.
def Phase.past : Phase Payload → Bool
  | .finding | .inserting => false
  | _ => true

-- What the work of a call sees of the row that the call is after.
def Reaches (db : Db Payload) (call : Call Payload) : Prop :=
  match call.phase with
  | .finding => call.row.dedupeKey.isSome = true
  | .inserting => True
  | .requerying => call.row.dedupeKey.isSome = true ∧
      ∃ row, .event row ∈ seen db call.work ∧ dedupeIndex row = dedupeIndex call.row
  | .loading => .event call.row ∈ seen db call.work
  | .returned row => .event row ∈ seen db call.work ∧ dedupeIndex row = dedupeIndex call.row
  | .thrown => False

structure CallSound (uuids : Uuids) (s : State Payload) (caller : Nat) (call : Call Payload) : Prop where
  drawn : call.row.id = uuids.draw caller
  named : call.row.tenantId ≠ some ""
  work : ∃ work, s.works call.work = some work ∧ (call.phase.inFlight = true → caller ∈ work.running) ∧
    (work.ending ≠ some .rolledBack → Reaches s.db call)

structure WorkSound (work : Work) : Prop where
  unaborted : work.aborted = false
  unfailed : work.ending ≠ some .failed
  awaited : work.ending = some .committed → work.running = []
  plain : work.transactional = false → work.ending = none

structure Sound (uuids : Uuids) (s : State Payload) : Prop where
  unique : Unique index s.db
  holders : ∀ n key, Holds s.db n key → Open s.works n
  staged : ∀ n row, row ∈ s.db.writes n → Open s.works n
  works : ∀ n work, s.works n = some work → WorkSound work
  origin : ∀ n row, .event row ∈ seen s.db n →
    ∃ caller call, s.calls caller = some call ∧ call.row = row ∧ call.phase.past = true
  calls : ∀ caller call, s.calls caller = some call → CallSound uuids s caller call

theorem reaches_grows {db db' : Db Payload} {call : Call Payload}
    (grows : ∀ row, row ∈ seen db call.work → row ∈ seen db' call.work) (reaches : Reaches db call) : Reaches db' call := by
  unfold Reaches at reaches ⊢
  cases phase : call.phase with
  | finding | inserting => simpa [phase] using reaches
  | thrown => simp [phase] at reaches
  | requerying =>
      rw [phase] at reaches
      obtain ⟨some_,row,there,same⟩ := reaches
      exact ⟨some_,row,grows _ there,same⟩
  | loading =>
      rw [phase] at reaches
      exact grows _ reaches
  | returned row =>
      rw [phase] at reaches
      exact ⟨grows _ reaches.1,reaches.2⟩

-- What a step leaves to the calls that it does not move.
def Leaves (s next : State Payload) (other : Nat) : Prop :=
  ∀ n work, s.works n = some work → ∃ work', next.works n = some work' ∧ (other ∈ work.running → other ∈ work'.running) ∧
    (work'.ending ≠ some .rolledBack → work.ending ≠ some .rolledBack ∧ ∀ row, row ∈ seen s.db n → row ∈ seen next.db n)

theorem callSound_later (sound : CallSound uuids s other call) (leaves : Leaves s next other) : CallSound uuids next other call := by
  obtain ⟨work,live,running,reaches⟩ := sound.work
  obtain ⟨work',live',kept,grows⟩ := leaves call.work work live
  refine ⟨sound.drawn,sound.named,work',live',fun flying => kept (running flying),?_⟩
  intro stands
  exact reaches_grows (grows stands).2 (reaches (grows stands).1)

-- The rest of the state after a step of the works and the database only.
theorem sound_calls (sound : Sound uuids s) (calls : next.calls = s.calls) (unique : Unique index next.db)
    (holders : ∀ n key, Holds next.db n key → Open next.works n) (staged : ∀ n row, row ∈ next.db.writes n → Open next.works n)
    (works : ∀ n work, next.works n = some work → WorkSound work)
    (written : ∀ n row, .event row ∈ seen next.db n → ∃ m, .event row ∈ seen s.db m)
    (leaves : ∀ other, Leaves s next other) : Sound uuids next := by
  refine ⟨unique,holders,staged,works,?_,?_⟩
  · intro n row there
    obtain ⟨m,before⟩ := written n row there
    rw [calls]
    exact sound.origin m row before
  · intro caller call live
    rw [calls] at live
    exact callSound_later (sound.calls caller call live) (leaves caller)

-- The same after a step of one call.
theorem sound_call (sound : Sound uuids s) (called : Call Payload)
    (calls : next.calls = Function.update s.calls caller (some called))
    (before : ∀ call, s.calls caller = some call → called.row = call.row ∧ (call.phase.past = true → called.phase.past = true))
    (own : CallSound uuids next caller called) (unique : Unique index next.db)
    (holders : ∀ n key, Holds next.db n key → Open next.works n) (staged : ∀ n row, row ∈ next.db.writes n → Open next.works n)
    (works : ∀ n work, next.works n = some work → WorkSound work)
    (written : ∀ n row, .event row ∈ seen next.db n → (∃ m, .event row ∈ seen s.db m) ∨ row = called.row ∧ called.phase.past = true)
    (leaves : ∀ other, other ≠ caller → Leaves s next other) : Sound uuids next := by
  have mine : next.calls caller = some called := by rw [calls,Function.update_self]
  refine ⟨unique,holders,staged,works,?_,?_⟩
  · intro n row there
    rcases written n row there with ⟨m,old⟩ | ⟨rfl,stored⟩
    · obtain ⟨other,its,theirs,row_,done⟩ := sound.origin m row old
      by_cases moved : other = caller
      · subst moved
        obtain ⟨same,past⟩ := before its theirs
        exact ⟨other,called,mine,same.trans row_,past done⟩
      · refine ⟨other,its,?_,row_,done⟩
        rw [calls,Function.update_of_ne moved]
        exact theirs
    · exact ⟨caller,called,mine,rfl,stored⟩
  · intro other its theirs
    by_cases moved : other = caller
    · subst moved
      rw [mine] at theirs
      cases theirs
      exact own
    · rw [calls,Function.update_of_ne moved] at theirs
      exact callSound_later (sound.calls other its theirs) (leaves other moved)

-- A work that stays as it was but for its running creates.
theorem open_rerun {works : Nat → Option Work} {work : Work} (live : works n = some work) (running : List Nat) (open_ : Open works m) :
    Open (Function.update works n (some {work with running := running})) m := by
  by_cases same : m = n
  · subst same
    obtain ⟨its,theirs,transactional,ending⟩ := open_
    rw [live] at theirs
    cases theirs
    exact ⟨_,Function.update_self _ _ _,transactional,ending⟩
  · obtain ⟨its,theirs,both⟩ := open_
    exact ⟨its,(Function.update_of_ne same _ _).trans theirs,both⟩

theorem works_set {works : Nat → Option Work} (sound : ∀ m its, works m = some its → WorkSound its) (own : WorkSound work) :
    ∀ m its, Function.update works n (some work) m = some its → WorkSound its := by
  intro m its theirs
  by_cases same : m = n
  · subst same
    rw [Function.update_self] at theirs
    cases theirs
    exact own
  · rw [Function.update_of_ne same] at theirs
    exact sound m its theirs

theorem leaves_set {work work' : Work} (live : s.works n = some work) (works : next.works = Function.update s.works n (some work'))
    (running : other ∈ work.running → other ∈ work'.running)
    (ending : work'.ending ≠ some .rolledBack → work.ending ≠ some .rolledBack)
    (grows : ∀ m, (m = n → work'.ending ≠ some .rolledBack) → ∀ row, row ∈ seen s.db m → row ∈ seen next.db m) :
    Leaves s next other := by
  intro m its theirs
  by_cases same : m = n
  · subst same
    rw [live] at theirs
    cases theirs
    exact ⟨work',by rw [works,Function.update_self],running,fun stands => ⟨ending stands,grows m fun _ => stands⟩⟩
  · refine ⟨its,by rw [works,Function.update_of_ne same]; exact theirs,fun inside => inside,?_⟩
    exact fun stands => ⟨stands,grows m fun mine => absurd mine same⟩

theorem leaves_kept (works : next.works = s.works) (grows : ∀ m row, row ∈ seen s.db m → row ∈ seen next.db m) : Leaves s next other := by
  intro m its theirs
  exact ⟨its,by rw [works]; exact theirs,fun inside => inside,fun stands => ⟨stands,grows m⟩⟩

-- A call that comes to its end, or goes on to its next statement, with nothing written.
theorem sound_finish (sound : Sound uuids s) (live : s.calls caller = some call) (working : s.works call.work = some work)
    (past : phase.past = true) (done : phase.inFlight = false)
    (reaches : work.ending ≠ some .rolledBack → Reaches s.db {call with phase := phase}) :
    Sound uuids (s.finish caller call work phase) := by
  have before := sound.calls caller call live
  have whole := sound.works call.work work working
  refine sound_call sound {call with phase := phase} rfl ?_ ?_ sound.unique ?_ ?_ ?_ ?_ ?_
  · intro its theirs
    rw [live] at theirs
    cases theirs
    exact ⟨rfl,fun _ => past⟩
  · refine ⟨before.drawn,before.named,_,Function.update_self _ _ _,?_,reaches⟩
    intro flying
    cases done.symm.trans flying
  · exact fun n key held => open_rerun working _ (sound.holders n key held)
  · exact fun n row member => open_rerun working _ (sound.staged n row member)
  · refine works_set sound.works ⟨whole.unaborted,whole.unfailed,?_,whole.plain⟩
    intro committed
    rw [whole.awaited committed]
    rfl
  · exact fun n row there => .inl ⟨n,there⟩
  · intro other apart
    refine leaves_set working rfl ?_ (fun stands => stands) (fun _ _ _ inside => inside)
    exact fun inside => (List.mem_erase_of_ne apart).mpr inside

theorem sound_enter (sound : Sound uuids s) (live : s.calls caller = some call) (working : s.works call.work = some work)
    (flying : call.phase.inFlight = true) (fresh : call.phase.past = false)
    (reaches : work.ending ≠ some .rolledBack → Reaches s.db {call with phase := phase}) :
    Sound uuids (s.enter caller call phase) := by
  have before := sound.calls caller call live
  obtain ⟨its,theirs,running,_⟩ := before.work
  rw [working] at theirs
  cases theirs
  refine sound_call sound {call with phase := phase} rfl ?_ ?_ sound.unique sound.holders sound.staged sound.works ?_ ?_
  · intro its theirs
    rw [live] at theirs
    cases theirs
    exact ⟨rfl,fun past => by cases fresh.symm.trans past⟩
  · exact ⟨before.drawn,before.named,work,working,fun _ => running flying,reaches⟩
  · exact fun n row there => .inl ⟨n,there⟩
  · exact fun other _ => leaves_kept rfl fun _ _ inside => inside

-- A row stored by a work, in its transaction or on its own.
structure Added (s : State Payload) (n : Nat) (row : Stored Payload) (db : Db Payload) : Prop where
  unique : Unique index db
  holders : ∀ m key, Holds db m key → Open s.works m
  staged : ∀ m its, its ∈ db.writes m → Open s.works m
  grows : ∀ m its, its ∈ seen s.db m → its ∈ seen db m
  there : row ∈ seen db n
  only : ∀ m its, its ∈ seen db m → (∃ k, its ∈ seen s.db k) ∨ its = row

theorem added_stored (sound : Sound uuids s) (working : s.works n = some work) (live : work.ending = none)
    (stored : insert index s.db n row = .stored db) : Added s n row (settled work n db) := by
  obtain ⟨committed,writes,_,holders⟩ := insert_stored stored
  have unique := unique_insert sound.unique stored
  have mine : seen db n = seen s.db n ++ [row] := by
    rw [seen_eq,seen_eq,committed,writes,Function.update_self,List.append_assoc]
  have theirs : ∀ m, m ≠ n → seen db m = seen s.db m := by
    intro m apart
    rw [seen_eq,seen_eq,committed,writes,Function.update_of_ne apart]
  have held : ∀ m key, m ≠ n → Holds db m key → Open s.works m := by
    intro m key apart holds
    rcases (holders m key).mp holds with before | ⟨same,_⟩
    · exact sound.holders m key before
    · exact absurd same apart
  have written : ∀ m its, m ≠ n → its ∈ db.writes m → Open s.works m := by
    intro m its apart member
    rw [writes,Function.update_of_ne apart] at member
    exact sound.staged m its member
  cases transactional : work.transactional with
  | true =>
      rw [settled,if_pos transactional]
      have own : Open s.works n := ⟨work,working,transactional,live⟩
      refine ⟨unique,?_,?_,?_,?_,?_⟩
      · intro m key holds
        by_cases same : m = n
        · rw [same]
          exact own
        · exact held m key same holds
      · intro m its member
        by_cases same : m = n
        · rw [same]
          exact own
        · exact written m its same member
      · intro m its inside
        by_cases same : m = n
        · rw [same] at inside ⊢
          rw [mine]
          exact List.mem_append_left _ inside
        · rw [theirs m same]
          exact inside
      · rw [mine]
        exact List.mem_append_right _ List.mem_cons_self
      · intro m its inside
        by_cases same : m = n
        · rw [same,mine] at inside
          rcases List.mem_append.mp inside with before | new
          · exact .inl ⟨n,before⟩
          · exact .inr (List.mem_singleton.mp new)
        · rw [theirs m same] at inside
          exact .inl ⟨m,inside⟩
  | false =>
      rw [settled,if_neg (by rw [transactional]; exact Bool.false_ne_true)]
      have rows : (commit append db n).committed = seen s.db n ++ [row] := mine
      have others : ∀ m, m ≠ n → seen (commit append db n) m = seen s.db n ++ [row] ++ db.writes m := by
        intro m apart
        rw [seen_eq,rows,show (commit append db n).writes m = db.writes m from Function.update_of_ne apart _ _]
      have silent : seen (commit append db n) n = seen s.db n ++ [row] := by
        rw [seen_eq,rows,show (commit append db n).writes n = [] from Function.update_self _ _ _,List.append_nil]
      refine ⟨unique_commit unique n,?_,?_,?_,?_,?_⟩
      · intro m key holds
        obtain ⟨apart,before⟩ := (unlocked_holders _ _ _ _).mp holds
        exact held m key apart before
      · intro m its member
        by_cases same : m = n
        · rw [same,show (commit append db n).writes n = [] from Function.update_self _ _ _] at member
          cases member
        · rw [show (commit append db n).writes m = db.writes m from Function.update_of_ne same _ _] at member
          exact written m its same member
      · intro m its inside
        by_cases same : m = n
        · rw [same] at inside ⊢
          rw [silent]
          exact List.mem_append_left _ inside
        · rw [others m same]
          rw [← theirs m same,seen_eq,committed] at inside
          rcases List.mem_append.mp inside with before | staged
          · refine List.mem_append_left _ (List.mem_append_left _ ?_)
            rw [seen_eq]
            exact List.mem_append_left _ before
          · exact List.mem_append_right _ staged
      · rw [silent]
        exact List.mem_append_right _ List.mem_cons_self
      · intro m its inside
        have split : its ∈ seen s.db n ++ [row] ∨ m ≠ n ∧ its ∈ db.writes m := by
          by_cases same : m = n
          · rw [same,silent] at inside
            exact .inl inside
          · rw [others m same] at inside
            exact (List.mem_append.mp inside).imp id fun staged => ⟨same,staged⟩
        rcases split with own | ⟨apart,staged⟩
        · rcases List.mem_append.mp own with before | new
          · exact .inl ⟨n,before⟩
          · exact .inr (List.mem_singleton.mp new)
        · refine .inl ⟨m,?_⟩
          rw [← theirs m apart,seen_eq]
          exact List.mem_append_right _ staged

theorem mem_events {rows : List (Stored Payload)} : row ∈ events rows ↔ .event row ∈ rows := by
  unfold events
  rw [List.mem_filterMap]
  constructor
  · rintro ⟨stored,member,same⟩
    cases stored with
    | event its =>
        cases same
        exact member
    | other entry => cases same
  · intro member
    exact ⟨_,member,rfl⟩

theorem matching_index (matched : matching driver wanted row = true) : dedupeIndex row = dedupeIndex (wanted : OutboxEvent Payload) := by
  obtain ⟨key,tenant⟩ := Bool.and_eq_true_iff.mp matched
  have owner : row.tenantId.getD "" = wanted.tenantId.getD "" := by
    cases driver with
    | knex => rw [eq_of_beq tenant]
    | prisma => exact eq_of_beq tenant
  rw [dedupeIndex,dedupeIndex,eq_of_beq key,owner]

theorem tenant_named {tenantId tenantId' : Option String} (same : tenantId.getD "" = tenantId'.getD "") (named : tenantId ≠ some "")
    (named' : tenantId' ≠ some "") : tenantId = tenantId' := by
  cases tenantId <;> cases tenantId' <;> simp_all

theorem dedupeIndex_some {row wanted : OutboxEvent Payload} (same : dedupeIndex row = dedupeIndex wanted)
    (keyed : wanted.dedupeKey.isSome = true) : row.dedupeKey = wanted.dedupeKey ∧ row.tenantId.getD "" = wanted.tenantId.getD "" := by
  obtain ⟨key,stored⟩ := Option.isSome_iff_exists.mp keyed
  simp only [dedupeIndex,stored,Option.map_some] at same
  cases own : row.dedupeKey with
  | none => simp [own] at same
  | some its =>
      simp only [own,Option.map_some,Option.some.injEq,Prod.mk.injEq] at same
      exact ⟨by rw [stored,same.2],same.1⟩

theorem matching_of_index (driver : Driver) {row wanted : OutboxEvent Payload} (same : dedupeIndex row = dedupeIndex wanted)
    (keyed : wanted.dedupeKey.isSome = true) (named : row.tenantId ≠ some "") (named' : wanted.tenantId ≠ some "") :
    matching driver wanted row = true := by
  obtain ⟨key,owner⟩ := dedupeIndex_some same keyed
  have tenant := tenant_named owner named named'
  cases driver <;> simp [matching,key,tenant]

theorem named_of_seen (sound : Sound uuids s) (there : .event row ∈ seen s.db n) : row.tenantId ≠ some "" := by
  obtain ⟨caller,call,live,rfl,_⟩ := sound.origin n row there
  exact (sound.calls caller call live).named

-- A UUID is of one row.
theorem row_of_id (sound : Sound uuids s) (live : s.calls caller = some call) (there : .event row ∈ seen s.db n)
    (same : row.id = call.row.id) : row = call.row := by
  obtain ⟨other,its,theirs,rfl,_⟩ := sound.origin n row there
  rw [(sound.calls other its theirs).drawn,(sound.calls caller call live).drawn] at same
  cases uuids.apart same
  rw [live] at theirs
  cases theirs
  rfl

theorem sound_stored (sound : Sound uuids s) (live : s.calls caller = some call) (working : s.works call.work = some work)
    (flying : call.phase.inFlight = true) (added : Added s call.work (.event call.row) db) :
    Sound uuids ({s with db := db}.enter caller call .loading) ∧
      Sound uuids ({s with db := db}.finish caller call work (.returned call.row)) := by
  have before := sound.calls caller call live
  have whole := sound.works call.work work working
  obtain ⟨its,theirs,running,_⟩ := before.work
  rw [working] at theirs
  cases theirs
  have kept : ∀ phase : Phase Payload, phase.past = true → ∀ its, s.calls caller = some its →
      ({call with phase := phase} : Call Payload).row = its.row ∧ (its.phase.past = true → phase.past = true) := by
    intro phase past its theirs
    rw [live] at theirs
    cases theirs
    exact ⟨rfl,fun _ => past⟩
  have written : ∀ n row, .event row ∈ seen db n → (∃ m, .event row ∈ seen s.db m) ∨ row = call.row := by
    intro n row there
    rcases added.only n _ there with old | new
    · exact .inl old
    · cases new
      exact .inr rfl
  constructor
  · refine sound_call sound {call with phase := .loading} rfl (kept _ rfl) ?_ added.unique added.holders added.staged sound.works ?_ ?_
    · exact ⟨before.drawn,before.named,work,working,fun _ => running flying,fun _ => added.there⟩
    · exact fun n row there => (written n row there).imp id fun same => ⟨same,rfl⟩
    · exact fun other _ => leaves_kept rfl added.grows
  · refine sound_call sound {call with phase := .returned call.row} rfl (kept _ rfl) ?_ added.unique ?_ ?_ ?_ ?_ ?_
    · refine ⟨before.drawn,before.named,_,Function.update_self _ _ _,?_,fun _ => ⟨added.there,rfl⟩⟩
      intro flying
      cases flying
    · exact fun n key held => open_rerun working _ (added.holders n key held)
    · exact fun n row member => open_rerun working _ (added.staged n row member)
    · refine works_set sound.works ⟨whole.unaborted,whole.unfailed,?_,whole.plain⟩
      intro committed
      rw [whole.awaited committed]
      rfl
    · exact fun n row there => (written n row there).imp id fun same => ⟨same,rfl⟩
    · intro other apart
      refine leaves_set working rfl ?_ (fun stands => stands) (fun m _ => added.grows m)
      exact fun inside => (List.mem_erase_of_ne apart).mpr inside

theorem taken_event {rows : List (Stored Payload)} (taken_ : taken index rows key = true) :
    ∃ row, .event row ∈ rows ∧ dedupeIndex row = some key := by
  obtain ⟨stored,member,same⟩ := List.any_eq_true.mp taken_
  rw [decide_eq_true_eq] at same
  cases stored with
  | event row => exact ⟨row,member,same⟩
  | other entry => cases same

-- A row with the call's key is found by the call's look-up.
theorem found_again (driver : Driver) (sound : Sound uuids s) (live : s.calls caller = some call)
    (keyed : call.row.dedupeKey.isSome = true) (there : .event row ∈ seen s.db call.work) (same : dedupeIndex row = dedupeIndex call.row) :
    ∃ found, (s.sees call.work).find? (matching driver call.row) = some found := by
  refine Option.isSome_iff_exists.mp (List.find?_isSome.mpr ⟨row,mem_events.mpr there,?_⟩)
  exact matching_of_index driver same keyed (named_of_seen sound there) (sound.calls caller call live).named

theorem returned_reaches {call : Call Payload} (found : (s.sees call.work).find? (matching driver call.row) = some row) :
    Reaches s.db {call with phase := .returned row} :=
  ⟨mem_events.mp (List.mem_of_find?_eq_some found),matching_index (List.find?_some found)⟩

-- Outside of a transaction, and in one where nobody was first, a unique violation is of a plain work.
theorem violated_plain (sound : Sound uuids s) (live : s.calls caller = some call) (working : s.works call.work = some work)
    (open_ : work.ending = none) (phase : call.phase = .inserting) (calm : racing s caller = false)
    (violated : insert index s.db call.work (.event call.row) = .violated) :
    work.transactional = false ∧ ∃ row, .event row ∈ seen s.db call.work ∧ dedupeIndex row = dedupeIndex call.row ∧
      call.row.dedupeKey.isSome = true := by
  have collided := insert_violated violated
  obtain ⟨key,own,taken_⟩ := (Option.any_eq_true _ _).mp collided
  obtain ⟨row,there,same⟩ := taken_event taken_
  refine ⟨?_,row,there,same.trans own.symm,?_⟩
  · simpa [racing,live,working,open_,phase,collided,(sound.works call.work work working).unaborted] using calm
  · change dedupeIndex call.row = some key at own
    cases keyed : call.row.dedupeKey with
    | none => simp [dedupeIndex,keyed] at own
    | some its => rfl

theorem setWork_same (working : s.works n = some work) : s.setWork n work = s := by
  have same : Function.update s.works n (some work) = s.works := by
    rw [← working]
    exact Function.update_eq_self _ _
  rw [State.setWork,same]

theorem sound_statement (sound : Sound uuids s) (live : s.calls caller = some call) (working : s.works call.work = some work)
    (calm : racing s caller = false) (moved : statement driver s caller call work = some next) : Sound uuids next := by
  have whole := sound.works call.work work working
  have before := sound.calls caller call live
  obtain ⟨its,theirs,running,reaches⟩ := before.work
  rw [working] at theirs
  cases theirs
  unfold statement at moved
  cases over_ : work.ending with
  | some ending =>
      -- Only a transaction that its caller rolled back leaves creates behind.
      simp only [over_,Option.isSome_some,Bool.true_or,if_true] at moved
      split at moved <;> cases moved
      rename_i flying
      have rolled : work.ending = some .rolledBack := by
        cases ending with
        | rolledBack => exact over_
        | failed => exact absurd over_ whole.unfailed
        | committed =>
            have inside := running flying
            rw [whole.awaited over_] at inside
            cases inside
      exact sound_finish sound live working rfl rfl fun stands => absurd rolled stands
  | none =>
      have stands : work.ending ≠ some .rolledBack := by rw [over_]; exact fun same => nomatch same
      have now_ := reaches stands
      rw [if_neg (by simp [over_,whole.unaborted])] at moved
      cases phase : call.phase with
      | finding =>
          simp only [phase] at moved
          split at moved <;> cases moved
          · rename_i existing found
            exact sound_finish sound live working rfl rfl fun _ => returned_reaches found
          · exact sound_enter sound live working (by rw [phase]; rfl) (by rw [phase]; rfl) fun _ => trivial
      | inserting =>
          simp only [phase] at moved
          split at moved
          · cases moved
          · rename_i violated
            obtain ⟨plain,row,there,same,keyed⟩ := violated_plain sound live working over_ phase calm violated
            have keyed_ : call.row.dedupeKey.isNone = false := by rw [← Option.not_isSome,keyed]; rfl
            have unchanged : ({work with aborted := work.transactional} : Work) = work :=
              congrArg (fun aborted => ({work with aborted := aborted} : Work)) (plain.trans whole.unaborted.symm)
            rw [if_neg (by rw [keyed_]; exact Bool.false_ne_true),unchanged,
              setWork_same (s := s.enter caller call .requerying) working] at moved
            cases moved
            exact sound_enter sound live working (by rw [phase]; rfl) (by rw [phase]; rfl) fun _ => ⟨keyed,row,there,same⟩
          · rename_i db stored
            have added := added_stored sound working over_ stored
            obtain ⟨loading,returned⟩ := sound_stored sound live working (by rw [phase]; rfl) added
            cases driver with
            | knex =>
                cases moved
                exact loading
            | prisma =>
                cases moved
                exact returned
      | requerying =>
          simp only [phase] at moved
          simp only [Reaches,phase] at now_
          obtain ⟨keyed,row,there,same⟩ := now_
          obtain ⟨raced,found⟩ := found_again driver sound live keyed there same
          rw [found] at moved
          cases moved
          exact sound_finish sound live working rfl rfl fun _ => returned_reaches found
      | loading =>
          simp only [phase] at moved
          simp only [Reaches,phase] at now_
          split at moved <;> cases moved
          · rename_i loaded found
            have there := mem_events.mp (List.mem_of_find?_eq_some found)
            have same := row_of_id sound live there (by simpa using List.find?_some found)
            refine sound_finish sound live working rfl rfl fun _ => ⟨there,?_⟩
            rw [same]
          · rename_i missed
            exact absurd (decide_eq_true rfl) (List.find?_eq_none.mp missed call.row (mem_events.mpr now_))
      | returned | thrown =>
          simp only [phase] at moved
          cases moved

theorem live_work (live : s.live n = some work) : s.works n = some work ∧ work.ending = none := by
  obtain ⟨working,open_⟩ := Option.filter_eq_some_iff.mp live
  exact ⟨working,Option.isNone_iff_eq_none.mp open_⟩

-- The end of a transaction, with the rows it leaves behind it.
theorem sound_ended (sound : Sound uuids s) (working : s.works n = some work) (open_ : work.ending = none) (ending : Ending)
    (unfailed : ending ≠ .failed) (awaited : ending = .committed → work.running = []) (transactional : work.transactional = true)
    {db : Db Payload} (unique : Unique index db) (writes : db.writes = Function.update s.db.writes n [])
    (locks : db.locks = unlocked s.db.locks n) (rows : ∀ row, row ∈ db.committed → row ∈ seen s.db n)
    (grows : ∀ row, row ∈ s.db.committed → row ∈ db.committed)
    (own : ending ≠ .rolledBack → ∀ row, row ∈ seen s.db n → row ∈ db.committed) :
    Sound uuids ({s with db := db}.setWork n {work with ending := some ending}) := by
  have others : ∀ m, m ≠ n → db.writes m = s.db.writes m := by
    intro m apart
    rw [writes,Function.update_of_ne apart]
  have silent : db.writes n = [] := by rw [writes,Function.update_self]
  have opened : ∀ m, m ≠ n → Open s.works m → Open (Function.update s.works n (some {work with ending := some ending})) m := by
    rintro m apart ⟨its,theirs,both⟩
    exact ⟨its,(Function.update_of_ne apart _ _).trans theirs,both⟩
  refine sound_calls sound rfl unique ?_ ?_ ?_ ?_ ?_
  · intro m key holds
    obtain ⟨apart,before⟩ := (unlocked_holders _ _ _ _).mp (by rw [← locks]; exact holds)
    exact opened m apart (sound.holders m key before)
  · intro m row member
    change row ∈ db.writes m at member
    by_cases same : m = n
    · rw [same,silent] at member
      cases member
    · rw [others m same] at member
      exact opened m same (sound.staged m row member)
  · have whole := sound.works n work working
    refine works_set sound.works ⟨whole.unaborted,fun same => unfailed (Option.some.inj same),?_,?_⟩
    · exact fun same => awaited (Option.some.inj same)
    · intro plain
      cases transactional.symm.trans plain
  · intro m row there
    change .event row ∈ seen db m at there
    rw [seen_eq] at there
    rcases List.mem_append.mp there with committed | staged
    · exact ⟨n,rows _ committed⟩
    · by_cases same : m = n
      · rw [same,silent] at staged
        cases staged
      · rw [others m same] at staged
        exact ⟨m,by rw [seen_eq]; exact List.mem_append_right _ staged⟩
  · intro other
    refine leaves_set working rfl (fun inside => inside) (fun _ => by rw [open_]; exact fun same => nomatch same) ?_
    intro m stands row inside
    change row ∈ seen db m
    rw [seen_eq]
    by_cases same : m = n
    · rw [same] at inside
      exact List.mem_append_left _ (own (fun rolled => stands same (congrArg some rolled)) row inside)
    · rw [seen_eq] at inside
      rw [others m same]
      rcases List.mem_append.mp inside with committed | staged
      · exact List.mem_append_left _ (grows row committed)
      · exact List.mem_append_right _ staged

theorem sound_preserved (sound : Sound uuids s) (calm : unraced s action) (moved : advance driver uuids s action = some next) :
    Sound uuids next := by
  cases action with
  | start n transactional =>
      simp only [advance] at moved
      split at moved <;> cases moved
      rename_i absent
      have opened : ∀ m, Open s.works m → Open (Function.update s.works n (some ⟨transactional,false,[],none⟩)) m := by
        rintro m ⟨work,working,both⟩
        have apart : m ≠ n := by
          rintro rfl
          cases absent.symm.trans working
        exact ⟨work,(Function.update_of_ne apart _ _).trans working,both⟩
      refine sound_calls sound rfl sound.unique ?_ ?_ ?_ ?_ ?_
      · exact fun m key held => opened m (sound.holders m key held)
      · exact fun m row member => opened m (sound.staged m row member)
      · refine works_set sound.works ⟨rfl,?_,?_,fun _ => rfl⟩
        · rintro ⟨⟩
        · rintro ⟨⟩
      · exact fun m row there => ⟨m,there⟩
      · intro other m work working
        have apart : m ≠ n := by
          rintro rfl
          cases absent.symm.trans working
        exact ⟨work,(Function.update_of_ne apart _ _).trans working,fun inside => inside,fun stands => ⟨stands,fun _ inside => inside⟩⟩
  | write n entry =>
      obtain ⟨work,live,step⟩ := Option.bind_eq_some_iff.mp moved
      obtain ⟨working,open_⟩ := live_work live
      split at step <;> cases step
      have stored : UniqueIndexes.insert index s.db n (.other entry) = .stored (write s.db n (.other entry)) := by
        simp [UniqueIndexes.insert,collides,index]
      have added := added_stored sound working open_ stored
      refine sound_calls sound rfl added.unique added.holders added.staged sound.works ?_ ?_
      · intro m row there
        rcases added.only m _ there with before | new
        · exact before
        · cases new
      · exact fun other => leaves_kept rfl added.grows
  | create caller n input now =>
      obtain ⟨work,live,step⟩ := Option.bind_eq_some_iff.mp moved
      obtain ⟨working,open_⟩ := live_work live
      split at step
      · cases step
      · rename_i absent
        cases step
        have whole := sound.works n work working
        refine sound_call sound ⟨n,stage input.data (uuids.draw caller) now,_⟩ rfl ?_ ?_ sound.unique ?_ ?_ ?_ ?_ ?_
        · intro call theirs
          cases absent.symm.trans theirs
        · refine ⟨rfl,?_,_,Function.update_self _ _ _,fun _ => List.mem_cons_self,?_⟩
          · cases tenant : input.tenantId with
            | none => simp [stage,Input.data,tenant]
            | some its => simpa [stage,Input.data,tenant] using its.named
          · intro _
            cases keyed : input.dedupeKey with
            | none => simp [Reaches]
            | some key => simp [Reaches,stage,Input.data,keyed]
        · exact fun m key held => open_rerun working _ (sound.holders m key held)
        · exact fun m row member => open_rerun working _ (sound.staged m row member)
        · refine works_set sound.works ⟨whole.unaborted,whole.unfailed,?_,whole.plain⟩
          intro committed
          cases open_.symm.trans committed
        · exact fun m row there => .inl ⟨m,there⟩
        · intro other _
          refine leaves_set working rfl ?_ (fun stands => stands) (fun _ _ _ inside => inside)
          exact fun inside => List.mem_cons_of_mem caller inside
  | statement caller =>
      obtain ⟨call,live,step⟩ := Option.bind_eq_some_iff.mp moved
      obtain ⟨work,working,step⟩ := Option.bind_eq_some_iff.mp step
      exact sound_statement sound live working calm step
  | commit n =>
      obtain ⟨work,live,step⟩ := Option.bind_eq_some_iff.mp moved
      obtain ⟨working,open_⟩ := live_work live
      have whole := sound.works n work working
      split at step
      · rename_i may
        obtain ⟨transactional,idle⟩ := Bool.and_eq_true_iff.mp may
        rw [if_neg (by rw [whole.unaborted]; exact Bool.false_ne_true)] at step
        cases step
        exact sound_ended sound working open_ .committed Ending.noConfusion (fun _ => List.isEmpty_iff.mp idle) transactional
          (unique_commit sound.unique n) rfl rfl (fun _ inside => inside)
          (fun row before => by
            show row ∈ seen s.db n
            rw [seen_eq]
            exact List.mem_append_left _ before)
          fun _ _ inside => inside
      · cases step
  | rollback n =>
      obtain ⟨work,live,step⟩ := Option.bind_eq_some_iff.mp moved
      obtain ⟨working,open_⟩ := live_work live
      have whole := sound.works n work working
      split at step
      · rename_i transactional
        rw [if_neg (by rw [whole.unaborted]; exact Bool.false_ne_true)] at step
        cases step
        exact sound_ended sound working open_ .rolledBack Ending.noConfusion Ending.noConfusion transactional (unique_rollback sound.unique n) rfl rfl
          (fun row before => by
            rw [seen_eq]
            exact List.mem_append_left _ before)
          (fun _ inside => inside) fun kept => absurd rfl kept
      · cases step

theorem events_apart {rows : List (Stored Payload)} (apart : rows.Pairwise (Apart index)) :
    (events rows).Pairwise fun left right => ∀ key, dedupeIndex left = some key → dedupeIndex right ≠ some key := by
  unfold events
  refine List.Pairwise.filterMap _ ?_ apart
  intro left right distinct row same row' same'
  cases left <;> cases same
  cases right <;> cases same'
  exact distinct

theorem under_index (its : under tenantId key row = true) : dedupeIndex (row : OutboxEvent Payload) = some (tenantId.getD "",key) := by
  obtain ⟨tenant,keyed⟩ := Bool.and_eq_true_iff.mp its
  rw [dedupeIndex,eq_of_beq tenant,eq_of_beq keyed]
  rfl

theorem one_under {rows : List (Stored Payload)} (apart : rows.Pairwise (Apart index)) (tenantId : Option String) (key : String) :
    ((events rows).filter (under tenantId key)).length ≤ 1 := by
  have listed := (events_apart apart).filter (under tenantId key)
  cases found : (events rows).filter (under tenantId key) with
  | nil => exact Nat.zero_le 1
  | cons first rest =>
      cases rest with
      | nil => exact Nat.le_refl 1
      | cons second rest =>
          rw [found] at listed
          have own : ∀ row ∈ first :: second :: rest, under tenantId key row = true := by
            intro row member
            rw [← found] at member
            exact (List.mem_filter.mp member).2
          have first_ := under_index (own first List.mem_cons_self)
          have second_ := under_index (own second (List.mem_cons_of_mem first List.mem_cons_self))
          exact absurd second_ ((List.pairwise_cons.mp listed).1 second List.mem_cons_self _ first_)

theorem only_under {rows : List (Stored Payload)} (apart : rows.Pairwise (Apart index)) (there : .event row ∈ rows)
    (its : under tenantId key row = true) : (events rows).filter (under tenantId key) = [row] := by
  have few := one_under apart tenantId key
  have inside : row ∈ (events rows).filter (under tenantId key) := List.mem_filter.mpr ⟨mem_events.mpr there,its⟩
  cases found : (events rows).filter (under tenantId key) with
  | nil =>
      rw [found] at inside
      cases inside
  | cons first rest =>
      rw [found] at few inside
      have none_ : rest = [] := List.length_eq_zero_iff.mp (by simpa using few)
      subst none_
      rw [List.mem_singleton.mp inside]

theorem insert_waits {db : Db Payload} (waits : UniqueIndexes.insert index db n (.event row) = .waits) :
    ∃ m key, m ≠ n ∧ dedupeIndex row = some key ∧ Holds db m key := by
  unfold UniqueIndexes.insert at waits
  split at waits
  · cases waits
  · split at waits
    · cases waits
    · rename_i key under_
      split at waits
      · rename_i locked
        unfold lock at locked
        split at locked
        · cases locked
        · rename_i held
          cases owner : db.locks key with
          | none => simp [owner] at held
          | some m => exact ⟨m,key,by simpa [owner] using held,under_,owner⟩
      · cases waits

def Goes (moved : Option (State Payload)) (caller : Nat) (call : Call Payload) : Prop :=
  ∃ next call', moved = some next ∧ next.calls caller = some call' ∧ call'.phase.left < call.phase.left

theorem goes_finish (s : State Payload) (caller : Nat) (work : Work) (less : phase.left < call.phase.left) :
    Goes (some (s.finish caller call work phase)) caller call :=
  ⟨_,_,rfl,Function.update_self _ _ _,less⟩

theorem goes_enter (s : State Payload) (caller : Nat) (less : phase.left < call.phase.left) :
    Goes (some (s.enter caller call phase)) caller call :=
  ⟨_,_,rfl,Function.update_self _ _ _,less⟩

-- A statement of a create either goes on or waits.
theorem statement_moves (driver : Driver) (sound : Sound uuids s) (work : Work) (flying : call.phase.inFlight = true) :
    Goes (statement driver s caller call work) caller call ∨ Waits s call := by
  unfold statement
  by_cases over_ : (work.ending.isSome || work.aborted) = true
  · rw [if_pos over_,if_pos flying]
    refine .inl (goes_finish s caller work ?_)
    cases phase : call.phase <;> simp_all [Phase.left,Phase.inFlight]
  · rw [if_neg over_]
    cases phase : call.phase with
    | finding =>
        cases found : (s.sees call.work).find? (matching driver call.row) with
        | some existing => exact .inl (goes_finish s caller work (by simp [phase,Phase.left]))
        | none => exact .inl (goes_enter s caller (by simp [phase,Phase.left]))
    | inserting =>
        cases inserted : UniqueIndexes.insert index s.db call.work (.event call.row) with
        | waits =>
            obtain ⟨n,key,apart,under_,held⟩ := insert_waits inserted
            exact .inr ⟨phase,n,key,apart,under_,held,sound.holders n key held⟩
        | violated =>
            cases keyed : call.row.dedupeKey with
            | none => exact .inl (goes_finish s caller _ (by simp [phase,Phase.left]))
            | some key => exact .inl (goes_enter (s.setWork call.work {work with aborted := work.transactional}) caller
                (by simp [phase,Phase.left]))
        | stored db =>
            cases driver with
            | knex => exact .inl (goes_enter _ caller (by simp [phase,Phase.left]))
            | prisma => exact .inl (goes_finish _ caller work (by simp [phase,Phase.left]))
    | requerying =>
        cases found : (s.sees call.work).find? (matching driver call.row) with
        | some raced | none => exact .inl (goes_finish s caller work (by simp [phase,Phase.left]))
    | loading =>
        cases found : (s.sees call.work).find? (·.id = call.row.id) with
        | some loaded | none => exact .inl (goes_finish s caller work (by simp [phase,Phase.left]))
    | returned | thrown =>
        rw [phase] at flying
        cases flying

theorem sound_idempotent (sound : Sound uuids s) : Idempotent driver uuids s := by
  refine ⟨one_under sound.unique.committed,?_,?_,?_⟩
  · intro caller call work key live working stands keyed over_
    obtain ⟨its,theirs,_,reaches⟩ := (sound.calls caller call live).work
    rw [working] at theirs
    cases theirs
    have reached := reaches stands
    unfold Reaches at reached
    cases phase : call.phase with
    | returned row =>
        rw [phase] at reached
        refine ⟨row,rfl,only_under (unique_seen sound.unique call.work) reached.1 ?_⟩
        obtain ⟨same,owner⟩ := dedupeIndex_some reached.2 (by rw [keyed]; rfl)
        have tenant := tenant_named owner (named_of_seen sound reached.1) (sound.calls caller call live).named
        simp [under,tenant,same,keyed]
    | thrown =>
        rw [phase] at reached
        cases reached
    | finding | inserting | requerying | loading =>
        rw [phase] at over_
        cases over_
  · intro n work working
    have whole := sound.works n work working
    exact ⟨whole.unaborted,whole.unfailed⟩
  · intro caller call live flying
    obtain ⟨work,working,_⟩ := (sound.calls caller call live).work
    have step : advance driver uuids s (.statement caller) = statement driver s caller call work := by
      simp [advance,live,working]
    rw [step]
    exact statement_moves driver sound work flying

-- A transaction that was not the first: its insert fails, and with it the transaction.
theorem racing_aborts (raced : racing s caller = true) (moved : advance driver uuids s (.statement caller) = some next) :
    ∃ n work, next.works n = some work ∧ work.aborted = true := by
  obtain ⟨call,live,there⟩ := (Option.any_eq_true _ _).mp raced
  obtain ⟨work,working,its⟩ := (Option.any_eq_true _ _).mp there
  simp only [Bool.and_eq_true,Bool.not_eq_true'] at its
  obtain ⟨⟨⟨⟨transactional,open_⟩,unaborted⟩,inserting⟩,collided⟩ := its
  have phase : call.phase = .inserting := by
    revert inserting
    cases call.phase <;> simp
  have violated : UniqueIndexes.insert index s.db call.work (.event call.row) = .violated := by
    rw [UniqueIndexes.insert,if_pos collided]
  simp only [advance,live,working,Option.bind_eq_bind,Option.bind_some] at moved
  unfold statement at moved
  rw [if_neg (by simp [Option.isNone_iff_eq_none.mp open_,unaborted]),phase] at moved
  simp only [violated] at moved
  split at moved <;> cases moved
  · exact ⟨call.work,_,Function.update_self _ _ _,transactional⟩
  · exact ⟨call.work,_,Function.update_self _ _ _,transactional⟩

theorem create_idempotent (reached : Runs.Reached (creates Payload driver uuids) unraced s) :
    Idempotent driver uuids s ∧ ∀ action next, advance driver uuids s action = some next →
      (Idempotent driver uuids next ↔ unraced s action) := by
  have sound : Sound uuids s := by
    refine reached.invariant (Sound uuids) ?_ ?_
    · intro u initial
      rw [show u = ⟨quiet [],fun _ => none,fun _ => none⟩ from initial]
      refine ⟨unique_quiet index,?_,?_,?_,?_,?_⟩
      · intro n key held
        cases held
      · intro n row member
        cases member
      · intro n work working
        cases working
      · intro n row there
        rw [seen_eq] at there
        cases there
      · intro caller call live
        cases live
    · intro u action next _ before calm moved
      exact sound_preserved before calm (show advance driver uuids u action = some next from moved)
  refine ⟨sound_idempotent sound,?_⟩
  intro action next moved
  constructor
  · intro kept
    cases action with
    | statement caller =>
        by_contra raced
        obtain ⟨n,work,working,aborted⟩ := racing_aborts (by simpa [unraced] using raced) moved
        rw [(kept.undisturbed n work working).1] at aborted
        cases aborted
    | start | write | create | commit | rollback => trivial
  · intro calm
    exact sound_idempotent (sound_preserved sound calm moved)

section Schedules

def copies : Uuids := ⟨fun n => String.ofList (List.replicate n 'x'),by
  intro n m same
  simpa using congrArg List.length (String.ofList_injective same)⟩

def announced : Input Unit := ⟨none,"payment.succeeded.v1",(),some "webhook:1:payment.succeeded"⟩

def empty : State Unit := ⟨quiet [],fun _ => none,fun _ => none⟩

-- A create outside of any transaction meets the insert of one in a transaction, and waits for its commit; a second
-- transaction looks up after that commit. All three return the one row.
def metBetween : List (Action Unit) :=
  [.start 0 false,.start 1 true,.start 2 true,.write 1 "audit",.write 2 "audit",.create 0 0 announced 5,.create 1 1 announced 6,
    .create 2 2 announced 7,.statement 0,.statement 1,.statement 1,.statement 1,.commit 1,.statement 0,.statement 2,.statement 0,
    .commit 2]

def allReturned (s : State Unit) : Bool :=
  (s.calls 1).any fun first => [0,1,2].all fun caller => (s.calls caller).any (·.phase == .returned first.row)

theorem create_idempotent_met : ∃ s, allReturned s = true ∧ Idempotent .knex copies s ∧
    ∀ action next, advance .knex copies s action = some next → (Idempotent .knex copies next ↔ unraced s action) := by
  have passed : (Runs.run (creates Unit .knex copies) unraced empty metBetween).any allReturned = true := by decide +kernel
  obtain ⟨s,reached,met⟩ := Runs.run_reaches rfl passed
  exact ⟨s,met,create_idempotent reached⟩

-- Two webhook deliveries, each in its transaction: the second insert waits for the first transaction, fails at
-- its commit, and the look-up behind it is refused.
def metInside : List (Action Unit) :=
  [.start 0 true,.start 1 true,.write 0 "audit",.write 1 "audit",.create 0 0 announced 5,.create 1 1 announced 6,
    .statement 0,.statement 1,.statement 0,.statement 0,.commit 0,.statement 1,.statement 1,.commit 1]

def secondFailed (s : State Unit) : Bool :=
  (s.calls 1).any (fun call => call.phase == .thrown) && (s.works 1).any fun work => work.ending == some .failed

theorem create_fails_transaction : ∃ s, Runs.Reached (creates Unit .knex copies) Runs.anyStep s ∧ secondFailed s = true ∧
    ¬ Idempotent .knex copies s := by
  have passed : (Runs.run (creates Unit .knex copies) Runs.anyStep empty metInside).any secondFailed = true := by decide +kernel
  obtain ⟨s,reached,failed⟩ := Runs.run_reaches rfl passed
  refine ⟨s,reached,failed,?_⟩
  intro kept
  obtain ⟨work,working,ending⟩ := (Option.any_eq_true _ _).mp (Bool.and_eq_true_iff.mp failed).2
  exact (kept.undisturbed 1 work working).2 (eq_of_beq ending)

end Schedules

end Payable.Outbox.Creates
