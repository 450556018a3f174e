import Payable.Outbox.Batches

namespace Payable.Outbox
open Tables Runs

variable {Payload : Type}

def Phase.events : Phase Payload → List (OutboxEvent Payload)
  | .delivering event rest | .publishing event rest | .failing event rest _ => event :: rest
  | _ => []

-- The events a party has received with a token and may still act on.
def State.received (s : State Payload) : Party → List (OutboxEvent Payload)
  | .batch caller => ((s.workers caller).map (·.phase.events)).getD []
  | .direct caller => s.direct caller

-- The rows a batch has moved to a status, and the failed deliveries booked on a row.
def tally (moves : List Move) (caller : Nat) (status : OutboxStatus) : Nat :=
  (moves.filter fun move => move.caller == .batch caller && move.status == status).length

def failures (moves : List Move) (id : String) : Nat :=
  (moves.filter fun move => move.id == id && (move.status == .pending || move.status == .failed)).length

-- The rows a batch has moved out of processing.
def settled (moves : List Move) (caller : Nat) : List String :=
  (moves.filter fun move => move.caller == .batch caller && move.status != .processing).map (·.id)

def Final (row : OutboxEvent Payload) : Prop := row.status = .published ∨ row.status = .failed

-- A retry time that markFailed is to write still lies ahead of its own clock reading.
def timely (s : State Payload) : Action Payload → Prop
  | .mark caller random computed =>
    match (s.workers caller).map fun worker : Worker Payload => (worker.options,worker.phase) with
    | some (options,Phase.failing event _ _) =>
      event.attempts + 1 < options.maxAttempts → (∃ row ∈ s.rows, row.id = event.id ∧ row.lockedBy = event.lockedBy) →
        s.now - computed < jitteredDelay options (event.attempts + 1) random
    | _ => True
  | _ => True

instance (s : State Payload) (action : Action Payload) : Decidable (timely s action) := by
  unfold timely
  split
  · split <;> infer_instance
  · infer_instance

-- What a batch reports is what it has moved; where every retry was timed, it also tells
-- pending from failed.
structure Counted (timed : Prop) (moves : List Move) (caller : Nat) (worker : Worker Payload) : Prop where
  published : worker.result.published = tally moves caller .published
  unpublished : worker.result.retried + worker.result.deadLettered =
    tally moves caller .pending + tally moves caller .failed
  delayed : timed → worker.result.retried = tally moves caller .pending ∧ worker.result.deadLettered = tally moves caller .failed

-- The batches: none that has yet to claim has moved a row, and all report their moves.
structure Reported (timed : Prop) (s : State Payload) : Prop where
  known : ∀ move ∈ s.moves, ∀ caller, move.caller = .batch caller → s.workers caller ≠ none
  quiet : ∀ caller worker limit, s.workers caller = some worker → worker.phase = .claiming limit →
    ∀ move ∈ s.moves, move.caller ≠ .batch caller
  counted : ∀ caller worker, s.workers caller = some worker → Counted timed s.moves caller worker

structure Held (timed : Prop) (s : State Payload) : Prop where
  keyed : Keyed OutboxEvent.id s.rows
  locked : ∀ row ∈ s.rows, row.status = .processing ↔ row.lockedBy.isSome = true
  drawn : ∀ row ∈ s.rows, ∀ token, row.lockedBy = some token → token ∈ s.drawn
  tokened : ∀ party, ∀ event ∈ s.received party, ∃ token, event.lockedBy = some token ∧ token ∈ s.drawn
  one : ∀ party other, ∀ event ∈ s.received party, ∀ event' ∈ s.received other, event.lockedBy = event'.lockedBy →
    party = other
  attempts : ∀ row ∈ s.rows, row.attempts = failures s.moves row.id
  present : ∀ move ∈ s.moves, ∃ row ∈ s.rows, row.id = move.id
  spent : ∀ caller, ∀ event ∈ s.received (.batch caller), ∀ move ∈ s.moves, move.caller = .batch caller →
    move.status ≠ .processing → ∀ row ∈ s.rows, row.id = move.id → row.lockedBy ≠ event.lockedBy
  single : ∀ caller, (settled s.moves caller).Nodup
  reported : Reported timed s

theorem tally_append (moves more : List Move) : tally (moves ++ more) caller status =
    tally moves caller status + tally more caller status := by
  simp [tally,List.filter_append]

theorem failures_append {id : String} (moves more : List Move) :
    failures (moves ++ more) id = failures moves id + failures more id := by
  simp [failures,List.filter_append]

theorem settled_append (moves more : List Move) : settled (moves ++ more) caller = settled moves caller ++ settled more caller := by
  simp [settled]

theorem settled_length (moves : List Move) :
    (settled moves caller).length = tally moves caller .published + tally moves caller .pending + tally moves caller .failed := by
  induction moves with
  | nil => rfl
  | cons move rest ih =>
      simp only [settled,tally,List.length_map,List.filter_cons] at ih ⊢
      by_cases its : move.caller = .batch caller
      · cases status : move.status <;> simp [its,ih] <;> omega
      · simp [its,ih]

theorem tally_one (move : Move) :
    tally [move] caller status = if move.caller = .batch caller ∧ move.status = status then 1 else 0 := by
  by_cases its : move.caller = .batch caller ∧ move.status = status
  · simp [tally,its]
  · rw [if_neg its]
    simpa [tally] using its

-- Moves of others, and claims, are no part of what a batch reports.
theorem counted_append {worker : Worker Payload} (counts : Counted timed moves caller worker)
    (apart : ∀ move ∈ more, move.caller ≠ .batch caller ∨ move.status = .processing) :
    Counted timed (moves ++ more) caller worker := by
  have none_added : ∀ status, status ≠ .processing → tally more caller status = 0 := by
    intro status left
    rw [tally,List.length_eq_zero_iff,List.filter_eq_nil_iff]
    intro move inside
    rcases apart move inside with other | claimed
    · simp [other]
    · simp [claimed,left.symm]
  have same : ∀ status, status ≠ .processing → tally (moves ++ more) caller status = tally moves caller status := by
    intro status left
    rw [tally_append,none_added status left,Nat.add_zero]
  refine ⟨?_,?_,?_⟩
  · rw [same _ (by decide)]
    exact counts.published
  · rw [same _ (by decide),same _ (by decide)]
    exact counts.unpublished
  · rw [same _ (by decide),same _ (by decide)]
    exact counts.delayed

theorem put_workers {s : State Payload} (holds : (s.put caller worker).workers other = some worker') :
    other = caller ∧ worker' = worker ∨ other ≠ caller ∧ s.workers other = some worker' := by
  by_cases its : other = caller
  · rw [its] at holds
    exact .inl ⟨its,by simpa [State.put] using holds.symm⟩
  · exact .inr ⟨its,by simpa [State.put,its] using holds⟩

theorem received_batch {s : State Payload} (holds : s.workers caller = some worker) :
    s.received (.batch caller) = worker.phase.events := by
  simp [State.received,holds]

-- A worker's turn changes what it has received, and nobody else's events.
theorem received_put {s t : State Payload} (workers : t.workers = (s.put caller worker).workers) (direct : t.direct = s.direct)
    (inside : event ∈ t.received party) :
    party = .batch caller ∧ event ∈ worker.phase.events ∨ party ≠ .batch caller ∧ event ∈ s.received party := by
  cases party with
  | direct other => exact .inr ⟨nofun,by simpa [State.received,direct] using inside⟩
  | batch other =>
      by_cases its : other = caller
      · subst its
        exact .inl ⟨rfl,by simpa [State.received,workers,State.put] using inside⟩
      · exact .inr ⟨by simpa using its,by simpa [State.received,workers,State.put,its] using inside⟩

-- One batch takes its turn: its own report is at stake, the others' moves are as they were.
theorem reported_put {s t : State Payload} (reported : Reported timed s) (workers : t.workers = (s.put caller worker).workers)
    (moves : t.moves = s.moves ++ more) (own : ∀ move ∈ more, move.caller = .batch caller)
    (quiet : ∀ limit, worker.phase = .claiming limit → ∀ move ∈ t.moves, move.caller ≠ .batch caller)
    (counts : Counted timed t.moves caller worker) : Reported timed t := by
  refine ⟨?_,?_,?_⟩
  · intro move inside other its
    rw [workers]
    by_cases mine : other = caller
    · simp [State.put,mine]
    · rw [moves] at inside
      rcases List.mem_append.mp inside with old | last
      · simpa [State.put,mine] using reported.known move old other its
      · exact absurd (Party.batch.inj (its.symm.trans (own move last))) mine
  · intro other worker' limit holds phase move inside
    rw [workers] at holds
    rcases put_workers holds with ⟨rfl,rfl⟩ | ⟨apart,there⟩
    · exact quiet limit phase move inside
    · rw [moves] at inside
      rcases List.mem_append.mp inside with old | last
      · exact reported.quiet other worker' limit there phase move old
      · rw [own move last]
        simpa using Ne.symm apart
  · intro other worker' holds
    rw [workers] at holds
    rcases put_workers holds with ⟨rfl,rfl⟩ | ⟨apart,there⟩
    · exact counts
    · rw [moves]
      refine counted_append (reported.counted other worker' there) fun move last => .inl ?_
      rw [own move last]
      simpa using Ne.symm apart

-- What somebody else moves is no batch's business.
theorem reported_apart {s t : State Payload} (reported : Reported timed s) (workers : t.workers = s.workers)
    (moves : t.moves = s.moves ++ more) (apart : ∀ move ∈ more, ∀ caller, move.caller ≠ .batch caller) : Reported timed t := by
  refine ⟨?_,?_,?_⟩
  · intro move inside caller its
    rw [moves] at inside
    rw [workers]
    rcases List.mem_append.mp inside with old | last
    · exact reported.known move old caller its
    · exact absurd its (apart move last caller)
  · intro caller worker limit holds phase move inside
    rw [workers] at holds
    rw [moves] at inside
    rcases List.mem_append.mp inside with old | last
    · exact reported.quiet caller worker limit holds phase move old
    · exact apart move last caller
  · intro caller worker holds
    rw [workers] at holds
    rw [moves]
    exact counted_append (reported.counted caller worker holds) fun move last => .inl (apart move last caller)

-- A step that writes no row and lets events go at most.
theorem held_kept {s t : State Payload} (held : Held timed s) (rows : t.rows = s.rows) (moves : t.moves = s.moves)
    (drawn : t.drawn = s.drawn) (fewer : ∀ party, ∀ event ∈ t.received party, event ∈ s.received party)
    (reported : Reported timed t) : Held timed t := by
  refine ⟨rows ▸ held.keyed,rows ▸ held.locked,?_,?_,?_,?_,?_,?_,?_,reported⟩
  · rw [rows,drawn]
    exact held.drawn
  · intro party event inside
    rw [drawn]
    exact held.tokened party event (fewer party event inside)
  · intro party other event inside event' inside'
    exact held.one party other event (fewer party event inside) event' (fewer other event' inside')
  · rw [rows,moves]
    exact held.attempts
  · rw [rows,moves]
    exact held.present
  · intro caller event inside
    rw [rows,moves]
    exact held.spent caller event (fewer _ event inside)
  · rw [moves]
    exact held.single

-- The moves of an update are the rows whose status it changes.
theorem moved_updateWhere {selects : OutboxEvent Payload → Bool} {change : OutboxEvent Payload → OutboxEvent Payload}
    (rows : List (OutboxEvent Payload)) (changes : ∀ row ∈ rows, selects row = true → (change row).status ≠ row.status) :
    moved caller rows (updateWhere selects change rows) =
      (rows.filter selects).map fun row => ⟨caller,(change row).id,(change row).status⟩ := by
  induction rows with
  | nil => rfl
  | cons first rest ih =>
      have tail := ih fun row inside => changes row (List.mem_cons_of_mem _ inside)
      simp only [moved,updateWhere] at tail
      simp only [moved,updateWhere,List.map_cons,List.zip_cons_cons,List.filterMap_cons,List.filter_cons]
      cases selected : selects first with
      | true =>
          have changed := changes first List.mem_cons_self selected
          simp only [if_true,if_neg changed,List.map_cons,tail]
      | false => simp only [Bool.false_eq_true,if_false,if_true,tail]

-- The rows a mark with a token reaches: none, or the one row that the token holds.
theorem filter_owned {rows : List (OutboxEvent Payload)} {id token : String} (keyed : Keyed OutboxEvent.id rows) :
    rows.filter (owned id (some token)) = [] ∨
      ∃ row ∈ rows, row.id = id ∧ row.lockedBy = some token ∧ rows.filter (owned id (some token)) = [row] := by
  have few : (rows.filter (owned id (some token))).length ≤ 1 := by
    apply keyed_alone keyed
    intro a _ b _ one other
    simp only [owned,Bool.and_eq_true,beq_iff_eq] at one other
    exact one.1.trans other.1.symm
  cases passing : rows.filter (owned id (some token)) with
  | nil => exact .inl rfl
  | cons row rest =>
      have inside : row ∈ rows.filter (owned id (some token)) := by simp [passing]
      obtain ⟨member,its⟩ := List.mem_filter.mp inside
      simp only [owned,Bool.and_eq_true,beq_iff_eq,Option.isNone_some,Bool.false_or] at its
      cases rest with
      | nil => exact .inr ⟨row,member,its.1,its.2,rfl⟩
      | cons second others => simp [passing] at few

-- What publish and fail have in common: the row is released, and a failure is booked.
structure Releases (change : OutboxEvent Payload → OutboxEvent Payload) : Prop where
  stable : ∀ row, (change row).id = row.id
  freed : ∀ row, (change row).lockedBy = none
  left : ∀ row, (change row).status ≠ .processing
  booked : ∀ row, (change row).attempts =
    row.attempts + if (change row).status = .pending ∨ (change row).status = .failed then 1 else 0

theorem releases_publish : Releases (@OutboxEvent.publish Payload) := by
  refine ⟨fun _ => rfl,fun _ => rfl,fun _ => ?_,fun _ => rfl⟩
  simp [OutboxEvent.publish]

theorem releases_fail (nextRetryAt : Option Int) (now : Int) :
    Releases fun row : OutboxEvent Payload => row.fail nextRetryAt now := by
  refine ⟨fun _ => rfl,fun _ => rfl,fun _ => ?_,fun _ => ?_⟩
  · simp only [OutboxEvent.fail]
    split <;> simp
  · simp only [OutboxEvent.fail]
    split <;> simp

theorem mem_released {id : String} {rows : List (OutboxEvent Payload)} {change : OutboxEvent Payload → OutboxEvent Payload}
    (keyed : Keyed OutboxEvent.id rows) (inside : row ∈ rows) (same : row.id = id) (locked : row.lockedBy = lockToken)
    (there : new ∈ updateWhere (owned id lockToken) change rows) : new = change row ∨ new ∈ rows ∧ new.id ≠ row.id := by
  obtain ⟨old,member,rfl⟩ := mem_updateWhere.mp there
  by_cases its : old.id = row.id
  · have one := keyed_unique keyed member inside its
    subst one
    exact .inl (by simp [owned,same,locked])
  · exact .inr (by simp [owned,← same,its,member])

-- A write that moves the one row whose token the party's event carries.
theorem held_release {s t : State Payload} {change : OutboxEvent Payload → OutboxEvent Payload} (held : Held timed s)
    (releases : Releases change) (current : event ∈ s.received party) (inside : row ∈ s.rows) (same : row.id = event.id)
    (locked : row.lockedBy = event.lockedBy) (rows : t.rows = updateWhere (owned event.id event.lockedBy) change s.rows)
    (moves : t.moves = s.moves ++ [⟨party,row.id,(change row).status⟩]) (drawn : t.drawn = s.drawn)
    (fewer : ∀ party, ∀ event ∈ t.received party, event ∈ s.received party) (reported : Reported timed t) : Held timed t := by
  have mem : ∀ new ∈ t.rows, new = change row ∨ new ∈ s.rows ∧ new.id ≠ row.id :=
    fun new there => mem_released held.keyed inside same locked (rows ▸ there)
  have keys : t.rows.map OutboxEvent.id = s.rows.map OutboxEvent.id := rows ▸ updateWhere_keys s.rows releases.stable
  have unspent : ∀ caller, party = .batch caller → row.id ∉ settled s.moves caller := by
    intro caller its listed
    simp only [settled,List.mem_map,List.mem_filter,Bool.and_eq_true,beq_iff_eq,bne_iff_ne] at listed
    obtain ⟨move,⟨there,mine,left⟩,id⟩ := listed
    exact held.spent caller event (its ▸ current) move there mine left row inside id.symm locked
  refine ⟨?_,?_,?_,?_,?_,?_,?_,?_,?_,reported⟩
  · simpa only [Keyed,keys] using held.keyed
  · intro new there
    rcases mem new there with rfl | ⟨old,_⟩
    · simp [releases.freed,releases.left]
    · exact held.locked new old
  · intro new there token holder
    rw [drawn]
    rcases mem new there with rfl | ⟨old,_⟩
    · simp [releases.freed] at holder
    · exact held.drawn new old token holder
  · intro other event' inside'
    rw [drawn]
    exact held.tokened other event' (fewer other event' inside')
  · intro first second event' inside' event'' inside''
    exact held.one first second event' (fewer first event' inside') event'' (fewer second event'' inside'')
  · intro new there
    rw [moves,failures_append]
    rcases mem new there with rfl | ⟨old,apart⟩
    · rw [releases.booked,releases.stable,held.attempts row inside]
      by_cases failed : (change row).status = .pending ∨ (change row).status = .failed
      · simp [failures,failed]
      · simp [failures,failed]
    · rw [held.attempts new old]
      simp [failures,Ne.symm apart]
  · intro move there
    have listed : move.id ∈ s.rows.map OutboxEvent.id := by
      rcases List.mem_append.mp (moves ▸ there) with old | last
      · obtain ⟨its,member,id⟩ := held.present move old
        exact id ▸ List.mem_map_of_mem member
      · rw [List.mem_singleton.mp last]
        exact List.mem_map_of_mem inside
    exact List.mem_map.mp (keys ▸ listed)
  · intro caller event' inside' move moved its left new member id equal
    obtain ⟨token,tokened,_⟩ := held.tokened _ event' (fewer _ event' inside')
    rcases mem new member with rfl | ⟨kept,apart⟩
    · simp [releases.freed,tokened] at equal
    · rcases List.mem_append.mp (moves ▸ moved) with earlier | last
      · exact held.spent caller event' (fewer _ event' inside') move earlier its left new kept id equal
      · rw [List.mem_singleton.mp last] at id
        exact apart id
  · intro caller
    rw [moves,settled_append]
    by_cases mine : party = .batch caller
    · have added : settled [⟨party,row.id,(change row).status⟩] caller = [row.id] := by simp [settled,releases.left,mine]
      rw [added]
      refine List.nodup_append.mpr ⟨held.single caller,List.nodup_singleton _,?_⟩
      intro a before b after equal
      rw [List.mem_singleton.mp after] at equal
      exact unspent caller mine (equal ▸ before)
    · simpa [settled,mine] using held.single caller

theorem next_events (rest : List (OutboxEvent Payload)) : (next rest).events = rest := by
  cases rest with
  | nil => rfl
  | cons _ _ => rfl

theorem next_claimed (rest : List (OutboxEvent Payload)) : next rest ≠ .claiming limit := by
  cases rest with
  | nil => simp [next]
  | cons _ _ => simp [next]

theorem updateWhere_none {rows : List (OutboxEvent Payload)} {selects : OutboxEvent Payload → Bool}
    {change : OutboxEvent Payload → OutboxEvent Payload} (unselected : rows.filter selects = []) :
    updateWhere selects change rows = rows := by
  refine map_unchanged.mpr fun row inside => if_neg ?_
  exact List.filter_eq_nil_iff.mp unselected row inside

-- A claim moves rows to processing under a token of its own.
theorem mem_claimRows {rows : List (OutboxEvent Payload)} (there : new ∈ claimRows rows limit token now) :
    new ∈ rows ∨ ∃ old ∈ rows, new = old.claim token now := by
  obtain ⟨old,inside,rfl⟩ := mem_updateWhere.mp there
  split
  · exact .inr ⟨old,inside,rfl⟩
  · exact .inl inside

theorem mem_claimed {rows : List (OutboxEvent Payload)} (there : event ∈ (claimPending rows limit token now).2) :
    event.lockedBy = some token := by
  obtain ⟨_,_,found⟩ := List.mem_filterMap.mp there
  have mine := (List.mem_filter.mp (List.mem_of_find?_eq_some found)).2
  simp only [Bool.and_eq_true,beq_iff_eq] at mine
  exact mine.1.2

theorem mem_moved {rows : List (OutboxEvent Payload)} {selects : OutboxEvent Payload → Bool}
    {change : OutboxEvent Payload → OutboxEvent Payload} (inside : move ∈ moved caller rows (updateWhere selects change rows)) :
    ∃ row ∈ rows, move = ⟨caller,(change row).id,(change row).status⟩ := by
  induction rows with
  | nil => cases inside
  | cons first rest ih =>
      simp only [moved,updateWhere,List.map_cons,List.zip_cons_cons,List.filterMap_cons] at inside ih
      cases selected : selects first with
      | false =>
          simp only [selected,Bool.false_eq_true,if_false,if_true] at inside
          obtain ⟨row,there,its⟩ := ih inside
          exact ⟨row,List.mem_cons_of_mem _ there,its⟩
      | true =>
          simp only [selected,if_true] at inside
          by_cases same : (change first).status = first.status
          · simp only [same,if_true] at inside
            obtain ⟨row,there,its⟩ := ih inside
            exact ⟨row,List.mem_cons_of_mem _ there,its⟩
          · simp only [if_neg same] at inside
            rcases List.mem_cons.mp inside with its | inside
            · exact ⟨first,List.mem_cons_self,its⟩
            · obtain ⟨row,there,its⟩ := ih inside
              exact ⟨row,List.mem_cons_of_mem _ there,its⟩

theorem moved_claims {rows : List (OutboxEvent Payload)} (inside : move ∈ moved caller rows (claimRows rows limit token now)) :
    move.caller = caller ∧ move.status = .processing ∧ ∃ row ∈ rows, row.id = move.id := by
  obtain ⟨row,there,rfl⟩ := mem_moved inside
  exact ⟨rfl,rfl,row,there,rfl⟩

-- A mark writes the row its token holds, or does nothing at all.
inductive Marked (s : State Payload) (party : Party) (event : OutboxEvent Payload)
    (change : OutboxEvent Payload → OutboxEvent Payload) : List (OutboxEvent Payload) → List Move → Nat → Prop where
  | lost : (∀ row ∈ s.rows, row.id = event.id → row.lockedBy ≠ event.lockedBy) → Marked s party event change s.rows [] 0
  | written (row : OutboxEvent Payload) : row ∈ s.rows → row.id = event.id → row.lockedBy = event.lockedBy →
      Marked s party event change (updateWhere (owned event.id event.lockedBy) change s.rows)
        [⟨party,row.id,(change row).status⟩] 1

theorem marked {s : State Payload} (held : Held timed s) (releases : Releases change) (current : event ∈ s.received party) :
    Marked s party event change (updateWhere (owned event.id event.lockedBy) change s.rows)
      (moved party s.rows (updateWhere (owned event.id event.lockedBy) change s.rows))
      (s.rows.filter (owned event.id event.lockedBy)).length := by
  obtain ⟨token,tokened,_⟩ := held.tokened party event current
  have holder : ∀ row ∈ s.rows, owned event.id event.lockedBy row = true ↔ row.id = event.id ∧ row.lockedBy = event.lockedBy := by
    intro row _
    simp [owned,tokened]
  have changes : ∀ row ∈ s.rows, owned event.id event.lockedBy row = true → (change row).status ≠ row.status := by
    intro row inside its same
    have processing := (held.locked row inside).mpr (by simp [((holder row inside).mp its).2,tokened])
    exact releases.left row (same.trans processing)
  have few : s.rows.filter (owned event.id event.lockedBy) = [] ∨ ∃ row ∈ s.rows, row.id = event.id ∧
      row.lockedBy = event.lockedBy ∧ s.rows.filter (owned event.id event.lockedBy) = [row] := by
    rw [tokened]
    exact filter_owned held.keyed
  rw [moved_updateWhere s.rows changes]
  rcases few with empty | ⟨row,inside,same,locked,alone⟩
  · rw [empty,updateWhere_none empty]
    refine .lost fun row inside same locked => ?_
    exact List.filter_eq_nil_iff.mp empty row inside ((holder row inside).mpr ⟨same,locked⟩)
  · rw [alone]
    have written : Marked s party event change _ _ _ := .written row inside same locked
    simpa [releases.stable] using written

theorem held_marked {s t : State Payload} {change : OutboxEvent Payload → OutboxEvent Payload} (held : Held timed s)
    (releases : Releases change) (current : event ∈ s.received party) (done : Marked s party event change t.rows more count)
    (moves : t.moves = s.moves ++ more) (drawn : t.drawn = s.drawn)
    (fewer : ∀ party, ∀ event ∈ t.received party, event ∈ s.received party) (reported : Reported timed t) : Held timed t := by
  generalize wrote : t.rows = rows at done
  cases done with
  | lost _ => exact held_kept held wrote (by simpa using moves) drawn fewer reported
  | written row inside same locked =>
      exact held_release held releases current inside same locked wrote moves drawn fewer reported

-- A batch's mark, with what it makes of the number of rows it wrote.
theorem held_turn {s : State Payload} {worker : Worker Payload} (report : Nat → OutboxPublishResult) (held : Held timed s)
    (releases : Releases change) (holds : s.workers caller = some worker) (batch : worker.phase.events = event :: rest)
    (unreported : report 0 = worker.result) (counts : ∀ row ∈ s.rows, row.id = event.id → row.lockedBy = event.lockedBy →
      Counted timed (s.moves ++ [⟨.batch caller,row.id,(change row).status⟩]) caller (worker.counted (report 1) rest))
    (done : Marked s (.batch caller) event change rows more count) :
    Held timed {s.put caller (worker.counted (report count) rest) with rows := rows,moves := s.moves ++ more} := by
  have own : ∀ move ∈ more, move.caller = .batch caller := by
    intro move inside
    cases done with
    | lost _ => cases inside
    | written row _ _ _ => rw [List.mem_singleton.mp inside]
  have current : event ∈ s.received (.batch caller) := by simp [received_batch holds,batch]
  refine held_marked held releases current done rfl rfl ?_ (reported_put held.reported rfl rfl own ?_ ?_)
  · intro party event' inside
    rcases received_put rfl rfl inside with ⟨rfl,its⟩ | ⟨_,its⟩
    · rw [received_batch holds,batch]
      exact List.mem_cons_of_mem _ ((next_events rest).subst its)
    · exact its
  · intro limit claimed
    exact absurd claimed (next_claimed rest)
  · cases done with
    | lost _ =>
        have told := held.reported.counted caller worker holds
        rw [unreported]
        simpa using ⟨told.published,told.unpublished,told.delayed⟩
    | written row inside same locked => exact counts row inside same locked

theorem held_publishOne {s : State Payload} (held : Held timed s) (holds : s.workers caller = some worker)
    (phase : worker.phase = .publishing event rest) : Held timed (publishOne s caller worker event rest) := by
  have batch : worker.phase.events = event :: rest := by rw [phase]; rfl
  have counts := held.reported.counted caller worker holds
  have current : event ∈ s.received (.batch caller) := by simp [received_batch holds,batch]
  let report : Nat → OutboxPublishResult := fun updated =>
    if updated = 0 then worker.result else {worker.result with published := worker.result.published + 1}
  refine held_turn report held releases_publish holds batch rfl (fun row _ _ _ => ?_)
    (marked held releases_publish current)
  refine ⟨?_,?_,?_⟩
  · simp [report,Worker.counted,tally_append,tally_one,OutboxEvent.publish,counts.published]
  · simpa [report,Worker.counted,tally_append,tally_one,OutboxEvent.publish] using counts.unpublished
  · simpa [report,Worker.counted,tally_append,tally_one,OutboxEvent.publish] using counts.delayed

theorem fail_status (row : OutboxEvent Payload) (nextRetryAt : Option Int) (now : Int) :
    (row.fail nextRetryAt now).status = if (nextRetryAt.filter (now < ·)).isSome then .pending else .failed := rfl

theorem held_handleDeliveryFailure {s : State Payload} (held : Held timed s) (holds : s.workers caller = some worker)
    (phase : worker.phase = .failing event rest since) (ahead : timed → timely s (.mark caller random computed)) :
    Held timed (handleDeliveryFailure s caller worker event rest random computed) := by
  have batch : worker.phase.events = event :: rest := by rw [phase]; rfl
  have current : event ∈ s.received (.batch caller) := by simp [received_batch holds,batch]
  have counts := held.reported.counted caller worker holds
  simp only [handleDeliveryFailure]
  split
  · let report : Nat → OutboxPublishResult := fun deadLettered =>
      if 0 < deadLettered then {worker.result with deadLettered := worker.result.deadLettered + 1} else worker.result
    have releases : Releases fun row : OutboxEvent Payload => row.fail none s.now := releases_fail none s.now
    refine held_turn report held releases holds batch rfl (fun row _ _ _ => ?_) (marked held releases current)
    refine ⟨?_,?_,?_⟩
    · simpa [report,Worker.counted,tally_append,tally_one,fail_status] using counts.published
    · have sum := counts.unpublished
      simp [report,Worker.counted,tally_append,tally_one,fail_status]
      omega
    · intro exact_
      simpa [report,Worker.counted,tally_append,tally_one,fail_status] using counts.delayed exact_
  · rename_i unspent
    let retryAt := nextRetry worker.options (event.attempts + 1) random computed
    let report : Nat → OutboxPublishResult := fun retried =>
      if 0 < retried then {worker.result with retried := worker.result.retried + 1} else worker.result
    have releases : Releases fun row : OutboxEvent Payload => row.fail (some retryAt) s.now :=
      releases_fail (some retryAt) s.now
    refine held_turn report held releases holds batch rfl (fun row inside same locked => ?_) (marked held releases current)
    refine ⟨?_,?_,?_⟩
    · by_cases ahead : s.now < retryAt <;>
        simpa [report,Worker.counted,tally_append,tally_one,fail_status,ahead] using counts.published
    -- A retry time that has passed makes the row failed, still reported as retried.
    · have sum := counts.unpublished
      by_cases ahead : s.now < retryAt
      · simp [report,Worker.counted,tally_append,tally_one,fail_status,ahead]
        omega
      · simp [report,Worker.counted,tally_append,tally_one,fail_status,ahead]
        omega
    · intro exact_
      have due := ahead exact_
      simp only [timely,holds,Option.map_some,phase] at due
      have lasts := due (Nat.lt_of_not_le unspent) ⟨row,inside,same,locked⟩
      have later : s.now < retryAt := by
        simp only [retryAt,nextRetry]
        omega
      simpa [report,Worker.counted,tally_append,tally_one,fail_status,later] using counts.delayed exact_

theorem held_direct {s : State Payload} (held : Held timed s) (releases : Releases change) (current : event ∈ s.received (.direct caller)) :
    Held timed (s.write (.direct caller) (updateWhere (owned event.id event.lockedBy) change s.rows)) := by
  have done := marked held releases current
  refine held_marked held releases current done rfl rfl (fun _ _ inside => inside) (reported_apart held.reported rfl rfl ?_)
  intro move inside other its
  obtain ⟨_,_,rfl⟩ := mem_moved inside
  cases its

-- A claim, by a batch or directly; what it hands over carries a token nobody else has.
theorem held_claim {s t : State Payload} (held : Held timed s) (fresh : token ∉ s.drawn)
    (rows : t.rows = claimRows s.rows limit token s.now)
    (moves : t.moves = s.moves ++ moved party s.rows (claimRows s.rows limit token s.now)) (drawn : t.drawn = token :: s.drawn)
    (handed : ∀ other, ∀ event ∈ t.received other, event ∈ s.received other ∨ other = party ∧ event.lockedBy = some token)
    (quiet : ∀ caller, party = .batch caller → ∀ move ∈ s.moves, move.caller ≠ party) (reported : Reported timed t) : Held timed t := by
  have keys : t.rows.map OutboxEvent.id = s.rows.map OutboxEvent.id := rows ▸ updateWhere_keys s.rows fun _ => rfl
  have mem : ∀ new ∈ t.rows, new ∈ s.rows ∨ ∃ old ∈ s.rows, new = old.claim token s.now :=
    fun new there => mem_claimRows (rows ▸ there)
  have claims : ∀ move ∈ moved party s.rows (claimRows s.rows limit token s.now),
      move.caller = party ∧ move.status = .processing ∧ ∃ row ∈ s.rows, row.id = move.id := fun move => moved_claims
  have older : ∀ other, ∀ event ∈ s.received other, event.lockedBy ≠ some token := by
    intro other event inside same
    obtain ⟨token',tokened,used⟩ := held.tokened other event inside
    rw [tokened] at same
    exact fresh (Option.some.inj same ▸ used)
  refine ⟨?_,?_,?_,?_,?_,?_,?_,?_,?_,reported⟩
  · simpa only [Keyed,keys] using held.keyed
  · intro new there
    rcases mem new there with old | ⟨old,inside,rfl⟩
    · exact held.locked new old
    · simp [OutboxEvent.claim]
  · intro new there holder its
    rw [drawn]
    rcases mem new there with old | ⟨old,inside,rfl⟩
    · exact List.mem_cons_of_mem _ (held.drawn new old holder its)
    · exact Option.some.inj its ▸ List.mem_cons_self
  · intro other event inside
    rw [drawn]
    rcases handed other event inside with old | ⟨_,its⟩
    · obtain ⟨token',tokened,used⟩ := held.tokened other event old
      exact ⟨token',tokened,List.mem_cons_of_mem _ used⟩
    · exact ⟨token,its,List.mem_cons_self⟩
  · intro first second event inside event' inside' same
    rcases handed first event inside with old | ⟨mine,its⟩
    · rcases handed second event' inside' with old' | ⟨_,its'⟩
      · exact held.one first second event old event' old' same
      · exact absurd (same.trans its') (older first event old)
    · rcases handed second event' inside' with old' | ⟨mine',_⟩
      · exact absurd (same.symm.trans its) (older second event' old')
      · exact mine.trans mine'.symm
  · intro new there
    have unbooked : ∀ id, failures (moved party s.rows (claimRows s.rows limit token s.now)) id = 0 := by
      intro id
      rw [failures,List.length_eq_zero_iff,List.filter_eq_nil_iff]
      intro move inside
      simp [(claims move inside).2.1]
    rw [moves,failures_append,unbooked,Nat.add_zero]
    rcases mem new there with old | ⟨old,inside,rfl⟩
    · exact held.attempts new old
    · exact held.attempts old inside
  · intro move there
    have listed : move.id ∈ s.rows.map OutboxEvent.id := by
      rcases List.mem_append.mp (moves ▸ there) with old | last
      · obtain ⟨its,member,id⟩ := held.present move old
        exact id ▸ List.mem_map_of_mem member
      · obtain ⟨_,_,its,member,id⟩ := claims move last
        exact id ▸ List.mem_map_of_mem member
    exact List.mem_map.mp (keys ▸ listed)
  · intro caller event inside move there its left new member same
    rcases List.mem_append.mp (moves ▸ there) with old | last
    · rcases handed _ event inside with current | ⟨mine,_⟩
      · rcases mem new member with kept | ⟨row,kept,rfl⟩
        · exact held.spent caller event current move old its left new kept same
        · exact Ne.symm (older _ event current)
      · exact absurd (its.trans mine) (quiet caller mine.symm move old)
    · exact absurd (claims move last).2.1 left
  · intro caller
    have unsettled : settled (moved party s.rows (claimRows s.rows limit token s.now)) caller = [] := by
      rw [settled,List.map_eq_nil_iff,List.filter_eq_nil_iff]
      intro move inside
      simp [(claims move inside).2.1]
    rw [moves,settled_append,unsettled,List.append_nil]
    exact held.single caller

theorem held_create {id : String} {s : State Payload} (held : Held timed s) (fresh : ∀ row ∈ s.rows, row.id ≠ id) :
    Held timed {s with rows := create s.rows data id s.now} := by
  simp only [create]
  split
  · exact held
  · have mem : ∀ new ∈ s.rows ++ [stage data id s.now], new ∈ s.rows ∨ new = stage data id s.now := by simp
    have unmoved : failures s.moves id = 0 := by
      rw [failures,List.length_eq_zero_iff,List.filter_eq_nil_iff]
      intro move inside
      obtain ⟨row,member,its⟩ := held.present move inside
      simp [← its,fresh row member]
    refine ⟨keyed_append held.keyed fresh,?_,?_,held.tokened,held.one,?_,?_,?_,held.single,
      ⟨held.reported.known,held.reported.quiet,held.reported.counted⟩⟩
    · intro new there
      rcases mem new there with old | rfl
      · exact held.locked new old
      · simp [stage]
    · intro new there token holder
      rcases mem new there with old | rfl
      · exact held.drawn new old token holder
      · cases holder
    · intro new there
      rcases mem new there with old | rfl
      · exact held.attempts new old
      · exact unmoved.symm
    · intro move inside
      obtain ⟨row,member,its⟩ := held.present move inside
      exact ⟨row,List.mem_append_left _ member,its⟩
    · intro caller event inside move moved its left new there same
      rcases mem new there with old | rfl
      · exact held.spent caller event inside move moved its left new old same
      · obtain ⟨token,tokened,_⟩ := held.tokened (.batch caller) event inside
        simp [tokened,stage]

theorem held_started {s : State Payload} (held : Held timed s) (idle : s.workers caller = none) :
    Held timed (s.put caller ⟨options,⟨0,0,0⟩,.claiming limit⟩) := by
  have unmoved : ∀ move ∈ s.moves, move.caller ≠ .batch caller := fun move inside its => held.reported.known move inside caller its idle
  have untold : ∀ status, tally s.moves caller status = 0 := by
    intro status
    rw [tally,List.length_eq_zero_iff,List.filter_eq_nil_iff]
    intro move inside
    simp [unmoved move inside]
  have reported : Reported timed (s.put caller ⟨options,⟨0,0,0⟩,.claiming limit⟩) := by
    refine reported_put held.reported rfl (List.append_nil _).symm nofun (fun _ _ => unmoved) ?_
    exact ⟨(untold _).symm,by simp [State.put,untold],by simp [State.put,untold]⟩
  refine held_kept held rfl rfl rfl ?_ reported
  intro party event inside
  rcases received_put rfl rfl inside with ⟨_,its⟩ | ⟨_,its⟩
  · cases its
  · exact its

-- A worker at another point of its loop, with nothing new to report.
theorem held_turned {s : State Payload} (held : Held timed s) (holds : s.workers caller = some worker)
    (fewer : ∀ event ∈ phase.events, event ∈ worker.phase.events) (claimed : ∀ limit, phase ≠ .claiming limit) :
    Held timed (s.put caller {worker with phase := phase}) := by
  have counts := held.reported.counted caller worker holds
  refine held_kept held rfl rfl rfl ?_ (reported_put held.reported rfl (List.append_nil _).symm nofun ?_
    ⟨counts.published,counts.unpublished,counts.delayed⟩)
  · intro party event inside
    rcases received_put rfl rfl inside with ⟨rfl,its⟩ | ⟨_,its⟩
    · rw [received_batch holds]
      exact fewer event its
    · exact its
  · intro limit its
    exact absurd its (claimed limit)

theorem held_claimed {s : State Payload} (held : Held timed s) (holds : s.workers caller = some worker)
    (phase : worker.phase = .claiming limit) (fresh : token ∉ s.drawn) :
    Held timed {(s.put caller {worker with phase := next (claimPending s.rows limit token s.now).2}).write (.batch caller)
      (claimPending s.rows limit token s.now).1 with drawn := token :: s.drawn} := by
  have quiet := held.reported.quiet caller worker limit holds phase
  refine held_claim held fresh rfl rfl rfl ?_ ?_ (reported_put held.reported rfl rfl ?_ ?_ ?_)
  · intro party event inside
    rcases received_put rfl rfl inside with ⟨rfl,its⟩ | ⟨_,its⟩
    · exact .inr ⟨rfl,mem_claimed ((next_events _).subst its)⟩
    · exact .inl its
  · intro other its
    exact quiet
  · intro move inside
    exact (moved_claims inside).1
  · intro limit' claimed
    exact absurd claimed (next_claimed _)
  · have counts := held.reported.counted caller worker holds
    exact counted_append ⟨counts.published,counts.unpublished,counts.delayed⟩ fun move last => .inr (moved_claims last).2.1

theorem held_claimedDirect {s : State Payload} (held : Held timed s) (fresh : token ∉ s.drawn) :
    Held timed {s.write (.direct caller) (claimPending s.rows limit token s.now).1 with
      drawn := token :: s.drawn
      direct := Function.update s.direct caller (s.direct caller ++ (claimPending s.rows limit token s.now).2)} := by
  refine held_claim held fresh rfl rfl rfl ?_ nofun (reported_apart held.reported rfl rfl ?_)
  · intro party event inside
    cases party with
    | batch other => exact .inl inside
    | direct other =>
        by_cases its : other = caller
        · subst its
          simp only [State.received,Function.update_self] at inside
          rcases List.mem_append.mp inside with old | new
          · exact .inl old
          · exact .inr ⟨rfl,mem_claimed new⟩
        · simp only [State.received,Function.update_of_ne its] at inside
          exact .inl inside
  · intro move inside other its
    rw [(moved_claims inside).1] at its
    cases its

-- Everything one action can do, with what it finds before it.
inductive Stepped (s : State Payload) : Action Payload → State Payload → Prop where
  | created {id : String} (unused : ∀ row ∈ s.rows, row.id ≠ id) : Stepped s (.create data id) {s with rows := create s.rows data id s.now}
  | started (idle : s.workers caller = none) :
      Stepped s (.publishPending caller options limit) (s.put caller ⟨options,⟨0,0,0⟩,.claiming limit⟩)
  | claimed (holds : s.workers caller = some worker) (phase : worker.phase = .claiming limit) (fresh : token ∉ s.drawn) :
      Stepped s (.claim caller token)
        {(s.put caller {worker with phase := next (claimPending s.rows limit token s.now).2}).write (.batch caller)
          (claimPending s.rows limit token s.now).1 with drawn := token :: s.drawn}
  | delivered {succeeds : Bool} (holds : s.workers caller = some worker) (phase : worker.phase = .delivering event rest) :
      Stepped s (.deliver caller succeeds)
        (s.put caller {worker with phase := if succeeds then .publishing event rest else .failing event rest s.now})
  | published (holds : s.workers caller = some worker) (phase : worker.phase = .publishing event rest) :
      Stepped s (.mark caller random computed) (publishOne s caller worker event rest)
  | failed (holds : s.workers caller = some worker) (phase : worker.phase = .failing event rest since)
      (after : since ≤ computed) (before : computed ≤ s.now) :
      Stepped s (.mark caller random computed) (handleDeliveryFailure s caller worker event rest random computed)
  | claimedDirect (fresh : token ∉ s.drawn) : Stepped s (.claimDirect caller limit token)
      {s.write (.direct caller) (claimPending s.rows limit token s.now).1 with
        drawn := token :: s.drawn
        direct := Function.update s.direct caller (s.direct caller ++ (claimPending s.rows limit token s.now).2)}
  | publishedDirect (there : (s.direct caller)[place]? = some event) : Stepped s (.publishDirect caller place)
      (s.write (.direct caller) (markPublished s.rows event.id event.lockedBy).1)
  | failedDirect (there : (s.direct caller)[place]? = some event) : Stepped s (.failDirect caller place nextRetryAt)
      (s.write (.direct caller) (markFailed s.rows event.id nextRetryAt event.lockedBy s.now).1)
  | threw (holds : s.workers caller = some worker) (phase : worker.phase = .claiming limit) :
      Stepped s (.abort caller) (s.put caller {worker with phase := .thrown})
  | skipped (holds : s.workers caller = some worker) (phase : worker.phase = .publishing event rest ∨ ∃ since, worker.phase = .failing event rest since) :
      Stepped s (.abort caller) (s.put caller {worker with phase := next rest})
  | crashed (holds : s.workers caller = some worker) : Stepped s (.crash caller) (s.put caller {worker with phase := .crashed})
  | ticked : Stepped s (.tick elapsed) {s with now := s.now + elapsed}

theorem advance_exact {s t : State Payload} (moved : advance s action = some t) : Stepped s action t := by
  cases action with
  | create data id =>
      simp only [advance] at moved
      split at moved
      · cases moved
      · rename_i unused
        cases moved
        exact .created fun row inside same => unused (List.any_eq_true.mpr ⟨row,inside,by simp [same]⟩)
  | publishPending caller options limit =>
      simp only [advance] at moved
      split at moved
      · rename_i idle
        cases moved
        exact .started (by simpa using idle)
      · cases moved
  | claim caller token =>
      simp only [advance,Option.bind_eq_bind,Option.bind_eq_some_iff] at moved
      obtain ⟨worker,holds,moved⟩ := moved
      split at moved
      · rename_i limit phase
        split at moved
        · cases moved
        · rename_i fresh
          cases moved
          exact .claimed holds phase (by simpa using fresh)
      · cases moved
  | deliver caller succeeds =>
      simp only [advance,Option.bind_eq_bind,Option.bind_eq_some_iff] at moved
      obtain ⟨worker,holds,moved⟩ := moved
      split at moved
      · rename_i event rest phase
        cases moved
        exact .delivered holds phase
      · cases moved
  | mark caller random computed =>
      simp only [advance,Option.bind_eq_bind,Option.bind_eq_some_iff] at moved
      obtain ⟨worker,holds,moved⟩ := moved
      split at moved
      · rename_i event rest phase
        cases moved
        exact .published holds phase
      · rename_i event rest since phase
        split at moved
        · rename_i between
          cases moved
          exact .failed holds phase between.1 between.2
        · cases moved
      · cases moved
  | claimDirect caller limit token =>
      simp only [advance] at moved
      split at moved
      · cases moved
      · rename_i fresh
        cases moved
        exact .claimedDirect (by simpa using fresh)
  | publishDirect caller place =>
      simp only [advance,Option.bind_eq_bind,Option.bind_eq_some_iff] at moved
      obtain ⟨event,there,moved⟩ := moved
      cases moved
      exact .publishedDirect there
  | failDirect caller place nextRetryAt =>
      simp only [advance,Option.bind_eq_bind,Option.bind_eq_some_iff] at moved
      obtain ⟨event,there,moved⟩ := moved
      cases moved
      exact .failedDirect there
  | abort caller =>
      simp only [advance,Option.bind_eq_bind,Option.bind_eq_some_iff] at moved
      obtain ⟨worker,holds,moved⟩ := moved
      split at moved
      · rename_i limit phase
        cases moved
        exact .threw holds phase
      · rename_i event rest phase
        cases moved
        exact .skipped holds (.inl phase)
      · rename_i event rest since phase
        cases moved
        exact .skipped holds (.inr ⟨since,phase⟩)
      · cases moved
  | crash caller =>
      simp only [advance,Option.map_eq_some_iff] at moved
      obtain ⟨worker,holds,rfl⟩ := moved
      exact .crashed holds
  | tick elapsed =>
      cases moved
      exact .ticked

theorem held_advance {s t : State Payload} (held : Held timed s) (ahead : timed → timely s action) (moved : advance s action = some t) : Held timed t := by
  cases advance_exact moved with
  | created unused => exact held_create held unused
  | started idle => exact held_started held idle
  | claimed holds phase fresh => exact held_claimed held holds phase fresh
  | delivered holds phase =>
      rename_i succeeds
      cases succeeds <;> refine held_turned held holds ?_ ?_ <;> simp [phase,Phase.events]
  | published holds phase => exact held_publishOne held holds phase
  | failed holds phase => exact held_handleDeliveryFailure held holds phase ahead
  | claimedDirect fresh => exact held_claimedDirect held fresh
  | publishedDirect there => exact held_direct held releases_publish (List.mem_of_getElem? there)
  | failedDirect there => exact held_direct held (releases_fail _ s.now) (List.mem_of_getElem? there)
  | threw holds => refine held_turned held holds ?_ ?_ <;> simp [Phase.events]
  | skipped holds phase =>
      refine held_turned held holds ?_ (fun _ => next_claimed _)
      rw [next_events]
      rcases phase with phase | ⟨since,phase⟩ <;> rw [phase] <;> exact fun event inside => List.mem_cons_of_mem _ inside
  | crashed holds => refine held_turned held holds ?_ ?_ <;> simp [Phase.events]
  | ticked =>
      exact held_kept held rfl rfl rfl (fun _ _ inside => inside)
        ⟨held.reported.known,held.reported.quiet,held.reported.counted⟩

theorem held_initial (now : Int) : Held timed (⟨[],now,[],fun _ => none,fun _ => [],[]⟩ : State Payload) := by
  have unreceived : ∀ party, State.received (⟨[],now,[],fun _ => none,fun _ => [],[]⟩ : State Payload) party = [] := by
    intro party
    cases party <;> rfl
  refine ⟨List.nodup_nil,?_,?_,?_,?_,?_,?_,?_,fun _ => List.nodup_nil,⟨?_,?_,?_⟩⟩ <;> simp [unreceived]

theorem held_reached (path : Reached (outbox Payload) allowed s)
    (ahead : timed → ∀ s action, allowed s action → timely s action) : Held timed s := by
  refine path.invariant (Held timed) ?_ ?_
  · rintro u ⟨now,rfl⟩
    exact held_initial now
  · intro u action next _ held permitted moved
    exact held_advance held (fun exact_ => ahead exact_ u action permitted) moved

theorem held_any (path : Reached (outbox Payload) anyStep s) : Held False s := held_reached path nofun

-- A mark leaves alone every row that the token does not hold; without one it changes nothing.
structure Fenced (s t : State Payload) (event : OutboxEvent Payload) (unchanged : State Payload) : Prop where
  others : ∀ row ∈ s.rows, ¬ (row.id = event.id ∧ row.lockedBy = event.lockedBy) → row ∈ t.rows
  lost : (∀ row ∈ s.rows, ¬ (row.id = event.id ∧ row.lockedBy = event.lockedBy)) → t = unchanged

theorem marked_others {s : State Payload} (held : Held timed s) (current : event ∈ s.received party)
    (done : Marked s party event change rows more count) (inside : row ∈ s.rows)
    (apart : ¬ (row.id = event.id ∧ row.lockedBy = event.lockedBy)) : row ∈ rows := by
  obtain ⟨token,tokened,_⟩ := held.tokened party event current
  cases done with
  | lost _ => exact inside
  | written _ _ _ _ =>
      refine mem_updateWhere_other inside ?_
      simpa [owned,tokened] using apart

theorem marked_lost {s : State Payload} (done : Marked s party event change rows more count)
    (unheld : ∀ row ∈ s.rows, ¬ (row.id = event.id ∧ row.lockedBy = event.lockedBy)) :
    rows = s.rows ∧ more = [] ∧ count = 0 := by
  cases done with
  | lost _ => exact ⟨rfl,rfl,rfl⟩
  | written row inside same locked => exact absurd ⟨same,locked⟩ (unheld row inside)

theorem fenced_turn {s : State Payload} {worker : Worker Payload} (report : Nat → OutboxPublishResult) (held : Held timed s)
    (current : event ∈ s.received (.batch caller)) (unreported : report 0 = worker.result)
    (done : Marked s (.batch caller) event change rows more count) :
    Fenced s {s.put caller (worker.counted (report count) rest) with rows := rows,moves := s.moves ++ more} event
      (s.put caller (worker.counted worker.result rest)) := by
  refine ⟨fun row inside apart => marked_others held current done inside apart,fun unheld => ?_⟩
  obtain ⟨rfl,rfl,rfl⟩ := marked_lost done unheld
  rw [unreported,List.append_nil]
  rfl

theorem fenced_mark {s : State Payload} (held : Held timed s) (holds : s.workers caller = some worker)
    (phase : worker.phase = .publishing event rest ∨ ∃ since, worker.phase = .failing event rest since)
    (moved : advance s (.mark caller random computed) = some t) :
    Fenced s t event (s.put caller (worker.counted worker.result rest)) := by
  have current : event ∈ s.received (.batch caller) := by
    rw [received_batch holds]
    rcases phase with is | ⟨since,is⟩ <;> simp [is,Phase.events]
  rcases phase with is | ⟨since,is⟩
  · simp only [advance,Option.bind_eq_bind,holds,Option.bind_some,is] at moved
    cases moved
    let report : Nat → OutboxPublishResult := fun updated =>
      if updated = 0 then worker.result else {worker.result with published := worker.result.published + 1}
    exact fenced_turn report held current rfl (marked held releases_publish current)
  · simp only [advance,Option.bind_eq_bind,holds,Option.bind_some,is] at moved
    split at moved <;> cases moved
    simp only [handleDeliveryFailure]
    split
    · let report : Nat → OutboxPublishResult := fun deadLettered =>
        if 0 < deadLettered then {worker.result with deadLettered := worker.result.deadLettered + 1} else worker.result
      have releases : Releases fun row : OutboxEvent Payload => row.fail none s.now := releases_fail none s.now
      exact fenced_turn report held current rfl (marked held releases current)
    · let retryAt := nextRetry worker.options (event.attempts + 1) random computed
      let report : Nat → OutboxPublishResult := fun retried =>
        if 0 < retried then {worker.result with retried := worker.result.retried + 1} else worker.result
      have releases : Releases fun row : OutboxEvent Payload => row.fail (some retryAt) s.now :=
        releases_fail (some retryAt) s.now
      exact fenced_turn report held current rfl (marked held releases current)

theorem fenced_direct {s : State Payload} (held : Held timed s) (current : event ∈ s.received (.direct caller))
    (releases : Releases change) :
    Fenced s (s.write (.direct caller) (updateWhere (owned event.id event.lockedBy) change s.rows)) event s := by
  have done := marked held releases current
  refine ⟨fun row inside apart => marked_others held current done inside apart,fun unheld => ?_⟩
  obtain ⟨rows,more,_⟩ := marked_lost done unheld
  simp only [State.write,more,List.append_nil]
  rw [rows]

-- No token holds a final row, and no claim takes it.
theorem final_step {s t : State Payload} (held : Held timed s) (inside : row ∈ s.rows) (final : Final row)
    (moved : advance s action = some t) : row ∈ t.rows := by
  have unheld : row.lockedBy = none := by
    cases holder : row.lockedBy with
    | none => rfl
    | some token =>
        have processing := (held.locked row inside).mpr (by simp [holder])
        rcases final with is | is <;> rw [is] at processing <;> cases processing
  have apart : ∀ party, ∀ event ∈ s.received party, ¬ (row.id = event.id ∧ row.lockedBy = event.lockedBy) := by
    rintro party event current ⟨_,locked⟩
    obtain ⟨token,tokened,_⟩ := held.tokened party event current
    rw [unheld,tokened] at locked
    cases locked
  have unclaimed : ∀ limit token, row ∈ claimRows s.rows limit token s.now := by
    intro limit token
    refine mem_updateWhere_other inside ?_
    rcases final with is | is <;> simp [claimable,is]
  cases advance_exact moved with
  | created =>
      simp only [create]
      split
      · exact inside
      · exact List.mem_append_left _ inside
  | claimed | claimedDirect => exact unclaimed _ _
  | published holds phase =>
      rename_i caller worker event rest random computed
      have current : event ∈ s.received (.batch caller) := by simp [received_batch holds,phase,Phase.events]
      exact (fenced_mark held holds (.inl phase) moved).others row inside (apart (.batch caller) event current)
  | failed holds phase after before =>
      rename_i caller worker event rest since computed random
      have current : event ∈ s.received (.batch caller) := by simp [received_batch holds,phase,Phase.events]
      exact (fenced_mark held holds (.inr ⟨since,phase⟩) moved).others row inside (apart (.batch caller) event current)
  | publishedDirect there =>
      have current := List.mem_of_getElem? there
      exact (fenced_direct held current releases_publish).others row inside (apart (.direct _) _ current)
  | failedDirect there =>
      have current := List.mem_of_getElem? there
      exact (fenced_direct held current (releases_fail _ s.now)).others row inside (apart (.direct _) _ current)
  | started | delivered | threw | skipped | crashed | ticked => exact inside

theorem final_stays {s t : State Payload} (path : Path (outbox Payload) anyStep s t) (reached : Reached (outbox Payload) anyStep s)
    (inside : row ∈ s.rows) (final : Final row) : row ∈ t.rows := by
  induction path with
  | refl => exact inside
  | step before _ moved ih => exact final_step (held_any (reached.later before)) ih final moved

-- The first batch outlives its lease; the second takes the row over and has to retry it,
-- and a third delivers it.
def takeover : List (Action Unit) :=
  [.create ⟨none,"payment.succeeded",(),none⟩ "e1",.publishPending 0 {} 50,.claim 0 "t1",.deliver 0 false,.tick 300000,
    .publishPending 1 {} 50,.claim 1 "t2",.deliver 1 false,.tick 499,.mark 1 0 300000,.mark 0 0 0,.tick 1,
    .publishPending 2 {} 50,.claim 2 "t3",.deliver 2 true,.mark 2 0 0]

-- A delay that rounds to nothing: the row fails at its first attempt and counts as retried.
def roundedAway : List (Action Unit) :=
  [.create ⟨none,"payment.succeeded",(),none⟩ "e1",.publishPending 0 {backoffMs := 1} 50,.claim 0 "t1",.deliver 0 false,
    .mark 0 0 0]

end Payable.Outbox
