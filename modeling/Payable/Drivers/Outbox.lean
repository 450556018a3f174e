import Payable.Drivers.Migrations
import Payable.Outbox.FairClaims

namespace Payable.Drivers
open WhereClauses Tables

-- A row of payable_outbox_events; its payload is the stored text.
structure OutboxRow extends Outbox.OutboxEvent String where
  correlationId : String
  eventVersion : Int
  updatedAt : Int
  deriving DecidableEq

structure OutboxEntity (Json : Type) where
  id : String
  tenantId : Option String
  correlationId : String
  eventType : String
  eventVersion : Int
  payload : Json
  status : Outbox.OutboxStatus
  attempts : Nat
  nextRetryAt : Option Int
  lockToken : Option String
  dedupeKey : Option String
  createdAt : Int
  updatedAt : Int
  deriving DecidableEq

-- How a stored payload is read: decrypt, or the text itself; JSON.parse, none where it throws or gives null; and {}.
structure Reader (Json : Type) where
  decrypt : String → Except DriverError String
  parse : String → Option Json
  empty : Json

variable {Json : Type}

def createdFirst (a b : OutboxRow) : Prop := Outbox.createdBefore a.toOutboxEvent b.toOutboxEvent

instance : DecidableRel createdFirst := fun _ _ => inferInstanceAs (Decidable (Outbox.createdBefore _ _))

def fetchLimit (limit : Nat) : Nat := min (limit * Outbox.fairOverfetchFactor) Outbox.maxFairOverfetch

-- The ids are dealt by the tenants of the candidates.
def fairlyOrdered (candidates : List OutboxRow) (limit : Nat) : List String :=
  Outbox.fairlyOrdered (candidates.map (·.toOutboxEvent)) limit

namespace Columns

def eventId (row : OutboxRow) : Option String := some row.id
def eventStatus (row : OutboxRow) : Option Outbox.OutboxStatus := some row.status
def nextRetryAt (row : OutboxRow) : Option Int := row.nextRetryAt
def eventLockedUntil (row : OutboxRow) : Option Int := row.lockedUntil
def lockedBy (row : OutboxRow) : Option String := row.lockedBy

end Columns

namespace Knex

def toOutboxEntity (reader : Reader Json) (row : OutboxRow) : OutboxEntity Json :=
  {id := row.id
   tenantId := row.tenantId
   correlationId := row.correlationId
   eventType := row.eventType
   eventVersion := row.eventVersion
   payload := (reader.parse row.payload).getD reader.empty
   status := row.status
   attempts := row.attempts
   nextRetryAt := row.nextRetryAt
   lockToken := row.lockedBy
   dedupeKey := row.dedupeKey
   createdAt := row.createdAt
   updatedAt := row.updatedAt}

def hydrate (reader : Reader Json) (row : OutboxRow) : Except DriverError (OutboxEntity Json) :=
  (reader.decrypt row.payload).map fun payload => toOutboxEntity reader {row with payload := payload}

def claimable (now : Int) : Builder OutboxRow :=
  let retry := (Builder.empty.andWhere (isNull Columns.nextRetryAt)).orWhere (compare Columns.nextRetryAt (· ≤ now))
  let pending := (Builder.empty.andWhere (equals Columns.eventStatus (some .pending))).andWhere retry.truth
  let stale := (Builder.empty.andWhere (equals Columns.eventStatus (some .processing))).andWhere
    (compare Columns.eventLockedUntil (· ≤ now))
  (Builder.empty.andWhere pending.truth).orWhere stale.truth

-- One transaction: an event that cannot be hydrated takes the claim back.
def claimPending (reader : Reader Json) (rows : List OutboxRow) (limit : Nat) (token : String) (now : Int) :
    Ran OutboxRow (List (OutboxEntity Json)) :=
  let candidates := select rows (Builder.empty.andWhere (claimable now).truth).selects createdFirst (fetchLimit limit)
  let ids := fairlyOrdered candidates limit
  if ids = [] then (rows,.ok [])
  else
    let claim (row : OutboxRow) : OutboxRow :=
      {row with status := .processing,lockedBy := some token,lockedUntil := some (now + Outbox.claimTtlMs),updatedAt := now}
    let next := updateWhere ((Builder.empty.andWhere (within Columns.eventId ids)).andWhere (claimable now).truth).selects claim rows
    let mine := next.filter (((Builder.empty.andWhere (within Columns.eventId ids)).andWhere
      (equals Columns.lockedBy (some token))).andWhere (equals Columns.eventStatus (some .processing))).selects
    match (ids.filterMap fun id => mine.find? (·.id == id)).mapM (hydrate reader) with
    | .error thrown => (rows,.error thrown)
    | .ok events => (next,.ok events)

def owned (id : String) (lockToken : Option String) : Builder OutboxRow :=
  let query := Builder.empty.andWhere (equals Columns.eventId (some id))
  match lockToken with
  | none => query
  | some lockToken => query.andWhere (equals Columns.lockedBy (some lockToken))

def markPublished (rows : List OutboxRow) (id : String) (lockToken : Option String) (now : Int) : Ran OutboxRow Nat :=
  (updateWhere (owned id lockToken).selects (fun row =>
    {row with status := .published,lockedBy := none,lockedUntil := none,updatedAt := now}) rows,
    .ok (rows.filter (owned id lockToken).selects).length)

-- The clock is read for the retry, and once more for updated_at.
def markFailed (rows : List OutboxRow) (id : String) (nextRetryAt : Option Int) (lockToken : Option String) (now later : Int) :
    Ran OutboxRow Nat :=
  let retry := nextRetryAt.filter (now < ·)
  (updateWhere (owned id lockToken).selects (fun row =>
    {row with
      status := if retry.isSome then .pending else .failed
      attempts := row.attempts + 1
      nextRetryAt := retry
      lockedBy := none
      lockedUntil := none
      updatedAt := later}) rows,
    .ok (rows.filter (owned id lockToken).selects).length)

end Knex

namespace Prisma

def outboxToEntity (reader : Reader Json) (row : OutboxRow) : OutboxEntity Json :=
  {id := row.id
   tenantId := row.tenantId
   correlationId := row.correlationId
   eventType := row.eventType
   eventVersion := row.eventVersion
   payload := (reader.parse row.payload).getD reader.empty
   status := row.status
   attempts := row.attempts
   nextRetryAt := row.nextRetryAt
   lockToken := row.lockedBy
   dedupeKey := row.dedupeKey
   createdAt := row.createdAt
   updatedAt := row.updatedAt}

def hydrate (reader : Reader Json) (row : OutboxRow) : Except DriverError (OutboxEntity Json) :=
  (reader.decrypt row.payload).map fun payload => outboxToEntity reader {row with payload := payload}

def claimable (now : Int) : Clause OutboxRow :=
  OR [AND [asks Columns.eventStatus (some .pending),OR [asks Columns.nextRetryAt none,passes Columns.nextRetryAt (· ≤ now)]],
    AND [asks Columns.eventStatus (some .processing),passes Columns.eventLockedUntil (· ≤ now)]]

def claimPending (reader : Reader Json) (rows : List OutboxRow) (limit : Nat) (token : String) (now : Int) :
    Ran OutboxRow (List (OutboxEntity Json)) :=
  let candidates := select rows (claimable now) createdFirst (fetchLimit limit)
  let ids := fairlyOrdered candidates limit
  if ids = [] then (rows,.ok [])
  else
    let claim (row : OutboxRow) : OutboxRow :=
      {row with status := .processing,lockedBy := some token,lockedUntil := some (now + Outbox.claimTtlMs),updatedAt := now}
    let next := updateWhere (AND [passes Columns.eventId ids.contains,claimable now]) claim rows
    let mine := next.filter
      (AND [passes Columns.eventId ids.contains,asks Columns.lockedBy (some token),asks Columns.eventStatus (some .processing)])
    match (ids.filterMap fun id => mine.find? (·.id == id)).mapM (hydrate reader) with
    | .error thrown => (rows,.error thrown)
    | .ok events => (next,.ok events)

def owned (id : String) (lockToken : Option String) : Clause OutboxRow :=
  AND ([asks Columns.eventId (some id)] ++
    match lockToken with
    | none => []
    | some lockToken => [asks Columns.lockedBy (some lockToken)])

def markPublished (rows : List OutboxRow) (id : String) (lockToken : Option String) (now : Int) : Ran OutboxRow Nat :=
  (updateWhere (owned id lockToken) (fun row =>
    {row with status := .published,lockedBy := none,lockedUntil := none,updatedAt := now}) rows,
    .ok (rows.filter (owned id lockToken)).length)

def markFailed (rows : List OutboxRow) (id : String) (nextRetryAt : Option Int) (lockToken : Option String) (now : Int) :
    Ran OutboxRow Nat :=
  let retry := nextRetryAt.filter (now < ·)
  (updateWhere (owned id lockToken) (fun row =>
    {row with
      status := if retry.isSome then .pending else .failed
      attempts := row.attempts + 1
      nextRetryAt := retry
      lockedBy := none
      lockedUntil := none
      updatedAt := now}) rows,
    .ok (rows.filter (owned id lockToken)).length)

end Prisma

theorem claimable_same (now : Int) (row : OutboxRow) :
    (Knex.claimable now).truth row = some true ↔ Prisma.claimable now row = true := by
  have unset : Means (Builder.empty.andWhere (isNull Columns.nextRetryAt)) [asks Columns.nextRetryAt none] :=
    Means.start.narrow fun _ => isNull_asks
  have retry := either_means unset (by simp [Builder.empty,Builder.andWhere]) fun row =>
    (compare_true : compare Columns.nextRetryAt (· ≤ now) row = some true ↔ _)
  have pending : Means ((Builder.empty.andWhere (equals Columns.eventStatus (some .pending))).andWhere
      ((Builder.empty.andWhere (isNull Columns.nextRetryAt)).orWhere (compare Columns.nextRetryAt (· ≤ now))).truth)
      [asks Columns.eventStatus (some .pending),OR [asks Columns.nextRetryAt none,passes Columns.nextRetryAt (· ≤ now)]] :=
    (Means.start.narrow fun _ => equals_true).narrow fun row => by rw [retry,and_single]
  have stale : Means ((Builder.empty.andWhere (equals Columns.eventStatus (some .processing))).andWhere
      (compare Columns.eventLockedUntil (· ≤ now)))
      [asks Columns.eventStatus (some .processing),passes Columns.eventLockedUntil (· ≤ now)] :=
    (Means.start.narrow fun _ => equals_true).narrow fun _ => compare_true
  have either := either_means (Means.start.narrow pending.nested) (by simp [Builder.empty,Builder.andWhere]) stale.nested row
  rwa [List.nil_append,and_single] at either

theorem hydrate_same (reader : Reader Json) : Knex.hydrate reader = Prisma.hydrate reader := rfl

theorem claimPending_same (reader : Reader Json) (rows : List OutboxRow) (limit : Nat) (token : String) (now : Int) :
    Knex.claimPending reader rows limit token now = Prisma.claimPending reader rows limit token now := by
  have candidates : (Builder.empty.andWhere (Knex.claimable now).truth).selects = Prisma.claimable now :=
    (Means.start.narrow (claimable_same now)).selects.trans (and_single _)
  have among (ids : List String) : Means (Builder.empty.andWhere (within Columns.eventId ids)) [passes Columns.eventId ids.contains] :=
    Means.start.narrow fun _ => compare_true
  have reached (ids : List String) := ((among ids).narrow (claimable_same now)).selects
  have mine (ids : List String) : (((Builder.empty.andWhere (within Columns.eventId ids)).andWhere
      (equals Columns.lockedBy (some token))).andWhere (equals Columns.eventStatus (some .processing))).selects =
      AND [passes Columns.eventId ids.contains,asks Columns.lockedBy (some token),asks Columns.eventStatus (some .processing)] :=
    (((among ids).narrow fun _ => equals_true).narrow fun _ => equals_true).selects
  unfold Knex.claimPending Prisma.claimPending
  simp only [candidates,reached,mine,hydrate_same]
  rfl

theorem owned_same (id : String) (lockToken : Option String) : (Knex.owned id lockToken).selects = Prisma.owned id lockToken := by
  have named : Means (Builder.empty.andWhere (equals Columns.eventId (some id))) [asks Columns.eventId (some id)] :=
    Means.start.narrow fun _ => equals_true
  unfold Knex.owned Prisma.owned
  cases lockToken with
  | none => exact named.selects
  | some lockToken => exact (named.narrow fun _ => equals_true).selects

theorem markPublished_same (rows : List OutboxRow) (id : String) (lockToken : Option String) (now : Int) :
    Knex.markPublished rows id lockToken now = Prisma.markPublished rows id lockToken now := by
  unfold Knex.markPublished Prisma.markPublished
  rw [owned_same]

end Payable.Drivers

namespace Payable.Drivers
open WhereClauses Tables

variable {Json : Type}

-- A row but for when it was last written.
def OutboxRow.undated (row : OutboxRow) : OutboxRow := {row with updatedAt := 0}

def Alike (rows others : List OutboxRow) : Prop := rows.map OutboxRow.undated = others.map OutboxRow.undated

instance (rows others : List OutboxRow) : Decidable (Alike rows others) := inferInstanceAs (Decidable (_ = _))

theorem alike_undated (rows : List OutboxRow) : Alike rows (rows.map OutboxRow.undated) := by
  unfold Alike
  rw [List.map_map]
  rfl

-- What an operation does to a table and to the table without its dates.
def SameUndated (operation : List OutboxRow → Ran OutboxRow α) (rows : List OutboxRow) : Prop :=
  Alike (operation rows).1 (operation (rows.map OutboxRow.undated)).1 ∧
    (operation rows).2 = (operation (rows.map OutboxRow.undated)).2

theorem SameUndated.alike {operation : List OutboxRow → Ran OutboxRow α} (one : SameUndated operation rows)
    (other : SameUndated operation others) (alike : Alike rows others) :
    Alike (operation rows).1 (operation others).1 ∧ (operation rows).2 = (operation others).2 := by
  unfold SameUndated Alike at *
  rw [alike] at one
  exact ⟨one.1.trans other.1.symm,one.2.trans other.2.symm⟩

variable {rows : List OutboxRow} {selects : OutboxRow → Bool} {patch : OutboxRow → OutboxRow}

theorem updateWhere_undated (rows : List OutboxRow) (selected : ∀ row, selects row.undated = selects row)
    (patched : ∀ row, (patch row.undated).undated = (patch row).undated) :
    Alike (updateWhere selects patch rows) (updateWhere selects patch (rows.map OutboxRow.undated)) := by
  simp only [Alike,updateWhere,List.map_map]
  refine List.map_congr_left ?_
  intro row _
  simp only [Function.comp_apply,selected]
  by_cases reached : selects row = true
  · rw [if_pos reached,if_pos reached,patched]
  · rw [if_neg reached,if_neg reached]
    rfl

theorem filter_undated (rows : List OutboxRow) (selected : ∀ row, selects row.undated = selects row) :
    (rows.map OutboxRow.undated).filter selects = (rows.filter selects).map OutboxRow.undated := by
  have same : selects ∘ OutboxRow.undated = selects := funext selected
  rw [List.filter_map,same]

theorem markPublished_undated (rows : List OutboxRow) (id : String) (lockToken : Option String) (now : Int) :
    SameUndated (Prisma.markPublished · id lockToken now) rows := by
  have selected : ∀ row : OutboxRow, Prisma.owned id lockToken row.undated = Prisma.owned id lockToken row := by
    intro row
    cases lockToken <;> rfl
  refine ⟨updateWhere_undated rows selected fun _ => rfl,?_⟩
  simp only [Prisma.markPublished,filter_undated rows selected,List.length_map]

theorem markFailed_undated (rows : List OutboxRow) (id : String) (nextRetryAt : Option Int) (lockToken : Option String) (now : Int) :
    SameUndated (Prisma.markFailed · id nextRetryAt lockToken now) rows := by
  have selected : ∀ row : OutboxRow, Prisma.owned id lockToken row.undated = Prisma.owned id lockToken row := by
    intro row
    cases lockToken <;> rfl
  refine ⟨updateWhere_undated rows selected fun _ => rfl,?_⟩
  simp only [Prisma.markFailed,filter_undated rows selected,List.length_map]

-- The second reading of the clock changes when the row was written, and nothing else.
theorem markFailed_same (rows : List OutboxRow) (id : String) (nextRetryAt : Option Int) (lockToken : Option String) (now later : Int) :
    Alike (Knex.markFailed rows id nextRetryAt lockToken now later).1 (Prisma.markFailed rows id nextRetryAt lockToken now).1 ∧
      (Knex.markFailed rows id nextRetryAt lockToken now later).2 = (Prisma.markFailed rows id nextRetryAt lockToken now).2 := by
  refine ⟨?_,?_⟩
  · simp only [Alike,Knex.markFailed,Prisma.markFailed,owned_same,updateWhere,List.map_map]
    refine List.map_congr_left ?_
    intro row _
    simp only [Function.comp_apply]
    by_cases reached : Prisma.owned id lockToken row = true
    · rw [if_pos reached,if_pos reached]
      rfl
    · rw [if_neg reached,if_neg reached]
  · simp only [Knex.markFailed,Prisma.markFailed,owned_same]

def candidates (rows : List OutboxRow) (limit : Nat) (now : Int) : List OutboxRow :=
  select rows (Prisma.claimable now) createdFirst (fetchLimit limit)

theorem candidates_undated (rows : List OutboxRow) (limit : Nat) (now : Int) :
    candidates (rows.map OutboxRow.undated) limit now = (candidates rows limit now).map OutboxRow.undated := by
  have ordered : ((rows.filter (Prisma.claimable now)).map OutboxRow.undated).insertionSort createdFirst =
      ((rows.filter (Prisma.claimable now)).insertionSort createdFirst).map OutboxRow.undated :=
    (List.map_insertionSort createdFirst createdFirst OutboxRow.undated _ fun _ _ _ _ => Iff.rfl).symm
  unfold candidates select
  rw [filter_undated rows fun _ => rfl,ordered,List.map_take]

theorem fairlyOrdered_undated (rows : List OutboxRow) (limit : Nat) :
    fairlyOrdered (rows.map OutboxRow.undated) limit = fairlyOrdered rows limit := by
  unfold fairlyOrdered
  rw [List.map_map]
  rfl

def rowId (row : OutboxRow) : String := row.id

theorem candidates_open (member : row ∈ candidates rows limit now) : row ∈ rows ∧ Prisma.claimable now row = true :=
  List.mem_filter.mp ((List.perm_insertionSort _ _).mem_iff.mp (List.mem_of_mem_take member))

-- Each id that is dealt is that of a row that can be claimed.
theorem dealt_row {id : String} (keyed : Keyed rowId rows) (inside : id ∈ fairlyOrdered (candidates rows limit now) limit) :
    ∃ row ∈ rows, rowId row = id ∧ Prisma.claimable now row = true := by
  have part : Keyed rowId (candidates rows limit now) := by
    have sorted : Keyed rowId ((rows.filter (Prisma.claimable now)).insertionSort createdFirst) :=
      ((List.perm_insertionSort _ _).map _).nodup_iff.mpr (List.Nodup.sublist (List.filter_sublist.map _) keyed)
    exact List.Nodup.sublist ((List.take_sublist _ _).map _) sorted
  have events : Keyed Outbox.OutboxEvent.id ((candidates rows limit now).map (·.toOutboxEvent)) := by
    unfold Keyed
    rw [List.map_map]
    exact part
  obtain ⟨_,_,_,evened⟩ := Outbox.fairlyOrdered_evened events limit
  obtain ⟨event,member,its⟩ := Outbox.chosen_member evened (fun _ => rfl) inside
  obtain ⟨row,candidate,rfl⟩ := List.mem_map.mp member
  obtain ⟨there,open_⟩ := candidates_open candidate
  exact ⟨row,there,its,open_⟩

def OutboxRow.claim (token : String) (now : Int) (row : OutboxRow) : OutboxRow :=
  {row with status := .processing,lockedBy := some token,lockedUntil := some (now + Outbox.claimTtlMs),updatedAt := now}

def reachedBy (ids : List String) (now : Int) : Clause OutboxRow := AND [passes Columns.eventId ids.contains,Prisma.claimable now]

def claimedBy (ids : List String) (token : String) (now : Int) (rows : List OutboxRow) : List OutboxRow :=
  (updateWhere (reachedBy ids now) (·.claim token now) rows).filter
    (AND [passes Columns.eventId ids.contains,asks Columns.lockedBy (some token),asks Columns.eventStatus (some .processing)])

-- A chosen row is found again as the claim has written it.
theorem claimedBy_found (keyed : Keyed rowId rows) (member : row ∈ rows) (open_ : Prisma.claimable now row = true)
    (chosen : rowId row ∈ ids) (token : String) :
    (claimedBy ids token now rows).find? (·.id == rowId row) = some (row.claim token now) := by
  have kept : Keyed rowId (updateWhere (reachedBy ids now) (·.claim token now) rows) := by
    rw [Keyed,updateWhere_keys]
    · exact keyed
    · intro row
      rfl
  have listed : row.id ∈ ids := chosen
  have claimed : row.claim token now ∈ updateWhere (reachedBy ids now) (·.claim token now) rows :=
    mem_updateWhere_self member (by simp [reachedBy,AND,passes,Columns.eventId,listed,open_])
  have mine : row.claim token now ∈ claimedBy ids token now rows :=
    List.mem_filter.mpr ⟨claimed,by
      simp [AND,passes,asks,Columns.eventId,Columns.lockedBy,Columns.eventStatus,OutboxRow.claim,listed]⟩
  exact lookup_of_member (List.Nodup.sublist (List.filter_sublist.map _) kept) mine

theorem claimed_undated (keyed : Keyed rowId rows) (limit : Nat) (token : String) (now : Int) :
    ((fairlyOrdered (candidates rows limit now) limit).filterMap fun id =>
      (claimedBy (fairlyOrdered (candidates rows limit now) limit) token now rows).find? (·.id == id)) =
    (fairlyOrdered (candidates rows limit now) limit).filterMap fun id =>
      (claimedBy (fairlyOrdered (candidates rows limit now) limit) token now (rows.map OutboxRow.undated)).find? (·.id == id) := by
  refine List.filterMap_congr ?_
  intro id inside
  obtain ⟨row,member,rfl,open_⟩ := dealt_row keyed inside
  have keyed' : Keyed rowId (rows.map OutboxRow.undated) := by
    unfold Keyed
    rw [List.map_map]
    exact keyed
  have dated := claimedBy_found keyed member open_ inside token
  have undated := claimedBy_found keyed' (List.mem_map_of_mem member) (open_ : Prisma.claimable now row.undated = true) inside token
  exact dated.trans undated.symm

-- What a claim answers once the chosen events are hydrated.
def claimAnswered (rows next : List OutboxRow) : Except DriverError (List (OutboxEntity Json)) → Ran OutboxRow (List (OutboxEntity Json))
  | .error thrown => (rows,.error thrown)
  | .ok events => (next,.ok events)

theorem claimPending_undated (reader : Reader Json) (keyed : Keyed rowId rows) (limit : Nat) (token : String) (now : Int) :
    SameUndated (Prisma.claimPending reader · limit token now) rows := by
  have unfolded (rows : List OutboxRow) : Prisma.claimPending reader rows limit token now =
      (let ids := fairlyOrdered (candidates rows limit now) limit
      if ids = [] then (rows,.ok [])
      else claimAnswered rows (updateWhere (reachedBy ids now) (·.claim token now) rows)
        ((ids.filterMap fun id => (claimedBy ids token now rows).find? (·.id == id)).mapM (Prisma.hydrate reader))) := rfl
  have same : fairlyOrdered (candidates (rows.map OutboxRow.undated) limit now) limit = fairlyOrdered (candidates rows limit now) limit := by
    rw [candidates_undated,fairlyOrdered_undated]
  have found := claimed_undated keyed limit token now
  unfold SameUndated
  simp only [unfolded,same]
  generalize fairlyOrdered (candidates rows limit now) limit = ids at found ⊢
  by_cases idle : ids = []
  · rw [if_pos idle,if_pos idle]
    exact ⟨alike_undated rows,rfl⟩
  · rw [if_neg idle,if_neg idle,found]
    cases (ids.filterMap fun id => (claimedBy ids token now (rows.map OutboxRow.undated)).find? (·.id == id)).mapM
        (Prisma.hydrate reader) with
    | error thrown => exact ⟨alike_undated rows,rfl⟩
    | ok events => exact ⟨updateWhere_undated rows (fun _ => rfl) fun _ => rfl,rfl⟩

end Payable.Drivers
