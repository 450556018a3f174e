import Payable.Deliveries.WebhookDelivery
import Payable.Foundation.Numbering

namespace Payable.WebhookDelivery
open Tables Payable.Numbering

abbrev latestEntry (history : List Entry) (endpointId : String) : Option Entry := latest Entry.endpointId history endpointId

abbrev RegularEntries (history : List Entry) : Prop := Regular Entry.endpointId Entry.attempts (·.status = .delivered) history

section Records

variable {Payload : Type} {event : Outbox.OutboxEvent Payload} {rows : List (WebhookDelivery Payload)} {history : List Entry}

-- The row of an endpoint for the event.
def belongs (event : Outbox.OutboxEvent Payload) (endpointId : String) (row : WebhookDelivery Payload) : Bool :=
  row.endpointId == endpointId && row.eventId == some event.id && row.tenantId == event.tenantId

theorem belongs_iff {row : WebhookDelivery Payload} :
    belongs event endpointId row = true ↔ row.endpointId = endpointId ∧ row.eventId = some event.id ∧ row.tenantId = event.tenantId := by
  unfold belongs
  rw [Bool.and_eq_true,Bool.and_eq_true,beq_iff_eq,beq_iff_eq,beq_iff_eq,and_assoc]

-- What the rows of the event hold: for each endpoint its last attempt.
structure Kept (event : Outbox.OutboxEvent Payload) (history : List Entry) (rows : List (WebhookDelivery Payload)) : Prop where
  ids : Keyed WebhookDelivery.id rows
  tenants : ∀ row ∈ rows, row.eventId = some event.id → row.tenantId = event.tenantId
  standing : ∀ endpointId, (rows.filter (belongs event endpointId)).map (fun row => (⟨endpointId,row.attempts,row.status⟩ : Entry)) =
    (latestEntry history endpointId).toList

theorem kept_alone (kept : Kept event history rows) {row : WebhookDelivery Payload} (member : row ∈ rows) (its : belongs event endpointId row = true) :
    rows.filter (belongs event endpointId) = [row] ∧ latestEntry history endpointId = some ⟨endpointId,row.attempts,row.status⟩ := by
  have standing := kept.standing endpointId
  have inside : row ∈ rows.filter (belongs event endpointId) := List.mem_filter.mpr ⟨member,its⟩
  cases found : rows.filter (belongs event endpointId) with
  | nil =>
      rw [found] at inside
      cases inside
  | cons first rest =>
      rw [found,List.map_cons] at standing
      cases last : latestEntry history endpointId with
      | none =>
          rw [last] at standing
          cases standing
      | some entry =>
          rw [last] at standing
          obtain ⟨head,tail⟩ := List.cons.inj standing
          rw [List.map_eq_nil_iff] at tail
          rw [found,tail,List.mem_singleton] at inside
          rw [tail,inside,← head]
          exact ⟨rfl,rfl⟩

variable {data : NewWebhookDelivery Payload}

def entryOf (data : NewWebhookDelivery Payload) : Entry := ⟨data.endpointId,data.attempts,data.status⟩

theorem kept_update (kept : Kept event history rows) (tenant : data.tenantId = event.tenantId) (same : data.eventId = event.id)
    {existing : WebhookDelivery Payload} (member : existing ∈ rows) (its : recorded data existing = true) (timestamp : Int) :
    (applyUpdate rows existing.id data timestamp).2 = none ∧
      Kept event (history ++ [entryOf data]) (applyUpdate rows existing.id data timestamp).1 ∧
      (applyUpdate rows existing.id data timestamp).1.map WebhookDelivery.id = rows.map WebhookDelivery.id := by
  have held : belongs event data.endpointId existing = true := by
    unfold recorded at its
    rw [tenant,same] at its
    exact its
  obtain ⟨alone,_⟩ := kept_alone kept member held
  unfold applyUpdate
  dsimp only
  generalize patched : (fun row : WebhookDelivery Payload => {row with
    status := data.status, attempts := data.attempts, responseCode := data.responseCode, responseBody := data.responseBody
    payload := data.payload, updatedAt := timestamp}) = patch
  have ids : ∀ row, (patch row).id = row.id := by
    intro row
    rw [← patched]
  have where_ : ∀ endpointId row, belongs event endpointId (patch row) = belongs event endpointId row := by
    intro endpointId row
    rw [← patched]
    rfl
  have event_ : ∀ row, (patch row).eventId = row.eventId ∧ (patch row).tenantId = row.tenantId := by
    intro row
    rw [← patched]
    exact ⟨rfl,rfl⟩
  have keys : (updateWhere (·.id == existing.id) patch rows).map (·.id) = rows.map (·.id) := updateWhere_keys rows ids
  refine ⟨?_,⟨?_,?_,?_⟩,keys⟩
  · unfold findByIdOrFail
    have there : patch existing ∈ updateWhere (·.id == existing.id) patch rows := mem_updateWhere_self member (beq_self_eq_true _)
    rw [if_pos]
    rw [List.any_eq_true]
    exact ⟨patch existing,there,beq_iff_eq.mpr (ids existing)⟩
  · unfold Keyed
    rw [keys]
    exact kept.ids
  · intro row inside id_
    obtain ⟨old,before,rfl⟩ := mem_updateWhere.mp inside
    split at id_
    · rename_i selected
      rw [if_pos selected,(event_ old).2]
      exact kept.tenants old before ((event_ old).1 ▸ id_)
    · rename_i other
      rw [if_neg other]
      exact kept.tenants old before id_
  · intro endpointId
    have changes : ∀ row, belongs event endpointId (if (row.id == existing.id) = true then patch row else row) = belongs event endpointId row := by
      intro row
      split
      · exact where_ endpointId row
      · rfl
    have still : (updateWhere (·.id == existing.id) patch rows).filter (belongs event endpointId) =
        (rows.filter (belongs event endpointId)).map fun row => if (row.id == existing.id) = true then patch row else row := by
      unfold updateWhere
      rw [List.filter_map]
      exact congrArg _ (List.filter_congr fun row _ => changes row)
    rw [still,List.map_map,latestEntry,latest_append]
    by_cases mine : (entryOf data).endpointId = endpointId
    · have endpoint : data.endpointId = endpointId := mine
      subst endpoint
      rw [alone,if_pos mine,List.map_singleton,Function.comp,if_pos (beq_self_eq_true _),← patched]
      rfl
    · rw [if_neg mine,← kept.standing endpointId]
      refine List.map_congr_left fun row inside => ?_
      obtain ⟨there,belongs_⟩ := List.mem_filter.mp inside
      rw [Function.comp,if_neg]
      intro id_
      have equal := keyed_unique kept.ids there member (beq_iff_eq.mp id_)
      rw [equal] at belongs_
      exact mine ((belongs_iff.mp held).1.symm.trans (belongs_iff.mp belongs_).1)

theorem kept_insert (kept : Kept event history rows) (absent : ∀ row ∈ rows, belongs event new.endpointId row = false)
    (new_ : belongs event new.endpointId new = true) (fresh : ∀ row ∈ rows, row.id ≠ new.id) :
    insert rows new = some (rows ++ [new]) ∧ Kept event (history ++ [⟨new.endpointId,new.attempts,new.status⟩]) (rows ++ [new]) := by
  obtain ⟨_,event_,tenant⟩ := belongs_iff.mp new_
  have apart : rows.any (collides new) = false := by
    rw [List.any_eq_false]
    intro row member collide
    unfold collides at collide
    rw [Bool.or_eq_true,Bool.and_eq_true,Bool.and_eq_true,Bool.and_eq_true,beq_iff_eq,beq_iff_eq,beq_iff_eq,beq_iff_eq] at collide
    rcases collide with id_ | ⟨⟨⟨_,endpoint⟩,_⟩,same⟩
    · exact fresh row member id_.symm
    · have its : row.eventId = some event.id := same.symm.trans event_
      have held := belongs_iff.mpr ⟨endpoint.symm,its,kept.tenants row member its⟩
      rw [absent row member] at held
      cases held
  refine ⟨?_,?_,?_,?_⟩
  · unfold insert
    rw [apart]
    rfl
  · exact keyed_append kept.ids fresh
  · intro row member its
    rcases List.mem_append.mp member with old | last
    · exact kept.tenants row old its
    · rw [List.mem_singleton.mp last]
      exact tenant
  · intro endpointId
    rw [latestEntry,latest_append,List.filter_append,List.map_append,kept.standing endpointId]
    by_cases mine : new.endpointId = endpointId
    · subst mine
      have nothing : rows.filter (belongs event new.endpointId) = [] :=
        List.filter_eq_nil_iff.mpr fun row member => by rw [absent row member]; exact Bool.false_ne_true
      have none_ := kept.standing new.endpointId
      rw [nothing] at none_
      rw [← none_,if_pos rfl,List.filter_cons_of_pos new_]
      rfl
    · have other : belongs event endpointId new = false := by
        rw [Bool.eq_false_iff]
        intro its
        exact mine (belongs_iff.mp its).1
      rw [if_neg mine,List.filter_cons_of_neg (by rw [other]; exact Bool.false_ne_true)]
      exact List.append_nil _

-- The row is written over or added, and either way it holds the attempt.
theorem kept_record (kept : Kept event history rows) (tenant : data.tenantId = event.tenantId) (same : data.eventId = event.id)
    (fresh : ∀ row ∈ rows, row.id ≠ uuid) (timestamp : Int) :
    (record rows data uuid timestamp).2 = none ∧ Kept event (history ++ [entryOf data]) (record rows data uuid timestamp).1 ∧
      ∀ row ∈ (record rows data uuid timestamp).1, row.id ∈ rows.map WebhookDelivery.id ∨ row.id = uuid := by
  unfold record
  cases found : rows.find? (recorded data) with
  | some existing =>
      obtain ⟨fine,still,ids⟩ := kept_update kept tenant same (List.mem_of_find?_eq_some found) (List.find?_some found) timestamp
      refine ⟨fine,still,fun row member => .inl ?_⟩
      rw [← ids]
      exact List.mem_map_of_mem member
  | none =>
      have absent : ∀ row ∈ rows, belongs event data.endpointId row = false := by
        intro row member
        have missed := List.find?_eq_none.mp found row member
        unfold recorded at missed
        rw [tenant,same] at missed
        exact Bool.eq_false_iff.mpr missed
      dsimp only
      generalize inserted : WebhookDelivery.mk uuid data.tenantId data.endpointId (some data.eventId) data.eventType data.payload data.status
        data.attempts data.responseCode data.responseBody timestamp timestamp = new
      have endpoint : new.endpointId = data.endpointId := by rw [← inserted]
      have id_ : new.id = uuid := by rw [← inserted]
      have its : belongs event new.endpointId new = true := by
        rw [← inserted,same,tenant]
        exact belongs_iff.mpr ⟨rfl,rfl,rfl⟩
      have entry : entryOf data = ⟨new.endpointId,new.attempts,new.status⟩ := by
        rw [← inserted]
        rfl
      obtain ⟨written,still⟩ := kept_insert kept (endpoint ▸ absent) its (id_ ▸ fresh)
      rw [written,entry]
      dsimp only
      refine ⟨?_,still,?_⟩
      · unfold findByIdOrFail
        rw [if_pos]
        rw [List.any_append,Bool.or_eq_true]
        exact .inr (by simp [id_])
      · intro row member
        rcases List.mem_append.mp member with old | last
        · exact .inl (List.mem_map_of_mem old)
        · rw [List.mem_singleton.mp last]
          exact .inr id_

end Records

section Prior

variable {Payload : Type} {event : Outbox.OutboxEvent Payload} {rows : List (WebhookDelivery Payload)} {history : List Entry}

abbrev priorOf (event : Outbox.OutboxEvent Payload) (rows : List (WebhookDelivery Payload)) : List (WebhookDelivery Payload) :=
  listForEvent rows event.id (some event.tenantId)

theorem prior_rows (kept : Kept event history rows) (endpointId : String) :
    (priorOf event rows).filter (·.endpointId == endpointId) = rows.filter (belongs event endpointId) := by
  have same : ((priorOf event rows).filter (·.endpointId == endpointId)).Perm (rows.filter (belongs event endpointId)) := by
    refine ((List.perm_insertionSort _ _).filter _).trans (List.Perm.of_eq ?_)
    rw [List.filter_filter]
    refine List.filter_congr fun row _ => ?_
    unfold belongs
    rw [Bool.and_assoc]
    rfl
  cases held : rows.filter (belongs event endpointId) with
  | nil =>
      rw [held] at same
      exact List.perm_nil.mp same
  | cons row rest =>
      have inside : row ∈ rows.filter (belongs event endpointId) := held ▸ List.mem_cons_self
      obtain ⟨member,its⟩ := List.mem_filter.mp inside
      have alone := (kept_alone kept member its).1
      rw [alone] at same held
      rw [List.perm_singleton.mp same,held]

theorem previous_latest (kept : Kept event history rows) (endpointId : String) :
    previousAttempts (priorOf event rows) endpointId = (latestEntry history endpointId).elim 0 Entry.attempts := by
  have standing := kept.standing endpointId
  unfold previousAttempts
  rw [prior_rows kept endpointId]
  cases held : rows.filter (belongs event endpointId) with
  | nil =>
      rw [held] at standing
      rw [Option.toList_eq_nil_iff.mp standing.symm]
      rfl
  | cons row rest =>
      have inside : row ∈ rows.filter (belongs event endpointId) := held ▸ List.mem_cons_self
      obtain ⟨member,its⟩ := List.mem_filter.mp inside
      obtain ⟨alone,last⟩ := kept_alone kept member its
      rw [last,← held,alone]
      exact Nat.zero_max _

theorem delivered_latest (kept : Kept event history rows) (endpointId : String) :
    delivered (priorOf event rows) endpointId = true ↔ ∃ entry, latestEntry history endpointId = some entry ∧ entry.status = .delivered := by
  have found : delivered (priorOf event rows) endpointId = true ↔ ∃ row ∈ rows.filter (belongs event endpointId), row.status = .delivered := by
    rw [← prior_rows kept endpointId]
    unfold delivered
    rw [List.contains_iff_mem]
    simp only [List.mem_map,List.mem_filter,beq_iff_eq]
    constructor
    · rintro ⟨row,⟨member,its⟩,same⟩
      exact ⟨row,⟨member,same⟩,its⟩
    · rintro ⟨row,⟨member,same⟩,its⟩
      exact ⟨row,⟨member,its⟩,same⟩
  rw [found]
  constructor
  · rintro ⟨row,inside,its⟩
    obtain ⟨member,held⟩ := List.mem_filter.mp inside
    exact ⟨_,(kept_alone kept member held).2,its⟩
  · rintro ⟨entry,last,its⟩
    have standing := kept.standing endpointId
    have listed : entry ∈ (latestEntry history endpointId).toList := Option.mem_toList.mpr last
    rw [← standing] at listed
    obtain ⟨row,inside,same⟩ := List.mem_map.mp listed
    exact ⟨row,inside,by rw [← same] at its; exact its⟩

end Prior

end Payable.WebhookDelivery
