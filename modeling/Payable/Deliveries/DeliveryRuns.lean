import Payable.Deliveries.DeliveryAttempts

namespace Payable.WebhookDelivery
open Tables Payable.Numbering

variable {Payload : Type}

section Endpoints

-- What no attempt changes of an endpoint, with its status.
def fixed (row : WebhookEndpoint) : WebhookEndpoint := {row with status := .enabled, updatedAt := 0}

def seen (row : WebhookEndpoint) : WebhookEndpoint × WebhookEndpointStatus := (fixed row,row.status)

def disabling (id_ : String) (row : WebhookEndpoint × WebhookEndpointStatus) : WebhookEndpoint × WebhookEndpointStatus :=
  (row.1,if row.1.id = id_ then .disabled else row.2)

theorem fixed_listed {rows before : List WebhookEndpoint} (same : rows.map fixed = before.map fixed) (member : row ∈ rows) :
    ∃ other ∈ before, fixed other = fixed row := by
  have listed : fixed row ∈ before.map fixed := same ▸ List.mem_map_of_mem member
  exact List.mem_map.mp listed

theorem fixed_id {row other : WebhookEndpoint} (same : fixed row = fixed other) : row.id = other.id ∧ row.tenantId = other.tenantId := by
  have id_ : (fixed row).id = (fixed other).id := congrArg _ same
  have tenant : (fixed row).tenantId = (fixed other).tenantId := congrArg _ same
  exact ⟨id_,tenant⟩

theorem fixed_keyed {rows before : List WebhookEndpoint} (same : rows.map fixed = before.map fixed) (ids : Keyed WebhookEndpoint.id before) :
    Keyed WebhookEndpoint.id rows := by
  have keys := congrArg (List.map WebhookEndpoint.id) same
  rw [List.map_map,List.map_map] at keys
  exact (congrArg List.Nodup keys).mpr ids

theorem setStatus_seen {rows before : List WebhookEndpoint} {endpoint : WebhookEndpoint} {tenantId : Option String}
    (same : rows.map fixed = before.map fixed) (ids : Keyed WebhookEndpoint.id before) (stored : endpoint ∈ before)
    (tenant : endpoint.tenantId = tenantId) (now : Int) :
    (setStatus rows endpoint.id .disabled (some tenantId) now).2 = none ∧
      (setStatus rows endpoint.id .disabled (some tenantId) now).1.map seen = (rows.map seen).map (disabling endpoint.id) := by
  have within : ∀ row ∈ rows, scopedWhere endpoint.id (some tenantId) row = decide (row.id = endpoint.id) := by
    intro row member
    rw [Bool.eq_iff_iff,decide_eq_true_eq]
    unfold scopedWhere tenantClause
    rw [Option.all_some,Bool.and_eq_true,beq_iff_eq,beq_iff_eq]
    refine ⟨And.left,fun id_ => ⟨id_,?_⟩⟩
    obtain ⟨other,there,equal⟩ := fixed_listed same member
    rw [← (fixed_id equal).2,keyed_unique ids there stored ((fixed_id equal).1.trans id_)]
    exact tenant
  obtain ⟨row,member,equal⟩ := fixed_listed same.symm stored
  have id_ : row.id = endpoint.id := (fixed_id equal).1
  unfold setStatus
  dsimp only
  constructor
  · have written : {row with status := .disabled, updatedAt := now} ∈ updateWhere (scopedWhere endpoint.id (some tenantId))
        (fun row => {row with status := .disabled, updatedAt := now}) rows :=
      mem_updateWhere_self member ((within row member).trans (decide_eq_true id_))
    have found : (findById (updateWhere (scopedWhere endpoint.id (some tenantId))
        (fun row => {row with status := .disabled, updatedAt := now}) rows) endpoint.id (some tenantId)).isSome = true := by
      unfold findById
      rw [List.find?_isSome]
      refine ⟨_,written,?_⟩
      exact (within row member).trans (decide_eq_true id_)
    rw [if_pos found]
  · unfold updateWhere
    rw [List.map_map,List.map_map]
    refine List.map_congr_left fun row member => ?_
    unfold Function.comp disabling seen fixed
    dsimp only
    rw [within row member]
    by_cases its : row.id = endpoint.id
    · rw [if_pos (decide_eq_true its),if_pos its]
    · rw [if_neg (by simpa using its),if_neg its]

end Endpoints

section Loop

variable (hostname : String → Option String) (service : WebhookDeliveryService) (event : Outbox.OutboxEvent Payload)

-- What the registration of an endpoint has checked or made.
structure Registered (endpoint : WebhookEndpoint) : Prop where
  secret : endpoint.secret ≠ ""
  url : (hostname endpoint.url).isSome = true

structure Ready (before : List WebhookEndpoint) (endpoint : WebhookEndpoint) : Prop where
  stored : endpoint ∈ before
  enabled : endpoint.status = .enabled
  tenant : endpoint.tenantId = event.tenantId
  registered : Registered hostname endpoint

def gaveUp (entry : Entry) : Prop := entry.status = .failed ∧ service.maxAttempts ≤ entry.attempts

def retries (entry : Entry) : Prop := entry.status = .failed ∧ (entry.attempts : Int) < service.maxAttempts

instance (entry : Entry) : Decidable (gaveUp service entry) := inferInstanceAs (Decidable (_ ∧ _))
instance (entry : Entry) : Decidable (retries service entry) := inferInstanceAs (Decidable (_ ∧ _))

def disables (entries : List Entry) (id_ : String) : Bool := entries.any fun entry => entry.endpointId = id_ ∧ gaveUp service entry

-- The endpoints of a list that no attempt of the history has delivered to.
def due (history : List Entry) (endpoints : List WebhookEndpoint) : List WebhookEndpoint :=
  endpoints.filter fun endpoint => ¬ ∃ entry ∈ history, entry.endpointId = endpoint.id ∧ entry.status = .delivered

-- The attempt at an endpoint after those of the history: its number is the next, its status what the request comes to.
def attemptOf (history : List Entry) (turns : String → Turn) (endpoint : WebhookEndpoint) : Entry :=
  ⟨endpoint.id,(under Entry.endpointId history endpoint.id).length + 1,
    if (post hostname endpoint (turns endpoint.id)).toOption.any DeliveryOutcome.ok then .delivered else .failed⟩

-- The attempts of a call so far.
structure Noted (before : List WebhookEndpoint) (history : List Entry) (rows : List (WebhookDelivery Payload)) (posted : List String)
    (entries : List Entry) : Prop where
  kept : Kept event (history ++ entries) rows
  regular : RegularEntries (history ++ entries)
  sent : posted = entries.map Entry.endpointId
  once : posted.Nodup
  undelivered : ∀ id_ ∈ posted, ∀ last, latestEntry history id_ = some last → last.status ≠ .delivered
  enabled : ∀ id_ ∈ posted, ∃ row ∈ before, row.id = id_ ∧ row.status = .enabled

structure Looped (before : List WebhookEndpoint) (joined : List EndpointEvent) (history : List Entry) (progress : Progress Payload) : Prop where
  noted : Noted event before history progress.storage.webhookDeliveries progress.posted progress.entries
  endpoints : progress.storage.webhookEndpoints.map seen =
    before.map fun row => (fixed row,if disables service progress.entries row.id then .disabled else row.status)
  incomplete : progress.incomplete = progress.entries.any (retries service ·)
  joined : progress.storage.endpointEvents = joined

end Loop

section Attempts

variable {hostname : String → Option String} {service : WebhookDeliveryService} {event : Outbox.OutboxEvent Payload}
  {before : List WebhookEndpoint} {joined : List EndpointEvent} {history : List Entry} {progress : Progress Payload} {endpoint : WebhookEndpoint} {turn : Turn}

theorem post_ready (registered : Registered hostname endpoint) (turn : Turn) : ∃ outcome, post hostname endpoint turn = .ok outcome := by
  obtain ⟨host,found⟩ := Option.isSome_iff_exists.mp registered.url
  unfold post
  rw [if_neg registered.secret,found]
  dsimp only
  cases Net.resolveTarget host turn.resolved with
  | none => exact ⟨_,rfl⟩
  | some addresses => exact ⟨_,rfl⟩

theorem noted_record {rows : List (WebhookDelivery Payload)} {posted : List String} {entries : List Entry}
    (noted : Noted event before history rows posted entries) {data : NewWebhookDelivery Payload} (tenant : data.tenantId = event.tenantId)
    (same : data.eventId = event.id) (unposted : data.endpointId ∉ posted) (fresh : ∀ row ∈ rows, row.id ≠ uuid)
    (next : data.attempts = (latestEntry history data.endpointId).elim 0 Entry.attempts + 1)
    (undelivered : ∀ last, latestEntry history data.endpointId = some last → last.status ≠ .delivered)
    (enabled : ∃ row ∈ before, row.id = data.endpointId ∧ row.status = .enabled) (timestamp : Int) :
    Noted event before history (record rows data uuid timestamp).1 (posted ++ [data.endpointId]) (entries ++ [entryOf data]) := by
  have others : ∀ entry ∈ entries, entry.endpointId ≠ data.endpointId := by
    intro entry member equal
    refine unposted ?_
    rw [noted.sent,← equal]
    exact List.mem_map_of_mem member
  have last : latestEntry (history ++ entries) data.endpointId = latestEntry history data.endpointId := latest_others others
  obtain ⟨_,kept,_⟩ := kept_record noted.kept tenant same fresh timestamp
  refine ⟨?_,?_,?_,?_,?_,?_⟩
  · rw [← List.append_assoc]
    exact kept
  · rw [← List.append_assoc]
    refine regular_append noted.regular ?_ ?_
    · exact next.trans (congrArg (fun last : Option Entry => last.elim 0 Entry.attempts + 1) last.symm)
    · intro other its
      exact undelivered other (last.symm.trans its)
  · rw [noted.sent,List.map_append]
    rfl
  · refine List.nodup_append.mpr ⟨noted.once,List.nodup_singleton _,?_⟩
    intro id_ member other new equal
    rw [List.mem_singleton.mp new] at equal
    exact unposted (equal ▸ member)
  · intro id_ member
    rcases List.mem_append.mp member with old | new
    · exact noted.undelivered id_ old
    · rw [List.mem_singleton.mp new]
      exact undelivered
  · intro id_ member
    rcases List.mem_append.mp member with old | new
    · exact noted.enabled id_ old
    · rw [List.mem_singleton.mp new]
      exact enabled

theorem disables_append (entries : List Entry) (entry : Entry) (id_ : String) :
    disables service (entries ++ [entry]) id_ = (disables service entries id_ || decide (entry.endpointId = id_ ∧ gaveUp service entry)) := by
  unfold disables
  rw [List.any_append,List.any_cons,List.any_nil,Bool.or_false]

theorem endpoints_kept {rows : List WebhookEndpoint} {entries : List Entry} {entry : Entry} (more : ¬ gaveUp service entry)
    (same : rows.map seen = before.map fun row => (fixed row,if disables service entries row.id then .disabled else row.status)) :
    rows.map seen = before.map fun row => (fixed row,if disables service (entries ++ [entry]) row.id then .disabled else row.status) := by
  rw [same]
  refine List.map_congr_left fun row _ => ?_
  rw [disables_append,decide_eq_false (fun its => more its.2),Bool.or_false]

theorem endpoints_disabled {rows : List WebhookEndpoint} {entries : List Entry} {entry : Entry} (last : gaveUp service entry)
    (same : rows.map seen = before.map fun row => (fixed row,if disables service entries row.id then .disabled else row.status)) :
    (rows.map seen).map (disabling entry.endpointId) =
      before.map fun row => (fixed row,if disables service (entries ++ [entry]) row.id then .disabled else row.status) := by
  rw [same,List.map_map]
  refine List.map_congr_left fun row _ => ?_
  rw [disables_append]
  unfold Function.comp disabling
  by_cases its : (fixed row).id = entry.endpointId
  · rw [if_pos its,decide_eq_true ⟨Eq.symm its,last⟩,Bool.or_true,if_pos rfl]
  · rw [if_neg its,decide_eq_false (fun both => its (Eq.symm both.1)),Bool.or_false]

theorem endpoints_fixed {rows : List WebhookEndpoint} {status : WebhookEndpoint → WebhookEndpointStatus}
    (same : rows.map seen = before.map fun row => (fixed row,status row)) : rows.map fixed = before.map fixed := by
  have both := congrArg (List.map Prod.fst) same
  rw [List.map_map,List.map_map] at both
  exact both

theorem delivered_due {rows : List (WebhookDelivery Payload)} (kept : Kept event history rows) (regular : RegularEntries history)
    (endpoint : WebhookEndpoint) : due history [endpoint] = if delivered (priorOf event rows) endpoint.id then [] else [endpoint] := by
  have known : delivered (priorOf event rows) endpoint.id = true ↔ ∃ entry ∈ history, entry.endpointId = endpoint.id ∧ entry.status = .delivered := by
    rw [delivered_latest kept endpoint.id]
    constructor
    · rintro ⟨entry,last,its⟩
      obtain ⟨member,under_⟩ := List.mem_filter.mp (List.mem_of_getLast? last)
      exact ⟨entry,member,of_decide_eq_true under_,its⟩
    · rintro ⟨entry,member,same,its⟩
      exact ⟨entry,same ▸ latest_final regular.closed member its,its⟩
  unfold due
  by_cases done : delivered (priorOf event rows) endpoint.id = true
  · rw [if_pos done,List.filter_cons_of_neg (by simpa using known.mp done),List.filter_nil]
  · rw [if_neg done,List.filter_cons_of_pos (by simpa using mt known.mpr done),List.filter_nil]

theorem attempt_of {rows : List (WebhookDelivery Payload)} (kept : Kept event history rows) (regular : RegularEntries history) (turns : String → Turn)
    (posted : post hostname endpoint (turns endpoint.id) = .ok outcome) :
    attemptOf hostname history turns endpoint =
      ⟨endpoint.id,previousAttempts (priorOf event rows) endpoint.id + 1,if outcome.ok = true then .delivered else .failed⟩ := by
  unfold attemptOf
  rw [posted,previous_latest kept endpoint.id,latest_number regular]
  rfl

theorem looped_attempt (looped : Looped service event before joined history progress) (ids : Keyed WebhookEndpoint.id before)
    (ready : Ready hostname event before endpoint) {rows : List (WebhookDelivery Payload)} (kept : Kept event history rows) (regular : RegularEntries history)
    (turns : String → Turn) (its : turns endpoint.id = turn)
    (unposted : endpoint.id ∉ progress.posted) (fresh : ∀ row ∈ progress.storage.webhookDeliveries, row.id ≠ turn.uuid) :
    ∃ next, attempt hostname service event (priorOf event rows) progress endpoint turn = (next,none) ∧ Looped service event before joined history next ∧
      next.entries = progress.entries ++ (due history [endpoint]).map (attemptOf hostname history turns) ∧
      (∀ id_ ∈ next.posted, id_ ∈ progress.posted ∨ id_ = endpoint.id) ∧
      ∀ row ∈ next.storage.webhookDeliveries, row.id ∈ progress.storage.webhookDeliveries.map WebhookDelivery.id ∨ row.id = turn.uuid := by
  have whether := @delivered_due _ event _ _ kept regular endpoint
  unfold attempt
  split
  · rename_i done
    rw [whether,if_pos done]
    exact ⟨progress,rfl,looped,(List.append_nil _).symm,fun _ member => .inl member,fun row member => .inl (List.mem_map_of_mem member)⟩
  · rename_i open_
    obtain ⟨outcome,posted⟩ := post_ready ready.registered turn
    have noticed := attempt_of kept regular turns (its ▸ posted)
    rw [posted,whether,if_neg open_,List.map_singleton,noticed]
    dsimp only
    generalize given : NewWebhookDelivery.mk event.tenantId endpoint.id event.id (withoutVersion event.eventType) event.payload
      (if outcome.ok = true then WebhookDeliveryStatus.delivered else .failed) (previousAttempts (priorOf event rows) endpoint.id + 1)
      outcome.responseCode outcome.responseBody = data
    have tenant : data.tenantId = event.tenantId := by rw [← given]
    have event_ : data.eventId = event.id := by rw [← given]
    have id_ : data.endpointId = endpoint.id := by rw [← given]
    have entry : (⟨endpoint.id,previousAttempts (priorOf event rows) endpoint.id + 1,if outcome.ok = true then .delivered else .failed⟩ : Entry) =
        entryOf data := by
      rw [← given]
      rfl
    have undelivered : ∀ last, latestEntry history data.endpointId = some last → last.status ≠ .delivered := by
      intro last its status
      exact open_ ((delivered_latest kept endpoint.id).mpr ⟨last,id_ ▸ its,status⟩)
    have next : data.attempts = (latestEntry history data.endpointId).elim 0 Entry.attempts + 1 := by
      rw [id_,← previous_latest kept endpoint.id,← given]
    have noted := noted_record looped.noted tenant event_ (id_.symm ▸ unposted) fresh next undelivered
      ⟨endpoint,ready.stored,id_.symm,ready.enabled⟩ turn.recordedAt
    obtain ⟨fine,_,known⟩ := kept_record looped.noted.kept tenant event_ fresh turn.recordedAt
    rw [id_] at noted
    rw [entry]
    generalize record progress.storage.webhookDeliveries data turn.uuid turn.recordedAt = written at fine noted known
    obtain ⟨rows',failure⟩ := written
    dsimp only at fine noted known
    subst fine
    dsimp only
    have attempts : data.attempts = previousAttempts (priorOf event rows) endpoint.id + 1 := by rw [← given]
    have sent : ∀ other ∈ progress.posted ++ [endpoint.id], other ∈ progress.posted ∨ other = endpoint.id := by
      intro other member
      exact (List.mem_append.mp member).imp_right List.mem_singleton.mp
    have incomplete (more : ¬ retries service (entryOf data)) : progress.incomplete = (progress.entries ++ [entryOf data]).any (retries service ·) := by
      rw [looped.incomplete,List.any_append,List.any_cons,List.any_nil,decide_eq_false more,Bool.or_false,Bool.or_false]
    by_cases ok : outcome.ok = true
    · have status : (entryOf data).status = .delivered := by
        rw [← given]
        exact if_pos ok
      have more : ¬ gaveUp service (entryOf data) := fun its => by rw [gaveUp,status] at its; cases its.1
      have more' : ¬ retries service (entryOf data) := fun its => by rw [retries,status] at its; cases its.1
      rw [if_pos ok]
      exact ⟨_,rfl,⟨noted,endpoints_kept more looped.endpoints,incomplete more',looped.joined⟩,rfl,sent,known⟩
    · have status : (entryOf data).status = .failed := by
        rw [← given]
        exact if_neg ok
      rw [if_neg ok]
      by_cases spent : service.maxAttempts ≤ ((previousAttempts (priorOf event rows) endpoint.id + 1 : Nat) : Int)
      · have last : gaveUp service (entryOf data) := ⟨status,by rw [entryOf,attempts]; exact spent⟩
        have more' : ¬ retries service (entryOf data) := fun its => absurd last.2 (Int.not_le.mpr its.2)
        obtain ⟨set_,disabled⟩ := setStatus_seen (endpoints_fixed looped.endpoints) ids ready.stored ready.tenant turn.disabledAt
        rw [if_pos spent,set_]
        refine ⟨_,rfl,⟨noted,?_,incomplete more',looped.joined⟩,rfl,sent,known⟩
        have its := endpoints_disabled last looped.endpoints
        rw [show (entryOf data).endpointId = endpoint.id from id_] at its
        exact disabled.trans its
      · have more : ¬ gaveUp service (entryOf data) := fun its => spent (by rw [← attempts]; exact its.2)
        have again : retries service (entryOf data) := ⟨status,by rw [entryOf,attempts]; exact Int.not_le.mp spent⟩
        rw [if_neg spent]
        refine ⟨_,rfl,⟨noted,endpoints_kept more looped.endpoints,?_,looped.joined⟩,rfl,sent,known⟩
        rw [List.any_append,List.any_cons,decide_eq_true again,Bool.true_or,Bool.or_true]

theorem looped_all (turns : String → Turn) (apart : Function.Injective fun id_ => (turns id_).uuid) (ids : Keyed WebhookEndpoint.id before)
    {rows : List (WebhookDelivery Payload)} (kept : Kept event history rows) (regular : RegularEntries history) (endpoints : List WebhookEndpoint)
    (looped : Looped service event before joined history progress) (ready : ∀ endpoint ∈ endpoints, Ready hostname event before endpoint)
    (once : Keyed WebhookEndpoint.id endpoints) (unposted : ∀ endpoint ∈ endpoints, endpoint.id ∉ progress.posted)
    (fresh : ∀ endpoint ∈ endpoints, ∀ row ∈ progress.storage.webhookDeliveries, row.id ≠ (turns endpoint.id).uuid) :
    ∃ last, attemptAll hostname service event (priorOf event rows) turns endpoints progress = (last,none) ∧
      Looped service event before joined history last ∧
      last.entries = progress.entries ++ (due history endpoints).map (attemptOf hostname history turns) := by
  induction endpoints generalizing progress with
  | nil => exact ⟨progress,rfl,looped,(List.append_nil _).symm⟩
  | cons endpoint rest ih =>
      obtain ⟨others,once'⟩ := List.nodup_cons.mp once
      have apart_ : ∀ other ∈ rest, other.id ≠ endpoint.id := by
        intro other member same
        exact others (same ▸ List.mem_map_of_mem member)
      obtain ⟨next,moved,looped',entries,posted,known⟩ := looped_attempt looped ids (ready endpoint List.mem_cons_self) kept regular turns rfl
        (unposted endpoint List.mem_cons_self) (fresh endpoint List.mem_cons_self)
      have split_ : due history (endpoint :: rest) = due history [endpoint] ++ due history rest := List.filter_append [endpoint] rest
      unfold attemptAll
      rw [moved,split_,List.map_append,← List.append_assoc,← entries]
      refine ih looped' (fun other member => ready other (List.mem_cons_of_mem _ member)) once' ?_ ?_
      · intro other member again
        rcases posted other.id again with old | new
        · exact unposted other (List.mem_cons_of_mem _ member) old
        · exact apart_ other member new
      · intro other member row stored same
        rcases known row stored with old | new
        · obtain ⟨before_,there,equal⟩ := List.mem_map.mp old
          exact fresh other (List.mem_cons_of_mem _ member) before_ there (equal.trans same)
        · exact apart_ other member (apart (same.symm.trans new))

end Attempts

section Calls

variable {hostname : String → Option String} {service : WebhookDeliveryService} {event : Outbox.OutboxEvent Payload} {history : List Entry}
  {storage : Storage Payload} {turns : String → Turn}

-- What holds of the endpoints whoever writes them.
structure Consistent (hostname : String → Option String) (endpoints : List WebhookEndpoint) (events : List EndpointEvent) : Prop where
  ids : Keyed WebhookEndpoint.id endpoints
  keys : events.Nodup
  registered : ∀ row ∈ endpoints, Registered hostname row

-- randomUUID gives ids that are new.
structure Fresh (turns : String → Turn) (rows : List (WebhookDelivery Payload)) : Prop where
  apart : Function.Injective fun id_ => (turns id_).uuid
  unused : ∀ row ∈ rows, ∀ id_, row.id ≠ (turns id_).uuid

theorem joined_sublist (events : List EndpointEvent) (keys : events.Nodup) (eventType : String) (endpoints : List WebhookEndpoint) :
    (endpoints.flatMap fun ep => (events.filter fun ev => ev.endpointId == ep.id && ev.eventType == eventType).map fun _ => ep).Sublist endpoints := by
  induction endpoints with
  | nil => exact .slnil
  | cons endpoint rest ih =>
      have alone : (events.filter fun ev => ev.endpointId == endpoint.id && ev.eventType == eventType).length ≤ 1 := by
        refine pairwise_alone events keys ?_
        intro a b first second apart
        rw [Bool.and_eq_true,beq_iff_eq,beq_iff_eq] at first second
        refine apart ?_
        cases a
        cases b
        exact congrArg₂ EndpointEvent.mk (first.1.trans second.1.symm) (first.2.trans second.2.symm)
      have one : ((events.filter fun ev => ev.endpointId == endpoint.id && ev.eventType == eventType).map fun _ => endpoint).Sublist [endpoint] := by
        rw [List.map_const']
        exact List.replicate_sublist_replicate endpoint |>.mpr alone
      rw [List.flatMap_cons]
      exact one.append ih

theorem listed_ready (consistent : Consistent hostname storage.webhookEndpoints storage.endpointEvents) (eventType : String) :
    (∀ endpoint ∈ listEnabledForEvent storage.webhookEndpoints storage.endpointEvents eventType (some event.tenantId),
      Ready hostname event storage.webhookEndpoints endpoint) ∧
      Keyed WebhookEndpoint.id (listEnabledForEvent storage.webhookEndpoints storage.endpointEvents eventType (some event.tenantId)) := by
  have part := joined_sublist storage.endpointEvents consistent.keys eventType storage.webhookEndpoints
  unfold listEnabledForEvent
  dsimp only
  constructor
  · intro endpoint member
    obtain ⟨inside,its⟩ := List.mem_filter.mp ((List.perm_insertionSort _ _).mem_iff.mp member)
    rw [Bool.and_eq_true,beq_iff_eq] at its
    have stored := part.subset inside
    exact ⟨stored,its.1,beq_iff_eq.mp its.2,consistent.registered endpoint stored⟩
  · refine ((List.perm_insertionSort _ _).map WebhookEndpoint.id).nodup_iff.mpr ?_
    exact consistent.ids.sublist ((List.filter_sublist.trans part).map WebhookEndpoint.id)

theorem looped_start (kept : Kept event history storage.webhookDeliveries) (regular : RegularEntries history) :
    Looped service event storage.webhookEndpoints storage.endpointEvents history ⟨storage,[],[],false⟩ := by
  refine ⟨⟨?_,?_,rfl,List.nodup_nil,?_,?_⟩,rfl,rfl,rfl⟩
  · rw [List.append_nil]
    exact kept
  · rw [List.append_nil]
    exact regular
  · exact fun _ member => absurd member List.not_mem_nil
  · exact fun _ member => absurd member List.not_mem_nil

theorem handle_looped (consistent : Consistent hostname storage.webhookEndpoints storage.endpointEvents)
    (kept : Kept event history storage.webhookDeliveries) (regular : RegularEntries history) (fresh : Fresh turns storage.webhookDeliveries) :
    ∃ last, Looped service event storage.webhookEndpoints storage.endpointEvents history last ∧
      last.entries = (due history (listEnabledForEvent storage.webhookEndpoints storage.endpointEvents (withoutVersion event.eventType)
        (some event.tenantId))).map (attemptOf hostname history turns) ∧
      handle hostname service event turns storage =
        ⟨turns,storage,last.storage,last.posted,last.entries,if last.incomplete then some (incompleteDelivery event) else none⟩ := by
  obtain ⟨ready,once⟩ := @listed_ready _ hostname event storage consistent (withoutVersion event.eventType)
  have start := @looped_start _ service event history storage kept regular
  unfold handle
  dsimp only
  split
  · rename_i empty
    rw [List.isEmpty_iff.mp empty]
    exact ⟨_,start,rfl,rfl⟩
  · obtain ⟨last,ran,looped,entries⟩ := looped_all turns fresh.apart consistent.ids kept regular _ start ready once
      (fun _ _ => List.not_mem_nil) (fun endpoint _ row member => fresh.unused row member endpoint.id)
    rw [ran]
    exact ⟨last,looped,entries,rfl⟩

end Calls

end Payable.WebhookDelivery
