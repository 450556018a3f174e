import Payable.Deliveries.DeliveryRuns

namespace Payable.WebhookDelivery
open Tables Payable.Numbering

variable {Payload : Type}

section Runs

variable (hostname : String → Option String) (service : WebhookDeliveryService) (event : Outbox.OutboxEvent Payload)

-- What others do between two calls: endpoints come, go and change, and so do the deliveries of other events.
structure Untouched (storage storage' : Storage Payload) : Prop where
  consistent : Consistent hostname storage'.webhookEndpoints storage'.endpointEvents
  ids : Keyed WebhookDelivery.id storage'.webhookDeliveries
  rows : storage'.webhookDeliveries.filter (·.eventId = some event.id) = storage.webhookDeliveries.filter (·.eventId = some event.id)

-- The calls for the event, one after the other, from a storage that holds no delivery of it.
inductive Run : Storage Payload → List (Call Payload) → Storage Payload → Prop where
  | start {storage : Storage Payload} (consistent : Consistent hostname storage.webhookEndpoints storage.endpointEvents)
      (ids : Keyed WebhookDelivery.id storage.webhookDeliveries) (none_ : ∀ row ∈ storage.webhookDeliveries, row.eventId ≠ some event.id) :
      Run storage [] storage
  | others {first storage storage' : Storage Payload} {calls : List (Call Payload)} (run : Run first calls storage)
      (untouched : Untouched hostname event storage storage') : Run first calls storage'
  | handled {first storage : Storage Payload} {calls : List (Call Payload)} (run : Run first calls storage) (turns : String → Turn)
      (fresh : Fresh turns storage.webhookDeliveries) :
      Run first (calls ++ [handle hostname service event turns storage]) (handle hostname service event turns storage).after

end Runs

def attemptsOf (calls : List (Call Payload)) : List Entry := calls.flatMap Call.entries

section Exact

variable (hostname : String → Option String) (service : WebhookDeliveryService) (event : Outbox.OutboxEvent Payload)

-- What one call does, after those with the attempts of a history. It makes one attempt at each enabled endpoint that is
-- still due, in their order, and its row of the endpoint is that attempt.
structure CallExact (history : List Entry) (call : Call Payload) : Prop where
  attempted : call.entries = (due history (listEnabledForEvent call.before.webhookEndpoints call.before.endpointEvents (withoutVersion event.eventType)
    (some event.tenantId))).map (attemptOf hostname history call.turns)
  recorded : ∀ entry ∈ call.entries, (call.after.webhookDeliveries.filter (belongs event entry.endpointId)).map
    (fun row => (⟨row.endpointId,row.attempts,row.status⟩ : Entry)) = [entry]
  posted : call.posted = call.entries.map Entry.endpointId
  once : call.posted.Nodup
  undelivered : ∀ entry ∈ history, entry.status = .delivered → entry.endpointId ∉ call.posted
  unrecorded : ∀ row ∈ call.before.webhookDeliveries, belongs event row.endpointId row = true → row.status = .delivered → row.endpointId ∉ call.posted
  endpoints : call.after.webhookEndpoints.map fixed = call.before.webhookEndpoints.map fixed
  disabled : ∀ row ∈ call.before.webhookEndpoints, ∀ row' ∈ call.after.webhookEndpoints, row'.id = row.id →
    (row.status = .enabled ∧ row'.status = .disabled ↔ ∃ entry ∈ call.entries, entry.endpointId = row.id ∧ gaveUp service entry) ∧
      ((¬ ∃ entry ∈ call.entries, entry.endpointId = row.id ∧ gaveUp service entry) → row'.status = row.status)
  thrown : call.thrown = some (incompleteDelivery event) ∧ (∃ entry ∈ call.entries, retries service entry) ∨
    call.thrown = none ∧ ¬ ∃ entry ∈ call.entries, retries service entry

end Exact

section Exactly

variable {hostname : String → Option String} {service : WebhookDeliveryService} {event : Outbox.OutboxEvent Payload} {history : List Entry}
  {storage storage' : Storage Payload} {turns : String → Turn}

-- What the storage holds after the attempts of a history.
structure Standing (hostname : String → Option String) (event : Outbox.OutboxEvent Payload) (history : List Entry) (storage : Storage Payload) : Prop where
  consistent : Consistent hostname storage.webhookEndpoints storage.endpointEvents
  kept : Kept event history storage.webhookDeliveries
  regular : RegularEntries history

theorem belongs_event {rows : List (WebhookDelivery Payload)} (endpointId : String) :
    (rows.filter (·.eventId = some event.id)).filter (belongs event endpointId) = rows.filter (belongs event endpointId) := by
  rw [List.filter_filter]
  refine List.filter_congr fun row _ => ?_
  rw [Bool.eq_iff_iff,Bool.and_eq_true,belongs_iff,decide_eq_true_eq]
  exact ⟨And.left,fun its => ⟨its,its.2.1⟩⟩

theorem standing_start (consistent : Consistent hostname storage.webhookEndpoints storage.endpointEvents)
    (ids : Keyed WebhookDelivery.id storage.webhookDeliveries) (none_ : ∀ row ∈ storage.webhookDeliveries, row.eventId ≠ some event.id) :
    Standing hostname event [] storage := by
  refine ⟨consistent,⟨ids,fun row member its => absurd its (none_ row member),?_⟩,regular_nil⟩
  intro endpointId
  have nothing : storage.webhookDeliveries.filter (belongs event endpointId) = [] :=
    List.filter_eq_nil_iff.mpr fun row member its => none_ row member (belongs_iff.mp its).2.1
  rw [nothing]
  rfl

theorem standing_others (standing : Standing hostname event history storage) (untouched : Untouched hostname event storage storage') :
    Standing hostname event history storage' := by
  refine ⟨untouched.consistent,⟨untouched.ids,?_,?_⟩,standing.regular⟩
  · intro row member its
    have inside : row ∈ storage'.webhookDeliveries.filter (·.eventId = some event.id) := List.mem_filter.mpr ⟨member,decide_eq_true its⟩
    rw [untouched.rows] at inside
    exact standing.kept.tenants row (List.mem_filter.mp inside).1 its
  · intro endpointId
    rw [← belongs_event,untouched.rows,belongs_event]
    exact standing.kept.standing endpointId

theorem disables_iff (entries : List Entry) (id_ : String) :
    disables service entries id_ = true ↔ ∃ entry ∈ entries, entry.endpointId = id_ ∧ gaveUp service entry := by
  unfold disables
  simp only [List.any_eq_true,decide_eq_true_eq]

theorem call_exact (standing : Standing hostname event history storage) (fresh : Fresh turns storage.webhookDeliveries) :
    CallExact hostname service event history (handle hostname service event turns storage) ∧
      Standing hostname event (history ++ (handle hostname service event turns storage).entries) (handle hostname service event turns storage).after := by
  obtain ⟨last,looped,attempted,handled⟩ := @handle_looped _ hostname service event history storage turns standing.consistent standing.kept standing.regular fresh
  have endpoints := endpoints_fixed looped.endpoints
  rw [handled]
  refine ⟨⟨attempted,?_,looped.noted.sent,looped.noted.once,?_,?_,endpoints,?_,?_⟩,⟨?_,?_,?_⟩,looped.noted.kept,looped.noted.regular⟩
  · intro entry member
    have alone : ∀ other ∈ last.entries, other.endpointId = entry.endpointId → other = entry := fun other there same =>
      List.inj_on_of_nodup_map (looped.noted.sent ▸ looped.noted.once) there member same
    have latest_ : latestEntry (history ++ last.entries) entry.endpointId = some entry := latest_of_mem Entry.endpointId member alone
    have standing := looped.noted.kept.standing entry.endpointId
    rw [latest_] at standing
    rw [← Option.toList_some,← standing]
    refine List.map_congr_left fun row inside => ?_
    rw [(belongs_iff.mp (List.mem_filter.mp inside).2).1]
  · intro entry member its again
    exact looped.noted.undelivered _ again entry (latest_final standing.regular.closed member its) its
  · intro row member its status again
    exact looped.noted.undelivered _ again _ (kept_alone standing.kept member its).2 status
  · intro row member row' member' same
    have listed := List.mem_map_of_mem (f := seen) member'
    rw [looped.endpoints] at listed
    obtain ⟨other,there,equal⟩ := List.mem_map.mp listed
    obtain ⟨first,second⟩ := Prod.mk.inj equal
    have owner : other = row := keyed_unique standing.consistent.ids there member ((fixed_id first).1.trans same)
    rw [owner] at second
    by_cases spent : ∃ entry ∈ last.entries, entry.endpointId = row.id ∧ gaveUp service entry
    · rw [if_pos ((disables_iff _ _).mpr spent)] at second
      obtain ⟨entry,inside,its,_⟩ := id spent
      have posted : row.id ∈ last.posted := by
        rw [looped.noted.sent,← its]
        exact List.mem_map_of_mem inside
      obtain ⟨listed_,stored,id_,enabled⟩ := looped.noted.enabled row.id posted
      rw [keyed_unique standing.consistent.ids stored member id_] at enabled
      exact ⟨iff_of_true ⟨enabled,second.symm⟩ spent,fun none_ => absurd spent none_⟩
    · rw [if_neg fun its => spent ((disables_iff _ _).mp its)] at second
      refine ⟨iff_of_false ?_ spent,fun _ => second.symm⟩
      rintro ⟨enabled,disabled⟩
      rw [second,disabled] at enabled
      cases enabled
  · have again : last.incomplete = true ↔ ∃ entry ∈ last.entries, retries service entry := by
      rw [looped.incomplete]
      simp only [List.any_eq_true,decide_eq_true_eq]
    by_cases incomplete : last.incomplete = true
    · exact .inl ⟨if_pos incomplete,again.mp incomplete⟩
    · exact .inr ⟨if_neg incomplete,fun its => incomplete (again.mpr its)⟩
  · exact fixed_keyed endpoints standing.consistent.ids
  · rw [looped.joined]
    exact standing.consistent.keys
  · intro row member
    obtain ⟨other,there,equal⟩ := fixed_listed endpoints member
    have registered := standing.consistent.registered other there
    have secret : (fixed other).secret = (fixed row).secret := congrArg _ equal
    have url : (fixed other).url = (fixed row).url := congrArg _ equal
    refine ⟨?_,?_⟩
    · rw [show row.secret = other.secret from secret.symm]
      exact registered.secret
    · rw [show row.url = other.url from url.symm]
      exact registered.url

theorem run_standing (run : Run hostname service event first calls last) : Standing hostname event (attemptsOf calls) last ∧
    ∀ before call after, calls = before ++ call :: after → CallExact hostname service event (attemptsOf before) call := by
  induction run with
  | start consistent ids none_ => exact ⟨standing_start consistent ids none_,fun before call after same => absurd same (by simp)⟩
  | others _ untouched ih => exact ⟨standing_others ih.1 untouched,ih.2⟩
  | handled _ turns fresh ih =>
      have exact_ := (@call_exact _ _ service _ _ _ _ ih.1 fresh).1
      have standing := (@call_exact _ _ service _ _ _ _ ih.1 fresh).2
      refine ⟨?_,?_⟩
      · unfold attemptsOf at standing ⊢
        rw [List.flatMap_append,List.flatMap_singleton]
        exact standing
      · intro before call after same
        rcases List.eq_nil_or_concat after with rfl | ⟨after',other,rfl⟩
        · obtain ⟨all,last_⟩ := List.append_inj' same rfl
          rw [← all,← List.singleton_injective last_]
          exact exact_
        · refine ih.2 before call after' ?_
          rw [List.concat_eq_append,← List.cons_append,← List.append_assoc] at same
          exact (List.append_inj' same rfl).1

theorem delivery_attempts_exact (options : WebhookDeliveryOptions) (run : Run hostname options.service event first calls last) :
    (∀ before call after, calls = before ++ call :: after → CallExact hostname options.service event (attemptsOf before) call) ∧
    ∀ endpointId, ∃ n, (under Entry.endpointId (attemptsOf calls) endpointId).map Entry.attempts = List.range' 1 n ∧
      (last.webhookDeliveries.filter (belongs event endpointId)).map WebhookDelivery.attempts = if n = 0 then [] else [n] := by
  obtain ⟨standing,each⟩ := run_standing run
  refine ⟨each,fun endpointId => ⟨_,standing.regular.counted endpointId,?_⟩⟩
  have rows := congrArg (List.map Entry.attempts) (standing.kept.standing endpointId)
  have last_ := latest_number standing.regular endpointId
  rw [List.map_map] at rows
  refine rows.trans ?_
  cases held : latestEntry (attemptsOf calls) endpointId with
  | none =>
      rw [latestEntry] at held
      rw [held,Option.elim_none] at last_
      rw [if_pos last_.symm]
      rfl
  | some entry =>
      have member : entry ∈ under Entry.endpointId (attemptsOf calls) endpointId := List.mem_of_getLast? held
      rw [latestEntry] at held
      rw [held] at last_
      rw [if_neg (List.length_pos_of_mem member).ne',← last_]
      rfl

end Exactly

section Retried

def hook (id_ : String) : WebhookEndpoint := ⟨id_,none,"https://hooks.test/in",["invoice.paid"],"whsec_1",.enabled,0,0⟩

def paid : Outbox.OutboxEvent Unit := ⟨"e",none,"invoice.paid.v1",(),.processing,0,none,none,none,none,0⟩

def hooksTest (url : String) : Option String := if url = "https://hooks.test/in" then some "hooks.test" else none

def hooked : Storage Unit := ⟨[hook "1",hook "2"],[⟨"1","invoice.paid"⟩,⟨"2","invoice.paid"⟩],[]⟩

-- Ids of one call begin with a digit of their own.
def answers (digit : Char) (ok : String → Bool) (id_ : String) : Turn :=
  ⟨some ["93.184.216.34"],.responded (if ok id_ then 200 else 500) (ok id_) none,String.ofList (digit :: id_.toList),1,2⟩

theorem answers_apart (digit : Char) (ok : String → Bool) : Function.Injective fun id_ => (answers digit ok id_).uuid := by
  intro a b same
  exact String.toList_inj.mp (List.cons.inj (String.ofList_injective same)).2

def refusedOnce : Call Unit := handle hooksTest (WebhookDeliveryOptions.mk (some 2)).service paid (answers '1' (· == "2")) hooked

def deliveredThen : Call Unit := handle hooksTest (WebhookDeliveryOptions.mk (some 2)).service paid (answers '2' fun _ => true) refusedOnce.after

theorem retried_run : Run hooksTest (WebhookDeliveryOptions.mk (some 2)).service paid hooked [refusedOnce,deliveredThen] deliveredThen.after := by
  have consistent : Consistent hooksTest hooked.webhookEndpoints hooked.endpointEvents := by
    refine ⟨by decide,by decide,?_⟩
    intro row member
    obtain rfl | rfl := List.mem_pair.mp member
    · exact ⟨by decide,by decide⟩
    · exact ⟨by decide,by decide⟩
  have start : Run hooksTest (WebhookDeliveryOptions.mk (some 2)).service paid hooked [] hooked :=
    .start consistent List.nodup_nil fun _ member => absurd member List.not_mem_nil
  have first : Fresh (answers '1' (· == "2")) hooked.webhookDeliveries :=
    ⟨answers_apart _ _,fun _ member => absurd member List.not_mem_nil⟩
  have rows : refusedOnce.after.webhookDeliveries.map (·.id.toList.head?) = [some '1',some '1'] := by decide +kernel
  have second : Fresh (answers '2' fun _ => true) refusedOnce.after.webhookDeliveries := by
    refine ⟨answers_apart _ _,?_⟩
    intro row member id_ same
    have digit : row.id.toList.head? ∈ [some '1',some '1'] := rows ▸ List.mem_map_of_mem (f := fun row => row.id.toList.head?) member
    rw [same,answers,String.toList_ofList] at digit
    have clash : '2' = '1' := Option.some.inj ((List.mem_pair.mp digit).elim id id)
    exact absurd clash (by decide)
  exact .handled (.handled start _ first) _ second

-- One endpoint answers with 500 and then with 200, the other with 200 at once.
theorem delivery_attempts_exact_retried :
    CallExact hooksTest (WebhookDeliveryOptions.mk (some 2)).service paid (attemptsOf [refusedOnce]) deliveredThen ∧
      refusedOnce.entries = [⟨"1",1,.failed⟩,⟨"2",1,.delivered⟩] ∧ deliveredThen.posted = ["1"] ∧ deliveredThen.entries = [⟨"1",2,.delivered⟩] ∧
      refusedOnce.thrown = some (incompleteDelivery paid) ∧ deliveredThen.thrown = none ∧
      ∃ n, (under Entry.endpointId (attemptsOf [refusedOnce,deliveredThen]) "1").map Entry.attempts = List.range' 1 n ∧
        (deliveredThen.after.webhookDeliveries.filter (belongs paid "1")).map WebhookDelivery.attempts = if n = 0 then [] else [n] := by
  obtain ⟨each,counted⟩ := delivery_attempts_exact ⟨some 2⟩ retried_run
  exact ⟨each [refusedOnce] deliveredThen [] rfl,by decide +kernel,by decide +kernel,by decide +kernel,by decide +kernel,by decide +kernel,counted "1"⟩

end Retried

end Payable.WebhookDelivery
