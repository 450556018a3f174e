import Payable.Outbox.FairOrder

namespace Payable.Outbox
open FairShares Tables

variable {Payload : Type}

-- A row without a tenant shares the bucket of the empty one.
def tenantOf (row : OutboxEvent Payload) : String := row.tenantId.getD ""

def ofTenant (tenant : String) (rows : List (OutboxEvent Payload)) : List (OutboxEvent Payload) :=
  rows.filter fun row => tenantOf row = tenant

-- The claimable rows, oldest first.
def backlog (rows : List (OutboxEvent Payload)) (now : Int) : List (OutboxEvent Payload) :=
  (rows.filter (claimable now)).insertionSort createdBefore

-- What of it the claim looks at.
def candidates (rows : List (OutboxEvent Payload)) (limit : Nat) (now : Int) : List (OutboxEvent Payload) :=
  (backlog rows now).take (min (limit * fairOverfetchFactor) maxFairOverfetch)

-- Between them two tenants are at most one row apart, unless the one behind has no claimable row left.
structure Fair (rows : List (OutboxEvent Payload)) (limit : Nat) (token : String) (now : Int)
    (events : List (OutboxEvent Payload)) : Prop where
  count : events.length = min limit (rows.filter (claimable now)).length
  distinct : (events.map (·.id)).Nodup
  claims : ∀ event ∈ events, ∃ row ∈ rows, claimable now row = true ∧ event = row.claim token now
  oldest : ∀ tenant, (ofTenant tenant events).map (·.id) <+: (ofTenant tenant (backlog rows now)).map (·.id)
  even : ∀ one other, (ofTenant one events).length ≤ (ofTenant other events).length + 1 ∨
    (ofTenant other events).length = (ofTenant other (backlog rows now)).length

def tenants (rows : List (OutboxEvent Payload)) (now : Int) : List String := ((backlog rows now).map tenantOf).dedup

-- No tenant that is cut off by the candidates is outrun: one more row for everybody uses the limit up, or
-- nobody has two candidates more.
def covered (rows : List (OutboxEvent Payload)) (limit : Nat) (now : Int) : Bool :=
  let held := fun tenant => (ofTenant tenant (candidates rows limit now)).length
  (tenants rows now).all fun tenant =>
    decide ((ofTenant tenant (backlog rows now)).length ≤ held tenant) ||
      decide (limit ≤ ((tenants rows now).map fun other => min (held other) (held tenant + 1)).sum) ||
      (tenants rows now).all fun other => decide (held other ≤ held tenant + 1)

theorem enqueue_known {queues : List (String × List String)} {row : OutboxEvent Payload}
    (known : queues.any (·.1 == tenantOf row) = true) : enqueue queues row =
      queues.map fun queue => if queue.1 == tenantOf row then (queue.1,queue.2 ++ [row.id]) else queue := by
  unfold enqueue
  exact if_pos known

theorem enqueue_new {queues : List (String × List String)} {row : OutboxEvent Payload}
    (unknown : queues.any (·.1 == tenantOf row) = false) : enqueue queues row = queues ++ [(tenantOf row,[row.id])] := by
  unfold enqueue
  exact if_neg (by rw [show row.tenantId.getD "" = tenantOf row from rfl,unknown]; exact Bool.false_ne_true)

theorem enqueue_exact (rows : List (OutboxEvent Payload)) :
    ∃ keys : List String, keys.Nodup ∧ (∀ key, key ∈ keys ↔ ∃ row ∈ rows, tenantOf row = key) ∧
      rows.foldl enqueue [] = keys.map fun key => (key,(ofTenant key rows).map (·.id)) := by
  induction rows using List.reverseRecOn with
  | nil => exact ⟨[],List.nodup_nil,by simp,rfl⟩
  | append_singleton rows row ih =>
      obtain ⟨keys,distinct,known,queues⟩ := ih
      have grown : ∀ key, (ofTenant key (rows ++ [row])).map (·.id) =
          (ofTenant key rows).map (·.id) ++ if tenantOf row = key then [row.id] else [] := by
        intro key
        rw [ofTenant,List.filter_append,List.map_append]
        by_cases same : tenantOf row = key <;> simp [ofTenant,same]
      have present : (rows.foldl enqueue []).any (fun queue => queue.1 == tenantOf row) = decide (tenantOf row ∈ keys) := by
        rw [queues,List.any_map,Bool.eq_iff_iff,List.any_eq_true,decide_eq_true_iff]
        constructor
        · rintro ⟨key,inside,same⟩
          rw [← beq_iff_eq.mp same]
          exact inside
        · intro inside
          exact ⟨_,inside,by simp⟩
      rw [List.foldl_append,List.foldl_cons,List.foldl_nil]
      by_cases inside : tenantOf row ∈ keys
      · refine ⟨keys,distinct,?_,?_⟩
        · intro key
          rw [known key]
          constructor
          · rintro ⟨other,member,its⟩
            exact ⟨other,List.mem_append_left _ member,its⟩
          · rintro ⟨other,member,its⟩
            rcases List.mem_append.mp member with old | new
            · exact ⟨other,old,its⟩
            · rw [List.mem_singleton.mp new] at its
              rw [its] at inside
              exact (known key).mp inside
        · rw [enqueue_known (present.trans (decide_eq_true inside)),queues,List.map_map]
          refine List.map_congr_left ?_
          intro key _
          rw [grown key]
          by_cases same : key = tenantOf row
          · simp [Function.comp,same]
          · have apart : ¬ tenantOf row = key := fun its => same its.symm
            simp [Function.comp,same,apart]
      · refine ⟨keys ++ [tenantOf row],?_,?_,?_⟩
        · exact List.nodup_append.mpr ⟨distinct,List.nodup_singleton _,fun key member other new => by
            rw [List.mem_singleton.mp new]
            rintro rfl
            exact inside member⟩
        · intro key
          rw [List.mem_append,List.mem_singleton,known key]
          constructor
          · rintro (⟨other,member,its⟩ | rfl)
            · exact ⟨other,List.mem_append_left _ member,its⟩
            · exact ⟨row,List.mem_append_right _ (List.mem_singleton_self _),rfl⟩
          · rintro ⟨other,member,its⟩
            rcases List.mem_append.mp member with old | new
            · exact .inl ⟨other,old,its⟩
            · rw [List.mem_singleton.mp new] at its
              exact .inr its.symm
        · rw [enqueue_new (present.trans (decide_eq_false inside)),queues,List.map_append]
          refine congrArg₂ _ (List.map_congr_left ?_) ?_
          · intro key member
            have apart : tenantOf row ≠ key := by
              rintro rfl
              exact inside member
            rw [grown key,if_neg apart,List.append_nil]
          · have fresh : ofTenant (tenantOf row) rows = [] := by
              refine List.filter_eq_nil_iff.mpr ?_
              intro other member same
              exact inside ((known _).mpr ⟨other,member,by simpa using same⟩)
            simp [grown,fresh]

-- The tenant of a candidate, from its id.
def owner (rows : List (OutboxEvent Payload)) (id : String) : String := ((lookup OutboxEvent.id id rows).map tenantOf).getD ""

theorem owner_member {rows : List (OutboxEvent Payload)} (row : OutboxEvent Payload) (keyed : Keyed OutboxEvent.id rows)
    (member : row ∈ rows) :
    owner rows row.id = tenantOf row := by
  rw [owner,lookup_of_member keyed member]
  rfl

theorem fairlyOrdered_evened {rows : List (OutboxEvent Payload)} (keyed : Keyed OutboxEvent.id rows) (limit : Nat) :
    ∃ keys : List String, (∀ key, key ∈ keys ↔ ∃ row ∈ rows, tenantOf row = key) ∧ keys.Nodup ∧
      Evened keys (fun key => (ofTenant key rows).map (·.id)) (owner rows) limit (fairlyOrdered rows limit) := by
  obtain ⟨keys,distinct,known,queues⟩ := enqueue_exact rows
  have buckets : Buckets keys (fun key => (ofTenant key rows).map (·.id)) (owner rows) := by
    refine ⟨distinct,?_⟩
    intro key _ id inside
    obtain ⟨row,member,rfl⟩ := List.mem_map.mp inside
    obtain ⟨there,its⟩ := List.mem_filter.mp member
    rw [owner_member _ keyed there]
    simpa using its
  have total : (keys.map fun key => ((ofTenant key rows).map (·.id)).length).sum = rows.length := by
    simp only [List.length_map]
    refine length_by_key tenantOf distinct ?_
    intro row member
    exact (known _).mpr ⟨row,member,rfl⟩
  refine ⟨keys,known,distinct,?_⟩
  have start : Dealing keys (fun key => (ofTenant key rows).map (·.id)) (owner rows) 0 [] := by
    refine ⟨fun key _ => rfl,?_⟩
    intro id inside
    cases inside
  have ran := fairRounds_evened (rows.length + 1) buckets start (Nat.zero_le limit) (by
    rw [total,List.length_nil]
    omega)
  rw [fairlyOrdered,queues,List.map_map]
  exact ran

theorem backlog_perm (rows : List (OutboxEvent Payload)) (now : Int) : (backlog rows now).Perm (rows.filter (claimable now)) :=
  List.perm_insertionSort _ _

theorem backlog_keyed {rows : List (OutboxEvent Payload)} (keyed : Keyed OutboxEvent.id rows) (now : Int) :
    Keyed OutboxEvent.id (backlog rows now) := by
  have part : Keyed OutboxEvent.id (rows.filter (claimable now)) := List.Nodup.sublist (List.filter_sublist.map _) keyed
  exact ((backlog_perm rows now).map _).nodup_iff.mpr part

theorem candidates_keyed {rows : List (OutboxEvent Payload)} (keyed : Keyed OutboxEvent.id rows) (limit : Nat) (now : Int) :
    Keyed OutboxEvent.id (candidates rows limit now) :=
  List.Nodup.sublist ((List.take_sublist _ _).map _) (backlog_keyed keyed now)

theorem candidates_member {rows : List (OutboxEvent Payload)} (member : row ∈ candidates rows limit now) :
    row ∈ rows ∧ claimable now row = true :=
  List.mem_filter.mp ((backlog_perm rows now).mem_iff.mp (List.mem_of_mem_take member))

-- Each chosen id is a candidate's.
theorem chosen_member {id : String} {ids : List String} {rows : List (OutboxEvent Payload)} {full : String → List String}
    (evened : Evened keys full holder limit ids) (full_ : ∀ key, full key = (ofTenant key rows).map (·.id))
    (inside : id ∈ ids) : ∃ row ∈ rows, row.id = id := by
  obtain ⟨round,rounds⟩ := evened.rounds
  obtain ⟨n,share,_⟩ := rounds (holder id) (evened.keyed id inside)
  have there : id ∈ ids.filter fun other => holder other = holder id := List.mem_filter.mpr ⟨inside,by simp⟩
  rw [share,full_] at there
  obtain ⟨row,member,its⟩ := List.mem_map.mp (List.mem_of_mem_take there)
  exact ⟨row,(List.mem_filter.mp member).1,its⟩

theorem found_all {Item : Type} {find : String → Option Item} {name : Item → String} {ids : List String}
    (found : ∀ id ∈ ids, ∃ item, find id = some item ∧ name item = id) : (ids.filterMap find).map name = ids := by
  induction ids with
  | nil => rfl
  | cons id ids ih =>
      obtain ⟨item,its,named⟩ := found id List.mem_cons_self
      rw [List.filterMap_cons,its,List.map_cons,named,ih fun other inside => found other (List.mem_cons_of_mem id inside)]

theorem claimed_found {rows : List (OutboxEvent Payload)} (keyed : Keyed OutboxEvent.id rows) (member : row ∈ rows)
    (open_ : claimable now row = true) (chosen : row.id ∈ claimedIds rows limit now) (token : String) :
    ((claimRows rows limit token now).filter fun row => (claimedIds rows limit now).contains row.id &&
      row.lockedBy == some token && row.status == .processing).find? (·.id == row.id) = some (row.claim token now) := by
  have kept : Keyed OutboxEvent.id (claimRows rows limit token now) := by
    unfold claimRows
    rw [Keyed,updateWhere_keys]
    · exact keyed
    · intro row
      rfl
  have claimed : row.claim token now ∈ claimRows rows limit token now :=
    mem_updateWhere_self member (by simp [chosen,open_])
  have mine : row.claim token now ∈ (claimRows rows limit token now).filter fun row =>
      (claimedIds rows limit now).contains row.id && row.lockedBy == some token && row.status == .processing :=
    List.mem_filter.mpr ⟨claimed,by simp [OutboxEvent.claim,chosen]⟩
  exact lookup_of_member (List.Nodup.sublist (List.filter_sublist.map _) kept) mine

-- The events of a claim: the chosen rows in the order they were chosen.
theorem claimPending_events {rows : List (OutboxEvent Payload)} (keyed : Keyed OutboxEvent.id rows) (limit : Nat)
    (token : String) (now : Int) :
    (claimPending rows limit token now).2.map (·.id) = claimedIds rows limit now ∧
      ∀ event ∈ (claimPending rows limit token now).2, ∃ row ∈ candidates rows limit now,
        event = row.claim token now := by
  obtain ⟨keys,_,_,evened⟩ := fairlyOrdered_evened (candidates_keyed keyed limit now) limit
  have chosen : ∀ id ∈ claimedIds rows limit now, ∃ row ∈ candidates rows limit now, row.id = id := by
    intro id inside
    exact chosen_member evened (fun _ => rfl) inside
  have found : ∀ id ∈ claimedIds rows limit now, ∃ row ∈ candidates rows limit now, row.id = id ∧
      ((claimRows rows limit token now).filter fun row => (claimedIds rows limit now).contains row.id &&
        row.lockedBy == some token && row.status == .processing).find? (·.id == id) = some (row.claim token now) := by
    intro id inside
    obtain ⟨row,member,rfl⟩ := chosen id inside
    obtain ⟨there,open_⟩ := candidates_member member
    exact ⟨row,member,rfl,claimed_found keyed there open_ inside token⟩
  refine ⟨?_,?_⟩
  · refine found_all ?_
    intro id inside
    obtain ⟨row,_,its,there⟩ := found id inside
    exact ⟨_,there,its⟩
  · intro event inside
    obtain ⟨id,member,there⟩ := List.mem_filterMap.mp inside
    obtain ⟨row,candidate,_,there'⟩ := found id member
    rw [there',Option.some.injEq] at there
    exact ⟨row,candidate,there.symm⟩

theorem events_ofTenant {rows : List (OutboxEvent Payload)} (keyed : Keyed OutboxEvent.id rows) (limit : Nat)
    (token : String) (now : Int) (tenant : String) :
    (ofTenant tenant (claimPending rows limit token now).2).map (·.id) =
      (claimedIds rows limit now).filter fun id => owner (candidates rows limit now) id = tenant := by
  obtain ⟨ids,from_⟩ := claimPending_events keyed limit token now
  rw [← ids,List.filter_map,ofTenant]
  refine congrArg _ (List.filter_congr ?_)
  intro event inside
  obtain ⟨row,member,rfl⟩ := from_ event inside
  have same : owner (candidates rows limit now) (row.claim token now).id = tenantOf row := by
    exact owner_member row (candidates_keyed keyed limit now) member
  exact decide_eq_decide.mpr (by rw [same]; exact Iff.rfl)

theorem ofTenant_absent {rows : List (OutboxEvent Payload)} (absent : ∀ row ∈ rows, tenantOf row ≠ tenant) :
    ofTenant tenant rows = [] :=
  List.filter_eq_nil_iff.mpr fun row member => by simpa using absent row member

theorem tenants_member {rows : List (OutboxEvent Payload)} : tenant ∈ tenants rows now ↔ ∃ row ∈ backlog rows now, tenantOf row = tenant := by
  rw [tenants,List.mem_dedup,List.mem_map]

theorem claimPending_dealt {rows : List (OutboxEvent Payload)} (keyed : Keyed OutboxEvent.id rows) (limit : Nat)
    (token : String) (now : Int) :
    Dealt (tenants rows now) limit (fun tenant => (ofTenant tenant (candidates rows limit now)).length)
      (fun tenant => (ofTenant tenant (claimPending rows limit token now).2).length) ∧
    (∀ tenant, ∃ n, (ofTenant tenant (claimPending rows limit token now).2).map (·.id) =
      ((ofTenant tenant (candidates rows limit now)).map (·.id)).take n) ∧
    (claimPending rows limit token now).2.length = min limit (candidates rows limit now).length := by
  obtain ⟨keys,known,distinct,evened⟩ := fairlyOrdered_evened (candidates_keyed keyed limit now) limit
  obtain ⟨ids,from_⟩ := claimPending_events keyed limit token now
  have shares := events_ofTenant keyed limit token now
  have absent : ∀ tenant, tenant ∉ keys → ofTenant tenant (candidates rows limit now) = [] ∧
      ofTenant tenant (claimPending rows limit token now).2 = [] := by
    intro tenant foreign
    have missed : ∀ row ∈ candidates rows limit now, tenantOf row ≠ tenant :=
      fun row member same => foreign ((known tenant).mpr ⟨row,member,same⟩)
    refine ⟨ofTenant_absent missed,ofTenant_absent ?_⟩
    intro event inside
    obtain ⟨row,member,rfl⟩ := from_ event inside
    exact missed row member
  have listed : ∀ row ∈ candidates rows limit now, tenantOf row ∈ tenants rows now :=
    fun row member => tenants_member.mpr ⟨row,List.mem_of_mem_take member,rfl⟩
  have total : (keys.map fun key => ((ofTenant key (candidates rows limit now)).map (·.id)).length).sum =
      (candidates rows limit now).length := by
    simp only [List.length_map]
    exact length_by_key tenantOf distinct fun row member => (known _).mpr ⟨row,member,rfl⟩
  have length : (claimPending rows limit token now).2.length = min limit (candidates rows limit now).length := by
    have listed := congrArg List.length ids
    rw [List.length_map] at listed
    rw [listed,← total]
    exact evened.length
  obtain ⟨round,rounds⟩ := evened.rounds
  refine ⟨⟨⟨round,?_⟩,?_⟩,?_,length⟩
  · intro tenant _
    by_cases inside : tenant ∈ keys
    · obtain ⟨n,share,low,high⟩ := rounds tenant inside
      have taken : (ofTenant tenant (claimPending rows limit token now).2).length =
          min n (ofTenant tenant (candidates rows limit now)).length := by
        have same := congrArg List.length ((shares tenant).trans share)
        simpa [List.length_take] using same
      omega
    · rw [(absent tenant inside).1,(absent tenant inside).2]
      exact ⟨Nat.min_le_right _ _,Nat.zero_le _⟩
  · have events : ((tenants rows now).map fun tenant => (ofTenant tenant (claimPending rows limit token now).2).length).sum =
        (claimPending rows limit token now).2.length := by
      refine length_by_key tenantOf (List.nodup_dedup _) ?_
      intro event inside
      obtain ⟨row,member,rfl⟩ := from_ event inside
      exact listed row member
    have held : ((tenants rows now).map fun tenant => (ofTenant tenant (candidates rows limit now)).length).sum =
        (candidates rows limit now).length := length_by_key tenantOf (List.nodup_dedup _) listed
    rw [events,held,length]
  · intro tenant
    by_cases inside : tenant ∈ keys
    · obtain ⟨n,share,_⟩ := rounds tenant inside
      exact ⟨n,(shares tenant).trans share⟩
    · exact ⟨0,by rw [(absent tenant inside).2]; rfl⟩

theorem candidates_ofTenant (rows : List (OutboxEvent Payload)) (limit : Nat) (now : Int) (tenant : String) :
    ofTenant tenant (candidates rows limit now) <+: ofTenant tenant (backlog rows now) :=
  (List.take_prefix _ _).filter _

-- Whatever is claimable, a claim takes as many rows as it may, each tenant's oldest; it is even between
-- the tenants exactly where the candidates cover those they cut off.
theorem claim_fair_iff {rows : List (OutboxEvent Payload)} (keyed : Keyed OutboxEvent.id rows) (atLeast : 1 ≤ limit)
    (atMost : limit ≤ 1000) (token : String) (now : Int) :
    Fair rows limit token now (claimPending rows limit token now).2 ↔ covered rows limit now = true := by
  obtain ⟨dealt,oldest,length⟩ := claimPending_dealt keyed limit token now
  obtain ⟨ids,from_⟩ := claimPending_events keyed limit token now
  have part : ∀ tenant, (ofTenant tenant (candidates rows limit now)).length ≤ (ofTenant tenant (backlog rows now)).length :=
    fun tenant => (candidates_ofTenant rows limit now tenant).length_le
  have unlisted : ∀ tenant, tenant ∉ tenants rows now → ofTenant tenant (backlog rows now) = [] ∧
      (ofTenant tenant (claimPending rows limit token now).2).length = 0 := by
    intro tenant foreign
    have missed : ∀ row ∈ backlog rows now, tenantOf row ≠ tenant :=
      fun row member same => foreign (tenants_member.mpr ⟨row,member,same⟩)
    refine ⟨ofTenant_absent missed,?_⟩
    rw [ofTenant_absent,List.length_nil]
    intro event inside
    obtain ⟨row,member,rfl⟩ := from_ event inside
    exact missed row (List.mem_of_mem_take member)
  have condition : covered rows limit now = true ↔ ∀ key ∈ tenants rows now,
      (ofTenant key (candidates rows limit now)).length < (ofTenant key (backlog rows now)).length →
        limit ≤ ((tenants rows now).map fun other => min (ofTenant other (candidates rows limit now)).length
          ((ofTenant key (candidates rows limit now)).length + 1)).sum ∨
        ∀ other ∈ tenants rows now, (ofTenant other (candidates rows limit now)).length ≤
          (ofTenant key (candidates rows limit now)).length + 1 := by
    simp only [covered,List.all_eq_true,Bool.or_eq_true,decide_eq_true_eq]
    refine forall₂_congr fun key _ => ?_
    rw [or_assoc,← not_lt,imp_iff_not_or]
  rw [condition,← dealt.fair_iff fun key _ => part key]
  constructor
  · intro fair one _ other _
    exact fair.even one other
  · intro even
    refine ⟨?_,?_,?_,?_,?_⟩
    · have many : (candidates rows limit now).length =
          min (min (limit * fairOverfetchFactor) maxFairOverfetch) (rows.filter (claimable now)).length := by
        rw [candidates,List.length_take,(backlog_perm rows now).length_eq]
      rw [length,many]
      simp only [fairOverfetchFactor,maxFairOverfetch]
      omega
    · rw [ids,List.nodup_iff_count_le_one]
      intro id
      obtain ⟨n,share⟩ := oldest (owner (candidates rows limit now) id)
      have once : ((claimedIds rows limit now).filter fun other =>
          owner (candidates rows limit now) other = owner (candidates rows limit now) id).Nodup := by
        rw [← events_ofTenant keyed limit token now,share]
        exact List.Nodup.sublist ((List.take_sublist _ _).trans (List.filter_sublist.map _)) (candidates_keyed keyed limit now)
      rw [← List.count_filter (p := fun other =>
        owner (candidates rows limit now) other = owner (candidates rows limit now) id) (by simp)]
      exact List.nodup_iff_count_le_one.mp once id
    · intro event inside
      obtain ⟨row,member,same⟩ := from_ event inside
      exact ⟨row,(candidates_member member).1,(candidates_member member).2,same⟩
    · intro tenant
      obtain ⟨n,share⟩ := oldest tenant
      rw [share]
      exact (List.take_prefix _ _).trans ((candidates_ofTenant rows limit now tenant).map _)
    · intro one other
      by_cases inside : other ∈ tenants rows now
      · by_cases inside' : one ∈ tenants rows now
        · exact even one inside' other inside
        · rw [(unlisted one inside').2]
          exact .inl (Nat.zero_le _)
      · refine .inr ?_
        rw [(unlisted other inside).1,(unlisted other inside).2]
        rfl

section Backlogs

def waiting (tenant id : String) (createdAt : Int) : OutboxEvent Unit :=
  ⟨id,some tenant,"invoice.paid",(),.pending,0,none,none,none,none,createdAt⟩

-- Two tenants, one with more rows than the other.
def shared : List (OutboxEvent Unit) := [waiting "a" "e1" 1,waiting "a" "e2" 2,waiting "b" "e3" 3]

theorem claim_fair_shared : Fair shared 2 "t1" 9 (claimPending shared 2 "t1" 9).2 ∧
    (claimPending shared 2 "t1" 9).2.map (·.id) = ["e1","e3"] :=
  ⟨(claim_fair_iff (by decide) (by decide) (by decide) "t1" 9).mpr (by decide +kernel),by decide +kernel⟩

-- Ten older rows of one tenant are all that a claim of two looks at.
def crowded : List (OutboxEvent Unit) :=
  ["e0","e1","e2","e3","e4","e5","e6","e7","e8","e9"].map (waiting "a" · 1) ++ [waiting "b" "f0" 2]

theorem claim_starves :
    ¬ Fair crowded 2 "t1" 9 (claimPending crowded 2 "t1" 9).2 ∧
      (claimPending crowded 2 "t1" 9).2.map (·.id) = ["e0","e1"] ∧ (ofTenant "b" (backlog crowded 9)).length = 1 := by
  refine ⟨?_,by decide +kernel,by decide +kernel⟩
  intro fair
  have apart : ¬ ((ofTenant "a" (claimPending crowded 2 "t1" 9).2).length ≤ (ofTenant "b" (claimPending crowded 2 "t1" 9).2).length + 1 ∨
      (ofTenant "b" (claimPending crowded 2 "t1" 9).2).length = (ofTenant "b" (backlog crowded 9)).length) := by
    decide +kernel
  exact apart (fair.even "a" "b")

end Backlogs

end Payable.Outbox
