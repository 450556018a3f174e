namespace Payable.Domain

inductive SubscriptionStatus where
  | incomplete | incompleteExpired | trialing | active | pastDue | canceled | unpaid | paused
  deriving DecidableEq

-- SUBSCRIPTION_STATUSES
def subscriptionStatuses : List SubscriptionStatus :=
  [.incomplete,.incompleteExpired,.trialing,.active,.pastDue,.canceled,.unpaid,.paused]

inductive SubscriptionEvent where
  | startTrial | activate | markPastDue | markUnpaid | pause | resume | cancel | expire
  deriving DecidableEq

-- The subscription MAP, each status with its entries in the order they are written.
def SubscriptionStatus.transitions : SubscriptionStatus → List (SubscriptionEvent × SubscriptionStatus)
  | .incomplete => [(.startTrial,.trialing),(.activate,.active),(.expire,.incompleteExpired),(.cancel,.canceled)]
  | .trialing =>
    [(.activate,.active),(.markPastDue,.pastDue),(.markUnpaid,.unpaid),(.pause,.paused),(.cancel,.canceled)]
  | .active => [(.markPastDue,.pastDue),(.markUnpaid,.unpaid),(.pause,.paused),(.cancel,.canceled)]
  | .pastDue => [(.activate,.active),(.markUnpaid,.unpaid),(.cancel,.canceled)]
  | .unpaid => [(.activate,.active),(.cancel,.canceled)]
  | .paused => [(.resume,.active),(.cancel,.canceled)]
  | .canceled | .incompleteExpired => []

def SubscriptionStatus.on (status : SubscriptionStatus) (event : SubscriptionEvent) : Option SubscriptionStatus :=
  status.transitions.lookup event

-- The locals of shortestEventPath; the predecessor map has the latest entry first.
structure EventSearch where
  visited : List SubscriptionStatus
  queue : List SubscriptionStatus
  predecessor : List (SubscriptionStatus × SubscriptionStatus × SubscriptionEvent)

-- The inner loop over the transitions of a node; true where it met the target.
def EventSearch.scan (target node : SubscriptionStatus) :
    List (SubscriptionEvent × SubscriptionStatus) → EventSearch → Bool × EventSearch
  | [],search => (false,search)
  | (event,next) :: rest,search =>
    if search.visited.contains next then scan target node rest search
    else
      let reached := {search with
        visited := search.visited ++ [next]
        predecessor := (next,node,event) :: search.predecessor}
      if next = target then (true,reached)
      else scan target node rest {reached with queue := reached.queue ++ [next]}

-- A round takes one status off the queue; no status is queued twice.
def EventSearch.rounds (target : SubscriptionStatus) : Nat → EventSearch → Option EventSearch
  | 0,_ => none
  | fuel + 1,search =>
    match search.queue with
    | [] => none
    | node :: queue =>
      match scan target node node.transitions {search with queue := queue} with
      | (true,reached) => some reached
      | (false,next) => rounds target fuel next

def reconstructPath (predecessor : List (SubscriptionStatus × SubscriptionStatus × SubscriptionEvent))
    (source : SubscriptionStatus) : Nat → SubscriptionStatus → List SubscriptionEvent → List SubscriptionEvent
  | 0,_,path => path
  | fuel + 1,cursor,path =>
    if cursor = source then path
    else match predecessor.lookup cursor with
      | none => []
      | some (status,event) => reconstructPath predecessor source fuel status (event :: path)

def shortestEventPath (source target : SubscriptionStatus) : Option (List SubscriptionEvent) :=
  if source = target then some []
  else (EventSearch.rounds target subscriptionStatuses.length ⟨[source],[source],[]⟩).map fun search =>
    reconstructPath search.predecessor source subscriptionStatuses.length target []

structure SubscriptionStatusReconciliation where
  status : SubscriptionStatus
  applied : Bool
  events : List SubscriptionEvent

def reconcileSubscriptionStatus (current target : SubscriptionStatus) : SubscriptionStatusReconciliation :=
  match shortestEventPath current target with
  | none => ⟨current,false,[]⟩
  | some events => ⟨target,true,events⟩

-- Events taken one after the other, as the methods of SubscriptionStateMachine take them.
def SubscriptionStatus.follow : SubscriptionStatus → List SubscriptionEvent → Option SubscriptionStatus
  | status,[] => some status
  | status,event :: rest => (status.on event).bind (·.follow rest)

theorem mem_subscriptionStatuses (status : SubscriptionStatus) : status ∈ subscriptionStatuses := by
  cases status <;> decide

theorem on_transition {current next : SubscriptionStatus} (moved : current.on event = some next) :
    (event,next) ∈ current.transitions := by
  obtain ⟨before,after,same,_⟩ := List.lookup_eq_some_iff.mp moved
  rw [same]
  simp

theorem reconcile_follows (current target : SubscriptionStatus)
    (applied : (reconcileSubscriptionStatus current target).applied = true) :
    current.follow (reconcileSubscriptionStatus current target).events = some target := by
  have table : ∀ current ∈ subscriptionStatuses, ∀ target ∈ subscriptionStatuses,
      (reconcileSubscriptionStatus current target).applied = true →
        current.follow (reconcileSubscriptionStatus current target).events = some target := by decide
  exact table current (mem_subscriptionStatuses current) target (mem_subscriptionStatuses target) applied

theorem reconcile_extends {current next target : SubscriptionStatus} (moved : current.on event = some next)
    (applied : (reconcileSubscriptionStatus next target).applied = true) :
    (reconcileSubscriptionStatus current target).applied = true := by
  have table : ∀ current ∈ subscriptionStatuses, ∀ entry ∈ current.transitions, ∀ target ∈ subscriptionStatuses,
      (reconcileSubscriptionStatus entry.2 target).applied = true →
        (reconcileSubscriptionStatus current target).applied = true := by decide
  exact table current (mem_subscriptionStatuses current) _ (on_transition moved) target
    (mem_subscriptionStatuses target) applied

-- A status is applied exactly if the state machine can be taken to it.
theorem reconcile_reachable (current target : SubscriptionStatus) :
    (reconcileSubscriptionStatus current target).applied = true ↔ ∃ events, current.follow events = some target := by
  constructor
  · intro applied
    exact ⟨_,reconcile_follows current target applied⟩
  · intro ⟨events,followed⟩
    induction events generalizing current with
    | nil =>
        have equal : current = target := Option.some.inj followed
        subst equal
        simp [reconcileSubscriptionStatus,shortestEventPath]
    | cons event rest ih =>
        obtain ⟨next,moved,followed⟩ := Option.bind_eq_some_iff.mp followed
        exact reconcile_extends moved (ih next followed)

-- Canceled is terminal, and every status but incomplete_expired leads there.
theorem reconcile_canceled (current target : SubscriptionStatus) :
    (reconcileSubscriptionStatus current target).status = .canceled ↔
      current = .canceled ∨ target = .canceled ∧ current ≠ .incompleteExpired := by
  have table : ∀ current ∈ subscriptionStatuses, ∀ target ∈ subscriptionStatuses,
      (reconcileSubscriptionStatus current target).status = .canceled ↔
        current = .canceled ∨ target = .canceled ∧ current ≠ .incompleteExpired := by decide
  exact table current (mem_subscriptionStatuses current) target (mem_subscriptionStatuses target)

end Payable.Domain
