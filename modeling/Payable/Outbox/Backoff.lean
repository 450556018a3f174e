import Payable.Foundation.Doubles
import Payable.Outbox.Batches

namespace Payable.Outbox
open Doubles Tables

variable {Payload : Type} {r : Rounding}

abbrev HeldNumber (r : Rounding) := {number : Number // number.Rounded r}

def whole (r : Rounding) (n : Int) (small : n.natAbs ≤ 2 ^ 53) : HeldNumber r := ⟨.finite n,r.integers n small⟩

-- The retry settings of an OutboxService, whatever numbers it is given.
structure RetrySettings (r : Rounding) where
  maxAttempts : Number
  backoffMs : HeldNumber r
  maxBackoffMs : HeldNumber r

def RetrySettings.create (maxAttempts : Option Number) (backoffMs maxBackoffMs : Option (HeldNumber r)) : RetrySettings r :=
  ⟨maxAttempts.getD (.finite 5),backoffMs.getD (whole r 1000 (by decide)),maxBackoffMs.getD (whole r 60000 (by decide))⟩

def maxTime : Nat := 8640000000000000

-- What a clock can read: the time of a valid Date.
structure Instant where
  ms : Int
  valid : ms.natAbs ≤ maxTime

-- new Date(value).getTime(); an invalid Date has none.
def timeOf (value : Rat) : Option Int := if -(maxTime : Rat) ≤ value ∧ value ≤ maxTime then some (trunc value) else none

def backoffCap (settings : RetrySettings r) (attempts : Nat) : Number :=
  (settings.backoffMs.val.map fun backoffMs => r.round (backoffMs * 2 ^ (attempts - 1))).min settings.maxBackoffMs.val

def retryDelay (settings : RetrySettings r) (attempts : Nat) (random : Rat) : Number :=
  ((backoffCap settings attempts).map fun cap => (⌊jittered r cap random⌋ : Rat)).min settings.maxBackoffMs.val

-- nextRetry; an invalid Date is as null to the repository, which only compares its time.
def retryTime (settings : RetrySettings r) (attempts : Nat) (random : Rat) (now : Instant) : Option Int :=
  match retryDelay settings attempts random with
  | .finite delay => timeOf (r.round (now.ms + delay))
  | _ => none

-- handleDeliveryFailure with its two clock readings: that of nextRetry, and that of markFailed.
def failDelivery (settings : RetrySettings r) (rows : List (OutboxEvent Payload)) (event : OutboxEvent Payload)
    (result : OutboxPublishResult) (random : Rat) (computed marked : Instant) :
    List (OutboxEvent Payload) × OutboxPublishResult :=
  let attempts := event.attempts + 1
  if settings.maxAttempts.atMost attempts then
    let (rows,deadLettered) := markFailed rows event.id none event.lockedBy marked.ms
    (rows,if 0 < deadLettered then {result with deadLettered := result.deadLettered + 1} else result)
  else
    let (rows,retried) := markFailed rows event.id (retryTime settings attempts random computed) event.lockedBy marked.ms
    (rows,if 0 < retried then {result with retried := result.retried + 1} else result)

-- Dead-lettered when the attempts are used up, and otherwise pending with a retry time and counted as retried.
def Classified (settings : RetrySettings r) (event : OutboxEvent Payload) (before : OutboxPublishResult)
    (after : List (OutboxEvent Payload) × OutboxPublishResult) : Prop :=
  ∃ row, lookup OutboxEvent.id event.id after.1 = some row ∧
    (row.status = .failed ↔ settings.maxAttempts.atMost (event.attempts + 1) = true) ∧
    (settings.maxAttempts.atMost (event.attempts + 1) = false →
      row.status = .pending ∧ row.nextRetryAt.isSome = true ∧ after.2.retried = before.retried + 1)

-- The jittered backoff outlasts what the clock advances between the readings, and the retry time is a Date.
def outlasts (settings : RetrySettings r) (attempts : Nat) (random : Rat) (computed marked : Instant) : Bool :=
  match backoffCap settings attempts with
  | .finite cap => decide ((marked.ms - computed.ms + 1 : Int) ≤ jittered r cap random) &&
      decide (computed.ms + ⌊jittered r cap random⌋ ≤ maxTime)
  | _ => false

theorem backoffCap_rounded (settings : RetrySettings r) (attempts : Nat) :
    (backoffCap settings attempts).Rounded r := by
  refine min_rounded ?_ settings.maxBackoffMs.property
  cases settings.backoffMs.val with
  | finite backoffMs => exact r.again _
  | infinity | negInfinity | nan => trivial

theorem timeOf_whole {n : Int} (low : -(maxTime : Int) ≤ n) (high : n ≤ maxTime) : timeOf (r.round n) = some n := by
  have small : n.natAbs ≤ 2 ^ 53 := by
    have bound : maxTime ≤ 2 ^ 53 := by decide
    omega
  rw [r.integers n small,timeOf,trunc_int,if_pos]
  exact ⟨by exact_mod_cast low,by exact_mod_cast high⟩

theorem timeOf_later {value : Rat} {n : Int} (small : n.natAbs ≤ 2 ^ 53) (below : value ≤ n)
    (dated : timeOf (r.round value) = some time) : time ≤ n := by
  unfold timeOf at dated
  split at dated
  · cases dated
    exact trunc_le (round_le_int small below)
  · cases dated

theorem timeOf_beyond {n : Int} (beyond : (maxTime : Int) < n) : timeOf (r.round n) = none := by
  have above : ((maxTime + 1 : Int) : Rat) ≤ r.round n := by
    refine int_le_round (by decide) ?_
    exact_mod_cast beyond
  unfold timeOf
  rw [if_neg]
  rintro ⟨_,below⟩
  have order : ((maxTime + 1 : Int) : Rat) ≤ ((maxTime : Int) : Rat) := above.trans (by simpa using below)
  have order' : (maxTime + 1 : Int) ≤ maxTime := by exact_mod_cast order
  omega

-- The delay is never more than the whole milliseconds of the backoff, and is that where it outlasts the clock.
theorem retryDelay_finite (settings : RetrySettings r) (drawn : 0 ≤ random ∧ random < 1)
    (capped : backoffCap settings attempts = .finite cap) :
    ∃ delay, retryDelay settings attempts random = .finite delay ∧ delay ≤ ⌊jittered r cap random⌋ ∧
      (1 ≤ jittered r cap random → delay = ⌊jittered r cap random⌋) := by
  have rounded : r.round cap = cap := by
    have held := backoffCap_rounded settings attempts
    rw [capped] at held
    exact held
  obtain ⟨_,below,_,limit⟩ := min_finite capped
  unfold retryDelay
  rw [capped]
  rcases limit with unlimited | ⟨most,limited⟩
  · exact ⟨⌊jittered r cap random⌋,by rw [unlimited]; rfl,le_refl _,fun _ => rfl⟩
  · refine ⟨Min.min (⌊jittered r cap random⌋ : Rat) most,by rw [limited]; rfl,min_le_left _ _,?_⟩
    intro long
    refine min_eq_left ?_
    calc (⌊jittered r cap random⌋ : Rat) ≤ jittered r cap random := Int.floor_le _
      _ ≤ cap := jittered_le rounded drawn long
      _ ≤ most := below most limited

-- An infinite cap needs an infinite maximum, and no Date is that late.
theorem retryTime_unbounded (settings : RetrySettings r) (capped : ∀ cap, backoffCap settings attempts ≠ .finite cap) :
    retryTime settings attempts random computed = none := by
  have unlimited : ∀ delay, retryDelay settings attempts random ≠ .finite delay := by
    intro delay found
    obtain ⟨sides,_,_,limit⟩ := min_finite found
    rcases sides with left | right
    · cases its : backoffCap settings attempts with
      | finite cap => exact capped cap its
      | infinity | negInfinity | nan => rw [its] at left; cases left
    · unfold backoffCap at capped
      unfold retryDelay backoffCap at found
      rw [right] at capped found
      cases base : settings.backoffMs.val with
      | finite backoffMs => exact capped _ (by rw [base]; rfl)
      | infinity => exact capped _ (by rw [base]; rfl)
      | negInfinity | nan => rw [base] at found; cases found
  unfold retryTime
  split
  · rename_i delay found
    exact absurd found (unlimited delay)
  · rfl

-- The retry time is in the future at the second reading exactly where the backoff outlasts the clock.
theorem retryTime_later (settings : RetrySettings r) (attempts : Nat) (drawn : 0 ≤ random ∧ random < 1) (clock : computed.ms ≤ marked.ms) :
    ((retryTime settings attempts random computed).filter (marked.ms < ·)).isSome =
      outlasts settings attempts random computed marked := by
  cases capped : backoffCap settings attempts with
  | infinity | negInfinity | nan =>
      rw [retryTime_unbounded settings (by rw [capped]; intro cap same; cases same),outlasts,capped]
      rfl
  | finite cap =>
      obtain ⟨delay,found,short,long⟩ := retryDelay_finite settings drawn capped
      have timed : retryTime settings attempts random computed = timeOf (r.round (computed.ms + delay)) := by
        unfold retryTime
        rw [found]
      have lasting : outlasts settings attempts random computed marked =
          (decide ((marked.ms - computed.ms + 1 : Int) ≤ jittered r cap random) &&
            decide (computed.ms + ⌊jittered r cap random⌋ ≤ maxTime)) := by
        unfold outlasts
        rw [capped]
      rw [timed,lasting]
      generalize jittered r cap random = backoff at short long ⊢
      have bounds := computed.valid
      have bounds' := marked.valid
      by_cases lasts : (marked.ms - computed.ms + 1 : Int) ≤ backoff
      · have enough : marked.ms - computed.ms + 1 ≤ ⌊backoff⌋ := Int.le_floor.mpr (by exact_mod_cast lasts)
        have many : (1 : Rat) ≤ backoff := by
          have one : (1 : Int) ≤ marked.ms - computed.ms + 1 := by omega
          have one' : ((1 : Int) : Rat) ≤ ((marked.ms - computed.ms + 1 : Int) : Rat) := by exact_mod_cast one
          simpa using one'.trans (by exact_mod_cast lasts)
        rw [long many,show (computed.ms : Rat) + (⌊backoff⌋ : Rat) = ((computed.ms + ⌊backoff⌋ : Int) : Rat) by push_cast; rfl]
        by_cases dated : computed.ms + ⌊backoff⌋ ≤ maxTime
        · rw [timeOf_whole (by omega) dated]
          have later : marked.ms < computed.ms + ⌊backoff⌋ := by omega
          rw [decide_eq_true lasts,decide_eq_true dated]
          simp [Option.filter,later]
        · rw [timeOf_beyond (by omega),decide_eq_false dated,Bool.and_false]
          rfl
      · have few : ⌊backoff⌋ ≤ marked.ms - computed.ms := by
          have less : backoff < ((marked.ms - computed.ms + 1 : Int) : Rat) := lt_of_not_ge (by exact_mod_cast lasts)
          have floored := Int.floor_lt.mpr less
          omega
        have past : (computed.ms : Rat) + delay ≤ marked.ms := by
          have few' : (⌊backoff⌋ : Rat) ≤ (marked.ms : Rat) - computed.ms := by exact_mod_cast few
          linarith
        rw [decide_eq_false lasts,Bool.false_and]
        cases dated : timeOf (r.round (computed.ms + delay)) with
        | none => rfl
        | some time =>
            have small : marked.ms.natAbs ≤ 2 ^ 53 := by
              have bound : maxTime ≤ 2 ^ 53 := by decide
              omega
            have before := timeOf_later small past dated
            have missed : ¬ marked.ms < time := by omega
            simp [Option.filter,missed]

-- What a failed delivery leaves of an owned row.
theorem markFailed_owned {rows : List (OutboxEvent Payload)} (nextRetryAt : Option Int) (now : Int)
    (keyed : Keyed OutboxEvent.id rows) (member : event ∈ rows) :
    lookup OutboxEvent.id event.id (markFailed rows event.id nextRetryAt event.lockedBy now).1 =
      some (event.fail nextRetryAt now) ∧ 0 < (markFailed rows event.id nextRetryAt event.lockedBy now).2 := by
  have own : owned event.id event.lockedBy event = true := by simp [owned]
  have keyed' : Keyed OutboxEvent.id (updateWhere (owned event.id event.lockedBy) (·.fail nextRetryAt now) rows) := by
    rw [Keyed,updateWhere_keys]
    · exact keyed
    · intro row
      rfl
  refine ⟨?_,?_⟩
  · exact lookup_of_member keyed' (mem_updateWhere_self member own)
  · exact List.length_pos_of_mem (List.mem_filter.mpr ⟨member,own⟩)

-- A failed delivery is classified by its attempts exactly where they are used up or the backoff outlasts the clock.
theorem classified_iff {rows : List (OutboxEvent Payload)} (settings : RetrySettings r) (keyed : Keyed OutboxEvent.id rows)
    (member : event ∈ rows) (result : OutboxPublishResult) (drawn : 0 ≤ random ∧ random < 1)
    (clock : computed.ms ≤ marked.ms) :
    Classified settings event result (failDelivery settings rows event result random computed marked) ↔
      settings.maxAttempts.atMost (event.attempts + 1) = true ∨
        outlasts settings (event.attempts + 1) random computed marked = true := by
  have reached : ((event.attempts + 1 : Nat) : Rat) = event.attempts + 1 := by push_cast; rfl
  unfold failDelivery
  cases used : settings.maxAttempts.atMost (event.attempts + 1) with
  | true =>
      obtain ⟨found,_⟩ := markFailed_owned none marked.ms keyed member
      simp only [reached,used,if_true,true_or,iff_true]
      refine ⟨_,found,?_,?_⟩
      · simp [OutboxEvent.fail,used]
      · intro unused
        cases used.symm.trans unused
  | false =>
      obtain ⟨found,one⟩ := markFailed_owned (retryTime settings (event.attempts + 1) random computed) marked.ms keyed member
      have later := retryTime_later settings (event.attempts + 1) drawn clock
      simp only [reached,used,Bool.false_eq_true,if_false,if_pos one,false_or]
      rw [← later]
      constructor
      · rintro ⟨row,same,_,pending⟩
        rw [found,Option.some.injEq] at same
        have its := (pending used).2.1
        rw [← same] at its
        exact its
      · intro future
        refine ⟨_,found,?_,fun _ => ⟨?_,future,rfl⟩⟩
        · simp [OutboxEvent.fail,future,used]
        · simp [OutboxEvent.fail,future]

-- With whole settings and exact arithmetic this is the retry time of a batch.
def settingsOf (options : OutboxServiceOptions) : RetrySettings .exact :=
  ⟨.finite options.maxAttempts,⟨.finite options.backoffMs,rfl⟩,⟨.finite options.maxBackoffMs,rfl⟩⟩

theorem jittered_exact (cap random : Nat) :
    ⌊jittered .exact cap (random / 2 ^ 53)⌋ = (cap * (2 ^ 53 + random) / 2 ^ 54 : Nat) := by
  have same : jittered .exact cap (random / 2 ^ 53) = ((cap * (2 ^ 53 + random) : Nat) : Rat) / ((2 ^ 54 : Nat) : Rat) := by
    simp only [jittered,Rounding.exact]
    push_cast
    ring
  rw [same,Rat.floor_natCast_div_natCast]
  push_cast
  rfl

theorem retryTime_exact (options : OutboxServiceOptions) (attempts random : Nat) (now : Instant)
    (dated : nextRetry options attempts random now.ms ≤ maxTime) :
    retryTime (settingsOf options) attempts (random / 2 ^ 53) now = some (nextRetry options attempts random now.ms) := by
  have capped : backoffCap (settingsOf options) attempts =
      .finite (Min.min (options.backoffMs * 2 ^ (attempts - 1)) options.maxBackoffMs : Nat) := by
    simp [backoffCap,settingsOf,Number.map,Number.min,Rounding.exact]
  have delayed : retryDelay (settingsOf options) attempts (random / 2 ^ 53) =
      .finite (Min.min (Min.min (options.backoffMs * 2 ^ (attempts - 1)) options.maxBackoffMs * (2 ^ 53 + random) / 2 ^ 54)
        options.maxBackoffMs : Nat) := by
    rw [retryDelay,capped]
    simp only [Number.map,jittered_exact]
    generalize Min.min (options.backoffMs * 2 ^ (attempts - 1)) options.maxBackoffMs * (2 ^ 53 + random) / 2 ^ 54 = delay
    simp [settingsOf,Number.min]
  have low := now.valid
  rw [retryTime,delayed]
  unfold nextRetry jitteredDelay at dated ⊢
  dsimp only at dated ⊢
  generalize Min.min _ options.maxBackoffMs = delay at dated ⊢
  have sum : (now.ms : Rat) + ((delay : Nat) : Rat) = ((now.ms + (delay : Int) : Int) : Rat) := by push_cast; rfl
  rw [sum]
  exact timeOf_whole (by omega) dated

section Deliveries

def claimedEvent : OutboxEvent Unit := ⟨"o1",none,"invoice.paid",(),.processing,0,none,some "t1",some 300000,none,0⟩

def defaults : RetrySettings .exact := .create none none none

def oneMillisecond : RetrySettings .exact := .create none (some (whole .exact 1 (by decide))) none

def epoch : Instant := ⟨0,by decide⟩

theorem classified_first :
    Classified defaults claimedEvent ⟨0,0,0⟩ (failDelivery defaults [claimedEvent] claimedEvent ⟨0,0,0⟩ 0 epoch epoch) :=
  (classified_iff defaults (by decide) (List.mem_singleton_self _) ⟨0,0,0⟩ ⟨le_refl _,by norm_num⟩ (le_refl _)).mpr
    (.inr (by decide +kernel))

-- Half a millisecond is no whole one, and the row is dead-lettered after its first failure.
theorem dead_lettered_early :
    ¬ Classified oneMillisecond claimedEvent ⟨0,0,0⟩
      (failDelivery oneMillisecond [claimedEvent] claimedEvent ⟨0,0,0⟩ 0 epoch epoch) ∧
      (lookup OutboxEvent.id "o1" (failDelivery oneMillisecond [claimedEvent] claimedEvent ⟨0,0,0⟩ 0 epoch epoch).1).map
        (·.status) = some .failed ∧
      (failDelivery oneMillisecond [claimedEvent] claimedEvent ⟨0,0,0⟩ 0 epoch epoch).2 = ⟨0,1,0⟩ ∧
      oneMillisecond.maxAttempts = .finite 5 := by
  have failed : (lookup OutboxEvent.id "o1"
      (failDelivery oneMillisecond [claimedEvent] claimedEvent ⟨0,0,0⟩ 0 epoch epoch).1).map (·.status) = some .failed := by
    decide +kernel
  refine ⟨?_,failed,by decide +kernel,rfl⟩
  rintro ⟨row,found,used,_⟩
  rw [show claimedEvent.id = "o1" from rfl] at found
  rw [found,Option.map_some,Option.some.injEq] at failed
  have reached := used.mp failed
  revert reached
  decide +kernel

end Deliveries

end Payable.Outbox
