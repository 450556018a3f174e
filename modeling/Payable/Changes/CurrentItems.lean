import Payable.Changes.Holders
import Payable.Changes.SingleApplication

namespace Payable.Changes
open Checked Domain Runs Tables
open Migrations (Claim MigrationError tenantKey)
open Subscriptions (Commit Store Subscription SubscriptionItem storedItems updateItem)

-- A call of handle acquires its claim while the items that its check has read are all that
-- are stored.
def readStands (s : State) : Action → Bool
  | .acquire caller _ _ _ =>
    match s.applies caller with
    | some ⟨_,.acquiring application items⟩ =>
      decide (items.Perm (storedItems s.subscriptions.store application.subscription.id))
    | _ => true
  | _ => true

def ReadStands (s : State) (action : Action) : Prop := readStands s action = true

instance (s : State) (action : Action) : Decidable (ReadStands s action) := inferInstanceAs (Decidable (_ = _))

def Phase.preview : Phase → Option SubscriptionChangePreview
  | .resolving preview | .binding preview _ => some preview
  | .checkingClaim application | .checkingMigration application | .beginning application | .executing application
  | .acquiring application _ | .calling application _ | .awaiting application _ | .persisting application _ _ =>
    some application.preview
  | .returned _ | .thrown _ | .crashed | .loading => none

-- What a call of handle knows about the preview it has loaded.
structure Fine (s : State) (apply : Apply) : Prop where
  known : ∀ preview, apply.phase.preview = some preview → s.previews apply.input.previewToken = some preview
  read : ∀ application items, apply.phase = .acquiring application items →
    (items.map changeItem).Perm application.preview.currentItems
  standing : ∀ application ownerToken, apply.phase = .calling application ownerToken →
    ((storedItems s.subscriptions.store application.subscription.id).map changeItem).Perm application.preview.currentItems

-- The items that the provider will be called for stay as they were checked, since the call
-- is alone in holding their claim.
structure Standing (deps : Deps) (s : State) : Prop where
  lone : Lone deps s
  tenant : SameTenant deps s
  previews : ∀ previewToken preview, s.previews previewToken = some preview → (preview.currentItems.map (·.itemId)).Nodup
  fine : ∀ caller apply, s.applies caller = some apply → Fine s apply
  sent : ∀ entry ∈ s.sent, ∃ preview, s.previews entry.previewToken = some preview ∧
    (entry.stored.map changeItem).Perm preview.currentItems

theorem fine_over {s : State} {phase : Phase} (over_ : phase.preview = none) : Fine s ⟨input,phase⟩ := by
  refine ⟨?_,?_,?_⟩
  · intro preview its
    rw [over_] at its
    cases its
  · intro application items same
    cases same
    cases over_
  · intro application ownerToken same
    cases same
    cases over_

-- A phase before the check.
theorem fine_early {s : State} {phase : Phase} (its : phase.preview = some preview)
    (known : s.previews input.previewToken = some preview) (early : phase.sends = false) : Fine s ⟨input,phase⟩ := by
  refine ⟨?_,?_,?_⟩
  · intro other same
    cases its.symm.trans same
    exact known
  · intro application items same
    cases same
    cases early
  · intro application ownerToken same
    cases same
    cases early

theorem fine_same {s next : State} {apply : Apply} (subscriptions : next.subscriptions = s.subscriptions)
    (previews : next.previews = s.previews) (fine : Fine s apply) : Fine next apply := by
  refine ⟨?_,fine.read,?_⟩
  · rw [previews]
    exact fine.known
  · rw [subscriptions]
    exact fine.standing

theorem fine_later {s next : State} {apply : Apply} (fine : Fine s apply) (lone : Lone deps s) (moves : Moves deps s next)
    (previews : ∀ previewToken preview, s.previews previewToken = some preview → next.previews previewToken = some preview)
    (before : s.applies caller = some apply) (after : next.applies caller = some apply) : Fine next apply := by
  refine ⟨fun preview its => previews _ _ (fine.known preview its),fine.read,?_⟩
  intro application ownerToken its
  have held : apply.phase.held = some application := by rw [its]; rfl
  rw [moves_stored (.apply caller) lone moves ⟨apply,application,before,held,rfl⟩
    ⟨apply,application,after,held,rfl⟩]
  exact fine.standing application ownerToken its

theorem standing_step {s next : State} (standing : Standing deps s) (moves : Moves deps s next) (tenant : SameTenant deps next)
    (previews : next.previews = s.previews)
    (applies : ∀ caller apply, next.applies caller = some apply → s.applies caller = some apply ∨ Fine next apply)
    (sent : next.sent = s.sent) : Standing deps next := by
  refine ⟨lone_moves standing.lone moves,tenant,previews ▸ standing.previews,?_,?_⟩
  · intro caller apply live
    rcases applies caller apply live with old | fine
    · exact fine_later (standing.fine caller apply old) standing.lone moves (fun _ _ known => previews ▸ known) old live
    · exact fine
  · rw [sent,previews]
    exact standing.sent

theorem applies_fine {s next : State} (applies : next.applies = Function.update s.applies caller (some ⟨input,phase⟩))
    (fine : Fine next ⟨input,phase⟩) (other : Nat) (apply : Apply) (live : next.applies other = some apply) :
    s.applies other = some apply ∨ Fine next apply := by
  rw [applies] at live
  by_cases mine : other = caller
  · subst mine
    cases (Function.update_self other _ s.applies).symm.trans live
    exact .inr fine
  · exact .inl ((Function.update_of_ne mine _ _).symm.trans live)

-- A call of handle moves on; whatever claims it holds it held before.
theorem standing_put {s next : State} (standing : Standing deps s) (subscriptions : next.subscriptions = s.subscriptions)
    (previews : next.previews = s.previews) (sent : next.sent = s.sent)
    (applies : next.applies = Function.update s.applies caller (some ⟨input,phase⟩))
    (held : ∀ application, phase.held = some application →
      ∃ before, s.applies caller = some before ∧ before.phase.held = some application)
    (fine : Fine s ⟨input,phase⟩) : Standing deps next := by
  have moves : Moves deps s next := by
    refine apply_quiet ?_ ?_ ?_ applies held
    all_goals rw [subscriptions]
    exact fun _ member => member
  refine standing_step standing moves ?_ previews (applies_fine applies (fine_same subscriptions previews fine)) sent
  unfold SameTenant
  rw [subscriptions]
  exact standing.tenant

theorem standing_idle {s next : State} (standing : Standing deps s) (subscriptions : next.subscriptions = s.subscriptions)
    (previews : next.previews = s.previews) (sent : next.sent = s.sent)
    (applies : next.applies = Function.update s.applies caller (some ⟨input,phase⟩)) (over_ : phase.preview = none) :
    Standing deps next := by
  refine standing_put standing subscriptions previews sent applies ?_ (fine_over over_)
  intro application held
  cases phase <;> cases held <;> cases over_

theorem standing_same {s next : State} (standing : Standing deps s) (subscriptions : next.subscriptions = s.subscriptions)
    (previews : next.previews = s.previews) (sent : next.sent = s.sent) (applies : next.applies = s.applies) :
    Standing deps next := by
  have moves : Moves deps s next := by
    refine .quiet (by rw [subscriptions]) (by rw [subscriptions]; exact fun _ member => member) ?_
    intro holder its holding
    cases holder with
    | mutation caller =>
        obtain ⟨phase,mutation,live,holding⟩ := holding
        exact ⟨phase,mutation,subscriptions ▸ live,holding⟩
    | apply caller =>
        obtain ⟨apply,application,live,holding⟩ := holding
        exact ⟨apply,application,applies ▸ live,holding⟩
  refine standing_step standing moves ?_ previews (fun _ _ live => .inl (applies ▸ live)) sent
  unfold SameTenant
  rw [subscriptions]
  exact standing.tenant

theorem read_fine {s : State} {phase next : Phase} (fine : Fine s ⟨input,phase⟩)
    (read : phase.read deps s input migrating = some next) : Fine s ⟨input,next⟩ := by
  cases phase with
  | loading =>
      cases read
      split
      · exact fine_over rfl
      · rename_i preview loaded
        refine fine_early rfl ?_ rfl
        unfold loadPreview at loaded
        split at loaded
        · cases loaded
        · rename_i known
          split at loaded
          · cases loaded
          · split at loaded <;> cases loaded
            exact known
  | resolving preview =>
      cases read
      split
      · exact fine_over rfl
      · exact fine_early rfl (fine.known preview rfl) rfl
  | binding preview subscription =>
      cases read
      split
      · exact fine_over rfl
      · exact fine_early rfl (fine.known preview rfl) rfl
  | checkingClaim application | checkingMigration application =>
      cases read
      split
      · exact fine_over rfl
      · exact fine_early rfl (fine.known application.preview rfl) rfl
  | beginning | executing | acquiring | calling | awaiting | persisting | returned | thrown | crashed => cases read

theorem read_unheld {s : State} {phase next : Phase} (read : phase.read deps s input migrating = some next) :
    next.held = none := by
  cases phase with
  | loading | resolving | binding | checkingClaim | checkingMigration =>
      cases read
      split <;> rfl
  | beginning | executing | acquiring | calling | awaiting | persisting | returned | thrown | crashed => cases read

theorem standing_begun {s next : State} (standing : Standing deps s)
    (live : s.applies caller = some ⟨input,.beginning application⟩)
    (moved : begin deps s caller input application = some next) : Standing deps next := by
  dsimp only [begin] at moved
  split at moved
  · cases moved
    exact standing_idle standing rfl rfl rfl rfl rfl
  · split at moved
    · cases moved
      exact standing_idle standing rfl rfl rfl rfl rfl
    · split at moved
      · cases moved
        exact standing_idle standing rfl rfl rfl rfl rfl
      · obtain ⟨idempotency,_,rfl⟩ := Option.map_eq_some_iff.mp moved
        refine standing_put standing rfl rfl rfl rfl (by intro _ held; cases held) ?_
        exact fine_early rfl ((standing.fine caller _ live).known application.preview rfl) rfl

-- What the check lets pass is the preview's items.
theorem standing_checked {s : State} (standing : Standing deps s)
    (live : s.applies caller = some ⟨input,.executing application⟩) :
    Standing deps (s.put caller ⟨input,checked deps s application⟩) := by
  have known := (standing.fine caller _ live).known application.preview rfl
  unfold checked
  split
  · rename_i fits
    refine standing_put standing rfl rfl rfl rfl (by intro _ held; cases held) ⟨?_,?_,?_⟩
    · intro preview its
      cases its
      exact known
    · intro its items same
      cases same
      exact sameSubscriptionItems_perm (standing.previews _ _ known) fits
    · intro its ownerToken same
      cases same
  · exact standing_idle standing rfl rfl rfl rfl rfl

theorem standing_called {s : State} (standing : Standing deps s)
    (live : s.applies caller = some ⟨input,.calling application ownerToken⟩) (its : entry.previewToken = input.previewToken)
    (stored : entry.stored = storedItems s.subscriptions.store application.subscription.id) :
    Standing deps {s.put caller ⟨input,.awaiting application ownerToken⟩ with sent := s.sent ++ [entry]} := by
  have fine := standing.fine caller _ live
  have known := fine.known application.preview rfl
  have put : Standing deps (s.put caller ⟨input,.awaiting application ownerToken⟩) := by
    refine standing_put standing rfl rfl rfl rfl ?_ (fine_early rfl known rfl)
    intro held same
    exact ⟨_,live,same⟩
  refine ⟨⟨put.lone.covered,put.lone.alone⟩,put.tenant,put.previews,?_,?_⟩
  · intro other apply there
    have fine := put.fine other apply there
    exact ⟨fine.known,fine.read,fine.standing⟩
  · intro late member
    rcases List.mem_append.mp member with old | new
    · exact standing.sent late old
    · cases List.mem_singleton.mp new
      refine ⟨application.preview,its ▸ known,?_⟩
      rw [stored]
      exact fine.standing application ownerToken rfl

theorem standing_acquired {s : State} (standing : Standing deps s)
    (live : s.applies caller = some ⟨input,.acquiring application items⟩)
    (stands : items.Perm (storedItems s.subscriptions.store application.subscription.id)) :
    Standing deps (commits s caller input commit (acquired deps s application ownerToken uuid)
      (fun error => .thrown (.mutation error)) (.thrown .storage)) := by
  have fine := standing.fine caller _ live
  rcases commits_cases s caller input commit (acquired deps s application ownerToken uuid)
    (fun error => .thrown (.mutation error)) (.thrown .storage) with
    ⟨phase,same,its⟩ | ⟨store,next,ran,same⟩
  · rw [same]
    refine standing_idle standing rfl rfl rfl rfl ?_
    rcases its with rfl | ⟨_,rfl⟩ <;> rfl
  · obtain ⟨rfl,stored,taken⟩ := acquired_claims ran
    rcases same with same | same <;> rw [same]
    · refine standing_step standing ?_ standing.tenant rfl (applies_fine rfl ⟨?_,?_,?_⟩) rfl
      · refine moves_acquired (.apply caller) taken rfl rfl stored ?_
        intro other its holding
        rcases holds_applies (s := s) holding rfl rfl with ⟨rfl,_,now_,here⟩ | ⟨_,old⟩
        · cases now_
          exact .inr ⟨rfl,here.symm⟩
        · exact .inl old
      · intro preview its
        cases its
        exact fine.known application.preview rfl
      · intro its items same
        cases same
      · intro its token same
        cases same
        change ((storedItems store application.subscription.id).map changeItem).Perm _
        rw [Subscriptions.storedItems_items stored]
        exact (stands.symm.map changeItem).trans (fine.read application items rfl)
    · refine standing_step standing ?_ standing.tenant rfl (applies_fine rfl (fine_over rfl)) rfl
      refine apply_quiet rfl stored ?_ rfl (by intro _ held; cases held)
      intro claim member
      exact taken.2 ▸ List.mem_append_left _ member

theorem standing_persisted {s : State} (standing : Standing deps s)
    (live : s.applies caller = some ⟨input,.persisting application ownerToken providerStatus⟩) :
    Standing deps (commits s caller input commit (persisted deps s application ownerToken providerStatus)
      (fun _ => ambiguous) ambiguous) := by
  have gave : ∀ store phase next, persisted deps s application ownerToken providerStatus = .ok (store,next) →
      phase.held = none → Moves deps s ((s.put caller ⟨input,phase⟩).withStore store) := by
    intro store phase next ran idle
    obtain ⟨_,ids,others⟩ := persisted_writes (tenantKey deps.tenantId) ran
    refine .gave (.apply caller) application.subscription.id ⟨_,application,live,rfl,rfl⟩
      (fun its apart => (others its apart).1) ids ?_ ?_
    · rintro its apart ⟨claim,member,locks⟩
      exact ⟨claim,(others its apart).2 claim member locks,locks⟩
    · intro other its holding
      rcases holds_applies (s := s) holding rfl rfl with ⟨_,_,now_,_⟩ | ⟨apart,old⟩
      · rw [idle] at now_
        cases now_
      · exact ⟨old,apart⟩
  rcases commits_cases s caller input commit (persisted deps s application ownerToken providerStatus)
    (fun _ => ambiguous) ambiguous with ⟨phase,same,its⟩ | ⟨store,next,ran,same⟩
  · rw [same]
    refine standing_idle standing rfl rfl rfl rfl ?_
    rcases its with rfl | ⟨_,rfl⟩ <;> rfl
  · obtain ⟨⟨updated,rfl⟩,_⟩ := persisted_writes "" ran
    rcases same with same | same <;> rw [same]
    · exact standing_step standing (gave store _ _ ran rfl) standing.tenant rfl (applies_fine rfl (fine_over rfl)) rfl
    · exact standing_step standing (gave store _ _ ran rfl) standing.tenant rfl (applies_fine rfl (fine_over rfl)) rfl

theorem standing_mutated {s : State} {subscriptions : Subscriptions.State} (standing : Standing deps s)
    (mutation : isMutation deps action = true)
    (moved : Subscriptions.advance compare s.subscriptions action = some subscriptions) :
    Standing deps {s with subscriptions := subscriptions} :=
  standing_step standing (mutate_moves standing.tenant mutation moved) (mutate_tenant standing.tenant mutation moved) rfl
    (fun _ _ live => .inl live) rfl

-- A preview is saved under a token that none had.
theorem standing_previewed {s : State} (standing : Standing deps s) (fresh : s.previews previewToken = none)
    (ids : (preview.currentItems.map (·.itemId)).Nodup) :
    Standing deps {s with previews := Function.update s.previews previewToken (some preview)} := by
  have kept : ∀ its known, s.previews its = some known →
      Function.update s.previews previewToken (some preview) its = some known := by
    intro its known found
    refine (Function.update_of_ne ?_ _ _).trans found
    rintro rfl
    cases fresh.symm.trans found
  refine ⟨⟨standing.lone.covered,standing.lone.alone⟩,standing.tenant,?_,?_,?_⟩
  · intro its known found
    by_cases same : its = previewToken
    · subst same
      cases (Function.update_self its _ s.previews).symm.trans found
      exact ids
    · exact standing.previews its known ((Function.update_of_ne same _ _).symm.trans found)
  · intro caller apply live
    have fine := standing.fine caller apply live
    exact ⟨fun known its => kept _ known (fine.known known its),fine.read,fine.standing⟩
  · intro entry member
    obtain ⟨known,found,same⟩ := standing.sent entry member
    exact ⟨known,kept _ known found,same⟩

theorem standing_preserved {s next : State} (standing : Standing deps s) (stands : ReadStands s action)
    (moved : advance deps s action = some next) : Standing deps next := by
  cases action with
  | mutate action =>
      simp only [advance] at moved
      split at moved
      · rename_i mutation
        obtain ⟨subscriptions,did,rfl⟩ := Option.map_eq_some_iff.mp moved
        exact standing_mutated standing mutation did
      · cases moved
  | preview previewToken subscription items input calculatedAt =>
      simp only [advance] at moved
      split at moved
      · rename_i guards
        obtain ⟨preview,calculated,rfl⟩ := Option.map_eq_some_iff.mp moved
        simp only [Bool.and_eq_true,Option.isNone_iff_eq_none,decide_eq_true_eq] at guards
        exact standing_previewed standing guards.1.1 (calculatePreview_ids guards.1.2 calculated)
      · cases moved
  | handle caller input =>
      simp only [advance] at moved
      split at moved <;> cases moved
      exact standing_idle standing rfl rfl rfl rfl rfl
  | read caller migrating =>
      simp only [advance,Option.bind_eq_bind,Option.bind_eq_some_iff] at moved
      obtain ⟨⟨input,phase⟩,live,after,read,same⟩ := moved
      cases same
      refine standing_put standing rfl rfl rfl rfl ?_ (read_fine (standing.fine caller _ live) read)
      intro application held
      cases (read_unheld read).symm.trans held
  | begin caller =>
      simp only [advance] at moved
      split at moved
      · rename_i live
        exact standing_begun standing live moved
      · cases moved
  | store caller | compute caller =>
      obtain ⟨idempotency,_,rfl⟩ := Option.map_eq_some_iff.mp moved
      exact standing_same standing rfl rfl rfl rfl
  | check caller =>
      simp only [advance] at moved
      split at moved
      · rename_i live
        split at moved <;> cases moved
        exact standing_checked standing live
      · cases moved
  | acquire caller ownerToken uuid commit =>
      simp only [advance] at moved
      split at moved
      · rename_i input application items live
        split at moved <;> cases moved
        have drawn : Standing deps {s with subscriptions := {s.subscriptions with
            drawn := [ownerToken,uuid] ++ s.subscriptions.drawn}} :=
          standing_step standing (.quiet rfl (fun _ member => member) (fun holder _ holding => by cases holder <;> exact holding))
            standing.tenant rfl (fun _ _ live => .inl live) rfl
        refine standing_acquired drawn live ?_
        simpa only [ReadStands,readStands,live,decide_eq_true_eq] using stands
      · cases moved
  | call caller =>
      simp only [advance] at moved
      split at moved <;> cases moved
      rename_i live
      exact standing_called standing live rfl rfl
  | replied caller providerStatus =>
      simp only [advance] at moved
      split at moved <;> cases moved
      rename_i input application ownerToken live
      cases providerStatus with
      | none => exact standing_idle standing rfl rfl rfl rfl rfl
      | some providerStatus =>
          refine standing_put standing rfl rfl rfl rfl (fun _ held => ⟨_,live,held⟩) ?_
          exact fine_early rfl ((standing.fine caller _ live).known application.preview rfl) rfl
  | persist caller commit =>
      simp only [advance] at moved
      split at moved <;> cases moved
      rename_i live
      exact standing_persisted standing live
  | settle caller =>
      simp only [advance] at moved
      split at moved
      · obtain ⟨idempotency,_,rfl⟩ := Option.map_eq_some_iff.mp moved
        exact standing_same standing rfl rfl rfl rfl
      · obtain ⟨idempotency,_,rfl⟩ := Option.map_eq_some_iff.mp moved
        exact standing_same standing rfl rfl rfl rfl
      · cases moved
  | crash caller =>
      simp only [advance,Option.bind_eq_bind,Option.bind_eq_some_iff] at moved
      obtain ⟨⟨input,phase⟩,_,same⟩ := moved
      cases same
      exact standing_idle standing rfl rfl rfl rfl rfl
  | tick elapsed =>
      cases moved
      exact standing_same standing rfl rfl rfl rfl

theorem reached_standing {s : State} (path : Reached (system deps) ReadStands s) : Standing deps s := by
  refine path.invariant (Standing deps) ?_ ?_
  · intro u ⟨⟨_,_,resting⟩,_,_,unknown,idle,unsent⟩
    refine ⟨Locks.exclusive_free ?_,?_,?_,?_,?_⟩
    · intro holder its holding
      cases holder with
      | mutation caller =>
          obtain ⟨_,_,live,_⟩ := holding
          cases (resting caller).symm.trans live
      | apply caller =>
          obtain ⟨_,_,live,_⟩ := holding
          cases (idle caller).symm.trans live
    · intro caller phase request live
      cases (resting caller).symm.trans live
    · intro previewToken preview found
      cases (unknown previewToken).symm.trans found
    · intro caller apply live
      cases (idle caller).symm.trans live
    · rw [unsent]
      intro entry member
      cases member
  · intro u action next _ standing stands moved
    exact standing_preserved standing stands moved

-- Where the items that were checked are those stored when the claim is acquired, and an
-- applied preview does not pass the check again, it is sent once and for its own items.
theorem preview_applied {s : State} (path : Reached (system deps) (both (SpentChanged deps) ReadStands) s) :
    (∀ previewToken, (s.sent.filter (·.previewToken == previewToken)).length ≤ 1) ∧
      ∀ entry ∈ s.sent, ∃ preview, s.previews entry.previewToken = some preview ∧
        (entry.stored.map changeItem).Perm preview.currentItems :=
  ⟨sent_once (path.weaken fun _ _ both => both.1),(reached_standing (path.weaken fun _ _ both => both.2)).sent⟩

section Schedules
open Subscriptions (EffectiveTiming answered storedState storedSubscription)

def stripe : Deps :=
  ⟨none,"stripe","stripe",Idempotency.Service.create ⟨none,none,none,none⟩,fun _ => 0,fun _ => true⟩

def started : State := ⟨storedState,Idempotency.empty 0,fun _ => none,fun _ => none,[]⟩

def threeOf (effectiveTiming : EffectiveTiming) : Action :=
  .preview "scp_1" storedSubscription [⟨"i1","s1","p1",some "si_1",1,0⟩]
    ⟨none,some 3,none,.none,.preventChange,effectiveTiming⟩ 0

def reads (caller : Nat) : List Action :=
  .handle caller ⟨"c1","default","scp_1","key"⟩ :: List.replicate 5 (.read caller false)

def checks (caller : Nat) : List Action := [.begin caller,.store caller,.compute caller,.store caller,.check caller]

def sends (caller : Nat) (ownerToken uuid : String) : List Action :=
  [.acquire caller ownerToken uuid .committed,.call caller]

def finishes (caller : Nat) : List Action :=
  [.replied caller (some .active),.persist caller .committed,.settle caller,.store caller,.store caller,.compute caller]

def updatesQuantity : List Action :=
  List.map .mutate [.handle 0 ⟨"stripe",none,"c1","default",none,.quantity 2⟩,.read 0 false,.read 0 false,.read 0 false,
    .read 0 false,.read 0 false,.acquire 0 "t1" "u1" .committed,.replied 0 (some (answered .active)),.persist 0 .committed]

-- A quantity update runs between the check and the claim.
def overtaken : List Action :=
  [threeOf .immediate] ++ reads 0 ++ checks 0 ++ updatesQuantity ++ sends 0 "t2" "u2"

-- Two calls load the preview; the second executes when the record of the first has expired.
def belated : List Action :=
  [[threeOf .nextRenewal],reads 0,reads 1,checks 0,sends 0 "t1" "u1",finishes 0,[.tick 86400000],
    [.begin 1,.store 1,.compute 1,.store 1,.store 1,.compute 1,.store 1,.check 1],sends 1 "t2" "u2"].flatten

def sentForOthers (s : State) : Bool :=
  s.sent.any fun entry => (s.previews entry.previewToken).any fun preview =>
    !decide ((entry.stored.map changeItem).Perm preview.currentItems)

theorem started_initial : (system stripe).initial started := by
  refine ⟨Subscriptions.storedState_started,List.nodup_singleton _,⟨0,rfl⟩,fun _ => rfl,fun _ => rfl,rfl⟩

theorem preview_misapplied : previewTtlMs < stripe.service.completedTtlMs ∧
    (∃ s : State, Reached (system stripe) anyStep s ∧ ∃ entry ∈ s.sent, ∃ preview,
      s.previews entry.previewToken = some preview ∧ ¬ (entry.stored.map changeItem).Perm preview.currentItems) ∧
    ∃ s : State, Reached (system stripe) anyStep s ∧ (s.sent.filter (·.previewToken == "scp_1")).length = 2 := by
  refine ⟨by decide,?_,?_⟩
  · have passed : (run (system stripe) anyStep started overtaken).any sentForOthers = true := by decide +kernel
    obtain ⟨s,path,found⟩ := run_reaches started_initial passed
    simp only [sentForOthers,List.any_eq_true,Option.any_eq_true,Bool.not_eq_true',decide_eq_false_iff_not] at found
    exact ⟨s,path,found⟩
  · have passed : (run (system stripe) anyStep started belated).any
        (fun s => (s.sent.filter (·.previewToken == "scp_1")).length == 2) = true := by decide +kernel
    obtain ⟨s,path,found⟩ := run_reaches started_initial passed
    exact ⟨s,path,beq_iff_eq.mp found⟩

-- The second of two calls is answered from the record of the first.
def inTurn : List Action :=
  [[threeOf .immediate],reads 0,reads 1,checks 0,sends 0 "t1" "u1",finishes 0,[.begin 1,.store 1,.compute 1]].flatten

theorem preview_applied_once : ∃ s : State, s.sent.length = 1 ∧
    (∀ previewToken, (s.sent.filter (·.previewToken == previewToken)).length ≤ 1) ∧
      ∀ entry ∈ s.sent, ∃ preview, s.previews entry.previewToken = some preview ∧
        (entry.stored.map changeItem).Perm preview.currentItems := by
  have passed : (run (system stripe) (both (SpentChanged stripe) ReadStands) started inTurn).any
      (fun s => s.sent.length == 1) = true := by decide +kernel
  obtain ⟨s,path,found⟩ := run_reaches started_initial passed
  exact ⟨s,beq_iff_eq.mp found,preview_applied path⟩

end Schedules

end Payable.Changes
