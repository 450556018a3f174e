import Payable.Catalog.Generations

namespace Payable.Catalog
open Runs

variable {deps : CatalogDependencies}

-- Idempotency keys are injective in operation and version.
def DistinctKeys (deps : CatalogDependencies) : Prop :=
  ∀ operation version operation' version', deriveCatalogSyncKey deps operation version = deriveCatalogSyncKey deps operation' version' →
    operation = operation' ∧ version = version'

def Derived (deps : CatalogDependencies) (row : CatalogSynchronization) : Prop :=
  row.idempotencyKey = deriveCatalogSyncKey deps row.operation row.canonicalVersion

-- What a requester is about to write belongs to its key, and is no older than what it has read.
def Asked (deps : CatalogDependencies) : Call → Prop
  | .requester (.reading data) => data.idempotencyKey = deriveCatalogSyncKey deps data.operation data.canonicalVersion
  | .requester (.writing data existing) =>
    data.idempotencyKey = deriveCatalogSyncKey deps data.operation data.canonicalVersion ∧
      ∀ read, existing = some read → Derived deps read ∧ read.canonicalVersion ≤ data.canonicalVersion
  | _ => True

def ClaimDerived (deps : CatalogDependencies) (call : Call) : Prop := ∀ claimed, call.claimed = some claimed → Derived deps claimed

structure Generations (deps : CatalogDependencies) (s : State) : Prop where
  derived : ∀ row, s.row = some row → Derived deps row
  asked : ∀ caller, Asked deps (s.calls caller)
  claimed : ∀ caller, ClaimDerived deps (s.calls caller)

theorem initial_generations (initial : Initial s) : Generations deps s := by
  refine ⟨?_,?_,?_⟩
  · intro row there
    rw [initial.row] at there
    cases there
  · intro caller
    rw [initial.calls caller]
    trivial
  · intro caller claimed its
    rw [initial.calls caller] at its
    cases its

theorem Descends.derived (descends : Descends row row') (derived : Derived deps row) : Derived deps row' := by
  rw [Derived,descends.key,descends.operation,descends.version]
  exact derived

theorem turn_asked {s : State} (holds : Generations deps s) (asked : Asked deps call) (turned : Turn deps s call reply effect call') : Asked deps call' := by
  cases turned with
  | ensures => rcases ensure_cases deps _ s.row with its | its <;> rw [its] <;> trivial
  | requests => rcases request_cases deps _ _ s.row with its | ⟨_,its⟩ <;> rw [its] <;> trivial
  | prepares newer =>
      refine ⟨asked,fun read there => ⟨holds.derived read there,?_⟩⟩
      have kept := newer read there
      rw [keeps,Bool.or_eq_false_iff] at kept
      exact String.not_lt.mp (of_decide_eq_false kept.1)
  | loops => exact asked.1
  | draws | reports | unreported => split <;> trivial
  | verifies =>
      unfold proceed
      split
      · split <;> trivial
      · trivial
  | _ => trivial

-- The row after a step belongs to its key, and is of its own generation or of one that is asked for.
theorem change_derived {s : State} (holds : Generations deps s) (asked : Asked deps call) (changed : RowChange deps s row' call call') :
    ∀ row, row' = some row → Derived deps row := by
  intro row its
  cases changed with
  | same => exact holds.derived row its
  | written made =>
      obtain ⟨id',rfl,_⟩ := writeGeneration_some made
      cases its
      exact asked.1
  | taken taken =>
      obtain ⟨old,there,_,_,_,rfl⟩ := takeClaim_some taken
      cases its
      exact holds.derived old there
  | descends there descends =>
      cases its
      exact descends.derived (holds.derived _ there)

theorem change_version {s : State} (injective : DistinctKeys deps) (holds : Generations deps s) (asked : Asked deps call)
    (changed : RowChange deps s row' call call') (there : s.row = some row) :
    ∃ next, row' = some next ∧ row.canonicalVersion ≤ next.canonicalVersion := by
  cases changed with
  | same => exact ⟨row,there,String.le_refl _⟩
  | written made =>
      obtain ⟨id',rfl,moved⟩ := writeGeneration_some made
      refine ⟨_,rfl,?_⟩
      rcases moved with ⟨absent,_⟩ | ⟨old,read,old_there,read_there,same,_⟩
      · rw [absent] at there
        cases there
      · cases there.symm.trans old_there
        obtain ⟨read_derived,later⟩ := asked.2 read read_there
        have keys : deriveCatalogSyncKey deps row.operation row.canonicalVersion =
            deriveCatalogSyncKey deps read.operation read.canonicalVersion := by
          rw [← holds.derived row there,← read_derived,same]
        rw [(injective _ _ _ _ keys).2]
        exact later
  | taken taken =>
      obtain ⟨old,before,_,_,_,rfl⟩ := takeClaim_some taken
      cases there.symm.trans before
      exact ⟨_,rfl,String.le_refl _⟩
  | descends before descends =>
      cases there.symm.trans before
      exact ⟨_,rfl,descends.version ▸ String.le_refl _⟩

theorem generations_step {s : State} (holds : Generations deps s)
    (moved : advance deps s action = some t) : Generations deps t := by
  refine ⟨?_,calls_step holds.asked moved (fun _ asked => asked) ?_ ?_,
    calls_step holds.claimed moved (fun _ its => its) ?_ ?_⟩
  · cases action with
    | elapse | edit | outside => cases moved; exact holds.derived
    | start caller call =>
        obtain ⟨_,_,rfl⟩ := start_exact moved
        exact holds.derived
    | reply caller reply =>
        obtain ⟨effect,call,turned,rfl⟩ := reply_exact moved
        exact change_derived holds (holds.asked caller) (turn_row turned)
  · intro call starts
    exact starting (Asked deps) starts (fun _ => trivial) (fun _ _ => trivial) (fun _ => trivial) trivial
  · intro caller reply effect call turned _
    exact turn_asked holds (holds.asked caller) turned
  · intro call starts claimed its
    rw [starting_unclaimed starts] at its
    cases its
  · intro caller reply effect call turned _ claimed its
    rcases turn_claimed turned its with before | ⟨claim,product,_,read,_⟩
    · exact holds.claimed caller claimed before
    · exact holds.derived claimed (readClaim_some read).1

theorem reached_generations (path : Reached (catalog deps) allowed s) : Generations deps s :=
  path.invariant (Generations deps) (fun _ => initial_generations) fun _ _ _ _ holds _ moved => generations_step holds moved

section Superseded

variable {s : State}

theorem owned_kept (holds : Owners s) (superseded : Superseded s caller) (moved : advance deps s action = some t) :
    Superseded t caller ∨ t.calls caller = .finished := by
  obtain ⟨owner,its,unowned⟩ := superseded
  by_cases mine : ∃ reply, action = .reply caller reply
  · obtain ⟨reply,rfl⟩ := mine
    obtain ⟨effect,call,turned,rfl⟩ := reply_exact moved
    rw [put_calls,if_pos rfl]
    rcases holder_turn turned its with over_ | still
    · exact .inr over_
    · refine .inl ⟨owner,by rw [put_calls,if_pos rfl]; exact still,?_⟩
      rintro ⟨row,there,owned⟩
      rw [put_row,(unowned_turn turned its unowned).1] at there
      exact unowned ⟨row,there,owned⟩
  · have others : ∀ reply, action ≠ .reply caller reply := fun reply same => mine ⟨reply,same⟩
    have begun : s.calls caller ≠ .idle := fun idle => by rw [idle] at its; cases its
    refine .inl ⟨owner,by rw [call_kept moved begun others]; exact its,?_⟩
    rintro ⟨row,there,owned⟩
    cases action with
    | elapse | edit | outside => cases moved; exact unowned ⟨row,there,owned⟩
    | start other call =>
        obtain ⟨_,_,rfl⟩ := start_exact moved
        exact unowned ⟨row,there,owned⟩
    | reply other reply =>
        obtain ⟨effect,call,turned,rfl⟩ := reply_exact moved
        have differs : (s.calls other).claiming ≠ some owner := by
          intro claims
          have same := holds.single caller other owner (owner_cases.mpr (.inl its)) (owner_cases.mpr (.inr claims))
          exact others reply (by rw [same])
        rw [unowned_change (turn_row turned) unowned differs row there] at owned
        cases owned

theorem finished_rests (over_ : s.calls caller = .finished) (moved : advance deps s (.reply caller reply) = some t) : False := by
  simp [advance,over_,turn] at moved

theorem superseded_path (reached : Reached (catalog deps) anyStep s)
    (superseded : Superseded s caller) (path : Path (catalog deps) anyStep s t) : Superseded t caller ∨ t.calls caller = .finished := by
  induction path with
  | refl => exact .inl superseded
  | step before _ moved ih =>
      rcases ih with still | over_
      · exact owned_kept (reached_owners (reached.later before)) still moved
      · refine .inr ?_
        rw [call_kept moved (by rw [over_]; nofun)]
        · exact over_
        · rintro reply rfl
          exact finished_rests over_ moved

theorem superseded_harmless (reached : Reached (catalog deps) anyStep s)
    (superseded : Superseded s caller) (path : Path (catalog deps) anyStep s t)
    (moved : advance deps t (.reply caller reply) = some u) : u.row = t.row ∧ u.binding = t.binding := by
  rcases superseded_path reached superseded path with ⟨owner,its,unowned⟩ | over_
  · obtain ⟨effect,call,turned,rfl⟩ := reply_exact moved
    exact unowned_turn turned its unowned
  · exact (finished_rests over_ moved).elim

end Superseded

section Versions

theorem step_version {s : State} (injective : DistinctKeys deps) (holds : Generations deps s) (moved : advance deps s action = some t)
    (there : s.row = some row) : ∃ next, t.row = some next ∧ row.canonicalVersion ≤ next.canonicalVersion := by
  cases action with
  | elapse | edit | outside => cases moved; exact ⟨row,there,String.le_refl _⟩
  | start other call =>
      obtain ⟨_,_,rfl⟩ := start_exact moved
      exact ⟨row,there,String.le_refl _⟩
  | reply other reply =>
      obtain ⟨effect,call,turned,rfl⟩ := reply_exact moved
      exact change_version injective holds (holds.asked other) (turn_row turned) there

theorem path_version {s : State} (injective : DistinctKeys deps) (reached : Reached (catalog deps) anyStep s)
    (path : Path (catalog deps) anyStep s t) (there : s.row = some row) :
    ∃ next, t.row = some next ∧ row.canonicalVersion ≤ next.canonicalVersion := by
  induction path with
  | refl => exact ⟨row,there,String.le_refl _⟩
  | step before _ moved ih =>
      obtain ⟨middle,there',older⟩ := ih
      obtain ⟨next,after,newer⟩ := step_version injective (reached_generations (reached.later before)) moved there'
      exact ⟨next,after,String.le_trans older newer⟩

end Versions

section Loop

-- A requester that is in the loop of requestGeneration.
def Looping : Call → Prop
  | .requester (.reading _) | .requester (.writing _ _) => True
  | _ => False

variable {states : Nat → State} {actions : Nat → Action}

theorem reading_next (reading : s.calls caller = .requester (.reading data)) (moved : advance deps s (.reply caller reply) = some t) :
    t.row = s.row ∧ ((∃ saved, t.calls caller = .requester (.recording saved)) ∨ t.calls caller = .requester (.writing data s.row) ∨
      t.calls caller = .finished) := by
  obtain ⟨effect,call,turned,rfl⟩ := reply_exact moved
  rw [put_calls,if_pos rfl]
  rw [reading] at turned
  cases turned with
  | stops => exact ⟨rfl,.inr (.inr rfl)⟩
  | keeps => exact ⟨rfl,.inl ⟨_,rfl⟩⟩
  | prepares => exact ⟨rfl,.inr (.inl rfl)⟩

-- A write misses only a row that others have moved since it was read.
theorem writing_next (writing : s.calls caller = .requester (.writing data existing))
    (moved : advance deps s (.reply caller reply) = some t) :
    t.calls caller = .finished ∨ t.row = s.row ∧ s.row ≠ existing ∧ t.calls caller = .requester (.reading data) := by
  obtain ⟨effect,call,turned,rfl⟩ := reply_exact moved
  rw [put_calls,if_pos rfl]
  rw [writing] at turned
  cases turned with
  | stops | writes => exact .inl rfl
  | loops missed =>
      refine .inr ⟨rfl,?_,rfl⟩
      rintro rfl
      have written := writeGeneration_unmoved s.row data (deps.randomUUID s.books.outbox.length)
      rw [missed] at written
      cases written

theorem loop_ends (run : Forever (catalog deps) states actions)
    (scheduled : ∀ n, Looping ((states n).calls caller) → ∃ m, n ≤ m ∧ ∃ reply, actions m = .reply caller reply)
    (quiet : ∃ last, ∀ n, last ≤ n → (∀ reply, actions n ≠ .reply caller reply) → (states (n + 1)).row = (states n).row) :
    ∃ n, first ≤ n ∧ ¬ Looping ((states n).calls caller) := by
  obtain ⟨last,quiet⟩ := quiet
  by_contra endless
  simp only [not_exists,not_and,not_not] at endless
  -- The call's next turn once the others have made their last change: its phase and the row are as they were.
  have next : ∀ n, first ≤ n → last ≤ n → ∃ m, n ≤ m ∧ (∃ reply, actions m = .reply caller reply) ∧
      (states m).calls caller = (states n).calls caller ∧ (states m).row = (states n).row := by
    intro n later settled
    refine run.next (fun s => s.calls caller = (states n).calls caller ∧ s.row = (states n).row)
      (fun action => ∃ reply, action = .reply caller reply) ⟨rfl,rfl⟩ (fun k above others moved kept => ?_)
      (scheduled n (endless n later))
    have others : ∀ reply, actions k ≠ .reply caller reply := fun reply same => others ⟨reply,same⟩
    have begun : (states k).calls caller ≠ .idle := by
      intro idle
      have looping := endless k (Nat.le_trans later above)
      rw [idle] at looping
      exact looping
    exact ⟨(call_kept moved begun others).trans kept.1,(quiet k (Nat.le_trans settled above) others).trans kept.2⟩
  -- A round that starts after it writes the row it has read.
  have round : ∀ n, first ≤ n → last ≤ n → ∀ data, (states n).calls caller ≠ .requester (.reading data) := by
    intro n later settled data reading
    obtain ⟨m,above,⟨reply,turn⟩,phase,_⟩ := next n later settled
    have moved := run m
    rw [turn] at moved
    obtain ⟨row,left⟩ := reading_next (phase.trans reading) moved
    have later' : first ≤ m + 1 := by omega
    rcases left with ⟨saved,left⟩ | left | left
    · have looping := endless (m + 1) later'
      rw [left] at looping
      exact looping
    · obtain ⟨k,beyond,⟨reply',turn'⟩,phase',row'⟩ := next (m + 1) later' (by omega)
      have moved' := run k
      rw [turn'] at moved'
      rcases writing_next (phase'.trans left) moved' with over_ | ⟨_,differs,_⟩
      · have looping := endless (k + 1) (by omega)
        rw [over_] at looping
        exact looping
      · exact differs (row'.trans row)
    · have looping := endless (m + 1) later'
      rw [left] at looping
      exact looping
  have looping := endless (max first last) (Nat.le_max_left ..)
  cases phase : (states (max first last)).calls caller with
  | requester phase' =>
      cases phase' with
      | reading data => exact round _ (Nat.le_max_left ..) (Nat.le_max_right ..) data phase
      | writing data existing =>
          obtain ⟨m,above,⟨reply,turn⟩,same,_⟩ := next _ (Nat.le_max_left first last) (Nat.le_max_right ..)
          have moved := run m
          rw [turn] at moved
          have later : first ≤ m + 1 := by omega
          rcases writing_next (same.trans phase) moved with over_ | ⟨_,_,reading⟩
          · have looping := endless (m + 1) later
            rw [over_] at looping
            exact looping
          · exact round (m + 1) later (by omega) data reading
      | _ => rw [phase] at looping; exact looping
  | _ => rw [phase] at looping; exact looping

end Loop

structure GenerationProtocol (deps : CatalogDependencies) : Prop where
  monotone : ∀ s t row, Reached (catalog deps) anyStep s → Path (catalog deps) anyStep s t → s.row = some row →
    ∃ next, t.row = some next ∧ row.canonicalVersion ≤ next.canonicalVersion
  single : ∀ s one other, Reached (catalog deps) anyStep s → Current s one → Current s other → one = other
  superseded : ∀ s t u caller reply, Reached (catalog deps) anyStep s → Superseded s caller → Path (catalog deps) anyStep s t →
    advance deps t (.reply caller reply) = some u → u.row = t.row ∧ u.binding = t.binding
  claims : ∀ s t caller claim product reply, Reached (catalog deps) anyStep s →
    s.calls caller = .worker (.verifying claim product) → advance deps s (.reply caller reply) = some t →
      t.calls caller = .finished ∨ ∃ claimed, t.calls caller = .worker (proceed deps claimed product) ∧ s.row = some claimed ∧
        claimed.canonicalVersion = claim.canonicalVersion ∧ claimed.idempotencyKey = claim.idempotencyKey ∧
          claimed.attemptOwnerId = some claim.ownerId
  -- Each turn of a looping call comes, and from some moment on nobody else changes the row.
  ends : ∀ states actions first caller, Forever (catalog deps) states actions →
    (∀ n, Looping ((states n).calls caller) → ∃ m, n ≤ m ∧ ∃ reply, actions m = .reply caller reply) →
      (∃ last, ∀ n, last ≤ n → (∀ reply, actions n ≠ .reply caller reply) → (states (n + 1)).row = (states n).row) →
        ∃ n, first ≤ n ∧ ¬ Looping ((states n).calls caller)

theorem one_current {s : State} (holds : Owners s) (its : Current s one) (its' : Current s other) : one = other := by
  obtain ⟨owner,mine,row,there,owned⟩ := its
  obtain ⟨owner',theirs,row',there',owned'⟩ := its'
  cases there.symm.trans there'
  have same : owner = owner' := Option.some.inj ((ownedBy_some.mp owned).2.symm.trans (ownedBy_some.mp owned').2)
  subst same
  exact holds.single one other owner (owner_cases.mpr (.inl mine)) (owner_cases.mpr (.inl theirs))

theorem claim_asked {s : State} (verifying : s.calls caller = .worker (.verifying claim product))
    (moved : advance deps s (.reply caller reply) = some t) : t.calls caller = .finished ∨
      ∃ claimed, t.calls caller = .worker (proceed deps claimed product) ∧ s.row = some claimed ∧
        claimed.canonicalVersion = claim.canonicalVersion ∧ claimed.idempotencyKey = claim.idempotencyKey ∧
          claimed.attemptOwnerId = some claim.ownerId := by
  obtain ⟨effect,call,turned,rfl⟩ := reply_exact moved
  rw [put_calls,if_pos rfl]
  rw [verifying] at turned
  cases turned with
  | stops => exact .inl rfl
  | verifies read =>
      obtain ⟨there,owner,_,version,key⟩ := readClaim_some read
      exact .inr ⟨_,rfl,there,version,key,owner⟩

theorem generations_protected (injective : DistinctKeys deps) : GenerationProtocol deps where
  monotone _ _ _ reached path there := path_version injective reached path there
  single _ _ _ reached its its' := one_current (reached_owners reached) its its'
  superseded _ _ _ _ _ reached superseded path moved := superseded_harmless reached superseded path moved
  claims _ _ _ _ _ _ _ verifying moved := claim_asked verifying moved
  ends _ _ _ _ run scheduled quiet := loop_ends run scheduled quiet

def unspell : List Char → List Char
  | '%' :: 'c' :: rest => ':' :: unspell rest
  | '%' :: '%' :: rest => '%' :: unspell rest
  | other :: rest => other :: unspell rest
  | [] => []

theorem unspell_spell (text : List Char) : unspell (spell text) = text := by
  induction text using spell.induct with
  | case1 => rfl
  | case2 rest ih => simp [spell,unspell,ih]
  | case3 rest ih => simp [spell,unspell,ih]
  | case4 other rest colon percent ih =>
      rw [spell.eq_4 _ _ colon percent]
      unfold unspell
      split
      · rename_i same
        exact absurd (List.cons.inj same).1 percent
      · rename_i same
        exact absurd (List.cons.inj same).1 percent
      · rename_i same
        rw [← (List.cons.inj same).1,← (List.cons.inj same).2,ih]
      · rename_i same
        cases same

theorem spell_injective {text other : List Char} (same : spell text = spell other) : text = other := by
  rw [← unspell_spell text,same,unspell_spell]

theorem plain_key (catalogIdempotency : Bool) (operation : SynchronizationOperation) (version : String) :
    deriveCatalogSyncKey (plainDependencies catalogIdempotency) operation version =
      "payable:catalog-sync:v1:" ++ String.ofList (operation.letter :: spell version.toList) := rfl

theorem letter_injective {a b : SynchronizationOperation} (same : a.letter = b.letter) : a = b := by
  cases a <;> cases b <;> first | rfl | cases same

theorem plainKeys_distinct (catalogIdempotency : Bool) : DistinctKeys (plainDependencies catalogIdempotency) := by
  intro operation version operation' version' same
  rw [plain_key,plain_key] at same
  have texts := congrArg String.toList same
  simp only [String.toList_append,String.toList_ofList] at texts
  obtain ⟨letters,versions⟩ := List.cons.inj (List.append_cancel_left texts)
  exact ⟨letter_injective letters,String.toList_inj.mp (spell_injective versions)⟩

theorem generations_protected_plain : GenerationProtocol (plainDependencies true) :=
  generations_protected (plainKeys_distinct true)

end Payable.Catalog
