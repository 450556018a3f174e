import Payable.Audit.Verification
import Payable.Audit.Chain

namespace Payable.Audit
open JsonText Tables Checked Runs

variable {digest : List Char → String} {sequence : Int}

-- A table whose chains go on from where they were; rows without a sequence only get one.
structure Grown (digest : List Char → String) (before after : List AuditRow) : Prop where
  keyed : Keyed AuditRow.id after
  chains : ∀ tenantId chain, InChain before tenantId chain → Linked digest none 0 chain →
    ∃ added, InChain after tenantId (chain ++ added) ∧ Linked digest none 0 (chain ++ added)
  unsequenced : ∀ row ∈ after, row.sequence = none → row ∈ before

theorem grown_sequenced {before after : List AuditRow} (grown : Grown digest before after)
    (chains : ∀ tenantId, ∃ chain, InChain before tenantId chain ∧ Linked digest none 0 chain) (inside : row ∈ before)
    (numbered : row.sequence = some place) : row ∈ after := by
  obtain ⟨chain,its,linked⟩ := chains (some row.tenantId)
  obtain ⟨added,its',_⟩ := grown.chains _ chain its linked
  have listed : row ∈ chain := (its row).mpr ⟨inside,by simp [sequenced,tenant,numbered]⟩
  exact ((its' row).mp (List.mem_append_left _ listed)).1

-- What a call read as the end of the chain is its end still, or the next place is taken.
def Behind (digest : List Char → String) (rows : List AuditRow) (tenantId : Option String) (previousHash : Option String)
    (sequence : Int) : Prop :=
  ∃ chain, InChain rows tenantId chain ∧ Linked digest none 0 chain ∧
    (endOf none 0 chain = (previousHash,sequence) ∨ ∃ row ∈ chain, row.sequence = some (sequence + 1))

theorem behind_grown {before after : List AuditRow} (behind : Behind digest before tenantId previousHash sequence)
    (grown : Grown digest before after) : Behind digest after tenantId previousHash sequence := by
  obtain ⟨chain,its,linked,ended⟩ := behind
  obtain ⟨added,its',linked'⟩ := grown.chains tenantId chain its linked
  refine ⟨chain ++ added,its',linked',?_⟩
  rcases ended with ended | ⟨row,inside,numbered⟩
  · cases added with
    | nil => exact .inl (by rw [List.append_nil]; exact ended)
    | cons row rest =>
        have numbered := (linked_append.mp linked').2.1
        rw [ended] at numbered
        exact .inr ⟨row,by simp,numbered⟩
  · exact .inr ⟨row,List.mem_append_left _ inside,numbered⟩

-- One row put into its place at the end of a chain.
theorem grown_insert {rows : List AuditRow} {new : AuditRow} (keyed : Keyed AuditRow.id rows)
    (fresh : ∀ row ∈ rows, row.id ≠ new.id) (tenanted : new.tenantId = tenant tenantId) (its : InChain rows tenantId chain)
    (linked : Linked digest none 0 (chain ++ [new])) : Grown digest rows (rows ++ [new]) := by
  have numbered : new.sequence.isSome = true := by
    obtain ⟨_,numbered,_⟩ := linked_append.mp linked
    rw [numbered]
    rfl
  refine ⟨keyed_append keyed fresh,?_,?_⟩
  · intro other chain' its' linked'
    by_cases same : tenant other = tenant tenantId
    · have one : chain' = chain := inChain_same linked' (linked_append.mp linked).1 its' its same
      rw [one]
      refine ⟨[new],fun row => ?_,linked⟩
      simp only [List.mem_append,List.mem_singleton,its row]
      constructor
      · rintro (⟨there,listed⟩ | rfl)
        · exact ⟨.inl there,by simpa only [sequenced,same] using listed⟩
        · exact ⟨.inr rfl,by simp [sequenced,same,tenanted,numbered]⟩
      · rintro ⟨there | rfl,listed⟩
        · exact .inl ⟨there,by simpa only [sequenced,same] using listed⟩
        · exact .inr rfl
    · refine ⟨[],fun row => ?_,by simpa using linked'⟩
      rw [List.append_nil,its' row,List.mem_append,List.mem_singleton]
      constructor
      · rintro ⟨there,listed⟩
        exact ⟨.inl there,listed⟩
      · rintro ⟨there | rfl,listed⟩
        · exact ⟨there,listed⟩
        · rw [sequenced,tenanted,Bool.and_eq_true,beq_iff_eq] at listed
          exact absurd listed.1.symm same
  · intro row inside unnumbered
    rcases List.mem_append.mp inside with there | last
    · exact there
    · rw [List.mem_singleton.mp last] at unnumbered
      rw [unnumbered] at numbered
      cases numbered

theorem Grown.refl {rows : List AuditRow} (keyed : Keyed AuditRow.id rows) : Grown digest rows rows :=
  ⟨keyed,fun _ chain its linked => ⟨[],by simpa using its,by simpa using linked⟩,fun _ inside _ => inside⟩

theorem Grown.trans {first second third : List AuditRow} (one : Grown digest first second) (other : Grown digest second third) :
    Grown digest first third := by
  refine ⟨other.keyed,?_,fun row inside none_yet => one.unsequenced row (other.unsequenced row inside none_yet) none_yet⟩
  intro tenantId chain its linked
  obtain ⟨added,its',linked'⟩ := one.chains tenantId chain its linked
  obtain ⟨more,its'',linked''⟩ := other.chains tenantId _ its' linked'
  exact ⟨added ++ more,by rwa [← List.append_assoc],by rwa [← List.append_assoc]⟩

section Backfill

theorem mem_patched {rows : List AuditRow} {row : AuditRow} (keyed : Keyed AuditRow.id rows) (inside : row ∈ rows) {hash : String} :
    x ∈ patchKey AuditRow.id row.id (·.chained sequence previousHash hash) rows ↔
      x = row.chained sequence previousHash hash ∨ x ∈ rows ∧ x.id ≠ row.id := by
  rw [mem_patchKey]
  constructor
  · rintro ⟨old,there,rfl⟩
    by_cases its : old.id = row.id
    · rw [if_pos its,keyed_unique keyed there inside its]
      exact .inl rfl
    · rw [if_neg its]
      exact .inr ⟨there,its⟩
  · rintro (rfl | ⟨there,its⟩)
    · exact ⟨row,inside,if_pos rfl⟩
    · exact ⟨x,there,if_neg its⟩

-- A row without a sequence put into its place at the end of its tenant's chain.
theorem grown_patch {rows : List AuditRow} {row : AuditRow} {hash : String} (keyed : Keyed AuditRow.id rows) (inside : row ∈ rows)
    (unnumbered : row.sequence = none) (tenanted : row.tenantId = tenant tenantId) (its : InChain rows tenantId chain)
    (linked : Linked digest none 0 (chain ++ [row.chained sequence previousHash hash])) :
    Grown digest rows (patchKey AuditRow.id row.id (·.chained sequence previousHash hash) rows) ∧
      InChain (patchKey AuditRow.id row.id (·.chained sequence previousHash hash) rows) tenantId
        (chain ++ [row.chained sequence previousHash hash]) := by
  have other_id : ∀ x ∈ rows, x.sequence.isSome = true → x.id ≠ row.id := by
    intro x there numbered same
    rw [keyed_unique keyed there inside same,unnumbered] at numbered
    cases numbered
  have mine : ∀ other, tenant other = tenant tenantId → ∀ x, x ∈ chain ++ [row.chained sequence previousHash hash] ↔
      x ∈ patchKey AuditRow.id row.id (·.chained sequence previousHash hash) rows ∧ sequenced other x = true := by
    intro other same x
    have listed : sequenced other x = sequenced tenantId x := by rw [sequenced,sequenced,same]
    rw [mem_patched keyed inside,List.mem_append,List.mem_singleton,its x,listed]
    constructor
    · rintro (⟨there,numbered⟩ | rfl)
      · rw [sequenced,Bool.and_eq_true] at numbered
        exact ⟨.inr ⟨there,other_id x there numbered.2⟩,by rw [sequenced,Bool.and_eq_true]; exact numbered⟩
      · exact ⟨.inl rfl,by simp [sequenced,AuditRow.chained,tenanted]⟩
    · rintro ⟨rfl | ⟨there,_⟩,numbered⟩
      · exact .inr rfl
      · exact .inl ⟨there,numbered⟩
  refine ⟨⟨keyed_patch keyed fun _ => rfl,?_,?_⟩,mine tenantId rfl⟩
  · intro other chain' its' linked'
    by_cases same : tenant other = tenant tenantId
    · have one : chain' = chain := inChain_same linked' (linked_append.mp linked).1 its' its same
      rw [one]
      exact ⟨_,mine other same,linked⟩
    · refine ⟨[],fun x => ?_,by simpa using linked'⟩
      rw [List.append_nil,its' x,mem_patched keyed inside]
      constructor
      · rintro ⟨there,numbered⟩
        have its := numbered
        rw [sequenced,Bool.and_eq_true] at its
        exact ⟨.inr ⟨there,other_id x there its.2⟩,numbered⟩
      · rintro ⟨rfl | ⟨there,_⟩,numbered⟩
        · rw [sequenced,Bool.and_eq_true,beq_iff_eq] at numbered
          exact absurd (numbered.1.symm.trans tenanted) same
        · exact ⟨there,numbered⟩
  · intro x there none_yet
    rcases (mem_patched keyed inside).mp there with rfl | ⟨there,_⟩
    · cases none_yet
    · exact there

-- The rows of a backfill in the places it gives them.
def Assigned (digest : List Char → String) (table : List AuditRow) : Option String → Int → List AuditRow → Prop
  | _,_,[] => True
  | previousHash,sequence,row :: rest => ∃ hash,
    auditEntryHash digest previousHash (sequence + 1) row.createdAt row.logged = .ok hash ∧
      row.chained (sequence + 1) previousHash hash ∈ table ∧ Assigned digest table (some hash) (sequence + 1) rest

theorem assigned_kept {table table' : List AuditRow} (kept : ∀ row ∈ table, ∀ place, row.sequence = some place → row ∈ table')
    {rows : List AuditRow} (assigned : Assigned digest table previousHash sequence rows) :
    Assigned digest table' previousHash sequence rows := by
  induction rows generalizing previousHash sequence with
  | nil => trivial
  | cons row rest ih =>
      obtain ⟨hash,hashed,there,others⟩ := assigned
      exact ⟨hash,hashed,kept _ there _ rfl,ih others⟩

theorem endOf_last (ended : endOf none 0 chain = (previousHash,sequence)) (row : AuditRow) {hash : String} :
    endOf none 0 (chain ++ [row.chained (sequence + 1) previousHash hash]) = (some hash,sequence + 1) := by
  rw [endOf_append,ended]
  rfl

theorem linked_last (linked : Linked digest none 0 chain) (ended : endOf none 0 chain = (previousHash,sequence))
    {row : AuditRow} {hash : String} (hashed : auditEntryHash digest previousHash (sequence + 1) row.createdAt row.logged = .ok hash) :
    Linked digest none 0 (chain ++ [row.chained (sequence + 1) previousHash hash]) := by
  refine linked_append.mpr ⟨linked,?_⟩
  rw [ended]
  exact ⟨rfl,rfl,hash,rfl,hashed,trivial⟩

theorem backfill_cons {rows : List AuditRow} (numbered : 0 ≤ sequence)
    (filled : backfill digest rows previousHash sequence (row :: rest) = .ok after) : ∃ hash,
    auditEntryHash digest previousHash (sequence + 1) row.createdAt row.logged = .ok hash ∧
      taken rows row.id row.tenantId (sequence + 1) = false ∧
        backfill digest (patchKey AuditRow.id row.id (·.chained (sequence + 1) previousHash hash) rows) (some hash) (sequence + 1) rest =
          .ok after := by
  rw [backfill,bind_ok] at filled
  obtain ⟨entry,read,filled⟩ := filled
  rw [toEntity_numbered rfl (by omega)] at read
  cases read
  rw [bind_ok] at filled
  obtain ⟨hash,hashed,filled⟩ := filled
  split at filled
  · cases filled
  · rename_i free
    exact ⟨hash,hashed,by simpa using free,filled⟩

-- A backfill from the end of the chain puts its rows behind it, in order.
theorem backfill_fresh {pending : List AuditRow} : ∀ {rows chain previousHash sequence}, Keyed AuditRow.id rows →
    InChain rows tenantId chain → Linked digest none 0 chain → endOf none 0 chain = (previousHash,sequence) →
    (∀ row ∈ pending, row ∈ rows ∧ row.tenantId = tenant tenantId ∧ row.sequence = none) → (pending.map AuditRow.id).Nodup →
    backfill digest rows previousHash sequence pending = .ok after →
      Grown digest rows after ∧ Assigned digest after previousHash sequence pending ∧
        ∀ x, x.tenantId ≠ tenant tenantId → (x ∈ after ↔ x ∈ rows) := by
  induction pending with
  | nil =>
      intro rows chain previousHash sequence keyed _ _ _ _ _ filled
      cases filled
      exact ⟨.refl keyed,trivial,fun _ _ => .rfl⟩
  | cons row rest ih =>
      intro rows chain previousHash sequence keyed its linked ended unnumbered apart filled
      have counted := @endOf_length 0 none chain
      rw [ended] at counted
      obtain ⟨hash,hashed,_,filled⟩ := backfill_cons (by simp only at counted; omega) filled
      obtain ⟨inside,tenanted,none_yet⟩ := unnumbered row List.mem_cons_self
      have linked' := linked_last linked ended hashed
      obtain ⟨grown,its'⟩ := grown_patch keyed inside none_yet tenanted its linked'
      have distinct := List.nodup_cons.mp apart
      have later : ∀ other ∈ rest, other ∈ patchKey AuditRow.id row.id (·.chained (sequence + 1) previousHash hash) rows ∧
          other.tenantId = tenant tenantId ∧ other.sequence = none := by
        intro other there
        obtain ⟨was,rest_of⟩ := unnumbered other (List.mem_cons_of_mem _ there)
        refine ⟨(mem_patched keyed inside).mpr (.inr ⟨was,fun same => ?_⟩),rest_of⟩
        exact distinct.1 (same ▸ List.mem_map_of_mem there)
      obtain ⟨grown',assigned,others⟩ := ih grown.keyed its' linked' (endOf_last ended row) later distinct.2 filled
      have chains : InChain after tenantId _ := (grown'.chains tenantId _ its' linked').choose_spec.1
      refine ⟨grown.trans grown',⟨hash,hashed,?_,assigned⟩,fun x foreign => ?_⟩
      · exact ((chains _).mp (by simp)).1
      · rw [others x foreign,mem_patched keyed inside]
        constructor
        · rintro (rfl | ⟨there,_⟩)
          · exact absurd tenanted foreign
          · exact there
        · intro there
          refine .inr ⟨there,fun same => ?_⟩
          rw [keyed_unique keyed there inside same] at foreign
          exact foreign tenanted

-- Rows already in their places stay there, and nothing else is written.
theorem backfill_again {pending : List AuditRow} {rows : List AuditRow} (keyed : Keyed AuditRow.id rows) (counted : 0 ≤ sequence)
    (assigned : Assigned digest rows previousHash sequence pending)
    (filled : backfill digest rows previousHash sequence pending = .ok after) : after = rows := by
  induction pending generalizing previousHash sequence with
  | nil =>
      cases filled
      rfl
  | cons row rest ih =>
      obtain ⟨hash,hashed,there,others⟩ := assigned
      obtain ⟨hash',hashed',_,filled⟩ := backfill_cons counted filled
      rw [hashed] at hashed'
      cases hashed'
      have same : patchKey AuditRow.id row.id (·.chained (sequence + 1) previousHash hash) rows = rows := by
        refine map_unchanged.mpr fun x inside => ?_
        split
        · rename_i its
          have one := keyed_unique keyed inside there its
          rw [one]
          rfl
        · rfl
      rw [same] at filled
      exact ih (by omega) others filled

end Backfill

section Records

-- Members of the same names whose canonical forms carry over.
theorem members_congr {members others : List (String × Value)} (alike : List.Forall₂ (fun a b => a.1 = b.1 ∧
    a.2.isUndefined = b.2.isUndefined ∧ ∀ text, canonicalize depth a.2 = .ok text → canonicalize depth b.2 = .ok text) members others)
    {settled : List (String × List Char)} (hashed : canonicalizeMembers depth members = settled.map settledEntry) :
    canonicalizeMembers depth others = settled.map settledEntry := by
  induction alike generalizing settled with
  | nil => exact hashed
  | cons pair rest ih =>
      obtain ⟨name,present,carried⟩ := pair
      unfold canonicalizeMembers at hashed ⊢
      split at hashed
      · rename_i absent
        rw [if_pos (present ▸ absent)]
        exact ih hashed
      · rename_i there
        rw [if_neg (present ▸ there)]
        cases settled with
        | nil => cases hashed
        | cons entry settled =>
            obtain ⟨first,tail⟩ := List.cons.inj hashed
            obtain ⟨its,text⟩ := Prod.mk.inj first
            rw [List.map_cons,← ih tail,carried _ text,← name,its]
            rfl

theorem object_congr {members others : List (String × Value)} (alike : List.Forall₂ (fun a b => a.1 = b.1 ∧
    a.2.isUndefined = b.2.isUndefined ∧ ∀ text, canonicalize (depth + 1) a.2 = .ok text → canonicalize (depth + 1) b.2 = .ok text)
    members others) (hashed : canonicalize depth (.object members) = .ok text) : canonicalize depth (.object others) = .ok text := by
  unfold canonicalize at hashed ⊢
  split at hashed
  · cases hashed
  · rename_i bounded
    rw [if_neg bounded]
    obtain ⟨settled,shape⟩ := bracedEntries_ok hashed
    simp only at hashed ⊢
    rw [members_congr alike shape,← shape]
    exact hashed

theorem orNull_present (value : Value) : value.orNull.isUndefined = false := by
  cases value <;> rfl

theorem parsed_orNull (json : Option Json) : (parsed json).orNull = parsed json := by
  cases json with
  | none => rfl
  | some json => cases json <;> rfl

-- A value that is logged, and its column read back.
theorem column_carried (faithful : Faithful "" value) (written : fromJson value = .ok column) (text : List Char)
    (hashed : canonicalize depth value.orNull = .ok text) : canonicalize depth (toJson column).orNull = .ok text := by
  rw [toJson,parsed_orNull]
  unfold fromJson at written
  split at written
  · cases written
    exact hashed
  · cases written
    exact hashed
  · obtain ⟨json,ran,shape⟩ := map_ok.mp written
    have same : value.orNull = value := by
      cases value <;> first | rfl | contradiction
    have read : column.read = json := by cases json <;> cases shape <;> rfl
    rw [read]
    exact canonicalize_stored value "" depth text json faithful (same ▸ hashed) ran

theorem mapError_ok {ran : Except String α} : ran.mapError AuditError.typeError = .ok value ↔ ran = .ok value := by
  cases ran <;> simp [Except.mapError]

-- The hash of what is logged is the hash of the row that stores it.
theorem record_hashed {id hash : String} (kept : Kept data) (recorded : record data id createdAt hash previousHash sequence = .ok row)
    (hashed : auditEntryHash digest previousHash sequence createdAt data = .ok hash) :
    row.id = id ∧ row.tenantId = tenant data.tenantId ∧ row.sequence = some sequence ∧ row.previousHash = previousHash ∧
      row.hash = some hash ∧ auditEntryHash digest previousHash sequence row.createdAt row.logged = .ok hash := by
  obtain ⟨named,before_kept,after_kept,metadata_kept⟩ := kept
  simp only [record,bind_ok,mapError_ok,pure_ok] at recorded
  obtain ⟨before,before_written,after,after_written,metadata,metadata_written,rfl⟩ := recorded
  refine ⟨rfl,rfl,rfl,rfl,rfl,?_⟩
  obtain ⟨text,formed,its⟩ := hash_ok.mp hashed
  refine hash_ok.mpr ⟨text,?_,its⟩
  have tenanted : (if tenant data.tenantId = "" then none else some (tenant data.tenantId)) = data.tenantId := by
    cases given : data.tenantId with
    | none => rfl
    | some name =>
        have nonempty : name ≠ "" := fun same => named (by rw [given,same])
        simp [tenant,nonempty]
  refine object_congr ?_ formed
  simp only [AuditRow.logged,tenanted]
  have same : ∀ entry : String × Value, entry.1 = entry.1 ∧ entry.2.isUndefined = entry.2.isUndefined ∧
      ∀ text, canonicalize 1 entry.2 = .ok text → canonicalize 1 entry.2 = .ok text := fun _ => ⟨rfl,rfl,fun _ formed => formed⟩
  repeat' apply List.Forall₂.cons
  any_goals exact same _
  · exact ⟨rfl,by rw [orNull_present,orNull_present],column_carried before_kept before_written⟩
  · exact ⟨rfl,by rw [orNull_present,orNull_present],column_carried after_kept after_written⟩
  · exact ⟨rfl,by rw [orNull_present,orNull_present],column_carried metadata_kept metadata_written⟩
  · exact .nil

end Records

section Invariant

structure Pending (tenantId : Option String) (rows : List AuditRow) : Prop where
  some_row : rows ≠ []
  mine : ∀ row ∈ rows, row.tenantId = tenant tenantId ∧ row.sequence = none
  apart : (rows.map AuditRow.id).Nodup
  ordered : rows.Pairwise legacyBefore

-- A backfill about to write: from the end of the chain, with every row that has no sequence; or
-- the next place is taken, and by its own first row only when all its rows are in place.
def Filling (digest : List Char → String) (table : List AuditRow) (tenantId : Option String) (rows : List AuditRow)
    (previousHash : Option String) (sequence : Int) : Prop :=
  ((∃ chain, InChain table tenantId chain ∧ Linked digest none 0 chain ∧ endOf none 0 chain = (previousHash,sequence)) ∧
    ∀ row, row ∈ rows ↔ row ∈ table ∧ unsequenced tenantId row = true) ∨
  (0 ≤ sequence ∧ ∃ row ∈ table, row.tenantId = tenant tenantId ∧ row.sequence = some (sequence + 1) ∧
    ∀ first rest, rows = first :: rest → row.id = first.id → Assigned digest table previousHash sequence rows)

-- What a call relies on, by where it stands.
def Relies (digest : List Char → String) (table : List AuditRow) : Phase → Prop
  | .reading data _ => Kept data
  | .inserting data _ previousHash sequence => Kept data ∧ Behind digest table data.tenantId previousHash (sequence - 1)
  | .loaded tenantId rows => Pending tenantId rows ∧ ∀ row ∈ table, unsequenced tenantId row = true → row ∈ rows
  | .filling tenantId rows previousHash sequence => Pending tenantId rows ∧ Filling digest table tenantId rows previousHash sequence
  | .loading _ | .returned | .thrown _ => True

structure Sound (digest : List Char → String) (s : State) : Prop where
  keyed : Keyed AuditRow.id s.rows
  chains : ∀ tenantId, ∃ chain, InChain s.rows tenantId chain ∧ Linked digest none 0 chain
  calls : ∀ caller phase, s.calls caller = some phase → Relies digest s.rows phase

-- A call goes on; the table is as it was.
theorem sound_put {s : State} (sound : Sound digest s) (relies : Relies digest s.rows phase) : Sound digest (s.put caller phase) := by
  refine ⟨sound.keyed,sound.chains,fun other phase' holds => ?_⟩
  by_cases its : other = caller
  · have same : phase = phase' := by simpa [State.put,its] using holds
    exact same ▸ relies
  · exact sound.calls other phase' (by simpa [State.put,its] using holds)

-- The table grows; every call finds what it relies on.
theorem sound_grown {s : State} (sound : Sound digest s) (grown : Grown digest s.rows rows)
    (filling : ∀ caller tenantId pending previousHash sequence, s.calls caller = some (.filling tenantId pending previousHash sequence) →
      Filling digest rows tenantId pending previousHash sequence) : Sound digest {s with rows := rows} := by
  refine ⟨grown.keyed,fun tenantId => ?_,fun caller phase holds => ?_⟩
  · obtain ⟨chain,its,linked⟩ := sound.chains tenantId
    obtain ⟨added,its',linked'⟩ := grown.chains tenantId chain its linked
    exact ⟨chain ++ added,its',linked'⟩
  · have relies := sound.calls caller phase holds
    cases phase with
    | inserting data attempt previousHash sequence => exact ⟨relies.1,behind_grown relies.2 grown⟩
    | loaded tenantId pending =>
        refine ⟨relies.1,fun row inside listed => relies.2 row (grown.unsequenced row inside ?_) listed⟩
        rw [unsequenced,Bool.and_eq_true,Option.isNone_iff_eq_none] at listed
        exact listed.2
    | filling tenantId pending previousHash sequence =>
        exact ⟨relies.1,filling caller tenantId pending previousHash sequence holds⟩
    | reading | loading | returned | thrown => exact relies

-- The taken place stays taken.
theorem filling_taken {table table' : List AuditRow} (kept : ∀ row ∈ table, ∀ place, row.sequence = some place → row ∈ table')
    (counted : 0 ≤ sequence) (inside : row ∈ table) (tenanted : row.tenantId = tenant tenantId)
    (numbered : row.sequence = some (sequence + 1))
    (assigned : ∀ first rest, rows = first :: rest → row.id = first.id → Assigned digest table previousHash sequence rows) :
    Filling digest table' tenantId rows previousHash sequence :=
  .inr ⟨counted,row,kept row inside _ numbered,tenanted,numbered,
    fun first rest shape same => assigned_kept kept (assigned first rest shape same)⟩

-- Writes for another tenant leave a backfill where it is.
theorem filling_foreign {table table' : List AuditRow} (foreign : ∀ row : AuditRow, row.tenantId = tenant tenantId → (row ∈ table' ↔ row ∈ table))
    (its : InChain table tenantId chain) (linked : Linked digest none 0 chain) (ended : endOf none 0 chain = (previousHash,sequence))
    (covers : ∀ row, row ∈ rows ↔ row ∈ table ∧ unsequenced tenantId row = true) :
    Filling digest table' tenantId rows previousHash sequence := by
  refine .inl ⟨⟨chain,fun row => ?_,linked,ended⟩,fun row => ?_⟩
  · rw [its row]
    refine and_congr_left fun listed => ?_
    rw [sequenced,Bool.and_eq_true,beq_iff_eq] at listed
    exact (foreign row listed.1).symm
  · rw [covers row]
    refine and_congr_left fun listed => ?_
    rw [unsequenced,Bool.and_eq_true,beq_iff_eq] at listed
    exact (foreign row listed.1).symm

theorem taken_row {rows : List AuditRow} {id : String} (inside : row ∈ rows) (other : row.id ≠ id) (tenanted : row.tenantId = name)
    (numbered : row.sequence = some place) : taken rows id name place = true :=
  List.any_eq_true.mpr ⟨row,inside,by simp [other,tenanted,numbered]⟩

theorem sound_insert {s : State} {row : AuditRow} (sound : Sound digest s) (behind : Behind digest s.rows tenantId previousHash (sequence - 1))
    (fresh : ∀ other ∈ s.rows, other.id ≠ row.id) (free : taken s.rows row.id row.tenantId sequence = false)
    (tenanted : row.tenantId = tenant tenantId) (numbered : row.sequence = some sequence) (after : row.previousHash = previousHash)
    (hash : row.hash = some text) (hashed : auditEntryHash digest previousHash sequence row.createdAt row.logged = .ok text) :
    Sound digest {s with rows := s.rows ++ [row]} := by
  obtain ⟨chain,its,linked,ended⟩ := behind
  have follows : sequence - 1 + 1 = sequence := by omega
  have ended : endOf none 0 chain = (previousHash,sequence - 1) := by
    refine ended.resolve_right fun ⟨other,inside,there⟩ => ?_
    obtain ⟨member,listed⟩ := (its other).mp inside
    rw [sequenced,Bool.and_eq_true,beq_iff_eq] at listed
    rw [taken_row member (fresh other member) (listed.1.trans tenanted.symm) (follows ▸ there)] at free
    cases free
  have linked' : Linked digest none 0 (chain ++ [row]) := by
    refine linked_append.mpr ⟨linked,?_⟩
    rw [ended]
    exact ⟨by rw [numbered,follows],after,text,hash,by rw [follows]; exact hashed,trivial⟩
  refine sound_grown sound (grown_insert sound.keyed fresh tenanted its linked') ?_
  intro caller tenantId' pending previousHash' sequence' holds
  obtain ⟨loaded,filling⟩ := sound.calls caller (.filling tenantId' pending previousHash' sequence') holds
  rcases filling with ⟨⟨chain',its',linked'',ended'⟩,covers⟩ | ⟨counted,other,inside,mine,place,assigned⟩
  · by_cases same : tenant tenantId' = tenant tenantId
    · have one : chain' = chain := inChain_same linked'' linked its' its same
      rw [one,ended] at ended'
      cases ended'
      have counted := @endOf_length 0 none chain
      rw [ended] at counted
      refine .inr ⟨by simp only at counted; omega,row,by simp,tenanted.trans same.symm,by rw [numbered,follows],?_⟩
      intro first rest shape clash
      have there := ((covers first).mp (by rw [shape]; exact List.mem_cons_self)).1
      exact absurd clash.symm (fresh first there)
    · refine filling_foreign (fun x mine => ?_) its' linked'' ended' covers
      rw [List.mem_append,List.mem_singleton]
      refine ⟨fun there => there.resolve_right ?_,.inl⟩
      rintro rfl
      exact same (mine.symm.trans tenanted)
  · exact filling_taken (fun x there _ _ => List.mem_append_left _ there) counted inside mine place assigned

-- Two backfills from the same end of the chain have the same rows to place.
theorem pending_unique (loaded : Pending tenantId rows) (loaded' : Pending tenantId' others)
    (same : ∀ row, row ∈ rows ↔ row ∈ others) : rows = others := by
  have alike : rows.Perm others := (List.perm_ext_iff_of_nodup loaded.apart.of_map loaded'.apart.of_map).mpr same
  refine alike.eq_of_pairwise ?_ loaded.ordered loaded'.ordered
  intro a b one other before after
  have ids : a.id = b.id := by
    simp only [legacyBefore] at before after
    rcases before with earlier | ⟨level,small⟩
    · rcases after with later | ⟨equal,_⟩
      · exact absurd later (String.lt_asymm earlier)
      · exact absurd (equal ▸ earlier) (String.lt_irrefl _)
    · rcases after with later | ⟨_,small'⟩
      · exact absurd (level ▸ later) (String.lt_irrefl _)
      · exact String.le_antisymm small small'
  exact List.inj_on_of_nodup_map loaded'.apart ((same a).mp one) other ids

theorem sound_fill {s : State} (sound : Sound digest s)
    (holds : s.calls caller = some (.filling tenantId pending previousHash sequence))
    (filled : backfill digest s.rows previousHash sequence pending = .ok after) : Sound digest {s with rows := after} := by
  obtain ⟨loaded,filling⟩ := sound.calls caller (.filling tenantId pending previousHash sequence) holds
  obtain ⟨first,rest,shape⟩ := List.exists_cons_of_ne_nil loaded.some_row
  rcases filling with ⟨⟨chain,its,linked,ended⟩,covers⟩ | ⟨counted,row,inside,tenanted,numbered,assigned⟩
  · have counted := @endOf_length 0 none chain
    rw [ended] at counted
    have unnumbered : ∀ row ∈ pending, row ∈ s.rows ∧ row.tenantId = tenant tenantId ∧ row.sequence = none :=
      fun row there => ⟨((covers row).mp there).1,loaded.mine row there⟩
    obtain ⟨grown,assigned,others⟩ := backfill_fresh sound.keyed its linked ended unnumbered loaded.apart filled
    refine sound_grown sound grown ?_
    intro caller' tenantId' pending' previousHash' sequence' holds'
    obtain ⟨loaded',filling'⟩ := sound.calls caller' (.filling tenantId' pending' previousHash' sequence') holds'
    rcases filling' with ⟨⟨chain',its',linked',ended'⟩,covers'⟩ | ⟨counted',row,inside,mine,place,assigned'⟩
    · by_cases same : tenant tenantId' = tenant tenantId
      · have one : chain' = chain := inChain_same linked' linked its' its same
        rw [one,ended] at ended'
        cases ended'
        have equal : pending' = pending := pending_unique loaded' loaded fun row => by
          rw [covers row,covers' row,unsequenced,unsequenced,same]
        have placed := assigned
        rw [shape] at placed
        obtain ⟨hash,_,there,_⟩ := placed
        refine .inr ⟨by simp only at counted; omega,_,there,?_,rfl,fun _ _ _ _ => equal ▸ assigned⟩
        exact ((unnumbered first (shape ▸ List.mem_cons_self)).2.1).trans same.symm
      · refine filling_foreign (fun x mine => others x fun clash => ?_) its' linked' ended' covers'
        exact same (mine.symm.trans clash)
    · exact filling_taken (fun x there place numbered => grown_sequenced grown sound.chains there numbered) counted' inside mine
        place assigned'
  · by_cases own : row.id = first.id
    · have same := backfill_again sound.keyed counted (assigned first rest shape own) filled
      rw [same]
      exact sound
    · rw [shape] at filled
      obtain ⟨_,_,free,_⟩ := backfill_cons counted filled
      have mine := (loaded.mine first (shape ▸ List.mem_cons_self)).1
      rw [taken_row inside own (tenanted.trans mine.symm) numbered] at free
      cases free

theorem legacyBefore_total (a b : AuditRow) : legacyBefore a b ∨ legacyBefore b a := by
  simp only [legacyBefore]
  by_cases before : a.createdAt < b.createdAt
  · exact .inl (.inl before)
  by_cases after : b.createdAt < a.createdAt
  · exact .inr (.inl after)
  have same := String.le_antisymm (String.not_lt.mp after) (String.not_lt.mp before)
  rcases String.le_total a.id b.id with small | small
  · exact .inl (.inr ⟨same,small⟩)
  · exact .inr (.inr ⟨same.symm,small⟩)

theorem legacyBefore_trans (before : legacyBefore a b) (after : legacyBefore b c) : legacyBefore a c := by
  simp only [legacyBefore] at before after ⊢
  rcases before with before | ⟨same,small⟩
  · rcases after with after | ⟨same',_⟩
    · exact .inl (String.lt_trans before after)
    · exact .inl (same' ▸ before)
  · rcases after with after | ⟨same',small'⟩
    · exact .inl (same ▸ after)
    · exact .inr ⟨same.trans same',String.le_trans small small'⟩

instance : Std.Total legacyBefore := ⟨legacyBefore_total⟩

instance : IsTrans AuditRow legacyBefore := ⟨fun _ _ _ => legacyBefore_trans⟩

theorem legacy_pending (keyed : Keyed AuditRow.id rows) (found : (legacy rows tenantId).isEmpty = false) :
    Pending tenantId (legacy rows tenantId) := by
  have listed : ∀ row ∈ legacy rows tenantId, unsequenced tenantId row = true := fun row inside =>
    (List.mem_filter.mp ((List.mem_insertionSort legacyBefore).mp inside)).2
  refine ⟨?_,fun row inside => ?_,?_,?_⟩
  · intro none_there
    rw [none_there] at found
    cases found
  · have its := listed row inside
    rw [unsequenced,Bool.and_eq_true,beq_iff_eq,Option.isNone_iff_eq_none] at its
    exact its
  · refine ((List.perm_insertionSort legacyBefore _).map _).nodup_iff.mpr ?_
    exact keyed.sublist (List.filter_sublist.map _)
  · exact List.pairwise_insertionSort legacyBefore _

theorem sound_appendEntry {id createdAt : String} {s : State} (sound : Sound digest s)
    (holds : s.calls caller = some (.inserting data attempt previousHash sequence)) (fresh : ∀ row ∈ s.rows, row.id ≠ id) :
    Sound digest (appendEntry digest s caller data attempt previousHash sequence id createdAt) := by
  obtain ⟨kept,behind⟩ := sound.calls caller (.inserting data attempt previousHash sequence) holds
  simp only [appendEntry]
  split
  · rename_i row written
    simp only [bind_ok] at written
    obtain ⟨hash,hashed,row',recorded,written⟩ := written
    split at written
    · cases written
    · rename_i free
      cases written
      obtain ⟨same,tenanted,numbered,after,its,stored⟩ := record_hashed kept recorded hashed
      have free : taken s.rows row.id row.tenantId sequence = false := by
        rw [same]
        simpa using free
      have grown := sound_insert sound behind (fun other there => same ▸ fresh other there) free tenanted numbered after its stored
      exact sound_put grown trivial
  · split
    · exact sound_put sound kept
    · exact sound_put sound trivial
  · exact sound_put sound trivial

-- The latest entry is the end of the chain.
theorem sound_reading {s : State} (sound : Sound digest s) (kept : Kept data) (attempt : Nat) :
    Sound digest (s.put caller (.inserting data attempt ((latest s.rows data.tenantId).bind (·.1))
      (((latest s.rows data.tenantId).map (·.2)).getD 0 + 1))) := by
  obtain ⟨chain,its,linked⟩ := sound.chains data.tenantId
  have ended := latest_end sound.keyed its linked
  refine sound_put sound ⟨kept,chain,its,linked,.inl ?_⟩
  rw [← ended]
  simp

theorem sound_loading {s : State} (sound : Sound digest s) (tenantId : Option String) :
    Sound digest (s.put caller (if (legacy s.rows tenantId).isEmpty then .returned else .loaded tenantId (legacy s.rows tenantId))) := by
  cases found : (legacy s.rows tenantId).isEmpty with
  | true => exact sound_put sound trivial
  | false =>
      refine sound_put sound ⟨legacy_pending sound.keyed found,fun row inside listed => ?_⟩
      exact (List.mem_insertionSort legacyBefore).mpr (List.mem_filter.mpr ⟨inside,listed⟩)

theorem sound_loaded {s : State} {rows : List AuditRow} (sound : Sound digest s) (holds : s.calls caller = some (.loaded tenantId rows))
    (unplaced : ∀ row ∈ rows, row ∈ s.rows) : Sound digest (s.put caller (.filling tenantId rows ((latest s.rows tenantId).bind (·.1))
      (((latest s.rows tenantId).map (·.2)).getD 0))) := by
  obtain ⟨pending,covers⟩ := sound.calls caller (.loaded tenantId rows) holds
  obtain ⟨chain,its,linked⟩ := sound.chains tenantId
  have ended := latest_end sound.keyed its linked
  refine sound_put sound ⟨pending,.inl ⟨⟨chain,its,linked,ended.symm⟩,fun row => ⟨fun inside => ?_,?_⟩⟩⟩
  · obtain ⟨mine,none_yet⟩ := pending.mine row inside
    exact ⟨unplaced row inside,by simp [unsequenced,mine,none_yet]⟩
  · exact fun ⟨there,listed⟩ => covers row there listed

theorem sound_advance {s t : State} (sound : Sound digest s) (allowed : Allowed s action)
    (moved : advance digest s action = some t) : Sound digest t := by
  cases action with
  | create caller data =>
      simp only [advance] at moved
      split at moved
      · cases moved
        exact sound_put sound allowed
      · cases moved
  | backfillChain caller tenantId =>
      simp only [advance] at moved
      split at moved
      · cases moved
        exact sound_put sound trivial
      · cases moved
  | read caller =>
      simp only [advance,Option.bind_eq_bind,Option.bind_eq_some_iff] at moved
      obtain ⟨phase,holds,moved⟩ := moved
      have relies := sound.calls caller phase holds
      cases phase with
      | reading data attempt =>
          cases moved
          exact sound_reading sound relies attempt
      | loading tenantId =>
          cases moved
          exact sound_loading sound tenantId
      | loaded tenantId rows =>
          cases moved
          exact sound_loaded sound holds (allowed tenantId rows holds)
      | filling tenantId rows previousHash sequence =>
          cases filled : backfill digest s.rows previousHash sequence rows with
          | error error =>
              simp only [filled] at moved
              cases moved
              exact sound_put sound trivial
          | ok after =>
              simp only [filled] at moved
              cases moved
              exact sound_put (sound_fill sound holds filled) trivial
      | inserting _ _ _ _ | returned | thrown _ => cases moved
  | insert caller id createdAt =>
      simp only [advance,Option.bind_eq_bind,Option.bind_eq_some_iff] at moved
      obtain ⟨phase,holds,moved⟩ := moved
      cases phase with
      | inserting data attempt previousHash sequence =>
          simp only at moved
          split at moved
          · cases moved
          · rename_i unused
            cases moved
            refine sound_appendEntry sound holds fun row inside same => unused ?_
            exact List.any_eq_true.mpr ⟨row,inside,by simp [same]⟩
      | reading _ _ | loading _ | loaded _ _ | filling _ _ _ _ | returned | thrown _ => cases moved
  | abort caller error =>
      simp only [advance,Option.map_eq_some_iff] at moved
      obtain ⟨_,_,rfl⟩ := moved
      exact sound_put sound trivial

theorem sound_reached (path : Reached (audit digest) Allowed s) : Sound digest s := by
  refine path.invariant (Sound digest) ?_ ?_
  · rintro u ⟨unnumbered,keyed,idle⟩
    refine ⟨keyed,fun tenantId => ⟨[],fun row => ⟨nofun,fun ⟨there,listed⟩ => ?_⟩,trivial⟩,fun caller phase holds => ?_⟩
    · simp [sequenced,unnumbered row there] at listed
    · rw [idle] at holds
      cases holds
  · intro u action next _ sound allowed moved
    exact sound_advance sound allowed moved

end Invariant

theorem linked_previous {chain : List AuditRow} (linked : Linked digest previousHash sequence chain) :
    chain.map AuditRow.previousHash = (previousHash :: chain.map AuditRow.hash).dropLast := by
  induction chain generalizing previousHash sequence with
  | nil => rfl
  | cons row rest ih =>
      obtain ⟨_,after,hash,its,_,linked⟩ := linked
      rw [List.map_cons,List.map_cons,List.dropLast_cons_cons,ih linked,after,its]

theorem honest_chain_verifies (path : Reached (audit digest) Allowed s) (tenantId : Option String) :
    (∃ chain, InChain s.rows tenantId chain ∧
      chain.map AuditRow.sequence = (List.range chain.length).map (fun index : Nat => some ((index : Int) + 1)) ∧
      chain.map AuditRow.previousHash = (none :: chain.map AuditRow.hash).dropLast ∧ Linked digest none 0 chain) ∧
    verifyChain digest s.rows tenantId = .ok true := by
  have sound := sound_reached path
  obtain ⟨chain,its,linked⟩ := sound.chains tenantId
  refine ⟨⟨chain,its,?_,linked_previous linked,linked⟩,linked_verifyChain sound.keyed its linked⟩
  rw [linked_places linked]
  apply List.map_congr_left
  intro index _
  simp only [Option.some.injEq]
  omega

section Schedules

-- A digest that is quick to evaluate.
def checksum (text : List Char) : String := toString (text.foldl (fun sum c => (sum * 31 + c.toNat) % 4294967296) 7)

def entry (tenantId : Option String) (after : Value) : NewAuditLog :=
  ⟨tenantId,"c1",none,none,"payment.charged","payment","pay_1",.null,after,.null,none,none⟩

def creating (caller : Nat) (data : NewAuditLog) (id : String) : List Action :=
  [.create caller data,.read caller,.insert caller id "2026-01-01T00:00:00.000Z"]

def legacyRow : AuditRow :=
  ⟨"a1",none,"","c1",none,none,"payment.charged","payment","pay_1",.null,.null,.null,none,none,none,none,"2025-01-01T00:00:00.000Z"⟩

-- The second backfill has loaded the row before the first gives it a place.
def overlapping : List Action :=
  [.backfillChain 0 none,.backfillChain 1 none,.read 0,.read 1,.read 0,.read 0,.read 1,.read 1]

def verifies (tenantId : Option String) (verdict : Bool) (s : State) : Bool :=
  decide ((verifyChain checksum s.rows tenantId).toOption = some verdict)

-- What logs at most a number, and reads no latest entry for a backfill.
def silent (data : NewAuditLog) : Bool :=
  data.tenantId != some "" && match data.before,data.after,data.metadata with
    | .null,.null,.null | .null,.object [(_,.number _)],.null => true
    | _,_,_ => false

def plain (s : State) : Action → Bool
  | .create _ data => silent data
  | .read caller => (s.calls caller).all fun phase => match phase with
    | .loaded _ _ => false
    | _ => true
  | _ => true

theorem silent_kept {data : NewAuditLog} (its : silent data = true) : Kept data := by
  unfold silent at its
  rw [Bool.and_eq_true,bne_iff_ne] at its
  obtain ⟨named,values⟩ := its
  split at values
  · rename_i before after metadata
    rw [Kept,before,after,metadata]
    exact ⟨named,trivial,trivial,trivial⟩
  · rename_i before after metadata
    rw [Kept,before,after,metadata]
    exact ⟨named,trivial,⟨.inr ⟨trivial,nofun⟩,trivial⟩,trivial⟩
  · cases values

theorem plain_allowed (s : State) (action : Action) (its : plain s action = true) : Allowed s action := by
  cases action with
  | create caller data => exact silent_kept its
  | read caller =>
      intro tenantId rows holds
      simp [plain,holds] at its
  | backfillChain | insert | abort => trivial

def older : AuditRow := {legacyRow with id := "a0",createdAt := "2024-01-01T00:00:00.000Z"}

-- Two rows of older versions, which a backfill has loaded and is about to give places.
def loaded : State := State.put ⟨[legacyRow,older],fun _ => none⟩ 0 (.loaded none (legacy [legacyRow,older] none))

def charged (tenantId : Option String) (amount : Nat) : NewAuditLog :=
  entry tenantId (.object [("amount",.number (.ofNat amount))])

-- It places them; then two entries of one tenant race for a place, beside those of another.
def racedBeside : List Action :=
  [.read 0 :: creating 1 (charged (some "acme") 100) "b1",
    [.create 2 (charged none 9900),.create 3 (charged none 500),.read 2,.read 3,.insert 2 "a2" "2026-01-01T00:00:00.000Z",
      .insert 3 "a3" "2026-01-01T00:00:00.000Z",.read 3,.insert 3 "a3" "2026-01-01T00:00:00.001Z"],
    creating 4 (charged (some "acme") 200) "b2"].flatten

theorem loaded_reached : Reached (audit checksum) Allowed loaded := by
  let empty : State := ⟨[legacyRow,older],fun _ => none⟩
  let opened : State := empty.put 0 (.loading none)
  have initial : (audit checksum).initial empty := ⟨by simp [empty,legacyRow,older],by decide,rfl⟩
  have unloaded : Allowed opened (.read 0) := fun tenantId rows holds => by cases holds
  have same : opened.put 0 (.loaded none (legacy [legacyRow,older] none)) = loaded := by
    simp [opened,empty,loaded,State.put]
  have filling : Allowed empty (.backfillChain 0 none) := trivial
  exact ⟨empty,initial,.step (.step .refl filling rfl) unloaded (same ▸ rfl)⟩

theorem honest_chain_verifies_raced :
    ∃ s, Reached (audit checksum) Allowed s ∧
      (s.rows.map fun row => (row.id,row.sequence)) =
        [("a1",some 2),("a0",some 1),("b1",some 1),("a2",some 3),("a3",some 4),("b2",some 2)] ∧
      verifyChain checksum s.rows none = .ok true ∧ verifyChain checksum s.rows (some "acme") = .ok true := by
  have passed : (advance checksum loaded (.read 0)).any (fun filling =>
      (run (audit checksum) (fun s action => plain s action = true) filling racedBeside).any fun s =>
        (s.rows.map fun row => (row.id,row.sequence)) ==
          [("a1",some 2),("a0",some 1),("b1",some 1),("a2",some 3),("a3",some 4),("b2",some 2)]) = true := by decide +kernel
  obtain ⟨filling,read,ran⟩ := (Option.any_eq_true _ _).mp passed
  obtain ⟨s,path,found⟩ := run_lands ran
  have unchanged : Allowed loaded (.read 0) := by
    rintro tenantId rows holds row inside
    cases holds
    exact List.mem_of_mem_filter ((List.perm_insertionSort _ _).mem_iff.mp inside)
  have reached : Reached (audit checksum) Allowed s :=
    (loaded_reached.later (.step .refl unchanged read)).later (path.weaken plain_allowed)
  exact ⟨s,reached,beq_iff_eq.mp found,(honest_chain_verifies reached none).2,(honest_chain_verifies reached (some "acme")).2⟩

theorem honest_chain_broken :
    (∃ s, Reached (audit checksum) anyStep s ∧ verifyChain checksum s.rows (some "") = .ok false) ∧
    (∃ s, Reached (audit checksum) anyStep s ∧ verifyChain checksum s.rows none = .ok false) ∧
    ∃ s, Reached (audit checksum) anyStep s ∧ verifyChain checksum s.rows none = .ok false := by
  have empty : (audit checksum).initial ⟨[],fun _ => none⟩ := by
    refine ⟨fun row inside => ?_,List.nodup_nil,rfl⟩
    cases inside
  have legacy : (audit checksum).initial ⟨[legacyRow],fun _ => none⟩ := ⟨by simp [legacyRow],List.nodup_singleton _,rfl⟩
  refine ⟨?_,?_,?_⟩
  · have passed : (run (audit checksum) anyStep ⟨[],fun _ => none⟩ (creating 0 (entry (some "") .null) "a1")).any
        (verifies (some "") false) = true := by decide +kernel
    obtain ⟨s,path,found⟩ := run_reaches empty passed
    exact ⟨s,path,toOption_ok (of_decide_eq_true found)⟩
  · have passed : (run (audit checksum) anyStep ⟨[],fun _ => none⟩
        (creating 0 (entry none (.object [("lines",.array [.null,.hole])])) "a1")).any (verifies none false) = true := by
      decide +kernel
    obtain ⟨s,path,found⟩ := run_reaches empty passed
    exact ⟨s,path,toOption_ok (of_decide_eq_true found)⟩
  · have passed : (run (audit checksum) anyStep ⟨[legacyRow],fun _ => none⟩ overlapping).any (verifies none false) = true := by
      decide +kernel
    obtain ⟨s,path,found⟩ := run_reaches legacy passed
    exact ⟨s,path,toOption_ok (of_decide_eq_true found)⟩

end Schedules

end Payable.Audit
