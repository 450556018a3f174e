import Payable.Audit.Chain

namespace Payable.Audit
open JsonText Tables Checked

variable {digest : List Char → String} {sequence : Int}

theorem hash_ok {hash : String} : auditEntryHash digest previousHash sequence createdAt data = .ok hash ↔
    ∃ text, canonicalize 0 (auditPayload previousHash sequence createdAt data) = .ok text ∧ digest text = hash := by
  unfold auditEntryHash
  cases canonicalize 0 (auditPayload previousHash sequence createdAt data) with
  | error message => exact ⟨nofun,fun ⟨_,impossible,_⟩ => nomatch impossible⟩
  | ok text => simp [Except.map,Except.mapError]

-- Rows that follow on a hash and a sequence, each built on the one before.
def Linked (digest : List Char → String) : Option String → Int → List AuditRow → Prop
  | _,_,[] => True
  | previousHash,sequence,row :: rest => row.sequence = some (sequence + 1) ∧ row.previousHash = previousHash ∧
    ∃ hash, row.hash = some hash ∧ auditEntryHash digest previousHash (sequence + 1) row.createdAt row.logged = .ok hash ∧
      Linked digest (some hash) (sequence + 1) rest

def endOf : Option String → Int → List AuditRow → Option String × Int
  | previousHash,sequence,[] => (previousHash,sequence)
  | _,sequence,row :: rest => endOf row.hash (sequence + 1) rest

def InChain (rows : List AuditRow) (tenantId : Option String) (chain : List AuditRow) : Prop :=
  ∀ row, row ∈ chain ↔ row ∈ rows ∧ sequenced tenantId row = true

section Links

theorem linked_append {chain more : List AuditRow} : Linked digest previousHash sequence (chain ++ more) ↔
    Linked digest previousHash sequence chain ∧
      Linked digest (endOf previousHash sequence chain).1 (endOf previousHash sequence chain).2 more := by
  induction chain generalizing previousHash sequence with
  | nil => simp [Linked,endOf]
  | cons row rest ih =>
      simp only [List.cons_append,Linked,endOf]
      constructor
      · rintro ⟨numbered,after,hash,its,hashed,linked⟩
        rw [its]
        exact ⟨⟨numbered,after,hash,rfl,hashed,(ih.mp linked).1⟩,(ih.mp linked).2⟩
      · rintro ⟨⟨numbered,after,hash,its,hashed,linked⟩,more⟩
        rw [its] at more
        exact ⟨numbered,after,hash,its,hashed,ih.mpr ⟨linked,more⟩⟩

theorem endOf_append (chain more : List AuditRow) : endOf previousHash sequence (chain ++ more) =
    endOf (endOf previousHash sequence chain).1 (endOf previousHash sequence chain).2 more := by
  induction chain generalizing previousHash sequence with
  | nil => rfl
  | cons row rest ih => exact ih

theorem endOf_length (chain : List AuditRow) : (endOf previousHash sequence chain).2 = sequence + chain.length := by
  induction chain generalizing previousHash sequence with
  | nil => simp [endOf]
  | cons row rest ih =>
      rw [endOf,ih,List.length_cons]
      omega

-- The sequences of a chain are consecutive.
theorem linked_places {chain : List AuditRow} (linked : Linked digest previousHash sequence chain) :
    chain.map AuditRow.sequence = (List.range chain.length).map fun (index : Nat) => some (sequence + 1 + index) := by
  induction chain generalizing previousHash sequence with
  | nil => rfl
  | cons row rest ih =>
      obtain ⟨numbered,_,hash,_,_,linked⟩ := linked
      rw [List.map_cons,ih linked,numbered,List.length_cons,List.range_succ_eq_map,List.map_cons,List.map_map]
      congr 1
      · simp
      · apply List.map_congr_left
        intro index _
        simp only [Function.comp,Option.some.injEq]
        omega

theorem linked_later {chain : List AuditRow} (linked : Linked digest previousHash sequence chain) (inside : row ∈ chain) :
    ∃ place, row.sequence = some place ∧ sequence < place ∧ place ≤ sequence + chain.length := by
  have listed : row.sequence ∈ chain.map AuditRow.sequence := List.mem_map_of_mem inside
  rw [linked_places linked] at listed
  obtain ⟨index,bounded,its⟩ := List.mem_map.mp listed
  have below := List.mem_range.mp bounded
  exact ⟨_,its.symm,by omega,by omega⟩

theorem linked_sorted {chain : List AuditRow} (linked : Linked digest previousHash sequence chain) :
    chain.Pairwise fun a b => a.place < b.place := by
  induction chain generalizing previousHash sequence with
  | nil => exact .nil
  | cons row rest ih =>
      obtain ⟨numbered,_,hash,_,_,linked⟩ := linked
      refine .cons (fun other inside => ?_) (ih linked)
      obtain ⟨place,its,later,_⟩ := linked_later linked inside
      simp only [AuditRow.place,numbered,its,Option.getD_some]
      exact later

end Links

section Tables

theorem nodup_places {rows : List AuditRow} (sorted : rows.Pairwise fun a b => a.place < b.place) : (rows.map AuditRow.place).Nodup :=
  List.pairwise_map.mpr (sorted.imp fun before => Int.ne_of_lt before)

-- Two ascending lists of the same rows are one list, also where only one is known to be strict.
theorem ascending_unique {rows others : List AuditRow} (sorted : rows.Pairwise fun a b => a.place < b.place)
    (nodup : others.Nodup) (ascending : others.Pairwise fun a b => a.place ≤ b.place) (same : ∀ row, row ∈ rows ↔ row ∈ others) :
    others = rows := by
  have distinct := nodup_places sorted
  have alike : others.Perm rows := (List.perm_ext_iff_of_nodup nodup distinct.of_map).mpr fun row => (same row).symm
  refine alike.eq_of_pairwise ?_ ascending (sorted.imp fun before => Int.le_of_lt before)
  intro a b one other before after
  exact List.inj_on_of_nodup_map distinct ((same a).mpr one) other (Int.le_antisymm before after)

theorem inChain_unique (linked : Linked digest previousHash sequence chain) (linked' : Linked digest previousHash' sequence' other)
    (its : InChain rows tenantId chain) (its' : InChain rows tenantId other) : chain = other := by
  have sorted := linked_sorted linked
  exact ascending_unique (linked_sorted linked') (nodup_places sorted).of_map (sorted.imp fun before => Int.le_of_lt before)
    fun row => (its' row).trans (its row).symm

-- Names of one tenant have one chain.
theorem inChain_same (linked : Linked digest previousHash sequence chain) (linked' : Linked digest previousHash' sequence' other)
    (its : InChain rows tenantId chain) (its' : InChain rows tenantId' other) (same : tenant tenantId = tenant tenantId') : chain = other := by
  refine inChain_unique linked linked' its fun row => ?_
  rw [its' row,sequenced,sequenced,same]

theorem ascending_sorted (rows : List AuditRow) :
    (rows.insertionSort fun a b => a.place ≤ b.place).Pairwise fun a b => a.place ≤ b.place :=
  have : Std.Total fun a b : AuditRow => a.place ≤ b.place := ⟨fun a b => Int.le_total a.place b.place⟩
  have : IsTrans AuditRow fun a b => a.place ≤ b.place := ⟨fun _ _ _ => Int.le_trans⟩
  List.pairwise_insertionSort _ rows

theorem descending_sorted (rows : List AuditRow) :
    (rows.insertionSort fun a b => b.place ≤ a.place).Pairwise fun a b => b.place ≤ a.place :=
  have : Std.Total fun a b : AuditRow => b.place ≤ a.place := ⟨fun a b => Int.le_total b.place a.place⟩
  have : IsTrans AuditRow fun a b => b.place ≤ a.place := ⟨fun _ _ _ before after => Int.le_trans after before⟩
  List.pairwise_insertionSort _ rows

theorem chain_filtered (keyed : Keyed AuditRow.id rows) (its : InChain rows tenantId chain)
    (linked : Linked digest previousHash sequence chain) : (rows.filter (sequenced tenantId)).Perm chain := by
  have nodup : (rows.filter (sequenced tenantId)).Nodup := (List.Nodup.of_map _ keyed).filter _
  refine (List.perm_ext_iff_of_nodup nodup (nodup_places (linked_sorted linked)).of_map).mpr fun row => ?_
  rw [List.mem_filter,its row]

-- latest reads the end of the chain.
theorem latest_end (keyed : Keyed AuditRow.id rows) (its : InChain rows tenantId chain) (linked : Linked digest none 0 chain) :
    ((latest rows tenantId).bind (·.1),((latest rows tenantId).map (·.2)).getD 0) = endOf none 0 chain := by
  have sorted := linked_sorted linked
  have backwards : ((rows.filter (sequenced tenantId)).insertionSort fun a b => b.place ≤ a.place) = chain.reverse := by
    have alike := ((List.perm_insertionSort (fun a b : AuditRow => b.place ≤ a.place) _).trans (chain_filtered keyed its linked)).trans
      chain.reverse_perm.symm
    refine alike.eq_of_pairwise ?_ (descending_sorted _)
      (List.pairwise_reverse.mpr (sorted.imp fun before => Int.le_of_lt before))
    intro a b one other before after
    have inside : a ∈ chain := List.mem_reverse.mp (alike.mem_iff.mp one)
    exact List.inj_on_of_nodup_map (nodup_places sorted) inside (List.mem_reverse.mp other) (Int.le_antisymm after before)
  rw [latest,backwards,List.head?_reverse]
  rcases List.eq_nil_or_concat chain with rfl | ⟨chain,row,rfl⟩
  · rfl
  · rw [List.concat_eq_append] at linked ⊢
    obtain ⟨_,numbered,_,hash,hashed,_⟩ := linked_append.mp linked
    rw [endOf_append]
    simp [endOf,hashed,AuditRow.place,numbered]

end Tables

section Verification

theorem toEntity_numbered {row : AuditRow} (numbered : row.sequence = some place) (positive : 0 < place) :
    toEntity row = .ok ⟨row.logged,row.id,place,row.previousHash,row.hash,row.createdAt⟩ := by
  simp only [toEntity,numbered]
  rw [if_neg (by omega)]

-- A chain verifies link by link.
theorem linked_verified {chain : List AuditRow} (linked : Linked digest previousHash sequence chain) (counted : 0 ≤ sequence) :
    verifyPage digest previousHash sequence chain =
      .ok (some (endOf previousHash sequence chain)) := by
  induction chain generalizing previousHash sequence with
  | nil => rfl
  | cons row rest ih =>
      obtain ⟨numbered,after,hash,its,hashed,linked⟩ := linked
      rw [verifyPage,toEntity_numbered numbered (by omega)]
      simp only [bind,Except.bind,auditLinkValid,after,ne_eq,not_true_eq_false,if_false,hashed,timingSafeEqual,its,beq_self_eq_true,
        if_true]
      rw [ih linked (by omega)]
      simp [endOf,its]

-- UNIQUE (tenant_id, sequence), for the rows of one tenant.
def Distinct (rows : List AuditRow) (tenantId : Option String) : Prop :=
  ((rows.filter (sequenced tenantId)).map AuditRow.place).Nodup

theorem chainAfter_strict (distinct : Distinct rows tenantId) :
    (chainAfter rows tenantId afterSequence).Pairwise fun a b => a.place < b.place := by
  have fewer : ((chainAfter rows tenantId afterSequence).map AuditRow.place).Nodup := by
    refine ((List.perm_insertionSort _ _).map _).nodup_iff.mpr (distinct.sublist (List.Sublist.map _ ?_))
    refine List.monotone_filter_right rows fun row listed => ?_
    simp only [sequenced,Bool.and_eq_true] at listed ⊢
    exact ⟨listed.1,by cases its : row.sequence <;> simp_all⟩
  have sorted := (ascending_sorted _).and (List.pairwise_map.mp fewer)
  exact sorted.imp fun both => by omega

theorem chainAfter_nodup (distinct : Distinct rows tenantId) (afterSequence : Int) :
    (chainAfter rows tenantId afterSequence).Nodup :=
  (nodup_places (chainAfter_strict distinct)).of_map

theorem mem_chainAfter : row ∈ chainAfter rows tenantId afterSequence ↔
    row ∈ rows ∧ row.tenantId = tenant tenantId ∧ ∃ place, row.sequence = some place ∧ afterSequence < place := by
  rw [chainAfter,List.mem_insertionSort,List.mem_filter,Bool.and_eq_true,beq_iff_eq,Option.any_eq_true]
  simp only [decide_eq_true_eq]

-- The rows after a row of the list are the rest of the list.
theorem chainAfter_drop (distinct : Distinct rows tenantId)
    (split : chainAfter rows tenantId afterSequence = before ++ last :: rest) : chainAfter rows tenantId last.place = rest := by
  have strict : (before ++ last :: rest).Pairwise fun a b => a.place < b.place := split ▸ chainAfter_strict distinct
  obtain ⟨_,later,above⟩ := List.pairwise_append.mp strict
  have listed : ∀ row, row ∈ before ++ last :: rest ↔ _ := fun row => split ▸ mem_chainAfter
  refine ascending_unique (List.pairwise_cons.mp later).2 (chainAfter_nodup distinct _) (ascending_sorted _) fun row => ?_
  obtain ⟨_,_,place,numbered,after⟩ := (listed last).mp (by simp)
  have its : last.place = place := by rw [AuditRow.place,numbered]; rfl
  refine Iff.trans ?_ mem_chainAfter.symm
  constructor
  · intro inside
    obtain ⟨there,tenanted,place',numbered',_⟩ := (listed row).mp (by simp [inside])
    have below := (List.pairwise_cons.mp later).1 row inside
    refine ⟨there,tenanted,place',numbered',?_⟩
    simpa [AuditRow.place,numbered'] using below
  · rintro ⟨there,tenanted,place',numbered',beyond⟩
    have inside := (listed row).mpr ⟨there,tenanted,place',numbered',by omega⟩
    have its' : row.place = place' := by rw [AuditRow.place,numbered']; rfl
    rcases List.mem_append.mp inside with earlier | here
    · have below := above row earlier last List.mem_cons_self
      omega
    · rcases List.mem_cons.mp here with rfl | inside
      · omega
      · exact inside

theorem verifyPage_append (page rest : List AuditRow) : verifyPage digest previousHash afterSequence (page ++ rest) = (do
    match ← verifyPage digest previousHash afterSequence page with
    | none => .ok none
    | some (previousHash,afterSequence) => verifyPage digest previousHash afterSequence rest) := by
  induction page generalizing previousHash afterSequence with
  | nil => rfl
  | cons row page ih =>
      simp only [List.cons_append,verifyPage]
      cases toEntity row with
      | error error => rfl
      | ok entry =>
          simp only [bind,Except.bind]
          cases auditLinkValid digest previousHash entry.sequence entry with
          | error error => rfl
          | ok valid =>
              cases valid with
              | false => rfl
              | true => exact ih

-- A page that verifies ends at the place of its last row.
theorem verifyPage_last (verified : verifyPage digest previousHash afterSequence (before ++ [last]) =
    .ok (some (nextHash,nextSequence))) : nextSequence = last.place := by
  rw [verifyPage_append,bind_ok] at verified
  obtain ⟨ended,_,verified⟩ := verified
  cases ended with
  | none => cases verified
  | some ended =>
      simp only [verifyPage,bind_ok] at verified
      obtain ⟨entry,read,valid,_,verified⟩ := verified
      cases valid with
      | false => cases verified
      | true =>
          cases verified
          unfold toEntity at read
          split at read
          · cases read
          · rename_i place numbered
            split at read
            · cases read
            · cases read
              rw [AuditRow.place,numbered]
              rfl

-- Page by page is row by row.
theorem verifyPages_walk (distinct : Distinct rows tenantId) (fuel : Nat) :
    ∀ previousHash afterSequence, (chainAfter rows tenantId afterSequence).length < fuel →
      verifyPages digest rows tenantId fuel previousHash afterSequence =
        (verifyPage digest previousHash afterSequence (chainAfter rows tenantId afterSequence)).map Option.isSome := by
  induction fuel with
  | zero => exact fun _ _ enough => absurd enough (Nat.not_lt_zero _)
  | succ fuel ih =>
      intro previousHash afterSequence enough
      have split := (List.take_append_drop maxAuditListLimit (chainAfter rows tenantId afterSequence)).symm
      rw [verifyPages]
      conv_rhs => rw [split,verifyPage_append]
      change _ = Except.map _ (bind (verifyPage digest previousHash afterSequence (chainPage rows tenantId afterSequence)) _)
      cases ran : verifyPage digest previousHash afterSequence (chainPage rows tenantId afterSequence) with
      | error error => rfl
      | ok ended =>
          cases ended with
          | none => rfl
          | some ended =>
              simp only [bind,Except.bind]
              by_cases short : (chainPage rows tenantId afterSequence).length < maxAuditListLimit
              · rw [if_pos short]
                rw [chainPage,List.length_take] at short
                rw [List.drop_eq_nil_of_le (by omega)]
                rfl
              · rw [if_neg short]
                rw [chainPage,List.length_take] at short
                have full : maxAuditListLimit ≤ (chainAfter rows tenantId afterSequence).length := by omega
                have some_taken : (chainPage rows tenantId afterSequence) ≠ [] := by
                  rw [chainPage,Ne,List.take_eq_nil_iff]
                  rintro (none_allowed | none_there)
                  · cases none_allowed
                  · rw [none_there] at full
                    cases full
                obtain ⟨before,last,shape⟩ := List.eq_nil_or_concat (chainPage rows tenantId afterSequence) |>.resolve_left some_taken
                rw [List.concat_eq_append] at shape
                rw [shape] at ran
                have place := verifyPage_last ran
                have rest : chainAfter rows tenantId last.place =
                    (chainAfter rows tenantId afterSequence).drop maxAuditListLimit := by
                  have parted : chainAfter rows tenantId afterSequence = before ++ last ::
                      (chainAfter rows tenantId afterSequence).drop maxAuditListLimit := by
                    conv_lhs => rw [split]
                    rw [← chainPage,shape,List.append_assoc,List.singleton_append]
                  exact chainAfter_drop distinct parted
                have fewer : (chainAfter rows tenantId ended.2).length < fuel := by
                  have positive : 0 < maxAuditListLimit := by decide
                  rw [place,rest,List.length_drop]
                  omega
                rw [ih ended.1 ended.2 fewer,place,rest]

theorem verifyChain_walk (distinct : Distinct rows tenantId) :
    verifyChain digest rows tenantId = (verifyPage digest none 0 (chainAfter rows tenantId 0)).map Option.isSome := by
  refine verifyPages_walk distinct _ none 0 ?_
  rw [chainAfter,List.length_insertionSort]
  exact Nat.lt_succ_of_le (List.length_filter_le _ _)

theorem inChain_distinct (keyed : Keyed AuditRow.id rows) (its : InChain rows tenantId chain)
    (linked : Linked digest none 0 chain) : Distinct rows tenantId :=
  ((chain_filtered keyed its linked).map _).nodup_iff.mpr (nodup_places (linked_sorted linked))

theorem chainAfter_chain (distinct : Distinct rows tenantId) (its : InChain rows tenantId chain)
    (linked : Linked digest none 0 chain) : chainAfter rows tenantId 0 = chain := by
  refine ascending_unique (linked_sorted linked) (chainAfter_nodup distinct _) (ascending_sorted _) fun row => ?_
  refine Iff.trans ?_ mem_chainAfter.symm
  constructor
  · intro inside
    obtain ⟨there,listed⟩ := (its row).mp inside
    obtain ⟨place,numbered,above,_⟩ := linked_later linked inside
    simp only [sequenced,Bool.and_eq_true,beq_iff_eq] at listed
    exact ⟨there,listed.1,place,numbered,above⟩
  · rintro ⟨there,tenanted,place,numbered,_⟩
    exact (its row).mpr ⟨there,by simp [sequenced,tenanted,numbered]⟩

theorem linked_verifyChain (keyed : Keyed AuditRow.id rows) (its : InChain rows tenantId chain)
    (linked : Linked digest none 0 chain) : verifyChain digest rows tenantId = .ok true := by
  have distinct := inChain_distinct keyed its linked
  rw [verifyChain_walk distinct,chainAfter_chain distinct its linked,linked_verified linked (by omega)]
  rfl

end Verification

end Payable.Audit
