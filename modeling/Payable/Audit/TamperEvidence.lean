import Payable.Audit.HonestChain
import Mathlib.Data.List.Induction

namespace Payable.Audit
open JsonText Tables Checked

variable {digest : List Char → String} {sequence : Int}

def lastHash (rows : List AuditRow) (tenantId : Option String) : Option String :=
  (chainAfter rows tenantId 0).getLast?.bind AuditRow.hash

def Column.json (column : Column) : Json := column.read.getD .null

-- Two JSON columns that read the same; the order of an object's members is no part of it.
def SameJson (left right : Column) : Prop := normal left.json = normal right.json

structure Agree (left right : AuditRow) : Prop where
  sequence : left.sequence = right.sequence
  previousHash : left.previousHash = right.previousHash
  hash : left.hash = right.hash
  createdAt : left.createdAt = right.createdAt
  correlationId : left.correlationId = right.correlationId
  actorType : left.actorType = right.actorType
  actorId : left.actorId = right.actorId
  action : left.action = right.action
  resourceType : left.resourceType = right.resourceType
  resourceId : left.resourceId = right.resourceId
  before : SameJson left.before right.before
  after : SameJson left.after right.after
  metadata : SameJson left.metadata right.metadata
  ipAddress : left.ipAddress = right.ipAddress
  userAgent : left.userAgent = right.userAgent

section Payloads

def optionalJson (text : Option String) : Json := (text.map .string).getD .null

theorem optional_toValue (text : Option String) : optional text = toValue (optionalJson text) := by
  cases text <;> rfl

theorem toJson_toValue (column : Column) : (toJson column).orNull = toValue column.json := by
  rw [toJson,parsed_orNull,Column.json]
  cases column.read <;> rfl

theorem optionalJson_normal (text : Option String) : normal (optionalJson text) = optionalJson text := by
  cases text <;> rfl

theorem optionalJson_injective (same : optionalJson a = optionalJson b) : a = b := by
  cases a <;> cases b <;> simp_all [optionalJson]

def rowTenant (row : AuditRow) : Option String := if row.tenantId = "" then none else some row.tenantId

def payloadMembers (row : AuditRow) (previousHash : Option String) (sequence : Int) : List (String × Json) :=
  [("previousHash",optionalJson previousHash),("sequence",.number (.ofInt sequence)),("createdAt",.string row.createdAt),
    ("tenantId",optionalJson (rowTenant row)),("correlationId",.string row.correlationId),
    ("actorType",optionalJson row.actorType),("actorId",optionalJson row.actorId),("action",.string row.action),
    ("resourceType",.string row.resourceType),("resourceId",.string row.resourceId),("before",row.before.json),
    ("after",row.after.json),("metadata",row.metadata.json),("ipAddress",optionalJson row.ipAddress),
    ("userAgent",optionalJson row.userAgent)]

theorem payload_toValue (row : AuditRow) : auditPayload previousHash sequence row.createdAt row.logged =
    toValue (.object (payloadMembers row previousHash sequence)) := by
  simp only [auditPayload,payloadMembers,toValue,toMembers,AuditRow.logged,rowTenant,optional_toValue,toJson_toValue]

-- Members of one order of names are told apart by their order alone.
theorem members_unique {members others : List (String × Json)} (alike : members.Perm others)
    (names : members.map Prod.fst = others.map Prod.fst) (distinct : (members.map Prod.fst).Nodup) : members = others := by
  induction members generalizing others with
  | nil => exact alike.nil_eq
  | cons entry rest ih =>
      cases others with
      | nil => cases names
      | cons other more =>
          obtain ⟨name,later⟩ := List.cons.inj names
          have apart := List.nodup_cons.mp distinct
          have same : entry = other := by
            rcases List.mem_cons.mp (alike.mem_iff.mp List.mem_cons_self) with same | inside
            · exact same
            · exact absurd (later ▸ List.mem_map_of_mem inside) apart.1
          rw [same] at alike ⊢
          rw [ih (alike.cons_inv) later apart.2]

def payloadNames : List String :=
  ["previousHash","sequence","createdAt","tenantId","correlationId","actorType","actorId","action","resourceType","resourceId",
    "before","after","metadata","ipAddress","userAgent"]

theorem payload_names (row : AuditRow) (previousHash : Option String) (sequence : Int) :
    (normalMembers (payloadMembers row previousHash sequence)).map Prod.fst = payloadNames := by
  rw [normalMembers_map,List.map_map]
  rfl

theorem payload_agrees {row other : AuditRow}
    (same : normal (.object (payloadMembers row previousHash sequence)) =
      normal (.object (payloadMembers other previousHash' sequence'))) :
    normalMembers (payloadMembers row previousHash sequence) = normalMembers (payloadMembers other previousHash' sequence') := by
  have sorted (members : List (String × Json)) : (sortByKey members).Perm members := List.perm_insertionSort keyBefore members
  rw [normal,normal] at same
  have equal := Json.object.inj same
  refine members_unique ((sorted _).symm.trans ?_) ?_ ?_
  · rw [equal]
    exact sorted _
  · rw [payload_names,payload_names]
  · rw [payload_names]
    decide

-- Rows whose hashes are the same log the same.
theorem hash_agrees (injective : Function.Injective digest) {row other : AuditRow} {hash : String} (counted : 0 < sequence)
    (counted' : 0 < sequence') (hashed : auditEntryHash digest previousHash sequence row.createdAt row.logged = .ok hash)
    (hashed' : auditEntryHash digest previousHash' sequence' other.createdAt other.logged = .ok hash)
    (placed : row.sequence = some sequence ∧ row.previousHash = previousHash ∧ row.hash = some hash)
    (placed' : other.sequence = some sequence' ∧ other.previousHash = previousHash' ∧ other.hash = some hash) :
    previousHash = previousHash' ∧ Agree row other := by
  obtain ⟨text,formed,its⟩ := hash_ok.mp hashed
  obtain ⟨text',formed',its'⟩ := hash_ok.mp hashed'
  rw [payload_toValue] at formed formed'
  rw [injective (its.trans its'.symm)] at formed
  have fields := payload_agrees (canonicalize_injective formed formed')
  simp only [payloadMembers,normalMembers,normal,optionalJson_normal,List.cons.injEq,Prod.mk.injEq,true_and,and_true,
    Json.string.injEq,Json.number.injEq] at fields
  obtain ⟨previous,numbers,created,_,correlation,actorType,actorId,action,resourceType,resourceId,before,after,metadata,ip,
    agent⟩ := fields
  have place := ofInt_injective (Int.le_of_lt counted) (Int.le_of_lt counted') numbers
  have same := optionalJson_injective previous
  exact ⟨same,by rw [placed.1,placed'.1,place],by rw [placed.2.1,placed'.2.1,same],by rw [placed.2.2,placed'.2.2],created,
    correlation,optionalJson_injective actorType,optionalJson_injective actorId,action,resourceType,resourceId,before,after,
    metadata,optionalJson_injective ip,optionalJson_injective agent⟩

end Payloads

section Walks

-- What a walk that succeeds has checked of each row.
def Checked (digest : List Char → String) : Option String → List AuditRow → Prop
  | _,[] => True
  | previousHash,row :: rest => ∃ sequence hash, 0 < sequence ∧ row.sequence = some sequence ∧
    row.previousHash = previousHash ∧ row.hash = some hash ∧
      auditEntryHash digest previousHash sequence row.createdAt row.logged = .ok hash ∧ Checked digest (some hash) rest

def lastOf : Option String → List AuditRow → Option String
  | previousHash,[] => previousHash
  | _,row :: rest => lastOf row.hash rest

theorem verified_checked {rows : List AuditRow} (verified : verifyPage digest previousHash afterSequence rows = .ok (some ended)) :
    Checked digest previousHash rows := by
  induction rows generalizing previousHash afterSequence with
  | nil => trivial
  | cons row rest ih =>
      simp only [verifyPage,bind_ok] at verified
      obtain ⟨entry,read,valid,linked,verified⟩ := verified
      cases valid with
      | false => cases verified
      | true =>
          unfold toEntity at read
          split at read
          · cases read
          · rename_i sequence numbered
            split at read
            · cases read
            · rename_i positive
              cases read
              unfold auditLinkValid at linked
              split at linked
              · cases linked
              · rename_i after
                simp only [bind_ok] at linked
                obtain ⟨expected,hashed,matched⟩ := linked
                cases stored : row.hash with
                | none =>
                    rw [stored] at matched
                    cases matched
                | some hash =>
                    rw [stored] at matched
                    have same : hash = expected := by simpa [timingSafeEqual] using matched
                    have below := ih verified
                    rw [stored] at below
                    exact ⟨sequence,hash,by omega,numbered,not_not.mp after,stored,same ▸ hashed,below⟩

theorem checked_append {rows : List AuditRow} : Checked digest previousHash (rows ++ [row]) ↔
    Checked digest previousHash rows ∧ Checked digest (lastOf previousHash rows) [row] := by
  induction rows generalizing previousHash with
  | nil => simp [Checked,lastOf]
  | cons first rest ih =>
      simp only [List.cons_append,Checked,lastOf]
      constructor
      · rintro ⟨sequence,hash,positive,numbered,after,stored,hashed,below⟩
        rw [stored]
        exact ⟨⟨sequence,hash,positive,numbered,after,rfl,hashed,(ih.mp below).1⟩,(ih.mp below).2⟩
      · rintro ⟨⟨sequence,hash,positive,numbered,after,stored,hashed,below⟩,last⟩
        rw [stored] at last
        exact ⟨sequence,hash,positive,numbered,after,stored,hashed,ih.mpr ⟨below,last⟩⟩

theorem lastOf_append (rows : List AuditRow) : lastOf previousHash (rows ++ [row]) = row.hash := by
  induction rows generalizing previousHash with
  | nil => rfl
  | cons first rest ih => exact ih

theorem lastOf_getLast (rows : List AuditRow) : lastOf none rows = rows.getLast?.bind AuditRow.hash := by
  rcases List.eq_nil_or_concat rows with rfl | ⟨before,last,rfl⟩
  · rfl
  · rw [List.concat_eq_append,lastOf_append]
    simp

-- Backwards from the last row: its hash gives its fields and the hash before it.
theorem checked_agree (injective : Function.Injective digest) {rows others : List AuditRow} (verified : Checked digest none rows)
    (verified' : Checked digest none others) (last : lastOf none rows = lastOf none others) : List.Forall₂ Agree rows others := by
  induction rows using List.reverseRecOn generalizing others with
  | nil =>
      rcases List.eq_nil_or_concat others with rfl | ⟨before,other,rfl⟩
      · exact .nil
      · rw [List.concat_eq_append] at verified' last
        obtain ⟨_,_,hash,_,_,_,stored,_⟩ := checked_append.mp verified'
        rw [lastOf_append,stored] at last
        cases last
  | append_singleton before row ih =>
      obtain ⟨below,sequence,hash,positive,numbered,after,stored,hashed,_⟩ := checked_append.mp verified
      rw [lastOf_append,stored] at last
      rcases List.eq_nil_or_concat others with rfl | ⟨before',other,rfl⟩
      · cases last
      · rw [List.concat_eq_append] at verified' last ⊢
        obtain ⟨below',sequence',hash',positive',numbered',after',stored',hashed',_⟩ := checked_append.mp verified'
        rw [lastOf_append,stored'] at last
        cases last
        obtain ⟨same,agree⟩ := hash_agrees injective positive positive' hashed hashed' ⟨numbered,after,stored⟩
          ⟨numbered',after',stored'⟩
        exact List.rel_append (ih below below' same) (.cons agree .nil)

end Walks

theorem tamper_evident (injective : Function.Injective digest) (distinct : Distinct honest tenantId)
    (distinct' : Distinct stored tenantId) (verified : verifyChain digest honest tenantId = .ok true)
    (placed : ∀ row ∈ stored, row.tenantId = tenant tenantId ∧ ∃ sequence, row.sequence = some sequence ∧ 1 ≤ sequence)
    (verified' : verifyChain digest stored tenantId = .ok true) (last : lastHash stored tenantId = lastHash honest tenantId) :
    stored.Perm (chainAfter stored tenantId 0) ∧ stored.length = (chainAfter honest tenantId 0).length ∧
      List.Forall₂ Agree (chainAfter stored tenantId 0) (chainAfter honest tenantId 0) := by
  have walked : ∀ rows, Distinct rows tenantId → verifyChain digest rows tenantId = .ok true →
      Checked digest none (chainAfter rows tenantId 0) := by
    intro rows distinct verified
    rw [verifyChain_walk distinct,map_ok] at verified
    obtain ⟨ended,ran,some_end⟩ := verified
    obtain ⟨ended,rfl⟩ := Option.isSome_iff_exists.mp some_end
    exact verified_checked ran
  have agree := checked_agree injective (walked stored distinct' verified') (walked honest distinct verified)
    (by simpa only [lastOf_getLast,lastHash] using last)
  have all : stored.Perm (chainAfter stored tenantId 0) := by
    have everyone : stored.filter (fun row => row.tenantId == tenant tenantId && row.sequence.any (0 < ·)) = stored := by
      refine List.filter_eq_self.mpr fun row inside => ?_
      obtain ⟨tenanted,sequence,numbered,positive⟩ := placed row inside
      simp [tenanted,numbered]
      omega
    rw [chainAfter,everyone]
    exact (List.perm_insertionSort _ stored).symm
  exact ⟨all,all.length_eq.trans agree.length_eq,agree⟩

section Examples

theorem ofList_injective : Function.Injective String.ofList := fun _ _ same => String.ofList_inj.mp same

theorem optional_hashed (text : Option String) : canonicalize 1 (optional text) = .ok (render (optionalJson text)) ∧
    (optional text).isUndefined = false := by
  cases text <;> exact ⟨by simp [optional,optionalJson,canonicalize,maxCanonicalizeDepth],rfl⟩

-- An entry whose values can be hashed can be hashed in every place.
theorem entry_hashed {data : NewAuditLog} (before : data.before = .null) (metadata : data.metadata = .null)
    (present : data.after.orNull.isUndefined = false) (after : canonicalize 1 data.after.orNull = .ok text) (previousHash : Option String)
    (sequence : Int) (createdAt : String) : ∃ hash, auditEntryHash digest previousHash sequence createdAt data = .ok hash := by
  have string (text : String) : canonicalize 1 (.string text) = .ok (render (.string text)) ∧
      (Value.string text).isUndefined = false := ⟨by simp [canonicalize,maxCanonicalizeDepth],rfl⟩
  have number (n : Numeral) : canonicalize 1 (.number n) = .ok (render (.number n)) ∧ (Value.number n).isUndefined = false :=
    ⟨by simp [canonicalize,maxCanonicalizeDepth],rfl⟩
  have null : canonicalize 1 .null = .ok (render .null) ∧ Value.null.isUndefined = false :=
    ⟨by simp [canonicalize,maxCanonicalizeDepth],rfl⟩
  have orNull : Value.null.orNull = .null := rfl
  let settled : List (String × List Char) :=
    [("previousHash",render (optionalJson previousHash)),("sequence",render (.number (.ofInt sequence))),
      ("createdAt",render (.string createdAt)),("tenantId",render (optionalJson data.tenantId)),
      ("correlationId",render (.string data.correlationId)),("actorType",render (optionalJson data.actorType)),
      ("actorId",render (optionalJson data.actorId)),("action",render (.string data.action)),
      ("resourceType",render (.string data.resourceType)),("resourceId",render (.string data.resourceId)),
      ("before",render .null),("after",text),("metadata",render .null),("ipAddress",render (optionalJson data.ipAddress)),
      ("userAgent",render (optionalJson data.userAgent))]
  have members : canonicalize 0 (auditPayload previousHash sequence createdAt data) = bracedEntries (settled.map settledEntry) := by
    rw [auditPayload,before,metadata,orNull,canonicalize]
    simp only [canonicalizeMembers,(optional_hashed _).1,(optional_hashed _).2,(string _).1,(string _).2,(number _).1,
      (number _).2,null.1,null.2,present,after]
    rfl
  rw [bracedEntries_settled] at members
  exact ⟨_,hash_ok.mpr ⟨_,members,rfl⟩⟩

def priced (id : String) (members : List (String × Json)) : AuditRow :=
  {legacyRow with id := id,after := .text (some (.object members))}

def amount : String × Json := ("amount",.number (.ofNat 9900))

def currency : String × Json := ("currency",.string "EUR")

-- The rows of a chain and of a copy, in which the members of one value stand in another order.
def chainRows (ids : String × String × String) (members : List (String × Json)) (hashes : String × String × String) : List AuditRow :=
  [(priced ids.1 members).chained 1 none hashes.1,(priced ids.2.1 [amount]).chained 2 (some hashes.1) hashes.2.1,
    {legacyRow with id := ids.2.2}.chained 3 (some hashes.2.1) hashes.2.2]

def original : String × String × String → List AuditRow := chainRows ("a1","a2","a3") [amount,currency]

def copied : String × String × String → List AuditRow := chainRows ("a4","a5","a6") [currency,amount]

theorem original_linked : ∃ hashes, Linked String.ofList none 0 (original hashes) ∧ Linked String.ofList none 0 (copied hashes) := by
  have ordered : canonicalize 0 (auditPayload none 1 legacyRow.createdAt (priced "a1" [amount,currency]).logged) =
      canonicalize 0 (auditPayload none 1 legacyRow.createdAt (priced "a4" [currency,amount]).logged) := by decide +kernel
  have formed : (canonicalize 0 (auditPayload none 1 legacyRow.createdAt (priced "a1" [amount,currency]).logged)).toOption.isSome =
      true := by decide +kernel
  have valued : (canonicalize 1 (priced "a2" [amount]).logged.after.orNull).toOption.isSome = true := by decide +kernel
  obtain ⟨text,found⟩ := Option.isSome_iff_exists.mp formed
  obtain ⟨value,its⟩ := Option.isSome_iff_exists.mp valued
  have first := toOption_ok found
  have null : canonicalize 1 legacyRow.logged.after.orNull = .ok (render .null) := by
    show canonicalize 1 .null = _
    simp [canonicalize,maxCanonicalizeDepth]
  obtain ⟨second,hashed⟩ : ∃ hash, auditEntryHash String.ofList (some (String.ofList text)) 2 legacyRow.createdAt
      (priced "a2" [amount]).logged = .ok hash := entry_hashed rfl rfl rfl (toOption_ok its) _ _ _
  obtain ⟨third,hashed'⟩ : ∃ hash, auditEntryHash String.ofList (some second) 3 legacyRow.createdAt legacyRow.logged = .ok hash :=
    entry_hashed rfl rfl rfl null _ _ _
  exact ⟨(String.ofList text,second,third),
    ⟨rfl,rfl,_,rfl,hash_ok.mpr ⟨text,first,rfl⟩,rfl,rfl,_,rfl,hashed,rfl,rfl,_,rfl,hashed',trivial⟩,
    ⟨rfl,rfl,_,rfl,hash_ok.mpr ⟨text,ordered.symm.trans first,rfl⟩,rfl,rfl,_,rfl,hashed,rfl,rfl,_,rfl,hashed',trivial⟩⟩

theorem chainRows_sequenced (inside : row ∈ chainRows ids members hashes) : sequenced none row = true := by
  simp only [chainRows,List.mem_cons,List.not_mem_nil,or_false] at inside
  rcases inside with rfl | rfl | rfl <;> rfl

theorem chainRows_inChain (stored : rows.Perm (chainRows ids members hashes)) : InChain rows none (chainRows ids members hashes) := by
  intro row
  rw [stored.mem_iff]
  exact ⟨fun inside => ⟨inside,chainRows_sequenced inside⟩,And.left⟩

-- The copy is stored in another order, and one of its values in another spelling.
theorem tamper_evident_copied : ∃ hashes, verifyChain String.ofList (original hashes) none = .ok true ∧
    verifyChain String.ofList (copied hashes).reverse none = .ok true ∧ (original hashes).length = 3 ∧
    List.Forall₂ Agree (chainAfter (copied hashes).reverse none 0) (chainAfter (original hashes) none 0) := by
  obtain ⟨hashes,linked,linked'⟩ := original_linked
  have keyed : Keyed AuditRow.id (original hashes) := by
    show ["a1","a2","a3"].Nodup
    decide
  have keyed' : Keyed AuditRow.id (copied hashes).reverse := by
    show ["a6","a5","a4"].Nodup
    decide
  have its : InChain (original hashes) none (original hashes) := chainRows_inChain (.refl _)
  have its' : InChain (copied hashes).reverse none (copied hashes) := chainRows_inChain (List.reverse_perm _)
  have distinct := inChain_distinct keyed its linked
  have distinct' := inChain_distinct keyed' its' linked'
  have verified := linked_verifyChain keyed its linked
  have verified' := linked_verifyChain keyed' its' linked'
  have placed : ∀ row ∈ (copied hashes).reverse, row.tenantId = tenant none ∧ ∃ sequence, row.sequence = some sequence ∧ 1 ≤ sequence := by
    intro row inside
    simp only [copied,chainRows,List.mem_reverse,List.mem_cons,List.not_mem_nil,or_false] at inside
    rcases inside with rfl | rfl | rfl <;> exact ⟨rfl,_,rfl,by decide⟩
  have last : lastHash (copied hashes).reverse none = lastHash (original hashes) none := by
    rw [lastHash,lastHash,chainAfter_chain distinct its linked,chainAfter_chain distinct' its' linked']
    rfl
  exact ⟨hashes,verified,verified',rfl,(tamper_evident ofList_injective distinct distinct' verified placed verified' last).2.2⟩

-- A row that has no sequence yet, beside the chain.
def beside : AuditRow := {legacyRow with id := "b1",resourceId := "pay_2"}

theorem beside_unnoticed : ∃ honest stored, Linked String.ofList none 0 honest ∧ (∀ row ∈ stored, row.tenantId = tenant none) ∧
    Distinct stored none ∧ verifyChain String.ofList stored none = .ok true ∧ lastHash stored none = lastHash honest none ∧
      stored.length ≠ honest.length := by
  obtain ⟨hashes,linked,_⟩ := original_linked
  have keyed : Keyed AuditRow.id (original hashes) := by
    show ["a1","a2","a3"].Nodup
    decide
  have keyed' : Keyed AuditRow.id (original hashes ++ [beside]) := by
    show ["a1","a2","a3","b1"].Nodup
    decide
  have its : InChain (original hashes) none (original hashes) := chainRows_inChain (.refl _)
  have its' : InChain (original hashes ++ [beside]) none (original hashes) := by
    intro row
    rw [its row]
    simp only [List.mem_append,List.mem_singleton]
    refine and_congr_left fun listed => ⟨.inl,fun either => either.resolve_right ?_⟩
    rintro rfl
    cases listed
  have distinct := inChain_distinct keyed its linked
  have distinct' := inChain_distinct keyed' its' linked
  refine ⟨original hashes,original hashes ++ [beside],linked,?_,distinct',linked_verifyChain keyed' its' linked,?_,by simp⟩
  · intro row inside
    rcases List.mem_append.mp inside with inside | inside
    · simp only [original,chainRows,List.mem_cons,List.not_mem_nil,or_false] at inside
      rcases inside with rfl | rfl | rfl <;> rfl
    · rw [List.mem_singleton.mp inside]
      rfl
  · rw [lastHash,lastHash,chainAfter_chain distinct its linked,chainAfter_chain distinct' its' linked]

end Examples

end Payable.Audit
