import Payable.MigrationColumns.PriceMigrationJsonRoundTrip
import Mathlib.Data.List.Perm.Subperm

namespace Payable.MigrationColumns
open JsonText FiniteDoubles UnitTexts JsonDocuments JsonValues Payable.Language Checked

structure ChangeItem where
  itemId : NonEmpty
  providerItemId : Option NonEmpty
  priceId : NonEmpty
  quantity : PositiveInteger

structure ExecutionEvidence where
  provider : NonEmpty
  providerSubscriptionId : NonEmpty
  currentItems : List (Option ChangeItem)
  proposedItems : List (Option ChangeItem)

-- An item of a migration as the two functions are given it, with any strings and any number.
structure CanonicalItem where
  id : Utf16
  priceId : Utf16
  quantity : Number

def invalidEvidence (label : String) : Failure := .invalid "subscription price migration execution evidence" label

def normalizeProviderItem (entry : Value) (itemLabel : String) : Except Failure ChangeItem := do
  let object ← exactObject invalidEvidence entry itemLabel ["itemId","providerItemId","priceId","quantity"]
  let itemId ← nonEmptyString invalidEvidence (get object "itemId") (itemLabel ++ ".itemId")
  let providerItemId ← nullable (nonEmptyString invalidEvidence) (get object "providerItemId") (itemLabel ++ ".providerItemId")
  let priceId ← nonEmptyString invalidEvidence (get object "priceId") (itemLabel ++ ".priceId")
  let quantity ← positiveInteger invalidEvidence (get object "quantity") (itemLabel ++ ".quantity")
  return ⟨itemId,providerItemId,priceId,quantity⟩

def normalizeProviderItems (value : Value) (label : String) : Except Failure (List (Option ChangeItem)) :=
  arrayOf invalidEvidence normalizeProviderItem value label

-- The operator ===.
def strictlyEqual : Number → Number → Bool
  | .finite x,.finite y => x.units = y.units && (x.units = 0 || x.negative = y.negative)
  | .infinity a,.infinity b => a = b
  | _,_ => false

-- The loop over the items of the provider, with the ids it has seen.
def assertItems (canonicalById : List (Utf16 × CanonicalItem)) (label : String) : List Utf16 → List (Option ChangeItem) → Except Failure Unit
  | _,[] => .ok ()
  | _,none :: _ => .error .unreadableItem
  | providerIds,some item :: rest =>
    match canonicalById.find? fun entry => entry.1 = item.itemId.1 with
    | none => .error (invalidEvidence label)
    | some (_,canonicalItem) =>
      if item.itemId.1 ∈ providerIds ∨ strictlyEqual canonicalItem.quantity (.finite item.quantity.1) = false then
        .error (invalidEvidence label)
      else assertItems canonicalById label (item.itemId.1 :: providerIds) rest

def assertAligned (canonical : List CanonicalItem) (provider : List (Option ChangeItem)) (label : String) : Except Failure Unit := do
  ensure (canonical.length = provider.length) (invalidEvidence label)
  let canonicalById := (canonical.map fun item => (item.id,item)).foldl assign []
  ensure (canonicalById.length = canonical.length) (invalidEvidence label)
  assertItems canonicalById label [] provider

-- What normalizeEvidence reads before it compares the items.
def readEvidence (value : Value) : Except Failure ExecutionEvidence := do
  let label := "provider_evidence"
  let object ← exactObject invalidEvidence value label ["provider","providerSubscriptionId","currentItems","proposedItems"]
  let provider ← nonEmptyString invalidEvidence (get object "provider") (label ++ ".provider")
  let providerSubscriptionId ← nonEmptyString invalidEvidence (get object "providerSubscriptionId") (label ++ ".providerSubscriptionId")
  let currentItems ← normalizeProviderItems (get object "currentItems") (label ++ ".currentItems")
  let proposedItems ← normalizeProviderItems (get object "proposedItems") (label ++ ".proposedItems")
  return ⟨provider,providerSubscriptionId,currentItems,proposedItems⟩

def normalizeEvidence (value : Value) (currentItems proposedItems : List CanonicalItem) : Except Failure ExecutionEvidence := do
  let evidence ← readEvidence value
  assertAligned currentItems evidence.currentItems "provider_evidence.currentItems"
  assertAligned proposedItems evidence.proposedItems "provider_evidence.proposedItems"
  return evidence

def ChangeItem.json (item : ChangeItem) : Document :=
  .object [(ofString "itemId",.string item.itemId.1),
    (ofString "providerItemId",nullOr (fun text => .string text.1) item.providerItemId),
    (ofString "priceId",.string item.priceId.1),(ofString "quantity",integerJson item.quantity.1)]

def ExecutionEvidence.json (evidence : ExecutionEvidence) : Document :=
  .object [(ofString "provider",.string evidence.provider.1),
    (ofString "providerSubscriptionId",.string evidence.providerSubscriptionId.1),
    (ofString "currentItems",sparse ChangeItem.json evidence.currentItems),
    (ofString "proposedItems",sparse ChangeItem.json evidence.proposedItems)]

-- PREFIX of a blob.
def evidencePrefixText : List Char := "payable:subscription-price-migration-evidence:v1:".toList

def rehydrateEvidenceBlob (value : List Char) : Except Failure (List Char) :=
  if evidencePrefixText <+: value ∧ value.length ≠ evidencePrefixText.length then .ok value else .error .unsupportedVersion

def encodeExecutionEvidence (evidence : Value) (currentItems proposedItems : List CanonicalItem) : Except Failure (List Char) := do
  let normalized ← normalizeEvidence evidence currentItems proposedItems
  rehydrateEvidenceBlob (evidencePrefixText ++ write normalized.json)

-- What a blob is parsed as.
def payload (value : List Char) : Option Value :=
  (rehydrateEvidenceBlob value).toOption.bind fun rehydrated => parseJson (rehydrated.drop evidencePrefixText.length)

def decodeExecutionEvidence (value : List Char) (currentItems proposedItems : List CanonicalItem) : Except Failure ExecutionEvidence := do
  let parsed ← require (payload value) (invalidEvidence "provider_evidence")
  normalizeEvidence parsed currentItems proposedItems

-- The items of the migration and those of the provider are the same ids with the same quantities, each id once.
def Aligned (canonical : List CanonicalItem) (provider : List (Option ChangeItem)) : Prop :=
  (canonical.map CanonicalItem.id).Nodup ∧ ∃ items : List ChangeItem, provider = items.map some ∧
    (canonical.map fun item => (item.id,item.quantity)).Perm (items.map fun item => (item.itemId.1,Number.finite item.quantity.1))

section Alignment

variable {canonical : List CanonicalItem} {provider : List (Option ChangeItem)} {label : String}

theorem strictlyEqual_positive (quantity : Number) (number : PositiveInteger) :
    strictlyEqual quantity (.finite number.1) = true ↔ quantity = .finite number.1 := by
  have positive := number.2.2
  simp only [isPositive,Bool.and_eq_true,Bool.not_eq_true',decide_eq_true_eq] at positive
  cases quantity with
  | finite x =>
      simp only [strictlyEqual,Bool.and_eq_true,Bool.or_eq_true,decide_eq_true_eq,Number.finite.injEq]
      constructor
      · rintro ⟨units,zero | sign⟩
        · exact absurd (units.symm.trans zero) positive.2
        · exact units_injective sign units
      · rintro rfl
        exact ⟨rfl,.inr rfl⟩
  | infinity | nan =>
      constructor
      · intro same
        cases same
      · intro same
        cases same

-- An item passes that is new and is in the map with its quantity.
theorem assertItems_some {byId : List (Utf16 × CanonicalItem)} {seen : List Utf16} {item : ChangeItem} {done : Unit} :
    assertItems byId label seen (some item :: provider) = .ok done ↔ (item.itemId.1 ∉ seen ∧
      ∃ entry, byId.find? (fun entry => entry.1 = item.itemId.1) = some entry ∧ entry.2.quantity = .finite item.quantity.1) ∧
        assertItems byId label (item.itemId.1 :: seen) provider = .ok done := by
  rw [assertItems]
  cases here : byId.find? fun entry => entry.1 = item.itemId.1 with
  | none =>
      refine iff_of_false nofun ?_
      rintro ⟨⟨_,_,found,_⟩,_⟩
      cases found
  | some entry =>
      obtain ⟨id,canonicalItem⟩ := entry
      dsimp only
      split
      · rename_i refused
        refine iff_of_false nofun ?_
        rintro ⟨⟨new,entry,found,quantity⟩,_⟩
        cases found
        rcases refused with old | unequal
        · exact new old
        · rw [(strictlyEqual_positive _ _).mpr quantity] at unequal
          cases unequal
      · rename_i accepted
        rw [not_or,Bool.not_eq_false,strictlyEqual_positive] at accepted
        exact ⟨fun ran => ⟨⟨accepted.1,_,rfl,accepted.2⟩,ran⟩,And.right⟩

-- The loop ends when every item passes.
theorem assertItems_ok {byId : List (Utf16 × CanonicalItem)} : ∀ {seen : List Utf16} {done : Unit},
    assertItems byId label seen provider = .ok done ↔ ∃ items : List ChangeItem, provider = items.map some ∧
      (items.map fun item => item.itemId.1).Nodup ∧ ∀ item ∈ items, item.itemId.1 ∉ seen ∧
        ∃ entry, byId.find? (fun entry => entry.1 = item.itemId.1) = some entry ∧ entry.2.quantity = .finite item.quantity.1 := by
  induction provider with
  | nil =>
      intro seen done
      exact iff_of_true rfl ⟨[],rfl,List.nodup_nil,nofun⟩
  | cons first rest ih =>
      intro seen done
      cases first with
      | none =>
          refine iff_of_false nofun ?_
          rintro ⟨items,same,_⟩
          cases items <;> cases same
      | some item =>
          rw [assertItems_some,ih]
          constructor
          · rintro ⟨passed,items,rfl,distinct,each⟩
            refine ⟨item :: items,rfl,List.nodup_cons.mpr ⟨?_,distinct⟩,List.forall_mem_cons.mpr ⟨passed,?_⟩⟩
            · intro again
              obtain ⟨other,inside,same⟩ := List.mem_map.mp again
              exact (each other inside).1 (same ▸ List.mem_cons_self)
            · exact fun other inside => ⟨fun old => (each other inside).1 (List.mem_cons_of_mem _ old),(each other inside).2⟩
          · rintro ⟨items,same,distinct,each⟩
            cases items with
            | nil => cases same
            | cons head others =>
                obtain ⟨one,rest_⟩ := List.cons.inj same
                cases Option.some.inj one
                obtain ⟨own,later⟩ := List.nodup_cons.mp distinct
                obtain ⟨passed,all⟩ := List.forall_mem_cons.mp each
                refine ⟨passed,others,rest_,later,fun other inside => ⟨?_,(all other inside).2⟩⟩
                intro old
                rcases List.mem_cons.mp old with again | before
                · exact own (List.mem_map.mpr ⟨other,inside,again⟩)
                · exact (all other inside).1 before

-- With ids that differ the map holds each item under its own.
theorem found_quantity (distinct : (canonical.map CanonicalItem.id).Nodup) (id : Utf16) (quantity : Number) :
    (∃ entry, (canonical.map fun item => (item.id,item)).find? (fun entry => entry.1 = id) = some entry ∧ entry.2.quantity = quantity) ↔
      (id,quantity) ∈ canonical.map fun item => (item.id,item.quantity) := by
  induction canonical with
  | nil => exact iff_of_false nofun nofun
  | cons item rest ih =>
      obtain ⟨own,later⟩ := List.nodup_cons.mp distinct
      rw [List.map_cons,List.map_cons,List.mem_cons,Prod.mk.injEq]
      by_cases its : item.id = id
      · have here : decide ((item.id,item).1 = id) = true := decide_eq_true its
        rw [List.find?_cons,here]
        dsimp only
        constructor
        · rintro ⟨entry,same,rfl⟩
          cases same
          exact .inl ⟨its.symm,rfl⟩
        · rintro (⟨_,rfl⟩ | inside)
          · exact ⟨_,rfl,rfl⟩
          · obtain ⟨other,there,same⟩ := List.mem_map.mp inside
            exact absurd (List.mem_map.mpr ⟨other,there,(Prod.mk.inj same).1.trans its.symm⟩) own
      · have passed : decide ((item.id,item).1 = id) = false := decide_eq_false its
        rw [List.find?_cons,passed]
        dsimp only
        rw [ih later]
        refine ⟨.inr,?_⟩
        rintro (⟨same,_⟩ | inside)
        · exact absurd same.symm its
        · exact inside

theorem canonical_names (canonical : List CanonicalItem) :
    (canonical.map fun item => (item.id,item)).map Prod.fst = canonical.map CanonicalItem.id := by
  rw [List.map_map]
  rfl

-- The comparison is that of the two lists as sets of items.
theorem assertAligned_ok {done : Unit} : assertAligned canonical provider label = .ok done ↔ Aligned canonical provider := by
  simp only [assertAligned,bind_ok,ensure_ok,decide_eq_true_eq,Aligned]
  constructor
  · rintro ⟨_,count,_,size,ran⟩
    have distinct : (canonical.map CanonicalItem.id).Nodup := by
      rw [← canonical_names]
      have all := ((assigned_length (canonical.map fun item => (item.id,item))) []).2 List.nodup_nil
      rw [List.nil_append] at all
      exact all (by rw [size,List.length_map]; exact (Nat.zero_add _).symm)
    rw [assigned_distinct _ [] (by rw [List.nil_append,canonical_names]; exact distinct),List.nil_append] at ran
    obtain ⟨items,rfl,names,each⟩ := assertItems_ok.mp ran
    refine ⟨distinct,items,rfl,.symm ((List.subperm_of_subset ?_ ?_).perm_of_length_le ?_)⟩
    · refine List.Nodup.of_map Prod.fst ?_
      rw [List.map_map]
      exact names
    · intro pair inside
      obtain ⟨item,there,rfl⟩ := List.mem_map.mp inside
      exact (found_quantity distinct _ _).mp (each item there).2
    · rw [List.length_map,List.length_map,count,List.length_map]
  · rintro ⟨distinct,items,rfl,perm⟩
    have names := assigned_distinct (canonical.map fun item => (item.id,item)) []
      (by rw [List.nil_append,canonical_names]; exact distinct)
    rw [List.nil_append] at names
    have count := perm.length_eq
    rw [List.length_map,List.length_map] at count
    rw [names,List.length_map,List.length_map]
    refine ⟨(),count,(),rfl,assertItems_ok.mpr ⟨items,rfl,?_,fun item inside => ⟨List.not_mem_nil,?_⟩⟩⟩
    · have ids := (perm.map Prod.fst).nodup_iff
      rw [List.map_map,List.map_map] at ids
      exact ids.mp distinct
    · exact (found_quantity distinct _ _).mpr (perm.mem_iff.mpr (List.mem_map.mpr ⟨item,inside,rfl⟩))

theorem aligned_filled (aligned : Aligned canonical provider) : none ∉ provider := by
  obtain ⟨_,items,rfl,_⟩ := aligned
  intro inside
  obtain ⟨_,_,same⟩ := List.mem_map.mp inside
  cases same

end Alignment

section Evidence

variable {currentItems proposedItems : List CanonicalItem} {value : Value} {blob : List Char} {evidence : ExecutionEvidence}

theorem normalizeEvidence_ok : normalizeEvidence value currentItems proposedItems = .ok evidence ↔
    readEvidence value = .ok evidence ∧ Aligned currentItems evidence.currentItems ∧ Aligned proposedItems evidence.proposedItems := by
  simp only [normalizeEvidence,bind_ok,pure_ok,assertAligned_ok]
  constructor
  · rintro ⟨_,read,_,current,_,proposed,rfl⟩
    exact ⟨read,current,proposed⟩
  · rintro ⟨read,current,proposed⟩
    exact ⟨evidence,read,(),current,(),proposed,rfl⟩

theorem ChangeItem.distinct (item : ChangeItem) : Distinct item.json := by
  refine ⟨?_,trivial,text_distinct _,trivial,trivial,trivial⟩
  show (["itemId","providerItemId","priceId","quantity"].map ofString).Nodup
  decide

theorem ExecutionEvidence.distinct (evidence : ExecutionEvidence) : Distinct evidence.json := by
  refine ⟨?_,trivial,trivial,sparse_distinct ChangeItem.distinct _,sparse_distinct ChangeItem.distinct _,trivial⟩
  show (["provider","providerSubscriptionId","currentItems","proposedItems"].map ofString).Nodup
  decide

theorem normalizeProviderItem_json (item : ChangeItem) (label : String) : normalizeProviderItem (embed item.json) label = .ok item := by
  have providerItemId : nullable (nonEmptyString invalidEvidence) (embed (nullOr (fun text => .string text.1) item.providerItemId))
      (label ++ ".providerItemId") = .ok item.providerItemId := by
    rw [nullable_embed (f := id) (fun _ same => Document.noConfusion same) (fun text label => nonEmptyString_embed text label)
      item.providerItemId,Option.map_id,id]
  refine bind_ok.mpr ⟨_,exactObject_ok.mpr ⟨rfl,rfl⟩,bind_ok.mpr ⟨item.itemId,nonEmptyString_embed _ _,?_⟩⟩
  refine bind_ok.mpr ⟨_,providerItemId,bind_ok.mpr ⟨item.priceId,nonEmptyString_embed _ _,?_⟩⟩
  exact bind_ok.mpr ⟨item.quantity,positiveInteger_embed _ _,rfl⟩

theorem providerItems_embed {items : List (Option ChangeItem)} (filled : none ∉ items) (label : String) :
    normalizeProviderItems (embed (sparse ChangeItem.json items)) label = .ok items := by
  rw [normalizeProviderItems,arrayOf_embed (f := id) normalizeProviderItem_json filled,Option.map_id,List.map_id]

theorem readEvidence_json (current : none ∉ evidence.currentItems) (proposed : none ∉ evidence.proposedItems) :
    readEvidence (embed evidence.json) = .ok evidence := by
  refine bind_ok.mpr ⟨_,exactObject_ok.mpr ⟨rfl,rfl⟩,bind_ok.mpr ⟨evidence.provider,nonEmptyString_embed _ _,?_⟩⟩
  refine bind_ok.mpr ⟨evidence.providerSubscriptionId,nonEmptyString_embed _ _,?_⟩
  exact bind_ok.mpr ⟨_,providerItems_embed current _,bind_ok.mpr ⟨_,providerItems_embed proposed _,rfl⟩⟩

theorem rehydrate_written (document : Document) :
    rehydrateEvidenceBlob (evidencePrefixText ++ write document) = .ok (evidencePrefixText ++ write document) := by
  refine if_pos ⟨List.prefix_append _ _,?_⟩
  have some_ := List.length_pos_iff.mpr (write_nonempty document)
  rw [List.length_append]
  omega

theorem payload_written {document : Document} (distinct : Distinct document) :
    payload (evidencePrefixText ++ write document) = some (embed document) := by
  rw [payload,rehydrate_written]
  show parseJson ((evidencePrefixText ++ write document).drop evidencePrefixText.length) = _
  rw [List.drop_left,parseJson_write distinct]

theorem decode_ok : decodeExecutionEvidence blob currentItems proposedItems = .ok evidence ↔ ∃ value, payload blob = some value ∧
    readEvidence value = .ok evidence ∧ Aligned currentItems evidence.currentItems ∧ Aligned proposedItems evidence.proposedItems := by
  simp only [decodeExecutionEvidence,bind_ok,require_ok,normalizeEvidence_ok]

-- Evidence that is aligned with the items is encoded, and decoded as it was.
theorem evidence_round_trip (read : readEvidence value = .ok evidence) (current : Aligned currentItems evidence.currentItems)
    (proposed : Aligned proposedItems evidence.proposedItems) : ∃ blob, encodeExecutionEvidence value currentItems proposedItems = .ok blob ∧
      decodeExecutionEvidence blob currentItems proposedItems = .ok evidence := by
  refine ⟨evidencePrefixText ++ write evidence.json,?_,?_⟩
  · exact bind_ok.mpr ⟨evidence,normalizeEvidence_ok.mpr ⟨read,current,proposed⟩,rehydrate_written _⟩
  · exact decode_ok.mpr ⟨_,payload_written evidence.distinct,readEvidence_json (aligned_filled current) (aligned_filled proposed),
      current,proposed⟩

end Evidence

end Payable.MigrationColumns
