import Payable.MigrationColumns.StoredMigrations

namespace Payable.MigrationColumns
open JsonText FiniteDoubles UnitTexts JsonDocuments JsonValues Payable.Language Checked IsoDates

def exampleCurrencies : Currencies where
  toRegistry := Amounts.exampleCurrencies
  named := by
    intro code its known
    unfold Amounts.exampleCurrencies at known
    dsimp only at known
    split at known
    · cases Option.some.inj known
      decide
    · split at known
      · cases Option.some.inj known
        decide
      · cases known

theorem euro_code : exampleCurrencies.codeOf (ofString "EUR") = some (ofString "EUR") := by
  obtain ⟨its,known,code⟩ := Option.map_eq_some_iff.mp Amounts.exampleCurrencies_euro
  have found : exampleCurrencies.currency "EUR" = some its := known
  rw [Currencies.codeOf,spelling_ofString,if_pos rfl,found,Option.map_some,code]

def nameText (text : String) (filled : text ≠ "") : NonEmpty := ⟨ofString text,ofString_nonempty filled⟩

def freePrice : PriceSnapshot exampleCurrencies where
  id := nameText "price" (by decide)
  productId := nameText "product" (by decide)
  amount := ⟨Written.zero.double,zero_safe⟩
  currency := ⟨ofString "EUR",ofString_nonempty (by decide),euro_code⟩
  interval := none
  intervalCount := none

-- No items and no amounts, and the warnings that are given.
def exampleJson (warnings : List (Option Utf16)) : NormalizedJson exampleCurrencies where
  sourcePrice := freePrice
  targetPrice := freePrice
  currentItems := []
  proposedItems := []
  immediateAdjustment := ⟨.none,none,none⟩
  nextRenewal := ⟨none,none,none⟩
  warnings := warnings
  providerLimitations := []

theorem exampleJson_written (warnings : List (Option Utf16)) : (exampleJson warnings).written = exampleJson warnings := by
  refine written_kept.mpr ⟨?_,?_,nofun,nofun⟩
  · rintro ⟨_,negative⟩
    cases negative
  · rintro ⟨_,negative⟩
    cases negative

-- warnings: [,].
def sparseInput : Columns Value := {(exampleJson [none]).parsed with warnings := .array [.hole]}

variable (otherDates : List Nat → Option Int)

theorem sparse_normalized : normalizeSubscriptionPriceMigrationJson exampleCurrencies otherDates sparseInput = .ok (exampleJson [none]) := by
  refine bind_ok.mpr ⟨_,normalizePrice_json freePrice _,bind_ok.mpr ⟨_,normalizePrice_json freePrice _,?_⟩⟩
  refine bind_ok.mpr ⟨[],rfl,bind_ok.mpr ⟨[],rfl,bind_ok.mpr ⟨_,normalizeAdjustment_json _,?_⟩⟩⟩
  refine bind_ok.mpr ⟨_,normalizeRenewal_json _,bind_ok.mpr ⟨[none],rfl,bind_ok.mpr ⟨[],rfl,?_⟩⟩⟩
  exact congrArg Except.ok (exampleJson_written [none])

theorem bind_after {Failure Value Result : Type} {first : Except Failure Value} {value : Value} {rest : Value → Except Failure Result}
    (ran : first = .ok value) : first >>= rest = rest value := by
  rw [ran]
  rfl

theorem sparse_refused : decodeSubscriptionPriceMigrationJson exampleCurrencies otherDates (exampleJson [none]).stringify =
    .error (invalidJson "warnings[0]") := by
  rw [decode_parsed]
  refine (bind_after (normalizePrice_json freePrice _)).trans ((bind_after (normalizePrice_json freePrice _)).trans ?_)
  refine (bind_after (items_embed List.not_mem_nil _)).trans ((bind_after (items_embed List.not_mem_nil _)).trans ?_)
  exact (bind_after (normalizeAdjustment_json _)).trans ((bind_after (normalizeRenewal_json _)).trans rfl)

-- The array [,] is a list of warnings for the normalizer and none for the decoder.
theorem migration_columns_sparse :
    normalizeSubscriptionPriceMigrationJson exampleCurrencies (fun _ => none) sparseInput = .ok (exampleJson [none]) ∧
      (decodeSubscriptionPriceMigrationJson exampleCurrencies (fun _ => none) (exampleJson [none]).stringify).mapError Failure.message =
        .error (ofString "Invalid subscription price migration JSON: warnings[0]") ∧
      ¬ ∀ input json, normalizeSubscriptionPriceMigrationJson exampleCurrencies (fun _ => none) input = .ok json →
        decodeSubscriptionPriceMigrationJson exampleCurrencies (fun _ => none) json.stringify = .ok json := by
  refine ⟨sparse_normalized _,?_,fun all => ?_⟩
  · rw [sparse_refused]
    rfl
  · have read := all sparseInput (exampleJson [none]) (sparse_normalized _)
    rw [sparse_refused] at read
    cases read

variable (currencies : Currencies)

-- Evidence comes back for all; the columns and the stored migration when no list has a hole, no amount is -0 and no tenant is ''.
theorem migration_columns_exact :
    (∀ (currentItems proposedItems : List CanonicalItem) (evidence : ExecutionEvidence),
      Aligned currentItems evidence.currentItems → Aligned proposedItems evidence.proposedItems →
        readEvidence (embed evidence.json) = .ok evidence ∧ ∀ value, readEvidence value = .ok evidence →
          ∃ blob, encodeExecutionEvidence value currentItems proposedItems = .ok blob ∧
            decodeExecutionEvidence blob currentItems proposedItems = .ok evidence) ∧
    (∀ (currentItems proposedItems : List CanonicalItem) (blob : List Char) (evidence : ExecutionEvidence),
      decodeExecutionEvidence blob currentItems proposedItems = .ok evidence ↔ ∃ value, payload blob = some value ∧
        readEvidence value = .ok evidence ∧ Aligned currentItems evidence.currentItems ∧ Aligned proposedItems evidence.proposedItems) ∧
    (∀ (input : Columns Value) (json : NormalizedJson currencies),
      normalizeSubscriptionPriceMigrationJson currencies otherDates input = .ok json →
        (decodeSubscriptionPriceMigrationJson currencies otherDates json.stringify = .ok json ↔ Filled input ∧ Unsigned input) ∧
        (decodeSubscriptionPriceMigrationJson currencies otherDates json.stringify = .ok json.written ↔ Filled input)) ∧
    (∀ (data : NewMigration) (values : StorageValues),
      subscriptionPriceMigrationToStorageValues currencies otherDates data = .ok values →
        ∃ json : NormalizedJson currencies, normalizeSubscriptionPriceMigrationJson currencies otherDates data.json = .ok json ∧
          ∀ (evidence : Option Utf16) (id : Utf16) (createdAt updatedAt : Time),
            subscriptionPriceMigrationToEntity currencies otherDates (storedRow values evidence id createdAt updatedAt) =
                .ok (createdMigration data json id createdAt updatedAt) ↔
              Filled data.json ∧ Unsigned data.json ∧ data.tenantId ≠ some []) := by
  refine ⟨?_,fun _ _ _ _ => decode_ok,fun input json ran => columns_round_trip ran,?_⟩
  · intro currentItems proposedItems evidence current proposed
    exact ⟨readEvidence_json (aligned_filled current) (aligned_filled proposed),fun value read => evidence_round_trip read current proposed⟩
  · intro data values ran
    obtain ⟨json,accepted,rfl⟩ := toStorageValues_accepted ran
    exact ⟨json,accepted.normalized,fun _ _ _ _ => stored_kept accepted⟩

def one : PositiveInteger := ⟨⟨false,1023,0,by decide⟩,by decide +kernel⟩

def two : PositiveInteger := ⟨⟨false,1024,0,by decide⟩,by decide +kernel⟩

def exampleItem : ChangeItem := ⟨nameText "A" (by decide),none,nameText "remote" (by decide),one⟩

def exampleSeats : ChangeItem := ⟨nameText "B" (by decide),some (nameText "si_1" (by decide)),nameText "seats" (by decide),two⟩

def exampleEvidence : ExecutionEvidence :=
  ⟨nameText "provider" (by decide),nameText "subscription" (by decide),[some exampleItem,some exampleSeats],
    [some exampleItem,some exampleSeats]⟩

-- In the other order.
def exampleCanonical : List CanonicalItem :=
  [⟨ofString "B",ofString "seat",.finite two.1⟩,⟨ofString "A",ofString "price",.finite one.1⟩]

theorem exampleEvidence_aligned : Aligned exampleCanonical exampleEvidence.currentItems :=
  ⟨by decide,[exampleItem,exampleSeats],rfl,.swap ..⟩

def euro : CurrencyCode exampleCurrencies := ⟨ofString "EUR",ofString_nonempty (by decide),euro_code⟩

def monthlyPrice (amount : SafeInteger) : PriceSnapshot exampleCurrencies :=
  {freePrice with amount := amount,interval := some (nameText "month" (by decide)),intervalCount := some one}

-- 500, 1000 and 1500.
def adjusted : SafeInteger := ⟨⟨false,1031,4292493394837504,by decide⟩,by decide +kernel⟩

def former : SafeInteger := ⟨⟨false,1032,4292493394837504,by decide⟩,by decide +kernel⟩

def raised : SafeInteger := ⟨⟨false,1033,2093470139285504,by decide⟩,by decide +kernel⟩

def exampleItems : List (Option ItemSnapshot) :=
  [some ⟨nameText "A" (by decide),nameText "price" (by decide),one⟩,some ⟨nameText "B" (by decide),nameText "seat" (by decide),two⟩]

def filledJson : NormalizedJson exampleCurrencies where
  sourcePrice := monthlyPrice former
  targetPrice := monthlyPrice raised
  currentItems := exampleItems
  proposedItems := exampleItems
  immediateAdjustment := ⟨.charge,some adjusted,some euro⟩
  nextRenewal := ⟨some raised,some euro,some ⟨2592000000,by decide⟩⟩
  warnings := [some (ofString "limited")]
  providerLimitations := [some (ofString "no schedules"),some (ofString "no refunds")]

def exampleData : NewMigration where
  subscriptionId := ofString "subscription"
  primaryItemId := ofString "A"
  sourcePriceId := ofString "price"
  targetPriceId := ofString "price"
  effectiveTiming := ofString "immediate"
  effectiveAt := none
  prorationPolicy := ofString "none"
  paymentFailurePolicy := ofString "preventChange"
  currentRenewalDate := some (some 2592000000)
  previewToken := ofString "token"
  requestHash := ofString "hash"
  calculatedAt := some 0
  expiresAt := some 900000
  providerBindingId := ofString "binding"
  toLifecycle := previewed
  tenantId := some (ofString "acme")
  json := filledJson.parsed
  otherKeys := []

theorem filledJson_filled : filledJson.Filled := by
  refine ⟨?_,?_,?_,?_⟩ <;> (intro hole; simp [filledJson,exampleItems] at hole)

theorem filledJson_written : filledJson.written = filledJson := by
  refine written_kept.mpr ⟨?_,?_,?_,?_⟩
  · rintro ⟨_,negative⟩
    cases negative
  · rintro ⟨_,negative⟩
    cases negative
  · rintro ⟨_,there,_,negative⟩
    cases Option.some.inj there
    cases negative
  · rintro ⟨_,there,_,negative⟩
    cases Option.some.inj there
    cases negative

theorem filledJson_normalized : normalizeSubscriptionPriceMigrationJson exampleCurrencies otherDates filledJson.parsed = .ok filledJson :=
  (normalize_parsed filledJson_filled).trans (congrArg Except.ok filledJson_written)

theorem exampleData_stored : subscriptionPriceMigrationToStorageValues exampleCurrencies otherDates exampleData =
    .ok (storedValues exampleData filledJson) := by
  refine bind_ok.mpr ⟨(),ensure_ok.mpr (decide_eq_true ?_),bind_ok.mpr ⟨(),ensure_ok.mpr (decide_eq_true rfl),?_⟩⟩
  · exact congrArg sorted (List.append_nil _)
  · exact bind_ok.mpr ⟨_,filledJson_normalized otherDates,rfl⟩

theorem exampleData_plain : Filled exampleData.json ∧ Unsigned exampleData.json := by
  obtain ⟨filled,signs⟩ := normalized_input (filledJson_normalized fun _ => none)
  exact ⟨filled.mp filledJson_filled,signs.mp (written_kept.mp filledJson_written)⟩

theorem migration_columns_exact_example :
    (∃ blob, encodeExecutionEvidence (embed exampleEvidence.json) exampleCanonical exampleCanonical = .ok blob ∧
      decodeExecutionEvidence blob exampleCanonical exampleCanonical = .ok exampleEvidence) ∧
    decodeSubscriptionPriceMigrationJson exampleCurrencies (fun _ => none) filledJson.stringify = .ok filledJson ∧
    ∃ json : NormalizedJson exampleCurrencies,
      subscriptionPriceMigrationToEntity exampleCurrencies (fun _ => none)
          (storedRow (storedValues exampleData filledJson) none (ofString "id") ⟨0,by decide⟩ ⟨0,by decide⟩) =
        .ok (createdMigration exampleData json (ofString "id") ⟨0,by decide⟩ ⟨0,by decide⟩) := by
  obtain ⟨evidence,_,columns,stored⟩ := migration_columns_exact (fun _ => none) exampleCurrencies
  obtain ⟨read,encoded⟩ := evidence exampleCanonical exampleCanonical exampleEvidence exampleEvidence_aligned exampleEvidence_aligned
  obtain ⟨json,_,back⟩ := stored exampleData _ (exampleData_stored _)
  obtain ⟨filled,signs⟩ := exampleData_plain
  refine ⟨encoded _ read,(columns exampleData.json _ (filledJson_normalized _)).1.mpr ⟨filled,signs⟩,json,?_⟩
  exact (back none (ofString "id") _ _).mpr ⟨filled,signs,fun empty => @ofString_nonempty "acme" (by decide) (Option.some.inj empty)⟩

end Payable.MigrationColumns
