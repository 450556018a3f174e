import Payable.MigrationColumns.PriceMigrationJson

namespace Payable.MigrationColumns
open JsonText FiniteDoubles UnitTexts JsonDocuments JsonValues Payable.Language Checked IsoDates

theorem zero_safe : isSafeInteger Written.zero.double = true := by
  have units : Written.zero.double.units = 0 := rfl
  rw [isSafeInteger,units,Nat.zero_mod,decide_eq_true (Nat.zero_le _)]
  rfl

theorem written_safe {x : Double} (safe : isSafeInteger x = true) : isSafeInteger (Written.of x).double = true := by
  by_cases zero : x.units = 0
  · rw [Written.of,dif_pos zero]
    exact zero_safe
  · rw [Written.of,dif_neg zero]
    exact safe

-- An integer as its text keeps it: a zero loses its sign.
def unsigned (number : SafeInteger) : SafeInteger := ⟨(Written.of number.1).double,written_safe number.2⟩

def IsNegativeZero (x : Double) : Prop := x.units = 0 ∧ x.negative = true

theorem unsigned_kept {number : SafeInteger} : unsigned number = number ↔ ¬ IsNegativeZero number.1 := by
  obtain ⟨x,safe⟩ := number
  rw [Subtype.ext_iff,IsNegativeZero]
  by_cases zero : x.units = 0
  · have written : (unsigned ⟨x,safe⟩).1 = Written.zero.double := congrArg Written.double (dif_pos zero)
    rw [written,not_and]
    constructor
    · rintro rfl _ negative
      cases negative
    · intro plain
      exact units_injective (Bool.eq_false_iff.mpr (plain zero)).symm zero.symm
  · have written : (unsigned ⟨x,safe⟩).1 = x := congrArg Written.double (dif_neg zero)
    exact iff_of_true written fun both => zero both.1

theorem positive_written (number : PositiveInteger) : (Written.of number.1).double = number.1 := by
  have positive := number.2.2
  simp only [isPositive,Bool.and_eq_true,decide_eq_true_eq] at positive
  rw [Written.of,dif_neg positive.2]

theorem embed_null {document : Document} (solid : document ≠ .null) : embed document ≠ .null := by
  cases document with
  | null => exact absurd rfl solid
  | _ => nofun

theorem embed_solid (document : Document) : embed document ≠ .hole := by cases document <;> nofun

section Lists

variable {α : Type} {read : Value → String → Except Failure α} {json : α → Document} {f : α → α} {label : String}

theorem nullable_embed (solid : ∀ value, json value ≠ .null) (each : ∀ value label, read (embed (json value)) label = .ok (f value))
    (value : Option α) : nullable read (embed (nullOr json value)) label = .ok (value.map f) := by
  cases value with
  | none => rfl
  | some value => exact nullable_ok.mpr (.inr ⟨embed_null (solid value),f value,each value label,rfl⟩)

theorem mapItems_cons {value : Value} (solid : value ≠ .hole) (index : Nat) (rest : List Value) :
    mapItems read label index (value :: rest) = (do
      let one ← read value (label ++ "[" ++ toString index ++ "]")
      let others ← mapItems read label (index + 1) rest
      return some one :: others) := by
  cases value with
  | hole => exact absurd rfl solid
  | _ => rfl

-- A hole stays a hole; what is not one is read.
theorem mapItems_step {value : Value} {rest : List Value} {index : Nat} {items : List (Option α)}
    (ran : mapItems read label index (value :: rest) = .ok items) : ∃ item others, items = item :: others ∧
      mapItems read label (index + 1) rest = .ok others ∧
      (value = .hole ∧ item = none ∨ value ≠ .hole ∧ ∃ label one, read value label = .ok one ∧ item = some one) := by
  by_cases hole : value = .hole
  · rw [hole,mapItems,bind_ok] at ran
    obtain ⟨others,later,made⟩ := ran
    exact ⟨none,others,(pure_ok.mp made).symm,later,.inl ⟨hole,rfl⟩⟩
  · rw [mapItems_cons hole,bind_ok] at ran
    obtain ⟨one,its,ran⟩ := ran
    obtain ⟨others,later,made⟩ := bind_ok.mp ran
    exact ⟨some one,others,(pure_ok.mp made).symm,later,.inr ⟨hole,_,one,its,rfl⟩⟩

theorem mapItems_holes {values : List Value} : ∀ {index : Nat} {items : List (Option α)}, mapItems read label index values = .ok items →
    (none ∈ items ↔ Value.hole ∈ values) := by
  induction values with
  | nil =>
      intro index items ran
      cases ran
      exact iff_of_false List.not_mem_nil List.not_mem_nil
  | cons value rest ih =>
      intro index items ran
      obtain ⟨item,others,rfl,later,one⟩ := mapItems_step ran
      rw [List.mem_cons,List.mem_cons,ih later]
      rcases one with ⟨rfl,rfl⟩ | ⟨solid,_,_,_,rfl⟩
      · exact iff_of_true (.inl rfl) (.inl rfl)
      · exact or_congr_left (iff_of_false nofun solid.symm)

theorem mapItems_each {values : List Value} : ∀ {index : Nat} {items : List (Option α)}, mapItems read label index values = .ok items →
    ∀ value ∈ values, value = .hole ∨ ∃ label one, read value label = .ok one := by
  induction values with
  | nil => exact fun _ => nofun
  | cons value rest ih =>
      intro index items ran
      obtain ⟨item,others,_,later,one⟩ := mapItems_step ran
      refine List.forall_mem_cons.mpr ⟨?_,ih later⟩
      rcases one with ⟨hole,_⟩ | ⟨_,label,one,its,_⟩
      · exact .inl hole
      · exact .inr ⟨label,one,its⟩

theorem arrayOf_embed (each : ∀ value label, read (embed (json value)) label = .ok (f value)) {invalid : String → Failure}
    {items : List (Option α)} (filled : none ∉ items) :
    arrayOf invalid read (embed (sparse json items)) label = .ok (items.map (Option.map f)) := by
  have mapped : ∀ index, mapItems read label index ((items.map (nullOr json)).map embed) = .ok (items.map (Option.map f)) := by
    induction items with
    | nil => exact fun _ => rfl
    | cons item rest ih =>
        intro index
        cases item with
        | none => exact absurd List.mem_cons_self filled
        | some item =>
            have later := ih (fun inside => filled (List.mem_cons_of_mem _ inside)) (index + 1)
            rw [List.map_cons,List.map_cons,mapItems_cons (embed_solid _)]
            exact bind_ok.mpr ⟨_,each item _,bind_ok.mpr ⟨_,later,rfl⟩⟩
  rw [sparse,embed,embedItems_map]
  exact mapped 0

-- The null of a hole is read back as none of the items.
theorem arrayOf_hole (refused : ∀ label one, read .null label ≠ .ok one) {invalid : String → Failure} {items result : List (Option α)}
    (hole : none ∈ items) : arrayOf invalid read (embed (sparse json items)) label ≠ .ok result := by
  intro ran
  rw [sparse,embed,embedItems_map] at ran
  have null : Value.null ∈ (items.map (nullOr json)).map embed := List.mem_map_of_mem (List.mem_map_of_mem hole)
  rcases mapItems_each ran _ null with absent | ⟨its,one,made⟩
  · cases absent
  · exact refused its one made

end Lists

theorem nullOr_distinct {α : Type} {json : α → Document} (each : ∀ value, Distinct (json value)) (value : Option α) : Distinct (nullOr json value) := by
  cases value with
  | none => trivial
  | some value => exact each value

theorem sparse_distinct {α : Type} {json : α → Document} (each : ∀ value, Distinct (json value)) (items : List (Option α)) :
    Distinct (sparse json items) := by
  refine (itemsDistinct_all _).mpr fun document inside => ?_
  obtain ⟨item,_,rfl⟩ := List.mem_map.mp inside
  exact nullOr_distinct each item

theorem number_distinct {property : Double → Prop} (number : Option {x : Double // property x}) :
    Distinct (nullOr (fun number => integerJson number.1) number) := by
  refine nullOr_distinct ?_ number
  exact fun _ => trivial

theorem text_distinct {property : Utf16 → Prop} (text : Option {text : Utf16 // property text}) :
    Distinct (nullOr (fun text => .string text.1) text) := by
  refine nullOr_distinct ?_ text
  exact fun _ => trivial

theorem time_distinct (time : Option Time) : Distinct (nullOr timeJson time) := by
  refine nullOr_distinct ?_ time
  exact fun _ => trivial

section Records

variable {currencies : Currencies} {otherDates : List Nat → Option Int}

theorem PriceSnapshot.distinct (price : PriceSnapshot currencies) : Distinct price.json := by
  refine ⟨?_,trivial,trivial,trivial,trivial,text_distinct _,number_distinct _,trivial⟩
  show (["id","productId","amount","currency","interval","intervalCount"].map ofString).Nodup
  decide

theorem ItemSnapshot.distinct (item : ItemSnapshot) : Distinct item.json := by
  refine ⟨?_,trivial,trivial,trivial,trivial⟩
  show (["id","priceId","quantity"].map ofString).Nodup
  decide

theorem Adjustment.distinct (adjustment : Adjustment currencies) : Distinct adjustment.json := by
  refine ⟨?_,trivial,number_distinct _,text_distinct _,trivial⟩
  show (["direction","amount","currency"].map ofString).Nodup
  decide

theorem Renewal.distinct (renewal : Renewal currencies) : Distinct renewal.json := by
  refine ⟨?_,number_distinct _,text_distinct _,time_distinct _,trivial⟩
  show (["amount","currency","date"].map ofString).Nodup
  decide

-- The records as their texts keep them.
def PriceSnapshot.written (price : PriceSnapshot currencies) : PriceSnapshot currencies := {price with amount := unsigned price.amount}

def Adjustment.written (adjustment : Adjustment currencies) : Adjustment currencies :=
  {adjustment with amount := adjustment.amount.map unsigned}

def Renewal.written (renewal : Renewal currencies) : Renewal currencies := {renewal with amount := renewal.amount.map unsigned}

def NormalizedJson.written (json : NormalizedJson currencies) : NormalizedJson currencies :=
  {json with
    sourcePrice := json.sourcePrice.written
    targetPrice := json.targetPrice.written
    immediateAdjustment := json.immediateAdjustment.written
    nextRenewal := json.nextRenewal.written}

section Read

variable {invalid : String → Failure} {label : String}

theorem safeInteger_embed (number : SafeInteger) (label : String) :
    safeInteger invalid (embed (integerJson number.1)) label = .ok (unsigned number) := safeInteger_ok.mpr rfl

theorem positiveInteger_embed (number : PositiveInteger) (label : String) :
    positiveInteger invalid (embed (integerJson number.1)) label = .ok number := by
  rw [integerJson,embed,positive_written]
  exact positiveInteger_ok.mpr rfl

theorem nonEmptyString_embed (text : NonEmpty) (label : String) : nonEmptyString invalid (embed (.string text.1)) label = .ok text :=
  nonEmptyString_ok.mpr rfl

theorem validDate_embed (time : Time) (label : String) : validDate invalid otherDates (embed (timeJson time)) label = .ok time := by
  rw [timeJson,embed,validDate,units_ofString,Collections.dateOf_toISOString otherDates time.2]
  exact checkedTime_ok.mpr rfl

theorem directionOf_text (direction : Direction) : directionOf (.string (ofString direction.text)) = some direction := by
  cases direction <;> rfl

theorem amount_embed (amount : Option SafeInteger) (label : String) :
    nullable (safeInteger invalid) (embed (nullOr (fun number => integerJson number.1) amount)) label = .ok (amount.map unsigned) :=
  nullable_embed (fun _ same => Document.noConfusion same) (fun number label => safeInteger_embed number label) amount

theorem currency_embed (currency : Option (CurrencyCode currencies)) (label : String) :
    nullable (currencyCode invalid currencies) (embed (nullOr (fun code => .string code.1) currency)) label = .ok currency := by
  rw [nullable_embed (f := id) (fun _ same => Document.noConfusion same) (fun code label => currencyCode_ok) currency,Option.map_id,id]

end Read

theorem normalizePrice_json (price : PriceSnapshot currencies) (label : String) :
    normalizePrice currencies (embed price.json) label = .ok price.written := by
  have interval : nullable (nonEmptyString invalidJson) (embed (nullOr (fun text => .string text.1) price.interval)) (label ++ ".interval") =
      .ok price.interval := by
    rw [nullable_embed (f := id) (fun _ same => Document.noConfusion same) (fun text label => nonEmptyString_embed text label) price.interval,Option.map_id,id]
  have intervalCount : nullable (positiveInteger invalidJson) (embed (nullOr (fun number => integerJson number.1) price.intervalCount))
      (label ++ ".intervalCount") = .ok price.intervalCount := by
    rw [nullable_embed (f := id) (fun _ same => Document.noConfusion same) (fun number label => positiveInteger_embed number label) price.intervalCount,
      Option.map_id,id]
  refine bind_ok.mpr ⟨_,exactObject_ok.mpr ⟨rfl,rfl⟩,bind_ok.mpr ⟨price.id,nonEmptyString_embed _ _,?_⟩⟩
  refine bind_ok.mpr ⟨price.productId,nonEmptyString_embed _ _,bind_ok.mpr ⟨unsigned price.amount,safeInteger_embed _ _,?_⟩⟩
  exact bind_ok.mpr ⟨price.currency,currencyCode_ok,bind_ok.mpr ⟨_,interval,bind_ok.mpr ⟨_,intervalCount,rfl⟩⟩⟩

theorem normalizeItem_json (item : ItemSnapshot) (label : String) : normalizeItem (embed item.json) label = .ok item := by
  refine bind_ok.mpr ⟨_,exactObject_ok.mpr ⟨rfl,rfl⟩,bind_ok.mpr ⟨item.id,nonEmptyString_embed _ _,?_⟩⟩
  exact bind_ok.mpr ⟨item.priceId,nonEmptyString_embed _ _,bind_ok.mpr ⟨item.quantity,positiveInteger_embed _ _,rfl⟩⟩

theorem normalizeAdjustment_json (adjustment : Adjustment currencies) :
    normalizeAdjustment currencies (embed adjustment.json) = .ok adjustment.written := by
  refine bind_ok.mpr ⟨_,exactObject_ok.mpr ⟨rfl,rfl⟩,bind_ok.mpr ⟨adjustment.direction,require_ok.mpr (directionOf_text _),?_⟩⟩
  exact bind_ok.mpr ⟨_,amount_embed _ _,bind_ok.mpr ⟨_,currency_embed _ _,rfl⟩⟩

theorem normalizeRenewal_json (renewal : Renewal currencies) :
    normalizeRenewal currencies otherDates (embed renewal.json) = .ok renewal.written := by
  have date : nullable (validDate invalidJson otherDates) (embed (nullOr timeJson renewal.date)) "next_renewal.date" = .ok renewal.date := by
    rw [nullable_embed (f := id) (fun _ same => Document.noConfusion same) (fun time label => validDate_embed time label) renewal.date,Option.map_id,id]
  refine bind_ok.mpr ⟨_,exactObject_ok.mpr ⟨rfl,rfl⟩,bind_ok.mpr ⟨_,amount_embed _ _,?_⟩⟩
  exact bind_ok.mpr ⟨_,currency_embed _ _,bind_ok.mpr ⟨_,date,rfl⟩⟩

-- The columns parsed again.
def NormalizedJson.parsed (json : NormalizedJson currencies) : Columns Value where
  sourcePrice := embed json.sourcePrice.json
  targetPrice := embed json.targetPrice.json
  currentItems := embed (sparse ItemSnapshot.json json.currentItems)
  proposedItems := embed (sparse ItemSnapshot.json json.proposedItems)
  immediateAdjustment := embed json.immediateAdjustment.json
  nextRenewal := embed json.nextRenewal.json
  warnings := embed (sparse .string json.warnings)
  providerLimitations := embed (sparse .string json.providerLimitations)

structure NormalizedJson.Filled (json : NormalizedJson currencies) : Prop where
  currentItems : none ∉ json.currentItems
  proposedItems : none ∉ json.proposedItems
  warnings : none ∉ json.warnings
  providerLimitations : none ∉ json.providerLimitations

theorem parseColumn_write {document : Document} (distinct : Distinct document) (label : String) :
    parseColumn (write document) label = .ok (embed document) := require_ok.mpr (parseJson_write distinct)

theorem decode_parsed (json : NormalizedJson currencies) : decodeSubscriptionPriceMigrationJson currencies otherDates json.stringify =
    normalizeSubscriptionPriceMigrationJson currencies otherDates json.parsed := by
  have currentItems := sparse_distinct ItemSnapshot.distinct json.currentItems
  have proposedItems := sparse_distinct ItemSnapshot.distinct json.proposedItems
  have warnings : Distinct (sparse .string json.warnings) := by
    refine sparse_distinct ?_ _
    exact fun _ => trivial
  have limitations : Distinct (sparse .string json.providerLimitations) := by
    refine sparse_distinct ?_ _
    exact fun _ => trivial
  simp only [decodeSubscriptionPriceMigrationJson,NormalizedJson.stringify,parseColumn_write json.sourcePrice.distinct,
    parseColumn_write json.targetPrice.distinct,parseColumn_write currentItems,parseColumn_write proposedItems,
    parseColumn_write json.immediateAdjustment.distinct,parseColumn_write json.nextRenewal.distinct,parseColumn_write warnings,
    parseColumn_write limitations]
  rfl

theorem items_embed {items : List (Option ItemSnapshot)} (filled : none ∉ items) (label : String) :
    normalizeItems (embed (sparse ItemSnapshot.json items)) label = .ok items := by
  rw [normalizeItems,arrayOf_embed (f := id) normalizeItem_json filled,Option.map_id,List.map_id]

theorem strings_embed {texts : List (Option Utf16)} (filled : none ∉ texts) (label : String) :
    normalizeStrings (embed (sparse .string texts)) label = .ok texts := by
  rw [normalizeStrings,arrayOf_embed (f := id) (fun _ _ => stringValue_ok.mpr rfl) filled,Option.map_id,List.map_id]

theorem normalize_parsed {json : NormalizedJson currencies} (filled : json.Filled) :
    normalizeSubscriptionPriceMigrationJson currencies otherDates json.parsed = .ok json.written := by
  refine bind_ok.mpr ⟨_,normalizePrice_json _ _,bind_ok.mpr ⟨_,normalizePrice_json _ _,?_⟩⟩
  refine bind_ok.mpr ⟨_,items_embed filled.currentItems _,bind_ok.mpr ⟨_,items_embed filled.proposedItems _,?_⟩⟩
  refine bind_ok.mpr ⟨_,normalizeAdjustment_json _,bind_ok.mpr ⟨_,normalizeRenewal_json _,?_⟩⟩
  exact bind_ok.mpr ⟨_,strings_embed filled.warnings _,bind_ok.mpr ⟨_,strings_embed filled.providerLimitations _,rfl⟩⟩

theorem normalizeItem_null (label : String) (item : ItemSnapshot) : normalizeItem .null label ≠ .ok item := nofun

theorem normalize_filled {json result : NormalizedJson currencies}
    (ran : normalizeSubscriptionPriceMigrationJson currencies otherDates json.parsed = .ok result) : json.Filled := by
  obtain ⟨_,_,ran⟩ := bind_ok.mp ran
  obtain ⟨_,_,ran⟩ := bind_ok.mp ran
  obtain ⟨_,currentItems,ran⟩ := bind_ok.mp ran
  obtain ⟨_,proposedItems,ran⟩ := bind_ok.mp ran
  obtain ⟨_,_,ran⟩ := bind_ok.mp ran
  obtain ⟨_,_,ran⟩ := bind_ok.mp ran
  obtain ⟨_,warnings,ran⟩ := bind_ok.mp ran
  obtain ⟨_,limitations,_⟩ := bind_ok.mp ran
  have refused : ∀ label one, stringValue invalidJson .null label ≠ .ok one := nofun
  exact ⟨fun hole => arrayOf_hole normalizeItem_null hole currentItems,fun hole => arrayOf_hole normalizeItem_null hole proposedItems,
    fun hole => arrayOf_hole refused hole warnings,fun hole => arrayOf_hole refused hole limitations⟩

-- What the columns are decoded as.
theorem decode_stringify {json result : NormalizedJson currencies} :
    decodeSubscriptionPriceMigrationJson currencies otherDates json.stringify = .ok result ↔ json.Filled ∧ json.written = result := by
  rw [decode_parsed]
  constructor
  · intro ran
    have filled := normalize_filled ran
    rw [normalize_parsed filled] at ran
    exact ⟨filled,Except.ok.inj ran⟩
  · rintro ⟨filled,rfl⟩
    exact normalize_parsed filled

def AmountSigned (amount : Option SafeInteger) : Prop := ∃ number ∈ amount, IsNegativeZero number.1

structure NormalizedJson.Unsigned (json : NormalizedJson currencies) : Prop where
  sourcePrice : ¬ IsNegativeZero json.sourcePrice.amount.1
  targetPrice : ¬ IsNegativeZero json.targetPrice.amount.1
  immediateAdjustment : ¬ AmountSigned json.immediateAdjustment.amount
  nextRenewal : ¬ AmountSigned json.nextRenewal.amount

theorem amount_kept {amount : Option SafeInteger} : amount.map unsigned = amount ↔ ¬ AmountSigned amount := by
  cases amount with
  | none => exact iff_of_true rfl nofun
  | some number =>
      rw [Option.map_some,Option.some.injEq,unsigned_kept]
      refine not_congr ⟨fun signed => ⟨number,rfl,signed⟩,?_⟩
      rintro ⟨_,same,signed⟩
      exact Option.some.inj same ▸ signed

theorem written_kept {json : NormalizedJson currencies} : json.written = json ↔ json.Unsigned := by
  constructor
  · intro same
    have source := congrArg (fun json => json.sourcePrice.amount) same
    have target := congrArg (fun json => json.targetPrice.amount) same
    have adjustment := congrArg (fun json => json.immediateAdjustment.amount) same
    have renewal := congrArg (fun json => json.nextRenewal.amount) same
    exact ⟨unsigned_kept.mp source,unsigned_kept.mp target,amount_kept.mp adjustment,amount_kept.mp renewal⟩
  · intro plain
    have source : json.sourcePrice.written = json.sourcePrice := by
      rw [PriceSnapshot.written,unsigned_kept.mpr plain.sourcePrice]
    have target : json.targetPrice.written = json.targetPrice := by
      rw [PriceSnapshot.written,unsigned_kept.mpr plain.targetPrice]
    have adjustment : json.immediateAdjustment.written = json.immediateAdjustment := by
      rw [Adjustment.written,amount_kept.mpr plain.immediateAdjustment]
    have renewal : json.nextRenewal.written = json.nextRenewal := by
      rw [Renewal.written,amount_kept.mpr plain.nextRenewal]
    rw [NormalizedJson.written,source,target,adjustment,renewal]

-- The same of what is normalized.
def Sparse (value : Value) : Prop := ∃ items, value = .array items ∧ .hole ∈ items

def NegativeAmount (value : Value) : Prop :=
  ∃ object x, fields value = some object ∧ get object "amount" = .number (.finite x) ∧ IsNegativeZero x

structure Filled (input : Columns Value) : Prop where
  currentItems : ¬ Sparse input.currentItems
  proposedItems : ¬ Sparse input.proposedItems
  warnings : ¬ Sparse input.warnings
  providerLimitations : ¬ Sparse input.providerLimitations

structure Unsigned (input : Columns Value) : Prop where
  sourcePrice : ¬ NegativeAmount input.sourcePrice
  targetPrice : ¬ NegativeAmount input.targetPrice
  immediateAdjustment : ¬ NegativeAmount input.immediateAdjustment
  nextRenewal : ¬ NegativeAmount input.nextRenewal

theorem arrayOf_sparse {α : Type} {read : Value → String → Except Failure α} {invalid : String → Failure} {value : Value} {label : String}
    {items : List (Option α)} (ran : arrayOf invalid read value label = .ok items) : none ∈ items ↔ Sparse value := by
  cases value with
  | array values =>
      refine (mapItems_holes ran).trans ⟨fun hole => ⟨values,rfl,hole⟩,?_⟩
      rintro ⟨_,same,hole⟩
      cases same
      exact hole
  | _ => cases ran

theorem price_amount {value : Value} {label : String} {price : PriceSnapshot currencies} (ran : normalizePrice currencies value label = .ok price) :
    IsNegativeZero price.amount.1 ↔ NegativeAmount value := by
  obtain ⟨object,own,ran⟩ := bind_ok.mp ran
  obtain ⟨_,_,ran⟩ := bind_ok.mp ran
  obtain ⟨_,_,ran⟩ := bind_ok.mp ran
  obtain ⟨amount,its,ran⟩ := bind_ok.mp ran
  obtain ⟨_,_,ran⟩ := bind_ok.mp ran
  obtain ⟨_,_,ran⟩ := bind_ok.mp ran
  obtain ⟨_,_,made⟩ := bind_ok.mp ran
  rw [← pure_ok.mp made]
  have number := safeInteger_ok.mp its
  refine ⟨fun signed => ⟨object,amount.1,(exactObject_ok.mp own).1,number,signed⟩,?_⟩
  rintro ⟨other,x,own',number',signed⟩
  cases (exactObject_ok.mp own).1.symm.trans own'
  cases number.symm.trans number'
  exact signed

theorem object_amount {value : Value} {label path : String} {keys : List String} {object : List (Utf16 × Value)} {amount : Option SafeInteger}
    (own : exactObject invalidJson value label keys = .ok object)
    (its : nullable (safeInteger invalidJson) (get object "amount") path = .ok amount) : AmountSigned amount ↔ NegativeAmount value := by
  have fields_ := (exactObject_ok.mp own).1
  rcases nullable_ok.mp its with ⟨null,rfl⟩ | ⟨_,number,checked,rfl⟩
  · refine iff_of_false nofun ?_
    rintro ⟨other,x,own',number,_⟩
    cases fields_.symm.trans own'
    cases null.symm.trans number
  · have its := safeInteger_ok.mp checked
    constructor
    · rintro ⟨_,same,signed⟩
      cases same
      exact ⟨object,number.1,fields_,its,signed⟩
    · rintro ⟨other,x,own',number',signed⟩
      cases fields_.symm.trans own'
      cases its.symm.trans number'
      exact ⟨number,rfl,signed⟩

theorem adjustment_amount {value : Value} {adjustment : Adjustment currencies} (ran : normalizeAdjustment currencies value = .ok adjustment) :
    AmountSigned adjustment.amount ↔ NegativeAmount value := by
  obtain ⟨object,own,ran⟩ := bind_ok.mp ran
  obtain ⟨_,_,ran⟩ := bind_ok.mp ran
  obtain ⟨amount,its,ran⟩ := bind_ok.mp ran
  obtain ⟨_,_,made⟩ := bind_ok.mp ran
  rw [← pure_ok.mp made]
  exact object_amount own its

theorem renewal_amount {value : Value} {renewal : Renewal currencies} (ran : normalizeRenewal currencies otherDates value = .ok renewal) :
    AmountSigned renewal.amount ↔ NegativeAmount value := by
  obtain ⟨object,own,ran⟩ := bind_ok.mp ran
  obtain ⟨amount,its,ran⟩ := bind_ok.mp ran
  obtain ⟨_,_,ran⟩ := bind_ok.mp ran
  obtain ⟨_,_,made⟩ := bind_ok.mp ran
  rw [← pure_ok.mp made]
  exact object_amount own its

-- The holes and the zeros with a sign of the normalized values are those of the input.
theorem normalized_input {input : Columns Value} {json : NormalizedJson currencies}
    (ran : normalizeSubscriptionPriceMigrationJson currencies otherDates input = .ok json) :
    (json.Filled ↔ Filled input) ∧ (json.Unsigned ↔ Unsigned input) := by
  obtain ⟨_,source,ran⟩ := bind_ok.mp ran
  obtain ⟨_,target,ran⟩ := bind_ok.mp ran
  obtain ⟨_,currentItems,ran⟩ := bind_ok.mp ran
  obtain ⟨_,proposedItems,ran⟩ := bind_ok.mp ran
  obtain ⟨_,adjustment,ran⟩ := bind_ok.mp ran
  obtain ⟨_,renewal,ran⟩ := bind_ok.mp ran
  obtain ⟨_,warnings,ran⟩ := bind_ok.mp ran
  obtain ⟨_,limitations,made⟩ := bind_ok.mp ran
  rw [← pure_ok.mp made]
  have holes := And.intro (arrayOf_sparse currentItems) (And.intro (arrayOf_sparse proposedItems)
    (And.intro (arrayOf_sparse warnings) (arrayOf_sparse limitations)))
  have signs := And.intro (price_amount source) (And.intro (price_amount target)
    (And.intro (adjustment_amount adjustment) (renewal_amount renewal)))
  constructor
  · constructor
    · rintro ⟨a,b,c,d⟩
      exact ⟨mt holes.1.mpr a,mt holes.2.1.mpr b,mt holes.2.2.1.mpr c,mt holes.2.2.2.mpr d⟩
    · rintro ⟨a,b,c,d⟩
      exact ⟨mt holes.1.mp a,mt holes.2.1.mp b,mt holes.2.2.1.mp c,mt holes.2.2.2.mp d⟩
  · constructor
    · rintro ⟨a,b,c,d⟩
      exact ⟨mt signs.1.mpr a,mt signs.2.1.mpr b,mt signs.2.2.1.mpr c,mt signs.2.2.2.mpr d⟩
    · rintro ⟨a,b,c,d⟩
      exact ⟨mt signs.1.mp a,mt signs.2.1.mp b,mt signs.2.2.1.mp c,mt signs.2.2.2.mp d⟩

-- The round trip of the columns: the values come back as they are but for a zero's sign when no list has a hole.
theorem columns_round_trip {input : Columns Value} {json : NormalizedJson currencies}
    (ran : normalizeSubscriptionPriceMigrationJson currencies otherDates input = .ok json) :
    (decodeSubscriptionPriceMigrationJson currencies otherDates json.stringify = .ok json ↔ Filled input ∧ Unsigned input) ∧
      (decodeSubscriptionPriceMigrationJson currencies otherDates json.stringify = .ok json.written ↔ Filled input) := by
  obtain ⟨filled,signs⟩ := normalized_input ran
  rw [decode_stringify,decode_stringify,written_kept,filled,signs,eq_self,and_true]
  exact ⟨Iff.rfl,Iff.rfl⟩

end Records

end Payable.MigrationColumns
