import Mathlib.Data.List.Lex
import Payable.Amounts.Money
import Payable.Collections.Completeness
import Payable.Foundation.Checked
import Payable.Foundation.JsonValues
import Payable.Foundation.Keyset

namespace Payable.MigrationColumns
open JsonText FiniteDoubles UnitTexts JsonDocuments JsonValues Payable.Language Checked IsoDates

-- An unreadable item is the TypeError of a field of undefined.
inductive Failure where
  | invalid (subject label : String)
  | unsupportedCurrency (code : Utf16)
  | unsupportedVersion
  | unreadableItem
  deriving DecidableEq

def Failure.message : Failure → Utf16
  | .invalid subject label => ofString ("Invalid " ++ subject ++ ": " ++ label)
  | .unsupportedCurrency code => ofString "Unsupported currency code: " ++ code
  | .unsupportedVersion => ofString "Subscription migration execution evidence has an unsupported version"
  | .unreadableItem => ofString "Cannot read properties of undefined (reading 'itemId')"

-- The own fields of what typeof says is an object, less an array and null.
def fields : Value → Option (List (Utf16 × Value))
  | .object members => some members
  | .serializable members _ => some members
  | .date _ | .collection _ => some []
  | _ => none

def get (object : List (Utf16 × Value)) (key : String) : Value :=
  ((object.find? fun entry => entry.1 = ofString key).map Prod.snd).getD .undefined

-- Array.prototype.sort of strings.
def sorted (names : List Utf16) : List Utf16 := Keyset.ordered (List.map UInt16.toNat) names

abbrev NonEmpty := {text : Utf16 // text ≠ []}

def isSafeInteger (x : Double) : Bool := x.units % 2 ^ 1074 = 0 && x.units ≤ Binary64.maxSafeInteger * 2 ^ 1074

def isPositive (x : Double) : Bool := !x.negative && x.units ≠ 0

abbrev SafeInteger := {x : Double // isSafeInteger x = true}

abbrev PositiveInteger := {x : Double // isSafeInteger x = true ∧ isPositive x = true}

abbrev Time := {time : Int // validTime time = true}

-- The field checks of both formats, which differ in their errors.
section Checks

variable (invalid : String → Failure)

def exactObject (value : Value) (label : String) (keys : List String) : Except Failure (List (Utf16 × Value)) :=
  match fields value with
  | some members => if sorted (members.map Prod.fst) = sorted (keys.map ofString) then .ok members else .error (invalid label)
  | none => .error (invalid label)

def nonEmptyString (value : Value) (label : String) : Except Failure NonEmpty :=
  match value with
  | .string text => keep (· ≠ []) text (invalid label)
  | _ => .error (invalid label)

def stringValue (value : Value) (label : String) : Except Failure Utf16 :=
  match value with
  | .string text => .ok text
  | _ => .error (invalid label)

def safeInteger (value : Value) (label : String) : Except Failure SafeInteger :=
  match value with
  | .number (.finite x) => keep (isSafeInteger · = true) x (invalid label)
  | _ => .error (invalid label)

def positiveInteger (value : Value) (label : String) : Except Failure PositiveInteger := do
  let number ← safeInteger invalid value label
  keep (fun x => isSafeInteger x = true ∧ isPositive x = true) number.1 (invalid label)

def checkedTime (time : Option Int) (label : String) : Except Failure Time :=
  match time with
  | some time => keep (validTime · = true) time (invalid label)
  | none => .error (invalid label)

-- A date that is not in the format of toISOString is read by otherDates.
def validDate (otherDates : List Nat → Option Int) (value : Value) (label : String) : Except Failure Time :=
  match value with
  | .date time => checkedTime invalid time label
  | .string text => checkedTime invalid (Collections.dateOf otherDates (text.map UInt16.toNat)) label
  | _ => .error (invalid label)

variable {α : Type}

def nullable (read : Value → String → Except Failure α) (value : Value) (label : String) : Except Failure (Option α) :=
  match value with
  | .null => .ok none
  | _ => (read value label).map some

-- The list that map makes, a hole of which stays a hole.
def mapItems (read : Value → String → Except Failure α) (label : String) : Nat → List Value → Except Failure (List (Option α))
  | _,[] => .ok []
  | index,.hole :: rest => do
    let others ← mapItems read label (index + 1) rest
    return none :: others
  | index,item :: rest => do
    let one ← read item (label ++ "[" ++ toString index ++ "]")
    let others ← mapItems read label (index + 1) rest
    return some one :: others

def arrayOf (read : Value → String → Except Failure α) (value : Value) (label : String) : Except Failure (List (Option α)) :=
  match value with
  | .array items => mapItems read label 0 items
  | _ => .error (invalid label)

end Checks

-- What JSON.stringify writes of them: a hole of a list is null.
section Documents

variable {α : Type}

def nullOr (json : α → Document) : Option α → Document
  | none => .null
  | some value => json value

def sparse (json : α → Document) (items : List (Option α)) : Document := .array (items.map (nullOr json))

def integerJson (x : Double) : Document := .number (.of x)

def timeJson (time : Time) : Document := .string (ofString (String.ofList (toISOString time.1)))

end Documents

structure Currencies extends Amounts.Registry where
  named : ∀ code its, currency code = some its → its.code ≠ ""

def spelling (code : Utf16) : String := Collections.toText (code.map UInt16.toNat)

-- The code of a currency; half of a surrogate pair is in the name of none.
def Currencies.codeOf (currencies : Currencies) (code : Utf16) : Option Utf16 :=
  if ofString (spelling code) = code then (currencies.currency (spelling code)).map fun its => ofString its.code else none

theorem units_ofString (text : String) : (ofString text).map UInt16.toNat = codeUnits text := by
  have small : ∀ unit ∈ codeUnits text, unit < 65536 := by
    intro unit inside
    obtain ⟨c,_,its⟩ := List.mem_flatMap.mp inside
    have range := JsonParse.toNat_range c
    split at its
    · rename_i plain
      rw [List.mem_singleton.mp its]
      exact plain
    · rcases List.mem_cons.mp its with rfl | last
      · omega
      · rw [List.mem_singleton.mp last]
        omega
  rw [ofString,List.map_map]
  exact (List.map_congr_left fun unit inside => UInt16.toNat_ofNat_of_lt' (small unit inside)).trans (List.map_id _)

theorem spelling_ofString (text : String) : spelling (ofString text) = text := by
  rw [spelling,units_ofString,Collections.toText_codeUnits]

theorem ofString_nonempty {text : String} (filled : text ≠ "") : ofString text ≠ [] := by
  intro empty
  have spelled := spelling_ofString text
  rw [empty] at spelled
  exact filled spelled.symm

theorem Currencies.codeOf_itself {currencies : Currencies} {code its : Utf16} (known : currencies.codeOf code = some its) :
    its ≠ [] ∧ currencies.codeOf its = some its := by
  unfold Currencies.codeOf at known
  split at known
  · obtain ⟨currency,here,rfl⟩ := Option.map_eq_some_iff.mp known
    have itself := currencies.itself _ _ here
    refine ⟨ofString_nonempty (currencies.named _ _ here),?_⟩
    rw [Currencies.codeOf,spelling_ofString,if_pos rfl,itself,Option.map_some]
  · cases known

abbrev CurrencyCode (currencies : Currencies) := {code : Utf16 // code ≠ [] ∧ currencies.codeOf code = some code}

def Currencies.normalize (currencies : Currencies) (code : Utf16) : Except Failure (CurrencyCode currencies) :=
  match known : currencies.codeOf code with
  | some its => .ok ⟨its,Currencies.codeOf_itself known⟩
  | none => .error (.unsupportedCurrency code)

def currencyCode (invalid : String → Failure) (currencies : Currencies) (value : Value) (label : String) :
    Except Failure (CurrencyCode currencies) := do
  let code ← nonEmptyString invalid value label
  currencies.normalize code.1

-- What each check lets through.
section Checked

variable {α : Type} {invalid : String → Failure} {read : Value → String → Except Failure α} {value : Value} {label : String}

theorem exactObject_ok {keys : List String} {members : List (Utf16 × Value)} :
    exactObject invalid value label keys = .ok members ↔
      fields value = some members ∧ sorted (members.map Prod.fst) = sorted (keys.map ofString) := by
  unfold exactObject
  cases own : fields value with
  | none => exact iff_of_false nofun nofun
  | some others =>
      dsimp only
      rw [Option.some.injEq]
      split
      · rename_i named
        rw [Except.ok.injEq]
        refine ⟨fun same => ⟨same,same ▸ named⟩,And.left⟩
      · rename_i named
        refine iff_of_false nofun ?_
        rintro ⟨rfl,named'⟩
        exact named named'

theorem nonEmptyString_ok {text : NonEmpty} : nonEmptyString invalid value label = .ok text ↔ value = .string text.1 := by
  cases value with
  | string other => rw [nonEmptyString,keep_ok,Value.string.injEq]
  | _ => exact iff_of_false nofun nofun

theorem stringValue_ok {text : Utf16} : stringValue invalid value label = .ok text ↔ value = .string text := by
  cases value with
  | string other => rw [stringValue,Except.ok.injEq,Value.string.injEq]
  | _ => exact iff_of_false nofun nofun

theorem safeInteger_ok {number : SafeInteger} : safeInteger invalid value label = .ok number ↔ value = .number (.finite number.1) := by
  cases value with
  | number x =>
      cases x with
      | finite x => rw [safeInteger,keep_ok,Value.number.injEq,Number.finite.injEq]
      | infinity | nan => exact iff_of_false nofun nofun
  | _ => exact iff_of_false nofun nofun

theorem positiveInteger_ok {number : PositiveInteger} : positiveInteger invalid value label = .ok number ↔ value = .number (.finite number.1) := by
  rw [positiveInteger,bind_ok]
  constructor
  · rintro ⟨whole,checked,admitted⟩
    rw [safeInteger_ok.mp checked,keep_ok.mp admitted]
  · rintro rfl
    exact ⟨⟨number.1,number.2.1⟩,safeInteger_ok.mpr rfl,keep_ok.mpr rfl⟩

theorem checkedTime_ok {time : Option Int} {checked : Time} : checkedTime invalid time label = .ok checked ↔ time = some checked.1 := by
  cases time with
  | none => exact iff_of_false nofun nofun
  | some time => rw [checkedTime,keep_ok,Option.some.injEq]

theorem nullable_ok {result : Option α} : nullable read value label = .ok result ↔
    value = .null ∧ none = result ∨ value ≠ .null ∧ ∃ one, read value label = .ok one ∧ some one = result := by
  cases value with
  | null => simp only [nullable,Except.ok.injEq,true_and,ne_eq,not_true,false_and,or_false]
  | _ => exact map_ok.trans (by simp only [reduceCtorEq,false_and,ne_eq,not_false_eq_true,true_and,false_or])

theorem currencyCode_ok {currencies : Currencies} {code : CurrencyCode currencies} :
    currencyCode invalid currencies (.string code.1) label = .ok code := by
  refine bind_ok.mpr ⟨⟨code.1,code.2.1⟩,nonEmptyString_ok.mpr rfl,?_⟩
  unfold Currencies.normalize
  split
  · rename_i its known
    rw [code.2.2] at known
    cases known
    rfl
  · rename_i unknown
    rw [code.2.2] at unknown
    cases unknown

end Checked

end Payable.MigrationColumns

namespace Payable.MigrationColumns
open JsonText FiniteDoubles UnitTexts JsonDocuments JsonValues Payable.Language Checked IsoDates

inductive Direction where
  | charge | credit | none | unknown
  deriving DecidableEq

def Direction.text : Direction → String
  | .charge => "charge"
  | .credit => "credit"
  | .none => "none"
  | .unknown => "unknown"

structure PriceSnapshot (currencies : Currencies) where
  id : NonEmpty
  productId : NonEmpty
  amount : SafeInteger
  currency : CurrencyCode currencies
  interval : Option NonEmpty
  intervalCount : Option PositiveInteger

structure ItemSnapshot where
  id : NonEmpty
  priceId : NonEmpty
  quantity : PositiveInteger

structure Adjustment (currencies : Currencies) where
  direction : Direction
  amount : Option SafeInteger
  currency : Option (CurrencyCode currencies)

structure Renewal (currencies : Currencies) where
  amount : Option SafeInteger
  currency : Option (CurrencyCode currencies)
  date : Option Time

-- The columns that hold JSON.
structure Columns (Column : Type) where
  sourcePrice : Column
  targetPrice : Column
  currentItems : Column
  proposedItems : Column
  immediateAdjustment : Column
  nextRenewal : Column
  warnings : Column
  providerLimitations : Column

structure NormalizedJson (currencies : Currencies) where
  sourcePrice : PriceSnapshot currencies
  targetPrice : PriceSnapshot currencies
  currentItems : List (Option ItemSnapshot)
  proposedItems : List (Option ItemSnapshot)
  immediateAdjustment : Adjustment currencies
  nextRenewal : Renewal currencies
  warnings : List (Option Utf16)
  providerLimitations : List (Option Utf16)

def invalidJson (label : String) : Failure := .invalid "subscription price migration JSON" label

variable (currencies : Currencies) (otherDates : List Nat → Option Int)

def normalizeStrings (value : Value) (label : String) : Except Failure (List (Option Utf16)) :=
  arrayOf invalidJson (stringValue invalidJson) value label

def normalizePrice (value : Value) (label : String) : Except Failure (PriceSnapshot currencies) := do
  let object ← exactObject invalidJson value label ["id","productId","amount","currency","interval","intervalCount"]
  let id ← nonEmptyString invalidJson (get object "id") (label ++ ".id")
  let productId ← nonEmptyString invalidJson (get object "productId") (label ++ ".productId")
  let amount ← safeInteger invalidJson (get object "amount") (label ++ ".amount")
  let currency ← currencyCode invalidJson currencies (get object "currency") (label ++ ".currency")
  let interval ← nullable (nonEmptyString invalidJson) (get object "interval") (label ++ ".interval")
  let intervalCount ← nullable (positiveInteger invalidJson) (get object "intervalCount") (label ++ ".intervalCount")
  return ⟨id,productId,amount,currency,interval,intervalCount⟩

def normalizeItem (item : Value) (itemLabel : String) : Except Failure ItemSnapshot := do
  let object ← exactObject invalidJson item itemLabel ["id","priceId","quantity"]
  let id ← nonEmptyString invalidJson (get object "id") (itemLabel ++ ".id")
  let priceId ← nonEmptyString invalidJson (get object "priceId") (itemLabel ++ ".priceId")
  let quantity ← positiveInteger invalidJson (get object "quantity") (itemLabel ++ ".quantity")
  return ⟨id,priceId,quantity⟩

def normalizeItems (value : Value) (label : String) : Except Failure (List (Option ItemSnapshot)) :=
  arrayOf invalidJson normalizeItem value label

def directionOf : Value → Option Direction
  | .string text => [Direction.charge,.credit,.none,.unknown].find? fun direction => ofString direction.text = text
  | _ => none

def normalizeAdjustment (value : Value) : Except Failure (Adjustment currencies) := do
  let label := "immediate_adjustment"
  let object ← exactObject invalidJson value label ["direction","amount","currency"]
  let direction ← require (directionOf (get object "direction")) (invalidJson (label ++ ".direction"))
  let amount ← nullable (safeInteger invalidJson) (get object "amount") (label ++ ".amount")
  let currency ← nullable (currencyCode invalidJson currencies) (get object "currency") (label ++ ".currency")
  return ⟨direction,amount,currency⟩

def normalizeRenewal (value : Value) : Except Failure (Renewal currencies) := do
  let label := "next_renewal"
  let object ← exactObject invalidJson value label ["amount","currency","date"]
  let amount ← nullable (safeInteger invalidJson) (get object "amount") (label ++ ".amount")
  let currency ← nullable (currencyCode invalidJson currencies) (get object "currency") (label ++ ".currency")
  let date ← nullable (validDate invalidJson otherDates) (get object "date") (label ++ ".date")
  return ⟨amount,currency,date⟩

def normalizeSubscriptionPriceMigrationJson (input : Columns Value) : Except Failure (NormalizedJson currencies) := do
  let sourcePrice ← normalizePrice currencies input.sourcePrice "source_price"
  let targetPrice ← normalizePrice currencies input.targetPrice "target_price"
  let currentItems ← normalizeItems input.currentItems "current_items"
  let proposedItems ← normalizeItems input.proposedItems "proposed_items"
  let immediateAdjustment ← normalizeAdjustment currencies input.immediateAdjustment
  let nextRenewal ← normalizeRenewal currencies otherDates input.nextRenewal
  let warnings ← normalizeStrings input.warnings "warnings"
  let providerLimitations ← normalizeStrings input.providerLimitations "provider_limitations"
  return ⟨sourcePrice,targetPrice,currentItems,proposedItems,immediateAdjustment,nextRenewal,warnings,providerLimitations⟩

def parseColumn (value : List Char) (label : String) : Except Failure Value := require (parseJson value) (invalidJson label)

def decodeSubscriptionPriceMigrationJson (input : Columns (List Char)) : Except Failure (NormalizedJson currencies) := do
  let sourcePrice ← parseColumn input.sourcePrice "source_price"
  let targetPrice ← parseColumn input.targetPrice "target_price"
  let currentItems ← parseColumn input.currentItems "current_items"
  let proposedItems ← parseColumn input.proposedItems "proposed_items"
  let immediateAdjustment ← parseColumn input.immediateAdjustment "immediate_adjustment"
  let nextRenewal ← parseColumn input.nextRenewal "next_renewal"
  let warnings ← parseColumn input.warnings "warnings"
  let providerLimitations ← parseColumn input.providerLimitations "provider_limitations"
  normalizeSubscriptionPriceMigrationJson currencies otherDates
    ⟨sourcePrice,targetPrice,currentItems,proposedItems,immediateAdjustment,nextRenewal,warnings,providerLimitations⟩

-- What JSON.stringify is given of the normalized values.
section Documents

variable {currencies}

def PriceSnapshot.json (price : PriceSnapshot currencies) : Document :=
  .object [(ofString "id",.string price.id.1),(ofString "productId",.string price.productId.1),
    (ofString "amount",integerJson price.amount.1),(ofString "currency",.string price.currency.1),
    (ofString "interval",nullOr (fun text => .string text.1) price.interval),
    (ofString "intervalCount",nullOr (fun number => integerJson number.1) price.intervalCount)]

def ItemSnapshot.json (item : ItemSnapshot) : Document :=
  .object [(ofString "id",.string item.id.1),(ofString "priceId",.string item.priceId.1),(ofString "quantity",integerJson item.quantity.1)]

def Adjustment.json (adjustment : Adjustment currencies) : Document :=
  .object [(ofString "direction",.string (ofString adjustment.direction.text)),
    (ofString "amount",nullOr (fun number => integerJson number.1) adjustment.amount),
    (ofString "currency",nullOr (fun code => .string code.1) adjustment.currency)]

def Renewal.json (renewal : Renewal currencies) : Document :=
  .object [(ofString "amount",nullOr (fun number => integerJson number.1) renewal.amount),
    (ofString "currency",nullOr (fun code => .string code.1) renewal.currency),(ofString "date",nullOr timeJson renewal.date)]

def NormalizedJson.stringify (json : NormalizedJson currencies) : Columns (List Char) where
  sourcePrice := write json.sourcePrice.json
  targetPrice := write json.targetPrice.json
  currentItems := write (sparse ItemSnapshot.json json.currentItems)
  proposedItems := write (sparse ItemSnapshot.json json.proposedItems)
  immediateAdjustment := write json.immediateAdjustment.json
  nextRenewal := write json.nextRenewal.json
  warnings := write (sparse .string json.warnings)
  providerLimitations := write (sparse .string json.providerLimitations)

end Documents

end Payable.MigrationColumns
