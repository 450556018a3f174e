import Mathlib
import Payable.Foundation.Base64
import Payable.Foundation.JsonParse
import Payable.Storage.PaymentRepository

namespace Payable.Collections
open JsonText JsonParse IsoDates Storage

-- A CollectionFilterValue; none is a field that is undefined.
inductive FilterValue where
  | null
  | bool (b : Bool)
  | number (n : Numeral)
  | string (s : String)
  | array (items : List FilterValue)
  | object (fields : List (String × Option FilterValue))

-- An object has one value for each of its keys.
mutual
def Keyed : FilterValue → Prop
  | .array items => KeyedItems items
  | .object fields => (fields.map Prod.fst).Nodup ∧ KeyedFields fields
  | _ => True

def KeyedItems : List FilterValue → Prop
  | [] => True
  | item :: rest => Keyed item ∧ KeyedItems rest

def KeyedFields : List (String × Option FilterValue) → Prop
  | [] => True
  | (_,none) :: rest => KeyedFields rest
  | (_,some value) :: rest => Keyed value ∧ KeyedFields rest
end

structure CollectionCursorContext where
  resource : String
  tenantId : Option String
  filters : List (String × Option FilterValue)
  orderVersion : Option String
  keyed : Keyed (.object filters)

def defaultOrderVersion : String := "created_at_desc_id_desc_v1"

def CollectionCursorContext.order (context : CollectionCursorContext) : String := context.orderVersion.getD defaultOrderVersion

def arrayIndex (key : String) : Option Nat := key.toNat?.filter fun n => toString n = key ∧ n < 4294967295

def indexBefore (left right : String × Json) : Prop := (arrayIndex left.1).getD 0 ≤ (arrayIndex right.1).getD 0

instance (left right : String × Json) : Decidable (indexBefore left right) := inferInstanceAs (Decidable (_ ≤ _))

-- The order of an object's own keys: array indices go first, the other keys as they were set.
def ownOrder (members : List (String × Json)) : List (String × Json) :=
  (members.filter fun entry => (arrayIndex entry.1).isSome).insertionSort indexBefore ++
    members.filter fun entry => (arrayIndex entry.1).isNone

-- sorted[key] = .. stores no field where the key is __proto__: it sets the prototype.
def stored (key : String) : Bool := key != "__proto__"

mutual
def stableValue : FilterValue → Json
  | .null => .null
  | .bool b => .bool b
  | .number n => .number n
  | .string s => .string s
  | .array items => .array (stableItems items)
  | .object fields => .object (ownOrder (sortByKey (stableFields fields)))

def stableItems : List FilterValue → List Json
  | [] => []
  | item :: rest => stableValue item :: stableItems rest

-- The keys are sorted after the fields are chosen, which makes no difference.
def stableFields : List (String × Option FilterValue) → List (String × Json)
  | [] => []
  | (_,none) :: rest => stableFields rest
  | (key,some value) :: rest => if stored key then (key,stableValue value) :: stableFields rest else stableFields rest
end

def contextValue (context : CollectionCursorContext) : Json :=
  .object [
    ("resource",.string context.resource),
    ("tenantId",(context.tenantId.map Json.string).getD .null),
    ("filters",stableValue (.object context.filters)),
    ("orderVersion",.string context.order)]

def serializeContext (context : CollectionCursorContext) : String := String.ofList (render (contextValue context))

def cursorVersion : Nat := 1

def utf8Bytes (text : List Char) : List Nat := (String.ofList text).toByteArray.data.toList.map UInt8.toNat

def toBase64Url (text : List Char) : List Char := Base64Url.encode (utf8Bytes text)

-- none is the RangeError of toISOString.
def encodeCollectionCursor (boundary : ListCursor) (context : CollectionCursorContext) : Option (List Char) :=
  if validTime boundary.createdAt then
    some (toBase64Url (render (.object [
      ("v",.number (.ofNat cursorVersion)),
      ("context",.string (serializeContext context)),
      ("createdAt",.string (String.ofList (toISOString boundary.createdAt))),
      ("id",.string boundary.id)])))
  else none

-- What is thrown inside of the try.
inductive Cause where
  | error (message : String)
  | invalidCharacter
  | malformedUtf8
  | syntaxError

structure PayableError where
  message : String
  code : String
  cause : Cause

-- The id is a string of the language: its code units may be unpaired.
structure DecodedCursor where
  createdAt : Int
  id : List Nat

def dropByteOrderMark : List Char → List Char
  | '\uFEFF' :: rest => rest
  | text => text

-- TextDecoder; it refuses what is no UTF-8.
def decodeUtf8 (bytes : List Nat) : Option (List Char) :=
  ((ByteArray.mk (bytes.map UInt8.ofNat).toArray).utf8Decode?).map fun chars => dropByteOrderMark chars.toList

def fromBase64Url (value : List Char) : Except Cause (List Char) :=
  match Base64Url.decode value with
  | none => .error .invalidCharacter
  | some bytes =>
    match decodeUtf8 bytes with
    | none => .error .malformedUtf8
    | some text => .ok text

structure CollectionCursorPayload where
  context : List Nat
  createdAt : List Nat
  id : List Nat

def isVersion : Option Value → Bool
  | some (.number negative mantissa exponent) => !negative && roundsToOne mantissa exponent
  | _ => false

-- isCursorPayload, with the payload that it finds.
def cursorPayload : Value → Option CollectionCursorPayload
  | .object members =>
    match property members "context",property members "createdAt",property members "id" with
    | some (.string context),some (.string createdAt),some (.string id) =>
      if isVersion (property members "v") && id ≠ [] then some ⟨context,createdAt,id⟩ else none
    | _,_,_ => none
  | _ => none

section decoding

-- What Date makes of a text that toISOString does not write; none is an invalid date.
variable (otherDates : List Nat → Option Int)

def dateOf (text : List Nat) : Option Int :=
  ((if text.all (· < 128) then readISOString (text.map Char.ofNat) else none).or (otherDates text)).filter validTime

def decodeWithin (cursor : List Char) (context : CollectionCursorContext) : Except Cause DecodedCursor := do
  if cursor = [] ∨ ∃ c ∈ cursor, Base64Url.sextet c = none then .error (.error "Invalid base64url")
  let text ← fromBase64Url cursor
  let parsed ← (parse text).elim (.error .syntaxError) .ok
  match cursorPayload parsed with
  | none => .error (.error "Invalid collection cursor context")
  | some payload =>
    if payload.context ≠ codeUnits (serializeContext context) then .error (.error "Invalid collection cursor context")
    else
      match dateOf otherDates payload.createdAt with
      | none => .error (.error "Invalid collection cursor timestamp")
      | some createdAt => .ok ⟨createdAt,payload.id⟩

def invalidCursor (cause : Cause) : PayableError := ⟨"The collection cursor is invalid","COLLECTION_CURSOR_INVALID",cause⟩

def decodeCollectionCursor (cursor : List Char) (context : CollectionCursorContext) : Except PayableError DecodedCursor :=
  (decodeWithin otherDates cursor context).mapError invalidCursor

end decoding

end Payable.Collections
