import Payable.Foundation.JsonDocuments

namespace Payable.Language
open FiniteDoubles JsonDocuments UnitTexts

-- A value of the language. A hole is a missing element of an array; a date is a time value, none for an invalid one;
-- an object with a method toJSON stands here with what the method returns.
inductive Value where
  | undefined
  | null
  | bool (b : Bool)
  | number (x : Number)
  | bigint (n : Int)
  | string (text : Utf16)
  | function
  | symbol
  | hole
  | array (items : List Value)
  | object (members : List (Utf16 × Value))
  | serializable (members : List (Utf16 × Value)) (toJSON : Value)
  | date (time : Option Int)
  | collection (constructorName : String)

def Value.isUndefined : Value → Bool
  | .undefined => true
  | _ => false

theorem Value.induction {motive : Value → Prop} (undefined : motive .undefined) (null : motive .null) (bool : ∀ b, motive (.bool b))
    (number : ∀ x, motive (.number x)) (bigint : ∀ n, motive (.bigint n)) (string : ∀ text, motive (.string text))
    (function : motive .function) (symbol : motive .symbol) (hole : motive .hole)
    (array : ∀ items, (∀ item ∈ items, motive item) → motive (.array items))
    (object : ∀ members, (∀ entry ∈ members, motive entry.2) → motive (.object members))
    (serializable : ∀ members toJSON, motive toJSON → motive (.serializable members toJSON))
    (date : ∀ time, motive (.date time)) (collection : ∀ name, motive (.collection name)) (value : Value) : motive value :=
  @Value.rec motive (fun items => ∀ item ∈ items, motive item) (fun members => ∀ entry ∈ members, motive entry.2)
    (fun entry => motive entry.2) undefined null bool number bigint string function symbol hole array object
    (fun members toJSON _ its => serializable members toJSON its) date collection (fun _ inside => absurd inside List.not_mem_nil)
    (fun _ _ one others => List.forall_mem_cons.mpr ⟨one,others⟩) (fun _ inside => absurd inside List.not_mem_nil)
    (fun _ _ one others => List.forall_mem_cons.mpr ⟨one,others⟩) (fun _ _ one => one) value

end Payable.Language
