import Payable.Foundation.JsonText
import Payable.Foundation.Checked

namespace Payable.Audit
open JsonText

-- A value of the language. A hole is a missing element of an array; toJSON is called
-- with a key by JSON.stringify and without one by canonicalize.
inductive Value where
  | undefined
  | null
  | bool (b : Bool)
  | number (n : Numeral)
  | nonFinite (text : String)
  | bigint (n : Int)
  | string (s : String)
  | function
  | symbol
  | hole
  | array (items : List Value)
  | object (members : List (String × Value))
  | serializable (members : List (String × Value)) (toJSON : Option String → Value)
  | collection (constructorName : String)
  | numberObject (n : Numeral)
  | booleanObject (b : Bool)
  | stringObject (s : String)

def Value.isUndefined : Value → Bool
  | .undefined => true
  | _ => false

-- A code unit quoted by itself: half of a surrogate pair is escaped.
def quoteUnit (unit : Nat) : List Char :=
  if 55296 ≤ unit ∧ unit < 57344 then
    ['"','\\','u',lowerHex (unit / 4096),lowerHex (unit / 256 % 16),lowerHex (unit / 16 % 16),lowerHex (unit % 16),'"']
  else quote (String.ofList [Char.ofNat unit])

-- Entries in the order of their keys; the first that throws ends it.
def bracedEntries (entries : List (String × Except String (List Char))) : Except String (List Char) := do
  let texts ← (sortByKey entries).mapM fun entry => do return member entry.1 (← entry.2)
  return braced texts

def maxCanonicalizeDepth : Nat := 100

mutual
def canonicalize (depth : Nat) (value : Value) : Except String (List Char) :=
  if maxCanonicalizeDepth < depth then .error "Cannot hash a structure nested deeper than 100 levels"
  else match value with
  | .bigint n => .ok ((toString n).toList ++ ['n'])
  | .function => .error "Cannot hash a non-serializable function value"
  | .symbol => .error "Cannot hash a non-serializable symbol value"
  | .nonFinite text => .error ("Cannot hash a non-finite number: " ++ text)
  | .undefined | .null => .ok (render .null)
  | .bool b => .ok (render (.bool b))
  | .number n => .ok (render (.number n))
  | .string s => .ok (render (.string s))
  | .hole => .ok []
  | .array items => do
    let texts ← (canonicalizeItems (depth + 1) items).mapM id
    return bracketed texts
  | .serializable _ toJSON => canonicalize (depth + 1) (toJSON none)
  | .collection constructorName => .error ("Cannot hash a non-serializable " ++ constructorName ++ " value")
  | .object members => bracedEntries (canonicalizeMembers (depth + 1) members)
  | .numberObject _ | .booleanObject _ => .ok (braced [])
  | .stringObject s =>
    bracedEntries ((codeUnits s).zipIdx.map fun (unit,index) => (toString index,.ok (quoteUnit unit)))

def canonicalizeItems (depth : Nat) : List Value → List (Except String (List Char))
  | [] => []
  | item :: rest => canonicalize depth item :: canonicalizeItems depth rest

def canonicalizeMembers (depth : Nat) : List (String × Value) → List (String × Except String (List Char))
  | [] => []
  | (key,value) :: rest =>
    if value.isUndefined then canonicalizeMembers depth rest
    else (key,canonicalize depth value) :: canonicalizeMembers depth rest
end

-- JSON.parse(JSON.stringify(value)); nothing for what stringify leaves out. A toJSON is
-- called once: its result is written as it stands.
mutual
def stringify (called : Bool) (key : String) : Value → Except String (Option Json)
  | .undefined | .function | .symbol | .hole => .ok none
  | .null | .nonFinite _ => .ok (some .null)
  | .bool b | .booleanObject b => .ok (some (.bool b))
  | .number n | .numberObject n => .ok (some (.number n))
  | .string s | .stringObject s => .ok (some (.string s))
  | .bigint _ => .error "Do not know how to serialize a BigInt"
  | .array items => (stringifyItems 0 items).map fun items => some (.array items)
  | .object members => (stringifyMembers members).map fun members => some (.object members)
  | .serializable members toJSON =>
    if called then (stringifyMembers members).map fun members => some (.object members)
    else stringify true key (toJSON (some key))
  | .collection _ => .ok (some (.object []))

def stringifyItems (index : Nat) : List Value → Except String (List Json)
  | [] => .ok []
  | item :: rest => do
    let written ← stringify false (toString index) item
    let others ← stringifyItems (index + 1) rest
    return written.getD .null :: others

def stringifyMembers : List (String × Value) → Except String (List (String × Json))
  | [] => .ok []
  | (key,value) :: rest => do
    let written ← stringify false key value
    let others ← stringifyMembers rest
    return (written.map fun json => [(key,json)]).getD [] ++ others
end

-- A column with JSON: NULL, or a text and what JSON.parse makes of it, if anything.
inductive Column where
  | null
  | text (parsed : Option Json)

def fromJson (value : Value) : Except String Column :=
  match value with
  | .undefined | .null => .ok .null
  | value => (stringify false "" value).map fun
    | some json => .text (some json)
    | none => .null

mutual
def toValue : Json → Value
  | .null => .null
  | .bool b => .bool b
  | .number n => .number n
  | .string s => .string s
  | .array items => .array (toValues items)
  | .object members => .object (toMembers members)

def toValues : List Json → List Value
  | [] => []
  | item :: rest => toValue item :: toValues rest

def toMembers : List (String × Json) → List (String × Value)
  | [] => []
  | (key,value) :: rest => (key,toValue value) :: toMembers rest
end

def parsed (json : Option Json) : Value := (json.map toValue).getD .null

-- A text that does not parse is read as null.
def Column.read : Column → Option Json
  | .null => none
  | .text parsed => parsed

def toJson (column : Column) : Value := parsed column.read

end Payable.Audit

namespace Payable.Audit
open JsonText Checked

-- What the JSON of a value keeps of its canonical form: no holes and no objects around a
-- primitive, the JSON of toJSON(key) is that of toJSON(), and no member's toJSON gives nothing.
mutual
def Faithful (key : String) : Value → Prop
  | .hole | .numberObject _ | .booleanObject _ | .stringObject _ => False
  | .array items => FaithfulItems 0 items
  | .object members => FaithfulMembers members
  | .serializable _ toJSON =>
    Faithful "" (toJSON none) ∧ stringify true key (toJSON (some key)) = stringify false "" (toJSON none)
  | _ => True

def FaithfulItems (index : Nat) : List Value → Prop
  | [] => True
  | item :: rest => Faithful (toString index) item ∧ FaithfulItems (index + 1) rest

def FaithfulMembers : List (String × Value) → Prop
  | [] => True
  | (key,value) :: rest =>
    (value.isUndefined = true ∨ Faithful key value ∧ stringify false key value ≠ .ok none) ∧ FaithfulMembers rest
end

def settledEntry (entry : String × List Char) : String × Except String (List Char) := (entry.1,.ok entry.2)

theorem sortByKey_map {α β : Type} (f : String × α → String × β) (same : ∀ entry, (f entry).1 = entry.1) (entries : List (String × α)) :
    sortByKey (entries.map f) = (sortByKey entries).map f := by
  refine (List.map_insertionSort keyBefore keyBefore f entries ?_).symm
  intro a _ b _
  simp [keyBefore,same]

theorem bracedEntries_settled (settled : List (String × List Char)) : bracedEntries (settled.map settledEntry) =
    .ok (braced ((sortByKey settled).map fun entry => member entry.1 entry.2)) := by
  have written : ∀ entries : List (String × List Char), (entries.map settledEntry).mapM
      (fun entry => (do return member entry.1 (← entry.2) : Except String (List Char))) =
        .ok (entries.map fun entry => member entry.1 entry.2) := by
    intro entries
    induction entries with
    | nil => rfl
    | cons entry rest ih =>
        rw [List.map_cons,List.mapM_cons,ih]
        rfl
  rw [bracedEntries,sortByKey_map settledEntry (fun _ => rfl),written]
  rfl

-- The entries that were written, each with its text.
theorem bracedEntries_ok {entries : List (String × Except String (List Char))} (written : bracedEntries entries = .ok text) :
    ∃ settled : List (String × List Char), entries = settled.map settledEntry := by
  have all_settled : ∀ (sorted : List (String × Except String (List Char))) texts,
      sorted.mapM (fun entry => (do return member entry.1 (← entry.2) : Except String (List Char))) = .ok texts →
        ∀ entry ∈ sorted, ∃ text, entry.2 = .ok text := by
    intro sorted
    induction sorted with
    | nil => exact nofun
    | cons first rest ih =>
        intro texts ran entry inside
        simp only [List.mapM_cons,bind_ok,pure_ok] at ran
        obtain ⟨_,⟨text,its,_⟩,others,more,_⟩ := ran
        rcases List.mem_cons.mp inside with rfl | inside
        · exact ⟨text,its⟩
        · exact ih others more entry inside
  simp only [bracedEntries,bind_ok] at written
  obtain ⟨texts,ran,_⟩ := written
  have each : ∀ entry ∈ entries, ∃ text, entry.2 = .ok text := fun entry inside =>
    all_settled _ texts ran entry ((List.perm_insertionSort keyBefore entries).mem_iff.mpr inside)
  clear ran
  induction entries with
  | nil => exact ⟨[],rfl⟩
  | cons entry rest ih =>
      obtain ⟨settled,shape⟩ := ih fun entry inside => each entry (List.mem_cons_of_mem _ inside)
      obtain ⟨text,its⟩ := each entry List.mem_cons_self
      exact ⟨(entry.1,text) :: settled,by rw [List.map_cons,← shape,settledEntry,← its]⟩

-- A value nested less deeply has the same canonical form.
mutual
theorem canonicalize_shallower : ∀ (value : Value) (depth : Nat) text,
    canonicalize (depth + 1) value = .ok text → canonicalize depth value = .ok text
  | value,depth,text,hashed => by
    unfold canonicalize at hashed ⊢
    split at hashed
    · cases hashed
    · rename_i bounded
      rw [if_neg (by omega)]
      match value with
      | .array items =>
          simp only [bind_ok,pure_ok] at hashed ⊢
          obtain ⟨texts,ran,shape⟩ := hashed
          have items_settled := items_shallower items (depth + 1) texts (mapM_ok.mp ran)
          exact ⟨texts,mapM_ok.mpr items_settled,shape⟩
      | .object members =>
          obtain ⟨settled,shape⟩ := bracedEntries_ok hashed
          simp only at hashed ⊢
          rw [members_shallower members (depth + 1) settled shape,← shape]
          exact hashed
      | .serializable _ toJSON => exact canonicalize_shallower (toJSON none) (depth + 1) text hashed
      | .undefined | .null | .bool _ | .number _ | .nonFinite _ | .bigint _ | .string _ | .function | .symbol | .hole
      | .collection _ | .numberObject _ | .booleanObject _ | .stringObject _ => exact hashed

theorem items_shallower : ∀ (items : List Value) (depth : Nat) (texts : List (List Char)),
    canonicalizeItems (depth + 1) items = texts.map .ok → canonicalizeItems depth items = texts.map .ok
  | [],_,_,hashed => hashed
  | item :: rest,depth,texts,hashed => by
    cases texts with
    | nil => cases hashed
    | cons text others =>
        rw [canonicalizeItems,List.map_cons] at hashed ⊢
        obtain ⟨first,tail⟩ := List.cons.inj hashed
        rw [canonicalize_shallower item depth text first,items_shallower rest depth others tail]

theorem members_shallower : ∀ (members : List (String × Value)) (depth : Nat) (settled : List (String × List Char)),
    canonicalizeMembers (depth + 1) members = settled.map settledEntry →
      canonicalizeMembers depth members = settled.map settledEntry
  | [],_,_,hashed => hashed
  | (key,value) :: rest,depth,settled,hashed => by
    unfold canonicalizeMembers at hashed ⊢
    split at hashed
    · rename_i absent
      rw [if_pos absent]
      exact members_shallower rest depth settled hashed
    · rename_i present
      rw [if_neg present]
      cases settled with
      | nil => cases hashed
      | cons entry others =>
          obtain ⟨first,tail⟩ := List.cons.inj hashed
          obtain ⟨its,text⟩ := Prod.mk.inj first
          rw [List.map_cons,canonicalize_shallower value depth entry.2 text,members_shallower rest depth others tail,its]
          rfl
end

theorem toValue_present (json : Json) : (toValue json).isUndefined = false := by
  cases json <;> rfl

-- The canonical form of a value is that of its JSON read back.
mutual
theorem canonicalize_stored : ∀ (value : Value) (key : String) (depth : Nat) text json, Faithful key value →
    canonicalize depth value = .ok text → stringify false key value = .ok json → canonicalize depth (parsed json) = .ok text
  | value,key,depth,text,json,faithful,hashed,written => by
    have shape := hashed
    unfold canonicalize at shape
    split at shape
    · cases shape
    · match value with
      | .array items =>
          simp only [bind_ok,pure_ok] at shape
          obtain ⟨texts,ran,shape⟩ := shape
          simp only [stringify,map_ok] at written
          obtain ⟨jsons,listed,rfl⟩ := written
          have same := items_stored items 0 (depth + 1) texts jsons faithful (mapM_ok.mp ran) listed
          unfold canonicalize
          rw [if_neg (by assumption)]
          simp only [parsed,Option.map_some,Option.getD_some,toValue,bind_ok,pure_ok]
          exact ⟨texts,mapM_ok.mpr same,shape⟩
      | .object members =>
          obtain ⟨settled,entries⟩ := bracedEntries_ok shape
          simp only [stringify,map_ok] at written
          obtain ⟨jsons,listed,rfl⟩ := written
          have same := members_stored members (depth + 1) settled jsons faithful entries listed
          unfold canonicalize
          rw [if_neg (by assumption)]
          simp only [parsed,Option.map_some,Option.getD_some,toValue]
          rw [same,← entries]
          exact shape
      | .serializable _ toJSON =>
          have read : stringify false "" (toJSON none) = .ok json := by
            rw [← faithful.2]
            simpa [stringify] using written
          have deeper := canonicalize_stored (toJSON none) "" (depth + 1) text json faithful.1 shape read
          exact canonicalize_shallower _ depth text deeper
      | .undefined | .null | .bool _ | .number _ | .string _ =>
          cases written
          exact hashed
      | .bigint _ => cases written
      | .nonFinite _ | .function | .symbol | .collection _ => cases shape
      | .hole | .numberObject _ | .booleanObject _ | .stringObject _ => cases faithful

theorem items_stored : ∀ (items : List Value) (index depth : Nat) (texts : List (List Char)) jsons,
    FaithfulItems index items → canonicalizeItems depth items = texts.map .ok → stringifyItems index items = .ok jsons →
      canonicalizeItems depth (toValues jsons) = texts.map .ok
  | [],_,_,_,_,_,hashed,written => by
    cases written
    exact hashed
  | item :: rest,index,depth,texts,jsons,faithful,hashed,written => by
    cases texts with
    | nil => cases hashed
    | cons text others =>
        obtain ⟨first,tail⟩ := List.cons.inj hashed
        simp only [stringifyItems,bind_ok,pure_ok] at written
        obtain ⟨json,one,more,rest_written,rfl⟩ := written
        have head := canonicalize_stored item (toString index) depth text json faithful.1 first one
        have below := items_stored rest (index + 1) depth others more faithful.2 tail rest_written
        have read : toValue (json.getD .null) = parsed json := by cases json <;> rfl
        rw [toValues,canonicalizeItems,read,head,below]
        rfl

theorem members_stored : ∀ (members : List (String × Value)) (depth : Nat) (settled : List (String × List Char)) jsons,
    FaithfulMembers members → canonicalizeMembers depth members = settled.map settledEntry →
      stringifyMembers members = .ok jsons → canonicalizeMembers depth (toMembers jsons) = settled.map settledEntry
  | [],_,_,_,_,hashed,written => by
    cases written
    exact hashed
  | (key,value) :: rest,depth,settled,jsons,faithful,hashed,written => by
    simp only [stringifyMembers,bind_ok,pure_ok] at written
    obtain ⟨json,one,more,rest_written,rfl⟩ := written
    unfold canonicalizeMembers at hashed
    split at hashed
    · rename_i absent
      have below := members_stored rest depth settled more faithful.2 hashed rest_written
      cases value with
      | undefined =>
          cases one
          exact below
      | _ => cases absent
    · rename_i present
      obtain ⟨its,kept⟩ := faithful.1.resolve_left present
      cases settled with
      | nil => cases hashed
      | cons entry others =>
          obtain ⟨first,tail⟩ := List.cons.inj hashed
          obtain ⟨name,text⟩ := Prod.mk.inj first
          have below := members_stored rest depth others more faithful.2 tail rest_written
          cases json with
          | none => exact absurd one kept
          | some json =>
              have head := canonicalize_stored value key depth entry.2 (some json) its text one
              have read : canonicalize depth (toValue json) = .ok entry.2 := head
              simp [toMembers,canonicalizeMembers,toValue_present,read,below,settledEntry,name]
end

-- The canonical form of JSON is the text of its normal form.
mutual
theorem canonicalize_toValue : ∀ (json : Json) (depth : Nat) text,
    canonicalize depth (toValue json) = .ok text → text = render (normal json)
  | json,depth,text,hashed => by
    unfold canonicalize at hashed
    split at hashed
    · cases hashed
    · match json with
      | .array items =>
          simp only [toValue,bind_ok,pure_ok] at hashed
          obtain ⟨texts,ran,rfl⟩ := hashed
          rw [normal,render,items_toValues items (depth + 1) texts (mapM_ok.mp ran)]
      | .object members =>
          simp only [toValue] at hashed
          obtain ⟨settled,entries⟩ := bracedEntries_ok hashed
          have same := members_toMembers members (depth + 1) settled entries
          rw [entries,bracedEntries_settled,← same,sortByKey_map (fun entry : String × Json => (entry.1,render entry.2))
            (fun _ => rfl),List.map_map] at hashed
          rw [normal,render,renderMembers_map]
          exact (Except.ok.inj hashed).symm
      | .null | .bool _ | .number _ | .string _ => cases hashed; rfl

theorem items_toValues : ∀ (items : List Json) (depth : Nat) (texts : List (List Char)),
    canonicalizeItems depth (toValues items) = texts.map .ok → renderItems (normalItems items) = texts
  | [],_,texts,hashed => by
    cases texts with
    | nil => rfl
    | cons text others => cases hashed
  | item :: rest,depth,texts,hashed => by
    cases texts with
    | nil => cases hashed
    | cons text others =>
        obtain ⟨first,tail⟩ := List.cons.inj hashed
        rw [normalItems,renderItems,← canonicalize_toValue item depth text first,items_toValues rest depth others tail]

theorem members_toMembers : ∀ (members : List (String × Json)) (depth : Nat) (settled : List (String × List Char)),
    canonicalizeMembers depth (toMembers members) = settled.map settledEntry →
      (normalMembers members).map (fun entry => (entry.1,render entry.2)) = settled
  | [],_,settled,hashed => by
    cases settled with
    | nil => rfl
    | cons entry others => cases hashed
  | (key,value) :: rest,depth,settled,hashed => by
    simp only [toMembers,canonicalizeMembers,toValue_present,Bool.false_eq_true,if_false] at hashed
    cases settled with
    | nil => cases hashed
    | cons entry others =>
        obtain ⟨first,tail⟩ := List.cons.inj hashed
        obtain ⟨name,text⟩ := Prod.mk.inj first
        rw [normalMembers,List.map_cons,members_toMembers rest depth others tail,← canonicalize_toValue value depth entry.2 text,
          name]
end

theorem canonicalize_injective (hashed : canonicalize depth (toValue a) = .ok text)
    (hashed' : canonicalize depth' (toValue b) = .ok text) : normal a = normal b :=
  render_injective ((canonicalize_toValue a depth text hashed).symm.trans (canonicalize_toValue b depth' text hashed'))

end Payable.Audit
