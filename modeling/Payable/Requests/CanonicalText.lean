import Mathlib.Data.List.Lex
import Payable.Foundation.Checked
import Payable.Foundation.IsoDates
import Payable.Foundation.Keyset
import Payable.Foundation.Language
import Payable.Foundation.UriComponents

namespace Payable.Requests
open JsonText JsonDocuments FiniteDoubles NumberTexts UnitTexts Payable.Language Checked

def maxCanonicalizeDepth : Nat := 100

def tooDeep : String := "Cannot hash a structure nested deeper than " ++ toString maxCanonicalizeDepth ++ " levels"

-- Names compare by their code units.
def entryKey {α : Type} (entry : Utf16 × α) : List Nat := entry.1.map UInt16.toNat

-- The texts of the entries in the order of their names; the first that throws ends it.
def bracedEntries (entries : List (Utf16 × Except String (List Char))) : Except String (List Char) := do
  let texts ← ((Keyset.ordered entryKey entries).map fun entry => entry.2.map (memberText entry.1)).mapM id
  return braced texts

-- toJSON of a date.
def dateDocument : Option Int → Document
  | none => .null
  | some time => .string (ofString (String.ofList (IsoDates.toISOString time)))

mutual
def canonicalize (depth : Nat) (value : Value) : Except String (List Char) :=
  if maxCanonicalizeDepth < depth then .error tooDeep
  else match value with
  | .bigint n => .ok ((toString n).toList ++ ['n'])
  | .function => .error "Cannot hash a non-serializable function value"
  | .symbol => .error "Cannot hash a non-serializable symbol value"
  | .number (.infinity negative) => .error ("Cannot hash a non-finite number: " ++ if negative then "-Infinity" else "Infinity")
  | .number .nan => .error "Cannot hash a non-finite number: NaN"
  | .number (.finite x) => .ok (numberText x)
  | .undefined | .null => .ok (write .null)
  | .bool b => .ok (write (.bool b))
  | .string text => .ok (quoteUnits text)
  -- What map leaves out, join writes as nothing.
  | .hole => .ok []
  | .array items => do
    let texts ← (canonicalizeItems (depth + 1) items).mapM id
    return bracketed texts
  | .serializable _ toJSON => canonicalize (depth + 1) toJSON
  | .date time => if maxCanonicalizeDepth < depth + 1 then .error tooDeep else .ok (write (dateDocument time))
  | .collection constructorName => .error ("Cannot hash a non-serializable " ++ constructorName ++ " value")
  | .object members => bracedEntries (canonicalizeMembers (depth + 1) members)

def canonicalizeItems (depth : Nat) : List Value → List (Except String (List Char))
  | [] => []
  | item :: rest => canonicalize depth item :: canonicalizeItems depth rest

def canonicalizeMembers (depth : Nat) : List (Utf16 × Value) → List (Utf16 × Except String (List Char))
  | [] => []
  | (key,value) :: rest =>
    if value.isUndefined then canonicalizeMembers depth rest
    else (key,canonicalize depth value) :: canonicalizeMembers depth rest
end

def utf8Encode (text : List Char) : List UInt8 := (text.flatMap Text.utf8).map UInt8.ofNat

def hexByte (byte : UInt8) : List Char := [lowerHex (byte.toNat / 16),lowerHex (byte.toNat % 16)]

def hashRequest (sha256 : List UInt8 → List UInt8) (request : Value) : Except String (List Char) :=
  (canonicalize 0 request).map fun text => (sha256 (utf8Encode text)).flatMap hexByte

-- The levels of a value: a field that is undefined has none.
mutual
def nesting : Value → Nat
  | .array items => itemsNesting items
  | .object members => membersNesting members
  | _ => 0

def itemsNesting : List Value → Nat
  | [] => 0
  | item :: rest => max (nesting item + 1) (itemsNesting rest)

def membersNesting : List (Utf16 × Value) → Nat
  | [] => 0
  | (_,value) :: rest => if value.isUndefined then membersNesting rest else max (nesting value + 1) (membersNesting rest)
end

-- The values that JSON has, with fields and elements that may be undefined. The names of an object's fields differ.
mutual
def IsJson : Value → Prop
  | .null | .bool _ | .number (.finite _) | .string _ => True
  | .array items => ItemsJson items
  | .object members => (members.map Prod.fst).Nodup ∧ MembersJson members
  | _ => False

def ItemsJson : List Value → Prop
  | [] => True
  | item :: rest => (item.isUndefined = true ∨ IsJson item) ∧ ItemsJson rest

def MembersJson : List (Utf16 × Value) → Prop
  | [] => True
  | (_,value) :: rest => (value.isUndefined = true ∨ IsJson value) ∧ MembersJson rest
end

theorem hexByte_free : Codes.PrefixFree (fun _ => True) hexByte := by
  have read : ∀ byte : UInt8, hexValue (lowerHex (byte.toNat / 16)) = byte.toNat / 16 ∧ hexValue (lowerHex (byte.toNat % 16)) = byte.toNat % 16 := by
    intro byte
    have bound := byte.toNat_lt
    exact ⟨hexValue_lowerHex (by omega),hexValue_lowerHex (by omega)⟩
  intro a b x y _ _ same
  simp only [hexByte,List.cons_append,List.nil_append,List.cons.injEq] at same
  obtain ⟨high,low,rest⟩ := same
  have high_ := congrArg hexValue high
  have low_ := congrArg hexValue low
  rw [(read a).1,(read b).1] at high_
  rw [(read a).2,(read b).2] at low_
  exact ⟨UInt8.toNat_inj.mp (by omega),rest⟩

theorem hexBytes_injective {a b : List UInt8} (same : a.flatMap hexByte = b.flatMap hexByte) : a = b :=
  Codes.words_injective hexByte_free (fun _ => List.cons_ne_nil _ _) a b (fun _ _ => trivial) (fun _ _ => trivial) same

theorem utf8Encode_injective {a b : List Char} (same : utf8Encode a = utf8Encode b) : a = b := by
  have bytes : ∀ text : List Char, ∀ byte ∈ text.flatMap Text.utf8, byte < 256 := by
    intro text byte inside
    obtain ⟨c,_,its⟩ := List.mem_flatMap.mp inside
    exact Text.utf8_bytes c byte its
  have octets : ∀ list : List Nat, (∀ byte ∈ list, byte < 256) → (list.map UInt8.ofNat).map UInt8.toNat = list := by
    intro list small
    rw [List.map_map]
    refine (List.map_congr_left fun byte inside => ?_).trans (List.map_id list)
    exact UInt8.toNat_ofNat_of_lt' (small byte inside)
  have units := congrArg (List.map UInt8.toNat) same
  rw [utf8Encode,utf8Encode,octets _ (bytes a),octets _ (bytes b)] at units
  exact Codes.words_injective Text.utf8_prefixFree Text.utf8_nonempty a b (fun _ _ => trivial) (fun _ _ => trivial) units

end Payable.Requests

namespace Payable.Requests
open JsonText JsonDocuments FiniteDoubles NumberTexts UnitTexts Payable.Language Checked

variable {α β : Type} {members others : List (Utf16 × Value)}

-- The document that the canonical text of a value is the text of.
mutual
def canonical : Value → Document
  | .bool b => .bool b
  | .number (.finite x) => .number (.of x)
  | .string text => .string text
  | .array items => .array (canonicalItems items)
  | .object members => .object (Keyset.ordered entryKey (canonicalMembers members))
  | _ => .null

def canonicalItems : List Value → List Document
  | [] => []
  | item :: rest => canonical item :: canonicalItems rest

def canonicalMembers : List (Utf16 × Value) → List (Utf16 × Document)
  | [] => []
  | (key,value) :: rest => if value.isUndefined then canonicalMembers rest else (key,canonical value) :: canonicalMembers rest
end

def isPresent (entry : Utf16 × Value) : Bool := !entry.2.isUndefined

section Lists

theorem canonicalizeItems_map (depth : Nat) (items : List Value) : canonicalizeItems depth items = items.map (canonicalize depth) := by
  induction items with
  | nil => rfl
  | cons item rest ih => rw [canonicalizeItems,ih,List.map_cons]

theorem canonicalItems_map (items : List Value) : canonicalItems items = items.map canonical := by
  induction items with
  | nil => rfl
  | cons item rest ih => rw [canonicalItems,ih,List.map_cons]

theorem canonicalizeMembers_map (depth : Nat) (members : List (Utf16 × Value)) :
    canonicalizeMembers depth members = (members.filter isPresent).map fun entry => (entry.1,canonicalize depth entry.2) := by
  induction members with
  | nil => rfl
  | cons entry rest ih =>
      rw [canonicalizeMembers,ih]
      cases absent : entry.2.isUndefined with
      | true => rw [if_pos rfl,List.filter_cons_of_neg (by simp [isPresent,absent])]
      | false => rw [if_neg Bool.false_ne_true,List.filter_cons_of_pos (by simp [isPresent,absent]),List.map_cons]

theorem canonicalMembers_map (members : List (Utf16 × Value)) :
    canonicalMembers members = (members.filter isPresent).map fun entry => (entry.1,canonical entry.2) := by
  induction members with
  | nil => rfl
  | cons entry rest ih =>
      rw [canonicalMembers,ih]
      cases absent : entry.2.isUndefined with
      | true => rw [if_pos rfl,List.filter_cons_of_neg (by simp [isPresent,absent])]
      | false => rw [if_neg Bool.false_ne_true,List.filter_cons_of_pos (by simp [isPresent,absent]),List.map_cons]

theorem itemsNesting_le {items : List Value} (inside : item ∈ items) : nesting item + 1 ≤ itemsNesting items := by
  induction items with
  | nil => cases inside
  | cons first rest ih =>
      rw [itemsNesting]
      rcases List.mem_cons.mp inside with rfl | later
      · exact Nat.le_max_left _ _
      · exact (ih later).trans (Nat.le_max_right _ _)

theorem membersNesting_le {entry : Utf16 × Value} (inside : entry ∈ members.filter isPresent) : nesting entry.2 + 1 ≤ membersNesting members := by
  induction members with
  | nil => cases inside
  | cons first rest ih =>
      rw [membersNesting]
      cases absent : first.2.isUndefined with
      | true =>
          rw [if_pos rfl]
          rw [List.filter_cons_of_neg (by simp [isPresent,absent])] at inside
          exact ih inside
      | false =>
          rw [if_neg Bool.false_ne_true]
          rw [List.filter_cons_of_pos (by simp [isPresent,absent])] at inside
          rcases List.mem_cons.mp inside with rfl | later
          · exact Nat.le_max_left _ _
          · exact (ih later).trans (Nat.le_max_right _ _)

theorem itemsJson_all {items : List Value} (json : ItemsJson items) : ∀ item ∈ items, item.isUndefined = true ∨ IsJson item := by
  induction items with
  | nil => exact nofun
  | cons item rest ih => exact List.forall_mem_cons.mpr ⟨json.1,ih json.2⟩

theorem membersJson_all (json : MembersJson members) : ∀ entry ∈ members, entry.2.isUndefined = true ∨ IsJson entry.2 := by
  induction members with
  | nil => exact nofun
  | cons entry rest ih => exact List.forall_mem_cons.mpr ⟨json.1,ih json.2⟩

theorem membersJson_present (json : MembersJson members) : ∀ entry ∈ members.filter isPresent, IsJson entry.2 := by
  intro entry inside
  obtain ⟨member,present⟩ := List.mem_filter.mp inside
  rcases membersJson_all json entry member with absent | its
  · rw [isPresent,absent] at present
    cases present
  · exact its

theorem present_distinct (distinct : (members.map Prod.fst).Nodup) : ((members.filter isPresent).map Prod.fst).Nodup :=
  distinct.sublist (List.filter_sublist.map Prod.fst)

-- Names that differ have keys that differ.
theorem entryKey_distinct {entries : List (Utf16 × α)} (distinct : (entries.map Prod.fst).Nodup) : (entries.map entryKey).Nodup := by
  have keys : entries.map entryKey = (entries.map Prod.fst).map (List.map UInt16.toNat) := by
    rw [List.map_map]
    rfl
  rw [keys]
  exact distinct.map fun _ _ same => toNat_injective same

theorem ordered_map (f : Utf16 × α → Utf16 × β) (named : ∀ entry, (f entry).1 = entry.1) (entries : List (Utf16 × α)) :
    Keyset.ordered entryKey (entries.map f) = (Keyset.ordered entryKey entries).map f := by
  refine (List.map_mergeSort fun a _ b _ => ?_).symm
  simp only [Keyset.inOrder,entryKey,named]
  rfl

end Lists

theorem numberText_of (x : Double) : numberText (Written.of x).double = numberText x := by
  unfold Written.of
  split
  · rename_i zero
    unfold numberText
    rw [if_pos zero,if_pos (show Written.zero.double.units = 0 from rfl)]
  · rfl

theorem bracedEntries_written (entries : List (Utf16 × Document)) :
    bracedEntries (entries.map fun entry => (entry.1,.ok (write entry.2))) = .ok (write (.object (Keyset.ordered entryKey entries))) := by
  rw [bracedEntries,ordered_map (fun entry : Utf16 × Document => (entry.1,Except.ok (write entry.2))) (fun _ => rfl),List.map_map,write,
    writeMembers_map]
  refine bind_ok.mpr ⟨_,mapM_ok.mpr ?_,rfl⟩
  rw [List.map_map]
  rfl

-- A value of JSON that is not nested too deep has a canonical text: that of its document.
theorem canonicalize_canonical {value : Value} (json : IsJson value) :
    ∀ depth, depth + nesting value ≤ maxCanonicalizeDepth → canonicalize depth value = .ok (write (canonical value)) := by
  induction value using Value.induction with
  | null | bool | string =>
      intro depth within
      unfold canonicalize
      rw [if_neg (by omega)]
      rfl
  | number x =>
      intro depth within
      cases x with
      | finite x =>
          unfold canonicalize
          rw [if_neg (by omega)]
          simp only [canonical,write,numberText_of]
      | infinity | nan => cases json
  | array items ih =>
      intro depth within
      have each : ∀ item ∈ items, canonicalize (depth + 1) item = .ok (write (canonical item)) := by
        intro item inside
        have deeper := itemsNesting_le inside
        have bound : depth + 1 + nesting item ≤ maxCanonicalizeDepth := by
          rw [nesting] at within
          omega
        rcases itemsJson_all json item inside with absent | its
        · cases item with
          | undefined =>
              unfold canonicalize
              rw [if_neg (by omega)]
              rfl
          | _ => cases absent
        · exact ih item inside its (depth + 1) bound
      unfold canonicalize
      rw [if_neg (by omega)]
      simp only [canonical,write,canonicalizeItems_map,canonicalItems_map,writeItems_map,bind_ok,pure_ok,List.map_map]
      refine ⟨_,mapM_ok.mpr ?_,rfl⟩
      rw [List.map_map]
      exact List.map_congr_left each
  | object members ih =>
      intro depth within
      have each : (members.filter isPresent).map (fun entry => (entry.1,canonicalize (depth + 1) entry.2)) =
          (canonicalMembers members).map fun entry => (entry.1,.ok (write entry.2)) := by
        rw [canonicalMembers_map,List.map_map]
        refine List.map_congr_left fun entry inside => ?_
        have deeper := membersNesting_le inside
        rw [nesting] at within
        exact congrArg (Prod.mk entry.1)
          (ih entry (List.mem_filter.mp inside).1 (membersJson_present json.2 entry inside) (depth + 1) (by omega))
      unfold canonicalize
      rw [if_neg (by omega)]
      simp only [canonical,canonicalizeMembers_map,each]
      exact bracedEntries_written (canonicalMembers members)
  | _ => cases json

end Payable.Requests
