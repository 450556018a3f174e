import Payable.Foundation.Language

namespace Payable.JsonValues
open FiniteDoubles NumberTexts JsonDocuments UnitTexts Payable.Language

-- A name that is there already is given the later value.
def assign {α : Type} (members : List (Utf16 × α)) (entry : Utf16 × α) : List (Utf16 × α) :=
  if members.any (·.1 = entry.1) then members.map fun other => if other.1 = entry.1 then entry else other else members ++ [entry]

-- What JSON.parse returns.
mutual
def ofParsed : JsonParse.Value → Value
  | .null => .null
  | .bool b => .bool b
  | .number negative mantissa exponent => .number (ofDecimal negative mantissa exponent)
  | .string units => .string (units.map UInt16.ofNat)
  | .array items => .array (ofItems items)
  | .object members => .object ((ofMembers members).foldl assign [])

def ofItems : List JsonParse.Value → List Value
  | [] => []
  | item :: rest => ofParsed item :: ofItems rest

def ofMembers : List (List Nat × JsonParse.Value) → List (Utf16 × Value)
  | [] => []
  | (key,value) :: rest => (key.map UInt16.ofNat,ofParsed value) :: ofMembers rest
end

-- none is the SyntaxError.
def parseJson (text : List Char) : Option Value := (JsonParse.parse text).map ofParsed

-- The value that a document is the text of.
mutual
def embed : Document → Value
  | .null => .null
  | .bool b => .bool b
  | .number x => .number (.finite x.double)
  | .string text => .string text
  | .array items => .array (embedItems items)
  | .object members => .object (embedMembers members)

def embedItems : List Document → List Value
  | [] => []
  | item :: rest => embed item :: embedItems rest

def embedMembers : List (Utf16 × Document) → List (Utf16 × Value)
  | [] => []
  | (key,value) :: rest => (key,embed value) :: embedMembers rest
end

-- No object of the document has two fields of one name.
mutual
def Distinct : Document → Prop
  | .array items => ItemsDistinct items
  | .object members => (members.map Prod.fst).Nodup ∧ MembersDistinct members
  | _ => True

def ItemsDistinct : List Document → Prop
  | [] => True
  | item :: rest => Distinct item ∧ ItemsDistinct rest

def MembersDistinct : List (Utf16 × Document) → Prop
  | [] => True
  | (_,value) :: rest => Distinct value ∧ MembersDistinct rest
end

theorem ofItems_map (items : List JsonParse.Value) : ofItems items = items.map ofParsed := by
  induction items with
  | nil => rfl
  | cons item rest ih => rw [ofItems,ih,List.map_cons]

theorem ofMembers_map (members : List (List Nat × JsonParse.Value)) :
    ofMembers members = members.map fun entry => (entry.1.map UInt16.ofNat,ofParsed entry.2) := by
  induction members with
  | nil => rfl
  | cons entry rest ih => rw [ofMembers,ih,List.map_cons]

theorem embedItems_map (items : List Document) : embedItems items = items.map embed := by
  induction items with
  | nil => rfl
  | cons item rest ih => rw [embedItems,ih,List.map_cons]

theorem embedMembers_map (members : List (Utf16 × Document)) : embedMembers members = members.map fun entry => (entry.1,embed entry.2) := by
  induction members with
  | nil => rfl
  | cons entry rest ih => rw [embedMembers,ih,List.map_cons]

theorem itemsDistinct_all (items : List Document) : ItemsDistinct items ↔ ∀ item ∈ items, Distinct item := by
  induction items with
  | nil => exact iff_of_true trivial nofun
  | cons item rest ih => rw [ItemsDistinct,ih,List.forall_mem_cons]

theorem membersDistinct_all (members : List (Utf16 × Document)) : MembersDistinct members ↔ ∀ entry ∈ members, Distinct entry.2 := by
  induction members with
  | nil => exact iff_of_true trivial nofun
  | cons entry rest ih => rw [MembersDistinct,ih,List.forall_mem_cons]

-- Names that differ are each given their own field, in their order.
theorem assigned_distinct {α : Type} (entries : List (Utf16 × α)) :
    ∀ before, ((before ++ entries).map Prod.fst).Nodup → entries.foldl assign before = before ++ entries := by
  induction entries with
  | nil => exact fun before _ => (List.append_nil before).symm
  | cons entry rest ih =>
      intro before distinct
      have new : ¬ before.any (·.1 = entry.1) = true := by
        intro there
        obtain ⟨other,inside,same⟩ := List.any_eq_true.mp there
        rw [List.map_append,List.map_cons] at distinct
        exact List.disjoint_of_nodup_append distinct (List.mem_map_of_mem inside)
          (of_decide_eq_true same ▸ List.mem_cons_self)
      rw [List.append_cons] at distinct ⊢
      rw [List.foldl_cons,assign,if_neg new,ih _ distinct]

-- A name given twice leaves fewer.
theorem assigned_length {α : Type} (entries : List (Utf16 × α)) :
    ∀ before : List (Utf16 × α), (entries.foldl assign before).length ≤ before.length + entries.length ∧
      ((before.map Prod.fst).Nodup → (entries.foldl assign before).length = before.length + entries.length →
        ((before ++ entries).map Prod.fst).Nodup) := by
  induction entries with
  | nil =>
      intro before
      rw [List.append_nil]
      exact ⟨Nat.le_refl _,fun distinct _ => distinct⟩
  | cons entry rest ih =>
      intro before
      rw [List.foldl_cons,List.length_cons,assign]
      split
      · have less := (ih (before.map fun other : Utf16 × α => if other.1 = entry.1 then entry else other)).1
        rw [List.length_map] at less
        refine ⟨by omega,fun _ same => ?_⟩
        omega
      · rename_i new
        obtain ⟨less,equal⟩ := ih (before ++ [entry])
        rw [List.length_append,List.length_singleton] at less equal
        refine ⟨by omega,fun distinct same => ?_⟩
        rw [List.append_cons]
        refine equal ?_ (by omega)
        rw [List.map_append,List.map_singleton]
        refine distinct.append (List.nodup_singleton _) fun name old own => new ?_
        obtain ⟨other,inside,rfl⟩ := List.mem_map.mp old
        exact List.any_eq_true.mpr ⟨other,inside,decide_eq_true (List.mem_singleton.mp own)⟩

theorem unit_ofNat (unit : UInt16) : UInt16.ofNat unit.toNat = unit := UInt16.toNat_inj.mp (UInt16.toNat_ofNat_of_lt' (unit_bound unit))

theorem units_ofNat (text : Utf16) : (text.map UInt16.toNat).map UInt16.ofNat = text := by
  rw [List.map_map]
  exact (List.map_congr_left fun unit _ => unit_ofNat unit).trans (List.map_id text)

theorem ofParsed_tokens {document : Document} (distinct : Distinct document) : ofParsed (tokens document) = embed document := by
  induction document using Document.induction with
  | null | bool => rfl
  | number x => rw [tokens,ofParsed,embed,← signed_written,ofDecimal_decimalOf x.signed]
  | string text => rw [tokens,ofParsed,embed,units_ofNat]
  | array items ih =>
      rw [tokens,ofParsed,embed,ofItems_map,itemTokens_map,embedItems_map,List.map_map]
      exact congrArg Value.array (List.map_congr_left fun item inside => ih item inside ((itemsDistinct_all items).mp distinct item inside))
  | object members ih =>
      have fields : ofMembers (memberTokens members) = embedMembers members := by
        rw [ofMembers_map,memberTokens_map,embedMembers_map,List.map_map]
        refine List.map_congr_left fun entry inside => Prod.ext (units_ofNat entry.1) ?_
        exact ih entry inside ((membersDistinct_all members).mp distinct.2 entry inside)
      have names : (([] ++ embedMembers members).map Prod.fst).Nodup := by
        rw [List.nil_append,embedMembers_map,List.map_map]
        exact distinct.1
      rw [tokens,ofParsed,embed,fields,assigned_distinct _ [] names,List.nil_append]

-- JSON.parse of what JSON.stringify writes.
theorem parseJson_write {document : Document} (distinct : Distinct document) : parseJson (write document) = some (embed document) := by
  rw [parseJson,parse_write,Option.map_some,ofParsed_tokens distinct]

end Payable.JsonValues
