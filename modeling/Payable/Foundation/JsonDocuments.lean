import Payable.Foundation.JsonParse
import Payable.Foundation.NumberTexts

namespace Payable.UnitTexts
open JsonText JsonParse

-- A string of the language: UTF-16 code units, paired or not.
abbrev Utf16 := List UInt16

def ofString (text : String) : Utf16 := (codeUnits text).map UInt16.ofNat

def isHigh (unit : UInt16) : Bool := 55296 ≤ unit.toNat && unit.toNat < 56320

def isLow (unit : UInt16) : Bool := 56320 ≤ unit.toNat && unit.toNat < 57344

def hexUnit (n : Nat) : List Char := [lowerHex (n / 4096),lowerHex (n / 256 % 16),lowerHex (n / 16 % 16),lowerHex (n % 16)]

-- A code unit by itself: JSON.stringify escapes half of a surrogate pair.
def escapeUnit (unit : UInt16) : List Char :=
  if isHigh unit || isLow unit then '\\' :: 'u' :: hexUnit unit.toNat else escape (Char.ofNat unit.toNat)

def pairedChar (high low : UInt16) : Char := Char.ofNat (65536 + (high.toNat - 55296) * 1024 + (low.toNat - 56320))

def escapes : Utf16 → List Char
  | [] => []
  | [unit] => escapeUnit unit
  | unit :: next :: rest =>
    if isHigh unit && isLow next then pairedChar unit next :: escapes rest else escapeUnit unit ++ escapes (next :: rest)

def quoteUnits (text : Utf16) : List Char := '"' :: (escapes text ++ ['"'])

theorem charOf (n : Nat) (valid : n.isValidChar) : (Char.ofNat n).toNat = n := by
  rw [Char.ofNat,dif_pos valid]
  rfl

theorem unit_bound (unit : UInt16) : unit.toNat < 65536 := unit.toNat_lt

theorem readString_hex {a b c d : Char} {i j k l : Nat} (rest : List Char) (first : hexOf a = some i) (second : hexOf b = some j)
    (third : hexOf c = some k) (fourth : hexOf d = some l) :
    readString ('\\' :: 'u' :: a :: b :: c :: d :: rest) =
      (readString rest).map fun (units,after) => ((i * 4096 + j * 256 + k * 16 + l) :: units,after) := by
  rw [readString,first,second,third,fourth]
  cases readString rest <;> rfl

theorem readString_unit (unit : UInt16) (rest : List Char) :
    readString (escapeUnit unit ++ rest) = (readString rest).map fun (units,after) => (unit.toNat :: units,after) := by
  have bound := unit_bound unit
  unfold escapeUnit
  by_cases half : (isHigh unit || isLow unit) = true
  · have digits := readString_hex rest (hexOf_lowerHex (unit.toNat / 4096) (by omega)) (hexOf_lowerHex (unit.toNat / 256 % 16) (by omega))
      (hexOf_lowerHex (unit.toNat / 16 % 16) (by omega)) (hexOf_lowerHex (unit.toNat % 16) (by omega))
    have whole : unit.toNat / 4096 * 4096 + unit.toNat / 256 % 16 * 256 + unit.toNat / 16 % 16 * 16 + unit.toNat % 16 = unit.toNat := by
      omega
    rw [if_pos half]
    rw [whole] at digits
    exact digits
  · have plain : unit.toNat < 55296 ∨ 57344 ≤ unit.toNat := by
      simp only [isHigh,isLow,Bool.or_eq_true,Bool.and_eq_true,decide_eq_true_eq] at half
      omega
    have char : (Char.ofNat unit.toNat).toNat = unit.toNat := charOf _ (by unfold Nat.isValidChar; omega)
    rw [if_neg half,readString_escape,unitsOf,char,if_pos bound]
    rfl

theorem readString_pair {high low : UInt16} (paired : (isHigh high && isLow low) = true) (rest : List Char) :
    readString (pairedChar high low :: rest) =
      (readString rest).map fun (units,after) => (high.toNat :: low.toNat :: units,after) := by
  simp only [isHigh,isLow,Bool.and_eq_true,decide_eq_true_eq] at paired
  have code : (pairedChar high low).toNat = 65536 + (high.toNat - 55296) * 1024 + (low.toNat - 56320) :=
    charOf _ (by unfold Nat.isValidChar; omega)
  have quoted : pairedChar high low ≠ '"' := by
    intro same
    rw [same] at code
    exact absurd code (by change 34 ≠ _; omega)
  have slash : pairedChar high low ≠ '\\' := by
    intro same
    rw [same] at code
    exact absurd code (by change 92 ≠ _; omega)
  have units : unitsOf (pairedChar high low) = [high.toNat,low.toNat] := by
    rw [unitsOf,code,if_neg (by omega)]
    exact congrArg₂ (fun a b => [a,b]) (by omega) (by omega)
  rw [readString_plain quoted slash (by omega),units]
  rfl

-- Quoted, a string is read back unit by unit.
theorem readString_escapes (text : Utf16) (rest : List Char) :
    readString (escapes text ++ '"' :: rest) = some (text.map UInt16.toNat,rest) := by
  induction text using escapes.induct with
  | case1 => rfl
  | case2 unit =>
      rw [escapes,readString_unit]
      rfl
  | case3 unit next tail paired ih =>
      rw [escapes,if_pos paired,List.cons_append,readString_pair paired,ih]
      rfl
  | case4 unit next tail lone ih =>
      rw [escapes,if_neg lone,List.append_assoc,readString_unit,ih]
      rfl

end Payable.UnitTexts

namespace Payable.JsonDocuments
open JsonText JsonParse FiniteDoubles NumberTexts UnitTexts

-- A double as its text keeps it: a zero has no sign.
structure Written where
  double : Double
  signed : double.units = 0 → double.negative = false

def Written.zero : Written := ⟨⟨false,0,0,by decide⟩,fun _ => rfl⟩

def Written.of (x : Double) : Written := if nonzero : x.units = 0 then .zero else ⟨x,fun zero => absurd zero nonzero⟩

inductive Document where
  | null
  | bool (b : Bool)
  | number (x : Written)
  | string (text : Utf16)
  | array (items : List Document)
  | object (members : List (Utf16 × Document))

def memberText (key : Utf16) (text : List Char) : List Char := quoteUnits key ++ ':' :: text

-- The text of a value with its members in their order, as JSON.stringify writes it.
mutual
def write : Document → List Char
  | .null => ['n','u','l','l']
  | .bool true => ['t','r','u','e']
  | .bool false => ['f','a','l','s','e']
  | .number x => numberText x.double
  | .string text => quoteUnits text
  | .array items => bracketed (writeItems items)
  | .object members => braced (writeMembers members)

def writeItems : List Document → List (List Char)
  | [] => []
  | item :: rest => write item :: writeItems rest

def writeMembers : List (Utf16 × Document) → List (List Char)
  | [] => []
  | (key,value) :: rest => memberText key (write value) :: writeMembers rest
end

-- What the text is parsed as.
mutual
def tokens : Document → Value
  | .null => .null
  | .bool b => .bool b
  | .number x => .number x.double.negative (decimalOf x.double).1 (decimalOf x.double).2
  | .string text => .string (text.map UInt16.toNat)
  | .array items => .array (itemTokens items)
  | .object members => .object (memberTokens members)

def itemTokens : List Document → List Value
  | [] => []
  | item :: rest => tokens item :: itemTokens rest

def memberTokens : List (Utf16 × Document) → List (List Nat × Value)
  | [] => []
  | (key,value) :: rest => (key.map UInt16.toNat,tokens value) :: memberTokens rest
end

theorem Document.induction {motive : Document → Prop} (null : motive .null) (bool : ∀ b, motive (.bool b))
    (number : ∀ x, motive (.number x)) (string : ∀ text, motive (.string text))
    (array : ∀ items, (∀ item ∈ items, motive item) → motive (.array items))
    (object : ∀ members, (∀ entry ∈ members, motive entry.2) → motive (.object members)) (document : Document) : motive document :=
  @Document.rec motive (fun items => ∀ item ∈ items, motive item) (fun members => ∀ entry ∈ members, motive entry.2)
    (fun entry => motive entry.2) null bool number string array object (fun _ inside => absurd inside List.not_mem_nil)
    (fun _ _ one others => List.forall_mem_cons.mpr ⟨one,others⟩) (fun _ inside => absurd inside List.not_mem_nil)
    (fun _ _ one others => List.forall_mem_cons.mpr ⟨one,others⟩) (fun _ _ one => one) document

theorem writeItems_map (items : List Document) : writeItems items = items.map write := by
  induction items with
  | nil => rfl
  | cons item rest ih => rw [writeItems,ih,List.map_cons]

theorem writeMembers_map (members : List (Utf16 × Document)) :
    writeMembers members = members.map fun entry => memberText entry.1 (write entry.2) := by
  induction members with
  | nil => rfl
  | cons entry rest ih => rw [writeMembers,ih,List.map_cons]

theorem itemTokens_map (items : List Document) : itemTokens items = items.map tokens := by
  induction items with
  | nil => rfl
  | cons item rest ih => rw [itemTokens,ih,List.map_cons]

theorem memberTokens_map (members : List (Utf16 × Document)) :
    memberTokens members = members.map fun entry => (entry.1.map UInt16.toNat,tokens entry.2) := by
  induction members with
  | nil => rfl
  | cons entry rest ih => rw [memberTokens,ih,List.map_cons]

theorem write_first (document : Document) : ∃ c tail, write document = c :: tail ∧ isSpace c = false ∧ c ≠ ']' := by
  cases document with
  | null => exact ⟨_,_,rfl,rfl,by decide⟩
  | bool b => cases b <;> exact ⟨_,_,rfl,rfl,by decide⟩
  | number x =>
      obtain ⟨c,tail,shape,first⟩ := numberText_first x.double
      have plain : ∀ d, (isSpace d = true ∨ d = ']') → d ≠ c := by
        rintro d special rfl
        rcases first with rfl | digit
        · rcases special with space | other
          · cases space
          · cases other
        · rcases special with space | rfl
          · simp only [isSpace,Bool.or_eq_true,decide_eq_true_eq] at space
            rcases space with ((rfl | rfl) | rfl) | rfl <;> cases digit
          · cases digit
      refine ⟨c,tail,shape,?_,fun same => plain ']' (.inr rfl) same.symm⟩
      cases space : isSpace c with
      | false => rfl
      | true => exact absurd rfl (plain c (.inl space))
  | string text => exact ⟨_,_,rfl,rfl,by decide⟩
  | array items => exact ⟨_,_,rfl,rfl,by decide⟩
  | object members => exact ⟨_,_,rfl,rfl,by decide⟩

theorem write_nonempty (document : Document) : write document ≠ [] := by
  obtain ⟨c,tail,shape,_⟩ := write_first document
  rw [shape]
  exact List.cons_ne_nil _ _

theorem reads_quoteUnits (text : Utf16) : ReadsWithin 1 (quoteUnits text) (.string (text.map UInt16.toNat)) := by
  intro fuel rest _
  have shape : quoteUnits text ++ rest = '"' :: (escapes text ++ '"' :: rest) := by simp [quoteUnits]
  rw [shape,parseValue]
  show (readString _).map _ = _
  rw [readString_escapes]
  rfl

theorem signed_written (x : Written) : NumberTexts.signed x.double = x.double.negative := by
  unfold NumberTexts.signed
  by_cases zero : x.double.units = 0
  · rw [zero,x.signed zero]
    rfl
  · rw [decide_eq_true zero,Bool.true_and]

-- Each text and a comma for every other one fit in the joined text.
theorem joined_room (texts : List (List Char)) (some_ : ∀ text ∈ texts, text ≠ []) :
    ∀ text ∈ texts, text.length + texts.length ≤ (joined texts).length + 1 := by
  induction texts using joined.induct with
  | case1 =>
      intro text inside
      cases inside
  | case2 text =>
      intro other inside
      rw [List.mem_singleton.mp inside]
      exact Nat.le_refl _
  | case3 text rest more ih =>
      have others := fun other inside => some_ other (List.mem_cons_of_mem text inside)
      have longer := joined_longer rest others
      have positive := List.length_pos_iff.mpr (some_ text List.mem_cons_self)
      intro other inside
      rw [joined.eq_3 text rest more,List.length_append,List.length_cons,List.length_cons]
      rcases List.mem_cons.mp inside with rfl | later
      · omega
      · have room := ih others other later
        omega

-- The fuel that the length of a bracketed text gives is enough for what stands between the brackets.
theorem joined_fuel (texts : List (List Char)) (some_ : ∀ text ∈ texts, text ≠ []) :
    ∃ need, need + texts.length + 1 = 2 * ((joined texts).length + 2) ∧ ∀ text ∈ texts, 2 * text.length ≤ need := by
  have longer := joined_longer texts some_
  have room := joined_room texts some_
  refine ⟨2 * ((joined texts).length + 2) - texts.length - 1,by omega,fun text inside => ?_⟩
  have fits := room text inside
  omega

theorem write_positive (document : Document) : 1 ≤ 2 * (write document).length := by
  have some_ := List.length_pos_iff.mpr (write_nonempty document)
  omega

theorem reads_write (document : Document) : ReadsWithin (2 * (write document).length) (write document) (tokens document) := by
  induction document using Document.induction with
  | null => exact fun _ _ _ => rfl
  | bool b => cases b <;> exact fun _ _ _ => rfl
  | number x =>
      have read := reads_number x.double
      rw [signed_written] at read
      exact read.more (write_positive (.number x))
  | string text => exact (reads_quoteUnits text).more (write_positive (.string text))
  | array items ih =>
      obtain ⟨need,its,enough⟩ := joined_fuel (items.map write) fun text inside => by
        obtain ⟨item,_,rfl⟩ := List.mem_map.mp inside
        exact write_nonempty item
      have reads : ∀ entry ∈ items.map (fun item => (write item,tokens item)), ReadsWithin need entry.1 entry.2 := by
        intro entry inside
        obtain ⟨item,member,rfl⟩ := List.mem_map.mp inside
        exact (ih item member).more (enough _ (List.mem_map_of_mem member))
      have opened : ∀ entry ∈ items.map (fun item => (write item,tokens item)), ∃ c tail, entry.1 = c :: tail ∧ isSpace c = false ∧ c ≠ ']' := by
        intro entry inside
        obtain ⟨item,_,rfl⟩ := List.mem_map.mp inside
        exact write_first item
      have read := reads_bracketed _ reads opened
      have length : (bracketed (items.map write)).length = (joined (items.map write)).length + 2 := by simp [bracketed]
      rw [write,tokens,writeItems_map,itemTokens_map,length,← its]
      simpa only [List.map_map,Function.comp_def,List.length_map] using read
  | object members ih =>
      obtain ⟨need,its,enough⟩ := joined_fuel (members.map fun entry => memberText entry.1 (write entry.2)) fun text inside => by
        obtain ⟨entry,_,rfl⟩ := List.mem_map.mp inside
        exact List.cons_ne_nil _ _
      have readable : ∀ entry ∈ members.map (fun entry => Entry.mk (escapes entry.1) (entry.1.map UInt16.toNat) (write entry.2) (tokens entry.2)),
          entry.Readable need := by
        intro entry inside
        obtain ⟨source,member,rfl⟩ := List.mem_map.mp inside
        have within : (write source.2).length ≤ (memberText source.1 (write source.2)).length := by
          rw [memberText,List.length_append,List.length_cons]
          omega
        have fits := enough _ (List.mem_map_of_mem member)
        exact ⟨readString_escapes source.1,(ih source member).more (by omega)⟩
      have read := reads_braced _ readable
      have texts : (members.map fun entry => Entry.mk (escapes entry.1) (entry.1.map UInt16.toNat) (write entry.2) (tokens entry.2)).map
          Entry.written = members.map fun entry => memberText entry.1 (write entry.2) := by
        rw [List.map_map]
        exact List.map_congr_left fun entry _ => by simp [Entry.written,memberText,quoteUnits]
      have length : (braced (members.map fun entry => memberText entry.1 (write entry.2))).length =
          (joined (members.map fun entry => memberText entry.1 (write entry.2))).length + 2 := by simp [braced]
      rw [write,tokens,writeMembers_map,memberTokens_map,length,← its]
      rw [texts] at read
      simpa only [List.map_map,Function.comp_def,List.length_map] using read

-- JSON.parse of the text of a value.
theorem parse_write (document : Document) : parse (write document) = some (tokens document) :=
  parse_reads (reads_write document) (by omega)

theorem number_tokens {x y : Written} (same : tokens (.number x) = tokens (.number y)) : x = y := by
  obtain ⟨sign,mantissa,exponent⟩ := Value.number.inj same
  have read := ofDecimal_decimalOf x.signed
  rw [signed_written,sign,mantissa,exponent,← signed_written,ofDecimal_decimalOf y.signed] at read
  obtain ⟨x,_⟩ := x
  obtain ⟨y,_⟩ := y
  cases Number.finite.inj read
  rfl

theorem toNat_injective {text text' : Utf16} (same : text.map UInt16.toNat = text'.map UInt16.toNat) : text = text' :=
  List.map_injective_iff.mpr (fun _ _ => UInt16.toNat_inj.mp) same

theorem map_cut {α β : Type} {f : α → β} {xs : List α} (cut : ∀ x ∈ xs, ∀ y, f x = f y → x = y) :
    ∀ ys, xs.map f = ys.map f → xs = ys := by
  induction xs with
  | nil =>
      intro ys same
      exact (List.map_eq_nil_iff.mp same.symm).symm
  | cons x xs ih =>
      intro ys same
      cases ys with
      | nil => cases same
      | cons y ys =>
          obtain ⟨head,tail⟩ := List.cons.inj same
          rw [cut x List.mem_cons_self y head,ih (fun x inside => cut x (List.mem_cons_of_mem _ inside)) ys tail]

theorem tokens_injective (document : Document) : ∀ other, tokens document = tokens other → document = other := by
  induction document using Document.induction with
  | null =>
      intro other same
      cases other <;> first | rfl | cases same
  | bool b =>
      intro other same
      cases other <;> cases same
      rfl
  | number x =>
      intro other same
      cases other with
      | number y => rw [number_tokens same]
      | _ => cases same
  | string text =>
      intro other same
      cases other with
      | string text' => rw [toNat_injective (Value.string.inj same)]
      | _ => cases same
  | array items ih =>
      intro other same
      cases other with
      | array others =>
          have listed := Value.array.inj same
          rw [itemTokens_map,itemTokens_map] at listed
          rw [map_cut ih others listed]
      | _ => cases same
  | object members ih =>
      intro other same
      cases other with
      | object others =>
          have listed := Value.object.inj same
          rw [memberTokens_map,memberTokens_map] at listed
          have entries := map_cut (fun entry inside other equal => Prod.ext (toNat_injective (Prod.mk.inj equal).1)
            (ih entry inside other.2 (Prod.mk.inj equal).2)) others listed
          rw [entries]
      | _ => cases same

-- Texts that are the same are of the same value.
theorem write_injective {document other : Document} (same : write document = write other) : document = other := by
  have read := parse_write document
  rw [same,parse_write other] at read
  exact (tokens_injective other document (Option.some.inj read)).symm

end Payable.JsonDocuments
