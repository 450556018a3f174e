import Payable.Foundation.Codes
import Payable.Foundation.IsoDates
import Payable.Foundation.JsonText
import Mathlib.Data.Rat.Defs

namespace Payable.JsonParse
open JsonText IsoDates

-- What JSON.parse makes of any text. A string is its UTF-16 code units, which an escape can leave unpaired;
-- a number is the decimal it is written as, mantissa times a power of ten, and its sign, which a zero has too.
inductive Value where
  | null
  | bool (b : Bool)
  | number (negative : Bool) (mantissa : Nat) (exponent : Int)
  | string (units : List Nat)
  | array (items : List Value)
  | object (members : List (List Nat × Value))

def isSpace (c : Char) : Bool := c = ' ' || c = '\t' || c = '\n' || c = '\r'

def skip (text : List Char) : List Char := text.dropWhile isSpace

def hexOf (c : Char) : Option Nat :=
  if '0' ≤ c ∧ c ≤ '9' then some (c.toNat - 48)
  else if 'a' ≤ c ∧ c ≤ 'f' then some (c.toNat - 87)
  else if 'A' ≤ c ∧ c ≤ 'F' then some (c.toNat - 55)
  else none

def unescaped : Char → Option Nat
  | '"' => some 34
  | '\\' => some 92
  | '/' => some 47
  | 'b' => some 8
  | 'f' => some 12
  | 'n' => some 10
  | 'r' => some 13
  | 't' => some 9
  | _ => none

def unitsOf (c : Char) : List Nat :=
  if c.toNat < 65536 then [c.toNat] else [55296 + (c.toNat - 65536) / 1024,56320 + (c.toNat - 65536) % 1024]

-- From the character after the opening quote on.
def readString : List Char → Option (List Nat × List Char)
  | [] => none
  | '"' :: rest => some ([],rest)
  | '\\' :: 'u' :: a :: b :: c :: d :: rest => do
    let i ← hexOf a
    let j ← hexOf b
    let k ← hexOf c
    let l ← hexOf d
    let (units,after) ← readString rest
    some ((i * 4096 + j * 256 + k * 16 + l) :: units,after)
  | ['\\'] => none
  | '\\' :: c :: rest => do
    let unit ← unescaped c
    let (units,after) ← readString rest
    some (unit :: units,after)
  | c :: rest => if c.toNat < 32 then none else (readString rest).map fun (units,after) => (unitsOf c ++ units,after)

def valueOfDigits (digits : List Char) : Nat := digits.foldl (fun n c => n * 10 + (c.toNat - 48)) 0

def readFraction : List Char → Option (List Char × List Char)
  | '.' :: rest => if (rest.takeWhile Char.isDigit).isEmpty then none else some (rest.takeWhile Char.isDigit,rest.dropWhile Char.isDigit)
  | rest => some ([],rest)

def readExponent : List Char → Option (Int × List Char)
  | c :: rest =>
    if c = 'e' ∨ c = 'E' then
      let (sign,digits) := match rest with
        | '-' :: digits => ((-1 : Int),digits)
        | '+' :: digits => (1,digits)
        | digits => (1,digits)
      if (digits.takeWhile Char.isDigit).isEmpty then none
      else some (sign * valueOfDigits (digits.takeWhile Char.isDigit),digits.dropWhile Char.isDigit)
    else some (0,c :: rest)
  | [] => some (0,[])

def readNumber (text : List Char) : Option (Value × List Char) := do
  let (negative,rest) := match text with
    | '-' :: rest => (true,rest)
    | rest => (false,rest)
  let digits := rest.takeWhile Char.isDigit
  if digits = [] ∨ (digits.head? = some '0' ∧ digits.length ≠ 1) then none
  else
    let (fraction,rest) ← readFraction (rest.dropWhile Char.isDigit)
    let (exponent,rest) ← readExponent rest
    some (.number negative (valueOfDigits (digits ++ fraction)) (exponent - fraction.length),rest)

-- Every call that recurses has read a character, so the length of a text is fuel enough for it.
mutual
def parseValue : Nat → List Char → Option (Value × List Char)
  | 0,_ => none
  | fuel + 1,text =>
    match skip text with
    | '{' :: rest =>
      match skip rest with
      | '}' :: after => some (.object [],after)
      | rest => (parseMembers fuel rest).map fun (members,after) => (.object members,after)
    | '[' :: rest =>
      match skip rest with
      | ']' :: after => some (.array [],after)
      | rest => (parseItems fuel rest).map fun (items,after) => (.array items,after)
    | '"' :: rest => (readString rest).map fun (units,after) => (.string units,after)
    | 'n' :: 'u' :: 'l' :: 'l' :: rest => some (.null,rest)
    | 't' :: 'r' :: 'u' :: 'e' :: rest => some (.bool true,rest)
    | 'f' :: 'a' :: 'l' :: 's' :: 'e' :: rest => some (.bool false,rest)
    | rest => readNumber rest

def parseItems : Nat → List Char → Option (List Value × List Char)
  | 0,_ => none
  | fuel + 1,text => do
    let (item,rest) ← parseValue fuel text
    match skip rest with
    | ',' :: rest => (parseItems fuel rest).map fun (items,after) => (item :: items,after)
    | ']' :: after => some ([item],after)
    | _ => none

def parseMembers : Nat → List Char → Option (List (List Nat × Value) × List Char)
  | 0,_ => none
  | fuel + 1,text => do
    let rest ← expect '"' (skip text)
    let (key,rest) ← readString rest
    let rest ← expect ':' (skip rest)
    let (value,rest) ← parseValue fuel rest
    match skip rest with
    | ',' :: rest => (parseMembers fuel rest).map fun (members,after) => ((key,value) :: members,after)
    | '}' :: after => some ([(key,value)],after)
    | _ => none
end

-- none is the SyntaxError.
def parse (text : List Char) : Option Value :=
  match parseValue (2 * text.length + 1) text with
  | some (value,rest) => if skip rest = [] then some value else none
  | none => none

-- Of members with one name the last counts.
def property (members : List (List Nat × Value)) (key : String) : Option Value :=
  (members.reverse.find? fun member => member.1 = codeUnits key).map Prod.snd

-- The double nearest to the decimal is 1; both ends are ties, which go to 1.
def roundsToOne (mantissa exponent : Int) : Bool :=
  let value : Rat := mantissa * (10 : Rat) ^ exponent
  1 - 1 / 2 ^ 54 ≤ value && value ≤ 1 + 1 / 2 ^ 53

theorem codeUnits_flat (text : String) : codeUnits text = text.toList.flatMap unitsOf := rfl

theorem toNat_range (c : Char) : c.toNat < 55296 ∨ 57344 ≤ c.toNat ∧ c.toNat < 1114112 := c.valid

theorem unitsOf_free : Codes.PrefixFree (fun _ => True) unitsOf := by
  intro c d x y _ _ same
  have first := toNat_range c
  have second := toNat_range d
  unfold unitsOf at same
  by_cases plain : c.toNat < 65536
  · by_cases plain' : d.toNat < 65536
    · rw [if_pos plain,if_pos plain'] at same
      exact ⟨Char.toNat_inj.mp (List.cons.inj same).1,(List.cons.inj same).2⟩
    · rw [if_pos plain,if_neg plain'] at same
      have head := (List.cons.inj same).1
      omega
  · by_cases plain' : d.toNat < 65536
    · rw [if_neg plain,if_pos plain'] at same
      have head := (List.cons.inj same).1
      omega
    · rw [if_neg plain,if_neg plain'] at same
      obtain ⟨head,tail⟩ := List.cons.inj same
      obtain ⟨low,rest⟩ := List.cons.inj tail
      exact ⟨Char.toNat_inj.mp (by omega),rest⟩

theorem codeUnits_injective (same : codeUnits s = codeUnits t) : s = t := by
  have nonempty : ∀ c, unitsOf c ≠ [] := by
    intro c
    unfold unitsOf
    split <;> exact List.cons_ne_nil _ _
  exact String.toList_inj.mp (Codes.words_injective unitsOf_free nonempty _ _ (fun _ _ => trivial) (fun _ _ => trivial) same)

theorem hexOf_lowerHex : ∀ n < 16, hexOf (lowerHex n) = some n := by decide

theorem readString_plain {c : Char} (quoted : c ≠ '"') (slash : c ≠ '\\') (printed : ¬ c.toNat < 32) (rest : List Char) :
    readString (c :: rest) = (readString rest).map fun (units,after) => (unitsOf c ++ units,after) := by
  rw [readString.eq_def (c :: rest)]
  split <;> simp_all

theorem readString_escape (c : Char) (rest : List Char) :
    readString (escape c ++ rest) = (readString rest).map fun (units,after) => (unitsOf c ++ units,after) := by
  have small : ∀ n, c.toNat = n → n < 65536 → unitsOf c = [n] := by
    rintro n rfl below
    exact if_pos below
  by_cases quoted : c = '"'
  · subst quoted
    cases read : readString rest <;> simp [escape,readString,unescaped,unitsOf,read]
  by_cases slash : c = '\\'
  · subst slash
    cases read : readString rest <;> simp [escape,readString,unescaped,unitsOf,read]
  by_cases backspace : c.toNat = 8
  · cases read : readString rest <;> simp [escape,quoted,slash,backspace,readString,unescaped,small 8 backspace,read]
  by_cases tab : c.toNat = 9
  · cases read : readString rest <;> simp [escape,quoted,slash,tab,readString,unescaped,small 9 tab,read]
  by_cases newline : c.toNat = 10
  · cases read : readString rest <;> simp [escape,quoted,slash,newline,readString,unescaped,small 10 newline,read]
  by_cases feed : c.toNat = 12
  · cases read : readString rest <;> simp [escape,quoted,slash,feed,readString,unescaped,small 12 feed,read]
  by_cases carriage : c.toNat = 13
  · cases read : readString rest <;> simp [escape,quoted,slash,carriage,readString,unescaped,small 13 carriage,read]
  by_cases control : c.toNat < 32
  · have zero : hexOf '0' = some 0 := rfl
    have high := hexOf_lowerHex (c.toNat / 16) (by omega)
    have low := hexOf_lowerHex (c.toNat % 16) (by omega)
    have whole : c.toNat / 16 * 16 + c.toNat % 16 = c.toNat := Nat.div_add_mod' ..
    cases read : readString rest <;>
      simp [escape,quoted,slash,backspace,tab,newline,feed,carriage,control,readString,zero,high,low,whole,small _ rfl (by omega),read]
  · have plain : escape c = [c] := by simp [escape,quoted,slash,backspace,tab,newline,feed,carriage,control]
    rw [plain,List.singleton_append,readString_plain quoted slash control]

theorem readString_quote (text : String) (rest : List Char) :
    readString (text.toList.flatMap escape ++ '"' :: rest) = some (codeUnits text,rest) := by
  rw [codeUnits_flat]
  induction text.toList with
  | nil => rfl
  | cons c chars ih => rw [List.flatMap_cons,List.append_assoc,readString_escape,ih,List.flatMap_cons,Option.map_some]

-- A text that reads as a value wherever something else follows it, with fuel enough.
def ReadsWithin (need : Nat) (text : List Char) (value : Value) : Prop :=
  ∀ fuel rest, Delimited rest → parseValue (fuel + need) (text ++ rest) = some (value,rest)

def Reads (text : List Char) (value : Value) : Prop :=
  ∀ fuel rest, Delimited rest → parseValue (fuel + 1) (text ++ rest) = some (value,rest)

theorem ReadsWithin.more {need enough : Nat} (reads : ReadsWithin need text value) (less : need ≤ enough) : ReadsWithin enough text value := by
  intro fuel rest delimited
  obtain ⟨extra,rfl⟩ := Nat.exists_eq_add_of_le less
  rw [show fuel + (need + extra) = fuel + extra + need by omega]
  exact reads (fuel + extra) rest delimited

theorem reads_string (text : String) : Reads (quote text) (.string (codeUnits text)) := by
  intro fuel rest _
  have shape : quote text ++ rest = '"' :: (text.toList.flatMap escape ++ '"' :: rest) := by simp [quote]
  rw [shape,parseValue]
  show (readString _).map _ = _
  rw [readString_quote]
  rfl

theorem skip_solid {c : Char} (solid : isSpace c = false) (rest : List Char) : skip (c :: rest) = c :: rest := by
  rw [skip,List.dropWhile_cons_of_neg (by simp [solid])]

-- A member of an object, with what its name and its value are read as.
structure Entry where
  key : List Char
  units : List Nat
  text : List Char
  value : Value

def Entry.written (entry : Entry) : List Char := '"' :: (entry.key ++ '"' :: ':' :: entry.text)

structure Entry.Readable (need : Nat) (entry : Entry) : Prop where
  key : ∀ rest, readString (entry.key ++ '"' :: rest) = some (entry.units,rest)
  value : ReadsWithin need entry.text entry.value

theorem parseMembers_joined {need : Nat} (entries : List Entry) (readable : ∀ entry ∈ entries, entry.Readable need) (some_ : entries ≠ [])
    (fuel : Nat) (rest : List Char) :
    parseMembers (fuel + need + entries.length) (joined (entries.map Entry.written) ++ '}' :: rest) =
      some (entries.map fun entry => (entry.units,entry.value),rest) := by
  induction entries with
  | nil => exact absurd rfl some_
  | cons entry entries ih =>
      have its := readable entry List.mem_cons_self
      have one : ∀ fuel after, Delimited after → parseMembers (fuel + need + 1) (entry.written ++ after) = (match skip after with
          | ',' :: rest => (parseMembers (fuel + need) rest).map fun (members,after) => ((entry.units,entry.value) :: members,after)
          | '}' :: after => some ([(entry.units,entry.value)],after)
          | _ => none) := by
        intro fuel after delimited
        have shape : entry.written ++ after = '"' :: (entry.key ++ '"' :: ':' :: (entry.text ++ after)) := by simp [Entry.written]
        rw [shape,parseMembers,skip_solid rfl,expect_self]
        simp only [Option.bind_eq_bind,Option.bind_some,its.key,skip_solid (show isSpace ':' = false from rfl),expect_self,
          its.value fuel after delimited]
      cases entries with
      | nil =>
          rw [List.map_singleton,joined,List.length_singleton,one _ _ (delimited_cons (.inr (.inr rfl))),skip_solid rfl]
          rfl
      | cons second entries =>
          have more := ih (fun entry inside => readable entry (List.mem_cons_of_mem _ inside)) (List.cons_ne_nil _ _)
          have shape : joined ((entry :: second :: entries).map Entry.written) ++ '}' :: rest =
              entry.written ++ ',' :: (joined ((second :: entries).map Entry.written) ++ '}' :: rest) := by
            simp [joined]
          rw [shape,List.length_cons,show fuel + need + ((second :: entries).length + 1) = (fuel + (second :: entries).length) + need + 1 by omega,
            one _ _ (delimited_cons (.inl rfl)),skip_solid rfl]
          show Option.map _ (parseMembers (fuel + (second :: entries).length + need) _) = _
          rw [show fuel + (second :: entries).length + need = fuel + need + (second :: entries).length by omega,more]
          rfl

theorem joined_longer (texts : List (List Char)) (some_ : ∀ text ∈ texts, text ≠ []) : texts.length ≤ (joined texts).length := by
  induction texts using joined.induct with
  | case1 => exact Nat.le_refl 0
  | case2 text => exact List.length_pos_iff.mpr (some_ text List.mem_cons_self)
  | case3 text rest more ih =>
      have others := ih fun other inside => some_ other (List.mem_cons_of_mem _ inside)
      rw [joined.eq_3 text rest more,List.length_append,List.length_cons,List.length_cons]
      omega

theorem reads_braced {need : Nat} (entries : List Entry) (readable : ∀ entry ∈ entries, entry.Readable need) :
    ReadsWithin (need + entries.length + 1) (braced (entries.map Entry.written))
      (.object (entries.map fun entry => (entry.units,entry.value))) := by
  intro fuel rest _
  have shape : braced (entries.map Entry.written) ++ rest = '{' :: (joined (entries.map Entry.written) ++ '}' :: rest) := by simp [braced]
  rw [shape,show fuel + (need + entries.length + 1) = fuel + need + entries.length + 1 by omega,parseValue,skip_solid rfl]
  cases entries with
  | nil => rfl
  | cons entry entries =>
      have read := parseMembers_joined (entry :: entries) readable (List.cons_ne_nil _ _) fuel rest
      obtain ⟨tail,opened⟩ : ∃ tail, joined ((entry :: entries).map Entry.written) ++ '}' :: rest = '"' :: tail := by
        cases entries <;> exact ⟨_,rfl⟩
      rw [opened] at read ⊢
      show Option.map _ (parseMembers (fuel + need + (entry :: entries).length) ('"' :: tail)) = _
      rw [read]
      rfl

theorem parseItems_joined {need : Nat} (items : List (List Char × Value)) (reads : ∀ item ∈ items, ReadsWithin need item.1 item.2)
    (some_ : items ≠ []) (fuel : Nat) (rest : List Char) :
    parseItems (fuel + need + items.length) (joined (items.map Prod.fst) ++ ']' :: rest) = some (items.map Prod.snd,rest) := by
  induction items with
  | nil => exact absurd rfl some_
  | cons item items ih =>
      have its := reads item List.mem_cons_self
      cases items with
      | nil =>
          rw [List.map_singleton,joined,List.length_singleton,parseItems,its fuel _ (delimited_cons (.inr (.inl rfl)))]
          rfl
      | cons second items =>
          have more := ih (fun item inside => reads item (List.mem_cons_of_mem _ inside)) (List.cons_ne_nil _ _)
          have shape : joined ((item :: second :: items).map Prod.fst) ++ ']' :: rest =
              item.1 ++ ',' :: (joined ((second :: items).map Prod.fst) ++ ']' :: rest) := by
            simp [joined]
          rw [shape,List.length_cons,show fuel + need + ((second :: items).length + 1) = (fuel + (second :: items).length) + need + 1 by omega,
            parseItems,its _ _ (delimited_cons (.inl rfl))]
          show Option.map _ (parseItems (fuel + (second :: items).length + need) _) = _
          rw [show fuel + (second :: items).length + need = fuel + need + (second :: items).length by omega,more]
          rfl

-- No blank and no closing bracket is first in the text of an item.
theorem reads_bracketed {need : Nat} (items : List (List Char × Value)) (reads : ∀ item ∈ items, ReadsWithin need item.1 item.2)
    (opened : ∀ item ∈ items, ∃ c tail, item.1 = c :: tail ∧ isSpace c = false ∧ c ≠ ']') :
    ReadsWithin (need + items.length + 1) (bracketed (items.map Prod.fst)) (.array (items.map Prod.snd)) := by
  intro fuel rest _
  have shape : bracketed (items.map Prod.fst) ++ rest = '[' :: (joined (items.map Prod.fst) ++ ']' :: rest) := by simp [bracketed]
  rw [shape,show fuel + (need + items.length + 1) = fuel + need + items.length + 1 by omega,parseValue,skip_solid rfl]
  cases items with
  | nil => rfl
  | cons item items =>
      have read := parseItems_joined (item :: items) reads (List.cons_ne_nil _ _) fuel rest
      obtain ⟨c,tail,first,solid,other⟩ := opened item List.mem_cons_self
      obtain ⟨after,begun⟩ : ∃ after, joined ((item :: items).map Prod.fst) ++ ']' :: rest = c :: after := by
        cases items with
        | nil => exact ⟨_,by rw [List.map_singleton,joined,first]; rfl⟩
        | cons second items => exact ⟨_,by simp only [List.map_cons,joined,first]; rfl⟩
      rw [begun] at read ⊢
      simp only [skip_solid solid]
      split
      · rename_i its
        exact absurd (List.cons.inj its).1 other
      · rw [read]
        rfl

theorem parseValue_number {c : Char} (first : c = '-' ∨ c.isDigit = true) (fuel : Nat) (rest : List Char) :
    parseValue (fuel + 1) (c :: rest) = readNumber (c :: rest) := by
  have solid : isSpace c = false := by
    rcases first with rfl | digit
    · rfl
    · simp only [Char.isDigit,Bool.and_eq_true,decide_eq_true_eq] at digit
      simp [isSpace]
      refine ⟨⟨⟨?_,?_⟩,?_⟩,?_⟩ <;> rintro rfl <;> revert digit <;> decide
  rw [parseValue,skip_solid solid]
  split
  all_goals try
    rename_i its
    obtain ⟨rfl,_⟩ := List.cons.inj its
    rcases first with same | digit
    · cases same
    · cases digit
  rfl

theorem parse_reads {need : Nat} (reads : ReadsWithin need text value) (enough : need ≤ 2 * text.length + 1) : parse text = some value := by
  have ended : Delimited [] := nofun
  have read := reads.more enough 0 [] ended
  rw [Nat.zero_add,List.append_nil] at read
  rw [parse,read]
  rfl

theorem parse_braced (entries : List (String × List Char × Value)) (reads : ∀ entry ∈ entries, Reads entry.2.1 entry.2.2) :
    parse (braced (entries.map fun entry => member entry.1 entry.2.1)) =
      some (.object (entries.map fun entry => (codeUnits entry.1,entry.2.2))) := by
  have readable : ∀ entry ∈ entries.map (fun entry => Entry.mk (entry.1.toList.flatMap escape) (codeUnits entry.1) entry.2.1 entry.2.2),
      entry.Readable 1 := by
    intro entry inside
    obtain ⟨source,member,rfl⟩ := List.mem_map.mp inside
    exact ⟨readString_quote source.1,reads source member⟩
  have read := reads_braced _ readable
  have texts : (entries.map fun entry => Entry.mk (entry.1.toList.flatMap escape) (codeUnits entry.1) entry.2.1 entry.2.2).map Entry.written =
      entries.map fun entry => member entry.1 entry.2.1 := by
    rw [List.map_map]
    exact List.map_congr_left fun entry _ => by simp [Entry.written,member,quote]
  have longer := joined_longer (entries.map fun entry => member entry.1 entry.2.1) fun text inside => by
    obtain ⟨entry,_,rfl⟩ := List.mem_map.mp inside
    exact List.cons_ne_nil _ _
  rw [texts,List.map_map,List.length_map] at read
  rw [List.length_map] at longer
  refine parse_reads read ?_
  simp only [braced,List.length_cons,List.length_append]
  omega

theorem reads_one : Reads ['1'] (.number false 1 0) := by
  intro fuel rest delimited
  have last : ∀ c tail, rest = c :: tail → c.isDigit = false ∧ c ≠ '.' ∧ c ≠ 'e' ∧ c ≠ 'E' := by
    intro c tail its
    rcases delimited c tail its with rfl | rfl | rfl <;> decide
  have number : readNumber ('1' :: rest) = some (.number false 1 0,rest) := by
    cases rest with
    | nil => rfl
    | cons c tail =>
        obtain ⟨plain,point,exponent,exponent'⟩ := last c tail rfl
        have digits : ('1' :: c :: tail).takeWhile Char.isDigit = ['1'] := by simp [plain]
        have after : ('1' :: c :: tail).dropWhile Char.isDigit = c :: tail := by simp [plain]
        simp [readNumber,digits,after,readFraction,readExponent,point,exponent,exponent',valueOfDigits]
  rw [List.singleton_append,parseValue,skip_solid rfl]
  exact number

end Payable.JsonParse
