import Payable.Foundation.Text
import Mathlib.Data.List.Sort
import Mathlib.Data.List.Lex

namespace Payable.JsonText

def isNumeral (c : Char) : Bool := c.isDigit || ['-','+','.','e'].contains c

-- A finite number is known by the text it converts to.
structure Numeral where
  text : List Char
  numeral : text ≠ [] ∧ ∀ c ∈ text, isNumeral c = true

theorem digits_numeral (n : Nat) : (toString n).toList ≠ [] ∧ ∀ c ∈ (toString n).toList, isNumeral c = true := by
  refine ⟨?_,fun c inside => by simp [isNumeral,Text.decimal_digits n c inside]⟩
  change n.repr.toList ≠ []
  rw [Nat.toList_repr]
  exact Nat.toDigits_ne_nil

def Numeral.ofNat (n : Nat) : Numeral := ⟨(toString n).toList,digits_numeral n⟩

def Numeral.ofInt (n : Int) : Numeral :=
  if n < 0 then
    ⟨'-' :: (toString n.natAbs).toList,nofun,fun c inside => by
      rcases List.mem_cons.mp inside with rfl | inside
      · rfl
      · exact (digits_numeral n.natAbs).2 c inside⟩
  else .ofNat n.natAbs

theorem ofInt_injective {m n : Int} (counted : 0 ≤ m) (counted' : 0 ≤ n) (same : Numeral.ofInt m = Numeral.ofInt n) :
    m = n := by
  rw [Numeral.ofInt,Numeral.ofInt,if_neg (by omega),if_neg (by omega)] at same
  have texts := Text.decimal_injective (Numeral.mk.inj same)
  omega

-- What JSON.parse gives; the members of an object are in the order of the text.
inductive Json where
  | null
  | bool (b : Bool)
  | number (n : Numeral)
  | string (s : String)
  | array (items : List Json)
  | object (members : List (String × Json))

-- Strings compare by UTF-16 code units.
def codeUnits (text : String) : List Nat :=
  text.toList.flatMap fun c =>
    if c.toNat < 65536 then [c.toNat] else [55296 + (c.toNat - 65536) / 1024,56320 + (c.toNat - 65536) % 1024]

variable {α β : Type}

def keyBefore (left right : String × α) : Prop := codeUnits left.1 ≤ codeUnits right.1

instance (left right : String × α) : Decidable (keyBefore left right) := inferInstanceAs (Decidable (_ ≤ _))

def sortByKey (members : List (String × α)) : List (String × α) := members.insertionSort keyBefore

def lowerHex (n : Nat) : Char := Char.ofNat (if n < 10 then 48 + n else 87 + n)

def escape (c : Char) : List Char :=
  if c = '"' then ['\\','"']
  else if c = '\\' then ['\\','\\']
  else if c.toNat = 8 then ['\\','b']
  else if c.toNat = 9 then ['\\','t']
  else if c.toNat = 10 then ['\\','n']
  else if c.toNat = 12 then ['\\','f']
  else if c.toNat = 13 then ['\\','r']
  else if c.toNat < 32 then ['\\','u','0','0',lowerHex (c.toNat / 16),lowerHex (c.toNat % 16)]
  else [c]

def quote (text : String) : List Char := '"' :: (text.toList.flatMap escape ++ ['"'])

-- join(',').
def joined : List (List Char) → List Char
  | [] => []
  | [text] => text
  | text :: rest => text ++ ',' :: joined rest

def bracketed (texts : List (List Char)) : List Char := '[' :: (joined texts ++ [']'])

def braced (texts : List (List Char)) : List Char := '{' :: (joined texts ++ ['}'])

def member (key : String) (text : List Char) : List Char := quote key ++ ':' :: text

mutual
def render : Json → List Char
  | .null => ['n','u','l','l']
  | .bool true => ['t','r','u','e']
  | .bool false => ['f','a','l','s','e']
  | .number n => n.text
  | .string s => quote s
  | .array items => bracketed (renderItems items)
  | .object members => braced (renderMembers members)

def renderItems : List Json → List (List Char)
  | [] => []
  | item :: rest => render item :: renderItems rest

def renderMembers : List (String × Json) → List (List Char)
  | [] => []
  | (key,value) :: rest => member key (render value) :: renderMembers rest
end

-- The value with the members of every object in the order of their keys.
mutual
def normal : Json → Json
  | .null => .null
  | .bool b => .bool b
  | .number n => .number n
  | .string s => .string s
  | .array items => .array (normalItems items)
  | .object members => .object (sortByKey (normalMembers members))

def normalItems : List Json → List Json
  | [] => []
  | item :: rest => normal item :: normalItems rest

def normalMembers : List (String × Json) → List (String × Json)
  | [] => []
  | (key,value) :: rest => (key,normal value) :: normalMembers rest
end

theorem renderItems_map (items : List Json) : renderItems items = items.map render := by
  induction items with
  | nil => rfl
  | cons item rest ih => rw [renderItems,ih,List.map_cons]

theorem renderMembers_map (members : List (String × Json)) :
    renderMembers members = members.map fun entry => member entry.1 (render entry.2) := by
  induction members with
  | nil => rfl
  | cons entry rest ih => rw [renderMembers,ih,List.map_cons]

theorem normalMembers_map (members : List (String × Json)) :
    normalMembers members = members.map fun entry => (entry.1,normal entry.2) := by
  induction members with
  | nil => rfl
  | cons entry rest ih => rw [normalMembers,ih,List.map_cons]

theorem Json.induction {motive : Json → Prop} (null : motive .null) (bool : ∀ b, motive (.bool b))
    (number : ∀ n, motive (.number n)) (string : ∀ s, motive (.string s))
    (array : ∀ items, (∀ item ∈ items, motive item) → motive (.array items))
    (object : ∀ members, (∀ entry ∈ members, motive entry.2) → motive (.object members)) (value : Json) : motive value :=
  @Json.rec motive (fun items => ∀ item ∈ items, motive item) (fun members => ∀ entry ∈ members, motive entry.2)
    (fun entry => motive entry.2) null bool number string array object (by simp)
    (fun item rest one others => by simpa using ⟨one,others⟩) (by simp)
    (fun entry rest one others => by
      intro other inside
      rcases List.mem_cons.mp inside with rfl | inside
      · exact one
      · exact others other inside)
    (fun _ _ one => one) value

section Cutting

-- What can follow a value in a text.
def Delimited (rest : List Char) : Prop := ∀ c tail, rest = c :: tail → c = ',' ∨ c = ']' ∨ c = '}'

theorem delimited_cons (its : c = ',' ∨ c = ']' ∨ c = '}') : Delimited (c :: tail) := by
  intro other _ same
  cases same
  exact its

theorem escape_head (c : Char) : ∃ first rest, escape c = first :: rest ∧ first ≠ '"' := by
  unfold escape
  split
  · exact ⟨_,_,rfl,by decide⟩
  · rename_i plain
    split_ifs <;> first | exact ⟨_,_,rfl,plain⟩ | exact ⟨_,_,rfl,by decide⟩

def hexValue (c : Char) : Nat := if c.toNat < 58 then c.toNat - 48 else c.toNat - 87

theorem hexValue_lowerHex : n < 16 → hexValue (lowerHex n) = n := by
  have checked : ∀ n < 16, hexValue (lowerHex n) = n := by decide
  exact checked n

-- One character read back from the start of a text.
def readChar : List Char → Option (Char × List Char)
  | '\\' :: 'b' :: rest => some (Char.ofNat 8,rest)
  | '\\' :: 't' :: rest => some (Char.ofNat 9,rest)
  | '\\' :: 'n' :: rest => some (Char.ofNat 10,rest)
  | '\\' :: 'f' :: rest => some (Char.ofNat 12,rest)
  | '\\' :: 'r' :: rest => some (Char.ofNat 13,rest)
  | '\\' :: 'u' :: _ :: _ :: high :: low :: rest => some (Char.ofNat (16 * hexValue high + hexValue low),rest)
  | '\\' :: c :: rest => some (c,rest)
  | c :: rest => some (c,rest)
  | [] => none

theorem readChar_escape (c : Char) (rest : List Char) : readChar (escape c ++ rest) = some (c,rest) := by
  have code : ∀ n, c.toNat = n → Char.ofNat n = c := fun n its => its ▸ Char.ofNat_toNat c
  by_cases quoted : c = '"'
  · rw [quoted]
    rfl
  by_cases slash : c = '\\'
  · rw [slash]
    rfl
  by_cases backspace : c.toNat = 8
  · simp [escape,quoted,slash,backspace,readChar]
    exact code 8 backspace
  by_cases tab : c.toNat = 9
  · simp [escape,quoted,slash,tab,readChar]
    exact code 9 tab
  by_cases newline : c.toNat = 10
  · simp [escape,quoted,slash,newline,readChar]
    exact code 10 newline
  by_cases feed : c.toNat = 12
  · simp [escape,quoted,slash,feed,readChar]
    exact code 12 feed
  by_cases carriage : c.toNat = 13
  · simp [escape,quoted,slash,carriage,readChar]
    exact code 13 carriage
  by_cases control : c.toNat < 32
  · have high := hexValue_lowerHex (show c.toNat / 16 < 16 by omega)
    have low := hexValue_lowerHex (show c.toNat % 16 < 16 by omega)
    have whole : 16 * (c.toNat / 16) + c.toNat % 16 = c.toNat := Nat.div_add_mod ..
    simp [escape,quoted,slash,backspace,tab,newline,feed,carriage,control,readChar,high,low,whole]
  · have plain : escape c = [c] := by simp [escape,quoted,slash,backspace,tab,newline,feed,carriage,control]
    rw [plain,List.singleton_append]
    unfold readChar
    split <;> simp_all

-- No escape begins another.
theorem escape_cut {c d : Char} (same : escape c ++ rest = escape d ++ rest') : c = d ∧ rest = rest' := by
  have read := (readChar_escape c rest).symm.trans (same ▸ readChar_escape d rest')
  simpa using read

theorem quote_cut {s t : String} (same : quote s ++ rest = quote t ++ rest') : s = t ∧ rest = rest' := by
  have cut : ∀ x y : List Char, x.flatMap escape ++ '"' :: rest = y.flatMap escape ++ '"' :: rest' → x = y ∧ rest = rest' := by
    intro x
    induction x with
    | nil =>
        intro y equal
        cases y with
        | nil => exact ⟨rfl,(List.cons.inj equal).2⟩
        | cons d y =>
            obtain ⟨first,more,shape,plain⟩ := escape_head d
            rw [List.flatMap_cons,shape] at equal
            exact absurd (List.cons.inj equal).1.symm plain
    | cons c x ih =>
        intro y equal
        cases y with
        | nil =>
            obtain ⟨first,more,shape,plain⟩ := escape_head c
            rw [List.flatMap_cons,shape] at equal
            exact absurd (List.cons.inj equal).1 plain
        | cons d y =>
            rw [List.flatMap_cons,List.flatMap_cons,List.append_assoc,List.append_assoc] at equal
            obtain ⟨one,others⟩ := escape_cut equal
            obtain ⟨tail,after⟩ := ih y others
            exact ⟨by rw [one,tail],after⟩
  have body : s.toList.flatMap escape ++ '"' :: rest = t.toList.flatMap escape ++ '"' :: rest' := by
    simpa [quote] using same
  obtain ⟨chars,after⟩ := cut _ _ body
  exact ⟨String.toList_inj.mp chars,after⟩

theorem numeral_cut {x y : List Char} (numeral : ∀ c ∈ x, isNumeral c = true) (numeral' : ∀ c ∈ y, isNumeral c = true)
    (delimited : Delimited rest) (delimited' : Delimited rest') (same : x ++ rest = y ++ rest') : x = y ∧ rest = rest' := by
  induction x generalizing y with
  | nil =>
      cases y with
      | nil => exact ⟨rfl,same⟩
      | cons d y =>
          have its := numeral' d List.mem_cons_self
          rcases delimited d (y ++ rest') same with rfl | rfl | rfl <;> exact absurd its (by decide)
  | cons c x ih =>
      cases y with
      | nil =>
          have its := numeral c List.mem_cons_self
          rcases delimited' c (x ++ rest) same.symm with rfl | rfl | rfl <;> exact absurd its (by decide)
      | cons d y =>
          obtain ⟨head,tail⟩ := List.cons.inj same
          obtain ⟨equal,after⟩ := ih (fun c inside => numeral c (List.mem_cons_of_mem _ inside))
            (fun c inside => numeral' c (List.mem_cons_of_mem _ inside)) tail
          exact ⟨by rw [head,equal],after⟩

-- The kind of a value shows in its first character.
def opens : Json → Char → Bool
  | .null,c => c == 'n'
  | .bool b,c => c == if b then 't' else 'f'
  | .number _,c => isNumeral c
  | .string _,c => c == '"'
  | .array _,c => c == '['
  | .object _,c => c == '{'

theorem render_opens (value : Json) : ∃ c tail, render value = c :: tail ∧ opens value c = true := by
  cases value with
  | null => exact ⟨_,_,rfl,rfl⟩
  | bool b => cases b <;> exact ⟨_,_,rfl,rfl⟩
  | number n =>
      obtain ⟨text,nonempty,numeral⟩ := n
      cases text with
      | nil => exact absurd rfl nonempty
      | cons c tail => exact ⟨c,tail,rfl,numeral c List.mem_cons_self⟩
  | string s => exact ⟨_,_,rfl,rfl⟩
  | array items => exact ⟨_,_,rfl,rfl⟩
  | object members => exact ⟨_,_,rfl,rfl⟩

def Cut (write : α → List Char) (a : α) : Prop := ∀ b rest rest', Delimited rest → Delimited rest' →
  write a ++ rest = write b ++ rest' → a = b ∧ rest = rest'

-- Entries cut one by one, up to the closing bracket.
theorem joined_cut {write : α → List Char} {close : Char} (closing : close = ']' ∨ close = '}') (entries : List α)
    (cut : ∀ a ∈ entries, Cut write a) (opened : ∀ a, ∃ c tail, write a = c :: tail ∧ c ≠ close) :
    ∀ others rest rest', joined (entries.map write) ++ close :: rest = joined (others.map write) ++ close :: rest' →
      entries = others ∧ rest = rest' := by
  have tailed : ∀ (a : α) (more : List α) rest, ∃ after, joined ((a :: more).map write) ++ close :: rest = write a ++ after ∧
      Delimited after ∧ (more = [] → after = close :: rest) ∧
      (more ≠ [] → after = ',' :: (joined (more.map write) ++ close :: rest)) := by
    intro a more rest
    have ends : close = ',' ∨ close = ']' ∨ close = '}' := .inr closing
    cases more with
    | nil => exact ⟨close :: rest,rfl,delimited_cons ends,fun _ => rfl,fun some => absurd rfl some⟩
    | cons b more =>
        refine ⟨',' :: (joined ((b :: more).map write) ++ close :: rest),?_,delimited_cons (.inl rfl),nofun,fun _ => rfl⟩
        simp [joined]
  have comma : close ≠ ',' := by rcases closing with rfl | rfl <;> decide
  induction entries with
  | nil =>
      intro others rest rest' same
      cases others with
      | nil => exact ⟨rfl,(List.cons.inj same).2⟩
      | cons b others =>
          obtain ⟨after,shape,_⟩ := tailed b others rest'
          obtain ⟨c,tail,first,apart⟩ := opened b
          rw [shape,first] at same
          exact absurd (List.cons.inj same).1.symm apart
  | cons a entries ih =>
      intro others rest rest' same
      obtain ⟨after,shape,delimited,last,continued⟩ := tailed a entries rest
      cases others with
      | nil =>
          obtain ⟨c,tail,first,apart⟩ := opened a
          rw [shape,first] at same
          exact absurd (List.cons.inj same).1 apart
      | cons b others =>
          obtain ⟨after',shape',delimited',last',continued'⟩ := tailed b others rest'
          rw [shape,shape'] at same
          obtain ⟨rfl,equal⟩ := cut a List.mem_cons_self b after after' delimited delimited' same
          by_cases done : entries = []
          · by_cases done' : others = []
            · rw [last done,last' done'] at equal
              exact ⟨by rw [done,done'],(List.cons.inj equal).2⟩
            · rw [last done,continued' done'] at equal
              exact absurd (List.cons.inj equal).1 comma
          · by_cases done' : others = []
            · rw [continued done,last' done'] at equal
              exact absurd (List.cons.inj equal).1.symm comma
            · rw [continued done,continued' done'] at equal
              obtain ⟨same_rest,after_rest⟩ := ih (fun a inside => cut a (List.mem_cons_of_mem _ inside)) others rest rest'
                (List.cons.inj equal).2
              exact ⟨by rw [same_rest],after_rest⟩

theorem member_cut {entry : String × Json} (cut : Cut render entry.2) :
    Cut (fun entry : String × Json => member entry.1 (render entry.2)) entry := by
  intro other rest rest' delimited delimited' same
  simp only [member,List.append_assoc] at same
  obtain ⟨key,after⟩ := quote_cut same
  obtain ⟨value,rests⟩ := cut other.2 rest rest' delimited delimited' (List.cons.inj after).2
  exact ⟨Prod.ext key value,rests⟩

def sameKind : Json → Json → Bool
  | .null,.null | .number _,.number _ | .string _,.string _ | .array _,.array _ | .object _,.object _ => true
  | .bool b,.bool b' => b == b'
  | _,_ => false

theorem opens_sameKind (one : opens a c = true) (other : opens b c = true) : sameKind a b = true := by
  have literal : ∀ d, c = d → isNumeral d = false → isNumeral c ≠ true := by
    rintro d rfl plain
    simp [plain]
  rcases a with _ | ⟨_ | _⟩ | _ | _ | _ | _ <;> rcases b with _ | ⟨_ | _⟩ | _ | _ | _ | _ <;>
    simp only [opens,beq_iff_eq] at one other <;> first
    | rfl
    | exact absurd other (literal _ one rfl)
    | exact absurd one (literal _ other rfl)
    | exact absurd (one.symm.trans other) (by decide)

theorem render_sameKind (same : render a ++ rest = render b ++ rest') : sameKind a b = true := by
  obtain ⟨c,tail,first,one⟩ := render_opens a
  obtain ⟨d,tail',first',other⟩ := render_opens b
  rw [first,first'] at same
  exact opens_sameKind one ((List.cons.inj same).1 ▸ other)

theorem render_cut (value : Json) : Cut render value := by
  induction value using Json.induction with
  | null =>
      intro b rest rest' _ _ same
      cases b with
      | null => exact ⟨rfl,by simpa [render] using same⟩
      | _ => cases render_sameKind same
  | bool flag =>
      intro b rest rest' _ _ same
      cases b with
      | bool flag' =>
          have equal : flag = flag' := by simpa [sameKind] using render_sameKind same
          rw [equal] at same
          exact ⟨by rw [equal],List.append_cancel_left same⟩
      | _ => cases render_sameKind same
  | number n =>
      intro b rest rest' delimited delimited' same
      cases b with
      | number n' =>
          obtain ⟨text,after⟩ := numeral_cut n.numeral.2 n'.numeral.2 delimited delimited' same
          obtain ⟨_,_⟩ := n
          obtain ⟨_,_⟩ := n'
          exact ⟨by simpa using text,after⟩
      | _ => cases render_sameKind same
  | string s =>
      intro b rest rest' _ _ same
      cases b with
      | string t =>
          obtain ⟨text,after⟩ := quote_cut same
          exact ⟨by rw [text],after⟩
      | _ => cases render_sameKind same
  | array items ih =>
      intro b rest rest' _ _ same
      cases b with
      | array others =>
          have opened : ∀ item, ∃ c tail, render item = c :: tail ∧ c ≠ ']' := by
            intro item
            obtain ⟨c,tail,first,its⟩ := render_opens item
            refine ⟨c,tail,first,?_⟩
            rintro rfl
            cases item with
            | bool flag => cases flag <;> cases its
            | _ => cases its
          have body : joined (items.map render) ++ ']' :: rest = joined (others.map render) ++ ']' :: rest' := by
            simpa [render,bracketed,renderItems_map] using same
          obtain ⟨equal,after⟩ := joined_cut (.inl rfl) items ih opened others rest rest' body
          exact ⟨by rw [equal],after⟩
      | _ => cases render_sameKind same
  | object members ih =>
      intro b rest rest' _ _ same
      cases b with
      | object others =>
          have opened : ∀ entry : String × Json, ∃ c tail, member entry.1 (render entry.2) = c :: tail ∧ c ≠ '}' :=
            fun entry => ⟨'"',_,rfl,by decide⟩
          have body : joined (members.map fun entry => member entry.1 (render entry.2)) ++ '}' :: rest =
              joined (others.map fun entry => member entry.1 (render entry.2)) ++ '}' :: rest' := by
            simpa [render,braced,renderMembers_map] using same
          obtain ⟨equal,after⟩ := joined_cut (.inr rfl) members (fun entry inside => member_cut (ih entry inside)) opened
            others rest rest' body
          exact ⟨by rw [equal],after⟩
      | _ => cases render_sameKind same

theorem render_injective (same : render a = render b) : a = b := by
  have ended : Delimited [] := nofun
  exact (render_cut a b [] [] ended ended (by simpa using same)).1

end Cutting

end Payable.JsonText
