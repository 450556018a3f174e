import Payable.Net.Parsing

namespace Payable.Net
open IpTexts
open JsonText (lowerHex)

-- What the prefixes of embeddedIpv4 leave, by pieces.
theorem afterPrefix_iff : afterPrefix host = some rest ↔
    host.splitOn ':' = [[],[],"ffff".toList] ++ rest.splitOn ':' ∨
      host.splitOn ':' = ["64".toList,"ff9b".toList,[]] ++ rest.splitOn ':' := by
  have mapped : ("::ffff:".toList ++ rest).splitOn ':' = [[],[],"ffff".toList] ++ rest.splitOn ':' :=
    List.splitOn_append_cons_self (a := ':') "::ffff".toList rest
  have translated : ("64:ff9b::".toList ++ rest).splitOn ':' = ["64".toList,"ff9b".toList,[]] ++ rest.splitOn ':' :=
    List.splitOn_append_cons_self (a := ':') "64:ff9b:".toList rest
  rw [← mapped,← translated,← split_eq,← split_eq,← isPrefixOf?_iff,← isPrefixOf?_iff]
  unfold afterPrefix
  cases first : "::ffff:".toList.isPrefixOf? host with
  | none => simp
  | some other =>
      rw [Option.some_or]
      constructor
      · exact .inl
      · rintro (same | same)
        · exact same
        · rw [isPrefixOf?_iff] at first same
          rw [first] at same
          cases same

def octetsOf (high low : Nat) : Octets := ⟨high / 2 ^ 8 % 256,high % 256,low / 2 ^ 8 % 256,low % 256⟩

def embeddedTail : List (List Char) → Option Octets
  | [rest] => if isDotted rest then parseIpv4 rest else none
  | [first,second] => if isShortHex first && isShortHex second then some (octetsOf (parseInt first 16) (parseInt second 16)) else none
  | _ => none

theorem isDotted_colon (colon : ':' ∈ rest) : isDotted rest = false := by
  rw [← joined_split '.' rest] at colon
  rcases mem_joined colon with same | ⟨segment,inside,its⟩
  · cases same
  · refine Bool.eq_false_iff.mpr fun dotted => ?_
    simp only [isDotted,Bool.and_eq_true,List.all_eq_true] at dotted
    cases (isAll_mem (dotted.2 segment inside)).2 ':' its

theorem embedded_tail (after : afterPrefix host = some rest) : embeddedIpv4 host = embeddedTail (rest.splitOn ':') := by
  have whole := joined_split ':' rest
  simp only [embeddedIpv4,after]
  match pieces : rest.splitOn ':' with
  | [] => exact absurd pieces (List.splitOn_ne_nil ':' rest)
  | [only] =>
      rw [pieces,List.intercalate_singleton] at whole
      rw [whole,embeddedTail]
  | [first,second] =>
      have colon : ':' ∈ rest := by
        rw [← whole,pieces,List.intercalate_cons_cons]
        simp
      rw [isDotted_colon colon]
      rfl
  | first :: second :: third :: more =>
      have colon : ':' ∈ rest := by
        rw [← whole,pieces,List.intercalate_cons_cons]
        simp
      rw [isDotted_colon colon]
      rfl

theorem isWrittenOut_iff : isWrittenOutLoopback host = true ↔
    ∃ last, host.splitOn ':' = List.replicate 7 ['0'] ++ [last] ∧ last.dropWhile (· == '0') = ['1'] := by
  have zeros : ∀ rest, ("0:0:0:0:0:0:0:".toList ++ rest).splitOn ':' = List.replicate 7 ['0'] ++ rest.splitOn ':' := fun rest =>
    List.splitOn_append_cons_self (a := ':') "0:0:0:0:0:0:0".toList rest
  constructor
  · intro written
    obtain ⟨rest,found,ends⟩ := (Option.any_eq_true _ _).mp written
    rw [beq_iff_eq] at ends
    rw [isPrefixOf?_iff.mp found,zeros]
    have clear : ':' ∉ rest := by
      rw [← List.takeWhile_append_dropWhile (p := (· == '0')) (l := rest),ends]
      intro member
      rcases List.mem_append.mp member with front | last
      · cases List.mem_takeWhile_imp (p := (· == '0')) front
      · cases List.mem_singleton.mp last
    exact ⟨rest,by rw [List.splitOn_eq_singleton clear],ends⟩
  · intro ⟨last,pieces,ends⟩
    have same : host = "0:0:0:0:0:0:0:".toList ++ last := by
      rw [← joined_split ':' host,pieces]
      simp [List.replicate]
    refine (Option.any_eq_true _ _).mpr ⟨last,isPrefixOf?_iff.mpr same,?_⟩
    rw [ends]
    rfl

theorem local_first (its : localPrefixes.any (·.isPrefixOf host) = true) : host.head? = some 'f' := by
  simp only [List.any_eq_true,List.isPrefixOf_iff_prefix] at its
  obtain ⟨front,member,rest,rfl⟩ := its
  revert member front
  simp only [localPrefixes,List.mem_cons,List.not_mem_nil,or_false]
  rintro _ (rfl | rfl | rfl | rfl | rfl | rfl) <;> rfl

theorem afterPrefix_first (after : afterPrefix host = some rest) : host.head? ≠ some 'f' := by
  unfold afterPrefix at after
  rcases Option.or_eq_some_iff.mp after with mapped | ⟨_,translated⟩
  · rw [isPrefixOf?_iff.mp mapped]
    simp
  · rw [isPrefixOf?_iff.mp translated]
    simp

theorem isBlockedIpv6_iff (zoneless : host.takeWhile (· ≠ '%') = host) : isBlockedIpv6 host = true ↔
    host.splitOn ':' = [[],[],['1']] ∨ host.splitOn ':' = [[],[],[]] ∨ isWrittenOutLoopback host = true ∨
      (∃ octets, embeddedIpv4 host = some octets ∧ isBlockedIpv4 octets = true) ∨
        localPrefixes.any (·.isPrefixOf host) = true := by
  have loopback : "::1".toList.splitOn ':' = [[],[],['1']] := by decide
  have unspecified : "::".toList.splitOn ':' = [[],[],[]] := by decide
  rw [← loopback,← unspecified,← split_eq,← split_eq]
  simp only [isBlockedIpv6,zoneless]
  split
  · rename_i named
    simp only [Bool.or_eq_true,decide_eq_true_eq] at named
    refine iff_of_true rfl ?_
    rcases named with (one | none_) | written
    · exact .inl one
    · exact .inr (.inl none_)
    · exact .inr (.inr (.inl written))
  · rename_i unnamed
    simp only [Bool.or_eq_true,decide_eq_true_eq,not_or] at unnamed
    cases embedded : embeddedIpv4 host with
    | none =>
        simp only [unnamed.1.1,unnamed.1.2,unnamed.2,false_or,reduceCtorEq,false_and,exists_false]
    | some octets =>
        have foreign : localPrefixes.any (·.isPrefixOf host) = false := by
          refine Bool.eq_false_iff.mpr fun its => ?_
          cases after : afterPrefix host with
          | none => simp [embeddedIpv4,after] at embedded
          | some rest => exact afterPrefix_first after (local_first its)
        simp only [unnamed.1.1,unnamed.1.2,unnamed.2,false_or,foreign,Option.some.injEq,exists_eq_left',Bool.false_eq_true,or_false]

theorem number_nil (base : Nat) : number base [] = 0 := rfl

theorem value_cases (group : Group) : ∃ a < 16, group.plain = [a] ∧ group.value = a ∨
    ∃ b < 16, group.plain = [a,b] ∧ group.value = a * 16 + b ∨
    ∃ c < 16, group.plain = [a,b,c] ∧ group.value = a * 256 + b * 16 + c ∨
    ∃ d < 16, group.plain = [a,b,c,d] ∧ group.value = a * 4096 + b * 256 + c * 16 + d := by
  obtain ⟨a,first,one | ⟨b,second,two | ⟨c,third,three | ⟨d,fourth,four⟩⟩⟩⟩ := plain_cases group
  · exact ⟨a,first,.inl ⟨one,by simp [Group.value,one,number_cons,number_nil]⟩⟩
  · exact ⟨a,first,.inr ⟨b,second,.inl ⟨two,by simp [Group.value,two,number_cons,number_nil]⟩⟩⟩
  · refine ⟨a,first,.inr ⟨b,second,.inr ⟨c,third,.inl ⟨three,?_⟩⟩⟩⟩
    simp [Group.value,three,number_cons,number_nil,Nat.add_assoc]
  · refine ⟨a,first,.inr ⟨b,second,.inr ⟨c,third,.inr ⟨d,fourth,four,?_⟩⟩⟩⟩
    simp [Group.value,four,number_cons,number_nil,Nat.add_assoc]

theorem value_ffff (group : Group) : group.value = 0xffff ↔ group.plain = [15,15,15,15] := by
  obtain ⟨a,_,⟨plain,value⟩ | ⟨b,_,⟨plain,value⟩ | ⟨c,_,⟨plain,value⟩ | ⟨d,_,plain,value⟩⟩⟩⟩ := value_cases group <;>
    rw [plain,value] <;> simp <;> omega

theorem lowerHex_zero : ∀ n < 16, (lowerHex n == '0') = (n == 0) := by decide

theorem dropZeros {digits : List Nat} (small : ∀ digit ∈ digits, digit < 16) :
    (digits.map lowerHex).dropWhile (· == '0') = (digits.dropWhile (· == 0)).map lowerHex := by
  induction digits with
  | nil => rfl
  | cons digit rest ih =>
      have its := lowerHex_zero digit (small digit List.mem_cons_self)
      rw [List.map_cons,List.dropWhile_cons,List.dropWhile_cons,its,ih fun other member => small other (List.mem_cons_of_mem _ member)]
      split <;> rfl

theorem value_one (group : Group) : (low group).dropWhile (· == '0') = ['1'] ↔ group.value = 1 := by
  have one : ∀ n < 16, lowerHex n = '1' ↔ n = 1 := by decide
  rw [low,dropZeros (plain_small group)]
  obtain ⟨a,first,⟨plain,value⟩ | ⟨b,second,⟨plain,value⟩ | ⟨c,third,⟨plain,value⟩ | ⟨d,fourth,plain,value⟩⟩⟩⟩ := value_cases group <;>
    rw [plain,value] <;> simp only [List.dropWhile_cons,List.dropWhile_nil] <;> repeat' split
  all_goals simp_all
  all_goals omega

-- The first digits that the last check looks for.
def startsLocal : List Nat → Bool
  | first :: second :: rest =>
    first == 15 && (second == 12 || second == 13 || second == 14 && rest.head?.any fun third => 8 ≤ third && third ≤ 11)
  | _ => false

theorem lowerHex_is : ∀ n < 16, ('f' == lowerHex n) = (n == 15) ∧ ('c' == lowerHex n) = (n == 12) ∧ ('d' == lowerHex n) = (n == 13) ∧
    ('e' == lowerHex n) = (n == 14) ∧ ('8' == lowerHex n) = (n == 8) ∧ ('9' == lowerHex n) = (n == 9) ∧
    ('a' == lowerHex n) = (n == 10) ∧ ('b' == lowerHex n) = (n == 11) := by decide

theorem local_prefix (group : Group) (ends : rest = [] ∨ ∃ more, rest = ':' :: more) :
    localPrefixes.any (·.isPrefixOf (low group ++ rest)) = startsLocal group.plain := by
  have fc : "fc".toList = ['f','c'] := rfl
  have fd : "fd".toList = ['f','d'] := rfl
  have fe8 : "fe8".toList = ['f','e','8'] := rfl
  have fe9 : "fe9".toList = ['f','e','9'] := rfl
  have fea : "fea".toList = ['f','e','a'] := rfl
  have feb : "feb".toList = ['f','e','b'] := rfl
  unfold low localPrefixes
  rw [fc,fd,fe8,fe9,fea,feb,Bool.eq_iff_iff]
  obtain ⟨a,first,plain | ⟨b,second,plain | ⟨c,third,plain | ⟨d,fourth,plain⟩⟩⟩⟩ := plain_cases group <;> rw [plain]
  · have isA := lowerHex_is a first
    rcases ends with rfl | ⟨more,rfl⟩ <;> simp [List.isPrefixOf,isA,startsLocal]
  · have isA := lowerHex_is a first
    have isB := lowerHex_is b second
    rcases ends with rfl | ⟨more,rfl⟩ <;> simp [List.isPrefixOf,isA,isB,startsLocal] <;> omega
  · have isA := lowerHex_is a first
    have isB := lowerHex_is b second
    have isC := lowerHex_is c third
    simp [List.isPrefixOf,isA,isB,isC,startsLocal]
    omega
  · have isA := lowerHex_is a first
    have isB := lowerHex_is b second
    have isC := lowerHex_is c third
    simp [List.isPrefixOf,isA,isB,isC,startsLocal]
    omega

-- A first group that starts so, written without a leading zero: fc, fd, fcX, fdX, fcXX, fdXX,
-- fe8 to feb and fe8X to febX.
def isLocalGroup (value : Nat) : Bool :=
  value == 0xfc || value == 0xfd || 0xfc0 ≤ value && value ≤ 0xfdf || 0xfc00 ≤ value && value ≤ 0xfdff ||
    0xfe8 ≤ value && value ≤ 0xfeb || 0xfe80 ≤ value && value ≤ 0xfebf

theorem startsLocal_iff (group : Group) :
    startsLocal group.plain = true ↔ isLocalGroup group.value = true ∧ group.plain.head? ≠ some 0 := by
  obtain ⟨a,_,⟨plain,value⟩ | ⟨b,_,⟨plain,value⟩ | ⟨c,_,⟨plain,value⟩ | ⟨d,_,plain,value⟩⟩⟩⟩ := value_cases group <;>
    rw [plain,value] <;> simp [startsLocal,isLocalGroup] <;> omega

theorem hex_value : ∀ n < 16, isHex (lowerHex n) = true ∧ digitValue (lowerHex n) = n := by decide

theorem decimal_value : ∀ n : Fin 10, (IsoDates.digit n.val).isDigit = true ∧ digitValue (IsoDates.digit n.val) = n.val ∧
    IsoDates.digit n.val ≠ 'x' ∧ (IsoDates.digit n.val = '0' → n = 0) := by decide

theorem parseInt_low (group : Group) : parseInt (low group) 16 = group.value := by
  rw [parseInt,low,List.map_map,Group.value]
  congr 1
  exact (List.map_congr_left fun n member => (hex_value n (plain_small group n member)).2).trans (List.map_id _)

theorem isShortHex_low (group : Group) : isShortHex (low group) = true := by
  have hex : ∀ c ∈ low group, isHex c = true := by
    intro c member
    obtain ⟨n,its,rfl⟩ := List.mem_map.mp member
    exact (hex_value n (plain_small group n its)).1
  have length : (low group).length ≤ 4 := by
    rw [low,List.length_map,Group.plain,List.length_map]
    exact group.short
  simp only [isShortHex,isAll,Bool.and_eq_true,Bool.not_eq_true',List.isEmpty_eq_false_iff,List.all_eq_true,decide_eq_true_eq]
  exact ⟨⟨low_nonempty group,hex⟩,length⟩

theorem decimal_nonempty (decimal : Decimal) : decimal.print ≠ [] := by
  simp only [Decimal.print,ne_eq,List.map_eq_nil_iff]
  exact decimal.nonempty

theorem decimal_isAll (decimal : Decimal) : isAll Char.isDigit decimal.print = true := by
  simp only [isAll,Bool.and_eq_true,Bool.not_eq_true',List.isEmpty_eq_false_iff,List.all_eq_true]
  refine ⟨decimal_nonempty decimal,?_⟩
  intro c member
  obtain ⟨digit,_,rfl⟩ := List.mem_map.mp member
  exact (decimal_value digit).1

-- A decimal number without leading zeros is read as one.
theorem parseUint_decimal (decimal : Decimal) : parseUint decimal.print = some decimal.value := by
  have value : parseInt decimal.print 10 = decimal.value := by
    rw [parseInt,Decimal.print,List.map_map,Decimal.value]
    congr 1
    exact List.map_congr_left fun digit _ => (decimal_value digit).2.1
  have unhex : (['0','x'].isPrefixOf? decimal.print).any (isAll isHex) = false := by
    refine Bool.eq_false_iff.mpr fun hex => ?_
    obtain ⟨rest,found,_⟩ := (Option.any_eq_true _ _).mp hex
    have member : 'x' ∈ decimal.print := by
      rw [isPrefixOf?_iff.mp found]
      simp
    obtain ⟨digit,_,same⟩ := List.mem_map.mp member
    exact (decimal_value digit).2.2.1 same
  have unoctal : (['0'].isPrefixOf? decimal.print).any (isAll isOctal) = false := by
    refine Bool.eq_false_iff.mpr fun octal => ?_
    obtain ⟨rest,found,all⟩ := (Option.any_eq_true _ _).mp octal
    have whole := isPrefixOf?_iff.mp found
    cases digits : decimal.digits with
    | nil => exact decimal.nonempty digits
    | cons first more =>
        rw [Decimal.print,digits,List.map_cons,List.singleton_append,List.cons.injEq] at whole
        have zero := (decimal_value first).2.2.2 whole.1
        have alone := decimal.plain (by rw [digits,List.head?_cons,zero])
        rw [digits,List.cons.injEq] at alone
        rw [alone.2,List.map_nil] at whole
        exact (isAll_mem all).1 whole.2.symm
  rw [parseUint,unhex,unoctal,decimal_isAll,value]
  rfl

theorem quad_split (quad : Quad) : quad.print.splitOn '.' = quad.octets.map (·.print) := by
  refine List.splitOn_intercalate '.' ?_ (List.cons_ne_nil _ _)
  intro segment member its
  obtain ⟨octet,_,rfl⟩ := List.mem_map.mp member
  exact (decimal_piece octet.toDecimal '.' its).2 rfl

theorem quad_dot (quad : Quad) : '.' ∈ quad.print := by
  simp [Quad.print,Quad.octets]

theorem parseIpv4_quad (quad : Quad) : parseIpv4 quad.print =
    some ⟨quad.first.value,quad.second.value,quad.third.value,quad.fourth.value⟩ := by
  have parts : (quad.print.splitOn '.').map parseUint =
      [some quad.first.value,some quad.second.value,some quad.third.value,some quad.fourth.value] := by
    rw [quad_split]
    simp only [Quad.octets,List.map_cons,List.map_nil,parseUint_decimal]
  have dotted : quad.print.contains '.' = true := List.contains_iff_mem.mpr (quad_dot quad)
  have first := quad.first.small
  have second := quad.second.small
  have third := quad.third.small
  have fourth := quad.fourth.small
  simp only [parseIpv4,dotted,if_true,parts]
  rw [if_neg]
  simp only [Bool.or_eq_true,decide_eq_true_eq,not_or]
  omega

theorem isDotted_quad (quad : Quad) : isDotted quad.print = true := by
  rw [isDotted,quad_split]
  simp [Quad.octets,decimal_isAll]

theorem octetsOf_quad (quad : Quad) :
    octetsOf (quad.first.value * 256 + quad.second.value) (quad.third.value * 256 + quad.fourth.value) =
      ⟨quad.first.value,quad.second.value,quad.third.value,quad.fourth.value⟩ := by
  have first := quad.first.small
  have second := quad.second.small
  have third := quad.third.small
  have fourth := quad.fourth.small
  simp only [octetsOf,Octets.mk.injEq]
  omega

def tailOctets : List Nat → Option Octets
  | [high,low] => some (octetsOf high low)
  | _ => none

-- A tail embeds an address when it is two groups long.
theorem embeddedTail_low (tail : Tail) : embeddedTail (orEmpty (lowSegments tail)) = tailOctets tail.values := by
  obtain ⟨groups,quad⟩ := tail
  have undotted : ∀ text, '.' ∉ text → isDotted text = false := by
    intro text clear
    rw [isDotted,List.splitOn_eq_singleton clear]
    rfl
  have dotless : ∀ group, '.' ∉ low group := fun group member => (low_piece group '.' member).2 rfl
  have unhex : ∀ quad : Quad, isShortHex quad.print = false := by
    intro quad
    refine Bool.eq_false_iff.mpr fun short => ?_
    rw [isShortHex,Bool.and_eq_true] at short
    cases (isAll_mem short.1).2 '.' (quad_dot quad)
  match groups,quad with
  | [],none => rfl
  | [],some quad =>
      simp [lowSegments,orEmpty,embeddedTail,Tail.values,tailOctets,Quad.values,isDotted_quad,parseIpv4_quad,octetsOf_quad]
  | [one],none => simp [lowSegments,orEmpty,embeddedTail,Tail.values,tailOctets,undotted _ (dotless one)]
  | [one],some quad => simp [lowSegments,orEmpty,embeddedTail,Tail.values,tailOctets,Quad.values,unhex]
  | [one,two],none => simp [lowSegments,orEmpty,embeddedTail,Tail.values,tailOctets,isShortHex_low,parseInt_low]
  | [one,two],some quad => simp [lowSegments,orEmpty,embeddedTail,Tail.values,tailOctets,Quad.values]
  | one :: two :: three :: more,quad => simp [lowSegments,orEmpty,embeddedTail,Tail.values,tailOctets]

end Payable.Net
