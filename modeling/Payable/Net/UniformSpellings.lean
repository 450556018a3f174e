import Payable.Net.Ipv4Texts

namespace Payable.Net
open IpTexts

-- What is blocked in one spelling at least.
def Guarded : Address → Prop
  | .ipv4 address => isBlockedIpv4 (addressOctets address) = true
  | .ipv6 groups => groups = loopback ∨ groups = unspecified ∨
      (∃ high low, groups = mapped high low ∧ isBlockedIpv4 (octetsOf high low) = true) ∨
      (∃ high low, groups = translated high low ∧ isBlockedIpv4 (octetsOf high low) = true) ∨
      ∃ first, groups.head? = some first ∧ isLocalGroup first = true

-- An address that is blocked in some spelling, or embeds a blocked one in ::ffff:0:0/96, is
-- blocked in this one.
def Uniform (text : AddressText) : Prop :=
  (∃ other : AddressText, other.address = text.address ∧ isBlockedIp (String.ofList other.print) = true) ∨
      (∃ ipv4 : Ipv4Text, isBlockedIp (String.ofList ipv4.print) = true ∧
        text.address = .ipv6 (mapped (ipv4.address / 65536) (ipv4.address % 65536))) →
    isBlockedIp (String.ofList text.print) = true

structure CoveredIpv6 (text : Ipv6Text) : Prop where
  loopback : text.groups = loopback → isLoopbackText text
  unspecified : text.groups = unspecified → isUnspecifiedText text
  mapped : ∀ high low, text.groups = mapped high low → isBlockedIpv4 (octetsOf high low) = true → isMappedText text
  translated : ∀ high low, text.groups = translated high low → isBlockedIpv4 (octetsOf high low) = true → isTranslatedText text
  opens : ∀ first, text.groups.head? = some first → isLocalGroup first = true → opensPlainly text

def Covered : AddressText → Prop
  | .ipv4 text => isBlockedIpv4 (addressOctets text.address) = true → text.leading.length = 0 ∨ text.leading.length = 3
  | .ipv6 text => CoveredIpv6 text

theorem full_head (tail : Tail) (eight : tail.values.length = 8) :
    ∃ group more, tail.groups = group :: more := by
  cases groups : tail.groups with
  | nil =>
      have few : tail.quad.toList.length ≤ 1 := by cases tail.quad <;> simp
      rw [values_length,groups,List.length_nil] at eight
      omega
  | cons group more => exact ⟨group,more,rfl⟩

theorem opened_loopback (right : Tail) : right.quad = none ∧ right.groups.map Group.plain = [[1]] → right.values = [1] := by
  obtain ⟨groups,quad⟩ := right
  rintro ⟨rfl,plain⟩
  match groups with
  | [] => cases plain
  | [group] =>
      have one : group.plain = [1] := by simpa using plain
      simp [Tail.values,value_of_plain,one,number_cons,number_nil]
  | first :: second :: more => simp at plain

theorem ipv6_verdict (text : Ipv6Text) : isBlockedIp (String.ofList text.print) = true ↔
    (text.groups = loopback ∧ isLoopbackText text) ∨ (text.groups = unspecified ∧ isUnspecifiedText text) ∨
      (∃ high low, text.groups = mapped high low ∧ isBlockedIpv4 (octetsOf high low) = true ∧ isMappedText text) ∨
      (∃ high low, text.groups = translated high low ∧ isBlockedIpv4 (octetsOf high low) = true ∧ isTranslatedText text) ∨
      ∃ first, text.groups.head? = some first ∧ isLocalGroup first = true ∧ opensPlainly text := by
  match text with
  | .full tail eight =>
      obtain ⟨group,more,groups⟩ := full_head tail eight
      have head : tail.values.head? = some group.value := by simp [Tail.values,groups]
      rw [full_verdict]
      simp only [Ipv6Text.groups,isUnspecifiedText,isMappedText,isTranslatedText,and_false,exists_const,false_or,head,
        Option.some.injEq,exists_eq_left',opensPlainly,firstGroup,groups,List.head?_cons,startsLocal_iff,forall_eq']
  | .compressed [] right fewer =>
      have groups : (Ipv6Text.compressed [] right fewer).groups =
          List.replicate (8 - right.values.length) 0 ++ right.values := by simp [Ipv6Text.groups]
      have fewer' : right.values.length ≤ 7 := by simpa using fewer
      have head : (Ipv6Text.compressed [] right fewer).groups.head? = some 0 := by
        obtain ⟨count,some_⟩ : ∃ count, 8 - right.values.length = count + 1 := ⟨7 - right.values.length,by omega⟩
        rw [groups,some_,List.replicate_succ]
        rfl
      have last : (∃ first, (Ipv6Text.compressed [] right fewer).groups.head? = some first ∧ isLocalGroup first = true ∧
          opensPlainly (.compressed [] right fewer)) ↔ False := by
        simp [head,isLocalGroup]
      have embedded : (∃ high low, right.values = [0xffff,high,low] ∧ isBlockedIpv4 (octetsOf high low) = true) ↔
          ∃ high low, (Ipv6Text.compressed [] right fewer).groups = mapped high low ∧
            isBlockedIpv4 (octetsOf high low) = true ∧ right.values.length = 3 := by
        constructor
        · rintro ⟨high,low_,values,blocked⟩
          refine ⟨high,low_,?_,blocked,by rw [values]; rfl⟩
          rw [groups,values]
          rfl
        · rintro ⟨high,low_,same,blocked,three⟩
          rw [groups,three] at same
          have apart : List.replicate 5 0 ++ right.values = List.replicate 5 0 ++ [0xffff,high,low_] := same
          exact ⟨high,low_,List.append_cancel_left apart,blocked⟩
      have one : right.quad = none ∧ right.groups.map Group.plain = [[1]] ↔
          (Ipv6Text.compressed [] right fewer).groups = loopback ∧ right.quad = none ∧ right.groups.map Group.plain = [[1]] := by
        refine ⟨fun form => ⟨?_,form⟩,fun its => its.2⟩
        rw [groups,opened_loopback right form]
        rfl
      have none_ : right.groups = [] ∧ right.quad = none ↔
          (Ipv6Text.compressed [] right fewer).groups = unspecified ∧ right.groups = [] ∧ right.quad = none := by
        refine ⟨fun form => ⟨?_,form⟩,fun its => its.2⟩
        rw [groups,Tail.values,form.1,form.2]
        rfl
      rw [opened_verdict,last,embedded,one,none_]
      simp [isLoopbackText,isUnspecifiedText,isMappedText,isTranslatedText]
  | .compressed (group :: more) right fewer =>
      have head : (Ipv6Text.compressed (group :: more) right fewer).groups.head? = some group.value := rfl
      have embedded : (∃ high low, (group :: more).map Group.plain = [[6,4],[15,15,9,11]] ∧ right.values = [high,low] ∧
            isBlockedIpv4 (octetsOf high low) = true) ↔
          ∃ high low, (Ipv6Text.compressed (group :: more) right fewer).groups = translated high low ∧
            isBlockedIpv4 (octetsOf high low) = true ∧ (group :: more).map Group.plain = [[6,4],[15,15,9,11]] ∧
              right.values.length = 2 := by
        constructor
        · rintro ⟨high,low_,plain,values,blocked⟩
          refine ⟨high,low_,?_,blocked,plain,by rw [values]; rfl⟩
          have lefts : (group :: more).map Group.value = [0x64,0xff9b] := by
            have numbers := congrArg (List.map (number 16)) plain
            rw [List.map_map] at numbers
            exact numbers
          have two : (group :: more).length = 2 := by simpa using congrArg List.length plain
          rw [Ipv6Text.groups,lefts,values,two]
          rfl
        · rintro ⟨high,low_,same,blocked,plain,two⟩
          have apart : (group :: more).map Group.value ++
              List.replicate (8 - ((group :: more).length + right.values.length)) 0 ++ right.values =
                [0x64,0xff9b,0,0,0,0] ++ [high,low_] := same
          exact ⟨high,low_,plain,(List.append_inj' apart two).2,blocked⟩
      rw [led_verdict,embedded,startsLocal_iff]
      simp only [head,isLoopbackText,isUnspecifiedText,isMappedText,isTranslatedText,reduceCtorEq,false_and,and_false,
        exists_const,false_or,Option.some.injEq,exists_eq_left',opensPlainly,firstGroup,List.head?_cons,forall_eq']

-- The kinds of addresses are apart.
theorem covered_of_blocked (text : Ipv6Text) (blocked : Guarded (.ipv6 text.groups) → isBlockedIp (String.ofList text.print) = true) :
    CoveredIpv6 text := by
  constructor
  · intro same
    have verdict := (ipv6_verdict text).mp (blocked (.inl same))
    simp [same,loopback,unspecified,mapped,translated,isLocalGroup] at verdict
    exact verdict
  · intro same
    have verdict := (ipv6_verdict text).mp (blocked (.inr (.inl same)))
    simp [same,loopback,unspecified,mapped,translated,isLocalGroup,List.replicate] at verdict
    exact verdict
  · intro high low_ same embedded
    have verdict := (ipv6_verdict text).mp (blocked (.inr (.inr (.inl ⟨high,low_,same,embedded⟩))))
    simp [same,loopback,unspecified,mapped,translated,isLocalGroup,List.replicate] at verdict
    exact verdict.2
  · intro high low_ same embedded
    have verdict := (ipv6_verdict text).mp (blocked (.inr (.inr (.inr (.inl ⟨high,low_,same,embedded⟩)))))
    simp [same,loopback,unspecified,mapped,translated,isLocalGroup,List.replicate] at verdict
    exact verdict.2
  · intro first head local_
    have verdict := (ipv6_verdict text).mp (blocked (.inr (.inr (.inr (.inr ⟨first,head,local_⟩)))))
    rcases verdict with ⟨same,_⟩ | ⟨same,_⟩ | ⟨high,low_,same,_⟩ | ⟨high,low_,same,_⟩ | ⟨_,_,_,opens⟩
    · rw [same] at head
      cases head
      cases local_
    · rw [same] at head
      cases head
      cases local_
    · rw [same] at head
      cases head
      cases local_
    · rw [same] at head
      cases head
      cases local_
    · exact opens

theorem blocked_of_covered (text : Ipv6Text) (covered : CoveredIpv6 text) (guarded : Guarded (.ipv6 text.groups)) :
    isBlockedIp (String.ofList text.print) = true := by
  rw [ipv6_verdict]
  rcases guarded with same | same | ⟨high,low_,same,embedded⟩ | ⟨high,low_,same,embedded⟩ | ⟨first,head,local_⟩
  · exact .inl ⟨same,covered.loopback same⟩
  · exact .inr (.inl ⟨same,covered.unspecified same⟩)
  · exact .inr (.inr (.inl ⟨high,low_,same,embedded,covered.mapped high low_ same embedded⟩))
  · exact .inr (.inr (.inr (.inl ⟨high,low_,same,embedded,covered.translated high low_ same embedded⟩)))
  · exact .inr (.inr (.inr (.inr ⟨first,head,local_,covered.opens first head local_⟩)))

theorem guarded_of_blocked (text : AddressText) (blocked : isBlockedIp (String.ofList text.print) = true) : Guarded text.address := by
  cases text with
  | ipv4 text => exact ((ipv4_verdict text).mp blocked).2
  | ipv6 text =>
      rcases (ipv6_verdict text).mp blocked with ⟨same,_⟩ | ⟨same,_⟩ | ⟨high,low_,same,embedded,_⟩ | ⟨high,low_,same,embedded,_⟩ |
        ⟨first,head,local_,_⟩
      · exact .inl same
      · exact .inr (.inl same)
      · exact .inr (.inr (.inl ⟨high,low_,same,embedded⟩))
      · exact .inr (.inr (.inr (.inl ⟨high,low_,same,embedded⟩)))
      · exact .inr (.inr (.inr (.inr ⟨first,head,local_⟩)))

theorem values_small (tail : Tail) : ∀ value ∈ tail.values, value < 65536 := by
  intro value member
  rcases List.mem_append.mp member with inGroups | inQuad
  · obtain ⟨group,_,rfl⟩ := List.mem_map.mp inGroups
    exact value_bound group
  · obtain ⟨quad,_,its⟩ := List.mem_flatMap.mp inQuad
    have first := quad.first.small
    have second := quad.second.small
    have third := quad.third.small
    have fourth := quad.fourth.small
    simp only [Quad.values,List.mem_cons,List.not_mem_nil,or_false] at its
    omega

theorem groups_small (text : Ipv6Text) : text.groups.length = 8 ∧ ∀ value ∈ text.groups, value < 65536 := by
  cases text with
  | full tail eight => exact ⟨eight,values_small tail⟩
  | compressed left right fewer =>
      refine ⟨by simp [Ipv6Text.groups]; omega,?_⟩
      intro value member
      rcases List.mem_append.mp member with front | inRight
      · rcases List.mem_append.mp front with inLeft | zero
        · obtain ⟨group,_,rfl⟩ := List.mem_map.mp inLeft
          exact value_bound group
        · rw [List.eq_of_mem_replicate zero]
          omega
      · exact values_small right value inRight

theorem ipv4_bound (text : Ipv4Text) : text.address < 256 ^ 4 := by
  have front : number 256 (text.leading.map Part.value) < 256 ^ text.leading.length := by
    have small : ∀ value ∈ text.leading.map Part.value, value < 256 := by
      intro value member
      obtain ⟨part,inside,rfl⟩ := List.mem_map.mp member
      exact Nat.lt_succ_of_le (text.small part inside)
    have bound := number_bound (by omega) small
    rwa [List.length_map] at bound
  have few := text.few
  have split : 256 ^ 4 = 256 ^ text.leading.length * 256 ^ (4 - text.leading.length) := by
    rw [← Nat.pow_add]
    congr 1
    omega
  calc text.address < number 256 (text.leading.map Part.value) * 256 ^ (4 - text.leading.length) + 256 ^ (4 - text.leading.length) :=
        Nat.add_lt_add_left text.fits _
    _ = (number 256 (text.leading.map Part.value) + 1) * 256 ^ (4 - text.leading.length) := (Nat.succ_mul _ _).symm
    _ ≤ 256 ^ text.leading.length * 256 ^ (4 - text.leading.length) := Nat.mul_le_mul_right _ front
    _ = 256 ^ 4 := split.symm

def oneGroup : Group := ⟨[.lower 1],List.cons_ne_nil _ _,Nat.le_of_ble_eq_true rfl⟩

def ffffGroup : Group := ⟨List.replicate 4 (.lower 15),List.cons_ne_nil _ _,Nat.le_of_ble_eq_true rfl⟩

def sixtyFourGroup : Group := ⟨[.lower 6,.lower 4],List.cons_ne_nil _ _,Nat.le_of_ble_eq_true rfl⟩

def ff9bGroup : Group := ⟨[.lower 15,.lower 15,.lower 9,.lower 11],List.cons_ne_nil _ _,Nat.le_of_ble_eq_true rfl⟩

def oneText : Ipv6Text := .compressed [] ⟨[oneGroup],none⟩ (by decide)

def noneText : Ipv6Text := .compressed [] ⟨[],none⟩ (by decide)

theorem groups_written {values : List Nat} (small : ∀ value ∈ values, value < 65536) (head : values.head? = some first) :
    ∃ groups : List Group, groups.map Group.value = values ∧ ∃ fits, groups.head? = some (Group.of first fits) := by
  cases values with
  | nil => cases head
  | cons value rest =>
      cases head
      refine ⟨Group.of first (small first List.mem_cons_self) ::
        rest.attach.map fun other => Group.of other.val (small other.val (List.mem_cons_of_mem _ other.property)),?_,_,rfl⟩
      rw [List.map_cons,of_value,List.map_map]
      congr 1
      simp [Function.comp_def,of_value]

-- Whatever is guarded is blocked in the spelling that its check is made for.
theorem blocked_spelling (text : AddressText) (guarded : Guarded text.address) :
    ∃ other : AddressText, other.address = text.address ∧ isBlockedIp (String.ofList other.print) = true := by
  cases text with
  | ipv4 text =>
      have fits := ipv4_bound text
      have value : (Part.hexadecimal false (digitsOf text.address) (digitsOf_nonempty _)).value = text.address := number_digitsOf _
      let other : Ipv4Text := ⟨[],.hexadecimal false (digitsOf text.address) (digitsOf_nonempty _),by simp,by simp,by rw [value]; exact fits⟩
      have same : other.address = text.address := by
        have alone : other.address = 0 * 256 ^ 4 + (Part.hexadecimal false (digitsOf text.address) (digitsOf_nonempty _)).value := rfl
        rw [alone,value,Nat.zero_mul,Nat.zero_add]
      exact ⟨.ipv4 other,congrArg Address.ipv4 same,(ipv4_verdict other).mpr ⟨.inl rfl,by rw [same]; exact guarded⟩⟩
  | ipv6 text =>
      obtain ⟨eight,small⟩ := groups_small text
      rcases guarded with same | same | ⟨high,low_,same,embedded⟩ | ⟨high,low_,same,embedded⟩ | ⟨first,head,local_⟩
      · refine ⟨.ipv6 oneText,congrArg Address.ipv6 same.symm,?_⟩
        exact (opened_verdict ⟨[oneGroup],none⟩ (by decide)).mpr (.inl ⟨rfl,rfl⟩)
      · refine ⟨.ipv6 noneText,congrArg Address.ipv6 same.symm,?_⟩
        exact (opened_verdict ⟨[],none⟩ (by decide)).mpr (.inr (.inl ⟨rfl,rfl⟩))
      · have highFits : high < 65536 := small high (by rw [same]; simp [mapped])
        have lowFits : low_ < 65536 := small low_ (by rw [same]; simp [mapped])
        have values : (Tail.mk [ffffGroup,Group.of high highFits,Group.of low_ lowFits] none).values = [0xffff,high,low_] := by
          simp only [Tail.values,List.map_cons,List.map_nil,of_value,Option.toList_none,List.flatMap_nil,List.append_nil]
          rfl
        have fewer : ([] : List Group).length + (Tail.mk [ffffGroup,Group.of high highFits,Group.of low_ lowFits] none).values.length ≤ 7 := by
          rw [values]
          exact Nat.le_of_ble_eq_true rfl
        refine ⟨.ipv6 (.compressed [] _ fewer),?_,?_⟩
        · refine congrArg Address.ipv6 ?_
          rw [same,Ipv6Text.groups,values]
          rfl
        · exact (opened_verdict _ fewer).mpr (.inr (.inr ⟨high,low_,values,embedded⟩))
      · have highFits : high < 65536 := small high (by rw [same]; simp [translated])
        have lowFits : low_ < 65536 := small low_ (by rw [same]; simp [translated])
        have values : (Tail.mk [Group.of high highFits,Group.of low_ lowFits] none).values = [high,low_] := by
          simp only [Tail.values,List.map_cons,List.map_nil,of_value,Option.toList_none,List.flatMap_nil,List.append_nil]
        have fewer : [sixtyFourGroup,ff9bGroup].length + (Tail.mk [Group.of high highFits,Group.of low_ lowFits] none).values.length ≤ 7 := by
          rw [values]
          exact Nat.le_of_ble_eq_true rfl
        refine ⟨.ipv6 (.compressed [sixtyFourGroup,ff9bGroup] _ fewer),?_,?_⟩
        · refine congrArg Address.ipv6 ?_
          rw [same,Ipv6Text.groups,values]
          rfl
        · exact (led_verdict _ _ _ fewer).mpr (.inl ⟨high,low_,rfl,values,embedded⟩)
      · obtain ⟨groups,its,firstSmall,opens⟩ := groups_written small head
        have values : (Tail.mk groups none).values = text.groups := by simp [Tail.values,its]
        have positive : first ≠ 0 := by
          rintro rfl
          cases local_
        have length : (Tail.mk groups none).values.length = 8 := by rw [values,eight]
        refine ⟨.ipv6 (.full ⟨groups,none⟩ length),congrArg Address.ipv6 values,?_⟩
        refine (full_verdict _ length).mpr (.inr ⟨_,opens,(startsLocal_iff _).mpr ⟨?_,of_first positive firstSmall⟩⟩)
        rw [of_value]
        exact local_

theorem guarded_iff (text : AddressText) :
    (Guarded text.address → isBlockedIp (String.ofList text.print) = true) ↔ Covered text := by
  cases text with
  | ipv4 text =>
      have verdict := ipv4_verdict text
      constructor
      · intro blocked embedded
        exact (verdict.mp (blocked embedded)).1
      · intro covered embedded
        exact verdict.mpr ⟨covered embedded,embedded⟩
  | ipv6 text => exact ⟨covered_of_blocked text,blocked_of_covered text⟩

-- The verdict depends on the address alone exactly in the spellings that are covered.
theorem uniform_iff (text : AddressText) : Uniform text ↔ Covered text := by
  rw [← guarded_iff,Uniform]
  constructor
  · intro uniform guarded
    exact uniform (.inl (blocked_spelling text guarded))
  · intro blocked premise
    refine blocked ?_
    rcases premise with ⟨other,same,its⟩ | ⟨ipv4,its,same⟩
    · rw [← same]
      exact guarded_of_blocked other its
    · have embedded := ((ipv4_verdict ipv4).mp its).2
      have octets : octetsOf (ipv4.address / 65536) (ipv4.address % 65536) = addressOctets ipv4.address := by
        have fits := ipv4_bound ipv4
        simp only [octetsOf,addressOctets,Octets.mk.injEq]
        omega
      rw [same]
      exact .inr (.inr (.inl ⟨_,_,rfl,by rw [octets]; exact embedded⟩))

def zeroGroup : Group := ⟨[.lower 0],List.cons_ne_nil _ _,Nat.le_of_ble_eq_true rfl⟩

def decimalOf (first : Fin 10) : Decimal := ⟨[first],by simp,by simp⟩

def octetOf (first : Fin 10) : Octet := ⟨decimalOf first,by revert first; decide⟩

def loopbackQuad : Quad := ⟨⟨⟨[1,2,7],by decide,by decide⟩,by decide⟩,octetOf 0,octetOf 0,octetOf 1⟩

-- ::ffff:127.0.0.1 with and without its "::".
def shortMapped : AddressText := .ipv6 (.compressed [] ⟨[ffffGroup],some loopbackQuad⟩ (by decide))

def longMapped : AddressText := .ipv6 (.full ⟨List.replicate 5 zeroGroup ++ [ffffGroup],some loopbackQuad⟩ (by decide))

theorem spelling_missed : String.ofList shortMapped.print = "::ffff:127.0.0.1" ∧
    String.ofList longMapped.print = "0:0:0:0:0:ffff:127.0.0.1" ∧ isBlockedIp "::ffff:127.0.0.1" = true ∧
    isBlockedIp "0:0:0:0:0:ffff:127.0.0.1" = false ∧ ¬ ∀ text, Uniform text := by
  have short : String.ofList shortMapped.print = "::ffff:127.0.0.1" := by decide
  have long : String.ofList longMapped.print = "0:0:0:0:0:ffff:127.0.0.1" := by decide
  have blocked : isBlockedIp "::ffff:127.0.0.1" = true := by decide +kernel
  have missed : isBlockedIp "0:0:0:0:0:ffff:127.0.0.1" = false := by decide +kernel
  refine ⟨short,long,blocked,missed,?_⟩
  intro uniform
  have its := uniform longMapped (.inl ⟨shortMapped,by decide,by rw [short]; exact blocked⟩)
  rw [long,missed] at its
  cases its

end Payable.Net
