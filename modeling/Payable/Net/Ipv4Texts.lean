import Payable.Net.Verdicts

namespace Payable.Net
open IpTexts
open JsonText (lowerHex)

def addressOctets (address : Nat) : Octets :=
  ⟨address / 2 ^ 24 % 256,address / 2 ^ 16 % 256,address / 2 ^ 8 % 256,address % 256⟩

def lowPart : Part → List Char
  | .decimal its => its.print
  | .octal digits _ => '0' :: digits.map fun digit => IsoDates.digit digit.val
  | .hexadecimal _ digits _ => '0' :: 'x' :: digits.map fun digit => lowerHex digit.value

theorem octal_digit : ∀ n : Fin 8, (IsoDates.digit n.val).toLower = IsoDates.digit n.val ∧ isOctal (IsoDates.digit n.val) = true ∧
    digitValue (IsoDates.digit n.val) = n.val ∧ IsoDates.digit n.val ≠ 'x' ∧ isPiece (IsoDates.digit n.val) = true ∧
    IsoDates.digit n.val ≠ '.' := by decide

theorem part_lower (part : Part) : part.print.map Char.toLower = lowPart part := by
  cases part with
  | decimal its => exact decimal_lower its
  | octal digits nonempty =>
      simp only [Part.print,lowPart,List.map_cons,List.map_map]
      congr 1
      exact List.map_congr_left fun digit _ => (octal_digit digit).1
  | hexadecimal upper digits nonempty =>
      simp only [Part.print,lowPart,List.map_cons,List.map_map]
      congr 1
      congr 1
      · cases upper <;> rfl
      · exact List.map_congr_left fun digit _ => char_lower digit

theorem part_piece (part : Part) : ∀ c ∈ lowPart part, isPiece c = true ∧ c ≠ '.' := by
  intro c member
  cases part with
  | decimal its => exact decimal_piece its c member
  | octal digits nonempty =>
      rcases List.mem_cons.mp member with rfl | member
      · decide
      · obtain ⟨digit,_,rfl⟩ := List.mem_map.mp member
        exact (octal_digit digit).2.2.2.2
  | hexadecimal upper digits nonempty =>
      rcases List.mem_cons.mp member with rfl | member
      · decide
      · rcases List.mem_cons.mp member with rfl | member
        · decide
        · obtain ⟨digit,_,rfl⟩ := List.mem_map.mp member
          exact lowerHex_piece digit.value digit.value.isLt

-- Every number is read in its base.
theorem parseUint_part (part : Part) : parseUint (lowPart part) = some part.value := by
  cases part with
  | decimal its => exact parseUint_decimal its
  | octal digits nonempty =>
      have unhex : (['0','x'].isPrefixOf? (lowPart (.octal digits nonempty))).any (isAll isHex) = false := by
        cases digits with
        | nil => exact absurd rfl nonempty
        | cons first more =>
            have other := (octal_digit first).2.2.2.1
            simp [lowPart,List.isPrefixOf?,Ne.symm other]
      have all : isAll isOctal (digits.map fun digit => IsoDates.digit digit.val) = true := by
        simp only [isAll,Bool.and_eq_true,Bool.not_eq_true',List.isEmpty_eq_false_iff,List.all_eq_true,ne_eq,List.map_eq_nil_iff]
        refine ⟨nonempty,?_⟩
        intro c member
        obtain ⟨digit,_,rfl⟩ := List.mem_map.mp member
        exact (octal_digit digit).2.1
      have value : parseInt (digits.map fun digit => IsoDates.digit digit.val) 8 = number 8 (digits.map fun digit => digit.val) := by
        rw [parseInt,List.map_map]
        congr 1
        exact List.map_congr_left fun digit _ => (octal_digit digit).2.2.1
      rw [parseUint,unhex]
      simp [lowPart,List.isPrefixOf?,all,value,Part.value]
  | hexadecimal upper digits nonempty =>
      have all : isAll isHex (digits.map fun digit => lowerHex digit.value) = true := by
        simp only [isAll,Bool.and_eq_true,Bool.not_eq_true',List.isEmpty_eq_false_iff,List.all_eq_true,ne_eq,List.map_eq_nil_iff]
        refine ⟨nonempty,?_⟩
        intro c member
        obtain ⟨digit,_,rfl⟩ := List.mem_map.mp member
        exact (hex_value digit.value digit.value.isLt).1
      have value : parseInt (digits.map fun digit => lowerHex digit.value) 16 = number 16 (digits.map fun digit => digit.value.val) := by
        rw [parseInt,List.map_map]
        congr 1
        exact List.map_congr_left fun digit _ => (hex_value digit.value digit.value.isLt).2
      simp [parseUint,lowPart,List.isPrefixOf?,all,value,Part.value]

theorem part_first (part : Part) : ∃ c rest, lowPart part = c :: rest ∧ c ≠ 'f' := by
  cases part with
  | decimal its =>
      cases digits : its.digits with
      | nil => exact absurd digits its.nonempty
      | cons first more =>
          refine ⟨IsoDates.digit first.val,more.map fun digit => IsoDates.digit digit.val,by simp [lowPart,Decimal.print,digits],?_⟩
          intro same
          have digit := (decimal_value first).1
          rw [same] at digit
          cases digit
  | octal digits nonempty => exact ⟨'0',_,rfl,by decide⟩
  | hexadecimal upper digits nonempty => exact ⟨'0',_,rfl,by decide⟩

theorem ipv4_lower (text : Ipv4Text) : text.print.map Char.toLower = ['.'].intercalate (text.parts.map lowPart) := by
  have lowered : text.parts.map (fun part => part.print.map Char.toLower) = text.parts.map lowPart :=
    List.map_congr_left fun part _ => part_lower part
  simp only [Ipv4Text.print,map_joined,List.map_map,Function.comp_def,lowered]
  rfl

theorem ipv4_split (text : Ipv4Text) : (text.print.map Char.toLower).splitOn '.' = text.parts.map lowPart := by
  rw [ipv4_lower]
  refine List.splitOn_intercalate '.' ?_ ?_
  · intro piece member its
    obtain ⟨part,_,rfl⟩ := List.mem_map.mp member
    exact (part_piece part '.' its).2 rfl
  · simp [Ipv4Text.parts]

theorem ipv4_pieces (text : Ipv4Text) : ∀ c ∈ text.print.map Char.toLower, isPiece c = true := by
  intro c member
  rw [ipv4_lower] at member
  rcases mem_joined member with rfl | ⟨piece,inside,its⟩
  · decide
  · obtain ⟨part,_,rfl⟩ := List.mem_map.mp inside
    exact (part_piece part c its).1

theorem normalize_ipv4 (text : Ipv4Text) : normalize text.print = text.print.map Char.toLower := by
  refine normalize_clear fun c member => ⟨?_,?_⟩
  · rintro rfl
    cases ipv4_pieces text _ (List.mem_map_of_mem member)
  · rintro rfl
    cases ipv4_pieces text _ (List.mem_map_of_mem member)

theorem ipv4_parsed (text : Ipv4Text) :
    ((text.print.map Char.toLower).splitOn '.').map parseUint = text.parts.map fun part => some part.value := by
  rw [ipv4_split,List.map_map]
  exact List.map_congr_left fun part _ => parseUint_part part

-- Texts of two and three numbers are no addresses to the code.
theorem parseIpv4_text (text : Ipv4Text) : parseIpv4 (text.print.map Char.toLower) =
    if text.leading.length = 0 ∨ text.leading.length = 3 then some (addressOctets text.address) else none := by
  have parsed := ipv4_parsed text
  have fits := text.fits
  cases leading : text.leading with
  | nil =>
      have whole : text.print.map Char.toLower = lowPart text.last := by
        rw [ipv4_lower,Ipv4Text.parts,leading,List.nil_append,List.map_cons,List.map_nil,List.intercalate_singleton]
      have undotted : (lowPart text.last).contains '.' = false := by
        refine Bool.eq_false_iff.mpr fun dot => ?_
        exact (part_piece text.last '.' (List.contains_iff_mem.mp dot)).2 rfl
      have address : text.address = text.last.value := by simp [Ipv4Text.address,leading,number_nil]
      rw [leading] at fits
      simp only [List.length_nil] at fits
      rw [whole,parseIpv4,undotted,address,parseUint_part]
      simp only [Bool.false_eq_true,if_false,List.length_nil,true_or,if_true]
      rw [if_neg (by omega)]
      rfl
  | cons first more =>
      have dotted : (text.print.map Char.toLower).contains '.' = true := by
        rw [List.contains_iff_mem,ipv4_lower,Ipv4Text.parts,leading]
        cases more <;> simp
      have few := text.few
      have small := text.small
      rw [leading] at few small fits
      rw [Ipv4Text.parts,leading] at parsed
      rw [parseIpv4,dotted,if_pos rfl,parsed]
      rcases more with _ | ⟨second,_ | ⟨third,_ | ⟨fourth,others⟩⟩⟩
      · rfl
      · rfl
      · have first_ := small first (by simp)
        have second_ := small second (by simp)
        have third_ := small third (by simp)
        have last : text.last.value < 256 := fits
        have address : text.address =
            ((first.value * 256 + second.value) * 256 + third.value) * 256 + text.last.value := by
          simp [Ipv4Text.address,leading,number_cons,number_nil]
          omega
        have octets : addressOctets text.address = ⟨first.value,second.value,third.value,text.last.value⟩ := by
          rw [address]
          simp only [addressOctets,Octets.mk.injEq]
          omega
        rw [octets]
        simp only [List.cons_append,List.nil_append,List.map_cons,List.map_nil]
        rw [if_neg (by simp only [Bool.or_eq_true,decide_eq_true_eq,not_or]; omega)]
        rfl
      · simp only [List.length_cons] at few
        omega

theorem ipv4_verdict (text : Ipv4Text) : isBlockedIp (String.ofList text.print) = true ↔
    (text.leading.length = 0 ∨ text.leading.length = 3) ∧ isBlockedIpv4 (addressOctets text.address) = true := by
  simp only [isBlockedIp,String.toList_ofList,normalize_ipv4,parseIpv4_text]
  split
  · rename_i octets found
    split at found
    · rename_i whole
      cases found
      exact ⟨fun blocked => ⟨whole,blocked⟩,fun blocked => blocked.2⟩
    · cases found
  · rename_i found
    have short : ¬ (text.leading.length = 0 ∨ text.leading.length = 3) := by
      intro whole
      rw [if_pos whole] at found
      cases found
    refine iff_of_false ?_ fun its => short its.1
    have clear := ipv4_pieces text
    have colon : ':' ∉ text.print.map Char.toLower := by
      intro member
      cases clear ':' member
    have zoneless : (text.print.map Char.toLower).takeWhile (· ≠ '%') = text.print.map Char.toLower := by
      rw [List.takeWhile_eq_self_iff]
      intro c member
      rw [decide_eq_true_eq]
      rintro rfl
      cases clear '%' member
    have first : ∃ c rest, text.print.map Char.toLower = c :: rest ∧ c ≠ 'f' := by
      obtain ⟨part,more,parts⟩ : ∃ part more, text.parts = part :: more := by
        cases leading : text.leading <;> simp [Ipv4Text.parts,leading]
      obtain ⟨c,rest,opens,other⟩ := part_first part
      rw [ipv4_lower,parts,List.map_cons]
      cases more with
      | nil => exact ⟨c,rest,by rw [List.map_nil,List.intercalate_singleton,opens],other⟩
      | cons second others =>
          rw [List.map_cons,List.intercalate_cons_cons,opens]
          exact ⟨c,_,rfl,other⟩
    obtain ⟨c,rest,opens,other⟩ := first
    rw [isBlockedIpv6_iff zoneless,isWrittenOut_iff,List.splitOn_eq_singleton colon]
    rintro (its | its | ⟨last,its,_⟩ | ⟨octets,embedded,_⟩ | its)
    · cases (List.cons.inj its).2
    · cases (List.cons.inj its).2
    · cases (List.cons.inj its).2
    · have empty_ := embedded_pieces embedded
      rw [List.splitOn_eq_singleton colon,opens] at empty_
      cases List.mem_singleton.mp empty_
    · have head := local_first its
      rw [opens,List.head?_cons,Option.some.injEq] at head
      exact other head

end Payable.Net
