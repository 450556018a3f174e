import Mathlib.Data.List.TakeWhile
import Payable.Net.BlockedHost

namespace Payable.Net
open IpTexts
open JsonText (lowerHex)

theorem isPrefixOf?_iff {front text : List Char} : front.isPrefixOf? text = some rest ↔ text = front ++ rest := by
  induction front generalizing text with
  | nil => simp [List.isPrefixOf?]
  | cons c front ih =>
      cases text with
      | nil => simp [List.isPrefixOf?]
      | cons d text =>
          by_cases same : c = d
          · subst same
            simp [List.isPrefixOf?,ih]
          · simp [List.isPrefixOf?,same,Ne.symm same]

-- Two texts with the same pieces between colons are the same.
theorem split_eq {separator : Char} {a b : List Char} : a = b ↔ a.splitOn separator = b.splitOn separator := by
  constructor
  · rintro rfl
    rfl
  · intro same
    calc a = [separator].intercalate (a.splitOn separator) := (List.intercalate_splitOn separator).symm
      _ = [separator].intercalate (b.splitOn separator) := by rw [same]
      _ = b := List.intercalate_splitOn separator

theorem split_joined {segments : List (List Char)} (clear : ∀ segment ∈ segments, c ∉ segment) :
    ([c].intercalate segments).splitOn c = if segments = [] then [[]] else segments := by
  split
  · rename_i none_
    rw [none_]
    rfl
  · rename_i some_
    exact List.splitOn_intercalate c clear some_

theorem map_joined {segments : List (List Char)} (f : Char → Char) :
    ([c].intercalate segments).map f = [f c].intercalate (segments.map (·.map f)) := by
  induction segments with
  | nil => rfl
  | cons first rest ih =>
      cases rest with
      | nil => simp
      | cons second rest =>
          simp only [List.intercalate_cons_cons,List.map_append,List.map_cons,List.map_nil] at ih ⊢
          rw [ih]

-- What normalize leaves of a group.
def low (group : Group) : List Char := group.plain.map lowerHex

theorem char_lower (digit : HexDigit) : digit.char.toLower = lowerHex digit.value := by
  obtain ⟨value,upper⟩ := digit
  revert value upper
  decide

theorem print_lower (group : Group) : group.print.map Char.toLower = low group := by
  simp only [Group.print,low,Group.plain,List.map_map]
  exact List.map_congr_left fun digit _ => char_lower digit

theorem digit_lower : ∀ n : Fin 10, (IsoDates.digit n.val).toLower = IsoDates.digit n.val := by decide

theorem decimal_lower (decimal : Decimal) : decimal.print.map Char.toLower = decimal.print := by
  simp only [Decimal.print,List.map_map]
  exact List.map_congr_left fun digit _ => digit_lower digit

theorem quad_lower (quad : Quad) : quad.print.map Char.toLower = quad.print := by
  simp only [Quad.print,map_joined,List.map_map]
  congr 1
  exact List.map_congr_left fun octet _ => decimal_lower octet.toDecimal

def lowSegments (tail : Tail) : List (List Char) := tail.groups.map low ++ tail.quad.toList.map Quad.print

theorem segments_lower (tail : Tail) : tail.segments.map (·.map Char.toLower) = lowSegments tail := by
  simp only [Tail.segments,lowSegments,List.map_append,List.map_map]
  congr 1
  · exact List.map_congr_left fun group _ => print_lower group
  · exact List.map_congr_left fun quad _ => quad_lower quad

-- A joined text that may be empty is split into one empty piece.
def orEmpty (segments : List (List Char)) : List (List Char) := if segments = [] then [[]] else segments

def lowText : Ipv6Text → List (List Char)
  | .full tail _ => orEmpty (lowSegments tail)
  | .compressed left right _ => orEmpty (left.map low) ++ [] :: orEmpty (lowSegments right)

-- The characters that stand in a piece.
def isPiece (c : Char) : Bool := !(([':','%','[',']'] : List Char).contains c)

theorem lowerHex_piece : ∀ n < 16, isPiece (lowerHex n) = true ∧ lowerHex n ≠ '.' := by decide

theorem digit_piece : ∀ n : Fin 10, isPiece (IsoDates.digit n.val) = true ∧ IsoDates.digit n.val ≠ '.' := by decide

theorem low_piece (group : Group) : ∀ c ∈ low group, isPiece c = true ∧ c ≠ '.' := by
  intro c member
  obtain ⟨digit,its,rfl⟩ := List.mem_map.mp member
  exact lowerHex_piece digit (plain_small group digit its)

theorem decimal_piece (decimal : Decimal) : ∀ c ∈ decimal.print, isPiece c = true ∧ c ≠ '.' := by
  intro c member
  obtain ⟨digit,_,rfl⟩ := List.mem_map.mp member
  exact digit_piece digit

theorem mem_joined {segments : List (List Char)} (member : c ∈ [d].intercalate segments) : c = d ∨ ∃ segment ∈ segments, c ∈ segment := by
  induction segments with
  | nil => cases member
  | cons first rest ih =>
      cases rest with
      | nil =>
          rw [List.intercalate_singleton] at member
          exact .inr ⟨first,List.mem_cons_self,member⟩
      | cons second rest =>
          rw [List.intercalate_cons_cons,List.mem_append,List.mem_append,List.mem_singleton] at member
          rcases member with (inFirst | same) | later
          · exact .inr ⟨first,List.mem_cons_self,inFirst⟩
          · exact .inl same
          · rcases ih later with same | ⟨segment,inRest,its⟩
            · exact .inl same
            · exact .inr ⟨segment,List.mem_cons_of_mem _ inRest,its⟩

theorem quad_piece (quad : Quad) : ∀ c ∈ quad.print, isPiece c = true := by
  intro c member
  rcases mem_joined member with rfl | ⟨_,inside,its⟩
  · decide
  · obtain ⟨octet,_,rfl⟩ := List.mem_map.mp inside
    exact (decimal_piece octet.toDecimal c its).1

def Pieces (segments : List (List Char)) : Prop := ∀ segment ∈ segments, ∀ c ∈ segment, isPiece c = true

theorem lowSegments_pieces (tail : Tail) : Pieces (lowSegments tail) := by
  intro segment member c its
  rcases List.mem_append.mp member with inGroups | inQuad
  · obtain ⟨group,_,rfl⟩ := List.mem_map.mp inGroups
    exact (low_piece group c its).1
  · obtain ⟨quad,_,rfl⟩ := List.mem_map.mp inQuad
    exact quad_piece quad c its

theorem groups_pieces (groups : List Group) : Pieces (groups.map low) := by
  intro segment member
  exact lowSegments_pieces ⟨groups,none⟩ segment (List.mem_append_left _ member)

theorem orEmpty_pieces (pieces : Pieces segments) : Pieces (orEmpty segments) := by
  unfold orEmpty
  split
  · intro segment member c its
    rw [List.mem_singleton.mp member] at its
    cases its
  · exact pieces

theorem pieces_split (pieces : Pieces segments) : ([':'].intercalate segments).splitOn ':' = orEmpty segments := by
  refine split_joined fun segment member its => ?_
  have clear := pieces segment member ':' its
  cases clear

-- The pieces of the lowered text.
theorem lowText_split (text : Ipv6Text) : (text.print.map Char.toLower).splitOn ':' = lowText text := by
  cases text with
  | full tail =>
      simp only [Ipv6Text.print,lowText,map_joined,segments_lower]
      exact pieces_split (lowSegments_pieces tail)
  | compressed left right =>
      have lefts : left.map (fun group => group.print.map Char.toLower) = left.map low :=
        List.map_congr_left fun group _ => print_lower group
      simp only [Ipv6Text.print,lowText,List.map_append,List.map_cons,map_joined,segments_lower,List.map_map,Function.comp_def,lefts]
      have colon : Char.toLower ':' = ':' := rfl
      rw [colon,List.splitOn_append_cons_self,pieces_split (groups_pieces left)]
      have second := List.splitOn_append_cons_self (a := ':') [] ([':'].intercalate (lowSegments right))
      rw [List.nil_append] at second
      rw [second,pieces_split (lowSegments_pieces right)]
      rfl

theorem lowText_pieces (text : Ipv6Text) : Pieces (lowText text) := by
  cases text with
  | full tail => exact orEmpty_pieces (lowSegments_pieces tail)
  | compressed left right =>
      intro segment member c its
      rcases List.mem_append.mp member with inLeft | inRight
      · exact orEmpty_pieces (groups_pieces left) segment inLeft c its
      · rcases List.mem_cons.mp inRight with rfl | inRight
        · cases its
        · exact orEmpty_pieces (lowSegments_pieces right) segment inRight c its

theorem joined_split (c : Char) (text : List Char) : [c].intercalate (text.splitOn c) = text := List.intercalate_splitOn c

theorem lowered_pieces (text : Ipv6Text) : ∀ c ∈ text.print.map Char.toLower, c = ':' ∨ isPiece c = true := by
  intro c member
  rw [← joined_split ':' (text.print.map Char.toLower),lowText_split] at member
  rcases mem_joined member with same | ⟨segment,inside,its⟩
  · exact .inl same
  · exact .inr (lowText_pieces text segment inside c its)

-- No zone is cut off and no bracket.
theorem zoneless_text (text : Ipv6Text) :
    (text.print.map Char.toLower).takeWhile (· ≠ '%') = text.print.map Char.toLower := by
  rw [List.takeWhile_eq_self_iff]
  intro c member
  rw [decide_eq_true_eq]
  rintro rfl
  rcases lowered_pieces text '%' member with its | its <;> cases its

theorem normalize_clear {text : List Char} (clear : ∀ c ∈ text, c ≠ '[' ∧ c ≠ ']') : normalize text = text.map Char.toLower := by
  have opened : text.head? ≠ some '[' := fun head => (clear _ (List.mem_of_mem_head? head)).1 rfl
  have closed : text.getLast? ≠ some ']' := fun last => (clear _ (List.mem_of_mem_getLast? last)).2 rfl
  simp only [normalize,if_neg opened,if_neg closed]

theorem normalize_text (text : Ipv6Text) : normalize text.print = text.print.map Char.toLower := by
  refine normalize_clear fun c member => ⟨?_,?_⟩
  · rintro rfl
    rcases lowered_pieces text _ (List.mem_map_of_mem member) with its | its <;> cases its
  · rintro rfl
    rcases lowered_pieces text _ (List.mem_map_of_mem member) with its | its <;> cases its

end Payable.Net

namespace Payable.Net
open IpTexts
open JsonText (lowerHex)

theorem isAll_mem (its : isAll class_ text = true) : text ≠ [] ∧ ∀ c ∈ text, class_ c = true := by
  simp only [isAll,Bool.and_eq_true,Bool.not_eq_true',List.isEmpty_eq_false_iff,List.all_eq_true] at its
  exact its

theorem octal_hex (its : isOctal c = true) : isHex c = true := by
  simp only [isOctal,isHex,Char.isDigit,Bool.and_eq_true,Bool.or_eq_true,decide_eq_true_eq] at *
  exact .inl ⟨its.1,UInt32.le_trans its.2 (by decide)⟩

theorem parseUint_chars (parsed : parseUint part = some value) : ∀ c ∈ part, c = 'x' ∨ isHex c = true := by
  intro c member
  unfold parseUint at parsed
  split at parsed
  · rename_i hex
    obtain ⟨rest,found,all⟩ := (Option.any_eq_true _ _).mp hex
    rw [isPrefixOf?_iff.mp found] at member
    rcases List.mem_append.mp member with front | inRest
    · rcases List.mem_cons.mp front with rfl | front
      · exact .inr rfl
      · exact .inl (List.mem_singleton.mp front)
    · exact .inr ((isAll_mem all).2 c inRest)
  · split at parsed
    · rename_i octal
      obtain ⟨rest,found,all⟩ := (Option.any_eq_true _ _).mp octal
      rw [isPrefixOf?_iff.mp found] at member
      rcases List.mem_append.mp member with front | inRest
      · rw [List.mem_singleton.mp front]
        exact .inr rfl
      · exact .inr (octal_hex ((isAll_mem all).2 c inRest))
    · split at parsed
      · rename_i digits
        refine .inr ?_
        rw [isHex,(isAll_mem digits).2 c member]
        rfl
      · cases parsed

theorem parseUint_colon (colon : ':' ∈ part) : parseUint part = none := by
  cases parsed : parseUint part with
  | none => rfl
  | some value => rcases parseUint_chars parsed ':' colon with its | its <;> cases its

theorem parseIpv4_parts {host : List Char} (dotted : host.contains '.' = true) (parsed : parseIpv4 host = some octets) :
    (host.splitOn '.').map parseUint = [some octets.first,some octets.second,some octets.third,some octets.fourth] := by
  simp only [parseIpv4,dotted,if_true] at parsed
  split at parsed
  · rename_i first second third fourth parts
    split at parsed
    · cases parsed
    · cases parsed
      exact parts
  · cases parsed

-- No text with a colon is an IPv4 address.
theorem parseIpv4_colon {host : List Char} (colon : ':' ∈ host) : parseIpv4 host = none := by
  cases parsed : parseIpv4 host with
  | none => rfl
  | some octets =>
      cases dotted : host.contains '.' with
      | false =>
          simp only [parseIpv4,dotted,parseUint_colon colon] at parsed
          cases parsed
      | true =>
          have parts := parseIpv4_parts dotted parsed
          rw [← joined_split '.' host] at colon
          rcases mem_joined colon with its | ⟨segment,inside,its⟩
          · cases its
          · have none_ : none ∈ (host.splitOn '.').map parseUint :=
              List.mem_map.mpr ⟨segment,inside,parseUint_colon its⟩
            rw [parts] at none_
            simp at none_

theorem values_length (tail : Tail) : tail.values.length = tail.groups.length + 2 * tail.quad.toList.length := by
  cases quad : tail.quad with
  | none => simp [Tail.values,quad]
  | some its => simp [Tail.values,quad,Quad.values]

theorem lowSegments_length (tail : Tail) : (lowSegments tail).length = tail.groups.length + tail.quad.toList.length := by
  simp only [lowSegments,List.length_append,List.length_map]

theorem orEmpty_nonempty (segments : List (List Char)) : orEmpty segments ≠ [] := by
  unfold orEmpty
  split
  · exact List.cons_ne_nil _ _
  · assumption

theorem lowered_colon (text : Ipv6Text) : ':' ∈ text.print.map Char.toLower := by
  by_contra absent
  have whole := List.splitOn_eq_singleton absent
  rw [lowText_split] at whole
  have one : (lowText text).length = 1 := by rw [whole,List.length_singleton]
  cases text with
  | full tail eight =>
      rw [values_length] at eight
      have few : tail.quad.toList.length ≤ 1 := by cases tail.quad <;> simp
      have length := lowSegments_length tail
      simp only [lowText,orEmpty] at one
      split at one
      · rename_i none_
        rw [none_,List.length_nil] at length
        omega
      · omega
  | compressed left right =>
      have some_ := List.length_pos_iff.mpr (orEmpty_nonempty (left.map low))
      simp only [lowText,List.length_append,List.length_cons] at one
      omega

theorem isBlockedIp_ipv6 (text : Ipv6Text) :
    isBlockedIp (String.ofList text.print) = isBlockedIpv6 (text.print.map Char.toLower) := by
  simp only [isBlockedIp,String.toList_ofList,normalize_text,parseIpv4_colon (lowered_colon text)]

theorem low_eq (digits : List Nat) (small : ∀ digit ∈ digits, digit < 16) :
    low group = digits.map lowerHex ↔ group.plain = digits := by
  have back : ∀ numbers : List Nat, (∀ n ∈ numbers, n < 16) → (numbers.map lowerHex).map JsonText.hexValue = numbers := by
    intro numbers small
    rw [List.map_map]
    exact (List.map_congr_left fun n member => JsonText.hexValue_lowerHex (small n member)).trans (List.map_id _)
  constructor
  · intro same
    rw [← back group.plain (plain_small group),← back digits small]
    exact congrArg _ same
  · rintro rfl
    rfl

theorem low_nonempty (group : Group) : low group ≠ [] := by
  simp only [low,Group.plain,ne_eq,List.map_eq_nil_iff]
  exact group.nonempty

-- A group by its digits.
theorem plain_cases (group : Group) : ∃ a < 16, group.plain = [a] ∨ ∃ b < 16, group.plain = [a,b] ∨
    ∃ c < 16, group.plain = [a,b,c] ∨ ∃ d < 16, group.plain = [a,b,c,d] := by
  have small := plain_small group
  have length : group.plain.length ≤ 4 := by
    rw [Group.plain,List.length_map]
    exact group.short
  have nonempty : group.plain ≠ [] := by
    rw [Group.plain,ne_eq,List.map_eq_nil_iff]
    exact group.nonempty
  rcases its : group.plain with _ | ⟨a,_ | ⟨b,_ | ⟨c,_ | ⟨d,_ | ⟨e,rest⟩⟩⟩⟩⟩
  · exact absurd its nonempty
  · simp_all
  · simp_all
  · simp_all
  · simp_all
  · rw [its] at length
    simp only [List.length_cons] at length
    omega

end Payable.Net
