import Payable.Net.Spellings

namespace Payable.Net
open IpTexts
open JsonText (lowerHex)

def loopback : List Nat := [0,0,0,0,0,0,0,1]

def unspecified : List Nat := List.replicate 8 0

-- ::ffff:0:0/96 and 64:ff9b::/96.
def mapped (high low : Nat) : List Nat := [0,0,0,0,0,0xffff,high,low]

def translated (high low : Nat) : List Nat := [0x64,0xff9b,0,0,0,0,high,low]

-- The spellings that the checks are made for: "::1" and 0:0:0:0:0:0:0:1 but for zeros before the
-- last 1, "::", "::ffff:" and "64:ff9b::" before the embedded address, and a first group
-- without leading zeros.
def isLoopbackText : Ipv6Text → Prop
  | .full tail _ => tail.quad = none ∧ ∀ group ∈ tail.groups.take 7, group.plain = [0]
  | .compressed left right _ => left = [] ∧ right.quad = none ∧ right.groups.map Group.plain = [[1]]

def isUnspecifiedText : Ipv6Text → Prop
  | .full _ _ => False
  | .compressed left right _ => left = [] ∧ right.groups = [] ∧ right.quad = none

def isMappedText : Ipv6Text → Prop
  | .full _ _ => False
  | .compressed left right _ => left = [] ∧ right.values.length = 3

def isTranslatedText : Ipv6Text → Prop
  | .full _ _ => False
  | .compressed left right _ => left.map Group.plain = [[6,4],[15,15,9,11]] ∧ right.values.length = 2

def firstGroup : Ipv6Text → Option Group
  | .full tail _ => tail.groups.head?
  | .compressed left _ _ => left.head?

def opensPlainly (text : Ipv6Text) : Prop := ∀ group, firstGroup text = some group → group.plain.head? ≠ some 0

theorem lowSegments_nonempty (tail : Tail) : [] ∉ lowSegments tail := by
  intro member
  rcases List.mem_append.mp member with inGroups | inQuad
  · obtain ⟨group,_,same⟩ := List.mem_map.mp inGroups
    exact low_nonempty group same
  · obtain ⟨quad,_,same⟩ := List.mem_map.mp inQuad
    have dot := quad_dot quad
    rw [same] at dot
    cases dot

theorem embedded_iff : embeddedIpv4 host = some octets ↔
    ∃ rest, afterPrefix host = some rest ∧ embeddedTail (rest.splitOn ':') = some octets := by
  cases after : afterPrefix host with
  | none => simp [embeddedIpv4,after]
  | some rest => simp [embedded_tail after]

theorem low_zero (group : Group) : low group = ['0'] ↔ group.plain = [0] := low_eq [0] (by decide)

theorem low_one (group : Group) : low group = ['1'] ↔ group.plain = [1] := low_eq [1] (by decide)

theorem low_ffff (group : Group) : low group = "ffff".toList ↔ group.value = 0xffff := by
  rw [value_ffff]
  exact low_eq [15,15,15,15] (by decide)

theorem low_ff9b (group : Group) : low group = "ff9b".toList ↔ group.plain = [15,15,9,11] :=
  low_eq [15,15,9,11] (by decide)

theorem low_64 (group : Group) : low group = "64".toList ↔ group.plain = [6,4] := low_eq [6,4] (by decide)

theorem value_of_plain (group : Group) : group.value = number 16 group.plain := rfl

-- Only a text of eight groups is written out.
theorem full_written (tail : Tail) (eight : tail.values.length = 8) :
    (∃ last, lowSegments tail = List.replicate 7 ['0'] ++ [last] ∧ last.dropWhile (· == '0') = ['1']) ↔
      tail.values = loopback ∧ tail.quad = none ∧ ∀ group ∈ tail.groups.take 7, group.plain = [0] := by
  obtain ⟨groups,quad⟩ := tail
  have length := lowSegments_length ⟨groups,quad⟩
  rw [values_length] at eight
  cases quad with
  | some quad =>
      refine iff_of_false ?_ fun its => Option.some_ne_none _ its.2.1
      rintro ⟨last,pieces,_⟩
      rw [pieces] at length
      simp at eight length
      omega
  | none =>
      rcases List.eq_nil_or_concat groups with rfl | ⟨front,end_,rfl⟩
      · simp at eight
      · have seven : front.length = 7 := by simpa using eight
        have written : lowSegments ⟨front.concat end_,none⟩ = front.map low ++ [low end_] := by simp [lowSegments]
        have values : (Tail.mk (front.concat end_) none).values = front.map Group.value ++ [end_.value] := by simp [Tail.values]
        have taken : (front.concat end_).take 7 = front := by simp [← seven]
        have loops : loopback = List.replicate 7 0 ++ [1] := rfl
        rw [written,values,taken,loops]
        constructor
        · rintro ⟨last,pieces,ends⟩
          obtain ⟨zeros,same⟩ := List.append_inj' pieces rfl
          have plain : ∀ group ∈ front, group.plain = [0] := by
            intro group member
            have its : low group ∈ List.replicate 7 ['0'] := zeros ▸ List.mem_map_of_mem member
            exact (low_zero group).mp (List.eq_of_mem_replicate its)
          have nothing : front.map Group.value = List.replicate 7 0 := by
            refine List.eq_replicate_iff.mpr ⟨by rw [List.length_map,seven],?_⟩
            intro value member
            obtain ⟨group,inside,rfl⟩ := List.mem_map.mp member
            rw [value_of_plain,plain group inside]
            rfl
          rw [← List.singleton_inj.mp same] at ends
          rw [nothing,(value_one end_).mp ends]
          exact ⟨rfl,rfl,plain⟩
        · rintro ⟨values,_,plain⟩
          obtain ⟨_,last⟩ := List.append_inj' values rfl
          refine ⟨low end_,?_,(value_one end_).mpr (List.singleton_inj.mp last)⟩
          congr 1
          refine List.eq_replicate_iff.mpr ⟨by rw [List.length_map,seven],?_⟩
          intro piece member
          obtain ⟨group,inside,rfl⟩ := List.mem_map.mp member
          exact (low_zero group).mpr (plain group inside)

-- The last check looks at the first piece.
theorem local_pieces {host : List Char} (split : host.splitOn ':' = low group :: more) :
    localPrefixes.any (·.isPrefixOf host) = startsLocal group.plain := by
  rw [← joined_split ':' host,split]
  cases more with
  | nil =>
      rw [List.intercalate_singleton,← List.append_nil (low group)]
      exact local_prefix group (.inl rfl)
  | cons second rest =>
      rw [List.intercalate_cons_cons,List.append_assoc]
      exact local_prefix group (.inr ⟨_,rfl⟩)

theorem embedded_pieces (its : embeddedIpv4 host = some octets) : [] ∈ host.splitOn ':' := by
  obtain ⟨rest,after,_⟩ := embedded_iff.mp its
  rcases afterPrefix_iff.mp after with split | split <;> rw [split] <;> simp

-- A text without "::" is blocked as a loopback written out or by its first group.
theorem full_verdict (tail : Tail) (eight : tail.values.length = 8) :
    isBlockedIp (String.ofList (Ipv6Text.full tail eight).print) = true ↔
      tail.values = loopback ∧ isLoopbackText (.full tail eight) ∨
        ∃ group, tail.groups.head? = some group ∧ startsLocal group.plain = true := by
  have pieces : lowText (.full tail eight) = lowSegments tail := by
    have length := lowSegments_length tail
    rw [values_length] at eight
    have few : tail.quad.toList.length ≤ 1 := by cases tail.quad <;> simp
    rw [lowText,orEmpty,if_neg]
    intro none_
    rw [none_,List.length_nil] at length
    omega
  have split := lowText_split (.full tail eight)
  rw [pieces] at split
  have whole := lowSegments_nonempty tail
  have unembedded : ¬ ∃ octets, embeddedIpv4 ((Ipv6Text.full tail eight).print.map Char.toLower) = some octets ∧
      isBlockedIpv4 octets = true := by
    rintro ⟨octets,its,_⟩
    have empty_ := embedded_pieces its
    rw [split] at empty_
    exact whole empty_
  have one : lowSegments tail ≠ [[],[],['1']] := fun same => whole (by rw [same]; simp)
  have none_ : lowSegments tail ≠ [[],[],[]] := fun same => whole (by rw [same]; simp)
  rw [isBlockedIp_ipv6,isBlockedIpv6_iff (zoneless_text _),isWrittenOut_iff,split,full_written tail eight]
  simp only [one,none_,unembedded,false_or,isLoopbackText]
  refine or_congr Iff.rfl ?_
  cases groups : tail.groups with
  | nil =>
      have few : tail.quad.toList.length ≤ 1 := by cases tail.quad <;> simp
      rw [values_length,groups,List.length_nil] at eight
      omega
  | cons group more =>
      have first : lowSegments tail = low group :: (more.map low ++ tail.quad.toList.map Quad.print) := by
        rw [lowSegments,groups]
        rfl
      rw [local_pieces (split.trans first)]
      simp

theorem segments_one (tail : Tail) : orEmpty (lowSegments tail) = [['1']] ↔ tail.quad = none ∧ tail.groups.map Group.plain = [[1]] := by
  obtain ⟨groups,quad⟩ := tail
  match groups,quad with
  | [],none => simp [lowSegments,orEmpty]
  | [],some quad =>
      refine iff_of_false ?_ (by simp)
      intro same
      have dot := quad_dot quad
      simp [lowSegments,orEmpty] at same
      simp [same] at dot
  | [group],none => simp [lowSegments,orEmpty,low_one]
  | [group],some quad => simp [lowSegments,orEmpty]
  | first :: second :: more,quad => simp [lowSegments,orEmpty]

theorem segments_none (tail : Tail) : orEmpty (lowSegments tail) = [[]] ↔ tail.groups = [] ∧ tail.quad = none := by
  have whole := lowSegments_nonempty tail
  constructor
  · intro same
    unfold orEmpty at same
    split at same
    · rename_i nothing
      simpa [lowSegments] using nothing
    · exact absurd (by rw [same]; exact List.mem_singleton_self []) whole
  · rintro ⟨groups,quad⟩
    simp [lowSegments,groups,quad,orEmpty]

theorem segments_cons (group : Group) (more : List Group) (quad : Option Quad) :
    lowSegments ⟨group :: more,quad⟩ = low group :: lowSegments ⟨more,quad⟩ := rfl

theorem values_cons (group : Group) (more : List Group) (quad : Option Quad) :
    (Tail.mk (group :: more) quad).values = group.value :: (Tail.mk more quad).values := rfl

theorem tailOctets_some : tailOctets values = some octets ↔ ∃ high low, values = [high,low] ∧ octets = octetsOf high low := by
  unfold tailOctets
  split
  · simp [eq_comm]
  · rename_i other
    refine iff_of_false (by simp) ?_
    rintro ⟨high,low,rfl,_⟩
    exact other high low rfl

theorem segments_whole {high low : Nat} (tail : Tail) (two : tail.values = [high,low]) : orEmpty (lowSegments tail) = lowSegments tail := by
  unfold orEmpty
  rw [if_neg]
  intro nothing
  have none_ : tail.groups = [] ∧ tail.quad = none := by simpa [lowSegments] using nothing
  obtain ⟨groups,quad⟩ := tail
  obtain ⟨rfl,rfl⟩ := none_
  cases two

-- What follows a prefix embeds the last two groups.
theorem embeds_iff {rest : List Char} (tail : Tail) (pieces : lowSegments tail = rest.splitOn ':') :
    embeddedTail (rest.splitOn ':') = some octets ↔ ∃ high low, tail.values = [high,low] ∧ octets = octetsOf high low := by
  rw [← tailOctets_some,← embeddedTail_low,pieces,orEmpty,if_neg (List.splitOn_ne_nil ':' rest)]

theorem tail_rest {high low : Nat} (tail : Tail) (two : tail.values = [high,low]) :
    ∃ rest : List Char, lowSegments tail = rest.splitOn ':' := by
  refine ⟨[':'].intercalate (lowSegments tail),?_⟩
  rw [pieces_split (lowSegments_pieces tail),segments_whole tail two]

theorem mapped_embeds (right : Tail) (split : host.splitOn ':' = [] :: [] :: orEmpty (lowSegments right)) :
    embeddedIpv4 host = some octets ↔ ∃ high low, right.values = [0xffff,high,low] ∧ octets = octetsOf high low := by
  obtain ⟨groups,quad⟩ := right
  rw [embedded_iff]
  constructor
  · rintro ⟨rest,after,embedded⟩
    rcases afterPrefix_iff.mp after with its | its
    · rw [split] at its
      simp only [List.cons_append,List.nil_append,List.cons.injEq,true_and] at its
      unfold orEmpty at its
      split at its
      · cases its
      · cases groups with
        | nil =>
            have length := congrArg List.length its
            have few : quad.toList.length ≤ 1 := by cases quad <;> simp
            have some_ := List.length_pos_iff.mpr (List.splitOn_ne_nil ':' rest)
            rw [lowSegments_length] at length
            simp only [List.length_cons,List.length_nil] at length
            omega
        | cons group more =>
            rw [segments_cons,List.cons.injEq] at its
            obtain ⟨high,low,two,same⟩ := (embeds_iff ⟨more,quad⟩ its.2).mp embedded
            exact ⟨high,low,by rw [values_cons,two,(low_ffff group).mp its.1],same⟩
    · rw [split] at its
      cases its
  · rintro ⟨high,low,values,same⟩
    cases groups with
    | nil =>
        have length := values_length ⟨[],quad⟩
        have few : quad.toList.length ≤ 1 := by cases quad <;> simp
        rw [values] at length
        simp only [List.length_cons,List.length_nil] at length
        omega
    | cons group more =>
        rw [values_cons,List.cons.injEq] at values
        obtain ⟨rest,pieces⟩ := tail_rest ⟨more,quad⟩ values.2
        refine ⟨rest,afterPrefix_iff.mpr (.inl ?_),(embeds_iff ⟨more,quad⟩ pieces).mpr ⟨high,low,values.2,same⟩⟩
        rw [split,segments_cons,(low_ffff group).mpr values.1,pieces]
        rfl

theorem opens_colon {host : List Char} (split : host.splitOn ':' = [] :: second :: more) : host.head? = some ':' := by
  rw [← joined_split ':' host,split,List.intercalate_cons_cons]
  rfl

-- The other texts by what stands before the "::".
theorem opened_verdict (right : Tail) (fewer : ([] : List Group).length + right.values.length ≤ 7) :
    isBlockedIp (String.ofList (Ipv6Text.compressed [] right fewer).print) = true ↔
      (right.quad = none ∧ right.groups.map Group.plain = [[1]]) ∨ (right.groups = [] ∧ right.quad = none) ∨
        ∃ high low, right.values = [0xffff,high,low] ∧ isBlockedIpv4 (octetsOf high low) = true := by
  have split := lowText_split (.compressed [] right fewer)
  have opens : lowText (.compressed [] right fewer) = [] :: [] :: orEmpty (lowSegments right) := rfl
  rw [opens] at split
  have unwritten : ¬ ∃ last, [] :: [] :: orEmpty (lowSegments right) = List.replicate 7 ['0'] ++ [last] ∧
      last.dropWhile (· == '0') = ['1'] := by
    rintro ⟨last,pieces,_⟩
    cases pieces
  have foreign : ¬ localPrefixes.any (·.isPrefixOf ((Ipv6Text.compressed [] right fewer).print.map Char.toLower)) = true := by
    intro its
    cases (opens_colon split).symm.trans (local_first its)
  rw [isBlockedIp_ipv6,isBlockedIpv6_iff (zoneless_text _),isWrittenOut_iff,split]
  simp only [unwritten,foreign,Bool.false_eq_true,false_or,or_false,List.cons.injEq,true_and,segments_one,segments_none,mapped_embeds right split]
  grind

-- A group before the "::" is that of the translated prefix or decides by itself.
theorem translated_embeds (group : Group) (more : List Group) (right : Tail)
    (split : host.splitOn ':' = low group :: (more.map low ++ [] :: orEmpty (lowSegments right))) :
    embeddedIpv4 host = some octets ↔ ∃ high low, (group :: more).map Group.plain = [[6,4],[15,15,9,11]] ∧
      right.values = [high,low] ∧ octets = octetsOf high low := by
  rw [embedded_iff]
  constructor
  · rintro ⟨rest,after,embedded⟩
    rcases afterPrefix_iff.mp after with its | its
    · rw [split] at its
      exact absurd (List.cons.inj its).1 (low_nonempty group)
    · rw [split] at its
      match more with
      | [] =>
          have second := (List.cons.inj (List.cons.inj its).2).1
          cases second
      | [second] =>
          simp only [List.map_cons,List.map_nil,List.cons_append,List.nil_append,List.cons.injEq,true_and] at its
          obtain ⟨first,other,pieces⟩ := its
          rw [← pieces,embeddedTail_low,tailOctets_some] at embedded
          obtain ⟨high,low_,values,same⟩ := embedded
          have plain : (group :: [second]).map Group.plain = [[6,4],[15,15,9,11]] := by
            rw [List.map_cons,List.map_cons,List.map_nil,(low_64 group).mp first,(low_ff9b second).mp other]
          exact ⟨high,low_,plain,values,same⟩
      | second :: third :: others =>
          simp only [List.map_cons,List.cons_append,List.cons.injEq] at its
          exact absurd its.2.2.1 (low_nonempty third)
  · rintro ⟨high,low_,plain,values,same⟩
    match more with
    | [] => simp at plain
    | [second] =>
        simp only [List.map_cons,List.map_nil,List.cons.injEq,and_true] at plain
        obtain ⟨rest,pieces⟩ := tail_rest right values
        refine ⟨rest,afterPrefix_iff.mpr (.inr ?_),(embeds_iff right pieces).mpr ⟨high,low_,values,same⟩⟩
        rw [split,segments_whole right values,pieces]
        simp only [List.map_cons,List.map_nil,(low_64 group).mpr plain.1,(low_ff9b second).mpr plain.2]
        rfl
    | second :: third :: others => simp at plain

theorem led_verdict (group : Group) (more : List Group) (right : Tail) (fewer : (group :: more).length + right.values.length ≤ 7) :
    isBlockedIp (String.ofList (Ipv6Text.compressed (group :: more) right fewer).print) = true ↔
      (∃ high low, (group :: more).map Group.plain = [[6,4],[15,15,9,11]] ∧ right.values = [high,low] ∧
        isBlockedIpv4 (octetsOf high low) = true) ∨ startsLocal group.plain = true := by
  have split := lowText_split (.compressed (group :: more) right fewer)
  have opens : lowText (.compressed (group :: more) right fewer) = low group :: (more.map low ++ [] :: orEmpty (lowSegments right)) := rfl
  rw [opens] at split
  have nonempty := low_nonempty group
  have empty_ : [] ∈ low group :: (more.map low ++ [] :: orEmpty (lowSegments right)) := by simp
  have unwritten : ¬ ∃ last, low group :: (more.map low ++ [] :: orEmpty (lowSegments right)) = List.replicate 7 ['0'] ++ [last] ∧
      last.dropWhile (· == '0') = ['1'] := by
    rintro ⟨last,pieces,ends⟩
    rw [pieces] at empty_
    rcases List.mem_append.mp empty_ with zero | its
    · cases List.eq_of_mem_replicate zero
    · rw [← List.mem_singleton.mp its] at ends
      cases ends
  rw [isBlockedIp_ipv6,isBlockedIpv6_iff (zoneless_text _),isWrittenOut_iff,split]
  simp only [unwritten,nonempty,List.cons.injEq,false_and,false_or,translated_embeds group more right split,
    local_pieces split]
  grind

end Payable.Net
