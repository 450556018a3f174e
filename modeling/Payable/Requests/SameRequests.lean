import Payable.Foundation.JsonValues
import Payable.Requests.CanonicalText

namespace Payable.Requests
open JsonText JsonDocuments JsonValues FiniteDoubles UnitTexts Payable.Language Checked

-- Values that are equal up to the order of the fields, fields that are undefined, elements that are undefined read as null,
-- and the sign of zero.
inductive Same : Value → Value → Prop
  | refl (v : Value) : Same v v
  | symm : Same v w → Same w v
  | trans : Same u v → Same v w → Same u w
  | zero : x.units = 0 → y.units = 0 → Same (.number (.finite x)) (.number (.finite y))
  | element (before after : List Value) : Same (.array (before ++ .undefined :: after)) (.array (before ++ .null :: after))
  | field (before : List (Utf16 × Value)) (key : Utf16) (after : List (Utf16 × Value)) :
      Same (.object (before ++ (key,.undefined) :: after)) (.object (before ++ after))
  | order : (members.map Prod.fst).Nodup → members.Perm others → Same (.object members) (.object others)
  | inArray (before after : List Value) : Same v w → Same (.array (before ++ v :: after)) (.array (before ++ w :: after))
  | inObject (before : List (Utf16 × Value)) (key : Utf16) (after : List (Utf16 × Value)) : Same v w →
      Same (.object (before ++ (key,v) :: after)) (.object (before ++ (key,w) :: after))

theorem written_zero {x : Double} (zero : x.units = 0) : Written.of x = .zero := dif_pos zero

-- What is the same has one document, and is undefined alike.
theorem Same.canonical {v w : Value} (same : Same v w) : Requests.canonical v = Requests.canonical w ∧ v.isUndefined = w.isUndefined := by
  induction same with
  | refl v => exact ⟨rfl,rfl⟩
  | symm _ ih => exact ⟨ih.1.symm,ih.2.symm⟩
  | trans _ _ one two => exact ⟨one.1.trans two.1,one.2.trans two.2⟩
  | zero x y => simp only [Requests.canonical,written_zero x,written_zero y,Value.isUndefined,and_self]
  | element before after =>
      simp only [Requests.canonical,canonicalItems_map,List.map_append,List.map_cons,Value.isUndefined,and_self]
  | field before key after =>
      have gone : isPresent (key,.undefined) = false := rfl
      simp only [Requests.canonical,canonicalMembers_map,List.filter_append,List.filter_cons,gone,Bool.false_eq_true,if_false,
        Value.isUndefined,and_self]
  | order distinct perm =>
      refine ⟨?_,rfl⟩
      have names := present_distinct distinct
      have kept := perm.filter isPresent
      simp only [Requests.canonical,canonicalMembers_map]
      rw [Keyset.ordered_agree entryKey (entryKey_distinct ?_) (entryKey_distinct ?_) fun row => (kept.map _).mem_iff]
      · rw [List.map_map]
        exact names
      · rw [List.map_map]
        exact ((kept.map Prod.fst).nodup_iff).mp names
  | inArray before after _ ih =>
      simp only [Requests.canonical,canonicalItems_map,List.map_append,List.map_cons,ih.1,Value.isUndefined,and_self]
  | @inObject v w before key after _ ih =>
      have alike : isPresent (key,v) = isPresent (key,w) := congrArg not ih.2
      simp only [Requests.canonical,canonicalMembers_map,List.filter_append,List.filter_cons,alike,Value.isUndefined,and_true]
      cases isPresent (key,w) with
      | true => simp only [if_true,List.map_append,List.map_cons,ih.1]
      | false => simp only [Bool.false_eq_true,if_false]

-- The elements change one by one, those before them changed already.
theorem Same.items {f : Value → Value} {items : List Value}
    (each : ∀ item ∈ items, item = .undefined ∧ f item = .null ∨ Same item (f item)) :
    ∀ before, Same (.array (before ++ items)) (.array (before ++ items.map f)) := by
  induction items with
  | nil => exact fun before => .refl _
  | cons item rest ih =>
      intro before
      obtain ⟨one,others⟩ := List.forall_mem_cons.mp each
      have later := ih others (before ++ [f item])
      rw [List.append_assoc,List.append_assoc,List.singleton_append,List.singleton_append] at later
      refine .trans ?_ later
      rcases one with ⟨rfl,null⟩ | same
      · rw [null]
        exact .element before rest
      · exact .inArray before rest same

theorem Same.present (members : List (Utf16 × Value)) :
    ∀ before, Same (.object (before ++ members)) (.object (before ++ members.filter isPresent)) := by
  induction members with
  | nil => exact fun before => .refl _
  | cons entry rest ih =>
      intro before
      obtain ⟨key,value⟩ := entry
      cases present : isPresent (key,value) with
      | true =>
          have later := ih (before ++ [(key,value)])
          rw [List.filter_cons_of_pos present]
          rwa [List.append_assoc,List.append_assoc,List.singleton_append,List.singleton_append] at later
      | false =>
          rw [List.filter_cons_of_neg (by rw [present]; exact Bool.false_ne_true)]
          cases value with
          | undefined => exact .trans (.field before key rest) (ih before)
          | _ => cases present

theorem Same.fields {f : Value → Value} {members : List (Utf16 × Value)} (each : ∀ entry ∈ members, Same entry.2 (f entry.2)) :
    ∀ before, Same (.object (before ++ members)) (.object (before ++ members.map fun entry => (entry.1,f entry.2))) := by
  induction members with
  | nil => exact fun before => .refl _
  | cons entry rest ih =>
      intro before
      obtain ⟨one,others⟩ := List.forall_mem_cons.mp each
      have later := ih others (before ++ [(entry.1,f entry.2)])
      rw [List.append_assoc,List.append_assoc,List.singleton_append,List.singleton_append] at later
      exact .trans (.inObject before entry.1 rest one) later

-- A value of JSON is the same as its canonical one.
theorem same_embed {value : Value} (json : IsJson value) : Same value (embed (canonical value)) := by
  induction value using Value.induction with
  | null | bool | string => exact .refl _
  | number x =>
      cases x with
      | finite x =>
          simp only [canonical,embed]
          by_cases zero : x.units = 0
          · rw [written_zero zero]
            exact .zero zero rfl
          · rw [Written.of,dif_neg zero]
            exact .refl _
      | infinity | nan => cases json
  | array items ih =>
      have each : ∀ item ∈ items, item = .undefined ∧ embed (canonical item) = .null ∨ Same item (embed (canonical item)) := by
        intro item inside
        rcases itemsJson_all json item inside with absent | its
        · cases item with
          | undefined => exact .inl ⟨rfl,rfl⟩
          | _ => cases absent
        · exact .inr (ih item inside its)
      have same := Same.items each []
      rw [canonical,embed,embedItems_map,canonicalItems_map,List.map_map]
      exact same
  | object members ih =>
      have each : ∀ entry ∈ members.filter isPresent, Same entry.2 (embed (canonical entry.2)) := fun entry inside =>
        ih entry (List.mem_filter.mp inside).1 (membersJson_present json.2 entry inside)
      have names := present_distinct json.1
      rw [canonical,embed,embedMembers_map,← ordered_map (fun entry : Utf16 × Document => (entry.1,embed entry.2)) (fun _ => rfl),
        canonicalMembers_map,List.map_map]
      refine .trans (Same.present members []) (.trans (Same.fields (f := fun value => embed (canonical value)) each []) (.order ?_ ?_))
      · rw [List.nil_append,List.map_map]
        exact names
      · exact (Keyset.ordered_perm entryKey _).symm
  | _ => cases json

theorem same_exact {v w : Value} (json : IsJson v) (json' : IsJson w) : canonical v = canonical w ↔ Same v w := by
  refine ⟨fun one => ?_,fun same => same.canonical.1⟩
  have left := same_embed json
  rw [one] at left
  exact .trans left (.symm (same_embed json'))

theorem hashRequest_text {sha256 : List UInt8 → List UInt8} {v : Value} {text : List Char} (written : canonicalize 0 v = .ok text) :
    hashRequest sha256 v = .ok ((sha256 (utf8Encode text)).flatMap hexByte) := by
  rw [hashRequest,written]
  rfl

theorem canonical_text_exact {v w : Value} (json : IsJson v) (json' : IsJson w) (shallow : nesting v ≤ maxCanonicalizeDepth)
    (shallow' : nesting w ≤ maxCanonicalizeDepth) :
    ∃ text text', canonicalize 0 v = .ok text ∧ canonicalize 0 w = .ok text' ∧ (text = text' ↔ Same v w) ∧
      ∀ sha256 : List UInt8 → List UInt8,
        (sha256 (utf8Encode text) = sha256 (utf8Encode text') → utf8Encode text = utf8Encode text') →
        (hashRequest sha256 v = hashRequest sha256 w ↔ Same v w) := by
  have left := canonicalize_canonical json 0 (by omega)
  have right := canonicalize_canonical json' 0 (by omega)
  have same : write (canonical v) = write (canonical w) ↔ Same v w :=
    ⟨fun texts => (same_exact json json').mp (write_injective texts),fun equal => congrArg write ((same_exact json json').mpr equal)⟩
  refine ⟨_,_,left,right,same,fun sha256 apart => ?_⟩
  rw [hashRequest_text left,hashRequest_text right,← same]
  refine ⟨fun hashes => ?_,fun texts => by rw [texts]⟩
  exact utf8Encode_injective (apart (hexBytes_injective (Except.ok.inj hashes)))

-- {"b":-0,"a":undefined} and {"b":0}.
def signedZero : Value := .object [([98],.number (.finite {Written.zero.double with negative := true})),([97],.undefined)]

def plainZero : Value := .object [([98],.number (.finite Written.zero.double))]

def zeroText : List Char := "\x7b\"b\":0\x7d".toList

-- SHA-256 at the one text.
def zeroSha256 (bytes : List UInt8) : List UInt8 :=
  if bytes = utf8Encode zeroText then
    [244,134,168,249,1,194,169,214,186,54,34,74,181,16,198,199,141,109,38,235,95,100,114,84,183,161,233,138,234,175,159,176]
  else bytes

theorem canonical_text_exact_zero : canonicalize 0 signedZero = .ok zeroText ∧ canonicalize 0 plainZero = .ok zeroText ∧
    Same signedZero plainZero ∧ hashRequest zeroSha256 signedZero = hashRequest zeroSha256 plainZero ∧
      hashRequest zeroSha256 plainZero = .ok "f486a8f901c2a9d6ba36224ab510c6c78d6d26eb5f647254b7a1e98aeaaf9fb0".toList := by
  have json : IsJson signedZero := ⟨by decide,.inr trivial,.inl rfl,trivial⟩
  have json' : IsJson plainZero := ⟨by decide,.inr trivial,trivial⟩
  have signed : canonicalize 0 signedZero = .ok zeroText := by
    rw [canonicalize_canonical json 0 (by decide)]
    decide +kernel
  have plain : canonicalize 0 plainZero = .ok zeroText := by
    rw [canonicalize_canonical json' 0 (by decide)]
    decide +kernel
  obtain ⟨text,text',left,right,same,hashed⟩ := canonical_text_exact json json' (by decide) (by decide)
  cases Except.ok.inj (left.symm.trans signed)
  cases Except.ok.inj (right.symm.trans plain)
  refine ⟨signed,plain,same.mp rfl,(hashed zeroSha256 fun _ => rfl).mpr (same.mp rfl),?_⟩
  rw [hashRequest_text plain,zeroSha256,if_pos rfl]
  decide +kernel

end Payable.Requests
