import Payable.Collections.CursorContexts
import Mathlib.Tactic.NormNum

namespace Payable.Collections
open JsonText JsonParse IsoDates Storage

theorem utf8Bytes_small (text : List Char) : ∀ byte ∈ utf8Bytes text, byte < 256 := by
  intro byte inside
  obtain ⟨octet,_,rfl⟩ := List.mem_map.mp inside
  exact octet.toNat_lt

theorem decodeUtf8_utf8Bytes (text : List Char) : decodeUtf8 (utf8Bytes text) = some (dropByteOrderMark text) := by
  have back : ByteArray.mk ((utf8Bytes text).map UInt8.ofNat).toArray = (String.ofList text).toByteArray := by
    simp [utf8Bytes,Function.comp_def]
  rw [decodeUtf8,back,String.toByteArray_ofList,List.utf8Decode?_utf8Encode,Option.map_some]

theorem dropByteOrderMark_braced (texts : List (List Char)) : dropByteOrderMark (braced texts) = braced texts := rfl

theorem fromBase64Url_toBase64Url (texts : List (List Char)) : fromBase64Url (toBase64Url (braced texts)) = .ok (braced texts) := by
  rw [fromBase64Url,toBase64Url,Base64Url.decode_encode _ (utf8Bytes_small _)]
  dsimp only
  rw [decodeUtf8_utf8Bytes,dropByteOrderMark_braced]

theorem toBase64Url_braced (texts : List (List Char)) :
    ¬ (toBase64Url (braced texts) = [] ∨ ∃ c ∈ toBase64Url (braced texts), Base64Url.sextet c = none) := by
  rintro (empty | ⟨c,inside,unknown⟩)
  · have read := fromBase64Url_toBase64Url texts
    rw [empty] at read
    cases read
  · have known := Base64Url.encode_known _ c inside
    rw [unknown] at known
    cases known

theorem codeUnits_inj : codeUnits s = codeUnits t ↔ s = t := ⟨codeUnits_injective,fun same => same ▸ rfl⟩

def payloadEntries (boundary : ListCursor) (context : CollectionCursorContext) : List (String × List Char × Value) := [
  ("v",['1'],.number false 1 0),
  ("context",quote (serializeContext context),.string (codeUnits (serializeContext context))),
  ("createdAt",quote (String.ofList (toISOString boundary.createdAt)),.string (codeUnits (String.ofList (toISOString boundary.createdAt)))),
  ("id",quote boundary.id,.string (codeUnits boundary.id))]

theorem payload_reads (boundary : ListCursor) (context : CollectionCursorContext) :
    ∀ entry ∈ payloadEntries boundary context, Reads entry.2.1 entry.2.2 := by
  intro entry inside
  simp only [payloadEntries,List.mem_cons,List.not_mem_nil,or_false] at inside
  rcases inside with rfl | rfl | rfl | rfl
  · exact reads_one
  · exact reads_string _
  · exact reads_string _
  · exact reads_string _

theorem isVersion_one : isVersion (some (.number false 1 0)) = true := by norm_num [isVersion,roundsToOne]

theorem cursorPayload_entries (boundary : ListCursor) (named : boundary.id ≠ "") (context : CollectionCursorContext) :
    cursorPayload (.object ((payloadEntries boundary context).map fun entry => (codeUnits entry.1,entry.2.2))) =
      some ⟨codeUnits (serializeContext context),codeUnits (String.ofList (toISOString boundary.createdAt)),codeUnits boundary.id⟩ := by
  have some_ : codeUnits boundary.id ≠ [] := fun empty => named (codeUnits_injective empty)
  simp [cursorPayload,payloadEntries,property,codeUnits_inj,isVersion_one,some_]

theorem codeUnits_ascii {text : List Char} (ascii : ∀ c ∈ text, c.toNat < 128) : codeUnits (String.ofList text) = text.map Char.toNat := by
  rw [codeUnits_flat,String.toList_ofList]
  induction text with
  | nil => rfl
  | cons c rest ih =>
      have first := ascii c List.mem_cons_self
      rw [List.flatMap_cons,ih fun d inside => ascii d (List.mem_cons_of_mem _ inside),unitsOf,if_pos (by omega)]
      rfl

variable (otherDates : List Nat → Option Int)

theorem dateOf_toISOString (valid : validTime time = true) : dateOf otherDates (codeUnits (String.ofList (toISOString time))) = some time := by
  have ascii := toISOString_ascii valid
  have all : ((toISOString time).map Char.toNat).all (· < 128) = true := by simpa using ascii
  have back : ((toISOString time).map Char.toNat).map Char.ofNat = toISOString time := by simp [Function.comp_def]
  rw [dateOf,codeUnits_ascii ascii,if_pos all,back,readISOString_toISOString valid]
  simp [valid]

open Classical in
-- What is decoded of a cursor under any context.
theorem decodeWithin_encoded (boundary : ListCursor) (valid : validTime boundary.createdAt = true) (named : boundary.id ≠ "")
    (encoded context : CollectionCursorContext) :
    ∃ cursor, encodeCollectionCursor boundary encoded = some cursor ∧ decodeWithin otherDates cursor context =
      if SameBut stored encoded context then .ok ⟨boundary.createdAt,codeUnits boundary.id⟩
      else .error (.error "Invalid collection cursor context") := by
  have texts : render (.object [("v",.number (.ofNat cursorVersion)),("context",.string (serializeContext encoded)),
      ("createdAt",.string (String.ofList (toISOString boundary.createdAt))),("id",.string boundary.id)]) =
      braced ((payloadEntries boundary encoded).map fun entry => member entry.1 entry.2.1) := rfl
  refine ⟨_,if_pos valid,?_⟩
  rw [texts]
  rw [decodeWithin,if_neg (toBase64Url_braced _),fromBase64Url_toBase64Url]
  have parsed := parse_braced _ (payload_reads boundary encoded)
  have payload := cursorPayload_entries boundary named encoded
  have date := dateOf_toISOString otherDates valid
  simp only [bind,Except.bind,parsed,Option.elim,payload,date]
  by_cases same : SameBut stored encoded context
  · rw [if_pos same,if_neg (not_not_intro ((serializeContext_iff encoded context).mpr same))]
  · rw [if_neg same,if_pos fun equal => same ((serializeContext_iff encoded context).mp equal)]

theorem dateOf_valid (found : dateOf otherDates text = some time) : validTime time = true := (Option.filter_eq_some_iff.mp found).2

theorem cursorPayload_named (found : cursorPayload value = some payload) : payload.id ≠ [] := by
  unfold cursorPayload at found
  split at found
  · split at found
    · split at found
      · rename_i its
        cases found
        simp only [Bool.and_eq_true,decide_eq_true_eq] at its
        exact its.2
      · cases found
    · cases found
  · cases found

theorem decodeWithin_sound (found : decodeWithin otherDates cursor context = .ok decoded) :
    validTime decoded.createdAt = true ∧ decoded.id ≠ [] := by
  unfold decodeWithin at found
  split at found
  · cases found
  · simp only [bind,Except.bind] at found
    split at found
    · cases found
    · split at found
      · cases found
      · split at found
        · cases found
        · rename_i payload valued
          split at found
          · cases found
          · split at found
            · cases found
            · rename_i createdAt dated
              cases found
              exact ⟨dateOf_valid otherDates dated,cursorPayload_named valued⟩

-- Every text is a cursor of a boundary, or is refused with the one error.
theorem decode_answers (cursor : List Char) (context : CollectionCursorContext) :
    (∃ decoded, decodeCollectionCursor otherDates cursor context = .ok decoded ∧ validTime decoded.createdAt = true ∧ decoded.id ≠ []) ∨
      ∃ cause, decodeCollectionCursor otherDates cursor context =
        .error ⟨"The collection cursor is invalid","COLLECTION_CURSOR_INVALID",cause⟩ := by
  unfold decodeCollectionCursor
  cases within : decodeWithin otherDates cursor context with
  | error cause => exact .inr ⟨cause,rfl⟩
  | ok decoded => exact .inl ⟨decoded,rfl,decodeWithin_sound otherDates within⟩

-- A cursor opens under the contexts that are the same as its own, and under no others.
def BoundTo (boundary : ListCursor) (encoded context : CollectionCursorContext) : Prop :=
  ∃ cursor, encodeCollectionCursor boundary encoded = some cursor ∧
    (decodeCollectionCursor otherDates cursor context = .ok ⟨boundary.createdAt,codeUnits boundary.id⟩ ↔ Same encoded context) ∧
    (¬ Same encoded context → ∃ cause, decodeCollectionCursor otherDates cursor context =
      .error ⟨"The collection cursor is invalid","COLLECTION_CURSOR_INVALID",cause⟩)

theorem boundTo_iff (boundary : ListCursor) (valid : validTime boundary.createdAt = true) (named : boundary.id ≠ "")
    (encoded context : CollectionCursorContext) :
    BoundTo otherDates boundary encoded context ↔ (SameBut stored encoded context → Same encoded context) := by
  obtain ⟨cursor,written,read⟩ := decodeWithin_encoded otherDates boundary valid named encoded context
  constructor
  · rintro ⟨other,written',opens,_⟩ stored
    cases written.symm.trans written'
    exact opens.mp (by rw [decodeCollectionCursor,read,if_pos stored]; rfl)
  · intro told
    refine ⟨cursor,written,?_,?_⟩
    · rw [decodeCollectionCursor,read]
      constructor
      · intro opened
        by_cases stored : SameBut stored encoded context
        · exact told stored
        · rw [if_neg stored] at opened
          cases opened
      · intro same
        rw [if_pos (Same.stored same)]
        rfl
    · intro other
      rw [decodeCollectionCursor,read,if_neg fun stored => other (told stored)]
      exact ⟨_,rfl⟩

theorem cursors_bound_iff (boundary : ListCursor) (valid : validTime boundary.createdAt = true) (named : boundary.id ≠ "")
    (encoded context : CollectionCursorContext) :
    (BoundTo otherDates boundary encoded context ↔ (SameBut stored encoded context → Same encoded context)) ∧
      ∀ cursor, (∃ decoded, decodeCollectionCursor otherDates cursor context = .ok decoded ∧ validTime decoded.createdAt = true ∧
          decoded.id ≠ []) ∨
        ∃ cause, decodeCollectionCursor otherDates cursor context =
          .error ⟨"The collection cursor is invalid","COLLECTION_CURSOR_INVALID",cause⟩ :=
  ⟨boundTo_iff otherDates boundary valid named encoded context,fun cursor => decode_answers otherDates cursor context⟩

def contextOf (filters : List (String × Option FilterValue)) (orderVersion : Option String) (keyed : Keyed (.object filters)) :
    CollectionCursorContext := ⟨"payments",some "acme",filters,orderVersion,keyed⟩

def paid : CollectionCursorContext :=
  contextOf [("status",some (.string "paid")),("currency",some (.string "EUR")),("reference",none)] none (by
    simp [Keyed,KeyedFields])

def paidAgain : CollectionCursorContext :=
  contextOf [("currency",some (.string "EUR")),("status",some (.string "paid"))] (some defaultOrderVersion) (by simp [Keyed,KeyedFields])

theorem paid_same : Same paid paidAgain := by
  refine ⟨rfl,rfl,?_,rfl⟩
  rw [meaning,meaning,Meaning.object.injEq]
  funext key
  by_cases status : "status" = key
  · subst status
    rfl
  · by_cases currency : "currency" = key
    · subst currency
      rfl
    · simp [paid,paidAgain,contextOf,fieldMeaning,status,currency]

theorem cursors_bound_paid : BoundTo (fun _ => none) ⟨951782400123,"p1"⟩ paid paidAgain :=
  (cursors_bound_iff (fun _ => none) ⟨951782400123,"p1"⟩ (by decide) (by decide) paid paidAgain).1.mpr fun _ => paid_same

-- A filter of an own field __proto__ is written as no filter.
def hidden : CollectionCursorContext := contextOf [("__proto__",some (.string "paid"))] none (by simp [Keyed,KeyedFields])

def unfiltered : CollectionCursorContext := contextOf [] none (by simp [Keyed,KeyedFields])

theorem hidden_opens : ¬ ∀ boundary : ListCursor, validTime boundary.createdAt = true → boundary.id ≠ "" → ∀ encoded context,
    BoundTo (fun _ => none) boundary encoded context := by
  intro bound
  have told := (boundTo_iff (fun _ => none) ⟨0,"p1"⟩ (by decide) (by decide) hidden unfiltered).mp (bound ⟨0,"p1"⟩ (by decide) (by decide) _ _)
  have alike : SameBut stored hidden unfiltered := by
    refine ⟨rfl,rfl,?_,rfl⟩
    rw [meaning,meaning,Meaning.object.injEq]
    funext key
    simp [hidden,unfiltered,contextOf,fieldMeaning,stored]
  have fields := congrFun (Meaning.object.inj (told alike).filters) "__proto__"
  cases fields

end Payable.Collections
