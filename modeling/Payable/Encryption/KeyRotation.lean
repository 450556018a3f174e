import Payable.Encryption.NodeEncryptionDriver

namespace Payable.Encryption
open Checked JsonText

-- The columns of a webhook event that are sealed. Every value draws its own IV.
structure NewWebhookEvent where
  payload : String
  signature : Option String
  data : Json
  headers : Json

structure WebhookEventTexts where
  payload : String
  signature : Option String
  data : String
  headers : String
  deriving DecidableEq

def stringify (value : Json) : String := String.ofList (render value)

def textsOf (event : NewWebhookEvent) : WebhookEventTexts :=
  ⟨event.payload,event.signature,stringify event.data,stringify event.headers⟩

def seal_ (node : Node) (encryption : Option NodeEncryptionDriver) (iv : Iv) (value : String) : String :=
  match encryption with
  | some driver => encrypt node driver iv value
  | none => value

def open_ (node : Node) (encryption : Option NodeEncryptionDriver) (value : String) : Except PayableError String :=
  match encryption with
  | some driver => decrypt node driver value
  | none => .ok value

def sealEvent (node : Node) (encryption : Option NodeEncryptionDriver) (ivs : Nat → Iv) (event : NewWebhookEvent) : WebhookEventTexts where
  payload := seal_ node encryption (ivs 0) event.payload
  signature := event.signature.map (seal_ node encryption (ivs 1))
  data := seal_ node encryption (ivs 2) (stringify event.data)
  headers := seal_ node encryption (ivs 3) (stringify event.headers)

def openNullable (node : Node) (encryption : Option NodeEncryptionDriver) : Option String → Except PayableError (Option String)
  | none => .ok none
  | some sealed => (open_ node encryption sealed).map some

-- hydrate, before the texts are parsed.
def hydrate (node : Node) (encryption : Option NodeEncryptionDriver) (row : WebhookEventTexts) : Except PayableError WebhookEventTexts := do
  let payload ← open_ node encryption row.payload
  let signature ← openNullable node encryption row.signature
  let data ← open_ node encryption row.data
  let headers ← open_ node encryption row.headers
  return ⟨payload,signature,data,headers⟩

theorem hydrate_ok : hydrate node encryption row = .ok texts ↔ open_ node encryption row.payload = .ok texts.payload ∧
    openNullable node encryption row.signature = .ok texts.signature ∧ open_ node encryption row.data = .ok texts.data ∧
      open_ node encryption row.headers = .ok texts.headers := by
  simp only [hydrate,bind_ok,pure_ok]
  constructor
  · rintro ⟨payload,first,signature,second,data,third,headers,fourth,rfl⟩
    exact ⟨first,second,third,fourth⟩
  · rintro ⟨first,second,third,fourth⟩
    exact ⟨_,first,_,second,_,third,_,fourth,rfl⟩

theorem utf8_back (node : Node) (text : String) : toStringUtf8 node (utf8 text) = text := by
  have back : ByteArray.mk (utf8 text).toArray = text.toByteArray := by simp [utf8]
  have decoded : text.toByteArray.utf8Decode? = some text.toList.toArray := by
    have whole := @List.utf8Decode?_utf8Encode text.toList
    rwa [← String.toByteArray_ofList,String.ofList_toList] at whole
  rw [toStringUtf8,back,decoded]
  simp

theorem utf8_empty {text : String} : utf8 text = [] ↔ text = "" := by
  constructor
  · intro nothing
    have bytes : text.toByteArray = "".toByteArray := by
      refine ByteArray.ext (Array.toList_inj.mp ?_)
      exact nothing
    exact String.toByteArray_inj.mp bytes
  · rintro rfl
    rfl

theorem base64_back (bytes : Bytes) : fromBase64 (toBase64 bytes) = bytes := by
  rw [fromBase64,toBase64,Base64.decode_encode]
  · simp [Function.comp_def]
  · intro byte member
    obtain ⟨octet,_,rfl⟩ := List.mem_map.mp member
    exact octet.toNat_lt

theorem base64_empty (bytes : Bytes) : toBase64 bytes = [] ↔ bytes = [] := by
  rw [toBase64,Base64.encode_nil,List.map_eq_nil_iff]

theorem keyId_plain {id : String} (valid : isKeyId id = true) : id.toList ≠ [] ∧ ':' ∉ id.toList := by
  simp only [isKeyId,Bool.and_eq_true,Bool.not_eq_true',List.isEmpty_eq_false_iff,List.all_eq_true] at valid
  exact ⟨valid.1,fun member => by cases valid.2 ':' member⟩

theorem active_valid (driver : NodeEncryptionDriver) : isKeyId driver.activeKeyId = true := by
  obtain ⟨before,after,split,_⟩ := List.lookup_eq_some_iff.mp driver.active
  exact driver.keys.valid (driver.activeKeyId,driver.key) (by rw [split]; simp)

-- The ciphertext and the tag of an encryption.
def enciphered (node : Node) (driver : NodeEncryptionDriver) (iv : Iv) (plaintext : String) : Bytes × Bytes :=
  node.encipher driver.key iv (utf8 (String.ofList (aadOf driver.activeKeyId.toList))) (utf8 plaintext)

-- The envelope is split where it was joined.
theorem envelope_parts (node : Node) (driver : NodeEncryptionDriver) (iv : Iv) (plaintext : String) :
    (encrypt node driver iv plaintext).toList.splitOn ':' =
      ["v1".toList,driver.activeKeyId.toList,toBase64 iv.bytes,toBase64 (enciphered node driver iv plaintext).2,
        toBase64 (enciphered node driver iv plaintext).1] := by
  have joined : (encrypt node driver iv plaintext).toList =
      [':'].intercalate ["v1".toList,driver.activeKeyId.toList,toBase64 iv.bytes,toBase64 (enciphered node driver iv plaintext).2,
        toBase64 (enciphered node driver iv plaintext).1] := by
    simp [encrypt,enciphered,aadOf]
  rw [joined,List.splitOn_intercalate ':' ?_ (List.cons_ne_nil _ _)]
  simp only [List.mem_cons,List.not_mem_nil,or_false]
  rintro piece (rfl | rfl | rfl | rfl | rfl)
  · decide
  · exact (keyId_plain (active_valid driver)).2
  · exact Base64.encode_plain _
  · exact Base64.encode_plain _
  · exact Base64.encode_plain _

theorem decrypt_encrypt {node : Node} (gcm : node.IsGcm) {first second : NodeEncryptionDriver}
    (kept : second.keys.get first.activeKeyId = some first.key) (iv : Iv) (plaintext : String) :
    decrypt node second (encrypt node first iv plaintext) = if plaintext = "" then .error malformed else .ok plaintext := by
  have named : first.activeKeyId.toList ≠ [] := (keyId_plain (active_valid first)).1
  have drawn : toBase64 iv.bytes ≠ [] := by
    intro nothing
    have full := iv.full
    rw [(base64_empty _).mp nothing] at full
    cases full
  have tagged : toBase64 (enciphered node first iv plaintext).2 ≠ [] := by
    intro nothing
    have full := gcm.tagged first.key iv (utf8 (String.ofList (aadOf first.activeKeyId.toList))) (utf8 plaintext)
    rw [show (node.encipher first.key iv (utf8 (String.ofList (aadOf first.activeKeyId.toList))) (utf8 plaintext)).2 = []
      from (base64_empty _).mp nothing] at full
    cases full
  have sized : toBase64 (enciphered node first iv plaintext).1 = [] ↔ plaintext = "" := by
    rw [base64_empty,← List.length_eq_zero_iff,enciphered,gcm.sized,List.length_eq_zero_iff,utf8_empty]
  have keyed : keyForId second first.activeKeyId.toList = .ok first.key := by
    rw [keyForId,String.ofList_toList,kept]
    rfl
  have whole : ("v1".toList = "v1".toList && !first.activeKeyId.toList.isEmpty && !(toBase64 iv.bytes).isEmpty &&
      !(toBase64 (enciphered node first iv plaintext).2).isEmpty && !(toBase64 (enciphered node first iv plaintext).1).isEmpty) =
        decide (plaintext ≠ "") := by
    rw [Bool.eq_iff_iff]
    simp only [Bool.and_eq_true,Bool.not_eq_true',List.isEmpty_eq_false_iff,decide_eq_true_eq,ne_eq,sized]
    exact ⟨fun its => its.2,fun some_ => ⟨⟨⟨⟨trivial,named⟩,drawn⟩,tagged⟩,some_⟩⟩
  have opened := gcm.opens first.key iv (utf8 (String.ofList (aadOf first.activeKeyId.toList))) (utf8 plaintext)
  rw [decrypt,envelope_parts,resolveEnvelope,whole,keyed]
  by_cases empty_ : plaintext = ""
  · rw [if_pos empty_,if_neg (by simp [empty_])]
    rfl
  · rw [if_neg empty_,if_pos (by simp [empty_])]
    simp only [Except.map,base64_back,enciphered,opened,require,bind,Except.bind,utf8_back]
    rfl

theorem decrypt_iff {node : Node} (gcm : node.IsGcm) {first second : NodeEncryptionDriver}
    (kept : second.keys.get first.activeKeyId = some first.key) (iv : Iv) (plaintext : String) :
    decrypt node second (encrypt node first iv plaintext) = .ok plaintext ↔ plaintext ≠ "" := by
  rw [decrypt_encrypt gcm kept]
  split
  · rename_i empty_
    simp [empty_]
  · rename_i some_
    simp [some_]

theorem stringify_nonempty (value : Json) : stringify value ≠ "" := by
  intro nothing
  obtain ⟨c,tail,opens,_⟩ := render_opens value
  have text := congrArg String.toList nothing
  rw [stringify,String.toList_ofList,opens] at text
  cases text

-- What one keyring has sealed another opens, as long as it keeps the key and nothing is empty.
theorem rotation_round_trip {node : Node} (gcm : node.IsGcm) (first second : NodeEncryptionDriver)
    (kept : second.keys.get first.activeKeyId = some first.key) :
    (∀ iv plaintext, decrypt node second (encrypt node first iv plaintext) = .ok plaintext ↔ plaintext ≠ "") ∧
      (∀ ivs event, hydrate node (some second) (sealEvent node (some first) ivs event) = .ok (textsOf event) ↔
        event.payload ≠ "" ∧ event.signature ≠ some "") ∧
      ∀ iv payload, open_ node (some second) (seal_ node (some first) iv (stringify payload)) = .ok (stringify payload) := by
  refine ⟨decrypt_iff gcm kept,?_,?_⟩
  · intro ivs event
    have payload : open_ node (some second) (sealEvent node (some first) ivs event).payload = .ok event.payload ↔ event.payload ≠ "" :=
      decrypt_iff gcm kept (ivs 0) event.payload
    have signature : openNullable node (some second) (sealEvent node (some first) ivs event).signature = .ok event.signature ↔
        event.signature ≠ some "" := by
      simp only [sealEvent]
      cases event.signature with
      | none => simp [openNullable]
      | some text =>
          simp only [Option.map_some,openNullable,map_ok,Option.some.injEq,exists_eq_right]
          exact (decrypt_iff gcm kept (ivs 1) text).trans (by simp)
    have data : open_ node (some second) (sealEvent node (some first) ivs event).data = .ok (stringify event.data) :=
      (decrypt_iff gcm kept (ivs 2) _).mpr (stringify_nonempty event.data)
    have headers : open_ node (some second) (sealEvent node (some first) ivs event).headers = .ok (stringify event.headers) :=
      (decrypt_iff gcm kept (ivs 3) _).mpr (stringify_nonempty event.headers)
    rw [hydrate_ok,← payload,← signature]
    exact ⟨fun its => ⟨its.1,its.2.1⟩,fun its => ⟨its.1,its.2,data,headers⟩⟩
  · intro iv payload
    exact (decrypt_iff gcm kept iv _).mpr (stringify_nonempty payload)

section Example

def exampleIv : Iv := ⟨[0,1,2,3,4,5,6,7,8,9,10,11],rfl⟩

def exampleKey : Key := ⟨List.replicate 32 170,rfl⟩

def exampleAad : Bytes := utf8 "v1:k1"

-- What AES-256-GCM makes of "secret" and of "" under this key, IV and additional data.
def secretSealed : Bytes × Bytes := ([233,189,179,134,145,248],[181,251,26,53,39,145,225,13,195,133,159,131,63,75,244,153])

def emptySealed : Bytes × Bytes := ([],[10,111,89,181,42,32,7,244,249,73,172,16,231,105,197,118])

def zeroTag : Bytes := List.replicate 16 0

def exampleNode : Node where
  scryptSync _ _ := exampleKey
  encipher key iv aad plaintext :=
    if key = exampleKey ∧ iv.bytes = exampleIv.bytes ∧ aad = exampleAad then
      if plaintext = utf8 "secret" then secretSealed else if plaintext = [] then emptySealed else (plaintext,zeroTag)
    else (plaintext,zeroTag)
  decipher key iv aad tag data :=
    if key = exampleKey ∧ iv = exampleIv.bytes ∧ aad = exampleAad then
      if (data,tag) = secretSealed then some (utf8 "secret")
      else if (data,tag) = emptySealed then some []
      else if tag = zeroTag ∧ data ≠ utf8 "secret" ∧ data ≠ [] then some data
      else none
    else if tag = zeroTag then some data else none
  replaced _ := ""

theorem exampleNode_gcm : exampleNode.IsGcm := by
  have zero : zeroTag ≠ secretSealed.2 ∧ zeroTag ≠ emptySealed.2 := by decide
  have lengths : (utf8 "secret").length = 6 ∧ secretSealed.1.length = 6 ∧ secretSealed ≠ emptySealed := by decide
  constructor
  · intro key iv aad plaintext
    dsimp only [exampleNode]
    split
    · rename_i real
      by_cases secret : plaintext = utf8 "secret"
      · rw [if_pos secret,if_pos rfl,secret]
      · rw [if_neg secret]
        by_cases nothing : plaintext = []
        · rw [if_pos nothing,if_neg (Ne.symm lengths.2.2),if_pos rfl,nothing]
        · rw [if_neg nothing,if_neg fun same => zero.1 (congrArg Prod.snd same),if_neg fun same => zero.2 (congrArg Prod.snd same),
            if_pos ⟨rfl,secret,nothing⟩]
    · rw [if_pos rfl]
  · intro key iv aad tag data plaintext opened
    dsimp only [exampleNode] at opened ⊢
    split at opened
    · rename_i real
      rw [if_pos real]
      split at opened
      · rename_i its
        cases opened
        rw [if_pos rfl,its]
      · split at opened
        · rename_i its
          cases opened
          rw [if_neg (by decide),if_pos rfl,its]
        · split at opened
          · rename_i its
            cases opened
            rw [if_neg its.2.1,if_neg its.2.2,its.1]
          · cases opened
    · rename_i other
      rw [if_neg other]
      split at opened
      · rename_i its
        cases opened
        rw [its]
      · cases opened
  · intro key iv aad plaintext
    dsimp only [exampleNode]
    split
    · split
      · rename_i secret
        rw [secret,lengths.1,lengths.2.1]
      · split
        · rename_i nothing
          rw [nothing]
          rfl
        · rfl
    · rfl
  · intro key iv aad plaintext
    dsimp only [exampleNode]
    repeat' split
    all_goals rfl

def exampleKeyring : Keyring := ⟨[("k1",exampleKey)],by decide⟩

def exampleFirst : NodeEncryptionDriver := ⟨exampleKeyring,"k1",exampleKey,by decide⟩

def exampleRotated : NodeEncryptionDriver :=
  ⟨exampleKeyring.set "k2" ⟨List.replicate 32 187,rfl⟩ (by decide),"k2",⟨List.replicate 32 187,rfl⟩,by decide⟩

theorem secret_round_trip :
    decrypt exampleNode exampleRotated (encrypt exampleNode exampleFirst exampleIv "secret") = .ok "secret" :=
  ((rotation_round_trip exampleNode_gcm exampleFirst exampleRotated (by decide)).1 exampleIv "secret").mpr (by decide)

theorem empty_unopened : ¬ ∀ (node : Node), node.IsGcm → ∀ (first second : NodeEncryptionDriver),
    second.keys.get first.activeKeyId = some first.key → ∀ iv plaintext,
      decrypt node second (encrypt node first iv plaintext) = .ok plaintext := by
  intro claimed
  have opened := claimed exampleNode exampleNode_gcm exampleFirst exampleRotated (by decide) exampleIv ""
  rw [decrypt_encrypt exampleNode_gcm (by decide),if_pos rfl] at opened
  cases opened

end Example

end Payable.Encryption
