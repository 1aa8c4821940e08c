import Rustasea.Auth.Passkeys

namespace Rustasea.Auth

open ByteReads List Option
open PasskeyService (RP_ID_HASH_LEN AAGUID_LEN AUTH_DATA_HEADER_LEN)

/-!
# Authenticator data

The bytes an authenticator signs begin with a header of fixed length: the hash
of the relying party's id, the flags and the signature counter.  Flag `0x40`
announces attested credential data behind it: the model id, the length of the
credential id, the id, and the public key up to the end.

The parser is embedded with every slice and every index as a read that may lie
outside the input, which would be a panic.  It never does; the parser accepts
exactly the encodings of the data it returns, where the data is not attested
followed by anything.
-/

namespace AuthenticatorData

def FLAG_ATTESTED_CREDENTIAL_DATA : UInt8 := 0x40

/-- What the parser returns. -/
structure AuthData where
  rpIdHash : List UInt8
  flags : UInt8
  counter : UInt32
  credentialId : Option (List UInt8)
  coseKey : Option (List UInt8)
  deriving DecidableEq

/--
Parse the header and the attested credential data; no result is a panic of a
read outside the input.
-/
def parseAuthData (bytes : List UInt8) : Option (Except AuthError AuthData) :=
  if bytes.length < AUTH_DATA_HEADER_LEN then
    some (.error (.passkey "authenticatorData is too short"))
  else do
    let rpIdHash ← slice bytes 0 RP_ID_HASH_LEN
    let flags ← bytes[RP_ID_HASH_LEN]?
    let counter0 ← bytes[RP_ID_HASH_LEN + 1]?
    let counter1 ← bytes[RP_ID_HASH_LEN + 2]?
    let counter2 ← bytes[RP_ID_HASH_LEN + 3]?
    let counter3 ← bytes[RP_ID_HASH_LEN + 4]?
    let counter := UInt32.ofNat (ofBigEndian [counter0, counter1, counter2, counter3])
    if flags &&& FLAG_ATTESTED_CREDENTIAL_DATA = 0 then
      some (.ok { rpIdHash, flags, counter, credentialId := none, coseKey := none })
    else
      let cursor := AUTH_DATA_HEADER_LEN
      if bytes.length < cursor + AAGUID_LEN + 2 then
        some (.error (.passkey "attested credential data is truncated"))
      else do
        let cursor := cursor + AAGUID_LEN
        let high ← bytes[cursor]?
        let low ← bytes[cursor + 1]?
        let idLen := ofBigEndian [high, low]
        let cursor := cursor + 2
        if bytes.length < cursor + idLen then some (.error (.passkey "credential id is truncated"))
        else do
          let credentialId ← slice bytes cursor (cursor + idLen)
          let cursor := cursor + idLen
          if bytes.length ≤ cursor then some (.error (.passkey "COSE public key is missing"))
          else do
            let coseKey ← slice bytes cursor bytes.length
            some (.ok
                { rpIdHash, flags, counter
                  credentialId := some credentialId
                  coseKey := some coseKey })

/-! ## The layout -/

/-- The credential data that an authenticator attests. -/
structure AttestedCredential where
  aaguid : List UInt8
  credentialId : List UInt8
  publicKey : List UInt8
  length_aaguid : aaguid.length = AAGUID_LEN
  length_credentialId : credentialId.length < 256 ^ 2
  publicKey_ne_nil : publicKey ≠ []

/-- The attested part: the model id, the id behind its length, the key. -/
def AttestedCredential.encode (credential : AttestedCredential) : List UInt8 :=
  credential.aaguid ++ (toBigEndian 2 credential.credentialId.length ++
      (credential.credentialId ++ credential.publicKey))

end AuthenticatorData

open AuthenticatorData

/-- Authenticator data, whose flags say whether credential data is attested. -/
structure AuthenticatorData where
  rpIdHash : List UInt8
  flags : UInt8
  counter : UInt32
  attested : Option AttestedCredential
  length_rpIdHash : rpIdHash.length = RP_ID_HASH_LEN
  isSome_attested : attested.isSome = true ↔ flags &&& FLAG_ATTESTED_CREDENTIAL_DATA ≠ 0

namespace AuthenticatorData

def header (rpIdHash : List UInt8) (flags : UInt8) (counter : UInt32) : List UInt8 :=
  rpIdHash ++ flags :: toBigEndian 4 counter.toNat

def encode (data : AuthenticatorData) : List UInt8 :=
  header data.rpIdHash data.flags data.counter ++
    (data.attested.map AttestedCredential.encode).getD []

def fields (data : AuthenticatorData) : AuthData where
  rpIdHash := data.rpIdHash
  flags := data.flags
  counter := data.counter
  credentialId := data.attested.map (·.credentialId)
  coseKey := data.attested.map (·.publicKey)

/-! ## The parser on a header and what follows -/

variable {rpIdHash : List UInt8}

def parseAttested (header : AuthData) (tail : List UInt8) : Option (Except AuthError AuthData) :=
  if tail.length < AAGUID_LEN + 2 then
    some (.error (.passkey "attested credential data is truncated"))
  else
    let idLen := ofBigEndian ((tail.drop AAGUID_LEN).take 2)
    let rest := tail.drop (AAGUID_LEN + 2)
    if rest.length < idLen then some (.error (.passkey "credential id is truncated"))
    else if rest.length = idLen then some (.error (.passkey "COSE public key is missing"))
    else
      some (.ok
          { header with credentialId := some (rest.take idLen), coseKey := some (rest.drop idLen) })

variable {bytes : List UInt8}

theorem exists_append {count : Nat} (holds : count ≤ bytes.length) :
    ∃ front back, bytes = front ++ back ∧ front.length = count :=
  ⟨bytes.take count, bytes.drop count, (take_append_drop ..).symm,
    length_take_of_le holds⟩

variable {front back : List UInt8}

theorem slice_front {stop : Nat} (stops : front.length = stop) :
    slice (front ++ back) 0 stop = some front := by
  subst stops
  simp [slice]

theorem slice_back {start stop : Nat} (starts : front.length = start)
    (stops : start + back.length = stop) : slice (front ++ back) start stop = some back := by
  subst starts stops
  simp [slice]

/-- The parser reads the attested part behind an attesting header. -/
theorem parseAuthData_header {hash : List UInt8} (length_hash : hash.length = RP_ID_HASH_LEN)
    (flags counter0 counter1 counter2 counter3 : UInt8) (tail : List UInt8) : parseAuthData
        (hash ++ flags :: counter0 :: counter1 :: counter2 :: counter3 :: tail) =
      let header : AuthData :=
        { rpIdHash := hash
          flags := flags
          counter := UInt32.ofNat (ofBigEndian [counter0, counter1, counter2, counter3])
          credentialId := none
          coseKey := none }
      if flags &&& FLAG_ATTESTED_CREDENTIAL_DATA = 0 then some (.ok header)
      else parseAttested header tail := by
  have hasHash : hash.length = 32 := length_hash
  unfold parseAuthData
  rw [if_neg (by simp [AUTH_DATA_HEADER_LEN, length_hash]; omega), slice_front length_hash]
  simp only [RP_ID_HASH_LEN, AUTH_DATA_HEADER_LEN, AAGUID_LEN, getElem?_append, hasHash]
  simp only [Nat.reduceAdd, Nat.reduceLT, Nat.reduceSub, if_false,
    getElem?_cons_zero, getElem?_cons_succ, bind_eq_bind,
    bind_some, length_append, length_cons, hasHash]
  split
  · rfl
  · unfold parseAttested
    by_cases truncated : tail.length < AAGUID_LEN + 2
    · rw [if_pos truncated, if_pos (by rw [AAGUID_LEN] at truncated; omega)]
    · rw [if_neg truncated,
        if_neg (by rw [AAGUID_LEN] at truncated; omega)]
      have holdsId : AAGUID_LEN ≤ tail.length := by omega
      obtain ⟨aaguid, back, rfl, length_aaguid⟩ := exists_append holdsId
      have hasAaguid : aaguid.length = 16 := length_aaguid
      obtain ⟨high, low, rest, rfl⟩ :
          ∃ high low rest, back = high :: low :: rest := by
        match back with
        | [] | [_] => simp [length_aaguid] at truncated
        | high :: low :: rest => exact ⟨high, low, rest, rfl⟩
      obtain ⟨front, whole, length_front⟩ : ∃ front,
          hash ++ flags :: counter0 :: counter1 :: counter2 :: counter3 ::
              (aaguid ++ high :: low :: rest) = front ++ rest ∧
            front.length = 55 :=
        ⟨hash ++ flags :: counter0 :: counter1 :: counter2 :: counter3 ::
            (aaguid ++ [high, low]), by simp, by simp [hasHash, hasAaguid]⟩
      have behindId : (aaguid ++ high :: low :: rest).drop (AAGUID_LEN + 2) = rest := by
        simp [AAGUID_LEN, drop_append, hasAaguid]
      have lengthField :
          ((aaguid ++ high :: low :: rest).drop AAGUID_LEN).take 2 = [high, low] := by
        simp [AAGUID_LEN, hasAaguid]
      have total :
          32 + ((aaguid ++ high :: low :: rest).length + 1 + 1 + 1 + 1 + 1) = 55 + rest.length := by
        simp [hasAaguid]
        omega
      rw [whole, behindId, lengthField, total]
      simp only [getElem?_append, hasAaguid, Nat.reduceLT, if_false,
        Nat.reduceSub, getElem?_cons_zero, getElem?_cons_succ,
        bind_some, Nat.add_lt_add_iff_left, Nat.add_le_add_iff_left]
      split
      · rfl
      · next holdsCredential =>
        obtain ⟨credentialId, key, rfl, length_id⟩ :=
          exists_append (Nat.le_of_not_lt holdsCredential)
        have isId : slice (front ++ (credentialId ++ key)) 55
            (55 + ofBigEndian [high, low]) = some credentialId := by
          rw [← append_assoc]
          exact slice_middle length_front.symm (by omega)
        have isKey : slice (front ++ (credentialId ++ key)) (55 + ofBigEndian [high, low])
            (55 + (credentialId ++ key).length) = some key := by
          rw [← append_assoc]
          exact slice_back (by simp; omega) (by simp; omega)
        rw [isId, isKey]
        cases key with
        | nil => simp [← length_id]
        | cons first more => simp [← length_id]

theorem parseAuthData_append_header
    (length_rpIdHash : rpIdHash.length = RP_ID_HASH_LEN) (flags : UInt8)
    (counter : UInt32) (tail : List UInt8) :
    parseAuthData (header rpIdHash flags counter ++ tail) =
      if flags &&& FLAG_ATTESTED_CREDENTIAL_DATA = 0 then
        some (.ok ⟨rpIdHash, flags, counter, none, none⟩)
      else parseAttested ⟨rpIdHash, flags, counter, none, none⟩ tail := by
  obtain ⟨counter0, counter1, counter2, counter3, bytes⟩ : ∃ counter0 counter1 counter2 counter3,
      toBigEndian 4 counter.toNat = [counter0, counter1, counter2, counter3] :=
    ⟨_, _, _, _, rfl⟩
  have readBack : UInt32.ofNat
        (ofBigEndian [counter0, counter1, counter2, counter3]) =
      counter := by
    rw [← bytes, ofBigEndian_toBigEndian counter.toNat_lt, UInt32.ofNat_toNat]
  have parsed := parseAuthData_header length_rpIdHash flags counter0 counter1 counter2 counter3 tail
  simp only [readBack] at parsed
  rw [header, bytes, append_assoc]
  exact parsed

theorem exists_header (longEnough : AUTH_DATA_HEADER_LEN ≤ bytes.length) :
    ∃ rpIdHash flags counter tail, rpIdHash.length = RP_ID_HASH_LEN ∧
      bytes = header rpIdHash flags counter ++ tail := by
  obtain ⟨front, tail, rfl, length_front⟩ := exists_append longEnough
  have holdsHash : RP_ID_HASH_LEN ≤ front.length := by
    rw [length_front, AUTH_DATA_HEADER_LEN]
    omega
  obtain ⟨rpIdHash, back, rfl, length_rpIdHash⟩ := exists_append holdsHash
  rw [length_append, AUTH_DATA_HEADER_LEN] at length_front
  obtain ⟨flags, counterBytes, rfl⟩ : ∃ flags counterBytes, back = flags :: counterBytes :=
    exists_cons_of_length_pos (by omega)
  have length_counter : counterBytes.length = 4 := by
    rw [length_cons] at length_front
    omega
  have written := toBigEndian_ofBigEndian counterBytes
  have fits := ofBigEndian_lt counterBytes
  rw [length_counter] at written fits
  refine ⟨rpIdHash, flags, UInt32.ofNat (ofBigEndian counterBytes), tail, length_rpIdHash, ?_⟩
  rw [header, UInt32.toNat_ofNat_of_lt' fits, written]

theorem parseAttested_eq {aaguid lengthField : List UInt8}
    (length_aaguid : aaguid.length = AAGUID_LEN)
    (isField : lengthField.length = 2) (parsed : AuthData) (rest : List UInt8) :
    parseAttested parsed (aaguid ++ (lengthField ++ rest)) =
      if rest.length < ofBigEndian lengthField then
        some (.error (.passkey "credential id is truncated"))
      else if rest.length = ofBigEndian lengthField then
        some (.error (.passkey "COSE public key is missing"))
      else
        some (.ok
            { parsed with
              credentialId := some (rest.take (ofBigEndian lengthField))
              coseKey := some (rest.drop (ofBigEndian lengthField)) }) := by
  have behindField : (aaguid ++ (lengthField ++ rest)).drop (AAGUID_LEN + 2) = rest := by
    rw [← append_assoc, drop_left']
    simp [length_aaguid, isField]
  have field : ((aaguid ++ (lengthField ++ rest)).drop AAGUID_LEN).take 2 = lengthField := by
    rw [drop_left' length_aaguid, take_left' isField]
  have isLong : ¬(aaguid ++ (lengthField ++ rest)).length < AAGUID_LEN + 2 := by
    rw [length_append, length_append]
    omega
  unfold parseAttested
  rw [if_neg isLong, behindField, field]

theorem parseAttested_encode (parsed : AuthData) (credential : AttestedCredential) :
    parseAttested parsed credential.encode = some (.ok
          { parsed with
            credentialId := some credential.credentialId
            coseKey := some credential.publicKey }) := by
  rw [AttestedCredential.encode, parseAttested_eq credential.length_aaguid (length_toBigEndian ..),
    ofBigEndian_toBigEndian credential.length_credentialId]
  simp [credential.publicKey_ne_nil]

theorem exists_of_parseAttested {header parsed : AuthData} {tail : List UInt8}
    (accepted : parseAttested header tail = some (.ok parsed)) :
    ∃ credential : AttestedCredential,
      tail = credential.encode ∧ parsed =
          { header with
            credentialId := some credential.credentialId
            coseKey := some credential.publicKey } := by
  by_cases truncated : tail.length < AAGUID_LEN + 2
  · rw [parseAttested, if_pos truncated] at accepted
    cases accepted
  · have holdsId : AAGUID_LEN ≤ tail.length := by omega
    obtain ⟨aaguid, back, rfl, length_aaguid⟩ := exists_append holdsId
    have holdsField : 2 ≤ back.length := by
      simp only [length_append] at truncated
      omega
    obtain ⟨lengthField, rest, rfl, isField⟩ := exists_append holdsField
    rw [parseAttested_eq length_aaguid isField] at accepted
    split at accepted
    · cases accepted
    · split at accepted
      · cases accepted
      · next holdsCredential hasKey =>
        obtain ⟨credentialId, key, rfl, length_id⟩ :=
          exists_append (Nat.le_of_not_lt holdsCredential)
        have fits := ofBigEndian_lt lengthField
        have written := toBigEndian_ofBigEndian lengthField
        rw [isField, ← length_id] at fits written
        refine ⟨⟨aaguid, credentialId, key, length_aaguid, fits, ?_⟩, ?_, ?_⟩
        · rintro rfl
          simp [length_id] at hasKey
        · rw [AttestedCredential.encode, written]
        · rw [← length_id] at accepted
          simpa using accepted.symm

theorem parseAttested_ne_none (header : AuthData) (tail : List UInt8) :
    parseAttested header tail ≠ none := by
  simp only [parseAttested]
  split
  · simp
  · split
    · simp
    · split <;> simp

/-! ## What the parser accepts -/

theorem parseAuthData_ne_none (bytes : List UInt8) : parseAuthData bytes ≠ none := by
  by_cases short : bytes.length < AUTH_DATA_HEADER_LEN
  · simp [parseAuthData, short]
  · obtain ⟨rpIdHash, flags, counter, tail, length_rpIdHash, rfl⟩ :=
      exists_header (Nat.le_of_not_lt short)
    rw [parseAuthData_append_header length_rpIdHash]
    split
    · simp
    · exact parseAttested_ne_none _ _

/--
Data is read back from its encoding, and data that is not attested from in front
of anything.
-/
theorem parseAuthData_encode_append (data : AuthenticatorData) {ignored : List UInt8}
    (endsWithKey : data.attested.isSome = true → ignored = []) :
    parseAuthData (data.encode ++ ignored) = some (.ok data.fields) := by
  cases isAttested : data.attested with
  | none =>
    have noFlag : data.flags &&& FLAG_ATTESTED_CREDENTIAL_DATA = 0 := by
      have flagged := data.isSome_attested
      simpa [isAttested] using flagged
    rw [encode, isAttested, map_none, getD_none, append_nil,
      parseAuthData_append_header data.length_rpIdHash, if_pos noFlag, fields, isAttested]
    rfl
  | some credential =>
    have flagged : data.flags &&& FLAG_ATTESTED_CREDENTIAL_DATA ≠ 0 :=
      data.isSome_attested.mp (by simp [isAttested])
    rw [endsWithKey (by simp [isAttested]), append_nil, encode,
      isAttested, map_some, getD_some,
      parseAuthData_append_header data.length_rpIdHash, if_neg flagged,
      parseAttested_encode, fields, isAttested]
    rfl

/--
The parser accepts the encodings of the data it returns, and anything behind
them where the data is not attested.
-/
theorem parseAuthData_eq_ok_iff {parsed : AuthData} :
    parseAuthData bytes = some (.ok parsed) ↔
      ∃ (data : AuthenticatorData) (ignored : List UInt8), bytes = data.encode ++ ignored ∧
          (data.attested.isSome = true → ignored = []) ∧ parsed = data.fields := by
  constructor
  · intro accepted
    by_cases short : bytes.length < AUTH_DATA_HEADER_LEN
    · simp [parseAuthData, short] at accepted
    · obtain ⟨rpIdHash, flags, counter, tail, length_rpIdHash, rfl⟩ :=
        exists_header (Nat.le_of_not_lt short)
      rw [parseAuthData_append_header length_rpIdHash] at accepted
      split at accepted
      · next noFlag =>
        refine ⟨⟨rpIdHash, flags, counter, none, length_rpIdHash, ?_⟩, tail, ?_, ?_, ?_⟩
        · simp [noFlag]
        · simp [encode]
        · simp
        · simpa [fields] using accepted.symm
      · next flagged =>
        obtain ⟨credential, rfl, rfl⟩ := exists_of_parseAttested accepted
        refine ⟨⟨rpIdHash, flags, counter, some credential, length_rpIdHash, ?_⟩, [], ?_, ?_, ?_⟩
        · simp [flagged]
        · simp [encode]
        · simp
        · simp [fields]
  · rintro ⟨data, ignored, rfl, endsWithKey, rfl⟩
    exact parseAuthData_encode_append data endsWithKey

def FLAG_EXTENSION_DATA : UInt8 := 0x80

/--
The layout of the standard: extension data ends it where its flag is set, and
nothing follows otherwise.
-/
def StandardLayout (bytes : List UInt8) : Prop :=
  ∃ (data : AuthenticatorData) (extensions : List UInt8),
    bytes = data.encode ++ extensions ∧ (extensions ≠ [] ↔ data.flags &&& FLAG_EXTENSION_DATA ≠ 0)

/--
The parser never reads outside its input, accepts the encodings of the data it
returns (and anything behind them where the data is not attested), and returns
the fields of all data from its encoding.
-/
theorem parseAuthData_accepts_encodings :
    (∀ bytes, parseAuthData bytes ≠ none) ∧
    (∀ bytes parsed, parseAuthData bytes = some (.ok parsed) ↔
      ∃ (data : AuthenticatorData) (ignored : List UInt8),
        bytes = data.encode ++ ignored ∧ (data.attested.isSome = true → ignored = []) ∧
          parsed = data.fields) ∧
    ∀ data : AuthenticatorData, parseAuthData data.encode = some (.ok data.fields) := by
  refine ⟨parseAuthData_ne_none, fun _ _ => parseAuthData_eq_ok_iff, ?_⟩
  intro data
  have parsed := parseAuthData_encode_append data (fun _ => rfl)
  rwa [append_nil] at parsed

/-- A byte behind a header without flags is accepted, though nothing may follow. -/
theorem trailing_byte_is_accepted :
    ¬ ∀ bytes, (∃ parsed, parseAuthData bytes = some (.ok parsed)) ↔ StandardLayout bytes := by
  intro standard
  have accepted : ∃ parsed, parseAuthData (List.replicate 38 0) = some (.ok parsed) :=
    ⟨⟨List.replicate 32 0, 0, 0, none, none⟩, by decide⟩
  obtain ⟨data, extensions, bytes, flagged⟩ := (standard _).mp accepted
  have noFlags : data.flags = 0 := by
    have flagsByte := congrArg (·[RP_ID_HASH_LEN]?) bytes
    simp only [encode, header, append_assoc, cons_append,
      getElem?_behind data.length_rpIdHash.symm] at flagsByte
    exact (Option.some.inj flagsByte).symm
  have notAttested : data.attested = none := by
    have attests := data.isSome_attested
    rw [noFlags] at attests
    simpa using attests
  have total := congrArg List.length bytes
  simp only [encode, header, notAttested, length_append, data.length_rpIdHash,
    RP_ID_HASH_LEN] at total
  have extended : extensions ≠ [] := by
    rintro rfl
    simp at total
  exact flagged.mp extended (by rw [noFlags]; rfl)

end AuthenticatorData

end Rustasea.Auth
