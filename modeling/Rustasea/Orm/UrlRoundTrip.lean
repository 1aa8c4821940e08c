import Rustasea.Library.DecimalText
import Rustasea.Library.Framing
import Rustasea.Orm.EndpointUrls

namespace Rustasea.Orm.EndpointUrls

open List

open PercentEncoding (decode decode_encode decode_of_notMem encode length_decode ofUtf8?
  ofUtf8?_utf8 splitOnce splitOnce_append splitOnce_eq_some utf8 utf8_injective utf8_ofList
  utf8_ofList_ascii utf8_of_ofUtf8?)
open Rustasea.Schedule (trim)

/-!
# What a connection's URL is read as

A server takes the parts of a URL by the generic syntax of RFC 3986 and decodes
each; the pool takes the driver by the scheme alone.
-/

/-- An unreserved character, a sub-delimiter or one of some others. -/
def isName (also : List Char) (char : Char) : Bool :=
  char.isAlphanum || ("-._~!$&'()*+,;=".toList ++ also).contains char

def MadeOf (also : List Char) (text : Text) : Prop := ∀ char ∈ text, isName also char = true

instance (also : List Char) (text : Text) : Decidable (MadeOf also text) :=
  List.decidableBAll _ text

def outside (delimiters : List Char) (char : Char) : Bool := !delimiters.contains char

def percentDecode (raw : Text) : Option Text :=
  match decode (raw.map fun char => UInt8.ofNat char.toNat) with
  | .ok bytes => (ofUtf8? bytes).map String.toList
  | .error _ => none

/-- The parts behind the scheme, the query and the fragment with their marks. -/
structure RawParts where
  userinfo : Option Text
  server : Text
  path : Text
  query : Text
  fragment : Text

def rawParts (text : Text) : RawParts :=
  let authority := text.takeWhile (outside ['/', '?', '#'])
  let behind := text.dropWhile (outside ['/', '?', '#'])
  let after := behind.dropWhile (outside ['?', '#'])
  { userinfo := (splitOnce '@' authority).map Prod.fst
    server := ((splitOnce '@' authority).map Prod.snd).getD authority
    path := behind.takeWhile (outside ['?', '#'])
    query := after.takeWhile (outside ['#'])
    fragment := after.dropWhile (outside ['#']) }

def RawParts.Valid (raw : RawParts) : Prop :=
  (∀ userinfo ∈ raw.userinfo, MadeOf ['%', ':'] userinfo) ∧ MadeOf ['%', ':', '@', '/'] raw.path ∧
    MadeOf ['%', ':', '@', '/', '?'] (raw.query.drop 1) ∧
    MadeOf ['%', ':', '@', '/', '?'] (raw.fragment.drop 1)

instance (raw : RawParts) : Decidable raw.Valid := inferInstanceAs (Decidable (_ ∧ _))

def readPort : Text → Option (Option Text)
  | [] => some none
  | ':' :: digits => if digits.all Char.isDigit then some (some digits) else none
  | _ => none

/-- The length of a bracketed address, or of what stands before a colon. -/
def hostLength (server : Text) : Nat :=
  if server.head? = some '[' then (server.takeWhile (outside [']'])).length + 1
  else (server.takeWhile (outside [':'])).length

def charsetOf (query : Text) : Option Text :=
  ((query.drop 1).splitOn '&').findSome? fun pair =>
    match splitOnce '=' pair with
    | some (key, value) =>
      if percentDecode key = some "charset".toList then percentDecode value else none
    | none => none

/-- The addresses that may stand in brackets. -/
structure Addresses where
  accepts : Text → Bool
  madeOf : ∀ address, accepts address = true → MadeOf [':'] address

structure Components where
  username : Option Text
  password : Option Text
  host : Text
  port : Option Text
  path : Text
  charset : Option Text

section

variable (addresses : Addresses)

def IsHost (host : Text) : Prop :=
  MadeOf ['%'] host ∨ host.head? = some '[' ∧ host.getLast? = some ']' ∧
    addresses.accepts host.tail.dropLast = true

instance (host : Text) : Decidable (IsHost addresses host) := inferInstanceAs (Decidable (_ ∨ _))

def readServer (server : Text) : Option (Text × Option Text) :=
  if IsHost addresses (server.take (hostLength server)) then
    (readPort (server.drop (hostLength server))).map (server.take (hostLength server), ·)
  else none

def RawParts.read (raw : RawParts) : Option Components := do
  let (host, port) ← readServer addresses raw.server
  let host ← percentDecode host
  let path ← percentDecode raw.path
  some
    { username := raw.userinfo.bind fun userinfo =>
        percentDecode (userinfo.takeWhile (outside [':']))
      password := raw.userinfo.bind fun userinfo =>
        (splitOnce ':' userinfo).bind fun (_, password) => percentDecode password
      host, port, path
      charset := charsetOf raw.query }

def parse (url : Text) : Option Components :=
  match splitOnce ':' url with
  | some (scheme, '/' :: '/' :: rest) =>
    if MadeOf [] scheme ∧ (rawParts rest).Valid then (rawParts rest).read addresses else none
  | _ => none

end

/-- `DbPool::connect` with every driver compiled in, by the scheme as it is spelled. -/
def dispatch (scheme : Text) : Option Driver :=
  match String.ofList scheme with
  | "sqlite" => some .sqlite
  | "postgres" | "postgresql" => some .postgres
  | "mysql" => some .mySql
  | _ => none

/-! ## Characters and escapes -/

section

variable {also : List Char} {raw text : Text} {char : Char}

theorem toNat_lt_of_isName (is : isName also char = true)
    (ascii : also.all (·.toNat < 128) = true) : char.toNat < 128 := by
  simp only [isName, Bool.or_eq_true, contains_eq_mem, decide_eq_true_eq,
    mem_append] at is
  rcases is with isAlphanum | isMark | isOther
  · unfold Char.isAlphanum Char.isAlpha Char.isUpper Char.isLower Char.isDigit at isAlphanum
    simp only [Bool.or_eq_true, Bool.and_eq_true, decide_eq_true_eq,
      UInt32.le_iff_toNat_le] at isAlphanum
    change char.val.toNat < 128
    have bounds : 'Z'.val.toNat = 90 ∧ 'z'.val.toNat = 122 ∧ '9'.val.toNat = 57 := by decide
    omega
  · have all : "-._~!$&'()*+,;=".toList.all (·.toNat < 128) = true := by decide
    exact of_decide_eq_true (all_eq_true.mp all char isMark)
  · exact of_decide_eq_true (all_eq_true.mp ascii char isOther)

theorem MadeOf.mono {more : List Char} (are : MadeOf also text) (subset : also ⊆ more) :
    MadeOf more text := by
  intro char isIn
  have is := are char isIn
  simp only [isName, Bool.or_eq_true, contains_eq_mem, decide_eq_true_eq,
    mem_append] at is ⊢
  exact is.imp id (Or.imp id (@subset char))

theorem MadeOf.free (are : MadeOf also text) (other : isName also char = false) : char ∉ text :=
  fun isIn => Bool.false_ne_true (other.symm.trans (are char isIn))

theorem MadeOf.outside (are : MadeOf also text) (delimiters : List Char)
    (others : delimiters.all (!isName also ·) = true) :
    ∀ char ∈ text, outside delimiters char = true := by
  intro char isIn
  rw [EndpointUrls.outside, Bool.not_eq_true', contains_eq_mem, decide_eq_false_iff_not]
  exact fun isDelimiter =>
    are.free (by simpa using all_eq_true.mp others char isDelimiter) isIn

theorem MadeOf.of_notMem (are : MadeOf ('%' :: also) raw) (free : '%' ∉ raw) : MadeOf also raw := by
  intro char isIn
  have is := are char isIn
  have other : char ≠ '%' := fun same => free (same ▸ isIn)
  simpa [isName, other] using is

theorem percentDecode_of_notMem (are : MadeOf also raw) (known : also.all (·.toNat < 128) = true)
    (free : '%' ∉ raw) : percentDecode raw = some raw := by
  have ascii : ∀ c ∈ raw, c.toNat < 128 := fun c isIn => toNat_lt_of_isName (are c isIn) known
  have noEscape : 37 ∉ raw.map fun char => UInt8.ofNat char.toNat := by
    intro isIn
    obtain ⟨char, isChar, same⟩ := mem_map.mp isIn
    have number := congrArg UInt8.toNat same
    have small := ascii char isChar
    rw [UInt8.toNat_ofNat', Nat.mod_eq_of_lt (by omega)] at number
    exact free (Char.toNat_inj.mp (show char.toNat = Char.toNat '%' from number) ▸ isChar)
  rw [percentDecode, decode_of_notMem noEscape, ← utf8_ofList_ascii ascii]
  simp

theorem length_le_utf8 (text : Text) :
    text.length ≤ (text.flatMap String.utf8EncodeChar).length := by
  induction text with
  | nil => exact Nat.le_refl 0
  | cons char rest ih =>
      have one := char.utf8Size_pos
      rw [flatMap_cons, length_append, String.length_utf8EncodeChar, length_cons]
      omega

/-- What is decoded is no longer than its spelling, and as long only without escapes. -/
theorem length_percentDecode (are : MadeOf also raw)
    (known : also.all (·.toNat < 128) = true) (isDecoded : percentDecode raw = some text) :
    text.length ≤ raw.length ∧ (raw.length ≤ text.length → text = raw ∧ '%' ∉ raw) := by
  have ascii : ∀ c ∈ raw, c.toNat < 128 := fun c isIn => toNat_lt_of_isName (are c isIn) known
  rw [percentDecode] at isDecoded
  cases isBytes : decode (raw.map fun char => UInt8.ofNat char.toNat) with
  | error e => simp [isBytes] at isDecoded
  | ok bytes =>
      rw [isBytes] at isDecoded
      obtain ⟨decoded, isText, rfl⟩ := Option.map_eq_some_iff.mp isDecoded
      obtain ⟨shorter, noEscape⟩ := length_decode isBytes
      rw [length_map] at shorter noEscape
      have bytesLength : decoded.toList.length ≤ bytes.length := by
        rw [← utf8_of_ofUtf8? isText, ← String.ofList_toList (s := decoded), utf8_ofList,
          String.toList_ofList]
        exact length_le_utf8 _
      refine ⟨bytesLength.trans shorter, fun long => ?_⟩
      have free := noEscape (long.trans bytesLength)
      rw [decode_of_notMem free, ← utf8_ofList_ascii ascii] at isBytes
      have same := utf8_injective ((utf8_of_ofUtf8? isText).trans (Except.ok.inj isBytes).symm)
      exact ⟨by rw [same, String.toList_ofList],
        fun isIn => free (mem_map.mpr ⟨_, isIn, rfl⟩)⟩

theorem percentDecode_encodeUserinfo (value : Text) :
    percentDecode (encodeUserinfo value) = some value := by
  have bytes : (encodeUserinfo value).map (fun char => UInt8.ofNat char.toNat) =
      encode (value.flatMap String.utf8EncodeChar) := by
    rw [encodeUserinfo, map_map]
    refine (map_congr_left fun byte _ => ?_).trans (map_id _)
    have all : ∀ n < 256, UInt8.ofNat (Char.ofNat n).toNat = UInt8.ofNat n := by decide +kernel
    exact (all _ byte.toNat_lt).trans UInt8.ofNat_toNat
  rw [percentDecode, bytes, ← utf8_ofList]
  simp

theorem madeOf_encodeUserinfo (value : Text) : MadeOf ['%'] (encodeUserinfo value) := by
  intro char isIn
  obtain ⟨byte, isByte, rfl⟩ := mem_map.mp isIn
  have all : ∀ n < 256, PercentEncoding.isUnreserved (UInt8.ofNat n) = true ∨ n = 37 →
      isName ['%'] (Char.ofNat n) = true := by decide +kernel
  refine all _ byte.toNat_lt ?_
  rw [UInt8.ofNat_toNat]
  exact (PercentEncoding.mem_encode isByte).imp id (congrArg UInt8.toNat)

end

/-! ## The server and the charset -/

section

variable {addresses : Addresses} {host digits server query charset : Text}

theorem eq_of_bracket (begins : host.head? = some '[') (ends : host.getLast? = some ']') :
    host = '[' :: (host.tail.dropLast ++ [']']) := by
  obtain ⟨rest, rfl⟩ := head?_eq_some_iff.mp begins
  cases rest with
  | nil => cases ends
  | cons first rest =>
      rw [getLast?_cons_cons] at ends
      rw [tail_cons, dropLast_append_getLast? _ ends]

theorem IsHost.madeOf (is : IsHost addresses host) : MadeOf ['%', ':', '[', ']'] host := by
  rcases is with named | ⟨begins, ends, inside⟩
  · exact named.mono (by simp)
  · rw [eq_of_bracket begins ends]
    simp only [MadeOf, forall_mem_cons, forall_mem_append]
    exact ⟨by decide, (addresses.madeOf _ inside).mono (by simp), by decide, forall_mem_nil _⟩

theorem readServer_append (is : IsHost addresses host)
    (areDigits : digits.all Char.isDigit = true) :
    readServer addresses (host ++ ':' :: digits) = some (host, some digits) := by
  have length : hostLength (host ++ ':' :: digits) = host.length := by
    rw [hostLength]
    rcases is with named | ⟨begins, ends, inside⟩
    · rw [if_neg, takeWhile_append_of_pos (named.outside _ (by decide))]
      · simp [outside]
      · cases host with
        | nil => simp
        | cons first rest =>
            rintro same
            obtain rfl := Option.some.inj same
            exact absurd (named '[' mem_cons_self) (by decide)
    · rw [eq_of_bracket begins ends, cons_append, append_assoc, head?_cons,
        takeWhile_cons_of_pos (by decide), takeWhile_append_of_pos
          ((addresses.madeOf _ inside).outside _ (by decide))]
      simp [outside]
  rw [readServer, length, take_left' rfl, drop_left' rfl, if_pos is, readPort,
    if_pos areDigits]
  rfl

theorem eq_of_readServer (isRead : readServer addresses server = some (host, some digits)) :
    IsHost addresses host ∧ server = host ++ ':' :: digits := by
  rw [readServer] at isRead
  split at isRead
  · next is =>
    obtain ⟨port, isPort, same⟩ := Option.map_eq_some_iff.mp isRead
    obtain ⟨rfl, rfl⟩ := Prod.mk.inj same
    refine ⟨is, ?_⟩
    have behind : server.drop (hostLength server) = ':' :: digits := by
      unfold readPort at isPort
      split at isPort
      · cases isPort
      · next colon =>
        split at isPort
        · cases isPort
          exact colon
        · cases isPort
      · cases isPort
    conv_lhs => rw [← take_append_drop (hostLength server) server, behind]
  · cases isRead

theorem length_charsetOf (isCharset : charsetOf query = some charset)
    (are : MadeOf ['%', ':', '@', '/', '?'] (query.drop 1)) :
    charset.length + 9 ≤ query.length ∧
    (query.length ≤ charset.length + 9 → '&' ∉ charset ∧ MadeOf [':', '@', '/', '?'] charset) := by
  obtain ⟨pair, isPair, isValue⟩ := exists_of_findSome?_eq_some isCharset
  have isInfix : pair <:+: query.drop 1 := Framing.isInfix_of_mem_splitOn isPair
  have ofPair : MadeOf _ pair := fun c isIn => are c (isInfix.subset isIn)
  cases isCut : splitOnce '=' pair with
  | none => simp [isCut] at isValue
  | some parts =>
      obtain ⟨key, value⟩ := parts
      simp only [isCut] at isValue
      split at isValue
      · next isKey =>
        obtain rfl := splitOnce_eq_some isCut
        obtain ⟨keyNames, valueNames⟩ := forall_mem_append.mp ofPair
        have valueNames : MadeOf _ value := (forall_mem_cons.mp valueNames).2
        obtain ⟨ofKey, -⟩ := length_percentDecode keyNames (by decide) isKey
        obtain ⟨ofValue, same⟩ := length_percentDecode valueNames (by decide) isValue
        have inside := isInfix.length_le
        have keyLength : "charset".toList.length = 7 := rfl
        rw [length_append, length_cons, length_drop] at inside
        refine ⟨by omega, fun long => ?_⟩
        obtain ⟨rfl, free⟩ := same (by omega)
        exact ⟨fun isIn => Framing.notMem_of_mem_splitOn isPair
          (mem_append_right _ (mem_cons_of_mem _ isIn)), valueNames.of_notMem free⟩
      · cases isValue

theorem charsetOf_spelled (free : '&' ∉ charset) (are : MadeOf [':', '@', '/', '?'] charset) :
    charsetOf ("?charset=".toList ++ charset) = some charset := by
  have pairFree : '&' ∉ "charset=".toList ++ charset := by
    rw [mem_append, not_or]
    exact ⟨by decide, free⟩
  have value : percentDecode charset = some charset :=
    percentDecode_of_notMem are (by decide) (are.free (by decide))
  have key : percentDecode "charset".toList = some "charset".toList :=
    percentDecode_of_notMem (show MadeOf [] "charset".toList by decide) rfl (by decide)
  rw [charsetOf,
    show ("?charset=".toList ++ charset).drop 1 = "charset=".toList ++ charset from rfl,
    splitOn_eq_singleton pairFree, findSome?_singleton,
    show "charset=".toList ++ charset = "charset".toList ++ '=' :: charset from rfl,
    splitOnce_append (by decide)]
  simp only [key, if_true, value]

end

/-! ## What is assembled, and what is read of it -/

section

variable {config : ConnectionConfig} {url username password host database : Text} {driver : Driver}

def charsetQuery (charset : Option Text) : Text :=
  match nonempty charset with
  | some charset => "?charset=".toList ++ charset
  | none => []

def portText (config : ConnectionConfig) (driver : Driver) : Text :=
  (toString (config.fields.port.getD driver.defaultPort)).toList

def serverText (config : ConnectionConfig) (driver : Driver) (host database : Text) : Text :=
  host ++ ':' :: portText config driver ++ '/' :: database ++ charsetQuery config.fields.charset

def credentials (config : ConnectionConfig) : Text :=
  match nonempty config.fields.username with
  | some username =>
    encodeUserinfo username ++ (match nonempty config.fields.password with
      | some password => ':' :: encodeUserinfo password
      | none => []) ++ ['@']
  | none => []

theorem nonempty_some {text : Text} (is : text ≠ []) : nonempty (some text) = some text := by
  simp [nonempty, is]

theorem eq_of_required {field : String} {value text : Text}
    (is : required field (some value) = .ok text) : text = trim value := by
  rw [required] at is
  split at is
  · next found isFound =>
    obtain rfl := Except.ok.inj is
    exact (Option.some.inj (Option.eq_some_of_filter_eq_some isFound)).symm
  · cases is

theorem eq_of_buildNetwork (built : config.buildNetwork driver = .ok url) :
    ∃ host database, required "host" config.fields.host = .ok host ∧
      required "database" config.fields.database = .ok database ∧
      url = driver.scheme.toList ++
          ':' :: '/' :: '/' :: (credentials config ++ serverText config driver host database) := by
  rw [ConnectionConfig.buildNetwork] at built
  cases isHost : required "host" config.fields.host with
  | error e =>
      rw [isHost] at built
      cases built
  | ok host =>
      cases isDatabase : required "database" config.fields.database with
      | error e =>
          rw [isHost, isDatabase] at built
          cases built
      | ok database =>
          rw [isHost, isDatabase] at built
          refine ⟨host, database, rfl, rfl, (Except.ok.inj built).symm.trans ?_⟩
          rw [credentials, serverText, portText, charsetQuery]
          cases nonempty config.fields.charset <;> cases nonempty config.fields.username <;>
            cases nonempty config.fields.password <;> simp

variable {addresses : Addresses} {digits : Text} {charset : Option Text}

def userinfoOf (username password : Text) : Text :=
  encodeUserinfo username ++ ':' :: encodeUserinfo password

theorem madeOf_userinfoOf (username password : Text) :
    MadeOf ['%', ':'] (userinfoOf username password) := by
  simp only [userinfoOf, MadeOf, forall_mem_append, forall_mem_cons]
  exact ⟨(madeOf_encodeUserinfo username).mono (by simp), by decide,
    (madeOf_encodeUserinfo password).mono (by simp)⟩

def partsOf (username password server : Text) : RawParts :=
  { rawParts server with
    userinfo := some (userinfoOf username password)
    server := server.takeWhile (outside ['/', '?', '#']) }

theorem rawParts_userinfo (username password server : Text) :
    rawParts (userinfoOf username password ++ '@' :: server) =
      partsOf username password server := by
  have are := madeOf_userinfoOf username password
  have inside : ∀ c ∈ userinfoOf username password ++ ['@'],
      outside ['/', '?', '#'] c = true := by
    rw [forall_mem_append]
    exact ⟨are.outside _ (by decide), all_eq_true.mp (by decide)⟩
  rw [rawParts, append_cons, takeWhile_append_of_pos inside,
    dropWhile_append_of_pos inside, append_assoc, singleton_append,
    splitOnce_append (are.free (by decide))]
  rfl

theorem parse_assembled (driver : Driver) (username password server : Text) :
    parse addresses (driver.scheme.toList ++ ':' :: '/' :: '/' ::
      (userinfoOf username password ++ '@' :: server)) =
        if (partsOf username password server).Valid then
          (partsOf username password server).read addresses
        else none := by
  have schemes : ∀ driver : Driver,
      ':' ∉ driver.scheme.toList ∧ MadeOf [] driver.scheme.toList := by
    rintro (_ | _ | _) <;> decide
  rw [parse, splitOnce_append (schemes driver).1]
  simp [and_iff_right (schemes driver).2, rawParts_userinfo]

theorem read_partsOf_iff {username password server host digits path : Text} :
    (partsOf username password server).read addresses =
        some ⟨some username, some password, host, some digits, path, charset⟩ ↔
      ∃ rawHost,
        readServer addresses (server.takeWhile (outside ['/', '?', '#'])) =
            some (rawHost, some digits) ∧
          percentDecode rawHost = some host ∧ percentDecode (rawParts server).path = some path ∧
          charsetOf (rawParts server).query = charset := by
  have names := madeOf_encodeUserinfo username
  have first : (userinfoOf username password).takeWhile (outside [':']) =
      encodeUserinfo username := by
    rw [userinfoOf, takeWhile_append_of_pos (names.outside _ (by decide))]
    simp [outside]
  have second : splitOnce ':' (userinfoOf username password) =
      some (encodeUserinfo username, encodeUserinfo password) :=
    splitOnce_append (names.free (by decide)) _
  simp only [RawParts.read, partsOf, Option.bind_some, first, second, percentDecode_encodeUserinfo,
    Option.bind_eq_bind, Option.bind_eq_some_iff]
  constructor
  · rintro ⟨⟨rawHost, port⟩, isServer, found, isHost, where_, isPath, same⟩
    cases same
    exact ⟨rawHost, isServer, isHost, isPath, rfl⟩
  · rintro ⟨rawHost, isServer, isHost, isPath, rfl⟩
    exact ⟨(rawHost, some digits), isServer, host, isHost, path, isPath, rfl⟩

theorem rawParts_append (text : Text) :
    text.takeWhile (outside ['/', '?', '#']) ++
      ((rawParts text).path ++ ((rawParts text).query ++ (rawParts text).fragment)) = text := by
  rw [rawParts]
  simp

theorem span_append {isKind : Char → Bool} {run rest : Text}
    (isRun : ∀ c ∈ run, isKind c = true) (ends : DecimalText.startsWith isKind rest = false) :
    (run ++ rest).takeWhile isKind = run ∧ (run ++ rest).dropWhile isKind = rest := by
  refine ⟨DecimalText.takeWhile_append isRun ends, ?_⟩
  have whole := takeWhile_append_dropWhile (p := isKind) (l := run ++ rest)
  rw [DecimalText.takeWhile_append isRun ends] at whole
  exact append_cancel_left whole

/--
The host is a name or a bracketed address, and host, database and charset hold
no escape and none of the delimiters around them.
-/
structure Spelled (addresses : Addresses) (host database : Text) (charset : Option Text) :
    Prop where
  host : IsHost addresses host ∧ '%' ∉ host
  database : MadeOf [':', '@', '/'] database
  charset : ∀ text ∈ charset, text ≠ [] ∧ '&' ∉ text ∧ MadeOf [':', '@', '/', '?'] text

theorem length_charsetQuery (text : Text) :
    (charsetQuery (some text)).length = if text = [] then 0 else text.length + 9 := by
  split
  · next is =>
    rw [is]
    rfl
  · next is =>
    rw [charsetQuery, nonempty_some is]
    simp

/-- As escapes only lengthen, a URL no longer than its components has none. -/
theorem spelled_of_parse {server : Text}
    (size : server.length ≤ host.length + digits.length + database.length +
      (charsetQuery charset).length + 2)
    (isParsed : parse addresses (driver.scheme.toList ++ ':' :: '/' :: '/' ::
      (userinfoOf username password ++ '@' :: server)) =
      some ⟨some username, some password, host, some digits, '/' :: database, charset⟩) :
    Spelled addresses host database charset := by
  rw [parse_assembled] at isParsed
  split at isParsed
  · next valid =>
    obtain ⟨-, ofPath, ofQuery, -⟩ := valid
    obtain ⟨rawHost, isServer, isHost, isPath, isCharset⟩ := read_partsOf_iff.mp isParsed
    change MadeOf _ (rawParts server).path at ofPath
    obtain ⟨isRaw, authority⟩ := eq_of_readServer isServer
    have sizes := congrArg List.length (rawParts_append server)
    rw [authority] at sizes
    obtain ⟨hostSize, sameHost⟩ := length_percentDecode isRaw.madeOf (by decide) isHost
    obtain ⟨pathSize, samePath⟩ := length_percentDecode ofPath (by decide) isPath
    have ofCharset : ∀ text ∈ charset, text.length + 9 ≤ (rawParts server).query.length ∧
        ((rawParts server).query.length ≤ text.length + 9 →
          '&' ∉ text ∧ MadeOf [':', '@', '/', '?'] text) :=
      fun text isText => length_charsetOf (isCharset.trans isText) ofQuery
    have querySize : (charsetQuery charset).length ≤ (rawParts server).query.length := by
      cases charset with
      | none => exact Nat.zero_le _
      | some text =>
          have long := (ofCharset text rfl).1
          rw [length_charsetQuery]
          split <;> omega
    simp only [length_append, length_cons] at sizes pathSize samePath
    obtain ⟨rfl, hostFree⟩ := sameHost (by omega)
    obtain ⟨same, pathFree⟩ := samePath (by omega)
    refine ⟨⟨isRaw, hostFree⟩, ?_, fun text isText => ?_⟩
    · have names := ofPath.of_notMem pathFree
      rw [← same] at names
      exact (forall_mem_cons.mp names).2
    · obtain ⟨long, spelled⟩ := ofCharset text isText
      have textSize := length_charsetQuery text
      obtain rfl : charset = some text := isText
      split at textSize
      · omega
      · next is => exact ⟨is, spelled (by omega)⟩
  · cases isParsed

theorem parse_of_spelled (areDigits : digits.all Char.isDigit = true)
    (spelled : Spelled addresses host database charset) :
    parse addresses (driver.scheme.toList ++ ':' :: '/' :: '/' ::
      (userinfoOf username password ++ '@' ::
      (host ++ ':' :: digits ++ '/' :: database ++ charsetQuery charset))) =
      some ⟨some username, some password, host, some digits, '/' :: database, charset⟩ := by
  obtain ⟨⟨isHost, hostFree⟩, ofDatabase, ofCharset⟩ := spelled
  have names := isHost.madeOf
  have pathNames : MadeOf [':', '@', '/'] ('/' :: database) :=
    forall_mem_cons.mpr ⟨by decide, ofDatabase⟩
  have ofQuery : charsetOf (charsetQuery charset) = charset ∧
      MadeOf [':', '@', '/', '?'] (charsetQuery charset) ∧
      DecimalText.startsWith (outside ['?', '#']) (charsetQuery charset) = false := by
    cases charset with
    | none => decide
    | some text =>
        obtain ⟨is, free, are⟩ := ofCharset text rfl
        rw [charsetQuery, nonempty_some is]
        exact ⟨charsetOf_spelled free are,
          forall_mem_append.mpr ⟨all_eq_true.mp (by decide), are⟩, rfl⟩
  obtain ⟨isCharset, queryNames, isQuery⟩ := ofQuery
  have digitNames : MadeOf [] digits := fun c isIn => by
    simp [isName, Char.isAlphanum, all_eq_true.mp areDigits c isIn]
  have authority : MadeOf ['%', ':', '[', ']'] (host ++ ':' :: digits) := by
    simp only [MadeOf, forall_mem_append, forall_mem_cons]
    exact ⟨names, by decide, digitNames.mono (by simp)⟩
  have server := span_append (authority.outside ['/', '?', '#'] (by decide))
    (show DecimalText.startsWith _ ('/' :: database ++ charsetQuery charset) = false from rfl)
  have path := span_append (pathNames.outside _ (by decide)) isQuery
  have query := span_append (queryNames.outside ['#'] (by decide))
    (show DecimalText.startsWith _ [] = false from rfl)
  rw [append_nil] at query
  obtain ⟨text, isText⟩ : ∃ text, text = host ++ ':' :: digits ++ '/' :: database ++
    charsetQuery charset := ⟨_, rfl⟩
  have parts : text.takeWhile (outside ['/', '?', '#']) = host ++ ':' :: digits ∧
      (rawParts text).path = '/' :: database ∧
      (rawParts text).query = charsetQuery charset ∧ (rawParts text).fragment = [] := by
    rw [isText, rawParts, append_assoc _ ('/' :: database)]
    simp only [server, path, query, and_self]
  rw [← isText, parse_assembled, if_pos, read_partsOf_iff, parts.1, parts.2.1, parts.2.2.1]
  · exact ⟨host, readServer_append isHost areDigits, percentDecode_of_notMem names
      (by decide) hostFree, percentDecode_of_notMem pathNames (by decide)
        (pathNames.free (by decide)), isCharset⟩
  · refine ⟨fun userinfo is => ?_, ?_⟩
    · obtain rfl := Option.some.inj is
      exact madeOf_userinfoOf username password
    · change MadeOf _ (rawParts text).path ∧ MadeOf _ ((rawParts text).query.drop 1) ∧
        MadeOf _ ((rawParts text).fragment.drop 1)
      rw [parts.2.1, parts.2.2.1, parts.2.2.2]
      exact ⟨pathNames.mono (by simp), fun c isIn =>
        queryNames.mono (by simp) c (mem_of_mem_drop isIn), by decide⟩

/-! ## The driver of the pool -/

theorem dispatch_eq_iff {scheme : Text} (isDriver : Driver.fromScheme scheme = some driver) :
    dispatch scheme = some driver ↔
      String.ofList scheme ∈ ["sqlite", "postgres", "postgresql", "mysql"] := by
  constructor
  · intro is
    rw [dispatch] at is
    split at is
    all_goals first | (next same => rw [same]; decide) | cases is
  · intro isIn
    have known : ∀ name ∈ ["sqlite", "postgres", "postgresql", "mysql"],
        dispatch name.toList = Driver.fromScheme name.toList := by decide +kernel
    have same := known _ isIn
    rw [String.toList_ofList] at same
    exact same.trans isDriver

theorem dispatch_scheme (driver : Driver) (rest : Text) :
    dispatch (schemeOf (driver.scheme.toList ++ ':' :: rest)) = some driver := by
  cases driver <;> rfl

/-- A URL of its own goes to its driver exactly if the pool knows its scheme as spelled. -/
theorem dispatch_iff (isDriver : Driver.fromName config.driver = .ok driver)
    (built : config.buildUrl = .ok url) :
    dispatch (schemeOf url) = some driver ↔
      ∀ own, nonempty ((config.effective config.write).url.map trim) = some own →
          String.ofList (schemeOf own) ∈ ["sqlite", "postgres", "postgresql", "mysql"] := by
  have sameDriver : (config.effective config.write).driver = config.driver := by
    cases config.write <;> rfl
  rw [ConnectionConfig.buildUrl, ConnectionConfig.assemble, sameDriver, isDriver] at built
  cases isOwn : nonempty ((config.effective config.write).url.map trim) with
  | some own =>
      rw [isOwn] at built
      change (config.effective config.write).checked driver own = .ok url at built
      rw [ConnectionConfig.checked] at built
      split at built
      · next found isFound =>
        split at built
        · next same =>
          obtain rfl := same
          obtain rfl := Except.ok.inj built
          simp [dispatch_eq_iff isFound]
        · cases built
      · cases built
  | none =>
      rw [isOwn] at built
      change (config.effective config.write).fromFields driver = .ok url at built
      refine iff_of_true ?_ (by simp)
      rw [ConnectionConfig.fromFields] at built
      split at built
      · next isSqlite =>
        rw [isSqlite]
        rw [ConnectionConfig.buildSqlite] at built
        cases isDatabase : required "database" (config.effective config.write).fields.database with
        | error e =>
            rw [isDatabase] at built
            cases built
        | ok database =>
            rw [isDatabase] at built
            change (if _ then _ else _) = _ at built
            split at built
            all_goals exact Except.ok.inj built ▸ dispatch_scheme .sqlite _
      · obtain ⟨host, database, -, -, rfl⟩ := eq_of_buildNetwork built
        exact dispatch_scheme driver _

/-- A connection by separate fields, with credentials and no overlay for writing. -/
structure Assembled (config : ConnectionConfig) (driver : Driver)
    (username password host database : Text) : Prop where
  names : Driver.fromName config.driver = .ok driver
  network : driver ≠ .sqlite
  url : config.url = none
  write : config.write = none
  username : config.fields.username = some username ∧ username ≠ []
  password : config.fields.password = some password ∧ password ≠ []
  host : config.fields.host = some host ∧ trim host = host
  database : config.fields.database = some database

theorem MadeOf.trim_eq (are : MadeOf [':', '@', '/'] database) : trim database = database := by
  refine Schedule.trim_of_no_whitespace fun c isIn => ?_
  have all : ∀ n < 128, isName [':', '@', '/'] (Char.ofNat n) = true →
      Schedule.isWhitespace (Char.ofNat n) = false := by decide +kernel
  have is := are c isIn
  rw [← Char.ofNat_toNat c] at is ⊢
  exact all _ (toNat_lt_of_isName (are c isIn) (by decide)) is

theorem parse_assembled_iff (is : Assembled config driver username password host database)
    (built : config.buildUrl = .ok url) :
    parse addresses url = some ⟨some username, some password, host,
      some (portText config driver), '/' :: database, config.fields.charset⟩ ↔
      Spelled addresses host database config.fields.charset := by
  rw [ConnectionConfig.buildUrl, is.write, ConnectionConfig.effective,
    ConnectionConfig.assemble_of_blank config (by rw [is.url]; rfl), is.names] at built
  change config.fromFields driver = _ at built
  rw [ConnectionConfig.fromFields, if_neg is.network] at built
  obtain ⟨server, name, isHost, isDatabase, rfl⟩ := eq_of_buildNetwork built
  rw [is.host.1] at isHost
  rw [is.database] at isDatabase
  obtain rfl := eq_of_required isHost
  obtain rfl := eq_of_required isDatabase
  have isUserinfo : credentials config = userinfoOf username password ++ ['@'] := by
    rw [credentials, is.username.1, is.password.1, nonempty_some is.username.2,
      nonempty_some is.password.2, userinfoOf]
  rw [isUserinfo, append_assoc, singleton_append, serverText, is.host.2]
  constructor
  · refine fun isParsed => spelled_of_parse ?_ isParsed
    have shorter := Schedule.length_trim_le database
    simp only [length_append, length_cons]
    omega
  · intro spelled
    rw [spelled.database.trim_eq]
    refine parse_of_spelled (all_eq_true.mpr fun c isIn => ?_) spelled
    rw [portText] at isIn
    exact DecimalText.isDigit_of_mem_toDigits (DecimalText.toList_toString _ ▸ isIn)

/--
An assembled URL is read back as its fields exactly if they are spelled as they
stand in a URL; and a URL is dispatched to the configured driver exactly if it
is assembled or has a scheme that the pool knows as spelled.
-/
theorem urls_read_back_iff :
    (∀ (config : ConnectionConfig) driver username password host database url,
      Assembled config driver username password host database → config.buildUrl = .ok url →
      (parse addresses url = some ⟨some username, some password, host,
          some (portText config driver), '/' :: database, config.fields.charset⟩ ↔
        Spelled addresses host database config.fields.charset)) ∧
    ∀ (config : ConnectionConfig) driver url, Driver.fromName config.driver = .ok driver →
      config.buildUrl = .ok url →
      (dispatch (schemeOf url) = some driver ↔
        ∀ own, nonempty ((config.effective config.write).url.map trim) = some own →
          String.ofList (schemeOf own) ∈ ["sqlite", "postgres", "postgresql", "mysql"]) :=
  ⟨fun _ _ _ _ _ _ _ is built => parse_assembled_iff is built,
    fun _ _ _ isDriver built => dispatch_iff isDriver built⟩

end

/-! ## An IPv6 address and a scheme of MariaDB -/

def byAddress (host : String) : ConnectionConfig where
  driver := "postgres".toList
  fields :=
    { host := some host.toList
      database := some "app".toList
      username := some "u".toList
      password := some "p".toList }

def mariaDb : ConnectionConfig where
  driver := "mysql".toList
  url := some "mariadb://db/app".toList

def oneAddress : Addresses where
  accepts address := address = "::1".toList
  madeOf address is := by
    obtain rfl := of_decide_eq_true is
    decide

theorem bracketed_address_reads_back :
    parse oneAddress "postgres://u:p@[::1]:5432/app".toList =
      some ⟨some ['u'], some ['p'], "[::1]".toList, some "5432".toList, "/app".toList, none⟩ := by
  refine (urls_read_back_iff.1 (byAddress "[::1]") .postgres ['u'] ['p'] "[::1]".toList
    "app".toList _ ⟨rfl, by decide, rfl, rfl, ?_, ?_, ?_, rfl⟩ (by decide +kernel)).mpr ?_
  · exact ⟨rfl, by decide⟩
  · exact ⟨rfl, by decide⟩
  · exact ⟨rfl, by decide +kernel⟩
  · exact ⟨by decide +kernel, by decide +kernel, by decide⟩

theorem address_and_scheme_are_lost :
    (byAddress "::1").buildUrl = .ok "postgres://u:p@::1:5432/app".toList ∧
    parse oneAddress "postgres://u:p@::1:5432/app".toList = none ∧
    mariaDb.buildUrl = .ok "mariadb://db/app".toList ∧
    dispatch (schemeOf "mariadb://db/app".toList) = none := by
  decide +kernel

end Rustasea.Orm.EndpointUrls
