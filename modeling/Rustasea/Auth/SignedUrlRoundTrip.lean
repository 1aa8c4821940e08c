import Mathlib.Data.List.Induction
import Rustasea.Auth.SignedUrl
import Rustasea.Library.PairOrder

namespace Rustasea.Auth

open DecimalText PercentEncoding List

/-!
# What verifies under a signature

Signing and verifying meet in the canonical payload: parsing a signed query
gives back its parameters in any order, and the payload of a path, an expiry and
a set of parameters is the payload of no others.
-/

/-! ## The order of parameters -/

theorem sorted_eq_iff_perm {extra others : List Parameter} :
    sorted extra = sorted others ↔ extra.Perm others := by
  unfold sorted
  exact PairOrder.mergeSort_eq_iff_perm

/-! ## The canonical payload is injective -/

def payloadLines (path : String) (expires : Int) (extra : List Parameter) : List (List UInt8) :=
  encode (utf8 path) :: decimal expires :: (sorted extra).map encodedPair

theorem canonicalPayload_eq (path : String) (expires : Int) (extra : List Parameter) :
    canonicalPayload path expires extra = terminated 10 (payloadLines path expires extra) := by
  simp [canonicalPayload, payloadLines, terminated, flatMap_map]

theorem isUnreserved_of_mem_decimal {byte : UInt8} {n : Int} (isIn : byte ∈ decimal n) :
    isUnreserved byte = true := by
  have digits : ∀ {m : Nat} {digit : UInt8}, digit ∈ asciiBytes (Nat.toDigits 10 m) →
      isUnreserved digit = true := by
    intro m digit isDigitIn
    simp only [asciiBytes, mem_map] at isDigitIn
    obtain ⟨character, isIn, rfl⟩ := isDigitIn
    have bounds := toNat_of_isDigit (Nat.isDigit_of_mem_toDigits (by decide) (by decide) isIn)
    simp only [isUnreserved, UInt8.toNat_ofNat', decide_eq_true_eq]
    omega
  cases n with
  | ofNat m => exact digits isIn
  | negSucc m =>
    rw [decimal, mem_cons] at isIn
    rcases isIn with rfl | isDigit
    · decide
    · exact digits isDigit

theorem decimal_injective {first second : Int} (inRange : inI64 first = true)
    (alsoInRange : inI64 second = true)
    (same : decimal first = decimal second) : first = second := by
  have read := parseI64_decimal inRange
  rw [same, parseI64_decimal alsoInRange, Option.some.injEq] at read
  exact read.symm

theorem encodedPair_injective : Function.Injective encodedPair := by
  intro first second same
  simp only [encodedPair, append_assoc] at same
  obtain ⟨sameKey, sameValue⟩ := append_separator_inj
      (not_mem_encode (by decide) (by decide) (utf8 first.1))
      (not_mem_encode (by decide) (by decide) (utf8 second.1)) same
  exact Prod.ext (utf8_injective (encode_injective sameKey))
    (utf8_injective (encode_injective sameValue))

theorem payloadLines_free (path : String) (expires : Int) (extra : List Parameter) :
    ∀ line ∈ payloadLines path expires extra, (10 : UInt8) ∉ line := by
  intro line isLine
  simp only [payloadLines, mem_cons, mem_map] at isLine
  rcases isLine with rfl | rfl | ⟨pair, -, rfl⟩
  · exact not_mem_encode (by decide) (by decide) _
  · intro isIn
    exact absurd (isUnreserved_of_mem_decimal isIn) (by decide)
  · simp only [encodedPair, mem_append, not_or]
    exact ⟨⟨not_mem_encode (by decide) (by decide) _, by decide⟩,
      not_mem_encode (by decide) (by decide) _⟩

theorem canonicalPayload_injective {path otherPath : String} {expires otherExpires : Int}
    {extra otherExtra : List Parameter} (inRange : inI64 expires = true)
    (otherInRange : inI64 otherExpires = true)
    (same : canonicalPayload path expires extra =
      canonicalPayload otherPath otherExpires otherExtra) :
    path = otherPath ∧ expires = otherExpires ∧ extra.Perm otherExtra := by
  rw [canonicalPayload_eq, canonicalPayload_eq] at same
  have lines := eq_of_terminated_eq (payloadLines_free path expires extra)
      (payloadLines_free otherPath otherExpires otherExtra) same
  simp only [payloadLines, List.cons.injEq] at lines
  obtain ⟨samePath, sameExpires, samePairs⟩ := lines
  exact ⟨utf8_injective (encode_injective samePath),
    decimal_injective inRange otherInRange sameExpires,
    sorted_eq_iff_perm.mp (map_injective_iff.mpr encodedPair_injective samePairs)⟩

/-! ## A signed query read back -/

theorem exists_decimalText (n : Int) : ∃ text : String, utf8 text = decimal n := by
  obtain ⟨characters, isDecimal, ascii⟩ := exists_digits_of_decimal n
  exact ⟨String.ofList characters, by rw [utf8_ofList_ascii ascii, isDecimal, asciiBytes]⟩

theorem percentDecode_encode (text : String) : percentDecode (encode (utf8 text)) = .ok text := by
  simp [percentDecode]

theorem encodedPair_ne_nil (pair : Parameter) : encodedPair pair ≠ [] := by
  simp [encodedPair]

theorem parseSegment_encodedPair (pair : Parameter) :
    parseSegment (encodedPair pair) = .ok pair := by
  have split :
      splitOnce 61 (encodedPair pair) = some (encode (utf8 pair.1), encode (utf8 pair.2)) := by
    simp only [encodedPair, append_assoc]
    exact splitOnce_append (not_mem_encode (by decide) (by decide) _) _
  rw [parseSegment, if_neg (encodedPair_ne_nil pair), split]
  simp only [percentDecode_encode]
  rfl

theorem not_mem_encodedPair {delimiter : UInt8} (isReserved : isUnreserved delimiter = false)
    (notEscape : delimiter ≠ 37) (notEquals : delimiter ≠ 61)
    (pair : Parameter) : delimiter ∉ encodedPair pair := by
  simp only [encodedPair, mem_append, mem_singleton, not_or]
  exact ⟨⟨not_mem_encode isReserved notEscape _, notEquals⟩, not_mem_encode isReserved notEscape _⟩

variable {query : List UInt8} {pairs : List Parameter}

theorem parseQuery_of_segments (segments : query.splitOn 38 = pairs.map encodedPair) :
    parseQuery query = .ok pairs := by
  have notQuestion : ∀ rest, query ≠ 63 :: rest := by
    rintro rest rfl
    obtain ⟨part, isPart, isIn⟩ := exists_mem_splitOn_of_cons (by decide : (63 : UInt8) ≠ 38) rest
    rw [segments, mem_map] at isPart
    obtain ⟨pair, -, rfl⟩ := isPart
    exact not_mem_encodedPair (by decide) (by decide) (by decide) pair isIn
  have whole : withoutQuestion query = query := withoutQuestion.eq_2 query notQuestion
  have notEmpty : query ≠ [] := by
    rintro rfl
    cases pairs with
    | nil => cases segments
    | cons pair rest =>
      rw [splitOn_nil, map_cons, List.cons.injEq] at segments
      exact encodedPair_ne_nil pair segments.1.symm
  rw [parseQuery, whole, if_neg notEmpty, segments]
  clear segments whole notEmpty notQuestion
  induction pairs with
  | nil => rfl
  | cons pair rest ih =>
    rw [map_cons, mapM_cons, parseSegment_encodedPair, ih]
    rfl

def gathered (pairs : List Parameter) : Collected :=
  { signature := pairs.lookup "signature"
    expires := (pairs.lookup "expires").bind fun value => parseI64 (utf8 value)
    extra := pairs.filter fun pair => pair.1 ≠ "signature" ∧ pair.1 ≠ "expires" }

/-- The pairs of a signed query. -/
structure WellNamed (pairs : List Parameter) : Prop where
  distinct : (pairs.map Prod.fst).Nodup
  expiryReads : ∀ pair ∈ pairs, pair.1 = "expires" → (parseI64 (utf8 pair.2)).isSome

variable {pair : Parameter}

theorem collectPair_gathered (isNew : pair.1 ∉ pairs.map Prod.fst)
    (expiryReads : pair.1 = "expires" → (parseI64 (utf8 pair.2)).isSome) :
    collectPair (gathered pairs) pair = .ok (gathered (pairs ++ [pair])) := by
  have notFound : pairs.lookup pair.1 = none := by
    rw [lookup_eq_none_iff]
    intro other isOther
    rw [bne_iff_ne]
    exact fun same => isNew (same ▸ mem_map_of_mem isOther)
  obtain ⟨name, value⟩ := pair
  dsimp only at isNew expiryReads notFound
  by_cases isSignature : name = "signature"
  · subst isSignature
    simp [collectPair, gathered, lookup_append, notFound]
  by_cases isExpires : name = "expires"
  · subst isExpires
    obtain ⟨expires, reads⟩ := Option.isSome_iff_exists.mp (expiryReads rfl)
    simp [collectPair, gathered, lookup_append, notFound, reads]
  · have noDuplicate : ((gathered pairs).extra.any fun existing => existing.1 = name) = false := by
      rw [any_eq_false]
      intro existing isExisting
      have isPair := mem_of_mem_filter isExisting
      simp only [decide_eq_true_eq]
      exact fun same => isNew (same ▸ mem_map_of_mem isPair)
    have otherName : ("signature" == name) = false := beq_eq_false_iff_ne.mpr (Ne.symm isSignature)
    have alsoOther : ("expires" == name) = false := beq_eq_false_iff_ne.mpr (Ne.symm isExpires)
    rw [collectPair, noDuplicate]
    simp [gathered, lookup_append, isSignature, isExpires, otherName, alsoOther]

theorem foldlM_collectPair (wellNamed : WellNamed pairs) :
    pairs.foldlM collectPair
        { signature := none, expires := none, extra := [] } =
      .ok (gathered pairs) := by
  induction pairs using List.reverseRecOn with
  | nil => rfl
  | append_singleton pairs pair ih =>
    have distinct := wellNamed.distinct
    rw [map_append, nodup_append] at distinct
    have earlier : WellNamed pairs :=
      { distinct := distinct.1
        expiryReads := fun other isOther =>
          wellNamed.expiryReads other (mem_append_left _ isOther) }
    have isNew : pair.1 ∉ pairs.map Prod.fst :=
      fun isOld => distinct.2.2 _ isOld _ (mem_singleton_self _) rfl
    rw [foldlM_append, ih earlier]
    exact (congrArg (· >>= pure)
      (collectPair_gathered isNew (wellNamed.expiryReads pair (by simp)))).trans rfl

theorem lookup_of_mem {name value : String} (distinct : (pairs.map Prod.fst).Nodup)
    (isPair : (name, value) ∈ pairs) : pairs.lookup name = some value := by
  obtain ⟨before, after, rfl⟩ := append_of_mem isPair
  rw [lookup_eq_some_iff]
  refine ⟨before, after, rfl, ?_⟩
  intro other isBefore
  rw [map_append, nodup_append] at distinct
  rw [bne_iff_ne]
  intro same
  exact distinct.2.2 other.1 (mem_map_of_mem isBefore) name (by simp) same.symm

/-! ## What is signed verifies -/

def signedPairs (extra : List Parameter) (expires signature : String) : List Parameter :=
  sorted extra ++ [("expires", expires), ("signature", signature)]

variable {crypto : UrlCrypto} {expires : Int} {expiresText : String}

theorem splitOn_sign (lawful : LawfulHex crypto) (isText : utf8 expiresText = decimal expires)
    (key : List UInt8) (path : String) (extra : List Parameter) :
    (sign crypto key path expires extra).splitOn 38 = (signedPairs extra expiresText
      (crypto.hexEncode (crypto.hmac key (canonicalPayload path expires extra)))).map
      encodedPair := by
  have plainName : ∀ text ∈ ["expires", "signature"], encode (utf8 text) = utf8 text := by decide
  have plainExpires : encode (decimal expires) = decimal expires :=
    encode_of_unreserved fun _ isIn => isUnreserved_of_mem_decimal isIn
  have plainSignature : ∀ tag, encode (utf8 (crypto.hexEncode tag)) = utf8 (crypto.hexEncode tag) :=
    fun tag => encode_of_unreserved (lawful.encode_plain tag)
  have free : ∀ part ∈ (sorted extra).map encodedPair, (38 : UInt8) ∉ part := by
    intro part isPart
    obtain ⟨pair, -, rfl⟩ := mem_map.mp isPart
    exact not_mem_encodedPair (by decide) (by decide) (by decide) pair
  have whole :
      sign crypto key path expires extra = terminated 38 ((sorted extra).map encodedPair) ++
          (encodedPair ("expires", expiresText) ++ 38 :: encodedPair
                ("signature",
                  crypto.hexEncode (crypto.hmac key (canonicalPayload path expires extra)))) := by
    simp [sign, terminated, encodedPair, flatMap_map, isText,
      plainName "expires" (by simp), plainName "signature" (by simp),
      plainExpires, plainSignature]
  rw [whole, splitOn_terminated_append free, splitOn_append_cons_self_of_not_mem
      (not_mem_encodedPair (by decide) (by decide) (by decide) _),
    splitOn_eq_singleton (not_mem_encodedPair (by decide) (by decide) (by decide) _)]
  simp [signedPairs]

/-- Parameters that a caller may sign: of different names, none reserved. -/
structure Signable (extra : List Parameter) : Prop where
  distinct : (extra.map Prod.fst).Nodup
  notReserved : ∀ pair ∈ extra, pair.1 ≠ "expires" ∧ pair.1 ≠ "signature"

variable {extra : List Parameter}

theorem wellNamed_signedPairs (signable : Signable extra)
    (isText : utf8 expiresText = decimal expires) (inRange : inI64 expires = true)
    (signature : String) : WellNamed (signedPairs extra expiresText signature) := by
  have sameParameters := mergeSort_perm extra parameterLe
  constructor
  · rw [signedPairs, map_append, nodup_append]
    refine ⟨(sameParameters.map Prod.fst).nodup_iff.mpr signable.distinct, by simp, ?_⟩
    rintro name isName other isOther rfl
    obtain ⟨pair, isPair, rfl⟩ := mem_map.mp isName
    have plain := signable.notReserved pair (sameParameters.mem_iff.mp isPair)
    simp only [map_cons, map_nil, mem_cons, not_mem_nil, or_false] at isOther
    exact isOther.elim plain.1 plain.2
  · intro pair isPair isExpires
    simp only [signedPairs, mem_append, mem_cons, not_mem_nil, or_false] at isPair
    rcases isPair with isExtra | rfl | rfl
    · exact absurd isExpires (signable.notReserved pair (sameParameters.mem_iff.mp isExtra)).1
    · rw [isText, parseI64_decimal inRange]
      rfl
    · exact absurd isExpires (by dsimp only; decide)

variable {path : String}

/-- A signed query is read back, whatever the order of its segments. -/
theorem readQuery_of_perm (lawful : LawfulHex crypto) {key : List UInt8}
    (inRange : inI64 expires = true) (signable : Signable extra)
    (permuted : (query.splitOn 38).Perm ((sign crypto key path expires extra).splitOn 38)) :
    ∃ read, readQuery query = .ok read ∧
      read.signature = crypto.hexEncode (crypto.hmac key (canonicalPayload path expires extra)) ∧
      read.expires = expires ∧ read.extra.Perm extra := by
  obtain ⟨expiresText, isText⟩ := exists_decimalText expires
  rw [splitOn_sign lawful isText] at permuted
  generalize crypto.hexEncode (crypto.hmac key (canonicalPayload path expires extra)) = signature
    at permuted ⊢
  obtain ⟨pairs, segments, samePairs⟩ :=
    (congrFun₂ (eq_map_comp_perm encodedPair) _ _).mpr permuted
  have signed := wellNamed_signedPairs signable isText inRange signature
  have wellNamed : WellNamed pairs :=
    { distinct := (samePairs.map Prod.fst).nodup_iff.mpr signed.distinct
      expiryReads := fun pair isPair => signed.expiryReads pair (samePairs.mem_iff.mp isPair) }
  have foundSignature : pairs.lookup "signature" = some signature :=
    lookup_of_mem wellNamed.distinct (samePairs.mem_iff.mpr (by simp [signedPairs]))
  have foundExpires : pairs.lookup "expires" = some expiresText :=
    lookup_of_mem wellNamed.distinct (samePairs.mem_iff.mpr (by simp [signedPairs]))
  have sameExtra : (gathered pairs).extra.Perm extra := by
    have kept : (sorted extra).filter
          (fun pair => pair.1 ≠ "signature" ∧ pair.1 ≠ "expires") =
        sorted extra := by
      rw [filter_eq_self]
      intro pair isPair
      have plain := signable.notReserved pair
          ((mergeSort_perm extra parameterLe).mem_iff.mp isPair)
      simpa using And.intro plain.2 plain.1
    have reservedOut : (signedPairs extra expiresText signature).filter
          (fun pair => pair.1 ≠ "signature" ∧ pair.1 ≠ "expires") =
        sorted extra := by
      rw [signedPairs, filter_append, kept]
      simp
    have filtered := samePairs.filter (fun pair => pair.1 ≠ "signature" ∧ pair.1 ≠ "expires")
    rw [reservedOut] at filtered
    exact filtered.trans (mergeSort_perm extra parameterLe)
  refine
    ⟨{ signature := signature
       expires := expires
       extra := (gathered pairs).extra }, ?_, rfl, rfl, sameExtra⟩
  have gatheredSignature : (gathered pairs).signature = some signature := foundSignature
  have gatheredExpires : (gathered pairs).expires = some expires := by
    rw [gathered, foundExpires, Option.bind_some, isText, parseI64_decimal inRange]
  rw [readQuery, parseQuery_of_segments segments]
  simp only [bind, Except.bind, foldlM_collectPair wellNamed, gatheredSignature, gatheredExpires]
  rfl

variable {read : SignedQuery}

theorem verify_ok_iff {key query : List UInt8} {now : Int} (isRead : readQuery query = .ok read) :
    verify crypto key path query now = .ok () ↔
      key ≠ [] ∧
        crypto.hexDecode read.signature =
          some (crypto.hmac key (canonicalPayload path read.expires read.extra)) ∧
        now ≤ read.expires := by
  unfold verify
  split
  · next isEmpty => simp [isEmpty]
  · next hasKey =>
    simp only [isRead, bind, Except.bind]
    split
    · next isNone => simp [isNone]
    · next provided isSome =>
      simp only [isSome]
      split
      · next differs => simp [Ne.symm differs]
      · next same =>
        split <;> simp_all [pure, Except.pure]

theorem canonicalPayload_of_perm {extra others : List Parameter} (permuted : extra.Perm others)
    (path : String) (expires : Int) :
    canonicalPayload path expires extra = canonicalPayload path expires others := by
  rw [canonicalPayload, canonicalPayload, sorted_eq_iff_perm.mpr permuted]

def Collected.InRange (collected : Collected) : Prop :=
  ∀ expires, collected.expires = some expires → inI64 expires = true

theorem inRange_collectPair {collected next : Collected} (before : collected.InRange)
    (isCollected : collectPair collected pair = .ok next) : next.InRange := by
  unfold collectPair at isCollected
  split at isCollected
  · split at isCollected
    · cases isCollected
    · cases isCollected
      exact before
  · split at isCollected
    · split at isCollected
      · cases isCollected
      · split at isCollected
        · next expires reads =>
          cases isCollected
          intro expires' isExpires
          cases isExpires
          exact inI64_of_parseI64 reads
        · cases isCollected
    · split at isCollected
      · cases isCollected
      · cases isCollected
        exact before

theorem inRange_foldlM {collected final : Collected} (before : collected.InRange)
    (isCollected : pairs.foldlM collectPair collected = .ok final) : final.InRange := by
  induction pairs generalizing collected with
  | nil =>
    cases isCollected
    exact before
  | cons pair rest ih =>
    rw [foldlM_cons] at isCollected
    cases step : collectPair collected pair with
    | error failure =>
      rw [step] at isCollected
      cases isCollected
    | ok next =>
      rw [step] at isCollected
      exact ih (inRange_collectPair before step) isCollected

theorem inI64_of_readQuery (isRead : readQuery query = .ok read) : inI64 read.expires = true := by
  cases parsed : parseQuery query with
  | error failure =>
    rw [readQuery, parsed] at isRead
    cases isRead
  | ok pairs =>
    cases folded : pairs.foldlM collectPair { signature := none, expires := none, extra := [] } with
    | error failure =>
      simp only [readQuery, parsed, folded, bind, Except.bind] at isRead
      cases isRead
    | ok collected =>
      have inRange : collected.InRange :=
        inRange_foldlM (by intro expires isExpires; cases isExpires) folded
      simp only [readQuery, parsed, folded, bind, Except.bind] at isRead
      split at isRead
      · cases isRead
      · cases isRead
      · next signature expires _ isExpires =>
        cases isRead
        exact inRange expires isExpires

/--
A query signed with a key verifies under its path until its expiry, in any order
of its segments; and whatever else verifies with that signature has the path,
the expiry and the parameters that were signed.
-/
theorem signed_query_verifies_alone (crypto : UrlCrypto) (lawful : LawfulHex crypto)
    (key : List UInt8) (hasKey : key ≠ []) (path : String) (expires : Int)
    (inRange : inI64 expires = true) (extra : List Parameter) (signable : Signable extra) :
    (∀ (query : List UInt8) (now : Int),
      (query.splitOn 38).Perm ((sign crypto key path expires extra).splitOn 38) →
      now ≤ expires → verify crypto key path query now = .ok ()) ∧
    (Function.Injective (crypto.hmac key) →
      ∀ (otherPath : String) (query : List UInt8) (now : Int) (read : SignedQuery),
        readQuery query = .ok read →
        crypto.hexDecode read.signature =
          some (crypto.hmac key (canonicalPayload path expires extra)) →
        verify crypto key otherPath query now = .ok () →
        otherPath = path ∧ read.expires = expires ∧ read.extra.Perm extra) := by
  constructor
  · intro query now permuted inTime
    obtain ⟨read, isRead, signature, sameExpires, sameExtra⟩ :=
      readQuery_of_perm lawful inRange signable permuted
    rw [verify_ok_iff isRead, signature, lawful.decode_encode, sameExpires,
      canonicalPayload_of_perm sameExtra]
    exact ⟨hasKey, rfl, inTime⟩
  · intro injective otherPath query now read isRead sameSignature verifies
    obtain ⟨-, ownTag, -⟩ := (verify_ok_iff isRead).mp verifies
    rw [sameSignature, Option.some.injEq] at ownTag
    obtain ⟨samePath, sameExpires, sameExtra⟩ :=
      canonicalPayload_injective inRange (inI64_of_readQuery isRead) (injective ownTag)
    exact ⟨samePath.symm, sameExpires.symm, sameExtra.symm⟩

/-- A digest that shows its key and payload, and lower-case hexadecimal. -/
def transparentCrypto : UrlCrypto :=
  { hmac := fun key payload => key ++ payload, hexEncode := hexText, hexDecode := ofHexText? }

theorem lawful_transparentCrypto : LawfulHex transparentCrypto :=
  { decode_encode := ofHexText?_hexText
    encode_plain := fun _ _ isIn => isUnreserved_of_mem_hexText isIn }

theorem delimiters_survive_reordering :
    (∀ (query : List UInt8) (now : Int),
      (query.splitOn 38).Perm
        ((sign transparentCrypto [7] "/é&" (-3) [("b=", "1&2"), ("a\n", "ü")]).splitOn 38) →
      now ≤ -3 → verify transparentCrypto [7] "/é&" query now = .ok ()) ∧
    (Function.Injective (transparentCrypto.hmac [7]) ∧
      ∀ (otherPath : String) (query : List UInt8) (now : Int) (read : SignedQuery),
        readQuery query = .ok read →
        transparentCrypto.hexDecode read.signature = some
            (transparentCrypto.hmac [7]
              (canonicalPayload "/é&" (-3) [("b=", "1&2"), ("a\n", "ü")])) →
        verify transparentCrypto [7] otherPath query now = .ok () →
        otherPath = "/é&" ∧ read.expires = -3 ∧ read.extra.Perm [("b=", "1&2"), ("a\n", "ü")]) := by
  have injective : Function.Injective (transparentCrypto.hmac [7]) :=
    append_right_injective [7]
  have settled := signed_query_verifies_alone transparentCrypto lawful_transparentCrypto [7]
      (by decide) "/é&" (-3) (by decide) [("b=", "1&2"), ("a\n", "ü")]
      { distinct := by decide, notReserved := by decide }
  exact ⟨settled.1, injective, settled.2 injective⟩

/-- A signer without a key signs, and verifies nothing of what it signed. -/
theorem empty_key_never_verifies :
    ¬ ∀ (crypto : UrlCrypto) (key : List UInt8) (path : String)
      (expires now : Int) (extra : List Parameter),
      LawfulHex crypto → inI64 expires = true → Signable extra → now ≤ expires →
      verify crypto key path (sign crypto key path expires extra) now = .ok () := by
  intro always
  have verified := always transparentCrypto [] "/x" 5 0 [] lawful_transparentCrypto
      (by decide) { distinct := by decide, notReserved := by decide }
      (by decide)
  rw [verify, if_pos rfl] at verified
  cases verified

end Rustasea.Auth
