import Rustasea.Broadcast.Channel

namespace Rustasea.Broadcast

/-!
# Signatures of Pusher channels

The manager asks the gate about a channel and then signs the socket, the channel
and its data, joined by colons.  A text may be read in more than one way, so a
signature can be one for a channel that the gate was not asked about.  The HMAC
is a parameter.
-/

/-! ## Signing -/

/-- What the signing of a manager reads of the Pusher configuration. -/
structure PusherConfig where
  key : Text
  secret : Text
  deriving DecidableEq

/-- The client-side authorization of a channel. -/
structure ChannelAuth where
  auth : Text
  channelData : Option Text

/-- The gate and the Pusher configuration of a manager. -/
structure BroadcastManager where
  gate : Option Gate
  pusher : Option PusherConfig

abbrev Hmac := (secret message : Text) → Text

def channelAuthString (socketId wireChannel : Text) (channelData : Option Text) : Text :=
  match channelData with
  | some data => socketId ++ ':' :: wireChannel ++ ':' :: data
  | none => socketId ++ ':' :: wireChannel

def authSignature (hmacSha256Hex : Hmac) (config : PusherConfig)
    (socketId wireChannel : Text) (channelData : Option Text) : ChannelAuth where
  auth :=
    config.key ++
      ':' :: hmacSha256Hex config.secret (channelAuthString socketId wireChannel channelData)
  channelData := channelData

namespace BroadcastManager

def authorize (manager : BroadcastManager) (channelWire : Text)
    (subscriber : Subscriber) :
    Except BroadcastError Unit := do
  let _ ← authorizeSubscription (channelFromWire channelWire) (some subscriber) manager.gate
  pure ()

/-- Authorize a subscriber and produce the signature for a socket. -/
def pusherChannelAuth (hmacSha256Hex : Hmac) (manager : BroadcastManager)
    (socketId channelWire : Text) (subscriber : Subscriber) (channelData : Option Text) :
    Except BroadcastError ChannelAuth := do
  manager.authorize channelWire subscriber
  match manager.pusher with
  | none => throw (.notConfigured "pusher".toList)
  | some config => pure (authSignature hmacSha256Hex config socketId channelWire channelData)

end BroadcastManager

/-! ## What Pusher expects -/

/--
The text whose signature Pusher expects for a socket that joins a gated channel:
without data on a private channel, with data on a presence channel.
-/
def expectedText (socketId wireChannel : Text) (channelData : Option Text) : Option Text :=
  match channelFromWire wireChannel, channelData with
  | .privateChannel _, none => some (channelAuthString socketId wireChannel none)
  | .presenceChannel _, some data => some (channelAuthString socketId wireChannel (some data))
  | _, _ => none

def expectedAuth (hmacSha256Hex : Hmac) (config : PusherConfig)
    (socketId wireChannel : Text) (channelData : Option Text) : Option Text :=
  (expectedText socketId wireChannel channelData).map fun text =>
    config.key ++ ':' :: hmacSha256Hex config.secret text

/-- A signature of the call is one only for channels the gate allowed. -/
def Confined (hmacSha256Hex : Hmac) (config : PusherConfig) (gate : Option Gate)
    (socketId channelWire : Text) (subscriber : Subscriber) (channelData : Option Text) : Prop :=
  ∀ signed, BroadcastManager.pusherChannelAuth hmacSha256Hex ⟨gate, some config⟩
        socketId channelWire subscriber channelData =
      .ok signed →
    ∀ socket wire data, expectedAuth hmacSha256Hex config socket wire data = some signed.auth →
        ∃ installed ∈ gate, installed wire subscriber.id = .allow

/--
After any colon of a text, a private name up to the end, and a presence name up
to any later colon, is the channel.
-/
def ReadsOnly (text channel : Text) : Prop :=
  ∀ before rest, text = before ++ ':' :: rest → (privatePrefix <+: rest → rest = channel) ∧
        (presencePrefix <+: rest → ∀ name data, rest = name ++ ':' :: data → name = channel)

/-! ## Readings of a text -/

theorem isGated_of_expectedText {socketId wireChannel text : Text} {channelData : Option Text}
    (expected : expectedText socketId wireChannel channelData = some text) :
    IsGated wireChannel := by
  unfold expectedText at expected
  unfold IsGated
  split at expected
  · next isChannel => rw [isChannel]; rfl
  · next isChannel => rw [isChannel]; rfl
  · cases expected

theorem prefix_of_prefix_append {beginning name data : Text} (noColon : ':' ∉ beginning)
    (isPrefix : beginning <+: name ++ ':' :: data) : beginning <+: name := by
  rcases List.prefix_or_prefix_of_prefix isPrefix
    (List.prefix_append name (':' :: data)) with isBefore | isLonger
  · exact isBefore
  · obtain ⟨more, rfl⟩ := isLonger
    cases more with
    | nil => exact ⟨[], by simp⟩
    | cons first rest =>
      have isColon := (List.prefix_append_right_inj name).mp isPrefix
      obtain ⟨rfl, -⟩ := List.cons_prefix_cons.mp isColon
      exact absurd (by simp) noColon

theorem readsOnly_iff (text channel : Text) :
    ReadsOnly text channel ↔
      ∀ socket wire data, expectedText socket wire data = some text → wire = channel := by
  constructor
  · intro readsOnly socket wire data expected
    unfold expectedText at expected
    split at expected
    · next name isChannel =>
      obtain rfl := Option.some.inj expected
      have wireIs := authChannel_channelFromWire wire
      rw [isChannel] at wireIs
      exact (readsOnly socket wire rfl).1 ⟨name, wireIs⟩
    · next name data isChannel =>
      obtain rfl := Option.some.inj expected
      have wireIs := authChannel_channelFromWire wire
      rw [isChannel] at wireIs
      have isPrefix : presencePrefix <+: wire := ⟨name, wireIs⟩
      exact (readsOnly socket (wire ++ ':' :: data) (List.append_assoc _ _ _)).2
        (isPrefix.trans (List.prefix_append _ _)) wire data rfl
    · cases expected
  · rintro readings before rest rfl
    constructor
    · rintro ⟨name, rfl⟩
      refine readings before _ none ?_
      unfold expectedText
      rw [channelFromWire_private]
      rfl
    · rintro isPrefix wire data rfl
      obtain ⟨name, rfl⟩ := prefix_of_prefix_append (by decide) isPrefix
      refine readings before _ (some data) ?_
      unfold expectedText
      rw [channelFromWire_presence]
      exact congrArg some (List.append_assoc _ _ _)

/-! ## One call -/

section Calls

variable {hmacSha256Hex : Hmac} {config : PusherConfig} {gate : Option Gate}
  {socketId channelWire : Text} {subscriber : Subscriber} {channelData : Option Text}

theorem pusherChannelAuth_ok {signed : ChannelAuth}
    (isSigned : BroadcastManager.pusherChannelAuth hmacSha256Hex ⟨gate, some config⟩ socketId
      channelWire subscriber channelData = .ok signed) :
    signed = authSignature hmacSha256Hex config socketId channelWire channelData ∧
      (IsGated channelWire → ∃ installed ∈ gate, installed channelWire subscriber.id = .allow) := by
  unfold BroadcastManager.pusherChannelAuth BroadcastManager.authorize at isSigned
  cases authorized : authorizeSubscription (channelFromWire channelWire) (some subscriber) gate with
  | error failure =>
    simp only [authorized] at isSigned
    cases isSigned
  | ok decision =>
    simp only [authorized] at isSigned
    obtain rfl := Except.ok.inj isSigned
    exact ⟨rfl, fun gated => gate_of_authorizeSubscription gated authorized⟩

theorem pusherChannelAuth_of_gate {installed : Gate}
    (allows : IsGated channelWire → installed channelWire subscriber.id = .allow) :
    BroadcastManager.pusherChannelAuth hmacSha256Hex
      ⟨some installed, some config⟩ socketId channelWire subscriber channelData =
      .ok (authSignature hmacSha256Hex config socketId channelWire channelData) := by
  unfold BroadcastManager.pusherChannelAuth BroadcastManager.authorize
  simp only [authorizeSubscription_of_gate allows]
  rfl

theorem expectedAuth_eq_iff (injective : Function.Injective (hmacSha256Hex config.secret))
    (socket wire : Text) (data : Option Text) :
    expectedAuth hmacSha256Hex config socket wire data =
        some (authSignature hmacSha256Hex config socketId channelWire channelData).auth ↔
      expectedText socket wire data =
        some (channelAuthString socketId channelWire channelData) := by
  unfold expectedAuth authSignature
  rw [Option.map_eq_some_iff]
  constructor
  · rintro ⟨text, expected, sameAuth⟩
    have sameMac := List.append_cancel_left sameAuth
    rw [expected, injective (List.cons.inj sameMac).2]
  · intro expected
    exact ⟨_, expected, rfl⟩

def onlyChannel (channel : Text) : Gate :=
  fun asked _ => if asked = channel then .allow else .deny []

end Calls

/--
The signatures of a call are confined to channels that the gate allowed,
whatever the gate is, exactly when the signed text can be read as one for the
channel of the call only.
-/
theorem pusherChannelAuth_confined_iff (hmacSha256Hex : Hmac) (config : PusherConfig)
    (injective : Function.Injective (hmacSha256Hex config.secret))
    (socketId channelWire : Text) (subscriber : Subscriber) (channelData : Option Text) :
    (∀ gate : Option Gate,
      Confined hmacSha256Hex config gate socketId channelWire subscriber channelData) ↔
      ReadsOnly (channelAuthString socketId channelWire channelData) channelWire := by
  rw [readsOnly_iff]
  constructor
  · intro confined socket wire data expected
    have allowsOwn :
        IsGated channelWire → onlyChannel channelWire channelWire subscriber.id = .allow :=
      fun _ => if_pos rfl
    obtain ⟨installed, isInstalled, allows⟩ := confined (some (onlyChannel channelWire)) _
        (pusherChannelAuth_of_gate allowsOwn) socket wire data
        ((expectedAuth_eq_iff injective socket wire data).mpr expected)
    obtain rfl := Option.some.inj isInstalled
    by_contra isOther
    simp [onlyChannel, isOther] at allows
  · intro readings gate signed isSigned socket wire data isAuth
    obtain ⟨rfl, passed⟩ := pusherChannelAuth_ok isSigned
    have expected := (expectedAuth_eq_iff injective socket wire data).mp isAuth
    obtain rfl := readings socket wire data expected
    exact passed (isGated_of_expectedText expected)

/-! ## Sockets and channels with and without colons -/

theorem readsOnly_of_noColon {socketId channelWire : Text} (socketPlain : ':' ∉ socketId)
    (channelPlain : ':' ∉ channelWire) :
    ReadsOnly (channelAuthString socketId channelWire none) channelWire := by
  intro before rest sameText
  have restIs : rest = channelWire := by
    rcases List.append_eq_append_iff.mp sameText with
      ⟨more, -, socketRest⟩ | ⟨more, socketIs, socketRest⟩
    · cases more with
      | nil => exact (List.cons.inj socketRest).2.symm
      | cons first others =>
        obtain ⟨-, channelIs⟩ := List.cons.inj socketRest
        exact absurd (by simp [channelIs]) channelPlain
    · cases more with
      | nil => exact (List.cons.inj socketRest).2
      | cons first others =>
        obtain ⟨rfl, -⟩ := List.cons.inj socketRest
        exact absurd (by simp [socketIs]) socketPlain
  subst restIs
  refine ⟨fun _ => rfl, ?_⟩
  rintro - name data rfl
  exact absurd (by simp) channelPlain

def transparentHmac : Hmac := fun secret message => secret ++ message

theorem transparentHmac_injective (secret : Text) : Function.Injective (transparentHmac secret) :=
  fun _ _ same => List.append_cancel_left same

def pusherConfig : PusherConfig where
  key := "key".toList
  secret := "secret".toList

def mallory : Subscriber where
  id := "mallory".toList
  name := none

def denyAll : Gate := fun _ _ => .deny "no".toList

theorem plain_socket_is_confined :
    Function.Injective (transparentHmac pusherConfig.secret) ∧
      ∀ gate : Option Gate, Confined transparentHmac pusherConfig gate "1.2".toList
          "private-mine".toList mallory none := by
  refine ⟨transparentHmac_injective _, ?_⟩
  exact (pusherChannelAuth_confined_iff transparentHmac pusherConfig
    (transparentHmac_injective _) "1.2".toList "private-mine".toList mallory
    none).mpr (readsOnly_of_noColon (by decide) (by decide))

/--
A public channel is signed without a gate; with a colon in the socket id the
signature is the one for a presence channel that the gate denies.
-/
theorem public_signature_joins_a_presence_channel :
    ∃ signed,
      BroadcastManager.pusherChannelAuth transparentHmac ⟨some denyAll, some pusherConfig⟩
        "1.2:presence-staff".toList "lobby".toList mallory none = .ok signed ∧
      expectedAuth transparentHmac pusherConfig "1.2".toList "presence-staff".toList
        (some "lobby".toList) =
        some signed.auth ∧
      denyAll "presence-staff".toList mallory.id = .deny "no".toList :=
  ⟨_, rfl, by decide +kernel, rfl⟩

end Rustasea.Broadcast
