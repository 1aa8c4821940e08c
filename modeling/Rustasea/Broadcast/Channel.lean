import Mathlib.Data.List.Basic

namespace Rustasea.Broadcast

/-!
# Channels and their gate

A channel is public, private or a presence channel; on the wire the last two
carry a prefix, which is what the gate is asked about.  A gate is any function
of the wire name and the identity.
-/

abbrev Text := List Char

/-! ## Channels -/

/-- What a gate answers. -/
inductive AuthDecision where
  | allow
  | deny (reason : Text)
  deriving DecidableEq

/-- The kinds of channel. -/
inductive Channel where
  | publicChannel (name : Text)
  | privateChannel (name : Text)
  | presenceChannel (name : Text)
  deriving DecidableEq

/-- Why a caller is not let in. -/
inductive BroadcastError where
  | unauthorized (channel : Text)
  | unauthenticated (channel : Text)
  | notConfigured (connection : Text)
  deriving DecidableEq

def privatePrefix : Text := "private-".toList

def presencePrefix : Text := "presence-".toList

namespace Channel

def requiresAuth : Channel → Bool
  | publicChannel _ => false
  | privateChannel _ => true
  | presenceChannel _ => true

def authChannel : Channel → Text
  | publicChannel name => name
  | privateChannel name => privatePrefix ++ name
  | presenceChannel name => presencePrefix ++ name

end Channel

def channelFromWire (wireChannel : Text) : Channel :=
  match wireChannel.dropPrefix? privatePrefix with
  | some name => .privateChannel name
  | none =>
    match wireChannel.dropPrefix? presencePrefix with
    | some name => .presenceChannel name
    | none => .publicChannel wireChannel

/-- Whether the wire name is of a private or of a presence channel. -/
def IsGated (wireChannel : Text) : Prop := (channelFromWire wireChannel).requiresAuth = true

instance (wireChannel : Text) : Decidable (IsGated wireChannel) :=
  inferInstanceAs (Decidable (_ = true))

@[simp] theorem authChannel_channelFromWire (wireChannel : Text) :
    (channelFromWire wireChannel).authChannel = wireChannel := by
  unfold channelFromWire
  split
  · next name isRest =>
    obtain ⟨beginning, rfl, isPrefix⟩ := List.dropPrefix?_eq_some_iff.mp isRest
    rw [eq_of_beq isPrefix]
    rfl
  · split
    · next name isRest =>
      obtain ⟨beginning, rfl, isPrefix⟩ := List.dropPrefix?_eq_some_iff.mp isRest
      rw [eq_of_beq isPrefix]
      rfl
    · rfl

@[simp] theorem channelFromWire_private (name : Text) :
    channelFromWire (privatePrefix ++ name) = .privateChannel name := by
  unfold channelFromWire
  rw [List.dropPrefix?_append_of_beq name (BEq.rfl)]

@[simp] theorem channelFromWire_presence (name : Text) :
    channelFromWire (presencePrefix ++ name) = .presenceChannel name := by
  have notPrivate : (presencePrefix ++ name).dropPrefix? privatePrefix = none := rfl
  unfold channelFromWire
  rw [notPrivate, List.dropPrefix?_append_of_beq name (BEq.rfl)]

theorem isGated_authChannel {channel : Channel} (requiresAuth : channel.requiresAuth) :
    IsGated channel.authChannel := by
  cases channel with
  | publicChannel name => cases requiresAuth
  | privateChannel name =>
    unfold IsGated
    rw [Channel.authChannel, channelFromWire_private]
    rfl
  | presenceChannel name =>
    unfold IsGated
    rw [Channel.authChannel, channelFromWire_presence]
    rfl

/-! ## The gate -/

/-- Decide whether an identity may subscribe to a wire channel. -/
abbrev Gate := (channel identity : Text) → AuthDecision

/-- Whom a subscription is for. -/
structure Subscriber where
  id : Text
  name : Option Text
  deriving DecidableEq

def authorizeSubscription (channel : Channel) (subscriber : Option Subscriber)
    (gate : Option Gate) : Except BroadcastError AuthDecision :=
  if channel.requiresAuth then
    match subscriber, gate with
    | some subscriber, some gate =>
      match gate channel.authChannel subscriber.id with
      | .allow => .ok .allow
      | .deny _ => .error (.unauthorized channel.authChannel)
    | _, _ => .error (.unauthenticated channel.authChannel)
  else .ok .allow

variable {wireChannel : Text} {subscriber : Subscriber}

theorem gate_of_authorizeSubscription {gate : Option Gate} {decision : AuthDecision}
    (gated : IsGated wireChannel)
    (authorized : authorizeSubscription (channelFromWire wireChannel) (some subscriber)
      gate = .ok decision) :
    ∃ installed ∈ gate, installed wireChannel subscriber.id = .allow := by
  have requiresAuth : (channelFromWire wireChannel).requiresAuth = true := gated
  unfold authorizeSubscription at authorized
  rw [if_pos requiresAuth, authChannel_channelFromWire] at authorized
  cases gate with
  | none => cases authorized
  | some installed =>
    refine ⟨installed, rfl, ?_⟩
    cases answer : installed wireChannel subscriber.id with
    | allow => rfl
    | deny reason =>
      simp only [answer] at authorized
      cases authorized

theorem authorizeSubscription_of_gate {gate : Gate}
    (allows : IsGated wireChannel → gate wireChannel subscriber.id = .allow) :
    authorizeSubscription (channelFromWire wireChannel) (some subscriber) (some gate) =
      .ok .allow := by
  unfold authorizeSubscription
  by_cases gated : (channelFromWire wireChannel).requiresAuth = true
  · rw [if_pos gated, authChannel_channelFromWire]
    simp [allows gated]
  · rw [if_neg gated]

end Rustasea.Broadcast
