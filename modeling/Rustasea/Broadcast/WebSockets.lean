import Rustasea.Broadcast.Channel
import Rustasea.Library.Counting
import Rustasea.Library.Framing
import Rustasea.Library.PercentEncoding
import Rustasea.Library.TransitionSystem

namespace Rustasea.Broadcast

open List

open Framing (lines)
open PercentEncoding (splitOnce)
open TransitionSystem (ReachableAlong reachable_of_run?
  reachableAlong_of_runAlong? run? runAlong? runAlong?_or_exists_bad)

/-!
# The sockets of a broadcast hub

A socket gets its identity from the bearer credential of its handshake, and the
empty identity without one.  Its first frame subscribes to a channel or sends a
prompt on it; what is then published on the channel is pushed over the socket.
Handshakes, frames, publications and deliveries come in any order.
-/

/-! ## Handshakes -/

/-- What a handshake says of its caller. -/
structure Handshake where
  authorization : Option Text
  query : Option Text
  deriving DecidableEq

def bearerFromHeaders (handshake : Handshake) : Option Text :=
  handshake.authorization.bind fun value =>
    ((value.dropPrefix? "Bearer ".toList).or
        (value.dropPrefix? "bearer ".toList)).filter
      fun token => !token.isEmpty

def tokenFromQuery (query : Option Text) : Option Text :=
  (query.bind fun query =>
      (query.splitOn '&').findSome? fun pair =>
        (splitOnce '=' pair).bind fun (key, value) =>
          if key = "token".toList then some value else none).filter
    fun token => !token.isEmpty

def resolveBearer (handshake : Handshake) : Option Text :=
  (bearerFromHeaders handshake).or (tokenFromQuery handshake.query)

/-- The identity of a socket: its credential, or nothing. -/
def identity (handshake : Handshake) : Text := (resolveBearer handshake).getD []

/-! ## The first frame -/

/-- A payload, and the channel it is for. -/
structure WsMessage where
  channel : Text
  event : Text
  data : Text
  deriving DecidableEq

/-- The frame of a client. -/
structure SubscribeFrame where
  event : Text
  channel : Option Text
  data : Option Text
  deriving DecidableEq

def closeNormal : Nat := 1000

def closeProtocol : Nat := 1002

/-- `4403 Forbidden`. -/
def wsCloseUnauthorized : Nat := 4403

/-- `4401`, for attempts without an identity. -/
def wsCloseUnauthenticated : Nat := 4401

def unauthorizedCode : BroadcastError → Nat
  | .unauthorized _ => wsCloseUnauthorized
  | .unauthenticated _ => wsCloseUnauthenticated
  | .notConfigured _ => closeNormal

def hubAuthorize (gate : Gate) (identity wireChannel : Text) : Except BroadcastError Unit :=
  match authorizeSubscription (channelFromWire wireChannel) (some ⟨identity, none⟩) (some gate)
  with
  | .ok .allow => .ok ()
  | .ok (.deny _) => .error (.unauthorized wireChannel)
  | .error failure => .error failure

/-- What the first frame of a socket leads to. -/
inductive Outcome where
  | closed (code : Nat) (pushed : List WsMessage)
  | subscribed (wireChannel : Text)

def promptFrames (channel data : Text) : List WsMessage :=
  (lines data).map (fun line => ⟨channel, "token".toList, line⟩) ++
    [⟨channel, "done".toList, "[]".toList⟩]

def session (gate : Gate) (identity : Text) : Option SubscribeFrame → Outcome
  | none => .closed closeProtocol []
  | some frame =>
    match frame.channel with
    | none => .closed closeProtocol []
    | some channel =>
      match hubAuthorize gate identity channel with
      | .error failure => .closed (unauthorizedCode failure) []
      | .ok () =>
        if frame.event = "prompt".toList then
          match frame.data with
          | none => .closed closeProtocol []
          | some data => .closed closeNormal (promptFrames channel data)
        else .subscribed channel

/-! ## The sockets of a hub -/

/-- A payload with the wire channel it was published on. -/
structure Delivery where
  wireChannel : Text
  message : WsMessage
  deriving DecidableEq

/-- Where a socket stands; a subscribed one has what it was not pushed yet. -/
inductive Stage where
  | connected
  | subscribed (wireChannel : Text) (queue : List Delivery)
  | closed (code : Option Nat)
  deriving DecidableEq

/-- A socket: its handshake, the channel it asked for, what it was pushed. -/
structure Connection where
  handshake : Handshake
  asked : Option Text
  stage : Stage
  pushed : List Delivery
  deriving DecidableEq

def Connection.fresh (handshake : Handshake) : Connection where
  handshake := handshake
  asked := none
  stage := .connected
  pushed := []

/-- What happens on one socket. -/
inductive Event where
  | frame (frame : Option SubscribeFrame)
  | deliver
  | lag
  | disconnect

/-- A publication reaches the sockets that are subscribed to its channel. -/
def Connection.enqueue (connection : Connection) (delivery : Delivery) : Connection :=
  match connection.stage with
  | .subscribed wireChannel queue =>
    if wireChannel = delivery.wireChannel then
      { connection with stage := .subscribed wireChannel (queue ++ [delivery]) }
    else connection
  | _ => connection

def Connection.receive (gate : Gate) (connection : Connection) (frame : Option SubscribeFrame) :
    Connection :=
  let asked := frame.bind SubscribeFrame.channel
  match session gate (identity connection.handshake) frame with
  | .closed code pushed =>
    {
      connection with
      asked := asked
      stage := .closed (some code)
      pushed := pushed.map fun message => ⟨message.channel, message⟩
    }
  | .subscribed wireChannel =>
    { connection with asked := asked, stage := .subscribed wireChannel [] }

/-- One event of a socket; a lagging one loses its oldest payload. -/
def Connection.react? (gate : Gate) (connection : Connection) : Event → Option Connection
  | .frame frame =>
    match connection.stage with
    | .connected => some (connection.receive gate frame)
    | _ => none
  | .deliver =>
    match connection.stage with
    | .subscribed wireChannel (delivery :: queue) =>
      some
        {
          connection with
          stage := .subscribed wireChannel queue
          pushed := connection.pushed ++ [delivery]
        }
    | _ => none
  | .lag =>
    match connection.stage with
    | .subscribed wireChannel (_ :: queue) =>
      some { connection with stage := .subscribed wireChannel queue }
    | _ => none
  | .disconnect =>
    match connection.stage with
    | .closed _ => none
    | _ => some { connection with stage := .closed none }

/-- What happens on the hub. -/
inductive HubAction where
  | connect (handshake : Handshake)
  | publish (wireChannel : Text) (message : WsMessage)
  | act (index : Nat) (event : Event)

def dispatch (channel : Channel) (event data : Text) : HubAction :=
  .publish channel.authChannel ⟨channel.authChannel, event, data⟩

def hubStep? (gate : Gate) (connections : List Connection) : HubAction → Option (List Connection)
  | .connect handshake => some (connections ++ [Connection.fresh handshake])
  | .publish wireChannel message => some (connections.map (·.enqueue ⟨wireChannel, message⟩))
  | .act index event =>
    connections[index]?.bind fun connection =>
      (connection.react? gate event).map (connections.set index)

/-! ## Who receives what -/

/-- The socket presented a credential that the gate allows on the channel. -/
def Admitted (gate : Gate) (handshake : Handshake) (wireChannel : Text) : Prop :=
  resolveBearer handshake ≠ none ∧ gate wireChannel (identity handshake) = .allow

/-- Payloads of a gated channel are pushed to admitted sockets only. -/
def ReceivesAdmitted (gate : Gate) (connection : Connection) : Prop :=
  ∀ channel : Channel, channel.requiresAuth → ∀ delivery ∈ connection.pushed,
        delivery.wireChannel = channel.authChannel →
          Admitted gate connection.handshake channel.authChannel

/-- Without a credential, a socket that asks for a gated channel is refused. -/
def RefusesAnonymous (connection : Connection) : Prop :=
  resolveBearer connection.handshake = none → ∀ channel : Channel,
      channel.requiresAuth → connection.asked = some channel.authChannel →
          connection.stage = .closed (some wsCloseUnauthenticated) ∧ connection.pushed = []

/-- A socket without a credential does not ask for a gated channel. -/
def Credentialed (connections : List Connection) : HubAction → Prop
  | .act index (.frame frame) =>
    ∀ connection ∈ connections[index]?, ∀ wireChannel ∈ frame.bind SubscribeFrame.channel,
        IsGated wireChannel → resolveBearer connection.handshake ≠ none
  | _ => True

instance (connections : List Connection) (action : HubAction) :
    Decidable (Credentialed connections action) := by
  unfold Credentialed
  split
  · infer_instance
  · exact isTrue trivial

/-! ## The gate of a session -/

section Sessions

variable {gate : Gate} {identity wireChannel : Text}

theorem gate_of_hubAuthorize (gated : IsGated wireChannel)
    (authorized : hubAuthorize gate identity wireChannel = .ok ()) :
    gate wireChannel identity = .allow := by
  unfold hubAuthorize at authorized
  cases decided :
      authorizeSubscription (channelFromWire wireChannel) (some ⟨identity, none⟩) (some gate) with
  | error failure =>
    rw [decided] at authorized
    cases authorized
  | ok decision =>
    obtain ⟨installed, isInstalled, allows⟩ := gate_of_authorizeSubscription gated decided
    obtain rfl := Option.some.inj isInstalled
    exact allows

theorem unauthorizedCode_of_hubAuthorize {failure : BroadcastError}
    (refused : hubAuthorize gate identity wireChannel = .error failure) :
    unauthorizedCode failure ≠ wsCloseUnauthenticated := by
  unfold hubAuthorize authorizeSubscription at refused
  rw [authChannel_channelFromWire] at refused
  cases gated : (channelFromWire wireChannel).requiresAuth with
  | false => simp [gated] at refused
  | true =>
    cases answer : gate wireChannel identity with
    | allow => simp [answer] at refused
    | deny reason =>
      simp only [gated, answer, if_true, Except.error.injEq] at refused
      subst refused
      exact (by decide : wsCloseUnauthorized ≠ wsCloseUnauthenticated)

theorem session_subscribed {frame : Option SubscribeFrame}
    (subscribed : session gate identity frame = .subscribed wireChannel) :
    frame.bind SubscribeFrame.channel = some wireChannel ∧
    (IsGated wireChannel → gate wireChannel identity = .allow) := by
  rcases frame with _ | ⟨event, channel, data⟩
  · cases subscribed
  · rcases channel with _ | channel
    · cases subscribed
    · rcases authorized : hubAuthorize gate identity channel with failure | _
      · simp only [session, authorized] at subscribed
        cases subscribed
      · simp only [session, authorized] at subscribed
        by_cases isPrompt : event = "prompt".toList
        · rw [if_pos isPrompt] at subscribed
          cases data <;> cases subscribed
        · rw [if_neg isPrompt] at subscribed
          obtain rfl := Outcome.subscribed.inj subscribed
          exact ⟨rfl, fun gated => gate_of_hubAuthorize gated authorized⟩

theorem session_closed {frame : Option SubscribeFrame} {code : Nat} {pushed : List WsMessage}
    (closed : session gate identity frame = .closed code pushed) :
    code ≠ wsCloseUnauthenticated ∧
    ∀ message ∈ pushed, IsGated message.channel →
        frame.bind SubscribeFrame.channel = some message.channel ∧
          gate message.channel identity = .allow := by
  rcases frame with _ | ⟨event, channel, data⟩
  · cases closed
    exact ⟨by decide, fun _ isIn => absurd isIn not_mem_nil⟩
  · rcases channel with _ | channel
    · cases closed
      exact ⟨by decide, fun _ isIn => absurd isIn not_mem_nil⟩
    · rcases authorized : hubAuthorize gate identity channel with failure | _
      · simp only [session, authorized] at closed
        obtain ⟨rfl, rfl⟩ := Outcome.closed.inj closed
        exact ⟨unauthorizedCode_of_hubAuthorize authorized,
          fun _ isIn => absurd isIn not_mem_nil⟩
      · simp only [session, authorized] at closed
        by_cases isPrompt : event = "prompt".toList
        · rw [if_pos isPrompt] at closed
          rcases data with _ | data
          · obtain ⟨rfl, rfl⟩ := Outcome.closed.inj closed
            exact ⟨by decide, fun _ isIn => absurd isIn not_mem_nil⟩
          · obtain ⟨rfl, rfl⟩ := Outcome.closed.inj closed
            refine ⟨by decide, fun message isIn gated => ?_⟩
            have ownChannel : message.channel = channel := by
              rcases mem_append.mp isIn with isLine | isLast
              · obtain ⟨line, -, rfl⟩ := mem_map.mp isLine
                rfl
              · obtain rfl := mem_singleton.mp isLast
                rfl
            rw [ownChannel] at gated ⊢
            exact ⟨rfl, gate_of_hubAuthorize gated authorized⟩
        · rw [if_neg isPrompt] at closed
          cases closed

end Sessions

/-! ## What a socket keeps -/

/-- What holds of a socket when it had a credential whenever it needed one. -/
structure Guarded (gate : Gate) (connection : Connection) : Prop where
  silent : connection.stage = .connected → connection.pushed = []
  pushed : ∀ delivery ∈ connection.pushed,
      IsGated delivery.wireChannel → Admitted gate connection.handshake delivery.wireChannel
  subscribed : ∀ wireChannel queue,
      connection.stage = .subscribed wireChannel queue → (IsGated wireChannel →
          Admitted gate connection.handshake wireChannel) ∧
          ∀ delivery ∈ queue, delivery.wireChannel = wireChannel
  asked : ∀ wireChannel ∈ connection.asked,
      IsGated wireChannel → resolveBearer connection.handshake ≠ none

/-- A socket without a credential that got past a gated channel's check. -/
structure Exposed (connection : Connection) : Prop where
  anonymous : resolveBearer connection.handshake = none
  asked : ∃ wireChannel ∈ connection.asked, IsGated wireChannel
  answered : connection.stage ≠ .connected
  unrefused : connection.stage ≠ .closed (some wsCloseUnauthenticated)

section Connections

variable {gate : Gate} {connection after : Connection} {frame : Option SubscribeFrame}
  {event : Event}

theorem guarded_fresh (handshake : Handshake) : Guarded gate (Connection.fresh handshake) where
  silent _ := rfl
  pushed _ isIn := absurd isIn not_mem_nil
  subscribed _ _ isStage := nomatch isStage
  asked _ isAsked := nomatch isAsked

theorem Guarded.enqueue (guarded : Guarded gate connection) (delivery : Delivery) :
    Guarded gate (connection.enqueue delivery) := by
  unfold Connection.enqueue
  split
  · next wireChannel queue isStage =>
    split
    · next isOwn =>
      refine ⟨fun isStage => (nomatch isStage), guarded.pushed, ?_, guarded.asked⟩
      intro wire all sameStage
      obtain ⟨rfl, rfl⟩ := Stage.subscribed.inj sameStage
      obtain ⟨passes, ownQueue⟩ := guarded.subscribed _ _ isStage
      refine ⟨passes, fun other isIn => ?_⟩
      rcases mem_append.mp isIn with isOld | isNew
      · exact ownQueue other isOld
      · obtain rfl := mem_singleton.mp isNew
        exact isOwn.symm
    · exact guarded
  · exact guarded

theorem Guarded.receive (guarded : Guarded gate connection)
    (isConnected : connection.stage = .connected)
    (credentialed : ∀ wireChannel ∈ frame.bind SubscribeFrame.channel, IsGated wireChannel →
      resolveBearer connection.handshake ≠ none) :
    Guarded gate (connection.receive gate frame) := by
  unfold Connection.receive
  split
  · next code pushed isClosed =>
    refine
      ⟨fun isStage => (nomatch isStage), ?_, fun _ _ isStage => (nomatch isStage), credentialed⟩
    intro delivery isIn gated
    obtain ⟨message, isPushed, rfl⟩ := mem_map.mp isIn
    obtain ⟨isAsked, allows⟩ := (session_closed isClosed).2 message isPushed gated
    exact ⟨credentialed _ isAsked gated, allows⟩
  · next wireChannel isSubscribed =>
    obtain ⟨isAsked, allows⟩ := session_subscribed isSubscribed
    refine ⟨fun _ => guarded.silent isConnected, guarded.pushed, ?_, credentialed⟩
    intro wire queue isStage
    obtain ⟨rfl, rfl⟩ := Stage.subscribed.inj isStage
    exact ⟨fun gated => ⟨credentialed _ isAsked gated, allows gated⟩,
      fun _ isIn => absurd isIn not_mem_nil⟩

theorem Guarded.react (guarded : Guarded gate connection)
    (credentialed : ∀ frame, event = .frame frame →
      ∀ wireChannel ∈ frame.bind SubscribeFrame.channel, IsGated wireChannel →
        resolveBearer connection.handshake ≠ none)
    (reacts : connection.react? gate event = some after) : Guarded gate after := by
  cases event with
  | frame frame =>
    cases stageIs : connection.stage with
    | connected =>
      simp only [Connection.react?, stageIs, Option.some.injEq] at reacts
      subst reacts
      exact guarded.receive stageIs (credentialed frame rfl)
    | _ =>
      simp only [Connection.react?, stageIs] at reacts
      cases reacts
  | deliver =>
    cases stageIs : connection.stage with
    | subscribed wireChannel queue =>
      obtain ⟨passes, ownQueue⟩ := guarded.subscribed _ _ stageIs
      cases queue with
      | nil =>
        simp only [Connection.react?, stageIs] at reacts
        cases reacts
      | cons first rest =>
        simp only [Connection.react?, stageIs, Option.some.injEq] at reacts
        subst reacts
        have firstOwn := ownQueue first mem_cons_self
        refine ⟨fun isStage => (nomatch isStage), ?_, ?_, guarded.asked⟩
        · intro delivery isIn gated
          rcases mem_append.mp isIn with isOld | isNew
          · exact guarded.pushed delivery isOld gated
          · obtain rfl := mem_singleton.mp isNew
            rw [firstOwn] at gated ⊢
            exact passes gated
        · intro wire all sameStage
          obtain ⟨rfl, rfl⟩ := Stage.subscribed.inj sameStage
          exact ⟨passes, fun other isIn => ownQueue other (mem_cons_of_mem _ isIn)⟩
    | _ =>
      simp only [Connection.react?, stageIs] at reacts
      cases reacts
  | lag =>
    cases stageIs : connection.stage with
    | subscribed wireChannel queue =>
      obtain ⟨passes, ownQueue⟩ := guarded.subscribed _ _ stageIs
      cases queue with
      | nil =>
        simp only [Connection.react?, stageIs] at reacts
        cases reacts
      | cons first rest =>
        simp only [Connection.react?, stageIs, Option.some.injEq] at reacts
        subst reacts
        refine ⟨fun isStage => (nomatch isStage), guarded.pushed, ?_, guarded.asked⟩
        intro wire all sameStage
        obtain ⟨rfl, rfl⟩ := Stage.subscribed.inj sameStage
        exact ⟨passes, fun other isIn => ownQueue other (mem_cons_of_mem _ isIn)⟩
    | _ =>
      simp only [Connection.react?, stageIs] at reacts
      cases reacts
  | disconnect =>
    cases stageIs : connection.stage with
    | closed code =>
      simp only [Connection.react?, stageIs] at reacts
      cases reacts
    | _ =>
      simp only [Connection.react?, stageIs, Option.some.injEq] at reacts
      subst reacts
      exact ⟨fun isStage => (nomatch isStage), guarded.pushed,
        fun _ _ isStage => (nomatch isStage), guarded.asked⟩

theorem exposed_receive (anonymous : resolveBearer connection.handshake = none)
    (asks : ∃ wireChannel ∈ frame.bind SubscribeFrame.channel, IsGated wireChannel) :
    Exposed (connection.receive gate frame) := by
  unfold Connection.receive
  split
  · next code pushed isClosed =>
    refine ⟨anonymous, asks, fun isStage => (nomatch isStage), ?_⟩
    intro isStage
    exact (session_closed isClosed).1 (Option.some.inj (Stage.closed.inj isStage))
  · next wireChannel isSubscribed =>
    exact ⟨anonymous, asks, fun isStage => (nomatch isStage), fun isStage => (nomatch isStage)⟩

theorem Exposed.enqueue (exposed : Exposed connection) (delivery : Delivery) :
    Exposed (connection.enqueue delivery) := by
  unfold Connection.enqueue
  split
  · split
    · exact ⟨exposed.anonymous, exposed.asked, fun isStage => (nomatch isStage),
        fun isStage => (nomatch isStage)⟩
    · exact exposed
  · exact exposed

theorem Exposed.react (exposed : Exposed connection)
    (reacts : connection.react? gate event = some after) : Exposed after := by
  cases stageIs : connection.stage with
  | connected => exact absurd stageIs exposed.answered
  | closed code => cases event <;> simp only [Connection.react?, stageIs] at reacts <;> cases reacts
  | subscribed wireChannel queue =>
    cases event with
    | frame frame =>
      simp only [Connection.react?, stageIs] at reacts
      cases reacts
    | disconnect =>
      simp only [Connection.react?, stageIs, Option.some.injEq] at reacts
      subst reacts
      exact ⟨exposed.anonymous, exposed.asked,
        fun isStage => (nomatch isStage), fun isStage => (nomatch isStage)⟩
    | deliver | lag =>
      cases queue with
      | nil =>
        simp only [Connection.react?, stageIs] at reacts
        cases reacts
      | cons first rest =>
        simp only [Connection.react?, stageIs, Option.some.injEq] at reacts
        subst reacts
        exact ⟨exposed.anonymous, exposed.asked,
          fun isStage => (nomatch isStage), fun isStage => (nomatch isStage)⟩

end Connections

/-! ## Runs of the hub -/

section Runs

variable {gate : Gate} {connections after : List Connection} {action : HubAction}

theorem guarded_hubStep (guarded : ∀ connection ∈ connections, Guarded gate connection)
    (credentialed : Credentialed connections action)
    (taken : hubStep? gate connections action = some after) :
    ∀ connection ∈ after, Guarded gate connection := by
  cases action with
  | connect handshake =>
    obtain rfl := Option.some.inj taken
    intro connection isIn
    rcases mem_append.mp isIn with isOld | isNew
    · exact guarded connection isOld
    · obtain rfl := mem_singleton.mp isNew
      exact guarded_fresh handshake
  | publish wireChannel message =>
    obtain rfl := Option.some.inj taken
    intro connection isIn
    obtain ⟨before, isBefore, rfl⟩ := mem_map.mp isIn
    exact (guarded before isBefore).enqueue _
  | act index event =>
    obtain ⟨before, isBefore, reacted⟩ := Option.bind_eq_some_iff.mp taken
    obtain ⟨changed, reacts, rfl⟩ := Option.map_eq_some_iff.mp reacted
    refine Parties.forall_mem_set guarded ?_
    refine (guarded before (mem_of_getElem? isBefore)).react ?_ reacts
    rintro frame rfl
    exact credentialed before isBefore

def HasExposed (connections : List Connection) : Prop :=
  ∃ index : Nat, ∃ connection ∈ connections[index]?, Exposed connection

theorem HasExposed.hubStep (hasExposed : HasExposed connections)
    (taken : hubStep? gate connections action = some after) : HasExposed after := by
  obtain ⟨index, connection, isIn, exposed⟩ := hasExposed
  cases action with
  | connect handshake =>
    obtain rfl := Option.some.inj taken
    obtain ⟨inRange, -⟩ := List.getElem?_eq_some_iff.mp isIn
    refine ⟨index, connection, ?_, exposed⟩
    exact (getElem?_append_left inRange).trans isIn
  | publish wireChannel message =>
    obtain rfl := Option.some.inj taken
    refine ⟨index, _, ?_, exposed.enqueue ⟨wireChannel, message⟩⟩
    exact getElem?_map.trans (congrArg (Option.map _) isIn)
  | act other event =>
    obtain ⟨before, isBefore, reacted⟩ := Option.bind_eq_some_iff.mp taken
    obtain ⟨changed, reacts, rfl⟩ := Option.map_eq_some_iff.mp reacted
    by_cases isOther : other = index
    · subst isOther
      obtain rfl := Option.some.inj (isIn.symm.trans isBefore)
      obtain ⟨inRange, -⟩ := List.getElem?_eq_some_iff.mp isIn
      exact ⟨other, changed, getElem?_set_self inRange, exposed.react reacts⟩
    · exact ⟨index, connection, (getElem?_set_ne isOther).trans isIn, exposed⟩

theorem hasExposed_of_not_credentialed (anonymous : ¬Credentialed connections action)
    (taken : hubStep? gate connections action = some after) : HasExposed after := by
  cases action with
  | connect handshake | publish wireChannel message => exact (anonymous trivial).elim
  | act index event =>
    cases event with
    | frame frame =>
      simp only [Credentialed, not_forall, not_not] at anonymous
      obtain ⟨connection, isIn, wireChannel, isAsked, gated, hasNone⟩ := anonymous
      obtain ⟨before, isBefore, reacted⟩ := Option.bind_eq_some_iff.mp taken
      obtain ⟨changed, reacts, rfl⟩ := Option.map_eq_some_iff.mp reacted
      obtain rfl := Option.some.inj (isIn.symm.trans isBefore)
      obtain ⟨inRange, -⟩ := List.getElem?_eq_some_iff.mp isIn
      refine ⟨index, changed, getElem?_set_self inRange, ?_⟩
      cases stageIs : connection.stage with
      | connected =>
        simp only [Connection.react?, stageIs, Option.some.injEq] at reacts
        subst reacts
        exact exposed_receive hasNone ⟨wireChannel, isAsked, gated⟩
      | _ =>
        simp only [Connection.react?, stageIs] at reacts
        cases reacts
    | _ => exact (anonymous trivial).elim

variable {connection : Connection}

theorem receivesAdmitted_of_guarded (guarded : Guarded gate connection) :
    ReceivesAdmitted gate connection := by
  intro channel requiresAuth delivery isIn isOwn
  rw [← isOwn]
  refine guarded.pushed delivery isIn ?_
  rw [isOwn]
  exact isGated_authChannel requiresAuth

theorem refusesAnonymous_of_guarded (guarded : Guarded gate connection) :
    RefusesAnonymous connection := by
  intro anonymous channel requiresAuth isAsked
  exact (guarded.asked _ isAsked (isGated_authChannel requiresAuth) anonymous).elim

theorem not_refusesAnonymous_of_exposed (exposed : Exposed connection) :
    ¬RefusesAnonymous connection := by
  intro refuses
  obtain ⟨wireChannel, isAsked, gated⟩ := exposed.asked
  rw [← authChannel_channelFromWire wireChannel] at isAsked
  exact exposed.unrefused (refuses exposed.anonymous (channelFromWire wireChannel) gated isAsked).1

/--
Whatever the gate, in a run of handshakes, frames, publications and deliveries
the payloads of private and presence channels go to admitted sockets only and
sockets without a credential are refused as unauthenticated: exactly when no
socket without a credential asks for such a channel.
-/
theorem sockets_are_admitted_iff (gate : Gate) (actions : List HubAction)
    (connections : List Connection) (ran : run? (hubStep? gate) [] actions = some connections) :
    (∀ connection ∈ connections, ReceivesAdmitted gate connection ∧ RefusesAnonymous connection) ↔
      runAlong? (hubStep? gate) Credentialed [] actions = some connections := by
  constructor
  · intro holds
    have atStart : ReachableAlong (hubStep? gate) Credentialed [] [] := .start
    rcases runAlong?_or_exists_bad atStart ran with
      credentialed | ⟨before, action, after, rest, -, anonymous, taken, ranRest⟩
    · exact credentialed
    · have exposedAfter := hasExposed_of_not_credentialed anonymous taken
      obtain ⟨index, connection, isIn, exposed⟩ :=
        (reachable_of_run? ranRest).invariant HasExposed exposedAfter
          fun _ _ _ hasExposed _ taken => hasExposed.hubStep taken
      exact absurd (holds connection (mem_of_getElem? isIn)).2
        (not_refusesAnonymous_of_exposed exposed)
  · intro credentialed connection isIn
    have guarded := (reachableAlong_of_runAlong? .start credentialed).invariant
        (fun connections => ∀ connection ∈ connections, Guarded gate connection)
        (fun _ isIn => absurd isIn not_mem_nil)
        (fun _ _ _ guarded credentialed taken => guarded_hubStep guarded credentialed taken)
        connection isIn
    exact ⟨receivesAdmitted_of_guarded guarded, refusesAnonymous_of_guarded guarded⟩

end Runs

/-! ## A gate that does not look at the identity -/

def allowAll : Gate := fun _ _ => .allow

def subscribeTo (channel : String) : SubscribeFrame where
  event := "subscribe".toList
  channel := some channel.toList
  data := none

def withToken : Handshake where
  authorization := some "Bearer abc123".toList
  query := none

def withoutToken : Handshake where
  authorization := none
  query := none

/-- A socket subscribes, and an event of its channel is delivered to it. -/
def subscribeAndReceive (handshake : Handshake) : List HubAction :=
  [.connect handshake, .act 0 (.frame (subscribeTo "private-chat.1")),
    dispatch (.privateChannel "chat.1".toList) "UserCreated".toList "{}".toList,
    .act 0 .deliver]

theorem credentialed_socket_is_admitted :
    ∃ connections, run? (hubStep? allowAll) [] (subscribeAndReceive withToken) = some connections ∧
      ∀ connection ∈ connections,
          ReceivesAdmitted allowAll connection ∧ RefusesAnonymous connection := by
  refine ⟨_, rfl, ?_⟩
  exact (sockets_are_admitted_iff allowAll (subscribeAndReceive withToken) _
    rfl).mpr (by decide +kernel)

/--
A socket without a credential is let in by a gate that allows the empty
identity, and receives; a gate that denies it closes it as unauthorized.
-/
theorem anonymous_socket_is_let_in :
    (run? (hubStep? allowAll) [] (subscribeAndReceive withoutToken)).map
      (·.map fun connection => (resolveBearer connection.handshake, connection.pushed.length)) =
      some [(none, 1)] ∧
    (run? (hubStep? fun _ _ => .deny []) [] ((subscribeAndReceive withoutToken).take 2)).map
      (·.map Connection.stage) =
      some [.closed (some wsCloseUnauthorized)] := by
  exact ⟨by decide +kernel, by decide +kernel⟩

end Rustasea.Broadcast
