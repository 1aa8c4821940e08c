import Rustasea.Broadcast.WebSockets
import Rustasea.Library.GlobPatterns
import Rustasea.Library.PrefixCodec

namespace Rustasea.Broadcast

open GlobPattern (globMatches globMatches_iff)

/-!
# Fan-out over Redis

The applications on one Redis server publish under a prefix of their own, and
their subscribers republish into a hub what a pattern on that prefix lets
through.  Redis does not know where a prefix ends.
-/

variable {Json Body : Type}

/-- A payload for a driver to deliver; the channel is the wire name. -/
structure BroadcastPayload (Json : Type) where
  event : Text
  channel : Text
  data : Json
  deriving DecidableEq

/-- The part of the configuration that names channels. -/
structure RedisConfig where
  keyPrefix : Text
  deriving DecidableEq

def RedisConfig.channelFor (config : RedisConfig) (wireChannel : Text) : Text :=
  config.keyPrefix ++ '.' :: wireChannel

def RedisConfig.pattern (config : RedisConfig) : Text := config.keyPrefix ++ ['.', '*']

/-- An application, whose prefix is a text without glob metacharacters. -/
structure Application extends RedisConfig where
  nonempty : keyPrefix ≠ []
  plain : ∀ c ∈ keyPrefix, c ∉ ['*', '?', '[', '\\']

abbrev Publication (Json : Type) := Application × BroadcastPayload Json

section

variable (codec : Codec (BroadcastPayload Json) Body) (dataText : Json → Text)

def redisPublish (sent : Publication Json) : Text × Body :=
  (sent.1.channelFor sent.2.channel, codec.encode sent.2)

/-- The subscriber's loop on a message: what it publishes into its hub, and under which name. -/
def fanOut (config : RedisConfig) (message : Text × Body) : Option (Text × WsMessage) :=
  match codec.decode message.2 with
  | .error _ => none
  | .ok payload =>
      let wire := (message.1.dropPrefix? (config.keyPrefix ++ ['.'])).getD message.1
      some (wire, { channel := wire, event := payload.event, data := dataText payload.data })

def hubReceives (own : Application) (run : List (Publication Json)) : List (Text × WsMessage) :=
  ((run.map (redisPublish codec)).filter fun message => globMatches own.pattern message.1).filterMap
    (fanOut codec dataText own.toRedisConfig)

def ownMessage (payload : BroadcastPayload Json) : Text × WsMessage :=
  (payload.channel,
    { channel := payload.channel, event := payload.event, data := dataText payload.data })

/-- What the hub should be given: the payloads of its own application. -/
def ownMessages (own : Application) (run : List (Publication Json)) : List (Text × WsMessage) :=
  (run.filter fun sent => sent.1.keyPrefix = own.keyPrefix).map fun sent =>
    ownMessage dataText sent.2

end

/-- A publication under another prefix begins like the prefix of the application, and its dot. -/
def Crosses (own : Application) (sent : Publication Json) : Prop :=
  own.keyPrefix ++ ['.'] <+: sent.1.keyPrefix ∨
    ∃ head, own.keyPrefix = sent.1.keyPrefix ++ '.' :: head ∧ head ++ ['.'] <+: sent.2.channel

theorem matches_pattern_iff (own : Application) (channel : Text) :
    globMatches own.pattern channel = true ↔ own.keyPrefix ++ ['.'] <+: channel := by
  rw [RedisConfig.pattern, show ['.', '*'] = ['.'] ++ ['*'] from rfl, ← List.append_assoc]
  exact globMatches_iff (List.forall_mem_append.mpr ⟨own.plain, by simp⟩) channel

theorem prefix_channelFor_iff {own : Application} {sent : Publication Json}
    (other : sent.1.keyPrefix ≠ own.keyPrefix) :
    own.keyPrefix ++ ['.'] <+: sent.1.channelFor sent.2.channel ↔ Crosses own sent := by
  constructor
  · rintro ⟨rest, same⟩
    rw [List.append_assoc] at same
    rcases List.append_eq_append_iff.mp same with ⟨between, longer, behind⟩ | ⟨between, longer,
      behind⟩
    · cases between with
      | nil => exact absurd (by simpa using longer) other
      | cons c between =>
          obtain ⟨rfl, -⟩ := List.cons.inj behind
          exact .inl ⟨between, by simp [longer]⟩
    · cases between with
      | nil => exact absurd (by simpa using longer.symm) other
      | cons c head =>
          obtain ⟨rfl, behind⟩ := List.cons_eq_cons.mp behind
          exact .inr ⟨head, longer, rest, by simpa using behind.symm⟩
  · rintro (⟨between, longer⟩ | ⟨head, longer, rest, behind⟩)
    · exact ⟨between ++ '.' :: sent.2.channel, by simp [RedisConfig.channelFor, ← longer]⟩
    · exact ⟨rest, by simp [RedisConfig.channelFor, longer, ← behind]⟩

variable {codec : Codec (BroadcastPayload Json) Body} {dataText : Json → Text}
  {own : Application} {sent : Publication Json} {run : List (Publication Json)}

theorem hubReceives_own (isOwn : sent.1.keyPrefix = own.keyPrefix) :
    hubReceives codec dataText own (sent :: run) =
      ownMessage dataText sent.2 :: hubReceives codec dataText own run := by
  have whole : sent.1.channelFor sent.2.channel = (own.keyPrefix ++ ['.']) ++ sent.2.channel := by
    simp [RedisConfig.channelFor, isOwn]
  have through : globMatches own.pattern (redisPublish codec sent).1 = true :=
    (matches_pattern_iff own _).mpr ⟨sent.2.channel, whole.symm⟩
  have wire := List.dropPrefix?_append_of_beq sent.2.channel (BEq.refl (own.keyPrefix ++ ['.']))
  rw [hubReceives, List.map_cons, List.filter_cons, if_pos through, List.filterMap_cons_some]
  · rfl
  · simp only [redisPublish, fanOut, codec.decode_encode, whole, wire]
    rfl

theorem hubReceives_other (run : List (Publication Json))
    (other : sent.1.keyPrefix ≠ own.keyPrefix) :
    (¬Crosses own sent ∧
      hubReceives codec dataText own (sent :: run) = hubReceives codec dataText own run) ∨
      (Crosses own sent ∧
        ∃ leaked, hubReceives codec dataText own (sent :: run) =
            leaked :: hubReceives codec dataText own run) := by
  have through := (matches_pattern_iff own (sent.1.channelFor sent.2.channel)).trans
    (prefix_channelFor_iff other)
  by_cases crosses : Crosses own sent
  · refine .inr ⟨crosses, ?_⟩
    simp [hubReceives, redisPublish, through.mpr crosses, fanOut]
  · refine .inl ⟨crosses, ?_⟩
    simp [hubReceives, redisPublish, mt through.mp crosses]

theorem ownMessages_own (isOwn : sent.1.keyPrefix = own.keyPrefix) :
    ownMessages dataText own (sent :: run) =
      ownMessage dataText sent.2 :: ownMessages dataText own run := by
  simp [ownMessages, isOwn]

theorem ownMessages_other (other : sent.1.keyPrefix ≠ own.keyPrefix) :
    ownMessages dataText own (sent :: run) = ownMessages dataText own run := by
  simp [ownMessages, other]

theorem length_ownMessages_le (run : List (Publication Json)) :
    (ownMessages dataText own run).length ≤ (hubReceives codec dataText own run).length := by
  induction run with
  | nil => exact Nat.zero_le _
  | cons sent rest ih =>
      by_cases isOwn : sent.1.keyPrefix = own.keyPrefix
      · rw [hubReceives_own isOwn, ownMessages_own isOwn]
        exact Nat.succ_le_succ ih
      · rw [ownMessages_other isOwn]
        rcases hubReceives_other rest isOwn with ⟨-, same⟩ | ⟨-, leaked, more⟩
        · rw [same]
          exact ih
        · rw [more]
          exact ih.trans (Nat.le_succ _)

/--
In every run a hub is given its own application's payloads and nothing else,
each under its own wire name, exactly when no publication of another
application crosses.
-/
theorem hub_receives_own_iff (codec : Codec (BroadcastPayload Json) Body) (dataText : Json → Text)
    (own : Application) (run : List (Publication Json)) :
    hubReceives codec dataText own run = ownMessages dataText own run ↔
      ∀ sent ∈ run, sent.1.keyPrefix ≠ own.keyPrefix → ¬Crosses own sent := by
  induction run with
  | nil => exact iff_of_true rfl fun _ mem => nomatch mem
  | cons sent rest ih =>
      rw [List.forall_mem_cons]
      by_cases isOwn : sent.1.keyPrefix = own.keyPrefix
      · rw [hubReceives_own isOwn, ownMessages_own isOwn, List.cons_inj_right, ih]
        simp [isOwn]
      · rw [ownMessages_other isOwn]
        rcases hubReceives_other rest isOwn with ⟨apart, same⟩ | ⟨crosses, leaked, more⟩
        · rw [same, ih]
          simp [apart]
        · -- What leaked in is one message more than the hub's own.
          refine ⟨fun same => ?_, fun none => absurd crosses (none.1 isOwn)⟩
          have longer := congrArg List.length (more.symm.trans same)
          have enough : (ownMessages dataText own rest).length ≤
              (hubReceives codec dataText own rest).length := length_ownMessages_le rest
          simp only [List.length_cons] at longer
          omega

/-- An application named `app`, and its staging. -/
def production : Application := ⟨⟨"app".toList⟩, by decide,
  List.forall_iff_forall_mem.mp (by decide)⟩

def staging : Application := ⟨⟨"app.staging".toList⟩, by decide,
  List.forall_iff_forall_mem.mp (by decide)⟩

def secret : BroadcastPayload Unit := ⟨"Message".toList, "private-chat.1".toList, ()⟩

theorem private_payload_leaks :
    production.keyPrefix ≠ staging.keyPrefix ∧ IsGated secret.channel ∧
    (hubReceives (.plain _) (fun _ => "null".toList) production [(staging, secret)]).map Prod.fst =
        ["staging.private-chat.1".toList] ∧
    ¬IsGated "staging.private-chat.1".toList := by
  decide +kernel

end Rustasea.Broadcast
