import Rustasea.Auth.WindowBound
import Rustasea.Schedule.Cron

namespace Rustasea.Auth

/-!
# The throttle layer and its bucket keys

The layer derives a bucket key from the peer of a request and, behind trusted
proxies, from its `X-Forwarded-For` header, then asks the limiter for one hit.
-/

/-- Configuration consumed by the throttle layer. -/
structure ThrottleConfig where
  limit : Limit
  /-- Trusted proxies; when empty, `X-Forwarded-For` is ignored. -/
  trustedProxies : List String
  deriving DecidableEq

/-- What the layer reads of a request. -/
structure Request where
  /-- The user id stamped by an authentication middleware. -/
  userKey : Option String
  /-- The address of the connection. -/
  peerIp : Option String
  /-- The first `X-Forwarded-For` header, when it is readable text. -/
  forwardedFor : Option String
  deriving DecidableEq

namespace ThrottleConfig

def firstForwarded (header : String) : List Char :=
  Schedule.trim (header.toList.takeWhile (· ≠ ','))

def keyForPeer (config : ThrottleConfig) (peerIp : String)
    (forwardedFor : Option String) : String :=
  if config.trustedProxies = [] then peerIp
  else
    match forwardedFor with
    | some header =>
      if firstForwarded header = [] then peerIp
      else String.ofList (firstForwarded header)
    | none => peerIp

/-- Resolve the bucket key for a request from its peer and headers. -/
def keyFor (config : ThrottleConfig) (request : Request) : String :=
  match config.limit.keyBy with
  | .key text => "key:" ++ text
  | .user =>
    match request.userKey.or request.peerIp with
    | some peer => "user:" ++ peer
    | none => "unknown-peer"
  | .ip =>
    match request.userKey.or request.peerIp with
    | some peer => config.keyForPeer peer request.forwardedFor
    | none => "unknown-peer"

/-- Whether the layer reads the forwarded-for header at all. -/
def readsForwardedFor (config : ThrottleConfig) : Bool :=
  config.limit.keyBy = .ip ∧ config.trustedProxies ≠ []

theorem keyFor_ignores_header {config : ThrottleConfig} (isBlind : config.readsForwardedFor = false)
    (request : Request) (header : Option String) :
    config.keyFor { request with forwardedFor := header } = config.keyFor request := by
  unfold keyFor
  cases keyBy : config.limit.keyBy with
  | key text => rfl
  | user => rfl
  | ip =>
    have noProxies : config.trustedProxies = [] := by simpa [readsForwardedFor, keyBy] using isBlind
    simp [keyForPeer, noProxies]

end ThrottleConfig

/-- Two requests of one peer: they may differ in the header only. -/
def Request.samePeer (first second : Request) : Bool :=
  first.userKey = second.userKey ∧ first.peerIp = second.peerIp

/-- A use of the limiter: a request to the layer, or a hit by someone else. -/
inductive Usage where
  | incoming (now : Nat) (request : Request)
  | other (hit : Hit)

def Usage.hit (config : ThrottleConfig) : Usage → Hit
  | .incoming now request =>
    { now := now, key := config.keyFor request, limit := config.limit }
  | .other hit => hit

/-- Whether a use of the limiter is a request of a peer. -/
def Usage.isFrom (peer : Request) : Usage → Bool
  | .incoming _ request => request.samePeer peer
  | .other _ => false

/-- How many requests of a peer the layer forwards in a run. -/
def forwardedFrom (config : ThrottleConfig) (peer : Request) : MemoryRateLimiter → List Usage → Nat
  | _, [] => 0
  | limiter, usage :: rest =>
    (if usage.isFrom peer ∧ (limiter.decision (usage.hit config)).isAllowed then 1 else 0) +
      forwardedFrom config peer (limiter.after (usage.hit config)) rest

section Blind

variable {config : ThrottleConfig} (isBlind : config.readsForwardedFor = false) (peer : Request)

include isBlind

theorem countsFor_of_isFrom {usage : Usage} (isFrom : usage.isFrom peer = true) :
    (usage.hit config).countsFor (bucketKey (config.keyFor peer) config.limit)
      config.limit.maxAttempts.toNat = true := by
  cases usage with
  | other hit => cases isFrom
  | incoming now request =>
    simp only [Usage.isFrom, Request.samePeer] at isFrom
    have samePeer : request = { peer with forwardedFor := request.forwardedFor } := by
      cases request
      simp_all
    have sameKey : config.keyFor request = config.keyFor peer := by
      rw [samePeer]
      exact ThrottleConfig.keyFor_ignores_header isBlind peer _
    simp [Usage.hit, Hit.countsFor, Hit.bucket, sameKey]

theorem forwardedFrom_le_allowedIn (limiter : MemoryRateLimiter) (usages : List Usage) :
    forwardedFrom config peer limiter usages ≤
      limiter.allowedIn (bucketKey (config.keyFor peer) config.limit) config.limit.maxAttempts.toNat
        (usages.map (Usage.hit config)) := by
  induction usages generalizing limiter with
  | nil => exact Nat.le_refl 0
  | cons usage rest ih =>
    apply Nat.add_le_add _ (ih _)
    split
    · next passes => rw [if_pos ⟨countsFor_of_isFrom isBlind peer passes.1, passes.2⟩]
    · exact Nat.zero_le _

end Blind

/--
A layer that does not read the forwarded-for header gives all requests of a
peer one bucket, and forwards no more of them in a window than its limit, as
long as fewer other buckets than the cap are hit in it.
-/
theorem peer_limited_whatever_header
    (config : ThrottleConfig) (isBlind : config.readsForwardedFor = false) :
    (∀ (request : Request) (header : Option String),
      config.keyFor { request with forwardedFor := header } = config.keyFor request) ∧
    ∀ (before : List Hit) (peer : Request) (first : Usage) (window : List Usage),
      (first.hit config).bucket = bucketKey (config.keyFor peer) config.limit →
      (MemoryRateLimiter.new.run before).startsWindow (first.hit config) →
      (∀ usage ∈ window, (first.hit config).now ≤ (usage.hit config).now ∧
        (usage.hit config).now <
          (first.hit config).now + (first.hit config).limit.decaySecs.toNat) →
      (MemoryRateLimiter.otherBuckets (first.hit config).bucket
        (window.map (Usage.hit config))).card < maxBuckets →
      forwardedFrom config peer (MemoryRateLimiter.new.run before) (first :: window) ≤
        config.limit.maxAttempts.toNat := by
  refine ⟨ThrottleConfig.keyFor_ignores_header isBlind, ?_⟩
  intro before peer first window isPeers starts inWindow few
  have allowed := MemoryRateLimiter.allowedIn_window_le before starts
      (List.forall_mem_map.mpr inWindow) few config.limit.maxAttempts.toNat
  rw [isPeers] at allowed
  exact Nat.le_trans (forwardedFrom_le_allowedIn isBlind peer _ (first :: window)) allowed

/-- A limit of one a minute by address, with no proxy trusted. -/
def untrusting : ThrottleConfig where
  limit := Limit.perMinute 1
  trustedProxies := []

def spoofed (header : String) : Request where
  userKey := none
  peerIp := some "1.2.3.4"
  forwardedFor := some header

theorem spoofing_gains_nothing :
    (∀ (request : Request) (header : Option String),
      untrusting.keyFor { request with forwardedFor := header } = untrusting.keyFor request) ∧
      forwardedFrom untrusting (spoofed "") MemoryRateLimiter.new
          [.incoming 5 (spoofed "9.9.9.9"), .incoming 6 (spoofed "8.8.8.8"),
            .incoming 7 (spoofed "7.7.7.7")] ≤
        untrusting.limit.maxAttempts.toNat :=
  ⟨(peer_limited_whatever_header untrusting (by decide)).1,
    (peer_limited_whatever_header untrusting (by decide)).2 []
      (spoofed "") (.incoming 5 (spoofed "9.9.9.9"))
      [.incoming 6 (spoofed "8.8.8.8"), .incoming 7 (spoofed "7.7.7.7")]
      (by decide +kernel) (by decide +kernel) (by decide +kernel)
      (by decide +kernel)⟩

/--
Once any proxy is trusted, a peer outside the list moves between buckets by
its header: here `1.2.3.4` under `10.0.0.0/8`.
-/
theorem header_moves_bucket_of_uncovered_peer :
    ({ untrusting with trustedProxies := ["10.0.0.0/8"] } :
        ThrottleConfig).keyFor (spoofed "9.9.9.9") ≠
      ({ untrusting with trustedProxies := ["10.0.0.0/8"] } :
        ThrottleConfig).keyFor (spoofed "8.8.8.8") := by
  decide +kernel

end Rustasea.Auth
