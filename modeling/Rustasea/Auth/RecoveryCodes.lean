import Rustasea.Auth.TwoFactor
import Rustasea.Library.Threads

namespace Rustasea.Auth

open Threads List

/-!
# Recovery codes under interleaving

Any number of operations on one user's record are in flight.  Each reads the
whole record, or nothing, and writes the whole record later.  The log records
what has returned, with the length it had when an `enable` was called.
-/

/-- What an operation answered. -/
inductive TwoFactorEvent where
  | enabled (since : Nat) (codes : List String)
  | confirmed
  | disabled
  | accepted (code : String)
  | regenerated (codes : List String)
  | refused (failure : AuthError)
  deriving DecidableEq

def TwoFactorEvent.codes : TwoFactorEvent → List String
  | .enabled _ codes => codes
  | .regenerated codes => codes
  | _ => []

/-- An operation on the user's record. -/
inductive TwoFactorOperation where
  | enable (secret : String) (nonce : Nonce) (minting : Minting)
  | confirm (code : String) (nowSecs : Nat) (now : String)
  | disable
  | consumeRecoveryCode (code : String)
  | regenerateRecoveryCodes (minting : Minting)

def TwoFactorOperation.event (since : Nat) : TwoFactorOperation → TwoFactorEvent
  | .enable _ _ minting => .enabled since minting.codes
  | .confirm _ _ _ => .confirmed
  | .disable => .disabled
  | .consumeRecoveryCode code => .accepted code
  | .regenerateRecoveryCodes minting => .regenerated minting.codes

/-- Whether an operation puts a record without reading one. -/
def TwoFactorOperation.isEnable : TwoFactorOperation → Bool
  | .enable _ _ _ => true
  | _ => false

/-- The user's entry in the store, and what has been answered. -/
structure TwoFactorState where
  record : Option TwoFactorRecord
  log : List TwoFactorEvent
  deriving DecidableEq

/-- An operation in flight: with nothing read, or about to put a record. -/
structure TwoFactorCall where
  operation : TwoFactorOperation
  since : Nat
  putting : Option TwoFactorRecord

section Interleaving

variable (service : TwoFactorService) (userId : String)

/-- The entry that an operation leaves, given the one it read. -/
def prepare : TwoFactorOperation → Option TwoFactorRecord →
    Except AuthError (Option TwoFactorRecord)
  | .enable secret nonce minting, _ => (service.enable userId secret nonce minting).map some
  | .confirm code nowSecs now, read => (service.confirm code nowSecs now read).map some
  | .disable, _ => .ok none
  | .consumeRecoveryCode code, read => (service.consumeRecoveryCode code read).map some
  | .regenerateRecoveryCodes minting, read =>
    (service.regenerateRecoveryCodes minting read).map some

def TwoFactorState.written (state : TwoFactorState) (call : TwoFactorCall)
    (entry : Option TwoFactorRecord) : TwoFactorState :=
  { record := entry, log := state.log ++ [call.operation.event call.since] }

def TwoFactorState.refuse (state : TwoFactorState) (failure : AuthError) : TwoFactorState :=
  { state with log := state.log ++ [.refused failure] }

def advanceTwoFactor (call : TwoFactorCall)
    (state : TwoFactorState) : TwoFactorState × Option TwoFactorCall :=
  match call.putting with
  | some record => (state.written call (some record), none)
  | none =>
    match prepare service userId call.operation state.record with
    | .error failure => (state.refuse failure, none)
    | .ok entry =>
      match call.operation, entry with
      | .enable _ _ _, _ => (state.written call entry, none)
      | .disable, _ => (state.written call entry, none)
      | _, entry => (state, some { call with putting := entry })

/-- The two-factor service, called any number of times at once. -/
def twoFactorCalls : Component TwoFactorState TwoFactorCall TwoFactorOperation :=
  { start := fun state operation =>
      { operation := operation, since := state.log.length, putting := none }
    advance := advanceTwoFactor service userId }

def TwoFactorState.initial : TwoFactorState :=
  { record := none, log := [] }

/--
A step in time: a put writes what the operation would decide on the record that
is stored now, and an `enable` puts its record before any `disable` returns.
-/
structure InTime (state : TwoFactorState) (call : TwoFactorCall) : Prop where
  sameDecision :
    ∀ record ∈ call.putting, prepare service userId call.operation state.record = .ok (some record)
  notDisabled : call.operation.isEnable → .disabled ∉ state.log.drop call.since

instance (state : TwoFactorState) (call : TwoFactorCall) :
    Decidable (InTime service userId state call) :=
  decidable_of_iff ((∀ record ∈ call.putting,
        prepare service userId call.operation state.record = .ok (some record)) ∧
      (call.operation.isEnable → .disabled ∉ state.log.drop call.since))
    ⟨fun both => ⟨both.1, both.2⟩, fun inTime => ⟨inTime.1, inTime.2⟩⟩

variable {service userId} {state : TwoFactorState} {call : TwoFactorCall}

theorem advanceTwoFactor_cases (inTime : InTime service userId state call) :
    (advanceTwoFactor service userId call state).1 = state ∨
    (∃ failure, (advanceTwoFactor service userId call state).1 = state.refuse failure) ∨
    ∃ entry, prepare service userId call.operation state.record = .ok entry ∧
        (advanceTwoFactor service userId call state).1 = state.written call entry := by
  obtain ⟨operation, since, putting⟩ := call
  cases putting with
  | some record => exact .inr (.inr ⟨some record, inTime.sameDecision record rfl, rfl⟩)
  | none =>
    unfold advanceTwoFactor
    cases prepare service userId operation state.record with
    | error failure => exact .inr (.inl ⟨failure, rfl⟩)
    | ok entry =>
      cases operation with
      | enable secret nonce minting | disable => exact .inr (.inr ⟨entry, rfl, rfl⟩)
      | confirm code nowSecs now => exact .inl rfl
      | consumeRecoveryCode code => exact .inl rfl
      | regenerateRecoveryCodes minting => exact .inl rfl

/-! ## Codes that are issued, stored and accepted -/

def issued (log : List TwoFactorEvent) (code : String) : Nat :=
  (log.flatMap TwoFactorEvent.codes).count code

def accepted (log : List TwoFactorEvent) (code : String) : Nat := log.count (.accepted code)

@[simp] theorem issued_append (log more : List TwoFactorEvent) (code : String) :
    issued (log ++ more) code = issued log code + issued more code := by
  simp [issued]

@[simp] theorem accepted_append (log more : List TwoFactorEvent) (code : String) :
    accepted (log ++ more) code = accepted log code + accepted more code := by
  simp [accepted]

variable (service) in
def stored (record : Option TwoFactorRecord) (code : String) : Nat :=
  match record with
  | none => 0
  | some record => record.recoveryCodes.countP (service.verify · code)

variable {minting : Minting}

theorem countP_hashRecoveryCodes (apart : service.HashesApart) {hashes : List String}
    (hashed : service.hashRecoveryCodes minting = .ok hashes) (code : String) :
    hashes.countP (service.verify · code) ≤ minting.codes.count code := by
  unfold TwoFactorService.hashRecoveryCodes at hashed
  generalize minting.codes = codes at hashed ⊢
  induction codes generalizing hashes with
  | nil =>
    cases hashed
    exact Nat.le_refl _
  | cons first rest ih =>
    rw [mapM_cons] at hashed
    cases firstHashed : service.hash (minting.salt first) first with
    | error failure =>
      rw [firstHashed] at hashed
      cases hashed
    | ok hash =>
      cases restHashed : rest.mapM (fun code => service.hash (minting.salt code) code) with
      | error failure =>
        rw [firstHashed, restHashed] at hashed
        cases hashed
      | ok others =>
        rw [firstHashed, restHashed] at hashed
        cases hashed
        have fewer := ih restHashed
        rw [countP_cons, count_cons]
        split
        · next verifies =>
          have same := apart _ _ _ _ firstHashed verifies
          simpa [same] using fewer
        · exact Nat.le_trans fewer (Nat.le_add_right _ _)

theorem stored_consumed {record after : TwoFactorRecord} {code : String}
    (consumed : service.consumeRecoveryCode code (some record) = .ok after) (other : String) :
    stored service (some after) other + [code].count other ≤
      stored service (some record) other := by
  simp only [TwoFactorService.consumeRecoveryCode] at consumed
  split at consumed
  · next index found =>
    cases consumed
    obtain ⟨within, verifies, -⟩ := findIdx?_eq_some_iff_getElem.mp found
    have parts : record.recoveryCodes = record.recoveryCodes.take index ++
        record.recoveryCodes[index] :: record.recoveryCodes.drop (index + 1) := by
      rw [getElem_cons_drop, take_append_drop]
    have counted := congrArg (List.countP (service.verify · other)) parts
    rw [countP_append, countP_cons] at counted
    rw [stored, stored, counted, eraseIdx_eq_take_drop_succ, countP_append, Nat.add_assoc]
    refine Nat.add_le_add_left (Nat.add_le_add_left ?_ _) _
    by_cases same : code = other
    · subst same
      simp [verifies]
    · simp [same]
  · cases consumed

theorem stored_enabled (apart : service.HashesApart) {secret : String} {nonce : Nonce}
    {record : TwoFactorRecord} (enabled : service.enable userId secret nonce minting = .ok record)
    (code : String) : stored service (some record) code ≤ minting.codes.count code := by
  obtain ⟨envelope, hashes, -, hashed, rfl⟩ := TwoFactorService.exists_of_enable enabled
  exact countP_hashRecoveryCodes apart hashed code

variable {after : TwoFactorRecord}

theorem stored_regenerated (apart : service.HashesApart) {record : Option TwoFactorRecord}
    (regenerated : service.regenerateRecoveryCodes minting record = .ok after) (code : String) :
    record.isSome ∧ stored service (some after) code ≤ minting.codes.count code := by
  cases record with
  | none => cases regenerated
  | some record =>
    simp only [TwoFactorService.regenerateRecoveryCodes] at regenerated
    split at regenerated
    · cases regenerated
    · split at regenerated
      · cases regenerated
      · next hashes hashed =>
        cases regenerated
        exact ⟨rfl, countP_hashRecoveryCodes apart hashed code⟩

theorem stored_confirmed {given now : String} {nowSecs : Nat} {record : Option TwoFactorRecord}
    (confirmed : service.confirm given nowSecs now record = .ok after) (code : String) :
    record.isSome ∧ stored service (some after) code = stored service record code := by
  cases record with
  | none => cases confirmed
  | some record =>
    simp only [TwoFactorService.confirm] at confirmed
    split at confirmed
    · cases confirmed
    · split at confirmed
      · cases confirmed
      · split at confirmed
        · cases confirmed
          exact ⟨rfl, rfl⟩
        · cases confirmed

theorem of_map_some {answer : Except AuthError TwoFactorRecord}
    {entry : Option TwoFactorRecord} (mapped : answer.map some = .ok entry) :
    ∃ record, answer = .ok record ∧ entry = some record := by
  cases answer with
  | error failure => cases mapped
  | ok record =>
    cases mapped
    exact ⟨record, rfl, rfl⟩

variable {record entry : Option TwoFactorRecord} {operation : TwoFactorOperation}

theorem stored_prepare (apart : service.HashesApart)
    (prepared : prepare service userId operation record = .ok entry) (since : Nat) (code : String) :
    accepted [operation.event since] code + stored service entry code ≤
      stored service record code + issued [operation.event since] code := by
  cases operation with
  | enable secret nonce minting =>
    obtain ⟨after, enabled, rfl⟩ := of_map_some prepared
    have few := stored_enabled apart enabled code
    simp only [accepted, issued, TwoFactorOperation.event]
    simpa [TwoFactorEvent.codes] using Nat.le_trans few (Nat.le_add_left _ _)
  | confirm given nowSecs now =>
    obtain ⟨after, confirmed, rfl⟩ := of_map_some prepared
    have same := (stored_confirmed confirmed code).2
    simp [accepted, issued, TwoFactorOperation.event, same]
  | disable =>
    cases prepared
    simp [accepted, stored, TwoFactorOperation.event]
  | consumeRecoveryCode given =>
    obtain ⟨after, consumed, rfl⟩ := of_map_some prepared
    cases record with
    | none => cases consumed
    | some record =>
      have fewer := stored_consumed consumed code
      have once : accepted [.accepted given] code = [given].count code := by
        by_cases same : given = code
        · simp [accepted, same]
        · simp [accepted, same]
      rw [TwoFactorOperation.event, once, Nat.add_comm]
      exact Nat.le_trans fewer (Nat.le_add_right _ _)
  | regenerateRecoveryCodes minting =>
    obtain ⟨after, regenerated, rfl⟩ := of_map_some prepared
    have few := (stored_regenerated apart regenerated code).2
    simp only [accepted, issued, TwoFactorOperation.event]
    simpa [TwoFactorEvent.codes] using Nat.le_trans few (Nat.le_add_left _ _)

/-! ## What a run in time keeps -/

variable (service) in
/--
From the start, and from every regeneration on, what has been accepted or could
be accepted now has been shown.
-/
def Covered (log : List TwoFactorEvent) (record : Option TwoFactorRecord) : Prop :=
  ∀ before part, log = before ++ part →
    (before = [] ∨ ∃ codes rest, part = .regenerated codes :: rest) →
    ∀ code, accepted part code + stored service record code ≤ issued part code

/-- After a `disable`, only an `enable` called later brings a record back. -/
def StaysDisabled (log : List TwoFactorEvent) (record : Option TwoFactorRecord) : Prop :=
  ∀ before after, log = before ++ .disabled :: after → record.isSome →
    ∃ since codes, before.length < since ∧ .enabled since codes ∈ after

variable {log : List TwoFactorEvent} {event : TwoFactorEvent}

theorem Covered.append (covered : Covered service log record)
    (moves : ∀ code, accepted [event] code + stored service entry code ≤
        stored service record code + issued [event] code)
    (renews : ∀ codes, event = .regenerated codes →
      ∀ code, stored service entry code ≤ issued [event] code) :
    Covered service (log ++ [event]) entry := by
  intro before part split starts code
  rcases eq_nil_or_concat part with rfl | ⟨part, last, rfl⟩
  · rcases starts with rfl | ⟨codes, rest, isCons⟩
    · simp at split
    · cases isCons
  · rw [concat_eq_append, ← append_assoc] at split
    rw [concat_eq_append] at starts ⊢
    obtain ⟨earlier, same⟩ := append_inj' split rfl
    cases same
    by_cases isFirst : part = [] ∧ ∃ codes, event = .regenerated codes
    · obtain ⟨rfl, codes, isRegenerated⟩ := isFirst
      have few := renews codes isRegenerated code
      subst isRegenerated
      simpa [accepted] using few
    · have startsEarlier : before = [] ∨ ∃ codes rest, part = .regenerated codes :: rest := by
        rcases starts with atStart | ⟨codes, rest, isCons⟩
        · exact .inl atStart
        · cases part with
          | nil =>
            simp only [nil_append, List.cons.injEq] at isCons
            exact absurd ⟨rfl, codes, isCons.1⟩ isFirst
          | cons first part =>
            simp only [cons_append, List.cons.injEq] at isCons
            exact .inr ⟨codes, part, by rw [isCons.1]⟩
      have few := covered before part earlier startsEarlier code
      have moved := moves code
      rw [accepted_append, issued_append]
      omega

theorem StaysDisabled.append (stays : StaysDisabled log record)
    (moves : entry.isSome →
      record.isSome ∧ event ≠ .disabled ∨
        ∃ since codes, event = .enabled since codes ∧ .disabled ∉ log.drop since) :
    StaysDisabled (log ++ [event]) entry := by
  intro before after split isSome
  rcases eq_nil_or_concat after with rfl | ⟨after, last, rfl⟩
  · obtain ⟨-, same⟩ := append_inj' split rfl
    cases same
    rcases moves isSome with ⟨-, notDisabled⟩ | ⟨since, codes, same, -⟩
    · exact absurd rfl notDisabled
    · cases same
  · rw [concat_eq_append, ← cons_append, ← append_assoc] at split
    obtain ⟨earlier, same⟩ := append_inj' split rfl
    cases same
    rw [concat_eq_append]
    rcases moves isSome with ⟨wasSome, -⟩ | ⟨since, codes, rfl, notSince⟩
    · obtain ⟨since, codes, later, isIn⟩ := stays before after earlier wasSome
      exact ⟨since, codes, later, mem_append_left _ isIn⟩
    · refine ⟨since, codes, ?_, by simp⟩
      by_contra notLater
      refine notSince ?_
      rw [earlier, drop_append_of_le_length (Nat.le_of_not_lt notLater)]
      simp

theorem isSome_of_prepare (apart : service.HashesApart)
    (prepared : prepare service userId operation record = .ok entry)
    (notEnable : operation.isEnable = false) (isSome : entry.isSome) :
    record.isSome ∧ operation ≠ .disable := by
  cases operation with
  | enable secret nonce minting => cases notEnable
  | confirm given nowSecs now =>
    obtain ⟨after, confirmed, rfl⟩ := of_map_some prepared
    exact ⟨(stored_confirmed confirmed given).1, by simp⟩
  | disable =>
    cases prepared
    cases isSome
  | consumeRecoveryCode given =>
    obtain ⟨after, consumed, rfl⟩ := of_map_some prepared
    cases record with
    | none => cases consumed
    | some record => exact ⟨rfl, by simp⟩
  | regenerateRecoveryCodes minting =>
    obtain ⟨after, regenerated, rfl⟩ := of_map_some prepared
    exact ⟨(stored_regenerated apart regenerated "").1, by simp⟩

variable (service) in
/-- What a run in time keeps. -/
structure TwoFactorState.Kept (state : TwoFactorState) : Prop where
  covered : Covered service state.log state.record
  staysDisabled : StaysDisabled state.log state.record

theorem TwoFactorState.Kept.refuse (kept : state.Kept service) (failure : AuthError) :
    (state.refuse failure).Kept service :=
  { covered :=
      kept.covered.append
        (fun code => by
          simp [accepted, issued, TwoFactorEvent.codes, TwoFactorState.refuse])
        (fun codes isRegenerated => by cases isRegenerated)
    staysDisabled := kept.staysDisabled.append fun isSome => .inl ⟨isSome, by simp⟩ }

theorem TwoFactorState.Kept.written (apart : service.HashesApart) (kept : state.Kept service)
    {entry : Option TwoFactorRecord}
    (prepared : prepare service userId call.operation state.record = .ok entry)
    (notDisabled : call.operation.isEnable → .disabled ∉ state.log.drop call.since) :
    (state.written call entry).Kept service := by
  constructor
  · refine
      kept.covered.append (stored_prepare apart prepared call.since) ?_
    intro codes isRegenerated code
    cases operation : call.operation with
    | regenerateRecoveryCodes minting =>
      rw [operation] at prepared
      obtain ⟨after, regenerated, rfl⟩ := of_map_some prepared
      have few := (stored_regenerated apart regenerated code).2
      simpa [issued, TwoFactorOperation.event, TwoFactorEvent.codes,
        TwoFactorState.written] using few
    | _ =>
      rw [operation] at isRegenerated
      cases isRegenerated
  · refine kept.staysDisabled.append fun isSome => ?_
    cases isEnable : call.operation.isEnable with
    | false =>
      obtain ⟨wasSome, notDisable⟩ := isSome_of_prepare apart prepared isEnable isSome
      refine .inl ⟨wasSome, ?_⟩
      cases operation : call.operation <;> simp_all [TwoFactorOperation.event]
    | true =>
      right
      cases operation : call.operation with
      | enable secret nonce minting => exact ⟨call.since, minting.codes, rfl, notDisabled isEnable⟩
      | _ =>
        rw [operation] at isEnable
        cases isEnable

/-- What an interleaving is to keep. -/
structure TwoFactorState.Safe (state : TwoFactorState) : Prop where
  /-- A code is accepted at most once for each time it was shown. -/
  acceptedOnce : ∀ code, accepted state.log code ≤ issued state.log code
  /-- What is accepted after a regeneration was shown by it or later. -/
  replacedRefused : ∀ before codes after, state.log = before ++ .regenerated codes :: after →
      ∀ code, accepted after code ≤ codes.count code + issued after code
  /-- A record after a `disable` is one of an `enable` called after it. -/
  disabledStays : StaysDisabled state.log state.record

theorem TwoFactorState.Kept.safe (kept : state.Kept service) : state.Safe := by
  constructor
  · intro code
    have few := kept.covered [] state.log rfl (.inl rfl) code
    exact Nat.le_trans (Nat.le_add_right _ _) few
  · intro before codes after split code
    have few := kept.covered before _ split (.inr ⟨codes, after, rfl⟩) code
    have shown :
        issued (.regenerated codes :: after) code = codes.count code + issued after code := by
      simp [issued, TwoFactorEvent.codes]
    have sameAccepted : accepted (.regenerated codes :: after) code = accepted after code := by
      simp [accepted]
    rw [shown] at few
    exact Nat.le_trans (Nat.le_add_right _ _) few
  · exact kept.staysDisabled

/--
In every interleaving whose steps are in time, a code is accepted at most once
for each time it was shown, never after a regeneration that replaced it, and no
operation brings a record back over a `disable`.
-/
theorem safe_of_steps_in_time
    (apart : service.HashesApart) {world : World TwoFactorState TwoFactorCall}
    (reached : TransitionSystem.ReachableAlong (step? (twoFactorCalls service userId))
      (Along (InTime service userId)) (World.initial .initial) world) : world.shared.Safe := by
  have kept : world.shared.Kept service := by
    refine shared_invariant (TwoFactorState.Kept service) ?_ ?_ reached
    · constructor
      · intro before part split starts code
        obtain ⟨-, rfl⟩ := nil_eq_append_iff.mp split
        exact Nat.le_refl _
      · intro before after split
        simp [World.initial, TwoFactorState.initial] at split
    · intro state call keptBefore inTime
      rcases advanceTwoFactor_cases inTime with same | ⟨failure, same⟩ | ⟨entry, prepared, same⟩
      · exact (congrArg _ same).mpr keptBefore
      · exact (congrArg _ same).mpr (keptBefore.refuse failure)
      · exact (congrArg _ same).mpr (keptBefore.written apart prepared inTime.notDisabled)
  exact kept.safe

end Interleaving

/-! ## Operations that overlap -/

/-- A service whose hashes and envelopes show what they are made of. -/
def plainService : TwoFactorService :=
  { encrypt := fun _ secret => .ok secret
    decrypt := fun envelope => .ok envelope
    hash := fun _ code => .ok code
    verify := fun hash code => hash = code
    verifyCode := fun _ code _ => code = "123456" }

theorem plainService_hashesApart : plainService.HashesApart := by
  intro salt code hash other hashed verifies
  cases hashed
  simpa using (of_decide_eq_true verifies).symm

def plainNonce : Nonce := .replicate 12 0

/-- Draws of ten codes that begin with the same letter. -/
def drawsFrom (letter : UInt8) : List RecoveryBytes :=
  (List.range 10).map fun index =>
    Vector.ofFn fun position =>
      if position.val = 0 then letter else UInt8.ofNat index

def firstMinting : Minting :=
  { draws := drawsFrom 0, enough := by decide +kernel, salts := [] }

def secondMinting : Minting :=
  { draws := drawsFrom 1, enough := by decide +kernel, salts := [] }

/-- Two-factor authentication is enabled, confirmed, used and disabled. -/
def operationsInTime : List (Action TwoFactorOperation) :=
  [.call (.enable "secret" plainNonce firstMinting), .advance 0, .call (.confirm "123456" 0 "now"),
    .call (.consumeRecoveryCode "abbbb-11111"), .advance 0, .advance 0, .advance 0, .advance 0,
    .call (.regenerateRecoveryCodes secondMinting), .advance 0, .advance 0,
    .call (.consumeRecoveryCode "abbbb-11111"), .advance 0,
    .call .disable, .advance 0]

theorem operations_in_time_are_safe :
    ((TransitionSystem.runAlong?
        (step? (twoFactorCalls plainService "ada")) (Along (InTime plainService "ada"))
        (World.initial .initial) operationsInTime).get (by decide +kernel)).shared.Safe :=
  safe_of_steps_in_time plainService_hashesApart
    (TransitionSystem.reachableAlong_of_runAlong? .start (Option.some_get _).symm)

def answersAfterEnable (operations : List (Action TwoFactorOperation)) :
    Option (List TwoFactorEvent × Bool) :=
  (TransitionSystem.run? (step? (twoFactorCalls plainService "ada"))
    (World.initial .initial)
    (.call (.enable "secret" plainNonce firstMinting) :: .advance 0 :: operations)).map
    fun world => (world.shared.log.tail, world.shared.record.isSome)

/--
Overlapping operations: one code is accepted twice, a replaced code is accepted,
and a record is back after the `disable` that was called while it was confirmed.
-/
theorem overlapping_operations_lose_updates :
    answersAfterEnable
      [.call (.consumeRecoveryCode "abbbb-11111"), .call (.consumeRecoveryCode "abbbb-11111"),
        .advance 0, .advance 1, .advance 0, .advance 0] =
      some ([.accepted "abbbb-11111", .accepted "abbbb-11111"], true) ∧
    answersAfterEnable
      [.call (.consumeRecoveryCode "abbbb-11111"), .call (.regenerateRecoveryCodes secondMinting),
        .advance 0, .advance 1, .advance 1, .advance 0] =
      some ([.regenerated secondMinting.codes, .accepted "abbbb-11111"], true) ∧
    "abbbb-11111" ∉ secondMinting.codes ∧
    answersAfterEnable
      [.call (.confirm "123456" 0 "now"), .call .disable, .advance 0, .advance 1, .advance 0] =
      some ([.disabled, .confirmed], true) := by
  refine ⟨?_, ?_, ?_, ?_⟩ <;> decide +kernel

end Rustasea.Auth
