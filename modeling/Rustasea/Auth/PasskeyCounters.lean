import Rustasea.Auth.Passkeys
import Rustasea.Library.Threads

namespace Rustasea.Auth

open TransitionSystem Option

open PercentEncoding (utf8)
open Threads

/-!
# Signature counters under interleaving

Any number of authentication ceremonies begin and finish over one challenge
store and one credential store.  Taking the challenge, finding the credential
and updating its counter are separate accesses.
-/

/-- What a ceremony answered. -/
inductive PasskeyEvent where
  | issued (challenge : String)
  | accepted (id challenge : String) (counter : UInt32)
  | refused (failure : AuthError)
  deriving DecidableEq

/-- The two stores, and what has been answered. -/
structure PasskeyState where
  challenges : ChallengeStore
  credentials : PasskeyStore
  log : List PasskeyEvent

/-- A call of the service. -/
inductive PasskeyRequest where
  | beginAuthentication (key challenge : String)
  | finishAuthentication (key : String) (response : AuthenticationResponse)
  deriving DecidableEq

inductive PasskeyCall where
  | issuing (key challenge : String)
  | taking (key : String) (response : AuthenticationResponse)
  | finding (expected : String) (response : AuthenticationResponse)
  | updating (expected id : String) (counter : UInt32)

def PasskeyState.answer (state : PasskeyState) (event : PasskeyEvent) : PasskeyState :=
  { state with log := state.log ++ [event] }

@[grind =] def advancePasskey (service : PasskeyService) (call : PasskeyCall)
    (state : PasskeyState) : PasskeyState × Option PasskeyCall :=
  match call with
  | .issuing key challenge =>
    ({ state with
        challenges := state.challenges.put key challenge
        log := state.log ++ [.issued challenge] }, none)
  | .taking key response =>
    let taken := { state with challenges := (state.challenges.take key).2 }
    match (state.challenges.take key).1 with
    | none =>
      (taken.answer (.refused (.passkey "no pending authentication challenge")), none)
    | some expected => (taken, some (.finding expected response))
  | .finding expected response =>
    match state.credentials.find response.id with
    | none => (state.answer (.refused .passkeyRequired), none)
    | some credential =>
      match service.checkAssertion expected credential response with
      | .error failure => (state.answer (.refused failure), none)
      | .ok counter =>
        if credential.counter < counter then
          (state, some (.updating expected credential.id counter))
        else (state.answer (.accepted credential.id expected counter), none)
  | .updating expected id counter =>
    match state.credentials.updateCounter id counter with
    | .error failure => (state.answer (.refused failure), none)
    | .ok credentials =>
      ({ state with
          credentials := credentials
          log := state.log ++ [.accepted id expected counter] }, none)

/-- The passkey service, called any number of times at once. -/
def passkeyCalls (service : PasskeyService) : Component PasskeyState PasskeyCall PasskeyRequest :=
  { start := fun _ request =>
      match request with
      | .beginAuthentication key challenge => .issuing key challenge
      | .finishAuthentication key response => .taking key response
    advance := advancePasskey service }

/-- Registered credentials, and no ceremony has begun. -/
def PasskeyState.initial (credentials : PasskeyStore) : PasskeyState :=
  { challenges := [], credentials := credentials, log := [] }

/-! ## Challenges -/

def challengesIssued (log : List PasskeyEvent) (challenge : String) : Nat :=
  log.count (.issued challenge)

@[grind =] def PasskeyEvent.answered : PasskeyEvent → Option String
  | .accepted _ challenge _ => some challenge
  | _ => none

def responsesAccepted (log : List PasskeyEvent) (challenge : String) : Nat :=
  (log.filterMap PasskeyEvent.answered).count challenge

@[grind =] def PasskeyCall.taken : PasskeyCall → Option String
  | .finding expected _ => some expected
  | .updating expected _ _ => some expected
  | _ => none

def PasskeyCall.holds (challenge : String) (call : PasskeyCall) : Nat :=
  call.taken.toList.count challenge

@[simp] theorem challengesIssued_append (log more : List PasskeyEvent) (challenge : String) :
    challengesIssued (log ++ more) challenge =
      challengesIssued log challenge + challengesIssued more challenge := by
  simp [challengesIssued]

@[simp] theorem responsesAccepted_append (log more : List PasskeyEvent) (challenge : String) :
    responsesAccepted (log ++ more) challenge =
      responsesAccepted log challenge + responsesAccepted more challenge := by
  simp [responsesAccepted]

@[simp] theorem challenges_refused (failure : AuthError) (challenge : String) :
    challengesIssued [.refused failure] challenge = 0 ∧
    responsesAccepted [.refused failure] challenge = 0 := by
  simp [challengesIssued, responsesAccepted, PasskeyEvent.answered, List.filterMap_cons]

@[simp] theorem challenges_accepted (id expected challenge : String) (counter : UInt32) :
    challengesIssued [.accepted id expected counter] challenge = 0 ∧
    responsesAccepted [.accepted id expected counter] challenge = [expected].count challenge := by
  simp [challengesIssued, responsesAccepted, PasskeyEvent.answered]

@[simp] theorem challenges_issued (given challenge : String) :
    challengesIssued [.issued given] challenge = [given].count challenge ∧
    responsesAccepted [.issued given] challenge = 0 := by
  by_cases same : given = challenge <;>
    simp [challengesIssued, responsesAccepted, PasskeyEvent.answered, List.filterMap_cons, same]

/-- A step makes no more of a challenge than it issues. -/
theorem challenges_conserved (service : PasskeyService) (challenge : String) (state : PasskeyState)
    (call : PasskeyCall) :
    responsesAccepted (advancePasskey service call state).1.log challenge +
      (advancePasskey service call state).1.challenges.pending challenge +
      (advancePasskey service call state).2.elim 0 (PasskeyCall.holds challenge) +
      challengesIssued state.log challenge ≤
      responsesAccepted state.log challenge + state.challenges.pending challenge +
        call.holds challenge +
        challengesIssued (advancePasskey service call state).1.log challenge := by
  cases call with
  | issuing key given =>
    have few := ChallengeStore.pending_put_le state.challenges key given challenge
    simp only [advancePasskey, responsesAccepted_append,
      challengesIssued_append, challenges_issued, elim_none]
    omega
  | taking key response =>
    have fewer := ChallengeStore.pending_take_le state.challenges key challenge
    simp only [advancePasskey]
    split
    · next isNone =>
      simp only [PasskeyState.answer, responsesAccepted_append,
        challengesIssued_append, challenges_refused, elim_none]
      omega
    · next expected isSome =>
      rw [isSome] at fewer
      simp only [elim_some, PasskeyCall.holds, PasskeyCall.taken]
      omega
  | finding expected response =>
    simp only [advancePasskey]
    split
    · simp only [PasskeyState.answer, responsesAccepted_append,
        challengesIssued_append, challenges_refused, elim_none]
      omega
    · split
      · simp only [PasskeyState.answer, responsesAccepted_append,
          challengesIssued_append, challenges_refused, elim_none]
        omega
      · split
        · exact Nat.le_refl _
        · simp only [PasskeyState.answer, responsesAccepted_append, challengesIssued_append,
            challenges_accepted, elim_none, PasskeyCall.holds, PasskeyCall.taken,
            toList_some]
          omega
  | updating expected id counter =>
    simp only [advancePasskey]
    split
    · simp only [PasskeyState.answer, responsesAccepted_append,
        challengesIssued_append, challenges_refused, elim_none]
      omega
    · simp only [responsesAccepted_append, challengesIssued_append, challenges_accepted,
        elim_none, PasskeyCall.holds, PasskeyCall.taken, toList_some]
      omega

/-! ## Counters -/

@[grind =] def PasskeyEvent.counted (id : String) : PasskeyEvent → Option UInt32
  | .accepted credential _ counter =>
    if credential = id ∧ counter ≠ 0 then some counter
    else none
  | _ => none

/-- The nonzero counters that a credential was accepted with. -/
def countersAccepted (log : List PasskeyEvent) (id : String) : List UInt32 :=
  log.filterMap (PasskeyEvent.counted id)

/--
A step in order: an update stores a counter above the one that is stored now.
-/
def Advances (state : PasskeyState) (call : PasskeyCall) : Prop :=
  match call with
  | .updating _ id counter => ∀ credential ∈ state.credentials.find id, credential.counter < counter
  | _ => True

instance
    (state : PasskeyState) (call : PasskeyCall) : Decidable (Advances state call) := by
  unfold Advances
  split <;> infer_instance

variable {service : PasskeyService}

theorem checkAssertion_ok {expected : String} {credential : PasskeyCredential}
    {response : AuthenticationResponse} {counter : UInt32}
    (checked : service.checkAssertion expected credential response = .ok counter) :
    credential.counter < counter ∨ counter = 0 := by
  have passes : ∀ {presented : UInt32},
        (if (credential.counter ≠ 0 ∨ presented ≠ 0) ∧ presented ≤ credential.counter then
          .error .invalidPasskeyAssertion
        else
          .ok presented) = (.ok counter : Except AuthError UInt32) →
          credential.counter < counter ∨ counter = 0 := by
    intro presented passed
    split at passed
    · cases passed
    · next notRefused =>
      cases passed
      by_cases isZero : counter = 0
      · exact .inr isZero
      · left
        by_contra notAbove
        exact notRefused ⟨.inr isZero, UInt32.not_lt.mp notAbove⟩
  unfold PasskeyService.checkAssertion at checked
  cases verified : service.verifyAssertion expected credential.publicKey response with
  | error failure =>
    rw [verified] at checked
    cases checked
  | ok outcome =>
    simp only [verified, bind, Except.bind] at checked
    split at checked
    · split at checked
      · cases checked
      · split at checked
        · cases checked
        · exact passes checked
    · exact passes checked

/-- Every stored counter is still there, or has grown. -/
def Grown (before after : PasskeyStore) : Prop :=
  ∀ id credential, before.find id = some credential →
      ∃ now, after.find id = some now ∧ credential.counter ≤ now.counter

theorem Grown.refl (store : PasskeyStore) : Grown store store :=
  fun _ credential found => ⟨credential, found, UInt32.le_refl _⟩

theorem Grown.trans {first second third : PasskeyStore} (before : Grown first second)
    (after : Grown second third) : Grown first third := by
  intro id credential found
  obtain ⟨middle, foundMiddle, least⟩ := before id credential found
  obtain ⟨now, foundNow, most⟩ := after id middle foundMiddle
  exact ⟨now, foundNow, UInt32.le_trans least most⟩

variable {state : PasskeyState} {call : PasskeyCall}

theorem grown_advance (advances : Advances state call) :
    Grown state.credentials (advancePasskey service call state).1.credentials := by
  cases call with
  | issuing key given => exact .refl _
  | taking key response =>
    simp only [advancePasskey]
    split <;> exact .refl _
  | finding expected response =>
    simp only [advancePasskey]
    split
    · exact .refl _
    · split
      · exact .refl _
      · split <;> exact .refl _
  | updating expected id counter =>
    simp only [advancePasskey]
    split
    · exact .refl _
    · next credentials updated =>
      intro other credential found
      have after := PasskeyStore.find_updateCounter updated other
      by_cases isUpdated : other = id
      · subst isUpdated
        rw [if_pos rfl, found] at after
        exact ⟨_, after, UInt32.le_of_lt (advances credential found)⟩
      · rw [if_neg isUpdated, found] at after
        exact ⟨credential, after, UInt32.le_refl _⟩

/-- The counters that were accepted are different, and none is above. -/
structure PasskeyState.Counted (state : PasskeyState) : Prop where
  distinct : ∀ id, (countersAccepted state.log id).Nodup
  below : ∀ id, ∀ counter ∈ countersAccepted state.log id,
      ∃ credential, state.credentials.find id = some credential ∧ counter ≤ credential.counter

theorem PasskeyState.Counted.of_same {state after : PasskeyState} (counted : state.Counted)
    (sameCounters : ∀ id, countersAccepted after.log id = countersAccepted state.log id)
    (grown : Grown state.credentials after.credentials) : after.Counted := by
  constructor
  · intro id
    rw [sameCounters id]
    exact counted.distinct id
  · intro id counter isIn
    rw [sameCounters id] at isIn
    obtain ⟨credential, found, least⟩ := counted.below id counter isIn
    obtain ⟨now, foundNow, most⟩ := grown id credential found
    exact ⟨now, foundNow, UInt32.le_trans least most⟩

theorem countersAccepted_append (log : List PasskeyEvent) (event : PasskeyEvent) (id : String) :
    countersAccepted (log ++ [event]) id =
      countersAccepted log id ++ (event.counted id).toList := by
  cases isCounted : event.counted id <;> simp [countersAccepted, isCounted]

theorem PasskeyState.Counted.advance (counted : state.Counted) (advances : Advances state call) :
    (advancePasskey service call state).1.Counted := by
  have grown : Grown state.credentials (advancePasskey service call state).1.credentials :=
    grown_advance advances
  have uncounted : ∀ event : PasskeyEvent, (∀ id, event.counted id = none) →
      ∀ id, countersAccepted (state.log ++ [event]) id = countersAccepted state.log id := by
    intro event isUncounted id
    rw [countersAccepted_append, isUncounted id]
    simp
  cases call with
  | issuing key given => exact counted.of_same (uncounted _ fun _ => rfl) grown
  | taking key response =>
    simp only [advancePasskey] at grown ⊢
    split
    · exact counted.of_same (uncounted _ fun _ => rfl) (.refl _)
    · exact counted.of_same (fun _ => rfl) (.refl _)
  | finding expected response =>
    simp only [advancePasskey] at grown ⊢
    split
    · exact counted.of_same (uncounted _ fun _ => rfl) (.refl _)
    · next credential found =>
      split
      · exact counted.of_same (uncounted _ fun _ => rfl) (.refl _)
      · next counter checked =>
        split
        · exact counted
        · next notAbove =>
          have isZero := (checkAssertion_ok checked).resolve_left notAbove
          refine counted.of_same (uncounted _ fun id => ?_) (.refl _)
          simp [PasskeyEvent.counted, isZero]
  | updating expected id counter =>
    simp only [advancePasskey] at grown ⊢
    split
    · exact counted.of_same (uncounted _ fun _ => rfl) (.refl _)
    · next credentials updated =>
      rw [updated] at grown
      have after := PasskeyStore.find_updateCounter updated
      by_cases isZero : counter = 0
      · refine counted.of_same (uncounted _ fun other => ?_) grown
        simp [PasskeyEvent.counted, isZero]
      have isNew : counter ∉ countersAccepted state.log id := by
        intro isIn
        obtain ⟨credential, found, least⟩ := counted.below id counter isIn
        exact UInt32.not_lt.mpr least (advances credential found)
      constructor
      · intro other
        rw [countersAccepted_append]
        by_cases isUpdated : id = other
        · subst isUpdated
          simpa [PasskeyEvent.counted, isZero] using List.Nodup.concat isNew (counted.distinct id)
        · simpa [PasskeyEvent.counted, isUpdated] using counted.distinct other
      · intro other accepted isIn
        rw [countersAccepted_append, List.mem_append] at isIn
        rcases isIn with isOld | isLast
        · obtain ⟨credential, found, least⟩ := counted.below other accepted isOld
          obtain ⟨now, foundNow, most⟩ := grown other credential found
          exact ⟨now, foundNow, UInt32.le_trans least most⟩
        · by_cases isUpdated : id = other
          · subst isUpdated
            obtain ⟨credential, found⟩ := isSome_iff_exists.mp
                (PasskeyStore.isSome_of_updateCounter updated)
            have isCounter : accepted = counter := by
              simpa [PasskeyEvent.counted, isZero] using isLast
            have stored := after id
            rw [if_pos rfl, found] at stored
            exact ⟨_, stored, isCounter ▸ UInt32.le_refl _⟩
          · simp [PasskeyEvent.counted, isUpdated] at isLast

/-! ## Ceremonies in any order -/

theorem responses_le_issued {credentials : PasskeyStore} {world : World PasskeyState PasskeyCall}
    (reached : Reachable (step? (passkeyCalls service))
      (World.initial (.initial credentials)) world) (challenge : String) :
    responsesAccepted world.shared.log challenge ≤ challengesIssued world.shared.log challenge := by
  have few : responsesAccepted world.shared.log challenge +
          world.shared.challenges.pending challenge +
        total (PasskeyCall.holds challenge) world.threads ≤
      challengesIssued world.shared.log challenge := by
    refine spent_le_issued (PasskeyCall.holds challenge)
        (fun state : PasskeyState =>
          responsesAccepted state.log challenge + state.challenges.pending challenge)
        (fun state => challengesIssued state.log challenge) ?_ ?_
        (challenges_conserved service challenge) reached
    · exact Nat.le_refl 0
    · intro state request
      cases request <;> rfl
  omega

/--
Every challenge leads to at most one accepted response each time it is issued.
In every interleaving whose updates are in order, no stored counter decreases
and no credential is accepted twice with a nonzero counter.
-/
theorem counters_grow_along_updates_in_order
    (service : PasskeyService) (credentials : PasskeyStore) :
    (∀ world : World PasskeyState PasskeyCall,
      Reachable (step? (passkeyCalls service)) (World.initial (.initial credentials)) world →
      ∀ challenge,
        responsesAccepted world.shared.log challenge ≤
          challengesIssued world.shared.log challenge) ∧
    ∀ earlier later : World PasskeyState PasskeyCall,
      ReachableAlong (step? (passkeyCalls service)) (Along Advances)
        (World.initial (.initial credentials)) earlier →
      ReachableAlong (step? (passkeyCalls service)) (Along Advances) earlier later →
      Grown earlier.shared.credentials later.shared.credentials ∧
        ∀ id, (countersAccepted later.shared.log id).Nodup := by
  constructor
  · intro world reached challenge
    exact responses_le_issued reached challenge
  · intro earlier later reached onwards
    constructor
    · refine
        shared_invariant (fun state => Grown earlier.shared.credentials state.credentials)
          (.refl _) ?_ onwards
      intro state call grown advances
      exact grown.trans (grown_advance advances)
    · have counted : later.shared.Counted := by
        refine shared_invariant PasskeyState.Counted ?_
          (fun state call counted advances => counted.advance advances)
          (reached.trans onwards)
        constructor
        · exact fun id => List.nodup_nil
        · exact fun id counter isIn => absurd isIn List.not_mem_nil
      exact counted.distinct

/-! ## Ceremonies that overlap -/

/-- A service that reads its texts as they are, and trusts every signature. -/
def plainPasskeys : PasskeyService :=
  { relyingPartyId := "rustasea.dev"
    allowedOrigins := ["https://rustasea.dev"]
    decodeBase64url := fun text => some (utf8 text)
    parseClientData := fun bytes =>
      (PercentEncoding.ofUtf8? bytes).map fun challenge =>
        { ceremonyType := "webauthn.get", challenge := challenge, origin := "https://rustasea.dev" }
    sha256 := fun _ => List.replicate 32 104
    verifySignature := fun _ _ _ => true
    userHandle := fun userId => .ok userId
    debug := fun text => text }

def assertion (challenge : String) (counter : Nat) : AuthenticationResponse :=
  { id := "laptop"
    clientDataJson := challenge
    authenticatorData :=
      String.ofList (List.replicate 32 'h' ++ [1, 0, 0, 0, counter].map Char.ofNat)
    signature := ""
    userHandle := none }

/-- The laptop is registered, with a counter of three. -/
def laptopOnly : PasskeyStore :=
  [{ id := "laptop"
     userId := "ada"
     publicKey := []
     counter := 3
     name := "Laptop"
     createdAt := "2026-01-01T00:00:00Z" }]

def signIn (challenge : String) (counter : Nat) : List (Action PasskeyRequest) :=
  [.call (.beginAuthentication "session" challenge), .advance 0,
    .call (.finishAuthentication "session" (assertion challenge counter)),
    .advance 0, .advance 0, .advance 0]

def afterSignIns (world : World PasskeyState PasskeyCall)
    (actions : List (Action PasskeyRequest)) : Option (World PasskeyState PasskeyCall) :=
  runAlong? (step? (passkeyCalls plainPasskeys)) (Along Advances) world actions

theorem sign_ins_in_turn_advance_counter :
    ((afterSignIns (World.initial (.initial laptopOnly)) (signIn "first" 5)).bind fun earlier =>
      afterSignIns earlier (signIn "second" 9)).isSome ∧
    ∀ earlier ∈ afterSignIns (World.initial (.initial laptopOnly)) (signIn "first" 5),
      ∀ later ∈ afterSignIns earlier (signIn "second" 9),
        Grown earlier.shared.credentials later.shared.credentials ∧
        ∀ id, (countersAccepted later.shared.log id).Nodup := by
  refine ⟨by decide +kernel, ?_⟩
  intro earlier isEarlier later isLater
  exact (counters_grow_along_updates_in_order plainPasskeys laptopOnly).2 _ _
    (reachableAlong_of_runAlong? .start isEarlier)
    (reachableAlong_of_runAlong? .start isLater)

/-- The answers and the laptop's counter after some ceremonies. -/
def ceremonyAnswers (actions : List (Action PasskeyRequest)) :
    Option (List PasskeyEvent × Option UInt32) :=
  (run? (step? (passkeyCalls plainPasskeys))
    (World.initial (.initial laptopOnly)) actions).map
    fun world => (world.shared.log, (world.shared.credentials.find "laptop").map (·.counter))

/-- Two responses are verified, and none has updated the counter. -/
def bothVerified (first second : Nat) : List (Action PasskeyRequest) :=
  [.call (.beginAuthentication "one" "c1"), .advance 0,
    .call (.beginAuthentication "two" "c2"), .advance 0,
    .call (.finishAuthentication "one" (assertion "c1" first)),
    .call (.finishAuthentication "two" (assertion "c2" second)),
    .advance 0, .advance 1, .advance 0, .advance 1]

/--
Overlapping ceremonies: the stored counter goes from nine back to five, and the
same counter is accepted from two responses.
-/
theorem overlapping_updates_move_counter_back :
    ceremonyAnswers (bothVerified 5 9 ++ [.advance 1]) =
      some ([.issued "c1", .issued "c2", .accepted "laptop" "c2" 9], some 9) ∧
    ceremonyAnswers (bothVerified 5 9 ++ [.advance 1, .advance 0]) = some
        ([.issued "c1", .issued "c2", .accepted "laptop" "c2" 9, .accepted "laptop" "c1" 5],
          some 5) ∧
    ceremonyAnswers (bothVerified 7 7 ++ [.advance 0, .advance 0]) = some
        ([.issued "c1", .issued "c2", .accepted "laptop" "c1" 7, .accepted "laptop" "c2" 7],
          some 7) := by
  refine ⟨?_, ?_, ?_⟩ <;> decide +kernel

end Rustasea.Auth
