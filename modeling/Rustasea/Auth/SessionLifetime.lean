import Rustasea.Auth.LogoutSafety

namespace Rustasea.Auth

open DatabaseSessionStore Threads

/-!
# How long a session lives

A login advertises the lifetime of the guard.  The session it stores is built
without an expiry, so its record gets the session crate's own one, and the
table keeps the whole seconds of it.
-/

/-- The lifetime of a guard that is given none, in seconds. -/
def SESSION_TTL_SECS : Nat := 1209600

def second : Int := 1000000000

def unixTimestamp (time : Int) : Int := time / second

/-- What a login answers. -/
structure Token where
  accessToken : String
  refreshToken : String
  tokenType : String
  expiresIn : Nat
  deriving DecidableEq

/--
How the session crate stores a session that has no id yet, and for how long it
keeps one that is built without an expiry.
-/
structure SessionApi.Stores {Json Session : Type} (api : SessionApi Json Session)
    (create : Session → (fresh : SessionId) → (now : Int) → StoreWrite Json) :
    Prop where
  create_inserted : ∀ key value fresh now,
      create (api.insert (api.new none) key value) fresh now = .create
          { id := fresh, data := [(key, value)], expiryDate := api.expiryDate now }
  get_found : ∀ id record key, record.id = id →
        api.get (api.loaded (api.new (some id)) (some record)) key = record.data.get key
  expiryDate_eq : ∀ now, api.expiryDate now = now + 1209600

namespace SessionGuard

variable {Json Text Session : Type} (guard : SessionGuard Json Text Session)

def persist (create : Session → (fresh : SessionId) → (now : Int) → StoreWrite Json)
    (user : SessionUser) (fresh : SessionId) (now : Int)
    (rows : SessionTable Text) : Except AuthError (SessionId × SessionTable Text) :=
  let session := guard.api.insert (guard.api.new none) guard.userKey (guard.users.encode user)
  match guard.store.write (create session fresh (unixTimestamp now)).record rows with
  | .error _ => .error .storeUnavailable
  | .ok after => .ok (fresh, after)

def issue (ttlSecs : Nat) (id : SessionId) : Token :=
  { accessToken := id, refreshToken := id, tokenType := "Session", expiresIn := ttlSecs }

def login (create : Session → (fresh : SessionId) → (now : Int) → StoreWrite Json)
    (ttlSecs : Nat) (user : SessionUser) (fresh : SessionId) (now : Int)
    (rows : SessionTable Text) : Except AuthError (Token × SessionTable Text) :=
  (guard.persist create user fresh now rows).map fun persisted =>
    (issue ttlSecs persisted.1, persisted.2)

def parse (token : String) (now : Int) (rows : SessionTable Text) : Except AuthError AuthUser :=
  match guard.openSession token (unixTimestamp now) rows with
  | .error failure => .error failure
  | .ok opened => guard.principal opened

/-- The end of the lifetime that a login at a time advertises. -/
def advertised (token : Token) (login : Int) : Int := login + second * token.expiresIn

/--
The token is accepted until the lifetime that it advertises is over and not
afterwards, and the session's row expires at that time.
-/
structure LivesAsAdvertised (token : Token) (login : Int) (rows : SessionTable Text) : Prop where
  accepted :
    ∀ now, now < advertised token login → (guard.parse token.accessToken now rows).isOk = true
  rejected :
    ∀ now, advertised token login < now → (guard.parse token.accessToken now rows).isOk = false
  recorded :
    ∃ row ∈ rows, row.id = token.accessToken ∧ second * row.lastActivity = advertised token login

def Untouched (id : SessionId) (_ : State Text) (call : Call Session) : Prop :=
  call.deletes guard ≠ some id ∧
    match call with
    | .saving owner _ _ _ => owner ≠ id
    | _ => True

/-! ## The record of a login -/

def loginRecord (user : SessionUser) (fresh : SessionId) (now : Int) : SessionRecord Json :=
  { id := fresh
    data := [(guard.userKey, guard.users.encode user)]
    expiryDate := unixTimestamp now + 1209600 }

section Login

variable {guard} {create : Session → (fresh : SessionId) → (now : Int) → StoreWrite Json}
  (stores : guard.api.Stores create) {user : SessionUser} {fresh : SessionId} {login : Int}
  {rows after : SessionTable Text}

include stores

theorem login_spec {ttlSecs : Nat} {token : Token}
    (loggedIn : guard.login create ttlSecs user fresh login rows = .ok (token, after)) :
    token = issue ttlSecs fresh ∧ guard.store.checkedTable = .ok () ∧
    guard.store.rowOf (guard.loginRecord user fresh login) ∈ after := by
  unfold SessionGuard.login persist at loggedIn
  dsimp only at loggedIn
  rw [stores.create_inserted, stores.expiryDate_eq] at loggedIn
  split at loggedIn
  · cases loggedIn
  · next written =>
    cases loggedIn
    exact ⟨rfl, checked_of_ok written, (mem_write written).1⟩

theorem isOk_parse (isId : guard.api.parseId fresh = some fresh)
    (checked : guard.store.checkedTable = .ok ())
    (isRow : guard.store.rowOf (guard.loginRecord user fresh login) ∈ rows)
    (documented : guard.api.Documented) (now : Int) :
    (guard.parse fresh now rows).isOk = true ↔
      unixTimestamp now < unixTimestamp login + 1209600 := by
  have loaded := load_rowOf checked isRow (unixTimestamp now)
  have otherKey : guard.passwordConfirmedKey ≠ guard.userKey := by
    rw [passwordConfirmedKey, userKey]
    intro same
    have texts := congrArg String.toList same
    rw [String.toList_append, String.toList_append, List.append_cancel_left_eq] at texts
    exact absurd texts (by decide)
  have found (key : String) := stores.get_found fresh (guard.loginRecord user fresh login) key rfl
  have isUser := (found guard.userKey).trans
    (show _ = some (guard.users.encode user) by
      simp [loginRecord, SessionData.get])
  have notConfirmed := (found guard.passwordConfirmedKey).trans
    (show _ = none by simp [loginRecord, SessionData.get, otherKey])
  rw [show (guard.loginRecord user fresh login).id = fresh from rfl] at loaded
  simp only [parse, openSession, isId, loaded]
  by_cases isOver : (guard.loginRecord user fresh login).expiryDate ≤ unixTimestamp now
  · simp only [isOver, if_true, documented.get_absent]
    exact iff_of_false Bool.false_ne_true (not_lt.mpr isOver)
  · simp only [isOver, if_false, isUser, guard.users.decode_encode, principal, notConfirmed]
    exact iff_of_true rfl (not_le.mp isOver)

end Login

/-! ## Runs after a login -/

variable {guard}

theorem advance_untouched (documented : guard.api.Documented) {state : State Text}
    {call : Call Session} {row : SessionRow Text} (isRow : row ∈ state.rows)
    (sound : call.Sound guard) (untouched : guard.Untouched row.id state call) :
    row ∈ (guard.advance call state).1.rows := by
  rcases advance_cases documented call state with
    ⟨events, isNext, -⟩ |
      ⟨gone, rows, events, deletes, deleted, isNext, -⟩ |
        ⟨owner, session, now, event, rows, rfl, written, isNext⟩
  · rw [isNext]
    exact isRow
  · rw [isNext]
    cases ok_of_checkedTable deleted
    have isOther : row.id ≠ gone := by
      rintro rfl
      exact untouched.1 deletes
    exact SqlTable.mem_delete.mpr ⟨isRow, by simpa using isOther⟩
  · rw [isNext]
    refine (mem_write written).2 row isRow ?_
    rw [sound.1 now]
    exact untouched.2.symm

variable {rows : SessionTable Text}

theorem mem_of_untouched (documented : guard.api.Documented) {row : SessionRow Text}
    (isRow : row ∈ rows) {world : World (State Text) (Call Session)}
    (reached : TransitionSystem.ReachableAlong (step? guard.calls) (Along (guard.Untouched row.id))
      (World.initial { rows := rows, log := [] }) world) :
    row ∈ world.shared.rows := by
  refine
    (invariant (fun state => row ∈ state.rows) (Call.Sound guard) isRow ?_ ?_
      (fun state call isRow sound untouched =>
        ⟨advance_untouched documented isRow sound untouched,
          advance_sound documented sound⟩) reached).1
  · intro call isIn
    cases isIn
  · intro state request
    trivial

theorem second_mul_lt_iff {seconds now : Int} :
    now < second * seconds ↔ unixTimestamp now < seconds := by
  unfold second unixTimestamp second
  omega

variable {create : Session → (fresh : SessionId) → (now : Int) → StoreWrite Json}
  {user : SessionUser} {fresh : SessionId}

theorem livesAsAdvertised_of_twoWeeks (stores : guard.api.Stores create)
    (documented : guard.api.Documented) (isId : guard.api.parseId fresh = some fresh)
    (checked : guard.store.checkedTable = .ok ()) {seconds : Int}
    (isRow : guard.store.rowOf (guard.loginRecord user fresh (second * seconds)) ∈ rows) :
    guard.LivesAsAdvertised (issue SESSION_TTL_SECS fresh) (second * seconds) rows := by
  have starts : unixTimestamp (second * seconds) = seconds := by
    unfold unixTimestamp second
    omega
  have ends : advertised (issue SESSION_TTL_SECS fresh) (second * seconds) =
      second * (seconds + 1209600) := by
    rw [Int.mul_add]
    rfl
  have accepts (now : Int) := isOk_parse stores isId checked isRow documented now
  rw [starts] at accepts
  refine ⟨fun now early => ?_, fun now late => ?_, ?_⟩
  · rw [ends, second_mul_lt_iff] at early
    exact (accepts now).mpr early
  · rw [ends] at late
    refine Bool.eq_false_iff.mpr fun isOk => ?_
    have early := second_mul_lt_iff.mpr ((accepts now).mp isOk)
    exact absurd late (not_lt.mpr (le_of_lt early))
  · refine ⟨_, isRow, rfl, ?_⟩
    rw [ends, rowOf, loginRecord, starts]

theorem twoWeeks_of_recorded {ttlSecs : Nat} {login : Int}
    (isRow : guard.store.rowOf (guard.loginRecord user fresh login) ∈ rows)
    (lives : guard.LivesAsAdvertised (issue ttlSecs fresh) login rows) :
    ttlSecs = SESSION_TTL_SECS ∧ ∃ seconds, login = second * seconds := by
  obtain ⟨row, isOther, sameId, isExpiry⟩ := lives.recorded
  obtain rfl : row = guard.store.rowOf (guard.loginRecord user fresh login) :=
    SqlTable.eq_of_key isOther isRow rfl (by rw [sameId]; rfl)
  change second * (unixTimestamp login + 1209600) = login + second * ttlSecs at isExpiry
  unfold unixTimestamp second at isExpiry
  refine ⟨?_, login / 1000000000, ?_⟩
  · unfold SESSION_TTL_SECS
    omega
  · unfold second
    omega

/--
A session that nothing refreshes, deletes or saves again lives as advertised,
exactly when its guard has the crate's lifetime and the login is at a whole
second.
-/
theorem session_lives_as_advertised_iff
    (stores : guard.api.Stores create) (documented : guard.api.Documented) {ttlSecs : Nat}
    {user : SessionUser} {fresh : SessionId}
    (isId : guard.api.parseId fresh = some fresh) {login : Int}
    {before rows : SessionTable Text} {token : Token}
    (loggedIn : guard.login create ttlSecs user fresh login before = .ok (token, rows)) :
    (∀ world,
      TransitionSystem.ReachableAlong (step? guard.calls) (Along (guard.Untouched fresh))
        (World.initial { rows := rows, log := [] }) world →
      guard.LivesAsAdvertised token login world.shared.rows) ↔
      ttlSecs = SESSION_TTL_SECS ∧ ∃ seconds, login = second * seconds := by
  obtain ⟨rfl, checked, isRow⟩ := login_spec stores loggedIn
  constructor
  · intro lives
    exact twoWeeks_of_recorded isRow (lives _ .start)
  · rintro ⟨rfl, seconds, rfl⟩ world reached
    exact livesAsAdvertised_of_twoWeeks stores documented isId checked
      (mem_of_untouched documented isRow reached)

/-! ## Two hours -/

/-- Handles whose sessions have data before they have an id. -/
def freshApi : SessionApi PlainJson Handle :=
  { plainApi with
    new := fun id =>
      { id := id
        record :=
          if id.isNone then some { id := "", data := [], expiryDate := 0 }
          else none } }

def freshCreate (handle : Handle) (fresh : SessionId) (now : Int) : StoreWrite PlainJson :=
  .create { id := fresh, data := (handle.record.map (·.data)).getD [], expiryDate := now + 1209600 }

def freshGuard : SessionGuard PlainJson (Option (SessionData PlainJson)) Handle :=
  { plainGuard with api := freshApi }

theorem freshGuard_documented : freshGuard.api.Documented := by
  constructor
  · intro id key
    rfl
  · rintro id record key value now rfl
    rfl
  · rintro id record fresh now rfl
    exact ⟨rfl, rfl⟩
  · intro id
    rfl

theorem freshGuard_stores : freshGuard.api.Stores freshCreate := by
  constructor
  · intro key value fresh now
    rfl
  · rintro id record key rfl
    rfl
  · intro now
    rfl

def firstLogin (ttlSecs : Nat) :
    Except AuthError (Token × SessionTable (Option (SessionData PlainJson))) :=
  freshGuard.login freshCreate ttlSecs ada "s1" 0 (SqlTable.empty _)

theorem first_login_lives_two_weeks :
    (firstLogin SESSION_TTL_SECS).isOk = true ∧
    ∀ token rows, firstLogin SESSION_TTL_SECS = .ok (token, rows) →
      ((∀ world,
          TransitionSystem.ReachableAlong (step? freshGuard.calls)
            (Along (freshGuard.Untouched "s1")) (World.initial { rows := rows, log := [] }) world →
          freshGuard.LivesAsAdvertised token 0 world.shared.rows) ↔
          SESSION_TTL_SECS = SESSION_TTL_SECS ∧ ∃ seconds, 0 = second * seconds) :=
  ⟨by decide +kernel, fun _ _ loggedIn =>
    session_lives_as_advertised_iff freshGuard_stores freshGuard_documented rfl loggedIn⟩

/-- A guard that advertises two hours keeps its sessions for two weeks. -/
theorem two_hours_last_two_weeks :
    ¬ ∀ (ttlSecs : Nat) (token : Token) (rows : SessionTable (Option (SessionData PlainJson))),
      firstLogin ttlSecs = .ok (token, rows) →
      ∀ world,
        TransitionSystem.ReachableAlong (step? freshGuard.calls) (Along (freshGuard.Untouched "s1"))
          (World.initial { rows := rows, log := [] }) world →
        freshGuard.LivesAsAdvertised token 0 world.shared.rows := by
  intro alwaysLive
  have isOk : (firstLogin 7200).isOk = true := by decide +kernel
  cases loggedIn : firstLogin 7200 with
  | error failure =>
    rw [loggedIn] at isOk
    cases isOk
  | ok answer =>
    have lives := alwaysLive 7200 answer.1 answer.2 loggedIn _ .start
    obtain ⟨isToken, -, isRow⟩ := login_spec freshGuard_stores loggedIn
    rw [isToken] at lives
    exact absurd (twoWeeks_of_recorded isRow lives).1 (by decide)

end SessionGuard

end Rustasea.Auth
