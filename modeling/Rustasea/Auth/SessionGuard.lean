import Rustasea.Auth.TwoFactor
import Rustasea.Auth.SessionStore
import Rustasea.Library.Threads

namespace Rustasea.Auth

open Threads

/-!
# The session guard

Identity lives in a stored session.  Each request opens its own handle on the
session its token names: it loads the record, may change it in memory, and
saves, cycles or flushes it later.  The handles are those of the session crate.
-/

/-- Identity stored inside a session. -/
structure SessionUser where
  id : String
  email : Option String
  emailVerifiedAt : Option String
  timezone : Option String
  deriving DecidableEq

/-- The principal that a request carries. -/
structure AuthUser where
  id : String
  email : Option String
  guard : String
  emailVerifiedAt : Option String
  passwordConfirmedAt : Option String
  timezone : Option String
  deriving DecidableEq

/-- The store call that saving a handle makes. -/
inductive StoreWrite (Json : Type) where
  | create (record : SessionRecord Json)
  | save (record : SessionRecord Json)

def StoreWrite.record {Json : Type} : StoreWrite Json → SessionRecord Json
  | .create record => record
  | .save record => record

/-- Handles on sessions, and how ids and records are drawn and dated. -/
structure SessionApi (Json Session : Type) where
  parseId : String → Option SessionId
  new : Option SessionId → Session
  loaded : Session → Option (SessionRecord Json) → Session
  get : Session → String → Option Json
  insert : Session → String → Json → Session
  cycleId : Session → (fresh : SessionId) → SessionId × Session
  save : Session → (now : Int) → StoreWrite Json
  flush : Session → Option SessionId
  expiryDate : (now : Int) → Int

/-- What the session crate documents of its handles. -/
structure SessionApi.Documented {Json Session : Type} (api : SessionApi Json Session) : Prop where
  /-- A session that is not found has no data. -/
  get_absent : ∀ id key, api.get (api.loaded (api.new (some id)) none) key = none
  /-- A session that was found is saved by the store's `save`. -/
  save_inserted : ∀ id record key value now, record.id = id → api.save
            (api.insert (api.loaded (api.new (some id)) (some record)) key value) now =
          .save { id := id, data := record.data.insert key value, expiryDate := api.expiryDate now }
  /-- Cycling deletes the old id; the data is created under the new one. -/
  save_cycled : ∀ id record fresh now,
      record.id = id → (api.cycleId (api.loaded (api.new (some id)) (some record))
              fresh).1 =
            id ∧
          api.save (api.cycleId (api.loaded (api.new (some id)) (some record)) fresh).2 now =
            .create { id := fresh, data := record.data, expiryDate := api.expiryDate now }
  /-- Flushing deletes the session from the store. -/
  flush_new : ∀ id, api.flush (api.new (some id)) = some id

/-- The guard: its name and key prefix, the store and the codecs of values. -/
structure SessionGuard (Json Text Session : Type) where
  name : String
  policyPrefix : String
  store : DatabaseSessionStore Json Text
  users : Codec SessionUser Json
  texts : Codec String Json
  api : SessionApi Json Session

namespace SessionGuard

variable {Json Text Session : Type} (guard : SessionGuard Json Text Session)

def userKey : String := guard.policyPrefix ++ "user"

def passwordConfirmedKey : String := guard.policyPrefix ++ "password_confirmed_at"

structure Opened (Session : Type) where
  id : SessionId
  session : Session
  user : SessionUser

def openSession (token : String) (now : Int)
    (rows : SessionTable Text) : Except AuthError (Opened Session) :=
  match guard.api.parseId token with
  | none => .error .invalidToken
  | some id =>
    match guard.store.load id now rows with
    | .error _ => .error .storeUnavailable
    | .ok reply =>
      let session := guard.api.loaded (guard.api.new (some id)) reply
      match guard.api.get session guard.userKey with
      | none => .error .invalidToken
      | some value =>
        match guard.users.decode value with
        | .error _ => .error .storeUnavailable
        | .ok user => .ok { id := id, session := session, user := user }

def principal (opened : Opened Session) : Except AuthError AuthUser :=
  let answer := fun confirmedAt : Option String =>
    { id := opened.user.id
      email := opened.user.email
      guard := guard.name
      emailVerifiedAt := opened.user.emailVerifiedAt
      passwordConfirmedAt := confirmedAt
      timezone := opened.user.timezone : AuthUser }
  match guard.api.get opened.session guard.passwordConfirmedKey with
  | none => .ok (answer none)
  | some value =>
    match guard.texts.decode value with
    | .error _ => .error .storeUnavailable
    | .ok confirmedAt => .ok (answer (some confirmedAt))

theorem exists_record_of_openSession (documented : guard.api.Documented) {token : String}
    {now : Int} {rows : SessionTable Text} {opened : Opened Session}
    (isOpened : guard.openSession token now rows = .ok opened) :
    ∃ record, record.id = opened.id ∧
      opened.session = guard.api.loaded (guard.api.new (some opened.id)) (some record) := by
  unfold openSession at isOpened
  split at isOpened
  · cases isOpened
  · next id isId =>
    split at isOpened
    · cases isOpened
    · next reply isLoaded =>
      dsimp only at isOpened
      split at isOpened
      · cases isOpened
      · next value isValue =>
        cases reply with
        | none =>
          rw [documented.get_absent] at isValue
          cases isValue
        | some record =>
          split at isOpened
          · cases isOpened
          · cases isOpened
            exact ⟨record, DatabaseSessionStore.id_of_load isLoaded, rfl⟩

/-! ## Requests -/

/-- A request with a session token, and the clock it reads. -/
inductive Request where
  | parse (token : String) (now : Int)
  | refresh (token : String) (fresh : SessionId) (now : Int)
  | confirmPassword (token : String) (nowSecs : String) (now : Int)
  | logout (token : String)
  deriving DecidableEq

/-- What a request answered. -/
inductive Event where
  | parsed (user : AuthUser)
  | refreshed (id : SessionId)
  | confirmed (id : SessionId)
  | loggedOut (id : SessionId)
  | refused (failure : AuthError)
  deriving DecidableEq

/-- The sessions table, and what has been answered. -/
structure State (Text : Type) where
  rows : SessionTable Text
  log : List Event

/-- A request in flight, with the handle it holds. -/
inductive Call (Session : Type) where
  | called (request : Request)
  | deleting (old : SessionId) (session : Session) (fresh : SessionId) (now : Int)
  | saving (owner : SessionId) (session : Session) (now : Int) (event : Event)

def State.answer {Text : Type} (state : State Text) (event : Event) : State Text :=
  { state with log := state.log ++ [event] }

def advance (call : Call Session) (state : State Text) : State Text × Option (Call Session) :=
  match call with
  | .called (.parse token now) =>
    match guard.openSession token now state.rows with
    | .error failure => (state.answer (.refused failure), none)
    | .ok opened =>
      match guard.principal opened with
      | .error failure => (state.answer (.refused failure), none)
      | .ok user => (state.answer (.parsed user), none)
  | .called (.refresh token fresh now) =>
    match guard.openSession token now state.rows with
    | .error failure => (state.answer (.refused failure), none)
    | .ok opened =>
      let (old, session) := guard.api.cycleId opened.session fresh
      (state, some (.deleting old session fresh now))
  | .called (.confirmPassword token nowSecs now) =>
    match guard.openSession token now state.rows with
    | .error failure => (state.answer (.refused failure), none)
    | .ok opened =>
      (state, some (.saving opened.id
            (guard.api.insert opened.session guard.passwordConfirmedKey
              (guard.texts.encode nowSecs))
            now (.confirmed opened.id)))
  | .called (.logout token) =>
    match guard.api.parseId token with
    | none => (state.answer (.refused .invalidToken), none)
    | some id =>
      match guard.api.flush (guard.api.new (some id)) with
      | none => (state.answer (.loggedOut id), none)
      | some gone =>
        match guard.store.delete gone state.rows with
        | .error _ => (state.answer (.refused .storeUnavailable), none)
        | .ok rows => ({ rows := rows, log := state.log ++ [.loggedOut id] }, none)
  | .deleting old session fresh now =>
    match guard.store.delete old state.rows with
    | .error _ => (state.answer (.refused .storeUnavailable), none)
    | .ok rows => ({ state with rows := rows }, some (.saving fresh session now (.refreshed fresh)))
  | .saving _ session now event =>
    match guard.store.write (guard.api.save session now).record state.rows with
    | .error _ => (state.answer (.refused .storeUnavailable), none)
    | .ok rows => ({ rows := rows, log := state.log ++ [event] }, none)

def calls : Component (State Text) (Call Session) Request :=
  { start := fun _ request => .called request, advance := guard.advance }

end SessionGuard

end Rustasea.Auth
