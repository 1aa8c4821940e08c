import Rustasea.Auth.SessionGuard

namespace Rustasea.Auth

open DatabaseSessionStore Threads TransitionSystem

/-!
# Sessions after a logout

A logout deletes the row of its session.  Requests that loaded the record before
still hold it; a save of theirs inserts the row again.
-/

namespace SessionGuard

variable {Json Text Session : Type} {guard : SessionGuard Json Text Session}

/-- What a request in flight may write: the session it is about to answer. -/
def Call.Sound (guard : SessionGuard Json Text Session) : Call Session → Prop
  | .called _ => True
  | .deleting _ session fresh _ => ∀ now, (guard.api.save session now).record.id = fresh
  | .saving owner session _ event =>
    (∀ now, (guard.api.save session now).record.id = owner) ∧ ∀ id, event ≠ .loggedOut id

def State.LoggedOutGone (state : State Text) : Prop :=
  ∀ id, .loggedOut id ∈ state.log → Absent state.rows id

/--
A step on a live session: nothing is saved under an id once its logout has
returned.
-/
def OnLive (state : State Text) : Call Session → Prop
  | .saving owner _ _ _ => .loggedOut owner ∉ state.log
  | _ => True

instance
    (state : State Text) (call : Call Session) : Decidable (OnLive state call) := by
  cases call <;> unfold OnLive <;> infer_instance

variable {state : State Text}

/-- A step leaves a request that saves the session it is about to answer. -/
theorem advance_sound (documented : guard.api.Documented) {call : Call Session}
    (sound : call.Sound guard) : ∀ next ∈ (guard.advance call state).2, Call.Sound guard next := by
  have finished : ∀ next ∈ (none : Option (Call Session)), Call.Sound guard next := by
    intro next isNext
    cases isNext
  cases call with
  | called request =>
    cases request with
    | parse token now =>
      simp only [advance]
      split
      · exact finished
      · split <;> exact finished
    | refresh token fresh now =>
      simp only [advance]
      split
      · exact finished
      · next opened isOpened =>
        obtain ⟨record, sameId, isSession⟩ := guard.exists_record_of_openSession documented isOpened
        rintro next ⟨⟩
        intro later
        rw [isSession, (documented.save_cycled _ _ fresh later sameId).2]
        rfl
    | confirmPassword token nowSecs now =>
      simp only [advance]
      split
      · exact finished
      · next opened isOpened =>
        obtain ⟨record, sameId, isSession⟩ := guard.exists_record_of_openSession documented isOpened
        rintro next ⟨⟩
        refine ⟨fun later => ?_, by simp⟩
        rw [isSession, documented.save_inserted _ _ _ _ _ sameId]
        rfl
    | logout token =>
      simp only [advance]
      repeat' split
      all_goals exact finished
  | deleting old session fresh now =>
    simp only [advance]
    split
    · exact finished
    · rintro next ⟨⟩
      exact ⟨sound, by simp⟩
  | saving owner session now event =>
    simp only [advance]
    split <;> exact finished

/-- The session whose row the next step of a request deletes. -/
def Call.deletes (guard : SessionGuard Json Text Session) : Call Session → Option SessionId
  | .called (.logout token) => guard.api.parseId token
  | .deleting old _ _ _ => some old
  | _ => none

/-- What a step does: it answers, deletes a session, or saves one. -/
theorem advance_cases (documented : guard.api.Documented) (call : Call Session)
    (state : State Text) :
    (∃ events, (guard.advance call state).1 = { state with log := state.log ++ events } ∧
      ∀ id, .loggedOut id ∉ events) ∨
    (∃ gone rows events, call.deletes guard = some gone ∧
      guard.store.delete gone state.rows = .ok rows ∧
      (guard.advance call state).1 = { rows := rows, log := state.log ++ events } ∧
      ∀ id, .loggedOut id ∈ events → id = gone) ∨
    ∃ owner session now event rows, call = .saving owner session now event ∧
      guard.store.write (guard.api.save session now).record state.rows = .ok rows ∧
      (guard.advance call state).1 = { rows := rows, log := state.log ++ [event] } := by
  have refused (failure : AuthError) : ∃ events, state.answer (.refused failure) =
        { state with log := state.log ++ events } ∧
      ∀ id, .loggedOut id ∉ events :=
    ⟨[.refused failure], rfl, by simp⟩
  have unchanged :
      ∃ events, state = { state with log := state.log ++ events } ∧ ∀ id, .loggedOut id ∉ events :=
    ⟨[], by simp, by simp⟩
  cases call with
  | called request =>
    cases request with
    | parse token now =>
      simp only [advance]
      refine .inl ?_
      split
      · exact refused _
      · split
        · exact refused _
        · exact ⟨[.parsed _], rfl, by simp⟩
    | refresh token fresh now | confirmPassword token nowSecs now =>
      simp only [advance]
      refine .inl ?_
      split
      · exact refused _
      · exact unchanged
    | logout token =>
      simp only [advance]
      split
      · exact .inl (refused _)
      · next id isId =>
        rw [documented.flush_new]
        dsimp only
        split
        · exact .inl (refused _)
        · next rows deleted =>
          exact .inr (.inl ⟨id, rows, [.loggedOut id], isId, deleted, rfl, by simp⟩)
  | deleting old session fresh now =>
    simp only [advance]
    split
    · exact .inl (refused _)
    · next rows deleted => exact .inr (.inl ⟨old, rows, [], rfl, deleted, by simp, by simp⟩)
  | saving owner session now event =>
    simp only [advance]
    split
    · exact .inl (refused _)
    · next rows written => exact .inr (.inr ⟨owner, session, now, event, rows, rfl, written, rfl⟩)

theorem advance_keeps (documented : guard.api.Documented) {call : Call Session}
    (gone : state.LoggedOutGone) (sound : call.Sound guard) (live : OnLive state call) :
    (guard.advance call state).1.LoggedOutGone := by
  intro id isOut
  rcases advance_cases documented call state with
    ⟨events, isNext, quiet⟩ |
      ⟨other, rows, events, -, deleted, isNext, ofOther⟩ |
        ⟨owner, session, now, event, rows, rfl, written, isNext⟩
  · rw [isNext] at isOut ⊢
    rcases List.mem_append.mp isOut with isEarlier | isEvent
    · exact gone id isEarlier
    · exact absurd isEvent (quiet id)
  · rw [isNext] at isOut ⊢
    rcases List.mem_append.mp isOut with isEarlier | isEvent
    · exact absent_delete deleted (gone id isEarlier)
    · rw [ofOther id isEvent]
      exact absent_deleted deleted
  · rw [isNext] at isOut ⊢
    rcases List.mem_append.mp isOut with isEarlier | isEvent
    · refine absent_write written ?_ (gone id isEarlier)
      rw [sound.1 now]
      rintro rfl
      exact live isEarlier
    · exact absurd (List.mem_singleton.mp isEvent).symm (sound.2 id)

/--
In every interleaving whose saves are of live sessions, a session is never
loaded again once its logout has returned.
-/
theorem logged_out_stays_unloadable (documented : guard.api.Documented) {rows : SessionTable Text}
    {world : World (State Text) (Call Session)}
    (reached : ReachableAlong (step? guard.calls) (Along OnLive)
      (World.initial { rows := rows, log := [] }) world) {id : SessionId}
    (isOut : .loggedOut id ∈ world.shared.log) (now : Int) (record : SessionRecord Json) :
    guard.store.load id now world.shared.rows ≠ .ok (some record) := by
  have gone : world.shared.LoggedOutGone := by
    refine (invariant State.LoggedOutGone (Call.Sound guard) ?_ ?_ ?_
        (fun state call gone sound live =>
          ⟨advance_keeps documented gone sound live, advance_sound documented sound⟩) reached).1
    · intro other isIn
      cases isIn
    · intro call isIn
      cases isIn
    · intro state request
      trivial
  exact load_absent (gone id isOut) now record

/-! ## A save that overtakes a logout -/

/-- A session value: the user, or a text. -/
inductive PlainJson where
  | user (user : SessionUser)
  | text (text : String)

/-- Values are read back from what they are stored as. -/
def plainUsers : Codec SessionUser PlainJson :=
  { encode := .user
    decode := fun
      | .user user => .ok user
      | .text _ => .error "invalid type: string, expected struct SessionUser"
    decode_encode := fun _ => rfl }

def plainTexts : Codec String PlainJson :=
  { encode := .text
    decode := fun
      | .text text => .ok text
      | .user _ => .error "invalid type: map, expected a string"
    decode_encode := fun _ => rfl }

/-- A handle: its id, and the record once it is loaded. -/
structure Handle where
  id : Option SessionId
  record : Option (SessionRecord PlainJson)

/-- Handles as the session crate keeps them, for sessions of two weeks. -/
def plainApi : SessionApi PlainJson Handle :=
  { parseId := some
    new := fun id => { id := id, record := none }
    loaded := fun handle found =>
      match found with
      | some record => { handle with record := some record }
      | none =>
        { id := none, record := some { id := "", data := [], expiryDate := 0 } }
    get := fun handle key => handle.record.bind fun record => record.data.get key
    insert := fun handle key value =>
      { handle with
        record :=
          handle.record.map fun record =>
            { record with data := record.data.insert key value } }
    cycleId := fun handle fresh =>
      ((handle.record.map fun record => record.id).getD "",
        { id := none, record := handle.record.map fun record => { record with id := fresh } })
    save := fun handle now =>
      let record :=
        { handle.record.getD { id := "", data := [], expiryDate := 0 } with
          expiryDate := now + 1209600 }
      match handle.id with
      | some _ => .save record
      | none => .create record
    flush := fun handle => handle.id
    expiryDate := fun now => now + 1209600 }

theorem plainApi_documented : plainApi.Documented := by
  constructor
  · intro id key
    rfl
  · rintro id record key value now rfl
    rfl
  · rintro id record fresh now rfl
    exact ⟨rfl, rfl⟩
  · intro id
    rfl

/-- A guard with the default name, key prefix and table. -/
def plainGuard : SessionGuard PlainJson (Option (SessionData PlainJson)) Handle :=
  { name := "session"
    policyPrefix := "rustasea-session-"
    store := { table := "sessions", codec := Codec.plain _ }
    users := plainUsers
    texts := plainTexts
    api := plainApi }

def ada : SessionUser :=
  { id := "ada", email := none, emailVerifiedAt := none, timezone := none }

def oneSession : SessionTable (Option (SessionData PlainJson)) :=
  ((SqlTable.empty SessionRow.key).insert?
    { id := "s1"
      payload := some [(plainGuard.userKey, .user ada)]
      lastActivity := 1000 }).getD (SqlTable.empty SessionRow.key)

/-- A confirmation that is saved before its session is logged out. -/
def confirmThenLogout : List (Action Request) :=
  [.call (.parse "s1" 10), .advance 0, .call (.confirmPassword "s1" "20" 20), .call (.logout "s1"),
    .advance 0, .advance 0, .advance 0,
    .call (.parse "s1" 30), .advance 0]

theorem confirmed_session_stays_logged_out :
    (runAlong? (step? plainGuard.calls) (Along OnLive)
        (World.initial { rows := oneSession, log := [] })
        confirmThenLogout).isSome ∧
      ∀ world ∈ runAlong? (step? plainGuard.calls) (Along OnLive)
            (World.initial { rows := oneSession, log := [] })
            confirmThenLogout,
        .loggedOut "s1" ∈ world.shared.log ∧
          ∀ record, plainGuard.store.load "s1" 40 world.shared.rows ≠ .ok (some record) := by
  have isOut : ∀ world ∈ runAlong? (step? plainGuard.calls) (Along OnLive)
          (World.initial { rows := oneSession, log := [] })
          confirmThenLogout,
      .loggedOut "s1" ∈ world.shared.log := by
    decide +kernel
  refine ⟨by decide +kernel, fun world ran => ⟨isOut world ran, ?_⟩⟩
  exact logged_out_stays_unloadable plainApi_documented
    (reachableAlong_of_runAlong? .start ran)
    (isOut world ran) 40

/-- A confirmation that loads its session before the logout deletes it. -/
def confirmAroundLogout : List (Action Request) :=
  [.call (.confirmPassword "s1" "20" 20), .call (.logout "s1"), .advance 0, .advance 1, .advance 0,
    .call (.parse "s1" 30), .advance 0]

/-- The overtaken save brings the session back, with its user. -/
theorem overtaken_save_revives_session :
    (run? (step? plainGuard.calls)
          (World.initial { rows := oneSession, log := [] })
          confirmAroundLogout).map (·.shared.log) =
        some
          [.loggedOut "s1", .confirmed "s1", .parsed
              { id := "ada"
                email := none
                guard := "session"
                emailVerifiedAt := none
                passwordConfirmedAt := some "20"
                timezone := none }] := by
  decide +kernel

end SessionGuard

end Rustasea.Auth
