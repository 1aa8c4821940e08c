import Mathlib.Data.List.Basic
import Mathlib.Data.List.Induction

namespace Rustasea.Authlog

open List

/-!
# The authentication log

One row for every login attempt and lockout, in the order of the inserts.  A
logout stamps rows that are open, or inserts a row of its own; a successful
login asks whether its user was seen at its address before.  Statements succeed;
the id and the time of a row are given.
-/

/-! ## Events -/

inductive AuthLogEventKind where
  | loginSucceeded
  | loginFailed
  | lockout
  | logout
  deriving DecidableEq

namespace AuthLogEventKind

def asStr : AuthLogEventKind → String
  | loginSucceeded => "login_succeeded"
  | loginFailed => "login_failed"
  | lockout => "lockout"
  | logout => "logout"

def isSuccessful : AuthLogEventKind → Bool
  | loginSucceeded => true
  | loginFailed => false
  | lockout => false
  | logout => true

end AuthLogEventKind

/-- One occurrence that is handed to the recorder. -/
structure AuthLogEvent where
  kind : AuthLogEventKind
  userId : Option String
  email : Option String
  guardName : Option String
  ipAddress : Option String
  userAgent : Option String
  deriving DecidableEq

/-! ## Rows -/

/-- A row of the log. -/
structure AuthenticationLog (Id : Type) where
  id : Id
  userId : Option String
  email : Option String
  guardName : Option String
  event : String
  ipAddress : Option String
  userAgent : Option String
  successful : Bool
  loginAt : Option String
  logoutAt : Option String
  createdAt : String
  updatedAt : String
  deriving DecidableEq

abbrev Table (Id : Type) := List (AuthenticationLog Id)

variable {Id : Type}

def loginRow (event : AuthLogEvent) (id : Id) (stamp : String) : AuthenticationLog Id where
  id := id
  userId := event.userId
  email := event.email
  guardName := event.guardName
  event := event.kind.asStr
  ipAddress := event.ipAddress
  userAgent := event.userAgent
  successful := event.kind.isSuccessful
  loginAt := some stamp
  logoutAt := none
  createdAt := stamp
  updatedAt := stamp

def insertEvent (table : Table Id) (event : AuthLogEvent) (id : Id) (stamp : String) : Table Id :=
  table ++ [loginRow event id stamp]

/-! ## Logouts -/

inductive MatchColumn where
  | userId
  | email
  deriving DecidableEq

def MatchColumn.read (row : AuthenticationLog Id) : MatchColumn → Option String
  | userId => row.userId
  | email => row.email

def logoutMatch (event : AuthLogEvent) : Option (MatchColumn × String) :=
  match event.userId with
  | some userId => some (.userId, userId)
  | none => event.email.map fun email => (.email, email)

/-- `column = value AND logout_at IS NULL`. -/
def isOpenFor (matched : MatchColumn × String) (row : AuthenticationLog Id) : Bool :=
  decide (matched.1.read row = some matched.2) && row.logoutAt.isNone

def close (stamp : String) (row : AuthenticationLog Id) : AuthenticationLog Id :=
  { row with logoutAt := some stamp, updatedAt := stamp }

def standaloneRow (event : AuthLogEvent) (id : Id) (stamp : String) : AuthenticationLog Id where
  id := id
  userId := event.userId
  email := event.email
  guardName := event.guardName
  event := event.kind.asStr
  ipAddress := event.ipAddress
  userAgent := event.userAgent
  successful := true
  loginAt := none
  logoutAt := some stamp
  createdAt := stamp
  updatedAt := stamp

def insertStandaloneLogout (table : Table Id) (event : AuthLogEvent) (id : Id) (stamp : String) :
    Table Id :=
  table ++ [standaloneRow event id stamp]

/-- Stamp the open rows of the identity, or insert a row. -/
def recordLogout (table : Table Id) (event : AuthLogEvent) (id : Id) (stamp : String) : Table Id :=
  match logoutMatch event with
  | some matched =>
    if 0 < table.countP (isOpenFor matched) then
      table.map fun row =>
        if isOpenFor matched row then close stamp row else row
    else insertStandaloneLogout table event id stamp
  | none => insertStandaloneLogout table event id stamp

/-! ## New devices -/

/-- What the notifier is told. -/
structure Notice where
  userId : String
  email : Option String
  ipAddress : String
  userAgent : Option String

def isLoginFrom (userId ipAddress : String) (row : AuthenticationLog Id) : Bool :=
  decide (row.userId = some userId) && decide (row.ipAddress = some ipAddress) && row.successful

def isSeen [DecidableEq Id] (userId ipAddress : String) (excludeId : Id)
    (row : AuthenticationLog Id) : Bool :=
  isLoginFrom userId ipAddress row && decide (row.id ≠ excludeId)

/-- Whether the user has no other successful row from the address. -/
def isFirstLoginFromIp [DecidableEq Id] (table : Table Id) (userId ipAddress : String)
    (excludeId : Id) : Bool :=
  !table.any (isSeen userId ipAddress excludeId)

def notifyNewDevice [DecidableEq Id] (notifierInstalled : Bool) (table : Table Id)
    (event : AuthLogEvent) (id : Id) : Option Notice :=
  match notifierInstalled, event.userId, event.ipAddress with
  | true, some userId, some ipAddress =>
    if isFirstLoginFromIp table userId ipAddress id then
      some ⟨userId, event.email, ipAddress, event.userAgent⟩
    else none
  | _, _, _ => none

/-- Persist one event, and notify after a successful login. -/
def record [DecidableEq Id] (notifierInstalled : Bool) (table : Table Id)
    (event : AuthLogEvent) (id : Id) (stamp : String) : Table Id × Option Notice :=
  match event.kind with
  | .logout => (recordLogout table event id stamp, none)
  | .loginSucceeded =>
    let after := insertEvent table event id stamp
    (after, notifyNewDevice notifierInstalled after event id)
  | _ => (insertEvent table event id stamp, none)

/-!
## What a logout closes

A logout should close the latest open login of its identity and nothing else.
Its statement stamps every open row of the identity, of failed logins and
lockouts too, so it does what it should exactly when at most one row is open and
that row is a login.
-/

variable {Id : Type}

/-! ## Histories -/

/-- An event with the id and the time that its row gets. -/
structure Entry (Id : Type) where
  event : AuthLogEvent
  id : Id
  stamp : String
  deriving DecidableEq

def Entry.isLogout (entry : Entry Id) : Bool := decide (entry.event.kind = .logout)

def Entry.recordOn [DecidableEq Id] (notifierInstalled : Bool) (table : Table Id)
    (entry : Entry Id) : Table Id :=
  (record notifierInstalled table entry.event entry.id entry.stamp).1

def tableAfter [DecidableEq Id] (notifierInstalled : Bool) (history : List (Entry Id)) : Table Id :=
  history.foldl (Entry.recordOn notifierInstalled) []

def isClosed (row : AuthenticationLog Id) : Bool := row.logoutAt.isSome

/-! ## What a logout should do -/

def openRows (table : Table Id) (event : AuthLogEvent) : Table Id :=
  match logoutMatch event with
  | some matched => table.filter (isOpenFor matched)
  | none => []

/-- An open successful login of the identity that logs out. -/
def IsOpenLogin (event : AuthLogEvent) (row : AuthenticationLog Id) : Prop :=
  row.event = AuthLogEventKind.loginSucceeded.asStr ∧
    ∃ matched ∈ logoutMatch event, isOpenFor matched row

/-- Closing the latest open login, or inserting one row when there is none. -/
def ClosesLatest (table : Table Id) (event : AuthLogEvent) (id : Id) (stamp : String)
    (after : Table Id) : Prop :=
  (∃ earlier row later, table = earlier ++ row :: later ∧ IsOpenLogin event row ∧
        (∀ other ∈ later, ¬IsOpenLogin event other) ∧
        after = earlier ++ close stamp row :: later) ∨
    (∀ row ∈ table, ¬IsOpenLogin event row) ∧ after = table ++ [standaloneRow event id stamp]

/-- No row is open for the identity, or just one, which is a login. -/
def OpensOneLogin (table : Table Id) (event : AuthLogEvent) : Prop :=
  openRows table event = [] ∨
    ∃ row, openRows table event = [row] ∧ row.event = AuthLogEventKind.loginSucceeded.asStr

/-! ## One logout -/

@[simp] theorem isOpenFor_close (matched : MatchColumn × String) (stamp : String)
    (row : AuthenticationLog Id) : isOpenFor matched (close stamp row) = false := by
  simp [isOpenFor, close]

theorem filter_isOpenFor_map_close
    (matched : MatchColumn × String) (stamp : String) (table : Table Id) :
    (table.map fun row =>
        if isOpenFor matched row then close stamp row else row).filter
      (isOpenFor matched) = [] := by
  rw [filter_eq_nil_iff]
  intro row isIn
  obtain ⟨before, -, rfl⟩ := mem_map.mp isIn
  by_cases isOpen : isOpenFor matched before
  · simp [isOpen]
  · simp [isOpen]

variable {table : Table Id} {matched : MatchColumn × String}

theorem map_close_of_filter_nil
    (stamp : String) (noneOpen : table.filter (isOpenFor matched) = []) :
    (table.map fun row =>
        if isOpenFor matched row then close stamp row else row) = table := by
  rw [filter_eq_nil_iff] at noneOpen
  refine (map_congr_left fun row isIn => ?_).trans (map_id table)
  exact if_neg (noneOpen row isIn)

theorem exists_split_of_filter {row : AuthenticationLog Id} (stamp : String)
    (oneOpen : table.filter (isOpenFor matched) = [row]) :
    ∃ earlier later,
      table = earlier ++ row :: later ∧ isOpenFor matched row ∧
        (∀ other ∈ later, ¬isOpenFor matched other) ∧
        (table.map fun row =>
            if isOpenFor matched row then close stamp row else row) =
          earlier ++ close stamp row :: later := by
  obtain ⟨earlier, later, rfl, earlierClosed, isOpen, laterNil⟩ :=
    filter_eq_cons_iff.mp oneOpen
  have earlierNil : earlier.filter (isOpenFor matched) = [] :=
    filter_eq_nil_iff.mpr earlierClosed
  refine ⟨earlier, later, rfl, isOpen, filter_eq_nil_iff.mp laterNil, ?_⟩
  rw [map_append, map_cons, if_pos isOpen, map_close_of_filter_nil stamp earlierNil,
    map_close_of_filter_nil stamp laterNil]

/-- A logout closes the latest login exactly when no other row is open. -/
theorem closesLatest_recordLogout_iff
    (table : Table Id) (event : AuthLogEvent) (id : Id) (stamp : String) :
    ClosesLatest table event id stamp (recordLogout table event id stamp) ↔
      OpensOneLogin table event := by
  cases matches_ : logoutMatch event with
  | none =>
    have noLogin : ∀ row ∈ table, ¬IsOpenLogin event row := by
      rintro row - ⟨-, matched, isMatched, -⟩
      rw [matches_] at isMatched
      cases isMatched
    simp only [OpensOneLogin, openRows, recordLogout, matches_, true_or, iff_true]
    exact .inr ⟨noLogin, rfl⟩
  | some matched =>
    have isLogin_iff (row : AuthenticationLog Id) :
        IsOpenLogin event row ↔ row.event = AuthLogEventKind.loginSucceeded.asStr ∧
            isOpenFor matched row := by
      simp [IsOpenLogin, matches_]
    simp only [OpensOneLogin, openRows, recordLogout, matches_, countP_eq_length_filter]
    cases opened : table.filter (isOpenFor matched) with
    | nil =>
      have noLogin : ∀ row ∈ table, ¬IsOpenLogin event row := by
        intro row isIn isLogin
        exact filter_eq_nil_iff.mp opened row isIn ((isLogin_iff row).mp isLogin).2
      simp only [true_or, iff_true]
      exact .inr ⟨noLogin, rfl⟩
    | cons row rest =>
      rw [if_pos (length_pos_of_ne_nil (cons_ne_nil row rest))]
      constructor
      · rintro (⟨earlier, closed, later, rfl, isLogin, -, after⟩ |
          ⟨-, after⟩)
        · have noneOpen := filter_isOpenFor_map_close matched stamp
            (earlier ++ closed :: later)
          rw [after, filter_append,
            filter_cons_of_neg (by simp), append_eq_nil_iff]
            at noneOpen
          have closedLogin := (isLogin_iff closed).mp isLogin
          rw [filter_append, noneOpen.1,
            filter_cons_of_pos closedLogin.2, noneOpen.2] at opened
          obtain ⟨rfl, rfl⟩ := List.cons.inj opened
          exact .inr ⟨closed, rfl, closedLogin.1⟩
        · have sameLength := congrArg List.length after
          simp at sameLength
      · rintro (isNil | ⟨only, isOnly, onlyLogin⟩)
        · cases isNil
        · obtain ⟨rfl, rfl⟩ := List.cons.inj isOnly
          obtain ⟨earlier, later, tableIs, isOpen, laterClosed, after⟩ :=
            exists_split_of_filter stamp opened
          refine .inl ⟨earlier, row, later, tableIs,
            (isLogin_iff row).mpr ⟨onlyLogin, isOpen⟩, ?_, after⟩
          intro other isIn isLogin
          exact laterClosed other isIn ((isLogin_iff other).mp isLogin).2

/-! ## What each event adds -/

variable [DecidableEq Id] {notifierInstalled : Bool} {entry : Entry Id}

theorem recordOn_of_not_logout (other : ¬entry.isLogout) :
    entry.recordOn notifierInstalled table =
      insertEvent table entry.event entry.id entry.stamp := by
  unfold Entry.recordOn record
  cases kindIs : entry.event.kind with
  | logout => simp [Entry.isLogout, kindIs] at other
  | loginSucceeded => rfl
  | loginFailed => rfl
  | lockout => rfl

theorem recordOn_of_logout (isLogout : entry.isLogout) :
    entry.recordOn notifierInstalled table =
      recordLogout table entry.event entry.id entry.stamp := by
  unfold Entry.recordOn record
  rw [of_decide_eq_true isLogout]

theorem tableAfter_append_singleton (history : List (Entry Id)) (entry : Entry Id) :
    tableAfter notifierInstalled (history ++ [entry]) =
      entry.recordOn notifierInstalled (tableAfter notifierInstalled history) := by
  unfold tableAfter
  rw [foldl_append, foldl_cons, foldl_nil]

def ClosedWasOpened (row : AuthenticationLog Id) : Prop :=
  isClosed row → row.event = AuthLogEventKind.loginSucceeded.asStr ∨
      row.event = AuthLogEventKind.logout.asStr

variable {event : AuthLogEvent} {id : Id} {stamp : String}

omit [DecidableEq Id] in
theorem ClosesLatest.countP_isClosed {table after : Table Id}
    (closes : ClosesLatest table event id stamp after) :
    after.countP isClosed = table.countP isClosed + 1 := by
  rcases closes with ⟨earlier, row, later, rfl, ⟨-, matched, -, isOpen⟩, -, rfl⟩ | ⟨-, rfl⟩
  · have wasOpen : ¬isClosed row := by
      have isNone := (Bool.and_eq_true_iff.mp isOpen).2
      simp [isClosed, Option.isNone_iff_eq_none.mp isNone]
    have isNow : isClosed (close stamp row) := rfl
    rw [countP_append, countP_append, countP_cons_of_pos isNow,
      countP_cons_of_neg wasOpen, Nat.add_assoc]
  · exact countP_append

omit [DecidableEq Id] in
theorem ClosesLatest.closedWasOpened {table after : Table Id} (isLogout : event.kind = .logout)
    (closes : ClosesLatest table event id stamp after)
    (before : ∀ row ∈ table, ClosedWasOpened row) : ∀ row ∈ after, ClosedWasOpened row := by
  rcases closes with ⟨earlier, closed, later, rfl, ⟨isLogin, -⟩, -, rfl⟩ | ⟨-, rfl⟩
  · intro row isIn
    rcases mem_append.mp isIn with isEarlier | isLater
    · exact before row (mem_append_left _ isEarlier)
    · rcases mem_cons.mp isLater with rfl | isLater
      · exact fun _ => .inl isLogin
      · exact before row (mem_append_right _ (mem_cons_of_mem _ isLater))
  · intro row isIn
    rcases mem_append.mp isIn with isOld | isNew
    · exact before row isOld
    · obtain rfl := mem_singleton.mp isNew
      exact fun _ => .inr (congrArg AuthLogEventKind.asStr isLogout)

/-! ## Histories of events -/

/-- Every logout of the history meets the condition before it. -/
def LogoutsFindOneLogin (notifierInstalled : Bool) (history : List (Entry Id)) : Prop :=
  ∀ earlier entry later, history = earlier ++ entry :: later →
    entry.isLogout → OpensOneLogin (tableAfter notifierInstalled earlier) entry.event

def LogoutsCloseLatest (notifierInstalled : Bool) (history : List (Entry Id)) : Prop :=
  ∀ earlier entry later, history = earlier ++ entry :: later →
    entry.isLogout → ClosesLatest (tableAfter notifierInstalled earlier) entry.event entry.id
        entry.stamp (tableAfter notifierInstalled (earlier ++ [entry]))

theorem logoutsCloseLatest_iff (history : List (Entry Id)) :
    LogoutsCloseLatest notifierInstalled history ↔
      LogoutsFindOneLogin notifierInstalled history := by
  refine forall_congr' fun earlier => forall_congr' fun entry =>
    forall_congr' fun later => forall_congr' fun _ => forall_congr' fun isLogout => ?_
  rw [tableAfter_append_singleton, recordOn_of_logout isLogout]
  exact closesLatest_recordLogout_iff _ _ _ _

theorem counts_of_logoutsCloseLatest {history : List (Entry Id)}
    (closes : LogoutsCloseLatest notifierInstalled history) :
    (tableAfter notifierInstalled history).countP isClosed = history.countP Entry.isLogout ∧
    ∀ row ∈ tableAfter notifierInstalled history, ClosedWasOpened row := by
  induction history using List.reverseRecOn with
  | nil => exact ⟨rfl, fun row isIn => absurd isIn not_mem_nil⟩
  | append_singleton history entry ih =>
    have closesBefore : LogoutsCloseLatest notifierInstalled history := by
      rintro earlier other later rfl
      exact closes earlier other (later ++ [entry]) (by simp)
    obtain ⟨countBefore, openedBefore⟩ := ih closesBefore
    by_cases isLogout : entry.isLogout
    · have closesNow := closes history entry [] rfl isLogout
      refine ⟨?_, closesNow.closedWasOpened (of_decide_eq_true isLogout) openedBefore⟩
      rw [closesNow.countP_isClosed, countBefore, countP_append,
        countP_singleton, if_pos isLogout]
    · rw [tableAfter_append_singleton, recordOn_of_not_logout isLogout]
      constructor
      · have isOpen : ¬isClosed (loginRow entry.event entry.id entry.stamp) := Bool.false_ne_true
        rw [insertEvent, countP_append, countP_append, countP_singleton,
          countP_singleton, if_neg isOpen, if_neg isLogout, countBefore]
      · intro row isIn
        rcases mem_append.mp isIn with isOld | isNew
        · exact openedBefore row isOld
        · obtain rfl := mem_singleton.mp isNew
          exact fun closed => absurd closed Bool.false_ne_true

/--
The logouts of a history close the latest login of their identity or insert a
row, the closed rows are as many as the logouts, and none is of a failed login
or a lockout: exactly when every logout finds no open row of its identity, or
just one, which is a login.
-/
theorem logouts_close_the_latest_login_iff (notifierInstalled : Bool) (history : List (Entry Id)) :
    (LogoutsCloseLatest notifierInstalled history ∧
      ∀ earlier later, history = earlier ++ later →
        (tableAfter notifierInstalled earlier).countP isClosed = earlier.countP Entry.isLogout ∧
        ∀ row ∈ tableAfter notifierInstalled earlier, isClosed row →
          row.event ≠ AuthLogEventKind.loginFailed.asStr ∧
            row.event ≠ AuthLogEventKind.lockout.asStr) ↔
      LogoutsFindOneLogin notifierInstalled history := by
  rw [← logoutsCloseLatest_iff]
  refine ⟨And.left, fun closes => ⟨closes, ?_⟩⟩
  rintro earlier later rfl
  have closesEarlier : LogoutsCloseLatest notifierInstalled earlier := by
    rintro first entry rest rfl
    exact closes first entry (rest ++ later) (by simp)
  obtain ⟨counted, opened⟩ := counts_of_logoutsCloseLatest closesEarlier
  refine ⟨counted, fun row isIn closed => ?_⟩
  rcases opened row isIn closed with isLogin | isLogout
  · rw [isLogin]
    decide
  · rw [isLogout]
    decide

/-! ## Two sessions -/

def userEvent (kind : AuthLogEventKind) (userId : Option String) : AuthLogEvent where
  kind := kind
  userId := userId
  email := some "ada@example.com"
  guardName := some "session"
  ipAddress := some "1.2.3.4"
  userAgent := none

def twoSessions : List (Entry Nat) :=
  [⟨userEvent .loginSucceeded (some "user-1"), 1, "08:00"⟩,
    ⟨userEvent .loginSucceeded (some "user-1"), 2, "09:00"⟩,
    ⟨userEvent .logout (some "user-1"), 3, "10:00"⟩]

/-- A login that fails, and a logout that knows the email only. -/
def failedThenLogout : List (Entry Nat) :=
  [⟨userEvent .loginFailed none, 1, "08:00"⟩, ⟨userEvent .logout none, 2, "09:00"⟩]

/--
One logout closes both sessions of a user; a logout by email closes a failed
login.
-/
theorem one_logout_closes_several_rows :
    ((tableAfter true twoSessions).countP isClosed = 2 ∧ twoSessions.countP Entry.isLogout = 1) ∧
    (tableAfter true failedThenLogout).map (fun row => (row.event, row.logoutAt)) =
        [("login_failed", some "09:00")] := by
  decide +kernel

end Rustasea.Authlog
