import Mathlib.Data.List.Nodup
import Rustasea.Authlog.Logouts
import Rustasea.Library.TransitionSystem

namespace Rustasea.Authlog

open List

open TransitionSystem (ReachableAlong reachable_of_run?
  reachableAlong_of_runAlong? run? runAlong? runAlong?_or_exists_bad)

/-!
# Logins from a new address

Calls that record successful logins interleave: each inserts its row, and later
asks whether the table holds another row of its user and address.  The notifier
is told of an address exactly once unless a second login is inserted between the
two statements of the first one; it is then never told.
-/

variable {Id : Type} [DecidableEq Id]

/-! ## Interleaved calls -/

/-- A call to record an event, with the id its row gets. -/
structure Call (Id : Type) where
  event : AuthLogEvent
  id : Id
  deriving DecidableEq

/-- The log, the calls between their two statements, and what was notified. -/
structure World (Id : Type) where
  table : Table Id
  waiting : List (Call Id)
  notices : List Notice

def World.initial : World Id where
  table := []
  waiting := []
  notices := []

/-- The statements of the calls. -/
inductive Action (Id : Type) where
  | insert (call : Call Id) (stamp : String)
  | lookup (call : Call Id)

def World.insert (world : World Id) (call : Call Id) (stamp : String) : World Id :=
  {
    world with
    table := insertEvent world.table call.event call.id stamp
    waiting := world.waiting ++ [call]
  }

/-- The call looks for an earlier login, and notifies when there is none. -/
def World.lookup (world : World Id) (call : Call Id) : World Id :=
  {
    world with
    waiting := world.waiting.erase call
    notices := world.notices ++ (notifyNewDevice true world.table call.event call.id).toList
  }

/-- One statement of a call for a successful login; every id is a new one. -/
def step? (world : World Id) : Action Id → Option (World Id)
  | .insert call stamp =>
    if call.event.kind = .loginSucceeded ∧ call.id ∉ world.table.map AuthenticationLog.id then
      some (world.insert call stamp)
    else none
  | .lookup call =>
    if call ∈ world.waiting then some (world.lookup call) else none

/-! ## Logins and notices of an address -/

def logins (userId ipAddress : String) (table : Table Id) : Table Id :=
  table.filter (isLoginFrom userId ipAddress)

/-- How often the notifier was told of a user at an address. -/
def noticed (userId ipAddress : String) (notices : List Notice) : Nat :=
  notices.countP fun notice =>
    decide (notice.userId = userId) && decide (notice.ipAddress = ipAddress)

def World.Waits (world : World Id) (id : Id) : Prop :=
  ∃ call ∈ world.waiting, call.id = id

instance
    (world : World Id) (id : Id) : Decidable (world.Waits id) :=
  inferInstanceAs (Decidable (∃ call ∈ world.waiting, call.id = id))

/--
The login is not the second of its user and address while the first has not
looked yet.
-/
def Timely (world : World Id) : Action Id → Prop
  | .insert call _ =>
    ∀ userId ∈ call.event.userId, ∀ ipAddress ∈ call.event.ipAddress,
        ¬∃ row ∈ world.table, logins userId ipAddress world.table = [row] ∧ world.Waits row.id
  | .lookup _ => True

instance
    (world : World Id) (action : Action Id) : Decidable (Timely world action) := by
  cases action with
  | insert call stamp =>
    unfold Timely
    infer_instance
  | lookup call => exact isTrue trivial

variable {call : Call Id}

omit [DecidableEq Id] in
theorem isLoginFrom_loginRow {stamp userId ipAddress : String}
    (isLogin : call.event.kind = .loginSucceeded) :
    isLoginFrom userId ipAddress (loginRow call.event call.id stamp) = true ↔
      call.event.userId = some userId ∧ call.event.ipAddress = some ipAddress := by
  simp [isLoginFrom, loginRow, isLogin, AuthLogEventKind.isSuccessful]

variable {table : Table Id}

theorem notifyNewDevice_eq_some_iff {notice : Notice} :
    notifyNewDevice true table call.event call.id = some notice ↔
      call.event.userId = some notice.userId ∧ call.event.ipAddress = some notice.ipAddress ∧
      (∀ row ∈ logins notice.userId notice.ipAddress table, row.id = call.id) ∧
      notice.email = call.event.email ∧ notice.userAgent = call.event.userAgent := by
  have first_iff (userId ipAddress : String) :
      isFirstLoginFromIp table userId ipAddress call.id = true ↔
        ∀ row ∈ logins userId ipAddress table, row.id = call.id := by
    simp [isFirstLoginFromIp, isSeen, logins]
  obtain ⟨userId, email, ipAddress, userAgent⟩ := notice
  unfold notifyNewDevice
  cases user : call.event.userId with
  | none => simp
  | some ownUser =>
    cases address : call.event.ipAddress with
    | none => simp
    | some ownAddress =>
      simp only [Option.ite_none_right_eq_some, Option.some.injEq, Notice.mk.injEq, first_iff]
      constructor
      · rintro ⟨isFirst, rfl, rfl, rfl, rfl⟩
        exact ⟨rfl, rfl, isFirst, rfl, rfl⟩
      · rintro ⟨rfl, rfl, isFirst, rfl, rfl⟩
        exact ⟨isFirst, rfl, rfl, rfl, rfl⟩

/-! ## Calls and their rows -/

/-- Every row has its own id, and every waiting call has its row. -/
structure Formed (world : World Id) : Prop where
  ids : (world.table.map AuthenticationLog.id).Nodup
  calls : world.waiting.Nodup
  inserted : ∀ call ∈ world.waiting,
      call.event.kind = .loginSucceeded ∧ ∃ stamp, loginRow call.event call.id stamp ∈ world.table
  looked : ∀ notice ∈ world.notices,
      ∃ row ∈ logins notice.userId notice.ipAddress world.table, ¬world.Waits row.id

omit [DecidableEq Id] in
theorem formed_initial : Formed (World.initial : World Id) where
  ids := nodup_nil
  calls := nodup_nil
  inserted _ isIn := absurd isIn not_mem_nil
  looked _ isIn := absurd isIn not_mem_nil

variable {world : World Id}

omit [DecidableEq Id] in
theorem Formed.eq_of_id (formed : Formed world)
    {first second : AuthenticationLog Id} (firstIn : first ∈ world.table)
    (secondIn : second ∈ world.table) (sameId : first.id = second.id) : first = second :=
  inj_on_of_nodup_map formed.ids firstIn secondIn sameId

omit [DecidableEq Id] in
theorem Formed.call_eq_of_id (formed : Formed world) {first second : Call Id}
    (firstIn : first ∈ world.waiting) (secondIn : second ∈ world.waiting)
    (sameId : first.id = second.id) : first = second := by
  obtain ⟨firstLogin, firstStamp, firstRow⟩ := formed.inserted first firstIn
  obtain ⟨secondLogin, secondStamp, secondRow⟩ := formed.inserted second secondIn
  have sameRow := formed.eq_of_id firstRow secondRow sameId
  obtain ⟨⟨firstKind, _, _, _, _, _⟩, _⟩ := first
  obtain ⟨⟨secondKind, _, _, _, _, _⟩, _⟩ := second
  simp only [loginRow] at sameRow
  simp_all

omit [DecidableEq Id] in
theorem logins_insert (world : World Id) (call : Call Id) (stamp userId ipAddress : String) :
    logins userId ipAddress (world.insert call stamp).table = logins userId ipAddress world.table ++
      [loginRow call.event call.id stamp].filter (isLoginFrom userId ipAddress) :=
  filter_append _ _

omit [DecidableEq Id] in
theorem waits_insert_iff {stamp : String} {id : Id} :
    (world.insert call stamp).Waits id ↔ world.Waits id ∨ call.id = id := by
  simp [World.Waits, World.insert]

theorem waits_lookup_iff (formed : Formed world) (waits : call ∈ world.waiting) {id : Id} :
    (world.lookup call).Waits id ↔ world.Waits id ∧ id ≠ call.id := by
  constructor
  · rintro ⟨other, isIn, rfl⟩
    obtain ⟨isOther, isWaiting⟩ := formed.calls.mem_erase_iff.mp isIn
    refine ⟨⟨other, isWaiting, rfl⟩, fun sameId => isOther ?_⟩
    exact formed.call_eq_of_id isWaiting waits sameId
  · rintro ⟨⟨other, isWaiting, rfl⟩, otherId⟩
    refine ⟨other, formed.calls.mem_erase_iff.mpr ⟨?_, isWaiting⟩, rfl⟩
    rintro rfl
    exact otherId rfl

variable {row : AuthenticationLog Id}

omit [DecidableEq Id] in
theorem ne_of_fresh {id : Id} (fresh : id ∉ table.map AuthenticationLog.id)
    (isIn : row ∈ table) : id ≠ row.id := by
  rintro rfl
  exact fresh (mem_map_of_mem isIn)

omit [DecidableEq Id] in
theorem mem_of_mem_logins {userId ipAddress : String}
    (isLogin : row ∈ logins userId ipAddress table) : row ∈ table :=
  (mem_filter.mp isLogin).1

omit [DecidableEq Id] in
theorem Formed.insert (formed : Formed world)
    (stamp : String) (isLogin : call.event.kind = .loginSucceeded)
    (fresh : call.id ∉ world.table.map AuthenticationLog.id) :
    Formed (world.insert call stamp) where
  ids := by
    change ((world.table ++ [_]).map AuthenticationLog.id).Nodup
    rw [map_append]
    exact nodup_append.mpr
      ⟨formed.ids, nodup_singleton _, by
        rintro id isOld other isNew rfl
        obtain rfl := mem_singleton.mp isNew
        exact fresh isOld⟩
  calls := by
    refine nodup_append.mpr ⟨formed.calls, nodup_singleton _, ?_⟩
    rintro other isOld new isNew rfl
    obtain rfl := mem_singleton.mp isNew
    obtain ⟨-, otherStamp, isIn⟩ := formed.inserted other isOld
    exact ne_of_fresh fresh isIn rfl
  inserted := by
    intro other isIn
    rcases mem_append.mp isIn with isOld | isNew
    · obtain ⟨otherLogin, otherStamp, hasRow⟩ := formed.inserted other isOld
      exact ⟨otherLogin, otherStamp, mem_append_left _ hasRow⟩
    · obtain rfl := mem_singleton.mp isNew
      exact ⟨isLogin, stamp, mem_append_right _ (mem_singleton_self _)⟩
  looked := by
    intro notice isIn
    obtain ⟨row, isLoginRow, notWaits⟩ := formed.looked notice isIn
    refine ⟨row, ?_, ?_⟩
    · rw [logins_insert]
      exact mem_append_left _ isLoginRow
    · rw [waits_insert_iff, not_or]
      exact ⟨notWaits, ne_of_fresh fresh (mem_of_mem_logins isLoginRow)⟩

theorem Formed.lookup (formed : Formed world) (waits : call ∈ world.waiting) :
    Formed (world.lookup call) where
  ids := formed.ids
  calls := formed.calls.erase call
  inserted other isIn := formed.inserted other (mem_of_mem_erase isIn)
  looked := by
    intro notice isIn
    rcases mem_append.mp isIn with isOld | isNew
    · obtain ⟨row, isLoginRow, notWaits⟩ := formed.looked notice isOld
      refine ⟨row, isLoginRow, fun waitsAfter => notWaits ?_⟩
      exact ((waits_lookup_iff formed waits).mp waitsAfter).1
    · have told := Option.mem_toList.mp isNew
      obtain ⟨user, address, -⟩ := notifyNewDevice_eq_some_iff.mp told
      obtain ⟨isLogin, stamp, hasRow⟩ := formed.inserted call waits
      refine ⟨_, mem_filter.mpr ⟨hasRow, ?_⟩, fun waitsAfter => ?_⟩
      · exact (isLoginFrom_loginRow isLogin).mpr ⟨user, address⟩
      · exact ((waits_lookup_iff formed waits).mp waitsAfter).2 rfl

variable {action : Action Id}

theorem step?_cases {world after : World Id} (taken : step? world action = some after) :
    (∃ call stamp, action = .insert call stamp ∧ call.event.kind = .loginSucceeded ∧
      call.id ∉ world.table.map AuthenticationLog.id ∧ after = world.insert call stamp) ∨
      ∃ call, action = .lookup call ∧ call ∈ world.waiting ∧ after = world.lookup call := by
  cases action with
  | insert call stamp =>
    obtain ⟨⟨isLogin, fresh⟩, isAfter⟩ := Option.ite_none_right_eq_some.mp taken
    obtain rfl := Option.some.inj isAfter
    exact .inl ⟨call, stamp, rfl, isLogin, fresh, rfl⟩
  | lookup call =>
    obtain ⟨waits, isAfter⟩ := Option.ite_none_right_eq_some.mp taken
    obtain rfl := Option.some.inj isAfter
    exact .inr ⟨call, rfl, waits, rfl⟩

theorem Formed.step {world after : World Id} (formed : Formed world)
    (taken : step? world action = some after) : Formed after := by
  obtain ⟨call, stamp, -, isLogin, fresh, rfl⟩ | ⟨call, -, waits, rfl⟩ := step?_cases taken
  · exact formed.insert stamp isLogin fresh
  · exact formed.lookup waits

/-! ## The stages of an address -/

/-- How far the logins of a user at an address have come, on time. -/
inductive Stage (world : World Id) (userId ipAddress : String) : Prop where
  | unseen (none : logins userId ipAddress world.table = [])
      (untold : noticed userId ipAddress world.notices = 0)
  | looking (row : AuthenticationLog Id) (only : logins userId ipAddress world.table = [row])
      (waits : world.Waits row.id) (untold : noticed userId ipAddress world.notices = 0)
  | told (row : AuthenticationLog Id) (isLogin : row ∈ logins userId ipAddress world.table)
      (looked : ¬world.Waits row.id) (once : noticed userId ipAddress world.notices = 1)

/-- Several logins, none of them noticed. -/
structure Missed (world : World Id) (userId ipAddress : String) : Prop where
  several : 2 ≤ (logins userId ipAddress world.table).length
  untold : noticed userId ipAddress world.notices = 0

def Call.IsFrom (call : Call Id) (userId ipAddress : String) : Prop :=
  call.event.userId = some userId ∧ call.event.ipAddress = some ipAddress

instance
    (call : Call Id) (userId ipAddress : String) : Decidable (call.IsFrom userId ipAddress) :=
  inferInstanceAs (Decidable (_ ∧ _))

section Stages

variable {world : World Id} {call : Call Id} {stamp userId ipAddress : String}

omit [DecidableEq Id] in
theorem logins_insert_of_isFrom (isLogin : call.event.kind = .loginSucceeded)
    (isFrom : call.IsFrom userId ipAddress) :
    logins userId ipAddress (world.insert call stamp).table =
      logins userId ipAddress world.table ++ [loginRow call.event call.id stamp] := by
  have isLoginRow : isLoginFrom userId ipAddress (loginRow call.event call.id stamp) :=
    (isLoginFrom_loginRow isLogin).mpr isFrom
  rw [logins_insert, filter_cons_of_pos isLoginRow, filter_nil]

omit [DecidableEq Id] in
theorem logins_insert_of_not_isFrom (isLogin : call.event.kind = .loginSucceeded)
    (notFrom : ¬call.IsFrom userId ipAddress) :
    logins userId ipAddress (world.insert call stamp).table =
      logins userId ipAddress world.table := by
  have otherRow : ¬isLoginFrom userId ipAddress (loginRow call.event call.id stamp) :=
    fun isFrom => notFrom ((isLoginFrom_loginRow isLogin).mp isFrom)
  rw [logins_insert, filter_cons_of_neg otherRow, filter_nil, append_nil]

theorem noticed_append (first second : List Notice) :
    noticed userId ipAddress (first ++ second) =
      noticed userId ipAddress first + noticed userId ipAddress second :=
  countP_append

theorem noticed_lookup_of_first (isFrom : call.IsFrom userId ipAddress)
    (first : ∀ row ∈ logins userId ipAddress world.table, row.id = call.id) :
    noticed userId ipAddress (world.lookup call).notices =
      noticed userId ipAddress world.notices + 1 := by
  have told : notifyNewDevice true world.table call.event call.id =
      some ⟨userId, call.event.email, ipAddress, call.event.userAgent⟩ :=
    notifyNewDevice_eq_some_iff.mpr ⟨isFrom.1, isFrom.2, first, rfl, rfl⟩
  unfold World.lookup
  rw [told]
  exact (noticed_append _ _).trans (by simp [noticed])

theorem noticed_lookup_of_seen
    (seen : call.IsFrom userId ipAddress →
      ∃ row ∈ logins userId ipAddress world.table, row.id ≠ call.id) :
    noticed userId ipAddress (world.lookup call).notices = noticed userId ipAddress world.notices := by
  have notTold : noticed userId ipAddress
        (notifyNewDevice true world.table call.event call.id).toList =
      0 := by
    refine countP_eq_zero.mpr fun notice isIn isOf => ?_
    obtain ⟨user, address, first, -⟩ := notifyNewDevice_eq_some_iff.mp (Option.mem_toList.mp isIn)
    simp only [Bool.and_eq_true, decide_eq_true_eq] at isOf
    obtain ⟨rfl, rfl⟩ := isOf
    obtain ⟨row, isLogin, otherId⟩ := seen ⟨user, address⟩
    exact otherId (first row isLogin)
  exact (noticed_append _ _).trans (by rw [notTold]; rfl)

omit [DecidableEq Id] in
theorem exists_own_login (formed : Formed world) (waits : call ∈ world.waiting) :
    ∃ row ∈ world.table, row.id = call.id ∧
      (call.IsFrom userId ipAddress ↔ row ∈ logins userId ipAddress world.table) := by
  obtain ⟨isLogin, stamp, hasRow⟩ := formed.inserted call waits
  refine ⟨_, hasRow, rfl, ?_⟩
  rw [logins, mem_filter, and_iff_right hasRow, isLoginFrom_loginRow isLogin]
  exact Iff.rfl

omit [DecidableEq Id] in
theorem Stage.insert (stage : Stage world userId ipAddress)
    (isLogin : call.event.kind = .loginSucceeded)
    (fresh : call.id ∉ world.table.map AuthenticationLog.id)
    (timely : Timely world (.insert call stamp)) :
    Stage (world.insert call stamp) userId ipAddress := by
  have waitsStill {row : AuthenticationLog Id} :
      world.Waits row.id → (world.insert call stamp).Waits row.id :=
    fun waits => waits_insert_iff.mpr (.inl waits)
  have looksStill {row : AuthenticationLog Id} (isIn : row ∈ logins userId ipAddress world.table)
      (looked : ¬world.Waits row.id) :
      ¬(world.insert call stamp).Waits row.id := by
    rw [waits_insert_iff, not_or]
    exact ⟨looked, ne_of_fresh fresh (mem_of_mem_logins isIn)⟩
  by_cases isFrom : call.IsFrom userId ipAddress
  · have loginsAre : logins userId ipAddress (world.insert call stamp).table =
        logins userId ipAddress world.table ++ [loginRow call.event call.id stamp] :=
      logins_insert_of_isFrom isLogin isFrom
    cases stage with
    | unseen none untold =>
      rw [none] at loginsAre
      exact .looking _ loginsAre (waits_insert_iff.mpr (.inr rfl)) untold
    | looking row only waits untold =>
      have isIn : row ∈ logins userId ipAddress world.table := by
        rw [only]
        exact mem_singleton_self row
      exact (timely userId isFrom.1 ipAddress isFrom.2
        ⟨row, mem_of_mem_logins isIn, only, waits⟩).elim
    | told row isIn looked once =>
      refine .told row ?_ (looksStill isIn looked) once
      rw [loginsAre]
      exact mem_append_left _ isIn
  · have loginsAre : logins userId ipAddress (world.insert call stamp).table =
        logins userId ipAddress world.table :=
      logins_insert_of_not_isFrom isLogin isFrom
    cases stage with
    | unseen none untold => exact .unseen (loginsAre.trans none) untold
    | looking row only waits untold =>
      exact .looking row (loginsAre.trans only) (waitsStill waits) untold
    | told row isIn looked once =>
      refine .told row ?_ (looksStill isIn looked) once
      rw [loginsAre]
      exact isIn

theorem Stage.lookup (formed : Formed world) (stage : Stage world userId ipAddress)
    (waits : call ∈ world.waiting) : Stage (world.lookup call) userId ipAddress := by
  obtain ⟨own, ownIn, ownId, isFrom_iff⟩ : ∃ own ∈ world.table,
      own.id = call.id ∧ (call.IsFrom userId ipAddress ↔
          own ∈ logins userId ipAddress world.table) :=
    exists_own_login formed waits
  cases stage with
  | unseen none untold =>
    refine .unseen none ?_
    rw [noticed_lookup_of_seen fun isFrom => ?_, untold]
    have isLogin := isFrom_iff.mp isFrom
    rw [none] at isLogin
    exact absurd isLogin not_mem_nil
  | looking row only rowWaits untold =>
    have rowIn : row ∈ logins userId ipAddress world.table := by
      rw [only]
      exact mem_singleton_self row
    by_cases isOwn : row.id = call.id
    · have rowIsOwn : row = own :=
        formed.eq_of_id (mem_of_mem_logins rowIn) ownIn (isOwn.trans ownId.symm)
      have isFrom := isFrom_iff.mpr (rowIsOwn ▸ rowIn)
      refine .told row rowIn ?_ ?_
      · rw [waits_lookup_iff formed waits]
        exact fun both => both.2 isOwn
      · rw [noticed_lookup_of_first isFrom, untold]
        intro other isOther
        rw [only, mem_singleton] at isOther
        rw [isOther, isOwn]
    · refine .looking row only ?_ ?_
      · exact (waits_lookup_iff formed waits).mpr ⟨rowWaits, isOwn⟩
      · rw [noticed_lookup_of_seen fun _ => ⟨row, rowIn, isOwn⟩, untold]
  | told row rowIn looked once =>
    have notOwn : row.id ≠ call.id := fun sameId => looked ⟨call, waits, sameId.symm⟩
    refine .told row rowIn ?_ ?_
    · exact fun waitsAfter => looked ((waits_lookup_iff formed waits).mp waitsAfter).1
    · rw [noticed_lookup_of_seen fun _ => ⟨row, rowIn, notOwn⟩, once]

theorem exists_other_login (formed : Formed world)
    (several : 2 ≤ (logins userId ipAddress world.table).length) (id : Id) :
    ∃ row ∈ logins userId ipAddress world.table, row.id ≠ id := by
  have distinct : ((logins userId ipAddress world.table).map AuthenticationLog.id).Nodup :=
    (filter_sublist.map _).nodup formed.ids
  obtain ⟨first, second, rest, loginsAre⟩ :
      ∃ first second rest, logins userId ipAddress world.table = first :: second :: rest := by
    match loginsAre : logins userId ipAddress world.table, several with
    | first :: second :: rest, _ => exact ⟨first, second, rest, rfl⟩
  rw [loginsAre] at distinct ⊢
  by_cases isFirst : first.id = id
  · refine ⟨second, by simp, fun isSecond => ?_⟩
    simp [isFirst, isSecond] at distinct
  · exact ⟨first, mem_cons_self, isFirst⟩

variable {after : World Id} {action : Action Id}

theorem Missed.step (formed : Formed world) (missed : Missed world userId ipAddress)
    (taken : step? world action = some after) : Missed after userId ipAddress := by
  obtain ⟨call, stamp, -, isLogin, fresh, rfl⟩ | ⟨call, -, waits, rfl⟩ := step?_cases taken
  · refine ⟨?_, missed.untold⟩
    rw [logins_insert, length_append]
    exact Nat.le_add_right_of_le missed.several
  · refine ⟨missed.several, ?_⟩
    have other := exists_other_login formed missed.several call.id
    rw [noticed_lookup_of_seen fun _ => other, missed.untold]

theorem missed_of_not_timely (formed : Formed world) (late : ¬Timely world action)
    (taken : step? world action = some after) :
    ∃ userId ipAddress, Missed after userId ipAddress := by
  obtain ⟨call, stamp, rfl, isLogin, fresh, rfl⟩ | ⟨call, rfl, waits, rfl⟩ := step?_cases taken
  · simp only [Timely, not_forall, not_not] at late
    obtain ⟨userId, isUser, ipAddress, isAddress, row, -, only, waits⟩ := late
    refine ⟨userId, ipAddress, ?_, ?_⟩
    · rw [logins_insert_of_isFrom isLogin ⟨isUser, isAddress⟩, only]
      exact Nat.le_refl 2
    · refine countP_eq_zero.mpr fun notice isIn isOf => ?_
      simp only [Bool.and_eq_true, decide_eq_true_eq] at isOf
      obtain ⟨rfl, rfl⟩ := isOf
      obtain ⟨other, isLoginRow, looked⟩ := formed.looked notice isIn
      rw [only, mem_singleton] at isLoginRow
      exact looked (isLoginRow ▸ waits)
  · exact absurd trivial late

end Stages

/-! ## Whole runs -/

theorem formed_of_reachable {good : World Id → Action Id → Prop} {start world : World Id}
    (formed : Formed start) (reached : ReachableAlong step? good start world) : Formed world :=
  reached.invariant Formed formed fun _ _ _ formed _ taken => formed.step taken

theorem stage_of_reachable (reached : ReachableAlong step? Timely World.initial world)
    (userId ipAddress : String) : Stage world userId ipAddress := by
  refine
    reached.invariant_of_reachable (fun world => Stage world userId ipAddress) (.unseen rfl rfl) ?_
  intro before action after reachedBefore stage timely taken
  obtain ⟨call, stamp, rfl, isLogin, fresh, rfl⟩ | ⟨call, -, waits, rfl⟩ := step?_cases taken
  · exact stage.insert isLogin fresh timely
  · exact stage.lookup (formed_of_reachable formed_initial reachedBefore) waits

theorem missed_of_reachable {start world : World Id} {userId ipAddress : String}
    (formed : Formed start) (missed : Missed start userId ipAddress)
    (reached : ReachableAlong step? (fun _ _ => True) start world) :
    Missed world userId ipAddress := by
  refine reached.invariant_of_reachable (fun world => Missed world userId ipAddress) missed ?_
  intro before action after reachedBefore missedBefore _ taken
  exact missedBefore.step (formed_of_reachable formed reachedBefore) taken

/--
Over a whole run the notifier is told exactly once of every user and address
with a successful login, exactly when no second login of an address is inserted
while the first one has not looked for an earlier login yet.
-/
theorem new_devices_are_noticed_once_iff (actions : List (Action Id)) (world : World Id)
    (ran : run? step? World.initial actions = some world) (finished : world.waiting = []) :
    (∀ userId ipAddress, logins userId ipAddress world.table ≠ [] →
      noticed userId ipAddress world.notices = 1) ↔
      runAlong? step? Timely World.initial actions = some world := by
  constructor
  · intro once
    have atStart : ReachableAlong step? Timely (World.initial : World Id) World.initial := .start
    rcases runAlong?_or_exists_bad atStart ran with
      timely | ⟨before, action, after, rest, reached, late, taken, ranRest⟩
    · exact timely
    · have formed := formed_of_reachable formed_initial reached
      obtain ⟨userId, ipAddress, missed⟩ := missed_of_not_timely formed late taken
      have missedAtEnd := missed_of_reachable (formed.step taken) missed (reachable_of_run? ranRest)
      have someLogin : logins userId ipAddress world.table ≠ [] :=
        ne_nil_of_length_pos (Nat.lt_of_lt_of_le Nat.zero_lt_two missedAtEnd.several)
      have told := once userId ipAddress someLogin
      rw [missedAtEnd.untold] at told
      cases told
  · intro timely userId ipAddress someLogin
    have reached := reachableAlong_of_runAlong? .start timely
    cases stage_of_reachable reached userId ipAddress with
    | unseen none untold => exact absurd none someLogin
    | looking row only waits untold =>
      obtain ⟨call, isIn, -⟩ := waits
      rw [finished] at isIn
      cases isIn
    | told row isLogin looked once => exact once

/-! ## Two logins at once -/

def deviceLogin (id : Nat) : Call Nat where
  event := {
    kind := .loginSucceeded
    userId := some "user-1"
    email := some "ada@example.com"
    guardName := some "session"
    ipAddress := some "1.2.3.4"
    userAgent := some "test-agent"
  }
  id := id

def loginsInTurn : List (Action Nat) :=
  [.insert (deviceLogin 1) "08:00", .lookup (deviceLogin 1),
    .insert (deviceLogin 2) "09:00", .lookup (deviceLogin 2)]

def loginsAtOnce : List (Action Nat) :=
  [.insert (deviceLogin 1) "08:00", .insert (deviceLogin 2) "08:00",
    .lookup (deviceLogin 1), .lookup (deviceLogin 2)]

theorem logins_in_turn_are_noticed_once :
    ∃ world : World Nat, run? step? World.initial loginsInTurn = some world ∧
      ∀ userId ipAddress,
          logins userId ipAddress world.table ≠ [] → noticed userId ipAddress world.notices = 1 :=
  ⟨_, rfl, (new_devices_are_noticed_once_iff loginsInTurn _ rfl rfl).mpr rfl⟩

/-- Two first logins at once see each other, and nobody is told. -/
theorem logins_at_once_are_never_noticed :
    ∃ world : World Nat, run? step? World.initial loginsAtOnce = some world ∧ world.waiting = [] ∧
      (logins "user-1" "1.2.3.4" world.table).length = 2 ∧
      noticed "user-1" "1.2.3.4" world.notices = 0 :=
  ⟨_, rfl, rfl, by decide +kernel, by decide +kernel⟩

end Rustasea.Authlog
