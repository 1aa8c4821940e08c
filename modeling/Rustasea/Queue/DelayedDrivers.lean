import Rustasea.Queue.DatabaseHistory
import Rustasea.Queue.RedisHistory

namespace Rustasea.Queue

open DelayedQueue

/-!
# Three drivers and one delayed multi-queue

Every driver hands out only what was pushed and is still waiting.  The redis and
the database driver keep the queues apart and keep a job back until the second,
or the microsecond, in which it is scheduled; the sync driver is one buffer,
emptied in the order of the pushes for whichever queue asks.
-/

variable {Json : Type}

/--
Along any calls the sync driver refines the queue that serves any job, in the
order of the pushes; with a clock that never goes back the redis driver refines
the one that keeps queues apart and jobs to the second; and in plain years the
database driver refines the one that keeps them to the microsecond.
-/
theorem drivers_refine_queues (codec : Codec (JobPayload Json) String) (keyPrefix : String) :
    (∀ calls : List (DriverCall Json Unit),
      Accepts (anyJob String (Option Instant) Instant)
        ((SyncDriver.stored Json).history [] calls) ∧
      SyncDriver.taken ((SyncDriver.stored Json).history [] calls) <+:
        (SyncDriver.pushed calls).map JobPayload.withoutId) ∧
    (∀ calls : List (DriverCall Json Unit), InOrder calls →
      Accepts (keptApart String RedisDriver.timestamp)
        ((RedisDriver.stored codec keyPrefix).history RedisDriver.noKeys calls)) ∧
    ∀ calls : List (DriverCall Json (Option (ClaimStatement × String))),
      (∀ call ∈ calls, DatabaseDriver.IsPlainCall call) →
      Accepts (keptApart String DatabaseDriver.timestampMicros)
        ((DatabaseDriver.stored codec).history DatabaseDriver.noRows calls) :=
  ⟨fun calls =>
      ⟨SyncDriver.accepts_anyJob calls, SyncDriver.taken_prefix calls []⟩,
    fun _ inOrder => RedisDriver.accepts_seconds codec keyPrefix inOrder,
    fun _ arePlain => DatabaseDriver.accepts_micros codec arePlain⟩

/-- A job for the mail queue, half a second after the tenth. -/
def lateMail : JobPayload String :=
  { RedisDriver.mailJob with availableAt := some 10500000000 }

/-- The job is pushed, and the queue popped at a clock reading. -/
def lateMailCalls {Fault : Type} (fault : Fault) (queue : String)
    (now : Instant) : List (DriverCall String Fault) :=
  [.push "a" 0 lateMail, .pop queue now fault]

theorem drivers_refine_queues_mail :
    (RedisDriver.stored (RedisDriver.payloadCodec .string) "queue:").history RedisDriver.noKeys
      (lateMailCalls () "mail" 10500000000) =
      [.put lateMail.entry, .take "mail" 10500000000 lateMail.withoutId] ∧
    Accepts (keptApart String RedisDriver.timestamp)
      ((RedisDriver.stored (RedisDriver.payloadCodec .string) "queue:").history RedisDriver.noKeys
        (lateMailCalls () "mail" 10500000000)) ∧
    (DatabaseDriver.stored (RedisDriver.payloadCodec .string)).history DatabaseDriver.noRows
      (lateMailCalls none "mail" 10500000000) =
      [.put lateMail.entry, .take "mail" 10500000000 lateMail.withoutId] ∧
    Accepts (keptApart String DatabaseDriver.timestampMicros)
      ((DatabaseDriver.stored (RedisDriver.payloadCodec .string)).history DatabaseDriver.noRows
        (lateMailCalls none "mail" 10500000000)) :=
  ⟨by decide +kernel, (drivers_refine_queues (RedisDriver.payloadCodec .string) "queue:").2.1
      (lateMailCalls () "mail" 10500000000) (by decide +kernel),
    by decide +kernel, (drivers_refine_queues (RedisDriver.payloadCodec .string) "queue:").2.2
      (lateMailCalls none "mail" 10500000000) (by decide +kernel)⟩

theorem not_accepts_lateMail {queue : String} {now : Instant}
    (isEarly : queue ≠ "mail" ∨ now < 10500000000) :
    ¬Accepts (keptApart String (id : Instant → Instant))
      [.put lateMail.entry, .take queue now lateMail.withoutId] := by
  intro accepted
  obtain ⟨entry, isPut, -, serves, ready⟩ :=
    accepted.put_of_take (List.mem_cons_of_mem _ List.mem_cons_self)
  have isEntry : entry = lateMail.entry := by simpa using isPut
  subst isEntry
  rcases isEarly with isOther | isEarly
  · exact isOther serves
  · exact absurd (ready 10500000000 rfl) (Int.not_le.mpr isEarly)

/--
The sync driver hands the job out to another queue, and the redis driver half a
second before it is due.
-/
theorem drivers_hand_out_early :
    ¬Accepts (keptApart String (id : Instant → Instant))
      ((SyncDriver.stored String).history [] (lateMailCalls () "other" 0)) ∧
    ¬Accepts (keptApart String (id : Instant → Instant))
      ((RedisDriver.stored (RedisDriver.payloadCodec .string) "queue:").history RedisDriver.noKeys
        (lateMailCalls () "mail" 10000000000)) := by
  have onSync : (SyncDriver.stored String).history [] (lateMailCalls () "other" 0) =
      [.put lateMail.entry, .take "other" 0 lateMail.withoutId] := by
    rfl
  have onRedis : (RedisDriver.stored (RedisDriver.payloadCodec .string) "queue:").history
        RedisDriver.noKeys (lateMailCalls () "mail" 10000000000) =
      [.put lateMail.entry, .take "mail" 10000000000 lateMail.withoutId] := by
    decide +kernel
  rw [onSync, onRedis]
  exact ⟨not_accepts_lateMail (.inl (by decide)), not_accepts_lateMail (.inr (by decide))⟩

end Rustasea.Queue
