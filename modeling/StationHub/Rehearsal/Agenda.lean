/-!
Who goes on next. Those who can go on form a queue, and each comes to it in the moment in which it
has what it waits for; those who wait for a moment have an alarm. Nobody is in the queue twice, and
of two whose alarms ring together the one who set it first comes first.
-/

namespace StationHub.Rehearsal

/-- Those who can go on and those who wait for a moment. -/
structure Agenda (α : Type) where
  /-- Those who can go on, in the order in which they came to. -/
  queue : List α := []
  /-- When somebody is to go on at the latest, in the order in which the alarms were set. -/
  alarms : List (Nat × α) := []

namespace Agenda

variable {α : Type} [DecidableEq α]

/-- The first of the queue, and the agenda without it. -/
def next? (agenda : Agenda α) : Option (α × Agenda α) :=
  match agenda.queue with
  | [] => none
  | first :: rest => some (first, { agenda with queue := rest })

/-- `who` goes to the end of the queue, unless it is there already. -/
def call (agenda : Agenda α) (who : α) : Agenda α :=
  if who ∈ agenda.queue then agenda else { agenda with queue := agenda.queue ++ [who] }

/-- All of `who` go to the end of the queue, in that order. -/
def callAll (agenda : Agenda α) (who : List α) : Agenda α := who.foldl call agenda

/-- `who` has an alarm. -/
def hasAlarm (agenda : Agenda α) (who : α) : Bool := agenda.alarms.any fun alarm => alarm.2 = who

/-- The alarms of `who` are those at the given times from now on; those that were set already keep
their places. -/
def setAlarms (agenda : Agenda α) (who : α) (times : List Nat) : Agenda α :=
  let kept := agenda.alarms.filter fun alarm => alarm.2 ≠ who || times.contains alarm.1
  let missing := times.filter fun time => !kept.contains (time, who)
  { agenda with alarms := kept ++ missing.map fun time => (time, who) }

/-- All alarms up to the time `now` ring, in the order of their times and then in the order in which
they were set. -/
def ring (agenda : Agenda α) (now : Nat) : Agenda α :=
  let (due, later) := agenda.alarms.partition fun alarm => decide (alarm.1 ≤ now)
  let sorted := due.mergeSort fun a b => decide (a.1 ≤ b.1)
  callAll { agenda with alarms := later } (sorted.map Prod.snd)

/-- Calling somebody keeps the order of those who are in the queue already. -/
theorem queue_isPrefix_call (agenda : Agenda α) (who : α) :
    agenda.queue <+: (agenda.call who).queue := by
  unfold call
  split
  · exact List.prefix_refl _
  · exact List.prefix_append _ _

theorem nodup_queue_call {agenda : Agenda α} (h : agenda.queue.Nodup) (who : α) :
    (agenda.call who).queue.Nodup := by
  unfold call
  split
  · exact h
  · next absent =>
    refine List.nodup_append.2 ⟨h, by simp, ?_⟩
    rintro a ha b hb rfl
    exact absent (by simpa using (List.mem_singleton.1 hb) ▸ ha)

end Agenda

end StationHub.Rehearsal
