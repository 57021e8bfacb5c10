import StationHub.Proofs.Hub.Calm
import StationHub.Proofs.Tasks.Waiting

/-!
Moves on the side: those that are no step of an opening or of a call of the peer, and that have to
do neither with the path lock nor with the clock.

* `Sideways`: calm, but for tasks on the side that begin to wait; each operation has its lemma
  `sideways_…`.
* `sideways_of_step?`: the plain moves are such.
-/

namespace StationHub

/-- The activity is no step of an opening or of a call of the peer, and nobody's who asked for a
path. -/
def Activity.isSide : Activity → Bool
  | .takingOver .. | .probing .. | .sweeping .. | .calling .. => true
  | _ => false

namespace Hub

/-- Calm, but for tasks on the side that begin to wait. -/
inductive Sideways (h : Hub) : Hub → Prop where
  | waits {mid : Hub} (added : List Task) : h.Calm mid →
      (∀ task ∈ added, task.activity.isSide = true) →
      Sideways h { mid with tasks := mid.tasks ++ added }

theorem Calm.sideways {h next : Hub} (calm : h.Calm next) : h.Sideways next := by
  have same : next = { next with tasks := next.tasks ++ [] } := by rw [List.append_nil]
  rw [same]
  exact .waits [] calm fun _ member => nomatch member

theorem Sideways.after {h mid next : Hub} (calm : h.Calm mid) (sideways : mid.Sideways next) :
    h.Sideways next := by
  cases sideways with
  | waits added calm' side => exact .waits added (calm.trans calm') side

theorem sideways_suspend {activity : Activity} (side : activity.isSide = true) (h : Hub)
    (id : Nat) : h.Sideways (h.suspend id activity) := by
  refine .waits [⟨id, activity⟩] (.refl h) fun task member => ?_
  rw [List.mem_singleton.mp member]
  exact side

theorem sideways_sweepManagement (h : Hub) (id : Nat) (members : List Member)
    (report : SweepReport) : h.Sideways (h.sweepManagement id members report) := by
  unfold sweepManagement
  split
  · exact sideways_suspend rfl h id
  · exact ((calm_countEvicted h members).trans (calm_conclude _ id _)).sideways

theorem sideways_sweepDevices (h : Hub) (id : Nat) (members : List Member) (report : SweepReport) :
    h.Sideways (h.sweepDevices id members report) := by
  unfold sweepDevices
  split
  · exact sideways_suspend rfl h id
  · exact .after ((calm_countEvicted h members).trans (calm_beginRoster _ .management))
      (sideways_sweepManagement _ id _ _)

theorem sideways_resumeSweep (h : Hub) (id : Nat) (variant : Variant) (members : List Member)
    (report : SweepReport) : h.Sideways (h.resumeSweep id variant members report) := by
  have looked := calm_eachMember (fun h member => calm_resumeMember h variant member) h members
  unfold resumeSweep
  refine .after looked ?_
  cases variant with
  | device => exact sideways_sweepDevices _ id _ report
  | management => exact sideways_sweepManagement _ id _ report

theorem sideways_beginCall (h : Hub) (variant : Variant) (key : Key) (command : String)
    (payload : Json) : h.Sideways (h.beginCall variant key command payload).1 := by
  unfold beginCall
  refine .after (calm_newTask h) ?_
  dsimp only
  split
  · exact (calm_conclude _ _ _).sideways
  · rename_i slot _
    have sent := calm_sendCall h.newTask.1 slot.session command payload
    split <;> rename_i called <;> rw [called] at sent
    · exact (sent.trans (calm_conclude _ _ _)).sideways
    · exact .after sent (sideways_suspend rfl _ _)

theorem sideways_beginProbe (h : Hub) (link wait : Nat) :
    h.Sideways (h.beginProbe link wait).1 := by
  have probed := calm_startProbe h.newTask.1 link wait
  unfold beginProbe
  refine .after (calm_newTask h) ?_
  dsimp only
  split <;> rename_i started <;> rw [started] at probed
  · exact (probed.trans (calm_conclude _ _ _)).sideways
  · exact .after probed (sideways_suspend rfl _ _)

theorem sideways_beginReconcile (h : Hub) (session : Nat) :
    h.Sideways (h.beginReconcile session).1 := by
  unfold beginReconcile
  refine .after (calm_newTask h) ?_
  dsimp only
  split
  · exact (Calm.refl _).sideways
  · rename_i s _
    have begun := calm_beginTakeover h.newTask.1 session s
    split <;> rename_i started <;> rw [started] at begun
    · exact (begun.trans (calm_conclude _ _ _)).sideways
    · exact .after begun (sideways_suspend rfl _ _)

theorem sideways_resumeProbe {h : Hub} {task : Task} {link : Nat} {probe : Link.Probe}
    {next : Hub → Bool → Hub} (side : task.activity.isSide = true)
    (goesOn : ∀ alive, h.Sideways (next h alive)) :
    h.Sideways (h.resumeProbe task link probe next) := by
  unfold resumeProbe
  split
  · exact goesOn _
  · exact sideways_suspend side h task.id

/-- A task on the side stays one or ends. -/
theorem sideways_resume {h : Hub} {task : Task} (side : task.activity.isSide = true) :
    (h.detach task.id).Sideways (h.resume task) := by
  obtain ⟨id, activity⟩ := task
  unfold resume
  cases activity with
  | takingOver session rival probe =>
      refine sideways_resumeProbe rfl fun alive => ?_
      exact ((calm_concludeTakeover _ session rival alive).trans (calm_conclude _ id _)).sideways
  | probing link probe =>
      exact sideways_resumeProbe rfl fun alive => (calm_conclude _ id _).sideways
  | sweeping variant members report => exact sideways_resumeSweep _ id variant members report
  | calling session call =>
      dsimp only
      split
      · exact (calm_conclude _ id _).sideways
      · exact sideways_suspend rfl _ id
  | _ => cases side

/-- The move is no step of an opening, of a call of the peer or of somebody who asked for a path,
neither somebody else's text nor the time that passes. -/
def isPlain (h : Hub) : Move → Bool
  | .opening .. | .handling .. | .guarding .. | .cancel .. | .directoryAnswers ..
  | .executorAnswers .. | .text .. | .advance .. => false
  | .resume id => (h.task? id).any fun task => task.activity.isSide
  | _ => true

/-- A plain move is calm, but for tasks on the side that begin to wait. -/
theorem sideways_of_step? {h next : Hub} {move : Move} (plain : h.isPlain move = true)
    (moved : h.step? move = some next) : (h.apart move).Sideways next := by
  cases move with
  | opening | handling | guarding | cancel | directoryAnswers | executorAnswers | text | advance =>
      cases plain
  | resume id =>
      obtain ⟨task, found, -, rfl⟩ := resumed moved
      rw [isPlain, found] at plain
      cases id_of_task? found
      exact sideways_resume plain
  | accept variant =>
      cases moved
      exact (calm_accept h variant).sideways
  | refuse =>
      cases moved
      exact (calm_count h _).sideways
  | sending session command payload =>
      cases moved
      exact (calm_sendCall h session command payload).sideways
  | calling variant key command payload =>
      cases moved
      exact sideways_beginCall h variant key command payload
  | settling session id answer =>
      cases moved
      exact (calm_settle h session id _).sideways
  | failing session =>
      cases moved
      exact (calm_failPending h session).sideways
  | reconciling session =>
      cases moved
      exact sideways_beginReconcile h session
  | sweeping =>
      cases moved
      exact .after ((calm_newTask h).trans (calm_beginRoster _ .device))
        (sideways_sweepDevices _ h.nextTask _ {})
  | probing link wait =>
      cases moved
      exact sideways_beginProbe h link wait
  | ping link =>
      cases moved
      exact (calm_modifyLink (fun l => l.speech_ping h.now) h link).sideways
  | pong link =>
      cases moved
      exact (calm_of_queue (fun l => l.pong h.now) (fun _ => rfl) h link).sideways
  | close link cause =>
      cases moved
      exact (calm_closed h link cause).sideways
  | ending link session =>
      cases moved
      exact (calm_handleEnd h link session).sideways
  | stopping link =>
      cases moved
      have silent : ∀ c : Connection, Speech c.link.queue c.stop.link.queue := fun _ =>
        .of_sublist (List.nil_sublist _)
      exact (calm_modifyConnection fun c _ => silent c).sideways
  | holding link =>
      simp only [step?, Option.ite_none_right_eq_some, Option.some.injEq] at moved
      obtain ⟨-, rfl⟩ := moved
      have silent : ∀ c : Connection, Speech c.link.queue c.hold.link.queue := fun _ => .refl _
      exact (calm_modifyConnection fun c _ => silent c).sideways
  | lettingGo link =>
      cases moved
      have silent : ∀ c : Connection, Speech c.link.queue c.letGo.link.queue := fun _ => .refl _
      exact (calm_modifyConnection fun c _ => silent c).sideways
  | closeAll cause =>
      cases moved
      exact (calm_closeAll h cause).sideways
  | shutDown =>
      cases moved
      have halted : h.Calm { h with stopping := true } := calm_of_eq ⟨rfl, rfl, rfl⟩ rfl rfl rfl
      exact (halted.trans (calm_closeAll _ .shutdown)).sideways
  | expire session id => exact (calm_expire? moved).sideways
  | takeUp link =>
      exact (calm_changeConnection? (fun c c' => Connection.speech_takeUp?) moved).sideways
  | socketTakes link =>
      exact (calm_changeConnection? (fun c c' => Connection.speech_accepted?) moved).sideways
  | socketFails link =>
      exact (calm_changeConnection? (fun c c' => Connection.speech_failed?) moved).sideways
  | writerExpires link =>
      exact (calm_changeConnection? (fun c c' => Connection.speech_expired?) moved).sideways

end Hub

end StationHub
