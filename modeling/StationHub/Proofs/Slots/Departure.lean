import StationHub.Proofs.Openings.Contract
import StationHub.Proofs.Slots.Shutdown
import StationHub.Proofs.Slots.Takeovers

/-!
Connections that come to their end. The end of a connection lets go of the slot of its session, and
nothing that goes on afterwards binds a slot to the connection again, although a session may come
into its slot when its connection is closed already.

* `ServedInOrder`: a server opens a connection once, handles what arrives on it after the opening
  has returned a session, and handles its end when nothing of it is under way any more.
* `step?_rests`, `step?_unbound`: a move that does not attend to the connection keeps it so.
* `departed_of_ending`: no slot is bound to a connection whose end was handled in that order, and
  the connection is in its last phase, at every later point.
-/

namespace StationHub.Hub

/-- The session that the move has put into its slot: a message of it is handled, or somebody asks
for its takeover. -/
def Move.attends? : Move → Option Nat
  | .handling session _ _ | .reconciling session => some session
  | _ => none

/-- The move attends to a session on the connection. -/
def attends (h : Hub) (link : Nat) (move : Move) : Bool :=
  (move.attends?.bind h.session?).any fun s => s.link == link

/-- An opening of the connection returned session number `i` in a run of the moves. -/
def Returned (h : Hub) (moves : List Move) (link i : Nat) : Prop :=
  ∃ earlier move mid next id, earlier ++ [move] <+: moves ∧ h.run? earlier = some mid ∧
    mid.step? move = some next ∧ mid.opens? move = some (id, link) ∧
    next.finished = mid.finished ++ [(id, .opened (.ok i))]

/-- No slot is bound to the connection. -/
def Unbound (h : Hub) (link : Nat) : Prop := ∀ variant key, h.boundTo? variant key ≠ some link

/-- Nothing of the connection is under way that could bind a slot to it: it is not being opened, and
no session on it takes over a slot. -/
structure Rests (h : Hub) (link : Nat) : Prop where
  opening : ∀ task ∈ h.tasks, task.activity.opened? ≠ some link
  taking : ∀ task ∈ h.tasks, ∀ {i : Nat} {s : Session}, task.activity.taking? = some i →
    h.session? i = some s → s.link ≠ link

/-- The order in which a server goes about a connection until it handles its end: the connection is
opened once, what arrives on it is handled when the opening has returned its session, and the end is
handled when nothing of the connection is under way any more, with the session that the opening
returned or none. -/
structure ServedInOrder (h : Hub) (moves : List Move) (link : Nat) (session : Option Nat) :
    Prop where
  once : moves.countP (Move.opensLink link) ≤ 1
  handled : ∀ {earlier : List Move} {move : Move} {mid : Hub}, earlier ++ [move] <+: moves →
    h.run? earlier = some mid → mid.attends link move = true → ∃ i, h.Returned earlier link i
  rests : ∀ {last : Hub}, h.run? moves = some last → last.Rests link
  passed : ∀ {i : Nat}, session = some i → h.Returned moves link i
  failed : session = none → ∀ i, ¬h.Returned moves link i

/-- No move attends to the connection or opens it. -/
def LeavesAlone (h : Hub) (moves : List Move) (link : Nat) : Prop :=
  ∀ {earlier : List Move} {move : Move} {mid : Hub}, earlier ++ [move] <+: moves →
    h.run? earlier = some mid → mid.attends link move = false ∧ move.opensLink link = false

theorem Returned.mono {h : Hub} {moves later : List Move} {link i : Nat}
    (returned : h.Returned moves link i) (longer : moves <+: later) : h.Returned later link i := by
  obtain ⟨earlier, move, mid, next, id, before, rest⟩ := returned
  exact ⟨earlier, move, mid, next, id, before.trans longer, rest⟩

/-! ### Openings that return a session -/

/-- An opening in a running hub returns its session after the takeover. -/
theorem finished_afterTakeover {h : Hub} (running : h.stopping = false) (id link session : Nat)
    (guard : Guard) : (h.afterTakeover id link session guard).finished =
      h.finished ++ [(id, .opened (.ok session))] := by
  unfold afterTakeover
  rw [if_neg (by simp [running])]
  rfl

/-- An opening in a running hub whose peer is identified returns its session at once, if the
takeover needs no probe. -/
theorem finished_afterIdentified {h : Hub} {link : Nat} {l : Link} (here : h.link? link = some l)
    (running : h.stopping = false) (id : Nat) (guard : Guard) (identity : Identity) :
    (h.afterIdentified id link guard identity).finished = h.finished ++
      if (h.withSession link l.variant identity).takesAtOnce h.sessions.length then
        [(id, .opened (.ok h.sessions.length))] else [] := by
  have made := session?_withSession h link l.variant identity
  have same := reseats_beginTakeover (h.withSession link l.variant identity)
    h.sessions.length (h.newSession link l.variant identity)
  rw [afterIdentified_eq here]
  rcases started : (h.withSession link l.variant identity).beginTakeover h.sessions.length
    (h.newSession link l.variant identity) with ⟨next, takeover | ⟨rival, probe⟩⟩ <;>
    rw [started] at same
  · have runs := same.stopping.trans running
    rw [takesAtOnce_of_done made started, if_pos rfl]
    exact (finished_afterTakeover runs id link _ guard).trans (congrArg (· ++ _) same.finished)
  · rw [takesAtOnce_of_probing made started, if_neg Bool.false_ne_true, List.append_nil]
    exact same.finished

/-- An opening that has its guard returns no session yet. -/
theorem afterGuard_returns_none {h : Hub} {id link i : Nat} {target : Target} {guard : Guard}
    (returns : (h.afterGuard id link target guard).finished =
      h.finished ++ [(id, .opened (.ok i))]) : False := by
  unfold afterGuard at returns
  split at returns
  · cases result_of_ended rfl returns
  · split at returns
    · cases result_of_ended (finished_closed h link .shutdown) returns
    · exact not_returned returns

/-- The session that an opening returns when the directory has answered is on the connection. -/
theorem session_of_afterDirectory {h : Hub} {id link i : Nat} {guard : Guard}
    {answer : Except Failure Identity}
    (returns : (h.afterDirectory id link guard answer).finished =
      h.finished ++ [(id, .opened (.ok i))]) :
    ∃ s, (h.afterDirectory id link guard answer).session? i = some s ∧ s.link = link := by
  unfold afterDirectory at returns ⊢
  cases answer with
  | error failure =>
      cases result_of_ended (finished_closed (h.count .resolutionFailed) link _) returns
  | ok identity =>
      dsimp only at returns ⊢
      split at returns <;> rename_i open_
      · cases result_of_ended rfl returns
      · rw [if_neg open_]
        split at returns <;> rename_i running
        · cases result_of_ended (finished_closed h link .shutdown) returns
        · rw [if_neg running]
          cases here : h.link? link with
          | none =>
              simp only [afterIdentified, here] at returns
              cases result_of_ended rfl returns
          | some l =>
              rw [finished_afterIdentified here (Bool.eq_false_iff.mpr running)] at returns
              split at returns
              · cases result_of_ended rfl returns
                refine ⟨h.newSession link l.variant identity, ?_, rfl⟩
                rw [session?, (afterIdentified_staff here id guard identity).1]
                exact session?_withSession h link l.variant identity
              · rw [List.append_nil] at returns
                exact (not_returned returns).elim

/-- The session that an opening returns is on its connection. -/
theorem session_of_returns {h next : Hub} {move : Move} {id link i : Nat} (sound : h.Sound)
    (moved : h.step? move = some next) (opens : h.opens? move = some (id, link))
    (returns : next.finished = h.finished ++ [(id, .opened (.ok i))]) :
    ∃ s, next.session? i = some s ∧ s.link = link := by
  cases openingStep_of_step? moved opens with
  | begins target lock => exact (not_returned returns).elim
  | waits target lock found => exact (not_returned returns).elim
  | enters target lock guard => exact (afterGuard_returns_none returns).elim
  | guarded target lock guard found => exact (afterGuard_returns_none returns).elim
  | answered target guard answer found => exact session_of_afterDirectory returns
  | probed session guard rival probe alive found =>
      obtain ⟨-, s, here, on⟩ := sound.fit _ (List.mem_of_find?_eq_some found) rfl
      have same := result_of_afterTakeover (reseats_concludeTakeover (h.detach id) _ _ _).finished
        returns
      split at same
      · cases same
      · cases same
        refine ⟨s, ?_, on⟩
        rw [(sameStaff_probed (h.detach id) id link i rival guard alive).session?]
        exact here

/-- An opening in a running hub whose takeover ends returns its session. -/
theorem returns_of_opens {h next : Hub} {move : Move} {id link task i : Nat}
    (running : h.stopping = false) (moved : h.step? move = some next)
    (opens : h.opens? move = some (id, link)) (ended : h.takeoverEnded? move = some (task, i)) :
    next.finished = h.finished ++ [(id, .opened (.ok i))] := by
  cases openingStep_of_step? moved opens with
  | begins target lock => cases ended
  | enters target lock guard => cases ended
  | waits target lock found => simp [takeoverEnded?, found, Activity.taking?] at ended
  | guarded target lock guard found => simp [takeoverEnded?, found, Activity.taking?] at ended
  | answered target guard answer found =>
      cases ends_of_ended ended with
      | resumed isResume => cases isResume
      | atOnce begins atOnce =>
          cases begins with
          | @identified _ identity _ identified =>
              obtain ⟨_, _, _, l, found', here, rfl⟩ := identified?_eq_some identified
              rw [found] at found'
              cases found'
              have there : (h.detach id).link? link = some l := here
              have finished := finished_afterIdentified there running id guard identity
              rw [if_pos (show Hub.takesAtOnce _ (h.detach id).sessions.length = true from atOnce)]
                at finished
              have same := afterDirectory_identified identified found
              exact (congrArg Hub.finished same).trans finished
  | probed session guard rival probe alive found =>
      simp only [takeoverEnded?, found, Option.bind_some, Activity.taking?, Option.map_eq_some_iff,
        Prod.mk.injEq] at ended
      obtain ⟨s, -, -, rfl⟩ := ended
      have same := reseats_concludeTakeover (h.detach id) session rival alive
      have runs := same.stopping.trans running
      exact (finished_afterTakeover runs id link session guard).trans
        (congrArg (· ++ _) same.finished)

/-- The session that an opening returned in a run from the start is on its connection. -/
theorem session_of_returned {settings : Settings} {mark : Mark} {moves : List Move} {last : Hub}
    (run : (fresh settings mark).run? moves = some last) {link i : Nat}
    (returned : (fresh settings mark).Returned moves link i) :
    ∃ s, last.session? i = some s ∧ s.link = link := by
  obtain ⟨earlier, move, mid, next, id, ⟨rest, rfl⟩, run', moved, opens, returns⟩ := returned
  obtain ⟨next', run₁, run₂⟩ := run?_split run
  obtain ⟨mid', same, moved'⟩ := run?_concat.mp run₁
  rw [run'] at same
  cases same
  rw [moved] at moved'
  cases moved'
  obtain ⟨s, there, on⟩ := session_of_returns (sound_of_run? run') moved opens returns
  obtain ⟨s', at_last, peer⟩ := (run?_persists run₂).session there
  exact ⟨s', at_last, peer.link.trans on⟩

/-! ### Where takeovers come from -/

variable {h next : Hub} {move : Move}

/-- A takeover begins with a move that attends to its session, or with a step of the opening of its
connection. -/
theorem Begins.attends_or_opens {base : Hub} {task i : Nat} {s : Session}
    (begins : h.Begins move base task i) (moved : h.step? move = some next)
    (there : next.session? i = some s) :
    h.attends s.link move = true ∨ h.opens? move = some (task, s.link) := by
  have attended : ∀ {s' : Session}, move.attends? = some i → h.session? i = some s' →
      h.attends s.link move = true := by
    intro s' names here
    obtain ⟨s'', at_next, peer⟩ := (step?_persists moved).session here
    rw [there] at at_next
    cases at_next
    simp [attends, names, here, peer.link]
  cases begins with
  | asked here | displaced here => exact .inl (attended rfl here)
  | identified identified =>
      obtain ⟨link, target, guard, s', found, rfl, -, at_next⟩ :=
        step?_identified moved identified
      rw [there] at at_next
      cases at_next
      right
      simp [opens?, found, Activity.opened?]

/-- A takeover ends with a move that attends to its session, with a step of the opening of its
connection, or when its task goes on. -/
theorem Ends.origin {task i : Nat} {s : Session} (ends : h.Ends move task i)
    (moved : h.step? move = some next) (there : next.session? i = some s) :
    h.attends s.link move = true ∨ h.opens? move = some (task, s.link) ∨
      move = .resume task ∧ ∃ activity s', h.task? task = some ⟨task, activity⟩ ∧
        activity.taking? = some i ∧ h.session? i = some s' ∧ s'.link = s.link := by
  cases ends with
  | atOnce begins => exact (begins.attends_or_opens moved there).imp_right .inl
  | resumed isResume found taking here =>
      obtain ⟨s'', at_next, peer⟩ := (step?_persists moved).session here
      rw [there] at at_next
      cases at_next
      exact .inr (.inr ⟨isResume, _, _, found, taking, here, peer.link.symm⟩)

/-- A slot that a move binds to a connection is that of a session on it whose takeover ends. -/
theorem bound_of_step? (sound : next.Sound) (moved : h.step? move = some next) {variant : Variant}
    {key : Key} {link : Nat} (bound : next.boundTo? variant key = some link) :
    h.boundTo? variant key = some link ∨ ∃ task i s,
      h.takeoverEnded? move = some (task, i) ∧ next.session? i = some s ∧ s.variant = variant ∧
      s.key = key ∧ s.link = link := by
  obtain ⟨slot, there, rfl⟩ := Option.map_eq_some_iff.mp bound
  rcases slot_of_step? moved there with old | ⟨task, ended⟩
  · left
    rw [boundTo?, old]
    rfl
  · obtain ⟨s, here, isVariant, isKey, on⟩ := sound.slots there
    exact .inr ⟨task, slot.session, s, ended, here, isVariant, isKey, on⟩

/-- The session for which a task that waits takes over a slot exists. -/
theorem session_of_waiting {settings : Settings} {mark : Mark} {moves : List Move} {last : Hub}
    (run : (fresh settings mark).run? moves = some last) {task : Task}
    (member : task ∈ last.tasks) {i : Nat} (taking : task.activity.taking? = some i) :
    ∃ s, last.session? i = some s := by
  rw [Activity.taking?_eq_map_probes?] at taking
  obtain ⟨⟨j, rival, probe⟩, probes, rfl⟩ := Option.map_eq_some_iff.mp taking
  obtain ⟨-, -, s, -, -, -, here, -⟩ := begun_of_waiting run member probes
  exact ⟨s, here⟩

/-- A takeover that waits after a move waited before, or begins with a move that attends to its
session or with a step of its own opening. -/
theorem taking_of_step? {settings : Settings} {mark : Mark} {moves : List Move}
    (run : (fresh settings mark).run? moves = some h) (moved : h.step? move = some next)
    {task : Task} (member : task ∈ next.tasks) {i : Nat} (taking : task.activity.taking? = some i)
    {s : Session} (there : next.session? i = some s) :
    (task ∈ h.tasks ∧ ∃ s', h.session? i = some s' ∧ s'.link = s.link) ∨
      h.attends s.link move = true ∨
      h.opens? move = some (task.id, s.link) ∧ task.activity.opened? = some s.link := by
  rcases mem_tasks_of_step? (numbered_of_run? run) moved member with ⟨old, -⟩ | begets
  · obtain ⟨s', here⟩ := session_of_waiting run old taking
    obtain ⟨s'', at_next, peer⟩ := (step?_persists moved).session here
    rw [there] at at_next
    cases at_next
    exact .inl ⟨old, s', here, peer.link.symm⟩
  · rw [Activity.taking?_eq_map_probes?] at taking
    obtain ⟨⟨j, rival, probe⟩, probes, rfl⟩ := Option.map_eq_some_iff.mp taking
    obtain ⟨base, begins⟩ := begins_of_begun (begets.takes probes).1
    rcases begins.attends_or_opens moved there with attended | opens
    · exact .inr (.inl attended)
    · exact .inr (.inr ⟨opens, begets.own (by rw [probes]; rfl) opens⟩)

/-! ### Connections at rest -/

/-- A step of the opening of a connection at rest is its beginning. -/
theorem Rests.opensLink {link : Nat} (rests : h.Rests link) {id : Nat}
    (opens : h.opens? move = some (id, link)) : move.opensLink link = true := by
  have waited : ((h.task? id).bind fun task => task.activity.opened?) ≠ some link := by
    intro waits
    obtain ⟨task, found, opened⟩ := Option.bind_eq_some_iff.mp waits
    exact rests.opening task (List.mem_of_find?_eq_some found) opened
  cases move with
  | opening other target =>
      simp only [opens?, Option.some.injEq, Prod.mk.injEq] at opens
      simp [Move.opensLink, opens.2]
  | resume number | directoryAnswers number answer =>
      simp only [opens?, Option.map_eq_some_iff, Prod.mk.injEq] at opens
      obtain ⟨other, waits, rfl, rfl⟩ := opens
      exact absurd waits waited
  | _ => cases opens

/-- A connection at rest stays so if the move neither attends to it nor opens it. -/
theorem step?_rests {settings : Settings} {mark : Mark} {moves : List Move}
    (run : (fresh settings mark).run? moves = some h) (moved : h.step? move = some next)
    {link : Nat} (rests : h.Rests link) (unattended : h.attends link move = false)
    (unopened : move.opensLink link = false) : next.Rests link := by
  have noOpening : ∀ id, h.opens? move ≠ some (id, link) := by
    intro id opens
    rw [rests.opensLink opens] at unopened
    cases unopened
  constructor
  · intro task member opened
    rcases mem_tasks_of_step? (numbered_of_run? run) moved member with ⟨old, -⟩ | begets
    · exact rests.opening task old opened
    · exact noOpening _ (begets.opens opened)
  · rintro task member i s taking there rfl
    rcases taking_of_step? run moved member taking there with
      ⟨old, s', here, on⟩ | attended | ⟨opens, -⟩
    · exact rests.taking task old taking here on
    · rw [attended] at unattended
      cases unattended
    · exact noOpening _ opens

/-- No slot comes to be bound to a connection at rest if the move neither attends to it nor opens
it. -/
theorem step?_unbound (sound : next.Sound) (moved : h.step? move = some next) {link : Nat}
    (rests : h.Rests link) (unattended : h.attends link move = false)
    (unopened : move.opensLink link = false) (unbound : h.Unbound link) : next.Unbound link := by
  intro variant key bound
  rcases bound_of_step? sound moved bound with old | ⟨task, i, s, ended, there, -, -, rfl⟩
  · exact unbound variant key old
  · rcases (ends_of_ended ended).origin moved there with
      attended | opens | ⟨-, activity, s', found, taking, here, on⟩
    · rw [attended] at unattended
      cases unattended
    · rw [rests.opensLink opens] at unopened
      cases unopened
    · exact rests.taking _ (List.mem_of_find?_eq_some found) taking here on

/-! ### Connections whose opening returned no session -/

/-- An opening that is taking over a slot, of a connection that no slot is bound to, leaves it so
unless it returns its session. -/
theorem unbound_of_unreturned_step (sound : h.Sound) (moved : h.step? move = some next)
    {task i : Nat} {s : Session} (ended : h.takeoverEnded? move = some (task, i))
    (opens : h.opens? move = some (task, s.link)) (there : next.session? i = some s)
    (unreturned : next.finished ≠ h.finished ++ [(task, .opened (.ok i))]) :
    next.boundTo? s.variant s.key ≠ some s.link := by
  cases stopping : h.stopping with
  | true => exact vacated_of_opens sound stopping moved ended opens there
  | false => exact absurd (returns_of_opens stopping moved opens ended) unreturned

/-- While no opening of a connection has returned a session and nobody attends to it, no slot is
bound to it, and only its openings take over slots for it. -/
theorem unbound_of_unreturned {settings : Settings} {mark : Mark} {moves : List Move}
    {last : Hub} {link : Nat} (run : (fresh settings mark).run? moves = some last)
    (unattended : ∀ {earlier move mid}, earlier ++ [move] <+: moves →
      (fresh settings mark).run? earlier = some mid → mid.attends link move = false)
    (unreturned : ∀ i, ¬(fresh settings mark).Returned moves link i) :
    last.Unbound link ∧ ∀ task ∈ last.tasks, ∀ {i s}, task.activity.taking? = some i →
      last.session? i = some s → s.link = link → task.activity.opened? = some link := by
  -- Induction on the moves, the last one first.
  induction moves using List.reverseRecOn generalizing last with
  | nil =>
      cases run
      refine ⟨fun variant key => ?_, fun task member => (nomatch member)⟩
      cases variant <;> exact fun bound => (nomatch bound)
  | append_singleton moves move ih =>
      obtain ⟨mid, run', moved⟩ := run?_concat.mp run
      obtain ⟨unbound, own⟩ := ih run'
        (fun part reached => unattended (part.trans (List.prefix_append _ _)) reached)
        fun i returned => unreturned i (returned.mono (List.prefix_append _ _))
      have nobody := unattended (List.prefix_rfl) run'
      have returnsNone : ∀ {id i}, mid.opens? move = some (id, link) →
          last.finished ≠ mid.finished ++ [(id, .opened (.ok i))] := fun opens returns =>
        unreturned _ ⟨moves, move, mid, last, _, List.prefix_rfl, run', moved, opens, returns⟩
      constructor
      · intro variant key bound
        rcases bound_of_step? (sound_of_run? run) moved bound with
          old | ⟨task, i, s, ended, there, rfl, rfl, rfl⟩
        · exact unbound variant key old
        · have opens : mid.opens? move = some (task, s.link) := by
            rcases (ends_of_ended ended).origin moved there with
              attended | opens | ⟨rfl, activity, s', found, taking, here, on⟩
            · rw [nobody] at attended
              cases attended
            · exact opens
            · have opened := own _ (List.mem_of_find?_eq_some found) taking here on
              simpa [opens?, found] using opened
          exact unbound_of_unreturned_step (sound_of_run? run') moved ended opens there
            (returnsNone opens) bound
      · rintro task member i s taking there rfl
        rcases taking_of_step? run' moved member taking there with
          ⟨old, s', here, on⟩ | attended | ⟨-, opened⟩
        · exact own task old taking here on
        · rw [nobody] at attended
          cases attended
        · exact opened

/-! ### The end of a connection -/

theorem link?_withoutSession (h : Hub) (link : Nat) (session : Option Nat) (j : Nat) :
    (h.withoutSession link session).link? j = h.link? j := by
  unfold withoutSession
  split
  · rfl
  · exact (link?_failPending _ _ j).trans (link?_setRoster h _ _ j)

/-- A session that is removed leaves its slot if that is bound to the connection still. -/
theorem boundTo?_withoutSession {i : Nat} {s : Session} (here : h.session? i = some s)
    (link : Nat) : (h.withoutSession link (some i)).boundTo? s.variant s.key ≠ some link := by
  have removed := boundTo?_removed h s.variant s.key link
  unfold withoutSession
  rw [Option.bind_some, here, Option.map_some]
  dsimp only
  rw [failPending_eq_book, boundTo?, registered?_book]
  exact removed

theorem registered?_finishLink (h : Hub) (link : Nat) (variant : Variant) (key : Key) :
    (h.finishLink link).registered? variant key = h.registered? variant key := by
  unfold finishLink registered?
  split
  · rfl
  · dsimp only
    split <;> cases variant <;> rfl

theorem link?_finishLink (h : Hub) (link i : Nat) :
    (h.finishLink link).link? i = (h.link? i).map fun l => if link = i then l.finish.1 else l := by
  unfold finishLink
  split
  · next absent =>
    by_cases same : link = i
    · subst same
      rw [absent]
      rfl
    · simp [same]
  · next l here =>
    have changed : (h.modifyLink link fun _ => l.finish.1).link? i =
        (h.link? i).map fun l => if link = i then l.finish.1 else l := by
      rw [link?_modifyLink]
      by_cases same : link = i
      · subst same
        rw [here]
        rfl
      · simp [same]
    dsimp only
    split <;> exact changed

theorem phase_finishLink {link : Nat} {l : Link} (here : h.link? link = some l) :
    ∃ l', (h.finishLink link).link? link = some l' ∧ l'.phase = .closed := by
  refine ⟨l.finish.1, ?_, ?_⟩
  · rw [link?_finishLink, here]
    simp
  · unfold Link.finish
    split
    · assumption
    · rfl

/-- A connection whose end was handled is in its last phase. -/
theorem phase_handleEnd {link : Nat} {l : Link} (here : h.link? link = some l)
    (session : Option Nat) :
    ∃ l', (h.handleEnd link session).link? link = some l' ∧ l'.phase = .closed := by
  have there : ((h.closed link .normal).withoutSession link session).link? link =
      some (l.close .normal).1 := by
    rw [link?_withoutSession, link?_closed, here]
    simp
  exact handleEnd_eq h link session ▸ phase_finishLink there

/-- The end of a connection with its only session leaves no slot bound to it. -/
theorem unbound_handleEnd {link i : Nat} {s : Session} (sound : h.Sound)
    (few : h.dwellers link ≤ 1) (here : h.session? i = some s) (on : s.link = link) :
    (h.handleEnd link (some i)).Unbound link := by
  intro variant key bound
  have ended : h.step? (.ending link (some i)) = some (h.handleEnd link (some i)) := rfl
  have there : h.boundTo? variant key = some link := by
    rcases bound_of_step? (step?_sound sound ended) ended bound with old | ⟨task, j, t, taken, -⟩
    · exact old
    · cases taken
  -- Whoever has a slot with the connection is its only session.
  obtain ⟨slot, at_key, rfl⟩ := Option.map_eq_some_iff.mp there
  obtain ⟨t, at_slot, rfl, rfl, isLink⟩ := sound.slots at_key
  obtain rfl := session_unique few at_slot here isLink on
  rw [here] at at_slot
  cases at_slot
  have still := (session?_closed h slot.link .normal slot.session).trans here
  refine boundTo?_withoutSession still slot.link ?_
  rw [handleEnd_eq, boundTo?, registered?_finishLink] at bound
  exact bound

/-! ### After the end -/

/-- The end of a connection that was served in order leaves no slot bound to it. -/
theorem unbound_of_ending {settings : Settings} {mark : Mark} {moves : List Move} {link : Nat}
    {session : Option Nat} (run : (fresh settings mark).run? moves = some h)
    (served : (fresh settings mark).ServedInOrder moves link session)
    (ended : h.step? (.ending link session) = some next) : next.Unbound link := by
  have sound := sound_of_run? run
  cases session with
  | some i =>
      obtain ⟨s, at_i, on⟩ := session_of_returned run (served.passed rfl)
      cases ended
      exact unbound_handleEnd sound (single_of_run? run served.once) at_i on
  | none =>
      -- No opening returned a session, and so nobody attended to the connection.
      have unreturned := served.failed rfl
      have unattended : ∀ {earlier move mid}, earlier ++ [move] <+: moves →
          (fresh settings mark).run? earlier = some mid → mid.attends link move = false := by
        intro earlier move mid part reached
        refine Bool.eq_false_iff.mpr fun attended => ?_
        obtain ⟨i, returned⟩ := served.handled part reached attended
        exact unreturned i (returned.mono ((List.prefix_append _ _).trans part))
      obtain ⟨unbound, -⟩ := unbound_of_unreturned run unattended unreturned
      exact step?_unbound (step?_sound sound ended) ended (served.rests run) rfl rfl unbound

/-- A connection at rest that no slot is bound to stays so while it is left alone. -/
theorem unbound_of_left {settings : Settings} {mark : Mark} {moves later : List Move}
    {last : Hub} {link : Nat} (run : (fresh settings mark).run? moves = some next)
    (rests : next.Rests link) (unbound : next.Unbound link) (ran : next.run? later = some last)
    (left : next.LeavesAlone later link) : last.Rests link ∧ last.Unbound link := by
  -- Induction on the moves, the last one first.
  induction later using List.reverseRecOn generalizing last with
  | nil =>
      cases ran
      exact ⟨rests, unbound⟩
  | append_singleton later move ih =>
      obtain ⟨mid, ran', moved⟩ := run?_concat.mp ran
      obtain ⟨rests', unbound'⟩ := ih ran' fun part reached =>
        left (part.trans (List.prefix_append _ _)) reached
      obtain ⟨unattended, unopened⟩ := left List.prefix_rfl ran'
      have whole : (fresh settings mark).run? (moves ++ later) = some mid := by
        rw [run?_append, run, Option.bind_some, ran']
      have sound := step?_sound (sound_of_run? whole) moved
      exact ⟨step?_rests whole moved rests' unattended unopened,
        step?_unbound sound moved rests' unattended unopened unbound'⟩

/-- At every point after the end of a connection was handled, if its server went about it in the
order of `ServedInOrder` and leaves it alone from then on, no slot is bound to the connection and it
is in its last phase, whatever happens to it, to its rivals and to the hub. -/
theorem departed_of_ending {settings : Settings} {mark : Mark} {before later : List Move}
    {h next last : Hub} {link : Nat} {session : Option Nat} {l : Link}
    (run : (fresh settings mark).run? before = some h) (here : h.link? link = some l)
    (served : (fresh settings mark).ServedInOrder before link session)
    (ended : h.step? (.ending link session) = some next) (ran : next.run? later = some last)
    (left : next.LeavesAlone later link) :
    last.Unbound link ∧ ∃ l', last.link? link = some l' ∧ l'.phase = .closed := by
  have run' : (fresh settings mark).run? (before ++ [.ending link session]) = some next :=
    run?_concat.mpr ⟨h, run, ended⟩
  have unbound := unbound_of_ending run served ended
  have rests : next.Rests link := step?_rests run ended (served.rests run) rfl rfl
  obtain ⟨l', there, shut⟩ : ∃ l', next.link? link = some l' ∧ l'.phase = .closed := by
    cases ended
    exact phase_handleEnd here session
  obtain ⟨-, unbound'⟩ := unbound_of_left run' rests unbound ran left
  obtain ⟨l'', at_last, leads⟩ := (run?_persists ran).link there
  exact ⟨unbound', l'', at_last, leads.stays shut⟩

/-- A run in which the opening of the second of two connections has returned a session after the
connection was closed. The slot is bound to the connection until its end is handled; then a message
of the first connection arrives. -/
theorem run?_departedRun : ∃ opened h next last,
    (fresh {} "hub").run? closedRun = some opened ∧ opened.step? (.resume 1) = some h ∧
    opened.opens? (.resume 1) = some (1, 1) ∧
    h.finished = opened.finished ++ [(1, .opened (.ok 1))] ∧ h.tasks = [] ∧
    (h.link? 1).isSome = true ∧ h.boundTo? .device ⟨"T", "D1"⟩ = some 1 ∧
    h.step? (.ending 1 (some 1)) = some next ∧ next.registered? .device ⟨"T", "D1"⟩ = none ∧
    next.attends 1 lateMessage = false ∧ next.run? [lateMessage] = some last := by
  refine ⟨((fresh {} "hub").run? closedRun).get (by decide), _, _, _, rfl, rfl, ?_, ?_, ?_, ?_,
    ?_, rfl, ?_, ?_, rfl⟩
  · decide
  · rfl
  · rfl
  · decide
  · decide
  · decide
  · decide

theorem departed_of_ending_closedRun : ∃ h next last,
    (fresh {} "hub").run? (closedRun ++ [.resume 1]) = some h ∧
    h.boundTo? .device ⟨"T", "D1"⟩ = some 1 ∧ h.step? (.ending 1 (some 1)) = some next ∧
    next.run? [lateMessage] = some last ∧
    last.Unbound 1 ∧ ∃ l', last.link? 1 = some l' ∧ l'.phase = .closed := by
  obtain ⟨opened, h, next, last, run, moved, opens, returns, noTasks, known, bound, ended, -,
    unattended, ran⟩ := run?_departedRun
  obtain ⟨l, here⟩ := Option.isSome_iff_exists.mp known
  have run' : (fresh {} "hub").run? (closedRun ++ [.resume 1]) = some h :=
    run?_concat.mpr ⟨opened, run, moved⟩
  have served : (fresh {} "hub").ServedInOrder (closedRun ++ [.resume 1]) 1 (some 1) := by
    refine ⟨by decide, ?_, ?_, ?_, fun absent => (nomatch absent)⟩
    · intro earlier move mid part _ attended
      have none : ∀ move ∈ closedRun ++ [.resume 1], move.attends? = none := by decide
      rw [attends, none move (part.subset (by simp))] at attended
      cases attended
    · intro last run''
      rw [run'] at run''
      cases run''
      constructor <;> rw [noTasks] <;> exact fun task member => (nomatch member)
    · rintro i ⟨⟩
      exact ⟨closedRun, .resume 1, opened, h, 1, List.prefix_rfl, run, moved, opens, returns⟩
  have left : next.LeavesAlone [lateMessage] 1 := by
    intro earlier move mid part reached
    obtain ⟨rest, same⟩ := part
    cases earlier with
    | nil =>
        cases reached
        cases (List.cons.inj same).1
        exact ⟨unattended, rfl⟩
    | cons first others => simp at same
  exact ⟨h, next, last, run', bound, ended, ran, departed_of_ending run' here served ended ran left⟩

end StationHub.Hub
