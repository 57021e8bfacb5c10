import Mathlib.Data.List.Induction
import StationHub.Proofs.Openings.Ends
import StationHub.Proofs.Openings.Sound

/-!
The rosters of a hub that was shut down. A shutdown empties both, and no opening fills them
again, however far it was; messages on connections that are open still do.

* `deserted_closeAll`: a drain empties both rosters.
* `step?_deserted_iff`: in a hub that shuts down, a move keeps empty rosters empty exactly if it
  readmits nobody.
* `deserted_after_shutDown_iff`: the same for every run after the shutdown.
-/

namespace StationHub.Hub

/-- Nobody is registered. -/
def Deserted (h : Hub) : Prop := ∀ variant, h.roster variant = []

/-- The move puts a session into its slot although nobody is registered: a message arrives on a
connection that is open, a message goes on that waited for a probe, or somebody asked for the
takeover. -/
def readmits (h : Hub) : Move → Bool
  | .handling session _ (.ok _) => (h.session? session).any h.isOpen
  | .reconciling session => (h.session? session).isSome
  | .resume id =>
      match (h.task? id).map Task.activity with
      | some (.messageProbing session _ _ _ _) => (h.session? session).isSome
      | some (.takingOver session _ _) => (h.session? session).isSome
      | _ => false
  | _ => false

theorem deserted_iff {h : Hub} :
    h.Deserted ↔ ∀ variant key, h.registered? variant key = none := by
  constructor
  · intro empty variant key
    rw [registered?, empty variant, Table.get?_nil]
  · intro vacant variant
    cases roster : h.roster variant with
    | nil => rfl
    | cons entry rest =>
        have first := vacant variant entry.1
        simp [registered?, roster, Table.get?] at first

/-! ### The shutdown -/

theorem roster_closeSlots (h : Hub) (cause : CloseCause) (slots : List (Key × Slot Nat Nat))
    (variant : Variant) : (h.closeSlots cause slots).1.roster variant = h.roster variant := by
  induction slots generalizing h with
  | nil => rfl
  | cons entry rest ih =>
      unfold closeSlots
      dsimp only
      rw [ih]
      split
      · exact roster_closeLink h entry.2.link cause variant
      · rfl

/-- A drain empties both rosters. -/
theorem deserted_closeAll (h : Hub) (cause : CloseCause) : (h.closeAll cause).1.Deserted := by
  intro variant
  unfold closeAll closeRoster
  dsimp only
  rw [roster_closeSlots]
  cases variant with
  | device =>
      rw [roster_setRoster_of_ne (by decide), roster_closeSlots, roster_setRoster_self]
  | management => rw [roster_setRoster_self]

theorem stopping_shutDown (h : Hub) : h.shutDown.1.stopping = true := by
  have quiet : Quiet True { h with stopping := true } h.shutDown.1 := quiet_closeAll _ .shutdown
  exact stopping_of_quiet quiet

/-! ### Single moves -/

/-- Where nobody is registered, every takeover ends at once. -/
theorem takesAtOnce_of_deserted {h : Hub} (deserted : h.Deserted) (i : Nat) :
    h.takesAtOnce i = (h.session? i).isSome := by
  unfold takesAtOnce
  cases h.session? i with
  | none => rfl
  | some s =>
      rw [Option.any_some, beginTakeover, deserted_iff.mp deserted]
      rfl

/-- Where nobody is registered, every session with an open connection is displaced. -/
theorem isDisplaced_of_deserted {h : Hub} (deserted : h.Deserted) (s : Session) :
    h.isDisplaced s = h.isOpen s := by
  unfold isDisplaced
  rw [deserted s.variant]
  exact Bool.and_true _

/-- In a hub that shuts down, where nobody is registered, the takeovers that end with a move that
is not a step of an opening are those that `readmits` names. -/
theorem readmits_eq {h : Hub} (stopping : h.stopping = true) (deserted : h.Deserted) (move : Move) :
    h.readmits move = ((h.takeoverEnded? move).isSome && (h.opens? move).isNone) := by
  have atOnce : ∀ i, h.newTask.1.takesAtOnce i = (h.session? i).isSome := fun i =>
    takesAtOnce_of_deserted (h := h.newTask.1) (fun variant => deserted variant) i
  cases move with
  | reconciling session =>
      simp only [readmits, takeoverEnded?, opens?, atOnce]
      cases h.session? session <;> rfl
  | handling session path decoded =>
      cases decoded with
      | error => rfl
      | ok message =>
          simp only [readmits, takeoverEnded?, opens?, atOnce]
          cases h.session? session with
          | none => rfl
          | some s =>
              simp only [Option.any_some, isDisplaced_of_deserted deserted]
              cases h.isOpen s <;> rfl
  | directoryAnswers id answer =>
      cases answer with
      | error => rfl
      | ok identity =>
          have unidentified : h.identified? id identity = none := by
            unfold identified?
            split
            · simp [stopping]
            · rfl
          simp only [readmits, takeoverEnded?, unidentified]
          rfl
  | resume id =>
      simp only [readmits, takeoverEnded?, opens?]
      cases h.task? id with
      | none => rfl
      | some task =>
          obtain ⟨number, activity⟩ := task
          simp only [Option.map_some, Option.bind_some]
          cases activity <;>
            simp [Activity.taking?, Activity.opened?]
  | _ => rfl

/-- A move that readmits a session empties no slot. -/
theorem clears_of_readmits {h : Hub} {move : Move} (readmits : h.readmits move = true) :
    h.clears move = false := by
  cases move with
  | resume id =>
      simp only [Hub.readmits] at readmits
      simp only [clears]
      split at readmits <;> rename_i found
      · rw [found]
      · rw [found]
      · cases readmits
  | _ => first | rfl | cases readmits

theorem occupied_of_readmits {h next : Hub} {move : Move} (stopping : h.stopping = true)
    (deserted : h.Deserted) (moved : h.step? move = some next)
    (readmits : h.readmits move = true) : ¬next.Deserted := by
  intro still
  have ended := readmits
  rw [readmits_eq stopping deserted, Bool.and_eq_true] at ended
  obtain ⟨⟨task, i⟩, ended⟩ := Option.isSome_iff_exists.mp ended.1
  obtain ⟨s, there⟩ := session_of_takeoverEnded? moved ended
  rcases step?_seated moved ended there with bound | ⟨emptied, -⟩
  · rw [boundTo?, deserted_iff.mp still] at bound
    cases bound
  · rw [clears_of_readmits readmits] at emptied
    cases emptied

/-- An opening whose takeover ends in a hub that shuts down lets go of its slot again. -/
theorem vacated_of_opens {h next : Hub} {move : Move} (sound : h.Sound)
    (stopping : h.stopping = true) (moved : h.step? move = some next) {task i : Nat}
    (ended : h.takeoverEnded? move = some (task, i)) {opened : Nat × Nat}
    (opens : h.opens? move = some opened) {s : Session} (there : next.session? i = some s) :
    next.boundTo? s.variant s.key ≠ some s.link := by
  obtain ⟨id, link⟩ := opened
  cases openingStep_of_step? moved opens with
  | begins target lock => cases ended
  | enters target lock guard => cases ended
  | waits target lock found => simp [takeoverEnded?, found, Activity.taking?] at ended
  | guarded target lock guard found => simp [takeoverEnded?, found, Activity.taking?] at ended
  | answered target guard answer found =>
      -- The peer of an opening is not identified any more.
      cases answer <;> simp [takeoverEnded?, identified?, found, stopping] at ended
  | probed session guard rival probe alive found =>
      obtain ⟨other, t, at_session, rfl⟩ := sound.fit _ (List.mem_of_find?_eq_some found) rfl
      have at_detached : (h.detach id).session? session = some t := at_session
      have adopts := concludeTakeover_adopts at_detached other alive
      have stops := adopts.stopping.trans stopping
      have same : i = session := by
        simp only [takeoverEnded?, found, Option.bind_some, Activity.taking?, at_session,
          Option.map_some, Option.some.injEq, Prod.mk.injEq] at ended
        exact ended.2.symm
      have vacated := vacated_afterTakeover stops adopts.session id t.link guard
      rw [same, (sameStaff_afterTakeover _ id t.link session guard).session?, adopts.session]
        at there
      cases there
      exact vacated

/-- In a hub that shuts down, a move keeps empty rosters empty exactly if it readmits nobody. -/
theorem step?_deserted_iff {h next : Hub} {move : Move} (sound : h.Sound)
    (stopping : h.stopping = true) (deserted : h.Deserted) (moved : h.step? move = some next) :
    next.Deserted ↔ h.readmits move = false := by
  constructor
  · intro still
    exact Bool.eq_false_iff.mpr fun readmits =>
      occupied_of_readmits stopping deserted moved readmits still
  · intro others
    rw [deserted_iff]
    intro variant key
    by_cases own : ∃ task i s, h.takeoverEnded? move = some (task, i) ∧
        next.session? i = some s ∧ s.variant = variant ∧ s.key = key
    · obtain ⟨task, i, s, ended, there, rfl, rfl⟩ := own
      obtain ⟨opened, opens⟩ : ∃ opened, h.opens? move = some opened := by
        rw [readmits_eq stopping deserted, ended, Option.isSome_some, Bool.true_and] at others
        exact Option.isSome_iff_exists.mp (by simpa using others)
      rcases step?_seated moved ended there with bound | ⟨-, emptied⟩
      · exact absurd bound (vacated_of_opens sound stopping moved ended opens there)
      · exact emptied
    · have unseated := step?_unseated moved fun task i s ended there same =>
        own ⟨task, i, s, ended, there, same⟩
      rcases unseated with kept | ⟨-, emptied⟩
      · exact kept.trans (deserted_iff.mp deserted variant key)
      · exact emptied

/-! ### Runs -/

/-- After a shutdown both rosters are empty at every point of a run exactly if no move of the run
readmits a session. -/
theorem deserted_after_shutDown_iff {settings : Settings} {mark : Mark} {before later : List Move}
    {h down last : Hub} (run : (fresh settings mark).run? before = some h)
    (shut : h.step? .shutDown = some down) (ran : down.run? later = some last) :
    (∀ earlier mid, earlier <+: later → down.run? earlier = some mid → mid.Deserted) ↔
      ∀ earlier move mid, earlier ++ [move] <+: later → down.run? earlier = some mid →
        mid.readmits move = false := by
  have sound := step?_sound (sound_of_run? run) shut
  have here : h.shutDown.1 = down := Option.some.inj shut
  have step : ∀ {earlier move mid next}, down.run? earlier = some mid →
      mid.step? move = some next → mid.Deserted →
      (next.Deserted ↔ mid.readmits move = false) := by
    intro earlier move mid next reached moved deserted
    have sound' : mid.Sound := run?_induction step?_sound sound reached
    refine step?_deserted_iff sound' ?_ deserted moved
    exact (run?_persists reached).stopping (here ▸ stopping_shutDown h)
  constructor
  · rintro empty earlier move mid ⟨rest, rfl⟩ reached
    obtain ⟨next, reached', -⟩ := run?_split ran
    obtain ⟨mid', same, moved⟩ := run?_concat.mp reached'
    rw [reached] at same
    cases same
    have deserted := empty earlier mid ⟨move :: rest, by simp⟩ reached
    exact (step reached moved deserted).mp (empty _ next (List.prefix_append _ rest) reached')
  · intro others earlier
    -- Induction on the moves since the shutdown, the last one first.
    induction earlier using List.reverseRecOn with
    | nil =>
        intro mid _ reached
        cases reached
        exact here ▸ deserted_closeAll _ .shutdown
    | append_singleton earlier move ih =>
        intro next part reached
        obtain ⟨mid, reached', moved⟩ := run?_concat.mp reached
        have deserted := ih mid ((List.prefix_append earlier [move]).trans part) reached'
        exact (step reached' moved deserted).mpr (others earlier move mid part reached')

/-- A run in which the second of two connections of one peer takes the slot of the first, whose
answer to a probe does not come in time, and stays open. -/
def displacedRun : List Move :=
  let target : Target := ⟨.device, "/OCPP16/T/K/D1", "T", "K", "D1", "ocpp1.6"⟩
  let identity : Identity := ⟨⟨"T", "T"⟩, ⟨"D1", none, none, none⟩⟩
  [.accept .device, .opening 0 target, .directoryAnswers 0 (.ok identity),
    .accept .device, .opening 1 target, .directoryAnswers 1 (.ok identity),
    .advance 5000, .resume 1]

/-- A message of the first connection arrives. -/
def lateMessage : Move := .handling 0 "/OCPP16/T/K/D1" (.ok (.result "x" (.obj [])))

theorem run?_displacedRun : ∃ h down last, (fresh {} "hub").run? displacedRun = some h ∧
    h.step? .shutDown = some down ∧ down.run? [lateMessage] = some last ∧
    last.registered? .device ⟨"T", "D1"⟩ = some ⟨0, 0⟩ := by
  refine ⟨((fresh {} "hub").run? displacedRun).get (by decide), _, _, rfl, rfl, rfl, ?_⟩
  decide

theorem deserted_after_shutDown_iff_displacedRun : ∃ h down last,
    (fresh {} "hub").run? displacedRun = some h ∧ h.step? .shutDown = some down ∧
    down.run? [lateMessage] = some last ∧
    ((∀ earlier mid, earlier <+: [lateMessage] → down.run? earlier = some mid → mid.Deserted) ↔
      ∀ earlier move mid, earlier ++ [move] <+: [lateMessage] → down.run? earlier = some mid →
        mid.readmits move = false) := by
  obtain ⟨h, down, last, run, shut, ran, -⟩ := run?_displacedRun
  exact ⟨h, down, last, run, shut, ran, deserted_after_shutDown_iff run shut ran⟩

/-- A message of a connection that was displaced before the shutdown puts its session back into the
slot. -/
theorem readmitted_after_shutDown : ∃ h down last,
    (fresh {} "hub").run? displacedRun = some h ∧ h.step? .shutDown = some down ∧
    down.run? [lateMessage] = some last ∧ last.registered? .device ⟨"T", "D1"⟩ = some ⟨0, 0⟩ ∧
    ¬last.Deserted := by
  obtain ⟨h, down, last, run, shut, ran, bound⟩ := run?_displacedRun
  refine ⟨h, down, last, run, shut, ran, bound, ?_⟩
  intro deserted
  rw [deserted_iff.mp deserted] at bound
  cases bound

end StationHub.Hub
