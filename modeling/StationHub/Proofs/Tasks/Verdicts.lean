import StationHub.Proofs.Link.Aspects
import StationHub.Proofs.Openings.Lifecycle

/-!
When probes are answered.

* `pongs_of_step?`, `pongs_of_run?`: a connection counts the pongs that come of it.
* `verdict?_of_run?`: a probe is answered exactly if a pong comes while it waits.
* `RecordsPong`: a pong is recorded by a given time.
-/

namespace StationHub.Hub

variable {later : List Move} {h last next : Hub} {move : Move} {i : Nat} {l : Link}

theorem pong_of_allows (allowed : h.Allows move i .pong) : move = .pong i := by
  cases allowed with
  | passing passing => cases passing
  | meant meant =>
      cases move <;> cases meant
      rfl

/-- A connection counts one pong more with the move exactly if a pong of it comes. -/
theorem pongs_of_step? {c c' : Connection} (moved : h.step? move = some next)
    (here : h.connection? i = some c) (there : next.connection? i = some c') :
    c.link.pongs ≤ c'.link.pongs ∧ (c.link.pongs < c'.link.pongs ↔ move = .pong i) := by
  by_cases pong : move = .pong i
  · subst pong
    cases moved
    have changed := connection?_modifyConnection h i i fun c => { c with link := c.link.pong h.now }
    rw [here, Option.map_some, if_pos rfl] at changed
    cases there.symm.trans changed
    exact ⟨Nat.le_succ _, iff_of_true (Nat.lt_succ_self _) rfl⟩
  · have same := (goes_of_step? moved here there).pongs fun allowed => pong (pong_of_allows allowed)
    exact ⟨Nat.le_of_eq same.symm, iff_of_false (Nat.not_lt.mpr (Nat.le_of_eq same)) pong⟩

/-- The same for a run. -/
theorem pongs_of_run? {c c' : Connection} (run : h.run? later = some last)
    (here : h.connection? i = some c) (there : last.connection? i = some c') :
    c.link.pongs ≤ c'.link.pongs ∧ (c.link.pongs < c'.link.pongs ↔ .pong i ∈ later) := by
  induction later generalizing h c with
  | nil =>
      cases run
      cases here.symm.trans there
      simp
  | cons move rest ih =>
      rw [run?_cons] at run
      obtain ⟨next, moved, run⟩ := Option.bind_eq_some_iff.mp run
      obtain ⟨c₁, at_next, -⟩ := (step?_persists moved).connection here
      obtain ⟨le, counts⟩ := pongs_of_step? moved here at_next
      obtain ⟨le', counts'⟩ := ih run at_next
      refine ⟨Nat.le_trans le le', ?_⟩
      rw [List.mem_cons, ← counts', eq_comm (a := Move.pong i), ← counts]
      omega

/-- The verdict of a probe that began when the connection was in the state `l`: positive if a pong
came since, and negative if none came and the time is over. -/
theorem verdict?_of_run? (run : h.run? later = some last) (here : h.link? i = some l)
    (deadline : Nat) :
    (last.verdict? i ⟨l.pongs, deadline⟩ = some true ↔ .pong i ∈ later) ∧
      (last.verdict? i ⟨l.pongs, deadline⟩ = some false ↔
        .pong i ∉ later ∧ deadline ≤ last.now) := by
  obtain ⟨c, at_h, rfl⟩ := link?_eq_some_iff.mp here
  obtain ⟨c', at_last, -⟩ := (run?_persists run).connection at_h
  obtain ⟨-, counts⟩ := pongs_of_run? run at_h at_last
  have there : last.link? i = some c'.link := link?_eq_some_iff.mpr ⟨c', at_last, rfl⟩
  rw [← counts, verdict?, there, Option.bind_some, Link.Probe.verdict?]
  dsimp only
  by_cases answered : c.link.pongs < c'.link.pongs
  · simp [answered]
  · by_cases late : deadline ≤ last.now <;> simp [answered, late]

/-- A pong of connection number `i` is recorded by `latest` in the course of the moves. -/
def RecordsPong (h : Hub) (moves : List Move) (i latest : Nat) : Prop :=
  ∃ earlier rest mid, moves = earlier ++ .pong i :: rest ∧ h.run? earlier = some mid ∧
    mid.now ≤ latest

theorem recordsPong_iff {latest : Nat} (run : h.run? later = some last)
    (inTime : last.now ≤ latest) : h.RecordsPong later i latest ↔ .pong i ∈ later := by
  constructor
  · rintro ⟨earlier, rest, mid, rfl, -, -⟩
    simp
  · intro member
    obtain ⟨earlier, rest, rfl⟩ := List.append_of_mem member
    obtain ⟨mid, run', goesOn⟩ := run?_split run
    exact ⟨earlier, rest, mid, rfl, run', Nat.le_trans (run?_persists goesOn).now inTime⟩

end StationHub.Hub
