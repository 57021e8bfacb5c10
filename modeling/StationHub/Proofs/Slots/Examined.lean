import StationHub.Proofs.Slots.Takeovers

/-!
What a takeover knows of the connection that it displaces. It looks at its slot when it begins, and
takes it, whoever is in it by then, when it ends.

* `Examined`: a takeover probed a connection in vain.
* `displaced_examined_iff`: an open connection that a takeover displaces was examined by it exactly
  if it held the slot when the takeover began.
-/

namespace StationHub.Hub

variable {h : Hub} {moves : List Move}

/-! ### Takeovers that end at once -/

/-- A takeover that ends at once although an open connection held its slot had its ping refused. -/
theorem refused_of_takesAtOnce {i link : Nat} {s : Session} (here : h.session? i = some s)
    (atOnce : h.takesAtOnce i = true)
    (held : (h.registered? s.variant s.key).bind h.openRival? = some link)
    (other : link ≠ s.link) : (h.startProbe link h.settings.probeTimeout).2 = none := by
  obtain ⟨slot, there, rival⟩ := Option.bind_eq_some_iff.mp held
  have is := link_of_openRival? rival
  have notOwn : slot.link ≠ s.link := is ▸ other
  simp only [takesAtOnce, here, Option.any_some, beginTakeover, there, if_neg notOwn, rival]
    at atOnce
  split at atOnce <;> rename_i started
  · rw [started]
  · cases atOnce

/-- The same for a takeover that begins with a move, in terms of the hub before the move. -/
theorem Begins.refused {base next : Hub} {move : Move} {task i link : Nat} {s : Session}
    (begins : h.Begins move base task i) (atOnce : base.takesAtOnce i = true)
    (numbered : h.Numbered) (moved : h.step? move = some next) (there : next.session? i = some s)
    (held : (h.registered? s.variant s.key).bind h.openRival? = some link)
    (other : link ≠ s.link) : (h.startProbe link h.settings.probeTimeout).2 = none := by
  obtain ⟨s', s'', here, at_next, same⟩ := begins.session moved
  rw [there] at at_next
  cases at_next
  rw [same.variant, same.key] at held
  rw [same.link] at other
  obtain ⟨finds, probes⟩ := begins.finds numbered here other
  rw [← probes]
  exact refused_of_takesAtOnce here atOnce (finds.mpr held) other

/-! ### Rivals that answer -/

/-- A takeover whose rival answered closes it. -/
theorem isClosed_concludeTakeover {i rival : Nat} {s : Session} {l : Link}
    (here : h.session? i = some s) (there : h.link? rival = some l) (coherent : l.Coherent) :
    (h.concludeTakeover i rival true).1.isClosed rival = true := by
  have same : (((h.closed rival .duplicate).count .duplicateClosed).register i s).link? rival =
      (h.closed rival .duplicate).link? rival := link?_register _ i s rival
  have closed := isClosed_closed there coherent .duplicate
  unfold concludeTakeover
  rw [here]
  unfold isClosed at closed ⊢
  exact (congrArg (Option.any Link.closed) same).trans closed

/-- A rival that answered is closed when the takeover has ended. -/
theorem isClosed_of_answered {next : Hub} {task i rival : Nat} {activity : Activity} {s : Session}
    {probe : Link.Probe} (sound : h.Sound) (moved : h.step? (.resume task) = some next)
    (here : h.session? i = some s) (found : h.task? task = some ⟨task, activity⟩)
    (probes : activity.probes? = some (i, rival, probe))
    (answered : h.verdict? rival probe = some true) : next.isClosed rival = true := by
  obtain ⟨waited, found', -, rfl⟩ := resumed moved
  rw [found] at found'
  cases found'
  obtain ⟨l, there, -⟩ := Option.bind_eq_some_iff.mp answered
  have at_detached : (h.detach task).session? i = some s := here
  have closed := isClosed_concludeTakeover (h := h.detach task) at_detached there
    (sound.coherent there)
  have verdict : (h.detach task).verdict? rival probe = some true := answered
  cases activity with
  | openProbing link session guard rival' probe' =>
      cases probes
      have aside : Aside _ True _ _ := aside_afterTakeover
        ((h.detach task).concludeTakeover i rival true).1 task link i guard
      simp only [resume, resumeProbe, verdict]
      exact aside.spares.toPersists.isClosed closed
  | messageProbing session path message rival' probe' =>
      cases probes
      have received : Effect False False _ _ none _ := receive_effect
        ((h.detach task).concludeTakeover i rival true).1 task i path message
      simp only [resume, resumeProbe, verdict]
      exact received.persists.isClosed closed
  | takingOver session rival' probe' =>
      cases probes
      simp only [resume, resumeProbe, verdict]
      exact closed
  | _ => cases probes

/-! ### Displacement -/

/-- What a takeover of task number `task` for session number `i`, which began in `first` and ends in
`last`, knows of the connection: it had probed the connection in vain. -/
inductive Examined (first last : Hub) (atOnce : Prop) (task i link : Nat) : Prop where
  /-- The ping was refused, and the takeover ended at once. -/
  | refused : atOnce → (first.startProbe link first.settings.probeTimeout).2 = none →
      Examined first last atOnce task i link
  /-- The ping was sent when the takeover began, and no pong came in the time of the probe. -/
  | silent (activity : Activity) (probe : Link.Probe) :
      (first.startProbe link first.settings.probeTimeout).2 = some probe →
      last.task? task = some ⟨task, activity⟩ → activity.probes? = some (i, link, probe) →
      last.verdict? link probe = some false → Examined first last atOnce task i link

section

variable {settings : Settings} {mark : Mark} {task i start finish : Nat}
  {first last next : Hub} {s : Session}
  (takes : Takes (fresh settings mark) moves task i start finish)
  (run₀ : (fresh settings mark).run? (moves.take start) = some first)
  (run₁ : (fresh settings mark).run? (moves.take finish) = some last)
  (run₂ : (fresh settings mark).run? (moves.take (finish + 1)) = some next)
  (here : next.session? i = some s)
include takes run₀ run₁ run₂ here

/-- A rival that answered is closed when the takeover has ended. -/
theorem isClosed_of_takes {activity : Activity} {rival : Nat} {probe : Link.Probe}
    (found : last.task? task = some ⟨task, activity⟩)
    (probes : activity.probes? = some (i, rival, probe))
    (answered : last.verdict? rival probe = some true) : next.isClosed rival = true := by
  rcases takes_cases takes run₀ run₁ run₂ here with
    ⟨rfl, rfl, move, base, moved, begins, -⟩ | ⟨-, moved, ⟨s', at_last⟩, -⟩
  · rw [begins.probes?_eq_none (numbered_of_run? run₀) found] at probes
    cases probes
  · exact isClosed_of_answered (sound_of_run? run₁) moved at_last found probes answered

variable {link : Nat}
  (held : (last.registered? s.variant s.key).bind last.openRival? = some link)
  (other : link ≠ s.link)
include held other

/-- An open connection in the slot was probed in vain exactly if it was there from the beginning. -/
theorem examined_iff_held (open_ : next.isClosed link = false) :
    Examined first last (start = finish) task i link ↔
      (first.registered? s.variant s.key).bind first.openRival? = some link := by
  rcases takes_cases takes run₀ run₁ run₂ here with
    ⟨rfl, rfl, move, base, moved, begins, atOnce⟩ |
    ⟨before, moved, -, activity, rival, probe, found, probes, examines⟩
  · have refused := begins.refused atOnce (numbered_of_run? run₀) moved here held other
    exact ⟨fun _ => held, fun _ => .refused rfl refused⟩
  constructor
  · rintro (⟨atOnce, -⟩ | ⟨activity', probe', -, found', probes', -⟩)
    · exact absurd atOnce (Nat.ne_of_lt before)
    · rw [found] at found'
      cases found'
      rw [probes] at probes'
      cases probes'
      exact examines.held
  · intro held'
    obtain rfl : rival = link := Option.some.inj (examines.held.symm.trans held')
    obtain ⟨waited, found', ready, -⟩ := resumed moved
    rw [found] at found'
    cases found'
    have decided : (last.verdict? rival probe).isSome = true := by
      cases activity <;> cases probes <;> exact ready
    obtain ⟨alive, verdict⟩ := Option.isSome_iff_exists.mp decided
    cases alive with
    | false => exact .silent activity probe examines.begun found probes verdict
    | true =>
        rw [isClosed_of_takes takes run₀ run₁ run₂ here found probes verdict] at open_
        cases open_

/-- Whoever is in the slot when the takeover ends was there when it began, or came in between. -/
theorem held_or_ended_between :
    first.boundTo? s.variant s.key = some link ∨ ∃ n task' rival,
      (last.registered? s.variant s.key).map Slot.session = some rival ∧
      start < n ∧ n < finish ∧
      (fresh settings mark).endedAt? moves n = some (task', rival) := by
  obtain ⟨slot, there, rival⟩ := Option.bind_eq_some_iff.mp held
  have is := link_of_openRival? rival
  have ordered : start ≤ finish := by
    rcases takes_cases takes run₀ run₁ run₂ here with ⟨same, -⟩ | ⟨before, -⟩
    · exact Nat.le_of_eq same
    · exact Nat.le_of_lt before
  have inside := lt_length_of_endedAt? takes.ended
  rcases slot_of_run? ordered run₀ run₁ (Nat.le_of_lt inside) there with
    same | ⟨n, task', from_start, to_finish, ended⟩
  · left
    rw [boundTo?, same, ← is]
    rfl
  · refine .inr ⟨n, task', slot.session, by rw [there]; rfl, ?_, to_finish, ended⟩
    refine Nat.lt_of_le_of_ne from_start ?_
    -- What ended with the move with which the takeover began would be the takeover itself.
    rintro rfl
    cases endedAt?_of_begunAt? takes.begun ended
    obtain ⟨t, at_slot, -, -, on⟩ := (sound_of_run? run₁).slots there
    obtain ⟨last', move, run₁', -, moved⟩ := run?_take_succ inside run₂
    rw [run₁] at run₁'
    cases run₁'
    obtain ⟨t', at_next, peer⟩ := (step?_persists moved).session at_slot
    rw [here] at at_next
    cases at_next
    exact other (is.symm.trans (on.symm.trans peer.link.symm))

end

/-- What a takeover of a slot knows of an open connection that it displaces: it had probed the
connection in vain exactly if that held the slot when the takeover began. Whoever came into the slot
later came with a takeover that ended in between. A rival that answered is closed. -/
theorem displaced_examined_iff {settings : Settings} {mark : Mark} {task i start finish : Nat}
    {first last next : Hub} {s : Session} {link : Nat}
    (takes : Takes (fresh settings mark) moves task i start finish)
    (run₀ : (fresh settings mark).run? (moves.take start) = some first)
    (run₁ : (fresh settings mark).run? (moves.take finish) = some last)
    (run₂ : (fresh settings mark).run? (moves.take (finish + 1)) = some next)
    (here : next.session? i = some s)
    (held : (last.registered? s.variant s.key).bind last.openRival? = some link)
    (other : link ≠ s.link) (open_ : next.isClosed link = false) :
    (Examined first last (start = finish) task i link ↔
      (first.registered? s.variant s.key).bind first.openRival? = some link) ∧
    (first.boundTo? s.variant s.key = some link ∨ ∃ n task' rival,
      (last.registered? s.variant s.key).map Slot.session = some rival ∧
      start < n ∧ n < finish ∧ (fresh settings mark).endedAt? moves n = some (task', rival)) ∧
    ∀ activity rival probe, last.task? task = some ⟨task, activity⟩ →
      activity.probes? = some (i, rival, probe) → last.verdict? rival probe = some true →
      next.isClosed rival = true :=
  ⟨examined_iff_held takes run₀ run₁ run₂ here held other open_,
    held_or_ended_between takes run₀ run₁ run₂ here held other,
    fun _ _ _ => isClosed_of_takes takes run₀ run₁ run₂ here⟩

/-- The points of `overtakenRun` at which the takeover of the second connection begins and ends. The
slot is bound to the third connection by then, which is open and stays so. -/
theorem run?_overtakenRun_takes : ∃ first last next s,
    (fresh {} "hub").run? (overtakenRun.take 5) = some first ∧
    (fresh {} "hub").run? (overtakenRun.take 11) = some last ∧
    (fresh {} "hub").run? (overtakenRun.take 12) = some next ∧
    Takes (fresh {} "hub") overtakenRun 1 1 5 11 ∧ next.session? 1 = some s ∧
    (s.variant, s.key, s.link) = (.device, ⟨"T", "D1"⟩, 1) ∧
    (last.registered? .device ⟨"T", "D1"⟩).bind last.openRival? = some 2 ∧
    next.isClosed 2 = false ∧ next.registered? .device ⟨"T", "D1"⟩ = some ⟨1, 1⟩ ∧
    ((last.task? 1).bind fun task => task.activity.probes?.map fun probed => probed.2.1) =
      some 0 := by
  refine ⟨((fresh {} "hub").run? (overtakenRun.take 5)).get (by decide),
    ((fresh {} "hub").run? (overtakenRun.take 11)).get (by decide),
    ((fresh {} "hub").run? (overtakenRun.take 12)).get (by decide), _, rfl, rfl, rfl,
    ⟨by decide, by decide⟩, rfl, ?_, ?_, ?_, ?_, ?_⟩
  · decide
  · decide
  · decide
  · decide
  · decide

theorem displaced_examined_iff_overtakenRun : ∃ first last next s,
    (fresh {} "hub").run? (overtakenRun.take 5) = some first ∧
    (fresh {} "hub").run? (overtakenRun.take 11) = some last ∧
    (fresh {} "hub").run? (overtakenRun.take 12) = some next ∧ next.session? 1 = some s ∧
    (Examined first last (5 = 11) 1 1 2 ↔
      (first.registered? s.variant s.key).bind first.openRival? = some 2) := by
  obtain ⟨first, last, next, s, run₀, run₁, run₂, takes, here, is, held, open_, -, -⟩ :=
    run?_overtakenRun_takes
  obtain ⟨isVariant, isKey, isLink⟩ : s.variant = .device ∧ s.key = ⟨"T", "D1"⟩ ∧ s.link = 1 := by
    simpa using is
  rw [← isVariant, ← isKey] at held
  exact ⟨first, last, next, s, run₀, run₁, run₂, here,
    (displaced_examined_iff takes run₀ run₁ run₂ here held (by rw [isLink]; decide) open_).1⟩

/-- The second connection displaces the third one, which is open and was never probed. -/
theorem displaced_unexamined : ∃ first last next,
    (fresh {} "hub").run? (overtakenRun.take 5) = some first ∧
    (fresh {} "hub").run? (overtakenRun.take 11) = some last ∧
    (fresh {} "hub").run? (overtakenRun.take 12) = some next ∧
    Takes (fresh {} "hub") overtakenRun 1 1 5 11 ∧
    (last.registered? .device ⟨"T", "D1"⟩).bind last.openRival? = some 2 ∧
    next.isClosed 2 = false ∧ next.registered? .device ⟨"T", "D1"⟩ = some ⟨1, 1⟩ ∧
    ¬Examined first last (5 = 11) 1 1 2 := by
  obtain ⟨first, last, next, s, run₀, run₁, run₂, takes, -, -, held, open_, bound, probed⟩ :=
    run?_overtakenRun_takes
  refine ⟨first, last, next, run₀, run₁, run₂, takes, held, open_, bound, ?_⟩
  rintro (⟨atOnce, -⟩ | ⟨activity, probe, -, found, probes, -⟩)
  · cases atOnce
  · rw [found, Option.bind_some] at probed
    dsimp only at probed
    rw [probes] at probed
    cases probed

end StationHub.Hub
