import StationHub.Proofs.Openings.Bearers

/-!
What holds of a hub all along.

* `Sound`: a slot is bound to the connection of its session, under the key of its session; closing
  leaves coherent signs; and an opening that probes a rival has a session on its own connection.
* `sound_of_run?`: a hub is sound in every run from its start.
-/

namespace StationHub.Hub

/-- A task that opens a connection has made a session on it, and probes another connection. -/
def FitToProbe (h : Hub) (activity : Activity) : Prop :=
  ∀ {link session : Nat} {guard : Guard} {rival : Nat} {probe : Link.Probe},
    activity = .openProbing link session guard rival probe →
    rival ≠ link ∧ ∃ s, h.session? session = some s ∧ s.link = link

/-- What holds of a hub all along. -/
structure Sound (h : Hub) : Prop where
  slots : ∀ {variant : Variant} {key : Key} {slot : Slot Nat Nat},
    h.registered? variant key = some slot →
    ∃ s, h.session? slot.session = some s ∧ s.variant = variant ∧ s.key = key ∧
      s.link = slot.link
  coherent : ∀ {i : Nat} {link : Link}, h.link? i = some link → link.Coherent
  fit : ∀ task ∈ h.tasks, h.FitToProbe task.activity

theorem sound_fresh (settings : Settings) (mark : Mark) : (fresh settings mark).Sound where
  slots := by
    intro variant key slot there
    cases variant <;> cases there
  coherent := fun here => nomatch here
  fit := fun _ member => nomatch member

/-! ### Slots -/

theorem step?_slots {h next : Hub} {move : Move} (sound : h.Sound)
    (moved : h.step? move = some next) {variant : Variant} {key : Key} {slot : Slot Nat Nat}
    (there : next.registered? variant key = some slot) :
    ∃ s, next.session? slot.session = some s ∧ s.variant = variant ∧ s.key = key ∧
      s.link = slot.link := by
  obtain ⟨a, b, before, seats, persists, slots⟩ := (step?_effect moved).slots
  have in_b : b.registered? variant key = some slot := by
    rcases slots variant key with same | ⟨-, emptied⟩
    · rw [← same]
      exact there
    · rw [emptied] at there
      cases there
  have onward : ∀ {s : Session}, a.session? slot.session = some s → s.variant = variant →
      s.key = key → s.link = slot.link → ∃ s, next.session? slot.session = some s ∧
        s.variant = variant ∧ s.key = key ∧ s.link = slot.link := by
    intro s at_a isVariant isKey isLink
    obtain ⟨s', at_next, same⟩ := persists.session at_a
    exact ⟨s', at_next, same.variant.trans isVariant, same.key.trans isKey, same.link.trans isLink⟩
  have in_a : a.registered? variant key = some slot → ∃ s, next.session? slot.session = some s ∧
      s.variant = variant ∧ s.key = key ∧ s.link = slot.link := by
    intro bound
    rcases before.slot variant key with same | ⟨-, emptied⟩
    · obtain ⟨s, here, isVariant, isKey, isLink⟩ := sound.slots (same ▸ bound)
      obtain ⟨s', at_a, peer⟩ := before.session here
      exact onward at_a (peer.variant.trans isVariant) (peer.key.trans isKey)
        (peer.link.trans isLink)
    · rw [emptied] at bound
      cases bound
  cases taken : (h.takeoverEnded? move).map Prod.snd with
  | none =>
      rw [taken] at seats
      obtain rfl : b = a := seats
      exact in_a in_b
  | some i =>
      rw [taken] at seats
      obtain ⟨s, at_a, rfl | ⟨rfl, -⟩⟩ := seats
      · by_cases same : s.variant = variant ∧ s.key = key
        · obtain ⟨rfl, rfl⟩ := same
          rw [registered?_register_self] at in_b
          cases in_b
          exact onward at_a rfl rfl rfl
        · rw [registered?_register_of_ne same] at in_b
          exact in_a in_b
      · exact in_a in_b

/-! ### Tasks -/

theorem FitToProbe.persists {h next : Hub} {activity : Activity} (fit : h.FitToProbe activity)
    (persists : h.Persists next) : next.FitToProbe activity := by
  intro link session guard rival probe is
  obtain ⟨other, s, here, on⟩ := fit is
  obtain ⟨s', there, same⟩ := persists.session here
  exact ⟨other, s', there, same.link.trans on⟩

theorem fitToProbe_of_not_opened {activity : Activity} (other : activity.opened? = none)
    (h : Hub) : h.FitToProbe activity := by
  intro link session guard rival probe is
  rw [is] at other
  cases other

theorem fitToProbe_of_seeks {activity : Activity} {link : Nat}
    (seeks : activity.seeks? = some link) (h : Hub) : h.FitToProbe activity := by
  intro other session guard rival probe is
  rw [is] at seeks
  cases seeks

/-- What waits when the directory has answered is fit to probe. -/
theorem fit_afterDirectory {h : Hub} {id link : Nat} {guard : Guard}
    {answer : Except Failure Identity} {task : Task}
    (member : task ∈ (h.afterDirectory id link guard answer).tasks) :
    task ∈ h.tasks ∨ (h.afterDirectory id link guard answer).FitToProbe task.activity := by
  unfold afterDirectory at member ⊢
  cases answer with
  | error failure =>
      left
      have closed := sameStaff_closed (h.count .resolutionFailed) link .unidentified
      exact closed.tasks ▸ member
  | ok identity =>
      dsimp only at member ⊢
      split at member
      · exact .inl member
      · rename_i open_
        rw [if_neg open_]
        split at member
        · exact .inl ((sameStaff_closed h link .shutdown).tasks ▸ member)
        · rename_i running
          rw [if_neg running]
          cases here : h.link? link with
          | none =>
              unfold afterIdentified at member
              rw [here] at member
              exact .inl member
          | some l =>
              obtain ⟨sessions, tasks | ⟨rival, probe, other, tasks⟩⟩ :=
                afterIdentified_staff here id guard identity
              · exact .inl (tasks ▸ member)
              · rw [tasks] at member
                rcases List.mem_append.mp member with old | new
                · exact .inl old
                · right
                  rw [List.mem_singleton.mp new]
                  intro link' session guard' rival' probe' is
                  cases is
                  refine ⟨other, h.newSession link l.variant identity, ?_, rfl⟩
                  show (h.afterIdentified id link guard identity).sessions[h.sessions.length]? = _
                  rw [sessions]
                  simp

theorem step?_fit {h next : Hub} {move : Move} (sound : h.Sound)
    (moved : h.step? move = some next) : ∀ task ∈ next.tasks, next.FitToProbe task.activity := by
  have persists := step?_persists moved
  have old : ∀ task ∈ h.tasks, next.FitToProbe task.activity := fun task member =>
    FitToProbe.persists (sound.fit task member) persists
  cases known : h.opens? move with
  | none =>
      obtain ⟨⟨kept, added, tasks, sub, shut⟩, -⟩ := step?_idles moved known
      intro task member
      rw [tasks] at member
      rcases List.mem_append.mp member with still | new
      · exact old task (sub.subset still)
      · exact fitToProbe_of_not_opened (shut task new) next
  | some opened =>
      obtain ⟨id, link⟩ := opened
      have left : ∀ task ∈ (h.detach id).tasks, next.FitToProbe task.activity := fun task member =>
        old task (List.mem_filter.mp member).1
      -- What waits for a path or the directory probes nobody.
      have waits : ∀ {before : List Task} {activity : Activity},
          (∀ task ∈ before, next.FitToProbe task.activity) → activity.seeks? = some link →
          ∀ task ∈ before ++ [⟨id, activity⟩], next.FitToProbe task.activity := by
        intro before activity fit seeks task member
        rcases List.mem_append.mp member with still | new
        · exact fit task still
        · rw [List.mem_singleton.mp new]
          exact fitToProbe_of_seeks seeks next
      have guarded : ∀ {mid : Hub} {target : Target} {guard : Guard},
          (∀ task ∈ mid.tasks, next.FitToProbe task.activity) →
          ∀ task ∈ (mid.afterGuard id link target guard).tasks, next.FitToProbe task.activity := by
        intro mid target guard fit
        rcases (afterGuard_staff mid id link target guard).2 with tasks | tasks
        · rw [tasks]
          exact fit
        · rw [tasks]
          exact waits fit rfl
      cases openingStep_of_step? moved known with
      | begins target lock => exact waits old rfl
      | enters target lock guard => exact guarded old
      | waits target lock found => exact waits left rfl
      | guarded target lock guard found => exact guarded left
      | answered target guard answer found =>
          intro task member
          rcases fit_afterDirectory member with still | fit
          · exact left task still
          · exact fit
      | probed session guard rival probe alive found =>
          rw [(sameStaff_probed (h.detach id) id link session rival guard alive).tasks]
          exact left

/-! ### Runs -/

theorem step?_sound {h next : Hub} {move : Move} (sound : h.Sound)
    (moved : h.step? move = some next) : next.Sound where
  slots := step?_slots sound moved
  coherent := (step?_persists moved).coherent sound.coherent
  fit := step?_fit sound moved

/-- A hub is sound in every run from its start. -/
theorem sound_of_run? {settings : Settings} {mark : Mark} {moves : List Move} {h : Hub}
    (run : (fresh settings mark).run? moves = some h) : h.Sound :=
  run?_induction (P := Sound) step?_sound (sound_fresh settings mark) run

/-- A connection that is opened once has one session at most. -/
theorem single_of_run? {settings : Settings} {mark : Mark} {moves : List Move} {last : Hub}
    (run : (fresh settings mark).run? moves = some last) {link : Nat}
    (once : moves.countP (Move.opensLink link) ≤ 1) : last.dwellers link ≤ 1 := by
  have borne := bearers_le_of_run? run link
  have none : (fresh settings mark).bearers link = 0 := rfl
  unfold bearers at borne none
  omega

end StationHub.Hub
