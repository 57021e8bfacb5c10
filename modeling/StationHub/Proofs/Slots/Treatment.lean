import StationHub.Proofs.Link.Aspects
import StationHub.Proofs.Slots.Verdicts

/-!
What the moves of sweeps do to one connection and its slot.

* `Link.judged`, `Link.forfeits`: what the result of a probe makes of a connection, and whether this
  loses its slot.
* `Leaves`, `leaves_of_sweep`: a move of a sweep does nothing to a connection that is at none of the
  places it looks at, nor to a slot that is bound to it.
* `Treats`: the connection at a place and its slot are treated as the result there demands.
* `treats_beginMember`, `treats_resumeMember`: that is how the member at the place is swept, and
  `treats_eachMember`: so it is when all of a roster are, if no other place has the connection.
* `treats_of_sweep`: and so does every move of a sweep.
* `forfeits_of_unbound`: whose slot is taken from it with a move of a sweep in a run.
-/

namespace StationHub

namespace Link

variable {threshold : Nat} {gone : Bool} {l l' l'' : Link} {verdict? : Option Bool}

/-- Two states of a connection with the same failures, both open or closed for the same cause. -/
structure Alike (l l' : Link) : Prop where
  closed : l'.closed = l.closed
  cause : l'.cause = l.cause
  failures : l'.failures = l.failures

theorem Alike.refl (l : Link) : l.Alike l := ⟨rfl, rfl, rfl⟩

theorem Alike.trans (first : l.Alike l') (second : l'.Alike l'') : l.Alike l'' :=
  ⟨second.closed.trans first.closed, second.cause.trans first.cause,
    second.failures.trans first.failures⟩

theorem Alike.addFailure (alike : l.Alike l') : l.addFailure.Alike l'.addFailure := by
  refine ⟨alike.closed, alike.cause, ?_⟩
  rw [Link.addFailure, Link.addFailure, alike.failures]

theorem Alike.close (alike : l.Alike l') (cause : CloseCause) :
    (l.close cause).1.Alike (l'.close cause).1 := by
  refine ⟨?_, ?_, ?_⟩
  · cases known : l.cause with
    | none => rw [close_of_open known, close_of_open (alike.cause.trans known)]
    | some first =>
        rw [close_of_cause known, close_of_cause (alike.cause.trans known)]
        exact alike.closed
  · rw [cause_close, cause_close, alike.cause]
  · rw [failures_close, failures_close, alike.failures]

/-- What the result of a probe makes of a connection. One that is `gone` is not probed. -/
def judged (threshold : Nat) (gone : Bool) (l : Link) : Option Bool → Link
  | none => l
  | some true => l.resetFailures
  | some false =>
      if gone then l
      else if l.addFailure.failures < threshold then l.addFailure
      else (l.addFailure.close .unresponsive).1

/-- The result of a probe costs the connection its slot: it is gone, or has failed too often. -/
def forfeits (threshold : Nat) (gone : Bool) (l : Link) : Option Bool → Bool
  | some false => gone || decide (threshold ≤ l.addFailure.failures)
  | _ => false

theorem judged_of_lt (fewer : l.addFailure.failures < threshold) :
    l.judged threshold false (some false) = l.addFailure := by
  simp only [judged, fewer, if_true, Bool.false_eq_true, if_false]

theorem judged_of_le (tooMany : threshold ≤ l.addFailure.failures) :
    l.judged threshold false (some false) = (l.addFailure.close .unresponsive).1 := by
  simp only [judged, Nat.not_lt.mpr tooMany, Bool.false_eq_true, if_false]

/-- Only a failed probe costs a connection its slot. -/
theorem eq_of_forfeits (forfeits : l.forfeits threshold gone verdict? = true) :
    verdict? = some false ∧ (gone = true ∨ threshold ≤ l.addFailure.failures) := by
  rcases verdict? with _ | _ | _
  · cases forfeits
  · exact ⟨rfl, by simpa [Link.forfeits] using forfeits⟩
  · cases forfeits

/-- What is closed stays closed, for the same cause. -/
theorem latched_judged {cause : CloseCause} (closed : l.closed = true)
    (first : l.cause = some cause) (threshold : Nat) (gone : Bool) (verdict? : Option Bool) :
    (l.judged threshold gone verdict?).closed = true ∧
      (l.judged threshold gone verdict?).cause = some cause := by
  have kept : l.addFailure.cause = some cause := first
  unfold judged
  split
  · exact ⟨closed, first⟩
  · exact ⟨closed, first⟩
  · rw [close_of_cause kept]
    split
    · exact ⟨closed, first⟩
    · split <;> exact ⟨closed, first⟩

theorem Alike.judged (alike : l.Alike l') (threshold : Nat) (gone : Bool)
    (verdict? : Option Bool) :
    (l.judged threshold gone verdict?).Alike (l'.judged threshold gone verdict?) := by
  rcases verdict? with _ | _ | _
  · exact alike
  · cases gone with
    | true => exact alike
    | false =>
        have same := alike.addFailure.failures
        rcases Nat.lt_or_ge l.addFailure.failures threshold with fewer | tooMany
        · rw [judged_of_lt fewer, judged_of_lt (same ▸ fewer)]
          exact alike.addFailure
        · rw [judged_of_le tooMany, judged_of_le (same ▸ tooMany)]
          exact alike.addFailure.close .unresponsive
  · exact ⟨alike.closed, alike.cause, rfl⟩

theorem Alike.forfeits (alike : l.Alike l') (threshold : Nat) (gone : Bool)
    (verdict? : Option Bool) :
    l'.forfeits threshold gone verdict? = l.forfeits threshold gone verdict? := by
  unfold Link.forfeits
  rw [alike.addFailure.failures]

end Link

/-- The variant of the roster that an activity sweeps. -/
def Activity.swept? : Activity → Option Variant
  | .sweeping variant _ _ => some variant
  | _ => none

namespace Hub

variable {place : Place} {variant : Variant} {h mid next : Hub} {i link : Nat} {gone : Bool}
  {verdict? verdict?' : Option Bool}

/-! ### Connections that are left alone -/

/-- Connection number `i` is left as it is, and so are all sessions and every slot that is bound to
it; other slots may be emptied. -/
structure Leaves (i : Nat) (h next : Hub) : Prop where
  settings : next.settings = h.settings
  sessions : next.sessions = h.sessions
  link : next.link? i = h.link? i
  slot : ∀ variant key, next.registered? variant key = h.registered? variant key ∨
    h.boundTo? variant key ≠ some i ∧ next.registered? variant key = none

/-- What changes neither settings, sessions nor rosters, nor the connection, leaves it alone. -/
theorem leaves_of_rosters (settings : next.settings = h.settings)
    (sessions : next.sessions = h.sessions) (link : next.link? i = h.link? i)
    (rosters : ∀ variant, next.roster variant = h.roster variant) : Leaves i h next :=
  ⟨settings, sessions, link, fun variant key => .inl (by rw [registered?, registered?, rosters])⟩

theorem Leaves.refl (i : Nat) (h : Hub) : Leaves i h h := leaves_of_rosters rfl rfl rfl fun _ => rfl

theorem Leaves.trans (first : Leaves i h mid) (second : Leaves i mid next) : Leaves i h next := by
  refine ⟨second.settings.trans first.settings, second.sessions.trans first.sessions,
    second.link.trans first.link, fun variant key => ?_⟩
  rcases first.slot variant key with same | ⟨unbound, emptied⟩
  · rcases second.slot variant key with same' | ⟨unbound, emptied⟩
    · exact .inl (same'.trans same)
    · rw [boundTo?, same] at unbound
      exact .inr ⟨unbound, emptied⟩
  · refine .inr ⟨unbound, ?_⟩
    rcases second.slot variant key with same' | ⟨-, emptied'⟩
    · exact same'.trans emptied
    · exact emptied'

theorem leaves_suspend (h : Hub) (id : Nat) (activity : Activity) :
    Leaves i h (h.suspend id activity) :=
  leaves_of_rosters rfl rfl rfl fun variant => by cases variant <;> rfl

theorem leaves_conclude (h : Hub) (id : Nat) (outcome : TaskOutcome) :
    Leaves i h (h.conclude id outcome) :=
  leaves_of_rosters rfl rfl rfl fun variant => by cases variant <;> rfl

theorem leaves_count (h : Hub) (occasion : Counters.Occasion) : Leaves i h (h.count occasion) :=
  leaves_of_rosters rfl rfl rfl fun variant => by cases variant <;> rfl

theorem leaves_countEvicted (h : Hub) (members : List Member) :
    Leaves i h (h.countEvicted members) := by
  obtain ⟨counters, same⟩ := countEvicted_eq h members
  rw [same]
  exact leaves_of_rosters rfl rfl rfl fun variant => by cases variant <;> rfl

theorem leaves_sweepManagement (h : Hub) (id : Nat) (members : List Member)
    (report : SweepReport) : Leaves i h (h.sweepManagement id members report) := by
  unfold sweepManagement
  split
  · exact leaves_suspend h id _
  · exact (leaves_countEvicted h members).trans (leaves_conclude _ id _)

section Others

variable (other : link ≠ i)
include other

theorem leaves_modifyLink (h : Hub) (change : Link → Link) :
    Leaves i h (h.modifyLink link change) :=
  leaves_of_rosters rfl rfl (link?_modifyLink_of_ne other h change)
    (roster_modifyLink h link change)

theorem leaves_startProbe (h : Hub) (wait : Nat) : Leaves i h (h.startProbe link wait).1 := by
  refine leaves_of_rosters (settings_startProbe h link wait) ?_
    (link?_startProbe_of_ne other h wait) (roster_startProbe h link wait)
  unfold startProbe
  split <;> rfl

theorem leaves_closed (h : Hub) (cause : CloseCause) : Leaves i h (h.closed link cause) := by
  unfold closed closeLink
  split
  · exact .refl i h
  · next l _ => exact leaves_modifyLink other h fun _ => (l.close cause).1

/-- A slot that is let go on behalf of another connection is not bound to this one. -/
theorem leaves_unregister (h : Hub) (variant : Variant) (key : Key) :
    Leaves i h (h.unregister variant key link).1 := by
  refine ⟨settings_setRoster h variant _, ?_, link?_unregister h variant key link i, ?_⟩
  · cases variant <;> rfl
  intro variant' key'
  rcases registered?_unregister h variant key link variant' key' with
    same | ⟨⟨rfl, rfl⟩, bound, emptied⟩
  · exact .inl same
  · refine .inr ⟨fun bound' => other ?_, emptied⟩
    exact Option.some.inj (bound.symm.trans bound')

theorem leaves_failMember (h : Hub) (variant : Variant) (key : Key) :
    Leaves i h (h.failMember variant key link).1 := by
  have counted : Leaves i h ((h.count .pingFailure).modifyLink link Link.addFailure) :=
    (leaves_count h _).trans (leaves_modifyLink other _ _)
  unfold failMember
  dsimp only
  split
  · exact counted
  · exact (counted.trans (leaves_closed other _ _)).trans (leaves_unregister other _ variant key)

theorem leaves_beginMember (h : Hub) (variant : Variant) (key : Key) :
    Leaves i h (h.beginMember variant key link).1 := by
  have probed : Leaves i h (h.startProbe link h.settings.probeTimeout).1 :=
    leaves_startProbe other h _
  unfold beginMember
  split
  · split <;> rename_i started <;> rw [started] at probed
    · exact probed
    · exact probed.trans (leaves_failMember other _ variant key)
  · exact leaves_unregister other h variant key

end Others

theorem leaves_resumeMember {member : Member} (other : member.link ≠ i) (h : Hub)
    (variant : Variant) : Leaves i h (h.resumeMember variant member).1 := by
  unfold resumeMember
  split
  · exact .refl i h
  · split
    · exact .refl i h
    · exact leaves_modifyLink other h _
    · exact leaves_failMember other h variant member.key

theorem leaves_eachMember {α β : Type} {act : Hub → α → Hub × β} {items : List α}
    (leaves : ∀ h, ∀ item ∈ items, Leaves i h (act h item).1) (h : Hub) :
    Leaves i h (eachMember act h items).1 := by
  induction items generalizing h with
  | nil => exact .refl i h
  | cons item rest ih =>
      exact (leaves h item List.mem_cons_self).trans
        (ih (fun h other inside => leaves h other (List.mem_cons_of_mem _ inside)) _)

theorem leaves_beginRoster (away : ∀ place ∈ h.places variant, place.link ≠ i) :
    Leaves i h (h.beginRoster variant).1 :=
  leaves_eachMember (fun h entry inside =>
    leaves_beginMember (away _ (List.mem_map_of_mem inside)) h variant entry.1) h

theorem leaves_resumeMembers {members : List Member}
    (away : ∀ place ∈ members.map (Member.place variant), place.link ≠ i) :
    Leaves i h (eachMember (fun h member => h.resumeMember variant member) h members).1 :=
  leaves_eachMember (fun h _ inside =>
    leaves_resumeMember (away _ (List.mem_map_of_mem inside)) h variant) h

/-! ### The treatment of a place -/

/-- The connection at a place, and the slot of the place if it is bound to it, are treated as the
result there demands, and nothing is done to them if there is none. -/
structure Treats (place : Place) (gone : Bool) (verdict? : Option Bool) (h next : Hub) : Prop where
  settings : next.settings = h.settings
  link : ∀ {l}, h.link? place.link = some l → ∃ l', next.link? place.link = some l' ∧
    (l.judged h.settings.failureThreshold gone verdict?).Alike l'
  bound : ∀ {l}, h.link? place.link = some l →
    h.boundTo? place.variant place.key = some place.link →
    next.registered? place.variant place.key =
      if l.forfeits h.settings.failureThreshold gone verdict? then none
      else h.registered? place.variant place.key
  /-- A slot that is bound to another connection may be emptied on behalf of that one. -/
  unbound : h.boundTo? place.variant place.key ≠ some place.link →
    next.registered? place.variant place.key = h.registered? place.variant place.key ∨
      next.registered? place.variant place.key = none

/-- Where there is no result it does not matter whether the connection is gone. -/
theorem Treats.recast {gone' : Bool} (treats : Treats place gone none h next) :
    Treats place gone' none h next :=
  ⟨treats.settings, treats.link, treats.bound, treats.unbound⟩

theorem Leaves.treats (leaves : Leaves place.link h next) : Treats place gone none h next where
  settings := leaves.settings
  link := fun {l} here => ⟨l, leaves.link.trans here, .refl l⟩
  bound := fun {l} _ bound => by
    rcases leaves.slot place.variant place.key with same | ⟨unbound, -⟩
    · exact same
    · exact absurd bound unbound
  unbound := fun _ => (leaves.slot place.variant place.key).imp_right And.right

/-- An empty slot is bound to no connection. -/
theorem unbound_of_free (free : h.registered? place.variant place.key = none) :
    h.boundTo? place.variant place.key ≠ some place.link := by
  rw [boundTo?, free]
  exact (Option.some_ne_none _).symm

/-- What has become unbound stays so. -/
theorem Treats.unbound_of_unbound (treats : Treats place gone verdict? h next)
    (unbound : h.boundTo? place.variant place.key ≠ some place.link) :
    next.boundTo? place.variant place.key ≠ some place.link := by
  rcases treats.unbound unbound with same | emptied
  · rw [boundTo?, same]
    exact unbound
  · exact unbound_of_free emptied

theorem Treats.refl (place : Place) (gone : Bool) (h : Hub) : Treats place gone none h h :=
  (Leaves.refl place.link h).treats

/-- Nothing is done first, -/
theorem Treats.after (first : Treats place gone none h mid)
    (second : Treats place gone verdict? mid next) : Treats place gone verdict? h next where
  settings := second.settings.trans first.settings
  link := fun {l} here => by
    obtain ⟨l₁, at_mid, alike⟩ := first.link here
    obtain ⟨l₂, there, treated⟩ := second.link at_mid
    rw [first.settings] at treated
    exact ⟨l₂, there, (alike.judged _ gone verdict?).trans treated⟩
  bound := fun {l} here bound => by
    obtain ⟨l₁, at_mid, alike⟩ := first.link here
    have same : mid.registered? place.variant place.key = h.registered? place.variant place.key :=
      first.bound here bound
    have bound' : mid.boundTo? place.variant place.key = some place.link := by
      rw [boundTo?, same]
      exact bound
    rw [second.bound at_mid bound', first.settings, same]
    have forfeits := Link.Alike.forfeits alike h.settings.failureThreshold gone verdict?
    exact if_congr (by rw [forfeits]; rfl) rfl rfl
  unbound := fun unbound => by
    rcases second.unbound (first.unbound_of_unbound unbound) with same | emptied
    · rw [same]
      exact first.unbound unbound
    · exact .inr emptied

/-- or afterwards. -/
theorem Treats.before (first : Treats place gone verdict? h mid)
    (second : Treats place gone none mid next) : Treats place gone verdict? h next where
  settings := second.settings.trans first.settings
  link := fun {l} here => by
    obtain ⟨l₁, at_mid, treated⟩ := first.link here
    obtain ⟨l₂, there, alike⟩ := second.link at_mid
    exact ⟨l₂, there, treated.trans alike⟩
  bound := fun {l} here bound => by
    obtain ⟨l₁, at_mid, -⟩ := first.link here
    have slot := first.bound here bound
    by_cases forfeits : l.forfeits h.settings.failureThreshold gone verdict? = true
    · rw [if_pos forfeits] at slot ⊢
      rcases second.unbound (unbound_of_free slot) with same | emptied
      · exact same.trans slot
      · exact emptied
    · rw [if_neg forfeits] at slot ⊢
      have bound' : mid.boundTo? place.variant place.key = some place.link := by
        rw [boundTo?, slot]
        exact bound
      exact (second.bound at_mid bound').trans slot
  unbound := fun unbound => by
    rcases second.unbound (first.unbound_of_unbound unbound) with same | emptied
    · rw [same]
      exact first.unbound unbound
    · exact .inr emptied

theorem Treats.trans (first : Treats place gone verdict? h mid)
    (second : Treats place gone verdict?' mid next) (one : verdict? = none ∨ verdict?' = none) :
    Treats place gone (verdict?.or verdict?') h next := by
  rcases one with rfl | rfl
  · rw [Option.none_or]
    exact first.after second
  · rw [Option.or_none]
    exact first.before second

/-! ### The member at the place -/

/-- What a part of a sweep does to a place, by what it does to its connection and its slot. -/
theorem treats_of_quiet (quiet : Quiet True h next)
    (treated : ∀ {l}, h.link? place.link = some l →
      (∃ l', next.link? place.link = some l' ∧
        (l.judged h.settings.failureThreshold gone verdict?).Alike l') ∧
      (h.boundTo? place.variant place.key = some place.link →
        next.registered? place.variant place.key =
          if l.forfeits h.settings.failureThreshold gone verdict? then none
          else h.registered? place.variant place.key)) :
    Treats place gone verdict? h next := by
  have spares : Spares True False h next := Aside.spares (Quiet.aside quiet)
  exact ⟨spares.settings, fun here => (treated here).1, fun here => (treated here).2,
    fun _ => (spares.slot place.variant place.key).imp_right And.right⟩

theorem treats_startProbe (place : Place) (gone : Bool) (h : Hub) (wait : Nat) :
    Treats place gone none h (h.startProbe place.link wait).1 := by
  refine treats_of_quiet (quiet_startProbe h place.link wait) fun {l} here => ⟨?_, fun _ => ?_⟩
  · have there : (h.startProbe place.link wait).1.link? place.link =
        some (l.startProbe h.now wait).1 := by
      unfold startProbe
      rw [here]
      dsimp only
      rw [link?_modifyLink, here, Option.map_some, if_pos rfl]
    obtain ⟨_, _, _, same⟩ := Link.startProbe_eq l h.now wait
    rw [same] at there
    exact ⟨_, there, rfl, rfl, rfl⟩
  · change _ = h.registered? place.variant place.key
    rw [registered?, registered?, roster_startProbe]

/-- A probe that was answered makes the failures forgotten. -/
theorem treats_resetFailures (place : Place) (h : Hub) :
    Treats place false (some true) h (h.modifyLink place.link Link.resetFailures) := by
  refine treats_of_quiet (quiet_modifyLink Link.leadsTo_resetFailures h place.link)
    fun {l} here => ⟨⟨l.resetFailures, ?_, .refl _⟩, fun _ => ?_⟩
  · rw [link?_modifyLink, here, Option.map_some, if_pos rfl]
  · change _ = h.registered? place.variant place.key
    rw [registered?, registered?, roster_modifyLink]

/-- A slot that is let go on behalf of its connection. -/
theorem registered?_unregister_of_bound
    (bound : h.boundTo? place.variant place.key = some place.link) :
    (h.unregister place.variant place.key place.link).1.registered? place.variant place.key =
      none := by
  unfold unregister registered?
  dsimp only
  rw [roster_setRoster_self, Roster.removeIfBound,
    if_pos (show Roster.boundLink? _ _ = _ from bound)]
  exact Table.get?_erase_self _ _

/-- A connection that is gone loses its slot. -/
theorem treats_unregister (place : Place) (h : Hub) :
    Treats place true (some false) h (h.unregister place.variant place.key place.link).1 :=
  treats_of_quiet (quiet_unregister h _ _ _) fun {l} here =>
    ⟨⟨l, (link?_unregister h _ _ _ _).trans here, .refl l⟩, registered?_unregister_of_bound⟩

/-- The hub with one more failed probe counted, of connection number `i`. -/
def withFailure (h : Hub) (i : Nat) : Hub := (h.count .pingFailure).modifyLink i Link.addFailure

section Failure

variable {l : Link} (here : h.link? link = some l) (variant : Variant) (key : Key)

theorem registered?_withFailure (h : Hub) (i : Nat) (variant : Variant) (key : Key) :
    (h.withFailure i).registered? variant key = h.registered? variant key := by
  rw [withFailure, registered?, roster_modifyLink]
  rfl

include here

theorem link?_withFailure : (h.withFailure link).link? link = some l.addFailure := by
  have before : (h.count .pingFailure).link? link = some l := here
  rw [withFailure, link?_modifyLink, before, Option.map_some, if_pos rfl]

theorem failMember_eq :
    h.failMember variant key link =
      if l.addFailure.failures < h.settings.failureThreshold then
        (h.withFailure link, .done false false)
      else
        ((((h.withFailure link).closed link .unresponsive).unregister variant key link).1,
          .done false
            (((h.withFailure link).closed link .unresponsive).unregister variant key link).2) := by
  unfold failMember
  dsimp only
  rw [show (h.count .pingFailure).modifyLink link Link.addFailure = h.withFailure link from rfl,
    link?_withFailure here]
  rfl

end Failure

/-- A failed probe is counted, and the connection is closed and loses its slot if that was one too
many. -/
theorem treats_failMember (place : Place) (h : Hub) :
    Treats place false (some false) h
      (h.failMember place.variant place.key place.link).1 := by
  refine treats_of_quiet (quiet_failMember h _ _ _) fun {l} here => ?_
  have forfeits : l.forfeits h.settings.failureThreshold false (some false) =
      decide (h.settings.failureThreshold ≤ l.addFailure.failures) := Bool.false_or _
  rw [failMember_eq here, forfeits]
  rcases Nat.lt_or_ge l.addFailure.failures h.settings.failureThreshold with fewer | tooMany
  · rw [if_pos fewer, Link.judged_of_lt fewer, decide_eq_false (Nat.not_le_of_lt fewer),
      if_neg Bool.false_ne_true]
    exact ⟨⟨_, link?_withFailure here, .refl _⟩, fun _ => registered?_withFailure h _ _ _⟩
  · rw [if_neg (Nat.not_lt.mpr tooMany), Link.judged_of_le tooMany, decide_eq_true tooMany,
      if_pos rfl]
    refine ⟨⟨_, ?_, .refl _⟩, fun bound => registered?_unregister_of_bound ?_⟩
    · rw [link?_unregister, link?_closed, link?_withFailure here, Option.map_some, if_pos rfl]
    · have same : ((h.withFailure place.link).closed place.link .unresponsive).roster
          place.variant = (h.withFailure place.link).roster place.variant :=
        roster_closeLink _ place.link _ _
      rw [boundTo?, registered?, same, ← registered?, registered?_withFailure]
      exact bound

/-- What the beginning of the sweep of a member does to its place. -/
theorem treats_beginMember (place : Place) (h : Hub) :
    Treats place (!h.isAlive place.link)
      (h.beginMember place.variant place.key place.link).2.verdict? h
      (h.beginMember place.variant place.key place.link).1 := by
  have probed : Treats place false none h (h.startProbe place.link h.settings.probeTimeout).1 :=
    treats_startProbe place false h _
  unfold beginMember
  split
  · next alive =>
    rw [alive]
    split
    · next mid probe started =>
      rw [started] at probed
      exact probed
    · next mid started =>
      rw [started] at probed
      obtain ⟨evicted, stage⟩ := stage_failMember mid place.variant place.key place.link
      dsimp only [Member.verdict?]
      rw [stage]
      exact probed.after (treats_failMember place mid)
  · next dead =>
    rw [Bool.eq_false_iff.mpr dead]
    exact treats_unregister place h

/-- What a member does to its place that goes on. -/
theorem treats_resumeMember {member : Member} (own : member.place variant = place) (h : Hub) :
    Treats place false
      (if member.isWaiting then (h.resumeMember variant member).2.verdict? else none) h
      (h.resumeMember variant member).1 := by
  subst own
  unfold resumeMember Member.isWaiting
  cases stage : member.stage with
  | done alive evicted => exact .refl _ _ h
  | waiting probe =>
      dsimp only
      rw [if_pos rfl]
      cases verdict : h.verdict? member.link probe with
      | none =>
          dsimp only
          rw [Member.verdict?, stage]
          exact .refl _ _ h
      | some alive =>
          cases alive with
          | true => exact treats_resetFailures (member.place variant) h
          | false =>
              obtain ⟨evicted, failed⟩ := stage_failMember h variant member.key member.link
              dsimp only [Member.verdict?]
              rw [failed]
              exact treats_failMember (member.place variant) h

/-! ### All members of a roster -/

/-- What all members do to a place is what its own one does, if it is `due`; nothing else matters
that they keep. -/
theorem treats_eachMember {α : Type} {act : Hub → α → Hub × Member} {placeOf : α → Place}
    {items : List α} {due : α → Bool} {keeps : Hub → Prop}
    (placed : ∀ h item, (act h item).2.place variant = placeOf item)
    (kept : ∀ h item, keeps h → keeps (act h item).1)
    (own : ∀ h item, keeps h → placeOf item = place →
      Treats place gone (if due item then (act h item).2.verdict? else none) h (act h item).1)
    (others : ∀ h item, (placeOf item).link ≠ place.link → Leaves place.link h (act h item).1)
    (sole : Sole place (items.map placeOf)) (start : keeps h) :
    Treats place gone
      (if items.any fun item => placeOf item = place && due item then
        verdictAt? variant (eachMember act h items).2 place
      else none) h (eachMember act h items).1 := by
  induction items generalizing h with
  | nil => exact .refl place gone h
  | cons item rest ih =>
      obtain ⟨new, distinct⟩ := List.nodup_cons.mp sole.distinct
      have sole' : Sole place (rest.map placeOf) :=
        ⟨distinct, fun other inside => sole.clear other (List.mem_cons_of_mem _ inside)⟩
      by_cases here : placeOf item = place
      · -- The others are elsewhere, so that the first verdict at the place is that of the item.
        have elsewhere : ∀ other ∈ rest, placeOf other ≠ place := by
          intro other inside same
          exact new (List.mem_map.mpr ⟨other, inside, same.trans here.symm⟩)
        have away : ∀ other ∈ rest, (placeOf other).link ≠ place.link :=
          fun other inside same =>
            elsewhere other inside (sole'.clear _ (List.mem_map_of_mem inside) same)
        have noneElse : rest.any (fun item => placeOf item = place && due item) = false := by
          rw [List.any_eq_false]
          intro other inside
          simp [elsewhere other inside]
        have first : verdictAt? variant (eachMember act h (item :: rest)).2 place =
            (act h item).2.verdict? := by
          simp [eachMember, verdictAt?, placed, here]
        have left : Leaves place.link (act h item).1 (eachMember act (act h item).1 rest).1 :=
          leaves_eachMember (fun h other inside => others h other (away other inside)) _
        have treated := (own h item start here).before left.treats
        rw [first]
        simpa [noneElse, here, eachMember] using treated
      · have away : (placeOf item).link ≠ place.link :=
          fun same => here (sole.clear _ List.mem_cons_self same)
        have rest' : verdictAt? variant (eachMember act h (item :: rest)).2 place =
            verdictAt? variant (eachMember act (act h item).1 rest).2 place := by
          simp [eachMember, verdictAt?, placed, here]
        have treated := (others h item away).treats.after (ih sole' (kept h item start))
        rw [rest']
        simpa [here, eachMember] using treated

/-- What the beginning of the sweep of a roster does to a place. -/
theorem treats_beginRoster (sole : Sole place (h.places variant)) :
    Treats place (!h.isAlive place.link) (verdictAt? variant (h.beginRoster variant).2 place) h
      (h.beginRoster variant).1 := by
  have treated : Treats place (!h.isAlive place.link)
      (if (h.roster variant).entries.any fun entry =>
          Place.mk variant entry.1 entry.2.link = place && true then
        verdictAt? variant (h.beginRoster variant).2 place
      else none) h (h.beginRoster variant).1 := by
    refine treats_eachMember (fun h entry => place_beginMember h variant entry.1 entry.2.link)
      (fun mid entry (same : mid.isAlive place.link = h.isAlive place.link) =>
        (isAlive_beginMember mid variant entry.1 entry.2.link place.link).trans same) ?_
      (fun h entry other => leaves_beginMember other h variant entry.1) sole rfl
    rintro mid entry same rfl
    rw [← same]
    exact treats_beginMember _ mid
  split at treated
  · exact treated
  · next nowhere =>
    have absent : place ∉ (h.beginRoster variant).2.map (Member.place variant) := by
      rw [places_beginRoster]
      intro inside
      obtain ⟨entry, member, same⟩ := List.mem_map.mp inside
      exact nowhere (List.any_eq_true.mpr ⟨entry, member, by simp [same]⟩)
    rw [verdictAt?_of_not_mem absent]
    exact treated

/-- What the members of a roster that go on do to a place. -/
theorem treats_resumeMembers {members : List Member}
    (sole : Sole place (members.map (Member.place variant))) :
    Treats place false
      (learned? variant members
        (eachMember (fun h member => h.resumeMember variant member) h members).2 place) h
      (eachMember (fun h member => h.resumeMember variant member) h members).1 :=
  treats_eachMember (fun h member => place_resumeMember h variant member)
    (fun _ _ (_ : True) => trivial) (fun h _ _ own => treats_resumeMember own h)
    (fun h _ other => leaves_resumeMember other h variant) sole trivial

/-! ### Sweeps -/

/-- The places of the management clients, if the sweep of the devices comes to these. -/
def managementEntries (h : Hub) (devices : List Member) : List Place :=
  if devices.any Member.isWaiting then [] else h.places .management

/-- The places at which a sweep begins to probe with its beginning. -/
def begunEntries (h : Hub) : List Place :=
  let (mid, devices) := h.beginRoster .device
  h.places .device ++ mid.managementEntries devices

/-- The places at which a sweep that goes on begins to probe. -/
def resumedEntries (h : Hub) (variant : Variant) (members : List Member) : List Place :=
  let (h, after) := eachMember (fun h member => h.resumeMember variant member) h members
  match variant with
  | .device => h.managementEntries after
  | .management => []

/-- The places that a move of a sweep looks at. -/
def lookedAt (h : Hub) : Move → List Place
  | .sweeping => h.newTask.1.begunEntries
  | .resume id =>
      match (h.task? id).map Task.activity with
      | some (.sweeping variant members _) =>
          members.map (Member.place variant) ++ (h.detach id).resumedEntries variant members
      | _ => []
  | _ => []

/-- The variant of the roster that task number `id` sweeps. -/
def sweeps? (h : Hub) (id : Nat) : Option Variant :=
  (h.task? id).bind fun task => task.activity.swept?

/-- The variant of the roster under the sweep that the move is a step of. -/
def sweptBy? (h : Hub) (move : Move) : Option Variant := move.task?.bind h.sweeps?

/-- The connection at the place is gone when the move of a sweep comes to it. One that is probed
already is not. -/
def skips (h : Hub) (move : Move) (place : Place) : Bool :=
  !(h.apart move).isAlive place.link && decide (h.sweptBy? move ≠ some place.variant)

theorem managementEntries_cases (h : Hub) (devices : List Member) :
    h.managementEntries devices = [] ∨ h.managementEntries devices = h.places .management := by
  unfold managementEntries
  split
  · exact .inl rfl
  · exact .inr rfl

theorem begunEntries_cases (h : Hub) :
    h.begunEntries = h.places .device ∨
      h.begunEntries = h.places .device ++ h.places .management := by
  have same : (h.beginRoster .device).1.places .management = h.places .management :=
    places_congr (roster_beginRoster_of_ne (by decide) h)
  unfold begunEntries
  dsimp only
  rcases managementEntries_cases (h.beginRoster .device).1 (h.beginRoster .device).2 with
    none | all
  · rw [none, List.append_nil]
    exact .inl rfl
  · rw [all, same]
    exact .inr rfl

theorem resumedEntries_cases (h : Hub) (variant : Variant) (members : List Member) :
    h.resumedEntries variant members = [] ∨
      variant = .device ∧ h.resumedEntries variant members = h.places .management := by
  cases variant with
  | management => exact .inl rfl
  | device =>
      have same : (eachMember (fun h member => h.resumeMember .device member) h
          members).1.places .management = h.places .management :=
        places_congr (roster_resumeMembers_of_ne (by decide) h members)
      have cases' := managementEntries_cases
        (eachMember (fun h member => h.resumeMember .device member) h members).1
        (eachMember (fun h member => h.resumeMember .device member) h members).2
      rw [same] at cases'
      exact cases'.imp_right fun all => ⟨rfl, all⟩

theorem lookedAt_resume {id : Nat} {members : List Member} {report : SweepReport}
    (found : h.task? id = some ⟨id, .sweeping variant members report⟩) :
    h.lookedAt (.resume id) =
      members.map (Member.place variant) ++ (h.detach id).resumedEntries variant members := by
  rw [lookedAt, found]
  rfl

theorem leaves_sweepDevices {devices : List Member}
    (away : ∀ place ∈ h.managementEntries devices, place.link ≠ i) (id : Nat)
    (report : SweepReport) : Leaves i h (h.sweepDevices id devices report) := by
  unfold sweepDevices
  unfold managementEntries at away
  split
  · exact leaves_suspend h id _
  · next none =>
    rw [if_neg none] at away
    have same := places_countEvicted h devices .management
    exact ((leaves_countEvicted h devices).trans (leaves_beginRoster (same ▸ away))).trans
      (leaves_sweepManagement _ id _ _)

/-- **A move of a sweep leaves every connection alone** that is at none of the places it looks at,
with the slots that are bound to it. -/
theorem leaves_of_sweep {move : Move} (moved : h.step? move = some next)
    (sweeps : h.isSweep move = true) (away : ∀ place ∈ h.lookedAt move, place.link ≠ i) :
    Leaves i h next := by
  rcases sweeping_of_isSweep sweeps with rfl | ⟨id, variant, members, report, rfl, found⟩
  · cases moved
    obtain ⟨first, second⟩ := List.forall_mem_append.mp away
    have begun : Leaves i h h.newTask.1 :=
      leaves_of_rosters rfl rfl rfl fun variant => by cases variant <;> rfl
    exact (begun.trans (leaves_beginRoster first)).trans (leaves_sweepDevices second _ _)
  · obtain ⟨task, found', -, rfl⟩ := resumed moved
    cases found.symm.trans found'
    rw [lookedAt_resume found] at away
    obtain ⟨first, second⟩ := List.forall_mem_append.mp away
    have apart : Leaves i h (h.detach id) :=
      leaves_of_rosters rfl rfl rfl fun variant => by cases variant <;> rfl
    refine (apart.trans (leaves_resumeMembers first)).trans ?_
    cases variant with
    | device => exact leaves_sweepDevices second id report
    | management => exact leaves_sweepManagement _ id _ report

theorem treats_sweepDevices {devices : List Member}
    (sole : Sole place (h.managementEntries devices)) (id : Nat) (report : SweepReport) :
    Treats place (!h.isAlive place.link) (h.managementVerdict? devices place) h
      (h.sweepDevices id devices report) := by
  unfold sweepDevices managementVerdict?
  unfold managementEntries at sole
  split
  · exact (leaves_suspend h id _).treats
  · next none =>
    rw [if_neg none] at sole
    have same := places_countEvicted h devices .management
    have begun : Treats place _ _ _ ((h.countEvicted devices).beginRoster .management).1 :=
      treats_beginRoster (same ▸ sole)
    rw [isAlive_countEvicted] at begun
    exact ((leaves_countEvicted h devices).treats.after begun).before
      (leaves_sweepManagement _ id _ _).treats

theorem Enrolled.append {places others : List Place} (first : h.Enrolled places)
    (second : h.Enrolled others)
    (apart : ∀ place ∈ places, ∀ other ∈ others, place.variant ≠ other.variant) :
    h.Enrolled (places ++ others) := by
  refine ⟨List.nodup_append.mpr ⟨first.distinct, second.distinct, ?_⟩, ?_⟩
  · rintro place inside other inside' rfl
    exact apart place inside place inside' rfl
  · exact List.forall_mem_append.mpr ⟨first.seated, second.seated⟩

/-- The places that a move of a sweep looks at are different, and each has a session. -/
theorem enrolled_lookedAt {settings : Settings} {mark : Mark} {moves : List Move} {move : Move}
    (run : (fresh settings mark).run? moves = some h) (sweeps : h.isSweep move = true) :
    h.Enrolled (h.lookedAt move) := by
  have rosters := enrolled_places (sound_of_run? run) (keyed_of_run? run)
  rcases sweeping_of_isSweep sweeps with rfl | ⟨id, variant, members, report, rfl, found⟩
  · have both : h.Enrolled (h.places .device ++ h.places .management) := by
      refine (rosters .device).append (rosters .management) fun place inside other inside' => ?_
      rw [variant_of_mem_places inside, variant_of_mem_places inside']
      decide
    change h.Enrolled h.newTask.1.begunEntries
    rcases begunEntries_cases h.newTask.1 with same | same <;> rw [same]
    · exact rosters .device
    · exact both
  · have under : h.Enrolled (members.map (Member.place variant)) :=
      enrolled_of_run? run _ (List.mem_of_find?_eq_some found) rfl
    rw [lookedAt_resume found]
    rcases resumedEntries_cases (h.detach id) variant members with none | ⟨rfl, all⟩
    · rw [none, List.append_nil]
      exact under
    · rw [all]
      refine under.append (rosters .management) fun place inside other inside' => ?_
      obtain ⟨member, -, rfl⟩ := List.mem_map.mp inside
      rw [variant_of_mem_places inside']
      exact nofun

theorem Sole.append {places others : List Place} (sole : Sole place (places ++ others)) :
    Sole place places ∧ Sole place others :=
  ⟨⟨sole.distinct.of_append_left, fun other inside =>
      sole.clear other (List.mem_append_left _ inside)⟩,
    ⟨sole.distinct.of_append_right, fun other inside =>
      sole.clear other (List.mem_append_right _ inside)⟩⟩

/-- What the beginning of a sweep does to a place. -/
theorem treats_beginSweep (sole : Sole place (h.lookedAt .sweeping)) :
    Treats place (!h.isAlive place.link) (h.verdictOn? place .sweeping) h h.beginSweep.1 := by
  obtain ⟨first, second⟩ := Sole.append sole
  have begun : Leaves place.link h h.newTask.1 :=
    leaves_of_rosters rfl rfl rfl fun variant => by cases variant <;> rfl
  have devices : Treats place (!h.isAlive place.link) _ h.newTask.1
      (h.newTask.1.beginRoster .device).1 := treats_beginRoster first
  have management := treats_sweepDevices second h.nextTask {}
  have alive : (h.newTask.1.beginRoster .device).1.isAlive place.link = h.isAlive place.link :=
    isAlive_beginRoster h.newTask.1 .device place.link
  change Treats place (!(h.newTask.1.beginRoster .device).1.isAlive place.link) _ _ _ at management
  rw [alive] at management
  exact begun.treats.after (devices.trans management
    (none_or_none (fun other => verdictAt?_of_ne other _) _ _))

/-- What a sweep that goes on does to a place. -/
theorem treats_resumeSweep {members : List Member}
    (sole : Sole place (members.map (Member.place variant) ++ h.resumedEntries variant members))
    (id : Nat) (report : SweepReport) :
    Treats place (!h.isAlive place.link && decide (some variant ≠ some place.variant))
      (h.resumedVerdict? variant members place) h (h.resumeSweep id variant members report) := by
  obtain ⟨first, second⟩ := Sole.append sole
  -- Nothing is learned among the members of places that are not of their variant.
  have resumed : Treats place (!h.isAlive place.link && decide (some variant ≠ some place.variant))
      (learned? variant members
        (eachMember (fun h member => h.resumeMember variant member) h members).2 place) h
      (eachMember (fun h member => h.resumeMember variant member) h members).1 := by
    have treated := treats_resumeMembers (h := h) first
    by_cases own : variant = place.variant
    · rw [decide_eq_false (fun other => other (congrArg some own)), Bool.and_false]
      exact treated
    · rw [learned?_of_ne (Ne.symm own)] at treated ⊢
      exact treated.recast
  unfold resumeSweep resumedVerdict?
  cases variant with
  | management =>
      dsimp only
      rw [Option.or_none]
      exact resumed.before (leaves_sweepManagement _ id _ report).treats
  | device =>
      have management := treats_sweepDevices second id report
      rw [isAlive_resumeMembers] at management
      refine resumed.trans ?_ (none_or_none (fun other => learned?_of_ne other _ _) _ _)
      cases known : place.variant with
      | device =>
          rw [managementVerdict?_of_ne (by simp [known])] at management ⊢
          exact management.recast
      | management => simpa using management

/-- **What a move of a sweep does to a place**: what follows from the result that it learns there,
whatever it learns elsewhere. -/
theorem treats_of_sweep {move : Move} (moved : h.step? move = some next)
    (sweeps : h.isSweep move = true) (sole : Sole place (h.lookedAt move)) :
    Treats place (h.skips move place) (h.verdictOn? place move) h next := by
  rcases sweeping_of_isSweep sweeps with rfl | ⟨id, variant, members, report, rfl, found⟩
  · cases moved
    have skips : h.skips .sweeping place = !h.isAlive place.link := Bool.and_true _
    rw [skips]
    exact treats_beginSweep sole
  · obtain ⟨task, found', -, rfl⟩ := resumed moved
    cases found.symm.trans found'
    have skips : h.skips (.resume id) place =
        (!(h.detach id).isAlive place.link && decide (some variant ≠ some place.variant)) := by
      have under : h.sweptBy? (.resume id) = some variant := by
        rw [sweptBy?, Move.task?, Option.bind_some, sweeps?, found]
        rfl
      rw [Hub.skips, under]
      rfl
    have apart : Leaves place.link h (h.detach id) :=
      leaves_of_rosters rfl rfl rfl fun variant => by cases variant <;> rfl
    rw [lookedAt_resume found] at sole
    rw [skips, verdictOn?_resume found]
    exact apart.treats.after (treats_resumeSweep sole id report)

/-! ### Sweeps in a run -/

section Single

variable {settings : Settings} {mark : Mark} {moves : List Move} {move : Move}
  (run : (fresh settings mark).run? moves = some h) (alone : h.Alone place)
  (moved : h.step? move = some next) (sweeps : h.isSweep move = true)
include run alone moved sweeps

/-- A connection whose sessions are all of one place is treated as the result there demands. -/
theorem treats_of_alone :
    Treats place (h.skips move place) (h.verdictOn? place move) h next :=
  treats_of_sweep moved sweeps ((enrolled_lookedAt run sweeps).sole alone)

/-- It is left alone if the move does not look at that place. -/
theorem leaves_of_not_lookedAt (absent : place ∉ h.lookedAt move) :
    Leaves place.link h next := by
  refine leaves_of_sweep moved sweeps fun other inside same => absent ?_
  exact alone ((enrolled_lookedAt run sweeps).seated other inside) same ▸ inside

/-- **A slot is taken from its connection** only by a move that looks at it and learns that its
probe failed, if the connection is gone or this was one failure too many. -/
theorem forfeits_of_unbound (bound : h.boundTo? place.variant place.key = some place.link)
    (unbound : next.boundTo? place.variant place.key ≠ some place.link) :
    place ∈ h.lookedAt move ∧ h.verdictOn? place move = some false ∧
      next.registered? place.variant place.key = none ∧
      (h.skips move place = true ∨ ∃ l l', h.link? place.link = some l ∧
        next.link? place.link = some l' ∧ l'.closed = true ∧
        l'.failures = l.addFailure.failures ∧ h.settings.failureThreshold ≤ l'.failures) := by
  have sound := sound_of_run? run
  have seated := seated_of_bound sound bound
  have kept (same : next.registered? place.variant place.key =
      h.registered? place.variant place.key) : False := by
    rw [boundTo?, same] at unbound
    exact unbound bound
  have inside : place ∈ h.lookedAt move := by
    by_contra absent
    rcases (leaves_of_not_lookedAt run alone moved sweeps absent).slot place.variant
      place.key with same | ⟨unbound, -⟩
    · exact kept same
    · exact unbound bound
  have treats := treats_of_alone run alone moved sweeps
  obtain ⟨l, here⟩ := seated.link (attached_of_run? run)
  have slot := treats.bound here bound
  have forfeits : l.forfeits h.settings.failureThreshold (h.skips move place)
      (h.verdictOn? place move) = true := by
    by_contra retained
    rw [if_neg retained] at slot
    exact kept slot
  rw [if_pos forfeits] at slot
  obtain ⟨failed, why⟩ := Link.eq_of_forfeits forfeits
  refine ⟨inside, failed, slot, ?_⟩
  cases gone : h.skips move place with
  | true => exact .inl rfl
  | false =>
      have tooMany := why.resolve_left (gone ▸ Bool.false_ne_true)
      obtain ⟨l', there, alike⟩ := treats.link here
      rw [failed, gone, Link.judged_of_le tooMany] at alike
      have failures : l'.failures = l.addFailure.failures :=
        alike.failures.trans (Link.failures_close _ _)
      refine .inr ⟨l, l', here, there, alike.closed.trans ?_, failures, failures ▸ tooMany⟩
      exact Link.closed_close ((Link.leadsTo_addFailure l).coherent (sound.coherent here)) _

end Single

end Hub

end StationHub
