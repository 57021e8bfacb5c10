import StationHub.Proofs.Link.Pings
import StationHub.Proofs.Openings.Ends

/-!
How a takeover begins, and what it is to come to.

* `Retakes`: what the steps of a takeover leave alone.
* `Begun`: the five ways in which a takeover may begin.
* `Due`: what a takeover is to come to; `Due.unique` tells that it is one thing.
* `ComesTo`, `Due.comesTo`: each thing that it may come to, and when it does.
-/

namespace StationHub.Hub

variable {later : List Move} {h mid next : Hub} {i owner : Nat} {s : Session} {l : Link}

/-! ### What a takeover leaves alone -/

/-- A step of a takeover for the session: of slots, it concerns that of the session at most, and of
connections those that are `touched`. -/
structure Retakes (s : Session) (touched : Nat → Prop) (h next : Hub) : Prop where
  sessions : next.sessions = h.sessions
  slots : ∀ variant key, ¬(s.variant = variant ∧ s.key = key) →
    next.registered? variant key = h.registered? variant key
  connections : ∀ j, ¬touched j → next.connection? j = h.connection? j

variable {touched : Nat → Prop}

theorem Retakes.trans (first : Retakes s touched h mid) (second : Retakes s touched mid next) :
    Retakes s touched h next where
  sessions := second.sessions.trans first.sessions
  slots := fun variant key other => (second.slots variant key other).trans
    (first.slots variant key other)
  connections := fun j other => (second.connections j other).trans (first.connections j other)

theorem retakes_of_eq (sessions : next.sessions = h.sessions)
    (roster : ∀ variant, next.roster variant = h.roster variant)
    (connections : next.connections = h.connections) : Retakes s touched h next where
  sessions := sessions
  slots := fun variant key _ => by rw [registered?, registered?, roster]
  connections := fun j _ => by rw [connection?, connection?, connections]

theorem connections_register (h : Hub) (i : Nat) (s : Session) :
    (h.register i s).connections = h.connections := by
  unfold register setRoster
  split <;> rfl

theorem retakes_register (h : Hub) (i : Nat) (s : Session) :
    Retakes s touched h (h.register i s) where
  sessions := sessions_setRoster h s.variant _
  slots := fun _ _ other => registered?_register_of_ne other
  connections := fun j _ => by rw [connection?, connection?, connections_register]

theorem retakes_modifyLink (touches : touched i) (change : Link → Link) :
    Retakes s touched h (h.modifyLink i change) where
  sessions := rfl
  slots := fun variant _ _ => by cases variant <;> rfl
  connections := fun j other => by
    have apart : i ≠ j := fun same => other (same ▸ touches)
    rw [modifyLink, connection?_modifyConnection]
    simp [apart]

theorem retakes_closed (touches : touched i) (cause : CloseCause) :
    Retakes s touched h (h.closed i cause) := by
  unfold closed closeLink
  split
  · exact retakes_of_eq rfl (fun _ => rfl) rfl
  · next l _ => exact retakes_modifyLink touches fun _ => (l.close cause).1

/-! ### How a takeover begins -/

/-- The slot of the session is bound to another connection, `owner`, which exists and is open. -/
structure Disputed (h : Hub) (s : Session) (owner : Nat) (l : Link) : Prop where
  bound : h.boundTo? s.variant s.key = some owner
  other : owner ≠ s.link
  alive : h.isAlive owner = true
  known : h.link? owner = some l
  open_ : l.closed = false

/-- How a takeover for session number `i` begins. -/
inductive Begun (h : Hub) (i : Nat) (s : Session) : Hub → TakeoverStart → Prop where
  | free : h.registered? s.variant s.key = none → Begun h i s (h.register i s) (.done .registered)
  | own : h.boundTo? s.variant s.key = some s.link → Begun h i s h (.done .alreadyCurrent)
  /-- The connection in the slot is gone or closed. -/
  | down {owner : Nat} : h.boundTo? s.variant s.key = some owner → owner ≠ s.link →
      h.isAlive owner = false ∨ h.isClosed owner = true →
      Begun h i s (h.register i s) (.done .replacedClosed)
  /-- The ping is not queued. -/
  | refused {owner : Nat} {l : Link} : h.Disputed s owner l → (l.ping h.now).2 = false →
      Begun h i s ((h.modifyLink owner fun _ => (l.ping h.now).1).register i s)
        (.done .adoptedOverDead)
  | pinged {owner : Nat} {l : Link} : h.Disputed s owner l → (l.ping h.now).2 = true →
      Begun h i s (h.modifyLink owner fun _ => (l.ping h.now).1)
        (.probing owner ⟨l.pongs, h.now + h.settings.probeTimeout⟩)

theorem startProbe_of_open (known : h.link? i = some l) (open_ : l.closed = false) (wait : Nat) :
    h.startProbe i wait = (h.modifyLink i fun _ => (l.ping h.now).1,
      if (l.ping h.now).2 then some ⟨l.pongs, h.now + wait⟩ else none) := by
  unfold startProbe Link.startProbe
  rw [known]
  simp [open_]

theorem begun_beginTakeover {takeover : TakeoverStart}
    (known : ∀ owner, h.boundTo? s.variant s.key = some owner → (h.link? owner).isSome = true)
    (started : h.beginTakeover i s = (next, takeover)) : h.Begun i s next takeover := by
  unfold beginTakeover at started
  split at started
  · next free =>
    cases started
    exact .free free
  · next slot there =>
    have bound : h.boundTo? s.variant s.key = some slot.link := by
      rw [boundTo?, there]
      rfl
    obtain ⟨l, here⟩ := Option.isSome_iff_exists.mp (known slot.link bound)
    split at started
    · next own =>
      cases started
      exact .own (own ▸ bound)
    · next other =>
      unfold openRival? at started
      rw [here, Option.any_some] at started
      by_cases up : h.isAlive slot.link = true ∧ l.closed = false
      · have disputed : h.Disputed s slot.link l := ⟨bound, other, up.1, here, up.2⟩
        rw [up.1, up.2, Bool.not_false, Bool.and_true, if_pos rfl] at started
        dsimp only at started
        rw [startProbe_of_open here up.2] at started
        cases queued : (l.ping h.now).2 with
        | false =>
            rw [queued] at started
            cases started
            exact .refused disputed queued
        | true =>
            rw [queued] at started
            cases started
            exact .pinged disputed queued
      · have isDown : (h.isAlive slot.link && !l.closed) = false := by simpa using up
        rw [isDown] at started
        cases started
        refine .down bound other ?_
        rw [isClosed, here, Option.any_some]
        exact (Bool.and_eq_false_iff.mp isDown).imp_right fun shut => by simpa using shut

/-- A takeover that begins pings the open connection in its slot at most, and closes nothing. -/
theorem Begun.retakes {takeover : TakeoverStart} (begun : h.Begun i s next takeover) :
    Retakes s (fun owner => ∃ l, h.Disputed s owner l) h next := by
  cases begun with
  | free | down => exact retakes_register h i s
  | own => exact retakes_of_eq rfl (fun _ => rfl) rfl
  | refused disputed => exact (retakes_modifyLink ⟨_, disputed⟩ _).trans (retakes_register _ i s)
  | pinged disputed => exact retakes_modifyLink ⟨_, disputed⟩ _

theorem isClosed_ping (known : h.link? i = some l) (j : Nat) :
    (h.modifyLink i fun _ => (l.ping h.now).1).isClosed j = h.isClosed j := by
  unfold isClosed
  rw [link?_modifyLink]
  by_cases same : i = j
  · subst same
    rw [known, Option.map_some, if_pos rfl, Option.any_some, Option.any_some,
      (l.lastPong_ping h.now).2]
  · simp [same]

theorem isClosed_register (h : Hub) (i : Nat) (s : Session) (j : Nat) :
    (h.register i s).isClosed j = h.isClosed j := by
  rw [isClosed, isClosed, link?_register]

theorem Begun.isClosed {takeover : TakeoverStart} (begun : h.Begun i s next takeover) (j : Nat) :
    next.isClosed j = h.isClosed j := by
  cases begun with
  | free | down => exact isClosed_register h i s j
  | own => rfl
  | refused disputed => rw [isClosed_register, isClosed_ping disputed.known]
  | pinged disputed => exact isClosed_ping disputed.known j

theorem Begun.boundTo? {takeover : Takeover} (begun : h.Begun i s next (.done takeover)) :
    next.boundTo? s.variant s.key = some s.link := by
  have registered (h : Hub) : (h.register i s).boundTo? s.variant s.key = some s.link := by
    rw [Hub.boundTo?, registered?_register_self]
    rfl
  cases begun with
  | free | down | refused => exact registered _
  | own bound => exact bound

theorem Begun.reseats {takeover : TakeoverStart} (begun : h.Begun i s next takeover) :
    h.Reseats next := by
  have pinged (owner : Nat) (change : Link → Link) : h.Reseats (h.modifyLink owner change) :=
    ⟨rfl, rfl, rfl, rfl, rfl, rfl⟩
  cases begun with
  | free | down => exact reseats_setRoster h s.variant _
  | own => exact .refl h
  | refused => exact (pinged _ _).trans (reseats_setRoster _ s.variant _)
  | pinged => exact pinged _ _

/-! ### What a takeover is to come to -/

/-- What a takeover that begins in `h` is to come to, if `later` happens while it waits. -/
inductive Due (h : Hub) (s : Session) (later : List Move) : Takeover → Prop where
  | registered : h.registered? s.variant s.key = none → Due h s later .registered
  | alreadyCurrent : h.boundTo? s.variant s.key = some s.link → Due h s later .alreadyCurrent
  | replacedClosed {owner : Nat} : h.boundTo? s.variant s.key = some owner → owner ≠ s.link →
      h.isAlive owner = false ∨ h.isClosed owner = true → Due h s later .replacedClosed
  | closedDuplicate {owner : Nat} {l : Link} : h.Disputed s owner l → (l.ping h.now).2 = true →
      .pong owner ∈ later → Due h s later .closedDuplicate
  | adoptedOverDead {owner : Nat} {l : Link} : h.Disputed s owner l →
      ¬((l.ping h.now).2 = true ∧ .pong owner ∈ later) → Due h s later .adoptedOverDead

theorem Disputed.registered? (disputed : h.Disputed s owner l) :
    h.registered? s.variant s.key ≠ none := by
  intro free
  have bound := disputed.bound
  rw [Hub.boundTo?, free] at bound
  cases bound

theorem Disputed.unique {owner' : Nat} {l' : Link} (disputed : h.Disputed s owner l)
    (disputed' : h.Disputed s owner' l') : owner = owner' ∧ l = l' := by
  obtain rfl : owner = owner' := Option.some.inj (disputed.bound.symm.trans disputed'.bound)
  exact ⟨rfl, Option.some.inj (disputed.known.symm.trans disputed'.known)⟩

theorem Disputed.up (disputed : h.Disputed s owner l) {owner' : Nat}
    (bound : h.boundTo? s.variant s.key = some owner') :
    ¬(h.isAlive owner' = false ∨ h.isClosed owner' = true) := by
  obtain rfl : owner = owner' := Option.some.inj (disputed.bound.symm.trans bound)
  rw [isClosed, disputed.known, Option.any_some, disputed.alive, disputed.open_]
  simp

theorem free_of_registered? (free : h.registered? s.variant s.key = none) :
    h.boundTo? s.variant s.key = none := by
  rw [Hub.boundTo?, free]
  rfl

/-- Exactly one thing is due. -/
theorem Due.unique {first second : Takeover} (due : h.Due s later first)
    (due' : h.Due s later second) : first = second := by
  -- The slot is free, or bound to the own connection, or to another one, which is down or up.
  cases due with
  | registered free =>
      have unbound := free_of_registered? free
      cases due' with
      | registered => rfl
      | alreadyCurrent bound | replacedClosed bound => cases unbound.symm.trans bound
      | closedDuplicate disputed | adoptedOverDead disputed =>
          exact absurd free disputed.registered?
  | alreadyCurrent own =>
      cases due' with
      | registered free => cases (free_of_registered? free).symm.trans own
      | alreadyCurrent => rfl
      | replacedClosed bound other => exact absurd (Option.some.inj (bound.symm.trans own)) other
      | closedDuplicate disputed | adoptedOverDead disputed =>
          exact absurd (Option.some.inj (disputed.bound.symm.trans own)) disputed.other
  | replacedClosed bound other down =>
      cases due' with
      | registered free => cases (free_of_registered? free).symm.trans bound
      | alreadyCurrent own => exact absurd (Option.some.inj (bound.symm.trans own)) other
      | replacedClosed => rfl
      | closedDuplicate disputed | adoptedOverDead disputed => exact absurd down (disputed.up bound)
  | closedDuplicate disputed queued answered =>
      cases due' with
      | registered free => exact absurd free disputed.registered?
      | alreadyCurrent own =>
          exact absurd (Option.some.inj (disputed.bound.symm.trans own)) disputed.other
      | replacedClosed bound _ down => exact absurd down (disputed.up bound)
      | closedDuplicate => rfl
      | adoptedOverDead disputed' silent =>
          obtain ⟨rfl, rfl⟩ := disputed.unique disputed'
          exact absurd ⟨queued, answered⟩ silent
  | adoptedOverDead disputed silent =>
      cases due' with
      | registered free => exact absurd free disputed.registered?
      | alreadyCurrent own =>
          exact absurd (Option.some.inj (disputed.bound.symm.trans own)) disputed.other
      | replacedClosed bound _ down => exact absurd down (disputed.up bound)
      | closedDuplicate disputed' queued answered =>
          obtain ⟨rfl, rfl⟩ := disputed.unique disputed'
          exact absurd ⟨queued, answered⟩ silent
      | adoptedOverDead => rfl

/-- To what a takeover comes that begins in `h`, if `later` happens while it waits. -/
structure ComesTo (h : Hub) (s : Session) (later : List Move) (takeover : Takeover) : Prop where
  registered : takeover = .registered ↔ h.registered? s.variant s.key = none
  alreadyCurrent : takeover = .alreadyCurrent ↔ h.boundTo? s.variant s.key = some s.link
  replacedClosed : takeover = .replacedClosed ↔ ∃ owner,
    h.boundTo? s.variant s.key = some owner ∧ owner ≠ s.link ∧
      (h.isAlive owner = false ∨ h.isClosed owner = true)
  closedDuplicate : takeover = .closedDuplicate ↔ ∃ owner l, h.Disputed s owner l ∧
    (l.ping h.now).2 = true ∧ .pong owner ∈ later
  adoptedOverDead : takeover = .adoptedOverDead ↔ ∃ owner l, h.Disputed s owner l ∧
    ¬((l.ping h.now).2 = true ∧ .pong owner ∈ later)

theorem Due.comesTo {takeover : Takeover} (due : h.Due s later takeover) :
    h.ComesTo s later takeover := by
  refine ⟨⟨?_, ?_⟩, ⟨?_, ?_⟩, ⟨?_, ?_⟩, ⟨?_, ?_⟩, ⟨?_, ?_⟩⟩
  · rintro rfl
    cases due with
    | registered free => exact free
  · exact fun free => due.unique (.registered free)
  · rintro rfl
    cases due with
    | alreadyCurrent bound => exact bound
  · exact fun bound => due.unique (.alreadyCurrent bound)
  · rintro rfl
    cases due with
    | replacedClosed bound other down => exact ⟨_, bound, other, down⟩
  · rintro ⟨owner, bound, other, down⟩
    exact due.unique (.replacedClosed bound other down)
  · rintro rfl
    cases due with
    | closedDuplicate disputed queued answered => exact ⟨_, _, disputed, queued, answered⟩
  · rintro ⟨owner, l, disputed, queued, answered⟩
    exact due.unique (.closedDuplicate disputed queued answered)
  · rintro rfl
    cases due with
    | adoptedOverDead disputed silent => exact ⟨_, _, disputed, silent⟩
  · rintro ⟨owner, l, disputed, silent⟩
    exact due.unique (.adoptedOverDead disputed silent)

theorem Disputed.of_newTask (disputed : h.newTask.1.Disputed s owner l) : h.Disputed s owner l :=
  ⟨disputed.bound, disputed.other, disputed.alive, disputed.known, disputed.open_⟩

theorem Due.of_newTask {takeover : Takeover} (due : h.newTask.1.Due s later takeover) :
    h.Due s later takeover := by
  cases due with
  | registered free => exact .registered free
  | alreadyCurrent bound => exact .alreadyCurrent bound
  | replacedClosed bound other down => exact .replacedClosed bound other down
  | closedDuplicate disputed queued answered =>
      exact .closedDuplicate disputed.of_newTask queued answered
  | adoptedOverDead disputed silent => exact .adoptedOverDead disputed.of_newTask silent

theorem Begun.retakes_newTask {takeover : TakeoverStart}
    (begun : h.newTask.1.Begun i s next takeover) :
    Retakes s (fun owner => ∃ l, h.Disputed s owner l) h next := by
  have retakes := begun.retakes
  refine ⟨retakes.sessions, fun variant key other => ?_, fun j untouched => ?_⟩
  · exact (retakes.slots variant key other).trans (by cases variant <;> rfl)
  · refine retakes.connections j fun ⟨l, disputed⟩ => untouched ⟨l, disputed.of_newTask⟩

theorem Begun.due {takeover : Takeover} (begun : h.Begun i s next (.done takeover)) :
    h.Due s [] takeover := by
  cases begun with
  | free free => exact .registered free
  | own bound => exact .alreadyCurrent bound
  | down bound other down => exact .replacedClosed bound other down
  | refused disputed refused => exact .adoptedOverDead disputed fun ⟨queued, _⟩ => by simp_all

end StationHub.Hub
