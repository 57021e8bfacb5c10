import StationHub.Proofs.Hub.Step
import StationHub.Proofs.Runs

/-!
The course of a run.

* `run?_concat`, `run?_append`: a run in parts.
* `step?_persists`, `run?_persists`: what stays true of a hub whatever it does.
* `step?_calls`: what a move does to the calls of a session.
* `step?_seated`, `step?_unseated`: what a move does to a slot.
-/

namespace StationHub.Hub

/-! ### Runs in parts -/

@[simp] theorem run?_nil (h : Hub) : h.run? [] = some h := rfl

theorem run?_cons (h : Hub) (move : Move) (moves : List Move) :
    h.run? (move :: moves) = (h.step? move).bind fun next => next.run? moves := rfl

theorem run?_append (h : Hub) (earlier later : List Move) :
    h.run? (earlier ++ later) = (h.run? earlier).bind fun mid => mid.run? later :=
  Runs.run_append h earlier later

theorem run?_concat {h last : Hub} {moves : List Move} {move : Move} :
    h.run? (moves ++ [move]) = some last ↔
      ∃ mid, h.run? moves = some mid ∧ mid.step? move = some last :=
  Runs.run_concat

/-- A run that is split ran to where it is split. -/
theorem run?_split {h last : Hub} {earlier later : List Move}
    (run : h.run? (earlier ++ later) = some last) :
    ∃ mid, h.run? earlier = some mid ∧ mid.run? later = some last :=
  Runs.run_split run

/-- What holds at the start and is kept by every move holds all along. -/
theorem run?_induction {P : Hub → Prop}
    (step : ∀ {h next : Hub} {move : Move}, P h → h.step? move = some next → P next)
    {h last : Hub} {moves : List Move} (start : P h) (run : h.run? moves = some last) : P last :=
  Runs.run_induction (P := fun _ => P) (fun _ => step) start run

/-! ### What stays true -/

theorem persists_count (h : Hub) (occasion : Counters.Occasion) :
    h.Persists (h.count occasion) where
  settings := rfl
  mark := rfl
  now := Nat.le_refl _
  stopping := id
  nextTask := Nat.le_refl _
  nextMessage := Nat.le_refl _
  session := fun {_ s} at_i => ⟨s, at_i, .refl s⟩
  connection := fun {_ c} at_i => ⟨c, at_i, .refl c.link⟩
  newLink := no_newLink id

theorem persists_book (h : Hub) (i : Nat) (event : CallEvent) : h.Persists (h.book i event) := by
  have changed : h.Persists (h.modifySession i event.apply) :=
    persists_modifySession fun s _ => event.samePeer_apply s
  unfold book
  split
  · exact changed.trans (persists_count _ _)
  · exact changed

theorem Seats.keepsCalls {opens : Prop} {h next : Hub} {seated : Option Nat}
    (seats : Seats h next seated) : h.KeepsCalls opens next := by
  cases seated with
  | none =>
      obtain rfl : next = h := seats
      exact .refl opens _
  | some i =>
      obtain ⟨s, -, rfl | ⟨rfl, -⟩⟩ := seats
      · exact keepsCalls_setRoster h s.variant _
      · exact .refl opens next

theorem Books.persists {h next : Hub} {event : Option (Nat × CallEvent)}
    (books : Books h next event) : h.Persists next := by
  cases event with
  | none =>
      obtain rfl : next = h := books
      exact .refl _
  | some booked =>
      obtain rfl : next = h.book booked.1 booked.2 := books
      exact persists_book h booked.1 booked.2

theorem Effect.persists {clears opens : Prop} {h next : Hub} {seated : Option Nat}
    {event : Option (Nat × CallEvent)} (effect : Effect clears opens h next seated event) :
    h.Persists next := by
  obtain ⟨a, b, c, d, first, seats, second, books, third⟩ := effect
  have seated : a.KeepsCalls opens b := seats.keepsCalls
  have before := (first.spares.toKeepsCalls.trans seated).trans second.spares.toKeepsCalls
  exact (before.toPersists.trans books.persists).trans third.spares.toPersists

theorem step?_persists {h next : Hub} {move : Move} (moved : h.step? move = some next) :
    h.Persists next :=
  (step?_effect moved).persists

theorem run?_persists {h last : Hub} {moves : List Move} (run : h.run? moves = some last) :
    h.Persists last :=
  run?_induction (P := h.Persists) (fun persists moved => persists.trans (step?_persists moved))
    (.refl h) run

/-! ### Calls -/

/-- The event of a move, if it is about session number `i`. -/
def eventOf? (h : Hub) (i : Nat) (move : Move) : Option CallEvent :=
  (h.session? i).bind fun _ =>
    (h.callEvent? move).bind fun booked => if booked.1 = i then some booked.2 else none

theorem session?_book (h : Hub) (i : Nat) (event : CallEvent) (j : Nat) :
    (h.book i event).session? j =
      (h.session? j).map fun s => if i = j then event.apply s else s := by
  have changed := session?_modifySession h i j event.apply
  unfold book
  split
  · exact changed
  · exact changed

theorem timedOut_book (h : Hub) (i : Nat) (event : CallEvent) :
    (h.book i event).counters.timedOut =
      h.counters.timedOut + if event.isOverdue then 1 else 0 := by
  unfold book
  split <;> rfl

/-- The event of a move stands between changes that keep all calls. -/
theorem Effect.around {clears opens : Prop} {h next : Hub} {seated : Option Nat}
    {event : Option (Nat × CallEvent)} (effect : Effect clears opens h next seated event) :
    ∃ c d, h.KeepsCalls opens c ∧ Books c d event ∧ d.KeepsCalls opens next := by
  obtain ⟨a, b, c, d, first, seats, second, books, third⟩ := effect
  have seated : a.KeepsCalls opens b := seats.keepsCalls
  exact ⟨c, d, (first.spares.toKeepsCalls.trans seated).trans second.spares.toKeepsCalls, books,
    third.spares.toKeepsCalls⟩

/-- A move changes the calls of a session by its event, if it has one that is about the session. -/
theorem step?_calls {h next : Hub} {move : Move} (moved : h.step? move = some next) {i : Nat}
    {s : Session} (here : h.session? i = some s) :
    ∃ s', next.session? i = some s' ∧
      ((h.eventOf? i move).elim s fun event => event.apply s).SameCalls s' := by
  obtain ⟨c, d, before, books, after⟩ := (step?_effect moved).around
  obtain ⟨t, at_c, same⟩ := before.calls here
  unfold eventOf?
  rw [here, Option.bind_some]
  cases known : h.callEvent? move with
  | none =>
      rw [known] at books
      obtain rfl : d = c := books
      obtain ⟨u, at_next, same'⟩ := after.calls at_c
      exact ⟨u, at_next, same.trans same'⟩
  | some booked =>
      rw [known] at books
      obtain rfl : d = c.book booked.1 booked.2 := books
      have at_d := session?_book c booked.1 booked.2 i
      rw [at_c, Option.map_some] at at_d
      obtain ⟨u, at_next, same'⟩ := after.calls at_d
      refine ⟨u, at_next, ?_⟩
      rw [Option.bind_some]
      split at same' <;> rename_i about
      · rw [if_pos about]
        exact (CallEvent.sameCalls_apply booked.2 same).trans same'
      · rw [if_neg about]
        exact same.trans same'

/-- A session that comes with a move has no calls. -/
theorem step?_newcomer {h next : Hub} {move : Move} (moved : h.step? move = some next) {i : Nat}
    {s : Session} (absent : h.session? i = none) (there : next.session? i = some s) :
    s.pending = [] ∧ s.settled = [] := by
  obtain ⟨c, d, before, books, after⟩ := (step?_effect moved).around
  cases known : h.callEvent? move with
  | none =>
      rw [known] at books
      obtain rfl : d = c := books
      exact ((before.trans after).newcomer absent there).2
  | some booked =>
      rw [known] at books
      obtain rfl : d = c.book booked.1 booked.2 := books
      have noneIn : ∀ {g g' : Hub}, g.KeepsCalls ((h.opens? move).isSome = true) g' →
          g.session? i = none → g'.session? i = none := by
        intro g g' keeps gone
        cases found : g'.session? i with
        | none => rfl
        | some t =>
            rw [callEvent?_of_opens (keeps.newcomer gone found).1] at known
            cases known
      have at_d := session?_book c booked.1 booked.2 i
      rw [noneIn before absent] at at_d
      rw [noneIn after at_d] at there
      cases there

/-- A move counts an overdue call if its event is that of a timer. -/
theorem step?_timedOut {h next : Hub} {move : Move} (moved : h.step? move = some next) :
    next.counters.timedOut = h.counters.timedOut +
      if (h.callEvent? move).any (fun booked => booked.2.isOverdue) then 1 else 0 := by
  obtain ⟨c, d, before, books, after⟩ := (step?_effect moved).around
  rw [after.timedOut, ← before.timedOut]
  cases known : h.callEvent? move with
  | none =>
      rw [known] at books
      obtain rfl : d = c := books
      rfl
  | some booked =>
      rw [known] at books
      obtain rfl : d = c.book booked.1 booked.2 := books
      rw [timedOut_book]
      rfl

/-! ### Slots -/

/-- The connection that a slot is bound to. -/
def boundTo? (h : Hub) (variant : Variant) (key : Key) : Option Nat :=
  (h.registered? variant key).map Slot.link

theorem registered?_register_self (h : Hub) (i : Nat) (s : Session) :
    (h.register i s).registered? s.variant s.key = some ⟨i, s.link⟩ := by
  simp [register, registered?]

theorem registered?_register_of_ne {h : Hub} {i : Nat} {s : Session} {variant : Variant} {key : Key}
    (other : ¬(s.variant = variant ∧ s.key = key)) :
    (h.register i s).registered? variant key = h.registered? variant key := by
  unfold register registered?
  by_cases same : variant = s.variant
  · subst same
    rw [roster_setRoster_self]
    exact Table.get?_put_of_ne (fun keys => other ⟨rfl, keys.symm⟩) _ _
  · rw [roster_setRoster_of_ne same]

theorem registered?_book (h : Hub) (i : Nat) (event : CallEvent) (variant : Variant) (key : Key) :
    (h.book i event).registered? variant key = h.registered? variant key := by
  unfold book
  split <;> cases variant <;> rfl

theorem Books.registered? {h next : Hub} {event : Option (Nat × CallEvent)}
    (books : Books h next event) (variant : Variant) (key : Key) :
    next.registered? variant key = h.registered? variant key := by
  cases event with
  | none =>
      obtain rfl : next = h := books
      rfl
  | some booked =>
      obtain rfl : next = h.book booked.1 booked.2 := books
      exact registered?_book h booked.1 booked.2 variant key

/-- The session that a move seats is seated between changes that leave slots alone or empty them. -/
theorem Effect.slots {clears opens : Prop} {h next : Hub} {seated : Option Nat}
    {event : Option (Nat × CallEvent)} (effect : Effect clears opens h next seated event) :
    ∃ a b, Spares clears opens h a ∧ Seats a b seated ∧ a.Persists next ∧
      ∀ variant key, next.registered? variant key = b.registered? variant key ∨
        clears ∧ next.registered? variant key = none := by
  obtain ⟨a, b, c, d, first, seats, second, books, third⟩ := effect
  have seated : a.KeepsCalls opens b := seats.keepsCalls
  refine ⟨a, b, first.spares, seats, ?_, fun variant key => ?_⟩
  · exact ((seated.toPersists.trans second.spares.toPersists).trans books.persists).trans
      third.spares.toPersists
  · rcases third.spares.slot variant key with kept | emptied
    · rw [kept, books.registered?]
      exact second.spares.slot variant key
    · exact .inr emptied

/-- A takeover that ends leaves the slot bound to the connection of its session, unless the slot is
emptied in the same move. -/
theorem step?_seated {h next : Hub} {move : Move} (moved : h.step? move = some next)
    {task i : Nat} (ended : h.takeoverEnded? move = some (task, i)) {s : Session}
    (there : next.session? i = some s) :
    next.boundTo? s.variant s.key = some s.link ∨
      h.clears move = true ∧ next.registered? s.variant s.key = none := by
  obtain ⟨a, b, -, seats, persists, slots⟩ := (step?_effect moved).slots
  rw [ended] at seats
  obtain ⟨t, at_a, seated⟩ := seats
  obtain ⟨s', at_next, same⟩ := persists.session at_a
  rw [there] at at_next
  cases at_next
  have bound : b.boundTo? s.variant s.key = some s.link := by
    rw [same.variant, same.key, same.link]
    rcases seated with rfl | ⟨rfl, already⟩
    · rw [boundTo?, registered?_register_self]
      rfl
    · exact already
  rcases slots s.variant s.key with kept | emptied
  · left
    rw [boundTo?, kept]
    exact bound
  · exact .inr emptied

/-- The session of a takeover that ends exists. -/
theorem session_of_takeoverEnded? {h next : Hub} {move : Move}
    (moved : h.step? move = some next) {task i : Nat}
    (ended : h.takeoverEnded? move = some (task, i)) : ∃ s, next.session? i = some s := by
  obtain ⟨a, b, -, seats, persists, -⟩ := (step?_effect moved).slots
  rw [ended] at seats
  obtain ⟨t, at_a, -⟩ := seats
  obtain ⟨s, there, -⟩ := persists.session at_a
  exact ⟨s, there⟩

/-- Where no takeover of a slot ends, the slot stays as it is or is emptied. -/
theorem step?_unseated {h next : Hub} {move : Move} (moved : h.step? move = some next)
    {variant : Variant} {key : Key}
    (others : ∀ task i s, h.takeoverEnded? move = some (task, i) → next.session? i = some s →
      ¬(s.variant = variant ∧ s.key = key)) :
    next.registered? variant key = h.registered? variant key ∨
      h.clears move = true ∧ next.registered? variant key = none := by
  obtain ⟨a, b, before, seats, persists, slots⟩ := (step?_effect moved).slots
  have kept : b.registered? variant key = a.registered? variant key := by
    cases ended : h.takeoverEnded? move with
    | none =>
        rw [ended] at seats
        obtain rfl : b = a := seats
        rfl
    | some taken =>
        rw [ended] at seats
        obtain ⟨t, at_a, rfl | ⟨rfl, -⟩⟩ := seats
        · obtain ⟨s, there, same⟩ := persists.session at_a
          have other := others taken.1 taken.2 s ended there
          rw [same.variant, same.key] at other
          exact registered?_register_of_ne other
        · rfl
  rcases slots variant key with same | emptied
  · rw [same, kept]
    exact before.slot variant key
  · exact .inr emptied

end StationHub.Hub
