import StationHub.Proofs.Openings.Ends

/-!
Changes that leave the path lock, the tasks and the clock alone and answer nobody.

* `Speech`: how a queue changes when no answer is put into it.
* `Aloof`, `Mute`, `Calm`: the changes; each operation has its lemma `calm_…`.
-/

namespace StationHub

/-! ### What is said to a peer -/

/-- The parcel is an answer to a call of the peer: an array that starts with the number of a result
or of an error. -/
def Parcel.IsAnswer (parcel : Parcel) : Prop :=
  ∃ (kind : Nat) (fields : List Json), (kind = 3 ∨ kind = 4) ∧
    parcel = .text (Json.arr (.int kind :: fields)).toText

/-- Parcels are taken out and others queued, no answer among them. -/
def Speech (before after : List Parcel) : Prop :=
  ∃ kept added, after = kept ++ added ∧ kept.Sublist before ∧ ∀ parcel ∈ added, ¬parcel.IsAnswer

namespace Speech

theorem of_sublist {before after : List Parcel} (sub : after.Sublist before) :
    Speech before after :=
  ⟨after, [], (List.append_nil _).symm, sub, fun _ member => nomatch member⟩

theorem refl (queue : List Parcel) : Speech queue queue := of_sublist (List.Sublist.refl queue)

theorem trans {first second third : List Parcel} (h : Speech first second)
    (h' : Speech second third) : Speech first third := by
  obtain ⟨kept, added, rfl, sub, others⟩ := h
  obtain ⟨kept', added', rfl, sub', others'⟩ := h'
  obtain ⟨old, new, rfl, oldSub, newSub⟩ := List.sublist_append_iff.mp sub'
  refine ⟨old, new ++ added', List.append_assoc _ _ _, oldSub.trans sub, ?_⟩
  intro parcel member
  rcases List.mem_append.mp member with early | late
  · exact others parcel (newSub.subset early)
  · exact others' parcel late

end Speech

/-- The text of an array that starts with a digit has it behind the bracket. -/
theorem Json.front_toText {digit : Nat} (small : digit < 10) (fields : List Json) :
    (Json.arr (.int digit :: fields)).toText.toList[1]? = some digit.digitChar := by
  have digits : ∀ digit < 10, Json.renderInt (digit : Nat) = [digit.digitChar] := by decide
  rw [toText, String.toList_ofList]
  cases fields <;> simp [render, renderItems, digits digit small]

/-- The text of a call is not that of an answer. -/
theorem Parcel.not_isAnswer_call (id command : String) (payload : Json) :
    ¬(Parcel.text (Message.call id command payload).encode).IsAnswer := by
  rintro ⟨kind, fields, answers, same⟩
  have call : (Message.call id command payload).encode =
      (Json.arr (.int (2 : Nat) :: [.str id, .str command, payload])).toText := rfl
  have small : kind < 10 := by omega
  have front := Json.front_toText small fields
  rw [← Parcel.text.inj same, call, Json.front_toText (by decide)] at front
  rcases answers with rfl | rfl <;> exact absurd front (by decide)

theorem Parcel.not_isAnswer_ping (number : Nat) : ¬(Parcel.ping number).IsAnswer := by
  rintro ⟨kind, fields, -, same⟩
  cases same

namespace Link

theorem speech_offer {parcel : Parcel} (other : ¬parcel.IsAnswer) (link : Link) :
    Speech link.queue (link.offer parcel).1.queue := by
  unfold offer
  split
  · exact .refl _
  · refine ⟨link.queue, [parcel], rfl, List.Sublist.refl _, fun added member => ?_⟩
    rw [List.mem_singleton.mp member]
    exact other

theorem speech_ping (link : Link) (now : Nat) : Speech link.queue (link.ping now).1.queue := by
  have offered := speech_offer (Parcel.not_isAnswer_ping link.pings)
    { link with pings := link.pings + 1 }
  unfold ping
  dsimp only
  split
  · exact offered
  · exact offered

theorem speech_startProbe (link : Link) (now wait : Nat) :
    Speech link.queue (link.startProbe now wait).1.queue := by
  unfold startProbe
  split
  · exact .refl _
  · exact speech_ping link now

theorem queue_enter (link : Link) (phase : Phase) : (link.enter phase).queue = link.queue := by
  unfold enter
  split <;> rfl

theorem queue_close (link : Link) (cause : CloseCause) :
    (link.close cause).1.queue = link.queue := by
  unfold close
  split
  · rfl
  · exact queue_enter _ _

theorem queue_finish (link : Link) : link.finish.1.queue = link.queue := by
  unfold finish
  split <;> rfl

end Link

namespace Connection

variable {c next : Connection} {now : Nat}

theorem speech_takeUp? (done : c.takeUp? now = some next) :
    Speech c.link.queue next.link.queue := by
  unfold takeUp? at done
  split at done
  · split at done
    · cases done
      exact .refl _
    · obtain ⟨⟨parcel, link⟩, taken, rfl⟩ := Option.map_eq_some_iff.mp done
      unfold Link.take? at taken
      split at taken
      · cases taken
      · rename_i rest queue
        cases taken
        rw [queue]
        exact .of_sublist (List.sublist_cons_self _ rest)
  · cases done

theorem speech_accepted? (done : c.accepted? = some next) :
    Speech c.link.queue next.link.queue := by
  unfold accepted? at done
  split at done
  · cases done
    exact .refl _
  · cases done
    exact .refl _
  · cases done
    exact .of_sublist (List.nil_sublist _)
  · cases done

theorem speech_failed? (done : c.failed? = some next) :
    Speech c.link.queue next.link.queue := by
  unfold failed? at done
  split at done
  · cases done
    exact .of_sublist (List.nil_sublist _)
  · cases done
    exact .refl _
  · cases done
    exact .of_sublist (List.nil_sublist _)
  · cases done

theorem speech_expired? (done : c.expired? now = some next) :
    Speech c.link.queue next.link.queue := by
  unfold expired? at done
  split at done
  · cases (Option.ite_none_right_eq_some.mp done).2
    exact .of_sublist (List.nil_sublist _)
  · cases (Option.ite_none_right_eq_some.mp done).2
    exact .of_sublist (List.nil_sublist _)
  · cases done

end Connection

namespace Hub

/-- What is queued on connection number `i`. -/
def queueOf (h : Hub) (i : Nat) : List Parcel := ((h.link? i).map Link.queue).getD []

/-- A call of the peer has been noted on session number `i`. -/
def hasCalled (h : Hub) (i : Nat) : Bool := (h.session? i).any Session.calledBefore

/-- The path lock, the tasks and the clock are the same. -/
structure Aloof (h next : Hub) : Prop where
  lock : next.lock = h.lock
  tasks : next.tasks = h.tasks
  now : next.now = h.now

theorem Aloof.refl (h : Hub) : h.Aloof h := ⟨rfl, rfl, rfl⟩

theorem Aloof.trans {h mid next : Hub} (first : h.Aloof mid) (second : mid.Aloof next) :
    h.Aloof next :=
  ⟨second.lock.trans first.lock, second.tasks.trans first.tasks, second.now.trans first.now⟩

/-- Nobody is answered, and no call of a peer is noted. -/
structure Mute (h next : Hub) : Prop where
  dropped : next.repliesDropped = h.repliesDropped
  called : ∀ i, next.hasCalled i = h.hasCalled i
  speech : ∀ i, Speech (h.queueOf i) (next.queueOf i)

theorem Mute.refl (h : Hub) : h.Mute h := ⟨rfl, fun _ => rfl, fun _ => .refl _⟩

theorem Mute.trans {h mid next : Hub} (first : h.Mute mid) (second : mid.Mute next) :
    h.Mute next where
  dropped := second.dropped.trans first.dropped
  called := fun i => (second.called i).trans (first.called i)
  speech := fun i => (first.speech i).trans (second.speech i)

/-- Neither the path lock, the tasks and the clock change, nor is anybody answered. -/
structure Calm (h next : Hub) : Prop extends Aloof h next, Mute h next

theorem Calm.refl (h : Hub) : h.Calm h := ⟨.refl h, .refl h⟩

theorem Calm.trans {h mid next : Hub} (first : h.Calm mid) (second : mid.Calm next) :
    h.Calm next :=
  ⟨first.toAloof.trans second.toAloof, first.toMute.trans second.toMute⟩

/-! ### Elementary operations -/

theorem queueOf_congr {h next : Hub} {i : Nat} (same : next.link? i = h.link? i) :
    next.queueOf i = h.queueOf i := by
  unfold queueOf
  rw [same]

/-- Nobody is answered where connections and sessions are the same. -/
theorem mute_of_eq {h next : Hub} (dropped : next.repliesDropped = h.repliesDropped)
    (sessions : next.sessions = h.sessions) (connections : next.connections = h.connections) :
    h.Mute next where
  dropped := dropped
  called := fun i => by
    unfold hasCalled session?
    rw [sessions]
  speech := fun i => by
    have same : next.link? i = h.link? i := by
      unfold link? connection?
      rw [connections]
    rw [queueOf_congr same]
    exact .refl _

/-- Books, slots and numbers may change. -/
theorem calm_of_eq {h next : Hub} (aloof : h.Aloof next)
    (dropped : next.repliesDropped = h.repliesDropped) (sessions : next.sessions = h.sessions)
    (connections : next.connections = h.connections) : h.Calm next :=
  ⟨aloof, mute_of_eq dropped sessions connections⟩

theorem calm_count (h : Hub) (occasion : Counters.Occasion) : h.Calm (h.count occasion) :=
  calm_of_eq ⟨rfl, rfl, rfl⟩ rfl rfl rfl

theorem calm_conclude (h : Hub) (id : Nat) (outcome : TaskOutcome) :
    h.Calm (h.conclude id outcome) :=
  calm_of_eq ⟨rfl, rfl, rfl⟩ rfl rfl rfl

theorem calm_newTask (h : Hub) : h.Calm h.newTask.1 := calm_of_eq ⟨rfl, rfl, rfl⟩ rfl rfl rfl

theorem calm_setRoster (h : Hub) (variant : Variant) (roster : Roster Nat Nat) :
    h.Calm (h.setRoster variant roster) := by
  cases variant <;> exact calm_of_eq ⟨rfl, rfl, rfl⟩ rfl rfl rfl

/-- A connection changes, and nobody is answered on it. -/
theorem calm_modifyConnection {h : Hub} {i : Nat} {change : Connection → Connection}
    (speech : ∀ c, h.connection? i = some c → Speech c.link.queue (change c).link.queue) :
    h.Calm (h.modifyConnection i change) where
  toAloof := ⟨rfl, rfl, rfl⟩
  dropped := rfl
  called := fun _ => rfl
  speech := fun j => by
    unfold queueOf link?
    rw [connection?_modifyConnection]
    cases here : h.connection? j with
    | none => exact .refl _
    | some c =>
        simp only [Option.map_some, Option.getD_some]
        by_cases same : i = j
        · subst same
          rw [if_pos rfl]
          exact speech c here
        · rw [if_neg same]
          exact .refl _

theorem calm_modifyLink {change : Link → Link}
    (speech : ∀ link : Link, Speech link.queue (change link).queue) (h : Hub) (i : Nat) :
    h.Calm (h.modifyLink i change) :=
  calm_modifyConnection fun c _ => speech c.link

/-- A change of a connection that leaves its queue alone. -/
theorem calm_of_queue (change : Link → Link)
    (same : ∀ link : Link, (change link).queue = link.queue) (h : Hub) (i : Nat) :
    h.Calm (h.modifyLink i change) :=
  calm_modifyLink (fun link => same link ▸ .refl _) h i

/-- A link is replaced by one on which nobody is answered. -/
theorem calm_replaceLink {h : Hub} {i : Nat} {link next : Link} (here : h.link? i = some link)
    (speech : Speech link.queue next.queue) : h.Calm (h.modifyLink i fun _ => next) := by
  refine calm_modifyConnection fun c at_i => ?_
  have same : c.link = link := by simpa [link?, at_i] using here
  exact same ▸ speech

theorem calm_closeLink (h : Hub) (i : Nat) (cause : CloseCause) :
    h.Calm (h.closeLink i cause).1 := by
  unfold closeLink
  split
  · exact .refl h
  · rename_i link here
    exact calm_replaceLink here (link.queue_close cause ▸ .refl _)

theorem calm_closed (h : Hub) (i : Nat) (cause : CloseCause) : h.Calm (h.closed i cause) :=
  calm_closeLink h i cause

theorem calm_startProbe (h : Hub) (i wait : Nat) : h.Calm (h.startProbe i wait).1 := by
  unfold startProbe
  split
  · exact .refl h
  · rename_i link here
    exact calm_replaceLink here (link.speech_startProbe h.now wait)

theorem calm_changeConnection? {h next : Hub} {i : Nat} {change : Connection → Option Connection}
    (speech : ∀ c c', change c = some c' → Speech c.link.queue c'.link.queue)
    (done : h.changeConnection? i change = some next) : h.Calm next := by
  unfold changeConnection? at done
  obtain ⟨c', changed, rfl⟩ := Option.map_eq_some_iff.mp done
  obtain ⟨c, here, changed⟩ := Option.bind_eq_some_iff.mp changed
  refine calm_modifyConnection fun c'' at_i => ?_
  rw [here] at at_i
  cases at_i
  exact speech c c' changed

/-! ### Sessions -/

/-- A session changes, and no call of its peer is noted. -/
theorem calm_modifySession {h : Hub} {i : Nat} {change : Session → Session}
    (same : ∀ s, h.session? i = some s → (change s).calledBefore = s.calledBefore) :
    h.Calm (h.modifySession i change) where
  toAloof := ⟨rfl, rfl, rfl⟩
  dropped := rfl
  called := fun j => by
    unfold hasCalled
    rw [session?_modifySession]
    cases here : h.session? j with
    | none => rfl
    | some s =>
        simp only [Option.map_some, Option.any_some]
        by_cases at_i : i = j
        · subst at_i
          rw [if_pos rfl, same s here]
        · rw [if_neg at_i]
  speech := fun _ => .refl _

theorem calledBefore_settle? {s next : Session} {id : String} {outcome : CallOutcome}
    (settled : s.settle? id outcome = some next) : next.calledBefore = s.calledBefore := by
  unfold Session.settle? at settled
  split at settled
  · cases settled
    rfl
  · cases settled

theorem calm_settle (h : Hub) (i : Nat) (id : String) (outcome : CallOutcome) :
    h.Calm (h.settle i id outcome).1 := by
  unfold settle
  split
  · rename_i next settled
    obtain ⟨s, here, settled⟩ := Option.bind_eq_some_iff.mp settled
    refine calm_modifySession fun s' at_i => ?_
    rw [here] at at_i
    cases at_i
    exact calledBefore_settle? settled
  · exact calm_count h _

theorem calm_failPending (h : Hub) (i : Nat) : h.Calm (h.failPending i).1 := by
  unfold failPending
  split
  · exact .refl h
  · rename_i s here
    refine calm_modifySession fun s' at_i => ?_
    rw [here] at at_i
    cases at_i
    rfl

theorem calm_expire? {h next : Hub} {i : Nat} {id : String} (expired : h.expire? i id = some next) :
    h.Calm next := by
  unfold expire? at expired
  obtain ⟨s', found, rfl⟩ := Option.map_eq_some_iff.mp expired
  obtain ⟨s, here, settled⟩ := Option.bind_eq_some_iff.mp found
  refine (calm_modifySession fun t at_i => ?_).trans (calm_count _ _)
  rw [here] at at_i
  cases at_i
  unfold Session.expire? at settled
  split at settled
  · cases settled
  · split at settled
    · exact calledBefore_settle? settled
    · cases settled

theorem aloof_sendText (h : Hub) (i : Nat) (text : String) : h.Aloof (h.sendText i text).1 := by
  unfold sendText
  split <;> exact ⟨rfl, rfl, rfl⟩

theorem calm_sendText {text : String} (other : ¬(Parcel.text text).IsAnswer) (h : Hub) (i : Nat) :
    h.Calm (h.sendText i text).1 := by
  unfold sendText
  split
  · exact .refl h
  · rename_i link here
    exact calm_replaceLink here (link.speech_offer other)

theorem calm_sendCall (h : Hub) (i : Nat) (command : String) (payload : Json) :
    h.Calm (h.sendCall i command payload).1 := by
  have numbered : h.Calm { h with nextMessage := h.nextMessage + 1 } :=
    calm_of_eq ⟨rfl, rfl, rfl⟩ rfl rfl rfl
  unfold sendCall
  split
  · exact .refl h
  · rename_i s _
    split
    · exact .refl h
    · dsimp only
      split
      · exact numbered
      · have sent := numbered.trans (calm_sendText
          (Parcel.not_isAnswer_call (h.messageId h.nextMessage) command payload) _ s.link)
        split
        · exact sent.trans (calm_modifySession fun _ _ => rfl)
        · exact sent

/-- A session is made; no call of its peer has been noted yet. -/
theorem calm_withSession (h : Hub) (link : Nat) (variant : Variant) (identity : Identity) :
    h.Calm (h.withSession link variant identity) := by
  have made : h.Calm
      { h with sessions := h.sessions ++ [h.newSession link variant identity] } := by
    refine ⟨⟨rfl, rfl, rfl⟩, rfl, fun i => ?_, fun i => .refl _⟩
    unfold hasCalled session?
    rw [List.getElem?_append]
    split
    · rfl
    · rename_i beyond
      rw [List.getElem?_eq_none (Nat.le_of_not_lt beyond), List.getElem?_singleton]
      split <;> rfl
  exact made.trans (calm_of_queue (fun l => l.identify identity) (fun _ => rfl) _ link)

/-! ### Takeovers -/

theorem calm_beginTakeover (h : Hub) (i : Nat) (s : Session) :
    h.Calm (h.beginTakeover i s).1 := by
  unfold beginTakeover
  split
  · exact calm_setRoster h _ _
  · split
    · exact .refl h
    · split
      · exact calm_setRoster h _ _
      · rename_i rival _
        have probed := calm_startProbe h rival h.settings.probeTimeout
        split <;> rename_i started <;> rw [started] at probed
        · exact probed.trans (calm_setRoster _ _ _)
        · exact probed

theorem calm_concludeTakeover (h : Hub) (i rival : Nat) (alive : Bool) :
    h.Calm (h.concludeTakeover i rival alive).1 := by
  unfold concludeTakeover
  split
  · exact .refl h
  · cases alive with
    | false => exact calm_setRoster h _ _
    | true =>
        exact ((calm_closed h rival .duplicate).trans (calm_count _ _)).trans
          (calm_setRoster _ _ _)

/-! ### Sweeps -/

theorem calm_unregister (h : Hub) (variant : Variant) (key : Key) (link : Nat) :
    h.Calm (h.unregister variant key link).1 :=
  calm_setRoster h variant _

theorem calm_failMember (h : Hub) (variant : Variant) (key : Key) (link : Nat) :
    h.Calm (h.failMember variant key link).1 := by
  have counted : h.Calm ((h.count .pingFailure).modifyLink link Link.addFailure) :=
    (calm_count h _).trans (calm_of_queue Link.addFailure (fun _ => rfl) _ link)
  unfold failMember
  dsimp only
  split
  · exact counted
  · exact (counted.trans (calm_closed _ link _)).trans (calm_unregister _ variant key link)

theorem calm_beginMember (h : Hub) (variant : Variant) (key : Key) (link : Nat) :
    h.Calm (h.beginMember variant key link).1 := by
  have probed := calm_startProbe h link h.settings.probeTimeout
  unfold beginMember
  split
  · split <;> rename_i started <;> rw [started] at probed
    · exact probed
    · exact probed.trans (calm_failMember _ variant key link)
  · exact calm_unregister h variant key link

theorem calm_resumeMember (h : Hub) (variant : Variant) (member : Member) :
    h.Calm (h.resumeMember variant member).1 := by
  unfold resumeMember
  split
  · exact .refl h
  · split
    · exact .refl h
    · exact calm_of_queue Link.resetFailures (fun _ => rfl) h member.link
    · exact calm_failMember h variant member.key member.link

theorem calm_eachMember {α β : Type} {act : Hub → α → Hub × β}
    (calm : ∀ (h : Hub) item, h.Calm (act h item).1) (h : Hub) (items : List α) :
    h.Calm (eachMember act h items).1 := by
  induction items generalizing h with
  | nil => exact .refl h
  | cons item rest ih => exact (calm h item).trans (ih (act h item).1)

theorem calm_beginRoster (h : Hub) (variant : Variant) : h.Calm (h.beginRoster variant).1 := by
  unfold beginRoster
  refine calm_eachMember ?_ h _
  intro h entry
  exact calm_beginMember h variant entry.1 entry.2.link

theorem calm_countEvicted (h : Hub) (members : List Member) : h.Calm (h.countEvicted members) := by
  unfold countEvicted
  induction members generalizing h with
  | nil => exact .refl h
  | cons member rest ih =>
      refine .trans ?_ (ih _)
      dsimp only
      split
      · exact calm_count h _
      · exact .refl h

/-! ### Closing -/

theorem calm_closeSlots (h : Hub) (cause : CloseCause) (slots : List (Key × Slot Nat Nat)) :
    h.Calm (h.closeSlots cause slots).1 := by
  induction slots generalizing h with
  | nil => exact .refl h
  | cons entry rest ih =>
      unfold closeSlots
      dsimp only
      refine .trans ?_ (ih _)
      split
      · exact calm_closeLink h entry.2.link cause
      · exact .refl h

theorem calm_closeAll (h : Hub) (cause : CloseCause) : h.Calm (h.closeAll cause).1 := by
  have roster : ∀ (h : Hub) variant, h.Calm (h.closeRoster cause variant).1 := fun h variant =>
    (calm_setRoster h variant []).trans (calm_closeSlots _ cause _)
  exact (roster h .device).trans (roster _ .management)

theorem calm_handleEnd (h : Hub) (link : Nat) (session : Option Nat) :
    h.Calm (h.handleEnd link session) := by
  have removed : h.Calm ((h.closed link .normal).withoutSession link session) := by
    unfold withoutSession
    split
    · exact calm_closed h link _
    · exact ((calm_closed h link _).trans (calm_unregister _ _ _ link)).trans
        (calm_failPending _ _)
  rw [handleEnd_eq]
  refine removed.trans ?_
  unfold finishLink
  split
  · exact .refl _
  · rename_i l here
    have same : Speech l.queue l.finish.1.queue := l.queue_finish ▸ Speech.refl l.queue
    have finished := calm_replaceLink here same
    dsimp only
    split
    · exact finished.trans (calm_count _ _)
    · exact finished

theorem calm_accept (h : Hub) (variant : Variant) : h.Calm (h.accept variant).1 := by
  refine ⟨⟨rfl, rfl, rfl⟩, rfl, fun i => rfl, fun i => ?_⟩
  have at_i : (h.accept variant).1.connection? i = (h.connections ++ [_])[i]? := rfl
  unfold queueOf link?
  rw [at_i, List.getElem?_append]
  split
  · exact .refl _
  · rename_i beyond
    rw [connection?, List.getElem?_eq_none (Nat.le_of_not_lt beyond), List.getElem?_singleton]
    split <;> exact .refl _

end Hub

end StationHub
