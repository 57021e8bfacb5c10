import StationHub.Proofs.Link.Deeds

/-!
What the socket of a connection takes, whatever is done to the connection meanwhile.

* `CloseCause.Says`: the code and the words of a close frame.
* `Stands`: where the writer stands, and how what was queued divides into what the socket took, what
  the writer has in hand, and what still waits.
* `accounted_of_run?`: the division holds all along a history.
* `handOnly_of_run?`, `broken_of_run?`: what comes after a close, and after a parcel that fails.
* `writes_in_order`: parcels in the order of the queue, then at most a close frame with the code and
  the words of the first cause, and the end of the stream.
-/

namespace StationHub

/-- The code and the words with which a connection is closed. -/
inductive CloseCause.Says : CloseCause → Nat → String → Prop where
  | normal : Says .normal 1000 "normal"
  | duplicate : Says .duplicate 1011 "duplicate connection"
  | unresponsive : Says .unresponsive 1011 "unresponsive"
  | unidentified : Says .unidentified 1008 "identity resolution failed"
  | idle : Says .idle 1001 "idle timeout"
  | transport : Says .transport 1011 "transport error"
  | shutdown : Says .shutdown 1001 "shutdown"

theorem CloseCause.says_frame (cause : CloseCause) :
    cause.Says cause.frame.code cause.frame.text := by
  cases cause <;> constructor

/-- The close frame of a connection. -/
def Link.farewell (link : Link) : Wire := .close (link.cause.map CloseCause.frame)

/-- The parcel that the socket took. -/
def Wire.parcel? : Wire → Option Parcel
  | .parcel taken => some taken
  | .close _ | .finish => none

/-- The parcel that the writer hands to the socket, if it does. -/
def Writer.hand : Writer → List Parcel
  | .sending parcel => [parcel]
  | _ => []

namespace Connection

/-- The parcels that the socket has taken, oldest first. -/
def parcels (c : Connection) : List Parcel := c.written.filterMap Wire.parcel?

/-! ### Where the writer stands -/

/-- Where the writer stands, when `queued` is what was ever queued, `parcels` what the socket took
of it, and `ending` what the socket took after that. -/
inductive Stands (queued parcels : List Parcel) (link : Link) : Writer → List Wire → Prop where
  | idle : queued = parcels ++ link.queue → Stands queued parcels link .idle []
  | sending {parcel : Parcel} : queued = parcels ++ parcel :: link.queue →
      Stands queued parcels link (.sending parcel) []
  | saying {deadline : Nat} : parcels <+: queued → link.closed = true →
      Stands queued parcels link (.saying deadline) []
  | finishing {deadline : Nat} {ending : List Wire} : parcels <+: queued → link.closed = true →
      ending.Sublist [link.farewell] → Stands queued parcels link (.finishing deadline) ending
  | ended {ending : List Wire} : parcels <+: queued → (ending ≠ [] → link.closed = true) →
      ending.Sublist [link.farewell, .finish] → Stands queued parcels link .ended ending

/-- What was queued, what closed the connection, and what the socket took fit together. -/
structure Accounted (queued : List Parcel) (causes : List CloseCause) (c : Connection) : Prop where
  cause : c.link.cause = causes.head?
  latch : c.link.cause.isSome = c.link.closed
  wire : ∃ parcels ending, c.written = parcels.map Wire.parcel ++ ending ∧
    Stands queued parcels c.link c.writer ending

variable {queued parcels : List Parcel} {causes : List CloseCause} {c next start : Connection}
  {now : Nat} {deed : Deed}

theorem accounted_fresh (variant : Variant) (capacity watermark : Nat) :
    Accounted [] [] (fresh variant capacity watermark) :=
  ⟨rfl, rfl, [], [], rfl, .idle rfl⟩

namespace Stands

variable {link link' : Link} {writer : Writer} {ending : List Wire}

/-- Wherever the writer stands, the socket took the first parcels that were queued. -/
theorem isPrefix (stands : Stands queued parcels link writer ending) : parcels <+: queued := by
  cases stands with
  | idle all => exact ⟨_, all.symm⟩
  | sending all => exact ⟨_, all.symm⟩
  | saying first | finishing first | ended first => exact first

/-- After the parcels the socket took at most the close frame of the connection and the end of the
stream. -/
theorem ending_sublist (stands : Stands queued parcels link writer ending) :
    ending.Sublist [link.farewell, .finish] := by
  cases stands with
  | idle | sending | saying => exact List.nil_sublist _
  | finishing _ _ few => exact few.trans (List.sublist_append_left [link.farewell] [.finish])
  | ended _ _ few => exact few

/-- The socket took something else than parcels only if the connection is closed. -/
theorem closed (stands : Stands queued parcels link writer ending) (other : ending ≠ []) :
    link.closed = true := by
  cases stands with
  | idle | sending | saying => exact absurd rfl other
  | finishing _ closed _ => exact closed
  | ended _ closed _ => exact closed other

/-- A holder of the connection puts something into the queue or closes it. -/
theorem takes {added : Option Parcel} {cause? : Option CloseCause}
    (stands : Stands queued parcels link writer ending)
    (latch : link.cause.isSome = link.closed) (takes : Link.Takes added cause? link link') :
    Stands (queued ++ added.toList) parcels link' writer ending := by
  have kept (closed : link.closed = true) :
      link'.closed = true ∧ link'.farewell = link.farewell := by
    obtain ⟨first, known⟩ := Option.isSome_iff_exists.mp (latch.trans closed)
    have same : link'.cause = some first := by rw [takes.cause, known]; rfl
    have latch' := takes.latch latch
    rw [same] at latch'
    exact ⟨latch'.symm, by rw [Link.farewell, Link.farewell, same, known]⟩
  cases stands with
  | idle all => exact .idle (by rw [all, takes.queue, List.append_assoc])
  | sending all => exact .sending (by rw [all, takes.queue, List.append_assoc]; rfl)
  | saying first closed => exact .saying (first.trans (List.prefix_append _ _)) (kept closed).1
  | finishing first closed few =>
      refine .finishing (first.trans (List.prefix_append _ _)) (kept closed).1 ?_
      rw [(kept closed).2]
      exact few
  | ended first closed few =>
      have first' := first.trans (List.prefix_append queued added.toList)
      cases ending with
      | nil => exact .ended first' (fun other => absurd rfl other) (List.nil_sublist _)
      | cons =>
          have was := closed (List.cons_ne_nil _ _)
          refine .ended first' (fun _ => (kept was).1) ?_
          rw [(kept was).2]
          exact few

/-- The writer ends, and the socket took nothing in between. -/
theorem end_ (stands : Stands queued parcels link writer ending) :
    Stands queued parcels link.dropReader .ended ending :=
  .ended stands.isPrefix stands.closed stands.ending_sublist

end Stands

/-! ### What a deed keeps -/

theorem accounted_takeUp? (accounted : Accounted queued causes c)
    (acted : c.takeUp? now = some next) : Accounted queued causes next := by
  obtain ⟨cause, latch, parcels, ending, written, stands⟩ := accounted
  unfold takeUp? at acted
  split at acted
  · next idle =>
    rw [idle] at stands
    obtain ⟨all⟩ := stands
    split at acted
    · next closed =>
      cases acted
      exact ⟨cause, latch, parcels, [], written, .saying ⟨_, all.symm⟩ closed⟩
    · obtain ⟨⟨parcel, link⟩, taken, rfl⟩ := Option.map_eq_some_iff.mp acted
      unfold Link.take? at taken
      split at taken
      · cases taken
      · next rest queue =>
        cases taken
        exact ⟨cause, latch, parcels, [], written, .sending (by rw [all, queue])⟩
  · cases acted

theorem accounted_accepted? (accounted : Accounted queued causes c)
    (acted : c.accepted? = some next) : Accounted queued causes next := by
  obtain ⟨cause, latch, parcels, ending, written, stands⟩ := accounted
  unfold accepted? at acted
  split at acted
  · next parcel sending =>
    cases acted
    rw [sending] at stands
    obtain ⟨⟩ | ⟨all⟩ := stands
    refine ⟨cause, latch, parcels ++ [parcel], [], ?_, .idle ?_⟩
    · simp [written]
    · rw [all, List.append_assoc]
      rfl
  · next saying =>
    cases acted
    rw [saying] at stands
    cases stands with
    | saying first closed =>
        refine ⟨cause, latch, parcels, [c.link.farewell], ?_,
          .finishing first closed (List.Sublist.refl _)⟩
        rw [written, List.append_nil]
        rfl
  · next finishing =>
    cases acted
    rw [finishing] at stands
    cases stands with
    | finishing first closed few =>
        refine ⟨cause, latch, parcels, ending ++ [.finish], ?_,
          .ended first (fun _ => closed) (few.append (List.Sublist.refl _))⟩
        rw [written, List.append_assoc]
  · cases acted

theorem accounted_failed? (accounted : Accounted queued causes c)
    (acted : c.failed? = some next) :
    Accounted queued (causes ++ (c.closes? .socketFails).toList) next := by
  obtain ⟨cause, latch, parcels, ending, written, stands⟩ := accounted
  unfold failed? at acted
  split at acted
  · next parcel sending =>
    cases acted
    have closing := Link.takes_close c.link .transport
    have after := (stands.takes latch closing).end_
    simp only [Option.toList_none, List.append_nil] at after
    refine ⟨?_, closing.latch latch, parcels, ending, written, after⟩
    have failed : c.closes? .socketFails = some .transport := by
      simp only [closes?, sending]
    rw [failed, Option.toList_some, List.head?_append, ← cause]
    exact closing.cause
  · next saying =>
    cases acted
    have kept : c.closes? .socketFails = none := by simp only [closes?, saying]
    rw [kept, Option.toList_none, List.append_nil]
    rw [saying] at stands
    cases stands with
    | saying first closed =>
        exact ⟨cause, latch, parcels, [], written, .finishing first closed (List.nil_sublist _)⟩
  · next finishing =>
    cases acted
    have kept : c.closes? .socketFails = none := by simp only [closes?, finishing]
    rw [kept, Option.toList_none, List.append_nil]
    exact ⟨cause, latch, parcels, ending, written, stands.end_⟩
  · cases acted

theorem accounted_expired? (accounted : Accounted queued causes c)
    (acted : c.expired? now = some next) : Accounted queued causes next := by
  obtain ⟨cause, latch, parcels, ending, written, stands⟩ := accounted
  unfold expired? at acted
  split at acted
  · cases (Option.ite_none_right_eq_some.mp acted).2
    exact ⟨cause, latch, parcels, ending, written, stands.end_⟩
  · cases (Option.ite_none_right_eq_some.mp acted).2
    exact ⟨cause, latch, parcels, ending, written, stands.end_⟩
  · cases acted

theorem accounted_stop (accounted : Accounted queued causes c) :
    Accounted queued causes c.stop := by
  obtain ⟨cause, latch, parcels, ending, written, stands⟩ := accounted
  exact ⟨cause, latch, parcels, ending, written, stands.end_⟩

/-- What was queued, what closed the connection, and what the socket took fit together after every
deed. -/
theorem accounted_of_act? (accounted : Accounted queued causes c)
    (acted : c.act? now deed = some next) :
    Accounted (queued ++ (c.queues? now deed).toList) (causes ++ (c.closes? deed).toList)
      next := by
  cases other : deed.isWriting with
  | false =>
      obtain ⟨writer, same, takes⟩ := takes_of_act? other acted
      obtain ⟨cause, latch, parcels, ending, written, stands⟩ := accounted
      refine ⟨?_, takes.latch latch, parcels, ending, same.trans written, ?_⟩
      · rw [takes.cause, cause, List.head?_append]
        cases c.closes? deed <;> rfl
      · rw [writer]
        exact stands.takes latch takes
  | true =>
      cases deed with
      | takeUp => simpa [queues?, closes?] using accounted_takeUp? accounted acted
      | socketTakes => simpa [queues?, closes?] using accounted_accepted? accounted acted
      | socketFails => simpa [queues?] using accounted_failed? accounted acted
      | expire => simpa [queues?, closes?] using accounted_expired? accounted acted
      | stop =>
          cases acted
          simpa [queues?, closes?] using accounted_stop accounted
      | _ => cases other

theorem accounted_of_run? {history : List (Nat × Deed)} (begun : Accounted [] [] start)
    (run : start.run? history = some c) :
    Accounted (start.queued history) (start.causes history) c := by
  refine Runs.run_induction (P := fun history c =>
    Accounted (start.queued history) (start.causes history) c) ?_ begun run
  intro history mid next done run accounted acted
  rw [Connection.queued, Connection.causes, Runs.noted_concat run, Runs.noted_concat run]
  exact accounted_of_act? accounted acted

/-! ### After a close -/

theorem Accounted.closed_iff (accounted : Accounted queued causes c) :
    c.link.closed = true ↔ causes ≠ [] := by
  rw [← accounted.latch, accounted.cause]
  cases causes <;> simp

/-- From `c` to `next` the socket took at most the parcel that the writer had in hand. -/
structure Dwindles (c next : Connection) : Prop where
  kept : c.parcels <+: next.parcels
  few : next.parcels ++ next.writer.hand <+: c.parcels ++ c.writer.hand

theorem Dwindles.refl (c : Connection) : c.Dwindles c := ⟨List.prefix_refl _, List.prefix_refl _⟩

theorem Dwindles.trans {mid : Connection} (first : c.Dwindles mid) (second : mid.Dwindles next) :
    c.Dwindles next :=
  ⟨first.kept.trans second.kept, second.few.trans first.few⟩

/-- Of what the writer had in hand, the socket took all or nothing. -/
theorem Dwindles.rest (dwindles : c.Dwindles next) :
    ∃ rest, next.parcels = c.parcels ++ rest ∧ rest <+: c.writer.hand := by
  obtain ⟨rest, same⟩ := dwindles.kept
  refine ⟨rest, same.symm, ?_⟩
  have few := dwindles.few
  rw [← same, List.append_assoc, List.prefix_append_right_inj] at few
  exact (List.prefix_append rest next.writer.hand).trans few

theorem dwindles_of_same (parcels : next.parcels = c.parcels)
    (hand : next.writer.hand <+: c.writer.hand) : c.Dwindles next :=
  ⟨parcels ▸ List.prefix_refl _, parcels ▸ (List.prefix_append_right_inj _).mpr hand⟩

/-- On a closed connection the writer takes nothing more in hand. -/
theorem dwindles_of_act? (closed : c.link.closed = true) (acted : c.act? now deed = some next) :
    c.Dwindles next := by
  cases other : deed.isWriting with
  | false =>
      obtain ⟨writer, written, -⟩ := takes_of_act? other acted
      refine dwindles_of_same ?_ (writer ▸ List.prefix_refl _)
      rw [parcels, parcels, written]
  | true =>
      cases deed with
      | takeUp =>
          unfold act? takeUp? at acted
          dsimp only at acted
          split at acted
          · rw [if_pos closed] at acted
            cases acted
            exact dwindles_of_same rfl (List.nil_prefix)
          · cases acted
      | socketTakes =>
          unfold act? accepted? at acted
          dsimp only at acted
          split at acted
          · next parcel sending =>
            cases acted
            have grown : Connection.parcels
                { c with writer := .idle, written := c.written ++ [.parcel parcel] } =
                  c.parcels ++ [parcel] := by
              simp [parcels, Wire.parcel?]
            refine ⟨?_, ?_⟩
            · rw [grown]
              exact List.prefix_append _ _
            · rw [grown, sending, List.append_assoc]
              exact List.prefix_refl _
          · cases acted
            exact dwindles_of_same (by simp [parcels, Wire.parcel?]) (List.nil_prefix)
          · cases acted
            exact dwindles_of_same (by simp [parcels, Wire.parcel?]) (List.nil_prefix)
          · cases acted
      | socketFails =>
          unfold act? failed? at acted
          dsimp only at acted
          split at acted
          · cases acted
            exact dwindles_of_same rfl (List.nil_prefix)
          · cases acted
            exact dwindles_of_same rfl (List.nil_prefix)
          · cases acted
            exact dwindles_of_same rfl (List.nil_prefix)
          · cases acted
      | expire =>
          unfold act? expired? at acted
          dsimp only at acted
          split at acted
          · cases (Option.ite_none_right_eq_some.mp acted).2
            exact dwindles_of_same rfl (List.nil_prefix)
          · cases (Option.ite_none_right_eq_some.mp acted).2
            exact dwindles_of_same rfl (List.nil_prefix)
          · cases acted
      | stop =>
          cases acted
          exact dwindles_of_same rfl (List.nil_prefix)
      | _ => cases other

/-- Once a connection is closed, the socket takes at most the parcel in hand. -/
theorem dwindles_of_run? {history : List (Nat × Deed)} (accounted : Accounted queued causes c)
    (closed : c.link.closed = true) (run : c.run? history = some next) : c.Dwindles next := by
  have kept : c.Dwindles next ∧ ∃ queued causes', Accounted queued (causes ++ causes') next := by
    refine Runs.run_induction (P := fun _ next =>
      c.Dwindles next ∧ ∃ queued causes', Accounted queued (causes ++ causes') next) ?_
      ⟨.refl c, queued, [], by rw [List.append_nil]; exact accounted⟩ run
    rintro history mid next done - ⟨dwindles, queued, causes', accounted'⟩ acted
    have shut : mid.link.closed = true :=
      accounted'.closed_iff.mpr fun none =>
        accounted.closed_iff.mp closed (List.append_eq_nil_iff.mp none).1
    have then_ := accounted_of_act? accounted' acted
    rw [List.append_assoc] at then_
    exact ⟨dwindles.trans (dwindles_of_act? shut acted), _, _, then_⟩
  exact kept.1

/-! ### After a failure -/

/-- A writer that has ended stays so, and the socket takes nothing more. -/
theorem ended_of_act? (ended : c.writer = .ended) (acted : c.act? now deed = some next) :
    next.writer = .ended ∧ next.written = c.written := by
  cases other : deed.isWriting with
  | false =>
      obtain ⟨writer, written, -⟩ := takes_of_act? other acted
      exact ⟨writer.trans ended, written⟩
  | true =>
      cases deed with
      | stop =>
          cases acted
          exact ⟨rfl, rfl⟩
      | takeUp | socketTakes | socketFails | expire =>
          simp [act?, takeUp?, accepted?, failed?, expired?, ended] at acted
      | _ => cases other

theorem ended_of_run? {history : List (Nat × Deed)} (ended : c.writer = .ended)
    (run : c.run? history = some next) : next.writer = .ended ∧ next.written = c.written := by
  refine Runs.run_induction (P := fun _ next => next.writer = .ended ∧ next.written = c.written)
    ?_ ⟨ended, rfl⟩ run
  rintro history mid next done - ⟨ended, same⟩ acted
  obtain ⟨ended', same'⟩ := ended_of_act? ended acted
  exact ⟨ended', same'.trans same⟩

/-! ### The whole course -/

/-- What the socket has taken of a connection that came from `start` to `c` with `history`. -/
structure WritesInOrder (start : Connection) (history : List (Nat × Deed)) (c : Connection) :
    Prop where
  /-- First come parcels as they were queued, in this order, none left out and none twice. Then
  come at most one close frame, with the code and the words of the first cause, and the end of the
  stream; and they only come once the connection has been closed. -/
  wire : ∃ ending, c.written = c.parcels.map Wire.parcel ++ ending ∧
    c.parcels <+: start.queued history ∧
    (ending ≠ [] → ∃ first others code text, start.causes history = first :: others ∧
      first.Says code text ∧ ending.Sublist [.close (some ⟨code, text⟩), .finish])
  /-- The first cause stays. -/
  cause : c.link.cause = (start.causes history).head?
  closed : c.link.closed = true ↔ start.causes history ≠ []
  /-- Once the connection was closed, the socket took at most the parcel that the writer had in hand
  then. -/
  parting : ∀ {earlier later : List (Nat × Deed)} {mid : Connection}, history = earlier ++ later →
    start.run? earlier = some mid → mid.link.closed = true →
      ∃ rest, c.parcels = mid.parcels ++ rest ∧ rest <+: mid.writer.hand
  /-- Once a parcel failed, the writer has ended and the socket takes nothing more, not even a close
  frame; the connection is closed for that, unless it was closed before. -/
  failure : ∀ {earlier later : List (Nat × Deed)} {mid : Connection} {now : Nat} {parcel : Parcel},
    history = earlier ++ (now, .socketFails) :: later → start.run? earlier = some mid →
      mid.writer = .sending parcel →
        c.writer = .ended ∧ c.written = mid.parcels.map Wire.parcel ∧ c.link.closed = true ∧
          c.link.cause = some (mid.link.cause.getD .transport)

theorem parcels_of_stands {ending : List Wire} {link : Link} {writer : Writer}
    (written : c.written = parcels.map Wire.parcel ++ ending)
    (stands : Stands queued parcels link writer ending) : c.parcels = parcels := by
  have none : ending.filterMap Wire.parcel? = [] := by
    refine List.filterMap_eq_nil_iff.mpr fun wire member => ?_
    have few := stands.ending_sublist.subset member
    simp only [List.mem_cons, List.not_mem_nil, or_false] at few
    rcases few with rfl | rfl <;> rfl
  rw [Connection.parcels, written, List.filterMap_append, none, List.append_nil,
    List.filterMap_map]
  exact List.filterMap_some

/-- **What is queued is written in order, and nothing after the close.** Whatever is done to a
connection from its start on, by those who send, ping and close, by its writer, and by the socket,
which may take, stall or fail at any time. -/
theorem writes_in_order {variant : Variant} {capacity watermark : Nat}
    {history : List (Nat × Deed)}
    (run : (fresh variant capacity watermark).run? history = some c) :
    (fresh variant capacity watermark).WritesInOrder history c := by
  have begun := accounted_fresh variant capacity watermark
  have accounted := accounted_of_run? begun run
  obtain ⟨parcels, ending, written, stands⟩ := accounted.wire
  have took := parcels_of_stands written stands
  refine ⟨⟨ending, took ▸ written, took ▸ stands.isPrefix, fun other => ?_⟩, accounted.cause,
    accounted.closed_iff, ?_, ?_⟩
  · obtain ⟨first, others, causes⟩ :=
      List.exists_cons_of_ne_nil (accounted.closed_iff.mp (stands.closed other))
    have few := stands.ending_sublist
    rw [Link.farewell, accounted.cause, causes] at few
    exact ⟨first, others, _, _, causes, first.says_frame, few⟩
  · rintro earlier later mid rfl before closed
    obtain ⟨mid', before', after⟩ := Runs.run_split run
    cases before.symm.trans before'
    exact (dwindles_of_run? (accounted_of_run? begun before) closed after).rest
  · rintro earlier later mid now parcel rfl before sending
    obtain ⟨mid', before', after⟩ := Runs.run_split run
    cases before.symm.trans before'
    obtain ⟨broken, failed, after⟩ := Option.bind_eq_some_iff.mp after
    have then_ := accounted_of_run? begun before
    obtain ⟨parcels, ending, written, stands⟩ := then_.wire
    have took := parcels_of_stands written stands
    rw [sending] at stands
    have atFailure : broken.writer = .ended ∧ broken.written = mid.written := by
      simp only [step?, act?, failed?, sending] at failed
      cases failed
      exact ⟨rfl, rfl⟩
    obtain ⟨ended, same⟩ := ended_of_run? atFailure.1 after
    cases stands
    have closes : (fresh variant capacity watermark).causes (earlier ++ (now, .socketFails) :: later) =
        ((fresh variant capacity watermark).causes earlier ++ [.transport]) ++
          broken.causes later := by
      rw [causes, Runs.noted_append before, Runs.noted, failed]
      simp [closes?, sending, causes]
    have cause : c.link.cause = some (mid.link.cause.getD .transport) := by
      rw [accounted.cause, then_.cause, closes]
      cases (fresh variant capacity watermark).causes earlier <;> rfl
    refine ⟨ended, ?_, ?_, cause⟩
    · rw [same, atFailure.2, written, took, List.append_nil]
    · rw [← accounted.latch, cause]
      rfl

/-- Two texts and a ping are queued, and the connection is closed twice while the second text is
handed to the socket. The socket still takes it, but not the ping. -/
def partedHistory : List (Nat × Deed) :=
  [(0, .text "one"), (0, .text "two"), (1, .ping), (1, .takeUp), (2, .socketTakes), (2, .takeUp),
    (3, .close .duplicate), (3, .text "late"), (4, .close .idle), (9, .socketTakes), (9, .takeUp),
    (9, .socketTakes), (9, .socketTakes)]

theorem writes_in_order_partedHistory : ∃ c,
    (fresh .device 4 1).run? partedHistory = some c ∧
      (fresh .device 4 1).queued partedHistory = [.text "one", .text "two", .ping 0] ∧
      c.written = [.parcel (.text "one"), .parcel (.text "two"),
        .close (some ⟨1011, "duplicate connection"⟩), .finish] ∧
      (fresh .device 4 1).WritesInOrder partedHistory c :=
  ⟨_, rfl, rfl, rfl, writes_in_order rfl⟩

end Connection

end StationHub
