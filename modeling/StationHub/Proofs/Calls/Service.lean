import StationHub.Proofs.Calls.Completion

/-!
The calls of peers over a run.

* `told_of_run?`: the executor is told what the call and its session are.
* `reason_of_lost?`: a call is lost only if it is given up or the connection of its session is gone.
* `calls_answered_once`: every call is given to the executor once and answered once, on the
  connection that it came on, and nothing else is answered.
-/

namespace StationHub.Hub

variable {h next : Hub} {move : Move} {moves : List Move}

/-- The executor is told the variant, the key and the identity of the session, which do not change,
and the identifier of the call. -/
theorem told_of_run? {settings : Settings} {mark : Mark}
    (run : (fresh settings mark).run? moves = some h) :
    ∀ execution ∈ (fresh settings mark).observed invoked? moves,
      ∃ s, h.session? execution.session = some s ∧
        execution.context = ⟨s.variant, s.key, execution.request.id, s.identity⟩ := by
  intro execution member
  obtain ⟨earlier, move, later, mid, rfl, before, given⟩ := (mem_observed run).mp member
  obtain ⟨mid', before', after⟩ := run?_split run
  cases before.symm.trans before'
  obtain ⟨next, moved, -⟩ := Option.bind_eq_some_iff.mp after
  obtain ⟨s, here, told⟩ := context_of_invoked? (numbered_of_run? before) moved given
  obtain ⟨s', there, same⟩ := (run?_persists after).session here
  refine ⟨s', there, told.trans ?_⟩
  rw [Session.context, same.variant, same.key, same.identity]

/-- A call is lost only if it is given up, or the connection of its session is gone. -/
theorem reason_of_lost? {start : Hub} (balance : Balance start moves h) (numbered : h.Numbered)
    (attached : h.Attached) (moved : h.step? move = some next) {call : Nat × Request}
    (lost : h.lost? move = some call) :
    (∃ id, move = .cancel id) ∨
      ∃ s, h.session? call.1 = some s ∧ (h.apart move).isAlive s.link = false := by
  obtain ⟨added, turnover, sequel⟩ := sequel_of_step? numbered moved
  unfold lost? at lost
  rw [begun?_eq turnover moved] at lost
  cases added with
  | some task => cases lost
  | none =>
      have inHand : h.callInHand? move = some call := lost
      rcases sequel.carries moved with nobody | ⟨-, other, same, reason⟩
      · rw [inHand] at nobody
        cases nobody
      · rw [inHand] at same
        cases same
        refine reason.imp_right fun gone => ?_
        obtain ⟨s, here⟩ := Option.isSome_iff_exists.mp (balance.session moved inHand)
        have attached' : (h.apart move).Attached := by
          unfold apart
          split <;> exact attached
        have there : (h.apart move).session? call.1 = some s := by
          unfold apart
          split <;> exact here
        exact ⟨s, here, isAlive_of_isGone attached' there gone⟩

/-- What becomes of the calls of peers in a run. -/
structure Served (start : Hub) (moves : List Move) (h : Hub) : Prop
    extends Balance start moves h where
  /-- The executor is told what the session of the call is, and the identifier of the call. -/
  told : ∀ execution ∈ start.observed invoked? moves,
    ∃ s, h.session? execution.session = some s ∧
      execution.context = ⟨s.variant, s.key, execution.request.id, s.identity⟩
  /-- No task executes twice. -/
  once : ((start.observed invoked? moves).map Execution.task).Nodup
  /-- A call is lost only if it is given up, or nobody refers to the connection of its session. -/
  lost : ∀ move next call, h.step? move = some next → h.lost? move = some call →
    (∃ id, move = .cancel id) ∨
      ∃ s, h.session? call.1 = some s ∧ (h.apart move).isAlive s.link = false
  /-- When the executor answers, that is offered to the connection of the session, which still
  exists, as the result or the error of the call; it is queued, or dropped and counted exactly if
  the connection takes nothing up. -/
  replied : ∀ id reply next, h.step? (.executorAnswers id reply) = some next →
    ∃ execution s text, h.execution? id = some execution ∧
      h.session? execution.session = some s ∧ h.isAlive s.link = true ∧
        Reply.Answers execution.request.id reply text ∧
          h.Replied s.link text (h.refuses execution.session) next
  /-- The answers that are counted are those that were dropped. -/
  dropped : h.repliesDropped = (start.observed answered? moves).countP Answered.dropped
  /-- With no other move an answer to a call is queued or counted, unless somebody else sends it. -/
  unanswered : ∀ move next, h.step? move = some next →
    (∀ id reply, move ≠ .executorAnswers id reply) →
      next.repliesDropped = h.repliesDropped ∧ ∀ i, ∃ kept added,
        next.queueOf i = kept ++ added ∧ kept.Sublist (h.queueOf i) ∧
          ∀ parcel ∈ added, parcel.IsAnswer → ∃ text, move = .text i text ∧ parcel = .text text
  /-- Whatever the executor answers, all calls have been executed and answered after finitely many
  moves with which time passes, tasks go on and the executor answers. -/
  completes : ∀ executor : Execution → Reply, h.Completes executor

/-- **Every call is executed once and answered once.** -/
theorem calls_answered_once {settings : Settings} {mark : Mark} {moves : List Move} {h : Hub}
    (run : (fresh settings mark).run? moves = some h) :
    Served (fresh settings mark) moves h where
  toBalance := balance_of_run? run
  told := told_of_run? run
  once := (spent_of_run? run).distinct
  lost := fun _ _ _ moved lost =>
    reason_of_lost? (balance_of_run? run) (numbered_of_run? run) (attached_of_run? run) moved lost
  replied := fun _ _ _ moved => replied_of_step? (balance_of_run? run) (attached_of_run? run) moved
  dropped := dropped_of_run? run
  unanswered := fun _ _ moved other => unanswered_of_step? moved other
  completes := completes ((orderly_fresh settings mark).run run)

/-- A run in which the second call of a session is answered before the first, which is rejected. -/
def outOfOrderRun : List Move :=
  let target : Target := ⟨.device, "/OCPP16/T/K/D1", "T", "K", "D1", "ocpp1.6"⟩
  let identity : Identity := ⟨⟨"T", "T"⟩, ⟨"D1", none, none, none⟩⟩
  [.accept .device, .opening 0 target, .directoryAnswers 0 (.ok identity),
    .handling 0 "/OCPP16/T/K/D1" (.ok (.call "1" "Boot" .null)),
    .handling 0 "/OCPP16/T/K/D1" (.ok (.call "2" "Status" .null)), .resume 3,
    .executorAnswers 3 (.ok .null), .executorAnswers 1 (.error (.notImplemented "Boot"))]

theorem calls_answered_once_outOfOrderRun :
    ∃ h, (fresh {} "hub").run? outOfOrderRun = some h ∧
      ((fresh {} "hub").observed answered? outOfOrderRun).map
        (fun answered => (answered.execution.task, answered.execution.request.id)) =
          [(3, "2"), (1, "1")] ∧
      h.queueOf 0 = [.text "[3,\"2\",null]", .text
        "[4,\"1\",\"NotImplemented\",\"Command \x27Boot\x27 is not implemented\",\x7b\x7d]"] ∧
      Served (fresh {} "hub") outOfOrderRun h := by
  refine ⟨((fresh {} "hub").run? outOfOrderRun).get (by decide), rfl, ?_, ?_, ?_⟩
  · decide
  · decide +kernel
  · exact calls_answered_once rfl

end StationHub.Hub
