import StationHub.Proofs.Counters.Occasions
import StationHub.Server

/-!
Letters that are no messages.

* `step?_malformed`: to handle one is counted, and the handling is over at once; all else stays.
* `protocolErrors_of_step?`, `protocolErrors_of_run?`: nothing else is counted as one.
* `malformed_inert`: both, at every point of every run and for every letter.
-/

namespace StationHub.Hub

variable {h next last : Hub} {move : Move} {moves : List Move}

/-- Something is handled that is no message. -/
def Move.isMalformed : Move → Bool
  | .handling _ _ (.error _) => true
  | _ => false

/-- The hub after something that is no message. The handling takes a number, as every task does, and
is over. -/
def afterMalformed (h : Hub) : Hub :=
  { h with
    counters := { h.counters with protocolErrors := h.counters.protocolErrors + 1 }
    nextTask := h.nextTask + 1
    finished := h.finished ++ [(h.nextTask, .handled)] }

/-- The handling of what is no message ends before anything is looked at. -/
theorem step?_malformed (h : Hub) (session : Nat) (path : String)
    (malformed : Message.Malformation) :
    h.step? (.handling session path (.error malformed)) = some h.afterMalformed :=
  rfl

/-- A move counts a malformed message exactly if it handles one. -/
theorem protocolErrors_of_step? (moved : h.step? move = some next) :
    next.counters.protocolErrors =
      h.counters.protocolErrors + if move.isMalformed then 1 else 0 := by
  cases malformed : move.isMalformed with
  | true =>
      unfold Move.isMalformed at malformed
      split at malformed
      · cases moved
        rfl
      · cases malformed
  | false =>
      refine counted_of_step? moved .protocolError fun occurs => ?_
      cases occurs
      cases malformed

/-- Along a run as many malformed messages are counted as are handled. -/
theorem protocolErrors_of_run? (run : h.run? moves = some last) :
    last.counters.protocolErrors = h.counters.protocolErrors + moves.countP Move.isMalformed := by
  induction moves generalizing h with
  | nil =>
      cases run
      rfl
  | cons move rest ih =>
      rw [run?_cons] at run
      obtain ⟨next, moved, run⟩ := Option.bind_eq_some_iff.mp run
      rw [ih run, protocolErrors_of_step? moved, List.countP_cons]
      omega

/-- **Letters that are no messages are inert.** At every point of every run, whatever the session
and the letter: if the letter is no message, its handling is counted and takes a number, and nothing
else changes; if it is one, nothing is counted. So a run counts just those that are none, however
long the handling of the others goes on. -/
theorem malformed_inert (run : h.run? moves = some last) :
    last.counters.protocolErrors = h.counters.protocolErrors + moves.countP Move.isMalformed ∧
      ∀ (session : Nat) (path : String) (letter : Letter),
        match letter.decode with
        | .error malformed =>
            last.step? (.handling session path (.error malformed)) = some
              { last with
                counters :=
                  { last.counters with protocolErrors := last.counters.protocolErrors + 1 }
                nextTask := last.nextTask + 1
                finished := last.finished ++ [(last.nextTask, .handled)] }
        | .ok message =>
            ∃ next, last.step? (.handling session path (.ok message)) = some next ∧
              next.counters.protocolErrors = last.counters.protocolErrors := by
  refine ⟨protocolErrors_of_run? run, fun session path letter => ?_⟩
  cases letter.decode with
  | error malformed => exact step?_malformed last session path malformed
  | ok message =>
      have moved : last.step? (.handling session path (.ok message)) = some _ := rfl
      exact ⟨_, moved, protocolErrors_of_step? moved⟩

/-- A device sends what is no JSON, then an answer to no call, then a message of no kind, and then
its first call. -/
def malformedRun : List Move :=
  let path := "/OCPP16/T/K/D1"
  let identity : Identity := ⟨⟨"T", "T"⟩, ⟨"D1", none, none, none⟩⟩
  [.accept .device, .opening 0 ⟨.device, path, "T", "K", "D1", "ocpp1.6"⟩,
    .directoryAnswers 0 (.ok identity), .handling 0 path (.error .notJson),
    .handling 0 path (.ok (.result "x" .null)), .handling 0 path (.error (.unknownKind 9)),
    .handling 0 path (.ok (.call "1" "Heartbeat" .emptyObject))]

/-- Two of the messages are counted as malformed, and the answer for itself. Bytes that are no UTF-8
would be a third one, and change nothing else. -/
theorem malformed_inert_malformedRun : ∃ last, (fresh {} "hub").run? malformedRun = some last ∧
    last.counters.protocolErrors = 2 ∧ last.counters.unknownResponses = 1 ∧
    2 = malformedRun.countP Move.isMalformed ∧
    ∃ malformed, Letter.decode (.binary [0xff]) = .error malformed ∧
      last.step? (.handling 0 "/OCPP16/T/K/D1" (.error malformed)) = some
        { last with
          counters := { last.counters with protocolErrors := 3 }
          nextTask := last.nextTask + 1
          finished := last.finished ++ [(last.nextTask, .handled)] } := by
  have ends : ((fresh {} "hub").run? malformedRun).map (fun last =>
      (last.counters.protocolErrors, last.counters.unknownResponses)) = some (2, 1) := by
    decide
  obtain ⟨last, run, counted⟩ := Option.map_eq_some_iff.mp ends
  simp only [Prod.mk.injEq] at counted
  obtain ⟨account, letters⟩ := malformed_inert run
  have noText : Letter.decode (.binary [0xff]) = .error .notText := by cbv
  have inert := letters 0 "/OCPP16/T/K/D1" (.binary [0xff])
  rw [noText] at inert
  dsimp only at inert
  rw [counted.1] at inert account
  exact ⟨last, run, counted.1, counted.2, by decide, _, noText, inert⟩

end StationHub.Hub
