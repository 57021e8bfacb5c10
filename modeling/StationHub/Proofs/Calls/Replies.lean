import StationHub.Proofs.Calls.Executions

/-!
What is answered to the calls of peers.

* `Reply.Answers`: the text with which an answer of the executor is sent.
* `Replied`: one answer is offered to a connection. It is queued, or it is dropped and counted.
* `replied_of_step?`: an answer of the executor is offered to the connection of the session that
  the call came on.
* `unanswered_of_step?`: nothing else is an answer to a call, but what somebody else sends.
* `dropped_of_run?`: the answers that are counted are those that were dropped.
-/

namespace StationHub

/-- The text that answers the call `id`: a result with the payload, or an error with the fault, the
description and the details of the rejection. -/
inductive Reply.Answers (id : String) : Reply → String → Prop where
  | result (payload : Json) : Answers id (.ok payload) (Json.arr [.int 3, .str id, payload]).toText
  | error (rejection : Rejection) : Answers id (.error rejection)
      (Json.arr [.int 4, .str id, .str rejection.fault.name, .str rejection.description,
        rejection.details]).toText

theorem Reply.answers_message (id : String) (reply : Reply) :
    Answers id reply (message id reply).encode := by
  cases reply with
  | ok payload => exact .result payload
  | error rejection => exact .error rejection

namespace Link

variable (link : Link) (parcel : Parcel)

theorem queue_offer :
    (link.offer parcel).1.queue = link.queue ++ if link.refuses then [] else [parcel] := by
  unfold offer refuses
  split
  · exact (List.append_nil _).symm
  · rfl

/-- What is offered is refused exactly if the link takes nothing up. -/
theorem offer_refused : (link.offer parcel).2 = .refused ↔ link.refuses = true := by
  unfold offer refuses
  split
  · rename_i refused
    exact iff_of_true rfl refused
  · rename_i taken
    refine iff_of_false ?_ taken
    dsimp only
    split <;> exact nofun

end Link

namespace Hub

variable {h next : Hub} {move : Move}

/-- A text is offered to connection number `i` as the answer to a call. -/
structure Replied (h : Hub) (i : Nat) (text : String) (dropped : Bool) (next : Hub) : Prop where
  /-- It comes last in the queue of the connection, unless it is dropped. -/
  queue : ∀ j, next.queueOf j =
    h.queueOf j ++ if j = i ∧ dropped = false then [.text text] else []
  /-- It is counted if it is dropped. -/
  count : next.repliesDropped = h.repliesDropped + if dropped then 1 else 0

theorem queueOf_sendText {i : Nat} {link : Link} (here : h.link? i = some link) (text : String)
    (j : Nat) : (h.sendText i text).1.queueOf j =
      h.queueOf j ++ if j = i ∧ link.refuses = false then [.text text] else [] := by
  unfold sendText
  rw [here]
  unfold queueOf
  rw [link?_modifyLink]
  by_cases same : i = j
  · subst same
    rw [here]
    simp only [Option.map_some, Option.getD_some, if_true, true_and]
    rw [Link.sendText, Link.queue_offer]
    cases link.refuses <;> rfl
  · have other : j ≠ i := fun is => same is.symm
    simp [same, other]

/-- The answer of the executor is offered to the connection of the session. -/
theorem replied_afterExecution {session : Nat} {s : Session} {link : Link}
    (here : h.session? session = some s) (there : h.link? s.link = some link) (id : Nat)
    (request : Request) (guard : Option Guard) (reply : Reply) :
    h.Replied s.link (Reply.message request.id reply).encode link.refuses
      (h.afterExecution id session request guard reply) := by
  have bare : h.Replied s.link (Reply.message request.id reply).encode link.refuses
      (h.afterExecution id session request none reply) := by
    have queue := queueOf_sendText there (Reply.message request.id reply).encode
    have kept : (h.sendText s.link (Reply.message request.id reply).encode).1.repliesDropped =
        h.repliesDropped := by
      unfold sendText
      rw [there]
      rfl
    have refused : (h.sendText s.link (Reply.message request.id reply).encode).2 = .refused ↔
        link.refuses = true := by
      unfold sendText
      rw [there]
      exact link.offer_refused _
    unfold afterExecution
    simp only [here]
    split <;> rename_i offered <;> rw [offered] at queue kept refused
    · have drops := refused.mp rfl
      exact ⟨queue, by rw [drops]; exact congrArg (· + 1) kept⟩
    · rename_i other
      have taken : link.refuses = false := Bool.eq_false_iff.mpr fun drops =>
        other (refused.mpr drops)
      exact ⟨queue, by rw [taken]; exact kept⟩
  cases guard with
  | none => exact bare
  | some guard => exact ⟨bare.queue, bare.count⟩

/-! ### Moves -/

/-- An answer to a call is queued with an answer of the executor, or somebody else sends it. -/
theorem unanswered_of_step? (moved : h.step? move = some next)
    (other : ∀ id reply, move ≠ .executorAnswers id reply) :
    next.repliesDropped = h.repliesDropped ∧ ∀ i, ∃ kept added,
      next.queueOf i = kept ++ added ∧ kept.Sublist (h.queueOf i) ∧
        ∀ parcel ∈ added, parcel.IsAnswer → ∃ text, move = .text i text ∧ parcel = .text text := by
  cases speaks : move.speaks with
  | false =>
      have silent := silent_of_step? moved speaks
      have unsaid : ∀ {i : Nat} {before after : List Parcel}, Speech before after →
          ∃ kept added, after = kept ++ added ∧ kept.Sublist before ∧
            ∀ parcel ∈ added, parcel.IsAnswer →
              ∃ text, move = .text i text ∧ parcel = .text text := by
        rintro i before after ⟨kept, added, rfl, sub, others⟩
        exact ⟨kept, added, rfl, sub, fun parcel member answers =>
          absurd answers (others parcel member)⟩
      unfold Silent at silent
      split at silent
      · exact ⟨silent.dropped, fun i => unsaid (silent.speech i)⟩
      · exact ⟨silent.dropped, fun i => unsaid (silent.speech i)⟩
  | true =>
      cases move with
      | text link text =>
          cases moved
          cases here : h.link? link with
          | none =>
              have same : (h.sendText link text).1 = h := by simp [sendText, here]
              rw [same]
              exact ⟨rfl, fun i => ⟨_, [], (List.append_nil _).symm, List.Sublist.refl _,
                fun _ member => nomatch member⟩⟩
          | some l =>
              refine ⟨by simp [sendText, here, modifyLink, modifyConnection], fun i => ?_⟩
              refine ⟨_, _, queueOf_sendText here text i, List.Sublist.refl _, ?_⟩
              intro parcel member _
              split at member
              · rename_i own
                exact ⟨text, by rw [own.1], List.mem_singleton.mp member⟩
              · cases member
      | executorAnswers id reply => exact absurd rfl (other id reply)
      | _ => cases speaks

variable {start : Hub} {moves : List Move}

/-- The session of an execution exists. -/
theorem Balance.session_of_execution (balance : Balance start moves h) {execution : Execution}
    (member : execution ∈ h.executions) : (h.session? execution.session).isSome = true := by
  have given : execution ∈ start.observed invoked? moves :=
    balance.executions.mem_iff.mpr (List.mem_append_left _ (List.mem_append_left _ member))
  refine balance.known execution.call (balance.calls.mem_iff.mpr ?_)
  exact List.mem_append_left _ (List.mem_append_right _ (List.mem_map_of_mem given))

/-- What waits for the executor keeps the connection of its session. -/
theorem isAlive_of_execution {execution : Execution} {s : Session}
    (member : execution ∈ h.executions) (here : h.session? execution.session = some s) :
    h.isAlive s.link = true := by
  obtain ⟨⟨id, activity⟩, inside, executes⟩ := List.mem_filterMap.mp member
  refine Bool.or_eq_true_iff.mpr (.inr (List.any_eq_true.mpr ⟨_, inside, ?_⟩))
  cases activity with
  | executing session context request guard =>
      cases executes
      simp only [holds, here]
      simp
  | _ => cases executes

/-- The executor's answer to a call is offered to the connection that the call came on, under the
identifier of the call. -/
theorem replied_of_step? (balance : Balance start moves h) (attached : h.Attached) {id : Nat}
    {reply : Reply} (moved : h.step? (.executorAnswers id reply) = some next) :
    ∃ execution s text, h.execution? id = some execution ∧
      h.session? execution.session = some s ∧ h.isAlive s.link = true ∧
        Reply.Answers execution.request.id reply text ∧
          h.Replied s.link text (h.refuses execution.session) next := by
  obtain ⟨session, context, request, guard, found, rfl⟩ := executed moved
  have executes : h.execution? id = some ⟨id, session, context, request⟩ := by
    rw [execution?, found]
    rfl
  have member : (⟨id, session, context, request⟩ : Execution) ∈ h.executions :=
    List.mem_filterMap.mpr ⟨_, List.mem_of_find?_eq_some found, rfl⟩
  obtain ⟨s, here⟩ := Option.isSome_iff_exists.mp (balance.session_of_execution member)
  obtain ⟨link, there⟩ := Option.isSome_iff_exists.mp (attached here)
  refine ⟨_, s, _, executes, here, isAlive_of_execution member here,
    Reply.answers_message request.id reply, ?_⟩
  have refuses : h.refuses session = link.refuses := by
    unfold Hub.refuses
    rw [here, Option.bind_some, there]
    rfl
  have replied := replied_afterExecution (h := h.detach id) here there id request guard reply
  rw [refuses]
  exact ⟨replied.queue, replied.count⟩

/-- The answers that are counted are those that were dropped. -/
theorem dropped_of_run? {settings : Settings} {mark : Mark}
    (run : (fresh settings mark).run? moves = some h) :
    h.repliesDropped =
      ((fresh settings mark).observed answered? moves).countP Answered.dropped := by
  induction moves using List.reverseRecOn generalizing h with
  | nil =>
      cases run
      rfl
  | append_singleton moves move ih =>
      obtain ⟨mid, before, moved⟩ := run?_concat.mp run
      rw [observed_concat before, List.countP_append, ← ih before]
      by_cases answers : ∃ id reply, move = .executorAnswers id reply
      · obtain ⟨id, reply, rfl⟩ := answers
        obtain ⟨execution, s, text, executes, -, -, -, replied⟩ :=
          replied_of_step? (balance_of_run? before) (attached_of_run? before) moved
        rw [replied.count]
        simp only [answered?, executes, Option.map_some, Option.toList_some,
          List.countP_singleton]
      · have nobody : mid.answered? move = none := by
          cases move with
          | executorAnswers id reply => exact absurd ⟨id, reply, rfl⟩ answers
          | _ => rfl
        rw [nobody]
        exact (unanswered_of_step? moved fun id reply is => answers ⟨id, reply, is⟩).1

end Hub

end StationHub
