import StationHub.Proofs.Server.Readers

/-!
How the letters of a connection are handled.

* `readBy`, `handedOverBy`, `notedBy`, `failedBy`: what is seen of one reader in a run.
* `letters_of_turn`, `tasks_of_turn`: what a turn of a reader takes in, it gives out or keeps.
* `Ledger`: how what was read, handed over and handled adds up with what a reader still has.
* `letters_handled_in_order`: letters are handled one at a time, in the order of arrival.
-/

namespace StationHub

/-- The letter in hand, if its handling is yet to begin. -/
def Handover.letter? : Handover → Option Letter
  | .waiting letter => some letter
  | .running _ => none

/-- The task that handles the letter in hand. -/
def Handover.task? : Handover → Option Nat
  | .waiting _ => none
  | .running task => some task

namespace Reader

/-- What a reader has in hand. -/
def handover? (reader : Reader) : Option Handover :=
  match reader.stage with
  | .reading _ handover _ _ => handover
  | _ => none

/-- The task that handles the letter of a reader. -/
def running? (reader : Reader) : Option Nat := reader.handover?.bind Handover.task?

/-- The letters that a reader is yet to hand over, in their order. -/
def left (reader : Reader) : List Letter :=
  (reader.handover?.bind Handover.letter?).toList ++ reader.queue

/-- The reader reads what comes. -/
def reads (reader : Reader) : Bool :=
  match reader.stage with
  | .opening _ listens => listens
  | .reading .. => true
  | .ended => false

/-- A reader that reads for a session and has nothing in hand has nothing in its queue. -/
def Drained (reader : Reader) : Prop :=
  ∀ session idleAt pingAt, reader.stage = .reading session none idleAt pingAt → reader.queue = []

theorem left_next (reader : Reader) :
    (reader.next.1.bind Handover.letter?).toList ++ reader.next.2 = reader.queue := by
  unfold next
  cases reader.queue <;> rfl

theorem running?_of_stage {reader : Reader} {session task idleAt pingAt : Nat}
    (stage : reader.stage = .reading session (some (.running task)) idleAt pingAt) :
    reader.running? = some task := by
  simp [running?, handover?, stage, Handover.task?]

theorem running?_next (reader : Reader) : reader.next.1.bind Handover.task? = none := by
  unfold next
  cases reader.queue <;> rfl

theorem queue_of_next {reader : Reader} (nothing : reader.next.1 = none) : reader.next.2 = [] := by
  unfold next at nothing ⊢
  cases same : reader.queue with
  | nil => rfl
  | cons letter rest =>
      rw [same] at nothing
      cases nothing

end Reader

namespace Server

/-! ### What is seen of a reader -/

/-- The letter that reader number `i` reads. -/
def readBy (i : Nat) (_ : Server) : Move → Option Letter
  | .read j (.letter letter) => if j = i then some letter else none
  | _ => none

/-- The letter that reader number `i` hands over, and the task that begins to handle it. -/
def handedOverBy (i : Nat) (s : Server) : Move → Option (Nat × Letter)
  | .handOver j =>
      if j = i then
        (((s.reader? i).bind Reader.handover?).bind Handover.letter?).map fun letter =>
          (s.hub.nextTask, letter)
      else none
  | _ => none

/-- The task whose end reader number `i` takes note of. -/
def notedBy (i : Nat) (s : Server) : Move → Option Nat
  | .handled j =>
      if j = i then (s.reader? i).bind Reader.running? else none
  | _ => none

/-- Why the connection of reader number `i` could not be opened, when the reader learns of it. -/
def failedBy (i : Nat) (s : Server) : Move → Option Failure
  | .opened j =>
      if j = i then
        (s.reader? i).bind fun reader =>
          match reader.stage with
          | .opening task _ =>
              match s.hub.finished.lookup task with
              | some (.opened (.error failure)) => some failure
              | _ => none
          | _ => none
      else none
  | _ => none

variable {settings : Settings} {mark : Mark} {s next : Server} {move : Move} {moves : List Move}
  {i : Nat} {reader after : Reader}

/-- A move that is about another reader, or none, is not seen of this one. -/
theorem unseen (about : move.reader? ≠ some i) :
    readBy i s move = none ∧ handedOverBy i s move = none ∧ notedBy i s move = none ∧
      failedBy i s move = none := by
  cases move with
  | read j item =>
      have other : j ≠ i := fun same => about (congrArg some same)
      cases item <;> simp [readBy, handedOverBy, notedBy, failedBy, other]
  | opened j | handOver j | handled j =>
      have other : j ≠ i := fun same => about (congrArg some same)
      simp [readBy, handedOverBy, notedBy, failedBy, other]
  | _ => exact ⟨rfl, rfl, rfl, rfl⟩

theorem readBy_of_noLetter {item : Item} (noLetter : item.isLetter = false) {j : Nat} :
    readBy i s (.read j item) = none := by
  cases item <;> first | rfl | cases noLetter

theorem isLetter_of_isLast {item : Item} (last : item.isLast = true) : item.isLetter = false := by
  cases item <;> first | rfl | cases last

/-! ### Turns -/

section Turns

variable (turn : reader.Turn s i move after)
include turn

/-- What a turn takes in of letters, it hands over or keeps in order, unless the reader stops. -/
theorem letters_of_turn (here : s.reader? i = some reader) (drained : reader.Drained)
    (goesOn : after.stage ≠ .ended) :
    reader.left ++ (readBy i s move).toList =
      (handedOverBy i s move).toList.map Prod.snd ++ after.left := by
  cases turn with
  | keep stage | queue stage =>
      simp [readBy, handedOverBy, Reader.left, Reader.handover?, stage]
  | take stage =>
      simp [readBy, handedOverBy, Reader.left, Reader.handover?, stage, drained _ _ _ stage,
        Handover.letter?]
  | listen stage noLetter | hear stage noLetter =>
      simp [readBy_of_noLetter noLetter, handedOverBy, Reader.left, Reader.handover?, stage]
  | deafen stage last =>
      simp [readBy_of_noLetter (isLetter_of_isLast last), handedOverBy, Reader.left,
        Reader.handover?, stage]
  | begin_ stage =>
      simp [readBy, handedOverBy, Reader.left, Reader.handover?, stage, reader.left_next]
  | handOver stage =>
      simp [readBy, handedOverBy, Reader.left, Reader.handover?, stage, here, Handover.letter?]
  | handled stage =>
      simp [readBy, handedOverBy, Reader.left, Reader.handover?, stage, reader.left_next,
        Handover.letter?]
  | ping stage | leave stage =>
      simp [readBy, handedOverBy, Reader.left, Reader.handover?, stage]
  | fail | stop => exact absurd rfl goesOn

/-- A reader that has stopped takes in nothing and gives out nothing. -/
theorem nothing_of_turn (rests : reader.stage = .ended) :
    readBy i s move = none ∧ handedOverBy i s move = none ∧ notedBy i s move = none ∧
      failedBy i s move = none ∧ after.stage = .ended := by
  cases turn with
  | leave stage => exact ⟨rfl, rfl, rfl, rfl, stage⟩
  | keep stage | listen stage | deafen stage | take stage | queue stage | hear stage
  | begin_ stage | fail stage | handOver stage | handled stage | ping stage | stop stage =>
      rw [rests] at stage
      cases stage

/-- The tasks that a turn begins or that ran before run afterwards or have been noted, unless the
reader stops. -/
theorem tasks_of_turn (here : s.reader? i = some reader) (goesOn : after.stage ≠ .ended) :
    reader.running?.toList ++ (handedOverBy i s move).toList.map Prod.fst =
      (notedBy i s move).toList ++ after.running?.toList := by
  cases turn with
  | keep stage | queue stage | take stage | listen stage | hear stage | deafen stage | ping stage
  | leave stage =>
      simp [handedOverBy, notedBy, Reader.running?, Reader.handover?, stage, Handover.task?]
  | begin_ stage =>
      simp [handedOverBy, notedBy, Reader.running?, Reader.handover?, stage, reader.running?_next]
  | handOver stage =>
      simp [handedOverBy, notedBy, Reader.running?, Reader.handover?, stage, here,
        Handover.letter?, Handover.task?]
  | handled stage =>
      simp [handedOverBy, notedBy, Reader.running?, Reader.handover?, stage, here, Handover.task?,
        reader.running?_next]
  | fail | stop => exact absurd rfl goesOn

theorem drained_of_turn (drained : reader.Drained) : after.Drained := by
  intro session idleAt pingAt stage'
  cases turn with
  | begin_ | handled =>
      obtain ⟨-, nothing, -, -⟩ := Reader.Stage.reading.inj stage'
      exact Reader.queue_of_next nothing
  | hear stage | ping stage =>
      obtain ⟨-, rfl, -, -⟩ := Reader.Stage.reading.inj stage'
      exact drained _ _ _ stage
  | keep stage | listen stage | leave stage =>
      cases stage.symm.trans stage'
  | _ => cases stage'

/-- A letter handed over or a failure is not seen of a reader whose connection is still to be
opened. -/
theorem early_of_turn {task : Nat} {reading : Bool} (stage : after.stage = .opening task reading) :
    reader.stage ≠ .ended ∧ (∃ task reading, reader.stage = .opening task reading) ∧
      handedOverBy i s move = none := by
  cases turn with
  | keep before | listen before | deafen before =>
      exact ⟨before ▸ nofun, ⟨_, _, before⟩, rfl⟩
  | leave before => cases before.symm.trans stage
  | _ => cases stage

/-- A reader that learns that its connection could not be opened stops. -/
theorem failed_of_turn (here : s.reader? i = some reader) {failure : Failure}
    (failed : failedBy i s move = some failure) :
    (∃ task reading, reader.stage = .opening task reading) ∧ handedOverBy i s move = none ∧
      after.stage = .ended := by
  cases turn with
  | fail stage => exact ⟨⟨_, _, stage⟩, rfl, rfl⟩
  | begin_ stage found => simp [failedBy, here, stage, found] at failed
  | stop stage why =>
      rcases why with ⟨item, -, rfl⟩ | ⟨rfl, -⟩ | ⟨rfl, -⟩ <;> cases failed
  | _ => cases failed

/-- The task that runs after a turn ran before, or comes with it. -/
theorem running_of_turn {task : Nat} (runs : after.running? = some task) :
    reader.running? = some task ∨ move = .handOver i ∧ task = s.hub.nextTask := by
  cases turn with
  | handOver stage => exact .inr ⟨rfl, (Option.some.inj runs).symm⟩
  | begin_ | handled =>
      rw [Reader.running?, Reader.handover?, Reader.running?_next] at runs
      cases runs
  | take | fail | stop => cases runs
  | queue stage | hear stage | ping stage =>
      exact .inl (by simpa [Reader.running?, Reader.handover?, stage] using runs)
  | keep | listen | leave => exact .inl runs
  | deafen => cases runs

/-- A task is noted that ran and has come to its end. -/
theorem noted_of_turn (here : s.reader? i = some reader) {task : Nat}
    (noted : notedBy i s move = some task) :
    reader.running? = some task ∧ ∃ outcome, (task, outcome) ∈ s.hub.finished := by
  cases turn with
  | @handled _ _ _ task' outcome stage found =>
      have runs : reader.running? = some task' := Reader.running?_of_stage stage
      rw [notedBy, if_pos rfl, here, Option.bind_some, runs] at noted
      cases noted
      obtain ⟨before, after, split, -⟩ := List.lookup_eq_some_iff.mp found
      exact ⟨runs, outcome, split ▸ List.mem_append_right _ List.mem_cons_self⟩
  | stop stage why =>
      rcases why with ⟨item, -, rfl⟩ | ⟨rfl, -⟩ | ⟨rfl, -⟩ <;> cases noted
  | _ => cases noted

end Turns

/-! ### Tasks of handlers -/

theorem step?_handler (grounded : s.Grounded) {task : Nat} (handler : s.hub.Handler task)
    (moved : s.step? move = some next) : next.hub.Handler task := by
  refine (step?_keeps (P := fun h => h.Numbered ∧ h.Handler task) ?_ ?_ moved
    ⟨grounded.numbered, handler⟩).2
  · rintro h finished fewer ⟨numbered, handler⟩
    refine ⟨⟨numbered.below, numbered.distinct⟩, handler.begun, handler.handling, ?_, ?_⟩
    · exact fun outcome member => handler.outcome outcome (fewer.subset member)
    · exact fun outcome member => handler.spent outcome (fewer.subset member)
  · rintro h next move ⟨numbered, handler⟩ moved
    exact ⟨Hub.step?_numbered numbered moved, Hub.step?_handler numbered handler moved⟩

theorem step?_over (grounded : s.Grounded) {task : Nat} (past : s.hub.Over task)
    (moved : s.step? move = some next) : next.hub.Over task := by
  refine (step?_keeps (P := fun h => h.Numbered ∧ h.Over task) ?_ ?_ moved
    ⟨grounded.numbered, past⟩).2
  · rintro h finished - ⟨numbered, past⟩
    exact ⟨⟨numbered.below, numbered.distinct⟩, past.begun, past.gone⟩
  · rintro h next move ⟨numbered, past⟩ moved
    exact ⟨Hub.step?_numbered numbered moved, Hub.step?_over numbered past moved⟩

/-- A letter that is handed over is handled by a task of its own. -/
theorem handler_of_handOver (grounded : s.Grounded) (moved : s.step? (.handOver i) = some next) :
    next.hub.Handler s.hub.nextTask := by
  obtain ⟨reader, after, here, turn, -⟩ := turn_of_step? rfl moved
  obtain ⟨finished, fewer, run⟩ := step?_hub moved
  rw [hubMoves_of_reader rfl here, readerMoves] at run
  cases turn with
  | @handOver session _ _ letter stage =>
      rw [stage] at run
      have numbered : ({ s.hub with finished } : Hub).Numbered :=
        ⟨grounded.numbered.below, grounded.numbered.distinct⟩
      have booked : ({ s.hub with finished } : Hub).Booked :=
        fun entry member => grounded.booked entry (fewer.subset member)
      rw [← Option.some.inj run]
      exact Hub.handler_of_beginHandling numbered booked session reader.target.path letter.decode
  | stop _ why => rcases why with ⟨_, -, why⟩ | ⟨why, -⟩ | ⟨why, -⟩ <;> cases why

/-! ### The ledger -/

/-- How what reader number `i` has read, handed over and noted so far adds up with its state. -/
structure Ledger (i : Nat) (read : List Letter) (begun : List (Nat × Letter)) (noted : List Nat)
    (failed : List Failure) (s : Server) : Prop where
  absent : s.reader? i = none → read = [] ∧ begun = [] ∧ noted = [] ∧ failed = []
  inOrder : begun.map Prod.snd <+: read
  letters : ∀ {reader}, s.reader? i = some reader → reader.stage ≠ .ended →
    read = begun.map Prod.snd ++ reader.left
  tasks : ∀ {reader}, s.reader? i = some reader → reader.stage ≠ .ended →
    begun.map Prod.fst = noted ++ reader.running?.toList
  early : ∀ {reader task reading}, s.reader? i = some reader →
    reader.stage = .opening task reading → begun = []
  drained : ∀ {reader}, s.reader? i = some reader → reader.Drained
  handler : ∀ {reader task}, s.reader? i = some reader → reader.running? = some task →
    s.hub.Handler task
  spent : ∀ task ∈ noted, s.hub.Over task
  failing : failed ≠ [] → begun = [] ∧ ∃ reader, s.reader? i = some reader ∧ reader.stage = .ended

variable {read : List Letter} {begun : List (Nat × Letter)} {noted : List Nat}
  {failed : List Failure}

theorem ledger_fresh (settings : Settings) (mark : Mark) (i : Nat) :
    Ledger i [] [] [] [] (fresh settings mark) :=
  ⟨fun _ => ⟨rfl, rfl, rfl, rfl⟩, List.nil_prefix, nofun, nofun, nofun, nofun, nofun, nofun,
    fun some => absurd rfl some⟩

theorem blank_newReader (s : Server) (target : Target) :
    (s.newReader target).left = [] ∧ (s.newReader target).running? = none ∧
      (s.newReader target).Drained := ⟨rfl, rfl, nofun⟩

theorem or_of_append_ne_nil {α : Type} {items : List α} {item : Option α}
    (some : items ++ item.toList ≠ []) : items ≠ [] ∨ item.isSome = true := by
  cases item with
  | none => exact .inl (by simpa using some)
  | some item => exact .inr rfl

/-- A turn of the reader keeps the ledger. -/
theorem Ledger.turn (grounded : s.Grounded) (ledger : Ledger i read begun noted failed s)
    (here : s.reader? i = some reader) (turn : reader.Turn s i move after)
    (there : next.reader? i = some after) (moved : s.step? move = some next) :
    Ledger i (read ++ (readBy i s move).toList) (begun ++ (handedOverBy i s move).toList)
      (noted ++ (notedBy i s move).toList) (failed ++ (failedBy i s move).toList) next := by
  have at_i {other : Reader} (found : next.reader? i = some other) : other = after := by
    rw [there] at found
    exact (Option.some.inj found).symm
  have stopped (ends : reader.stage = .ended) := nothing_of_turn turn ends
  have letters (goesOn : after.stage ≠ .ended) : read ++ (readBy i s move).toList =
      (begun ++ (handedOverBy i s move).toList).map Prod.snd ++ after.left := by
    have before : reader.stage ≠ .ended := fun ends => goesOn (stopped ends).2.2.2.2
    rw [ledger.letters here before, List.append_assoc,
      letters_of_turn turn here (ledger.drained here) goesOn, List.map_append, List.append_assoc]
  constructor
  · intro absent
    rw [there] at absent
    cases absent
  · by_cases goesOn : after.stage = .ended
    · have nobody : handedOverBy i s move = none := by
        cases turn with
        | fail => rfl
        | stop _ why => rcases why with ⟨item, -, rfl⟩ | ⟨rfl, -⟩ | ⟨rfl, -⟩ <;> rfl
        | leave => rfl
        | keep stage | listen stage => cases stage.symm.trans goesOn
        | _ => cases goesOn
      rw [nobody, Option.toList_none, List.append_nil]
      exact ledger.inOrder.trans (List.prefix_append _ _)
    · exact ⟨after.left, (letters goesOn).symm⟩
  · intro other found goesOn
    cases at_i found
    exact letters goesOn
  · intro other found goesOn
    cases at_i found
    have before : reader.stage ≠ .ended := fun ends => goesOn (stopped ends).2.2.2.2
    rw [List.map_append, ledger.tasks here before, List.append_assoc, List.append_assoc,
      tasks_of_turn turn here goesOn]
  · intro other task reading found stage
    cases at_i found
    obtain ⟨-, ⟨task', reading', before⟩, nobody⟩ := early_of_turn turn stage
    rw [ledger.early here before, nobody]
    rfl
  · intro other found
    cases at_i found
    exact drained_of_turn turn (ledger.drained here)
  · intro other task found runs
    cases at_i found
    rcases running_of_turn turn runs with before | ⟨rfl, rfl⟩
    · exact step?_handler grounded (ledger.handler here before) moved
    · exact handler_of_handOver grounded moved
  · intro task member
    rcases List.mem_append.mp member with old | new
    · exact step?_over grounded (ledger.spent task old) moved
    · obtain ⟨runs, outcome, ended⟩ := noted_of_turn turn here (Option.mem_toList.mp new)
      have handler := ledger.handler here runs
      exact step?_over grounded ⟨handler.begun, handler.spent outcome ended⟩ moved
  · intro some
    rcases or_of_append_ne_nil some with old | new
    · obtain ⟨nobody, other, found, ends⟩ := ledger.failing old
      rw [here] at found
      cases found
      obtain ⟨-, nothing, -, -, rests⟩ := stopped ends
      exact ⟨by rw [nobody, nothing]; rfl, after, there, rests⟩
    · obtain ⟨failure, failed⟩ := Option.isSome_iff_exists.mp new
      obtain ⟨⟨task, reading, stage⟩, nothing, rests⟩ := failed_of_turn turn here failed
      exact ⟨by rw [ledger.early here stage, nothing]; rfl, after, there, rests⟩

/-- Every move keeps the ledger of a reader. -/
theorem step?_ledger (grounded : s.Grounded) (ledger : Ledger i read begun noted failed s)
    (moved : s.step? move = some next) :
    Ledger i (read ++ (readBy i s move).toList) (begun ++ (handedOverBy i s move).toList)
      (noted ++ (notedBy i s move).toList) (failed ++ (failedBy i s move).toList) next := by
  by_cases about : move.reader? = some i
  · obtain ⟨reader, after, here, turn, there⟩ := turn_of_step? about moved
    exact ledger.turn grounded here turn there moved
  · obtain ⟨noRead, noHandover, noNote, noFailure⟩ := unseen (s := s) about
    rw [noRead, noHandover, noNote, noFailure]
    simp only [Option.toList_none, List.append_nil]
    have past : ∀ task ∈ noted, next.hub.Over task :=
      fun task member => step?_over grounded (ledger.spent task member) moved
    cases here : s.reader? i with
    | none =>
        obtain ⟨rfl, rfl, rfl, rfl⟩ := ledger.absent here
        have newcomer {reader : Reader} (there : next.reader? i = some reader) :
            reader.left = [] ∧ reader.running? = none ∧ reader.Drained := by
          obtain ⟨_, _, target, -, -, rfl⟩ := newcomer_of_step? here there moved
          exact blank_newReader s target
        refine ⟨fun _ => ⟨rfl, rfl, rfl, rfl⟩, List.nil_prefix, fun there _ => ?_,
          fun there _ => ?_, fun _ _ => rfl, fun there => (newcomer there).2.2,
          fun there runs => ?_, past, fun some => absurd rfl some⟩
        · rw [(newcomer there).1]
          rfl
        · rw [(newcomer there).2.1]
          rfl
        · rw [(newcomer there).2.1] at runs
          cases runs
    | some reader =>
        have there := reader?_of_step? about here moved
        have at_i {other : Reader} (found : next.reader? i = some other) : other = reader := by
          rw [there] at found
          exact (Option.some.inj found).symm
        refine ⟨fun absent => ?_, ledger.inOrder, fun found => ?_, fun found => ?_, fun found => ?_,
          fun found => ?_, fun found runs => ?_, past, fun some => ?_⟩
        · rw [there] at absent
          cases absent
        · exact at_i found ▸ ledger.letters here
        · exact at_i found ▸ ledger.tasks here
        · exact at_i found ▸ ledger.early here
        · exact at_i found ▸ ledger.drained here
        · cases at_i found
          exact step?_handler grounded (ledger.handler here runs) moved
        · obtain ⟨nobody, other, found, ends⟩ := ledger.failing some
          rw [here] at found
          cases found
          exact ⟨nobody, reader, there, ends⟩

theorem ledger_of_run? (run : (fresh settings mark).run? moves = some s) (i : Nat) :
    Ledger i ((fresh settings mark).observed (readBy i) moves)
      ((fresh settings mark).observed (handedOverBy i) moves)
      ((fresh settings mark).observed (notedBy i) moves)
      ((fresh settings mark).observed (failedBy i) moves) s := by
  refine run?_induction (P := fun moves s =>
    Ledger i ((fresh settings mark).observed (readBy i) moves)
      ((fresh settings mark).observed (handedOverBy i) moves)
      ((fresh settings mark).observed (notedBy i) moves)
      ((fresh settings mark).observed (failedBy i) moves) s) ?_ (ledger_fresh settings mark i) run
  intro moves mid next move run ledger moved
  simp only [observed_concat run]
  exact step?_ledger (grounded_of_run? run) ledger moved

/-! ### Pongs -/

end Server

end StationHub
