import StationHub.Message
import StationHub.Proofs.Json.RoundTrip

/-!
Reading back messages.

* `ofJson?_toJson`: the array of a message stands for that message.
* `content_of_ofJson?`: the payload of what is read is one of the items of the array, or what a
  missing payload is filled in with.
* `decode_encode`: messages with whole numbers survive writing and reading, as far as they open
  no more arrays and objects than a text may; whatever is read can be written and read again.
-/

namespace StationHub

/-! ### Items of an array -/

namespace Json

theorem properList_iff {items : List Json} : ProperList items ↔ ∀ item ∈ items, item.Proper := by
  induction items with
  | nil => simp [ProperList]
  | cons item rest ih => simp [ProperList, ih]

theorem wholeList_iff {items : List Json} : WholeList items ↔ ∀ item ∈ items, item.Whole := by
  induction items with
  | nil => simp [WholeList]
  | cons item rest ih => simp [WholeList, ih]

theorem depthList_le_iff {items : List Json} {bound : Nat} :
    depthList items ≤ bound ↔ ∀ item ∈ items, item.depth ≤ bound := by
  induction items with
  | nil => simp [depthList]
  | cons item rest ih => rw [depthList, Nat.max_le, ih, List.forall_mem_cons]

end Json

namespace Message

/-- The payload of the message, or the details of an error. -/
def content : Message → Json
  | call _ _ payload => payload
  | result _ payload => payload
  | error _ _ _ details => details

/-- The message can be written and read back. -/
structure Portable (message : Message) : Prop where
  /-- Whole numbers fit 64 bits and fields are sorted. -/
  proper : message.content.Proper
  /-- All numbers are whole. -/
  whole : message.content.Whole
  /-- One more array can be put around the payload. -/
  shallow : message.content.depth < Json.greatestDepth

/-! ### Messages and arrays -/

/-- The array of a message stands for that message. -/
theorem ofJson?_toJson (message : Message) : ofJson? message.toJson = .ok message := by
  cases message with
  | call id command payload => rfl
  | result id payload => rfl
  | error id fault description details =>
      change Except.ok (error id (Fault.ofName fault.name) description details) = _
      rw [Fault.ofName_name]

/-- The payload is the last item of the array; the others are a small number and strings. -/
theorem toJson_eq (message : Message) :
    ∃ front, message.toJson = .arr (front ++ [message.content]) ∧
      ∀ item ∈ front, item.Proper ∧ item.Whole ∧ item.depth = 0 := by
  have number : (Json.int message.kind.number).Proper := by
    have known : ∀ kind : Kind, (0 : Int) ≤ kind.number ∧ (kind.number : Int) < 2 ^ 64 := by
      intro kind
      cases kind <;> decide
    exact ⟨Int.le_trans (by decide) (known _).1, (known _).2⟩
  have text : ∀ text, (Json.str text).Proper ∧ (Json.str text).Whole ∧ (Json.str text).depth = 0 :=
    fun _ => ⟨trivial, trivial, rfl⟩
  have front : ∀ texts : List String, ∀ item ∈ Json.int message.kind.number :: texts.map Json.str,
      item.Proper ∧ item.Whole ∧ item.depth = 0 := by
    intro texts item member
    rcases List.mem_cons.mp member with rfl | member
    · exact ⟨number, trivial, rfl⟩
    · obtain ⟨text', -, rfl⟩ := List.mem_map.mp member
      exact text text'
  cases message with
  | call id command payload => exact ⟨_, rfl, front [id, command]⟩
  | result id payload => exact ⟨_, rfl, front [id]⟩
  | error id fault description details => exact ⟨_, rfl, front [id, fault.name, description]⟩

theorem proper_toJson {message : Message} (proper : message.content.Proper) :
    message.toJson.Proper := by
  obtain ⟨front, same, plain⟩ := toJson_eq message
  rw [same, Json.Proper, Json.properList_iff]
  exact List.forall_mem_append.mpr
    ⟨fun item member => (plain item member).1, List.forall_mem_singleton.mpr proper⟩

theorem whole_toJson {message : Message} (whole : message.content.Whole) :
    message.toJson.Whole := by
  obtain ⟨front, same, plain⟩ := toJson_eq message
  rw [same, Json.Whole, Json.wholeList_iff]
  exact List.forall_mem_append.mpr
    ⟨fun item member => (plain item member).2.1, List.forall_mem_singleton.mpr whole⟩

/-- The array of a message opens one more than its payload. -/
theorem depth_toJson_le_iff {message : Message} {bound : Nat} :
    message.toJson.depth ≤ bound ↔ message.content.depth < bound := by
  obtain ⟨front, same, plain⟩ := toJson_eq message
  rw [same, Json.depth]
  refine ⟨fun shallow => ?_, fun shallow => ?_⟩
  · exact Nat.lt_of_lt_of_le (Nat.lt_succ_of_le (Json.depthList_le_iff.mp (Nat.le_refl _) _
      (List.mem_append_right _ List.mem_cons_self))) shallow
  · obtain ⟨less, rfl⟩ : ∃ less, bound = less + 1 := ⟨bound - 1, by omega⟩
    refine Nat.succ_le_succ (Json.depthList_le_iff.mpr (List.forall_mem_append.mpr ⟨?_, ?_⟩))
    · exact fun item member => (plain item member).2.2 ▸ Nat.zero_le _
    · exact List.forall_mem_singleton.mpr (Nat.le_of_lt_succ shallow)

/-! ### What arrays are read as -/

/-- The payload of what is read is an item of the array, or stands for one that is missing. -/
theorem content_of_ofJson? {value : Json} {message : Message} (read : ofJson? value = .ok message) :
    ∃ items, value = .arr items ∧
      (message.content ∈ items ∨ message.content = .emptyObject ∨ message.content = .null) := by
  have among : ∀ {fields : List Json} {default : Json},
      fields.head?.getD default ∈ fields ∨ fields.head?.getD default = default := by
    intro fields default
    cases fields with
    | nil => exact .inr rfl
    | cons first rest => exact .inl List.mem_cons_self
  unfold ofJson? at read
  split at read
  · rename_i items
    refine ⟨items, rfl, ?_⟩
    split at read
    · cases read
    · split at read
      · cases read
      · split at read
        · rename_i id fields tail
          have inside : ∀ {item}, item ∈ fields → item ∈ items := fun member =>
            List.mem_of_mem_tail (tail ▸ List.mem_cons_of_mem _ member)
          unfold ofFields? at read
          split at read
          · cases read
            exact among.imp (fun member => inside (List.mem_cons_of_mem _ member)) .inl
          · cases read
          · cases read
            exact among.imp inside .inr
          · cases read
            exact among.imp
              (fun member => inside (List.mem_cons_of_mem _ (List.mem_of_mem_tail member))) .inl
          · cases read
        · cases read
  · cases read

/-- The payload of what is read is proper and opens fewer arrays and objects than a text may. -/
theorem content_of_decode {text : String} {message : Message} (read : decode text = .ok message) :
    message.content.Proper ∧ message.content.depth < Json.greatestDepth := by
  unfold decode at read
  split at read
  · cases read
  · rename_i value found
    obtain ⟨proper, shallow⟩ := Json.proper_of_ofText? found
    obtain ⟨items, rfl, member | empty | null⟩ := content_of_ofJson? read
    · rw [Json.Proper, Json.properList_iff] at proper
      refine ⟨proper _ member, Nat.lt_of_lt_of_le (Nat.lt_succ_of_le ?_) shallow⟩
      exact Json.depthList_le_iff.mp (Nat.le_refl _) _ member
    · rw [empty]
      exact ⟨⟨List.Pairwise.nil, trivial⟩, by decide⟩
    · rw [null]
      exact ⟨trivial, by decide⟩

/-- The payload of what is read from an array of whole numbers has only such. -/
theorem whole_of_ofJson? {value : Json} {message : Message} (read : ofJson? value = .ok message)
    (whole : value.Whole) : message.content.Whole := by
  obtain ⟨items, rfl, member | empty | null⟩ := content_of_ofJson? read
  · rw [Json.Whole, Json.wholeList_iff] at whole
    exact whole _ member
  · rw [empty]
    trivial
  · rw [null]
    trivial

/-! ### Texts -/

/-- A message with whole numbers whose payload opens fewer arrays and objects than a text may is
read back from its text. -/
theorem decode_of_portable {message : Message} (portable : message.Portable) :
    decode message.encode = .ok message := by
  have shallow := depth_toJson_le_iff.mpr portable.shallow
  have read := (Json.ofText?_toText (proper_toJson portable.proper)
    (whole_toJson portable.whole)).mpr shallow
  rw [decode, encode, read]
  exact ofJson?_toJson message

/-- A message with whole numbers is read back from its text exactly if its payload opens fewer
arrays and objects than a text may. What is read from a text with whole numbers is such a
message. -/
theorem decode_encode :
    (∀ message : Message, message.content.Proper → message.content.Whole →
      (decode message.encode = .ok message ↔ message.content.depth < Json.greatestDepth)) ∧
    ∀ {text : String} {value : Json} {message : Message}, Json.ofText? text = some value →
      value.Whole → decode text = .ok message →
      message.Portable ∧ decode message.encode = .ok message := by
  refine ⟨fun message proper whole => ⟨fun read => (content_of_decode read).2, fun shallow => ?_⟩,
    fun {text value message} found whole read => ?_⟩
  · exact decode_of_portable ⟨proper, whole, shallow⟩
  · have same : ofJson? value = .ok message := by
      rw [decode, found] at read
      exact read
    have portable : message.Portable :=
      ⟨(content_of_decode read).1, whole_of_ofJson? same whole, (content_of_decode read).2⟩
    exact ⟨portable, decode_of_portable portable⟩

/-- An error whose fault has a second spelling and whose description is no string, in an array with
a surplus item. -/
theorem decode_encode_respelled :
    let value : Json := .arr [.int 4, .str "7", .str "FormatViolation", .bool true,
      .obj [("a", .arr []), ("b", .int 2)], .null]
    let message := error "7" .formation "true" (.obj [("a", .arr []), ("b", .int 2)])
    decode value.toText = .ok message ∧
      (message.Portable ∧ decode message.encode = .ok message) ∧
      (decode (call "7" "Reset" (.int 5)).encode = .ok (call "7" "Reset" (.int 5)) ↔
        (Json.int 5).depth < Json.greatestDepth) := by
  intro value message
  have small : ∀ n : Int, 0 ≤ n → n < 6 → (Json.int n).Proper := by
    intro n least below
    have power : Nat.pow 2 64 = 2 ^ 64 := rfl
    have half : Nat.pow 2 63 = 2 ^ 63 := rfl
    rw [Json.Proper, power, half]
    omega
  have proper : value.Proper := ⟨small 4 (by decide) (by decide), trivial, trivial, trivial,
    ⟨List.pairwise_pair.mpr (by decide), trivial, small 2 (by decide) (by decide), trivial⟩,
    trivial, trivial⟩
  have whole : value.Whole := ⟨trivial, trivial, trivial, trivial, ⟨trivial, trivial, trivial⟩,
    trivial, trivial⟩
  have found := (Json.ofText?_toText proper whole).mpr (by decide)
  have read : decode value.toText = .ok message := by
    rw [decode, found]
    rfl
  exact ⟨read, decode_encode.2 found whole read,
    decode_encode.1 _ (small 5 (by decide) (by decide)) trivial⟩

end Message

end StationHub
