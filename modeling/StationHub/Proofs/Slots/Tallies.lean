import StationHub.Proofs.Counters.Occasions
import StationHub.Proofs.Slots.Treatment

/-!
What the members of a sweep find, and how it gets into reports, into the counters and into the
rosters.

* `Finding`: the result of the probe at one place; `findings`: those of the members of a roster.
* `addMembers_eq`, `counted_countEvicted`: a report and the counter of evictions take in what was
  found.
* `Records`: failed probes are counted, and evicted entries leave their roster, as findings tell.
* `records_beginMember`, `records_resumeMember`, `records_eachMember`: the sweep of members records
  what it finds; `records_beginRoster`, `records_resumeMembers`: and so does the sweep of a roster.
-/

namespace StationHub

/-- The slot that a place is in. -/
def Place.slot (place : Place) : Variant × Key := (place.variant, place.key)

/-- What a sweep found at one place: whether the probe was answered, and whether the entry was
removed. -/
structure Finding where
  place : Place
  alive : Bool
  evicted : Bool
  deriving DecidableEq

namespace Finding

/-- The result of the probe. -/
def result (finding : Finding) : Place × Bool := (finding.place, finding.alive)

/-- The probe failed. -/
def failed (finding : Finding) : Bool := !finding.alive

end Finding

/-- What was found of a member, if its probe is decided. -/
def Member.finding? (variant : Variant) (member : Member) : Option Finding :=
  match member.stage with
  | .waiting _ => none
  | .done alive evicted => some ⟨member.place variant, alive, evicted⟩

/-- What was found of the members of a roster. -/
def findings (variant : Variant) (members : List Member) : List Finding :=
  members.filterMap (Member.finding? variant)

theorem findings_of_none {members : List Member} (none : ¬members.any Member.isWaiting = true)
    (variant : Variant) :
    (findings variant members).map Finding.place = members.map (Member.place variant) := by
  induction members with
  | nil => rfl
  | cons member rest ih =>
      rw [List.any_cons, Bool.or_eq_true, not_or] at none
      obtain ⟨decided, none⟩ := none
      unfold Member.isWaiting at decided
      have ih := ih none
      unfold findings at ih ⊢
      rw [List.filterMap_cons, Member.finding?]
      cases stage : member.stage with
      | waiting probe => simp [stage] at decided
      | done alive evicted => exact congrArg _ ih

/-! ### Reports -/

namespace SweepReport

/-- The report with the findings taken in. -/
def add (report : SweepReport) (findings : List Finding) : SweepReport where
  probed := report.probed + findings.length
  alive := report.alive + findings.countP Finding.alive
  failed := report.failed + findings.countP Finding.failed
  evicted := report.evicted + findings.countP Finding.evicted

@[simp] theorem add_nil (report : SweepReport) : report.add [] = report := rfl

theorem add_perm (report : SweepReport) {first second : List Finding}
    (same : first.Perm second) : report.add first = report.add second := by
  simp [add, same.length_eq, same.countP_eq]

theorem add_append (report : SweepReport) (first second : List Finding) :
    report.add (first ++ second) = (report.add first).add second := by
  simp [add, Nat.add_assoc]

end SweepReport

namespace Hub

open Counters (Occasion)

variable {h mid next : Hub} {variant : Variant} {place : Place} {first second new : List Finding}
  {gone gone' : Nat} {id : Nat}

theorem addMembers_eq (report : SweepReport) (members : List Member) (variant : Variant) :
    addMembers report members = report.add (findings variant members) := by
  induction members generalizing report with
  | nil => rfl
  | cons member rest ih =>
      have step : addMembers report (member :: rest) =
          addMembers (report.add (member.finding? variant).toList) rest := by
        rw [addMembers, List.foldl_cons, addMembers]
        congr 1
        unfold Member.finding?
        cases member.stage with
        | waiting probe => rfl
        | done alive evicted => cases alive <;> cases evicted <;> rfl
      have found : findings variant (member :: rest) =
          (member.finding? variant).toList ++ findings variant rest := by
        unfold findings
        rw [List.filterMap_cons]
        cases member.finding? variant <;> rfl
      rw [step, ih, found, SweepReport.add_append]

theorem counted_countEvicted (h : Hub) (members : List Member) (variant : Variant) :
    (h.countEvicted members).counters.counted .evicted =
      h.counters.counted .evicted + (findings variant members).countP Finding.evicted := by
  unfold countEvicted findings
  induction members generalizing h with
  | nil => rfl
  | cons member rest ih =>
      rw [List.foldl_cons, ih, List.filterMap_cons, Member.finding?]
      cases stage : member.stage with
      | waiting probe => rfl
      | done alive evicted =>
          cases evicted with
          | false => simp
          | true =>
              have counts : (h.count .evicted).counters.counted .evicted =
                  h.counters.counted .evicted + 1 := rfl
              simp only [List.countP_cons, if_true, counts]
              omega

/-! ### Entries of rosters -/

/-- The entries of both rosters. -/
def listed (h : Hub) : List Place := h.places .device ++ h.places .management

/-- How many entries both rosters have. -/
def registrations (h : Hub) : Nat := h.listed.length

theorem length_places (h : Hub) (variant : Variant) :
    (h.places variant).length = (h.roster variant).length := List.length_map _

theorem registrations_eq (h : Hub) :
    h.registrations = (h.roster .device).length + (h.roster .management).length := by
  rw [registrations, listed, List.length_append, length_places, length_places]

theorem registrations_congr (same : ∀ variant, next.roster variant = h.roster variant) :
    next.registrations = h.registrations := by
  rw [registrations_eq, registrations_eq, same, same]

theorem mem_listed_iff_mem_places : place ∈ h.listed ↔ place ∈ h.places place.variant := by
  rw [listed, List.mem_append]
  constructor
  · rintro (inside | inside) <;>
    · rw [variant_of_mem_places inside]
      exact inside
  · intro inside
    cases known : place.variant with
    | device => exact .inl (known ▸ inside)
    | management => exact .inr (known ▸ inside)

theorem mem_listed_iff (keyed : h.Keyed) :
    place ∈ h.listed ↔ h.boundTo? place.variant place.key = some place.link := by
  rw [mem_listed_iff_mem_places]
  refine ⟨fun inside => ?_, mem_places_of_bound⟩
  obtain ⟨entry, member, same⟩ := List.mem_map.mp inside
  rw [← same]
  exact congrArg (Option.map Slot.link) (Table.get?_of_mem (keyed place.variant) member)

theorem Keyed.nodup_slots (keyed : h.Keyed) (variant : Variant) :
    ((h.places variant).map Place.slot).Nodup := by
  have slots : (h.places variant).map Place.slot =
      ((h.roster variant).map Prod.fst).map (Prod.mk variant) := by
    rw [places, List.map_map, List.map_map]
    rfl
  rw [slots]
  exact (keyed variant).map fun _ _ same => congrArg Prod.snd same

/-- No two entries are in the same slot, also if the rosters are of different times. -/
theorem Keyed.nodup_append (keyed : h.Keyed) (keyed' : next.Keyed) :
    ((h.places .device ++ next.places .management).map Place.slot).Nodup := by
  rw [List.map_append]
  refine List.nodup_append.mpr ⟨keyed.nodup_slots .device, keyed'.nodup_slots .management, ?_⟩
  rintro slot inside slot' inside' rfl
  obtain ⟨place, member, same⟩ := List.mem_map.mp inside
  obtain ⟨other, member', same'⟩ := List.mem_map.mp inside'
  have equal : place.variant = other.variant := congrArg Prod.fst (same.trans same'.symm)
  rw [variant_of_mem_places member, variant_of_mem_places member'] at equal
  cases equal

theorem Keyed.nodup_listed (keyed : h.Keyed) : h.listed.Nodup :=
  .of_map Place.slot (keyed.nodup_append keyed)

theorem length_erase {κ ν : Type} [DecidableEq κ] {key : κ} {value : ν} {table : Table κ ν}
    (distinct : (table.map Prod.fst).Nodup) (found : Table.get? key table = some value) :
    (Table.erase key table).length + 1 = table.length := by
  induction table with
  | nil => cases found
  | cons entry rest ih =>
      obtain ⟨new, distinct⟩ := List.nodup_cons.mp distinct
      unfold Table.get? at found
      unfold Table.erase at ih ⊢
      by_cases here : entry.1 = key
      · have others : rest.filter (fun other => decide (other.1 ≠ key)) = rest := by
          refine List.filter_eq_self.mpr fun other inside => decide_eq_true fun same => new ?_
          exact List.mem_map.mpr ⟨other, inside, same.trans here.symm⟩
        rw [List.filter_cons_of_neg (by simp [here]), others, List.length_cons]
      · rw [if_neg here] at found
        rw [List.filter_cons_of_pos (by simp [here]), List.length_cons, List.length_cons,
          ih distinct found]

/-- An entry that is let go is one less. -/
theorem registrations_unregister (keyed : h.Keyed) (variant : Variant) (key : Key) (link : Nat) :
    (h.unregister variant key link).1.registrations +
      (h.unregister variant key link).2.toNat = h.registrations := by
  have set (roster : Roster Nat Nat) {removed : Nat}
      (lengths : roster.length + removed = (h.roster variant).length) :
      (h.setRoster variant roster).registrations + removed = h.registrations := by
    rw [registrations_eq, registrations_eq]
    cases variant with
    | device =>
        rw [roster_setRoster_self, roster_setRoster_of_ne (by decide)]
        omega
    | management =>
        rw [roster_setRoster_self, roster_setRoster_of_ne (by decide)]
        omega
  unfold unregister Roster.removeIfBound
  by_cases bound : (h.roster variant).boundLink? key = some link
  · rw [if_pos bound]
    obtain ⟨slot, found, -⟩ := Option.map_eq_some_iff.mp bound
    exact set _ (length_erase (keyed variant) found)
  · rw [if_neg bound]
    exact set _ rfl

/-! ### The books of a part of a sweep -/

/-- What was found between `h` and `next` is recorded: each failed probe is counted, without those
where the connection was gone, and each evicted entry has left its roster. -/
structure Records (gone : Nat) (new : List Finding) (h next : Hub) : Prop where
  pingFailures : next.counters.counted .pingFailure + gone =
    h.counters.counted .pingFailure + new.countP Finding.failed
  registrations : next.registrations + new.countP Finding.evicted = h.registrations
  evicted : next.counters.counted .evicted = h.counters.counted .evicted
  /-- Nobody is evicted whose probe was answered. -/
  failed : ∀ finding ∈ new, finding.evicted = true → finding.failed = true

theorem records_of_eq (counters : next.counters = h.counters)
    (rosters : ∀ variant, next.roster variant = h.roster variant) : Records 0 [] h next :=
  ⟨by rw [counters]; rfl, registrations_congr rosters, by rw [counters], nofun⟩

theorem Records.trans (left : Records gone first h mid) (right : Records gone' second mid next) :
    Records (gone + gone') (first ++ second) h next := by
  have failures := left.pingFailures
  have failures' := right.pingFailures
  have entries := left.registrations
  have entries' := right.registrations
  refine ⟨?_, ?_, right.evicted.trans left.evicted,
    List.forall_mem_append.mpr ⟨left.failed, right.failed⟩⟩ <;>
  · rw [List.countP_append]
    omega

theorem Records.after (same : Records 0 [] h mid) (records : Records gone new mid next) :
    Records gone new h next := by
  have both := same.trans records
  rwa [Nat.zero_add, List.nil_append] at both

/-! ### Members -/

theorem records_unregister (keyed : h.Keyed) (variant : Variant) (key : Key) (link : Nat) :
    Records 1 [⟨⟨variant, key, link⟩, false, (h.unregister variant key link).2⟩] h
      (h.unregister variant key link).1 := by
  have counters : (h.unregister variant key link).1.counters = h.counters := by
    unfold unregister
    cases variant <;> rfl
  refine ⟨by rw [counters]; rfl, ?_, by rw [counters], ?_⟩
  · have entries := registrations_unregister keyed variant key link
    cases removed : (h.unregister variant key link).2 with
    | false =>
        rw [removed] at entries
        exact entries
    | true =>
        rw [removed] at entries
        exact entries
  · intro finding inside _
    rw [List.mem_singleton.mp inside]
    rfl

theorem records_startProbe (h : Hub) (i wait : Nat) :
    Records 0 [] h (h.startProbe i wait).1 := by
  refine records_of_eq ?_ (roster_startProbe h i wait)
  unfold startProbe
  split <;> rfl

/-- A failed probe is recorded. -/
theorem records_failMember (keyed : h.Keyed) (variant : Variant) (key : Key) (link : Nat) :
    ∃ evicted, (h.failMember variant key link).2 = .done false evicted ∧
      Records 0 [⟨⟨variant, key, link⟩, false, evicted⟩] h
        (h.failMember variant key link).1 := by
  have failure {evicted : Bool} : ∀ finding ∈ [Finding.mk ⟨variant, key, link⟩ false evicted],
      finding.evicted = true → finding.failed = true := by
    intro finding inside _
    rw [List.mem_singleton.mp inside]
    rfl
  have rosters : ∀ variant, (h.withFailure link).roster variant = h.roster variant :=
    roster_modifyLink (h.count .pingFailure) link Link.addFailure
  have counted : (h.withFailure link).counters = h.counters.count .pingFailure := rfl
  unfold failMember
  dsimp only
  rw [show (h.count .pingFailure).modifyLink link Link.addFailure = h.withFailure link from rfl]
  split
  · exact ⟨false, rfl, by rw [counted]; rfl, registrations_congr rosters, by rw [counted]; rfl,
      failure⟩
  · have closed : ∀ variant, ((h.withFailure link).closed link .unresponsive).roster variant =
        h.roster variant :=
      fun variant => (roster_closeLink _ link _ variant).trans (rosters variant)
    have counted' : ((h.withFailure link).closed link .unresponsive).counters =
        h.counters.count .pingFailure := by
      unfold Hub.closed closeLink
      split <;> exact counted
    have records := records_unregister (keyed.congr closed) variant key link
    refine ⟨_, rfl, ?_, ?_, ?_, failure⟩
    · have failures := records.pingFailures
      rw [counted', Counters.counted_count, if_pos rfl] at failures
      exact Nat.succ.inj failures
    · rw [← registrations_congr closed]
      exact records.registrations
    · rw [records.evicted, counted']
      rfl

/-- What is found of a member when its sweep begins is recorded. -/
theorem records_beginMember (keyed : h.Keyed) (variant : Variant) (key : Key) (link : Nat) :
    Records (!h.isAlive link).toNat
      ((h.beginMember variant key link).2.finding? variant).toList h
      (h.beginMember variant key link).1 := by
  have probed : Records 0 [] h (h.startProbe link h.settings.probeTimeout).1 :=
    records_startProbe h link _
  have keyed' : (h.startProbe link h.settings.probeTimeout).1.Keyed :=
    keyed.congr (roster_startProbe h link _)
  unfold beginMember
  split
  · next alive =>
    rw [alive]
    split <;> rename_i started <;> rw [started] at probed keyed'
    · exact probed
    · obtain ⟨evicted, stage, records⟩ := records_failMember keyed' variant key link
      dsimp only [Member.finding?]
      rw [stage]
      exact probed.after records
  · next dead =>
    rw [Bool.eq_false_iff.mpr dead]
    exact records_unregister keyed variant key link

/-- What is found of a member that goes on is recorded. -/
theorem records_resumeMember (keyed : h.Keyed) (variant : Variant) (member : Member) :
    Records 0
      (if member.isWaiting then (h.resumeMember variant member).2.finding? variant
        else none).toList h (h.resumeMember variant member).1 := by
  have idle : Records 0 [] h h := records_of_eq rfl fun _ => rfl
  unfold resumeMember Member.isWaiting
  cases stage : member.stage with
  | done alive evicted => exact idle
  | waiting probe =>
      dsimp only
      rw [if_pos rfl]
      cases verdict : h.verdict? member.link probe with
      | none =>
          dsimp only
          rw [Member.finding?, stage]
          exact idle
      | some alive =>
          cases alive with
          | true =>
              have same := registrations_congr (roster_modifyLink h member.link Link.resetFailures)
              exact ⟨rfl, same, rfl, by simp [Member.finding?]⟩
          | false =>
              obtain ⟨evicted, failed, records⟩ :=
                records_failMember keyed variant member.key member.link
              dsimp only [Member.finding?]
              rw [failed]
              exact records

/-! ### All members of a roster -/

/-- What is found of the members one after the other is recorded; the rosters keep one entry for a
key meanwhile, and nothing else matters that is kept. -/
theorem records_eachMember {α β : Type} (act : Hub → α → Hub × β) (news : α → β → Option Finding)
    (isGone : α → Bool) (keeps : Hub → Prop)
    (kept : ∀ h item, keeps h → keeps (act h item).1)
    (step : ∀ h item, keeps h →
      Records (isGone item).toNat (news item (act h item).2).toList h (act h item).1)
    (start : keeps h) (items : List α) :
    Records (items.countP isGone)
      ((items.zip (eachMember act h items).2).filterMap fun pair => news pair.1 pair.2) h
      (eachMember act h items).1 := by
  induction items generalizing h with
  | nil => exact records_of_eq rfl fun _ => rfl
  | cons item rest ih =>
      have both := (step h item start).trans (ih (kept h item start))
      have counts : (item :: rest).countP isGone = (isGone item).toNat + rest.countP isGone := by
        rw [List.countP_cons, Nat.add_comm]
        cases isGone item <;> rfl
      have found (pairs : List (α × β)) :
          ((item, (act h item).2) :: pairs).filterMap (fun pair => news pair.1 pair.2) =
            (news item (act h item).2).toList ++
              pairs.filterMap fun pair => news pair.1 pair.2 := by
        rw [List.filterMap_cons]
        cases news item (act h item).2 <;> rfl
      rw [counts]
      dsimp only [eachMember]
      rw [List.zip_cons_cons, found]
      exact both

theorem length_eachMember {α β : Type} (act : Hub → α → Hub × β) (h : Hub) (items : List α) :
    (eachMember act h items).2.length = items.length := by
  induction items generalizing h with
  | nil => rfl
  | cons item rest ih => exact congrArg Nat.succ (ih _)

/-- What each member comes to is what all of them come to. -/
theorem filterMap_zip_eachMember {α β γ : Type} (act : Hub → α → Hub × β) (h : Hub)
    (items : List α) (f : β → Option γ) :
    (items.zip (eachMember act h items).2).filterMap (fun pair => f pair.2) =
      (eachMember act h items).2.filterMap f := by
  have seconds := List.map_snd_zip (Nat.le_of_eq (length_eachMember act h items))
  conv => rhs; rw [← seconds]
  rw [List.filterMap_map]
  rfl

/-- What is found with the beginning of the sweep of a roster is recorded. -/
theorem records_beginRoster (keyed : h.Keyed) (variant : Variant) :
    Records ((h.places variant).countP fun place => !h.isAlive place.link)
      (findings variant (h.beginRoster variant).2) h (h.beginRoster variant).1 := by
  have records := records_eachMember
    (fun h (entry : Key × Slot Nat Nat) => h.beginMember variant entry.1 entry.2.link)
    (fun _ member => member.finding? variant) (fun entry => !h.isAlive entry.2.link)
    (fun mid => mid.Keyed ∧ ∀ i, mid.isAlive i = h.isAlive i)
    (fun mid entry ⟨keyed, alive⟩ => ⟨keyed.quiet (quiet_beginMember mid variant _ _),
      fun i => (isAlive_beginMember mid variant entry.1 entry.2.link i).trans (alive i)⟩)
    (fun mid entry ⟨keyed, alive⟩ => alive entry.2.link ▸
      records_beginMember keyed variant entry.1 entry.2.link)
    ⟨keyed, fun _ => rfl⟩ (h.roster variant).entries
  rw [filterMap_zip_eachMember] at records
  rw [places, List.countP_map]
  exact records

/-- What is found of the members that waited, when all of a roster have gone on. -/
def learnedFindings (variant : Variant) (before after : List Member) : List Finding :=
  (before.zip after).filterMap fun pair =>
    if pair.1.isWaiting then pair.2.finding? variant else none

/-- What is found of the members of a roster that go on is recorded. -/
theorem records_resumeMembers (keyed : h.Keyed) (variant : Variant) (members : List Member) :
    Records 0
      (learnedFindings variant members
        (eachMember (fun h member => h.resumeMember variant member) h members).2) h
      (eachMember (fun h member => h.resumeMember variant member) h members).1 := by
  have records := records_eachMember
    (fun h (member : Member) => h.resumeMember variant member)
    (fun before after => if before.isWaiting then after.finding? variant else none)
    (fun _ => false) Keyed
    (fun mid member keyed => keyed.quiet (quiet_resumeMember mid variant member))
    (fun mid member keyed => records_resumeMember keyed variant member) keyed members
  have nobody : members.countP (fun _ => false) = 0 := by simp
  rw [nobody] at records
  exact records

/-- Each item that members come to is what one of them came to. -/
theorem mem_zip_eachMember {α β : Type} {act : Hub → α → Hub × β} {items : List α}
    {pair : α × β} (h : Hub) (inside : pair ∈ items.zip (eachMember act h items).2) :
    ∃ mid, pair.2 = (act mid pair.1).2 := by
  induction items generalizing h with
  | nil => cases inside
  | cons item rest ih =>
      dsimp only [eachMember] at inside
      rw [List.zip_cons_cons] at inside
      rcases List.mem_cons.mp inside with rfl | later
      · exact ⟨h, rfl⟩
      · exact ih _ later

/-- A list of pairs of which the second parts give what the first parts give and something more. -/
theorem perm_filterMap_snd {α β γ : Type} {f : α → Option γ} {g : β → Option γ}
    {more : α × β → Option γ} {pairs : List (α × β)}
    (split : ∀ pair ∈ pairs, (g pair.2).toList = (f pair.1).toList ++ (more pair).toList) :
    (pairs.filterMap fun pair => g pair.2).Perm
      ((pairs.filterMap fun pair => f pair.1) ++ pairs.filterMap more) := by
  induction pairs with
  | nil => exact .refl _
  | cons pair rest ih =>
      have first := split pair List.mem_cons_self
      have ih := ih fun other inside => split other (List.mem_cons_of_mem _ inside)
      have cons {δ : Type} (k : δ → Option γ) (item : δ) (items : List δ) :
          (item :: items).filterMap k = (k item).toList ++ items.filterMap k := by
        rw [List.filterMap_cons]
        cases k item <;> rfl
      rw [cons, cons, cons, first, List.append_assoc, List.append_assoc]
      refine List.Perm.append_left _ ((ih.append_left _).trans ?_)
      rw [← List.append_assoc, ← List.append_assoc]
      exact List.perm_append_comm.append_right _

/-- What was found of members stays found when they go on. -/
theorem perm_findings (h : Hub) (variant : Variant) (members : List Member) :
    (findings variant
        (eachMember (fun h member => h.resumeMember variant member) h members).2).Perm
      (findings variant members ++ learnedFindings variant members
        (eachMember (fun h member => h.resumeMember variant member) h members).2) := by
  have lengths := length_eachMember (fun h (member : Member) => h.resumeMember variant member) h
    members
  have firsts := List.map_fst_zip (Nat.le_of_eq lengths.symm)
  have before : (members.zip (eachMember (fun h member => h.resumeMember variant member) h
      members).2).filterMap (fun pair => pair.1.finding? variant) = findings variant members := by
    unfold findings
    conv => rhs; rw [← firsts]
    rw [List.filterMap_map]
    rfl
  rw [← before, findings, ← filterMap_zip_eachMember]
  refine perm_filterMap_snd fun pair inside => ?_
  obtain ⟨mid, goesOn⟩ := mem_zip_eachMember h inside
  rw [goesOn]
  unfold resumeMember Member.isWaiting
  cases stage : pair.1.stage with
  | done alive evicted => simp [Member.finding?, stage]
  | waiting probe => simp [Member.finding?, stage]

end Hub

end StationHub
