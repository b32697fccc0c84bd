import Mathlib.Data.List.Nodup
import AudioGadget.Bench.Codec
import AudioGadget.Bench.Core
import AudioGadget.Bench.Sink
import AudioGadget.Proofs.Reception.Bus
/-!
# Flight — the receptions the core still holds

The busy flags are the gadget's own opinion of what the core holds.
Taking all slots back clears the flags of receptions that are still in
flight. The flags are right again once those are reported, and the exact
condition for a run in which no buffer is lent twice and no report is
taken for another is that every stream begins after they are
(`exclusive_iff_settled`). The gadget does not wait for that.
-/

namespace AudioGadget

open Bench

namespace Bus

variable {U S C : Type}

/-! ## Flags and flights -/

/-- **The flags say what is in flight of this era**, and no buffer is in
flight twice. -/
structure Agree (era : Nat) (flags : List Bool) (flying : List Reception) : Prop where
  flag_iff : ∀ place, flags[place]? = some true ↔
    ∃ r ∈ flying, r.buffer.place = place ∧ r.era = era
  nodup : (flying.map Reception.buffer).Nodup

namespace Agree

variable {era : Nat} {flags : List Bool} {flying : List Reception} {r : Reception}
variable {ep : EndpointAddress} {buffer : BufferId} {length : Nat}

theorem eq_of_place (h : Agree era flags flying) {s : Reception} (hr : r ∈ flying) (hs : s ∈ flying)
    (same : r.buffer.place = s.buffer.place) : r = s :=
  List.inj_on_of_nodup_map h.nodup hr hs (congrArg BufferId.mk same)

/-- **A flag that is set is the flag of this reception**, if its buffer is
in flight. -/
theorem era_of_flag (h : Agree era flags flying) (hr : r ∈ flying)
    (busy : flags[r.buffer.place]? = some true) : r.era = era := by
  obtain ⟨s, hs, same, current⟩ := (h.flag_iff _).1 busy
  rw [h.eq_of_place hr hs same.symm]
  exact current

theorem mem_erase (h : Agree era flags flying) {s : Reception} :
    s ∈ flying.erase r ↔ s ≠ r ∧ s ∈ flying :=
  h.nodup.of_map.mem_erase_iff

theorem nodup_erase (h : Agree era flags flying) (r : Reception) :
    ((flying.erase r).map Reception.buffer).Nodup :=
  h.nodup.sublist (List.erase_sublist.map _)

/-- A reception of an older era lands, and no flag shows it. -/
theorem late (h : Agree era flags flying) (old : r.era ≠ era) :
    Agree era flags (flying.erase r) := by
  refine ⟨fun place => ?_, h.nodup_erase r⟩
  rw [h.flag_iff]
  constructor
  · rintro ⟨s, hs, here, current⟩
    have other : s ≠ r := fun same => old (same ▸ current)
    exact ⟨s, h.mem_erase.2 ⟨other, hs⟩, here, current⟩
  · rintro ⟨s, hs, here, current⟩
    exact ⟨s, List.mem_of_mem_erase hs, here, current⟩

/-- A reception of this era lands, and its flag is cleared. -/
theorem landed (h : Agree era flags flying) (hr : r ∈ flying) :
    Agree era (flags.set r.buffer.place false) (flying.erase r) := by
  refine ⟨fun place => ?_, h.nodup_erase r⟩
  rw [List.getElem?_set]
  by_cases here : r.buffer.place = place
  · have gone : ¬ ∃ s ∈ flying.erase r, s.buffer.place = place ∧ s.era = era := by
      rintro ⟨s, hs, there, -⟩
      obtain ⟨other, hs⟩ := h.mem_erase.1 hs
      exact other (h.eq_of_place hs hr (there.trans here.symm))
    refine iff_of_false ?_ gone
    split <;> simp
  · rw [if_neg here, h.flag_iff]
    constructor
    · rintro ⟨s, hs, there, current⟩
      have other : s ≠ r := fun same => here (same ▸ there)
      exact ⟨s, h.mem_erase.2 ⟨other, hs⟩, there, current⟩
    · rintro ⟨s, hs, there, current⟩
      exact ⟨s, List.mem_of_mem_erase hs, there, current⟩

/-- All slots are taken back: nothing in flight is of the new era. -/
theorem reclaimed (h : Agree era flags flying) (past : ∀ r ∈ flying, r.era ≤ era) :
    Agree (era + 1) (flags.map fun _ => false) flying := by
  refine ⟨fun place => iff_of_false (flags_home flags place) ?_, h.nodup⟩
  rintro ⟨r, hr, -, current⟩
  have old := past r hr
  omega

/-- **A slot whose flag is clear is not in flight**, once all that is in
flight is of this era. -/
theorem free (h : Agree era flags flying) (settled : ∀ r ∈ flying, r.era = era)
    (ours : flags[buffer.place]? = some false) : ∀ r ∈ flying, r.buffer ≠ buffer := by
  rintro r hr rfl
  have busy : flags[r.buffer.place]? = some true := (h.flag_iff _).2 ⟨r, hr, rfl, settled r hr⟩
  rw [ours] at busy
  cases busy

/-- A free slot is offered, and is in flight if it was taken. -/
theorem offered (h : Agree era flags flying) (settled : ∀ r ∈ flying, r.era = era)
    (ours : flags[buffer.place]? = some false) (taken : Bool) :
    Agree era (flags.set buffer.place taken)
      (flying ++ (Entry.launch? era (.submitted ep ⟨buffer, length⟩ taken)).toList) := by
  have free := h.free settled ours
  obtain ⟨inside, flag⟩ := List.getElem?_eq_some_iff.1 ours
  cases taken with
  | false =>
    have same : flags.set buffer.place false = flags := by
      rw [← flag]
      exact List.set_getElem_self inside
    simpa [Entry.launch?, same] using h
  | true =>
    refine ⟨fun place => ?_, ?_⟩
    · rw [List.getElem?_set]
      by_cases here : buffer.place = place
      · simp only [here, if_true, if_pos (here ▸ inside : place < flags.length), true_iff]
        exact ⟨⟨ep, buffer, era⟩, by simp [Entry.launch?], here, rfl⟩
      · simp [here, h.flag_iff, Entry.launch?, or_and_right, exists_or]
    · simp only [Entry.launch?, Option.toList_some, List.map_append, List.map_cons, List.map_nil]
      refine List.nodup_append.2 ⟨h.nodup, List.nodup_singleton _, ?_⟩
      intro b hb b' hb'
      obtain ⟨r, hr, rfl⟩ := List.mem_map.1 hb
      rw [List.mem_singleton.1 hb']
      exact free r hr

end Agree

/-- **Requests under way**: `flying` was in flight before them, all of it of
this era, and none of them was for a buffer in flight. -/
structure Underway (era : Nat) (flying : List Reception) (asked : List Entry)
    (flags : List Bool) : Prop where
  agree : Agree era flags (flying ++ asked.filterMap (Entry.launch? era))
  settled : ∀ r ∈ flying ++ asked.filterMap (Entry.launch? era), r.era = era
  unshared : Unshared era flying asked

namespace Underway

variable {era place : Nat} {flags flags' : List Bool} {flying : List Reception}
variable {asked entries : List Entry} {ep : EndpointAddress} {length : Nat}

theorem offered (h : Underway era flying asked flags) (ours : flags[place]? = some false)
    (taken : Bool) :
    Underway era flying (asked ++ [.submitted ep ⟨⟨place⟩, length⟩ taken])
      (flags.set place taken) := by
  have launched : flying ++
      (asked ++ [Entry.submitted ep ⟨⟨place⟩, length⟩ taken]).filterMap (Entry.launch? era) =
      flying ++ asked.filterMap (Entry.launch? era) ++
        (Entry.launch? era (.submitted ep ⟨⟨place⟩, length⟩ taken)).toList := by
    rw [List.filterMap_append, ← List.append_assoc, launched_cons, List.filterMap_nil,
      List.append_nil]
  refine ⟨?_, ?_, ?_⟩
  · rw [launched]
    exact h.agree.offered h.settled ours taken
  · rw [launched]
    intro r hr
    rcases List.mem_append.1 hr with old | new
    · exact h.settled r old
    · cases taken <;> simp [Entry.launch?] at new
      rw [new]
  · refine unshared_append.2 ⟨h.unshared, unshared_cons.2 ⟨?_, unshared_of_not_mem (by simp)⟩⟩
    rintro _ _ _ ⟨rfl, rfl, rfl⟩
    exact h.agree.free h.settled ours

/-- **A round of lending**, once all that is in flight is of this era. -/
theorem arms (h : Agree era flags flying) (settled : ∀ r ∈ flying, r.era = era)
    (round : Arms ep length 0 flags entries flags') : Underway era flying entries flags' := by
  refine Arms.preserves (Underway era flying) round ?_ ?_
  · exact ⟨by simpa using h, by simpa using settled, unshared_of_not_mem (by simp)⟩
  · intro asked flags place taken underway ours
    exact underway.offered ours taken

end Underway

/-! ## The invariant -/

section Runs

variable [UsbCore U] [PcmSink S] [Codec C] {b : Bus U S C} {a : Action}

structure Placed (g : Gadget (Watched U CoreCall) S C) (era : Nat) (r : Reception) : Prop where
  own : g.endpoint = some r.endpoint
  inside : r.buffer.place < g.pool.flags.length
  past : r.era ≤ era

/-- **What a run brings a bus to**, as long as its streams begin settled. -/
structure InAir (b : Bus U S C) : Prop where
  agree : Agree b.era b.gadget.pool.flags b.flying
  placed : ∀ r ∈ b.flying, Placed b.gadget b.era r
  current : b.gadget.isOperational = true → ∀ r ∈ b.flying, r.era = b.era

omit [UsbCore U] [PcmSink S] [Codec C] in
theorem inAir_boot (usb : U) (sink : S) (codec : C) (format : StreamFormat) (slots : Nat) :
    InAir (boot usb sink codec format slots) where
  agree := by
    refine ⟨fun place => iff_of_false ?_ (by simp [boot]), List.nodup_nil⟩
    have home := SlotPool.flags_releaseAll (SlotPool.idle slots format.maxPacketSize)
    simp only [boot, Gadget.powerOn, Gadget.unregistered, SlotPool.flags_resetCounts, home]
    exact flags_home _ place
  placed := fun _ h => by cases h
  current := fun _ _ h => by cases h

omit [Codec C] in
/-- **A report is never taken for another**, while flags and flights agree. -/
theorem InAir.attributed (h : InAir b) (lawful : b.Lawful a) : b.Attributed a := by
  cases a with
  | call _ => trivial
  | report r status length =>
    intro heard
    cases Gadget.reports b.gadget r.endpoint .hostToDevice ⟨status, length, r.buffer⟩ with
    | ignored _ next =>
      rw [next] at heard
      exact absurd rfl heard
    | stale _ _ found _ _ | running _ _ found _ _ =>
      obtain ⟨-, -, busy⟩ := SlotPool.of_lentSlot?_eq_some found
      exact h.agree.era_of_flag lawful busy

omit [UsbCore U] [PcmSink S] [Codec C] in
theorem InAir.kept (h : InAir b) {g' : Gadget (Watched U CoreCall) S C}
    (endpoint : ∀ ep, b.gadget.endpoint = some ep → g'.endpoint = some ep)
    (running : g'.isOperational = true → b.gadget.isOperational = true)
    (flags : g'.pool.flags = b.gadget.pool.flags) : InAir ⟨g', b.flying, b.era⟩ where
  agree := flags ▸ h.agree
  placed := fun r hr =>
    have placed := h.placed r hr
    ⟨endpoint _ placed.own, flags ▸ placed.inside, placed.past⟩
  current := fun streams => h.current (running streams)

omit [UsbCore U] [PcmSink S] [Codec C] in
/-- Requests put receptions of this era in flight, and keep the others. -/
theorem InAir.launched {g' : Gadget (Watched U CoreCall) S C} {flying : List Reception}
    {era : Nat} {ep : EndpointAddress} {entries : List Entry} (own : g'.endpoint = some ep)
    (placed : ∀ r ∈ flying, Placed g' era r)
    (asks : ∀ e ∈ entries, ∀ ep' lease taken, e = .submitted ep' lease taken →
      ep' = ep ∧ lease.buffer.place < g'.pool.flags.length)
    (underway : Underway era flying entries g'.pool.flags) :
    InAir ⟨g', flying ++ entries.filterMap (Entry.launch? era), era⟩ := by
  refine ⟨underway.agree, fun r hr => ?_, fun _ => underway.settled⟩
  rcases List.mem_append.1 hr with old | new
  · exact placed r old
  · obtain ⟨e, mem, launch⟩ := List.mem_filterMap.1 new
    unfold Entry.launch? at launch
    split at launch
    · rename_i ep' lease
      cases launch
      obtain ⟨rfl, inside⟩ := asks _ mem ep' lease true rfl
      exact ⟨own, inside, Nat.le_refl era⟩
    · cases launch

/-- **A call keeps the invariant and lends nothing twice.** -/
theorem InAir.call (h : InAir b) {c : Call} (lawful : b.Lawful (.call c))
    (settled : b.Settled (.call c)) :
    InAir (b.step (.call c)) ∧ b.Exclusive (.call c) := by
  have course := Gadget.course_perform b.gadget c
  have endpoint := (Gadget.terms_perform b.gadget c).endpoint
  unfold Exclusive
  unfold Settled at settled
  simp only [step, entries, Action.asCall, Action.remaining] at settled ⊢
  generalize b.gadget.entries c = entries at course settled ⊢
  generalize (b.gadget.perform c).next = g' at course settled endpoint ⊢
  cases course with
  | rest _ _ running flags =>
    exact ⟨by simpa using h.kept endpoint running flags, unshared_of_not_mem (by simp)⟩
  | reserved _ _ running flags =>
    have kept := h.kept endpoint (running ▸ id) flags
    exact ⟨by simpa [List.filterMap_cons, Entry.launch?] using kept, unshared_of_not_mem (by simp)⟩
  | reclaimed _ same idle flags =>
    refine ⟨?_, unshared_of_not_mem (by simp)⟩
    have home : InAir ⟨g', b.flying, b.era + 1⟩ := by
      refine ⟨?_, fun r hr => ?_, fun streams => ?_⟩
      · exact flags ▸ h.agree.reclaimed fun r hr => (h.placed r hr).past
      · have placed := h.placed r hr
        refine ⟨same.trans placed.own, ?_, Nat.le_succ_of_le placed.past⟩
        simpa [flags] using placed.inside
      · cases idle.symm.trans streams
    simpa [List.filterMap_cons, Entry.launch?] using home
  | ignored same =>
    subst same
    exact ⟨by simpa [List.filterMap_cons, Entry.launch?] using h, unshared_of_not_mem (by simp)⟩
  | stale own | rearmed own => exact absurd ⟨own, rfl⟩ lawful
  | @armed _ ep _ _ own idle same running arms =>
    have current := settled idle running
    have length := arms.length_eq
    have underway := Underway.arms h.agree current arms
    have none : entries.count .reclaimed = 0 := by
      refine List.count_eq_zero.2 fun mem => ?_
      obtain ⟨_, _, asked, -⟩ := arms.asks mem
      cases asked
    refine ⟨?_, underway.unshared⟩
    rw [none, Nat.add_zero]
    refine InAir.launched (same.trans own) (fun r hr => ?_) ?_ underway
    · have placed := h.placed r hr
      exact ⟨same.trans placed.own, length ▸ placed.inside, placed.past⟩
    · rintro _ mem ep' lease taken rfl
      obtain ⟨place, _, asked, inside⟩ := arms.asks mem
      cases asked
      exact ⟨rfl, by simpa [length] using inside⟩

/-- **So does a report**, and the request that follows it. -/
theorem InAir.report (h : InAir b) {r : Reception} (mem : r ∈ b.flying) (status : TransferStatus)
    (length : Nat) :
    InAir (b.step (.report r status length)) ∧ b.Exclusive (.report r status length) := by
  have course := Gadget.course_perform b.gadget (Action.report r status length).asCall
  have own := (h.placed r mem).own
  have left : ∀ s ∈ b.flying.erase r, s ∈ b.flying := fun _ => List.mem_of_mem_erase
  unfold Exclusive
  simp only [step, entries, Action.remaining] at course ⊢
  generalize b.gadget.entries (Action.report r status length).asCall = entries at course ⊢
  generalize (b.gadget.perform (Action.report r status length).asCall).next = g' at course ⊢
  simp only [Action.asCall] at course
  cases course with
  | rest silent | reclaimed silent => cases silent (.completion .ignored)
  | armed silent => cases silent (.completion .ignored)
  | ignored same foreign =>
    subst same
    -- no flag shows `r`, so it is of an older era
    have old : r.era ≠ b.era := fun current =>
      foreign own rfl ((h.agree.flag_iff _).2 ⟨r, mem, rfl, current⟩)
    have gone : InAir ⟨b.gadget, b.flying.erase r, b.era⟩ :=
      ⟨h.agree.late old, fun s hs => h.placed s (left s hs),
        fun streams s hs => h.current streams s (left s hs)⟩
    exact ⟨by simpa [List.filterMap_cons, Entry.launch?] using gone, unshared_of_not_mem (by simp)⟩
  | stale _ out _ endpoint still flags =>
    have gone : InAir ⟨g', b.flying.erase r, b.era⟩ := by
      refine ⟨flags ▸ h.agree.landed mem, fun s hs => ?_, fun streams => ?_⟩
      · have placed := h.placed s (left s hs)
        exact ⟨endpoint.trans placed.own, by simpa [flags] using placed.inside, placed.past⟩
      · cases still.symm.trans streams
    exact ⟨by simpa [List.filterMap_cons, Entry.launch?] using gone, unshared_of_not_mem (by simp)⟩
  | @rearmed _ _ outcome taken _ out running _ endpoint _ flags =>
    have settled : ∀ s ∈ b.flying.erase r, s.era = b.era := fun s hs =>
      h.current running s (left s hs)
    have landed : Agree b.era (b.gadget.pool.flags.set r.buffer.place false) (b.flying.erase r) :=
      h.agree.landed mem
    -- the report stands first and launches nothing
    have reported : Underway b.era (b.flying.erase r) [.completed r.buffer outcome]
        (b.gadget.pool.flags.set r.buffer.place false) := by
      refine ⟨?_, ?_, unshared_of_not_mem (by simp)⟩
      · simpa [List.filterMap_cons, Entry.launch?] using landed
      · simpa [List.filterMap_cons, Entry.launch?] using settled
    have again : Underway b.era (b.flying.erase r) [.completed r.buffer outcome,
        .submitted r.endpoint ⟨r.buffer, b.gadget.pool.packetLength⟩ taken] g'.pool.flags := by
      rw [flags, ← List.set_set false]
      exact reported.offered (flag_home out) taken
    refine ⟨?_, again.unshared⟩
    refine InAir.launched (endpoint.trans own) (fun s hs => ?_) ?_ again
    · have placed := h.placed s (left s hs)
      exact ⟨endpoint.trans placed.own, by simpa [flags] using placed.inside, placed.past⟩
    · intro e he ep' lease taken' asked
      rcases List.mem_cons.1 (asked ▸ he) with impossible | again
      · cases impossible
      · cases List.mem_singleton.1 again
        exact ⟨rfl, by simpa [flags] using (h.placed r mem).inside⟩

theorem InAir.step (h : InAir b) (lawful : b.Lawful a) (settled : b.Settled a) :
    InAir (b.step a) ∧ b.Exclusive a := by
  cases a with
  | call c => exact h.call lawful settled
  | report r status length => exact h.report lawful status length

/-- **A stream that begins too early lends a buffer twice.** The slot of
the older reception is offered with the others, for no flag shows it. -/
theorem InAir.settled_of_exclusive (h : InAir b) (alone : b.Exclusive a) : b.Settled a := by
  intro idle running r mem
  obtain ⟨silent, ep, arms⟩ := (Gadget.course_perform b.gadget a.asCall).starts idle running
  cases a with
  | report r status length => cases silent (.completion .ignored)
  | call c =>
    apply Classical.byContradiction
    intro old
    -- only a reception of this era would have its flag set
    have clear : b.gadget.pool.flags[r.buffer.place]? ≠ some true := fun busy =>
      old (h.agree.era_of_flag mem busy)
    have ours : b.gadget.pool.flags[r.buffer.place]? = some false := by
      rw [List.getElem?_eq_getElem (h.placed r mem).inside] at clear ⊢
      simpa using clear
    obtain ⟨before, taken, after, split⟩ := arms.offers ours
    refine alone before ep _ taken after split r (List.mem_append_left _ mem) ?_
    simp

/-- **No buffer is lent twice and no report is taken for another, exactly
if every stream of the run begins settled.** -/
theorem exclusive_iff_settled (usb : U) (sink : S) (codec : C) (format : StreamFormat)
    (slots : Nat) (actions : List Action)
    (lawful : Always Lawful (boot usb sink codec format slots) actions) :
    (Always Exclusive (boot usb sink codec format slots) actions ∧
        Always Attributed (boot usb sink codec format slots) actions) ↔
      Always Settled (boot usb sink codec format slots) actions := by
  have inAir := inAir_boot usb sink codec format slots
  generalize boot usb sink codec format slots = b at lawful inAir ⊢
  induction actions generalizing b with
  | nil => simp [Always]
  | cons a rest ih =>
    obtain ⟨lawful, later⟩ := lawful
    constructor
    · rintro ⟨⟨alone, exclusive⟩, ⟨-, attributed⟩⟩
      have settled := inAir.settled_of_exclusive alone
      have next := (inAir.step lawful settled).1
      exact ⟨settled, (ih (b.step a) later next).1 ⟨exclusive, attributed⟩⟩
    · rintro ⟨settled, rest⟩
      obtain ⟨next, alone⟩ := inAir.step lawful settled
      obtain ⟨exclusive, attributed⟩ := (ih (b.step a) later next).2 rest
      exact ⟨⟨alone, exclusive⟩, ⟨inAir.attributed lawful, attributed⟩⟩

end Runs

/-! ## A reconnection -/

/-- A gadget with two slots on the bench. -/
def bench : Bus Core Sink Bench.Codec :=
  boot Core.fresh Sink.fresh Codec.fresh default 2

/-- The reception in the slot at `place` that began in `era`. -/
def flight (place era : Nat) : Reception :=
  ⟨.ofNumber 1 .hostToDevice, ⟨place⟩, era⟩

/-- The host connects, the stream begins, and the cable is pulled. -/
def unplugged : List Action :=
  [.call .requestEndpoints, .call (.setFirstInterface 0), .call .connect,
    .call (.setInterface 1 1), .call .disconnect]

/-- The next stream begins once the receptions called off are reported. -/
def patient : List Action :=
  unplugged ++ [.report (flight 1 1) .cancelled 0, .report (flight 0 1) .cancelled 0,
    .call (.setInterface 1 1), .report (flight 0 2) .success 192]

/-- The next stream begins at once, and a reception is reported late. -/
def hasty : List Action :=
  unplugged ++ [.call (.setInterface 1 1), .report (flight 0 1) .success 192]

theorem exclusive_patient :
    Always Lawful bench patient ∧ Always Exclusive bench patient ∧
      Always Attributed bench patient := by
  have lawful : Always Lawful bench patient := by decide +kernel
  exact ⟨lawful, (exclusive_iff_settled _ _ _ _ _ _ lawful).2 (by decide +kernel)⟩

/-- **The core is asked for both buffers again while it has them**, and the
late report is taken for the newer reception. -/
theorem not_exclusive_hasty :
    Always Lawful bench hasty ∧ ¬ Always Exclusive bench hasty ∧
      ¬ Always Attributed bench hasty := by
  decide +kernel

end Bus

end AudioGadget
