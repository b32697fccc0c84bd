import AudioGadget.Proofs.Stream
/-!
# History — what a run of calls shows of the receive slots

Three kinds of thing concern the ownership of a slot: the core is asked
to take it, the core reports a reception in it, and the gadget takes all
slots back. `history` writes them down in the order they happen, with the
endpoint the core gave, and the requests as a watched core saw them. A
report stands before the request that follows from it.

`Course` lists what one call can write and what it leaves of the flags,
and `course_perform` says that every call runs one of these courses. The
laws of the slots are read off it, one case for a course.
-/

namespace AudioGadget

open Bench

/-- **Something that concerns the ownership of a slot.** -/
inductive Entry where
  /-- The core gave an endpoint. -/
  | reserved (type : TransferType) (direction : Direction) (maxPacket : Nat)
      (ep : EndpointAddress)
  /-- The core was asked to take a buffer, and took it or not. -/
  | submitted (ep : EndpointAddress) (lease : Lease) (taken : Bool)
  /-- A reception was reported, and what became of it. -/
  | completed (buffer : BufferId) (outcome : Completion)
  /-- Every slot was taken back. -/
  | reclaimed
deriving DecidableEq

namespace Entry

/-- The entry for a call to the core, if it is of concern. -/
def ofCoreCall? : CoreCall → Option Entry
  | .allocEndpoint type direction maxPacket given =>
    given.map fun ep => .reserved type direction maxPacket ep
  | .submitReceive ep lease taken => some (.submitted ep lease taken)
  | .cancel _ => none

/-- What a call on the gadget does to the slots by itself, before it asks
the core for anything. -/
def ofCall : Call → Answer → List Entry
  | .powerOn, _ | .connect, _ | .disconnect, _ => [.reclaimed]
  | .transferComplete _ _ report, .completion outcome => [.completed report.buffer outcome]
  | _, _ => []

/-- The entry is for a call to the core. -/
def isAsked : Entry → Bool
  | .reserved .. | .submitted .. => true
  | .completed .. | .reclaimed => false

theorem isAsked_of_ofCoreCall? {call : CoreCall} {e : Entry} (h : ofCoreCall? call = some e) :
    e.isAsked = true := by
  cases call with
  | allocEndpoint type direction maxPacket given =>
    obtain ⟨ep, -, rfl⟩ := Option.map_eq_some_iff.1 h
    rfl
  | submitReceive ep lease taken =>
    cases h
    rfl
  | cancel ep => cases h

theorem not_isAsked_of_ofCall {call : Call} {answer : Answer} {e : Entry}
    (h : e ∈ ofCall call answer) : ¬ e.isAsked = true := by
  unfold ofCall at h
  split at h <;> simp_all [isAsked]

end Entry

/-- The busy flags of a pool, slot by slot. -/
def SlotPool.flags (p : SlotPool) : List Bool :=
  p.slots.map Slot.lent

namespace Gadget

variable {U S C : Type} [UsbCore U] [PcmSink S] [Codec C]

/-- What one call writes into the history. -/
def entries (g : Gadget (Watched U CoreCall) S C) (call : Call) : List Entry :=
  let step := g.perform call
  Entry.ofCall call step.answer ++ (g.usb.since step.next.usb).filterMap Entry.ofCoreCall?

/-- **The history of a run**, oldest entry first. -/
def history (g : Gadget (Watched U CoreCall) S C) : List Call → List Entry
  | [] => []
  | call :: calls => g.entries call ++ (g.perform call).next.history calls

end Gadget

/-! ## Lending, as a watched core sees it -/

section Lending

variable {U : Type} [UsbCore U]

theorem Slot.lend_watched {s : Slot} (h : s.lent = false) (usb : Watched U CoreCall)
    (ep : EndpointAddress) (lease : Lease) :
    ∃ taken, (s.lend usb ep lease).2.2.calls = usb.calls ++ [.submitReceive ep lease taken] ∧
      (s.lend usb ep lease).2.1.lent = taken := by
  refine ⟨(UsbCore.submitReceive usb.inner ep lease).1, ?_⟩
  unfold Slot.lend
  rw [if_neg (by simp [h])]
  rcases answer : UsbCore.submitReceive usb.inner ep lease with ⟨_ | _, inner⟩ <;>
    simp [UsbCore.submitReceive, Watched.note, answer, h]

/-- **A round of lending over slots from `place` on**: flags before, what
it writes, flags after. Slots that are out are passed over. -/
inductive Arms (ep : EndpointAddress) (length : Nat) :
    Nat → List Bool → List Entry → List Bool → Prop
  | nil (place : Nat) : Arms ep length place [] [] []
  | passed {place : Nat} {flags flags' : List Bool} {entries : List Entry}
      (rest : Arms ep length (place + 1) flags entries flags') :
      Arms ep length place (true :: flags) entries (true :: flags')
  | offered {place : Nat} {flags flags' : List Bool} {entries : List Entry} (taken : Bool)
      (rest : Arms ep length (place + 1) flags entries flags') :
      Arms ep length place (false :: flags)
        (.submitted ep ⟨⟨place⟩, length⟩ taken :: entries) (taken :: flags')

/-- Lending the idle slots is such a round. -/
theorem SlotPool.arms_armFrom (ep : EndpointAddress) (length place : Nat) (slots : List Slot)
    (usb : Watched U CoreCall) :
    ∃ calls, (armFrom ep length place slots usb).usb.calls = usb.calls ++ calls ∧
      Arms ep length place (slots.map Slot.lent) (calls.filterMap Entry.ofCoreCall?)
        ((armFrom ep length place slots usb).slots.map Slot.lent) := by
  induction slots generalizing place usb with
  | nil => exact ⟨[], (List.append_nil _).symm, .nil place⟩
  | cons slot slots ih =>
    -- the others are offered to the core as this offer left it
    obtain ⟨calls, made, arms⟩ := ih (place + 1) (slot.lend usb ep ⟨⟨place⟩, length⟩).2.2
    rcases out : slot.lent with _ | _
    · obtain ⟨taken, asked, flag⟩ := Slot.lend_watched out usb ep ⟨⟨place⟩, length⟩
      refine ⟨.submitReceive ep ⟨⟨place⟩, length⟩ taken :: calls, ?_, ?_⟩
      · simp only [armFrom, Arming.note, made, asked, List.append_assoc, List.singleton_append]
      · simp only [armFrom, Arming.note, List.map_cons, out, flag]
        exact .offered taken arms
    · have passed := Slot.lend_of_lent out usb ep ⟨⟨place⟩, length⟩
      rw [passed] at made arms
      refine ⟨calls, ?_, ?_⟩
      · simp only [armFrom, Arming.note, passed, made]
      · simp only [armFrom, Arming.note, List.map_cons, passed, out]
        exact .passed arms

/-- The core is asked for nothing else in a round. -/
theorem SlotPool.asked_armFrom (ep : EndpointAddress) (length place : Nat) (slots : List Slot)
    (usb : Watched U CoreCall) :
    ∃ made, (armFrom ep length place slots usb).usb.calls = usb.calls ++ made ∧
      ∀ call ∈ made, ∃ at_place taken, call = .submitReceive ep ⟨⟨at_place⟩, length⟩ taken := by
  induction slots generalizing place usb with
  | nil => exact ⟨[], (List.append_nil _).symm, by simp⟩
  | cons slot slots ih =>
    obtain ⟨made, later, others⟩ := ih (place + 1) (slot.lend usb ep ⟨⟨place⟩, length⟩).2.2
    rcases out : slot.lent with _ | _
    · obtain ⟨taken, asked, -⟩ := Slot.lend_watched out usb ep ⟨⟨place⟩, length⟩
      refine ⟨.submitReceive ep ⟨⟨place⟩, length⟩ taken :: made, ?_, ?_⟩
      · simp only [armFrom, Arming.note, later, asked, List.append_assoc, List.singleton_append]
      · exact List.forall_mem_cons.2 ⟨⟨place, taken, rfl⟩, others⟩
    · rw [Slot.lend_of_lent out] at later
      refine ⟨made, ?_, others⟩
      simp only [armFrom, Arming.note, Slot.lend_of_lent out, later]

/-- **What an offer preserves, a round preserves**, behind the slots that
were dealt with before. -/
theorem Arms.preserves_behind {ep : EndpointAddress} {length place : Nat}
    {flags flags' before : List Bool} {entries history : List Entry}
    (P : List Entry → List Bool → Prop)
    (offer : ∀ history flags place taken, P history flags → flags[place]? = some false →
      P (history ++ [.submitted ep ⟨⟨place⟩, length⟩ taken]) (flags.set place taken))
    (h : Arms ep length place flags entries flags') (behind : before.length = place)
    (start : P history (before ++ flags)) : P (history ++ entries) (before ++ flags') := by
  -- `before` grows by one slot at every step, whether it was offered or not
  induction h generalizing before history with
  | nil => simpa using start
  | @passed place flags flags' entries rest ih =>
    have later : P (history ++ entries) ((before ++ [true]) ++ flags') :=
      ih (by simp [behind]) (by simpa using start)
    simpa using later
  | @offered place flags flags' entries taken rest ih =>
    have ours : (before ++ false :: flags)[place]? = some false := by simp [← behind]
    have one := offer history (before ++ false :: flags) place taken start ours
    have next : (before ++ false :: flags).set place taken = (before ++ [taken]) ++ flags := by
      simp [← behind]
    rw [next] at one
    have later := ih (by simp [behind]) one
    simpa using later

theorem Arms.preserves {ep : EndpointAddress} {length : Nat} {flags flags' : List Bool}
    {entries : List Entry} (P : List Entry → List Bool → Prop)
    (h : Arms ep length 0 flags entries flags') (start : P [] flags)
    (offer : ∀ history flags place taken, P history flags → flags[place]? = some false →
      P (history ++ [.submitted ep ⟨⟨place⟩, length⟩ taken]) (flags.set place taken)) :
    P entries flags' := by
  have first : P [] ([] ++ flags) := start
  exact Arms.preserves_behind P offer h rfl first

theorem Arms.length_eq {ep : EndpointAddress} {length place : Nat} {flags flags' : List Bool}
    {entries : List Entry} (h : Arms ep length place flags entries flags') :
    flags'.length = flags.length := by
  induction h with
  | nil => rfl
  | passed _ ih => simp [ih]
  | offered _ _ ih => simp [ih]

/-- **All it writes are requests**, for slots of the round. -/
theorem Arms.asks {ep : EndpointAddress} {length place : Nat} {flags flags' : List Bool}
    {entries : List Entry} (h : Arms ep length place flags entries flags') {e : Entry}
    (mem : e ∈ entries) :
    ∃ at_place taken, e = .submitted ep ⟨⟨at_place⟩, length⟩ taken ∧
      at_place < place + flags.length := by
  induction h with
  | nil => cases mem
  | passed _ ih =>
    obtain ⟨at_place, taken, asked, inside⟩ := ih mem
    exact ⟨at_place, taken, asked, by simp only [List.length_cons]; omega⟩
  | @offered place _ _ _ taken _ ih =>
    rcases List.mem_cons.1 mem with rfl | later
    · exact ⟨place, taken, rfl, by simp⟩
    · obtain ⟨at_place, taken, asked, inside⟩ := ih later
      exact ⟨at_place, taken, asked, by simp only [List.length_cons]; omega⟩

/-- **Every slot that is not out is offered.** -/
theorem Arms.offers {ep : EndpointAddress} {length place i : Nat} {flags flags' : List Bool}
    {entries : List Entry} (h : Arms ep length place flags entries flags')
    (ours : flags[i]? = some false) :
    ∃ before taken after,
      entries = before ++ .submitted ep ⟨⟨place + i⟩, length⟩ taken :: after := by
  induction h generalizing i with
  | nil => simp at ours
  | @passed place _ _ _ _ ih =>
    rcases i with _ | i
    · simp at ours
    · obtain ⟨before, taken, after, split⟩ := ih (by simpa using ours)
      rw [Nat.add_right_comm, Nat.add_assoc] at split
      exact ⟨before, taken, after, split⟩
  | @offered place _ _ _ taken _ ih =>
    rcases i with _ | i
    · exact ⟨[], taken, _, rfl⟩
    · obtain ⟨before, taken', after, split⟩ := ih (by simpa using ours)
      rw [Nat.add_right_comm, Nat.add_assoc] at split
      exact ⟨_ :: before, taken', after, congrArg _ split⟩

end Lending

/-! ## The flags, operation by operation -/

namespace SlotPool

theorem lentSlot?_eq_none_iff {p : SlotPool} {buffer : BufferId} :
    p.lentSlot? buffer = none ↔ p.flags[buffer.place]? ≠ some true := by
  simp only [lentSlot?, flags, List.getElem?_map]
  rcases p.slots[buffer.place]? with _ | s
  · simp
  · simp [Option.filter]

theorem of_lentSlot?_eq_some {p : SlotPool} {buffer : BufferId} {slot : Slot}
    (h : p.lentSlot? buffer = some slot) :
    p.slots[buffer.place]? = some slot ∧ slot.lent = true ∧
      p.flags[buffer.place]? = some true := by
  simp only [lentSlot?, Option.filter_eq_some_iff] at h
  obtain ⟨found, out⟩ := h
  exact ⟨found, out, by simp [flags, found, out]⟩

@[simp] theorem flags_releaseAll (p : SlotPool) :
    p.releaseAll.flags = p.flags.map fun _ => false := by
  simp [releaseAll, flags, Function.comp_def]

@[simp] theorem flags_resetCounts (p : SlotPool) : p.resetCounts.flags = p.flags := rfl

theorem flags_fill (p : SlotPool) (buffer : BufferId) (data : Bytes) :
    (p.fill buffer data).2.flags = p.flags := by
  unfold fill
  split
  · rfl
  · rename_i slot found
    obtain ⟨-, out, flag⟩ := of_lentSlot?_eq_some found
    rw [← out] at flag
    obtain ⟨inside, same⟩ := List.getElem?_eq_some_iff.1 flag
    have same' : p.flags.set buffer.place slot.lent = p.flags := by
      rw [← same]
      exact List.set_getElem_self inside
    simpa only [flags, List.map_set, Slot.lent_fill] using same'

end SlotPool

theorem flags_home (flags : List Bool) (place : Nat) :
    (flags.map fun _ => false)[place]? ≠ some true := by
  rw [List.getElem?_map]
  rcases flags[place]? with _ | flag <;> simp

theorem flag_home {flags : List Bool} {place : Nat} (out : flags[place]? = some true) :
    (flags.set place false)[place]? = some false := by
  obtain ⟨inside, -⟩ := List.getElem?_eq_some_iff.1 out
  simp [inside]

/-! ## What the core is asked -/

namespace Gadget

variable {U S C : Type}

/-- **A call to the core that keeps to the terms of the gadget**: an
endpoint is asked for in the size of a whole packet, and everything else
is about that endpoint, a buffer in the length that the slots lend. -/
inductive Suits (g : Gadget U S C) : CoreCall → Prop
  | alloc {maxPacket : Nat} {given : Option EndpointAddress}
      (whole : maxPacket = g.format.maxPacketSize)
      (kept : ∀ ep, given = some ep → g.endpoint = some ep) :
      Suits g (.allocEndpoint .isochronous .hostToDevice maxPacket given)
  | submit {ep : EndpointAddress} {lease : Lease} {taken : Bool} (own : g.endpoint = some ep)
      (whole : lease.length = g.pool.packetLength) : Suits g (.submitReceive ep lease taken)
  | cancel {ep : EndpointAddress} (own : g.endpoint = some ep) : Suits g (.cancel ep)

theorem Suits.of_terms {g g' : Gadget U S C} {call : CoreCall} (h : g.Suits call)
    (terms : SameTerms g g') : g'.Suits call := by
  cases h with
  | alloc whole kept =>
    exact .alloc (whole.trans (congrArg _ terms.format.symm)) fun ep given =>
      terms.endpoint ep (kept ep given)
  | submit own whole =>
    exact .submit (terms.endpoint _ own) (whole.trans terms.packetLength.symm)
  | cancel own => exact .cancel (terms.endpoint _ own)

variable [UsbCore U] [PcmSink S] [Codec C]

/-- **What a call asks of the core suits the gadget**, and a watched core
forgets nothing of it. -/
theorem asks_perform (g : Gadget (Watched U CoreCall) S C) (call : Call) :
    ∃ made, (g.perform call).next.usb.calls = g.usb.calls ++ made ∧
      ∀ asked ∈ made, (g.perform call).next.Suits asked := by
  have terms := terms_perform g call
  have nothing (same : (g.perform call).next.usb = g.usb) :
      ∃ made, (g.perform call).next.usb.calls = g.usb.calls ++ made ∧
        ∀ asked ∈ made, (g.perform call).next.Suits asked :=
    ⟨[], by rw [same, List.append_nil], by simp⟩
  have wound (same : (g.perform call).next.usb = g.wind.usb) :
      ∃ made, (g.perform call).next.usb.calls = g.usb.calls ++ made ∧
        ∀ asked ∈ made, (g.perform call).next.Suits asked := by
    rw [wind_eq] at same
    rcases usb_reclaim g with kept | ⟨ep, own, cancelled⟩
    · exact nothing (same.trans kept)
    · refine ⟨[.cancel ep], by rw [same, cancelled]; rfl, ?_⟩
      exact List.forall_mem_singleton.2 (.cancel (terms.endpoint ep own))
  by_cases control : call.isControl = true
  · cases switches_of_isControl g control with
    | kept same => exact nothing same.usb
    | @began ep own _ same =>
      obtain ⟨made, asked, offers⟩ :=
        SlotPool.asked_armFrom ep g.pool.packetLength 0 g.pool.slots g.usb
      refine ⟨made, by rw [same.usb]; exact asked, fun one among => ?_⟩
      obtain ⟨place, taken, rfl⟩ := offers one among
      exact .submit (terms.endpoint ep own) terms.packetLength.symm
    | ended _ _ same => exact nothing same.usb
  · cases call with
    | powerOn | fillInFlight => exact nothing rfl
    | connect | disconnect => exact wound rfl
    | requestEndpoints =>
      rcases reserved : g.endpoint with _ | ep
      · have next : (g.perform .requestEndpoints).next = _ := next_requestEndpoints reserved
        rw [next]
        exact ⟨[_], rfl, List.forall_mem_singleton.2 (.alloc rfl fun _ => id)⟩
      · exact nothing (by simp only [perform, requestEndpoints_of_endpoint reserved])
    | transferComplete ep direction report =>
      cases reports g ep direction report with
      | ignored _ next | stale _ _ _ _ next =>
        exact nothing (congrArg (·.2.usb) next)
      | @running slot own _ _ _ next =>
        obtain ⟨taken, asked, -⟩ := Slot.lend_watched slot.lent_release g.usb ep
          (g.pool.lease report.buffer.place)
        have usb : (g.transferComplete ep direction report).2.usb = _ := congrArg (·.2.usb) next
        refine ⟨[_], (congrArg Watched.calls usb).trans asked, List.forall_mem_singleton.2 ?_⟩
        exact .submit (terms.endpoint ep own) terms.packetLength.symm
    | _ => exact absurd rfl control

theorem suits_run {g : Gadget (Watched U CoreCall) S C}
    (start : ∀ asked ∈ g.usb.calls, g.Suits asked) (calls : List Call) :
    ∀ asked ∈ (g.run calls).2.usb.calls, (g.run calls).2.Suits asked := by
  induction calls generalizing g with
  | nil => exact start
  | cons call calls ih =>
    refine ih (g := (g.perform call).next) fun asked among => ?_
    obtain ⟨made, since, suits⟩ := asks_perform g call
    rw [since, List.mem_append] at among
    rcases among with old | new
    · exact (start asked old).of_terms (terms_perform g call)
    · exact suits asked new

end Gadget

/-! ## The history is complete -/

namespace Gadget

variable {U S C : Type} [UsbCore U] [PcmSink S] [Codec C]

/-- **A watched core forgets no call.** -/
theorem calls_perform (g : Gadget (Watched U CoreCall) S C) (call : Call) :
    ∃ made, (g.perform call).next.usb.calls = g.usb.calls ++ made := by
  obtain ⟨made, since, -⟩ := asks_perform g call
  exact ⟨made, since⟩

theorem calls_run (g : Gadget (Watched U CoreCall) S C) (calls : List Call) :
    ∃ made, (g.run calls).2.usb.calls = g.usb.calls ++ made := by
  induction calls generalizing g with
  | nil => exact ⟨[], (List.append_nil _).symm⟩
  | cons call calls ih =>
    obtain ⟨first, one⟩ := calls_perform g call
    obtain ⟨later, rest⟩ := ih (g.perform call).next
    exact ⟨first ++ later, rest.trans (by rw [one, List.append_assoc])⟩

/-- **The history misses no request**: those it holds are the calls the core
was asked, in their order. -/
theorem asked_history (g : Gadget (Watched U CoreCall) S C) (calls : List Call) :
    g.usb.calls.filterMap Entry.ofCoreCall? ++ (g.history calls).filter Entry.isAsked =
      (g.run calls).2.usb.calls.filterMap Entry.ofCoreCall? := by
  induction calls generalizing g with
  | nil => exact List.append_nil _
  | cons call calls ih =>
    obtain ⟨made, asked⟩ := calls_perform g call
    have own : (Entry.ofCall call (g.perform call).answer).filter Entry.isAsked = [] :=
      List.filter_eq_nil_iff.2 fun _ => Entry.not_isAsked_of_ofCall
    have core : (made.filterMap Entry.ofCoreCall?).filter Entry.isAsked =
        made.filterMap Entry.ofCoreCall? := by
      refine List.filter_eq_self.2 fun e mem => ?_
      obtain ⟨call, -, written⟩ := List.mem_filterMap.1 mem
      exact Entry.isAsked_of_ofCoreCall? written
    have later := ih (g.perform call).next
    rw [asked, List.filterMap_append, List.append_assoc] at later
    simp only [history, entries, List.filter_append, own, List.nil_append,
      Watched.since_of_append made asked, core]
    exact later

end Gadget

/-! ## The courses of a call -/

namespace Gadget

variable {U S C : Type} [UsbCore U] [PcmSink S] [Codec C]

/-- **What a call can write into the history**, `g` before and `g'`
afterwards, with what it leaves of the endpoint, the stream and the
flags. -/
inductive Course (g g' : Gadget (Watched U CoreCall) S C) : Call → List Entry → Prop
  /-- The call does not concern the slots. It may end the stream. -/
  | rest {call : Call} (silent : ∀ answer, Entry.ofCall call answer = [])
      (endpoint : g'.endpoint = g.endpoint)
      (running : g'.isOperational = true → g.isOperational = true)
      (flags : g'.pool.flags = g.pool.flags) : Course g g' call []
  /-- The endpoint is reserved. -/
  | reserved {ep : EndpointAddress} (none : g.endpoint = none) (given : g'.endpoint = some ep)
      (running : g'.isOperational = g.isOperational) (flags : g'.pool.flags = g.pool.flags) :
      Course g g' .requestEndpoints
        [.reserved .isochronous .hostToDevice g.format.maxPacketSize ep]
  /-- Every slot is taken back. -/
  | reclaimed {call : Call} (reclaims : ∀ answer, Entry.ofCall call answer = [.reclaimed])
      (endpoint : g'.endpoint = g.endpoint) (idle : g'.isOperational = false)
      (flags : g'.pool.flags = g.pool.flags.map fun _ => false) : Course g g' call [.reclaimed]
  /-- A report on a foreign endpoint, or under a name that is not out. -/
  | ignored {ep : EndpointAddress} {direction : Direction} {report : Report}
      (same : g' = g) (foreign : g.endpoint = some ep → direction = .hostToDevice →
        g.pool.flags[report.buffer.place]? ≠ some true) :
      Course g g' (.transferComplete ep direction report) [.completed report.buffer .ignored]
  /-- A report without a stream: the slot comes home. -/
  | stale {ep : EndpointAddress} {report : Report} (own : g.endpoint = some ep)
      (out : g.pool.flags[report.buffer.place]? = some true) (idle : g.isOperational = false)
      (endpoint : g'.endpoint = g.endpoint) (still : g'.isOperational = false)
      (flags : g'.pool.flags = g.pool.flags.set report.buffer.place false) :
      Course g g' (.transferComplete ep .hostToDevice report) [.completed report.buffer .stale]
  /-- A report while the stream runs: the slot comes home and is offered
  again. -/
  | rearmed {ep : EndpointAddress} {report : Report} {outcome : Completion} {taken : Bool}
      (own : g.endpoint = some ep) (out : g.pool.flags[report.buffer.place]? = some true)
      (running : g.isOperational = true) (heard : outcome ≠ .ignored)
      (endpoint : g'.endpoint = g.endpoint) (still : g'.isOperational = true)
      (flags : g'.pool.flags = g.pool.flags.set report.buffer.place taken) :
      Course g g' (.transferComplete ep .hostToDevice report)
        [.completed report.buffer outcome,
          .submitted ep ⟨report.buffer, g.pool.packetLength⟩ taken]
  /-- The stream begins: every idle slot is offered. -/
  | armed {call : Call} {ep : EndpointAddress} {entries : List Entry}
      (silent : ∀ answer, Entry.ofCall call answer = []) (own : g.endpoint = some ep)
      (idle : g.isOperational = false) (endpoint : g'.endpoint = g.endpoint)
      (running : g'.isOperational = true)
      (arms : Arms ep g.pool.packetLength 0 g.pool.flags entries g'.pool.flags) :
      Course g g' call entries

omit [Codec C] [PcmSink S] [UsbCore U] in
/-- **An endpoint is written down when it is given, and is not given
twice.** -/
theorem Course.reserves {g g' : Gadget (Watched U CoreCall) S C} {call : Call}
    {entries : List Entry} (h : Course g g' call entries) :
    (g'.endpoint = g.endpoint ∧
      ∀ type direction maxPacket ep, .reserved type direction maxPacket ep ∉ entries) ∨
    ∃ ep, g.endpoint = none ∧ g'.endpoint = some ep ∧
      entries = [.reserved .isochronous .hostToDevice g.format.maxPacketSize ep] := by
  cases h with
  | rest _ endpoint | reclaimed _ endpoint => exact .inl ⟨endpoint, by simp⟩
  | reserved none given => exact .inr ⟨_, none, given, rfl⟩
  | ignored same => exact .inl ⟨same ▸ rfl, by simp⟩
  | stale _ _ _ endpoint | rearmed _ _ _ _ endpoint => exact .inl ⟨endpoint, by simp⟩
  | armed _ _ _ endpoint _ arms =>
    refine .inl ⟨endpoint, fun type direction maxPacket ep mem => ?_⟩
    obtain ⟨_, _, asked, -⟩ := arms.asks mem
    cases asked

omit [Codec C] [PcmSink S] [UsbCore U] in
/-- **A stream begins with a round of lending**, and with nothing else. -/
theorem Course.starts {g g' : Gadget (Watched U CoreCall) S C} {call : Call}
    {entries : List Entry} (h : Course g g' call entries) (idle : g.isOperational = false)
    (running : g'.isOperational = true) :
    (∀ answer, Entry.ofCall call answer = []) ∧
      ∃ ep, Arms ep g.pool.packetLength 0 g.pool.flags entries g'.pool.flags := by
  cases h with
  | rest _ _ was => simp [idle] at was; simp [was] at running
  | reserved _ _ same => simp [same, idle] at running
  | reclaimed _ _ still => simp [still] at running
  | ignored same => simp [same, idle] at running
  | stale _ _ _ _ still => simp [still] at running
  | rearmed _ _ was => simp [idle] at was
  | armed silent _ _ _ _ arms => exact ⟨silent, _, arms⟩

/-- What a report writes, in terms of what it does. -/
theorem entries_transferComplete {g g' : Gadget (Watched U CoreCall) S C} {ep : EndpointAddress}
    {direction : Direction} {report : Report} {outcome : Completion} {calls : List CoreCall}
    (h : g.transferComplete ep direction report = (outcome, g'))
    (made : g'.usb.calls = g.usb.calls ++ calls) :
    g.entries (.transferComplete ep direction report) =
      .completed report.buffer outcome :: calls.filterMap Entry.ofCoreCall? := by
  simp only [entries, perform, h, Entry.ofCall, Watched.since_of_append calls made,
    List.singleton_append]

/-- **A report is ignored, finds the stream over, or has its slot offered
again.** -/
theorem course_transferComplete (g : Gadget (Watched U CoreCall) S C) (ep : EndpointAddress)
    (direction : Direction) (report : Report) :
    Course g (g.transferComplete ep direction report).2 (.transferComplete ep direction report)
      (g.entries (.transferComplete ep direction report)) := by
  cases reports g ep direction report with
  | ignored foreign next =>
    rw [entries_transferComplete next (List.append_nil _).symm, next]
    exact .ignored rfl fun own out => SlotPool.lentSlot?_eq_none_iff.1 (foreign own out)
  | @stale slot own out found idle next =>
    subst out
    obtain ⟨-, -, busy⟩ := SlotPool.of_lentSlot?_eq_some found
    rw [entries_transferComplete next (List.append_nil _).symm, next]
    refine .stale own busy idle rfl idle ?_
    simp [SlotPool.flags, List.map_set]
  | @running slot own out found running next =>
    subst out
    obtain ⟨-, -, busy⟩ := SlotPool.of_lentSlot?_eq_some found
    obtain ⟨taken, asked, flag⟩ := Slot.lend_watched slot.lent_release g.usb ep
      (g.pool.lease report.buffer.place)
    rw [entries_transferComplete next asked, next]
    refine .rearmed own busy running (SlotPool.receive_ne_ignored _ _ _ _) rfl running ?_
    simp only [SlotPool.flags, List.map_set, flag]

theorem ofCall_of_isControl {call : Call} (h : call.isControl = true) (answer : Answer) :
    Entry.ofCall call answer = [] := by
  cases call <;> first | rfl | cases h

/-- **A call of the control side rests or arms the slots.** -/
theorem course_of_isControl (g : Gadget (Watched U CoreCall) S C) {call : Call}
    (h : call.isControl = true) : Course g (g.perform call).next call (g.entries call) := by
  have silent := ofCall_of_isControl h
  have written : g.entries call =
      (g.usb.since (g.perform call).next.usb).filterMap Entry.ofCoreCall? := by
    simp only [entries, silent, List.nil_append]
  rw [written]
  cases switches_of_isControl g h with
  | kept same =>
    rw [same.usb, Watched.since_self]
    exact .rest silent same.endpoint (same.isOperational ▸ id) (congrArg SlotPool.flags same.pool)
  | @began ep own idle same =>
    obtain ⟨calls, asked, arms⟩ := SlotPool.arms_armFrom ep g.pool.packetLength 0 g.pool.slots g.usb
    have made : (g.perform call).next.usb.calls = g.usb.calls ++ calls := by
      rw [same.usb]
      exact asked
    have flags : (g.perform call).next.pool.flags = (g.begun ep).pool.flags :=
      congrArg SlotPool.flags same.pool
    rw [Watched.since_of_append calls made]
    exact .armed silent own idle same.endpoint
      (same.isOperational.trans (isOperational_begun g ep)) (flags ▸ arms)
  | ended own running same =>
    have usb : (g.perform call).next.usb = g.usb := same.usb
    rw [usb, Watched.since_self]
    exact .rest silent same.endpoint (fun _ => running) (congrArg SlotPool.flags same.pool)

/-- **The endpoint is reserved once**, if the core gives one. -/
theorem course_requestEndpoints (g : Gadget (Watched U CoreCall) S C) :
    Course g (g.perform .requestEndpoints).next .requestEndpoints
      (g.entries .requestEndpoints) := by
  have silent : ∀ answer, Entry.ofCall .requestEndpoints answer = [] := fun _ => rfl
  rcases unreserved : g.endpoint with _ | ep
  · have next := next_requestEndpoints unreserved
    have written : g.entries .requestEndpoints =
        [.allocEndpoint .isochronous .hostToDevice g.format.maxPacketSize
          g.requestEndpoints.next.endpoint].filterMap Entry.ofCoreCall? := by
      simp only [entries, silent, perform, next, List.nil_append]
      rw [Watched.since_of_append [_] rfl]
      rfl
    rcases given : g.requestEndpoints.next.endpoint with _ | ep
    · rw [written, given]
      refine .rest silent (given.trans unreserved.symm) ?_ ?_
      · simp only [perform, next]
        exact id
      · simp only [perform, next]
    · rw [written, given]
      refine .reserved unreserved given ?_ ?_
      · simp only [perform, next]
        rfl
      · simp only [perform, next]
  · have next : g.perform .requestEndpoints = ⟨.endpoint (.ok ep), g, []⟩ := by
      simp only [perform, requestEndpoints_of_endpoint unreserved]
    have written : g.entries .requestEndpoints = [] := by
      simp only [entries, silent, next, Watched.since_self, List.filterMap_nil, List.append_nil]
    rw [written, next]
    exact .rest silent rfl id rfl

/-- Taking the slots back asks the core for none of them. -/
theorem course_of_reclaims {g g' : Gadget (Watched U CoreCall) S C} {call : Call}
    (reclaims : ∀ answer, Entry.ofCall call answer = [.reclaimed])
    (next : (g.perform call).next = g')
    (made : (g.usb.since g'.usb).filterMap Entry.ofCoreCall? = [])
    (endpoint : g'.endpoint = g.endpoint) (idle : g'.isOperational = false)
    (flags : g'.pool.flags = g.pool.flags.map fun _ => false) :
    Course g (g.perform call).next call (g.entries call) := by
  have written : g.entries call = [.reclaimed] := by
    simp only [entries, reclaims, next, made, List.append_nil]
  rw [written, next]
  exact .reclaimed reclaims endpoint idle flags

omit [Codec C] in
theorem lendings_wind (g : Gadget (Watched U CoreCall) S C) :
    (g.usb.since g.wind.usb).filterMap Entry.ofCoreCall? = [] := by
  rw [wind_eq]
  rcases usb_reclaim g with kept | ⟨ep, -, cancelled⟩
  · rw [kept, Watched.since_self, List.filterMap_nil]
  · rw [cancelled, Watched.since_of_append [.cancel ep] rfl]
    rfl

omit [Codec C] in
theorem flags_wind (g : Gadget U S C) :
    g.wind.pool.flags = g.pool.flags.map fun _ => false := by
  rw [wind_eq]
  exact SlotPool.flags_releaseAll g.pool

/-- **Every call runs one of the courses.** -/
theorem course_perform (g : Gadget (Watched U CoreCall) S C) (call : Call) :
    Course g (g.perform call).next call (g.entries call) := by
  cases call with
  | powerOn =>
    exact course_of_reclaims (fun _ => rfl) rfl (congrArg _ (Watched.since_self g.usb)) rfl rfl
      (SlotPool.flags_releaseAll g.pool)
  | connect =>
    exact course_of_reclaims (fun _ => rfl) rfl (lendings_wind g) (endpoint_wind g) rfl
      (flags_wind g)
  | disconnect =>
    exact course_of_reclaims (fun _ => rfl) rfl (lendings_wind g) (endpoint_wind g) rfl
      (flags_wind g)
  | requestEndpoints => exact course_requestEndpoints g
  | transferComplete ep direction report => exact course_transferComplete g ep direction report
  | fillInFlight buffer data =>
    have written : g.entries (.fillInFlight buffer data) = [] :=
      congrArg _ (Watched.since_self g.usb)
    rw [written]
    exact .rest (fun _ => rfl) rfl id (SlotPool.flags_fill g.pool buffer data)
  | setFirstInterface => exact course_of_isControl g rfl
  | setFirstString => exact course_of_isControl g rfl
  | setInterface => exact course_of_isControl g rfl
  | getInterface => exact course_of_isControl g rfl
  | writeDescriptors => exact course_of_isControl g rfl
  | stringDescriptor => exact course_of_isControl g rfl
  | controlRequest => exact course_of_isControl g rfl
  | dataStage => exact course_of_isControl g rfl

omit [UsbCore U] [PcmSink S] [Codec C] in
/-- No call changes how many slots there are. -/
theorem Course.length_flags {g g' : Gadget (Watched U CoreCall) S C} {call : Call}
    {entries : List Entry} (h : Course g g' call entries) :
    g'.pool.flags.length = g.pool.flags.length := by
  cases h with
  | rest _ _ _ flags | reserved _ _ _ flags => rw [flags]
  | reclaimed _ _ _ flags => rw [flags, List.length_map]
  | ignored same => rw [same]
  | stale _ _ _ _ _ flags | rearmed _ _ _ _ _ _ flags => rw [flags, List.length_set]
  | armed _ _ _ _ _ arms => exact arms.length_eq

theorem length_flags_run (g : Gadget (Watched U CoreCall) S C) (calls : List Call) :
    (g.run calls).2.pool.flags.length = g.pool.flags.length := by
  induction calls generalizing g with
  | nil => rfl
  | cons call calls ih => exact (ih _).trans (course_perform g call).length_flags

end Gadget

end AudioGadget
