import AudioGadget.Proofs.Reception.History
/-!
# Ledger — which slots the core has, read off the history

The busy flags are kept by five operations: the round of lending, the
two halves of a completion and the taking back of all slots in three
places. `Lent` says from the history alone whether a slot is out, and the
main statement (`flags_are_ledger`) is that in every reachable state the
flags say the same, and that no request in the history was ever made for
a slot that was out.

The proof is one invariant, `Balanced`, kept entry by entry: `lent_concat`
and `wellAsked_concat` say what one more entry changes.
-/

namespace AudioGadget

open Bench

/-- The core took the slot at `place`. -/
def Entry.Takes (place : Nat) : Entry → Prop
  | .submitted _ lease taken => taken = true ∧ lease.buffer.place = place
  | _ => False

/-- The slot at `place` is ours from here on. -/
def Entry.Frees (place : Nat) : Entry → Prop
  | .completed buffer outcome => buffer.place = place ∧ outcome ≠ .ignored
  | .reclaimed => True
  | _ => False

/-- **The slot at `place` is out by the history**: the core took it, and
since the last time it did nothing has freed the slot. -/
def Lent (history : List Entry) (place : Nat) : Prop :=
  ∃ before taking after, history = before ++ taking :: after ∧ taking.Takes place ∧
    (∀ e ∈ after, ¬ e.Takes place) ∧ ∀ e ∈ after, ¬ e.Frees place

/-- **Every request to the core is in order**: its slot was not out, and
the request is for a whole packet on an endpoint the core had given. -/
def WellAsked (maxPacket : Nat) (history : List Entry) : Prop :=
  ∀ before ep lease taken after, history = before ++ .submitted ep lease taken :: after →
    ¬ Lent before lease.buffer.place ∧
      .reserved .isochronous .hostToDevice maxPacket ep ∈ before ∧ lease.length = maxPacket

/-! ## One more entry -/

theorem not_lent_nil (place : Nat) : ¬ Lent [] place := by
  rintro ⟨before, taking, after, h, -⟩
  simp at h

/-- **A slot is out after an entry that took it, or if it was out before an
entry that does not free it.** -/
theorem lent_concat {history : List Entry} {e : Entry} {place : Nat} :
    Lent (history ++ [e]) place ↔ e.Takes place ∨ (Lent history place ∧ ¬ e.Frees place) := by
  constructor
  · rintro ⟨before, taking, after, split, takes, quiet, out⟩
    -- the new entry is the one that took the slot, or the last one after that
    rcases List.eq_nil_or_concat after with rfl | ⟨after, last, rfl⟩
    · obtain ⟨-, same⟩ := List.append_inj' split rfl
      cases same
      exact .inl takes
    · rw [List.concat_eq_append, ← List.cons_append, ← List.append_assoc] at split
      obtain ⟨rfl, same⟩ := List.append_inj' split rfl
      cases same
      rw [List.concat_eq_append] at quiet out
      refine .inr ⟨⟨before, taking, after, rfl, takes, ?_, ?_⟩, out e (by simp)⟩
      · exact fun e he => quiet e (List.mem_append_left _ he)
      · exact fun e he => out e (List.mem_append_left _ he)
  · intro h
    -- a request that is taken counts even for a slot that was out before
    by_cases takes : e.Takes place
    · exact ⟨history, e, [], rfl, takes, by simp, by simp⟩
    · obtain ⟨⟨before, taking, after, rfl, took, quiet, out⟩, stays⟩ := h.resolve_left takes
      refine ⟨before, taking, after ++ [e], by simp, took, ?_, ?_⟩
      · intro e' he'
        rcases List.mem_append.1 he' with h' | h'
        · exact quiet e' h'
        · rw [List.mem_singleton.1 h']
          exact takes
      · intro e' he'
        rcases List.mem_append.1 he' with h' | h'
        · exact out e' h'
        · rw [List.mem_singleton.1 h']
          exact stays

theorem wellAsked_nil (maxPacket : Nat) : WellAsked maxPacket [] := by
  intro before ep lease taken after h
  simp at h

/-- One more request must be in order itself; any other entry is. -/
theorem wellAsked_concat {maxPacket : Nat} {history : List Entry} {e : Entry}
    (h : WellAsked maxPacket history)
    (asked : ∀ ep lease taken, e = .submitted ep lease taken →
      ¬ Lent history lease.buffer.place ∧
        .reserved .isochronous .hostToDevice maxPacket ep ∈ history ∧ lease.length = maxPacket) :
    WellAsked maxPacket (history ++ [e]) := by
  intro before ep lease taken after split
  rcases List.eq_nil_or_concat after with rfl | ⟨after, last, rfl⟩
  · obtain ⟨rfl, same⟩ := List.append_inj' split rfl
    cases same
    exact asked ep lease taken rfl
  · rw [List.concat_eq_append, ← List.cons_append, ← List.append_assoc] at split
    obtain ⟨rfl, -⟩ := List.append_inj' split rfl
    exact h before ep lease taken after rfl

/-! ## The invariant -/

/-- **The flags agree with the history**, and the requests in it are in
order. -/
structure Balanced (maxPacket : Nat) (history : List Entry) (flags : List Bool) : Prop where
  out_iff : ∀ place, flags[place]? = some true ↔ Lent history place
  asked : WellAsked maxPacket history

namespace Balanced

variable {maxPacket : Nat} {history entries : List Entry} {flags flags' : List Bool}
variable {e : Entry} {ep : EndpointAddress} {buffer : BufferId}

/-- An entry that neither takes a slot nor frees one leaves the flags. -/
theorem neutral (h : Balanced maxPacket history flags) (takes : ∀ place, ¬ e.Takes place)
    (frees : ∀ place, ¬ e.Frees place) (ask : ∀ ep lease taken, e ≠ .submitted ep lease taken) :
    Balanced maxPacket (history ++ [e]) flags := by
  refine ⟨fun place => ?_, wellAsked_concat h.asked fun ep lease taken eq =>
    absurd eq (ask ep lease taken)⟩
  rw [lent_concat, h.out_iff]
  simp [takes, frees]

theorem reclaimed (h : Balanced maxPacket history flags) :
    Balanced maxPacket (history ++ [.reclaimed]) (flags.map fun _ => false) := by
  refine ⟨fun place => ?_, wellAsked_concat h.asked fun _ _ _ eq => by cases eq⟩
  rw [lent_concat]
  refine iff_of_false (flags_home flags place) ?_
  simp [Entry.Takes, Entry.Frees]

theorem home (h : Balanced maxPacket history flags) {outcome : Completion}
    (heard : outcome ≠ .ignored) :
    Balanced maxPacket (history ++ [.completed buffer outcome])
      (flags.set buffer.place false) := by
  refine ⟨fun place => ?_, wellAsked_concat h.asked fun _ _ _ eq => by cases eq⟩
  rw [lent_concat, ← h.out_iff, List.getElem?_set]
  by_cases here : buffer.place = place
  · subst here
    by_cases inside : buffer.place < flags.length <;> simp [Entry.Takes, Entry.Frees, heard, inside]
  · simp [Entry.Takes, Entry.Frees, here]

/-- A slot that is ours is offered, and is out if it was taken. -/
theorem offered (h : Balanced maxPacket history flags) (ours : flags[buffer.place]? = some false)
    (reserved : .reserved .isochronous .hostToDevice maxPacket ep ∈ history) (taken : Bool) :
    Balanced maxPacket (history ++ [.submitted ep ⟨buffer, maxPacket⟩ taken])
      (flags.set buffer.place taken) := by
  have stays : ¬ Lent history buffer.place := by
    rw [← h.out_iff, ours]
    simp
  refine ⟨fun place => ?_, wellAsked_concat h.asked ?_⟩
  · rw [lent_concat, ← h.out_iff, List.getElem?_set]
    obtain ⟨inside, flag⟩ := List.getElem?_eq_some_iff.1 ours
    by_cases here : buffer.place = place
    · subst here
      simp [Entry.Takes, Entry.Frees, inside, flag]
    · simp [Entry.Takes, Entry.Frees, here]
  · rintro _ _ _ ⟨rfl, rfl, rfl⟩
    exact ⟨stays, reserved, rfl⟩

theorem arms (h : Balanced maxPacket history flags)
    (round : Arms ep maxPacket 0 flags entries flags')
    (reserved : .reserved .isochronous .hostToDevice maxPacket ep ∈ history) :
    Balanced maxPacket (history ++ entries) flags' := by
  refine Arms.preserves (fun asked flags => Balanced maxPacket (history ++ asked) flags) round ?_ ?_
  · simpa using h
  · intro asked flags place taken balanced ours
    rw [← List.append_assoc]
    exact balanced.offered ours (List.mem_append_left _ reserved) taken

end Balanced

/-! ## Every run -/

section Runs

variable {U S C : Type} [UsbCore U] [PcmSink S] [Codec C]

/-- **What a run has brought a gadget to**: its flags agree with the
history, it lends whole packets, and its endpoint is the one the core
gave. -/
structure InOrder (history : List Entry) (g : Gadget (Watched U CoreCall) S C) : Prop where
  balanced : Balanced g.format.maxPacketSize history g.pool.flags
  packetLength : g.pool.packetLength = g.format.maxPacketSize
  reserved : ∀ ep, g.endpoint = some ep →
    .reserved .isochronous .hostToDevice g.format.maxPacketSize ep ∈ history
  only : ∀ type direction maxPacket ep, .reserved type direction maxPacket ep ∈ history →
    g.endpoint = some ep

omit [UsbCore U] [PcmSink S] [Codec C] in
theorem inOrder_unregistered (usb : U) (sink : S) (codec : C) (format : StreamFormat)
    (slots : Nat) :
    InOrder [] (Gadget.unregistered (Watched.of usb) sink codec format slots) where
  balanced := by
    refine ⟨fun place => iff_of_false ?_ (not_lent_nil place), wellAsked_nil _⟩
    simp [Gadget.unregistered, SlotPool.idle, SlotPool.flags, Slot.fresh,
      List.getElem?_replicate]
  packetLength := Nat.min_eq_left format.maxPacketSize_le
  reserved := fun ep own => by cases own
  only := fun _ _ _ _ h => by cases h

omit [UsbCore U] [PcmSink S] [Codec C] in
/-- **Each course keeps the balance.** -/
theorem InOrder.course {history entries : List Entry} {g g' : Gadget (Watched U CoreCall) S C}
    {call : Call} (h : InOrder history g) (course : g.Course g' call entries) :
    Balanced g.format.maxPacketSize (history ++ entries) g'.pool.flags := by
  have balanced := h.balanced
  cases course with
  | rest _ _ _ flags => simpa [flags] using balanced
  | reserved _ _ _ flags =>
    rw [flags]
    exact balanced.neutral (by simp [Entry.Takes]) (by simp [Entry.Frees]) (by simp)
  | reclaimed _ _ _ flags =>
    rw [flags]
    exact balanced.reclaimed
  | ignored same _ =>
    rw [same]
    exact balanced.neutral (by simp [Entry.Takes]) (by simp [Entry.Frees]) (by simp)
  | stale _ _ _ _ _ flags =>
    rw [flags]
    exact balanced.home (by decide)
  | @rearmed ep report outcome taken own out _ heard _ _ flags =>
    -- the completion frees the slot before the request takes it
    have home : Balanced g.format.maxPacketSize (history ++ [.completed report.buffer outcome])
        (g.pool.flags.set report.buffer.place false) := balanced.home heard
    have asked := home.offered (flag_home out) (List.mem_append_left _ (h.reserved ep own)) taken
    rw [List.set_set, List.append_assoc] at asked
    rw [flags, h.packetLength]
    exact asked
  | @armed _ ep _ _ own _ _ _ arms =>
    exact balanced.arms (h.packetLength ▸ arms) (h.reserved ep own)

/-- **Every call keeps the order.** -/
theorem InOrder.perform {history : List Entry} {g : Gadget (Watched U CoreCall) S C}
    (h : InOrder history g) (call : Call) :
    InOrder (history ++ g.entries call) (g.perform call).next := by
  have terms := Gadget.terms_perform g call
  have course := Gadget.course_perform g call
  refine ⟨terms.format ▸ h.course course, ?_, ?_, ?_⟩
  · rw [terms.packetLength, terms.format, h.packetLength]
  · rw [terms.format]
    intro ep own
    rcases course.reserves with ⟨same, -⟩ | ⟨ep', -, given, written⟩
    · exact List.mem_append_left _ (h.reserved ep (same ▸ own))
    · cases given.symm.trans own
      simp [written]
  · intro type direction maxPacket ep mem
    rcases List.mem_append.1 mem with old | new
    · exact terms.endpoint ep (h.only type direction maxPacket ep old)
    · rcases course.reserves with ⟨-, never⟩ | ⟨ep', -, given, written⟩
      · exact absurd new (never type direction maxPacket ep)
      · rw [written, List.mem_singleton] at new
        cases new
        exact given

/-- **So does every run.** -/
theorem InOrder.run {history : List Entry} {g : Gadget (Watched U CoreCall) S C}
    (h : InOrder history g) (calls : List Call) :
    InOrder (history ++ g.history calls) (g.run calls).2 := by
  induction calls generalizing history g with
  | nil => simpa [Gadget.history, Gadget.run] using h
  | cons call calls ih =>
    have later := ih (h.perform call)
    rw [List.append_assoc] at later
    exact later

omit [UsbCore U] [PcmSink S] [Codec C] in
/-- **A slot that is out is on the gadget's endpoint.** -/
theorem InOrder.exists_endpoint {history : List Entry} {g : Gadget (Watched U CoreCall) S C}
    (h : InOrder history g) {buffer : BufferId} (out : g.pool.lentSlot? buffer ≠ none) :
    ∃ ep, g.endpoint = some ep := by
  have flag : g.pool.flags[buffer.place]? = some true :=
    Decidable.not_not.1 fun home => out (SlotPool.lentSlot?_eq_none_iff.2 home)
  obtain ⟨before, taking, after, split, takes, -⟩ := (h.balanced.out_iff _).1 flag
  cases taking with
  | submitted ep lease taken =>
    obtain ⟨-, reserved, -⟩ := h.balanced.asked before ep lease taken after split
    rw [split] at h
    exact ⟨ep, h.only _ _ _ ep (List.mem_append_left _ reserved)⟩
  | reserved | completed | reclaimed => exact takes.elim

/-- **The flags are a ledger.** After any run, a slot is flagged exactly if
the core took it and nothing has freed it since, every request of the run
was for a slot that was not out and for a whole packet, and all of them
went to the one endpoint the core gave, which later calls keep. The
requests of the history are the calls the core was asked, no more and no
fewer. -/
theorem flags_are_ledger (usb : U) (sink : S) (codec : C) (format : StreamFormat) (slots : Nat)
    (calls : List Call) :
    let start := Gadget.unregistered (Watched.of usb) sink codec format slots
    let g := (start.run calls).2
    let history := start.history calls
    history.filter Entry.isAsked = g.usb.calls.filterMap Entry.ofCoreCall? ∧
      (∀ place, g.pool.flags[place]? = some true ↔ Lent history place) ∧
      WellAsked format.maxPacketSize history ∧
      (∀ type direction maxPacket ep, .reserved type direction maxPacket ep ∈ history →
        g.endpoint = some ep) ∧
      ∀ ep more, g.endpoint = some ep → (g.run more).2.endpoint = some ep := by
  intro start g history
  have order : InOrder history g :=
    (inOrder_unregistered usb sink codec format slots).run calls
  have kept : g.format = format := (Gadget.terms_run start calls).format
  refine ⟨Gadget.asked_history start calls, order.balanced.out_iff,
    kept ▸ order.balanced.asked, order.only, ?_⟩
  exact fun ep more own => (Gadget.terms_run g more).endpoint ep own

end Runs

end AudioGadget
