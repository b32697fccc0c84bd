import AudioGadget.Proofs.Reception.History
/-!
# Bus — a gadget beside the receptions in flight

The core holds a buffer from the request it took until it reports the
reception, and calling receptions off returns nothing by itself. A `Bus`
keeps a gadget beside what is in flight, each reception with its era: how
often all slots had been taken back when it was asked for.

An action is a call on the gadget or the core's report of a reception.
`Lawful` is what the core promises of its reports, `Exclusive` and
`Attributed` are what the gadget owes in return, and `Settled` is the
condition on a stream that begins. All of them can be computed, so a run
can be tried out.
-/

namespace AudioGadget

open Bench

/-- **A reception in flight**: its endpoint, its buffer, and the era it was
asked in. -/
structure Reception where
  endpoint : EndpointAddress
  buffer : BufferId
  era : Nat
deriving DecidableEq

/-- The reception that an entry begins: a request the core took. -/
def Entry.launch? (era : Nat) : Entry → Option Reception
  | .submitted ep lease true => some ⟨ep, lease.buffer, era⟩
  | _ => none

/-- **No buffer is lent twice**: no request in `entries`, taken or not, is
for a buffer in flight at that moment. -/
def Unshared (era : Nat) (flying : List Reception) (entries : List Entry) : Prop :=
  ∀ before ep lease taken after, entries = before ++ .submitted ep lease taken :: after →
    ∀ r ∈ flying ++ before.filterMap (Entry.launch? era), r.buffer ≠ lease.buffer

theorem launched_cons (era : Nat) (flying : List Reception) (e : Entry) (entries : List Entry) :
    flying ++ (e :: entries).filterMap (Entry.launch? era) =
      flying ++ (e.launch? era).toList ++ entries.filterMap (Entry.launch? era) := by
  rw [List.append_assoc, List.filterMap_cons]
  rcases e.launch? era with _ | r <;> rfl

theorem unshared_of_not_mem {era : Nat} {flying : List Reception} {entries : List Entry}
    (h : ∀ ep lease taken, .submitted ep lease taken ∉ entries) :
    Unshared era flying entries := by
  rintro before ep lease taken after rfl
  exact absurd (by simp) (h ep lease taken)

/-- **The first entry is judged by what is in flight**, the others by that
and by what the first one launched. -/
theorem unshared_cons {era : Nat} {flying : List Reception} {e : Entry} {entries : List Entry} :
    Unshared era flying (e :: entries) ↔
      (∀ ep lease taken, e = .submitted ep lease taken → ∀ r ∈ flying, r.buffer ≠ lease.buffer) ∧
        Unshared era (flying ++ (e.launch? era).toList) entries := by
  constructor
  · intro h
    refine ⟨fun ep lease taken eq r hr => ?_, fun before ep lease taken after split r hr => ?_⟩
    · exact h [] ep lease taken entries (by simp [eq]) r (by simpa using hr)
    · exact h (e :: before) ep lease taken after (by simp [split]) r (by rwa [launched_cons])
  · rintro ⟨first, rest⟩ before ep lease taken after split r hr
    rcases before with _ | ⟨e', before⟩
    · cases split
      exact first ep lease taken rfl r (by simpa using hr)
    · cases split
      rw [launched_cons] at hr
      exact rest before ep lease taken after rfl r hr

theorem unshared_append {era : Nat} {flying : List Reception} {entries more : List Entry} :
    Unshared era flying (entries ++ more) ↔ Unshared era flying entries ∧
      Unshared era (flying ++ entries.filterMap (Entry.launch? era)) more := by
  induction entries generalizing flying with
  | nil => simp [unshared_of_not_mem]
  | cons e entries ih =>
    rw [List.cons_append, unshared_cons, unshared_cons, ih, launched_cons, and_assoc]

/-- Only a request needs a check. -/
instance (flying : List Reception) (e : Entry) :
    Decidable (∀ ep lease taken, e = .submitted ep lease taken →
      ∀ r ∈ flying, r.buffer ≠ lease.buffer) :=
  match e with
  | .submitted ep lease taken =>
    decidable_of_iff (∀ r ∈ flying, r.buffer ≠ lease.buffer)
      ⟨fun free _ _ _ eq => by cases eq; exact free, fun h => h ep lease taken rfl⟩
  | .reserved .. | .completed .. | .reclaimed => isTrue fun _ _ _ eq => by cases eq

instance decidableUnshared (era : Nat) :
    (flying : List Reception) → (entries : List Entry) → Decidable (Unshared era flying entries)
  | _, [] => isTrue (unshared_of_not_mem (by simp))
  | flying, e :: rest =>
    have := decidableUnshared era (flying ++ (e.launch? era).toList) rest
    decidable_of_iff _ unshared_cons.symm

/-- **A gadget and what the core holds of its buffers.** -/
structure Bus (U S C : Type) where
  gadget : Gadget (Watched U CoreCall) S C
  flying : List Reception
  /-- How often all slots were taken back. -/
  era : Nat

namespace Bus

/-- A call on the gadget, or the core's report of a reception. -/
inductive Action where
  | call (call : Call)
  | report (r : Reception) (status : TransferStatus) (length : Nat)

def Action.asCall : Action → Call
  | .call c => c
  | .report r status length => .transferComplete r.endpoint .hostToDevice ⟨status, length, r.buffer⟩

/-- What is still in flight when the gadget hears of an action. -/
def Action.remaining (flying : List Reception) : Action → List Reception
  | .call _ => flying
  | .report r _ _ => flying.erase r

variable {U S C : Type}

/-- A gadget that was just switched on. Nothing is in flight. -/
def boot (usb : U) (sink : S) (codec : C) (format : StreamFormat) (slots : Nat) : Bus U S C :=
  ⟨(Gadget.unregistered (Watched.of usb) sink codec format slots).powerOn.next, [], 0⟩

section Steps

variable [UsbCore U] [PcmSink S] [Codec C]

/-- What an action writes into the history. -/
def entries (b : Bus U S C) (a : Action) : List Entry :=
  b.gadget.entries a.asCall

/-- One action. Requests that are taken are in flight from then on. -/
def step (b : Bus U S C) (a : Action) : Bus U S C where
  gadget := (b.gadget.perform a.asCall).next
  flying := a.remaining b.flying ++ (b.entries a).filterMap (Entry.launch? b.era)
  era := b.era + (b.entries a).count .reclaimed

/-- Every action of a run has the property, in the state it meets. -/
def Always (P : Bus U S C → Action → Prop) : Bus U S C → List Action → Prop
  | _, [] => True
  | b, a :: rest => P b a ∧ Always P (b.step a) rest

/-- **What the core promises.** It reports what is in flight, and nothing
else on the endpoint of the gadget. The gadget is not switched on again. -/
def Lawful (b : Bus U S C) : Action → Prop
  | .call .powerOn => False
  | .call (.transferComplete ep direction _) =>
    ¬ (b.gadget.endpoint = some ep ∧ direction = .hostToDevice)
  | .call _ => True
  | .report r _ _ => r ∈ b.flying

/-- **The core is asked for no buffer that it still holds.** -/
def Exclusive (b : Bus U S C) (a : Action) : Prop :=
  Unshared b.era (a.remaining b.flying) (b.entries a)

/-- **No report is taken for another**: what is not ignored was asked in
the era of the flags. -/
def Attributed (b : Bus U S C) : Action → Prop
  | .call _ => True
  | .report r status length =>
    (b.gadget.transferComplete r.endpoint .hostToDevice ⟨status, length, r.buffer⟩).1 ≠ .ignored →
      r.era = b.era

/-- **A stream begins with nothing of an older era in flight.** -/
def Settled (b : Bus U S C) (a : Action) : Prop :=
  b.gadget.isOperational = false → (b.step a).gadget.isOperational = true →
    ∀ r ∈ b.flying, r.era = b.era

/-! Each of these can be computed. -/

instance decidableAlways (P : Bus U S C → Action → Prop) [∀ b a, Decidable (P b a)] :
    (b : Bus U S C) → (actions : List Action) → Decidable (Always P b actions)
  | _, [] => isTrue trivial
  | b, a :: rest =>
    have := decidableAlways P (b.step a) rest
    inferInstanceAs (Decidable (P b a ∧ Always P (b.step a) rest))

instance (b : Bus U S C) : (a : Action) → Decidable (b.Lawful a)
  | .report r _ _ => inferInstanceAs (Decidable (r ∈ b.flying))
  | .call .powerOn => isFalse id
  | .call (.transferComplete ep direction _) =>
    inferInstanceAs (Decidable (¬ (b.gadget.endpoint = some ep ∧ direction = .hostToDevice)))
  | .call .connect | .call .disconnect | .call .requestEndpoints => isTrue trivial
  | .call (.setFirstInterface _) | .call (.setFirstString _) => isTrue trivial
  | .call (.setInterface ..) | .call (.getInterface _) => isTrue trivial
  | .call (.writeDescriptors ..) | .call (.stringDescriptor _) => isTrue trivial
  | .call (.controlRequest ..) | .call (.dataStage _) | .call (.fillInFlight ..) => isTrue trivial

instance (b : Bus U S C) (a : Action) : Decidable (b.Exclusive a) :=
  inferInstanceAs (Decidable (Unshared ..))

instance (b : Bus U S C) : (a : Action) → Decidable (b.Attributed a)
  | .call _ => isTrue trivial
  | .report r status length =>
    inferInstanceAs (Decidable (
      (b.gadget.transferComplete r.endpoint .hostToDevice ⟨status, length, r.buffer⟩).1 ≠ .ignored →
        r.era = b.era))

instance (b : Bus U S C) (a : Action) : Decidable (b.Settled a) :=
  inferInstanceAs (Decidable (b.gadget.isOperational = false →
    (b.step a).gadget.isOperational = true → ∀ r ∈ b.flying, r.era = b.era))

end Steps

end Bus

end AudioGadget
