import AudioGadget.Proofs.Playback.Priming
/-!
# Frames — every octet keeps its channel

The bus cuts a stream into packets and the DAC cuts it into pieces, and the
cuts have nothing to do with each other. Only its place in the frame tells
which channel an octet belongs to, so one cut within a frame would make the
channels trade places until the stream ends. A drain rounds down to whole
frames and hands out the oldest octets (`fills_drain`), so the pieces are cut
between frames as long as the packets are (`Carries`).
-/

namespace AudioGadget

/-! ## Octets of a stream in blocks -/

/-- **Octet `j` of block `m` is octet `i`** of all blocks end to end. -/
structure Stands (blocks : List Bytes) (m j : Nat) (octet : UInt8) (i : Nat) : Prop where
  octet : ∃ block, blocks[m]? = some block ∧ block[j]? = some octet
  place : (blocks.take m).flatten.length + j = i

variable {blocks : List Bytes} {m j i size : Nat} {octet : UInt8}

theorem Stands.getElem?_flatten (h : Stands blocks m j octet i) :
    blocks.flatten[i]? = some octet := by
  obtain ⟨⟨block, here, octet⟩, rfl⟩ := h
  induction blocks generalizing m with
  | nil => cases here
  | cons first blocks ih =>
    rw [List.flatten_cons]
    cases m with
    | zero =>
      cases here
      obtain ⟨inside, -⟩ := List.getElem?_eq_some_iff.1 octet
      rw [List.take_zero, List.flatten_nil, List.length_nil, Nat.zero_add,
        List.getElem?_append_left inside]
      exact octet
    | succ m =>
      rw [List.take_succ_cons, List.flatten_cons, List.length_append, Nat.add_assoc,
        List.getElem?_append_right (Nat.le_add_right _ _), Nat.add_sub_cancel_left]
      exact ih here

/-- Every octet stands in a block. -/
theorem exists_stands (h : blocks.flatten[i]? = some octet) :
    ∃ m j, Stands blocks m j octet i := by
  induction blocks generalizing i with
  | nil => cases h
  | cons first blocks ih =>
    rw [List.flatten_cons] at h
    by_cases inside : i < first.length
    · rw [List.getElem?_append_left inside] at h
      exact ⟨0, i, ⟨first, rfl, h⟩, Nat.zero_add i⟩
    · rw [List.getElem?_append_right (Nat.not_lt.1 inside)] at h
      obtain ⟨m, j, here, place⟩ := ih h
      refine ⟨m + 1, j, here, ?_⟩
      rw [List.take_succ_cons, List.flatten_cons, List.length_append]
      omega

theorem dvd_length_flatten (whole : ∀ block ∈ blocks, size ∣ block.length) :
    size ∣ blocks.flatten.length := by
  induction blocks with
  | nil => exact Nat.dvd_zero _
  | cons first blocks ih =>
    obtain ⟨here, rest⟩ := List.forall_mem_cons.1 whole
    rw [List.flatten_cons, List.length_append]
    exact Nat.dvd_add here (ih rest)

/-- **Between blocks of whole frames an octet keeps its place in the frame.** -/
theorem Stands.mod_eq (h : Stands blocks m j octet i)
    (whole : ∀ block ∈ blocks, size ∣ block.length) : i % size = j % size := by
  have before : size ∣ (blocks.take m).flatten.length :=
    dvd_length_flatten fun block mem => whole block (List.mem_of_mem_take mem)
  rw [← h.place, Nat.add_mod, Nat.mod_eq_zero_of_dvd before, Nat.zero_add, Nat.mod_mod]

namespace Pipeline

variable {capacity : Nat} {p p' : Pipeline capacity}
variable {call : PipelineCall} {answer : PipelineAnswer} {seen : List (Visit capacity)}

/-! ## One drain -/

/-- **What one drain of `out` does**, all of it. -/
structure Fills (p : Pipeline capacity) (out : Bytes) (taken : Nat) (filled : Bytes)
    (next : Pipeline capacity) : Prop where
  /-- Whole frames, or all there is, and nothing unless the pipeline plays. -/
  amount : taken =
    if p.phase = .running then min (p.layout.wholeFrames out.length) p.buffered else 0
  length : filled.length = out.length
  /-- The oldest octets, and silence behind them. -/
  filled : filled = p.queued.take taken ++ List.replicate (out.length - taken) 0
  queued : next.queued = p.queued.drop taken
  /-- Running dry is counted, and nothing is left. -/
  dry : p.phase = .running ∧ p.buffered < p.layout.wholeFrames out.length →
    next.underruns = p.underruns.bump ∧ next.phase = .priming ∧ next.queued = []
  steady : ¬ (p.phase = .running ∧ p.buffered < p.layout.wholeFrames out.length) →
    next.underruns = p.underruns ∧ next.phase = p.phase

theorem fills_drain (sound : p.ring.Sound) (out : Bytes) :
    Fills p out (p.drain out).1 (p.drain out).2.1 (p.drain out).2.2 := by
  have drains := drains_drain sound out
  have fits := p.layout.wholeFrames_le out.length
  have passes := passes_drain sound out
  generalize (p.drain out).1 = taken at drains passes ⊢
  generalize (p.drain out).2.1 = filled at drains passes ⊢
  generalize (p.drain out).2.2 = next at drains passes ⊢
  have length : filled.length = out.length := by
    have within := drains.within
    have room : taken ≤ out.length := by
      rcases drains.amount with none | some <;> omega
    rw [drains.filled, List.length_append, List.length_take, List.length_replicate, length_queued]
    omega
  cases passes with
  | silent quiet =>
    exact ⟨(if_neg quiet).symm, length, drains.filled, drains.queued,
      fun dry => absurd dry.1 quiet, fun _ => ⟨rfl, rfl⟩⟩
  | played running enough =>
    refine ⟨?_, length, drains.filled, drains.queued,
      fun dry => absurd enough (Nat.not_le.2 dry.2), fun _ => ⟨rfl, rfl⟩⟩
    rw [if_pos running, Nat.min_eq_left enough]
  | dry running short _ empty =>
    refine ⟨?_, length, drains.filled, drains.queued, fun _ => ⟨rfl, rfl, empty⟩,
      fun steady => absurd ⟨running, short⟩ steady⟩
    rw [if_pos running, Nat.min_eq_right (Nat.le_of_lt short)]

/-! ## What goes in and what comes out -/

/-- The packet that a visit adds to the stream. -/
def Visit.packet? (v : Visit capacity) : Option Bytes :=
  match v.call, v.answer with
  | .accept packet, .intake .accepted => if v.met.phase = .stopped then none else some packet
  | _, _ => none

/-- The audio that a drain returns, without the silence behind it. -/
def Visit.audio? (v : Visit capacity) : Option Bytes :=
  match v.answer with
  | .filled taken out => some (out.take taken)
  | _ => none

/-- **The packets that were taken.** -/
def packets (seen : List (Visit capacity)) : List Bytes :=
  seen.filterMap Visit.packet?

/-- **The pieces that were drained.** -/
def pieces (seen : List (Visit capacity)) : List Bytes :=
  seen.filterMap Visit.audio?

theorem packets_concat (v : Visit capacity) :
    packets (seen ++ [v]) = packets seen ++ v.packet?.toList := by
  rw [packets, List.filterMap_append]
  cases h : v.packet? <;> simp [packets, h]

theorem pieces_concat (v : Visit capacity) :
    pieces (seen ++ [v]) = pieces seen ++ v.audio?.toList := by
  rw [pieces, List.filterMap_append]
  cases h : v.audio? <;> simp [pieces, h]

/-- **What a stream has carried so far.** The pieces and what waits are the
packets, in order, and the pieces are cut between frames if the packets are. -/
structure Carries (layout : Layout) (seen : List (Visit capacity)) (p : Pipeline capacity) :
    Prop where
  own : p.layout = layout
  order : (pieces seen).flatten ++ p.queued <+: (packets seen).flatten
  all : p.phase ≠ .stopped → (pieces seen).flatten ++ p.queued = (packets seen).flatten
  whole : (∀ packet ∈ packets seen, layout.frameBytes ∣ packet.length) →
    ∀ piece ∈ pieces seen, layout.frameBytes ∣ piece.length

namespace Carries

variable {layout : Layout}

theorem started (own : p.layout = layout) : Carries layout [] p.start :=
  ⟨own, List.prefix_refl _, fun _ => rfl, fun _ _ mem => nomatch mem⟩

/-- While the stream lasts, what waits is whole frames as well. -/
theorem dvd_buffered (h : Carries layout seen p) (streams : p.phase ≠ .stopped)
    (whole : ∀ packet ∈ packets seen, layout.frameBytes ∣ packet.length) :
    layout.frameBytes ∣ p.buffered := by
  have total : (packets seen).flatten.length = (pieces seen).flatten.length + p.buffered := by
    rw [← h.all streams, List.length_append, length_queued]
  refine (Nat.dvd_add_right (dvd_length_flatten (h.whole whole))).1 ?_
  rw [← total]
  exact dvd_length_flatten whole

/-- A call that neither takes nor plays anything, and drops what waits only if
it ends the stream. -/
theorem rests (h : Carries layout seen p) {v : Visit capacity} (packet : v.packet? = none)
    (audio : v.audio? = none) (same : p'.layout = p.layout) (queued : p'.queued <+: p.queued)
    (stays : p'.phase ≠ .stopped → p.phase ≠ .stopped ∧ p'.queued = p.queued) :
    Carries layout (seen ++ [v]) p' := by
  have noPacket : packets (seen ++ [v]) = packets seen := by simp [packets_concat, packet]
  have noPiece : pieces (seen ++ [v]) = pieces seen := by simp [pieces_concat, audio]
  refine ⟨same.trans h.own, ?_, fun streams => ?_, ?_⟩
  · rw [noPacket, noPiece]
    exact ((List.prefix_append_right_inj _).2 queued).trans h.order
  · obtain ⟨streamed, waits⟩ := stays streams
    rw [noPacket, noPiece, waits]
    exact h.all streamed
  · rw [noPacket, noPiece]
    exact h.whole

/-- A packet that is taken. -/
theorem takes (h : Carries layout seen p) {v : Visit capacity} {packet : Bytes}
    (streams : p.phase ≠ .stopped) (taken : v.packet? = some packet) (audio : v.audio? = none)
    (same : p'.layout = p.layout) (queued : p'.queued = p.queued ++ packet) :
    Carries layout (seen ++ [v]) p' := by
  have onePacket : packets (seen ++ [v]) = packets seen ++ [packet] := by
    simp [packets_concat, taken]
  have noPiece : pieces (seen ++ [v]) = pieces seen := by simp [pieces_concat, audio]
  have all : (pieces (seen ++ [v])).flatten ++ p'.queued = (packets (seen ++ [v])).flatten := by
    rw [onePacket, noPiece, queued, ← List.append_assoc, h.all streams]
    simp
  refine ⟨same.trans h.own, all ▸ List.prefix_refl _, fun _ => all, ?_⟩
  rw [onePacket, noPiece]
  exact fun whole => h.whole fun packet mem => whole packet (List.mem_append_left _ mem)

/-- A drain of `n` octets, which are whole frames if what waits is. -/
theorem plays (h : Carries layout seen p) {v : Visit capacity} {n : Nat} (packet : v.packet? = none)
    (audio : v.audio? = some (p.queued.take n)) (same : p'.layout = p.layout)
    (queued : p'.queued = p.queued.drop n) (stays : p'.phase ≠ .stopped → p.phase ≠ .stopped)
    (cut : (p.phase ≠ .stopped → layout.frameBytes ∣ p.buffered) →
      layout.frameBytes ∣ (p.queued.take n).length) :
    Carries layout (seen ++ [v]) p' := by
  have noPacket : packets (seen ++ [v]) = packets seen := by simp [packets_concat, packet]
  have onePiece : pieces (seen ++ [v]) = pieces seen ++ [p.queued.take n] := by
    simp [pieces_concat, audio]
  have moved : (pieces (seen ++ [v])).flatten ++ p'.queued = (pieces seen).flatten ++ p.queued := by
    rw [onePiece, queued, List.flatten_append, List.append_assoc]
    simp
  refine ⟨same.trans h.own, ?_, fun streams => ?_, ?_⟩
  · rw [moved, noPacket]
    exact h.order
  · rw [moved, noPacket]
    exact h.all (stays streams)
  · rw [noPacket, onePiece]
    intro whole piece mem
    rcases List.mem_append.1 mem with earlier | last
    · exact h.whole whole piece earlier
    · rw [List.mem_singleton.1 last]
      exact cut fun streams => h.dvd_buffered streams whole

theorem accept (h : Carries layout seen p) (sound : p.ring.Sound) (packet : Bytes) :
    Carries layout (seen ++ [⟨p, .accept packet, .intake (p.accept packet).1⟩])
      (p.accept packet).2 := by
  have passes := passes_accept sound packet
  generalize (p.accept packet).1 = intake at passes ⊢
  generalize (p.accept packet).2 = next at passes ⊢
  cases passes with
  | late idle =>
    exact h.rests (if_pos idle) rfl rfl (List.prefix_refl _) fun streams => absurd idle streams
  | refused streams => exact h.rests rfl rfl rfl (List.prefix_refl _) fun _ => ⟨streams, rfl⟩
  | taken streams _ _ queued => exact h.takes streams (if_neg streams) rfl rfl queued
  | primed priming _ _ queued =>
    have streams : p.phase ≠ .stopped := by
      rw [priming]
      exact Phase.noConfusion
    exact h.takes streams (if_neg streams) rfl rfl queued

theorem drain (h : Carries layout seen p) (sound : p.ring.Sound) (out : Bytes) :
    Carries layout (seen ++ [⟨p, .drain out, .filled (p.drain out).1 (p.drain out).2.1⟩])
      (p.drain out).2.2 := by
  have drains := drains_drain sound out
  refine h.plays rfl (congrArg some drains.audio) drains.layout drains.queued
    (mt drains.phase.2) fun whole => ?_
  rw [List.length_take, length_queued, Nat.min_eq_left drains.within,
    (fills_drain sound out).amount, h.own]
  split
  next running =>
    refine Layout.frameBytes_dvd_min (whole ?_) _
    rw [running]
    exact Phase.noConfusion
  next => exact Nat.dvd_zero _

/-- **Every call of a stream leaves it so.** -/
theorem perform (h : Carries layout seen p) (sound : p.ring.Sound) (ongoing : call ≠ .start) :
    Carries layout (seen ++ [⟨p, call, (p.perform call).1⟩]) (p.perform call).2 := by
  cases call with
  | start => exact absurd rfl ongoing
  | stop => exact h.rests rfl rfl rfl List.nil_prefix fun streams => absurd rfl streams
  | accept packet => exact h.accept sound packet
  | drain out => exact h.drain sound out

/-- So does a run. -/
theorem after (h : Carries layout seen p) (sound : p.ring.Sound) {calls : List PipelineCall}
    (ongoing : .start ∉ calls) : Carries layout (seen ++ p.visits calls) (p.after calls) := by
  induction calls generalizing p seen with
  | nil =>
    rw [visits, List.append_nil]
    exact h
  | cons call calls ih =>
    obtain ⟨now, later⟩ := List.ne_and_not_mem_of_not_mem_cons ongoing
    rw [visits, List.append_cons]
    exact ih (h.perform sound (Ne.symm now)) ((passes_perform sound call).sound sound) later

/-- **An octet that is heard keeps its channel**: the packets and the pieces are
one stream, and neither is cut within a frame. -/
theorem keeps_channel (h : Carries layout seen p)
    (whole : ∀ packet ∈ packets seen, layout.frameBytes ∣ packet.length)
    {n k i : Nat} {octet : UInt8} (heard : Stands (pieces seen) n k octet i) :
    ∃ m j, Stands (packets seen) m j octet i ∧
      k % layout.frameBytes = j % layout.frameBytes := by
  have order : (pieces seen).flatten <+: (packets seen).flatten :=
    (List.prefix_append _ _).trans h.order
  have sent : (packets seen).flatten[i]? = some octet := by
    obtain ⟨inside, same⟩ := List.getElem?_eq_some_iff.1 heard.getElem?_flatten
    rw [List.prefix_iff_getElem?.1 order i inside, same]
  obtain ⟨m, j, stands⟩ := exists_stands sent
  refine ⟨m, j, stands, ?_⟩
  exact (heard.mod_eq (h.whole whole)).symm.trans (stands.mod_eq whole)

end Carries

/-! ## Every run -/

/-- **Channels never trade places.** A drain overwrites all of its buffer,
with the oldest octets and silence behind them: whole frames, as many as the
buffer has room for, or all there is, if the pipeline runs. Where that is
less it is counted, and the cushion is filled again. As long as the packets
that a stream took are of whole frames, so are the pieces that were drained:
every octet in them is the octet of a packet, in order, and stands at the
same place in its frame as it stood in the packet. -/
theorem drains_keep_channels (layout : Layout) :
    (∀ calls out,
      let p : Pipeline capacity := (idle layout).after calls
      let wanted := layout.wholeFrames out.length
      p.layout = layout ∧
      (layout.frameBytes = 0 → wanted = out.length) ∧
      (0 < layout.frameBytes →
        IsGreatest {n | layout.frameBytes ∣ n ∧ n ≤ out.length} wanted) ∧
      Fills p out (p.drain out).1 (p.drain out).2.1 (p.drain out).2.2) ∧
    ∀ before after, PipelineCall.start ∉ after →
      let p : Pipeline capacity := ((idle layout).after before).start
      let seen := p.visits after
      (∀ packet ∈ packets seen, layout.frameBytes ∣ packet.length) →
        (∀ piece ∈ pieces seen, layout.frameBytes ∣ piece.length) ∧
        (pieces seen).flatten <+: (packets seen).flatten ∧
        ∀ n k octet i, Stands (pieces seen) n k octet i →
          ∃ m j, Stands (packets seen) m j octet i ∧
            k % layout.frameBytes = j % layout.frameBytes := by
  refine ⟨fun calls out => ?_, fun before after ongoing => ?_⟩
  · intro p wanted
    obtain ⟨sound, own⟩ : p.ring.Sound ∧ p.layout = layout := sound_after Ring.sound_empty calls
    exact ⟨own, fun none => if_pos none, fun cuts => Layout.isGreatest_wholeFrames cuts _,
      fills_drain sound out⟩
  · intro p seen whole
    have own : p.layout = layout := (sound_after Ring.sound_empty before).2
    have carries : Carries layout seen (p.after after) :=
      (Carries.started own).after (Ring.sound_clear _) ongoing
    exact ⟨carries.whole whole, (List.prefix_append _ _).trans carries.order,
      fun n k octet i heard => carries.keeps_channel whole heard⟩

/-- Packets of six octets and of two, and buffers of three and of nine. -/
def recut : List PipelineCall :=
  [.accept [1, 2, 3, 4, 5, 6], .drain (List.replicate 3 255), .accept [7, 8],
    .drain (List.replicate 9 255)]

/-- With two octets in a frame the pieces have two and six, and the last drain
runs dry. What came first in its packet is the fifth octet of its piece, the
first of a frame in both. -/
theorem drains_keep_channels_recut :
    let start : Pipeline 8 := .idle ⟨48000, 2, 8⟩
    let last := start.after (.start :: recut.take 3)
    let seen := start.start.visits recut
    .start ∉ recut ∧ packets seen = [[1, 2, 3, 4, 5, 6], [7, 8]] ∧
      pieces seen = [[1, 2], [3, 4, 5, 6, 7, 8]] ∧
      (last.drain (List.replicate 9 255)).2.2.phase = .priming ∧
      (last.drain (List.replicate 9 255)).2.2.queued = [] ∧
      (∀ piece ∈ pieces seen, 2 ∣ piece.length) ∧
      Stands (pieces seen) 1 4 7 6 ∧ ∃ m j, Stands (packets seen) m j 7 6 ∧ 4 % 2 = j % 2 := by
  obtain ⟨fills, channels⟩ := @drains_keep_channels 8 ⟨48000, 2, 8⟩
  obtain ⟨-, -, -, last⟩ := fills (.start :: recut.take 3) (List.replicate 9 255)
  have dry := last.dry (by decide +kernel)
  have ongoing : PipelineCall.start ∉ recut := by decide
  have taken : packets ((idle ⟨48000, 2, 8⟩ : Pipeline 8).start.visits recut) =
      [[1, 2, 3, 4, 5, 6], [7, 8]] := by
    decide +kernel
  have drained : pieces ((idle ⟨48000, 2, 8⟩ : Pipeline 8).start.visits recut) =
      [[1, 2], [3, 4, 5, 6, 7, 8]] := by
    decide +kernel
  obtain ⟨whole, -, keeps⟩ := channels [] recut ongoing (by decide +kernel)
  have heard : Stands (pieces ((idle ⟨48000, 2, 8⟩ : Pipeline 8).start.visits recut)) 1 4 7 6 := by
    rw [drained]
    exact ⟨⟨_, rfl, rfl⟩, rfl⟩
  exact ⟨ongoing, taken, drained, dry.2.1, dry.2.2, whole, heard, keeps 1 4 7 6 heard⟩

end Pipeline

end AudioGadget
