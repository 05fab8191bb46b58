import Mathlib
import Blockwise.Proofs.ReadBack

/-!
# Splitting — one block, served in several reads

A source may give less than it is asked for. A reader does not ask again before it decodes: what one
read of the source got is a block to the decoder, so a block that comes in two reads is decoded as
two blocks. This is so even if the stream has no other block, which is all that the formats without
framing promise to read back.

What the calls are on is known for every way to split a block, and what the reads bring is known if
the decoder takes all parts for blocks. It can be almost anything: a transform that puts out every
byte twice decodes both halves of a block without complaint, and another number of bytes comes back.

## Results

* `Format.sources_readOut_eq_iff` — a stream of one block is decoded in one piece if and only if it
  is served in one.
* `Format.not_readOut_eq_data` — it is not always read back.
-/

namespace Blockwise

universe u

variable {σ : Type u} {c : BlockTransform σ}

/-! ## Cuts of a block -/

/-- The cuts of a block that fits into one piece are one piece each. -/
theorem flatMap_pieces_of_cuts {size : Nat} {cuts : List Bytes} (hne : ∀ cut ∈ cuts, cut ≠ [])
    (hle : cuts.flatten.length ≤ size) : cuts.flatMap (pieces size) = cuts := by
  refine flatMap_pieces_eq_self fun cut hcut => pieces_of_length_le (hne cut hcut) ?_
  exact (List.sublist_flatten_of_mem hcut).length_le.trans hle

/-- If the first of the cuts is all of the block, there are no others. -/
theorem eq_singleton_of_head_eq {block : Bytes} {cuts : List Bytes} (hne : ∀ cut ∈ cuts, cut ≠ [])
    (hflatten : cuts.flatten = block) (h : [block] <+: cuts) : cuts = [block] := by
  obtain ⟨rest, rfl⟩ := h
  cases rest with
  | nil => rfl
  | cons cut rest =>
    -- nothing would be left for a second one
    have hrest : block ++ (cut ++ rest.flatten) = block := by simpa using hflatten
    have hnil : cut = [] := (List.append_eq_nil_iff.mp (List.append_right_eq_self.mp hrest)).1
    exact absurd hnil (hne cut (by simp))

/-! ## Streams of one block -/

/-- A writer that is finished after one write of at most a chunk makes a stream of one block. -/
theorem Writer.life_write_of_inverts {settings : Settings} (hc : c.Inverts settings.chunkSize)
    (state : σ) {sink : Sink} (hsink : sink.Willing) (bufferSize : Nat) {data : Bytes}
    (hne : data ≠ []) (hle : data.length ≤ settings.chunkSize) :
    let chunk := settings.chunkSize
    let w := withBufferSize sink (Encoder.new c state settings) bufferSize
    let stream := w.life [.write data] .finish
    let call := c.callOn .encode (state, .zeroed (max (c.bound state chunk) chunk)) data
    (w.run [.write data]).next.finish.answer = .ok () ∧ stream.calls = [call] ∧
      stream.accepted = call.output := by
  intro chunk w stream call
  obtain ⟨hfinish, hcalls, haccepted⟩ := life_of_inverts hc state hsink bufferSize [.write data]
  have harguments : ([.write data] : List Op).flatMap Op.fed = [data] := by
    simp [Op.fed, hne]
  have hchunks : [data].flatMap (pieces chunk) = [data] := by
    rw [List.flatMap_singleton]
    exact pieces_of_length_le hne hle
  rw [harguments, hchunks] at hcalls
  have hcalls : stream.calls = [call] := hcalls
  refine ⟨hfinish, hcalls, ?_⟩
  rw [show stream.accepted = _ from haccepted, hcalls, List.flatMap_singleton]

namespace Format

/-- **A block is read back if it comes in one piece.** Take a transform that undoes the blocks it
made, any settings, a sink that takes everything in the end, and a writer that is finished after one
write of at most a chunk. Its stream is one block.

A source may hand out that block in any number of reads, none of them empty. Then every call of the
reader is on what one read got. The block is decoded in one piece if and only if it is served in one;
and if it is, then whatever the buffers, reading to the end brings the data. Otherwise it brings what
the decoder makes of each part, if it accepts them all. -/
theorem sources_readOut_eq_iff {f : Format c} (havailable : f.availability.isAvailable = true)
    (hc : c.Inverts f.settings.chunkSize) {sink : Sink} (hsink : sink.Willing) (data : Bytes)
    (hne : data ≠ []) (hle : data.length ≤ f.settings.chunkSize) :
    let chunk := f.settings.chunkSize
    ∃ w block, f.writer sink = .ok w ∧ (w.run [.write data]).next.finish.answer = .ok () ∧
      let stream := w.life [.write data] .finish
      stream.calls.map BlockCall.output = [block] ∧ stream.accepted = block ∧
        ∀ cuts : List Bytes, (∀ cut ∈ cuts, cut ≠ []) → cuts.flatten = block →
          ∃ r, f.reader (.ofSupplies (cuts.map .data)) = .ok r ∧ ∀ outs,
            let ran := r.readOut outs
            let sources := ran.events.calls.map BlockCall.source
            sources <+: cuts ∧ (sources = [block] ↔ cuts = [block]) ∧
              (cuts = [block] → ran.answer = (data, .ok ())) ∧
              ((∀ cut ∈ cuts, c.Accepts .decode chunk cut) →
                ran.answer = ((c.callsOn .decode (f.initial, .zeroed chunk) cuts).flatMap
                  BlockCall.output, .ok ())) := by
  intro chunk
  let call := c.callOn .encode (f.initial, .zeroed f.readSize) data
  obtain ⟨hfinish, hcalls, haccepted⟩ :=
    Writer.life_write_of_inverts hc f.initial hsink chunk hne hle
  refine ⟨_, call.output, f.writer_of_isAvailable havailable sink, hfinish,
    congrArg (List.map BlockCall.output) hcalls, haccepted, ?_⟩
  intro cuts hcuts hblock
  have hr := reader_of_isAvailable havailable (.ofSupplies (cuts.map .data))
  refine ⟨_, hr, fun outs => ?_⟩
  intro ran sources
  have hdata : ∀ source ∈ [data], source ≠ [] ∧ source.length ≤ chunk := by
    intro source hmem
    rw [List.mem_singleton.mp hmem]
    exact ⟨hne, hle⟩
  have hmade : [call] = c.callsOn .encode (f.initial, .zeroed f.readSize) [data] := rfl
  -- the block fits into one piece, and so do its cuts
  have hlength : call.output.length ≤ f.readSize := by
    have hcall : call ∈ c.callsOn .encode (f.initial, .zeroed f.readSize) [data] :=
      List.mem_singleton_self call
    exact (of_pieces_eq_singleton (hc.decodes_of_mem rfl hdata hcall).1).2
  have hsteady : (Source.ofSupplies (cuts.map .data)).Steady := steady_ofSupplies cuts
  have hstock : (Source.ofSupplies (cuts.map .data)).stock f.readSize = cuts := by
    rw [stock_ofSupplies]
    exact flatMap_pieces_of_cuts hcuts (hblock ▸ hlength)
  have hstaged : sources <+: cuts := by
    have hall := sources_readOut_prefix_stock hr hsteady outs
    rwa [hstock] at hall
  -- a block in one serving is read back
  have hwhole : cuts = [call.output] → ran.answer = (data, .ok ()) ∧ sources = [call.output] := by
    intro hsingle
    obtain ⟨hanswer, -, hsource⟩ :=
      readOut_of_stock hr hsteady hc hdata hmade (hstock.trans hsingle) outs
    rw [List.flatten_singleton] at hanswer
    exact ⟨hanswer, hsource⟩
  refine ⟨hstaged, ⟨fun hsingle => ?_, fun hcuts => (hwhole hcuts).2⟩,
    fun hcuts => (hwhole hcuts).1, fun haccepts => ?_⟩
  · rw [hsingle] at hstaged
    exact eq_singleton_of_head_eq hcuts hblock hstaged
  · rw [← hstock] at haccepts
    obtain ⟨-, hcalled, hanswer⟩ := readOut_of_accepts hr hsteady haccepts outs
    rw [hstock] at hcalled
    rw [← hcalled]
    exact hanswer

end Format

/-! ## A transform that takes anything for a block -/

/-- Every other byte, from the first one on. -/
def everyOther : Bytes → Bytes
  | b :: _ :: bytes => b :: everyOther bytes
  | bytes => bytes

theorem everyOther_flatMap (bytes : Bytes) :
    everyOther (bytes.flatMap fun b => [b, b]) = bytes := by
  induction bytes with
  | nil => rfl
  | cons b bytes ih => rw [List.flatMap_cons, List.cons_append, List.cons_append, everyOther,
      List.nil_append, ih]

namespace BlockTransform

/-- A transform that puts out every byte twice. -/
def doubled : BlockTransform Unit where
  name := "doubled"
  bound _ := (2 * ·)
  encode state room block := .whole state room (block.flatMap fun b => [b, b])
  decode state room block := .whole state room (everyOther block)

theorem encode_doubled {room : Room} {source : Bytes} (hroom : 2 * source.length ≤ room.size) :
    (doubled.callOn .encode ((), room) source).reported = 2 * source.length ∧
      (doubled.callOn .encode ((), room) source).output = source.flatMap fun b => [b, b] := by
  have hlength : (source.flatMap fun b => [b, b]).length = 2 * source.length := by
    rw [List.length_flatMap]
    simp [Nat.mul_comm]
  rw [← hlength] at hroom ⊢
  exact callOn_of_apply_eq_whole rfl hroom

theorem inverts_doubled (size : Nat) : doubled.Inverts size where
  bound_fixed _ _ _ := rfl
  bound_mono _ _ _ h := Nat.mul_le_mul_left 2 h
  encoded state room source hne hle hroom := by
    have hpos : 0 < source.length := List.length_pos_iff.mpr hne
    have hroom : 2 * source.length ≤ room.size := hroom
    rw [(encode_doubled hroom).1]
    omega
  decoded state room source hne hle hroom state' room' hroom' := by
    rw [(encode_doubled hroom).2]
    have hback := everyOther_flatMap source
    rw [← hback] at hroom'
    have hcall : (doubled.callOn .decode (state', room') _).reported = _ ∧ _ :=
      callOn_of_apply_eq_whole (c := doubled) (d := .decode) rfl hroom'
    rw [hback] at hcall
    exact hcall

/-- The decoder does not mind a block that it did not make. -/
theorem accepts_doubled {size : Nat} {source : Bytes} (hne : everyOther source ≠ [])
    (hle : (everyOther source).length ≤ size) : doubled.Accepts .decode size source := by
  intro state room hroom
  have hcall : (doubled.callOn .decode (state, room) source).reported = _ ∧ _ :=
    callOn_of_apply_eq_whole (c := doubled) (d := .decode) rfl (hroom.symm ▸ hle)
  rw [BlockCall.failed_eq_false_iff, hcall.1, capacity_callOn]
  exact ⟨fun _ => List.length_pos_iff.mpr hne, hroom.symm ▸ hle⟩

/-- Two bytes that were doubled, cut behind the first one. -/
theorem accepts_doubled_cuts :
    ∀ cut ∈ ([[1], [1, 2, 2]] : List Bytes), doubled.Accepts .decode 4 cut := by
  intro cut hcut
  rcases List.mem_pair.mp hcut with rfl | rfl
  · exact accepts_doubled (by decide) (by decide)
  · exact accepts_doubled (by decide) (by decide)

end BlockTransform

namespace Format

/-- Two bytes, each of them twice, are read back if the source serves them in one read. In two reads
they are decoded as two blocks, and three bytes come back. -/
theorem sources_readOut_doubled :
    let f : Format .doubled := ⟨(), .stored, ⟨4, by decide, by decide⟩⟩
    (f.availability.isAvailable = true ∧ BlockTransform.doubled.Inverts 4 ∧
        (⟨[], []⟩ : Sink).Willing ∧ ([1, 2] : Bytes) ≠ [] ∧ ([1, 2] : Bytes).length ≤ 4) ∧
      ∃ w, f.writer ⟨[], []⟩ = .ok w ∧
        (w.life [.write [1, 2]] .finish).accepted = [1, 1, 2, 2] ∧
          (∃ r, f.reader (.ofSupplies [.data [1, 1, 2, 2]]) = .ok r ∧ ∀ outs,
            (r.readOut outs).answer = ([1, 2], .ok ())) ∧
          ∃ r, f.reader (.ofSupplies [.data [1], .data [1, 2, 2]]) = .ok r ∧ ∀ outs,
            (r.readOut outs).events.calls.map BlockCall.source ≠ [[1, 1, 2, 2]] ∧
              (r.readOut outs).answer = ([1, 1, 2], .ok ()) := by
  intro f
  have havailable : f.availability.isAvailable = true := by decide
  have hinverts : BlockTransform.doubled.Inverts 4 := BlockTransform.inverts_doubled 4
  have hsink : (⟨[], []⟩ : Sink).Willing := by
    constructor
    · simp
    · simp
  refine ⟨⟨havailable, hinverts, hsink, by decide, by decide⟩, ?_⟩
  obtain ⟨w, block, hw, -, -, haccepted, hcuts⟩ :=
    sources_readOut_eq_iff havailable hinverts hsink [1, 2] (by decide) (by decide)
  have hstream : (w.life [.write [1, 2]] .finish).accepted = [1, 1, 2, 2] := by
    rw [f.writer_of_isAvailable havailable ⟨[], []⟩] at hw
    cases hw
    simp only [f]
    cbv
  rw [hstream] at haccepted
  rw [← haccepted] at hcuts
  obtain ⟨r, hr, hread⟩ := hcuts [[1, 1, 2, 2]] (by decide) rfl
  obtain ⟨r', hr', hread'⟩ := hcuts [[1], [1, 2, 2]] (by decide) rfl
  have hwhole : ∀ outs, (r.readOut outs).answer = ([1, 2], .ok ()) := by
    intro outs
    obtain ⟨-, -, hanswer, -⟩ := hread outs
    exact hanswer rfl
  refine ⟨w, hw, hstream, ⟨r, hr, hwhole⟩, r', hr', fun outs => ?_⟩
  obtain ⟨-, hone, -, hanswer⟩ := hread' outs
  refine ⟨fun hsame => ?_, ?_⟩
  · have hcut := hone.mp hsame
    cases hcut
  · rw [hanswer BlockTransform.accepts_doubled_cuts]
    simp only [f]
    cbv

/-- It is not so that a stream of one block is read back however the source splits its reads. -/
theorem not_readOut_eq_data :
    let f : Format .doubled := ⟨(), .stored, ⟨4, by decide, by decide⟩⟩
    BlockTransform.doubled.Inverts 4 ∧
      ∃ w, f.writer ⟨[], []⟩ = .ok w ∧
        ¬ ∀ cuts : List Bytes, (∀ cut ∈ cuts, cut ≠ []) →
          cuts.flatten = (w.life [.write [1, 2]] .finish).accepted →
            ∀ r outs, f.reader (.ofSupplies (cuts.map .data)) = .ok r →
              (r.readOut outs).answer = ([1, 2], .ok ()) := by
  intro f
  refine ⟨BlockTransform.inverts_doubled 4, _, f.writer_of_isAvailable rfl ⟨[], []⟩, fun h => ?_⟩
  have hstream : (([[1], [1, 2, 2]] : List Bytes)).flatten =
      (Writer.life (.withBufferSize ⟨[], []⟩ (.new .doubled f.initial f.settings)
        f.settings.chunkSize) [.write [1, 2]] .finish).accepted := by
    simp only [f]
    cbv
  have hstock : (Source.ofSupplies ([[1], [1, 2, 2]].map .data)).stock f.readSize =
      [[1], [1, 2, 2]] := by
    simp only [f]
    cbv
  have hr := reader_of_isAvailable (f := f) rfl (.ofSupplies ([[1], [1, 2, 2]].map .data))
  have hclaimed := h [[1], [1, 2, 2]] (by decide) hstream _ (fun _ => ⟨[0], by decide⟩) hr
  -- the decoder takes either part for a block
  obtain ⟨-, hmade, hanswer⟩ := readOut_of_accepts hr (steady_ofSupplies [[1], [1, 2, 2]])
    (hstock.symm ▸ BlockTransform.accepts_doubled_cuts) fun _ => ⟨[0], by decide⟩
  have hbrought := congrArg Prod.fst (hclaimed.symm.trans hanswer)
  rw [hmade, hstock] at hbrought
  have hthree : (BlockTransform.doubled.callsOn .decode (f.initial, .zeroed f.settings.chunkSize)
      [[1], [1, 2, 2]]).flatMap BlockCall.output = [1, 1, 2] := by
    simp only [f]
    cbv
  rw [hthree] at hbrought
  cases hbrought

end Format

end Blockwise
