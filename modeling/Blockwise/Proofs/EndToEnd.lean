import Mathlib
import Blockwise.Proofs.Flushing
import Blockwise.Proofs.ReadBack

/-!
# EndToEnd — what was written is read

Bytes that are mapped one by one come through a writer and a reader whatever lies between them. The
writer cuts its arguments into chunks of its own and drops them into its sink as this takes them;
the source of the reader is cut anew wherever one likes; the reader asks for as much at a time as its
own settings say, and is read from in other portions again. None of these boundaries matters, since
both sides do the same to every byte, and neither loses or adds any.

Two facts carry this. At the end of every operation the writer is at rest and the sink has the
mapped arguments, so nothing is left to do when the stream ends, however that is. And the servings of
a steady source, put together, are its contents.

## Results

* `Writer.run_of_maps` — what a sink gets from a writer that maps bytes, operation by operation.
* `Source.flatten_stock` — servings are a matter of cutting.
* `Format.readOut_written` — bytes written through one format are read through another one.
-/

namespace Blockwise

universe u

variable {σ : Type u} {c : BlockTransform σ}

/-! ## What is written -/

namespace Writer

/-- What the operation writes. -/
def Op.argument : Op → Bytes
  | .write bytes | .writeAll bytes => bytes
  | .flush | .conclude => []

/-- What is fed to the encoder is what is written, without the empty arguments. -/
theorem flatten_fed (ops : List Op) : (ops.flatMap Op.fed).flatten = ops.flatMap Op.argument := by
  have hfed : ∀ op : Op, op.fed.flatMap id = op.argument := by
    intro op
    cases op with
    | write bytes => cases bytes <;> simp [Op.fed, Op.argument]
    | writeAll bytes => cases bytes <;> simp [Op.fed, Op.argument]
    | flush => rfl
    | conclude => rfl
  rw [← List.flatMap_id, List.flatMap_assoc]
  exact List.flatMap_congr fun op _ => hfed op

/-- After any operations, a writer that maps bytes is at rest, and its sink has got the mapped
arguments. It takes what comes as it did before. -/
theorem run_of_maps {f : UInt8 → UInt8}
    (hmaps : ∀ state room block, (c.callOn .encode (state, room) block).Maps f) (state : σ)
    (settings : Settings) {sink : Sink}
    (hsink : ∀ acceptance ∈ sink.writes, acceptance.Willing) (bufferSize : Nat) (ops : List Op) :
    let w := withBufferSize sink (Encoder.new c state settings) bufferSize
    (w.run ops).next.calm.sink.Willing ∧ (w.run ops).next.encoder.needsInput = true ∧
      (w.run ops).events.accepted = (ops.flatMap Op.argument).map f := by
  intro w
  have hidle : w.calm.encoder.needsInput = true := rfl
  have hwilling : w.calm.sink.Willing := Sink.willing_calm hsink
  have hroom : settings.chunkSize ≤ w.encoder.engine.start.2.size := Nat.le_max_right ..
  -- every chunk fits into the room, so no call fails
  have hsucceeded : ∀ call ∈ (w.calm.run ops).events.calls, call.failed = false :=
    run_succeeds_of_accepts hwilling hidle fun _ _ piece hpiece =>
      BlockTransform.accepts_of_maps hmaps (ne_nil_of_mem_pieces hpiece)
        ((length_le_of_mem_pieces hpiece).trans hroom)
  obtain ⟨hrelays, hrest⟩ := relays_run hwilling hidle hsucceeded
  have hbalances := hrelays.balances hidle
  have hsources := hbalances.sources_of_idle hrest hrelays.source_ne_nil
  have hfits : ∀ source ∈ (ops.flatMap Op.fed).flatMap (pieces settings.chunkSize),
      source.length ≤ w.encoder.engine.start.2.size :=
    fun source hsource => (of_mem_flatMap_pieces hsource).2.trans hroom
  have hcalls := hbalances.calls
  rw [hsources] at hcalls
  obtain ⟨hnext, -, htaken⟩ := w.run_calm ops
  refine ⟨hnext ▸ hrelays.willing, ?_, ?_⟩
  · rw [hnext] at hrest
    exact hrest
  · have haccepted : (w.calm.run ops).events.accepted = _ := hbalances.returned_of_idle hrest
    rw [← htaken, haccepted, hcalls]
    refine (BlockTransform.flatMap_output_callsOn_of_maps hmaps _ hfits).trans ?_
    rw [flatten_flatMap_pieces settings.chunkSize_pos, flatten_fed]

/-- A write that leaves the writer at rest has consumed all of its argument. -/
theorem write_of_rests {w : Writer c} (hsink : w.calm.sink.Willing)
    (hidle : w.encoder.needsInput = true) {bytes : Bytes}
    (hrest : (w.write bytes).next.encoder.needsInput = true) :
    (w.write bytes).answer = .ok bytes.length := by
  obtain ⟨-, hends⟩ := relays_write (w := w.calm) hsink hidle bytes
  rw [write_calm] at hends
  rcases hends with ⟨hok, -⟩ | hpoisoned
  · exact hok
  · have husable := Engine.isPoisoned_of_isIdle hrest
    rw [show (w.write bytes).next.encoder.engine.pump.isPoisoned = true from hpoisoned] at husable
    cases husable

/-- The end of a writer at rest: there is nothing to deliver, and all that can fail is the last
flush. -/
theorem part_of_rest {w : Writer c} (hidle : w.encoder.needsInput = true) (ending : Ending) :
    (w.part ending).accepted = [] ∧ w.conclude.answer = .ok () ∧
      w.finish.answer = w.sink.flush.answer.mapError .channel := by
  have hconclude := conclude_of_idle hidle
  refine ⟨?_, by rw [hconclude]; rfl, by rw [finish, hconclude]; rfl⟩
  cases ending with
  | finish =>
    rw [part, finish, hconclude]
    rfl
  | abandon =>
    rw [part, abandon, hconclude]
    rfl

end Writer

/-! ## What is there to read -/

/-- The bytes of the supply. -/
def Supply.contents : Supply → Bytes
  | data bytes => bytes
  | nothing | refuse _ => []

namespace Source

/-- All bytes that the source has left. -/
def contents (source : Source) : Bytes :=
  source.opened ++ source.queue.flatMap Supply.contents

/-- What a source serves, put together, does not depend on how much is asked for at a time. -/
theorem flatten_stock {size : Nat} (hs : 0 < size) (source : Source) :
    (source.stock size).flatten = source.contents := by
  have hsupply : ∀ supply : Supply, (supply.stock size).flatMap id = supply.contents := by
    intro supply
    cases supply with
    | data bytes => exact List.flatMap_id.trans (flatten_pieces hs bytes)
    | nothing => rfl
    | refuse failure => rfl
  rw [stock, List.flatten_append, flatten_pieces hs, ← List.flatMap_id, List.flatMap_assoc]
  exact congrArg _ (List.flatMap_congr fun supply _ => hsupply supply)

end Source

namespace Format

/-- Reading to the end of a steady source brings its contents mapped, if the decoder maps bytes and
has room for all that it stages. -/
theorem readOut_of_maps {format : Format c} {g : UInt8 → UInt8}
    (hmaps : ∀ state room block, (c.callOn .decode (state, room) block).Maps g)
    (hroom : format.readSize ≤ format.settings.chunkSize) {supplier : Source} {r : Reader c}
    (hr : format.reader supplier = .ok r) (h : supplier.Steady) (outs : Reader.Buffers) :
    (r.readOut outs).answer = (supplier.contents.map g, .ok ()) := by
  have hsize : 0 < format.readSize := format.settings.chunkSize_pos.trans_le (Nat.le_max_right ..)
  have hfits : ∀ serving ∈ supplier.stock format.readSize,
      serving.length ≤ format.settings.chunkSize :=
    fun serving hserving => (Source.of_mem_stock hserving).2.trans hroom
  obtain ⟨-, hcalls, hanswer⟩ := readOut_of_accepts hr h
    (fun serving hserving => BlockTransform.accepts_of_maps hmaps
      (Source.of_mem_stock hserving).1 (hfits serving hserving)) outs
  rw [hanswer, hcalls, BlockTransform.flatMap_output_callsOn_of_maps hmaps _ hfits,
    supplier.flatten_stock hsize]

/-- **What was written is read.** Take a transform that maps every byte by itself, and two formats
over it that are available, whatever their settings. Take a sink that takes bytes or is interrupted,
however it is flushed, and any operations on a writer of the first format that is finished or
abandoned in the end. Then

1. there is such a writer, every write answers that all of its argument was consumed, the stream
   can be concluded, and to finish it fails only if the last flush does;
2. what the sink got is what was written, mapped byte by byte;
3. however the source of a reader of the second format supplies this, with interruptions in
   between, and whatever the reads, reading to the end brings exactly what was written, and does not
   fail. -/
theorem readOut_written {f g : UInt8 → UInt8} (hc : c.IsBytewise f g) {writing reading : Format c}
    (hwriting : writing.availability.isAvailable = true)
    (hreading : reading.availability.isAvailable = true) {sink : Sink}
    (hsink : ∀ acceptance ∈ sink.writes, acceptance.Willing) (ops : List Writer.Op)
    (ending : Writer.Ending) :
    let written := ops.flatMap Writer.Op.argument
    ∃ w, writing.writer sink = .ok w ∧
      (∀ before bytes after, ops = before ++ .write bytes :: after →
        ((w.run before).next.write bytes).answer = .ok bytes.length) ∧
      ((w.run ops).next.conclude.answer = .ok () ∧
        (w.run ops).next.finish.answer =
          (w.run ops).next.sink.flush.answer.mapError .channel) ∧
      let stream := (w.life ops ending).accepted
      stream = written.map f ∧
        ∀ supplier : Source, supplier.Steady → supplier.contents = stream →
          ∃ r, reading.reader supplier = .ok r ∧
            ∀ outs : Reader.Buffers, (r.readOut outs).answer = (written, .ok ()) := by
  intro written
  refine ⟨_, writing.writer_of_isAvailable hwriting sink, ?_⟩
  have hrun := Writer.run_of_maps hc.encode writing.initial writing.settings hsink
    writing.settings.chunkSize
  obtain ⟨-, hrest, haccepted⟩ := hrun ops
  obtain ⟨hnothing, hconclude, hfinish⟩ := Writer.part_of_rest hrest ending
  refine ⟨?_, ⟨hconclude, hfinish⟩, ?_⟩
  · rintro before bytes after -
    -- the writer is at rest before the write and after it
    obtain ⟨hwilling, hidle, -⟩ := hrun before
    obtain ⟨-, hrested, -⟩ := hrun (before ++ [.write bytes])
    rw [Writer.run_append] at hrested
    exact Writer.write_of_rests hwilling hidle hrested
  · intro stream
    have hstream : stream = written.map f := by
      rw [show stream = _ from Trace.accepted_append .., hnothing, List.append_nil]
      exact haccepted
    refine ⟨hstream, fun supplier hsteady hcontents => ?_⟩
    refine ⟨_, reading.reader_of_isAvailable hreading supplier, fun outs => ?_⟩
    -- encodings are no larger than their blocks, so all that is staged fits
    have hroom : reading.readSize ≤ reading.settings.chunkSize := by
      rw [readSize, hc.bound, Nat.max_self]
    have hinverse : g ∘ f = id := funext hc.inverse
    rw [readOut_of_maps hc.decode hroom (reading.reader_of_isAvailable hreading supplier) hsteady
      outs, hcontents, hstream, List.map_map, hinverse, List.map_id]

/-- Bytes with their bits flipped, written in chunks of three, by a writer that is abandoned after its
sink failed to flush; and read in chunks of four from a source that is interrupted in the middle. -/
theorem readOut_written_flipped :
    let flip : UInt8 → UInt8 := fun b => b ^^^ 90
    let c := BlockTransform.bytewise "xor" flip flip
    let writing : Format c := ⟨(), .stored, ⟨3, by decide, by decide⟩⟩
    let reading : Format c := ⟨(), .stored, ⟨4, by decide, by decide⟩⟩
    let interrupted : Failure := ⟨.interrupted, "try again"⟩
    let sink : Sink := ⟨[.upTo 1, .refuse interrupted], [some ⟨.brokenPipe, "closed"⟩]⟩
    let ops : List Writer.Op := [.write [1, 2, 3, 4], .write [], .flush, .writeAll [5]]
    let supplier : Source :=
      .ofSupplies [.data [91], .refuse interrupted, .data [88, 89, 94], .data [95]]
    (∀ b, flip (flip b) = b) ∧ supplier.Steady ∧
      ∃ w, writing.writer sink = .ok w ∧
        (w.life ops .abandon).accepted = [91, 88, 89, 94, 95] ∧
        ∃ r, reading.reader supplier = .ok r ∧
          (r.readOut fun _ => ⟨[0, 0], by decide⟩).answer = ([1, 2, 3, 4, 5], .ok ()) := by
  intro flip c writing reading interrupted sink ops supplier
  have hflip : ∀ b, flip (flip b) = b := by
    intro b
    simp only [flip, UInt8.xor_assoc, UInt8.xor_self, UInt8.xor_zero]
  have hwriting : writing.availability.isAvailable = true := rfl
  have hreading : reading.availability.isAvailable = true := rfl
  have hsink : ∀ acceptance ∈ sink.writes, acceptance.Willing := by
    simp [sink, interrupted, Acceptance.Willing]
  have hsteady : supplier.Steady := by
    simp [supplier, interrupted, Source.ofSupplies, Source.Steady, Supply.Steady]
  obtain ⟨w, hw, -, -, hstream, hread⟩ :=
    readOut_written (BlockTransform.isBytewise_bytewise "xor" hflip) hwriting hreading hsink ops
      .abandon
  obtain ⟨r, hr, hanswer⟩ := hread supplier hsteady (by rw [hstream]; rfl)
  exact ⟨hflip, hsteady, w, hw, hstream, r, hr, hanswer _⟩

end Format

end Blockwise
