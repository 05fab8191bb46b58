import Mathlib
import Blockwise.Format
import Blockwise.Proofs.Exhaustion
import Blockwise.Proofs.Relay

/-!
# ReadBack — a stream read with the format that wrote it

The boundaries of the blocks are not in a stream. A reader asks its source for as much as one
encoded chunk can have, and takes what it gets for a block. So the stream is decoded block by block
if each serving of the source is one block, and not otherwise.

From a source that fills every read this is so if every block but the last is as large as a block can
be: then the stream, cut into pieces of that size, falls into its blocks.

## Results

* `pieces_flatten` — blocks that are full but for the last one are the pieces of their stream.
* `Writer.life_of_inverts` — what a stream consists of.
* `Format.readOut_of_accepts` — a reader takes each serving of its source for a block.
* `Format.readOut_of_stock` — a source that serves the blocks one by one is read back.
* `Format.readOut_fullBlocks` — a stream of full blocks is read back from a source that fills every
  read.
-/

namespace Blockwise

universe u

variable {σ : Type u} {c : BlockTransform σ}

/-! ## Full pieces -/

theorem of_pieces_eq_singleton {size : Nat} {block : Bytes} (h : pieces size block = [block]) :
    block ≠ [] ∧ block.length ≤ size := by
  have hmem : block ∈ pieces size block := by
    rw [h]
    exact List.mem_singleton_self block
  exact ⟨ne_nil_of_mem_pieces hmem, length_le_of_mem_pieces hmem⟩

/-- Blocks that are full but for the last one are the pieces of what they make up. -/
theorem pieces_flatten {size : Nat} (hs : 0 < size) {blocks : List Bytes}
    (hne : ∀ block ∈ blocks, block ≠ []) (hle : ∀ block ∈ blocks, block.length ≤ size)
    (hfull : ∀ block ∈ blocks.dropLast, block.length = size) :
    pieces size blocks.flatten = blocks := by
  induction blocks with
  | nil => exact pieces_nil size
  | cons block blocks ih =>
    obtain ⟨hblock, hblocks⟩ := List.forall_mem_cons.mp hne
    obtain ⟨hlength, hlengths⟩ := List.forall_mem_cons.mp hle
    by_cases hlast : blocks = []
    · rw [hlast, List.flatten_singleton]
      exact pieces_of_length_le hblock hlength
    · rw [List.dropLast_cons_of_ne_nil hlast] at hfull
      obtain ⟨hsize, hrest⟩ := List.forall_mem_cons.mp hfull
      -- the first block is full, so it is the first piece, and the rest begins after it
      have hflatten : block ++ blocks.flatten ≠ [] := by
        intro hnil
        exact hblock (List.append_eq_nil_iff.mp hnil).1
      rw [List.flatten_cons, pieces_of_ne_nil hs hflatten, List.take_left' hsize,
        List.drop_left' hsize, ih hblocks hlengths hrest]

/-- Of a stretch that is a multiple of the size, all pieces are full. -/
theorem length_of_mem_pieces_of_dvd {size : Nat} {bytes piece : Bytes}
    (hdvd : size ∣ bytes.length) (h : piece ∈ pieces size bytes) : piece.length = size := by
  fun_induction pieces size bytes with
  | case1 => cases h
  | case2 bytes hne ih =>
    obtain ⟨-, hbytes⟩ := not_or.mp hne
    have hle : size ≤ bytes.length := Nat.le_of_dvd (List.length_pos_iff.mpr hbytes) hdvd
    rcases List.mem_cons.mp h with rfl | h
    · rw [List.length_take]
      omega
    · refine ih ?_ h
      rw [List.length_drop]
      exact Nat.dvd_sub hdvd (dvd_refl size)

/-- Of any stretch, all pieces but the last one are full. -/
theorem length_of_mem_dropLast_pieces {size : Nat} {bytes piece : Bytes}
    (h : piece ∈ (pieces size bytes).dropLast) : piece.length = size := by
  fun_induction pieces size bytes with
  | case1 => cases h
  | case2 bytes hne ih =>
    by_cases hrest : pieces size (bytes.drop size) = []
    · rw [hrest] at h
      cases h
    · rw [List.dropLast_cons_of_ne_nil hrest] at h
      rcases List.mem_cons.mp h with rfl | h
      · -- something is left after the first piece
        have hdrop : bytes.drop size ≠ [] := by
          intro hnil
          rw [hnil] at hrest
          exact hrest (pieces_nil size)
        have hpos := List.length_pos_iff.mpr hdrop
        rw [List.length_drop] at hpos
        rw [List.length_take]
        omega
      · exact ih h

/-- If all inputs but the last one are multiples of the size, all pieces but the last one are
full. -/
theorem length_of_mem_dropLast_flatMap_pieces {size : Nat} {inputs : List Bytes} {piece : Bytes}
    (hdvd : ∀ input ∈ inputs.dropLast, size ∣ input.length)
    (h : piece ∈ (inputs.flatMap (pieces size)).dropLast) : piece.length = size := by
  induction inputs with
  | nil => cases h
  | cons input inputs ih =>
    rw [List.flatMap_cons] at h
    by_cases hlast : inputs = []
    · rw [hlast, List.flatMap_nil, List.append_nil] at h
      exact length_of_mem_dropLast_pieces h
    · rw [List.dropLast_cons_of_ne_nil hlast] at hdvd
      obtain ⟨hinput, hinputs⟩ := List.forall_mem_cons.mp hdvd
      by_cases hrest : inputs.flatMap (pieces size) = []
      · rw [hrest, List.append_nil] at h
        exact length_of_mem_dropLast_pieces h
      · rw [List.dropLast_append_of_ne_nil hrest] at h
        rcases List.mem_append.mp h with h | h
        · exact length_of_mem_pieces_of_dvd hinput h
        · exact ih hinputs h

/-! ## What is written -/

theorem of_mem_flatMap_pieces {size : Nat} {inputs : List Bytes} {piece : Bytes}
    (h : piece ∈ inputs.flatMap (pieces size)) : piece ≠ [] ∧ piece.length ≤ size := by
  obtain ⟨input, -, hpiece⟩ := List.mem_flatMap.mp h
  exact ⟨ne_nil_of_mem_pieces hpiece, length_le_of_mem_pieces hpiece⟩

namespace BlockTransform

/-- What a transform promises whose encodings are as long as their blocks: for blocks of at most
`size` bytes, it does not ask for more room than that either, whatever its state. -/
structure KeepsLength (c : BlockTransform σ) (size : Nat) : Prop where
  bound_le : ∀ state, c.bound state size ≤ size
  length_output : ∀ state room source, source ≠ [] → source.length ≤ size → room.size = size →
    (c.callOn .encode (state, room) source).output.length = source.length

/-- Where every byte is mapped by itself, no block changes its length. -/
theorem IsBytewise.keepsLength {f g : UInt8 → UInt8} (h : c.IsBytewise f g) (size : Nat) :
    c.KeepsLength size where
  bound_le state := (h.bound state size).le
  length_output state room source hne hle hroom := by
    rw [(h.encode state room source).output (hle.trans_eq hroom.symm), source_callOn,
      List.length_map]

theorem IsBytewise.inverts {f g : UInt8 → UInt8} (h : c.IsBytewise f g) (size : Nat) :
    c.Inverts size where
  bound_fixed state state' length := (h.bound state length).trans (h.bound state' length).symm
  bound_mono state m n hle := by rwa [h.bound, h.bound]
  encoded state room source hne hle hroom := by
    rw [h.bound] at hroom
    have hreported : (c.callOn .encode (state, room) source).reported = source.length := by
      rw [(h.encode state room source).reported]
      exact if_pos hroom
    rw [hreported]
    exact ⟨List.length_pos_iff.mpr hne, hroom⟩
  decoded state room source hne hle hroom state' room' hroom' := by
    rw [h.bound] at hroom
    have hblock : (c.callOn .encode (state, room) source).output = source.map f :=
      (h.encode state room source).output hroom
    have hinverse : g ∘ f = id := funext h.inverse
    have hmaps := h.decode state' room' (source.map f)
    have hfits : (source.map f).length ≤ room'.size := by rwa [List.length_map]
    rw [hblock]
    refine ⟨?_, ?_⟩
    · rw [hmaps.reported]
      exact (if_pos hfits).trans (List.length_map f)
    · rw [hmaps.output hfits, source_callOn, List.map_map, hinverse, List.map_id]

/-- If all inputs but the last one are multiples of the chunk, then all encodings but the last one
are as long as a chunk. -/
theorem KeepsLength.length_of_mem_dropLast {size : Nat} (h : c.KeepsLength size) {start : σ × Room}
    (hroom : start.2.size = size) {inputs : List Bytes}
    (hdvd : ∀ input ∈ inputs.dropLast, size ∣ input.length) :
    let calls := c.callsOn .encode start (inputs.flatMap (pieces size))
    ∀ block ∈ (calls.map BlockCall.output).dropLast, block.length = size := by
  intro calls block hmem
  rw [← List.map_dropLast] at hmem
  obtain ⟨call, hcall, rfl⟩ := List.mem_map.mp hmem
  -- the block of the call is one of the chunks before the last
  have hsource : call.source ∈ (inputs.flatMap (pieces size)).dropLast := by
    rw [← map_source_callsOn (c := c) (d := .encode) start (inputs.flatMap _), ← List.map_dropLast]
    exact List.mem_map_of_mem hcall
  obtain ⟨hne, hle⟩ := of_mem_flatMap_pieces (List.mem_of_mem_dropLast hsource)
  obtain ⟨state, room, hsize, heq⟩ := exists_of_mem_callsOn (List.mem_of_mem_dropLast hcall)
  rw [heq, h.length_output state room call.source hne hle (hsize.trans hroom)]
  exact length_of_mem_dropLast_flatMap_pieces hdvd hsource

/-- The output of each call of an encoder is a block that a decoder with chunks of the same size
stages at once, accepts, and decodes into what the call was on. -/
theorem Inverts.decodes_of_mem {size : Nat} (h : c.Inverts size) {asked : σ} {start : σ × Room}
    (hroom : start.2.size = max (c.bound asked size) size) {sources : List Bytes}
    (hsources : ∀ source ∈ sources, source ≠ [] ∧ source.length ≤ size) {call : BlockCall}
    (hcall : call ∈ c.callsOn .encode start sources) :
    pieces (max (c.bound asked size) size) call.output = [call.output] ∧
      c.Accepts .decode size call.output ∧
      ∀ state room, room.size = size →
        (c.callOn .decode (state, room) call.output).output = call.source := by
  have hsource : call.source ∈ sources := by
    rw [← map_source_callsOn (c := c) (d := .encode) start sources]
    exact List.mem_map_of_mem hcall
  obtain ⟨hne, hle⟩ := hsources call.source hsource
  obtain ⟨state, room, hsize, heq⟩ := exists_of_mem_callsOn hcall
  rw [heq]
  exact h.decodes hne hle (hsize.trans hroom) (Nat.le_refl size) asked

/-- If all blocks of an encoder but the last one are as large as they can be, then these are the
pieces of its stream. -/
theorem Inverts.pieces_flatten_outputs {size : Nat} (h : c.Inverts size) {asked : σ}
    (start : σ × Room) (hroom : start.2.size = max (c.bound asked size) size) {sources : List Bytes}
    (hsources : ∀ source ∈ sources, source ≠ [] ∧ source.length ≤ size) :
    let blocks := (c.callsOn .encode start sources).map BlockCall.output
    0 < size → (∀ block ∈ blocks.dropLast, block.length = max (c.bound asked size) size) →
      pieces (max (c.bound asked size) size) blocks.flatten = blocks := by
  intro blocks hpos hfull
  have hblock : ∀ block ∈ blocks, block ≠ [] ∧ block.length ≤ max (c.bound asked size) size := by
    intro block hmem
    obtain ⟨call, hcall, rfl⟩ := List.mem_map.mp hmem
    exact of_pieces_eq_singleton (h.decodes_of_mem hroom hsources hcall).1
  exact pieces_flatten (hpos.trans_le (Nat.le_max_right ..)) (fun block hmem => (hblock block hmem).1)
    (fun block hmem => (hblock block hmem).2) hfull

end BlockTransform

namespace Writer

/-- If every piece of the arguments is accepted, no call fails. -/
theorem run_succeeds_of_accepts {w : Writer c} (h : w.sink.Willing)
    (hidle : w.encoder.needsInput = true) {ops : List Op}
    (haccepts : ∀ argument ∈ ops.flatMap Op.fed,
      ∀ piece ∈ pieces w.encoder.engine.stageSize argument,
        c.Accepts .encode w.encoder.engine.start.2.size piece) :
    ∀ call ∈ (w.run ops).events.calls, call.failed = false := by
  induction ops using List.reverseRecOn with
  | nil => exact fun call hcall => by cases hcall
  | append_singleton ops op ih =>
    rw [List.flatMap_append, List.forall_mem_append] at haccepts
    obtain ⟨hearlier, hlast⟩ := haccepts
    -- the writer was at rest before the last operation, so that is relayed too
    obtain ⟨hrelays, hrest⟩ := relays_run h hidle (ih hearlier)
    obtain ⟨hop, -⟩ := relays_perform hrelays.willing hrest op
    have hall := hrelays.trans hop
    have hrun : (w.run (ops ++ [op])).events =
        (w.run ops).events ++ ((w.run ops).next.perform op).events := by
      rw [run_append, run, run]
      simp [Step.quiet]
    rw [hrun]
    refine (hall.balances hidle).succeeded_of_accepts hall.source_ne_nil ?_
    intro argument hargument
    rcases List.mem_append.mp hargument with hargument | hargument
    · exact hearlier argument hargument
    · exact hlast argument (by simpa using hargument)

/-- What a stream consists of, if the transform undoes the blocks it made and the sink takes
everything in the end: there is one call on each chunk of each argument, and the sink took what these
calls put out. -/
theorem life_of_inverts {settings : Settings} (hc : c.Inverts settings.chunkSize) (state : σ)
    {sink : Sink} (hsink : sink.Willing) (bufferSize : Nat) (ops : List Op) :
    let chunk := settings.chunkSize
    let w := withBufferSize sink (Encoder.new c state settings) bufferSize
    let stream := w.life ops .finish
    (w.run ops).next.finish.answer = .ok () ∧
      stream.calls = c.callsOn .encode (state, .zeroed (max (c.bound state chunk) chunk))
        ((ops.flatMap Op.fed).flatMap (pieces chunk)) ∧
      stream.accepted = stream.calls.flatMap BlockCall.output := by
  intro chunk w stream
  have hidle : w.encoder.needsInput = true := rfl
  have hsucceeded : ∀ call ∈ (w.run ops).events.calls, call.failed = false := by
    refine run_succeeds_of_accepts hsink hidle fun argument _ piece hpiece => ?_
    exact hc.accepts_encode state (ne_nil_of_mem_pieces hpiece) (length_le_of_mem_pieces hpiece)
  obtain ⟨hrelays, hrest⟩ := relays_run (w := w) hsink hidle hsucceeded
  obtain ⟨-, hfinish, hflush⟩ := part_of_idle hrelays.willing hrest
  have hbalances := hrelays.balances hidle
  -- the end of the stream adds nothing but a flush
  have hcalls : stream.calls = (w.run ops).events.calls := by
    show ((w.run ops).events ++ (w.run ops).next.part .finish).calls = _
    rw [hflush, Trace.calls_append]
    exact List.append_nil _
  have haccepted : stream.accepted = (w.run ops).events.accepted := by
    show ((w.run ops).events ++ (w.run ops).next.part .finish).accepted = _
    rw [hflush, Trace.accepted_append]
    exact List.append_nil _
  have hsources := hbalances.sources_of_idle hrest hrelays.source_ne_nil
  refine ⟨hfinish, ?_, ?_⟩
  · have hall := hbalances.calls
    rw [hsources] at hall
    exact hcalls.trans hall
  · rw [hcalls, haccepted]
    exact hbalances.returned_of_idle hrest

end Writer

/-! ## What is read -/

namespace Format

theorem writer_of_isAvailable {f : Format c} (h : f.availability.isAvailable = true) (sink : Sink) :
    f.writer sink =
      .ok (.withBufferSize sink (.new c f.initial f.settings) f.settings.chunkSize) := by
  rw [writer, encoder, Availability.guarded_of_require (Availability.require_eq_ok_iff.mpr h)]
  rfl

theorem reader_of_isAvailable {f : Format c} (h : f.availability.isAvailable = true)
    (source : Source) :
    f.reader source = .ok (.withBufferSize source (.new c f.initial f.settings) f.readSize) := by
  rw [reader, decoder, Availability.guarded_of_require (Availability.require_eq_ok_iff.mpr h)]
  rfl

/-- The readers of a format are those over a new decoder that ask for as much as an encoded chunk can
have. -/
theorem eq_of_reader_eq_ok {f : Format c} {source : Source} {r : Reader c}
    (h : f.reader source = .ok r) :
    r = .withBufferSize source (.new c f.initial f.settings) f.readSize := by
  obtain ⟨decoder, hdecoder, rfl⟩ := exists_eq_ok_of_map h
  unfold Format.decoder Availability.guarded at hdecoder
  split at hdecoder
  · cases hdecoder
    rfl
  · cases hdecoder

theorem bufferSize_eq_readSize (f : Format c) : transferSize f.readSize = f.readSize := by
  have hpos := f.settings.chunkSize_pos
  have hle : f.settings.chunkSize ≤ f.readSize := Nat.le_max_right ..
  rw [transferSize]
  omega

/-- A decoder stages as much as its reader asks for, so each serving is a block of its own. -/
theorem flatMap_pieces_stock (f : Format c) (supplier : Source) :
    (supplier.stock f.readSize).flatMap (pieces f.readSize) = supplier.stock f.readSize := by
  refine flatMap_pieces_eq_self fun serving hserving => ?_
  obtain ⟨hne, hle⟩ := Source.of_mem_stock hserving
  exact pieces_of_length_le hne hle

variable {f : Format c} {supplier : Source} {r : Reader c}

theorem steady_of_reader_eq_ok (hr : f.reader supplier = .ok r) (h : supplier.Steady) :
    r.Steady ∧ r.stock = supplier.stock f.readSize := by
  rw [eq_of_reader_eq_ok hr]
  refine ⟨⟨h, fun hend => by cases hend⟩, ?_⟩
  show supplier.stock (transferSize f.readSize) = _
  rw [bufferSize_eq_readSize]

/-- Whatever the calls answer, they are on the servings, as far as they go. -/
theorem sources_readOut_prefix_stock (hr : f.reader supplier = .ok r) (h : supplier.Steady)
    (outs : Reader.Buffers) :
    (r.readOut outs).events.calls.map BlockCall.source <+: supplier.stock f.readSize := by
  obtain ⟨hsteady, hstock⟩ := steady_of_reader_eq_ok hr h
  cases eq_of_reader_eq_ok hr
  have hstaged := Reader.sources_readOut_prefix hsteady rfl outs
  rw [hstock] at hstaged
  rw [← f.flatMap_pieces_stock supplier]
  exact hstaged

/-- If the decoder accepts every serving of a steady source, then there is one call on each, and
reading to the end brings what these put out. -/
theorem readOut_of_accepts (hr : f.reader supplier = .ok r) (h : supplier.Steady)
    (haccepts : ∀ serving ∈ supplier.stock f.readSize,
      c.Accepts .decode f.settings.chunkSize serving) (outs : Reader.Buffers) :
    let ran := r.readOut outs
    ran.events.servings = supplier.stock f.readSize ∧
      ran.events.calls = c.callsOn .decode (f.initial, .zeroed f.settings.chunkSize)
        (supplier.stock f.readSize) ∧
      ran.answer = (ran.events.calls.flatMap BlockCall.output, .ok ()) := by
  obtain ⟨hsteady, hstock⟩ := steady_of_reader_eq_ok hr h
  cases eq_of_reader_eq_ok hr
  have hpieces : ∀ serving ∈ supplier.stock f.readSize, ∀ piece ∈ pieces f.readSize serving,
      c.Accepts .decode f.settings.chunkSize piece := by
    intro serving hserving piece hpiece
    obtain ⟨hne, hle⟩ := Source.of_mem_stock hserving
    rw [pieces_of_length_le hne hle] at hpiece
    rw [List.mem_singleton.mp hpiece]
    exact haccepts serving hserving
  rw [← hstock] at hpieces
  have hread := Reader.readOut_of_accepts hsteady rfl hpieces outs
  rw [hstock] at hread
  obtain ⟨hservings, hcalls, hanswer⟩ := hread
  have hblocks := f.flatMap_pieces_stock supplier
  exact ⟨hservings, hcalls.trans (congrArg _ hblocks), hanswer⟩

/-- A source that serves the blocks of a stream one by one is read back: the decoder makes one call
on each of them, and the reads bring what they were made from. -/
theorem readOut_of_stock (hr : f.reader supplier = .ok r) (h : supplier.Steady)
    (hc : c.Inverts f.settings.chunkSize) {sources : List Bytes}
    (hsources : ∀ source ∈ sources, source ≠ [] ∧ source.length ≤ f.settings.chunkSize)
    {calls : List BlockCall}
    (hcalls : calls = c.callsOn .encode (f.initial, .zeroed f.readSize) sources)
    (hstock : supplier.stock f.readSize = calls.map BlockCall.output) (outs : Reader.Buffers) :
    let ran := r.readOut outs
    ran.answer = (sources.flatten, .ok ()) ∧
      ran.events.servings = calls.map BlockCall.output ∧
      ran.events.calls.map BlockCall.source = calls.map BlockCall.output := by
  intro ran
  have hblock : ∀ call ∈ calls, c.Accepts .decode f.settings.chunkSize call.output ∧
      ∀ state room, room.size = f.settings.chunkSize →
        (c.callOn .decode (state, room) call.output).output = call.source := by
    intro call hcall
    rw [hcalls] at hcall
    exact (hc.decodes_of_mem rfl hsources hcall).2
  have haccepts : ∀ serving ∈ supplier.stock f.readSize,
      c.Accepts .decode f.settings.chunkSize serving := by
    intro serving hserving
    rw [hstock] at hserving
    obtain ⟨call, hcall, rfl⟩ := List.mem_map.mp hserving
    exact (hblock call hcall).1
  obtain ⟨hservings, hmade, hanswer⟩ := readOut_of_accepts hr h haccepts outs
  rw [hstock] at hservings hmade
  -- each call gives back what its block was made from
  have hback : ran.events.calls.map BlockCall.output = sources := by
    rw [hmade, map_output_callsOn _ fun call hcall => (hblock call hcall).2, hcalls,
      BlockTransform.map_source_callsOn]
  refine ⟨?_, hservings, ?_⟩
  · rw [hanswer, List.flatMap_def, hback]
  · rw [hmade, BlockTransform.map_source_callsOn]

/-- Data that is handed out as it comes is a steady source, and each stretch of it is cut on its
own. -/
theorem steady_ofSupplies (cuts : List Bytes) : (Source.ofSupplies (cuts.map .data)).Steady := by
  intro supply hsupply
  obtain ⟨cut, -, rfl⟩ := List.mem_map.mp hsupply
  trivial

theorem stock_ofSupplies (size : Nat) (cuts : List Bytes) :
    (Source.ofSupplies (cuts.map .data)).stock size = cuts.flatMap (pieces size) := by
  rw [Source.stock, Source.ofSupplies, pieces_nil, List.nil_append, List.flatMap_map]
  rfl

/-- **Full blocks are read back.** Take a transform that undoes the blocks it made, any settings, a
sink that takes everything in the end, and any operations on a writer that is then finished. The
stream is made of the outputs of its calls, its blocks.

If all of them but the last one are as large as an encoded chunk can be, then a reader whose source
has just the stream, and fills every read of it, is served one block at a time. There is one call on
each, and whatever the buffers, reading to the end brings what was written.

So it is if there is only one block; and if the encodings are as long as their blocks and all
arguments but the last one are multiples of the chunk. -/
theorem readOut_fullBlocks {f : Format c} (havailable : f.availability.isAvailable = true)
    (hc : c.Inverts f.settings.chunkSize) {sink : Sink} (hsink : sink.Willing)
    (ops : List Writer.Op) :
    let chunk := f.settings.chunkSize
    let arguments := ops.flatMap Writer.Op.fed
    ∃ w, f.writer sink = .ok w ∧ (w.run ops).next.finish.answer = .ok () ∧
      let stream := w.life ops .finish
      let blocks := stream.calls.map BlockCall.output
      stream.accepted = blocks.flatten ∧
        ((∀ block ∈ blocks.dropLast, block.length = f.readSize) →
          ∃ r, f.reader (.ofSupplies [.data stream.accepted]) = .ok r ∧ ∀ outs,
            let ran := r.readOut outs
            ran.answer = (arguments.flatten, .ok ()) ∧ ran.events.servings = blocks ∧
              ran.events.calls.map BlockCall.source = blocks) ∧
        (blocks.length ≤ 1 ∨ c.KeepsLength chunk ∧
              (∀ argument ∈ arguments.dropLast, chunk ∣ argument.length) →
            ∀ block ∈ blocks.dropLast, block.length = f.readSize) := by
  intro chunk arguments
  refine ⟨_, f.writer_of_isAvailable havailable sink, ?_⟩
  obtain ⟨hfinish, hcalls, haccepted⟩ := Writer.life_of_inverts hc f.initial hsink chunk ops
  refine ⟨hfinish, ?_⟩
  intro stream blocks
  have hcalls : stream.calls =
      c.callsOn .encode (f.initial, .zeroed f.readSize) (arguments.flatMap (pieces chunk)) := hcalls
  have hblocks : blocks = (c.callsOn .encode (f.initial, .zeroed f.readSize)
      (arguments.flatMap (pieces chunk))).map BlockCall.output := congrArg _ hcalls
  have hstream : stream.accepted = blocks.flatten := by
    rw [← List.flatMap_def]
    exact haccepted
  have hsources : ∀ source ∈ arguments.flatMap (pieces chunk),
      source ≠ [] ∧ source.length ≤ chunk := fun source => of_mem_flatMap_pieces
  refine ⟨hstream, ?_, ?_⟩
  · intro hfull
    -- what the source serves are the blocks
    have hstock : (Source.ofSupplies [.data stream.accepted]).stock f.readSize = blocks := by
      have hall := hc.pieces_flatten_outputs (f.initial, .zeroed f.readSize) rfl hsources
        f.settings.chunkSize_pos
      rw [← hblocks] at hall
      have hcut := stock_ofSupplies f.readSize [stream.accepted]
      rw [List.flatMap_singleton, hstream, show pieces f.readSize blocks.flatten = blocks from
        hall hfull] at hcut
      rw [hstream]
      exact hcut
    have hr := reader_of_isAvailable havailable (.ofSupplies [.data stream.accepted])
    refine ⟨_, hr, fun outs => ?_⟩
    have hread := readOut_of_stock hr (steady_ofSupplies [stream.accepted]) hc hsources hcalls
      hstock outs
    rwa [flatten_flatMap_pieces f.settings.chunkSize_pos] at hread
  · rintro (hone | ⟨hkeeps, hdvd⟩) block hmem
    · -- a list of one has nothing before its last
      have hlength := List.length_pos_of_mem hmem
      rw [List.length_dropLast] at hlength
      omega
    · have hreadSize : f.readSize = chunk := Nat.max_eq_right (hkeeps.bound_le f.initial)
      rw [hreadSize]
      rw [hblocks] at hmem
      exact hkeeps.length_of_mem_dropLast hreadSize hdvd block hmem

/-- Three blocks behind marks, of which the first two are full, read back a byte at a time. Stored, the
same arguments give full blocks as well, as all of them but the last one are multiples of the
chunk. -/
theorem readOut_marked :
    let f : Format (.marked 42) := ⟨(), .stored, ⟨4, by decide, by decide⟩⟩
    let plain : Format .stored := ⟨(), .stored, ⟨4, by decide, by decide⟩⟩
    let sink : Sink := ⟨[.upTo 1, .refuse ⟨.interrupted, "try again"⟩], []⟩
    let ops : List Writer.Op :=
      [.write [1, 2, 3, 4, 5, 6, 7, 8], .write [], .flush, .writeAll [9]]
    (f.availability.isAvailable = true ∧ (BlockTransform.marked 42).Inverts 4 ∧ sink.Willing) ∧
      (∃ w, f.writer sink = .ok w ∧
        let stream := w.life ops .finish
        stream.accepted = [42, 1, 2, 3, 4, 42, 5, 6, 7, 8, 42, 9] ∧
          ∃ r, f.reader (.ofSupplies [.data stream.accepted]) = .ok r ∧
            let ran := r.readOut fun _ => ⟨[0], by decide⟩
            ran.answer = ([1, 2, 3, 4, 5, 6, 7, 8, 9], .ok ()) ∧
              ran.events.servings = [[42, 1, 2, 3, 4], [42, 5, 6, 7, 8], [42, 9]]) ∧
      ∃ w, plain.writer sink = .ok w ∧
        ∀ block ∈ ((w.life ops .finish).calls.map BlockCall.output).dropLast, block.length = 4 := by
  intro f plain sink ops
  have havailable : f.availability.isAvailable = true := by decide
  have hinverts : (BlockTransform.marked 42).Inverts 4 := BlockTransform.inverts_marked 42 4
  have hsink : sink.Willing := by
    constructor
    · simp [sink, Acceptance.Willing]
    · simp [sink]
  refine ⟨⟨havailable, hinverts, hsink⟩, ?_, ?_⟩
  · obtain ⟨w, hw, -, hstream, hread, -⟩ := readOut_fullBlocks havailable hinverts hsink ops
    have hblocks : (w.life ops .finish).calls.map BlockCall.output =
        [[42, 1, 2, 3, 4], [42, 5, 6, 7, 8], [42, 9]] := by
      rw [f.writer_of_isAvailable havailable sink] at hw
      cases hw
      simp only [f, sink, ops]
      cbv
    rw [hblocks] at hread hstream
    obtain ⟨r, hr, hran⟩ := hread (by decide)
    obtain ⟨hanswer, hservings, -⟩ := hran fun _ => ⟨[0], by decide⟩
    exact ⟨w, hw, hstream, r, hr, hanswer, hservings⟩
  · have hstored := BlockTransform.isBytewise_stored
    have hdvd : ∀ argument ∈ (ops.flatMap Writer.Op.fed).dropLast, 4 ∣ argument.length := by
      simp only [ops]
      decide
    obtain ⟨w, hw, -, -, -, hfull⟩ :=
      readOut_fullBlocks (f := plain) rfl (hstored.inverts 4) hsink ops
    exact ⟨w, hw, hfull (.inr ⟨hstored.keepsLength 4, hdvd⟩)⟩

end Format

end Blockwise
