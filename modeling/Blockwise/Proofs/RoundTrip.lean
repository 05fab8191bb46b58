import Blockwise.Proofs.Drive
import Blockwise.Proofs.Encoding

/-!
# RoundTrip — encode, decode, and the bytes are back

A stream is encoded by one drive and decoded by another. Two promises of a transform suffice for
the bytes to come back, and they ask for different handling of what lies in between:

* **Block by block.** The transform undoes each block that it made (`Inverts`). The boundaries of
  the blocks are not in the stream, so the decoder has to be fed one block at a time. Then it never
  splits one: what it stages at once is the largest encoding of its own chunk size, which is no
  less than that of the encoder's if its chunks are no smaller.
* **Byte by byte.** The transform maps each byte by itself (`IsBytewise`). Then the boundaries mean
  nothing, and the encoded stream may be cut anew wherever one likes.

Neither side knows how the other one was driven, nor in which state the transform of the other was.

## Results

* `drive_blocks_roundTrip` — the blocks of an encoder, fed one by one to a decoder whose chunks are
  no smaller, come back as the data, with one call on each.
* `drive_bytes_roundTrip` — the output of a byte-wise encoder, cut anew in any way and fed to any
  decoder, comes back as the data.
-/

namespace Blockwise

universe u

variable {σ : Type u} {c : BlockTransform σ} {d : Direction}

/-! ## Lists of calls -/

/-- A stretch that fits into one piece is one piece. -/
theorem pieces_of_length_le {size : Nat} {bytes : Bytes} (hne : bytes ≠ [])
    (hle : bytes.length ≤ size) : pieces size bytes = [bytes] := by
  have hpos : 0 < bytes.length := List.length_pos_iff.mpr hne
  rw [pieces_of_ne_nil (by omega) hne, List.take_of_length_le hle, List.drop_of_length_le hle,
    pieces_nil]

/-- Blocks that are one piece each are their own pieces. -/
theorem flatMap_pieces_eq_self {size : Nat} {blocks : List Bytes}
    (h : ∀ block ∈ blocks, pieces size block = [block]) :
    blocks.flatMap (pieces size) = blocks := by
  rw [List.flatMap_congr h]
  exact List.flatMap_singleton' blocks

/-- If the result of each block is known whatever the state and the room, so are the outputs of
consecutive calls. -/
theorem map_output_callsOn {α : Type} {block result : α → Bytes} (start : σ × Room) {xs : List α}
    (h : ∀ x ∈ xs, ∀ state room, room.size = start.2.size →
      (c.callOn d (state, room) (block x)).output = result x) :
    (c.callsOn d start (xs.map block)).map BlockCall.output = xs.map result := by
  induction xs generalizing start with
  | nil => rfl
  | cons x xs ih =>
    -- the room that the first call leaves has the same size, so the rest is known as well
    have hfirst := h x (List.mem_cons_self ..) start.1 start.2 rfl
    have hrest := ih (c.leave d start (block x)) fun y hy state room hsize =>
      h y (List.mem_cons_of_mem _ hy) state room (hsize.trans (BlockTransform.size_leave ..))
    rw [List.map_cons, List.map_cons, BlockTransform.callsOn, List.map_cons, hrest, ← hfirst]

/-! ## Block by block -/

/-- What a transform promises that undoes the blocks it made of at most `size` bytes. In every
state, and with every room that its bound asks for, it encodes such a block into something that is
not empty and not larger than the room; and this it decodes, in every state and with every room that
can hold the block, into the block. There is one bound for all states, and it asks for no less for a
larger block. -/
structure BlockTransform.Inverts (c : BlockTransform σ) (size : Nat) : Prop where
  bound_fixed : c.HasFixedBound
  bound_mono : ∀ state, Monotone (c.bound state)
  encoded : ∀ state room source, source ≠ [] → source.length ≤ size →
    c.bound state source.length ≤ room.size →
    0 < (c.callOn .encode (state, room) source).reported ∧
      (c.callOn .encode (state, room) source).reported ≤ room.size
  decoded : ∀ state room source, source ≠ [] → source.length ≤ size →
    c.bound state source.length ≤ room.size → ∀ state' room', source.length ≤ room'.size →
    let block := (c.callOn .encode (state, room) source).output
    (c.callOn .decode (state', room') block).reported = source.length ∧
      (c.callOn .decode (state', room') block).output = source

namespace BlockTransform.Inverts

variable {size : Nat}

/-- What is asked for in one state suffices in every other, for all blocks that are no larger. -/
theorem bound_le (h : c.Inverts size) (state asked : σ) {length length' : Nat}
    (hle : length ≤ length') : c.bound state length ≤ c.bound asked length' := by
  rw [h.bound_fixed state asked]
  exact h.bound_mono asked hle

/-- The room of an encoder with chunks of the size suffices for every block. -/
theorem bound_le_room (h : c.Inverts size) (state asked : σ) {source : Bytes}
    (hle : source.length ≤ size) : c.bound state source.length ≤ max (c.bound asked size) size :=
  (h.bound_le state asked hle).trans (Nat.le_max_left ..)

theorem accepts_encode (h : c.Inverts size) (asked : σ) {source : Bytes} (hne : source ≠ [])
    (hle : source.length ≤ size) :
    c.Accepts .encode (max (c.bound asked size) size) source := by
  intro state room hroom
  have hbound : c.bound state source.length ≤ room.size := hroom ▸ h.bound_le_room state asked hle
  obtain ⟨hpos, hreported⟩ := h.encoded state room source hne hle hbound
  exact BlockCall.failed_eq_false_iff.mpr ⟨fun _ => hpos, hreported⟩

/-- The output of a call of an encoder is a block that a decoder with chunks no smaller stages at
once and decodes into what the call was on. -/
theorem decodes (h : c.Inverts size) {asked state : σ} {room : Room} {source : Bytes} {size' : Nat}
    (hne : source ≠ []) (hle : source.length ≤ size)
    (hroom : room.size = max (c.bound asked size) size) (hsize : size ≤ size') (asked' : σ) :
    let block := (c.callOn .encode (state, room) source).output
    pieces (max (c.bound asked' size') size') block = [block] ∧ c.Accepts .decode size' block ∧
      ∀ state' room', room'.size = size' →
        (c.callOn .decode (state', room') block).output = source := by
  intro block
  have hbound : c.bound state source.length ≤ room.size := hroom ▸ h.bound_le_room state asked hle
  -- how large the block is, and what decoding it gives
  obtain ⟨hpos, hreported⟩ := h.encoded state room source hne hle hbound
  have hsucceeded : (c.callOn .encode (state, room) source).failed = false :=
    h.accepts_encode asked hne hle state room hroom
  have hlength : block.length = (c.callOn .encode (state, room) source).reported :=
    length_output_callOn hsucceeded
  have hdecoded : ∀ state' room', room'.size = size' →
      (c.callOn .decode (state', room') block).reported = source.length ∧
        (c.callOn .decode (state', room') block).output = source :=
    fun state' room' hroom' =>
      h.decoded state room source hne hle hbound state' room' (by omega)
  refine ⟨?_, ?_, fun state' room' hroom' => (hdecoded state' room' hroom').2⟩
  · -- both buffers are sized by the same bound, which is monotone
    have hmono : c.bound asked size ≤ c.bound asked' size' := h.bound_le asked asked' hsize
    refine pieces_of_length_le ?_ (by omega)
    rw [← List.length_pos_iff]
    omega
  · intro state' room' hroom'
    have hsource : 0 < source.length := List.length_pos_iff.mpr hne
    obtain ⟨hreported', -⟩ := hdecoded state' room' hroom'
    rw [BlockCall.failed_eq_false_iff, hreported', BlockTransform.capacity_callOn]
    exact ⟨fun _ => hsource, hle.trans (hsize.trans hroom'.ge)⟩

end BlockTransform.Inverts

/-- **Blocks come back.** Take a transform that undoes the blocks it made of at most one chunk of
the encoder, and a decoder whose chunks are no smaller. However the data was cut into inputs, and
however both sides are driven, neither fails. Fed one block at a time, the decoder makes one call on
each and hands out the data. -/
theorem drive_blocks_roundTrip {encoding decoding : Settings} (hc : c.Inverts encoding.chunkSize)
    (hsize : encoding.chunkSize ≤ decoding.chunkSize) (state state' : σ) (inputs : List Bytes)
    (turns turns' : Turns) :
    ∃ s, drive (Encoder.new c state encoding) inputs turns = .ok s ∧
      let blocks := s.calls.map BlockCall.output
      s.returned = blocks.flatten ∧
        ∃ t, drive (Decoder.new c state' decoding) blocks turns' = .ok t ∧
          t.sources = blocks ∧ t.returned = inputs.flatten := by
  -- the encoder accepts every piece
  have hencodes : ∃ s, drive (Encoder.new c state encoding) inputs turns = .ok s ∧
      Driven (Encoder.new c state encoding) inputs s := by
    refine exists_drive_eq_ok rfl turns fun input hinput piece hpiece => ?_
    exact hc.accepts_encode state (ne_nil_of_mem_pieces hpiece) (length_le_of_mem_pieces hpiece)
  obtain ⟨s, hs, hencoded⟩ := hencodes
  have hsources : s.sources = inputs.flatMap (pieces encoding.chunkSize) := hencoded.sources
  -- each block is one piece to the decoder, is accepted and gives back what the call was on
  have hblock : ∀ call ∈ s.calls,
      pieces (max (c.bound state' decoding.chunkSize) decoding.chunkSize) call.output =
          [call.output] ∧
        c.Accepts .decode decoding.chunkSize call.output ∧
        ∀ state room, room.size = decoding.chunkSize →
          (c.callOn .decode (state, room) call.output).output = call.source := by
    intro call hcall
    have hsource : call.source ∈ s.sources := List.mem_map_of_mem hcall
    rw [hsources] at hsource
    obtain ⟨input, -, hpiece⟩ := List.mem_flatMap.mp hsource
    rw [hencoded.calls] at hcall
    obtain ⟨state₁, room₁, hroom, heq⟩ := BlockTransform.exists_of_mem_callsOn hcall
    rw [heq]
    exact hc.decodes (ne_nil_of_mem_pieces hpiece) (length_le_of_mem_pieces hpiece) hroom hsize
      state'
  have hdecodes : ∃ t,
      drive (Decoder.new c state' decoding) (s.calls.map BlockCall.output) turns' = .ok t ∧
        Driven (Decoder.new c state' decoding) (s.calls.map BlockCall.output) t := by
    refine exists_drive_eq_ok rfl turns' fun block hmem piece hpiece => ?_
    obtain ⟨call, hcall, rfl⟩ := List.mem_map.mp hmem
    obtain ⟨hone, haccepts, -⟩ := hblock call hcall
    have hpiece : piece ∈ [call.output] := hone ▸ hpiece
    rw [List.mem_singleton.mp hpiece]
    exact haccepts
  obtain ⟨t, ht, hdecoded⟩ := hdecodes
  -- so the blocks of the decoder are those of the encoder, and its outputs their sources
  have hone : t.sources = s.calls.map BlockCall.output := by
    refine hdecoded.sources.trans (flatMap_pieces_eq_self fun block hmem => ?_)
    obtain ⟨call, hcall, rfl⟩ := List.mem_map.mp hmem
    exact (hblock call hcall).1
  have hback : t.calls.map BlockCall.output = s.sources := by
    rw [hdecoded.calls, hone]
    exact map_output_callsOn _ fun call hcall => (hblock call hcall).2.2
  refine ⟨s, hs, ?_, t, ht, hone, ?_⟩
  · rw [hencoded.returned, List.flatMap_def]
  · rw [hdecoded.returned, List.flatMap_def, hback, hsources,
      flatten_flatMap_pieces encoding.chunkSize_pos]

namespace BlockTransform

/-- A transform that puts a mark before every block. -/
def marked (mark : UInt8) : BlockTransform Unit where
  name := "marked"
  bound _ := (· + 1)
  encode state room block := .whole state room (mark :: block)
  decode state room block := .whole state room block.tail

theorem encode_marked {mark : UInt8} {room : Room} {source : Bytes}
    (hroom : (mark :: source).length ≤ room.size) :
    ((marked mark).callOn .encode ((), room) source).reported = (mark :: source).length ∧
      ((marked mark).callOn .encode ((), room) source).output = mark :: source :=
  callOn_of_apply_eq_whole rfl hroom

/-- Taking the mark off undoes putting it on. -/
theorem inverts_marked (mark : UInt8) (size : Nat) : (marked mark).Inverts size where
  bound_fixed _ _ _ := rfl
  bound_mono _ _ _ h := Nat.succ_le_succ h
  encoded state room source hne hle hroom := by
    rw [(encode_marked hroom).1]
    exact ⟨Nat.succ_pos _, hroom⟩
  decoded state room source hne hle hroom state' room' hroom' := by
    rw [(encode_marked hroom).2]
    exact callOn_of_apply_eq_whole (c := marked mark) (d := .decode) rfl hroom'

end BlockTransform

/-- Full and short chunks behind marks, through a decoder with larger chunks. -/
theorem drive_marked_roundTrip :
    let turns : Turns := fun _ => ⟨[0, 0, 0, 0], 1, 3, by decide, by decide, true⟩
    (BlockTransform.marked 42).Inverts 4 ∧ 4 ≤ 6 ∧
      ∃ s, drive (Encoder.new (.marked 42) () ⟨4, by decide, by decide⟩)
          [[1, 2, 3, 4, 5], [], [6]] turns = .ok s ∧
        let blocks := s.calls.map BlockCall.output
        s.returned = blocks.flatten ∧
          ∃ t, drive (Decoder.new (.marked 42) () ⟨6, by decide, by decide⟩) blocks turns = .ok t ∧
            t.sources = blocks ∧ t.returned = [1, 2, 3, 4, 5, 6] := by
  intro turns
  have hinverts : (BlockTransform.marked 42).Inverts 4 := BlockTransform.inverts_marked 42 4
  exact ⟨hinverts, by decide,
    drive_blocks_roundTrip hinverts (by decide) () () [[1, 2, 3, 4, 5], [], [6]] turns turns⟩

/-! ## Byte by byte -/

/-- The call maps every byte of its block by the function, if there is room for them, and otherwise
fails. -/
structure BlockCall.Maps (call : BlockCall) (f : UInt8 → UInt8) : Prop where
  reported :
    call.reported = if call.source.length ≤ call.capacity then call.source.length else 0
  output : call.source.length ≤ call.capacity → call.output = call.source.map f

/-- A transform that maps every byte by itself, by `f` to encode and by `g` to decode, in every
state; and `g` undoes `f`. -/
structure BlockTransform.IsBytewise (c : BlockTransform σ) (f g : UInt8 → UInt8) : Prop where
  bound : ∀ state size, c.bound state size = size
  encode : ∀ state room block, (c.callOn .encode (state, room) block).Maps f
  decode : ∀ state room block, (c.callOn .decode (state, room) block).Maps g
  inverse : ∀ b, g (f b) = b

namespace BlockTransform

theorem maps_of_apply_eq_whole {f : UInt8 → UInt8} {state state' : σ} {room : Room}
    {source : Bytes} (happly : c.apply d state room source = .whole state' room (source.map f)) :
    (c.callOn d (state, room) source).Maps f := by
  constructor
  · by_cases hfits : source.length ≤ room.size
    · simp [callOn, happly, Filling.whole, hfits]
    · simp [callOn, happly, Filling.whole, hfits]
  · intro hfits
    exact (callOn_of_apply_eq_whole happly (by simpa using hfits)).2

theorem isBytewise_bytewise (name : String) {f g : UInt8 → UInt8} (h : ∀ b, g (f b) = b) :
    (bytewise name f g).IsBytewise f g where
  bound _ _ := rfl
  encode _ _ _ := maps_of_apply_eq_whole rfl
  decode _ _ _ := maps_of_apply_eq_whole rfl
  inverse := h

theorem isBytewise_stored : stored.IsBytewise id id where
  bound _ _ := rfl
  encode _ _ _ := maps_of_apply_eq_whole rfl
  decode _ _ _ := maps_of_apply_eq_whole rfl
  inverse _ := rfl

end BlockTransform

namespace BlockTransform

/-- Blocks that fit into the room are accepted. -/
theorem accepts_of_maps {f : UInt8 → UInt8}
    (hmaps : ∀ state room block, (c.callOn d (state, room) block).Maps f) {size : Nat}
    {block : Bytes} (hne : block ≠ []) (hle : block.length ≤ size) : c.Accepts d size block := by
  intro state room hroom
  have hfits : block.length ≤ room.size := hle.trans_eq hroom.symm
  have hreported : (c.callOn d (state, room) block).reported = block.length := by
    simpa [hfits] using (hmaps state room block).reported
  rw [BlockCall.failed_eq_false_iff, hreported, capacity_callOn]
  exact ⟨fun _ => List.length_pos_iff.mpr hne, hfits⟩

/-- The outputs, put together, are the blocks mapped. -/
theorem flatMap_output_callsOn_of_maps {f : UInt8 → UInt8}
    (hmaps : ∀ state room block, (c.callOn d (state, room) block).Maps f) (start : σ × Room)
    {blocks : List Bytes} (hle : ∀ block ∈ blocks, block.length ≤ start.2.size) :
    (c.callsOn d start blocks).flatMap BlockCall.output = blocks.flatten.map f := by
  have hresult : ∀ block ∈ blocks, ∀ state room, room.size = start.2.size →
      (c.callOn d (state, room) (id block)).output = block.map f := by
    intro block hmem state room hsize
    exact (hmaps state room block).output ((hle block hmem).trans_eq hsize.symm)
  have hall := map_output_callsOn start hresult
  rw [List.map_id] at hall
  rw [List.flatMap_def, hall, List.map_flatten]

end BlockTransform

/-- A coder whose calls map every byte, with room for all that it stages, maps its input byte by
byte, however that was cut. -/
theorem exists_drive_eq_ok_of_maps {S : Type u} [Coder S c d] (coder : S) {f : UInt8 → UInt8}
    (hmaps : ∀ state room block, (c.callOn d (state, room) block).Maps f)
    (hidle : (Coder.engine coder).isIdle = true)
    (hroom : (Coder.engine coder).stageSize ≤ (Coder.engine coder).start.2.size)
    (inputs : List Bytes) (turns : Turns) :
    ∃ t, drive coder inputs turns = .ok t ∧ Driven coder inputs t ∧
      t.returned = inputs.flatten.map f := by
  -- every piece fits into the room
  have hfits : ∀ input, ∀ piece ∈ pieces (Coder.engine coder).stageSize input,
      piece.length ≤ (Coder.engine coder).start.2.size :=
    fun input piece hmem => (length_le_of_mem_pieces hmem).trans hroom
  have hdrive : ∃ t, drive coder inputs turns = .ok t ∧ Driven coder inputs t :=
    exists_drive_eq_ok hidle turns fun input _ piece hmem =>
      BlockTransform.accepts_of_maps hmaps (ne_nil_of_mem_pieces hmem) (hfits input piece hmem)
  obtain ⟨t, ht, hdriven⟩ := hdrive
  refine ⟨t, ht, hdriven, ?_⟩
  have hsources : ∀ source ∈ t.sources, source.length ≤ (Coder.engine coder).start.2.size := by
    intro source hmem
    rw [hdriven.sources] at hmem
    obtain ⟨input, -, hmem⟩ := List.mem_flatMap.mp hmem
    exact hfits input source hmem
  rw [hdriven.returned, hdriven.calls,
    BlockTransform.flatMap_output_callsOn_of_maps hmaps _ hsources, hdriven.sources,
    flatten_flatMap_pieces (Coder.engine coder).stageSize_pos]

/-- The counters at the end of a drive: everything went in, and everything that came out was handed
out. -/
theorem counts_of_driven {state : σ} {settings : Settings} {inputs : List Bytes}
    {s : Session (Encoder c)} (h : Driven (Encoder.new c state settings) inputs s) :
    s.coder.consumed = inputs.flatten.length ∧ s.coder.produced = s.returned.length := by
  -- a drive is a run, and the counters of a run agree with its ledger
  obtain ⟨ops, hrun⟩ := h.run
  have hcounts : Encoder.Counts s := hrun ▸ Encoder.counts_run state settings ops
  constructor
  · have hintake : s.calls.map BlockCall.intake = s.sources.map List.length := by
      rw [Ledger.sources, List.map_map]
      refine List.map_congr_left fun call hcall => ?_
      rw [BlockCall.intake, h.succeeded call hcall]
      rfl
    rw [hcounts.consumed, hintake, ← List.length_flatten, h.sources,
      flatten_flatMap_pieces (Coder.engine _).stageSize_pos]
  · rw [hcounts.produced, h.returned, Ledger.contribution,
      Ledger.flatMap_contribution_of_succeeded h.succeeded]

/-- **Bytes come back.** Take a transform that maps every byte by itself, and any two chunk sizes.
However the data was cut into inputs and however the encoder is driven, it does not fail; its output
is the data mapped byte by byte, and both of its counters show the size of the data. However that
output is cut anew and however a decoder is driven, it does not fail and hands out the data. Where
blocks are stored as they are, the output of the encoder is the data. -/
theorem drive_bytes_roundTrip {f g : UInt8 → UInt8} (hc : c.IsBytewise f g)
    (encoding decoding : Settings) (state state' : σ) (inputs : List Bytes) (turns : Turns) :
    (∃ s, drive (Encoder.new c state encoding) inputs turns = .ok s ∧
        s.returned = inputs.flatten.map f ∧
        s.coder.consumed = inputs.flatten.length ∧
        s.coder.produced = inputs.flatten.length ∧
        ∀ (cut : List Bytes) (turns' : Turns), cut.flatten = s.returned →
          ∃ t, drive (Decoder.new c state' decoding) cut turns' = .ok t ∧
            t.returned = inputs.flatten) ∧
      ∃ s, drive (Encoder.new .stored () encoding) inputs turns = .ok s ∧
        s.returned = inputs.flatten := by
  constructor
  · have hencodes : ∃ s, drive (Encoder.new c state encoding) inputs turns = .ok s ∧
        Driven (Encoder.new c state encoding) inputs s ∧ s.returned = inputs.flatten.map f :=
      exists_drive_eq_ok_of_maps _ hc.encode rfl (Nat.le_max_right ..) inputs turns
    obtain ⟨s, hs, hencoded, hreturned⟩ := hencodes
    obtain ⟨hconsumed, hproduced⟩ := counts_of_driven hencoded
    rw [hreturned, List.length_map] at hproduced
    refine ⟨s, hs, hreturned, hconsumed, hproduced, fun cut turns' hcut => ?_⟩
    -- as encodings are no larger than their blocks, a decoder stages no more than it has room for
    have hroom : max (c.bound state' decoding.chunkSize) decoding.chunkSize ≤
        decoding.chunkSize := by
      rw [hc.bound, Nat.max_self]
    have hdecodes : ∃ t, drive (Decoder.new c state' decoding) cut turns' = .ok t ∧
        Driven (Decoder.new c state' decoding) cut t ∧ t.returned = cut.flatten.map g :=
      exists_drive_eq_ok_of_maps (Decoder.new c state' decoding) hc.decode rfl hroom cut turns'
    obtain ⟨t, ht, -, hback⟩ := hdecodes
    have hinverse : g ∘ f = id := funext hc.inverse
    refine ⟨t, ht, ?_⟩
    rw [hback, hcut, hreturned, List.map_map, hinverse, List.map_id]
  · have hencodes : ∃ s, drive (Encoder.new .stored () encoding) inputs turns = .ok s ∧
        Driven (Encoder.new .stored () encoding) inputs s ∧ s.returned = inputs.flatten.map id :=
      exists_drive_eq_ok_of_maps _ BlockTransform.isBytewise_stored.encode rfl
        (Nat.le_max_right ..) inputs turns
    obtain ⟨s, hs, -, hreturned⟩ := hencodes
    exact ⟨s, hs, hreturned.trans (List.map_id _)⟩

/-- Bytes with their bits flipped, cut at other places and through larger chunks. -/
theorem drive_flipped_roundTrip :
    let flip : UInt8 → UInt8 := fun b => b ^^^ 90
    let c := BlockTransform.bytewise "xor" flip flip
    let turns : Turns := fun _ => ⟨[0, 0], 0, 2, by decide, by decide, false⟩
    (∀ b, flip (flip b) = b) ∧
      (∃ s, drive (Encoder.new c () ⟨3, by decide, by decide⟩) [[1, 2, 3, 4], [], [5]] turns =
          .ok s ∧
        s.returned = [91, 88, 89, 94, 95] ∧ s.coder.consumed = 5 ∧ s.coder.produced = 5 ∧
        ∃ t, drive (Decoder.new c () ⟨4, by decide, by decide⟩) [[91], [88, 89, 94, 95]] turns =
          .ok t ∧ t.returned = [1, 2, 3, 4, 5]) ∧
      ∃ s, drive (Encoder.new .stored () ⟨3, by decide, by decide⟩) [[1, 2, 3, 4], [], [5]] turns =
        .ok s ∧ s.returned = [1, 2, 3, 4, 5] := by
  intro flip c turns
  have hflip : ∀ b, flip (flip b) = b := by
    intro b
    simp only [flip, UInt8.xor_assoc, UInt8.xor_self, UInt8.xor_zero]
  obtain ⟨⟨s, hs, hreturned, hconsumed, hproduced, hback⟩, hstored⟩ :=
    drive_bytes_roundTrip (BlockTransform.isBytewise_bytewise "xor" hflip)
      ⟨3, by decide, by decide⟩ ⟨4, by decide, by decide⟩ () () [[1, 2, 3, 4], [], [5]] turns
  exact ⟨hflip, ⟨s, hs, hreturned, hconsumed, hproduced,
    hback [[91], [88, 89, 94, 95]] turns hreturned.symm⟩, hstored⟩

end Blockwise
