import TurboLaser.Lib.Lowest
import TurboLaser.Lib.Words
import TurboLaser.Synth.Builders
import TurboLaser.Synth.Fieldbus
import TurboLaser.Synth.Sizes

/-!
# TriStation downloads, put together again (synth/tristation.rs)

The engineering workstation allocates a program, says how long it will be, and downloads it in
numbered chunks. A controller puts the chunks together by their numbers.

The number is a word of 16 bits that the source writes with `as u16`, so it starts again at zero
after 65536 chunks, and nothing bounds the chunks of a playbook's payload. A controller that goes by
the numbers then finds two chunks with one number and cannot know which comes first. What is asked
of the frames is what any controller needs (`PutTogether`): it sees only the bodies of messages
whose length and sum are right.

- `readTsMessage`: a message, with its length and its sum checked;
- `Reassembles`: **what a controller needs to find in the frames**: sound messages, distinct
  numbers, an announced length, and the payload when the chunks are taken in the order of their
  numbers;
- `tsProgramDownload_reassembles_iff`: a download is put together again exactly if it takes 65536
  chunks at most.
-/

namespace TurboLaser.Synth

open Lib Reader

/-! ## What a controller reads -/

/-- A message: its type and its body. The length is that of the body, and the sum at the end is
that of everything before it. -/
def tsMessageReader (msg : List UInt8) : Reader (Nat × List UInt8) := do
  let msgType ← leNumber 2
  let len ← leNumber 2
  let body ← bytes len
  let sum ← leNumber 2
  Reader.guard (sum = ((msg.take (4 + len)).map UInt8.toNat).sum % 65536)
  return (msgType, body)

/-- A buffer that is one message. -/
def readTsMessage (msg : List UInt8) : Option (Nat × List UInt8) := (tsMessageReader msg).whole msg

/-- The message of a frame. -/
def tsMessageOf (f : Frame) : Option (Nat × List UInt8) := (framePayload f).bind readTsMessage

/-- A download request: the number of a chunk, and the chunk behind it. -/
def tsChunk (body : List UInt8) : Option (Nat × List UInt8) := leNumber 2 body

/-- The bodies of the messages of one type. -/
def bodiesOf (msgType : Nat) (msgs : List (Nat × List UInt8)) : List (List UInt8) :=
  (msgs.filter fun m => decide (m.1 = msgType)).map Prod.snd

/-- What a controller needs to find in the messages: one announced length, and under distinct
numbers the chunks of a program of this length. -/
structure PutTogether (msgs downloads : List (Nat × List UInt8)) (payload : List UInt8) :
    Prop where
  announced : (bodiesOf 0x0003 msgs).mapM (whole (leNumber 4)) = some [payload.length]
  numbered : (bodiesOf 0x000e msgs).mapM tsChunk = some downloads
  distinct : (downloads.map Prod.fst).Nodup
  ordered : ((sortByKey Prod.fst downloads).map Prod.snd).flatten = payload

/-- **The frames carry the payload**: every one of them is a sound message, and the messages are
what a controller needs. -/
def Reassembles (frames : List Frame) (payload : List UInt8) : Prop :=
  ∃ msgs downloads, frames.mapM tsMessageOf = some msgs ∧ PutTogether msgs downloads payload

/-! ## One message -/

theorem toNat_tsSum (m : List UInt8) (acc : UInt16) :
    (m.foldl (fun a b => a + UInt16.ofNat b.toNat) acc).toNat =
      (acc.toNat + (m.map UInt8.toNat).sum) % 65536 := by
  induction m generalizing acc with
  | nil =>
    rw [List.foldl_nil, List.map_nil, List.sum_nil, Nat.add_zero]
    exact (Nat.mod_eq_of_lt acc.toNat_lt).symm
  | cons b m ih =>
    rw [List.foldl_cons, ih, UInt16.toNat_add, UInt16.toNat_ofNat', List.map_cons, List.sum_cons]
    omega

/-- **A message is read as it was written**, if its length fits its field. -/
theorem readTsMessage_tsMessage {msgType : UInt16} {body : List UInt8}
    (hbody : body.length < 65536) :
    readTsMessage (tsMessage msgType body) = some (msgType.toNat, body) := by
  -- the sum is taken over all that stands in front of it
  have hfront : (tsMessage msgType body).take (4 + body.length) =
      toLeBytes16 msgType ++ toLeBytes16 (UInt16.ofNat body.length) ++ body := by
    refine List.take_left' ?_
    simp [toLeBytes16]
    omega
  have hsum := reads_le16 ((toLeBytes16 msgType ++ toLeBytes16 (UInt16.ofNat body.length) ++
    body).foldl (fun a b => a + UInt16.ofNat b.toNat) 0)
  rw [toNat_tsSum, show (0 : UInt16).toNat = 0 from rfl, Nat.zero_add, ← hfront] at hsum
  have hread : Reads (tsMessageReader (tsMessage msgType body)) (toLeBytes16 msgType ++
      (toLeBytes16 (UInt16.ofNat body.length) ++ (body ++ (toLeBytes16 ((toLeBytes16 msgType ++
        toLeBytes16 (UInt16.ofNat body.length) ++ body).foldl
          (fun a b => a + UInt16.ofNat b.toNat) 0) ++ ([] ++ []))))) (msgType.toNat, body) := by
    unfold tsMessageReader
    rw [← hfront]
    exact (reads_le16 msgType).bind ((reads_le16_ofNat hbody).bind
      ((Reads.bytes rfl).bind (hsum.bind ((Reads.guard rfl).bind (Reads.pure _)))))
  rw [List.append_nil, List.append_nil, ← List.append_assoc, ← List.append_assoc] at hread
  exact hread.whole

/-- A datagram carries its message. -/
theorem tsMessageOf_datagram (e : Endpoints) (side : Side) {msgType : UInt16} {body : List UInt8}
    (hbody : body.length + 34 < 65536) :
    tsMessageOf (e.datagram tristationPort side (tsMessage msgType body)) =
      some (msgType.toNat, body) := by
  have hfit : (tsMessage msgType body).length + 28 < 65536 := by
    rw [length_tsMessage]
    omega
  have hcarried : framePayload (e.datagram tristationPort side (tsMessage msgType body)) =
      some (tsMessage msgType body) := by
    cases side with
    | client => exact (udpFrame_readsBack _ _ _ _ _ _ _ hfit).framePayload_eq
    | server => exact (udpFrame_readsBack _ _ _ _ _ _ _ hfit).framePayload_eq
  rw [tsMessageOf, hcarried, Option.bind_some]
  exact readTsMessage_tsMessage (by omega)

/-! ## The messages of a download -/

/-- What the two sides say: the type and the body of every message. -/
def tsSaid (payload : List UInt8) (chunk : Nat) : List (Side × UInt16 × List UInt8) :=
  [(.client, 0x0003, toLeBytes32 (UInt32.ofNat payload.length)), (.server, 0x0103, [0x00])] ++
    (chunks (max chunk 1) payload).zipIdx.flatMap (fun c =>
      [(.client, 0x000e, toLeBytes16 (UInt16.ofNat c.2) ++ c.1), (.server, 0x010e, [0x00])]) ++
    [(.client, 0x000d, [0x01]), (.server, 0x010d, [0x00])]

theorem tsProgramDownload_eq (e : Endpoints) (payload : List UInt8) (chunk : Nat) :
    tsProgramDownload e payload chunk =
      .udp e tristationPort ((tsSaid payload chunk).map fun s => (s.1, tsMessage s.2.1 s.2.2)) := by
  rw [tsSaid, List.map_append, List.map_append, List.map_flatMap]
  rfl

/-- Every frame carries its message. -/
theorem mapM_tsMessageOf (e : Endpoints) {said : List (Side × UInt16 × List UInt8)}
    (hfit : ∀ s ∈ said, s.2.2.length + 34 < 65536) :
    (Exchange.udp e tristationPort
      (said.map fun s => (s.1, tsMessage s.2.1 s.2.2))).frames.mapM tsMessageOf =
        some (said.map fun s => (s.2.1.toNat, s.2.2)) := by
  induction said with
  | nil => rfl
  | cons s said ih =>
    have hhead := @tsMessageOf_datagram e s.1 s.2.1 s.2.2 (hfit s List.mem_cons_self)
    have htail := ih fun s' hs' => hfit s' (List.mem_cons_of_mem _ hs')
    rw [Exchange.frames, List.map_cons, List.map_cons, List.mapM_cons, hhead]
    rw [Exchange.frames] at htail
    rw [htail]
    rfl

/-- The numbers as they are sent, with their chunks. -/
def sentChunks (payload : List UInt8) (chunk : Nat) : List (Nat × List UInt8) :=
  (chunks (max chunk 1) payload).zipIdx.map fun c => (c.2 % 65536, c.1)

/-- The messages of a download, by type. -/
def tsMessages (payload : List UInt8) (chunk : Nat) : List (Nat × List UInt8) :=
  (tsSaid payload chunk).map fun s => (s.2.1.toNat, s.2.2)

theorem bodiesOf_append (msgType : Nat) (xs ys : List (Nat × List UInt8)) :
    bodiesOf msgType (xs ++ ys) = bodiesOf msgType xs ++ bodiesOf msgType ys := by
  rw [bodiesOf, List.filter_append, List.map_append]
  rfl

/-- The two messages for a chunk. -/
def tsPair (c : List UInt8 × Nat) : List (Nat × List UInt8) :=
  [(0x000e, toLeBytes16 (UInt16.ofNat c.2) ++ c.1), (0x010e, [0x00])]

theorem tsMessages_eq (payload : List UInt8) (chunk : Nat) :
    tsMessages payload chunk =
      [(0x0003, toLeBytes32 (UInt32.ofNat payload.length)), (0x0103, [0x00])] ++
        (chunks (max chunk 1) payload).zipIdx.flatMap tsPair ++
        [(0x000d, [0x01]), (0x010d, [0x00])] := by
  rw [tsMessages, tsSaid, List.map_append, List.map_append, List.map_flatMap]
  rfl

theorem bodiesOf_allocate (payload : List UInt8) (chunk : Nat) :
    bodiesOf 0x0003 (tsMessages payload chunk) =
      [toLeBytes32 (UInt32.ofNat payload.length)] := by
  -- no message of the loop is of this type
  have hnone : ((chunks (max chunk 1) payload).zipIdx.flatMap tsPair).filter
      (fun m => decide (m.1 = 0x0003)) = [] := by
    rw [List.filter_flatMap]
    exact List.flatMap_eq_nil_iff.mpr fun c _ => rfl
  rw [tsMessages_eq, bodiesOf_append, bodiesOf_append, bodiesOf, bodiesOf, hnone]
  rfl

theorem bodiesOf_download (payload : List UInt8) (chunk : Nat) :
    bodiesOf 0x000e (tsMessages payload chunk) =
      (chunks (max chunk 1) payload).zipIdx.map fun c =>
        toLeBytes16 (UInt16.ofNat c.2) ++ c.1 := by
  -- of the two messages for a chunk the first is of this type
  have hone : ((chunks (max chunk 1) payload).zipIdx.flatMap tsPair).filter
      (fun m => decide (m.1 = 0x000e)) = (chunks (max chunk 1) payload).zipIdx.map fun c =>
        (0x000e, toLeBytes16 (UInt16.ofNat c.2) ++ c.1) := by
    rw [List.filter_flatMap, List.map_eq_flatMap]
    exact List.flatMap_congr fun c _ => rfl
  rw [tsMessages_eq, bodiesOf_append, bodiesOf_append, bodiesOf, bodiesOf, hone, List.map_map]
  exact List.append_nil _

/-- The numbers are read as they were sent. -/
theorem mapM_tsChunk (payload : List UInt8) (chunk : Nat) :
    (bodiesOf 0x000e (tsMessages payload chunk)).mapM tsChunk =
      some (sentChunks payload chunk) := by
  rw [bodiesOf_download, sentChunks]
  generalize (chunks (max chunk 1) payload).zipIdx = numbered
  induction numbered with
  | nil => rfl
  | cons c numbered ih =>
    have hindex : tsChunk (toLeBytes16 (UInt16.ofNat c.2) ++ c.1) = some (c.2 % 65536, c.1) := by
      rw [tsChunk, reads_le16, UInt16.toNat_ofNat']
    rw [List.map_cons, List.mapM_cons, hindex, ih]
    rfl

/-! ## The numbers -/

theorem map_fst_sentChunks (payload : List UInt8) (chunk : Nat) :
    (sentChunks payload chunk).map Prod.fst =
      (List.range (chunks (max chunk 1) payload).length).map (· % 65536) := by
  rw [List.range_eq_range', ← List.zipIdx_map_snd 0 (chunks (max chunk 1) payload), sentChunks,
    List.map_map, List.map_map]
  rfl

theorem map_snd_sentChunks (payload : List UInt8) (chunk : Nat) :
    (sentChunks payload chunk).map Prod.snd = chunks (max chunk 1) payload := by
  have hfst := List.zipIdx_map_fst 0 (chunks (max chunk 1) payload)
  rw [sentChunks, List.map_map]
  exact hfst

/-- As many chunks as there are numbers are sent under their own. -/
theorem map_fst_sentChunks_of_few {payload : List UInt8} {chunk : Nat}
    (hfew : (chunks (max chunk 1) payload).length ≤ 65536) :
    (sentChunks payload chunk).map Prod.fst =
      List.range (chunks (max chunk 1) payload).length := by
  rw [map_fst_sentChunks]
  refine (List.map_congr_left fun i hi => ?_).trans (List.map_id _)
  rw [List.mem_range] at hi
  exact Nat.mod_eq_of_lt (by omega)

/-- **The numbers are distinct exactly if there are no more chunks than numbers.** -/
theorem nodup_sentChunks_iff (payload : List UInt8) (chunk : Nat) :
    ((sentChunks payload chunk).map Prod.fst).Nodup ↔
      (chunks (max chunk 1) payload).length ≤ 65536 := by
  constructor
  · intro hnodup
    -- distinct words are at most as many as there are words
    have hwords : (sentChunks payload chunk).map Prod.fst ⊆ List.range 65536 := by
      intro i hi
      rw [map_fst_sentChunks] at hi
      obtain ⟨j, -, rfl⟩ := List.mem_map.mp hi
      exact List.mem_range.mpr (Nat.mod_lt _ (by decide))
    have hlen := (hnodup.subperm hwords).length_le
    rwa [map_fst_sentChunks, List.length_map, List.length_range, List.length_range] at hlen
  · intro hfew
    rw [map_fst_sentChunks_of_few hfew]
    exact List.nodup_range

/-- Then they come in order. -/
theorem sortByKey_sentChunks {payload : List UInt8} {chunk : Nat}
    (hfew : (chunks (max chunk 1) payload).length ≤ 65536) :
    sortByKey Prod.fst (sentChunks payload chunk) = sentChunks payload chunk := by
  have hsorted : ((sentChunks payload chunk).map Prod.fst).Pairwise (· ≤ ·) := by
    rw [map_fst_sentChunks_of_few hfew]
    exact List.pairwise_lt_range.imp Nat.le_of_lt
  exact (List.pairwise_map.mp hsorted).insertionSort_eq

/-! ## The whole download -/

/-- No message is larger than the first chunk makes it. -/
theorem length_tsSaid {payload : List UInt8} {chunk : Nat} :
    ∀ s ∈ tsSaid payload chunk,
      s.2.2.length ≤ max 4 (min payload.length (max chunk 1) + 2) := by
  intro s hs
  rw [tsSaid, List.mem_append, List.mem_append] at hs
  rcases hs with (hs | hs) | hs
  · simp only [List.mem_cons, List.not_mem_nil, or_false] at hs
    rcases hs with rfl | rfl
    · exact Nat.le_max_left _ _
    · simp
  · obtain ⟨c, hc, hs⟩ := List.mem_flatMap.mp hs
    have hlen := length_le_of_mem_chunks (List.fst_mem_of_mem_zipIdx hc)
    simp only [List.mem_cons, List.not_mem_nil, or_false] at hs
    rcases hs with rfl | rfl
    · simp [toLeBytes16]
      omega
    · simp
  · simp only [List.mem_cons, List.not_mem_nil, or_false] at hs
    rcases hs with rfl | rfl
    · simp
    · simp

section

variable (e : Endpoints) {payload : List UInt8} {chunk : Nat}

/-- Every frame of a download is a sound message, if a chunk fits a datagram. -/
theorem mapM_tsProgramDownload (hfits : min payload.length (max chunk 1) + 36 ≤ 65535) :
    (tsProgramDownload e payload chunk).frames.mapM tsMessageOf =
      some (tsMessages payload chunk) := by
  rw [tsProgramDownload_eq]
  refine mapM_tsMessageOf e fun s hs => ?_
  have := length_tsSaid s hs
  omega

/-- What is put together had distinct numbers. -/
theorem Reassembles.length_le (hfits : min payload.length (max chunk 1) + 36 ≤ 65535)
    (h : Reassembles (tsProgramDownload e payload chunk).frames payload) :
    payload.length ≤ 65536 * max chunk 1 := by
  obtain ⟨msgs, downloads, hmsgs, htogether⟩ := h
  obtain rfl := Option.some_inj.mp ((mapM_tsProgramDownload e hfits).symm.trans hmsgs)
  obtain rfl := Option.some_inj.mp ((mapM_tsChunk payload chunk).symm.trans htogether.numbered)
  exact (length_chunks_le_iff (Nat.le_max_right _ _)).mp
    ((nodup_sentChunks_iff payload chunk).mp htogether.distinct)

/-- **A download is put together again exactly if there are no more chunks than numbers.** Chunks
are numbered by a field that wraps, so beyond it two of them have one number and the receiver cannot
tell them apart. -/
theorem tsProgramDownload_reassembles_iff
    (hfits : min payload.length (max chunk 1) + 36 ≤ 65535) :
    Reassembles (tsProgramDownload e payload chunk).frames payload ↔
      payload.length ≤ 65536 * max chunk 1 := by
  constructor
  · exact Reassembles.length_le e hfits
  · intro hlen
    have hfew : (chunks (max chunk 1) payload).length ≤ 65536 :=
      (length_chunks_le_iff (Nat.le_max_right _ _)).mpr hlen
    refine ⟨_, _, mapM_tsProgramDownload e hfits, ?_, mapM_tsChunk payload chunk,
      (nodup_sentChunks_iff payload chunk).mpr hfew, ?_⟩
    · -- so many chunks of a datagram each are shorter than the announced word can say
      have hword : (UInt32.ofNat payload.length).toNat = payload.length := by
        rw [UInt32.toNat_ofNat']
        exact Nat.mod_eq_of_lt (by omega)
      have hannounced := (reads_le32 (UInt32.ofNat payload.length)).whole
      rw [hword] at hannounced
      rw [bodiesOf_allocate, List.mapM_cons, hannounced]
      rfl
    · rw [sortByKey_sentChunks hfew, map_snd_sentChunks]
      exact flatten_chunks (Nat.le_max_right _ _) payload

end

/-- Two chunks of the usual eight bytes, the second one shorter. -/
theorem tsProgramDownload_reassembles_two :
    Reassembles (tsProgramDownload ⟨⟨2, 0, 0, 0, 0, 1⟩, ⟨0, 0xa0, 0x45, 1, 2, 3⟩, 0x0A2800FA,
        0x0A280008, 1502⟩ (utf8 "imain.bin") 8).frames (utf8 "imain.bin") ↔
      (utf8 "imain.bin").length ≤ 65536 * max 8 1 :=
  tsProgramDownload_reassembles_iff _ (by decide)

/-- The chunk after the last number is numbered as the first one. -/
theorem tsProgramDownload_not_reassembled :
    ¬ Reassembles (tsProgramDownload ⟨⟨2, 0, 0, 0, 0, 1⟩, ⟨0, 0xa0, 0x45, 1, 2, 3⟩, 0x0A2800FA,
        0x0A280008, 1502⟩ (List.replicate 65537 0) 1).frames (List.replicate 65537 0) := by
  intro h
  have hlen := Reassembles.length_le _ (by rw [List.length_replicate]; decide) h
  rw [List.length_replicate] at hlen
  exact absurd hlen (by decide)

end TurboLaser.Synth
