import VlfGateway.MemoryStore
import VlfGateway.PrintfText
import VlfGateway.RadioQueue

/-!
# Records received over the radio

A record frame is checked, acknowledged and offered to the store, in this
order. The acknowledgement lets the sender discard its copy. It is queued
before the store has answered, and the answer is dropped.
-/

namespace VlfGateway.RadioUpload

open MemoryStore PrintfText RadioQueue RecordChecksum SdCard

/-- The globals of the frame processor with the radio, the store and the
text written to the console. -/
structure Receiver where
  /-- `rf212_radif`. -/
  radif : Radif
  /-- The record store. -/
  store : Store
  /-- `record`. -/
  record : Record
  /-- `sample_ack_packet`. -/
  sampleAckPacket : List UInt8
  /-- Console output so far. -/
  console : List Char

/-- What the radio, the timer and the card answer during one frame. -/
structure FrameReplies where
  /-- Consume index that ends a wait for a free slot. -/
  drained : Option (Fin numTxFrames)
  /-- `LPC_TIM3->TC`. -/
  tc : UInt32
  /-- The card's answer to the record. -/
  data : WriteReply
  /-- The card's answer to the index page. -/
  page : WriteReply

/-- The octets of an acknowledgement. -/
def ackPacket (memAddress checksum : UInt32) : List UInt8 :=
  0x41::(wordOctets memAddress++wordOctets checksum)

/-- `send_upload_ack`. -/
def sendUploadAck (rfAddress : UInt16) (memAddress checksum : UInt32)
    (drained : Option (Fin numTxFrames)) (receiver : Receiver) : Option Receiver :=
  (radifSend (ackPacket memAddress checksum) 9 rfAddress 1 drained receiver.radif).map fun radif =>
    {receiver with radif := radif,sampleAckPacket := ackPacket memAddress checksum}

/-- `get_memory_address_from_rx`. -/
def getMemoryAddressFromRx (rx : RxFrame) : UInt32 :=
  let octet := fun i => (rx.data.octets.getD i 0).toUInt32
  octet 1 ||| octet 2 <<< 8 ||| octet 3 <<< 16 ||| octet 4 <<< 24

/-- The record behind the type and the memory address of a frame. -/
def frameRecord (rx : RxFrame) : Record :=
  ⟨(rx.data.octets.drop 5).take memoryRecordSize,by
    rw [List.length_take,List.length_drop,rx.data.size]
    rfl⟩

/-- `block_uploaded`. There is no result when the radio never takes the
acknowledgement. -/
def blockUploaded (rx : RxFrame) (replies : FrameReplies) (receiver : Receiver) : Option Receiver :=
  if memoryRecordSize≤rx.length.toNat then
    let record := frameRecord rx
    let actualChecksum := calculateChecksum record
    let checksum := getChecksum record
    let copied := {receiver with record := record}
    if checksum=actualChecksum then
      (sendUploadAck rx.sourceAddress (getMemoryAddressFromRx rx) checksum replies.drained copied).map
        fun acked => {acked with
          store := (putSample acked.store record replies.tc replies.data replies.page).2
          console := acked.console++"Radio Upload Frame OK\n".toList}
    else some {copied with
      console := receiver.console++"Radio Upload Frame Checksum Error!\n".toList++
        "Frame: ".toList++hexPadded 4 checksum.toNat++
        "\nCalc: ".toList++hexPadded 4 actualChecksum.toNat++"\n".toList}
  else some {receiver with
    console := receiver.console++"Radio Upload Frame too short!\n".toList}

/-- An acknowledgement was queued: a frame that starts with `A` was
published. -/
def Acknowledged (before after : Receiver) : Prop :=
  after.radif.txProduceIndex=nextSlot before.radif.txProduceIndex ∧
    (after.radif.txFrames before.radif.txProduceIndex).data.octets.head?=some 0x41

/-- The record of the frame is in the store: it was accepted, and the block
written last holds it. -/
def Stored (rx : RxFrame) (replies : FrameReplies) (before after : Receiver) : Prop :=
  (putSample before.store (frameRecord rx) replies.tc replies.data replies.page).1=true ∧
    (after.store.card.page after.store.indexes.writeIndex.toNat).record=frameRecord rx

/-- The frame is long enough for a record and its checksum is right. -/
def WellFormed (rx : RxFrame) : Prop :=
  memoryRecordSize≤rx.length.toNat ∧ evaluateChecksum (frameRecord rx)=true

/-- The ring has room, and the card takes the record or held it before. -/
def RoomFor (rx : RxFrame) (replies : FrameReplies) (s : Store) : Prop :=
  nextBlock s.card s.indexes.writeIndex≠s.indexes.readIndex ∧
    (replies.data.accepted=true ∨
      (s.card.page (nextBlock s.card s.indexes.writeIndex).toNat).record=frameRecord rx)

/-- A produce index differs from its successor. -/
theorem produceIndex_ne (i : Fin numTxFrames) : i≠nextSlot i := by
  revert i
  decide

/-- A call that returns has acknowledged the frame exactly when the frame is
well formed and the interface takes the acknowledgement. -/
theorem acknowledged_iff {rx : RxFrame} {replies : FrameReplies} {before after : Receiver}
    (h : blockUploaded rx replies before=some after) :
    Acknowledged before after ↔ WellFormed rx ∧ before.radif.takes=true := by
  have hidle : after.radif=before.radif → ¬Acknowledged before after := by
    intro hsame hack
    rw [Acknowledged,hsame] at hack
    exact produceIndex_ne _ hack.1
  unfold blockUploaded at h
  dsimp only at h
  by_cases hlength : memoryRecordSize≤rx.length.toNat
  · rw [if_pos hlength] at h
    by_cases hsum : getChecksum (frameRecord rx)=calculateChecksum (frameRecord rx)
    · have hwell : WellFormed rx := ⟨hlength,beq_iff_eq.mpr hsum⟩
      rw [if_pos hsum] at h
      unfold sendUploadAck at h
      rw [Option.map_map,Option.map_eq_some_iff] at h
      obtain ⟨radif,hsend,rfl⟩ := h
      obtain ⟨htaken,hdropped⟩ := radifSend_effect hsend
      cases htakes : before.radif.takes with
      | true =>
        obtain ⟨hindex,hoctets,_⟩ := htaken htakes
        refine ⟨fun _ => ⟨hwell,rfl⟩,fun _ => ⟨hindex,?_⟩⟩
        have hfirst := congrArg List.head? hoctets
        rw [List.head?_take,List.head?_take,if_neg (by decide),if_neg (by decide)] at hfirst
        exact hfirst
      | false =>
        refine ⟨fun hack => absurd hack (hidle (hdropped htakes)),fun hfalse => ?_⟩
        exact absurd hfalse.2 Bool.false_ne_true
    · rw [if_neg hsum] at h
      cases h
      refine ⟨fun hack => absurd hack (hidle rfl),fun hwell => ?_⟩
      exact absurd (beq_iff_eq.mp hwell.1.2) hsum
  · rw [if_neg hlength] at h
    cases h
    exact ⟨fun hack => absurd hack (hidle rfl),fun hwell => absurd hwell.1.1 hlength⟩

/-- A well-formed frame that was processed has been offered to the store. -/
theorem blockUploaded_store {rx : RxFrame} {replies : FrameReplies} {before after : Receiver}
    (hwell : WellFormed rx) (h : blockUploaded rx replies before=some after) :
    after.store=(putSample before.store (frameRecord rx) replies.tc replies.data replies.page).2 := by
  have hsum : getChecksum (frameRecord rx)=calculateChecksum (frameRecord rx) :=
    beq_iff_eq.mp hwell.2
  unfold blockUploaded sendUploadAck at h
  dsimp only at h
  rw [if_pos hwell.1,if_pos hsum,Option.map_map,Option.map_eq_some_iff] at h
  obtain ⟨radif,_,rfl⟩ := h
  rfl

/-- Offering a record stores it exactly when the ring has room for it and the
card takes it or held it before. -/
theorem stored_iff {rx : RxFrame} {replies : FrameReplies} {before after : Receiver}
    (hstore : after.store=
      (putSample before.store (frameRecord rx) replies.tc replies.data replies.page).2) :
    Stored rx replies before after ↔ RoomFor rx replies before.store := by
  obtain ⟨hnextPos,hnextCap⟩ :=
    nextBlock_bounds before.store.card before.store.indexes.writeIndex
  unfold Stored RoomFor
  rw [putSample_accepts_iff,hstore]
  refine and_congr_right fun hroom => ?_
  rw [putSample_indexes _ _ _ _ hroom,putSample_page _ _ _ _ hroom hnextPos,
    diskWrite_card (by decide) hnextCap]
  cases haccepted : replies.data.accepted with
  | true => simp [fillPage_record]
  | false => simp

/-- A frame whose processing returns is stored whenever it is acknowledged,
exactly when it is not a well-formed record that the radio acknowledges, or
the ring has room and the card takes the record or held it before. -/
theorem acknowledged_stored_iff {rx : RxFrame} {replies : FrameReplies} {before after : Receiver}
    (h : blockUploaded rx replies before=some after) :
    (Acknowledged before after → Stored rx replies before after) ↔
      (¬(WellFormed rx ∧ before.radif.takes=true) ∨ RoomFor rx replies before.store) := by
  rw [acknowledged_iff h]
  by_cases hacked : WellFormed rx ∧ before.radif.takes=true
  · rw [stored_iff (blockUploaded_store hacked.1 h)]
    exact ⟨fun hs => .inr (hs hacked),fun hor _ => hor.resolve_left fun hn => hn hacked⟩
  · exact ⟨fun _ => .inl hacked,fun _ ha => absurd ha hacked⟩

/-- A frame from node 7 with block 2 of its memory: twenty zero octets and
their checksum. -/
def zeroFrame : RxFrame :=
  {data := ⟨[0x55,0x02,0x00,0x00,0x00]++List.replicate 20 0x00++[0x8d,0x9b,0xd5,0x0f]++
      List.replicate 98 0x00,by simp [frameDataSize]⟩
   length := 29
   sourceAddress := 7}

/-- An idle radio in front of the given store. -/
def idleReceiver (store : Store) : Receiver :=
  {radif := ⟨⟨0,by decide⟩,⟨0,by decide⟩,fun _ => ⟨FrameData.zero,0,0,0⟩,true⟩
   store := store,record := Record.blank,sampleAckPacket := List.replicate 9 0,console := []}

/-- The card takes everything. -/
def goodReplies : FrameReplies := ⟨none,5,.good,.good⟩

/-- The frame is well formed. -/
theorem zeroFrame_wellFormed : WellFormed zeroFrame := by
  refine ⟨by decide,?_⟩
  decide +kernel

/-- Processing the frame with an idle radio returns. -/
theorem zeroFrame_returns (store : Store) :
    ∃ after,blockUploaded zeroFrame goodReplies (idleReceiver store)=some after := by
  have hsum : getChecksum (frameRecord zeroFrame)=calculateChecksum (frameRecord zeroFrame) :=
    beq_iff_eq.mp zeroFrame_wellFormed.2
  unfold blockUploaded sendUploadAck
  dsimp only
  rw [if_pos zeroFrame_wellFormed.1,if_pos hsum]
  exact ⟨_,rfl⟩

/-- On a card with room the acknowledged frame is stored. -/
theorem acknowledged_stored_with_room :
    ∃ after,blockUploaded zeroFrame goodReplies
        (idleReceiver (memoryInit (formattedCard 11 ⟨3,1⟩) [0x00]))=some after ∧
      (Acknowledged (idleReceiver (memoryInit (formattedCard 11 ⟨3,1⟩) [0x00])) after →
        Stored zeroFrame goodReplies
          (idleReceiver (memoryInit (formattedCard 11 ⟨3,1⟩) [0x00])) after) := by
  obtain ⟨after,hreturns⟩ := zeroFrame_returns (memoryInit (formattedCard 11 ⟨3,1⟩) [0x00])
  refine ⟨after,hreturns,(acknowledged_stored_iff hreturns).mpr (.inr ⟨by decide,.inl (by decide)⟩)⟩

/-- On a card of three sectors whose two blocks both wait to be read, the
frame is acknowledged and dropped. -/
theorem acknowledged_dropped_when_full :
    ∃ after,blockUploaded zeroFrame goodReplies
        (idleReceiver (memoryInit (formattedCard 3 ⟨2,1⟩) [0x00]))=some after ∧
      Acknowledged (idleReceiver (memoryInit (formattedCard 3 ⟨2,1⟩) [0x00])) after ∧
      (putSample (memoryInit (formattedCard 3 ⟨2,1⟩) [0x00]) (frameRecord zeroFrame) 5 .good .good).1=
        false ∧
      ¬Stored zeroFrame goodReplies
        (idleReceiver (memoryInit (formattedCard 3 ⟨2,1⟩) [0x00])) after := by
  obtain ⟨after,hreturns⟩ := zeroFrame_returns (memoryInit (formattedCard 3 ⟨2,1⟩) [0x00])
  have hrefused : (putSample (memoryInit (formattedCard 3 ⟨2,1⟩) [0x00]) (frameRecord zeroFrame) 5
      .good .good).1=false := by decide
  refine ⟨after,hreturns,(acknowledged_iff hreturns).mpr ⟨zeroFrame_wellFormed,by decide⟩,hrefused,?_⟩
  rintro ⟨haccepted,_⟩
  exact Bool.false_ne_true (hrefused.symm.trans haccepted)

end VlfGateway.RadioUpload
