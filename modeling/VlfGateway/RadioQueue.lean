import Mathlib.Data.List.Basic
import Mathlib.Tactic

/-!
# Frames and the transmit ring of the radio interface

The main loop produces frames into a ring of eight slots and the interrupt
consumes them. One slot always stays free, so that equal indexes mean an
empty ring.
-/

namespace VlfGateway.RadioQueue

/-- `NUM_TXFRAMES`. -/
abbrev numTxFrames : ℕ := 8

/-- There are slots. -/
theorem numTxFrames_pos : 0<numTxFrames := by decide

/-- Octets in a frame buffer. -/
def frameDataSize : ℕ := 0x7F

/-- `data` of a frame. -/
structure FrameData where
  /-- The octets of the buffer. -/
  octets : List UInt8
  /-- The buffer has a fixed size. -/
  size : octets.length=frameDataSize

/-- A frame buffer full of zeros. -/
def FrameData.zero : FrameData := ⟨List.replicate frameDataSize 0,rfl⟩

/-- `memcpy` of the first octets of a source that holds that many. -/
def FrameData.copy (data : FrameData) (source : List UInt8) (len : ℕ)
    (hlen : len≤frameDataSize ∧ len ≤ source.length) : FrameData :=
  ⟨source.take len++data.octets.drop len,by
    rw [List.length_append,List.length_take,List.length_drop,data.size]
    omega⟩

/-- `struct rx_frame`, as far as uploads read it. -/
structure RxFrame where
  /-- `data`. -/
  data : FrameData
  /-- `length`. -/
  length : UInt8
  /-- `source_address`. -/
  sourceAddress : UInt16

/-- `struct tx_frame`. -/
structure TxFrame where
  /-- `data`. -/
  data : FrameData
  /-- `length`. -/
  length : UInt8
  /-- `ack`. -/
  ack : UInt8
  /-- `destination_address`. -/
  destinationAddress : UInt16

/-- The transmit side of `struct radif`. -/
structure Radif where
  /-- `TxConsumeIndex`. -/
  txConsumeIndex : Fin numTxFrames
  /-- `TxProduceIndex`. -/
  txProduceIndex : Fin numTxFrames
  /-- `TxFrames`. -/
  txFrames : Fin numTxFrames → TxFrame
  /-- `up`. -/
  up : Bool

/-- The slot after a given one, `(index+1) % NUM_TXFRAMES`. -/
def nextSlot (index : Fin numTxFrames) : Fin numTxFrames :=
  ⟨(index.val+1)%numTxFrames,Nat.mod_lt _ (by decide)⟩

/-- The frame is laid out in the slot at the produce index and published. -/
def Radif.publish (radif : Radif) (tx : TxFrame) : Radif :=
  {radif with
    txFrames := Function.update radif.txFrames radif.txProduceIndex tx
    txProduceIndex := nextSlot radif.txProduceIndex}

/-- `radif_send` of a frame that is long enough for `len`. With the ring full
and the interface up it waits until the interrupt has moved the consume index
to `drained`; it halts on a frame that is too long and waits forever when the
interrupt frees no slot. Both are no result. -/
def radifSend (frame : List UInt8) (len : UInt8) (destAddr : UInt16) (ack : UInt8)
    (drained : Option (Fin numTxFrames)) (radif : Radif) : Option Radif :=
  if hlen : len.toNat≤frameDataSize ∧ len.toNat≤frame.length then
    let tx : TxFrame :=
      ⟨(radif.txFrames radif.txProduceIndex).data.copy frame len.toNat hlen,len,ack,destAddr⟩
    let next := nextSlot radif.txProduceIndex
    if next=radif.txConsumeIndex then
      if radif.up then
        match drained with
        | some consume =>
          if next=consume then none else some ({radif with txConsumeIndex := consume}.publish tx)
        | none => none
      else some radif
    else some (radif.publish tx)
  else none

/-- The next frame will be taken: there is a free slot, or the interface is up. -/
def Radif.takes (radif : Radif) : Bool :=
  decide (nextSlot radif.txProduceIndex≠radif.txConsumeIndex) || radif.up

/-- A copied buffer starts with the octets that were copied. -/
theorem FrameData.copy_take (data : FrameData) (source : List UInt8) (len : ℕ)
    (hlen : len≤frameDataSize ∧ len ≤ source.length) :
    (data.copy source len hlen).octets.take len=source.take len := by
  unfold FrameData.copy
  rw [List.take_append_of_le_length (by rw [List.length_take]; omega),List.take_take,min_self]

/-- The frame laid out by a send is the one in the published slot. -/
theorem publish_effect {frame : List UInt8} {len : UInt8} (data : FrameData) (ack : UInt8)
    (destAddr : UInt16) (hlen : len.toNat≤frameDataSize ∧ len.toNat≤frame.length) {radif after : Radif}
    (h : after=radif.publish ⟨data.copy frame len.toNat hlen,len,ack,destAddr⟩) :
    after.txProduceIndex=nextSlot radif.txProduceIndex ∧
      (after.txFrames radif.txProduceIndex).data.octets.take len.toNat=frame.take len.toNat ∧
      (after.txFrames radif.txProduceIndex).length=len ∧
      (after.txFrames radif.txProduceIndex).destinationAddress=destAddr ∧
      (after.txFrames radif.txProduceIndex).ack=ack := by
  have hslot : after.txFrames radif.txProduceIndex=
      ⟨data.copy frame len.toNat hlen,len,ack,destAddr⟩ := by
    rw [h]
    exact Function.update_self _ _ _
  rw [hslot]
  exact ⟨by rw [h]; rfl,FrameData.copy_take _ _ _ hlen,rfl,rfl,rfl⟩

/-- A send that returns has published its frame when the interface takes it,
and otherwise has done nothing. -/
theorem radifSend_effect {frame : List UInt8} {len : UInt8} {destAddr : UInt16} {ack : UInt8}
    {drained : Option (Fin numTxFrames)} {radif after : Radif}
    (h : radifSend frame len destAddr ack drained radif=some after) :
    (radif.takes=true → after.txProduceIndex=nextSlot radif.txProduceIndex ∧
      (after.txFrames radif.txProduceIndex).data.octets.take len.toNat=frame.take len.toNat ∧
      (after.txFrames radif.txProduceIndex).length=len ∧
      (after.txFrames radif.txProduceIndex).destinationAddress=destAddr ∧
      (after.txFrames radif.txProduceIndex).ack=ack) ∧
    (radif.takes=false → after=radif) := by
  unfold radifSend at h
  unfold Radif.takes
  split at h
  case isFalse => cases h
  case isTrue hlen =>
    dsimp only at h
    by_cases hfull : nextSlot radif.txProduceIndex=radif.txConsumeIndex
    · rw [if_pos hfull] at h
      by_cases hup : radif.up=true
      · rw [if_pos hup] at h
        cases drained with
        | none => cases h
        | some consume =>
          dsimp only at h
          split at h
          · cases h
          · have hsent := publish_effect _ ack destAddr hlen (Option.some.inj h).symm
            exact ⟨fun _ => hsent,by simp [hup]⟩
      · rw [if_neg hup] at h
        cases h
        simp [hfull,hup]
    · rw [if_neg hfull] at h
      have hsent := publish_effect _ ack destAddr hlen (Option.some.inj h).symm
      exact ⟨fun _ => hsent,by simp [hfull]⟩

end VlfGateway.RadioQueue
