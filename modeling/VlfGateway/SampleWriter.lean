import VlfGateway.GatewayClock
import VlfGateway.MemoryStore

/-!
# Samples of the gateway itself

The gateway stores readings of its own in the same form as the records it
receives: flags, the time, two values and the checksum of all of them.
-/

namespace VlfGateway.SampleWriter

open GatewayClock MemoryStore RecordChecksum SdCard

/-- The globals a sample is written through. -/
structure Writer where
  /-- `current_time` and `time_valid`. -/
  clock : Clock
  /-- `write_block`. -/
  writeBlock : Record
  /-- The record store. -/
  store : Store

/-- The first five words of a sample. -/
def sampleWords (recordFlags leftData rightData : UInt32) (time : UInt64) : List UInt8 :=
  wordOctets recordFlags++wordOctets time.toUInt32++wordOctets (time >>> 32).toUInt32++
    wordOctets leftData++wordOctets rightData

/-- The first five words leave the last word of the block. -/
theorem sampleWords_length (recordFlags leftData rightData : UInt32) (time : UInt64) :
    (sampleWords recordFlags leftData rightData time).length=memoryRecordSize-4 := rfl

/-- `write_block` with the words of a sample in front of its last word. -/
def populated (words : List UInt8) (hwords : words.length=memoryRecordSize-4) (checksum : UInt32) :
    Record :=
  ⟨words++wordOctets checksum,by
    rw [List.length_append,hwords]
    rfl⟩

/-- The block that is handed to `put_sample`: its checksum is calculated with
the previous one still in place. -/
def sampleBlock (recordFlags leftData rightData : UInt32) (time : UInt64) (previous : Record) :
    Record :=
  let hwords := sampleWords_length recordFlags leftData rightData time
  populated _ hwords (calculateChecksum (populated _ hwords (getChecksum previous)))

/-- `write_sample_to_mem`, with the timer's readings for the time and for the
store. The result of `put_sample` is dropped. -/
def writeSampleToMem (recordFlags leftData rightData timeAgo timerVal tc : UInt32)
    (data page : WriteReply) (writer : Writer) : Writer :=
  let current := getCurrentTime timerVal writer.clock
  let block := sampleBlock recordFlags leftData rightData (current.1-timeAgo.toUInt64)
    writer.writeBlock
  {clock := current.2
   writeBlock := block
   store := (putSample writer.store block tc data page).2}

/-- Replacing the last word of a block leaves its checksum as it is. -/
theorem calculateChecksum_populated {words : List UInt8} (hwords : words.length=memoryRecordSize-4)
    (first second : UInt32) :
    calculateChecksum (populated words hwords first)=
      calculateChecksum (populated words hwords second) := by
  apply calculateChecksum_congr
  unfold populated
  dsimp only
  rw [←hwords,List.take_left,List.take_left]

/-- Every sample passes its own checksum. -/
theorem sampleBlock_valid (recordFlags leftData rightData : UInt32) (time : UInt64)
    (previous : Record) :
    evaluateChecksum (sampleBlock recordFlags leftData rightData time previous)=true := by
  have hwords := sampleWords_length recordFlags leftData rightData time
  unfold sampleBlock
  dsimp only
  generalize hsum : calculateChecksum (populated _ hwords (getChecksum previous))=checksum
  rw [evaluateChecksum_iff,(calculateChecksum_populated hwords _ _).trans hsum]
  unfold populated
  dsimp only
  rw [←hwords,List.drop_left]

end VlfGateway.SampleWriter
