import VlfGateway.RadioFrame
import VlfGateway.RadioUpload
import VlfGateway.SampleWriter

/-!
# What a received frame does

The receive callback looks at the first octet of the slot: debug messages and
requests for the time are answered, records are acknowledged and stored. Slots
are reused without being cleared. The first octet is read whatever the length
of the frame, and a record is copied from a fixed place behind five octets
that the length check leaves out; so octets of older frames can take part.
-/

namespace VlfGateway.RadioDispatch

open GatewayClock MemoryStore PrintfText RadioFrame RadioQueue RadioUpload RecordChecksum
open SampleWriter SdCard

/-- The globals the callback works on, with the records handed to
`put_sample` so far. -/
structure Station where
  /-- Radio, store and console. -/
  receiver : Receiver
  /-- `current_time` and `time_valid`. -/
  clock : Clock
  /-- `write_block`. -/
  writeBlock : Record
  /-- Arguments of `put_sample`, oldest first. -/
  puts : List Record

/-- What the radio, the timer, the card and the C library answer during one
callback. -/
structure CallbackReplies where
  /-- Consume index that ends a wait for a free slot. -/
  drained : Option (Fin numTxFrames)
  /-- Readings of `LPC_TIM3->TC` in order. -/
  timers : ℕ → UInt32
  /-- The card's answer to the record. -/
  data : WriteReply
  /-- The card's answer to the index page. -/
  page : WriteReply
  /-- `ctime`. -/
  ctime : UInt32 → List Char

/-- Octet `i` of a slot. -/
def octetAt (rx : RxSlot) (i : ℕ) : UInt8 := rx.data.octets.getD i 0

/-- `%s` of the octets from index one on, as far as they are in the buffer. -/
def debugText (rx : RxSlot) : List Char :=
  ((rx.data.octets.drop 1).takeWhile (·≠0)).map fun octet => Char.ofNat octet.toNat

/-- `radio_debug_frame`. -/
def radioDebugFrame (rx : RxSlot) (replies : CallbackReplies) (station : Station) : Option Station :=
  (radifSend [0x44,0x44,0x44,0x44] 4 rx.sourceAddress 1 replies.drained station.receiver.radif).map
    fun radif => {station with receiver := {station.receiver with
      radif := radif
      console := station.receiver.console++"Remote Debug: ".toList++debugText rx}}

/-- Answer to a request for the time: the 64 bits from the lowest octet on. -/
def timePacket (time : UInt64) : List UInt8 :=
  0x54::(wordOctets time.toUInt32++wordOctets (time >>> 32).toUInt32)

/-- The first part of `radio_timereq_frame`. Printing the time brings the
clock up to the timer once more. -/
def answerTime (rx : RxSlot) (replies : CallbackReplies) (station : Station) : Option Station :=
  if isTimeValid station.clock then
    let now := getCurrentTime (replies.timers 0) station.clock
    let printed := getCurrentTime (replies.timers 1) now.2
    (radifSend (timePacket now.1) 9 rx.sourceAddress 1 replies.drained station.receiver.radif).map
      fun radif => {station with
        clock := printed.2
        receiver := {station.receiver with
          radif := radif
          console := station.receiver.console++"Transmitting current time... ".toList++
            "Gateway time is ".toList++replies.ctime printed.1.toUInt32++"\n".toList}}
  else some {station with receiver := {station.receiver with
    console := station.receiver.console++
      "Ignoring request for time: Our Time is Invalid\n".toList}}

/-- `radio_timereq_frame`. -/
def radioTimereqFrame (rx : RxSlot) (replies : CallbackReplies) (station : Station) :
    Option Station :=
  (answerTime rx replies station).map fun answered =>
    let written := writeSampleToMem ((61 : UInt32) <<< 26) rx.energyDetect.toUInt32 0 0 (replies.timers 2)
      (replies.timers 3) replies.data replies.page
      ⟨answered.clock,answered.writeBlock,answered.receiver.store⟩
    {receiver := {answered.receiver with store := written.store}
     clock := written.clock
     writeBlock := written.writeBlock
     puts := answered.puts++[written.writeBlock]}

/-- The record that `block_uploaded` hands to `put_sample`. -/
def offeredRecord (rx : RxSlot) : Option Record :=
  if memoryRecordSize≤rx.length.toNat then
    if evaluateChecksum (frameRecord rx.toRxFrame) then some (frameRecord rx.toRxFrame) else none
  else none

/-- `%02X`. -/
def upperHexPadded (w n : ℕ) : List Char := (hexPadded w n).map Char.toUpper

/-- `rf212_rx_callback`. -/
def rf212RxCallback (rx : RxSlot) (replies : CallbackReplies) (station : Station) : Option Station :=
  if octetAt rx 0=0x44 then radioDebugFrame rx replies station
  else if octetAt rx 0=0x54 then radioTimereqFrame rx replies station
  else if octetAt rx 0=0x55 then
    (blockUploaded rx.toRxFrame ⟨replies.drained,replies.timers 0,replies.data,replies.page⟩
      station.receiver).map fun receiver =>
        {station with receiver := receiver,puts := station.puts++(offeredRecord rx).toList}
  else some {station with receiver := {station.receiver with
    console := station.receiver.console++"Unknown radio frame type '".toList++
      [Char.ofNat (octetAt rx 0).toNat]++"' received from ".toList++
      upperHexPadded 2 rx.sourceAddress.toNat++"\n".toList}}

/-- What a callback leaves behind: queued replies, the store, the clock and
the calls of `put_sample`. -/
structure Effect where
  /-- The transmit ring. -/
  radif : Radif
  /-- The record store. -/
  store : Store
  /-- The clock. -/
  clock : Clock
  /-- Arguments of `put_sample`. -/
  puts : List Record

/-- The effect visible in a station. -/
def Station.effect (station : Station) : Effect :=
  ⟨station.receiver.radif,station.receiver.store,station.clock,station.puts⟩

/-- The effect of a frame. -/
def frameEffect (rx : RxSlot) (replies : CallbackReplies) (station : Station) : Option Effect :=
  (rf212RxCallback rx replies station).map Station.effect

/-- Two slots hold the same received frame and may differ in what older frames
left behind. -/
structure SameReceived (a b : RxSlot) : Prop where
  /-- Equal lengths. -/
  length : a.length=b.length
  /-- Equal senders. -/
  source : a.sourceAddress=b.sourceAddress
  /-- Equal signal strengths. -/
  energy : a.energyDetect=b.energyDetect
  /-- Equal received octets. -/
  octets : a.data.octets.take a.length.toNat=b.data.octets.take a.length.toNat

/-- The frame decides on its own what happens: it has a type octet, and a
record frame either has all of its record, or is too short for any record, or
the part of the checksum that did arrive is wrong already. -/
def ReceivedWhole (rx : RxSlot) : Prop :=
  0<rx.length.toNat ∧ (octetAt rx 0=0x55 → memoryRecordSize≤rx.length.toNat → rx.length.toNat<29 →
    ((frameRecord rx.toRxFrame).octets.take (rx.length.toNat-5)).drop 20≠
      (wordOctets (calculateChecksum (frameRecord rx.toRxFrame))).take (rx.length.toNat-25))

/-! ## Effects by type of frame -/

/-- A debug message has the same effect as any other from the same node. -/
theorem radioDebugFrame_effect {a b : RxSlot} (hsource : a.sourceAddress=b.sourceAddress)
    (replies : CallbackReplies) (station : Station) :
    (radioDebugFrame a replies station).map Station.effect=
      (radioDebugFrame b replies station).map Station.effect := by
  unfold radioDebugFrame
  rw [Option.map_map,Option.map_map,hsource]
  rfl

/-- A request for the time is read for its sender and its strength only. -/
theorem radioTimereqFrame_congr {a b : RxSlot} (hsource : a.sourceAddress=b.sourceAddress)
    (henergy : a.energyDetect=b.energyDetect) (replies : CallbackReplies) (station : Station) :
    radioTimereqFrame a replies station=radioTimereqFrame b replies station := by
  unfold radioTimereqFrame answerTime
  rw [hsource,henergy]

/-- Answering for the time stores nothing. -/
theorem answerTime_puts {rx : RxSlot} {replies : CallbackReplies} {station answered : Station}
    (h : answerTime rx replies station=some answered) : answered.puts=station.puts := by
  unfold answerTime at h
  dsimp only at h
  split at h
  · rw [Option.map_eq_some_iff] at h
    obtain ⟨radif,_,rfl⟩ := h
    rfl
  · rw [← Option.some.inj h]

/-- The effect of a record frame follows from the record it offers. -/
theorem upload_effect {rx : RxSlot} (hkind : octetAt rx 0=0x55) (replies : CallbackReplies)
    (station : Station) :
    frameEffect rx replies station=match offeredRecord rx with
      | none => some station.effect
      | some record =>
        (radifSend (ackPacket (getMemoryAddressFromRx rx.toRxFrame) (getChecksum record)) 9
          rx.sourceAddress 1 replies.drained station.receiver.radif).map fun radif =>
            ⟨radif,(putSample station.receiver.store record (replies.timers 0) replies.data
              replies.page).2,station.clock,station.puts++[record]⟩ := by
  unfold frameEffect rf212RxCallback
  rw [hkind,if_neg (by decide),if_neg (by decide),if_pos rfl,Option.map_map]
  unfold blockUploaded offeredRecord evaluateChecksum
  dsimp only
  by_cases hlength : memoryRecordSize≤rx.length.toNat
  · rw [if_pos hlength,if_pos hlength]
    by_cases hsum : getChecksum (frameRecord rx.toRxFrame)=calculateChecksum (frameRecord rx.toRxFrame)
    · rw [if_pos hsum,if_pos (beq_iff_eq.mpr hsum)]
      unfold sendUploadAck
      rw [Option.map_map,Option.map_map]
      rfl
    · rw [if_neg hsum,if_neg (mt beq_iff_eq.mp hsum)]
      simp only [Option.map_some,Function.comp_apply,Option.toList_none,List.append_nil]
      rfl
  · rw [if_neg hlength,if_neg hlength]
    simp only [Option.map_some,Function.comp_apply,Option.toList_none,List.append_nil]
    rfl

/-- A frame of no known type has no effect. -/
theorem unknown_effect {rx : RxSlot} (hdebug : octetAt rx 0≠0x44) (htime : octetAt rx 0≠0x54)
    (hupload : octetAt rx 0≠0x55) (replies : CallbackReplies) (station : Station) :
    frameEffect rx replies station=some station.effect := by
  unfold frameEffect rf212RxCallback
  rw [if_neg hdebug,if_neg htime,if_neg hupload]
  rfl

/-- A request for the time always offers a record. -/
theorem timereq_effect_ne {rx : RxSlot} (hkind : octetAt rx 0=0x54) (replies : CallbackReplies)
    (station : Station) : frameEffect rx replies station≠some station.effect := by
  intro h
  unfold frameEffect rf212RxCallback radioTimereqFrame at h
  rw [hkind,if_neg (by decide),if_pos rfl,Option.map_map,Option.map_eq_some_iff] at h
  obtain ⟨answered,hanswered,heffect⟩ := h
  have hputs := congrArg (fun effect => effect.puts.length) heffect
  simp only [Function.comp_apply,Station.effect,List.length_append,List.length_singleton,
    answerTime_puts hanswered] at hputs
  omega

/-- A record frame with a record that passes offers it. -/
theorem upload_effect_ne {rx : RxSlot} (hkind : octetAt rx 0=0x55)
    (hlength : memoryRecordSize≤rx.length.toNat)
    (hsum : evaluateChecksum (frameRecord rx.toRxFrame)=true) (replies : CallbackReplies)
    (station : Station) : frameEffect rx replies station≠some station.effect := by
  have hoffered : offeredRecord rx=some (frameRecord rx.toRxFrame) := by
    rw [offeredRecord,if_pos hlength,if_pos hsum]
  intro h
  rw [upload_effect hkind,hoffered,Option.map_eq_some_iff] at h
  obtain ⟨radif,_,heffect⟩ := h
  have hputs := congrArg (fun effect => effect.puts.length) heffect
  simp only [Station.effect,List.length_append,List.length_singleton] at hputs
  omega

/-- A record frame whose record fails has no effect. -/
theorem upload_effect_failed {rx : RxSlot} (hkind : octetAt rx 0=0x55)
    (hsum : evaluateChecksum (frameRecord rx.toRxFrame)=false) (replies : CallbackReplies)
    (station : Station) : frameEffect rx replies station=some station.effect := by
  have hoffered : offeredRecord rx=none := by
    rw [offeredRecord,hsum]
    simp only [Bool.false_eq_true,if_false,ite_self]
  rw [upload_effect hkind,hoffered]

/-! ## Received octets of a record -/

/-- Received octets are the same in both slots. -/
theorem SameReceived.octet {a b : RxSlot} (h : SameReceived a b) {i : ℕ} (hi : i<a.length.toNat) :
    octetAt a i=octetAt b i := by
  have hget := congrArg (fun octets => octets[i]?) h.octets
  simp only [List.getElem?_take_of_lt hi] at hget
  rw [octetAt,octetAt,List.getD_eq_getElem?_getD,List.getD_eq_getElem?_getD,hget]

/-- Received octets that lie in the record. -/
theorem SameReceived.recordTake {a b : RxSlot} (h : SameReceived a b) {n : ℕ}
    (hn : n+5≤a.length.toNat) :
    (frameRecord a.toRxFrame).octets.take n=(frameRecord b.toRxFrame).octets.take n := by
  have htake : ∀ rx : RxSlot,(frameRecord rx.toRxFrame).octets.take n=
      (((rx.data.octets.take a.length.toNat).drop 5).take n).take memoryRecordSize := by
    intro rx
    rw [List.drop_take,List.take_take,List.take_take,frameRecord]
    dsimp only
    rw [List.take_take]
    congr 1
    omega
  rw [htake a,htake b,h.octets]

/-- The memory address of a record frame is among the received octets. -/
theorem SameReceived.memoryAddress {a b : RxSlot} (h : SameReceived a b)
    (hlength : memoryRecordSize≤a.length.toNat) :
    getMemoryAddressFromRx a.toRxFrame=getMemoryAddressFromRx b.toRxFrame := by
  have hoctet : ∀ i,i<5 → a.data.octets.getD i 0=b.data.octets.getD i 0 := by
    intro i hi
    exact h.octet (i:=i) (lt_of_lt_of_le (lt_trans hi (by decide)) hlength)
  unfold getMemoryAddressFromRx
  dsimp only
  rw [hoctet 1 (by decide),hoctet 2 (by decide),hoctet 3 (by decide),hoctet 4 (by decide)]

/-- A record that passes has the received part of its checksum right. -/
theorem passed_received {record : Record} (hsum : evaluateChecksum record=true) (n : ℕ) :
    (record.octets.take (n-5)).drop 20=(wordOctets (calculateChecksum record)).take (n-25) := by
  have hstored : record.octets.drop 20=wordOctets (calculateChecksum record) :=
    (evaluateChecksum_iff record).mp hsum
  rw [List.drop_take,hstored,Nat.sub_sub]

/-- A frame that decides on its own offers the same record from every slot. -/
theorem offeredRecord_eq {a b : RxSlot} (h : SameReceived a b) (hkind : octetAt a 0=0x55)
    (hwhole : ReceivedWhole a) : offeredRecord a=offeredRecord b := by
  unfold offeredRecord
  rw [← h.length]
  by_cases hlength : memoryRecordSize≤a.length.toNat
  · rw [if_pos hlength,if_pos hlength]
    by_cases hrecord : 29≤a.length.toNat
    · have hsame : frameRecord a.toRxFrame=frameRecord b.toRxFrame := by
        apply Record.ext_octets
        have htake := h.recordTake (n:=memoryRecordSize) hrecord
        rwa [List.take_of_length_le (frameRecord a.toRxFrame).size.le,
          List.take_of_length_le (frameRecord b.toRxFrame).size.le] at htake
      rw [hsame]
    · have hpart := hwhole.2 hkind hlength (by omega)
      have ha : evaluateChecksum (frameRecord a.toRxFrame)≠true := by
        intro hsum
        exact hpart (passed_received hsum _)
      have hb : evaluateChecksum (frameRecord b.toRxFrame)≠true := by
        intro hsum
        apply hpart
        rw [h.recordTake (n:=a.length.toNat-5) (by simp only [memoryRecordSize] at hlength; omega),
          passed_received hsum]
        by_cases hshort : a.length.toNat-25=0
        · rw [hshort,List.take_zero,List.take_zero]
        · rw [calculateChecksum_congr (h.recordTake (n:=memoryRecordSize-4)
            (by simp only [memoryRecordSize]; omega))]
      rw [if_neg ha,if_neg hb]
  · rw [if_neg hlength,if_neg hlength]

/-- A frame that decides on its own has the same effect from every slot. -/
theorem frameEffect_eq {a b : RxSlot} (h : SameReceived a b) (hwhole : ReceivedWhole a)
    (replies : CallbackReplies) (station : Station) :
    frameEffect b replies station=frameEffect a replies station := by
  have htype := h.octet hwhole.1
  by_cases hdebug : octetAt a 0=0x44
  · unfold frameEffect rf212RxCallback
    rw [if_pos hdebug,if_pos (htype.symm.trans hdebug)]
    exact (radioDebugFrame_effect h.source replies station).symm
  by_cases htime : octetAt a 0=0x54
  · unfold frameEffect rf212RxCallback
    rw [if_neg hdebug,if_neg (htype ▸ hdebug),if_pos htime,if_pos (htype.symm.trans htime),
      radioTimereqFrame_congr h.source h.energy]
  by_cases hupload : octetAt a 0=0x55
  · rw [upload_effect (htype.symm.trans hupload),upload_effect hupload,
      ← offeredRecord_eq h hupload hwhole,h.source]
    cases hoffered : offeredRecord a with
    | none => rfl
    | some record =>
      have hlength : memoryRecordSize≤a.length.toNat := by
        by_contra hshort
        rw [offeredRecord,if_neg hshort] at hoffered
        cases hoffered
      rw [h.memoryAddress hlength]
  · rw [unknown_effect hdebug htime hupload,
      unknown_effect (htype ▸ hdebug) (htype ▸ htime) (htype ▸ hupload)]

/-! ## Frames completed by what was there before -/

/-- The same frame in a slot with other octets. -/
def inSlot (rx : RxSlot) (octets : List UInt8) (hsize : octets.length=frameDataSize) : RxSlot :=
  {rx with data := ⟨octets,hsize⟩}

/-- Octets that agree where the frame was received hold the same frame. -/
theorem sameReceived_inSlot {rx : RxSlot} {octets : List UInt8} (hsize : octets.length=frameDataSize)
    (h : rx.data.octets.take rx.length.toNat=octets.take rx.length.toNat) :
    SameReceived rx (inSlot rx octets hsize) := ⟨rfl,rfl,rfl,h⟩

/-- A frame without octets takes its type from an older frame. -/
theorem empty_frame_depends {rx : RxSlot} (hlength : rx.length.toNat=0) (replies : CallbackReplies)
    (station : Station) :
    ¬∀ b,SameReceived rx b → frameEffect b replies station=frameEffect rx replies station := by
  intro h
  have hsize : ∀ octet,(octet::rx.data.octets.drop 1).length=frameDataSize := by
    intro octet
    rw [List.length_cons,List.length_drop,rx.data.size]
    rfl
  have hsame : ∀ octet,SameReceived rx (inSlot rx _ (hsize octet)) := by
    intro octet
    apply sameReceived_inSlot
    rw [hlength,List.take_zero,List.take_zero]
  have htimereq : frameEffect (inSlot rx _ (hsize 0x54)) replies station≠some station.effect :=
    timereq_effect_ne rfl replies station
  have hzero : octetAt (inSlot rx _ (hsize 0x00)) 0=0x00 := rfl
  have hunknown := unknown_effect (hzero.trans_ne (by decide)) (hzero.trans_ne (by decide))
    (hzero.trans_ne (by decide)) replies station
  rw [h _ (hsame 0x54)] at htimereq
  rw [h _ (hsame 0x00)] at hunknown
  exact htimereq hunknown

/-- The octets of a slot with the word `checksum` at the place of a record's
checksum. -/
def checksummed (rx : RxSlot) (checksum : List UInt8) : List UInt8 :=
  rx.data.octets.take 25++checksum++rx.data.octets.drop 29

section
variable {rx : RxSlot} {checksum : List UInt8} (hchecksum : checksum.length=4)
include hchecksum

/-- The buffer keeps its size. -/
theorem checksummed_length : (checksummed rx checksum).length=frameDataSize := by
  rw [checksummed,List.length_append,List.length_append,List.length_take,List.length_drop,
    rx.data.size,hchecksum]
  rfl

/-- The record of the slot with the new checksum. -/
theorem frameRecord_checksummed :
    (frameRecord (inSlot rx (checksummed rx checksum)
        (checksummed_length hchecksum)).toRxFrame).octets=
      (frameRecord rx.toRxFrame).octets.take (memoryRecordSize-4)++checksum := by
  have htake : (rx.data.octets.take 25).length=25 := by
    rw [List.length_take,rx.data.size]
    rfl
  unfold frameRecord inSlot checksummed
  dsimp only
  rw [List.append_assoc,List.drop_append_of_le_length (by rw [htake]; decide),List.drop_take,
    ←List.append_assoc,List.take_take]
  refine (List.take_left' ?_).trans rfl
  rw [List.length_append,hchecksum,List.length_take,List.length_drop,rx.data.size]
  rfl

/-- The record with the new checksum passes exactly when the new checksum is
the one of the data. -/
theorem evaluateChecksum_checksummed :
    evaluateChecksum (frameRecord (inSlot rx (checksummed rx checksum)
        (checksummed_length hchecksum)).toRxFrame)=true ↔
      checksum=wordOctets (calculateChecksum (frameRecord rx.toRxFrame)) := by
  have hlength : ((frameRecord rx.toRxFrame).octets.take (memoryRecordSize-4)).length=
      memoryRecordSize-4 := by
    rw [List.length_take,(frameRecord rx.toRxFrame).size]
    rfl
  have hsum : calculateChecksum (frameRecord (inSlot rx (checksummed rx checksum)
      (checksummed_length hchecksum)).toRxFrame)=calculateChecksum (frameRecord rx.toRxFrame) := by
    apply calculateChecksum_congr
    rw [frameRecord_checksummed hchecksum,List.take_left' hlength]
  rw [evaluateChecksum_iff,hsum,frameRecord_checksummed hchecksum,List.drop_left' hlength]

/-- The slot still holds the frame when the received part of the checksum
stays. -/
theorem sameReceived_checksummed (hlength : rx.length.toNat<29)
    (h : ((frameRecord rx.toRxFrame).octets.take (rx.length.toNat-5)).drop 20=
      checksum.take (rx.length.toNat-25)) :
    SameReceived rx (inSlot rx (checksummed rx checksum) (checksummed_length hchecksum)) := by
  have htake : (rx.data.octets.take 25).length=25 := by
    rw [List.length_take,rx.data.size]
    rfl
  apply sameReceived_inSlot
  have hpart : (rx.data.octets.take rx.length.toNat).drop 25=checksum.take (rx.length.toNat-25) := by
    rw [← h,frameRecord]
    dsimp only
    rw [List.take_take,List.drop_take,List.drop_take,List.drop_drop]
    congr 1
    simp only [memoryRecordSize]
    omega
  rw [checksummed,List.append_assoc,List.take_append,htake,
    List.take_append_of_le_length (by rw [hchecksum]; omega),←hpart,List.take_take,Nat.min_comm,
    ←List.take_take,List.take_append_drop]

end

/-- A record frame that was cut short takes the rest of its record from an
older frame, unless its checksum is wrong already. -/
theorem cut_frame_depends {rx : RxSlot} (hkind : octetAt rx 0=0x55)
    (hrecord : memoryRecordSize≤rx.length.toNat) (hlength : rx.length.toNat<29)
    (hpart : ((frameRecord rx.toRxFrame).octets.take (rx.length.toNat-5)).drop 20=
      (wordOctets (calculateChecksum (frameRecord rx.toRxFrame))).take (rx.length.toNat-25))
    (replies : CallbackReplies) (station : Station) :
    ¬∀ b,SameReceived rx b → frameEffect b replies station=frameEffect rx replies station := by
  intro h
  have hreceived : 0<rx.length.toNat := lt_of_lt_of_le (by decide) hrecord
  generalize hright : wordOctets (calculateChecksum (frameRecord rx.toRxFrame))=right at hpart
  have hfour : right.length=4 := by
    rw [← hright]
    rfl
  -- The last octet of the checksum is missing from every frame in question.
  have hwrongLength : (right.set 3 (right.getD 3 0+1)).length=4 := by
    rw [List.length_set,hfour]
  have hwrong : right.set 3 (right.getD 3 0+1)≠right := by
    intro hset
    have hlast := congrArg (fun octets => octets[3]?) hset
    have hthree : 3<right.length := by
      rw [hfour]
      decide
    simp only [List.getElem?_set_self hthree,List.getElem?_eq_getElem hthree,Option.some.injEq,
      List.getD_eq_getElem?_getD,Option.getD_some] at hlast
    exact absurd hlast (by simp)
  have hsame := sameReceived_checksummed hfour hlength hpart
  have hsame' := sameReceived_checksummed hwrongLength hlength
    (by rw [hpart,List.take_set_of_le (by omega)])
  have hpasses := (@evaluateChecksum_checksummed rx _ hfour).mpr hright.symm
  have hfails := mt (@evaluateChecksum_checksummed rx _ hwrongLength).mp
    (by rw [hright]; exact hwrong)
  apply upload_effect_ne ((hsame.octet hreceived).symm.trans hkind) hrecord hpasses replies station
  rw [h _ hsame,←h _ hsame']
  exact upload_effect_failed ((hsame'.octet hreceived).symm.trans hkind)
    (Bool.eq_false_of_not_eq_true hfails) replies station

/-- The effect of a frame is independent of what older frames left in the slot
exactly when the frame decides on its own. -/
theorem effect_received_iff (rx : RxSlot) (replies : CallbackReplies) (station : Station) :
    (∀ b,SameReceived rx b → frameEffect b replies station=frameEffect rx replies station) ↔
      ReceivedWhole rx := by
  constructor
  · intro h
    constructor
    · by_contra hlength
      exact empty_frame_depends (by omega) replies station h
    · intro hkind hrecord hlength hpart
      exact cut_frame_depends hkind hrecord hlength hpart replies station h
  · intro hwhole b hsame
    exact frameEffect_eq hsame hwhole replies station

/-- The first twenty-four octets of a record frame, over the rest of an older
copy of the same frame or over zeros. -/
def cutSlot (stale : Bool) : RxSlot :=
  ⟨⟨if stale then zeroFrame.data else ⟨0x55::0x02::List.replicate 125 0x00,rfl⟩,24,7⟩,0,0⟩

/-- A gateway with an idle radio and an empty store of ten blocks. -/
def idleStation : Station :=
  ⟨idleReceiver (memoryInit (formattedCard 11 ⟨3,1⟩) [0x00]),Clock.reset,Record.blank,[]⟩

/-- The radio and the card take everything. -/
def readyReplies : CallbackReplies := ⟨none,fun _ => 5,.good,.good,fun _ => []⟩

/-- A frame with all of its record is independent of the slot. -/
theorem whole_frame_effect :
    ReceivedWhole ⟨zeroFrame,0,0⟩ ∧ ∀ b,SameReceived ⟨zeroFrame,0,0⟩ b →
      frameEffect b readyReplies idleStation=
        frameEffect ⟨zeroFrame,0,0⟩ readyReplies idleStation := by
  have hwhole : ReceivedWhole ⟨zeroFrame,0,0⟩ := ⟨by decide,fun _ _ hcut => absurd hcut (by decide)⟩
  exact ⟨hwhole,(effect_received_iff _ _ _).mpr hwhole⟩

/-- A frame of the length of a record is five octets short of its record. Over
an older frame it is offered to the store, over zeros it is not. -/
theorem cut_frame_offered :
    SameReceived (cutSlot true) (cutSlot false) ∧
      (frameEffect (cutSlot true) readyReplies idleStation).map Effect.puts=
        some [frameRecord zeroFrame] ∧
      (frameEffect (cutSlot false) readyReplies idleStation).map Effect.puts=some [] := by
  have hstale : offeredRecord (cutSlot true)=some (frameRecord zeroFrame) := by
    rw [offeredRecord,if_pos (by decide)]
    exact if_pos zeroFrame_wellFormed.2
  have hfresh : evaluateChecksum (frameRecord (cutSlot false).toRxFrame)=false := by
    decide +kernel
  refine ⟨⟨rfl,rfl,rfl,rfl⟩,?_,?_⟩
  · rw [upload_effect rfl,hstale]
    rfl
  · rw [upload_effect_failed rfl hfresh]
    rfl

end VlfGateway.RadioDispatch
