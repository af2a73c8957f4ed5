import VlfGateway.RadioDriver

/-!
# What the radio driver says on the bus

A register access is four calls of the hardware functions. A frame is a row of
transfers, and what they return is the stream on which reading and writing
frames was described before; a change of state is a row of register accesses,
and their values are the answers on which it was described.
-/

namespace VlfGateway.RadioTalk

open AskProgram RadioDriver
open RadioFrame (RxSlot Sender Spi)
open RadioState (RadioAccess Radio)

/-! ## Register accesses -/

/-- The calls of a register read. -/
def readTalk (addr echo value : UInt8) : Talk :=
  [⟨.spiStart,()⟩,⟨.spiXfer (addr ||| radioSpiCmdRr),echo⟩,
    ⟨.spiXfer RadioFrame.blankSpiCharacter,value⟩,⟨.spiStop,()⟩]

/-- The calls of a register write. -/
def writeTalk (addr value echo reply : UInt8) : Talk :=
  [⟨.spiStart,()⟩,⟨.spiXfer (addr ||| radioSpiCmdRw),echo⟩,⟨.spiXfer value,reply⟩,⟨.spiStop,()⟩]

/-- A register read is its four calls. -/
theorem yields_radioRegRead {addr value : UInt8} {talk : Talk} :
    Yields (radioRegRead addr) talk value ↔ ∃ echo,talk=readTalk addr echo value := by
  unfold radioRegRead spiStart spiXfer spiStop
  constructor
  · intro h
    obtain ⟨_,_,_,rfl,hstart,h⟩ := yields_bind.mp h
    obtain ⟨_,echo,_,rfl,hecho,h⟩ := yields_bind.mp h
    obtain ⟨_,answer,_,rfl,hanswer,h⟩ := yields_bind.mp h
    obtain ⟨_,_,_,rfl,hstop,h⟩ := yields_bind.mp h
    obtain ⟨rfl,rfl⟩ := yields_pure.mp h
    rw [yields_once.mp hstart,yields_once.mp hecho,yields_once.mp hanswer,yields_once.mp hstop]
    exact ⟨echo,rfl⟩
  · rintro ⟨echo,rfl⟩
    exact .ask (.ask (.ask (.ask (.done value))))

/-- A register write is its four calls. -/
theorem yields_radioRegWrite {addr value : UInt8} {talk : Talk}
    (h : Yields (radioRegWrite addr value) talk ()) :
    ∃ echo reply,talk=writeTalk addr value echo reply := by
  unfold radioRegWrite spiStart spiXfer spiStop at h
  obtain ⟨_,_,_,rfl,hstart,h⟩ := yields_bind.mp h
  obtain ⟨_,echo,_,rfl,hecho,h⟩ := yields_bind.mp h
  obtain ⟨_,reply,_,rfl,hreply,h⟩ := yields_bind.mp h
  rw [yields_once.mp hstart,yields_once.mp hecho,yields_once.mp hreply,yields_once.mp h]
  exact ⟨echo,reply,rfl⟩

/-- Reading the state is a read of `TRX_STATUS`. -/
theorem yields_radioGetState {state : UInt8} {talk : Talk} (h : Yields radioGetState talk state) :
    ∃ echo status,talk=readTalk RadioState.trxStatus echo status ∧
      RadioState.stateOf status=state := by
  obtain ⟨_,status,_,rfl,hread,h⟩ := yields_bind.mp h
  obtain ⟨rfl,rfl⟩ := yields_pure.mp h
  obtain ⟨echo,rfl⟩ := yields_radioRegRead.mp hread
  exact ⟨echo,status,List.append_nil _,rfl⟩

/-! ## Rows of transfers -/

/-- The exchange is a transfer of one octet. -/
def IsXfer : Exchange Wire Wire.Answer → Prop
  | ⟨.spiXfer _,_⟩ => True
  | _ => False

/-- The transfers are those of a stream, from one place to another. -/
inductive Heard : Talk → Spi → Spi → Prop
  /-- Nothing was transferred. -/
  | nil (spi : Spi) : Heard [] spi spi
  /-- One octet was transferred. -/
  | xfer {data : UInt8} {rest : Talk} {spi spi' : Spi} : Heard rest (spi.after [data]) spi' →
      Heard (⟨.spiXfer data,spi.ahead 0⟩::rest) spi spi'

/-- The answer to a transfer. -/
def answerOf : Exchange Wire Wire.Answer → Option UInt8
  | ⟨.spiXfer _,answer⟩ => some answer
  | _ => none

/-- The stream of the answers in a conversation. -/
def heardIn (talk : Talk) : Spi := RadioFrame.answering (talk.filterMap answerOf)

/-- A row of transfers is heard on every stream that starts with its answers. -/
theorem exists_heard {talk : Talk} (h : ∀ exchange∈talk,IsXfer exchange) {spi : Spi}
    (hahead : ∀ k answer,(talk.filterMap answerOf)[k]?=some answer → spi.ahead k=answer) :
    ∃ spi',Heard talk spi spi' := by
  induction talk generalizing spi with
  | nil => exact ⟨spi,.nil spi⟩
  | cons exchange rest ih =>
    obtain ⟨hfirst,hrest⟩ := List.forall_mem_cons.mp h
    obtain ⟨question,answer⟩ := exchange
    cases question with
    | spiXfer data =>
      have hnext : ∀ k later,(rest.filterMap answerOf)[k]?=some later →
          (spi.after [data]).ahead k=later := by
        intro k later hlater
        rw [Spi.ahead_after,List.length_singleton,Nat.add_comm]
        exact hahead (k+1) later hlater
      obtain ⟨spi',hheard⟩ := ih hrest hnext
      obtain rfl : spi.ahead 0=answer := hahead 0 answer rfl
      exact ⟨spi',.xfer hheard⟩
    | _ => exact hfirst.elim

/-- A row of transfers is heard at the start of its conversation's stream. -/
theorem heard_in {talk : Talk} (h : ∀ exchange∈talk,IsXfer exchange) (rest : Talk) :
    ∃ spi',Heard talk (heardIn (talk++rest)) spi' := by
  refine exists_heard h fun k answer hanswer => ?_
  obtain ⟨hk,-⟩ := List.getElem?_eq_some_iff.mp hanswer
  change ((talk++rest).filterMap answerOf).getD (0+k) 0=answer
  rw [Nat.zero_add,List.getD_eq_getElem?_getD,List.filterMap_append,List.getElem?_append_left hk,
    hanswer]
  rfl

/-- A row in two parts is heard in two parts. -/
theorem heard_append {first second : Talk} {spi spi' : Spi} (h : Heard (first++second) spi spi') :
    ∃ middle,Heard first spi middle ∧ Heard second middle spi' := by
  induction first generalizing spi with
  | nil => exact ⟨spi,.nil spi,h⟩
  | cons exchange rest ih =>
    obtain _|hrest := h
    obtain ⟨middle,hfirst,hsecond⟩ := ih hrest
    exact ⟨middle,.xfer hfirst,hsecond⟩

/-- A function of the driver transfers octets only, and computes what a
function of the stream computes. -/
def OnStream {α : Type} (program : Driver α) (stream : Spi → Option (α × Spi)) : Prop :=
  ∀ talk value,Yields program talk value → (∀ exchange∈talk,IsXfer exchange) ∧
    ∀ spi spi',Heard talk spi spi' → stream spi=some (value,spi')

section Streams

variable {α β : Type}

/-- A returned value leaves the stream alone. -/
theorem OnStream.pure (value : α) :
    OnStream (Pure.pure value) (fun spi => some (value,spi)) := by
  intro talk result h
  obtain ⟨rfl,rfl⟩ := yields_pure.mp h
  refine ⟨fun _ hmem => absurd hmem List.not_mem_nil,fun spi spi' hheard => ?_⟩
  obtain _|_ := hheard
  rfl

/-- A transfer takes the next answer. -/
theorem OnStream.xfer (data : UInt8) :
    OnStream (spiXfer data) (fun spi => some (RadioFrame.spiXfer data spi)) := by
  intro talk answer h
  obtain rfl := yields_once.mp h
  refine ⟨fun exchange hmem => ?_,fun spi spi' hheard => ?_⟩
  · rw [List.mem_singleton.mp hmem]
    trivial
  · obtain _|⟨⟨⟩⟩ := hheard
    rfl

/-- A halted program has no conversation to explain. -/
theorem OnStream.halt (stream : Spi → Option (α × Spi)) : OnStream .halt stream :=
  fun _ _ h => absurd h not_yields_halt

/-- A sequence is on the stream part by part. -/
theorem OnStream.bind {program : Driver α} {rest : α → Driver β} {first : Spi → Option (α × Spi)}
    {second : α → Spi → Option (β × Spi)} (hprogram : OnStream program first)
    (hrest : ∀ value,OnStream (rest value) (second value)) :
    OnStream (program >>= rest) (fun spi => (first spi).bind fun result =>
      second result.1 result.2) := by
  intro talk value h
  obtain ⟨before,middle,after,rfl,hbefore,hafter⟩ := yields_bind.mp h
  obtain ⟨hxfers,hfirst⟩ := hprogram _ _ hbefore
  obtain ⟨hothers,hsecond⟩ := hrest _ _ _ hafter
  refine ⟨List.forall_mem_append.mpr ⟨hxfers,hothers⟩,fun spi spi' hheard => ?_⟩
  obtain ⟨place,hone,htwo⟩ := heard_append hheard
  dsimp only
  rw [hfirst _ _ hone]
  exact hsecond _ _ htwo

/-- The stream may be described by any equal function. -/
theorem OnStream.congr {program : Driver α} {first second : Spi → Option (α × Spi)}
    (h : OnStream program first) (heq : ∀ spi,first spi=second spi) : OnStream program second :=
  fun talk value hyields => ⟨(h talk value hyields).1,fun spi spi' hheard => by
    rw [←heq spi]
    exact (h talk value hyields).2 spi spi' hheard⟩

end Streams

/-! ## Frames -/

/-- Reading a word. -/
theorem readSpiWord_onStream :
    OnStream readSpiWord (fun spi => some (RadioFrame.readSpiWord spi)) :=
  (OnStream.xfer _).bind fun _ => (OnStream.xfer _).bind fun _ => .pure _

/-- Writing a word. -/
theorem writeSpiWord_onStream (word : UInt16) :
    OnStream (writeSpiWord word) (fun spi => some ((),RadioFrame.writeSpiWord word spi)) :=
  (OnStream.xfer _).bind fun _ => (OnStream.xfer _).bind fun _ => .pure _

/-- Reading the destination fields. -/
theorem readDestination_onStream (destAddrMode : UInt16) (read : UInt8) :
    OnStream (readDestination destAddrMode read)
      (fun spi => some (RadioFrame.readDestination destAddrMode read spi)) := by
  unfold readDestination RadioFrame.readDestination
  split
  · exact readSpiWord_onStream.bind fun _ => readSpiWord_onStream.bind fun _ => .pure _
  · split
    · exact readSpiWord_onStream.bind fun _ => .pure _
    · exact .pure _

/-- Reading the PAN ID of the source. -/
theorem readSourcePanId_onStream (panIdCompression : UInt16) (read : UInt8) :
    OnStream (readSourcePanId panIdCompression read)
      (fun spi => some (RadioFrame.readSourcePanId panIdCompression read spi)) := by
  unfold readSourcePanId RadioFrame.readSourcePanId
  split
  · exact .pure _
  · exact readSpiWord_onStream.bind fun _ => .pure _

/-- The source fields on the stream. -/
def sourceOn (rx : RxSlot) (fcf : UInt16) (read : UInt8) (spi : Spi) : (UInt8 × RxSlot) × Spi :=
  if (fcf >>> 14) &&& 0x3=RadioFrame.framePanId16bitAddr then
    let panId := RadioFrame.readSourcePanId (fcf &&& RadioFrame.fcfPanIdCompression) read spi
    let source := RadioFrame.readSpiWord panId.2
    ((panId.1+2,{rx with sourceAddress := source.1}),source.2)
  else if (fcf >>> 14) &&& 0x3=RadioFrame.framePanId64bitAddr then
    let panId := RadioFrame.readSourcePanId (fcf &&& RadioFrame.fcfPanIdCompression) read spi
    ((panId.1,rx),panId.2)
  else ((read,rx),spi)

/-- Reading the source fields. -/
theorem readSource_onStream (rx : RxSlot) (fcf : UInt16) (read : UInt8) :
    OnStream (readSource rx fcf read) (fun spi => some (sourceOn rx fcf read spi)) := by
  unfold readSource sourceOn
  dsimp only
  split
  · exact (readSourcePanId_onStream _ _).bind fun _ => readSpiWord_onStream.bind fun _ => .pure _
  · split
    · exact (readSourcePanId_onStream _ _).bind fun _ => .pure _
    · exact .pure _

/-- Reading a header. -/
theorem readInIeeeHeader_onStream (rx : RxSlot) :
    OnStream (readInIeeeHeader rx) (fun spi =>
      let header := RadioFrame.readInIeeeHeader rx spi
      some ((header.1,header.2.1),header.2.2)) := by
  refine (readSpiWord_onStream.bind fun fcf => (OnStream.xfer _).bind fun _ =>
    (readDestination_onStream _ _).bind fun read => readSource_onStream rx fcf read).congr
      fun spi => ?_
  unfold RadioFrame.readInIeeeHeader sourceOn
  simp only [Option.bind_some]
  split
  · rfl
  · split <;> rfl

/-- The payload loop on the stream. -/
def payloadOn : ℕ → ℕ → Filled → Spi → Filled × Spi
  | 0,_,filled,spi => (filled,spi)
  | n+1,i,filled,spi =>
    if i<filled.slot.length.toNat then payloadOn n (i+1) (filled.store i (spi.ahead 0)) (spi.skip 1)
    else (filled,spi)

/-- Reading the payload. -/
theorem readPayload_onStream (n i : ℕ) (filled : Filled) :
    OnStream (readPayload n i filled) (fun spi => some (payloadOn n i filled spi)) := by
  induction n generalizing i filled with
  | zero => exact .pure filled
  | succ n ih =>
    unfold readPayload payloadOn
    split
    · exact (OnStream.xfer _).bind fun octet => ih (i+1) (filled.store i octet)
    · exact .pure filled

/-- A frame read on the stream. -/
def frameOn (rx : RxSlot) (spi : Spi) : Filled × Spi :=
  let header := RadioFrame.readInIeeeHeader rx spi.framed
  payloadOn 255 0 ⟨{header.2.1 with length := spi.ahead 1-(header.1+2)},[]⟩ header.2.2

/-- The transfers of a frame read. -/
theorem readFrameOctets_onStream (rx : RxSlot) :
    OnStream (readFrameOctets rx) (fun spi => some (frameOn rx spi)) := by
  refine ((OnStream.xfer _).bind fun _ => (OnStream.xfer _).bind fun mpduLen =>
    (readInIeeeHeader_onStream rx).bind fun header => readPayload_onStream 255 0
      ⟨{header.2 with length := mpduLen-(header.1+2)},[]⟩).congr fun spi => ?_
  have hmpdu : RadioFrame.spiXfer RadioFrame.blankSpiCharacter
      (RadioFrame.spiXfer RadioFrame.radioSpiCmdFr spi).2=(spi.ahead 1,spi.framed) := by
    rw [RadioFrame.spiXfer,RadioFrame.spiXfer,Spi.ahead_after,Spi.after_after]
    rfl
  simp only [Option.bind_some,hmpdu]
  rfl

/-! ## Payloads that leave the buffer -/

/-- The frame is stored behind the end of its slot: its length has wrapped, and
the octet that then replaces the length announces more than a slot has. -/
def Overruns (spi : Spi) : Prop :=
  let header := RadioFrame.headerLen spi.framed.fcf
  RadioQueue.frameDataSize<(spi.ahead 1-(UInt8.ofNat header+2)).toNat ∧
    slotSize<(spi.framed.ahead (header+RadioQueue.frameDataSize)).toNat

instance (spi : Spi) : Decidable (Overruns spi) := by
  unfold Overruns
  infer_instance

/-- A store inside the buffer. -/
theorem store_inside {i : ℕ} (hi : i<RadioQueue.frameDataSize) (filled : Filled) (octet : UInt8) :
    filled.store i octet={filled with slot := {filled.slot with
      data := RadioFrame.putOctet filled.slot.data i octet}} := by
  unfold Filled.store
  rw [if_pos hi]

/-- The first store behind the buffer replaces the length. -/
theorem store_length (filled : Filled) (octet : UInt8) :
    filled.store RadioQueue.frameDataSize octet=
      {filled with slot := {filled.slot with length := octet}} := rfl

/-- Stores behind the length leave it, and reach the next structure from the end
of the slot on. -/
theorem store_behind {i : ℕ} (hi : RadioQueue.frameDataSize < i) (filled : Filled) (octet : UInt8) :
    (filled.store i octet).slot.length=filled.slot.length ∧
      (filled.store i octet).spilled.length=
        filled.spilled.length+if slotSize ≤ i then 1 else 0 := by
  obtain ⟨j,rfl⟩ : ∃ j,i=RadioQueue.frameDataSize+(j+1) := ⟨i-RadioQueue.frameDataSize-1,by omega⟩
  unfold Filled.store
  rw [if_neg (by omega),Nat.add_sub_cancel_left]
  match j with
  | 0 => exact ⟨rfl,rfl⟩
  | 1 => exact ⟨rfl,rfl⟩
  | 2 => exact ⟨rfl,rfl⟩
  | 3 => exact ⟨rfl,rfl⟩
  | j+4 =>
    have hend : slotSize≤RadioQueue.frameDataSize+(j+4+1) := by
      unfold slotSize RadioQueue.frameDataSize
      omega
    rw [if_pos hend]
    exact ⟨rfl,List.length_append⟩

/-- Behind the length the loop spills what reaches over the end of the slot. -/
theorem payloadOn_behind {n i : ℕ} {filled : Filled} (spi : Spi)
    (hi : RadioQueue.frameDataSize < i) (hn : filled.slot.length.toNat ≤ i+n) :
    (payloadOn n i filled spi).1.spilled.length=
      filled.spilled.length+(filled.slot.length.toNat-max i slotSize) := by
  induction n generalizing i filled spi with
  | zero =>
    change filled.spilled.length=_
    omega
  | succ n ih =>
    rw [payloadOn]
    split
    · obtain ⟨hlength,hspilled⟩ := store_behind hi filled (spi.ahead 0)
      rw [ih (spi.skip 1) (by omega) (by rw [hlength]; omega),hlength,hspilled]
      split <;> omega
    · change filled.spilled.length=_
      omega

/-- A length that has wrapped takes the loop through the whole buffer. -/
theorem payloadOn_buffer (k m : ℕ) {i : ℕ} (filled : Filled) (spi : Spi)
    (hi : i+k=RadioQueue.frameDataSize)
    (hlong : RadioQueue.frameDataSize<filled.slot.length.toNat) :
    ∃ data,payloadOn (k+m) i filled spi=payloadOn m RadioQueue.frameDataSize
      {filled with slot := {filled.slot with data := data}} (spi.skip k) := by
  induction k generalizing i filled spi with
  | zero =>
    obtain rfl : i=RadioQueue.frameDataSize := hi
    refine ⟨filled.slot.data,?_⟩
    rw [Nat.zero_add,Spi.skip,List.replicate_zero,Spi.after_nil]
  | succ k ih =>
    obtain ⟨data,hdata⟩ := ih (i:=i+1) (filled.store i (spi.ahead 0)) (spi.skip 1)
      (by omega) (by rw [store_inside (by omega)]; exact hlong)
    refine ⟨data,?_⟩
    rw [show k+1+m=(k+m)+1 by omega,payloadOn,if_pos (by omega),hdata,
      store_inside (by omega),Spi.skip_skip,Nat.add_comm 1 k]

/-- A length that fits keeps the loop inside the buffer, where it does what was
described for it. -/
theorem payloadOn_inside {n i : ℕ} (filled : Filled) (spi : Spi)
    (hi : i ≤ filled.slot.length.toNat)
    (hfits : filled.slot.length.toNat≤RadioQueue.frameDataSize)
    (hn : filled.slot.length.toNat ≤ i+n) :
    ∃ data bus,RadioFrame.readPayload (filled.slot.length.toNat-i) i filled.slot.data spi=
        some (data,bus) ∧
      (payloadOn n i filled spi).1={filled with slot := {filled.slot with data := data}} := by
  induction n generalizing i filled spi with
  | zero =>
    refine ⟨filled.slot.data,spi,?_,rfl⟩
    rw [show filled.slot.length.toNat-i=0 by omega]
    rfl
  | succ n ih =>
    by_cases hmore : i<filled.slot.length.toNat
    · have hinside : i<RadioQueue.frameDataSize := by omega
      have hstore := store_inside hinside filled (spi.ahead 0)
      obtain ⟨data,bus,hread,hfilled⟩ := ih (i:=i+1) (filled.store i (spi.ahead 0))
        (spi.skip 1) (by rw [hstore]; exact hmore) (by rw [hstore]; exact hfits)
        (by rw [hstore]; change filled.slot.length.toNat ≤ i+1+n; omega)
      rw [hstore] at hread hfilled
      refine ⟨data,bus,?_,?_⟩
      · rw [show filled.slot.length.toNat-i=(filled.slot.length.toNat-(i+1))+1 by omega,
          RadioFrame.readPayload,RadioFrame.spiXfer_blank]
        dsimp only
        rw [RadioFrame.storeOctet,if_pos hinside]
        exact hread
      · rw [payloadOn,if_pos hmore,hstore]
        exact hfilled
    · refine ⟨filled.slot.data,spi,?_,?_⟩
      · rw [show filled.slot.length.toNat-i=0 by omega]
        rfl
      · rw [payloadOn,if_neg hmore]

/-- The whole loop stays inside the buffer, or leaves it; it reaches behind the
slot exactly when the octet behind the buffer announces that. -/
theorem payloadOn_effect (slot : RxSlot) (spi : Spi) :
    ((payloadOn 255 0 ⟨slot,[]⟩ spi).1.spilled≠[] ↔
        RadioQueue.frameDataSize<slot.length.toNat ∧
          slotSize<(spi.ahead RadioQueue.frameDataSize).toNat) ∧
      (RadioFrame.readPayload slot.length.toNat 0 slot.data spi=none ∨
        ∃ data bus,RadioFrame.readPayload slot.length.toNat 0 slot.data spi=some (data,bus) ∧
          (payloadOn 255 0 ⟨slot,[]⟩ spi).1=⟨{slot with data := data},[]⟩) := by
  have hlt := slot.length.toNat_lt
  by_cases hfits : slot.length.toNat≤RadioQueue.frameDataSize
  · obtain ⟨data,bus,hread,hfilled⟩ := payloadOn_inside (n:=255) (i:=0) ⟨slot,[]⟩ spi
      (Nat.zero_le _) hfits (by change slot.length.toNat≤_; omega)
    rw [Nat.sub_zero] at hread
    rw [hfilled]
    exact ⟨⟨fun hspilled => absurd rfl hspilled,fun hover => absurd hover.1 (by omega)⟩,
      .inr ⟨data,bus,hread,rfl⟩⟩
  · have hlong : RadioQueue.frameDataSize<slot.length.toNat := by omega
    refine ⟨?_,.inl (RadioFrame.readPayload_outside _ _ (by omega) (Nat.zero_le _))⟩
    obtain ⟨data,hbuffer⟩ := payloadOn_buffer RadioQueue.frameDataSize 128 ⟨slot,[]⟩ spi
      (Nat.zero_add _) hlong
    have hstep : payloadOn 255 0 ⟨slot,[]⟩ spi=payloadOn 127 (RadioQueue.frameDataSize+1)
        ⟨{slot with data := data,length := spi.ahead RadioQueue.frameDataSize},[]⟩
        ((spi.skip RadioQueue.frameDataSize).skip 1) := by
      refine hbuffer.trans ?_
      rw [payloadOn,if_pos hlong,store_length,Spi.ahead_skip]
      rfl
    have hend : (spi.ahead RadioQueue.frameDataSize).toNat≤RadioQueue.frameDataSize+1+127 :=
      Nat.le_of_lt_succ (spi.ahead RadioQueue.frameDataSize).toNat_lt
    have hsizes : max (RadioQueue.frameDataSize+1) slotSize=slotSize := by decide
    rw [hstep,←List.length_pos_iff,payloadOn_behind _ (Nat.lt_succ_self _) hend,hsizes]
    change 0<0+((spi.ahead RadioQueue.frameDataSize).toNat-slotSize) ↔ _
    omega

/-- A frame read stores what the stream's function stores, or that has no
result; and exactly the overrunning frames reach behind their slot. -/
theorem frameOn_effect (rx : RxSlot) (spi : Spi) :
    ((frameOn rx spi).1.spilled≠[] ↔ Overruns spi) ∧
      (RadioFrame.radioFrameRead rx spi=none ∨
        (RadioFrame.radioFrameRead rx spi).map (fun read => read.2.1)=some (frameOn rx spi).1.slot ∧
          (frameOn rx spi).1.spilled=[]) := by
  obtain ⟨hlen,-,hspi⟩ := RadioFrame.readInIeeeHeader_effect rx spi.framed
  have hheader : UInt8.ofNat (RadioFrame.headerLen spi.framed.fcf)=
      (RadioFrame.readInIeeeHeader rx spi.framed).1 := by
    rw [←hlen,UInt8.ofNat_toNat]
  have hahead : spi.framed.ahead (RadioFrame.headerLen spi.framed.fcf+RadioQueue.frameDataSize)=
      (RadioFrame.readInIeeeHeader rx spi.framed).2.2.ahead RadioQueue.frameDataSize := by
    rw [hspi,Spi.ahead_skip]
  rw [RadioFrame.radioFrameRead_eq]
  unfold frameOn Overruns
  dsimp only
  rw [hheader,hahead]
  clear hlen hspi hheader hahead
  generalize RadioFrame.readInIeeeHeader rx spi.framed=header
  obtain ⟨hspilled,hread⟩ := payloadOn_effect
    {header.2.1 with length := spi.ahead 1-(header.1+2)} header.2.2
  refine ⟨hspilled,?_⟩
  dsimp only at hread ⊢
  obtain hnone|⟨data,bus,hsome,hfilled⟩ := hread
  · rw [hnone]
    exact .inl rfl
  · rw [hsome,hfilled]
    exact .inr ⟨rfl,rfl⟩

/-- Writing a header. -/
theorem writeOutIeeeHeader_onStream (tx : RadioQueue.TxFrame) (sender : Sender) :
    OnStream (writeOutIeeeHeader tx sender)
      (fun spi => some (RadioFrame.writeOutIeeeHeader tx sender spi)) :=
  (writeSpiWord_onStream _).bind fun _ => (OnStream.xfer _).bind fun _ =>
    (writeSpiWord_onStream _).bind fun _ => (writeSpiWord_onStream _).bind fun _ =>
      (writeSpiWord_onStream _).bind fun _ => .pure _

/-- Writing the payload. -/
theorem writePayload_onStream (data : RadioQueue.FrameData) (n i : ℕ) :
    OnStream (writePayload data n i)
      (fun spi => (RadioFrame.writePayload data n i spi).map fun spi => ((),spi)) := by
  induction n generalizing i with
  | zero => exact .pure ()
  | succ n ih =>
    unfold writePayload RadioFrame.writePayload
    cases data.octets[i]? with
    | some octet => exact (OnStream.xfer octet).bind fun _ => ih (i+1)
    | none => exact .halt _

/-- The transfers of a frame write are those of the stream's function. -/
theorem writeFrameOctets_onStream (tx : RadioQueue.TxFrame) (sender : Sender) :
    OnStream (writeFrameOctets tx sender) (RadioFrame.radioFrameWrite tx sender) := by
  unfold writeFrameOctets RadioFrame.radioFrameWrite
  by_cases hlong : 127<tx.length+RadioFrame.ieeeHeaderLen tx+2
  · simp only [if_pos hlong]
    exact ((OnStream.xfer _).bind fun _ => (OnStream.xfer _).bind fun _ =>
      .halt fun _ => none).congr fun _ => rfl
  · simp only [if_neg hlong]
    refine ((OnStream.xfer _).bind fun _ => (OnStream.xfer _).bind fun _ =>
      (writeOutIeeeHeader_onStream tx sender).bind fun sender =>
        (writePayload_onStream tx.data tx.length.toNat 0).bind fun _ =>
          (OnStream.xfer _).bind fun _ => (OnStream.xfer _).bind fun _ =>
            OnStream.pure sender).congr fun spi => ?_
    dsimp only [Option.bind_some]
    cases RadioFrame.writePayload tx.data tx.length.toNat 0 _ <;> rfl

/-! ## Changes of state -/

/-- The calls are these register accesses, pins and delays. -/
inductive Accessed : Talk → List RadioAccess → Prop
  /-- No calls. -/
  | nil : Accessed [] []
  /-- A register is read. -/
  | read {addr echo value : UInt8} {rest : Talk} {log : List RadioAccess} : Accessed rest log →
      Accessed (readTalk addr echo value++rest) (.read addr value::log)
  /-- A register is written. -/
  | write {addr value echo reply : UInt8} {rest : Talk} {log : List RadioAccess} :
      Accessed rest log → Accessed (writeTalk addr value echo reply++rest) (.write addr value::log)
  /-- The pin is cleared. -/
  | slptrClear {rest : Talk} {log : List RadioAccess} : Accessed rest log →
      Accessed (⟨.slptrClear,()⟩::rest) (.slptrClear::log)
  /-- The driver waits. -/
  | delayUs {us : ℕ} {rest : Talk} {log : List RadioAccess} : Accessed rest log →
      Accessed (⟨.delayUs us,()⟩::rest) (.delayUs us::log)

/-- Accesses one after the other. -/
theorem Accessed.append {first second : Talk} {log more : List RadioAccess}
    (hfirst : Accessed first log) (hsecond : Accessed second more) :
    Accessed (first++second) (log++more) := by
  induction hfirst with
  | nil => exact hsecond
  | read _ ih =>
    rw [List.append_assoc]
    exact .read ih
  | write _ ih =>
    rw [List.append_assoc]
    exact .write ih
  | slptrClear _ ih => exact .slptrClear ih
  | delayUs _ ih => exact .delayUs ih

/-- The value of a register read. -/
def valueRead : RadioAccess → Option UInt8
  | .read _ value => some value
  | _ => none

/-- A function of the driver accesses registers, and computes from their values
what a function of the register model computes. -/
def OnRegisters {α : Type} (program : Driver α) (registers : Radio → Option (α × Radio)) : Prop :=
  ∀ talk value,Yields program talk value → ∃ log,Accessed talk log ∧ ∀ later before,
    registers ⟨log.filterMap valueRead++later,before⟩=some (value,⟨later,before++log⟩)

section Registers

variable {α β : Type}

/-- A returned value leaves the radio alone. -/
theorem OnRegisters.pure (value : α) :
    OnRegisters (Pure.pure value) (fun radio => some (value,radio)) := by
  intro talk result h
  obtain ⟨rfl,rfl⟩ := yields_pure.mp h
  refine ⟨[],.nil,fun later before => ?_⟩
  rw [List.append_nil]
  rfl

/-- A sequence accesses registers part by part. -/
theorem OnRegisters.bind {program : Driver α} {rest : α → Driver β}
    {first : Radio → Option (α × Radio)} {second : α → Radio → Option (β × Radio)}
    (hprogram : OnRegisters program first) (hrest : ∀ value,OnRegisters (rest value) (second value)) :
    OnRegisters (program >>= rest) (fun radio => (first radio).bind fun result =>
      second result.1 result.2) := by
  intro talk value h
  obtain ⟨_,middle,_,rfl,hbefore,hafter⟩ := yields_bind.mp h
  obtain ⟨log,haccessed,hfirst⟩ := hprogram _ _ hbefore
  obtain ⟨more,hothers,hsecond⟩ := hrest _ _ _ hafter
  refine ⟨log++more,haccessed.append hothers,fun later before => ?_⟩
  dsimp only
  rw [List.filterMap_append,List.append_assoc,hfirst]
  dsimp only [Option.bind_some]
  rw [hsecond,List.append_assoc]

/-- The registers may be described by any equal function. -/
theorem OnRegisters.congr {program : Driver α} {first second : Radio → Option (α × Radio)}
    (h : OnRegisters program first) (heq : ∀ radio,first radio=second radio) :
    OnRegisters program second := by
  intro talk value hyields
  obtain ⟨log,haccessed,hlog⟩ := h talk value hyields
  exact ⟨log,haccessed,fun later before => by rw [←heq,hlog]⟩

/-- Reading a register. -/
theorem radioRegRead_onRegisters (addr : UInt8) :
    OnRegisters (radioRegRead addr) (RadioState.radioRegRead addr) := by
  intro talk value h
  obtain ⟨echo,rfl⟩ := yields_radioRegRead.mp h
  exact ⟨[.read addr value],.read .nil,fun _ _ => rfl⟩

/-- Writing a register. -/
theorem radioRegWrite_onRegisters (addr value : UInt8) :
    OnRegisters (radioRegWrite addr value)
      (fun radio => some ((),RadioState.radioRegWrite addr value radio)) := by
  intro talk _ h
  obtain ⟨echo,reply,rfl⟩ := yields_radioRegWrite h
  exact ⟨[.write addr value],.write .nil,fun _ _ => rfl⟩

/-- Writing a part of a register. -/
theorem radioRegReadModWrite_onRegisters (addr value mask : UInt8) :
    OnRegisters (radioRegReadModWrite addr value mask) (fun radio =>
      (RadioState.radioRegReadModWrite addr value mask radio).map fun radio => ((),radio)) := by
  refine ((radioRegRead_onRegisters addr).bind fun tmp =>
    radioRegWrite_onRegisters addr _).congr fun radio => ?_
  unfold RadioState.radioRegReadModWrite
  cases RadioState.radioRegRead addr radio <;> rfl

/-- Clearing the pin. -/
theorem slptrClear_onRegisters :
    OnRegisters slptrClear (fun radio => some ((),radio.did .slptrClear)) := by
  intro talk _ h
  obtain rfl := yields_once.mp h
  exact ⟨[.slptrClear],.slptrClear .nil,fun _ _ => rfl⟩

/-- Waiting. -/
theorem delayUs_onRegisters (us : ℕ) :
    OnRegisters (delayUs us) (fun radio => some ((),radio.did (.delayUs us))) := by
  intro talk _ h
  obtain rfl := yields_once.mp h
  exact ⟨[.delayUs us],.delayUs .nil,fun _ _ => rfl⟩

/-- Reading the state. -/
theorem radioGetState_onRegisters : OnRegisters radioGetState RadioState.radioGetState :=
  (radioRegRead_onRegisters _).bind fun _ => .pure _

/-- A command and the delay behind it. -/
theorem commandDelay_onRegisters (command : UInt8) (us : ℕ) :
    OnRegisters (do
      radioRegReadModWrite RadioState.trxState command 0x1F
      delayUs us) (fun radio => (do
        let written ← RadioState.radioRegReadModWrite RadioState.trxState command 0x1F radio
        return written.did (.delayUs us) : Option Radio).map fun radio => ((),radio)) := by
  refine ((radioRegReadModWrite_onRegisters _ command 0x1F).bind fun _ =>
    delayUs_onRegisters us).congr fun radio => ?_
  cases RadioState.radioRegReadModWrite RadioState.trxState command 0x1F radio <;> rfl

/-- The switch on the requested state. -/
theorem prepareState_onRegisters (state currState : UInt8) :
    OnRegisters (prepareState state currState) (fun radio =>
      (RadioState.prepareState state currState radio).map fun radio => ((),radio)) := by
  unfold prepareState RadioState.prepareState Program.onlyIf throughPllOn
  split
  · exact (slptrClear_onRegisters.bind fun _ => commandDelay_onRegisters _ _).congr fun _ => rfl
  · split
    · split
      · exact commandDelay_onRegisters _ _
      · exact .pure ()
    · split
      · split
        · exact commandDelay_onRegisters _ _
        · exact .pure ()
      · exact .pure ()

/-- Changing a stable state. -/
theorem changeState_onRegisters (state currState : UInt8) :
    OnRegisters (changeState state currState) (RadioState.changeState state currState) := by
  refine ((prepareState_onRegisters state currState).bind fun _ =>
    (radioRegReadModWrite_onRegisters _ state 0x1F).bind fun _ =>
      (delayUs_onRegisters _).bind fun _ => radioGetState_onRegisters.bind fun _ =>
        .pure _).congr fun radio => ?_
  unfold RadioState.changeState
  cases RadioState.prepareState state currState radio with
  | none => rfl
  | some prepared =>
    dsimp only [Option.map_some,Option.bind_some,Option.bind_eq_bind]
    cases RadioState.radioRegReadModWrite RadioState.trxState state 0x1F prepared <;> rfl

/-- Waiting until a state is left. -/
theorem leaveState_onRegisters (fuel : ℕ) (currState : UInt8) :
    OnRegisters (leaveState fuel currState) (fun radio =>
      (RadioState.waitWhile currState radio.answers radio.log).map fun radio => ((),radio)) := by
  intro talk _ h
  obtain ⟨waited,_,_,rfl,hwaited,hend⟩ := yields_bind.mp h
  obtain ⟨rfl,-⟩ := yields_pure.mp hend
  rw [List.append_nil]
  clear h hend
  induction fuel generalizing waited with
  | zero => exact absurd hwaited not_yields_halt
  | succ fuel ih =>
    obtain ⟨_,state,_,rfl,hread,hrest⟩ := yields_bind.mp hwaited
    obtain ⟨echo,status,rfl,rfl⟩ := yields_radioGetState hread
    by_cases hleft : RadioState.stateOf status=currState
    · rw [if_neg (by simp [hleft])] at hrest
      obtain ⟨log,haccessed,hlog⟩ := ih _ hrest
      refine ⟨.read RadioState.trxStatus status::log,.read haccessed,fun later before => ?_⟩
      have hnext := hlog later (before++[.read RadioState.trxStatus status])
      rw [List.append_assoc] at hnext
      change (RadioState.waitWhile currState (status::(log.filterMap valueRead++later)) before).map _=_
      rw [RadioState.waitWhile,if_pos hleft]
      exact hnext
    · rw [if_pos (by simp [hleft])] at hrest
      obtain ⟨rfl,-⟩ := yields_pure.mp hrest
      refine ⟨[.read RadioState.trxStatus status],.read .nil,fun later before => ?_⟩
      change (RadioState.waitWhile currState (status::later) before).map _=_
      rw [RadioState.waitWhile,if_neg hleft]
      rfl

/-- What `radio_set_state` does once it has read a state. -/
theorem afterState_onRegisters (fuel : ℕ) (state currState : UInt8) :
    OnRegisters (if currState=state then pure RadioState.radioSuccess
      else do
        Program.onlyIf (RadioState.transitional currState) (leaveState fuel currState)
        changeState state currState) (fun radio =>
      if currState=state then some (RadioState.radioSuccess,radio)
      else if RadioState.transitional currState then
        (RadioState.waitWhile currState radio.answers radio.log).bind
          (RadioState.changeState state currState)
      else RadioState.changeState state currState radio) := by
  unfold Program.onlyIf
  split
  · exact .pure _
  · split
    · refine ((leaveState_onRegisters fuel currState).bind fun _ =>
        changeState_onRegisters state currState).congr fun radio => ?_
      cases RadioState.waitWhile currState radio.answers radio.log <;> rfl
    · exact ((OnRegisters.pure ()).bind fun _ =>
        changeState_onRegisters state currState).congr fun _ => rfl

/-- A change of state on the bus is the change of state on the registers. -/
theorem radioSetState_onRegisters (fuel : ℕ) (state : UInt8) :
    OnRegisters (radioSetState fuel state) (RadioState.radioSetState state) := by
  refine (radioGetState_onRegisters.bind fun currState =>
    afterState_onRegisters fuel state currState).congr fun radio => ?_
  unfold RadioState.radioSetState
  cases RadioState.radioGetState radio with
  | none => rfl
  | some result =>
    dsimp only [Option.bind_some,Option.bind_eq_bind]
    split
    · rfl
    · split <;> rfl

end Registers

/-! ## What the radio sees -/

/-- The octet of a transfer. -/
def dataOf : Exchange Wire Wire.Answer → Option UInt8
  | ⟨.spiXfer data,_⟩ => some data
  | _ => none

/-- The octets sent while the radio was selected, one list for each selection
that was ended. -/
def selections : Option (List UInt8) → Talk → List (List UInt8)
  | _,[] => []
  | _,⟨.spiStart,_⟩::rest => selections (some []) rest
  | some octets,⟨.spiStop,_⟩::rest => octets::selections none rest
  | some octets,⟨.spiXfer data,_⟩::rest => selections (some (octets++[data])) rest
  | chosen,_::rest => selections chosen rest

/-- The calls leave the radio as they found it, not selected, and make these
selections. -/
def Says (talk : Talk) (said : List (List UInt8)) : Prop :=
  ∀ rest,selections none (talk++rest)=said++selections none rest

/-- A selection that accesses a register or reads a frame. -/
def Plain (octets : List UInt8) : Prop :=
  (∃ addr value,octets=[addr ||| radioSpiCmdRr,value] ∨ octets=[addr ||| radioSpiCmdRw,value]) ∨
    octets.head?=some RadioFrame.radioSpiCmdFr

/-- Everything a function of the driver says is plain. -/
def SaysPlain {α : Type} (program : Driver α) : Prop :=
  ∀ talk value,Yields program talk value → ∃ said,Says talk said ∧ ∀ octets∈said,Plain octets

/-- What is said is heard one after the other. -/
theorem Says.append {first second : Talk} {said more : List (List UInt8)} (hfirst : Says first said)
    (hsecond : Says second more) : Says (first++second) (said++more) := by
  intro rest
  rw [List.append_assoc,hfirst,hsecond,List.append_assoc]

/-- Transfers add their octets to the selection. -/
theorem selections_xfers {talk : Talk} (h : ∀ exchange∈talk,IsXfer exchange) (octets : List UInt8)
    (rest : Talk) : selections (some octets) (talk++rest)=
      selections (some (octets++talk.filterMap dataOf)) rest := by
  induction talk generalizing octets with
  | nil => rw [List.filterMap_nil,List.append_nil,List.nil_append]
  | cons exchange more ih =>
    obtain ⟨hfirst,hmore⟩ := List.forall_mem_cons.mp h
    obtain ⟨question,answer⟩ := exchange
    cases question with
    | spiXfer data =>
      change selections (some (octets++[data])) (more++rest)=_
      rw [ih hmore,List.append_assoc]
      rfl
    | _ => exact hfirst.elim

/-- One selection of the radio. -/
theorem says_xfers {talk : Talk} (h : ∀ exchange∈talk,IsXfer exchange) :
    Says (⟨.spiStart,()⟩::(talk++[⟨.spiStop,()⟩])) [talk.filterMap dataOf] := by
  intro rest
  change selections (some []) ((talk++[⟨.spiStop,()⟩])++rest)=_
  rw [List.append_assoc,selections_xfers h,List.nil_append]
  rfl

/-- The stream has taken the octets that were sent. -/
theorem Heard.sent {talk : Talk} {spi spi' : Spi} (h : Heard talk spi spi') :
    spi'.sent=spi.sent++talk.filterMap dataOf := by
  induction h with
  | nil spi => exact (List.append_nil _).symm
  | xfer _ ih =>
    rw [ih]
    exact List.append_assoc _ _ _

section Plain

variable {α β : Type}

/-- Nothing is said in the end. -/
theorem SaysPlain.pure (value : α) : SaysPlain (Pure.pure value) := by
  intro talk result h
  obtain ⟨rfl,-⟩ := yields_pure.mp h
  exact ⟨[],fun _ => rfl,fun _ hmem => absurd hmem List.not_mem_nil⟩

/-- A sequence says what its parts say. -/
theorem SaysPlain.bind {program : Driver α} {rest : α → Driver β} (hprogram : SaysPlain program)
    (hrest : ∀ value,SaysPlain (rest value)) : SaysPlain (program >>= rest) := by
  intro talk value h
  obtain ⟨_,_,_,rfl,hbefore,hafter⟩ := yields_bind.mp h
  obtain ⟨said,hsaid,hplain⟩ := hprogram _ _ hbefore
  obtain ⟨more,hmore,hothers⟩ := hrest _ _ _ hafter
  exact ⟨said++more,hsaid.append hmore,List.forall_mem_append.mpr ⟨hplain,hothers⟩⟩

/-- A repeated body says nothing else. -/
theorem SaysPlain.repeatUntil {body : Driver α} (h : SaysPlain body) (accept : α → Bool)
    (rounds : ℕ) : SaysPlain (.repeatUntil accept body rounds) := by
  induction rounds with
  | zero => exact fun _ _ hyields => absurd hyields not_yields_halt
  | succ rounds ih =>
    refine h.bind fun value => ?_
    split
    · exact .pure _
    · exact ih

/-- A body that may be left out says nothing else. -/
theorem SaysPlain.onlyIf {body : Driver Unit} (h : SaysPlain body) (condition : Prop)
    [Decidable condition] : SaysPlain (.onlyIf condition body) := by
  unfold Program.onlyIf
  split
  · exact h
  · exact .pure ()

/-- Reading a register is plain. -/
theorem radioRegRead_plain (addr : UInt8) : SaysPlain (radioRegRead addr) := by
  intro talk value h
  obtain ⟨echo,rfl⟩ := yields_radioRegRead.mp h
  exact ⟨[[addr ||| radioSpiCmdRr,_]],fun _ => rfl,fun octets hmem =>
    List.mem_singleton.mp hmem ▸ .inl ⟨addr,_,.inl rfl⟩⟩

/-- Writing a register is plain. -/
theorem radioRegWrite_plain (addr value : UInt8) : SaysPlain (radioRegWrite addr value) := by
  intro talk _ h
  obtain ⟨echo,reply,rfl⟩ := yields_radioRegWrite h
  exact ⟨[[addr ||| radioSpiCmdRw,value]],fun _ => rfl,fun octets hmem =>
    List.mem_singleton.mp hmem ▸ .inl ⟨addr,value,.inr rfl⟩⟩

/-- Writing a part of a register is plain. -/
theorem radioRegReadModWrite_plain (addr value mask : UInt8) :
    SaysPlain (radioRegReadModWrite addr value mask) :=
  (radioRegRead_plain addr).bind fun _ => radioRegWrite_plain _ _

/-- Pins and delays say nothing. -/
theorem once_plain {question : Wire} (h : ∀ answer rest,
    selections none (⟨question,answer⟩::rest)=selections none rest) :
    SaysPlain (Program.once question) := by
  intro talk answer hyields
  obtain rfl := yields_once.mp hyields
  exact ⟨[],fun rest => h answer rest,fun _ hmem => absurd hmem List.not_mem_nil⟩

/-- Reading the state is plain. -/
theorem radioGetState_plain : SaysPlain radioGetState :=
  (radioRegRead_plain _).bind fun _ => .pure _

/-- Asking whether the radio is busy is plain. -/
theorem radioIsStateBusy_plain : SaysPlain radioIsStateBusy :=
  radioGetState_plain.bind fun _ => .pure _

/-- Clearing the pin is plain. -/
theorem slptrClear_plain : SaysPlain slptrClear := once_plain fun _ _ => rfl

/-- Waiting is plain. -/
theorem delayUs_plain (us : ℕ) : SaysPlain (delayUs us) := once_plain fun _ _ => rfl

/-- Waiting until a state is left is plain. -/
theorem leaveState_plain (fuel : ℕ) (currState : UInt8) : SaysPlain (leaveState fuel currState) :=
  (radioGetState_plain.repeatUntil _ _).bind fun _ => .pure _

/-- The switch on the requested state is plain. -/
theorem prepareState_plain (state currState : UInt8) : SaysPlain (prepareState state currState) := by
  have hpll : SaysPlain throughPllOn :=
    (radioRegReadModWrite_plain _ _ _).bind fun _ => delayUs_plain _
  unfold prepareState
  split
  · exact slptrClear_plain.bind fun _ => (radioRegReadModWrite_plain _ _ _).bind fun _ =>
      delayUs_plain _
  · split
    · exact hpll.onlyIf _
    · split
      · exact hpll.onlyIf _
      · exact .pure ()

/-- A change of state is plain. -/
theorem radioSetState_plain (fuel : ℕ) (state : UInt8) : SaysPlain (radioSetState fuel state) := by
  refine radioGetState_plain.bind fun currState => ?_
  split
  · exact .pure _
  · exact ((leaveState_plain fuel currState).onlyIf _).bind fun _ =>
      (prepareState_plain state currState).bind fun _ =>
        (radioRegReadModWrite_plain _ _ _).bind fun _ => (delayUs_plain _).bind fun _ =>
          radioGetState_plain.bind fun _ => .pure _

/-- Dropped answers are transfers. -/
theorem spiXferAll_xfers {octets : List UInt8} {talk : Talk} (h : Yields (spiXferAll octets) talk ()) :
    ∀ exchange∈talk,IsXfer exchange := by
  induction octets generalizing talk with
  | nil =>
    obtain ⟨rfl,-⟩ := yields_pure.mp h
    exact fun _ hmem => absurd hmem List.not_mem_nil
  | cons data rest ih =>
    obtain ⟨_,_,_,rfl,hdata,hrest⟩ := yields_bind.mp h
    exact List.forall_mem_append.mpr ⟨(OnStream.xfer _ _ _ hdata).1,ih hrest⟩

/-- A selection that starts with the command to read a frame is plain. -/
theorem says_frameRead (echo : UInt8) {talk : Talk} (h : ∀ exchange∈talk,IsXfer exchange) :
    ∃ said,Says (⟨.spiStart,()⟩::((⟨.spiXfer RadioFrame.radioSpiCmdFr,echo⟩::talk)++
        [⟨.spiStop,()⟩])) said ∧ ∀ octets∈said,Plain octets :=
  ⟨_,says_xfers (List.forall_mem_cons.mpr ⟨trivial,h⟩),fun _ hmem =>
    List.mem_singleton.mp hmem ▸ .inr rfl⟩

/-- Reading a frame away is plain. -/
theorem radioFrameReadDummy_plain : SaysPlain radioFrameReadDummy := by
  intro talk _ h
  obtain ⟨_,_,_,rfl,hstart,h⟩ := yields_bind.mp h
  obtain ⟨_,echo,_,rfl,hcommand,h⟩ := yields_bind.mp h
  obtain ⟨length,len,_,rfl,hlength,h⟩ := yields_bind.mp h
  obtain ⟨rest,_,_,rfl,hrest,hstop⟩ := yields_bind.mp h
  obtain rfl := yields_once.mp hstart
  obtain rfl := yields_once.mp hcommand
  obtain rfl := yields_once.mp hstop
  have hxfers : ∀ exchange∈length++rest,IsXfer exchange :=
    List.forall_mem_append.mpr ⟨(OnStream.xfer _ _ _ hlength).1,spiXferAll_xfers hrest⟩
  have hplain := says_frameRead echo hxfers
  rw [List.cons_append,List.append_assoc] at hplain
  exact hplain

end Plain

/-! ## Whole frames -/

/-- Reading a frame is one plain selection, and leaves what the answers in it
say. -/
theorem yields_radioFrameRead {rx : RxSlot} {talk : Talk} {filled : Filled}
    (h : Yields (radioFrameRead rx) talk filled) :
    (∃ said,Says talk said ∧ ∀ octets∈said,Plain octets) ∧
      ∀ rest,filled=(frameOn rx (heardIn (talk++rest))).1 := by
  obtain ⟨_,_,_,rfl,hstart,h⟩ := yields_bind.mp h
  obtain ⟨body,_,_,rfl,hbody,h⟩ := yields_bind.mp h
  obtain ⟨_,_,_,rfl,hstop,h⟩ := yields_bind.mp h
  obtain ⟨rfl,rfl⟩ := yields_pure.mp h
  obtain rfl := yields_once.mp hstart
  obtain rfl := yields_once.mp hstop
  obtain ⟨hxfers,hstream⟩ := readFrameOctets_onStream rx _ _ hbody
  refine ⟨?_,fun rest => ?_⟩
  · obtain ⟨_,echo,more,rfl,hcommand,-⟩ := yields_bind.mp hbody
    obtain rfl := yields_once.mp hcommand
    exact says_frameRead echo (List.forall_mem_append.mp hxfers).2
  · obtain ⟨spi',hheard⟩ := heard_in hxfers ([⟨Wire.spiStop,()⟩]++rest)
    have hstreamed := Option.some.inj (hstream _ spi' hheard)
    rw [←List.append_assoc] at hstreamed
    exact (congrArg Prod.fst hstreamed).symm

/-- Writing a frame is one selection with the octets of the frame, behind the
command to write one. -/
theorem yields_radioFrameWrite {tx : RadioQueue.TxFrame} {sender after : Sender} {talk : Talk}
    (h : Yields (radioFrameWrite tx sender) talk after) :
    ∃ spi spi' : Spi,spi.sent=[] ∧ spi'.sent.head?=some RadioFrame.radioSpiCmdFw ∧
      Says talk [spi'.sent] ∧ RadioFrame.radioFrameWrite tx sender spi=some (after,spi') := by
  obtain ⟨_,_,_,rfl,hstart,h⟩ := yields_bind.mp h
  obtain ⟨body,written,_,rfl,hbody,h⟩ := yields_bind.mp h
  obtain ⟨_,_,_,rfl,hstop,h⟩ := yields_bind.mp h
  obtain ⟨rfl,rfl⟩ := yields_pure.mp h
  obtain rfl := yields_once.mp hstart
  obtain rfl := yields_once.mp hstop
  obtain ⟨hxfers,hstream⟩ := writeFrameOctets_onStream tx sender _ _ hbody
  obtain ⟨spi',hheard⟩ := heard_in hxfers []
  have hoctets : spi'.sent=body.filterMap dataOf := by
    rw [hheard.sent]
    rfl
  refine ⟨_,spi',rfl,?_,?_,hstream _ spi' hheard⟩
  · obtain ⟨_,_,_,rfl,hcommand,-⟩ := yields_bind.mp hbody
    obtain rfl := yields_once.mp hcommand
    rw [hoctets]
    rfl
  · rw [hoctets]
    exact says_xfers hxfers

end VlfGateway.RadioTalk
