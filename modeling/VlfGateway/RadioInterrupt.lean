import VlfGateway.RadioTalk
import VlfGateway.RadioTransmit

/-!
# The radio interrupt and the main loop

The main loop takes frames from the receive ring and puts frames into the
transmit ring; the interrupt routine runs between any two of its steps and
holds a whole conversation with the radio. Whatever the radio answers, the
interrupt does to the rings what was described for them step by step: it
stores at most the one frame that has arrived, writes at most the one frame
that is next, and counts each reported end of a frame once.
-/

namespace VlfGateway.RadioInterrupt

open AskProgram RadioDriver RadioTalk StepPath
open RadioFrame (RxSlot Sender Spi radioSpiCmdFw)
open RadioReceive (RxSide Arrival)
open RadioTransmit (Job)

/-! ## What can be read off a conversation -/

/-- The selection writes a frame. -/
def isFrameWrite (octets : List UInt8) : Bool := octets.head?==some radioSpiCmdFw

/-- The frames a conversation writes to the radio. -/
def frameWrites (talk : Talk) : List (List UInt8) := (selections none talk).filter isFrameWrite

/-- The value of a register read at the start of a conversation, and the rest. -/
def valueHeard : Talk → Option (UInt8 × Talk)
  | _::_::⟨.spiXfer _,value⟩::_::rest => some (value,rest)
  | _ => none

/-- What became of a frame. -/
inductive Verdict where
  /-- A received frame was stored. -/
  | stored
  /-- A received frame was dropped. -/
  | dropped
  /-- A frame was sent. -/
  | sent
  /-- The channel was never clear. -/
  | channelFailed
  /-- The frame was not acknowledged. -/
  | noAck
  /-- The radio reports none of these. -/
  | invalid
  deriving DecidableEq

/-- The verdict in a status of the last transmission. -/
def tracVerdict (trac : UInt8) : Verdict :=
  if trac=tracSuccess ∨ trac=tracSuccessDataPending then .sent
  else if trac=tracChannelAccessFail then .channelFailed
  else if trac=tracNoAck then .noAck
  else .invalid

/-- The verdict of an interrupt, from the flags, the state and the status of the
last transmission as the radio answers them. -/
def verdictOf (room : Bool) (talk : Talk) : Option Verdict := do
  let (flags,talk) ← valueHeard talk
  if flags &&& radioIrqTrxEnd≠0 then
    let (status,talk) ← valueHeard talk
    if receiving (RadioState.stateOf status) then return if room then .stored else .dropped
    else
      let (state,_) ← valueHeard talk
      return tracVerdict (state >>> tracStatusPos)
  else none

/-- The statistics by what they count. -/
def counter (radif : Interface) : Verdict → UInt16
  | .stored => radif.rx.rxSuccessCount
  | .dropped => radif.rx.rxOverflow
  | .sent => radif.txSuccessCount
  | .channelFailed => radif.txChannelFail
  | .noAck => radif.txNoack
  | .invalid => radif.txInvalid

/-- What the main loop shares with the interrupt to give a command. -/
def mailbox (radif : Interface) : UInt8 × UInt8 := (radif.command,radif.commandOutput)

/-- What the main loop has set before it gives a command. -/
def settings (radif : Interface) : Bool × UInt16 × UInt16 × UInt8 × UInt8 × UInt16 × UInt8 × UInt8 :=
  (radif.tx.up,radif.sender.panId,radif.sender.shortAddress,radif.autoCrcGen,radif.promiscuous,
    radif.freq,radif.power,radif.modulation)

/-- The receive ring has room for a frame. -/
def hasRoom (rx : RxSide) : Bool := FifoRing.next rx.rxProduceIndex≠rx.rxConsumeIndex

/-- The radio's answers while an interrupt reads a frame, which it does behind
the flags, the state and two measurements, of four calls each. -/
def frameHeard (talk : Talk) : Spi := heardIn (talk.drop 16)

/-- The interrupt stores a frame in the last receive slot and beyond it, in the
first transmit slot. -/
def ReachesTransmit (radif : Interface) (talk : Talk) : Prop :=
  radif.rx.rxProduceIndex.val+1=RadioReceive.numRxFrames ∧
    verdictOf (hasRoom radif.rx) talk=some .stored ∧ Overruns (frameHeard talk)

/-! ## Frame writes in a conversation -/

/-- The calls make whole selections, and these of them write frames. -/
def Writes (talk : Talk) (frames : List (List UInt8)) : Prop :=
  ∃ said,Says talk said ∧ said.filter isFrameWrite=frames

/-- A plain selection writes no frame. -/
theorem not_frameWrite_of_plain {octets : List UInt8} (h : Plain octets) : isFrameWrite octets=false := by
  have hcommand : ∀ addr : UInt8,addr ||| radioSpiCmdRr≠radioSpiCmdFw ∧
      addr ||| radioSpiCmdRw≠radioSpiCmdFw := by
    intro addr
    refine ⟨fun heq => ?_,fun heq => ?_⟩ <;>
    · have hbit := congrArg (fun octet : UInt8 => octet.toBitVec.getLsbD 7) heq
      simp [radioSpiCmdRr,radioSpiCmdRw,radioSpiCmdFw] at hbit
  unfold isFrameWrite
  rw [beq_eq_false_iff_ne]
  obtain ⟨addr,value,rfl|rfl⟩|hhead := h
  · exact fun heq => (hcommand addr).1 (Option.some.inj heq)
  · exact fun heq => (hcommand addr).2 (Option.some.inj heq)
  · rw [hhead]
    decide

/-- Plain selections write no frame. -/
theorem writes_of_plain {talk : Talk}
    (h : ∃ said,Says talk said ∧ ∀ octets∈said,Plain octets) : Writes talk [] := by
  obtain ⟨said,hsaid,hplain⟩ := h
  refine ⟨said,hsaid,List.filter_eq_nil_iff.mpr fun octets hmem => ?_⟩
  rw [not_frameWrite_of_plain (hplain octets hmem)]
  decide

/-- Two conversations in a row write their frames one after the other. -/
theorem Writes.append {first second : Talk} {frames more : List (List UInt8)}
    (hfirst : Writes first frames) (hsecond : Writes second more) :
    Writes (first++second) (frames++more) := by
  obtain ⟨said,hsaid,rfl⟩ := hfirst
  obtain ⟨others,hothers,rfl⟩ := hsecond
  exact ⟨said++others,hsaid.append hothers,List.filter_append _ _⟩

/-- The frames written are read off the conversation. -/
theorem Writes.frameWrites_eq {talk : Talk} {frames : List (List UInt8)} (h : Writes talk frames) :
    frameWrites talk=frames := by
  obtain ⟨said,hsaid,rfl⟩ := h
  have hall := hsaid []
  rw [List.append_nil] at hall
  unfold frameWrites
  rw [hall]
  exact congrArg (List.filter isFrameWrite) (List.append_nil said)

/-- A plain function writes no frame. -/
theorem writes_nil {α : Type} {program : Driver α} (hplain : SaysPlain program) {talk : Talk}
    {value : α} (h : Yields program talk value) : Writes talk [] :=
  writes_of_plain (hplain talk value h)

/-! ## The end of a frame -/

/-- Nothing stored over a buffer leaves it. -/
theorem overwritten_nil (data : RadioQueue.FrameData) : overwritten data []=data := by
  obtain ⟨octets,hsize⟩ := data
  unfold overwritten
  congr 1
  exact List.take_of_length_le hsize.le

/-- What is stored behind a receive slot reaches at most the receive slot that
follows in the ring, and the transmit slots only behind the last one. -/
theorem spill_effect (radif : Interface) (index : Fin RadioReceive.numRxFrames)
    (spilled : List UInt8) :
    ∃ behind frames,radif.spill index spilled={radif with
        rx := {radif.rx with
          rxFrames := Function.update radif.rx.rxFrames (FifoRing.next index) behind}
        tx := {radif.tx with txFrames := frames}} ∧
      (spilled=[] → behind=radif.rx.rxFrames (FifoRing.next index)) ∧
      (frames=radif.tx.txFrames ∨ (index.val+1=RadioReceive.numRxFrames ∧ spilled≠[])) := by
  unfold Interface.spill
  split
  · refine ⟨_,radif.tx.txFrames,rfl,?_,.inl rfl⟩
    rintro rfl
    rw [overwritten_nil]
  · next hlast =>
    have hkept := Function.update_eq_self (FifoRing.next index) radif.rx.rxFrames
    refine ⟨radif.rx.rxFrames (FifoRing.next index),?_,?_,fun _ => rfl,?_⟩
    rotate_left
    · rw [hkept]
    · by_cases hnone : spilled=[]
      · left
        rw [hnone,overwritten_nil]
        exact Function.update_eq_self _ _
      · exact .inr ⟨by have := index.isLt; omega,hnone⟩

/-- The frame behind the two measurements is stored beyond the last receive
slot, whatever is said afterwards. -/
def SpillsOver (radif : Interface) (talk : Talk) : Prop :=
  radif.rx.rxProduceIndex.val+1=RadioReceive.numRxFrames ∧ hasRoom radif.rx=true ∧
    ∀ rest,Overruns (heardIn ((talk++rest).drop 8))

/-- Storing a frame is what the ring does with some arrival, and leaves the
transmit slots alone unless it spills over. -/
theorem yields_storeFrame {radif radif' : Interface} {talk : Talk}
    (h : Yields (storeFrame radif) talk radif') (hroom : hasRoom radif.rx=true) :
    Writes talk [] ∧ ∃ arrival frames,
      radif'={radif with
        rx := RadioReceive.radioRxEnd arrival radif.rx
        tx := {radif.tx with txFrames := frames}} ∧
      (frames=radif.tx.txFrames ∨ SpillsOver radif talk) := by
  obtain ⟨_,energy,_,rfl,henergy,h⟩ := yields_bind.mp h
  obtain ⟨_,rssi,_,rfl,hrssi,h⟩ := yields_bind.mp h
  obtain ⟨frame,filled,_,rfl,hframe,h⟩ := yields_bind.mp h
  obtain ⟨rfl,rfl⟩ := yields_pure.mp h
  obtain ⟨hplain,hfilled⟩ := yields_radioFrameRead hframe
  obtain ⟨behind,frames,hspill,hnothing,hframes⟩ :=
    spill_effect radif radif.rx.rxProduceIndex filled.spilled
  refine ⟨?_,⟨energy,rssi,heardIn (frame++[]),filled.slot,behind⟩,frames,?_,?_⟩
  · rw [List.append_nil]
    exact (writes_nil (radioRegRead_plain _) henergy).append
      ((writes_nil (radioRegRead_plain _) hrssi).append (writes_of_plain hplain))
  · have hread := (frameOn_effect {radif.rx.rxFrames radif.rx.rxProduceIndex with
      energyDetect := energy
      crcStatus := if rssi &&& 0x80≠0 then 1 else 0} (heardIn (frame++[]))).2
    rw [←hfilled []] at hread
    rw [hspill]
    unfold RadioReceive.radioRxEnd RadioReceive.readInto RadioReceive.measured
    dsimp only
    rw [if_pos (of_decide_eq_true hroom)]
    obtain hnone|⟨hsome,hkept⟩ := hread
    · rw [hnone]
    · obtain ⟨read,hresult,hslot⟩ := Option.map_eq_some_iff.mp hsome
      rw [hresult,hnothing hkept,Function.update_eq_self,←hslot]
  · refine hframes.imp_right fun ⟨hlast,hspilled⟩ => ⟨hlast,hroom,fun rest => ?_⟩
    obtain ⟨_,rfl⟩ := yields_radioRegRead.mp henergy
    obtain ⟨_,rfl⟩ := yields_radioRegRead.mp hrssi
    rw [hfilled rest] at hspilled
    have hover := (frameOn_effect _ _).1.mp hspilled
    rwa [List.append_nil]

/-- Dropping a frame is what a full ring does with any arrival. -/
theorem yields_dropFrame {radif radif' : Interface} {talk : Talk}
    (h : Yields (dropFrame radif) talk radif') (hfull : hasRoom radif.rx=false) :
    Writes talk [] ∧
      ∃ arrival,radif'={radif with rx := RadioReceive.radioRxEnd arrival radif.rx} := by
  obtain ⟨_,_,_,rfl,hdummy,h⟩ := yields_bind.mp h
  obtain ⟨rfl,rfl⟩ := yields_pure.mp h
  refine ⟨?_,⟨0,0,heardIn [],radif.rx.rxFrames radif.rx.rxProduceIndex,
    radif.rx.rxFrames radif.rx.rxProduceIndex⟩,?_⟩
  · rw [List.append_nil]
    exact writes_nil radioFrameReadDummy_plain hdummy
  · unfold RadioReceive.radioRxEnd
    rw [if_neg (of_decide_eq_false hfull)]

/-- The end of a reception is one arrival. -/
theorem yields_radioRxEnd {fuel : ℕ} {radif radif' : Interface} {talk : Talk}
    (h : Yields (radioRxEnd fuel radif) talk radif') :
    Writes talk [] ∧ ∃ arrival frames,
      radif'={radif with
        rx := RadioReceive.radioRxEnd arrival radif.rx
        tx := {radif.tx with txFrames := frames}} ∧
      (frames=radif.tx.txFrames ∨ SpillsOver radif talk) := by
  obtain ⟨frame,after,_,rfl,hafter,h⟩ := yields_bind.mp h
  obtain ⟨leave,_,_,rfl,hleave,h⟩ := yields_bind.mp h
  obtain ⟨rfl,rfl⟩ := yields_pure.mp h
  have hleft : Writes leave [] := writes_nil (leaveState_plain _ _) hleave
  rw [List.append_nil]
  split at hafter
  · next hroom =>
    obtain ⟨hwrites,arrival,frames,hstored,hframes⟩ :=
      yields_storeFrame hafter (decide_eq_true hroom)
    refine ⟨hwrites.append hleft,arrival,frames,hstored,hframes.imp_right ?_⟩
    rintro ⟨hlast,hfree,hover⟩
    refine ⟨hlast,hfree,fun rest => ?_⟩
    rw [List.append_assoc]
    exact hover (leave++rest)
  · next hfull =>
    obtain ⟨hwrites,arrival,rfl⟩ := yields_dropFrame hafter (decide_eq_false hfull)
    exact ⟨hwrites.append hleft,arrival,radif.tx.txFrames,rfl,.inl rfl⟩

/-- The end of a transmission reads the status and counts it. -/
theorem yields_radioTxEnd {radif radif' : Interface} {talk : Talk}
    (h : Yields (radioTxEnd radif) talk radif') :
    ∃ echo state,talk=readTalk RadioState.trxState echo state ∧
      radif'=countTransmission radif (state >>> tracStatusPos) := by
  obtain ⟨_,trac,_,rfl,htrac,hcount⟩ := yields_bind.mp h
  obtain ⟨_,state,_,rfl,hread,hend⟩ := yields_bind.mp htrac
  obtain ⟨rfl,rfl⟩ := yields_pure.mp hcount
  obtain ⟨rfl,rfl⟩ := yields_pure.mp hend
  obtain ⟨echo,rfl⟩ := yields_radioRegRead.mp hread
  exact ⟨echo,state,rfl,rfl⟩

/-! ## The next frame -/

/-- What `radio_tx` does: nothing, or the frame at the consume index is written
and released. -/
inductive NextFrame (radif : Interface) : Interface → List (List UInt8) → Prop
  /-- Nothing is pending, or the radio is busy. -/
  | none : NextFrame radif radif []
  /-- The next frame is written. -/
  | one {spi spi' : Spi} {sender : Sender} :
      radif.tx.txConsumeIndex≠radif.tx.txProduceIndex → spi.sent=[] →
      RadioFrame.radioFrameWrite (radif.tx.txFrames radif.tx.txConsumeIndex) radif.sender spi=
        some (sender,spi') →
      NextFrame radif {radif with
        tx := {radif.tx with txConsumeIndex := RadioQueue.nextSlot radif.tx.txConsumeIndex}
        sender := sender} [spi'.sent]

/-- `radio_tx` writes at most the next frame. -/
theorem yields_radioTx {fuel : ℕ} {radif radif' : Interface} {talk : Talk}
    (h : Yields (radioTx fuel radif) talk radif') :
    ∃ frames,Writes talk frames ∧ NextFrame radif radif' frames := by
  have hquiet : Writes [] [] := ⟨[],fun _ => rfl,rfl⟩
  unfold radioTx at h
  dsimp only at h
  split at h
  · next hpending =>
    obtain ⟨_,isBusy,_,rfl,hbusy,h⟩ := yields_bind.mp h
    have hfirst := writes_nil radioIsStateBusy_plain hbusy
    split at h
    · obtain ⟨rfl,rfl⟩ := yields_pure.mp h
      exact ⟨[],hfirst.append hquiet,.none⟩
    · obtain ⟨_,_,_,rfl,hoff,h⟩ := yields_bind.mp h
      obtain ⟨_,_,_,rfl,haret,h⟩ := yields_bind.mp h
      obtain ⟨_,sender,_,rfl,hframe,h⟩ := yields_bind.mp h
      obtain ⟨_,_,_,rfl,hstart,h⟩ := yields_bind.mp h
      obtain ⟨rfl,rfl⟩ := yields_pure.mp h
      obtain ⟨spi,spi',hsent,hhead,hspoken,hwrite⟩ := yields_radioFrameWrite hframe
      have hone : [spi'.sent].filter isFrameWrite=[spi'.sent] := by
        rw [List.filter_singleton]
        unfold isFrameWrite
        rw [hhead]
        rfl
      refine ⟨[spi'.sent],?_,.one hpending hsent hwrite⟩
      exact hfirst.append ((writes_nil (radioSetState_plain _ _) hoff).append
        ((writes_nil (radioSetState_plain _ _) haret).append (Writes.append ⟨_,hspoken,hone⟩
          ((writes_nil (radioRegReadModWrite_plain _ _ _) hstart).append hquiet))))
  · obtain ⟨rfl,rfl⟩ := yields_pure.mp h
    exact ⟨[],hquiet,.none⟩

/-! ## Whole interrupts -/

/-- What an interrupt does to the interface before it turns to the command,
where `reaches` says that a frame was stored beyond the receive slots. -/
structure Served (radif : Interface) (verdict : Option Verdict) (reaches : Prop)
    (frames : List (List UInt8)) (radif' : Interface) : Prop where
  /-- The receive ring takes at most one arrival. -/
  receive : radif'.rx=radif.rx ∨ ∃ arrival,radif'.rx=RadioReceive.radioRxEnd arrival radif.rx
  /-- The transmit ring loses at most the next frame. -/
  transmit : reaches ∨ ∃ between,between.tx=radif.tx ∧ between.sender=radif.sender ∧
    NextFrame between radif' frames
  /-- The verdict is counted. -/
  counted : ∀ kind,counter radif' kind=counter radif kind+if verdict=some kind then 1 else 0
  /-- The command waits. -/
  mailbox : mailbox radif'=mailbox radif
  /-- The settings stay. -/
  settings : settings radif'=settings radif
  /-- The transmit slots stay. -/
  slots : reaches ∨ radif'.tx.txFrames=radif.tx.txFrames

/-- A frame write moves the sequence number on and changes nothing else of the
sender. -/
theorem radioFrameWrite_sender {tx : RadioQueue.TxFrame} {sender after : Sender} {spi spi' : Spi}
    (h : RadioFrame.radioFrameWrite tx sender spi=some (after,spi')) :
    after={sender with seq := sender.seq+1} := by
  unfold RadioFrame.radioFrameWrite at h
  dsimp only at h
  split at h
  · cases h
  · obtain ⟨payload,-,hresult⟩ := Option.map_eq_some_iff.mp h
    exact (congrArg Prod.fst hresult).symm

/-- The next frame touches neither the receive ring nor statistics, command,
settings and transmit slots. -/
theorem NextFrame.keeps {radif radif' : Interface} {frames : List (List UInt8)}
    (h : NextFrame radif radif' frames) :
    radif'.rx=radif.rx ∧ counter radif'=counter radif ∧ mailbox radif'=mailbox radif ∧
      settings radif'=settings radif ∧ radif'.tx.txFrames=radif.tx.txFrames := by
  cases h with
  | none => exact ⟨rfl,rfl,rfl,rfl,rfl⟩
  | one _ _ hwrite =>
    rw [radioFrameWrite_sender hwrite]
    exact ⟨rfl,rfl,rfl,rfl,rfl⟩

/-- A transmission touches statistics only. -/
theorem countTransmission_keeps (radif : Interface) (trac : UInt8) :
    (countTransmission radif trac).rx=radif.rx ∧ (countTransmission radif trac).tx=radif.tx ∧
      (countTransmission radif trac).sender=radif.sender ∧
      mailbox (countTransmission radif trac)=mailbox radif ∧
      settings (countTransmission radif trac)=settings radif := by
  unfold countTransmission
  split
  · exact ⟨rfl,rfl,rfl,rfl,rfl⟩
  · split
    · exact ⟨rfl,rfl,rfl,rfl,rfl⟩
    · split <;> exact ⟨rfl,rfl,rfl,rfl,rfl⟩

/-- The verdict on a transmission is counted once. -/
theorem counter_countTransmission (radif : Interface) (trac : UInt8) (kind : Verdict) :
    counter (countTransmission radif trac) kind=
      counter radif kind+if some (tracVerdict trac)=some kind then 1 else 0 := by
  unfold countTransmission tracVerdict
  split
  · cases kind <;> simp [counter]
  · split
    · cases kind <;> simp [counter]
    · split <;> cases kind <;> simp [counter]

/-- An arrival is counted once, as stored or as dropped. -/
theorem counter_arrival (radif : Interface) (arrival : Arrival) (tx : RadioQueue.Radif)
    (kind : Verdict) :
    counter {radif with rx := RadioReceive.radioRxEnd arrival radif.rx,tx := tx} kind=
      counter radif kind+if some (if hasRoom radif.rx=true then Verdict.stored else .dropped)=some kind
        then 1 else 0 := by
  unfold RadioReceive.radioRxEnd
  by_cases hroom : FifoRing.next radif.rx.rxProduceIndex≠radif.rx.rxConsumeIndex
  · have hfree : hasRoom radif.rx=true := decide_eq_true hroom
    rw [if_pos hroom,hfree]
    cases kind <;> simp [counter]
  · have hfull : hasRoom radif.rx=false := decide_eq_false hroom
    rw [if_neg hroom,hfull]
    cases kind <;> simp [counter]

/-- What the end of a frame does to the interface. -/
structure Ended (radif : Interface) (verdict : Verdict) (reaches : Prop) (radif' : Interface) :
    Prop where
  /-- The receive ring takes at most one arrival. -/
  receive : radif'.rx=radif.rx ∨ ∃ arrival,radif'.rx=RadioReceive.radioRxEnd arrival radif.rx
  /-- The transmit ring stays. -/
  transmit : reaches ∨ radif'.tx=radif.tx
  /-- The sender stays. -/
  sender : radif'.sender=radif.sender
  /-- The verdict is counted. -/
  counted : ∀ kind,counter radif' kind=counter radif kind+if some verdict=some kind then 1 else 0
  /-- The command waits. -/
  mailbox : mailbox radif'=mailbox radif
  /-- The settings stay. -/
  settings : settings radif'=settings radif

/-- The end of a frame is served and judged. -/
theorem yields_radioTrxEnd {fuel : ℕ} {radif radif' : Interface} {talk : Talk}
    (h : Yields (radioTrxEnd fuel radif) talk radif') {flags : UInt8}
    (hflags : flags &&& radioIrqTrxEnd≠0) (echo : UInt8) (rest : Talk) :
    Writes talk [] ∧ ∃ verdict,
      verdictOf (hasRoom radif.rx) (readTalk irqStatus echo flags++(talk++rest))=some verdict ∧
      Ended radif verdict (ReachesTransmit radif (readTalk irqStatus echo flags++(talk++rest)))
        radif' := by
  obtain ⟨_,state,served,rfl,hstate,h⟩ := yields_bind.mp h
  have hfirst := writes_nil radioGetState_plain hstate
  obtain ⟨echo',status,rfl,rfl⟩ := yields_radioGetState hstate
  split at h
  · next hreceiving =>
    obtain ⟨hwrites,arrival,frames,rfl,hframes⟩ := yields_radioRxEnd h
    have hverdict : verdictOf (hasRoom radif.rx) (readTalk irqStatus echo flags++
        (readTalk RadioState.trxStatus echo' status++served++rest))=
          some (if hasRoom radif.rx=true then Verdict.stored else .dropped) := by
      unfold verdictOf
      simp only [readTalk,List.cons_append,List.nil_append,valueHeard,Option.bind_eq_bind,
        Option.bind_some]
      rw [if_pos hflags,if_pos hreceiving]
      rfl
    refine ⟨hfirst.append hwrites,_,hverdict,.inr ⟨arrival,rfl⟩,?_,rfl,
      counter_arrival radif arrival _,rfl,rfl⟩
    obtain rfl|⟨hlast,hfree,hover⟩ := hframes
    · exact .inr rfl
    · refine .inl ⟨hlast,?_,hover rest⟩
      rw [hverdict,if_pos hfree]
  · next hreceiving =>
    obtain ⟨echo'',value,rfl,rfl⟩ := yields_radioTxEnd h
    obtain ⟨hrx,htx,hsender,hmailbox,hsettings⟩ :=
      countTransmission_keeps radif (value >>> tracStatusPos)
    refine ⟨hfirst.append (writes_nil (radioRegRead_plain _)
      (yields_radioRegRead.mpr ⟨echo'',rfl⟩)),_,?_,.inl hrx,.inr htx,hsender,
      counter_countTransmission radif (value >>> tracStatusPos),hmailbox,hsettings⟩
    unfold verdictOf
    simp only [readTalk,List.cons_append,List.nil_append,valueHeard,Option.bind_eq_bind,
      Option.bind_some]
    rw [if_pos hflags,if_neg hreceiving]
    rfl

/-- A conversation starts with the flags, and has a verdict exactly when they
report the end of a frame. -/
def Judged (room : Bool) (talk : Talk) : Prop :=
  ∃ echo flags rest,talk=readTalk irqStatus echo flags++rest ∧
    ((verdictOf room talk).isSome=true ↔ flags &&& radioIrqTrxEnd≠0)

/-- Without the flag there is no verdict. -/
theorem verdictOf_clear {flags : UInt8} (h : ¬flags &&& radioIrqTrxEnd≠0) (room : Bool) (echo : UInt8)
    (rest : Talk) : verdictOf room (readTalk irqStatus echo flags++rest)=none := by
  unfold verdictOf
  simp only [readTalk,List.cons_append,List.nil_append,valueHeard,Option.bind_eq_bind,
    Option.bind_some]
  rw [if_neg h]

/-- An interrupt serves an interface that is up, and its conversation tells how. -/
theorem yields_serveFlags {fuel : ℕ} {radif radif' : Interface} {talk : Talk}
    (h : Yields (serveFlags fuel radif) talk radif') :
    ∃ frames,Writes talk frames ∧ ∀ rest,Judged (hasRoom radif.rx) (talk++rest) ∧
      Served radif (verdictOf (hasRoom radif.rx) (talk++rest)) (ReachesTransmit radif (talk++rest))
        frames radif' := by
  obtain ⟨_,flags,_,rfl,hflags,h⟩ := yields_bind.mp h
  obtain ⟨ended,between,next,rfl,hended,hnext⟩ := yields_bind.mp h
  have hfirst := writes_nil (radioRegRead_plain _) hflags
  obtain ⟨echo,rfl⟩ := yields_radioRegRead.mp hflags
  obtain ⟨frames,hframes,hone⟩ := yields_radioTx hnext
  obtain ⟨hrx,hcounter,hmailbox,hsettings,hslots⟩ := hone.keeps
  split at hended
  · next hset =>
    refine ⟨frames,hfirst.append ((yields_radioTrxEnd hended hset echo []).1.append hframes),
      fun rest => ?_⟩
    obtain ⟨-,verdict,hverdict,hend⟩ := yields_radioTrxEnd hended hset echo (next++rest)
    rw [List.append_assoc,List.append_assoc]
    refine ⟨⟨echo,flags,_,rfl,?_⟩,?_⟩
    · rw [hverdict]
      exact ⟨fun _ => hset,fun _ => rfl⟩
    · rw [hverdict]
      refine ⟨?_,hend.transmit.imp_right fun htx => ⟨between,htx,hend.sender,hone⟩,fun kind => ?_,
        hmailbox.trans hend.mailbox,hsettings.trans hend.settings,
        hend.transmit.imp_right fun htx => ?_⟩
      · rw [hrx]
        exact hend.receive
      · rw [hcounter]
        exact hend.counted kind
      · rw [hslots,htx]
  · next hclear =>
    obtain ⟨rfl,rfl⟩ := yields_pure.mp hended
    refine ⟨frames,hfirst.append hframes,fun rest => ?_⟩
    rw [List.append_assoc]
    refine ⟨⟨echo,flags,_,rfl,?_⟩,?_⟩
    · rw [verdictOf_clear hclear]
      exact ⟨fun hsome => absurd hsome Bool.false_ne_true,fun hset => absurd hset hclear⟩
    · rw [verdictOf_clear hclear]
      refine ⟨.inl hrx,.inr ⟨radif,rfl,rfl,hone⟩,fun kind => ?_,hmailbox,hsettings,.inr hslots⟩
      rw [hcounter,if_neg (by simp),UInt16.add_zero]

/-- The end of an interrupt is plain. -/
theorem listenAgain_plain (fuel : ℕ) : SaysPlain (listenAgain fuel) :=
  radioIsStateBusy_plain.bind fun _ =>
    (((radioSetState_plain _ _).repeatUntil _ _).bind fun _ => .pure ()).onlyIf _

/-- Without a command nothing is carried out. -/
theorem yields_radioCommand_none {fuel : ℕ} {radif radif' : Interface} {talk : Talk}
    (h : Yields (radioCommand fuel radif) talk radif') (hcommand : radif.command=0) :
    talk=[] ∧ radif'=radif := by
  have hnone : carryOutWaiting fuel radif=pure radif := by
    unfold carryOutWaiting
    rw [hcommand]
    rfl
  unfold radioCommand at h
  rw [hnone] at h
  obtain ⟨_,carried,_,rfl,hcarried,hdone⟩ := yields_bind.mp h
  obtain ⟨rfl,rfl⟩ := yields_pure.mp hcarried
  obtain ⟨rfl,rfl⟩ := yields_pure.mp hdone
  refine ⟨rfl,?_⟩
  rw [←hcommand]

/-- An interrupt without a command serves the interface if it is up and does nothing else
to it. -/
theorem yields_radioIrq {fuel : ℕ} {radif radif' : Interface} {talk : Talk}
    (h : Yields (radioIrq fuel radif) talk radif') (hcommand : radif.command=0) :
    (radif.tx.up=false ∧ Writes talk [] ∧ radif'=radif) ∨
      (radif.tx.up=true ∧ Judged (hasRoom radif.rx) talk ∧ ∃ frames,Writes talk frames ∧
        Served radif (verdictOf (hasRoom radif.rx) talk) (ReachesTransmit radif talk) frames
          radif') := by
  obtain ⟨first,served,_,rfl,hserved,h⟩ := yields_bind.mp h
  obtain ⟨second,carried,_,rfl,hcarried,h⟩ := yields_bind.mp h
  obtain ⟨last,_,_,rfl,hlast,h⟩ := yields_bind.mp h
  obtain ⟨rfl,rfl⟩ := yields_pure.mp h
  have hlisten : Writes last [] := writes_nil ((listenAgain_plain fuel).onlyIf _) hlast
  rw [List.append_nil]
  split at hserved
  · next hup =>
    obtain ⟨frames,hframes,hserves⟩ := yields_serveFlags hserved
    have hnone := (congrArg Prod.fst (hserves []).2.mailbox).trans hcommand
    obtain ⟨rfl,rfl⟩ := yields_radioCommand_none hcarried hnone
    have hwrites := hframes.append hlisten
    rw [List.append_nil] at hwrites
    exact .inr ⟨hup,(hserves last).1,frames,hwrites,(hserves last).2⟩
  · next hdown =>
    obtain ⟨rfl,rfl⟩ := yields_pure.mp hserved
    obtain ⟨rfl,rfl⟩ := yields_radioCommand_none hcarried hcommand
    exact .inl ⟨Bool.eq_false_iff.mpr hdown,hlisten,rfl⟩

/-! ## Interrupt and main loop together -/

/-- The interface, where the main loop is, and what has happened so far. -/
structure Station where
  /-- The shared structure. -/
  radif : Interface
  /-- Where `radif_service` is. -/
  service : RadioReceive.Service
  /-- Frames stored by the interrupt. -/
  stored : List RxSlot
  /-- Frames the callback was started on. -/
  seen : List RxSlot
  /-- Slots given back by the main loop. -/
  released : ℕ
  /-- Where `radif_send` is. -/
  sending : RadioTransmit.Sending
  /-- Frames handed to `radif_send`. -/
  handed : List Job
  /-- Frames published in the ring. -/
  accepted : List Job
  /-- Frames given up. -/
  refused : List Job
  /-- Frame writes the radio has seen. -/
  writes : List (List UInt8)
  /-- Verdicts of the interrupts. -/
  verdicts : List Verdict

/-- The receive side. -/
def Station.receiver (s : Station) : RadioReceive.System :=
  ⟨s.radif.rx,s.service,s.stored,s.seen,s.released⟩

/-- The transmit side. -/
def Station.transmitter (s : Station) : RadioTransmit.System :=
  ⟨s.radif.tx,s.radif.sender,s.sending,s.handed,s.accepted,s.refused,s.writes⟩

/-- The station after a step of its receive side. -/
def Station.withReceiver (s : Station) (r : RadioReceive.System) : Station :=
  {s with
    radif := {s.radif with rx := r.radif}
    service := r.service
    stored := r.stored
    seen := r.seen
    released := r.released}

/-- The station after a step of its transmit side. -/
def Station.withTransmitter (s : Station) (t : RadioTransmit.System) : Station :=
  {s with
    radif := {s.radif with tx := t.radif,sender := t.sender}
    sending := t.sending
    handed := t.handed
    accepted := t.accepted
    refused := t.refused
    writes := t.writes}

/-- The station after an interrupt that has left the interface like this. -/
def Station.interrupted (s : Station) (talk : Talk) (radif : Interface) : Station :=
  {s with
    radif := radif
    stored := if radif.rx.rxProduceIndex=s.radif.rx.rxProduceIndex then s.stored
      else s.stored++[radif.rx.rxFrames s.radif.rx.rxProduceIndex]
    writes := s.writes++frameWrites talk
    verdicts := s.verdicts++
      (if s.radif.tx.up then verdictOf (hasRoom s.radif.rx) talk else none).toList}

/-- A step of the station. -/
inductive StationEvent where
  /-- The main loop takes frames. -/
  | service (action : RadioReceive.Action)
  /-- The main loop sends. -/
  | send (action : RadioTransmit.Action)
  /-- The interrupt, with its conversation. -/
  | irq (talk : Talk)

/-- The action is one of the main loop. -/
def ofMainLoop : RadioReceive.Action → Bool
  | .arrival _ => false
  | _ => true

/-- The action is one of `radif_send`. -/
def ofSend : RadioTransmit.Action → Bool
  | .call _ => true
  | .advance => true
  | _ => false

/-- The steps of the station. Between two steps of the main loop any number of
interrupts may run, each to its end. -/
def stationStep (s : Station) : StationEvent → Station → Prop
  | .service action,s' => ofMainLoop action=true ∧
      ∃ r,s.receiver.act action=some r ∧ s'=s.withReceiver r
  | .send action,s' => ofSend action=true ∧
      ∃ t,s.transmitter.act action=some t ∧ s'=s.withTransmitter t
  | .irq talk,s' => ∃ fuel radif,Yields (radioIrq fuel s.radif) talk radif ∧
      s'=s.interrupted talk radif

/-- A station before anything was received or sent. -/
def Station.start (radif : Interface) : Station := ⟨radif,.test,[],[],0,.idle,[],[],[],[],[]⟩

/-- An interrupt is at most one arrival for the receive ring. -/
theorem receiver_interrupted {s : Station} {talk : Talk} {radif : Interface}
    (h : radif.rx=s.radif.rx ∨ ∃ arrival,radif.rx=RadioReceive.radioRxEnd arrival s.radif.rx) :
    (s.interrupted talk radif).receiver=s.receiver ∨
      ∃ action,RadioReceive.Step s.receiver action (s.interrupted talk radif).receiver := by
  obtain hsame|⟨arrival,harrived⟩ := h
  · left
    unfold Station.receiver Station.interrupted
    rw [hsame,if_pos rfl]
  · right
    refine ⟨.arrival arrival,congrArg some ?_⟩
    unfold Station.receiver Station.interrupted RadioReceive.System.arrive
    rw [harrived]

/-- While the radio is busy nothing is written. -/
theorem radioTx_busy (s : RadioTransmit.System) (bus : Spi) : s.radioTx true bus=some s := by
  unfold RadioTransmit.System.radioTx
  dsimp only
  split <;> rfl

/-- An interrupt of an interface that is up is one step of the transmit ring. -/
theorem transmitter_interrupted {s : Station} {talk : Talk} {between radif : Interface}
    {frames : List (List UInt8)} (hup : s.radif.tx.up=true) (hwrites : Writes talk frames)
    (htx : between.tx=s.radif.tx) (hsender : between.sender=s.radif.sender)
    (h : NextFrame between radif frames) :
    ∃ busy bus,RadioTransmit.Step s.transmitter (.irq busy bus)
      (s.interrupted talk radif).transmitter := by
  unfold RadioTransmit.Step RadioTransmit.System.act
  dsimp only
  have hstation : s.transmitter.radif.up=true := hup
  simp only [hstation,if_true]
  cases h with
  | none =>
    refine ⟨true,⟨fun _ => 0,[]⟩,?_⟩
    rw [radioTx_busy]
    unfold Station.interrupted Station.transmitter
    rw [hwrites.frameWrites_eq,htx,hsender,List.append_nil]
  | @one spi spi' sender hpending hsent hwrite =>
    refine ⟨false,spi,?_⟩
    rw [htx] at hpending hwrite
    rw [hsender] at hwrite
    unfold RadioTransmit.System.radioTx Station.interrupted Station.transmitter
    dsimp only
    rw [if_pos hpending,hwrites.frameWrites_eq,hwrite,hsent,htx]
    rfl

/-- The statistics count the verdicts, and no command waits. -/
structure Tallied (first : Interface) (s : Station) : Prop where
  /-- Every counter has counted its verdicts. -/
  counted : ∀ kind,counter s.radif kind=counter first kind+UInt16.ofNat (s.verdicts.count kind)
  /-- The main loop gives no command. -/
  command : s.radif.command=0

/-- One more verdict is counted. -/
theorem count_toList (verdicts : List Verdict) (verdict : Option Verdict) (kind : Verdict) :
    UInt16.ofNat ((verdicts++verdict.toList).count kind)=
      UInt16.ofNat (verdicts.count kind)+if verdict=some kind then 1 else 0 := by
  rw [List.count_append,UInt16.ofNat_add]
  cases verdict with
  | none => rfl
  | some verdict =>
    by_cases hkind : verdict=kind
    · subst hkind
      simp
    · simp [hkind]

/-- Taking frames leaves the statistics alone. -/
theorem service_keeps_counts {r r' : RadioReceive.System} {action : RadioReceive.Action}
    (h : r.act action=some r') (hloop : ofMainLoop action=true) :
    r'.radif.rxSuccessCount=r.radif.rxSuccessCount ∧ r'.radif.rxOverflow=r.radif.rxOverflow := by
  unfold RadioReceive.System.act at h
  cases action with
  | arrival => exact absurd hloop Bool.false_ne_true
  | test =>
    cases hservice : r.service with
    | test =>
      rw [hservice] at h
      dsimp only at h
      split at h
      · rw [←Option.some.inj h]
        exact ⟨rfl,rfl⟩
      · rw [←Option.some.inj h]
        exact ⟨rfl,rfl⟩
    | _ => simp [hservice] at h
  | call =>
    cases hservice : r.service with
    | entered =>
      rw [hservice] at h
      rw [←Option.some.inj h]
      exact ⟨rfl,rfl⟩
    | _ => simp [hservice] at h
  | finish =>
    cases hservice : r.service with
    | callback =>
      rw [hservice] at h
      rw [←Option.some.inj h]
      exact ⟨rfl,rfl⟩
    | _ => simp [hservice] at h
  | publish =>
    cases hservice : r.service with
    | returned =>
      rw [hservice] at h
      rw [←Option.some.inj h]
      exact ⟨rfl,rfl⟩
    | _ => simp [hservice] at h

/-- Every step keeps the tally, and is at most one step of either ring; of the
transmit ring, unless a frame reaches into it. -/
theorem Tallied.step {first : Interface} {s s' : Station} {event : StationEvent}
    (h : Tallied first s) (hstep : stationStep s event s') :
    Tallied first s' ∧
      (s'.receiver=s.receiver ∨ ∃ action,RadioReceive.Step s.receiver action s'.receiver) ∧
      ((∃ talk,event=.irq talk ∧ ReachesTransmit s.radif talk) ∨ s'.transmitter=s.transmitter ∨
        ∃ action,RadioTransmit.Step s.transmitter action s'.transmitter) := by
  cases event with
  | service action =>
    obtain ⟨hloop,r,hr,rfl⟩ := hstep
    obtain ⟨hsuccess,hoverflow⟩ := service_keeps_counts hr hloop
    refine ⟨⟨fun kind => ?_,h.command⟩,.inr ⟨action,hr⟩,.inr (.inl rfl)⟩
    have hcount := h.counted kind
    cases kind with
    | stored => exact hsuccess.trans hcount
    | dropped => exact hoverflow.trans hcount
    | _ => exact hcount
  | send action =>
    obtain ⟨-,t,ht,rfl⟩ := hstep
    exact ⟨⟨h.counted,h.command⟩,.inl rfl,.inr (.inr ⟨action,ht⟩)⟩
  | irq talk =>
    obtain ⟨fuel,radif,hyields,rfl⟩ := hstep
    obtain ⟨hdown,hwrites,rfl⟩|⟨hup,-,frames,hwrites,hserved⟩ := yields_radioIrq hyields h.command
    · refine ⟨⟨fun kind => ?_,h.command⟩,receiver_interrupted (.inl rfl),.inr (.inl ?_)⟩
      · have hsame : (s.interrupted talk s.radif).verdicts=s.verdicts := by
          unfold Station.interrupted
          rw [hdown]
          exact List.append_nil s.verdicts
        rw [hsame]
        exact h.counted kind
      · unfold Station.interrupted Station.transmitter
        rw [hwrites.frameWrites_eq,List.append_nil]
    · refine ⟨⟨fun kind => ?_,(congrArg Prod.fst hserved.mailbox).trans h.command⟩,
        receiver_interrupted hserved.receive,?_⟩
      · unfold Station.interrupted
        rw [hup,if_pos rfl,count_toList,hserved.counted,h.counted,UInt16.add_assoc]
      · obtain hreaches|⟨between,htx,hsender,hnext⟩ := hserved.transmit
        · exact .inl ⟨talk,rfl,hreaches⟩
        · obtain ⟨busy,bus,hirq⟩ := transmitter_interrupted hup hwrites htx hsender hnext
          exact .inr (.inr ⟨_,hirq⟩)

/-- No step loses a frame that was handed over, whatever the slots hold. -/
theorem step_accounted {s s' : Station} {event : StationEvent}
    (h : RadioTransmit.Accounted s.transmitter) (hstep : stationStep s event s') :
    RadioTransmit.Accounted s'.transmitter := by
  cases event with
  | service action =>
    obtain ⟨-,r,-,rfl⟩ := hstep
    exact h
  | send action =>
    obtain ⟨-,t,ht,rfl⟩ := hstep
    exact h.step ht
  | irq talk =>
    obtain ⟨fuel,radif,-,rfl⟩ := hstep
    exact h

/-- A radio that answers the transfers from a script. -/
def scripted : (question : Wire) → List UInt8 → question.Answer × List UInt8
  | .spiXfer _,[] => (0,[])
  | .spiXfer _,answer::rest => (answer,rest)
  | .spiStart,script => ((),script)
  | .spiStop,script => ((),script)
  | .slptrSet,script => ((),script)
  | .slptrClear,script => ((),script)
  | .resetSet,script => ((),script)
  | .resetClear,script => ((),script)
  | .delayUs _,script => ((),script)

/-- The gateway's interface with empty rings after it was started. -/
def upRadif : Interface :=
  ⟨RadioReceive.emptySide,RadioTransmit.idleRadif,⟨0x1234,1,0⟩,0,0,0xFF,0,8683,0xE8,9,0,0,0,0,0⟩

/-- The answers for one received frame with one octet of payload. -/
def oneFrame : List UInt8 :=
  [0,0x08,0,22,0,5,0,0x80,0,12,0x41,0x98,7,0x34,0x12,1,0,2,0,0x55,0,22,0,22,0,22]

/-- The interrupt stores the frame. -/
theorem oneFrame_stored : ∃ talk radif,Yields (radioIrq 3 upRadif) talk radif ∧
    radif.tx.up=true ∧ radif.rx.rxSuccessCount=1 := by
  have hrun : ((radioIrq 3 upRadif).run scripted oneFrame).any (fun result =>
      result.1.tx.up=true ∧ result.1.rx.rxSuccessCount=1)=true := by
    decide +kernel
  obtain ⟨⟨radif,rest⟩,hresult,hchecked⟩ := (Option.any_eq_true _ _).mp hrun
  exact ⟨_,radif,run_yields hresult,of_decide_eq_true hchecked⟩

/-- A station can receive one frame. -/
theorem oneFrame_path : ∃ ts s,Path stationStep (Station.start upRadif) ts s ∧
    s.radif.rx.rxSuccessCount=1 := by
  obtain ⟨talk,radif,hyields,-,hcount⟩ := oneFrame_stored
  have hstep : stationStep (Station.start upRadif) (.irq talk)
      ((Station.start upRadif).interrupted talk radif) := ⟨3,radif,hyields,rfl⟩
  exact ⟨_,_,Path.nil.snoc hstep,hcount⟩

/-- In every run of main loop and interrupts, whatever the radio answers, each
statistic has counted exactly the interrupts with its verdict, and an interrupt
has a verdict exactly when the interface is up and the flags it reads report
the end of a frame. -/
theorem statistics_count_verdicts (radif : Interface) (hcommand : radif.command=0)
    (ts : List (Transition Station StationEvent)) (s : Station)
    (hp : Path stationStep (Station.start radif) ts s) :
    (∀ kind,counter s.radif kind=counter radif kind+UInt16.ofNat (s.verdicts.count kind)) ∧
    ∀ t∈ts,∀ talk,t.label=.irq talk →
      (t.before.radif.tx.up=false ∧ t.after.verdicts=t.before.verdicts) ∨
      (t.before.radif.tx.up=true ∧ ∃ echo flags rest,talk=readTalk irqStatus echo flags++rest ∧
        t.after.verdicts.length=t.before.verdicts.length+
          if flags &&& radioIrqTrxEnd≠0 then 1 else 0) := by
  have hstart : Tallied radif (Station.start radif) :=
    ⟨fun kind => (UInt16.add_zero _).symm,hcommand⟩
  have hkeep : ∀ s event s',Tallied radif s → stationStep s event s' → Tallied radif s' :=
    fun _ _ _ h hstep => (h.step hstep).1
  refine ⟨(hp.invariant hstart hkeep).counted,fun t ht talk hlabel => ?_⟩
  have htally := (hp.invariant_transitions hstart hkeep t ht).1
  have hstep := hp.steps t ht
  rw [hlabel] at hstep
  obtain ⟨fuel,after,hyields,hafter⟩ := hstep
  rw [hafter]
  unfold Station.interrupted
  obtain ⟨hdown,-⟩|⟨hup,⟨echo,flags,rest,hrest,hjudged⟩,-⟩ := yields_radioIrq hyields htally.command
  · refine .inl ⟨hdown,?_⟩
    rw [hdown]
    exact List.append_nil _
  · refine .inr ⟨hup,echo,flags,rest,hrest,?_⟩
    rw [hup,if_pos rfl,List.length_append]
    by_cases hset : flags &&& radioIrqTrxEnd≠0
    · obtain ⟨verdict,hverdict⟩ := Option.isSome_iff_exists.mp (hjudged.mpr hset)
      rw [hverdict,if_pos hset]
      rfl
    · have hnone := Option.not_isSome_iff_eq_none.mp fun hsome => hset (hjudged.mp hsome)
      rw [hnone,if_neg hset]
      rfl

/-- The one frame is counted as stored. -/
theorem statistics_count_one_frame : ∃ ts s,Path stationStep (Station.start upRadif) ts s ∧
    s.radif.rx.rxSuccessCount=1 ∧
    (∀ kind,counter s.radif kind=counter upRadif kind+UInt16.ofNat (s.verdicts.count kind)) ∧
    ∀ t∈ts,∀ talk,t.label=.irq talk →
      (t.before.radif.tx.up=false ∧ t.after.verdicts=t.before.verdicts) ∨
      (t.before.radif.tx.up=true ∧ ∃ echo flags rest,talk=readTalk irqStatus echo flags++rest ∧
        t.after.verdicts.length=t.before.verdicts.length+
          if flags &&& radioIrqTrxEnd≠0 then 1 else 0) := by
  obtain ⟨ts,s,hp,hcount⟩ := oneFrame_path
  exact ⟨ts,s,hp,hcount,statistics_count_verdicts upRadif rfl ts s hp⟩

/-- In every run of main loop and interrupts from empty rings, whatever the radio
answers: the callback sees the first of the stored frames in their order, each
once; every frame handed over was accepted, given up, or is still in progress;
and an interrupt leaves the transmit slots alone unless it stores a frame beyond
the last receive slot. If none does that, the frames the radio is given are the
accepted ones in their order, each once and with the next sequence number. -/
theorem station_keeps_rings (radif : Interface) (hcommand : radif.command=0)
    (hrx : radif.rx.rxConsumeIndex=radif.rx.rxProduceIndex)
    (htx : radif.tx.txConsumeIndex=radif.tx.txProduceIndex)
    (ts : List (Transition Station StationEvent)) (s : Station)
    (hp : Path stationStep (Station.start radif) ts s) :
    s.seen <+: s.stored ∧ s.seen.length ≤ s.released+1 ∧
      RadioTransmit.Accounted s.transmitter ∧
      (∀ t∈ts,∀ talk,t.label=.irq talk → ReachesTransmit t.before.radif talk ∨
        t.after.radif.tx.txFrames=t.before.radif.tx.txFrames) ∧
      ((∀ t∈ts,∀ talk,t.label=.irq talk → ¬ReachesTransmit t.before.radif talk) →
        ∀ k octets,s.writes[k]?=some octets → ∃ job : Job,s.accepted[k]?=some job ∧
          octets=job.octets (RadioTransmit.Sender.advanced radif.sender k)) := by
  have hstart : Tallied radif (Station.start radif) :=
    ⟨fun kind => (UInt16.add_zero _).symm,hcommand⟩
  have hkeep : ∀ s event s',Tallied radif s → stationStep s event s' → Tallied radif s' :=
    fun _ _ _ h hstep => (h.step hstep).1
  have hreceived : ∀ s event s',
      (Tallied radif s ∧ RadioReceive.Consistent radif.rx.rxProduceIndex.val s.receiver ∧
        RadioTransmit.Accounted s.transmitter) → stationStep s event s' →
      Tallied radif s' ∧ RadioReceive.Consistent radif.rx.rxProduceIndex.val s'.receiver ∧
        RadioTransmit.Accounted s'.transmitter := by
    rintro s event s' ⟨htally,hreceiver,haccounted⟩ hstep
    obtain ⟨htally',hsame|⟨action,haction⟩,-⟩ := htally.step hstep
    · exact ⟨htally',by rwa [hsame],step_accounted haccounted hstep⟩
    · exact ⟨htally',RadioReceive.step_consistent hreceiver haction,step_accounted haccounted hstep⟩
  obtain ⟨-,hreceiver,haccounted⟩ := hp.invariant
    ⟨hstart,RadioReceive.start_consistent hrx,RadioTransmit.start_accounted _ _⟩ hreceived
  refine ⟨hreceiver.seen,?_,haccounted,fun t ht talk hlabel => ?_,fun hclear => ?_⟩
  · have hprogress := hreceiver.progress
    unfold RadioReceive.Progress at hprogress
    change s.receiver.seen.length ≤ s.receiver.released+1
    split at hprogress <;> omega
  · have htally := (hp.invariant_transitions hstart hkeep t ht).1
    have hstep := hp.steps t ht
    rw [hlabel] at hstep
    obtain ⟨fuel,after,hyields,hafter⟩ := hstep
    rw [hafter]
    obtain ⟨-,-,rfl⟩|⟨-,-,frames,-,hserved⟩ := yields_radioIrq hyields htally.command
    · exact .inr rfl
    · exact hserved.slots
  · have hguarded := hp.guarded
      (fun s => Tallied radif s ∧
        RadioTransmit.Consistent radif.tx.txProduceIndex.val radif.sender s.transmitter)
      (fun s event => ∀ talk,event=.irq talk → ¬ReachesTransmit s.radif talk)
      (fun _ _ _ => True) ⟨hstart,RadioTransmit.start_consistent radif.sender htx⟩
      (fun s event s' ⟨htally,htransmitter⟩ hstep hcond => by
        obtain ⟨htally',-,⟨talk,hirq,hreaches⟩|hsame|⟨action,haction⟩⟩ := htally.step hstep
        · exact absurd hreaches (hcond talk hirq)
        · exact ⟨⟨htally',by rwa [hsame]⟩,trivial⟩
        · exact ⟨⟨htally',RadioTransmit.step_consistent htransmitter haction⟩,trivial⟩)
      hclear
    exact hguarded.1.2.writes

/-- A step of the station with the answers of the radio to an interrupt. -/
inductive StationMove where
  /-- The main loop takes frames. -/
  | service (action : RadioReceive.Action)
  /-- The main loop sends. -/
  | send (action : RadioTransmit.Action)
  /-- The interrupt, with the answers to its transfers. -/
  | irq (script : List UInt8)

/-- The step a move is, if it is possible. -/
def Station.play (s : Station) : StationMove → Option (StationEvent × Station)
  | .service action =>
    if ofMainLoop action then
      (s.receiver.act action).map fun r => (.service action,s.withReceiver r)
    else none
  | .send action =>
    if ofSend action then
      (s.transmitter.act action).map fun t => (.send action,s.withTransmitter t)
    else none
  | .irq script =>
    let talk := (radioIrq 3 s.radif).transcript scripted script
    ((radioIrq 3 s.radif).run scripted script).map fun result =>
      (.irq talk,s.interrupted talk result.1)

/-- Every move of the station is a step of it. -/
theorem play_step {s s' : Station} {move : StationMove} {event : StationEvent}
    (h : s.play move=some (event,s')) : stationStep s event s' := by
  cases move with
  | service action =>
    unfold Station.play at h
    dsimp only at h
    split at h
    · next hloop =>
      obtain ⟨r,hr,heq⟩ := Option.map_eq_some_iff.mp h
      obtain ⟨rfl,rfl⟩ := Prod.mk.inj heq
      exact ⟨hloop,r,hr,rfl⟩
    · cases h
  | send action =>
    unfold Station.play at h
    dsimp only at h
    split at h
    · next hsend =>
      obtain ⟨t,ht,heq⟩ := Option.map_eq_some_iff.mp h
      obtain ⟨rfl,rfl⟩ := Prod.mk.inj heq
      exact ⟨hsend,t,ht,rfl⟩
    · cases h
  | irq script =>
    obtain ⟨⟨radif,rest⟩,hrun,heq⟩ := Option.map_eq_some_iff.mp h
    obtain ⟨rfl,rfl⟩ := Prod.mk.inj heq
    exact ⟨3,radif,run_yields hrun,rfl⟩

/-- The answers while a pending frame of `n` octets is written from a state, and
the radio is busy with it afterwards. -/
def writeAnswers (state : UInt8) (n : ℕ) : List UInt8 :=
  [0,state,0,state,0,0,0,0,0,0,0,0,0,8,0,8,0,0,0,0,0,25]++List.replicate (n+13) 0++[0,0,0,0,0,18]

/-- The answers for a received frame with one octet of payload, up to the state
behind it. -/
def frameAnswers (octet : UInt8) : List UInt8 :=
  [0,0x08,0,22,0,5,0,0x80,0,12,0x41,0x98,7,0x34,0x12,1,0,2,0,octet,0,22]

/-- Two frames are sent and two received. The first interrupt comes while the
second frame is copied: it stores a frame and writes the first one. The second
interrupt finds that one sent and writes the second, and the third stores a
frame while the callback runs. -/
def stationRun : List StationMove := List.flatten [
  [.send (.call RadioTransmit.debugReply)],List.replicate 11 (.send .advance),
  [.send (.call RadioTransmit.shortReply)],List.replicate 3 (.send .advance),
  [.irq (frameAnswers 0x55++writeAnswers 22 4),.service .test,.service .call],
  List.replicate 6 (.send .advance),
  [.irq ([0,0x08,0,25,0,0]++writeAnswers 25 2),.irq (frameAnswers 0x66++[0,22,0,22]),
    .service .finish,.service .publish,.service .test,.service .call]]

/-- The run is possible and never comes to the last receive slot. -/
theorem stationRun_effect :
    ∃ ts s,traceOf Station.play (Station.start upRadif) stationRun=some (ts,s) ∧
      s.seen.map (fun slot => slot.data.octets.head?)=[some 0x55,some 0x66] ∧
      s.writes=[RadioTransmit.debugReply.octets ⟨0x1234,1,0⟩,
        RadioTransmit.shortReply.octets ⟨0x1234,1,1⟩] ∧
      ∀ t∈ts,t.before.radif.rx.rxProduceIndex.val+1≠RadioReceive.numRxFrames := by
  have hrun : (traceOf Station.play (Station.start upRadif) stationRun).any (fun run =>
      run.2.seen.map (fun slot => slot.data.octets.head?)=[some 0x55,some 0x66] ∧
      run.2.writes=[RadioTransmit.debugReply.octets ⟨0x1234,1,0⟩,
        RadioTransmit.shortReply.octets ⟨0x1234,1,1⟩] ∧
      ∀ t∈run.1,t.before.radif.rx.rxProduceIndex.val+1≠RadioReceive.numRxFrames)=true := by
    decide +kernel
  obtain ⟨run,htrace,hchecked⟩ := (Option.any_eq_true _ _).mp hrun
  exact ⟨run.1,run.2,htrace,of_decide_eq_true hchecked⟩

/-- Both frames are seen in their order, and both are written in theirs. -/
theorem station_keeps_four_frames : ∃ ts s,Path stationStep (Station.start upRadif) ts s ∧
    s.seen.map (fun slot => slot.data.octets.head?)=[some 0x55,some 0x66] ∧
    s.writes=[RadioTransmit.debugReply.octets ⟨0x1234,1,0⟩,
      RadioTransmit.shortReply.octets ⟨0x1234,1,1⟩] ∧
    (∀ t∈ts,∀ talk,t.label=.irq talk → ¬ReachesTransmit t.before.radif talk) ∧
    s.seen <+: s.stored ∧ s.seen.length ≤ s.released+1 ∧ RadioTransmit.Accounted s.transmitter ∧
    (∀ t∈ts,∀ talk,t.label=.irq talk → ReachesTransmit t.before.radif talk ∨
      t.after.radif.tx.txFrames=t.before.radif.tx.txFrames) ∧
    ∀ k octets,s.writes[k]?=some octets → ∃ job : Job,s.accepted[k]?=some job ∧
      octets=job.octets (RadioTransmit.Sender.advanced upRadif.sender k) := by
  obtain ⟨ts,s,htrace,hseen,hwrites,hslots⟩ := stationRun_effect
  have hpath : Path stationStep (Station.start upRadif) ts s :=
    path_of_trace (fun _ _ _ _ => play_step) htrace
  have hclear : ∀ t∈ts,∀ talk,t.label=.irq talk → ¬ReachesTransmit t.before.radif talk :=
    fun t ht _ _ hreaches => hslots t ht hreaches.1
  obtain ⟨hfirst,hreleased,haccounted,hkept,hwritten⟩ :=
    station_keeps_rings upRadif rfl rfl rfl ts s hpath
  exact ⟨ts,s,hpath,hseen,hwrites,hclear,hfirst,hreleased,haccounted,hkept,hwritten hclear⟩

/-! ## The end of an interrupt -/

/-- A change of state that succeeds has read the new state last. -/
theorem radioSetState_success {fuel : ℕ} {state : UInt8} {talk : Talk}
    (h : Yields (radioSetState fuel state) talk RadioState.radioSuccess) :
    ∃ before echo status,talk=before++readTalk RadioState.trxStatus echo status ∧
      RadioState.stateOf status=state := by
  obtain ⟨_,currState,rest,rfl,hfirst,h⟩ := yields_bind.mp h
  obtain ⟨echo,status,rfl,rfl⟩ := yields_radioGetState hfirst
  split at h
  · next hfound =>
    obtain ⟨rfl,-⟩ := yields_pure.mp h
    exact ⟨[],echo,status,List.append_nil _,hfound⟩
  · obtain ⟨waited,_,_,rfl,-,h⟩ := yields_bind.mp h
    obtain ⟨prepared,_,_,rfl,-,h⟩ := yields_bind.mp h
    obtain ⟨written,_,_,rfl,-,h⟩ := yields_bind.mp h
    obtain ⟨delayed,_,_,rfl,-,h⟩ := yields_bind.mp h
    obtain ⟨_,final,_,rfl,hfinal,h⟩ := yields_bind.mp h
    obtain ⟨rfl,hresult⟩ := yields_pure.mp h
    obtain ⟨echo',status',rfl,rfl⟩ := yields_radioGetState hfinal
    refine ⟨readTalk RadioState.trxStatus echo status++(waited++(prepared++(written++delayed))),
      echo',status',by simp only [List.append_assoc,List.append_nil],?_⟩
    by_contra hdiffers
    rw [if_neg hdiffers] at hresult
    exact absurd hresult (by decide)

/-- Whatever the radio answers and whatever command was carried out: when an
interrupt returns, the interface is down, or the last state it has read is a
busy one or `RX_AACK_ON`. -/
theorem interrupt_ends_listening {fuel : ℕ} {radif radif' : Interface} {talk : Talk}
    (h : Yields (radioIrq fuel radif) talk radif') :
    radif'.tx.up=false ∨
      ∃ before echo status,talk=before++readTalk RadioState.trxStatus echo status ∧
        (busy (RadioState.stateOf status)=true ∨ RadioState.stateOf status=RadioState.rxAackOn) := by
  obtain ⟨first,served,_,rfl,-,h⟩ := yields_bind.mp h
  obtain ⟨second,carried,_,rfl,-,h⟩ := yields_bind.mp h
  obtain ⟨last,_,_,rfl,hlast,h⟩ := yields_bind.mp h
  obtain ⟨rfl,rfl⟩ := yields_pure.mp h
  unfold Program.onlyIf at hlast
  split at hlast
  · next hup =>
    right
    obtain ⟨_,isBusy,_,rfl,hbusy,hrest⟩ := yields_bind.mp hlast
    obtain ⟨_,_,_,rfl,hstate,hdone⟩ := yields_bind.mp hbusy
    obtain ⟨rfl,rfl⟩ := yields_pure.mp hdone
    obtain ⟨echo,status,rfl,rfl⟩ := yields_radioGetState hstate
    unfold Program.onlyIf at hrest
    split at hrest
    · obtain ⟨_,_,_,rfl,hrepeat,hend⟩ := yields_bind.mp hrest
      obtain ⟨rfl,-⟩ := yields_pure.mp hend
      obtain ⟨haccept,tried,final,rfl,hfinal⟩ := yields_repeatUntil hrepeat
      rw [of_decide_eq_true haccept] at hfinal
      obtain ⟨before,echo',status',rfl,hon⟩ := radioSetState_success hfinal
      exact ⟨first++(second++(readTalk RadioState.trxStatus echo status++(tried++before))),echo',
        status',by simp only [List.append_assoc,List.append_nil],.inr hon⟩
    · next hfound =>
      obtain ⟨rfl,-⟩ := yields_pure.mp hrest
      exact ⟨first++second,echo,status,by simp only [List.append_assoc,List.append_nil],
        .inl (Bool.not_eq_false _ ▸ hfound)⟩
  · next hdown => exact .inl (Bool.eq_false_iff.mpr hdown)

/-- The interrupt for one frame ends listening. -/
theorem oneFrame_ends_listening : ∃ talk radif,Yields (radioIrq 3 upRadif) talk radif ∧
    radif.tx.up=true ∧ (radif.tx.up=false ∨
      ∃ before echo status,talk=before++readTalk RadioState.trxStatus echo status ∧
        (busy (RadioState.stateOf status)=true ∨
          RadioState.stateOf status=RadioState.rxAackOn)) := by
  obtain ⟨talk,radif,hyields,hup,-⟩ := oneFrame_stored
  exact ⟨talk,radif,hyields,hup,interrupt_ends_listening hyields⟩

end VlfGateway.RadioInterrupt
