import VlfGateway.FifoRing
import VlfGateway.RadioFrame
import VlfGateway.StepPath

/-!
# The transmit ring between main loop and interrupt

Sending reserves the slot at the produce index, fills it octet by octet and
field by field, and publishes it last. The interrupt, which writes the slot at
the consume index to the radio, may come between any two of these steps. With
all slots pending a send waits for the interrupt while the interface is up and
gives up while it is down.
-/

namespace VlfGateway.RadioTransmit

open RadioFrame RadioQueue StepPath

/-- The arguments of one `radif_send`. -/
structure Job where
  /-- `frame`. -/
  frame : List UInt8
  /-- `len`. -/
  len : UInt8
  /-- `dest_addr`. -/
  destAddr : UInt16
  /-- `ack`. -/
  ack : UInt8
  /-- The frame holds the announced octets. -/
  size : len.toNat ≤ frame.length
  /-- With its header the frame fits into the radio. -/
  fits : len≤116

/-- Where `radif_send` is, with its local variables. -/
inductive Sending where
  /-- Not called. -/
  | idle
  /-- The length was checked. -/
  | called (job : Job)
  /-- `index` and `next` are known. -/
  | reserved (job : Job) (index next : Fin numTxFrames)
  /-- All slots were pending. -/
  | full (job : Job) (index next : Fin numTxFrames)
  /-- Waiting for the interrupt to free a slot. -/
  | waiting (job : Job) (index next : Fin numTxFrames)
  /-- Inside `memcpy`, with `k` octets copied. -/
  | copying (job : Job) (index next : Fin numTxFrames) (k : ℕ)
  /-- The destination address is stored. -/
  | addressed (job : Job) (index next : Fin numTxFrames)
  /-- The length is stored. -/
  | measured (job : Job) (index next : Fin numTxFrames)
  /-- The acknowledgement flag is stored. -/
  | flagged (job : Job) (index next : Fin numTxFrames)
  /-- The produce index is published. -/
  | published

/-- The send that is in progress and has not been published. -/
def Sending.job? : Sending → Option Job
  | .idle => none
  | .called job => some job
  | .reserved job _ _ => some job
  | .full job _ _ => some job
  | .waiting job _ _ => some job
  | .copying job _ _ _ => some job
  | .addressed job _ _ => some job
  | .measured job _ _ => some job
  | .flagged job _ _ => some job
  | .published => none

/-- Main loop and interrupt with what they have done so far. -/
structure System where
  /-- The shared structure. -/
  radif : Radif
  /-- Address and sequence number of the interface. -/
  sender : Sender
  /-- Progress of the main loop. -/
  sending : Sending
  /-- Frames handed to `radif_send`. -/
  handed : List Job
  /-- Frames published in the ring. -/
  accepted : List Job
  /-- Frames given up. -/
  refused : List Job
  /-- Octets sent to the radio by each `radio_frame_write`. -/
  writes : List (List UInt8)

/-- One slot replaced. -/
def System.fill (s : System) (index : Fin numTxFrames) (tx : TxFrame) (sending : Sending) : System :=
  {s with
    radif := {s.radif with txFrames := Function.update s.radif.txFrames index tx}
    sending := sending}

/-- The next step of `radif_send`. -/
def System.advance (s : System) : Option System :=
  match s.sending with
  | .idle => none
  | .called job => some {s with
      sending := .reserved job s.radif.txProduceIndex (nextSlot s.radif.txProduceIndex)}
  | .reserved job index next =>
    if next=s.radif.txConsumeIndex then some {s with sending := .full job index next}
    else some {s with sending := .copying job index next 0}
  | .full job index next =>
    if s.radif.up then some {s with sending := .waiting job index next}
    else some {s with sending := .idle,refused := s.refused++[job]}
  | .waiting job index next =>
    if next=s.radif.txConsumeIndex then some s
    else some {s with sending := .copying job index next 0}
  | .copying job index next k =>
    let tx := s.radif.txFrames index
    if k<job.len.toNat then
      some (s.fill index {tx with data := putOctet tx.data k (job.frame.getD k 0)}
        (.copying job index next (k+1)))
    else some (s.fill index {tx with destinationAddress := job.destAddr} (.addressed job index next))
  | .addressed job index next =>
    some (s.fill index {s.radif.txFrames index with length := job.len} (.measured job index next))
  | .measured job index next =>
    some (s.fill index {s.radif.txFrames index with ack := job.ack} (.flagged job index next))
  | .flagged job _ next => some {s with
      radif := {s.radif with txProduceIndex := next}
      sending := .published
      accepted := s.accepted++[job]}
  | .published => some {s with sending := .idle}

/-- `radio_tx`. It halts on a frame that is too long, which is no result. -/
def System.radioTx (s : System) (busy : Bool) (bus : Spi) : Option System :=
  let index := s.radif.txConsumeIndex
  if index≠s.radif.txProduceIndex then
    if busy then some s
    else
      (radioFrameWrite (s.radif.txFrames index) s.sender bus).map fun written => {s with
        radif := {s.radif with txConsumeIndex := nextSlot index}
        sender := written.1
        writes := s.writes++[written.2.sent.drop bus.sent.length]}
  else some s

/-- One step of either side. -/
inductive Action where
  /-- `radif_send` is called. -/
  | call (job : Job)
  /-- `radif_send` does its next step. -/
  | advance
  /-- The interrupt, with the radio busy or not and the bus when a frame is
  written. -/
  | irq (busy : Bool) (bus : Spi)
  /-- A command of the main loop starts or stops the interface. -/
  | command (up : Bool)

/-- The system after a step, if the step is possible. Commands are given by the
main loop, which waits for them, so none comes during a send. -/
def System.act (s : System) : Action → Option System
  | .call job =>
    match s.sending with
    | .idle => some {s with sending := .called job,handed := s.handed++[job]}
    | _ => none
  | .advance => s.advance
  | .irq busy bus => if s.radif.up then s.radioTx busy bus else some s
  | .command up =>
    match s.sending with
    | .idle => some {s with radif := {s.radif with up := up}}
    | _ => none

/-- The steps of the system. -/
def Step (s : System) (action : Action) (s' : System) : Prop := s.act action=some s'

/-- A system before anything was sent. -/
def System.start (radif : Radif) (sender : Sender) : System := ⟨radif,sender,.idle,[],[],[],[]⟩

/-- The payload can be copied into a slot. -/
theorem Job.copied (job : Job) : job.len.toNat≤frameDataSize ∧ job.len.toNat≤job.frame.length :=
  ⟨(UInt8.le_iff_toNat_le.mp job.fits).trans (by decide),job.size⟩

/-- The frame a job asks for, in a slot that held `data`. -/
def Job.tx (job : Job) (data : FrameData) : TxFrame :=
  ⟨data.copy job.frame job.len.toNat job.copied,job.len,job.ack,job.destAddr⟩

/-- The octets that write a job's frame to the radio. -/
def Job.octets (job : Job) (sender : Sender) : List UInt8 :=
  radioSpiCmdFw::frameOctets (job.tx FrameData.zero) sender

/-- The sender after `n` frames. -/
def Sender.advanced (sender : Sender) (n : ℕ) : Sender :=
  {sender with seq := sender.seq+UInt8.ofNat n}

/-! ## Slots that carry a job -/

/-- A slot holds payload, destination, length and flag of a job. -/
structure Carries (tx : TxFrame) (job : Job) : Prop where
  /-- The payload. -/
  payload : tx.data.octets.take job.len.toNat=job.frame.take job.len.toNat
  /-- The destination. -/
  destination : tx.destinationAddress=job.destAddr
  /-- The length. -/
  length : tx.length=job.len
  /-- The acknowledgement flag. -/
  ack : tx.ack=job.ack

/-- A slot that carries a job is written as the job asks for. -/
theorem Carries.octets {tx : TxFrame} {job : Job} (h : Carries tx job) (sender : Sender) :
    radioSpiCmdFw::frameOctets tx sender=job.octets sender := by
  have hfcf : outgoingFcf tx=outgoingFcf (job.tx FrameData.zero) := by
    unfold outgoingFcf
    rw [h.ack]
    rfl
  have hpayload : (job.tx FrameData.zero).data.octets.take job.len.toNat=
      job.frame.take job.len.toNat := FrameData.copy_take _ _ _ job.copied
  unfold Job.octets frameOctets headerOctets
  rw [hfcf,h.destination,h.length,h.payload,←hpayload]
  rfl

/-- The interrupt writes it without halting. -/
theorem Carries.write {tx : TxFrame} {job : Job} (h : Carries tx job) (sender : Sender) (bus : Spi) :
    radioFrameWrite tx sender bus=
      some ({sender with seq := sender.seq+1},bus.after (job.octets sender)) := by
  rw [radioFrameWrite_eq (h.length ▸ job.fits),h.octets]

/-- One more copied octet. -/
theorem take_putOctet {data : FrameData} {frame : List UInt8} {k : ℕ}
    (hk : k<frameDataSize) (hframe : k<frame.length) (h : data.octets.take k=frame.take k) :
    (putOctet data k (frame.getD k 0)).octets.take (k+1)=frame.take (k+1) := by
  have hk' : k<data.octets.length := by rwa [data.size]
  unfold putOctet
  dsimp only
  rw [List.take_add_one,List.take_add_one,List.take_set_of_le le_rfl,h,List.getElem?_set_self hk',
    List.getD_eq_getElem?_getD,List.getElem?_eq_getElem hframe,Option.getD_some]

/-! ## What holds in every reachable state -/

/-- The local variables name the slot at the produce index. -/
structure Indexed (radif : Radif) (index next : Fin numTxFrames) : Prop where
  /-- `index`. -/
  index : index=radif.txProduceIndex
  /-- `next`. -/
  next : next=nextSlot radif.txProduceIndex

/-- The slot at the produce index may be filled. -/
structure Reserved (radif : Radif) (index next : Fin numTxFrames) : Prop extends
    Indexed radif index next where
  /-- There is room for it. -/
  room : nextSlot radif.txProduceIndex≠radif.txConsumeIndex

/-- What the progress of a send says about ring and slot. -/
def Progress (s : System) : Prop :=
  match s.sending with
  | .idle => True
  | .called _ => True
  | .reserved _ index next => Indexed s.radif index next
  | .full _ index next => Indexed s.radif index next ∧
      (s.radif.up=false → nextSlot s.radif.txProduceIndex=s.radif.txConsumeIndex)
  | .waiting _ index next => Indexed s.radif index next
  | .copying job index next k => Reserved s.radif index next ∧ k≤job.len.toNat ∧
      (s.radif.txFrames index).data.octets.take k=job.frame.take k
  | .addressed job index next => Reserved s.radif index next ∧
      (s.radif.txFrames index).data.octets.take job.len.toNat=job.frame.take job.len.toNat ∧
      (s.radif.txFrames index).destinationAddress=job.destAddr
  | .measured job index next => Reserved s.radif index next ∧
      (s.radif.txFrames index).data.octets.take job.len.toNat=job.frame.take job.len.toNat ∧
      (s.radif.txFrames index).destinationAddress=job.destAddr ∧
      (s.radif.txFrames index).length=job.len
  | .flagged job index next => Reserved s.radif index next ∧ Carries (s.radif.txFrames index) job
  | .published => True

/-- Every frame handed over was published, given up, or is in progress. -/
def Accounted (s : System) : Prop :=
  ∃ done,s.handed=done++s.sending.job?.toList ∧ s.accepted.Sublist done ∧
    s.accepted.length+s.refused.length=done.length

/-- Ring, history and progress fit together. -/
structure Consistent (base : ℕ) (first : Sender) (s : System) : Prop where
  /-- The ring holds what was published and not written. -/
  ring : FifoRing.Holds Carries base s.radif.txFrames s.radif.txProduceIndex s.radif.txConsumeIndex
    s.accepted s.writes.length
  /-- The sequence number counts the frames. -/
  sender : s.sender=Sender.advanced first s.writes.length
  /-- Each write is the one of the accepted frame at its place. -/
  writes : ∀ k octets,s.writes[k]?=some octets →
    ∃ job : Job,s.accepted[k]?=some job ∧ octets=job.octets (Sender.advanced first k)
  /-- The main loop is where the history says. -/
  progress : Progress s

section Steps

variable {base : ℕ} {first : Sender} {s s' : System}

/-- A step of a send that writes its reserved slot. -/
theorem Consistent.fill (h : Consistent base first s) {index next : Fin numTxFrames}
    (hindexed : Indexed s.radif index next) {tx : TxFrame} {sending : Sending}
    (hprogress : Progress (s.fill index tx sending)) :
    Consistent base first (s.fill index tx sending) := by
  refine ⟨?_,h.sender,h.writes,hprogress⟩
  refine h.ring.frame fun k i hwritten hk hplace => ?_
  change Function.update s.radif.txFrames index tx i=_
  rw [hindexed.index]
  exact Function.update_of_ne (h.ring.produce_free hwritten hk hplace) _ _

/-- Reading back a slot that was just filled. -/
theorem fill_slot (s : System) (index : Fin numTxFrames) (tx : TxFrame) (sending : Sending) :
    (s.fill index tx sending).radif.txFrames index=tx := Function.update_self _ _ _

/-- A reserved slot stays reserved while it is filled. -/
theorem Reserved.fill {index next : Fin numTxFrames} (h : Reserved s.radif index next) (tx : TxFrame)
    (sending : Sending) : Reserved (s.fill index tx sending).radif index next := ⟨⟨h.index,h.next⟩,h.room⟩

/-- A published frame is behind all others. -/
theorem Consistent.publish (h : Consistent base first s) {job : Job} {index next : Fin numTxFrames}
    (hsending : s.sending=.flagged job index next) :
    Consistent base first {s with
      radif := {s.radif with txProduceIndex := next}
      sending := .published
      accepted := s.accepted++[job]} := by
  have hprogress := h.progress
  unfold Progress at hprogress
  rw [hsending] at hprogress
  obtain ⟨⟨⟨rfl,rfl⟩,hroom⟩,hcarries⟩ := hprogress
  refine ⟨h.ring.publish hroom hcarries,h.sender,?_,trivial⟩
  intro k octets hk
  obtain ⟨written,hwritten,hoctets⟩ := h.writes k octets hk
  obtain ⟨hlt,_⟩ := List.getElem?_eq_some_iff.mp hwritten
  exact ⟨written,(List.getElem?_append_left hlt).trans hwritten,hoctets⟩

/-- What a step of a send can do. -/
inductive Advanced (s : System) : System → Prop
  /-- It goes on without writing anything. -/
  | move {sending : Sending} (hprogress : Progress {s with sending := sending}) :
      Advanced s {s with sending := sending}
  /-- It writes the slot at the produce index. -/
  | fill {index next : Fin numTxFrames} {tx : TxFrame} {sending : Sending}
      (hindexed : Indexed s.radif index next)
      (hprogress : Progress (s.fill index tx sending)) : Advanced s (s.fill index tx sending)
  /-- It gives its frame up, with the interface down and the ring full. -/
  | refuse {job : Job} {index next : Fin numTxFrames} (hsending : s.sending=.full job index next)
      (hdown : s.radif.up=false)
      (hfull : nextSlot s.radif.txProduceIndex=s.radif.txConsumeIndex) :
      Advanced s {s with sending := .idle,refused := s.refused++[job]}
  /-- It publishes its frame. -/
  | publish {job : Job} {index next : Fin numTxFrames}
      (hsending : s.sending=.flagged job index next) : Advanced s {s with
        radif := {s.radif with txProduceIndex := next}
        sending := .published
        accepted := s.accepted++[job]}

/-- The steps of a send by its progress. -/
theorem advance_cases (hprogress : Progress s) (hstep : s.advance=some s') : Advanced s s' := by
  have hstays := hprogress
  unfold Progress at hprogress
  unfold System.advance at hstep
  cases hsending : s.sending with
  | idle =>
    rw [hsending] at hstep
    cases hstep
  | called job =>
    rw [hsending] at hstep
    rw [←Option.some.inj hstep]
    exact .move ⟨rfl,rfl⟩
  | reserved job index next =>
    rw [hsending] at hstep hprogress
    dsimp only at hstep hprogress
    split at hstep
    · next hfull =>
      rw [←Option.some.inj hstep]
      exact .move ⟨hprogress,fun _ => hprogress.next.symm.trans hfull⟩
    · next hroom =>
      rw [←Option.some.inj hstep]
      exact .move ⟨⟨hprogress,hprogress.next ▸ hroom⟩,Nat.zero_le _,rfl⟩
  | full job index next =>
    rw [hsending] at hstep hprogress
    dsimp only at hstep hprogress
    split at hstep
    · rw [←Option.some.inj hstep]
      exact .move hprogress.1
    · next hup =>
      have hdown := Bool.eq_false_of_not_eq_true hup
      rw [←Option.some.inj hstep]
      exact .refuse hsending hdown (hprogress.2 hdown)
  | waiting job index next =>
    rw [hsending] at hstep hprogress
    dsimp only at hstep hprogress
    split at hstep
    · -- The wait goes round with everything as it was.
      rw [←Option.some.inj hstep]
      exact (Advanced.move hstays : Advanced s {s with sending := s.sending})
    · next hroom =>
      rw [←Option.some.inj hstep]
      exact .move ⟨⟨hprogress,hprogress.next ▸ hroom⟩,Nat.zero_le _,rfl⟩
  | copying job index next k =>
    rw [hsending] at hstep hprogress
    dsimp only at hstep hprogress
    obtain ⟨hreserved,hk,hcopied⟩ := hprogress
    have hsizes := job.copied
    split at hstep
    · next hmore =>
      rw [←Option.some.inj hstep]
      refine .fill hreserved.toIndexed ⟨hreserved.fill _ _,hmore,?_⟩
      rw [fill_slot]
      exact take_putOctet (by omega) (by omega) hcopied
    · have hend : k=job.len.toNat := by omega
      rw [←Option.some.inj hstep]
      refine .fill hreserved.toIndexed ⟨hreserved.fill _ _,?_,?_⟩
      · rw [fill_slot,←hend]
        exact hcopied
      · rw [fill_slot]
  | addressed job index next =>
    rw [hsending] at hstep hprogress
    obtain ⟨hreserved,hpayload,hdestination⟩ := hprogress
    rw [←Option.some.inj hstep]
    refine .fill hreserved.toIndexed ⟨hreserved.fill _ _,?_⟩
    rw [fill_slot]
    exact ⟨hpayload,hdestination,rfl⟩
  | measured job index next =>
    rw [hsending] at hstep hprogress
    obtain ⟨hreserved,hpayload,hdestination,hlength⟩ := hprogress
    rw [←Option.some.inj hstep]
    refine .fill hreserved.toIndexed ⟨hreserved.fill _ _,?_⟩
    rw [fill_slot]
    exact ⟨hpayload,hdestination,hlength,rfl⟩
  | flagged job index next =>
    rw [hsending] at hstep
    rw [←Option.some.inj hstep]
    exact .publish hsending
  | published =>
    rw [hsending] at hstep
    rw [←Option.some.inj hstep]
    exact .move trivial

/-- Every step of a send keeps the system consistent. -/
theorem advance_consistent (h : Consistent base first s) (hstep : s.advance=some s') :
    Consistent base first s' := by
  cases advance_cases h.progress hstep with
  | move hprogress => exact ⟨h.ring,h.sender,h.writes,hprogress⟩
  | fill hindexed hprogress => exact h.fill hindexed hprogress
  | refuse _ _ _ => exact ⟨h.ring,h.sender,h.writes,trivial⟩
  | publish hsending => exact h.publish hsending

/-- What a send needs stays when the interrupt frees a slot. -/
theorem Progress.release (h : Progress s) (hup : s.radif.up=true)
    (hroom : nextSlot s.radif.txProduceIndex≠s.radif.txConsumeIndex →
      nextSlot s.radif.txProduceIndex≠nextSlot s.radif.txConsumeIndex)
    (sender : Sender) (writes : List (List UInt8)) :
    Progress {s with
      radif := {s.radif with txConsumeIndex := nextSlot s.radif.txConsumeIndex}
      sender := sender
      writes := writes} := by
  have hreserved : ∀ index next,Reserved s.radif index next →
      Reserved {s.radif with txConsumeIndex := nextSlot s.radif.txConsumeIndex} index next :=
    fun index next hr => ⟨⟨hr.index,hr.next⟩,hroom hr.room⟩
  unfold Progress at h ⊢
  dsimp only
  split at h
  · trivial
  · trivial
  · exact ⟨h.index,h.next⟩
  · refine ⟨⟨h.1.index,h.1.next⟩,fun hdown => ?_⟩
    rw [hup] at hdown
    cases hdown
  · exact ⟨h.index,h.next⟩
  · exact ⟨hreserved _ _ h.1,h.2⟩
  · exact ⟨hreserved _ _ h.1,h.2⟩
  · exact ⟨hreserved _ _ h.1,h.2⟩
  · exact ⟨hreserved _ _ h.1,h.2⟩
  · trivial

/-- The interrupt returns, and it writes the oldest pending frame or nothing. -/
theorem radioTx_cases (h : Consistent base first s) (busy : Bool) (bus : Spi) :
    s.radioTx busy bus=some s ∨ ∃ job : Job,
      s.radif.txConsumeIndex≠s.radif.txProduceIndex ∧ s.accepted[s.writes.length]?=some job ∧
      s.radioTx busy bus=some {s with
        radif := {s.radif with txConsumeIndex := nextSlot s.radif.txConsumeIndex}
        sender := {s.sender with seq := s.sender.seq+1}
        writes := s.writes++[job.octets s.sender]} := by
  unfold System.radioTx
  dsimp only
  by_cases hsome : s.radif.txConsumeIndex≠s.radif.txProduceIndex
  · rw [if_pos hsome]
    cases busy with
    | true => exact .inl rfl
    | false =>
      obtain ⟨job,hjob,hcarries⟩ := h.ring.front hsome
      refine .inr ⟨job,hsome,hjob,?_⟩
      rw [if_neg Bool.false_ne_true,hcarries.write,Option.map_some]
      unfold Spi.after
      dsimp only
      rw [List.drop_left]
  · rw [if_neg hsome]
    exact .inl rfl

/-- The sequence number moves on with every frame. -/
theorem advanced_succ (sender : Sender) (n : ℕ) :
    {Sender.advanced sender n with seq := (Sender.advanced sender n).seq+1}=
      Sender.advanced sender (n+1) := by
  unfold Sender.advanced
  dsimp only
  rw [UInt8.add_assoc,UInt8.ofNat_add]
  rfl

/-- The interrupt keeps the system consistent, wherever the send is. -/
theorem radioTx_consistent (h : Consistent base first s) (hup : s.radif.up=true) {busy : Bool}
    {bus : Spi} (hstep : s.radioTx busy bus=some s') : Consistent base first s' := by
  rcases radioTx_cases h busy bus with hsame|⟨job,hsome,hjob,hwritten⟩
  · rw [hsame] at hstep
    rw [←Option.some.inj hstep]
    exact h
  · rw [hwritten] at hstep
    rw [←Option.some.inj hstep]
    have hlength : (s.writes++[job.octets s.sender]).length=s.writes.length+1 := List.length_append
    refine ⟨?_,?_,?_,h.progress.release hup (h.ring.room_release hsome) _ _⟩
    · dsimp only
      rw [hlength]
      exact h.ring.release hsome
    · dsimp only
      rw [hlength,h.sender,advanced_succ]
    · intro k octets hk
      dsimp only at hk
      by_cases hold : k<s.writes.length
      · rw [List.getElem?_append_left hold] at hk
        exact h.writes k octets hk
      · obtain ⟨hlt,hget⟩ := List.getElem?_eq_some_iff.mp hk
        have hlast : k=s.writes.length := by omega
        subst hlast
        rw [List.getElem_concat_length rfl] at hget
        exact ⟨job,hjob,by rw [←hget,h.sender]⟩

/-- A call finds no send in progress. -/
theorem call_effect {job : Job} (hstep : s.act (.call job)=some s') :
    s.sending=.idle ∧ s'={s with sending := .called job,handed := s.handed++[job]} := by
  unfold System.act at hstep
  cases hsending : s.sending with
  | idle =>
    rw [hsending] at hstep
    exact ⟨rfl,(Option.some.inj hstep).symm⟩
  | _ =>
    rw [hsending] at hstep
    cases hstep

/-- A command finds no send in progress. -/
theorem command_effect {up : Bool} (hstep : s.act (.command up)=some s') :
    s.sending=.idle ∧ s'={s with radif := {s.radif with up := up}} := by
  unfold System.act at hstep
  cases hsending : s.sending with
  | idle =>
    rw [hsending] at hstep
    exact ⟨rfl,(Option.some.inj hstep).symm⟩
  | _ =>
    rw [hsending] at hstep
    cases hstep

/-- Every step keeps the system consistent. -/
theorem step_consistent {action : Action} (h : Consistent base first s)
    (hstep : Step s action s') : Consistent base first s' := by
  cases action with
  | call job =>
    obtain ⟨-,rfl⟩ := call_effect hstep
    exact ⟨h.ring,h.sender,h.writes,trivial⟩
  | advance => exact advance_consistent h hstep
  | irq busy bus =>
    unfold Step System.act at hstep
    dsimp only at hstep
    split at hstep
    · next hup => exact radioTx_consistent h hup hstep
    · rw [←Option.some.inj hstep]
      exact h
  | command up =>
    obtain ⟨hsending,rfl⟩ := command_effect hstep
    refine ⟨h.ring,h.sender,h.writes,?_⟩
    unfold Progress
    dsimp only
    rw [hsending]
    trivial

/-- A step of a send gives its frame up only in a full ring with the interface
down, and changes no slot but the one at the produce index. -/
theorem advance_effect (h : Consistent base first s) (hstep : s.advance=some s') :
    (s'.refused=s.refused ∨ (s.radif.up=false ∧
        nextSlot s.radif.txProduceIndex=s.radif.txConsumeIndex)) ∧
      ∀ i,i≠s.radif.txProduceIndex → s'.radif.txFrames i=s.radif.txFrames i := by
  cases advance_cases h.progress hstep with
  | move _ => exact ⟨.inl rfl,fun _ _ => rfl⟩
  | fill hindexed _ =>
    refine ⟨.inl rfl,fun i hi => ?_⟩
    exact Function.update_of_ne (hindexed.index ▸ hi) _ _
  | refuse _ hdown hfull => exact ⟨.inr ⟨hdown,hfull⟩,fun _ _ => rfl⟩
  | publish _ => exact ⟨.inl rfl,fun _ _ => rfl⟩

/-- A step of the system gives a frame up only in a full ring with the interface
down, and changes no slot but the one at the produce index. -/
theorem step_effect {action : Action} (h : Consistent base first s) (hstep : Step s action s') :
    (s'.refused=s.refused ∨ (s.radif.up=false ∧
        nextSlot s.radif.txProduceIndex=s.radif.txConsumeIndex)) ∧
      ∀ i,i≠s.radif.txProduceIndex → s'.radif.txFrames i=s.radif.txFrames i := by
  cases action with
  | call job =>
    obtain ⟨_,rfl⟩ := call_effect hstep
    exact ⟨.inl rfl,fun _ _ => rfl⟩
  | advance => exact advance_effect h hstep
  | irq busy bus =>
    unfold Step System.act at hstep
    dsimp only at hstep
    split at hstep
    · rcases radioTx_cases h busy bus with hsame|⟨job,_,_,hwritten⟩
      · rw [hsame] at hstep
        rw [←Option.some.inj hstep]
        exact ⟨.inl rfl,fun _ _ => rfl⟩
      · rw [hwritten] at hstep
        rw [←Option.some.inj hstep]
        exact ⟨.inl rfl,fun _ _ => rfl⟩
    · rw [←Option.some.inj hstep]
      exact ⟨.inl rfl,fun _ _ => rfl⟩
  | command up =>
    obtain ⟨_,rfl⟩ := command_effect hstep
    exact ⟨.inl rfl,fun _ _ => rfl⟩

/-- What a step of a send does to the frame in progress, whatever the slots
hold: it stays in progress, or it is published or given up. -/
inductive Accounts (s s' : System) : Prop
  /-- The frame stays in progress. -/
  | stays (hjob : s'.sending.job?=s.sending.job?) (haccepted : s'.accepted=s.accepted)
      (hrefused : s'.refused=s.refused)
  /-- The frame is published or given up. -/
  | ends (job : Job) (hbefore : s.sending.job?=some job) (hafter : s'.sending.job?=none)
      (hended : (s'.accepted=s.accepted++[job] ∧ s'.refused=s.refused) ∨
        (s'.accepted=s.accepted ∧ s'.refused=s.refused++[job]))

/-- The steps of a send by what becomes of its frame. -/
theorem advance_accounts (hstep : s.advance=some s') : s'.handed=s.handed ∧ Accounts s s' := by
  unfold System.advance at hstep
  cases hsending : s.sending with
  | idle =>
    rw [hsending] at hstep
    cases hstep
  | reserved job index next =>
    rw [hsending] at hstep
    dsimp only at hstep
    split at hstep
    all_goals
      rw [←Option.some.inj hstep]
      exact ⟨rfl,.stays (by rw [hsending]; rfl) rfl rfl⟩
  | full job index next =>
    rw [hsending] at hstep
    dsimp only at hstep
    split at hstep
    · rw [←Option.some.inj hstep]
      exact ⟨rfl,.stays (by rw [hsending]; rfl) rfl rfl⟩
    · rw [←Option.some.inj hstep]
      exact ⟨rfl,.ends job (by rw [hsending]; rfl) rfl (.inr ⟨rfl,rfl⟩)⟩
  | waiting job index next =>
    rw [hsending] at hstep
    dsimp only at hstep
    split at hstep
    · rw [←Option.some.inj hstep]
      exact ⟨rfl,.stays rfl rfl rfl⟩
    · rw [←Option.some.inj hstep]
      exact ⟨rfl,.stays (by rw [hsending]; rfl) rfl rfl⟩
  | copying job index next k =>
    rw [hsending] at hstep
    dsimp only at hstep
    split at hstep
    all_goals
      rw [←Option.some.inj hstep]
      exact ⟨rfl,.stays (by rw [hsending]; rfl) rfl rfl⟩
  | flagged job index next =>
    rw [hsending] at hstep
    rw [←Option.some.inj hstep]
    exact ⟨rfl,.ends job (by rw [hsending]; rfl) rfl (.inl ⟨rfl,rfl⟩)⟩
  | _ =>
    rw [hsending] at hstep
    rw [←Option.some.inj hstep]
    exact ⟨rfl,.stays (by rw [hsending]; rfl) rfl rfl⟩

/-- A step of a send forgets no frame. -/
theorem Accounted.advance (h : Accounted s) (hstep : s.advance=some s') : Accounted s' := by
  obtain ⟨done,hhanded,hsublist,hcount⟩ := h
  obtain ⟨hsame,⟨hjob,haccepted,hrefused⟩|⟨job,hbefore,hafter,hended⟩⟩ := advance_accounts hstep
  · unfold Accounted
    rw [hsame,hjob,haccepted,hrefused]
    exact ⟨done,hhanded,hsublist,hcount⟩
  · rw [hbefore] at hhanded
    refine ⟨done++[job],?_,?_,?_⟩
    · rw [hsame,hhanded,hafter]
      exact (List.append_nil _).symm
    · obtain ⟨haccepted,-⟩|⟨haccepted,-⟩ := hended
      · rw [haccepted]
        exact hsublist.append (List.Sublist.refl _)
      · rw [haccepted]
        exact hsublist.trans (List.sublist_append_left _ _)
    · obtain ⟨haccepted,hrefused⟩|⟨haccepted,hrefused⟩ := hended
      all_goals
        rw [haccepted,hrefused]
        simp only [List.length_append,List.length_singleton]
        omega

/-- The interrupt leaves the frames of the main loop alone. -/
theorem radioTx_accounted {busy : Bool} {bus : Spi} (h : Accounted s)
    (hstep : s.radioTx busy bus=some s') : Accounted s' := by
  unfold System.radioTx at hstep
  dsimp only at hstep
  split at hstep
  · split at hstep
    · rwa [←Option.some.inj hstep]
    · obtain ⟨written,-,rfl⟩ := Option.map_eq_some_iff.mp hstep
      exact h
  · rwa [←Option.some.inj hstep]

/-- Every frame handed over stays accounted for. -/
theorem Accounted.step {action : Action} (h : Accounted s) (hstep : Step s action s') :
    Accounted s' := by
  cases action with
  | call job =>
    obtain ⟨hsending,rfl⟩ := call_effect hstep
    obtain ⟨done,hhanded,hsublist,hcount⟩ := h
    rw [hsending] at hhanded
    obtain rfl : s.handed=done := hhanded.trans (List.append_nil _)
    exact ⟨s.handed,rfl,hsublist,hcount⟩
  | advance => exact h.advance hstep
  | irq busy bus =>
    unfold Step System.act at hstep
    dsimp only at hstep
    split at hstep
    · exact radioTx_accounted h hstep
    · rwa [←Option.some.inj hstep]
  | command up =>
    obtain ⟨-,rfl⟩ := command_effect hstep
    exact h

end Steps

/-- Nothing is handed over before the first call. -/
theorem start_accounted (radif : Radif) (sender : Sender) :
    Accounted (System.start radif sender) := ⟨[],rfl,List.Sublist.refl _,rfl⟩

/-- A system with equal indexes is consistent. -/
theorem start_consistent {radif : Radif} (sender : Sender)
    (h : radif.txConsumeIndex=radif.txProduceIndex) :
    Consistent radif.txProduceIndex.val sender (System.start radif sender) := by
  refine ⟨?_,?_,?_,trivial⟩
  · change FifoRing.Holds _ _ _ radif.txProduceIndex radif.txConsumeIndex [] 0
    rw [h]
    exact FifoRing.Holds.empty _ _ _
  · change sender=Sender.advanced sender 0
    unfold Sender.advanced
    exact congrArg (fun seq => {sender with seq := seq}) (UInt8.add_zero sender.seq).symm
  · intro k octets hk
    change ([] : List (List UInt8))[k]?=some octets at hk
    rw [List.getElem?_nil] at hk
    cases hk

/-- For every interleaving from equal indexes: the interrupt returns, and what
it wrote are the accepted frames in their order, each of them once and as it
was handed over. Nothing is given up but with the interface down and seven
frames pending, and no step changes the slot of a pending frame. -/
theorem transmit_fifo {radif : Radif} (h0 : radif.txConsumeIndex=radif.txProduceIndex)
    {sender : Sender} {ts : List (Transition System Action)} {s : System}
    (h : Path Step (System.start radif sender) ts s) :
    (∀ busy bus,(s.act (.irq busy bus)).isSome=true) ∧
      (∀ k octets,s.writes[k]?=some octets →
        ∃ job : Job,s.accepted[k]?=some job ∧ octets=job.octets (Sender.advanced sender k)) ∧
      Accounted s ∧
      (∀ t∈ts,t.after.refused≠t.before.refused → t.before.radif.up=false ∧
        t.before.accepted.length-t.before.writes.length=numTxFrames-1) ∧
      ∀ t∈ts,∀ k i,t.before.writes.length≤k → k<t.before.accepted.length →
        i.val=(radif.txProduceIndex.val+k)%numTxFrames →
        t.after.radif.txFrames i=t.before.radif.txFrames i := by
  have hstart := start_consistent sender h0
  have hkeep : ∀ s action s',Consistent radif.txProduceIndex.val sender s → Step s action s' →
      Consistent radif.txProduceIndex.val sender s' := fun _ _ _ => step_consistent
  have hend := h.invariant hstart hkeep
  have hbefore := h.invariant_transitions hstart hkeep
  have haccounted : Accounted s :=
    h.invariant (start_accounted radif sender) fun _ _ _ => Accounted.step
  refine ⟨?_,hend.writes,haccounted,?_,?_⟩
  · intro busy bus
    change (if s.radif.up then s.radioTx busy bus else some s).isSome=true
    split
    · rcases radioTx_cases hend busy bus with hsame|⟨job,_,_,hwritten⟩
      · rw [hsame]
        rfl
      · rw [hwritten]
        rfl
    · rfl
  · intro t ht hne
    obtain ⟨hdown,hfull⟩ := ((step_effect (hbefore t ht).1 (h.steps t ht)).1).resolve_left hne
    have hcount := (hbefore t ht).1.ring.full_iff.mp hfull
    have hpublished := (hbefore t ht).1.ring.published
    exact ⟨hdown,by omega⟩
  · intro t ht k i hwritten hk hplace
    exact (step_effect (hbefore t ht).1 (h.steps t ht)).2 i
      ((hbefore t ht).1.ring.produce_free hwritten hk hplace)

/-! ## A send without interrupts -/

section Alone

variable {start s : System} {ts : List (Transition System Action)}

/-- Filling a slot again replaces what was filled in. -/
theorem fill_fill (s : System) (index : Fin numTxFrames) (tx tx' : TxFrame)
    (sending sending' : Sending) :
    (s.fill index tx sending).fill index tx' sending'=s.fill index tx' sending' := by
  unfold System.fill
  dsimp only
  rw [Function.update_idem]

/-- One more copied octet makes the longer copy. -/
theorem putOctet_copy {data : FrameData} {frame : List UInt8} {k : ℕ}
    (hk : k≤frameDataSize ∧ k ≤ frame.length) (hk' : k+1≤frameDataSize ∧ k+1≤frame.length) :
    putOctet (data.copy frame k hk) k (frame.getD k 0)=data.copy frame (k+1) hk' := by
  have hlength : (frame.take k).length=k := by
    rw [List.length_take]
    omega
  have hdata : k<data.octets.length := by
    rw [data.size]
    omega
  unfold putOctet FrameData.copy
  congr 1
  dsimp only
  rw [List.set_append_right _ _ hlength.le,hlength,Nat.sub_self,List.drop_eq_getElem_cons hdata,
    List.set_cons_zero,List.take_add_one,List.getD_eq_getElem?_getD,
    List.getElem?_eq_getElem hk'.2,Option.getD_some,List.append_assoc]
  rfl

/-- A step of a send is a step of the system. -/
theorem path_advance {s' : System} (h : Path Step start ts s) (hstep : s.advance=some s') :
    Path Step start (ts++[⟨s,.advance,s'⟩]) s' := h.snoc hstep

/-- The copy of a payload, octet by octet. -/
theorem copy_alone {job : Job} {index next : Fin numTxFrames} (h : Path Step start ts s)
    (hsending : s.sending=.copying job index next 0) (k : ℕ) (hk : k≤job.len.toNat) :
    ∃ ts',Path Step start ts' (s.fill index
      {s.radif.txFrames index with
        data := (s.radif.txFrames index).data.copy job.frame k
          ⟨hk.trans job.copied.1,hk.trans job.copied.2⟩} (.copying job index next k)) := by
  induction k with
  | zero =>
    have hsame : s.fill index {s.radif.txFrames index with
        data := (s.radif.txFrames index).data.copy job.frame 0
          ⟨hk.trans job.copied.1,hk.trans job.copied.2⟩} (.copying job index next 0)=s := by
      have hupdate := Function.update_eq_self index s.radif.txFrames
      rw [←hsending]
      exact congrArg (fun frames => {s with radif := {s.radif with txFrames := frames}}) hupdate
    rw [hsame]
    exact ⟨ts,h⟩
  | succ k ih =>
    obtain ⟨ts',hpath⟩ := ih (by omega)
    refine ⟨_,path_advance hpath ?_⟩
    change (if k<job.len.toNat then _ else _)=_
    rw [if_pos (by omega),fill_fill,fill_slot]
    dsimp only
    rw [putOctet_copy]

/-- A send that finds room and is not interrupted does what `radifSend` does in
one step. -/
theorem send_alone (h : Path Step start ts s) (hidle : s.sending=.idle) (job : Job)
    (hroom : nextSlot s.radif.txProduceIndex≠s.radif.txConsumeIndex) :
    ∃ ts' s',Path Step start ts' s' ∧ s'.sending=.idle ∧ s'.accepted=s.accepted++[job] ∧
      s'.writes=s.writes ∧
      radifSend job.frame job.len job.destAddr job.ack none s.radif=some s'.radif := by
  have hcall : Step s (.call job) {s with sending := .called job,handed := s.handed++[job]} := by
    unfold Step System.act
    rw [hidle]
  have hreserve := path_advance (h.snoc hcall) rfl
  have hcopying := path_advance hreserve (if_neg hroom)
  obtain ⟨ts',hcopied⟩ := copy_alone hcopying rfl job.len.toNat le_rfl
  have haddressed := path_advance hcopied (if_neg (lt_irrefl _))
  rw [fill_fill,fill_slot] at haddressed
  have hmeasured := path_advance haddressed rfl
  rw [fill_fill,fill_slot] at hmeasured
  have hflagged := path_advance hmeasured rfl
  rw [fill_fill,fill_slot] at hflagged
  have hpublished := path_advance hflagged rfl
  have hdone := path_advance hpublished rfl
  refine ⟨_,_,hdone,rfl,rfl,rfl,?_⟩
  unfold radifSend
  rw [dif_pos job.copied]
  dsimp only
  rw [if_neg hroom]
  rfl

end Alone

/-- An idle interface. -/
def idleRadif : Radif := ⟨⟨0,numTxFrames_pos⟩,⟨0,numTxFrames_pos⟩,fun _ => ⟨FrameData.zero,0,0,0⟩,true⟩

/-- The acknowledgement of a debug message. -/
def debugReply : Job := ⟨[0x44,0x44,0x44,0x44],4,7,1,by decide,by decide⟩

/-- A frame for another node. -/
def shortReply : Job := ⟨[0x55,0xAA],2,9,0,by decide,by decide⟩

/-- Two frames are sent. The interrupt comes while the second one is copied, and
again afterwards. -/
def twoSends : List Action := List.flatten [
  [.call debugReply],List.replicate 11 .advance,[.call shortReply],List.replicate 3 .advance,
  [.irq false (answering [])],List.replicate 6 .advance,[.irq false (answering [])]]

/-- The interrupt writes the first frame while the second one is copied, and the
second one when it comes again. -/
theorem transmit_fifo_two :
    ∃ ts s,Path Step (System.start idleRadif ⟨0x1234,1,0⟩) ts s ∧
      (∃ t∈ts,∃ job index next k,t.label=.irq false (answering []) ∧
        t.before.sending=.copying job index next k ∧
        t.after.writes=t.before.writes++[debugReply.octets ⟨0x1234,1,0⟩]) ∧
      s.accepted=[debugReply,shortReply] ∧
      s.writes=[debugReply.octets ⟨0x1234,1,0⟩,shortReply.octets ⟨0x1234,1,1⟩] ∧
      (∀ busy bus,(s.act (.irq busy bus)).isSome=true) ∧
      (∀ k octets,s.writes[k]?=some octets →
        ∃ job : Job,s.accepted[k]?=some job ∧ octets=job.octets (Sender.advanced ⟨0x1234,1,0⟩ k)) ∧
      Accounted s ∧
      (∀ t∈ts,t.after.refused≠t.before.refused → t.before.radif.up=false ∧
        t.before.accepted.length-t.before.writes.length=numTxFrames-1) ∧
      ∀ t∈ts,∀ k i,t.before.writes.length≤k → k<t.before.accepted.length →
        i.val=(idleRadif.txProduceIndex.val+k)%numTxFrames →
        t.after.radif.txFrames i=t.before.radif.txFrames i := by
  have hrun : ∃ ts s,traceOf (labelled System.act) (System.start idleRadif ⟨0x1234,1,0⟩) twoSends=
        some (ts,s) ∧
      (∃ t,ts[16]?=some t ∧ ∃ job index next k,t.label=.irq false (answering []) ∧
        t.before.sending=.copying job index next k ∧
        t.after.writes=t.before.writes++[debugReply.octets ⟨0x1234,1,0⟩]) ∧
      s.accepted=[debugReply,shortReply] ∧
      s.writes=[debugReply.octets ⟨0x1234,1,0⟩,shortReply.octets ⟨0x1234,1,1⟩] :=
    ⟨_,_,rfl,⟨_,rfl,_,_,_,_,rfl,rfl,rfl⟩,rfl,rfl⟩
  obtain ⟨ts,s,htrace,⟨t,ht,hinterrupted⟩,haccepted,hwrites⟩ := hrun
  have hpath : Path Step (System.start idleRadif ⟨0x1234,1,0⟩) ts s :=
    path_of_trace (fun _ _ _ _ => labelled_step) htrace
  exact ⟨ts,s,hpath,⟨t,List.mem_of_getElem? ht,hinterrupted⟩,haccepted,hwrites,
    transmit_fifo rfl hpath⟩

end VlfGateway.RadioTransmit
