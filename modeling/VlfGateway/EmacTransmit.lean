import VlfGateway.EmacReceive

/-!
# The transmit ring of the Ethernet driver

A frame is a chain of buffers and takes one descriptor for each. The driver
waits until it believes that enough descriptors are free, writes them, keeps a
reference to each buffer and moves the produce index on; the hardware sends
what lies between its consume index and the produce index; the driver frees
the buffers behind the consume index. Equal indexes mean an empty ring, so at
most seven descriptors can wait. The driver's count of free descriptors knows
this only while the consume index is above the produce index.
-/

namespace VlfGateway.EmacTransmit

open EmacReceive SlotLedger StepPath

/-- One buffer of a chain. -/
structure Segment where
  /-- The buffer. -/
  pbuf : ℕ
  /-- Address of its payload. -/
  address : UInt32
  /-- Its payload. -/
  payload : List UInt8

/-- A transmit descriptor. -/
structure Fragment where
  /-- Buffer it points into. -/
  pbuf : ℕ
  /-- What the hardware reads there. -/
  payload : List UInt8
  /-- Control word. -/
  control : UInt32
  deriving DecidableEq

/-- Transmit side of the driver with the registers it shares with the hardware. -/
structure Transmitter where
  /-- `txb`, the buffer kept for each descriptor. -/
  txb : Desc → Option ℕ
  /-- `ptxd`. -/
  ptxd : Desc → Fragment
  /-- `lpc_last_tx_idx`. -/
  last : Desc
  /-- `TxProduceIndex`. -/
  produce : Desc
  /-- `TxConsumeIndex`. -/
  consume : Desc
  /-- The underrun flag of `IntStatus`. -/
  underrun : Bool
  /-- `MAC1`. -/
  mac1 : UInt32
  /-- References the driver took, oldest first. -/
  referenced : List ℕ
  /-- References it gave back with `pbuf_free`, oldest first. -/
  freed : List ℕ
  /-- Descriptors it wrote, oldest first. -/
  queued : List Fragment
  /-- Descriptors the hardware sent, oldest first. -/
  sent : List Fragment

/-- `lpc_packet_addr_notsafe`: outside the memory the hardware can read. -/
def packetAddrNotsafe (address : UInt32) : Bool :=
  !(decide (0x2007C000≤address) && decide (address<0x20084000))

/-- `EMAC_TCTRL_INT`. -/
def tctrlInt : UInt32 := 0x80000000

/-- `EMAC_TCTRL_LAST`. -/
def tctrlLast : UInt32 := 0x40000000

/-- `EMAC_MAC1_RES_TX`. -/
def resetTransmit : UInt32 := 0x00000100

/-- Control word for a buffer of a length. -/
def controlWord (length : ℕ) (final : Bool) : UInt32 :=
  (UInt32.ofNat length-1) ||| tctrlInt ||| if final then tctrlLast else 0

/-- The descriptors of a chain: the last one is marked. -/
def fragments : List Segment → List Fragment
  | [] => []
  | segment::rest =>
    ⟨segment.pbuf,segment.payload,controlWord segment.payload.length rest.isEmpty⟩::fragments rest

/-- One buffer in reach of the hardware with the payload of the whole chain. -/
def bounced (pbuf : ℕ) (chain : List Segment) : List Segment :=
  [⟨pbuf,0x2007C000,chain.flatMap Segment.payload⟩]

/-- The chain that is queued for a chain: itself, or a copy when some payload
is out of reach, if a buffer for the copy was to be had. -/
def usable (copy : Option ℕ) (chain : List Segment) : Option (List Segment) :=
  if chain.any fun segment => packetAddrNotsafe segment.address then
    copy.map fun pbuf => bounced pbuf chain
  else some chain

/-- `pbuf_clen`. The count is an octet. -/
def pbufClen (chain : List Segment) : ℕ := chain.length%256

/-- The buffers of a chain that get a descriptor: as many as were counted. -/
def counted (chain : List Segment) : List Segment := chain.take (pbufClen chain)

/-- The loop of `lpc_tx_reclaim_st`. The indexes go once round the ring at most. -/
def reclaimLoop (cidx : Desc) : ℕ → Transmitter → Transmitter
  | 0,t => t
  | n+1,t =>
    if cidx=t.last then t
    else
      match t.txb t.last with
      | none => reclaimLoop cidx n {t with last := FifoRing.next t.last}
      | some pbuf => reclaimLoop cidx n {t with
          freed := t.freed++[pbuf]
          txb := Function.update t.txb t.last none
          last := FifoRing.next t.last}

/-- `lpc_tx_reclaim_st`. -/
def txReclaimSt (cidx : Desc) (t : Transmitter) : Transmitter := reclaimLoop cidx 8 t

/-- `lpc_tx_reclaim`. -/
def txReclaim (t : Transmitter) : Transmitter := txReclaimSt t.consume t

/-- The count of free descriptors in `lpc_tx_ready`. -/
def freeDescriptors (idx cidx : UInt32) : UInt32 :=
  if idx=cidx then 8
  else if cidx>idx then (8-1)-((idx+8)-cidx)
  else (8-1)-(cidx-idx)

/-- `lpc_tx_ready`. -/
def txReady (t : Transmitter) : UInt32×Transmitter :=
  (freeDescriptors (UInt32.ofNat t.produce.val) (UInt32.ofNat t.consume.val),
    txReclaimSt t.consume t)

/-- The hardware sends the next descriptor, if one waits. -/
def sendOne (t : Transmitter) : Transmitter :=
  if t.consume=t.produce then t
  else {t with
    sent := t.sent++[t.ptxd t.consume]
    consume := FifoRing.next t.consume}

/-- The hardware sends some descriptors. -/
def sendTimes : ℕ → Transmitter → Transmitter
  | 0,t => t
  | n+1,t => sendTimes n (sendOne t)

/-- The wait for descriptors: before each poll the hardware sends the listed
number of descriptors. No result is a wait that goes on. -/
def waitReady (count : ℕ) : List ℕ → Transmitter → Option Transmitter
  | [],_ => none
  | progress::rest,t =>
    let ready := txReady (sendTimes progress t)
    if UInt32.ofNat count>ready.1 then waitReady count rest ready.2 else some ready.2

/-- The loop that writes the descriptors of a chain from an index on. -/
def writeFragments : List Fragment → Desc → Transmitter → Desc×Transmitter
  | [],idx,t => (idx,t)
  | fragment::rest,idx,t =>
    writeFragments rest (FifoRing.next idx) {t with
      txb := Function.update t.txb idx (some fragment.pbuf)
      ptxd := Function.update t.ptxd idx fragment
      referenced := t.referenced++[fragment.pbuf]
      queued := t.queued++[fragment]}

/-- Queue a chain once the wait is over. -/
def queueChain (chain : List Segment) (t : Transmitter) : Transmitter :=
  let written := writeFragments (fragments chain) t.produce t
  {written.2 with produce := written.1}

/-- The underrun branch of `lpc_low_level_output` with `lpc_tx_setup`. -/
def handleUnderrun (t : Transmitter) : Transmitter :=
  let drained := drain t.txb slots
  {t with
    mac1 := t.mac1 ||| resetTransmit
    underrun := false
    freed := t.freed++drained.1
    txb := drained.2
    last := 0
    ptxd := fun i => {t.ptxd i with control := 0}}

/-- What `lpc_low_level_output` returns. -/
inductive Output
  /-- `ERR_OK`. -/
  | ok
  /-- `ERR_MEM`. -/
  | mem
  deriving DecidableEq

/-- `lpc_low_level_output` for a chain, the buffer `pbuf_alloc` would give for a
copy, and what the hardware does while the driver waits. -/
def lowLevelOutput (chain : List Segment) (copy : Option ℕ) (progress : List ℕ) (t : Transmitter) :
    Option (Output×Transmitter) :=
  let t := if t.underrun then handleUnderrun t else t
  match usable copy chain with
  | none => some (.mem,t)
  | some chain =>
    (waitReady (pbufClen chain) progress t).map fun t => (.ok,queueChain (counted chain) t)

/-- The steps the driver and the hardware take in turn. -/
inductive TxEvent
  /-- The hardware sends a descriptor. -/
  | send
  /-- The hardware reports an underrun. -/
  | underrun
  /-- `net_service` frees what was sent. -/
  | reclaim
  /-- The network layer outputs a frame. -/
  | output (chain : List Segment) (copy : Option ℕ) (progress : List ℕ)

/-- One step; no result is an output that still waits. -/
def txNext (t : Transmitter) : TxEvent → Option Transmitter
  | .send => some (sendOne t)
  | .underrun => some {t with underrun := true}
  | .reclaim => some (txReclaim t)
  | .output chain copy progress => (lowLevelOutput chain copy progress t).map Prod.snd

/-- Steps that are taken. -/
def txStep (t : Transmitter) (event : TxEvent) (t' : Transmitter) : Prop := txNext t event=some t'

/-- The transmit side after `lpc_tx_setup`. -/
def setup (mac1 : UInt32) : Transmitter :=
  ⟨fun _ => none,fun _ => ⟨0,[],0⟩,0,0,0,false,mac1,[],[],[],[]⟩

/-- Descriptors that wait for the hardware. -/
def backlog (t : Transmitter) : ℕ := gap t.consume t.produce

/-- The copy of a chain carries the same octets. -/
theorem usable_payload {copy : Option ℕ} {chain used : List Segment}
    (h : usable copy chain=some used) :
    used.flatMap Segment.payload=chain.flatMap Segment.payload := by
  unfold usable at h
  split at h
  · obtain ⟨pbuf,-,rfl⟩ := Option.map_eq_some_iff.mp h
    unfold bounced
    simp
  · rw [Option.some.inj h]

/-- Only a chain that is not copied has more than one buffer. -/
theorem usable_long {copy : Option ℕ} {chain used : List Segment}
    (h : usable copy chain=some used) (hlong : 256≤used.length) : chain=used := by
  unfold usable at h
  split at h
  · obtain ⟨pbuf,-,rfl⟩ := Option.map_eq_some_iff.mp h
    exact absurd hlong (show ¬256≤1 by decide)
  · exact Option.some.inj h

/-- A chain has as many descriptors as buffers. -/
theorem fragments_length (chain : List Segment) : (fragments chain).length=chain.length := by
  induction chain with
  | nil => rfl
  | cons segment rest ih => rw [fragments,List.length_cons,ih,List.length_cons]

/-- The descriptors carry the payload of the chain. -/
theorem fragments_payload (chain : List Segment) :
    (fragments chain).flatMap Fragment.payload=chain.flatMap Segment.payload := by
  induction chain with
  | nil => rfl
  | cons segment rest ih => rw [fragments,List.flatMap_cons,ih,List.flatMap_cons]

/-- A chain gets as many descriptors as were counted. -/
theorem counted_length (chain : List Segment) : (counted chain).length=pbufClen chain := by
  rw [counted,List.length_take]
  exact Nat.min_eq_left (Nat.mod_le _ _)

/-- A chain of fewer than 256 buffers is counted in full. -/
theorem counted_short {chain : List Segment} (h : chain.length<256) : counted chain=chain := by
  rw [counted,pbufClen,Nat.mod_eq_of_lt h,List.take_length]

/-- What the driver counts: exact with the consume index above the produce
index, one too many on an empty ring, and too many by twice what waits else. -/
theorem toNat_freeDescriptors (idx cidx : Desc) :
    (freeDescriptors (UInt32.ofNat idx.val) (UInt32.ofNat cidx.val)).toNat=
      if idx=cidx then 8 else if idx<cidx then 7-gap cidx idx else 7+gap cidx idx := by
  revert idx cidx
  decide

/-- What waits in a ring of eight descriptors is the way between its indexes. -/
theorem Holds_gap {α β : Type} {view : α → β → Prop} {base : ℕ} {table : Desc → α}
    {produce consume : Desc} {stored : List β} {released : ℕ}
    (h : FifoRing.Holds view base table produce consume stored released) :
    gap consume produce=stored.length-released := by
  have hp : produce.val=(base+stored.length)%8 := h.produce
  have hc : consume.val=(base+released)%8 := h.consume
  have hroom := h.room
  have hpub := h.published
  unfold gap
  omega

/-- What holds between two steps as long as no frame ran into the descriptors
that wait: the hardware's part of the ring and the buffers kept for it are the
end of what was queued, in order. -/
structure Steady (t : Transmitter) : Prop where
  /-- No underrun is reported. -/
  calm : t.underrun=false
  /-- Descriptors wait for the hardware in order, and buffers for the driver. -/
  rings : ∃ base,
    FifoRing.Holds (fun slot entry => slot=entry) base t.ptxd t.produce t.consume t.queued
      t.sent.length ∧
    FifoRing.Holds (fun slot entry => slot=some entry) base t.txb t.produce t.last t.referenced
      t.freed.length
  /-- The hardware sent the oldest descriptors. -/
  sent : t.sent <+: t.queued
  /-- The driver freed the oldest buffers. -/
  freed : t.freed <+: t.referenced
  /-- No buffer is freed before its descriptor is sent. -/
  behind : t.freed.length≤t.sent.length
  /-- A buffer is kept for each descriptor. -/
  kept : t.queued.map Fragment.pbuf=t.referenced

/-- The empty ring is steady. -/
theorem setup_steady (mac1 : UInt32) : Steady (setup mac1) :=
  ⟨rfl,⟨0,FifoRing.Holds.empty _ _ 0,FifoRing.Holds.empty _ _ 0⟩,List.prefix_refl _,
    List.prefix_refl _,le_refl _,rfl⟩

/-- A prefix grows by the entry that follows it. -/
theorem prefix_grow {α : Type} {front whole : List α} {x : α} (h : front <+: whole)
    (hx : whole[front.length]?=some x) : (front++[x]) <+: whole := by
  have heq := List.prefix_iff_eq_take.mp h
  have hnext : whole.take (front.length+1)=front++[x] := by
    rw [List.take_add_one,hx,←heq]
    rfl
  rw [←hnext]
  exact List.take_prefix _ _

/-- A steady ring refers to as many buffers as it has descriptors. -/
theorem Steady.referenced_length {t : Transmitter} (h : Steady t) :
    t.referenced.length=t.queued.length := by
  rw [←h.kept,List.length_map]

/-- The hardware keeps the ring steady. -/
theorem Steady.sendOne {t : Transmitter} (h : Steady t) : Steady (sendOne t) := by
  unfold EmacTransmit.sendOne
  by_cases hnone : t.consume=t.produce
  · rw [if_pos hnone]
    exact h
  rw [if_neg hnone]
  obtain ⟨base,hdesc,hbuf⟩ := h.rings
  obtain ⟨entry,hentry,hview⟩ := hdesc.front hnone
  have hbehind := h.behind
  have hlength : (t.sent++[t.ptxd t.consume]).length=t.sent.length+1 := List.length_append
  refine ⟨h.calm,⟨base,?_,hbuf⟩,?_,h.freed,?_,h.kept⟩
  · simp only [hlength]
    exact hdesc.release hnone
  · exact prefix_grow h.sent (by rw [hview]; exact hentry)
  · simp only [hlength]
    omega

/-- Several steps of the hardware keep the ring steady. -/
theorem Steady.sendTimes {t : Transmitter} (h : Steady t) (n : ℕ) : Steady (sendTimes n t) := by
  induction n generalizing t with
  | zero => exact h
  | succ n ih => exact ih h.sendOne

/-- Reclaiming changes the buffers kept and nothing else. -/
structure Reclaimed (t t' : Transmitter) : Prop where
  /-- The driver caught up with the hardware. -/
  last : t'.last=t.consume
  /-- The produce index. -/
  produce : t'.produce=t.produce
  /-- The consume index. -/
  consume : t'.consume=t.consume
  /-- The descriptors that were written. -/
  queued : t'.queued=t.queued
  /-- The descriptors that were sent. -/
  sent : t'.sent=t.sent

/-- The loop of `lpc_tx_reclaim_st` frees every buffer that was sent. -/
theorem Steady.reclaimLoop {t : Transmitter} (h : Steady t) {n : ℕ} (hn : gap t.last t.consume≤n) :
    Steady (reclaimLoop t.consume n t) ∧ Reclaimed t (reclaimLoop t.consume n t) := by
  induction n generalizing t with
  | zero =>
    have hlast : t.consume=t.last := gap_eq_zero (by omega)
    exact ⟨h,⟨hlast.symm,rfl,rfl,rfl,rfl⟩⟩
  | succ n ih =>
    rw [EmacTransmit.reclaimLoop]
    by_cases hdone : t.consume=t.last
    · rw [if_pos hdone]
      exact ⟨h,⟨hdone.symm,rfl,rfl,rfl,rfl⟩⟩
    rw [if_neg hdone]
    obtain ⟨base,hdesc,hbuf⟩ := h.rings
    have hbehind := h.behind
    have hcount := h.referenced_length
    have hpublished := hdesc.published
    have hless : t.freed.length<t.sent.length := by
      rcases Nat.lt_or_ge t.freed.length t.sent.length with hlt|hge
      · exact hlt
      · have hsame : t.freed.length=t.sent.length := by omega
        have hplace := hbuf.consume
        rw [hsame] at hplace
        exact absurd (Fin.ext (hdesc.consume.trans hplace.symm)) hdone
    have hsome : t.last≠t.produce := mt hbuf.empty_iff.mp (by omega)
    obtain ⟨entry,hentry,hview⟩ := hbuf.front hsome
    have hstep : Steady {t with
        freed := t.freed++[entry]
        txb := Function.update t.txb t.last none
        last := FifoRing.next t.last} := by
      have hlength : (t.freed++[entry]).length=t.freed.length+1 := List.length_append
      refine ⟨h.calm,⟨base,hdesc,?_⟩,h.sent,prefix_grow h.freed hentry,?_,h.kept⟩
      · simp only [hlength]
        exact hbuf.release_change none hsome
      · simp only [hlength]
        omega
    have hgap := gap_next hdone
    simp only [hview]
    obtain ⟨hsteady,hkept⟩ := ih hstep (by simp only; omega)
    exact ⟨hsteady,⟨hkept.last,hkept.produce,hkept.consume,hkept.queued,hkept.sent⟩⟩

/-- `lpc_tx_reclaim_st` with the current consume index frees what was sent and keeps the
ring steady. -/
theorem Steady.txReclaimSt {t : Transmitter} (h : Steady t) :
    Steady (txReclaimSt t.consume t) ∧ Reclaimed t (txReclaimSt t.consume t) :=
  h.reclaimLoop (Nat.le_of_lt (gap_lt _ _))

/-- The hardware writes no descriptor. -/
theorem sendTimes_queued (n : ℕ) (t : Transmitter) : (sendTimes n t).queued=t.queued := by
  induction n generalizing t with
  | zero => rfl
  | succ n ih =>
    rw [sendTimes,ih]
    unfold sendOne
    split <;> rfl

/-- The wait keeps the ring steady, ends with every sent buffer freed, and
writes no descriptor. -/
theorem Steady.waitReady {t t' : Transmitter} (h : Steady t) {count : ℕ} {progress : List ℕ}
    (hw : waitReady count progress t=some t') :
    Steady t' ∧ t'.last=t'.consume ∧ t'.queued=t.queued := by
  induction progress generalizing t with
  | nil => cases hw
  | cons n rest ih =>
    obtain ⟨hsteady,hkept⟩ := (h.sendTimes n).txReclaimSt
    have hqueued : (txReady (EmacTransmit.sendTimes n t)).2.queued=t.queued :=
      hkept.queued.trans (sendTimes_queued n t)
    rw [EmacTransmit.waitReady] at hw
    split at hw
    · obtain ⟨hs,hl,hq⟩ := ih hsteady hw
      exact ⟨hs,hl,hq.trans hqueued⟩
    · obtain rfl := Option.some.inj hw
      exact ⟨hsteady,hkept.last.trans hkept.consume.symm,hqueued⟩

/-- Writing descriptors appends to what was queued and leaves what was sent, whether
they fit or not. -/
theorem writeFragments_frame (frs : List Fragment) (idx : Desc) (t : Transmitter) :
    (writeFragments frs idx t).1.val=(idx.val+frs.length)%8 ∧
    (writeFragments frs idx t).2.queued=t.queued++frs ∧
    (writeFragments frs idx t).2.sent=t.sent ∧
    (writeFragments frs idx t).2.consume=t.consume ∧
    (writeFragments frs idx t).2.underrun=t.underrun := by
  induction frs generalizing idx t with
  | nil =>
    refine ⟨?_,(List.append_nil _).symm,rfl,rfl,rfl⟩
    change idx.val=(idx.val+0)%8
    omega
  | cons fragment rest ih =>
    obtain ⟨hidx,hqueued,hsent,hconsume,hunderrun⟩ := ih (FifoRing.next idx) {t with
      txb := Function.update t.txb idx (some fragment.pbuf)
      ptxd := Function.update t.ptxd idx fragment
      referenced := t.referenced++[fragment.pbuf]
      queued := t.queued++[fragment]}
    rw [writeFragments]
    refine ⟨?_,?_,hsent,hconsume,hunderrun⟩
    · rw [hidx,List.length_cons]
      change ((idx.val+1)%8+rest.length)%8=_
      omega
    · rw [hqueued,List.append_assoc]
      rfl

/-- Descriptors that fit are appended to both rings. -/
theorem writeFragments_fits (frs : List Fragment) (idx : Desc) (t : Transmitter) {base : ℕ}
    (hdesc : FifoRing.Holds (fun slot entry => slot=entry) base t.ptxd idx t.consume t.queued
      t.sent.length)
    (hbuf : FifoRing.Holds (fun slot entry => slot=some entry) base t.txb idx t.last t.referenced
      t.freed.length)
    (hlast : t.last=t.consume) (hfit : gap t.consume idx+frs.length≤7) :
    let written := writeFragments frs idx t
    FifoRing.Holds (fun slot entry => slot=entry) base written.2.ptxd written.1 written.2.consume
      written.2.queued written.2.sent.length ∧
    FifoRing.Holds (fun slot entry => slot=some entry) base written.2.txb written.1 written.2.last
      written.2.referenced written.2.freed.length ∧
    written.2.referenced=t.referenced++frs.map Fragment.pbuf ∧ written.2.freed=t.freed := by
  induction frs generalizing idx t with
  | nil => exact ⟨hdesc,hbuf,(List.append_nil _).symm,rfl⟩
  | cons fragment rest ih =>
    rw [List.length_cons] at hfit
    have hroom : FifoRing.next idx≠t.consume := by
      intro he
      have hfull := gap_next_self idx
      rw [he] at hfull
      omega
    have hnext : gap t.consume (FifoRing.next idx)=gap t.consume idx+1 := by
      unfold gap FifoRing.next at *
      simp only
      omega
    have hrec := ih (FifoRing.next idx) {t with
      txb := Function.update t.txb idx (some fragment.pbuf)
      ptxd := Function.update t.ptxd idx fragment
      referenced := t.referenced++[fragment.pbuf]
      queued := t.queued++[fragment]} (hdesc.publish_change hroom rfl)
      (hbuf.publish_change (by rw [hlast]; exact hroom) rfl) hlast (by simp only; omega)
    obtain ⟨hd,hb,href,hfreed⟩ := hrec
    refine ⟨hd,hb,?_,hfreed⟩
    rw [writeFragments,href,List.append_assoc,List.map_cons]
    rfl

/-- A chain that fits beside what waits keeps the ring steady. -/
theorem Steady.queueChain {t : Transmitter} (h : Steady t) (hlast : t.last=t.consume)
    {chain : List Segment} (hfit : backlog t+chain.length≤7) : Steady (queueChain chain t) := by
  obtain ⟨base,hdesc,hbuf⟩ := h.rings
  obtain ⟨-,hqueued,hsent,-,hunderrun⟩ := writeFragments_frame (fragments chain) t.produce t
  obtain ⟨hd,hb,href,hfreed⟩ := writeFragments_fits (fragments chain) t.produce t hdesc hbuf hlast
    (by rw [fragments_length]; exact hfit)
  refine ⟨hunderrun.trans h.calm,⟨base,hd,hb⟩,?_,?_,?_,?_⟩
  · change (writeFragments (fragments chain) t.produce t).2.sent <+: _
    rw [hsent]
    exact h.sent.trans ⟨_,hqueued.symm⟩
  · change (writeFragments (fragments chain) t.produce t).2.freed <+: _
    rw [hfreed]
    exact h.freed.trans ⟨_,href.symm⟩
  · change (writeFragments (fragments chain) t.produce t).2.freed.length≤
      (writeFragments (fragments chain) t.produce t).2.sent.length
    rw [hfreed,hsent]
    exact h.behind
  · change (writeFragments (fragments chain) t.produce t).2.queued.map Fragment.pbuf=
      (writeFragments (fragments chain) t.produce t).2.referenced
    rw [hqueued,href,List.map_append,h.kept]

/-- Steps other than a reported underrun. -/
def txCalmStep (t : Transmitter) (event : TxEvent) (t' : Transmitter) : Prop :=
  event≠.underrun ∧ txStep t event t'

/-- A frame that is queued in this step fits beside what waits. -/
def Fits (t : Transmitter) : TxEvent → Prop
  | .output chain copy progress => ∀ used t',usable copy chain=some used →
      waitReady (pbufClen used) progress t=some t' → backlog t'+pbufClen used≤7
  | _ => True

/-- Every descriptor ever written was sent or waits for the hardware. -/
def NothingLost (t : Transmitter) : Prop := t.queued.length=t.sent.length+backlog t

/-- A steady ring has lost nothing. -/
theorem Steady.nothingLost {t : Transmitter} (h : Steady t) : NothingLost t := by
  obtain ⟨base,hdesc,-⟩ := h.rings
  have hgap := Holds_gap hdesc
  have hpublished := hdesc.published
  unfold NothingLost backlog
  omega

/-- An output on a steady ring queues nothing for want of a copy, or queues the buffers
that were counted. -/
theorem Steady.output_cases {t t' : Transmitter} (h : Steady t) {chain : List Segment}
    {copy : Option ℕ} {progress : List ℕ} (hs : txStep t (.output chain copy progress) t') :
    usable copy chain=none ∧ t'=t ∨
    ∃ used ready,usable copy chain=some used ∧
      EmacTransmit.waitReady (pbufClen used) progress t=some ready ∧
      t'=EmacTransmit.queueChain (counted used) ready := by
  obtain ⟨out,hout,rfl⟩ := Option.map_eq_some_iff.mp hs
  unfold lowLevelOutput at hout
  rw [if_neg (by rw [h.calm]; decide)] at hout
  cases hused : usable copy chain with
  | none =>
    simp only [hused] at hout
    obtain rfl := Option.some.inj hout
    exact Or.inl ⟨rfl,rfl⟩
  | some used =>
    simp only [hused] at hout
    obtain ⟨ready,hready,rfl⟩ := Option.map_eq_some_iff.mp hout
    exact Or.inr ⟨used,ready,rfl,hready,rfl⟩

/-- A step in which every frame fits keeps the ring steady. -/
theorem Steady.step {t t' : Transmitter} {event : TxEvent} (h : Steady t)
    (hs : txCalmStep t event t') (hfits : Fits t event) : Steady t' := by
  obtain ⟨hcalm,hs⟩ := hs
  cases event with
  | send =>
    obtain rfl := Option.some.inj hs
    exact h.sendOne
  | underrun => exact absurd rfl hcalm
  | reclaim =>
    obtain rfl := Option.some.inj hs
    exact h.txReclaimSt.1
  | output chain copy progress =>
    rcases h.output_cases hs with ⟨-,rfl⟩|⟨used,ready,hused,hready,rfl⟩
    · exact h
    · obtain ⟨hsteady,hlast,-⟩ := h.waitReady hready
      refine hsteady.queueChain hlast ?_
      rw [counted_length]
      exact hfits used ready hused hready

/-- A step writes descriptors only for a frame, and then descriptors with the
octets of that frame, unless no buffer for a copy was to be had. Of a frame in
256 buffers or more that is not copied, whole multiples of 256 are left out. -/
def Carries (t : Transmitter) (event : TxEvent) (t' : Transmitter) : Prop :=
  match event with
  | .output chain copy _ => ∃ new,t'.queued=t.queued++new ∧
      (new=[] ∧ usable copy chain=none ∨
        new.flatMap Fragment.payload=chain.flatMap Segment.payload ∨
        256≤chain.length ∧ new=fragments (chain.take (chain.length%256)))
  | _ => t'.queued=t.queued

/-- A step on a steady ring writes descriptors with the octets of its frame only. -/
theorem Steady.carries {t t' : Transmitter} {event : TxEvent} (h : Steady t)
    (hs : txCalmStep t event t') : Carries t event t' := by
  obtain ⟨hcalm,hs⟩ := hs
  cases event with
  | send =>
    obtain rfl := Option.some.inj hs
    exact sendTimes_queued 1 t
  | underrun => exact absurd rfl hcalm
  | reclaim =>
    obtain rfl := Option.some.inj hs
    exact h.txReclaimSt.2.queued
  | output chain copy progress =>
    rcases h.output_cases hs with ⟨hnone,rfl⟩|⟨used,ready,hused,hready,rfl⟩
    · exact ⟨[],(List.append_nil _).symm,Or.inl ⟨rfl,hnone⟩⟩
    · refine ⟨fragments (counted used),?_,Or.inr ?_⟩
      · rw [←(h.waitReady hready).2.2]
        exact (writeFragments_frame (fragments (counted used)) ready.produce ready).2.1
      · by_cases hshort : used.length<256
        · rw [counted_short hshort,fragments_payload]
          exact Or.inl (usable_payload hused)
        · obtain rfl := usable_long hused (not_lt.mp hshort)
          exact Or.inr ⟨not_lt.mp hshort,rfl⟩

instance (t : Transmitter) : (event : TxEvent) → Decidable (Fits t event)
  | .send => inferInstanceAs (Decidable True)
  | .underrun => inferInstanceAs (Decidable True)
  | .reclaim => inferInstanceAs (Decidable True)
  | .output chain copy progress =>
    match hused : usable copy chain with
    | none => isTrue fun used _ h => nomatch hused.symm.trans h
    | some used =>
      match hready : waitReady (pbufClen used) progress t with
      | none => isTrue fun used' t' h h' => by
          obtain rfl := Option.some.inj (hused.symm.trans h)
          exact nomatch hready.symm.trans h'
      | some ready => decidable_of_iff (backlog ready+pbufClen used≤7) ⟨fun h used' t' h' h'' => by
          obtain rfl := Option.some.inj (hused.symm.trans h')
          obtain rfl := Option.some.inj (hready.symm.trans h'')
          exact h,fun h => h used ready hused hready⟩

instance : (event : TxEvent) → Decidable (event≠.underrun)
  | .send => isTrue nofun
  | .underrun => isFalse fun h => h rfl
  | .reclaim => isTrue nofun
  | .output _ _ _ => isTrue nofun

/-- A frame of two buffers in reach of the hardware. -/
def nearFrame : List Segment := [⟨1,0x2007C000,[0x12,0x34]⟩,⟨2,0x20080000,[0x56]⟩]

/-- A frame of two buffers, one of them out of reach. -/
def farFrame : List Segment := [⟨3,0x10000000,[0x78]⟩,⟨4,0x20080000,[0x9A,0xBC]⟩]

/-- Both frames are output while the hardware sends. -/
def twoFrames : List TxEvent :=
  [.output nearFrame none [0],.send,.output farFrame (some 9) [1],.reclaim,.send,.reclaim]

/-- The run of the two frames: both find room and are sent, and their memory is
freed. -/
theorem twoFrames_run : ∃ ts t,Path txCalmStep (setup 0x3) ts t ∧
    (∀ x∈ts,Fits x.before x.label) ∧
      t.sent.map Fragment.payload=[[0x12,0x34],[0x56],[0x78,0x9A,0xBC]] ∧ t.freed=[1,2,9] := by
  have hrun : (traceOf (labelled (attempt (fun _ event => event≠.underrun) txNext)) (setup 0x3)
      twoFrames).any (fun run =>
        (∀ x∈run.1,Fits x.before x.label) ∧
          run.2.sent.map Fragment.payload=[[0x12,0x34],[0x56],[0x78,0x9A,0xBC]] ∧
          run.2.freed=[1,2,9])=true := by
    decide +kernel
  obtain ⟨⟨ts,t⟩,htrace,hchecked⟩ := (Option.any_eq_true _ _).mp hrun
  have hp : Path txCalmStep _ ts t := path_of_trace (fun _ _ _ _ => attempt_step) htrace
  exact ⟨ts,t,hp,of_decide_eq_true hchecked⟩

/-- In every run without an underrun in which the frames found room, each frame
is written as descriptors with its octets, the hardware sends the descriptors
in the order in which they were written, and the driver frees one reference
for each of them in the same order, none before its descriptor was sent. -/
theorem transmit_in_order (mac1 : UInt32) (ts : List (Transition Transmitter TxEvent))
    (t : Transmitter) (hp : Path txCalmStep (setup mac1) ts t)
    (hfits : ∀ x∈ts,Fits x.before x.label) :
    (∀ x∈ts,Carries x.before x.label x.after) ∧
      t.sent <+: t.queued ∧ t.freed <+: t.queued.map Fragment.pbuf ∧
      t.freed.length≤t.sent.length ∧ t.queued.length≤t.sent.length+7 := by
  obtain ⟨h,hcarries⟩ := hp.guarded Steady Fits Carries (setup_steady mac1)
    (fun _ _ _ hi hs hc => ⟨hi.step hs hc,hi.carries hs⟩) hfits
  have hlost := h.nothingLost
  have hlt := gap_lt t.consume t.produce
  refine ⟨hcarries,h.sent,h.kept ▸ h.freed,h.behind,?_⟩
  unfold NothingLost backlog at hlost
  omega

/-- Both frames are sent in order, the second from its copy. -/
theorem two_frames_in_order :
    ∃ (ts : List (Transition Transmitter TxEvent)) (t : Transmitter),
      Path txCalmStep (setup 0x3) ts t ∧
      t.sent.map Fragment.payload=[[0x12,0x34],[0x56],[0x78,0x9A,0xBC]] ∧ t.freed=[1,2,9] ∧
      (∀ x∈ts,Carries x.before x.label x.after) ∧
      t.sent <+: t.queued ∧ t.freed <+: t.queued.map Fragment.pbuf ∧
      t.freed.length≤t.sent.length ∧ t.queued.length≤t.sent.length+7 := by
  obtain ⟨ts,t,hp,hfits,hsent,hfreed⟩ := twoFrames_run
  exact ⟨ts,t,hp,hsent,hfreed,transmit_in_order 0x3 ts t hp hfits⟩

/-- Reclaiming does not touch what the hardware sees. -/
theorem reclaimLoop_frame (cidx : Desc) (n : ℕ) (t : Transmitter) :
    (reclaimLoop cidx n t).produce=t.produce ∧ (reclaimLoop cidx n t).consume=t.consume ∧
      (reclaimLoop cidx n t).queued=t.queued ∧ (reclaimLoop cidx n t).sent=t.sent := by
  induction n generalizing t with
  | zero => exact ⟨rfl,rfl,rfl,rfl⟩
  | succ n ih =>
    rw [reclaimLoop]
    split
    · exact ⟨rfl,rfl,rfl,rfl⟩
    · split <;> exact ih _

/-- The driver's count lets any frame of up to seven descriptors pass while the
consume index is not above the produce index. -/
theorem count_passes {t : Transmitter} (hidx : t.consume≤t.produce) {count : ℕ} (hc : count≤7) :
    ¬UInt32.ofNat count>(txReady t).1 := by
  have hfree := toNat_freeDescriptors t.produce t.consume
  have hcount : (UInt32.ofNat count).toNat=count := by
    rw [UInt32.toNat_ofNat_of_lt' (by unfold UInt32.size; omega)]
  have hseven : 7≤(freeDescriptors (UInt32.ofNat t.produce.val)
      (UInt32.ofNat t.consume.val)).toNat := by
    rw [hfree]
    split
    · decide
    · rw [if_neg (not_lt.mpr hidx)]
      omega
  rw [gt_iff_lt,UInt32.lt_iff_toNat_lt,hcount]
  exact not_lt.mpr (hc.trans hseven)

/-- While the consume index is not above the produce index the driver does not
wait for room: a frame in reach of the hardware that does not fit beside the
waiting descriptors is written over them at the first poll and reported as
sent, and eight descriptors vanish from the hardware's part of the ring. -/
theorem transmit_writes_over_waiting_descriptors (t : Transmitter) (hcalm : t.underrun=false)
    (hidx : t.consume≤t.produce) (chain : List Segment) (copy : Option ℕ)
    (hsafe : ∀ segment∈chain,packetAddrNotsafe segment.address=false) (hlen : chain.length≤7)
    (hfull : 8≤backlog t+chain.length) :
    ∃ t',lowLevelOutput chain copy [0] t=some (.ok,t') ∧
      t'.queued=t.queued++fragments chain ∧ t'.sent=t.sent ∧
      backlog t'+8=backlog t+chain.length := by
  have hused : usable copy chain=some chain := by
    unfold usable
    rw [if_neg]
    intro hany
    obtain ⟨segment,hm,hbad⟩ := List.any_eq_true.mp hany
    exact absurd (hbad.symm.trans (hsafe segment hm)) (by decide)
  obtain ⟨hproduce,hconsume,hqueued,hsent⟩ := reclaimLoop_frame t.consume 8 t
  have hclen : pbufClen chain=chain.length := Nat.mod_eq_of_lt (by omega)
  have hcounted : counted chain=chain := counted_short (by omega)
  have hwait : waitReady (pbufClen chain) [0] t=some (txReclaimSt t.consume t) := by
    rw [waitReady,hclen]
    exact if_neg (count_passes hidx hlen)
  obtain ⟨hidx',hqueued',hsent',hconsume',-⟩ := writeFragments_frame (fragments chain)
    (txReclaimSt t.consume t).produce (txReclaimSt t.consume t)
  refine ⟨queueChain chain (txReclaimSt t.consume t),?_,?_,?_,?_⟩
  · unfold lowLevelOutput
    rw [if_neg (by rw [hcalm]; decide)]
    simp only [hused,hwait,hcounted]
    rfl
  · exact hqueued'.trans (congrArg (·++fragments chain) hqueued)
  · exact hsent'.trans hsent
  · have hback : backlog (queueChain chain (txReclaimSt t.consume t))=
        (backlog t+chain.length)%8 := by
      unfold backlog gap queueChain
      simp only
      rw [hidx',hconsume',fragments_length]
      unfold txReclaimSt
      rw [hproduce,hconsume]
      omega
    have hlt := gap_lt t.consume t.produce
    unfold backlog at hfull hback ⊢
    omega

/-- A frame of one buffer in reach of the hardware. -/
def shortFrame : List Segment := [⟨1,0x2007C000,[0x12,0x34]⟩]

/-- Seven short frames wait; the eighth empties the ring for the hardware. -/
theorem eighth_frame_empties_the_ring :
    ∃ t',lowLevelOutput shortFrame none [0] ((queueChain shortFrame)^[7] (setup 0x3))=
        some (.ok,t') ∧
      t'.queued=((queueChain shortFrame)^[7] (setup 0x3)).queued++fragments shortFrame ∧
      t'.sent=((queueChain shortFrame)^[7] (setup 0x3)).sent ∧
      backlog t'+8=backlog ((queueChain shortFrame)^[7] (setup 0x3))+shortFrame.length :=
  transmit_writes_over_waiting_descriptors _ rfl (by decide) shortFrame none (by decide) (by decide)
    (by decide)

end VlfGateway.EmacTransmit
