import VlfGateway.FifoRing
import VlfGateway.SlotLedger
import VlfGateway.StepPath

/-!
# The receive ring of the Ethernet driver

Eight descriptors are shared with the hardware. Each carries a buffer that the
driver allocated for it; the hardware fills the descriptor at its produce
index, the driver takes the buffer at the consume index out, hands it to the
network layer or frees it, and moves the consume index on only when a new
buffer is in place. `net_service` asks for the next frame only after every
empty descriptor has its buffer again.
-/

namespace VlfGateway.EmacReceive

open SlotLedger StepPath

/-- The receive descriptors, `LPC_NUM_BUFF_RXDESCS` of them. -/
abbrev Desc := Fin 8

/-- The rings have a first descriptor. -/
scoped instance ringNeZero : NeZero 8 := ⟨by decide⟩

/-- What is outside the driver. Buffers are numbered by the calls of
`pbuf_alloc`. -/
structure Chip where
  /-- Whether a call of `pbuf_alloc` succeeds. -/
  supply : ℕ → Bool
  /-- Produce index after the receive logic was put into reset. -/
  reset : Desc → Desc

/-- Receive side of the driver with the registers it shares with the hardware. -/
structure Receiver where
  /-- `rxb`, the buffer behind each descriptor. -/
  rxb : Desc → Option ℕ
  /-- `prxd[i].packet`, the buffer the hardware would write to. -/
  packet : Desc → Option ℕ
  /-- `prxs[i].statusinfo`. -/
  status : Desc → UInt32
  /-- `rx_fill_desc_index`. -/
  fill : Desc
  /-- `rx_free_descs`. -/
  free : ℕ
  /-- `RxConsumeIndex`. -/
  consume : Desc
  /-- `RxProduceIndex`. -/
  produce : Desc
  /-- The overrun flag of `IntStatus`. -/
  overrun : Bool
  /-- `MAC1`. -/
  mac1 : UInt32
  /-- Calls of `pbuf_alloc` so far. -/
  asked : ℕ
  /-- Buffers the driver gave to `pbuf_free`. -/
  released : List ℕ
  /-- Buffers handed to the network layer, with the length of the frame. -/
  handed : List (ℕ×ℕ)
  /-- Status words the hardware stored, oldest first. -/
  arrived : List UInt32
  /-- Status words the driver acted on, oldest first. -/
  seen : List UInt32

/-- `EMAC_MAC1_REC_EN`. -/
def recEnable : UInt32 := 0x00000001

/-- `EMAC_MAC1_RES_RX`. -/
def resetReceive : UInt32 := 0x00000400

/-- The error flags the driver looks at: no descriptor, alignment, length,
symbol and checksum errors. -/
def errorFlags : UInt32 :=
  0x20000000 ||| 0x08000000 ||| 0x02000000 ||| 0x01000000 ||| 0x00800000

/-- A frame without one of these errors. -/
def intact (status : UInt32) : Bool := status &&& errorFlags==0

/-- Length of the frame a status word describes. -/
def frameLength (status : UInt32) : ℕ := (status &&& 0x7FF).toNat+1

/-- What `lpc_low_level_input` gives. -/
inductive Input
  /-- No buffer. -/
  | nothing
  /-- A buffer with a frame of this length. -/
  | frame (pbuf length : ℕ)
  /-- The length is stored through a null pointer. -/
  | nullPointer
  deriving DecidableEq

/-- What becomes of a frame beyond the driver. -/
structure Arrival where
  /-- Ethernet type of the frame. -/
  ethertype : UInt16
  /-- `netif->input` takes the frame. -/
  accepted : Bool

/-- The frame stays with the network layer: an IP or ARP frame that was taken. -/
def Arrival.taken (arrival : Arrival) : Bool :=
  (arrival.ethertype==0x0800 || arrival.ethertype==0x0806) && arrival.accepted

/-- Descriptors in the order of the driver's loops. -/
def slots : List Desc := List.finRange 8

/-- `lpc_rxqueue_pbuf`. -/
def rxqueuePbuf (pbuf : ℕ) (r : Receiver) : Receiver :=
  {r with
    packet := Function.update r.packet r.fill (some pbuf)
    status := Function.update r.status r.fill 0xFFFFFFFF
    rxb := Function.update r.rxb r.fill (some pbuf)
    free := r.free-1
    fill := FifoRing.next r.fill
    consume := FifoRing.next r.fill}

/-- `lpc_rx_queue`. -/
def rxQueue (chip : Chip) (r : Receiver) : ℤ×Receiver :=
  if r.free=0 then (0,r)
  else if chip.supply r.asked then (1,rxqueuePbuf r.asked {r with asked := r.asked+1})
  else (-1,{r with asked := r.asked+1})

/-- Some calls of `lpc_rx_queue`, whatever they return. -/
def rxQueueTimes (chip : Chip) : ℕ → Receiver → Receiver
  | 0,r => r
  | n+1,r => rxQueueTimes chip n (rxQueue chip r).2

/-- `lpc_rx_setup`. -/
def rxSetup (chip : Chip) (r : Receiver) : Receiver :=
  rxQueueTimes chip 8 {r with free := 8,fill := 0}

/-- The overrun branch of `lpc_low_level_input`. -/
def recover (chip : Chip) (r : Receiver) : Receiver :=
  let drained := drain r.rxb slots
  let restarted := rxSetup chip {r with
    mac1 := (r.mac1 &&& ~~~recEnable) ||| resetReceive
    overrun := false
    produce := chip.reset r.produce
    rxb := drained.2
    released := r.released++drained.1}
  {restarted with mac1 := restarted.mac1 ||| recEnable}

/-- `lpc_low_level_input`. -/
def lowLevelInput (chip : Chip) (r : Receiver) : Input×Receiver :=
  if r.overrun then (.nothing,recover chip r)
  else if r.produce=r.consume then (.nothing,r)
  else
    let status := r.status r.consume
    match intact status,r.rxb r.consume with
    | false,none => (.nothing,r)
    | false,some pbuf => (.nothing,{r with
        released := r.released++[pbuf]
        rxb := Function.update r.rxb r.consume none
        free := r.free+1
        seen := r.seen++[status]})
    | true,none => (.nullPointer,r)
    | true,some pbuf => (.frame pbuf (frameLength status),{r with
        rxb := Function.update r.rxb r.consume none
        free := r.free+1
        seen := r.seen++[status]})

/-- `lpc_enetif_input`; no result is a store through a null pointer. -/
def enetifInput (chip : Chip) (arrival : Arrival) (r : Receiver) : Option Receiver :=
  match lowLevelInput chip r with
  | (.nothing,r) => some r
  | (.nullPointer,_) => none
  | (.frame pbuf length,r) =>
    if arrival.taken then some {r with handed := r.handed++[(pbuf,length)]}
    else some {r with released := r.released++[pbuf]}

/-- The loop of `net_service` around `lpc_rx_queue`. Each round that succeeds
fills one descriptor, so it runs at most as often as descriptors are free. -/
def requeue (chip : Chip) : ℕ → Receiver → ℤ×Receiver
  | 0,r => rxQueue chip r
  | n+1,r =>
    let queued := rxQueue chip r
    if queued.1=1 then requeue chip n queued.2 else queued

/-- The receive part of `net_service`. -/
def serviceReceive (chip : Chip) (arrival : Arrival) (r : Receiver) : Option Receiver :=
  let queued := requeue chip r.free r
  if queued.1≠-1 then enetifInput chip arrival queued.2 else some queued.2

/-- The loop of `net_init` around `lpc_rx_queue`, for a number of rounds. It goes
on after a failed allocation as well as after a good one. -/
def netInitQueue (chip : Chip) : ℕ → Receiver → Option Receiver
  | 0,_ => none
  | n+1,r =>
    let queued := rxQueue chip r
    if queued.1≠0 then netInitQueue chip n queued.2 else some queued.2

/-- The steps the driver and the hardware take in turn. -/
inductive RxEvent
  /-- The hardware stores a frame with this status word. -/
  | receive (status : UInt32)
  /-- The hardware reports an overrun. -/
  | overrun
  /-- The loop of `net_init` calls `lpc_rx_queue`. -/
  | queue
  /-- `net_service` runs. -/
  | service (arrival : Arrival)

/-- The hardware stores a frame only while a descriptor is its own. -/
def rxEnabled (r : Receiver) : RxEvent → Prop
  | .receive _ => FifoRing.next r.produce≠r.consume
  | .overrun => True
  | .queue => True
  | .service _ => True

instance (r : Receiver) : (event : RxEvent) → Decidable (rxEnabled r event)
  | .receive _ => inferInstanceAs (Decidable (_≠_))
  | .overrun => inferInstanceAs (Decidable True)
  | .queue => inferInstanceAs (Decidable True)
  | .service _ => inferInstanceAs (Decidable True)

/-- One step; no result is a store through a null pointer. -/
def rxNext (chip : Chip) (r : Receiver) : RxEvent → Option Receiver
  | .receive status => some {r with
      status := Function.update r.status r.produce status
      produce := FifoRing.next r.produce
      arrived := r.arrived++[status]}
  | .overrun => some {r with overrun := true}
  | .queue => some (rxQueue chip r).2
  | .service arrival => serviceReceive chip arrival r

/-- Steps that are taken. -/
def rxStep (chip : Chip) (r : Receiver) (event : RxEvent) (r' : Receiver) : Prop :=
  rxEnabled r event ∧ rxNext chip r event=some r'

/-- The driver before `lpc_rx_setup`. -/
def blank (mac1 : UInt32) : Receiver :=
  ⟨fun _ => none,fun _ => none,fun _ => 0,0,0,0,0,false,mac1,0,[],[],[],[]⟩

/-- The driver after `lpc_rx_setup`. -/
def started (chip : Chip) (mac1 : UInt32) : Receiver := rxSetup chip (blank mac1)

/-- Steps along the ring from one descriptor to another. -/
def gap (first last : Desc) : ℕ := (last.val+8-first.val)%8

/-- No steps lead from a descriptor to itself. -/
@[simp] theorem gap_self (i : Desc) : gap i i=0 := by
  unfold gap
  omega

/-- No steps lead to the descriptor itself only. -/
theorem gap_eq_zero {first last : Desc} (h : gap first last=0) : last=first := by
  unfold gap at h
  apply Fin.ext
  omega

/-- The next descriptor is one step nearer. -/
theorem gap_next {first last : Desc} (h : last≠first) :
    gap (FifoRing.next first) last+1=gap first last := by
  have hne : last.val≠first.val := fun he => h (Fin.ext he)
  unfold gap FifoRing.next
  simp only
  omega

/-- Back from the next descriptor it is the whole way round. -/
theorem gap_next_self (i : Desc) : gap (FifoRing.next i) i=7 := by
  unfold gap FifoRing.next
  simp only
  omega

/-- The way round is shorter than the ring. -/
theorem gap_lt (first last : Desc) : gap first last<8 := Nat.mod_lt _ (by decide)

/-- Every descriptor is listed once. -/
theorem slots_nodup : slots.Nodup := List.nodup_finRange 8

/-- Every descriptor is listed. -/
theorem mem_slots (i : Desc) : i∈slots := List.mem_finRange i

/-- Every buffer that was ever allocated is behind one descriptor, was freed
once, or was handed over once. -/
def Balanced (chip : Chip) (r : Receiver) : Prop :=
  (held slots r.rxb++(r.released++r.handed.map Prod.fst)).Perm
    ((List.range r.asked).filter chip.supply)

/-- What holds between two steps of the receive side. -/
structure Sound (chip : Chip) (r : Receiver) : Prop where
  /-- At most all descriptors are free. -/
  free_le : r.free≤8
  /-- The consume index follows the fill index once a buffer was queued. -/
  aligned : r.free<8 → r.consume=r.fill
  /-- The free descriptors are the ones from the fill index on. -/
  empty_iff : ∀ i,r.rxb i=none ↔ gap r.fill i < r.free
  /-- The hardware writes to the buffer the driver holds. -/
  pointed : ∀ i pbuf,r.rxb i=some pbuf → r.packet i=some pbuf
  /-- No buffer is lost and none is freed twice. -/
  balanced : Balanced chip r

/-- A successful allocation extends the list of allocated buffers. -/
theorem allocated_succ (chip : Chip) (asked : ℕ) :
    (List.range (asked+1)).filter chip.supply=
      (List.range asked).filter chip.supply++if chip.supply asked then [asked] else [] := by
  rw [List.range_succ,List.filter_append]
  cases h : chip.supply asked <;> simp [h]

/-- `lpc_rx_queue` keeps the receive side sound. -/
theorem Sound.rxQueue {chip : Chip} {r : Receiver} (h : Sound chip r) :
    Sound chip (rxQueue chip r).2 := by
  unfold EmacReceive.rxQueue
  by_cases hfree : r.free=0
  · rw [if_pos hfree]
    exact h
  rw [if_neg hfree]
  have hle := h.free_le
  cases hsupply : chip.supply r.asked with
  | false =>
    refine ⟨hle,h.aligned,h.empty_iff,h.pointed,?_⟩
    unfold Balanced
    simp only [allocated_succ,hsupply,Bool.false_eq_true,if_false,List.append_nil]
    exact h.balanced
  | true =>
    have hempty : r.rxb r.fill=none := (h.empty_iff r.fill).mpr (by rw [gap_self]; omega)
    refine ⟨?_,fun _ => rfl,fun i => ?_,fun i pbuf hi => ?_,?_⟩
    · change r.free-1≤8
      omega
    · change Function.update r.rxb r.fill (some r.asked) i=none ↔
        gap (FifoRing.next r.fill) i < r.free-1
      by_cases hi : i=r.fill
      · subst hi
        rw [Function.update_self,gap_next_self]
        simp only [reduceCtorEq,false_iff]
        omega
      · rw [Function.update_of_ne hi,h.empty_iff,←gap_next hi]
        omega
    · change Function.update r.packet r.fill (some r.asked) i=some pbuf
      change Function.update r.rxb r.fill (some r.asked) i=some pbuf at hi
      by_cases hfill : i=r.fill
      · subst hfill
        rw [Function.update_self] at hi ⊢
        exact hi
      · rw [Function.update_of_ne hfill] at hi ⊢
        exact h.pointed i pbuf hi
    · have hput := held_put slots_nodup (mem_slots r.fill) hempty r.asked
      unfold Balanced
      simp only [if_true,rxqueuePbuf,allocated_succ,hsupply]
      exact (hput.append_right _).trans ((h.balanced.cons r.asked).trans
        (List.perm_append_singleton r.asked _).symm)

/-- Any number of calls of `lpc_rx_queue` keeps the receive side sound. -/
theorem Sound.rxQueueTimes {chip : Chip} {r : Receiver} (h : Sound chip r) (n : ℕ) :
    Sound chip (rxQueueTimes chip n r) := by
  induction n generalizing r with
  | zero => exact h
  | succ n ih => exact ih h.rxQueue

/-- `lpc_rx_setup` on empty descriptors leaves the receive side sound. -/
theorem rxSetup_sound (chip : Chip) (r : Receiver) (hempty : ∀ i,r.rxb i=none)
    (hb : Balanced chip r) : Sound chip (rxSetup chip r) := by
  have hstart : Sound chip {r with free := 8,fill := 0} := by
    refine ⟨le_refl 8,fun hlt => absurd hlt (lt_irrefl 8),fun i => ?_,fun i pbuf hi => ?_,hb⟩
    · exact ⟨fun _ => gap_lt _ _,fun _ => hempty i⟩
    · exact absurd ((hempty i).symm.trans hi) (by simp)
  exact hstart.rxQueueTimes 8

/-- The receive side is sound once it is set up. -/
theorem started_sound (chip : Chip) (mac1 : UInt32) : Sound chip (started chip mac1) := by
  refine rxSetup_sound chip (blank mac1) (fun _ => rfl) ?_
  have hnone : held slots (blank mac1).rxb=[] := held_empty fun _ => rfl
  unfold Balanced
  rw [hnone]
  exact List.Perm.refl []

/-- The control register does not matter to the buffers. -/
theorem Sound.mac1 {chip : Chip} {r : Receiver} (h : Sound chip r) (mac1 : UInt32) :
    Sound chip {r with mac1 := mac1} :=
  ⟨h.free_le,h.aligned,h.empty_iff,h.pointed,h.balanced⟩

/-- Recovering from an overrun frees every buffer behind a descriptor and
leaves the receive side sound. -/
theorem Sound.recover {chip : Chip} {r : Receiver} (h : Sound chip r) :
    Sound chip (recover chip r) := by
  obtain ⟨hout,htable⟩ := drain_eq slots_nodup r.rxb
  have hempty : ∀ i,(drain r.rxb slots).2 i=none := by
    intro i
    rw [htable,if_pos (mem_slots i)]
  have hset := rxSetup_sound chip {r with
    mac1 := (r.mac1 &&& ~~~recEnable) ||| resetReceive
    overrun := false
    produce := chip.reset r.produce
    rxb := (drain r.rxb slots).2
    released := r.released++(drain r.rxb slots).1} hempty (by
      have hnone : held slots (drain r.rxb slots).2=[] := held_empty hempty
      unfold Balanced
      simp only [hnone,hout,List.nil_append,List.append_assoc]
      refine List.Perm.trans ?_ h.balanced
      rw [←List.append_assoc,←List.append_assoc]
      exact List.perm_append_comm.append_right _)
  unfold EmacReceive.recover
  exact hset.mac1 _

/-- The loop of `net_service` ends with an error or with a buffer behind every
descriptor. -/
theorem Sound.requeue {chip : Chip} {r : Receiver} (h : Sound chip r) {n : ℕ} (hn : r.free≤n) :
    Sound chip (requeue chip n r).2 ∧
      ((requeue chip n r).1=0 ∧ (requeue chip n r).2.free=0 ∨ (requeue chip n r).1=-1) := by
  induction n generalizing r with
  | zero =>
    have hfree : r.free=0 := by omega
    rw [EmacReceive.requeue]
    unfold EmacReceive.rxQueue
    rw [if_pos hfree]
    exact ⟨h,Or.inl ⟨rfl,hfree⟩⟩
  | succ n ih =>
    have hsound := h.rxQueue
    rw [EmacReceive.requeue]
    unfold EmacReceive.rxQueue at hsound ⊢
    by_cases hfree : r.free=0
    · simp only [if_pos hfree] at hsound ⊢
      exact ⟨h,Or.inl ⟨rfl,hfree⟩⟩
    simp only [if_neg hfree] at hsound ⊢
    cases hsupply : chip.supply r.asked with
    | false =>
      simp only [hsupply,Bool.false_eq_true,if_false] at hsound ⊢
      exact ⟨hsound,Or.inr rfl⟩
    | true =>
      simp only [hsupply,if_true] at hsound ⊢
      refine ih hsound ?_
      change r.free-1≤n
      omega

/-- Taking the buffer at the consume index out keeps the receive side sound
when the buffer is accounted for. -/
theorem Sound.takeOut {chip : Chip} {r : Receiver} (h : Sound chip r) (hfree : r.free=0) {pbuf : ℕ}
    (hpbuf : r.rxb r.consume=some pbuf) {released : List ℕ} {handed : List (ℕ×ℕ)}
    (hgone : (released++handed.map Prod.fst).Perm (pbuf::(r.released++r.handed.map Prod.fst)))
    (seen : List UInt32) :
    Sound chip {r with
      rxb := Function.update r.rxb r.consume none
      free := r.free+1
      released := released
      handed := handed
      seen := seen} := by
  have haligned : r.consume=r.fill := h.aligned (by omega)
  refine ⟨?_,fun _ => haligned,fun i => ?_,fun i q hi => ?_,?_⟩
  · change r.free+1≤8
    omega
  · change Function.update r.rxb r.consume none i=none ↔ gap r.fill i < r.free+1
    by_cases hi : i=r.consume
    · subst hi
      rw [Function.update_self,haligned,gap_self]
      simp only [true_iff]
      omega
    · have hne : gap r.fill i≠0 := fun he => hi ((gap_eq_zero he).trans haligned.symm)
      rw [Function.update_of_ne hi,h.empty_iff]
      omega
  · change Function.update r.rxb r.consume none i=some q at hi
    by_cases hic : i=r.consume
    · subst hic
      rw [Function.update_self] at hi
      cases hi
    · rw [Function.update_of_ne hic] at hi
      exact h.pointed i q hi
  · have htake := held_take slots_nodup (mem_slots r.consume) hpbuf
    change (held slots (Function.update r.rxb r.consume none)++
      (released++handed.map Prod.fst)).Perm _
    refine ((hgone.append_left _).trans List.perm_middle).trans ?_
    exact (htake.append_right _).symm.trans h.balanced

/-- The receiver after the buffer at its consume index went to the network
layer or was freed. -/
def tookOut (r : Receiver) (released : List ℕ) (handed : List (ℕ×ℕ)) : Receiver :=
  {r with
    rxb := Function.update r.rxb r.consume none
    free := r.free+1
    released := released
    handed := handed
    seen := r.seen++[r.status r.consume]}

/-- What `lpc_enetif_input` does with a buffer behind every descriptor: recover
from an overrun, find no frame, or take one out. -/
theorem Sound.input_cases {chip : Chip} {r : Receiver} (h : Sound chip r) (hfree : r.free=0)
    (arrival : Arrival) :
    (r.overrun=true ∧ enetifInput chip arrival r=some (EmacReceive.recover chip r)) ∨
    (r.overrun=false ∧ enetifInput chip arrival r=some r) ∨
    ∃ pbuf released handed,r.overrun=false ∧ r.produce≠r.consume ∧
      r.rxb r.consume=some pbuf ∧ enetifInput chip arrival r=some (tookOut r released handed) ∧
      (released++handed.map Prod.fst).Perm (pbuf::(r.released++r.handed.map Prod.fst)) ∧
      (handed=r.handed ∨ intact (r.status r.consume)=true ∧
        handed=r.handed++[(pbuf,frameLength (r.status r.consume))]) := by
  unfold enetifInput lowLevelInput
  by_cases hover : r.overrun=true
  · rw [if_pos hover]
    exact Or.inl ⟨hover,rfl⟩
  rw [if_neg hover]
  have hclear : r.overrun=false := Bool.eq_false_iff.mpr hover
  by_cases hnone : r.produce=r.consume
  · rw [if_pos hnone]
    exact Or.inr (Or.inl ⟨hclear,rfl⟩)
  rw [if_neg hnone]
  obtain ⟨pbuf,hpbuf⟩ : ∃ pbuf,r.rxb r.consume=some pbuf := by
    cases hrxb : r.rxb r.consume with
    | some pbuf => exact ⟨pbuf,rfl⟩
    | none =>
      have hgap := (h.empty_iff r.consume).mp hrxb
      omega
  have hfreed : ((r.released++[pbuf])++r.handed.map Prod.fst).Perm
      (pbuf::(r.released++r.handed.map Prod.fst)) := by
    rw [List.append_assoc]
    exact List.perm_middle
  refine Or.inr (Or.inr ?_)
  simp only [hpbuf]
  cases hintact : intact (r.status r.consume) with
  | false => exact ⟨pbuf,_,_,hclear,hnone,rfl,rfl,hfreed,Or.inl rfl⟩
  | true =>
    simp only
    cases arrival.taken with
    | true =>
      refine ⟨pbuf,r.released,_,hclear,hnone,rfl,rfl,?_,Or.inr ⟨trivial,rfl⟩⟩
      rw [List.map_append,←List.append_assoc]
      exact List.perm_append_singleton pbuf _
    | false => exact ⟨pbuf,_,_,hclear,hnone,rfl,rfl,hfreed,Or.inl rfl⟩

/-- With a buffer behind every descriptor the next frame is taken without
touching a null pointer. -/
theorem Sound.enetifInput {chip : Chip} {r : Receiver} (h : Sound chip r) (hfree : r.free=0)
    (arrival : Arrival) : ∃ r',enetifInput chip arrival r=some r' ∧ Sound chip r' := by
  rcases h.input_cases hfree arrival with ⟨-,heq⟩|⟨-,heq⟩|
    ⟨pbuf,released,handed,-,-,hpbuf,heq,hgone,-⟩
  · exact ⟨_,heq,h.recover⟩
  · exact ⟨_,heq,h⟩
  · exact ⟨_,heq,h.takeOut hfree hpbuf hgone _⟩

/-- `net_service` never stores through a null pointer. -/
theorem Sound.serviceReceive {chip : Chip} {r : Receiver} (h : Sound chip r) (arrival : Arrival) :
    ∃ r',serviceReceive chip arrival r=some r' ∧ Sound chip r' := by
  obtain ⟨hsound,hstat⟩ := h.requeue (le_refl r.free)
  unfold EmacReceive.serviceReceive
  simp only
  rcases hstat with ⟨hzero,hfree⟩|herror
  · rw [if_pos (by rw [hzero]; decide)]
    exact hsound.enetifInput hfree arrival
  · rw [if_neg (by rw [herror]; decide)]
    exact ⟨_,rfl,hsound⟩

/-- What a run of `net_service` comes to on a sound receive side: queueing
failed, or the buffers are complete and the input is asked. -/
theorem Sound.service_cases {chip : Chip} {r r' : Receiver} (h : Sound chip r) {arrival : Arrival}
    (hnext : rxNext chip r (.service arrival)=some r') :
    r'=(EmacReceive.requeue chip r.free r).2 ∨
    (EmacReceive.requeue chip r.free r).2.free=0 ∧
      EmacReceive.enetifInput chip arrival (EmacReceive.requeue chip r.free r).2=some r' := by
  obtain ⟨-,hstat⟩ := h.requeue (le_refl r.free)
  change EmacReceive.serviceReceive chip arrival r=some r' at hnext
  unfold EmacReceive.serviceReceive at hnext
  simp only at hnext
  rcases hstat with ⟨hzero,hfree⟩|herror
  · rw [if_pos (by rw [hzero]; decide)] at hnext
    exact Or.inr ⟨hfree,hnext⟩
  · rw [if_neg (by rw [herror]; decide)] at hnext
    exact Or.inl (Option.some.inj hnext).symm

/-- Every step of driver and hardware keeps the receive side sound. -/
theorem Sound.step {chip : Chip} {r r' : Receiver} {event : RxEvent} (h : Sound chip r)
    (hs : rxStep chip r event r') : Sound chip r' := by
  obtain ⟨-,hnext⟩ := hs
  cases event with
  | receive status =>
    obtain rfl := Option.some.inj hnext
    exact ⟨h.free_le,h.aligned,h.empty_iff,h.pointed,h.balanced⟩
  | overrun =>
    obtain rfl := Option.some.inj hnext
    exact ⟨h.free_le,h.aligned,h.empty_iff,h.pointed,h.balanced⟩
  | queue =>
    obtain rfl := Option.some.inj hnext
    exact h.rxQueue
  | service arrival =>
    obtain ⟨r'',hr,hsound⟩ := h.serviceReceive arrival
    rw [rxNext,hr] at hnext
    exact Option.some.inj hnext ▸ hsound

/-- In every run of driver and hardware, overruns and failed allocations
included, each buffer ever allocated is behind exactly one descriptor, or was
freed exactly once, or was handed over exactly once; and no step stores
through a null pointer. -/
theorem receive_buffers_accounted_for (chip : Chip) (mac1 : UInt32)
    (ts : List (Transition Receiver RxEvent)) (r : Receiver)
    (hp : Path (rxStep chip) (started chip mac1) ts r) :
    (held slots r.rxb++(r.released++r.handed.map Prod.fst)).Perm
      ((List.range r.asked).filter chip.supply) ∧
    (held slots r.rxb++(r.released++r.handed.map Prod.fst)).Nodup ∧
    ∀ event,(rxNext chip r event).isSome=true := by
  have h : Sound chip r :=
    hp.invariant (started_sound chip mac1) fun _ _ _ hi hs => hi.step hs
  refine ⟨h.balanced,h.balanced.nodup_iff.mpr (List.nodup_range.filter _),fun event => ?_⟩
  cases event with
  | receive status => rfl
  | overrun => rfl
  | queue => rfl
  | service arrival =>
    obtain ⟨r',hr,_⟩ := h.serviceReceive arrival
    rw [rxNext,hr]
    rfl

/-- A chip whose fourth buffer is refused and whose reset keeps the produce
index. -/
def shortChip : Chip := ⟨fun asked => asked≠3,id⟩

/-- An ARP frame that the network layer takes. -/
def arpArrival : Arrival := ⟨0x0806,true⟩

/-- A frame of a type the network layer does not know. -/
def otherArrival : Arrival := ⟨0x88CC,true⟩

/-- Three frames, the second of them broken, are stored and served in turn. -/
def threeFrames : List RxEvent :=
  [.receive 0x3F,.receive 0x0080003F,.service arpArrival,.receive 0x5F,.queue,.service arpArrival,
    .service otherArrival,.service arpArrival]

/-- The buffers are accounted for after the loop of `net_init` and these frames. -/
theorem three_frames_accounted_for :
    ∃ ts r,Path (rxStep shortChip) (started shortChip 0x3) ts r ∧ r.handed=[(0,64)] ∧
      r.released=[1,2] ∧
      (held slots r.rxb++(r.released++r.handed.map Prod.fst)).Perm
        ((List.range r.asked).filter shortChip.supply) ∧
      (held slots r.rxb++(r.released++r.handed.map Prod.fst)).Nodup ∧
      ∀ event,(rxNext shortChip r event).isSome=true := by
  have hrun : (traceOf (labelled (attempt rxEnabled (rxNext shortChip))) (started shortChip 0x3)
      (.queue::.queue::threeFrames)).any (fun run =>
        run.2.handed=[(0,64)] ∧ run.2.released=[1,2])=true := by
    decide +kernel
  obtain ⟨⟨ts,r⟩,htrace,hchecked⟩ := (Option.any_eq_true _ _).mp hrun
  obtain ⟨hhanded,hreleased⟩ := of_decide_eq_true hchecked
  have hp : Path (rxStep shortChip) _ ts r := path_of_trace (fun _ _ _ _ => attempt_step) htrace
  exact ⟨ts,r,hp,hhanded,hreleased,receive_buffers_accounted_for shortChip 0x3 ts r hp⟩

/-- What holds between two steps while no overrun was reported: the status
words between the consume and the produce index are the frames that wait, and
the driver has acted on all frames before them, on the first of them as well
while its descriptor has no new buffer. -/
structure Ordered (r : Receiver) : Prop where
  /-- No overrun is reported. -/
  calm : r.overrun=false
  /-- At most one descriptor has no buffer. -/
  few : r.free≤1
  /-- It is one the hardware has filled. -/
  filled : r.free=1 → r.consume≠r.produce
  /-- Frames are acted on in the order in which they were stored. -/
  ring : ∃ base requeued,FifoRing.Holds (fun status entry => status=entry) base r.status r.produce
    r.consume r.arrived requeued ∧ r.seen=r.arrived.take (requeued+r.free)
  /-- The frames handed over are intact ones, in that order. -/
  lengths : (r.handed.map Prod.snd).Sublist ((r.seen.filter intact).map frameLength)

/-- Queueing buffers keeps the order. -/
theorem Ordered.rxQueue {chip : Chip} {r : Receiver} (h : Ordered r) (hs : Sound chip r) :
    Ordered (rxQueue chip r).2 := by
  unfold EmacReceive.rxQueue
  by_cases hfree : r.free=0
  · rw [if_pos hfree]
    exact h
  rw [if_neg hfree]
  have hfew := h.few
  have hone : r.free=1 := by omega
  cases chip.supply r.asked with
  | false => exact ⟨h.calm,h.few,h.filled,h.ring,h.lengths⟩
  | true =>
    have haligned : r.consume=r.fill := hs.aligned (by omega)
    obtain ⟨base,requeued,hring,hseen⟩ := h.ring
    have hmoved := hring.release_change 0xFFFFFFFF (h.filled hone)
    rw [haligned] at hmoved
    refine ⟨h.calm,?_,?_,⟨base,requeued+1,hmoved,?_⟩,h.lengths⟩
    · change r.free-1≤1
      omega
    · change r.free-1=1 → _
      intro hbad
      omega
    · change r.seen=r.arrived.take (requeued+1+(r.free-1))
      rw [hseen,hone]

/-- The loop of `net_service` around `lpc_rx_queue` keeps the order. -/
theorem Ordered.requeue {chip : Chip} {r : Receiver} (h : Ordered r) (hs : Sound chip r) (n : ℕ) :
    Ordered (requeue chip n r).2 := by
  induction n generalizing r with
  | zero => exact h.rxQueue hs
  | succ n ih =>
    rw [EmacReceive.requeue]
    split
    · exact ih (h.rxQueue hs) hs.rxQueue
    · exact h.rxQueue hs

/-- Taking a frame out keeps the order. -/
theorem Ordered.tookOut {r : Receiver} (h : Ordered r) (hfree : r.free=0)
    (hsome : r.produce≠r.consume) (released : List ℕ) {pbuf : ℕ} {handed : List (ℕ×ℕ)}
    (hhanded : handed=r.handed ∨ intact (r.status r.consume)=true ∧
      handed=r.handed++[(pbuf,frameLength (r.status r.consume))]) :
    Ordered (tookOut r released handed) := by
  obtain ⟨base,requeued,hring,hseen⟩ := h.ring
  obtain ⟨entry,hentry,hview⟩ := hring.front (fun he => hsome he.symm)
  refine ⟨h.calm,?_,fun _ he => hsome he.symm,⟨base,requeued,hring,?_⟩,?_⟩
  · change r.free+1≤1
    omega
  · change r.seen++[r.status r.consume]=r.arrived.take (requeued+(r.free+1))
    rw [hseen,hview,hfree,Nat.add_zero,Nat.zero_add,List.take_add_one,hentry]
    rfl
  · change (handed.map Prod.snd).Sublist
      (((r.seen++[r.status r.consume]).filter intact).map frameLength)
    rw [List.filter_append,List.map_append]
    rcases hhanded with rfl|⟨hintact,rfl⟩
    · exact h.lengths.trans (List.sublist_append_left _ _)
    · rw [List.map_append,List.filter_cons_of_pos hintact]
      exact h.lengths.append (List.Sublist.refl _)

/-- Every step but an overrun keeps the order. -/
theorem Ordered.step {chip : Chip} {r r' : Receiver} {event : RxEvent} (h : Ordered r)
    (hs : Sound chip r) (hcalm : event≠.overrun) (hstep : rxStep chip r event r') : Ordered r' := by
  obtain ⟨henabled,hnext⟩ := hstep
  cases event with
  | overrun => exact absurd rfl hcalm
  | receive status =>
    obtain rfl := Option.some.inj hnext
    obtain ⟨base,requeued,hring,hseen⟩ := h.ring
    have hpublished := hring.published
    refine ⟨h.calm,h.few,fun hone he => ?_,
      ⟨base,requeued,hring.publish_change henabled rfl,?_⟩,h.lengths⟩
    · exact henabled he.symm
    · change r.seen=(r.arrived++[status]).take (requeued+r.free)
      have hshort : requeued+r.free ≤ r.arrived.length := by
        by_cases hone : r.free=1
        · have hne := mt hring.empty_iff.mpr (h.filled hone)
          omega
        · have hfew := h.few
          omega
      rw [List.take_append_of_le_length hshort]
      exact hseen
  | queue =>
    obtain rfl := Option.some.inj hnext
    exact h.rxQueue hs
  | service arrival =>
    have hqueued := h.requeue hs r.free
    rcases hs.service_cases hnext with rfl|⟨hfree,hinput⟩
    · exact hqueued
    · rcases (hs.requeue (le_refl r.free)).1.input_cases hfree arrival with ⟨hover,-⟩|⟨-,heq⟩|
        ⟨pbuf,released,handed,-,hsome,-,heq,-,hhanded⟩
      · exact absurd (hqueued.calm.symm.trans hover) (by decide)
      · obtain rfl := Option.some.inj (heq.symm.trans hinput)
        exact hqueued
      · obtain rfl := Option.some.inj (heq.symm.trans hinput)
        exact hqueued.tookOut hfree hsome released hhanded

/-- What queueing buffers does not change. -/
structure Undisturbed (r r' : Receiver) : Prop where
  /-- The produce index. -/
  produce : r'.produce=r.produce
  /-- The overrun flag. -/
  overrun : r'.overrun=r.overrun
  /-- The control register. -/
  mac1 : r'.mac1=r.mac1
  /-- The frames that were stored. -/
  arrived : r'.arrived=r.arrived
  /-- The frames that were acted on. -/
  seen : r'.seen=r.seen
  /-- The frames that were handed over. -/
  handed : r'.handed=r.handed
  /-- The descriptor behind the free ones. -/
  last : (r'.fill.val+r'.free)%8=(r.fill.val+r.free)%8

/-- One call of `lpc_rx_queue` leaves the hardware undisturbed. -/
theorem rxQueue_undisturbed (chip : Chip) (r : Receiver) : Undisturbed r (rxQueue chip r).2 := by
  unfold rxQueue
  by_cases hzero : r.free=0
  · rw [if_pos hzero]
    exact ⟨rfl,rfl,rfl,rfl,rfl,rfl,rfl⟩
  rw [if_neg hzero]
  cases chip.supply r.asked with
  | false => exact ⟨rfl,rfl,rfl,rfl,rfl,rfl,rfl⟩
  | true =>
    refine ⟨rfl,rfl,rfl,rfl,rfl,rfl,?_⟩
    change ((r.fill.val+1)%8+(r.free-1))%8=_
    omega

/-- Calls one after another leave the hardware undisturbed. -/
theorem Undisturbed.trans {r r' r'' : Receiver} (h : Undisturbed r r') (h' : Undisturbed r' r'') :
    Undisturbed r r'' :=
  ⟨h'.produce.trans h.produce,h'.overrun.trans h.overrun,h'.mac1.trans h.mac1,
    h'.arrived.trans h.arrived,h'.seen.trans h.seen,h'.handed.trans h.handed,h'.last.trans h.last⟩

/-- Some calls of `lpc_rx_queue` leave the hardware undisturbed. -/
theorem rxQueueTimes_undisturbed (chip : Chip) (n : ℕ) (r : Receiver) :
    Undisturbed r (rxQueueTimes chip n r) := by
  induction n generalizing r with
  | zero => exact ⟨rfl,rfl,rfl,rfl,rfl,rfl,rfl⟩
  | succ n ih => exact (rxQueue_undisturbed chip r).trans (ih _)

/-- The loop of `net_service` around `lpc_rx_queue` leaves the hardware undisturbed. -/
theorem requeue_undisturbed (chip : Chip) (n : ℕ) (r : Receiver) :
    Undisturbed r (requeue chip n r).2 := by
  induction n generalizing r with
  | zero => exact rxQueue_undisturbed chip r
  | succ n ih =>
    rw [requeue]
    split
    · exact (rxQueue_undisturbed chip r).trans (ih _)
    · exact rxQueue_undisturbed chip r

/-- The loop of `net_init` ends with a buffer behind every descriptor. -/
theorem netInitQueue_ends {chip : Chip} {rounds : ℕ} {r r' : Receiver}
    (h : netInitQueue chip rounds r=some r') :
    ∃ calls,r'=rxQueueTimes chip calls r ∧ r'.free=0 := by
  induction rounds generalizing r with
  | zero => cases h
  | succ rounds ih =>
    rw [netInitQueue] at h
    by_cases hagain : (rxQueue chip r).1≠0
    · rw [if_pos hagain] at h
      obtain ⟨calls,hcalls,hfree⟩ := ih h
      exact ⟨calls+1,hcalls,hfree⟩
    · rw [if_neg hagain] at h
      obtain rfl := Option.some.inj h
      refine ⟨1,rfl,?_⟩
      -- Zero is returned only without a free descriptor.
      unfold rxQueue at hagain ⊢
      by_cases hfree : r.free=0
      · rwa [if_pos hfree]
      · rw [if_neg hfree] at hagain
        revert hagain
        cases chip.supply r.asked with
        | false => exact fun hagain => absurd (show (-1 : ℤ)≠0 by decide) hagain
        | true => exact fun hagain => absurd (show (1 : ℤ)≠0 by decide) hagain

/-- Nothing waits when the loop of `net_init` has ended. -/
theorem netInitQueue_ordered {chip : Chip} {mac1 : UInt32} {rounds : ℕ} {r : Receiver}
    (h : netInitQueue chip rounds (started chip mac1)=some r) : Sound chip r ∧ Ordered r := by
  obtain ⟨calls,rfl,hfree⟩ := netInitQueue_ends h
  have hsound := (started_sound chip mac1).rxQueueTimes calls
  generalize hr : rxQueueTimes chip calls (started chip mac1)=r at hfree hsound
  have hstart : Undisturbed {blank mac1 with free := 8,fill := 0} r :=
    hr ▸ (rxQueueTimes_undisturbed chip 8 _).trans (rxQueueTimes_undisturbed chip calls _)
  have hproduce : r.produce=0 := hstart.produce
  have harrived : r.arrived=[] := hstart.arrived
  have hseen : r.seen=[] := hstart.seen
  have hhanded : r.handed=[] := hstart.handed
  have hlast : (r.fill.val+r.free)%8=0 := hstart.last.trans (by simp)
  have hconsume : r.consume=0 := by
    rw [hsound.aligned (by omega)]
    apply Fin.ext
    change _=0
    omega
  refine ⟨hsound,?_⟩
  refine ⟨hstart.overrun,by omega,fun hone => by omega,⟨0,0,?_,?_⟩,?_⟩
  · rw [harrived,hproduce,hconsume]
    exact FifoRing.Holds.empty _ _ 0
  · rw [hseen,harrived]
    exact List.take_nil.symm
  · rw [hhanded]
    exact List.nil_sublist _

/-- In every run without an overrun from the end of `net_init`'s loop on, the
driver acts on the frames the hardware stored in their order, on each once, and
at most seven wait; the frames handed over are intact ones with the lengths the
hardware gave; and whenever the hardware may store another frame, the
descriptor it uses points to a buffer the driver holds. -/
theorem receive_in_order (chip : Chip) (mac1 : UInt32) (rounds : ℕ) (r₀ : Receiver)
    (hinit : netInitQueue chip rounds (started chip mac1)=some r₀)
    (ts : List (Transition Receiver RxEvent)) (r : Receiver) (hp : Path (rxStep chip) r₀ ts r)
    (hcalm : ∀ t∈ts,t.label≠.overrun) :
    r.seen <+: r.arrived ∧ r.arrived.length ≤ r.seen.length+7 ∧
    (r.handed.map Prod.snd).Sublist ((r.seen.filter intact).map frameLength) ∧
    (FifoRing.next r.produce≠r.consume → ∃ pbuf,r.packet r.produce=some pbuf ∧
      r.rxb r.produce=some pbuf) := by
  obtain ⟨⟨hs,ho⟩,-⟩ := hp.guarded (fun r => Sound chip r ∧ Ordered r)
    (fun _ event => event≠.overrun) (fun _ _ _ => True)
    (netInitQueue_ordered hinit)
    (fun _ _ _ hi hstep hc => ⟨⟨hi.1.step hstep,hi.2.step hi.1 hc hstep⟩,trivial⟩) hcalm
  obtain ⟨base,requeued,hring,hseen⟩ := ho.ring
  have hroom := hring.room
  refine ⟨hseen ▸ List.take_prefix _ _,?_,ho.lengths,fun _ => ?_⟩
  · rw [hseen,List.length_take]
    omega
  · cases hrxb : r.rxb r.produce with
    | some pbuf => exact ⟨pbuf,hs.pointed _ _ hrxb,rfl⟩
    | none =>
      have hgap := (hs.empty_iff r.produce).mp hrxb
      have hfew := ho.few
      have hfill : r.produce=r.fill := gap_eq_zero (by omega)
      exact absurd ((hs.aligned (by omega)).trans hfill.symm) (ho.filled (by omega))

instance : (event : RxEvent) → Decidable (event≠.overrun)
  | .receive _ => isTrue nofun
  | .overrun => isFalse fun h => h rfl
  | .queue => isTrue nofun
  | .service _ => isTrue nofun

/-- The three frames are acted on in their order, and the intact one of a known
type is handed over. -/
theorem three_frames_in_order :
    ∃ r₀ ts r,netInitQueue shortChip 2 (started shortChip 0x3)=some r₀ ∧
      Path (rxStep shortChip) r₀ ts r ∧ r.arrived=[0x3F,0x0080003F,0x5F] ∧
      r.seen=[0x3F,0x0080003F,0x5F] ∧ r.handed=[(0,64)] ∧
      r.seen <+: r.arrived ∧ r.arrived.length ≤ r.seen.length+7 ∧
      (r.handed.map Prod.snd).Sublist ((r.seen.filter intact).map frameLength) ∧
      (FifoRing.next r.produce≠r.consume → ∃ pbuf,r.packet r.produce=some pbuf ∧
        r.rxb r.produce=some pbuf) := by
  have hready : (netInitQueue shortChip 2 (started shortChip 0x3)).any (fun r₀ =>
      (traceOf (labelled (attempt rxEnabled (rxNext shortChip))) r₀ threeFrames).any (fun run =>
        (∀ t∈run.1,t.label≠.overrun) ∧ run.2.arrived=[0x3F,0x0080003F,0x5F] ∧
          run.2.seen=[0x3F,0x0080003F,0x5F] ∧ run.2.handed=[(0,64)]))=true := by
    decide +kernel
  obtain ⟨r₀,hinit,hrun⟩ := (Option.any_eq_true _ _).mp hready
  obtain ⟨⟨ts,r⟩,htrace,hchecked⟩ := (Option.any_eq_true _ _).mp hrun
  obtain ⟨hcalm,harrived,hseen,hhanded⟩ := of_decide_eq_true hchecked
  have hp : Path (rxStep shortChip) _ ts r := path_of_trace (fun _ _ _ _ => attempt_step) htrace
  exact ⟨r₀,ts,r,hinit,hp,harrived,hseen,hhanded,
    receive_in_order shortChip 0x3 2 r₀ hinit ts r hp hcalm⟩

/-- The receive logic is held in reset. -/
def InReset (r : Receiver) : Prop := r.mac1 &&& resetReceive=resetReceive

/-- Recovering from an overrun puts the receive logic into reset. -/
theorem recover_inReset (chip : Chip) (r : Receiver) : InReset (recover chip r) := by
  unfold InReset recover rxSetup
  simp only
  rw [(rxQueueTimes_undisturbed chip 8 _).mac1]
  simp only
  apply UInt32.eq_of_toBitVec_eq
  ext i hi
  simp only [UInt32.toBitVec_and,UInt32.toBitVec_or,BitVec.getElem_and,BitVec.getElem_or]
  cases resetReceive.toBitVec[i] <;> simp

/-- A step never takes the receive logic out of reset, and puts it there when
it clears the overrun flag. -/
theorem Sound.step_inReset {chip : Chip} {r r' : Receiver} {event : RxEvent} (h : Sound chip r)
    (hstep : rxStep chip r event r')
    (hr : InReset r ∨ r.overrun=true ∧ r'.overrun=false) : InReset r' := by
  obtain ⟨-,hnext⟩ := hstep
  cases event with
  | receive status =>
    obtain rfl := Option.some.inj hnext
    rcases hr with hr|⟨hover,hclear⟩
    · exact hr
    · exact absurd (hover.symm.trans hclear) (by decide)
  | overrun =>
    obtain rfl := Option.some.inj hnext
    rcases hr with hr|⟨-,hclear⟩
    · exact hr
    · cases hclear
  | queue =>
    obtain rfl := Option.some.inj hnext
    have hsame := rxQueue_undisturbed chip r
    rcases hr with hr|⟨hover,hclear⟩
    · rw [InReset,hsame.mac1]
      exact hr
    · exact absurd ((hsame.overrun.trans hover).symm.trans hclear) (by decide)
  | service arrival =>
    have hsame := requeue_undisturbed chip r.free r
    have hkept : InReset r → InReset (EmacReceive.requeue chip r.free r).2 := by
      intro hin
      unfold InReset
      rw [hsame.mac1]
      exact hin
    rcases h.service_cases hnext with rfl|⟨hfree,hinput⟩
    · rcases hr with hr|⟨hover,hclear⟩
      · exact hkept hr
      · exact absurd ((hsame.overrun.trans hover).symm.trans hclear) (by decide)
    · rcases (h.requeue (le_refl r.free)).1.input_cases hfree arrival with ⟨-,heq⟩|⟨hcalm,heq⟩|
        ⟨pbuf,released,handed,hcalm,-,-,heq,-,-⟩
      · obtain rfl := Option.some.inj (heq.symm.trans hinput)
        exact recover_inReset chip _
      · obtain rfl := Option.some.inj (heq.symm.trans hinput)
        rcases hr with hr|⟨hover,-⟩
        · exact hkept hr
        · exact absurd ((hsame.overrun.trans hover).symm.trans hcalm) (by decide)
      · obtain rfl := Option.some.inj (heq.symm.trans hinput)
        rcases hr with hr|⟨hover,-⟩
        · exact hkept hr
        · exact absurd ((hsame.overrun.trans hover).symm.trans hcalm) (by decide)

/-- Once an overrun was handled the receive logic stays in reset: in every run
in which some step cleared the overrun flag, the reset flag of `MAC1` is set
from then on. -/
theorem receive_reset_is_never_lifted (chip : Chip) (mac1 : UInt32)
    (ts : List (Transition Receiver RxEvent)) (r : Receiver)
    (hp : Path (rxStep chip) (started chip mac1) ts r)
    (hhandled : ∃ t∈ts,t.before.overrun=true ∧ t.after.overrun=false) :
    r.mac1 &&& resetReceive=resetReceive := by
  induction hp with
  | nil =>
    obtain ⟨t,ht,-⟩ := hhandled
    exact absurd ht List.not_mem_nil
  | snoc hpath hstep ih =>
    have hsound : Sound chip _ :=
      hpath.invariant (started_sound chip mac1) fun _ _ _ hi hs => hi.step hs
    obtain ⟨t,ht,hover⟩ := hhandled
    refine hsound.step_inReset hstep ?_
    rcases List.mem_append.mp ht with ht|ht
    · exact Or.inl (ih ⟨t,ht,hover⟩)
    · rw [List.mem_singleton.mp ht] at hover
      exact Or.inr hover

/-- Recovering clears the overrun flag. -/
theorem recover_overrun (chip : Chip) (r : Receiver) : (recover chip r).overrun=false := by
  unfold recover rxSetup
  simp only
  rw [(rxQueueTimes_undisturbed chip 8 _).overrun]

/-- With a buffer behind every descriptor `net_service` handles an overrun. -/
theorem service_overrun (chip : Chip) {r : Receiver} (hfree : r.free=0) (hover : r.overrun=true)
    (arrival : Arrival) : rxNext chip r (.service arrival)=some (recover chip r) := by
  change serviceReceive chip arrival r=_
  unfold serviceReceive
  rw [hfree,requeue]
  unfold rxQueue
  rw [if_pos hfree]
  simp only
  rw [if_pos (by decide)]
  unfold enetifInput lowLevelInput
  rw [if_pos hover]

/-- A chip with room for every buffer whose reset keeps the produce index. -/
def plentyChip : Chip := ⟨fun _ => true,id⟩

/-- One overrun is reported and handled. -/
theorem receive_reset_after_one_overrun :
    ∃ ts r,Path (rxStep plentyChip) (started plentyChip 0x3) ts r ∧ ts.length=2 ∧
      r.mac1 &&& resetReceive=resetReceive := by
  have hfirst : rxStep plentyChip (started plentyChip 0x3) .overrun _ := ⟨trivial,rfl⟩
  have hsecond : rxStep plentyChip {started plentyChip 0x3 with overrun := true}
      (.service arpArrival) (recover plentyChip {started plentyChip 0x3 with overrun := true}) :=
    ⟨trivial,service_overrun plentyChip (by decide) rfl arpArrival⟩
  have hp := (Path.nil.snoc hfirst).snoc hsecond
  exact ⟨_,_,hp,rfl,receive_reset_is_never_lifted plentyChip 0x3 _ _ hp
    ⟨_,List.mem_append_right _ (List.mem_singleton_self _),rfl,recover_overrun _ _⟩⟩

end VlfGateway.EmacReceive
