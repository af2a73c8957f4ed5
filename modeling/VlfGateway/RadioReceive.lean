import VlfGateway.FifoRing
import VlfGateway.RadioFrame
import VlfGateway.StepPath

/-!
# The receive ring between interrupt and main loop

The interrupt stores each frame it reads in a ring of eight slots. The main
loop tests the indexes, runs the callback on the slot at the consume index and
publishes the next consume index; the interrupt may come between any two of
these steps. A frame too short for its own header is stored past the end of
its slot, but never past the following one, which is free at that moment.
-/

namespace VlfGateway.RadioReceive

open RadioFrame RadioQueue StepPath

/-- `NUM_RXFRAMES`. -/
abbrev numRxFrames : ℕ := 8

/-- The receive side of `struct radif`. -/
structure RxSide where
  /-- `RxProduceIndex`. -/
  rxProduceIndex : Fin numRxFrames
  /-- `RxConsumeIndex`. -/
  rxConsumeIndex : Fin numRxFrames
  /-- `RxFrames`. -/
  rxFrames : Fin numRxFrames → RxSlot
  /-- `rx_callback != 0`. -/
  rxCallback : Bool
  /-- `rx_success_count`. -/
  rxSuccessCount : UInt16
  /-- `rx_overflow`. -/
  rxOverflow : UInt16

/-- What the radio delivers for one received frame. -/
structure Arrival where
  /-- Register `PHY_ED_LEVEL`. -/
  phyEdLevel : UInt8
  /-- Register `PHY_RSSI`. -/
  phyRssi : UInt8
  /-- The bus when the frame is read. -/
  spi : Spi
  /-- What the slot and the one behind it hold after a frame that was stored
  past the end of its buffer. -/
  overrun : RxSlot × RxSlot

/-- The slot with the signal strength and the checksum flag of a frame. -/
def measured (arrival : Arrival) (rx : RxSlot) : RxSlot :=
  {rx with
    energyDetect := arrival.phyEdLevel
    crcStatus := if arrival.phyRssi &&& 0x80≠0 then 1 else 0}

/-- The slots after the frame was read into slot `index`. -/
def readInto (arrival : Arrival) (index : Fin numRxFrames) (frames : Fin numRxFrames → RxSlot) :
    Fin numRxFrames → RxSlot :=
  match radioFrameRead (measured arrival (frames index)) arrival.spi with
  | some (_,rx,_) => Function.update frames index rx
  | none => Function.update (Function.update frames (FifoRing.next index) arrival.overrun.2) index
      arrival.overrun.1

/-- `radio_rx_end`. -/
def radioRxEnd (arrival : Arrival) (radif : RxSide) : RxSide :=
  let next := FifoRing.next radif.rxProduceIndex
  if next≠radif.rxConsumeIndex then
    {radif with
      rxFrames := readInto arrival radif.rxProduceIndex radif.rxFrames
      rxProduceIndex := next
      rxSuccessCount := radif.rxSuccessCount+1}
  else {radif with rxOverflow := radif.rxOverflow+1}

/-- Where `radif_service` is. -/
inductive Service where
  /-- Before the test of the indexes, or not called. -/
  | test
  /-- The test found a frame, and there is a callback. -/
  | entered
  /-- The callback runs on a slot. -/
  | callback (index : Fin numRxFrames)
  /-- The callback has returned. -/
  | returned (index : Fin numRxFrames)

/-- Interrupt and main loop, with the frames stored and seen so far. -/
structure System where
  /-- The shared structure. -/
  radif : RxSide
  /-- Progress of the main loop. -/
  service : Service
  /-- Frames stored by `radio_rx_end`. -/
  stored : List RxSlot
  /-- Frames the callback was started on. -/
  seen : List RxSlot
  /-- Slots given back by the main loop. -/
  released : ℕ

/-- One step of either side. -/
inductive Action where
  /-- The interrupt for a received frame. -/
  | arrival (arrival : Arrival)
  /-- The test of the loop, and of the callback pointer. -/
  | test
  /-- The callback is called. -/
  | call
  /-- The callback returns. -/
  | finish
  /-- The consume index is published. -/
  | publish

/-- The system after an interrupt. A frame is stored when the produce index
moves past its slot. -/
def System.arrive (s : System) (arrival : Arrival) : System :=
  let after := radioRxEnd arrival s.radif
  {s with
    radif := after
    stored := if after.rxProduceIndex=s.radif.rxProduceIndex then s.stored
      else s.stored++[after.rxFrames s.radif.rxProduceIndex]}

/-- The system after a step, if the step is possible. -/
def System.act (s : System) : Action → Option System
  | .arrival arrival => some (s.arrive arrival)
  | .test =>
    match s.service with
    | .test =>
      if s.radif.rxConsumeIndex≠s.radif.rxProduceIndex ∧ s.radif.rxCallback=true then
        some {s with service := .entered}
      else some s
    | _ => none
  | .call =>
    match s.service with
    | .entered => some {s with
        service := .callback s.radif.rxConsumeIndex
        seen := s.seen++[s.radif.rxFrames s.radif.rxConsumeIndex]}
    | _ => none
  | .finish =>
    match s.service with
    | .callback index => some {s with service := .returned index}
    | _ => none
  | .publish =>
    match s.service with
    | .returned index => some {s with
        radif := {s.radif with rxConsumeIndex := FifoRing.next index}
        service := .test
        released := s.released+1}
    | _ => none

/-- The steps of the system. -/
def Step (s : System) (action : Action) (s' : System) : Prop := s.act action=some s'

/-- A system with equal indexes before anything happened. -/
def System.start (radif : RxSide) : System := ⟨radif,.test,[],[],0⟩

/-! ## What holds in every reachable state -/

/-- What the progress of the main loop says about the frames seen. -/
def Progress (s : System) : Prop :=
  match s.service with
  | .test => s.seen.length=s.released
  | .entered => s.seen.length=s.released ∧ s.radif.rxConsumeIndex≠s.radif.rxProduceIndex
  | .callback index => index=s.radif.rxConsumeIndex ∧ s.seen.length=s.released+1 ∧
      s.radif.rxConsumeIndex≠s.radif.rxProduceIndex
  | .returned index => index=s.radif.rxConsumeIndex ∧ s.seen.length=s.released+1 ∧
      s.radif.rxConsumeIndex≠s.radif.rxProduceIndex

/-- Ring, history and progress fit together. -/
structure Consistent (base : ℕ) (s : System) : Prop where
  /-- The ring holds what was stored and not released. -/
  ring : FifoRing.Holds (fun slot entry : RxSlot => slot=entry) base s.radif.rxFrames
    s.radif.rxProduceIndex s.radif.rxConsumeIndex s.stored s.released
  /-- The frames seen are the first of those stored. -/
  seen : s.seen <+: s.stored
  /-- The main loop is where the history says. -/
  progress : Progress s

/-- Reading a frame changes its own slot and at most the one behind it. -/
theorem readInto_of_ne {arrival : Arrival} {index i : Fin numRxFrames}
    {frames : Fin numRxFrames → RxSlot} (hi : i≠index) (hnext : i≠FifoRing.next index) :
    readInto arrival index frames i=frames i := by
  unfold readInto
  cases radioFrameRead (measured arrival (frames index)) arrival.spi with
  | some result => exact Function.update_of_ne hi _ _
  | none =>
    dsimp only
    rw [Function.update_of_ne hi,Function.update_of_ne hnext]

/-- A slot is not its own successor. -/
theorem next_ne (i : Fin numRxFrames) : FifoRing.next i≠i := by
  revert i
  decide

/-- With room the frame is stored behind all others. -/
theorem arrive_stored {s : System} (arrival : Arrival)
    (hroom : FifoRing.next s.radif.rxProduceIndex≠s.radif.rxConsumeIndex) :
    s.arrive arrival={s with
      radif := {s.radif with
        rxFrames := readInto arrival s.radif.rxProduceIndex s.radif.rxFrames
        rxProduceIndex := FifoRing.next s.radif.rxProduceIndex
        rxSuccessCount := s.radif.rxSuccessCount+1}
      stored := s.stored++
        [readInto arrival s.radif.rxProduceIndex s.radif.rxFrames s.radif.rxProduceIndex]} := by
  unfold System.arrive radioRxEnd
  dsimp only
  rw [if_pos hroom]
  dsimp only
  rw [if_neg (next_ne _)]

/-- Without room only the statistics change. -/
theorem arrive_dropped {s : System} (arrival : Arrival)
    (hfull : FifoRing.next s.radif.rxProduceIndex=s.radif.rxConsumeIndex) :
    s.arrive arrival={s with radif := {s.radif with rxOverflow := s.radif.rxOverflow+1}} := by
  unfold System.arrive radioRxEnd
  dsimp only
  rw [if_neg (not_not.mpr hfull)]
  dsimp only
  rw [if_pos rfl]

/-- An interrupt keeps the system consistent, wherever the main loop is. -/
theorem arrive_consistent {base : ℕ} {s : System} (h : Consistent base s) (arrival : Arrival) :
    Consistent base (s.arrive arrival) := by
  by_cases hroom : FifoRing.next s.radif.rxProduceIndex≠s.radif.rxConsumeIndex
  · have hkept : ∀ k i,s.released≤k → k<s.stored.length → FifoRing.Place base k i →
        readInto arrival s.radif.rxProduceIndex s.radif.rxFrames i=s.radif.rxFrames i :=
      fun k i hreleased hk hplace => readInto_of_ne (h.ring.produce_free hreleased hk hplace)
        (h.ring.next_free hroom hreleased hk hplace)
    have hframe := h.ring.frame hkept
    have hring := hframe.publish hroom rfl
    have hpending : s.radif.rxConsumeIndex≠FifoRing.next s.radif.rxProduceIndex := hroom.symm
    rw [arrive_stored arrival hroom]
    refine ⟨hring,h.seen.trans (List.prefix_append _ _),?_⟩
    have hprogress := h.progress
    unfold Progress at hprogress ⊢
    dsimp only
    split at hprogress
    · exact hprogress
    · exact ⟨hprogress.1,hpending⟩
    · exact ⟨hprogress.1,hprogress.2.1,hpending⟩
    · exact ⟨hprogress.1,hprogress.2.1,hpending⟩
  · rw [arrive_dropped arrival (not_not.mp hroom)]
    exact ⟨h.ring,h.seen,h.progress⟩

/-- The frame at the consume index is the one that follows those released. -/
theorem Consistent.front {base : ℕ} {s : System} (h : Consistent base s)
    (hsome : s.radif.rxConsumeIndex≠s.radif.rxProduceIndex) :
    s.stored[s.released]?=some (s.radif.rxFrames s.radif.rxConsumeIndex) := by
  obtain ⟨entry,hentry,hslot⟩ := h.ring.front hsome
  rw [hslot]
  exact hentry

/-- A prefix grows by the entry that follows it. -/
theorem prefix_concat {α : Type} {seen stored : List α} {entry : α} (h : seen <+: stored)
    (hentry : stored[seen.length]?=some entry) : seen++[entry] <+: stored := by
  obtain ⟨rest,rfl⟩ := h
  rw [List.getElem?_append_right le_rfl,Nat.sub_self] at hentry
  cases rest with
  | nil => cases hentry
  | cons first rest =>
    rw [List.getElem?_cons_zero,Option.some.injEq] at hentry
    rw [hentry]
    exact ⟨rest,by rw [List.append_assoc,List.singleton_append]⟩

/-- Every step keeps the system consistent. -/
theorem step_consistent {base : ℕ} {s s' : System} {action : Action} (h : Consistent base s)
    (hstep : Step s action s') : Consistent base s' := by
  have hprogress := h.progress
  unfold Progress at hprogress
  cases action with
  | arrival arrival =>
    rw [←Option.some.inj hstep]
    exact arrive_consistent h arrival
  | test =>
    unfold Step System.act at hstep
    cases hservice : s.service with
    | test =>
      rw [hservice] at hprogress hstep
      dsimp only at hprogress hstep
      split at hstep
      · next hfound =>
        rw [←Option.some.inj hstep]
        exact ⟨h.ring,h.seen,hprogress,hfound.1⟩
      · rw [←Option.some.inj hstep]
        exact h
    | _ =>
      rw [hservice] at hstep
      cases hstep
  | call =>
    unfold Step System.act at hstep
    cases hservice : s.service with
    | entered =>
      rw [hservice] at hprogress hstep
      dsimp only at hprogress hstep
      obtain ⟨hcount,hsome⟩ := hprogress
      have hfront := h.front hsome
      rw [←hcount] at hfront
      rw [←Option.some.inj hstep]
      refine ⟨h.ring,prefix_concat h.seen hfront,rfl,?_,hsome⟩
      rw [List.length_append,hcount]
      rfl
    | _ =>
      rw [hservice] at hstep
      cases hstep
  | finish =>
    unfold Step System.act at hstep
    cases hservice : s.service with
    | callback index =>
      rw [hservice] at hprogress hstep
      rw [←Option.some.inj hstep]
      exact ⟨h.ring,h.seen,hprogress⟩
    | _ =>
      rw [hservice] at hstep
      cases hstep
  | publish =>
    unfold Step System.act at hstep
    cases hservice : s.service with
    | returned index =>
      rw [hservice] at hprogress hstep
      dsimp only at hprogress
      obtain ⟨rfl,hcount,hsome⟩ := hprogress
      rw [←Option.some.inj hstep]
      exact ⟨h.ring.release hsome,h.seen,hcount⟩
    | _ =>
      rw [hservice] at hstep
      cases hstep

/-- The start is consistent. -/
theorem start_consistent {radif : RxSide} (h : radif.rxConsumeIndex=radif.rxProduceIndex) :
    Consistent radif.rxProduceIndex.val (System.start radif) := by
  refine ⟨?_,List.nil_prefix,rfl⟩
  change FifoRing.Holds _ _ _ radif.rxProduceIndex radif.rxConsumeIndex [] 0
  rw [h]
  exact FifoRing.Holds.empty _ _ _

/-- While the callback runs, its slot holds the frame it was started on. -/
theorem Consistent.callback_slot {base : ℕ} {s : System} (h : Consistent base s)
    {index : Fin numRxFrames} (hservice : s.service=.callback index) :
    s.seen.getLast?=some (s.radif.rxFrames index) := by
  have hprogress := h.progress
  unfold Progress at hprogress
  rw [hservice] at hprogress
  obtain ⟨hindex,hcount,hsome⟩ := hprogress
  have hfront := h.front hsome
  obtain ⟨rest,hstored⟩ := h.seen
  rw [←hstored,List.getElem?_append_left (by omega)] at hfront
  rw [List.getLast?_eq_getElem?,hcount,Nat.add_sub_cancel,hindex,hfront]

/-- A frame is dropped exactly when all slots but one are pending. -/
theorem Consistent.dropped_iff {base : ℕ} {s s' : System} {arrival : Arrival} (h : Consistent base s)
    (hstep : Step s (.arrival arrival) s') :
    s'.radif.rxOverflow≠s.radif.rxOverflow ↔ s.stored.length-s.released=numRxFrames-1 := by
  have hpublished := h.ring.published
  have hfull := h.ring.full_iff
  rw [←Option.some.inj hstep]
  by_cases hroom : FifoRing.next s.radif.rxProduceIndex≠s.radif.rxConsumeIndex
  · rw [arrive_stored arrival hroom]
    have hcount := mt hfull.mpr hroom
    exact ⟨fun hne => absurd rfl hne,fun heq => by omega⟩
  · rw [arrive_dropped arrival (not_not.mp hroom)]
    have hcount := hfull.mp (not_not.mp hroom)
    exact ⟨fun _ => by omega,fun _ => by simp⟩

/-- For every interleaving from equal indexes, the callback sees the stored
frames in their order, each of them once, and its slot keeps the frame while it
runs. A frame is dropped exactly when seven stored frames wait to be released. -/
theorem receive_fifo {radif : RxSide} (h0 : radif.rxConsumeIndex=radif.rxProduceIndex)
    {ts : List (Transition System Action)} {s : System}
    (h : Path Step (System.start radif) ts s) :
    s.seen <+: s.stored ∧
      (s.released ≤ s.seen.length ∧ s.seen.length ≤ s.released+1) ∧
      (∀ index,s.service=.callback index → s.seen.getLast?=some (s.radif.rxFrames index)) ∧
      ∀ t∈ts,∀ arrival,t.label=.arrival arrival →
        (t.after.radif.rxOverflow≠t.before.radif.rxOverflow ↔
          t.before.stored.length-t.before.released=numRxFrames-1) := by
  have hkeep : ∀ s action s',Consistent radif.rxProduceIndex.val s → Step s action s' →
      Consistent radif.rxProduceIndex.val s' := fun _ _ _ => step_consistent
  have hend := h.invariant (start_consistent h0) hkeep
  refine ⟨hend.seen,?_,fun index hservice => hend.callback_slot hservice,?_⟩
  · have hprogress := hend.progress
    unfold Progress at hprogress
    split at hprogress <;> omega
  · intro t ht arrival hlabel
    have hbefore := (h.invariant_transitions (start_consistent h0) hkeep t ht).1
    have hstep := h.steps t ht
    rw [hlabel] at hstep
    exact hbefore.dropped_iff hstep

/-- An empty ring with a callback. -/
def emptySide : RxSide := ⟨⟨0,by decide⟩,⟨0,by decide⟩,fun _ => blankSlot,true,0,0⟩

/-- A frame with one octet of payload. -/
def oneOctet : Arrival :=
  ⟨22,0x80,answering [0x00,0x0C,0x41,0x98,7,0x34,0x12,1,0,2,0,0x55],blankSlot,blankSlot⟩

/-- A frame that announces a header it is too short for. -/
def tooShort : Arrival :=
  ⟨5,0,answering [0x00,0x05,0x41,0x98],{blankSlot with crcStatus := 9},blankSlot⟩

/-- The second frame arrives between the test and the callback on the first, and
the callback is started on both. -/
def twoFrames : List Action :=
  [.arrival oneOctet,.test,.arrival tooShort,.call,.finish,.publish,.test,.call]

/-- Two frames arrive, and the callback runs on the second. -/
theorem receive_fifo_two :
    ∃ s ts,Path Step (System.start emptySide) ts s ∧ s.released=1 ∧
      s.seen.map (fun slot => slot.crcStatus)=[1,9] ∧ s.stored.length=2 ∧
      s.seen <+: s.stored ∧
      (s.released ≤ s.seen.length ∧ s.seen.length ≤ s.released+1) ∧
      (∀ index,s.service=.callback index → s.seen.getLast?=some (s.radif.rxFrames index)) ∧
      ∀ t∈ts,∀ arrival,t.label=.arrival arrival →
        (t.after.radif.rxOverflow≠t.before.radif.rxOverflow ↔
          t.before.stored.length-t.before.released=numRxFrames-1) := by
  have hrun : ∃ ts s,traceOf (labelled System.act) (System.start emptySide) twoFrames=some (ts,s) ∧
      s.released=1 ∧ s.seen.map (fun slot => slot.crcStatus)=[1,9] ∧ s.stored.length=2 :=
    ⟨_,_,rfl,rfl,rfl,rfl⟩
  obtain ⟨ts,s,htrace,hreleased,hseen,hstored⟩ := hrun
  have hpath : Path Step (System.start emptySide) ts s :=
    path_of_trace (fun _ _ _ _ => labelled_step) htrace
  exact ⟨s,_,hpath,hreleased,hseen,hstored,receive_fifo rfl hpath⟩

end VlfGateway.RadioReceive
