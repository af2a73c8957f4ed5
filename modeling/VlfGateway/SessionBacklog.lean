import VlfGateway.StoreLedger

/-!
# What an upload session is offered

The number of blocks offered is compared with the number of `next_block`
steps from the read index to the write index, and the blocks a session reads
are compared with the records that were accepted and not passed. Both
comparisons are exact: the offer is right as long as the write index has not
wrapped behind the read index, and the blocks are right only when more than
a thousand records are waiting beyond block zero.
-/

namespace VlfGateway.SessionBacklog

open RecordChecksum SdCard MemoryStore StoreLedger StepPath

/-! ## Backlog count -/

/-- Both indexes are blocks of the ring. -/
def InRing (l : Ledger) : Prop := (1≤l.read ∧ l.read≤l.last) ∧ 1≤l.write ∧ l.write≤l.last

instance (l : Ledger) : Decidable (InRing l) := inferInstanceAs (Decidable (_ ∧ _))

/-- A boot from an accepted index page whose indexes are blocks of the ring. -/
def RingBoot (l : Ledger) : Prop :=
  ∃ card polls,pageValid card polls=true ∧ l=Ledger.boot (memoryInit card polls) [] ∧ InRing l

/-- Accepted records, and acknowledgements that do not pass the write index. -/
def drainEnabled (l : Ledger) : StoreCall → Prop
  | .put block tc data page => (putSample l.store block tc data page).1=true
  | .start _ => True
  | .ack _ => l.store.indexes.readIndex≠l.store.indexes.writeIndex

instance (l : Ledger) : (c : StoreCall) → Decidable (drainEnabled l c)
  | .put _ _ _ _ => inferInstanceAs (Decidable (_=true))
  | .start _ => inferInstanceAs (Decidable True)
  | .ack _ => inferInstanceAs (Decidable (_≠_))

/-- A call never takes an index out of the ring. -/
theorem inRing_call {l : Ledger} (h : InRing l) (c : StoreCall) : InRing (l.call c) := by
  obtain ⟨⟨hr,hrM⟩,hw,hwM⟩ := h
  have hM : 1≤l.last := by omega
  cases c with
  | put block tc data page =>
    by_cases hn : CyclicRing.next l.last l.write=l.read
    · rw [call_put_refused block tc data page hn]
      exact ⟨⟨hr,hrM⟩,hw,hwM⟩
    · have e := call_put_accepted block tc data page hn
      have hb := CyclicRing.next_bounds hM l.write
      unfold InRing
      rw [e.read,e.write,e.last]
      exact ⟨⟨hr,hrM⟩,hb⟩
  | start tc =>
    by_cases h0 : getBlocksToRead l.store tc=0
    · rw [call_start_empty h0]
      exact ⟨⟨hr,hrM⟩,hw,hwM⟩
    · rw [call_start_offer h0]
      exact ⟨⟨hr,hrM⟩,hw,hwM⟩
  | ack page =>
    have e := call_ack l page
    have hb := CyclicRing.next_bounds hM l.read
    unfold InRing
    rw [e.read,e.write,e.last]
    exact ⟨hb,hw,hwM⟩

/-- Walking `next_block` from the read index is walking the ring. -/
theorem readSteps_iff (l : Ledger) (k : ℕ) :
    (nextBlock l.store.card)^[k] l.store.indexes.readIndex=l.store.indexes.writeIndex ↔
      (CyclicRing.next l.last)^[k] l.read=l.write := by
  rw [←UInt32.toNat_inj,iterate_nextBlock_toNat]
  rfl

/-- The number of steps to the write index is the ring distance. -/
theorem readSteps_eq_distance {l : Ledger} (h : InRing l) {d : ℕ}
    (hd : IsLeast {k | (nextBlock l.store.card)^[k] l.store.indexes.readIndex=
      l.store.indexes.writeIndex} d) : d=CyclicRing.distance l.last l.read l.write := by
  have hset : {k | (nextBlock l.store.card)^[k] l.store.indexes.readIndex=
      l.store.indexes.writeIndex}={k | (CyclicRing.next l.last)^[k] l.read=l.write} :=
    Set.ext fun k => readSteps_iff l k
  rw [hset] at hd
  exact hd.unique (CyclicRing.isLeast_distance h.1.1 h.1.2 h.2.1 h.2.2)

/-- In every state such a run reaches, and three seconds after the last write,
the offer is the number of `next_block` steps up to a thousand, and empty only
when the indexes meet, exactly when the write index is not behind the read
index. -/
theorem backlog_exact_iff {l : Ledger}
    (h : Reachable RingBoot (stepOf drainEnabled Ledger.call) l) {tc : UInt32}
    (htime : 3≤tc-l.store.lastWriteTime) {d : ℕ}
    (hd : IsLeast {k | (nextBlock l.store.card)^[k] l.store.indexes.readIndex=
      l.store.indexes.writeIndex} d) :
    ((getBlocksToRead l.store tc).toNat=min 1000 d ∧
      (getBlocksToRead l.store tc=0 → l.store.indexes.readIndex=l.store.indexes.writeIndex)) ↔
      l.store.indexes.readIndex≤l.store.indexes.writeIndex := by
  have hring : InRing l := h.invariant_stepOf (fun _ ⟨_,_,_,_,hb⟩ => hb)
    (fun _ c hi _ => inRing_call hi c)
  have hcap := lastBlock_le l.store.card
  have hsteps := readSteps_eq_distance hring hd
  obtain ⟨⟨hr,hrM⟩,hw,hwM⟩ := hring
  have ht : 3≤(tc-l.store.lastWriteTime).toNat := UInt32.le_iff_toNat_le.mp htime
  have hrl : l.read=l.store.indexes.readIndex.toNat := rfl
  have hwl : l.write=l.store.indexes.writeIndex.toNat := rfl
  have hlast : l.last=lastBlock l.store.card := rfl
  rw [UInt32.le_iff_toNat_le,←hrl,←hwl,hsteps]
  unfold CyclicRing.distance
  constructor
  · rintro ⟨hcount,-⟩
    by_contra hlt
    rw [getBlocksToRead_behind (by omega) (by omega),if_neg hlt] at hcount
    omega
  · intro hle
    have hn : (getBlocksToRead l.store tc).toNat=min 1000 (l.write-l.read) :=
      getBlocksToRead_ahead hle (by omega) ht
    rw [if_pos hle]
    refine ⟨hn,fun h0 => UInt32.toNat_inj.mp ?_⟩
    rw [h0] at hn
    change 0=_ at hn
    omega

/-- Two blocks wait on a card of eleven sectors, and two are offered. -/
theorem backlog_of_two_blocks :
    (getBlocksToRead (memoryInit (formattedCard 11 ⟨3,1⟩) [0x00]) 5).toNat=min 1000 2 :=
  ((backlog_exact_iff (.initial ⟨formattedCard 11 ⟨3,1⟩,[0x00],by decide,rfl,by decide⟩) (by decide)
    ⟨by decide,fun k hk => by
      by_contra hlt
      interval_cases k <;> revert hk <;> decide⟩).mpr (by decide)).1

/-- A card of three sectors after one record: the write index went from the
last block back to block one. -/
def wrappedLedger : Ledger :=
  (Ledger.boot (memoryInit (formattedCard 3 ⟨2,2⟩) [0x00]) []).call
    (.put Record.blank 5 .good .good)

/-- On the wrapped card one block waits, and none is offered at any of the
later times at which uploads are attempted. -/
theorem backlog_lost_after_wrap :
    Reachable RingBoot (stepOf drainEnabled Ledger.call) wrappedLedger ∧
      (3 : UInt32)≤10-wrappedLedger.store.lastWriteTime ∧
      IsLeast {k | (nextBlock wrappedLedger.store.card)^[k] wrappedLedger.store.indexes.readIndex=
        wrappedLedger.store.indexes.writeIndex} 1 ∧
      (getBlocksToRead wrappedLedger.store 10).toNat≠min 1000 1 ∧
      getBlocksToRead wrappedLedger.store 10=0 := by
  refine ⟨?_,by decide,⟨by decide,fun k hk => ?_⟩,by decide,by decide⟩
  · exact (Reachable.initial ⟨formattedCard 3 ⟨2,2⟩,[0x00],by decide,rfl,by decide⟩).further
      ⟨by decide,rfl⟩
  · by_contra hlt
    interval_cases k
    revert hk
    decide

/-! ## Blocks read by a session -/

/-- A boot from an accepted index page with both indexes zero. -/
def ResetBoot (l : Ledger) : Prop :=
  ∃ card polls,pageValid card polls=true ∧ l=Ledger.boot (memoryInit card polls) [] ∧
    l.read=0 ∧ l.write=0

/-- Accepted records that do not wrap, sessions at any time, and at most one
acknowledgement for each record offered. -/
def unwrappedEnabled (l : Ledger) : StoreCall → Prop
  | .put block tc data page => (putSample l.store block tc data page).1=true ∧ l.write<l.last
  | .start _ => True
  | .ack _ => l.acked<l.offered

instance (l : Ledger) : (c : StoreCall) → Decidable (unwrappedEnabled l c)
  | .put _ _ _ _ => inferInstanceAs (Decidable (_ ∧ _))
  | .start _ => inferInstanceAs (Decidable True)
  | .ack _ => inferInstanceAs (Decidable (_<_))

/-- Blocks a session started at timer value `tc` reads, in order. -/
def sessionBlocks (s : Store) (tc : UInt32) : List UInt32 :=
  (List.range (getBlocksToRead s tc).toNat).map fun i => getCurrentReadBlock s+UInt32.ofNat i

/-- History of a run without a wrap: the held blocks are the consecutive ones
up to the write index, and the open offer ends at or before it. -/
structure Unwrapped (l : Ledger) : Prop where
  /-- The read index has not passed the write index. -/
  ordered : l.read≤l.write
  /-- The write index is inside the ring, or nothing was written. -/
  bounded : l.write≤l.last
  /-- The blocks not yet passed, without the reserved block zero. -/
  held : l.held=List.range' (max 1 l.read) (l.write+1-max 1 l.read)
  /-- Acknowledging the whole offer does not pass the write index. -/
  open_offer : l.read+(l.offered-l.acked)≤l.write

/-- Leaving a block out of consecutive ones it is not among changes nothing. -/
theorem filter_range'_outside {first n b : ℕ} (h : b<first ∨ first+n≤b) :
    (List.range' first n).filter (·≠b)=List.range' first n := by
  rw [List.filter_eq_self]
  intro c hc
  rw [List.mem_range'_1] at hc
  exact decide_eq_true (by omega)

/-- A record that does not wrap extends the held blocks by one. -/
theorem unwrapped_put {l : Ledger} (h : Unwrapped l) (block : Record) (tc : UInt32)
    (data page : WriteReply) (hn : CyclicRing.next l.last l.write≠l.read) (hlt : l.write<l.last) :
    Unwrapped (l.call (.put block tc data page)) := by
  obtain ⟨ho,hb,hh,hw⟩ := h
  have e := call_put_accepted block tc data page hn
  have hnext : CyclicRing.next l.last l.write=l.write+1 := CyclicRing.next_of_lt hlt
  refine ⟨?_,?_,?_,?_⟩
  · rw [e.read,e.write,hnext]
    omega
  · rw [e.write,e.last,hnext]
    omega
  · have hsize : l.write+1+1-max 1 l.read=(l.write+1-max 1 l.read)+1 := by omega
    have hpos : max 1 l.read+(l.write+1-max 1 l.read)=l.write+1 := by omega
    rw [e.held,e.read,e.write,hnext,hh,filter_range'_outside (by omega),hsize,
      List.range'_1_concat,hpos]
  · rw [e.read,e.write,e.offered,e.acked,hnext]
    omega

/-- A session's offer ends at the write index. -/
theorem unwrapped_start {l : Ledger} (h : Unwrapped l) (tc : UInt32) :
    Unwrapped (l.call (.start tc)) := by
  by_cases h0 : getBlocksToRead l.store tc=0
  · rw [call_start_empty h0]
    exact h
  · have hcap := h.bounded.trans (lastBlock_le l.store.card)
    have hoffer : l.read+(getBlocksToRead l.store tc).toNat≤l.write :=
      getBlocksToRead_bound (h.ordered.trans hcap) hcap h0
    rw [call_start_offer h0]
    exact ⟨h.ordered,h.bounded,h.held,hoffer⟩

/-- An acknowledgement within the offer gives up the oldest held block, or
leaves block zero. -/
theorem unwrapped_ack {l : Ledger} (h : Unwrapped l) (hopen : l.acked<l.offered)
    (page : WriteReply) : Unwrapped (l.call (.ack page)) := by
  obtain ⟨ho,hb,hh,hw⟩ := h
  have e := call_ack l page
  have hnext : CyclicRing.next l.last l.read=l.read+1 := CyclicRing.next_of_lt (by omega)
  refine ⟨?_,?_,?_,?_⟩
  · rw [e.read,e.write,hnext]
    omega
  · rw [e.write,e.last]
    exact hb
  · rw [e.held,e.read,e.write,hnext,hh]
    by_cases hzero : l.read=0
    · rw [hzero]
      exact filter_range'_outside (by omega)
    · have hmax : max 1 l.read=l.read := by omega
      have hmax' : max 1 (l.read+1)=l.read+1 := by omega
      have hsize : l.write+1-l.read=(l.write+1-(l.read+1))+1 := by omega
      rw [hmax,hmax',hsize,List.range'_succ,List.filter_cons_of_neg (by simp)]
      exact filter_range'_outside (by omega)
  · rw [e.read,e.write,e.offered,e.acked,hnext]
    omega

/-- Every permitted call keeps the history of an unwrapped run. -/
theorem unwrapped_call {l : Ledger} (h : Unwrapped l) {c : StoreCall} (hc : unwrappedEnabled l c) :
    Unwrapped (l.call c) := by
  cases c with
  | put block tc data page =>
    have hn := (accepts_iff l).mp ((putSample_accepts_iff _ _ _ _ _).mp hc.1)
    exact unwrapped_put h block tc data page hn hc.2
  | start tc => exact unwrapped_start h tc
  | ack page => exact unwrapped_ack h hc page

/-- The reset page begins an unwrapped run. -/
theorem unwrapped_boot {l : Ledger} (h : ResetBoot l) : Unwrapped l := by
  obtain ⟨card,polls,-,hl,hr,hw⟩ := h
  refine ⟨by omega,by omega,?_,?_⟩
  · rw [hr,hw,hl]
    rfl
  · rw [hr,hw,hl]
    exact le_refl 0

/-- Started three seconds after the last write, a session reads exactly the
oldest records that were accepted and not passed, a thousand at most, in
acceptance order, if and only if nothing was accepted yet or the read index
has left block zero and at least a thousand blocks lie before the write
index. -/
theorem session_blocks_exact_iff {l : Ledger}
    (h : Reachable ResetBoot (stepOf unwrappedEnabled Ledger.call) l) {tc : UInt32}
    (htime : 3≤tc-l.store.lastWriteTime) :
    (sessionBlocks l.store tc).map UInt32.toNat=l.held.take 1000 ↔
      l.write=0 ∨ (1≤l.read ∧ 1000≤l.write-l.read) := by
  obtain ⟨ho,hb,hh,-⟩ : Unwrapped l := h.invariant_stepOf (fun _ => unwrapped_boot)
    (fun _ _ hi hc => unwrapped_call hi hc)
  have hcap := hb.trans (lastBlock_le l.store.card)
  have hn : (getBlocksToRead l.store tc).toNat=min 1000 (l.write-l.read) :=
    getBlocksToRead_ahead ho hcap (UInt32.le_iff_toNat_le.mp htime)
  have hread : (sessionBlocks l.store tc).map UInt32.toNat=
      List.range' l.read (min 1000 (l.write-l.read)) := by
    unfold sessionBlocks
    rw [hn,List.map_map,List.range'_eq_map_range]
    apply List.map_congr_left
    intro i hi
    have hlt := List.mem_range.mp hi
    change (l.store.indexes.readIndex+UInt32.ofNat i).toNat=l.read+i
    have hr : l.store.indexes.readIndex.toNat=l.read := rfl
    have hofNat : (UInt32.ofNat i).toNat=i := UInt32.toNat_ofNat_of_lt' (by
      change i<2^32
      omega)
    rw [UInt32.toNat_add,hofNat,hr,Nat.mod_eq_of_lt (by omega)]
  have hheld : l.held.take 1000=
      List.range' (max 1 l.read) (min 1000 (l.write+1-max 1 l.read)) := by
    rw [hh]
    by_cases hmany : 1000≤l.write+1-max 1 l.read
    · rw [List.take_range'_of_length_ge hmany,Nat.min_eq_left hmany]
    · rw [List.take_range'_of_length_le (by omega),Nat.min_eq_right (by omega)]
  rw [hread,hheld,List.range'_inj]
  omega

/-- A ledger after a number of records at timer value 5. -/
def putMany (l : Ledger) : ℕ → Ledger
  | 0 => l
  | n+1 => (putMany l n).call (.put Record.blank 5 .good .good)

/-- A row of records that fits the ring, after a reset: where it leads and what
it leaves. -/
theorem reachable_putMany {l : Ledger} (h : Reachable ResetBoot (stepOf unwrappedEnabled Ledger.call) l)
    (hread : l.read=0) {n : ℕ} (hfits : l.write+n≤l.last) :
    Reachable ResetBoot (stepOf unwrappedEnabled Ledger.call) (putMany l n) ∧
      (putMany l n).read=0 ∧ (putMany l n).write=l.write+n ∧ (putMany l n).last=l.last ∧
      (0<n → (putMany l n).store.lastWriteTime=5) := by
  induction n with
  | zero => exact ⟨h,hread,rfl,rfl,fun hpos => absurd hpos (Nat.lt_irrefl 0)⟩
  | succ n ih =>
    obtain ⟨hreached,hread',hwrite,hlast,-⟩ := ih (by omega)
    have hnext : CyclicRing.next (putMany l n).last (putMany l n).write≠(putMany l n).read := by
      rw [CyclicRing.next_of_lt (by omega)]
      omega
    have hfree := (accepts_iff _).mpr hnext
    have hok := (putSample_accepts_iff _ Record.blank 5 .good .good).mpr hfree
    have e := call_put_accepted Record.blank 5 .good .good hnext
    refine ⟨hreached.taken _ ⟨hok,by omega⟩,e.read.trans hread',?_,e.last.trans hlast,fun _ => ?_⟩
    · refine e.write.trans ?_
      rw [CyclicRing.next_of_lt (by omega),hwrite]
      omega
    · rw [putMany,Ledger.call,if_pos hok]
      exact putSample_time _ _ _ _ hfree

/-- A session after such records that passes the index page leaves the read
index on the first of them. -/
theorem reachable_passed {l : Ledger} (h : Reachable ResetBoot (stepOf unwrappedEnabled Ledger.call) l)
    (hread : l.read=0) (hwrite : 0<l.write) (hlast : l.write≤l.last)
    (htime : l.store.lastWriteTime=5) : ∃ l',
    Reachable ResetBoot (stepOf unwrappedEnabled Ledger.call) l' ∧ l'.read=1 ∧ l'.write=l.write ∧
      l'.store.lastWriteTime=5 := by
  have hcap := hlast.trans (lastBlock_le l.store.card)
  have hoffer : (getBlocksToRead l.store 10).toNat=min 1000 (l.write-l.read) := by
    refine getBlocksToRead_ahead (le_of_eq_of_le hread (Nat.zero_le _)) hcap ?_
    rw [htime]
    decide
  have hsome : getBlocksToRead l.store 10≠0 := by
    intro hnone
    rw [hnone] at hoffer
    change 0=_ at hoffer
    omega
  have hstarted := call_start_offer hsome
  have hack := call_ack (l.call (.start 10)) .good
  rw [hstarted] at hack
  refine ⟨_,(h.taken (.start 10) trivial).taken (.ack .good) ?_,?_⟩
  · rw [hstarted]
    change 0<(getBlocksToRead l.store 10).toNat
    omega
  · rw [hstarted]
    refine ⟨hack.read.trans ?_,hack.write,(goodUploadDone_time _ _).trans htime⟩
    change CyclicRing.next l.last l.read=1
    rw [CyclicRing.next_of_lt (by omega),hread]

/-- A reset card of 1999 blocks. -/
def emptyLedger : Ledger := Ledger.boot (memoryInit (formattedCard 2000 ⟨0,0⟩) [0x00]) []

/-- The next session reads the oldest thousand of these records. -/
theorem session_blocks_of_thousand : ∃ l,
    Reachable ResetBoot (stepOf unwrappedEnabled Ledger.call) l ∧ l.held=List.range' 1 1001 ∧
      (sessionBlocks l.store 10).map UInt32.toNat=List.range' 1 1000 := by
  have hboot : emptyLedger.read=0 ∧ emptyLedger.write=0 ∧ emptyLedger.last=1999 := by decide
  have hinit : Reachable ResetBoot (stepOf unwrappedEnabled Ledger.call) emptyLedger :=
    .initial ⟨formattedCard 2000 ⟨0,0⟩,[0x00],by decide,rfl,hboot.1,hboot.2.1⟩
  obtain ⟨hfilled,hzero,hmany,hlast,htime⟩ := reachable_putMany hinit hboot.1
    (show emptyLedger.write+1001≤emptyLedger.last by omega)
  obtain ⟨l,hreached,hread,hsame,htime⟩ := reachable_passed hfilled hzero (by omega) (by omega)
    (htime (by omega))
  have hwrite : l.write=1001 := by omega
  have hheld : l.held=List.range' 1 1001 := by
    have hinv : Unwrapped l := hreached.invariant_stepOf (fun _ => unwrapped_boot)
      (fun _ _ hi hc => unwrapped_call hi hc)
    rw [hinv.held,hread,hwrite]
    rfl
  have hlate : (3 : UInt32)≤10-l.store.lastWriteTime := by
    rw [htime]
    decide
  have hexact := (session_blocks_exact_iff hreached hlate).mpr (.inr ⟨hread.ge,by omega⟩)
  rw [hheld,List.take_range'_of_length_ge (by decide)] at hexact
  exact ⟨l,hreached,hheld,hexact⟩

/-- The reset store after its first record, which went to block one. -/
def firstRecordLedger : Ledger :=
  (Ledger.boot (memoryInit (formattedCard 11 ⟨0,0⟩) [0x00]) []).call
    (.put Record.blank 5 .good .good)

/-- The first session after a reset reads the index page and leaves the one
accepted record out. -/
theorem session_reads_index_page :
    Reachable ResetBoot (stepOf unwrappedEnabled Ledger.call) firstRecordLedger ∧
      (3 : UInt32)≤10-firstRecordLedger.store.lastWriteTime ∧
      sessionBlocks firstRecordLedger.store 10=[0] ∧ firstRecordLedger.held=[1] ∧
      (sessionBlocks firstRecordLedger.store 10).map UInt32.toNat≠
        firstRecordLedger.held.take 1000 := by
  refine ⟨?_,by decide,by decide,by decide,by decide⟩
  exact (Reachable.initial ⟨formattedCard 11 ⟨0,0⟩,[0x00],by decide,rfl,rfl,rfl⟩).further
    ⟨by decide,rfl⟩

end VlfGateway.SessionBacklog
