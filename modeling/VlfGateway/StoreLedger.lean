import VlfGateway.MemoryStore
import VlfGateway.StepPath

/-!
# Runs of store calls with their history

A ledger is the store together with what happened to it: the blocks that hold
an accepted record which the read index has not passed yet, oldest first, the
number of records accepted, and the offer and acknowledgements of the upload
session that was started last. Every call runs the operation of the store and
then only writes down what it did.
-/

namespace VlfGateway.StoreLedger

open RecordChecksum SdCard MemoryStore

/-- The store and the history of the calls made on it. -/
structure Ledger where
  /-- The store the calls are made on. -/
  store : Store
  /-- Blocks whose accepted record has not been passed, in acceptance order. -/
  held : List ℕ
  /-- Records accepted since `memory_init`. -/
  accepted : ℕ
  /-- Records offered by the session started last. -/
  offered : ℕ
  /-- Acknowledgements received in that session. -/
  acked : ℕ

/-- The ledger when a run begins. -/
def Ledger.boot (store : Store) (held : List ℕ) : Ledger := ⟨store,held,0,0,0⟩

/-- The read index as a number. -/
def Ledger.read (l : Ledger) : ℕ := l.store.indexes.readIndex.toNat

/-- The write index as a number. -/
def Ledger.write (l : Ledger) : ℕ := l.store.indexes.writeIndex.toNat

/-- The last block of the ring. -/
def Ledger.last (l : Ledger) : ℕ := lastBlock l.store.card

/-- One call on the store. -/
inductive StoreCall where
  /-- `put_sample` at a timer value, with the card's answers to both writes. -/
  | put (block : Record) (tc : UInt32) (data page : WriteReply)
  /-- An upload session asks for `get_blocks_to_read` at a timer value. -/
  | start (tc : UInt32)
  /-- `good_upload_done`, with the card's answer to the index page. -/
  | ack (page : WriteReply)

/-- Run one call and write it down. Without anything to send no session is
started, and passing a block gives up the record it held. -/
def Ledger.call (l : Ledger) : StoreCall → Ledger
  | .put block tc data page =>
    let result := putSample l.store block tc data page
    if result.1 then
      {l with
        store := result.2
        held := l.held.filter (·≠result.2.indexes.writeIndex.toNat)++
          [result.2.indexes.writeIndex.toNat]
        accepted := l.accepted+1}
    else {l with store := result.2}
  | .start tc =>
    if getBlocksToRead l.store tc=0 then l
    else {l with offered := (getBlocksToRead l.store tc).toNat,acked := 0}
  | .ack page =>
    {l with
      store := goodUploadDone l.store page
      held := l.held.filter (·≠l.read)
      acked := l.acked+1}

/-! ## One lemma for each call -/

/-- The store accepts exactly when the ring successor is not the read index. -/
theorem accepts_iff (l : Ledger) :
    nextBlock l.store.card l.store.indexes.writeIndex≠l.store.indexes.readIndex ↔
      CyclicRing.next l.last l.write≠l.read := by
  rw [ne_eq,←UInt32.toNat_inj,nextBlock_toNat]
  rfl

/-- A refused record changes nothing. -/
theorem call_put_refused {l : Ledger} (block : Record) (tc : UInt32) (data page : WriteReply)
    (h : CyclicRing.next l.last l.write=l.read) : l.call (.put block tc data page)=l := by
  have hr : nextBlock l.store.card l.store.indexes.writeIndex=l.store.indexes.readIndex := by
    by_contra hne
    exact (accepts_iff l).mp hne h
  simp only [Ledger.call,putSample_refused block tc data page hr,Bool.false_eq_true,if_false]

/-- What an accepted record changes. -/
structure PutEffect (l l' : Ledger) : Prop where
  /-- The read index stays. -/
  read : l'.read=l.read
  /-- The write index moves to the next block. -/
  write : l'.write=CyclicRing.next l.last l.write
  /-- The ring stays. -/
  last : l'.last=l.last
  /-- The written block is now the newest of the held ones. -/
  held : l'.held=l.held.filter (·≠CyclicRing.next l.last l.write)++
    [CyclicRing.next l.last l.write]
  /-- One more record was accepted. -/
  accepted : l'.accepted=l.accepted+1
  /-- The session's offer stays. -/
  offered : l'.offered=l.offered
  /-- The session's acknowledgements stay. -/
  acked : l'.acked=l.acked

/-- An accepted record has exactly these effects. -/
theorem call_put_accepted {l : Ledger} (block : Record) (tc : UInt32) (data page : WriteReply)
    (h : CyclicRing.next l.last l.write≠l.read) : PutEffect l (l.call (.put block tc data page)) := by
  have hn := (accepts_iff l).mpr h
  have hok := (putSample_accepts_iff l.store block tc data page).mpr hn
  have hi := putSample_indexes block tc data page hn
  have hw : (putSample l.store block tc data page).2.indexes.writeIndex.toNat=
      CyclicRing.next l.last l.write := by
    rw [hi]
    exact nextBlock_toNat _ _
  have hl : lastBlock (putSample l.store block tc data page).2.card=lastBlock l.store.card :=
    lastBlock_congr (putSample_sectors _ _ _ _ _)
  simp only [Ledger.call,hok,if_true]
  refine ⟨?_,hw,hl,?_,rfl,rfl,rfl⟩
  · change (putSample l.store block tc data page).2.indexes.readIndex.toNat=_
    rw [hi]
    rfl
  · dsimp only
    rw [hw]

/-- What an acknowledgement changes. -/
structure AckEffect (l l' : Ledger) : Prop where
  /-- The read index moves to the next block. -/
  read : l'.read=CyclicRing.next l.last l.read
  /-- The write index stays. -/
  write : l'.write=l.write
  /-- The ring stays. -/
  last : l'.last=l.last
  /-- The passed block is given up. -/
  held : l'.held=l.held.filter (·≠l.read)
  /-- No record was accepted. -/
  accepted : l'.accepted=l.accepted
  /-- The session's offer stays. -/
  offered : l'.offered=l.offered
  /-- One more acknowledgement was received. -/
  acked : l'.acked=l.acked+1

/-- An acknowledgement has exactly these effects. -/
theorem call_ack (l : Ledger) (page : WriteReply) : AckEffect l (l.call (.ack page)) := by
  have hi := goodUploadDone_indexes l.store page
  refine ⟨?_,?_,lastBlock_congr (goodUploadDone_sectors l.store page),rfl,rfl,rfl,rfl⟩
  · change (goodUploadDone l.store page).indexes.readIndex.toNat=_
    rw [hi]
    exact nextBlock_toNat _ _
  · change (goodUploadDone l.store page).indexes.writeIndex.toNat=_
    rw [hi]
    rfl

/-- A session without anything to send leaves the ledger alone. -/
theorem call_start_empty {l : Ledger} {tc : UInt32} (h : getBlocksToRead l.store tc=0) :
    l.call (.start tc)=l := if_pos h

/-- A session with an offer only records that offer. -/
theorem call_start_offer {l : Ledger} {tc : UInt32} (h : getBlocksToRead l.store tc≠0) :
    l.call (.start tc)={l with offered := (getBlocksToRead l.store tc).toNat,acked := 0} := if_neg h

/-- The held blocks after an accepted record. -/
theorem mem_put_held {held : List ℕ} {b x : ℕ} :
    x∈held.filter (·≠b)++[b] ↔ x∈held ∨ x=b := by
  simp only [List.mem_append,List.mem_filter,decide_eq_true_eq,List.mem_singleton,ne_eq]
  tauto

/-- The held blocks after an acknowledgement. -/
theorem mem_ack_held {held : List ℕ} {b x : ℕ} :
    x∈held.filter (·≠b) ↔ x∈held ∧ x≠b := by
  simp only [List.mem_filter,decide_eq_true_eq,ne_eq]

end VlfGateway.StoreLedger
