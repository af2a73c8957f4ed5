import VlfGateway.CyclicRing
import VlfGateway.SdCard

/-!
# The record store on the card

Block zero holds the two indexes, repeated four times. Records go to the
blocks from one on, which `next_block` walks as a ring: `write_index` is the
block written last and `read_index` the block that is read next. Every 32-bit
operation wraps as it does on the processor. The timer value and the card's
answers are inputs of the calls that depend on them.
-/

namespace VlfGateway.MemoryStore

open RecordChecksum SdCard

/-- `struct memory_indexes`. -/
structure MemoryIndexes where
  /-- Block written last. -/
  writeIndex : UInt32
  /-- Block read next. -/
  readIndex : UInt32
  deriving DecidableEq

/-- `INDEXES_LEN`, in octets. -/
def indexesLen : ℕ := 32

/-- `indexes_buf`. -/
structure IndexesBuf where
  /-- Octets of the index page. -/
  octets : List UInt8
  /-- The buffer holds `INDEXES_LEN` octets. -/
  size : octets.length=indexesLen

/-- The globals of the store together with the card. -/
structure Store where
  /-- The inserted card. -/
  card : Card
  /-- `memory_indexes`. -/
  indexes : MemoryIndexes
  /-- `last_write_time`. -/
  lastWriteTime : UInt32
  /-- `mem_buf`, shared by every read of a record. -/
  memBuf : Record
  /-- `indexes_buf`, shared by reads and writes of the index page. -/
  indexesBuf : IndexesBuf

/-- The value 0xFFFFFFFF that stands for an invalid index. -/
def invalidIndex : UInt32 := 0xFFFFFFFF

/-! ## Index page -/

/-- A later copy of the indexes agrees with the first one, offset by `i`. -/
def copyMatches (octets : List UInt8) (indexes : MemoryIndexes) (i : ℕ) : Bool :=
  wordAt octets i==indexes.readIndex+UInt32.ofNat i &&
    wordAt octets (i+1)==indexes.writeIndex+UInt32.ofNat i

/-- Indexes described by the first two words of a page. -/
def firstCopy (octets : List UInt8) : MemoryIndexes := ⟨wordAt octets 1,wordAt octets 0⟩

/-- `get_memory_indexes`: the result code and the store with the indexes and
the page buffer replaced. -/
def getMemoryIndexes (s : Store) (polls : List UInt8) : Bool × Store :=
  let octets := (diskRead s.card s.indexesBuf.octets indexesLen 0 polls).2
  let buf : IndexesBuf := ⟨octets,by
    rw [diskRead_length s.card 0 polls s.indexesBuf.size.ge]
    exact s.indexesBuf.size⟩
  if [2,4,6].all (copyMatches octets (firstCopy octets)) then
    (true,{s with indexes := firstCopy octets,indexesBuf := buf})
  else
    (false,{s with indexes := ⟨invalidIndex,invalidIndex⟩,indexesBuf := buf})

/-- Octets of the index page for a pair of indexes. -/
def indexesOctets (indexes : MemoryIndexes) : List UInt8 :=
  [0,2,4,6].flatMap fun i =>
    wordOctets (indexes.readIndex+UInt32.ofNat i)++wordOctets (indexes.writeIndex+UInt32.ofNat i)

/-- The page buffer after the copies have been laid out in it. -/
def indexesPage (indexes : MemoryIndexes) : IndexesBuf := ⟨indexesOctets indexes,rfl⟩

/-- `put_memory_indexes`. The outcome of the disk write is dropped. -/
def putMemoryIndexes (s : Store) (reply : WriteReply) : Bool × Store :=
  (true,{s with
    card := (diskWrite s.card (indexesPage s.indexes).octets indexesLen 0 reply).2
    indexesBuf := indexesPage s.indexes})

/-! ## Block control -/

/-- `is_block_valid`: the sector count is 64 bits wide, and so is the
comparison with it. -/
def isBlockValid (card : Card) (block : UInt32) : Bool :=
  !(block==0x00000000 || 0x007FFFFF<block || diskSectors card-1<block.toUInt64)

/-- `next_block`. -/
def nextBlock (card : Card) (currentBlock : UInt32) : UInt32 :=
  let next := currentBlock+1
  if isBlockValid card next then next else 0x00000001

/-- The last block of the ring, `min(0x7FFFFF, disk_sectors()-1)`. -/
def lastBlock (card : Card) : ℕ := min 0x007FFFFF (diskSectors card-1).toNat

/-! ## Reading and writing -/

/-- `get_sample`: the words of the record, or nothing after a read error or
a bad checksum, and the store with the shared buffer replaced. -/
def getSample (s : Store) (index : UInt32) (polls : List UInt8) :
    Option (Fin 6 → UInt32) × Store :=
  let read := diskRead s.card s.memBuf.octets memoryRecordSize index.toNat polls
  let memBuf : Record := ⟨read.2,by
    rw [diskRead_length s.card index.toNat polls s.memBuf.size.ge]
    exact s.memBuf.size⟩
  let after := {s with memBuf := memBuf}
  if read.1≠0 then (none,after)
  else if evaluateChecksum memBuf=false then (none,after)
  else (some memBuf.words,after)

/-- `get_current_read_block`. -/
def getCurrentReadBlock (s : Store) : UInt32 := s.indexes.readIndex

/-- `get_blocks_to_read` at timer value `tc`. -/
def getBlocksToRead (s : Store) (tc : UInt32) : UInt16 :=
  let blocks : ℤ := (s.indexes.writeIndex-s.indexes.readIndex).toInt32.toInt
  if blocks<0 then 0
  else if tc-s.lastWriteTime<3 then 0
  else if blocks<1000 then UInt16.ofNat blocks.toNat else 1000

/-- `put_sample` at timer value `tc`. The outcome of the record's disk write
is dropped. -/
def putSample (s : Store) (block : Record) (tc : UInt32) (data page : WriteReply) : Bool × Store :=
  let next := nextBlock s.card s.indexes.writeIndex
  if next≠s.indexes.readIndex then
    let written := {s with
      card := (diskWrite s.card block.octets memoryRecordSize next.toNat data).2
      indexes := {s.indexes with writeIndex := next}
      lastWriteTime := tc}
    (true,if next &&& 0x7=0 then (putMemoryIndexes written page).2 else written)
  else (false,s)

/-! ## Upload done -/

/-- `good_upload_done`. -/
def goodUploadDone (s : Store) (page : WriteReply) : Store :=
  let moved := {s with
    indexes := {s.indexes with readIndex := nextBlock s.card s.indexes.readIndex}}
  if moved.indexes.readIndex &&& 0x7=0 then (putMemoryIndexes moved page).2 else moved

/-- `bad_upload_done`. -/
def badUploadDone (s : Store) (polls : List UInt8) (page : WriteReply) : Store :=
  let read := diskRead s.card s.memBuf.octets memoryRecordSize s.indexes.readIndex.toNat polls
  let memBuf : Record := ⟨read.2,by
    rw [diskRead_length s.card s.indexes.readIndex.toNat polls s.memBuf.size.ge]
    exact s.memBuf.size⟩
  let after := {s with memBuf := memBuf}
  if read.1≠0 then after else goodUploadDone after page

/-! ## Initialisation -/

/-- The store when `memory_init` asks for the index page: the buffers are
still zero from boot and both indexes are invalid. -/
def bootStore (card : Card) : Store :=
  {card := card
   indexes := ⟨invalidIndex,invalidIndex⟩
   lastWriteTime := 0
   memBuf := Record.blank
   indexesBuf := ⟨List.replicate indexesLen 0,rfl⟩}

/-- Whether `get_memory_indexes` accepts the index page at boot. -/
def pageValid (card : Card) (polls : List UInt8) : Bool :=
  (getMemoryIndexes (bootStore card) polls).1

/-- `memory_init` on an inserted card. The result of `get_memory_indexes` is
dropped. -/
def memoryInit (card : Card) (polls : List UInt8) : Store :=
  (getMemoryIndexes (bootStore card) polls).2

/-- A card whose index page was written for `indexes` and whose other blocks
are erased. -/
def formattedCard (sectors : UInt64) (indexes : MemoryIndexes) : Card :=
  {sectors := sectors
   page := fun b => if b=0 then fillPage (indexesOctets indexes) indexesLen else fillPage [] 0}

/-- A card with every block erased, index page included. -/
def erasedCard (sectors : UInt64) : Card := ⟨sectors,fun _ => fillPage [] 0⟩

/-! ## What the operations do -/

/-- Valid blocks are exactly the positions of the ring. -/
theorem isBlockValid_iff (card : Card) (block : UInt32) :
    isBlockValid card block=true ↔ 1≤block.toNat ∧ block.toNat≤lastBlock card := by
  have h0 : block=0 ↔ block.toNat=0 := by
    rw [←UInt32.toNat_inj]
    rfl
  have hcap : (0x007FFFFF : UInt32)<block ↔ 0x007FFFFF<block.toNat := UInt32.lt_iff_toNat_lt
  have hdisk : diskSectors card-1<block.toUInt64 ↔ (diskSectors card-1).toNat<block.toNat := by
    rw [UInt64.lt_iff_toNat_lt,UInt32.toNat_toUInt64]
  simp only [isBlockValid,lastBlock,Bool.not_eq_true',Bool.or_eq_false_iff,beq_eq_false_iff_ne,
    decide_eq_false_iff_not,ne_eq,h0,hcap,hdisk]
  omega

/-- `next_block` is the ring successor for every 32-bit start value; at
0xFFFFFFFF the increment wraps to the reserved block zero. -/
theorem nextBlock_toNat (card : Card) (c : UInt32) :
    (nextBlock card c).toNat=CyclicRing.next (lastBlock card) c.toNat := by
  have hlt := c.toNat_lt
  have hcap : lastBlock card≤0x007FFFFF := Nat.min_le_left _ _
  have hadd : (c+1).toNat=(c.toNat+1)%2^32 := UInt32.toNat_add c 1
  have hv := isBlockValid_iff card (c+1)
  rw [hadd] at hv
  unfold nextBlock
  dsimp only
  by_cases hend : c.toNat<lastBlock card
  · rw [CyclicRing.next_of_lt hend,if_pos (hv.mpr (by omega)),hadd]
    omega
  · rw [CyclicRing.next_of_le (by omega),if_neg (fun h => by have hb := hv.mp h; omega)]
    rfl

/-- Block numbers are a code of the ring that `next_block` follows. -/
theorem nextBlock_semiconj (card : Card) :
    Function.Semiconj UInt32.toNat (nextBlock card) (CyclicRing.next (lastBlock card)) :=
  nextBlock_toNat card

/-- Repeated `next_block` is the repeated ring successor. -/
theorem iterate_nextBlock_toNat (card : Card) (c : UInt32) (k : ℕ) :
    ((nextBlock card)^[k] c).toNat=(CyclicRing.next (lastBlock card))^[k] c.toNat :=
  (nextBlock_semiconj card).iterate_right k c

/-- The ring never leaves the driver's address space. -/
theorem lastBlock_le (card : Card) : lastBlock card≤0x007FFFFF := Nat.min_le_left _ _

/-- `next_block` yields an addressable block and never the index page. -/
theorem nextBlock_bounds (card : Card) (c : UInt32) :
    (nextBlock card c).toNat≠0 ∧ (nextBlock card c).toNat≤0x007FFFFF := by
  have hcap := lastBlock_le card
  rw [nextBlock_toNat]
  unfold CyclicRing.next
  split <;> omega

/-- Rewriting the index page keeps the sector count. -/
@[simp] theorem putMemoryIndexes_sectors (s : Store) (reply : WriteReply) :
    (putMemoryIndexes s reply).2.card.sectors=s.card.sectors :=
  diskWrite_sectors _ _ _ _ _

/-- Rewriting the index page touches block zero only. -/
theorem putMemoryIndexes_page {b : ℕ} (s : Store) (reply : WriteReply) (hb : b≠0) :
    (putMemoryIndexes s reply).2.card.page b=s.card.page b :=
  diskWrite_page_of_ne _ _ _ _ hb

/-- Cards with the same sector count have the same ring. -/
theorem lastBlock_congr {a b : Card} (h : a.sectors=b.sectors) : lastBlock a=lastBlock b := by
  unfold lastBlock diskSectors
  rw [h]

/-- Cards with the same sector count have the same successor. -/
theorem nextBlock_congr {a b : Card} (h : a.sectors=b.sectors) : nextBlock a=nextBlock b := by
  funext c
  unfold nextBlock isBlockValid diskSectors
  rw [h]

/-- `put_sample` accepts exactly when the next block is not the read block. -/
theorem putSample_accepts_iff (s : Store) (block : Record) (tc : UInt32) (data page : WriteReply) :
    (putSample s block tc data page).1=true ↔
      nextBlock s.card s.indexes.writeIndex≠s.indexes.readIndex := by
  unfold putSample
  dsimp only
  by_cases h : nextBlock s.card s.indexes.writeIndex≠s.indexes.readIndex
  · rw [if_pos h]
    exact ⟨fun _ => h,fun _ => rfl⟩
  · rw [if_neg h]
    exact ⟨fun hf => absurd hf Bool.false_ne_true,fun hn => absurd hn h⟩

/-- A refused record leaves the store alone. -/
theorem putSample_refused {s : Store} (block : Record) (tc : UInt32) (data page : WriteReply)
    (h : nextBlock s.card s.indexes.writeIndex=s.indexes.readIndex) :
    putSample s block tc data page=(false,s) := if_neg (by rw [h]; exact fun hn => hn rfl)

/-- An accepted record moves the write index to the next block and nothing
else among the indexes. -/
theorem putSample_indexes {s : Store} (block : Record) (tc : UInt32) (data page : WriteReply)
    (h : nextBlock s.card s.indexes.writeIndex≠s.indexes.readIndex) :
    (putSample s block tc data page).2.indexes=
      ⟨nextBlock s.card s.indexes.writeIndex,s.indexes.readIndex⟩ := by
  unfold putSample
  dsimp only
  rw [if_pos h]
  dsimp only
  split <;> rfl

/-- `put_sample` never changes the sector count. -/
@[simp] theorem putSample_sectors (s : Store) (block : Record) (tc : UInt32)
    (data page : WriteReply) :
    (putSample s block tc data page).2.card.sectors=s.card.sectors := by
  unfold putSample
  dsimp only
  split
  · dsimp only
    split <;> simp only [putMemoryIndexes_sectors,diskWrite_sectors]
  · rfl

/-- An accepted record sets the time of the last write. -/
theorem putSample_time {s : Store} (block : Record) (tc : UInt32) (data page : WriteReply)
    (h : nextBlock s.card s.indexes.writeIndex≠s.indexes.readIndex) :
    (putSample s block tc data page).2.lastWriteTime=tc := by
  unfold putSample
  dsimp only
  rw [if_pos h]
  dsimp only
  split <;> rfl

/-- The card after an accepted record, seen away from the index page, is the
card after the record's own write. -/
theorem putSample_page {s : Store} {b : ℕ} (block : Record) (tc : UInt32)
    (data page : WriteReply) (h : nextBlock s.card s.indexes.writeIndex≠s.indexes.readIndex)
    (hb : b≠0) :
    (putSample s block tc data page).2.card.page b=
      (diskWrite s.card block.octets memoryRecordSize
        (nextBlock s.card s.indexes.writeIndex).toNat data).2.page b := by
  unfold putSample
  dsimp only
  rw [if_pos h]
  dsimp only
  split
  · exact putMemoryIndexes_page _ _ hb
  · rfl

/-- `good_upload_done` moves the read index to the next block and nothing
else among the indexes. -/
@[simp] theorem goodUploadDone_indexes (s : Store) (page : WriteReply) :
    (goodUploadDone s page).indexes=
      ⟨s.indexes.writeIndex,nextBlock s.card s.indexes.readIndex⟩ := by
  unfold goodUploadDone
  dsimp only
  split <;> rfl

/-- `good_upload_done` leaves the time of the last write. -/
theorem goodUploadDone_time (s : Store) (page : WriteReply) :
    (goodUploadDone s page).lastWriteTime=s.lastWriteTime := by
  unfold goodUploadDone
  dsimp only
  split <;> rfl

/-- `good_upload_done` never changes the sector count. -/
@[simp] theorem goodUploadDone_sectors (s : Store) (page : WriteReply) :
    (goodUploadDone s page).card.sectors=s.card.sectors := by
  unfold goodUploadDone
  dsimp only
  split
  · exact putMemoryIndexes_sectors _ _
  · rfl

/-- `good_upload_done` writes to no block but the index page. -/
theorem goodUploadDone_page {b : ℕ} (s : Store) (page : WriteReply) (hb : b≠0) :
    (goodUploadDone s page).card.page b=s.card.page b := by
  unfold goodUploadDone
  dsimp only
  split
  · exact putMemoryIndexes_page _ _ hb
  · rfl

/-- A 32-bit word read as a signed number. -/
theorem toInt32_toInt (x : UInt32) :
    x.toInt32.toInt=if x.toNat<2^31 then (x.toNat : ℤ) else x.toNat-2^32 := by
  change x.toBitVec.toInt=_
  rw [BitVec.toInt_eq_toNat_cond]
  change (if 2*x.toNat<2^32 then (x.toNat : ℤ) else x.toNat-(2^32 : ℕ))=_
  split <;> split <;> push_cast <;> omega

/-- The number of blocks offered: nothing when the 32-bit difference is
negative as a signed number or a record was written less than three seconds
ago, otherwise the difference up to a thousand. -/
theorem getBlocksToRead_toNat (s : Store) (tc : UInt32) :
    (getBlocksToRead s tc).toNat=
      if (s.indexes.writeIndex-s.indexes.readIndex).toNat<2^31 ∧ 3≤(tc-s.lastWriteTime).toNat
      then min 1000 (s.indexes.writeIndex-s.indexes.readIndex).toNat else 0 := by
  have htime : tc-s.lastWriteTime<3 ↔ (tc-s.lastWriteTime).toNat<3 := UInt32.lt_iff_toNat_lt
  have hword := (s.indexes.writeIndex-s.indexes.readIndex).toNat_lt
  unfold getBlocksToRead
  dsimp only
  rw [toInt32_toInt]
  generalize (s.indexes.writeIndex-s.indexes.readIndex).toNat=d at hword ⊢
  by_cases hneg : d<2^31
  · rw [if_pos hneg,if_neg (by omega)]
    by_cases hrecent : (tc-s.lastWriteTime).toNat<3
    · rw [if_pos (htime.mpr hrecent),if_neg (by omega)]
      rfl
    · have hoffer : d<2^31 ∧ 3≤(tc-s.lastWriteTime).toNat := ⟨hneg,by omega⟩
      rw [if_neg (fun h => hrecent (htime.mp h)),if_pos hoffer]
      by_cases hmany : d<1000
      · rw [if_pos (by omega),Int.toNat_natCast,UInt16.toNat_ofNat_of_lt' (hmany.trans (by decide))]
        omega
      · rw [if_neg (by omega)]
        change 1000=_
        omega
  · rw [if_neg hneg,if_pos (by omega),if_neg (by omega)]
    rfl

/-- With the write index ahead the offer is the plain difference, up to a
thousand. -/
theorem getBlocksToRead_ahead {s : Store} {tc : UInt32}
    (hle : s.indexes.readIndex.toNat ≤ s.indexes.writeIndex.toNat)
    (hcap : s.indexes.writeIndex.toNat≤0x007FFFFF) (htime : 3≤(tc-s.lastWriteTime).toNat) :
    (getBlocksToRead s tc).toNat=
      min 1000 (s.indexes.writeIndex.toNat-s.indexes.readIndex.toNat) := by
  have hdiff : (s.indexes.writeIndex-s.indexes.readIndex).toNat=
      s.indexes.writeIndex.toNat-s.indexes.readIndex.toNat :=
    UInt32.toNat_sub_of_le _ _ (UInt32.le_iff_toNat_le.mpr hle)
  rw [getBlocksToRead_toNat,hdiff,if_pos ⟨by omega,htime⟩]

/-- With the write index behind, as after a wrap, nothing is offered. -/
theorem getBlocksToRead_behind {s : Store} {tc : UInt32}
    (hlt : s.indexes.writeIndex.toNat<s.indexes.readIndex.toNat)
    (hcap : s.indexes.readIndex.toNat≤0x007FFFFF) : (getBlocksToRead s tc).toNat=0 := by
  have hw := s.indexes.writeIndex.toNat_lt
  have hdiff : (s.indexes.writeIndex-s.indexes.readIndex).toNat=
      (2^32-s.indexes.readIndex.toNat+s.indexes.writeIndex.toNat)%2^32 := UInt32.toNat_sub _ _
  rw [getBlocksToRead_toNat,hdiff,if_neg (by omega)]

/-- Inside the ring a nonempty offer starts at the read index and ends before
the write index. -/
theorem getBlocksToRead_bound {s : Store} {tc : UInt32}
    (hr : s.indexes.readIndex.toNat≤0x007FFFFF) (hw : s.indexes.writeIndex.toNat≤0x007FFFFF)
    (hpos : getBlocksToRead s tc≠0) :
    s.indexes.readIndex.toNat+(getBlocksToRead s tc).toNat ≤ s.indexes.writeIndex.toNat := by
  have hne : (getBlocksToRead s tc).toNat≠0 := fun h => hpos (UInt16.toNat_inj.mp h)
  have htime : 3≤(tc-s.lastWriteTime).toNat := by
    by_contra hrecent
    rw [getBlocksToRead_toNat,if_neg (fun h => hrecent h.2)] at hne
    exact hne rfl
  by_cases hle : s.indexes.readIndex.toNat ≤ s.indexes.writeIndex.toNat
  · rw [getBlocksToRead_ahead hle hw htime]
    omega
  · exact absurd (getBlocksToRead_behind (by omega) hr) hne

/-- An offer is only made when the indexes differ. -/
theorem getBlocksToRead_ne {s : Store} {tc : UInt32} (hpos : getBlocksToRead s tc≠0) :
    s.indexes.readIndex≠s.indexes.writeIndex := by
  intro he
  have hne : (getBlocksToRead s tc).toNat≠0 := fun h => hpos (UInt16.toNat_inj.mp h)
  rw [getBlocksToRead_toNat,he,UInt32.sub_self] at hne
  simp only [UInt32.toNat_zero,Nat.min_zero,ite_self,ne_eq,not_true_eq_false] at hne

/-- A readable block is loaded into the shared buffer and returned when its
checksum is right. -/
theorem getSample_of_ready (s : Store) {index : UInt32} {polls : List UInt8}
    (hb : index.toNat≤0x007FFFFF) (hc : cmd polls=0) :
    getSample s index polls=
      (if evaluateChecksum (s.card.page index.toNat).record
        then some (s.card.page index.toNat).record.words else none,
      {s with memBuf := (s.card.page index.toNat).record}) := by
  have hbuf : blockRead s.card s.memBuf.octets memoryRecordSize index.toNat=
      (s.card.page index.toNat).record.octets := by
    unfold blockRead Page.record
    rw [List.drop_of_length_le s.memBuf.size.le,List.append_nil]
  have hread : diskRead s.card s.memBuf.octets memoryRecordSize index.toNat polls=
      (0,blockRead s.card s.memBuf.octets memoryRecordSize index.toNat) :=
    diskRead_of_ready (by decide) hb hc
  have hmem : ∀ h,(⟨(diskRead s.card s.memBuf.octets memoryRecordSize index.toNat polls).2,h⟩ :
      Record)=(s.card.page index.toNat).record := by
    intro h
    apply Record.ext_octets
    dsimp only
    rw [hread,hbuf]
  unfold getSample
  dsimp only
  rw [hmem,hread]
  dsimp only
  rw [if_neg (fun h => h rfl)]
  cases evaluateChecksum (s.card.page index.toNat).record <;> rfl

/-- `get_sample` changes nothing but the shared buffer. -/
theorem getSample_store (s : Store) (index : UInt32) (polls : List UInt8) :
    (getSample s index polls).2={s with memBuf := (getSample s index polls).2.memBuf} := by
  unfold getSample
  dsimp only
  split
  · rfl
  · split <;> rfl

/-- `memory_init` keeps the inserted card. -/
theorem memoryInit_card (card : Card) (polls : List UInt8) :
    (memoryInit card polls).card=card := by
  unfold memoryInit getMemoryIndexes
  dsimp only
  split <;> rfl

/-- After a rejected index page both indexes are invalid. -/
theorem memoryInit_of_invalid {card : Card} {polls : List UInt8} (h : pageValid card polls=false) :
    (memoryInit card polls).indexes=⟨invalidIndex,invalidIndex⟩ := by
  unfold pageValid getMemoryIndexes at h
  unfold memoryInit getMemoryIndexes
  dsimp only at h ⊢
  split at h
  · exact absurd h Bool.noConfusion
  · rw [if_neg (by assumption)]

/-! ## Reading the index page back -/

/-- The octets of block zero that make up the index page. -/
def pageOctets (card : Card) : List UInt8 := (card.page 0).octets.take indexesLen

/-- The page that was read is accepted by its copies, and the indexes are the
first of them. -/
theorem getMemoryIndexes_of_read {s : Store} {polls octets : List UInt8}
    (h : (diskRead s.card s.indexesBuf.octets indexesLen 0 polls).2=octets) :
    (getMemoryIndexes s polls).1=[2,4,6].all (copyMatches octets (firstCopy octets)) ∧
      ((getMemoryIndexes s polls).1=true →
        (getMemoryIndexes s polls).2.indexes=firstCopy octets) := by
  subst h
  unfold getMemoryIndexes
  dsimp only
  split
  · next hall => exact ⟨hall.symm,fun _ => rfl⟩
  · next hall =>
    exact ⟨(Bool.eq_false_of_not_eq_true hall).symm,fun h => absurd h Bool.false_ne_true⟩

/-- From a ready card the page is read into the buffer. -/
theorem diskRead_indexes (s : Store) {polls : List UInt8} (hc : cmd polls=0) :
    (diskRead s.card s.indexesBuf.octets indexesLen 0 polls).2=pageOctets s.card := by
  rw [diskRead_of_ready (by decide) (by decide) hc]
  unfold blockRead pageOctets
  dsimp only
  rw [List.drop_of_length_le s.indexesBuf.size.le,List.append_nil]

/-- A page accepted at boot was read from a ready card: the buffer is zero
before, and zeros are no valid page. -/
theorem ready_of_pageValid {card : Card} {polls : List UInt8} (h : pageValid card polls=true) :
    cmd polls=0 := by
  by_contra hc
  have hread : (diskRead (bootStore card).card (bootStore card).indexesBuf.octets indexesLen 0
      polls).2=List.replicate indexesLen 0 := by
    unfold diskRead
    rw [if_neg (by decide),if_neg (by decide),if_pos hc]
    rfl
  rw [pageValid,(getMemoryIndexes_of_read hread).1] at h
  revert h
  decide

/-- The first copy on a written page. -/
theorem firstCopy_indexesOctets (indexes : MemoryIndexes) :
    firstCopy (indexesOctets indexes)=indexes := by
  have hread : wordAt (indexesOctets indexes) 0=indexes.readIndex+0 := wordAt_wordOctets _
  have hwrite : wordAt (indexesOctets indexes) 1=indexes.writeIndex+0 := wordAt_wordOctets _
  rw [firstCopy,hread,hwrite,UInt32.add_zero,UInt32.add_zero]

/-- The later copies on a written page agree with the first one. -/
theorem copyMatches_indexesOctets (indexes : MemoryIndexes) :
    [2,4,6].all (copyMatches (indexesOctets indexes) indexes)=true := by
  have hcopy : ∀ i read write,wordAt (indexesOctets indexes) i=wordAt (wordOctets read) 0 →
      wordAt (indexesOctets indexes) (i+1)=wordAt (wordOctets write) 0 →
      read=indexes.readIndex+UInt32.ofNat i → write=indexes.writeIndex+UInt32.ofNat i →
      copyMatches (indexesOctets indexes) indexes i=true := by
    intro i read write hread hwrite hr hw
    rw [copyMatches,hread,hwrite,wordAt_wordOctets,wordAt_wordOctets,hr,hw,BEq.rfl,BEq.rfl]
    rfl
  rw [List.all_eq_true]
  intro i hi
  rcases List.mem_cons.mp hi with rfl|hi
  · exact hcopy 2 _ _ rfl rfl rfl rfl
  rcases List.mem_cons.mp hi with rfl|hi
  · exact hcopy 4 _ _ rfl rfl rfl rfl
  · rw [List.mem_singleton.mp hi]
    exact hcopy 6 _ _ rfl rfl rfl rfl

/-- A written page holds the octets of its indexes. -/
theorem pageOctets_of_written {card : Card} {indexes : MemoryIndexes}
    (h : card.page 0=fillPage (indexesOctets indexes) indexesLen) :
    pageOctets card=indexesOctets indexes := by
  rw [pageOctets,h]
  rfl

/-! ## The whole ring -/

/-- On a card with a block for records the last block is the cap of the
address space or the last sector, without a wrap of the 64-bit count. -/
theorem lastBlock_eq {card : Card} (hS : 2≤diskSectors card) :
    lastBlock card=min 0x007FFFFF ((diskSectors card).toNat-1) := by
  have hone : (1 : UInt64)≤diskSectors card := UInt64.le_trans (by decide) hS
  rw [lastBlock,UInt64.toNat_sub_of_le _ _ hone]
  rfl

/-- `next_block` sends every 32-bit value to a block of `1..M`, and on these
blocks it is one cycle of length `M` that never meets the index page. -/
theorem nextBlock_walks_ring (card : Card) (M : ℕ) (hS : 2≤diskSectors card)
    (hM : M=min 0x007FFFFF ((diskSectors card).toNat-1)) :
    (∀ c : UInt32,1≤(nextBlock card c).toNat ∧ (nextBlock card c).toNat≤M) ∧
    Set.BijOn (nextBlock card) {c | 1≤c.toNat ∧ c.toNat≤M} {c | 1≤c.toNat ∧ c.toNat≤M} ∧
    ∀ c : UInt32,1≤c.toNat → c.toNat≤M →
      Function.minimalPeriod (nextBlock card) c=M ∧
      (∀ b : UInt32,1≤b.toNat → b.toNat≤M → ∃! k,k<M ∧ (nextBlock card)^[k] c=b) ∧
      (nextBlock card)^[M] c=c ∧
      ∀ k,(nextBlock card)^[k] c≠0 := by
  have htwo : 2≤(diskSectors card).toNat := UInt64.le_iff_toNat_le.mp hS
  have hpos : 1≤M := by omega
  have hcode : Function.Injective UInt32.toNat := fun _ _ => UInt32.toNat_inj.mp
  have hf : Function.Semiconj UInt32.toNat (nextBlock card) (CyclicRing.next M) := by
    rw [hM,←lastBlock_eq hS]
    exact nextBlock_semiconj card
  have hbij := CyclicRing.Coded.bijOn hcode hf hpos
  refine ⟨CyclicRing.Coded.apply_mem hf hpos,hbij,?_⟩
  intro c hc hcM
  have hperiod := CyclicRing.Coded.minimalPeriod_eq hcode hf ⟨hc,hcM⟩
  refine ⟨hperiod,fun b hb hbM =>
    CyclicRing.Coded.existsUnique_iterate hcode hf ⟨hc,hcM⟩ ⟨hb,hbM⟩,?_,?_⟩
  · have hturn : (nextBlock card)^[Function.minimalPeriod (nextBlock card) c] c=c :=
      Function.iterate_minimalPeriod
    rwa [hperiod] at hturn
  · intro k hzero
    have hmem := hbij.mapsTo.iterate k (show c∈CyclicRing.positions UInt32.toNat M from ⟨hc,hcM⟩)
    rw [hzero] at hmem
    exact absurd hmem.1 (by decide)

/-- A card of four sectors has the ring of the blocks one to three. -/
theorem nextBlock_walks_ring_three :
    Function.minimalPeriod (nextBlock (erasedCard 4)) 2=3 ∧
    (nextBlock (erasedCard 4))^[3] 2=2 := by
  have hwalk := (nextBlock_walks_ring (erasedCard 4) 3 (by decide) rfl).2.2 2 (by decide) (by decide)
  exact ⟨hwalk.1,hwalk.2.2.1⟩

end VlfGateway.MemoryStore
