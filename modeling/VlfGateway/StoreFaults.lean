import VlfGateway.SampleWriter
import VlfGateway.StepPath

/-!
# Store calls when the card does not do its part

`put_sample` drops what `disk_write` reports, and `disk_write` drops the data
response that `_block_write` has checked, so a record the card refused is
counted like a stored one. `disk_read` reports success for a block outside its
address space without reading it, so `get_sample` then judges whatever the
shared buffer still holds.
-/

namespace VlfGateway.StoreFaults

open RecordChecksum SdCard MemoryStore StepPath

/-! ## Writing -/

/-- Whether the call puts the record on the card: it has to find room, and the
card has to take both the command and the data. -/
def recordWritten (s : Store) (data : WriteReply) : Bool :=
  decide (nextBlock s.card s.indexes.writeIndex≠s.indexes.readIndex) && data.accepted

/-- Success means that the block of the new write index holds the record, and
a record that was not written is reported and changes neither the indexes nor
the time of the last write. -/
def AtomicPut (s : Store) (block : Record) (tc : UInt32) (data page : WriteReply) : Prop :=
  let result := putSample s block tc data page
  (result.1=true → (result.2.card.page result.2.indexes.writeIndex.toNat).record=block) ∧
  (recordWritten s data=false →
    result.1=false ∧ result.2.indexes=s.indexes ∧ result.2.lastWriteTime=s.lastWriteTime)

/-- A record the card has taken is in the block of the new write index,
whatever happens to the index page. -/
theorem putSample_holds {s : Store} (block : Record) (tc : UInt32) {data : WriteReply}
    (page : WriteReply) (hroom : nextBlock s.card s.indexes.writeIndex≠s.indexes.readIndex)
    (haccepted : data.accepted=true) :
    ((putSample s block tc data page).2.card.page
      (putSample s block tc data page).2.indexes.writeIndex.toNat).record=block := by
  obtain ⟨hfirst,hlast⟩ := nextBlock_bounds s.card s.indexes.writeIndex
  rw [putSample_indexes block tc data page hroom,putSample_page block tc data page hroom hfirst,
    diskWrite_card (by decide) hlast,if_pos haccepted]
  dsimp only
  rw [Function.update_self]
  exact fillPage_record block

/-- `put_sample` is atomic exactly when the ring is full or the card takes the
record. -/
theorem putSample_atomic_iff (s : Store) (block : Record) (tc : UInt32) (data page : WriteReply) :
    AtomicPut s block tc data page ↔
      nextBlock s.card s.indexes.writeIndex=s.indexes.readIndex ∨ data.accepted=true := by
  unfold AtomicPut
  dsimp only
  by_cases hroom : nextBlock s.card s.indexes.writeIndex=s.indexes.readIndex
  · rw [putSample_refused block tc data page hroom]
    exact ⟨fun _ => Or.inl hroom,fun _ => ⟨fun h => absurd h Bool.false_ne_true,fun _ => ⟨rfl,rfl,rfl⟩⟩⟩
  · have hok := (putSample_accepts_iff s block tc data page).mpr hroom
    constructor
    · rintro ⟨_,hreported⟩
      right
      by_contra hrefused
      have hlost : recordWritten s data=false := by
        rw [recordWritten,Bool.eq_false_of_not_eq_true hrefused,Bool.and_false]
      exact Bool.false_ne_true ((hreported hlost).1.symm.trans hok)
    · rintro (hfull|haccepted)
      · exact absurd hfull hroom
      · refine ⟨fun _ => putSample_holds block tc page hroom haccepted,fun hlost => ?_⟩
        rw [recordWritten,decide_eq_true hroom,haccepted] at hlost
        exact absurd hlost Bool.noConfusion

/-- An answer in which the card takes the command and refuses the data. -/
def refusedData : WriteReply := ⟨[0x00],0x0D⟩

/-- Data the card takes is stored even when the index page is refused. -/
theorem putSample_atomic_accepted :
    AtomicPut (memoryInit (formattedCard 11 ⟨7,1⟩) [0x00]) Record.blank 5 .good refusedData :=
  (putSample_atomic_iff _ _ _ _ _).mpr (Or.inr (by decide))

/-- A record whose data the card refuses is reported as stored: the write
index and the time of the last write move, and the block keeps what it
held. -/
theorem refused_record_reported_stored :
    recordWritten (memoryInit (formattedCard 11 ⟨1,1⟩) [0x00]) refusedData=false ∧
    (putSample (memoryInit (formattedCard 11 ⟨1,1⟩) [0x00]) Record.blank 5 refusedData .good).1=true ∧
    (putSample (memoryInit (formattedCard 11 ⟨1,1⟩) [0x00]) Record.blank 5 refusedData
      .good).2.indexes=⟨2,1⟩ ∧
    (putSample (memoryInit (formattedCard 11 ⟨1,1⟩) [0x00]) Record.blank 5 refusedData
      .good).2.lastWriteTime=5 ∧
    ((putSample (memoryInit (formattedCard 11 ⟨1,1⟩) [0x00]) Record.blank 5 refusedData
      .good).2.card.page 2).record.octets≠Record.blank.octets := by
  decide

/-! ## Reading -/

/-- What `get_sample` points to is the front of the block it was asked for,
with a valid checksum. The pointer is to the shared buffer of the store it
leaves behind. -/
def FreshSample (s : Store) (index : UInt32) (polls : List UInt8) (after : Store) : Prop :=
  (getSample s index polls).1≠none →
    after.memBuf=(s.card.page index.toNat).record ∧
      evaluateChecksum (s.card.page index.toNat).record=true

/-- Outside the address space nothing is read, and the shared buffer is judged
as it is. -/
theorem getSample_of_beyond (s : Store) {index : UInt32} (polls : List UInt8)
    (hb : 0x007FFFFF < index.toNat) :
    getSample s index polls=
      (if evaluateChecksum s.memBuf then some s.memBuf.words else none,s) := by
  have hread : diskRead s.card s.memBuf.octets memoryRecordSize index.toNat polls=
      (0,s.memBuf.octets) := by
    unfold diskRead
    rw [if_neg (by decide),if_pos hb]
  have hmem : ∀ h,(⟨(diskRead s.card s.memBuf.octets memoryRecordSize index.toNat polls).2,h⟩ :
      Record)=s.memBuf := by
    intro h
    apply Record.ext_octets
    dsimp only
    rw [hread]
  unfold getSample
  dsimp only
  rw [hmem,hread]
  dsimp only
  rw [if_neg (fun h => h rfl)]
  cases evaluateChecksum s.memBuf <;> rfl

/-- Without an answer from the card nothing is returned. -/
theorem getSample_of_silent (s : Store) {index : UInt32} {polls : List UInt8}
    (hb : index.toNat≤0x007FFFFF) (hc : cmd polls≠0) : (getSample s index polls).1=none := by
  have hread : (diskRead s.card s.memBuf.octets memoryRecordSize index.toNat polls).1=1 := by
    unfold diskRead
    rw [if_neg (by decide),if_neg (by omega),if_pos hc]
  unfold getSample
  dsimp only
  rw [if_pos (by rw [hread]; exact Nat.one_ne_zero)]

/-- A sample is fresh exactly when its block can be addressed, the buffer
holds nothing valid, or the buffer happens to hold that very block. -/
theorem freshSample_iff (s : Store) (index : UInt32) (polls : List UInt8) :
    FreshSample s index polls (getSample s index polls).2 ↔
      index.toNat≤0x007FFFFF ∨ evaluateChecksum s.memBuf=false ∨
        s.memBuf=(s.card.page index.toNat).record := by
  unfold FreshSample
  by_cases hb : index.toNat≤0x007FFFFF
  · refine ⟨fun _ => Or.inl hb,fun _ hsome => ?_⟩
    by_cases hc : cmd polls=0
    · rw [getSample_of_ready s hb hc] at hsome ⊢
      cases hvalid : evaluateChecksum (s.card.page index.toNat).record with
      | true => exact ⟨rfl,rfl⟩
      | false =>
        rw [hvalid] at hsome
        exact absurd rfl hsome
    · exact absurd (getSample_of_silent s hb hc) hsome
  · rw [getSample_of_beyond s polls (by omega)]
    dsimp only
    cases hvalid : evaluateChecksum s.memBuf with
    | false => exact ⟨fun _ => Or.inr (Or.inl rfl),fun _ h => absurd rfl h⟩
    | true =>
      constructor
      · exact fun hfresh => Or.inr (Or.inr (hfresh (Option.some_ne_none _)).1)
      · rintro (haddress|hinvalid|hsame) _
        · exact absurd haddress hb
        · exact absurd hinvalid Bool.noConfusion
        · exact ⟨hsame,by rw [←hsame,hvalid]⟩

/-! ## Runs of store calls -/

/-- A call on the store that a session or the main loop makes. -/
inductive SampleCall where
  /-- `get_sample`, for any index. -/
  | getSample (index : UInt32) (polls : List UInt8)
  /-- `bad_upload_done`. -/
  | badUploadDone (polls : List UInt8) (page : WriteReply)
  /-- `good_upload_done`. -/
  | goodUploadDone (page : WriteReply)
  /-- `put_sample`. -/
  | putSample (block : Record) (tc : UInt32) (data page : WriteReply)

/-- Effect of a call on the store. -/
def sampleCall (s : Store) : SampleCall → Store
  | .getSample index polls => (getSample s index polls).2
  | .badUploadDone polls page => badUploadDone s polls page
  | .goodUploadDone page => goodUploadDone s page
  | .putSample block tc data page => (putSample s block tc data page).2

/-- What a call returns is fresh. Only `get_sample` returns a record. -/
def ReturnsFresh (s : Store) (call : SampleCall) (after : Store) : Prop :=
  match call with
  | .getSample index polls => FreshSample s index polls after
  | _ => True

/-- The index can be addressed, or the shared buffer cannot be taken for
another block's record. -/
def BufferHarmless (s : Store) : SampleCall → Prop
  | .getSample index _ =>
    index.toNat≤0x007FFFFF ∨ evaluateChecksum s.memBuf=false ∨
      s.memBuf=(s.card.page index.toNat).record
  | _ => True

/-- One call returns a fresh record exactly when it meets the condition. -/
theorem returnsFresh_iff (s : Store) (call : SampleCall) :
    ReturnsFresh s call (sampleCall s call) ↔ BufferHarmless s call := by
  cases call with
  | getSample index polls => exact freshSample_iff s index polls
  | badUploadDone polls page => exact Iff.rfl
  | goodUploadDone page => exact Iff.rfl
  | putSample block tc data page => exact Iff.rfl

/-- In every run of store calls after `memory_init`, on every card, all
returned records are fresh exactly when every call met the condition in the
state before it. -/
theorem samples_fresh_iff {card : Card} {polls : List UInt8} {s : Store}
    {ts : List (Transition Store SampleCall)}
    (h : Path (stepOf (fun _ _ => True) sampleCall) (memoryInit card polls) ts s) :
    (∀ t∈ts,ReturnsFresh t.before t.label t.after) ↔ ∀ t∈ts,BufferHarmless t.before t.label := by
  refine h.guarded_iff (fun _ => True) BufferHarmless ReturnsFresh trivial ?_ ?_
  · rintro s call _ _ ⟨_,rfl⟩ hcond
    exact ⟨trivial,(returnsFresh_iff s call).mpr hcond⟩
  · rintro s call _ _ ⟨_,rfl⟩ hcond hfresh
    exact hcond ((returnsFresh_iff s call).mp hfresh)

/-- A card with no valid index page and one sample in block one. -/
def sampleCard : Card :=
  ⟨11,fun b => if b=1 then
    fillPage (SampleWriter.sampleBlock 0 0 0 0 Record.blank).octets memoryRecordSize
    else fillPage [] 0⟩

/-- The store after one session has read the sample on that card, at the read
index plus two. -/
def sampleReadStore : Store :=
  (getSample (memoryInit sampleCard [0x00])
    ((memoryInit sampleCard [0x00]).indexes.readIndex+2) [0x00]).2

/-- The run that reads the sample. -/
theorem sampleReadStore_path :
    Path (stepOf (fun _ _ => True) sampleCall) (memoryInit sampleCard [0x00])
      [⟨memoryInit sampleCard [0x00],
        .getSample ((memoryInit sampleCard [0x00]).indexes.readIndex+2) [0x00],sampleReadStore⟩]
      sampleReadStore :=
  Path.snoc .nil ⟨trivial,rfl⟩

/-- In that run the sample is served fresh. -/
theorem samples_fresh_read :
    Path (stepOf (fun _ _ => True) sampleCall) (memoryInit sampleCard [0x00])
      [⟨memoryInit sampleCard [0x00],
        .getSample ((memoryInit sampleCard [0x00]).indexes.readIndex+2) [0x00],sampleReadStore⟩]
      sampleReadStore ∧
    ∀ t∈[(⟨memoryInit sampleCard [0x00],
        .getSample ((memoryInit sampleCard [0x00]).indexes.readIndex+2) [0x00],sampleReadStore⟩ :
        Transition Store SampleCall)],ReturnsFresh t.before t.label t.after := by
  refine ⟨sampleReadStore_path,(samples_fresh_iff sampleReadStore_path).mpr ?_⟩
  intro t ht
  rw [List.mem_singleton.mp ht]
  exact Or.inl (by decide)

/-- The next session starts at the read index, which is the invalid index,
and is given the sample of block one for it. -/
theorem stale_sample_served :
    Path (stepOf (fun _ _ => True) sampleCall) (memoryInit sampleCard [0x00])
      [⟨memoryInit sampleCard [0x00],
        .getSample ((memoryInit sampleCard [0x00]).indexes.readIndex+2) [0x00],sampleReadStore⟩]
      sampleReadStore ∧
    sampleReadStore.indexes.readIndex=invalidIndex ∧
    (getSample sampleReadStore invalidIndex [0x00]).1=
      some (SampleWriter.sampleBlock 0 0 0 0 Record.blank).words ∧
    evaluateChecksum (sampleReadStore.card.page invalidIndex.toNat).record=false ∧
    ¬ReturnsFresh sampleReadStore (.getSample invalidIndex [0x00])
      (sampleCall sampleReadStore (.getSample invalidIndex [0x00])) := by
  have hindexes : (memoryInit sampleCard [0x00]).indexes=⟨invalidIndex,invalidIndex⟩ :=
    memoryInit_of_invalid (by decide)
  have hindex : (memoryInit sampleCard [0x00]).indexes.readIndex+2=1 := by
    rw [hindexes]
    decide
  have hrecord : ((memoryInit sampleCard [0x00]).card.page (1 : UInt32).toNat).record=
      SampleWriter.sampleBlock 0 0 0 0 Record.blank := by
    rw [memoryInit_card]
    exact fillPage_record _
  have hstore : sampleReadStore={memoryInit sampleCard [0x00] with
      memBuf := SampleWriter.sampleBlock 0 0 0 0 Record.blank} := by
    rw [sampleReadStore,hindex,getSample_of_ready _ (by decide) (by decide),hrecord]
  have hcard : sampleReadStore.card=sampleCard := by
    rw [hstore]
    exact memoryInit_card sampleCard [0x00]
  have hblock : evaluateChecksum (sampleReadStore.card.page invalidIndex.toNat).record=false := by
    rw [hcard]
    decide +kernel
  have hserved : (getSample sampleReadStore invalidIndex [0x00]).1=
      some (SampleWriter.sampleBlock 0 0 0 0 Record.blank).words := by
    rw [getSample_of_beyond _ _ (by decide),hstore]
    dsimp only
    rw [SampleWriter.sampleBlock_valid,if_pos rfl]
  refine ⟨sampleReadStore_path,by rw [hstore,hindexes],hserved,hblock,fun hfresh => ?_⟩
  have hvalid := (hfresh (by rw [hserved]; exact Option.some_ne_none _)).2
  exact Bool.false_ne_true (hblock.symm.trans hvalid)

end VlfGateway.StoreFaults
