import VlfGateway.MemoryStore
import VlfGateway.StepPath

/-!
# How far the index page lags behind

The indexes live in memory, and the card holds an older pair of them. Either
index writes both to the card, but only when it arrives at a multiple of eight
itself. The ring starts at one and its length is not a multiple of eight, so
up to seven steps without a write are possible on either side of the wrap.
-/

namespace VlfGateway.IndexCheckpoint

open CyclicRing MemoryStore RecordChecksum SdCard StepPath

/-- One call that moves an index. -/
inductive IndexCall where
  /-- `put_sample` at a timer value, with the card's answers to both writes. -/
  | put (block : Record) (tc : UInt32) (data page : WriteReply)
  /-- `good_upload_done`, with the card's answer to the index page. -/
  | done (page : WriteReply)

/-- The card's answer to the index page. -/
def IndexCall.page : IndexCall → WriteReply
  | .put _ _ _ page => page
  | .done page => page

/-- The store after a call. -/
def call (s : Store) : IndexCall → Store
  | .put block tc data page => (putSample s block tc data page).2
  | .done page => goodUploadDone s page

/-- Calls during which an index page that is written reaches the card. -/
def CallStep : Store → IndexCall → Store → Prop :=
  stepOf (fun _ i => i.page.accepted=true) call

/-- A record was accepted. -/
def accepts (t : Transition Store IndexCall) : Bool :=
  match t.label with
  | .put block tc data page => (putSample t.before block tc data page).1
  | .done _ => false

/-- A block was released. -/
def releases (t : Transition Store IndexCall) : Bool :=
  match t.label with
  | .put _ _ _ _ => false
  | .done _ => true

/-- One of the indexes wrapped from the last block to the first. -/
def Wraps (cursor : MemoryIndexes → UInt32) (t : Transition Store IndexCall) : Prop :=
  (cursor t.before.indexes).toNat=lastBlock t.before.card ∧ (cursor t.after.indexes).toNat=1

/-- What can be on the card at some moment: what is there between two calls,
or with the record of the next call written and its index page not. -/
inductive OnDisk (s : Store) : Card → Prop
  /-- Between two calls. -/
  | between : OnDisk s s.card
  /-- Inside `put_sample`. -/
  | recordWritten (block : Record) (data : WriteReply)
      (h : nextBlock s.card s.indexes.writeIndex≠s.indexes.readIndex) :
      OnDisk s (diskWrite s.card block.octets memoryRecordSize
        (nextBlock s.card s.indexes.writeIndex).toNat data).2

/-- A restart with the card finds a valid page with these indexes whenever it
can read the page. -/
def Decodes (card : Card) (indexes : MemoryIndexes) : Prop :=
  ∀ polls,cmd polls=0 → pageValid card polls=true ∧ (memoryInit card polls).indexes=indexes

/-! ## The page on the card -/

/-- What a restart finds depends on block zero only. -/
theorem Decodes.congr {a b : Card} {indexes : MemoryIndexes} (hpage : b.page 0=a.page 0)
    (h : Decodes a indexes) : Decodes b indexes := by
  intro polls hc
  have hsame : pageOctets b=pageOctets a := by
    rw [pageOctets,hpage]
    rfl
  obtain ⟨hvalid,hindexes⟩ := h polls hc
  have ha := getMemoryIndexes_of_read (diskRead_indexes (bootStore a) hc)
  have hb := getMemoryIndexes_of_read (diskRead_indexes (bootStore b) hc)
  have hvalid' : pageValid b polls=true := by
    rw [←hvalid]
    unfold pageValid
    rw [ha.1,hb.1]
    change [2,4,6].all (copyMatches (pageOctets b) (firstCopy (pageOctets b)))=
      [2,4,6].all (copyMatches (pageOctets a) (firstCopy (pageOctets a)))
    rw [hsame]
  refine ⟨hvalid',?_⟩
  rw [←hindexes]
  refine (hb.2 hvalid').trans ((ha.2 hvalid).trans ?_).symm
  change firstCopy (pageOctets a)=firstCopy (pageOctets b)
  rw [hsame]

/-- A page that was accepted once is accepted again. -/
theorem decodes_of_valid {card : Card} {polls : List UInt8} (h : pageValid card polls=true) :
    Decodes card (memoryInit card polls).indexes := by
  intro again hc
  have hfirst := getMemoryIndexes_of_read
    (diskRead_indexes (bootStore card) (ready_of_pageValid h))
  have hagain := getMemoryIndexes_of_read (diskRead_indexes (bootStore card) hc)
  have hvalid : pageValid card again=true := hagain.1.trans (hfirst.1.symm.trans h)
  exact ⟨hvalid,(hagain.2 hvalid).trans (hfirst.2 h).symm⟩

/-- A written page is read back as the indexes it was written for. -/
theorem decodes_of_written {card : Card} {indexes : MemoryIndexes}
    (h : card.page 0=fillPage (indexesOctets indexes) indexesLen) : Decodes card indexes := by
  intro polls hc
  have hread := (diskRead_indexes (bootStore card) hc).trans (pageOctets_of_written h)
  have hpage := getMemoryIndexes_of_read hread
  rw [firstCopy_indexesOctets] at hpage
  have hvalid : pageValid card polls=true := hpage.1.trans (copyMatches_indexesOctets indexes)
  exact ⟨hvalid,hpage.2 hvalid⟩

/-- The record of a call never goes to block zero. -/
theorem OnDisk.page {s : Store} {disk : Card} (h : OnDisk s disk) : disk.page 0=s.card.page 0 := by
  cases h with
  | between => rfl
  | recordWritten block data _ =>
    exact diskWrite_page_of_ne _ _ _ _ (nextBlock_bounds s.card s.indexes.writeIndex).1.symm

/-! ## One lemma for each call -/

/-- The low three bits are clear exactly at the multiples of eight. -/
theorem marked_iff (index : UInt32) : index &&& 0x7=0 ↔ 8∣index.toNat := by
  rw [←UInt32.toNat_inj,UInt32.toNat_and]
  change index.toNat &&& 2^3-1=0 ↔ _
  rw [Nat.and_two_pow_sub_one_eq_mod]
  exact (Nat.dvd_iff_mod_eq_zero).symm

/-- What a call without a page write does to an index: nothing, or a step to a
block that is not a multiple of eight. -/
def CursorStep (cursor : MemoryIndexes → UInt32) (moves : Transition Store IndexCall → Bool)
    (t : Transition Store IndexCall) : Prop :=
  (moves t=false ∧ cursor t.after.indexes=cursor t.before.indexes) ∨
    (moves t=true ∧ cursor t.after.indexes=nextBlock t.before.card (cursor t.before.indexes) ∧
      ¬8∣(cursor t.after.indexes).toNat)

/-- A call either writes the page for the indexes it leaves behind, or leaves
the page alone. -/
structure CallEffect (t : Transition Store IndexCall) : Prop where
  /-- The ring stays. -/
  sectors : t.after.card.sectors=t.before.card.sectors
  /-- The write index stays or moves to the next block. -/
  write : t.after.indexes.writeIndex=t.before.indexes.writeIndex ∨
    t.after.indexes.writeIndex=nextBlock t.before.card t.before.indexes.writeIndex
  /-- The read index stays or moves to the next block. -/
  read : t.after.indexes.readIndex=t.before.indexes.readIndex ∨
    t.after.indexes.readIndex=nextBlock t.before.card t.before.indexes.readIndex
  /-- The page on the card. -/
  page : t.after.card.page 0=fillPage (indexesOctets t.after.indexes) indexesLen ∨
    (t.after.card.page 0=t.before.card.page 0 ∧
      CursorStep MemoryIndexes.writeIndex accepts t ∧ CursorStep MemoryIndexes.readIndex releases t)

/-- An accepted index page is on the card. -/
theorem putMemoryIndexes_written (s : Store) {reply : WriteReply} (h : reply.accepted=true) :
    (putMemoryIndexes s reply).2.card.page 0=fillPage (indexesOctets s.indexes) indexesLen := by
  change (diskWrite s.card (indexesOctets s.indexes) indexesLen 0 reply).2.page 0=_
  rw [diskWrite_card (by decide) (by decide),if_pos h]
  dsimp only
  rw [Function.update_self]

/-- The page after an accepted record. -/
theorem putSample_indexPage {s : Store} (block : Record) (tc : UInt32) (data : WriteReply)
    {page : WriteReply} (h : nextBlock s.card s.indexes.writeIndex≠s.indexes.readIndex)
    (hpage : page.accepted=true) :
    (putSample s block tc data page).2.card.page 0=
      if 8∣(nextBlock s.card s.indexes.writeIndex).toNat then
        fillPage (indexesOctets (putSample s block tc data page).2.indexes) indexesLen
      else s.card.page 0 := by
  rw [putSample_indexes block tc data page h]
  unfold putSample
  dsimp only
  rw [if_pos h]
  dsimp only
  by_cases hmark : nextBlock s.card s.indexes.writeIndex &&& 0x7=0
  · rw [if_pos hmark,if_pos ((marked_iff _).mp hmark)]
    exact putMemoryIndexes_written _ hpage
  · rw [if_neg hmark,if_neg (mt (marked_iff _).mpr hmark)]
    exact (OnDisk.recordWritten block data h).page

/-- The page after a released block. -/
theorem goodUploadDone_indexPage (s : Store) {page : WriteReply} (hpage : page.accepted=true) :
    (goodUploadDone s page).card.page 0=
      if 8∣(nextBlock s.card s.indexes.readIndex).toNat then
        fillPage (indexesOctets (goodUploadDone s page).indexes) indexesLen
      else s.card.page 0 := by
  rw [goodUploadDone_indexes]
  unfold goodUploadDone
  dsimp only
  by_cases hmark : nextBlock s.card s.indexes.readIndex &&& 0x7=0
  · rw [if_pos hmark,if_pos ((marked_iff _).mp hmark)]
    exact putMemoryIndexes_written _ hpage
  · rw [if_neg hmark,if_neg (mt (marked_iff _).mpr hmark)]

/-- The effect of an offered record. -/
theorem put_effect (s : Store) (block : Record) (tc : UInt32) (data : WriteReply) {page : WriteReply}
    (hpage : page.accepted=true) :
    CallEffect ⟨s,.put block tc data page,(putSample s block tc data page).2⟩ := by
  by_cases hroom : nextBlock s.card s.indexes.writeIndex≠s.indexes.readIndex
  · have hindexes := putSample_indexes block tc data page hroom
    have hwrite : (putSample s block tc data page).2.indexes.writeIndex=
        nextBlock s.card s.indexes.writeIndex := by rw [hindexes]
    have hread : (putSample s block tc data page).2.indexes.readIndex=s.indexes.readIndex := by
      rw [hindexes]
    have hmoves : accepts ⟨s,.put block tc data page,(putSample s block tc data page).2⟩=true :=
      (putSample_accepts_iff s block tc data page).mpr hroom
    have hcard := putSample_indexPage block tc data hroom hpage
    refine ⟨putSample_sectors _ _ _ _ _,.inr hwrite,.inl hread,?_⟩
    by_cases hmark : 8∣(nextBlock s.card s.indexes.writeIndex).toNat
    · exact .inl (hcard.trans (if_pos hmark))
    · exact .inr ⟨hcard.trans (if_neg hmark),.inr ⟨hmoves,hwrite,by rwa [←hwrite] at hmark⟩,
        .inl ⟨rfl,hread⟩⟩
  · have hrefused := putSample_refused block tc data page (not_not.mp hroom)
    have hidle : accepts ⟨s,.put block tc data page,s⟩=false := congrArg Prod.fst hrefused
    rw [hrefused]
    exact ⟨rfl,.inl rfl,.inl rfl,.inr ⟨rfl,.inl ⟨hidle,rfl⟩,.inl ⟨rfl,rfl⟩⟩⟩

/-- The effect of a released block. -/
theorem done_effect (s : Store) {page : WriteReply} (hpage : page.accepted=true) :
    CallEffect ⟨s,.done page,goodUploadDone s page⟩ := by
  have hindexes := goodUploadDone_indexes s page
  have hwrite : (goodUploadDone s page).indexes.writeIndex=s.indexes.writeIndex := by rw [hindexes]
  have hread : (goodUploadDone s page).indexes.readIndex=nextBlock s.card s.indexes.readIndex := by
    rw [hindexes]
  have hcard := goodUploadDone_indexPage s hpage
  refine ⟨goodUploadDone_sectors s page,.inl hwrite,.inr hread,?_⟩
  by_cases hmark : 8∣(nextBlock s.card s.indexes.readIndex).toNat
  · exact .inl (hcard.trans (if_pos hmark))
  · exact .inr ⟨hcard.trans (if_neg hmark),.inl ⟨rfl,hwrite⟩,
      .inr ⟨rfl,hread,by rwa [←hread] at hmark⟩⟩

/-- Every call has such an effect. -/
theorem call_effect {s s' : Store} {i : IndexCall} (h : CallStep s i s') :
    CallEffect ⟨s,i,s'⟩ := by
  obtain ⟨hpage,rfl⟩ := h
  cases i with
  | put block tc data page => exact put_effect s block tc data hpage
  | done page => exact done_effect s hpage

/-! ## Runs -/

/-- How one index got from the last written page to where it is. -/
def Lag (cursor : MemoryIndexes → UInt32) (moves : Transition Store IndexCall → Bool)
    (saved s : Store) (post : List (Transition Store IndexCall)) : Prop :=
  Unmarked 8 (cursor saved.indexes).toNat (cursor s.indexes).toNat (post.countP moves)
    (∃ t∈post,Wraps cursor t)

/-- Nothing has happened since the page was written. -/
theorem Lag.refl (cursor : MemoryIndexes → UInt32) (moves : Transition Store IndexCall → Bool)
    (s : Store) : Lag cursor moves s s [] :=
  Unmarked.refl (by decide) _ (by simp only [List.not_mem_nil,false_and,exists_false,not_false_iff])

/-- A call without a page write adds at most one step to the lag. -/
theorem Lag.snoc {cursor : MemoryIndexes → UInt32} {moves : Transition Store IndexCall → Bool}
    {saved : Store} {t : Transition Store IndexCall} {post : List (Transition Store IndexCall)}
    (h : Lag cursor moves saved t.before post) (hM : 8≤lastBlock t.before.card)
    (hcursor : (cursor t.before.indexes).toNat≤lastBlock t.before.card)
    (hstep : CursorStep cursor moves t) : Lag cursor moves saved t.after (post++[t]) := by
  have hwraps : (∃ u∈post++[t],Wraps cursor u) ↔ (∃ u∈post,Wraps cursor u) ∨ Wraps cursor t := by
    simp only [List.mem_append,List.mem_singleton,or_and_right,exists_or,exists_eq_left]
  unfold Lag
  rw [List.countP_append,List.countP_singleton]
  rcases hstep with ⟨hmoves,hsame⟩|⟨hmoves,hnext,hmark⟩
  · have hstays : ¬Wraps cursor t := by
      rintro ⟨hlast,hfirst⟩
      rw [hsame] at hfirst
      omega
    rw [hmoves,hsame,hwraps,or_iff_left hstays]
    exact h
  · have hplace : (cursor t.after.indexes).toNat=
        next (lastBlock t.before.card) (cursor t.before.indexes).toNat := by
      rw [hnext,nextBlock_toNat]
    rw [hplace] at hmark
    rw [hmoves,hplace]
    refine Unmarked.next (by decide) hM hcursor h hmark ?_
    rw [hwraps]
    refine or_congr_right ⟨fun hwrap => hwrap.1,fun hlast => ⟨hlast,?_⟩⟩
    rw [hplace,next_of_le hlast.ge]

/-- What a run keeps: the ring, indexes inside it, and a state of the run whose
indexes are on the card. -/
structure Checkpointed (start : Store) (ts : List (Transition Store IndexCall)) (s : Store) : Prop where
  /-- The ring stays. -/
  sectors : s.card.sectors=start.card.sectors
  /-- The write index is at most the last block. -/
  write : s.indexes.writeIndex.toNat≤lastBlock start.card
  /-- The read index is at most the last block. -/
  read : s.indexes.readIndex.toNat≤lastBlock start.card
  /-- The state that was saved and what happened since. -/
  saved : ∃ pre post mid,ts=pre++post ∧ Path CallStep start pre mid ∧ Decodes s.card mid.indexes ∧
    Lag MemoryIndexes.writeIndex accepts mid s post ∧ Lag MemoryIndexes.readIndex releases mid s post

/-- Every run keeps it. -/
theorem checkpointed_of_path {start s : Store} {ts : List (Transition Store IndexCall)}
    (hM : 8≤lastBlock start.card) (hwrite : start.indexes.writeIndex.toNat≤lastBlock start.card)
    (hread : start.indexes.readIndex.toNat≤lastBlock start.card)
    (hdecodes : Decodes start.card start.indexes) (h : Path CallStep start ts s) :
    Checkpointed start ts s := by
  induction h with
  | nil =>
    exact ⟨rfl,hwrite,hread,[],[],start,rfl,.nil,hdecodes,Lag.refl _ _ _,Lag.refl _ _ _⟩
  | @snoc ts s s' i hpath hstep ih =>
    have heffect := call_effect hstep
    have hring : lastBlock s.card=lastBlock start.card := lastBlock_congr ih.sectors
    have hinside : ∀ index : UInt32,(nextBlock s.card index).toNat≤lastBlock start.card := by
      intro index
      rw [nextBlock_toNat,←hring]
      exact (next_bounds (by rw [hring]; omega) _).2
    refine ⟨heffect.sectors.trans ih.sectors,?_,?_,?_⟩
    · rcases heffect.write with hsame|hnext
      · exact hsame ▸ ih.write
      · exact hnext ▸ hinside _
    · rcases heffect.read with hsame|hnext
      · exact hsame ▸ ih.read
      · exact hnext ▸ hinside _
    · rcases heffect.page with hwritten|⟨hpage,hwriteStep,hreadStep⟩
      · exact ⟨ts++[⟨s,i,s'⟩],[],s',(List.append_nil _).symm,hpath.snoc hstep,
          decodes_of_written hwritten,Lag.refl _ _ _,Lag.refl _ _ _⟩
      · obtain ⟨pre,post,mid,rfl,hpre,hmid,hlagWrite,hlagRead⟩ := ih.saved
        have hM' : 8≤lastBlock s.card := by rwa [hring]
        refine ⟨pre,post++[⟨s,i,s'⟩],mid,List.append_assoc _ _ _,hpre,hmid.congr hpage,?_,?_⟩
        · exact Lag.snoc (t:=⟨s,i,s'⟩) hlagWrite hM' (by rw [hring]; exact ih.write) hwriteStep
        · exact Lag.snoc (t:=⟨s,i,s'⟩) hlagRead hM' (by rw [hring]; exact ih.read) hreadStep

/-- At every moment of a run the page on the card holds a pair of indexes the
store had before. Since then at most seven records were accepted, and fourteen
when the write index wrapped, and the same for the released blocks. -/
theorem index_lag_bounded {card disk : Card} {polls : List UInt8}
    {ts : List (Transition Store IndexCall)} {s : Store} (hM : 8≤lastBlock card)
    (hvalid : pageValid card polls=true)
    (hread : (memoryInit card polls).indexes.readIndex.toNat≤lastBlock card)
    (hwrite : (memoryInit card polls).indexes.writeIndex.toNat≤lastBlock card)
    (hrun : Path CallStep (memoryInit card polls) ts s) (hdisk : OnDisk s disk) :
    ∃ pre post mid,ts=pre++post ∧ Path CallStep (memoryInit card polls) pre mid ∧
      Decodes disk mid.indexes ∧
      ((¬∃ t∈post,Wraps MemoryIndexes.writeIndex t) → post.countP accepts≤7) ∧
      post.countP accepts≤14 ∧
      ((¬∃ t∈post,Wraps MemoryIndexes.readIndex t) → post.countP releases≤7) ∧
      post.countP releases≤14 := by
  have hcard := memoryInit_card card polls
  obtain ⟨_,_,_,pre,post,mid,hsplit,hpre,hdecodes,hlagWrite,hlagRead⟩ :=
    checkpointed_of_path (by rw [hcard]; exact hM) (by rw [hcard]; exact hwrite)
      (by rw [hcard]; exact hread) (by rw [hcard]; exact decodes_of_valid hvalid) hrun
  have hbound := hlagWrite.bound
  have hbound' := hlagRead.bound
  exact ⟨pre,post,mid,hsplit,hpre,hdecodes.congr hdisk.page,hbound.1,hbound.2,hbound'.1,hbound'.2⟩

/-- Records and releases in turn on a card of ten blocks, from block nine on and
over the end of the ring. -/
def turns : List IndexCall :=
  (List.range 7).flatMap (fun k =>
    [.put Record.blank (UInt32.ofNat k) .good .good,.done .good])++
    [.put Record.blank 7 .good .good]

/-- None of these calls arrives at block eight, so no index page is written: the
page on the card is eight records behind after a wrap. -/
theorem index_lag_eight_records : ∃ ts s,
    Path CallStep (memoryInit (formattedCard 11 ⟨8,10⟩) [0x00]) ts s ∧
    s.indexes=⟨6,7⟩ ∧ ts.countP accepts=8 ∧ ts.countP releases=7 ∧
    ∃ pre post mid,ts=pre++post ∧
      Path CallStep (memoryInit (formattedCard 11 ⟨8,10⟩) [0x00]) pre mid ∧
      Decodes s.card mid.indexes ∧
      ((¬∃ t∈post,Wraps MemoryIndexes.writeIndex t) → post.countP accepts≤7) ∧
      post.countP accepts≤14 ∧
      ((¬∃ t∈post,Wraps MemoryIndexes.readIndex t) → post.countP releases≤7) ∧
      post.countP releases≤14 := by
  have hrun : (traceOf
      (labelled (attempt (fun (_ : Store) (i : IndexCall) => i.page.accepted=true)
        fun s i => some (call s i)))
      (memoryInit (formattedCard 11 ⟨8,10⟩) [0x00]) turns).any (fun run =>
        run.2.indexes=⟨6,7⟩ ∧ run.1.countP accepts=8 ∧ run.1.countP releases=7)=true := by
    decide +kernel
  obtain ⟨⟨ts,s⟩,htrace,hchecked⟩ := (Option.any_eq_true _ _).mp hrun
  obtain ⟨hindexes,haccepts,hreleases⟩ := of_decide_eq_true hchecked
  have hpath : Path CallStep (memoryInit (formattedCard 11 ⟨8,10⟩) [0x00]) ts s :=
    path_of_attempts htrace
  exact ⟨ts,s,hpath,hindexes,haccepts,hreleases,
    index_lag_bounded (by decide) (by decide) (by decide) (by decide) hpath .between⟩

end VlfGateway.IndexCheckpoint
