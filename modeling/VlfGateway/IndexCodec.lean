import VlfGateway.MemoryStore

/-!
# The index page as a code

The page repeats the two indexes four times, each copy offset by the position
of its first word. Reading accepts a page exactly when it is the page written
for some pair, and that pair is then unique. A write that was cut off leaves
the front of the new page before the rest of the old one; the offsets keep
such a page from being taken for a third pair.
-/

namespace VlfGateway.IndexCodec

open RecordChecksum SdCard MemoryStore

/-! ## Words of a buffer -/

/-- The first word of a buffer stands for its first four octets. -/
theorem wordOctets_wordAt_zero (a b c d : UInt8) (rest : List UInt8) :
    wordOctets (wordAt (a::b::c::d::rest) 0)=[a,b,c,d] := by
  have ha := a.toNat_lt
  have hb := b.toNat_lt
  have hc := c.toNat_lt
  have hd := d.toNat_lt
  change wordOctets (UInt32.ofNat (a.toNat+2^8*b.toNat+2^16*c.toNat+2^24*d.toNat))=_
  unfold wordOctets
  simp only [List.cons.injEq,and_true,←UInt8.toNat_inj,UInt8.toNat_ofNat',UInt32.toNat_ofNat']
  omega

/-- The later words are the words of the rest. -/
theorem wordAt_succ (a b c d : UInt8) (rest : List UInt8) (i : ℕ) :
    wordAt (a::b::c::d::rest) (i+1)=wordAt rest i := by
  have hpos : ∀ k,(a::b::c::d::rest).getD (4*(i+1)+k) 0=rest.getD (4*i+k) 0 := by
    intro k
    rw [show 4*(i+1)+k=4*i+k+4 by omega]
    rfl
  rw [wordAt,wordAt,hpos 1,hpos 2,hpos 3]
  exact congrArg (fun octet : UInt8 => UInt32.ofNat (octet.toNat+_+_+_)) (hpos 0)

/-- A buffer of whole words is the octets of its words in order. -/
theorem flatMap_wordOctets_wordAt (n : ℕ) :
    ∀ octets : List UInt8,octets.length=4*n →
      (List.range n).flatMap (fun i => wordOctets (wordAt octets i))=octets := by
  induction n with
  | zero =>
    intro octets hlen
    rw [List.length_eq_zero_iff.mp hlen]
    rfl
  | succ n ih =>
    intro octets hlen
    match octets,hlen with
    | a::b::c::d::rest,hlen =>
      have hrest : rest.length=4*n := by
        simp only [List.length_cons] at hlen
        omega
      rw [List.range_succ_eq_map,List.flatMap_cons,wordOctets_wordAt_zero,List.flatMap_map]
      simp only [Nat.succ_eq_add_one,wordAt_succ]
      rw [ih rest hrest]
      rfl

/-! ## Accepted pages -/

/-- The check of `get_memory_indexes` on the octets it has read. -/
def pageAccepted (octets : List UInt8) : Bool := [2,4,6].all (copyMatches octets (firstCopy octets))

/-- In an accepted page every later word is the first one of its kind,
offset. -/
theorem wordAt_of_accepted {octets : List UInt8} (h : pageAccepted octets=true) :
    ∀ i∈[0,2,4,6],wordAt octets i=(firstCopy octets).readIndex+UInt32.ofNat i ∧
      wordAt octets (i+1)=(firstCopy octets).writeIndex+UInt32.ofNat i := by
  intro i hi
  rcases List.mem_cons.mp hi with rfl|hlater
  · exact ⟨(UInt32.add_zero _).symm,(UInt32.add_zero _).symm⟩
  · have hcopy := List.all_eq_true.mp h i hlater
    rw [copyMatches,Bool.and_eq_true] at hcopy
    exact ⟨eq_of_beq hcopy.1,eq_of_beq hcopy.2⟩

/-- A page written for a pair is accepted. -/
theorem pageAccepted_indexesOctets (indexes : MemoryIndexes) :
    pageAccepted (indexesOctets indexes)=true := by
  rw [pageAccepted,firstCopy_indexesOctets]
  exact copyMatches_indexesOctets indexes

/-- An accepted page is the page written for the pair in its first copy. -/
theorem eq_indexesOctets_of_accepted {octets : List UInt8} (hlen : octets.length=indexesLen)
    (h : pageAccepted octets=true) : octets=indexesOctets (firstCopy octets) := by
  have hwords := wordAt_of_accepted h
  have hjoined : (List.range 8).flatMap (fun i => wordOctets (wordAt octets i))=
      [0,2,4,6].flatMap fun i => wordOctets (wordAt octets i)++wordOctets (wordAt octets (i+1)) := rfl
  rw [flatMap_wordOctets_wordAt 8 octets hlen] at hjoined
  have hcopies : [0,2,4,6].flatMap (fun i =>
      wordOctets (wordAt octets i)++wordOctets (wordAt octets (i+1)))=
      indexesOctets (firstCopy octets) :=
    List.flatMap_congr fun i hi => by rw [(hwords i hi).1,(hwords i hi).2]
  exact hjoined.trans hcopies

/-- A page is accepted exactly when it is the page of some pair. -/
theorem pageAccepted_iff {octets : List UInt8} (hlen : octets.length=indexesLen) :
    pageAccepted octets=true ↔ ∃ indexes,octets=indexesOctets indexes := by
  constructor
  · exact fun h => ⟨firstCopy octets,eq_indexesOctets_of_accepted hlen h⟩
  · rintro ⟨indexes,rfl⟩
    exact pageAccepted_indexesOctets indexes

/-! ## Torn pages -/

/-- The page left when only the first `k` octets of a new one were written
over an old one. -/
def tornPage (new old : MemoryIndexes) (k : ℕ) : List UInt8 :=
  (indexesOctets new).take k++(indexesOctets old).drop k

/-- Octets before the cut are new. -/
theorem tornPage_getD_of_lt (new old : MemoryIndexes) {k j : ℕ} (hj : j<k) (hlen : j < indexesLen) :
    (tornPage new old k).getD j 0=(indexesOctets new).getD j 0 := by
  have hsize : (indexesOctets new).length=indexesLen := rfl
  have htake : j<((indexesOctets new).take k).length := by
    rw [List.length_take]
    omega
  rw [tornPage,List.getD_eq_getElem?_getD,List.getElem?_append_left htake,
    List.getElem?_take_of_lt hj,List.getD_eq_getElem?_getD]

/-- Octets from the cut on are old. -/
theorem tornPage_getD_of_le (new old : MemoryIndexes) {k j : ℕ} (hj : k≤j) (hlen : j < indexesLen) :
    (tornPage new old k).getD j 0=(indexesOctets old).getD j 0 := by
  have hsize : (indexesOctets new).length=indexesLen := rfl
  have htake : ((indexesOctets new).take k).length=k := by
    rw [List.length_take]
    omega
  rw [tornPage,List.getD_eq_getElem?_getD,List.getElem?_append_right (by omega),htake,
    List.getElem?_drop,Nat.add_sub_cancel' hj,List.getD_eq_getElem?_getD]

/-- Words before the cut are new. -/
theorem wordAt_tornPage_of_le (new old : MemoryIndexes) {k i : ℕ} (hi : 4*i+4≤k) (hlen : i<8) :
    wordAt (tornPage new old k) i=wordAt (indexesOctets new) i := by
  have hsize : indexesLen=32 := rfl
  rw [wordAt,tornPage_getD_of_lt new old (by omega) (by omega),
    tornPage_getD_of_lt new old (by omega) (by omega),
    tornPage_getD_of_lt new old (by omega) (by omega),
    tornPage_getD_of_lt new old (by omega) (by omega),wordAt]

/-- Words behind the cut are old. -/
theorem wordAt_tornPage_of_ge (new old : MemoryIndexes) {k i : ℕ} (hi : k≤4*i) (hlen : i<8) :
    wordAt (tornPage new old k) i=wordAt (indexesOctets old) i := by
  have hsize : indexesLen=32 := rfl
  rw [wordAt,tornPage_getD_of_le new old (by omega) (by omega),
    tornPage_getD_of_le new old (by omega) (by omega),
    tornPage_getD_of_le new old (by omega) (by omega),
    tornPage_getD_of_le new old (by omega) (by omega),wordAt]

/-- A torn page that is accepted reads as the old pair or as the new one. A
cut behind the first copy leaves it new; any other cut leaves the second copy
old, and the first one has to agree with it. -/
theorem firstCopy_tornPage {new old : MemoryIndexes} {k : ℕ}
    (h : pageAccepted (tornPage new old k)=true) :
    firstCopy (tornPage new old k)=old ∨ firstCopy (tornPage new old k)=new := by
  by_cases hcut : 8≤k
  · right
    have hnew := firstCopy_indexesOctets new
    rw [firstCopy] at hnew ⊢
    rw [wordAt_tornPage_of_le new old (by omega) (by omega),
      wordAt_tornPage_of_le new old (by omega) (by omega),hnew]
  · left
    have hsecond : 2∈[0,2,4,6] := by decide
    obtain ⟨hread,hwrite⟩ := wordAt_of_accepted h 2 hsecond
    obtain ⟨holdRead,holdWrite⟩ := wordAt_of_accepted (pageAccepted_indexesOctets old) 2 hsecond
    rw [wordAt_tornPage_of_ge new old (by omega) (by omega),holdRead,UInt32.add_left_inj,
      firstCopy_indexesOctets] at hread
    rw [wordAt_tornPage_of_ge new old (by omega) (by omega),holdWrite,UInt32.add_left_inj,
      firstCopy_indexesOctets] at hwrite
    generalize firstCopy (tornPage new old k)=pair at hread hwrite
    cases pair
    cases old
    rw [MemoryIndexes.mk.injEq]
    exact ⟨hwrite.symm,hread.symm⟩

/-! ## Reading the page -/

/-- Octets `get_memory_indexes` looks at: those of the page, or what the
buffer held before when the card does not answer. -/
def pageRead (s : Store) (polls : List UInt8) : List UInt8 :=
  (diskRead s.card s.indexesBuf.octets indexesLen 0 polls).2

/-- The octets that are looked at fill the buffer. -/
theorem pageRead_length (s : Store) (polls : List UInt8) : (pageRead s polls).length=indexesLen := by
  rw [pageRead,diskRead_length s.card 0 polls s.indexesBuf.size.ge]
  exact s.indexesBuf.size

/-- A refused page leaves both indexes invalid. -/
theorem getMemoryIndexes_refused {s : Store} {polls : List UInt8}
    (h : (getMemoryIndexes s polls).1=false) :
    (getMemoryIndexes s polls).2.indexes=⟨invalidIndex,invalidIndex⟩ := by
  unfold getMemoryIndexes at h ⊢
  dsimp only at h ⊢
  split
  · next hall =>
    rw [if_pos hall] at h
    exact absurd h Bool.noConfusion
  · rfl

/-- `get_memory_indexes` accepts exactly the pages that `put_memory_indexes`
writes and returns the pair such a page was written for; any other page makes
both indexes invalid. A page of which only the front was replaced is refused
or read as the pair before or after the write. -/
theorem getMemoryIndexes_exact (s : Store) (polls : List UInt8) :
    (cmd polls=0 → pageRead s polls=pageOctets s.card) ∧
    (∀ reply : WriteReply,reply.accepted=true →
      pageOctets (putMemoryIndexes s reply).2.card=indexesOctets s.indexes) ∧
    ((getMemoryIndexes s polls).1=true ↔ ∃ indexes,pageRead s polls=indexesOctets indexes) ∧
    (∀ indexes,pageRead s polls=indexesOctets indexes →
      (getMemoryIndexes s polls).2.indexes=indexes) ∧
    ((getMemoryIndexes s polls).1=false →
      (getMemoryIndexes s polls).2.indexes=⟨invalidIndex,invalidIndex⟩) ∧
    ∀ new old k,pageRead s polls=(indexesOctets new).take k++(indexesOctets old).drop k →
      (getMemoryIndexes s polls).1=false ∨ (getMemoryIndexes s polls).2.indexes=old ∨
        (getMemoryIndexes s polls).2.indexes=new := by
  have hread : (diskRead s.card s.indexesBuf.octets indexesLen 0 polls).2=pageRead s polls := rfl
  obtain ⟨hcode,hpair⟩ := getMemoryIndexes_of_read hread
  have haccept : (getMemoryIndexes s polls).1=pageAccepted (pageRead s polls) := hcode
  refine ⟨fun hready => diskRead_indexes s hready,?_,?_,?_,getMemoryIndexes_refused,?_⟩
  · intro reply hreply
    apply pageOctets_of_written
    change (diskWrite s.card (indexesOctets s.indexes) indexesLen 0 reply).2.page 0=_
    rw [diskWrite_card (by decide) (by decide),if_pos hreply]
    exact Function.update_self 0 _ s.card.page
  · rw [haccept]
    exact pageAccepted_iff (pageRead_length s polls)
  · intro indexes hpage
    have htrue : (getMemoryIndexes s polls).1=true := by
      rw [haccept,hpage]
      exact pageAccepted_indexesOctets indexes
    rw [hpair htrue,hpage,firstCopy_indexesOctets]
  · intro new old k hpage
    cases hresult : (getMemoryIndexes s polls).1 with
    | false => exact Or.inl rfl
    | true =>
      right
      have htorn : pageAccepted (tornPage new old k)=true := by
        rw [haccept,hpage] at hresult
        exact hresult
      rw [hpair hresult,hpage]
      exact firstCopy_tornPage htorn

/-- A card whose index page was cut off inside the low octets of the write
index. -/
def tornCard : Card := ⟨16,fun _ => fillPage (tornPage ⟨9,1⟩ ⟨8,1⟩ 5) indexesLen⟩

/-- The cut off page is refused or read as the pair before or after the write. -/
theorem getMemoryIndexes_exact_torn :
    pageRead (bootStore tornCard) [0x00]=tornPage ⟨9,1⟩ ⟨8,1⟩ 5 ∧
      ((getMemoryIndexes (bootStore tornCard) [0x00]).1=false ∨
        (getMemoryIndexes (bootStore tornCard) [0x00]).2.indexes=⟨8,1⟩ ∨
        (getMemoryIndexes (bootStore tornCard) [0x00]).2.indexes=⟨9,1⟩) := by
  have hpage : pageRead (bootStore tornCard) [0x00]=tornPage ⟨9,1⟩ ⟨8,1⟩ 5 := by decide
  exact ⟨hpage,(getMemoryIndexes_exact (bootStore tornCard) [0x00]).2.2.2.2.2 ⟨9,1⟩ ⟨8,1⟩ 5 hpage⟩

end VlfGateway.IndexCodec
