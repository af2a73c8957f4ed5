import VlfGateway.ReflectedCrc
import VlfGateway.SampleWriter

/-!
# The checksum of a record as a cyclic redundancy check

The table-driven checksum is CRC-32 with the reflected polynomial 0xEDB88320.
A record passes exactly when the register, fed with all of its twenty-four
octets, ends at one fixed value; so whether an error goes unnoticed depends on
the error alone.
-/

namespace VlfGateway.RecordCrc

open GatewayClock MemoryStore RecordChecksum ReflectedCrc SampleWriter SdCard

/-! ## Bit by bit -/

/-- One shift of the register, adding the polynomial when a one falls out. -/
def crcBit (crc : UInt32) : UInt32 :=
  if crc &&& 1=1 then (crc >>> 1) ^^^ 0xEDB88320 else crc >>> 1

/-- An octet is added to the low octet of the register and shifted through. -/
def crcOctet (crc : UInt32) (octet : UInt8) : UInt32 := crcBit^[8] (crc ^^^ octet.toUInt32)

/-- CRC-32 of some octets. -/
def crc32 (octets : List UInt8) : UInt32 := ~~~(octets.foldl crcOctet 0xFFFFFFFF)

/-- The polynomial as a register. -/
def poly : BitVec 32 := 0xEDB88320#32

/-- The lowest bit decides. -/
theorem and_one_iff (crc : UInt32) : crc &&& 1=1 ↔ crc.toBitVec.getLsbD 0=true := by
  rw [←UInt32.toBitVec_inj,UInt32.toBitVec_and]
  change crc.toBitVec &&& 1#32=1#32 ↔ _
  rw [BitVec.and_one_eq_setWidth_ofBool_getLsbD]
  cases crc.toBitVec.getLsbD 0 <;> decide

/-- The shift is the one of the general register. -/
theorem toBitVec_crcBit (crc : UInt32) : (crcBit crc).toBitVec=bitStep poly crc.toBitVec := by
  have hshift : (crc >>> 1).toBitVec=crc.toBitVec >>> 1 := UInt32.toBitVec_shiftRight crc 1
  unfold crcBit bitStep
  by_cases hbit : crc.toBitVec.getLsbD 0=true
  · rw [if_pos ((and_one_iff crc).mpr hbit),if_pos hbit,UInt32.toBitVec_xor,hshift]
    rfl
  · rw [if_neg (mt (and_one_iff crc).mp hbit),if_neg hbit,hshift,BitVec.xor_zero]

/-- Several shifts are those of the general register. -/
theorem toBitVec_iterate_crcBit (crc : UInt32) (k : ℕ) :
    (crcBit^[k] crc).toBitVec=(bitStep poly)^[k] crc.toBitVec := by
  induction k generalizing crc with
  | zero => rfl
  | succ k ih => rw [Function.iterate_succ_apply,Function.iterate_succ_apply,ih,toBitVec_crcBit]

/-! ## With the table -/

/-- Every entry of the table is its index shifted through. -/
theorem crc32Table_eq (b : Fin 256) : crc32Table.getD b.val 0=crcBit^[8] (UInt32.ofNat b.val) := by
  revert b
  decide +kernel

/-- The mask of the low octet. -/
theorem getLsbD_mask (i : ℕ) : (0xFF#32).getLsbD i=decide (i<8) := by
  by_cases hi : i<8
  · rw [decide_eq_true hi]
    interval_cases i <;> rfl
  · rw [decide_eq_false hi]
    change (BitVec.setWidth 32 0xFF#8).getLsbD i=false
    rw [BitVec.getLsbD_setWidth,BitVec.getLsbD_of_ge _ _ (by omega),Bool.and_false]

/-- Eight shifts of a register: the low octet is shifted through, the rest is
only moved. -/
theorem iterate_bitStep_octet (x : BitVec 32) :
    (bitStep poly)^[8] x=(bitStep poly)^[8] (x &&& 0xFF#32) ^^^ (x >>> 8) := by
  have hsplit : x=(x &&& 0xFF#32) ^^^ (x &&& ~~~0xFF#32) := by
    apply BitVec.eq_of_getLsbD_eq
    intro i hi
    rw [BitVec.getLsbD_xor,BitVec.getLsbD_and,BitVec.getLsbD_and,BitVec.getLsbD_not,
      decide_eq_true hi,Bool.true_and]
    cases x.getLsbD i <;> cases (0xFF#32).getLsbD i <;> rfl
  have hhigh : (x &&& ~~~0xFF#32) >>> 8=x >>> 8 := by
    apply BitVec.eq_of_getLsbD_eq
    intro i hi
    rw [BitVec.getLsbD_ushiftRight,BitVec.getLsbD_ushiftRight,BitVec.getLsbD_and,BitVec.getLsbD_not,
      getLsbD_mask,decide_eq_false (p:=8+i<8) (by omega)]
    by_cases hin : 8+i<32
    · rw [decide_eq_true hin]
      exact Bool.and_true _
    · rw [BitVec.getLsbD_of_ge _ _ (by omega),Bool.false_and]
  have hlow : ∀ i<8,(x &&& ~~~0xFF#32).getLsbD i=false := by
    intro i hi
    rw [BitVec.getLsbD_and,BitVec.getLsbD_not,getLsbD_mask,decide_eq_true hi]
    simp only [Bool.not_true,Bool.and_false]
  calc (bitStep poly)^[8] x
      =(bitStep poly)^[8] ((x &&& 0xFF#32) ^^^ (x &&& ~~~0xFF#32)) := by rw [←hsplit]
    _=(bitStep poly)^[8] (x &&& 0xFF#32) ^^^ (x &&& ~~~0xFF#32) >>> 8 := by
      rw [iterate_bitStep_xor,iterate_bitStep_low_zero poly hlow]
    _=(bitStep poly)^[8] (x &&& 0xFF#32) ^^^ (x >>> 8) := by rw [hhigh]

/-- An octet does not reach beyond the low octet of the register. -/
theorem xor_octet_shift (crc : BitVec 32) (octet : BitVec 8) :
    (crc ^^^ octet.setWidth 32) >>> 8=crc >>> 8 := by
  apply BitVec.eq_of_getLsbD_eq
  intro i _
  rw [BitVec.getLsbD_ushiftRight,BitVec.getLsbD_ushiftRight,BitVec.getLsbD_xor,
    BitVec.getLsbD_setWidth,BitVec.getLsbD_of_ge octet _ (by omega),Bool.and_false,Bool.xor_false]

/-- One round with the table is eight shifts. -/
theorem checksumStep_eq (crc : UInt32) (octet : UInt8) : checksumStep crc octet=crcOctet crc octet := by
  have hindex : ((crc ^^^ octet.toUInt32) &&& 0xFF).toNat<256 := by
    rw [UInt32.toNat_and]
    exact Nat.lt_of_le_of_lt Nat.and_le_right (by decide)
  have htable := crc32Table_eq ⟨_,hindex⟩
  rw [UInt32.ofNat_toNat] at htable
  unfold checksumStep crcOctet
  rw [htable]
  apply UInt32.toBitVec_inj.mp
  rw [UInt32.toBitVec_xor,toBitVec_iterate_crcBit,toBitVec_iterate_crcBit,
    iterate_bitStep_octet (crc ^^^ octet.toUInt32).toBitVec]
  congr 1
  rw [UInt32.toBitVec_xor,UInt8.toBitVec_toUInt32,xor_octet_shift]
  exact UInt32.toBitVec_shiftRight crc 8

/-- The final complement. -/
theorem xor_ones (crc : UInt32) : crc ^^^ 0xFFFFFFFF = ~~~crc := by
  apply UInt32.toBitVec_inj.mp
  rw [UInt32.toBitVec_xor,UInt32.toBitVec_not]
  exact BitVec.xor_allOnes

/-- The loop with the table goes through the registers of the loop with bits. -/
theorem calculateChecksum_foldl (record : Record) :
    calculateChecksum record=
      ~~~((record.octets.take (memoryRecordSize-4)).foldl crcOctet 0xFFFFFFFF) := by
  have hstep : checksumStep=crcOctet := funext fun crc => funext (checksumStep_eq crc)
  rw [calculateChecksum,hstep,xor_ones]

/-- The checksum in the code is CRC-32 of the first twenty octets, whatever
the last word is. -/
theorem calculateChecksum_eq_crc32 (record : Record) :
    calculateChecksum record=crc32 (record.octets.take (memoryRecordSize-4)) ∧
      ∀ last : UInt32,calculateChecksum (populated (record.octets.take (memoryRecordSize-4))
        (by rw [List.length_take,record.size]; rfl) last)=calculateChecksum record := by
  constructor
  · exact calculateChecksum_foldl record
  · intro last
    apply calculateChecksum_congr
    unfold populated
    dsimp only
    rw [List.take_append_of_le_length (by rw [List.length_take,record.size]; decide),List.take_take,
      Nat.min_self]

/-! ## Records as messages -/

/-- The bits of an octet, the least significant one first. -/
def octetBits (octet : UInt8) : List Bool := (List.range 8).map octet.toBitVec.getLsbD

/-- The bits of a record in the order they are fed. -/
def recordBits (record : Record) : List Bool := record.octets.flatMap octetBits

/-- Bit `i` of a record. -/
def recordBit (record : Record) (i : ℕ) : Bool := (record.octet (i/8)).toBitVec.getLsbD (i%8)

/-- An octet is fed by eight shifts. -/
theorem toBitVec_crcOctet (crc : UInt32) (octet : UInt8) :
    (crcOctet crc octet).toBitVec=feed poly crc.toBitVec (octetBits octet) := by
  have hbits : octetBits octet=(List.range 8).map (octet.toBitVec.setWidth 32).getLsbD := by
    refine List.map_congr_left fun i hi => ?_
    have hlt := List.mem_range.mp hi
    rw [BitVec.getLsbD_setWidth,decide_eq_true (p:=i<32) (by omega),Bool.true_and]
  rw [crcOctet,toBitVec_iterate_crcBit,UInt32.toBitVec_xor,UInt8.toBitVec_toUInt32,hbits]
  apply iterate_bitStep_word
  intro i hi
  rw [BitVec.getLsbD_setWidth,BitVec.getLsbD_of_ge octet.toBitVec _ hi,Bool.and_false]

/-- Octets are fed one after the other. -/
theorem toBitVec_foldl_crcOctet (octets : List UInt8) (crc : UInt32) :
    (octets.foldl crcOctet crc).toBitVec=feed poly crc.toBitVec (octets.flatMap octetBits) := by
  induction octets generalizing crc with
  | nil => rfl
  | cons octet octets ih =>
    rw [List.foldl_cons,ih,toBitVec_crcOctet,List.flatMap_cons,feed_append]

/-- The octets of a word are fed from its least significant bit on. -/
theorem flatMap_wordOctets (word : UInt32) :
    (wordOctets word).flatMap octetBits=(List.range 32).map word.toBitVec.getLsbD := by
  have hoctet : ∀ k,octetBits (UInt8.ofNat (word.toNat/2^k))=
      (List.range 8).map fun i => word.toBitVec.getLsbD (k+i) := by
    intro k
    refine List.map_congr_left fun i hi => ?_
    change (BitVec.ofNat 8 (word.toNat/2^k)).getLsbD i=_
    rw [BitVec.getLsbD_ofNat,decide_eq_true (List.mem_range.mp hi),Bool.true_and,
      Nat.testBit_div_two_pow,←BitVec.testBit_toNat,Nat.add_comm]
    rfl
  have hfirst := hoctet 0
  rw [Nat.pow_zero,Nat.div_one] at hfirst
  unfold wordOctets
  rw [List.flatMap_cons,List.flatMap_cons,List.flatMap_cons,List.flatMap_cons,hfirst,hoctet,hoctet,
    hoctet]
  rfl

/-- A record passes exactly when the register ends at the value that is left
of a complemented checksum. -/
theorem evaluateChecksum_iff_feed (record : Record) :
    evaluateChecksum record=true ↔
      feed poly (BitVec.allOnes 32) (recordBits record)=(bitStep poly)^[32] (BitVec.allOnes 32) := by
  have hdata := toBitVec_foldl_crcOctet (record.octets.take (memoryRecordSize-4)) 0xFFFFFFFF
  have hbits : recordBits record=(record.octets.take (memoryRecordSize-4)).flatMap octetBits++
      (List.range 32).map (getChecksum record).toBitVec.getLsbD := by
    rw [←flatMap_wordOctets,wordOctets_getChecksum,←List.flatMap_append,List.take_append_drop]
    rfl
  have hword := iterate_bitStep_word poly
    ((record.octets.take (memoryRecordSize-4)).foldl crcOctet 0xFFFFFFFF).toBitVec
    (getChecksum record).toBitVec (k:=32) (fun i hi => BitVec.getLsbD_of_ge _ _ hi)
  rw [hbits,feed_append]
  change _ ↔ feed poly (feed poly (0xFFFFFFFF : UInt32).toBitVec _) _=_
  rw [←hdata,←hword,iterate_bitStep_inj rfl,evaluateChecksum,beq_iff_eq,calculateChecksum_foldl,←UInt32.toBitVec_inj,
    UInt32.toBitVec_not]
  generalize ((record.octets.take (memoryRecordSize-4)).foldl crcOctet 0xFFFFFFFF).toBitVec=data
  constructor
  · intro h
    rw [h,←BitVec.xor_allOnes,←BitVec.xor_assoc,BitVec.xor_self,BitVec.zero_xor]
  · intro h
    rw [←BitVec.xor_allOnes,←h,←BitVec.xor_assoc,BitVec.xor_self,BitVec.zero_xor]

/-! ## Errors -/

/-- A record with an error pattern added to it. -/
def Record.xor (record error : Record) : Record :=
  ⟨List.zipWith (· ^^^ ·) record.octets error.octets,by
    rw [List.length_zipWith,record.size,error.size,Nat.min_self]⟩

/-- Octets are added bit by bit. -/
theorem octetBits_xor (a b : UInt8) :
    octetBits (a ^^^ b)=List.zipWith Bool.xor (octetBits a) (octetBits b) := by
  unfold octetBits
  rw [List.zipWith_map,List.zipWith_self]
  refine List.map_congr_left fun i _ => ?_
  rw [UInt8.toBitVec_xor,BitVec.getLsbD_xor]

/-- Sequences of octets are added bit by bit. -/
theorem flatMap_octetBits_xor {a b : List UInt8} (h : a.length=b.length) :
    (List.zipWith (· ^^^ ·) a b).flatMap octetBits=
      List.zipWith Bool.xor (a.flatMap octetBits) (b.flatMap octetBits) := by
  induction a generalizing b with
  | nil =>
    cases b with
    | nil => rfl
    | cons _ _ => cases h
  | cons x a ih =>
    cases b with
    | nil => cases h
    | cons y b =>
      have hoctets : (octetBits x).length=(octetBits y).length := rfl
      rw [List.zipWith_cons_cons,List.flatMap_cons,List.flatMap_cons,List.flatMap_cons,octetBits_xor,
        ih (Nat.succ.inj h),List.zipWith_append hoctets]

/-- Eight bits for each octet. -/
theorem length_flatMap_octetBits (octets : List UInt8) :
    (octets.flatMap octetBits).length=8*octets.length := by
  induction octets with
  | nil => rfl
  | cons octet octets ih =>
    rw [List.flatMap_cons,List.length_append,ih,List.length_cons]
    change 8+8*octets.length=_
    omega

/-- An error goes unnoticed exactly when it leaves no trace in an empty
register. -/
theorem evaluateChecksum_xor {record error : Record} (h : evaluateChecksum record=true) :
    evaluateChecksum (Record.xor record error)=true ↔ feed poly 0#32 (recordBits error)=0#32 := by
  have hlength : (recordBits record).length=(recordBits error).length := by
    rw [recordBits,recordBits,length_flatMap_octetBits,length_flatMap_octetBits,record.size,error.size]
  have hfeed := feed_xor poly (BitVec.allOnes 32) 0#32 hlength
  rw [BitVec.xor_zero] at hfeed
  have hbits : recordBits (Record.xor record error)=
      List.zipWith Bool.xor (recordBits record) (recordBits error) :=
    flatMap_octetBits_xor (record.size.trans error.size.symm)
  rw [evaluateChecksum_iff_feed,hbits,hfeed,(evaluateChecksum_iff_feed record).mp h]
  constructor
  · intro hsame
    have hcancel := congrArg ((bitStep poly)^[32] (BitVec.allOnes 32) ^^^ ·) hsame
    rwa [←BitVec.xor_assoc,BitVec.xor_self,BitVec.zero_xor] at hcancel
  · intro hzero
    rw [hzero,BitVec.xor_zero]

/-- The bits of octets, one by one. -/
theorem getElem?_flatMap_octetBits (octets : List UInt8) (i : ℕ) :
    (octets.flatMap octetBits)[i]?=
      octets[i/8]?.map fun octet => octet.toBitVec.getLsbD (i%8) := by
  induction octets generalizing i with
  | nil => rfl
  | cons octet octets ih =>
    rw [List.flatMap_cons]
    have hlength : (octetBits octet).length=8 := rfl
    by_cases hi : i<8
    · rw [List.getElem?_append_left (by omega),Nat.div_eq_of_lt hi,Nat.mod_eq_of_lt hi,
        List.getElem?_cons_zero,octetBits,List.getElem?_map,List.getElem?_range hi]
      rfl
    · have hdiv : i/8=(i-8)/8+1 := by omega
      have hmod : i%8=(i-8)%8 := by omega
      rw [List.getElem?_append_right (by omega),hlength,ih,hdiv,hmod,List.getElem?_cons_succ]

/-- A record that is not all zero has a bit that is set. -/
theorem mem_recordBits {error : Record} (h : error≠Record.blank) : true∈recordBits error := by
  by_contra hnone
  apply h
  apply Record.ext_octets
  refine List.eq_replicate_iff.mpr ⟨error.size,fun octet hoctet => ?_⟩
  apply UInt8.toBitVec_inj.mp
  apply BitVec.eq_of_getLsbD_eq
  intro i hi
  by_contra hset
  apply hnone
  rw [recordBits,List.mem_flatMap]
  refine ⟨octet,hoctet,List.mem_map.mpr ⟨i,List.mem_range.mpr hi,?_⟩⟩
  exact Bool.eq_true_of_not_eq_false (fun hclear => hset (hclear.trans BitVec.getLsbD_zero.symm))

/-- Every sample passes its checksum, and every error confined to thirty-two
consecutive bits of a record that passes makes it fail. -/
theorem checksum_detects_bursts :
    (∀ recordFlags leftData rightData timeAgo timerVal tc data page writer,
      evaluateChecksum (writeSampleToMem recordFlags leftData rightData timeAgo timerVal tc data page
        writer).writeBlock=true) ∧
      ∀ record error start,evaluateChecksum record=true → error≠Record.blank →
        (∀ i,recordBit error i=true → start ≤ i ∧ i < start+32) →
        evaluateChecksum (Record.xor record error)=false := by
  constructor
  · intro recordFlags leftData rightData timeAgo timerVal tc data page writer
    exact sampleBlock_valid _ _ _ _ _
  · intro record error start hpass herror hwindow
    have hinside : ∀ i,(recordBits error)[i]?=some true → start ≤ i ∧ i < start+32 := by
      intro i hi
      apply hwindow
      rw [recordBits,getElem?_flatMap_octetBits,Option.map_eq_some_iff] at hi
      obtain ⟨octet,hoctet,hbit⟩ := hi
      rw [recordBit,Record.octet,List.getD_eq_getElem?_getD,hoctet]
      exact hbit
    have hburst : feed poly 0#32 (recordBits error)≠0#32 :=
      feed_burst_ne_zero rfl hinside (mem_recordBits herror)
    exact Bool.eq_false_of_not_eq_true (mt (evaluateChecksum_xor hpass).mp hburst)

/-- Twenty octets of one and their checksum. -/
def onesRecord : Record := ⟨List.replicate 20 0x01++[0xd3,0x3e,0xbf,0x6b],rfl⟩

/-- A burst from the last data octet into the stored checksum. -/
def straddlingError : Record := ⟨List.replicate 19 0x00++[0x80,0x01,0x00,0x00,0x00],rfl⟩

/-- A burst that straddles data and checksum is detected. -/
theorem straddling_burst_detected :
    evaluateChecksum onesRecord=true ∧
      evaluateChecksum (Record.xor onesRecord straddlingError)=false := by
  have hpass : evaluateChecksum onesRecord=true := by decide +kernel
  refine ⟨hpass,checksum_detects_bursts.2 onesRecord straddlingError 159 hpass (by decide) ?_⟩
  intro i hi
  have hbits : ∀ i<192,recordBit straddlingError i=true → 159 ≤ i ∧ i < 159+32 := by decide +kernel
  by_cases hlt : i<192
  · exact hbits i hlt hi
  · rw [recordBit,Record.octet,List.getD_eq_getElem?_getD,
      List.getElem?_eq_none (by rw [straddlingError.size,memoryRecordSize]; omega)] at hi
    exact absurd (BitVec.getLsbD_zero.symm.trans hi) Bool.noConfusion

end VlfGateway.RecordCrc
