import VlfGateway.RadioQueue

/-!
# Frames on the radio's bus

Frames are written to the radio and read from it octet by octet over SPI. The
writer lays out a fixed header of nine octets. The reader derives the length
of the header from the frame control field and computes the length of the
payload in eight bits, without asking whether the frame is long enough for
its own header.
-/

namespace VlfGateway.RadioFrame

open RadioQueue

/-- `struct rx_frame`. -/
structure RxSlot extends RxFrame where
  /-- `crc_status`. -/
  crcStatus : UInt8
  /-- `energy_detect`. -/
  energyDetect : UInt8

/-- The bus between two calls of `spi_start` and `spi_stop`. -/
structure Spi where
  /-- What the radio answers, transfer by transfer. -/
  incoming : ℕ → UInt8
  /-- What was sent to it so far. -/
  sent : List UInt8

/-- The answer to the transfer that is `k` transfers ahead. -/
def Spi.ahead (spi : Spi) (k : ℕ) : UInt8 := spi.incoming (spi.sent.length+k)

/-- The bus after further octets were sent. -/
def Spi.after (spi : Spi) (octets : List UInt8) : Spi := {spi with sent := spi.sent++octets}

/-- `spi_xfer`. -/
def spiXfer (data : UInt8) (spi : Spi) : UInt8 × Spi := (spi.ahead 0,spi.after [data])

/-- `BLANK_SPI_CHARACTER`. -/
def blankSpiCharacter : UInt8 := 0

/-- `RADIO_SPI_CMD_FW`. -/
def radioSpiCmdFw : UInt8 := 0x60

/-- `RADIO_SPI_CMD_FR`. -/
def radioSpiCmdFr : UInt8 := 0x20

/-- `FCF_PAN_ID_COMPRESSION`. -/
def fcfPanIdCompression : UInt16 := 0x40

/-- `FCF_ACKNOWLEDGE_REQUEST`. -/
def fcfAcknowledgeRequest : UInt16 := 0x20

/-- `FRAME_TYPE_DATA`. -/
def frameTypeData : UInt16 := 1

/-- `FRAME_VERSION_IEEE_2006`. -/
def frameVersionIeee2006 : UInt16 := 1

/-- `FRAME_PAN_ID_16BIT_ADDR`. -/
def framePanId16bitAddr : UInt16 := 2

/-- `FRAME_PAN_ID_64BIT_ADDR`. -/
def framePanId64bitAddr : UInt16 := 3

/-! ## Words and headers -/

/-- `write_spi_word`. -/
def writeSpiWord (word : UInt16) (spi : Spi) : Spi :=
  (spiXfer ((word >>> 8) &&& 0xFF).toUInt8 (spiXfer (word &&& 0xFF).toUInt8 spi).2).2

/-- `read_spi_word`. -/
def readSpiWord (spi : Spi) : UInt16 × Spi :=
  let lsb := spiXfer blankSpiCharacter spi
  let msb := spiXfer blankSpiCharacter lsb.2
  (msb.1.toUInt16 <<< 8 ||| lsb.1.toUInt16,msb.2)

/-- The fields of the radio interface that name the sender. -/
structure Sender where
  /-- `pan_id`. -/
  panId : UInt16
  /-- `short_address`. -/
  shortAddress : UInt16
  /-- `seq`. -/
  seq : UInt8

/-- `ieee_header_len`. -/
def ieeeHeaderLen (_ : TxFrame) : UInt8 := 9

/-- The frame control field of an outgoing frame. -/
def outgoingFcf (tx : TxFrame) : UInt16 :=
  let fcf := framePanId16bitAddr <<< 14 ||| frameVersionIeee2006 <<< 12 |||
    framePanId16bitAddr <<< 10 ||| fcfPanIdCompression ||| frameTypeData
  if 0<tx.ack then fcf ||| fcfAcknowledgeRequest else fcf

/-- `write_out_ieee_header`. -/
def writeOutIeeeHeader (tx : TxFrame) (sender : Sender) (spi : Spi) : Sender × Spi :=
  let control := writeSpiWord (outgoingFcf tx) spi
  let sequence := (spiXfer sender.seq control).2
  let panId := writeSpiWord sender.panId sequence
  let destination := writeSpiWord tx.destinationAddress panId
  ({sender with seq := sender.seq+1},writeSpiWord sender.shortAddress destination)

/-- The destination fields of `read_in_ieee_header`, behind `read` octets.
Addresses of 64 bits are not read. -/
def readDestination (destAddrMode : UInt16) (read : UInt8) (spi : Spi) : UInt8 × Spi :=
  if destAddrMode=framePanId16bitAddr then (read+4,(readSpiWord (readSpiWord spi).2).2)
  else if destAddrMode=framePanId64bitAddr then (read+2,(readSpiWord spi).2)
  else (read,spi)

/-- The PAN ID of the source, which is left out under compression. -/
def readSourcePanId (panIdCompression : UInt16) (read : UInt8) (spi : Spi) : UInt8 × Spi :=
  if panIdCompression≠0 then (read,spi) else (read+2,(readSpiWord spi).2)

/-- `read_in_ieee_header`. -/
def readInIeeeHeader (rx : RxSlot) (spi : Spi) : UInt8 × RxSlot × Spi :=
  let fcf := readSpiWord spi
  let panIdCompression := fcf.1 &&& fcfPanIdCompression
  let destAddrMode := (fcf.1 >>> 10) &&& 0x3
  let srcAddrMode := (fcf.1 >>> 14) &&& 0x3
  let seq := (spiXfer blankSpiCharacter fcf.2).2
  let destination := readDestination destAddrMode 3 seq
  if srcAddrMode=framePanId16bitAddr then
    let panId := readSourcePanId panIdCompression destination.1 destination.2
    let source := readSpiWord panId.2
    (panId.1+2,{rx with sourceAddress := source.1},source.2)
  else if srcAddrMode=framePanId64bitAddr then
    let panId := readSourcePanId panIdCompression destination.1 destination.2
    (panId.1,rx,panId.2)
  else (destination.1,rx,destination.2)

/-! ## Whole frames -/

/-- A store of one octet into the buffer. -/
def putOctet (data : FrameData) (i : ℕ) (octet : UInt8) : FrameData :=
  ⟨data.octets.set i octet,by rw [List.length_set,data.size]⟩

/-- A store outside of the buffer has no defined effect and is no result. -/
def storeOctet (data : FrameData) (i : ℕ) (octet : UInt8) : Option FrameData :=
  if i<frameDataSize then some (putOctet data i octet) else none

/-- The loop of `radio_frame_read` with `n` rounds to go from index `i` on. -/
def readPayload : ℕ → ℕ → FrameData → Spi → Option (FrameData × Spi)
  | 0,_,data,spi => some (data,spi)
  | n+1,i,data,spi =>
    let octet := spiXfer blankSpiCharacter spi
    match storeOctet data i octet.1 with
    | some stored => readPayload n (i+1) stored octet.2
    | none => none

/-- `radio_frame_read`, with its result, the slot and the bus. -/
def radioFrameRead (rx : RxSlot) (spi : Spi) : Option (UInt8 × RxSlot × Spi) :=
  let command := (spiXfer radioSpiCmdFr spi).2
  let mpduLen := spiXfer blankSpiCharacter command
  let header := readInIeeeHeader rx mpduLen.2
  let length := mpduLen.1-(header.1+2)
  (readPayload length.toNat 0 header.2.1.data header.2.2).map fun payload =>
    (0xFF,{header.2.1 with length := length,data := payload.1},payload.2)

/-- The loop of `radio_frame_write` over the first octets of the buffer. A
read outside of it is no result. -/
def writePayload (data : FrameData) : ℕ → ℕ → Spi → Option Spi
  | 0,_,spi => some spi
  | n+1,i,spi =>
    match data.octets[i]? with
    | some octet => writePayload data n (i+1) (spiXfer octet spi).2
    | none => none

/-- `radio_frame_write`. It halts on a frame that is too long, which is no
result. -/
def radioFrameWrite (tx : TxFrame) (sender : Sender) (spi : Spi) : Option (Sender × Spi) :=
  let command := (spiXfer radioSpiCmdFw spi).2
  let len := tx.length+ieeeHeaderLen tx+2
  let length := (spiXfer len command).2
  if 127<len then none
  else
    let header := writeOutIeeeHeader tx sender length
    (writePayload tx.data tx.length.toNat 0 header.2).map fun payload =>
      (header.1,(spiXfer blankSpiCharacter (spiXfer blankSpiCharacter payload).2).2)

/-! ## The bus -/

@[simp] theorem Spi.after_nil (spi : Spi) : spi.after []=spi := by
  unfold Spi.after
  rw [List.append_nil]

/-- Octets sent one after the other are sent together. -/
@[simp] theorem Spi.after_after (spi : Spi) (first second : List UInt8) :
    (spi.after first).after second=spi.after (first++second) := by
  unfold Spi.after
  rw [List.append_assoc]

/-- Sending moves on in what the radio answers. -/
@[simp] theorem Spi.ahead_after (spi : Spi) (octets : List UInt8) (k : ℕ) :
    (spi.after octets).ahead k=spi.ahead (octets.length+k) := by
  unfold Spi.ahead Spi.after
  rw [List.length_append,Nat.add_assoc]

/-- A word is two transfers, the low octet first. -/
theorem readSpiWord_eq (spi : Spi) :
    readSpiWord spi=((spi.ahead 1).toUInt16 <<< 8 ||| (spi.ahead 0).toUInt16,spi.after [0,0]) := by
  simp only [readSpiWord,spiXfer,Spi.ahead_after,Spi.after_after]
  rfl

/-- Octets of a word in the order they are sent. -/
def wordOctets16 (word : UInt16) : List UInt8 :=
  [(word &&& 0xFF).toUInt8,((word >>> 8) &&& 0xFF).toUInt8]

/-- A word is sent low octet first. -/
theorem writeSpiWord_eq (word : UInt16) (spi : Spi) :
    writeSpiWord word spi=spi.after (wordOctets16 word) := by
  simp only [writeSpiWord,spiXfer,Spi.after_after]
  rfl

/-- A word is put together again from the octets it is sent as. -/
theorem word_of_octets (word : UInt16) :
    (((word >>> 8) &&& 0xFF).toUInt8.toUInt16 <<< 8 ||| (word &&& 0xFF).toUInt8.toUInt16)=word := by
  have hlt := word.toNat_lt
  have hmask : (0xFF : UInt16).toNat=2^8-1 := rfl
  have hshift : (8 : UInt16).toNat%16=8 := rfl
  have hhigh : (word.toNat/2^8%2^8) <<< 8 % 2^16=(word.toNat/2^8%2^8) <<< 8 := by
    rw [Nat.shiftLeft_eq]
    omega
  apply UInt16.toNat_inj.mp
  simp only [UInt16.toNat_or,UInt16.toNat_shiftLeft,UInt8.toNat_toUInt16,UInt16.toNat_toUInt8,
    UInt16.toNat_and,UInt16.toNat_shiftRight]
  rw [hmask,hshift,Nat.and_two_pow_sub_one_eq_mod,Nat.and_two_pow_sub_one_eq_mod,Nat.mod_mod,
    Nat.mod_mod,Nat.shiftRight_eq_div_pow,hhigh,←Nat.shiftLeft_add_eq_or_of_lt (by omega),
    Nat.shiftLeft_eq]
  omega

/-! ## Reading a frame -/

/-- Octets of the destination fields. -/
def destinationLen (destAddrMode : UInt16) : ℕ :=
  if destAddrMode=framePanId16bitAddr then 4
  else if destAddrMode=framePanId64bitAddr then 2 else 0

/-- Octets of the source's PAN ID. -/
def sourcePanIdLen (panIdCompression : UInt16) : ℕ := if panIdCompression≠0 then 0 else 2

/-- Octets of the header that a frame control field announces, the sequence
number included. -/
def headerLen (fcf : UInt16) : ℕ :=
  3+destinationLen ((fcf >>> 10) &&& 0x3)+
    if (fcf >>> 14) &&& 0x3=framePanId16bitAddr then sourcePanIdLen (fcf &&& fcfPanIdCompression)+2
    else if (fcf >>> 14) &&& 0x3=framePanId64bitAddr then sourcePanIdLen (fcf &&& fcfPanIdCompression)
    else 0

/-- The frame control field that the radio answers next. -/
def Spi.fcf (spi : Spi) : UInt16 := (spi.ahead 1).toUInt16 <<< 8 ||| (spi.ahead 0).toUInt16

/-- The bus after a number of octets was read. -/
def Spi.skip (spi : Spi) (n : ℕ) : Spi := spi.after (List.replicate n blankSpiCharacter)

/-- Reading twice reads the octets of both. -/
@[simp] theorem Spi.skip_skip (spi : Spi) (m n : ℕ) : (spi.skip m).skip n=spi.skip (m+n) := by
  unfold Spi.skip
  rw [Spi.after_after,List.replicate_append_replicate]

/-- Reading moves on in what the radio answers. -/
@[simp] theorem Spi.ahead_skip (spi : Spi) (n k : ℕ) : (spi.skip n).ahead k=spi.ahead (n+k) := by
  unfold Spi.skip
  rw [Spi.ahead_after,List.length_replicate]

/-- One transfer of a blank octet reads one. -/
theorem spiXfer_blank (spi : Spi) : spiXfer blankSpiCharacter spi=(spi.ahead 0,spi.skip 1) := rfl

/-- Reading a word reads two octets. -/
theorem readSpiWord_skip (spi : Spi) : (readSpiWord spi).2=spi.skip 2 := by
  rw [readSpiWord_eq]
  rfl

/-- The destination fields are read as far as they are counted. -/
theorem readDestination_effect (destAddrMode : UInt16) (spi : Spi) :
    (readDestination destAddrMode 3 spi).1.toNat=3+destinationLen destAddrMode ∧
      (readDestination destAddrMode 3 spi).2=spi.skip (destinationLen destAddrMode) := by
  unfold readDestination destinationLen
  split
  · exact ⟨rfl,by rw [readSpiWord_skip,readSpiWord_skip,Spi.skip_skip]⟩
  · split
    · exact ⟨rfl,readSpiWord_skip spi⟩
    · exact ⟨rfl,(Spi.after_nil spi).symm⟩

/-- The destination fields have at most four octets. -/
theorem destinationLen_le (destAddrMode : UInt16) : destinationLen destAddrMode≤4 := by
  unfold destinationLen
  split
  · exact le_refl 4
  · split <;> omega

/-- The source's PAN ID has at most two octets. -/
theorem sourcePanIdLen_le (panIdCompression : UInt16) : sourcePanIdLen panIdCompression≤2 := by
  unfold sourcePanIdLen
  split <;> omega

/-- The source's PAN ID is read as far as it is counted. -/
theorem readSourcePanId_effect (panIdCompression : UInt16) {read : UInt8} (hread : read.toNat≤7)
    (spi : Spi) :
    (readSourcePanId panIdCompression read spi).1.toNat=read.toNat+sourcePanIdLen panIdCompression ∧
      (readSourcePanId panIdCompression read spi).2=spi.skip (sourcePanIdLen panIdCompression) := by
  unfold readSourcePanId sourcePanIdLen
  split
  · exact ⟨rfl,(Spi.after_nil spi).symm⟩
  · refine ⟨?_,readSpiWord_skip spi⟩
    rw [UInt8.toNat_add]
    exact Nat.mod_eq_of_lt (by change _+2<256; omega)

/-- A header has at least three and at most eleven octets. -/
theorem headerLen_bounds (fcf : UInt16) : 3≤headerLen fcf ∧ headerLen fcf≤11 := by
  have hdest := destinationLen_le ((fcf >>> 10) &&& 0x3)
  have hpan := sourcePanIdLen_le (fcf &&& fcfPanIdCompression)
  unfold headerLen
  split
  · omega
  · split <;> omega

/-- Reading a header takes as many transfers as it reports, and leaves the
payload alone. -/
theorem readInIeeeHeader_effect (rx : RxSlot) (spi : Spi) :
    (readInIeeeHeader rx spi).1.toNat=headerLen spi.fcf ∧
      (readInIeeeHeader rx spi).2.1.data=rx.data ∧
      (readInIeeeHeader rx spi).2.2=spi.skip (headerLen spi.fcf) := by
  have hword : readSpiWord spi=(spi.fcf,spi.skip 2) := readSpiWord_eq spi
  unfold readInIeeeHeader headerLen
  rw [hword]
  dsimp only
  rw [spiXfer_blank,Spi.skip_skip]
  generalize spi.fcf=fcf
  obtain ⟨hdest,hdestSpi⟩ := readDestination_effect ((fcf >>> 10) &&& 0x3) (spi.skip 3)
  have hle := destinationLen_le ((fcf >>> 10) &&& 0x3)
  generalize readDestination ((fcf >>> 10) &&& 0x3) 3 (spi.skip 3)=dest at hdest hdestSpi
  rw [Spi.skip_skip] at hdestSpi
  obtain ⟨hpan,hpanSpi⟩ := readSourcePanId_effect (fcf &&& fcfPanIdCompression)
    (by omega : dest.1.toNat≤7) dest.2
  have hpanLe := sourcePanIdLen_le (fcf &&& fcfPanIdCompression)
  generalize readSourcePanId (fcf &&& fcfPanIdCompression) dest.1 dest.2=pan at hpan hpanSpi
  rw [hdestSpi,Spi.skip_skip] at hpanSpi
  split
  · refine ⟨?_,rfl,?_⟩
    · have hadd : (pan.1+2).toNat=pan.1.toNat+2 := by
        rw [UInt8.toNat_add]
        exact Nat.mod_eq_of_lt (by change _+2<256; omega)
      rw [hadd]
      omega
    · rw [readSpiWord_skip,hpanSpi,Spi.skip_skip]
      rfl
  · split
    · refine ⟨?_,rfl,hpanSpi⟩
      change pan.1.toNat=_
      omega
    · exact ⟨hdest,rfl,hdestSpi⟩

/-- Rounds of the payload loop that stay inside the buffer store the octets
the radio answers, one after the other, and nothing else. -/
theorem readPayload_inside {n i : ℕ} (data : FrameData) (spi : Spi) (h : i+n≤frameDataSize) :
    ∃ stored,readPayload n i data spi=some (stored,spi.skip n) ∧
      ∀ j,stored.octets[j]?=if i≤j ∧ j < i+n then some (spi.ahead (j-i)) else data.octets[j]? := by
  induction n generalizing i data spi with
  | zero =>
    refine ⟨data,by rw [readPayload,Spi.skip,List.replicate_zero,Spi.after_nil],fun j => ?_⟩
    rw [if_neg (by omega)]
  | succ n ih =>
    have hi : i<frameDataSize := by omega
    have hstore : storeOctet data i (spi.ahead 0)=some (putOctet data i (spi.ahead 0)) := if_pos hi
    obtain ⟨stored,hread,hoctets⟩ := ih (i:=i+1) (putOctet data i (spi.ahead 0)) (spi.skip 1)
      (by omega)
    refine ⟨stored,?_,fun j => ?_⟩
    · rw [readPayload,spiXfer_blank]
      dsimp only
      rw [hstore]
      dsimp only
      rw [hread,Spi.skip_skip,Nat.add_comm 1 n]
    · rw [hoctets]
      by_cases hlater : i+1≤j ∧ j < i+1+n
      · rw [if_pos hlater,if_pos (by omega),Spi.ahead_skip]
        congr 2
        omega
      · rw [if_neg hlater,putOctet]
        by_cases hnow : j=i
        · rw [if_pos (by omega),hnow,List.getElem?_set_self (by rw [data.size]; exact hi),Nat.sub_self]
        · rw [if_neg (by omega),List.getElem?_set_ne (Ne.symm hnow)]

/-- Rounds that leave the buffer are no result. -/
theorem readPayload_outside {n i : ℕ} (data : FrameData) (spi : Spi) (h : frameDataSize < i+n)
    (hi : i≤frameDataSize) : readPayload n i data spi=none := by
  induction n generalizing i data spi with
  | zero => omega
  | succ n ih =>
    rw [readPayload]
    by_cases hlast : i<frameDataSize
    · have hstore : storeOctet data i (spiXfer blankSpiCharacter spi).1=
          some (putOctet data i (spiXfer blankSpiCharacter spi).1) := if_pos hlast
      rw [hstore]
      exact ih _ _ (by omega) (by omega)
    · have hstore : storeOctet data i (spiXfer blankSpiCharacter spi).1=none := if_neg hlast
      rw [hstore]

/-- The bus behind the read command and the length of the frame. -/
def Spi.framed (spi : Spi) : Spi := spi.after [radioSpiCmdFr,blankSpiCharacter]

/-- Length and payload are worked out behind the header. -/
theorem radioFrameRead_eq (rx : RxSlot) (spi : Spi) :
    radioFrameRead rx spi=
      (readPayload (spi.ahead 1-((readInIeeeHeader rx spi.framed).1+2)).toNat 0
        (readInIeeeHeader rx spi.framed).2.1.data (readInIeeeHeader rx spi.framed).2.2).map
        fun payload => (0xFF,
          {(readInIeeeHeader rx spi.framed).2.1 with
            length := spi.ahead 1-((readInIeeeHeader rx spi.framed).1+2),data := payload.1},
          payload.2) := by
  have hmpdu : spiXfer blankSpiCharacter (spiXfer radioSpiCmdFr spi).2=(spi.ahead 1,spi.framed) := by
    rw [spiXfer,spiXfer,Spi.ahead_after,Spi.after_after]
    rfl
  simp only [radioFrameRead,hmpdu]

/-- Header and check sequence are counted in eight bits. -/
theorem overheadLength_toNat (rx : RxSlot) (spi : Spi) :
    ((readInIeeeHeader rx spi).1+2).toNat=headerLen spi.fcf+2 := by
  have hbounds := headerLen_bounds spi.fcf
  rw [UInt8.toNat_add,(readInIeeeHeader_effect rx spi).1]
  exact Nat.mod_eq_of_lt (by change _+2<256; omega)

/-- The length of a payload whose header fits. -/
theorem payloadLength_toNat {rx : RxSlot} {spi : Spi}
    (h : headerLen spi.framed.fcf+2≤(spi.ahead 1).toNat) :
    (spi.ahead 1-((readInIeeeHeader rx spi.framed).1+2)).toNat=
      (spi.ahead 1).toNat-(headerLen spi.framed.fcf+2) := by
  have hadd := overheadLength_toNat rx spi.framed
  rw [UInt8.toNat_sub_of_le _ _ (UInt8.le_iff_toNat_le.mpr (by rw [hadd]; exact h)),hadd]

/-- A frame whose header fits into it is read into the buffer. -/
theorem radioFrameRead_inside {spi : Spi} (rx : RxSlot) (hL : spi.ahead 1≤127)
    (h : headerLen spi.framed.fcf+2≤(spi.ahead 1).toNat) :
    ∃ after,radioFrameRead rx spi=some (0xFF,after,spi.framed.skip ((spi.ahead 1).toNat-2)) ∧
      after.length.toNat=(spi.ahead 1).toNat-(headerLen spi.framed.fcf+2) ∧
      after.sourceAddress=(readInIeeeHeader rx spi.framed).2.1.sourceAddress ∧
      ∀ j,after.data.octets[j]?=if j<after.length.toNat
        then some (spi.framed.ahead (headerLen spi.framed.fcf+j)) else rx.data.octets[j]? := by
  have hLn : (spi.ahead 1).toNat≤127 := UInt8.le_iff_toNat_le.mp hL
  obtain ⟨_,hdata,hspi⟩ := readInIeeeHeader_effect rx spi.framed
  have hlength := @payloadLength_toNat rx spi h
  obtain ⟨stored,hread,hoctets⟩ := readPayload_inside (i:=0) rx.data
    (spi.framed.skip (headerLen spi.framed.fcf))
    (n:=(spi.ahead 1).toNat-(headerLen spi.framed.fcf+2)) (by unfold frameDataSize; omega)
  have hbus : headerLen spi.framed.fcf+((spi.ahead 1).toNat-(headerLen spi.framed.fcf+2))=
      (spi.ahead 1).toNat-2 := by omega
  rw [Spi.skip_skip,hbus] at hread
  rw [radioFrameRead_eq,hlength,hdata,hspi,hread,Option.map_some]
  refine ⟨_,rfl,hlength,rfl,fun j => ?_⟩
  dsimp only
  rw [hoctets,hlength,Spi.ahead_skip]
  simp only [Nat.zero_le,true_and,Nat.zero_add,Nat.sub_zero]

/-- A frame too short for its header: the length wraps, and the payload leaves
the buffer. -/
theorem radioFrameRead_short {spi : Spi} (rx : RxSlot)
    (h : (spi.ahead 1).toNat<headerLen spi.framed.fcf+2) : radioFrameRead rx spi=none := by
  have hbounds := headerLen_bounds spi.framed.fcf
  have hwrap : (spi.ahead 1-((readInIeeeHeader rx spi.framed).1+2)).toNat=
      256-(headerLen spi.framed.fcf+2)+(spi.ahead 1).toNat := by
    rw [UInt8.toNat_sub,overheadLength_toNat]
    omega
  rw [radioFrameRead_eq,readPayload_outside _ _ (by rw [hwrap]; unfold frameDataSize; omega)
    (Nat.zero_le _)]
  rfl

/-- What reading a frame should do: the header is read as far as it reports,
the payload goes to the first octets of the buffer, and payload, header and
check sequence make up the announced length. -/
def ReadBounded (rx : RxSlot) (spi : Spi) : Prop :=
  (readInIeeeHeader rx spi.framed).2.2.sent.length=
      spi.framed.sent.length+(readInIeeeHeader rx spi.framed).1.toNat ∧
    ∃ after bus,radioFrameRead rx spi=some (0xFF,after,bus) ∧
      bus.sent.length=
        (readInIeeeHeader rx spi.framed).2.2.sent.length+after.length.toNat ∧
      (∀ i<after.length.toNat,i<frameDataSize ∧
        after.data.octets[i]?=some ((readInIeeeHeader rx spi.framed).2.2.ahead i)) ∧
      (∀ i,after.length.toNat ≤ i → after.data.octets[i]?=rx.data.octets[i]?) ∧
      after.length.toNat+(readInIeeeHeader rx spi.framed).1.toNat+2=(spi.ahead 1).toNat

/-- A frame of at most 127 octets is read as it should be exactly when it is
long enough for the header its control field announces and the check
sequence. -/
theorem read_bounded_iff {spi : Spi} (rx : RxSlot) (hL : spi.ahead 1≤127) :
    ReadBounded rx spi ↔ headerLen spi.framed.fcf+2≤(spi.ahead 1).toNat := by
  obtain ⟨hlen,_,hspi⟩ := readInIeeeHeader_effect rx spi.framed
  unfold ReadBounded
  rw [hlen,hspi]
  constructor
  · rintro ⟨_,after,bus,_,_,_,_,hsum⟩
    omega
  · intro h
    have hLn : (spi.ahead 1).toNat≤127 := UInt8.le_iff_toNat_le.mp hL
    obtain ⟨after,hread,hlength,_,hoctets⟩ := radioFrameRead_inside rx hL h
    have hsent : ∀ n,(spi.framed.skip n).sent.length=spi.framed.sent.length+n := by
      intro n
      rw [Spi.skip,Spi.after,List.length_append,List.length_replicate]
    refine ⟨hsent _,after,_,hread,?_,fun i hi => ⟨?_,?_⟩,fun i hi => ?_,by omega⟩
    · rw [hsent,hsent]
      omega
    · unfold frameDataSize
      omega
    · rw [hoctets,if_pos hi,Spi.ahead_skip]
    · rw [hoctets,if_neg (by omega)]

/-- A slot as `radif_init_struct` leaves it. -/
def blankSlot : RxSlot := ⟨⟨FrameData.zero,0,0⟩,0,0⟩

/-- The radio answers the given octets, and zeros afterwards. -/
def answering (octets : List UInt8) : Spi := ⟨fun k => octets.getD k 0,[]⟩

/-- A data frame with sixteen-bit addresses and one octet of payload. -/
theorem read_bounded_one_octet :
    ReadBounded blankSlot (answering [0x00,0x0C,0x41,0x98]) :=
  (read_bounded_iff blankSlot (by decide)).mpr (by decide)

/-- A frame of five octets that announces a header of nine: the length wraps
to 250, and the loop leaves the buffer of 127 octets. -/
theorem short_frame_overruns :
    (readInIeeeHeader blankSlot (answering [0x00,0x05,0x41,0x98]).framed).1=9 ∧
      (radioFrameRead blankSlot (answering [0x00,0x05,0x41,0x98])).isNone=true ∧
      ¬ReadBounded blankSlot (answering [0x00,0x05,0x41,0x98]) := by
  have hnone : radioFrameRead blankSlot (answering [0x00,0x05,0x41,0x98])=none :=
    radioFrameRead_short blankSlot (by decide)
  refine ⟨by decide,Option.isNone_iff_eq_none.mpr hnone,?_⟩
  rintro ⟨_,after,bus,hread,_⟩
  exact absurd (hnone.symm.trans hread) (Option.some_ne_none _).symm

/-! ## Writing a frame -/

/-- The payload loop sends the octets of the buffer. -/
theorem writePayload_eq {n i : ℕ} (data : FrameData) (spi : Spi) (h : i+n≤frameDataSize) :
    writePayload data n i spi=some (spi.after ((data.octets.drop i).take n)) := by
  induction n generalizing i spi with
  | zero => rw [writePayload,List.take_zero,Spi.after_nil]
  | succ n ih =>
    have hi : i<data.octets.length := by
      rw [data.size]
      omega
    rw [writePayload,List.getElem?_eq_getElem hi]
    dsimp only [spiXfer]
    rw [ih _ (by omega),Spi.after_after,List.drop_eq_getElem_cons hi,List.take_succ_cons,
      List.singleton_append]

/-- The nine octets of an outgoing header. -/
def headerOctets (tx : TxFrame) (sender : Sender) : List UInt8 :=
  wordOctets16 (outgoingFcf tx)++sender.seq::(wordOctets16 sender.panId++
    wordOctets16 tx.destinationAddress++wordOctets16 sender.shortAddress)

/-- Octets of a frame behind the write command, the placeholders of the check
sequence included. -/
def frameOctets (tx : TxFrame) (sender : Sender) : List UInt8 :=
  (tx.length+11)::(headerOctets tx sender++tx.data.octets.take tx.length.toNat++
    [blankSpiCharacter,blankSpiCharacter])

/-- Writing a header sends its nine octets and moves the sequence number on. -/
theorem writeOutIeeeHeader_eq (tx : TxFrame) (sender : Sender) (spi : Spi) :
    writeOutIeeeHeader tx sender spi=
      ({sender with seq := sender.seq+1},spi.after (headerOctets tx sender)) := by
  simp only [writeOutIeeeHeader,writeSpiWord_eq,spiXfer,Spi.after_after,headerOctets,
    List.append_assoc,List.cons_append,List.nil_append]

/-- A frame that is short enough is sent as a whole. -/
theorem radioFrameWrite_eq {tx : TxFrame} (h : tx.length≤116) (sender : Sender) (spi : Spi) :
    radioFrameWrite tx sender spi=some ({sender with seq := sender.seq+1},
      spi.after (radioSpiCmdFw::frameOctets tx sender)) := by
  have hn : tx.length.toNat≤116 := UInt8.le_iff_toNat_le.mp h
  have hlen : tx.length+ieeeHeaderLen tx+2=tx.length+11 := UInt8.add_assoc _ _ _
  have hfits : ¬127<tx.length+11 := by
    rw [UInt8.lt_iff_toNat_lt,UInt8.toNat_add]
    change ¬127<(tx.length.toNat+11)%256
    omega
  have hpayload := writePayload_eq (i:=0) tx.data (n:=tx.length.toNat)
    (spi.after (radioSpiCmdFw::(tx.length+11)::headerOctets tx sender))
    (by unfold frameDataSize; omega)
  simp only [radioFrameWrite,hlen,spiXfer,if_neg hfits,writeOutIeeeHeader_eq,Spi.after_after,
    List.cons_append,List.nil_append,hpayload,Option.map_some,List.drop_zero,
    frameOctets,List.append_assoc]

/-- The control field of an outgoing frame takes two values. -/
theorem outgoingFcf_cases (tx : TxFrame) : outgoingFcf tx=0x9841 ∨ outgoingFcf tx=0x9861 := by
  unfold outgoingFcf
  dsimp only
  split
  · exact .inr (by decide)
  · exact .inl (by decide)

/-- Both announce the nine octets that are written. -/
theorem headerLen_outgoing (tx : TxFrame) : headerLen (outgoingFcf tx)=9 := by
  rcases outgoingFcf_cases tx with hfcf|hfcf <;> rw [hfcf] <;> decide

/-- Behind such a control field the source address is the fourth word. -/
theorem readInIeeeHeader_source {tx : TxFrame} {spi : Spi} (rx : RxSlot)
    (h : spi.fcf=outgoingFcf tx) :
    (readInIeeeHeader rx spi).2.1.sourceAddress=
      (spi.ahead 8).toUInt16 <<< 8 ||| (spi.ahead 7).toUInt16 := by
  have hword : readSpiWord spi=(outgoingFcf tx,spi.skip 2) := by
    rw [←h]
    exact readSpiWord_eq spi
  have hmodes : (outgoingFcf tx >>> 10) &&& 0x3=framePanId16bitAddr ∧
      (outgoingFcf tx >>> 14) &&& 0x3=framePanId16bitAddr ∧
      outgoingFcf tx &&& fcfPanIdCompression≠0 := by
    rcases outgoingFcf_cases tx with hfcf|hfcf <;> rw [hfcf] <;> decide
  obtain ⟨hdest,hsource,hcompression⟩ := hmodes
  have hskip : (readDestination framePanId16bitAddr 3 (spi.skip 3)).2=spi.skip 7 := by
    rw [(readDestination_effect _ _).2,Spi.skip_skip]
    rfl
  unfold readInIeeeHeader
  rw [hword]
  dsimp only
  rw [spiXfer_blank,Spi.skip_skip,if_pos hsource,hdest]
  dsimp only
  rw [readSourcePanId,if_pos hcompression,hskip,readSpiWord_eq,Spi.ahead_skip,Spi.ahead_skip]

section Delivery

variable {tx : TxFrame} {sender : Sender} {spi : Spi}

/-- The radio delivers the octets of a frame up to its check sequence. -/
structure Delivers (tx : TxFrame) (sender : Sender) (spi : Spi) : Prop where
  /-- The length behind the read command. -/
  length : (spi.ahead 1).toNat=tx.length.toNat+11
  /-- Header and payload behind the length. -/
  octets : ∀ i<tx.length.toNat+9,some (spi.framed.ahead i)=
    (headerOctets tx sender++tx.data.octets.take tx.length.toNat)[i]?

/-- The payload has the length of the frame. -/
theorem payload_length (hlen : tx.length≤116) :
    (tx.data.octets.take tx.length.toNat).length=tx.length.toNat := by
  have hn : tx.length.toNat≤116 := UInt8.le_iff_toNat_le.mp hlen
  rw [List.length_take,tx.data.size]
  unfold frameDataSize
  omega

/-- A frame has a length octet, nine octets of header and a check sequence. -/
theorem frameOctets_length (hlen : tx.length≤116) (sender : Sender) :
    (frameOctets tx sender).length=tx.length.toNat+12 := by
  have hheader : (headerOctets tx sender).length=9 := rfl
  simp only [frameOctets,List.length_cons,List.length_append,hheader,payload_length hlen,
    List.length_nil]
  omega

/-- Octets that arrive as they were sent deliver the frame. -/
theorem delivers_of_octets (hlen : tx.length≤116)
    (h : ∀ i,i+2<(frameOctets tx sender).length →
      some (spi.ahead (1+i))=(frameOctets tx sender)[i]?) : Delivers tx sender spi := by
  have hn : tx.length.toNat≤116 := UInt8.le_iff_toNat_le.mp hlen
  have hheader : (headerOctets tx sender).length=9 := rfl
  rw [frameOctets_length hlen] at h
  refine ⟨?_,fun i hi => ?_⟩
  · have hlength : spi.ahead 1=tx.length+11 := Option.some.inj (h 0 (by omega))
    rw [hlength,UInt8.toNat_add]
    exact Nat.mod_eq_of_lt (by change _+11<256; omega)
  · have hnext := h (i+1) (by omega)
    rw [frameOctets,List.getElem?_cons_succ,List.getElem?_append_left
      (by rw [List.length_append,hheader,payload_length hlen]; omega)] at hnext
    have hplace : [radioSpiCmdFr,blankSpiCharacter].length+i=1+(i+1) := by
      rw [Nat.add_comm i 1,←Nat.add_assoc]
      rfl
    rw [←hnext,Spi.framed,Spi.ahead_after,hplace]

/-- The header of a delivered frame. -/
theorem Delivers.header (h : Delivers tx sender spi) {i : ℕ} (hi : i<9) :
    some (spi.framed.ahead i)=(headerOctets tx sender)[i]? := by
  rw [h.octets i (by omega)]
  exact List.getElem?_append_left hi

/-- The control field of a delivered frame. -/
theorem Delivers.fcf (h : Delivers tx sender spi) : spi.framed.fcf=outgoingFcf tx := by
  rw [Spi.fcf,Option.some.inj (h.header (i:=1) (by omega)),
    Option.some.inj (h.header (i:=0) (by omega))]
  exact word_of_octets _

/-- A delivered frame is read as the payload that was sent, from its sender. -/
theorem Delivers.read (h : Delivers tx sender spi) (hlen : tx.length≤116) (rx : RxSlot) :
    ∃ after rest,radioFrameRead rx spi=some (0xFF,after,rest) ∧ after.length=tx.length ∧
      after.data.octets.take tx.length.toNat=tx.data.octets.take tx.length.toNat ∧
      after.sourceAddress=sender.shortAddress := by
  have hn : tx.length.toNat≤116 := UInt8.le_iff_toNat_le.mp hlen
  have hheader : (headerOctets tx sender).length=9 := rfl
  have hfits : headerLen spi.framed.fcf+2≤(spi.ahead 1).toNat := by
    rw [h.fcf,headerLen_outgoing,h.length]
    omega
  obtain ⟨after,hread,hafter,hsource,hdata⟩ := radioFrameRead_inside rx
    (UInt8.le_iff_toNat_le.mpr (by rw [h.length]; change _≤127; omega)) hfits
  rw [h.fcf,headerLen_outgoing,h.length] at hafter
  have hsame : after.length.toNat=tx.length.toNat := by omega
  refine ⟨after,_,hread,UInt8.toNat_inj.mp hsame,?_,?_⟩
  · apply List.ext_getElem?
    intro j
    by_cases hj : j<tx.length.toNat
    · rw [List.getElem?_take_of_lt hj,hdata,if_pos (by omega),h.fcf,headerLen_outgoing,
        h.octets _ (by omega),List.getElem?_append_right (by omega),hheader,Nat.add_sub_cancel_left]
    · rw [List.getElem?_take,List.getElem?_take,if_neg hj,if_neg hj]
  · rw [hsource,readInIeeeHeader_source rx h.fcf,Option.some.inj (h.header (i:=8) (by omega)),
      Option.some.inj (h.header (i:=7) (by omega))]
    exact word_of_octets _

end Delivery

/-- What is sent for a frame of at most 116 octets, delivered with any check
sequence, is read as the same payload from the same sender. -/
theorem frame_round_trip {tx : TxFrame} (hlen : tx.length≤116) (sender : Sender) (bus : Spi) :
    ∃ octets,radioFrameWrite tx sender bus=
        some ({sender with seq := sender.seq+1},bus.after (radioSpiCmdFw::octets)) ∧
      ∀ (rx : RxSlot) (spi : Spi),
        (∀ i,i+2<octets.length → some (spi.ahead (1+i))=octets[i]?) →
        ∃ after rest,radioFrameRead rx spi=some (0xFF,after,rest) ∧ after.length=tx.length ∧
          after.data.octets.take tx.length.toNat=tx.data.octets.take tx.length.toNat ∧
          after.sourceAddress=sender.shortAddress := by
  refine ⟨frameOctets tx sender,radioFrameWrite_eq hlen sender bus,fun rx spi hdelivered => ?_⟩
  exact (delivers_of_octets hlen hdelivered).read hlen rx

/-- A frame with the octets 1, 2 and 3 for node 7. -/
def threeOctets : TxFrame :=
  ⟨FrameData.zero.copy [1,2,3] 3 (by decide),3,1,7⟩

/-- The frame of three octets comes back from the base station. -/
theorem frame_round_trip_three :
    ∃ octets,radioFrameWrite threeOctets ⟨0x1234,1,255⟩ (answering [])=
        some (⟨0x1234,1,0⟩,(answering []).after (radioSpiCmdFw::octets)) ∧
      ∀ (rx : RxSlot) (spi : Spi),
        (∀ i,i+2<octets.length → some (spi.ahead (1+i))=octets[i]?) →
        ∃ after rest,radioFrameRead rx spi=some (0xFF,after,rest) ∧ after.length=3 ∧
          after.data.octets.take 3=threeOctets.data.octets.take 3 ∧ after.sourceAddress=1 :=
  frame_round_trip (by decide) ⟨0x1234,1,255⟩ (answering [])

end VlfGateway.RadioFrame
