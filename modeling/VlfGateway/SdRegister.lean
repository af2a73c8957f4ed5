import VlfGateway.BitField

/-!
# The size of the card from its register

`ext_bits` collects a field of the card specific data register bit by bit.
The register is 16 octets, most significant first, and a collected field is
the field of the number they make. The sector count computed from the fields
is exact for some registers and wraps for others.
-/

namespace VlfGateway.SdRegister

open BitField

/-- The card specific data register as it is read from the card. -/
structure Csd where
  /-- Its octets, most significant first. -/
  octets : List UInt8
  /-- There are sixteen. -/
  size : octets.length=16

/-- One bit of the register, as `ext_bits` looks it up. -/
def bitAt (data : List UInt8) (position : ℕ) : UInt32 :=
  ((data.getD (15-position/8) 0).toUInt32>>>UInt32.ofNat (position%8)) &&& 1

/-- The loop of `ext_bits` over `size` bits from position `lsb`. -/
def extBitsLoop (data : List UInt8) (lsb : ℕ) : ℕ → UInt32
  | 0 => 0
  | i+1 => extBitsLoop data lsb i ||| bitAt data (lsb+i)<<<UInt32.ofNat i

/-- `ext_bits`. -/
def extBits (data : List UInt8) (msb lsb : ℕ) : UInt32 := extBitsLoop data lsb (1+msb-lsb)

/-- The sector count of a register, with the driver's 32-bit arithmetic. -/
def sectorsOf (csd : List UInt8) : UInt64 :=
  match (extBits csd 127 126).toNat with
  | 0 =>
    let cSize := extBits csd 73 62
    let cSizeMult := extBits csd 49 47
    let readBlLen := extBits csd 83 80
    let blockLen : UInt32 := 1<<<readBlLen
    let mult : UInt32 := 1<<<(cSizeMult+2)
    let blocknr := (cSize+1)*mult
    let capacity := blocknr*blockLen
    (capacity/512).toUInt64
  | 1 =>
    let hcCSize := extBits csd 63 48
    ((hcCSize+1)*1024).toUInt64
  | _ => 0

/-- The number the register holds. -/
def Csd.value (csd : Csd) : ℕ := bigEndian csd.octets

/-- A looked-up bit is the bit of the register's number. -/
theorem toNat_bitAt (csd : Csd) {position : ℕ} (hp : position<128) :
    (bitAt csd.octets position).toNat=(csd.value.testBit position).toNat := by
  have hsize := csd.size
  have hbit := testBit_bigEndian csd.octets (by omega : position<8*csd.octets.length)
  have hshift : (UInt32.ofNat (position%8)).toNat%32=position%8 := by
    rw [UInt32.toNat_ofNat_of_lt' (by unfold UInt32.size; omega)]
    omega
  unfold bitAt Csd.value
  rw [hbit,hsize,UInt32.toNat_and,UInt32.toNat_shiftRight,hshift,UInt8.toNat_toUInt32]
  rw [show (1 : UInt32).toNat=1 from rfl,Nat.and_one_is_mod,Nat.shiftRight_eq_div_pow,
    ←Nat.toNat_testBit]

/-- A single bit shifted into place. -/
theorem testBit_shifted (bit : Bool) (i j : ℕ) :
    (bit.toNat*2^i).testBit j=(decide (j=i) && bit) := by
  cases bit
  · simp
  · rw [Bool.toNat_true,Nat.one_mul,Nat.testBit_two_pow,Bool.and_true,decide_eq_decide]
    exact eq_comm

/-- The collected bits are the bits of the register's number. -/
theorem testBit_extBitsLoop (csd : Csd) (lsb size : ℕ) (hs : size≤32) (hp : lsb+size≤128) (j : ℕ) :
    (extBitsLoop csd.octets lsb size).toNat.testBit j=
      (decide (j < size) && csd.value.testBit (lsb+j)) := by
  induction size with
  | zero => simp [extBitsLoop]
  | succ i ih =>
    have hshift : (UInt32.ofNat i).toNat%32=i := by
      rw [UInt32.toNat_ofNat_of_lt' (by unfold UInt32.size; omega)]
      omega
    have hbit := toNat_bitAt csd (by omega : lsb+i<128)
    have hle : (csd.value.testBit (lsb+i)).toNat≤1 := Bool.toNat_le _
    have hsmall : (csd.value.testBit (lsb+i)).toNat*2^i<2^32 := by
      calc (csd.value.testBit (lsb+i)).toNat*2^i
          ≤ 1*2^i := Nat.mul_le_mul_right _ hle
        _ < 2^32 := by
          rw [Nat.one_mul]
          exact Nat.pow_lt_pow_right (by decide) (by omega)
    rw [extBitsLoop,UInt32.toNat_or,Nat.testBit_or,ih (by omega) (by omega),
      UInt32.toNat_shiftLeft,hshift,hbit,Nat.shiftLeft_eq,Nat.mod_eq_of_lt hsmall,testBit_shifted]
    by_cases hj : j=i
    · subst hj
      simp
    · have hiff : j < i+1 ↔ j < i := by omega
      simp [hj,hiff]

/-- `ext_bits` gives the field of the register's number. -/
theorem toNat_extBits (csd : Csd) {msb lsb : ℕ} (hl : lsb ≤ msb) (hw : msb<lsb+32) (hm : msb<128) :
    (extBits csd.octets msb lsb).toNat=field csd.value msb lsb := by
  apply eq_field_of_testBit
  intro i
  unfold extBits
  rw [testBit_extBitsLoop csd lsb (1+msb-lsb) (by omega) (by omega),Nat.add_comm 1 msb]

/-- Octets on a card of standard capacity, as its register states them. -/
def Csd.octetCount (csd : Csd) : ℕ :=
  (field csd.value 73 62+1)*2^(field csd.value 49 47+2)*2^field csd.value 83 80

/-- Blocks on a card of high capacity, as its register states them. -/
def Csd.highBlocks (csd : Csd) : ℕ := (field csd.value 69 48+1)*1024

/-- Two to the power of a small word, as the driver shifts it. -/
theorem toNat_one_shiftLeft (word : UInt32) (h : word.toNat<32) :
    ((1 : UInt32)<<<word).toNat=2^word.toNat := by
  rw [UInt32.toNat_shiftLeft,show (1 : UInt32).toNat=1 from rfl,Nat.mod_eq_of_lt h,
    Nat.shiftLeft_eq,Nat.one_mul,Nat.mod_eq_of_lt (Nat.pow_lt_pow_right (by decide) h)]

/-- The number of blocks on a standard card fits a word. -/
theorem toNat_blocknr (csd : Csd) :
    ((extBits csd.octets 73 62+1)*((1 : UInt32)<<<(extBits csd.octets 49 47+2))).toNat=
      (field csd.value 73 62+1)*2^(field csd.value 49 47+2) := by
  have hclt := field_lt csd.value 73 62
  have hmlt := field_lt csd.value 49 47
  have hsum : (extBits csd.octets 49 47+2).toNat=field csd.value 49 47+2 := by
    rw [UInt32.toNat_add,toNat_extBits csd (by decide) (by decide) (by decide),
      show (2 : UInt32).toNat=2 from rfl]
    omega
  have hcount : (extBits csd.octets 73 62+1).toNat=field csd.value 73 62+1 := by
    rw [UInt32.toNat_add,toNat_extBits csd (by decide) (by decide) (by decide),
      show (1 : UInt32).toNat=1 from rfl]
    omega
  have hpow : 2^(field csd.value 49 47+2)≤2^9 := Nat.pow_le_pow_right (by decide) (by omega)
  have hfit : (field csd.value 73 62+1)*2^(field csd.value 49 47+2)<2^32 := by
    calc (field csd.value 73 62+1)*2^(field csd.value 49 47+2)
        ≤ 2^12*2^9 := Nat.mul_le_mul (by omega) hpow
      _ < 2^32 := by decide
  rw [UInt32.toNat_mul,toNat_one_shiftLeft _ (by omega),hsum,hcount,Nat.mod_eq_of_lt hfit]

/-- The sector count of a standard register wraps at four gigaoctets. -/
theorem sectorsOf_standard (csd : Csd) (h : field csd.value 127 126=0) :
    (sectorsOf csd.octets).toNat=csd.octetCount%2^32/512 := by
  have hrlt := field_lt csd.value 83 80
  have hkind := toNat_extBits csd (by decide : 126≤127) (by decide) (by decide)
  have hr := toNat_extBits csd (by decide : 80≤83) (by decide) (by decide)
  unfold sectorsOf Csd.octetCount
  rw [hkind,h]
  simp only
  rw [UInt32.toNat_toUInt64,UInt32.toNat_div,UInt32.toNat_mul,toNat_blocknr,
    toNat_one_shiftLeft _ (by omega),hr]
  rfl

/-- The sector count of a high capacity register misses its upper six bits. -/
theorem sectorsOf_high (csd : Csd) (h : field csd.value 127 126=1) :
    (sectorsOf csd.octets).toNat=(field csd.value 63 48+1)*1024 := by
  have hlt := field_lt csd.value 63 48
  have hkind := toNat_extBits csd (by decide : 126≤127) (by decide) (by decide)
  unfold sectorsOf
  rw [hkind,h]
  simp only
  rw [UInt32.toNat_toUInt64,UInt32.toNat_mul,UInt32.toNat_add,
    toNat_extBits csd (by decide) (by decide) (by decide),show (1 : UInt32).toNat=1 from rfl,
    show (1024 : UInt32).toNat=1024 from rfl]
  omega

/-- The sector count is the card's own number of blocks exactly when a standard
card holds less than four gigaoctets, and when the size of a high capacity card
fits sixteen bits. A register of neither kind counts as no sectors. -/
theorem sectors_exact_iff (csd : Csd) :
    (field csd.value 127 126=0 →
      ((sectorsOf csd.octets).toNat=csd.octetCount/512 ↔ csd.octetCount<2^32)) ∧
    (field csd.value 127 126=1 →
      ((sectorsOf csd.octets).toNat=csd.highBlocks ↔ field csd.value 69 64=0)) ∧
    (2≤field csd.value 127 126 → sectorsOf csd.octets=0) := by
  refine ⟨fun h => ?_,fun h => ?_,fun h => ?_⟩
  · rw [sectorsOf_standard csd h]
    omega
  · have hsplit := field_split csd.value (by decide : 48≤63) (by decide : 63≤69)
    norm_num at hsplit
    rw [sectorsOf_high csd h]
    unfold Csd.highBlocks
    rw [hsplit]
    omega
  · have hkind := toNat_extBits csd (by decide : 126≤127) (by decide) (by decide)
    unfold sectorsOf
    rw [hkind]
    split
    · omega
    · omega
    · rfl

/-- The register of a standard card of one gigaoctet. -/
def gigaCsd : Csd :=
  ⟨[0x00,0x26,0x00,0x32,0x5F,0x59,0x83,0xC8,0xAD,0xDB,0xCF,0xFF,0xD2,0x40,0x40,0xF3],rfl⟩

/-- The register of a standard card of four gigaoctets. -/
def fourGigaCsd : Csd :=
  ⟨[0x00,0x26,0x00,0x32,0x5F,0x5B,0x83,0xFF,0xED,0xDB,0xCF,0xFF,0xD2,0x40,0x40,0xF3],rfl⟩

/-- The register of a card of high capacity whose size is `high` and `low`,
an octet and two octets of it. -/
def highCsd (high : UInt8) (low : UInt8×UInt8) : Csd :=
  ⟨[0x40,0x0E,0x00,0x32,0x5B,0x59,0x00,high,low.1,low.2,0x7F,0x80,0x0A,0x40,0x00,0x01],rfl⟩

/-- The count is exact for a standard card of one gigaoctet and wrong for one of
four, exact for a high capacity card of eight gigaoctets and wrong for one of
more than thirty-two. -/
theorem sectors_exact_on_small_cards :
    (sectorsOf gigaCsd.octets).toNat=gigaCsd.octetCount/512 ∧
    (sectorsOf fourGigaCsd.octets).toNat≠fourGigaCsd.octetCount/512 ∧
    (sectorsOf (highCsd 0 (0x3B,0x37)).octets).toNat=(highCsd 0 (0x3B,0x37)).highBlocks ∧
    (sectorsOf (highCsd 1 (0x3B,0x37)).octets).toNat≠(highCsd 1 (0x3B,0x37)).highBlocks :=
  ⟨((sectors_exact_iff gigaCsd).1 (by decide +kernel)).mpr (by decide +kernel),
    mt ((sectors_exact_iff fourGigaCsd).1 (by decide +kernel)).mp (by decide +kernel),
    ((sectors_exact_iff (highCsd 0 (0x3B,0x37))).2.1 (by decide +kernel)).mpr (by decide +kernel),
    mt ((sectors_exact_iff (highCsd 1 (0x3B,0x37))).2.1 (by decide +kernel)).mp (by decide +kernel)⟩

end VlfGateway.SdRegister
