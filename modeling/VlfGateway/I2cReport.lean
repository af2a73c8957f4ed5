import VlfGateway.I2cDriver

/-!
# What a finished I2C transaction reports

`WaitForI2C` reports success as soon as `I2CDone` is set. The handler sets it
when the last byte has arrived, but also when the slave refuses its address or
a byte, when arbitration is lost and on every status it has no case for. Which
of these happened is not kept anywhere, so a call that finds `I2CDone` set
cannot tell them apart.
-/

namespace VlfGateway.I2cReport

open I2cDriver

/-! ## Sequences of interrupts -/

/-- `I2CIndex` after a sequence of interrupts. -/
def indexAfter (mode : UInt8) (len : UInt32) : UInt32 → List Interrupt → UInt32
  | index,[] => index
  | index,i::rest => indexAfter mode len (advance mode len index i.stat) rest

/-- Whether a sequence of interrupts has one that ends the transaction. -/
def finished (mode : UInt8) (len : UInt32) : UInt32 → List Interrupt → Bool
  | _,[] => false
  | index,i::rest =>
    finishes mode len index i.stat || finished mode len (advance mode len index i.stat) rest

/-- The interrupts up to the first test that follows one that ends the
transaction, or up to the last test. -/
def awaited (mode : UInt8) (len : UInt32) (polls : ℕ → List Interrupt) :
    ℕ → ℕ → UInt32 → List Interrupt
  | 0,k,_ => polls k
  | remaining+1,k,index =>
    if finished mode len index (polls k) then polls k
    else polls k++awaited mode len polls remaining (k+1) (indexAfter mode len index (polls k))

/-- The interrupts that reach a transaction before its wait is over. -/
def heard (arrivals : Arrivals) (mode : UInt8) (len index : UInt32) : List Interrupt :=
  awaited mode len arrivals.polls i2cMaxTimeout 0 index++arrivals.late

/-- Number of received bytes among some interrupts. -/
def dataCount (interrupts : List Interrupt) : ℕ :=
  interrupts.countP fun i => dataStatus i.stat

/-- Whether the slave acknowledged its address. -/
def addressAcked (interrupts : List Interrupt) : Bool :=
  interrupts.any fun i => i.stat==0x18 || i.stat==0x40

/-! ## Runs of the handler -/

/-- What a run of the handler does to the variables of the transaction. -/
theorem serve_spec (T : List Interrupt) (s : I2c) :
    (serve s T).done=(s.done || finished s.mode s.len s.index T) ∧
    (serve s T).index=indexAfter s.mode s.len s.index T ∧
    (serve s T).mode=s.mode ∧ (serve s T).len=s.len ∧ (serve s T).data=s.data := by
  induction T generalizing s with
  | nil => simp only [serve,List.foldl_nil,finished,indexAfter,Bool.or_false,and_self]
  | cons i T ih =>
    obtain ⟨hd,hi,_,hm,hl,hp⟩ := i2c0IrqHandler_spec s i
    have h := ih (i2c0IrqHandler s i)
    rw [hd,hi,hm,hl,hp,Bool.or_assoc] at h
    exact h

/-- Runs compose. -/
theorem serve_append (s : I2c) (T U : List Interrupt) : serve s (T++U)=serve (serve s T) U :=
  List.foldl_append

/-- The loop handles exactly the awaited interrupts. -/
theorem polled_eq_awaited (polls : ℕ → List Interrupt) (remaining k : ℕ) (s : I2c)
    (hs : s.done=false) :
    polled polls remaining k s=awaited s.mode s.len polls remaining k s.index := by
  induction remaining generalizing k s with
  | zero => rfl
  | succ remaining ih =>
    obtain ⟨hd,hi,hm,hl,_⟩ := serve_spec (polls k) s
    rw [hs,Bool.false_or] at hd
    simp only [polled,awaited,hd]
    cases hf : finished s.mode s.len s.index (polls k) with
    | true => rfl
    | false =>
      have h := ih (k+1) (serve s (polls k)) (hd.trans hf)
      rw [hi,hm,hl] at h
      simp only [Bool.false_eq_true,if_false,h]

/-- A wait for a transaction that is under way: what it handles, what it
returns and the memory it leaves. -/
theorem waitForI2C_spec (arrivals : Arrivals) (mode : UInt8) (len index : UInt32) {s : I2c}
    (hs : s.done=false) (hm : s.mode=mode) (hl : s.len=len) (hi : s.index=index) :
    (waitForI2C arrivals s).served=heard arrivals mode len index ∧
    (waitForI2C arrivals s).result=
      (if finished mode len index (heard arrivals mode len index) then 1 else -1) ∧
    (waitForI2C arrivals s).i2c.memory=(serve s (heard arrivals mode len index)).memory ∧
    (waitForI2C arrivals s).i2c.data=s.data := by
  subst hm hl hi
  have hp : polled arrivals.polls i2cMaxTimeout 0 s++arrivals.late=
      heard arrivals s.mode s.len s.index := by
    rw [polled_eq_awaited _ _ _ s hs,heard]
  obtain ⟨hd,_,_,_,ha⟩ := serve_spec (heard arrivals s.mode s.len s.index) s
  rw [hs,Bool.false_or] at hd
  simp only [waitForI2C,hp,hd]
  cases finished s.mode s.len s.index (heard arrivals s.mode s.len s.index) with
  | true => exact ⟨rfl,rfl,rfl,ha⟩
  | false => exact ⟨rfl,rfl,rfl,ha⟩

/-- In read mode the index counts the received bytes. -/
theorem indexAfter_read (len index : UInt32) (T : List Interrupt) :
    indexAfter 1 len index T=index+UInt32.ofNat (dataCount T) := by
  induction T generalizing index with
  | nil => exact (UInt32.add_zero index).symm
  | cons i T ih =>
    have hs : sendsByte 1 len index i.stat=false := by simp [sendsByte]
    rw [indexAfter,ih,advance,hs,Bool.or_false]
    cases hd : dataStatus i.stat with
    | true =>
      rw [if_pos rfl,dataCount,dataCount,List.countP_cons,hd,if_pos rfl,UInt32.ofNat_add,
        UInt32.add_assoc,UInt32.add_comm 1]
      rfl
    | false =>
      rw [if_neg Bool.false_ne_true,dataCount,dataCount,List.countP_cons,hd,
        if_neg Bool.false_ne_true,Nat.add_zero]

/-! ## Bytes that arrived -/

/-- The handler took `byte` from `I2DAT` and stored it at `address`. -/
def Received (begun : I2c) (served : List Interrupt) (address : ℕ) (byte : UInt8) : Prop :=
  ∃ before i later,served=before++i::later ∧ dataStatus i.stat=true ∧
    (serve begun before).data+(serve begun before).index.toNat=address ∧ i.dat=byte

/-- If some interrupt stored at an address, the last one to do so left its
byte there. -/
theorem Received.last {s : I2c} {address : ℕ} {T : List Interrupt} :
    (∃ byte,Received s T address byte) → Received s T address ((serve s T).memory address) := by
  induction T using List.reverseRecOn with
  | nil =>
    rintro ⟨_,before,i,later,h,_⟩
    exact absurd h (by simp)
  | append_singleton T x ih =>
    rintro ⟨byte,before,i,later,h,hi,ha,_⟩
    have hserve : serve s (T++[x])=i2c0IrqHandler (serve s T) x := serve_append s T [x]
    have hmem := (i2c0IrqHandler_spec (serve s T) x).2.2.1
    by_cases hx : dataStatus x.stat=true ∧ (serve s T).data+(serve s T).index.toNat=address
    · refine ⟨T,x,[],rfl,hx.1,hx.2,?_⟩
      rw [hserve,hmem,if_pos hx.1,hx.2,Function.update_self]
    · -- The last interrupt leaves the address alone, so the store was earlier.
      have hkeep : (serve s (T++[x])).memory address=(serve s T).memory address := by
        rw [hserve,hmem]
        split
        · next hd =>
          exact Function.update_of_ne (fun h => hx ⟨hd,h.symm⟩) _ _
        · rfl
      rcases List.eq_nil_or_concat later with rfl|⟨later',y,rfl⟩
      · obtain ⟨rfl,hxi⟩ := List.append_inj' h rfl
        rw [List.singleton_inj] at hxi
        exact absurd ⟨hxi▸hi,ha⟩ hx
      · have hsplit : T++[x]=(before++i::later')++[y] := by rw [h]; simp
        obtain ⟨rfl,_⟩ := List.append_inj' hsplit rfl
        obtain ⟨b,j,l,hT,hj,hja,hv⟩ := ih ⟨i.dat,before,i,later',rfl,hi,ha,rfl⟩
        exact ⟨b,j,l++[x],by rw [hT]; simp,hj,hja,hv.trans hkeep.symm⟩

/-- The received byte that has `j` others before it. -/
theorem dataCount_split (T : List Interrupt) (j : ℕ) (h : j<dataCount T) :
    ∃ before i later,T=before++i::later ∧ dataStatus i.stat=true ∧ dataCount before=j := by
  induction T generalizing j with
  | nil => exact absurd h (Nat.not_lt_zero j)
  | cons x T ih =>
    rw [dataCount,List.countP_cons] at h
    cases hx : dataStatus x.stat with
    | false =>
      rw [hx,if_neg Bool.false_ne_true] at h
      obtain ⟨before,i,later,hT,hi,hj⟩ := ih j h
      refine ⟨x::before,i,later,by rw [hT]; rfl,hi,?_⟩
      rw [dataCount,List.countP_cons,hx,if_neg Bool.false_ne_true]
      exact hj
    | true =>
      cases j with
      | zero => exact ⟨[],x,T,rfl,hx,rfl⟩
      | succ j =>
        rw [hx,if_pos rfl] at h
        obtain ⟨before,i,later,hT,hi,hj⟩ := ih j (Nat.lt_of_succ_lt_succ h)
        refine ⟨x::before,i,later,by rw [hT]; rfl,hi,?_⟩
        rw [dataCount,List.countP_cons,hx,if_pos rfl]
        exact congrArg (·+1) hj

section Read

variable {s : I2c} (hm : s.mode=1) (h0 : s.index=0)
include hm h0

/-- Where a run in read mode from index 0 stores its next byte. -/
theorem read_address (T : List Interrupt) :
    (serve s T).data+(serve s T).index.toNat=s.data+dataCount T%2^32 := by
  obtain ⟨_,hi,_,_,hd⟩ := serve_spec T s
  rw [hi,hd,hm,h0,indexAfter_read,UInt32.zero_add,UInt32.toNat_ofNat']

/-- In a read the first `n` cells of the block all hold received bytes exactly
if `n` bytes were received. -/
theorem received_iff (n : ℕ) (hn : n<2^32) (T : List Interrupt) :
    (∀ j<n,Received s T (s.data+j) ((serve s T).memory (s.data+j))) ↔ n≤dataCount T := by
  constructor
  · intro h
    cases n with
    | zero => exact Nat.zero_le _
    | succ n =>
      obtain ⟨before,i,later,hT,hi,ha,_⟩ := h n (Nat.lt_succ_self n)
      rw [read_address hm h0] at ha
      have hcount : dataCount T=dataCount before+(dataCount later+1) := by
        rw [hT,dataCount,List.countP_append,List.countP_cons,hi,if_pos rfl]
        rfl
      have hmod := Nat.mod_le (dataCount before) (2^32)
      omega
  · intro h j hj
    obtain ⟨before,i,later,hT,hi,hc⟩ := dataCount_split T j (Nat.lt_of_lt_of_le hj h)
    refine Received.last ⟨i.dat,before,i,later,hT,hi,?_,rfl⟩
    rw [read_address hm h0,hc,Nat.mod_eq_of_lt (Nat.lt_trans hj hn)]

end Read

/-! ## Reported success -/

section Success

variable (earlier during : Arrivals) (s : I2c)

/-- `get_macaddr` returns 1 only with six bytes stored from `I2DAT`. -/
def MacaddrReported (macaddr : ℕ) : Prop :=
  (getMacaddr earlier during macaddr s).1=1 →
    ∀ j<6,Received (beginMacaddr earlier macaddr s)
      (waitForI2C during (beginMacaddr earlier macaddr s)).served (macaddr+j)
      ((getMacaddr earlier during macaddr s).2.memory (macaddr+j))

/-- `ReadI2C` returns a value only if it is a byte received. -/
def ReadReported (sl slReg : UInt8) : Prop :=
  0≤(readI2C earlier during sl slReg s).1 →
    ∃ byte,Received (beginRead earlier sl slReg s)
        (waitForI2C during (beginRead earlier sl slReg s)).served
        (beginRead earlier sl slReg s).data byte ∧
      (readI2C earlier during sl slReg s).1=byte.toNat

/-- `PingI2C` returns 1 only if the slave acknowledged its address. -/
def PingReported (sl : UInt8) : Prop :=
  (pingI2C earlier during sl s).1=1 →
    addressAcked (waitForI2C during (beginPing earlier sl s)).served=true

/-- A read that nothing ends before the timeout, or that receives at least as
many bytes as it asks for. -/
def ReadSound (len : UInt32) : Prop :=
  finished 1 len 0 (heard during 1 len 0)=false ∨ len.toNat≤dataCount (heard during 1 len 0)

/-- A ping that nothing ends before the timeout, or whose address is
acknowledged. `I2CLen` and `I2CIndex` are those of the transaction before. -/
def PingSound (len index : UInt32) : Prop :=
  finished 2 len index (heard during 2 len index)=false ∨
    addressAcked (heard during 2 len index)=true

/-- What `get_macaddr` returns and the memory it leaves. -/
theorem getMacaddr_spec (macaddr : ℕ) :
    (getMacaddr earlier during macaddr s).1=
      (if finished 1 6 0 (heard during 1 6 0) then 1 else -1) ∧
    (getMacaddr earlier during macaddr s).2.memory=
      (serve (beginMacaddr earlier macaddr s) (heard during 1 6 0)).memory := by
  have hbegun : (beginMacaddr earlier macaddr s).done=false := rfl
  obtain ⟨_,hr,hm,_⟩ := waitForI2C_spec during 1 6 0 hbegun rfl rfl rfl
  rw [←hm]
  simp only [getMacaddr,hr]
  cases finished 1 6 0 (heard during 1 6 0) with
  | true => exact ⟨rfl,rfl⟩
  | false => exact ⟨rfl,rfl⟩

/-- `get_macaddr` reports success truthfully exactly on the sound reads. -/
theorem macaddrReported_iff (macaddr : ℕ) :
    MacaddrReported earlier during s macaddr ↔ ReadSound during 6 := by
  have hbegun : (beginMacaddr earlier macaddr s).done=false := rfl
  have hserved := (waitForI2C_spec during 1 6 0 hbegun rfl rfl rfl).1
  have hd := received_iff (s := beginMacaddr earlier macaddr s) rfl rfl 6 (by omega)
    (heard during 1 6 0)
  obtain ⟨hr,hm⟩ := getMacaddr_spec earlier during s macaddr
  unfold MacaddrReported ReadSound
  rw [hserved,hr,hm]
  cases finished 1 6 0 (heard during 1 6 0) with
  | false => exact ⟨fun _ => Or.inl rfl,fun _ h => absurd h (by decide)⟩
  | true => exact ⟨fun h => Or.inr (hd.mp (h rfl)),fun h _ => hd.mpr (h.resolve_left nofun)⟩

/-- What `ReadI2C` returns. -/
theorem readI2C_spec (sl slReg : UInt8) :
    (readI2C earlier during sl slReg s).1=
      if finished 1 1 0 (heard during 1 1 0) then
        (((serve (beginRead earlier sl slReg s) (heard during 1 1 0)).memory
          (beginRead earlier sl slReg s).data).toNat : ℤ)
      else -1 := by
  have hbegun : (beginRead earlier sl slReg s).done=false := rfl
  obtain ⟨_,hr,hm,hd⟩ := waitForI2C_spec during 1 1 0 hbegun rfl rfl rfl
  rw [←hm,←hd]
  simp only [readI2C,hr]
  cases finished 1 1 0 (heard during 1 1 0) with
  | true => rfl
  | false => rfl

/-- `ReadI2C` reports a byte truthfully exactly on the sound reads. -/
theorem readReported_iff (sl slReg : UInt8) :
    ReadReported earlier during s sl slReg ↔ ReadSound during 1 := by
  have hbegun : (beginRead earlier sl slReg s).done=false := rfl
  have hserved := (waitForI2C_spec during 1 1 0 hbegun rfl rfl rfl).1
  have hd := received_iff (s := beginRead earlier sl slReg s) rfl rfl 1 (by omega)
    (heard during 1 1 0)
  have hr := readI2C_spec earlier during s sl slReg
  unfold ReadReported ReadSound
  rw [hserved,hr]
  cases finished 1 1 0 (heard during 1 1 0) with
  | false => exact ⟨fun _ => Or.inl rfl,fun _ h => absurd h (by simp)⟩
  | true =>
    rw [if_pos rfl]
    constructor
    · intro h
      obtain ⟨byte,hbyte,_⟩ := h (Int.natCast_nonneg _)
      refine Or.inr (hd.mp fun j hj => ?_)
      rw [Nat.lt_one_iff.mp hj]
      exact Received.last ⟨byte,hbyte⟩
    · intro h _
      exact ⟨_,hd.mpr (h.resolve_left nofun) 0 Nat.one_pos,rfl⟩

/-- `PingI2C` reports an answer truthfully exactly on the sound pings. -/
theorem pingReported_iff (sl : UInt8) :
    PingReported earlier during s sl ↔
      PingSound during (beginPing earlier sl s).len (beginPing earlier sl s).index := by
  have hbegun : (beginPing earlier sl s).done=false := rfl
  obtain ⟨hserved,hr,_,_⟩ := waitForI2C_spec during 2 _ _ hbegun rfl rfl rfl
  unfold PingReported PingSound pingI2C
  simp only [hserved,hr]
  cases finished 2 (beginPing earlier sl s).len (beginPing earlier sl s).index
      (heard during 2 (beginPing earlier sl s).len (beginPing earlier sl s).index) with
  | false => exact ⟨fun _ => Or.inl rfl,fun _ h => absurd h (by decide)⟩
  | true => exact ⟨fun h => Or.inr (h rfl),fun h _ => h.resolve_left nofun⟩

/-- The three calls report success truthfully exactly when nothing ends their
transaction before the timeout, or the bytes, the acknowledgement for
`PingI2C`, did arrive. -/
theorem success_reported_iff :
    (∀ macaddr,MacaddrReported earlier during s macaddr ↔ ReadSound during 6) ∧
    (∀ sl slReg,ReadReported earlier during s sl slReg ↔ ReadSound during 1) ∧
    (∀ sl,PingReported earlier during s sl ↔
      PingSound during (beginPing earlier sl s).len (beginPing earlier sl s).index) :=
  ⟨macaddrReported_iff earlier during s,readReported_iff earlier during s,
    pingReported_iff earlier during s⟩

end Success

/-- The driver after `InitI2C`, before its first transaction. -/
def unused : I2c :=
  initI2C ⟨0,false,0,0,0,0,fun _ => 0,0,0,⟨false,false,false,false,false⟩,0,false,false⟩

/-- Nothing arrives. -/
def silence : Arrivals := ⟨fun _ => [],[]⟩

/-- Interrupts that all arrive before the first test. -/
def atOnce (interrupts : List Interrupt) : Arrivals :=
  ⟨fun k => if k=0 then interrupts else [],[]⟩

/-- The interrupts of a complete read of six bytes. -/
def macInterrupts : List Interrupt :=
  [⟨0x08,0⟩,⟨0x18,0⟩,⟨0x28,0⟩,⟨0x10,0⟩,⟨0x40,0⟩,⟨0x50,0x00⟩,⟨0x50,0x04⟩,⟨0x50,0xA3⟩,⟨0x50,0x12⟩,
   ⟨0x50,0x34⟩,⟨0x58,0x56⟩]

/-- A complete read returns 1, with the bytes of the address in place. -/
theorem success_reported_complete :
    ReadSound (atOnce macInterrupts) 6 ∧
    (getMacaddr silence (atOnce macInterrupts) 100 unused).1=1 ∧
    (getMacaddr silence (atOnce macInterrupts) 100 unused).2.memory 105=0x56 ∧
    MacaddrReported silence (atOnce macInterrupts) unused 100 := by
  have hsound : ReadSound (atOnce macInterrupts) 6 := Or.inr (by decide +kernel)
  exact ⟨hsound,by decide +kernel,by decide +kernel,
    ((success_reported_iff silence (atOnce macInterrupts) unused).1 100).mpr hsound⟩

/-- The interrupts of a start that no slave answers. -/
def refusedInterrupts : List Interrupt := [⟨0x08,0⟩,⟨0x20,0⟩]

/-- With no slave on the bus `get_macaddr` returns 1 and has stored nothing,
`ReadI2C` returns the byte that was in memory before and `PingI2C` returns 1. -/
theorem absent_slave_reported :
    (getMacaddr silence (atOnce refusedInterrupts) 100 unused).1=1 ∧
    (getMacaddr silence (atOnce refusedInterrupts) 100 unused).2.memory=unused.memory ∧
    ¬MacaddrReported silence (atOnce refusedInterrupts) unused 100 ∧
    (readI2C silence (atOnce refusedInterrupts) 0xAE 0xFA unused).1=0 ∧
    ¬ReadReported silence (atOnce refusedInterrupts) unused 0xAE 0xFA ∧
    (pingI2C silence (atOnce refusedInterrupts) 0xAE unused).1=1 ∧
    ¬PingReported silence (atOnce refusedInterrupts) unused 0xAE := by
  have hread : ∀ len : UInt32,len=6 ∨ len=1 → ¬ReadSound (atOnce refusedInterrupts) len := by
    rintro len (rfl|rfl) (h|h) <;> exact absurd h (by decide +kernel)
  have hping : ¬PingSound (atOnce refusedInterrupts) 0 0 := by
    rintro (h|h) <;> exact absurd h (by decide +kernel)
  refine ⟨by decide +kernel,rfl,?_,by decide +kernel,?_,by decide +kernel,?_⟩
  · rw [macaddrReported_iff]
    exact hread 6 (Or.inl rfl)
  · rw [readReported_iff]
    exact hread 1 (Or.inr rfl)
  · rw [pingReported_iff]
    exact hping

end VlfGateway.I2cReport
