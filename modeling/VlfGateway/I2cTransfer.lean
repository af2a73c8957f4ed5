import VlfGateway.I2cDriver

/-!
# Block transfers over I2C

The driver against the interface and a slave that acknowledges everything.
The interface acts on the control flags, puts its part on the wire and raises
the status of what happened; the handler answers by the flags for the next
step. The acknowledgement of a byte is thus decided one byte earlier, and the
two sides are followed together.
-/

namespace VlfGateway.I2cTransfer

open I2cDriver

/-! ## The bus -/

/-- What the interface is in the middle of. -/
inductive Phase where
  /-- No transaction. -/
  | idle
  /-- A start is out, the address is next. -/
  | addressing
  /-- Bytes go to the slave. -/
  | transmitting
  /-- Bytes come from the slave. -/
  | receiving
  /-- The last byte received was not acknowledged. -/
  | refused
  deriving DecidableEq

/-- What is seen on the wire. -/
inductive WireEvent where
  /-- A start condition. -/
  | start
  /-- A start condition within a transaction. -/
  | repeatedStart
  /-- An address byte, acknowledged by the slave. -/
  | address (byte : UInt8)
  /-- A byte to the slave, acknowledged by it. -/
  | sent (byte : UInt8)
  /-- A byte from the slave, and whether it was acknowledged. -/
  | received (byte : UInt8) (acked : Bool)
  /-- A stop condition. -/
  | stop
  deriving DecidableEq

/-- The interface and its wire. -/
structure Bus where
  /-- What it is in the middle of. -/
  phase : Phase
  /-- Number of bytes taken from the slave. -/
  taken : ℕ
  /-- What was on the wire, oldest first. -/
  wire : List WireEvent

/-- The driver and the bus. -/
structure Link where
  /-- The driver. -/
  i2c : I2c
  /-- The bus. -/
  bus : Bus

/-- The bus after an event. -/
def Bus.next (bus : Bus) (phase : Phase) (event : WireEvent) : Bus :=
  {bus with phase := phase,wire := bus.wire++[event]}

/-- Raise `SI` with a status and run the handler. -/
def raised (s : I2c) (stat dat : UInt8) : I2c :=
  i2c0IrqHandler {s with control := {s.control with si := true}} ⟨stat,dat⟩

/-- One step of the interface and of the handler it interrupts. `incoming` are
the bytes the slave sends. While `SI` is set the interface waits. -/
def busStep (incoming : ℕ → UInt8) (l : Link) : Link :=
  if l.i2c.control.i2en=false ∨ l.i2c.control.si=true then l
  else if l.i2c.control.sto=true then
    -- The interface clears the stop flag itself and raises no status.
    ⟨{l.i2c with control := {l.i2c.control with sto := false}},l.bus.next .idle .stop⟩
  else if l.i2c.control.sta=true then
    if l.bus.phase=.idle then ⟨raised l.i2c 0x08 0,l.bus.next .addressing .start⟩
    else ⟨raised l.i2c 0x10 0,l.bus.next .addressing .repeatedStart⟩
  else match l.bus.phase with
  | .idle => l
  | .addressing =>
    if l.i2c.dat &&& rdBit=0 then
      ⟨raised l.i2c 0x18 0,l.bus.next .transmitting (.address l.i2c.dat)⟩
    else ⟨raised l.i2c 0x40 0,l.bus.next .receiving (.address l.i2c.dat)⟩
  | .transmitting => ⟨raised l.i2c 0x28 0,l.bus.next .transmitting (.sent l.i2c.dat)⟩
  | .receiving =>
    let byte := incoming l.bus.taken
    let bus := {l.bus with taken := l.bus.taken+1}
    if l.i2c.control.aa=true then
      ⟨raised l.i2c 0x50 byte,bus.next .receiving (.received byte true)⟩
    else ⟨raised l.i2c 0x58 byte,bus.next .refused (.received byte false)⟩
  | .refused => l

/-- Several steps. -/
def busRun (incoming : ℕ → UInt8) (k : ℕ) (l : Link) : Link := (busStep incoming)^[k] l

/-- The interface is switched on, has no status waiting, and is idle or about
to stop. -/
def Free (s : I2c) (bus : Bus) : Prop :=
  s.control.i2en=true ∧ s.control.si=false ∧ (s.control.sto=true ∨ bus.phase=.idle)

/-- Steps before the start of a transaction: one if a stop is still to come. -/
def leadSteps (begun : I2c) : ℕ := if begun.control.sto=true then 1 else 0

/-- What those steps put on the wire. -/
def leadEvents (begun : I2c) : List WireEvent := if begun.control.sto=true then [.stop] else []

/-! ## What a transfer should do -/

/-- The memory with the first `i` bytes of a block in place. -/
def filled (memory : ℕ → UInt8) (data : ℕ) (bytes : ℕ → UInt8) (i : ℕ) (a : ℕ) : UInt8 :=
  if data≤a ∧ a<data+i then bytes (a-data) else memory a

/-- A block read that moves exactly the requested bytes: every byte of the
slave is stored in turn and nothing beyond the block, all but the last are
acknowledged, and `I2CDone` is set, with a stop, when the last is there. -/
structure BlockRead (incoming : ℕ → UInt8) (sl slReg : UInt8) (data : ℕ) (len : UInt32)
    (begun : I2c) (bus : Bus) : Prop where
  /-- The memory once `i` bytes have arrived. -/
  stores : ∀ i≤len.toNat,(busRun incoming (leadSteps begun+5+i) ⟨begun,bus⟩).i2c.memory=
    filled begun.memory data (fun j => incoming (bus.taken+j)) i
  /-- Nothing outside the block is ever stored to. -/
  frame : ∀ k a,a<data ∨ data+len.toNat≤a →
    (busRun incoming k ⟨begun,bus⟩).i2c.memory a=begun.memory a
  /-- `I2CDone` stays clear until the last byte is there. -/
  busy : ∀ k<leadSteps begun+5+len.toNat,(busRun incoming k ⟨begun,bus⟩).i2c.done=false
  /-- It is set with the stop flag then. -/
  stops : (busRun incoming (leadSteps begun+5+len.toNat) ⟨begun,bus⟩).i2c.done=true ∧
    (busRun incoming (leadSteps begun+5+len.toNat) ⟨begun,bus⟩).i2c.control.sto=true
  /-- All that was on the wire. -/
  wire : (busRun incoming (leadSteps begun+6+len.toNat) ⟨begun,bus⟩).bus.wire=
    bus.wire++leadEvents begun++
    [.start,.address (sl &&& 0xFE),.sent slReg,.repeatedStart,.address (sl &&& 0xFE ||| rdBit)]++
    (List.range len.toNat).map
      (fun j => .received (incoming (bus.taken+j)) (decide (j+1<len.toNat)))++
    [.stop]
  /-- The bus is idle then, with `I2CDone` still set. -/
  idles : (busRun incoming (leadSteps begun+6+len.toNat) ⟨begun,bus⟩).bus.phase=.idle ∧
    (busRun incoming (leadSteps begun+6+len.toNat) ⟨begun,bus⟩).i2c.done=true
  /-- After the stop nothing happens any more. -/
  rests : ∀ k≥leadSteps begun+6+len.toNat,busRun incoming k ⟨begun,bus⟩=
    busRun incoming (leadSteps begun+6+len.toNat) ⟨begun,bus⟩

/-- A block write that sends the address, the register and exactly the
requested bytes, and then stops with `I2CDone` set. -/
structure BlockWritten (incoming : ℕ → UInt8) (sl slReg : UInt8) (data : ℕ) (len : UInt32)
    (begun : I2c) (bus : Bus) : Prop where
  /-- The memory is left alone. -/
  frame : ∀ k,(busRun incoming k ⟨begun,bus⟩).i2c.memory=begun.memory
  /-- `I2CDone` stays clear until the last byte is out. -/
  busy : ∀ k<leadSteps begun+3+len.toNat,(busRun incoming k ⟨begun,bus⟩).i2c.done=false
  /-- It is set with the stop flag then. -/
  stops : (busRun incoming (leadSteps begun+3+len.toNat) ⟨begun,bus⟩).i2c.done=true ∧
    (busRun incoming (leadSteps begun+3+len.toNat) ⟨begun,bus⟩).i2c.control.sto=true
  /-- All that was on the wire. -/
  wire : (busRun incoming (leadSteps begun+4+len.toNat) ⟨begun,bus⟩).bus.wire=
    bus.wire++leadEvents begun++[.start,.address (sl &&& 0xFE),.sent slReg]++
    (List.range len.toNat).map (fun j => .sent (begun.memory (data+j)))++[.stop]
  /-- The bus is idle then, with `I2CDone` still set. -/
  idles : (busRun incoming (leadSteps begun+4+len.toNat) ⟨begun,bus⟩).bus.phase=.idle ∧
    (busRun incoming (leadSteps begun+4+len.toNat) ⟨begun,bus⟩).i2c.done=true
  /-- After the stop nothing happens any more. -/
  rests : ∀ k≥leadSteps begun+4+len.toNat,busRun incoming k ⟨begun,bus⟩=
    busRun incoming (leadSteps begun+4+len.toNat) ⟨begun,bus⟩

/-! ## Trajectories -/

section Trajectory

variable (incoming : ℕ → UInt8) (t : I2c) (bus : Bus)

/-- The link of a transaction with the flags, the values and the events given. -/
def linkOf (control : Control) (dat : UInt8) (index : UInt32) (memory : ℕ → UInt8) (done : Bool)
    (phase : Phase) (taken : ℕ) (events : List WireEvent) : Link :=
  ⟨{t with control := control,dat := dat,index := index,memory := memory,done := done},
   ⟨phase,taken,bus.wire++leadEvents t++events⟩⟩

/-- What a block read has on the wire before the first byte. -/
def readEvents : List WireEvent :=
  [.start,.address t.slave,.sent t.register,.repeatedStart,.address (t.slave ||| rdBit)]

/-- The first `i` bytes of a block read on the wire. -/
def receivedEvents (i : ℕ) : List WireEvent :=
  (List.range i).map fun j => .received (incoming (bus.taken+j)) (decide (j+1<t.len.toNat))

/-- The memory of a block read after `i` bytes. -/
def readMemory (i : ℕ) : ℕ → UInt8 :=
  filled t.memory t.data (fun j => incoming (bus.taken+j)) i

/-- A block read with `i` bytes stored and the next one on its way. -/
def receivingLink (i : ℕ) : Link :=
  linkOf t bus ⟨false,false,false,decide (i+1<t.len.toNat),true⟩ (t.slave ||| rdBit)
    (UInt32.ofNat i) (readMemory incoming t bus i) false .receiving (bus.taken+i)
    (readEvents t++receivedEvents incoming t bus i)

/-- A block read with all bytes stored. -/
def refusedLink : Link :=
  linkOf t bus ⟨false,true,false,false,true⟩ (t.slave ||| rdBit) t.len
    (readMemory incoming t bus t.len.toNat) true .refused (bus.taken+t.len.toNat)
    (readEvents t++receivedEvents incoming t bus t.len.toNat)

/-- A block read after its stop. -/
def readOver : Link :=
  linkOf t bus ⟨false,false,false,false,true⟩ (t.slave ||| rdBit) t.len
    (readMemory incoming t bus t.len.toNat) true .idle (bus.taken+t.len.toNat)
    (readEvents t++receivedEvents incoming t bus t.len.toNat++[.stop])

/-- A transaction before its start. -/
def settledLink : Link :=
  linkOf t bus ⟨true,false,false,t.control.aa,true⟩ t.dat 0 t.memory false .idle bus.taken []

/-- A transaction after its start. -/
def startedLink : Link :=
  linkOf t bus ⟨false,false,false,t.control.aa,true⟩ t.slave 0 t.memory false .addressing
    bus.taken [.start]

/-- A transaction after the address. -/
def addressedLink : Link :=
  linkOf t bus ⟨false,false,false,t.control.aa,true⟩ t.register 0 t.memory false
    .transmitting bus.taken [.start,.address t.slave]

/-- A block read, step by step from the start flag on. -/
def readAt : ℕ → Link
  | 0 => settledLink t bus
  | 1 => startedLink t bus
  | 2 => addressedLink t bus
  | 3 => linkOf t bus ⟨true,false,false,t.control.aa,true⟩ t.register 0 t.memory false
      .transmitting bus.taken [.start,.address t.slave,.sent t.register]
  | 4 => linkOf t bus ⟨false,false,false,t.control.aa,true⟩ (t.slave ||| rdBit) 0 t.memory false
      .addressing bus.taken [.start,.address t.slave,.sent t.register,.repeatedStart]
  | i+5 =>
    if i<t.len.toNat then receivingLink incoming t bus i
    else if i=t.len.toNat then refusedLink incoming t bus
    else readOver incoming t bus

/-- What a block write has on the wire before the first byte. -/
def writeEvents : List WireEvent := [.start,.address t.slave,.sent t.register]

/-- The first `i` bytes of a block write on the wire. -/
def sentEvents (i : ℕ) : List WireEvent :=
  (List.range i).map fun j => .sent (t.memory (t.data+j))

/-- A block write with byte `i` in `I2DAT`. -/
def sendingLink (i : ℕ) : Link :=
  linkOf t bus ⟨false,false,false,t.control.aa,true⟩ (t.memory (t.data+i)) (UInt32.ofNat (i+1))
    t.memory false .transmitting bus.taken (writeEvents t++sentEvents t i)

/-- A block write with all bytes sent. -/
def sentLink : Link :=
  linkOf t bus ⟨false,true,false,t.control.aa,true⟩ (t.memory (t.data+(t.len.toNat-1))) t.len
    t.memory true .transmitting bus.taken (writeEvents t++sentEvents t t.len.toNat)

/-- A block write after its stop. -/
def writeOver : Link :=
  linkOf t bus ⟨false,false,false,t.control.aa,true⟩ (t.memory (t.data+(t.len.toNat-1))) t.len
    t.memory true .idle bus.taken (writeEvents t++sentEvents t t.len.toNat++[.stop])

/-- A block write, step by step from the start flag on. -/
def writeAt : ℕ → Link
  | 0 => settledLink t bus
  | 1 => startedLink t bus
  | 2 => addressedLink t bus
  | i+3 =>
    if i<t.len.toNat then sendingLink t bus i
    else if i=t.len.toNat then sentLink t bus
    else writeOver t bus

end Trajectory

/-! ## One step -/

section Steps

variable {incoming : ℕ → UInt8} {t : I2c} {bus : Bus}

/-- One more byte in memory. -/
theorem readMemory_succ (i : ℕ) :
    readMemory incoming t bus (i+1)=
      Function.update (readMemory incoming t bus i) (t.data+i) (incoming (bus.taken+i)) := by
  funext a
  by_cases ha : a=t.data+i
  · subst ha
    rw [Function.update_self,readMemory,filled,if_pos (by omega),Nat.add_sub_cancel_left]
  · rw [Function.update_of_ne ha]
    have hiff : (t.data≤a ∧ a<t.data+(i+1)) ↔ (t.data≤a ∧ a<t.data+i) := by omega
    simp only [readMemory,filled,hiff]

/-- One more byte received. -/
theorem receivedEvents_succ (i : ℕ) :
    receivedEvents incoming t bus (i+1)=receivedEvents incoming t bus i++
      [.received (incoming (bus.taken+i)) (decide (i+1<t.len.toNat))] := by
  simp only [receivedEvents,List.range_succ,List.map_append,List.map_cons,List.map_nil]

/-- One more byte sent. -/
theorem sentEvents_succ (i : ℕ) :
    sentEvents t (i+1)=sentEvents t i++[.sent (t.memory (t.data+i))] := by
  simp only [sentEvents,List.range_succ,List.map_append,List.map_cons,List.map_nil]

/-- A counter below `2^32` compares like the number it holds. -/
theorem ofNat_lt_iff (len : UInt32) (i : ℕ) (hi : i<2^32) :
    UInt32.ofNat i<len ↔ i<len.toNat := by
  rw [UInt32.lt_iff_toNat_lt,UInt32.toNat_ofNat_of_lt' hi]

/-- The address of a slave has its read bit clear. -/
theorem slave_and_rdBit (sl : UInt8) : sl &&& 0xFE &&& rdBit=0 := by
  rw [UInt8.and_assoc]
  exact UInt8.and_zero

/-- Setting the read bit sets it. -/
theorem or_rdBit_and_rdBit (byte : UInt8) : (byte ||| rdBit) &&& rdBit ≠ 0 := by
  intro h
  have hb : ((byte ||| rdBit) &&& rdBit).toNat.testBit 0=false := by rw [h]; rfl
  rw [UInt8.toNat_and,UInt8.toNat_or,Nat.testBit_and,Nat.testBit_or] at hb
  exact absurd hb (by simp [rdBit])

/-- The counter reaches the length after its last byte. -/
theorem ofNat_add_one_eq {len : UInt32} {i : ℕ} (hi : i+1=len.toNat) : UInt32.ofNat i+1=len := by
  have hlen : UInt32.ofNat len.toNat=len := UInt32.ofNat_toNat
  rw [←hlen,←hi]
  exact (UInt32.ofNat_add i 1).symm

/-- The start goes out. -/
theorem busStep_settledLink : busStep incoming (settledLink t bus)=startedLink t bus := by
  simp [busStep,settledLink,startedLink,linkOf,raised,i2c0IrqHandler,I2c.clearSiSta,Bus.next]

/-- The address goes out with the write bit, whatever the mode but ping. -/
theorem busStep_startedLink (hslave : t.slave &&& rdBit=0) (hmode : t.mode ≠ 2) :
    busStep incoming (startedLink t bus)=addressedLink t bus := by
  simp [busStep,startedLink,addressedLink,linkOf,raised,i2c0IrqHandler,I2c.clearSi,Bus.next,
    hslave,hmode]

/-- In read mode the register is followed by a repeated start. -/
theorem busStep_addressedLink_read (hmode : t.mode=1) :
    busStep incoming (addressedLink t bus)=readAt incoming t bus 3 := by
  simp [busStep,addressedLink,readAt,linkOf,raised,i2c0IrqHandler,I2c.clearSi,Bus.next,hmode]

/-- The repeated start. -/
theorem busStep_readAt_three :
    busStep incoming (readAt incoming t bus 3)=readAt incoming t bus 4 := by
  simp [busStep,readAt,linkOf,raised,i2c0IrqHandler,I2c.clearSiSta,Bus.next]

/-- The address with the read bit. The handler decides on the first byte. -/
theorem busStep_readAt_four :
    busStep incoming (readAt incoming t bus 4)=receivingLink incoming t bus 0 := by
  have hread := or_rdBit_and_rdBit t.slave
  have hlt : (1<t.len) ↔ 0+1<t.len.toNat := ofNat_lt_iff t.len 1 (by omega)
  have hmem : readMemory incoming t bus 0=t.memory := by
    funext a
    rw [readMemory,filled,if_neg (by omega)]
  simp [busStep,readAt,receivingLink,linkOf,raised,i2c0IrqHandler,I2c.clearSi,I2c.acknowledge,
    Bus.next,hread,hmem,hlt,readEvents,receivedEvents]

/-- A byte that is not the last. -/
theorem busStep_receivingLink (i : ℕ) (hi : i+1<t.len.toNat) :
    busStep incoming (receivingLink incoming t bus i)=receivingLink incoming t bus (i+1) := by
  have hbound := t.len.toNat_lt
  have hsmall : i<2^32 := by omega
  have hindex : (UInt32.ofNat i).toNat=i := UInt32.toNat_ofNat_of_lt' hsmall
  have hlt : UInt32.ofNat i+1+1<t.len ↔ i+1+1<t.len.toNat := by
    rw [UInt32.lt_iff_toNat_lt,UInt32.toNat_add,UInt32.toNat_add,hindex,UInt32.toNat_one]
    omega
  simp [busStep,receivingLink,linkOf,raised,i2c0IrqHandler,I2c.clearSi,I2c.acknowledge,
    I2c.receive,Bus.next,hi,hindex,hlt,readMemory_succ,receivedEvents_succ,Nat.add_assoc]

/-- The last byte. -/
theorem busStep_receivingLink_last (i : ℕ) (hi : i+1=t.len.toNat) :
    busStep incoming (receivingLink incoming t bus i)=refusedLink incoming t bus := by
  have hbound := t.len.toNat_lt
  have hsmall : i<2^32 := by omega
  have hindex : (UInt32.ofNat i).toNat=i := UInt32.toNat_ofNat_of_lt' hsmall
  have hnext := ofNat_add_one_eq hi
  have hlast : ¬i+1<t.len.toNat := by omega
  simp only [refusedLink,←hi,readMemory_succ,receivedEvents_succ]
  simp [busStep,receivingLink,linkOf,raised,i2c0IrqHandler,I2c.stop,I2c.receive,Bus.next,hlast,
    hindex,hnext,Nat.add_assoc]

/-- The stop of a read. -/
theorem busStep_refusedLink :
    busStep incoming (refusedLink incoming t bus)=readOver incoming t bus := by
  simp [busStep,refusedLink,readOver,linkOf,Bus.next]

/-- Nothing follows the stop of a read. -/
theorem busStep_readOver : busStep incoming (readOver incoming t bus)=readOver incoming t bus := by
  simp [busStep,readOver,linkOf]

/-- In write mode the register is followed by the first byte. -/
theorem busStep_addressedLink_write (hmode : t.mode=0) (hlen : 0<t.len.toNat) :
    busStep incoming (addressedLink t bus)=sendingLink t bus 0 := by
  have hlt : 0<t.len := UInt32.lt_iff_toNat_lt.mpr hlen
  simp [busStep,addressedLink,sendingLink,linkOf,raised,i2c0IrqHandler,I2c.clearSi,Bus.next,hmode,
    hlt,writeEvents,sentEvents]

/-- A byte with others to follow. -/
theorem busStep_sendingLink (hmode : t.mode=0) (i : ℕ) (hi : i+1<t.len.toNat) :
    busStep incoming (sendingLink t bus i)=sendingLink t bus (i+1) := by
  have hbound := t.len.toNat_lt
  have hsmall : i+1<2^32 := by omega
  have hindex : (UInt32.ofNat i+1).toNat=i+1 := by
    rw [←UInt32.toNat_ofNat_of_lt' hsmall,UInt32.ofNat_add]
    rfl
  have hlt : UInt32.ofNat i+1<t.len := by rw [UInt32.lt_iff_toNat_lt,hindex]; exact hi
  simp [busStep,sendingLink,linkOf,raised,i2c0IrqHandler,I2c.clearSi,Bus.next,hmode,hindex,hlt,
    sentEvents_succ]

/-- The last byte is out. -/
theorem busStep_sendingLink_last (hmode : t.mode=0) (i : ℕ) (hi : i+1=t.len.toNat) :
    busStep incoming (sendingLink t bus i)=sentLink t bus := by
  have hnext := ofNat_add_one_eq hi
  simp only [sentLink,←hi,sentEvents_succ,Nat.add_sub_cancel]
  simp [busStep,sendingLink,linkOf,raised,i2c0IrqHandler,I2c.stop,Bus.next,hmode,hnext]

/-- The stop of a write. -/
theorem busStep_sentLink : busStep incoming (sentLink t bus)=writeOver t bus := by
  simp [busStep,sentLink,writeOver,linkOf,Bus.next]

/-- Nothing follows the stop of a write. -/
theorem busStep_writeOver : busStep incoming (writeOver t bus)=writeOver t bus := by
  simp [busStep,writeOver,linkOf]

end Steps

/-! ## Whole runs -/

section Runs

variable {incoming : ℕ → UInt8} {t : I2c} {bus : Bus}

/-- A sequence that follows the steps is the run from its first state. -/
theorem busRun_of_steps {f : ℕ → Link} (h : ∀ m,busStep incoming (f m)=f (m+1)) (m : ℕ) :
    busRun incoming m (f 0)=f m := by
  induction m with
  | zero => rfl
  | succ m ih => rw [busRun,Function.iterate_succ_apply',←busRun,ih,h]

/-- Each step of a block read. -/
theorem busStep_readAt (hslave : t.slave &&& rdBit=0) (hmode : t.mode=1)
    (hlen : 0<t.len.toNat) (m : ℕ) :
    busStep incoming (readAt incoming t bus m)=readAt incoming t bus (m+1) := by
  have h2 : t.mode ≠ 2 := by rw [hmode]; decide
  match m with
  | 0 => exact busStep_settledLink
  | 1 => exact busStep_startedLink hslave h2
  | 2 => exact busStep_addressedLink_read hmode
  | 3 => exact busStep_readAt_three
  | 4 =>
    rw [busStep_readAt_four,readAt,if_pos hlen]
  | i+5 =>
    rw [readAt,readAt]
    rcases Nat.lt_trichotomy (i+1) t.len.toNat with h|h|h
    · rw [if_pos (by omega),if_pos h,busStep_receivingLink i h]
    · rw [if_pos (by omega),if_neg (by omega),if_pos h,busStep_receivingLink_last i h]
    · have hdone : ¬i<t.len.toNat ∧ ¬i+1<t.len.toNat ∧ ¬i+1=t.len.toNat := by omega
      rw [if_neg hdone.1,if_neg hdone.2.1,if_neg hdone.2.2]
      split
      · exact busStep_refusedLink
      · exact busStep_readOver

/-- Each step of a block write. -/
theorem busStep_writeAt (hslave : t.slave &&& rdBit=0) (hmode : t.mode=0)
    (hlen : 0<t.len.toNat) (m : ℕ) :
    busStep incoming (writeAt t bus m)=writeAt t bus (m+1) := by
  have h2 : t.mode ≠ 2 := by rw [hmode]; decide
  match m with
  | 0 => exact busStep_settledLink
  | 1 => exact busStep_startedLink hslave h2
  | 2 =>
    rw [writeAt,busStep_addressedLink_write hmode hlen,writeAt,if_pos hlen]
  | i+3 =>
    rw [writeAt,writeAt]
    rcases Nat.lt_trichotomy (i+1) t.len.toNat with h|h|h
    · rw [if_pos (by omega),if_pos h,busStep_sendingLink hmode i h]
    · rw [if_pos (by omega),if_neg (by omega),if_pos h,busStep_sendingLink_last hmode i h]
    · have hdone : ¬i<t.len.toNat ∧ ¬i+1<t.len.toNat ∧ ¬i+1=t.len.toNat := by omega
      rw [if_neg hdone.1,if_neg hdone.2.1,if_neg hdone.2.2]
      split
      · exact busStep_sentLink
      · exact busStep_writeOver

/-- A transaction that has just been set up. -/
structure Begun (t : I2c) (bus : Bus) : Prop where
  /-- The start flag is set. -/
  sta : t.control.sta=true
  /-- `I2CDone` is clear. -/
  done : t.done=false
  /-- No byte was moved yet. -/
  index : t.index=0
  /-- The interface is free. -/
  free : Free t bus

/-- The steps before the start: a stop that is still to come. -/
theorem busRun_lead (h : Begun t bus) :
    busRun incoming (leadSteps t) ⟨t,bus⟩=settledLink t bus := by
  obtain ⟨hsta,hdone,hindex,hen,hsi,hfree⟩ := h
  obtain ⟨mode,done,slave,register,data,value,memory,len,index,⟨sta,sto,si,aa,i2en⟩,dat,pow,pins⟩ := t
  simp only at hsta hdone hindex hen hsi hfree
  subst hsta hdone hindex hen hsi
  cases sto with
  | true => simp [leadSteps,leadEvents,busRun,busStep,settledLink,linkOf,Bus.next]
  | false =>
    have hidle : bus.phase=.idle := hfree.resolve_left nofun
    simp [leadSteps,leadEvents,busRun,settledLink,linkOf,←hidle]

/-- A run past the steps before the start. -/
theorem busRun_lead_add (h : Begun t bus) (m : ℕ) :
    busRun incoming (leadSteps t+m) ⟨t,bus⟩=busRun incoming m (settledLink t bus) := by
  rw [←busRun_lead h,busRun,busRun,busRun,Nat.add_comm,Function.iterate_add_apply]

/-- A run on the trajectory. -/
theorem busRun_on (h : Begun t bus) {f : ℕ → Link} (h0 : f 0=settledLink t bus)
    (hf : ∀ m,busStep incoming (f m)=f (m+1)) (m : ℕ) :
    busRun incoming (leadSteps t+m) ⟨t,bus⟩=f m := by
  rw [busRun_lead_add h,←h0,busRun_of_steps hf]

/-- A run is before the start or on the trajectory. -/
theorem busRun_cases (h : Begun t bus) {f : ℕ → Link} (h0 : f 0=settledLink t bus)
    (hf : ∀ m,busStep incoming (f m)=f (m+1)) (k : ℕ) :
    (k<leadSteps t ∧ busRun incoming k ⟨t,bus⟩=⟨t,bus⟩) ∨
      ∃ m,k=leadSteps t+m ∧ busRun incoming k ⟨t,bus⟩=f m := by
  by_cases hk : k<leadSteps t
  · have hlead : leadSteps t≤1 := by unfold leadSteps; split <;> omega
    have hzero : k=0 := by omega
    exact Or.inl ⟨hk,by rw [hzero]; rfl⟩
  · obtain ⟨m,rfl⟩ := Nat.exists_eq_add_of_le (Nat.le_of_not_lt hk)
    exact Or.inr ⟨m,rfl,busRun_on h h0 hf m⟩

/-- What holds at the set-up and along the trajectory holds throughout. -/
theorem busRun_forall (h : Begun t bus) {f : ℕ → Link} (h0 : f 0=settledLink t bus)
    (hf : ∀ m,busStep incoming (f m)=f (m+1)) {P : Link → Prop} (hstart : P ⟨t,bus⟩)
    (hP : ∀ m,P (f m)) (k : ℕ) : P (busRun incoming k ⟨t,bus⟩) := by
  rcases busRun_cases h h0 hf k with ⟨_,hk⟩|⟨m,_,hk⟩
  · rw [hk]
    exact hstart
  · rw [hk]
    exact hP m

/-- A trajectory that is busy for `n` steps keeps `I2CDone` clear that long. -/
theorem busRun_busy (h : Begun t bus) {f : ℕ → Link} (h0 : f 0=settledLink t bus)
    (hf : ∀ m,busStep incoming (f m)=f (m+1)) {n : ℕ} (hbusy : ∀ m<n,(f m).i2c.done=false)
    (k : ℕ) (hk : k<leadSteps t+n) : (busRun incoming k ⟨t,bus⟩).i2c.done=false := by
  rcases busRun_cases h h0 hf k with ⟨_,hrun⟩|⟨m,hm,hrun⟩
  · rw [hrun]
    exact h.done
  · rw [hrun]
    exact hbusy m (by omega)

/-- A block read stores nothing outside the block. -/
theorem readAt_memory_outside (m a : ℕ) (ha : a<t.data ∨ t.data+t.len.toNat≤a) :
    (readAt incoming t bus m).i2c.memory a=t.memory a := by
  have hout : ∀ i≤t.len.toNat,readMemory incoming t bus i a=t.memory a := by
    intro i hi
    rw [readMemory,filled,if_neg (by omega)]
  match m with
  | 0 | 1 | 2 | 3 | 4 => rfl
  | i+5 =>
    rw [readAt]
    split
    · next hi => exact hout i (Nat.le_of_lt hi)
    · split
      · exact hout _ (Nat.le_refl _)
      · exact hout _ (Nat.le_refl _)

/-- A block read is not done before its last byte. -/
theorem readAt_busy (m : ℕ) (hm : m<5+t.len.toNat) :
    (readAt incoming t bus m).i2c.done=false := by
  match m with
  | 0 | 1 | 2 | 3 | 4 => rfl
  | i+5 =>
    rw [readAt,if_pos (by omega)]
    rfl

/-- A block write leaves the memory alone. -/
theorem writeAt_memory (m : ℕ) : (writeAt t bus m).i2c.memory=t.memory := by
  match m with
  | 0 | 1 | 2 => rfl
  | i+3 =>
    rw [writeAt]
    split
    · rfl
    · split
      · rfl
      · rfl

/-- A block write is not done before its last byte. -/
theorem writeAt_busy (m : ℕ) (hm : m<3+t.len.toNat) : (writeAt t bus m).i2c.done=false := by
  match m with
  | 0 | 1 | 2 => rfl
  | i+3 =>
    rw [writeAt,if_pos (by omega)]
    rfl

/-- The memory of a block read after `i` bytes. -/
theorem readAt_memory (i : ℕ) (hi : i≤t.len.toNat) :
    (readAt incoming t bus (i+5)).i2c.memory=readMemory incoming t bus i := by
  rw [readAt]
  split
  · rfl
  · rw [if_pos (by omega),Nat.le_antisymm hi (by omega)]
    rfl

variable (incoming)

/-- A block read from its set-up on. -/
theorem Begun.blockRead (h : Begun t bus) {sl : UInt8} (hslave : t.slave=sl &&& 0xFE)
    (hmode : t.mode=1) (hlen : 0<t.len.toNat) :
    BlockRead incoming sl t.register t.data t.len t bus := by
  have hstep : ∀ m,busStep incoming (readAt incoming t bus m)=readAt incoming t bus (m+1) :=
    busStep_readAt (hslave▸slave_and_rdBit sl) hmode hlen
  have hon := busRun_on h (f := readAt incoming t bus) rfl hstep
  have hlast : readAt incoming t bus (t.len.toNat+5)=refusedLink incoming t bus := by
    rw [readAt,if_neg (Nat.lt_irrefl _),if_pos rfl]
  have hover : ∀ m,busRun incoming (leadSteps t+6+t.len.toNat+m) ⟨t,bus⟩=readOver incoming t bus := by
    intro m
    have hm : leadSteps t+6+t.len.toNat+m=leadSteps t+(t.len.toNat+1+m+5) := by omega
    rw [hm,hon,readAt,if_neg (by omega),if_neg (by omega)]
  refine ⟨?_,?_,?_,?_,?_,?_,?_⟩
  · intro i hi
    rw [Nat.add_assoc,hon,Nat.add_comm 5 i,readAt_memory i hi]
    rfl
  · intro k a ha
    exact busRun_forall h (f := readAt incoming t bus) (P := fun l => l.i2c.memory a=t.memory a)
      rfl hstep rfl (fun m => readAt_memory_outside m a ha) k
  · intro k hk
    exact busRun_busy h (f := readAt incoming t bus) rfl hstep readAt_busy k (by omega)
  · rw [Nat.add_assoc,hon,Nat.add_comm 5,hlast]
    exact ⟨rfl,rfl⟩
  · rw [←Nat.add_zero (leadSteps t+6+t.len.toNat),hover 0]
    simp [readOver,linkOf,readEvents,receivedEvents,hslave]
  · rw [←Nat.add_zero (leadSteps t+6+t.len.toNat),hover 0]
    exact ⟨rfl,rfl⟩
  · intro k hk
    obtain ⟨m,rfl⟩ := Nat.exists_eq_add_of_le hk
    exact (hover m).trans (hover 0).symm

/-- A block write from its set-up on. -/
theorem Begun.blockWritten (h : Begun t bus) {sl : UInt8} (hslave : t.slave=sl &&& 0xFE)
    (hmode : t.mode=0) (hlen : 0<t.len.toNat) :
    BlockWritten incoming sl t.register t.data t.len t bus := by
  have hstep : ∀ m,busStep incoming (writeAt t bus m)=writeAt t bus (m+1) :=
    busStep_writeAt (hslave▸slave_and_rdBit sl) hmode hlen
  have hon := busRun_on h (f := writeAt t bus) rfl hstep
  have hlast : writeAt t bus (t.len.toNat+3)=sentLink t bus := by
    rw [writeAt,if_neg (Nat.lt_irrefl _),if_pos rfl]
  have hover : ∀ m,busRun incoming (leadSteps t+4+t.len.toNat+m) ⟨t,bus⟩=writeOver t bus := by
    intro m
    have hm : leadSteps t+4+t.len.toNat+m=leadSteps t+(t.len.toNat+1+m+3) := by omega
    rw [hm,hon,writeAt,if_neg (by omega),if_neg (by omega)]
  refine ⟨?_,?_,?_,?_,?_,?_⟩
  · intro k
    exact busRun_forall h (f := writeAt t bus) (P := fun l => l.i2c.memory=t.memory)
      rfl hstep rfl writeAt_memory k
  · intro k hk
    exact busRun_busy h (f := writeAt t bus) rfl hstep writeAt_busy k (by omega)
  · rw [Nat.add_assoc,hon,Nat.add_comm 3,hlast]
    exact ⟨rfl,rfl⟩
  · rw [←Nat.add_zero (leadSteps t+4+t.len.toNat),hover 0]
    simp [writeOver,linkOf,writeEvents,sentEvents,hslave]
  · rw [←Nat.add_zero (leadSteps t+4+t.len.toNat),hover 0]
    exact ⟨rfl,rfl⟩
  · intro k hk
    obtain ⟨m,rfl⟩ := Nat.exists_eq_add_of_le hk
    exact (hover m).trans (hover 0).symm

end Runs

/-- Block transfers with a slave that acknowledges everything move exactly the
requested bytes, whatever the address, the register, the block and the bytes. -/
theorem block_transfers_exact (incoming : ℕ → UInt8) (earlier : Arrivals) (sl slReg : UInt8)
    (data : ℕ) (len : UInt32) (s : I2c) (bus : Bus) (hlen : 1≤len)
    (hfree : Free (waitForI2C earlier s).i2c bus) :
    BlockRead incoming sl slReg data len (readI2CBlock earlier sl slReg data len s) bus ∧
    BlockWritten incoming sl slReg data len (writeI2CBlock earlier sl slReg data len s) bus := by
  have hpos : 0<len.toNat := UInt32.le_iff_toNat_le.mp hlen
  have hread : Begun (readI2CBlock earlier sl slReg data len s) bus := ⟨rfl,rfl,rfl,hfree⟩
  have hwrite : Begun (writeI2CBlock earlier sl slReg data len s) bus := ⟨rfl,rfl,rfl,hfree⟩
  exact ⟨hread.blockRead incoming rfl rfl hpos,hwrite.blockWritten incoming rfl rfl hpos⟩

/-- A bus that was never used. -/
def freshBus : Bus := ⟨.idle,0,[]⟩

/-- A driver without a transaction. -/
def idleDriver : I2c :=
  ⟨0,true,0,0,0,0,fun a => UInt8.ofNat a,0,0,⟨false,false,false,false,true⟩,0,true,true⟩

/-- The six bytes of an address, over the wire and in memory. -/
theorem block_transfers_exact_six :
    Free (waitForI2C ⟨fun _ => [],[]⟩ idleDriver).i2c freshBus ∧
    BlockRead (fun j => UInt8.ofNat (0xA0+j)) 0xAE 0xFA 100 6
      (readI2CBlock ⟨fun _ => [],[]⟩ 0xAE 0xFA 100 6 idleDriver) freshBus ∧
    BlockWritten (fun j => UInt8.ofNat (0xA0+j)) 0xAE 0xFA 100 6
      (writeI2CBlock ⟨fun _ => [],[]⟩ 0xAE 0xFA 100 6 idleDriver) freshBus := by
  have hfree : Free (waitForI2C ⟨fun _ => [],[]⟩ idleDriver).i2c freshBus :=
    ⟨by decide +kernel,by decide +kernel,Or.inr rfl⟩
  exact ⟨hfree,block_transfers_exact _ _ _ _ _ _ _ _ (by decide) hfree⟩

end VlfGateway.I2cTransfer
