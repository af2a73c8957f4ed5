import Mathlib.Data.List.Basic
import Mathlib.Logic.Function.Basic
import Mathlib.Tactic

/-!
# The I2C driver

A transaction is set up by one of the calls and then carried on by the
interrupt handler, which decides from the status the interface reports. The
calls and the handler share a handful of variables; `I2CDone` is the only one
by which the handler tells a waiting call that the transaction is over.

Interrupts arrive at any time. A wait therefore takes as input what arrives
before each test of `I2CDone`.
-/

namespace VlfGateway.I2cDriver

/-! ## State -/

/-- The flags of `I2CONSET` and `I2CONCLR`. -/
structure Control where
  /-- `I2C_STA`. -/
  sta : Bool
  /-- `I2C_STO`. -/
  sto : Bool
  /-- `I2C_SI`. -/
  si : Bool
  /-- `I2C_AA`. -/
  aa : Bool
  /-- `I2C_I2EN`. -/
  i2en : Bool
  deriving DecidableEq

/-- The variables of the driver, the interface registers it writes and the
memory its pointers reach. -/
structure I2c where
  /-- `I2CMode`: 0 write, 1 read, 2 ping. -/
  mode : UInt8
  /-- `I2CDone`. -/
  done : Bool
  /-- `I2CSlave`. -/
  slave : UInt8
  /-- `I2CRegister`. -/
  register : UInt8
  /-- `I2CData`, the address it points at. -/
  data : ℕ
  /-- Address of `I2CDataValue`. -/
  dataValue : ℕ
  /-- The memory. -/
  memory : ℕ → UInt8
  /-- `I2CLen`. -/
  len : UInt32
  /-- `I2CIndex`. -/
  index : UInt32
  /-- The control flags. -/
  control : Control
  /-- What was last written to `I2DAT`. -/
  dat : UInt8
  /-- The bit of `PCONP` that powers the interface. -/
  powered : Bool
  /-- Whether `PINSEL1` gives the two pins to the interface. -/
  pins : Bool

/-- One interrupt: what the handler reads from `I2STAT` and `I2DAT`. -/
structure Interrupt where
  /-- `I2STAT`. -/
  stat : UInt8
  /-- `I2DAT`. -/
  dat : UInt8
  deriving DecidableEq

/-! ## The handler -/

/-- `RD_BIT`. -/
def rdBit : UInt8 := 0x01

/-- `I2CONCLR = I2C_SI`. -/
def I2c.clearSi (s : I2c) : I2c := {s with control := {s.control with si := false}}

/-- `I2CONCLR = (I2C_SI | I2C_STA)`. -/
def I2c.clearSiSta (s : I2c) : I2c :=
  {s with control := {s.control with si := false,sta := false}}

/-- Set the stop flag, clear `SI` and flag the transaction as over. -/
def I2c.stop (s : I2c) : I2c :=
  {s with control := {s.control with sto := true,si := false},done := true}

/-- `I2CData[I2CIndex++] = LPC_I2C0->I2DAT`. -/
def I2c.receive (s : I2c) (dat : UInt8) : I2c :=
  {s with memory := Function.update s.memory (s.data+s.index.toNat) dat,index := s.index+1}

/-- Acknowledge the incoming byte or not. -/
def I2c.acknowledge (s : I2c) (aa : Bool) : I2c :=
  {s with control := {s.control with aa := aa}}

/-- `I2C0_IRQHandler`. -/
def i2c0IrqHandler (s : I2c) (i : Interrupt) : I2c :=
  if i.stat=0x08 then
    {s with dat := s.slave}.clearSiSta
  else if i.stat=0x10 then
    {s with dat := s.slave ||| rdBit}.clearSiSta
  else if i.stat=0x18 then
    if s.mode=2 then s.stop else {s with dat := s.register}.clearSi
  else if i.stat=0x40 then
    (s.acknowledge (decide (1<s.len))).clearSi
  else if i.stat=0x20 ∨ i.stat=0x48 then
    s.stop
  else if i.stat=0x28 then
    if s.mode=1 then
      {s with control := {s.control with sta := true}}.clearSi
    else if s.index<s.len then
      {s with dat := s.memory (s.data+s.index.toNat),index := s.index+1}.clearSi
    else
      s.stop
  else if i.stat=0x30 then
    s.stop
  else if i.stat=0x50 then
    let s := s.receive i.dat
    (s.acknowledge (decide (s.index+1<s.len))).clearSi
  else if i.stat=0x58 then
    (s.receive i.dat).stop
  else
    -- 0x38 and every status without a case of its own.
    {s.clearSi with done := true}

/-- Several interrupts, one after the other. -/
def serve (s : I2c) (interrupts : List Interrupt) : I2c := interrupts.foldl i2c0IrqHandler s

/-! ## Waiting -/

/-- `I2CMAX_TIMEOUT`. -/
def i2cMaxTimeout : ℕ := 0x00FFFFFF

/-- Interrupts that arrive while a call waits. -/
structure Arrivals where
  /-- Those before the `k`-th test of `I2CDone` in the loop. -/
  polls : ℕ → List Interrupt
  /-- Those between the loop and the test after it. -/
  late : List Interrupt

/-- What a wait did. -/
structure Wait where
  /-- Its result. -/
  result : ℤ
  /-- The driver afterwards. -/
  i2c : I2c
  /-- The interrupts handled while it lasted. -/
  served : List Interrupt

/-- `while (I2CDone == 0 && i++ < I2CMAX_TIMEOUT);` with `remaining` increments
left at the `k`-th test: the interrupts handled until it ends. -/
def polled (polls : ℕ → List Interrupt) : ℕ → ℕ → I2c → List Interrupt
  | 0,k,_ => polls k
  | remaining+1,k,s =>
    let s := serve s (polls k)
    if s.done then polls k else polls k++polled polls remaining (k+1) s

/-- `WaitForI2C`. -/
def waitForI2C (arrivals : Arrivals) (s : I2c) : Wait :=
  let served := polled arrivals.polls i2cMaxTimeout 0 s++arrivals.late
  let s := serve s served
  if s.done then ⟨1,s,served⟩
  else ⟨-1,{s with control := {s.control with sto := true},done := true},served⟩

/-! ## The calls -/

/-- The variables of a new transaction and its start flag. -/
def I2c.begin (s : I2c) (sl slReg mode : UInt8) (data : ℕ) (len : UInt32) : I2c :=
  {s with slave := sl &&& 0xFE,register := slReg,mode := mode,done := false,data := data,
          len := len,index := 0,control := {s.control with sta := true}}

/-- `WriteI2CBlock`. -/
def writeI2CBlock (earlier : Arrivals) (sl slReg : UInt8) (data : ℕ) (len : UInt32) (s : I2c) :
    I2c :=
  (waitForI2C earlier s).i2c.begin sl slReg 0 data len

/-- `ReadI2CBlock`. -/
def readI2CBlock (earlier : Arrivals) (sl slReg : UInt8) (data : ℕ) (len : UInt32) (s : I2c) :
    I2c :=
  (waitForI2C earlier s).i2c.begin sl slReg 1 data len

/-- `PingI2C` up to its second wait. It leaves the register, the pointer, the
length and the index of the transaction before. -/
def beginPing (earlier : Arrivals) (sl : UInt8) (s : I2c) : I2c :=
  let s := (waitForI2C earlier s).i2c
  {s with slave := sl &&& 0xFE,mode := 2,done := false,control := {s.control with sta := true}}

/-- `PingI2C`. -/
def pingI2C (earlier during : Arrivals) (sl : UInt8) (s : I2c) : ℤ × I2c :=
  let wait := waitForI2C during (beginPing earlier sl s)
  (wait.result,wait.i2c)

/-- `ReadI2C` up to its second wait. -/
def beginRead (earlier : Arrivals) (sl slReg : UInt8) (s : I2c) : I2c :=
  let s := (waitForI2C earlier s).i2c
  s.begin sl slReg 1 s.dataValue 1

/-- `ReadI2C`. -/
def readI2C (earlier during : Arrivals) (sl slReg : UInt8) (s : I2c) : ℤ × I2c :=
  let wait := waitForI2C during (beginRead earlier sl slReg s)
  if 0<wait.result then ((wait.i2c.memory wait.i2c.data).toNat,wait.i2c) else (-1,wait.i2c)

/-- `InitI2C`. -/
def initI2C (s : I2c) : I2c :=
  {s with done := true,powered := true,pins := true,control := ⟨false,false,false,false,true⟩}

/-- `ShutdownI2C`. -/
def shutdownI2C (s : I2c) : I2c := {s with powered := false,pins := false}

/-- `EEPROM_ADDR`. -/
def eepromAddr : UInt8 := 0xAE

/-- `MAC_LOCATION`. -/
def macLocation : UInt8 := 0xFA

/-- `get_macaddr` up to its wait. -/
def beginMacaddr (earlier : Arrivals) (macaddr : ℕ) (s : I2c) : I2c :=
  readI2CBlock earlier eepromAddr macLocation macaddr 6 (initI2C s)

/-- `get_macaddr`. -/
def getMacaddr (earlier during : Arrivals) (macaddr : ℕ) (s : I2c) : ℤ × I2c :=
  let wait := waitForI2C during (beginMacaddr earlier macaddr s)
  if 0≤wait.result then (1,shutdownI2C wait.i2c) else (-1,wait.i2c)

/-! ## What one interrupt does -/

/-- The statuses of a received byte. -/
def dataStatus (stat : UInt8) : Bool := stat==0x50 || stat==0x58

/-- Whether a status takes a byte from the block to send it. -/
def sendsByte (mode : UInt8) (len index : UInt32) (stat : UInt8) : Bool :=
  stat==0x28 && mode != 1 && decide (index<len)

/-- `I2CIndex` after a status. -/
def advance (mode : UInt8) (len index : UInt32) (stat : UInt8) : UInt32 :=
  if dataStatus stat || sendsByte mode len index stat then index+1 else index

/-- Whether the handler flags the transaction as over on a status. -/
def finishes (mode : UInt8) (len index : UInt32) (stat : UInt8) : Bool :=
  !(stat==0x08 || stat==0x10 || stat==0x40 || stat==0x50 || (stat==0x18 && mode != 2) ||
    (stat==0x28 && mode==1) || sendsByte mode len index stat)

/-- What the handler does, whatever the status: it sets `I2CDone` on the
finishing statuses, stores received bytes at the index and nothing else, and
leaves the set-up of the transaction alone. -/
theorem i2c0IrqHandler_spec (s : I2c) (i : Interrupt) :
    (i2c0IrqHandler s i).done=(s.done || finishes s.mode s.len s.index i.stat) ∧
    (i2c0IrqHandler s i).index=advance s.mode s.len s.index i.stat ∧
    (i2c0IrqHandler s i).memory=
      (if dataStatus i.stat then Function.update s.memory (s.data+s.index.toNat) i.dat
       else s.memory) ∧
    (i2c0IrqHandler s i).mode=s.mode ∧ (i2c0IrqHandler s i).len=s.len ∧
    (i2c0IrqHandler s i).data=s.data := by
  obtain ⟨stat,dat⟩ := i
  -- One case per label of the switch, then the default.
  by_cases h08 : stat=0x08
  · subst h08
    simp [i2c0IrqHandler,I2c.clearSiSta,finishes,advance,dataStatus,sendsByte]
  by_cases h10 : stat=0x10
  · subst h10
    simp [i2c0IrqHandler,I2c.clearSiSta,finishes,advance,dataStatus,sendsByte]
  by_cases h18 : stat=0x18
  · subst h18
    by_cases hm : s.mode=2 <;>
      simp [i2c0IrqHandler,I2c.stop,I2c.clearSi,finishes,advance,dataStatus,sendsByte,hm]
  by_cases h40 : stat=0x40
  · subst h40
    simp [i2c0IrqHandler,I2c.acknowledge,I2c.clearSi,finishes,advance,dataStatus,sendsByte]
  by_cases hna : stat=0x20 ∨ stat=0x48
  · rcases hna with rfl|rfl <;>
      simp [i2c0IrqHandler,I2c.stop,finishes,advance,dataStatus,sendsByte]
  by_cases h28 : stat=0x28
  · subst h28
    by_cases hm : s.mode=1
    · simp [i2c0IrqHandler,I2c.clearSi,finishes,advance,dataStatus,sendsByte,hm]
    by_cases hi : s.index<s.len
    · simp [i2c0IrqHandler,I2c.clearSi,finishes,advance,dataStatus,sendsByte,hm,hi]
    · simp [i2c0IrqHandler,I2c.stop,finishes,advance,dataStatus,sendsByte,hm,hi]
  by_cases h30 : stat=0x30
  · subst h30
    simp [i2c0IrqHandler,I2c.stop,finishes,advance,dataStatus,sendsByte]
  by_cases h50 : stat=0x50
  · subst h50
    simp [i2c0IrqHandler,I2c.receive,I2c.acknowledge,I2c.clearSi,finishes,advance,dataStatus,
      sendsByte]
  by_cases h58 : stat=0x58
  · subst h58
    simp [i2c0IrqHandler,I2c.receive,I2c.stop,finishes,advance,dataStatus,sendsByte]
  · simp [i2c0IrqHandler,I2c.clearSi,finishes,advance,dataStatus,sendsByte,h08,h10,h18,h40,hna,
      h28,h30,h50,h58]

end VlfGateway.I2cDriver
