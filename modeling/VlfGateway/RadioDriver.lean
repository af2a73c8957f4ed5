import VlfGateway.AskProgram
import VlfGateway.RadioReceive
import VlfGateway.RadioState

/-!
# The radio driver

The driver reaches the radio through a handful of functions: the select line,
transfers of single octets, two pins and a delay. Everything it does to the
radio is a conversation over them, whatever the radio answers. The interrupt
routine deals with the frame that has just been received or sent, starts the
next transmission, carries out the command of the main loop, and switches the
receiver on again.
-/

namespace VlfGateway.RadioDriver

open AskProgram
open RadioFrame (RxSlot Sender Spi blankSpiCharacter radioSpiCmdFr radioSpiCmdFw outgoingFcf
  ieeeHeaderLen framePanId16bitAddr framePanId64bitAddr fcfPanIdCompression)
open RadioQueue (FrameData TxFrame Radif frameDataSize nextSlot)
open RadioReceive (RxSide)
open RadioState (trxStatus trxState busyRx busyTx trxOff busyRxAack busyTxAret rxAackOn txAretOn
  cmdForceTrxOff cmdPllOn timeAllStatesTrxOff timeRxOnToPllOn timeTrxOffToPllOn radioSuccess
  radioTimedOut stateOf transitional)

/-! ## The hardware functions -/

/-- The hardware functions of `struct radif`. -/
inductive Wire where
  /-- `spi_start`. -/
  | spiStart
  /-- `spi_stop`. -/
  | spiStop
  /-- `spi_xfer`. -/
  | spiXfer (data : UInt8)
  /-- `slptr_set`. -/
  | slptrSet
  /-- `slptr_clear`. -/
  | slptrClear
  /-- `reset_set`. -/
  | resetSet
  /-- `reset_clear`. -/
  | resetClear
  /-- `delay_us`. -/
  | delayUs (us : ℕ)

/-- What the functions return. -/
abbrev Wire.Answer : Wire → Type
  | .spiXfer _ => UInt8
  | _ => Unit

/-- A function of the driver. -/
abbrev Driver (α : Type) := Program Wire Wire.Answer α

/-- One call of a hardware function with its result. -/
abbrev Talk := List (Exchange Wire Wire.Answer)

/-- `spi_start`. -/
def spiStart : Driver Unit := .once Wire.spiStart

/-- `spi_stop`. -/
def spiStop : Driver Unit := .once Wire.spiStop

/-- `spi_xfer`. -/
def spiXfer (data : UInt8) : Driver UInt8 := .once (Wire.spiXfer data)

/-- `slptr_set`. -/
def slptrSet : Driver Unit := .once Wire.slptrSet

/-- `slptr_clear`. -/
def slptrClear : Driver Unit := .once Wire.slptrClear

/-- `reset_set`. -/
def resetSet : Driver Unit := .once Wire.resetSet

/-- `reset_clear`. -/
def resetClear : Driver Unit := .once Wire.resetClear

/-- `delay_us`. -/
def delayUs (us : ℕ) : Driver Unit := .once (Wire.delayUs us)

/-! ## Registers -/

/-- `RADIO_SPI_CMD_RR`. -/
def radioSpiCmdRr : UInt8 := 0x80

/-- `RADIO_SPI_CMD_RW`. -/
def radioSpiCmdRw : UInt8 := 0xC0

/-- `radio_reg_read`. -/
def radioRegRead (addr : UInt8) : Driver UInt8 := do
  spiStart
  let _ ← spiXfer (addr ||| radioSpiCmdRr)
  let val ← spiXfer blankSpiCharacter
  spiStop
  return val

/-- `radio_reg_write`. -/
def radioRegWrite (addr val : UInt8) : Driver Unit := do
  spiStart
  let _ ← spiXfer (addr ||| radioSpiCmdRw)
  let _ ← spiXfer val
  spiStop

/-- `radio_reg_write16`. -/
def radioRegWrite16 (addr : UInt8) (val : UInt16) : Driver Unit := do
  radioRegWrite addr val.toUInt8
  radioRegWrite (addr+1) (val >>> 8).toUInt8

/-- `radio_reg_read_mod_write`. -/
def radioRegReadModWrite (addr val mask : UInt8) : Driver Unit := do
  let tmp ← radioRegRead addr
  radioRegWrite addr ((tmp &&& ~~~mask) ||| (val &&& mask))

/-! ## Frames -/

/-- `read_spi_word`. -/
def readSpiWord : Driver UInt16 := do
  let lsb ← spiXfer blankSpiCharacter
  let msb ← spiXfer blankSpiCharacter
  return msb.toUInt16 <<< 8 ||| lsb.toUInt16

/-- `write_spi_word`. -/
def writeSpiWord (word : UInt16) : Driver Unit := do
  let _ ← spiXfer (word &&& 0xFF).toUInt8
  let _ ← spiXfer ((word >>> 8) &&& 0xFF).toUInt8

/-- The destination fields of `read_in_ieee_header`. -/
def readDestination (destAddrMode : UInt16) (read : UInt8) : Driver UInt8 := do
  if destAddrMode=framePanId16bitAddr then
    let _ ← readSpiWord
    let _ ← readSpiWord
    return read+4
  else if destAddrMode=framePanId64bitAddr then
    let _ ← readSpiWord
    return read+2
  else return read

/-- The PAN ID of the source. -/
def readSourcePanId (panIdCompression : UInt16) (read : UInt8) : Driver UInt8 := do
  if panIdCompression≠0 then return read
  else
    let _ ← readSpiWord
    return read+2

/-- The source fields of `read_in_ieee_header`. -/
def readSource (rx : RxSlot) (fcf : UInt16) (read : UInt8) : Driver (UInt8 × RxSlot) :=
  let panIdCompression := fcf &&& fcfPanIdCompression
  let srcAddrMode := (fcf >>> 14) &&& 0x3
  if srcAddrMode=framePanId16bitAddr then do
    let read ← readSourcePanId panIdCompression read
    let source ← readSpiWord
    return (read+2,{rx with sourceAddress := source})
  else if srcAddrMode=framePanId64bitAddr then do
    let read ← readSourcePanId panIdCompression read
    return (read,rx)
  else pure (read,rx)

/-- `read_in_ieee_header`. -/
def readInIeeeHeader (rx : RxSlot) : Driver (UInt8 × RxSlot) := do
  let fcf ← readSpiWord
  let destAddrMode := (fcf >>> 10) &&& 0x3
  let _ ← spiXfer blankSpiCharacter
  let read ← readDestination destAddrMode 3
  readSource rx fcf read

/-- `sizeof(struct rx_frame)`. -/
def slotSize : ℕ := 132

/-- A receive slot with the octets that were stored behind its end. -/
structure Filled where
  /-- The slot. -/
  slot : RxSlot
  /-- What was stored behind it, from its end on. -/
  spilled : List UInt8

/-- `rx->data[i] = octet`. Behind the buffer lie the other fields of the slot,
the length that bounds the loop first, and behind them the next structure. -/
def Filled.store (filled : Filled) (i : ℕ) (octet : UInt8) : Filled :=
  let slot := filled.slot
  if i<frameDataSize then {filled with slot := {slot with data := RadioFrame.putOctet slot.data i octet}}
  else
    match i-frameDataSize with
    | 0 => {filled with slot := {slot with length := octet}}
    | 1 => {filled with slot := {slot with crcStatus := octet}}
    | 2 => {filled with slot := {slot with energyDetect := octet}}
    | 3 => {filled with slot := {slot with
        sourceAddress := (slot.sourceAddress &&& (0xFF00 : UInt16)) ||| octet.toUInt16}}
    | 4 => {filled with slot := {slot with
        sourceAddress := (slot.sourceAddress &&& (0xFF : UInt16)) ||| octet.toUInt16 <<< 8}}
    | _ => {filled with spilled := filled.spilled++[octet]}

/-- The loop of `radio_frame_read`, with `n` rounds to go until its counter has
its largest value. The length is read again in every round. -/
def readPayload : ℕ → ℕ → Filled → Driver Filled
  | 0,_,filled => return filled
  | n+1,i,filled =>
    if i<filled.slot.length.toNat then do
      let octet ← spiXfer blankSpiCharacter
      readPayload n (i+1) (filled.store i octet)
    else return filled

/-- Transfers whose answers are dropped. -/
def spiXferAll : List UInt8 → Driver Unit
  | [] => return ()
  | data::rest => do
    let _ ← spiXfer data
    spiXferAll rest

/-- The transfers of `radio_frame_read`. -/
def readFrameOctets (rx : RxSlot) : Driver Filled := do
  let _ ← spiXfer radioSpiCmdFr
  let mpduLen ← spiXfer blankSpiCharacter
  let header ← readInIeeeHeader rx
  readPayload 255 0 ⟨{header.2 with length := mpduLen-(header.1+2)},[]⟩

/-- `radio_frame_read`. -/
def radioFrameRead (rx : RxSlot) : Driver Filled := do
  spiStart
  let filled ← readFrameOctets rx
  spiStop
  return filled

/-- `radio_frame_read_dummy`. -/
def radioFrameReadDummy : Driver Unit := do
  spiStart
  let _ ← spiXfer radioSpiCmdFr
  let len ← spiXfer blankSpiCharacter
  spiXferAll (List.replicate len.toNat blankSpiCharacter)
  spiStop

/-- `write_out_ieee_header`. -/
def writeOutIeeeHeader (tx : TxFrame) (sender : Sender) : Driver Sender := do
  writeSpiWord (outgoingFcf tx)
  let _ ← spiXfer sender.seq
  writeSpiWord sender.panId
  writeSpiWord tx.destinationAddress
  writeSpiWord sender.shortAddress
  return {sender with seq := sender.seq+1}

/-- The loop of `radio_frame_write`. A read outside of the buffer is no
result. -/
def writePayload (data : FrameData) : ℕ → ℕ → Driver Unit
  | 0,_ => return ()
  | n+1,i =>
    match data.octets[i]? with
    | some octet => do
      let _ ← spiXfer octet
      writePayload data n (i+1)
    | none => .halt

/-- The transfers of `radio_frame_write`. It halts on a frame that is too
long. -/
def writeFrameOctets (tx : TxFrame) (sender : Sender) : Driver Sender := do
  let _ ← spiXfer radioSpiCmdFw
  let len := tx.length+ieeeHeaderLen tx+2
  let _ ← spiXfer len
  if 127<len then .halt
  else
    let sender ← writeOutIeeeHeader tx sender
    writePayload tx.data tx.length.toNat 0
    let _ ← spiXfer blankSpiCharacter
    let _ ← spiXfer blankSpiCharacter
    return sender

/-- `radio_frame_write`. -/
def radioFrameWrite (tx : TxFrame) (sender : Sender) : Driver Sender := do
  spiStart
  let sender ← writeFrameOctets tx sender
  spiStop
  return sender

/-! ## States -/

/-- `RX_ON`. -/
def rxOn : UInt8 := 6

/-- `PLL_ON`. -/
def pllOn : UInt8 := 9

/-- `BUSY_RX_AACK_NOCLK`. -/
def busyRxAackNoclk : UInt8 := 30

/-- `CMD_TX_START`. -/
def cmdTxStart : UInt8 := 2

/-- `radio_get_state`. -/
def radioGetState : Driver UInt8 := do
  let status ← radioRegRead trxStatus
  return stateOf status

/-- The states in which `radio_is_state_busy` sees the radio busy. -/
def busy (state : UInt8) : Bool :=
  state==busyRx || state==busyRxAack || state==busyRxAackNoclk || state==busyTx || state==busyTxAret

/-- `radio_is_state_busy`. -/
def radioIsStateBusy : Driver Bool := do
  let state ← radioGetState
  return busy state

/-- `CHB_TRAC_STATUS_POS`. -/
def tracStatusPos : UInt8 := 5

/-- `radio_get_trac`. -/
def radioGetTrac : Driver UInt8 := do
  let state ← radioRegRead trxState
  return state >>> tracStatusPos

section Waiting

-- Rounds that a wait for the radio may take.
variable (fuel : ℕ)

/-- The intermediate step through `PLL_ON`. -/
def throughPllOn : Driver Unit := do
  radioRegReadModWrite trxState cmdPllOn 0x1F
  delayUs timeRxOnToPllOn

/-- The switch on the requested state. -/
def prepareState (state currState : UInt8) : Driver Unit :=
  if state=trxOff then do
    slptrClear
    radioRegReadModWrite trxState cmdForceTrxOff 0x1F
    delayUs timeAllStatesTrxOff
  else if state=txAretOn then .onlyIf (currState=rxAackOn) throughPllOn
  else if state=rxAackOn then .onlyIf (currState=txAretOn) throughPllOn
  else pure ()

/-- The rest of `radio_set_state` once the state is stable. -/
def changeState (state currState : UInt8) : Driver UInt8 := do
  prepareState state currState
  radioRegReadModWrite trxState state 0x1F
  delayUs (if currState=trxOff then timeTrxOffToPllOn else timeRxOnToPllOn)
  let final ← radioGetState
  return if final=state then radioSuccess else radioTimedOut

/-- `while (radio_get_state(radif) == curr_state);` -/
def leaveState (currState : UInt8) : Driver Unit := do
  let _ ← Program.repeatUntil (fun state => state≠currState) radioGetState fuel

/-- `radio_set_state`. -/
def radioSetState (state : UInt8) : Driver UInt8 := do
  let currState ← radioGetState
  if currState=state then return radioSuccess
  else
    Program.onlyIf (transitional currState) (leaveState fuel currState)
    changeState state currState

/-! ## The interface -/

/-- `struct radif`. -/
structure Interface where
  /-- The receive ring with its statistics. -/
  rx : RxSide
  /-- The transmit ring and `up`. -/
  tx : Radif
  /-- `pan_id`, `short_address` and `seq`. -/
  sender : Sender
  /-- `Command`. -/
  command : UInt8
  /-- `CommandOutput`. -/
  commandOutput : UInt8
  /-- `auto_crc_gen`. -/
  autoCrcGen : UInt8
  /-- `promiscuous`. -/
  promiscuous : UInt8
  /-- `freq`. -/
  freq : UInt16
  /-- `power`. -/
  power : UInt8
  /-- `modulation`. -/
  modulation : UInt8
  /-- `tx_success_count`. -/
  txSuccessCount : UInt16
  /-- `tx_channel_fail`. -/
  txChannelFail : UInt16
  /-- `tx_noack`. -/
  txNoack : UInt16
  /-- `tx_invalid`. -/
  txInvalid : UInt16
  /-- `last_trac_status`. -/
  lastTracStatus : UInt16

/-! ## Properties of the radio -/

/-- `TRX_CTRL_0`. -/
def trxCtrl0 : UInt8 := 0x03

/-- `TRX_CTRL_1`. -/
def trxCtrl1 : UInt8 := 0x04

/-- `PHY_TX_PWR`. -/
def phyTxPwr : UInt8 := 0x05

/-- `PHY_RSSI`. -/
def phyRssi : UInt8 := 0x06

/-- `PHY_ED_LEVEL`. -/
def phyEdLevel : UInt8 := 0x07

/-- `TRX_CTRL_2`. -/
def trxCtrl2 : UInt8 := 0x0C

/-- `IRQ_MASK`. -/
def irqMask : UInt8 := 0x0E

/-- `IRQ_STATUS`. -/
def irqStatus : UInt8 := 0x0F

/-- `CC_CTRL_0`. -/
def ccCtrl0 : UInt8 := 0x13

/-- `CC_CTRL_1`. -/
def ccCtrl1 : UInt8 := 0x14

/-- `RF_CTRL_0`. -/
def rfCtrl0 : UInt8 := 0x16

/-- `XAH_CTRL_1`. -/
def xahCtrl1 : UInt8 := 0x17

/-- `PART_NUM`. -/
def partNum : UInt8 := 0x1C

/-- `VERSION_NUM`. -/
def versionNum : UInt8 := 0x1D

/-- `SHORT_ADDR_0`. -/
def shortAddr0 : UInt8 := 0x20

/-- `PAN_ID_0`. -/
def panId0 : UInt8 := 0x22

/-- `XAH_CTRL_0`. -/
def xahCtrl0 : UInt8 := 0x2C

/-- `CSMA_SEED_1`. -/
def csmaSeed1 : UInt8 := 0x2E

/-- `RADIO_UNSUPPORTED_DEVICE`. -/
def radioUnsupportedDevice : UInt8 := 0x41

/-- `RADIO_INVALID_ARGUMENT`. -/
def radioInvalidArgument : UInt8 := 0x42

/-- `RADIO_WRONG_STATE`. -/
def radioWrongState : UInt8 := 0x44

/-- `RADIF_OQPSK`. -/
def radifOqpsk : UInt8 := 0x08

/-- `CHB_OQPSK_TX_OFFSET`. -/
def oqpskTxOffset : UInt8 := 2

/-- `CHB_BPSK_TX_OFFSET`. -/
def bpskTxOffset : UInt8 := 3

/-- `TIME_PLL_LOCK_TIME`. -/
def timePllLockTime : ℕ := 200

/-- `RADIO_IRQ_TRX_END`. -/
def radioIrqTrxEnd : UInt8 := 0x08

/-- `RADIO_IRQ_RX_START`. -/
def radioIrqRxStart : UInt8 := 0x04

/-- `RADIO_IRQ_CCA_ED_DONE`. -/
def radioIrqCcaEdDone : UInt8 := 0x10

/-- `radio_set_modulation`. -/
def radioSetModulation (radif : Interface) : Driver Unit := do
  let _ ← radioSetState fuel trxOff
  radioRegReadModWrite trxCtrl2 radif.modulation 0x3F
  if radif.modulation &&& radifOqpsk≠0 then radioRegReadModWrite rfCtrl0 oqpskTxOffset 0x3
  else radioRegReadModWrite rfCtrl0 bpskTxOffset 0x3

/-- Band and number of a frequency. -/
def channelOf (freq : UInt16) : Option (UInt8 × UInt8) :=
  if 7690≤freq ∧ freq≤7945 then some (1,(freq-7690).toUInt8)
  else if 8570≤freq ∧ freq≤8825 then some (2,(freq-8570).toUInt8)
  else if 9030≤freq ∧ freq≤9285 then some (3,(freq-9030).toUInt8)
  else if 769≤freq ∧ freq≤863 then some (4,(freq-769).toUInt8)
  else if 833≤freq ∧ freq≤935 then some (5,(freq-833).toUInt8)
  else none

/-- `radio_set_freq`. -/
def radioSetFreq (radif : Interface) : Driver UInt8 :=
  match channelOf radif.freq with
  | none => return radioInvalidArgument
  | some (band,number) => do
    radioRegReadModWrite ccCtrl1 band 0x7
    radioRegWrite ccCtrl0 number
    let state ← radioGetState
    Program.onlyIf (state=rxOn ∨ state=pllOn) (delayUs timePllLockTime)
    return radioSuccess

/-- `radio_set_pwr`. -/
def radioSetPwr (radif : Interface) : Driver Unit := radioRegWrite phyTxPwr radif.power

/-- `radio_set_address`. -/
def radioSetAddress (radif : Interface) : Driver Unit := do
  radioRegWrite16 panId0 radif.sender.panId
  radioRegWrite16 shortAddr0 radif.sender.shortAddress

/-- `TIME_SLEEP_TO_TRX_OFF`. -/
def timeSleepToTrxOff : ℕ := 380

/-- `radio_sleep`. -/
def radioSleep : Driver Unit := do
  let _ ← radioSetState fuel trxOff
  slptrSet

/-- `radio_wake`. -/
def radioWake : Driver Unit := do
  slptrClear
  delayUs timeSleepToTrxOff
  let _ ← radioSetState fuel rxAackOn

/-- The loop of `radio_get_random` over its shifts. -/
def randomLoop : List UInt8 → UInt8 → Driver UInt8
  | [],rand => return rand
  | shift::rest,rand => do
    let rssi ← radioRegRead phyRssi
    randomLoop rest (rand ||| (((rssi <<< 1) &&& 0xC0) >>> shift))

/-- `radio_get_random`. -/
def radioGetRandom : Driver UInt8 := do
  let _ ← radioSetState fuel rxOn
  randomLoop [0,2,4,6] 0

/-- `radio_measure_energy`. -/
def radioMeasureEnergy : Driver UInt8 := do
  let _ ← radioSetState fuel rxOn
  radioRegWrite phyEdLevel blankSpiCharacter
  radioRegReadModWrite irqMask radioIrqCcaEdDone radioIrqCcaEdDone
  let _ ← Program.repeatUntil (fun flags => flags &&& radioIrqCcaEdDone≠0) (radioRegRead irqStatus) fuel
  radioRegReadModWrite irqMask 0 radioIrqCcaEdDone
  radioRegRead phyEdLevel

/-- `AT86RF212_VER_NUM`. -/
def at86rf212VerNum : UInt8 := 0x01

/-- `AT86RF212_PART_NUM`. -/
def at86rf212PartNum : UInt8 := 0x07

/-- `TIME_P_ON_WAIT`. -/
def timePOnWait : ℕ := 400

/-- `TIME_RST_PULSE_WIDTH`. -/
def timeRstPulseWidth : ℕ := 1

/-- Whether version and part number are the expected ones. The part number is
read only behind the right version. -/
def partMatches : Driver Bool := do
  let version ← radioRegRead versionNum
  if version≠at86rf212VerNum then return false
  else
    let part ← radioRegRead partNum
    return part=at86rf212PartNum

/-- A test that is given up after a number of failures. -/
def tryTimes (test : Driver Bool) : ℕ → Driver Bool
  | 0 => return false
  | rounds+1 => do
    let passed ← test
    if passed then return true else tryTimes test rounds

/-- The part of `radio_reset` behind the check of the part number. -/
def switchOff : Driver UInt8 := do
  radioRegReadModWrite trxCtrl0 0x19 0x3F
  radioRegReadModWrite trxState cmdForceTrxOff 0x1F
  delayUs timeAllStatesTrxOff
  let off ← tryTimes (do
    let status ← radioRegRead trxStatus
    return stateOf status=trxOff) 102
  if off then
    let _ ← radioRegRead irqStatus
    radioRegWrite irqMask 0
    return radioSuccess
  else return radioWrongState

/-- `radio_reset`. The counter lets each test fail a hundred and one times. -/
def radioReset : Driver UInt8 := do
  resetClear
  slptrClear
  spiStop
  delayUs timePOnWait
  resetSet
  delayUs timeRstPulseWidth
  resetClear
  let found ← tryTimes partMatches 102
  if found then switchOff else return radioUnsupportedDevice

/-- `RADIO_AUTO_CRC_GEN`. -/
def radioAutoCrcGen : UInt8 := 0x20

/-- `RADIO_PROMISCUOUS`. -/
def radioPromiscuous : UInt8 := 0x2

/-- `radio_config`, with the sequence number it chooses. -/
def radioConfig (radif : Interface) : Driver Interface := do
  radioRegWrite xahCtrl0 0x38
  radioRegReadModWrite csmaSeed1 0x40 0xC0
  radioRegWrite irqMask (radioIrqRxStart ||| radioIrqTrxEnd)
  Program.onlyIf (radif.autoCrcGen≠0)
    (radioRegReadModWrite trxCtrl1 radioAutoCrcGen radioAutoCrcGen)
  Program.onlyIf (radif.promiscuous≠0)
    (radioRegReadModWrite xahCtrl1 radioPromiscuous radioPromiscuous)
  let seq ← radioGetRandom fuel
  return {radif with sender := {radif.sender with seq := seq}}

/-! ## The interrupt -/

/-- The commands of the main loop. -/
inductive Command where
  /-- `RADIF_RESET`. -/
  | reset
  /-- `RADIF_STARTUP`. -/
  | startup
  /-- `RADIF_GET_RANDOM_NUMBER`. -/
  | getRandomNumber
  /-- `RADIF_SET_MODULATION`. -/
  | setModulation
  /-- `RADIF_SET_FREQ`. -/
  | setFreq
  /-- `RADIF_SET_POWER`. -/
  | setPower
  /-- `RADIF_SET_ADDRESS`. -/
  | setAddress
  /-- `RADIF_ENERGY`. -/
  | energy
  /-- `RADIF_WAKE`. -/
  | wake
  /-- `RADIF_SLEEP`. -/
  | sleep
  deriving DecidableEq

/-- The number of a command in `Command`. -/
def Command.code : Command → UInt8
  | .reset => 1
  | .startup => 2
  | .getRandomNumber => 3
  | .setModulation => 4
  | .setFreq => 5
  | .setPower => 6
  | .setAddress => 7
  | .energy => 8
  | .wake => 9
  | .sleep => 10

/-- The command with a number. -/
def Command.ofCode (code : UInt8) : Option Command :=
  [Command.reset,.startup,.getRandomNumber,.setModulation,.setFreq,.setPower,.setAddress,.energy,
    .wake,.sleep].find? fun command => command.code=code

/-- The switch of `radio_command`. -/
def carryOut (radif : Interface) : Command → Driver Interface
  | .reset => do
    let output ← radioReset
    return {radif with commandOutput := output}
  | .startup => do
    let radif ← radioConfig fuel radif
    return {radif with tx := {radif.tx with up := true}}
  | .getRandomNumber => do
    let output ← radioGetRandom fuel
    return {radif with commandOutput := output}
  | .setModulation => do
    radioSetModulation fuel radif
    return radif
  | .setFreq => do
    let output ← radioSetFreq radif
    return {radif with commandOutput := output}
  | .setPower => do
    radioSetPwr radif
    return radif
  | .setAddress => do
    radioSetAddress radif
    return radif
  | .energy => do
    let output ← radioMeasureEnergy fuel
    return {radif with commandOutput := output}
  | .wake => do
    radioWake fuel
    return {radif with tx := {radif.tx with up := true}}
  | .sleep => do
    radioSleep fuel
    return {radif with tx := {radif.tx with up := false}}

/-- The command that waits, if there is one the switch knows. -/
def carryOutWaiting (radif : Interface) : Driver Interface :=
  match Command.ofCode radif.command with
  | some command => carryOut fuel radif command
  | none => pure radif

/-- `radio_command`. -/
def radioCommand (radif : Interface) : Driver Interface := do
  let after ← carryOutWaiting fuel radif
  return {after with command := 0}

/-- `radio_tx`. -/
def radioTx (radif : Interface) : Driver Interface := do
  let index := radif.tx.txConsumeIndex
  if index≠radif.tx.txProduceIndex then
    let isBusy ← radioIsStateBusy
    if isBusy then return radif
    else
      let _ ← radioSetState fuel trxOff
      let _ ← radioSetState fuel txAretOn
      let sender ← radioFrameWrite (radif.tx.txFrames index) radif.sender
      radioRegReadModWrite trxState cmdTxStart 0x1F
      return {radif with
        tx := {radif.tx with txConsumeIndex := nextSlot index}
        sender := sender}
  else return radif

/-- `TRAC_SUCCESS`. -/
def tracSuccess : UInt8 := 0

/-- `TRAC_SUCCESS_DATA_PENDING`. -/
def tracSuccessDataPending : UInt8 := 1

/-- `TRAC_CHANNEL_ACCESS_FAIL`. -/
def tracChannelAccessFail : UInt8 := 3

/-- `TRAC_NO_ACK`. -/
def tracNoAck : UInt8 := 5

/-- The statistics after a transmission with the given status. -/
def countTransmission (radif : Interface) (tracStatus : UInt8) : Interface :=
  let radif := {radif with lastTracStatus := tracStatus.toUInt16}
  if tracStatus=tracSuccess ∨ tracStatus=tracSuccessDataPending then
    {radif with txSuccessCount := radif.txSuccessCount+1}
  else if tracStatus=tracChannelAccessFail then {radif with txChannelFail := radif.txChannelFail+1}
  else if tracStatus=tracNoAck then {radif with txNoack := radif.txNoack+1}
  else {radif with txInvalid := radif.txInvalid+1}

/-- `radio_tx_end`. -/
def radioTxEnd (radif : Interface) : Driver Interface := do
  let tracStatus ← radioGetTrac
  return countTransmission radif tracStatus

/-- `TxFrames[0]`. -/
def firstSlot : Fin RadioQueue.numTxFrames := ⟨0,RadioQueue.numTxFrames_pos⟩

/-- A frame's buffer over whose start a row of octets was stored. -/
def overwritten (data : FrameData) (spilled : List UInt8) : FrameData :=
  ⟨(spilled++data.octets.drop spilled.length).take frameDataSize,by
    rw [List.length_take,List.length_append,List.length_drop,data.size]
    omega⟩

/-- The interface after octets were stored behind receive slot `index`. Behind
the last receive slot lies the first transmit slot. -/
def Interface.spill (radif : Interface) (index : Fin RadioReceive.numRxFrames)
    (spilled : List UInt8) : Interface :=
  if index.val+1<RadioReceive.numRxFrames then
    let next := FifoRing.next index
    let slot := radif.rx.rxFrames next
    let after := {slot with data := overwritten slot.data spilled}
    {radif with rx := {radif.rx with rxFrames := Function.update radif.rx.rxFrames next after}}
  else
    let slot := radif.tx.txFrames firstSlot
    let after := {slot with data := overwritten slot.data spilled}
    {radif with
      tx := {radif.tx with
        txFrames := Function.update radif.tx.txFrames firstSlot after}}

/-- The branch of `radio_rx_end` that stores the frame. -/
def storeFrame (radif : Interface) : Driver Interface := do
  let index := radif.rx.rxProduceIndex
  let energy ← radioRegRead phyEdLevel
  let rssi ← radioRegRead phyRssi
  let filled ← radioFrameRead {radif.rx.rxFrames index with
    energyDetect := energy
    crcStatus := if rssi &&& 0x80≠0 then 1 else 0}
  let spilled := radif.spill index filled.spilled
  return {spilled with rx := {spilled.rx with
    rxFrames := Function.update spilled.rx.rxFrames index filled.slot
    rxProduceIndex := FifoRing.next index
    rxSuccessCount := spilled.rx.rxSuccessCount+1}}

/-- The branch of `radio_rx_end` without a free slot. -/
def dropFrame (radif : Interface) : Driver Interface := do
  radioFrameReadDummy
  return {radif with rx := {radif.rx with rxOverflow := radif.rx.rxOverflow+1}}

/-- `radio_rx_end`. -/
def radioRxEnd (radif : Interface) : Driver Interface := do
  let after ← (if FifoRing.next radif.rx.rxProduceIndex≠radif.rx.rxConsumeIndex then
    storeFrame radif else dropFrame radif)
  leaveState fuel busyRxAack
  return after

/-- The states that `radio_trx_end` takes for the end of a reception. -/
def receiving (state : UInt8) : Bool := state==rxOn || state==rxAackOn || state==busyRxAack

/-- `radio_trx_end`. -/
def radioTrxEnd (radif : Interface) : Driver Interface := do
  let state ← radioGetState
  if receiving state then radioRxEnd fuel radif else radioTxEnd radif

/-- The part of `radio_irq` for an interface that is up. -/
def serveFlags (radif : Interface) : Driver Interface := do
  let intpSrc ← radioRegRead irqStatus
  let radif ← (if intpSrc &&& radioIrqTrxEnd≠0 then radioTrxEnd fuel radif else pure radif)
  radioTx fuel radif

/-- `while (radio_set_state(RX_AACK_ON, radif) != RADIO_SUCCESS);` -/
def receiveAgain : Driver Unit := do
  let _ ← Program.repeatUntil (fun result => result=radioSuccess) (radioSetState fuel rxAackOn) fuel

/-- The end of `radio_irq` for an interface that is up. -/
def listenAgain : Driver Unit := do
  let isBusy ← radioIsStateBusy
  Program.onlyIf (isBusy=false) (receiveAgain fuel)

/-- `radio_irq`. -/
def radioIrq (radif : Interface) : Driver Interface := do
  let served ← (if radif.tx.up then serveFlags fuel radif else pure radif)
  let radif ← radioCommand fuel served
  Program.onlyIf radif.tx.up (listenAgain fuel)
  return radif

end Waiting

end VlfGateway.RadioDriver
