import VlfGateway.RadioMailbox
import VlfGateway.SpiBus

/-!
# Starting the radio

Starting the interface gives six commands in a row. The radio they are given to
is not modelled: it is any environment that answers the hardware functions. What
is used of it is named. Its registers hold what was last written to them, or
their default after a reset; then the registers end up as the interface says,
whatever states the radio reports on the way. If it also takes each state it is
commanded to in the time the driver gives it, the start-up ends with the
receiver on.
-/

namespace VlfGateway.RadioSetup

open AskProgram RadioDriver RadioMailbox SpiBus
open RadioState (trxStatus trxState trxOff rxAackOn cmdForceTrxOff timeAllStatesTrxOff
  timeRxOnToPllOn timeTrxOffToPllOn radioSuccess stateOf transitional masked_write)

/-! ## What is assumed of the radio -/

/-- The registers of the settings. -/
def settingRegisters : List UInt8 :=
  [trxCtrl0,trxCtrl1,phyTxPwr,trxCtrl2,irqMask,ccCtrl0,ccCtrl1,rfCtrl0,xahCtrl1,shortAddr0,
    shortAddr0+1,panId0,panId0+1,xahCtrl0,csmaSeed1]

/-- A condition on the registers of the settings is checked on their list. -/
theorem settings_all {condition : UInt8 → Prop} [DecidablePred condition]
    (h : (settingRegisters.all fun addr => condition addr)=true) :
    ∀ addr∈settingRegisters,condition addr :=
  fun addr haddr => of_decide_eq_true (List.all_eq_true.mp h addr haddr)

/-- The registers of the settings are among the 64 of the radio. -/
theorem setting_low : ∀ addr∈settingRegisters,addr<0x40 := settings_all rfl

/-- What is done to the pins at the start of `radio_reset`. -/
def resetPulse : List Wire :=
  [.resetClear,.slptrClear,.spiStop,.delayUs timePOnWait,.resetSet,.delayUs timeRstPulseWidth,
    .resetClear]

section Radio

variable {σ : Type} (world : (question : Wire) → σ → question.Answer × σ)

/-- The radio after the reset pulse. -/
def pulsed (s : σ) : σ := resetPulse.foldl (fun s question => (world question s).2) s

/-- A radio as a file of registers. -/
structure Registers where
  /-- The bus is at rest. -/
  idle : σ → Prop
  /-- What the registers hold. -/
  contents : σ → UInt8 → UInt8
  /-- What they hold after a reset. -/
  defaults : UInt8 → UInt8
  /-- The registers that change by writes alone. -/
  steady : UInt8 → Prop
  /-- The settings change by writes alone. -/
  settings_steady : ∀ addr∈settingRegisters,steady addr
  /-- The version and the part number never change. -/
  numbers_steady : steady versionNum ∧ steady partNum
  /-- The command register is not steady: the radio reports in its upper bits. -/
  command_unsteady : ¬steady trxState
  /-- The pulse on the reset line brings the defaults, whatever went before. -/
  reset : ∀ s,idle (pulsed world s) ∧
    ∀ addr,steady addr → contents (pulsed world s) addr=defaults addr
  /-- A read changes no steady register, and reads it. -/
  read : ∀ {s} addr,addr<0x40 → idle s → ∃ val s',Ends world (radioRegRead addr) s val s' ∧ idle s' ∧
    (∀ other,steady other → contents s' other=contents s other) ∧
    (steady addr → val=contents s addr)
  /-- A write to a setting or a command changes that register alone. -/
  write : ∀ {s} addr val,idle s → addr∈trxState::settingRegisters →
    ∃ s',Ends world (radioRegWrite addr val) s () s' ∧ idle s' ∧
      ∀ other,steady other → contents s' other=if other=addr then val else contents s other
  /-- Clearing the sleep pin changes no steady register. -/
  wake : ∀ {s},idle s → idle (world .slptrClear s).2 ∧
    ∀ addr,steady addr → contents (world .slptrClear s).2 addr=contents s addr
  /-- A delay changes no steady register. -/
  delay : ∀ {s} us,idle s → idle (world (.delayUs us) s).2 ∧
    ∀ addr,steady addr → contents (world (.delayUs us) s).2 addr=contents s addr

end Radio

/-- The changes of state of the start-up: off from everywhere, from there to
`RX_ON`, and on to `RX_AACK_ON`. -/
def Moves (state command : UInt8) : Prop :=
  command=cmdForceTrxOff ∨ command=state ∨ (state=trxOff ∧ command=rxOn) ∨
    (state=rxOn ∧ command=rxAackOn)

/-- The state a command leads to. -/
def destination (command : UInt8) : UInt8 := if command=cmdForceTrxOff then trxOff else command

/-- The time in µs the driver gives the radio for a command. -/
def allowance (state command : UInt8) : ℕ :=
  if command=state then 0
  else if command=cmdForceTrxOff then timeAllStatesTrxOff
  else if state=trxOff then timeTrxOffToPllOn else timeRxOnToPllOn

/-- Switching off has its own time. -/
theorem allowance_force (state : UInt8) : allowance state cmdForceTrxOff≤timeAllStatesTrxOff := by
  rw [allowance,if_pos rfl]
  split_ifs
  · exact Nat.zero_le _
  · exact le_rfl

section Radio

variable {σ : Type} {world : (question : Wire) → σ → question.Answer × σ}

/-- A radio that obeys in time and hears no frame before it is started. -/
structure Prompt (radio : Registers world) where
  /-- The state of the radio. -/
  state : σ → UInt8
  /-- No reset ends in the middle of a frame. -/
  reset : ∀ s,transitional (state (pulsed world s))=false
  /-- The status register says the state. -/
  status : ∀ {s s' val},radio.idle s → Ends world (radioRegRead trxStatus) s val s' →
    stateOf val=state s
  /-- A read does not change the state. -/
  read : ∀ {s s' addr val},addr<0x40 → radio.idle s → Ends world (radioRegRead addr) s val s' →
    state s'=state s
  /-- The write of a setting does not change the state. -/
  write : ∀ {s s' addr val},radio.idle s → addr∈settingRegisters →
    Ends world (radioRegWrite addr val) s () s' → state s'=state s
  /-- Clearing the sleep pin does not change the state. -/
  wake : ∀ {s},radio.idle s → state (world .slptrClear s).2=state s
  /-- A command is obeyed within the time the driver gives it. -/
  obeys : ∀ {s s'} command us,radio.idle s → Moves (state s) command →
    allowance (state s) command≤us →
    Ends world (radioRegReadModWrite trxState command 0x1F) s () s' →
    state (world (.delayUs us) s').2=destination command

/-! ## Settings -/

/-- A register in which the masked bits are replaced. -/
def mix (old val mask : UInt8) : UInt8 := (old &&& ~~~mask) ||| (val &&& mask)

/-- A masked write to a file of registers. -/
def put (addr val mask : UInt8) (file : UInt8 → UInt8) : UInt8 → UInt8 :=
  Function.update file addr (mix (file addr) val mask)

/-- A masked write changes one register. -/
theorem put_apply (addr val mask other : UInt8) (file : UInt8 → UInt8) :
    put addr val mask file other=if other=addr then mix (file addr) val mask else file other :=
  Function.update_apply _ _ _ _

/-- A full mask replaces the register. -/
theorem mix_full (old val : UInt8) : mix old val 0xFF=val := by
  have hall : ∀ octet : UInt8,octet &&& 0xFF=octet := fun _ => UInt8.and_neg_one
  exact (hall _).symm.trans ((masked_write old val 0xFF).trans (hall val))

/-- Bits outside the mask stay. -/
theorem mix_outside (old val mask : UInt8) : mix old val mask &&& ~~~mask=old &&& ~~~mask := by
  unfold mix
  apply UInt8.eq_of_toBitVec_eq
  ext i hi
  simp only [UInt8.toBitVec_and,UInt8.toBitVec_or,UInt8.toBitVec_not,BitVec.getElem_and,
    BitVec.getElem_or,BitVec.getElem_not]
  cases old.toBitVec[i] <;> cases val.toBitVec[i] <;> cases mask.toBitVec[i] <;> rfl

/-- Bits that are replaced by themselves stay. -/
theorem mix_same (old mask : UInt8) : mix old old mask=old := by
  unfold mix
  apply UInt8.eq_of_toBitVec_eq
  ext i hi
  simp only [UInt8.toBitVec_and,UInt8.toBitVec_or,UInt8.toBitVec_not,BitVec.getElem_and,
    BitVec.getElem_or,BitVec.getElem_not]
  cases old.toBitVec[i] <;> cases mask.toBitVec[i] <;> rfl

variable (radio : Registers world)

/-- The bus is at rest and the steady registers are those of the file. -/
def Registers.Holds (file : UInt8 → UInt8) (s : σ) : Prop :=
  radio.idle s ∧ ∀ addr,radio.steady addr → radio.contents s addr=file addr

/-- Wherever the program ends, it has taken one file of registers to the other. -/
abbrev Registers.Sets {α : Type} (program : Driver α) (file file' : UInt8 → UInt8) : Prop :=
  Meets True world (radio.Holds file) program fun _ => radio.Holds file'

variable {radio} {file : UInt8 → UInt8}

/-- A read returns what a steady register holds and changes none. -/
theorem sets_radioRegRead {addr : UInt8} (haddr : addr<0x40) :
    Meets True world (radio.Holds file) (radioRegRead addr) fun val s =>
      (radio.steady addr → val=file addr) ∧ radio.Holds file s := by
  intro s hs
  obtain ⟨val,s',hread,hidle,hkept,hval⟩ := radio.read addr haddr hs.1
  exact wp_of_ends hread ⟨fun hsteady => (hval hsteady).trans (hs.2 addr hsteady),hidle,
    fun other hother => (hkept other hother).trans (hs.2 other hother)⟩

/-- The write of a setting replaces its register. -/
theorem sets_radioRegWrite {addr : UInt8} (val : UInt8) (haddr : addr∈settingRegisters) :
    radio.Sets (radioRegWrite addr val) file (put addr val 0xFF file) := by
  intro s hs
  obtain ⟨s',hwrite,hidle,hval⟩ := radio.write addr val hs.1 (List.mem_cons_of_mem _ haddr)
  refine wp_of_ends hwrite ⟨hidle,fun other hother => ?_⟩
  rw [hval other hother,put_apply,mix_full,hs.2 other hother]

/-- The masked write of a setting replaces the masked bits of its register. -/
theorem sets_radioRegReadModWrite {addr : UInt8} (val mask : UInt8)
    (haddr : addr∈settingRegisters) :
    radio.Sets (radioRegReadModWrite addr val mask) file (put addr val mask file) := by
  have hput : put addr (mix (file addr) val mask) 0xFF file=put addr val mask file := by
    rw [put,mix_full]
    rfl
  refine (sets_radioRegRead (setting_low addr haddr)).bind fun old => .given fun hold => ?_
  rw [hold (radio.settings_steady addr haddr),←hput]
  exact sets_radioRegWrite _ haddr

/-- A word written to two registers. -/
def putWord (addr : UInt8) (word : UInt16) (file : UInt8 → UInt8) : UInt8 → UInt8 :=
  put (addr+1) (word >>> 8).toUInt8 0xFF (put addr word.toUInt8 0xFF file)

/-- The write of a setting of two registers replaces both. -/
theorem sets_radioRegWrite16 {addr : UInt8} (word : UInt16) (hlow : addr∈settingRegisters)
    (hhigh : addr+1∈settingRegisters) :
    radio.Sets (radioRegWrite16 addr word) file (putWord addr word file) :=
  (sets_radioRegWrite _ hlow).bind fun _ => sets_radioRegWrite _ hhigh

/-- A masked write that is left out unless the flag is set. -/
def putIf (flag addr val : UInt8) (file : UInt8 → UInt8) : UInt8 → UInt8 :=
  if flag≠0 then put addr val val file else file

/-- A conditional masked write sets its bits if the flag is set. -/
theorem sets_putIf {addr : UInt8} (flag val : UInt8) (haddr : addr∈settingRegisters) :
    radio.Sets (.onlyIf (flag≠0) (radioRegReadModWrite addr val val)) file
      (putIf flag addr val file) := by
  unfold putIf
  refine .onlyIf (fun hflag => ?_) fun hflag s hs => ?_
  · rw [if_pos hflag]
    exact sets_radioRegReadModWrite _ _ haddr
  · rwa [if_neg hflag]

/-! ## Changes of state keep the settings -/

/-- A delay keeps the settings. -/
theorem keeps_delayUs (us : ℕ) : radio.Sets (delayUs us) file file := by
  intro s hs
  obtain ⟨hidle,hkept⟩ := radio.delay us hs.1
  exact ⟨hidle,fun addr haddr => (hkept addr haddr).trans (hs.2 addr haddr)⟩

/-- Clearing the sleep pin keeps the settings. -/
theorem keeps_slptrClear : radio.Sets slptrClear file file := by
  intro s hs
  obtain ⟨hidle,hkept⟩ := radio.wake hs.1
  exact ⟨hidle,fun addr haddr => (hkept addr haddr).trans (hs.2 addr haddr)⟩

/-- A read keeps the settings. -/
theorem keeps_radioRegRead {addr : UInt8} (haddr : addr<0x40) :
    radio.Sets (radioRegRead addr) file file :=
  (sets_radioRegRead haddr).weaken fun _ _ h => h.2

/-- A command to the radio keeps the settings. -/
theorem keeps_command (command : UInt8) :
    radio.Sets (radioRegReadModWrite trxState command 0x1F) file file := by
  refine (keeps_radioRegRead (by decide)).bind fun old s hs => ?_
  obtain ⟨s',hwrite,hidle,hval⟩ := radio.write trxState ((old &&& ~~~0x1F) ||| (command &&& 0x1F))
    hs.1 (List.mem_cons_self ..)
  refine wp_of_ends hwrite ⟨hidle,fun other hother => ?_⟩
  have hne : other≠trxState := by
    rintro rfl
    exact radio.command_unsteady hother
  rw [hval other hother,if_neg hne]
  exact hs.2 other hother

/-- Asking for the state keeps the settings. -/
theorem keeps_radioGetState : radio.Sets radioGetState file file :=
  (keeps_radioRegRead (by decide)).bind fun _ => .pure fun _ hs => hs

/-- The way through `PLL_ON` keeps the settings. -/
theorem keeps_throughPllOn : radio.Sets throughPllOn file file :=
  (keeps_command _).bind fun _ => keeps_delayUs _

/-- A change of state keeps the settings. -/
theorem keeps_changeState (state currState : UInt8) :
    radio.Sets (changeState state currState) file file := by
  have hprepare : radio.Sets (prepareState state currState) file file := by
    unfold prepareState
    split_ifs
    · exact keeps_slptrClear.bind fun _ => (keeps_command _).bind fun _ => keeps_delayUs _
    · exact .onlyIf (fun _ => keeps_throughPllOn) fun _ _ hs => hs
    · exact .onlyIf (fun _ => keeps_throughPllOn) fun _ _ hs => hs
    · exact .pure fun _ hs => hs
  exact hprepare.bind fun _ => (keeps_command _).bind fun _ => (keeps_delayUs _).bind fun _ =>
    keeps_radioGetState.bind fun _ => .pure fun _ hs => hs

/-- Asking for a state keeps the settings, however long the radio takes. -/
theorem keeps_radioSetState (fuel : ℕ) (state : UInt8) :
    radio.Sets (radioSetState fuel state) file file := by
  refine keeps_radioGetState.bind fun currState => ?_
  split_ifs
  · exact .pure fun _ hs => hs
  · have hleave : radio.Sets (leaveState fuel currState) file file :=
      (keeps_radioGetState.repeatUntil fuel).bind fun _ => .pure fun _ hs => hs
    exact Meets.bind (.onlyIf (fun _ => hleave) fun _ _ hs => hs) fun _ => keeps_changeState _ _

/-- Switching the receiver on keeps the settings. -/
theorem keeps_listenAgain (fuel : ℕ) : radio.Sets (listenAgain fuel) file file := by
  have hbusy : radio.Sets radioIsStateBusy file file :=
    keeps_radioGetState.bind fun _ => .pure fun _ hs => hs
  have hagain : radio.Sets (receiveAgain fuel) file file :=
    ((keeps_radioSetState fuel rxAackOn).repeatUntil fuel).bind fun _ => .pure fun _ hs => hs
  exact hbusy.bind fun _ => .onlyIf (fun _ => hagain) fun _ _ hs => hs

/-- Drawing a number keeps the settings. -/
theorem keeps_radioGetRandom (fuel : ℕ) : radio.Sets (radioGetRandom fuel) file file := by
  have hloop : ∀ shifts rand,radio.Sets (randomLoop shifts rand) file file := by
    intro shifts
    induction shifts with
    | nil => exact fun rand => .pure fun _ hs => hs
    | cons shift rest ih => exact fun rand => (keeps_radioRegRead (by decide)).bind fun _ => ih _
  exact (keeps_radioSetState fuel rxOn).bind fun _ => hloop _ _

/-! ## The reset -/

/-- A test that does not spoil itself may be repeated. -/
theorem meets_tryTimes {waits : Prop} {pre : σ → Prop} {test : Driver Bool} {post : Bool → σ → Prop}
    (h : Meets waits world pre test post) (hagain : ∀ passed s,post passed s → pre s) (rounds : ℕ) :
    Meets waits world pre (tryTimes test (rounds+1)) post := by
  have hdone : ∀ passed,Meets waits world (post passed) (pure passed) post :=
    fun _ => .pure fun _ hs => hs
  induction rounds with
  | zero =>
    refine h.bind fun passed => ?_
    cases passed with
    | false => exact hdone false
    | true => exact hdone true
  | succ rounds ih =>
    refine h.bind fun passed => ?_
    cases passed with
    | false => exact ih.strengthen (hagain false)
    | true => exact hdone true

/-- Whether the version and the part number are the expected ones. -/
def supported (file : UInt8 → UInt8) : Bool :=
  file versionNum=at86rf212VerNum && file partNum=at86rf212PartNum

/-- The test of version and part number finds the expected radio. -/
theorem sets_partMatches :
    Meets True world (radio.Holds file) partMatches fun found s =>
      found=supported file ∧ radio.Holds file s := by
  refine (sets_radioRegRead (by decide)).bind fun version => .given fun hversion => ?_
  obtain rfl := hversion radio.numbers_steady.1
  split_ifs with hother
  · refine .pure fun s hs => ⟨?_,hs⟩
    rw [supported,decide_eq_false hother,Bool.false_and]
  · refine (sets_radioRegRead (by decide)).bind fun part => .given fun hpart => ?_
    obtain rfl := hpart radio.numbers_steady.2
    refine .pure fun s hs => ⟨?_,hs⟩
    rw [supported,decide_eq_true (not_not.mp hother),Bool.true_and]

/-- The clock output is set if the radio is the expected one. -/
def clocked (defaults : UInt8 → UInt8) : UInt8 → UInt8 :=
  if supported defaults then put trxCtrl0 0x19 0x3F defaults else defaults

/-- The registers after `radio_reset`. The interrupts are masked only if the
radio was switched off. -/
def Clean (defaults file : UInt8 → UInt8) : Prop :=
  ∀ addr,addr≠irqMask → file addr=clocked defaults addr

/-- The radio is switched off once it is found. -/
theorem sets_switchOff :
    Meets True world (radio.Holds file) switchOff fun _ s =>
      ∃ file',(∀ addr,addr≠irqMask → file' addr=put trxCtrl0 0x19 0x3F file addr) ∧
        radio.Holds file' s := by
  have hoff : radio.Sets (tryTimes (do
      let status ← radioRegRead trxStatus
      return stateOf status=trxOff) 102) (put trxCtrl0 0x19 0x3F file)
      (put trxCtrl0 0x19 0x3F file) :=
    meets_tryTimes ((keeps_radioRegRead (by decide)).bind fun _ => .pure fun _ hs => hs)
      (fun _ _ hs => hs) 101
  refine (sets_radioRegReadModWrite _ _ (by decide)).bind fun _ => (keeps_command _).bind fun _ =>
    (keeps_delayUs _).bind fun _ => hoff.bind fun off => ?_
  split_ifs
  · refine (keeps_radioRegRead (by decide)).bind fun _ =>
      (sets_radioRegWrite 0 (by decide)).bind fun _ =>
      .pure fun s hs => ⟨_,fun addr haddr => ?_,hs⟩
    rw [put_apply,if_neg haddr]
  · exact .pure fun s hs => ⟨_,fun _ _ => rfl,hs⟩

/-- A reset leaves the defaults, from any state. -/
theorem sets_radioReset :
    Meets True world (fun _ => True) radioReset fun _ s =>
      ∃ file,Clean radio.defaults file ∧ radio.Holds file s := by
  have hfound : Meets True world (radio.Holds radio.defaults) (tryTimes partMatches 102)
      fun found s => found=supported radio.defaults ∧ radio.Holds radio.defaults s :=
    meets_tryTimes sets_partMatches (fun _ _ hs => hs.2) 101
  have hchecked : Meets True world (radio.Holds radio.defaults) (do
      let found ← tryTimes partMatches 102
      if found then switchOff else return radioUnsupportedDevice) fun _ s =>
        ∃ file,Clean radio.defaults file ∧ radio.Holds file s := by
    refine hfound.bind fun found => .given fun hsupported => ?_
    unfold Clean clocked
    rw [←hsupported]
    cases found with
    | false => exact .pure fun s hs => ⟨_,fun _ _ => rfl,hs⟩
    | true => exact sets_switchOff
  -- The calls before the check are the reset pulse.
  exact fun s _ => hchecked (pulsed world s) (radio.reset s)

/-! ## The commands -/

/-- The registers of the modulation. -/
def modulated (radif : Interface) (file : UInt8 → UInt8) : UInt8 → UInt8 :=
  put rfCtrl0 (if radif.modulation &&& radifOqpsk≠0 then oqpskTxOffset else bpskTxOffset) 0x3
    (put trxCtrl2 radif.modulation 0x3F file)

/-- The modulation is set. -/
theorem sets_radioSetModulation (fuel : ℕ) (radif : Interface) :
    radio.Sets (radioSetModulation fuel radif) file (modulated radif file) := by
  refine (keeps_radioSetState fuel trxOff).bind fun _ =>
    (sets_radioRegReadModWrite _ _ (by decide)).bind fun _ => ?_
  unfold modulated
  split_ifs
  · exact sets_radioRegReadModWrite _ _ (by decide)
  · exact sets_radioRegReadModWrite _ _ (by decide)

/-- The registers of the frequency, which stay for one outside the bands. -/
def tuned (radif : Interface) (file : UInt8 → UInt8) : UInt8 → UInt8 :=
  match channelOf radif.freq with
  | none => file
  | some (band,number) => put ccCtrl0 number 0xFF (put ccCtrl1 band 0x7 file)

/-- What setting the frequency reports. -/
def freqOutput (radif : Interface) : UInt8 :=
  if (channelOf radif.freq).isSome then radioSuccess else radioInvalidArgument

/-- The frequency is set. -/
theorem sets_radioSetFreq (radif : Interface) :
    Meets True world (radio.Holds file) (radioSetFreq radif) fun output s =>
      output=freqOutput radif ∧ radio.Holds (tuned radif file) s := by
  unfold radioSetFreq freqOutput tuned
  cases channelOf radif.freq with
  | none => exact .pure fun s hs => ⟨rfl,hs⟩
  | some channel =>
    refine (sets_radioRegReadModWrite _ _ (by decide)).bind fun _ =>
      (sets_radioRegWrite _ (by decide)).bind fun _ => keeps_radioGetState.bind fun state => ?_
    exact Meets.bind (.onlyIf (fun _ => keeps_delayUs _) fun _ _ hs => hs) fun _ =>
      .pure fun s hs => ⟨rfl,hs⟩

/-- The registers of the addresses. -/
def addressed (radif : Interface) (file : UInt8 → UInt8) : UInt8 → UInt8 :=
  putWord shortAddr0 radif.sender.shortAddress (putWord panId0 radif.sender.panId file)

/-- The addresses are set. -/
theorem sets_radioSetAddress (radif : Interface) :
    radio.Sets (radioSetAddress radif) file (addressed radif file) :=
  (sets_radioRegWrite16 _ (by decide) (by decide)).bind fun _ =>
    sets_radioRegWrite16 _ (by decide) (by decide)

/-- The registers of the rest of the configuration. -/
def configured (radif : Interface) (file : UInt8 → UInt8) : UInt8 → UInt8 :=
  putIf radif.promiscuous xahCtrl1 radioPromiscuous
    (putIf radif.autoCrcGen trxCtrl1 radioAutoCrcGen
      (put irqMask (radioIrqRxStart ||| radioIrqTrxEnd) 0xFF
        (put csmaSeed1 0x40 0xC0 (put xahCtrl0 0x38 0xFF file))))

/-- The rest of the configuration is set, and a sequence number drawn. -/
theorem sets_radioConfig (fuel : ℕ) (radif : Interface) :
    Meets True world (radio.Holds file) (radioConfig fuel radif) fun after s =>
      (∃ seq,after={radif with sender := {radif.sender with seq := seq}}) ∧
        radio.Holds (configured radif file) s :=
  (sets_radioRegWrite _ (by decide)).bind fun _ =>
    (sets_radioRegReadModWrite _ _ (by decide)).bind fun _ =>
    (sets_radioRegWrite _ (by decide)).bind fun _ => (sets_putIf _ _ (by decide)).bind fun _ =>
    (sets_putIf _ _ (by decide)).bind fun _ => (keeps_radioGetRandom fuel).bind fun seq =>
    .pure fun s hs => ⟨⟨seq,rfl⟩,hs⟩

/-! ## Starting the interface -/

/-- `radif_command` with its trigger served at once. -/
def radifCommand (fuel : ℕ) (command : Command) (radif : Interface) : Driver Interface :=
  radioIrq fuel {radif with command := command.code}

/-- The commands of `rf212_init`. -/
def rf212Init (fuel : ℕ) (radif : Interface) : Driver Interface := do
  let radif ← radifCommand fuel .reset radif
  let radif ← radifCommand fuel .setModulation radif
  let radif ← radifCommand fuel .setFreq radif
  let radif ← radifCommand fuel .setPower radif
  let radif ← radifCommand fuel .setAddress radif
  radifCommand fuel .startup radif

/-- Every command is found by its number. -/
theorem ofCode_code (command : Command) : Command.ofCode command.code=some command := by
  cases command <;> rfl

section Command

variable {waits : Prop} {fuel : ℕ} {command : Command} {radif : Interface} {pre : σ → Prop}
  {middle post : Interface → σ → Prop}

/-- The interrupt of an interface that is down carries out the command, and
listens if the interface is up then. -/
theorem meets_interrupt (hdown : radif.tx.up=false)
    (h : Meets waits world pre (carryOut fuel {radif with command := command.code} command) middle)
    (hlisten : ∀ after,Meets waits world (middle after) (.onlyIf after.tx.up (listenAgain fuel))
      fun _ => post {after with command := 0}) :
    Meets waits world pre (radifCommand fuel command radif) post := by
  have hserved : Meets waits world pre (if radif.tx.up then
      serveFlags fuel {radif with command := command.code}
      else pure {radif with command := command.code})
      fun served s => served={radif with command := command.code} ∧ pre s := by
    rw [hdown]
    exact .pure fun _ hs => ⟨rfl,hs⟩
  have hwaiting : Meets waits world pre (carryOutWaiting fuel {radif with command := command.code})
      middle := by
    unfold carryOutWaiting
    rw [ofCode_code]
    exact h
  have hcommand : Meets waits world pre (radioCommand fuel {radif with command := command.code})
      fun after s => ∃ done : Interface,after={done with command := 0} ∧ middle done s :=
    hwaiting.bind fun after => .pure fun _ hs => ⟨after,rfl,hs⟩
  refine hserved.bind fun served => .given ?_
  rintro rfl
  refine hcommand.bind fun after => .each fun done => .given ?_
  rintro rfl
  exact (hlisten done).bind fun _ => .pure fun _ hs => hs

/-- A command that leaves the interface down is carried out and nothing else happens. -/
theorem meets_radifCommand (hdown : radif.tx.up=false)
    (h : Meets waits world pre (carryOut fuel {radif with command := command.code} command)
      fun after s => after.tx.up=false ∧ post {after with command := 0} s) :
    Meets waits world pre (radifCommand fuel command radif) post := by
  refine meets_interrupt hdown h fun after => .given fun hafter =>
    .onlyIf (fun hup => ?_) fun _ _ hs => hs
  exact absurd hup (by rw [hafter]; decide)

end Command

end Radio

/-! ## The settings as a whole -/

/-- What the commands behind the reset write. -/
def settings (radif : Interface) (file : UInt8 → UInt8) : UInt8 → UInt8 :=
  configured radif (addressed radif (put phyTxPwr radif.power 0xFF
    (tuned radif (modulated radif file))))

/-- A conditional write changes one register. -/
theorem putIf_apply (flag addr val other : UInt8) (file : UInt8 → UInt8) :
    putIf flag addr val file other=
      if other=addr then mix (file addr) (if flag≠0 then val else file addr) val
      else file other := by
  unfold putIf
  by_cases hflag : flag≠0
  · rw [if_pos hflag,if_pos hflag,put_apply]
  · rw [if_neg hflag,if_neg hflag,mix_same]
    split_ifs with hother
    · rw [hother]
    · rfl

/-- A frequency with a channel sets two registers. -/
theorem tuned_some {radif : Interface} {band number : UInt8}
    (h : channelOf radif.freq=some (band,number)) (file : UInt8 → UInt8) :
    tuned radif file=put ccCtrl0 number 0xFF (put ccCtrl1 band 0x7 file) := by
  rw [tuned,h]

/-- A frequency without a channel sets nothing. -/
theorem tuned_none {radif : Interface} (h : channelOf radif.freq=none) (file : UInt8 → UInt8) :
    tuned radif file=file := by
  rw [tuned,h]

/-- The frequency is kept in two registers. -/
theorem tuned_apply {addr : UInt8} (hnumber : addr≠ccCtrl0) (hband : addr≠ccCtrl1)
    (radif : Interface) (file : UInt8 → UInt8) : tuned radif file addr=file addr := by
  cases hchannel : channelOf radif.freq with
  | none => rw [tuned_none hchannel]
  | some channel =>
    rw [tuned_some hchannel,put_apply,if_neg hnumber,put_apply,if_neg hband]

/-- The other registers keep what they held, and so does that of the clock. -/
theorem settings_other {addr : UInt8} (h : addr∉settingRegisters ∨ addr=trxCtrl0)
    (radif : Interface) (file : UInt8 → UInt8) : settings radif file addr=file addr := by
  have hne : addr∉settingRegisters.tail := by
    obtain h|rfl := h
    · exact fun hmem => h (List.mem_of_mem_tail hmem)
    · decide
  simp only [settingRegisters,List.tail_cons,List.mem_cons,List.not_mem_nil,or_false,not_or] at hne
  simp only [settings,configured,addressed,modulated,putWord,put_apply,putIf_apply,hne,if_false]
  rw [tuned_apply hne.2.2.2.2.1 hne.2.2.2.2.2.1]
  simp only [put_apply,hne,if_false]

/-- A frequency in kHz. The interface has it in MHz or in hundreds of kHz. -/
def khz (freq : UInt16) : ℕ := if freq.toNat<1000 then 1000*freq.toNat else 100*freq.toNat

/-- The frequency in kHz of a channel. -/
def frequencyOf (band number : UInt8) : Option ℕ :=
  match band.toNat with
  | 1 => some (769000+100*number.toNat)
  | 2 => some (857000+100*number.toNat)
  | 3 => some (903000+100*number.toNat)
  | 4 => some (769000+1000*number.toNat)
  | 5 => some (833000+1000*number.toNat)
  | _ => none

/-- The frequencies the radio has a channel for. -/
def InBand (freq : UInt16) : Prop :=
  (769≤freq.toNat ∧ freq.toNat≤935) ∨ (7690≤freq.toNat ∧ freq.toNat≤7945) ∨
    (8570≤freq.toNat ∧ freq.toNat≤8825) ∨ (9030≤freq.toNat ∧ freq.toNat≤9285)

instance (freq : UInt16) : Decidable (InBand freq) := by
  unfold InBand
  infer_instance

/-- The number of a channel is the distance from the start of its band. -/
theorem toNat_number {freq first : UInt16} (hfirst : first.toNat≤freq.toNat)
    (hlast : freq.toNat<first.toNat+256) : (freq-first).toUInt8.toNat=freq.toNat-first.toNat := by
  rw [UInt16.toNat_toUInt8,UInt16.toNat_sub_of_le _ _ (UInt16.le_iff_toNat_le.mpr hfirst)]
  omega

/-- A frequency outside the bands has no channel. -/
theorem channelOf_none {freq : UInt16} (h : ¬InBand freq) : channelOf freq=none := by
  unfold InBand at h
  unfold channelOf
  simp only [UInt16.le_iff_toNat_le,UInt16.reduceToNat]
  split_ifs <;> first | rfl | omega

/-- A number counts hundreds of kHz in the bands given in hundreds of kHz. -/
theorem khz_fine {freq : UInt16} (first : UInt16) (hfine : 1000≤first.toNat)
    (hfirst : first.toNat≤freq.toNat) (hlast : freq.toNat<first.toNat+256) :
    100*first.toNat+100*(freq-first).toUInt8.toNat=khz freq := by
  rw [toNat_number hfirst hlast,khz,if_neg (by omega)]
  omega

/-- A number counts MHz in the bands given in MHz. -/
theorem khz_coarse {freq : UInt16} (first : UInt16) (hcoarse : freq.toNat<1000)
    (hfirst : first.toNat≤freq.toNat) (hlast : freq.toNat<first.toNat+256) :
    1000*first.toNat+1000*(freq-first).toUInt8.toNat=khz freq := by
  rw [toNat_number hfirst hlast,khz,if_pos hcoarse]
  omega

/-- The channel of a frequency in the bands has that frequency. -/
theorem channelOf_some {freq : UInt16} (h : InBand freq) :
    ∃ band number,channelOf freq=some (band,number) ∧ band &&& 0x7=band ∧
      frequencyOf band number=some (khz freq) := by
  unfold InBand at h
  unfold channelOf
  simp only [UInt16.le_iff_toNat_le,UInt16.reduceToNat]
  split_ifs with hchinese heuropean hamerican hgeneral hupper
  · exact ⟨_,_,rfl,rfl,congrArg some (khz_fine 7690 (by decide) hchinese.1 (by
      change freq.toNat<7690+256
      omega))⟩
  · exact ⟨_,_,rfl,rfl,congrArg some (khz_fine 8570 (by decide) heuropean.1 (by
      change freq.toNat<8570+256
      omega))⟩
  · exact ⟨_,_,rfl,rfl,congrArg some (khz_fine 9030 (by decide) hamerican.1 (by
      change freq.toNat<9030+256
      omega))⟩
  · exact ⟨_,_,rfl,rfl,congrArg some (khz_coarse 769 (by omega) hgeneral.1 (by
      change freq.toNat<769+256
      omega))⟩
  · exact ⟨_,_,rfl,rfl,congrArg some (khz_coarse 833 (by omega) hupper.1 (by
      change freq.toNat<833+256
      omega))⟩
  · omega

/-- A register of which some bits are set and the others keep their defaults. -/
def Field (defaults held : UInt8 → UInt8) (addr mask val : UInt8) : Prop :=
  held addr &&& mask=val &&& mask ∧ held addr &&& ~~~mask=defaults addr &&& ~~~mask

/-- Two registers in a row hold a word. -/
def Word (held : UInt8 → UInt8) (addr : UInt8) (word : UInt16) : Prop :=
  (held (addr+1)).toUInt16 <<< 8 ||| (held addr).toUInt16=word

/-- The registers are as the interface says. -/
structure Configured (radif : Interface) (steady : UInt8 → Prop) (defaults held : UInt8 → UInt8) :
    Prop where
  /-- The clock output, set if the radio is the expected one. -/
  clock : Field defaults held trxCtrl0 0x3F (if supported defaults then 0x19 else defaults trxCtrl0)
  /-- The modulation. -/
  modulation : Field defaults held trxCtrl2 0x3F radif.modulation
  /-- The power offset that belongs to the modulation. -/
  offset : Field defaults held rfCtrl0 0x3
    (if radif.modulation &&& radifOqpsk≠0 then oqpskTxOffset else bpskTxOffset)
  /-- The band and the number of the frequency, if there is a channel for it. -/
  frequency : InBand radif.freq →
    frequencyOf (held ccCtrl1 &&& 0x7) (held ccCtrl0)=some (khz radif.freq) ∧
      held ccCtrl1 &&& ~~~0x7=defaults ccCtrl1 &&& ~~~0x7
  /-- Otherwise the channel is the one after a reset. -/
  untuned : ¬InBand radif.freq → held ccCtrl1=defaults ccCtrl1 ∧ held ccCtrl0=defaults ccCtrl0
  /-- The transmit power. -/
  power : held phyTxPwr=radif.power
  /-- The network. -/
  panId : Word held panId0 radif.sender.panId
  /-- The address in it. -/
  shortAddress : Word held shortAddr0 radif.sender.shortAddress
  /-- Three retries of a frame, four of the channel. -/
  retries : held xahCtrl0=0x38
  /-- The frame versions that are accepted. -/
  frameVersion : Field defaults held csmaSeed1 0xC0 0x40
  /-- The start and the end of a frame interrupt. -/
  interrupts : held irqMask=radioIrqRxStart ||| radioIrqTrxEnd
  /-- The check sum. -/
  autoCrcGen : Field defaults held trxCtrl1 radioAutoCrcGen
    (if radif.autoCrcGen≠0 then radioAutoCrcGen else defaults trxCtrl1)
  /-- The address filter. -/
  promiscuous : Field defaults held xahCtrl1 radioPromiscuous
    (if radif.promiscuous≠0 then radioPromiscuous else defaults xahCtrl1)
  /-- Every other steady register has its default. -/
  others : ∀ addr,steady addr → addr∉settingRegisters → held addr=defaults addr

/-- A masked write sets a field. -/
theorem field_of_mix {defaults held : UInt8 → UInt8} {addr mask val : UInt8}
    (h : held addr=mix (defaults addr) val mask) : Field defaults held addr mask val := by
  rw [Field,h]
  exact ⟨masked_write _ _ _,mix_outside _ _ _⟩

/-- A word is put together again from the registers it is written to. -/
theorem word_of_registers {held : UInt8 → UInt8} {addr : UInt8} {word : UInt16}
    (hlow : held addr=word.toUInt8) (hhigh : held (addr+1)=(word >>> 8).toUInt8) :
    Word held addr word := by
  have hmask : ∀ half : UInt16,(half &&& 0xFF).toUInt8=half.toUInt8 := by
    intro half
    apply UInt8.toNat_inj.mp
    rw [UInt16.toNat_toUInt8,UInt16.toNat_toUInt8,UInt16.toNat_and,
      show (0xFF : UInt16).toNat=2^8-1 from rfl,Nat.and_two_pow_sub_one_eq_mod,Nat.mod_mod]
  have hword := RadioFrame.word_of_octets word
  rw [hmask,hmask] at hword
  rw [Word,hlow,hhigh]
  exact hword

/-- Apart from the clock and the interrupts, a reset leaves the defaults. -/
theorem Clean.default {defaults file : UInt8 → UInt8} (h : Clean defaults file) {addr : UInt8}
    (hmask : addr≠irqMask) (hclock : addr≠trxCtrl0) : file addr=defaults addr := by
  rw [h addr hmask,clocked]
  split_ifs
  · rw [put_apply,if_neg hclock]
  · rfl

/-- The settings after a reset configure the radio. -/
theorem configured_of_settings {radif : Interface} {steady : UInt8 → Prop}
    {defaults file held : UInt8 → UInt8} (hclean : Clean defaults file)
    (hsteady : ∀ addr∈settingRegisters,steady addr)
    (hheld : ∀ addr,steady addr → held addr=settings radif file addr) :
    Configured radif steady defaults held := by
  have hfield : ∀ addr mask val,addr∈settingRegisters → addr≠irqMask → addr≠trxCtrl0 →
      settings radif file addr=mix (file addr) val mask → Field defaults held addr mask val := by
    intro addr mask val haddr hmask hclock hvalue
    rw [hclean.default hmask hclock,←hheld addr (hsteady addr haddr)] at hvalue
    exact field_of_mix hvalue
  have hwhole : ∀ addr val,addr∈settingRegisters →
      settings radif file addr=mix (file addr) val 0xFF → held addr=val := by
    intro addr val haddr hvalue
    rw [hheld addr (hsteady addr haddr),hvalue,mix_full]
  have hchannel : ∀ addr,addr=ccCtrl0 ∨ addr=ccCtrl1 →
      held addr=tuned radif (modulated radif file) addr := by
    rintro addr (rfl|rfl)
    all_goals
      rw [hheld _ (hsteady _ (by decide))]
      simp +decide only [settings,configured,addressed,putWord,put_apply,putIf_apply,if_false]
  have hkept : ∀ addr,addr=ccCtrl0 ∨ addr=ccCtrl1 → modulated radif file addr=defaults addr := by
    rintro addr (rfl|rfl)
    all_goals
      rw [←hclean.default (by decide) (by decide)]
      simp +decide only [modulated,put_apply,if_false]
  constructor
  case clock =>
    apply field_of_mix
    rw [hheld _ (hsteady _ (by decide)),settings_other (.inr rfl),hclean _ (by decide),clocked]
    split_ifs
    · rw [put_apply,if_pos rfl]
    · rw [mix_same]
  case modulation =>
    apply hfield _ _ _ (by decide) (by decide) (by decide)
    simp +decide only [settings,configured,addressed,modulated,putWord,put_apply,putIf_apply,
      tuned_apply,if_true,if_false]
  case offset =>
    apply hfield _ _ _ (by decide) (by decide) (by decide)
    simp +decide only [settings,configured,addressed,modulated,putWord,put_apply,putIf_apply,
      tuned_apply,if_true,if_false]
  case frequency =>
    intro hband
    obtain ⟨band,number,hchannelOf,hlow,hfrequency⟩ := channelOf_some hband
    have hnumber : held ccCtrl0=number := by
      rw [hchannel _ (.inl rfl),tuned_some hchannelOf,put_apply,if_pos rfl,mix_full]
    have hbits : held ccCtrl1=mix (defaults ccCtrl1) band 0x7 := by
      rw [hchannel _ (.inr rfl),tuned_some hchannelOf,put_apply,if_neg (by decide),put_apply,
        if_pos rfl,hkept _ (.inr rfl)]
    obtain ⟨hset,hothers⟩ := field_of_mix hbits
    rw [hnumber,hset,hlow]
    exact ⟨hfrequency,hothers⟩
  case untuned =>
    intro hband
    rw [hchannel _ (.inr rfl),hchannel _ (.inl rfl),tuned_none (channelOf_none hband)]
    exact ⟨hkept _ (.inr rfl),hkept _ (.inl rfl)⟩
  case power =>
    apply hwhole _ _ (by decide)
    simp +decide only [settings,configured,addressed,modulated,putWord,put_apply,putIf_apply,
      tuned_apply,if_true,if_false]
  case panId =>
    refine word_of_registers (hwhole _ _ (by decide) ?_) (hwhole _ _ (by decide) ?_)
    all_goals simp +decide only [settings,configured,addressed,modulated,putWord,put_apply,
      putIf_apply,tuned_apply,if_true,if_false]
  case shortAddress =>
    refine word_of_registers (hwhole _ _ (by decide) ?_) (hwhole _ _ (by decide) ?_)
    all_goals simp +decide only [settings,configured,addressed,modulated,putWord,put_apply,
      putIf_apply,tuned_apply,if_true,if_false]
  case retries =>
    apply hwhole _ _ (by decide)
    simp +decide only [settings,configured,addressed,modulated,putWord,put_apply,putIf_apply,
      tuned_apply,if_true,if_false]
  case frameVersion =>
    apply hfield _ _ _ (by decide) (by decide) (by decide)
    simp +decide only [settings,configured,addressed,modulated,putWord,put_apply,putIf_apply,
      tuned_apply,if_true,if_false]
  case interrupts =>
    apply hwhole _ _ (by decide)
    simp +decide only [settings,configured,addressed,modulated,putWord,put_apply,putIf_apply,
      tuned_apply,if_true,if_false]
  case autoCrcGen =>
    apply hfield _ _ _ (by decide) (by decide) (by decide)
    rw [←hclean.default (show trxCtrl1≠irqMask by decide) (by decide)]
    simp +decide only [settings,configured,addressed,modulated,putWord,put_apply,putIf_apply,
      tuned_apply,if_true,if_false]
  case promiscuous =>
    apply hfield _ _ _ (by decide) (by decide) (by decide)
    rw [←hclean.default (show xahCtrl1≠irqMask by decide) (by decide)]
    simp +decide only [settings,configured,addressed,modulated,putWord,put_apply,putIf_apply,
      tuned_apply,if_true,if_false]
  case others =>
    intro addr haddr hother
    have hmask : addr≠irqMask := by
      rintro rfl
      exact hother (by decide)
    have hclock : addr≠trxCtrl0 := by
      rintro rfl
      exact hother (by decide)
    rw [hheld addr haddr,settings_other (.inl hother),hclean.default hmask hclock]

/-! ## The settings of a whole start-up -/

/-- The interface once it is started. The output left behind is that of the
last command that has one, the frequency. -/
def started (radif : Interface) (seq : UInt8) : Interface :=
  {radif with
    command := 0
    commandOutput := if InBand radif.freq then radioSuccess else radioInvalidArgument
    sender := {radif.sender with seq := seq}
    tx := {radif.tx with up := true}}

/-- Setting the frequency fails exactly outside the bands. -/
theorem freqOutput_eq (radif : Interface) :
    freqOutput radif=if InBand radif.freq then radioSuccess else radioInvalidArgument := by
  unfold freqOutput
  by_cases hband : InBand radif.freq
  · obtain ⟨band,number,hchannel,-⟩ := channelOf_some hband
    rw [if_pos hband,hchannel]
    rfl
  · rw [if_neg hband,channelOf_none hband]
    rfl

/-- The interface before the last command. -/
def reported (radif : Interface) (output : UInt8) : Interface :=
  {radif with command := 0,commandOutput := output}

section Radio

variable {σ : Type} {world : (question : Wire) → σ → question.Answer × σ} {radio : Registers world}
  {radif : Interface} {file : UInt8 → UInt8}

/-- The first command resets the radio. -/
theorem sets_reset (radio : Registers world) (fuel : ℕ) (hdown : radif.tx.up=false) :
    Meets True world (fun _ => True) (radifCommand fuel .reset radif) fun after s =>
      (∃ output,after=reported radif output) ∧
        ∃ file,Clean radio.defaults file ∧ radio.Holds file s :=
  meets_radifCommand hdown (sets_radioReset.bind fun output =>
    .pure fun _ hs => ⟨hdown,⟨output,rfl⟩,hs⟩)

/-- The last command configures the radio and brings the interface up. -/
theorem sets_startup (fuel : ℕ) (hdown : radif.tx.up=false) :
    Meets True world (radio.Holds file)
      (radifCommand fuel .startup (reported radif (freqOutput radif))) fun after s =>
      (∃ seq,after=started radif seq) ∧ radio.Holds (configured radif file) s := by
  have hcarried : Meets True world (radio.Holds file) (carryOut fuel
      {reported radif (freqOutput radif) with command := Command.startup.code} .startup)
      fun after s => (∃ seq,{after with command := 0}=started radif seq) ∧
        radio.Holds (configured radif file) s := by
    refine (sets_radioConfig fuel _).bind fun after => .given ?_
    rintro ⟨seq,rfl⟩
    refine .pure fun s hs => ⟨⟨seq,?_⟩,hs⟩
    rw [started,←freqOutput_eq]
    rfl
  refine meets_interrupt hdown hcarried fun after => .given fun hstarted => ?_
  exact .onlyIf (fun _ => (keeps_listenAgain fuel).weaken fun _ _ hs => ⟨hstarted,hs⟩)
    fun _ _ hs => ⟨hstarted,hs⟩

/-- The other commands set the registers, and change the interface in its output
only. -/
theorem sets_command {command : Command} {output output' : UInt8} {file' : UInt8 → UInt8}
    (fuel : ℕ) (hdown : radif.tx.up=false)
    (h : Meets True world (radio.Holds file)
      (carryOut fuel {reported radif output with command := command.code} command) fun after s =>
        after={reported radif output' with command := command.code} ∧ radio.Holds file' s) :
    Meets True world (radio.Holds file) (radifCommand fuel command (reported radif output))
      fun after s => after=reported radif output' ∧ radio.Holds file' s := by
  refine meets_radifCommand hdown (h.weaken ?_)
  rintro _ s ⟨rfl,hs⟩
  exact ⟨hdown,rfl,hs⟩

/-- Wherever the start-up ends, the interface is up and the radio configured as
the interface says. -/
theorem sets_rf212Init (fuel : ℕ) (hdown : radif.tx.up=false) :
    Meets True world (fun _ => True) (rf212Init fuel radif) fun after s =>
      (∃ seq,after=started radif seq) ∧
        Configured radif radio.steady radio.defaults (radio.contents s) := by
  refine (sets_reset radio fuel hdown).bind fun _ => .given ?_
  rintro ⟨output,rfl⟩
  refine .each fun file => .given fun hclean => ?_
  refine (sets_command fuel hdown ((sets_radioSetModulation fuel _).bind fun _ =>
    .pure fun _ hs => ⟨rfl,hs⟩)).bind fun _ => .given ?_
  rintro rfl
  refine (sets_command fuel hdown ((sets_radioSetFreq _).bind fun output =>
    .given fun houtput => .pure fun _ hs => ⟨congrArg (fun output =>
      {reported radif output with command := Command.setFreq.code}) houtput,hs⟩)).bind fun _ => .given ?_
  rintro rfl
  refine (sets_command fuel hdown ((sets_radioRegWrite _ (by decide)).bind fun _ =>
    .pure fun _ hs => ⟨rfl,hs⟩)).bind fun _ => .given ?_
  rintro rfl
  refine (sets_command fuel hdown ((sets_radioSetAddress _).bind fun _ =>
    .pure fun _ hs => ⟨rfl,hs⟩)).bind fun _ => .given ?_
  rintro rfl
  refine (sets_startup fuel hdown).weaken fun _ s hs => ⟨hs.1,?_⟩
  exact configured_of_settings hclean radio.settings_steady hs.2.2

/-! ## The end of the start-up -/

variable (prompt : Prompt radio)

/-- The bus is at rest and the radio in a state. -/
def Prompt.At (state : UInt8) (s : σ) : Prop := radio.idle s ∧ prompt.state s=state

/-- The program ends, and has taken the radio from one state to the other. -/
abbrev Prompt.Takes {α : Type} (program : Driver α) (state state' : UInt8) : Prop :=
  Meets False world (prompt.At state) program fun _ => prompt.At state'

variable {prompt} {state : UInt8}

/-- A read leaves the state, and the status register says it. -/
theorem takes_status {addr : UInt8} (haddr : addr<0x40) :
    Meets False world (prompt.At state) (radioRegRead addr) fun val s =>
      (addr=trxStatus → stateOf val=state) ∧ prompt.At state s := by
  rintro s ⟨hidle,rfl⟩
  obtain ⟨val,s',hread,hidle',-⟩ := radio.read addr haddr hidle
  refine wp_of_ends hread ⟨?_,hidle',prompt.read haddr hidle hread⟩
  rintro rfl
  exact prompt.status hidle hread

/-- A read leaves the state. -/
theorem takes_radioRegRead {addr : UInt8} (haddr : addr<0x40) :
    prompt.Takes (radioRegRead addr) state state :=
  (takes_status haddr).weaken fun _ _ hs => hs.2

/-- The write of a setting leaves the state. -/
theorem takes_radioRegWrite {addr : UInt8} (val : UInt8) (haddr : addr∈settingRegisters) :
    prompt.Takes (radioRegWrite addr val) state state := by
  rintro s ⟨hidle,rfl⟩
  obtain ⟨s',hwrite,hidle',-⟩ := radio.write addr val hidle (List.mem_cons_of_mem _ haddr)
  exact wp_of_ends hwrite ⟨hidle',prompt.write hidle haddr hwrite⟩

/-- The masked write of a setting leaves the state. -/
theorem takes_radioRegReadModWrite {addr : UInt8} (val mask : UInt8)
    (haddr : addr∈settingRegisters) :
    prompt.Takes (radioRegReadModWrite addr val mask) state state :=
  (takes_radioRegRead (setting_low addr haddr)).bind fun _ => takes_radioRegWrite _ haddr

/-- The state read is the state. -/
theorem takes_radioGetState :
    Meets False world (prompt.At state) radioGetState fun found s =>
      found=state ∧ prompt.At state s :=
  (takes_status (by decide)).bind fun _ => .given fun hstate => .pure fun _ hs => ⟨hstate rfl,hs⟩

/-- The radio is on its way to the state of a command. -/
def Prompt.Commanded (prompt : Prompt radio) (command state : UInt8) (s : σ) : Prop :=
  radio.idle s ∧ ∀ us,allowance state command≤us →
    prompt.state (world (.delayUs us) s).2=destination command

/-- A command sets the radio on its way. -/
theorem takes_command {command : UInt8} (hmoves : Moves state command) :
    Meets False world (prompt.At state) (radioRegReadModWrite trxState command 0x1F) fun _ =>
      prompt.Commanded command state := by
  have hread : Meets False world radio.idle (radioRegRead trxState) fun _ => radio.idle := by
    intro s hs
    obtain ⟨val,s',hread,hidle,-⟩ := radio.read trxState (by decide) hs
    exact wp_of_ends hread hidle
  have hwritten : Meets False world radio.idle (radioRegReadModWrite trxState command 0x1F)
      fun _ => radio.idle := by
    refine hread.bind fun old s hs => ?_
    obtain ⟨s',hwrite,hidle,-⟩ := radio.write trxState _ hs (List.mem_cons_self ..)
    exact wp_of_ends hwrite hidle
  rintro s ⟨hidle,rfl⟩
  obtain ⟨_,s',hends,hidle'⟩ := wp_false_iff.mp (hwritten s hidle)
  exact wp_of_ends hends ⟨hidle',fun us htime => prompt.obeys command us hidle hmoves htime hends⟩

/-- After the driver's delay the radio is in the state of the command. -/
theorem takes_delayUs {command : UInt8} {us : ℕ} (htime : allowance state command≤us) :
    Meets False world (prompt.Commanded command state) (delayUs us) fun _ =>
      prompt.At (destination command) :=
  fun _ hs => ⟨(radio.delay us hs.1).1,hs.2 us htime⟩

/-- A state is taken if the way to it is prepared. -/
theorem takes_radioSetState {prepared target : UInt8} (fuel : ℕ)
    (hstill : transitional state=false) (htarget : target≠cmdForceTrxOff)
    (hprepare : state≠target → prompt.Takes (prepareState target state) state prepared)
    (hmoves : Moves prepared target)
    (htime : allowance prepared target≤
      if state=trxOff then timeTrxOffToPllOn else timeRxOnToPllOn) :
    Meets False world (prompt.At state) (radioSetState fuel target) fun result s =>
      result=radioSuccess ∧ prompt.At target s := by
  refine takes_radioGetState.bind fun found => .given ?_
  rintro rfl
  by_cases hfound : found=target
  · subst hfound
    rw [if_pos rfl]
    exact .pure fun _ hs => ⟨rfl,hs⟩
  · rw [if_neg hfound]
    have hleft : prompt.Takes (.onlyIf (transitional found) (leaveState fuel found)) found found :=
      .onlyIf (fun hbusy => absurd hbusy (by rw [hstill]; decide)) fun _ _ hs => hs
    refine hleft.bind fun _ => (hprepare hfound).bind fun _ => (takes_command hmoves).bind fun _ =>
      (takes_delayUs htime).bind fun _ => ?_
    rw [destination,if_neg htarget]
    refine takes_radioGetState.bind fun final => .given ?_
    rintro rfl
    rw [if_pos rfl]
    exact .pure fun _ hs => ⟨rfl,hs⟩

/-- A radio outside a frame is switched off. -/
theorem takes_off (fuel : ℕ) (hstill : transitional state=false) :
    prompt.Takes (radioSetState fuel trxOff) state trxOff := by
  have hprepare : prompt.Takes (prepareState trxOff state) state trxOff := by
    have hwoken : prompt.Takes slptrClear state state := fun s hs =>
      ⟨(radio.wake hs.1).1,(prompt.wake hs.1).trans hs.2⟩
    exact hwoken.bind fun _ => (takes_command (.inl rfl)).bind fun _ =>
      takes_delayUs (allowance_force state)
  refine (takes_radioSetState fuel hstill (by decide) (fun _ => hprepare) (.inr (.inl rfl))
    ?_).weaken fun _ _ hs => hs.2
  rw [allowance,if_pos rfl]
  exact Nat.zero_le _

/-- A radio that is off is switched to `RX_ON`. -/
theorem takes_rxOn (fuel : ℕ) : prompt.Takes (radioSetState fuel rxOn) trxOff rxOn := by
  have hprepare : prompt.Takes (prepareState rxOn trxOff) trxOff trxOff := .pure fun _ hs => hs
  exact (takes_radioSetState fuel (by decide) (by decide) (fun _ => hprepare)
    (.inr (.inr (.inl ⟨rfl,rfl⟩))) (by decide)).weaken fun _ _ hs => hs.2

/-- A radio in `RX_ON` is switched to `RX_AACK_ON` at the end of an interrupt. -/
theorem takes_listenAgain (fuel : ℕ) : prompt.Takes (listenAgain (fuel+1)) rxOn rxAackOn := by
  have hprepare : prompt.Takes (prepareState rxAackOn rxOn) rxOn rxOn :=
    .onlyIf (fun hfound => absurd hfound (by decide)) fun _ _ hs => hs
  have hset : Meets False world (prompt.At rxOn) (radioSetState (fuel+1) rxAackOn) fun result s =>
      decide (result=radioSuccess)=true ∧ prompt.At rxAackOn s :=
    (takes_radioSetState (fuel+1) (by decide) (by decide) (fun _ => hprepare)
      (.inr (.inr (.inr ⟨rfl,rfl⟩))) (by decide)).weaken fun _ _ hs => ⟨decide_eq_true hs.1,hs.2⟩
  have hbusy : Meets False world (prompt.At rxOn) radioIsStateBusy fun isBusy s =>
      isBusy=false ∧ prompt.At rxOn s :=
    takes_radioGetState.bind fun found => .given fun hfound =>
      .pure fun _ hs => ⟨by rw [hfound]; rfl,hs⟩
  refine hbusy.bind fun isBusy => .given fun hidle =>
    .onlyIf (fun _ => ?_) fun hfalse => absurd hidle hfalse
  exact (Meets.repeatUntil_first hset fuel).bind fun _ => .pure fun _ hs => hs

/-- The random number leaves the radio in `RX_ON`. -/
theorem takes_radioGetRandom (fuel : ℕ) : prompt.Takes (radioGetRandom fuel) trxOff rxOn := by
  have hloop : ∀ shifts rand,prompt.Takes (randomLoop shifts rand) rxOn rxOn := by
    intro shifts
    induction shifts with
    | nil => exact fun rand => .pure fun _ hs => hs
    | cons shift rest ih => exact fun rand => (takes_radioRegRead (by decide)).bind fun _ => ih _
  exact (takes_rxOn fuel).bind fun _ => hloop _ _

/-- The radio is outside a frame. -/
def Prompt.Still (prompt : Prompt radio) (s : σ) : Prop :=
  ∃ state,transitional state=false ∧ prompt.At state s

/-- A reset leaves the radio outside a frame. -/
theorem takes_radioReset : Meets False world (fun _ => True) radioReset fun _ => prompt.Still := by
  have hparts : ∀ state,prompt.Takes partMatches state state := by
    intro state
    refine (takes_radioRegRead (by decide)).bind fun version => ?_
    split_ifs
    · exact .pure fun _ hs => hs
    · exact (takes_radioRegRead (by decide)).bind fun _ => .pure fun _ hs => hs
  have htest : prompt.Takes (tryTimes (do
      let status ← radioRegRead trxStatus
      return stateOf status=trxOff) 102) trxOff trxOff :=
    meets_tryTimes ((takes_radioRegRead (by decide)).bind fun _ => .pure fun _ hs => hs)
      (fun _ _ hs => hs) 101
  have hoff : ∀ state,prompt.Takes switchOff state trxOff := by
    intro state
    refine (takes_radioRegReadModWrite _ _ (by decide)).bind fun _ =>
      (takes_command (.inl rfl)).bind fun _ => (takes_delayUs (allowance_force state)).bind fun _ =>
      htest.bind fun off => ?_
    split_ifs
    · exact (takes_radioRegRead (by decide)).bind fun _ =>
        (takes_radioRegWrite _ (by decide)).bind fun _ =>
        .pure fun _ hs => hs
    · exact .pure fun _ hs => hs
  have hchecked : ∀ state,transitional state=false → Meets False world (prompt.At state) (do
      let found ← tryTimes partMatches 102
      if found then switchOff else return radioUnsupportedDevice) fun _ => prompt.Still := by
    intro state hstill
    refine (meets_tryTimes (hparts state) (fun _ _ hs => hs) 101).bind fun found => ?_
    split_ifs
    · exact (hoff state).weaken fun _ s hs => ⟨trxOff,by decide,hs⟩
    · exact .pure fun s hs => ⟨state,hstill,hs⟩
  exact fun s _ => hchecked _ (prompt.reset s) (pulsed world s) ⟨(radio.reset s).1,rfl⟩

/-- Setting the frequency leaves a radio that is off as it is. -/
theorem takes_radioSetFreq (radif : Interface) : prompt.Takes (radioSetFreq radif) trxOff trxOff := by
  unfold radioSetFreq
  split
  · exact .pure fun _ hs => hs
  · refine (takes_radioRegReadModWrite _ _ (by decide)).bind fun _ =>
      (takes_radioRegWrite _ (by decide)).bind fun _ => takes_radioGetState.bind fun found => .given ?_
    rintro rfl
    exact Meets.bind (.onlyIf (fun hon => absurd hon (by decide)) fun _ _ hs => hs) fun _ =>
      .pure fun _ hs => hs

/-- Setting the modulation switches the radio off. -/
theorem takes_radioSetModulation (fuel : ℕ) (radif : Interface) (hstill : transitional state=false) :
    prompt.Takes (radioSetModulation fuel radif) state trxOff := by
  refine (takes_off fuel hstill).bind fun _ =>
    (takes_radioRegReadModWrite _ _ (by decide)).bind fun _ => ?_
  split_ifs
  · exact takes_radioRegReadModWrite _ _ (by decide)
  · exact takes_radioRegReadModWrite _ _ (by decide)

/-- Setting the addresses leaves the state. -/
theorem takes_radioSetAddress (radif : Interface) :
    prompt.Takes (radioSetAddress radif) state state :=
  Meets.bind ((takes_radioRegWrite _ (by decide)).bind fun _ => takes_radioRegWrite _ (by decide))
    fun _ => (takes_radioRegWrite _ (by decide)).bind fun _ => takes_radioRegWrite _ (by decide)

/-- The rest of the configuration leaves the radio in `RX_ON`. -/
theorem takes_radioConfig (fuel : ℕ) (radif : Interface) :
    prompt.Takes (radioConfig fuel radif) trxOff rxOn := by
  have hmodify : ∀ (flag addr val : UInt8),addr∈settingRegisters →
      prompt.Takes (.onlyIf (flag≠0) (radioRegReadModWrite addr val val)) trxOff trxOff :=
    fun _ _ _ haddr => .onlyIf (fun _ => takes_radioRegReadModWrite _ _ haddr) fun _ _ hs => hs
  exact (takes_radioRegWrite _ (by decide)).bind fun _ =>
    (takes_radioRegReadModWrite _ _ (by decide)).bind fun _ =>
    (takes_radioRegWrite _ (by decide)).bind fun _ => (hmodify _ _ _ (by decide)).bind fun _ =>
    (hmodify _ _ _ (by decide)).bind fun _ => (takes_radioGetRandom fuel).bind fun _ =>
    .pure fun _ hs => hs

/-- A command before the last one leaves the interface down. -/
theorem takes_radifCommand {command : Command} {pre post : σ → Prop} {fuel : ℕ}
    (hdown : radif.tx.up=false)
    (h : Meets False world pre (carryOut fuel {radif with command := command.code} command)
      fun after s => after.tx.up=false ∧ post s) :
    Meets False world pre (radifCommand fuel command radif) fun after s =>
      after.tx.up=false ∧ post s :=
  meets_radifCommand hdown (h.weaken fun _ _ hs => ⟨hs.1,hs.1,hs.2⟩)

/-- The last command ends with the receiver on. -/
theorem takes_startup (fuel : ℕ) (hdown : radif.tx.up=false) :
    prompt.Takes (radifCommand (fuel+1) .startup radif) trxOff rxAackOn := by
  have hcarried : Meets False world (prompt.At trxOff) (carryOut (fuel+1)
      {radif with command := Command.startup.code} .startup) fun after s =>
        after.tx.up=true ∧ prompt.At rxOn s :=
    (takes_radioConfig _ _).bind fun _ => .pure fun _ hs => ⟨rfl,hs⟩
  refine meets_interrupt hdown hcarried fun after => .given fun hup => ?_
  exact .onlyIf (fun _ => takes_listenAgain fuel) fun hnot => absurd hup hnot

/-- The start-up ends with the receiver on. -/
theorem takes_rf212Init (prompt : Prompt radio) (fuel : ℕ) (hdown : radif.tx.up=false) :
    Meets False world (fun _ => True) (rf212Init (fuel+1) radif) fun _ => prompt.At rxAackOn := by
  have hreset : Meets False world (fun _ => True) (radifCommand (fuel+1) .reset radif)
      fun after s => after.tx.up=false ∧ prompt.Still s :=
    takes_radifCommand hdown (takes_radioReset.bind fun _ => .pure fun _ hs => ⟨hdown,hs⟩)
  refine hreset.bind fun radif => .given fun hdown => .each fun state => .given fun hstill => ?_
  refine (takes_radifCommand hdown ((takes_radioSetModulation _ _ hstill).bind fun _ =>
    .pure fun _ hs => ⟨hdown,hs⟩)).bind fun radif => .given fun hdown => ?_
  refine (takes_radifCommand hdown ((takes_radioSetFreq _).bind fun _ =>
    .pure fun _ hs => ⟨hdown,hs⟩)).bind fun radif => .given fun hdown => ?_
  refine (takes_radifCommand hdown ((takes_radioRegWrite _ (by decide)).bind fun _ =>
    .pure fun _ hs => ⟨hdown,hs⟩)).bind fun radif => .given fun hdown => ?_
  refine (takes_radifCommand hdown ((takes_radioSetAddress _).bind fun _ =>
    .pure fun _ hs => ⟨hdown,hs⟩)).bind fun radif => .given fun hdown => ?_
  exact takes_startup fuel hdown

/-- For every interface that is down and every radio that is a file of registers:
wherever `rf212_init` ends, the interface is up and the registers are as it
says. This is so whatever states the radio reports, and whatever the reset
reports: an unsupported radio is started like any other. A frequency outside
the bands leaves the channel of the reset, and only its output tells. With a
prompt radio `rf212_init` does end, with the receiver on. -/
theorem rf212_init_configures_radio (radio : Registers world) (fuel : ℕ) (radif : Interface) (s : σ)
    (hdown : radif.tx.up=false) :
    (∀ after s',(rf212Init fuel radif).run world s=some (after,s') →
      (∃ seq,after=started radif seq) ∧
        Configured radif radio.steady radio.defaults (radio.contents s')) ∧
    ∀ prompt : Prompt radio,∃ after s',
      (rf212Init (fuel+1) radif).run world s=some (after,s') ∧ prompt.state s'=rxAackOn := by
  constructor
  · exact wp_true_iff.mp (sets_rf212Init fuel hdown s trivial)
  · intro prompt
    obtain ⟨after,s',hends,hlast⟩ := wp_false_iff.mp (takes_rf212Init prompt fuel hdown s trivial)
    exact ⟨after,s',hends,hlast.2⟩

end Radio

/-! ## A plain radio -/

/-- What the next octet means to a selected radio. -/
inductive Phase where
  /-- It is a command. -/
  | command
  /-- It clocks out a register. -/
  | reading (addr : UInt8)
  /-- It is the value of a register. -/
  | writing (addr : UInt8)
  /-- It means nothing. -/
  | ignored

/-- A plain radio: what its registers hold, and the transfer in progress. -/
structure Plain where
  /-- The registers. -/
  held : UInt8 → UInt8
  /-- The transfer. -/
  phase : Phase

/-- The registers of the plain radio after a write. A command is obeyed at once. -/
def written (held : UInt8 → UInt8) (addr val : UInt8) : UInt8 → UInt8 :=
  if addr=trxState then Function.update held trxStatus (destination (val &&& 0x1F))
  else Function.update held addr val

/-- The plain radio on the bus. -/
def plain : Device Plain where
  shift radio octet :=
    match radio.phase with
    | .command =>
      if octet &&& 0xC0=radioSpiCmdRr then (0,{radio with phase := .reading (octet &&& 0x3F)})
      else if octet &&& 0xC0=radioSpiCmdRw then (0,{radio with phase := .writing (octet &&& 0x3F)})
      else (0,{radio with phase := .ignored})
    | .reading addr => (radio.held addr,{radio with phase := .ignored})
    | .writing addr => (radio.held addr,⟨written radio.held addr octet,.ignored⟩)
    | .ignored => (0,radio)
  release radio := {radio with phase := .command}

/-- The registers of the plain radio after a reset. -/
def plainDefaults (addr : UInt8) : UInt8 :=
  if addr=trxStatus then trxOff
  else if addr=partNum then at86rf212PartNum
  else if addr=versionNum then at86rf212VerNum else 0

/-- The hardware functions with the plain radio on the bus. -/
def plainWires : (question : Wire) → Bus Plain → question.Answer × Bus Plain
  | .spiStart,bus => ((),bus.enable)
  | .spiStop,bus => ((),bus.disable plain)
  | .spiXfer data,bus => exchange plain data bus
  | .slptrSet,bus => ((),bus)
  | .slptrClear,bus => ((),bus)
  | .resetSet,bus => ((),⟨⟨plainDefaults,.command⟩,bus.selected⟩)
  | .resetClear,bus => ((),bus)
  | .delayUs _,bus => ((),bus)

/-- The command octets of the first 64 registers. -/
theorem command_octets {addr : UInt8} (h : addr<0x40) :
    (addr ||| radioSpiCmdRr) &&& 0xC0=radioSpiCmdRr ∧ (addr ||| radioSpiCmdRr) &&& 0x3F=addr ∧
      (addr ||| radioSpiCmdRw) &&& 0xC0=radioSpiCmdRw ∧ (addr ||| radioSpiCmdRw) &&& 0x3F=addr := by
  have hall : ∀ i : Fin 64,
      (UInt8.ofNat i.val ||| radioSpiCmdRr) &&& 0xC0=radioSpiCmdRr ∧
      (UInt8.ofNat i.val ||| radioSpiCmdRr) &&& 0x3F=UInt8.ofNat i.val ∧
      (UInt8.ofNat i.val ||| radioSpiCmdRw) &&& 0xC0=radioSpiCmdRw ∧
      (UInt8.ofNat i.val ||| radioSpiCmdRw) &&& 0x3F=UInt8.ofNat i.val := by
    decide
  have haddr := hall ⟨addr.toNat,UInt8.lt_iff_toNat_lt.mp h⟩
  rwa [UInt8.ofNat_toNat] at haddr

/-- The bus at rest. -/
def atRest (held : UInt8 → UInt8) : Bus Plain := ⟨⟨held,.command⟩,false⟩

/-- A read over the bus of the plain radio returns the register. -/
theorem ends_radioRegRead {addr : UInt8} (h : addr<0x40) (held : UInt8 → UInt8) :
    Ends plainWires (radioRegRead addr) (atRest held) (held addr) (atRest held) := by
  obtain ⟨hread,haddr,-⟩ := command_octets h
  have hshift : plain.shift ⟨held,.command⟩ (addr ||| radioSpiCmdRr)=(0,⟨held,.reading addr⟩) := by
    simp only [plain,hread,haddr,if_true]
  change Program.run plainWires (do
    let val ← spiXfer RadioFrame.blankSpiCharacter
    spiStop
    return val) ⟨(plain.shift ⟨held,.command⟩ (addr ||| radioSpiCmdRr)).2,true⟩=_
  rw [hshift]
  rfl

/-- A write over the bus of the plain radio changes the register. -/
theorem ends_radioRegWrite {addr : UInt8} (h : addr<0x40) (val : UInt8) (held : UInt8 → UInt8) :
    Ends plainWires (radioRegWrite addr val) (atRest held) () (atRest (written held addr val)) := by
  obtain ⟨-,-,hwrite,haddr⟩ := command_octets h
  have hshift : plain.shift ⟨held,.command⟩ (addr ||| radioSpiCmdRw)=(0,⟨held,.writing addr⟩) := by
    simp only [plain,hwrite,haddr,if_true]
    rw [if_neg (by decide)]
  change Program.run plainWires (do
    let _ ← spiXfer val
    spiStop) ⟨(plain.shift ⟨held,.command⟩ (addr ||| radioSpiCmdRw)).2,true⟩=_
  rw [hshift]
  rfl

/-- A released bus between two transfers is at rest. -/
theorem eq_atRest {bus : Bus Plain} (h : bus.selected=false ∧ bus.device.phase=.command) :
    bus=atRest bus.device.held := by
  obtain ⟨⟨held,phase⟩,selected⟩ := bus
  obtain ⟨rfl,rfl⟩ := h
  rfl

/-- A write to the plain radio changes one register apart from the status. -/
theorem written_apply {addr val other : UInt8} (held : UInt8 → UInt8) (hstatus : other≠trxStatus)
    (hstate : other≠trxState) :
    written held addr val other=if other=addr then val else held other := by
  unfold written
  by_cases haddr : addr=trxState
  · subst haddr
    rw [if_pos rfl,if_neg hstate,Function.update_of_ne hstatus]
  · rw [if_neg haddr,Function.update_apply]

/-- The plain radio is a file of registers. -/
def plainRegisters : Registers plainWires where
  idle bus := bus.selected=false ∧ bus.device.phase=.command
  contents bus := bus.device.held
  defaults := plainDefaults
  steady addr := addr≠trxStatus ∧ addr≠trxState
  settings_steady := settings_all rfl
  numbers_steady := by decide
  command_unsteady h := h.2 rfl
  reset _ := ⟨⟨rfl,rfl⟩,fun _ _ => rfl⟩
  read {bus} addr haddr hidle := by
    rw [eq_atRest hidle]
    exact ⟨_,_,ends_radioRegRead haddr _,⟨rfl,rfl⟩,fun _ _ => rfl,fun _ => rfl⟩
  write {bus} addr val hidle haddr := by
    have hlow : ∀ addr∈trxState::settingRegisters,addr<0x40 :=
      List.forall_mem_cons.mpr ⟨by decide,setting_low⟩
    rw [eq_atRest hidle]
    exact ⟨_,ends_radioRegWrite (hlow addr haddr) _ _,⟨rfl,rfl⟩,
      fun _ hsteady => written_apply _ hsteady.1 hsteady.2⟩
  wake hidle := ⟨hidle,fun _ _ => rfl⟩
  delay _ hidle := ⟨hidle,fun _ _ => rfl⟩

/-- The plain radio obeys every command. -/
theorem obeyed {status command old : UInt8} (h : Moves (stateOf status) command) :
    stateOf (destination (mix old command 0x1F &&& 0x1F))=destination command := by
  have hfits : command &&& 0x1F=command := by
    obtain rfl|rfl|⟨-,rfl⟩|⟨-,rfl⟩ := h
    · rfl
    · rw [stateOf,UInt8.and_assoc]
      rfl
    · rfl
    · rfl
  have hmasked : mix old command 0x1F &&& 0x1F=command := (masked_write _ _ _).trans hfits
  rw [hmasked,destination]
  split_ifs
  · rfl
  · exact hfits

/-- The plain radio is prompt. -/
def plainPrompt : Prompt plainRegisters where
  state bus := stateOf (bus.device.held trxStatus)
  reset s := by
    change transitional (stateOf (plainDefaults trxStatus))=false
    decide
  status {bus bus' val} hidle hread := by
    rw [eq_atRest hidle] at hread ⊢
    obtain ⟨rfl,-⟩ := Prod.mk.inj (Option.some.inj ((ends_radioRegRead (by decide) _).symm.trans hread))
    rfl
  read {bus bus' addr val} haddr hidle hread := by
    rw [eq_atRest hidle] at hread ⊢
    obtain ⟨-,rfl⟩ := Prod.mk.inj (Option.some.inj ((ends_radioRegRead haddr _).symm.trans hread))
    rfl
  write {bus bus' addr val} hidle haddr hwrite := by
    have hother : ∀ addr∈settingRegisters,addr≠trxState ∧ trxStatus≠addr := settings_all rfl
    obtain ⟨hstate,hstatus⟩ := hother addr haddr
    rw [eq_atRest hidle] at hwrite ⊢
    obtain ⟨-,rfl⟩ := Prod.mk.inj (Option.some.inj
      ((ends_radioRegWrite (setting_low addr haddr) _ _).symm.trans hwrite))
    change stateOf (written _ addr val trxStatus)=_
    rw [written,if_neg hstate,Function.update_of_ne hstatus]
    rfl
  wake _ := rfl
  obeys {bus bus'} command us hidle hmoves _ hends := by
    let held := bus.device.held
    have hmodify : (radioRegReadModWrite trxState command 0x1F).wp True plainWires (fun _ after =>
        after=atRest (written held trxState (mix (held trxState) command 0x1F))) (atRest held) :=
      (wp_bind _ _ _ _).mpr (wp_of_ends (ends_radioRegRead (by decide) held)
        (wp_of_ends (ends_radioRegWrite (by decide) _ held) rfl))
    rw [eq_atRest hidle] at hends
    obtain rfl := wp_true_iff.mp hmodify _ _ hends
    change stateOf (written held trxState _ trxStatus)=_
    rw [written,if_pos rfl,Function.update_self]
    exact obeyed hmoves

/-- The gateway's interface is started with a plain radio, from whatever its
registers hold. -/
theorem gateway_radio_started : downRadif.tx.up=false ∧
    ∃ seq bus,(rf212Init 1 downRadif).run plainWires (atRest fun _ => 0)=
        some (started downRadif seq,bus) ∧
      Configured downRadif plainRegisters.steady plainDefaults bus.device.held ∧
      stateOf (bus.device.held trxStatus)=rxAackOn := by
  obtain ⟨after,bus,hends,hstate⟩ := (rf212_init_configures_radio plainRegisters 0 downRadif
    (atRest fun _ => 0) rfl).2 plainPrompt
  obtain ⟨⟨seq,rfl⟩,hconfigured⟩ := (rf212_init_configures_radio plainRegisters 1 downRadif
    (atRest fun _ => 0) rfl).1 after bus hends
  exact ⟨rfl,seq,bus,hends,hconfigured,hstate⟩

end VlfGateway.RadioSetup
