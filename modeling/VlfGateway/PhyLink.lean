import VlfGateway.AskProgram
import VlfGateway.StepPath

/-!
# The state of the Ethernet link

The physical layer is asked over the management interface, without waiting: one
service call requests a register, later ones look whether it has arrived. Two
registers in a row make one update of speed, duplex mode and link. The update
acts on what has changed since the last one. So the hardware always stands as
the registers read last demand, and the light shows the link once a change was
reported.
-/

namespace VlfGateway.PhyLink

open AskProgram StepPath

/-! ## The management interface -/

/-- Accesses to the management interface. -/
inductive Mii where
  /-- `MADR` is written. -/
  | setMadr (value : UInt32)
  /-- `MWTD` is written. -/
  | setMwtd (value : UInt32)
  /-- `MCMD` is written. -/
  | setMcmd (value : UInt32)
  /-- `MIND` is read. -/
  | mind
  /-- `MRDD` is read. -/
  | mrdd
  /-- A millisecond passes. -/
  | delay

/-- What an access returns. -/
abbrev Mii.Answer : Mii → Type
  | .mind => UInt32
  | .mrdd => UInt32
  | _ => Unit

/-- Programs over the management interface. -/
abbrev MiiProgram (α : Type) := Program Mii Mii.Answer α

/-- Conversations over the management interface. -/
abbrev MiiTalk := List (Exchange Mii Mii.Answer)

/-- `EMAC_MIND_BUSY`. -/
def mindBusy : UInt32 := 1

/-- `EMAC_MIND_MII_LINK_FAIL`. -/
def mindLinkFail : UInt32 := 8

/-- `EMAC_MCMD_READ`. -/
def mcmdRead : UInt32 := 1

/-- The address of a register of the physical layer. -/
def phyAddress (phyReg : UInt32) : UInt32 := 0x100 ||| phyReg

/-- `err_t` as far as it is used here. -/
inductive PhyErr where
  /-- `ERR_OK`. -/
  | ok
  /-- `ERR_TIMEOUT`. -/
  | timeout
  deriving DecidableEq

/-- `lpc_mii_write_noblock`. -/
def lpcMiiWriteNoblock (phyReg value : UInt32) : MiiProgram Unit := do
  Program.once (Mii.setMadr (phyAddress phyReg))
  Program.once (Mii.setMwtd value)

/-- A word kept in an `err_t`, which has eight bits. -/
def asErr (word : UInt32) : Int8 := word.toUInt8.toInt8

/-- Whether `EMAC_MIND_BUSY` is set in an `err_t`. -/
def Busy (sts : Int8) : Prop := sts.toInt32.toUInt32 &&& mindBusy≠0

instance (sts : Int8) : Decidable (Busy sts) := inferInstanceAs (Decidable (_≠_))

/-- The wait of `lpc_mii_write`. -/
def writeWait : ℕ → Int8 → MiiProgram Int8
  | 0,sts => return sts
  | rounds+1,_ => do
    let mind ← Program.once Mii.mind
    let sts := asErr mind
    if ¬Busy sts then return sts
    else
      Program.once Mii.delay
      writeWait rounds sts

/-- `lpc_mii_write`. -/
def lpcMiiWrite (phyReg value : UInt32) : MiiProgram PhyErr := do
  lpcMiiWriteNoblock phyReg value
  let sts ← writeWait 250 0
  return if sts≠0 then .timeout else .ok

/-- `lpc_mii_read_status`. -/
def lpcMiiReadStatus : MiiProgram UInt32 := Program.once Mii.mind

/-- `lpc_mii_read_data`. -/
def lpcMiiReadData : MiiProgram UInt32 := do
  let data ← Program.once Mii.mrdd
  Program.once (Mii.setMcmd 0)
  return data

/-- `lpc_mii_read_noblock`. -/
def lpcMiiReadNoblock (phyReg : UInt32) : MiiProgram Unit := do
  Program.once (Mii.setMadr (phyAddress phyReg))
  Program.once (Mii.setMcmd mcmdRead)

/-- The wait of `lpc_mii_read`, which leaves `*data` alone when it is given up. -/
def readWait : ℕ → Int8 → UInt32 → MiiProgram (Int8 × UInt32)
  | 0,sts,data => return (sts,data)
  | rounds+1,_,data => do
    let mind ← Program.once Mii.mind
    let sts := asErr (mind &&& ~~~mindLinkFail)
    if ¬Busy sts then
      let arrived ← Program.once Mii.mrdd
      return (sts,arrived)
    else
      Program.once Mii.delay
      readWait rounds sts data

/-- `lpc_mii_read`, with what `*data` holds before. -/
def lpcMiiRead (phyReg data : UInt32) : MiiProgram (PhyErr × UInt32) := do
  lpcMiiReadNoblock phyReg
  let result ← readWait 250 0 data
  Program.once (Mii.setMcmd 0)
  return (if result.1≠0 then .timeout else .ok,result.2)

/-! ## The update -/

/-- `PHY_STATUS_TYPE`. -/
structure PhyStatus where
  /-- `phy_speed_100mbs`. -/
  phySpeed100mbs : UInt8
  /-- `phy_full_duplex`. -/
  phyFullDuplex : UInt8
  /-- `phy_link_active`. -/
  phyLinkActive : UInt8

/-- What the update acts on. -/
structure Hardware where
  /-- `SUPP`. -/
  supp : UInt32
  /-- `MAC2`. -/
  mac2 : UInt32
  /-- `Command`. -/
  command : UInt32
  /-- `IPGT`. -/
  ipgt : UInt32
  /-- `NETIF_FLAG_LINK_UP` of the interface. -/
  linkUp : Bool

/-- `phyustate`. -/
inductive PhyStage where
  /-- `0`: the link status is requested next. -/
  | request
  /-- `1`: it is waited for. -/
  | link
  /-- `2`: speed and duplex mode are waited for. -/
  | speed
  deriving DecidableEq

/-- The state of the driver and of what it acts on. -/
structure Phy where
  /-- `physts`. -/
  physts : PhyStatus
  /-- `olddphysts`. -/
  olddphysts : PhyStatus
  /-- `phyustate`. -/
  phyustate : PhyStage
  /-- `sts` of `lpc_phy_sts_sm`. -/
  sts : UInt32
  /-- The hardware. -/
  hardware : Hardware

/-- `LAN8_LINK_STATUS`. -/
def lan8LinkStatus : UInt32 := 0x4

/-- `LAN8_SPEEDMASK`. -/
def lan8Speedmask : UInt32 := 0x1C

/-- `LAN8_SPEED10F`. -/
def lan8Speed10f : UInt32 := 0x14

/-- `LAN8_SPEED100H`. -/
def lan8Speed100h : UInt32 := 0x8

/-- `LAN8_SPEED10H`. -/
def lan8Speed10h : UInt32 := 0x4

/-- `EMAC_SUPP_SPEED`. -/
def emacSuppSpeed : UInt32 := 0x100

/-- `EMAC_MAC2_FULL_DUP`. -/
def emacMac2FullDup : UInt32 := 1

/-- `EMAC_CR_FULL_DUP`. -/
def emacCrFullDup : UInt32 := 0x400

/-- `EMAC_IPGT_FULL_DUP`. -/
def emacIpgtFullDup : UInt32 := 0x15

/-- `EMAC_IPGT_HALF_DUP`. -/
def emacIpgtHalfDup : UInt32 := 0x12

/-- The status of two status words. The case of 100 Mbit/s in full duplex mode
is also that of every other value. -/
def statusOf (linksts sdsts : UInt32) : PhyStatus :=
  let link : UInt8 := if linksts &&& lan8LinkStatus≠0 then 1 else 0
  if sdsts &&& lan8Speedmask=lan8Speed10f then ⟨0,1,link⟩
  else if sdsts &&& lan8Speedmask=lan8Speed100h then ⟨1,0,link⟩
  else if sdsts &&& lan8Speedmask=lan8Speed10h then ⟨0,0,link⟩
  else ⟨1,1,link⟩

/-- A flag of a register is set or cleared. -/
def setFlag (on : Bool) (mask reg : UInt32) : UInt32 := if on then reg ||| mask else reg &&& ~~~mask

/-- The part of the update for one field: nothing, or an action for the new
value. -/
def updateField (get : PhyStatus → UInt8) (set : UInt8 → PhyStatus → PhyStatus)
    (act : Bool → Hardware → Hardware) (phy : Phy) : Bool × Phy :=
  if get phy.physts≠get phy.olddphysts then
    (true,{phy with
      hardware := act (get phy.physts≠0) phy.hardware
      olddphysts := set (get phy.physts) phy.olddphysts})
  else (false,phy)

/-- The speed of the interface. -/
def setSpeed (fast : Bool) (hardware : Hardware) : Hardware :=
  {hardware with supp := setFlag fast emacSuppSpeed hardware.supp}

/-- The duplex mode of the interface. -/
def setDuplex (full : Bool) (hardware : Hardware) : Hardware :=
  {hardware with
    mac2 := setFlag full emacMac2FullDup hardware.mac2
    command := setFlag full emacCrFullDup hardware.command
    ipgt := if full then emacIpgtFullDup else emacIpgtHalfDup}

/-- `netif_set_link_up` and `netif_set_link_down`. -/
def setLink (active : Bool) (hardware : Hardware) : Hardware := {hardware with linkUp := active}

/-- Another speed. -/
def PhyStatus.withSpeed (value : UInt8) (status : PhyStatus) : PhyStatus :=
  {status with phySpeed100mbs := value}

/-- Another duplex mode. -/
def PhyStatus.withDuplex (value : UInt8) (status : PhyStatus) : PhyStatus :=
  {status with phyFullDuplex := value}

/-- Another link. -/
def PhyStatus.withLink (value : UInt8) (status : PhyStatus) : PhyStatus :=
  {status with phyLinkActive := value}

/-- The speed in the update. -/
def updateSpeed : Phy → Bool × Phy :=
  updateField PhyStatus.phySpeed100mbs PhyStatus.withSpeed setSpeed

/-- The duplex mode in the update. -/
def updateDuplex : Phy → Bool × Phy :=
  updateField PhyStatus.phyFullDuplex PhyStatus.withDuplex setDuplex

/-- The link in the update. -/
def updateLink : Phy → Bool × Phy :=
  updateField PhyStatus.phyLinkActive PhyStatus.withLink setLink

/-- `lpc_update_phy_sts`. -/
def lpcUpdatePhySts (linksts sdsts : UInt32) (phy : Phy) : Bool × Phy :=
  let speed := updateSpeed {phy with physts := statusOf linksts sdsts}
  let duplex := updateDuplex speed.2
  let link := updateLink duplex.2
  (speed.1 || duplex.1 || link.1,link.2)

/-! ## Start and service -/

/-- `LAN8_BCR_REG`. -/
def lan8BcrReg : UInt32 := 0

/-- `LAN8_BSR_REG`. -/
def lan8BsrReg : UInt32 := 1

/-- `LAN8_PHYSPLCTL_REG`. -/
def lan8PhysplctlReg : UInt32 := 0x1F

/-- `LAN8_RESET`. -/
def lan8Reset : UInt32 := 0x8000

/-- `LAN8_POWER_DOWN`. -/
def lan8PowerDown : UInt32 := 0x800

/-- `LAN8_AUTONEG | LAN8_SPEED_SELECT | LAN8_DUPLEX_MODE`. -/
def lan8Setup : UInt32 := 0x1000 ||| 0x2000 ||| 0x100

/-- The wait for the end of the reset: whether it was seen. -/
def resetWait : ℕ → UInt32 → MiiProgram Bool
  | 0,_ => return false
  | rounds+1,tmp => do
    Program.once Mii.delay
    let result ← lpcMiiRead lan8BcrReg tmp
    if result.1≠.ok then return false
    else if result.2 &&& (lan8Reset ||| lan8PowerDown)=0 then return true
    else resetWait rounds result.2

/-- `lpc_phy_init`, with what `tmp1` holds on the stack. -/
def lpcPhyInit (tmp1 : UInt32) (phy : Phy) : MiiProgram (PhyErr × Phy) := do
  let phy := {phy with olddphysts := ⟨2,2,2⟩,phyustate := .request}
  let written ← lpcMiiWrite lan8BcrReg lan8Reset
  if written≠.ok then return (.timeout,phy)
  else
    let reset ← resetWait 400 2
    if reset then
      let _ ← lpcMiiWrite lan8BcrReg lan8Setup
      let linksts ← lpcMiiRead lan8BsrReg lan8Setup
      let sdsts ← lpcMiiRead lan8PhysplctlReg tmp1
      return (.ok,(lpcUpdatePhySts linksts.2 sdsts.2 phy).2)
    else return (.timeout,phy)

/-- `lpc_phy_sts_sm`. -/
def lpcPhyStsSm (phy : Phy) : MiiProgram (Bool × Phy) :=
  match phy.phyustate with
  | .request => do
    lpcMiiReadNoblock lan8BsrReg
    return (false,{phy with phyustate := .link})
  | .link => do
    let status ← lpcMiiReadStatus
    if status &&& mindBusy=0 then
      let sts ← lpcMiiReadData
      lpcMiiReadNoblock lan8PhysplctlReg
      return (false,{phy with sts := sts,phyustate := .speed})
    else return (false,phy)
  | .speed => do
    let status ← lpcMiiReadStatus
    if status &&& mindBusy=0 then
      let sdsts ← lpcMiiReadData
      let updated := lpcUpdatePhySts phy.sts sdsts phy
      return (updated.1,{updated.2 with phyustate := .request})
    else return (false,phy)

/-- The driver with the light at the port. -/
structure Port where
  /-- The driver. -/
  phy : Phy
  /-- Whether the green light is on. -/
  green : Bool

/-- The part of `net_service` for the link. -/
def servicePhy (port : Port) : MiiProgram (Bool × Port) := do
  let result ← lpcPhyStsSm port.phy
  return (result.1,⟨result.2,if result.1 then result.2.hardware.linkUp else port.green⟩)

/-! ## What an update leaves behind -/

/-- A flag reads as it was set. -/
theorem setFlag_flag (on : Bool) (mask reg : UInt32) :
    setFlag on mask reg &&& mask=if on then mask else 0 := by
  apply UInt32.eq_of_toBitVec_eq
  ext i hi
  cases on
  · simp [setFlag]
  · simp only [setFlag,if_true,UInt32.toBitVec_and,UInt32.toBitVec_or,BitVec.getElem_and,
      BitVec.getElem_or]
    cases reg.toBitVec[i] <;> cases mask.toBitVec[i] <;> rfl

/-- The hardware runs at a speed. -/
def AtSpeed (fast : Bool) (hardware : Hardware) : Prop :=
  hardware.supp &&& emacSuppSpeed=if fast then emacSuppSpeed else 0

/-- The hardware is in a duplex mode, in all three registers. -/
def InDuplex (full : Bool) (hardware : Hardware) : Prop :=
  hardware.mac2 &&& emacMac2FullDup=(if full then emacMac2FullDup else 0) ∧
    hardware.command &&& emacCrFullDup=(if full then emacCrFullDup else 0) ∧
    hardware.ipgt=if full then emacIpgtFullDup else emacIpgtHalfDup

/-- The link of the interface is in a state. -/
def HasLink (active : Bool) (hardware : Hardware) : Prop := hardware.linkUp=active

/-- The hardware stands as a status demands. -/
structure Shows (status : PhyStatus) (hardware : Hardware) : Prop where
  /-- The speed. -/
  speed : AtSpeed (status.phySpeed100mbs≠0) hardware
  /-- The duplex mode. -/
  duplex : InDuplex (status.phyFullDuplex≠0) hardware
  /-- The link. -/
  link : HasLink (status.phyLinkActive≠0) hardware

/-- A field noted as done stands for the hardware. A field that was never done
is noted as 2. -/
def FieldNoted (get : PhyStatus → UInt8) (Shown : Bool → Hardware → Prop) (phy : Phy) : Prop :=
  get phy.olddphysts≠2 → Shown (get phy.olddphysts≠0) phy.hardware

/-- All fields noted as done stand for the hardware. -/
structure Noted (phy : Phy) : Prop where
  /-- The speed. -/
  speed : FieldNoted PhyStatus.phySpeed100mbs AtSpeed phy
  /-- The duplex mode. -/
  duplex : FieldNoted PhyStatus.phyFullDuplex InDuplex phy
  /-- The link. -/
  link : FieldNoted PhyStatus.phyLinkActive HasLink phy

section Field

variable (get : PhyStatus → UInt8) (set : UInt8 → PhyStatus → PhyStatus)
  (act : Bool → Hardware → Hardware) (Shown : Bool → Hardware → Prop) {phy : Phy}

/-- A field is shown after its part of the update, and noted. -/
theorem updateField_shown (hset : ∀ v status,get (set v status)=v)
    (hact : ∀ on hardware,Shown on (act on hardware)) (hnew : get phy.physts≠2)
    (hnoted : FieldNoted get Shown phy) :
    Shown (get phy.physts≠0) (updateField get set act phy).2.hardware ∧
      FieldNoted get Shown (updateField get set act phy).2 := by
  unfold updateField
  split_ifs with hchanged
  · refine ⟨hact _ _,fun _ => ?_⟩
    rw [hset]
    exact hact _ _
  · have hsame := not_not.mp hchanged
    rw [hsame]
    exact ⟨hnoted (hsame ▸ hnew),hnoted⟩

/-- What the action of a field leaves alone stays shown. -/
theorem updateField_keeps {on : Bool}
    (hact : ∀ on' hardware,Shown on (act on' hardware) ↔ Shown on hardware)
    (hshown : Shown on phy.hardware) : Shown on (updateField get set act phy).2.hardware := by
  unfold updateField
  split_ifs
  · exact (hact _ _).mpr hshown
  · exact hshown

/-- The notes of another field stay. -/
theorem updateField_notes (other : PhyStatus → UInt8)
    (hother : ∀ v status,other (set v status)=other status)
    (hact : ∀ on on' hardware,Shown on (act on' hardware) ↔ Shown on hardware)
    (hnoted : FieldNoted other Shown phy) :
    FieldNoted other Shown (updateField get set act phy).2 := by
  unfold updateField
  split_ifs
  · intro hdone
    rw [hother] at hdone ⊢
    exact (hact _ _ _).mpr (hnoted hdone)
  · exact hnoted

/-- A part of the update leaves the new status. -/
theorem updateField_physts : (updateField get set act phy).2.physts=phy.physts := by
  unfold updateField
  split_ifs <;> rfl

/-- A part of the update leaves the state of the machine. -/
theorem updateField_phyustate : (updateField get set act phy).2.phyustate=phy.phyustate := by
  unfold updateField
  split_ifs <;> rfl

/-- A part that reports no change has made none. -/
theorem updateField_unchanged (h : (updateField get set act phy).1=false) :
    (updateField get set act phy).2=phy := by
  unfold updateField at h ⊢
  split_ifs at h ⊢
  rfl

end Field

/-- No field of a new status is a 2. -/
theorem statusOf_fields (linksts sdsts : UInt32) :
    (statusOf linksts sdsts).phySpeed100mbs≠2 ∧ (statusOf linksts sdsts).phyFullDuplex≠2 ∧
      (statusOf linksts sdsts).phyLinkActive≠2 := by
  unfold statusOf
  dsimp only
  split_ifs
  all_goals exact ⟨by decide,by decide,by decide⟩

/-- The speed is done by its own part. -/
theorem updateSpeed_effect {phy : Phy} (h : Noted phy) (hnew : phy.physts.phySpeed100mbs≠2) :
    AtSpeed (phy.physts.phySpeed100mbs≠0) (updateSpeed phy).2.hardware ∧
      Noted (updateSpeed phy).2 := by
  obtain ⟨hshown,hnoted⟩ := updateField_shown PhyStatus.phySpeed100mbs PhyStatus.withSpeed setSpeed
    AtSpeed (fun _ _ => rfl) (fun _ _ => setFlag_flag _ _ _) hnew h.speed
  exact ⟨hshown,hnoted,
    updateField_notes _ PhyStatus.withSpeed setSpeed _ _ (fun _ _ => rfl) (fun _ _ _ => Iff.rfl)
      h.duplex,
    updateField_notes _ PhyStatus.withSpeed setSpeed _ _ (fun _ _ => rfl) (fun _ _ _ => Iff.rfl)
      h.link⟩

/-- The duplex mode is done by its own part, which leaves the speed. -/
theorem updateDuplex_effect {phy : Phy} (h : Noted phy) (hnew : phy.physts.phyFullDuplex≠2) :
    InDuplex (phy.physts.phyFullDuplex≠0) (updateDuplex phy).2.hardware ∧
      (∀ fast,AtSpeed fast phy.hardware → AtSpeed fast (updateDuplex phy).2.hardware) ∧
      Noted (updateDuplex phy).2 := by
  obtain ⟨hshown,hnoted⟩ := updateField_shown PhyStatus.phyFullDuplex PhyStatus.withDuplex setDuplex
    InDuplex (fun _ _ => rfl) (fun _ _ => ⟨setFlag_flag _ _ _,setFlag_flag _ _ _,rfl⟩) hnew h.duplex
  exact ⟨hshown,
    fun _ => updateField_keeps _ PhyStatus.withDuplex setDuplex _ fun _ _ => Iff.rfl,
    updateField_notes _ PhyStatus.withDuplex setDuplex _ _ (fun _ _ => rfl) (fun _ _ _ => Iff.rfl)
      h.speed,hnoted,
    updateField_notes _ PhyStatus.withDuplex setDuplex _ _ (fun _ _ => rfl) (fun _ _ _ => Iff.rfl)
      h.link⟩

/-- The link is done by its own part, which leaves speed and duplex mode. -/
theorem updateLink_effect {phy : Phy} (h : Noted phy) (hnew : phy.physts.phyLinkActive≠2) :
    HasLink (phy.physts.phyLinkActive≠0) (updateLink phy).2.hardware ∧
      (∀ fast,AtSpeed fast phy.hardware → AtSpeed fast (updateLink phy).2.hardware) ∧
      (∀ full,InDuplex full phy.hardware → InDuplex full (updateLink phy).2.hardware) ∧
      Noted (updateLink phy).2 := by
  obtain ⟨hshown,hnoted⟩ := updateField_shown PhyStatus.phyLinkActive PhyStatus.withLink setLink
    HasLink (fun _ _ => rfl) (fun _ _ => rfl) hnew h.link
  exact ⟨hshown,
    fun _ => updateField_keeps _ PhyStatus.withLink setLink _ fun _ _ => Iff.rfl,
    fun _ => updateField_keeps _ PhyStatus.withLink setLink _ fun _ _ => Iff.rfl,
    updateField_notes _ PhyStatus.withLink setLink _ _ (fun _ _ => rfl) (fun _ _ _ => Iff.rfl)
      h.speed,
    updateField_notes _ PhyStatus.withLink setLink _ _ (fun _ _ => rfl) (fun _ _ _ => Iff.rfl)
      h.duplex,hnoted⟩

/-- After an update the hardware stands as the two status words demand, whatever
it showed before. -/
theorem lpcUpdatePhySts_shows {phy : Phy} (h : Noted phy) (linksts sdsts : UInt32) :
    Shows (statusOf linksts sdsts) (lpcUpdatePhySts linksts sdsts phy).2.hardware ∧
      Noted (lpcUpdatePhySts linksts sdsts phy).2 := by
  obtain ⟨hnewSpeed,hnewDuplex,hnewLink⟩ := statusOf_fields linksts sdsts
  unfold lpcUpdatePhySts
  dsimp only
  generalize hfresh : ({phy with physts := statusOf linksts sdsts} : Phy)=fresh
  have hstatus : fresh.physts=statusOf linksts sdsts := by rw [←hfresh]
  have hnoted : Noted fresh := by
    rw [←hfresh]
    exact ⟨h.speed,h.duplex,h.link⟩
  rw [←hstatus] at hnewSpeed hnewDuplex hnewLink ⊢
  obtain ⟨hspeed,hnoted⟩ := updateSpeed_effect hnoted hnewSpeed
  have hfirst : (updateSpeed fresh).2.physts=fresh.physts := updateField_physts _ _ _
  generalize (updateSpeed fresh).2=first at hspeed hnoted hfirst ⊢
  rw [←hfirst] at hnewDuplex hnewLink hspeed ⊢
  obtain ⟨hduplex,hleft,hnoted⟩ := updateDuplex_effect hnoted hnewDuplex
  have hsecond : (updateDuplex first).2.physts=first.physts := updateField_physts _ _ _
  have hspeed := hleft _ hspeed
  generalize (updateDuplex first).2=second at hspeed hduplex hnoted hsecond ⊢
  rw [←hsecond] at hnewLink hspeed hduplex ⊢
  obtain ⟨hlink,hleftSpeed,hleftDuplex,hnoted⟩ := updateLink_effect hnoted hnewLink
  exact ⟨⟨hleftSpeed _ hspeed,hleftDuplex _ hduplex,hlink⟩,hnoted⟩

/-- An update that reports no change has made none to the hardware. -/
theorem lpcUpdatePhySts_unchanged {phy : Phy} {linksts sdsts : UInt32}
    (h : (lpcUpdatePhySts linksts sdsts phy).1=false) :
    (lpcUpdatePhySts linksts sdsts phy).2.hardware=phy.hardware := by
  unfold lpcUpdatePhySts at h ⊢
  simp only [Bool.or_eq_false_iff] at h
  obtain ⟨⟨hspeed,hduplex⟩,hlink⟩ := h
  have hfirst : (updateSpeed _).2=_ := updateField_unchanged _ _ _ hspeed
  have hsecond : (updateDuplex _).2=_ := updateField_unchanged _ _ _ hduplex
  have hthird : (updateLink _).2=_ := updateField_unchanged _ _ _ hlink
  dsimp only
  rw [hthird,hsecond,hfirst]

/-- An update leaves the state of the machine. -/
theorem lpcUpdatePhySts_phyustate (linksts sdsts : UInt32) (phy : Phy) :
    (lpcUpdatePhySts linksts sdsts phy).2.phyustate=phy.phyustate := by
  unfold lpcUpdatePhySts updateLink updateDuplex updateSpeed
  dsimp only
  rw [updateField_phyustate,updateField_phyustate,updateField_phyustate]

/-! ## One service call -/

/-- The outcomes of one `lpc_phy_sts_sm`. -/
inductive Polled (phy : Phy) : MiiTalk → Bool × Phy → Prop
  /-- The link status is requested. -/
  | requested (hstage : phy.phyustate=.request) :
      Polled phy [⟨.setMadr (phyAddress lan8BsrReg),()⟩,⟨.setMcmd mcmdRead,()⟩]
        (false,{phy with phyustate := .link})
  /-- Nothing has arrived. -/
  | waited {mind : UInt32} (hstage : phy.phyustate≠.request) (hbusy : mind &&& mindBusy≠0) :
      Polled phy [⟨.mind,mind⟩] (false,phy)
  /-- The link status has arrived, and the speed is requested. -/
  | linked {mind sts : UInt32} (hstage : phy.phyustate=.link) (hidle : mind &&& mindBusy=0) :
      Polled phy [⟨.mind,mind⟩,⟨.mrdd,sts⟩,⟨.setMcmd 0,()⟩,
          ⟨.setMadr (phyAddress lan8PhysplctlReg),()⟩,⟨.setMcmd mcmdRead,()⟩]
        (false,{phy with sts := sts,phyustate := .speed})
  /-- The speed has arrived, too. -/
  | updated {mind sdsts : UInt32} (hstage : phy.phyustate=.speed) (hidle : mind &&& mindBusy=0) :
      Polled phy [⟨.mind,mind⟩,⟨.mrdd,sdsts⟩,⟨.setMcmd 0,()⟩]
        ((lpcUpdatePhySts phy.sts sdsts phy).1,
          {(lpcUpdatePhySts phy.sts sdsts phy).2 with phyustate := .request})

/-- `lpc_mii_read_data` reads the data register and clears the command. -/
theorem yields_lpcMiiReadData {talk : MiiTalk} {data : UInt32}
    (h : Yields lpcMiiReadData talk data) : talk=[⟨.mrdd,data⟩,⟨.setMcmd 0,()⟩] := by
  obtain ⟨_,arrived,_,rfl,hread,h⟩ := yields_bind.mp h
  obtain ⟨_,_,_,rfl,hclear,h⟩ := yields_bind.mp h
  obtain ⟨rfl,rfl⟩ := yields_pure.mp h
  rw [yields_once.mp hread,yields_once.mp hclear]
  rfl

/-- `lpc_mii_read_noblock` writes the address and then the command. -/
theorem yields_lpcMiiReadNoblock {phyReg : UInt32} {talk : MiiTalk} {result : Unit}
    (h : Yields (lpcMiiReadNoblock phyReg) talk result) :
    talk=[⟨.setMadr (phyAddress phyReg),()⟩,⟨.setMcmd mcmdRead,()⟩] := by
  obtain ⟨_,_,_,rfl,haddress,h⟩ := yields_bind.mp h
  rw [yields_once.mp haddress,yields_once.mp h]
  rfl

/-- Every call of `lpc_phy_sts_sm` has one of the outcomes. -/
theorem yields_lpcPhyStsSm {phy : Phy} {talk : MiiTalk} {result : Bool × Phy}
    (h : Yields (lpcPhyStsSm phy) talk result) : Polled phy talk result := by
  unfold lpcPhyStsSm at h
  cases hstage : phy.phyustate with
  | request =>
    rw [hstage] at h
    obtain ⟨_,_,_,rfl,hrequest,h⟩ := yields_bind.mp h
    obtain ⟨rfl,rfl⟩ := yields_pure.mp h
    rw [yields_lpcMiiReadNoblock hrequest]
    exact .requested hstage
  | link =>
    rw [hstage] at h
    obtain ⟨_,mind,_,rfl,hmind,h⟩ := yields_bind.mp h
    rw [yields_once.mp hmind]
    by_cases hidle : mind &&& mindBusy=0
    · rw [if_pos hidle] at h
      obtain ⟨_,sts,_,rfl,hread,h⟩ := yields_bind.mp h
      obtain ⟨_,_,_,rfl,hrequest,h⟩ := yields_bind.mp h
      obtain ⟨rfl,rfl⟩ := yields_pure.mp h
      rw [yields_lpcMiiReadData hread,yields_lpcMiiReadNoblock hrequest]
      exact .linked hstage hidle
    · rw [if_neg hidle] at h
      obtain ⟨rfl,rfl⟩ := yields_pure.mp h
      exact .waited (by rw [hstage]; decide) hidle
  | speed =>
    rw [hstage] at h
    obtain ⟨_,mind,_,rfl,hmind,h⟩ := yields_bind.mp h
    rw [yields_once.mp hmind]
    by_cases hidle : mind &&& mindBusy=0
    · rw [if_pos hidle] at h
      obtain ⟨_,sdsts,_,rfl,hread,h⟩ := yields_bind.mp h
      obtain ⟨rfl,rfl⟩ := yields_pure.mp h
      rw [yields_lpcMiiReadData hread]
      exact .updated hstage hidle
    · rw [if_neg hidle] at h
      obtain ⟨rfl,rfl⟩ := yields_pure.mp h
      exact .waited (by rw [hstage]; decide) hidle

/-! ## The start -/

/-- The address in `MADR` after a conversation. -/
def lastMadr (madr : UInt32) : MiiTalk → UInt32
  | [] => madr
  | ⟨.setMadr value,_⟩::rest => lastMadr value rest
  | _::rest => lastMadr madr rest

/-- The values read from `MRDD` in a conversation, with the addresses they were
requested for. -/
def readings (madr : UInt32) : MiiTalk → List (UInt32 × UInt32)
  | [] => []
  | ⟨.setMadr value,_⟩::rest => readings value rest
  | ⟨.mrdd,value⟩::rest => (madr,value)::readings madr rest
  | _::rest => readings madr rest

/-- Two conversations in a row read what the first reads and then what the second does. -/
theorem readings_append (madr : UInt32) (first second : MiiTalk) :
    readings madr (first++second)=readings madr first++readings (lastMadr madr first) second := by
  induction first generalizing madr with
  | nil => rfl
  | cons exchange rest ih =>
    obtain ⟨access,answer⟩ := exchange
    cases access with
    | setMadr value => exact ih value
    | mrdd => exact congrArg ((madr,answer)::·) (ih madr)
    | _ => exact ih madr

/-- The word read last from an address, or what stood there before. -/
def lastWord (address before : UInt32) (all : List (UInt32 × UInt32)) : UInt32 :=
  ((all.filter fun reading => reading.1=address).getLast?.map Prod.snd).getD before

/-- The status words of a start: those it has read from the two registers. A
word whose read was given up is what the variable held before. -/
def startWords (tmp1 : UInt32) (talk : MiiTalk) : UInt32 × UInt32 :=
  (lastWord (phyAddress lan8BsrReg) lan8Setup (readings 0 talk),
    lastWord (phyAddress lan8PhysplctlReg) tmp1 (readings 0 talk))

/-- A wait for the end of a write reads no data. -/
theorem yields_writeWait {rounds : ℕ} {sts result : Int8} {talk : MiiTalk}
    (h : Yields (writeWait rounds sts) talk result) (madr : UInt32) : readings madr talk=[] := by
  induction rounds generalizing sts talk with
  | zero =>
    obtain ⟨rfl,-⟩ := yields_pure.mp h
    rfl
  | succ rounds ih =>
    obtain ⟨_,mind,_,rfl,hmind,hround⟩ := yields_bind.mp h
    obtain rfl := yields_once.mp hmind
    dsimp only at hround
    split at hround
    · obtain ⟨rfl,-⟩ := yields_pure.mp hround
      rfl
    · obtain ⟨_,_,_,rfl,hdelay,hrest⟩ := yields_bind.mp hround
      obtain rfl := yields_once.mp hdelay
      have hlater := ih hrest
      exact hlater

/-- A write reads no data. -/
theorem yields_lpcMiiWrite {phyReg value madr : UInt32} {talk : MiiTalk} {result : PhyErr}
    (h : Yields (lpcMiiWrite phyReg value) talk result) : readings madr talk=[] := by
  obtain ⟨_,_,_,rfl,hwrite,hrest⟩ := yields_bind.mp h
  obtain ⟨_,_,_,rfl,haddress,hvalue⟩ := yields_bind.mp hwrite
  obtain ⟨_,_,_,rfl,hwait,hdone⟩ := yields_bind.mp hrest
  obtain ⟨rfl,-⟩ := yields_pure.mp hdone
  rw [yields_once.mp haddress,yields_once.mp hvalue,List.append_nil]
  exact yields_writeWait hwait (phyAddress phyReg)

/-- What a read reads: nothing, and it keeps the variable, or the word of the
address. -/
def ReadsInto (address before : UInt32) (all : List (UInt32 × UInt32)) (after : UInt32) : Prop :=
  all=[] ∧ after=before ∨ all=[(address,after)]

/-- A wait for data reads at the address that stands in `MADR`. -/
theorem yields_readWait {rounds : ℕ} {sts : Int8} {data : UInt32} {talk : MiiTalk}
    {result : Int8 × UInt32} (h : Yields (readWait rounds sts data) talk result) (madr : UInt32) :
    ReadsInto madr data (readings madr talk) result.2 := by
  induction rounds generalizing sts talk with
  | zero =>
    obtain ⟨rfl,rfl⟩ := yields_pure.mp h
    exact .inl ⟨rfl,rfl⟩
  | succ rounds ih =>
    obtain ⟨_,mind,_,rfl,hmind,hround⟩ := yields_bind.mp h
    obtain rfl := yields_once.mp hmind
    dsimp only at hround
    split at hround
    · obtain ⟨_,arrived,_,rfl,hread,hdone⟩ := yields_bind.mp hround
      obtain rfl := yields_once.mp hread
      obtain ⟨rfl,rfl⟩ := yields_pure.mp hdone
      exact .inr rfl
    · obtain ⟨_,_,_,rfl,hdelay,hrest⟩ := yields_bind.mp hround
      obtain rfl := yields_once.mp hdelay
      have hlater := ih hrest
      exact hlater

/-- A read reads at the address of its register. -/
theorem yields_lpcMiiRead {phyReg data : UInt32} {talk : MiiTalk} {result : PhyErr × UInt32}
    (h : Yields (lpcMiiRead phyReg data) talk result) (madr : UInt32) :
    ReadsInto (phyAddress phyReg) data (readings madr talk) result.2 := by
  obtain ⟨request,_,_,rfl,hrequest,hrest⟩ := yields_bind.mp h
  obtain ⟨waiting,value,_,rfl,hwait,hend⟩ := yields_bind.mp hrest
  obtain ⟨clear,_,_,rfl,hclear,hdone⟩ := yields_bind.mp hend
  obtain ⟨rfl,rfl⟩ := yields_pure.mp hdone
  have hall : readings madr (request++(waiting++(clear++[])))=
      readings (phyAddress phyReg) waiting := by
    rw [yields_lpcMiiReadNoblock hrequest,yields_once.mp hclear,List.append_nil]
    change readings (phyAddress phyReg) (waiting++_)=_
    rw [readings_append]
    exact List.append_nil _
  rw [hall]
  exact yields_readWait hwait (phyAddress phyReg)

/-- The wait for the end of the reset reads one register only. -/
theorem yields_resetWait {rounds : ℕ} {tmp : UInt32} {talk : MiiTalk} {seen : Bool}
    (h : Yields (resetWait rounds tmp) talk seen) (madr : UInt32) :
    ∀ reading∈readings madr talk,reading.1=phyAddress lan8BcrReg := by
  induction rounds generalizing tmp talk madr with
  | zero =>
    obtain ⟨rfl,-⟩ := yields_pure.mp h
    exact fun _ hm => absurd hm List.not_mem_nil
  | succ rounds ih =>
    obtain ⟨_,_,_,rfl,hdelay,hround⟩ := yields_bind.mp h
    obtain rfl := yields_once.mp hdelay
    obtain ⟨first,result,rest,rfl,hread,hlast⟩ := yields_bind.mp hround
    have hfirst : ∀ reading∈readings madr first,reading.1=phyAddress lan8BcrReg := by
      intro reading hm
      obtain ⟨hnone,-⟩|hone := yields_lpcMiiRead hread madr
      · rw [hnone] at hm
        exact absurd hm List.not_mem_nil
      · rw [hone,List.mem_singleton] at hm
        rw [hm]
    have hrest : ∀ reading∈readings (lastMadr madr first) rest,
        reading.1=phyAddress lan8BcrReg := by
      split at hlast
      · obtain ⟨rfl,-⟩ := yields_pure.mp hlast
        exact fun _ hm => absurd hm List.not_mem_nil
      · split at hlast
        · obtain ⟨rfl,-⟩ := yields_pure.mp hlast
          exact fun _ hm => absurd hm List.not_mem_nil
        · exact ih hlast _
    intro reading hm
    change reading∈readings madr (first++rest) at hm
    rw [readings_append,List.mem_append] at hm
    exact hm.elim (hfirst reading) (hrest reading)

/-- Readings from other addresses do not count. -/
theorem lastWord_skip {address before : UInt32} {others all : List (UInt32 × UInt32)}
    (h : ∀ reading∈others,reading.1≠address) :
    lastWord address before (others++all)=lastWord address before all ∧
      lastWord address before (all++others)=lastWord address before all := by
  have hnone : (others.filter fun reading => reading.1=address)=[] :=
    List.filter_eq_nil_iff.mpr fun reading hm => by simpa using h reading hm
  unfold lastWord
  rw [List.filter_append,List.filter_append,hnone,List.nil_append,List.append_nil]
  exact ⟨rfl,rfl⟩

/-- A read decides the word of its own address. -/
theorem ReadsInto.lastWord {address before after : UInt32} {all : List (UInt32 × UInt32)}
    (h : ReadsInto address before all after) : lastWord address before all=after := by
  obtain ⟨rfl,rfl⟩|rfl := h
  · rfl
  · unfold PhyLink.lastWord
    simp

/-- A read leaves the words of other addresses. -/
theorem ReadsInto.others {address before after other : UInt32} {all : List (UInt32 × UInt32)}
    (h : ReadsInto address before all after) (hother : address≠other) :
    ∀ reading∈all,reading.1≠other := by
  intro reading hm
  obtain ⟨rfl,-⟩|rfl := h
  · exact absurd hm List.not_mem_nil
  · rw [List.mem_singleton.mp hm]
    exact hother

/-- The status words of a start are those of its last two reads, since its writes read
nothing and its wait reads another register. -/
theorem startWords_parts {tmp1 linksts sdsts : UInt32}
    {reset waiting setup linking speeding : MiiTalk}
    (hreset : ∀ madr,readings madr reset=[]) (hsetup : ∀ madr,readings madr setup=[])
    (hwaiting : ∀ madr,∀ reading∈readings madr waiting,reading.1=phyAddress lan8BcrReg)
    (hlink : ∀ madr,ReadsInto (phyAddress lan8BsrReg) lan8Setup (readings madr linking) linksts)
    (hspeed : ∀ madr,ReadsInto (phyAddress lan8PhysplctlReg) tmp1 (readings madr speeding) sdsts) :
    startWords tmp1 (reset++(waiting++(setup++(linking++speeding))))=(linksts,sdsts) := by
  have hother : ∀ address,phyAddress lan8BcrReg≠address → ∀ madr,
      ∀ reading∈readings madr waiting,reading.1≠address := by
    intro address hne madr reading hm
    rwa [hwaiting madr reading hm]
  unfold startWords
  simp only [readings_append,hreset,hsetup,List.nil_append]
  rw [(lastWord_skip (hother (phyAddress lan8BsrReg) (by decide) _)).1,
    (lastWord_skip (hother (phyAddress lan8PhysplctlReg) (by decide) _)).1,
    (lastWord_skip ((hspeed _).others (by decide))).2,
    (lastWord_skip ((hlink _).others (by decide))).1,(hlink _).lastWord,(hspeed _).lastWord]

/-- A start that succeeds ends with an update in which nothing counts as done,
for the status words it has read. -/
theorem yields_lpcPhyInit {tmp1 : UInt32} {phy phy' : Phy} {talk : MiiTalk}
    (h : Yields (lpcPhyInit tmp1 phy) talk (.ok,phy')) :
    phy'=(lpcUpdatePhySts (startWords tmp1 talk).1 (startWords tmp1 talk).2
      {phy with olddphysts := ⟨2,2,2⟩,phyustate := .request}).2 := by
  have herr : PhyErr.timeout≠.ok := by decide
  obtain ⟨reset,written,_,rfl,hreset,hafterReset⟩ := yields_bind.mp h
  split at hafterReset
  · exact absurd (congrArg Prod.fst (yields_pure.mp hafterReset).2) herr
  · obtain ⟨waiting,seen,_,rfl,hwaiting,hafterWait⟩ := yields_bind.mp hafterReset
    split at hafterWait
    · obtain ⟨setup,_,_,rfl,hsetup,hafterSetup⟩ := yields_bind.mp hafterWait
      obtain ⟨linking,linksts,_,rfl,hlinking,hafterLink⟩ := yields_bind.mp hafterSetup
      obtain ⟨speeding,sdsts,_,rfl,hspeeding,hdone⟩ := yields_bind.mp hafterLink
      obtain ⟨rfl,hresult⟩ := yields_pure.mp hdone
      rw [List.append_nil,startWords_parts (fun _ => yields_lpcMiiWrite hreset)
        (fun _ => yields_lpcMiiWrite hsetup) (yields_resetWait hwaiting)
        (yields_lpcMiiRead hlinking) (yields_lpcMiiRead hspeeding)]
      exact (Prod.mk.inj hresult).2.symm
    · exact absurd (congrArg Prod.fst (yields_pure.mp hafterWait).2) herr

/-! ## Runs -/

/-- The status words handed to `lpc_update_phy_sts` in a service call. -/
def handed (phy : Phy) (talk : MiiTalk) : List (UInt32 × UInt32) :=
  if phy.phyustate=.speed then (readings 0 talk).map fun reading => (phy.sts,reading.2) else []

/-- The port with what was read, updated and reported since the start. -/
structure Watch where
  /-- The port. -/
  port : Port
  /-- The address in `MADR`. -/
  madr : UInt32
  /-- What was read, with its addresses. -/
  readings : List (UInt32 × UInt32)
  /-- The status words of the updates. -/
  updates : List (UInt32 × UInt32)
  /-- Service calls that reported a change. -/
  changes : ℕ

/-- A service call with its conversation. -/
def watchStep (w : Watch) (talk : MiiTalk) (w' : Watch) : Prop :=
  ∃ changed port,Yields (servicePhy w.port) talk (changed,port) ∧
    w'=⟨port,lastMadr w.madr talk,w.readings++readings w.madr talk,
      w.updates++handed w.port.phy talk,w.changes+if changed then 1 else 0⟩

/-- The port behind its start, with the light off. -/
def Watch.start (phy : Phy) : Watch := ⟨⟨phy,false⟩,0,[],[],0⟩

/-- What holds between service calls. -/
structure Following (first : UInt32 × UInt32) (linkAtStart : Bool) (w : Watch) : Prop where
  /-- The fields noted as done. -/
  noted : Noted w.port.phy
  /-- The hardware stands as the last update demands. -/
  shown : ∃ pair,(first::w.updates).getLast?=some pair ∧
    Shows (statusOf pair.1 pair.2) w.port.phy.hardware
  /-- The link status is what is waited for. -/
  link : w.port.phy.phyustate=.link → w.madr=phyAddress lan8BsrReg
  /-- The link status was read last, and the speed is waited for. -/
  speed : w.port.phy.phyustate=.speed → w.madr=phyAddress lan8PhysplctlReg ∧
    ∃ earlier,w.readings=earlier++[(phyAddress lan8BsrReg,w.port.phy.sts)]
  /-- The light shows the link once a change was reported. -/
  light : 0<w.changes → w.port.green=w.port.phy.hardware.linkUp
  /-- Until a change is reported the light and the link are as at the start. -/
  dark : w.changes=0 → w.port.green=false ∧ w.port.phy.hardware.linkUp=linkAtStart

/-- A service call is one call of the state machine, and sets the light when it
reports a change. -/
theorem watchStep_polled {w w' : Watch} {talk : MiiTalk} (h : watchStep w talk w') :
    ∃ changed phy,Polled w.port.phy talk (changed,phy) ∧
      w'=⟨⟨phy,if changed then phy.hardware.linkUp else w.port.green⟩,lastMadr w.madr talk,
        w.readings++readings w.madr talk,w.updates++handed w.port.phy talk,
        w.changes+if changed then 1 else 0⟩ := by
  obtain ⟨changed,port,hyields,rfl⟩ := h
  obtain ⟨_,result,_,rfl,hpolled,hdone⟩ := yields_bind.mp hyields
  obtain ⟨rfl,hresult⟩ := yields_pure.mp hdone
  obtain ⟨rfl,rfl⟩ := Prod.mk.inj hresult
  rw [List.append_nil]
  exact ⟨result.1,result.2,yields_lpcPhyStsSm hpolled,rfl⟩

/-- A service call hands over nothing, or the link status read before and the speed it
has just read. -/
theorem handed_of_polled {first : UInt32 × UInt32} {linkAtStart : Bool} {w : Watch} {talk : MiiTalk}
    {result : Bool × Phy} (h : Following first linkAtStart w)
    (hpolled : Polled w.port.phy talk result) :
    handed w.port.phy talk=[] ∨ ∃ earlier linksts sdsts,handed w.port.phy talk=[(linksts,sdsts)] ∧
      w.readings++readings w.madr talk=
        earlier++[(phyAddress lan8BsrReg,linksts),(phyAddress lan8PhysplctlReg,sdsts)] := by
  cases hpolled with
  | requested hstage =>
    refine .inl (if_neg ?_)
    rw [hstage]
    decide
  | waited hstage hbusy =>
    left
    unfold handed
    split_ifs <;> rfl
  | linked hstage hidle =>
    refine .inl (if_neg ?_)
    rw [hstage]
    decide
  | @updated mind sdsts hstage hidle =>
    obtain ⟨hmadr,earlier,hreadings⟩ := h.speed hstage
    refine .inr ⟨earlier,w.port.phy.sts,sdsts,if_pos hstage,?_⟩
    rw [hreadings,hmadr,List.append_assoc]
    rfl

/-- A service call without an update keeps what holds between the calls. -/
theorem Following.quiet {first : UInt32 × UInt32} {linkAtStart : Bool} {w : Watch} {phy : Phy}
    {madr : UInt32} {all : List (UInt32 × UInt32)} (h : Following first linkAtStart w)
    (hnoted : phy.olddphysts=w.port.phy.olddphysts) (hhardware : phy.hardware=w.port.phy.hardware)
    (hlink : phy.phyustate=.link → madr=phyAddress lan8BsrReg)
    (hspeed : phy.phyustate=.speed → madr=phyAddress lan8PhysplctlReg ∧
      ∃ earlier,all=earlier++[(phyAddress lan8BsrReg,phy.sts)]) :
    Following first linkAtStart ⟨⟨phy,w.port.green⟩,madr,all,w.updates,w.changes⟩ := by
  obtain ⟨hspeedNoted,hduplexNoted,hlinkNoted⟩ := h.noted
  refine ⟨⟨?_,?_,?_⟩,?_,hlink,hspeed,?_,?_⟩
  · rwa [FieldNoted,hnoted,hhardware]
  · rwa [FieldNoted,hnoted,hhardware]
  · rwa [FieldNoted,hnoted,hhardware]
  · rw [hhardware]
    exact h.shown
  · rw [hhardware]
    exact h.light
  · rw [hhardware]
    exact h.dark

/-- A service call with an update keeps what holds between the calls. -/
theorem Following.updated {first : UInt32 × UInt32} {linkAtStart : Bool} {w : Watch}
    {update : Bool × Phy} {linksts sdsts madr : UInt32} {all : List (UInt32 × UInt32)}
    (h : Following first linkAtStart w) (hshows : Shows (statusOf linksts sdsts) update.2.hardware)
    (hnoted : Noted update.2)
    (hunchanged : update.1=false → update.2.hardware=w.port.phy.hardware) :
    Following first linkAtStart
      ⟨⟨{update.2 with phyustate := .request},
        if update.1 then update.2.hardware.linkUp else w.port.green⟩,
        madr,all,w.updates++[(linksts,sdsts)],w.changes+if update.1 then 1 else 0⟩ := by
  obtain ⟨changed,phy⟩ := update
  refine ⟨⟨hnoted.speed,hnoted.duplex,hnoted.link⟩,⟨(linksts,sdsts),?_,hshows⟩,?_,?_,?_,?_⟩
  · rw [←List.cons_append,List.getLast?_concat]
  · rintro ⟨⟩
  · rintro ⟨⟩
  · intro hreported
    cases changed with
    | true => rfl
    | false => exact (h.light hreported).trans (congrArg Hardware.linkUp (hunchanged rfl)).symm
  · intro hsilent
    cases changed with
    | true => exact absurd hsilent (Nat.succ_ne_zero _)
    | false =>
      obtain ⟨hgreen,hlink⟩ := h.dark hsilent
      exact ⟨hgreen,(congrArg Hardware.linkUp (hunchanged rfl)).trans hlink⟩

/-- Every service call keeps what holds between the calls. -/
theorem Following.step {first : UInt32 × UInt32} {linkAtStart : Bool} {w w' : Watch}
    {talk : MiiTalk} (h : Following first linkAtStart w) (hstep : watchStep w talk w') :
    Following first linkAtStart w' := by
  obtain ⟨changed,phy,hpolled,rfl⟩ := watchStep_polled hstep
  have hnone : handed w.port.phy talk=[] → w.updates++handed w.port.phy talk=w.updates :=
    fun hempty => by rw [hempty,List.append_nil]
  generalize hresult : (changed,phy)=result at hpolled
  cases hpolled with
  | requested hstage =>
    obtain ⟨rfl,rfl⟩ := Prod.mk.inj hresult
    rw [hnone (if_neg (by rw [hstage]; decide))]
    refine h.quiet rfl rfl (fun _ => rfl) ?_
    rintro ⟨⟩
  | waited hstage hbusy =>
    obtain ⟨rfl,rfl⟩ := Prod.mk.inj hresult
    rw [hnone (by unfold handed; split_ifs <;> rfl)]
    refine h.quiet rfl rfl h.link fun hspeed => ?_
    obtain ⟨hmadr,earlier,hreadings⟩ := h.speed hspeed
    exact ⟨hmadr,earlier,(List.append_nil _).trans hreadings⟩
  | linked hstage hidle =>
    obtain ⟨rfl,rfl⟩ := Prod.mk.inj hresult
    rw [hnone (if_neg (by rw [hstage]; decide))]
    refine h.quiet rfl rfl ?_ fun _ => ⟨rfl,w.readings,?_⟩
    · rintro ⟨⟩
    · rw [←h.link hstage]
      rfl
  | @updated mind sdsts hstage hidle =>
    obtain ⟨rfl,rfl⟩ := Prod.mk.inj hresult
    have hhanded : handed w.port.phy [⟨.mind,mind⟩,⟨.mrdd,sdsts⟩,⟨.setMcmd 0,()⟩]=
        [(w.port.phy.sts,sdsts)] := if_pos hstage
    rw [hhanded]
    obtain ⟨hshows,hnoted⟩ := lpcUpdatePhySts_shows h.noted w.port.phy.sts sdsts
    have hunchanged := @lpcUpdatePhySts_unchanged w.port.phy w.port.phy.sts sdsts
    generalize lpcUpdatePhySts w.port.phy.sts sdsts w.port.phy=update at hshows hnoted hunchanged ⊢
    exact h.updated hshows hnoted hunchanged

/-- Behind a start the service follows the words the start has read. -/
theorem following_start {tmp1 : UInt32} {phy phy' : Phy} {talk : MiiTalk}
    (h : Yields (lpcPhyInit tmp1 phy) talk (.ok,phy')) :
    Following (startWords tmp1 talk) phy'.hardware.linkUp (Watch.start phy') := by
  have hphy := yields_lpcPhyInit h
  have hundone : Noted {phy with olddphysts := ⟨2,2,2⟩,phyustate := .request} :=
    ⟨fun hdone => absurd rfl hdone,fun hdone => absurd rfl hdone,fun hdone => absurd rfl hdone⟩
  obtain ⟨hshows,hnoted⟩ := lpcUpdatePhySts_shows hundone (startWords tmp1 talk).1
    (startWords tmp1 talk).2
  have hstage := lpcUpdatePhySts_phyustate (startWords tmp1 talk).1 (startWords tmp1 talk).2
    {phy with olddphysts := ⟨2,2,2⟩,phyustate := .request}
  rw [←hphy] at hshows hnoted hstage
  have hrequest : phy'.phyustate=.request := hstage
  refine ⟨hnoted,⟨_,rfl,hshows⟩,fun hlink => ?_,fun hspeed => ?_,
    fun hreported => absurd hreported (Nat.lt_irrefl 0),fun _ => ⟨rfl,rfl⟩⟩
  · exact absurd (hrequest.symm.trans hlink) (by decide)
  · exact absurd (hrequest.symm.trans hspeed) (by decide)

/-- Behind every successful start and in every run of the service, whatever the
management interface answers: the hardware stands as the status words of the
last update demand, before the first update of the service as those the start
has read, and the words of every update of the service are the last two that
were read, the link status and then the speed. -/
theorem hardware_follows_status (tmp1 : UInt32) (phy phy' : Phy) (talk : MiiTalk)
    (hinit : Yields (lpcPhyInit tmp1 phy) talk (.ok,phy')) :
    ∀ ts w,Path watchStep (Watch.start phy') ts w →
      (∃ pair,(startWords tmp1 talk::w.updates).getLast?=some pair ∧
        Shows (statusOf pair.1 pair.2) w.port.phy.hardware) ∧
      ∀ t∈ts,t.after.updates=t.before.updates ∨
        ∃ earlier linksts sdsts,t.after.updates=t.before.updates++[(linksts,sdsts)] ∧
          t.after.readings=
            earlier++[(phyAddress lan8BsrReg,linksts),(phyAddress lan8PhysplctlReg,sdsts)] := by
  have hstart := following_start hinit
  have hkeep : ∀ w talk' w',Following (startWords tmp1 talk) phy'.hardware.linkUp w →
      watchStep w talk' w' → Following (startWords tmp1 talk) phy'.hardware.linkUp w' :=
    fun _ _ _ h hstep => h.step hstep
  intro ts w hp
  refine ⟨(hp.invariant hstart hkeep).shown,fun t ht => ?_⟩
  have hbefore := (hp.invariant_transitions hstart hkeep t ht).1
  obtain ⟨changed,port,hpolled,hafter⟩ := watchStep_polled (hp.steps t ht)
  rw [hafter]
  obtain hnone|⟨earlier,linksts,sdsts,hhanded,hreadings⟩ := handed_of_polled hbefore hpolled
  · left
    change t.before.updates++handed _ _=_
    rw [hnone,List.append_nil]
  · right
    refine ⟨earlier,linksts,sdsts,?_,hreadings⟩
    change t.before.updates++handed _ _=_
    rw [hhanded]

/-- A management interface that is never busy, with the values of its registers. -/
def prompt : (access : Mii) → List UInt32 → access.Answer × List UInt32
  | .setMadr _,values => ((),values)
  | .setMwtd _,values => ((),values)
  | .setMcmd _,values => ((),values)
  | .mind,values => (0,values)
  | .mrdd,values => (values.headD 0,values.tail)
  | .delay,values => ((),values)

/-- The driver before its start. -/
def coldPhy : Phy := ⟨⟨0,0,0⟩,⟨0,0,0⟩,.request,0,⟨0,0,0,0,false⟩⟩

/-- The driver after a start with the link up. -/
def linkedPhy : Phy := ⟨⟨1,1,1⟩,⟨1,1,1⟩,.request,0,⟨0x100,1,0x400,0x15,true⟩⟩

/-- A start finds the link up and has read the two words that say so. -/
theorem linkedPhy_started : ∃ talk,Yields (lpcPhyInit 0 coldPhy) talk (.ok,linkedPhy) ∧
    startWords 0 talk=(0x4,0x18) := by
  have hrun : (lpcPhyInit 0 coldPhy).run prompt [0x3100,0x4,0x18]=some ((.ok,linkedPhy),[]) := rfl
  exact ⟨_,run_yields hrun,by decide +kernel⟩

/-- A service call at an interface that is never busy, with the words it answers. -/
def play (w : Watch) (values : List UInt32) : Option (MiiTalk × Watch) :=
  ((servicePhy w.port).run prompt values).map fun result =>
    let talk := (servicePhy w.port).transcript prompt values
    (talk,⟨result.1.2,lastMadr w.madr talk,w.readings++readings w.madr talk,
      w.updates++handed w.port.phy talk,w.changes+if result.1.1 then 1 else 0⟩)

/-- A service call at an interface that is never busy is a step of a run. -/
theorem play_step {w w' : Watch} {values : List UInt32} {talk : MiiTalk}
    (h : play w values=some (talk,w')) : watchStep w talk w' := by
  obtain ⟨⟨⟨changed,port⟩,rest⟩,hrun,heq⟩ := Option.map_eq_some_iff.mp h
  obtain ⟨rfl,rfl⟩ := Prod.mk.inj heq
  exact ⟨changed,port,run_yields hrun,rfl⟩

/-- The words of three service calls that find the link as it was. -/
def sameLink : List (List UInt32) := [[],[0x4],[0x18]]

/-- The words of three service calls that find the link lost. -/
def lostLink : List (List UInt32) := [[],[0x0],[0x18]]

/-- A link that is up at the start, found so once by the service and then lost:
the hardware follows both updates. -/
theorem hardware_follows_lost_link : ∃ talk ts w,
    Yields (lpcPhyInit 0 coldPhy) talk (.ok,linkedPhy) ∧ startWords 0 talk=(0x4,0x18) ∧
    Path watchStep (Watch.start linkedPhy) ts w ∧ w.updates=[(0x4,0x18),(0x0,0x18)] ∧
    w.port.phy.hardware.linkUp=false ∧
    (∃ pair,(startWords 0 talk::w.updates).getLast?=some pair ∧
      Shows (statusOf pair.1 pair.2) w.port.phy.hardware) ∧
    ∀ t∈ts,t.after.updates=t.before.updates ∨
      ∃ earlier linksts sdsts,t.after.updates=t.before.updates++[(linksts,sdsts)] ∧
        t.after.readings=
          earlier++[(phyAddress lan8BsrReg,linksts),(phyAddress lan8PhysplctlReg,sdsts)] := by
  have hrun : (traceOf play (Watch.start linkedPhy) (sameLink++lostLink)).any (fun run =>
      run.2.updates=[(0x4,0x18),(0x0,0x18)] ∧ run.2.port.phy.hardware.linkUp=false)=true := by
    decide +kernel
  obtain ⟨⟨ts,w⟩,htrace,hend⟩ := (Option.any_eq_true _ _).mp hrun
  obtain ⟨hupdates,hdown⟩ := of_decide_eq_true hend
  have hpath : Path watchStep (Watch.start linkedPhy) ts w :=
    path_of_trace (fun _ _ _ _ => play_step) htrace
  obtain ⟨talk,hinit,hwords⟩ := linkedPhy_started
  exact ⟨talk,ts,w,hinit,hwords,hpath,hupdates,hdown,
    hardware_follows_status 0 coldPhy linkedPhy talk hinit ts w hpath⟩

/-- Behind every successful start and in every run of the service, the light
shows the link if and only if a change was reported since or the link was down
at the start: a link that is up at the start is not shown until something
changes. -/
theorem light_shows_link_iff (tmp1 : UInt32) (phy phy' : Phy) (talk : MiiTalk)
    (hinit : Yields (lpcPhyInit tmp1 phy) talk (.ok,phy')) (ts : List (Transition Watch MiiTalk))
    (w : Watch) (hp : Path watchStep (Watch.start phy') ts w) :
    w.port.green=w.port.phy.hardware.linkUp ↔ 0<w.changes ∨ phy'.hardware.linkUp=false := by
  have hend := hp.invariant (following_start hinit) fun _ _ _ h hstep => h.step hstep
  obtain hnone|hsome := Nat.eq_zero_or_pos w.changes
  · obtain ⟨hgreen,hlink⟩ := hend.dark hnone
    rw [hgreen,hlink,hnone]
    exact ⟨fun hdown => .inr hdown.symm,fun hor => (hor.resolve_left (Nat.lt_irrefl 0)).symm⟩
  · exact ⟨fun _ => .inl hsome,fun _ => hend.light hsome⟩

/-- A link that is up at the start and stays so is not shown after an update;
the loss of the link is. -/
theorem light_off_with_link_up : ∃ talk ts w ts' w',
    Yields (lpcPhyInit 0 coldPhy) talk (.ok,linkedPhy) ∧
    Path watchStep (Watch.start linkedPhy) ts w ∧ w.updates=[(0x4,0x18)] ∧
    w.port.phy.hardware.linkUp=true ∧ w.port.green=false ∧
    (w.port.green=w.port.phy.hardware.linkUp ↔ 0<w.changes ∨ linkedPhy.hardware.linkUp=false) ∧
    Path watchStep (Watch.start linkedPhy) ts' w' ∧ w'.changes=1 ∧
    (w'.port.green=w'.port.phy.hardware.linkUp ↔
      0<w'.changes ∨ linkedPhy.hardware.linkUp=false) := by
  have hsame : (traceOf play (Watch.start linkedPhy) sameLink).any (fun run =>
      run.2.updates=[(0x4,0x18)] ∧ run.2.port.phy.hardware.linkUp=true ∧
        run.2.port.green=false)=true := by
    decide +kernel
  have hlost : (traceOf play (Watch.start linkedPhy) (sameLink++lostLink)).any
      (fun run => run.2.changes=1)=true := by
    decide +kernel
  obtain ⟨⟨ts,w⟩,htrace,hend⟩ := (Option.any_eq_true _ _).mp hsame
  obtain ⟨hupdates,hup,hdark⟩ := of_decide_eq_true hend
  obtain ⟨⟨ts',w'⟩,htrace',hend'⟩ := (Option.any_eq_true _ _).mp hlost
  have hpath : Path watchStep (Watch.start linkedPhy) ts w :=
    path_of_trace (fun _ _ _ _ => play_step) htrace
  have hpath' : Path watchStep (Watch.start linkedPhy) ts' w' :=
    path_of_trace (fun _ _ _ _ => play_step) htrace'
  obtain ⟨talk,hinit,-⟩ := linkedPhy_started
  exact ⟨talk,ts,w,ts',w',hinit,hpath,hupdates,hup,hdark,
    light_shows_link_iff 0 coldPhy linkedPhy talk hinit ts w hpath,hpath',of_decide_eq_true hend',
    light_shows_link_iff 0 coldPhy linkedPhy talk hinit ts' w' hpath'⟩

end VlfGateway.PhyLink
