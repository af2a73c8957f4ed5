import VlfGateway.SdSpi
import VlfGateway.SdRegister

/-!
# Bringing the card up

The driver clocks the card with its select line released, puts it into its
idle state, asks for its version and repeats the initialisation command until
the card is ready; then it reads the register with the card's size and sets
the block length. Whatever the peripheral does, the select line is released
at the end. The version command looks for its answer in the wrong element of
a five octet array.
-/

namespace VlfGateway.SdStartup

open SpiBus SdSpi
open SdCard (sdCommandTimeout)

/-- `SDCARD_*`, the outcomes of the initialisation that the driver has. -/
inductive CardKind
  /-- `SDCARD_FAIL`. -/
  | fail
  /-- `SDCARD_V1`. -/
  | v1
  /-- `SDCARD_V2`. -/
  | v2
  deriving DecidableEq

/-- What `_cmd8` leaves behind. -/
structure VersionReport (σ : Type) where
  /-- Its return value. -/
  result : ℤ
  /-- Octets stored beyond the end of its array, with their indices. -/
  stray : List (ℕ×UInt8)
  /-- The bus. -/
  bus : Bus σ

section Driver

variable {σ : Type} (d : Device σ)

/-- `_cmd58`: the register that follows the response is read and dropped. -/
def cmd58 (bus : Bus σ) : ℤ×Bus σ :=
  match command d sdCommandTimeout (commandOctets 58 0 0x95) bus with
  | (some (_,response),bus) => (response.toNat,finish d (receive d 0xFF bus 4).2)
  | (none,bus) => (-1,finish d bus)

/-- `_cmd8`. The four octets after the response are all stored at the index
of the poll that brought the response, and element zero is returned. -/
def cmd8 (bus : Bus σ) : VersionReport σ :=
  match command d (sdCommandTimeout*1000) [0x40 ||| 8,0x00,0x00,0x01,0xAA,0x87] bus with
  | (some (i,response),bus) =>
    let read := receive d 0xFF bus 4
    let array := read.1.foldl (fun array octet => array.set i octet) [response,0,0,0,0]
    ⟨(array.headD 0).toNat,if i<5 then [] else read.1.map fun octet => (i,octet),finish d read.2⟩
  | (none,bus) => ⟨-1,[],finish d bus⟩

/-- The attempts of `initialise_card_v1` that are left. -/
def initialiseV1 : ℕ → Bus σ → CardKind×Bus σ
  | 0,bus => (.fail,bus)
  | attempts+1,bus =>
    let ready := cmd d 41 0 (cmd d 55 0 bus).2
    if ready.1=0 then (.v1,ready.2) else initialiseV1 attempts ready.2

/-- The attempts of `initialise_card_v2` that are left. -/
def initialiseV2 : ℕ → Bus σ → CardKind×Bus σ
  | 0,bus => (.fail,bus)
  | attempts+1,bus =>
    let ready := cmd d 41 0x40000000 (cmd d 55 0 (cmd58 d bus).2).2
    if ready.1=0 then (.v2,(cmd58 d ready.2).2) else initialiseV2 attempts ready.2

/-- `initialise_card_v1`. -/
def initialiseCardV1 (bus : Bus σ) : CardKind×Bus σ := initialiseV1 d sdCommandTimeout bus

/-- `initialise_card_v2`. -/
def initialiseCardV2 (bus : Bus σ) : CardKind×Bus σ := initialiseV2 d sdCommandTimeout bus

/-- The loop around CMD0: the value of `i` after it, counted down from five. -/
def goIdle : ℕ → Bus σ → ℕ×Bus σ
  | 0,bus => (0,(cmd d 0 0 bus).2)
  | left+1,bus =>
    let idle := cmd d 0 0 bus
    if idle.1≠1 then goIdle left idle.2 else (left+1,idle.2)

/-- `initialise_card`. -/
def initialiseCard (bus : Bus σ) : CardKind×Bus σ :=
  let clocked := send d (bus.disable d) (List.replicate 16 0xFF)
  let idle := goIdle d 5 clocked
  if idle.1=0 then (.fail,idle.2)
  else
    let version := cmd8 d idle.2
    if version.result=1 then initialiseCardV2 d version.bus
    else if version.result=5 then initialiseCardV1 d version.bus
    else (.fail,version.bus)

/-- `_sd_sectors`. -/
def sdSectors (fuel : ℕ) (bus : Bus σ) : Option (UInt64×Bus σ) :=
  let asked := cmdx d 9 0 bus
  if asked.1≠0 then some (0,asked.2)
  else (blockRead d fuel (List.replicate 16 0) 16 asked.2).map fun read =>
    (SdRegister.sectorsOf read.1,read.2)

/-- `disk_initialize`: the return code, the sector count and the bus. What
`initialise_card` says is only printed. -/
def diskInitialize (fuel : ℕ) (bus : Bus σ) : Option ((ℕ×UInt64)×Bus σ) :=
  (sdSectors d fuel (initialiseCard d bus).2).map fun counted =>
    let length := cmd d 16 512 counted.2
    ((if length.1≠0 then 1 else 0,counted.1),length.2)

/-- Every exchange ends with the select line released. -/
@[simp] theorem finish_released (bus : Bus σ) : (finish d bus).selected=false :=
  exchange_keeps_line d 0xFF (bus.disable d)

/-- `_cmd` releases the card, answered or not. -/
@[simp] theorem cmd_released (index : UInt8) (arg : UInt32) (bus : Bus σ) :
    (cmd d index arg bus).2.selected=false := by
  unfold cmd
  split <;> exact finish_released d _

/-- A block read that ends has released the card. -/
theorem blockRead_released {fuel : ℕ} {buffer : List UInt8} {length : ℕ} {bus : Bus σ}
    {read : List UInt8×Bus σ} (h : blockRead d fuel buffer length bus=some read) :
    read.2.selected=false := by
  unfold blockRead at h
  split at h
  · cases h
  · obtain rfl := Option.some.inj h
    exact finish_released d _

/-- A block write that ends has released the card. -/
theorem blockWrite_released {fuel : ℕ} {buffer : List UInt8} {length : ℕ} {bus : Bus σ}
    {written : ℕ×Bus σ} (h : blockWrite d fuel buffer length bus=some written) :
    written.2.selected=false := by
  unfold blockWrite at h
  simp only at h
  split at h
  · split at h
    · cases h
    · obtain rfl := Option.some.inj h
      exact finish_released d _
  · obtain rfl := Option.some.inj h
    exact finish_released d _

/-- Whatever the peripheral does, a call of the block interface that returns
leaves the select line released if it was released before, and
`disk_initialize` leaves it released in any case. -/
theorem select_line_released (fuel : ℕ) (bus : Bus σ) :
    (∀ started,diskInitialize d fuel bus=some started → started.2.selected=false) ∧
    (bus.selected=false → ∀ call done,DiskCall.overBus d fuel bus call=some done →
      done.2.selected=false) := by
  constructor
  · intro started h
    unfold diskInitialize at h
    obtain ⟨counted,_,rfl⟩ := Option.map_eq_some_iff.mp h
    exact cmd_released d _ _ _
  · intro hbus call done h
    cases call with
    | write buffer length block =>
      obtain ⟨written,hw,rfl⟩ := Option.map_eq_some_iff.mp h
      unfold diskWrite at hw
      split at hw
      · obtain rfl := Option.some.inj hw
        exact hbus
      · split at hw
        · obtain rfl := Option.some.inj hw
          exact hbus
        · simp only at hw
          split at hw
          · obtain rfl := Option.some.inj hw
            exact cmd_released d _ _ _
          · obtain ⟨block,hblock,rfl⟩ := Option.map_eq_some_iff.mp hw
            exact blockWrite_released d hblock
    | read buffer length block =>
      unfold DiskCall.overBus diskRead at h
      simp only at h
      split at h
      · obtain rfl := Option.some.inj h
        exact hbus
      · split at h
        · obtain rfl := Option.some.inj h
          exact hbus
        · split at h
          · obtain rfl := Option.some.inj h
            exact cmd_released d _ _ _
          · obtain ⟨block,hblock,rfl⟩ := Option.map_eq_some_iff.mp h
            exact blockRead_released d hblock

end Driver

/-- A card of high capacity that needs two commands to go idle and two rounds
to become ready. -/
def wakingMake : Make :=
  ⟨.blocks,1024,0x40::List.replicate 15 0x00,
    fun k => ⟨2,if k=0 then 0 else if k≤5 then 1 else 0,1,0xFE,(0x00,0x00),0x05,0⟩⟩

/-- The waking card is brought up with its select line asserted at first, then
a block is written and read back. The line is released after each of the three. -/
theorem select_line_released_on_waking_card :
    ∃ started written read,
      diskInitialize wakingMake.device 4 ⟨DiskCall.clearedLink,true⟩=some started ∧
      started.2.selected=false ∧
      DiskCall.overBus wakingMake.device 4 started.2 (.write [1,2,3] 3 1)=some written ∧
      written.2.selected=false ∧
      DiskCall.overBus wakingMake.device 4 written.2 (.read [0,0,0] 3 1)=some read ∧
      read.1=(0,[1,2,3]) ∧ read.2.selected=false := by
  have hrun : ((diskInitialize wakingMake.device 4 ⟨DiskCall.clearedLink,true⟩).bind fun started =>
      (DiskCall.overBus wakingMake.device 4 started.2 (.write [1,2,3] 3 1)).bind fun written =>
        (DiskCall.overBus wakingMake.device 4 written.2 (.read [0,0,0] 3 1)).map Prod.fst)=
      some (0,[1,2,3]) := by
    decide +kernel
  obtain ⟨started,hstarted,hrest⟩ := Option.bind_eq_some_iff.mp hrun
  obtain ⟨written,hwritten,hlast⟩ := Option.bind_eq_some_iff.mp hrest
  obtain ⟨read,hread,hresult⟩ := Option.map_eq_some_iff.mp hlast
  have hreleased := (select_line_released wakingMake.device 4 ⟨DiskCall.clearedLink,true⟩).1
    started hstarted
  have hafter := (select_line_released wakingMake.device 4 started.2).2 hreleased _ written hwritten
  exact ⟨started,written,read,hstarted,hreleased,hwritten,hafter,hread,hresult,
    (select_line_released wakingMake.device 4 written.2).2 hafter _ read hread⟩

/-- The same card some commands later. -/
def later (link : Link) (commands : ℕ) : Link := {link with served := link.served+commands}

/-- An idle card is idle later on. -/
theorem later_idle {link : Link} (h : link.Idle) (commands : ℕ) : (later link commands).Idle :=
  ⟨h.silent,h.awaiting⟩

/-- Commands add up. -/
theorem later_later (link : Link) (first second : ℕ) :
    later (later link first) second=later link (first+second) := by
  unfold later
  rw [Nat.add_assoc]

section Card

variable (make : Make) {link : Link} (hlink : link.Idle)

include hlink

/-- A command without data is answered and leaves the card idle. -/
theorem cmd_plain (hp : make.Answers link.served) {index : UInt8}
    (hx : index∈[0,16,41,55]) (arg : UInt32) (line : Bool) :
    cmd make.device index arg ⟨link,line⟩=
      (((make.manner link.served).response.toNat : ℤ),⟨later link 1,false⟩) := by
  have hobey : make.obey link index.toNat arg.toNat=
      {later link 1 with outgoing := make.answer link.served (make.manner link.served).response []} := by
    obtain ⟨page,served,outgoing,intake⟩ := link
    obtain rfl : intake=.command [] := hlink.awaiting
    fin_cases hx <;> rfl
  have hsmall : index<64 := by
    fin_cases hx <;> decide
  have ho := congrArg Link.outgoing hobey
  rw [make.cmd_answered hlink hsmall arg ho hp.wait hp.response line,hobey]
  unfold later
  rw [←hlink.silent]

/-- `_cmd58` is answered and leaves the card idle. -/
theorem cmd58_plain (hp : make.Answers link.served) (line : Bool) :
    cmd58 make.device ⟨link,line⟩=
      (((make.manner link.served).response.toNat : ℤ),⟨later link 1,false⟩) := by
  have hobey : make.obey link (58 : UInt8).toNat (0 : UInt32).toNat={later link 1 with
      outgoing := make.answer link.served (make.manner link.served).response
        [0xC0,0xFF,0x80,0x00]} := by
    obtain ⟨page,served,outgoing,intake⟩ := link
    obtain rfl : intake=.command [] := hlink.awaiting
    rfl
  have ho := congrArg Link.outgoing hobey
  have hrun := make.run_outgoing {later link 1 with outgoing := [0xC0,0xFF,0x80,0x00]}
    [0xC0,0xFF,0x80,0x00] [] (List.replicate 4 0xFF) rfl rfl
  unfold cmd58
  rw [make.command_answered hlink (by decide) 0 0x95 ho hp.wait hp.response line,hobey]
  simp only
  rw [receive_selected,hrun]
  unfold later
  rw [←hlink.silent]
  rfl

/-- What `_cmd8` makes of the card's answer. -/
theorem cmd8_answered (hw : (make.manner link.served).wait < sdCommandTimeout*1000)
    (hr : isResponse (make.manner link.served).response=true) (line : Bool) :
    cmd8 make.device ⟨link,line⟩=
      ⟨if (make.manner link.served).wait=0 then 0xAA else (make.manner link.served).response.toNat,
        if (make.manner link.served).wait<5 then []
        else [0x00,0x00,0x01,0xAA].map fun octet => ((make.manner link.served).wait,octet),
        ⟨later link 1,false⟩⟩ := by
  have hobey : make.obey link (8 : UInt8).toNat (0x1AA : UInt32).toNat={later link 1 with
      outgoing := make.answer link.served (make.manner link.served).response
        [0x00,0x00,0x01,0xAA]} := by
    obtain ⟨page,served,outgoing,intake⟩ := link
    obtain rfl : intake=.command [] := hlink.awaiting
    rfl
  have ho := congrArg Link.outgoing hobey
  have hrun := make.run_outgoing {later link 1 with outgoing := [0x00,0x00,0x01,0xAA]}
    [0x00,0x00,0x01,0xAA] [] (List.replicate 4 0xFF) rfl rfl
  have hend : finish make.device ⟨{later link 1 with outgoing := []},true⟩=⟨later link 1,false⟩ := by
    unfold later
    rw [←hlink.silent]
    rfl
  unfold cmd8
  rw [show [0x40 ||| 8,0x00,0x00,0x01,0xAA,0x87]=commandOctets 8 0x1AA 0x87 by decide,
    make.command_answered hlink (by decide) 0x1AA 0x87 ho hw hr line,hobey]
  simp only
  rw [receive_selected,hrun]
  simp only [hend]
  -- The stores reach element zero exactly when the response came with the first poll.
  cases (make.manner link.served).wait <;> rfl

/-- The card goes idle at one of the first five commands that ask for it. -/
theorem goIdle_settles (hp : ∀ k,make.Answers k) {left first : ℕ} (hl : first<left)
    (hbefore : ∀ j<first,(make.manner (link.served+j)).response≠1)
    (hfirst : (make.manner (link.served+first)).response=1) :
    goIdle make.device left ⟨link,false⟩=(left-first,⟨later link (first+1),false⟩) := by
  induction first generalizing link left with
  | zero =>
    obtain ⟨rest,rfl⟩ := Nat.exists_eq_add_one_of_ne_zero (by omega : left≠0)
    rw [goIdle,cmd_plain make hlink (hp _) (by decide) 0 false]
    simp only
    rw [Nat.add_zero] at hfirst
    rw [hfirst,if_neg (by decide),Nat.sub_zero]
  | succ first ih =>
    obtain ⟨rest,rfl⟩ := Nat.exists_eq_add_one_of_ne_zero (by omega : left≠0)
    have hzero := hbefore 0 (by omega)
    have hne : ((make.manner link.served).response.toNat : ℤ)≠1 := by
      intro he
      apply hzero
      rw [Nat.add_zero]
      apply UInt8.toNat_inj.mp
      exact_mod_cast he
    have hrec := ih (later_idle hlink 1) (by omega : first < rest)
      (fun j hj => by
        have h := hbefore (j+1) (by omega)
        rwa [show link.served+(j+1)=(later link 1).served+j by unfold later; simp only; omega] at h)
      (by
        rwa [show link.served+(first+1)=(later link 1).served+first by
          unfold later; simp only; omega] at hfirst)
    rw [goIdle,cmd_plain make hlink (hp _) (by decide) 0 false]
    simp only
    rw [if_pos hne,hrec,later_later]
    congr 1
    · omega
    · rw [Nat.add_comm 1]

/-- The card leaves its idle state at one of the attempts of the loop. -/
theorem initialiseV2_ready (hp : ∀ k,make.Answers k) {attempts ready : ℕ} (hl : ready<attempts)
    (hbefore : ∀ j < ready,(make.manner (link.served+3*j+2)).response≠0)
    (hready : (make.manner (link.served+3*ready+2)).response=0) :
    initialiseV2 make.device attempts ⟨link,false⟩=(.v2,⟨later link (3*ready+4),false⟩) := by
  have hround : ∀ {l : Link},l.Idle →
      cmd make.device 41 0x40000000 (cmd make.device 55 0 (cmd58 make.device ⟨l,false⟩).2).2=
        (((make.manner (l.served+2)).response.toNat : ℤ),⟨later l 3,false⟩) := by
    intro l hidle
    rw [cmd58_plain make hidle (hp _),cmd_plain make (later_idle hidle 1) (hp _) (by decide),
      later_later,cmd_plain make (later_idle hidle 2) (hp _) (by decide),later_later]
    rfl
  induction ready generalizing link attempts with
  | zero =>
    obtain ⟨rest,rfl⟩ := Nat.exists_eq_add_one_of_ne_zero (by omega : attempts≠0)
    rw [Nat.mul_zero,Nat.add_zero] at hready
    rw [initialiseV2,hround hlink]
    simp only
    rw [hready,if_pos (by decide),cmd58_plain make (later_idle hlink 3) (hp _),later_later]
  | succ ready ih =>
    obtain ⟨rest,rfl⟩ := Nat.exists_eq_add_one_of_ne_zero (by omega : attempts≠0)
    have hzero := hbefore 0 (by omega)
    rw [Nat.mul_zero,Nat.add_zero] at hzero
    have hne : ¬((make.manner (link.served+2)).response.toNat : ℤ)=0 :=
      (Make.response_toNat_ne_zero _).mpr hzero
    have hrec := ih (later_idle hlink 3) (by omega : ready < rest)
      (fun j hj => by
        have h := hbefore (j+1) (by omega)
        rwa [show link.served+3*(j+1)+2=(later link 3).served+3*j+2 by
          unfold later; simp only; omega] at h)
      (by
        rwa [show link.served+3*(ready+1)+2=(later link 3).served+3*ready+2 by
          unfold later; simp only; omega] at hready)
    rw [initialiseV2,hround hlink]
    simp only
    rw [if_neg hne,hrec,later_later]
    congr 3
    omega

/-- The sector count is the one of the card's register. -/
theorem sdSectors_counts {fuel : ℕ} (hp : make.Prompt fuel link.served)
    (hzero : (make.manner link.served).response=0) (hcsd : make.csd.length=16) :
    sdSectors make.device fuel ⟨link,false⟩=
      some (SdRegister.sectorsOf make.csd,⟨later link 1,false⟩) := by
  have hobey : make.obey link (9 : UInt8).toNat (0 : UInt32).toNat={later link 1 with
      outgoing := make.answer link.served (make.manner link.served).response
        (make.dataOctets link.served make.csd)} := by
    obtain ⟨page,served,outgoing,intake⟩ := link
    obtain rfl : intake=.command [] := hlink.awaiting
    simp only [Make.obey,later]
    simp only [hzero,if_true]
    rfl
  have ho := congrArg Link.outgoing hobey
  have hread := make.blockRead_sent {later link 1 with
    outgoing := make.dataOctets link.served make.csd} hlink.awaiting (List.replicate 16 0)
    (make.dataOctets_of_start hp.start _) hp.dataWait (by omega : 16 ≤ make.csd.length) (by omega)
    (by decide) true
  unfold sdSectors cmdx
  rw [make.command_answered hlink (by decide) 0 0x95 ho hp.wait hp.response false,hobey]
  simp only [hzero]
  rw [if_neg (by decide),hread]
  rw [List.take_of_length_le (by omega),List.drop_of_length_le (by simp),List.append_nil]
  unfold later
  rw [←hlink.silent]
  rfl

end Card

/-- The version command is understood, and nothing is stored outside its array,
exactly when the card answers after one to four octets. A card that answers
at once is taken for its check pattern; a slower one makes the driver write
behind the array. -/
theorem version_understood_iff_one_to_four_octets (make : Make) (link : Link) (hlink : link.Idle)
    (hw : (make.manner link.served).wait < sdCommandTimeout*1000)
    (hr : isResponse (make.manner link.served).response=true) (line : Bool) :
    ((cmd8 make.device ⟨link,line⟩).result=(make.manner link.served).response.toNat ∧
      (cmd8 make.device ⟨link,line⟩).stray=[]) ↔
      1≤(make.manner link.served).wait ∧ (make.manner link.served).wait≤4 := by
  have hne : (0xAA : ℤ)≠(make.manner link.served).response.toNat := by
    intro he
    have hresponse : (make.manner link.served).response=0xAA := by
      apply UInt8.toNat_inj.mp
      exact_mod_cast he.symm
    rw [hresponse] at hr
    exact absurd hr (by decide)
  rw [cmd8_answered make hlink hw hr line]
  simp only
  by_cases hzero : (make.manner link.served).wait=0
  · simp only [if_pos hzero,hne,false_and,false_iff]
    omega
  · by_cases hfive : (make.manner link.served).wait<5
    · simp only [if_neg hzero,if_pos hfive,true_and,true_iff]
      omega
    · simp only [if_neg hzero,if_neg hfive,List.map_cons,List.cons_ne_nil,and_false,false_iff]
      omega

/-- The steady card answers after one octet and is understood. -/
theorem version_understood_on_steady_card :
    ((cmd8 (DiskCall.steadyMake .octets).device ⟨DiskCall.clearedLink,false⟩).result=
        ((DiskCall.steadyMake .octets).manner 0).response.toNat ∧
      (cmd8 (DiskCall.steadyMake .octets).device ⟨DiskCall.clearedLink,false⟩).stray=[]) ↔
      1≤((DiskCall.steadyMake .octets).manner 0).wait ∧
        ((DiskCall.steadyMake .octets).manner 0).wait≤4 :=
  version_understood_iff_one_to_four_octets (DiskCall.steadyMake .octets) DiskCall.clearedLink
    DiskCall.clearedLink_idle (by decide : 1<5000*1000) (by decide : isResponse 0x00=true)
    false

/-- A card of version two as it comes up: command `start` is the first it is
sent, it goes idle after `idle` commands that ask for it in vain and leaves
the idle state after `rounds` rounds of the initialisation command. -/
structure ComesUp (make : Make) (fuel start idle rounds : ℕ) : Prop where
  /-- Every command is answered in time, and data with it. -/
  prompt : ∀ k,make.Prompt fuel k
  /-- The idle state is reached within five commands. -/
  soon : idle<5
  /-- Not before the last of them. -/
  restless : ∀ j < idle,(make.manner (start+j)).response≠1
  /-- The idle state. -/
  idled : (make.manner (start+idle)).response=1
  /-- The version command is known to the card. -/
  version : (make.manner (start+(idle+1))).response=1
  /-- It is answered after one octet at least. -/
  notAtOnce : 1≤(make.manner (start+(idle+1))).wait
  /-- It is answered after four octets at most. -/
  quickly : (make.manner (start+(idle+1))).wait≤4
  /-- The idle state is left before the driver gives up. -/
  patience : rounds < sdCommandTimeout
  /-- Not before the last round. -/
  unready : ∀ j < rounds,(make.manner (start+(idle+2)+3*j+2)).response≠0
  /-- The card is ready. -/
  ready : (make.manner (start+(idle+2)+3*rounds+2)).response=0
  /-- It sends its register. -/
  counted : (make.manner (start+(idle+3*rounds+6))).response=0
  /-- It takes the block length. -/
  measured : (make.manner (start+(idle+3*rounds+7))).response=0
  /-- The register has sixteen octets. -/
  register : make.csd.length=16

/-- The initialisation of a card that comes up. -/
theorem initialiseCard_comesUp {make : Make} {fuel idle rounds : ℕ} {link : Link}
    (hlink : link.Idle) (h : ComesUp make fuel link.served idle rounds) (line : Bool) :
    initialiseCard make.device ⟨link,line⟩=(.v2,⟨later link (idle+3*rounds+6),false⟩) := by
  have hanswers : ∀ k,make.Answers k := fun k => (h.prompt k).toAnswers
  have hclocked : send make.device (Bus.disable make.device ⟨link,line⟩) (List.replicate 16 0xFF)=
      ⟨link,false⟩ := by
    rw [show Bus.disable make.device ⟨link,line⟩=⟨link,false⟩ by cases line <;> rfl]
    exact send_released _ _ _
  have hversion := cmd8_answered make (later_idle hlink (idle+1))
    (lt_of_le_of_lt h.quickly (by decide)) (hanswers _).response false
  have hready := initialiseV2_ready make (later_idle hlink (idle+2)) hanswers h.patience h.unready
    h.ready
  have hnotzero : ¬(make.manner (later link (idle+1)).served).wait=0 :=
    Nat.one_le_iff_ne_zero.mp h.notAtOnce
  unfold initialiseCard
  simp only [hclocked,goIdle_settles make hlink hanswers h.soon h.restless h.idled]
  rw [if_neg (by have := h.soon; omega),hversion]
  simp only [if_neg hnotzero]
  rw [show (make.manner (later link (idle+1)).served).response=1 from h.version,
    if_pos (by decide),later_later]
  unfold initialiseCardV2
  rw [hready,later_later]
  congr 3
  omega

/-- A card of version two that goes idle within five commands, answers the
version command after one to four octets and becomes ready within five
thousand rounds is brought up: `disk_initialize` returns zero with the sector
count of the card's register, and the card is left idle and released. -/
theorem disk_initialize_brings_card_up (make : Make) (fuel idle rounds : ℕ) (link : Link)
    (hlink : link.Idle) (h : ComesUp make fuel link.served idle rounds) (line : Bool) :
    (initialiseCard make.device ⟨link,line⟩).1=.v2 ∧
    ∃ link' : Link,link'.Idle ∧ link'.page=link.page ∧
      link'.served=link.served+(idle+3*rounds+8) ∧
      diskInitialize make.device fuel ⟨link,line⟩=
        some ((0,SdRegister.sectorsOf make.csd),⟨link',false⟩) := by
  rw [initialiseCard_comesUp hlink h line]
  refine ⟨rfl,later link (idle+3*rounds+8),later_idle hlink _,rfl,rfl,?_⟩
  unfold diskInitialize
  rw [initialiseCard_comesUp hlink h line]
  simp only
  rw [sdSectors_counts make (later_idle hlink _) (h.prompt _) h.counted h.register,later_later]
  simp only [Option.map_some]
  rw [cmd_plain make (later_idle hlink _) ((h.prompt _).toAnswers) (by decide) 512 false,later_later]
  simp only
  rw [show (make.manner (later link (idle+3*rounds+6+1)).served).response=0 from h.measured,
    if_neg (by decide)]

/-- The waking card comes up. -/
theorem wakingMake_comesUp : ComesUp wakingMake 4 0 1 1 where
  prompt k := by
    constructor
    · refine ⟨(by decide : 2<5000),?_⟩
      change isResponse (if k=0 then 0 else if k≤5 then 1 else 0)=true
      split
      · decide
      · split <;> decide
    · exact (by decide : 1<4)
    · rfl
    · exact (by decide : 0<4)
  soon := by decide
  restless j hj := by
    obtain rfl : j=0 := by omega
    decide
  idled := rfl
  version := rfl
  notAtOnce := (by decide : 1≤2)
  quickly := (by decide : 2≤4)
  patience := (by decide : 1<5000)
  unready j hj := by
    obtain rfl : j=0 := by omega
    decide
  ready := rfl
  counted := rfl
  measured := rfl
  register := rfl

/-- The waking card is brought up with the sectors of its register. -/
theorem disk_initialize_brings_waking_card_up :
    (initialiseCard wakingMake.device ⟨DiskCall.clearedLink,false⟩).1=.v2 ∧
    ∃ link' : Link,link'.Idle ∧ link'.page=DiskCall.clearedLink.page ∧
      link'.served=0+(1+3*1+8) ∧
      diskInitialize wakingMake.device 4 ⟨DiskCall.clearedLink,false⟩=
        some ((0,SdRegister.sectorsOf wakingMake.csd),⟨link',false⟩) :=
  disk_initialize_brings_card_up wakingMake 4 1 1 DiskCall.clearedLink DiskCall.clearedLink_idle
    wakingMake_comesUp false

end VlfGateway.SdStartup
