import Mathlib.Data.List.Basic
import Mathlib.Tactic

/-!
# Changing the state of the radio

The radio is driven through its registers. It changes state on its own while
a frame is received or sent, so every read of `TRX_STATUS` may differ from the
one before. `radio_set_state` reads the state, waits for a busy one to end and
then decides from the state it has read first whether a change between the two
automatic modes has to go through `PLL_ON`.
-/

namespace VlfGateway.RadioState

/-! ## Registers -/

/-- What the driver does to the radio. -/
inductive RadioAccess where
  /-- A register was read. -/
  | read (addr value : UInt8)
  /-- A register was written. -/
  | write (addr value : UInt8)
  /-- `slptr_clear`. -/
  | slptrClear
  /-- `delay_us`. -/
  | delayUs (us : ℕ)
  deriving DecidableEq

/-- The radio: its answers to the next register reads, and what was done to it
so far. -/
structure Radio where
  /-- Values the next register reads return, in order. -/
  answers : List UInt8
  /-- Accesses made, oldest first. -/
  log : List RadioAccess

/-- The radio after an access that returns nothing. -/
def Radio.did (radio : Radio) (access : RadioAccess) : Radio :=
  {radio with log := radio.log++[access]}

/-- `radio_reg_read`, as long as the radio answers. -/
def radioRegRead (addr : UInt8) (radio : Radio) : Option (UInt8 × Radio) :=
  match radio.answers with
  | [] => none
  | value::answers => some (value,⟨answers,radio.log++[.read addr value]⟩)

/-- `radio_reg_write`. -/
def radioRegWrite (addr val : UInt8) (radio : Radio) : Radio := radio.did (.write addr val)

/-- `radio_reg_read_mod_write`. -/
def radioRegReadModWrite (addr val mask : UInt8) (radio : Radio) : Option Radio := do
  let (tmp,radio) ← radioRegRead addr radio
  return radioRegWrite addr ((tmp &&& ~~~mask) ||| (val &&& mask)) radio

/-- `TRX_STATUS`. -/
def trxStatus : UInt8 := 0x01

/-- `TRX_STATE`. -/
def trxState : UInt8 := 0x02

/-! ## States -/

/-- `BUSY_RX`. -/
def busyRx : UInt8 := 1

/-- `BUSY_TX`. -/
def busyTx : UInt8 := 2

/-- `TRX_OFF`. -/
def trxOff : UInt8 := 8

/-- `BUSY_RX_AACK`. -/
def busyRxAack : UInt8 := 17

/-- `BUSY_TX_ARET`. -/
def busyTxAret : UInt8 := 18

/-- `RX_AACK_ON`. -/
def rxAackOn : UInt8 := 22

/-- `TX_ARET_ON`. -/
def txAretOn : UInt8 := 25

/-- `CMD_FORCE_TRX_OFF`. -/
def cmdForceTrxOff : UInt8 := 3

/-- `CMD_PLL_ON`. -/
def cmdPllOn : UInt8 := 9

/-- `TIME_ALL_STATES_TRX_OFF`. -/
def timeAllStatesTrxOff : ℕ := 1

/-- `TIME_RX_ON_TO_PLL_ON`. -/
def timeRxOnToPllOn : ℕ := 1

/-- `TIME_TRX_OFF_TO_PLL_ON`. -/
def timeTrxOffToPllOn : ℕ := 200

/-- `RADIO_SUCCESS`. -/
def radioSuccess : UInt8 := 0x40

/-- `RADIO_TIMED_OUT`. -/
def radioTimedOut : UInt8 := 0x43

/-- The state in a value of `TRX_STATUS`. -/
def stateOf (status : UInt8) : UInt8 := status &&& 0x1F

/-- `radio_get_state`. -/
def radioGetState (radio : Radio) : Option (UInt8 × Radio) := do
  let (status,radio) ← radioRegRead trxStatus radio
  return (stateOf status,radio)

/-- The states that `radio_set_state` waits out. -/
def transitional (state : UInt8) : Bool :=
  state==busyTxAret || state==busyRxAack || state==busyRx || state==busyTx

/-- `while (radio_get_state(radif) == curr_state);` on the answers to come. -/
def waitWhile (currState : UInt8) : List UInt8 → List RadioAccess → Option Radio
  | [],_ => none
  | status::answers,log =>
    if stateOf status=currState then waitWhile currState answers (log++[.read trxStatus status])
    else some ⟨answers,log++[.read trxStatus status]⟩

/-- The switch on the requested state. -/
def prepareState (state currState : UInt8) (radio : Radio) : Option Radio :=
  if state=trxOff then do
    let forced ← radioRegReadModWrite trxState cmdForceTrxOff 0x1F (radio.did .slptrClear)
    return forced.did (.delayUs timeAllStatesTrxOff)
  else if state=txAretOn then
    if currState=rxAackOn then do
      let locked ← radioRegReadModWrite trxState cmdPllOn 0x1F radio
      return locked.did (.delayUs timeRxOnToPllOn)
    else some radio
  else if state=rxAackOn then
    if currState=txAretOn then do
      let locked ← radioRegReadModWrite trxState cmdPllOn 0x1F radio
      return locked.did (.delayUs timeRxOnToPllOn)
    else some radio
  else some radio

/-- The rest of `radio_set_state` once the state is stable. -/
def changeState (state currState : UInt8) (radio : Radio) : Option (UInt8 × Radio) := do
  let prepared ← prepareState state currState radio
  let written ← radioRegReadModWrite trxState state 0x1F prepared
  let delay := if currState=trxOff then timeTrxOffToPllOn else timeRxOnToPllOn
  let (final,read) ← radioGetState (written.did (.delayUs delay))
  return (if final=state then radioSuccess else radioTimedOut,read)

/-- `radio_set_state`. Without a result the radio has stopped answering, or
has not left its busy state yet. -/
def radioSetState (state : UInt8) (radio : Radio) : Option (UInt8 × Radio) := do
  let (currState,radio) ← radioGetState radio
  if currState=state then return (radioSuccess,radio)
  else if transitional currState then
    let stable ← waitWhile currState radio.answers radio.log
    changeState state currState stable
  else changeState state currState radio

/-! ## What a call has to do -/

/-- The command an access writes to `TRX_STATE`. -/
def commandOf : RadioAccess → Option UInt8
  | .write addr value => if addr=trxState then some (value &&& 0x1F) else none
  | _ => none

/-- The state an access reads from `TRX_STATUS`. -/
def statusRead : RadioAccess → Option UInt8
  | .read addr value => if addr=trxStatus then some (stateOf value) else none
  | _ => none

/-- What a call did before its final write of `TRX_STATE`. -/
def beforeFinalWrite (log : List RadioAccess) : Option (List RadioAccess) :=
  match log.reverse.dropWhile fun access => (commandOf access).isNone with
  | [] => none
  | _::earlier => some earlier.reverse

/-- The last state that was read. -/
def lastStatus (log : List RadioAccess) : Option UInt8 := (log.filterMap statusRead).getLast?

/-- The requested state is one automatic mode and the given one the other. -/
def opposite (state status : UInt8) : Bool :=
  (status==rxAackOn && state==txAretOn) || (status==txAretOn && state==rxAackOn)

/-- A change between the automatic modes, judged by the last state read before
the final write, was preceded by `CMD_PLL_ON`. -/
def ThroughPllOn (state : UInt8) (log : List RadioAccess) : Prop :=
  ∀ before status,beforeFinalWrite log=some before → lastStatus before=some status →
    opposite state status=true → cmdPllOn∈before.filterMap commandOf

/-- The first state read is waited out, and the one it gives way to is the
other automatic mode. -/
def endsOpposite (state : UInt8) : List UInt8 → Bool
  | [] => false
  | first::later =>
    transitional (stateOf first) &&
      match later.find? fun status => stateOf status≠stateOf first with
      | none => false
      | some settled => opposite state (stateOf settled)

/-- The two ways to be in the other automatic mode. -/
theorem opposite_iff (state status : UInt8) :
    opposite state status=true ↔
      (status=rxAackOn ∧ state=txAretOn) ∨ (status=txAretOn ∧ state=rxAackOn) := by
  unfold opposite
  rw [Bool.or_eq_true,Bool.and_eq_true,Bool.and_eq_true]
  simp only [beq_iff_eq]

/-- A state that is waited out is neither automatic mode. -/
theorem not_opposite_of_transitional {busy : UInt8} (h : transitional busy=true) (other : UInt8) :
    opposite other busy=false ∧ opposite busy other=false := by
  rw [Bool.eq_false_iff,Bool.eq_false_iff,ne_eq,ne_eq,opposite_iff,opposite_iff]
  constructor
  · rintro (⟨rfl,_⟩|⟨rfl,_⟩) <;> exact absurd h (by decide)
  · rintro (⟨_,rfl⟩|⟨_,rfl⟩) <;> exact absurd h (by decide)

/-! ## The pieces of a call -/

/-- The masked part of a register is the value written. -/
theorem masked_write (tmp val mask : UInt8) :
    ((tmp &&& ~~~mask) ||| (val &&& mask)) &&& mask=val &&& mask := by
  apply UInt8.eq_of_toBitVec_eq
  ext i hi
  simp only [UInt8.toBitVec_and,UInt8.toBitVec_or,UInt8.toBitVec_not,BitVec.getElem_and,
    BitVec.getElem_or,BitVec.getElem_not]
  cases tmp.toBitVec[i] <;> cases val.toBitVec[i] <;> cases mask.toBitVec[i] <;> rfl

/-- A masked write of `TRX_STATE` is one command and reads no status. -/
theorem commands_of_write (tmp val : UInt8) :
    [RadioAccess.read trxState tmp,.write trxState ((tmp &&& ~~~0x1F) ||| (val &&& 0x1F))].filterMap
        commandOf=[val &&& 0x1F] ∧
      [RadioAccess.read trxState tmp,.write trxState ((tmp &&& ~~~0x1F) ||| (val &&& 0x1F))].filterMap
        statusRead=[] := by
  exact ⟨congrArg (fun command => [command]) (masked_write tmp val 0x1F),rfl⟩

/-- What a masked write does. -/
theorem radioRegReadModWrite_log {addr val mask : UInt8} {radio after : Radio}
    (h : radioRegReadModWrite addr val mask radio=some after) :
    ∃ tmp,radio.answers=tmp::after.answers ∧ after.log=radio.log++
      [RadioAccess.read addr tmp,.write addr ((tmp &&& ~~~mask) ||| (val &&& mask))] := by
  unfold radioRegReadModWrite radioRegRead at h
  cases hanswers : radio.answers with
  | nil =>
    rw [hanswers] at h
    exact absurd h (by simp)
  | cons tmp answers =>
    rw [hanswers] at h
    simp only [Option.bind_eq_bind,Option.bind_some,Option.pure_def,Option.some.injEq] at h
    subst h
    exact ⟨tmp,rfl,by simp [radioRegWrite,Radio.did]⟩

/-- Waiting ends with the first state that differs. -/
theorem waitWhile_log {currState : UInt8} {radio : Radio} :
    ∀ {answers : List UInt8} {log : List RadioAccess},waitWhile currState answers log=some radio →
      ∃ waited settled,answers.find? (fun status => stateOf status≠currState)=some settled ∧
        radio.log=log++(waited++[settled]).map (RadioAccess.read trxStatus) := by
  intro answers
  induction answers with
  | nil => exact fun h => absurd h (by simp [waitWhile])
  | cons status answers ih =>
    intro log h
    rw [waitWhile] at h
    by_cases hsame : stateOf status=currState
    · rw [if_pos hsame] at h
      obtain ⟨waited,settled,hfind,hlog⟩ := ih h
      refine ⟨status::waited,settled,?_,?_⟩
      · rw [List.find?_cons_of_neg (by simp [hsame]),hfind]
      · rw [hlog,List.append_assoc]
        rfl
    · rw [if_neg hsame] at h
      refine ⟨[],status,List.find?_cons_of_pos (by simp [hsame]),?_⟩
      rw [←Option.some.inj h]
      rfl

/-- A forced or intermediate command and the delay after it. -/
theorem command_delay_log {val : UInt8} {us : ℕ} {radio after : Radio}
    (h : (do
      let written ← radioRegReadModWrite trxState val 0x1F radio
      return written.did (.delayUs us))=some after) :
    ∃ steps,after.log=radio.log++steps ∧ steps.filterMap statusRead=[] ∧
      steps.filterMap commandOf=[val &&& 0x1F] := by
  cases hwritten : radioRegReadModWrite trxState val 0x1F radio with
  | none =>
    rw [hwritten] at h
    exact absurd h (by simp)
  | some written =>
    rw [hwritten] at h
    obtain ⟨tmp,_,hlog⟩ := radioRegReadModWrite_log hwritten
    obtain ⟨hcommands,hstatus⟩ := commands_of_write tmp val
    refine ⟨[.read trxState tmp,.write trxState ((tmp &&& ~~~0x1F) ||| (val &&& 0x1F))]++
      [.delayUs us],?_,?_,?_⟩
    · rw [←Option.some.inj h]
      change written.log++[.delayUs us]=_
      rw [hlog,List.append_assoc]
    · rw [List.filterMap_append,hstatus]
      rfl
    · rw [List.filterMap_append,hcommands]
      rfl

/-- Apart from switching off, the switch writes `CMD_PLL_ON` exactly for a
change between the automatic modes. -/
theorem prepareState_eq {state : UInt8} (currState : UInt8) (radio : Radio) (hoff : state ≠ trxOff) :
    prepareState state currState radio=
      if opposite state currState=true then do
        let locked ← radioRegReadModWrite trxState cmdPllOn 0x1F radio
        return locked.did (.delayUs timeRxOnToPllOn)
      else some radio := by
  have hmodes : txAretOn ≠ rxAackOn := by decide
  unfold prepareState
  rw [if_neg hoff]
  by_cases haret : state=txAretOn
  · have hopposite : opposite state currState=true ↔ currState=rxAackOn := by
      simp only [opposite_iff,haret,hmodes,and_true,and_false,or_false]
    simp only [if_pos haret,hopposite]
  rw [if_neg haret]
  by_cases haack : state=rxAackOn
  · have hopposite : opposite state currState=true ↔ currState=txAretOn := by
      simp only [opposite_iff,haack,hmodes.symm,and_true,and_false,false_or]
    simp only [if_pos haack,hopposite]
  · have hopposite : ¬opposite state currState=true := by
      simp only [opposite_iff,haret,haack,and_false,or_false,not_false_eq_true]
    rw [if_neg haack,if_neg hopposite]

/-- The switch reads no status, and writes `CMD_PLL_ON` exactly when the state
it is given is the other automatic mode. -/
theorem prepareState_log {state currState : UInt8} {radio after : Radio}
    (h : prepareState state currState radio=some after) :
    ∃ steps,after.log=radio.log++steps ∧ steps.filterMap statusRead=[] ∧
      (cmdPllOn∈steps.filterMap commandOf ↔ opposite state currState=true) := by
  by_cases hoff : state=trxOff
  · rw [prepareState,if_pos hoff] at h
    obtain ⟨steps,hlog,hstatus,hcommands⟩ := command_delay_log h
    refine ⟨.slptrClear::steps,?_,hstatus,?_⟩
    · rw [hlog]
      exact List.append_assoc _ _ _
    · have hfalse : opposite trxOff currState=false := by
        rw [Bool.eq_false_iff,ne_eq,opposite_iff]
        rintro (⟨_,hstate⟩|⟨_,hstate⟩) <;> exact absurd hstate (by decide)
      change cmdPllOn∈steps.filterMap commandOf ↔ _
      rw [hcommands,hoff,hfalse]
      decide
  rw [prepareState_eq currState radio hoff] at h
  by_cases hopposite : opposite state currState=true
  · rw [if_pos hopposite] at h
    obtain ⟨steps,hlog,hstatus,hcommands⟩ := command_delay_log h
    refine ⟨steps,hlog,hstatus,?_⟩
    rw [hcommands,hopposite]
    decide
  · rw [if_neg hopposite] at h
    refine ⟨[],?_,rfl,?_⟩
    · rw [Option.some.inj h,List.append_nil]
    · exact ⟨fun hmem => absurd hmem List.not_mem_nil,fun hmem => absurd hmem hopposite⟩

/-! ## Whole calls -/

/-- The part of a log before the last command written in it. -/
theorem beforeFinalWrite_append (before : List RadioAccess) (value : UInt8)
    {later : List RadioAccess} (hlater : ∀ access∈later,commandOf access=none) :
    beforeFinalWrite (before++.write trxState value::later)=some before := by
  have hreverse : (before++.write trxState value::later).reverse=
      later.reverse++.write trxState value::before.reverse := by simp
  have hskip : ∀ access∈later.reverse,(commandOf access).isNone=true := by
    intro access haccess
    rw [hlater access (List.mem_reverse.mp haccess)]
    rfl
  unfold beforeFinalWrite
  rw [hreverse,List.dropWhile_append_of_pos hskip]
  exact congrArg some (List.reverse_reverse before)

/-- The last status read before the final write: the first one, or the first
that differs from it when that one is waited out. -/
def settledStatus (first : UInt8) (later : List UInt8) : Option UInt8 :=
  if transitional (stateOf first) then later.find? fun status => stateOf status≠stateOf first
  else some first

/-- What is done once the state is stable. -/
theorem changeState_log {state currState : UInt8} {radio : Radio} {result : UInt8 × Radio}
    (h : changeState state currState radio=some result) :
    ∃ steps tmp value us final,
      result.2.log=(radio.log++steps++[RadioAccess.read trxState tmp])++
        RadioAccess.write trxState value::[.delayUs us,.read trxStatus final] ∧
      steps.filterMap statusRead=[] ∧
      (cmdPllOn∈steps.filterMap commandOf ↔ opposite state currState=true) := by
  unfold changeState at h
  cases hprepared : prepareState state currState radio with
  | none =>
    rw [hprepared] at h
    exact absurd h (by simp)
  | some prepared =>
    obtain ⟨steps,hsteps,hstatus,hcommand⟩ := prepareState_log hprepared
    cases hwritten : radioRegReadModWrite trxState state 0x1F prepared with
    | none =>
      simp only [hprepared,hwritten,Option.bind_eq_bind,Option.bind_some,Option.bind_none] at h
      exact absurd h (by simp)
    | some written =>
      obtain ⟨tmp,_,hlog⟩ := radioRegReadModWrite_log hwritten
      simp only [hprepared,hwritten,Option.bind_eq_bind,Option.bind_some,radioGetState,radioRegRead,
        Radio.did] at h
      cases hanswers : written.answers with
      | nil =>
        rw [hanswers] at h
        exact absurd h (by simp)
      | cons final answers =>
        rw [hanswers] at h
        simp only [Option.bind_some,Option.pure_def,Option.some.injEq] at h
        refine ⟨steps,tmp,(tmp &&& ~~~0x1F) ||| (state &&& 0x1F),
          if currState=trxOff then timeTrxOffToPllOn else timeRxOnToPllOn,final,?_,hstatus,hcommand⟩
        rw [←h]
        dsimp only
        rw [hlog,hsteps]
        simp only [List.append_assoc,List.cons_append,List.nil_append]

/-- What a finished call has done: it found the radio in the state, or it read
statuses until one was settled, prepared the change, and wrote the state. -/
theorem radioSetState_log {state : UInt8} {answers : List UInt8} {result : UInt8 × Radio}
    (h : radioSetState state ⟨answers,[]⟩=some result) :
    ∃ first later,answers=first::later ∧
      ((stateOf first=state ∧ result.2.log=[.read trxStatus first]) ∨
        ∃ waited settled steps tmp value us final,
          settledStatus first later=some settled ∧
          result.2.log=((waited++[settled]).map (RadioAccess.read trxStatus)++steps++
            [RadioAccess.read trxState tmp])++
              RadioAccess.write trxState value::[.delayUs us,.read trxStatus final] ∧
          steps.filterMap statusRead=[] ∧
          (cmdPllOn∈steps.filterMap commandOf ↔ opposite state (stateOf first)=true)) := by
  cases answers with
  | nil => exact absurd h (by simp [radioSetState,radioGetState,radioRegRead])
  | cons first later =>
    refine ⟨first,later,rfl,?_⟩
    unfold radioSetState radioGetState radioRegRead at h
    simp only [Option.bind_eq_bind,Option.bind_some,Option.pure_def,List.nil_append] at h
    by_cases hsame : stateOf first=state
    · rw [if_pos hsame] at h
      left
      rw [←Option.some.inj h]
      exact ⟨hsame,rfl⟩
    rw [if_neg hsame] at h
    right
    by_cases hbusy : transitional (stateOf first)=true
    · rw [if_pos hbusy] at h
      cases hstable : waitWhile (stateOf first) later [.read trxStatus first] with
      | none =>
        rw [hstable] at h
        exact absurd h (by simp)
      | some stable =>
        rw [hstable] at h
        obtain ⟨waited,settled,hfind,hwaited⟩ := waitWhile_log hstable
        obtain ⟨steps,tmp,value,us,final,hlog,hrest⟩ := changeState_log h
        refine ⟨first::waited,settled,steps,tmp,value,us,final,?_,?_,hrest⟩
        · rw [settledStatus,if_pos hbusy,hfind]
        · rw [hlog,hwaited]
          rfl
    · rw [if_neg hbusy] at h
      obtain ⟨steps,tmp,value,us,final,hlog,hrest⟩ := changeState_log h
      exact ⟨[],first,steps,tmp,value,us,final,by rw [settledStatus,if_neg hbusy],hlog,hrest⟩

/-- The log of a call that finds the radio in its state is in order. -/
theorem throughPllOn_of_found (state first : UInt8) : ThroughPllOn state [.read trxStatus first] := by
  intro before status hbefore
  exact absurd hbefore (by simp [beforeFinalWrite,commandOf])

/-- Reads of `TRX_STATUS` read their states. -/
theorem statusRead_reads (statuses : List UInt8) :
    (statuses.map (RadioAccess.read trxStatus)).filterMap statusRead=statuses.map stateOf := by
  rw [List.filterMap_map]
  exact congrFun List.filterMap_eq_map statuses

/-- Reads of `TRX_STATUS` write no command. -/
theorem commandOf_reads (statuses : List UInt8) :
    (statuses.map (RadioAccess.read trxStatus)).filterMap commandOf=[] := by
  rw [List.filterMap_map]
  exact List.filterMap_eq_nil_iff.mpr fun _ _ => rfl

/-- A call that writes the state goes through `PLL_ON` exactly when the switch
has seen every opposite mode that was settled. -/
theorem throughPllOn_iff {state first settled tmp value final : UInt8} {us : ℕ}
    {waited : List UInt8} {steps : List RadioAccess} (hstatus : steps.filterMap statusRead=[])
    (hcommand : cmdPllOn∈steps.filterMap commandOf ↔ opposite state (stateOf first)=true) :
    ThroughPllOn state (((waited++[settled]).map (RadioAccess.read trxStatus)++steps++
        [RadioAccess.read trxState tmp])++
          RadioAccess.write trxState value::[.delayUs us,.read trxStatus final]) ↔
      (opposite state (stateOf settled)=true → opposite state (stateOf first)=true) := by
  have hlater : ∀ access∈[RadioAccess.delayUs us,.read trxStatus final],commandOf access=none := by
    simp [commandOf]
  have hbefore := beforeFinalWrite_append ((waited++[settled]).map (RadioAccess.read trxStatus)++
    steps++[RadioAccess.read trxState tmp]) value hlater
  have hlast : lastStatus ((waited++[settled]).map (RadioAccess.read trxStatus)++
      steps++[RadioAccess.read trxState tmp])=some (stateOf settled) := by
    have hnone : [RadioAccess.read trxState tmp].filterMap statusRead=[] := rfl
    rw [lastStatus,List.filterMap_append,List.filterMap_append,statusRead_reads,hstatus,hnone,
      List.append_nil,List.append_nil,List.map_append]
    exact List.getLast?_concat
  have hcommands : ((waited++[settled]).map (RadioAccess.read trxStatus)++
      steps++[RadioAccess.read trxState tmp]).filterMap commandOf=steps.filterMap commandOf := by
    have hnone : [RadioAccess.read trxState tmp].filterMap commandOf=[] := rfl
    rw [List.filterMap_append,List.filterMap_append,commandOf_reads,hnone,List.append_nil,
      List.nil_append]
  rw [←hcommand,←hcommands]
  constructor
  · exact fun h => h _ _ hbefore hlast
  · intro h before status hsplit hread
    obtain rfl := Option.some.inj (hbefore.symm.trans hsplit)
    obtain rfl := Option.some.inj (hlast.symm.trans hread)
    exact h

/-- For every requested state and every sequence of register values for which
the call returns: a change between the automatic modes goes through `PLL_ON`
exactly when no busy state has given way to the other mode. -/
theorem radioSetState_through_iff {state : UInt8} {answers : List UInt8} {result : UInt8 × Radio}
    (h : radioSetState state ⟨answers,[]⟩=some result) :
    ThroughPllOn state result.2.log ↔ endsOpposite state answers=false := by
  obtain ⟨first,later,rfl,⟨hsame,hlog⟩|
    ⟨waited,settled,steps,tmp,value,us,final,hsettled,hlog,hstatus,hcommand⟩⟩ := radioSetState_log h
  · rw [hlog]
    refine ⟨fun _ => ?_,fun _ => throughPllOn_of_found state first⟩
    rw [endsOpposite]
    cases hbusy : transitional (stateOf first) with
    | false => rfl
    | true =>
      rw [hsame] at hbusy
      have hnever := fun other => (not_opposite_of_transitional hbusy other).2
      rw [Bool.true_and]
      split
      · rfl
      · exact hnever _
  · rw [hlog,throughPllOn_iff hstatus hcommand]
    cases hbusy : transitional (stateOf first) with
    | false =>
      rw [settledStatus,hbusy,if_neg Bool.false_ne_true] at hsettled
      obtain rfl := Option.some.inj hsettled
      rw [endsOpposite,hbusy]
      exact ⟨fun _ => rfl,fun _ h => h⟩
    | true =>
      rw [settledStatus,hbusy,if_pos rfl] at hsettled
      rw [endsOpposite,hbusy,hsettled,(not_opposite_of_transitional hbusy state).1,Bool.true_and]
      simp only [Bool.false_eq_true,imp_false,Bool.not_eq_true]

/-- A radio that stays ready to receive until it is told otherwise goes
through `PLL_ON`. -/
theorem radioSetState_through_ready :
    ∃ result,radioSetState txAretOn ⟨[22,22,9,25],[]⟩=some result ∧
      ThroughPllOn txAretOn result.2.log := by
  have hcall : radioSetState txAretOn ⟨[22,22,9,25],[]⟩=some (radioSuccess,⟨[],
      [.read trxStatus 22,.read trxState 22,.write trxState 9,.delayUs 1,.read trxState 9,
        .write trxState 25,.delayUs 1,.read trxStatus 25]⟩) := rfl
  exact ⟨_,hcall,(radioSetState_through_iff hcall).mpr rfl⟩

/-- A frame ends while the driver waits: the radio reports `BUSY_RX_AACK` and
then `RX_AACK_ON`, and the call writes `TX_ARET_ON` at once. -/
theorem stale_state_skips_pll :
    radioSetState txAretOn ⟨[17,22,22,25],[]⟩=some (radioSuccess,⟨[],
      [.read trxStatus 17,.read trxStatus 22,.read trxState 22,.write trxState 25,.delayUs 1,
        .read trxStatus 25]⟩) ∧
    ¬ThroughPllOn txAretOn [.read trxStatus 17,.read trxStatus 22,.read trxState 22,
      .write trxState 25,.delayUs 1,.read trxStatus 25] := by
  refine ⟨rfl,fun hthrough => ?_⟩
  have hpll := hthrough [.read trxStatus 17,.read trxStatus 22,.read trxState 22] rxAackOn rfl rfl rfl
  exact absurd hpll (by decide)

end VlfGateway.RadioState
