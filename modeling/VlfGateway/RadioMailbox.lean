import VlfGateway.RadioInterrupt

/-!
# Commands to the radio driver

The main loop stores a command, triggers the interrupt, waits until the command
is cleared and takes the output. Interrupts also come on their own, before the
trigger as well as after the command was cleared. The history keeps every
interrupt that has found a command, with its conversation; that the command was
carried out is then a fact about that conversation. Only some commands leave an
output; after the others the main loop takes the one that was left before.
-/

namespace VlfGateway.RadioMailbox

open AskProgram RadioDriver RadioTalk RadioInterrupt StepPath

/-- Where `radif_command` is. -/
inductive Calling where
  /-- Not called. -/
  | idle
  /-- The command is stored. -/
  | placed
  /-- The interrupt is triggered. -/
  | waiting
  /-- The command was found cleared. -/
  | answered
  deriving DecidableEq

/-- An interrupt that has found a command. -/
structure Errand where
  /-- The interface it found. -/
  found : Interface
  /-- Its conversation with the radio. -/
  talk : Talk
  /-- The interface it left. -/
  left : Interface

/-- The command it found. -/
def Errand.command (errand : Errand) : UInt8 := errand.found.command

/-- The output it left. -/
def Errand.output (errand : Errand) : UInt8 := errand.left.commandOutput

/-- The interface and the commands given through it. -/
structure Desk where
  /-- The shared structure. -/
  radif : Interface
  /-- Progress of the main loop. -/
  calling : Calling
  /-- Commands given, oldest first. -/
  calls : List UInt8
  /-- The interrupts that have found a command. -/
  errands : List Errand
  /-- Values returned by `radif_command`. -/
  returns : List UInt8

/-- A step of main loop or interrupt. -/
inductive DeskEvent where
  /-- `radif_command` is called. -/
  | call (command : UInt8)
  /-- `interrupt_trigger`. -/
  | trigger
  /-- One round of the wait. -/
  | poll
  /-- The output is returned. -/
  | fetch
  /-- The main loop does something else. -/
  | work (radif : Interface)
  /-- An interrupt, with its conversation. -/
  | irq (talk : Talk)

/-- The steps of main loop and interrupt. -/
def deskStep (d : Desk) : DeskEvent → Desk → Prop
  | .call command,d' => d.calling=.idle ∧ command≠0 ∧ d'={d with
      radif := {d.radif with command := command}
      calling := .placed
      calls := d.calls++[command]}
  | .trigger,d' => d.calling=.placed ∧ d'={d with calling := .waiting}
  | .poll,d' => d.calling=.waiting ∧
      d'=if d.radif.command=0 then {d with calling := .answered} else d
  | .fetch,d' => d.calling=.answered ∧ d'={d with
      calling := .idle
      returns := d.returns++[d.radif.commandOutput]}
  | .work radif,d' => d.calling=.idle ∧ mailbox radif=mailbox d.radif ∧ d'={d with radif := radif}
  | .irq talk,d' => ∃ fuel radif,Yields (radioIrq fuel d.radif) talk radif ∧ d'={d with
      radif := radif
      errands := if d.radif.command=0 then d.errands else d.errands++[⟨d.radif,talk,radif⟩]}

/-- A desk before the first command. -/
def Desk.start (radif : Interface) : Desk := ⟨radif,.idle,[],[],[]⟩

/-- The command leaves no output. -/
def silent (command : UInt8) : Bool :=
  match Command.ofCode command with
  | some .reset => false
  | some .getRandomNumber => false
  | some .setFreq => false
  | some .energy => false
  | _ => true

/-- A command without an output leaves the one before it. -/
def StaleFrom : UInt8 → List Errand → Prop
  | _,[] => True
  | previous,errand::rest =>
    (silent errand.command=true → errand.output=previous) ∧ StaleFrom errand.output rest

/-- The interrupt has carried out the command it found: between the end of a
frame and the receiver being switched on its conversation is that of the
command, with the settings it found, or empty if the switch knows no such
command. -/
def CarriedOut (errand : Errand) : Prop :=
  ∃ fuel first second third served done,errand.talk=first++(second++third) ∧
    Yields (if errand.found.tx.up then serveFlags fuel errand.found else pure errand.found) first
      served ∧
    mailbox served=mailbox errand.found ∧ settings served=settings errand.found ∧
    (match Command.ofCode errand.command with
      | some command => Yields (carryOut fuel served command) second done
      | none => second=[] ∧ done=served) ∧
    Yields (Program.onlyIf done.tx.up (listenAgain fuel)) third () ∧
    errand.left={done with command := 0}

/-! ## What an interrupt does to the mailbox -/

/-- Starting up chooses a sequence number. -/
theorem yields_radioConfig {fuel : ℕ} {radif radif' : Interface} {talk : Talk}
    (h : Yields (radioConfig fuel radif) talk radif') :
    ∃ seq,radif'={radif with sender := {radif.sender with seq := seq}} := by
  obtain ⟨_,_,_,rfl,-,h⟩ := yields_bind.mp h
  obtain ⟨_,_,_,rfl,-,h⟩ := yields_bind.mp h
  obtain ⟨_,_,_,rfl,-,h⟩ := yields_bind.mp h
  obtain ⟨_,_,_,rfl,-,h⟩ := yields_bind.mp h
  obtain ⟨_,_,_,rfl,-,h⟩ := yields_bind.mp h
  obtain ⟨_,seq,_,rfl,-,h⟩ := yields_bind.mp h
  exact ⟨seq,(yields_pure.mp h).2.symm⟩

/-- A command without an output leaves the output alone. -/
theorem carryOut_silent {fuel : ℕ} {radif radif' : Interface} {command : Command} {talk : Talk}
    (h : Yields (carryOut fuel radif command) talk radif') (hsilent : silent command.code=true) :
    radif'.commandOutput=radif.commandOutput := by
  cases command with
  | reset => exact absurd hsilent (by decide)
  | getRandomNumber => exact absurd hsilent (by decide)
  | setFreq => exact absurd hsilent (by decide)
  | energy => exact absurd hsilent (by decide)
  | startup =>
    obtain ⟨_,configured,_,rfl,hconfig,h⟩ := yields_bind.mp h
    obtain ⟨seq,rfl⟩ := yields_radioConfig hconfig
    rw [←(yields_pure.mp h).2]
  | _ =>
    obtain ⟨_,_,_,rfl,-,h⟩ := yields_bind.mp h
    rw [←(yields_pure.mp h).2]

/-- Every interrupt carries out the command it finds. -/
theorem carriedOut_of_yields {fuel : ℕ} {radif radif' : Interface} {talk : Talk}
    (h : Yields (radioIrq fuel radif) talk radif') : CarriedOut ⟨radif,talk,radif'⟩ := by
  obtain ⟨first,served,_,rfl,hserved,h⟩ := yields_bind.mp h
  obtain ⟨_,carried,_,rfl,hcarried,h⟩ := yields_bind.mp h
  obtain ⟨third,_,_,rfl,hlisten,h⟩ := yields_bind.mp h
  obtain ⟨rfl,rfl⟩ := yields_pure.mp h
  obtain ⟨second,done,_,rfl,hdone,h⟩ := yields_bind.mp hcarried
  obtain ⟨rfl,rfl⟩ := yields_pure.mp h
  have hkept : mailbox served=mailbox radif ∧ settings served=settings radif := by
    split at hserved
    · obtain ⟨frames,-,hserves⟩ := yields_serveFlags hserved
      exact ⟨(hserves []).2.mailbox,(hserves []).2.settings⟩
    · rw [←(yields_pure.mp hserved).2]
      exact ⟨rfl,rfl⟩
  refine ⟨fuel,first,second,third,served,done,by simp only [List.append_nil],hserved,hkept.1,
    hkept.2,?_,hlisten,rfl⟩
  unfold carryOutWaiting at hdone
  have hcommand : served.command=radif.command := congrArg Prod.fst hkept.1
  rw [hcommand] at hdone
  unfold Errand.command
  dsimp only
  cases hcode : Command.ofCode radif.command with
  | none =>
    rw [hcode] at hdone
    obtain ⟨rfl,rfl⟩ := yields_pure.mp hdone
    exact ⟨rfl,rfl⟩
  | some command =>
    rw [hcode] at hdone
    exact hdone

/-- Carrying out a command clears it, and leaves the output alone unless the
command has one. -/
theorem CarriedOut.mailbox {errand : Errand} (h : CarriedOut errand) :
    errand.left.command=0 ∧
      (silent errand.command=true → errand.output=errand.found.commandOutput) := by
  obtain ⟨fuel,first,second,third,served,done,-,-,hmailbox,-,hdone,-,hleft⟩ := h
  unfold Errand.output
  rw [hleft]
  have houtput : served.commandOutput=errand.found.commandOutput := congrArg Prod.snd hmailbox
  refine ⟨rfl,fun hsilent => ?_⟩
  rw [←houtput]
  cases hcode : Command.ofCode errand.command with
  | none =>
    rw [hcode] at hdone
    rw [hdone.2]
  | some command =>
    rw [hcode] at hdone
    have hfound := List.find?_some hcode
    have hsame : command.code=errand.command := of_decide_eq_true hfound
    have hcarried : Yields (carryOut fuel served command) second done := hdone
    have hkept := carryOut_silent hcarried (hsame ▸ hsilent)
    exact hkept

/-! ## Whole runs -/

/-- The output left by the last command. -/
def lastOutput (first : UInt8) (errands : List Errand) : UInt8 :=
  errands.foldl (fun _ errand => errand.output) first

/-- One more command without an output keeps to the last one. -/
theorem StaleFrom.snoc {first : UInt8} {errand : Errand} {errands : List Errand}
    (h : StaleFrom first errands)
    (hlast : silent errand.command=true → errand.output=lastOutput first errands) :
    StaleFrom first (errands++[errand]) := by
  induction errands generalizing first with
  | nil => exact ⟨hlast,trivial⟩
  | cons earlier rest ih =>
    obtain ⟨hearlier,hrest⟩ := h
    exact ⟨hearlier,ih hrest hlast⟩

/-- The command waits to be carried out. -/
structure Pending (d : Desk) : Prop where
  /-- It is stored. -/
  command : d.radif.command≠0
  /-- It is the last one given, and the only one not carried out. -/
  calls : d.calls=d.errands.map Errand.command++[d.radif.command]
  /-- The earlier ones were answered. -/
  returns : d.returns=d.errands.map Errand.output

/-- Every command was carried out, and these values were returned or can be
fetched. -/
structure Cleared (d : Desk) (values : List UInt8) : Prop where
  /-- No command is stored. -/
  command : d.radif.command=0
  /-- All were carried out in their order. -/
  calls : d.calls=d.errands.map Errand.command
  /-- The values are the outputs. -/
  values : values=d.errands.map Errand.output

/-- What holds at each place of `radif_command`. -/
def AtPlace (d : Desk) : Prop :=
  match d.calling with
  | .idle => Cleared d d.returns
  | .placed => Pending d ∨ Cleared d (d.returns++[d.radif.commandOutput])
  | .waiting => Pending d ∨ Cleared d (d.returns++[d.radif.commandOutput])
  | .answered => Cleared d (d.returns++[d.radif.commandOutput])

/-- Mailbox, history and progress fit together. -/
structure Handled (first : UInt8) (d : Desk) : Prop where
  /-- The output is that of the last command. -/
  output : d.radif.commandOutput=lastOutput first d.errands
  /-- Commands without an output have left the one before. -/
  stale : StaleFrom first d.errands
  /-- Every command found was carried out. -/
  done : ∀ errand∈d.errands,CarriedOut errand
  /-- The main loop is where the history says. -/
  place : AtPlace d

/-- What is handled depends on command and output only. -/
theorem Handled.sameMailbox {first : UInt8} {d : Desk} (h : Handled first d) {radif : Interface}
    (hmailbox : mailbox radif=mailbox d.radif) : Handled first {d with radif := radif} := by
  obtain ⟨before,calling,calls,errands,returns⟩ := d
  obtain ⟨hcommand,houtput⟩ := Prod.mk.inj hmailbox
  have hcleared : ∀ values,Cleared ⟨before,calling,calls,errands,returns⟩ values →
      Cleared ⟨radif,calling,calls,errands,returns⟩ values :=
    fun values hc => ⟨hcommand.trans hc.command,hc.calls,hc.values⟩
  have hpending : Pending ⟨before,calling,calls,errands,returns⟩ →
      Pending ⟨radif,calling,calls,errands,returns⟩ := fun hp =>
    ⟨fun hzero => hp.command (hcommand.symm.trans hzero),
      hp.calls.trans (congrArg (fun command => _++[command]) hcommand.symm),hp.returns⟩
  have hplace := h.place
  refine ⟨houtput.trans h.output,h.stale,h.done,?_⟩
  unfold AtPlace at hplace ⊢
  dsimp only at houtput hplace ⊢
  rw [houtput]
  cases calling with
  | idle => exact hcleared _ hplace
  | placed => exact hplace.imp hpending (hcleared _)
  | waiting => exact hplace.imp hpending (hcleared _)
  | answered => exact hcleared _ hplace

/-- A command that is stored waits to be carried out. -/
theorem Handled.pending {first : UInt8} {d : Desk} (h : Handled first d)
    (hcommand : d.radif.command≠0) :
    Pending d ∧ (d.calling=.placed ∨ d.calling=.waiting) := by
  have hplace := h.place
  unfold AtPlace at hplace
  cases hcalling : d.calling with
  | idle =>
    rw [hcalling] at hplace
    exact absurd hplace.command hcommand
  | placed =>
    rw [hcalling] at hplace
    exact ⟨hplace.resolve_right fun hc => hcommand hc.command,.inl rfl⟩
  | waiting =>
    rw [hcalling] at hplace
    exact ⟨hplace.resolve_right fun hc => hcommand hc.command,.inr rfl⟩
  | answered =>
    rw [hcalling] at hplace
    exact absurd hplace.command hcommand

/-- Carrying out the stored command answers the call. -/
theorem Handled.carry {first : UInt8} {d : Desk} (h : Handled first d)
    (hcommand : d.radif.command≠0) {talk : Talk} {radif : Interface}
    (hdone : CarriedOut ⟨d.radif,talk,radif⟩) :
    Handled first {d with
      radif := radif
      errands := d.errands++[⟨d.radif,talk,radif⟩]} := by
  obtain ⟨hcleared,hsilent⟩ := hdone.mailbox
  obtain ⟨hpending,hcalling⟩ := h.pending hcommand
  obtain ⟨before,calling,calls,errands,returns⟩ := d
  have hanswered : Cleared ⟨radif,calling,calls,errands++[⟨before,talk,radif⟩],returns⟩
      (returns++[radif.commandOutput]) := by
    refine ⟨hcleared,?_,?_⟩
    · rw [List.map_append]
      exact hpending.calls
    · rw [List.map_append,←hpending.returns]
      rfl
  refine ⟨?_,h.stale.snoc fun hquiet => (hsilent hquiet).trans h.output,
    List.forall_mem_append.mpr ⟨h.done,fun errand hmem => List.mem_singleton.mp hmem ▸ hdone⟩,?_⟩
  · unfold lastOutput
    rw [List.foldl_append]
    rfl
  · obtain rfl|rfl : calling=.placed ∨ calling=.waiting := hcalling
    · exact .inr hanswered
    · exact .inr hanswered

/-- Every step keeps the desk in order. -/
theorem Handled.step {first : UInt8} {d d' : Desk} {event : DeskEvent} (h : Handled first d)
    (hstep : deskStep d event d') : Handled first d' := by
  have hplace := h.place
  unfold AtPlace at hplace
  cases event with
  | call command =>
    obtain ⟨hidle,hcommand,rfl⟩ := hstep
    rw [hidle] at hplace
    refine ⟨h.output,h.stale,h.done,.inl ⟨hcommand,?_,hplace.values⟩⟩
    change d.calls++[command]=_
    rw [hplace.calls]
  | trigger =>
    obtain ⟨hplaced,rfl⟩ := hstep
    rw [hplaced] at hplace
    exact ⟨h.output,h.stale,h.done,hplace.imp (fun hp => ⟨hp.command,hp.calls,hp.returns⟩)
      fun hc => ⟨hc.command,hc.calls,hc.values⟩⟩
  | poll =>
    obtain ⟨hwaiting,rfl⟩ := hstep
    rw [hwaiting] at hplace
    split
    · next hcleared =>
      obtain hpending|hdone := hplace
      · exact absurd hcleared hpending.command
      · exact ⟨h.output,h.stale,h.done,⟨hdone.command,hdone.calls,hdone.values⟩⟩
    · exact h
  | fetch =>
    obtain ⟨hanswered,rfl⟩ := hstep
    rw [hanswered] at hplace
    exact ⟨h.output,h.stale,h.done,⟨hplace.command,hplace.calls,hplace.values⟩⟩
  | work radif =>
    obtain ⟨-,hmailbox,rfl⟩ := hstep
    exact h.sameMailbox hmailbox
  | irq talk =>
    obtain ⟨fuel,radif,hyields,rfl⟩ := hstep
    have hdone := carriedOut_of_yields hyields
    by_cases hnone : d.radif.command=0
    · rw [if_pos hnone]
      obtain ⟨hcleared,hsilent⟩ := hdone.mailbox
      have hsame : silent d.radif.command=true := by
        rw [hnone]
        decide
      exact h.sameMailbox (Prod.ext (hcleared.trans hnone.symm) (hsilent hsame))
    · rw [if_neg hnone]
      exact h.carry hnone hdone

/-- Commands are found and answered in order, and at most one is ahead. -/
structure InOrder (d : Desk) : Prop where
  /-- What is found was given. -/
  found : d.errands.map Errand.command <+: d.calls
  /-- At most one command is outstanding. -/
  outstanding : d.calls.length≤d.errands.length+1
  /-- What is returned was left behind by the command. -/
  returned : d.returns <+: d.errands.map Errand.output
  /-- At most one command has not returned yet. -/
  returning : d.errands.length≤d.returns.length+1

/-- A desk with a command outstanding is in order. -/
theorem Pending.inOrder {d : Desk} (h : Pending d) : InOrder d := by
  have hcalls := congrArg List.length h.calls
  have hreturns := congrArg List.length h.returns
  rw [List.length_append,List.length_map,List.length_singleton] at hcalls
  rw [List.length_map] at hreturns
  exact ⟨⟨_,h.calls.symm⟩,hcalls.le,h.returns ▸ List.prefix_rfl,by omega⟩

/-- A desk with every command carried out is in order. -/
theorem Cleared.inOrder {d : Desk} {last : List UInt8} (h : Cleared d (d.returns++last))
    (hlast : last.length≤1) : InOrder d := by
  have hcalls := congrArg List.length h.calls
  have hvalues := congrArg List.length h.values
  rw [List.length_map] at hcalls
  rw [List.length_append,List.length_map] at hvalues
  exact ⟨h.calls ▸ List.prefix_rfl,by omega,⟨last,h.values⟩,by omega⟩

/-- In every interleaving of main loop and interrupts, whatever the radio
answers: each command that was given is found by at most one interrupt, in the
order in which they were given, and at most one is outstanding; the interrupt
that finds it carries it out, once, in its conversation with the radio; an
interrupt that finds none carries out none; every call that has returned was
carried out, and has returned the output left by its own command; and a command
without an output has left the output of an earlier one. -/
theorem commands_carried_out_once (radif : Interface) (hcommand : radif.command=0)
    (ts : List (Transition Desk DeskEvent)) (d : Desk)
    (hp : Path deskStep (Desk.start radif) ts d) :
    InOrder d ∧
      (∀ errand∈d.errands,CarriedOut errand) ∧
      (∀ t∈ts,∀ talk,t.label=.irq talk → CarriedOut ⟨t.before.radif,talk,t.after.radif⟩) ∧
      (d.calling=.idle →
        d.calls=d.errands.map Errand.command ∧ d.returns=d.errands.map Errand.output) ∧
      StaleFrom radif.commandOutput d.errands := by
  have hstart : Handled radif.commandOutput (Desk.start radif) :=
    ⟨rfl,trivial,fun _ hmem => absurd hmem List.not_mem_nil,⟨hcommand,rfl,rfl⟩⟩
  have hend := hp.invariant hstart fun _ _ _ h hstep => h.step hstep
  have hirq : ∀ t∈ts,∀ talk,t.label=.irq talk →
      CarriedOut ⟨t.before.radif,talk,t.after.radif⟩ := by
    intro t ht talk hlabel
    have hstep := hp.steps t ht
    rw [hlabel] at hstep
    obtain ⟨fuel,after,hyields,hafter⟩ := hstep
    rw [hafter]
    exact carriedOut_of_yields hyields
  have hplace := hend.place
  unfold AtPlace at hplace
  cases hcalling : d.calling with
  | idle =>
    rw [hcalling] at hplace
    have hnil : Cleared d (d.returns++[]) := by rwa [List.append_nil]
    exact ⟨hnil.inOrder (Nat.zero_le 1),hend.done,hirq,fun _ => ⟨hplace.calls,hplace.values⟩,
      hend.stale⟩
  | placed =>
    rw [hcalling] at hplace
    exact ⟨hplace.elim Pending.inOrder fun hc => hc.inOrder le_rfl,hend.done,hirq,
      fun h => absurd h (by decide),hend.stale⟩
  | waiting =>
    rw [hcalling] at hplace
    exact ⟨hplace.elim Pending.inOrder fun hc => hc.inOrder le_rfl,hend.done,hirq,
      fun h => absurd h (by decide),hend.stale⟩
  | answered =>
    rw [hcalling] at hplace
    exact ⟨hplace.inOrder le_rfl,hend.done,hirq,fun h => absurd h (by decide),hend.stale⟩

/-- The gateway's interface before it is started. -/
def downRadif : Interface := {upRadif with tx := {upRadif.tx with up := false}}

/-- A step of main loop or interrupt, with the answers of the radio to an
interrupt. -/
inductive DeskMove where
  /-- `radif_command` is called. -/
  | call (command : UInt8)
  /-- `interrupt_trigger`. -/
  | trigger
  /-- One round of the wait. -/
  | poll
  /-- The output is returned. -/
  | fetch
  /-- An interrupt, with the answers to its transfers. -/
  | irq (script : List UInt8)

/-- The step a move is, if it is possible. -/
def Desk.play (d : Desk) : DeskMove → Option (DeskEvent × Desk)
  | .call command =>
    if d.calling=.idle ∧ command≠0 then some (.call command,{d with
      radif := {d.radif with command := command}
      calling := .placed
      calls := d.calls++[command]})
    else none
  | .trigger => if d.calling=.placed then some (.trigger,{d with calling := .waiting}) else none
  | .poll =>
    if d.calling=.waiting then
      some (.poll,if d.radif.command=0 then {d with calling := .answered} else d)
    else none
  | .fetch =>
    if d.calling=.answered then some (.fetch,{d with
      calling := .idle
      returns := d.returns++[d.radif.commandOutput]})
    else none
  | .irq script =>
    let talk := (radioIrq 3 d.radif).transcript scripted script
    ((radioIrq 3 d.radif).run scripted script).map fun result => (.irq talk,{d with
      radif := result.1
      errands := if d.radif.command=0 then d.errands else d.errands++[⟨d.radif,talk,result.1⟩]})

/-- Every move of the desk is a step of it. -/
theorem play_deskStep {d d' : Desk} {move : DeskMove} {event : DeskEvent}
    (h : d.play move=some (event,d')) : deskStep d event d' := by
  unfold Desk.play at h
  cases move with
  | call command =>
    dsimp only at h
    split at h
    · next hcall =>
      obtain ⟨rfl,rfl⟩ := Prod.mk.inj (Option.some.inj h)
      exact ⟨hcall.1,hcall.2,rfl⟩
    · cases h
  | irq script =>
    obtain ⟨⟨radif,rest⟩,hrun,heq⟩ := Option.map_eq_some_iff.mp h
    obtain ⟨rfl,rfl⟩ := Prod.mk.inj heq
    exact ⟨3,radif,run_yields hrun,rfl⟩
  | _ =>
    dsimp only at h
    split at h
    · next hcalling =>
      obtain ⟨rfl,rfl⟩ := Prod.mk.inj (Option.some.inj h)
      exact ⟨hcalling,rfl⟩
    · cases h

/-- The frequency is set by the interrupt that was triggered, and then the power
by one that comes before the trigger; a third one finds nothing to do. -/
def twoCommands : List DeskMove :=
  [.call Command.setFreq.code,.trigger,.poll,.irq [],.poll,.fetch,.call Command.setPower.code,
    .irq [],.trigger,.irq [],.poll,.fetch]

/-- Both commands are carried out, and the second returns the output of the
first. -/
theorem two_commands_carried_out : ∃ ts d,Path deskStep (Desk.start downRadif) ts d ∧
    d.calls=[Command.setFreq.code,Command.setPower.code] ∧
    d.returns=[RadioState.radioSuccess,RadioState.radioSuccess] ∧
    InOrder d ∧
    (∀ errand∈d.errands,CarriedOut errand) ∧
    (∀ t∈ts,∀ talk,t.label=.irq talk → CarriedOut ⟨t.before.radif,talk,t.after.radif⟩) ∧
    (d.calling=.idle →
      d.calls=d.errands.map Errand.command ∧ d.returns=d.errands.map Errand.output) ∧
    StaleFrom downRadif.commandOutput d.errands := by
  have hrun : (traceOf Desk.play (Desk.start downRadif) twoCommands).any (fun run =>
      run.2.calls=[Command.setFreq.code,Command.setPower.code] ∧
        run.2.returns=[RadioState.radioSuccess,RadioState.radioSuccess])=true := by
    decide +kernel
  obtain ⟨⟨ts,d⟩,htrace,hchecked⟩ := (Option.any_eq_true _ _).mp hrun
  obtain ⟨hcalls,hreturns⟩ := of_decide_eq_true hchecked
  have hpath : Path deskStep (Desk.start downRadif) ts d :=
    path_of_trace (fun _ _ _ _ => play_deskStep) htrace
  exact ⟨ts,d,hpath,hcalls,hreturns,commands_carried_out_once downRadif rfl ts d hpath⟩

end VlfGateway.RadioMailbox
