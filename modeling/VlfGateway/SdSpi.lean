import VlfGateway.SpiBus
import VlfGateway.SdCard

/-!
# The SD card driver octet by octet

The driver's command, read and write functions as they clock octets over the
bus, for any peripheral. Against them stands a card that follows the SPI mode
of the driver's introduction: it collects six octets of a command, answers
after a wait of its own choosing, and then sends or takes a block. On a card
that answers in time, every sequence of driver calls gives what the block
level model of the driver gives on the pages the driver can address.
-/

namespace VlfGateway.SdSpi

open SpiBus
open SdCard (Page Card sdCommandTimeout tokenAccepted fillPage WriteReply)

section Driver

variable {σ : Type} (d : Device σ)

/-- The octets of a command: its number, its argument with the most
significant octet first, and the checksum octet. -/
def commandOctets (index : UInt8) (arg : UInt32) (crc : UInt8) : List UInt8 :=
  [0x40 ||| index,(arg>>>24).toUInt8,(arg>>>16).toUInt8,(arg>>>8).toUInt8,arg.toUInt8,crc]

/-- `SD_SPI_DISABLE` and one more octet, with which every exchange ends. -/
def finish (bus : Bus σ) : Bus σ := (exchange d 0xFF (bus.disable d)).2

/-- A response has its top bit clear. -/
def isResponse (octet : UInt8) : Bool := octet &&& 0x80==0

/-- Assert the select line, send a command and poll for its response. -/
def command (limit : ℕ) (octets : List UInt8) (bus : Bus σ) : Option (ℕ×UInt8)×Bus σ :=
  poll d isResponse 0xFF (send d bus.enable octets) 0 limit

/-- `_cmd`. -/
def cmd (index : UInt8) (arg : UInt32) (bus : Bus σ) : ℤ×Bus σ :=
  match command d sdCommandTimeout (commandOctets index arg 0x95) bus with
  | (some (_,response),bus) => (response.toNat,finish d bus)
  | (none,bus) => (-1,finish d bus)

/-- `_cmdx`: a response leaves the select line asserted. -/
def cmdx (index : UInt8) (arg : UInt32) (bus : Bus σ) : ℤ×Bus σ :=
  match command d sdCommandTimeout (commandOctets index arg 0x95) bus with
  | (some (_,response),bus) => (response.toNat,bus)
  | (none,bus) => (-1,finish d bus)

/-- `_block_read`: the buffer afterwards. The wait for the start token has no
bound of its own; `fuel` bounds it here and `none` is a wait that outlasts it. -/
def blockRead (fuel : ℕ) (buffer : List UInt8) (length : ℕ) (bus : Bus σ) :
    Option (List UInt8×Bus σ) :=
  match poll d (·==0xFE) 0xFF bus.enable 0 fuel with
  | (none,_) => none
  | (some _,bus) =>
    let data := receive d 0xFF bus length
    let rest := receive d 0xFF data.2 (512-length)
    let checksum := receive d 0xFF rest.2 2
    some (data.1++buffer.drop length,finish d checksum.2)

/-- `_block_write`. The wait for the end of the write is bounded by `fuel`. -/
def blockWrite (fuel : ℕ) (buffer : List UInt8) (length : ℕ) (bus : Bus σ) : Option (ℕ×Bus σ) :=
  let started := (exchange d 0xFE bus.enable).2
  let sent := send d started (buffer.take length)
  let padded := send d sent (List.replicate (512-length) 0xFF)
  let summed := send d padded [0xFF,0xFF]
  let reply := exchange d 0xFF summed
  if tokenAccepted reply.1 then
    match poll d (·!=0) 0xFF reply.2 0 fuel with
    | (none,_) => none
    | (some _,bus) => some (0,finish d bus)
  else some (1,finish d reply.2)

/-- `disk_write`: the result of `_block_write` is dropped. -/
def diskWrite (fuel : ℕ) (buffer : List UInt8) (length block : ℕ) (bus : Bus σ) : Option (ℕ×Bus σ) :=
  if 512<length then some (0,bus)
  else if 0x007FFFFF<block then some (0,bus)
  else
    let addressed := cmd d 24 (UInt32.ofNat (block*512)) bus
    if addressed.1≠0 then some (1,addressed.2)
    else (blockWrite d fuel buffer length addressed.2).map fun written => (0,written.2)

/-- `disk_read`: the return code and the buffer afterwards. -/
def diskRead (fuel : ℕ) (buffer : List UInt8) (length block : ℕ) (bus : Bus σ) :
    Option ((ℕ×List UInt8)×Bus σ) :=
  if 512<length then some ((0,buffer),bus)
  else if 0x007FFFFF<block then some ((0,buffer),bus)
  else
    let addressed := cmd d 17 (UInt32.ofNat (block*512)) bus
    if addressed.1≠0 then some ((1,buffer),addressed.2)
    else (blockRead d fuel buffer length addressed.2).map fun read => ((0,read.1),read.2)

end Driver

/-- What the argument of a read or write command counts. -/
inductive Addressing
  /-- Octets: cards of standard capacity. -/
  | octets
  /-- Blocks of 512 octets: cards of high capacity. -/
  | blocks
  deriving DecidableEq

/-- How a card answers one command. -/
structure Manner where
  /-- Octets before the response. -/
  wait : ℕ
  /-- The response to an argument in range. -/
  response : UInt8
  /-- Octets between the response and the token of the data. -/
  dataWait : ℕ
  /-- Token in front of the data; anything but 0xFE is an error and ends it. -/
  start : UInt8
  /-- Checksum octets after the data. -/
  checksum : UInt8×UInt8
  /-- Data response token to a written block. -/
  token : UInt8
  /-- Zero octets while an accepted block is stored. -/
  busy : ℕ

/-- The fixed properties of a card. -/
structure Make where
  /-- What its addresses count. -/
  addressing : Addressing
  /-- Number of its blocks. -/
  capacity : ℕ
  /-- Its card specific data register. -/
  csd : List UInt8
  /-- How it answers each command, in the order they arrive. -/
  manner : ℕ → Manner

/-- What a card does with the next octet it hears. -/
inductive Intake
  /-- Collects a command. -/
  | command (received : List UInt8)
  /-- Waits for the start token of a block to be written. -/
  | start (number : ℕ)
  /-- Collects a block and its checksum. -/
  | data (number : ℕ) (received : List UInt8)

/-- A card at work. -/
structure Link where
  /-- Contents of its blocks. -/
  page : ℕ → Page
  /-- Commands served so far. -/
  served : ℕ
  /-- Octets it still has to send. -/
  outgoing : List UInt8
  /-- What it does with the octets it hears. -/
  intake : Intake

namespace Make

variable (make : Make)

/-- The block an argument addresses, if the card has it. -/
def locate (arg : ℕ) : Option ℕ :=
  match make.addressing with
  | .octets => if arg%512=0 ∧ arg/512 < make.capacity then some (arg/512) else none
  | .blocks => if arg < make.capacity then some arg else none

/-- Response in front of whatever follows it. -/
def answer (k : ℕ) (response : UInt8) (rest : List UInt8) : List UInt8 :=
  List.replicate (make.manner k).wait 0xFF++response::rest

/-- A block as the card sends it after its response. -/
def dataOctets (k : ℕ) (data : List UInt8) : List UInt8 :=
  List.replicate (make.manner k).dataWait 0xFF++
    if (make.manner k).start=0xFE then
      0xFE::(data++[(make.manner k).checksum.1,(make.manner k).checksum.2])
    else [(make.manner k).start]

/-- The response to an argument that is out of range: parameter error. -/
def outOfRange : UInt8 := 0x40

/-- Answer a complete command. -/
def obey (link : Link) (index arg : ℕ) : Link :=
  let k := link.served
  let response := (make.manner k).response
  let link := {link with served := k+1,intake := .command []}
  match index with
  | 8 => {link with outgoing := make.answer k response [0x00,0x00,0x01,0xAA]}
  | 9 =>
    let data := if response=0 then make.dataOctets k make.csd else []
    {link with outgoing := make.answer k response data}
  | 17 =>
    match make.locate arg with
    | none => {link with outgoing := make.answer k outOfRange []}
    | some number =>
      let data := if response=0 then make.dataOctets k (link.page number).octets else []
      {link with outgoing := make.answer k response data}
  | 24 =>
    match make.locate arg with
    | none => {link with outgoing := make.answer k outOfRange []}
    | some number => {link with
        outgoing := make.answer k response []
        intake := if response=0 then .start number else .command []}
  | 58 => {link with outgoing := make.answer k response [0xC0,0xFF,0x80,0x00]}
  | _ => {link with outgoing := make.answer k response []}

/-- Store a complete block, if the card's token accepts it. -/
def store (link : Link) (number : ℕ) (received : List UInt8) : Link :=
  let manner := make.manner (link.served-1)
  if tokenAccepted manner.token then
    {link with
      page := Function.update link.page number (fillPage received 512)
      outgoing := manner.token::List.replicate manner.busy 0x00
      intake := .command []}
  else {link with outgoing := [manner.token],intake := .command []}

/-- The argument of a collected command. -/
def argument : List UInt8 → ℕ
  | [_,a,b,c,e,_] => a.toNat*2^24+b.toNat*2^16+c.toNat*2^8+e.toNat
  | _ => 0

/-- Hear one octet while nothing is being sent. -/
def hear (link : Link) (octet : UInt8) : Link :=
  match link.intake with
  | .command received =>
    -- Fillers between two commands do not start one.
    if received=[] ∧ octet &&& 0xC0≠0x40 then link
    else if received.length+1<6 then {link with intake := .command (received++[octet])}
    else make.obey link ((received++[octet]).headD 0 &&& 0x3F).toNat (argument (received++[octet]))
  | .start number => if octet=0xFE then {link with intake := .data number []} else link
  | .data number received =>
    if received.length+1<514 then {link with intake := .data number (received++[octet])}
    else make.store link number (received++[octet])

/-- The card as a peripheral: what it has to send goes first. Releasing the
select line suspends it. -/
def device : Device Link where
  shift link octet :=
    match link.outgoing with
    | [] => (0xFF,make.hear link octet)
    | first::rest => (first,{link with outgoing := rest})
  release link := link

/-- While something is to be sent, each octet brings the next of it. -/
theorem shift_outgoing {link : Link} {first : UInt8} {rest : List UInt8}
    (h : link.outgoing=first::rest) (octet : UInt8) :
    make.device.shift link octet=(first,{link with outgoing := rest}) := by
  unfold device
  simp only [h]

/-- A card with nothing to send hears the octet. -/
theorem shift_hear (link : Link) (h : link.outgoing=[]) (octet : UInt8) :
    make.device.shift link octet=(0xFF,make.hear link octet) := by
  unfold device
  simp only [h]

/-- What is to be sent comes in order, whatever is shifted in. -/
theorem run_outgoing (link : Link) (sent rest octets : List UInt8)
    (h : link.outgoing=sent++rest) (hl : octets.length=sent.length) :
    make.device.run link octets=(sent,{link with outgoing := rest}) := by
  induction sent generalizing link octets with
  | nil =>
    rw [List.length_nil] at hl
    rw [List.eq_nil_of_length_eq_zero hl,run_nil]
    rw [List.nil_append] at h
    rw [←h]
  | cons first sent ih =>
    obtain ⟨octet,tail,rfl⟩ := List.exists_cons_of_length_eq_add_one hl
    rw [List.cons_append] at h
    rw [run_cons,make.shift_outgoing h]
    have hrec := ih {link with outgoing := sent++rest} tail rfl (Nat.succ.inj hl)
    simp only [hrec]

/-- The octets of an argument put together give the argument. -/
theorem argument_commandOctets (index : UInt8) (arg : UInt32) (crc : UInt8) :
    argument (commandOctets index arg crc)=arg.toNat := by
  have hlt := arg.toNat_lt
  have h24 : (24 : UInt32).toNat%32=24 := rfl
  have h16 : (16 : UInt32).toNat%32=16 := rfl
  have h8 : (8 : UInt32).toNat%32=8 := rfl
  unfold commandOctets argument
  simp only [UInt32.toNat_toUInt8,UInt32.toNat_shiftRight,h24,h16,h8,Nat.shiftRight_eq_div_pow]
  omega

/-- Further octets of a begun command are collected. -/
theorem run_collect (link : Link) (received octets : List UInt8) (hr : received≠[])
    (ho : link.outgoing=[]) (hi : link.intake=.command received)
    (hl : received.length+octets.length<6) :
    (make.device.run link octets).2={link with intake := .command (received++octets)} := by
  induction octets generalizing link received with
  | nil =>
    rw [run_nil,List.append_nil,←hi]
  | cons octet rest ih =>
    rw [List.length_cons] at hl
    have hone : make.hear link octet={link with intake := .command (received++[octet])} := by
      unfold hear
      simp only [hi]
      rw [if_neg (fun h => hr h.1),if_pos (by omega)]
    have hrec := ih {link with intake := .command (received++[octet])} (received++[octet])
      (by simp) ho rfl (by rw [List.length_append,List.length_singleton]; omega)
    rw [run_cons,make.shift_hear _ ho,hone]
    simp only [hrec,List.append_assoc,List.singleton_append]

/-- The sixth octet of a command completes it. -/
theorem run_complete (link : Link) (received : List UInt8) (octet : UInt8)
    (ho : link.outgoing=[]) (hi : link.intake=.command received) (hl : received.length=5) :
    (make.device.run link [octet]).2=make.obey link ((received++[octet]).headD 0 &&& 0x3F).toNat
      (argument (received++[octet])) := by
  have hne : received≠[] := List.ne_nil_of_length_pos (by omega)
  rw [run_cons,make.shift_hear _ ho,run_nil]
  unfold hear
  simp only [hi]
  rw [if_neg (fun h => hne h.1),if_neg (by omega)]

/-- What a card does with a command does not depend on how it was collected. -/
theorem obey_frame (link : Link) (index arg : ℕ) (outgoing : List UInt8) (intake : Intake) :
    make.obey {link with outgoing := outgoing,intake := intake} index arg=
      make.obey link index arg := rfl

/-- The first octet of a command is marked as one and carries its number. -/
theorem command_mark {index : UInt8} (hx : index<64) :
    (0x40 ||| index) &&& 0xC0=0x40 ∧ ((0x40 ||| index) &&& 0x3F).toNat=index.toNat := by
  have hall : ∀ n : Fin 64,(0x40 ||| UInt8.ofNat n) &&& 0xC0=0x40 ∧
      ((0x40 ||| UInt8.ofNat n) &&& 0x3F).toNat=n := by decide
  have h := hall ⟨index.toNat,UInt8.lt_iff_toNat_lt.mp hx⟩
  rwa [UInt8.ofNat_toNat] at h

/-- A card that hears the octets of a command and has nothing to send obeys it. -/
theorem run_command {link : Link} (ho : link.outgoing=[]) (hi : link.intake=.command [])
    {index : UInt8} (hx : index<64) (arg : UInt32) (crc : UInt8) :
    (make.device.run link (commandOctets index arg crc)).2=make.obey link index.toNat arg.toNat := by
  have harg := argument_commandOctets index arg crc
  obtain ⟨hfirst,hindex⟩ := command_mark hx
  have hbegin : make.hear link (0x40 ||| index)=
      {link with intake := .command [0x40 ||| index]} := by
    unfold hear
    simp only [hi]
    rw [if_neg (fun h => h.2 hfirst),if_pos (by decide)]
    rfl
  have hmiddle := make.run_collect {link with intake := .command [0x40 ||| index]} [0x40 ||| index]
    [(arg>>>24).toUInt8,(arg>>>16).toUInt8,(arg>>>8).toUInt8,arg.toUInt8] (by simp) ho rfl (by simp)
  have hlast := make.run_complete {link with intake := .command [0x40 ||| index,(arg>>>24).toUInt8,
    (arg>>>16).toUInt8,(arg>>>8).toUInt8,arg.toUInt8]} _ crc ho rfl rfl
  have hsplit : commandOctets index arg crc=[0x40 ||| index]++([(arg>>>24).toUInt8,
      (arg>>>16).toUInt8,(arg>>>8).toUInt8,arg.toUInt8]++[crc]) := rfl
  have hone : (make.device.run link [0x40 ||| index]).2=
      {link with intake := .command [0x40 ||| index]} := by
    rw [run_cons,make.shift_hear _ ho,hbegin,run_nil]
  rw [hsplit,run_append,hone,run_append,hmiddle]
  refine hlast.trans ?_
  rw [show _++[crc]=commandOctets index arg crc from rfl,harg]
  simp only [commandOctets,List.headD_cons,hindex]
  exact make.obey_frame link _ _ link.outgoing _

/-- A queue of fillers in front of an accepted octet is polled through. -/
theorem poll_queue (link : Link) (accept : UInt8 → Bool) (wait limit : ℕ) (found : UInt8)
    (rest : List UInt8) (ho : link.outgoing=List.replicate wait 0xFF++found::rest)
    (hw : wait<limit) (hskip : accept 0xFF=false) (hfound : accept found=true) :
    poll make.device accept 0xFF ⟨link,true⟩ 0 limit=
      (some (wait,found),⟨{link with outgoing := rest},true⟩) := by
  have hrun := make.run_outgoing link (List.replicate wait 0xFF) (found::rest)
    (List.replicate wait 0xFF) ho rfl
  have hshift := make.shift_outgoing (show Link.outgoing {link with outgoing := found::rest}=
    found::rest from rfl) 0xFF
  have hpoll := poll_blanks make.device accept 0xFF link 0 wait (limit-wait-1+1) (by
    rw [hrun]
    intro answer hm
    rw [List.eq_of_mem_replicate hm]
    exact hskip)
  rw [show wait+(limit-wait-1+1)=limit by omega,hrun] at hpoll
  rw [hpoll,poll_found _ _ _ _ _ _ (by rw [hshift]; exact hfound),hshift,Nat.zero_add]

end Make

/-- A card with nothing to send and no command begun. -/
structure Link.Idle (link : Link) : Prop where
  /-- Nothing is waiting to be sent. -/
  silent : link.outgoing=[]
  /-- No command has begun. -/
  awaiting : link.intake=.command []

namespace Make

variable (make : Make)

/-- A command to an idle card is answered as soon as the card has waited. -/
theorem command_answered {link : Link} (hlink : link.Idle) {index : UInt8} (hx : index<64)
    (arg : UInt32) (crc : UInt8) {limit wait : ℕ} {response : UInt8} {rest : List UInt8}
    (ho : (make.obey link index.toNat arg.toNat).outgoing=
      List.replicate wait 0xFF++response::rest)
    (hw : wait<limit) (hr : isResponse response=true) (line : Bool) :
    command make.device limit (commandOctets index arg crc) ⟨link,line⟩=
      (some (wait,response),
        ⟨{make.obey link index.toNat arg.toNat with outgoing := rest},true⟩) := by
  unfold command
  rw [show Bus.enable ⟨link,line⟩=(⟨link,true⟩ : Bus Link) from rfl,send_selected,
    make.run_command hlink.silent hlink.awaiting hx]
  exact make.poll_queue _ _ wait limit response rest ho hw (by decide) hr

/-- `_cmd` gives the card's response and releases the card. -/
theorem cmd_answered {link : Link} (hlink : link.Idle) {index : UInt8} (hx : index<64)
    (arg : UInt32) {wait : ℕ} {response : UInt8} {rest : List UInt8}
    (ho : (make.obey link index.toNat arg.toNat).outgoing=
      List.replicate wait 0xFF++response::rest)
    (hw : wait < sdCommandTimeout) (hr : isResponse response=true) (line : Bool) :
    cmd make.device index arg ⟨link,line⟩=
      ((response.toNat : ℤ),
        ⟨{make.obey link index.toNat arg.toNat with outgoing := rest},false⟩) := by
  unfold cmd
  rw [make.command_answered hlink hx arg 0x95 ho hw hr line]
  rfl

/-- A filler between two commands changes nothing. -/
theorem hear_filler (link : Link) (hi : link.intake=.command []) : make.hear link 0xFF=link := by
  unfold hear
  simp only [hi]
  exact if_pos ⟨trivial,by decide⟩

/-- Fillers bring what is to be sent and then the idle line. -/
theorem run_fillers (link : Link) (hi : link.intake=.command []) (count : ℕ) :
    make.device.run link (List.replicate count 0xFF)=
      (link.outgoing.take count++List.replicate (count-link.outgoing.length) 0xFF,
        {link with outgoing := link.outgoing.drop count}) := by
  induction count generalizing link with
  | zero => simp
  | succ count ih =>
    rw [List.replicate_succ,run_cons]
    cases ho : link.outgoing with
    | nil =>
      rw [make.shift_hear _ ho,make.hear_filler _ hi,ih link hi,ho]
      simp [List.replicate_succ]
    | cons first rest =>
      rw [make.shift_outgoing ho,ih {link with outgoing := rest} hi]
      simp

/-- `_block_read` from a card that sends a block: the front of the block goes
to the buffer and the card is idle again. -/
theorem blockRead_sent (link : Link) (hi : link.intake=.command []) {fuel wait : ℕ}
    {data : List UInt8} {checksum : UInt8×UInt8} (buffer : List UInt8) {length : ℕ}
    (ho : link.outgoing=List.replicate wait 0xFF++0xFE::(data++[checksum.1,checksum.2]))
    (hw : wait<fuel) (hl : length≤data.length) (hd : data.length≤512) (hle : length≤512)
    (line : Bool) :
    blockRead make.device fuel buffer length ⟨link,line⟩=
      some (data.take length++buffer.drop length,⟨{link with outgoing := []},false⟩) := by
  have hpoll := make.poll_queue link (·==0xFE) wait fuel 0xFE _ ho hw (by decide) (by decide)
  have hend : (data++[checksum.1,checksum.2]).drop (length+(512-length)+2)=[] :=
    List.drop_eq_nil_of_le (by
      rw [List.length_append,List.length_cons,List.length_singleton]
      omega)
  have hfront : length-(data++[checksum.1,checksum.2]).length=0 := by
    rw [List.length_append]
    omega
  unfold blockRead
  rw [show Bus.enable ⟨link,line⟩=(⟨link,true⟩ : Bus Link) from rfl,hpoll]
  simp only [receive_selected]
  rw [make.run_fillers {link with outgoing := data++[checksum.1,checksum.2]} hi length]
  simp only
  rw [make.run_fillers {link with outgoing := (data++[checksum.1,checksum.2]).drop length} hi]
  simp only
  rw [make.run_fillers {link with
    outgoing := ((data++[checksum.1,checksum.2]).drop length).drop (512-length)} hi]
  simp only [List.drop_drop,hend,hfront,List.take_append_of_le_length hl,List.replicate_zero,
    List.append_nil]
  rfl

/-- Octets of a block that is not yet complete are collected. -/
theorem run_data (link : Link) (number : ℕ) (received octets : List UInt8)
    (ho : link.outgoing=[]) (hi : link.intake=.data number received)
    (hl : received.length+octets.length<514) :
    (make.device.run link octets).2={link with intake := .data number (received++octets)} := by
  induction octets generalizing link received with
  | nil =>
    rw [run_nil,List.append_nil,←hi]
  | cons octet rest ih =>
    rw [List.length_cons] at hl
    have hone : make.hear link octet={link with intake := .data number (received++[octet])} := by
      unfold hear
      simp only [hi]
      rw [if_pos (by omega)]
    have hrec := ih {link with intake := .data number (received++[octet])} (received++[octet])
      ho rfl (by rw [List.length_append,List.length_singleton]; omega)
    rw [run_cons,make.shift_hear _ ho,hone]
    simp only [hrec,List.append_assoc,List.singleton_append]

/-- A start token, 512 octets and a checksum are a complete block. -/
theorem run_block (link : Link) (number : ℕ) (data : List UInt8) (high low : UInt8)
    (ho : link.outgoing=[]) (hi : link.intake=.start number) (hl : data.length=512) :
    (make.device.run link (0xFE::(data++[high,low]))).2=
      make.store link number (data++[high,low]) := by
  have hstart : make.hear link 0xFE={link with intake := .data number []} := by
    unfold hear
    simp only [hi,if_true]
  have hdata := make.run_data {link with intake := .data number []} number [] (data++[high]) ho rfl
    (by rw [List.length_append,List.length_singleton,List.length_nil]; omega)
  have hlast : make.hear {link with intake := .data number (data++[high])} low=
      make.store link number (data++[high,low]) := by
    unfold hear
    simp only [List.length_append,List.length_singleton,List.append_assoc,List.singleton_append]
    rw [if_neg (by omega)]
    rfl
  have hshift := make.shift_hear {link with intake := .data number (data++[high])} ho low
  rw [run_cons,make.shift_hear _ ho,hstart,show data++[high,low]=(data++[high])++[low] by simp,
    run_append,hdata,List.nil_append,run_cons,hshift,hlast]
  simp

/-- The block sent for a buffer and its checksum is the filled page. -/
theorem fillPage_sent {buffer : List UInt8} {length : ℕ} (hb : length≤buffer.length)
    (hl : length≤512) (high low : UInt8) :
    fillPage (buffer.take length++List.replicate (512-length) 0xFF++[high,low]) 512=
      fillPage buffer length := by
  have hlen : (buffer.take length++List.replicate (512-length) (0xFF : UInt8)).length=512 := by
    rw [List.length_append,List.length_take,List.length_replicate]
    omega
  have hfill : (buffer.take length++List.replicate 512 (0xFF : UInt8)).take 512=
      buffer.take length++List.replicate (512-length) 0xFF := by
    rw [List.take_append,List.take_of_length_le (by rw [List.length_take]; omega),
      List.take_replicate,List.length_take]
    congr 2
    omega
  unfold fillPage
  congr 1
  rw [hfill,List.take_append_of_le_length (by rw [List.length_take,List.length_append]; omega),
    List.take_take,List.take_append_of_le_length (by rw [hlen]; omega),
    List.take_of_length_le (by rw [hlen]; omega)]

/-- The wait for the end of a write ends with the first octet of the idle line. -/
theorem poll_busy (link : Link) (busy fuel : ℕ) (ho : link.outgoing=List.replicate busy 0x00)
    (hi : link.intake=.command []) (hf : busy<fuel) :
    poll make.device (·!=0) 0xFF ⟨link,true⟩ 0 fuel=
      (some (busy,0xFF),⟨{link with outgoing := []},true⟩) := by
  have hrun := make.run_outgoing link (List.replicate busy 0x00) [] (List.replicate busy 0xFF)
    (by rw [ho,List.append_nil]) (by rw [List.length_replicate,List.length_replicate])
  have hshift := make.shift_hear {link with outgoing := []} rfl 0xFF
  have hpoll := poll_blanks make.device (·!=0) 0xFF link 0 busy (fuel-busy-1+1) (by
    rw [hrun]
    intro answer hm
    rw [List.eq_of_mem_replicate hm]
    rfl)
  rw [show busy+(fuel-busy-1+1)=fuel by omega,hrun] at hpoll
  rw [hpoll,poll_found _ _ _ _ _ _ (by rw [hshift]; rfl),hshift,Nat.zero_add,
    make.hear_filler {link with outgoing := []} hi]

/-- `_block_write` to a card that waits for a block: the card's token decides
the result and whether the page is stored, and the card is idle again. -/
theorem blockWrite_taken (link : Link) (number : ℕ) (ho : link.outgoing=[])
    (hi : link.intake=.start number) {fuel : ℕ} {buffer : List UInt8} {length : ℕ}
    (hb : length≤buffer.length) (hl : length≤512)
    (hbusy : (make.manner (link.served-1)).busy<fuel) (line : Bool) :
    blockWrite make.device fuel buffer length ⟨link,line⟩=
      if tokenAccepted (make.manner (link.served-1)).token then
        some (0,⟨{link with
          page := Function.update link.page number (fillPage buffer length)
          intake := .command []},false⟩)
      else some (1,⟨{link with intake := .command []},false⟩) := by
  have hblock := make.run_block link number
    (buffer.take length++List.replicate (512-length) 0xFF) 0xFF 0xFF ho hi (by
      rw [List.length_append,List.length_take,List.length_replicate]
      omega)
  have hsent : send make.device (send make.device (send make.device
      (exchange make.device 0xFE (Bus.enable ⟨link,line⟩)).2 (buffer.take length))
      (List.replicate (512-length) 0xFF)) [0xFF,0xFF]=
      ⟨make.store link number (buffer.take length++List.replicate (512-length) 0xFF++[0xFF,0xFF]),
        true⟩ := by
    rw [send_append,send_append,←hblock,←List.append_assoc]
    exact send_selected make.device link
      (0xFE::(buffer.take length++List.replicate (512-length) 0xFF++[0xFF,0xFF]))
  unfold blockWrite
  simp only [hsent]
  cases htoken : tokenAccepted (make.manner (link.served-1)).token with
  | true =>
    have hstore : make.store link number
        (buffer.take length++List.replicate (512-length) 0xFF++[0xFF,0xFF])=
        {link with
          page := Function.update link.page number (fillPage buffer length)
          outgoing := (make.manner (link.served-1)).token::
            List.replicate (make.manner (link.served-1)).busy 0x00
          intake := .command []} := by
      unfold store
      simp only [htoken,if_true,fillPage_sent hb hl]
    have hwait := make.poll_busy {link with
      page := Function.update link.page number (fillPage buffer length)
      outgoing := List.replicate (make.manner (link.served-1)).busy 0x00
      intake := .command []} _ fuel rfl rfl hbusy
    rw [hstore,exchange_selected,make.shift_outgoing rfl]
    simp only [htoken,if_true,hwait,ho]
    rfl
  | false =>
    have hstore : make.store link number
        (buffer.take length++List.replicate (512-length) 0xFF++[0xFF,0xFF])=
        {link with outgoing := [(make.manner (link.served-1)).token],intake := .command []} := by
      unfold store
      simp only [htoken,Bool.false_eq_true,if_false]
    rw [hstore,exchange_selected,make.shift_outgoing rfl]
    simp only [htoken,Bool.false_eq_true,if_false,ho]
    rfl

/-- The block of the card behind a block number of the driver, which always
sends the number times 512. -/
def reach (block : ℕ) : ℕ :=
  match make.addressing with
  | .octets => block
  | .blocks => block*512

/-- The blocks of the card under the driver's numbers. -/
def view (sectors : UInt64) (link : Link) : Card := ⟨sectors,fun block => link.page (make.reach block)⟩

/-- Response to the read or write command for a block. -/
def responseTo (k block : ℕ) : UInt8 :=
  if make.reach block < make.capacity then (make.manner k).response else outOfRange

/-- Octets polled after the read or write command for a block. -/
def polls (k block : ℕ) : List UInt8 :=
  List.replicate (make.manner k).wait 0xFF++[make.responseTo k block]

/-- The answers to a write in the terms of the block level model. -/
def replyTo (k block : ℕ) : WriteReply := ⟨make.polls k block,(make.manner k).token⟩

/-- The card answers its `k`-th command in time. -/
structure Answers (k : ℕ) : Prop where
  /-- The response comes before the driver gives up. -/
  wait : (make.manner k).wait < sdCommandTimeout
  /-- It is a response. -/
  response : isResponse (make.manner k).response=true

/-- The card answers its `k`-th command in time, sends the block it was asked
for and is done with a block it was sent. -/
structure Prompt (fuel k : ℕ) : Prop extends make.Answers k where
  /-- A block follows before the bound of the wait for it. -/
  dataWait : (make.manner k).dataWait<fuel
  /-- It starts with the start token. -/
  start : (make.manner k).start=0xFE
  /-- A write ends before the bound of the wait for it. -/
  busy : (make.manner k).busy<fuel

/-- Different block numbers reach different blocks. -/
theorem reach_injective : Function.Injective make.reach := by
  intro a b h
  unfold reach at h
  cases hk : make.addressing <;> simp only [hk] at h
  · exact h
  · omega

/-- The argument of an addressable block fits. -/
theorem address_toNat {block : ℕ} (hb : block≤0x007FFFFF) :
    (UInt32.ofNat (block*512)).toNat=block*512 := by
  rw [UInt32.toNat_ofNat_of_lt']
  unfold UInt32.size
  omega

/-- The card looks up what the driver's argument reaches. -/
theorem locate_address (block : ℕ) :
    make.locate (block*512)=
      if make.reach block < make.capacity then some (make.reach block) else none := by
  unfold locate reach
  cases make.addressing with
  | octets =>
    simp only [Nat.mul_mod_left,Nat.mul_div_cancel block (by decide : 0<512),true_and]
  | blocks => rfl

/-- A response, also the one to an argument out of range. -/
theorem isResponse_responseTo {k : ℕ} (hp : make.Answers k) (block : ℕ) :
    isResponse (make.responseTo k block)=true := by
  unfold responseTo
  split
  · exact hp.response
  · rfl

/-- The block level model polls the same response. -/
theorem cmd_polls {k : ℕ} (hp : make.Answers k) (block : ℕ) :
    SdCard.cmd (make.polls k block)=(make.responseTo k block).toNat := by
  have hskip : (List.replicate (make.manner k).wait (0xFF : UInt8)).find?
      (fun response => response &&& 0x80==0)=none := by
    rw [List.find?_eq_none]
    intro octet hm
    rw [List.eq_of_mem_replicate hm]
    decide
  have hfound := make.isResponse_responseTo hp block
  unfold isResponse at hfound
  have hwait := hp.wait
  unfold SdCard.cmd polls
  rw [List.take_of_length_le (by
    rw [List.length_append,List.length_replicate,List.length_singleton]
    omega),List.find?_append,hskip]
  simp only [Option.none_or,List.find?_cons,hfound]

/-- The card after the command that addresses a block to be written. -/
theorem obey_write (link : Link) (block : ℕ) :
    make.obey link 24 (block*512)=
      {link with
        served := link.served+1
        outgoing := make.polls link.served block
        intake := if make.responseTo link.served block=0 then .start (make.reach block)
          else .command []} := by
  unfold obey polls responseTo answer
  simp only [make.locate_address]
  by_cases hr : make.reach block < make.capacity
  · simp only [if_pos hr]
  · simp only [if_neg hr]
    rfl

/-- The card after the command that addresses a block to be read. -/
theorem obey_read (link : Link) (block : ℕ) :
    make.obey link 17 (block*512)=
      {link with
        served := link.served+1
        outgoing := make.polls link.served block++
          if make.responseTo link.served block=0 then
            make.dataOctets link.served (link.page (make.reach block)).octets
          else []
        intake := .command []} := by
  unfold obey polls responseTo answer
  simp only [make.locate_address]
  by_cases hr : make.reach block < make.capacity
  · simp only [if_pos hr,List.append_assoc,List.singleton_append]
  · simp only [if_neg hr,List.append_assoc,List.singleton_append]
    rfl

/-- The driver's command for a block to be written. -/
theorem cmd_write {link : Link} (hlink : link.Idle) {block : ℕ}
    (hp : make.Answers link.served) (hb : block≤0x007FFFFF) (line : Bool) :
    cmd make.device 24 (UInt32.ofNat (block*512)) ⟨link,line⟩=
      (((make.responseTo link.served block).toNat : ℤ),
        ⟨{link with
          served := link.served+1
          outgoing := []
          intake := if make.responseTo link.served block=0 then .start (make.reach block)
            else .command []},false⟩) := by
  have ho := congrArg Link.outgoing (make.obey_write link block)
  rw [←address_toNat hb] at ho
  rw [make.cmd_answered hlink (by decide : (24 : UInt8)<64) _ ho hp.wait
    (make.isResponse_responseTo hp block) line,address_toNat hb]
  exact congrArg (fun obeyed : Link => (((make.responseTo link.served block).toNat : ℤ),
    (⟨{obeyed with outgoing := []},false⟩ : Bus Link))) (make.obey_write link block)

/-- The driver's command for a block to be read. -/
theorem cmd_read {link : Link} (hlink : link.Idle) {block : ℕ}
    (hp : make.Answers link.served) (hb : block≤0x007FFFFF) (line : Bool) :
    cmd make.device 17 (UInt32.ofNat (block*512)) ⟨link,line⟩=
      (((make.responseTo link.served block).toNat : ℤ),
        ⟨{link with
          served := link.served+1
          outgoing := if make.responseTo link.served block=0 then
              make.dataOctets link.served (link.page (make.reach block)).octets
            else []
          intake := .command []},false⟩) := by
  have ho := congrArg Link.outgoing (make.obey_read link block)
  unfold polls at ho
  rw [←address_toNat hb,List.append_assoc] at ho
  rw [make.cmd_answered hlink (by decide : (17 : UInt8)<64) _ ho hp.wait
    (make.isResponse_responseTo hp block) line,address_toNat hb]
  exact congrArg (fun obeyed : Link => (((make.responseTo link.served block).toNat : ℤ),
    (⟨{obeyed with outgoing := if make.responseTo link.served block=0 then
      make.dataOctets link.served (link.page (make.reach block)).octets else []},false⟩ :
        Bus Link))) (make.obey_read link block)

/-- A response of zero is the number zero. -/
theorem response_toNat_ne_zero (response : UInt8) : ((response.toNat : ℤ)≠0) ↔ response≠0 := by
  rw [Ne,Int.natCast_eq_zero,Ne,←UInt8.toNat_inj]
  rfl

/-- Storing what a block number reaches stores under that number. -/
theorem view_update (sectors : UInt64) (link : Link) (block : ℕ) (page : Page) (served : ℕ)
    (outgoing : List UInt8) (intake : Intake) :
    make.view sectors ⟨Function.update link.page (make.reach block) page,served,outgoing,intake⟩=
      {make.view sectors link with
        page := Function.update (make.view sectors link).page block page} := by
  unfold view
  congr 1
  exact Function.update_comp_eq_of_injective link.page make.reach_injective block page

/-- Number of commands a call with this length and block sends. -/
def commandsOf (length block : ℕ) : ℕ := if length≤512 ∧ block≤0x007FFFFF then 1 else 0

/-- A command is sent exactly for a short enough block with a small enough number. -/
theorem commandsOf_eq_one {length block : ℕ} :
    commandsOf length block=1 ↔ length≤512 ∧ block≤0x007FFFFF := by
  unfold commandsOf
  split <;> simp_all

/-- `disk_write` over the bus is the block level write on the viewed blocks.
It leaves the card idle and released, and every block but the reached one alone. -/
theorem diskWrite_refines {link : Link} (hlink : link.Idle) {fuel : ℕ}
    (hp : make.Prompt fuel link.served) (sectors : UInt64) {buffer : List UInt8} {length : ℕ}
    (hbuf : length≤buffer.length) (block : ℕ) :
    ∃ link' : Link,link'.Idle ∧ link'.served=link.served+commandsOf length block ∧
      diskWrite make.device fuel buffer length block ⟨link,false⟩=
        some ((SdCard.diskWrite (make.view sectors link) buffer length block
          (make.replyTo link.served block)).1,⟨link',false⟩) ∧
      make.view sectors link'=(SdCard.diskWrite (make.view sectors link) buffer length block
        (make.replyTo link.served block)).2 ∧
      ∀ number,number≠make.reach block → link'.page number=link.page number := by
  unfold diskWrite SdCard.diskWrite commandsOf
  by_cases hl : 512<length
  · refine ⟨link,hlink,?_,?_,?_,fun _ _ => rfl⟩
    · rw [if_neg (by omega)]
      rfl
    · rw [if_pos hl,if_pos hl]
    · rw [if_pos hl]
  by_cases hb : 0x007FFFFF<block
  · refine ⟨link,hlink,?_,?_,?_,fun _ _ => rfl⟩
    · rw [if_neg (by omega)]
      rfl
    · rw [if_neg hl,if_neg hl,if_pos hb,if_pos hb]
    · rw [if_neg hl,if_pos hb]
  rw [if_pos ⟨by omega,by omega⟩,if_neg hl,if_neg hl,if_neg hb,if_neg hb,
    make.cmd_write hlink hp.toAnswers (by omega) false]
  have hpolls : SdCard.cmd (make.replyTo link.served block).polls=
      (make.responseTo link.served block).toNat := make.cmd_polls hp.toAnswers block
  rw [hpolls]
  by_cases hr : make.responseTo link.served block=0
  · have hzero : ¬((make.responseTo link.served block).toNat : ℤ)≠0 :=
      fun h => (response_toNat_ne_zero _).mp h hr
    have hwrite := make.blockWrite_taken {link with
      served := link.served+1
      outgoing := []
      intake := .start (make.reach block)} (make.reach block) rfl rfl hbuf (by omega) hp.busy false
    simp only [if_neg hzero,if_pos hr]
    rw [hwrite]
    unfold SdCard.blockWrite
    rw [show (make.replyTo link.served block).token=(make.manner link.served).token from rfl]
    simp only [Nat.add_sub_cancel]
    cases tokenAccepted (make.manner link.served).token with
    | true => exact ⟨_,⟨rfl,rfl⟩,rfl,rfl,make.view_update sectors link block _ _ _ _,
        fun number hn => Function.update_of_ne hn _ _⟩
    | false => exact ⟨_,⟨rfl,rfl⟩,rfl,rfl,rfl,fun _ _ => rfl⟩
  · have hne := (response_toNat_ne_zero _).mpr hr
    simp only [if_pos hne,if_neg hr]
    exact ⟨_,⟨rfl,rfl⟩,rfl,rfl,rfl,fun _ _ => rfl⟩

/-- A block that follows a response in full. -/
theorem dataOctets_of_start {k : ℕ} (h : (make.manner k).start=0xFE) (data : List UInt8) :
    make.dataOctets k data=List.replicate (make.manner k).dataWait 0xFF++
      0xFE::(data++[(make.manner k).checksum.1,(make.manner k).checksum.2]) := by
  unfold dataOctets
  rw [if_pos h]

/-- `disk_read` over the bus is the block level read of the viewed blocks, and
leaves the card idle, released and with the same blocks. -/
theorem diskRead_refines {link : Link} (hlink : link.Idle) {fuel : ℕ}
    (hp : make.Prompt fuel link.served) (sectors : UInt64) (buffer : List UInt8) (length block : ℕ) :
    ∃ link' : Link,link'.Idle ∧ link'.served=link.served+commandsOf length block ∧
      diskRead make.device fuel buffer length block ⟨link,false⟩=
        some (SdCard.diskRead (make.view sectors link) buffer length block
          (make.polls link.served block),⟨link',false⟩) ∧
      link'.page=link.page := by
  unfold diskRead SdCard.diskRead commandsOf
  by_cases hl : 512<length
  · refine ⟨link,hlink,?_,?_,rfl⟩
    · rw [if_neg (by omega)]
      rfl
    · rw [if_pos hl,if_pos hl]
  by_cases hb : 0x007FFFFF<block
  · refine ⟨link,hlink,?_,?_,rfl⟩
    · rw [if_neg (by omega)]
      rfl
    · rw [if_neg hl,if_neg hl,if_pos hb,if_pos hb]
  rw [if_pos ⟨by omega,by omega⟩,if_neg hl,if_neg hl,if_neg hb,if_neg hb,
    make.cmd_read hlink hp.toAnswers (by omega) false,make.cmd_polls hp.toAnswers block]
  by_cases hr : make.responseTo link.served block=0
  · have hzero : ¬((make.responseTo link.served block).toNat : ℤ)≠0 :=
      fun h => (response_toNat_ne_zero _).mp h hr
    have hsize := (link.page (make.reach block)).size
    have hread := make.blockRead_sent {link with
      served := link.served+1
      outgoing := make.dataOctets link.served (link.page (make.reach block)).octets
      intake := .command []} rfl buffer (make.dataOctets_of_start hp.start _) hp.dataWait
      (by omega : length≤_) (by omega) (by omega) false
    simp only [if_neg hzero,if_pos hr]
    rw [hread]
    exact ⟨_,⟨rfl,rfl⟩,rfl,rfl,rfl⟩
  · have hne := (response_toNat_ne_zero _).mpr hr
    simp only [if_pos hne,if_neg hr]
    exact ⟨_,⟨rfl,rfl⟩,rfl,rfl,rfl⟩

end Make

/-- One call of the driver's block interface. -/
inductive DiskCall
  /-- `disk_write`. -/
  | write (buffer : List UInt8) (length block : ℕ)
  /-- `disk_read`. -/
  | read (buffer : List UInt8) (length block : ℕ)

namespace DiskCall

/-- Commands a call sends. -/
def commands : DiskCall → ℕ
  | write _ length block => Make.commandsOf length block
  | read _ length block => Make.commandsOf length block

/-- A written buffer holds the octets the call names. -/
def Held : DiskCall → Prop
  | write buffer length _ => length≤buffer.length
  | read _ _ _ => True

/-- The call over the bus: return code and the caller's buffer afterwards. -/
def overBus {σ : Type} (d : Device σ) (fuel : ℕ) (bus : Bus σ) :
    DiskCall → Option ((ℕ×List UInt8)×Bus σ)
  | write buffer length block =>
    (diskWrite d fuel buffer length block bus).map fun done => ((done.1,buffer),done.2)
  | read buffer length block => diskRead d fuel buffer length block bus

/-- Several calls one after another over the bus. -/
def allOverBus {σ : Type} (d : Device σ) (fuel : ℕ) (bus : Bus σ) :
    List DiskCall → Option (List (ℕ×List UInt8)×Bus σ)
  | [] => some ([],bus)
  | call::rest =>
    (overBus d fuel bus call).bind fun done =>
      (allOverBus d fuel done.2 rest).map fun tail => (done.1::tail.1,tail.2)

/-- The call in the block level model, with the answers to command `k`. -/
def onCard (make : Make) (k : ℕ) (card : Card) : DiskCall → (ℕ×List UInt8)×Card
  | write buffer length block =>
    let done := SdCard.diskWrite card buffer length block (make.replyTo k block)
    ((done.1,buffer),done.2)
  | read buffer length block => (SdCard.diskRead card buffer length block (make.polls k block),card)

/-- Several calls one after another in the block level model. -/
def allOnCard (make : Make) (k : ℕ) (card : Card) : List DiskCall → List (ℕ×List UInt8)×Card
  | [] => ([],card)
  | call::rest =>
    let done := onCard make k card call
    let tail := allOnCard make (k+call.commands) done.2 rest
    (done.1::tail.1,tail.2)

/-- Block number a call names. -/
def block : DiskCall → ℕ
  | write _ _ block => block
  | read _ _ block => block

/-- One call over the bus is the call of the block level model. -/
theorem overBus_refines (make : Make) {link : Link} (hlink : link.Idle) {fuel : ℕ}
    (hp : make.Prompt fuel link.served) (sectors : UInt64) {call : DiskCall} (hc : call.Held) :
    ∃ link' : Link,link'.Idle ∧ link'.served=link.served+call.commands ∧
      overBus make.device fuel ⟨link,false⟩ call=
        some ((onCard make link.served (make.view sectors link) call).1,⟨link',false⟩) ∧
      make.view sectors link'=(onCard make link.served (make.view sectors link) call).2 ∧
      ∀ number,number≠make.reach call.block → link'.page number=link.page number := by
  cases call with
  | write buffer length block =>
    obtain ⟨link',hidle,hserved,hcall,hview,hframe⟩ :=
      make.diskWrite_refines hlink hp sectors hc block
    exact ⟨link',hidle,hserved,
      congrArg (Option.map fun done : ℕ×Bus Link => ((done.1,buffer),done.2)) hcall,hview,hframe⟩
  | read buffer length block =>
    obtain ⟨link',hidle,hserved,hcall,hpage⟩ :=
      make.diskRead_refines hlink hp sectors buffer length block
    refine ⟨link',hidle,hserved,hcall,?_,fun number _ => congrFun hpage number⟩
    unfold Make.view onCard
    rw [hpage]

/-- Several calls over the bus are the calls of the block level model; blocks
that none of them reaches stay as they are. -/
theorem allOverBus_follows (make : Make) {fuel : ℕ} (hp : ∀ k,make.Prompt fuel k)
    (sectors : UInt64) {calls : List DiskCall} (hc : ∀ call∈calls,call.Held) {link : Link}
    (hlink : link.Idle) :
    ∃ link' : Link,link'.Idle ∧
      allOverBus make.device fuel ⟨link,false⟩ calls=
        some ((allOnCard make link.served (make.view sectors link) calls).1,⟨link',false⟩) ∧
      make.view sectors link'=(allOnCard make link.served (make.view sectors link) calls).2 ∧
      ∀ number,(∀ call∈calls,number≠make.reach call.block) →
        link'.page number=link.page number := by
  induction calls generalizing link with
  | nil => exact ⟨link,hlink,rfl,rfl,fun _ _ => rfl⟩
  | cons call rest ih =>
    obtain ⟨middle,hidle,hserved,hcall,hview,hframe⟩ :=
      overBus_refines make hlink (hp _) sectors (hc call (List.mem_cons_self ..))
    obtain ⟨last,hlast,hrest,hfinal,hkept⟩ :=
      ih (fun c hm => hc c (List.mem_cons_of_mem _ hm)) hidle
    rw [hserved,hview] at hrest hfinal
    refine ⟨last,hlast,?_,hfinal,fun number hn => ?_⟩
    · unfold allOverBus
      rw [hcall,Option.bind_some,hrest]
      rfl
    · rw [hkept number (fun c hm => hn c (List.mem_cons_of_mem _ hm)),
        hframe number (hn call (List.mem_cons_self ..))]

/-- Commands sent by several calls. -/
def commandsAll (calls : List DiskCall) : ℕ := (calls.map commands).sum

/-- Calls in the block level model one after another. -/
theorem allOnCard_append (make : Make) (k : ℕ) (card : Card) (first second : List DiskCall) :
    allOnCard make k card (first++second)=
      let done := allOnCard make k card first
      let rest := allOnCard make (k+commandsAll first) done.2 second
      (done.1++rest.1,rest.2) := by
  induction first generalizing k card with
  | nil => rfl
  | cons call first ih =>
    rw [List.cons_append,allOnCard,ih]
    unfold commandsAll
    simp only [allOnCard,List.map_cons,List.sum_cons,Nat.add_assoc,List.cons_append]

/-- The call stores to the block. -/
def Writes (number : ℕ) : DiskCall → Prop
  | write _ _ block => block=number
  | read _ _ _ => False

/-- Calls that do not store to a block leave it alone. -/
theorem allOnCard_keeps (make : Make) (k : ℕ) (card : Card) (number : ℕ) (calls : List DiskCall)
    (h : ∀ call∈calls,¬call.Writes number) :
    (allOnCard make k card calls).2.page number=card.page number := by
  induction calls generalizing k card with
  | nil => rfl
  | cons call rest ih =>
    rw [allOnCard,ih _ _ (fun c hm => h c (List.mem_cons_of_mem _ hm))]
    cases call with
    | write buffer length block =>
      exact SdCard.diskWrite_page_of_ne card buffer length _
        (fun he => h _ (List.mem_cons_self ..) he.symm)
    | read buffer length block => rfl

/-- After an accepted write, and calls that do not store to the block again,
the block is the filled page. -/
theorem allOnCard_page (make : Make) (k : ℕ) (card : Card) (before between : List DiskCall)
    (buffer : List UInt8) {length number : ℕ} (hl : length≤512) (hn : number≤0x007FFFFF)
    (hbetween : ∀ call∈between,¬call.Writes number)
    (haccepted : (make.replyTo (k+commandsAll before) number).accepted=true) :
    (allOnCard make k card (before++write buffer length number::between)).2.page number=
      fillPage buffer length := by
  rw [allOnCard_append]
  simp only [allOnCard]
  rw [allOnCard_keeps make _ _ number between hbetween]
  unfold onCard
  simp only
  rw [SdCard.diskWrite_card hl hn,if_pos haccepted]
  exact Function.update_self number _ _

/-- The front of a filled page is the buffer it was filled from. -/
theorem fillPage_front {buffer : List UInt8} {length : ℕ} (hbuf : length≤buffer.length)
    (hl : length≤512) : (fillPage buffer length).octets.take length=buffer.take length := by
  unfold fillPage
  rw [List.take_take,List.take_append_of_le_length (by rw [List.length_take]; omega),
    List.take_take]
  congr 1
  omega

/-- A card of four blocks that answers every command after one octet. -/
def steadyMake (addressing : Addressing) : Make :=
  ⟨addressing,4,[],fun _ => ⟨1,0x00,2,0xFE,(0x12,0x34),0x05,3⟩⟩

/-- A card with cleared blocks at work on nothing. -/
def clearedLink : Link := ⟨fun _ => fillPage [] 0,0,[],.command []⟩

/-- The steady card is prompt. -/
theorem steadyMake_prompt (addressing : Addressing) (k : ℕ) :
    (steadyMake addressing).Prompt 4 k := by
  constructor
  · exact ⟨(by decide : 1<5000),(by decide : isResponse 0x00=true)⟩
  · exact (by decide : 2<4)
  · rfl
  · exact (by decide : 3<4)

/-- The cleared card is idle. -/
theorem clearedLink_idle : clearedLink.Idle := ⟨rfl,rfl⟩

/-- Every sequence of driver calls on a prompt card returns, gives the results
of the block level model, leaves the blocks that model leaves, and ends with
the card idle and released. -/
theorem driver_calls_refine_block_model (make : Make) (fuel : ℕ) (hp : ∀ k,make.Prompt fuel k)
    (sectors : UInt64) (calls : List DiskCall) (hc : ∀ call∈calls,call.Held) (link : Link)
    (hlink : link.Idle) :
    ∃ link' : Link,link'.Idle ∧
      allOverBus make.device fuel ⟨link,false⟩ calls=
        some ((allOnCard make link.served (make.view sectors link) calls).1,⟨link',false⟩) ∧
      make.view sectors link'=(allOnCard make link.served (make.view sectors link) calls).2 := by
  obtain ⟨link',hidle,hcalls,hview,_⟩ := allOverBus_follows make hp sectors hc hlink
  exact ⟨link',hidle,hcalls,hview⟩

/-- A write and a read of the same block over the bus. -/
theorem driver_calls_write_read :
    ∃ link' : Link,link'.Idle ∧
      allOverBus (steadyMake .octets).device 4 ⟨clearedLink,false⟩
          [write [1,2,3] 3 2,read [0,0,0,9] 3 2]=
        some ((allOnCard (steadyMake .octets) 0 ((steadyMake .octets).view 4 clearedLink)
          [write [1,2,3] 3 2,read [0,0,0,9] 3 2]).1,⟨link',false⟩) ∧
      (steadyMake .octets).view 4 link'=
        (allOnCard (steadyMake .octets) 0 ((steadyMake .octets).view 4 clearedLink)
          [write [1,2,3] 3 2,read [0,0,0,9] 3 2]).2 :=
  driver_calls_refine_block_model (steadyMake .octets) 4 (steadyMake_prompt _) 4 _ (by
    intro call hm
    rcases List.mem_pair.mp hm with rfl|rfl
    · exact (by decide : 3≤3)
    · exact trivial) clearedLink clearedLink_idle

/-- The octets of an accepted write come back from a later read of the block,
whatever calls stand before the write and whatever calls to other blocks
stand between the two. -/
theorem read_returns_last_write (make : Make) (fuel : ℕ) (hp : ∀ k,make.Prompt fuel k)
    (link : Link) (hlink : link.Idle) (before between : List DiskCall)
    (hc : ∀ call∈before++between,call.Held) (buffer target : List UInt8) (length number : ℕ)
    (hbuf : length≤buffer.length) (hl : length≤512) (hn : number≤0x007FFFFF)
    (hbetween : ∀ call∈between,¬call.Writes number)
    (haccepted : (make.replyTo (link.served+commandsAll before) number).accepted=true)
    (hread : make.responseTo
      (link.served+commandsAll (before++write buffer length number::between)) number=0) :
    ∃ results link',allOverBus make.device fuel ⟨link,false⟩
        (before++write buffer length number::between++[read target length number])=
        some (results++[(0,buffer.take length++target.drop length)],⟨link',false⟩) := by
  have hheld : ∀ call∈before++write buffer length number::between++[read target length number],
      call.Held := by
    intro call hm
    rw [List.mem_append,List.mem_append,List.mem_cons,List.mem_singleton] at hm
    rcases hm with (hm|rfl|hm)|rfl
    · exact hc call (List.mem_append_left _ hm)
    · exact hbuf
    · exact hc call (List.mem_append_right _ hm)
    · exact trivial
  obtain ⟨link',_,hcalls,_,_⟩ := allOverBus_follows make hp 0 hheld hlink
  have hpage := allOnCard_page make link.served (make.view 0 link) before between buffer hl hn
    hbetween haccepted
  have hready : SdCard.cmd (make.polls
      (link.served+commandsAll (before++write buffer length number::between)) number)=0 := by
    rw [make.cmd_polls (hp _).toAnswers,hread]
    rfl
  refine ⟨(allOnCard make link.served (make.view 0 link)
    (before++write buffer length number::between)).1,link',hcalls.trans ?_⟩
  rw [allOnCard_append]
  simp only [allOnCard,onCard,SdCard.diskRead_of_ready hl hn hready,SdCard.blockRead,hpage,
    fillPage_front hbuf hl]

/-- Three octets come back after a write to the next block. -/
theorem read_returns_three_octets :
    ∃ results link',allOverBus (steadyMake .octets).device 4 ⟨clearedLink,false⟩
        ([]++write [1,2,3] 3 2::[write [7] 1 3]++[read [0,0,0,9] 3 2])=
        some (results++[(0,[1,2,3,9])],⟨link',false⟩) :=
  read_returns_last_write (steadyMake .octets) 4 (steadyMake_prompt _) clearedLink clearedLink_idle
    [] [write [7] 1 3] (by
      intro call hm
      rw [List.nil_append,List.mem_singleton] at hm
      subst hm
      exact (by decide : 1≤1)) [1,2,3] [0,0,0,9] 3 2 (by decide) (by decide) (by decide) (by
      intro call hm
      rw [List.mem_singleton] at hm
      subst hm
      exact (by decide : ¬3=2)) rfl rfl

/-- A call for a block beyond the end of the card fails. -/
theorem onCard_out_of_range (make : Make) {k : ℕ} (hp : make.Answers k) (card : Card)
    {call : DiskCall} (hone : call.commands=1) (hr : make.capacity ≤ make.reach call.block) :
    (onCard make k card call).1.1=1 := by
  have hcmd : SdCard.cmd (make.polls k call.block)≠0 := by
    rw [make.cmd_polls hp]
    unfold Make.responseTo
    rw [if_neg (by omega)]
    decide
  cases call with
  | write buffer length block =>
    obtain ⟨hl,hb⟩ := Make.commandsOf_eq_one.mp hone
    unfold onCard SdCard.diskWrite
    simp only
    rw [if_neg (by omega),if_neg (by omega),if_pos]
    exact hcmd
  | read buffer length block =>
    obtain ⟨hl,hb⟩ := Make.commandsOf_eq_one.mp hone
    unfold onCard SdCard.diskRead
    simp only
    rw [if_neg (by omega),if_neg (by omega),if_pos]
    exact hcmd

/-- Calls for blocks beyond the end of the card fail wherever they stand. -/
theorem allOnCard_out_of_range (make : Make) (hp : ∀ k,make.Answers k) (k : ℕ) (card : Card)
    (calls : List DiskCall) :
    List.Forall₂ (fun call result => call.commands=1 → make.capacity ≤ make.reach call.block →
      result.1=1) calls (allOnCard make k card calls).1 := by
  induction calls generalizing k card with
  | nil => exact .nil
  | cons call rest ih => exact .cons (onCard_out_of_range make (hp k) card) (ih _ _)

/-- On a card that counts blocks the driver reaches every 512th block only.
Whatever calls are made, the others keep their contents, and every call that
sends a command fails if its block number is at least a 512th of the card's
size. A call of more than 512 octets or beyond the driver's last block sends
none. -/
theorem high_capacity_reaches_every_512th_block (make : Make) (fuel : ℕ)
    (hp : ∀ k,make.Prompt fuel k) (hkind : make.addressing=.blocks) (calls : List DiskCall)
    (hc : ∀ call∈calls,call.Held) (link : Link) (hlink : link.Idle) :
    ∃ results link',allOverBus make.device fuel ⟨link,false⟩ calls=some (results,⟨link',false⟩) ∧
      (∀ number,number%512≠0 → link'.page number=link.page number) ∧
      List.Forall₂ (fun call result => call.commands=1 → make.capacity≤512*call.block →
        result.1=1) calls results := by
  have hreach : ∀ block,make.reach block=block*512 := by
    intro block
    unfold Make.reach
    rw [hkind]
  obtain ⟨link',_,hcalls,_,hframe⟩ := allOverBus_follows make hp 0 hc hlink
  refine ⟨_,link',hcalls,fun number hn => hframe number fun call _ he => ?_,?_⟩
  · rw [he,hreach,Nat.mul_mod_left] at hn
    exact hn rfl
  · refine (allOnCard_out_of_range make (fun k => (hp k).toAnswers) link.served
      (make.view 0 link) calls).imp ?_
    intro call result h hone hcap
    exact h hone (by rw [hreach,Nat.mul_comm]; exact hcap)

/-- On a card of four blocks only block number zero can be written. -/
theorem high_capacity_four_blocks :
    ∃ results link',allOverBus (steadyMake .blocks).device 4 ⟨clearedLink,false⟩
        [write [1] 1 0,write [2] 1 1]=some (results,⟨link',false⟩) ∧
      (∀ number,number%512≠0 → link'.page number=clearedLink.page number) ∧
      List.Forall₂ (fun call result => call.commands=1 →
        (steadyMake .blocks).capacity≤512*call.block → result.1=1)
        [write [1] 1 0,write [2] 1 1] results :=
  high_capacity_reaches_every_512th_block (steadyMake .blocks) 4 (steadyMake_prompt _) rfl _ (by
    intro call hm
    rcases List.mem_pair.mp hm with rfl|rfl
    · exact (by decide : 1≤1)
    · exact (by decide : 1≤1)) clearedLink clearedLink_idle

end DiskCall

namespace Make

variable (make : Make)

/-- Without the start token the wait for it outlasts every bound. -/
theorem blockRead_starved (link : Link) (hi : link.intake=.command []) {wait : ℕ} {token : UInt8}
    (ht : token≠0xFE) (ho : link.outgoing=List.replicate wait 0xFF++[token]) (fuel : ℕ)
    (buffer : List UInt8) (length : ℕ) (line : Bool) :
    blockRead make.device fuel buffer length ⟨link,line⟩=none := by
  have hnever : ∀ answer∈(make.device.run link (List.replicate fuel 0xFF)).1,
      (answer==0xFE)=false := by
    rw [make.run_fillers link hi fuel]
    intro answer hm
    have hcases : answer=0xFF ∨ answer=token := by
      rcases List.mem_append.mp hm with hm|hm
      · have hout := List.mem_of_mem_take hm
        rw [ho,List.mem_append,List.mem_singleton] at hout
        exact hout.imp List.eq_of_mem_replicate id
      · exact Or.inl (List.eq_of_mem_replicate hm)
    rcases hcases with rfl|rfl
    · rfl
    · exact beq_false_of_ne ht
  unfold blockRead
  rw [show Bus.enable ⟨link,line⟩=(⟨link,true⟩ : Bus Link) from rfl,
    poll_exhausted make.device (·==0xFE) 0xFF link 0 fuel hnever]

/-- `disk_read` of a block the card agreed to send returns exactly when the
card puts the start token in front of it. After an error token the driver
waits for ever. -/
theorem disk_read_returns_iff_start_token (link : Link) (hlink : link.Idle)
    (hp : make.Answers link.served) (buffer : List UInt8) (length block : ℕ)
    (hone : commandsOf length block=1) (hr : make.responseTo link.served block=0) :
    (∃ fuel,(diskRead make.device fuel buffer length block ⟨link,false⟩).isSome=true) ↔
      (make.manner link.served).start=0xFE := by
  obtain ⟨hl,hb⟩ := commandsOf_eq_one.mp hone
  have hzero : ¬((make.responseTo link.served block).toNat : ℤ)≠0 :=
    fun h => (response_toNat_ne_zero _).mp h hr
  have hread : ∀ fuel,diskRead make.device fuel buffer length block ⟨link,false⟩=
      (blockRead make.device fuel buffer length ⟨{link with
        served := link.served+1
        outgoing := make.dataOctets link.served (link.page (make.reach block)).octets
        intake := .command []},false⟩).map fun read => ((0,read.1),read.2) := by
    intro fuel
    unfold diskRead
    rw [if_neg (by omega),if_neg (by omega),make.cmd_read hlink hp hb false]
    simp only [if_neg hzero,if_pos hr]
  constructor
  · rintro ⟨fuel,hsome⟩
    by_contra hstart
    rw [hread,make.blockRead_starved _ rfl hstart (by
      unfold dataOctets
      rw [if_neg hstart])] at hsome
    exact absurd hsome (by decide)
  · intro hstart
    have hsize := (link.page (make.reach block)).size
    refine ⟨(make.manner link.served).dataWait+1,?_⟩
    rw [hread,make.blockRead_sent _ rfl buffer (make.dataOctets_of_start hstart _)
      (Nat.lt_succ_self _) (by omega : length≤_) (by omega) hl]
    rfl

/-- A card that answers the read command and then reports an error. -/
def failingMake : Make := ⟨.octets,4,[],fun _ => ⟨1,0x00,2,0x09,(0x00,0x00),0x05,0⟩⟩

/-- A read from the failing card never returns. -/
theorem disk_read_waits_for_failing_card :
    (∃ fuel,(diskRead failingMake.device fuel [0,0] 2 1 ⟨DiskCall.clearedLink,false⟩).isSome=true) ↔
      (failingMake.manner 0).start=0xFE :=
  disk_read_returns_iff_start_token failingMake DiskCall.clearedLink DiskCall.clearedLink_idle
    ⟨(by decide : 1<5000),(by decide : isResponse 0x00=true)⟩ [0,0] 2 1 rfl rfl

end Make

end VlfGateway.SdSpi
