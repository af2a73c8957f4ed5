import VlfGateway.GatewayClock
import VlfGateway.StepPath

/-!
# The time client and its control block

Requests, retries and answers register each other's timeouts, whatever the
interface does meanwhile. When the interface goes down the control block is
removed, but `sntp_pcb` keeps pointing to it and nothing that is pending is
cancelled. The next element of the chain then uses a control block that is
gone.
-/

namespace VlfGateway.SntpClient

open GatewayClock StepPath

/-- The functions that are registered with `sys_timeout`. There is one server,
so that `sntp_try_next_server` is `sntp_retry`. -/
inductive Handler where
  /-- `sntp_request`. -/
  | sntpRequest
  /-- `sntp_retry`. -/
  | sntpRetry
  deriving DecidableEq

/-- A registered timeout. -/
structure Timeout where
  /-- Milliseconds. -/
  msecs : UInt32
  /-- The function to call. -/
  handler : Handler

/-- An operation on a UDP control block. -/
inductive UdpOperation where
  /-- `udp_sendto` with the datagram, the address and the port. -/
  | sendto (message : List UInt8) (address : UInt32) (port : UInt16)
  /-- `udp_remove`. -/
  | remove

/-- An operation performed through `sntp_pcb`. -/
structure UdpUse where
  /-- What was done. -/
  operation : UdpOperation
  /-- The pointer it was done with. -/
  pcb : Option ℕ
  /-- `udp_new` had returned the block, and it was not removed since. -/
  owned : Bool

/-- The globals of the client with lwIP's side of them. -/
structure Client where
  /-- `sntp_pcb`. -/
  sntpPcb : Option ℕ
  /-- Blocks returned by `udp_new` and not removed since. -/
  blocks : List ℕ
  /-- Pending timeouts. -/
  timeouts : List Timeout
  /-- Pending calls of `dns_gethostbyname`. -/
  resolving : ℕ
  /-- `sntp_retry_timeout`. -/
  sntpRetryTimeout : UInt32
  /-- `sntp_last_server_address`. -/
  sntpLastServerAddress : UInt32
  /-- `sntp_last_timestamp_sent`, as it is on the wire. -/
  sntpLastTimestampSent : List UInt8
  /-- The gateway's time. -/
  clock : Clock
  /-- Whether the last status notification said that the interface is up. -/
  notified : Option Bool
  /-- Operations performed through `sntp_pcb`, oldest first. -/
  uses : List UdpUse

/-- `SNTP_PORT`. -/
def sntpPort : UInt16 := 123

/-- `SNTP_RECV_TIMEOUT`. -/
def sntpRecvTimeout : UInt32 := 3000

/-- `SNTP_RETRY_TIMEOUT`. -/
def sntpRetryTimeoutDefault : UInt32 := sntpRecvTimeout

/-- `SNTP_RETRY_TIMEOUT_MAX`. -/
def sntpRetryTimeoutMax : UInt32 := sntpRetryTimeoutDefault*10

/-- `SNTP_UPDATE_DELAY`. -/
def sntpUpdateDelay : UInt32 := 3600000

/-- `SNTP_MSG_LEN`. -/
def sntpMsgLen : ℕ := 48

/-- `DIFF_SEC_1900_1970`. -/
def diffSec19001970 : UInt32 := 2208988800

/-! ## lwIP -/

/-- `sntp_pcb` points to a block that `udp_new` returned and that was not
removed since. -/
def Client.owned (client : Client) : Bool :=
  match client.sntpPcb with
  | some pcb => client.blocks.contains pcb
  | none => false

/-- An operation through `sntp_pcb`. -/
def Client.use (client : Client) (operation : UdpOperation) : Client :=
  {client with uses := client.uses++[⟨operation,client.sntpPcb,client.owned⟩]}

/-- `sys_timeout`. -/
def sysTimeout (msecs : UInt32) (handler : Handler) (client : Client) : Client :=
  {client with timeouts := client.timeouts++[⟨msecs,handler⟩]}

/-- `sys_untimeout`: one matching timeout is cancelled. -/
def sysUntimeout (handler : Handler) (client : Client) : Client :=
  {client with timeouts := client.timeouts.eraseP (fun timeout => timeout.handler=handler)}

/-- What `dns_gethostbyname` returns. -/
inductive DnsReply where
  /-- `ERR_OK` with an address. -/
  | found (address : UInt32)
  /-- `ERR_INPROGRESS`. -/
  | inProgress
  /-- Any other error. -/
  | failed

/-- What lwIP answers during a request: the resolver's reply and whether there
is a buffer for the datagram. -/
structure RequestReply where
  /-- The resolver's reply. -/
  dns : DnsReply
  /-- `pbuf_alloc` succeeds. -/
  pbuf : Bool

/-! ## The client -/

/-- Octets of a word on the wire. -/
def netOctets (word : UInt32) : List UInt8 :=
  [UInt8.ofNat (word.toNat/2^24),UInt8.ofNat (word.toNat/2^16),UInt8.ofNat (word.toNat/2^8),
    UInt8.ofNat word.toNat]

/-- `ntohl` of the word at an offset of a message. -/
def netWord (message : List UInt8) (offset : ℕ) : UInt32 :=
  UInt32.ofNat (2^24*(message.getD offset 0).toNat+2^16*(message.getD (offset+1) 0).toNat+
    2^8*(message.getD (offset+2) 0).toNat+(message.getD (offset+3) 0).toNat)

/-- The transmit timestamp of every request: `SNTP_GET_SYSTEM_TIME` yields
zeros. -/
def timestampSent : List UInt8 := netOctets (0+diffSec19001970)++netOctets 0

/-- The message set up by `sntp_initialize_request`. -/
def requestMessage : List UInt8 := 0x23::(List.replicate 39 0++timestampSent)

/-- `sntp_initialize_request`. -/
def sntpInitializeRequest (client : Client) : Client :=
  {client with sntpLastTimestampSent := timestampSent}

/-- `sntp_retry`. -/
def sntpRetry (client : Client) : Client :=
  let waiting := sysTimeout client.sntpRetryTimeout .sntpRequest client
  let newRetryTimeout := client.sntpRetryTimeout <<< 1
  if newRetryTimeout ≤ sntpRetryTimeoutMax ∧ client.sntpRetryTimeout<newRetryTimeout then
    {waiting with sntpRetryTimeout := newRetryTimeout}
  else waiting

/-- `sntp_send_request`. -/
def sntpSendRequest (address : UInt32) (pbuf : Bool) (client : Client) : Client :=
  if pbuf then
    let sent := (sntpInitializeRequest client).use (.sendto requestMessage address sntpPort)
    {sysTimeout sntpRecvTimeout .sntpRetry sent with sntpLastServerAddress := address}
  else sysTimeout sntpRetryTimeoutDefault .sntpRequest client

/-- `sntp_dns_found`. -/
def sntpDnsFound (address : Option UInt32) (pbuf : Bool) (client : Client) : Client :=
  match address with
  | some address => sntpSendRequest address pbuf client
  | none => sntpRetry client

/-- `sntp_request`. -/
def sntpRequest (reply : RequestReply) (client : Client) : Client :=
  match reply.dns with
  | .inProgress => {client with resolving := client.resolving+1}
  | .found address => sntpSendRequest address reply.pbuf client
  | .failed => sysTimeout sntpRetryTimeoutDefault .sntpRetry client

/-- `sntp_cleanup`. -/
def sntpCleanup (client : Client) : Client :=
  match client.sntpPcb with
  | some pcb => {client.use .remove with blocks := client.blocks.filter (·≠pcb)}
  | none => client

/-- `sntp_init` with the result of `udp_new`. Without a block the assertion
halts, which is no result. -/
def sntpInit (udpNew : Option ℕ) (reply : RequestReply) (client : Client) : Option Client :=
  udpNew.map fun pcb => sntpRequest reply {client with
    sntpRetryTimeout := sntpRetryTimeoutDefault
    sntpPcb := some pcb
    blocks := pcb::client.blocks}

/-- What `sntp_recv` makes of a message. -/
inductive SntpError where
  /-- `ERR_OK`. -/
  | ok
  /-- `SNTP_ERR_KOD`. -/
  | kod
  /-- `ERR_ARG`. -/
  | arg

/-- The checks of `sntp_recv`. -/
def checkResponse (message : List UInt8) (address : UInt32) (port : UInt16) (client : Client) :
    SntpError :=
  if address=client.sntpLastServerAddress ∧ port=sntpPort then
    if message.length=sntpMsgLen then
      let mode := message.getD 0 0 &&& 0x07
      if mode=0x04 ∨ mode=0x05 then
        if message.getD 1 0=0x00 then .kod
        else if (message.drop 24).take 8=client.sntpLastTimestampSent then .ok
        else .arg
      else .arg
    else .arg
  else .arg

/-- `sntp_process` of the receive timestamp of a message. -/
def sntpProcess (message : List UInt8) (client : Client) : Client :=
  {client with clock := (ntpSetCurrentTime (netWord message 32-diffSec19001970)
    (netWord message 36/4295) client.clock).2}

/-- `sntp_recv`. -/
def sntpRecv (message : List UInt8) (address : UInt32) (port : UInt16) (client : Client) : Client :=
  let stopped := sysUntimeout .sntpRequest (sysUntimeout .sntpRetry client)
  match checkResponse message address port stopped with
  | .ok => sysTimeout sntpUpdateDelay .sntpRequest
      (sntpProcess message {stopped with sntpRetryTimeout := sntpRetryTimeoutDefault})
  | .kod => sntpRetry stopped
  | .arg => sntpRetry stopped

/-- `netif_status_change`. -/
def netifStatusChange (up : Bool) (udpNew : Option ℕ) (reply : RequestReply) (client : Client) :
    Option Client :=
  if up then sntpInit udpNew reply client else some (sntpCleanup client)

/-- What can happen to the client. -/
inductive Event where
  /-- The interface status changes, with lwIP's answers to `sntp_init`. -/
  | status (up : Bool) (udpNew : Option ℕ) (reply : RequestReply)
  /-- A pending timeout expires. -/
  | expire (i : ℕ) (reply : RequestReply)
  /-- A pending name is resolved, or not. -/
  | resolved (address : Option UInt32) (pbuf : Bool)
  /-- A packet arrives for a control block. -/
  | received (message : List UInt8) (address : UInt32) (port : UInt16)

/-- The client after an event, if it can happen: lwIP returns no block that is
in use, runs what is pending and delivers to existing blocks. -/
def Client.handle (client : Client) : Event → Option Client
  | .status up udpNew reply =>
    if up=true ∧ udpNew.any client.blocks.contains=true then none
    else (netifStatusChange up udpNew reply client).map fun after => {after with notified := some up}
  | .expire i reply =>
    match client.timeouts[i]? with
    | some timeout =>
      let fired := {client with timeouts := client.timeouts.eraseIdx i}
      match timeout.handler with
      | .sntpRequest => some (sntpRequest reply fired)
      | .sntpRetry => some (sntpRetry fired)
    | none => none
  | .resolved address pbuf =>
    if client.resolving=0 then none
    else some (sntpDnsFound address pbuf {client with resolving := client.resolving-1})
  | .received message address port =>
    if client.blocks=[] then none else some (sntpRecv message address port client)

/-- The steps of the client. -/
def Step (client : Client) (event : Event) (after : Client) : Prop := client.handle event=some after

/-- The client before the first notification. -/
def Client.boot : Client := ⟨none,[],[],0,0,0,List.replicate 8 0,Clock.reset,none,[]⟩

/-- Every operation of a step is on a block that `udp_new` returned and that
was not removed since. -/
def Sound (t : Transition Client Event) : Prop :=
  ∀ use∈t.after.uses.drop t.before.uses.length,use.owned=true

/-- The event sends a request at once. -/
def Sends (client : Client) : Event → Prop
  | .status _ _ _ => False
  | .expire i reply => client.timeouts[i]?.map Timeout.handler=some .sntpRequest ∧
      (∃ address,reply.dns=.found address) ∧ reply.pbuf=true
  | .resolved address pbuf => address.isSome=true ∧ pbuf=true
  | .received _ _ _ => False

/-- The event removes the control block. -/
def Removes (client : Client) : Event → Prop
  | .status up _ _ => up=false ∧ client.sntpPcb≠none
  | _ => False

/-- Requests are sent and control blocks are removed only while the last
notification said that the interface is up. -/
def WhileUp (client : Client) (event : Event) : Prop :=
  Sends client event ∨ Removes client event → client.notified=some true

/-! ## What the functions of the client do -/

/-- A function of the client keeps its control block. When it `sends` it uses
the block, and otherwise it does not. -/
structure Effect (before after : Client) (sends : Prop) : Prop where
  /-- `sntp_pcb` stays. -/
  pcb : after.sntpPcb=before.sntpPcb
  /-- The blocks in use stay. -/
  blocks : after.blocks=before.blocks
  /-- The last notification stays. -/
  notified : after.notified=before.notified
  /-- The operations performed. -/
  uses : ∃ new,after.uses=before.uses++new ∧ (∀ use∈new,use.owned=before.owned) ∧ (sends ↔ new≠[])

/-- Ownership is a matter of `sntp_pcb` and the blocks in use. -/
theorem owned_congr {a b : Client} (hpcb : b.sntpPcb=a.sntpPcb) (hblocks : b.blocks=a.blocks) :
    b.owned=a.owned := by
  unfold Client.owned
  rw [hpcb,hblocks]

/-- The effect as seen from a state that differs in nothing that matters. -/
theorem Effect.seen {before seen after : Client} {sends sends' : Prop} (h : Effect seen after sends)
    (hpcb : seen.sntpPcb=before.sntpPcb) (hblocks : seen.blocks=before.blocks)
    (hnotified : seen.notified=before.notified) (huses : seen.uses=before.uses)
    (hsends : sends' ↔ sends) : Effect before after sends' := by
  obtain ⟨new,hnew,howned,hiff⟩ := h.uses
  refine ⟨h.pcb.trans hpcb,h.blocks.trans hblocks,h.notified.trans hnotified,new,?_,?_,
    hsends.trans hiff⟩
  · rw [hnew,huses]
  · intro use huse
    rw [howned use huse,owned_congr hpcb hblocks]

/-- A function that performs no operation. -/
theorem Effect.quiet {before after : Client} {sends : Prop} (hpcb : after.sntpPcb=before.sntpPcb)
    (hblocks : after.blocks=before.blocks) (hnotified : after.notified=before.notified)
    (huses : after.uses=before.uses) (hsends : ¬sends) : Effect before after sends := by
  refine ⟨hpcb,hblocks,hnotified,[],by rw [huses,List.append_nil],?_,
    ⟨fun h => absurd h hsends,fun h => absurd rfl h⟩⟩
  simp only [List.not_mem_nil,false_implies,implies_true]

/-- `sntp_retry` only waits. -/
theorem sntpRetry_effect (client : Client) : Effect client (sntpRetry client) False := by
  unfold sntpRetry
  dsimp only
  split <;> exact .quiet rfl rfl rfl rfl id

/-- `sntp_send_request` sends when there is a buffer. -/
theorem sntpSendRequest_effect (address : UInt32) (pbuf : Bool) (client : Client) :
    Effect client (sntpSendRequest address pbuf client) (pbuf=true) := by
  unfold sntpSendRequest
  cases pbuf with
  | true =>
    refine ⟨rfl,rfl,rfl,[⟨.sendto requestMessage address sntpPort,client.sntpPcb,client.owned⟩],rfl,
      ?_,⟨fun _ => List.cons_ne_nil _ _,fun _ => rfl⟩⟩
    intro use huse
    rw [List.mem_singleton.mp huse]
  | false => exact .quiet rfl rfl rfl rfl Bool.false_ne_true

/-- `sntp_request` sends when the address is known and there is a buffer. -/
theorem sntpRequest_effect (reply : RequestReply) (client : Client) :
    Effect client (sntpRequest reply client)
      ((∃ address,reply.dns=.found address) ∧ reply.pbuf=true) := by
  unfold sntpRequest
  cases reply.dns with
  | inProgress => exact .quiet rfl rfl rfl rfl (fun h => by cases h.1.choose_spec)
  | found address =>
    exact (sntpSendRequest_effect address reply.pbuf client).seen rfl rfl rfl rfl
      (and_iff_right ⟨address,rfl⟩)
  | failed => exact .quiet rfl rfl rfl rfl (fun h => by cases h.1.choose_spec)

/-- `sntp_dns_found` sends when it got an address and there is a buffer. -/
theorem sntpDnsFound_effect (address : Option UInt32) (pbuf : Bool) (client : Client) :
    Effect client (sntpDnsFound address pbuf client) (address.isSome=true ∧ pbuf=true) := by
  unfold sntpDnsFound
  cases address with
  | some address =>
    exact (sntpSendRequest_effect address pbuf client).seen rfl rfl rfl rfl (and_iff_right rfl)
  | none =>
    exact (sntpRetry_effect client).seen rfl rfl rfl rfl
      (iff_false_intro fun h => Bool.false_ne_true h.1)

/-- `sntp_recv` sends nothing. -/
theorem sntpRecv_effect (message : List UInt8) (address : UInt32) (port : UInt16) (client : Client) :
    Effect client (sntpRecv message address port client) False := by
  have hretry : Effect client
      (sntpRetry (sysUntimeout .sntpRequest (sysUntimeout .sntpRetry client))) False :=
    (sntpRetry_effect _).seen rfl rfl rfl rfl Iff.rfl
  unfold sntpRecv
  dsimp only
  split
  · exact .quiet rfl rfl rfl rfl id
  · exact hretry
  · exact hretry

/-- The events between notifications have the same kind of effect, and they
need something pending or an existing block. -/
theorem handle_effect {client after : Client} {event : Event} (hstep : Step client event after)
    (hevent : ∀ up udpNew reply,event≠.status up udpNew reply) :
    Effect client after (Sends client event) ∧
      (client.timeouts≠[] ∨ client.resolving≠0 ∨ client.blocks≠[]) := by
  cases event with
  | status up udpNew reply => exact absurd rfl (hevent up udpNew reply)
  | expire i reply =>
    unfold Step Client.handle at hstep
    dsimp only at hstep
    cases htimeout : client.timeouts[i]? with
    | none =>
      rw [htimeout] at hstep
      cases hstep
    | some timeout =>
      have hpending : client.timeouts≠[] := by
        intro hnil
        rw [hnil] at htimeout
        cases htimeout
      refine ⟨?_,.inl hpending⟩
      obtain ⟨msecs,handler⟩ := timeout
      unfold Sends
      dsimp only
      rw [htimeout] at hstep ⊢
      cases handler with
      | sntpRequest =>
        rw [←Option.some.inj hstep]
        exact (sntpRequest_effect reply _).seen rfl rfl rfl rfl (and_iff_right rfl)
      | sntpRetry =>
        rw [←Option.some.inj hstep]
        exact (sntpRetry_effect _).seen rfl rfl rfl rfl
          (iff_false_intro fun h => Handler.noConfusion (Option.some.inj h.1))
  | resolved address pbuf =>
    unfold Step Client.handle at hstep
    dsimp only at hstep
    split at hstep
    · cases hstep
    · next hresolving =>
      rw [←Option.some.inj hstep]
      exact ⟨(sntpDnsFound_effect address pbuf _).seen rfl rfl rfl rfl Iff.rfl,
        .inr (.inl hresolving)⟩
  | received message address port =>
    unfold Step Client.handle at hstep
    dsimp only at hstep
    split at hstep
    · cases hstep
    · next hblocks =>
      rw [←Option.some.inj hstep]
      exact ⟨sntpRecv_effect message address port client,.inr (.inr hblocks)⟩

/-- An event is sound exactly when it sends nothing or owns its block. -/
theorem Effect.sound_iff {before after : Client} {sends : Prop} (h : Effect before after sends)
    (event : Event) : Sound ⟨before,event,after⟩ ↔ (sends → before.owned=true) := by
  obtain ⟨new,huses,howned,hsends⟩ := h.uses
  unfold Sound
  rw [huses,List.drop_left]
  constructor
  · intro hsound hsend
    obtain ⟨use,huse⟩ := List.exists_mem_of_ne_nil _ (hsends.mp hsend)
    exact (howned use huse).symm.trans (hsound use huse)
  · intro hown use huse
    exact (howned use huse).trans (hown (hsends.mpr (List.ne_nil_of_mem huse)))

/-- The effect of a notification that the interface is up. -/
theorem status_up {client after : Client} {udpNew : Option ℕ} {reply : RequestReply}
    (h : Step client (.status true udpNew reply) after) :
    after.sntpPcb≠none ∧ after.owned=true ∧ after.notified=some true ∧
      Sound ⟨client,.status true udpNew reply,after⟩ := by
  unfold Step Client.handle at h
  dsimp only at h
  split at h
  · cases h
  · rw [Option.map_eq_some_iff] at h
    obtain ⟨started,hstarted,rfl⟩ := h
    unfold netifStatusChange sntpInit at hstarted
    rw [if_pos rfl,Option.map_eq_some_iff] at hstarted
    obtain ⟨pcb,_,rfl⟩ := hstarted
    generalize hfresh : {client with
      sntpRetryTimeout := sntpRetryTimeoutDefault
      sntpPcb := some pcb
      blocks := pcb::client.blocks}=fresh
    have hpcb : fresh.sntpPcb=some pcb := by rw [←hfresh]
    have hown : fresh.owned=true := by
      rw [←hfresh]
      exact List.contains_iff_mem.mpr List.mem_cons_self
    have huses : fresh.uses=client.uses := by rw [←hfresh]
    have heffect := sntpRequest_effect reply fresh
    refine ⟨?_,(owned_congr heffect.pcb heffect.blocks).trans hown,rfl,?_⟩
    · intro hnone
      cases (heffect.pcb.trans hpcb).symm.trans hnone
    · intro use huse
      exact (heffect.sound_iff (.status true udpNew reply)).mpr (fun _ => hown) use
        (by rw [huses]; exact huse)

/-- The effect of a notification that the interface is down. -/
theorem status_down {client after : Client} {udpNew : Option ℕ} {reply : RequestReply}
    (h : Step client (.status false udpNew reply) after) :
    after.sntpPcb=client.sntpPcb ∧ after.owned=false ∧ after.notified=some false ∧
      after.timeouts=client.timeouts ∧ after.resolving=client.resolving ∧
      (client.blocks=[] → after.blocks=[]) ∧
      (Sound ⟨client,.status false udpNew reply,after⟩ ↔ (client.sntpPcb≠none → client.owned=true)) := by
  unfold Step Client.handle at h
  dsimp only at h
  rw [if_neg (fun hup => Bool.false_ne_true hup.1)] at h
  have hafter := Option.some.inj h
  unfold sntpCleanup at hafter
  cases hpcb : client.sntpPcb with
  | none =>
    rw [hpcb] at hafter
    rw [←hafter]
    refine ⟨hpcb,?_,rfl,rfl,rfl,id,⟨fun _ hne => absurd rfl hne,fun _ => ?_⟩⟩
    · unfold Client.owned
      rw [hpcb]
    · intro use huse
      change use∈client.uses.drop client.uses.length at huse
      rw [List.drop_length] at huse
      cases huse
  | some pcb =>
    rw [hpcb] at hafter
    rw [←hafter]
    refine ⟨hpcb,?_,rfl,rfl,rfl,fun hnil => ?_,?_⟩
    · unfold Client.owned Client.use
      dsimp only
      rw [hpcb]
      refine Bool.eq_false_of_not_eq_true fun hmem => ?_
      have hkept := List.of_mem_filter (List.contains_iff_mem.mp hmem)
      exact of_decide_eq_true hkept rfl
    · change client.blocks.filter _=[]
      rw [hnil]
      rfl
    · unfold Sound Client.use
      dsimp only
      rw [List.drop_left]
      refine ⟨fun hsound _ => hsound _ (List.mem_singleton_self _),fun hown use huse => ?_⟩
      rw [List.mem_singleton.mp huse]
      exact hown (Option.some_ne_none pcb)

/-! ## Every order of events -/

/-- The block is owned exactly while the interface is up, and nothing is
pending before the first block. -/
structure Tracked (client : Client) : Prop where
  /-- Up. -/
  up : client.notified=some true → client.owned=true
  /-- Down. -/
  down : client.notified=some false → client.owned=false
  /-- Before the first notification. -/
  boot : client.notified=none → client.sntpPcb=none
  /-- Before the first block. -/
  idle : client.sntpPcb=none → client.timeouts=[] ∧ client.resolving=0 ∧ client.blocks=[]

/-- A client with a block owns it exactly when the last notification said that
the interface is up. -/
theorem Tracked.owned_iff {client : Client} (h : Tracked client) (hpcb : client.sntpPcb≠none) :
    client.owned=true ↔ client.notified=some true := by
  refine ⟨fun hown => ?_,h.up⟩
  cases hnotified : client.notified with
  | none => exact absurd (h.boot hnotified) hpcb
  | some up =>
    cases up with
    | true => rfl
    | false => exact absurd (hown.symm.trans (h.down hnotified)) Bool.noConfusion

/-- Between notifications there is a block. -/
theorem Tracked.block {client after : Client} {event : Event} (h : Tracked client)
    (hstep : Step client event after) (hevent : ∀ up udpNew reply,event≠.status up udpNew reply) :
    client.sntpPcb≠none := by
  intro hnone
  obtain ⟨htimeouts,hresolving,hblocks⟩ := h.idle hnone
  rcases (handle_effect hstep hevent).2 with hne|hne|hne
  · exact hne htimeouts
  · exact hne hresolving
  · exact hne hblocks

/-- Every event keeps track of the block. -/
theorem handle_tracked {client after : Client} {event : Event} (h : Tracked client)
    (hstep : Step client event after) : Tracked after := by
  by_cases hevent : ∃ up udpNew reply,event=.status up udpNew reply
  · obtain ⟨up,udpNew,reply,rfl⟩ := hevent
    cases up with
    | true =>
      obtain ⟨hpcb,hown,hnotified,_⟩ := status_up hstep
      refine ⟨fun _ => hown,fun hdown => ?_,fun hboot => ?_,fun hnone => absurd hnone hpcb⟩
      · cases hnotified.symm.trans hdown
      · cases hnotified.symm.trans hboot
    | false =>
      obtain ⟨hpcb,hown,hnotified,htimeouts,hresolving,hblocks,_⟩ := status_down hstep
      refine ⟨fun hup => ?_,fun _ => hown,fun hboot => ?_,fun hnone => ?_⟩
      · cases hnotified.symm.trans hup
      · cases hnotified.symm.trans hboot
      · obtain ⟨ht,hr,hb⟩ := h.idle (hpcb.symm.trans hnone)
        exact ⟨htimeouts.trans ht,hresolving.trans hr,hblocks hb⟩
  · have hevent' : ∀ up udpNew reply,event≠.status up udpNew reply :=
      fun up udpNew reply heq => hevent ⟨up,udpNew,reply,heq⟩
    have heffect := (handle_effect hstep hevent').1
    have hown := owned_congr heffect.pcb heffect.blocks
    refine ⟨fun hup => ?_,fun hdown => ?_,fun hboot => ?_,fun hnone => ?_⟩
    · rw [hown]
      exact h.up (heffect.notified.symm.trans hup)
    · rw [hown]
      exact h.down (heffect.notified.symm.trans hdown)
    · exact heffect.pcb.trans (h.boot (heffect.notified.symm.trans hboot))
    · exact absurd (heffect.pcb.symm.trans hnone) (h.block hstep hevent')

/-- An event is sound exactly when it sends and removes only while the
interface is up. -/
theorem sound_iff_whileUp {client after : Client} {event : Event} (h : Tracked client)
    (hstep : Step client event after) :
    Sound ⟨client,event,after⟩ ↔ WhileUp client event := by
  unfold WhileUp
  by_cases hevent : ∃ up udpNew reply,event=.status up udpNew reply
  · obtain ⟨up,udpNew,reply,rfl⟩ := hevent
    cases up with
    | true =>
      refine iff_of_true (status_up hstep).2.2.2 ?_
      rintro (hsends|⟨hdown,_⟩)
      · exact hsends.elim
      · cases hdown
    | false =>
      rw [(status_down hstep).2.2.2.2.2.2]
      constructor
      · rintro hown (hsends|⟨_,hpcb⟩)
        · exact hsends.elim
        · exact (h.owned_iff hpcb).mp (hown hpcb)
      · intro hup hpcb
        exact (h.owned_iff hpcb).mpr (hup (.inr ⟨rfl,hpcb⟩))
  · have hevent' : ∀ up udpNew reply,event≠.status up udpNew reply :=
      fun up udpNew reply heq => hevent ⟨up,udpNew,reply,heq⟩
    have hremoves : ¬Removes client event := by
      cases event with
      | status up udpNew reply => exact absurd rfl (hevent' up udpNew reply)
      | _ => exact id
    rw [(handle_effect hstep hevent').1.sound_iff event,or_iff_left hremoves,
      h.owned_iff (h.block hstep hevent')]

/-- Nothing has happened at boot. -/
theorem boot_tracked : Tracked Client.boot := by
  refine ⟨fun hup => ?_,fun hdown => ?_,fun _ => rfl,fun _ => ⟨rfl,rfl,rfl⟩⟩
  · cases hup
  · cases hdown

/-- For every order of events, every operation through `sntp_pcb` is on an
existing control block exactly when requests are sent and control blocks are
removed only while the interface is up. -/
theorem pcb_sound_iff {ts : List (Transition Client Event)} {client : Client}
    (h : Path Step Client.boot ts client) :
    (∀ t∈ts,Sound t) ↔ ∀ t∈ts,WhileUp t.before t.label := by
  have hbefore := h.invariant_transitions boot_tracked fun _ _ _ => handle_tracked
  refine forall₂_congr fun t ht => ?_
  exact sound_iff_whileUp (hbefore t ht).1 (h.steps t ht)

/-- The interface has come up, and the server's name is being resolved. -/
def resolvingClient : Client := {Client.boot with
  sntpPcb := some 1
  blocks := [1]
  resolving := 1
  sntpRetryTimeout := 3000
  notified := some true}

/-- The interface has gone down again. -/
def downClient : Client := {resolvingClient with
  blocks := []
  notified := some false
  uses := [⟨.remove,some 1,true⟩]}

/-- The first notification. -/
theorem boot_up : Step Client.boot (.status true (some 1) ⟨.inProgress,true⟩) resolvingClient := rfl

/-- The second one. -/
theorem resolving_down : Step resolvingClient (.status false none ⟨.failed,true⟩) downClient := rfl

/-- A run up to the second notification is sound. -/
theorem pcb_sound_until_down :
    ∃ ts,Path Step Client.boot ts downClient ∧ ∀ t∈ts,Sound t := by
  have hrun := (Path.nil.snoc boot_up).snoc resolving_down
  refine ⟨_,hrun,(pcb_sound_iff hrun).mpr ?_⟩
  intro t ht
  rcases List.mem_cons.mp ht with rfl|ht
  · rintro (hsends|⟨hdown,_⟩)
    · exact hsends.elim
    · cases hdown
  · rw [List.mem_singleton.mp ht]
    intro _
    rfl

/-- The interface goes up and down before the server's name is resolved; the
request is then sent with the control block that was removed. -/
theorem request_on_removed_pcb :
    ∃ ts client,Path Step Client.boot ts client ∧
      client.uses.map (fun use => (use.pcb,use.owned))=[(some 1,true),(some 1,false)] ∧
      ¬∀ t∈ts,Sound t := by
  have hfound : Step downClient (.resolved (some 0x7F000001) true)
      (sntpDnsFound (some 0x7F000001) true {downClient with resolving := 0}) := rfl
  refine ⟨_,_,((Path.nil.snoc boot_up).snoc resolving_down).snoc hfound,rfl,?_⟩
  intro hsound
  have hlast := hsound _ (List.mem_append_right _ (List.mem_singleton_self _))
    ⟨.sendto requestMessage 0x7F000001 sntpPort,some 1,false⟩ (List.mem_singleton_self _)
  cases hlast

end VlfGateway.SntpClient
