import VlfGateway.HttpReceive
import VlfGateway.HttpTransmit
import VlfGateway.MemoryStore

/-!
# The upload session over TCP

One session at a time drives one protocol control block. Its callbacks, the
service tick of the main loop and the store share the state below. The
session's own log records, oldest first, every use it makes of the control
block, the callbacks that end it and every element it starts. The answers of
lwIP and of the card are inputs.
-/

namespace VlfGateway.ServerTcp

open HttpTransmit HttpReceive MemoryStore SdCard

/-- `err_t`. -/
inductive ErrT where
  | ok | mem | buf | timeout | rte | inprogress | val | wouldblock | use | isconn
  | abrt | rst | clsd | conn | arg | netif
  deriving DecidableEq

/-- `output_phase`, with the value it has once `OP_CLOSE` has been left. -/
inductive OutputPhase where
  | httpHeader | jsonHeader | jsonData | jsonFooter | waitBeforeClose | close | done
  deriving DecidableEq

/-- `sizeof(output_buffer)`. -/
def outputBufferSize : ℕ := 400

/-- `WAIT_BEFORE_CLOSE`. -/
def waitBeforeClose : ℕ := 2000*15

/-- `MAX_WRITE_ERR_BEFORE_CLOSE`. -/
def maxWriteErrBeforeClose : UInt32 := 20*1000

/-- `TCP_SND_QUEUELEN` for a maximum segment size of 1460 and a send buffer
of four segments. -/
def tcpSndQueuelen : ℕ := 16

/-- Host and authorization of a server whose request header fits the output
buffer. -/
structure HttpTarget where
  /-- `host`. -/
  host : List Char
  /-- `auth`. -/
  auth : Option (List UInt8)
  /-- No number of records makes the header longer than the buffer. -/
  fits : ∀ recordsCount : UInt16,(httpHeader host auth recordsCount).length≤outputBufferSize

/-- `struct server_tcp_state`. -/
structure ServerTcpState where
  /-- Whether `pcb` is set. -/
  pcb : Bool
  /-- `connected`. -/
  connected : Bool
  /-- `host` and `auth`. -/
  target : HttpTarget
  /-- `remote_ip`. -/
  remoteIp : UInt32
  /-- `remote_port`. -/
  remotePort : UInt16
  /-- `output_phase`. -/
  outputPhase : OutputPhase
  /-- `mem_output_index`. -/
  memOutputIndex : UInt32
  /-- `records_index`. -/
  recordsIndex : UInt16
  /-- `records_count`. -/
  recordsCount : UInt16
  /-- The text printed last into `output_buffer`. -/
  outputBuffer : List Char
  /-- `current_pos`. -/
  currentPos : ℕ
  /-- `current_len`. -/
  currentLen : ℕ
  /-- `wait_before_close_counter`. -/
  waitBeforeCloseCounter : ℕ
  /-- Whether `tcp_close_callback` is set, to `upload_end`. -/
  tcpCloseCallback : Bool
  /-- `write_err`. -/
  writeErr : UInt32

/-- What is registered with lwIP for the control block. -/
structure Callbacks where
  /-- The argument passed to every callback is the session. -/
  arg : Bool
  /-- `server_tcp_err`. -/
  err : Bool
  /-- `server_tcp_recv`. -/
  recv : Bool
  /-- `server_tcp_sent`. -/
  sent : Bool

/-- The globals of `upload.c`. -/
structure UploadState where
  /-- `active`. -/
  active : UInt8
  /-- `upload_countdown`. -/
  uploadCountdown : UInt32

/-- What a session does outside its own state. -/
inductive SessionAction where
  /-- `tcp_write` with its data and result. -/
  | write (data : List Char) (err : ErrT)
  /-- `tcp_close` with its result. -/
  | close (err : ErrT)
  /-- `tcp_close_callback`. -/
  | closeCallback
  /-- lwIP has called `server_tcp_err`. -/
  | errCallback
  /-- An element was started with what `get_sample` returned for the index. -/
  | element (index : UInt32) (sample : Option Sample) (comma : Bool)
  deriving DecidableEq

/-- The state the session, its callbacks and the main loop work on. -/
structure Gateway where
  /-- The record store. -/
  store : Store
  /-- `server_tcp`. -/
  tcp : ServerTcpState
  /-- Callbacks of the current control block. -/
  callbacks : Callbacks
  /-- State of the response parser. -/
  parser : Parser
  /-- State of the upload timer. -/
  upload : UploadState
  /-- Actions of the current session, oldest first. -/
  log : List SessionAction

/-! ## Closing -/

/-- `UPLOAD_WAIT`. -/
def uploadWait : UInt32 := 2000*60*5

/-- `upload_end`. -/
def uploadEnd (_ : UploadState) : UploadState := ⟨0,uploadWait⟩

/-- `server_tcp_close_conn`, with the result of `tcp_close`. -/
def serverTcpCloseConn (closed : ErrT) (g : Gateway) : Gateway :=
  let cleared := {g with callbacks := ⟨false,false,false,false⟩,log := g.log++[.close closed]}
  if closed=.ok ∧ g.tcp.tcpCloseCallback then
    {cleared with upload := uploadEnd g.upload,log := g.log++[.close closed,.closeCallback]}
  else cleared

/-! ## Writing -/

/-- Result of one `tcp_write` and the queue state read after it. -/
structure TcpReply where
  /-- Result of `tcp_write`. -/
  err : ErrT
  /-- `tcp_sndbuf`. -/
  sndbuf : ℕ
  /-- `tcp_sndqueuelen`. -/
  sndqueuelen : ℕ

/-- Length for the next try after `ERR_MEM`. -/
def shorterLength (reply : TcpReply) (len : ℕ) : ℕ :=
  if reply.sndbuf=0 ∨ tcpSndQueuelen≤reply.sndqueuelen then 1 else len/2

/-- The next try after `ERR_MEM` is shorter whenever it is made. -/
theorem shorterLength_lt {reply : TcpReply} {len : ℕ} (h : 1<shorterLength reply len) :
    shorterLength reply len<len := by
  unfold shorterLength at h ⊢
  split
  · rw [if_pos ‹_›] at h
    omega
  · rw [if_neg ‹_›] at h
    omega

/-- `server_tcp_write` from its round `k` on: the result, the length left in
`length`, and the calls made. -/
def serverTcpWrite (replies : ℕ → TcpReply) (data : List Char) (k len : ℕ) :
    ErrT × ℕ × List SessionAction :=
  let call := SessionAction.write (data.take len) (replies k).err
  if (replies k).err=.mem then
    if 1<shorterLength (replies k) len then
      let rest := serverTcpWrite replies data (k+1) (shorterLength (replies k) len)
      (rest.1,rest.2.1,call::rest.2.2)
    else (.mem,shorterLength (replies k) len,[call])
  else ((replies k).err,len,[call])
termination_by len
decreasing_by
  rename_i h
  exact shorterLength_lt h

/-- `server_current_tcp_out`: whether the current block is empty afterwards,
and the gateway. -/
def serverCurrentTcpOut (replies : ℕ → TcpReply) (closed : ErrT) (g : Gateway) : Bool × Gateway :=
  let lenVal := g.tcp.currentLen-g.tcp.currentPos
  if 0<lenVal then
    let written := serverTcpWrite replies (g.tcp.outputBuffer.drop g.tcp.currentPos) 0 lenVal
    let log := g.log++written.2.2
    if written.1=.ok then
      let pos := g.tcp.currentPos+written.2.1
      if g.tcp.currentLen≤pos then (true,{g with tcp := {g.tcp with currentPos := pos},log := log})
      else (false,{g with tcp := {g.tcp with currentPos := pos,writeErr := 0},log := log})
    else
      let failed := {g with tcp := {g.tcp with writeErr := g.tcp.writeErr+1},log := log}
      if maxWriteErrBeforeClose<g.tcp.writeErr+1 then (false,serverTcpCloseConn closed failed)
      else (false,failed)
  else (true,g)

/-- Answers lwIP and the card give during one `server_tcp_out`. -/
structure OutputReplies where
  /-- `tcp_write` while the current block is sent. -/
  current : ℕ → TcpReply
  /-- `tcp_close` when the errors of the current block reach their limit. -/
  currentClosed : ErrT
  /-- Card status polls of `get_sample`. -/
  polls : List UInt8
  /-- `tcp_close` of the closing phase. -/
  phaseClosed : ErrT
  /-- `tcp_write` while the selected block is sent. -/
  selected : ℕ → TcpReply
  /-- `tcp_close` when the errors of the selected block reach their limit. -/
  selectedClosed : ErrT

/-- A text as the new current block. -/
def ServerTcpState.load (tcp : ServerTcpState) (text : List Char) : ServerTcpState :=
  {tcp with outputBuffer := text,currentPos := 0,currentLen := text.length}

/-- The position is cleared and no text selected. -/
def ServerTcpState.unload (tcp : ServerTcpState) : ServerTcpState :=
  {tcp with currentPos := 0,currentLen := 0}

/-- The switch on the output phase. -/
def selectBlock (replies : OutputReplies) (g : Gateway) : Gateway :=
  match g.tcp.outputPhase with
  | .httpHeader =>
    {g with tcp := {g.tcp.load (httpHeader g.tcp.target.host g.tcp.target.auth g.tcp.recordsCount)
      with outputPhase := .jsonHeader}}
  | .jsonHeader => {g with tcp := {g.tcp.load HttpTransmit.jsonHeader with outputPhase := .jsonData}}
  | .jsonData =>
    if g.tcp.recordsIndex<g.tcp.recordsCount then
      let recordsIndex := g.tcp.recordsIndex+1
      let comma := decide (recordsIndex<g.tcp.recordsCount)
      let read := getSample g.store g.tcp.memOutputIndex replies.polls
      {g with
        store := read.2
        tcp := {g.tcp.load (jsonElement read.1 comma) with
          recordsIndex := recordsIndex
          memOutputIndex := g.tcp.memOutputIndex+1}
        log := g.log++[.element g.tcp.memOutputIndex read.1 comma]}
    else
      {g with tcp := {g.tcp.unload with
        recordsIndex := g.tcp.recordsIndex+1
        outputPhase := .jsonFooter}}
  | .jsonFooter =>
    {g with tcp := {g.tcp.load HttpTransmit.jsonFooter with outputPhase := .waitBeforeClose}}
  | .waitBeforeClose =>
    {g with tcp := {g.tcp.unload with
      waitBeforeCloseCounter := g.tcp.waitBeforeCloseCounter+1
      outputPhase := if waitBeforeClose<g.tcp.waitBeforeCloseCounter then .close
        else .waitBeforeClose}}
  | .close =>
    {g with
      tcp := {g.tcp.unload with outputPhase := .done}
      log := g.log++[.close replies.phaseClosed]}
  | .done => {g with tcp := g.tcp.unload}

/-- `server_tcp_out`. The result of the second write is dropped. -/
def serverTcpOut (replies : OutputReplies) (g : Gateway) : Gateway :=
  if g.tcp.connected then
    let current := serverCurrentTcpOut replies.current replies.currentClosed g
    if current.1 then
      (serverCurrentTcpOut replies.selected replies.selectedClosed
        (selectBlock replies current.2)).2
    else current.2
  else g

/-! ## Callbacks and service -/

/-- `server_tcp_connected`. -/
def serverTcpConnected (g : Gateway) : Gateway :=
  if g.callbacks.arg then
    {g with tcp := {g.tcp with connected := true},parser := resetHttpResponseParser}
  else g

/-- `server_tcp_err`, with the result of `tcp_close` on the control block
that lwIP has already deallocated. -/
def serverTcpErr (closed : ErrT) (g : Gateway) : Gateway :=
  let noticed := {g with tcp := {g.tcp with connected := false},log := g.log++[.errCallback]}
  if g.tcp.pcb then serverTcpCloseConn closed noticed else noticed

/-- `server_tcp_sent`. -/
def serverTcpSent (replies : OutputReplies) (g : Gateway) : Gateway :=
  if g.callbacks.arg then serverTcpOut replies g else g

/-- `good_upload_done` with the card's answers to the index page writes, one
for each call. -/
def goodUploadDoneWith (pages : ℕ → WriteReply) (state : Store × ℕ) : Store × ℕ :=
  (goodUploadDone state.1 (pages state.2),state.2+1)

/-- The walk over a chain of buffers: the parser, the store and the number of
calls of `good_upload_done`. -/
def parseChain (pages : ℕ → WriteReply) (parser : Parser) (store : Store)
    (chain : List (List UInt8)) : Parser × Store × ℕ :=
  chain.foldl (fun state payload =>
    parseHttpResponseBuffer (goodUploadDoneWith pages) state.1 state.2 payload) (parser,store,0)

/-- `server_tcp_recv` with a chain of buffers, or with none. Receiving is
registered and cleared together with the session argument, so the argument
is set here. -/
def serverTcpRecv (chain : Option (List (List UInt8))) (err closed : ErrT) (pages : ℕ → WriteReply)
    (g : Gateway) : Gateway :=
  match chain with
  | none => serverTcpCloseConn closed g
  | some payloads =>
    if err≠.ok then serverTcpCloseConn closed g
    else
      let parsed := parseChain pages g.parser g.store payloads
      {g with parser := parsed.1,store := parsed.2.1}

/-- `server_tcp_service`. -/
def serverTcpService (replies : OutputReplies) (g : Gateway) : Gateway :=
  if g.tcp.connected then serverTcpOut replies g else g

/-! ## Starting a session -/

/-- Answers lwIP gives during `server_tcp_init`. -/
structure InitReplies where
  /-- Whether `tcp_new` finds a control block. -/
  created : Bool
  /-- Result of each `tcp_bind`. -/
  bound : ℕ → ErrT
  /-- Result of `tcp_connect`. -/
  connect : ErrT

/-- `server_tcp` after it has been cleared and its properties set. -/
def clearedState (target : HttpTarget) (remoteIp : UInt32) (remotePort : UInt16)
    (readIndex : UInt32) (recordsCount : UInt16) (callback created : Bool) : ServerTcpState :=
  {pcb := created,connected := false,target := target,remoteIp := remoteIp,remotePort := remotePort
   outputPhase := .httpHeader,memOutputIndex := readIndex,recordsIndex := 0
   recordsCount := recordsCount,outputBuffer := [],currentPos := 0,currentLen := 0
   waitBeforeCloseCounter := 0,tcpCloseCallback := callback,writeErr := 0}

/-- `server_tcp_init`. A session with records gets a fresh log. Binding is
tried at most a hundred times. -/
def serverTcpInit (target : HttpTarget) (remoteIp : UInt32) (remotePort : UInt16)
    (readIndex : UInt32) (recordsCount : UInt16) (callback : Bool) (replies : InitReplies)
    (g : Gateway) : ErrT × Gateway :=
  if 0<recordsCount then
    let cleared := {g with
      tcp := clearedState target remoteIp remotePort readIndex recordsCount callback replies.created
      callbacks := ⟨false,false,false,false⟩
      log := []}
    if replies.created then
      if (List.range 100).any fun k => replies.bound k=.ok then
        (replies.connect,{cleared with callbacks := ⟨true,true,true,true⟩})
      else (replies.bound 99,cleared)
    else (.mem,cleared)
  else (.arg,g)

/-- The address 192.168.1.8 in network order. -/
def couchdbIp : UInt32 := 0x0801A8C0

/-- The number of records takes at most nine characters in the header. -/
theorem contentLen_length_le (recordsCount : UInt16) :
    (PrintfText.signedDecimal (contentLen recordsCount)).length≤9 := by
  have hcount := recordsCount.toNat_lt
  refine PrintfText.signedDecimal_length_le (by decide) ?_
  unfold contentLen jsonOverheadChars jsonRecordChars
  omega

/-- `couchdb_server_address` without authorization. -/
def couchdbServer : HttpTarget where
  host := "192.168.1.8".toList
  auth := none
  fits := by
    intro recordsCount
    have hlen := contentLen_length_le recordsCount
    unfold httpHeader authorizationText
    simp only [List.length_append,String.length_toList]
    change 41+11+18+_+2+0+32+2≤400
    omega

/-- `couchdb_start_upload` at timer value `tc`. -/
def couchdbStartUpload (tc : UInt32) (replies : InitReplies) (g : Gateway) : Gateway :=
  let started := serverTcpInit couchdbServer couchdbIp 5984 (getCurrentReadBlock g.store)
    (getBlocksToRead g.store tc) true replies g
  if started.1≠.ok then {started.2 with upload := uploadEnd started.2.upload} else started.2

/-- The gateway when the main loop starts: no session has been opened. -/
def bootGateway (store : Store) : Gateway :=
  {store := store,tcp := clearedState couchdbServer couchdbIp 5984 0 0 false false
   callbacks := ⟨false,false,false,false⟩,parser := resetHttpResponseParser
   upload := ⟨0,2000*10⟩,log := []}

/-- A session for records starts from the cleared state with an empty log,
whatever lwIP answers. -/
theorem serverTcpInit_state (target : HttpTarget) (remoteIp : UInt32) (remotePort : UInt16)
    (readIndex : UInt32) {recordsCount : UInt16} (callback : Bool) (replies : InitReplies)
    (g : Gateway) (hcount : 0<recordsCount) :
    let started := serverTcpInit target remoteIp remotePort readIndex recordsCount callback replies g
    started.2.store=g.store ∧ started.2.log=[] ∧
      started.2.tcp=clearedState target remoteIp remotePort readIndex recordsCount callback
        replies.created := by
  unfold serverTcpInit
  rw [if_pos hcount]
  dsimp only
  split
  · split <;> exact ⟨rfl,rfl,rfl⟩
  · exact ⟨rfl,rfl,rfl⟩

/-- Once lwIP has a control block and binds it, the callbacks are registered. -/
theorem serverTcpInit_accepted (target : HttpTarget) (remoteIp : UInt32) (remotePort : UInt16)
    (readIndex : UInt32) {recordsCount : UInt16} (callback : Bool) {replies : InitReplies}
    (g : Gateway) (hcount : 0<recordsCount) (hcreated : replies.created=true)
    (hbound : replies.bound 0=.ok) :
    serverTcpInit target remoteIp remotePort readIndex recordsCount callback replies g=
      (replies.connect,{g with
        tcp := clearedState target remoteIp remotePort readIndex recordsCount callback true
        callbacks := ⟨true,true,true,true⟩
        log := []}) := by
  have hany : (List.range 100).any (fun k => decide (replies.bound k=.ok))=true :=
    List.any_eq_true.mpr ⟨0,List.mem_range.mpr (by decide),decide_eq_true hbound⟩
  unfold serverTcpInit
  rw [if_pos hcount,if_pos hcreated,if_pos hany,hcreated]

/-! ## Events of a session -/

/-- What can happen to a session. -/
inductive SessionEvent where
  /-- A tick of the main loop. -/
  | service (replies : OutputReplies)
  /-- The connection was opened. -/
  | connected
  /-- Sent data was acknowledged. -/
  | sent (replies : OutputReplies)
  /-- Data, an error or the end of the stream was received. -/
  | recv (chain : Option (List (List UInt8))) (err closed : ErrT) (pages : ℕ → WriteReply)
  /-- The control block failed and was deallocated. -/
  | err (closed : ErrT)

/-- lwIP calls back only what is registered. -/
def SessionEvent.enabled (g : Gateway) : SessionEvent → Prop
  | .service _ => True
  | .connected => True
  | .sent _ => g.callbacks.sent=true
  | .recv _ _ _ _ => g.callbacks.recv=true
  | .err _ => g.callbacks.err=true

instance (g : Gateway) : (event : SessionEvent) → Decidable (event.enabled g)
  | .service _ => inferInstanceAs (Decidable True)
  | .connected => inferInstanceAs (Decidable True)
  | .sent _ => inferInstanceAs (Decidable (_=true))
  | .recv _ _ _ _ => inferInstanceAs (Decidable (_=true))
  | .err _ => inferInstanceAs (Decidable (_=true))

/-- Effect of an event. -/
def sessionStep (g : Gateway) : SessionEvent → Gateway
  | .service replies => serverTcpService replies g
  | .connected => serverTcpConnected g
  | .sent replies => serverTcpSent replies g
  | .recv chain err closed pages => serverTcpRecv chain err closed pages g
  | .err closed => serverTcpErr closed g

/-- What the main loop and lwIP can do to the gateway. -/
inductive GatewayEvent where
  /-- An event of the current session. -/
  | session (event : SessionEvent)
  /-- A record arrives and is offered to the store. -/
  | put (block : RecordChecksum.Record) (tc : UInt32) (data page : WriteReply)
  /-- The upload timer expires. -/
  | start (tc : UInt32) (replies : InitReplies)
  /-- The server has acknowledged one element. -/
  | ack (page : WriteReply)

/-- Effect of an event on the gateway. -/
def gatewayStep (g : Gateway) : GatewayEvent → Gateway
  | .session event => sessionStep g event
  | .put block tc data page => {g with store := (putSample g.store block tc data page).2}
  | .start tc replies => couchdbStartUpload tc replies g
  | .ack page => {g with store := goodUploadDone g.store page}

/-! ## What the log says -/

/-- Octets one action hands to lwIP. -/
def SessionAction.queued : SessionAction → List Char
  | .write data .ok => data
  | _ => []

/-- The element an action starts. -/
def SessionAction.started : SessionAction → Option (UInt32 × Option Sample)
  | .element index sample _ => some (index,sample)
  | _ => none

/-- An action is a `tcp_write`. -/
def SessionAction.isWrite : SessionAction → Bool
  | .write _ _ => true
  | _ => false

/-- Octets handed to lwIP so far, in order. -/
def queued (log : List SessionAction) : List Char := log.flatMap SessionAction.queued

/-- Elements started so far, in order. -/
def started (log : List SessionAction) : List (UInt32 × Option Sample) :=
  log.filterMap SessionAction.started

/-- Actions that follow add their octets behind. -/
@[simp] theorem queued_append (log more : List SessionAction) :
    queued (log++more)=queued log++queued more := List.flatMap_append

/-- Actions that follow add their elements behind. -/
@[simp] theorem started_append (log more : List SessionAction) :
    started (log++more)=started log++started more := List.filterMap_append

/-- Writes start no element. -/
theorem started_of_writes {log : List SessionAction} (h : ∀ a∈log,a.isWrite=true) :
    started log=[] := by
  rw [started,List.filterMap_eq_nil_iff]
  intro a ha
  have hw := h a ha
  cases a <;> simp_all [SessionAction.isWrite,SessionAction.started]

/-! ## What the writing functions do -/

/-- What the retry loop leaves behind. -/
structure WriteEffect (data : List Char) (len : ℕ) (result : ErrT × ℕ × List SessionAction) :
    Prop where
  /-- At least one try is made. -/
  tried : result.2.2≠[]
  /-- Every call is a write. -/
  writes : ∀ a∈result.2.2,a.isWrite=true
  /-- A successful loop has queued the data up to the length it reports. -/
  sent : result.1=.ok → queued result.2.2=data.take result.2.1 ∧ 0<result.2.1 ∧ result.2.1≤len
  /-- A failed loop has queued nothing. -/
  failed : result.1≠.ok → queued result.2.2=[]

/-- The retry loop queues either one leading part of the data or nothing. -/
theorem serverTcpWrite_effect (replies : ℕ → TcpReply) (data : List Char) :
    ∀ k len,0<len → WriteEffect data len (serverTcpWrite replies data k len) := by
  intro k len
  induction k,len using serverTcpWrite.induct replies data with
  | case1 k len hmem hlonger ih =>
    intro _
    have hrest := ih (by omega)
    have hlt := shorterLength_lt hlonger
    rw [serverTcpWrite,if_pos hmem,if_pos hlonger]
    refine ⟨by simp,?_,?_,?_⟩
    · intro a ha
      rcases List.mem_cons.mp ha with rfl|ha
      · rfl
      · exact hrest.writes a ha
    · intro hok
      obtain ⟨hq,hpos,hle⟩ := hrest.sent hok
      refine ⟨?_,hpos,by dsimp only; omega⟩
      simpa [queued,hmem,SessionAction.queued] using hq
    · intro hne
      simpa [queued,hmem,SessionAction.queued] using hrest.failed hne
  | case2 k len hmem hshort =>
    intro _
    rw [serverTcpWrite,if_pos hmem,if_neg hshort]
    refine ⟨by simp,by simp [SessionAction.isWrite],by simp,?_⟩
    intro _
    simp [queued,hmem,SessionAction.queued]
  | case3 k len hmem =>
    intro hlen
    rw [serverTcpWrite,if_neg hmem]
    refine ⟨by simp,by simp [SessionAction.isWrite],?_,?_⟩
    · intro hok
      dsimp only at hok ⊢
      exact ⟨by simp [queued,hok,SessionAction.queued],hlen,le_refl len⟩
    · intro hne
      dsimp only at hne ⊢
      cases herr : (replies k).err <;> simp_all [queued,SessionAction.queued]

/-- The outcomes of one `server_current_tcp_out`. -/
inductive CurrentOut (closed : ErrT) (g : Gateway) : Bool × Gateway → Prop
  /-- There was nothing to send. -/
  | empty (hend : g.tcp.currentLen≤g.tcp.currentPos) : CurrentOut closed g (true,g)
  /-- A part of the block was queued. -/
  | sent (writes : List SessionAction) (len : ℕ) (err : UInt32)
      (hpos : g.tcp.currentPos<g.tcp.currentLen) (htried : writes≠[])
      (hwrites : ∀ a∈writes,a.isWrite=true)
      (hqueued : queued writes=(g.tcp.outputBuffer.drop g.tcp.currentPos).take len)
      (hlen : 0<len ∧ g.tcp.currentPos+len≤g.tcp.currentLen) :
      CurrentOut closed g (decide (g.tcp.currentLen≤g.tcp.currentPos+len),
        {g with
          tcp := {g.tcp with currentPos := g.tcp.currentPos+len,writeErr := err}
          log := g.log++writes})
  /-- Nothing was queued. -/
  | failed (writes : List SessionAction)
      (hpos : g.tcp.currentPos<g.tcp.currentLen) (htried : writes≠[])
      (hwrites : ∀ a∈writes,a.isWrite=true) (hqueued : queued writes=[]) :
      CurrentOut closed g (false,
        {g with tcp := {g.tcp with writeErr := g.tcp.writeErr+1},log := g.log++writes})
  /-- Nothing was queued once too often. -/
  | givenUp (writes : List SessionAction)
      (hpos : g.tcp.currentPos<g.tcp.currentLen) (htried : writes≠[])
      (hwrites : ∀ a∈writes,a.isWrite=true) (hqueued : queued writes=[]) :
      CurrentOut closed g (false,serverTcpCloseConn closed
        {g with tcp := {g.tcp with writeErr := g.tcp.writeErr+1},log := g.log++writes})

/-- Every call has one of the outcomes. -/
theorem serverCurrentTcpOut_cases (replies : ℕ → TcpReply) (closed : ErrT) (g : Gateway) :
    CurrentOut closed g (serverCurrentTcpOut replies closed g) := by
  unfold serverCurrentTcpOut
  by_cases hlen : 0<g.tcp.currentLen-g.tcp.currentPos
  · have heffect := serverTcpWrite_effect replies (g.tcp.outputBuffer.drop g.tcp.currentPos) 0
      (g.tcp.currentLen-g.tcp.currentPos) hlen
    have hpos : g.tcp.currentPos<g.tcp.currentLen := by omega
    rw [if_pos hlen]
    generalize serverTcpWrite replies (g.tcp.outputBuffer.drop g.tcp.currentPos) 0
      (g.tcp.currentLen-g.tcp.currentPos)=written at heffect ⊢
    dsimp only
    by_cases hok : written.1=.ok
    · obtain ⟨hq,hn,hle⟩ := heffect.sent hok
      rw [if_pos hok]
      by_cases hend : g.tcp.currentLen≤g.tcp.currentPos+written.2.1
      · have hsent : CurrentOut closed g _ := .sent written.2.2 written.2.1 g.tcp.writeErr
          hpos heffect.tried heffect.writes hq ⟨hn,by omega⟩
        rw [if_pos hend]
        rwa [decide_eq_true hend] at hsent
      · have hsent : CurrentOut closed g _ := .sent written.2.2 written.2.1 0
          hpos heffect.tried heffect.writes hq ⟨hn,by omega⟩
        rw [if_neg hend]
        rwa [decide_eq_false hend] at hsent
    · rw [if_neg hok]
      split
      · exact .givenUp written.2.2 hpos heffect.tried heffect.writes (heffect.failed hok)
      · exact .failed written.2.2 hpos heffect.tried heffect.writes (heffect.failed hok)
  · rw [if_neg hlen]
    exact .empty (by omega)

end VlfGateway.ServerTcp
