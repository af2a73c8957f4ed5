import VlfGateway.ServerTcp
import VlfGateway.StepPath

/-!
# The octets of a session

Blocks of text are produced phase by phase and handed to lwIP in pieces of
any size. Throughout a session the octets handed over so far and the rest of
the current block together are the text the phases have produced, so what
lwIP was given is at every moment a leading part of one fixed request.
-/

namespace VlfGateway.SessionStream

open HttpTransmit MemoryStore RecordChecksum SdCard ServerTcp StepPath

/-- The part of the current block that has not been handed over. -/
def unsent (tcp : ServerTcpState) : List Char :=
  (tcp.outputBuffer.take tcp.currentLen).drop tcp.currentPos

/-- The whole request for the given samples. -/
def requestStream (target : HttpTarget) (count : UInt16) (samples : List (Option Sample)) :
    List Char :=
  httpHeader target.host target.auth count++requestBody count.toNat samples

/-- Text produced once a phase has been reached with the given samples read. -/
def produced (target : HttpTarget) (count : UInt16) (samples : List (Option Sample)) :
    OutputPhase → List Char
  | .httpHeader => []
  | .jsonHeader => httpHeader target.host target.auth count
  | .jsonData | .jsonFooter =>
    httpHeader target.host target.auth count++jsonHeader++elementsFrom count.toNat 0 samples
  | .waitBeforeClose | .close | .done => requestStream target count samples

/-- Samples a phase has read: none before the data phase and all after it. -/
def SamplesRead (count recordsIndex : UInt16) (read : ℕ) : OutputPhase → Prop
  | .httpHeader | .jsonHeader | .jsonData => recordsIndex.toNat=read ∧ read≤count.toNat
  | .jsonFooter | .waitBeforeClose | .close | .done => read=count.toNat

/-- The request is complete once the closing phases are reached. -/
def Waiting (phase : OutputPhase) : Prop :=
  phase=.waitBeforeClose ∨ phase=.close ∨ phase=.done

/-- Samples a session has read so far. -/
def samplesOf (g : Gateway) : List (Option Sample) := (started g.log).map Prod.snd

/-- A session for `count` records from block `start` on, at any moment. -/
structure Streaming (target : HttpTarget) (count : UInt16) (start : UInt32) (g : Gateway) : Prop where
  /-- The server stays the same. -/
  target_eq : g.tcp.target=target
  /-- The number of records stays the same. -/
  count_eq : g.tcp.recordsCount=count
  /-- The position is inside the current block. -/
  pos_le : g.tcp.currentPos≤g.tcp.currentLen
  /-- The current block is inside the printed text. -/
  len_le : g.tcp.currentLen≤g.tcp.outputBuffer.length
  /-- The next index follows those already read. -/
  index_eq : g.tcp.memOutputIndex=start+UInt32.ofNat (started g.log).length
  /-- Indexes are read consecutively from the first one. -/
  indexes_eq : (started g.log).map Prod.fst=
    (List.range (started g.log).length).map fun i => start+UInt32.ofNat i
  /-- The phase agrees with the number of samples read. -/
  read : SamplesRead count g.tcp.recordsIndex (started g.log).length g.tcp.outputPhase
  /-- Before the data phase nothing has been read. -/
  unread : g.tcp.outputPhase=.httpHeader ∨ g.tcp.outputPhase=.jsonHeader → started g.log=[]
  /-- Handed over and still pending octets are what was produced. -/
  stream : queued g.log++unsent g.tcp=produced target count (samplesOf g) g.tcp.outputPhase
  /-- Waiting has begun only with the whole request handed over. -/
  waited : 0<g.tcp.waitBeforeCloseCounter → Waiting g.tcp.outputPhase ∧ unsent g.tcp=[]

/-- Elements of a longer list continue where the shorter one ended. -/
theorem elementsFrom_append (count : ℕ) (first second : List (Option Sample)) :
    ∀ i,elementsFrom count i (first++second)=
      elementsFrom count i first++elementsFrom count (i+first.length) second := by
  induction first with
  | nil => intro i; rfl
  | cons sample first ih =>
    intro i
    simp only [List.cons_append,elementsFrom,List.length_cons]
    rw [ih,List.append_assoc,Nat.add_assoc,Nat.add_comm 1]

/-- What a phase has produced is a leading part of every request that
continues with further samples. -/
theorem produced_leads {target : HttpTarget} {count recordsIndex : UInt16} {phase : OutputPhase}
    {samples rest : List (Option Sample)} (hread : SamplesRead count recordsIndex samples.length phase)
    (hlen : (samples++rest).length=count.toNat) :
    produced target count samples phase<+:requestStream target count (samples++rest) := by
  have hfull : requestStream target count (samples++rest)=
      httpHeader target.host target.auth count++jsonHeader++elementsFrom count.toNat 0 samples++
        (elementsFrom count.toNat samples.length rest++jsonFooter) := by
    simp only [requestStream,requestBody,elementsFrom_append,Nat.zero_add,List.append_assoc]
  have hrest : samples.length=count.toNat → rest=[] := by
    intro hall
    rw [List.length_append] at hlen
    exact List.eq_nil_of_length_eq_zero (by omega)
  cases phase with
  | httpHeader => exact List.nil_prefix
  | jsonHeader => exact List.prefix_append _ _
  | jsonData => rw [hfull]; exact List.prefix_append _ _
  | jsonFooter => rw [hfull]; exact List.prefix_append _ _
  | waitBeforeClose => rw [hrest hread,List.append_nil]; exact List.prefix_refl _
  | close => rw [hrest hread,List.append_nil]; exact List.prefix_refl _
  | done => rw [hrest hread,List.append_nil]; exact List.prefix_refl _

section Steps

variable {target : HttpTarget} {count : UInt16} {start : UInt32} {g : Gateway}

/-- Only the transmit fields and what the log says about octets and elements
matter. -/
theorem Streaming.congr (h : Streaming target count start g) {g' : Gateway}
    (htcp : ∃ pcb connected err,g'.tcp={g.tcp with pcb := pcb,connected := connected,writeErr := err})
    (hqueued : queued g'.log=queued g.log) (hstarted : started g'.log=started g.log) :
    Streaming target count start g' := by
  obtain ⟨pcb,connected,err,htcp⟩ := htcp
  obtain ⟨h1,h2,h3,h4,h5,h6,h7,h8,h9,h10⟩ := h
  constructor <;> simp only [samplesOf,hqueued,hstarted,htcp] <;> assumption

/-- Closing the connection hands over nothing and starts nothing. -/
theorem serverTcpCloseConn_stream (closed : ErrT) (g : Gateway) :
    (serverTcpCloseConn closed g).tcp=g.tcp ∧
      queued (serverTcpCloseConn closed g).log=queued g.log ∧
      started (serverTcpCloseConn closed g).log=started g.log := by
  unfold serverTcpCloseConn
  dsimp only
  split <;> simp [queued,started,SessionAction.queued,SessionAction.started]

/-- Closing the connection keeps the session's stream. -/
theorem Streaming.closed (h : Streaming target count start g) (closed : ErrT) :
    Streaming target count start (serverTcpCloseConn closed g) := by
  obtain ⟨htcp,hqueued,hstarted⟩ := serverTcpCloseConn_stream closed g
  exact h.congr ⟨_,_,_,htcp⟩ hqueued hstarted

/-- Octets handed over leave the pending part. -/
theorem unsent_advance (tcp : ServerTcpState) {len : ℕ} (err : UInt32)
    (hlen : tcp.currentPos+len≤tcp.currentLen) :
    (tcp.outputBuffer.drop tcp.currentPos).take len++
      unsent {tcp with currentPos := tcp.currentPos+len,writeErr := err}=unsent tcp := by
  have htake : (tcp.outputBuffer.drop tcp.currentPos).take len=(unsent tcp).take len := by
    unfold unsent
    rw [List.drop_take,List.take_take]
    congr 1
    omega
  have hdrop : unsent {tcp with currentPos := tcp.currentPos+len,writeErr := err}=
      (unsent tcp).drop len := by
    unfold unsent
    rw [List.drop_drop]
  rw [htake,hdrop,List.take_append_drop]

/-- Sending from the current block keeps the stream, and reports the block
empty only when nothing is pending. -/
theorem Streaming.current (h : Streaming target count start g) (replies : ℕ → TcpReply)
    (closed : ErrT) :
    Streaming target count start (serverCurrentTcpOut replies closed g).2 ∧
      ((serverCurrentTcpOut replies closed g).1=true →
        unsent (serverCurrentTcpOut replies closed g).2.tcp=[]) := by
  have hcases := serverCurrentTcpOut_cases replies closed g
  generalize serverCurrentTcpOut replies closed g=result at hcases
  cases hcases with
  | empty hend =>
    refine ⟨h,fun _ => List.drop_eq_nil_of_le ?_⟩
    exact (List.length_take_le _ _).trans hend
  | sent writes len err hpos htried hwrites hqueued hlen =>
    have hstarted := started_of_writes hwrites
    have hadvance := unsent_advance g.tcp err hlen.2
    constructor
    · refine ⟨h.target_eq,h.count_eq,hlen.2,h.len_le,?_,?_,?_,?_,?_,?_⟩
      · simpa [hstarted] using h.index_eq
      · simpa [hstarted] using h.indexes_eq
      · simpa [hstarted] using h.read
      · simpa [hstarted] using h.unread
      · have hstream := h.stream
        rw [←hadvance,←List.append_assoc,←hqueued,←queued_append] at hstream
        simpa [samplesOf,hstarted] using hstream
      · intro hcounter
        obtain ⟨_,hnil⟩ := h.waited hcounter
        have hsize : (unsent g.tcp).length=g.tcp.currentLen-g.tcp.currentPos := by
          unfold unsent
          rw [List.length_drop,List.length_take,min_eq_left h.len_le]
        rw [hnil,List.length_nil] at hsize
        omega
    · intro hend
      refine List.drop_eq_nil_of_le ((List.length_take_le _ _).trans ?_)
      exact of_decide_eq_true hend
  | failed writes hpos htried hwrites hqueued =>
    refine ⟨h.congr ⟨_,_,_,rfl⟩ ?_ ?_,fun hfalse => nomatch hfalse⟩
    · simp [hqueued]
    · simp [started_of_writes hwrites]
  | givenUp writes hpos htried hwrites hqueued =>
    have hfailed : Streaming target count start
        {g with tcp := {g.tcp with writeErr := g.tcp.writeErr+1},log := g.log++writes} := by
      refine h.congr ⟨_,_,_,rfl⟩ ?_ ?_
      · simp [hqueued]
      · simp [started_of_writes hwrites]
    exact ⟨hfailed.closed closed,fun hfalse => nomatch hfalse⟩

/-- A freshly loaded block is pending as a whole. -/
@[simp] theorem unsent_load (tcp : ServerTcpState) (text : List Char) :
    unsent (tcp.load text)=text := by
  simp [unsent,ServerTcpState.load]

/-- With the position cleared nothing is pending. -/
@[simp] theorem unsent_unload (tcp : ServerTcpState) : unsent tcp.unload=[] := by
  simp [unsent,ServerTcpState.unload]

/-- Counting one record further does not wrap while records are left. -/
theorem recordsIndex_succ {recordsIndex count : UInt16} (h : recordsIndex<count) :
    (recordsIndex+1).toNat=recordsIndex.toNat+1 := by
  have hlt := UInt16.lt_iff_toNat_lt.mp h
  have hmax := count.toNat_lt
  rw [UInt16.toNat_add]
  exact Nat.mod_eq_of_lt (by change _+1<2^16; omega)

/-- No waiting has been counted before the closing phases. -/
theorem Streaming.not_waited (h : Streaming target count start g)
    (hphase : ¬Waiting g.tcp.outputPhase) : ¬0<g.tcp.waitBeforeCloseCounter :=
  fun hcounter => hphase (h.waited hcounter).1

/-- Starting an element continues the stream by its text. -/
theorem Streaming.element (h : Streaming target count start g) (hempty : unsent g.tcp=[])
    (hphase : g.tcp.outputPhase=.jsonData) (hmore : g.tcp.recordsIndex<g.tcp.recordsCount)
    (replies : OutputReplies) :
    Streaming target count start (selectBlock replies g) := by
  have hread := h.read
  have hstream := h.stream
  have hcount := h.count_eq
  have hindex := recordsIndex_succ hmore
  have hlt := UInt16.lt_iff_toNat_lt.mp hmore
  rw [hcount] at hlt
  rw [hphase] at hread hstream
  rw [hempty,List.append_nil] at hstream
  obtain ⟨hreadIndex,hreadCount⟩ := hread
  have hcomma : (g.tcp.recordsIndex+1<g.tcp.recordsCount) ↔
      (started g.log).length+1<count.toNat := by
    rw [UInt16.lt_iff_toNat_lt,hindex,hreadIndex,hcount]
  simp only [selectBlock,hphase,if_pos hmore]
  generalize getSample g.store g.tcp.memOutputIndex replies.polls=sample
  have hstarted : started (g.log++[SessionAction.element g.tcp.memOutputIndex sample.1
      (decide (g.tcp.recordsIndex+1<g.tcp.recordsCount))])=
      started g.log++[(g.tcp.memOutputIndex,sample.1)] := by
    simp [started,SessionAction.started]
  have hqueued : queued (g.log++[SessionAction.element g.tcp.memOutputIndex sample.1
      (decide (g.tcp.recordsIndex+1<g.tcp.recordsCount))])=queued g.log := by
    simp [queued,SessionAction.queued]
  refine ⟨h.target_eq,hcount,Nat.zero_le _,le_refl _,?_,?_,?_,?_,?_,?_⟩
  · dsimp only
    rw [hstarted,h.index_eq,List.length_append,List.length_singleton,UInt32.ofNat_add,
      UInt32.add_assoc]
    rfl
  · dsimp only
    rw [hstarted,List.length_append,List.length_singleton,List.range_succ,List.map_append,
      List.map_append,h.indexes_eq,h.index_eq]
    rfl
  · dsimp only [ServerTcpState.load]
    rw [hstarted,hphase,List.length_append,List.length_singleton]
    exact ⟨by omega,by omega⟩
  · dsimp only [ServerTcpState.load]
    rw [hphase]
    rintro (hfalse|hfalse) <;> cases hfalse
  · dsimp only [ServerTcpState.load,samplesOf,unsent]
    rw [hstarted,hqueued,hphase,hstream,List.map_append]
    simp only [produced,samplesOf,List.map_cons,List.map_nil,elementsFrom_append,elementsFrom,
      Nat.zero_add,List.length_map,List.take_length,List.drop_zero,List.append_nil,hcomma,
      List.append_assoc]
  · exact fun hcounter => absurd hcounter (h.not_waited (by simp [Waiting,hphase]))

/-- Selecting a block that starts no element moves to the next phase with its
text pending, or stays with nothing pending. -/
theorem Streaming.phase (h : Streaming target count start g) {g' : Gateway}
    (hlog : queued g'.log=queued g.log ∧ started g'.log=started g.log)
    (hfixed : g'.tcp.target=g.tcp.target ∧ g'.tcp.recordsCount=g.tcp.recordsCount ∧
      g'.tcp.memOutputIndex=g.tcp.memOutputIndex)
    (hblock : g'.tcp.currentPos=0 ∧ g'.tcp.currentLen≤g'.tcp.outputBuffer.length)
    (hread : SamplesRead count g'.tcp.recordsIndex (started g.log).length g'.tcp.outputPhase)
    (hunread : g'.tcp.outputPhase=.httpHeader ∨ g'.tcp.outputPhase=.jsonHeader → started g.log=[])
    (hstream : queued g.log++unsent g'.tcp=
      produced target count (samplesOf g) g'.tcp.outputPhase)
    (hwaited : 0<g'.tcp.waitBeforeCloseCounter →
      Waiting g'.tcp.outputPhase ∧ unsent g'.tcp=[]) :
    Streaming target count start g' := by
  obtain ⟨hqueued,hstarted⟩ := hlog
  obtain ⟨htarget,hcount,hindex⟩ := hfixed
  constructor
  · exact htarget.trans h.target_eq
  · exact hcount.trans h.count_eq
  · omega
  · exact hblock.2
  · rw [hindex,hstarted]
    exact h.index_eq
  · rw [hstarted]
    exact h.indexes_eq
  · rw [hstarted]
    exact hread
  · rw [hstarted]
    exact hunread
  · rw [samplesOf,hqueued,hstarted]
    exact hstream
  · exact hwaited

/-- Loading the text that leads from one phase to the next keeps the stream. -/
theorem Streaming.loaded (h : Streaming target count start g) (hempty : unsent g.tcp=[])
    (hwait : ¬Waiting g.tcp.outputPhase) {text : List Char} {next : OutputPhase}
    (hread : SamplesRead count g.tcp.recordsIndex (started g.log).length next)
    (hunread : next=.httpHeader ∨ next=.jsonHeader → started g.log=[])
    (htext : produced target count (samplesOf g) g.tcp.outputPhase++text=
      produced target count (samplesOf g) next) :
    Streaming target count start {g with tcp := {g.tcp.load text with outputPhase := next}} := by
  have hstream := h.stream
  rw [hempty,List.append_nil] at hstream
  refine h.phase ⟨rfl,rfl⟩ ⟨rfl,rfl,rfl⟩ ⟨rfl,le_refl _⟩ hread hunread ?_ ?_
  · change _++unsent (g.tcp.load _)=_
    rw [unsent_load,hstream]
    exact htext
  · exact fun hcounter => absurd hcounter (h.not_waited hwait)

/-- Clearing the position on the way to a phase that has produced the same
text keeps the stream. -/
theorem Streaming.unloaded (h : Streaming target count start g) (hempty : unsent g.tcp=[])
    {index : UInt16} {counter : ℕ} {next : OutputPhase} {log : List SessionAction}
    (hlog : queued log=queued g.log ∧ started log=started g.log)
    (hread : SamplesRead count index (started g.log).length next)
    (hunread : next=.httpHeader ∨ next=.jsonHeader → started g.log=[])
    (hsame : produced target count (samplesOf g) g.tcp.outputPhase=
      produced target count (samplesOf g) next)
    (hwait : 0<counter → Waiting next) :
    Streaming target count start
      {g with
        tcp := {g.tcp.unload with
          recordsIndex := index,waitBeforeCloseCounter := counter,outputPhase := next}
        log := log} := by
  have hstream := h.stream
  rw [hempty,List.append_nil] at hstream
  refine h.phase hlog ⟨rfl,rfl,rfl⟩ ⟨rfl,Nat.zero_le _⟩ hread hunread ?_ ?_
  · change _++unsent g.tcp.unload=_
    rw [unsent_unload,List.append_nil,hstream]
    exact hsame
  · exact fun hcounter => ⟨hwait hcounter,unsent_unload g.tcp⟩

/-- Selecting the next block keeps the stream once the current one is empty. -/
theorem Streaming.select (h : Streaming target count start g) (hempty : unsent g.tcp=[])
    (replies : OutputReplies) : Streaming target count start (selectBlock replies g) := by
  have hread := h.read
  have hunread := h.unread
  cases hphase : g.tcp.outputPhase with
  | httpHeader =>
    rw [hphase] at hread
    simp only [selectBlock,hphase]
    refine h.loaded hempty (by simp [Waiting,hphase]) hread (fun _ => hunread (.inl hphase)) ?_
    rw [hphase,h.target_eq,h.count_eq]
    rfl
  | jsonHeader =>
    have hnone := hunread (.inr hphase)
    rw [hphase] at hread
    simp only [selectBlock,hphase]
    refine h.loaded hempty (by simp [Waiting,hphase]) hread (fun _ => hnone) ?_
    rw [hphase,samplesOf,hnone]
    simp [produced,elementsFrom]
  | jsonData =>
    by_cases hmore : g.tcp.recordsIndex<g.tcp.recordsCount
    · exact h.element hempty hphase hmore replies
    · have hall : ¬g.tcp.recordsIndex.toNat<count.toNat := by
        rw [←h.count_eq]
        exact fun hlt => hmore (UInt16.lt_iff_toNat_lt.mpr hlt)
      rw [hphase] at hread
      obtain ⟨hreadIndex,hreadCount⟩ := hread
      have hdone : (started g.log).length=count.toNat := by omega
      simp only [selectBlock,hphase,if_neg hmore]
      refine h.unloaded hempty ⟨rfl,rfl⟩ hdone (by simp) ?_ ?_
      · rw [hphase]
        rfl
      · exact fun hcounter => absurd hcounter (h.not_waited (by simp [Waiting,hphase]))
  | jsonFooter =>
    rw [hphase] at hread
    simp only [selectBlock,hphase]
    refine h.loaded hempty (by simp [Waiting,hphase]) hread (by simp) ?_
    rw [hphase]
    simp only [produced,requestStream,requestBody,List.append_assoc]
  | waitBeforeClose =>
    rw [hphase] at hread
    simp only [selectBlock,hphase]
    split
    · exact h.unloaded hempty ⟨rfl,rfl⟩ hread (by simp) (by rw [hphase]; rfl)
        (fun _ => .inr (.inl rfl))
    · exact h.unloaded hempty ⟨rfl,rfl⟩ hread (by simp) (by rw [hphase]) (fun _ => .inl rfl)
  | close =>
    rw [hphase] at hread
    simp only [selectBlock,hphase]
    refine h.unloaded hempty ?_ hread (by simp) (by rw [hphase]; rfl) (fun _ => .inr (.inr rfl))
    simp [queued,started,SessionAction.queued,SessionAction.started]
  | done =>
    simp only [selectBlock,hphase]
    exact h.unloaded hempty ⟨rfl,rfl⟩ hread hunread rfl (fun _ => .inr (.inr hphase))

/-- One call of `server_tcp_out` keeps the stream. -/
theorem Streaming.out (h : Streaming target count start g) (replies : OutputReplies) :
    Streaming target count start (serverTcpOut replies g) := by
  unfold serverTcpOut
  split
  · obtain ⟨hcurrent,hempty⟩ := h.current replies.current replies.currentClosed
    dsimp only
    split
    · exact ((hcurrent.select (hempty ‹_›) replies).current replies.selected
        replies.selectedClosed).1
    · exact hcurrent
  · exact h

/-- Every event of a session keeps its stream. -/
theorem Streaming.event (h : Streaming target count start g) (event : SessionEvent) :
    Streaming target count start (sessionStep g event) := by
  cases event with
  | service replies =>
    simp only [sessionStep,serverTcpService]
    split
    · exact h.out replies
    · exact h
  | connected =>
    simp only [sessionStep,serverTcpConnected]
    split
    · exact h.congr ⟨_,_,_,rfl⟩ rfl rfl
    · exact h
  | sent replies =>
    simp only [sessionStep,serverTcpSent]
    split
    · exact h.out replies
    · exact h
  | recv chain err closed pages =>
    simp only [sessionStep,serverTcpRecv]
    split
    · exact h.closed closed
    · split
      · exact h.closed closed
      · exact h.congr ⟨_,_,_,rfl⟩ rfl rfl
  | err closed =>
    have hnoticed : Streaming target count start
        {g with tcp := {g.tcp with connected := false},log := g.log++[.errCallback]} := by
      refine h.congr ⟨_,_,_,rfl⟩ ?_ ?_
      · simp [queued,SessionAction.queued]
      · simp [started,SessionAction.started]
    simp only [sessionStep,serverTcpErr]
    split
    · exact hnoticed.closed closed
    · exact hnoticed

/-- A session never starts more elements than it has records. -/
theorem Streaming.started_le (h : Streaming target count start g) :
    (started g.log).length≤count.toNat := by
  have hread := h.read
  cases hphase : g.tcp.outputPhase <;> rw [hphase] at hread
  all_goals first | exact hread.2 | exact hread.le

end Steps

/-- Steps within one session: its events, and whatever the main loop does to
the store meanwhile. -/
def withinSession (g : Gateway) : GatewayEvent → Prop
  | .session event => event.enabled g
  | .put _ _ _ _ => True
  | .start _ _ => False
  | .ack _ => True

instance (g : Gateway) : (event : GatewayEvent) → Decidable (withinSession g event)
  | .session event => inferInstanceAs (Decidable (event.enabled g))
  | .put _ _ _ _ => inferInstanceAs (Decidable True)
  | .start _ _ => inferInstanceAs (Decidable False)
  | .ack _ => inferInstanceAs (Decidable True)

/-- Gateways that `server_tcp_init` leaves behind for `count` records from
block `start` on. -/
def SessionStart (target : HttpTarget) (count : UInt16) (start : UInt32) (g : Gateway) : Prop :=
  ∃ remoteIp remotePort callback replies before,
    g=(serverTcpInit target remoteIp remotePort start count callback replies before).2

/-- A cleared session with an empty log has produced nothing. -/
theorem streaming_cleared {target : HttpTarget} {remoteIp start : UInt32}
    {remotePort count : UInt16} {callback created : Bool} {g : Gateway} (hlog : g.log=[])
    (htcp : g.tcp=clearedState target remoteIp remotePort start count callback created) :
    Streaming target count start g := by
  constructor <;> simp [hlog,htcp,clearedState,started,queued,unsent,produced,SamplesRead]

/-- A new session has produced nothing. -/
theorem streaming_start {target : HttpTarget} {count : UInt16} {start : UInt32} {g : Gateway}
    (hcount : 0<count) (h : SessionStart target count start g) : Streaming target count start g := by
  obtain ⟨remoteIp,remotePort,callback,replies,before,rfl⟩ := h
  obtain ⟨_,hlog,htcp⟩ :=
    serverTcpInit_state target remoteIp remotePort start callback replies before hcount
  exact streaming_cleared hlog htcp

/-- Under any answers of lwIP and any interleaving, the octets handed over
are at every moment a leading part of the request, whatever the samples still
to be read turn out to be. Every started element has read the next block of
the session, and waiting begins only after the last octet. -/
theorem stream_exact {target : HttpTarget} {count : UInt16} {start : UInt32} {g : Gateway}
    (hcount : 0<count)
    (h : Reachable (SessionStart target count start) (stepOf withinSession gatewayStep) g) :
    (started g.log).map Prod.fst=
        (List.range (started g.log).length).map (fun i => start+UInt32.ofNat i) ∧
      (started g.log).length≤count.toNat ∧
      (∀ rest,(samplesOf g++rest).length=count.toNat →
        queued g.log<+:requestStream target count (samplesOf g++rest)) ∧
      (0<g.tcp.waitBeforeCloseCounter → (samplesOf g).length=count.toNat ∧
        queued g.log=requestStream target count (samplesOf g)) := by
  have hinv : Streaming target count start g := by
    refine h.invariant_stepOf (fun g hg => streaming_start hcount hg) ?_
    rintro g (event|_|_|_) hg henabled
    · exact hg.event event
    · exact hg.congr ⟨_,_,_,rfl⟩ rfl rfl
    · exact absurd henabled id
    · exact hg.congr ⟨_,_,_,rfl⟩ rfl rfl
  have hlength : (samplesOf g).length=(started g.log).length := List.length_map _
  refine ⟨hinv.indexes_eq,hinv.started_le,?_,?_⟩
  · intro rest hrest
    have hread := hinv.read
    rw [←hlength] at hread
    have hpending : queued g.log<+:queued g.log++unsent g.tcp := List.prefix_append _ _
    rw [hinv.stream] at hpending
    exact hpending.trans (produced_leads hread hrest)
  · intro hcounter
    obtain ⟨hwaiting,hempty⟩ := hinv.waited hcounter
    have hstream := hinv.stream
    have hread := hinv.read
    rw [hempty,List.append_nil] at hstream
    rw [hlength]
    rcases hwaiting with hphase|hphase|hphase <;> rw [hphase] at hstream hread <;>
      exact ⟨hread,hstream⟩

/-- lwIP takes every octet and closes without an error. -/
def promptReplies : OutputReplies :=
  {current := fun _ => ⟨.ok,1,0⟩,currentClosed := .ok,polls := [0x00],phaseClosed := .ok
   selected := fun _ => ⟨.ok,1,0⟩,selectedClosed := .ok}

/-- A session for one record that lwIP has accepted. -/
def openedSession : Gateway :=
  (serverTcpInit couchdbServer couchdbIp 5984 1 1 true ⟨true,fun _ => .ok,.ok⟩
    (bootGateway (bootStore (erasedCard 3)))).2

/-- The same session after it was connected and the main loop has run once. -/
def headerSession : Gateway :=
  gatewayStep (gatewayStep openedSession (.session .connected)) (.session (.service promptReplies))

/-- lwIP has no room for the selected block. -/
def refusingReplies : OutputReplies := {promptReplies with selected := fun _ => ⟨.mem,0,0⟩}

/-- lwIP has room for half of the selected block. -/
def halvingReplies : OutputReplies :=
  {promptReplies with selected := fun k => if k=0 then ⟨.mem,1,0⟩ else ⟨.ok,1,0⟩}

/-- A record with the right checksum. -/
def soundRecord : Record :=
  ⟨List.replicate 20 7++wordOctets (calculateChecksum ⟨List.replicate memoryRecordSize 7,rfl⟩),rfl⟩

/-- A store with two records, of which the second has a wrong checksum. -/
def twoRecordStore : Store :=
  let first := (putSample (memoryInit (erasedCard 4) [0x00]) soundRecord 5 .good .good).2
  (putSample first ⟨List.replicate memoryRecordSize 7,rfl⟩ 6 .good .good).2

/-- A session for both records that lwIP has accepted. -/
def twoRecordSession : Gateway :=
  (serverTcpInit couchdbServer couchdbIp 5984 1 2 true ⟨true,fun _ => .ok,.ok⟩
    (bootGateway twoRecordStore)).2

/-- The session with a refused block, a record that arrives meanwhile, a block
that goes out in two halves, and the wait at its end. -/
def twoElementEvents : List GatewayEvent :=
  [.session .connected,.session (.service promptReplies),.session (.service refusingReplies),
    .put soundRecord 9 .good .good,.session (.sent promptReplies),
    .session (.service halvingReplies),.session (.service promptReplies),
    .session (.service promptReplies),.session (.service promptReplies)]

/-- The session has handed over its whole request, in order, each octet once. -/
theorem stream_exact_two_elements : ∃ g,
    Reachable (SessionStart couchdbServer 2 1) (stepOf withinSession gatewayStep) g ∧
      (started g.log).map (fun element => (element.1,element.2.isSome))=[(1,true),(2,false)] ∧
      SessionAction.write HttpTransmit.jsonHeader .mem∈g.log ∧
      queued g.log=requestStream couchdbServer 2 (samplesOf g) := by
  have hrun : (traceOf (labelled (attempt withinSession fun g event =>
      some (gatewayStep g event))) twoRecordSession
      twoElementEvents).any (fun run =>
        (started run.2.log).map (fun element => (element.1,element.2.isSome))=
            [(1,true),(2,false)] ∧
          SessionAction.write HttpTransmit.jsonHeader .mem∈run.2.log ∧
          0<run.2.tcp.waitBeforeCloseCounter)=true := by
    decide +kernel
  obtain ⟨⟨ts,g⟩,htrace,hchecked⟩ := (Option.any_eq_true _ _).mp hrun
  obtain ⟨helements,hrefused,hwaits⟩ := of_decide_eq_true hchecked
  have hpath := path_of_attempts htrace
  have hstart : SessionStart couchdbServer 2 1 twoRecordSession := ⟨_,_,_,_,_,rfl⟩
  have hreached : Reachable (SessionStart couchdbServer 2 1) (stepOf withinSession gatewayStep) g :=
    ⟨twoRecordSession,_,hstart,hpath⟩
  obtain ⟨-,-,-,hwhole⟩ := stream_exact (by decide) hreached
  exact ⟨g,hreached,helements,hrefused,(hwhole hwaits).2⟩

end VlfGateway.SessionStream
