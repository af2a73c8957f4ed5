import VlfGateway.SessionStream

/-!
# Counting failed writes

A session gives its connection up when `write_err` passes its limit. The
attempts of a session are the calls of `server_current_tcp_out` that find
octets to send. One that fails counts up and one that sends a part of its
block starts over, but one that sends the rest of its block returns before the
counter is cleared. The count is that of consecutive failures only as long as
no block is finished with errors still counted.
-/

namespace VlfGateway.WriteErrors

open StepPath ServerTcp SessionStream

/-! ## Attempts -/

/-- One call of `server_current_tcp_out` with what lwIP answers to it. -/
structure Attempt where
  /-- The gateway before the call. -/
  before : Gateway
  /-- Answers to its `tcp_write` calls. -/
  replies : ℕ → TcpReply
  /-- Answer to `tcp_close`, should it be called. -/
  closed : ErrT

/-- Octets of the block still to be sent. -/
def Attempt.remaining (a : Attempt) : ℕ := a.before.tcp.currentLen-a.before.tcp.currentPos

/-- The gateway after the call. -/
def Attempt.after (a : Attempt) : Gateway := (serverCurrentTcpOut a.replies a.closed a.before).2

/-- Octets lwIP has queued: the position moves by as many. -/
def Attempt.octets (a : Attempt) : ℕ := a.after.tcp.currentPos-a.before.tcp.currentPos

/-- Times a connection was closed according to a log. -/
def closeCount (log : List SessionAction) : ℕ :=
  log.countP fun action => match action with
    | .close _ => true
    | _ => false

/-- Whether the call closes the connection. -/
def Attempt.closes (a : Attempt) : Bool := decide (closeCount a.before.log<closeCount a.after.log)

/-- Whether lwIP takes the whole rest of the block. -/
def Attempt.takesRest (a : Attempt) : Bool :=
  let written := serverTcpWrite a.replies (a.before.tcp.outputBuffer.drop a.before.tcp.currentPos) 0
    a.remaining
  decide (written.1=.ok ∧ a.remaining≤written.2.1)

/-- The attempt a call makes, if it finds octets to send. -/
def currentAttempts (replies : ℕ → TcpReply) (closed : ErrT) (g : Gateway) : List Attempt :=
  if 0<g.tcp.currentLen-g.tcp.currentPos then [⟨g,replies,closed⟩] else []

/-- Attempts of one `server_tcp_out`. -/
def outAttempts (replies : OutputReplies) (g : Gateway) : List Attempt :=
  if g.tcp.connected then
    let current := serverCurrentTcpOut replies.current replies.currentClosed g
    currentAttempts replies.current replies.currentClosed g++
      if current.1 then
        currentAttempts replies.selected replies.selectedClosed (selectBlock replies current.2)
      else []
  else []

/-- Attempts made while an event is handled. -/
def eventAttempts (g : Gateway) : GatewayEvent → List Attempt
  | .session (.service replies) => outAttempts replies g
  | .session (.sent replies) => if g.callbacks.arg then outAttempts replies g else []
  | _ => []

/-- Attempts of a run, oldest first. -/
def runAttempts (ts : List (Transition Gateway GatewayEvent)) : List Attempt :=
  ts.flatMap fun t => eventAttempts t.before t.label

/-! ## What one attempt does to the counter -/

/-- The outcomes of an attempt. -/
inductive Outcome (a : Attempt) : Prop
  /-- The block is finished and the counter kept. -/
  | finished (hrest : a.takesRest=true) (hoctets : 0<a.octets) (hopen : a.closes=false)
      (herr : a.after.tcp.writeErr=a.before.tcp.writeErr)
  /-- A part of the block is sent and the counter cleared. -/
  | part (hrest : a.takesRest=false) (hoctets : 0<a.octets) (hopen : a.closes=false)
      (herr : a.after.tcp.writeErr=0)
  /-- Nothing is sent, which is counted. -/
  | failed (hrest : a.takesRest=false) (hoctets : a.octets=0)
      (hclose : a.closes=true → maxWriteErrBeforeClose<a.after.tcp.writeErr)
      (herr : a.after.tcp.writeErr=a.before.tcp.writeErr+1)

/-- Writes close nothing. -/
theorem closeCount_append_writes (log : List SessionAction) {writes : List SessionAction}
    (h : ∀ a∈writes,a.isWrite=true) : closeCount (log++writes)=closeCount log := by
  have hnone : closeCount writes=0 := by
    unfold closeCount
    rw [List.countP_eq_zero]
    intro action haction
    have hwrite := h action haction
    cases action <;> simp_all [SessionAction.isWrite]
  unfold closeCount at hnone ⊢
  rw [List.countP_append,hnone,Nat.add_zero]

/-- Closing the connection leaves the session's own state alone. -/
theorem serverTcpCloseConn_tcp (closed : ErrT) (g : Gateway) :
    (serverTcpCloseConn closed g).tcp=g.tcp := by
  unfold serverTcpCloseConn
  dsimp only
  split <;> rfl

/-- Every attempt has one of the outcomes. -/
theorem Attempt.outcome {a : Attempt} (hpending : 0<a.remaining) : Outcome a := by
  have heffect := serverTcpWrite_effect a.replies
    (a.before.tcp.outputBuffer.drop a.before.tcp.currentPos) 0 a.remaining hpending
  have hremaining : a.remaining=a.before.tcp.currentLen-a.before.tcp.currentPos := rfl
  have hafter : a.after=(serverCurrentTcpOut a.replies a.closed a.before).2 := rfl
  have hrest : a.takesRest=decide ((serverTcpWrite a.replies
      (a.before.tcp.outputBuffer.drop a.before.tcp.currentPos) 0 a.remaining).1=.ok ∧
      a.remaining≤(serverTcpWrite a.replies
        (a.before.tcp.outputBuffer.drop a.before.tcp.currentPos) 0 a.remaining).2.1) := rfl
  rw [serverCurrentTcpOut,←hremaining,if_pos hpending] at hafter
  generalize serverTcpWrite a.replies (a.before.tcp.outputBuffer.drop a.before.tcp.currentPos) 0
    a.remaining=written at heffect hafter hrest
  have hkept := closeCount_append_writes a.before.log heffect.writes
  dsimp only at hafter
  by_cases hok : written.1=.ok
  · obtain ⟨_,hlen,_⟩ := heffect.sent hok
    rw [if_pos hok] at hafter
    by_cases hend : a.before.tcp.currentLen≤a.before.tcp.currentPos+written.2.1
    · rw [if_pos hend] at hafter
      refine .finished ?_ ?_ ?_ ?_
      · rw [hrest,decide_eq_true_eq]
        exact ⟨hok,by omega⟩
      · rw [Attempt.octets,hafter]
        dsimp only
        omega
      · rw [Attempt.closes,hafter,hkept]
        exact decide_eq_false (Nat.lt_irrefl _)
      · rw [hafter]
    · rw [if_neg hend] at hafter
      refine .part ?_ ?_ ?_ ?_
      · rw [hrest,decide_eq_false_iff_not]
        exact fun h => absurd h.2 (by omega)
      · rw [Attempt.octets,hafter]
        dsimp only
        omega
      · rw [Attempt.closes,hafter,hkept]
        exact decide_eq_false (Nat.lt_irrefl _)
      · rw [hafter]
  · rw [if_neg hok] at hafter
    have hnone : a.takesRest=false := by
      rw [hrest,decide_eq_false_iff_not]
      exact fun h => hok h.1
    by_cases hlimit : maxWriteErrBeforeClose<a.before.tcp.writeErr+1
    · rw [if_pos hlimit] at hafter
      have htcp := congrArg Gateway.tcp hafter
      rw [serverTcpCloseConn_tcp] at htcp
      refine .failed hnone ?_ ?_ ?_
      · rw [Attempt.octets,htcp,Nat.sub_self]
      · rw [htcp]
        exact fun _ => hlimit
      · rw [htcp]
    · rw [if_neg hlimit] at hafter
      refine .failed hnone ?_ ?_ ?_
      · rw [Attempt.octets,hafter,Nat.sub_self]
      · rw [Attempt.closes,hafter,hkept,decide_eq_true_eq]
        exact fun h => absurd h (Nat.lt_irrefl _)
      · rw [hafter]

/-! ## The counter between attempts -/

/-- Attempts with octets to send, each finding the counter as the one before
left it. -/
def Linked : UInt32 → List Attempt → UInt32 → Prop
  | err,[],final => err=final
  | err,a::rest,final =>
    a.before.tcp.writeErr=err ∧ 0<a.remaining ∧ Linked a.after.tcp.writeErr rest final

/-- Linked attempts follow each other. -/
theorem Linked.append {first second : List Attempt} {middle final : UInt32}
    (hsecond : Linked middle second final) :
    ∀ {err : UInt32},Linked err first middle → Linked err (first++second) final := by
  induction first with
  | nil =>
    intro err hfirst
    rw [show err=middle from hfirst]
    exact hsecond
  | cons a first ih => exact fun hfirst => ⟨hfirst.1,hfirst.2.1,ih hfirst.2.2⟩

/-- Linked attempts can be cut anywhere. -/
theorem Linked.split {first second : List Attempt} {final : UInt32} :
    ∀ {err : UInt32},Linked err (first++second) final →
      ∃ middle,Linked err first middle ∧ Linked middle second final := by
  induction first with
  | nil => exact fun {err} h => ⟨err,rfl,h⟩
  | cons a first ih =>
    intro err h
    obtain ⟨middle,hfirst,hsecond⟩ := ih h.2.2
    exact ⟨middle,⟨h.1,h.2.1,hfirst⟩,hsecond⟩

/-- Every linked attempt found octets to send. -/
theorem Linked.pending {attempts : List Attempt} {final : UInt32} :
    ∀ {err : UInt32},Linked err attempts final → ∀ a∈attempts,0<a.remaining := by
  induction attempts with
  | nil => exact fun _ a ha => absurd ha List.not_mem_nil
  | cons b attempts ih =>
    intro err h a ha
    rcases List.mem_cons.mp ha with rfl|ha
    · exact h.2.1
    · exact ih h.2.2 a ha

/-- Choosing the next block keeps the counter. -/
theorem selectBlock_writeErr (replies : OutputReplies) (g : Gateway) :
    (selectBlock replies g).tcp.writeErr=g.tcp.writeErr := by
  unfold selectBlock
  split
  case h_3 => split <;> rfl
  all_goals rfl

/-- A call without octets to send changes nothing. -/
theorem currentAttempts_linked (replies : ℕ → TcpReply) (closed : ErrT) (g : Gateway) :
    Linked g.tcp.writeErr (currentAttempts replies closed g)
      (serverCurrentTcpOut replies closed g).2.tcp.writeErr := by
  unfold currentAttempts
  by_cases hpending : 0<g.tcp.currentLen-g.tcp.currentPos
  · rw [if_pos hpending]
    exact ⟨rfl,hpending,rfl⟩
  · rw [if_neg hpending,serverCurrentTcpOut,if_neg hpending]
    rfl

/-- The attempts of one `server_tcp_out` account for all it does to the
counter. -/
theorem outAttempts_linked (replies : OutputReplies) (g : Gateway) :
    Linked g.tcp.writeErr (outAttempts replies g) (serverTcpOut replies g).tcp.writeErr := by
  unfold outAttempts serverTcpOut
  by_cases hconnected : g.tcp.connected=true
  · rw [if_pos hconnected,if_pos hconnected]
    have hfirst := currentAttempts_linked replies.current replies.currentClosed g
    dsimp only
    split
    · refine Linked.append ?_ hfirst
      rw [←selectBlock_writeErr replies]
      exact currentAttempts_linked _ _ _
    · rw [List.append_nil]
      exact hfirst
  · rw [if_neg hconnected,if_neg hconnected]
    rfl

/-- The attempts of an event account for all it does to the counter. -/
theorem eventAttempts_linked {g : Gateway} {event : GatewayEvent} (h : withinSession g event) :
    Linked g.tcp.writeErr (eventAttempts g event) (gatewayStep g event).tcp.writeErr := by
  match event with
  | .session (.service replies) =>
    change Linked _ (outAttempts replies g) (serverTcpService replies g).tcp.writeErr
    have hout := outAttempts_linked replies g
    unfold serverTcpService
    by_cases hconnected : g.tcp.connected=true
    · rw [if_pos hconnected]
      exact hout
    · rw [serverTcpOut,if_neg hconnected] at hout
      rw [if_neg hconnected]
      exact hout
  | .session (.sent replies) =>
    change Linked _ (if g.callbacks.arg then outAttempts replies g else [])
      (serverTcpSent replies g).tcp.writeErr
    unfold serverTcpSent
    split
    · exact outAttempts_linked replies g
    · rfl
  | .session .connected =>
    change g.tcp.writeErr=(serverTcpConnected g).tcp.writeErr
    unfold serverTcpConnected
    split <;> rfl
  | .session (.recv chain err closed pages) =>
    change g.tcp.writeErr=(serverTcpRecv chain err closed pages g).tcp.writeErr
    unfold serverTcpRecv
    split
    · rw [serverTcpCloseConn_tcp]
    · split
      · rw [serverTcpCloseConn_tcp]
      · rfl
  | .session (.err closed) =>
    change g.tcp.writeErr=(serverTcpErr closed g).tcp.writeErr
    unfold serverTcpErr
    dsimp only
    split
    · rw [serverTcpCloseConn_tcp]
    · rfl
  | .put block tc data page => exact rfl
  | .start tc replies => exact absurd h id
  | .ack page => exact rfl

/-- The attempts of a run account for all it does to the counter. -/
theorem runAttempts_linked {g₀ g : Gateway} {ts : List (Transition Gateway GatewayEvent)}
    (h : Path (stepOf withinSession gatewayStep) g₀ ts g) :
    Linked g₀.tcp.writeErr (runAttempts ts) g.tcp.writeErr := by
  induction h with
  | nil => exact rfl
  | snoc hp hs ih =>
    obtain ⟨hwithin,rfl⟩ := hs
    unfold runAttempts at ih ⊢
    rw [List.flatMap_append,List.flatMap_singleton]
    exact Linked.append (eventAttempts_linked hwithin) ih

/-! ## Giving up -/

/-- The connection is closed only when the last attempts, one more than the
limit, have all failed. -/
def GivesUpOnFailures (attempts : List Attempt) : Prop :=
  ∀ earlier a later,attempts=earlier++a::later → a.closes=true →
    ∃ others last,earlier++[a]=others++last ∧ last.length=maxWriteErrBeforeClose.toNat+1 ∧
      ∀ b∈last,b.octets=0

/-- Every attempt that queues an octet restarts the count. -/
def RestartsCount (attempts : List Attempt) : Prop :=
  ∀ a∈attempts,0<a.octets → a.after.tcp.writeErr=0

/-- As long as successes restart the count, it is bounded by the failures at
the end. The counter may wrap, which only makes it smaller. -/
theorem failures_of_count {attempts : List Attempt} (hrestart : RestartsCount attempts) :
    ∀ {final : UInt32},Linked 0 attempts final →
      ∃ others last,attempts=others++last ∧ last.length=final.toNat ∧ ∀ b∈last,b.octets=0 := by
  induction attempts using List.reverseRecOn with
  | nil =>
    intro final h
    exact ⟨[],[],rfl,by rw [←(show 0=final from h)]; rfl,by simp⟩
  | append_singleton attempts a ih =>
    intro final h
    obtain ⟨middle,hearlier,hlast⟩ := h.split
    have hearlierRestart : RestartsCount attempts :=
      fun b hb => hrestart b (List.mem_append_left _ hb)
    obtain ⟨others,last,hsplit,hlen,hfailed⟩ := ih hearlierRestart hearlier
    obtain ⟨hfound,hpending,hfinal⟩ := hlast
    replace hfinal : a.after.tcp.writeErr=final := hfinal
    have hempty : final.toNat=0 → ∃ others last,attempts++[a]=others++last ∧
        last.length=final.toNat ∧ ∀ b∈last,b.octets=0 :=
      fun hzero => ⟨attempts++[a],[],by simp,by rw [hzero]; rfl,by simp⟩
    by_cases hoctets : 0<a.octets
    · apply hempty
      rw [←hfinal,hrestart a (by simp) hoctets]
      rfl
    · cases a.outcome hpending with
      | finished _ hsent _ _ => exact absurd hsent hoctets
      | part _ hsent _ _ => exact absurd hsent hoctets
      | failed _ hnone _ herr =>
        have hcount : final=middle+1 := by rw [←hfinal,herr,hfound]
        by_cases hwrap : final.toNat=0
        · exact hempty hwrap
        · have hnat : final.toNat=middle.toNat+1 := by
            rw [hcount,UInt32.toNat_add] at hwrap ⊢
            have hbound := middle.toNat_lt
            have hone : (1 : UInt32).toNat=1 := rfl
            omega
          refine ⟨others,last++[a],by rw [hsplit,List.append_assoc],?_,?_⟩
          · rw [List.length_append,hlen,hnat]
            rfl
          · intro b hb
            rcases List.mem_append.mp hb with hb|hb
            · exact hfailed b hb
            · rw [List.mem_singleton.mp hb]
              exact hnone

/-- When successes restart the count, reaching the limit takes as many
failures in a row. -/
theorem givesUpOnFailures_of_restarts {attempts : List Attempt} {final : UInt32}
    (hrestart : RestartsCount attempts) (h : Linked 0 attempts final) :
    GivesUpOnFailures attempts := by
  intro earlier a later hattempts hcloses
  subst hattempts
  obtain ⟨middle,hearlier,hfound,hpending,_⟩ := h.split
  have halone : Linked middle [a] a.after.tcp.writeErr := ⟨hfound,hpending,rfl⟩
  have hupto : Linked 0 (earlier++[a]) a.after.tcp.writeErr := halone.append hearlier
  have huptoRestart : RestartsCount (earlier++[a]) := by
    intro b hb
    apply hrestart b
    rw [List.append_cons]
    exact List.mem_append_left _ hb
  obtain ⟨others,last,hsplit,hlen,hfailed⟩ := failures_of_count huptoRestart hupto
  have hlimit : maxWriteErrBeforeClose<a.after.tcp.writeErr := by
    cases a.outcome hpending with
    | finished _ _ hopen _ => exact absurd (hopen.symm.trans hcloses) Bool.false_ne_true
    | part _ _ hopen _ => exact absurd (hopen.symm.trans hcloses) Bool.false_ne_true
    | failed _ _ hclose _ => exact hclose hcloses
  rw [UInt32.lt_iff_toNat_lt,←hlen] at hlimit
  have hsize : last.length-(maxWriteErrBeforeClose.toNat+1)≤last.length := Nat.sub_le _ _
  refine ⟨others++last.take (last.length-(maxWriteErrBeforeClose.toNat+1)),
    last.drop (last.length-(maxWriteErrBeforeClose.toNat+1)),?_,?_,?_⟩
  · rw [hsplit,List.append_assoc,List.take_append_drop]
  · rw [List.length_drop]
    omega
  · exact fun b hb => hfailed b (List.mem_of_mem_drop hb)

/-- Successes restart the count exactly when no attempt that finishes its
block finds errors counted. -/
theorem restartsCount_iff {attempts : List Attempt} (hpending : ∀ a∈attempts,0<a.remaining) :
    RestartsCount attempts ↔ ∀ a∈attempts,a.takesRest=true → a.before.tcp.writeErr=0 := by
  refine forall₂_congr fun a ha => ?_
  cases a.outcome (hpending a ha) with
  | finished hrest hoctets _ herr =>
    rw [herr]
    exact ⟨fun h _ => h hoctets,fun h _ => h hrest⟩
  | part hrest _ _ herr =>
    exact ⟨fun _ h => absurd (hrest.symm.trans h) Bool.false_ne_true,fun _ _ => herr⟩
  | failed hrest hoctets _ _ =>
    refine ⟨fun _ h => absurd (hrest.symm.trans h) Bool.false_ne_true,fun _ h => ?_⟩
    exact absurd hoctets h.ne'

/-- A session starts with nothing counted. -/
theorem writeErr_start {target : HttpTarget} {count : UInt16} {start : UInt32} {g : Gateway}
    (hcount : 0<count) (h : SessionStart target count start g) : g.tcp.writeErr=0 := by
  obtain ⟨remoteIp,remotePort,callback,replies,before,rfl⟩ := h
  obtain ⟨_,_,htcp⟩ :=
    serverTcpInit_state target remoteIp remotePort start callback replies before hcount
  rw [htcp]
  rfl

/-- In every run of a session: the connection is given up only after failures
in a row and every success restarts their count, exactly when lwIP never takes
the rest of a block while `write_err` is not zero. -/
theorem gives_up_iff {target : HttpTarget} {count : UInt16} {start : UInt32} {g₀ g : Gateway}
    {ts : List (Transition Gateway GatewayEvent)} (hcount : 0<count)
    (hstart : SessionStart target count start g₀)
    (h : Path (stepOf withinSession gatewayStep) g₀ ts g) :
    (GivesUpOnFailures (runAttempts ts) ∧ RestartsCount (runAttempts ts)) ↔
      ∀ a∈runAttempts ts,a.takesRest=true → a.before.tcp.writeErr=0 := by
  have hlinked := runAttempts_linked h
  rw [writeErr_start hcount hstart] at hlinked
  rw [←restartsCount_iff hlinked.pending]
  exact ⟨fun hboth => hboth.2,fun hrestart => ⟨givesUpOnFailures_of_restarts hrestart hlinked,hrestart⟩⟩

/-- The session of one record after it was connected. -/
def waitingSession : Gateway := gatewayStep openedSession (.session .connected)

/-- The run that connects this session and sends its header at once. -/
def headerRun : List (Transition Gateway GatewayEvent) :=
  [⟨openedSession,.session .connected,waitingSession⟩,
    ⟨waitingSession,.session (.service promptReplies),headerSession⟩]

/-- The connection and the sending of the header are a run of the session. -/
theorem headerRun_path : Path (stepOf withinSession gatewayStep) openedSession headerRun
    headerSession := by
  have hconnected : Path (stepOf withinSession gatewayStep) openedSession
      ([]++[⟨openedSession,.session .connected,waitingSession⟩]) waitingSession :=
    Path.snoc .nil ⟨trivial,rfl⟩
  exact hconnected.snoc ⟨trivial,rfl⟩

/-- The header is finished with nothing counted, and the run is sound. -/
theorem gives_up_iff_header :
    GivesUpOnFailures (runAttempts headerRun) ∧ RestartsCount (runAttempts headerRun) := by
  have hstart : SessionStart couchdbServer 1 1 openedSession := ⟨_,_,_,_,_,rfl⟩
  refine (gives_up_iff (by decide) hstart headerRun_path).mpr ?_
  intro a ha _
  have hconnected : waitingSession.tcp.connected=true := rfl
  have hempty : serverCurrentTcpOut promptReplies.current promptReplies.currentClosed
      waitingSession=(true,waitingSession) := rfl
  have hnone : currentAttempts promptReplies.current promptReplies.currentClosed waitingSession=[] :=
    rfl
  have hattempts : runAttempts headerRun=outAttempts promptReplies waitingSession := by
    unfold runAttempts headerRun
    rw [List.flatMap_cons,List.flatMap_singleton]
    exact List.nil_append _
  rw [hattempts,outAttempts,if_pos hconnected,hempty] at ha
  dsimp only at ha
  rw [hnone,if_pos rfl,List.nil_append,currentAttempts,if_pos (by decide)] at ha
  rw [List.mem_singleton.mp ha]
  rfl

/-! ## A slow link -/

/-- lwIP has no room for a single octet. -/
def noRoom (_ : ℕ) : TcpReply := ⟨.mem,0,0⟩

/-- lwIP has room for everything. -/
def room (_ : ℕ) : TcpReply := ⟨.ok,1,0⟩

/-- A tick during which lwIP has no room. -/
def stalledReplies : OutputReplies :=
  {current := noRoom,currentClosed := .ok,polls := [0x00],phaseClosed := .ok
   selected := noRoom,selectedClosed := .ok}

/-- A tick during which lwIP has room for the current block only. -/
def slowReplies : OutputReplies := {stalledReplies with current := room}

/-- Without room the loop tries once. -/
theorem serverTcpWrite_noRoom (data : List Char) (len : ℕ) :
    serverTcpWrite noRoom data 0 len=(.mem,1,[.write (data.take len) .mem]) := by
  rw [serverTcpWrite]
  rfl

/-- With room the loop sends everything at once. -/
theorem serverTcpWrite_room (data : List Char) (len : ℕ) :
    serverTcpWrite room data 0 len=(.ok,len,[.write (data.take len) .ok]) := by
  rw [serverTcpWrite]
  rfl

/-- A connected session whose header is waiting after `k` failures. -/
structure Stalled (k : ℕ) (g : Gateway) : Prop where
  /-- The session is connected. -/
  connected : g.tcp.connected=true
  /-- The header has been selected. -/
  phase : g.tcp.outputPhase=.jsonHeader
  /-- Octets of it are waiting. -/
  pending : 0<g.tcp.currentLen-g.tcp.currentPos
  /-- The failures have been counted. -/
  counted : g.tcp.writeErr=UInt32.ofNat k

/-- A failure below the limit is only counted. -/
theorem serverCurrentTcpOut_noRoom (closed : ErrT) {g : Gateway}
    (hpending : 0<g.tcp.currentLen-g.tcp.currentPos)
    (hlimit : ¬maxWriteErrBeforeClose<g.tcp.writeErr+1) :
    ∃ writes,serverCurrentTcpOut noRoom closed g=
      (false,{g with tcp := {g.tcp with writeErr := g.tcp.writeErr+1},log := g.log++writes}) := by
  rw [serverCurrentTcpOut,if_pos hpending,serverTcpWrite_noRoom]
  dsimp only
  rw [if_neg (by decide),if_neg hlimit]
  exact ⟨_,rfl⟩

/-- Below the limit the next failure does not reach it. -/
theorem count_below {k : ℕ} (hk : k < maxWriteErrBeforeClose.toNat) :
    ¬maxWriteErrBeforeClose<UInt32.ofNat k+1 := by
  have hmax : maxWriteErrBeforeClose.toNat=20000 := rfl
  have hone : (1 : UInt32).toNat=1 := rfl
  rw [UInt32.lt_iff_toNat_lt,UInt32.toNat_add,UInt32.toNat_ofNat',hone]
  omega

/-- A session in which only the counter and the log have changed. -/
theorem Stalled.counted_up {k : ℕ} {g : Gateway} (h : Stalled k g) (log : List SessionAction) :
    Stalled (k+1) {g with tcp := {g.tcp with writeErr := g.tcp.writeErr+1},log := log} := by
  refine ⟨h.connected,h.phase,h.pending,?_⟩
  rw [h.counted,UInt32.ofNat_add]
  rfl

/-- Another tick without room is counted. -/
theorem Stalled.tick {k : ℕ} {g : Gateway} (h : Stalled k g) (hk : k < maxWriteErrBeforeClose.toNat) :
    Stalled (k+1) (gatewayStep g (.session (.service stalledReplies))) := by
  have hlimit := count_below hk
  rw [←h.counted] at hlimit
  obtain ⟨writes,hout⟩ := serverCurrentTcpOut_noRoom .ok h.pending hlimit
  change Stalled (k+1) (serverTcpService stalledReplies g)
  rw [serverTcpService,if_pos h.connected,serverTcpOut,if_pos h.connected]
  change Stalled (k+1) (if (serverCurrentTcpOut noRoom .ok g).1 then _ else
    (serverCurrentTcpOut noRoom .ok g).2)
  rw [hout,if_neg Bool.false_ne_true]
  exact h.counted_up _

/-- The session with the header selected. -/
def selectedSession : Gateway := selectBlock stalledReplies waitingSession

/-- Selecting the header counts nothing. -/
theorem selectedSession_stalled : Stalled 0 selectedSession := by
  refine ⟨rfl,rfl,?_,rfl⟩
  decide

/-- The first tick selects the header and fails to send it. -/
theorem waitingSession_tick :
    Stalled 1 (gatewayStep waitingSession (.session (.service stalledReplies))) := by
  have hempty : serverCurrentTcpOut noRoom .ok waitingSession=(true,waitingSession) := rfl
  have hlimit : ¬maxWriteErrBeforeClose<selectedSession.tcp.writeErr+1 := by
    rw [selectedSession_stalled.counted]
    exact count_below (by decide)
  obtain ⟨writes,hout⟩ := serverCurrentTcpOut_noRoom .ok selectedSession_stalled.pending hlimit
  change Stalled 1 (serverCurrentTcpOut noRoom .ok selectedSession).2
  rw [hout]
  exact selectedSession_stalled.counted_up _

/-- Ticks without room can go on up to the limit. -/
theorem stalled_path (k : ℕ) (hk : k < maxWriteErrBeforeClose.toNat) :
    ∃ ts g,Path (stepOf withinSession gatewayStep) openedSession ts g ∧ Stalled (k+1) g ∧
      ts.map Transition.label=.session .connected::
        List.replicate (k+1) (.session (.service stalledReplies)) := by
  have htick : ∀ g,stepOf withinSession gatewayStep g (.session (.service stalledReplies))
      (gatewayStep g (.session (.service stalledReplies))) := fun _ => ⟨trivial,rfl⟩
  induction k with
  | zero =>
    have hconnected : Path (stepOf withinSession gatewayStep) openedSession
        ([]++[⟨openedSession,.session .connected,waitingSession⟩]) waitingSession :=
      Path.snoc .nil ⟨trivial,rfl⟩
    exact ⟨_,_,hconnected.snoc (htick waitingSession),waitingSession_tick,rfl⟩
  | succ k ih =>
    obtain ⟨ts,g,hpath,hstalled,hlabels⟩ := ih (by omega)
    refine ⟨_,_,hpath.snoc (htick g),hstalled.tick hk,?_⟩
    have hone : List.replicate (k+1+1) (GatewayEvent.session (.service stalledReplies))=
        List.replicate (k+1) (GatewayEvent.session (.service stalledReplies))++
          [GatewayEvent.session (.service stalledReplies)] := List.replicate_succ'
    rw [List.map_append,hlabels,hone]
    rfl

/-- Closing a connection is logged once. -/
theorem closeCount_serverTcpCloseConn (closed : ErrT) (g : Gateway) :
    closeCount (serverTcpCloseConn closed g).log=closeCount g.log+1 := by
  unfold serverTcpCloseConn closeCount
  dsimp only
  split <;> rw [List.countP_append] <;> rfl

/-- A failure at the limit closes the connection. -/
theorem noRoom_closes {g : Gateway} (hpending : 0<g.tcp.currentLen-g.tcp.currentPos)
    (hlimit : maxWriteErrBeforeClose<g.tcp.writeErr+1) :
    (⟨g,noRoom,.ok⟩ : Attempt).closes=true := by
  have hafter : (⟨g,noRoom,.ok⟩ : Attempt).after=(serverCurrentTcpOut noRoom .ok g).2 := rfl
  rw [serverCurrentTcpOut,if_pos hpending,serverTcpWrite_noRoom] at hafter
  dsimp only at hafter
  rw [if_neg (by decide),if_pos hlimit] at hafter
  rw [Attempt.closes,hafter,closeCount_serverTcpCloseConn,closeCount_append_writes _ (by simp [SessionAction.isWrite])]
  exact decide_eq_true (Nat.lt_succ_self _)

/-- With room the rest of the block is sent, and the counter is kept. -/
theorem serverCurrentTcpOut_room (closed : ErrT) {g : Gateway}
    (hpending : 0<g.tcp.currentLen-g.tcp.currentPos) :
    ∃ sent,serverCurrentTcpOut room closed g=(true,sent) ∧
      sent.tcp.outputPhase=g.tcp.outputPhase ∧ sent.tcp.writeErr=g.tcp.writeErr ∧
      g.tcp.currentPos<sent.tcp.currentPos := by
  rw [serverCurrentTcpOut,if_pos hpending,serverTcpWrite_room]
  dsimp only
  rw [if_pos rfl,if_pos (by omega)]
  refine ⟨_,rfl,rfl,rfl,?_⟩
  dsimp only
  omega

/-- After the header the start of the object is waiting. -/
theorem selectBlock_jsonHeader_pending (replies : OutputReplies) {g : Gateway}
    (hphase : g.tcp.outputPhase=.jsonHeader) :
    0<(selectBlock replies g).tcp.currentLen-(selectBlock replies g).tcp.currentPos := by
  have hlen : 0<HttpTransmit.jsonHeader.length := by decide
  unfold selectBlock
  rw [hphase]
  exact hlen

/-- A tick that finishes the header after so many failures closes the
connection at the next block. -/
theorem Stalled.slow_tick {g : Gateway} (h : Stalled maxWriteErrBeforeClose.toNat g) :
    ∃ b a,eventAttempts g (.session (.service slowReplies))=[b,a] ∧ 0<b.octets ∧ a.closes=true := by
  obtain ⟨sent,hcurrent,hphase,herr,hmoved⟩ := serverCurrentTcpOut_room .ok h.pending
  have hnext := selectBlock_jsonHeader_pending slowReplies (hphase.trans h.phase)
  refine ⟨⟨g,room,.ok⟩,⟨selectBlock slowReplies sent,noRoom,.ok⟩,?_,?_,noRoom_closes hnext ?_⟩
  · change outAttempts slowReplies g=_
    rw [outAttempts,if_pos h.connected]
    change currentAttempts room .ok g++(if (serverCurrentTcpOut room .ok g).1 then
      currentAttempts noRoom .ok (selectBlock slowReplies (serverCurrentTcpOut room .ok g).2) else [])=_
    rw [hcurrent,if_pos rfl,currentAttempts,if_pos h.pending,currentAttempts,if_pos hnext]
    rfl
  · have hafter : (⟨g,room,.ok⟩ : Attempt).after=(serverCurrentTcpOut room .ok g).2 := rfl
    rw [Attempt.octets,hafter,hcurrent]
    exact Nat.sub_pos_of_lt hmoved
  · rw [selectBlock_writeErr,herr,h.counted]
    decide

/-- A session whose header waits for twenty thousand ticks, is then sent in
full, and finds no room for the next block: the connection is closed although
the attempt before had queued the whole header. -/
theorem slow_link_given_up :
    ∃ ts g,SessionStart couchdbServer 1 1 openedSession ∧
      Path (stepOf withinSession gatewayStep) openedSession ts g ∧
      ts.map Transition.label=.session .connected::
        List.replicate 20000 (.session (.service stalledReplies))++
          [.session (.service slowReplies)] ∧
      ¬GivesUpOnFailures (runAttempts ts) := by
  obtain ⟨ts,g,hpath,hstalled,hlabels⟩ := stalled_path 19999 (by decide)
  obtain ⟨b,a,hattempts,hoctets,hcloses⟩ := hstalled.slow_tick
  have hslow : stepOf withinSession gatewayStep g (.session (.service slowReplies))
      (gatewayStep g (.session (.service slowReplies))) := ⟨trivial,rfl⟩
  refine ⟨_,_,⟨_,_,_,_,_,rfl⟩,hpath.snoc hslow,?_,?_⟩
  · rw [List.map_append,hlabels]
    rfl
  · intro hgives
    have hrun : runAttempts (ts++[⟨g,.session (.service slowReplies),
        gatewayStep g (.session (.service slowReplies))⟩])=(runAttempts ts++[b])++a::[] := by
      unfold runAttempts
      rw [List.flatMap_append,List.flatMap_singleton,hattempts,List.append_assoc]
      rfl
    obtain ⟨others,last,hsplit,hlen,hfailed⟩ := hgives _ _ _ hrun hcloses
    -- the attempt before the last is among any two or more last ones
    have hb : b∈last := by
      have hsize := congrArg List.length hsplit
      have hmax : maxWriteErrBeforeClose.toNat=20000 := rfl
      simp only [List.length_append,List.length_singleton] at hsize
      have hread := congrArg (fun l => l[(runAttempts ts).length]?) hsplit
      rw [List.getElem?_append_right (by omega : others.length≤(runAttempts ts).length),
        List.append_assoc,List.getElem?_append_right le_rfl,Nat.sub_self] at hread
      exact List.mem_of_getElem? hread.symm
    exact absurd (hfailed b hb) hoctets.ne'

end VlfGateway.WriteErrors
