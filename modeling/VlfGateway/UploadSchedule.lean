import VlfGateway.ServerTcp
import VlfGateway.StepPath

/-!
# When uploads start

The main loop counts down to the next upload and starts it when none is active
and the network is up. Ends of uploads, which reset the countdown, come from
the session: from lwIP's callbacks, from too many failed writes, or from a start
that fails. A history of ticks, starts and ends says when a start is due. The
counter and the flag of the code stand for that history, unless an error
callback cannot close its control block: then no end is ever reported.
-/

namespace VlfGateway.UploadSchedule

open MemoryStore ServerTcp StepPath

/-! ## Histories -/

/-- What happens to the schedule. -/
inductive Mark where
  /-- `upload` is called. -/
  | tick
  /-- `couchdb_start_upload` is called. -/
  | start
  /-- `upload_end` is called. -/
  | ended
  deriving DecidableEq

/-- No upload was started since the last end. The latest mark comes first. -/
def idle : List Mark → Bool
  | [] => true
  | .tick::before => idle before
  | .start::_ => false
  | .ended::_ => true

/-- Ticks since the last end, or since the start of the main loop. -/
def ticksSince : List Mark → ℕ
  | [] => 0
  | .tick::before => ticksSince before+1
  | .start::before => ticksSince before
  | .ended::_ => 0

/-- Ticks to wait for: ten seconds at first, five minutes after an end. -/
def pause : List Mark → ℕ
  | [] => 2000*10
  | .tick::before => pause before
  | .start::before => pause before
  | .ended::_ => 2000*60*5

/-- An upload is due at a tick that is already in the history. -/
def Due (history : List Mark) : Prop := idle history=true ∧ pause history<ticksSince history

/-- Every start was due. -/
def Lawful : List Mark → Prop
  | [] => True
  | .start::before => Due before ∧ Lawful before
  | .tick::before => Lawful before
  | .ended::before => Lawful before

/-- The pause is one of two. -/
theorem pause_le (history : List Mark) : pause history≤2000*60*5 := by
  induction history with
  | nil => decide
  | cons mark before ih =>
    cases mark with
    | tick => exact ih
    | start => exact ih
    | ended => exact le_rfl

/-- A lawful history leaves a pause before every start. -/
theorem Lawful.paced {history : List Mark} (h : Lawful history) :
    (idle history=true →
      600000*history.count .start+20000+ticksSince history≤history.count .tick+pause history) ∧
    (idle history=false →
      600000*history.count .start+20000≤history.count .tick+600000) := by
  induction history with
  | nil => exact ⟨fun _ => le_rfl,fun h => absurd h (by decide)⟩
  | cons mark before ih =>
    cases mark with
    | tick =>
      obtain ⟨hidle,hactive⟩ := ih h
      refine ⟨fun hnow => ?_,fun hnow => ?_⟩
      · have hpaced := hidle hnow
        simp only [List.count_cons_self,List.count_cons_of_ne,ne_eq,reduceCtorEq,not_false_eq_true,
          ticksSince,pause]
        omega
      · have hpaced := hactive hnow
        simp only [List.count_cons_self,List.count_cons_of_ne,ne_eq,reduceCtorEq,not_false_eq_true]
        omega
    | start =>
      obtain ⟨⟨hidle,hpause⟩,hbefore⟩ := h
      have hpaced := (ih hbefore).1 hidle
      refine ⟨fun hnow => absurd hnow Bool.false_ne_true,fun _ => ?_⟩
      simp only [List.count_cons_self,List.count_cons_of_ne,ne_eq,reduceCtorEq,not_false_eq_true]
      omega
    | ended =>
      obtain ⟨hidle,hactive⟩ := ih h
      refine ⟨fun _ => ?_,fun hnow => absurd hnow Bool.false_ne_true.symm⟩
      have hpause := pause_le before
      simp only [List.count_cons_of_ne,ne_eq,reduceCtorEq,not_false_eq_true,ticksSince,pause]
      cases hnow : idle before with
      | true =>
        have hpaced := hidle hnow
        omega
      | false =>
        have hpaced := hactive hnow
        omega

/-- The first start takes ten seconds, every further one five minutes. -/
theorem Lawful.starts_bounded {history : List Mark} (h : Lawful history)
    (hstarted : 0<history.count .start) :
    20000+600000*(history.count .start-1)≤history.count .tick := by
  obtain ⟨hidle,hactive⟩ := h.paced
  have hpause := pause_le history
  cases hnow : idle history with
  | true =>
    have hpaced := hidle hnow
    omega
  | false =>
    have hpaced := hactive hnow
    omega

/-! ## The code -/

/-- `active = 0xF`. -/
def marked (g : Gateway) : Gateway := {g with upload := {g.upload with active := 0xF}}

/-- `upload`. The address of the server is a constant that `ipaddr_aton`
accepts. -/
def upload (netifUp linkUp : Bool) (tc : UInt32) (replies : InitReplies) (g : Gateway) : Gateway :=
  if g.upload.uploadCountdown=0 then
    if g.upload.active=0 then
      if netifUp ∧ linkUp then
        couchdbStartUpload tc replies (marked g)
      else g
    else g
  else {g with upload := {g.upload with uploadCountdown := g.upload.uploadCountdown-1}}

/-- The result of `server_tcp_init` at a start. -/
def startResult (tc : UInt32) (replies : InitReplies) (g : Gateway) : ErrT :=
  (serverTcpInit couchdbServer couchdbIp 5984 (getCurrentReadBlock g.store)
    (getBlocksToRead g.store tc) true replies (marked g)).1

/-- The marks of one call of `upload`, the latest first. -/
def uploadMarks (netifUp linkUp : Bool) (tc : UInt32) (replies : InitReplies) (g : Gateway) :
    List Mark :=
  if g.upload.uploadCountdown=0 ∧ g.upload.active=0 ∧ netifUp ∧ linkUp then
    if startResult tc replies g≠.ok then [.ended,.start,.tick] else [.start,.tick]
  else [.tick]

/-- Calls of `upload_end` by the current session. -/
def endings (log : List SessionAction) : ℕ := log.count .closeCallback

/-- The gateway with its history. -/
structure Scheduled where
  /-- The gateway. -/
  gateway : Gateway
  /-- What has happened, the latest first. -/
  history : List Mark

/-- What can happen. -/
inductive ScheduleEvent where
  /-- The main loop calls `upload`. -/
  | tick (netifUp linkUp : Bool) (tc : UInt32) (replies : InitReplies)
  /-- An event of the session. -/
  | session (event : SessionEvent)
  /-- A record arrives. -/
  | put (block : RecordChecksum.Record) (tc : UInt32) (data page : SdCard.WriteReply)

/-- lwIP calls back only what is registered. -/
def ScheduleEvent.enabled (s : Scheduled) : ScheduleEvent → Prop
  | .session event => event.enabled s.gateway
  | _ => True

/-- Effect of an event. -/
def scheduleNext (s : Scheduled) : ScheduleEvent → Scheduled
  | .tick netifUp linkUp tc replies =>
    ⟨upload netifUp linkUp tc replies s.gateway,
      uploadMarks netifUp linkUp tc replies s.gateway++s.history⟩
  | .session event =>
    let after := sessionStep s.gateway event
    ⟨after,List.replicate (endings after.log-endings s.gateway.log) .ended++s.history⟩
  | .put block tc data page => ⟨gatewayStep s.gateway (.put block tc data page),s.history⟩

/-- The steps of the gateway with its history. -/
abbrev scheduleStep : Scheduled → ScheduleEvent → Scheduled → Prop :=
  stepOf (fun s event => event.enabled s) scheduleNext

/-- The start of the main loop. -/
def Scheduled.boot (store : Store) : Scheduled := ⟨bootGateway store,[]⟩

/-! ## What the session does to the schedule -/

/-- The session moves on. -/
structure Moves (g g' : Gateway) : Prop where
  /-- The control block is the same. -/
  pcb : g'.tcp.pcb=g.tcp.pcb
  /-- So is the callback for the end. -/
  callback : g'.tcp.tcpCloseCallback=g.tcp.tcpCloseCallback
  /-- Nothing is registered anew. -/
  callbacks : g'.callbacks=g.callbacks ∨ g'.callbacks=⟨false,false,false,false⟩
  /-- The upload goes on, or its end is reported. -/
  ended : (g'.upload=g.upload ∧ endings g'.log=endings g.log) ∨
    (g'.upload=⟨0,uploadWait⟩ ∧ endings g.log<endings g'.log)

/-- The session stays where it is. -/
theorem Moves.refl (g : Gateway) : Moves g g := ⟨rfl,rfl,.inl rfl,.inl ⟨rfl,rfl⟩⟩

/-- One move after the other. -/
theorem Moves.trans {g g' g'' : Gateway} (h : Moves g g') (h' : Moves g' g'') : Moves g g'' := by
  refine ⟨h'.pcb.trans h.pcb,h'.callback.trans h.callback,?_,?_⟩
  · obtain hsame|hcleared := h'.callbacks
    · rw [hsame]
      exact h.callbacks
    · exact .inr hcleared
  · obtain ⟨hupload,hcount⟩|⟨hupload,hcount⟩ := h'.ended
    · obtain ⟨hfirst,hfirst'⟩|⟨hfirst,hfirst'⟩ := h.ended
      · exact .inl ⟨hupload.trans hfirst,hcount.trans hfirst'⟩
      · exact .inr ⟨hupload.trans hfirst,hcount ▸ hfirst'⟩
    · refine .inr ⟨hupload,?_⟩
      obtain ⟨-,hfirst⟩|⟨-,hfirst⟩ := h.ended
      · omega
      · omega

/-- A move of the session that reports nothing. -/
theorem Moves.of_quiet {g g' : Gateway} {more : List SessionAction}
    (hpcb : g'.tcp.pcb=g.tcp.pcb) (hcallback : g'.tcp.tcpCloseCallback=g.tcp.tcpCloseCallback)
    (hcallbacks : g'.callbacks=g.callbacks ∨ g'.callbacks=⟨false,false,false,false⟩)
    (hupload : g'.upload=g.upload) (hlog : g'.log=g.log++more) (hmore : .closeCallback∉more) :
    Moves g g' := by
  refine ⟨hpcb,hcallback,hcallbacks,.inl ⟨hupload,?_⟩⟩
  rw [endings,endings,hlog,List.count_append,List.count_eq_zero.mpr hmore,Nat.add_zero]

/-- A move of the session without an action. -/
theorem Moves.of_silent {g g' : Gateway}
    (hpcb : g'.tcp.pcb=g.tcp.pcb) (hcallback : g'.tcp.tcpCloseCallback=g.tcp.tcpCloseCallback)
    (hcallbacks : g'.callbacks=g.callbacks) (hupload : g'.upload=g.upload) (hlog : g'.log=g.log) :
    Moves g g' :=
  .of_quiet hpcb hcallback (.inl hcallbacks) hupload (hlog.trans (List.append_nil _).symm)
    List.not_mem_nil

/-- Closing reports the end if it succeeds. -/
theorem serverTcpCloseConn_moves (closed : ErrT) (g : Gateway) :
    Moves g (serverTcpCloseConn closed g) := by
  unfold serverTcpCloseConn
  dsimp only
  split
  · refine ⟨rfl,rfl,.inr rfl,.inr ⟨rfl,?_⟩⟩
    simp [endings,List.count_append]
  · exact .of_quiet rfl rfl (.inr rfl) rfl rfl (by simp)

/-- Writes report nothing. -/
theorem not_closeCallback_of_writes {writes : List SessionAction}
    (h : ∀ a∈writes,a.isWrite=true) : .closeCallback∉writes :=
  fun hmem => absurd (h _ hmem) (by decide)

/-- Sending the current block may close the connection. -/
theorem serverCurrentTcpOut_moves (replies : ℕ → TcpReply) (closed : ErrT) (g : Gateway) :
    Moves g (serverCurrentTcpOut replies closed g).2 := by
  have hcases := serverCurrentTcpOut_cases replies closed g
  generalize serverCurrentTcpOut replies closed g=result at hcases ⊢
  cases hcases with
  | empty => exact .refl g
  | sent writes len err hpos htried hwrites =>
    exact .of_quiet rfl rfl (.inl rfl) rfl rfl (not_closeCallback_of_writes hwrites)
  | failed writes hpos htried hwrites =>
    exact .of_quiet rfl rfl (.inl rfl) rfl rfl (not_closeCallback_of_writes hwrites)
  | givenUp writes hpos htried hwrites =>
    have hwritten : Moves g
        {g with tcp := {g.tcp with writeErr := g.tcp.writeErr+1},log := g.log++writes} :=
      .of_quiet rfl rfl (.inl rfl) rfl rfl (not_closeCallback_of_writes hwrites)
    exact hwritten.trans (serverTcpCloseConn_moves closed _)

/-- Selecting a block reports nothing, not even in the closing phase. -/
theorem selectBlock_moves (replies : OutputReplies) (g : Gateway) :
    Moves g (selectBlock replies g) := by
  unfold selectBlock
  split
  · exact .of_silent rfl rfl rfl rfl rfl
  · exact .of_silent rfl rfl rfl rfl rfl
  · split
    · exact .of_quiet rfl rfl (.inl rfl) rfl rfl (by simp)
    · exact .of_silent rfl rfl rfl rfl rfl
  · exact .of_silent rfl rfl rfl rfl rfl
  · exact .of_silent rfl rfl rfl rfl rfl
  · exact .of_quiet rfl rfl (.inl rfl) rfl rfl (by simp)
  · exact .of_silent rfl rfl rfl rfl rfl

/-- Sending moves the session on. -/
theorem serverTcpOut_moves (replies : OutputReplies) (g : Gateway) :
    Moves g (serverTcpOut replies g) := by
  have hcurrent := serverCurrentTcpOut_moves replies.current replies.currentClosed g
  unfold serverTcpOut
  dsimp only
  split_ifs
  · exact (hcurrent.trans (selectBlock_moves replies _)).trans
      (serverCurrentTcpOut_moves replies.selected replies.selectedClosed _)
  · exact hcurrent
  · exact .refl g

/-- Every event of the session moves it on. -/
theorem sessionStep_moves (g : Gateway) (event : SessionEvent) : Moves g (sessionStep g event) := by
  cases event with
  | service replies =>
    change Moves g (serverTcpService replies g)
    unfold serverTcpService
    split
    · exact serverTcpOut_moves replies g
    · exact .refl g
  | connected =>
    change Moves g (serverTcpConnected g)
    unfold serverTcpConnected
    split
    · exact .of_silent rfl rfl rfl rfl rfl
    · exact .refl g
  | sent replies =>
    change Moves g (serverTcpSent replies g)
    unfold serverTcpSent
    split
    · exact serverTcpOut_moves replies g
    · exact .refl g
  | recv chain err closed pages =>
    change Moves g (serverTcpRecv chain err closed pages g)
    unfold serverTcpRecv
    split
    · exact serverTcpCloseConn_moves closed g
    · split
      · exact serverTcpCloseConn_moves closed g
      · exact .of_silent rfl rfl rfl rfl rfl
  | err closed =>
    have hnoticed : Moves g
        {g with tcp := {g.tcp with connected := false},log := g.log++[.errCallback]} :=
      .of_quiet rfl rfl (.inl rfl) rfl rfl (by simp)
    change Moves g (serverTcpErr closed g)
    unfold serverTcpErr
    dsimp only
    split
    · exact hnoticed.trans (serverTcpCloseConn_moves closed _)
    · exact hnoticed

/-! ## What a start does to the schedule -/

/-- Callbacks are registered for a control block whose end is reported. -/
def Owned (g : Gateway) : Prop :=
  g.callbacks.err=true → g.tcp.pcb=true ∧ g.tcp.tcpCloseCallback=true

/-- Starting a session leaves the schedule to the caller. -/
theorem serverTcpInit_schedule (readIndex : UInt32) (recordsCount : UInt16) (replies : InitReplies)
    {g : Gateway} (howned : Owned g) :
    let started := serverTcpInit couchdbServer couchdbIp 5984 readIndex recordsCount true replies g
    started.2.upload=g.upload ∧ Owned started.2 := by
  unfold serverTcpInit
  dsimp only
  split_ifs with hcount hcreated hbound
  · exact ⟨rfl,fun _ => ⟨hcreated,rfl⟩⟩
  · exact ⟨rfl,fun hregistered => absurd hregistered Bool.false_ne_true⟩
  · exact ⟨rfl,fun hregistered => absurd hregistered Bool.false_ne_true⟩
  · exact ⟨rfl,howned⟩

/-- A failed start is an end. -/
theorem couchdbStartUpload_schedule (tc : UInt32) (replies : InitReplies) {g : Gateway}
    (howned : Owned g) :
    (couchdbStartUpload tc replies (marked g)).upload=
      (if startResult tc replies g≠.ok then ⟨0,uploadWait⟩ else (marked g).upload) ∧
    Owned (couchdbStartUpload tc replies (marked g)) := by
  have hmarked : Owned (marked g) := howned
  obtain ⟨hupload,hstarted⟩ := serverTcpInit_schedule (getCurrentReadBlock g.store)
    (getBlocksToRead g.store tc) replies hmarked
  by_cases hresult : startResult tc replies g≠.ok
  · have hfailed : couchdbStartUpload tc replies (marked g)=_ := if_pos hresult
    rw [hfailed,if_pos hresult]
    exact ⟨rfl,hstarted⟩
  · have hok : couchdbStartUpload tc replies (marked g)=_ := if_neg hresult
    rw [hok,if_neg hresult]
    exact ⟨hupload,hstarted⟩

/-! ## The schedule of a run -/

/-- Counter and flag stand for the history. -/
structure Kept (s : Scheduled) : Prop where
  /-- The flag. -/
  active : s.gateway.upload.active=if idle s.history then 0 else 0xF
  /-- The counter. -/
  countdown : s.gateway.upload.uploadCountdown.toNat=pause s.history-ticksSince s.history
  /-- No start was early. -/
  lawful : Lawful s.history
  /-- Registered callbacks. -/
  owned : Owned s.gateway

/-- The gateway starts with its own countdown. -/
theorem boot_kept (store : Store) : Kept (Scheduled.boot store) :=
  ⟨rfl,rfl,trivial,fun h => absurd h Bool.false_ne_true⟩

/-- A flag that is clear stands for an idle history. -/
theorem Kept.idle_iff {s : Scheduled} (h : Kept s) :
    s.gateway.upload.active=0 ↔ idle s.history=true := by
  rw [h.active]
  cases idle s.history with
  | true => exact ⟨fun _ => rfl,fun _ => rfl⟩
  | false => exact ⟨fun hzero => absurd hzero (by decide),fun hidle => absurd hidle (by decide)⟩

/-- An expired counter stands for a pause that is over. -/
theorem Kept.expired_iff {s : Scheduled} (h : Kept s) :
    s.gateway.upload.uploadCountdown=0 ↔ pause s.history<ticksSince (.tick::s.history) := by
  rw [←UInt32.toNat_inj,h.countdown,UInt32.toNat_zero,ticksSince]
  omega

/-- The code starts an upload exactly when the history says so. -/
theorem Kept.due_iff {s : Scheduled} (h : Kept s) :
    s.gateway.upload.uploadCountdown=0 ∧ s.gateway.upload.active=0 ↔ Due (.tick::s.history) := by
  rw [h.idle_iff,h.expired_iff]
  exact and_comm

/-- The outcomes of a tick. -/
inductive Ticked (netifUp linkUp : Bool) (tc : UInt32) (replies : InitReplies) (s : Scheduled) :
    Scheduled → Prop
  /-- The countdown goes on. -/
  | counted (hrunning : s.gateway.upload.uploadCountdown≠0) :
      Ticked netifUp linkUp tc replies s
        ⟨{s.gateway with upload := {s.gateway.upload with
          uploadCountdown := s.gateway.upload.uploadCountdown-1}},.tick::s.history⟩
  /-- The countdown is over and the start has to wait. -/
  | waited (hexpired : s.gateway.upload.uploadCountdown=0)
      (hwait : ¬(s.gateway.upload.active=0 ∧ netifUp=true ∧ linkUp=true)) :
      Ticked netifUp linkUp tc replies s ⟨s.gateway,.tick::s.history⟩
  /-- An upload is started. -/
  | started (hexpired : s.gateway.upload.uploadCountdown=0) (hidle : s.gateway.upload.active=0)
      (hup : netifUp=true ∧ linkUp=true) (hresult : startResult tc replies s.gateway=.ok) :
      Ticked netifUp linkUp tc replies s
        ⟨couchdbStartUpload tc replies (marked s.gateway),.start::.tick::s.history⟩
  /-- The start fails. -/
  | failed (hexpired : s.gateway.upload.uploadCountdown=0) (hidle : s.gateway.upload.active=0)
      (hup : netifUp=true ∧ linkUp=true) (hresult : startResult tc replies s.gateway≠.ok) :
      Ticked netifUp linkUp tc replies s
        ⟨couchdbStartUpload tc replies (marked s.gateway),.ended::.start::.tick::s.history⟩

/-- A tick of a countdown that runs. -/
theorem tick_counted {s : Scheduled} (h : s.gateway.upload.uploadCountdown≠0)
    (netifUp linkUp : Bool) (tc : UInt32) (replies : InitReplies) :
    scheduleNext s (.tick netifUp linkUp tc replies)=
      ⟨{s.gateway with upload := {s.gateway.upload with
        uploadCountdown := s.gateway.upload.uploadCountdown-1}},.tick::s.history⟩ := by
  unfold scheduleNext upload uploadMarks
  simp only [if_neg h]
  rw [if_neg fun hstart => h hstart.1]
  rfl

/-- Every tick has one of the outcomes. -/
theorem tick_cases (netifUp linkUp : Bool) (tc : UInt32) (replies : InitReplies) (s : Scheduled) :
    Ticked netifUp linkUp tc replies s (scheduleNext s (.tick netifUp linkUp tc replies)) := by
  by_cases hexpired : s.gateway.upload.uploadCountdown=0
  · unfold scheduleNext upload uploadMarks
    by_cases hidle : s.gateway.upload.active=0
    · by_cases hup : netifUp=true ∧ linkUp=true
      · simp only [if_pos hexpired,if_pos hidle,if_pos hup,
          if_pos (show _ ∧ _ ∧ _ ∧ _ from ⟨hexpired,hidle,hup⟩)]
        by_cases hresult : startResult tc replies s.gateway=.ok
        · rw [if_neg (not_not_intro hresult)]
          exact .started hexpired hidle hup hresult
        · rw [if_pos hresult]
          exact .failed hexpired hidle hup hresult
      · simp only [if_pos hexpired,if_pos hidle,if_neg hup]
        rw [if_neg fun h => hup h.2.2]
        exact .waited hexpired fun h => hup h.2
    · simp only [if_pos hexpired,if_neg hidle]
      rw [if_neg fun h => hidle h.2.1]
      exact .waited hexpired fun h => hidle h.1
  · rw [tick_counted hexpired]
    exact .counted hexpired

/-- A countdown that runs is counted down by one. -/
theorem toNat_countdown {countdown : UInt32} (h : countdown≠0) :
    (countdown-1).toNat=countdown.toNat-1 := by
  have hne : countdown.toNat≠0 := fun hzero => h (UInt32.toNat_inj.mp hzero)
  have hle : (1 : UInt32)≤countdown :=
    UInt32.le_iff_toNat_le.mpr (Nat.one_le_iff_ne_zero.mpr hne)
  exact UInt32.toNat_sub_of_le _ _ hle

/-- A tick keeps the schedule. -/
theorem Kept.ticked {s s' : Scheduled} {netifUp linkUp : Bool} {tc : UInt32} {replies : InitReplies}
    (h : Kept s) (hticked : Ticked netifUp linkUp tc replies s s') : Kept s' := by
  have hcount := h.countdown
  cases hticked with
  | counted hrunning =>
    refine ⟨h.active,?_,h.lawful,h.owned⟩
    change (s.gateway.upload.uploadCountdown-1).toNat=pause s.history-(ticksSince s.history+1)
    rw [toNat_countdown hrunning,hcount]
    exact Nat.sub_sub _ _ _
  | waited hexpired hwait =>
    have hover := h.expired_iff.mp hexpired
    refine ⟨h.active,?_,h.lawful,h.owned⟩
    change s.gateway.upload.uploadCountdown.toNat=pause s.history-ticksSince (.tick::s.history)
    rw [hexpired,Nat.sub_eq_zero_of_le hover.le]
    rfl
  | started hexpired hidle hup hresult =>
    have hdue := h.due_iff.mp ⟨hexpired,hidle⟩
    obtain ⟨hupload,howned⟩ := couchdbStartUpload_schedule tc replies h.owned
    rw [if_neg (not_not_intro hresult)] at hupload
    refine ⟨congrArg UploadState.active hupload,?_,⟨hdue,h.lawful⟩,howned⟩
    change (couchdbStartUpload tc replies (marked s.gateway)).upload.uploadCountdown.toNat=
      pause s.history-ticksSince (.tick::s.history)
    rw [hupload]
    exact (congrArg UInt32.toNat hexpired).trans (Nat.sub_eq_zero_of_le hdue.2.le).symm
  | failed hexpired hidle hup hresult =>
    have hdue := h.due_iff.mp ⟨hexpired,hidle⟩
    obtain ⟨hupload,howned⟩ := couchdbStartUpload_schedule tc replies h.owned
    rw [if_pos hresult] at hupload
    refine ⟨congrArg UploadState.active hupload,?_,⟨hdue,h.lawful⟩,howned⟩
    exact congrArg (fun state => state.uploadCountdown.toNat) hupload

/-- Ends are lawful at any time. -/
theorem Lawful.ended {history : List Mark} (h : Lawful history) (count : ℕ) :
    Lawful (List.replicate count .ended++history) := by
  induction count with
  | zero => exact h
  | succ count ih => exact ih

/-- Ends are no starts. -/
theorem count_start_ended (count : ℕ) (history : List Mark) :
    (List.replicate count Mark.ended++history).count .start=history.count .start := by
  rw [List.count_append,List.count_replicate,if_neg (by decide),Nat.zero_add]

/-- The session keeps the schedule. -/
theorem Kept.session {s : Scheduled} (h : Kept s) (event : SessionEvent) :
    Kept (scheduleNext s (.session event)) := by
  have hmoves := sessionStep_moves s.gateway event
  have howned : Owned (sessionStep s.gateway event) := by
    intro hregistered
    rw [hmoves.pcb,hmoves.callback]
    obtain hsame|hcleared := hmoves.callbacks
    · exact h.owned (hsame ▸ hregistered)
    · rw [hcleared] at hregistered
      exact absurd hregistered Bool.false_ne_true
  change Kept ⟨sessionStep s.gateway event,
    List.replicate (endings (sessionStep s.gateway event).log-endings s.gateway.log) .ended++
      s.history⟩
  obtain ⟨hupload,hcount⟩|⟨hupload,hcount⟩ := hmoves.ended
  · rw [hcount,Nat.sub_self]
    exact ⟨(congrArg UploadState.active hupload).trans h.active,
      (congrArg (fun state => state.uploadCountdown.toNat) hupload).trans h.countdown,
      h.lawful,howned⟩
  · obtain ⟨more,hmore⟩ : ∃ more,endings (sessionStep s.gateway event).log-endings s.gateway.log=
        more+1 := ⟨_,(Nat.succ_pred_eq_of_pos (Nat.sub_pos_of_lt hcount)).symm⟩
    rw [hmore]
    exact ⟨congrArg UploadState.active hupload,
      congrArg (fun state => state.uploadCountdown.toNat) hupload,h.lawful.ended (more+1),howned⟩

/-- Every step keeps the schedule. -/
theorem Kept.step {s s' : Scheduled} {event : ScheduleEvent} (h : Kept s)
    (hstep : scheduleStep s event s') : Kept s' := by
  obtain ⟨-,rfl⟩ := hstep
  cases event with
  | tick netifUp linkUp tc replies => exact h.ticked (tick_cases netifUp linkUp tc replies s)
  | session event => exact h.session event
  | put block tc data page => exact ⟨h.active,h.countdown,h.lawful,h.owned⟩

/-- A tick starts an upload exactly when it is due and the network is up. -/
theorem Kept.starts_iff {s s' : Scheduled} {netifUp linkUp : Bool} {tc : UInt32}
    {replies : InitReplies} (h : Kept s) (hticked : Ticked netifUp linkUp tc replies s s') :
    s'.history.count .start=s.history.count .start+1 ↔
      netifUp=true ∧ linkUp=true ∧ Due (.tick::s.history) := by
  have htick : (Mark.tick::s.history).count .start=s.history.count .start :=
    List.count_cons_of_ne (by decide)
  cases hticked with
  | counted hrunning =>
    refine ⟨fun hcount => absurd (htick.symm.trans hcount) (by omega),fun hdue => ?_⟩
    exact absurd (h.due_iff.mpr hdue.2.2).1 hrunning
  | waited hexpired hwait =>
    refine ⟨fun hcount => absurd (htick.symm.trans hcount) (by omega),fun hdue => ?_⟩
    exact absurd ⟨(h.due_iff.mpr hdue.2.2).2,hdue.1,hdue.2.1⟩ hwait
  | started hexpired hidle hup =>
    refine ⟨fun _ => ⟨hup.1,hup.2,h.due_iff.mp ⟨hexpired,hidle⟩⟩,fun _ => ?_⟩
    rw [List.count_cons_self,htick]
  | failed hexpired hidle hup =>
    refine ⟨fun _ => ⟨hup.1,hup.2,h.due_iff.mp ⟨hexpired,hidle⟩⟩,fun _ => ?_⟩
    rw [List.count_cons_of_ne (by decide),List.count_cons_self,htick]

/-! ## The way to the next start -/

/-- The gateway with the countdown at its end. -/
def expired (g : Gateway) : Gateway := {g with upload := {g.upload with uploadCountdown := 0}}

/-- Ticks lead from any countdown to its end. -/
theorem countdown_path {start s : Scheduled} {ts : List (Transition Scheduled ScheduleEvent)}
    (hp : Path scheduleStep start ts s) (replies : InitReplies) :
    ∃ ts' s',Path scheduleStep start ts' s' ∧ s'.gateway=expired s.gateway ∧
      s'.history.count .start=s.history.count .start := by
  generalize hcount : s.gateway.upload.uploadCountdown.toNat=count
  induction count generalizing ts s with
  | zero =>
    have hzero : s.gateway.upload.uploadCountdown=0 := UInt32.toNat_inj.mp hcount
    refine ⟨ts,s,hp,?_,rfl⟩
    rw [expired,←hzero]
  | succ count ih =>
    have hrunning : s.gateway.upload.uploadCountdown≠0 := by
      intro hzero
      rw [hzero] at hcount
      exact absurd hcount (Nat.succ_ne_zero count).symm
    have hnext := tick_counted hrunning false false 0 replies
    have hstep : scheduleStep s (.tick false false 0 replies) _ := ⟨trivial,rfl⟩
    obtain ⟨ts',s',hp',hgateway,hstarts⟩ := ih (hp.snoc hstep) (by
      rw [hnext]
      change (s.gateway.upload.uploadCountdown-1).toNat=count
      rw [toNat_countdown hrunning,hcount]
      rfl)
    rw [hnext] at hgateway hstarts
    exact ⟨ts',s',hp',hgateway,hstarts.trans (List.count_cons_of_ne (by decide))⟩

/-- An idle gateway comes to its next start. -/
theorem start_path {start s : Scheduled} {ts : List (Transition Scheduled ScheduleEvent)}
    (hp : Path scheduleStep start ts s) (hidle : s.gateway.upload.active=0)
    (replies : InitReplies) :
    ∃ ts' s',Path scheduleStep start ts' s' ∧ s.history.count .start<s'.history.count .start := by
  obtain ⟨ts',s',hp',hgateway,hstarts⟩ := countdown_path hp replies
  have hstep : scheduleStep s' (.tick true true 0 replies) _ := ⟨trivial,rfl⟩
  refine ⟨_,_,hp'.snoc hstep,?_⟩
  have htick : (Mark.tick::s'.history).count .start=s'.history.count .start :=
    List.count_cons_of_ne (by decide)
  have hcases := tick_cases true true 0 replies s'
  generalize scheduleNext s' (.tick true true 0 replies)=after at hcases ⊢
  cases hcases with
  | counted hrunning =>
    rw [hgateway] at hrunning
    exact absurd rfl hrunning
  | waited hexpired hwait =>
    rw [hgateway] at hwait
    exact absurd ⟨hidle,rfl,rfl⟩ hwait
  | started =>
    rw [List.count_cons_self,htick]
    omega
  | failed =>
    rw [List.count_cons_of_ne (by decide),List.count_cons_self,htick]
    omega

/-- In every run of the main loop with its session, a tick starts an upload
exactly when the network is up, no upload was started since the last end, and
the pause since then is over. So the first start comes after at least ten
seconds of ticks and every further one after at least five minutes more. -/
theorem uploads_start_when_due (store : Store) (ts : List (Transition Scheduled ScheduleEvent))
    (s : Scheduled) (hp : Path scheduleStep (Scheduled.boot store) ts s) :
    (∀ t∈ts,∀ netifUp linkUp tc replies,t.label=.tick netifUp linkUp tc replies →
      (t.after.history.count .start=t.before.history.count .start+1 ↔
        netifUp=true ∧ linkUp=true ∧ Due (.tick::t.before.history))) ∧
    (0 < s.history.count .start →
      20000+600000*(s.history.count .start-1) ≤ s.history.count .tick) := by
  have hkeep : ∀ s event s',Kept s → scheduleStep s event s' → Kept s' :=
    fun _ _ _ h hstep => h.step hstep
  refine ⟨fun t ht netifUp linkUp tc replies hlabel => ?_,fun hstarted => ?_⟩
  · obtain ⟨hbefore,-⟩ := hp.invariant_transitions (boot_kept store) hkeep t ht
    obtain ⟨-,hafter⟩ := hp.steps t ht
    rw [hlabel] at hafter
    rw [hafter]
    exact hbefore.starts_iff (tick_cases netifUp linkUp tc replies t.before)
  · exact (hp.invariant (boot_kept store) hkeep).lawful.starts_bounded hstarted

/-- A store with one record. -/
def oneRecordStore : Store :=
  {bootStore (erasedCard 3) with indexes := {readIndex := 0,writeIndex := 1}}

/-- The first upload of a gateway with one record. -/
theorem uploads_start_when_due_once : ∃ ts s,
    Path scheduleStep (Scheduled.boot oneRecordStore) ts s ∧ 0 < s.history.count .start ∧
    (∀ t∈ts,∀ netifUp linkUp tc replies,t.label=.tick netifUp linkUp tc replies →
      (t.after.history.count .start=t.before.history.count .start+1 ↔
        netifUp=true ∧ linkUp=true ∧ Due (.tick::t.before.history))) ∧
    (0 < s.history.count .start →
      20000+600000*(s.history.count .start-1) ≤ s.history.count .tick) := by
  have hnil : Path scheduleStep (Scheduled.boot oneRecordStore) [] _ := .nil
  obtain ⟨ts,s,hp,hstarted⟩ := start_path hnil rfl ⟨true,fun _ => .ok,.ok⟩
  exact ⟨ts,s,hp,hstarted,uploads_start_when_due oneRecordStore ts s hp⟩

/-! ## A session that is lost -/

/-- The gateway has lost its session without a report. -/
structure Lost (starts : ℕ) (s : Scheduled) : Prop where
  /-- The upload counts as active. -/
  active : s.gateway.upload.active≠0
  /-- The session is not connected. -/
  connected : s.gateway.tcp.connected=false
  /-- Nothing is registered with lwIP. -/
  callbacks : s.gateway.callbacks=⟨false,false,false,false⟩
  /-- The starts so far. -/
  starts : s.history.count .start=starts

/-- A lost session stays lost. -/
theorem Lost.step {starts : ℕ} {s s' : Scheduled} {event : ScheduleEvent} (h : Lost starts s)
    (hstep : scheduleStep s event s') : Lost starts s' := by
  obtain ⟨henabled,rfl⟩ := hstep
  cases event with
  | tick netifUp linkUp tc replies =>
    have hcases := tick_cases netifUp linkUp tc replies s
    generalize scheduleNext s (.tick netifUp linkUp tc replies)=after at hcases ⊢
    have htick : (Mark.tick::s.history).count .start=starts :=
      (List.count_cons_of_ne (by decide)).trans h.starts
    cases hcases with
    | counted => exact ⟨h.active,h.connected,h.callbacks,htick⟩
    | waited => exact ⟨h.active,h.connected,h.callbacks,htick⟩
    | started _ hidle => exact absurd hidle h.active
    | failed _ hidle => exact absurd hidle h.active
  | session event =>
    have hsame : sessionStep s.gateway event=s.gateway := by
      have hcallbacks := h.callbacks
      cases event with
      | service replies => exact if_neg (by rw [h.connected]; decide)
      | connected => exact if_neg (by rw [hcallbacks]; decide)
      | sent replies =>
        have hregistered : s.gateway.callbacks.sent=true := henabled
        rw [hcallbacks] at hregistered
        exact absurd hregistered Bool.false_ne_true
      | recv chain err closed pages =>
        have hregistered : s.gateway.callbacks.recv=true := henabled
        rw [hcallbacks] at hregistered
        exact absurd hregistered Bool.false_ne_true
      | err closed =>
        have hregistered : s.gateway.callbacks.err=true := henabled
        rw [hcallbacks] at hregistered
        exact absurd hregistered Bool.false_ne_true
    change Lost starts ⟨sessionStep s.gateway event,
      List.replicate (endings (sessionStep s.gateway event).log-endings s.gateway.log) .ended++
        s.history⟩
    rw [hsame]
    exact ⟨h.active,h.connected,h.callbacks,(count_start_ended _ _).trans h.starts⟩
  | put block tc data page => exact ⟨h.active,h.connected,h.callbacks,h.starts⟩

/-- An error callback that closes reports the end. -/
theorem serverTcpErr_closed {g : Gateway} (hpcb : g.tcp.pcb=true)
    (hcallback : g.tcp.tcpCloseCallback=true) :
    (serverTcpErr .ok g).upload=⟨0,uploadWait⟩ := by
  unfold serverTcpErr serverTcpCloseConn
  simp only [hpcb,hcallback,and_self,if_true]
  rfl

/-- An error callback that does not close reports nothing and leaves nothing
registered. -/
theorem serverTcpErr_failed {g : Gateway} {closed : ErrT} (hpcb : g.tcp.pcb=true)
    (hfailed : closed≠.ok) :
    (serverTcpErr closed g).upload=g.upload ∧ (serverTcpErr closed g).tcp.connected=false ∧
      (serverTcpErr closed g).callbacks=⟨false,false,false,false⟩ := by
  unfold serverTcpErr serverTcpCloseConn
  simp only [hpcb,hfailed,false_and,if_true,if_false,and_self]

/-- In every run: when lwIP reports an error for the control block of an active
upload, another upload can start later if and only if the `tcp_close` in the
error callback succeeds. If it fails, no upload starts any more, whatever the
network does. -/
theorem upload_restarts_iff_closed (store : Store)
    (ts : List (Transition Scheduled ScheduleEvent)) (s : Scheduled)
    (hp : Path scheduleStep (Scheduled.boot store) ts s) (hactive : s.gateway.upload.active≠0)
    (hregistered : s.gateway.callbacks.err=true) (closed : ErrT) :
    (∃ ts' s',Path scheduleStep (scheduleNext s (.session (.err closed))) ts' s' ∧
      s.history.count .start<s'.history.count .start) ↔ closed=.ok := by
  have hkept := hp.invariant (boot_kept store) fun _ _ _ h hstep => h.step hstep
  obtain ⟨hpcb,hcallback⟩ := hkept.owned hregistered
  have hstarts : (scheduleNext s (.session (.err closed))).history.count .start=
      s.history.count .start := count_start_ended _ _
  constructor
  · rintro ⟨ts',s',hp',hmore⟩
    by_contra hfailed
    obtain ⟨hupload,hconnected,hcallbacks⟩ := serverTcpErr_failed hpcb hfailed
    have hlost : Lost (s.history.count .start) (scheduleNext s (.session (.err closed))) :=
      ⟨fun hidle => hactive ((congrArg UploadState.active hupload).symm.trans hidle),hconnected,
        hcallbacks,hstarts⟩
    have hend := (hp'.invariant hlost fun _ _ _ h hstep => h.step hstep).starts
    omega
  · rintro rfl
    have hidle : (scheduleNext s (.session (.err .ok))).gateway.upload.active=0 :=
      congrArg UploadState.active (serverTcpErr_closed hpcb hcallback)
    have hnil : Path scheduleStep (scheduleNext s (.session (.err .ok))) [] _ := .nil
    obtain ⟨ts',s',hp',hmore⟩ := start_path hnil hidle ⟨true,fun _ => .ok,.ok⟩
    exact ⟨ts',s',hp',hstarts ▸ hmore⟩

/-- A run in which the record is being uploaded. -/
theorem uploading_path : ∃ ts s,Path scheduleStep (Scheduled.boot oneRecordStore) ts s ∧
    s.gateway.upload.active≠0 ∧ s.gateway.callbacks.err=true := by
  have hnil : Path scheduleStep (Scheduled.boot oneRecordStore) [] _ := .nil
  obtain ⟨ts,s,hp,hgateway,-⟩ := countdown_path hnil ⟨true,fun _ => .ok,.ok⟩
  have hstep : scheduleStep s (.tick true true 10 ⟨true,fun _ => .ok,.ok⟩) _ := ⟨trivial,rfl⟩
  have hstarted : (scheduleNext s (.tick true true 10 ⟨true,fun _ => .ok,.ok⟩)).gateway=
      upload true true 10 ⟨true,fun _ => .ok,.ok⟩ (expired (bootGateway oneRecordStore)) :=
    congrArg (upload true true 10 ⟨true,fun _ => .ok,.ok⟩) hgateway
  refine ⟨_,_,hp.snoc hstep,?_,?_⟩
  · rw [hstarted]
    decide
  · rw [hstarted]
    decide

/-- The upload of one record restarts exactly when it could be closed. -/
theorem upload_restarts_iff_closed_once : ∃ ts s,
    Path scheduleStep (Scheduled.boot oneRecordStore) ts s ∧ s.gateway.upload.active≠0 ∧
    ∀ closed,(∃ ts' s',Path scheduleStep (scheduleNext s (.session (.err closed))) ts' s' ∧
      s.history.count .start<s'.history.count .start) ↔ closed=.ok := by
  obtain ⟨ts,s,hp,hactive,hregistered⟩ := uploading_path
  exact ⟨ts,s,hp,hactive,upload_restarts_iff_closed oneRecordStore ts s hp hactive hregistered⟩

end VlfGateway.UploadSchedule
