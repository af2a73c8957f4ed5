import VlfGateway.SessionStream

/-!
# The end of a session

A session ends when `upload_end` was called back or when lwIP reported that
the control block is gone. From then on the control block must be left alone.
Two things break this: the error callback closes the control block that lwIP
has already freed, and the connection flag stays set after a close, so the
main loop goes on writing.
-/

namespace VlfGateway.SessionLifecycle

open HttpTransmit MemoryStore ServerTcp SessionStream StepPath

/-- Actions after which the control block must not be used. -/
def ends : SessionAction → Prop
  | .closeCallback | .errCallback => True
  | _ => False

/-- Actions performed on the control block. -/
def usesPcb : SessionAction → Prop
  | .write _ _ | .close _ => True
  | _ => False

/-- The control block is left alone after the end, and the end is called
back at most once. -/
def SafeLog (log : List SessionAction) : Prop :=
  log.Pairwise (fun a b => ends a → ¬usesPcb b) ∧ log.count .closeCallback≤1

/-- The next `server_tcp_out` has octets to write or the connection to close. -/
def OutputDue (tcp : ServerTcpState) : Prop :=
  tcp.currentPos<tcp.currentLen ∨
    match tcp.outputPhase with
    | .httpHeader | .jsonHeader | .jsonFooter | .close => True
    | .jsonData => tcp.recordsIndex<tcp.recordsCount
    | .waitBeforeClose | .done => False

/-- lwIP reports no error, and once `upload_end` was called back the main
loop does not run while the connection flag is set and output is due. -/
def LeftAlone (g : Gateway) : SessionEvent → Prop
  | .service _ => .closeCallback∈g.log → ¬(g.tcp.connected=true ∧ OutputDue g.tcp)
  | .err _ => False
  | _ => True

/-- Nothing is registered with lwIP. -/
def Unregistered (g : Gateway) : Prop :=
  g.callbacks.sent=false ∧ g.callbacks.recv=false ∧ g.callbacks.err=false

/-- New actions of a step: no end, apart from one callback as the last. -/
def EndsLast (more : List SessionAction) : Prop :=
  ∃ body,(∀ a∈body,¬ends a) ∧ (more=body ∨ more=body++[.closeCallback])

/-- States of a session whose steps all left an ended control block alone. -/
structure Orderly (g : Gateway) : Prop where
  /-- lwIP has reported no error. -/
  noError : .errCallback∉g.log
  /-- The error callback is registered only for an existing control block. -/
  owned : g.callbacks.err=true → g.tcp.pcb=true
  /-- After the callback nothing is registered any more. -/
  released : .closeCallback∈g.log → Unregistered g
  /-- The log is safe so far. -/
  safe : SafeLog g.log

/-- Actions without an end may precede. -/
theorem EndsLast.prepend {first more : List SessionAction} (hfirst : ∀ a∈first,¬ends a)
    (hmore : EndsLast more) : EndsLast (first++more) := by
  obtain ⟨body,hbody,hshape⟩ := hmore
  refine ⟨first++body,?_,?_⟩
  · intro a ha
    rcases List.mem_append.mp ha with ha|ha
    · exact hfirst a ha
    · exact hbody a ha
  · rcases hshape with rfl|rfl
    · exact .inl rfl
    · exact .inr (List.append_assoc _ _ _).symm

/-- Behind a log that has not ended, actions of the permitted shape are safe. -/
theorem safeLog_append {log more : List SessionAction} (hopen : ∀ a∈log,¬ends a)
    (hmore : EndsLast more) : SafeLog (log++more) := by
  obtain ⟨body,hbody,hshape⟩ := hmore.prepend hopen
  have hpair : body.Pairwise fun a b => ends a → ¬usesPcb b := by
    refine List.pairwise_iff_forall_sublist.mpr fun {a b} hab hend => ?_
    exact absurd hend (hbody a (hab.subset List.mem_cons_self))
  have hcount : body.count .closeCallback=0 :=
    List.count_eq_zero.mpr fun hmem => hbody _ hmem trivial
  rcases hshape with hshape|hshape
  · rw [hshape]
    exact ⟨hpair,by omega⟩
  · rw [hshape]
    constructor
    · rw [List.pairwise_append]
      refine ⟨hpair,List.pairwise_singleton _ _,fun a ha b hb => ?_⟩
      rw [List.mem_singleton.mp hb]
      exact fun _ => id
    · rw [List.count_append,hcount]
      decide

/-- A use of the control block behind an end is not safe. -/
theorem not_safeLog_append {log more : List SessionAction} {a b : SessionAction} (ha : a∈log)
    (hb : b∈more) (hend : ends a) (huse : usesPcb b) : ¬SafeLog (log++more) := by
  rintro ⟨hpair,_⟩
  exact (List.pairwise_append.mp hpair).2.2 a ha b hb hend huse

/-- Writes use the control block and are no end. -/
theorem write_uses {a : SessionAction} (h : a.isWrite=true) : usesPcb a ∧ ¬ends a := by
  cases a with
  | write data err => exact ⟨trivial,id⟩
  | _ => exact absurd h (by simp [SessionAction.isWrite])

/-- A list of writes that is not empty uses the control block and ends
nothing. -/
theorem writes_use {writes : List SessionAction} (htried : writes≠[])
    (hwrites : ∀ a∈writes,a.isWrite=true) : (∃ a∈writes,usesPcb a) ∧ ∀ a∈writes,¬ends a := by
  obtain ⟨a,ha⟩ := List.exists_mem_of_ne_nil writes htried
  exact ⟨⟨a,ha,(write_uses (hwrites a ha)).1⟩,fun a ha => (write_uses (hwrites a ha)).2⟩

/-- What a step adds to the log, and what it leaves registered. -/
structure Extends (g g' : Gateway) (more : List SessionAction) : Prop where
  /-- The log grows at its end. -/
  log_eq : g'.log=g.log++more
  /-- At most one callback, as the last action. -/
  shape : EndsLast more
  /-- The callback comes with everything deregistered. -/
  ended : .closeCallback∈more → Unregistered g'
  /-- Nothing is registered anew. -/
  callbacks : g'.callbacks=g.callbacks ∨ g'.callbacks=⟨false,false,false,false⟩
  /-- The control block stays the same. -/
  pcb : g'.tcp.pcb=g.tcp.pcb

/-- Actions without an end that leave the registrations as they are. -/
theorem Extends.of_open {g g' : Gateway} {more : List SessionAction} (hlog : g'.log=g.log++more)
    (hopen : ∀ a∈more,¬ends a) (hcallbacks : g'.callbacks=g.callbacks)
    (hpcb : g'.tcp.pcb=g.tcp.pcb) : Extends g g' more :=
  ⟨hlog,⟨more,hopen,.inl rfl⟩,fun hmem => absurd trivial (hopen _ hmem),.inl hcallbacks,hpcb⟩

/-- A step that logs nothing and leaves the registrations as they are. -/
theorem Extends.of_silent {g g' : Gateway} (hlog : g'.log=g.log)
    (hcallbacks : g'.callbacks=g.callbacks) (hpcb : g'.tcp.pcb=g.tcp.pcb) : Extends g g' [] :=
  .of_open (by rw [hlog,List.append_nil]) (by simp) hcallbacks hpcb

/-- Nothing that was registered loses its control block. -/
theorem Extends.owned {g g' : Gateway} {more : List SessionAction} (h : Extends g g' more)
    (howned : g.callbacks.err=true → g.tcp.pcb=true) : g'.callbacks.err=true → g'.tcp.pcb=true := by
  rw [h.pcb]
  rcases h.callbacks with hkeep|hclear
  · rw [hkeep]
    exact howned
  · rw [hclear]
    exact fun hfalse => absurd hfalse (by decide)

/-- Two steps add their actions in order when the first is no end. -/
theorem Extends.trans {g g' g'' : Gateway} {first second : List SessionAction}
    (hfirst : Extends g g' first) (hopen : ∀ a∈first,¬ends a) (hsecond : Extends g' g'' second) :
    Extends g g'' (first++second) := by
  refine ⟨?_,hsecond.shape.prepend hopen,?_,?_,hsecond.pcb.trans hfirst.pcb⟩
  · rw [hsecond.log_eq,hfirst.log_eq,List.append_assoc]
  · intro hmem
    rcases List.mem_append.mp hmem with hmem|hmem
    · exact absurd trivial (hopen _ hmem)
    · exact hsecond.ended hmem
  · rcases hsecond.callbacks with hkeep|hclear
    · rw [hkeep]
      exact hfirst.callbacks
    · exact .inr hclear

/-- Closing the connection is a use of the control block, possibly followed
by the callback, and deregisters everything. -/
theorem serverTcpCloseConn_extends (closed : ErrT) (g : Gateway) :
    ∃ more,Extends g (serverTcpCloseConn closed g) more ∧ .close closed∈more := by
  unfold serverTcpCloseConn
  dsimp only
  split
  · refine ⟨[.close closed,.closeCallback],⟨rfl,⟨[.close closed],?_,.inr rfl⟩,?_,.inr rfl,rfl⟩,?_⟩
    · simp [ends]
    · exact fun _ => ⟨rfl,rfl,rfl⟩
    · simp
  · refine ⟨[.close closed],⟨rfl,⟨[.close closed],?_,.inl rfl⟩,?_,.inr rfl,rfl⟩,?_⟩
    · simp [ends]
    · simp
    · simp

/-- Sending from the current block writes exactly when something is pending,
and reports an empty block only while the session is open. -/
theorem serverCurrentTcpOut_extends (replies : ℕ → TcpReply) (closed : ErrT) (g : Gateway) :
    ∃ more,Extends g (serverCurrentTcpOut replies closed g).2 more ∧
      ((serverCurrentTcpOut replies closed g).1=true → (∀ a∈more,¬ends a) ∧
        (serverCurrentTcpOut replies closed g).2.tcp.currentLen≤
          (serverCurrentTcpOut replies closed g).2.tcp.currentPos) ∧
      (g.tcp.currentPos<g.tcp.currentLen → ∃ a∈more,usesPcb a) ∧
      (g.tcp.currentLen≤g.tcp.currentPos →
        more=[] ∧ (serverCurrentTcpOut replies closed g).1=true ∧
          (serverCurrentTcpOut replies closed g).2=g) := by
  have hcases := serverCurrentTcpOut_cases replies closed g
  generalize serverCurrentTcpOut replies closed g=result at hcases
  cases hcases with
  | empty hend =>
    exact ⟨[],.of_silent rfl rfl rfl,fun _ => ⟨by simp,hend⟩,fun hpos => by omega,
      fun _ => ⟨rfl,rfl,rfl⟩⟩
  | sent writes len err hpos htried hwrites hqueued hlen =>
    obtain ⟨huse,hopen⟩ := writes_use htried hwrites
    exact ⟨writes,.of_open rfl hopen rfl rfl,fun hend => ⟨hopen,of_decide_eq_true hend⟩,
      fun _ => huse,fun hend => by omega⟩
  | failed writes hpos htried hwrites hqueued =>
    obtain ⟨huse,hopen⟩ := writes_use htried hwrites
    refine ⟨writes,.of_open rfl hopen rfl rfl,?_,fun _ => huse,fun hend => by omega⟩
    exact fun hfalse => absurd hfalse Bool.false_ne_true
  | givenUp writes hpos htried hwrites hqueued =>
    obtain ⟨⟨a,ha,huse⟩,hopen⟩ := writes_use htried hwrites
    obtain ⟨closing,hclosing,_⟩ := serverTcpCloseConn_extends closed
      {g with tcp := {g.tcp with writeErr := g.tcp.writeErr+1},log := g.log++writes}
    have hfailed : Extends g
        {g with tcp := {g.tcp with writeErr := g.tcp.writeErr+1},log := g.log++writes} writes :=
      .of_open rfl hopen rfl rfl
    refine ⟨writes++closing,hfailed.trans hopen hclosing,?_,
      fun _ => ⟨a,List.mem_append_left _ ha,huse⟩,fun hend => by omega⟩
    exact fun hfalse => absurd hfalse Bool.false_ne_true

/-- The texts of the phases are never empty. -/
theorem block_length_pos (g : Gateway) (sample : Option Sample) (comma : Bool) :
    0<(httpHeader g.tcp.target.host g.tcp.target.auth g.tcp.recordsCount).length ∧
      0<HttpTransmit.jsonHeader.length ∧ 0<(jsonElement sample comma).length ∧
      0<HttpTransmit.jsonFooter.length := by
  refine ⟨?_,by decide,?_,by decide⟩
  · unfold httpHeader
    simp only [List.length_append,String.length_toList]
    change 0<41+_+18+_+2+_+32+2
    omega
  · rw [jsonElement_length]
    exact Nat.lt_of_lt_of_le (by decide) (Nat.le_add_right jsonRecordChars _)

/-- Selecting a block ends nothing. With output due it leaves octets pending
or closes the connection, and otherwise it leaves nothing to do. -/
theorem selectBlock_extends (replies : OutputReplies) {g : Gateway}
    (hempty : g.tcp.currentLen≤g.tcp.currentPos) :
    ∃ more,Extends g (selectBlock replies g) more ∧ (∀ a∈more,¬ends a) ∧
      (OutputDue g.tcp → (selectBlock replies g).tcp.currentPos<(selectBlock replies g).tcp.currentLen ∨
        ∃ a∈more,usesPcb a) ∧
      (¬OutputDue g.tcp → more=[] ∧
        (selectBlock replies g).tcp.currentLen≤(selectBlock replies g).tcp.currentPos) := by
  have hpos := block_length_pos g
  have hpending : ¬g.tcp.currentPos<g.tcp.currentLen := Nat.not_lt.mpr hempty
  cases hphase : g.tcp.outputPhase with
  | httpHeader =>
    simp only [selectBlock,hphase]
    exact ⟨[],.of_silent rfl rfl rfl,by simp,fun _ => .inl (hpos none false).1,
      fun hnot => absurd (.inr (by rw [hphase]; trivial)) hnot⟩
  | jsonHeader =>
    simp only [selectBlock,hphase]
    exact ⟨[],.of_silent rfl rfl rfl,by simp,fun _ => .inl (hpos none false).2.1,
      fun hnot => absurd (.inr (by rw [hphase]; trivial)) hnot⟩
  | jsonFooter =>
    simp only [selectBlock,hphase]
    exact ⟨[],.of_silent rfl rfl rfl,by simp,fun _ => .inl (hpos none false).2.2.2,
      fun hnot => absurd (.inr (by rw [hphase]; trivial)) hnot⟩
  | jsonData =>
    by_cases hmore : g.tcp.recordsIndex<g.tcp.recordsCount
    · simp only [selectBlock,hphase,if_pos hmore]
      have hopen : ∀ a∈[SessionAction.element g.tcp.memOutputIndex
          (getSample g.store g.tcp.memOutputIndex replies.polls).1
          (decide (g.tcp.recordsIndex+1<g.tcp.recordsCount))],¬ends a := by simp [ends]
      exact ⟨_,.of_open rfl hopen rfl rfl,hopen,fun _ => .inl (hpos _ _).2.2.1,
        fun hnot => absurd (.inr (by rw [hphase]; exact hmore)) hnot⟩
    · simp only [selectBlock,hphase,if_neg hmore]
      refine ⟨[],.of_silent rfl rfl rfl,by simp,?_,fun _ => ⟨rfl,le_refl _⟩⟩
      intro hdue
      have hphased := hdue.resolve_left hpending
      rw [hphase] at hphased
      exact absurd hphased hmore
  | waitBeforeClose =>
    simp only [selectBlock,hphase]
    refine ⟨[],.of_silent rfl rfl rfl,by simp,?_,fun _ => ⟨rfl,le_refl _⟩⟩
    intro hdue
    have hphased := hdue.resolve_left hpending
    rw [hphase] at hphased
    exact hphased.elim
  | close =>
    simp only [selectBlock,hphase]
    have hopen : ∀ a∈[SessionAction.close replies.phaseClosed],¬ends a := by simp [ends]
    exact ⟨_,.of_open rfl hopen rfl rfl,hopen,fun _ => .inr ⟨_,List.mem_singleton_self _,trivial⟩,
      fun hnot => absurd (.inr (by rw [hphase]; trivial)) hnot⟩
  | done =>
    simp only [selectBlock,hphase]
    refine ⟨[],.of_silent rfl rfl rfl,by simp,?_,fun _ => ⟨rfl,le_refl _⟩⟩
    intro hdue
    have hphased := hdue.resolve_left hpending
    rw [hphase] at hphased
    exact hphased.elim

/-- Selecting and sending the next block, once the current one is empty, uses
the control block exactly when output is due. -/
theorem selectedOut_extends (replies : OutputReplies) {g : Gateway}
    (hempty : g.tcp.currentLen≤g.tcp.currentPos) :
    ∃ more,Extends g (serverCurrentTcpOut replies.selected replies.selectedClosed
        (selectBlock replies g)).2 more ∧
      (OutputDue g.tcp → ∃ a∈more,usesPcb a) ∧ (¬OutputDue g.tcp → more=[]) := by
  obtain ⟨chosen,hchosen,hopen,hdue,hidle⟩ := selectBlock_extends replies hempty
  obtain ⟨sent,hsent,_,hwrite,hquiet⟩ :=
    serverCurrentTcpOut_extends replies.selected replies.selectedClosed (selectBlock replies g)
  refine ⟨chosen++sent,hchosen.trans hopen hsent,?_,?_⟩
  · intro h
    rcases hdue h with hpending|⟨a,ha,huse⟩
    · obtain ⟨a,ha,huse⟩ := hwrite hpending
      exact ⟨a,List.mem_append_right _ ha,huse⟩
    · exact ⟨a,List.mem_append_left _ ha,huse⟩
  · intro h
    obtain ⟨hnone,hend⟩ := hidle h
    rw [hnone,(hquiet hend).1,List.append_nil]

/-- `server_tcp_out` uses the control block exactly when the connection flag
is set and output is due. -/
theorem serverTcpOut_extends (replies : OutputReplies) (g : Gateway) :
    ∃ more,Extends g (serverTcpOut replies g) more ∧
      (g.tcp.connected=true ∧ OutputDue g.tcp → ∃ a∈more,usesPcb a) ∧
      (¬(g.tcp.connected=true ∧ OutputDue g.tcp) → more=[]) := by
  unfold serverTcpOut
  by_cases hconnected : g.tcp.connected=true
  · obtain ⟨first,hfirst,hopen,hwrite,hquiet⟩ :=
      serverCurrentTcpOut_extends replies.current replies.currentClosed g
    rw [if_pos hconnected]
    dsimp only
    by_cases hpos : g.tcp.currentPos<g.tcp.currentLen
    · obtain ⟨a,ha,huse⟩ := hwrite hpos
      by_cases hblock : (serverCurrentTcpOut replies.current replies.currentClosed g).1=true
      · obtain ⟨hfirstOpen,hempty⟩ := hopen hblock
        obtain ⟨rest,hrest,_⟩ := selectedOut_extends replies hempty
        rw [if_pos hblock]
        exact ⟨first++rest,hfirst.trans hfirstOpen hrest,
          fun _ => ⟨a,List.mem_append_left _ ha,huse⟩,
          fun hnot => absurd ⟨hconnected,.inl hpos⟩ hnot⟩
      · rw [if_neg hblock]
        exact ⟨first,hfirst,fun _ => ⟨a,ha,huse⟩,fun hnot => absurd ⟨hconnected,.inl hpos⟩ hnot⟩
    · have hempty : g.tcp.currentLen≤g.tcp.currentPos := by omega
      obtain ⟨_,hblock,hsame⟩ := hquiet hempty
      obtain ⟨rest,hrest,hdue,hidle⟩ := selectedOut_extends replies hempty
      rw [if_pos hblock,hsame]
      exact ⟨rest,hrest,fun h => hdue h.2,fun h => hidle fun hd => h ⟨hconnected,hd⟩⟩
  · rw [if_neg hconnected]
    exact ⟨[],.of_silent rfl rfl rfl,fun hdue => absurd hdue.1 hconnected,fun _ => rfl⟩

/-- Actions of the permitted shape behind an open log keep a session orderly. -/
theorem Orderly.extend {g g' : Gateway} {more : List SessionAction} (h : Orderly g)
    (hopen : .closeCallback∉g.log) (hext : Extends g g' more) : Orderly g' := by
  have hlog : ∀ a∈g.log,¬ends a := by
    intro a ha hend
    cases a with
    | closeCallback => exact hopen ha
    | errCallback => exact h.noError ha
    | _ => exact hend
  refine ⟨?_,hext.owned h.owned,?_,?_⟩
  · rw [hext.log_eq]
    obtain ⟨body,hbody,hshape⟩ := hext.shape
    intro hmem
    rcases List.mem_append.mp hmem with hmem|hmem
    · exact h.noError hmem
    · rcases hshape with rfl|rfl
      · exact hbody _ hmem trivial
      · rcases List.mem_append.mp hmem with hmem|hmem
        · exact hbody _ hmem trivial
        · simp at hmem
  · rw [hext.log_eq]
    intro hmem
    rcases List.mem_append.mp hmem with hmem|hmem
    · exact absurd hmem hopen
    · exact hext.ended hmem
  · rw [hext.log_eq]
    exact safeLog_append hlog hext.shape

/-- A service tick that finds nothing due keeps the session orderly. -/
theorem Orderly.idle {g g' : Gateway} (h : Orderly g) (hext : Extends g g' []) : Orderly g' := by
  have hlog : g'.log=g.log := by rw [hext.log_eq,List.append_nil]
  refine ⟨?_,hext.owned h.owned,?_,?_⟩
  · rw [hlog]
    exact h.noError
  · rw [hlog,Unregistered]
    rcases hext.callbacks with hkeep|hclear
    · rw [hkeep]
      exact h.released
    · rw [hclear]
      exact fun _ => ⟨rfl,rfl,rfl⟩
  · rw [hlog]
    exact h.safe

/-- A service tick performs one `server_tcp_out`, which checks the connection
flag itself. -/
theorem serverTcpService_eq (replies : OutputReplies) (g : Gateway) :
    serverTcpService replies g=serverTcpOut replies g := by
  unfold serverTcpService serverTcpOut
  by_cases hconnected : g.tcp.connected=true <;> simp [hconnected]

/-- An event that leaves an ended control block alone keeps the session
orderly. -/
theorem Orderly.step {g : Gateway} (h : Orderly g) {event : SessionEvent}
    (henabled : event.enabled g) (hcond : LeftAlone g event) : Orderly (sessionStep g event) := by
  cases event with
  | service replies =>
    obtain ⟨more,hext,_,hidle⟩ := serverTcpOut_extends replies g
    rw [sessionStep,serverTcpService_eq]
    by_cases hended : .closeCallback∈g.log
    · rw [hidle (hcond hended)] at hext
      exact h.idle hext
    · exact h.extend hended hext
  | connected =>
    simp only [sessionStep,serverTcpConnected]
    split
    · exact ⟨h.noError,h.owned,h.released,h.safe⟩
    · exact h
  | sent replies =>
    obtain ⟨more,hext,_⟩ := serverTcpOut_extends replies g
    have hended : .closeCallback∉g.log := fun hmem =>
      absurd ((h.released hmem).1.symm.trans henabled) (by decide)
    simp only [sessionStep,serverTcpSent]
    split
    · exact h.extend hended hext
    · exact h
  | recv chain err closed pages =>
    obtain ⟨more,hext,_⟩ := serverTcpCloseConn_extends closed g
    have hended : .closeCallback∉g.log := fun hmem =>
      absurd ((h.released hmem).2.1.symm.trans henabled) (by decide)
    simp only [sessionStep,serverTcpRecv]
    split
    · exact h.extend hended hext
    · split
      · exact h.extend hended hext
      · exact ⟨h.noError,h.owned,h.released,h.safe⟩
  | err closed => exact absurd hcond id

/-- An event that does not leave an ended control block alone makes the log
unsafe. -/
theorem Orderly.broken {g : Gateway} (h : Orderly g) {event : SessionEvent}
    (henabled : event.enabled g) (hcond : ¬LeftAlone g event) :
    ¬SafeLog (sessionStep g event).log := by
  cases event with
  | service replies =>
    obtain ⟨more,hext,hdue,_⟩ := serverTcpOut_extends replies g
    simp only [LeftAlone,Classical.not_imp,not_not] at hcond
    obtain ⟨b,hb,huse⟩ := hdue hcond.2
    rw [sessionStep,serverTcpService_eq,hext.log_eq]
    exact not_safeLog_append hcond.1 hb trivial huse
  | err closed =>
    obtain ⟨more,hext,hclose⟩ := serverTcpCloseConn_extends closed
      {g with tcp := {g.tcp with connected := false},log := g.log++[.errCallback]}
    simp only [sessionStep,serverTcpErr,if_pos (h.owned henabled)]
    rw [hext.log_eq]
    exact not_safeLog_append (List.mem_append_right _ (List.mem_singleton_self _)) hclose trivial
      trivial
  | connected => exact absurd trivial hcond
  | sent replies => exact absurd trivial hcond
  | recv chain err closed pages => exact absurd trivial hcond

/-- A new session is orderly. -/
theorem orderly_start {target : HttpTarget} {count : UInt16} {start : UInt32} {g : Gateway}
    (hcount : 0<count) (h : SessionStart target count start g) : Orderly g := by
  obtain ⟨remoteIp,remotePort,callback,replies,before,rfl⟩ := h
  unfold serverTcpInit
  rw [if_pos hcount]
  dsimp only
  split
  · split
    · exact ⟨by simp,fun _ => ‹_›,by simp,by simp [SafeLog]⟩
    · exact ⟨by simp,by simp,by simp,by simp [SafeLog]⟩
  · exact ⟨by simp,by simp,by simp,by simp [SafeLog]⟩

/-- In every run of one session, `upload_end` is called back at most once and
the control block is left alone after the end, exactly when lwIP reports no
error and, after `upload_end`, the main loop never runs with the connection
flag set and output due. -/
theorem lifecycle_safe_iff {target : HttpTarget} {count : UInt16} {start : UInt32}
    {g₀ g : Gateway} {ts : List (Transition Gateway SessionEvent)} (hcount : 0<count)
    (hstart : SessionStart target count start g₀)
    (hpath : Path (stepOf (fun g event => SessionEvent.enabled g event) sessionStep) g₀ ts g) :
    (∀ t∈ts,SafeLog t.after.log) ↔ ∀ t∈ts,LeftAlone t.before t.label := by
  refine hpath.guarded_iff Orderly LeftAlone (fun _ _ g' => SafeLog g'.log)
    (orderly_start hcount hstart) ?_ ?_
  · rintro g event _ hg ⟨henabled,rfl⟩ hcond
    have hnext := hg.step henabled hcond
    exact ⟨hnext,hnext.safe⟩
  · rintro g event _ hg ⟨henabled,rfl⟩ hcond
    exact hg.broken henabled hcond

/-- The session of one record after it was connected. -/
def connectedSession : Gateway := sessionStep openedSession .connected

/-- The same session after the server closed its side and `tcp_close`
succeeded. -/
def endedSession : Gateway := sessionStep connectedSession (.recv none .ok .ok fun _ => .good)

/-- What lwIP answers for a control block that was closed. -/
def closedReplies : OutputReplies :=
  {current := fun _ => ⟨.conn,0,0⟩,currentClosed := .ok,polls := [0x00],phaseClosed := .ok
   selected := fun _ => ⟨.conn,0,0⟩,selectedClosed := .ok}

/-- The run that connects the session and ends it. -/
theorem endedSession_path :
    Path (stepOf (fun g event => SessionEvent.enabled g event) sessionStep) openedSession
      [⟨openedSession,.connected,connectedSession⟩,
        ⟨connectedSession,.recv none .ok .ok fun _ => .good,endedSession⟩] endedSession := by
  have hconnected : Path (stepOf (fun g event => SessionEvent.enabled g event) sessionStep)
      openedSession ([]++[⟨openedSession,.connected,connectedSession⟩]) connectedSession :=
    .snoc .nil ⟨trivial,rfl⟩
  exact hconnected.snoc ⟨rfl,rfl⟩

/-- A session that the server closes is safe up to there. -/
theorem lifecycle_safe_ended :
    (∀ t∈[(⟨openedSession,.connected,connectedSession⟩ : Transition Gateway SessionEvent),
        ⟨connectedSession,.recv none .ok .ok fun _ => .good,endedSession⟩],SafeLog t.after.log) ↔
      ∀ t∈[(⟨openedSession,.connected,connectedSession⟩ : Transition Gateway SessionEvent),
        ⟨connectedSession,.recv none .ok .ok fun _ => .good,endedSession⟩],
        LeftAlone t.before t.label :=
  @lifecycle_safe_iff couchdbServer 1 1 openedSession endedSession _ (by decide)
    ⟨couchdbIp,5984,true,⟨true,fun _ => .ok,.ok⟩,bootGateway (bootStore (erasedCard 3)),rfl⟩
    endedSession_path

/-- The server closes its side right after the connection was made, and
`upload_end` is called back. The next tick of the main loop writes to the
control block again. -/
theorem write_after_upload_end :
    SessionStart couchdbServer 1 1 openedSession ∧
    Path (stepOf (fun g event => SessionEvent.enabled g event) sessionStep) openedSession
      [⟨openedSession,.connected,connectedSession⟩,
        ⟨connectedSession,.recv none .ok .ok fun _ => .good,endedSession⟩] endedSession ∧
    endedSession.log=[.close .ok,.closeCallback] ∧
    SessionEvent.enabled endedSession (.service closedReplies) ∧
    ¬SafeLog (sessionStep endedSession (.service closedReplies)).log := by
  have hstart : SessionStart couchdbServer 1 1 openedSession :=
    ⟨couchdbIp,5984,true,⟨true,fun _ => .ok,.ok⟩,bootGateway (bootStore (erasedCard 3)),rfl⟩
  have hopened := orderly_start (by decide) hstart
  have hconnected : Orderly connectedSession := hopened.step trivial trivial
  have hrecv : SessionEvent.enabled connectedSession (.recv none .ok .ok fun _ => .good) := rfl
  have hended : Orderly endedSession := hconnected.step hrecv trivial
  have hlog : endedSession.log=[.close .ok,.closeCallback] := rfl
  refine ⟨hstart,endedSession_path,hlog,trivial,hended.broken trivial ?_⟩
  intro halone
  refine halone ?_ ⟨rfl,.inr trivial⟩
  rw [hlog]
  exact List.mem_cons_of_mem _ (List.mem_singleton_self _)

end VlfGateway.SessionLifecycle
