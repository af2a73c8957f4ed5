import VlfGateway.SessionStream

/-!
# Records are released only after they were sent

Records are accepted, read into elements by a session and released by
acknowledgements, in any interleaving and with sessions cut off anywhere. The
history of a run retains these three kinds of events. The session walks its
blocks by plain increments and the acknowledgements by `next_block`; the two
agree because a session never extends beyond the write index it started with.
-/

namespace VlfGateway.ReleaseOrder

open HttpTransmit MemoryStore RecordChecksum SdCard ServerTcp SessionStream StepPath

/-- What happens to a block. -/
inductive BlockEvent where
  /-- `put_sample` accepted a record into the block. -/
  | accepted (block : ℕ) (record : Record)
  /-- A session read the block and produced the text of an element. -/
  | emitted (block : ℕ) (text : List Char)
  /-- The read index moved past the block. -/
  | released (block : ℕ)

/-- A gateway with the history of its blocks. -/
structure Run where
  /-- The gateway. -/
  gateway : Gateway
  /-- Calls of `good_upload_done` since the current session was started. -/
  acked : ℕ
  /-- Events so far, oldest first. -/
  history : List BlockEvent

/-- `read_index` as a number. -/
def Run.read (run : Run) : ℕ := run.gateway.store.indexes.readIndex.toNat

/-- `write_index` as a number. -/
def Run.write (run : Run) : ℕ := run.gateway.store.indexes.writeIndex.toNat

/-- Last block of the ring. -/
def Run.last (run : Run) : ℕ := lastBlock run.gateway.store.card

/-- Elements the current session has started. -/
def Run.emitted (run : Run) : ℕ := (started run.gateway.log).length

/-- The event of a started element. -/
def elementEvent : SessionAction → Option BlockEvent
  | .element index sample comma => some (.emitted index.toNat (jsonElement sample comma))
  | _ => none

/-- Events a step adds to the history. -/
def stepEvents (g : Gateway) : GatewayEvent → List BlockEvent
  | .session event => ((sessionStep g event).log.drop g.log.length).filterMap elementEvent
  | .put block tc data page =>
    if (putSample g.store block tc data page).1 then
      [.accepted (putSample g.store block tc data page).2.indexes.writeIndex.toNat block]
    else []
  | .start _ _ => []
  | .ack _ => [.released g.store.indexes.readIndex.toNat]

/-- Acknowledgements of the current session after a step. A session is only
started when there are records to send. -/
def stepAcked (run : Run) : GatewayEvent → ℕ
  | .start tc _ => if 0<getBlocksToRead run.gateway.store tc then 0 else run.acked
  | .ack _ => run.acked+1
  | _ => run.acked

/-- One step of the gateway with its history. -/
def Run.step (run : Run) (event : GatewayEvent) : Run :=
  {gateway := gatewayStep run.gateway event
   acked := stepAcked run event
   history := run.history++stepEvents run.gateway event}

/-- The card answers a read with the block it holds. -/
def diskReady : SessionEvent → Prop
  | .service replies | .sent replies => cmd replies.polls=0
  | _ => True

/-- Data from the server stands for its calls of `good_upload_done`, which are
steps of their own. -/
def withoutData : SessionEvent → Prop
  | .recv (some _) .ok _ _ => False
  | _ => True

/-- Steps on a card that stores every record and returns what was stored. A
session has at most as many acknowledgements as elements. -/
def releaseEnabled (run : Run) : GatewayEvent → Prop
  | .session event => event.enabled run.gateway ∧ diskReady event ∧ withoutData event
  | .put _ _ data _ => data.accepted=true
  | .start _ _ => True
  | .ack _ => run.acked<run.emitted

/-- A boot from an accepted index page whose indexes are blocks of the ring in
order. -/
def OrderedStart (run : Run) : Prop :=
  ∃ card polls,pageValid card polls=true ∧ run=⟨bootGateway (memoryInit card polls),0,[]⟩ ∧
    1≤run.read ∧ run.read≤run.write ∧ run.write≤run.last

/-- The record was the last one accepted into the block, followed by `later`. -/
def LastAccepted (history : List BlockEvent) (block : ℕ) (record : Record)
    (later : List BlockEvent) : Prop :=
  ∃ earlier,history=earlier++.accepted block record::later ∧ ∀ newer,.accepted block newer∉later

/-- The last record accepted into the block, unless its checksum is wrong, was
emitted as an element after it was accepted. -/
def Presented (history : List BlockEvent) (block : ℕ) : Prop :=
  ∀ record later,LastAccepted history block record later → evaluateChecksum record=true →
    ∃ comma,.emitted block (jsonElement (some record.words) comma)∈later

/-- Every block was presented when the read index moved past it. -/
def ReleasedPresented (history : List BlockEvent) : Prop :=
  ∀ earlier block later,history=earlier++.released block::later → Presented earlier block

/-- Beyond the index page, the card holds the last record accepted into each
block. -/
def Retained (card : Card) (history : List BlockEvent) : Prop :=
  ∀ block record later,block≠0 → LastAccepted history block record later →
    (card.page block).record=record

/-! ## Histories that grow by one event -/

/-- Where an event stands in a history that has grown by one. -/
theorem snoc_eq_append_cons {α : Type} {xs ys zs : List α} {a b : α}
    (h : xs++[a]=ys++b::zs) : (zs=[] ∧ xs=ys ∧ a=b) ∨ ∃ zs',zs=zs'++[a] ∧ xs=ys++b::zs' := by
  rcases List.eq_nil_or_concat zs with rfl|⟨zs',c,rfl⟩
  · obtain ⟨hxs,hab⟩ := List.append_inj' h rfl
    exact .inl ⟨rfl,hxs,List.singleton_inj.mp hab⟩
  · rw [List.concat_eq_append,←List.cons_append,←List.append_assoc] at h
    obtain ⟨hxs,hac⟩ := List.append_inj' h rfl
    rw [List.singleton_inj.mp hac]
    exact .inr ⟨zs',List.concat_eq_append,hxs⟩

/-- The last accepted record of a grown history is the new event or was the
last one before. -/
theorem lastAccepted_snoc {history later : List BlockEvent} {event : BlockEvent} {block : ℕ}
    {record : Record} (h : LastAccepted (history++[event]) block record later) :
    (event=.accepted block record ∧ later=[]) ∨
      ∃ before,later=before++[event] ∧ LastAccepted history block record before ∧
        ∀ newer,event≠.accepted block newer := by
  obtain ⟨earlier,heq,hnewer⟩ := h
  rcases snoc_eq_append_cons heq with ⟨hlater,_,hevent⟩|⟨before,rfl,hhistory⟩
  · exact .inl ⟨hevent,hlater⟩
  · refine .inr ⟨before,rfl,⟨earlier,hhistory,fun newer hmem => ?_⟩,fun newer hevent => ?_⟩
    · exact hnewer newer (List.mem_append_left _ hmem)
    · refine hnewer newer (List.mem_append_right _ ?_)
      rw [hevent]
      exact List.mem_singleton_self _

/-- An event that accepts nothing into a block keeps it presented. -/
theorem Presented.snoc {history : List BlockEvent} {block : ℕ} (h : Presented history block)
    {event : BlockEvent} (hevent : ∀ record,event≠.accepted block record) :
    Presented (history++[event]) block := by
  intro record later hlast hvalid
  rcases lastAccepted_snoc hlast with ⟨haccepted,_⟩|⟨before,rfl,hbefore,_⟩
  · exact absurd haccepted (hevent record)
  · obtain ⟨comma,hmem⟩ := h record before hbefore hvalid
    exact ⟨comma,List.mem_append_left _ hmem⟩

/-- Emitting what the card retains presents the block. -/
theorem Retained.presented {card : Card} {history : List BlockEvent} {block : ℕ} {text : List Char}
    (h : Retained card history) (hblock : block≠0)
    (htext : evaluateChecksum (card.page block).record=true →
      ∃ comma,text=jsonElement (some (card.page block).record.words) comma) :
    Presented (history++[.emitted block text]) block := by
  intro record later hlast hvalid
  rcases lastAccepted_snoc hlast with ⟨hfalse,_⟩|⟨before,rfl,hbefore,_⟩
  · cases hfalse
  · rw [h block record before hblock hbefore] at htext
    obtain ⟨comma,rfl⟩ := htext hvalid
    exact ⟨comma,List.mem_append_right _ (List.mem_singleton_self _)⟩

/-- An event that accepts nothing keeps a card with the same blocks up to
date. -/
theorem Retained.snoc {card card' : Card} {history : List BlockEvent} (h : Retained card history)
    (hpage : ∀ block,block≠0 → card'.page block=card.page block) {event : BlockEvent}
    (hevent : ∀ block record,event≠.accepted block record) :
    Retained card' (history++[event]) := by
  intro block record later hblock hlast
  rcases lastAccepted_snoc hlast with ⟨haccepted,_⟩|⟨before,_,hbefore,_⟩
  · exact absurd haccepted (hevent block record)
  · rw [hpage block hblock]
    exact h block record before hblock hbefore

/-- An accepted record that was written keeps the card up to date. -/
theorem Retained.accept {card card' : Card} {history : List BlockEvent} {block : ℕ} {record : Record}
    (h : Retained card history) (hwritten : (card'.page block).record=record)
    (hpage : ∀ other,other≠0 → other≠block → card'.page other=card.page other) :
    Retained card' (history++[.accepted block record]) := by
  intro other record' later hother hlast
  rcases lastAccepted_snoc hlast with ⟨haccepted,_⟩|⟨before,_,hbefore,hnewer⟩
  · obtain ⟨rfl,rfl⟩ := BlockEvent.accepted.inj haccepted
    exact hwritten
  · have hne : other≠block := by
      rintro rfl
      exact hnewer record rfl
    rw [hpage other hother hne]
    exact h other record' before hother hbefore

/-- A release of a presented block keeps the history in order. -/
theorem ReleasedPresented.snoc {history : List BlockEvent} (h : ReleasedPresented history)
    {event : BlockEvent} (hevent : ∀ block,event=.released block → Presented history block) :
    ReleasedPresented (history++[event]) := by
  intro earlier block later heq
  rcases snoc_eq_append_cons heq with ⟨_,rfl,hreleased⟩|⟨before,_,hhistory⟩
  · exact hevent block hreleased
  · exact h earlier block before hhistory

/-! ## Elements started by a step -/

/-- A step that starts no element and leaves the session's index alone. -/
structure Quiet (g g' : Gateway) (more : List SessionAction) : Prop where
  /-- The log grows at its end. -/
  log_eq : g'.log=g.log++more
  /-- No element is started. -/
  none_started : ∀ a∈more,a.started=none
  /-- The store is left alone. -/
  store_eq : g'.store=g.store
  /-- The index of the next element stays the same. -/
  index_eq : g'.tcp.memOutputIndex=g.tcp.memOutputIndex

/-- Closing the connection is quiet. -/
theorem serverTcpCloseConn_quiet (closed : ErrT) (g : Gateway) :
    ∃ more,Quiet g (serverTcpCloseConn closed g) more := by
  unfold serverTcpCloseConn
  dsimp only
  split
  · exact ⟨[.close closed,.closeCallback],rfl,by simp [SessionAction.started],rfl,rfl⟩
  · exact ⟨[.close closed],rfl,by simp [SessionAction.started],rfl,rfl⟩

/-- Writes start no element. -/
theorem write_started {a : SessionAction} (h : a.isWrite=true) : a.started=none := by
  cases a with
  | element index sample comma => exact absurd h (by simp [SessionAction.isWrite])
  | _ => rfl

/-- Sending from the current block is quiet. -/
theorem serverCurrentTcpOut_quiet (replies : ℕ → TcpReply) (closed : ErrT) (g : Gateway) :
    ∃ more,Quiet g (serverCurrentTcpOut replies closed g).2 more := by
  have hcases := serverCurrentTcpOut_cases replies closed g
  generalize serverCurrentTcpOut replies closed g=result at hcases
  cases hcases with
  | empty hend => exact ⟨[],(List.append_nil _).symm,by simp,rfl,rfl⟩
  | sent writes len err hpos htried hwrites hqueued hlen =>
    exact ⟨writes,rfl,fun a ha => write_started (hwrites a ha),rfl,rfl⟩
  | failed writes hpos htried hwrites hqueued =>
    exact ⟨writes,rfl,fun a ha => write_started (hwrites a ha),rfl,rfl⟩
  | givenUp writes hpos htried hwrites hqueued =>
    obtain ⟨closing,hclosing⟩ := serverTcpCloseConn_quiet closed
      {g with tcp := {g.tcp with writeErr := g.tcp.writeErr+1},log := g.log++writes}
    refine ⟨writes++closing,?_,?_,hclosing.store_eq,hclosing.index_eq⟩
    · rw [hclosing.log_eq,List.append_assoc]
    · exact List.forall_mem_append.mpr
        ⟨fun a ha => write_started (hwrites a ha),hclosing.none_started⟩

/-- What a step of a session can do to the history: it starts no element, or
one, with what `get_sample` returns for the session's index. -/
structure Emission (g g' : Gateway) (ready : List UInt8 → Prop) (more : List SessionAction) :
    Prop where
  /-- The log grows at its end. -/
  log_eq : g'.log=g.log++more
  /-- The card is left alone. -/
  card_eq : g'.store.card=g.store.card
  /-- The indexes of the store are left alone. -/
  indexes_eq : g'.store.indexes=g.store.indexes
  /-- At most one element is started. -/
  elements : (∀ a∈more,a.started=none) ∨ ∃ before after comma polls,ready polls ∧
    more=before++.element g.tcp.memOutputIndex (getSample g.store g.tcp.memOutputIndex polls).1
      comma::after ∧ (∀ a∈before,a.started=none) ∧ ∀ a∈after,a.started=none

/-- Quiet steps start no element. -/
theorem Quiet.emission {g g' : Gateway} {more : List SessionAction} (h : Quiet g g' more)
    (ready : List UInt8 → Prop) : Emission g g' ready more :=
  ⟨h.log_eq,by rw [h.store_eq],by rw [h.store_eq],.inl h.none_started⟩

/-- A step that logs nothing and leaves the store alone starts no element. -/
theorem Emission.of_silent {g g' : Gateway} {ready : List UInt8 → Prop} (hlog : g'.log=g.log)
    (hstore : g'.store=g.store) : Emission g g' ready [] :=
  ⟨by rw [hlog,List.append_nil],by rw [hstore],by rw [hstore],.inl (by simp)⟩

/-- Selecting a block starts at most one element. -/
theorem selectBlock_emission (replies : OutputReplies) (g : Gateway) :
    ∃ more,Emission g (selectBlock replies g) (fun polls => polls=replies.polls) more := by
  cases hphase : g.tcp.outputPhase with
  | jsonData =>
    by_cases hmore : g.tcp.recordsIndex<g.tcp.recordsCount
    · have hstore := getSample_store g.store g.tcp.memOutputIndex replies.polls
      have hcard := congrArg Store.card hstore
      have hindexes := congrArg Store.indexes hstore
      simp only [selectBlock,hphase,if_pos hmore]
      exact ⟨[_],rfl,hcard,hindexes,.inr ⟨[],[],_,replies.polls,rfl,rfl,by simp,by simp⟩⟩
    · simp only [selectBlock,hphase,if_neg hmore]
      exact ⟨[],.of_silent rfl rfl⟩
  | close =>
    simp only [selectBlock,hphase]
    exact ⟨[.close replies.phaseClosed],rfl,rfl,rfl,.inl (by simp [SessionAction.started])⟩
  | _ =>
    simp only [selectBlock,hphase]
    exact ⟨[],.of_silent rfl rfl⟩

/-- A quiet step before adds nothing to the elements. -/
theorem Emission.after_quiet {g g' g'' : Gateway} {ready : List UInt8 → Prop}
    {first second : List SessionAction} (hfirst : Quiet g g' first)
    (hsecond : Emission g' g'' ready second) : Emission g g'' ready (first++second) := by
  refine ⟨?_,?_,?_,?_⟩
  · rw [hsecond.log_eq,hfirst.log_eq,List.append_assoc]
  · rw [hsecond.card_eq,hfirst.store_eq]
  · rw [hsecond.indexes_eq,hfirst.store_eq]
  · rcases hsecond.elements with hnone|⟨before,after,comma,polls,hready,rfl,hbefore,hafter⟩
    · exact .inl (List.forall_mem_append.mpr ⟨hfirst.none_started,hnone⟩)
    · refine .inr ⟨first++before,after,comma,polls,hready,?_,?_,hafter⟩
      · rw [←hfirst.index_eq,←hfirst.store_eq,List.append_assoc]
      · exact List.forall_mem_append.mpr ⟨hfirst.none_started,hbefore⟩

/-- A quiet step behind adds nothing to the elements. -/
theorem Emission.before_quiet {g g' g'' : Gateway} {ready : List UInt8 → Prop}
    {first second : List SessionAction} (hfirst : Emission g g' ready first)
    (hsecond : Quiet g' g'' second) : Emission g g'' ready (first++second) := by
  refine ⟨?_,?_,?_,?_⟩
  · rw [hsecond.log_eq,hfirst.log_eq,List.append_assoc]
  · rw [hsecond.store_eq,hfirst.card_eq]
  · rw [hsecond.store_eq,hfirst.indexes_eq]
  · rcases hfirst.elements with hnone|⟨before,after,comma,polls,hready,rfl,hbefore,hafter⟩
    · exact .inl (List.forall_mem_append.mpr ⟨hnone,hsecond.none_started⟩)
    · refine .inr ⟨before,after++second,comma,polls,hready,by simp,hbefore,?_⟩
      exact List.forall_mem_append.mpr ⟨hafter,hsecond.none_started⟩

/-- One call of `server_tcp_out` starts at most one element. -/
theorem serverTcpOut_emission (replies : OutputReplies) (g : Gateway) :
    ∃ more,Emission g (serverTcpOut replies g) (fun polls => polls=replies.polls) more := by
  unfold serverTcpOut
  by_cases hconnected : g.tcp.connected=true
  · obtain ⟨first,hfirst⟩ := serverCurrentTcpOut_quiet replies.current replies.currentClosed g
    rw [if_pos hconnected]
    dsimp only
    split
    · obtain ⟨chosen,hchosen⟩ := selectBlock_emission replies
        (serverCurrentTcpOut replies.current replies.currentClosed g).2
      obtain ⟨sent,hsent⟩ := serverCurrentTcpOut_quiet replies.selected replies.selectedClosed
        (selectBlock replies (serverCurrentTcpOut replies.current replies.currentClosed g).2)
      exact ⟨_,Emission.after_quiet hfirst (hchosen.before_quiet hsent)⟩
    · exact ⟨first,hfirst.emission _⟩
  · rw [if_neg hconnected]
    exact ⟨[],.of_silent rfl rfl⟩

/-- Every event of a session starts at most one element, read from a card
that answers. -/
theorem sessionStep_emission (g : Gateway) {event : SessionEvent} (hready : diskReady event)
    (hdata : withoutData event) :
    ∃ more,Emission g (sessionStep g event) (fun polls => cmd polls=0) more := by
  have hout : ∀ replies : OutputReplies,cmd replies.polls=0 →
      ∃ more,Emission g (serverTcpOut replies g) (fun polls => cmd polls=0) more := by
    intro replies hpolls
    obtain ⟨more,hlog,hcard,hindexes,helements⟩ := serverTcpOut_emission replies g
    refine ⟨more,hlog,hcard,hindexes,helements.imp_right ?_⟩
    rintro ⟨before,after,comma,polls,rfl,hmore,hquiet⟩
    exact ⟨before,after,comma,replies.polls,hpolls,hmore,hquiet⟩
  cases event with
  | service replies =>
    simp only [sessionStep,serverTcpService]
    split
    · exact hout replies hready
    · exact ⟨[],.of_silent rfl rfl⟩
  | connected =>
    simp only [sessionStep,serverTcpConnected]
    split
    · exact ⟨[],.of_silent rfl rfl⟩
    · exact ⟨[],.of_silent rfl rfl⟩
  | sent replies =>
    simp only [sessionStep,serverTcpSent]
    split
    · exact hout replies hready
    · exact ⟨[],.of_silent rfl rfl⟩
  | recv chain err closed pages =>
    obtain ⟨more,hclosed⟩ := serverTcpCloseConn_quiet closed g
    simp only [sessionStep,serverTcpRecv]
    split
    · exact ⟨more,hclosed.emission _⟩
    · split
      · exact ⟨more,hclosed.emission _⟩
      · rename_i herr
        rw [not_not] at herr
        subst herr
        exact absurd hdata id
  | err closed =>
    obtain ⟨more,hclosed⟩ := serverTcpCloseConn_quiet closed
      {g with tcp := {g.tcp with connected := false},log := g.log++[.errCallback]}
    have hnoticed : Quiet g
        {g with tcp := {g.tcp with connected := false},log := g.log++[.errCallback]} [.errCallback] :=
      ⟨rfl,by simp [SessionAction.started],rfl,rfl⟩
    simp only [sessionStep,serverTcpErr]
    split
    · exact ⟨_,Emission.after_quiet hnoticed (hclosed.emission _)⟩
    · exact ⟨_,hnoticed.emission _⟩

/-- An action that starts no element adds no event. -/
theorem elementEvent_of_started {a : SessionAction} (h : a.started=none) : elementEvent a=none := by
  cases a with
  | element index sample comma => cases h
  | _ => rfl

/-- Quiet actions add no event and no element. -/
theorem events_of_quiet {more : List SessionAction} (h : ∀ a∈more,a.started=none) :
    more.filterMap elementEvent=[] ∧ started more=[] :=
  ⟨List.filterMap_eq_nil_iff.mpr fun a ha => elementEvent_of_started (h a ha),
    List.filterMap_eq_nil_iff.mpr h⟩

/-- One element between quiet actions adds its event and one element. -/
theorem events_of_element {before after : List SessionAction} (hbefore : ∀ a∈before,a.started=none)
    (hafter : ∀ a∈after,a.started=none) (index : UInt32) (sample : Option Sample) (comma : Bool) :
    (before++.element index sample comma::after).filterMap elementEvent=
        [.emitted index.toNat (jsonElement sample comma)] ∧
      (started (before++.element index sample comma::after)).length=1 := by
  obtain ⟨hbeforeEvents,hbeforeElements⟩ := events_of_quiet hbefore
  obtain ⟨hafterEvents,hafterElements⟩ := events_of_quiet hafter
  constructor
  · rw [List.filterMap_append,hbeforeEvents,List.nil_append,←List.singleton_append,
      List.filterMap_append,hafterEvents]
    rfl
  · rw [started_append,hbeforeElements,List.nil_append,←List.singleton_append,started_append,
      hafterElements]
    rfl

/-! ## The invariant of a run -/

/-- Records of the current session. -/
def Run.count (run : Run) : ℕ := run.gateway.tcp.recordsCount.toNat

/-- A run whose current session started at block `first`. -/
structure Ordered (first : ℕ) (run : Run) : Prop where
  /-- The read index is a block of the ring. -/
  read_ring : 1≤run.read ∧ run.read≤run.last
  /-- The write index is a block of the ring. -/
  write_ring : 1≤run.write ∧ run.write≤run.last
  /-- Acknowledgements have moved the read index by plain increments. -/
  walked : first+run.acked=run.read
  /-- There are no more acknowledgements than elements. -/
  acked_le : run.acked≤run.emitted
  /-- The session ends inside the ring. -/
  inside : first+run.count≤run.last
  /-- The session lies before the write index, or the writer has wrapped and
  is still behind the read index. -/
  window : first+run.count≤run.write ∨ run.write<run.read
  /-- The session reads consecutive blocks from the first one on. -/
  stream : ∃ target start,Streaming target run.gateway.tcp.recordsCount start run.gateway ∧
    (0<run.count → start.toNat=first)
  /-- Blocks read by the session and not yet released are presented. -/
  presented : ∀ b,run.read≤b → b<first+run.emitted → Presented run.history b
  /-- The card holds what was accepted. -/
  retained : Retained run.gateway.store.card run.history
  /-- Releases so far were of presented blocks. -/
  releases : ReleasedPresented run.history

/-- A run in order, wherever its current session started. -/
def SessionOrdered (run : Run) : Prop := ∃ first,Ordered first run

/-- The session has started no more elements than it has records. -/
theorem Ordered.emitted_le {first : ℕ} {run : Run} (h : Ordered first run) :
    run.emitted≤run.count := by
  obtain ⟨target,start,hstream,_⟩ := h.stream
  exact hstream.started_le

/-- Blocks read and not yet released lie between the read and the write
index. -/
theorem Ordered.within {first b : ℕ} {run : Run} (h : Ordered first run) (hread : run.read≤b)
    (hb : b<first+run.emitted) : CyclicRing.Within run.read run.write b := by
  have hemitted := h.emitted_le
  have hwindow := h.window
  unfold CyclicRing.Within
  omega

/-- An accepted record does not go to a block between the read and the write
index. -/
theorem Ordered.put_outside {first : ℕ} {run : Run} (h : Ordered first run)
    (hroom : nextBlock run.gateway.store.card run.gateway.store.indexes.writeIndex≠
      run.gateway.store.indexes.readIndex) :
    ¬CyclicRing.Within run.read run.write (CyclicRing.next run.last run.write) := by
  refine CyclicRing.not_within_next h.read_ring.1 h.read_ring.2 h.write_ring.2 fun heq => hroom ?_
  rw [←UInt32.toNat_inj,nextBlock_toNat]
  exact heq

/-- The index the session reads next, as a number. -/
theorem Ordered.index_toNat {first : ℕ} {run : Run} (h : Ordered first run)
    (hmore : run.emitted<run.count) :
    run.gateway.tcp.memOutputIndex.toNat=first+run.emitted := by
  obtain ⟨target,start,hstream,hfirst⟩ := h.stream
  have hstart := hfirst (by omega)
  have hinside := h.inside
  have hcap := lastBlock_le run.gateway.store.card
  have hlast : run.last=lastBlock run.gateway.store.card := rfl
  have hemitted : run.emitted=(started run.gateway.log).length := rfl
  rw [hstream.index_eq,UInt32.toNat_add,hstart,←hemitted,UInt32.toNat_ofNat']
  omega

/-- A step of the session that leaves the store alone keeps a run ordered when
its history presents what the session has read. -/
theorem Ordered.advance {first : ℕ} {run run' : Run} (h : Ordered first run)
    (hstore : run'.gateway.store.card=run.gateway.store.card ∧
      run'.gateway.store.indexes=run.gateway.store.indexes)
    (hcount : run'.gateway.tcp.recordsCount=run.gateway.tcp.recordsCount)
    (hacked : run'.acked=run.acked) (hemitted : run.emitted≤run'.emitted)
    (hstream : ∀ target start,Streaming target run.gateway.tcp.recordsCount start run.gateway →
      Streaming target run.gateway.tcp.recordsCount start run'.gateway)
    (hpresented : ∀ b,run.read≤b → b<first+run'.emitted → Presented run'.history b)
    (hretained : Retained run.gateway.store.card run'.history)
    (hreleases : ReleasedPresented run'.history) : Ordered first run' := by
  have hread : run'.read=run.read := congrArg (fun i => i.readIndex.toNat) hstore.2
  have hwrite : run'.write=run.write := congrArg (fun i => i.writeIndex.toNat) hstore.2
  have hlast : run'.last=run.last := congrArg lastBlock hstore.1
  have hcounted : run'.count=run.count := congrArg UInt16.toNat hcount
  obtain ⟨target,start,hs,hfirst⟩ := h.stream
  constructor
  · rw [hread,hlast]
    exact h.read_ring
  · rw [hwrite,hlast]
    exact h.write_ring
  · rw [hread,hacked]
    exact h.walked
  · rw [hacked]
    exact h.acked_le.trans hemitted
  · rw [hcounted,hlast]
    exact h.inside
  · rw [hcounted,hread,hwrite]
    exact h.window
  · rw [hcounted,hcount]
    exact ⟨target,start,hstream target start hs,hfirst⟩
  · rw [hread]
    exact hpresented
  · rw [hstore.1]
    exact hretained
  · exact hreleases

/-- An event of the session keeps a run ordered. -/
theorem Ordered.session {first : ℕ} {run : Run} (h : Ordered first run) {event : SessionEvent}
    (hready : diskReady event) (hdata : withoutData event) :
    Ordered first (run.step (.session event)) := by
  obtain ⟨more,hemission⟩ := sessionStep_emission run.gateway hready hdata
  obtain ⟨target,start,hstream,_⟩ := h.stream
  have hcount : (sessionStep run.gateway event).tcp.recordsCount=run.gateway.tcp.recordsCount :=
    (hstream.event event).count_eq
  have hhistory : (run.step (.session event)).history=
      run.history++more.filterMap elementEvent := by
    change _++((sessionStep run.gateway event).log.drop run.gateway.log.length).filterMap _=_
    rw [hemission.log_eq,List.drop_left]
  have hstarted : (run.step (.session event)).emitted=run.emitted+(started more).length := by
    change (started (sessionStep run.gateway event).log).length=_
    rw [hemission.log_eq,started_append,List.length_append]
    rfl
  have hlimit : (run.step (.session event)).emitted≤run.count :=
    (hstream.event event).started_le
  have hadvance : _ → _ → _ → Ordered first (run.step (.session event)) :=
    h.advance ⟨hemission.card_eq,hemission.indexes_eq⟩ hcount rfl (by omega)
      fun target start hs => hs.event event
  rcases hemission.elements with hnone|⟨before,after,comma,polls,hpolls,rfl,hbefore,hafter⟩
  · obtain ⟨hnoEvents,hnoElements⟩ := events_of_quiet hnone
    rw [hnoElements,List.length_nil,Nat.add_zero] at hstarted
    rw [hnoEvents,List.append_nil] at hhistory
    rw [hhistory,hstarted] at hadvance
    exact hadvance h.presented h.retained h.releases
  · obtain ⟨hevent,hone⟩ := events_of_element hbefore hafter run.gateway.tcp.memOutputIndex
      (getSample run.gateway.store run.gateway.tcp.memOutputIndex polls).1 comma
    rw [hone] at hstarted
    have hindex := h.index_toNat (by omega)
    have hcap := lastBlock_le run.gateway.store.card
    have hlast : run.last=lastBlock run.gateway.store.card := rfl
    have hinside := h.inside
    have hwalked := h.walked
    have hacked := h.acked_le
    have hreadRing := h.read_ring
    rw [hevent,hindex] at hhistory
    rw [hhistory,hstarted] at hadvance
    refine hadvance ?_ ?_ ?_
    · intro b hread hb
      by_cases hnew : b=first+run.emitted
      · rw [hnew]
        refine h.retained.presented (by omega) fun hvalid => ⟨comma,?_⟩
        rw [getSample_of_ready _ (by omega) hpolls,hindex,if_pos hvalid]
      · exact (h.presented b hread (by omega)).snoc fun record hfalse => nomatch hfalse
    · exact h.retained.snoc (fun _ _ => rfl) fun block record hfalse => nomatch hfalse
    · exact h.releases.snoc fun block hfalse => nomatch hfalse

/-- A card that took the accepted record retains it along with the others. -/
theorem Retained.put {s : Store} {history : List BlockEvent} (h : Retained s.card history)
    (block : Record) (tc : UInt32) {data : WriteReply} (page : WriteReply)
    (hdata : data.accepted=true)
    (hroom : nextBlock s.card s.indexes.writeIndex≠s.indexes.readIndex) :
    Retained (putSample s block tc data page).2.card
      (history++[.accepted (nextBlock s.card s.indexes.writeIndex).toNat block]) := by
  have hpos := nextBlock_bounds s.card s.indexes.writeIndex
  refine h.accept ?_ fun other hother hne => ?_
  · rw [putSample_page block tc data page hroom hpos.1,diskWrite_card (by decide) hpos.2,if_pos hdata]
    dsimp only
    rw [Function.update_self,fillPage_record]
  · rw [putSample_page block tc data page hroom hother]
    exact diskWrite_page_of_ne _ _ _ _ hne

/-- A record accepted into the store keeps a run ordered. -/
theorem Ordered.put_accepted {first : ℕ} {run : Run} (h : Ordered first run) (block : Record)
    (tc : UInt32) {data : WriteReply} (page : WriteReply) (hdata : data.accepted=true)
    (hroom : nextBlock run.gateway.store.card run.gateway.store.indexes.writeIndex≠
      run.gateway.store.indexes.readIndex) :
    Ordered first (run.step (.put block tc data page)) := by
  have haccepts := (putSample_accepts_iff run.gateway.store block tc data page).mpr hroom
  have hindexes := putSample_indexes block tc data page hroom
  have hnext : (nextBlock run.gateway.store.card run.gateway.store.indexes.writeIndex).toNat=
      CyclicRing.next run.last run.write := nextBlock_toNat _ _
  have hread : (run.step (.put block tc data page)).read=run.read :=
    congrArg (fun i => i.readIndex.toNat) hindexes
  have hwrite : (run.step (.put block tc data page)).write=CyclicRing.next run.last run.write :=
    (congrArg (fun i => i.writeIndex.toNat) hindexes).trans hnext
  have hlast : (run.step (.put block tc data page)).last=run.last :=
    lastBlock_congr (putSample_sectors run.gateway.store block tc data page)
  have hcount : (run.step (.put block tc data page)).count=run.count := rfl
  have hhistory : (run.step (.put block tc data page)).history=run.history++
      [.accepted (nextBlock run.gateway.store.card run.gateway.store.indexes.writeIndex).toNat block] := by
    simp only [Run.step,stepEvents,haccepts,if_true,hindexes]
  have hreadRing := h.read_ring
  have hwriteRing := h.write_ring
  have hbounds := CyclicRing.next_bounds (hreadRing.1.trans hreadRing.2) run.write
  have houtside := h.put_outside hroom
  obtain ⟨target,start,hstream,hfirst⟩ := h.stream
  constructor
  · rw [hread,hlast]
    exact hreadRing
  · rw [hwrite,hlast]
    exact hbounds
  · rw [hread]
    exact h.walked
  · exact h.acked_le
  · rw [hlast]
    exact h.inside
  · have hwindow := h.window
    have hinside := h.inside
    have hwalked := h.walked
    have hacked := h.acked_le
    have hemitted := h.emitted_le
    rw [hwrite,hread,hcount]
    unfold CyclicRing.Within at houtside
    by_cases hend : run.write<run.last
    · rw [CyclicRing.next_of_lt hend] at houtside ⊢
      omega
    · rw [CyclicRing.next_of_le (by omega)] at houtside ⊢
      omega
  · exact ⟨target,start,hstream.congr ⟨_,_,_,rfl⟩ rfl rfl,hfirst⟩
  · rw [hread,hhistory]
    intro b hb hemitted
    refine (h.presented b hb hemitted).snoc fun record hfalse => houtside ?_
    rw [←hnext,(BlockEvent.accepted.inj hfalse).1]
    exact h.within hb hemitted
  · rw [hhistory]
    exact h.retained.put block tc page hdata hroom
  · rw [hhistory]
    exact h.releases.snoc fun block hfalse => nomatch hfalse

/-- A record offered to the store keeps a run ordered. -/
theorem Ordered.put {first : ℕ} {run : Run} (h : Ordered first run) (block : Record) (tc : UInt32)
    {data : WriteReply} (page : WriteReply) (hdata : data.accepted=true) :
    Ordered first (run.step (.put block tc data page)) := by
  by_cases hroom : nextBlock run.gateway.store.card run.gateway.store.indexes.writeIndex=
      run.gateway.store.indexes.readIndex
  · have hrefused := putSample_refused block tc data page hroom
    have hsame : run.step (.put block tc data page)=run := by
      simp only [Run.step,gatewayStep,stepAcked,stepEvents,hrefused,Bool.false_eq_true,if_false,
        List.append_nil]
    rw [hsame]
    exact h
  · exact h.put_accepted block tc page hdata hroom

/-- An acknowledgement within the session keeps a run ordered. -/
theorem Ordered.ack {first : ℕ} {run : Run} (h : Ordered first run) (page : WriteReply)
    (hacked : run.acked<run.emitted) : Ordered first (run.step (.ack page)) := by
  have hindexes := goodUploadDone_indexes run.gateway.store page
  have hnext := nextBlock_toNat run.gateway.store.card run.gateway.store.indexes.readIndex
  have hwalked := h.walked
  have hinside := h.inside
  have hemitted := h.emitted_le
  have hreadRing := h.read_ring
  have hwindow := h.window
  have hstep : CyclicRing.next run.last run.read=run.read+1 := CyclicRing.next_of_lt (by omega)
  have hread : (run.step (.ack page)).read=run.read+1 :=
    ((congrArg (fun i => i.readIndex.toNat) hindexes).trans hnext).trans hstep
  have hwrite : (run.step (.ack page)).write=run.write :=
    congrArg (fun i => i.writeIndex.toNat) hindexes
  have hlast : (run.step (.ack page)).last=run.last :=
    lastBlock_congr (goodUploadDone_sectors run.gateway.store page)
  have hackedStep : (run.step (.ack page)).acked=run.acked+1 := rfl
  have hcount : (run.step (.ack page)).count=run.count := rfl
  have hemittedStep : (run.step (.ack page)).emitted=run.emitted := rfl
  have hpresented := h.presented run.read (le_refl _) (by omega)
  obtain ⟨target,start,hstream,hfirst⟩ := h.stream
  constructor
  · rw [hread,hlast]
    omega
  · rw [hwrite,hlast]
    exact h.write_ring
  · rw [hread,hackedStep]
    omega
  · rw [hackedStep,hemittedStep]
    omega
  · rw [hlast]
    exact hinside
  · rw [hread,hwrite,hcount]
    omega
  · exact ⟨target,start,hstream.congr ⟨_,_,_,rfl⟩ rfl rfl,hfirst⟩
  · rw [hread]
    intro b hb hbemitted
    exact (h.presented b (by omega) hbemitted).snoc fun record hfalse => nomatch hfalse
  · exact h.retained.snoc (fun b hb => goodUploadDone_page run.gateway.store page hb)
      fun block record hfalse => nomatch hfalse
  · refine h.releases.snoc fun block hreleased => ?_
    rw [←BlockEvent.released.inj hreleased]
    exact hpresented

/-- A new session begins at the read index with nothing emitted. -/
theorem Ordered.start_session {first : ℕ} {run : Run} (h : Ordered first run) {tc : UInt32}
    (replies : InitReplies) (hcount : 0<getBlocksToRead run.gateway.store tc) :
    Ordered run.read (run.step (.start tc replies)) := by
  obtain ⟨hstore,hlog,htcp⟩ := serverTcpInit_state couchdbServer couchdbIp 5984
    (getCurrentReadBlock run.gateway.store) true replies run.gateway hcount
  have hgateway : (run.step (.start tc replies)).gateway.store=run.gateway.store ∧
      (run.step (.start tc replies)).gateway.log=[] ∧
      (run.step (.start tc replies)).gateway.tcp=clearedState couchdbServer couchdbIp 5984
        (getCurrentReadBlock run.gateway.store) (getBlocksToRead run.gateway.store tc) true
        replies.created := by
    simp only [Run.step,gatewayStep,couchdbStartUpload]
    split <;> exact ⟨hstore,hlog,htcp⟩
  obtain ⟨hstore',hlog',htcp'⟩ := hgateway
  have hacked : (run.step (.start tc replies)).acked=0 := if_pos hcount
  have hemitted : (run.step (.start tc replies)).emitted=0 := by
    rw [Run.emitted,hlog']
    rfl
  have hhistory : (run.step (.start tc replies)).history=run.history := List.append_nil _
  have hread : (run.step (.start tc replies)).read=run.read := by rw [Run.read,hstore']; rfl
  have hwrite : (run.step (.start tc replies)).write=run.write := by rw [Run.write,hstore']; rfl
  have hlast : (run.step (.start tc replies)).last=run.last := by rw [Run.last,hstore']; rfl
  have hrecords : (run.step (.start tc replies)).count=
      (getBlocksToRead run.gateway.store tc).toNat := by rw [Run.count,htcp']; rfl
  have hreadRing := h.read_ring
  have hwriteRing := h.write_ring
  have hcap := lastBlock_le run.gateway.store.card
  have hlastBlock : run.last=lastBlock run.gateway.store.card := rfl
  have hreadIndex : run.read=run.gateway.store.indexes.readIndex.toNat := rfl
  have hwriteIndex : run.write=run.gateway.store.indexes.writeIndex.toNat := rfl
  have hoffer : run.read+(getBlocksToRead run.gateway.store tc).toNat≤run.write := by
    refine getBlocksToRead_bound (by omega) (by omega) fun hzero => ?_
    rw [hzero] at hcount
    exact absurd hcount (by decide)
  constructor
  · rw [hread,hlast]
    exact hreadRing
  · rw [hwrite,hlast]
    exact hwriteRing
  · rw [hread,hacked]
    rfl
  · rw [hacked]
    exact Nat.zero_le _
  · rw [hrecords,hlast]
    omega
  · rw [hrecords,hwrite]
    exact .inl hoffer
  · have hcount' : (run.step (.start tc replies)).gateway.tcp.recordsCount=
        getBlocksToRead run.gateway.store tc := by rw [htcp']; rfl
    rw [hcount']
    exact ⟨couchdbServer,getCurrentReadBlock run.gateway.store,streaming_cleared hlog' htcp',
      fun _ => rfl⟩
  · rw [hemitted,hread]
    intro b hb hbfirst
    omega
  · rw [hstore',hhistory]
    exact h.retained
  · rw [hhistory]
    exact h.releases

/-- Starting an upload keeps a run ordered. Without records to send the
current session goes on. -/
theorem Ordered.start {first : ℕ} {run : Run} (h : Ordered first run) (tc : UInt32)
    (replies : InitReplies) : SessionOrdered (run.step (.start tc replies)) := by
  by_cases hcount : 0<getBlocksToRead run.gateway.store tc
  · exact ⟨run.read,h.start_session replies hcount⟩
  · have hrefused : run.step (.start tc replies)=
        ⟨{run.gateway with upload := uploadEnd run.gateway.upload},run.acked,run.history⟩ := by
      simp [Run.step,gatewayStep,stepAcked,stepEvents,couchdbStartUpload,serverTcpInit,hcount]
    rw [hrefused]
    refine ⟨first,h.advance ⟨rfl,rfl⟩ rfl rfl (le_refl _) ?_ h.presented h.retained h.releases⟩
    exact fun target start hs => hs.congr ⟨_,_,_,rfl⟩ rfl rfl

/-- A booted gateway has no session and an empty history. -/
theorem ordered_start {run : Run} (h : OrderedStart run) : Ordered run.read run := by
  obtain ⟨card,polls,_,rfl,hread,hle,hwrite⟩ := h
  refine ⟨⟨hread,hle.trans hwrite⟩,⟨hread.trans hle,hwrite⟩,rfl,le_refl _,hle.trans hwrite,
    .inl hle,⟨couchdbServer,0,streaming_cleared rfl rfl,fun hfalse => absurd hfalse (Nat.lt_irrefl 0)⟩,
    ?_,?_,?_⟩
  · intro b hb hfirst
    change b<_+0 at hfirst
    omega
  · rintro block record later _ ⟨earlier,hfalse,_⟩
    simp at hfalse
  · intro earlier block later hfalse
    simp at hfalse

/-- Whenever the read index has moved past a block, the last record accepted
into it, if its checksum is right, was emitted as an element read from that
block after it was accepted; and no record is ever accepted into a block
between the read and the write index. -/
theorem released_after_emission {run : Run}
    (h : Reachable OrderedStart (stepOf releaseEnabled Run.step) run) :
    ReleasedPresented run.history ∧
      ∀ block tc data page,
        (putSample run.gateway.store block tc data page).1=true →
        ¬CyclicRing.Within run.read run.write
          (putSample run.gateway.store block tc data page).2.indexes.writeIndex.toNat := by
  have hinv : SessionOrdered run := by
    refine h.invariant_stepOf (fun run hrun => ⟨run.read,ordered_start hrun⟩) ?_
    rintro run (event|⟨block,tc,data,page⟩|⟨tc,replies⟩|page) ⟨first,hrun⟩ henabled
    · exact ⟨first,hrun.session henabled.2.1 henabled.2.2⟩
    · exact ⟨first,hrun.put block tc page henabled⟩
    · exact hrun.start tc replies
    · exact ⟨first,hrun.ack page henabled⟩
  obtain ⟨first,hrun⟩ := hinv
  refine ⟨hrun.releases,fun block tc data page haccepted => ?_⟩
  have hroom := (putSample_accepts_iff run.gateway.store block tc data page).mp haccepted
  rw [putSample_indexes block tc data page hroom]
  dsimp only
  rw [nextBlock_toNat]
  exact hrun.put_outside hroom

/-- A record of zeros with its checksum. -/
def zeroRecord : Record := ⟨List.replicate 20 0x00++[0x8D,0x9B,0xD5,0x0F],rfl⟩

/-- A card of eleven sectors with both indexes at block one. -/
def bootedRun : Run := ⟨bootGateway (memoryInit (formattedCard 11 ⟨1,1⟩) [0x00]),0,[]⟩

/-- The same gateway after two records went to blocks two and three. -/
def storedRun : Run :=
  (bootedRun.step (.put zeroRecord 5 .good .good)).step (.put zeroRecord 5 .good .good)

/-- A session for blocks one and two was started and connected. -/
def connectedRun : Run :=
  (storedRun.step (.start 10 ⟨true,fun _ => .ok,.ok⟩)).step (.session .connected)

/-- The main loop has run four times, which starts both elements. -/
def emittedRun : Run :=
  (((connectedRun.step (.session (.service promptReplies))).step
    (.session (.service promptReplies))).step (.session (.service promptReplies))).step
      (.session (.service promptReplies))

/-- Both elements were acknowledged. -/
def releasedRun : Run := (emittedRun.step (.ack .good)).step (.ack .good)

/-- Block two was released with its record, and only after the record was
emitted. -/
theorem released_after_emission_two :
    evaluateChecksum zeroRecord=true ∧ releasedRun.read=3 ∧ ReleasedPresented releasedRun.history ∧
      ∀ block tc data page,
        (putSample releasedRun.gateway.store block tc data page).1=true →
        ¬CyclicRing.Within releasedRun.read releasedRun.write
          (putSample releasedRun.gateway.store block tc data page).2.indexes.writeIndex.toNat := by
  have hboot : OrderedStart bootedRun :=
    ⟨formattedCard 11 ⟨1,1⟩,[0x00],by decide,rfl,by decide,by decide,by decide⟩
  have hbooted : Reachable OrderedStart (stepOf releaseEnabled Run.step) bootedRun := .initial hboot
  have hstored : Reachable OrderedStart (stepOf releaseEnabled Run.step) storedRun :=
    (hbooted.taken (.put zeroRecord 5 .good .good) rfl).taken (.put zeroRecord 5 .good .good) rfl
  have hconnected : Reachable OrderedStart (stepOf releaseEnabled Run.step) connectedRun :=
    (hstored.taken (.start 10 ⟨true,fun _ => .ok,.ok⟩) trivial).taken (.session .connected)
      ⟨trivial,trivial,trivial⟩
  have htick : ∀ run : Run,releaseEnabled run (.session (.service promptReplies)) :=
    fun run => ⟨trivial,(by decide : cmd [0x00]=0),trivial⟩
  have hemitted : Reachable OrderedStart (stepOf releaseEnabled Run.step) emittedRun :=
    (((hconnected.taken _ (htick _)).taken _ (htick _)).taken _ (htick _)).taken _ (htick _)
  -- the whole run is evaluated once, for all that is read off its end
  have hend : (emittedRun.acked<emittedRun.emitted ∧
      (emittedRun.step (.ack .good)).acked<(emittedRun.step (.ack .good)).emitted) ∧
      releasedRun.read=3 := by decide +kernel
  have hfirst : releaseEnabled emittedRun (.ack .good) := hend.1.1
  have hsecond : releaseEnabled (emittedRun.step (.ack .good)) (.ack .good) := hend.1.2
  have hreleased := (hemitted.taken _ hfirst).taken _ hsecond
  exact ⟨by decide +kernel,hend.2,released_after_emission hreleased⟩

end VlfGateway.ReleaseOrder
