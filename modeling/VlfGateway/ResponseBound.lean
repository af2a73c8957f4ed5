import VlfGateway.ServerTcp

/-!
# Releases a response can cause

The server's response reaches the parser in buffers of any size, and every
identifier found in it moves the read index one block on. Nothing relates the
number of identifiers to the number of records the session has sent, so the
read index stays behind the write index exactly when the response itself
names no more identifiers than there are blocks to release.
-/

namespace VlfGateway.ResponseBound

open GreedyMatcher HttpReceive MemoryStore SdCard ServerTcp

/-- One call of `server_tcp_recv` with data. -/
structure Delivery where
  /-- Payloads of the chain of buffers. -/
  chain : List (List UInt8)
  /-- The card's answers to index page writes during the call. -/
  pages : ℕ → WriteReply

/-- The gateway after a sequence of deliveries, and the number of
`good_upload_done` calls they made. -/
def receive (g : Gateway) : List Delivery → Gateway × ℕ
  | [] => (g,0)
  | delivery::rest =>
    let after := receive (serverTcpRecv (some delivery.chain) .ok .ok delivery.pages g) rest
    (after.1,(parseChain delivery.pages g.parser g.store delivery.chain).2.2+after.2)

/-- All octets received, in order. -/
def response (deliveries : List Delivery) : List UInt8 :=
  deliveries.flatMap fun delivery => delivery.chain.flatten

/-- A number of calls of `good_upload_done` walks the read index along the
ring and touches neither the write index nor the size of the card. -/
theorem goodUploadDoneWith_iterate (pages : ℕ → WriteReply) (s : Store) (k : ℕ) :
    ((goodUploadDoneWith pages)^[k] (s,0)).2=k ∧
      ((goodUploadDoneWith pages)^[k] (s,0)).1.indexes=
        ⟨s.indexes.writeIndex,(nextBlock s.card)^[k] s.indexes.readIndex⟩ ∧
      ((goodUploadDoneWith pages)^[k] (s,0)).1.card.sectors=s.card.sectors := by
  induction k with
  | zero => exact ⟨rfl,rfl,rfl⟩
  | succ k ih =>
    obtain ⟨hcalls,hindexes,hsectors⟩ := ih
    rw [Function.iterate_succ_apply',Function.iterate_succ_apply']
    unfold goodUploadDoneWith
    dsimp only
    rw [goodUploadDone_indexes,goodUploadDone_sectors]
    unfold goodUploadDoneWith at hcalls hindexes hsectors
    rw [hcalls,hindexes,hsectors,nextBlock_congr hsectors]
    exact ⟨rfl,rfl,rfl⟩

/-- A chain of buffers is parsed as one buffer, whatever the boundaries. -/
theorem parseChain_eq (pages : ℕ → WriteReply) {parser : Parser} (s : Store)
    (chain : List (List UInt8)) (hi : parser.goodIndex<good.length) :
    (parseChain pages parser s chain).1.goodIndex=
        chain.flatten.foldl (nextIndex good) parser.goodIndex ∧
      (parseChain pages parser s chain).2=
        (goodUploadDoneWith pages)^[streamCount good parser.goodIndex chain.flatten] (s,0) := by
  have hone : parseChain pages parser s chain=
      parseHttpResponseBuffer (goodUploadDoneWith pages) parser (s,0) chain.flatten :=
    parseHttpResponse_flatten (goodUploadDoneWith pages) chain parser (s,0)
  rw [hone]
  exact parseHttpResponseBuffer_eq (goodUploadDoneWith pages) chain.flatten parser (s,0) hi

/-- Over any deliveries the calls are the matches of the stream, and the read
index has moved by that many blocks. -/
theorem receive_eq (deliveries : List Delivery) :
    ∀ g : Gateway,g.parser.goodIndex<good.length →
      (receive g deliveries).2=streamCount good g.parser.goodIndex (response deliveries) ∧
      (receive g deliveries).1.store.indexes=
        ⟨g.store.indexes.writeIndex,
          (nextBlock g.store.card)^[(receive g deliveries).2] g.store.indexes.readIndex⟩ := by
  induction deliveries with
  | nil => exact fun g _ => ⟨rfl,rfl⟩
  | cons delivery rest ih =>
    intro g hi
    obtain ⟨hindex,hstore⟩ := parseChain_eq delivery.pages g.store delivery.chain hi
    obtain ⟨hcalls,hindexes,hsectors⟩ := goodUploadDoneWith_iterate delivery.pages g.store
      (streamCount good g.parser.goodIndex delivery.chain.flatten)
    have hnext : (serverTcpRecv (some delivery.chain) .ok .ok delivery.pages g).parser.goodIndex<
        good.length := by
      change (parseChain delivery.pages g.parser g.store delivery.chain).1.goodIndex<_
      rw [hindex]
      exact foldl_nextIndex_lt (by decide) _ _ hi
    obtain ⟨hrest,hrestIndexes⟩ := ih _ hnext
    rw [←hstore] at hcalls hindexes hsectors
    have hgoal : (receive g (delivery::rest)).2=
        streamCount good g.parser.goodIndex delivery.chain.flatten+
          (receive (serverTcpRecv (some delivery.chain) .ok .ok delivery.pages g) rest).2 := by
      rw [receive]
      dsimp only
      rw [hcalls]
    have hresponse : response (delivery::rest)=delivery.chain.flatten++response rest :=
      List.flatMap_cons
    constructor
    · rw [hgoal,hrest,hresponse,streamCount_append,←hindex]
      rfl
    · rw [hgoal,receive]
      dsimp only
      rw [hrestIndexes]
      change MemoryIndexes.mk (parseChain _ _ _ _).2.1.indexes.writeIndex
        ((nextBlock (parseChain _ _ _ _).2.1.card)^[_]
          (parseChain _ _ _ _).2.1.indexes.readIndex)=_
      rw [hindexes,nextBlock_congr hsectors,←Function.iterate_add_apply,Nat.add_comm]

/-- A session whose connection was opened by lwIP. -/
def connectedUpload (tc : UInt32) (g : Gateway) : Gateway :=
  serverTcpConnected (couchdbStartUpload tc ⟨true,fun _ => .ok,.ok⟩ g)

/-- A connected session starts with a fresh parser and the store as it was. -/
theorem connectedUpload_fresh {tc : UInt32} {g : Gateway} (hpos : 0<getBlocksToRead g.store tc) :
    (connectedUpload tc g).parser=resetHttpResponseParser ∧ (connectedUpload tc g).store=g.store ∧
      (connectedUpload tc g).tcp.recordsCount=getBlocksToRead g.store tc := by
  have haccepted := serverTcpInit_accepted couchdbServer couchdbIp 5984
    (getCurrentReadBlock g.store) true g hpos (rfl : InitReplies.created ⟨true,fun _ => .ok,.ok⟩=true)
    rfl
  unfold connectedUpload couchdbStartUpload
  rw [haccepted]
  exact ⟨rfl,rfl,rfl⟩

/-- Walking never starts a step at the target exactly when the walk is no
longer than the least number of steps that reaches it. -/
theorem walk_avoids_iff {α : Type} (f : α → α) (a b : α) (n : ℕ) :
    (∀ k<n,f^[k] a≠b) ↔ ∀ d,IsLeast {k | f^[k] a=b} d → n≤d := by
  constructor
  · intro h d hd
    by_contra hlt
    exact h d (by omega) hd.1
  · intro h k hk hreach
    classical
    have hex : ∃ k,f^[k] a=b := ⟨k,hreach⟩
    have hleast : IsLeast {k | f^[k] a=b} (Nat.find hex) :=
      ⟨Nat.find_spec hex,fun m hm => Nat.find_min' hex hm⟩
    have hle := h _ hleast
    have hmin := Nat.find_min' hex hreach
    omega

/-- A session for blocks inside the ring sends no more records than there are
steps to the write index. -/
theorem offer_le_steps {s : Store} {tc : UInt32} (hpos : 0<getBlocksToRead s tc)
    (hr : 1 ≤ s.indexes.readIndex.toNat) (hle : s.indexes.readIndex ≤ s.indexes.writeIndex)
    (hw : s.indexes.writeIndex.toNat≤lastBlock s.card) {d : ℕ}
    (hd : IsLeast {k | (nextBlock s.card)^[k] s.indexes.readIndex=s.indexes.writeIndex} d) :
    (getBlocksToRead s tc).toNat≤d := by
  have hrw := UInt32.le_iff_toNat_le.mp hle
  have hcap := lastBlock_le s.card
  have hne : getBlocksToRead s tc≠0 := by
    intro h0
    rw [h0] at hpos
    exact absurd hpos (by decide)
  have hoffer := getBlocksToRead_bound (by omega) (by omega) hne
  have hreach : (CyclicRing.next (lastBlock s.card))^[d] s.indexes.readIndex.toNat=
      s.indexes.writeIndex.toNat := by
    rw [←iterate_nextBlock_toNat]
    exact congrArg UInt32.toNat hd.1
  have hdistance := CyclicRing.distance_le_of_iterate hr (by omega) hw hreach
  unfold CyclicRing.distance at hdistance
  rw [if_pos hrw] at hdistance
  omega

/-- The calls made by a session stay within the number of records it sends,
and none is made with the read index at the write index, exactly when the
response names no more identifiers than that number and no more than the
`next_block` steps to the write index. Inside the ring the first bound gives
the second. -/
theorem response_bounded_iff {tc : UInt32} {g : Gateway} (hpos : 0<getBlocksToRead g.store tc)
    (deliveries : List Delivery) :
    (receive (connectedUpload tc g) deliveries).1.store.indexes=
      ⟨g.store.indexes.writeIndex,(nextBlock g.store.card)^[
        (receive (connectedUpload tc g) deliveries).2] g.store.indexes.readIndex⟩ ∧
    (((receive (connectedUpload tc g) deliveries).2≤(getBlocksToRead g.store tc).toNat ∧
      ∀ k<(receive (connectedUpload tc g) deliveries).2,
        (nextBlock g.store.card)^[k] g.store.indexes.readIndex≠g.store.indexes.writeIndex) ↔
      identifiers (response deliveries)≤(getBlocksToRead g.store tc).toNat ∧
      ∀ d,IsLeast {k | (nextBlock g.store.card)^[k] g.store.indexes.readIndex=
        g.store.indexes.writeIndex} d → identifiers (response deliveries)≤d) ∧
    (1≤g.store.indexes.readIndex.toNat → g.store.indexes.readIndex≤g.store.indexes.writeIndex →
      g.store.indexes.writeIndex.toNat≤lastBlock g.store.card →
      ∀ d,IsLeast {k | (nextBlock g.store.card)^[k] g.store.indexes.readIndex=
        g.store.indexes.writeIndex} d → (getBlocksToRead g.store tc).toNat≤d) := by
  obtain ⟨hparser,hstore,_⟩ := connectedUpload_fresh hpos
  have hindex : (connectedUpload tc g).parser.goodIndex=0 := by
    rw [hparser]
    rfl
  obtain ⟨hcalls,hindexes⟩ := receive_eq deliveries (connectedUpload tc g)
    (by rw [hindex]; decide)
  rw [hstore] at hindexes
  have hcount : (receive (connectedUpload tc g) deliveries).2=identifiers (response deliveries) := by
    rw [hcalls,hindex]
    exact streamCount_eq_scanCount (by decide) _
  refine ⟨hindexes,?_,fun hr hle hw d hd => offer_le_steps hpos hr hle hw hd⟩
  rw [hcount,walk_avoids_iff]

/-- The gateway after a boot from a card whose index page names the given
indexes. -/
def bootedGateway (sectors : UInt64) (indexes : MemoryIndexes) : Gateway :=
  bootGateway (memoryInit (formattedCard sectors indexes) [0x00])

/-- A response with two identifiers, cut in the middle of the second. -/
def twoIdentifiers : List Delivery :=
  [⟨[cString "[\x7b\"id\":\"a\"\x7d,\x7b\"i",cString "d\":\"b\"\x7d]"],fun _ => .good⟩]

/-- The cut does not hide the second identifier. -/
theorem identifiers_twoIdentifiers : identifiers (response twoIdentifiers)=2 := by
  rw [identifiers,←streamCount_eq_scanCount (by decide)]
  decide

/-- With two records to send the response stays within the bounds. -/
theorem response_bounded_two :
    (receive (connectedUpload 5 (bootedGateway 11 ⟨3,1⟩)) twoIdentifiers).2≤
        (getBlocksToRead (bootedGateway 11 ⟨3,1⟩).store 5).toNat ∧
      ∀ k<(receive (connectedUpload 5 (bootedGateway 11 ⟨3,1⟩)) twoIdentifiers).2,
        (nextBlock (bootedGateway 11 ⟨3,1⟩).store.card)^[k]
          (bootedGateway 11 ⟨3,1⟩).store.indexes.readIndex≠
            (bootedGateway 11 ⟨3,1⟩).store.indexes.writeIndex := by
  refine ((response_bounded_iff (by decide) twoIdentifiers).2.1).mpr ?_
  rw [identifiers_twoIdentifiers,←walk_avoids_iff]
  decide

/-- With one record to send, the same response makes two calls and takes the
read index past the write index. -/
theorem response_passes_write :
    (getBlocksToRead (bootedGateway 11 ⟨2,1⟩).store 5).toNat=1 ∧
      (receive (connectedUpload 5 (bootedGateway 11 ⟨2,1⟩)) twoIdentifiers).2=2 ∧
      (receive (connectedUpload 5 (bootedGateway 11 ⟨2,1⟩)) twoIdentifiers).1.store.indexes=⟨2,3⟩ := by
  decide +kernel

end VlfGateway.ResponseBound
