import VlfGateway.StoreLedger

/-!
# When the store refuses and what it overwrites

`put_sample` compares the next block with the read index and nothing else.
A refusal therefore means that the ring is full only while the read index
stays behind the write index, and a write is harmless only while the read
index is a block that the write index can reach. Both results are about
every run of calls and name the step at which the argument is lost.
-/

namespace VlfGateway.StoreCapacity

open RecordChecksum SdCard MemoryStore StoreLedger StepPath

/-! ## Refusals -/

/-- Blocks described by an index page: from the read index, or block one, up
to the write index. -/
def storedBlocks (s : Store) : List ℕ :=
  List.range' (max 1 s.indexes.readIndex.toNat)
    (s.indexes.writeIndex.toNat+1-max 1 s.indexes.readIndex.toNat)

/-- A boot on a ring of at least two blocks from a rejected index page, or
from an accepted one with the read index not beyond the write index. The
blocks an accepted page describes hold records from before. -/
def OrderedBoot (l : Ledger) : Prop :=
  ∃ card polls,2≤lastBlock card ∧
    ((pageValid card polls=false ∧ l=Ledger.boot (memoryInit card polls) []) ∨
      (pageValid card polls=true ∧ l.read≤l.write ∧ l.write≤l.last ∧
        l=Ledger.boot (memoryInit card polls) (storedBlocks (memoryInit card polls))))

/-- Records at any time, a session only after the previous one is complete,
and one acknowledgement for each record offered. -/
def completeEnabled (l : Ledger) : StoreCall → Prop
  | .put _ _ _ _ => True
  | .start _ => l.acked=l.offered
  | .ack _ => l.acked<l.offered

instance (l : Ledger) : (c : StoreCall) → Decidable (completeEnabled l c)
  | .put _ _ _ _ => inferInstanceAs (Decidable True)
  | .start _ => inferInstanceAs (Decidable (_=_))
  | .ack _ => inferInstanceAs (Decidable (_<_))

/-- A record offered in this state is refused only when every block of the
ring holds a record that was accepted and not passed. -/
def RefusesOnlyFull (l : Ledger) : Prop :=
  ∀ block tc data page,(putSample l.store block tc data page).1=false →
    ∀ b,1≤b → b≤l.last → b∈l.held

/-- The call is not an acknowledgement made while the indexes are equal. -/
def AckBehind (l : Ledger) : StoreCall → Prop
  | .put _ _ _ _ => True
  | .start _ => True
  | .ack _ => l.store.indexes.readIndex≠l.store.indexes.writeIndex

/-- Refusal is decided by the ring successor alone. -/
theorem refusesOnlyFull_iff (l : Ledger) :
    RefusesOnlyFull l ↔
      (CyclicRing.next l.last l.write=l.read → ∀ b,1≤b → b≤l.last → b∈l.held) := by
  have hfalse : ∀ block tc data page,(putSample l.store block tc data page).1=false ↔
      CyclicRing.next l.last l.write=l.read := by
    intro block tc data page
    rw [←Bool.not_eq_true,putSample_accepts_iff,accepts_iff,not_not]
  constructor
  · intro h hn
    exact h Record.blank 0 .good .good ((hfalse _ _ _ _).mpr hn)
  · intro h block tc data page hr
    exact h ((hfalse _ _ _ _).mp hr)

/-- History that explains a full ring: once the read index is in the ring,
all blocks from it to the write index are held; before that, all blocks up to
the write index are. -/
structure Covered (l : Ledger) : Prop where
  /-- The ring has at least two blocks. -/
  ring : 2≤l.last
  /-- The read index is in the ring, or zero or invalid and never moved. -/
  read : l.read≤l.last ∨ l.read=2^32-1
  /-- The write index is in the ring, or nothing was ever written. -/
  write : (1≤l.write ∧ l.write≤l.last) ∨ (l.write=l.read ∧ (l.read=0 ∨ l.read=2^32-1))
  /-- An open offer was made from a store that had been written. -/
  open_offer : l.acked<l.offered → 1≤l.write ∧ l.write≤l.last
  /-- Held blocks once the read index is in the ring. -/
  arc : 1≤l.read → l.read≤l.last → ∀ b,1≤b → b≤l.last → CyclicRing.Within l.read l.write b →
    b∈l.held
  /-- Held blocks while the read index is still outside the ring. -/
  front : ¬(1≤l.read ∧ l.read≤l.last) → l.write≤l.last → ∀ b,1≤b → b≤l.write → b∈l.held

/-- A covered store refuses only when it is full. -/
theorem Covered.refusesOnlyFull {l : Ledger} (h : Covered l) : RefusesOnlyFull l := by
  rw [refusesOnlyFull_iff]
  intro hn b hb hbM
  have hring := h.ring
  have hbound := CyclicRing.next_bounds (by omega : 1≤l.last) l.write
  have hw : l.write≤l.last := by
    rcases h.write with hw|⟨he,h0|h0⟩
    · exact hw.2
    · omega
    · omega
  exact h.arc (by omega) (by omega) b hb hbM (CyclicRing.within_of_next_eq hw hb hbM hn)

/-- Every permitted boot is covered. -/
theorem covered_boot {l : Ledger} (h : OrderedBoot l) : Covered l := by
  obtain ⟨card,polls,hM,hboot⟩ := h
  have hcard := memoryInit_card card polls
  rcases hboot with ⟨hpage,rfl⟩|⟨-,hle,hwM,hl⟩
  · have hi := memoryInit_of_invalid hpage
    have hlast : (Ledger.boot (memoryInit card polls) []).last=lastBlock card := by
      unfold Ledger.last Ledger.boot
      rw [hcard]
    have hread : (Ledger.boot (memoryInit card polls) []).read=2^32-1 := by
      unfold Ledger.read Ledger.boot
      rw [hi]
      rfl
    have hwrite : (Ledger.boot (memoryInit card polls) []).write=2^32-1 := by
      unfold Ledger.write Ledger.boot
      rw [hi]
      rfl
    have hcap := lastBlock_le card
    refine ⟨by omega,Or.inr hread,Or.inr ⟨by omega,Or.inr hread⟩,?_,?_,?_⟩
    · exact fun h => absurd h (Nat.lt_irrefl 0)
    · intro _ h
      omega
    · intro _ h
      omega
  · have hlast : l.last=lastBlock card := by
      rw [hl]
      unfold Ledger.last Ledger.boot
      rw [hcard]
    have hheld : l.held=List.range' (max 1 l.read) (l.write+1-max 1 l.read) := by
      rw [hl]
      rfl
    have hsession : ¬l.acked<l.offered := by
      rw [hl]
      exact Nat.lt_irrefl 0
    refine ⟨by omega,Or.inl (by omega),?_,fun h => absurd h hsession,?_,?_⟩
    · by_cases h0 : l.write=0
      · exact Or.inr ⟨by omega,Or.inl (by omega)⟩
      · exact Or.inl ⟨by omega,hwM⟩
    · intro _ _ b _ _ harc
      unfold CyclicRing.Within at harc
      rw [hheld,List.mem_range'_1]
      omega
    · intro _ _ b _ _
      rw [hheld,List.mem_range'_1]
      omega

/-- A record, accepted or refused, keeps the store covered. -/
theorem covered_put {l : Ledger} (h : Covered l) (block : Record) (tc : UInt32)
    (data page : WriteReply) : Covered (l.call (.put block tc data page)) := by
  by_cases hn : CyclicRing.next l.last l.write=l.read
  · rw [call_put_refused block tc data page hn]
    exact h
  · obtain ⟨hring,hr,hw,hopen,harc,hfront⟩ := h
    have hcap : l.last≤0x007FFFFF := lastBlock_le l.store.card
    have hb := CyclicRing.next_bounds (by omega : 1≤l.last) l.write
    have e := call_put_accepted block tc data page hn
    refine ⟨by rw [e.last]; exact hring,by rw [e.read,e.last]; exact hr,
      by rw [e.write,e.last]; exact Or.inl hb,by rw [e.write,e.last]; exact fun _ => hb,?_,?_⟩
    · rw [e.read,e.write,e.last,e.held]
      intro hr1 hrM b hb1 hbM hin
      rw [CyclicRing.within_next_end hr1 hrM (by omega) hb1 hbM hn] at hin
      exact mem_put_held.mpr (hin.imp_left (harc hr1 hrM b hb1 hbM))
    · rw [e.read,e.write,e.last,e.held]
      intro hout _ b hb1 hbw
      rw [mem_put_held]
      by_cases hlast : l.write<l.last
      · rw [CyclicRing.next_of_lt hlast] at hbw ⊢
        by_cases hnew : b=l.write+1
        · exact Or.inr hnew
        · exact Or.inl (hfront hout (by omega) b hb1 (by omega))
      · rw [CyclicRing.next_of_le (by omega)] at hbw ⊢
        exact Or.inr (by omega)

/-- A session starts only from a store that has been written. -/
theorem covered_start {l : Ledger} (h : Covered l) (tc : UInt32) :
    Covered (l.call (.start tc)) := by
  by_cases h0 : getBlocksToRead l.store tc=0
  · rw [call_start_empty h0]
    exact h
  · have hne : l.read≠l.write := fun he => getBlocksToRead_ne h0 (UInt32.toNat_inj.mp he)
    have hw : 1≤l.write ∧ l.write≤l.last := h.write.resolve_right (fun hw => hne hw.1.symm)
    rw [call_start_offer h0]
    exact ⟨h.ring,h.read,h.write,fun _ => hw,h.arc,h.front⟩

/-- An acknowledgement made while the read index is behind keeps the store
covered; the one that leaves a start value outside the ring enters at block
one. -/
theorem covered_ack {l : Ledger} (h : Covered l) (hopen : l.acked<l.offered)
    (hne : l.read≠l.write) (page : WriteReply) : Covered (l.call (.ack page)) := by
  obtain ⟨hring,hr,-,hoffer,harc,hfront⟩ := h
  obtain ⟨hw,hwM⟩ := hoffer hopen
  have hb := CyclicRing.next_bounds (by omega : 1≤l.last) l.read
  have hcap : l.last≤0x007FFFFF := lastBlock_le l.store.card
  have e := call_ack l page
  refine ⟨by rw [e.last]; exact hring,by rw [e.read,e.last]; exact Or.inl hb.2,
    by rw [e.write,e.last]; exact Or.inl ⟨hw,hwM⟩,by rw [e.write,e.last]; exact fun _ => ⟨hw,hwM⟩,
    ?_,?_⟩
  · rw [e.read,e.write,e.last,e.held]
    intro _ _ b hb1 hbM hin
    rw [mem_ack_held]
    by_cases hin0 : 1≤l.read ∧ l.read≤l.last
    · rw [CyclicRing.within_next_start hin0.2 hw hwM hb1 hbM hne] at hin
      exact ⟨harc hin0.1 hin0.2 b hb1 hbM hin.1,hin.2⟩
    · have hone : CyclicRing.next l.last l.read=1 := by
        unfold CyclicRing.next
        split <;> omega
      rw [hone] at hin
      unfold CyclicRing.Within at hin
      exact ⟨hfront hin0 hwM b hb1 (by omega),by omega⟩
  · rw [e.read,e.last]
    exact fun hout => absurd hb hout

/-- Passing the write index makes an empty block look like a full ring. -/
theorem not_refusesOnlyFull_ack {l : Ledger} (h : Covered l) (hopen : l.acked<l.offered)
    (he : l.read=l.write) (page : WriteReply) : ¬RefusesOnlyFull (l.call (.ack page)) := by
  obtain ⟨hw,hwM⟩ := h.open_offer hopen
  have e := call_ack l page
  rw [refusesOnlyFull_iff,e.read,e.write,e.last,e.held,he]
  intro hfull
  exact (mem_ack_held.mp (hfull rfl l.write hw hwM)).2 rfl

/-- History of a run whose read index was in the ring from the start: the
open offer lies between the read index and the write index. -/
structure OfferAhead (l : Ledger) : Prop where
  /-- The read index is in the ring. -/
  read : 1≤l.read ∧ l.read≤l.last
  /-- The write index is in the ring. -/
  write : 1≤l.write ∧ l.write≤l.last
  /-- The open offer does not run over the end of the ring. -/
  span : l.read+(l.offered-l.acked)≤l.last
  /-- The open offer ends before the write index, which may have wrapped. -/
  ahead : l.read+(l.offered-l.acked)≤l.write ∨ l.write<l.read

/-- Every permitted call keeps the open offer ahead. -/
theorem offerAhead_call {l : Ledger} (h : OfferAhead l) {c : StoreCall}
    (hc : completeEnabled l c) : OfferAhead (l.call c) := by
  obtain ⟨⟨hr,hrM⟩,⟨hw,hwM⟩,hspan,hahead⟩ := h
  cases c with
  | put block tc data page =>
    by_cases hn : CyclicRing.next l.last l.write=l.read
    · rw [call_put_refused block tc data page hn]
      exact ⟨⟨hr,hrM⟩,⟨hw,hwM⟩,hspan,hahead⟩
    · have e := call_put_accepted block tc data page hn
      have hb := CyclicRing.next_bounds (by omega : 1≤l.last) l.write
      refine ⟨by rw [e.read,e.last]; exact ⟨hr,hrM⟩,by rw [e.write,e.last]; exact hb,
        by rw [e.read,e.offered,e.acked,e.last]; exact hspan,?_⟩
      rw [e.read,e.write,e.offered,e.acked]
      by_cases hlast : l.write<l.last
      · rw [CyclicRing.next_of_lt hlast] at hn ⊢
        omega
      · rw [CyclicRing.next_of_le (by omega)] at hn ⊢
        omega
  | start tc =>
    by_cases h0 : getBlocksToRead l.store tc=0
    · rw [call_start_empty h0]
      exact ⟨⟨hr,hrM⟩,⟨hw,hwM⟩,hspan,hahead⟩
    · have hcap : l.last≤0x007FFFFF := lastBlock_le l.store.card
      have hoffer : l.read+(getBlocksToRead l.store tc).toNat≤l.write :=
        getBlocksToRead_bound (hrM.trans hcap) (hwM.trans hcap) h0
      rw [call_start_offer h0]
      exact ⟨⟨hr,hrM⟩,⟨hw,hwM⟩,hoffer.trans hwM,Or.inl hoffer⟩
  | ack page =>
    have hopen : l.acked<l.offered := hc
    have e := call_ack l page
    have hnext : CyclicRing.next l.last l.read=l.read+1 := CyclicRing.next_of_lt (by omega)
    refine ⟨?_,by rw [e.write,e.last]; exact ⟨hw,hwM⟩,?_,?_⟩
    · rw [e.read,e.last,hnext]
      omega
    · rw [e.read,e.offered,e.acked,e.last,hnext]
      omega
    · rw [e.read,e.write,e.offered,e.acked,hnext]
      omega

/-- No session is open when a run begins. -/
theorem orderedBoot_closed {l : Ledger} (h : OrderedBoot l) : l.offered-l.acked=0 := by
  obtain ⟨card,polls,-,⟨-,rfl⟩|⟨-,-,-,hl⟩⟩ := h
  · rfl
  · rw [hl]
    rfl

/-- From a rejected page or an ordered one, every state of a run of records
and complete sessions refuses only when the ring is full if and only if no
acknowledgement is made while the indexes are equal. A read index that starts
inside the ring always meets this condition. -/
theorem refusal_exact_iff {l₀ l : Ledger} {ts : List (Transition Ledger StoreCall)}
    (h0 : OrderedBoot l₀) (hp : Path (stepOf completeEnabled Ledger.call) l₀ ts l) :
    RefusesOnlyFull l₀ ∧
      ((∀ t∈ts,RefusesOnlyFull t.after) ↔ ∀ t∈ts,AckBehind t.before t.label) ∧
      (1≤l₀.read ∧ l₀.read≤l₀.last → ∀ t∈ts,AckBehind t.before t.label) := by
  have hcov := covered_boot h0
  refine ⟨hcov.refusesOnlyFull,?_,fun hr => ?_⟩
  · refine hp.guarded_iff Covered AckBehind (fun _ _ s' => RefusesOnlyFull s') hcov ?_ ?_
    · rintro s c _ hi ⟨he,rfl⟩ hc
      have hi' : Covered (s.call c) := by
        cases c with
        | put block tc data page => exact covered_put hi block tc data page
        | start tc => exact covered_start hi tc
        | ack page => exact covered_ack hi he (fun h => hc (UInt32.toNat_inj.mp h)) page
      exact ⟨hi',hi'.refusesOnlyFull⟩
    · rintro s c _ hi ⟨he,rfl⟩ hc
      cases c with
      | put block tc data page => exact absurd trivial hc
      | start tc => exact absurd trivial hc
      | ack page =>
        exact not_refusesOnlyFull_ack hi he (congrArg UInt32.toNat (not_not.mp hc)) page
  · have hclosed : l₀.offered-l₀.acked=0 := orderedBoot_closed h0
    have hcap : l₀.last≤0x007FFFFF := lastBlock_le _
    have hw := hcov.write
    have hahead : OfferAhead l₀ := ⟨hr,by omega,by omega,by omega⟩
    intro t ht
    have hinv := (hp.invariant_transitions hahead (by
      rintro s c _ hi ⟨he,rfl⟩
      exact offerAhead_call hi he) t ht).1
    have henabled := (hp.steps t ht).1
    cases hlabel : t.label with
    | put block tc data page => exact trivial
    | start tc => exact trivial
    | ack page =>
      rw [hlabel] at henabled
      have hopen : t.before.acked<t.before.offered := henabled
      have hne : t.before.read≠t.before.write := by
        have hgap := hinv.ahead
        omega
      exact fun h => hne (congrArg UInt32.toNat h)

/-- A card of two blocks with one record, after a second one. -/
def twoBlockLedger : Ledger :=
  Ledger.boot (memoryInit (formattedCard 3 ⟨1,1⟩) [0x00])
    (storedBlocks (memoryInit (formattedCard 3 ⟨1,1⟩) [0x00]))

/-- With both blocks written the card of two blocks refuses rightly. -/
theorem refusal_of_two_blocks :
    RefusesOnlyFull (twoBlockLedger.call (.put Record.blank 5 .good .good)) := by
  have hboot : OrderedBoot twoBlockLedger :=
    ⟨formattedCard 3 ⟨1,1⟩,[0x00],by decide,Or.inr ⟨by decide,by decide,by decide,rfl⟩⟩
  have hpath : Path (stepOf completeEnabled Ledger.call) twoBlockLedger
      [⟨twoBlockLedger,.put Record.blank 5 .good .good,
        twoBlockLedger.call (.put Record.blank 5 .good .good)⟩]
      (twoBlockLedger.call (.put Record.blank 5 .good .good)) :=
    Path.nil.snoc ⟨trivial,rfl⟩
  have hinside : 1≤twoBlockLedger.read ∧ twoBlockLedger.read≤twoBlockLedger.last := by decide
  have hrun := refusal_exact_iff hboot hpath
  exact hrun.2.1.mpr (hrun.2.2 hinside) ⟨_,_,_⟩ (List.mem_singleton_self _)

/-- An erased card after one record and one complete session. -/
def drainedLedger : Ledger :=
  (((Ledger.boot (memoryInit (erasedCard 11) [0x00]) []).call
    (.put Record.blank 5 .good .good)).call (.start 10)).call (.ack .good)

/-- From the rejected page of an erased card one record makes an offer of two,
both are acknowledged, and the store then refuses although none of its ten
blocks holds a record. -/
theorem refused_while_empty :
    ∃ l₀ ts,OrderedBoot l₀ ∧
      Path (stepOf completeEnabled Ledger.call) l₀ ts (drainedLedger.call (.ack .good)) ∧
      (drainedLedger.call (.ack .good)).offered=2 ∧ (drainedLedger.call (.ack .good)).acked=2 ∧
      (drainedLedger.call (.ack .good)).held=[] ∧ (drainedLedger.call (.ack .good)).last=10 ∧
      (putSample (drainedLedger.call (.ack .good)).store Record.blank 20 .good .good).1=false := by
  refine ⟨Ledger.boot (memoryInit (erasedCard 11) [0x00]) [],_,
    ⟨erasedCard 11,[0x00],by decide,Or.inl ⟨by decide,rfl⟩⟩,
    (((Path.nil.snoc (i:=.put Record.blank 5 .good .good) ⟨trivial,rfl⟩).snoc
      (i:=.start 10) ⟨by decide,rfl⟩).snoc (i:=.ack .good) ⟨by decide,rfl⟩).snoc
      (i:=.ack .good) ⟨by decide,rfl⟩,?_⟩
  decide

/-! ## Overwritten records -/

/-- A boot on a ring of at least two blocks, whatever its index page says. -/
def AnyBoot (l : Ledger) : Prop :=
  ∃ card polls,2≤lastBlock card ∧ l=Ledger.boot (memoryInit card polls) []

/-- An accepted record does not go to a block that holds an earlier one which
was not passed. -/
def KeepsHeld (l : Ledger) : StoreCall → Prop
  | .put block tc data page => (putSample l.store block tc data page).1=true →
      (putSample l.store block tc data page).2.indexes.writeIndex.toNat∉l.held
  | .start _ => True
  | .ack _ => True

/-- Before a record: the read index is a block of the ring, or the ring has
not been written round yet. Before an acknowledgement: the read index is a
block of the ring, or the write index has not wrapped since the boot. -/
def WriteSafe (l : Ledger) : StoreCall → Prop
  | .put _ _ _ _ => isBlockValid l.store.card l.store.indexes.readIndex=true ∨ l.accepted<l.last
  | .start _ => True
  | .ack _ => isBlockValid l.store.card l.store.indexes.readIndex=true ∨ l.accepted≤l.write

/-- A valid read index is a position of the ring. -/
theorem read_valid_iff (l : Ledger) :
    isBlockValid l.store.card l.store.indexes.readIndex=true ↔ 1≤l.read ∧ l.read≤l.last :=
  isBlockValid_iff _ _

/-- An accepted record goes to the next block. -/
theorem keepsHeld_put_iff (l : Ledger) (block : Record) (tc : UInt32) (data page : WriteReply) :
    KeepsHeld l (.put block tc data page) ↔
      (CyclicRing.next l.last l.write≠l.read → CyclicRing.next l.last l.write∉l.held) := by
  have hok := (putSample_accepts_iff l.store block tc data page).trans (accepts_iff l)
  have hw : CyclicRing.next l.last l.write≠l.read →
      (putSample l.store block tc data page).2.indexes.writeIndex.toNat=
        CyclicRing.next l.last l.write := by
    intro hn
    rw [putSample_indexes block tc data page ((accepts_iff l).mpr hn)]
    exact nextBlock_toNat _ _
  constructor
  · intro h hn
    rw [←hw hn]
    exact h (hok.mpr hn)
  · intro h hp
    rw [hw (hok.mp hp)]
    exact h (hok.mp hp)

/-- History in which no held record is exposed: with the read index in the
ring the held blocks lie between it and the write index; before that they are
the blocks written so far, in one round from the first. -/
structure Guarded (l : Ledger) : Prop where
  /-- The ring has at least two blocks. -/
  ring : 2≤l.last
  /-- Held blocks once the read index is in the ring. -/
  arc : 1≤l.read → l.read≤l.last → ∀ b∈l.held,
    (1≤b ∧ b≤l.last) ∧ (1≤l.write ∧ l.write≤l.last) ∧ CyclicRing.Within l.read l.write b
  /-- Held blocks while the read index is still outside the ring. -/
  round : ¬(1≤l.read ∧ l.read≤l.last) → l.accepted≤l.last ∧ ∃ p,(1≤p ∧ p≤l.last) ∧
    CyclicRing.next l.last l.write=(CyclicRing.next l.last)^[l.accepted] p ∧
    (∀ k,l.accepted=k+1 → l.write=(CyclicRing.next l.last)^[k] p) ∧
    ∀ b,b∈l.held ↔ ∃ j<l.accepted,b=(CyclicRing.next l.last)^[j] p

/-- A boot holds nothing yet. -/
theorem guarded_boot {l : Ledger} (h : AnyBoot l) : Guarded l := by
  obtain ⟨card,polls,hM,rfl⟩ := h
  have hlast : (Ledger.boot (memoryInit card polls) []).last=lastBlock card := by
    unfold Ledger.last Ledger.boot
    rw [memoryInit_card]
  have hnil : (Ledger.boot (memoryInit card polls) []).held=[] := rfl
  have hzero : (Ledger.boot (memoryInit card polls) []).accepted=0 := rfl
  refine ⟨by omega,?_,fun _ => ⟨by omega,_,
    CyclicRing.next_bounds (by omega) (Ledger.boot (memoryInit card polls) []).write,?_,?_,?_⟩⟩
  · intro _ _ b hb
    rw [hnil] at hb
    exact absurd hb List.not_mem_nil
  · rw [hzero,Function.iterate_zero_apply]
  · intro k hk
    omega
  · intro b
    rw [hnil,hzero]
    simp only [List.not_mem_nil,Nat.not_lt_zero,false_and,exists_false]

/-- A guarded store overwrites nothing exactly when the read index is in the
ring or the ring has not been written round. -/
theorem Guarded.keepsHeld_iff {l : Ledger} (h : Guarded l) (block : Record) (tc : UInt32)
    (data page : WriteReply) :
    KeepsHeld l (.put block tc data page) ↔ WriteSafe l (.put block tc data page) := by
  have hring := h.ring
  have hb := CyclicRing.next_bounds (by omega : 1≤l.last) l.write
  rw [keepsHeld_put_iff]
  change _ ↔ isBlockValid l.store.card l.store.indexes.readIndex=true ∨ l.accepted<l.last
  rw [read_valid_iff]
  by_cases hin : 1≤l.read ∧ l.read≤l.last
  · refine ⟨fun _ => Or.inl hin,fun _ hn hmem => ?_⟩
    obtain ⟨-,⟨-,hwM⟩,harc⟩ := h.arc hin.1 hin.2 _ hmem
    exact CyclicRing.not_within_next hin.1 hin.2 hwM hn harc
  · obtain ⟨hle,p,⟨hp1,hpM⟩,hnext,-,hheld⟩ := h.round hin
    have hn : CyclicRing.next l.last l.write≠l.read := fun he => hin (he ▸ hb)
    rw [hheld,hnext]
    constructor
    · intro hfree
      by_contra hfull
      have hturn : l.accepted=l.last := by omega
      refine hfree (hnext ▸ hn) ⟨0,by omega,?_⟩
      have hperiod := CyclicRing.iterate_next_turn hp1 hpM 0
      rw [Nat.zero_add] at hperiod
      rw [hturn,hperiod]
    · rintro (hv|hlt) _ ⟨j,hj,he⟩
      · exact hin hv
      · have hj' := CyclicRing.iterate_next_inj hp1 hpM hj.le (by omega) he.symm
        omega

/-- A harmless record, accepted or refused, keeps the store guarded. -/
theorem guarded_put {l : Ledger} (h : Guarded l) (block : Record) (tc : UInt32)
    (data page : WriteReply) (hc : WriteSafe l (.put block tc data page)) :
    Guarded (l.call (.put block tc data page)) := by
  by_cases hn : CyclicRing.next l.last l.write=l.read
  · rw [call_put_refused block tc data page hn]
    exact h
  · obtain ⟨hring,harc,hround⟩ := h
    have hb := CyclicRing.next_bounds (by omega : 1≤l.last) l.write
    have e := call_put_accepted block tc data page hn
    refine ⟨by rw [e.last]; exact hring,?_,?_⟩
    · rw [e.read,e.write,e.last,e.held]
      intro hr hrM b hmem
      rcases mem_put_held.mp hmem with hold|hnew
      · obtain ⟨hbin,⟨-,hwM⟩,hin⟩ := harc hr hrM b hold
        exact ⟨hbin,hb,
          (CyclicRing.within_next_end hr hrM hwM hbin.1 hbin.2 hn).mpr (Or.inl hin)⟩
      · rw [hnew]
        refine ⟨hb,hb,?_⟩
        unfold CyclicRing.Within
        omega
    · rw [e.read,e.write,e.last,e.held,e.accepted]
      intro hout
      obtain ⟨-,p,hp,hnext,-,hheld⟩ := hround hout
      have hlt : l.accepted<l.last := hc.resolve_left (fun hv => hout ((read_valid_iff l).mp hv))
      refine ⟨hlt,p,hp,?_,?_,?_⟩
      · rw [hnext,Function.iterate_succ_apply']
      · intro k hk
        have hk' : l.accepted=k := by omega
        rw [hnext,hk']
      · intro b
        rw [mem_put_held,hheld,hnext]
        constructor
        · rintro (⟨j,hj,he⟩|he)
          · exact ⟨j,by omega,he⟩
          · exact ⟨l.accepted,by omega,he⟩
        · rintro ⟨j,hj,he⟩
          by_cases hlast : j=l.accepted
          · exact Or.inr (hlast ▸ he)
          · exact Or.inl ⟨j,by omega,he⟩

/-- Without a wrap the blocks of the first round lie between block one and
the write index. -/
theorem round_within {l : Ledger} (h : Guarded l) (hout : ¬(1≤l.read ∧ l.read≤l.last))
    (hwrap : l.accepted≤l.write) :
    ∀ b∈l.held,(1≤b ∧ b≤l.last) ∧ (1≤l.write ∧ l.write≤l.last) ∧ CyclicRing.Within 1 l.write b := by
  obtain ⟨hle,p,⟨hp1,hpM⟩,-,hwrite,hheld⟩ := h.round hout
  intro b hb
  obtain ⟨j,hj,he⟩ := (hheld b).mp hb
  have hw := hwrite (l.accepted-1) (by omega)
  have hsmall : p+(l.accepted-1)≤l.last := by
    by_contra hbig
    have hround : p-1+(l.accepted-1)=(p-1+(l.accepted-1)-l.last)+l.last := by omega
    rw [CyclicRing.iterate_next hp1 hpM,hround,Nat.add_mod_right,Nat.mod_eq_of_lt (by omega)] at hw
    omega
  rw [CyclicRing.iterate_next_of_le hsmall] at hw
  rw [CyclicRing.iterate_next_of_le (by omega)] at he
  unfold CyclicRing.Within
  omega

/-- An acknowledgement keeps the store guarded unless it brings the read index
into the ring after the write index has wrapped. -/
theorem guarded_ack {l : Ledger} (h : Guarded l) (page : WriteReply)
    (hc : WriteSafe l (.ack page)) : Guarded (l.call (.ack page)) := by
  have hring := h.ring
  have hb := CyclicRing.next_bounds (by omega : 1≤l.last) l.read
  have e := call_ack l page
  refine ⟨by rw [e.last]; exact hring,?_,?_⟩
  · rw [e.read,e.write,e.last,e.held]
    intro _ _ b hmem
    obtain ⟨hbheld,hbr⟩ := mem_ack_held.mp hmem
    by_cases hin : 1≤l.read ∧ l.read≤l.last
    · obtain ⟨hbin,hw,harc⟩ := h.arc hin.1 hin.2 b hbheld
      refine ⟨hbin,hw,?_⟩
      by_cases hne : l.read=l.write
      · rw [hne]
        exact CyclicRing.within_of_next_eq hw.2 hbin.1 hbin.2 rfl
      · exact (CyclicRing.within_next_start hin.2 hw.1 hw.2 hbin.1 hbin.2 hne).mpr ⟨harc,hbr⟩
    · have hwrap : l.accepted≤l.write :=
        hc.resolve_left (fun hv => hin ((read_valid_iff l).mp hv))
      have hone : CyclicRing.next l.last l.read=1 := by
        unfold CyclicRing.next
        split <;> omega
      rw [hone]
      exact round_within h hin hwrap b hbheld
  · rw [e.read,e.last]
    exact fun hout => absurd hb hout

/-- A session's start is not seen by the guard. -/
theorem guarded_start {l : Ledger} (h : Guarded l) (tc : UInt32) :
    Guarded (l.call (.start tc)) := by
  by_cases h0 : getBlocksToRead l.store tc=0
  · rw [call_start_empty h0]
    exact h
  · rw [call_start_offer h0]
    exact ⟨h.ring,h.arc,h.round⟩

/-- In every run of records, sessions and acknowledgements whose steps all
meet the condition, no accepted record goes to a block that holds an earlier
one which was not passed; and in the state such a run reaches, the next
record is harmless exactly when it meets the condition too. -/
theorem overwrite_guarded {l₀ l : Ledger} {ts : List (Transition Ledger StoreCall)}
    (h0 : AnyBoot l₀) (hp : Path (stepOf (fun _ _ => True) Ledger.call) l₀ ts l)
    (hc : ∀ t∈ts,WriteSafe t.before t.label) :
    (∀ t∈ts,KeepsHeld t.before t.label) ∧
      ∀ block tc data page,KeepsHeld l (.put block tc data page) ↔
        isBlockValid l.store.card l.store.indexes.readIndex=true ∨ l.accepted<l.last := by
  have hrun := hp.guarded Guarded WriteSafe (fun s c _ => KeepsHeld s c) (guarded_boot h0) (by
    rintro s c _ hi ⟨-,rfl⟩ hs
    cases c with
    | put block tc data page =>
      exact ⟨guarded_put hi block tc data page hs,(hi.keepsHeld_iff block tc data page).mpr hs⟩
    | start tc => exact ⟨guarded_start hi tc,trivial⟩
    | ack page => exact ⟨guarded_ack hi page hs,trivial⟩) hc
  exact ⟨hrun.2,fun block tc data page => hrun.1.keepsHeld_iff block tc data page⟩

instance (l : Ledger) : (c : StoreCall) → Decidable (WriteSafe l c)
  | .put _ _ _ _ => inferInstanceAs (Decidable (_ ∨ _))
  | .start _ => inferInstanceAs (Decidable True)
  | .ack _ => inferInstanceAs (Decidable (_ ∨ _))

/-- A reset card of three blocks: two records, a session that passes the index
page and the first of them, and two more records. -/
def roundCalls : List StoreCall :=
  [.put Record.blank 5 .good .good,.put Record.blank 6 .good .good,.start 10,.ack .good,.ack .good,
    .put Record.blank 20 .good .good,.put Record.blank 21 .good .good]

/-- The last of these records wraps round to block one. Blocks two and three
still hold theirs, and the store keeps all of them by refusing the next. -/
theorem overwrite_guarded_round : ∃ ts l,
    Path (stepOf (fun _ _ => True) Ledger.call)
      (Ledger.boot (memoryInit (formattedCard 4 ⟨0,0⟩) [0x00]) []) ts l ∧
    l.held=[2,3,1] ∧ l.read=2 ∧ l.write=1 ∧ l.accepted=4 ∧
    (∀ t∈ts,KeepsHeld t.before t.label) ∧ KeepsHeld l (.put Record.blank 22 .good .good) := by
  have hrun : (traceOf (labelled (attempt (fun _ _ => True) fun l c => some (Ledger.call l c)))
      (Ledger.boot (memoryInit (formattedCard 4 ⟨0,0⟩) [0x00]) []) roundCalls).any (fun run =>
        (∀ t∈run.1,WriteSafe t.before t.label) ∧ run.2.held=[2,3,1] ∧ run.2.read=2 ∧
          run.2.write=1 ∧ run.2.accepted=4 ∧
          isBlockValid run.2.store.card run.2.store.indexes.readIndex=true)=true := by
    decide +kernel
  obtain ⟨⟨ts,l⟩,htrace,hchecked⟩ := (Option.any_eq_true _ _).mp hrun
  obtain ⟨hsafe,hheld,hread,hwrite,haccepted,hvalid⟩ := of_decide_eq_true hchecked
  have hpath := path_of_attempts htrace
  have hguarded := overwrite_guarded ⟨formattedCard 4 ⟨0,0⟩,[0x00],by decide,rfl⟩ hpath hsafe
  exact ⟨ts,l,hpath,hheld,hread,hwrite,haccepted,hguarded.1,
    (hguarded.2 Record.blank 22 .good .good).mpr (.inl hvalid)⟩

/-- A reset card of two blocks after two records. -/
def writtenRoundLedger : Ledger :=
  ((Ledger.boot (memoryInit (formattedCard 3 ⟨0,0⟩) [0x00]) []).call
    (.put Record.blank 5 .good .good)).call (.put Record.blank 6 .good .good)

/-- After a reset the third record on a card of two blocks is accepted into
block one, which still holds the first. -/
theorem first_record_overwritten :
    (∃ l₀ ts,AnyBoot l₀ ∧
      Path (stepOf (fun _ _ => True) Ledger.call) l₀ ts writtenRoundLedger) ∧
      writtenRoundLedger.held=[1,2] ∧
      (putSample writtenRoundLedger.store Record.blank 7 .good .good).1=true ∧
      (putSample writtenRoundLedger.store Record.blank 7 .good .good).2.indexes.writeIndex=1 := by
  refine ⟨⟨_,_,⟨formattedCard 3 ⟨0,0⟩,[0x00],by decide,rfl⟩,
    (Path.nil.snoc (i:=.put Record.blank 5 .good .good) ⟨trivial,rfl⟩).snoc
      (i:=.put Record.blank 6 .good .good) ⟨trivial,rfl⟩⟩,?_⟩
  decide

end VlfGateway.StoreCapacity
