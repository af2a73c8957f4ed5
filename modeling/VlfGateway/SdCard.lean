import VlfGateway.RecordChecksum

/-!
# The block driver of the SD card

A card is its sector count and its 512-octet pages. What the card answers is
supplied from outside: the octets shifted back while a command is polled, and
the data response token that follows a written page. The card stores a page
exactly when its token says so; the driver does not pass that token on.
-/

namespace VlfGateway.SdCard

open RecordChecksum

/-- One block of the card. -/
structure Page where
  /-- The octets of the block. -/
  octets : List UInt8
  /-- Blocks always hold 512 octets. -/
  size : octets.length=512
  deriving DecidableEq

/-- The card as the driver knows it. -/
structure Card where
  /-- `_sectors`, read from the card's CSD register at initialisation. -/
  sectors : UInt64
  /-- Contents of every addressable block. -/
  page : ℕ → Page

/-- `disk_sectors`. -/
def diskSectors (card : Card) : UInt64 := card.sectors

/-- `SD_COMMAND_TIMEOUT`, in polls. -/
def sdCommandTimeout : ℕ := 5000

/-- `_cmd`: the first polled octet whose top bit is clear, or -1 when the
timeout passes without one. -/
def cmd (polls : List UInt8) : ℤ :=
  match (polls.take sdCommandTimeout).find? (fun response => response &&& 0x80==0) with
  | some response => response.toNat
  | none => -1

/-- What the card answers while one page is written. -/
structure WriteReply where
  /-- Octets polled after the write command. -/
  polls : List UInt8
  /-- Data response token polled after the page. -/
  token : UInt8
  deriving DecidableEq

/-- The data response token says that the page was accepted. -/
def tokenAccepted (token : UInt8) : Bool := token &&& 0x1F==0x05

/-- Command and page were both accepted. -/
def WriteReply.accepted (reply : WriteReply) : Bool :=
  cmd reply.polls==0 && tokenAccepted reply.token

/-- Answers of a card that accepts the command and the page. -/
def WriteReply.good : WriteReply := ⟨[0x00],0x05⟩

/-- The full block sent for a shorter buffer: the rest is filled with 0xFF. -/
def fillPage (buffer : List UInt8) (length : ℕ) : Page :=
  ⟨(buffer.take length++List.replicate 512 0xFF).take 512,by
    rw [List.length_take,List.length_append,List.length_replicate]
    omega⟩

/-- `_block_write`: zero when the token accepted the page, one otherwise. -/
def blockWrite (card : Card) (buffer : List UInt8) (length block : ℕ) (token : UInt8) : ℕ × Card :=
  if tokenAccepted token then
    (0,{card with page := Function.update card.page block (fillPage buffer length)})
  else (1,card)

/-- `disk_write`. The result of `_block_write` is dropped. -/
def diskWrite (card : Card) (buffer : List UInt8) (length block : ℕ) (reply : WriteReply) : ℕ × Card :=
  if 512<length then (0,card)
  else if 0x007FFFFF<block then (0,card)
  else if cmd reply.polls≠0 then (1,card)
  else (0,(blockWrite card buffer length block reply.token).2)

/-- `_block_read` into the front of a buffer. -/
def blockRead (card : Card) (buffer : List UInt8) (length block : ℕ) : List UInt8 :=
  (card.page block).octets.take length++buffer.drop length

/-- `disk_read`: the return code and the buffer afterwards. -/
def diskRead (card : Card) (buffer : List UInt8) (length block : ℕ) (polls : List UInt8) :
    ℕ × List UInt8 :=
  if 512<length then (0,buffer)
  else if 0x007FFFFF<block then (0,buffer)
  else if cmd polls≠0 then (1,buffer)
  else (0,blockRead card buffer length block)

/-- Reading never changes how long the caller's buffer is. -/
theorem diskRead_length (card : Card) {buffer : List UInt8} {length : ℕ} (block : ℕ)
    (polls : List UInt8) (h : length≤buffer.length) :
    (diskRead card buffer length block polls).2.length=buffer.length := by
  have hp := (card.page block).size
  unfold diskRead blockRead
  split
  · rfl
  · split
    · rfl
    · split
      · rfl
      · rw [List.length_append,List.length_take,List.length_drop,hp]
        omega

/-- An addressable block is read when the command is answered with zero. -/
theorem diskRead_of_ready {card : Card} {buffer : List UInt8} {length block : ℕ}
    {polls : List UInt8} (hl : length≤512) (hb : block≤0x007FFFFF) (hc : cmd polls=0) :
    diskRead card buffer length block polls=(0,blockRead card buffer length block) := by
  unfold diskRead
  rw [if_neg (by omega),if_neg (by omega),if_neg (by omega)]

/-- The card after a write to an addressable block depends only on whether
the card accepted it. -/
theorem diskWrite_card {card : Card} {buffer : List UInt8} {length block : ℕ} {reply : WriteReply}
    (hl : length≤512) (hb : block≤0x007FFFFF) :
    (diskWrite card buffer length block reply).2=
      if reply.accepted then
        {card with page := Function.update card.page block (fillPage buffer length)}
      else card := by
  unfold diskWrite blockWrite WriteReply.accepted
  rw [if_neg (by omega),if_neg (by omega)]
  by_cases hc : cmd reply.polls=0
  · rw [if_neg (by omega),hc]
    cases tokenAccepted reply.token <;> rfl
  · rw [if_pos hc,beq_false_of_ne hc]
    rfl

/-- The sector count is never changed by a write. -/
@[simp] theorem diskWrite_sectors (card : Card) (buffer : List UInt8) (length block : ℕ)
    (reply : WriteReply) : (diskWrite card buffer length block reply).2.sectors=card.sectors := by
  unfold diskWrite blockWrite
  split
  · rfl
  · split
    · rfl
    · split
      · rfl
      · split <;> rfl

/-- A write leaves every other block alone. -/
theorem diskWrite_page_of_ne (card : Card) (buffer : List UInt8) (length : ℕ) {block b : ℕ}
    (reply : WriteReply) (h : b≠block) :
    (diskWrite card buffer length block reply).2.page b=card.page b := by
  unfold diskWrite blockWrite
  split
  · rfl
  · split
    · rfl
    · split
      · rfl
      · split
        · exact Function.update_of_ne h _ _
        · rfl

/-- The record at the front of a page. -/
def Page.record (page : Page) : Record :=
  ⟨page.octets.take memoryRecordSize,by
    rw [List.length_take,page.size]
    rfl⟩

/-- A page filled from a record starts with that record. -/
theorem fillPage_record (record : Record) :
    (fillPage record.octets memoryRecordSize).record=record := by
  apply Record.ext_octets
  have hs := record.size
  unfold memoryRecordSize at hs
  unfold Page.record fillPage
  dsimp only [memoryRecordSize]
  rw [List.take_take,List.take_append_of_le_length (by rw [List.length_take]; omega),List.take_take]
  exact List.take_of_length_le (by omega)

end VlfGateway.SdCard
