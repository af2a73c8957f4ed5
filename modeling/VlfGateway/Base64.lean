import VlfGateway.StandardBase64

/-!
# Base64 text of the authorization string

The encoder collects three octets, writes four characters for them and fills
up the last group. It is given twice: as the text it produces, which is what
the request is built from, and cell by cell on the caller's buffer with its
16-bit counters. The text is the standard encoding, and the buffer holds it.
-/

namespace VlfGateway.Base64

/-- `base64_chars`. -/
def base64Chars : List Char :=
  "ABCDEFGHIJKLMNOPQRSTUVWXYZabcdefghijklmnopqrstuvwxyz0123456789+/".toList

/-- `char_array_4` built from `char_array_3`. -/
def sextets (a b c : UInt8) : List UInt8 :=
  [(a &&& 0xFC) >>> 2,((a &&& 0x03) <<< 4)+((b &&& 0xF0) >>> 4),
    ((b &&& 0x0F) <<< 2)+((c &&& 0xC0) >>> 6),c &&& 0x3F]

/-- Character of one sextet. -/
def base64Char (sextet : UInt8) : Char := base64Chars.getD sextet.toNat '='

/-- State of the loop: the octets collected for the current group and the
text written for the complete ones. -/
structure EncodeState where
  /-- The first `i` entries of `char_array_3`. -/
  group : List UInt8
  /-- Characters written so far. -/
  output : List Char

/-- One round of the loop. -/
def encodeStep (state : EncodeState) (octet : UInt8) : EncodeState :=
  let group := state.group++[octet]
  if group.length=3 then
    ⟨[],state.output++(sextets (group.getD 0 0) (group.getD 1 0) (group.getD 2 0)).map base64Char⟩
  else ⟨group,state.output⟩

/-- What follows the loop of `base64_encode`: a trailing group is completed with
zero octets and its text with padding. -/
def finishText (state : EncodeState) : List Char :=
  if state.group=[] then state.output
  else
    let quad := sextets (state.group.getD 0 0) (state.group.getD 1 0) (state.group.getD 2 0)
    state.output++(quad.take (state.group.length+1)).map base64Char++
      List.replicate (3-state.group.length) '='

/-- `base64_encode`: the characters before the terminator. -/
def base64Encode (input : List UInt8) : List Char := finishText (input.foldl encodeStep ⟨[],[]⟩)

example : base64Encode [77,97,110,121]="TWFueQ==".toList := by decide

/-! ## On the caller's buffer -/

/-- The locals of `base64_encode` and the buffer it writes to. -/
structure EncodeLocals where
  /-- `i`: octets in the current group. -/
  i : UInt16
  /-- `s`: characters written. -/
  s : UInt16
  /-- `char_array_3`, not initialised by the function. -/
  charArray3 : ℕ → UInt8
  /-- Cells of `output`. -/
  output : ℕ → Char

/-- `output[s++] = c`. -/
def putChar (l : EncodeLocals) (c : Char) : EncodeLocals :=
  {l with output := Function.update l.output l.s.toNat c,s := l.s+1}

/-- `char_array_4` of the current group. -/
def charArray4 (l : EncodeLocals) : List UInt8 :=
  sextets (l.charArray3 0) (l.charArray3 1) (l.charArray3 2)

/-- One round of the loop over the input. -/
def encodeRound (l : EncodeLocals) (octet : UInt8) : EncodeLocals :=
  let stored := {l with charArray3 := Function.update l.charArray3 l.i.toNat octet,i := l.i+1}
  if stored.i=3 then
    {((charArray4 stored).map base64Char).foldl putChar stored with i := 0}
  else stored

/-- `while (i++ < 3) output[s++] = '='`. -/
def padLoop (l : EncodeLocals) (i : ℕ) : EncodeLocals :=
  if i<3 then padLoop (putChar l '=') (i+1) else l
termination_by 3-i

/-- `for (j = i; j < 3; j++) char_array_3[j] = 0`. -/
def fillZeros (l : EncodeLocals) : EncodeLocals :=
  {l with charArray3 := fun j => if l.i.toNat≤j ∧ j<3 then 0 else l.charArray3 j}

/-- One or two octets that are left get two or three characters and
padding. -/
def encodeTail (l : EncodeLocals) : EncodeLocals :=
  if l.i≠0 then
    let filled := fillZeros l
    let written := (((charArray4 filled).take (l.i.toNat+1)).map base64Char).foldl putChar filled
    padLoop written l.i.toNat
  else l

/-- `base64_encode` on a buffer: the value returned and the cells. -/
def base64EncodeTo (charArray3 : ℕ → UInt8) (output : ℕ → Char) (input : List UInt8) :
    UInt16 × (ℕ → Char) :=
  let l := encodeTail (input.foldl encodeRound ⟨0,0,charArray3,output⟩)
  (l.s,Function.update l.output l.s.toNat (Char.ofNat 0))

/-! ## The text is the standard one -/

/-- Bits in the middle of a number, moved to its end. -/
theorem masked_shift {x k w : ℕ} (h : x<2^(k+w)) : (x &&& (2^w-1)*2^k) >>> k=x/2^k := by
  rw [Nat.shiftRight_and_distrib,Nat.shiftRight_eq_div_pow,Nat.shiftRight_eq_div_pow,
    Nat.mul_div_cancel _ (by positivity),Nat.and_two_pow_sub_one_eq_mod]
  apply Nat.mod_eq_of_lt
  rw [Nat.div_lt_iff_lt_mul (by positivity),←pow_add,Nat.add_comm]
  exact h

/-- The masks and shifts split three octets into four parts of six bits. -/
theorem sextets_toNat (a b c : UInt8) :
    (sextets a b c).map UInt8.toNat=
      [a.toNat/4,a.toNat%4*16+b.toNat/16,b.toNat%16*4+c.toNat/64,c.toNat%64] := by
  have ha := a.toNat_lt
  have hb := b.toNat_lt
  have hc := c.toNat_lt
  have hfirst : ((a &&& 0xFC) >>> 2).toNat=a.toNat/4 := masked_shift (k:=2) (w:=6) ha
  have hsecond : ((b &&& 0xF0) >>> 4).toNat=b.toNat/16 := masked_shift (k:=4) (w:=4) hb
  have hthird : ((c &&& 0xC0) >>> 6).toNat=c.toNat/64 := masked_shift (k:=6) (w:=2) hc
  have hfourth : (c &&& 0x3F).toNat=c.toNat%64 := Nat.and_two_pow_sub_one_eq_mod c.toNat 6
  have hlowA : (a &&& 0x03).toNat=a.toNat%4 := Nat.and_two_pow_sub_one_eq_mod a.toNat 2
  have hlowB : (b &&& 0x0F).toNat=b.toNat%16 := Nat.and_two_pow_sub_one_eq_mod b.toNat 4
  have hhighA : ((a &&& 0x03) <<< 4).toNat=a.toNat%4*16 := by
    rw [UInt8.toNat_shiftLeft,hlowA,Nat.shiftLeft_eq]
    change _*16%256=_
    omega
  have hhighB : ((b &&& 0x0F) <<< 2).toNat=b.toNat%16*4 := by
    rw [UInt8.toNat_shiftLeft,hlowB,Nat.shiftLeft_eq]
    change _*4%256=_
    omega
  simp only [sextets,List.map_cons,List.map_nil,List.cons.injEq,and_true,UInt8.toNat_add,hfirst,
    hsecond,hthird,hfourth,hhighA,hhighB]
  exact ⟨trivial,Nat.mod_eq_of_lt (by omega),Nat.mod_eq_of_lt (by omega)⟩

/-- The table is the standard alphabet in order. -/
theorem base64Chars_eq : base64Chars=(List.range 64).map StandardBase64.digitChar := by
  decide +kernel

/-- A part of six bits is written as the standard digit. -/
theorem base64Char_eq {sextet : UInt8} (h : sextet.toNat<64) :
    base64Char sextet=StandardBase64.digitChar sextet.toNat := by
  rw [base64Char,base64Chars_eq,List.getD_eq_getElem?_getD,List.getElem?_map,
    List.getElem?_range h]
  rfl

/-- The parts of three octets are the digits of their number. -/
theorem sextets_digits (a b c : UInt8) :
    (sextets a b c).map UInt8.toNat=
      [StandardBase64.digit 3 (a.toNat*2^16+b.toNat*2^8+c.toNat),
        StandardBase64.digit 2 (a.toNat*2^16+b.toNat*2^8+c.toNat),
        StandardBase64.digit 1 (a.toNat*2^16+b.toNat*2^8+c.toNat),
        StandardBase64.digit 0 (a.toNat*2^16+b.toNat*2^8+c.toNat)] := by
  have ha := a.toNat_lt
  have hb := b.toNat_lt
  have hc := c.toNat_lt
  have hthree : (a.toNat*2^16+b.toNat*2^8+c.toNat)/64^3%64=a.toNat/4 := by omega
  have htwo : (a.toNat*2^16+b.toNat*2^8+c.toNat)/64^2%64=a.toNat%4*16+b.toNat/16 := by omega
  have hone : (a.toNat*2^16+b.toNat*2^8+c.toNat)/64^1%64=b.toNat%16*4+c.toNat/64 := by omega
  have hzero : (a.toNat*2^16+b.toNat*2^8+c.toNat)/64^0%64=c.toNat%64 := by omega
  rw [sextets_toNat]
  simp only [StandardBase64.digit,hthree,htwo,hone,hzero]

/-- The four parts are written as the characters of the digits of their group. -/
theorem sextets_map (a b c : UInt8) :
    (sextets a b c).map base64Char=
      [StandardBase64.digitChar (StandardBase64.digit 3 (a.toNat*2^16+b.toNat*2^8+c.toNat)),
        StandardBase64.digitChar (StandardBase64.digit 2 (a.toNat*2^16+b.toNat*2^8+c.toNat)),
        StandardBase64.digitChar (StandardBase64.digit 1 (a.toNat*2^16+b.toNat*2^8+c.toNat)),
        StandardBase64.digitChar (StandardBase64.digit 0 (a.toNat*2^16+b.toNat*2^8+c.toNat))] := by
  have hdigits := sextets_digits a b c
  have hbound : ∀ v∈(sextets a b c).map UInt8.toNat,v<64 := by
    intro v hv
    rw [hdigits] at hv
    simp only [List.mem_cons,List.not_mem_nil,or_false] at hv
    rcases hv with rfl|rfl|rfl|rfl <;> exact StandardBase64.digit_lt _ _
  have hchars : (sextets a b c).map base64Char=
      ((sextets a b c).map UInt8.toNat).map StandardBase64.digitChar := by
    rw [List.map_map]
    exact List.map_congr_left fun sextet hsextet =>
      base64Char_eq (hbound _ (List.mem_map_of_mem hsextet))
  rw [hchars,hdigits]
  rfl

/-- The text of a trailing group. -/
theorem finishText_trailing {group : List UInt8} (hgroup : group≠[]) (output : List Char) :
    finishText ⟨group,output⟩=output++
      ((sextets (group.getD 0 0) (group.getD 1 0) (group.getD 2 0)).map base64Char).take
        (group.length+1)++List.replicate (3-group.length) '=' := by
  rw [finishText,if_neg hgroup,←List.map_take]

/-- From a complete group on, the encoder appends the standard encoding of the
rest. -/
theorem finishText_foldl (input : List UInt8) :
    ∀ output,finishText (input.foldl encodeStep ⟨[],output⟩)=output++StandardBase64.encode input := by
  induction input using StandardBase64.encode.induct with
  | case1 a b c rest ih =>
    intro output
    have hround : (a::b::c::rest).foldl encodeStep ⟨[],output⟩=
        rest.foldl encodeStep ⟨[],output++(sextets a b c).map base64Char⟩ := rfl
    rw [hround,ih,sextets_map,StandardBase64.encode,List.append_assoc]
  | case2 a b =>
    intro output
    have hround : [a,b].foldl encodeStep ⟨[],output⟩=⟨[a,b],output⟩ := rfl
    -- the shorter group is the full one with a zero octet, less its last digit
    have hfull : (a.toNat*2^8+b.toNat)*2^2*64=a.toNat*2^16+b.toNat*2^8+(0 : UInt8).toNat := by
      change _=a.toNat*2^16+b.toNat*2^8+0
      omega
    have hdigit : ∀ k,StandardBase64.digit k ((a.toNat*2^8+b.toNat)*2^2)=
        StandardBase64.digit (k+1) (a.toNat*2^16+b.toNat*2^8+(0 : UInt8).toNat) := by
      intro k
      rw [←hfull,StandardBase64.digit_mul_base]
    rw [hround,finishText_trailing (List.cons_ne_nil a [b]),StandardBase64.encode,List.append_assoc]
    simp only [hdigit]
    change output++(((sextets a b 0).map base64Char).take 3++['='])=_
    rw [sextets_map]
    rfl
  | case3 a =>
    intro output
    have hround : [a].foldl encodeStep ⟨[],output⟩=⟨[a],output⟩ := rfl
    have hfull : a.toNat*2^4*64*64=
        a.toNat*2^16+(0 : UInt8).toNat*2^8+(0 : UInt8).toNat := by
      change _=a.toNat*2^16+0+0
      omega
    have hdigit : ∀ k,StandardBase64.digit k (a.toNat*2^4)=StandardBase64.digit (k+1+1)
        (a.toNat*2^16+(0 : UInt8).toNat*2^8+(0 : UInt8).toNat) := by
      intro k
      rw [←hfull,StandardBase64.digit_mul_base,StandardBase64.digit_mul_base]
    rw [hround,finishText_trailing (List.cons_ne_nil a []),StandardBase64.encode,List.append_assoc]
    simp only [hdigit]
    change output++(((sextets a 0 0).map base64Char).take 2++['=','='])=_
    rw [sextets_map]
    rfl
  | case4 =>
    intro output
    rw [StandardBase64.encode,List.append_nil]
    rfl

/-- The text is the standard encoding. -/
theorem base64Encode_eq (input : List UInt8) : base64Encode input=StandardBase64.encode input :=
  finishText_foldl input []

/-! ## The buffer holds the text -/

/-- A buffer whose first cells were overwritten with a text. -/
def overlay (output : ℕ → Char) (text : List Char) (j : ℕ) : Char := text.getD j (output j)

/-- Writing the next cell appends to the text. -/
theorem overlay_push (output : ℕ → Char) (text : List Char) (c : Char) :
    Function.update (overlay output text) text.length c=overlay output (text++[c]) := by
  funext j
  unfold overlay
  rw [List.getD_eq_getElem?_getD]
  rcases Nat.lt_trichotomy j text.length with hj|rfl|hj
  · rw [Function.update_of_ne hj.ne,List.getD_eq_getElem?_getD,List.getElem?_append_left hj]
  · rw [Function.update_self,List.getElem?_concat_length]
    rfl
  · rw [Function.update_of_ne hj.ne',List.getD_eq_getElem?_getD,List.getElem?_eq_none hj.le,
      List.getElem?_eq_none (by rw [List.length_append,List.length_singleton]; omega)]

/-- The counter and the cells stand for a text. -/
structure Written (output : ℕ → Char) (text : List Char) (l : EncodeLocals) : Prop where
  /-- The counter has not wrapped. -/
  count : l.s.toNat=text.length
  /-- The cells hold the text. -/
  cells : l.output=overlay output text

/-- Characters written one after the other extend the text. -/
theorem Written.putChars {output : ℕ → Char} (chars : List Char) :
    ∀ {text : List Char} {l : EncodeLocals},Written output text l →
      text.length+chars.length<2^16 → Written output (text++chars) (chars.foldl putChar l) := by
  induction chars with
  | nil =>
    intro text l h _
    rw [List.append_nil]
    exact h
  | cons c chars ih =>
    intro text l h hlen
    rw [List.length_cons] at hlen
    have hput : Written output (text++[c]) (putChar l c) := by
      constructor
      · have hone : (1 : UInt16).toNat=1 := rfl
        rw [putChar]
        dsimp only
        rw [UInt16.toNat_add,h.count,hone,List.length_append,List.length_singleton]
        exact Nat.mod_eq_of_lt (by omega)
      · rw [putChar]
        dsimp only
        rw [h.count,h.cells,overlay_push]
    have hrest := ih hput (by rw [List.length_append,List.length_singleton]; omega)
    rw [List.append_assoc] at hrest
    exact hrest

/-- The locals stand for a state of the text encoder. -/
structure Holds (output : ℕ → Char) (state : EncodeState) (l : EncodeLocals) : Prop where
  /-- What has been written. -/
  written : Written output state.output l
  /-- Octets in the group. -/
  fill : l.i.toNat=state.group.length
  /-- The group is not complete. -/
  short : state.group.length<3
  /-- Where they are stored. -/
  stored : ∀ k<state.group.length,l.charArray3 k=state.group.getD k 0

/-- Storing an octet on both sides. -/
theorem Holds.store {output : ℕ → Char} {state : EncodeState} {l : EncodeLocals}
    (h : Holds output state l) (octet : UInt8) :
    (l.i+1).toNat=(state.group++[octet]).length ∧
      ∀ k<(state.group++[octet]).length,
        Function.update l.charArray3 l.i.toNat octet k=(state.group++[octet]).getD k 0 := by
  have hshort := h.short
  have hone : (1 : UInt16).toNat=1 := rfl
  rw [List.length_append,List.length_singleton,UInt16.toNat_add,h.fill,hone]
  refine ⟨Nat.mod_eq_of_lt (by omega),fun k hk => ?_⟩
  rw [List.getD_eq_getElem?_getD]
  by_cases hlast : k=state.group.length
  · rw [hlast,Function.update_self,List.getElem?_concat_length]
    rfl
  · rw [Function.update_of_ne hlast,h.stored k (by omega),List.getD_eq_getElem?_getD,
      List.getElem?_append_left (by omega)]

/-- One round of the loop on both sides. -/
theorem Holds.round {output : ℕ → Char} {state : EncodeState} {l : EncodeLocals}
    (h : Holds output state l) (octet : UInt8)
    (hroom : state.group.length=2 → state.output.length+4<2^16) :
    Holds output (encodeStep state octet) (encodeRound l octet) := by
  obtain ⟨hfill,hstored⟩ := h.store octet
  have hthree : (3 : UInt16).toNat=3 := rfl
  have hlen : (state.group++[octet]).length=state.group.length+1 := List.length_append
  have hshort := h.short
  unfold encodeStep encodeRound
  dsimp only
  by_cases hfull : (state.group++[octet]).length=3
  · have hi : l.i+1=3 := by
      rw [←UInt16.toNat_inj,hfill,hfull,hthree]
    rw [if_pos hfull,if_pos hi]
    have hquad : charArray4 {l with
        charArray3 := Function.update l.charArray3 l.i.toNat octet,i := l.i+1}=
        sextets ((state.group++[octet]).getD 0 0) ((state.group++[octet]).getD 1 0)
          ((state.group++[octet]).getD 2 0) := by
      unfold charArray4
      dsimp only
      rw [hstored 0 (by omega),hstored 1 (by omega),hstored 2 (by omega)]
    rw [hquad]
    have hstart : Written output state.output {l with
        charArray3 := Function.update l.charArray3 l.i.toNat octet,i := l.i+1} :=
      ⟨h.written.count,h.written.cells⟩
    have hwritten := hstart.putChars ((sextets ((state.group++[octet]).getD 0 0)
      ((state.group++[octet]).getD 1 0) ((state.group++[octet]).getD 2 0)).map base64Char)
      (hroom (by omega))
    exact ⟨⟨hwritten.count,hwritten.cells⟩,rfl,Nat.zero_lt_succ 2,fun k hk => absurd hk (Nat.not_lt_zero k)⟩
  · have hi : ¬l.i+1=3 := by
      rw [←UInt16.toNat_inj,hfill,hthree]
      exact hfull
    rw [if_neg hfull,if_neg hi]
    refine ⟨⟨h.written.count,h.written.cells⟩,hfill,?_,hstored⟩
    dsimp only
    omega

/-- The whole loop on both sides. -/
theorem Holds.loop {output : ℕ → Char} (input : List UInt8) :
    ∀ {state : EncodeState} {l : EncodeLocals},Holds output state l →
      state.output.length+4*((state.group.length+input.length+2)/3)<2^16 →
      Holds output (input.foldl encodeStep state) (input.foldl encodeRound l) ∧
        (input.foldl encodeStep state).output.length+
          4*(((input.foldl encodeStep state).group.length+2)/3)<2^16 := by
  induction input with
  | nil => exact fun h hroom => ⟨h,hroom⟩
  | cons octet input ih =>
    intro state l h hroom
    have hshort := h.short
    rw [List.length_cons] at hroom
    refine ih (h.round octet (by omega)) ?_
    unfold encodeStep
    dsimp only
    have hlen : (state.group++[octet]).length=state.group.length+1 := List.length_append
    by_cases hfull : (state.group++[octet]).length=3
    · have hquad : ∀ a b c,((sextets a b c).map base64Char).length=4 := fun _ _ _ => rfl
      rw [if_pos hfull]
      dsimp only
      rw [List.length_append,hquad,List.length_nil]
      omega
    · rw [if_neg hfull]
      dsimp only
      rw [hlen]
      omega

/-- The padding loop writes one character for every octet that is missing. -/
theorem padLoop_eq (l : EncodeLocals) (i : ℕ) :
    padLoop l i=(List.replicate (3-i) '=').foldl putChar l := by
  induction l,i using padLoop.induct with
  | case1 l i hi ih =>
    rw [padLoop,if_pos hi,ih,show 3-i=3-(i+1)+1 by omega,List.replicate_succ,List.foldl_cons]
  | case2 l i hi =>
    rw [padLoop,if_neg hi,show 3-i=0 by omega]
    rfl

/-- What follows the loop on both sides. -/
theorem Holds.tail {output : ℕ → Char} {state : EncodeState} {l : EncodeLocals}
    (h : Holds output state l)
    (hroom : state.output.length+4*((state.group.length+2)/3)<2^16) :
    Written output (finishText state) (encodeTail l) := by
  have hshort := h.short
  have hzero : (0 : UInt16).toNat=0 := rfl
  by_cases hgroup : state.group=[]
  · have hi : ¬l.i≠0 := by
      rw [ne_eq,not_not,←UInt16.toNat_inj,h.fill,hgroup,hzero]
      rfl
    rw [finishText,if_pos hgroup,encodeTail,if_neg hi]
    exact h.written
  · have hpos := List.length_pos_of_ne_nil hgroup
    have hi : l.i≠0 := by
      rw [ne_eq,←UInt16.toNat_inj,h.fill,hzero]
      omega
    rw [finishText,if_neg hgroup,encodeTail,if_pos hi]
    dsimp only
    rw [padLoop_eq,h.fill]
    -- beyond the octets collected both sides take zeros
    have hfilled : ∀ j<3,(fillZeros l).charArray3 j=state.group.getD j 0 := by
      intro j hj
      unfold fillZeros
      dsimp only
      rw [h.fill]
      by_cases hin : j<state.group.length
      · rw [if_neg (by omega),h.stored j hin]
      · rw [if_pos (by omega),List.getD_eq_getElem?_getD,List.getElem?_eq_none (by omega)]
        rfl
    have hquad : charArray4 (fillZeros l)=
        sextets (state.group.getD 0 0) (state.group.getD 1 0) (state.group.getD 2 0) := by
      unfold charArray4
      rw [hfilled 0 (by decide),hfilled 1 (by decide),hfilled 2 (by decide)]
    rw [hquad]
    have hstart : Written output state.output (fillZeros l) := ⟨h.written.count,h.written.cells⟩
    have hlength : ∀ a b c,(((sextets a b c).take (state.group.length+1)).map base64Char).length=
        state.group.length+1 := by
      intro a b c
      have hfour : (sextets a b c).length=4 := rfl
      rw [List.length_map,List.length_take,hfour]
      omega
    refine (hstart.putChars _ ?_).putChars _ ?_
    · rw [hlength]
      omega
    · rw [List.length_append,hlength,List.length_replicate]
      omega

/-- `base64_encode` leaves the text, its terminator and nothing else in the
buffer, as long as the text fits its counter. -/
theorem base64EncodeTo_eq (charArray3 : ℕ → UInt8) (output : ℕ → Char) {input : List UInt8}
    (hlen : 4*((input.length+2)/3)<2^16) :
    (base64EncodeTo charArray3 output input).1.toNat=(base64Encode input).length ∧
      (base64EncodeTo charArray3 output input).2=
        overlay output (base64Encode input++[Char.ofNat 0]) := by
  have hbegin : Holds output ⟨[],[]⟩ ⟨0,0,charArray3,output⟩ :=
    ⟨⟨rfl,rfl⟩,rfl,Nat.zero_lt_succ 2,fun k hk => absurd hk (Nat.not_lt_zero k)⟩
  obtain ⟨hloop,hroom⟩ := hbegin.loop input (by
    rw [List.length_nil,List.length_nil,Nat.zero_add,Nat.zero_add]
    exact hlen)
  have hwritten : Written output (base64Encode input)
      (encodeTail (input.foldl encodeRound ⟨0,0,charArray3,output⟩)) := hloop.tail hroom
  refine ⟨hwritten.count,?_⟩
  unfold base64EncodeTo
  dsimp only
  rw [hwritten.count,hwritten.cells,overlay_push]

/-- The cells that were overwritten are the text. -/
theorem map_overlay (output : ℕ → Char) (text more : List Char) :
    (List.range text.length).map (overlay output (text++more))=text := by
  apply List.ext_getElem
  · rw [List.length_map,List.length_range]
  · intro j hj htext
    rw [List.getElem_map,List.getElem_range,overlay,List.getD_eq_getElem?_getD,
      List.getElem?_append_left htext,List.getElem?_eq_getElem htext,Option.getD_some]

/-- For every input whose text fits the 16-bit counter, `base64_encode`
returns the length of the padded encoding, writes that encoding and a
terminator behind it, leaves the other cells alone, and what it wrote decodes
to the input. -/
theorem base64_encode_exact (charArray3 : ℕ → UInt8) (output : ℕ → Char) (input : List UInt8)
    (hlen : 4*((input.length+2)/3)<65536) :
    (base64EncodeTo charArray3 output input).1.toNat=4*((input.length+2)/3) ∧
    (List.range (4*((input.length+2)/3))).map (base64EncodeTo charArray3 output input).2=
      StandardBase64.encode input ∧
    (base64EncodeTo charArray3 output input).2 (4*((input.length+2)/3))=Char.ofNat 0 ∧
    (∀ j,4*((input.length+2)/3)<j → (base64EncodeTo charArray3 output input).2 j=output j) ∧
    StandardBase64.decode ((List.range (base64EncodeTo charArray3 output input).1.toNat).map
      (base64EncodeTo charArray3 output input).2)=some input := by
  obtain ⟨hcount,hcells⟩ := base64EncodeTo_eq charArray3 output hlen
  rw [base64Encode_eq] at hcount hcells
  rw [hcount,hcells,←StandardBase64.encode_length input,map_overlay]
  refine ⟨rfl,rfl,?_,?_,StandardBase64.decode_encode input⟩
  · rw [overlay,List.getD_eq_getElem?_getD,List.getElem?_concat_length]
    rfl
  · intro j hj
    rw [overlay,List.getD_eq_getElem?_getD,List.getElem?_eq_none]
    · rfl
    · rw [List.length_append,List.length_singleton]
      omega

/-- Four octets in a buffer of blanks. -/
theorem base64_encode_exact_four :
    (base64EncodeTo (fun _ => 0xAA) (fun _ => ' ') [77,97,110,121]).1.toNat=8 ∧
    (List.range 8).map (base64EncodeTo (fun _ => 0xAA) (fun _ => ' ') [77,97,110,121]).2=
      StandardBase64.encode [77,97,110,121] := by
  have hexact := base64_encode_exact (fun _ => 0xAA) (fun _ => ' ') [77,97,110,121] (by decide)
  exact ⟨hexact.1,hexact.2.1⟩

end VlfGateway.Base64
