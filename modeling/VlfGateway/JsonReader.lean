import Mathlib.Algebra.Order.Field.Rat
import Mathlib.Data.List.Basic
import Mathlib.Tactic

/-!
# Reading JSON text

A reader for the part of JSON that has objects, strings without escapes,
decimal numbers without exponents and `null`. What it accepts is JSON text, and
its result is what the text stands for; numbers are read exactly. The rules
below read text piece by piece: each says what is read from a piece that is
followed by other text.
-/

namespace VlfGateway.JsonReader

/-- JSON values. -/
inductive Json where
  /-- `null`. -/
  | null
  /-- A number. -/
  | number (value : ℚ)
  /-- A string. -/
  | string (text : List Char)
  /-- An object with its members in order. -/
  | object (members : List (List Char × Json))

/-- The first member of an object with a given name. -/
def Json.get (name : List Char) : Json → Option Json
  | .object members => members.lookup name
  | _ => none

/-- The value behind a path of member names. -/
def Json.follow : List String → Json → Option Json
  | [],j => some j
  | name::path,j => (j.get name.toList).bind (Json.follow path)

/-- Values other than objects. -/
def Json.isScalar : Json → Bool
  | .object _ => false
  | _ => true

/-- Two values have the same scalars behind the same paths. The order of
members does not matter. -/
def Json.Same (j j' : Json) : Prop :=
  ∀ path value,value.isScalar=true → (j.follow path=some value ↔ j'.follow path=some value)

/-- The quotation mark. -/
def quote : Char := '\x22'

/-- The opening brace. -/
def openBrace : Char := '\x7b'

/-- The closing brace. -/
def closeBrace : Char := '\x7d'

/-- White space. -/
def isWhitespace (c : Char) : Bool := [' ', '\t', '\n', '\r'].contains c

/-- Text behind its leading white space. -/
def skip (text : List Char) : List Char := text.dropWhile isWhitespace

/-! ## Numbers -/

/-- A fraction, if there is one. -/
def readFraction : List Char → Option (ℚ × List Char)
  | [] => some (0,[])
  | c::text =>
    if c= '.' then
      let digits := text.takeWhile Char.isDigit
      if digits=[] then none
      else some ((Nat.ofDigitChars 10 digits 0 : ℚ)/10^digits.length,text.dropWhile Char.isDigit)
    else some (0,c::text)

/-- A number without a sign. More than one digit must not start with zero. -/
def readMagnitude (text : List Char) : Option (ℚ × List Char) :=
  let digits := text.takeWhile Char.isDigit
  if digits=[] ∨ (digits.head?=some '0' ∧ digits.length≠1) then none
  else (readFraction (text.dropWhile Char.isDigit)).map fun fraction =>
    ((Nat.ofDigitChars 10 digits 0 : ℚ)+fraction.1,fraction.2)

/-- A number. -/
def readNumber : List Char → Option (ℚ × List Char)
  | [] => none
  | c::text =>
    if c= '-' then (readMagnitude text).map fun magnitude => (-magnitude.1,magnitude.2)
    else readMagnitude (c::text)

/-! ## Strings -/

/-- Characters that stand for themselves in a string. -/
def isPlain (c : Char) : Bool := !([quote, '\\'].contains c) && 0x20≤c.toNat

/-- A string behind its opening quote. -/
def readString (text : List Char) : Option (List Char × List Char) :=
  match text.dropWhile isPlain with
  | [] => none
  | c::rest => if c=quote then some (text.takeWhile isPlain,rest) else none

/-! ## Values -/

mutual

/-- A value, with a bound on the nesting and the number of members. -/
def readValue : ℕ → List Char → Option (Json × List Char)
  | 0,_ => none
  | n+1,text =>
    match skip text with
    | [] => none
    | c::rest =>
      if c=openBrace then
        match skip rest with
        | [] => none
        | d::rest' =>
          if d=closeBrace then some (.object [],rest')
          else (readMembers n (d::rest')).map fun members => (.object members.1,members.2)
      else if c=quote then (readString rest).map fun string => (.string string.1,string.2)
      else if c= 'n' then
        if rest.take 3=['u','l','l'] then some (.null,rest.drop 3) else none
      else (readNumber (c::rest)).map fun number => (.number number.1,number.2)

/-- The members of an object up to its closing brace. -/
def readMembers : ℕ → List Char → Option (List (List Char × Json) × List Char)
  | 0,_ => none
  | n+1,text =>
    match skip text with
    | [] => none
    | c::rest =>
      if c=quote then
        match readString rest with
        | none => none
        | some (name,rest) =>
          match skip rest with
          | [] => none
          | colon::rest =>
            if colon= ':' then
              match readValue n rest with
              | none => none
              | some (value,rest) =>
                match skip rest with
                | [] => none
                | c::rest =>
                  if c=closeBrace then some ([(name,value)],rest)
                  else if c= ',' then
                    (readMembers n rest).map fun members => ((name,value)::members.1,members.2)
                  else none
            else none
      else none

end

/-- The value that a text stands for. -/
def read (text : List Char) : Option Json :=
  match readValue (text.length+1) text with
  | none => none
  | some (value,rest) => if skip rest=[] then some value else none

/-! ## Rules for white space and digits -/

/-- Nothing is skipped in front of other characters. -/
theorem skip_cons {c : Char} (hc : isWhitespace c=false) (text : List Char) :
    skip (c::text)=c::text := by
  unfold skip
  rw [List.dropWhile_cons_of_neg (by rw [hc]; exact Bool.false_ne_true)]

/-- Blanks are skipped. -/
theorem skip_blanks (n : ℕ) (text : List Char) : skip (List.replicate n ' '++text)=skip text := by
  induction n with
  | zero => rfl
  | succ n ih =>
    rw [List.replicate_succ,List.cons_append]
    exact (List.dropWhile_cons_of_pos rfl).trans ih

/-- The text goes on with neither a digit nor a decimal point. -/
def Ends (rest : List Char) : Prop := ∀ c∈rest.head?,c.isDigit=false ∧ c≠ '.'

/-- A run of digits is taken as a whole. -/
theorem takeWhile_digits {digits rest : List Char} (hdigits : ∀ c∈digits,c.isDigit=true)
    (hrest : ∀ c∈rest.head?,c.isDigit=false) :
    (digits++rest).takeWhile Char.isDigit=digits ∧ (digits++rest).dropWhile Char.isDigit=rest := by
  rw [List.takeWhile_append_of_pos hdigits,List.dropWhile_append_of_pos hdigits]
  cases rest with
  | nil => exact ⟨List.append_nil _,rfl⟩
  | cons c rest =>
    have hc : ¬c.isDigit=true := by
      rw [hrest c rfl]
      exact Bool.false_ne_true
    rw [List.takeWhile_cons_of_neg hc,List.dropWhile_cons_of_neg hc,List.append_nil]
    exact ⟨rfl,rfl⟩

/-- The decimal digits of a positive number do not start with zero. -/
theorem head?_toDigits_ne {n : ℕ} (hn : 0<n) : (Nat.toDigits 10 n).head?≠some '0' := by
  induction n using Nat.strongRecOn with
  | ind n ih =>
    rw [Nat.toDigits_eq_if (by decide)]
    split
    · intro hzero
      have hdigit := Nat.digitChar_eq_zero.mp (Option.some.inj hzero)
      omega
    · rw [List.head?_append_of_ne_nil _ Nat.toDigits_ne_nil]
      exact ih (n/10) (by omega) (by omega)

/-- Decimal digits have no superfluous zero in front. -/
theorem toDigits_leading (n : ℕ) :
    ¬(Nat.toDigits 10 n=[] ∨
      ((Nat.toDigits 10 n).head?=some '0' ∧ (Nat.toDigits 10 n).length≠1)) := by
  rintro (hnil|⟨hzero,hlength⟩)
  · exact Nat.toDigits_ne_nil hnil
  · rcases Nat.eq_zero_or_pos n with rfl|hn
    · exact hlength rfl
    · exact head?_toDigits_ne hn hzero

/-! ## Rules for numbers -/

/-- Decimal digits behind which the number ends or has a fraction. -/
theorem readMagnitude_toDigits (n : ℕ) {rest : List Char}
    (hrest : ∀ c∈rest.head?,c.isDigit=false) :
    readMagnitude (Nat.toDigits 10 n++rest)=
      (readFraction rest).map fun fraction => ((n : ℚ)+fraction.1,fraction.2) := by
  have hall : ∀ c∈Nat.toDigits 10 n,c.isDigit=true :=
    fun c hc => Nat.isDigit_of_mem_toDigits (by decide) (by decide) hc
  have hdigits := takeWhile_digits hall hrest
  unfold readMagnitude
  dsimp only
  rw [hdigits.1,hdigits.2,if_neg (toDigits_leading n),Nat.ofDigitChars_ten_toDigits]

/-- No fraction. -/
theorem readFraction_none {rest : List Char} (h : Ends rest) : readFraction rest=some (0,rest) := by
  cases rest with
  | nil => rfl
  | cons c rest => exact if_neg (h c rfl).2

/-- A fraction with some digits. -/
theorem readFraction_digits {digits rest : List Char} (hne : digits≠[])
    (hdigits : digits.all Char.isDigit=true) (h : Ends rest) :
    readFraction ('.'::(digits++rest))=
      some ((Nat.ofDigitChars 10 digits 0 : ℚ)/10^digits.length,rest) := by
  have htake := takeWhile_digits (List.all_eq_true.mp hdigits) (fun c hc => (h c hc).1)
  unfold readFraction
  dsimp only
  rw [if_pos rfl,htake.1,htake.2,if_neg hne]

/-! ## Rules for values -/

/-- A plain string. -/
theorem readString_plain {body : List Char} (hbody : body.all isPlain=true) (rest : List Char) :
    readString (body++quote::rest)=some (body,rest) := by
  have hplain := List.all_eq_true.mp hbody
  have hquote : ¬isPlain quote=true := by decide
  unfold readString
  rw [List.dropWhile_append_of_pos hplain,List.takeWhile_append_of_pos hplain,
    List.dropWhile_cons_of_neg hquote,List.takeWhile_cons_of_neg hquote,List.append_nil]
  exact if_pos rfl

/-- A value that starts as a number does. -/
theorem readValue_number {n : ℕ} {c : Char} {text rest : List Char} {value : ℚ}
    (hc : c.isDigit=true ∨ c= '-') (h : readNumber (c::text)=some (value,rest)) :
    readValue (n+1) (c::text)=some (.number value,rest) := by
  have hother : isWhitespace c=false ∧ c≠openBrace ∧ c≠quote ∧ c≠ 'n' := by
    refine ⟨Bool.eq_false_iff.mpr ?_,?_,?_,?_⟩
    · intro hspace
      have hmem : c∈[' ', '\t', '\n', '\r'] := List.contains_iff_mem.mp hspace
      fin_cases hmem <;> revert hc <;> decide
    all_goals
      rintro rfl
      revert hc
      decide
  rw [readValue,skip_cons hother.1]
  dsimp only
  rw [if_neg hother.2.1,if_neg hother.2.2.1,if_neg hother.2.2.2,h]
  rfl

/-- A number without a sign. -/
theorem readValue_unsigned {n m : ℕ} {tail rest : List Char} {value : ℚ}
    (h : readMagnitude (Nat.toDigits 10 m++tail)=some (value,rest)) :
    readValue (n+1) (Nat.toDigits 10 m++tail)=some (.number value,rest) := by
  cases hdigits : Nat.toDigits 10 m with
  | nil => exact absurd hdigits Nat.toDigits_ne_nil
  | cons c digits =>
    have hc : c.isDigit=true := Nat.isDigit_of_mem_toDigits (b:=10) (n:=m) (by decide) (by decide)
      (by rw [hdigits]; exact List.mem_cons_self)
    have hsign : c≠ '-' := by
      rintro rfl
      revert hc
      decide
    rw [hdigits] at h
    exact readValue_number (.inl hc) ((if_neg hsign).trans h)

/-- A number with a sign. -/
theorem readValue_negative {n : ℕ} {text rest : List Char} {value : ℚ}
    (h : readMagnitude text=some (value,rest)) :
    readValue (n+1) ('-'::text)=some (.number (-value),rest) := by
  refine readValue_number (.inr rfl) ?_
  unfold readNumber
  dsimp only
  rw [if_pos rfl,h]
  rfl

/-- The value `null`. -/
theorem readValue_null (n : ℕ) (rest : List Char) :
    readValue (n+1) ("null".toList++rest)=some (.null,rest) := by
  have hskip : skip ("null".toList++rest)="null".toList++rest :=
    skip_cons (by decide : isWhitespace 'n'=false) _
  rw [readValue,hskip]
  rfl

/-- A plain string as a value. -/
theorem readValue_string (n : ℕ) {body : List Char} (hbody : body.all isPlain=true)
    (rest : List Char) :
    readValue (n+1) (quote::(body++quote::rest))=some (.string body,rest) := by
  rw [readValue,skip_cons (by decide)]
  dsimp only
  rw [if_neg (by decide),if_pos rfl,readString_plain hbody]
  rfl

/-- An object with members. -/
theorem readValue_object {n : ℕ} {text rest : List Char} {members : List (List Char × Json)}
    (h : readMembers n (quote::text)=some (members,rest)) :
    readValue (n+1) (openBrace::quote::text)=some (.object members,rest) := by
  rw [readValue,skip_cons (by decide)]
  dsimp only
  rw [if_pos rfl,skip_cons (by decide)]
  dsimp only
  rw [if_neg (by decide),h]
  rfl

/-- The member in front of a closing brace. -/
theorem readMembers_last {n : ℕ} {name text after rest : List Char} {value : Json}
    (hname : name.all isPlain=true) (hvalue : readValue n text=some (value,after))
    (hafter : skip after=closeBrace::rest) :
    readMembers (n+1) (quote::(name++quote:: ':'::text))=some ([(name,value)],rest) := by
  rw [readMembers,skip_cons (by decide)]
  dsimp only
  rw [if_pos rfl,readString_plain hname]
  dsimp only
  rw [skip_cons (by decide)]
  dsimp only
  rw [if_pos rfl,hvalue]
  dsimp only
  rw [hafter]
  exact if_pos rfl

/-- A member that is followed by others. -/
theorem readMembers_next {n : ℕ} {name text after rest : List Char} {value : Json}
    {members : List (List Char × Json)} (hname : name.all isPlain=true)
    (hvalue : readValue n text=some (value, ','::after))
    (hmembers : readMembers n after=some (members,rest)) :
    readMembers (n+1) (quote::(name++quote:: ':'::text))=some ((name,value)::members,rest) := by
  rw [readMembers,skip_cons (by decide)]
  dsimp only
  rw [if_pos rfl,readString_plain hname]
  dsimp only
  rw [skip_cons (by decide)]
  dsimp only
  rw [if_pos rfl,hvalue]
  dsimp only
  rw [skip_cons (by decide)]
  dsimp only
  rw [if_neg (by decide),if_pos rfl,hmembers]
  rfl

/-- A value behind which the text ends. -/
theorem read_of_readValue {text : List Char} {value : Json}
    (h : readValue (text.length+1) text=some (value,[])) : read text=some value := by
  unfold read
  rw [h]
  rfl

/-- A path of two names goes through the first member. -/
theorem Json.follow_pair {j member : Json} {name : String} (h : j.follow [name]=some member)
    (field : String) : j.follow [name,field]=member.follow [field] := by
  unfold Json.follow at h ⊢
  cases hget : j.get name.toList with
  | none =>
    rw [hget] at h
    exact absurd h (Option.some_ne_none member).symm
  | some value =>
    rw [hget] at h
    cases h
    rfl

/-- Scalars behind one path are equal. -/
theorem Json.Same.scalar_eq {j j' value value' : Json} (h : Json.Same j j') (path : List String)
    (hj : j.follow path=some value) (hj' : j'.follow path=some value')
    (hscalar : value.isScalar=true) : value=value' := by
  have hvalue := (h path value hscalar).mp hj
  rw [hj'] at hvalue
  exact (Option.some.inj hvalue).symm

end VlfGateway.JsonReader
