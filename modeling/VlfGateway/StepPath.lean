import Mathlib.Data.List.Basic
import Mathlib.Tactic

/-!
# Executed paths of a labelled step relation

A path retains every executed transition in order. An invariant kept by the
steps holds in every state of every path. The guarded rule relates a property
of the executed transitions to a condition that is read off before each step:
when the condition is exactly what separates good steps from bad ones in the
states the invariant describes, a path is good throughout if and only if the
condition was met at each of its steps.
-/

namespace VlfGateway.StepPath

/-- One executed step with the states before and after it. -/
structure Transition (σ ι : Type) where
  /-- State in which the step is taken. -/
  before : σ
  /-- Label of the step. -/
  label : ι
  /-- State the step leaves behind. -/
  after : σ

/-- Finite executions from `start`, with every transition retained in order. -/
inductive Path {σ ι : Type} (step : σ → ι → σ → Prop) (start : σ) :
    List (Transition σ ι) → σ → Prop
  | nil : Path step start [] start
  | snoc {ts : List (Transition σ ι)} {s s' : σ} {i : ι} :
      Path step start ts s → step s i s' → Path step start (ts++[⟨s,i,s'⟩]) s'

/-- States some execution from a permitted start leads to. -/
def Reachable {σ ι : Type} (init : σ → Prop) (step : σ → ι → σ → Prop) (s : σ) : Prop :=
  ∃ start ts,init start ∧ Path step start ts s

/-- Steps of a total function that are taken only where they are enabled. -/
def stepOf {σ ι : Type} (enabled : σ → ι → Prop) (f : σ → ι → σ) (s : σ) (i : ι) (s' : σ) : Prop :=
  enabled s i ∧ s'=f s i

/-- The transitions of a row of moves and the state behind them, if every move
is possible. -/
def traceOf {σ ι κ : Type} (play : σ → κ → Option (ι × σ)) :
    σ → List κ → Option (List (Transition σ ι) × σ)
  | s,[] => some ([],s)
  | s,move::rest => (play s move).bind fun next =>
    (traceOf play next.2 rest).map fun later => (⟨s,next.1,next.2⟩::later.1,later.2)

/-- The moves of a partial function, labelled by its argument. -/
def labelled {σ ι : Type} (act : σ → ι → Option σ) (s : σ) (i : ι) : Option (ι × σ) :=
  (act s i).map fun s' => (i,s')

/-- A partial function that is tried only where it is enabled. -/
def attempt {σ ι : Type} (enabled : σ → ι → Prop) [∀ s i,Decidable (enabled s i)]
    (act : σ → ι → Option σ) (s : σ) (i : ι) : Option σ :=
  if enabled s i then act s i else none

section Rules

variable {σ ι : Type} {step : σ → ι → σ → Prop} {start s : σ} {ts : List (Transition σ ι)}

/-- Every retained transition was a step of the relation. -/
theorem Path.steps (h : Path step start ts s) :
    ∀ t∈ts,step t.before t.label t.after := by
  induction h with
  | nil => simp only [List.not_mem_nil,false_implies,implies_true]
  | snoc _ hs ih =>
    intro t ht
    rcases List.mem_append.mp ht with ht|ht
    · exact ih t ht
    · rw [List.mem_singleton.mp ht]
      exact hs

/-- A property of the start that every step keeps holds in the last state. -/
theorem Path.invariant {Inv : σ → Prop} (h0 : Inv start)
    (hstep : ∀ s i s',Inv s → step s i s' → Inv s') (h : Path step start ts s) : Inv s := by
  induction h with
  | nil => exact h0
  | snoc _ hs ih => exact hstep _ _ _ ih hs

/-- Under the same hypotheses the property holds before and after every
retained transition. -/
theorem Path.invariant_transitions {Inv : σ → Prop} (h0 : Inv start)
    (hstep : ∀ s i s',Inv s → step s i s' → Inv s') (h : Path step start ts s) :
    ∀ t∈ts,Inv t.before ∧ Inv t.after := by
  induction h with
  | nil => simp only [List.not_mem_nil,false_implies,implies_true]
  | snoc hp hs ih =>
    intro t ht
    have hi := hp.invariant h0 hstep
    rcases List.mem_append.mp ht with ht|ht
    · exact ih t ht
    · rw [List.mem_singleton.mp ht]
      exact ⟨hi,hstep _ _ _ hi hs⟩

/-- A row of moves that are steps makes a path longer. -/
theorem Path.trace {κ : Type} (play : σ → κ → Option (ι × σ))
    (hplay : ∀ s k i s',play s k=some (i,s') → step s i s') {moves : List κ}
    {more : List (Transition σ ι)} {s' : σ} (h : Path step start ts s)
    (hmoves : traceOf play s moves=some (more,s')) : Path step start (ts++more) s' := by
  induction moves generalizing s ts more with
  | nil =>
    obtain ⟨rfl,rfl⟩ := Prod.mk.inj (Option.some.inj hmoves)
    rwa [List.append_nil]
  | cons move rest ih =>
    obtain ⟨⟨i,next⟩,hnext,hrest⟩ := Option.bind_eq_some_iff.mp hmoves
    obtain ⟨⟨others,last⟩,hothers,hlast⟩ := Option.map_eq_some_iff.mp hrest
    obtain ⟨rfl,rfl⟩ := Prod.mk.inj hlast
    have hpath := ih (h.snoc (hplay s move i next hnext)) hothers
    rwa [List.append_assoc] at hpath

/-- A row of moves that are steps is a path. -/
theorem path_of_trace {κ : Type} {play : σ → κ → Option (ι × σ)}
    (hplay : ∀ s k i s',play s k=some (i,s') → step s i s') {moves : List κ}
    (h : traceOf play start moves=some (ts,s)) : Path step start ts s :=
  (Path.nil : Path step start [] start).trace play hplay h

/-- The moves of a partial function are steps with their argument as label. -/
theorem labelled_step {act : σ → ι → Option σ} {s s' : σ} {i j : ι}
    (h : labelled act s i=some (j,s')) : act s j=some s' := by
  obtain ⟨next,hnext,hlabel⟩ := Option.map_eq_some_iff.mp h
  obtain ⟨rfl,rfl⟩ := Prod.mk.inj hlabel
  exact hnext

/-- An attempt that succeeds was enabled. -/
theorem attempt_step {enabled : σ → ι → Prop} [∀ s i,Decidable (enabled s i)]
    {act : σ → ι → Option σ} {s s' : σ} {i j : ι}
    (h : labelled (attempt enabled act) s i=some (j,s')) : enabled s j ∧ act s j=some s' :=
  Option.ite_none_right_eq_some.mp (labelled_step h)

/-- An attempt at a guarded function is a step of it. -/
theorem attempt_stepOf {enabled : σ → ι → Prop} [∀ s i,Decidable (enabled s i)] {f : σ → ι → σ}
    {s s' : σ} {i j : ι} (h : labelled (attempt enabled fun s i => some (f s i)) s i=some (j,s')) :
    stepOf enabled f s j s' := by
  obtain ⟨henabled,hnext⟩ := attempt_step h
  exact ⟨henabled,(Option.some.inj hnext).symm⟩

/-- A row of attempts at a guarded function is a path of it. -/
theorem path_of_attempts {enabled : σ → ι → Prop} [∀ s i,Decidable (enabled s i)] {f : σ → ι → σ}
    {moves : List ι}
    (h : traceOf (labelled (attempt enabled fun s i => some (f s i))) start moves=some (ts,s)) :
    Path (stepOf enabled f) start ts s :=
  path_of_trace (fun _ _ _ _ => attempt_stepOf) h

/-- A permitted start is reachable. -/
theorem Reachable.initial {init : σ → Prop} (h : init s) : Reachable init step s := ⟨s,[],h,.nil⟩

/-- One more step stays within the reachable states. -/
theorem Reachable.further {init : σ → Prop} {i : ι} {s' : σ} (h : Reachable init step s)
    (hs : step s i s') : Reachable init step s' := by
  obtain ⟨start,ts,hinit,hp⟩ := h
  exact ⟨start,ts++[⟨s,i,s'⟩],hinit,hp.snoc hs⟩

/-- A function step that is enabled stays within the reachable states. -/
theorem Reachable.taken {init : σ → Prop} {enabled : σ → ι → Prop} {f : σ → ι → σ}
    (h : Reachable init (stepOf enabled f) s) (i : ι) (he : enabled s i) :
    Reachable init (stepOf enabled f) (f s i) := h.further ⟨he,rfl⟩

/-- Reachable states inherit an invariant of the permitted starts. -/
theorem Reachable.invariant {init Inv : σ → Prop} (h0 : ∀ s,init s → Inv s)
    (hstep : ∀ s i s',Inv s → step s i s' → Inv s') (h : Reachable init step s) : Inv s := by
  obtain ⟨start,ts,hinit,hp⟩ := h
  exact hp.invariant (h0 start hinit) hstep

/-- Reachable states of a guarded function inherit an invariant of the
permitted starts. -/
theorem Reachable.invariant_stepOf {init Inv : σ → Prop} {enabled : σ → ι → Prop} {f : σ → ι → σ}
    (h0 : ∀ s,init s → Inv s) (hf : ∀ s i,Inv s → enabled s i → Inv (f s i))
    (h : Reachable init (stepOf enabled f) s) : Inv s := by
  refine h.invariant h0 ?_
  rintro s i _ hi ⟨he,rfl⟩
  exact hf s i hi he

/-- When every step of a path met the condition, the guarded invariant holds
at its end and every one of its transitions was good. -/
theorem Path.guarded (Inv : σ → Prop) (Cond : σ → ι → Prop) (Good : σ → ι → σ → Prop)
    (h0 : Inv start)
    (hgood : ∀ s i s',Inv s → step s i s' → Cond s i → Inv s' ∧ Good s i s')
    (h : Path step start ts s) (hc : ∀ t∈ts,Cond t.before t.label) :
    Inv s ∧ ∀ t∈ts,Good t.before t.label t.after := by
  induction h with
  | nil => exact ⟨h0,by simp only [List.not_mem_nil,false_implies,implies_true]⟩
  | snoc hp hs ih =>
    obtain ⟨hi,hg⟩ := ih (fun t ht => hc t (List.mem_append_left _ ht))
    have hlast := hgood _ _ _ hi hs (hc _ (List.mem_append_right _ (List.mem_singleton_self _)))
    refine ⟨hlast.1,fun t ht => ?_⟩
    rcases List.mem_append.mp ht with ht|ht
    · exact hg t ht
    · rw [List.mem_singleton.mp ht]
      exact hlast.2

/-- A path is good throughout exactly when the condition was met at each of
its steps, provided a step that misses the condition is itself bad. -/
theorem Path.guarded_iff (Inv : σ → Prop) (Cond : σ → ι → Prop) (Good : σ → ι → σ → Prop)
    (h0 : Inv start)
    (hgood : ∀ s i s',Inv s → step s i s' → Cond s i → Inv s' ∧ Good s i s')
    (hbad : ∀ s i s',Inv s → step s i s' → ¬Cond s i → ¬Good s i s')
    (h : Path step start ts s) :
    (∀ t∈ts,Good t.before t.label t.after) ↔ ∀ t∈ts,Cond t.before t.label := by
  constructor
  · intro hg
    induction h with
    | nil => simp only [List.not_mem_nil,false_implies,implies_true]
    | snoc hp hs ih =>
      have hpre := ih (fun t ht => hg t (List.mem_append_left _ ht))
      have hi := (hp.guarded Inv Cond Good h0 hgood hpre).1
      intro t ht
      rcases List.mem_append.mp ht with ht|ht
      · exact hpre t ht
      · rw [List.mem_singleton.mp ht]
        by_contra hc
        exact hbad _ _ _ hi hs hc (hg _ (List.mem_append_right _ (List.mem_singleton_self _)))
  · exact fun hc => (h.guarded Inv Cond Good h0 hgood hc).2

end Rules

end VlfGateway.StepPath
