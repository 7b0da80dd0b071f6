import Mathlib

/-!
# Labelled runs

A system is a step relation between states with labels on its steps.  A run
keeps its whole history, newest event first, so that a statement about what
happened earlier is a statement about membership in a list.  The rules below
turn one-step facts into facts about every run, and carry a step-wise
simulation over to runs.
-/

namespace Lazier.Library

open List

/-- One step of a run with the states around it. -/
structure Event (State Label : Type) where
  pre : State
  label : Label
  post : State

variable {State Label : Type}

/-- Runs of `step` from `start`, with their history. -/
inductive Run (step : State → Label → State → Prop) (start : State) :
    List (Event State Label) → State → Prop
  | start : Run step start [] start
  | extend {history : List (Event State Label)} {pre post : State}
      {label : Label} (before : Run step start history pre) (last : step pre label post) :
      Run step start (⟨pre, label, post⟩ :: history) post

namespace Run

variable {step : State → Label → State → Prop} {start final : State}
  {history : List (Event State Label)}

theorem invariant (inv : State → Prop)
    (hstep : ∀ pre label post, inv pre → step pre label post → inv post) (hstart : inv start)
    (hrun : Run step start history final) : inv final := by
  induction hrun with
  | start => exact hstart
  | extend before last ih => exact hstep _ _ _ ih last

theorem event_reached
    (hrun : Run step start history final) {event : Event State Label} (hevent : event ∈ history) :
    step event.pre event.label event.post ∧ ∃ earlier, Run step start earlier event.pre := by
  induction hrun with
  | start => simp at hevent
  | extend before last ih =>
    rcases mem_cons.mp hevent with rfl | hold
    · exact ⟨last, _, before⟩
    · exact ih hold

theorem after_event
    (hrun : Run step start history final) {event : Event State Label} (hevent : event ∈ history) :
    ∃ later, Run step event.post later final := by
  induction hrun with
  | start => simp at hevent
  | extend before last ih =>
    rcases mem_cons.mp hevent with rfl | hold
    · exact ⟨[], .start⟩
    · obtain ⟨later, hlater⟩ := ih hold
      exact ⟨_, hlater.extend last⟩

/-- A predicate of the history and the state, kept by every step that meets a
condition, holds at the end of every run whose steps all meet it. -/
theorem history_invariant (good : Event State Label → Prop)
    (inv : List (Event State Label) → State → Prop)
    (hstep : ∀ history pre label post, inv history pre →
      step pre label post → good ⟨pre, label, post⟩ → inv (⟨pre, label, post⟩ :: history) post)
    (hstart : inv [] start) (hrun : Run step start history final)
    (hgood : ∀ event ∈ history, good event) : inv history final := by
  induction hrun with
  | start => exact hstart
  | extend before last ih =>
    obtain ⟨hlast, hbefore⟩ := forall_mem_cons.mp hgood
    exact hstep _ _ _ _ (ih hbefore) last hlast

/-- Two events of a run are the same step or happen one after the other. -/
theorem event_order
    (hrun : Run step start history final) {left right : Event State Label} (hleft : left ∈ history)
    (hright : right ∈ history) : left = right ∨ (∃ between, Run step left.post between right.pre) ∨
      ∃ between, Run step right.post between left.pre := by
  induction hrun with
  | start => simp at hleft
  | extend before last ih =>
    rcases mem_cons.mp hleft with rfl | hleft
    · rcases mem_cons.mp hright with rfl | hright
      · exact .inl rfl
      · exact .inr (.inr (before.after_event hright))
    · rcases mem_cons.mp hright with rfl | hright
      · exact .inr (.inl (before.after_event hleft))
      · exact ih hleft hright

theorem trans {earlier later : List (Event State Label)} {middle : State}
    (hfirst : Run step start earlier middle) (hsecond : Run step middle later final) :
    Run step start (later ++ earlier) final := by
  induction hsecond with
  | start => exact hfirst
  | extend before last ih => exact ih.extend last

/-- A preorder between states that every step respects relates the two ends of
every run. -/
theorem monotone (rel : State → State → Prop) (hrefl : ∀ state, rel state state)
    (htrans : ∀ first second third, rel first second → rel second third → rel first third)
    (inv : State → Prop) (hinv : ∀ pre label post, inv pre → step pre label post → inv post)
    (hstep : ∀ pre label post, inv pre → step pre label post → rel pre post) (hstart : inv start)
    (hrun : Run step start history final) : rel start final := by
  induction hrun with
  | start => exact hrefl _
  | extend before last ih =>
    have hpre := invariant inv hinv hstart before
    exact htrans _ _ _ ih (hstep _ _ _ hpre last)

/-- Strengthen a run's steps with a property they all have. -/
theorem mono {narrow : State → Label → State → Prop}
    (hsub : ∀ pre label post, step pre label post → narrow pre label post)
    (hrun : Run step start history final) : Run narrow start history final := by
  induction hrun with
  | start => exact .start
  | extend before last ih => exact ih.extend (hsub _ _ _ last)

end Run

variable {start final : State}

/-- A step-wise simulation: when every concrete step is a run of the abstract
system, every concrete run is one too, and each abstract event stems from a
concrete one. -/
theorem Run.simulate {Abstract Action : Type} {step : State → Label → State → Prop}
    {astep : Abstract → Action → Abstract → Prop} (abs : State → Abstract)
    (stems : Event State Label → Event Abstract Action → Prop)
    (hsim : ∀ pre label post, step pre label post →
      ∃ actions, Run astep (abs pre) actions (abs post) ∧
        ∀ action ∈ actions, stems ⟨pre, label, post⟩ action) {history : List (Event State Label)}
    (hrun : Run step start history final) : ∃ actions, Run astep (abs start) actions (abs final) ∧
      ∀ action ∈ actions, ∃ event ∈ history, stems event action := by
  induction hrun with
  | start => exact ⟨[], .start, by simp⟩
  | extend before last ih =>
    obtain ⟨earlier, hearlier, hstems⟩ := ih
    obtain ⟨later, hlater, hstems'⟩ := hsim _ _ _ last
    refine ⟨later ++ earlier, hearlier.trans hlater, ?_⟩
    intro action haction
    rcases mem_append.mp haction with hnew | hold
    · exact ⟨_, mem_cons_self, hstems' action hnew⟩
    · obtain ⟨event, hevent, hstem⟩ := hstems action hold
      exact ⟨event, mem_cons_of_mem _ hevent, hstem⟩

/-! ## Executable systems -/

/-- The state after the given labels, newest first, if each of them is allowed
where it is taken and has a step there. -/
def perform (exec : State → Label → Option State) (allowed : State → Label → Bool) (start : State) :
    List Label → Option State
  | [] => some start
  | label :: earlier =>
    match perform exec allowed start earlier with
    | none => none
    | some state => if allowed state label then exec state label else none

variable {exec : State → Label → Option State} {allowed : State → Label → Bool}
  {labels : List Label}

theorem run_of_perform (hperform : perform exec allowed start labels = some final) : ∃ history,
      Run (fun pre label post => exec pre label = some post) start history final ∧
      history.map Event.label = labels ∧ ∀ event ∈ history, allowed event.pre event.label := by
  induction labels generalizing final with
  | nil =>
    cases hperform
    exact ⟨[], .start, rfl, by simp⟩
  | cons label earlier ih =>
    rw [perform] at hperform
    split at hperform
    · cases hperform
    · rename_i state hearlier
      split at hperform
      · rename_i hallowed
        obtain ⟨history, hrun, hlabels, hall⟩ := ih hearlier
        exact ⟨_, hrun.extend hperform, by simp [hlabels], forall_mem_cons.mpr ⟨hallowed, hall⟩⟩
      · cases hperform

/-- A property of the state after a performed list of labels, oldest first. -/
theorem exists_run_of_perform {check : State → Bool}
    (hperformed : (perform exec allowed start labels.reverse).any check = true) : ∃ history final,
      Run (fun pre label post => exec pre label = some post) start history final ∧
      (∀ event ∈ history, event.label ∈ labels) ∧
      (∀ event ∈ history, allowed event.pre event.label) ∧ check final := by
  obtain ⟨final, hfinal, hcheck⟩ := (Option.any_eq_true _ _).mp hperformed
  obtain ⟨history, hrun, hlabels, hallowed⟩ := run_of_perform hfinal
  refine ⟨history, final, hrun, fun event hevent => ?_, hallowed, hcheck⟩
  have hmem : event.label ∈ history.map Event.label := mem_map_of_mem hevent
  rw [hlabels] at hmem
  exact mem_reverse.mp hmem

end Lazier.Library
