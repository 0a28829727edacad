import Mathlib.Data.String.Basic
import PhoneticSearch.CommandLine.Commands

/-!
# Commands at work

* `Printing.after`: what a command at work has come to, and what it has printed.
* `Printing.Prints`: a step that cannot fail, prints just some lines and preserves a property of its
  state; so does a loop of such steps (`Printing.Prints.foldlM`).
* `Outcome.ofPrinting_ok`, `Outcome.ofPrinting_error`: the outcome of a command.
-/

namespace PhoneticSearch

namespace Printed

theorem add_nil (printed : Printed) : printed.add [] = printed := by simp [add]

theorem add_add (printed : Printed) (first rest : List String) :
    (printed.add first).add rest = printed.add (first ++ rest) := by
  simp only [add, mk.injEq, and_true, ← Array.toList_inj, Array.toList_appendList,
    List.append_assoc]

end Printed

namespace Printing

variable {α β σ : Type}

/-- What a task comes to, and what has been printed then. -/
def after (task : Printing α) (printed : Printed) : Except CommandFault α × Printed :=
  task.run.run printed

theorem after_pure (value : α) (printed : Printed) :
    after (pure value) printed = (.ok value, printed) := rfl

theorem after_print (lines : List String) (printed : Printed) :
    after (print lines) printed = (.ok (), printed.add lines) := rfl

theorem after_bind_ok {task : Printing α} {value : α} {before between : Printed}
    (h : after task before = (.ok value, between)) (next : α → Printing β) :
    after (task >>= next) before = after (next value) between := by
  have hrun : task.run.run before = (.ok value, between) := h
  rw [after, ExceptT.run_bind, StateT.run_bind, hrun]
  rfl

theorem after_bind_error {task : Printing α} {fault : CommandFault} {before between : Printed}
    (h : after task before = (.error fault, between)) (next : α → Printing β) :
    after (task >>= next) before = (.error fault, between) := by
  have hrun : task.run.run before = (.error fault, between) := h
  rw [after, ExceptT.run_bind, StateT.run_bind, hrun]
  rfl

/-- Whatever has been printed, a task prints some lines more and ends with a value that has a
property. -/
def Prints (task : Printing α) (lines : List String) (P : α → Prop) : Prop :=
  ∀ printed, ∃ value, P value ∧ after task printed = (.ok value, printed.add lines)

/-- A loop prints what its steps print, one after the other. -/
theorem Prints.foldlM {P : σ → Prop} {step : σ → α → Printing σ} {lines : α → List String}
    (hstep : ∀ state item, P state → Prints (step state item) (lines item) P) (items : List α)
    {state : σ} (hstate : P state) :
    Prints (items.foldlM step state) (items.flatMap lines) P := by
  intro printed
  induction items generalizing state printed with
  | nil =>
    refine ⟨state, hstate, ?_⟩
    rw [List.foldlM_nil, after_pure, List.flatMap_nil, Printed.add_nil]
  | cons item items ih =>
    obtain ⟨next, hnext, hfirst⟩ := hstep state item hstate printed
    obtain ⟨last, hlast, hrest⟩ := ih hnext (printed.add (lines item))
    refine ⟨last, hlast, ?_⟩
    rw [List.foldlM_cons, after_bind_ok hfirst, hrest, Printed.add_add, List.flatMap_cons]

end Printing

namespace Outcome

theorem ofPrinting_ok {task : Printing Unit} {last : Printed}
    (h : task.after ⟨#[], #[]⟩ = (.ok (), last)) :
    ofPrinting task = ⟨last.output.toList, last.warnings.toList, none⟩ := by
  have hrun : task.run.run ⟨#[], #[]⟩ = (.ok (), last) := h
  rw [ofPrinting, hrun]

theorem ofPrinting_error {task : Printing Unit} {fault : CommandFault} {last : Printed}
    (h : task.after ⟨#[], #[]⟩ = (.error fault, last)) :
    ofPrinting task = ⟨last.output.toList, last.warnings.toList, some fault⟩ := by
  have hrun : task.run.run ⟨#[], #[]⟩ = (.error fault, last) := h
  rw [ofPrinting, hrun]

theorem printed_append (first rest : List String) :
    printed (first ++ rest) = printed first ++ printed rest := by
  rw [printed, List.map_append, String.join_append, printed, printed]

theorem printed_flatMap {α : Type} (items : List α) (lines : α → List String) :
    printed (items.flatMap lines) = String.join (items.map fun item => printed (lines item)) := by
  induction items with
  | nil => rfl
  | cons item items ih =>
    rw [List.flatMap_cons, printed_append, ih, List.map_cons, String.join_cons]

end Outcome

end PhoneticSearch
