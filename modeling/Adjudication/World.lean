import Adjudication.Event

/-!
# The world outside a decision

What the caller's code works on, and a trace of all that was done. Entries are only ever added to the trace,
and nothing that is done depends on it.
-/

namespace Adjudication

/-- A state of type `σ`, and a trace with entries of type `τ`. -/
structure World (σ τ : Type) where
  state : σ
  /-- All that was written, the newest first. -/
  history : List τ := []

namespace World

variable {κ σ τ : Type}

/-- All that was written, in order. -/
def trace (w : World σ τ) : List τ := w.history.reverse

def after (w : World σ τ) (entries : List τ) (s : σ) : World σ τ := ⟨s, entries.reverse ++ w.history⟩

def record [Recorder κ τ] (w : World σ τ) (event : Event κ) : World σ τ :=
  w.after [Recorder.entry event] w.state

@[simp] theorem state_after (w : World σ τ) (entries : List τ) (s : σ) : (w.after entries s).state = s := rfl

@[simp] theorem trace_after (w : World σ τ) (entries : List τ) (s : σ) :
    (w.after entries s).trace = w.trace ++ entries := by
  simp [trace, after]

theorem after_after (w : World σ τ) (entries more : List τ) (s s' : σ) :
    (w.after entries s).after more s' = w.after (entries ++ more) s' := by
  simp [after]

@[simp] theorem state_record [Recorder κ τ] (w : World σ τ) (event : Event κ) :
    (w.record event).state = w.state := rfl

@[simp] theorem trace_record [Recorder κ τ] (w : World σ τ) (event : Event κ) :
    (w.record event).trace = w.trace ++ [Recorder.entry event] := by
  simp [record]

end World

end Adjudication
