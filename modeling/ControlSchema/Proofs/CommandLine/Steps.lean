import ControlSchema.CommandLine.Run
import ControlSchema.Proofs.Storage.Inquiry

/-!
# Steps of a command

A command runs on a disk and prints. Where only its failures matter, what it printed
does not, so a command is seen as a relation between the disk that it is begun on, its
result and the disk that it ends on. A failure is then followed to the step that it comes
from: printing never fails, asking leaves the disk as it is, and anything else fails with
the error that its own errors are turned into.
-/

namespace ControlSchema

open Disk Storage

namespace CommandLine

variable {α β ε : Type} {d d' : Disk} {e : CommandError}

/-- The command, begun on one disk, ends with the result on the other, whatever was printed. -/
def Leads (x : CommandT Run α) (d : Disk) (r : Except CommandError α) (d' : Disk) : Prop :=
  ∃ output output', (x.run.run output).run d = ((r, output'), d')

theorem leads_bind {x : CommandT Run α} {f : α → CommandT Run β} {r : Except CommandError β}
    (h : Leads (x >>= f) d r d') :
    (∃ e, r = .error e ∧ Leads x d (.error e) d') ∨
      ∃ a d₁, Leads x d (.ok a) d₁ ∧ Leads (f a) d₁ r d' := by
  obtain ⟨output, output', h⟩ := h
  rw [run_state_bind_eq] at h
  rcases hx : (x.run.run output).run d with ⟨⟨r', output₁⟩, d₁⟩
  rw [hx] at h
  cases r' with
  | ok a => exact .inr ⟨a, d₁, ⟨output, output₁, hx⟩, output₁, output', h⟩
  | error e =>
    cases h
    exact .inl ⟨e, rfl, output, output', hx⟩

theorem leads_silently {wrap : ε → CommandError} {action : ExceptT ε Run α}
    {r : Except CommandError α} (h : Leads (silently wrap action) d r d') :
    r = (d.answer action).mapError wrap ∧ d' = (action.run d).2 := by
  obtain ⟨output, output', h⟩ := h
  rw [silently, run_state_bind_eq] at h
  rcases hrun : action.run d with ⟨r', d₁⟩
  have hlift : ((ExceptT.lift (StateT.lift action.run) : CommandT Run _).run.run output).run d
      = ((.ok r', output), d₁) := by
    show ((Except.ok (action.run d).1, output), (action.run d).2) = _
    rw [hrun]
  rw [hlift] at h
  rw [answer, hrun]
  cases r' with
  | ok a =>
    cases h
    exact ⟨rfl, rfl⟩
  | error cause =>
    cases h
    exact ⟨rfl, rfl⟩

theorem leads_purely {wrap : ε → CommandError} {result : Except ε α} {r : Except CommandError α}
    (h : Leads (purely wrap result) d r d') : r = result.mapError wrap ∧ d' = d := by
  obtain ⟨output, output', h⟩ := h
  cases h
  exact ⟨rfl, rfl⟩

/-- A command that begins by asking fails with what is asked, or goes on with the answer. -/
theorem leads_ask_bind {wrap : ε → CommandError} {action : ExceptT ε Run α}
    {f : α → CommandT Run β} {r : Except CommandError β} (hdisk : (action.run d).2 = d)
    (h : Leads (silently wrap action >>= f) d r d') :
    (∃ cause, d.answer action = .error cause ∧ r = .error (wrap cause) ∧ d' = d) ∨
      ∃ a, d.answer action = .ok a ∧ Leads (f a) d r d' := by
  obtain ⟨e, rfl, hfails⟩ | ⟨a, d₁, haction, h⟩ := leads_bind h
  · obtain ⟨hanswer, hd'⟩ := leads_silently hfails
    obtain ⟨cause, hcause, rfl⟩ := Attempt.mapError_eq_error hanswer.symm
    exact .inl ⟨cause, hcause, rfl, hd'.trans hdisk⟩
  · obtain ⟨hanswer, hd₁⟩ := leads_silently haction
    rw [hd₁, hdisk] at h
    exact .inr ⟨a, Attempt.mapError_eq_ok hanswer.symm, h⟩

theorem leads_purely_bind {wrap : ε → CommandError} {result : Except ε α}
    {f : α → CommandT Run β} {r : Except CommandError β}
    (h : Leads (purely wrap result >>= f) d r d') :
    (∃ cause, result = .error cause ∧ r = .error (wrap cause) ∧ d' = d) ∨
      ∃ a, result = .ok a ∧ Leads (f a) d r d' := by
  obtain ⟨e, rfl, hfails⟩ | ⟨a, d₁, hresult, h⟩ := leads_bind h
  · obtain ⟨hanswer, hd'⟩ := leads_purely hfails
    obtain ⟨cause, hcause, rfl⟩ := Attempt.mapError_eq_error hanswer.symm
    exact .inl ⟨cause, hcause, rfl, hd'⟩
  · obtain ⟨hanswer, hd₁⟩ := leads_purely hresult
    rw [hd₁] at h
    exact .inr ⟨a, Attempt.mapError_eq_ok hanswer.symm, h⟩

theorem leads_print {text : String} {r : Except CommandError Unit}
    (h : Leads (print text : CommandT Run Unit) d r d') : r = .ok () ∧ d' = d := by
  obtain ⟨output, output', h⟩ := h
  cases h
  exact ⟨rfl, rfl⟩

end CommandLine

end ControlSchema
