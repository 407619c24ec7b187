import CommandManual.CommandLine.Run
import CommandManual.Proofs.Outcome

/-!
# The stages of a run

A run reads its line up to the command, reads the configuration, and reads what is asked for. It may
end at each of these stages, and then it has changed nothing. Otherwise it does what is asked for.

## Main definitions

* `CommandLine.conclude`: what a run comes to after its line has been read up to the command.
* `CommandLine.Asks`: a run comes to do what is asked for.
* `CommandLine.Course`: how a run goes.

## Main results

* `CommandLine.course_run`: every run goes one of these ways.
* `CommandLine.run_of_asks`, `CommandLine.run_cases`: how a run goes on, and where it may end.
-/

namespace CommandManual

namespace CommandLine

variable {w : Workspace} {e : Ending} {args : List Text} {o : Opening}

/-- What a run comes to after its line has been read up to the command. -/
def conclude (registry : Registry) (w : Workspace) (o : Opening) : Ending × Workspace :=
  match (configuration w o.config).result with
  | .error p => (endWith p, w)
  | .ok config =>
    match Request.read w o.command o.arguments with
    | .error e => (e, w)
    | .ok request =>
      let (outcome, after) := perform registry w ⟨o.app, o.definition, config⟩ request
      (outcome.ending, after)

theorem run_of_error (registry : Registry) (h : Opening.read w args = .error e) :
    (run registry w args).1.ending = e ∧ (run registry w args).2 = w := by
  rw [run, h]
  exact ⟨rfl, rfl⟩

theorem run_of_ok (registry : Registry) (h : Opening.read w args = .ok o) :
    (run registry w args).1.ending = (conclude registry w o).1 ∧
      (run registry w args).2 = (conclude registry w o).2 := by
  rw [run, h, conclude]
  cases hconfig : (configuration w o.config).result with
  | error p => simp only [hconfig, and_self]
  | ok config =>
    simp only [hconfig]
    cases hrequest : Request.read w o.command o.arguments with
    | error e => simp only [and_self]
    | ok request => simp only [and_self]

/-- A run comes to do what is asked for, with some settings. -/
def Asks (w : Workspace) (args : List Text) (s : Settings) (request : Request) : Prop :=
  ∃ o, Opening.read w args = .ok o ∧ o.app = s.app ∧ o.definition = s.definition ∧
    (configuration w o.config).result = .ok s.config ∧
    Request.read w o.command o.arguments = .ok request

/-- A run that comes so far does what is asked for. -/
theorem run_of_asks (registry : Registry) {s : Settings} {request : Request}
    (h : Asks w args s request) :
    (run registry w args).1.ending = (perform registry w s request).1.ending ∧
      (run registry w args).2 = (perform registry w s request).2 := by
  obtain ⟨app, definition, config⟩ := s
  obtain ⟨o, ho, rfl, rfl, hconfig, hrequest⟩ := h
  obtain ⟨hending, hafter⟩ := run_of_ok registry ho
  simp only [hending, hafter, conclude, hconfig, hrequest, and_self]

/-- How a run goes: it ends while its line is read up to the command, while its configuration is
read, or while it reads what is asked for, and then nothing is changed; or it does what is asked
for. -/
inductive Course (registry : Registry) (w : Workspace) (args : List Text) :
    Ending → Workspace → Prop
  | opening {e : Ending} (h : Opening.read w args = .error e) : Course registry w args e w
  | configuration {o : Opening} {p : Problem} (hopening : Opening.read w args = .ok o)
      (h : (configuration w o.config).result = .error p) : Course registry w args (endWith p) w
  | request {o : Opening} {e : Ending} (hopening : Opening.read w args = .ok o)
      (h : Request.read w o.command o.arguments = .error e) : Course registry w args e w
  | performance {s : Settings} {q : Request} (asks : Asks w args s q) :
    Course registry w args (perform registry w s q).1.ending (perform registry w s q).2

/-- **Every run goes one of these ways.** -/
theorem course_run (registry : Registry) (w : Workspace) (args : List Text) :
    Course registry w args (run registry w args).1.ending (run registry w args).2 := by
  cases hopening : Opening.read w args with
  | error e =>
    obtain ⟨hending, hafter⟩ := run_of_error registry hopening
    rw [hending, hafter]
    exact .opening hopening
  | ok o =>
    obtain ⟨hending, hafter⟩ := run_of_ok registry hopening
    rw [hending, hafter, conclude]
    cases hconfig : (CommandLine.configuration w o.config).result with
    | error p => exact .configuration hopening hconfig
    | ok config =>
      cases hrequest : Request.read w o.command o.arguments with
      | error e => exact .request hopening hrequest
      | ok q =>
        exact .performance (s := ⟨o.app, o.definition, config⟩)
          ⟨o, hopening, rfl, rfl, hconfig, hrequest⟩

/-- **A run does what is asked for**, or it ends before that with nothing changed. -/
theorem run_cases (registry : Registry) (w : Workspace) (args : List Text) :
    (run registry w args).2 = w ∨ ∃ s request, Asks w args s request := by
  have hcourse := course_run registry w args
  generalize (run registry w args).1.ending = e, (run registry w args).2 = after at hcourse ⊢
  cases hcourse with
  | opening | configuration | request => exact .inl rfl
  | performance asks => exact .inr ⟨_, _, asks⟩

end CommandLine

end CommandManual
