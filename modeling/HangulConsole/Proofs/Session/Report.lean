import HangulConsole.Proofs.Session.Outcomes
import HangulConsole.Proofs.Text.Lines
import HangulConsole.Rehearsal

/-!
# Reports of failed runs

The report of a failed run is added to whatever is in the transcript.  It makes one line
of its own exactly if the transcript was at the start of a line and the report holds no
line feed.
-/

namespace HangulConsole

namespace Transcript

def AtLineStart (transcript : Transcript) : Prop :=
  ∀ c ∈ transcript.text.toList.getLast?, c = '\n'

/-- One line was added, and it begins with a marker. -/
def GainsLine (marker : String) (transcript later : Transcript) : Prop :=
  ∃ line, later.lines = transcript.lines ++ [line] ∧ marker.toList <+: line.toList

theorem gainsLine_iff (marker : String) (transcript later : Transcript) :
    transcript.GainsLine marker later ↔
      ∃ line, Text.lineChars later.text.toList =
        Text.lineChars transcript.text.toList ++ [line] ∧ marker.toList <+: line := by
  rw [GainsLine, lines, lines, Text.lines, Text.lines]
  constructor
  · rintro ⟨line, gains, marked⟩
    refine ⟨line.toList, ?_, marked⟩
    have chars := congrArg (List.map String.toList) gains
    simpa [List.map_map, Function.comp_def] using chars
  · rintro ⟨line, gains, marked⟩
    refine ⟨String.ofList line, ?_, by simpa using marked⟩
    rw [gains, List.map_append, List.map_singleton]

theorem gainsLine_appendLine_iff (marker message : String) (transcript : Transcript) :
    transcript.GainsLine marker (transcript.appendLine (marker ++ " " ++ message)) ↔
      transcript.AtLineStart ∧ '\n' ∉ marker.toList ∧ '\n' ∉ message.toList := by
  have added : (transcript.appendLine (marker ++ " " ++ message)).text.toList =
      transcript.text.toList ++ (marker.toList ++ ' ' :: message.toList) ++ ['\n'] := by
    simp [appendLine, append]
  rw [gainsLine_iff, added]
  exact Text.lineChars_append_iff _ _ _

end Transcript

namespace Session

variable {γ : Type}

deriving instance DecidableEq for Finished

/-- The moves by which a session whose guest follows directives is booted and runs a program up to
its last two steps. -/
def rehearsal (program : String) : List (Move Player) :=
  [.operation .boot, .operation (.loaded (.ok ⟨[], none⟩)), .operation (.scriptRead (.ok "")),
    .tick 1, .tick 1, .tick 1, .operation (.run program), .tick 2, .tick 2]

/-- However a run of a session comes to fail, its report is added to the transcript as one line
with its line feed; that makes exactly one new line behind the marker if and only if the guest (or
whoever else wrote last) left the transcript at the start of a line and neither the marker nor the
reason holds a line feed. -/
theorem gainsLine_of_failed_iff (abilities : Guest Unit γ) (addresses : Keywords.AddressReader)
    (settings : Settings) (names : Calls.Names) (list : List (Move γ)) (move : Move γ) (task : Nat)
    (failure : Failure)
    (unfinished :
      (((start abilities addresses settings names).moves list).phase? task).map Phase.isBoot =
        some false)
    (failed : (((start abilities addresses settings names).moves list).move move).finished =
      ((start abilities addresses settings names).moves list).finished ++
        [⟨task, .error failure⟩]) :
    let before := ((start abilities addresses settings names).moves list).transcript
    let after := (((start abilities addresses settings names).moves list).move move).transcript
    let marker := settings.messages.executionError
    after = before.appendLine (marker ++ " " ++ failure.message) ∧
      (before.GainsLine marker after ↔
        before.AtLineStart ∧ '\n' ∉ marker.toList ∧ '\n' ∉ failure.message.toList) := by
  intro before after marker
  have regular := (regular_start abilities addresses settings names).moves list
  have same := (regular_start abilities addresses settings names).settings_moves list
  have line := regular.orderly.line
  rcases Option.map_eq_some_iff.1 unfinished with ⟨phase, found, run⟩
  rcases (line.outcome move).runEnds_of_finished line (mem_tasks_of_phase? found) run failed with
    ⟨guest, _, ended⟩
  have reported : after = before.appendLine (marker ++ " " ++ failure.message) := by
    have marker_eq :
        marker =
          ((start abilities addresses settings names).moves list).messages.executionError := by
      rw [messages, same]
      rfl
    rw [marker_eq]
    simp only [after, ended]
    rfl
  refine ⟨reported, ?_⟩
  rw [reported]
  exact Transcript.gainsLine_appendLine_iff marker failure.message before

theorem gainsLine_of_failed_iff_rehearsal :
    let session := (start Player.abilities .none .standard .standard).moves
      (rehearsal "#out whole\n#raise boom")
    (session.phase? 2).map Phase.isBoot = some false ∧
      (session.move (.tick 2)).finished = session.finished ++ [⟨2, .error (.guest "boom")⟩] ∧
      let before := session.transcript
      let after := (session.move (.tick 2)).transcript
      let marker := Settings.standard.messages.executionError
      after = before.appendLine (marker ++ " " ++ (Failure.guest "boom").message) ∧
        (before.GainsLine marker after ↔ before.AtLineStart ∧ '\n' ∉ marker.toList ∧
          '\n' ∉ (Failure.guest "boom").message.toList) := by
  intro session
  have fails : (session.phase? 2).map Phase.isBoot = some false ∧
      (session.move (.tick 2)).finished = session.finished ++ [⟨2, .error (.guest "boom")⟩] := by
    decide +kernel
  exact ⟨fails.1, fails.2, gainsLine_of_failed_iff Player.abilities .none .standard .standard
    (rehearsal "#out whole\n#raise boom") (.tick 2) 2 (.guest "boom") fails.1 fails.2⟩

/-- A run that fails behind text without a line feed has no line for its report. -/
theorem not_gainsLine_of_unterminated :
    let session := (start Player.abilities .none .standard .standard).moves
      (rehearsal "#part half\n#raise boom")
    (session.phase? 2).map Phase.isBoot = some false ∧
      (session.move (.tick 2)).finished = session.finished ++ [⟨2, .error (.guest "boom")⟩] ∧
      ¬ session.transcript.GainsLine Settings.standard.messages.executionError
        (session.move (.tick 2)).transcript := by
  intro session
  have fails : (session.phase? 2).map Phase.isBoot = some false ∧
      (session.move (.tick 2)).finished = session.finished ++ [⟨2, .error (.guest "boom")⟩] ∧
      session.transcript.lines = ["", "----- 실행 -----", "half"] ∧
      (session.move (.tick 2)).transcript.lines =
        ["", "----- 실행 -----", "half[실행 오류] boom"] := by
    decide +kernel
  rcases fails with ⟨unfinished, failed, before, after⟩
  refine ⟨unfinished, failed, ?_⟩
  rintro ⟨line, gains, -⟩
  rw [before, after] at gains
  simp at gains

end Session
end HangulConsole
