import HangulConsole.Proofs.Session.Alone
import HangulConsole.Terminal.Dialogue

/-!
# Lines and their readers

A terminal has one input and two readers for it.  A run reads just the lines that its
program asks for, and every line that is left is for the commands.  This module says so
for whole inputs at once: a run is given all lines that are left, and it hands back those
that it did not ask for.
-/

namespace HangulConsole

variable {γ : Type}

/-- What a terminal keeps from one line to the next, its screen apart. -/
structure Desk (γ : Type) where
  /-- The guest, if the session is ready; during a run, as it was before. -/
  guest? : Option γ
  editor : Editor
  /-- Everything that the host and its guest did with each other. -/
  deeds : List Deed
  /-- How the boot ended, and the runs that are over. -/
  results : List (Except Failure Unit)

inductive Standing (γ : Type) where
  /-- The next line is for the commands. -/
  | commanding (desk : Desk γ)
  /-- The next line is for a run, which asks for it with a prompt.  The run may be all that the
  terminal was opened for. -/
  | asking (only : Bool) (prompt : String) (guest : γ)
      (resume : Except String String -> Activity Unit γ) (desk : Desk γ)
  /-- The boot asks for a line, and no line is for it. -/
  | stuck
  | closed (exit : Exit) (desk : Desk γ)

namespace Desk

def mapEditor (desk : Desk γ) (change : Editor -> Editor) : Desk γ :=
  { desk with editor := change desk.editor }

def write (desk : Desk γ) (line : String) : Desk γ :=
  desk.mapEditor fun editor => editor.appendSnippet (line ++ "\n")

def noting (desk : Desk γ) (deeds : List Deed) : Desk γ :=
  { desk with deeds := desk.deeds ++ deeds }

def refusing (desk : Desk γ) : Desk γ :=
  { desk with results := desk.results ++ [.error .notReady] }

def ending (desk : Desk γ) (deeds : List Deed) (result : Except Failure Unit) (guest : γ) :
    Desk γ where
  guest? := some guest
  editor := desk.editor
  deeds := desk.deeds ++ deeds
  results := desk.results ++ [result]

def standAt (desk : Desk γ) (only : Bool) : Conversation γ -> Standing γ
  | .ended deeds result guest _ =>
      let desk := desk.ending deeds result guest
      if only then .closed (Terminal.exitAfter result) desk else .commanding desk
  | .asks deeds prompt guest resume => .asking only prompt guest resume (desk.noting deeds)

variable {m : Type -> Type} [Monad m] (surroundings : Surroundings m)

def obey (desk : Desk γ) : Command -> m (Desk γ)
  | .startAfresh => return desk.mapEditor Editor.clear
  | .insertHelp => return desk.mapEditor Editor.insertHelpCall
  | .insertExample => return desk.mapEditor Editor.insertExample
  | .save name => do
      let name ← if name.isEmpty then Program.suggestedName <$> surroundings.now else pure name
      let _ ← Program.save surroundings.disk "." name desk.editor.text
      return desk
  | .load path => do
      match ← Program.load surroundings.disk path with
      | .ok text => return desk.mapEditor fun editor => editor.setText text
      | .error _ => return desk
  | _ => return desk

end Desk

def Command.isGiven (line : String) : Bool :=
  (Command.split line).1.toList.head? == some ':'

theorem Command.ofWord?_eq_some {word argument : String} {command : Command}
    (named : Command.ofWord? word argument = some command) :
    word.toList.head? = some ':' ∧ ∀ line, command ≠ .append line := by
  unfold Command.ofWord? at named
  split at named
  all_goals cases named
  all_goals exact ⟨by decide, fun line same => by cases same⟩

theorem Command.ofLine_of_not_isGiven {line : String} (plain : Command.isGiven line = false) :
    Command.ofLine line = .append line := by
  rw [isGiven, beq_eq_false_iff_ne] at plain
  rw [ofLine]
  cases named : Command.ofWord? (split line).1 (split line).2 with
  | none => simp only [named, plain, if_false]
  | some command => exact absurd (ofWord?_eq_some named).1 plain

theorem Command.ofLine_ne_append {line : String} (given : Command.isGiven line = true)
    (other : String) : Command.ofLine line ≠ .append other := by
  rw [isGiven, beq_iff_eq] at given
  rw [ofLine]
  cases named : Command.ofWord? (split line).1 (split line).2 with
  | some command =>
      simp only [named]
      exact (ofWord?_eq_some named).2 other
  | none =>
      simp only [named, given, if_true]
      intro same
      cases same

def Session.conversation (session : Session γ) (guest : γ) (source : String)
    (lines : List String) : Conversation γ :=
  ((session.execution guest source).converse lines).after [.exec (session.program source)]

/-!
# Whole inputs
-/

namespace Desk

variable {m : Type -> Type} [Monad m] (setup : Session γ) (surroundings : Surroundings m)

theorem length_unread_lt {guest left : γ} {source line : String} {rest unread : List String}
    {deeds : List Deed} {result : Except Failure Unit}
    (done : setup.conversation guest source rest = .ended deeds result left unread) :
    unread.length < (line :: rest).length := by
  have fewer := (setup.execution guest source).length_unread_le rest
  have same : (setup.conversation guest source rest).unread = unread := by rw [done]; rfl
  rw [Session.conversation, Conversation.unread_after] at same
  rw [← same]
  exact Nat.lt_succ_of_le fewer

/-- Gives every line to its reader.  What follows on a command is for the commands, apart from
what a run asks for. -/
def serve (desk : Desk γ) : List String -> m (Standing γ)
  | [] => return .commanding desk
  | line :: rest =>
      if Command.isGiven line then
        match Command.ofLine line with
        | .run =>
            match desk.guest? with
            | none => desk.refusing.serve rest
            | some guest =>
                match _done : setup.conversation guest desk.editor.text rest with
                | .ended deeds result guest unread => (desk.ending deeds result guest).serve unread
                | .asks deeds prompt guest resume =>
                    return .asking false prompt guest resume (desk.noting deeds)
        | .quit => return .closed .success desk
        | command => do (← desk.obey surroundings command).serve rest
      else
        (desk.write line).serve rest
termination_by lines => lines.length
decreasing_by
  · exact Nat.lt_succ_self _
  · exact length_unread_lt setup _done
  · exact Nat.lt_succ_self _
  · exact Nat.lt_succ_self _

def serveProgram (desk : Desk γ) (path : String) (lines : List String) : m (Standing γ) := do
  match desk.guest? with
  | none => return .closed .failure desk
  | some guest =>
      match ← Program.load surroundings.disk path with
      | .error failure => return .closed (.complaint (.failed failure)) desk
      | .ok source => return desk.standAt true (setup.conversation guest source lines)

def proceed (desk : Desk γ) (only : Bool) : Conversation γ -> m (Standing γ)
  | .ended deeds result guest unread =>
      let desk := desk.ending deeds result guest
      if only then return .closed (Terminal.exitAfter result) desk
      else desk.serve setup surroundings unread
  | .asks deeds prompt guest resume =>
      return .asking only prompt guest resume (desk.noting deeds)

end Desk

namespace Standing

variable {m : Type -> Type} [Monad m] (setup : Session γ) (surroundings : Surroundings m)

def goOn : Standing γ -> List String -> m (Standing γ)
  | commanding desk, lines => desk.serve setup surroundings lines
  | asking only prompt guest resume desk, lines =>
      desk.proceed setup surroundings only ((Conversation.asks [] prompt guest resume).goOn lines)
  | stuck, _ => return stuck
  | closed exit desk, _ => return closed exit desk

def atEnd : Standing γ -> Standing γ
  | commanding desk => closed .success desk
  | asking only _ guest _ desk =>
      closed (if only then .failure else .success) { desk with guest? := some guest }
  | stuck => stuck
  | closed exit desk => closed exit desk

end Standing

/-!
# Inputs line by line
-/

section Lines

variable {m : Type -> Type} [Monad m] (setup : Session γ) (surroundings : Surroundings m)

def Desk.take (desk : Desk γ) (line : String) : m (Standing γ) :=
  if Command.isGiven line then
    match Command.ofLine line with
    | .run =>
        match desk.guest? with
        | none => return .commanding desk.refusing
        | some guest =>
            return desk.standAt false (setup.conversation guest desk.editor.text [])
    | .quit => return .closed .success desk
    | command => .commanding <$> desk.obey surroundings command
  else
    return .commanding (desk.write line)

def Standing.take : Standing γ -> String -> m (Standing γ)
  | commanding desk, line => desk.take setup surroundings line
  | asking only _ _ resume desk, line =>
      return desk.standAt only (((resume (.ok line)).converse []).after [.returned line])
  | stuck, _ => return stuck
  | closed exit desk, _ => return closed exit desk

namespace Desk

variable (desk : Desk γ) (only : Bool) (conversation : Conversation γ)

theorem noting_nil : desk.noting [] = desk := by
  rw [noting, List.append_nil]

theorem noting_noting (early late : List Deed) :
    (desk.noting early).noting late = desk.noting (early ++ late) := by
  rw [noting, noting, noting, List.append_assoc]

theorem ending_noting (early late : List Deed) (result : Except Failure Unit) (guest : γ) :
    (desk.noting early).ending late result guest = desk.ending (early ++ late) result guest := by
  rw [noting, ending, ending, List.append_assoc]

theorem proceed_after (deeds : List Deed) :
    desk.proceed setup surroundings only (conversation.after deeds) =
      (desk.noting deeds).proceed setup surroundings only conversation := by
  cases conversation with
  | ended later result guest unread => rw [proceed, ending_noting]; rfl
  | asks later prompt guest resume => rw [proceed, noting_noting]; rfl

theorem goOn_standAt {conversation : Conversation γ} (nothing : conversation.unread = [])
    (lines : List String) :
    (desk.standAt only conversation).goOn setup surroundings lines =
      desk.proceed setup surroundings only (conversation.goOn lines) := by
  cases conversation with
  | ended deeds result guest unread =>
      change unread = [] at nothing
      rw [nothing]
      cases only with
      | true => rfl
      | false => rfl
  | asks deeds prompt guest resume =>
      cases lines with
      | nil =>
          change pure _ = pure _
          rw [noting_nil]
      | cons line rest =>
          rw [standAt, Standing.goOn, Conversation.goOn, Conversation.goOn, proceed_after,
            proceed_after, noting_noting]
          rfl

end Desk

theorem Session.goOn_conversation (session : Session γ) (guest : γ) (source : String)
    (lines : List String) :
    (session.conversation guest source []).goOn lines =
      session.conversation guest source lines := by
  rw [conversation, Conversation.goOn_after, Activity.goOn_converse]
  rfl

theorem Desk.goOn_conversation (session : Session γ) (desk : Desk γ) (only : Bool) (guest : γ)
    (source : String) (lines : List String) :
    (desk.standAt only (session.conversation guest source [])).goOn setup surroundings lines =
      desk.proceed setup surroundings only (session.conversation guest source lines) := by
  have nothing : (session.conversation guest source []).unread = [] := by
    rw [Session.conversation, Conversation.unread_after, Activity.unread_converse_nil]
  rw [goOn_standAt setup surroundings desk only nothing, Session.goOn_conversation]

theorem Standing.goOn_nil (standing : Standing γ) :
    standing.goOn setup surroundings [] = pure standing := by
  cases standing with
  | commanding desk => rw [goOn, Desk.serve]
  | asking only prompt guest resume desk =>
      rw [goOn, Conversation.goOn, Desk.proceed, Desk.noting_nil]
  | stuck => rfl
  | closed exit desk => rfl

variable [LawfulMonad m]

theorem Desk.serve_cons (desk : Desk γ) (line : String) (rest : List String) :
    desk.serve setup surroundings (line :: rest) =
      desk.take setup surroundings line >>= fun next => next.goOn setup surroundings rest := by
  rw [serve, take]
  split
  · split
    · cases desk.guest? with
      | none => rw [pure_bind]; rfl
      | some guest =>
          dsimp only
          rw [pure_bind, goOn_conversation]
          split
          · rename_i found
            rw [found]
            rfl
          · rename_i found
            rw [found]
            rfl
    · rw [pure_bind]
      rfl
    · rw [map_eq_pure_bind, bind_assoc]
      simp only [pure_bind]
      rfl
  · rw [pure_bind]
    rfl

theorem Standing.goOn_cons (standing : Standing γ) (line : String) (rest : List String) :
    standing.goOn setup surroundings (line :: rest) =
      standing.take setup surroundings line >>= fun next => next.goOn setup surroundings rest := by
  cases standing with
  | commanding desk => exact desk.serve_cons setup surroundings line rest
  | stuck => rw [take, pure_bind]; rfl
  | closed exit desk => rw [take, pure_bind]; rfl
  | asking only prompt guest resume desk =>
      have nothing : (((resume (.ok line)).converse []).after [.returned line]).unread = [] := by
        rw [Conversation.unread_after, Activity.unread_converse_nil]
      rw [take, pure_bind, Desk.goOn_standAt setup surroundings desk only nothing,
        Conversation.goOn_after, Activity.goOn_converse]
      rfl

end Lines
end HangulConsole
