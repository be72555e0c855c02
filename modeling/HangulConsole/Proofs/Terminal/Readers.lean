import HangulConsole.Proofs.Terminal.Stands

/-!
# Every line has one reader

From the first line to the last, a terminal gives every line to the reader that it is for:
to the run that asks for it, in turn, or to the commands.  So a program that is run by
itself succeeds exactly if it ends well with the lines that it asks for.
-/

namespace HangulConsole

/-!
# Lines of a program
-/

theorem Editor.text_appendSnippet (editor : Editor) (snippet : String) :
    ∃ before, (editor.appendSnippet snippet).text = before ++ snippet ∧
      (before = editor.text ∨ before = editor.text ++ "\n") ∧
        (before = "" ∨ ∃ early, before = early ++ "\n") := by
  rw [appendSnippet]
  cases ends : editor.endsLine with
  | false => exact ⟨_, rfl, Or.inr rfl, Or.inr ⟨editor.text, rfl⟩⟩
  | true =>
      refine ⟨_, rfl, Or.inl rfl, ?_⟩
      rw [endsLine] at ends
      cases last : editor.text.toList.getLast? with
      | none =>
          have empty := List.getLast?_eq_none_iff.1 last
          exact Or.inl (String.toList_eq_nil_iff.1 empty)
      | some c =>
          rw [last] at ends
          have feed : c = '\n' := by simpa using ends
          rcases List.getLast?_eq_some_iff.1 last with ⟨early, split⟩
          refine Or.inr ⟨String.ofList early, ?_⟩
          apply String.toList_injective
          rw [if_pos rfl, split, feed]
          simp

namespace Session

variable {γ : Type} {session : Session γ}

/-!
# Sessions that boot
-/

structure Fresh (session : Session γ) : Prop where
  regular : session.Regular
  past : session.Past
  boots : session.BootsOnly

theorem fresh_start (abilities : Guest Unit γ) (addresses : Keywords.AddressReader)
    (settings : Settings) (names : Calls.Names) :
    (start abilities addresses settings names).Fresh where
  regular := regular_start abilities addresses settings names
  past := by
    intro finished mem
    cases mem
  boots := by
    intro task mem
    cases mem

theorem Fresh.move (fresh : session.Fresh) {move : Move γ}
    (other : ∀ source, move ≠ .operation (.run source)) : (session.move move).Fresh where
  regular := fresh.regular.move move
  past := fresh.past.move fresh.regular.orderly.line move
  boots := fresh.boots.move fresh.regular.orderly other

theorem Fresh.steps (fresh : session.Fresh) {operations : List (Operation γ)}
    (other : ∀ source, .run source ∉ operations) : (session.steps operations).Fresh := by
  rcases session.exists_moves_of_steps operations with ⟨list, same, known⟩
  have others : ∀ source, .operation (.run source) ∉ list :=
    fun source mem => other source (known _ mem)
  rw [same]
  clear same known
  induction list generalizing session with
  | nil => exact fresh
  | cons first rest ih =>
      refine ih (fresh.move ?_) fun source mem => others source (List.mem_cons_of_mem _ mem)
      intro source same
      exact others source (by rw [same]; exact List.mem_cons_self)

theorem Fresh.steady (fresh : session.Fresh) : Steady session session :=
  ⟨fresh.regular, fresh.past, .refl session⟩

end Session

namespace Terminal

variable {γ : Type}

/-!
# Whole dialogues
-/

section Dialogues

variable {m : Type -> Type} [Monad m] (surroundings : Surroundings m) (abilities : Guest Unit γ)
    (made : Except Failure γ) (lookup : String -> Option String) (arguments : List String)

def booted [Settings.DocumentReader] [Keywords.AddressReader] :
    m (Except Complaint (Terminal γ)) := do
  let settings ← Settings.load surroundings.disk (lookup Settings.fileVariable) lookup
  match settings.bind (Session.ofSettings abilities) with
  | .error failure => return .error (.failed failure)
  | .ok session => .ok <$> (ofSession surroundings.pace session).boot surroundings made

/-- Opens a terminal and lets it take some lines, behind which its input is not at its end. -/
def takes [Settings.DocumentReader] [Keywords.AddressReader]
    (lines : List IncomingLine) : m (Except Complaint (Terminal γ)) := do
  match ← launch surroundings abilities made lookup arguments with
  | .error complaint => return .error complaint
  | .ok terminal => .ok <$> terminal.takeAll surroundings lines

def serve (terminal : Terminal γ) (lines : List String) :
    Purpose -> m (Except Complaint (Standing γ))
  | .commands => .ok <$> terminal.desk.serve terminal.session surroundings lines
  | .program path => .ok <$> terminal.desk.serveProgram terminal.session surroundings path lines
  | .noProgram => return .error .noProgram
  | .unknown name => return .ok (.closed (.complaint (.unknownTask name)) terminal.desk)

def serves [Settings.DocumentReader] [Keywords.AddressReader]
    (lines : List String) : m (Except Complaint (Standing γ)) := do
  match ← booted surroundings abilities made lookup with
  | .error complaint => return .error complaint
  | .ok terminal =>
      if terminal.session.isBooting then return .ok .stuck
      else terminal.serve surroundings lines (.ofArguments arguments)

end Dialogues

/-- A terminal that did not open complains, and one that did stands where it should. -/
def Matches : Except Complaint (Terminal γ) -> Except Complaint (Standing γ) -> Prop
  | .error complaint, .error other => complaint = other
  | .ok terminal, .ok standing => ∃ setup, terminal.Stands setup standing
  | _, _ => False

theorem Matches.exists_stands {terminal : Terminal γ} {standing? : Except Complaint (Standing γ)}
    (matched : Matches (.ok terminal) standing?) :
    ∃ setup standing, standing? = .ok standing ∧ terminal.Stands setup standing := by
  cases standing? with
  | error complaint => cases matched
  | ok standing =>
      rcases matched with ⟨setup, stands⟩
      exact ⟨setup, standing, rfl, stands⟩

/-!
# Opening a terminal
-/

section Opening

variable {World : Type} (surroundings : Surroundings (StateM World)) (abilities : Guest Unit γ)
    (made : Except Failure γ) (lookup : String -> Option String) (arguments : List String)
    {terminal : Terminal γ}

structure IsNew (terminal : Terminal γ) : Prop where
  fresh : terminal.session.Fresh
  mode : terminal.mode = .commanding

theorem IsNew.stands (isNew : terminal.IsNew) (settled : terminal.session.isBooting = false) :
    terminal.Stands terminal.session (.commanding terminal.desk) :=
  .commanding isNew.mode isNew.fresh.steady (isNew.fresh.boots.tasks_eq_nil settled) rfl

theorem always_boot_isNew {session : Session γ} (fresh : session.Fresh) :
    Always IsNew ((ofSession surroundings.pace session).boot surroundings made) := by
  have loaded : (session.steps [.boot, .loaded made]).Fresh :=
    fresh.steps (by simp)
  unfold Terminal.boot
  dsimp only
  split
  · exact always_pure ⟨loaded, rfl⟩
  · refine always_bind (always_true _) ?_
    intro script _
    have read : ((session.steps [.boot, .loaded made]).steps [.scriptRead script]).Fresh :=
      loaded.steps (by simp)
    refine always_pure ?_
    split
    · exact ⟨read, rfl⟩
    · exact ⟨read, rfl⟩

theorem fresh_of_ofSettings [addresses : Keywords.AddressReader] {settings : Settings}
    {session : Session γ} (accepted : Session.ofSettings abilities settings = .ok session) :
    session.Fresh := by
  rcases Session.exists_start_of_ofSettings accepted with ⟨names, rfl⟩
  exact Session.fresh_start abilities addresses settings names

theorem always_booted [Settings.DocumentReader] [Keywords.AddressReader] :
    Always (fun answer => ∀ terminal : Terminal γ, answer = .ok terminal -> terminal.IsNew)
      (booted surroundings abilities made lookup) := by
  refine always_bind (always_true _) ?_
  intro settings _
  cases accepted : settings.bind (Session.ofSettings abilities) with
  | error failure =>
      refine always_pure ?_
      intro terminal same
      cases same
  | ok session =>
      cases settings with
      | error failure => cases accepted
      | ok settings =>
          have fresh := fresh_of_ofSettings abilities accepted
          refine always_map (always_boot_isNew surroundings made fresh) ?_
          intro booted isNew terminal same
          cases same
          exact isNew

theorem launch_eq [Settings.DocumentReader] [Keywords.AddressReader] :
    launch surroundings abilities made lookup arguments = (do
      match ← booted surroundings abilities made lookup with
      | .error complaint => return .error complaint
      | .ok terminal =>
          if terminal.session.isBooting then return .ok { terminal with mode := .stuck }
          else terminal.pursue surroundings (.ofArguments arguments)) := by
  rw [launch, booted, bind_assoc]
  congr 1
  funext settings
  cases settings.bind (Session.ofSettings abilities) with
  | error failure => rw [pure_bind]
  | ok session =>
      dsimp only
      rw [openFor, map_eq_pure_bind, bind_assoc]
      simp only [pure_bind]

/-!
# From the first line to the last
-/

theorem alike_refl {α : Type} {property : α -> Prop} {act : StateM World α}
    (always : Always property act) :
    Alike (fun answer other => property answer ∧ answer = other) act act := by
  intro world
  exact ⟨⟨always world, rfl⟩, rfl⟩

theorem proceed_only {setup : Session γ} (desk : Desk γ) (conversation : Conversation γ) :
    desk.proceed setup surroundings true conversation = pure (desk.standAt true conversation) := by
  cases conversation with
  | _ => rfl

theorem alike_runProgram {setup : Session γ} {desk : Desk γ}
    (stands : terminal.Stands setup (.commanding desk)) (path : String)
    (lines : List IncomingLine) :
    Alike (Stands setup)
      (terminal.runProgram surroundings path >>= fun next => next.takeAll surroundings lines)
      (desk.serveProgram setup surroundings path (lines.map IncomingLine.text)) := by
  have fetches := stands.fetch surroundings path
  cases stands with
  | commanding mode steady none same =>
      subst same
      rw [runProgram, Desk.serveProgram]
      cases there : terminal.session.guest? with
      | none =>
          have unready : terminal.session.isReady = false := by rw [Session.isReady, there]; rfl
          have lacks : terminal.desk.guest? = Option.none := there
          have closed := (stands_close steady none rfl .failure).takeAll surroundings lines
          rw [unready, lacks, if_neg Bool.false_ne_true, pure_bind]
          exact closed
      | some guest =>
          have ready : terminal.session.isReady = true := by rw [Session.isReady, there]; rfl
          have has : terminal.desk.guest? = some guest := there
          rw [ready, has, if_pos rfl, bind_assoc]
          refine alike_bind fetches ?_
          rintro ⟨fetched, source⟩ answer ⟨still, rfl⟩
          cases still with
          | commanding mode steady none same =>
              cases source with
              | error failure =>
                  dsimp only
                  rw [pure_bind]
                  exact (stands_close steady none same _).takeAll surroundings lines
              | ok source =>
                  have has : fetched.session.guest? = some guest := by
                    have kept : fetched.desk.guest? = some guest := by rw [same]; exact there
                    exact kept
                  have begun :=
                    (stands_start steady none has source true).takeAll surroundings lines
                  rw [same, Desk.goOn_conversation, proceed_only] at begun
                  dsimp only
                  rw [pure_bind]
                  exact begun

theorem alike_ok {setup : Session γ} {act : StateM World (Terminal γ)}
    {other : StateM World (Standing γ)} (alike : Alike (Stands setup) act other) :
    Alike Matches (.ok <$> act) (.ok <$> other) :=
  alike_map alike fun _ _ stands => ⟨setup, stands⟩

theorem alike_pursue (stands : terminal.Stands terminal.session (.commanding terminal.desk))
    (purpose : Purpose) (lines : List IncomingLine) :
    Alike Matches
      (terminal.pursue surroundings purpose >>= fun answer => match answer with
        | .error complaint => return .error complaint
        | .ok terminal => .ok <$> terminal.takeAll surroundings lines)
      (terminal.serve surroundings (lines.map IncomingLine.text) purpose) := by
  cases purpose with
  | commands =>
      have told : ({ terminal.report Command.summary with mode := .commanding } :
          Terminal γ).Stands terminal.session (.commanding terminal.desk) := by
        cases stands.report Command.summary with
        | commanding mode steady none same => exact .commanding rfl steady none same
      rw [Terminal.pursue, pure_bind]
      exact alike_ok (told.takeAll surroundings lines)
  | program path =>
      have runs := alike_ok (alike_runProgram surroundings stands path lines)
      rw [Terminal.pursue, map_eq_pure_bind, bind_assoc]
      rw [map_bind] at runs
      simp only [pure_bind]
      exact runs
  | noProgram =>
      rw [Terminal.pursue, pure_bind]
      exact alike_pure rfl
  | unknown name =>
      cases stands with
      | commanding mode steady none same =>
          have closed := stands_close steady none same (.complaint (.unknownTask name))
          have rests := alike_ok (closed.takeAll surroundings lines)
          rw [Terminal.pursue, pure_bind]
          exact rests

theorem alike_takes [Settings.DocumentReader] [Keywords.AddressReader]
    (lines : List IncomingLine) :
    Alike Matches (takes surroundings abilities made lookup arguments lines)
      (serves surroundings abilities made lookup arguments (lines.map IncomingLine.text)) := by
  rw [takes, serves, launch_eq, bind_assoc]
  refine alike_bind (alike_refl (always_booted surroundings abilities made lookup)) ?_
  rintro answer _ ⟨isNew, rfl⟩
  cases answer with
  | error complaint =>
      dsimp only
      rw [pure_bind]
      exact alike_pure rfl
  | ok terminal =>
      dsimp only
      cases settled : terminal.session.isBooting with
      | true =>
          have stuck : ({ terminal with mode := .stuck } : Terminal γ).Stands terminal.session
              .stuck := .stuck rfl
          rw [if_pos rfl, if_pos rfl, pure_bind]
          exact alike_ok (stuck.takeAll surroundings lines)
      | false =>
          rw [if_neg Bool.false_ne_true, if_neg Bool.false_ne_true]
          exact alike_pursue surroundings ((isNew terminal rfl).stands settled) _ lines

theorem dialogue_eq [Settings.DocumentReader] [Keywords.AddressReader]
    (input : String) :
    dialogue surroundings abilities made lookup arguments input =
      Except.map takeEnd <$>
        takes surroundings abilities made lookup arguments (IncomingLine.ofText input) := by
  rw [dialogue, takes, map_bind]
  congr 1
  funext answer
  cases answer with
  | error complaint => rw [map_pure]; rfl
  | ok terminal =>
      dsimp only
      rw [takeInput, ← comp_map, ← comp_map]
      rfl

theorem alike_dialogue [Settings.DocumentReader] [Keywords.AddressReader]
    (input : String) :
    Alike Matches (dialogue surroundings abilities made lookup arguments input)
      (Except.map Standing.atEnd <$>
        serves surroundings abilities made lookup arguments (Text.lines input)) := by
  rw [dialogue_eq, ← IncomingLine.map_text_ofText]
  refine alike_map (alike_takes surroundings abilities made lookup arguments _) ?_
  intro answer standing matched
  cases answer with
  | error complaint =>
      cases standing with
      | error other => exact matched
      | ok standing => cases matched
  | ok terminal =>
      rcases matched.exists_stands with ⟨setup, standing, rfl, stands⟩
      exact ⟨setup, stands.takeEnd⟩

/-!
# The end of a program
-/

theorem Stands.mode_eq_iff {setup : Session γ} {standing : Standing γ}
    (stands : terminal.Stands setup standing) (exit : Exit) :
    terminal.mode = .closed exit ↔ ∃ desk, standing = .closed exit desk := by
  cases stands with
  | commanding mode _ _ _ => simp [mode]
  | asking mode _ _ _ _ _ => simp [mode]
  | stuck mode => simp [mode]
  | closed mode _ _ _ => simp [mode]

theorem Matches.closed_iff {answer : Except Complaint (Terminal γ)}
    {standing : Except Complaint (Standing γ)} (matched : Matches answer standing) (exit : Exit) :
    (∃ terminal, answer = .ok terminal ∧ terminal.mode = .closed exit) ↔
      ∃ desk, standing = .ok (.closed exit desk) := by
  cases answer with
  | error complaint =>
      cases standing with
      | error other => simp
      | ok standing => cases matched
  | ok terminal =>
      rcases matched.exists_stands with ⟨setup, standing, rfl, stands⟩
      simpa using stands.mode_eq_iff exit

theorem guest?_of_isBooting (fresh : terminal.session.Fresh)
    (boots : terminal.session.isBooting = true) : terminal.session.guest? = none := by
  rw [Session.isBooting, List.any_eq_true] at boots
  rcases boots with ⟨task, mem, boot⟩
  exact fresh.regular.orderly.line.guest?_of_isBoot mem boot

theorem conversation_eq_ended_iff (session : Session γ) (guest : γ) (source : String)
    (lines : List String) (result : Except Failure Unit) :
    (∃ deeds left unread, session.conversation guest source lines =
        .ended deeds result left unread) ↔
      ∃ deeds left unread, (session.execution guest source).converse lines =
        .ended deeds result left unread := by
  rw [Session.conversation]
  cases (session.execution guest source).converse lines with
  | asks deeds prompt left resume => simp [Conversation.after]
  | ended deeds found left unread => simp [Conversation.after]

theorem atEnd_standAt_iff (desk : Desk γ) (conversation : Conversation γ) :
    (∃ last, (desk.standAt true conversation).atEnd = .closed .success last) ↔
      ∃ deeds guest unread, conversation = .ended deeds (.ok ()) guest unread := by
  cases conversation with
  | asks deeds prompt guest resume => simp [Desk.standAt, Standing.atEnd]
  | ended deeds result guest unread =>
      cases result with
      | ok done => simp [Desk.standAt, Standing.atEnd, exitAfter]
      | error failure => simp [Desk.standAt, Standing.atEnd, exitAfter]

theorem serveProgram_succeeds_iff (setup : Session γ) (desk : Desk γ) (path : String)
    (lines : List String) (world : World) :
    (∃ last, (((desk.serveProgram setup surroundings path lines).run world).1).atEnd =
        .closed .success last) ↔
      ∃ guest source, desk.guest? = some guest ∧
        ((Program.load surroundings.disk path).run world).1 = .ok source ∧
          ∃ deeds left unread, (setup.execution guest source).converse lines =
            .ended deeds (.ok ()) left unread := by
  rw [Desk.serveProgram]
  cases desk.guest? with
  | none =>
      dsimp only
      rw [run_pure]
      simp [Standing.atEnd]
  | some guest =>
      dsimp only
      rw [run_bind]
      cases loaded : ((Program.load surroundings.disk path).run world).1 with
      | error failure =>
          dsimp only
          rw [run_pure]
          simp [Standing.atEnd]
      | ok source =>
          have ends := atEnd_standAt_iff desk (setup.conversation guest source lines)
          rw [conversation_eq_ended_iff] at ends
          dsimp only
          rw [run_pure, ends]
          simp

theorem serves_succeeds_iff [Settings.DocumentReader] [Keywords.AddressReader]
    {path : String} (purpose : Purpose.ofArguments arguments = .program path)
    (lines : List String) (world : World) :
    (∃ standing, ((serves surroundings abilities made lookup arguments lines).run world).1 =
        .ok standing ∧ ∃ last, standing.atEnd = .closed .success last) ↔
      ∃ terminal guest source,
        ((booted surroundings abilities made lookup).run world).1 = .ok terminal ∧
        terminal.session.guest? = some guest ∧
        ((Program.load surroundings.disk path).run
          ((booted surroundings abilities made lookup).run world).2).1 = .ok source ∧
        ∃ deeds left unread, (terminal.session.execution guest source).converse lines =
          .ended deeds (.ok ()) left unread := by
  have isNew := always_booted surroundings abilities made lookup world
  rw [serves, run_bind, purpose]
  cases opened : ((booted surroundings abilities made lookup).run world).1 with
  | error complaint =>
      dsimp only
      rw [run_pure]
      simp
  | ok terminal =>
      rw [opened] at isNew
      dsimp only
      cases settled : terminal.session.isBooting with
      | true =>
          have lacks := guest?_of_isBooting (isNew terminal rfl).fresh settled
          rw [if_pos rfl, run_pure]
          simp [Standing.atEnd, lacks]
      | false =>
          have succeeds := serveProgram_succeeds_iff surroundings terminal.session terminal.desk
            path lines ((booted surroundings abilities made lookup).run world).2
          rw [if_neg Bool.false_ne_true]
          constructor
          · rintro ⟨standing, same, ends⟩
            cases same
            rcases succeeds.1 ends with ⟨guest, source, has, loaded, ends⟩
            exact ⟨terminal, guest, source, rfl, has, loaded, ends⟩
          · rintro ⟨other, guest, source, same, has, loaded, ends⟩
            cases same
            exact ⟨_, rfl, succeeds.2 ⟨guest, source, has, loaded, ends⟩⟩

theorem dialogue_succeeds_iff [Settings.DocumentReader] [Keywords.AddressReader]
    (path : String) (more : List String) (input : String)
    (world : World) :
    (∃ terminal, ((dialogue surroundings abilities made lookup ("run" :: path :: more) input).run
        world).1 = .ok terminal ∧ terminal.mode = .closed .success) ↔
      ∃ terminal guest source,
        ((booted surroundings abilities made lookup).run world).1 = .ok terminal ∧
        terminal.session.guest? = some guest ∧
        ((Program.load surroundings.disk path).run
          ((booted surroundings abilities made lookup).run world).2).1 = .ok source ∧
        ∃ deeds left unread, (terminal.session.execution guest source).converse (Text.lines input) =
          .ended deeds (.ok ()) left unread := by
  have matched := (alike_dialogue surroundings abilities made lookup ("run" :: path :: more) input
    world).1
  have purpose : Purpose.ofArguments ("run" :: path :: more) = .program path := by
    simp [Purpose.ofArguments]
  rw [matched.closed_iff, ← serves_succeeds_iff surroundings abilities made lookup _ purpose]
  change (∃ desk, Except.map Standing.atEnd
    ((serves surroundings abilities made lookup ("run" :: path :: more)
      (Text.lines input)).run world).1 = .ok (.closed .success desk)) ↔ _
  cases ((serves surroundings abilities made lookup ("run" :: path :: more)
      (Text.lines input)).run world).1 with
  | error complaint => simp [Except.map]
  | ok standing => simp [Except.map]

/-!
# One reader for every line
-/

theorem Stands.running_iff {setup : Session γ} {standing : Standing γ}
    (stands : terminal.Stands setup standing) (boots : terminal.mode ≠ .stuck) :
    (∃ task only, terminal.mode = .running task only) ↔
      terminal.session.input.isWaiting = true := by
  cases stands with
  | commanding mode steady none same =>
      have idle := LineInput.isWaiting_of_idle (steady.regular.idle_of_nil none)
      simp [mode, idle]
  | asking mode steady alone waits unfinished same =>
      have asks := LineInput.isWaiting_of_waiting? waits
      simp [mode, asks]
  | stuck mode => exact absurd mode boots
  | closed mode steady none same =>
      have idle := LineInput.isWaiting_of_idle (steady.regular.idle_of_nil none)
      simp [mode, idle]

end Opening

/-- What it means that a terminal gives every line to one reader.  Its surroundings, its guest and
what it was opened for may be any. -/
structure OneReader [Settings.DocumentReader] [Keywords.AddressReader] {World : Type}
    (surroundings : Surroundings (StateM World)) (abilities : Guest Unit γ)
    (made : Except Failure γ) (lookup : String -> Option String) : Prop where
  /-- After any lines it stands where its readers got with them: a run with the lines that it asked
  for, and the commands with the others. -/
  so_far : ∀ arguments lines,
    Alike Matches (takes surroundings abilities made lookup arguments lines)
      (serves surroundings abilities made lookup arguments (lines.map IncomingLine.text))
  /-- The next line is for a run exactly if a request waits. -/
  waits : ∀ arguments lines world terminal,
    ((takes surroundings abilities made lookup arguments lines).run world).1 = .ok terminal ->
    terminal.mode ≠ .stuck ->
    ((∃ task only, terminal.mode = .running task only) ↔
      terminal.session.input.isWaiting = true)
  /-- The requests of a run get the first of the lines that it was given, in turn, and it leaves all
  others. -/
  in_turn : ∀ (activity : Activity Unit γ) (lines : List String),
    (activity.converse lines).InTurn lines
  /-- A line that is put into the program stands there on a line of its own. -/
  own_line : ∀ (desk : Desk γ) (line : String),
    ∃ before, (desk.write line).editor.text = before ++ (line ++ "\n") ∧
      (before = desk.editor.text ∨ before = desk.editor.text ++ "\n") ∧
        (before = "" ∨ ∃ early, before = early ++ "\n")
  /-- When its input is at its end, a run is given up that asks for a line. -/
  at_end : ∀ arguments input,
    Alike Matches (dialogue surroundings abilities made lookup arguments input)
      (Except.map Standing.atEnd <$>
        serves surroundings abilities made lookup arguments (Text.lines input))
  /-- A program that is run by itself succeeds exactly if the session boots, the program can be
  loaded, and it ends well with the lines that it asks for. -/
  succeeds : ∀ path more input world,
    (∃ terminal, ((dialogue surroundings abilities made lookup ("run" :: path :: more) input).run
        world).1 = .ok terminal ∧ terminal.mode = .closed .success) ↔
      ∃ terminal guest source,
        ((booted surroundings abilities made lookup).run world).1 = .ok terminal ∧
        terminal.session.guest? = some guest ∧
        ((Program.load surroundings.disk path).run
          ((booted surroundings abilities made lookup).run world).2).1 = .ok source ∧
        ∃ deeds left unread, (terminal.session.execution guest source).converse (Text.lines input) =
          .ended deeds (.ok ()) left unread

/-- Whatever a terminal is opened for and whatever the guest does, every line has one reader. -/
theorem every_line_has_one_reader [Settings.DocumentReader] [Keywords.AddressReader]
    {World : Type} (surroundings : Surroundings (StateM World)) (abilities : Guest Unit γ)
    (made : Except Failure γ) (lookup : String -> Option String) :
    OneReader surroundings abilities made lookup where
  so_far := fun arguments => alike_takes surroundings abilities made lookup arguments
  waits := by
    intro arguments lines world terminal opened boots
    have matched := (alike_takes surroundings abilities made lookup arguments lines world).1
    rw [opened] at matched
    rcases matched.exists_stands with ⟨setup, standing, _, stands⟩
    exact stands.running_iff boots
  in_turn := Activity.inTurn_converse
  own_line := fun desk line => desk.editor.text_appendSnippet (line ++ "\n")
  at_end := fun arguments => alike_dialogue surroundings abilities made lookup arguments
  succeeds := dialogue_succeeds_iff surroundings abilities made lookup

end Terminal
end HangulConsole
