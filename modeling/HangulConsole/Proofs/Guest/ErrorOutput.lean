import HangulConsole.Proofs.Guest.Delivery
import HangulConsole.Proofs.Output.Marker

/-!
# Error output in a transcript

What a guest writes to its error output reaches a transcript in pieces, cut at line feeds and
wherever the guest waits for its host.  Each piece is marked, so a line is marked once if it
comes in one piece.
-/

namespace HangulConsole

namespace Receiver

variable {τ σ : Type}

def beside (receiver : Receiver τ) : Receiver (τ × σ) where
  line stream text state := (receiver.line stream text state.1).map fun kept => (kept, state.2)
  fragment stream text state :=
    (receiver.fragment stream text state.1).map fun kept => (kept, state.2)

def keeper : Receiver (List Piece) where
  line stream text pieces := .ok (pieces ++ [⟨stream, text, true⟩])
  fragment stream text pieces := .ok (pieces ++ [⟨stream, text, false⟩])

theorem receive_beside {receiver : Receiver τ} {piece : Piece} {kept later : τ}
    (receives : receiver.receive piece kept = .ok later) (state : σ) :
    receiver.beside.receive piece (kept, state) = .ok (later, state) := by
  rw [receive] at receives ⊢
  split
  · rename_i complete
    rw [if_pos complete] at receives
    simp only [beside, receives, Except.map]
  · rename_i unfinished
    rw [if_neg unfinished] at receives
    simp only [beside, receives, Except.map]

theorem receive_keeper (piece : Piece) (pieces : List Piece) :
    keeper.receive piece pieces = .ok (pieces ++ [piece]) := by
  rcases piece with ⟨stream, text, complete⟩
  cases complete with
  | true => rfl
  | false => rfl

theorem receive_transcript (marker : String) (piece : Piece) (transcript : Transcript) :
    (Transcript.receiver marker).receive piece transcript =
      .ok (transcript.receive marker piece) := by
  rcases piece with ⟨stream, text, complete⟩
  cases complete with
  | true => rfl
  | false => rfl

end Receiver

/-!
# Hosts that leave the receiver alone
-/

namespace Activity

variable {φ γ δ σ τ : Type} {answer : φ -> List String -> σ -> Except String String × σ}
  {activity : Activity φ γ}

/-- Carries an activity out for a host that answers from a state of its own, so that nothing but the
output is received. -/
def carryOut (receiver : Receiver τ) (answer : φ -> List String -> σ -> Except String String × σ)
    (activity : Activity φ γ) (kept : τ) (state : σ) : (Except Failure Unit × γ) × τ × σ :=
  activity.perform receiver.beside
    (fun function arguments state =>
      ((answer function arguments state.2).1, state.1, (answer function arguments state.2).2))
    (kept, state)

theorem carryOut_deliver {receiver : Receiver τ} {piece : Piece} {kept later : τ}
    (receives : receiver.receive piece kept = .ok later) (guest : γ)
    (resume : Except String Unit -> Activity φ γ) (state : σ) :
    carryOut receiver answer (.deliver piece guest resume) kept state =
      carryOut receiver answer (resume (.ok ())) later state := by
  rw [carryOut, perform, Receiver.receive_beside receives]
  rfl

theorem carryOut_call (receiver : Receiver τ) (function : φ) (arguments : List String) (guest : γ)
    (resume : Except String String -> Activity φ γ) (kept : τ) (state : σ) :
    carryOut receiver answer (.call function arguments guest resume) kept state =
      carryOut receiver answer (resume (answer function arguments state).1) kept
        (answer function arguments state).2 :=
  rfl

theorem carryOut_transcript (marker : String) (activity : Activity φ γ) (pieces : List Piece)
    (transcript : Transcript) (state : σ) :
    (carryOut (Transcript.receiver marker) answer activity
        (pieces.foldl (Transcript.receive marker) transcript) state).2.1 =
      (carryOut Receiver.keeper answer activity pieces state).2.1.foldl
        (Transcript.receive marker) transcript := by
  induction activity generalizing pieces state with
  | ended result guest => rfl
  | deliver piece guest resume ih =>
      rw [carryOut_deliver (Receiver.receive_transcript marker piece _),
        carryOut_deliver (Receiver.receive_keeper piece pieces), ← ih, List.foldl_append]
      rfl
  | call function arguments guest resume ih =>
      rw [carryOut_call, carryOut_call]
      exact ih _ pieces _

/-!
# What is handed over
-/

/-- All pieces that an activity hands over have a property, whatever the host answers, and so has
the guest at its end. -/
inductive HandsOver (good : Piece -> Prop) (atEnd : γ -> Prop) : Activity φ γ -> Prop where
  | ended {result : Except Failure Unit} {guest : γ} :
      atEnd guest -> HandsOver good atEnd (.ended result guest)
  | deliver {piece : Piece} {guest : γ} {resume : Except String Unit -> Activity φ γ} :
      good piece -> HandsOver good atEnd (resume (.ok ())) ->
      HandsOver good atEnd (.deliver piece guest resume)
  | call {function : φ} {arguments : List String} {guest : γ}
      {resume : Except String String -> Activity φ γ} :
      (∀ answer, HandsOver good atEnd (resume answer)) ->
      HandsOver good atEnd (.call function arguments guest resume)

variable {good : Piece -> Prop} {atEnd : γ -> Prop} {atCall fits : List Piece -> γ -> δ -> Prop}
  {received : List Piece} {direct : Activity φ δ}

theorem HandsOver.deliverAll {pieces : List Piece} (all : ∀ piece ∈ pieces, good piece)
    (guest : γ) (handsOver : HandsOver good atEnd activity) :
    HandsOver good atEnd (.deliverAll pieces guest activity) := by
  induction pieces with
  | nil => exact handsOver
  | cons piece rest ih =>
      rw [List.forall_mem_cons] at all
      exact .deliver all.1 (ih all.2)

theorem HandsOver.kept (handsOver : HandsOver good atEnd activity)
    (all : ∀ piece ∈ received, good piece) (state : σ) :
    ∀ piece ∈ (carryOut Receiver.keeper answer activity received state).2.1, good piece := by
  induction handsOver generalizing received state with
  | ended _ => exact all
  | @deliver piece _ _ isGood _ ih =>
      rw [carryOut_deliver (Receiver.receive_keeper piece received)]
      refine ih (fun other mem => ?_) state
      rcases List.mem_append.1 mem with old | new
      · exact all other old
      · rw [List.mem_singleton.1 new]
        exact isGood
  | call _ ih =>
      rw [carryOut_call]
      exact ih _ all _

theorem Delivers.kept (delivers : Delivers atCall fits received activity direct)
    (others : List Piece) (state : σ) :
    fits (carryOut Receiver.keeper answer activity received state).2.1
      (carryOut Receiver.keeper answer activity received state).1.2
      (carryOut Receiver.keeper answer direct others state).1.2 := by
  induction delivers generalizing state with
  | ended fit => exact fit
  | @deliver received piece _ _ _ _ ih =>
      rw [carryOut_deliver (Receiver.receive_keeper piece received)]
      exact ih state
  | call _ _ ih =>
      rw [carryOut_call, carryOut_call]
      exact ih _ _

/-!
# One activity after another
-/

def andThen (next : γ -> Activity φ γ) : Activity φ γ -> Activity φ γ
  | .ended _ guest => next guest
  | .deliver piece guest resume => .deliver piece guest fun answer => (resume answer).andThen next
  | .call function arguments guest resume =>
      .call function arguments guest fun answer => (resume answer).andThen next

theorem HandsOver.andThen {next : γ -> Activity φ γ} (handsOver : HandsOver good atEnd activity)
    (later : ∀ guest, atEnd guest -> HandsOver good atEnd (next guest)) :
    HandsOver good atEnd (activity.andThen next) := by
  induction handsOver with
  | ended fit => exact later _ fit
  | deliver isGood _ ih => exact .deliver isGood ih
  | call _ ih => exact .call ih

theorem Delivers.andThen {next : γ -> Activity φ γ} {nextDirect : δ -> Activity φ δ}
    (delivers : Delivers atCall fits received activity direct)
    (later : ∀ received guest other, fits received guest other ->
      Delivers atCall fits received (next guest) (nextDirect other)) :
    Delivers atCall fits received (activity.andThen next) (direct.andThen nextDirect) := by
  induction delivers with
  | ended fit => exact later _ _ _ fit
  | deliver _ ih => exact .deliver ih
  | call fit _ ih => exact .call fit ih

end Activity

namespace Guest

open Activity

variable {φ σ : Type} {interpreter later : Interpreter φ}

/-!
# Guests hand over well-cut pieces
-/

/-- An interpreter in whose queue no line feed is left within a line. -/
def TidyQueue (interpreter : Interpreter φ) : Prop :=
  interpreter.output.WellCut

namespace TidyQueue

theorem write (tidy : TidyQueue interpreter) (stream : OutputStream) (text : String) :
    TidyQueue (interpreter.write stream text) :=
  OutputQueue.WellCut.write tidy stream text

theorem step (tidy : TidyQueue interpreter) {instruction : Instruction}
    (steps : interpreter.step instruction = .ok later) : TidyQueue later := by
  cases instruction with
  | write stream text =>
      cases steps
      exact tidy.write stream text
  | count stream text =>
      cases steps
      exact (tidy.write stream text).write _ _
  | describeOutput =>
      cases steps
      exact tidy.write _ _
  | «show» name =>
      rw [Interpreter.step] at steps
      cases found : interpreter.lookup name with
      | error raised =>
          rw [found] at steps
          cases steps
      | ok value =>
          rw [found] at steps
          cases steps
          exact tidy.write _ _
  | append name value =>
      rw [Interpreter.step] at steps
      split at steps
      · cases steps
      · split at steps
        · cases steps
          exact tidy
        · cases steps
  | raise kind text? => cases steps
  | _ =>
      cases steps
      exact tidy

theorem answered (tidy : TidyQueue interpreter) {use : Use} {response : Except Exception String}
    (goesOn : interpreter.answered use response = .ok later) : TidyQueue later := by
  cases response with
  | ok answer =>
      cases use with
      | forget => cases goesOn; exact tidy
      | «show» => cases goesOn; exact tidy.write _ _
      | guarded => cases goesOn; exact tidy.write _ _
  | error raised =>
      cases use with
      | forget => cases goesOn
      | «show» => cases goesOn
      | guarded => cases goesOn; exact tidy.write _ _

theorem emptied (interpreter : Interpreter φ) : TidyQueue interpreter.emptied :=
  OutputQueue.wellCut_empty

theorem drain (tidy : TidyQueue interpreter)
    {next : Interpreter φ -> Activity φ (Interpreter φ)}
    (goesOn : ∀ emptied, TidyQueue emptied -> HandsOver Piece.WellCut TidyQueue (next emptied)) :
    HandsOver Piece.WellCut TidyQueue (interpreter.drain next) :=
  .deliverAll (OutputQueue.WellCut.pieces tidy) _ (goesOn _ (emptied interpreter))

theorem finish (tidy : TidyQueue interpreter) (result : Except Failure Unit) :
    HandsOver Piece.WellCut TidyQueue (interpreter.finish result) :=
  tidy.drain fun _ tidy => .ended tidy

theorem await (tidy : TidyQueue interpreter) (awaited : Interpreter.Awaited)
    {next : Interpreter φ -> Except Exception String -> Activity φ (Interpreter φ)}
    (goesOn : ∀ emptied answer, TidyQueue emptied ->
      HandsOver Piece.WellCut TidyQueue (next emptied answer)) :
    HandsOver Piece.WellCut TidyQueue (interpreter.await awaited next) := by
  refine tidy.drain fun emptied tidy => ?_
  cases awaited with
  | nothing => exact goesOn emptied _ tidy
  | call name arguments =>
      dsimp only
      cases emptied.function? name with
      | none => exact goesOn emptied _ tidy
      | some function => exact .call fun answer => goesOn emptied _ tidy

theorem execFrom (tidy : TidyQueue interpreter) (suspendable : Bool) (program : List Instruction) :
    HandsOver Piece.WellCut TidyQueue (interpreter.execFrom suspendable program) := by
  -- After a wait the program goes on with an empty queue, so tidiness is carried along both ways.
  induction program generalizing interpreter with
  | nil => exact tidy.finish _
  | cons instruction rest ih =>
      rw [Interpreter.execFrom]
      cases interpreter.awaited? instruction with
      | none =>
          dsimp only
          cases steps : interpreter.step instruction with
          | ok later => exact ih (tidy.step steps)
          | error raised => exact tidy.finish _
      | some found =>
          cases found with
          | error raised => exact tidy.finish _
          | ok found =>
              refine tidy.await found.1 fun emptied answer tidy => ?_
              cases goesOn : emptied.answered found.2 answer with
              | ok later => exact ih (tidy.answered goesOn)
              | error raised => exact tidy.finish _

theorem bind [Compiler] (tidy : TidyQueue interpreter) (name : String) (function : φ) :
    HandsOver Piece.WellCut TidyQueue (interpreter.bind name function) := by
  have known : TidyQueue (interpreter.addFunction name function) := tidy
  rw [Interpreter.bind]
  split
  · dsimp only
    cases Compiler.define name with
    | error raised => exact known.finish _
    | ok global =>
        have named : TidyQueue ((interpreter.addFunction name function).setGlobal global
          (.function name)) := tidy
        exact named.finish _
  · exact .ended tidy

theorem obey [Compiler] (tidy : TidyQueue interpreter) (command : Command φ) :
    HandsOver Piece.WellCut TidyQueue (interpreter.obey command) := by
  cases command with
  | bind name function => exact tidy.bind name function
  | exec program => exact tidy.execFrom _ program

end TidyQueue

/-!
# All commands
-/

def Interpreter.bare (interpreter : Interpreter φ) : Direct φ where
  values := interpreter.globals.get?
  functions := interpreter.function?
  written _ := ""

theorem agrees_bare (unqueued : interpreter.output = .empty) :
    Agrees [] interpreter interpreter.bare where
  values _ := rfl
  functions _ := rfl
  received _ := rfl
  queue := unqueued

section Commands

variable [Compiler]

def Interpreter.obeyAll (interpreter : Interpreter φ) :
    List (Command φ) -> Activity φ (Interpreter φ)
  | [] => .ended (.ok ()) interpreter
  | command :: rest => (interpreter.obey command).andThen fun later => later.obeyAll rest

def Direct.obeyAll (direct : Direct φ) : List (Command φ) -> Activity φ (Direct φ)
  | [] => .ended (.ok ()) direct
  | command :: rest => (direct.obey command).andThen fun later => later.obeyAll rest

theorem TidyQueue.obeyAll (tidy : TidyQueue interpreter) (commands : List (Command φ)) :
    HandsOver Piece.WellCut TidyQueue (interpreter.obeyAll commands) := by
  induction commands generalizing interpreter with
  | nil => exact .ended tidy
  | cons command rest ih => exact (tidy.obey command).andThen fun later tidy => ih tidy

theorem Agrees.obeyAll {received : List Piece} {direct : Direct φ}
    (agrees : Agrees received interpreter direct) (commands : List (Command φ)) :
    Delivers Agrees Agrees received (interpreter.obeyAll commands) (direct.obeyAll commands) := by
  induction commands generalizing received interpreter direct with
  | nil => exact .ended agrees
  | cons command rest ih =>
      exact (delivers_obey agrees command).andThen fun _ _ _ agrees => ih agrees

variable (answer : φ -> List String -> σ -> Except String String × σ)

def written (interpreter : Interpreter φ) (commands : List (Command φ)) (state : σ)
    (stream : OutputStream) : String :=
  ((interpreter.bare.obeyAll commands).carryOut Receiver.keeper answer [] state).1.2.written stream

def handedOver (interpreter : Interpreter φ) (commands : List (Command φ)) (state : σ) :
    List Piece :=
  ((interpreter.obeyAll commands).carryOut Receiver.keeper answer [] state).2.1

def transcribed (marker : String) (interpreter : Interpreter φ) (commands : List (Command φ))
    (state : σ) (transcript : Transcript) : Transcript :=
  ((interpreter.obeyAll commands).carryOut (Transcript.receiver marker) answer transcript state).2.1

variable {answer} {commands : List (Command φ)} {state : σ} {marker : String}
  {transcript : Transcript}

theorem wellCut_handedOver (unqueued : interpreter.output = .empty) :
    ∀ piece ∈ handedOver answer interpreter commands state, piece.WellCut := by
  have tidy : TidyQueue interpreter := by
    rw [TidyQueue, unqueued]
    exact OutputQueue.wellCut_empty
  exact (tidy.obeyAll commands).kept (List.forall_mem_nil _) state

theorem writtenTo_handedOver (unqueued : interpreter.output = .empty) (stream : OutputStream) :
    Piece.writtenTo stream (handedOver answer interpreter commands state) =
      written answer interpreter commands state stream :=
  (((agrees_bare unqueued).obeyAll commands).kept [] state).received stream

theorem toList_text_transcribed
    (errors : ∀ piece ∈ handedOver answer interpreter commands state, piece.stream = .stderr) :
    (transcribed answer marker interpreter commands state transcript).text.toList =
      transcript.text.toList ++
        Piece.allMarked marker.toList (handedOver answer interpreter commands state) := by
  have received : transcribed answer marker interpreter commands state transcript =
      (handedOver answer interpreter commands state).foldl (Transcript.receive marker) transcript :=
    carryOut_transcript marker (interpreter.obeyAll commands) [] transcript state
  rw [received, Transcript.toList_text_foldl_receive marker transcript errors]

/-- If a guest writes to its error output only, then every line of it is marked once if and only
if no line is handed over in several pieces. -/
theorem text_transcribed_eq_markLines_iff (unqueued : interpreter.output = .empty)
    (silent : written answer interpreter commands state .stdout = "") :
    (transcribed answer marker interpreter commands state transcript).text =
        transcript.text ++
          Text.markLines marker (written answer interpreter commands state .stderr) ↔
      marker = "" ∨
        ∀ piece ∈ (handedOver answer interpreter commands state).dropLast,
          piece.complete = true := by
  have wellCut : ∀ piece ∈ handedOver answer interpreter commands state, piece.WellCut :=
    wellCut_handedOver unqueued
  rw [← writtenTo_handedOver unqueued] at silent ⊢
  -- No piece is empty, so a stream without text has no pieces.
  have errors : ∀ piece ∈ handedOver answer interpreter commands state, piece.stream = .stderr := by
    intro piece mem
    have apart := Piece.stream_ne_of_writtenTo_eq_empty wellCut silent piece mem
    cases stream : piece.stream with
    | stdout => exact absurd stream apart
    | stderr => rfl
  rw [← String.toList_inj, toList_text_transcribed errors, String.toList_append, Text.markLines,
    String.toList_ofList, Piece.toList_writtenTo errors, List.append_cancel_left_eq, eq_comm,
    Piece.markLinesFrom_eq_allMarked_iff wellCut, String.toList_eq_nil_iff]

end Commands

/-!
# A line in two pieces
-/

local instance : Compiler := Compiler.reserving "class"

def emptyAnswer (_ : Unit) (_ : List String) (_ : Unit) : Except String String × Unit :=
  (.ok "", ())

def oneFunction : Interpreter Unit :=
  ⟨.empty, [("h", ())], .empty⟩

def twoLines : List (Command Unit) :=
  [.exec [.write .stderr "ab\n", .write .stderr "cd"]]

def interruptedLine : List (Command Unit) :=
  [.exec [.write .stderr "ab", .hostCall "h" [] .forget, .write .stderr "cd\n"]]

theorem text_transcribed_twoLines :
    written emptyAnswer oneFunction twoLines () .stdout = "" ∧
      ((transcribed emptyAnswer "[에러] " oneFunction twoLines () .empty).text =
          "" ++ Text.markLines "[에러] " (written emptyAnswer oneFunction twoLines () .stderr) ↔
        "[에러] " = "" ∨
          ∀ piece ∈ (handedOver emptyAnswer oneFunction twoLines ()).dropLast,
            piece.complete = true) :=
  ⟨by decide, text_transcribed_eq_markLines_iff rfl (by decide)⟩

/-- The line is marked again where it goes on behind the call. -/
theorem text_transcribed_interruptedLine :
    written emptyAnswer oneFunction interruptedLine () .stdout = "" ∧
      written emptyAnswer oneFunction interruptedLine () .stderr = "abcd\n" ∧
      (transcribed emptyAnswer "[에러] " oneFunction interruptedLine () .empty).text =
        "[에러] ab[에러] cd\n" ∧
      (transcribed emptyAnswer "[에러] " oneFunction interruptedLine () .empty).text ≠
        "" ++ Text.markLines "[에러] "
          (written emptyAnswer oneFunction interruptedLine () .stderr) := by
  decide +kernel

end Guest

end HangulConsole
