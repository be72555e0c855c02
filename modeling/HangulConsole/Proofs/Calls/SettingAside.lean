import HangulConsole.Proofs.Calls.Parts

/-!
# Setting aside, part by part

What is set aside is invariantly a marked call of one of the names, and the text with
everything put back stays the same.  In the end no stretch that still has its
parenthesis ends in a marked call.
-/

namespace HangulConsole
namespace Calls

open Text

/-!
# Texts cut into parts
-/

theorem getElem?_of_isPrefix {α : Type} {xs ys : List α} (grown : xs <+: ys) {index : Nat} {x : α}
    (found : xs[index]? = some x) : ys[index]? = some x := by
  rcases grown with ⟨more, rfl⟩
  rw [List.getElem?_append_left (List.getElem?_eq_some_iff.1 found).1]
  exact found

/-- The parts of a text during the passes: none holds a parenthesis or the sentinel, and what is
held for a part is a marked call of one of the names. -/
structure Sound (sentinel : Char) (names aside : List (List Char)) (parts : List Part) : Prop where
  closed : ∀ part ∈ parts, '(' ∉ part.text
  free : ∀ part ∈ parts, sentinel ∉ part.text
  held : ∀ part ∈ parts, ∀ index, part.held? = some index ->
    ∃ name ∈ names, ∃ body, MarkedNameAndBlanks name body ∧ aside[index]? = some (body ++ ['('])

def Cleared (name : List Char) (parts : List Part) : Prop :=
  ∀ part ∈ parts, part.held? = none ->
    ∀ start body, part.text = start ++ body -> ¬MarkedNameAndBlanks name body

namespace Sound

variable {sentinel : Char} {names aside : List (List Char)} {part : Part} {parts : List Part}

theorem nil : Sound sentinel names aside [] := by
  constructor <;> simp

theorem tail (sound : Sound sentinel names aside (part :: parts)) :
    Sound sentinel names aside parts where
  closed other mem := sound.closed other (List.mem_cons_of_mem part mem)
  free other mem := sound.free other (List.mem_cons_of_mem part mem)
  held other mem := sound.held other (List.mem_cons_of_mem part mem)

theorem mono {aside' : List (List Char)} (grown : aside <+: aside')
    (sound : Sound sentinel names aside parts) : Sound sentinel names aside' parts where
  closed := sound.closed
  free := sound.free
  held other mem index held := by
    rcases sound.held other mem index held with ⟨name, mem_names, body, shape, found⟩
    exact ⟨name, mem_names, body, shape, getElem?_of_isPrefix grown found⟩

theorem cons {aside' : List (List Char)} (closed : '(' ∉ part.text) (free : sentinel ∉ part.text)
    (held : ∀ index, part.held? = some index -> ∃ name ∈ names, ∃ body,
      MarkedNameAndBlanks name body ∧ aside'[index]? = some (body ++ ['(']))
    (sound : Sound sentinel names aside' parts) :
    Sound sentinel names aside' (part :: parts) where
  closed := List.forall_mem_cons.2 ⟨closed, sound.closed⟩
  free := List.forall_mem_cons.2 ⟨free, sound.free⟩
  held := List.forall_mem_cons.2 ⟨held, sound.held⟩

theorem restoredOf_mono {aside' : List (List Char)} (grown : aside <+: aside')
    (sound : Sound sentinel names aside parts) (tail : List Char) :
    restoredOf aside' parts tail = restoredOf aside parts tail := by
  induction parts with
  | nil => rfl
  | cons part parts ih =>
      rw [restoredOf_cons, restoredOf_cons, ih sound.tail]
      cases held : part.held? with
      | none => simp [Part.restored, held]
      | some index =>
          rcases sound.held part (List.mem_cons_self ..) index held with ⟨_, _, body, _, found⟩
          simp [Part.restored, held, found, getElem?_of_isPrefix grown found]

end Sound

/-!
# One name, and several names
-/

section

variable {sentinel : Char} {names : List (List Char)} {name : List Char} {tail : List Char}

theorem setAside_placeHolder (valid : isCallName name = true)
    (secluded : isPrivate sentinel = true) {text : List Char} (closed : '(' ∉ text) (index : Nat)
    (aside : List (List Char)) (rest : List Char) :
    setAside sentinel name aside (text ++ placeHolder sentinel index ++ rest) =
      ((setAside sentinel name aside rest).1,
        text ++ placeHolder sentinel index ++ (setAside sentinel name aside rest).2) := by
  rw [append_placeHolder]
  exact setAside_append_stop valid (stops_of_isPrivate secluded) (ne_paren_of_isPrivate secluded)
    (paren_not_mem_placeHolder secluded closed index)

/-- How parts and what is held for them come out of setting the marked calls of some names aside. -/
structure Relieved (sentinel : Char) (names : List (List Char)) (tail : List Char)
    (done : List (List Char)) (aside : List (List Char)) (parts : List Part)
    (aside' : List (List Char)) (parts' : List Part) : Prop where
  grown : aside <+: aside'
  sound : Sound sentinel names aside' parts'
  restored_eq : restoredOf aside' parts' tail = restoredOf aside parts tail
  cleared : ∀ name ∈ done, Cleared name parts'
  kept : ∀ part ∈ parts', part.held? = none -> part ∈ parts

namespace Relieved

variable {aside aside' : List (List Char)} {part : Part} {parts parts' : List Part}

variable {done : List (List Char)}

theorem nil : Relieved sentinel names tail done aside [] aside [] where
  grown := List.prefix_rfl
  sound := Sound.nil
  restored_eq := rfl
  cleared := by
    intro name _ part mem
    cases mem
  kept := by
    intro part mem
    cases mem

theorem refl (sound : Sound sentinel names aside parts) :
    Relieved sentinel names tail [] aside parts aside parts where
  grown := List.prefix_rfl
  sound := sound
  restored_eq := rfl
  cleared := by
    intro name mem
    cases mem
  kept _ mem _ := mem

theorem trans {done' aside'' : List (List Char)} {parts'' : List Part}
    (first : Relieved sentinel names tail done aside parts aside' parts')
    (second : Relieved sentinel names tail done' aside' parts' aside'' parts'') :
    Relieved sentinel names tail (done ++ done') aside parts aside'' parts'' where
  grown := first.grown.trans second.grown
  sound := second.sound
  restored_eq := second.restored_eq.trans first.restored_eq
  cleared := by
    intro name mem
    cases List.mem_append.1 mem with
    | inl mem =>
        intro part part_mem part_held
        exact first.cleared name mem part (second.kept part part_mem part_held) part_held
    | inr mem => exact second.cleared name mem
  kept part part_mem part_held :=
    first.kept part (second.kept part part_mem part_held) part_held

theorem cons_same (closed : '(' ∉ part.text) (free : sentinel ∉ part.text)
    (held : ∀ index, part.held? = some index -> ∃ name ∈ names, ∃ body,
      MarkedNameAndBlanks name body ∧ aside[index]? = some (body ++ ['(']))
    (ends : part.held? = none -> ∀ name ∈ done,
      ∀ start body, part.text = start ++ body -> ¬MarkedNameAndBlanks name body)
    (relieved : Relieved sentinel names tail done aside parts aside' parts') :
    Relieved sentinel names tail done aside (part :: parts) aside' (part :: parts') where
  grown := relieved.grown
  sound := by
    refine Sound.cons closed free ?_ relieved.sound
    intro index index_held
    rcases held index index_held with ⟨owner, mem, body, shape, found⟩
    exact ⟨owner, mem, body, shape, getElem?_of_isPrefix relieved.grown found⟩
  restored_eq := by
    rw [restoredOf_cons, restoredOf_cons, relieved.restored_eq]
    cases part_held : part.held? with
    | none => simp [Part.restored, part_held]
    | some index =>
        rcases held index part_held with ⟨_, _, body, _, found⟩
        simp [Part.restored, part_held, found, getElem?_of_isPrefix relieved.grown found]
  cleared name mem :=
    List.forall_mem_cons.2 ⟨fun part_held => ends part_held name mem, relieved.cleared name mem⟩
  kept := by
    refine List.forall_mem_cons.2 ⟨fun _ => List.mem_cons_self .., ?_⟩
    intro other mem other_held
    exact List.mem_cons_of_mem part (relieved.kept other mem other_held)

theorem cons_marked (mem : name ∈ names) {outer body : List Char} (closed : '(' ∉ outer)
    (free : sentinel ∉ outer) (shape : MarkedNameAndBlanks name body)
    (sound : Sound sentinel names aside parts)
    (relieved : Relieved sentinel names tail done (aside ++ [body ++ ['(']]) parts aside' parts') :
    Relieved sentinel names tail done aside (⟨outer ++ body, none⟩ :: parts) aside'
      (⟨outer, some aside.length⟩ :: parts') where
  grown := (List.prefix_append _ _).trans relieved.grown
  sound := by
    refine Sound.cons closed free ?_ relieved.sound
    intro index index_held
    injection index_held with index_eq
    refine ⟨name, mem, body, shape, getElem?_of_isPrefix relieved.grown ?_⟩
    rw [← index_eq]
    exact List.getElem?_concat_length
  restored_eq := by
    have found : aside'[aside.length]? = some (body ++ ['(']) :=
      getElem?_of_isPrefix relieved.grown List.getElem?_concat_length
    rw [restoredOf_cons, restoredOf_cons, relieved.restored_eq,
      sound.restoredOf_mono (List.prefix_append _ _)]
    simp [Part.restored, found]
  cleared other other_mem :=
    List.forall_mem_cons.2
      ⟨fun nothing => absurd nothing (by simp), relieved.cleared other other_mem⟩
  kept := by
    refine List.forall_mem_cons.2 ⟨fun nothing => absurd nothing (by simp), ?_⟩
    intro other other_mem other_held
    exact List.mem_cons_of_mem _ (relieved.kept other other_mem other_held)

end Relieved

theorem setAside_codeOf (valid : isCallName name = true) (mem : name ∈ names)
    (secluded : isPrivate sentinel = true) (closed : '(' ∉ tail) {parts : List Part}
    {aside : List (List Char)} (sound : Sound sentinel names aside parts) :
    ∃ aside' parts',
      setAside sentinel name aside (codeOf sentinel parts tail) =
        (aside', codeOf sentinel parts' tail) ∧
      Relieved sentinel names tail [name] aside parts aside' parts' := by
  induction parts generalizing aside with
  | nil => exact ⟨aside, [], setAside_of_closed valid closed, Relieved.nil⟩
  | cons part parts ih =>
      rcases part with ⟨text, held?⟩
      have part_closed : '(' ∉ text := sound.closed _ (List.mem_cons_self ..)
      have part_free : sentinel ∉ text := sound.free _ (List.mem_cons_self ..)
      have part_held := sound.held _ (List.mem_cons_self ..)
      cases held? with
      | some index =>
          rcases ih sound.tail with ⟨aside', parts', code_eq, relieved⟩
          refine ⟨aside', ⟨text, some index⟩ :: parts', ?_, ?_⟩
          · rw [codeOf_cons, codeOf_cons]
            simp only [Part.code]
            rw [setAside_placeHolder valid secluded part_closed, code_eq]
          · exact relieved.cons_same part_closed part_free part_held fun nothing =>
              absurd nothing (by simp)
      | none =>
          by_cases ends : ∃ outer body, MarkedNameAndBlanks name body ∧ text = outer ++ body
          · rcases ends with ⟨outer, body, shape, rfl⟩
            have grown : aside <+: aside ++ [body ++ ['(']] := List.prefix_append _ _
            rcases ih (sound.tail.mono grown) with ⟨aside', parts', code_eq, relieved⟩
            refine ⟨aside', ⟨outer, some aside.length⟩ :: parts', ?_, ?_⟩
            · rw [codeOf_cons, codeOf_cons]
              simp only [Part.code, List.append_assoc, List.singleton_append]
              rw [← List.append_assoc outer body,
                setAside_stretch_of_marked valid part_closed shape, code_eq]
            · refine Relieved.cons_marked mem ?_ ?_ shape sound.tail relieved
              · exact fun inside => part_closed (List.mem_append_left body inside)
              · exact fun inside => part_free (List.mem_append_left body inside)
          · have unmarked : ∀ start body, text = start ++ body -> ¬MarkedNameAndBlanks name body :=
              fun start body text_eq shape => ends ⟨start, body, shape, text_eq⟩
            rcases ih sound.tail with ⟨aside', parts', code_eq, relieved⟩
            refine ⟨aside', ⟨text, none⟩ :: parts', ?_, ?_⟩
            · rw [codeOf_cons, codeOf_cons]
              simp only [Part.code, List.append_assoc, List.singleton_append]
              rw [setAside_stretch valid part_closed unmarked, code_eq]
            · refine relieved.cons_same part_closed part_free part_held ?_
              rintro _ other other_mem
              rw [List.mem_singleton.1 other_mem]
              exact unmarked

theorem foldl_setAside_codeOf (valid : ∀ name ∈ names, isCallName name = true)
    (secluded : isPrivate sentinel = true) (closed : '(' ∉ tail) {done : List (List Char)}
    (done_mem : ∀ name ∈ done, name ∈ names) {parts : List Part} {aside : List (List Char)}
    (sound : Sound sentinel names aside parts) :
    ∃ aside' parts',
      done.foldl (fun state name => setAside sentinel name state.1 state.2)
        (aside, codeOf sentinel parts tail) = (aside', codeOf sentinel parts' tail) ∧
      Relieved sentinel names tail done aside parts aside' parts' := by
  induction done generalizing aside parts with
  | nil => exact ⟨aside, parts, rfl, Relieved.refl sound⟩
  | cons name done ih =>
      have mem := done_mem name (List.mem_cons_self ..)
      obtain ⟨aside₁, parts₁, code_eq₁, first⟩ :=
        setAside_codeOf (valid name mem) mem secluded closed sound
      obtain ⟨aside₂, parts₂, code_eq₂, second⟩ :=
        ih (fun other other_mem => done_mem other (List.mem_cons_of_mem name other_mem)) first.sound
      refine ⟨aside₂, parts₂, ?_, first.trans second⟩
      rw [List.foldl_cons, code_eq₁]
      exact code_eq₂

end

end Calls
end HangulConsole
