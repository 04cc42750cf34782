/-
Words in single quotes.

Between single quotes nothing has a meaning of its own: no blank ends the
word, no dollar sign opens a parameter, no operator ends the command. So a
line whose words all stand in single quotes is read back as one simple
command of these words (`read?_quoteAll`), and whoever runs it gets them as
they are, whatever its variables hold (`quoteAll_spec`). Every list of words
without single quotes in them has a line that means it in this way.

The lexer takes such a line word by word. No word is under way before an
opening quote, one quoted piece is after the closing one, and the blank or
the end of the line puts it with the tokens (`Lexer.foldlM_quote`).
-/
import PairingHarness.Rehearsal.Shell.Expansion
import PairingHarness.Rehearsal.Shell.Reader

namespace PairingHarness.Rehearsal.Shell

-- ======================================================= the words of it

/-- A text between single quotes. -/
def quote (s : String) : List Char :=
  '\x27' :: (s.toList ++ ['\x27'])

/-- A line of texts between single quotes, with blanks between them. -/
def quoteAll : List String → List Char
  | [] => []
  | [s] => quote s
  | s :: rest => quote s ++ ' ' :: quoteAll rest

/-- The word that a text between single quotes is read as. -/
def quotedWord (s : String) : Word :=
  [.text true s]

variable {s : String} {words : List String} {cs : List Char}

-- ================================================================ lexing

namespace Lexer

/-- Characters between single quotes go into the word as they stand. -/
theorem foldlM_singleQuoted (tokens : List Token) (read : String)
    (hplain : '\x27' ∉ cs) :
    cs.foldlM step ⟨tokens, some (quotedWord read), .singleQuoted⟩
      = some ⟨tokens, some (quotedWord (read ++ String.ofList cs)),
          .singleQuoted⟩ := by
  induction cs generalizing read with
  | nil =>
      rw [String.ofList_nil, String.append_empty]
      rfl
  | cons c rest ih =>
      have hc : c ≠ '\x27' := fun h => hplain (h ▸ List.mem_cons_self)
      have hstep : step ⟨tokens, some (quotedWord read), .singleQuoted⟩ c
          = some ⟨tokens, some (quotedWord (read ++ String.singleton c)),
              .singleQuoted⟩ := by
        simp [step, hc, push, addText, quotedWord]
      rw [List.foldlM_cons, hstep]
      refine (ih _ (List.not_mem_of_not_mem_cons hplain)).trans ?_
      rw [String.append_assoc, String.ofList_cons]

/-- A quoted text becomes the word under way, whatever stands before and
after it. -/
theorem foldlM_quote (tokens : List Token) (hplain : '\x27' ∉ s.toList)
    (rest : List Char) :
    (quote s ++ rest).foldlM step ⟨tokens, none, .plain⟩
      = rest.foldlM step ⟨tokens, some (quotedWord s), .plain⟩ := by
  have hopen : step ⟨tokens, none, .plain⟩ '\x27'
      = some ⟨tokens, some (quotedWord ""), .singleQuoted⟩ := by
    simp [step, stepPlain, push, addText, quotedWord]
  have hclose : step ⟨tokens, some (quotedWord s), .singleQuoted⟩ '\x27'
      = some ⟨tokens, some (quotedWord s), .plain⟩ := by
    simp [step]
  have hinner := foldlM_singleQuoted tokens "" hplain
  rw [String.empty_append, String.ofList_toList] at hinner
  rw [quote, List.cons_append, List.foldlM_cons, hopen, List.append_assoc,
    Option.bind_eq_bind, Option.bind_some, List.foldlM_append, hinner,
    Option.bind_eq_bind, Option.bind_some, List.singleton_append,
    List.foldlM_cons, hclose, Option.bind_eq_bind, Option.bind_some]

/-- A line of quoted texts is one word after another, the last one still
under way. -/
theorem finish_quoteAll (tokens : List Token)
    (hplain : ∀ s ∈ words, '\x27' ∉ s.toList) :
    ((quoteAll words).foldlM step ⟨tokens, none, .plain⟩).bind finish
      = some (tokens.reverse ++ words.map fun s => .word (quotedWord s)) := by
  induction words generalizing tokens with
  | nil => simp [quoteAll, finish, endWord]
  | cons s rest ih =>
      have hs := hplain s List.mem_cons_self
      cases rest with
      | nil =>
          have hquote := foldlM_quote tokens hs []
          rw [List.append_nil] at hquote
          rw [quoteAll, hquote]
          simp [finish, endWord]
      | cons s' rest =>
          have hblank : step ⟨tokens, some (quotedWord s), .plain⟩ ' '
              = some ⟨.word (quotedWord s) :: tokens, none, .plain⟩ := by
            simp [step, stepPlain, endWord]
          have hline : quoteAll (s :: s' :: rest)
              = quote s ++ ' ' :: quoteAll (s' :: rest) := rfl
          rw [hline, foldlM_quote tokens hs, List.foldlM_cons, hblank]
          refine (ih _ fun s hs =>
            hplain s (List.mem_cons_of_mem _ hs)).trans ?_
          simp

end Lexer

theorem tokens?_quoteAll (hplain : ∀ s ∈ words, '\x27' ∉ s.toList) :
    tokens? (String.ofList (quoteAll words))
      = some (words.map fun s => .word (quotedWord s)) := by
  unfold tokens?
  rw [String.toList_ofList]
  exact Lexer.finish_quoteAll [] hplain

-- =============================================================== reading

/-- What stands in quotes is no keyword. -/
theorem bare?_quotedWord (s : String) : (quotedWord s).bare? = none :=
  rfl

theorem readParts_quoted (words : List String) :
    readParts (words.map fun s => .word (quotedWord s))
      = some (words.map quotedWord, [], []) := by
  induction words with
  | nil => rfl
  | cons s rest ih =>
      rw [List.map_cons, readParts, ih]
      rfl

/-- What stands in quotes assigns nothing. -/
theorem splitAssignments_quoted (words : List String) :
    splitAssignments (words.map quotedWord) = ([], words.map quotedWord) := by
  cases words <;> rfl

theorem readSimple_quoted (words : List String) :
    readSimple (words.map fun s => .word (quotedWord s))
      = some (.simple [] (words.map quotedWord) [], []) := by
  unfold readSimple
  rw [readParts_quoted]
  show some (Command.simple (splitAssignments (words.map quotedWord)).1
    (splitAssignments (words.map quotedWord)).2 [], _) = _
  rw [splitAssignments_quoted]

theorem readCommand_quoted (fuel : Nat) (s : String) (rest : List String) :
    readCommand (fuel + 1)
        ((s :: rest).map fun s => .word (quotedWord s))
      = some (.simple [] ((s :: rest).map quotedWord) [], []) := by
  rw [List.map_cons, readCommand]
  simp only [bare?_quotedWord, startsCommand]
  exact readSimple_quoted (s :: rest)

theorem readPipeline_quoted (fuel : Nat) (s : String) (rest : List String) :
    readPipeline (fuel + 2)
        ((s :: rest).map fun s => .word (quotedWord s))
      = some (.simple [] ((s :: rest).map quotedWord) [], []) := by
  have hword : expectWord "!"
      ((s :: rest).map fun s => .word (quotedWord s)) = none := rfl
  rw [readPipeline, hword]
  dsimp only
  rw [readCommand_quoted]
  rfl

theorem readSequence_quoted (fuel : Nat) (s : String) (rest : List String) :
    readSequence (fuel + 3)
        ((s :: rest).map fun s => .word (quotedWord s))
      = some (.simple [] ((s :: rest).map quotedWord) [], []) := by
  have hbreaks : skipNewlines ((s :: rest).map fun s => .word (quotedWord s))
      = (s :: rest).map fun s => .word (quotedWord s) := rfl
  have hstarts : startsCommand
      ((s :: rest).map fun s => .word (quotedWord s)) = true := rfl
  rw [readSequence, hbreaks]
  dsimp only
  rw [hstarts, if_pos rfl, readPipeline_quoted]
  rfl

/-- A line of quoted texts is one simple command. -/
theorem read?_quoteAll (hwords : words ≠ [])
    (hplain : ∀ s ∈ words, '\x27' ∉ s.toList) :
    read? (String.ofList (quoteAll words))
      = some (.simple [] (words.map quotedWord) []) := by
  cases words with
  | nil => exact absurd rfl hwords
  | cons s rest =>
      unfold read?
      rw [tokens?_quoteAll hplain]
      show (readSequence (_ + 3) _).bind _ = _
      rw [readSequence_quoted]
      rfl

-- =============================================================== running

/-- Whoever runs it, a quoted text is one field and nothing in it is looked
up. -/
theorem fields_quotedWord (a : Actor) (s : String) :
    a.fields (quotedWord s) = [s] := by
  show [("" : String) ++ s] = [s]
  rw [String.empty_append]

/-- Every list of words has a line that means it: it reads as a simple
command, which gets these words and no others from whoever runs it. -/
theorem quoteAll_spec (hwords : words ≠ [])
    (hplain : ∀ s ∈ words, '\x27' ∉ s.toList) :
    ∃ ws, read? (String.ofList (quoteAll words)) = some (.simple [] ws [])
      ∧ ∀ a : Actor, ws.flatMap a.fields = words := by
  refine ⟨words.map quotedWord, read?_quoteAll hwords hplain, fun a => ?_⟩
  rw [List.flatMap_map]
  simp only [fields_quotedWord, List.flatMap_singleton']

end PairingHarness.Rehearsal.Shell
