import CanvasAlbum.Proofs.Script.Pieces
import CanvasAlbum.Proofs.Text.Words
import Mathlib.Data.List.Basic

/-!
# Line ends and line numbers

A script is read by what stands between its newlines. Carriage returns are of no account, and
neither is a newline at the end.

* `lines_induction`: a text is one line, or a line with more text below it.
* `read_congr`: texts with the same tokens between their newlines are read alike.
* `read_eq_error_iff`: the number of a faulty line is one more than the newlines before it.
* `scripts_are_read_by_their_newlines`: all of this together.
-/

namespace CanvasAlbum
open Text

namespace Text

/-! ## Texts, line by line -/

@[elab_as_elim]
theorem lines_induction {motive : String → Prop} (single : ∀ line, OneLine line → motive line)
    (more : ∀ line rest, OneLine line → motive rest → motive (line ++ "\n" ++ rest))
    (text : String) : motive text := by
  by_cases oneLine : OneLine text
  · exact single text oneLine
  · obtain ⟨line, rest, cut, first⟩ := List.eq_append_cons_of_mem (Decidable.not_not.mp oneLine)
    have whole : text = String.ofList line ++ "\n" ++ String.ofList rest := by
      rw [← String.toList_inj]
      simp [cut]
    have shorter : rest.length < text.toList.length := by
      rw [cut, List.length_append, List.length_cons]
      omega
    rw [whole]
    exact more _ _ (by simpa [OneLine] using first)
      (lines_induction single more (String.ofList rest))
termination_by text.toList.length
decreasing_by simpa using shorter

theorem pieces_of_oneLine {line : String} (oneLine : OneLine line) : pieces line = [line] := by
  rw [pieces, List.splitOn_eq_singleton oneLine, List.map_singleton, String.ofList_toList]

theorem pieces_cons {line : String} (oneLine : OneLine line) (rest : String) :
    pieces (line ++ "\n" ++ rest) = line :: pieces rest := by
  rw [pieces_join, pieces_of_oneLine oneLine, List.singleton_append]

theorem pieces_append_newline (text : String) : pieces (text ++ "\n") = pieces text ++ [""] := by
  rw [← String.append_empty (s := text ++ "\n"), pieces_join]
  rfl

def newlines (text : String) : Nat := text.toList.count '\n'

theorem newlines_append (a b : String) : newlines (a ++ b) = newlines a + newlines b := by
  simp [newlines]

theorem length_pieces (text : String) : (pieces text).length = newlines text + 1 := by
  induction text using lines_induction with
  | single line oneLine =>
      rw [pieces_of_oneLine oneLine, newlines, List.count_eq_zero_of_not_mem oneLine]
      rfl
  | more line rest oneLine ih =>
      have none : newlines line = 0 := List.count_eq_zero_of_not_mem oneLine
      have one : newlines "\n" = 1 := rfl
      rw [pieces_cons oneLine, List.length_cons, ih, newlines_append, newlines_append, none, one]
      omega

/-- `line` stands in a text between `before` and `after`, from one line end to the next. -/
structure LineWithin (text before line after : String) : Prop where
  whole : text = before ++ line ++ after
  oneLine : OneLine line
  opens : before = "" ∨ ∃ above, before = above ++ "\n"
  closes : after = "" ∨ ∃ below, after = "\n" ++ below

theorem LineWithin.pieces {text before line after : String}
    (within : LineWithin text before line after) :
    ∃ earlier later, Text.pieces text = earlier ++ line :: later ∧
      Text.pieces before = earlier ++ [""] := by
  obtain ⟨rfl, oneLine, opens, closes⟩ := within
  have behind : ∃ later, Text.pieces (line ++ after) = line :: later := by
    rcases closes with rfl | ⟨below, rfl⟩
    · exact ⟨[], by rw [String.append_empty, pieces_of_oneLine oneLine]⟩
    · exact ⟨Text.pieces below, by rw [← String.append_assoc, pieces_cons oneLine]⟩
  obtain ⟨later, here⟩ := behind
  rcases opens with rfl | ⟨above, rfl⟩
  · exact ⟨[], later, by rw [String.empty_append, here, List.nil_append], rfl⟩
  · exact ⟨Text.pieces above, later, by rw [String.append_assoc, pieces_join, here],
      pieces_append_newline above⟩

theorem exists_lineWithin {text line : String} {earlier later : List String}
    (cut : pieces text = earlier ++ line :: later) :
    ∃ before after, LineWithin text before line after ∧ pieces before = earlier ++ [""] := by
  induction text using lines_induction generalizing earlier with
  | single only oneLine =>
      rw [pieces_of_oneLine oneLine] at cut
      obtain ⟨rfl, alone⟩ : earlier = [] ∧ [only] = line :: later := by
        cases earlier <;> simp_all
      obtain ⟨rfl, -⟩ := List.cons_eq_cons.mp alone
      exact ⟨"", "", ⟨by simp, oneLine, Or.inl rfl, Or.inl rfl⟩, rfl⟩
  | more first rest oneLine ih =>
      rw [pieces_cons oneLine] at cut
      cases earlier with
      | nil =>
          obtain ⟨rfl, -⟩ := List.cons_eq_cons.mp cut
          exact ⟨"", "\n" ++ rest,
            ⟨by simp [String.append_assoc], oneLine, Or.inl rfl, Or.inr ⟨rest, rfl⟩⟩, rfl⟩
      | cons top earlier =>
          obtain ⟨rfl, below⟩ := List.cons_eq_cons.mp cut
          obtain ⟨before, after, ⟨rfl, inLine, opens, closes⟩, parts⟩ := ih below
          refine ⟨first ++ "\n" ++ before, after,
            ⟨by simp only [String.append_assoc], inLine, Or.inr ?_, closes⟩, ?_⟩
          · rcases opens with rfl | ⟨above, rfl⟩
            · exact ⟨first, String.append_empty⟩
            · exact ⟨first ++ "\n" ++ above, by simp only [String.append_assoc]⟩
          · rw [pieces_cons oneLine, parts, List.cons_append]

/-! ## Other line ends -/

def withReturns (text : String) : String :=
  String.ofList (text.toList.flatMap fun c => if c = '\n' then ['\r', '\n'] else [c])

theorem withReturns_of_oneLine {line : String} (oneLine : OneLine line) :
    withReturns line = line := by
  have kept : (line.toList.flatMap fun c => if c = '\n' then ['\r', '\n'] else [c]) =
      line.toList.flatMap fun c => [c] := by
    apply List.flatMap_congr
    intro c member
    rw [if_neg]
    rintro rfl
    exact oneLine member
  rw [withReturns, kept, List.flatMap_singleton', String.ofList_toList]

theorem withReturns_cons {line : String} (oneLine : OneLine line) (rest : String) :
    withReturns (line ++ "\n" ++ rest) = line ++ "\r" ++ "\n" ++ withReturns rest := by
  have same := congrArg String.toList (withReturns_of_oneLine oneLine)
  rw [withReturns, String.toList_ofList] at same
  rw [← String.toList_inj]
  simp [withReturns, same]

theorem withReturns_tokens (text : String) :
    (pieces (withReturns text)).map tokens = (pieces text).map tokens := by
  induction text using lines_induction with
  | single line oneLine => rw [withReturns_of_oneLine oneLine]
  | more line rest oneLine ih =>
      have returned : OneLine (line ++ "\r") := oneLine_append.mpr ⟨oneLine, by decide⟩
      have same : tokens (line ++ "\r") = tokens line := tokens_append_gap (by decide) line
      rw [withReturns_cons oneLine, pieces_cons returned, pieces_cons oneLine, List.map_cons,
        List.map_cons, same, ih]

def blankReturn (c : Char) : Char := if c = '\r' then ' ' else c

theorem blankReturn_of_ne {c : Char} (other : c ≠ '\r') : blankReturn c = c := if_neg other

theorem blankReturn_eq_newline_iff (c : Char) : blankReturn c = '\n' ↔ c = '\n' := by
  by_cases returned : c = '\r'
  · subst returned
    decide
  · rw [blankReturn_of_ne returned]

theorem isBlank_blankReturn (c : Char) : isBlank (blankReturn c) = isBlank c := by
  by_cases returned : c = '\r'
  · subst returned
    rfl
  · rw [blankReturn_of_ne returned]

theorem blankReturn_of_plain {c : Char} (plain : isBlank c = false) : blankReturn c = c := by
  apply blankReturn_of_ne
  rintro rfl
  contradiction

theorem pieces_map {f : Char → Char} (newline : ∀ c, f c = '\n' ↔ c = '\n') (text : String) :
    pieces (text.map f) = (pieces text).map (String.map f) := by
  have oneLine_map {line : String} (oneLine : OneLine line) : OneLine (line.map f) := by
    intro member
    rw [String.toList_map, List.mem_map] at member
    obtain ⟨c, inside, same⟩ := member
    rw [(newline c).mp same] at inside
    exact oneLine inside
  induction text using lines_induction with
  | single line oneLine =>
      rw [pieces_of_oneLine oneLine, pieces_of_oneLine (oneLine_map oneLine), List.map_singleton]
  | more line rest oneLine ih =>
      have apart : (line ++ "\n" ++ rest).map f = line.map f ++ "\n" ++ rest.map f := by
        rw [← String.toList_inj]
        simp [(newline '\n').mpr rfl]
      rw [apart, pieces_cons (oneLine_map oneLine), pieces_cons oneLine, ih, List.map_cons]

end Text

namespace Script

/-! ## Scripts -/

theorem readLinesFrom_congr (n : Nat) {first second : List String}
    (same : first.map tokens = second.map tokens) :
    readLinesFrom n first = readLinesFrom n second := by
  induction first generalizing n second with
  | nil => rw [List.map_eq_nil_iff.mp same.symm]
  | cons line rest ih =>
      obtain ⟨other, others, rfl, here, later⟩ := List.map_eq_cons_iff.mp same.symm
      rw [readLinesFrom, readLinesFrom, readLine_of_tokens_eq here, ih (n + 1) later.symm]

theorem read_congr {a b : String} (same : (pieces a).map tokens = (pieces b).map tokens) :
    read a = read b := by
  rw [read_eq_readLines_pieces, read_eq_readLines_pieces]
  exact readLinesFrom_congr 1 same

theorem read_withReturns (text : String) : read (withReturns text) = read text :=
  read_congr (withReturns_tokens text)

theorem read_blankReturn (text : String) : read (text.map blankReturn) = read text := by
  apply read_congr
  rw [pieces_map blankReturn_eq_newline_iff, List.map_map]
  exact List.map_congr_left fun line _ =>
    tokens_map isBlank_blankReturn (fun _ => blankReturn_of_plain) line

theorem read_append_newline (text : String) : read (text ++ "\n") = read text := by
  rw [← String.append_empty (s := text ++ "\n"), read_join]
  have nothing : read "" = .ok [] := rfl
  rw [nothing]
  cases read text with
  | error fault => rfl
  | ok operations => exact congrArg Except.ok (List.append_nil operations)

theorem read_eq_error_iff {text : String} {fault : ScriptFault} :
    read text = .error fault ↔
      ∃ before line after, LineWithin text before line after ∧
        (∀ earlier ∈ pieces before, Faultless earlier) ∧ readLine line = .error fault.cause ∧
        fault.line = 1 + newlines before := by
  have blank : Faultless "" := ⟨none, rfl⟩
  rw [read_eq_readLines_pieces, readLines_eq_error_iff]
  constructor
  · rintro ⟨earlier, line, later, cut, faultless, faulty, number⟩
    obtain ⟨before, after, within, above⟩ := exists_lineWithin cut
    have length := length_pieces before
    rw [above, List.length_append, List.length_singleton] at length
    refine ⟨before, line, after, within, ?_, faulty, by omega⟩
    rw [above]
    exact List.forall_mem_append.mpr ⟨faultless, List.forall_mem_singleton.mpr blank⟩
  · rintro ⟨before, line, after, within, faultless, faulty, number⟩
    obtain ⟨earlier, later, cut, above⟩ := within.pieces
    have length := length_pieces before
    rw [above, List.length_append, List.length_singleton] at length
    rw [above] at faultless
    exact ⟨earlier, line, later, cut, (List.forall_mem_append.mp faultless).1, faulty, by omega⟩

theorem scripts_are_read_by_their_newlines :
    (∀ text, read text = readLines (pieces text)) ∧
    (∀ text, read (withReturns text) = read text ∧ read (text.map blankReturn) = read text ∧
      read (text ++ "\n") = read text) ∧
    (∀ text fault, read text = .error fault ↔
      ∃ before line after, LineWithin text before line after ∧
        (∀ earlier ∈ pieces before, Faultless earlier) ∧ readLine line = .error fault.cause ∧
        fault.line = 1 + newlines before) ∧
    ∀ a b, read (a ++ "\n" ++ b) =
      match read a, read b with
      | .error fault, _ => .error fault
      | .ok _, .error fault => .error ⟨fault.line + (1 + newlines a), fault.cause⟩
      | .ok first, .ok second => .ok (first ++ second) := by
  refine ⟨read_eq_readLines_pieces, fun text => ⟨read_withReturns text, read_blankReturn text,
    read_append_newline text⟩, fun _ _ => read_eq_error_iff, ?_⟩
  intro a b
  rw [read_join, length_pieces]
  cases read a with
  | error fault => rfl
  | ok first =>
      cases read b with
      | error fault =>
          have line : newlines a + 1 + fault.line = fault.line + (1 + newlines a) := by omega
          exact congrArg (fun n => Except.error (ScriptFault.mk n fault.cause)) line
      | ok second => rfl

end Script

end CanvasAlbum
