import CanvasAlbum.Proofs.Script.Reading
import CanvasAlbum.Proofs.Text.Words

namespace CanvasAlbum
open Text

namespace Text

def pieces (text : String) : List String := (text.toList.splitOn '\n').map String.ofList

theorem pieces_join (a b : String) : pieces (a ++ "\n" ++ b) = pieces a ++ pieces b := by
  have newline : (a ++ "\n" ++ b).toList = a.toList ++ '\n' :: b.toList := by simp
  unfold pieces
  rw [newline, List.splitOn_append_cons_self, List.map_append]

theorem tokens_dropReturn (line : List Char) :
    tokens (String.ofList (dropReturn line)) = tokens (String.ofList line) := by
  unfold dropReturn
  split
  · rename_i returned
    obtain ⟨before, rfl⟩ := List.getLast?_eq_some_iff.mp returned
    rw [List.dropLast_concat, String.ofList_append]
    exact (tokens_append_gap (by decide) _).symm
  · rfl

end Text

def ScriptFault.below (above : Nat) (fault : ScriptFault) : ScriptFault :=
  { fault with line := above + fault.line }

namespace Script

theorem readLine_of_tokens_eq {line other : String} (same : tokens line = tokens other) :
    readLine line = readLine other := by
  unfold readLine
  rw [same]

theorem readLinesFrom_endLines (n : Nat) (pieces : List (List Char)) :
    readLinesFrom n ((endLines pieces).map String.ofList) =
      readLinesFrom n (pieces.map String.ofList) := by
  fun_induction endLines pieces generalizing n with
  | case1 => rfl
  | case2 =>
      -- An empty last piece is no line, but as one it would ask for nothing.
      rfl
  | case3 => rfl
  | case4 piece rest _ ih =>
      simp only [List.map_cons, readLinesFrom, ih, readLine_of_tokens_eq (tokens_dropReturn piece)]

theorem read_eq_readLines_pieces (text : String) : read text = readLines (pieces text) :=
  readLinesFrom_endLines 1 (text.toList.splitOn '\n')

theorem readLinesFrom_add (above n : Nat) (lines : List String) :
    readLinesFrom (above + n) lines = (readLinesFrom n lines).mapError (·.below above) := by
  induction lines generalizing n with
  | nil => rfl
  | cons line rest ih =>
      rw [readLinesFrom, readLinesFrom, Nat.add_assoc, ih]
      cases readLine line with
      | error cause => rfl
      | ok asked =>
          cases asked with
          | none => rfl
          | some operation => cases readLinesFrom (n + 1) rest <;> rfl

theorem readLinesFrom_append (n : Nat) (earlier later : List String) :
    readLinesFrom n (earlier ++ later) =
      readLinesFrom n earlier >>= fun first =>
        (readLinesFrom (n + earlier.length) later).map (first ++ ·) := by
  induction earlier generalizing n with
  | nil =>
      rw [List.nil_append, List.length_nil, Nat.add_zero]
      cases readLinesFrom n later <;> rfl
  | cons line earlier ih =>
      have further : n + (earlier.length + 1) = n + 1 + earlier.length := by omega
      rw [List.cons_append, List.length_cons, further, readLinesFrom, readLinesFrom, ih]
      cases readLine line with
      | error cause => rfl
      | ok asked =>
          cases asked with
          | none => rfl
          | some operation =>
              cases readLinesFrom (n + 1) earlier with
              | error fault => rfl
              | ok first => cases readLinesFrom (n + 1 + earlier.length) later <;> rfl

theorem read_join (a b : String) :
    read (a ++ "\n" ++ b) =
      read a >>= fun first =>
        ((read b).mapError (·.below (pieces a).length)).map (first ++ ·) := by
  rw [read_eq_readLines_pieces, pieces_join, readLines, readLinesFrom_append, Nat.add_comm,
    readLinesFrom_add, read_eq_readLines_pieces a, read_eq_readLines_pieces b]
  rfl

theorem read_join_fails_iff {a b : String} :
    (∃ fault, read (a ++ "\n" ++ b) = .error fault) ↔
      (∃ fault, read a = .error fault) ∨ ∃ fault, read b = .error fault := by
  rw [read_join]
  cases read a with
  | error fault => exact iff_of_true ⟨fault, rfl⟩ (Or.inl ⟨fault, rfl⟩)
  | ok first =>
      cases read b with
      | error fault => exact iff_of_true ⟨_, rfl⟩ (Or.inr ⟨fault, rfl⟩)
      | ok second =>
          refine iff_of_false ?_ ?_
          · rintro ⟨_, ⟨⟩⟩
          · rintro (⟨_, ⟨⟩⟩ | ⟨_, ⟨⟩⟩)

end Script

end CanvasAlbum
