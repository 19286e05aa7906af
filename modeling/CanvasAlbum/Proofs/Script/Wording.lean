import CanvasAlbum.Proofs.Script.Grammar
import CanvasAlbum.Proofs.Script.Reading
import CanvasAlbum.Proofs.Text.Words

namespace CanvasAlbum
open Text Decimal

def Operation.Worded : Operation → Prop
  | snapshot description =>
      ∃ tokens : List String, (∀ token ∈ tokens, IsToken token) ∧
        description = " ".intercalate tokens
  | operation => ∀ name ∈ operation.target?, IsToken name

theorem Operation.Worded.target {operation : Operation} (worded : operation.Worded) {name : String}
    (named : operation.target? = some name) : IsToken name := by
  cases operation with
  | snapshot description => simp [target?] at named
  | _ => exact worded name named

theorem Instruction.asks_worded {action : Action} {tokens : List String} {asked : Operation}
    (asks : Asks action tokens asked) (cut : ∀ token ∈ tokens, IsToken token) : asked.Worded := by
  cases asks with
  | snapshot =>
      have behind : ∀ token ∈ tokens.tail, IsToken token :=
        fun token member => cut token (List.mem_of_mem_tail member)
      exact ⟨tokens.tail, behind, rfl⟩
  | _ =>
      rintro name ⟨⟩
      exact cut _ (by simp)

namespace Script

theorem asked?_eq_some_iff {line : String} {operation : Operation} :
    asked? line = some operation ↔ readLine line = .ok (some operation) := by
  unfold asked?
  cases readLine line <;> simp

theorem asked?_worded {line : String} {operation : Operation}
    (asks : asked? line = some operation) : operation.Worded := by
  obtain ⟨action, -, meaning⟩ := readLine_eq_some_iff.mp (asked?_eq_some_iff.mp asks)
  exact Instruction.asks_worded meaning fun _ => isToken_of_mem_tokens

theorem read_worded {text : String} {operations : List Operation}
    (read : read text = .ok operations) : ∀ operation ∈ operations, operation.Worded := by
  obtain ⟨-, rfl⟩ := read_eq_ok_iff.mp read
  intro operation member
  obtain ⟨line, -, asks⟩ := List.mem_filterMap.mp member
  exact asked?_worded asks

end Script

namespace Text

theorem isBlank_of_isDigit {c : Char} (digit : c.isDigit = true) : isBlank c = false := by
  have table : ∀ code ≤ 57, 48 ≤ code → isBlank (Char.ofNat code) = false := by decide
  simp only [Char.isDigit, Bool.and_eq_true, decide_eq_true_eq, UInt32.le_iff_toNat_le] at digit
  have plain := table c.toNat digit.2 digit.1
  rwa [Char.ofNat_toNat] at plain

theorem isToken_integer (i : Int) : IsToken (integer i) := by
  constructor
  · exact mt String.toList_eq_nil_iff.mpr (integer_toList_ne_nil i)
  · intro c member
    rcases sign_or_digit_of_mem_integer member with rfl | digit
    · rfl
    · exact isBlank_of_isDigit digit

end Text

theorem ShapeKind.isToken_name (kind : ShapeKind) : IsToken kind.name := by
  cases kind <;> decide

theorem Action.names_keyword (action : Action) : action.Names action.keyword := by
  cases action <;> rfl

namespace Operation

/-- The tokens in which an operation is written down, with its numbers in decimal. -/
inductive Spelling : Operation → List String → Prop where
  | create {name kind position extent color} (isToken : IsToken name) :
      Spelling (.create ⟨name, kind, position, extent, color⟩)
        ["shape", name, ShapeKind.name kind, integer position.x.toInt, integer position.y.toInt,
          integer extent.horizontal.toInt, integer extent.vertical.toInt,
          integer color.red.toInt, integer color.green.toInt, integer color.blue.toInt]
  | move {name position} (isToken : IsToken name) :
      Spelling (.move name position)
        ["move", name, integer position.x.toInt, integer position.y.toInt]
  | resize {name extent} (isToken : IsToken name) :
      Spelling (.resize name extent)
        ["resize", name, integer extent.horizontal.toInt, integer extent.vertical.toInt]
  | recolor {name color} (isToken : IsToken name) :
      Spelling (.recolor name color)
        ["color", name, integer color.red.toInt, integer color.green.toInt,
          integer color.blue.toInt]
  | remove {name} (isToken : IsToken name) : Spelling (.remove name) ["remove", name]
  | snapshot {words} (isToken : ∀ word ∈ words, IsToken word) :
      Spelling (.snapshot (" ".intercalate words)) ("snapshot" :: words)

variable {operation : Operation} {spelling : List String}

theorem Spelling.isToken (spelled : operation.Spelling spelling) :
    ∀ token ∈ spelling, IsToken token := by
  have keywords : IsToken "shape" ∧ IsToken "move" ∧ IsToken "resize" ∧ IsToken "color" ∧
      IsToken "remove" ∧ IsToken "snapshot" := by decide
  cases spelled with
  | snapshot isToken => exact List.forall_mem_cons.mpr ⟨keywords.2.2.2.2.2, isToken⟩
  | _ isToken => simp [keywords, isToken, isToken_integer, ShapeKind.isToken_name]

theorem Spelling.opens (spelled : operation.Spelling spelling) :
    spelling.head? = some operation.action.keyword := by
  cases spelled <;> rfl

theorem Spelling.asks (spelled : operation.Spelling spelling) :
    Instruction.Asks operation.action spelling operation := by
  cases spelled with
  | create =>
      exact .create (spells_integer _) (spells_integer _) (spells_integer _) (spells_integer _)
        (spells_integer _) (spells_integer _) (spells_integer _)
  | move => exact .move (spells_integer _) (spells_integer _)
  | resize => exact .resize (spells_integer _) (spells_integer _)
  | recolor => exact .recolor (spells_integer _) (spells_integer _) (spells_integer _)
  | remove => exact .remove
  | snapshot => exact .snapshot

theorem worded_iff_spelling : operation.Worded ↔ ∃ spelling, operation.Spelling spelling := by
  constructor
  · intro worded
    cases operation with
    | create blueprint => exact ⟨_, .create (worded _ rfl)⟩
    | move name position => exact ⟨_, .move (worded _ rfl)⟩
    | resize name extent => exact ⟨_, .resize (worded _ rfl)⟩
    | recolor name color => exact ⟨_, .recolor (worded _ rfl)⟩
    | remove name => exact ⟨_, .remove (worded _ rfl)⟩
    | snapshot description =>
        obtain ⟨words, isToken, rfl⟩ := worded
        exact ⟨_, .snapshot isToken⟩
  · rintro ⟨spelling, spelled⟩
    exact Instruction.asks_worded spelled.asks spelled.isToken

end Operation

namespace Script

theorem readLine_of_spelling {operation : Operation} {spelling : List String} {line : String}
    (spelled : operation.Spelling spelling) (spaced : Spaced spelling line) :
    readLine line = .ok (some operation) := by
  have cut := tokens_of_spaced spaced spelled.isToken
  rw [readLine_eq_some_iff]
  refine ⟨operation.action, ⟨operation.action.keyword, ?_, operation.action.names_keyword⟩, ?_⟩
  · rw [cut]
    exact spelled.opens
  · rw [cut]
    exact spelled.asks

theorem lines_ask_for_what_can_be_worded :
    (∀ operation : Operation,
      ((∃ line, readLine line = .ok (some operation)) ↔ operation.Worded) ∧
      (operation.Worded ↔ ∃ spelling, operation.Spelling spelling)) ∧
    ∀ (operation : Operation) (spelling : List String) (line : String),
      operation.Spelling spelling → Spaced spelling line →
        readLine line = .ok (some operation) := by
  refine ⟨fun operation => ⟨⟨?_, ?_⟩, Operation.worded_iff_spelling⟩,
    fun _ _ _ => readLine_of_spelling⟩
  · rintro ⟨line, asks⟩
    exact asked?_worded (asked?_eq_some_iff.mpr asks)
  · intro worded
    obtain ⟨spelling, spelled⟩ := Operation.worded_iff_spelling.mp worded
    obtain ⟨line, spaced⟩ := exists_spaced spelling
    exact ⟨line, readLine_of_spelling spelled spaced⟩

/-- A keyword as a name, the least word, and words that look like a line of their own. -/
theorem misleading_words_are_read_back :
    (Operation.Spelling (.move "shape" ⟨Int32.minValue, 7⟩) ["move", "shape", "-2147483648", "7"] ∧
      Spaced ["move", "shape", "-2147483648", "7"] "\u3000move\tshape\u00a0 -2147483648 7\r" ∧
      readLine "\u3000move\tshape\u00a0 -2147483648 7\r" =
        .ok (some (.move "shape" ⟨Int32.minValue, 7⟩))) ∧
    Operation.Spelling (.snapshot "remove 7") ["snapshot", "remove", "7"] ∧
      Spaced ["snapshot", "remove", "7"] "snapshot\u2003remove  7" ∧
      readLine "snapshot\u2003remove  7" = .ok (some (.snapshot "remove 7")) := by
  have least : integer Int32.minValue.toInt = "-2147483648" := by decide +kernel
  have seven : integer (7 : Int32).toInt = "7" := by decide +kernel
  have move : Operation.Spelling (.move "shape" ⟨Int32.minValue, 7⟩)
      ["move", "shape", "-2147483648", "7"] := by
    rw [← least, ← seven]
    exact .move (by decide)
  have moveLine : Spaced ["move", "shape", "-2147483648", "7"]
      "\u3000move\tshape\u00a0 -2147483648 7\r" :=
    ⟨"\u3000",
      "move" ++ "\t" ++ ("shape" ++ "\u00a0 " ++ ("-2147483648" ++ " " ++ ("7" ++ "\r"))),
      by decide, .cons (by decide) (by decide) (.cons (by decide) (by decide)
        (.cons (by decide) (by decide) (.last (by decide)))), by decide⟩
  have joined : " ".intercalate ["remove", "7"] = "remove 7" := by decide
  have snapshot : Operation.Spelling (.snapshot "remove 7") ["snapshot", "remove", "7"] := by
    rw [← joined]
    exact .snapshot (by decide)
  have snapshotLine : Spaced ["snapshot", "remove", "7"] "snapshot\u2003remove  7" :=
    ⟨"", "snapshot" ++ "\u2003" ++ ("remove" ++ "  " ++ ("7" ++ "")),
      by decide, .cons (by decide) (by decide) (.cons (by decide) (by decide)
        (.last (by decide))), by decide⟩
  exact ⟨⟨move, moveLine, lines_ask_for_what_can_be_worded.2 _ _ _ move moveLine⟩, snapshot,
    snapshotLine, lines_ask_for_what_can_be_worded.2 _ _ _ snapshot snapshotLine⟩

end Script

end CanvasAlbum
