import CanvasAlbum.Proofs.Text.Literal
import CanvasAlbum.Proofs.Text.Lowercase
import CanvasAlbum.Script.Reading

/-!
# The grammar of script lines

What the tokens of a line ask for is given by `Asks`, what is examined and in which order by
`checks`. A line that opens with a keyword asks for an operation or fails a check, and then its
fault is that of the first check it fails.

* `read_eq_ok_iff`, `read_eq_error_iff`: the instructions, over any tokens.
* `lines_follow_the_grammar`: the instructions and the lines.
-/

namespace CanvasAlbum
open Text Decimal

def Action.Names (action : Action) (keyword : String) : Prop :=
  keyword.toList.map Char.toLower = action.keyword.toList

/-! ## Words from a table -/

theorem find?_key_eq_some_iff {α : Type} {key : α → String} (injective : Function.Injective key)
    {table : List α} (complete : ∀ a, a ∈ table) {word : String} {a : α} :
    table.find? (key · = word) = some a ↔ key a = word := by
  constructor
  · intro found
    simpa using List.find?_some found
  · rintro rfl
    have present : (table.find? (key · = key a)).isSome := by
      rw [List.find?_isSome]
      exact ⟨a, complete a, decide_eq_true rfl⟩
    obtain ⟨b, found⟩ := Option.isSome_iff_exists.mp present
    have same : key b = key a := by simpa using List.find?_some found
    rw [found, injective same]

theorem Action.keyword_injective : Function.Injective Action.keyword := by
  intro a b same
  cases a <;> cases b <;> simp [Action.keyword] at same ⊢

theorem ShapeKind.name_injective : Function.Injective ShapeKind.name := by
  intro a b same
  cases a <;> cases b <;> simp [ShapeKind.name] at same ⊢

theorem ShapeKind.ofName?_eq_some_iff {text : String} {kind : ShapeKind} :
    ofName? text = some kind ↔ kind.name = text :=
  find?_key_eq_some_iff ShapeKind.name_injective (fun a => by cases a <;> simp)

theorem Action.plain_of_mem_keyword (action : Action) :
    ∀ c ∈ action.keyword.toList, IsPlain c := by
  cases action <;> simp [Action.keyword, IsPlain]

theorem Action.ofKeyword?_eq_some_iff {keyword : String} {action : Action} :
    ofKeyword? keyword = some action ↔ action.Names keyword := by
  rw [ofKeyword?, find?_key_eq_some_iff Action.keyword_injective
    (fun a => by cases a <;> decide), eq_comm, lowercase_eq_iff action.plain_of_mem_keyword]
  rfl

namespace Instruction

/-- What tokens ask for. The first of them is not looked at. -/
inductive Asks : Action → List String → Operation → Prop where
  | create {keyword name x y h v r g b kind position extent color}
      (across : Spells x position.x) (down : Spells y position.y)
      (width : Spells h extent.horizontal) (height : Spells v extent.vertical)
      (red : Spells r color.red) (green : Spells g color.green) (blue : Spells b color.blue) :
      Asks .create [keyword, name, ShapeKind.name kind, x, y, h, v, r, g, b]
        (.create ⟨name, kind, position, extent, color⟩)
  | move {keyword name x y position}
      (across : Spells x position.x) (down : Spells y position.y) :
      Asks .move [keyword, name, x, y] (.move name position)
  | resize {keyword name h v extent}
      (width : Spells h extent.horizontal) (height : Spells v extent.vertical) :
      Asks .resize [keyword, name, h, v] (.resize name extent)
  | recolor {keyword name r g b color}
      (red : Spells r color.red) (green : Spells g color.green) (blue : Spells b color.blue) :
      Asks .recolor [keyword, name, r, g, b] (.recolor name color)
  | remove {keyword name} : Asks .remove [keyword, name] (.remove name)
  | snapshot {tokens} : Asks .snapshot tokens (.snapshot (" ".intercalate tokens.tail))

structure Check where
  Passes : Prop
  fault : LineFault

def countCheck (expected : Nat) (tokens : List String) : Check where
  Passes := tokens.length = expected
  fault := .tokenCount expected tokens.length

def kindCheck (token : String) : Check where
  Passes := ∃ kind : ShapeKind, token = kind.name
  fault := .unknownKind token

def numberCheck (field : Field) (token : String) : Check where
  Passes := IsWord token
  fault := .notANumber field token

/-- The checks in their order. A check behind the count means something for the right count only. -/
def checks : Action → List String → List Check
  | .create, tokens =>
      countCheck 10 tokens :: kindCheck (tokens.getD 2 "") ::
        List.zipWith numberCheck [.x, .y, .horizontal, .vertical, .red, .green, .blue]
          (tokens.drop 3)
  | .move, tokens => countCheck 4 tokens :: List.zipWith numberCheck [.x, .y] (tokens.drop 2)
  | .resize, tokens =>
      countCheck 4 tokens :: List.zipWith numberCheck [.horizontal, .vertical] (tokens.drop 2)
  | .recolor, tokens =>
      countCheck 5 tokens :: List.zipWith numberCheck [.red, .green, .blue] (tokens.drop 2)
  | .remove, tokens => [countCheck 2 tokens]
  | .snapshot, _ => []

def FirstFailure (checks : List Check) (fault : LineFault) : Prop :=
  ∃ earlier check later, checks = earlier ++ check :: later ∧ (∀ c ∈ earlier, c.Passes) ∧
    ¬check.Passes ∧ check.fault = fault

/-! ## First failures -/

theorem firstFailure_nil {fault : LineFault} : ¬FirstFailure [] fault := by
  rintro ⟨earlier, check, later, split, -⟩
  simp at split

theorem firstFailure_cons {check : Check} {rest : List Check} {fault : LineFault} :
    FirstFailure (check :: rest) fault ↔
      (¬check.Passes ∧ check.fault = fault) ∨ (check.Passes ∧ FirstFailure rest fault) := by
  constructor
  · rintro ⟨earlier, failing, later, split, passed, fails, here⟩
    cases earlier with
    | nil =>
        obtain ⟨rfl, -⟩ := List.cons_eq_cons.mp split
        exact Or.inl ⟨fails, here⟩
    | cons first earlier =>
        obtain ⟨rfl, behind⟩ := List.cons_eq_cons.mp split
        obtain ⟨passes, passed⟩ := List.forall_mem_cons.mp passed
        exact Or.inr ⟨passes, earlier, failing, later, behind, passed, fails, here⟩
  · rintro (⟨fails, here⟩ | ⟨passes, earlier, failing, later, rfl, passed, fails, here⟩)
    · exact ⟨[], check, rest, rfl, by simp, fails, here⟩
    · exact ⟨check :: earlier, failing, later, rfl, List.forall_mem_cons.mpr ⟨passes, passed⟩,
        fails, here⟩

theorem firstFailure_append {first second : List Check} {fault : LineFault} :
    FirstFailure (first ++ second) fault ↔
      FirstFailure first fault ∨ ((∀ c ∈ first, c.Passes) ∧ FirstFailure second fault) := by
  induction first with
  | nil => simp [firstFailure_nil]
  | cons check rest ih =>
      rw [List.cons_append, firstFailure_cons, firstFailure_cons, ih, List.forall_mem_cons]
      tauto

theorem passes_or_firstFailure (checks : List Check) :
    (∀ c ∈ checks, c.Passes) ∨ ∃ fault, FirstFailure checks fault := by
  induction checks with
  | nil => simp
  | cons check rest ih =>
      by_cases passes : check.Passes
      · rcases ih with all | ⟨fault, later⟩
        · exact Or.inl (List.forall_mem_cons.mpr ⟨passes, all⟩)
        · exact Or.inr ⟨fault, firstFailure_cons.mpr (Or.inr ⟨passes, later⟩)⟩
      · exact Or.inr ⟨check.fault, firstFailure_cons.mpr (Or.inl ⟨passes, rfl⟩)⟩

/-! ## Results that follow checks -/

section Follows
variable {α β : Type} {fault : LineFault}

/-- A result is at fault exactly as the first failing check says. -/
def Follows (result : Except LineFault α) (checks : List Check) : Prop :=
  ∀ fault, result = .error fault ↔ FirstFailure checks fault

theorem follows_nil (a : α) : Follows (.ok a) [] := by
  intro fault
  simp [firstFailure_nil]

theorem Follows.passed {a : α} {checks : List Check} (follows : Follows (.ok a) checks) :
    ∀ c ∈ checks, c.Passes := by
  rcases passes_or_firstFailure checks with passed | ⟨fault, fails⟩
  · exact passed
  · exact absurd ((follows fault).mpr fails) (by simp)

theorem Follows.bind {result : Except LineFault α} {next : α → Except LineFault β}
    {first second : List Check} (here : Follows result first)
    (there : ∀ a, Follows (next a) second) : Follows (result >>= next) (first ++ second) := by
  intro fault
  rw [firstFailure_append]
  -- A fault of the first part says which of its checks fails, so the second part is never reached.
  cases result with
  | error cause =>
      have fails := (here cause).mp rfl
      have stops : ¬∀ c ∈ first, c.Passes := by
        obtain ⟨earlier, check, later, rfl, -, failing, -⟩ := fails
        exact fun passed => failing (passed check (by simp))
      have carried : (Except.error cause >>= next) = .error cause := rfl
      rw [carried, ← here fault, Except.error.injEq, Except.error.injEq]
      exact ⟨Or.inl, fun either => either.resolve_right fun later => stops later.1⟩
  | ok a =>
      have none : ¬FirstFailure first fault := by simp [← here fault]
      have carried : (Except.ok a >>= next) = next a := rfl
      rw [carried, there a fault]
      exact ⟨fun fails => Or.inr ⟨here.passed, fails⟩, fun either => (either.resolve_left none).2⟩

theorem follows_cons_of_pass {result : Except LineFault α} {check : Check} {rest : List Check}
    (passes : check.Passes) (follows : Follows result rest) : Follows result (check :: rest) := by
  intro fault
  rw [firstFailure_cons, follows fault]
  tauto

theorem follows_cons_of_fail (check : Check) (rest : List Check) (fails : ¬check.Passes) :
    Follows (.error check.fault : Except LineFault α) (check :: rest) := by
  intro fault
  rw [firstFailure_cons, Except.error.injEq]
  tauto

end Follows

/-! ## Faults -/

theorem number_follows (field : Field) (token : String) :
    Follows (number field token) [numberCheck field token] := by
  unfold number
  cases read : word32? token with
  | none => exact follows_cons_of_fail (numberCheck field token) [] (word32?_eq_none_iff.mp read)
  | some word =>
      have passes : IsWord token := isWord_iff.mpr ⟨word, word32?_eq_some_iff.mp read⟩
      exact follows_cons_of_pass passes (follows_nil word)

theorem kind_follows (token : String) : Follows (kind token) [kindCheck token] := by
  unfold kind
  cases read : ShapeKind.ofName? token with
  | none =>
      have unknown : ¬∃ kind : ShapeKind, token = kind.name := by
        rintro ⟨kind, rfl⟩
        rw [ShapeKind.ofName?_eq_some_iff.mpr rfl] at read
        contradiction
      exact follows_cons_of_fail (kindCheck token) [] unknown
  | some kind =>
      exact follows_cons_of_pass ⟨kind, (ShapeKind.ofName?_eq_some_iff.mp read).symm⟩
        (follows_nil kind)

theorem position_follows (x y : String) :
    Follows (position x y) [numberCheck .x x, numberCheck .y y] :=
  (number_follows .x x).bind fun _ => (number_follows .y y).bind fun _ => follows_nil _

theorem extent_follows (h v : String) :
    Follows (extent h v) [numberCheck .horizontal h, numberCheck .vertical v] :=
  (number_follows .horizontal h).bind fun _ =>
    (number_follows .vertical v).bind fun _ => follows_nil _

theorem color_follows (r g b : String) :
    Follows (color r g b) [numberCheck .red r, numberCheck .green g, numberCheck .blue b] :=
  (number_follows .red r).bind fun _ =>
    (number_follows .green g).bind fun _ =>
      (number_follows .blue b).bind fun _ => follows_nil _

section Counted
variable {expected : Nat} {tokens : List String}
  {ask : tokens.length = expected → Except LineFault Operation}

theorem counted_follows {rest : List Check} (there : ∀ count, Follows (ask count) rest) :
    Follows (counted expected tokens ask) (countCheck expected tokens :: rest) := by
  unfold counted
  split
  · rename_i count
    exact follows_cons_of_pass count (there count)
  · rename_i mismatch
    exact follows_cons_of_fail (countCheck expected tokens) rest mismatch

theorem counted_eq_ok {asked : Operation} :
    counted expected tokens ask = .ok asked ↔ ∃ count, ask count = .ok asked := by
  unfold counted
  split
  · rename_i count
    exact ⟨fun done => ⟨count, done⟩, fun ⟨_, done⟩ => done⟩
  · rename_i mismatch
    exact iff_of_false (by simp) fun ⟨count, _⟩ => mismatch count

end Counted

theorem create_follows (tokens : List String) : Follows (create tokens) (checks .create tokens) := by
  apply counted_follows
  intro count
  match tokens, count with
  | [_, name, kind, x, y, h, v, r, g, b], _ =>
      exact (kind_follows kind).bind fun _ =>
        (position_follows x y).bind fun _ =>
          (extent_follows h v).bind fun _ =>
            (color_follows r g b).bind fun _ => follows_nil _

theorem move_follows (tokens : List String) : Follows (move tokens) (checks .move tokens) := by
  apply counted_follows
  intro count
  match tokens, count with
  | [_, name, x, y], _ => exact (position_follows x y).bind fun _ => follows_nil _

theorem resize_follows (tokens : List String) : Follows (resize tokens) (checks .resize tokens) := by
  apply counted_follows
  intro count
  match tokens, count with
  | [_, name, h, v], _ => exact (extent_follows h v).bind fun _ => follows_nil _

theorem recolor_follows (tokens : List String) :
    Follows (recolor tokens) (checks .recolor tokens) := by
  apply counted_follows
  intro count
  match tokens, count with
  | [_, name, r, g, b], _ => exact (color_follows r g b).bind fun _ => follows_nil _

theorem remove_follows (tokens : List String) : Follows (remove tokens) (checks .remove tokens) := by
  apply counted_follows
  intro count
  exact follows_nil _

theorem operation_follows (action : Action) (tokens : List String) :
    Follows (operation action tokens) (checks action tokens) := by
  cases action with
  | create => exact create_follows tokens
  | move => exact move_follows tokens
  | resize => exact resize_follows tokens
  | recolor => exact recolor_follows tokens
  | remove => exact remove_follows tokens
  | snapshot => exact follows_nil _

/-! ## Operations -/

theorem bind_eq_ok {α β : Type} {result : Except LineFault α} {next : α → Except LineFault β}
    {b : β} : (result >>= next) = .ok b ↔ ∃ a, result = .ok a ∧ next a = .ok b := by
  cases result with
  | error fault =>
      constructor
      · intro failed
        cases failed
      · rintro ⟨a, ⟨⟩, -⟩
  | ok a =>
      constructor
      · exact fun done => ⟨a, rfl, done⟩
      · rintro ⟨_, ⟨⟩, done⟩
        exact done

theorem pure_eq_ok {α : Type} {a b : α} : (pure a : Except LineFault α) = .ok b ↔ a = b :=
  ⟨Except.ok.inj, congrArg Except.ok⟩

theorem number_eq_ok {field : Field} {token : String} {word : Int32} :
    number field token = .ok word ↔ Spells token word := by
  rw [← word32?_eq_some_iff]
  unfold number
  cases word32? token <;> simp

theorem kind_eq_ok {token : String} {shapeKind : ShapeKind} :
    kind token = .ok shapeKind ↔ shapeKind.name = token := by
  rw [← ShapeKind.ofName?_eq_some_iff]
  unfold kind
  cases ShapeKind.ofName? token <;> simp

theorem position_eq_ok {x y : String} {p : Position} :
    position x y = .ok p ↔ Spells x p.x ∧ Spells y p.y := by
  simp only [position, bind_eq_ok, pure_eq_ok, number_eq_ok]
  constructor
  · rintro ⟨across, first, down, second, rfl⟩
    exact ⟨first, second⟩
  · rintro ⟨first, second⟩
    exact ⟨p.x, first, p.y, second, rfl⟩

theorem extent_eq_ok {h v : String} {e : Extent} :
    extent h v = .ok e ↔ Spells h e.horizontal ∧ Spells v e.vertical := by
  simp only [extent, bind_eq_ok, pure_eq_ok, number_eq_ok]
  constructor
  · rintro ⟨width, first, height, second, rfl⟩
    exact ⟨first, second⟩
  · rintro ⟨first, second⟩
    exact ⟨e.horizontal, first, e.vertical, second, rfl⟩

theorem color_eq_ok {r g b : String} {c : Color} :
    color r g b = .ok c ↔ Spells r c.red ∧ Spells g c.green ∧ Spells b c.blue := by
  simp only [color, bind_eq_ok, pure_eq_ok, number_eq_ok]
  constructor
  · rintro ⟨red, first, green, second, blue, third, rfl⟩
    exact ⟨first, second, third⟩
  · rintro ⟨first, second, third⟩
    exact ⟨c.red, first, c.green, second, c.blue, third, rfl⟩

section
variable {tokens : List String} {asked : Operation}

theorem create_eq_ok : create tokens = .ok asked ↔ Asks .create tokens asked := by
  simp only [create, counted_eq_ok, bind_eq_ok, pure_eq_ok, kind_eq_ok, position_eq_ok,
    extent_eq_ok, color_eq_ok]
  constructor
  · rintro ⟨count, kind, named, position, ⟨across, down⟩, extent, ⟨width, height⟩, color,
      ⟨red, green, blue⟩, rfl⟩
    match tokens, count with
    | [_, _, _, _, _, _, _, _, _, _], _ =>
        obtain rfl := named
        exact .create across down width height red green blue
  · intro asks
    cases asks with
    | create across down width height red green blue =>
        exact ⟨rfl, _, rfl, _, ⟨across, down⟩, _, ⟨width, height⟩, _, ⟨red, green, blue⟩, rfl⟩

theorem move_eq_ok : move tokens = .ok asked ↔ Asks .move tokens asked := by
  simp only [move, counted_eq_ok, bind_eq_ok, pure_eq_ok, position_eq_ok]
  constructor
  · rintro ⟨count, position, ⟨across, down⟩, rfl⟩
    match tokens, count with
    | [_, _, _, _], _ => exact .move across down
  · intro asks
    cases asks with
    | move across down => exact ⟨rfl, _, ⟨across, down⟩, rfl⟩

theorem resize_eq_ok : resize tokens = .ok asked ↔ Asks .resize tokens asked := by
  simp only [resize, counted_eq_ok, bind_eq_ok, pure_eq_ok, extent_eq_ok]
  constructor
  · rintro ⟨count, extent, ⟨width, height⟩, rfl⟩
    match tokens, count with
    | [_, _, _, _], _ => exact .resize width height
  · intro asks
    cases asks with
    | resize width height => exact ⟨rfl, _, ⟨width, height⟩, rfl⟩

theorem recolor_eq_ok : recolor tokens = .ok asked ↔ Asks .recolor tokens asked := by
  simp only [recolor, counted_eq_ok, bind_eq_ok, pure_eq_ok, color_eq_ok]
  constructor
  · rintro ⟨count, color, ⟨red, green, blue⟩, rfl⟩
    match tokens, count with
    | [_, _, _, _, _], _ => exact .recolor red green blue
  · intro asks
    cases asks with
    | recolor red green blue => exact ⟨rfl, _, ⟨red, green, blue⟩, rfl⟩

theorem remove_eq_ok : remove tokens = .ok asked ↔ Asks .remove tokens asked := by
  simp only [remove, counted_eq_ok, pure_eq_ok]
  constructor
  · rintro ⟨count, rfl⟩
    match tokens, count with
    | [_, _], _ => exact .remove
  · intro asks
    cases asks with
    | remove => exact ⟨rfl, rfl⟩

theorem snapshot_eq_ok : snapshot tokens = .ok asked ↔ Asks .snapshot tokens asked := by
  unfold snapshot
  constructor
  · rintro ⟨⟩
    exact .snapshot
  · rintro ⟨⟩
    rfl

end

theorem operation_eq_ok {action : Action} {tokens : List String} {asked : Operation} :
    operation action tokens = .ok asked ↔ Asks action tokens asked := by
  cases action with
  | create => exact create_eq_ok
  | move => exact move_eq_ok
  | resize => exact resize_eq_ok
  | recolor => exact recolor_eq_ok
  | remove => exact remove_eq_ok
  | snapshot => exact snapshot_eq_ok

theorem read_eq_ok_iff {action : Action} {tokens : List String} {asked : Operation} :
    read action tokens = .ok asked ↔ Asks action tokens asked := by
  rw [← operation_eq_ok, read]
  cases operation action tokens <;> simp [Except.mapError]

theorem read_eq_error_iff {action : Action} {tokens : List String} {cause : Refusal} :
    read action tokens = .error cause ↔
      ∃ fault, FirstFailure (checks action tokens) fault ∧ cause = .faultyLine action fault := by
  simp only [← operation_follows action tokens _, read]
  cases operation action tokens <;> simp [Except.mapError, eq_comm]

end Instruction

namespace Script
open Instruction

/-! ## Lines -/

def Opens (line : String) (action : Action) : Prop :=
  ∃ keyword ∈ (tokens line).head?, action.Names keyword

theorem readLine_of_opens {line : String} {action : Action} (opens : Opens line action) :
    readLine line = (Instruction.read action (tokens line)).map some := by
  obtain ⟨keyword, first, names⟩ := opens
  unfold readLine
  cases split : tokens line with
  | nil => simp [split] at first
  | cons head rest =>
      rw [split] at first
      obtain rfl : head = keyword := Option.some.inj first
      simp only [Action.ofKeyword?_eq_some_iff.mpr names]

theorem readLine_of_not_opens {line : String} (skipped : ∀ action, ¬Opens line action) :
    readLine line = .ok none := by
  unfold readLine
  cases split : tokens line with
  | nil => rfl
  | cons head rest =>
      cases lookup : Action.ofKeyword? head with
      | none => simp only [lookup]
      | some action =>
          have names := Action.ofKeyword?_eq_some_iff.mp lookup
          exact absurd ⟨head, by simp [split], names⟩ (skipped action)

theorem opens_or_not (line : String) :
    (∃ action, Opens line action) ∨ ∀ action, ¬Opens line action := by
  rw [← not_exists]
  exact em _

theorem readLine_eq_none_iff {line : String} :
    readLine line = .ok none ↔ ∀ action, ¬Opens line action := by
  refine ⟨fun skipped action opens => ?_, readLine_of_not_opens⟩
  rw [readLine_of_opens opens] at skipped
  cases answer : Instruction.read action (tokens line) <;> simp [answer, Except.map] at skipped

theorem readLine_eq_some_iff {line : String} {asked : Operation} :
    readLine line = .ok (some asked) ↔
      ∃ action, Opens line action ∧ Asks action (tokens line) asked := by
  constructor
  · intro done
    rcases opens_or_not line with ⟨action, opens⟩ | skipped
    · rw [readLine_of_opens opens] at done
      refine ⟨action, opens, read_eq_ok_iff.mp ?_⟩
      cases answer : Instruction.read action (tokens line) <;> simp_all [Except.map]
    · rw [readLine_of_not_opens skipped] at done
      simp at done
  · rintro ⟨action, opens, asks⟩
    rw [readLine_of_opens opens, read_eq_ok_iff.mpr asks]
    rfl

theorem readLine_eq_error_iff {line : String} {cause : Refusal} :
    readLine line = .error cause ↔
      ∃ action fault, Opens line action ∧ FirstFailure (checks action (tokens line)) fault ∧
        cause = .faultyLine action fault := by
  constructor
  · intro failed
    rcases opens_or_not line with ⟨action, opens⟩ | skipped
    · rw [readLine_of_opens opens] at failed
      have refused : Instruction.read action (tokens line) = .error cause := by
        cases answer : Instruction.read action (tokens line) <;> simp_all [Except.map]
      obtain ⟨fault, first, named⟩ := read_eq_error_iff.mp refused
      exact ⟨action, fault, opens, first, named⟩
    · rw [readLine_of_not_opens skipped] at failed
      simp at failed
  · rintro ⟨action, fault, opens, first, named⟩
    rw [readLine_of_opens opens, read_eq_error_iff.mpr ⟨fault, first, named⟩]
    rfl

theorem lines_follow_the_grammar :
    (∀ action tokens,
      (∀ asked, Instruction.read action tokens = .ok asked ↔ Asks action tokens asked) ∧
      ∀ cause, Instruction.read action tokens = .error cause ↔
        ∃ fault, FirstFailure (checks action tokens) fault ∧ cause = .faultyLine action fault) ∧
    ∀ line,
      (readLine line = .ok none ↔ ∀ action, ¬Opens line action) ∧
      (∀ asked, readLine line = .ok (some asked) ↔
        ∃ action, Opens line action ∧ Asks action (tokens line) asked) ∧
      ∀ cause, readLine line = .error cause ↔
        ∃ action fault, Opens line action ∧ FirstFailure (checks action (tokens line)) fault ∧
          cause = .faultyLine action fault :=
  ⟨fun _ _ => ⟨fun _ => read_eq_ok_iff, fun _ => read_eq_error_iff⟩,
    fun _ => ⟨readLine_eq_none_iff, fun _ => readLine_eq_some_iff,
      fun _ => readLine_eq_error_iff⟩⟩

example : readLine "MoVe R +007 -0" = .ok (some (.move "R" ⟨7, 0⟩)) := by rfl

example : readLine "resize R 1 ++2" =
    .error (.faultyLine .resize (.notANumber .vertical "++2")) := by rfl

end Script
end CanvasAlbum
