import CanvasAlbum.Json.Codec
import CanvasAlbum.Proofs.Json.Laws

/-!
# Records read back what they write

The members of a written object lead the slots from their start to a state that holds the record.

* `codec_lawful`: so the codec of a record is lawful, if the codecs of its fields are and no field
  has the name of another.
-/

namespace CanvasAlbum.Json.Fields
open Reader Writer

variable {ε σ α β : Type}

inductive Takes (member? : String → Option (σ → Reader ε σ)) :
    σ → List (String × Writer) → σ → Prop where
  | done {slots} : Takes member? slots [] slots
  | field {slots filled final name value members read}
      (known : member? name = some read) (reads : Reads (read slots) value filled)
      (others : Takes member? filled members final) :
      Takes member? slots ((name, value) :: members) final

theorem takes_append_iff {member? : String → Option (σ → Reader ε σ)} {slots final : σ}
    {before after : List (String × Writer)} :
    Takes member? slots (before ++ after) final ↔
      ∃ filled, Takes member? slots before filled ∧ Takes member? filled after final := by
  constructor
  · intro takes
    induction before generalizing slots with
    | nil => exact ⟨slots, .done, takes⟩
    | cons member before ih =>
        cases takes with
        | field known reads others =>
            obtain ⟨filled, first, second⟩ := ih others
            exact ⟨filled, .field known reads first, second⟩
  · intro ⟨filled, first, second⟩
    induction first with
    | done => exact second
    | field known reads _ ih => exact .field known reads (ih second)

/-- The members fill the slots in whatever order they come. -/
def Fills (fields : Fields ε σ α) (members : List (String × Writer)) (final : σ) : Prop :=
  ∀ order : List (String × Writer), order.Perm members →
    Takes fields.member? fields.start order final

def itemsText (layout : Layout) (depth : Nat) : Bool → List Writer → List Char
  | true, items => following layout depth items
  | false, [] => []
  | false, item :: items => layout.gap depth ++ item layout depth ++ following layout depth items

/-- The items are read up to the end of the array. -/
def Listed (fields : Fields ε σ α) (items : List Writer) (a : α) : Prop :=
  ∀ ⦃layout : Layout⦄, layout.Blank → ∀ depth more ⦃gap : List Char⦄ rest, Spaces gap →
    ∃ left, Spaces left ∧ fields.items more
      (itemsText layout depth more items ++ (gap ++ ']' :: rest)) = .ok (a, left ++ ']' :: rest)

structure Lawful (fields : Fields ε σ α) : Prop where
  fills : ∀ a, ∃ final, fields.Fills (fields.write a) final ∧ fields.finish? final = some a
  listed : ∀ a, fields.Listed ((fields.write a).map Prod.snd) a

/-! ## Fields -/

theorem nil_fills : (nil : Fields ε Unit Unit).Fills [] () := by
  intro order perm
  rw [perm.eq_nil]
  exact .done

theorem nil_listed : (nil : Fields ε Unit Unit).Listed [] () := by
  intro layout blank depth more gap rest spaces
  refine ⟨gap, spaces, ?_⟩
  cases more <;> rfl

theorem nil_lawful : (nil : Fields ε Unit Unit).Lawful where
  fills _ := ⟨(), nil_fills, rfl⟩
  listed _ := nil_listed

section InFront
variable {name : String} {codec : Codec ε α} {others : Fields ε σ β}

theorem required_member_self :
    (required name codec others).member? name =
      some fun slots => do return (← fill codec slots.1, slots.2) := by
  simp only [required, if_true]

theorem required_member_other {key : String} (other : key ≠ name) :
    (required name codec others).member? key =
      (others.member? key).map fun read slots => do return (slots.1, ← read slots.2) := by
  simp only [required, if_neg other]

theorem Takes.behind (unknown : others.member? name = none) (slot : Option α) {slots final : σ}
    {members : List (String × Writer)} (takes : Takes others.member? slots members final) :
    Takes (required name codec others).member? (slot, slots) members (slot, final) := by
  induction takes with
  | done => exact .done
  | @field _ _ _ key _ _ _ known reads _ ih =>
      have other : key ≠ name := by
        rintro rfl
        rw [unknown] at known
        contradiction
      refine .field (by rw [required_member_other other, known, Option.map_some]) ?_ ih
      intro layout blank depth gap rest spaces ends
      rw [bind_of_ok (reads blank depth spaces ends), pure_eq]

theorem fills_given (lawful : codec.Lawful) (unknown : others.member? name = none) (a : α)
    {members : List (String × Writer)} {final : σ} (behind : others.Fills members final) :
    (required name codec others).Fills ((name, codec.write a) :: members) (some a, final) := by
  intro order perm
  -- The member stands somewhere among the others, which are read as if it were not there.
  obtain ⟨before, after, rfl⟩ := List.append_of_mem (perm.symm.subset List.mem_cons_self)
  have rest : (before ++ after).Perm members := (List.perm_middle.symm.trans perm).cons_inv
  obtain ⟨filled, first, second⟩ := takes_append_iff.mp (behind _ rest)
  apply takes_append_iff.mpr
  refine ⟨(none, filled), first.behind unknown none, ?_⟩
  apply Takes.field required_member_self _ (second.behind unknown (some a))
  intro layout blank depth gap rest spaces ends
  exact bind_of_ok (map_of_ok some (lawful.reads a blank depth spaces ends))

theorem fills_missing (unknown : others.member? name = none) {members : List (String × Writer)}
    {final : σ} (behind : others.Fills members final) :
    (required name codec others).Fills members ((none : Option α), final) :=
  fun order perm => (behind order perm).behind unknown none

def given (name : String) (codec : Codec ε α) (slot : Option α) : List (String × Writer) :=
  slot.toList.map fun a => (name, codec.write a)

theorem optional_fills (lawful : codec.Lawful) (unknown : others.member? name = none)
    (fallback : α) (slot : Option α) {members : List (String × Writer)} {final : σ}
    (behind : others.Fills members final) :
    (optional name codec fallback others).Fills (given name codec slot ++ members)
      (slot, final) := by
  cases slot with
  | none => exact fills_missing unknown behind
  | some a => exact fills_given lawful unknown a behind

theorem comma_written (layout : Layout) (depth : Nat) (more : Bool) (item : Writer)
    (items : List Writer) (tail : List Char) :
    (comma more : Reader ε Unit) (itemsText layout depth more (item :: items) ++ tail) =
      .ok ((), layout.gap depth ++ item layout depth ++ (following layout depth items ++ tail)) := by
  cases more with
  | false =>
      rw [itemsText, List.append_assoc]
      rfl
  | true =>
      rw [itemsText, following_cons, List.cons_append, List.append_assoc]
      exact expect_here rfl _

theorem endsNumber_following (layout : Layout) (depth : Nat) (items : List Writer)
    {gap : List Char} (spaces : Spaces gap) (rest : List Char) :
    EndsNumber (following layout depth items ++ (gap ++ ']' :: rest)) := by
  cases items with
  | nil => exact endsNumber_spaces spaces (endsNumber_cons rest rfl)
  | cons item items =>
      rw [following_cons, List.cons_append]
      exact endsNumber_cons _ rfl

theorem required_listed (lawful : codec.Lawful) (a : α) {items : List Writer} {b : β}
    (behind : others.Listed items b) :
    (required name codec others).Listed (codec.write a :: items) (a, b) := by
  intro layout blank depth more gap rest spaces
  obtain ⟨left, spaced, read⟩ := behind blank depth true rest spaces
  have ends := endsNumber_following layout depth items spaces rest
  refine ⟨left, spaced, ?_⟩
  refine (bind_of_ok (comma_written layout depth more (codec.write a) items _)).trans ?_
  refine (bind_of_ok (lawful.reads a blank depth (blank.gap depth) ends)).trans ?_
  exact bind_of_ok read

theorem optional_listed_given (lawful : codec.Lawful) (fallback a : α) {items : List Writer} {b : β}
    (behind : others.Listed items b) :
    (optional name codec fallback others).Listed (codec.write a :: items) (a, b) := by
  intro layout blank depth more gap rest spaces
  obtain ⟨left, spaced, read⟩ := behind blank depth true rest spaces
  have ends := endsNumber_following layout depth items spaces rest
  refine ⟨left, spaced, ?_⟩
  cases more with
  | true =>
      have passed := comma_written (ε := ε) layout depth true (codec.write a) items
        (gap ++ ']' :: rest)
      rw [itemsText, following_cons, List.cons_append] at passed ⊢
      refine (bind_of_ok (next_here rfl _)).trans ?_
      rw [if_neg (by decide)]
      refine (bind_of_ok passed).trans ?_
      refine (bind_of_ok (lawful.reads a blank depth (blank.gap depth) ends)).trans ?_
      exact bind_of_ok read
  | false =>
      -- Looking for the end of the array has dropped the gap before the item.
      have here := lawful.reads a blank depth spaces_nil ends
      obtain ⟨c, tail, opening, mark, noEnd⟩ := lawful.opens a layout depth
      have more : some c ≠ some ']' := fun same => noEnd (Option.some.inj same)
      rw [itemsText]
      simp only [opening, List.append_assoc, List.cons_append, List.nil_append] at here ⊢
      refine (bind_of_ok (next_mark (blank.gap depth) mark _)).trans ?_
      rw [if_neg more]
      refine (bind_of_ok rfl).trans ?_
      refine (bind_of_ok here).trans ?_
      exact bind_of_ok read

theorem optional_listed_missing {fallback : α} {b : β} (behind : others.Listed [] b) :
    (optional name codec fallback others).Listed [] (fallback, b) := by
  intro layout blank depth more gap rest spaces
  obtain ⟨left, spaced, read⟩ := behind blank depth more rest spaces_nil
  refine ⟨left, spaced, ?_⟩
  have none : itemsText layout depth more [] = [] := by cases more <;> rfl
  rw [none] at read ⊢
  refine (bind_of_ok (next_mark spaces rfl rest)).trans ?_
  rw [if_pos rfl]
  exact bind_of_ok read

theorem optional_listed (lawful : codec.Lawful) (fallback : α) (slot : Option α)
    {members : List (String × Writer)} {b : β} (behind : others.Listed (members.map Prod.snd) b)
    (last : slot = none → members = []) :
    (optional name codec fallback others).Listed
      ((given name codec slot ++ members).map Prod.snd) (slot.getD fallback, b) := by
  cases slot with
  | none =>
      rw [last rfl] at behind ⊢
      exact optional_listed_missing behind
  | some a => exact optional_listed_given lawful fallback a behind

theorem required_lawful (lawful : codec.Lawful) (unknown : others.member? name = none)
    (behind : others.Lawful) : (required name codec others).Lawful where
  fills := by
    intro ⟨a, b⟩
    obtain ⟨final, fills, finished⟩ := behind.fills b
    refine ⟨(some a, final), fills_given lawful unknown a fills, ?_⟩
    simp only [required, finished]
    rfl
  listed := by
    intro ⟨a, b⟩
    exact required_listed lawful a (behind.listed b)

end InFront

/-! ## Objects -/

section Objects
variable {fields : Fields ε σ α} {layout : Layout}

theorem member_append (name : String) (value : Writer) (gap tail : List Char) (depth : Nat) :
    gap ++ member name value layout depth ++ tail =
      gap ++ quote name.toList ++ (':' :: (layout.afterColon ++ value layout depth ++ tail)) := by
  simp only [member, List.append_assoc, List.cons_append]

theorem member_opening (name : String) (value : Writer) (layout : Layout) (depth : Nat) :
    ∃ tail, member name value layout depth = '"' :: tail := by
  simp only [member, quote, List.cons_append, List.cons.injEq, true_and, exists_eq']

theorem membersFrom_written (blank : layout.Blank) (depth : Nat) {name : String} {value : Writer}
    (members : List (String × Writer)) {slots final : σ}
    (takes : Takes fields.member? slots ((name, value) :: members) final) {gap : List Char}
    (spaces : Spaces gap) (rest : List Char) {fuel : Nat} (enough : members.length < fuel) :
    fields.membersFrom fuel slots (gap ++ member name value layout (depth + 1) ++
      (following layout (depth + 1) (members.map fun (n, v) => member n v) ++
        (layout.gap depth ++ '}' :: rest))) = .ok (final, rest) := by
  induction members generalizing name value slots gap fuel with
  | nil =>
      obtain ⟨fuel, rfl⟩ := Nat.exists_eq_add_one.mpr (Nat.zero_lt_of_lt enough)
      cases takes with
      | field known reads others =>
          cases others
          have ends : EndsNumber (layout.gap depth ++ '}' :: rest) :=
            endsNumber_spaces (blank.gap depth) (endsNumber_cons rest rfl)
          rw [List.map_nil, following, List.flatMap_nil, List.nil_append, member_append,
            membersFrom, bind_of_ok (text_quote spaces _ _), String.ofList_toList,
            bind_of_ok (expect_here rfl _), known]
          refine (bind_of_ok (reads blank (depth + 1) blank.afterColon ends)).trans ?_
          refine (bind_of_ok (next_mark (blank.gap depth) rfl rest)).trans ?_
          exact bind_of_ok (advance_mark _ _)
  | cons other members ih =>
      obtain ⟨fuel, rfl⟩ := Nat.exists_eq_add_one.mpr (Nat.zero_lt_of_lt enough)
      cases takes with
      | field known reads others =>
          have later := ih others (blank.gap (depth + 1)) (Nat.lt_of_succ_lt_succ enough)
          rw [List.map_cons, following_cons, List.cons_append, member_append, membersFrom,
            bind_of_ok (text_quote spaces _ _), String.ofList_toList,
            bind_of_ok (expect_here rfl _), known]
          refine (bind_of_ok (reads blank (depth + 1) blank.afterColon
            (endsNumber_cons _ rfl))).trans ?_
          refine (bind_of_ok (next_here rfl _)).trans ?_
          refine (bind_of_ok (advance_mark _ _)).trans ?_
          rw [List.append_assoc, later]

theorem members_written (blank : layout.Blank) (depth : Nat) {members : List (String × Writer)}
    {final : σ} (takes : Takes fields.member? fields.start members final) (rest : List Char) :
    ∃ body, object members layout depth ++ rest = '{' :: body ∧
      fields.members body = .ok (final, rest) := by
  cases members with
  | nil =>
      cases takes
      refine ⟨'}' :: rest, by simp [object, bracketed], ?_⟩
      rw [Fields.members, bind_of_ok (next_here rfl _), if_pos rfl]
      exact bind_of_ok (advance_mark _ _)
  | cons first members =>
      obtain ⟨name, value⟩ := first
      have enough := length_lt_items layout depth (member name value)
        (members.map fun (n, v) => member n v) '}' rest
      rw [List.length_map] at enough
      have read := membersFrom_written blank depth members takes spaces_nil rest enough
      obtain ⟨tail, opening⟩ := member_opening name value layout (depth + 1)
      refine ⟨_, by rw [object, List.map_cons, bracketed_cons, List.cons_append], ?_⟩
      simp only [opening, List.append_assoc, List.cons_append, List.nil_append] at read ⊢
      rw [Fields.members, bind_of_ok (next_mark (blank.gap (depth + 1)) rfl _), if_neg (by decide),
        bind_of_ok (get_eq _)]
      exact read

theorem read_object {members : List (String × Writer)} {final : σ} {a : α}
    (takes : Takes fields.member? fields.start members final)
    (finished : fields.finish? final = some a) : Reads fields.read (object members) a := by
  intro layout blank depth gap rest spaces ends
  obtain ⟨body, split, read⟩ := members_written blank depth takes rest
  rw [List.append_assoc, split]
  refine (bind_of_ok (next_mark spaces rfl body)).trans ?_
  refine (bind_of_ok (advance_mark _ _)).trans ?_
  rw [bind_of_ok read, finished, ofOption_some]

theorem read_array {items : List Writer} {a : α} (listed : fields.Listed items a) :
    Reads fields.read (array items) a := by
  intro layout blank depth gap rest spaces ends
  have split : ∃ closing, Spaces closing ∧ array items layout depth =
      '[' :: (itemsText layout (depth + 1) false items ++ (closing ++ [']'])) := by
    cases items with
    | nil => exact ⟨[], spaces_nil, rfl⟩
    | cons item items =>
        refine ⟨layout.gap depth, blank.gap depth, ?_⟩
        rw [Writer.array, bracketed_cons]
        simp only [itemsText, List.append_assoc]
  obtain ⟨closing, spaced, split⟩ := split
  obtain ⟨left, behind, read⟩ := listed blank (depth + 1) false rest spaced
  rw [split]
  simp only [List.append_assoc, List.cons_append, List.nil_append] at read ⊢
  refine (bind_of_ok (next_mark spaces rfl _)).trans ?_
  refine (bind_of_ok (advance_mark _ _)).trans ?_
  refine (bind_of_ok read).trans ?_
  exact bind_of_ok (expect_mark behind rfl rest)

theorem read_written (lawful : fields.Lawful) (a : α) :
    (∀ order : List (String × Writer), order.Perm (fields.write a) →
      Reads fields.read (object order) a) ∧
    Reads fields.read (array ((fields.write a).map Prod.snd)) a := by
  obtain ⟨final, fills, finished⟩ := lawful.fills a
  exact ⟨fun order perm => read_object (fills order perm) finished, read_array (lawful.listed a)⟩

theorem codec_lawful (lawful : fields.Lawful) : fields.codec.Lawful where
  opens a := object_opens (fields.write a)
  reads a := (read_written lawful a).1 _ (List.Perm.refl _)

end Objects

end CanvasAlbum.Json.Fields
