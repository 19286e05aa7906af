import CanvasAlbum.Proofs.Json.Tokens

namespace CanvasAlbum.Json
open Text

structure Layout.Blank (layout : Layout) : Prop where
  gap : ∀ depth, Spaces (layout.gap depth)
  afterColon : Spaces layout.afterColon

theorem Layout.pretty_blank : Layout.pretty.Blank where
  gap depth := by
    intro c member
    rcases List.mem_cons.mp member with rfl | indent
    · rfl
    · rw [List.eq_of_mem_replicate indent]
      rfl
  afterColon := by simp [Spaces, pretty, isSpace]

theorem Layout.compact_blank : Layout.compact.Blank where
  gap _ := spaces_nil
  afterColon := spaces_nil

def Writer.Opens (w : Writer) : Prop :=
  ∀ layout depth, ∃ c rest, w layout depth = c :: rest ∧ isSpace c = false ∧ c ≠ ']'

variable {ε α β : Type}

/-- A reader takes a value's text off the front, whatever stands around it. -/
def Reads (r : Reader ε α) (w : Writer) (a : α) : Prop :=
  ∀ ⦃layout : Layout⦄, layout.Blank → ∀ depth ⦃gap rest : List Char⦄, Spaces gap →
    EndsNumber rest → r (gap ++ w layout depth ++ rest) = .ok (a, rest)

theorem Reads.map {r : Reader ε α} {w : Writer} {a : α} (reads : Reads r w a) (f : α → β) :
    Reads (f <$> r) w (f a) :=
  fun _ blank depth _ _ spaces ends => Reader.map_of_ok f (reads blank depth spaces ends)

theorem Reads.run_render {r : Reader ε α} {w : Writer} {a : α} (reads : Reads r w a)
    {layout : Layout} (blank : layout.Blank) : r.run (w.render layout) = .ok a := by
  have read := reads blank 0 spaces_nil endsNumber_nil
  rw [List.nil_append, List.append_nil] at read
  apply Reader.run_eq_ok.mpr
  refine ⟨[], ?_, rfl⟩
  rwa [Writer.render, String.toList_ofList]

structure Codec.Lawful (codec : Codec ε α) : Prop where
  opens : ∀ a, (codec.write a).Opens
  reads : ∀ a, Reads codec.read (codec.write a) a

/-! ## Brackets -/

namespace Writer

def following (layout : Layout) (depth : Nat) (items : List Writer) : List Char :=
  items.flatMap fun item => ',' :: (layout.gap depth ++ item layout depth)

theorem length_le_following (layout : Layout) (depth : Nat) (items : List Writer) :
    items.length ≤ (following layout depth items).length := by
  induction items with
  | nil => simp
  | cons item items ih =>
      simp only [following, List.flatMap_cons, List.length_append, List.length_cons] at ih ⊢
      omega

theorem following_cons (layout : Layout) (depth : Nat) (item : Writer) (items : List Writer) :
    following layout depth (item :: items) =
      ',' :: (layout.gap depth ++ item layout depth ++ following layout depth items) := by
  rw [following, List.flatMap_cons, List.cons_append]
  rfl

theorem intercalate_comma (layout : Layout) (depth : Nat) (item : Writer) (items : List Writer) :
    [','].intercalate ((item :: items).map fun w => layout.gap depth ++ w layout depth) =
      layout.gap depth ++ item layout depth ++ following layout depth items := by
  induction items generalizing item with
  | nil => simp [following]
  | cons other items ih =>
      have tail := ih other
      rw [List.map_cons] at tail
      rw [List.map_cons, List.map_cons, List.intercalate_cons_cons, tail]
      simp only [following, List.flatMap_cons, List.append_assoc, List.cons_append,
        List.nil_append]

theorem bracketed_cons (opening closing : Char) (item : Writer) (items : List Writer)
    (layout : Layout) (depth : Nat) :
    bracketed opening closing (item :: items) layout depth =
      opening :: (layout.gap (depth + 1) ++ item layout (depth + 1) ++
        (following layout (depth + 1) items ++ (layout.gap depth ++ [closing]))) := by
  simp only [bracketed, List.isEmpty_cons, Bool.false_eq_true, if_false, intercalate_comma,
    List.append_assoc, List.cons_append]

theorem bracketed_opens {opening closing : Char} (items : List Writer)
    (mark : isSpace opening = false) (noEnd : opening ≠ ']') :
    (bracketed opening closing items).Opens := by
  intro layout depth
  cases items with
  | nil => exact ⟨opening, [closing], rfl, mark, noEnd⟩
  | cons item items => exact ⟨opening, _, bracketed_cons .., mark, noEnd⟩

theorem object_opens (members : List (String × Writer)) : (object members).Opens :=
  bracketed_opens _ rfl (by decide)

theorem object_single (name : String) (value : Writer) (layout : Layout) (depth : Nat)
    (rest : List Char) :
    object [(name, value)] layout depth ++ rest =
      '{' :: (layout.gap (depth + 1) ++ quote name.toList ++
        (':' :: (layout.afterColon ++ value layout (depth + 1) ++
          (layout.gap depth ++ '}' :: rest)))) := by
  rw [object, List.map_cons, List.map_nil, bracketed_cons]
  simp only [member, following, List.flatMap_nil, List.append_assoc, List.cons_append,
    List.nil_append]

theorem length_lt_items (layout : Layout) (depth : Nat) (first : Writer) (items : List Writer)
    (closing : Char) (rest : List Char) :
    items.length < (first layout (depth + 1) ++
      (following layout (depth + 1) items ++ (layout.gap depth ++ closing :: rest))).length := by
  have behind := length_le_following layout (depth + 1) items
  simp only [List.length_append, List.length_cons]
  omega

end Writer

namespace Reader
open Writer

variable {layout : Layout} {item : Codec ε α}

theorem itemsFrom_written (blank : layout.Blank) (lawful : item.Lawful) (depth : Nat) (a : α)
    (as : List α) {gap : List Char} (spaces : Spaces gap) (rest : List Char) {fuel : Nat}
    (enough : as.length < fuel) :
    itemsFrom item.read fuel (gap ++ item.write a layout (depth + 1) ++
      (following layout (depth + 1) (as.map item.write) ++ (layout.gap depth ++ ']' :: rest))) =
      .ok (a :: as, rest) := by
  -- Only the first item stands behind any gap; the others stand behind that of the layout.
  induction as generalizing a gap fuel with
  | nil =>
      obtain ⟨fuel, rfl⟩ := Nat.exists_eq_add_one.mpr (Nat.zero_lt_of_lt enough)
      have ends : EndsNumber (layout.gap depth ++ ']' :: rest) :=
        endsNumber_spaces (blank.gap depth) (endsNumber_cons rest rfl)
      rw [List.map_nil, following, List.flatMap_nil, List.nil_append, itemsFrom,
        bind_of_ok (lawful.reads a blank (depth + 1) spaces ends),
        bind_of_ok (next_mark (blank.gap depth) rfl rest)]
      exact bind_of_ok (advance_mark _ _)
  | cons b as ih =>
      obtain ⟨fuel, rfl⟩ := Nat.exists_eq_add_one.mpr (Nat.zero_lt_of_lt enough)
      have later := ih b (blank.gap (depth + 1)) (Nat.lt_of_succ_lt_succ enough)
      rw [List.map_cons, following_cons, List.cons_append, itemsFrom,
        bind_of_ok (lawful.reads a blank (depth + 1) spaces (endsNumber_cons _ rfl)),
        bind_of_ok (next_here rfl _)]
      refine (bind_of_ok (advance_mark _ _)).trans ?_
      rw [List.append_assoc, bind_of_ok later, pure_eq]

theorem array_written (lawful : item.Lawful) (as : List α) :
    Reads (array item.read) (Writer.array (as.map item.write)) as := by
  intro layout blank depth gap rest spaces ends
  cases as with
  | nil =>
      have split : gap ++ Writer.array [] layout depth ++ rest = gap ++ '[' :: ']' :: rest := by
        simp [Writer.array, bracketed]
      rw [List.map_nil, split, array, bind_of_ok (expect_mark spaces rfl _),
        bind_of_ok (next_here rfl _), if_pos rfl]
      exact bind_of_ok (advance_mark _ _)
  | cons a as =>
      have enough := length_lt_items layout depth (item.write a) (as.map item.write) ']' rest
      rw [List.length_map] at enough
      -- The gap is gone once the mark behind it has been looked at.
      have items := itemsFrom_written blank lawful depth a as spaces_nil rest enough
      obtain ⟨c, tail, opening, mark, noEnd⟩ := lawful.opens a layout (depth + 1)
      have more : some c ≠ some ']' := fun same => noEnd (Option.some.inj same)
      rw [List.map_cons, Writer.array, bracketed_cons]
      simp only [opening, List.append_assoc, List.cons_append, List.nil_append] at items ⊢
      rw [array, bind_of_ok (expect_mark spaces rfl _),
        bind_of_ok (next_mark (blank.gap (depth + 1)) mark _), if_neg more,
        bind_of_ok (get_eq _)]
      exact items

theorem tagged_written {cases : List (String × Reader ε α)} {name : String} {body : Reader ε α}
    {value : Writer} {a : α} (known : cases.lookup name = some body)
    (reads : Reads body value a) : Reads (tagged cases) (object [(name, value)]) a := by
  intro layout blank depth gap rest spaces ends
  have closing : EndsNumber (layout.gap depth ++ '}' :: rest) :=
    endsNumber_spaces (blank.gap depth) (endsNumber_cons rest rfl)
  rw [List.append_assoc, object_single, tagged, bind_of_ok (expect_mark spaces rfl _),
    bind_of_ok (text_quote (blank.gap (depth + 1)) _ _), String.ofList_toList, known,
    bind_of_ok (ofOption_some _ _), bind_of_ok (expect_here rfl _),
    bind_of_ok (reads blank (depth + 1) blank.afterColon closing),
    bind_of_ok (expect_mark (blank.gap depth) rfl rest), pure_eq]

end Reader

/-! ## Codecs -/

namespace Codec
open Reader

theorem Lawful.run_render {codec : Codec ε α} (lawful : codec.Lawful) {layout : Layout}
    (blank : layout.Blank) (a : α) : codec.read.run ((codec.write a).render layout) = .ok a :=
  (lawful.reads a).run_render blank

theorem integer_opens (i : Int) : (Writer.integer i).Opens := by
  intro layout depth
  obtain ⟨c, rest, split⟩ := List.exists_cons_of_ne_nil (Decimal.integer_toList_ne_nil i)
  have first : c ∈ (Decimal.integer i).toList := by simp [split]
  rcases Decimal.sign_or_digit_of_mem_integer first with rfl | digit
  · exact ⟨'-', rest, split, rfl, by decide⟩
  · refine ⟨c, rest, split, isSpace_of_isDigit digit, ?_⟩
    rintro rfl
    exact absurd digit (by decide)

theorem word32_lawful : (word32 : Codec ε Int32).Lawful where
  opens n := integer_opens n.toInt
  reads n := by
    intro layout blank depth gap rest spaces ends
    exact word32_written spaces n ends

theorem unsigned32_lawful : (unsigned32 : Codec ε UInt32).Lawful where
  opens n := integer_opens n.toNat
  reads n := by
    intro layout blank depth gap rest spaces ends
    exact unsigned32_written spaces n ends

theorem flag_lawful : (flag : Codec ε Bool).Lawful where
  opens b := by
    intro layout depth
    cases b with
    | true => exact ⟨'t', ['r', 'u', 'e'], rfl, rfl, by decide⟩
    | false => exact ⟨'f', ['a', 'l', 's', 'e'], rfl, rfl, by decide⟩
  reads b := by
    intro layout blank depth gap rest spaces ends
    exact flag_written spaces b rest

theorem quote_opens (s : String) : (Writer.text s).Opens := fun _ _ =>
  ⟨'"', _, rfl, rfl, by decide⟩

theorem text_lawful : (text : Codec ε String).Lawful where
  opens := quote_opens
  reads s := by
    intro layout blank depth gap rest spaces ends
    have read := text_quote (ε := ε) spaces s.toList rest
    rwa [String.ofList_toList] at read

theorem list_lawful {item : Codec ε α} (lawful : item.Lawful) : (list item).Lawful where
  opens as := Writer.bracketed_opens _ rfl (by decide)
  reads as := array_written lawful as

theorem map_lawful {codec : Codec ε α} (lawful : codec.Lawful) {wrap : α → β} {unwrap : β → α}
    (inverse : ∀ b, wrap (unwrap b) = b) : (codec.map wrap unwrap).Lawful where
  opens b := lawful.opens (unwrap b)
  reads b := by
    have mapped := (lawful.reads (unwrap b)).map wrap
    rwa [inverse] at mapped

theorem refine_lawful {codec : Codec ε α} (lawful : codec.Lawful) {check : α → Except ε β}
    {forget : β → α} (passes : ∀ b, check (forget b) = .ok b) :
    (codec.refine check forget).Lawful where
  opens b := lawful.opens (forget b)
  reads b := by
    intro layout blank depth gap rest spaces ends
    have read := lawful.reads (forget b) blank depth spaces ends
    refine (bind_of_ok read).trans ?_
    rw [passes]
    rfl

theorem names_lawful {values : List α} {name : α → String}
    (found : ∀ a, values.find? (name · = name a) = some a) :
    (names values name : Codec ε α).Lawful where
  opens a := quote_opens (name a)
  reads a := by
    intro layout blank depth gap rest spaces ends
    have split : gap ++ Writer.text (name a) layout depth ++ rest =
        gap ++ '"' :: ((name a).toList.flatMap escapeChar ++ ['"'] ++ rest) := by
      simp [Writer.text, quote]
    have read := text_quote (ε := ε) spaces_nil (name a).toList rest
    refine (congrArg _ split).trans ?_
    refine (bind_of_ok (next_mark spaces rfl _)).trans ?_
    rw [if_neg (by decide)]
    refine (bind_of_ok read).trans ?_
    rw [String.ofList_toList, found, ofOption_some]

end Codec

end CanvasAlbum.Json
