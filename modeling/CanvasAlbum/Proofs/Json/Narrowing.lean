import CanvasAlbum.Proofs.Json.Records

namespace CanvasAlbum.Json

variable {ε α β α' β' γ σ τ : Type}

def Reader.Narrows (narrow : Reader ε β) (forget : β → α) (wide : Reader ε α) : Prop :=
  ∀ ⦃s b rest⦄, narrow s = .ok (b, rest) → wide s = .ok (forget b, rest)

namespace Reader

theorem narrows_refl (r : Reader ε α) : Narrows r id r := fun _ _ _ => id

theorem Narrows.bind {narrow : Reader ε β} {forget : β → α} {wide : Reader ε α}
    {next : β → Reader ε β'} {forget' : β' → α'} {next' : α → Reader ε α'}
    (first : Narrows narrow forget wide)
    (second : ∀ b, Narrows (next b) forget' (next' (forget b))) :
    Narrows (narrow >>= next) forget' (wide >>= next') := by
  intro s c rest done
  obtain ⟨b, left, here, there⟩ := bind_eq_ok.mp done
  exact bind_eq_ok.mpr ⟨forget b, left, first here, second b there⟩

theorem narrows_pure (forget : β → α) {a : α} {b : β} (same : forget b = a) :
    Narrows (pure b : Reader ε β) forget (pure a) := by
  rintro s _ _ ⟨⟩
  rw [same, pure_eq]

theorem narrows_malformed (forget : β → α) : Narrows (malformed : Reader ε β) forget malformed := by
  rintro s b rest ⟨⟩

theorem Narrows.map {narrow : Reader ε β} {forget : β → α} {wide : Reader ε α} {wrap : β → β'}
    {forget' : β' → α'} {wrap' : α → α'} (narrows : Narrows narrow forget wide)
    (commutes : ∀ b, forget' (wrap b) = wrap' (forget b)) :
    Narrows (wrap <$> narrow) forget' (wrap' <$> wide) := by
  rw [← bind_pure_comp, ← bind_pure_comp]
  exact narrows.bind fun b => narrows_pure forget' (commutes b)

theorem narrows_ofOption {forget : β → α} {narrow : Option β} {wide : Option α}
    (found : ∀ b, narrow = some b → wide = some (forget b)) :
    Narrows (ofOption narrow : Reader ε β) forget (ofOption wide) := by
  cases narrow with
  | none => rintro s b rest ⟨⟩
  | some b =>
      rw [found b rfl]
      exact narrows_pure forget rfl

theorem narrows_refine (r : Reader ε α) {check : α → Except ε β} {forget : β → α}
    (keeps : ∀ a b, check a = .ok b → forget b = a) : Narrows (r.refine check) forget r := by
  intro s b rest done
  obtain ⟨a, left, read, checked⟩ := bind_eq_ok.mp done
  cases passed : check a with
  | error cause =>
      rw [passed] at checked
      cases checked
  | ok value =>
      rw [passed] at checked
      cases checked
      rw [read, keeps a b passed]

section Arrays
variable {item : Reader ε β} {forget : β → α} {item' : Reader ε α}

theorem itemsFrom_narrows (narrows : Narrows item forget item') (fuel : Nat) :
    Narrows (itemsFrom item fuel) (List.map forget) (itemsFrom item' fuel) := by
  induction fuel with
  | zero => exact narrows_malformed _
  | succ fuel ih =>
      refine narrows.bind fun b => (narrows_refl next).bind fun mark => ?_
      simp only [id_eq]
      split
      · refine (narrows_refl advance).bind fun _ => ih.bind fun bs => ?_
        exact narrows_pure _ rfl
      · exact (narrows_refl advance).bind fun _ => narrows_pure _ rfl
      · exact narrows_malformed _

theorem array_narrows (narrows : Narrows item forget item') :
    Narrows (array item) (List.map forget) (array item') := by
  refine (narrows_refl (expect '[')).bind fun _ => (narrows_refl next).bind fun mark => ?_
  simp only [id_eq]
  split
  · exact (narrows_refl advance).bind fun _ => narrows_pure _ rfl
  · exact (narrows_refl get).bind fun s => itemsFrom_narrows narrows s.length

end Arrays

theorem Narrows.run {narrow : Reader ε β} {forget : β → α} {wide : Reader ε α}
    (narrows : Narrows narrow forget wide) {text : String} {b : β}
    (done : narrow.run text = .ok b) : wide.run text = .ok (forget b) := by
  obtain ⟨rest, read, ended⟩ := run_eq_ok.mp done
  exact run_eq_ok.mpr ⟨rest, narrows read, ended⟩

end Reader

namespace Fields
open Reader

/-- Fields that are named alike and narrow each other one by one. -/
structure Narrows (narrow : Fields ε σ β) (loosen : σ → τ) (forget : β → α)
    (wide : Fields ε τ α) : Prop where
  start : loosen narrow.start = wide.start
  member : ∀ key, (narrow.member? key = none ∧ wide.member? key = none) ∨
    ∃ read read', narrow.member? key = some read ∧ wide.member? key = some read' ∧
      ∀ slots, Reader.Narrows (read slots) loosen (read' (loosen slots))
  finish : ∀ slots b, narrow.finish? slots = some b → wide.finish? (loosen slots) = some (forget b)
  items : ∀ more, Reader.Narrows (narrow.items more) forget (wide.items more)

theorem nil_narrows : (nil : Fields ε Unit Unit).Narrows id id nil where
  start := rfl
  member _ := Or.inl ⟨rfl, rfl⟩
  finish _ _ := id
  items _ := narrows_refl _

theorem fill_narrows {codec : Codec ε β} {forget : β → α} {codec' : Codec ε α}
    (narrows : codec.read.Narrows forget codec'.read) (slot : Option β) :
    (fill codec slot).Narrows (Option.map forget) (fill codec' (slot.map forget)) := by
  cases slot with
  | some _ => exact narrows_malformed _
  | none => exact narrows.map fun _ => rfl

theorem required_narrows (name : String) {codec : Codec ε γ} {forget : γ → β} {codec' : Codec ε β}
    {others : Fields ε σ β'} {loosen : σ → τ} {forget' : β' → α'} {others' : Fields ε τ α'}
    (narrows : codec.read.Narrows forget codec'.read)
    (behind : others.Narrows loosen forget' others') :
    (required name codec others).Narrows (Prod.map (Option.map forget) loosen)
      (Prod.map forget forget') (required name codec' others') where
  start := by simp [required, behind.start]
  member key := by
    by_cases here : key = name
    · subst here
      refine Or.inr ⟨_, _, required_member_self, required_member_self, fun slots => ?_⟩
      exact (fill_narrows narrows slots.1).bind fun _ => narrows_pure _ rfl
    · rw [required_member_other here, required_member_other here]
      rcases behind.member key with ⟨unknown, unknown'⟩ | ⟨read, read', known, known', reads⟩
      · left
        rw [unknown, unknown']
        exact ⟨rfl, rfl⟩
      · right
        refine ⟨_, _, by rw [known]; rfl, by rw [known']; rfl, ?_⟩
        intro slots
        exact (reads slots.2).bind fun _ => narrows_pure _ rfl
  finish := by
    rintro ⟨slot, slots⟩ ⟨c, b⟩ finished
    obtain ⟨c, filled, finished⟩ := Option.bind_eq_some_iff.mp finished
    obtain ⟨b, complete, ⟨⟩⟩ := Option.bind_eq_some_iff.mp finished
    simp only [required, Prod.map, filled, behind.finish slots b complete]
    rfl
  items more := by
    refine (narrows_refl (comma more)).bind fun _ => narrows.bind fun _ => ?_
    exact (behind.items true).bind fun _ => narrows_pure _ rfl

section Objects
variable {narrow : Fields ε σ β} {loosen : σ → τ} {forget : β → α} {wide : Fields ε τ α}

theorem skipValue_narrows (slots : σ) :
    (skipValue *> pure slots : Reader ε σ).Narrows loosen (skipValue *> pure (loosen slots)) := by
  rw [seqRight_eq_bind, seqRight_eq_bind]
  exact (narrows_refl skipValue).bind fun _ => narrows_pure _ rfl

theorem membersFrom_narrows (narrows : narrow.Narrows loosen forget wide) (fuel : Nat)
    (slots : σ) : (narrow.membersFrom fuel slots).Narrows loosen
      (wide.membersFrom fuel (loosen slots)) := by
  induction fuel generalizing slots with
  | zero => exact narrows_malformed _
  | succ fuel ih =>
      refine (narrows_refl text).bind fun key => (narrows_refl (expect ':')).bind fun _ => ?_
      rcases narrows.member key with ⟨unknown, unknown'⟩ | ⟨read, read', known, known', reads⟩
      on_goal 1 =>
        simp only [id_eq, unknown, unknown']
        refine (skipValue_narrows slots).bind fun filled => ?_
      on_goal 2 =>
        simp only [id_eq, known, known']
        refine (reads slots).bind fun filled => ?_
      -- Field or not, what stands behind the member is read alike.
      all_goals
        refine (narrows_refl next).bind fun mark => ?_
        simp only [id_eq]
        split
        · exact (narrows_refl advance).bind fun _ => ih filled
        · exact (narrows_refl advance).bind fun _ => narrows_pure _ rfl
        · exact narrows_malformed _

theorem members_narrows (narrows : narrow.Narrows loosen forget wide) :
    narrow.members.Narrows loosen wide.members := by
  refine (narrows_refl next).bind fun mark => ?_
  simp only [id_eq]
  split
  · exact (narrows_refl advance).bind fun _ => narrows_pure _ narrows.start
  · refine (narrows_refl get).bind fun s => ?_
    rw [← narrows.start]
    exact membersFrom_narrows narrows s.length narrow.start

theorem read_narrows (narrows : narrow.Narrows loosen forget wide) :
    narrow.read.Narrows forget wide.read := by
  refine (narrows_refl next).bind fun mark => ?_
  simp only [id_eq]
  split
  · refine (narrows_refl advance).bind fun _ => (members_narrows narrows).bind fun slots => ?_
    exact narrows_ofOption (narrows.finish slots)
  · refine (narrows_refl advance).bind fun _ => (narrows.items false).bind fun b => ?_
    exact (narrows_refl (expect ']')).bind fun _ => narrows_pure _ rfl
  · exact narrows_malformed _

end Objects

end Fields

end CanvasAlbum.Json
