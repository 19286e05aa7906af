import CanvasAlbum.Proofs.Album.Batches
import CanvasAlbum.Proofs.Drawing.Obeying
import CanvasAlbum.Proofs.Script.Wording

namespace CanvasAlbum

namespace Operation

def subject? : Operation → Option String
  | move name _ => some name
  | resize name _ => some name
  | recolor name _ => some name
  | remove name => some name
  | create _ => none
  | snapshot _ => none

def CreatesNameless (operation : Operation) : Prop :=
  ∃ blueprint, operation = create blueprint ∧ blueprint.name = ""

theorem Worded.not_nameless {operation : Operation} (worded : operation.Worded) :
    ¬operation.CreatesNameless := by
  rintro ⟨b, rfl, unnamed⟩
  exact (worded.target rfl).1 unnamed

end Operation

namespace Canvas

inductive Denies (c : Canvas) : Operation → Refusal → Prop where
  | nameTaken {blueprint : Blueprint} (taken : blueprint.name ∈ c.names) :
      Denies c (.create blueprint) (.nameTaken blueprint.name)
  | noSuchShape {operation : Operation} {name : String} (subject : operation.subject? = some name)
      (missing : name ∉ c.names) : Denies c operation (.noSuchShape name)
  | channelsOutOfRange {name : String} {color : Color} (there : name ∈ c.names)
      (outside : ¬color.Displayable) :
      Denies c (.recolor name color) (.channelsOutOfRange color)
  | nothingToCapture {description : String} (blank : c.shapes = []) :
      Denies c (.snapshot description) .nothingToCapture

/-! ## Drawing -/

theorem ne_empty_of_mem_names {c : Canvas} {name : String} (member : name ∈ c.names) :
    name ≠ "" := by
  obtain ⟨s, -, rfl⟩ := List.mem_map.mp member
  exact s.name_ne_empty

theorem carryOut_of_nameless (c : Canvas) {operation : Operation}
    (nameless : operation.CreatesNameless) : c.carryOut operation = .error .noName := by
  obtain ⟨b, rfl, unnamed⟩ := nameless
  simp [carryOut, Shape.ofBlueprint, unnamed, bind, Except.bind]

theorem carryOut_of_missing {c : Canvas} {operation : Operation} {name : String}
    (subject : operation.subject? = some name) (missing : name ∉ c.names) :
    c.carryOut operation = .error (.noSuchShape name) := by
  have absent : c.contains name = false := contains_eq_false_iff.mpr missing
  have nothing : c.shape? name = none := by simpa [contains] using absent
  cases operation with
  | create b => cases subject
  | snapshot description => cases subject
  | remove other =>
      obtain rfl := Option.some.inj subject
      simp [carryOut, remove, nothing, Except.map]
  | _ =>
      obtain rfl := Option.some.inj subject
      simp [carryOut, move, resize, recolor, absent]

theorem carryOut_of_denies {c : Canvas} {operation : Operation} {cause : Refusal}
    (denies : c.Denies operation cause) (drawing : operation.captures = false) :
    c.carryOut operation = .error cause := by
  cases denies with
  | nameTaken taken =>
      have named := ne_empty_of_mem_names taken
      simp [carryOut, Shape.ofBlueprint, named, add, taken, bind, Except.bind]
  | noSuchShape subject missing => exact carryOut_of_missing subject missing
  | @channelsOutOfRange name color there outside =>
      have present : c.contains name = true := contains_iff.mpr there
      have outOfRange : color.inRange = false := by
        rwa [← Bool.not_eq_true, color.inRange_iff]
      simp [carryOut, recolor, present, outOfRange]
  | nothingToCapture blank => cases drawing

theorem carryOut_of_allowed {c : Canvas} {operation : Operation}
    (named : ¬operation.CreatesNameless) (allowed : ∀ cause, ¬c.Denies operation cause) :
    ∃ next, c.carryOut operation = .ok next := by
  have there {name : String} (subject : operation.subject? = some name) :
      c.contains name = true := by
    rw [contains_iff]
    by_contra missing
    exact allowed _ (.noSuchShape subject missing)
  cases operation with
  | create b =>
      have named : b.name ≠ "" := fun unnamed => named ⟨b, rfl, unnamed⟩
      have new : b.name ∉ c.names := fun taken => allowed _ (.nameTaken taken)
      simp [carryOut, Shape.ofBlueprint, named, add, new, bind, Except.bind]
  | move name position => simp [carryOut, move, there rfl]
  | resize name extent => simp [carryOut, resize, there rfl]
  | recolor name color =>
      have inRange : color.inRange = true := by
        rw [color.inRange_iff]
        by_contra outside
        exact allowed _ (.channelsOutOfRange (contains_iff.mp (there rfl)) outside)
      simp [carryOut, recolor, there rfl, inRange]
  | remove name =>
      obtain ⟨s, found⟩ := Option.isSome_iff_exists.mp (there rfl)
      simp [carryOut, remove, found, Except.map]
  | snapshot description => exact ⟨c, rfl⟩

end Canvas

namespace Album

/-! ## One operation -/

theorem perform_of_denies (sources : Sources) {a : Album} {operation : Operation}
    {cause : Refusal} (denies : a.canvas.Denies operation cause) :
    a.perform sources operation = (.error cause, a) := by
  cases captures : operation.captures with
  | false =>
      rw [perform_drawing sources a captures, Canvas.carryOut_of_denies denies captures, settle]
  | true =>
      cases operation <;> try contradiction
      cases denies with
      | noSuchShape subject missing => cases subject
      | nothingToCapture blank => simp [perform_snapshot, Canvas.isEmpty, blank]

theorem perform_of_allowed (sources : Sources) {a : Album} {operation : Operation}
    (named : ¬operation.CreatesNameless) (allowed : ∀ cause, ¬a.canvas.Denies operation cause) :
    (a.perform sources operation).1 = .ok () := by
  cases captures : operation.captures with
  | false =>
      obtain ⟨next, drawn⟩ := Canvas.carryOut_of_allowed named allowed
      rw [perform_drawing sources a captures, drawn, settle]
  | true =>
      cases operation <;> try contradiction
      have nonempty : a.canvas.shapes ≠ [] := fun blank => allowed _ (.nothingToCapture blank)
      simp [perform_snapshot, Canvas.isEmpty, nonempty]

theorem perform_eq_error_iff {sources : Sources} {a : Album} {operation : Operation}
    {cause : Refusal} :
    (a.perform sources operation).1 = .error cause ↔
      a.canvas.Denies operation cause ∨ operation.CreatesNameless ∧ cause = .noName := by
  constructor
  · intro refused
    by_cases nameless : operation.CreatesNameless
    · right
      have answer := a.canvas.carryOut_of_nameless nameless
      obtain ⟨b, rfl, -⟩ := id nameless
      rw [perform_drawing sources a rfl, answer, settle] at refused
      exact ⟨nameless, (Except.error.inj refused).symm⟩
    · left
      by_cases denied : ∃ other, a.canvas.Denies operation other
      · obtain ⟨other, denies⟩ := denied
        rw [perform_of_denies sources denies] at refused
        rwa [← Except.error.inj refused]
      · rw [perform_of_allowed sources nameless (not_exists.mp denied)] at refused
        contradiction
  · rintro (denies | ⟨nameless, rfl⟩)
    · rw [perform_of_denies sources denies]
    · have answer := a.canvas.carryOut_of_nameless nameless
      obtain ⟨b, rfl, -⟩ := nameless
      rw [perform_drawing sources a rfl, answer, settle]

theorem perform_eq_error_iff_of_worded {sources : Sources} {a : Album} {operation : Operation}
    (worded : operation.Worded) {cause : Refusal} :
    (a.perform sources operation).1 = .error cause ↔ a.canvas.Denies operation cause := by
  rw [perform_eq_error_iff]
  exact or_iff_left fun nameless => worded.not_nameless nameless.1

/-! ## Scripts -/

theorem performScript_eq_operation_iff {sources : Sources} {a : Album} {text : String}
    {index : Nat} {action : Action} {cause : Refusal} :
    (a.performScript sources text).1 = .error (.operation index action cause) ↔
      ∃ operations operation, Script.read text = .ok operations ∧
        operations[index]? = some operation ∧ operation.action = action ∧
        a.Grants sources (operations.take index) ∧
        (a.after sources (operations.take index)).canvas.Denies operation cause := by
  constructor
  · intro failed
    cases read : Script.read text with
    | error fault =>
        rw [performScript_of_not_read sources a read] at failed
        cases failed
    | ok operations =>
        rw [performScript_of_read sources a read] at failed
        obtain ⟨_, operation, _, ⟨here, granted, refused⟩, same, -⟩ :=
          performAll_eq_error_iff.mp (Prod.ext failed rfl)
        cases same
        have worded := Script.read_worded read operation (List.mem_of_getElem? here)
        exact ⟨operations, operation, rfl, here, rfl, granted,
          (perform_eq_error_iff_of_worded worded).mp refused⟩
  · rintro ⟨operations, operation, read, here, rfl, granted, denies⟩
    have first : a.FirstRefusal sources operations index operation cause :=
      ⟨here, granted, by rw [perform_of_denies sources denies]⟩
    rw [performScript_of_read sources a read, performAll_of_firstRefusal first]

theorem cause_of_script_fault {sources : Sources} {a : Album} {text : String} {fault : ScriptFault}
    (failed : (a.performScript sources text).1 = .error (.script fault)) :
    ∃ action problem, fault.cause = .faultyLine action problem := by
  obtain ⟨⟨_, line, _, -, -, faulty, -⟩, -⟩ :=
    performScript_eq_script_iff.mp (Prod.ext failed rfl)
  obtain ⟨action, problem, -, -, named⟩ := Script.readLine_eq_error_iff.mp faulty
  exact ⟨action, problem, named⟩

theorem scripts_fail_for_four_causes (sources : Sources) (a : Album) :
    (∀ operation cause, a.canvas.Denies operation cause →
      a.perform sources operation = (.error cause, a)) ∧
    ∀ text,
      (∀ fault, (a.performScript sources text).1 = .error (.script fault) →
        ∃ action problem, fault.cause = .faultyLine action problem) ∧
      (∀ index action cause,
        (a.performScript sources text).1 = .error (.operation index action cause) ↔
          ∃ operations operation, Script.read text = .ok operations ∧
            operations[index]? = some operation ∧ operation.action = action ∧
            a.Grants sources (operations.take index) ∧
            (a.after sources (operations.take index)).canvas.Denies operation cause) ∧
      ∀ index action cause,
        (a.performScript sources text).1 = .error (.operation index action cause) →
          cause ≠ .noName ∧ (∀ name, cause ≠ .unknownKind name) ∧ (∀ id, cause ≠ .idTaken id) ∧
            ∀ action problem, cause ≠ .faultyLine action problem := by
  refine ⟨fun _ _ => perform_of_denies sources, fun text => ⟨fun _ => cause_of_script_fault,
    fun _ _ _ => performScript_eq_operation_iff, ?_⟩⟩
  intro index action cause failed
  obtain ⟨_, _, -, -, -, -, denies⟩ := performScript_eq_operation_iff.mp failed
  cases denies <;> simp

theorem hidden_color_fails_a_script :
    let sources : Sources := ⟨fun _ => .epoch, fun _ => 3⟩
    let canvas : Canvas :=
      ⟨[⟨⟨"R", .rectangle, ⟨1, 2⟩, ⟨3, 4⟩, ⟨5, 6, 7⟩⟩, by decide⟩], by decide⟩
    let a : Album := ⟨canvas, .empty⟩
    let hidden : Refusal := .channelsOutOfRange ⟨0, 256, 0⟩
    a.perform sources (.recolor "R" ⟨0, 256, 0⟩) = (.error hidden, a) ∧
      (a.performScript sources "move R 7 7\ncolor R 0 256 0\nremove S").1 =
        .error (.operation 1 .recolor hidden) ∧
      hidden ≠ .noName ∧
      ∃ fault, (a.performScript sources "move R 7 7\nremove").1 = .error (.script fault) ∧
        ∃ action problem, fault.cause = .faultyLine action problem := by
  intro sources canvas a hidden
  obtain ⟨denied, scripts⟩ := scripts_fail_for_four_causes sources a
  have outside : ¬(Color.mk 0 256 0).Displayable := by decide
  have here : a.canvas.Denies (.recolor "R" ⟨0, 256, 0⟩) hidden :=
    .channelsOutOfRange (by decide) outside
  have moved : (a.after sources [.move "R" ⟨7, 7⟩]).canvas.Denies (.recolor "R" ⟨0, 256, 0⟩)
      hidden := .channelsOutOfRange (by rw [after_canvas]; decide) outside
  have failed := ((scripts "move R 7 7\ncolor R 0 256 0\nremove S").2.1 1 .recolor hidden).mpr
    ⟨[.move "R" ⟨7, 7⟩, .recolor "R" ⟨0, 256, 0⟩, .remove "S"], _, by rfl, rfl, rfl,
      grants_cons.mpr ⟨rfl, grants_nil _ _⟩, moved⟩
  have unread : (a.performScript sources "move R 7 7\nremove").1 =
      .error (.script ⟨2, .faultyLine .remove (.tokenCount 2 1)⟩) := by rfl
  exact ⟨denied _ _ here, failed, ((scripts _).2.2 _ _ _ failed).1, _, unread,
    (scripts _).1 _ unread⟩

end Album

end CanvasAlbum
