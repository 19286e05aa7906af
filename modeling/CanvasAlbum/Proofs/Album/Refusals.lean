import CanvasAlbum.Proofs.Album.Performing

namespace CanvasAlbum.Album

def outcomes (sources : Sources) (a : Album) : List Operation → List (Except Refusal Unit)
  | [] => []
  | operation :: rest =>
      (a.perform sources operation).1 :: (a.perform sources operation).2.outcomes sources rest

def granted (sources : Sources) (a : Album) (operations : List Operation) : List Operation :=
  ((operations.zip (a.outcomes sources operations)).filter (·.2.isOk)).map (·.1)

theorem granted_cons_of_ok (sources : Sources) (a : Album) {operation : Operation}
    (rest : List Operation) (success : (a.perform sources operation).1 = .ok ()) :
    a.granted sources (operation :: rest) =
      operation :: (a.perform sources operation).2.granted sources rest := by
  simp [granted, outcomes, success, Except.isOk, Except.toBool]

theorem granted_cons_of_error (sources : Sources) (a : Album) {operation : Operation}
    (rest : List Operation) {cause : Refusal}
    (refused : (a.perform sources operation).1 = .error cause) :
    a.granted sources (operation :: rest) = a.granted sources rest := by
  have same := perform_of_error sources a refused
  simp [granted, outcomes, refused, same, Except.isOk, Except.toBool]

theorem outcomes_granted (sources : Sources) (a : Album) (operations : List Operation) :
    ∀ outcome ∈ a.outcomes sources (a.granted sources operations), outcome = .ok () := by
  induction operations generalizing a with
  | nil => simp [granted, outcomes]
  | cons operation rest ih =>
      cases answer : (a.perform sources operation).1 with
      | error cause =>
          rw [granted_cons_of_error sources a rest answer]
          exact ih a
      | ok success =>
          rw [granted_cons_of_ok sources a rest answer, outcomes, answer]
          simp only [List.mem_cons, forall_eq_or_imp, true_and]
          exact ih (a.perform sources operation).2

theorem after_granted (sources : Sources) (a : Album) (operations : List Operation) :
    a.after sources (a.granted sources operations) = a.after sources operations := by
  induction operations generalizing a with
  | nil => rfl
  | cons operation rest ih =>
      cases answer : (a.perform sources operation).1 with
      | error cause =>
          rw [granted_cons_of_error sources a rest answer, after_cons,
            perform_of_error sources a answer]
          exact ih a
      | ok success =>
          rw [granted_cons_of_ok sources a rest answer, after_cons, after_cons]
          exact ih (a.perform sources operation).2

theorem refusals_leave_no_trace (sources : Sources) (a : Album) :
    (∀ operation cause, (a.perform sources operation).1 = .error cause →
      (a.perform sources operation).2 = a) ∧
    ∀ operations,
      (∀ outcome ∈ a.outcomes sources (a.granted sources operations), outcome = .ok ()) ∧
      a.after sources (a.granted sources operations) = a.after sources operations :=
  ⟨fun _ _ refused => perform_of_error sources a refused,
    fun operations => ⟨outcomes_granted sources a operations, after_granted sources a operations⟩⟩

theorem refused_color_leaves_no_trace :
    let sources : Sources := ⟨fun _ => .epoch, fun _ => 3⟩
    let canvas : Canvas :=
      ⟨[⟨⟨"R", .rectangle, ⟨1, 2⟩, ⟨3, 4⟩, ⟨5, 6, 7⟩⟩, by decide⟩], by decide⟩
    let a := (Album.mk canvas .empty).after sources [.snapshot "first"]
    (a.perform sources (.recolor "R" ⟨0, 256, 0⟩)).1 =
        .error (.channelsOutOfRange ⟨0, 256, 0⟩) ∧
      (a.perform sources (.recolor "R" ⟨0, 256, 0⟩)).2 = a := by
  intro sources canvas a
  have refused : (a.perform sources (.recolor "R" ⟨0, 256, 0⟩)).1 =
      .error (.channelsOutOfRange ⟨0, 256, 0⟩) := by
    have drawn : a.canvas = canvas := after_canvas sources _ _
    simp only [perform, drawn]
    rfl
  exact ⟨refused, (refusals_leave_no_trace sources a).1 _ _ refused⟩

end CanvasAlbum.Album
