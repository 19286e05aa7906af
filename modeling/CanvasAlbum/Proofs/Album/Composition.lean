import CanvasAlbum.Proofs.Album.Batches
import CanvasAlbum.Proofs.Script.Pieces

namespace CanvasAlbum

/-- A fault as it is reported when `done` more operations come before it. -/
def RunFault.behind (done : Nat) : RunFault → RunFault
  | script fault => script fault
  | operation index action cause => operation (done + index) action cause

namespace Album

theorem performFrom_append (sources : Sources) (a : Album) (done : Nat)
    (first second : List Operation) :
    a.performFrom sources done (first ++ second) =
      match a.performFrom sources done first with
      | (.ok count, next) => next.performFrom sources count second
      | (.error fault, next) => (.error fault, next) := by
  induction first generalizing a done with
  | nil => rfl
  | cons operation rest ih =>
      rw [List.cons_append]
      cases answer : (a.perform sources operation).1 with
      | ok success =>
          rw [performFrom_cons_of_ok done _ answer, performFrom_cons_of_ok done _ answer, ih]
      | error cause =>
          rw [performFrom_cons_of_error done _ answer, performFrom_cons_of_error done _ answer]

theorem performFrom_eq (sources : Sources) (a : Album) (done : Nat)
    (operations : List Operation) :
    a.performFrom sources done operations =
      (((a.performAll sources operations).1.map (done + ·)).mapError (·.behind done),
        (a.performAll sources operations).2) := by
  rcases grants_or_firstRefusal sources a operations with grants | ⟨index, operation, cause, first⟩
  · rw [performFrom_of_grants done grants, performAll_of_grants grants]
    rfl
  · rw [performFrom_of_firstRefusal done first, performAll_of_firstRefusal first]
    rfl

theorem performAll_append (sources : Sources) (a : Album) (first second : List Operation) :
    a.performAll sources (first ++ second) =
      match a.performAll sources first with
      | (.ok count, next) =>
          (((next.performAll sources second).1.map (count + ·)).mapError (·.behind first.length),
            (next.performAll sources second).2)
      | (.error fault, next) => (.error fault, next) := by
  rw [performAll, performFrom_append, ← performAll]
  rcases grants_or_firstRefusal sources a first with grants | ⟨index, operation, cause, refusal⟩
  · rw [performAll_of_grants grants]
    exact performFrom_eq sources _ _ _
  · rw [performAll_of_firstRefusal refusal]

theorem performScript_not_read_iff {sources : Sources} {a : Album} {text : String} :
    (∃ fault, a.performScript sources text = (.error (.script fault), a)) ↔
      ∃ fault, Script.read text = .error fault := by
  constructor
  · rintro ⟨fault, failed⟩
    exact ⟨fault, Script.readLines_eq_error_iff.mpr (performScript_eq_script_iff.mp failed).1⟩
  · rintro ⟨fault, unread⟩
    exact ⟨fault, performScript_of_not_read sources a unread⟩

theorem scripts_compose (sources : Sources) (album : Album) (a b : String) :
    (∀ first second, Script.read a = .ok first → Script.read b = .ok second →
      album.performScript sources (a ++ "\n" ++ b) =
        match album.performScript sources a with
        | (.ok count, next) =>
            (((next.performScript sources b).1.map (count + ·)).mapError (·.behind first.length),
              (next.performScript sources b).2)
        | (.error fault, next) => (.error fault, next)) ∧
    ((∃ fault, album.performScript sources (a ++ "\n" ++ b) = (.error (.script fault), album)) ↔
      (∃ fault, Script.read a = .error fault) ∨ ∃ fault, Script.read b = .error fault) := by
  constructor
  · intro first second readFirst readSecond
    have joined : Script.read (a ++ "\n" ++ b) = .ok (first ++ second) := by
      rw [Script.read_join, readFirst, readSecond]
      rfl
    rw [performScript_of_read sources album joined, performScript_of_read sources album readFirst,
      performAll_append]
    simp only [performScript_of_read sources _ readSecond]
  · rw [performScript_not_read_iff, Script.read_join_fails_iff]

/-- The first script ends in a carriage return without a newline, and the second one fails. -/
theorem returned_script_composes :
    let sources : Sources := ⟨fun _ => .epoch, fun _ => 3⟩
    let a := "shape R oval 0 0 1 1 0 0 0\r"
    let b := "snapshot one\nmove S 7 7"
    Script.read a = .ok [.create ⟨"R", .oval, ⟨0, 0⟩, ⟨1, 1⟩, ⟨0, 0, 0⟩⟩] ∧
      Script.read b = .ok [.snapshot "one", .move "S" ⟨7, 7⟩] ∧
      empty.performScript sources (a ++ "\n" ++ b) =
        match empty.performScript sources a with
        | (.ok count, next) =>
            (((next.performScript sources b).1.map (count + ·)).mapError (·.behind 1),
              (next.performScript sources b).2)
        | (.error fault, next) => (.error fault, next) := by
  intro sources a b
  have readFirst : Script.read "shape R oval 0 0 1 1 0 0 0\r" =
      .ok [.create ⟨"R", .oval, ⟨0, 0⟩, ⟨1, 1⟩, ⟨0, 0, 0⟩⟩] := by rfl
  have readSecond : Script.read "snapshot one\nmove S 7 7" =
      .ok [.snapshot "one", .move "S" ⟨7, 7⟩] := by rfl
  exact ⟨readFirst, readSecond, (scripts_compose sources empty a b).1 _ _ readFirst readSecond⟩

end Album

end CanvasAlbum
