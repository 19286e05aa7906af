import CanvasAlbum.Proofs.Album.Refusals
import CanvasAlbum.Proofs.Script.Reading

namespace CanvasAlbum.Album
open Text

def Grants (sources : Sources) (a : Album) (operations : List Operation) : Prop :=
  ∀ outcome ∈ a.outcomes sources operations, outcome = .ok ()

theorem grants_nil (sources : Sources) (a : Album) : a.Grants sources [] := by
  simp [Grants, outcomes]

theorem grants_cons {sources : Sources} {a : Album} {operation : Operation}
    {rest : List Operation} :
    a.Grants sources (operation :: rest) ↔
      (a.perform sources operation).1 = .ok () ∧
        (a.perform sources operation).2.Grants sources rest := by
  simp [Grants, outcomes]

/-- The operation with the given index is refused, and none before it is. -/
def FirstRefusal (sources : Sources) (a : Album) (operations : List Operation) (index : Nat)
    (operation : Operation) (cause : Refusal) : Prop :=
  operations[index]? = some operation ∧ a.Grants sources (operations.take index) ∧
    ((a.after sources (operations.take index)).perform sources operation).1 = .error cause

theorem firstRefusal_zero {sources : Sources} {a : Album} {operation : Operation}
    {rest : List Operation} {cause : Refusal}
    (refused : (a.perform sources operation).1 = .error cause) :
    a.FirstRefusal sources (operation :: rest) 0 operation cause :=
  ⟨rfl, grants_nil sources a, refused⟩

theorem firstRefusal_succ {sources : Sources} {a : Album} {operation refused : Operation}
    {rest : List Operation} {index : Nat} {cause : Refusal}
    (success : (a.perform sources operation).1 = .ok ()) :
    a.FirstRefusal sources (operation :: rest) (index + 1) refused cause ↔
      (a.perform sources operation).2.FirstRefusal sources rest index refused cause := by
  simp only [FirstRefusal, List.getElem?_cons_succ, List.take_succ_cons, grants_cons, success,
    true_and, after_cons]

/-! ## Batches -/

theorem performFrom_cons_of_ok {sources : Sources} {a : Album} {operation : Operation} (done : Nat)
    (rest : List Operation) (success : (a.perform sources operation).1 = .ok ()) :
    a.performFrom sources done (operation :: rest) =
      (a.perform sources operation).2.performFrom sources (done + 1) rest := by
  rw [performFrom]
  cases result : a.perform sources operation with
  | mk answer next =>
      rw [result] at success
      simp only at success
      subst success
      rfl

theorem performFrom_cons_of_error {sources : Sources} {a : Album} {operation : Operation}
    (done : Nat) (rest : List Operation) {cause : Refusal}
    (refused : (a.perform sources operation).1 = .error cause) :
    a.performFrom sources done (operation :: rest) =
      (.error (.operation done operation.action cause), a) := by
  have same := perform_of_error sources a refused
  rw [performFrom]
  cases result : a.perform sources operation with
  | mk answer next =>
      rw [result] at refused same
      simp only at refused same
      subst refused same
      rfl

theorem performFrom_of_grants {sources : Sources} {a : Album} (done : Nat)
    {operations : List Operation} (grants : a.Grants sources operations) :
    a.performFrom sources done operations =
      (.ok (done + operations.length), a.after sources operations) := by
  induction operations generalizing a done with
  | nil => rfl
  | cons operation rest ih =>
      obtain ⟨success, later⟩ := grants_cons.mp grants
      rw [performFrom_cons_of_ok done rest success, ih (done + 1) later, after_cons,
        List.length_cons]
      congr 2
      omega

theorem performFrom_of_firstRefusal {sources : Sources} {a : Album} (done : Nat)
    {operations : List Operation} {index : Nat} {operation : Operation} {cause : Refusal}
    (first : a.FirstRefusal sources operations index operation cause) :
    a.performFrom sources done operations =
      (.error (.operation (done + index) operation.action cause),
        a.after sources (operations.take index)) := by
  induction operations generalizing a done index with
  | nil =>
      obtain ⟨member, -, -⟩ := first
      simp at member
  | cons head rest ih =>
      cases index with
      | zero =>
          obtain ⟨here, -, refused⟩ := first
          obtain rfl : head = operation := Option.some.inj here
          exact performFrom_cons_of_error done rest refused
      | succ index =>
          have success := (grants_cons.mp first.2.1).1
          rw [performFrom_cons_of_ok done rest success,
            ih (done + 1) ((firstRefusal_succ success).mp first), List.take_succ_cons, after_cons]
          congr 3
          omega

theorem grants_or_firstRefusal (sources : Sources) (a : Album) (operations : List Operation) :
    a.Grants sources operations ∨
      ∃ index operation cause, a.FirstRefusal sources operations index operation cause := by
  induction operations generalizing a with
  | nil => exact Or.inl (grants_nil sources a)
  | cons operation rest ih =>
      cases answer : (a.perform sources operation).1 with
      | error cause => exact Or.inr ⟨0, operation, cause, firstRefusal_zero answer⟩
      | ok success =>
          rcases ih (a.perform sources operation).2 with later | ⟨index, refused, cause, first⟩
          · exact Or.inl (grants_cons.mpr ⟨answer, later⟩)
          · exact Or.inr ⟨index + 1, refused, cause, (firstRefusal_succ answer).mpr first⟩

theorem performAll_of_grants {sources : Sources} {a : Album} {operations : List Operation}
    (grants : a.Grants sources operations) :
    a.performAll sources operations = (.ok operations.length, a.after sources operations) := by
  rw [performAll, performFrom_of_grants 0 grants, Nat.zero_add]

theorem performAll_of_firstRefusal {sources : Sources} {a : Album} {operations : List Operation}
    {index : Nat} {operation : Operation} {cause : Refusal}
    (first : a.FirstRefusal sources operations index operation cause) :
    a.performAll sources operations =
      (.error (.operation index operation.action cause),
        a.after sources (operations.take index)) := by
  rw [performAll, performFrom_of_firstRefusal 0 first, Nat.zero_add]

theorem performAll_eq_ok_iff {sources : Sources} {a next : Album} {operations : List Operation}
    {count : Nat} :
    a.performAll sources operations = (.ok count, next) ↔
      a.Grants sources operations ∧ count = operations.length ∧
        next = a.after sources operations := by
  constructor
  · intro succeeded
    rcases grants_or_firstRefusal sources a operations with grants | ⟨_, _, _, first⟩
    · rw [performAll_of_grants grants] at succeeded
      cases succeeded
      exact ⟨grants, rfl, rfl⟩
    · rw [performAll_of_firstRefusal first] at succeeded
      cases succeeded
  · rintro ⟨grants, rfl, rfl⟩
    exact performAll_of_grants grants

theorem performAll_eq_error_iff {sources : Sources} {a next : Album}
    {operations : List Operation} {fault : RunFault} :
    a.performAll sources operations = (.error fault, next) ↔
      ∃ index operation cause, a.FirstRefusal sources operations index operation cause ∧
        fault = .operation index operation.action cause ∧
        next = a.after sources (operations.take index) := by
  constructor
  · intro failed
    rcases grants_or_firstRefusal sources a operations with grants | ⟨index, operation, cause, first⟩
    · rw [performAll_of_grants grants] at failed
      cases failed
    · rw [performAll_of_firstRefusal first] at failed
      cases failed
      exact ⟨index, operation, cause, first, rfl, rfl⟩
  · rintro ⟨index, operation, cause, first, rfl, rfl⟩
    exact performAll_of_firstRefusal first

/-! ## Scripts -/

theorem performScript_of_read (sources : Sources) (a : Album) {text : String}
    {operations : List Operation} (read : Script.read text = .ok operations) :
    a.performScript sources text = a.performAll sources operations := by
  simp only [performScript, read]

theorem performScript_of_not_read (sources : Sources) (a : Album) {text : String}
    {fault : ScriptFault} (unread : Script.read text = .error fault) :
    a.performScript sources text = (.error (.script fault), a) := by
  simp only [performScript, unread]

theorem performScript_of_firstFault (sources : Sources) (a : Album) {text : String}
    {fault : ScriptFault} (first : Script.FirstFault 1 (lines text) fault) :
    a.performScript sources text = (.error (.script fault), a) :=
  performScript_of_not_read sources a (Script.readLines_eq_error_iff.mpr first)

theorem performScript_of_faultless (sources : Sources) (a : Album) {text : String}
    (faultless : ∀ line ∈ lines text, Script.Faultless line) :
    a.performScript sources text =
      a.performAll sources ((lines text).filterMap Script.asked?) :=
  performScript_of_read sources a (Script.readLines_of_faultless faultless)

theorem performScript_eq_script_iff {sources : Sources} {a next : Album} {text : String}
    {fault : ScriptFault} :
    a.performScript sources text = (.error (.script fault), next) ↔
      Script.FirstFault 1 (lines text) fault ∧ next = a := by
  constructor
  · intro failed
    rcases Script.faultless_or_firstFault 1 (lines text) with faultless | ⟨other, first⟩
    · rw [performScript_of_faultless sources a faultless, performAll_eq_error_iff] at failed
      obtain ⟨_, _, _, -, different, -⟩ := failed
      cases different
    · rw [performScript_of_firstFault sources a first] at failed
      cases failed
      exact ⟨first, rfl⟩
  · rintro ⟨first, rfl⟩
    exact performScript_of_firstFault sources next first

theorem performScript_fails_to_read_iff {sources : Sources} {a : Album} {text : String} :
    (∃ fault, (a.performScript sources text).1 = .error (.script fault)) ↔
      ∃ line ∈ lines text, ∃ cause, Script.readLine line = .error cause := by
  rw [← Script.exists_firstFault_iff]
  constructor
  · rintro ⟨fault, failed⟩
    exact ⟨fault, (performScript_eq_script_iff.mp (Prod.ext failed rfl)).1⟩
  · rintro ⟨fault, first⟩
    exact ⟨fault, congrArg Prod.fst (performScript_of_firstFault sources a first)⟩

theorem batches_keep_their_beginning (sources : Sources) (a : Album) :
    (∀ operations,
      (∀ count next, a.performAll sources operations = (.ok count, next) ↔
        a.Grants sources operations ∧ count = operations.length ∧
          next = a.after sources operations) ∧
      ∀ fault next, a.performAll sources operations = (.error fault, next) ↔
        ∃ index operation cause, a.FirstRefusal sources operations index operation cause ∧
          fault = .operation index operation.action cause ∧
          next = a.after sources (operations.take index)) ∧
    ∀ text,
      (∀ fault next, a.performScript sources text = (.error (.script fault), next) ↔
        Script.FirstFault 1 (lines text) fault ∧ next = a) ∧
      ((∃ fault, (a.performScript sources text).1 = .error (.script fault)) ↔
        ∃ line ∈ lines text, ∃ cause, Script.readLine line = .error cause) ∧
      ((∀ line ∈ lines text, Script.Faultless line) →
        a.performScript sources text =
          a.performAll sources ((lines text).filterMap Script.asked?)) := by
  constructor
  · intro operations
    exact ⟨fun _ _ => performAll_eq_ok_iff, fun _ _ => performAll_eq_error_iff⟩
  · intro text
    exact ⟨fun _ _ => performScript_eq_script_iff, performScript_fails_to_read_iff,
      performScript_of_faultless sources a⟩

end CanvasAlbum.Album
