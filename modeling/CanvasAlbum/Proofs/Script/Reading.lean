import CanvasAlbum.Script.Reading

namespace CanvasAlbum.Script

def Faultless (line : String) : Prop := ∃ asked, readLine line = .ok asked

def asked? (line : String) : Option Operation :=
  match readLine line with
  | .ok asked => asked
  | .error _ => none

/-- The fault of the first line at fault, when the first line has the number `n`. -/
def FirstFault (n : Nat) (lines : List String) (fault : ScriptFault) : Prop :=
  ∃ earlier line later, lines = earlier ++ line :: later ∧ (∀ l ∈ earlier, Faultless l) ∧
    readLine line = .error fault.cause ∧ fault.line = n + earlier.length

theorem faultless_or_fault (line : String) :
    Faultless line ∨ ∃ cause, readLine line = .error cause := by
  cases answer : readLine line with
  | ok asked => exact Or.inl ⟨asked, answer⟩
  | error cause => exact Or.inr ⟨cause, rfl⟩

theorem not_faultless_iff {line : String} :
    ¬Faultless line ↔ ∃ cause, readLine line = .error cause := by
  constructor
  · exact (faultless_or_fault line).resolve_left
  · rintro ⟨cause, fault⟩ ⟨asked, read⟩
    rw [read] at fault
    contradiction

theorem readLinesFrom_cons_of_faultless (n : Nat) {line : String} (rest : List String)
    (faultless : Faultless line) :
    readLinesFrom n (line :: rest) =
      (readLinesFrom (n + 1) rest).map ((asked? line).toList ++ ·) := by
  obtain ⟨asked, read⟩ := faultless
  have asks : asked? line = asked := by simp only [asked?, read]
  rw [asks]
  cases asked with
  | none =>
      simp only [readLinesFrom, read]
      cases readLinesFrom (n + 1) rest <;> rfl
  | some operation =>
      simp only [readLinesFrom, read]
      rfl

theorem readLinesFrom_of_faultless (n : Nat) {lines : List String}
    (faultless : ∀ line ∈ lines, Faultless line) :
    readLinesFrom n lines = .ok (lines.filterMap asked?) := by
  induction lines generalizing n with
  | nil => rfl
  | cons line rest ih =>
      rw [readLinesFrom_cons_of_faultless n rest (faultless line List.mem_cons_self),
        ih (n + 1) fun l member => faultless l (List.mem_cons_of_mem line member),
        List.filterMap_cons]
      cases asked? line <;> rfl

theorem readLinesFrom_of_firstFault {n : Nat} {lines : List String} {fault : ScriptFault}
    (first : FirstFault n lines fault) : readLinesFrom n lines = .error fault := by
  obtain ⟨earlier, line, later, rfl, faultless, faulty, number⟩ := first
  induction earlier generalizing n with
  | nil =>
      simp only [List.nil_append, readLinesFrom, faulty]
      rw [show n = fault.line from number.symm]
  | cons l earlier ih =>
      rw [List.length_cons] at number
      rw [List.cons_append,
        readLinesFrom_cons_of_faultless n _ (faultless l List.mem_cons_self),
        ih (fun k member => faultless k (List.mem_cons_of_mem l member)) (by omega)]
      rfl

theorem faultless_or_firstFault (n : Nat) (lines : List String) :
    (∀ line ∈ lines, Faultless line) ∨ ∃ fault, FirstFault n lines fault := by
  induction lines generalizing n with
  | nil => simp
  | cons line rest ih =>
      rcases faultless_or_fault line with faultless | ⟨cause, faulty⟩
      · rcases ih (n + 1) with all | ⟨fault, earlier, l, later, rfl, before, faulty, number⟩
        · left
          exact List.forall_mem_cons.mpr ⟨faultless, all⟩
        · right
          refine ⟨fault, line :: earlier, l, later, rfl, ?_, faulty, ?_⟩
          · exact List.forall_mem_cons.mpr ⟨faultless, before⟩
          · rw [number, List.length_cons]
            omega
      · right
        exact ⟨⟨n, cause⟩, [], line, rest, rfl, by simp, faulty, rfl⟩

theorem readLinesFrom_eq_error_iff {n : Nat} {lines : List String} {fault : ScriptFault} :
    readLinesFrom n lines = .error fault ↔ FirstFault n lines fault := by
  refine ⟨fun failed => ?_, readLinesFrom_of_firstFault⟩
  rcases faultless_or_firstFault n lines with faultless | ⟨other, first⟩
  · rw [readLinesFrom_of_faultless n faultless] at failed
    contradiction
  · rw [readLinesFrom_of_firstFault first] at failed
    rwa [← Except.error.inj failed]

theorem readLines_eq_error_iff {lines : List String} {fault : ScriptFault} :
    readLines lines = .error fault ↔ FirstFault 1 lines fault :=
  readLinesFrom_eq_error_iff

theorem readLines_of_faultless {lines : List String}
    (faultless : ∀ line ∈ lines, Faultless line) :
    readLines lines = .ok (lines.filterMap asked?) :=
  readLinesFrom_of_faultless 1 faultless

theorem exists_firstFault_iff {lines : List String} :
    (∃ fault, FirstFault 1 lines fault) ↔
      ∃ line ∈ lines, ∃ cause, readLine line = .error cause := by
  constructor
  · rintro ⟨fault, earlier, line, later, rfl, -, faulty, -⟩
    exact ⟨line, by simp, fault.cause, faulty⟩
  · rintro ⟨line, member, faulty⟩
    rcases faultless_or_firstFault 1 lines with faultless | first
    · exact absurd (faultless line member) (not_faultless_iff.mpr faulty)
    · exact first

theorem readLinesFrom_eq_ok_iff {n : Nat} {lines : List String} {operations : List Operation} :
    readLinesFrom n lines = .ok operations ↔
      (∀ line ∈ lines, Faultless line) ∧ operations = lines.filterMap asked? := by
  constructor
  · intro done
    rcases faultless_or_firstFault n lines with faultless | ⟨fault, first⟩
    · rw [readLinesFrom_of_faultless n faultless] at done
      exact ⟨faultless, (Except.ok.inj done).symm⟩
    · rw [readLinesFrom_of_firstFault first] at done
      contradiction
  · rintro ⟨faultless, rfl⟩
    exact readLinesFrom_of_faultless n faultless

theorem read_eq_ok_iff {text : String} {operations : List Operation} :
    read text = .ok operations ↔
      (∀ line ∈ Text.lines text, Faultless line) ∧
        operations = (Text.lines text).filterMap asked? :=
  readLinesFrom_eq_ok_iff

end CanvasAlbum.Script
