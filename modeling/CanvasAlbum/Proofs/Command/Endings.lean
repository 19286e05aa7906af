import CanvasAlbum.Command.Run
import CanvasAlbum.Proofs.Command.FileTree

/-!
# How a run of the command ends

A run on a file tree either finds something wrong with its settings or its script, or knows the
snapshots that it has to show. Only then does it look at what stands where they go.

* `save_of_taken`, `save_of_free`: what becomes of an output file.
* `run_of_ready`, `run_of_not_ready`: what a run comes to in either case.
* `only_the_output_changes`: no run changes a file that it was not told to write, and what it
  writes is the album in full.
-/

namespace CanvasAlbum.Command
open Text

variable {t u : FileTree} {arguments : Arguments} {config : Config} {taken : List Snapshot}

/-! ## Parts of a run on a file tree -/

def outcome {α : Type} (part : ExceptT Failure (StateM FileTree) α) (t : FileTree) :
    Except Failure α × FileTree :=
  part.run.run t

section Outcome
variable {α β : Type}

theorem outcome_pure (a : α) (t : FileTree) : outcome (pure a) t = (.ok a, t) := rfl

theorem outcome_throw (failure : Failure) (t : FileTree) :
    outcome (throw failure : ExceptT Failure (StateM FileTree) α) t = (.error failure, t) := rfl

theorem outcome_lift (part : StateM FileTree α) (t : FileTree) :
    outcome (liftM part) t = (.ok (part.run t).1, (part.run t).2) := rfl

theorem outcome_source (a : α) (t : FileTree) :
    outcome (liftM (pure a : StateM FileTree α)) t = (.ok a, t) := rfl

theorem outcome_except (result : Except Failure α) (t : FileTree) :
    outcome (liftM result) t = (result, t) := by
  cases result <;> rfl

theorem outcome_bind (first : ExceptT Failure (StateM FileTree) α)
    (next : α → ExceptT Failure (StateM FileTree) β) (t : FileTree) :
    outcome (first >>= next) t =
      match outcome first t with
      | (.ok a, u) => outcome (next a) u
      | (.error failure, u) => (.error failure, u) := by
  simp only [outcome, ExceptT.run_bind, StateT.run_bind]
  rcases first.run.run t with ⟨_ | a, u⟩ <;> rfl

theorem outcome_read (p : Path) (t : FileTree) :
    outcome (liftM (Storage.read p : StateM FileTree Reading)) t = (.ok (t.read p), t) := rfl

theorem outcome_holds (p : Path) (t : FileTree) :
    outcome (liftM (Storage.holds p : StateM FileTree Bool)) t =
      (.ok (t.lookup p).isSome, t) := rfl

theorem outcome_makeDirectory (p : Path) (t : FileTree) :
    outcome (liftM (Storage.makeDirectory p : StateM FileTree Bool)) t =
      (.ok (t.makeDirectory p).1, (t.makeDirectory p).2) := rfl

theorem outcome_write (p : Path) (text : String) (t : FileTree) :
    outcome (liftM (Storage.write p text : StateM FileTree Bool)) t =
      match t.writeBytes p text.toUTF8 with
      | some written => (.ok true, written)
      | none => (.ok false, t) := by
  have ran : (Storage.write p text : StateM FileTree Bool).run t =
      match t.writeBytes p text.toUTF8 with
      | some written => (true, written)
      | none => (false, t) := rfl
  rw [outcome_lift, ran]
  cases t.writeBytes p text.toUTF8 <;> rfl

end Outcome

/-! ## The settings and the script -/

def Configured (t : FileTree) (path : Path) (config : Config) : Prop :=
  t.read path = .missing ∧ config = .standard ∨
  ∃ text, t.read path = .text text ∧ Config.ofText? text = some config

/-- The script can be read and runs to its end on an empty album, which leaves these snapshots. -/
def Takes (sources : Nat → Sources) (t : FileTree) (path : Path) (taken : List Snapshot) : Prop :=
  ∃ script count album, t.read path = .text script ∧
    Album.empty.performScript (sources (lines script).length) script = (.ok count, album) ∧
    album.snapshots = taken

/-- Everything before the output goes well. The web page needs a file to go to. -/
structure Ready (sources : Nat → Sources) (defaultConfig : Path) (arguments : Arguments)
    (t : FileTree) (config : Config) (taken : List Snapshot) : Prop where
  configured : Configured t (arguments.config.getD defaultConfig) config
  placed : arguments.format = .web → arguments.output ≠ none
  takes : Takes sources t arguments.script taken

theorem takes_of_finished {sources : Nat → Sources} {path : Path} {script : String}
    (readable : t.read path = .text script)
    (finished : (Album.empty.performScript (sources (lines script).length) script).1.isOk = true) :
    Takes sources t path
      (Album.empty.performScript (sources (lines script).length) script).2.snapshots := by
  cases result : Album.empty.performScript (sources (lines script).length) script with
  | mk answer album =>
      cases answer with
      | ok count => exact ⟨script, count, album, readable, result, rfl⟩
      | error cause => simp [result, Except.isOk, Except.toBool] at finished

theorem loadConfig_of_configured {path : Path} (configured : Configured t path config) :
    outcome (loadConfig path) t = (.ok config, t) := by
  simp only [loadConfig, outcome_bind, outcome_read]
  rcases configured with ⟨missing, rfl⟩ | ⟨text, found, valid⟩
  · simp only [missing, outcome_pure]
  · simp only [found, valid, outcome_pure]

theorem loadConfig_of_not_configured {path : Path} (invalid : ∀ c, ¬ Configured t path c) :
    ∃ failure, outcome (loadConfig path) t = (.error failure, t) := by
  simp only [loadConfig, outcome_bind, outcome_read]
  cases found : t.read path with
  | missing => exact absurd (Or.inl ⟨found, rfl⟩) (invalid _)
  | unreadable => exact ⟨_, outcome_throw _ t⟩
  | text content =>
      cases parsed : Config.ofText? content with
      | some c => exact absurd (Or.inr ⟨content, found, parsed⟩) (invalid c)
      | none => exact ⟨.configInvalid path, by simp only [parsed, outcome_throw]⟩

theorem readScript_of_text {path : Path} {script : String} (found : t.read path = .text script) :
    outcome (readScript path) t = (.ok script, t) := by
  simp only [readScript, outcome_bind, outcome_read, found, outcome_pure]

theorem readScript_of_no_text {path : Path} (lacking : ∀ script, t.read path ≠ .text script) :
    ∃ failure, outcome (readScript path) t = (.error failure, t) := by
  simp only [readScript, outcome_bind, outcome_read]
  cases found : t.read path with
  | text script => exact absurd found (lacking script)
  | missing => exact ⟨_, outcome_throw _ t⟩
  | unreadable => exact ⟨_, outcome_throw _ t⟩

/-! ## The output file -/

theorem save_of_taken {path : Path} (taken : t.lookup path ≠ none) (content : String) :
    outcome (save path content false) t = (.error (.outputExists path), t) := by
  have holds : (t.lookup path).isSome = true := Option.isSome_iff_ne_none.2 taken
  unfold save
  simp only [outcome_bind, outcome_holds, holds]
  rfl

section Save
variable {path : Path} {overwrite : Bool}

theorem save_of_free (free : t.lookup path = none ∨ overwrite = true) (content : String) :
    (∃ u, t.prepared? path = some u ∧ outcome (save path content overwrite) t =
      match u.writeBytes path content.toUTF8 with
      | some written => (.ok (), written)
      | none => (.error (.outputRefused path), u)) ∨
    t.prepared? path = none ∧ ∃ directory, outcome (save path content overwrite) t =
      (.error (.directoryRefused directory), (t.makeDirectory directory).2) := by
  have allowed : ¬ ((t.lookup path).isSome && !overwrite) = true := by
    rcases free with nothing | overwrites
    · simp [nothing]
    · simp [overwrites]
  -- What is left once the directories are there.
  have last (u : FileTree) :
      outcome (do
        unless ← (Storage.write path content : StateM FileTree Bool) do
          throw (.outputRefused path)) u =
      match u.writeBytes path content.toUTF8 with
      | some written => (.ok (), written)
      | none => (.error (.outputRefused path), u) := by
    simp only [outcome_bind, outcome_write]
    cases u.writeBytes path content.toUTF8 <;> rfl
  unfold save FileTree.prepared?
  simp only [outcome_bind, outcome_holds, if_neg allowed]
  cases path.parent? with
  | none => exact Or.inl ⟨t, rfl, last t⟩
  | some directory =>
      simp only [outcome_bind, outcome_makeDirectory]
      cases made : (t.makeDirectory directory).1 with
      | true => exact Or.inl ⟨_, rfl, last _⟩
      | false => exact Or.inr ⟨rfl, directory, rfl⟩

theorem save_receives (free : t.lookup path = none ∨ overwrite = true) (content : String)
    (receives : t.Receives path) :
    ∃ u, outcome (save path content overwrite) t = (.ok (), u) ∧ t.Wrote u path content := by
  obtain ⟨u, l, prepared, found, place⟩ := receives
  have written := FileTree.writeBytes_eq_some.2
    ⟨l, found, place, (rfl : u.put l (.file content.toUTF8) = _)⟩
  rcases save_of_free free content with ⟨v, prepared', saved⟩ | ⟨refused, _⟩
  · obtain rfl : u = v := Option.some.inj (prepared.symm.trans prepared')
    rw [written] at saved
    exact ⟨_, saved, (FileTree.prepared?_grows prepared).wrote (FileTree.writeBytes_wrote written)⟩
  · simp [prepared] at refused

theorem save_refuses (free : t.lookup path = none ∨ overwrite = true) (content : String)
    (refuses : ¬ t.Receives path) :
    ∃ failure u, outcome (save path content overwrite) t = (.error failure, u) ∧
      t.SameFiles u := by
  rcases save_of_free free content with ⟨u, prepared, saved⟩ | ⟨_, directory, saved⟩
  · cases written : u.writeBytes path content.toUTF8 with
    | none =>
        rw [written] at saved
        exact ⟨_, u, saved, (FileTree.prepared?_grows prepared).sameFiles⟩
    | some v =>
        obtain ⟨l, found, place, _⟩ := FileTree.writeBytes_eq_some.1 written
        exact absurd ⟨u, l, prepared, found, place⟩ refuses
  · exact ⟨_, _, saved, (FileTree.makeDirectory_grows t directory).sameFiles⟩

end Save

/-! ## The run -/

section Run
variable {sources : Nat → Sources} {defaultConfig : Path}

abbrev runOn (sources : Nat → Sources) (defaultConfig : Path) (arguments : Arguments) :
    ExceptT Failure (StateM FileTree) String :=
  run (fun readings => pure (sources readings)) defaultConfig arguments

def shown (arguments : Arguments) (config : Config) (taken : List Snapshot) : String :=
  arguments.format.render
    ⟨config.title, config.heading, arguments.width.getD config.canvasWidth,
      arguments.height.getD config.canvasHeight⟩ taken

/-- Nothing stands where the output goes, or it may be replaced. A path that does not lead
anywhere yet counts as free, also when the directories that are made for it let it lead to a
file. -/
def Replaceable (arguments : Arguments) (t : FileTree) (path : Path) (config : Config) : Prop :=
  t.lookup path = none ∨ arguments.force = true ∨ config.overwrite = true

theorem run_of_not_ready
    (unready : ∀ config taken, ¬ Ready sources defaultConfig arguments t config taken) :
    ∃ failure, outcome (runOn sources defaultConfig arguments) t = (.error failure, t) := by
  unfold runOn run
  simp only [outcome_bind]
  -- The first of settings, place and script that is not as it should be ends the run.
  by_cases configured : ∃ c, Configured t (arguments.config.getD defaultConfig) c
  · obtain ⟨config, configured⟩ := configured
    simp only [loadConfig_of_configured configured]
    split
    · exact ⟨_, outcome_throw _ t⟩
    · rename_i placed
      simp only [outcome_bind]
      by_cases readable : ∃ script, t.read arguments.script = .text script
      · obtain ⟨script, readable⟩ := readable
        simp only [readScript_of_text readable, outcome_source, outcome_except]
        cases performed : Album.empty.performScript (sources (lines script).length) script with
        | mk result album =>
            cases result with
            | ok count =>
                refine absurd ⟨configured, ?_, script, count, album, readable, performed, rfl⟩
                  (unready config album.snapshots)
                exact fun web nowhere => placed ⟨web, nowhere⟩
            | error cause =>
                refine ⟨.scriptFailed arguments.script cause, ?_⟩
                simp only [snapshots, performed]
      · obtain ⟨failure, refused⟩ :=
          readScript_of_no_text fun script found => readable ⟨script, found⟩
        exact ⟨failure, by simp only [refused]⟩
  · obtain ⟨failure, refused⟩ :=
      loadConfig_of_not_configured fun c found => configured ⟨c, found⟩
    exact ⟨failure, by simp only [refused]⟩

theorem free_of_replaceable {path : Path} (replaceable : Replaceable arguments t path config) :
    t.lookup path = none ∨ (config.overwrite || arguments.force) = true := by
  rcases replaceable with nothing | forced | allowed
  · exact Or.inl nothing
  · exact Or.inr (by simp [forced])
  · exact Or.inr (by simp [allowed])

section Ready
variable (ready : Ready sources defaultConfig arguments t config taken)
include ready

theorem run_of_ready :
    outcome (runOn sources defaultConfig arguments) t =
      if taken.isEmpty then (.ok emptyNotice, t)
      else
        match arguments.output with
        | none => (.ok (shown arguments config taken), t)
        | some path =>
          outcome (do
            save path (shown arguments config taken) (config.overwrite || arguments.force)
            return "") t := by
  obtain ⟨configured, placed, script, count, album, readable, finished, rfl⟩ := ready
  have needed : ¬ (arguments.format = .web ∧ arguments.output = none) :=
    fun ⟨web, nowhere⟩ => placed web nowhere
  have taken : snapshots (sources (lines script).length) arguments.script script =
      .ok album.snapshots := by
    simp only [snapshots, finished]
  unfold runOn run
  simp only [outcome_bind, loadConfig_of_configured configured, if_neg needed,
    readScript_of_text readable, outcome_source, outcome_except, taken]
  split
  · rfl
  · cases arguments.output with
    | none => rfl
    | some path => simp only [outcome_bind]; rfl

theorem run_of_empty (empty : taken = []) :
    outcome (runOn sources defaultConfig arguments) t = (.ok emptyNotice, t) := by
  rw [run_of_ready ready, empty]
  rfl

variable (nonempty : taken ≠ [])
include nonempty

theorem run_of_shown (nowhere : arguments.output = none) :
    outcome (runOn sources defaultConfig arguments) t =
      (.ok (shown arguments config taken), t) := by
  rw [run_of_ready ready, if_neg (by simpa using nonempty), nowhere]

variable {path : Path} (named : arguments.output = some path)
include named

theorem run_of_saved {result : Except Failure Unit}
    (saved : outcome (save path (shown arguments config taken)
      (config.overwrite || arguments.force)) t = (result, u)) :
    outcome (runOn sources defaultConfig arguments) t = (result.map fun _ => "", u) := by
  rw [run_of_ready ready, if_neg (by simpa using nonempty), named]
  simp only [outcome_bind, saved]
  cases result <;> rfl

theorem run_of_written (replaceable : Replaceable arguments t path config)
    (receives : t.Receives path) :
    ∃ u, outcome (runOn sources defaultConfig arguments) t = (.ok "", u) ∧
      t.Wrote u path (shown arguments config taken) := by
  obtain ⟨u, saved, wrote⟩ :=
    save_receives (free_of_replaceable replaceable) (shown arguments config taken) receives
  exact ⟨u, run_of_saved ready nonempty named saved, wrote⟩

theorem run_of_not_written
    (refuses : ¬ (Replaceable arguments t path config ∧ t.Receives path)) :
    ∃ failure u, outcome (runOn sources defaultConfig arguments) t = (.error failure, u) ∧
      t.SameFiles u := by
  by_cases replaceable : Replaceable arguments t path config
  · obtain ⟨failure, u, saved, same⟩ := save_refuses (free_of_replaceable replaceable)
      (shown arguments config taken) fun receives => refuses ⟨replaceable, receives⟩
    exact ⟨failure, u, run_of_saved ready nonempty named saved, same⟩
  · have kept : (config.overwrite || arguments.force) = false := by
      simp only [Replaceable, not_or, Bool.not_eq_true] at replaceable
      simp [replaceable]
    have saved := save_of_taken (fun nothing => replaceable (Or.inl nothing))
      (shown arguments config taken)
    rw [← kept] at saved
    exact ⟨_, t, run_of_saved ready nonempty named saved, .refl t⟩

end Ready

theorem run_cases (sources : Nat → Sources) (defaultConfig : Path) (arguments : Arguments)
    (t : FileTree) :
    (∃ failure u, outcome (runOn sources defaultConfig arguments) t = (.error failure, u) ∧
      t.SameFiles u) ∨
    (∃ output, outcome (runOn sources defaultConfig arguments) t = (.ok output, t)) ∨
    ∃ path config taken u, outcome (runOn sources defaultConfig arguments) t = (.ok "", u) ∧
      arguments.output = some path ∧ Ready sources defaultConfig arguments t config taken ∧
      taken ≠ [] ∧ Replaceable arguments t path config ∧
      t.Wrote u path (shown arguments config taken) := by
  by_cases ready : ∃ config taken, Ready sources defaultConfig arguments t config taken
  · obtain ⟨config, taken, ready⟩ := ready
    by_cases empty : taken = []
    · exact Or.inr (Or.inl ⟨_, run_of_empty ready empty⟩)
    cases named : arguments.output with
    | none => exact Or.inr (Or.inl ⟨_, run_of_shown ready empty named⟩)
    | some path =>
        by_cases writes : Replaceable arguments t path config ∧ t.Receives path
        · obtain ⟨u, ran, wrote⟩ := run_of_written ready empty named writes.1 writes.2
          exact Or.inr (Or.inr ⟨path, config, taken, u, ran, rfl, ready, empty, writes.1, wrote⟩)
        · exact Or.inl (run_of_not_written ready empty named writes)
  · obtain ⟨failure, ran⟩ :=
      run_of_not_ready fun config taken found => ready ⟨config, taken, found⟩
    exact Or.inl ⟨failure, t, ran, .refl t⟩

/-! ## The report -/

def reportOn (sources : Nat → Sources) (defaultConfig : Path) (texts : List String)
    (t : FileTree) : Report × FileTree :=
  (report (fun readings => (pure (sources readings) : StateM FileTree Sources)) defaultConfig
    texts).run t

theorem reportOn_eq {texts : List String} (asked : Request.ofTexts texts = .ok (.run arguments))
    (t : FileTree) :
    reportOn sources defaultConfig texts t =
      match outcome (runOn sources defaultConfig arguments) t with
      | (.ok output, u) => (.printed output, u)
      | (.error failure, u) => (.failed failure, u) := by
  unfold reportOn report outcome
  simp only [asked, StateT.run_bind]
  rcases (runOn sources defaultConfig arguments).run.run t with ⟨_ | output, u⟩ <;> rfl

theorem exitCode_failed (failure : Failure) : (Report.failed failure).exitCode ≠ 0 := by
  simp [Report.exitCode]

theorem only_the_output_changes (sources : Nat → Sources) (defaultConfig : Path)
    (texts : List String) (arguments : Arguments)
    (asked : Request.ofTexts texts = .ok (.run arguments)) (t : FileTree) :
    let ending := (reportOn sources defaultConfig texts t).1
    let after := (reportOn sources defaultConfig texts t).2
    -- Either no file changes, or the one that is named and is free to change.
    (t.SameFiles after ∨
      ∃ path config taken, arguments.output = some path ∧
        Ready sources defaultConfig arguments t config taken ∧ taken ≠ [] ∧
        Replaceable arguments t path config ∧
        t.Wrote after path (shown arguments config taken) ∧
        ending.exitCode = 0 ∧ ending.output = "") ∧
    (∀ config taken, Ready sources defaultConfig arguments t config taken →
      (taken = [] → ending.exitCode = 0 ∧ ending.output = emptyNotice ∧ after = t) ∧
      (taken ≠ [] → arguments.output = none →
        ending.exitCode = 0 ∧ ending.output = shown arguments config taken ∧ after = t) ∧
      (taken ≠ [] → ∀ path, arguments.output = some path →
        (Replaceable arguments t path config ∧ t.Receives path →
          ending.exitCode = 0 ∧ ending.output = "" ∧
            t.Wrote after path (shown arguments config taken)) ∧
        (¬ (Replaceable arguments t path config ∧ t.Receives path) →
          ending.exitCode ≠ 0 ∧ t.SameFiles after))) ∧
    ((∀ config taken, ¬ Ready sources defaultConfig arguments t config taken) →
      ending.exitCode ≠ 0 ∧ after = t) ∧
    (ending.exitCode ≠ 0 → ending.output = "" ∧ t.SameFiles after) := by
  rw [reportOn_eq asked]
  refine ⟨?_, ?_, ?_, ?_⟩
  · rcases run_cases sources defaultConfig arguments t with
      ⟨failure, u, ran, same⟩ | ⟨output, ran⟩ |
      ⟨path, config, taken, u, ran, named, ready, nonempty, replaceable, wrote⟩
    · rw [ran]
      exact Or.inl same
    · rw [ran]
      exact Or.inl (.refl t)
    · rw [ran]
      exact Or.inr ⟨path, config, taken, named, ready, nonempty, replaceable, wrote, rfl, rfl⟩
  · intro config taken ready
    refine ⟨?_, ?_, ?_⟩
    · intro empty
      rw [run_of_empty ready empty]
      exact ⟨rfl, rfl, rfl⟩
    · intro nonempty nowhere
      rw [run_of_shown ready nonempty nowhere]
      exact ⟨rfl, rfl, rfl⟩
    · intro nonempty path named
      constructor
      · rintro ⟨replaceable, receives⟩
        obtain ⟨u, ran, wrote⟩ := run_of_written ready nonempty named replaceable receives
        rw [ran]
        exact ⟨rfl, rfl, wrote⟩
      · intro refuses
        obtain ⟨failure, u, ran, same⟩ := run_of_not_written ready nonempty named refuses
        rw [ran]
        exact ⟨exitCode_failed failure, same⟩
  · intro unready
    obtain ⟨failure, ran⟩ := run_of_not_ready unready
    rw [ran]
    exact ⟨exitCode_failed failure, rfl⟩
  · intro failed
    rcases run_cases sources defaultConfig arguments t with
      ⟨failure, u, ran, same⟩ | ⟨output, ran⟩ | ⟨path, config, taken, u, ran, _⟩
    · rw [ran]
      exact ⟨rfl, same⟩
    · rw [ran] at failed
      exact absurd rfl failed
    · rw [ran] at failed
      exact absurd rfl failed

end Run

/-- A file that stands where the output goes is replaced on demand, whether an argument or the
configuration asks for it. -/
theorem forced_output_is_replaced :
    let texts := ["-i", "s", "-v", "json", "-o", "a.json", "--force"]
    let arguments : Arguments :=
      ⟨⟨"s"⟩, .json, some ⟨"a.json"⟩, none, true, false, none, none⟩
    let sources : Sources := ⟨fun _ => .epoch, fun _ => 3⟩
    let script := "shape R rectangle 1 2 3 4 5 6 7\nsnapshot one\n"
    let t := ((FileTree.blank ["home"]).put ["home", "s"] (.file script.toUTF8)).put
      ["home", "a.json"] (.file "old".toUTF8)
    let taken := (Album.empty.performScript sources script).2.snapshots
    let ran := reportOn (fun _ => sources) ⟨"config.json"⟩ texts t
    let settings := "\x7b\"title\":\"Holiday\",\"overwrite\":true\x7d"
    let configured : Config := { Config.standard with title := "Holiday", overwrite := true }
    let unforced := ["-i", "s", "-v", "web", "-o", "a.html"]
    let arguments' : Arguments := ⟨⟨"s"⟩, .web, some ⟨"a.html"⟩, none, false, false, none, none⟩
    let t' := (t.put ["home", "a.html"] (.file "old".toUTF8)).put
      ["home", "config.json"] (.file settings.toUTF8)
    let ran' := reportOn (fun _ => sources) ⟨"config.json"⟩ unforced t'
    (Request.ofTexts texts = .ok (.run arguments) ∧
      t.lookup ⟨"a.json"⟩ ≠ none ∧ taken ≠ [] ∧ ran.1.exitCode = 0 ∧ ran.1.output = "" ∧
      t.Wrote ran.2 ⟨"a.json"⟩ (shown arguments .standard taken)) ∧
    Request.ofTexts unforced = .ok (.run arguments') ∧
      Config.ofText? settings = some configured ∧ t'.lookup ⟨"a.html"⟩ ≠ none ∧
      ran'.1.exitCode = 0 ∧ ran'.1.output = "" ∧
      t'.Wrote ran'.2 ⟨"a.html"⟩ (shown arguments' configured taken) := by
  intro texts arguments sources script t taken ran settings configured unforced arguments' t' ran'
  have asked : Request.ofTexts texts = .ok (.run arguments) := rfl
  have asked' : Request.ofTexts unforced = .ok (.run arguments') := rfl
  have valid : Config.ofText? settings = some configured := by decide +kernel
  have nonempty : taken ≠ [] := by
    have some : taken.isEmpty = false := by decide +kernel
    simpa using some
  have finished : (Album.empty.performScript sources script).1.isOk = true := by decide +kernel
  have absent : t.read ⟨"config.json"⟩ = .missing := rfl
  have readable : t.read ⟨"s"⟩ = .text script := FileTree.read_of_lookup rfl
  have present : t'.read ⟨"config.json"⟩ = .text settings := FileTree.read_of_lookup rfl
  have readable' : t'.read ⟨"s"⟩ = .text script := FileTree.read_of_lookup rfl
  have ready : Ready (fun _ => sources) ⟨"config.json"⟩ arguments t .standard taken :=
    ⟨Or.inl ⟨absent, rfl⟩, fun web => absurd web (by decide), takes_of_finished readable finished⟩
  have ready' : Ready (fun _ => sources) ⟨"config.json"⟩ arguments' t' configured taken :=
    ⟨Or.inr ⟨settings, present, valid⟩, fun _ => by simp [arguments'],
      takes_of_finished readable' finished⟩
  have standing : t.lookup ⟨"a.json"⟩ ≠ none := by
    have found : t.lookup ⟨"a.json"⟩ = some (.file "old".toUTF8) := rfl
    simp [found]
  have standing' : t'.lookup ⟨"a.html"⟩ ≠ none := by
    have found : t'.lookup ⟨"a.html"⟩ = some (.file "old".toUTF8) := rfl
    simp [found]
  have receives : t.Receives ⟨"a.json"⟩ :=
    FileTree.receives_of_locate? (l := ["home", "a.json"]) rfl rfl
  have receives' : t'.Receives ⟨"a.html"⟩ :=
    FileTree.receives_of_locate? (l := ["home", "a.html"]) rfl rfl
  obtain ⟨-, whenReady, -⟩ :=
    only_the_output_changes (fun _ => sources) ⟨"config.json"⟩ texts arguments asked t
  obtain ⟨-, whenReady', -⟩ :=
    only_the_output_changes (fun _ => sources) ⟨"config.json"⟩ unforced arguments' asked' t'
  obtain ⟨-, -, written⟩ := whenReady .standard taken ready
  obtain ⟨-, -, written'⟩ := whenReady' configured taken ready'
  exact ⟨⟨asked, standing, nonempty, (written nonempty _ rfl).1 ⟨Or.inr (Or.inl rfl), receives⟩⟩,
    asked', valid, standing', (written' nonempty _ rfl).1 ⟨Or.inr (Or.inr rfl), receives'⟩⟩

end CanvasAlbum.Command
