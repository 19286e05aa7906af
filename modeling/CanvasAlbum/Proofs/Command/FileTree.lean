import CanvasAlbum.Command.Storage

namespace CanvasAlbum.Path

theorem divide_append (cs : List Char) : (divide cs).1 ++ (divide cs).2 = cs := by
  unfold divide
  split <;> rfl

theorem divide_cases (cs : List Char) :
    (divide cs).1 = ['/'] ∨ (divide cs).1 = [] ∨
    (divide cs).1 = ['.'] ∧ ((divide cs).2 = [] ∨ ∃ rest, (divide cs).2 = '/' :: rest) := by
  unfold divide
  split <;> simp

theorem trim_suffix (steps : List (List Char)) : ∃ dropped, dropped ++ trim steps = steps :=
  ⟨_, List.takeWhile_append_dropWhile⟩

theorem intercalate_append_of_ne_nil {sep : List Char} {before after : List (List Char)}
    (filled : before ≠ []) (more : after ≠ []) :
    sep.intercalate (before ++ after) =
      sep.intercalate before ++ (sep ++ sep.intercalate after) := by
  induction before with
  | nil => contradiction
  | cons first rest ih =>
      cases rest with
      | nil => simp [List.intercalate_cons_of_ne_nil more]
      | cons second rest =>
          simp only [List.cons_append, List.intercalate_cons_cons, List.append_assoc] at ih ⊢
          rw [ih (by simp)]

theorem parent?_eq_some {p directory : Path} (held : p.parent? = some directory) :
    ∃ rest, directory.text.toList ≠ [] ∧ p.text.toList = directory.text.toList ++ '/' :: rest ∨
      directory.text.toList = ['/'] ∧ p.text.toList = '/' :: rest := by
  unfold parent? at held
  simp only at held
  have whole := divide_append p.text.toList
  have shape := divide_cases p.text.toList
  generalize (divide p.text.toList).1 = front at held whole shape
  generalize (divide p.text.toList).2 = tail at held whole shape
  have joined : ['/'].intercalate (tail.splitOn '/') = tail := List.intercalate_splitOn '/'
  obtain ⟨dropped, rejoined⟩ := trim_suffix (tail.splitOn '/').reverse
  cases steps : trim (tail.splitOn '/').reverse with
  | nil => simp [steps] at held
  | cons last before =>
      obtain ⟨blank, parted⟩ := trim_suffix before
      rw [steps, ← parted] at rejoined
      simp only [steps, Option.ite_none_left_eq_some, Option.some.injEq] at held
      obtain ⟨nonempty, rfl⟩ := held
      have segments : tail.splitOn '/' =
          (trim before).reverse ++ (blank.reverse ++ last :: dropped.reverse) := by
        rw [← List.reverse_reverse (tail.splitOn '/'), ← rejoined]
        simp
      rw [segments] at joined
      rw [String.toList_ofList]
      by_cases top : trim before = []
      · simp only [top, List.reverse_nil, List.intercalate_nil, List.append_nil] at nonempty ⊢
        rcases shape with rfl | rfl | ⟨rfl, rfl | ⟨rest, rfl⟩⟩
        · exact ⟨tail, Or.inr ⟨rfl, whole.symm⟩⟩
        · contradiction
        · simp [trim] at steps
        · exact ⟨rest, Or.inl ⟨nonempty, whole.symm⟩⟩
      · refine ⟨['/'].intercalate (blank.reverse ++ last :: dropped.reverse), Or.inl ⟨nonempty, ?_⟩⟩
        rw [← whole, ← joined, intercalate_append_of_ne_nil (by simpa using top) (by simp)]
        simp

theorem steps_eq {p directory : Path} {rest : List Char}
    (longer : p.text.toList = directory.text.toList ++ '/' :: rest) :
    p.steps = directory.steps ++ (rest.splitOn '/').map String.ofList := by
  rw [steps, longer, List.splitOn_append_cons_self, List.map_append]
  rfl

end CanvasAlbum.Path

namespace CanvasAlbum.FileTree

def content? (t : FileTree) (l : Location) : Option ByteArray :=
  match t.node? l with
  | some (.file content) => some content
  | _ => none

def SameFiles (t u : FileTree) : Prop := ∀ l, u.content? l = t.content? l

/-- The file that a path names holds a text, and every other file holds what it held. A path that
led somewhere before names the same file still. -/
def Wrote (t u : FileTree) (p : Path) (text : String) : Prop :=
  u.read p = .text text ∧
  ∃ l, u.locate? p = some l ∧ (∀ before, t.locate? p = some before → before = l) ∧
    u.content? l = some text.toUTF8 ∧ ∀ other, other ≠ l → u.content? other = t.content? other

structure Grows (t u : FileTree) : Prop where
  workingDirectory : u.workingDirectory = t.workingDirectory
  nodes : ∀ l, u.node? l = t.node? l ∨ t.node? l = none ∧ u.node? l = some .directory

variable {t u v : FileTree}

theorem SameFiles.refl (t : FileTree) : t.SameFiles t := fun _ => rfl

theorem isDirectory_eq_true {l : Location} :
    t.isDirectory l = true ↔ t.node? l = some .directory := by
  unfold isDirectory
  split <;> simp_all

theorem node?_put_self (t : FileTree) {l : Location} (below : l ≠ []) (node : Node) :
    (t.put l node).node? l = some node := by
  simp [node?, put, below]

theorem node?_put_of_ne (t : FileTree) {l other : Location} (ne : other ≠ l) (node : Node) :
    (t.put l node).node? other = t.node? other := by
  have differs : (other == l) = false := beq_false_of_ne ne
  simp [node?, put, List.lookup_cons, differs]

theorem ne_root_of_not_directory {l : Location} (refused : t.isDirectory l = false) : l ≠ [] := by
  rintro rfl
  simp [isDirectory, node?] at refused

/-! ## Growing -/

namespace Grows

theorem refl (t : FileTree) : t.Grows t := ⟨rfl, fun _ => Or.inl rfl⟩

theorem trans (first : t.Grows u) (second : u.Grows v) : t.Grows v where
  workingDirectory := second.workingDirectory.trans first.workingDirectory
  nodes := by
    intro l
    rcases second.nodes l with kept | ⟨nothing, made⟩
    · rw [kept]
      exact first.nodes l
    · rcases first.nodes l with before | ⟨_, before⟩
      · exact Or.inr ⟨before ▸ nothing, made⟩
      · simp [before] at nothing

theorem put_directory {l : Location} (nothing : t.node? l = none) :
    t.Grows (t.put l .directory) where
  workingDirectory := rfl
  nodes := by
    intro other
    by_cases same : other = l
    · subst same
      have below : other ≠ [] := by
        rintro rfl
        simp [node?] at nothing
      exact Or.inr ⟨nothing, node?_put_self t below .directory⟩
    · exact Or.inl (node?_put_of_ne t same .directory)

theorem sameFiles (grows : t.Grows u) : t.SameFiles u := by
  intro l
  rcases grows.nodes l with kept | ⟨nothing, made⟩
  · simp only [content?, kept]
  · simp only [content?, nothing, made]

theorem isDirectory (grows : t.Grows u) {l : Location} (directory : t.isDirectory l = true) :
    u.isDirectory l = true := by
  rw [isDirectory_eq_true] at directory ⊢
  rcases grows.nodes l with kept | ⟨nothing, _⟩
  · rw [kept, directory]
  · simp [nothing] at directory

theorem walk (grows : t.Grows u) {here there : Location} {steps : List String}
    (arrives : t.walk here steps = some there) : u.walk here steps = some there := by
  induction steps generalizing here with
  | nil => exact arrives
  | cons name rest ih =>
      simp only [FileTree.walk, Option.ite_none_right_eq_some, Option.bind_eq_some_iff] at arrives ⊢
      obtain ⟨directory, next, stepped, arrives⟩ := arrives
      exact ⟨grows.isDirectory directory, next, stepped, ih arrives⟩

theorem locate? (grows : t.Grows u) {p : Path} {l : Location} (found : t.locate? p = some l) :
    u.locate? p = some l := by
  simp only [FileTree.locate?, Option.ite_none_right_eq_some] at found ⊢
  refine ⟨found.1, ?_⟩
  rw [base, grows.workingDirectory]
  exact grows.walk found.2

end Grows

theorem walkMaking_grows (t : FileTree) (here : Location) (steps : List String) :
    t.Grows (t.walkMaking here steps).2 := by
  induction steps generalizing t here with
  | nil => exact .refl t
  | cons name rest ih =>
      unfold walkMaking
      cases step? here name with
      | none => exact .refl t
      | some there =>
          cases found : t.node? there with
          | none =>
              simp only [found]
              exact (Grows.put_directory found).trans (ih _ there)
          | some node =>
              cases node with
              | directory =>
                  simp only [found]
                  exact ih t there
              | file content =>
                  simp only [found]
                  exact .refl t

theorem makeDirectory_grows (t : FileTree) (p : Path) : t.Grows (t.makeDirectory p).2 := by
  unfold makeDirectory
  split
  · exact walkMaking_grows t _ _
  · exact .refl t

/-! ## Ways that are there -/

theorem isDirectory_of_walk {here there : Location} {name : String} {rest : List String}
    (arrives : t.walk here (name :: rest) = some there) : t.isDirectory here = true := by
  unfold walk at arrives
  split at arrives
  · assumption
  · contradiction

theorem walkMaking_of_walk {here there : Location} {before after : List String} (more : after ≠ [])
    (arrives : t.walk here (before ++ after) = some there) :
    t.walkMaking here before = (true, t) := by
  induction before generalizing here with
  | nil => rfl
  | cons name rest ih =>
      simp only [List.cons_append, walk, Option.ite_none_right_eq_some,
        Option.bind_eq_some_iff] at arrives
      obtain ⟨_, next, stepped, arrives⟩ := arrives
      obtain ⟨step, remaining, split⟩ := List.exists_cons_of_ne_nil
        (List.append_ne_nil_of_right_ne_nil rest more)
      have directory : t.isDirectory next = true := isDirectory_of_walk (split ▸ arrives)
      rw [isDirectory_eq_true] at directory
      simp only [walkMaking, stepped, directory]
      exact ih arrives

theorem makeDirectory_of_locate? {p directory : Path} {l : Location}
    (held : p.parent? = some directory) (found : t.locate? p = some l) :
    t.makeDirectory directory = (true, t) := by
  simp only [locate?, Option.ite_none_right_eq_some] at found
  obtain ⟨⟨_, fitting⟩, arrives⟩ := found
  obtain ⟨rest, ⟨nonempty, longer⟩ | ⟨root, _⟩⟩ := Path.parent?_eq_some held
  · have shorter : fits directory = true := by
      have extended : p.text = directory.text ++ String.ofList ('/' :: rest) := by
        rw [← String.toList_inj, longer, String.toList_append, String.toList_ofList]
      simp only [fits, extended, String.utf8ByteSize_append, decide_eq_true_eq] at fitting ⊢
      omega
    have base : t.base p = t.base directory := by
      obtain ⟨c, cs, first⟩ := List.exists_cons_of_ne_nil nonempty
      simp only [FileTree.base, Path.isAbsolute, longer, first, List.cons_append, List.head?_cons]
    rw [Path.steps_eq longer, base] at arrives
    rw [makeDirectory, if_pos shorter]
    exact walkMaking_of_walk (by simp) arrives
  · have slash : directory = ⟨"/"⟩ := by
      rw [Path.mk.injEq, ← String.toList_inj, root]
      rfl
    rw [slash]
    rfl

/-! ## Writing -/

section Put
variable {l : Location} (content : ByteArray)

theorem isDirectory_put_file (free : t.isDirectory l = false) (other : Location) :
    (t.put l (.file content)).isDirectory other = t.isDirectory other := by
  by_cases same : other = l
  · subst same
    rw [free, isDirectory, node?_put_self t (ne_root_of_not_directory free)]
  · simp only [isDirectory, node?_put_of_ne t same]

theorem walk_put_file (free : t.isDirectory l = false) (here : Location) (steps : List String) :
    (t.put l (.file content)).walk here steps = t.walk here steps := by
  induction steps generalizing here with
  | nil => rfl
  | cons name rest ih => simp only [walk, isDirectory_put_file content free, ih]

theorem locate?_put_file (free : t.isDirectory l = false) (p : Path) :
    (t.put l (.file content)).locate? p = t.locate? p := by
  simp only [locate?, walk_put_file content free]
  rfl

end Put

theorem fromUTF8?_toUTF8 (text : String) : String.fromUTF8? text.toUTF8 = some text := by
  unfold String.fromUTF8?
  exact dif_pos text.isValidUTF8

theorem read_of_lookup {p : Path} {text : String}
    (found : t.lookup p = some (.file text.toUTF8)) : t.read p = .text text := by
  simp only [read, found, fromUTF8?_toUTF8]

def prepared? (t : FileTree) (p : Path) : Option FileTree :=
  match p.parent? with
  | none => some t
  | some directory =>
    if (t.makeDirectory directory).1 then some (t.makeDirectory directory).2 else none

def Receives (t : FileTree) (p : Path) : Prop :=
  ∃ u l, t.prepared? p = some u ∧ u.locate? p = some l ∧ u.isDirectory l = false

theorem prepared?_grows {p : Path} (prepared : t.prepared? p = some u) : t.Grows u := by
  unfold prepared? at prepared
  split at prepared
  · obtain rfl : t = u := by simpa using prepared
    exact .refl t
  · rename_i directory _
    obtain ⟨_, rfl⟩ : (t.makeDirectory directory).1 = true ∧ (t.makeDirectory directory).2 = u := by
      simpa using prepared
    exact makeDirectory_grows t directory

theorem receives_of_locate? {p : Path} {l : Location} (found : t.locate? p = some l)
    (free : t.isDirectory l = false) : t.Receives p := by
  refine ⟨t, l, ?_, found, free⟩
  unfold prepared?
  cases held : p.parent? with
  | none => rfl
  | some directory => simp only [makeDirectory_of_locate? held found, if_true]

theorem writeBytes_eq_some {p : Path} {content : ByteArray} :
    t.writeBytes p content = some u ↔
      ∃ l, t.locate? p = some l ∧ t.isDirectory l = false ∧ t.put l (.file content) = u := by
  unfold writeBytes
  cases t.locate? p with
  | none => simp
  | some l => cases t.isDirectory l <;> simp

theorem writeBytes_wrote {p : Path} {text : String}
    (written : t.writeBytes p text.toUTF8 = some u) : t.Wrote u p text := by
  obtain ⟨l, found, free, rfl⟩ := writeBytes_eq_some.1 written
  have located : (t.put l (.file text.toUTF8)).locate? p = some l := by
    rw [locate?_put_file _ free, found]
  have node : (t.put l (.file text.toUTF8)).node? l = some (.file text.toUTF8) :=
    node?_put_self t (ne_root_of_not_directory free) _
  refine ⟨?_, l, located, ?_, ?_, ?_⟩
  · simp only [read, lookup, located, Option.bind_some, node, fromUTF8?_toUTF8]
  · intro before led
    exact Option.some.inj (led.symm.trans found)
  · simp only [content?, node]
  · intro other ne
    simp only [content?, node?_put_of_ne t ne]

theorem Grows.wrote {p : Path} {text : String} (grows : t.Grows u) (wrote : u.Wrote v p text) :
    t.Wrote v p text := by
  obtain ⟨reads, l, located, leads, holds, others⟩ := wrote
  refine ⟨reads, l, located, ?_, holds, ?_⟩
  · intro before led
    exact leads before (grows.locate? led)
  · intro other ne
    rw [others other ne, grows.sameFiles]

end CanvasAlbum.FileTree
