import CanvasAlbum.Interchange
import CanvasAlbum.Proofs.Json.Narrowing

namespace CanvasAlbum
open Json Codec Fields

theorem Position.codec_lawful : Position.codec.Lawful :=
  map_lawful (Fields.codec_lawful <|
    required_lawful word32_lawful (by simp [required, nil]) <|
    required_lawful word32_lawful rfl nil_lawful) fun _ => rfl

theorem Extent.codec_lawful : Extent.codec.Lawful :=
  map_lawful (Fields.codec_lawful <|
    required_lawful word32_lawful (by simp [required, nil]) <|
    required_lawful word32_lawful rfl nil_lawful) fun _ => rfl

theorem Color.codec_lawful : Color.codec.Lawful :=
  map_lawful (Fields.codec_lawful <|
    required_lawful word32_lawful (by simp [required, nil]) <|
    required_lawful word32_lawful (by simp [required, nil]) <|
    required_lawful word32_lawful rfl nil_lawful) fun _ => rfl

theorem ShapeKind.codec_lawful : ShapeKind.codec.Lawful := by
  refine names_lawful fun kind => ?_
  cases kind <;> simp [ShapeKind.name]

theorem Blueprint.codec_lawful : Blueprint.codec.Lawful :=
  map_lawful (Fields.codec_lawful <|
    required_lawful text_lawful (by simp [required, nil]) <|
    required_lawful ShapeKind.codec_lawful (by simp [required, nil]) <|
    required_lawful Position.codec_lawful (by simp [required, nil]) <|
    required_lawful Extent.codec_lawful (by simp [required, nil]) <|
    required_lawful Color.codec_lawful rfl nil_lawful) fun _ => rfl

theorem Shape.ofBlueprint_toBlueprint (s : Shape) : Shape.ofBlueprint s.toBlueprint = .ok s :=
  dif_neg s.name_ne_empty

theorem Shape.toBlueprint_of_ofBlueprint {b : Blueprint} {s : Shape}
    (passed : Shape.ofBlueprint b = .ok s) : s.toBlueprint = b := by
  unfold Shape.ofBlueprint at passed
  split at passed
  · cases passed
  · cases passed
    rfl

theorem Shape.codec_lawful : Shape.codec.Lawful :=
  refine_lawful Blueprint.codec_lawful Shape.ofBlueprint_toBlueprint

theorem SnapshotId.codec_lawful : SnapshotId.codec.Lawful :=
  map_lawful text_lawful fun _ => rfl

theorem Snapshot.codec_lawful : Snapshot.codec.Lawful :=
  map_lawful (Fields.codec_lawful <|
    required_lawful SnapshotId.codec_lawful (by simp [required, nil]) <|
    required_lawful text_lawful (by simp [required, nil]) <|
    required_lawful text_lawful (by simp [required, nil]) <|
    required_lawful (list_lawful Shape.codec_lawful) rfl nil_lawful) fun _ => rfl

/-- A snapshot whose shapes may lack a name. -/
structure Sketch where
  id : SnapshotId
  timestamp : String
  description : String
  shapes : List Blueprint

def Sketch.codec : Codec Refusal Sketch :=
  (Fields.required "id" SnapshotId.codec <| .required "timestamp" .text <|
    .required "description" .text <| .required "shapes" (.list Blueprint.codec) .nil).codec.map
    (fun (id, timestamp, description, shapes, _) => ⟨id, timestamp, description, shapes⟩)
    (fun s => (s.id, s.timestamp, s.description, s.shapes, ()))

theorem Sketch.codec_lawful : Sketch.codec.Lawful :=
  map_lawful (Fields.codec_lawful <|
    required_lawful SnapshotId.codec_lawful (by simp [required, nil]) <|
    required_lawful text_lawful (by simp [required, nil]) <|
    required_lawful text_lawful (by simp [required, nil]) <|
    required_lawful (list_lawful Blueprint.codec_lawful) rfl nil_lawful) fun _ => rfl

def Snapshot.sketch (s : Snapshot) : Sketch :=
  ⟨s.id, s.timestamp, s.description, s.shapes.map (·.toBlueprint)⟩

theorem Shape.codec_narrows :
    Shape.codec.read.Narrows (fun s : Shape => s.toBlueprint) Blueprint.codec.read :=
  Reader.narrows_refine _ fun _ _ => Shape.toBlueprint_of_ofBlueprint

theorem Snapshot.codec_narrows : Snapshot.codec.read.Narrows Snapshot.sketch Sketch.codec.read := by
  have shapes : (Codec.list Shape.codec).read.Narrows (List.map fun s : Shape => s.toBlueprint)
      (Codec.list Blueprint.codec).read := Reader.array_narrows Shape.codec_narrows
  have fields := required_narrows "id" (Reader.narrows_refl SnapshotId.codec.read) <|
    required_narrows "timestamp" (Reader.narrows_refl Codec.text.read) <|
    required_narrows "description" (Reader.narrows_refl Codec.text.read) <|
    required_narrows "shapes" shapes nil_narrows
  exact (read_narrows fields).map fun _ => rfl

namespace Archive

theorem read_album (snapshots : List Snapshot) : read (album snapshots) = .ok snapshots :=
  (Codec.list_lawful Snapshot.codec_lawful).run_render Layout.pretty_blank snapshots

def sketchAlbum (sketches : List Sketch) : String :=
  ((Codec.list Sketch.codec).write sketches).render .pretty

def readSketches (text : String) : Except (Fault Refusal) (List Sketch) :=
  (Codec.list Sketch.codec).read.run text

theorem readSketches_sketchAlbum (sketches : List Sketch) :
    readSketches (sketchAlbum sketches) = .ok sketches :=
  (Codec.list_lawful Sketch.codec_lawful).run_render Layout.pretty_blank sketches

theorem readSketches_of_read {text : String} {snapshots : List Snapshot}
    (accepted : read text = .ok snapshots) :
    readSketches text = .ok (snapshots.map Snapshot.sketch) :=
  (Reader.array_narrows Snapshot.codec_narrows).run accepted

theorem sketch_shapes_named {snapshots : List Snapshot} :
    ∀ sketch ∈ snapshots.map Snapshot.sketch, ∀ b ∈ sketch.shapes, b.name ≠ "" := by
  intro sketch member b listed
  obtain ⟨snapshot, -, rfl⟩ := List.mem_map.mp member
  obtain ⟨shape, -, rfl⟩ := List.mem_map.mp listed
  exact shape.name_ne_empty

theorem read_ne_ok_of_nameless {text : String} {sketches : List Sketch}
    (written : readSketches text = .ok sketches)
    (nameless : ∃ sketch ∈ sketches, ∃ b ∈ sketch.shapes, b.name = "") (snapshots : List Snapshot) :
    read text ≠ .ok snapshots := by
  intro accepted
  rw [readSketches_of_read accepted] at written
  cases written
  obtain ⟨sketch, member, b, listed, empty⟩ := nameless
  exact sketch_shapes_named sketch member b listed empty

/-- Archives are read back. What is read as an archive has named shapes only, those that a reader
without the check finds in it, and it makes an archive that is read back in turn. -/
theorem archives_are_read_back :
    (∀ snapshots, read (album snapshots) = .ok snapshots) ∧
    (∀ text snapshots, read text = .ok snapshots →
      readSketches text = .ok (snapshots.map Snapshot.sketch) ∧
      (∀ snapshot ∈ snapshots, ∀ shape ∈ snapshot.shapes, shape.name ≠ "") ∧
      read (album snapshots) = .ok snapshots) ∧
    (∀ sketches, readSketches (sketchAlbum sketches) = .ok sketches) ∧
    ∀ text sketches, readSketches text = .ok sketches →
      (∃ sketch ∈ sketches, ∃ b ∈ sketch.shapes, b.name = "") →
      ∀ snapshots, read text ≠ .ok snapshots := by
  refine ⟨read_album, fun text snapshots accepted => ?_, readSketches_sketchAlbum,
    fun text sketches => read_ne_ok_of_nameless⟩
  exact ⟨readSketches_of_read accepted, fun _ _ shape _ => shape.name_ne_empty,
    read_album snapshots⟩

theorem nameless_shape_is_kept_out :
    let sketch : Sketch :=
      ⟨⟨"1"⟩, "noon", "\"quiet\"\n", [⟨"", .oval, ⟨0, -1⟩, ⟨-2147483648, 0⟩, ⟨300, 0, 0⟩⟩]⟩
    readSketches (sketchAlbum [sketch]) = .ok [sketch] ∧
      ∀ snapshots, read (sketchAlbum [sketch]) ≠ .ok snapshots := by
  intro sketch
  obtain ⟨-, -, written, refused⟩ := archives_are_read_back
  have nameless : ∃ s ∈ [sketch], ∃ b ∈ s.shapes, b.name = "" :=
    ⟨sketch, List.mem_singleton_self sketch, _, List.mem_singleton_self _, rfl⟩
  exact ⟨written [sketch], refused _ _ (written [sketch]) nameless⟩

end Archive

namespace Operation

theorem namedFields_lawful {α : Type} (field : String) {codec : Codec Refusal α}
    (lawful : codec.Lawful) (other : field ≠ "name") : (namedFields field codec).Lawful :=
  Fields.codec_lawful <|
    required_lawful text_lawful (by simp [required, nil, other.symm]) <|
    required_lawful lawful rfl nil_lawful

theorem nameFields_lawful : nameFields.Lawful :=
  Fields.codec_lawful <| required_lawful text_lawful rfl nil_lawful

theorem descriptionFields_lawful : descriptionFields.Lawful :=
  Fields.codec_lawful <| required_lawful text_lawful rfl nil_lawful

theorem codec_opens (operation : Operation) : (codec.write operation).Opens := by
  cases operation <;> simp only [codec, Writer.object_opens]

theorem codec_reads (operation : Operation) :
    Reads codec.read (codec.write operation) operation := by
  cases operation with
  | create blueprint =>
      have content := Blueprint.codec_lawful.reads blueprint
      exact Reader.tagged_written rfl (content.map _)
  | move name position =>
      have content := (namedFields_lawful "position" Position.codec_lawful (by decide)).reads
        (name, position, ())
      exact Reader.tagged_written rfl (content.map _)
  | resize name extent =>
      have content := (namedFields_lawful "extent" Extent.codec_lawful (by decide)).reads
        (name, extent, ())
      exact Reader.tagged_written rfl (content.map _)
  | recolor name color =>
      have content := (namedFields_lawful "color" Color.codec_lawful (by decide)).reads
        (name, color, ())
      exact Reader.tagged_written rfl (content.map _)
  | remove name =>
      have content := nameFields_lawful.reads (name, ())
      exact Reader.tagged_written rfl (content.map _)
  | snapshot description =>
      have content := descriptionFields_lawful.reads (description, ())
      exact Reader.tagged_written rfl (content.map _)

theorem codec_lawful : codec.Lawful := ⟨codec_opens, codec_reads⟩

def json (layout : Layout) (operation : Operation) : String :=
  (codec.write operation).render layout

def ofJson (text : String) : Except (Fault Refusal) Operation := codec.read.run text

theorem ofJson_json {layout : Layout} (blank : layout.Blank) (operation : Operation) :
    ofJson (operation.json layout) = .ok operation :=
  codec_lawful.run_render blank operation

theorem operations_are_read_back {layout : Layout} (blank : layout.Blank) :
    (∀ operation, ofJson (json layout operation) = .ok operation) ∧
    ∀ other : Layout, other.Blank → ∀ first second,
      json layout first = json other second → first = second := by
  refine ⟨ofJson_json blank, fun other blank' first second same => ?_⟩
  have read : ofJson (json layout first) = ofJson (json other second) := by rw [same]
  rw [ofJson_json blank, ofJson_json blank'] at read
  exact Except.ok.inj read

theorem nameless_creation_is_read_back :
    let nameless : Operation :=
      create ⟨"", .oval, ⟨-2147483648, 2147483647⟩, ⟨0, -1⟩, ⟨300, -1, 256⟩⟩
    let quoted : Operation := snapshot "\"\\\n\x00"
    (Layout.compact.Blank ∧ Layout.pretty.Blank) ∧
      ofJson (json .compact nameless) = .ok nameless ∧ ofJson (json .pretty quoted) = .ok quoted ∧
      json .compact nameless ≠ json .pretty quoted := by
  intro nameless quoted
  obtain ⟨compact, apart⟩ := operations_are_read_back Layout.compact_blank
  obtain ⟨pretty, -⟩ := operations_are_read_back Layout.pretty_blank
  refine ⟨⟨Layout.compact_blank, Layout.pretty_blank⟩, compact nameless, pretty quoted, ?_⟩
  intro same
  exact Operation.noConfusion (apart .pretty Layout.pretty_blank nameless quoted same)

end Operation

end CanvasAlbum
